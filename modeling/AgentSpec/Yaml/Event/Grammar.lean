import AgentSpec.Yaml.Event

/-!
# The grammar of events

What is due in a document is a stack of frames; `Frame.step` takes the topmost one on by the next
tokens. The main statement, `step_lt`, says that a step takes a token or leaves less due.
-/

namespace AgentSpec.Yaml

/-- The handles of tags and what they stand for, the first entry for a handle being the one that
counts. -/
abbrev Handles := List (String × Bytes)

def defaultHandles : Handles :=
  [("!", bytesOf ['!']), ("!!", bytesOf "tag:yaml.org,2002:".toList)]

/-- What is due next in a document. -/
inductive Frame where
  | node (block indentless : Bool)
  | blockEntry (start : Place)
  | indentlessEntry
  | blockKey (start : Place)
  | blockValue (start : Place)
  /-- Only the first entry needs no comma before it. -/
  | flowEntry (start : Place) (first : Bool)
  /-- A single pair in a flow sequence. -/
  | pairKey
  | pairValue
  | pairEnd
  | flowKey (start : Place) (first : Bool)
  /-- A key without a key indicator has no value. -/
  | flowValue (start : Place) (keyOnly : Bool)

/-- What a step leads to. -/
structure Move where
  events : List Event
  frames : List Frame
  rest : List Token

namespace Frame

/-- A flaw, or nothing where the tokens run out. -/
abbrev Stop := Option Flaw

def stop (f : Flaw) : Except Stop Move := .error (some f)

/-! ## Nodes -/

/-- An anchor and a tag in either order, the tag with its place. -/
structure Written where
  anchor? : Option String
  tag? : Option (TagName × Place)
  rest : List Token

def properties : List Token → Written
  | ⟨.anchor a, _⟩ :: ⟨.tag t, p⟩ :: ts => ⟨some a, some (t, p), ts⟩
  | ⟨.anchor a, _⟩ :: ts => ⟨some a, none, ts⟩
  | ⟨.tag t, p⟩ :: ⟨.anchor a, _⟩ :: ts => ⟨some a, some (t, p), ts⟩
  | ⟨.tag t, p⟩ :: ts => ⟨none, some (t, p), ts⟩
  | ts => ⟨none, none, ts⟩

/-- A tag without a handle stands for itself. -/
def expandTag (handles : Handles) (start : Place) :
    Option (TagName × Place) → Except Stop (Option Bytes)
  | none => .ok none
  | some (t, p) =>
    if t.handle = "" then .ok (some t.suffix)
    else
      match handles.lookup t.handle with
      | some meaning => .ok (some (meaning ++ t.suffix))
      | none => .error (some (.within .node start .undefinedHandle p))

/-- The content of a node whose properties `p` began at `start`. -/
def content (block indentless : Bool) (start : Place) (p : Properties) (token : Token)
    (rest : List Token) : Except Stop Move :=
  match token.kind with
  | .scalar text plain => .ok ⟨[⟨.scalar p text plain, start⟩], [], rest⟩
  | .flowSequenceStart => .ok ⟨[⟨.sequenceStart p, start⟩], [flowEntry token.place true], rest⟩
  | .flowMappingStart => .ok ⟨[⟨.mappingStart p, start⟩], [flowKey token.place true], rest⟩
  | kind =>
    if indentless ∧ kind = .blockEntry then
      .ok ⟨[⟨.sequenceStart p, start⟩], [indentlessEntry], token :: rest⟩
    else if block ∧ kind = .blockSequenceStart then
      .ok ⟨[⟨.sequenceStart p, start⟩], [blockEntry token.place], rest⟩
    else if block ∧ kind = .blockMappingStart then
      .ok ⟨[⟨.mappingStart p, start⟩], [blockKey token.place], rest⟩
    else if p = .none then
      stop (.within (if block then .blockNode else .flowNode) start .expectedNode token.place)
    else .ok ⟨[⟨.scalar p "" true, start⟩], [], token :: rest⟩

def stepNode (handles : Handles) (block indentless : Bool) : List Token → Except Stop Move
  | [] => .error none
  | ⟨.aliasOf name, place⟩ :: rest => .ok ⟨[⟨.aliasOf name, place⟩], [], rest⟩
  | first :: more =>
    let w := properties (first :: more)
    match w.rest with
    | [] => .error none
    | token :: rest =>
      match expandTag handles first.place w.tag? with
      | .error e => .error e
      | .ok tag? => content block indentless first.place ⟨w.anchor?, tag?⟩ token rest

/-! ## Parts of collections -/

/-- The value due after an indicator, which is missing where one of the kinds `ends` follows. -/
def due (ends : List TokenKind) (node after : Frame) : List Token → Except Stop Move
  | [] => .error none
  | token :: rest =>
    if ends.contains token.kind then .ok ⟨[.missing token.place], [after], token :: rest⟩
    else .ok ⟨[], [node, after], token :: rest⟩

/-- Pass a comma unless the part is the first of its collection. -/
def afterComma (activity : Activity) (problem : Problem) (closing : TokenKind) (start : Place)
    (first : Bool) : List Token → Except Stop (List Token)
  | [] => .error none
  | token :: rest =>
    if first ∨ token.kind = closing then .ok (token :: rest)
    else if token.kind = .flowEntry then .ok rest
    else .error (some (.within activity start problem token.place))

def stepBlockEntry (start : Place) : List Token → Except Stop Move
  | [] => .error none
  | token :: rest =>
    if token.kind = .blockEntry then
      due [.blockEntry, .blockEnd] (node true false) (blockEntry start) rest
    else if token.kind = .blockEnd then .ok ⟨[⟨.sequenceEnd, token.place⟩], [], rest⟩
    else stop (.within .blockCollection start .expectedEntry token.place)

def stepIndentlessEntry : List Token → Except Stop Move
  | [] => .error none
  | token :: rest =>
    if token.kind = .blockEntry then
      due [.blockEntry, .key, .value, .blockEnd] (node true false) indentlessEntry rest
    else .ok ⟨[⟨.sequenceEnd, token.place⟩], [], token :: rest⟩

def stepBlockKey (start : Place) : List Token → Except Stop Move
  | [] => .error none
  | token :: rest =>
    if token.kind = .key then
      due [.key, .value, .blockEnd] (node true true) (blockValue start) rest
    else if token.kind = .blockEnd then .ok ⟨[⟨.mappingEnd, token.place⟩], [], rest⟩
    else stop (.within .blockMapping start .expectedKey token.place)

def stepBlockValue (start : Place) : List Token → Except Stop Move
  | [] => .error none
  | token :: rest =>
    if token.kind = .value then
      due [.key, .value, .blockEnd] (node true true) (blockKey start) rest
    else .ok ⟨[.missing token.place], [blockKey start], token :: rest⟩

def stepFlowEntry (start : Place) (first : Bool) (ts : List Token) : Except Stop Move :=
  match afterComma .flowSequence .expectedSequenceEnd .flowSequenceEnd start first ts with
  | .error e => .error e
  | .ok [] => .error none
  | .ok (token :: rest) =>
    if token.kind = .flowSequenceEnd then .ok ⟨[⟨.sequenceEnd, token.place⟩], [], rest⟩
    else if token.kind = .key then
      .ok ⟨[⟨.mappingStart .none, token.place⟩], [pairKey, flowEntry start false], rest⟩
    else .ok ⟨[], [node false false, flowEntry start false], token :: rest⟩

/-- A key that is missing takes the token that shows it with it. -/
def stepPairKey : List Token → Except Stop Move
  | [] => .error none
  | token :: rest =>
    if [TokenKind.value, .flowEntry, .flowSequenceEnd].contains token.kind then
      .ok ⟨[.missing token.place], [pairValue], rest⟩
    else .ok ⟨[], [node false false, pairValue], token :: rest⟩

def stepPairValue : List Token → Except Stop Move
  | [] => .error none
  | token :: rest =>
    if token.kind = .value then
      due [.flowEntry, .flowSequenceEnd] (node false false) pairEnd rest
    else .ok ⟨[.missing token.place], [pairEnd], token :: rest⟩

def stepPairEnd : List Token → Except Stop Move
  | [] => .error none
  | token :: rest => .ok ⟨[⟨.mappingEnd, token.place⟩], [], token :: rest⟩

def stepFlowKey (start : Place) (first : Bool) (ts : List Token) : Except Stop Move :=
  match afterComma .flowMapping .expectedMappingEnd .flowMappingEnd start first ts with
  | .error e => .error e
  | .ok [] => .error none
  | .ok (token :: rest) =>
    if token.kind = .flowMappingEnd then .ok ⟨[⟨.mappingEnd, token.place⟩], [], rest⟩
    else if token.kind = .key then
      due [.value, .flowEntry, .flowMappingEnd] (node false false) (flowValue start false) rest
    else .ok ⟨[], [node false false, flowValue start true], token :: rest⟩

def stepFlowValue (start : Place) (keyOnly : Bool) : List Token → Except Stop Move
  | [] => .error none
  | token :: rest =>
    if keyOnly ∨ token.kind ≠ .value then
      .ok ⟨[.missing token.place], [flowKey start false], token :: rest⟩
    else due [.flowEntry, .flowMappingEnd] (node false false) (flowKey start false) rest

def step (handles : Handles) : Frame → List Token → Except Stop Move
  | node block indentless => stepNode handles block indentless
  | blockEntry start => stepBlockEntry start
  | indentlessEntry => stepIndentlessEntry
  | blockKey start => stepBlockKey start
  | blockValue start => stepBlockValue start
  | flowEntry start first => stepFlowEntry start first
  | pairKey => stepPairKey
  | pairValue => stepPairValue
  | pairEnd => stepPairEnd
  | flowKey start first => stepFlowKey start first
  | flowValue start keyOnly => stepFlowValue start keyOnly

/-! ## Progress -/

/-- How many steps a frame can take without a token, and what those leave due. -/
def weight : Frame → Nat
  | node _ _ => 2
  | blockEntry _ => 1
  | indentlessEntry => 1
  | blockKey _ => 1
  | blockValue _ => 2
  | flowEntry _ first => if first then 4 else 1
  | pairKey => 5
  | pairValue => 2
  | pairEnd => 1
  | flowKey _ first => if first then 5 else 1
  | flowValue _ _ => 2

def totalWeight (fs : List Frame) : Nat := fs.foldr (fun f n => f.weight + n) 0

theorem totalWeight_append (fs gs : List Frame) :
    totalWeight (fs ++ gs) = totalWeight fs + totalWeight gs := by
  induction fs with
  | nil => simp [totalWeight]
  | cons f fs ih =>
    simp only [totalWeight, List.cons_append, List.foldr_cons] at ih ⊢
    omega

/-- That a step from `f` takes a token or leaves less due. -/
def Shorter (f : Frame) (ts : List Token) (x : Except Stop Move) : Prop :=
  ∀ m, x = .ok m → m.rest.length < ts.length
    ∨ m.rest.length = ts.length ∧ totalWeight m.frames < f.weight

theorem properties_le (ts : List Token) : (properties ts).rest.length ≤ ts.length := by
  unfold properties
  split <;> simp <;> omega

theorem content_le {block indentless : Bool} {start : Place} {p : Properties} {token : Token}
    {rest : List Token} {m : Move} (h : content block indentless start p token rest = .ok m) :
    m.rest.length ≤ rest.length
      ∨ m.rest.length = rest.length + 1 ∧ totalWeight m.frames < 2 := by
  unfold content stop at h
  repeat' split at h
  all_goals cases h
  all_goals simp [totalWeight, weight]

theorem stepNode_shorter (handles : Handles) (block indentless : Bool) (ts : List Token) :
    Shorter (node block indentless) ts (stepNode handles block indentless ts) := by
  unfold stepNode
  intro m h
  split at h
  · cases h
  · cases h
    simp
  · dsimp only at h
    rename_i first more _
    have hp := properties_le (first :: more)
    split at h
    · cases h
    · rename_i hr
      rw [hr] at hp
      split at h
      · cases h
      · have := content_le h
        simp [weight] at *
        omega

theorem due_length {ends : List TokenKind} {n after : Frame} {ts : List Token} {m : Move}
    (h : due ends n after ts = .ok m) : m.rest.length = ts.length := by
  unfold due at h
  repeat' split at h
  all_goals cases h
  all_goals rfl

theorem due_shorter {ends : List TokenKind} {n after f : Frame} {token : Token} {ts : List Token} :
    Shorter f (token :: ts) (due ends n after ts) := by
  intro m h
  simp [due_length h]

theorem stepBlockEntry_shorter (start : Place) (ts : List Token) :
    Shorter (blockEntry start) ts (stepBlockEntry start ts) := by
  unfold stepBlockEntry stop
  split
  · simp [Shorter]
  · split
    · exact due_shorter
    · split
      all_goals simp [Shorter]

theorem stepIndentlessEntry_shorter (ts : List Token) :
    Shorter indentlessEntry ts (stepIndentlessEntry ts) := by
  unfold stepIndentlessEntry
  split
  · simp [Shorter]
  · split
    · exact due_shorter
    · simp [Shorter, totalWeight, weight]

theorem stepBlockKey_shorter (start : Place) (ts : List Token) :
    Shorter (blockKey start) ts (stepBlockKey start ts) := by
  unfold stepBlockKey stop
  split
  · simp [Shorter]
  · split
    · exact due_shorter
    · split
      all_goals simp [Shorter]

theorem stepBlockValue_shorter (start : Place) (ts : List Token) :
    Shorter (blockValue start) ts (stepBlockValue start ts) := by
  unfold stepBlockValue
  split
  · simp [Shorter]
  · split
    · exact due_shorter
    · simp [Shorter, totalWeight, weight]

theorem afterComma_le {activity : Activity} {problem : Problem} {closing : TokenKind}
    {start : Place} {first : Bool} {ts us : List Token}
    (h : afterComma activity problem closing start first ts = .ok us) :
    us.length < ts.length ∨
      us.length = ts.length ∧ (first = true ∨ ∃ t r, us = t :: r ∧ t.kind = closing) := by
  unfold afterComma at h
  repeat' split at h
  all_goals cases h
  · rename_i h
    simp only [true_and, List.length_cons] at *
    grind
  · simp

theorem stepFlowEntry_shorter (start : Place) (first : Bool) (ts : List Token) :
    Shorter (flowEntry start first) ts (stepFlowEntry start first ts) := by
  unfold stepFlowEntry
  split
  · simp [Shorter]
  · simp [Shorter]
  · rename_i ha
    have hl := afterComma_le ha
    intro m h
    repeat' split at h
    all_goals cases h
    · simp at hl ⊢
      omega
    · simp at hl ⊢
      omega
    · simp [totalWeight, weight] at hl ⊢
      grind

theorem stepPairKey_shorter (ts : List Token) : Shorter pairKey ts (stepPairKey ts) := by
  unfold stepPairKey
  split
  · simp [Shorter]
  · split
    all_goals simp [Shorter, totalWeight, weight]

theorem stepPairValue_shorter (ts : List Token) : Shorter pairValue ts (stepPairValue ts) := by
  unfold stepPairValue
  split
  · simp [Shorter]
  · split
    · exact due_shorter
    · simp [Shorter, totalWeight, weight]

theorem stepPairEnd_shorter (ts : List Token) : Shorter pairEnd ts (stepPairEnd ts) := by
  unfold stepPairEnd
  split
  all_goals simp [Shorter, totalWeight, weight]

theorem stepFlowKey_shorter (start : Place) (first : Bool) (ts : List Token) :
    Shorter (flowKey start first) ts (stepFlowKey start first ts) := by
  unfold stepFlowKey
  split
  · simp [Shorter]
  · simp [Shorter]
  · rename_i ha
    have hl := afterComma_le ha
    intro m h
    split at h
    · cases h
      simp at hl ⊢
      omega
    · split at h
      · rw [due_length h]
        simp at hl ⊢
        omega
      · cases h
        simp [totalWeight, weight] at hl ⊢
        grind

theorem stepFlowValue_shorter (start : Place) (keyOnly : Bool) (ts : List Token) :
    Shorter (flowValue start keyOnly) ts (stepFlowValue start keyOnly ts) := by
  unfold stepFlowValue
  split
  · simp [Shorter]
  · split
    · simp [Shorter, totalWeight, weight]
    · exact due_shorter

theorem step_shorter (handles : Handles) (f : Frame) (ts : List Token) :
    Shorter f ts (f.step handles ts) := by
  cases f with
  | node block indentless => exact stepNode_shorter handles block indentless ts
  | blockEntry start => exact stepBlockEntry_shorter start ts
  | indentlessEntry => exact stepIndentlessEntry_shorter ts
  | blockKey start => exact stepBlockKey_shorter start ts
  | blockValue start => exact stepBlockValue_shorter start ts
  | flowEntry start first => exact stepFlowEntry_shorter start first ts
  | pairKey => exact stepPairKey_shorter ts
  | pairValue => exact stepPairValue_shorter ts
  | pairEnd => exact stepPairEnd_shorter ts
  | flowKey start first => exact stepFlowKey_shorter start first ts
  | flowValue start keyOnly => exact stepFlowValue_shorter start keyOnly ts

end Frame

/-! ## Running a stack -/

/-- The events of a stack of frames, and what is left once nothing is due. -/
structure Derivation where
  events : List Event
  outcome : Except Frame.Stop (List Token)

/-- Take the frames one after the other, each with what it leads to. -/
def derive (handles : Handles) (fs : List Frame) (ts : List Token) : Derivation :=
  match fs with
  | [] => ⟨[], .ok ts⟩
  | f :: fs =>
    match _ : f.step handles ts with
    | .error stop => ⟨[], .error stop⟩
    | .ok m =>
      let more := derive handles (m.frames ++ fs) m.rest
      ⟨m.events ++ more.events, more.outcome⟩
termination_by (ts.length, Frame.totalWeight fs)
decreasing_by
  rcases Frame.step_shorter handles f ts m ‹_› with h | ⟨h, hw⟩
  · exact Prod.Lex.left _ _ h
  · rw [h]
    refine Prod.Lex.right _ ?_
    rw [Frame.totalWeight_append]
    simp only [Frame.totalWeight, List.foldr_cons] at hw ⊢
    omega

end AgentSpec.Yaml
