import AgentSpec.Text.Blank
import AgentSpec.Yaml.Anchor
import AgentSpec.Yaml.Error

/-!
# Reading YAML

The nodes of a document are read into a tree, an alias by reading the nodes that it stands for. An
alias may stand for a node that holds it; the reading ends all the same, since nesting and the
number of aliases are limited.
-/

namespace AgentSpec.Yaml

/-- Where a reading stands: the nodes ahead and how many aliases may yet be followed. -/
structure Stand where
  ahead : List Node
  aliases : Nat

namespace Stand

/-- Fewer aliases to follow, or as many and fewer nodes ahead. -/
def Beyond (t s : Stand) : Prop :=
  t.aliases < s.aliases ∨ t.aliases = s.aliases ∧ t.ahead.length < s.ahead.length

theorem Beyond.trans {s t u : Stand} (h : u.Beyond t) (g : t.Beyond s) : u.Beyond s := by
  unfold Beyond at *
  omega

theorem beyond_of_cons {s : Stand} {n : Node} {rest : List Node} (h : s.ahead = n :: rest) :
    Beyond ⟨rest, s.aliases⟩ s := by
  right
  simp [h]

theorem beyond_of_alias {s : Stand} {j k : Nat} (h : s.aliases = j + 1) (hk : k ≤ j)
    (rest : List Node) : Beyond ⟨rest, k⟩ s := by
  left
  simp only [h]
  omega

theorem aliases_le {s t : Stand} (h : t.Beyond s) : t.aliases ≤ s.aliases := by
  unfold Beyond at h
  omega

/-- How much is left of a reading whose next step is of the kind `k`. -/
abbrev left (s : Stand) (k : Nat) : Nat × Nat × Nat := (s.aliases, s.ahead.length, k)

theorem left_lt {s t : Stand} (h : t.Beyond s) (j k : Nat) :
    Prod.Lex (· < ·) (Prod.Lex (· < ·) (· < ·)) (t.left j) (s.left k) := by
  rcases h with h | ⟨h, g⟩
  · exact .left _ _ h
  · simp only [left, h]
    exact .right _ (.left _ _ g)

theorem left_lt_self (s : Stand) :
    Prod.Lex (· < ·) (Prod.Lex (· < ·) (· < ·)) (s.left 0) (s.left 1) :=
  .right _ (.right _ Nat.one_pos)

/-- The stand after something has been read. -/
abbrev Next (s : Stand) := { t : Stand // t.Beyond s }

def Next.trans {s : Stand} (r : Next s) (t : Next r.val) : Next s :=
  ⟨t.val, t.property.trans r.property⟩

end Stand

/-- What does not change in the course of a reading. -/
structure Source where
  bound : Bound
  /-- What is wrong where the nodes run out. -/
  ending : Error

namespace Source

abbrev Step (α : Type) (s : Stand) := Except Error (α × s.Next)

/-- A key and the path of its value. -/
def key (src : Source) (path : NodePath) (first : Bool) (s : Stand) : Step (String × NodePath) s :=
  match h : s.ahead with
  | [] => .error src.ending
  | n :: rest =>
    let next : s.Next := ⟨⟨rest, s.aliases⟩, Stand.beyond_of_cons h⟩
    match n.kind with
    | .scalar _ text _ => .ok ((text, .field path text), next)
    | .sequenceStart _ => .error (.mismatch (.sequenceKey first) path n.place)
    | .mappingStart _ => .error (.mismatch (.mappingKey first) path n.place)
    | .aliasOf slot =>
      match ha : s.aliases, src.bound.target slot with
      | 0, _ => .error .tooManyAliases
      | j + 1, ⟨.scalar _ text _, _⟩ :: _ =>
        .ok ((text, .unnamedField path), ⟨⟨rest, j⟩, Stand.beyond_of_alias ha (Nat.le_refl _) rest⟩)
      | _ + 1, ⟨.sequenceStart _, place⟩ :: _ => .error (.mismatch (.sequenceKey first) path place)
      | _ + 1, ⟨.mappingStart _, place⟩ :: _ => .error (.mismatch (.mappingKey first) path place)
      | _ + 1, _ => .error src.ending
    | _ => .error src.ending

def hasLocalTag (tag? : Option Bytes) : Bool := tag?.any Scalar.isLocal

mutual

/-- A value that may hold `depth` levels of sequences and mappings. -/
def value (src : Source) (path : NodePath) (depth : Nat) (s : Stand) : Step Tree s :=
  match h : s.ahead with
  | [] => .error src.ending
  | n :: rest =>
    let next : s.Next := ⟨⟨rest, s.aliases⟩, Stand.beyond_of_cons h⟩
    match n.kind with
    | .aliasOf slot =>
      match ha : s.aliases with
      | 0 => .error .tooManyAliases
      | j + 1 =>
        match value src path depth ⟨src.bound.target slot, j⟩ with
        | .error e => .error e
        | .ok (t, r) =>
          .ok (t, ⟨⟨rest, r.val.aliases⟩,
            Stand.beyond_of_alias ha (Stand.aliases_le r.property) rest⟩)
    | .scalar tag? text plain =>
      if hasLocalTag tag? then .error (.mismatch .localTag path n.place)
      else
        match Scalar.value tag? text plain with
        | .error m => .error (.mismatch m path n.place)
        | .ok t => .ok (t, next)
    | .sequenceStart tag? =>
      if hasLocalTag tag? then .error (.mismatch .localTag path n.place)
      else if depth = 0 then .error (.tooDeep n.place)
      else
        match items src path (depth - 1) 0 next.val with
        | .error e => .error e
        | .ok (ts, r) => .ok (.sequence ts, next.trans r)
    | .mappingStart tag? =>
      if hasLocalTag tag? then .error (.mismatch .localTag path n.place)
      else if depth = 0 then .error (.tooDeep n.place)
      else
        match fields src path (depth - 1) true next.val with
        | .error e => .error e
        | .ok (fs, r) => .ok (Tree.ofFields fs, next.trans r)
    | .sequenceEnd => .error src.ending
    | .mappingEnd => .error src.ending
termination_by s.left 0
decreasing_by
  · exact Stand.left_lt (Stand.beyond_of_alias ha (Nat.le_refl j) _) 0 0
  · exact Stand.left_lt (Stand.beyond_of_cons h) 1 0
  · exact Stand.left_lt (Stand.beyond_of_cons h) 1 0

/-- The items of a sequence from position `index` on. -/
def items (src : Source) (path : NodePath) (depth index : Nat) (s : Stand) : Step (List Tree) s :=
  match h : s.ahead with
  | [] => .error src.ending
  | n :: rest =>
    if n.kind = .sequenceEnd then .ok ([], ⟨⟨rest, s.aliases⟩, Stand.beyond_of_cons h⟩)
    else
      match value src (.item path index) depth s with
      | .error e => .error e
      | .ok (t, r) =>
        match items src path depth (index + 1) r.val with
        | .error e => .error e
        | .ok (ts, u) => .ok (t :: ts, r.trans u)
termination_by s.left 1
decreasing_by
  · exact s.left_lt_self
  · exact Stand.left_lt r.property 1 1

/-- The fields of a mapping from its next key on. -/
def fields (src : Source) (path : NodePath) (depth : Nat) (first : Bool) (s : Stand) :
    Step (List (String × Tree)) s :=
  match h : s.ahead with
  | [] => .error src.ending
  | n :: rest =>
    if n.kind = .mappingEnd then .ok ([], ⟨⟨rest, s.aliases⟩, Stand.beyond_of_cons h⟩)
    else
      match key src path first s with
      | .error e => .error e
      | .ok ((name, valuePath), r) =>
        match value src valuePath depth r.val with
        | .error e => .error e
        | .ok (t, u) =>
          match fields src path depth false u.val with
          | .error e => .error e
          | .ok (fs, v) => .ok ((name, t) :: fs, (r.trans u).trans v)
termination_by s.left 1
decreasing_by
  · exact Stand.left_lt r.property 0 1
  · exact Stand.left_lt (u.property.trans r.property) 1 1

end

end Source

/-! ## Texts -/

def maxDepth : Nat := 128

def aliasesPerNode : Nat := 100

/-- The error that stands for the end of the nodes. -/
def endingError (unknown? : Option Place) (ending : Ending) : Option Error :=
  match unknown?, ending with
  | some place, _ => some (.unknownAnchor place)
  | none, .flaw f => some (.flaw f)
  | none, .furtherDocument => some .furtherDocument
  | none, .complete => none

/-- The tree of a stream of events. What is wrong with a value counts before what is wrong with
the text after it. -/
def treeOfEvents (s : EventStream) : Except Error Tree :=
  match s.events, s.ending with
  | [], .complete => .ok .null
  | events, ending =>
    let bound := Bound.ofEvents [] events
    let last := endingError bound.unknown? ending
    let src : Source := ⟨bound, last.getD .furtherDocument⟩
    match src.value .root maxDepth ⟨bound.nodes, aliasesPerNode * bound.nodes.length⟩ with
    | .error e => .error e
    | .ok (t, _) =>
      match last with
      | some e => .error e
      | none => .ok t

/-- The offset of the first character that no text may hold. -/
def forbiddenOffset? (text : String) : Option Nat :=
  let before := text.toList.takeWhile isAllowed
  if before.length = text.toList.length then none else some (Text.byteLength before)

/-- The one document that the text holds; a blank text holds null. A character that no text may hold
counts before all else. That is so within a text's first 16384 bytes, which are decoded before they
are scanned; further on, where one such part after another is decoded, a flaw in an earlier part
would be met first, which is not told apart here. -/
def read (text : String) : Except Error Tree :=
  if Text.isBlank text then .ok .null
  else
    match forbiddenOffset? text with
    | some offset => .error (.forbiddenCharacter offset)
    | none => treeOfEvents (EventStream.ofText text)

end AgentSpec.Yaml
