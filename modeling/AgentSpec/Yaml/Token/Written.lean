import AgentSpec.Yaml.Scalar.Block
import AgentSpec.Yaml.Scalar.Plain
import AgentSpec.Yaml.Scalar.Quoted
import AgentSpec.Yaml.Token

/-!
# Written tokens

Up to four characters tell which token begins at a cursor; `Beginning.read` then reads it. The main
statement, `read_leaves`, says that reading a token moves on.
-/

namespace AgentSpec.Yaml

open Cursor

/-- What begins with the next character. -/
inductive Beginning where
  | directive
  | documentStart
  | documentEnd
  | flowSequenceStart
  | flowSequenceEnd
  | flowMappingStart
  | flowMappingEnd
  | flowEntry
  | blockEntry
  | key
  | value
  | aliasName
  | anchor
  | tag
  | block (literal : Bool)
  | quoted (single : Bool)
  | plain
  deriving DecidableEq, Repr

namespace Beginning

/-- The indicators that no plain scalar begins with, whatever follows. -/
def isReserved (c : Char) : Bool := isSpace c || "#%@\x60|>".toList.contains c

/-- A dash, a question mark and a colon are indicators only where a separator follows; in flow
context, the latter two always are. -/
def ofChar? (flow separated : Bool) (c : Char) : Option Beginning :=
  if c = '[' then some .flowSequenceStart
  else if c = '{' then some .flowMappingStart
  else if c = ']' then some .flowSequenceEnd
  else if c = '}' then some .flowMappingEnd
  else if c = ',' then some .flowEntry
  else if c = '-' ∧ separated then some .blockEntry
  else if c = '?' ∧ (flow || separated) then some .key
  else if c = ':' ∧ (flow || separated) then some .value
  else if c = '*' then some .aliasName
  else if c = '&' then some .anchor
  else if c = '!' then some .tag
  else if c = '|' ∧ !flow then some (.block true)
  else if c = '>' ∧ !flow then some (.block false)
  else if c = '\'' then some (.quoted true)
  else if c = '"' then some (.quoted false)
  else if isReserved c then none
  else some .plain

/-- What begins at `c`, if a token can begin there. -/
def at? (flow : Bool) (c : Cursor) : Option Beginning :=
  match c.peek? with
  | none => none
  | some ch =>
    if c.column = 0 ∧ ch = '%' then some .directive
    else if c.atMarker false then some .documentStart
    else if c.atMarker true then some .documentEnd
    else ofChar? flow (isSeparator (c.peekAt? 1)) ch

/-- A token and whether it runs on to a further line, where a key may begin. -/
structure Reading where
  kind : TokenKind
  newLine : Bool

/-- What may follow the name of an anchor. -/
def endsName : Option Char → Bool
  | none => true
  | some c => isSpace c || "?:,]\x7d%@\x60".toList.contains c

/-- The name after an ampersand or an asterisk. -/
def name (activity : Activity) (c : Cursor) : Except Flaw (String × Cursor) :=
  let (word, d) := (c.advance 1).span isWordChar
  if word.isEmpty ∨ !endsName d.peek? then
    .error (.within activity c.place .expectedWord d.place)
  else .ok (String.ofList word, d)

/-- The token that begins at `c`, inside a block indented by `indent`. -/
def read (flow : Bool) (indent : Int) (c : Cursor) : Beginning → Except Flaw (Reading × Cursor)
  | .directive => do
    let (d, e) ← Directive.scan c
    return (⟨.directive d, false⟩, e)
  | .documentStart => .ok (⟨.documentStart, false⟩, c.advance 3)
  | .documentEnd => .ok (⟨.documentEnd, false⟩, c.advance 3)
  | .flowSequenceStart => .ok (⟨.flowSequenceStart, false⟩, c.advance 1)
  | .flowSequenceEnd => .ok (⟨.flowSequenceEnd, false⟩, c.advance 1)
  | .flowMappingStart => .ok (⟨.flowMappingStart, false⟩, c.advance 1)
  | .flowMappingEnd => .ok (⟨.flowMappingEnd, false⟩, c.advance 1)
  | .flowEntry => .ok (⟨.flowEntry, false⟩, c.advance 1)
  | .blockEntry => .ok (⟨.blockEntry, false⟩, c.advance 1)
  | .key => .ok (⟨.key, false⟩, c.advance 1)
  | .value => .ok (⟨.value, false⟩, c.advance 1)
  | .aliasName => do
    let (n, e) ← name .aliasName c
    return (⟨.aliasOf n, false⟩, e)
  | .anchor => do
    let (n, e) ← name .anchor c
    return (⟨.anchor n, false⟩, e)
  | .tag => do
    let (t, e) ← TagName.scan flow c
    return (⟨.tag t, false⟩, e)
  | .block literal => do
    let (text, e) ← Block.scan literal indent c
    return (⟨.scalar text false, false⟩, e)
  | .quoted single => do
    let (text, e) ← Quoted.scan single c
    return (⟨.scalar text false, false⟩, e)
  | .plain => do
    let (s, e) ← Plain.scan ⟨c.place, indent + 1, flow⟩ c
    return (⟨.scalar s.text true, !s.gap.breaks.isEmpty⟩, e)

/-! ## What a reading leaves -/

theorem name_leaves (activity : Activity) (c : Cursor) :
    Leaves (c.rest.length - 1) (name activity c) := by
  have h : ((c.advance 1).span isWordChar).2.rest.length ≤ c.rest.length - 1 :=
    Nat.le_trans (length_span_le _ _) (by simp)
  unfold name
  dsimp only
  split
  · exact .error
  · exact .ok h

theorem read_leaves (flow : Bool) (indent : Int) (c : Cursor) (b : Beginning) :
    Leaves (c.rest.length - 1) (read flow indent c b) := by
  cases b with
  | directive => exact (Directive.scan_leaves c).bind fun _ _ h => .ok h
  | aliasName => exact (name_leaves _ c).bind fun _ _ h => .ok h
  | anchor => exact (name_leaves _ c).bind fun _ _ h => .ok h
  | tag => exact (TagName.scan_leaves flow c).bind fun _ _ h => .ok h
  | block literal => exact (Block.scan_leaves literal indent c).bind fun _ _ h => .ok h
  | quoted single => exact (Quoted.scan_leaves single c).bind fun _ _ h => .ok h
  | plain => exact (Plain.scan_leaves _ c).bind fun _ _ h => .ok h
  | documentStart => exact .ok (by rw [length_advance]; omega)
  | documentEnd => exact .ok (by rw [length_advance]; omega)
  | _ => exact .ok (Nat.le_of_eq (length_advance 1 c))

end Beginning
end AgentSpec.Yaml
