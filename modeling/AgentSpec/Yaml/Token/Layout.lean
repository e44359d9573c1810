import AgentSpec.Yaml.Token.Written

/-!
# Layout of tokens

The tokens that are not written: a block starts where a key or an entry is indented more than the
block around it, and ends where the indentation falls back; a colon makes a key of what precedes it
on its line. So the last tokens are held back as long as a key may still be put before them.
-/

namespace AgentSpec.Yaml

/-- A token that is the first of a key if a colon follows on its line. -/
structure PossibleKey where
  /-- How many tokens precede it. -/
  number : Nat
  /-- Whether nothing but a key can stand there. -/
  required : Bool
  place : Place
  line : Nat
  column : Nat
  deriving DecidableEq, Repr

structure Layout where
  cursor : Cursor
  /-- Whether the stream has ended. -/
  ended : Bool
  /-- The tokens held back. -/
  waiting : List Token
  /-- How many tokens were handed on before them. -/
  taken : Nat
  /-- The columns of the open blocks, innermost first. -/
  blocks : List Nat
  keyAllowed : Bool
  /-- The possible key of the innermost flow collection, or of the blocks outside any. -/
  key : Option PossibleKey
  /-- The possible keys further out, one for each open flow collection. -/
  outer : List (Option PossibleKey)
  deriving DecidableEq, Repr

namespace Layout

def ofText (text : String) : Layout := ⟨.ofText text, false, [], 0, [], true, none, []⟩

def place (s : Layout) : Place := ⟨s.cursor.offset, s.ended⟩

def inFlow (s : Layout) : Bool := !s.outer.isEmpty

def indent (s : Layout) : Int :=
  match s.blocks with
  | [] => -1
  | column :: _ => column

def add (s : Layout) (kind : TokenKind) : Layout :=
  { s with waiting := s.waiting ++ [⟨kind, s.place⟩] }

/-! ## Possible keys -/

/-- A key is confined to one line, and its colon to a thousand bytes. -/
def isStale (s : Layout) (k : PossibleKey) : Bool :=
  decide (k.line < s.cursor.line) || decide (k.place.offset + 1024 < s.cursor.offset)

def missingColon (s : Layout) (k : PossibleKey) : Flaw :=
  .within .simpleKey k.place .expectedColon s.place

/-- Give up the possible keys that can no longer be keys. -/
def expireKeys (s : Layout) : Except Flaw Layout :=
  let fresh := fun (k : Option PossibleKey) => k.filter fun k => !s.isStale k
  let overdue := fun (k : Option PossibleKey) => k.filter fun k => s.isStale k && k.required
  match (s.key :: s.outer).reverse.findSome? overdue with
  | some k => .error (s.missingColon k)
  | none => .ok { s with key := fresh s.key, outer := s.outer.map fresh }

/-- Give up the innermost possible key. -/
def dropKey (s : Layout) : Except Flaw Layout :=
  match s.key with
  | some k => if k.required then .error (s.missingColon k) else .ok { s with key := none }
  | none => .ok s

/-- Note that the next token may be a key. -/
def saveKey (s : Layout) : Except Flaw Layout := do
  if s.keyAllowed then
    let t ← s.dropKey
    let required := !s.inFlow && s.indent == (s.cursor.column : Int)
    return { t with
      key := some ⟨s.taken + s.waiting.length, required, s.place, s.cursor.line, s.cursor.column⟩ }
  else return s

/-- Whether a key may yet be put before the first of the tokens held back. -/
def awaitsKey (s : Layout) : Bool :=
  (s.key :: s.outer).any fun k => k.any fun k => k.number == s.taken

/-! ## Blocks -/

/-- Open a block at `column` unless one is open there, its start being the token `number`. -/
def openBlock (s : Layout) (column number : Nat) (start : Token) : Layout :=
  if !s.inFlow ∧ s.indent < (column : Int) then
    { s with
      blocks := column :: s.blocks
      waiting := s.waiting.insertIdx (number - s.taken) start }
  else s

/-- Open a block at the cursor. -/
def openBlockHere (s : Layout) (kind : TokenKind) : Layout :=
  s.openBlock s.cursor.column (s.taken + s.waiting.length) ⟨kind, s.place⟩

/-- Close the blocks that are indented more than `column`. -/
def closeBlocks (s : Layout) (column : Int) : Layout :=
  if s.inFlow then s
  else
    let isInner := fun (n : Nat) => decide (column < (n : Int))
    { s with
      blocks := s.blocks.dropWhile isInner
      waiting := s.waiting ++ (s.blocks.takeWhile isInner).map fun _ => ⟨.blockEnd, s.place⟩ }

/-! ## Tokens written -/

/-- Open a block for an entry or key at the cursor, where such may stand. -/
def beginEntry (s : Layout) (problem : Problem) (start : TokenKind) : Except Flaw Layout :=
  if s.inFlow then .ok s
  else if s.keyAllowed then .ok (s.openBlockHere start)
  else .error (.bare problem s.place)

/-- Put a key before the token that the value at the cursor belongs to. -/
def completeKey (s : Layout) (k : PossibleKey) : Layout :=
  let t := { s with
    waiting := s.waiting.insertIdx (k.number - s.taken) ⟨.key, k.place⟩
    key := none
    keyAllowed := false }
  t.openBlock k.column k.number ⟨.blockMappingStart, k.place⟩

/-- What a token that begins at the cursor does before it is read. -/
def prepare (s : Layout) : Beginning → Except Flaw Layout
  | .directive | .documentStart | .documentEnd => do
    let t ← (s.closeBlocks (-1)).dropKey
    return { t with keyAllowed := false }
  | .flowSequenceStart | .flowMappingStart => do
    let t ← s.saveKey
    return { t with key := none, outer := t.key :: t.outer, keyAllowed := true }
  | .flowSequenceEnd | .flowMappingEnd => do
    let t ← s.dropKey
    match t.outer with
    | [] => return { t with keyAllowed := false }
    | k :: ks => return { t with key := k, outer := ks, keyAllowed := false }
  | .flowEntry => do
    let t ← s.dropKey
    return { t with keyAllowed := true }
  | .blockEntry => do
    let t ← s.beginEntry .blockEntry .blockSequenceStart
    let t ← t.dropKey
    return { t with keyAllowed := true }
  | .key => do
    let t ← s.beginEntry .mappingKey .blockMappingStart
    let t ← t.dropKey
    return { t with keyAllowed := !t.inFlow }
  | .value =>
    match s.key with
    | some k => return s.completeKey k
    | none => do
      let t ← s.beginEntry .mappingValue .blockMappingStart
      return { t with keyAllowed := !t.inFlow }
  | .aliasName | .anchor | .tag | .quoted _ | .plain => do
    let t ← s.saveKey
    return { t with keyAllowed := false }
  | .block _ => do
    let t ← s.dropKey
    return { t with keyAllowed := true }

/-- Add the token that begins at the cursor. -/
def addWritten (s : Layout) (b : Beginning) : Except Flaw Layout := do
  let t ← s.prepare b
  let (r, d) ← b.read s.inFlow s.indent s.cursor
  return { t.add r.kind with cursor := d, keyAllowed := t.keyAllowed || r.newLine }

/-- Close everything that is open at the end of the text. -/
def finish (s : Layout) : Except Flaw Layout := do
  let c := s.cursor
  let s := { s with
    cursor := if c.column = 0 then c else ⟨c.rest, c.offset, c.line + 1, 0⟩
    ended := true }
  let t ← (s.closeBlocks (-1)).dropKey
  return { t.add .streamEnd with keyAllowed := false }

/-! ## Between tokens -/

/-- Pass a byte order mark, which may begin a line. -/
def skipMark (c : Cursor) : Cursor :=
  if c.column = 0 ∧ c.peek? = some byteOrderMark then ⟨c.rest.drop 1, c.offset + 3, c.line, 1⟩
  else c

/-- Pass what stands on a line before a token; where a key may begin, a tab does not count. -/
def skipInLine (tabs : Bool) (c : Cursor) : Cursor :=
  ((skipMark c).skip fun ch => ch == ' ' || (tabs && ch == '\t')).skipComment

theorem length_skipInLine_le (tabs : Bool) (c : Cursor) :
    (skipInLine tabs c).rest.length ≤ c.rest.length := by
  have h : (skipMark c).rest.length ≤ c.rest.length := by
    unfold skipMark
    split
    · simp
    · exact Nat.le_refl _
  exact Nat.le_trans (Cursor.length_skipComment_le _) (Nat.le_trans (Cursor.length_skip_le _ _) h)

/-- Pass blanks, comments and line breaks. A new line allows keys, but not in flow context. -/
def skipSpace (flow keyAllowed : Bool) (c : Cursor) : Bool × Cursor :=
  let d := skipInLine (flow || !keyAllowed) c
  match _ : d.lineBreak? with
  | some (_, e) => skipSpace flow (keyAllowed || !flow) e
  | none => (keyAllowed, d)
termination_by c.rest.length
decreasing_by exact Nat.lt_of_lt_of_le (Cursor.lineBreak?_lt ‹_›) (length_skipInLine_le _ c)

def toToken (s : Layout) : Layout :=
  let (keyAllowed, c) := skipSpace s.inFlow s.keyAllowed s.cursor
  { s with cursor := c, keyAllowed }

/-- Add what comes next: the token at the cursor, after the blocks that end before it. -/
def advance (s : Layout) : Except Flaw Layout := do
  let s ← s.toToken.expireKeys
  let s := s.closeBlocks s.cursor.column
  match s.cursor.rest with
  | [] => s.finish
  | _ :: _ =>
    match Beginning.at? s.inFlow s.cursor with
    | some b => s.addWritten b
    | none => .error (.within .nextToken s.place .noToken s.place)

end Layout
end AgentSpec.Yaml
