import AgentSpec.Yaml.Cursor
import AgentSpec.Yaml.Problem

/-!
# Tags

A tag is written as a handle and a suffix. The suffix is a sequence of bytes, since its escapes need
not spell characters; a zero byte ends it.
-/

namespace AgentSpec.Yaml

open Cursor

abbrev Bytes := List UInt8

def bytesOf (cs : List Char) : Bytes := cs.flatMap String.utf8EncodeChar

/-- A tag that a directive or the default has not yet expanded. -/
structure TagName where
  handle : String
  suffix : Bytes
  deriving DecidableEq, Repr

namespace TagName

/-- How many bytes the character has that begins with this byte; zero if none does. -/
def sequenceLength (b : Nat) : Nat :=
  if b < 0x80 then 1
  else if b / 32 = 6 then 2
  else if b / 16 = 14 then 3
  else if b / 8 = 30 then 4
  else 0

/-- The bytes that URI characters spell, or a problem and how many characters stand after it. `owed`
bytes are still due to the character begun last. -/
def decode (owed : Nat) : List Char → Except (Problem × Nat) Bytes
  | [] => if owed = 0 then .ok [] else .error (.expectedOctet, 0)
  | '%' :: a :: b :: r =>
    match Text.hexValue? a, Text.hexValue? b with
    | some x, some y =>
      let octet := 16 * x + y
      if owed = 0 then
        if sequenceLength octet = 0 then .error (.leadingOctet, r.length + 3)
        else (decode (sequenceLength octet - 1) r).map (octet.toUInt8 :: ·)
      else if octet / 64 = 2 then (decode (owed - 1) r).map (octet.toUInt8 :: ·)
      else .error (.trailingOctet, r.length + 3)
    | _, _ => .error (.expectedOctet, r.length + 3)
  | c :: r =>
    if owed ≠ 0 ∨ c = '%' then .error (.expectedOctet, r.length + 1)
    else (decode 0 r).map (bytesOf [c] ++ ·)

def untilZero (bs : Bytes) : Bytes := bs.takeWhile (· != 0)

/-- The URI at `c`. `verbatim` admits more characters; something must be there unless
`mayBeEmpty`. -/
def uri (activity : Activity) (verbatim mayBeEmpty : Bool) (start : Place) (c : Cursor) :
    Except Flaw (Bytes × Cursor) :=
  let (run, d) := c.span (isUriChar verbatim)
  match decode 0 run with
  | .error (problem, left) =>
    .error (.within activity start problem (c.advance (run.length - left)).place)
  | .ok bytes =>
    if run.isEmpty ∧ !mayBeEmpty then .error (.within activity start .expectedUri d.place)
    else .ok (untilZero bytes, d)

/-- An exclamation mark and word characters; a closed handle ends in another exclamation mark. -/
structure Handle where
  text : List Char
  closed : Bool

def handleAt (activity : Activity) (start : Place) (c : Cursor) : Except Flaw (Handle × Cursor) :=
  if c.peek? ≠ some '!' then .error (.within activity start .expectedBang c.place)
  else
    let (word, d) := (c.advance 1).span isWordChar
    if d.peek? = some '!' then .ok (⟨'!' :: (word ++ ['!']), true⟩, d.advance 1)
    else .ok (⟨'!' :: word, false⟩, d)

/-- A tag between angle brackets. -/
def verbatim (c : Cursor) : Except Flaw (TagName × Cursor) := do
  let (suffix, d) ← uri .tagUri true false c.place (c.advance 2)
  if d.peek? ≠ some '>' then .error (.within .tag c.place .expectedAngle d.place)
  else return (⟨"", suffix⟩, d.advance 1)

/-- A tag with a handle, or one whose word belongs to its suffix. The lone mark is a suffix. -/
def shorthand (c : Cursor) : Except Flaw (TagName × Cursor) := do
  let (h, d) ← handleAt .tag c.place c
  if h.closed then
    let (suffix, e) ← uri .tagUri false false c.place d
    return (⟨String.ofList h.text, suffix⟩, e)
  else
    let (more, e) ← uri .tagUri false true c.place d
    let suffix := bytesOf (h.text.drop 1) ++ more
    if suffix.isEmpty then return (⟨"", bytesOf ['!']⟩, e) else return (⟨"!", suffix⟩, e)

def written (c : Cursor) : Except Flaw (TagName × Cursor) :=
  if c.peekAt? 1 = some '<' then verbatim c else shorthand c

/-- The tag whose exclamation mark is at `c`. -/
def scan (flow : Bool) (c : Cursor) : Except Flaw (TagName × Cursor) := do
  let (t, d) ← written c
  if isSeparator d.peek? || (flow && d.peek? == some ',') then return (t, d)
  else .error (.within .tag c.place .expectedSeparator d.place)

/-! ## What a reading leaves -/

theorem uri_leaves (activity : Activity) (verbatim mayBeEmpty : Bool) (start : Place)
    (c : Cursor) : Leaves c.rest.length (uri activity verbatim mayBeEmpty start c) := by
  unfold uri
  dsimp only
  repeat' split
  · exact .error
  · exact .error
  · exact .ok (length_span_le _ c)

theorem handleAt_leaves (activity : Activity) (start : Place) (c : Cursor) :
    Leaves (c.rest.length - 1) (handleAt activity start c) := by
  have h : ((c.advance 1).span isWordChar).2.rest.length ≤ c.rest.length - 1 :=
    Nat.le_trans (length_span_le _ _) (by simp)
  unfold handleAt
  dsimp only
  repeat' split
  · exact .error
  · exact .ok (by rw [length_advance]; omega)
  · exact .ok h

theorem verbatim_leaves (c : Cursor) : Leaves (c.rest.length - 1) (verbatim c) := by
  refine Leaves.bind ((uri_leaves _ _ _ _ (c.advance 2)).mono (by simp; omega)) fun s d hd => ?_
  dsimp only
  split
  · exact .error
  · exact .ok (by simp only [length_advance]; omega)

theorem shorthand_leaves (c : Cursor) : Leaves (c.rest.length - 1) (shorthand c) := by
  refine Leaves.bind (handleAt_leaves _ _ c) fun h d hd => ?_
  dsimp only
  split
  · exact ((uri_leaves _ _ _ _ d).mono hd).bind fun s e he => .ok he
  · refine ((uri_leaves _ _ _ _ d).mono hd).bind fun s e he => ?_
    dsimp only
    split
    · exact .ok he
    · exact .ok he

theorem written_leaves (c : Cursor) : Leaves (c.rest.length - 1) (written c) := by
  unfold written
  split
  · exact verbatim_leaves c
  · exact shorthand_leaves c

theorem scan_leaves (flow : Bool) (c : Cursor) : Leaves (c.rest.length - 1) (scan flow c) := by
  refine (written_leaves c).bind fun t d hd => ?_
  dsimp only
  split
  · exact .ok hd
  · exact .error

end TagName
end AgentSpec.Yaml
