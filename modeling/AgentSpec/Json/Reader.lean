import AgentSpec.Json.Error
import AgentSpec.Json.Number
import AgentSpec.Text.Hexadecimal

/-!
# Reading JSON

The grammar is strict: no comments, no trailing commas, no leading zeros, and at most 127 nested
lists and objects. Each step returns what is left of the text together with the fact that it is
shorter, on which the recursion rests.
-/

namespace AgentSpec.Json

/-! ## Steps -/

/-- What is left of `s` after a step that read at least one character of it. -/
abbrev Rest (s : List Char) := { r : List Char // r.length < s.length }

def Rest.trans {s : List Char} (r : Rest s) (t : Rest r.val) : Rest s :=
  ⟨t.val, Nat.lt_trans t.property r.property⟩

/-- A failure says how many bytes of the text come after it. -/
structure Failure where
  cause : Cause
  left : Nat
  deriving DecidableEq, Repr

abbrev Step (α : Type) (s : List Char) := Except Failure (α × Rest s)

/-- Fail before the characters `s`. -/
def before (cause : Cause) (s : List Char) : Failure := ⟨cause, Text.byteLength s⟩

/-- Fail after the first byte of `s`, or at the end if there is none. -/
def within (cause : Cause) (s : List Char) : Failure := ⟨cause, Text.byteLength s - 1⟩

def isBlank (c : Char) : Bool := c == ' ' || c == '\n' || c == '\t' || c == '\r'

/-- The next character that is not blank. -/
def next? : (s : List Char) → Option (Char × Rest s)
  | [] => none
  | c :: s =>
    if isBlank c then
      (next? s).map fun (d, r) => (d, ⟨r.val, Nat.lt_succ_of_lt r.property⟩)
    else
      some (c, ⟨s, Nat.lt_succ_self _⟩)

/-- The rest of the word that `expected` continues. -/
def word (expected : List Char) (t : Tree) (s : List Char) :
    Except Failure (Tree × { r : List Char // r.length ≤ s.length }) :=
  match expected, s with
  | [], s => .ok (t, ⟨s, Nat.le_refl _⟩)
  | _ :: _, [] => .error (before .endInValue [])
  | e :: es, c :: s =>
    if c = e then
      match word es t s with
      | .ok (t, r) => .ok (t, ⟨r.val, Nat.le_succ_of_le r.property⟩)
      | .error f => .error f
    else .error (within .expectedWord (c :: s))

/-! ## Texts -/

def fourHex? (a b c d : Char) : Option Nat := do
  let w ← Text.hexValue? a
  let x ← Text.hexValue? b
  let y ← Text.hexValue? c
  let z ← Text.hexValue? d
  return ((w * 16 + x) * 16 + y) * 16 + z

/-- The four digits of an escape. Four bytes are taken before they are looked at. -/
def hex (s : List Char) : Step Nat s :=
  if Text.byteLength (s.take 4) < 4 then .error (before .endInText [])
  else
    match s with
    | a :: b :: c :: d :: r =>
      match fourHex? a b c d with
      | some n => .ok (n, ⟨r, by simp only [List.length_cons]; omega⟩)
      | none => .error ⟨.invalidEscape, Text.byteLength (a :: b :: c :: d :: r) - 4⟩
    | s => .error ⟨.invalidEscape, Text.byteLength s - 4⟩

/-- The second half of a surrogate pair, from its backslash on. -/
def lowSurrogate (s : List Char) : Step Nat s :=
  match s with
  | [] => .error (before .endInText [])
  | '\\' :: 'u' :: r =>
    match hex r with
    | .ok (n, t) => .ok (n, ⟨t.val, by have := t.property; simp only [List.length_cons]; omega⟩)
    | .error f => .error f
  | '\\' :: [] => .error (before .endInText [])
  | '\\' :: r => .error (within .endInSurrogatePair r)
  | s => .error (within .endInSurrogatePair s)

/-- The character of a Unicode escape whose letter has been read. -/
def unicodeEscape (s : List Char) : Step Char s :=
  match hex s with
  | .error f => .error f
  | .ok (n, r) =>
    if 0xDC00 ≤ n ∧ n ≤ 0xDFFF then .error (before .loneSurrogate r.val)
    else if 0xD800 ≤ n ∧ n ≤ 0xDBFF then
      match lowSurrogate r.val with
      | .error f => .error f
      | .ok (m, t) =>
        if 0xDC00 ≤ m ∧ m ≤ 0xDFFF then
          .ok (Char.ofNat (0x10000 + (n - 0xD800) * 0x400 + (m - 0xDC00)), r.trans t)
        else .error (before .loneSurrogate t.val)
    else .ok (Char.ofNat n, r)

def simpleEscape? (c : Char) : Option Char :=
  if c = '"' then some '"'
  else if c = '\\' then some '\\'
  else if c = '/' then some '/'
  else if c = 'b' then some '\x08'
  else if c = 'f' then some '\x0c'
  else if c = 'n' then some '\n'
  else if c = 'r' then some '\r'
  else if c = 't' then some '\t'
  else none

/-- The character of an escape whose backslash has been read. -/
def unescape (s : List Char) : Step Char s :=
  match s with
  | [] => .error (before .endInText [])
  | c :: r =>
    if c = 'u' then
      match unicodeEscape r with
      | .ok (d, t) => .ok (d, ⟨t.val, Nat.lt_succ_of_lt t.property⟩)
      | .error f => .error f
    else
      match simpleEscape? c with
      | some d => .ok (d, ⟨r, Nat.lt_succ_self _⟩)
      | none => .error (within .invalidEscape (c :: r))

/-- The characters of a text whose opening quote has been read, up to its closing quote. -/
def quoted (s : List Char) : Step (List Char) s :=
  match s with
  | [] => .error (before .endInText [])
  | c :: r =>
    if c = '"' then .ok ([], ⟨r, Nat.lt_succ_self _⟩)
    else if c = '\\' then
      match unescape r with
      | .error f => .error f
      | .ok (d, t) =>
        match quoted t.val with
        | .error f => .error f
        | .ok (cs, u) =>
          .ok (d :: cs, ⟨u.val, Nat.lt_succ_of_lt (Nat.lt_trans u.property t.property)⟩)
    else if c.toNat < 32 then .error (within .controlCharacter (c :: r))
    else
      match quoted r with
      | .error f => .error f
      | .ok (cs, u) => .ok (c :: cs, ⟨u.val, Nat.lt_succ_of_lt u.property⟩)
termination_by s.length
decreasing_by
  · have := t.property; simp only [List.length_cons]; omega
  · simp only [List.length_cons]; omega

/-! ## Numbers -/

def isDigit (c : Char) : Bool := '0' ≤ c && c ≤ '9'

/-- What is left of `s` after a step that may have read nothing. -/
abbrev Suffix (s : List Char) := { r : List Char // r.length ≤ s.length }

def Suffix.trans {s : List Char} (r : Suffix s) (t : Suffix r.val) : Suffix s :=
  ⟨t.val, Nat.le_trans t.property r.property⟩

def digits (s : List Char) : List Char × Suffix s :=
  (s.takeWhile isDigit, ⟨s.dropWhile isDigit, (List.dropWhile_sublist _).length_le⟩)

/-- The digits before the point; a zero stands alone. -/
def wholePart (s : List Char) : Step (List Char) s :=
  match s with
  | [] => .error (before .endInValue [])
  | c :: r =>
    if !isDigit c then .error (within .invalidNumber (c :: r))
    else
      let (ds, t) := digits r
      if c = '0' ∧ ds ≠ [] then .error (within .invalidNumber r)
      else .ok (c :: ds, ⟨t.val, Nat.lt_succ_of_le t.property⟩)

def fractionPart (s : List Char) : Except Failure (Option (List Char) × Suffix s) :=
  match s with
  | '.' :: r =>
    match digits r with
    | ([], t) =>
      if t.val.isEmpty then .error (before .endInValue []) else .error (within .invalidNumber t.val)
    | (ds, t) => .ok (some ds, ⟨t.val, Nat.le_succ_of_le t.property⟩)
  | s => .ok (none, ⟨s, Nat.le_refl _⟩)

/-- The digits of an exponent whose sign has been read. -/
def exponentDigits (s : List Char) : Except Failure (List Char × Suffix s) :=
  match s with
  | [] => .error (before .endInValue [])
  | c :: r => if isDigit c then .ok (digits (c :: r)) else .error (within .invalidNumber (c :: r))

def exponentSign : (s : List Char) → Bool × Suffix s
  | '+' :: r => (true, ⟨r, Nat.le_succ _⟩)
  | '-' :: r => (false, ⟨r, Nat.le_succ _⟩)
  | s => (true, ⟨s, Nat.le_refl _⟩)

def exponentPart (s : List Char) :
    Except Failure (Option (Bool × List Char) × Suffix s) :=
  match s with
  | [] => .ok (none, ⟨[], Nat.le_refl _⟩)
  | c :: r =>
    if c = 'e' ∨ c = 'E' then
      let (up, t) := exponentSign r
      match exponentDigits t.val with
      | .error f => .error f
      | .ok (ds, u) =>
        .ok (some (up, ds), ⟨u.val, Nat.le_succ_of_le (Nat.le_trans u.property t.property)⟩)
    else .ok (none, ⟨c :: r, Nat.le_refl _⟩)

/-- A number whose sign has been read. -/
def number (negative : Bool) (s : List Char) : Step Tree s := do
  let (whole, r) ← wholePart s
  let (fraction, t) ← fractionPart r.val
  let (exponent, u) ← exponentPart t.val
  match (Literal.mk negative whole fraction exponent).number with
  | .ok n => return (.number n, ⟨u.val, Nat.lt_of_le_of_lt (t.trans u).property r.property⟩)
  | .error unread => .error ⟨.numberOutOfRange, Text.byteLength u.val + unread⟩

/-! ## Lists and objects -/

/-- The items of a list from the first one on, up to its closing bracket. -/
def items (item : (s : List Char) → Step Tree s) (s : List Char) : Step (List Tree) s :=
  match item s with
  | .error f => .error f
  | .ok (t, r) =>
    match next? r.val with
    | none => .error (before .endInList [])
    | some (c, u) =>
      if c = ']' then .ok ([t], r.trans u)
      else if c = ',' then
        match next? u.val with
        | none => .error (before .endInValue [])
        | some (d, v) =>
          if d = ']' then .error (within .trailingComma (d :: v.val))
          else
            match items item u.val with
            | .error f => .error f
            | .ok (ts, w) => .ok (t :: ts, (r.trans u).trans w)
      else .error (within .expectedListEnd (c :: u.val))
termination_by s.length
decreasing_by exact Nat.lt_trans u.property r.property

/-- A list whose opening bracket has been read. -/
def list (item : (s : List Char) → Step Tree s) (s : List Char) : Step Tree s :=
  match next? s with
  | none => .error (before .endInList [])
  | some (c, r) =>
    if c = ']' then .ok (.sequence [], r)
    else
      match items item s with
      | .error f => .error f
      | .ok (ts, r) => .ok (.sequence ts, r)

/-- A field whose name's opening quote has been read. -/
def field (item : (s : List Char) → Step Tree s) (s : List Char) : Step (String × Tree) s :=
  match quoted s with
  | .error f => .error f
  | .ok (name, r) =>
    match next? r.val with
    | none => .error (before .endInObject [])
    | some (c, t) =>
      if c = ':' then
        match item t.val with
        | .error f => .error f
        | .ok (v, u) => .ok ((String.ofList name, v), (r.trans t).trans u)
      else .error (within .expectedColon (c :: t.val))

/-- The fields of an object, from after the first name's opening quote up to the closing brace. -/
def fields (item : (s : List Char) → Step Tree s) (s : List Char) :
    Step (List (String × Tree)) s :=
  match field item s with
  | .error f => .error f
  | .ok (f, r) =>
    match next? r.val with
    | none => .error (before .endInObject [])
    | some (c, u) =>
      if c = '}' then .ok ([f], r.trans u)
      else if c = ',' then
        match next? u.val with
        | none => .error (before .endInValue [])
        | some (d, v) =>
          if d = '"' then
            match fields item v.val with
            | .error e => .error e
            | .ok (fs, w) => .ok (f :: fs, ((r.trans u).trans v).trans w)
          else if d = '}' then .error (within .trailingComma (d :: v.val))
          else .error (within .keyNotText (d :: v.val))
      else .error (within .expectedObjectEnd (c :: u.val))
termination_by s.length
decreasing_by exact Nat.lt_trans v.property (Nat.lt_trans u.property r.property)

/-- An object whose opening brace has been read. -/
def object (item : (s : List Char) → Step Tree s) (s : List Char) : Step Tree s :=
  match next? s with
  | none => .error (before .endInObject [])
  | some (c, r) =>
    if c = '}' then .ok (.mapping [], r)
    else if c = '"' then
      match fields item r.val with
      | .error f => .error f
      | .ok (fs, t) => .ok (Tree.ofFields fs, r.trans t)
    else .error (within .keyNotText (c :: r.val))

/-! ## Values -/

/-- Pass on what a step read after the first character of a value. -/
def Step.after {s : List Char} (r : Rest s) (x : Except Failure (Tree × Suffix r.val)) :
    Step Tree s :=
  match x with
  | .error f => .error f
  | .ok (t, u) => .ok (t, ⟨u.val, Nat.lt_of_le_of_lt u.property r.property⟩)

/-- A nested list or object, refused when no more levels are left. -/
def Step.nested {s : List Char} (r : Rest s) (x : Step Tree r.val) : Step Tree s :=
  match x with
  | .error f => .error f
  | .ok (t, u) => .ok (t, r.trans u)

/-- A value that may hold `depth` levels of lists and objects. -/
def value (depth : Nat) (s : List Char) : Step Tree s :=
  match next? s with
  | none => .error (before .endInValue [])
  | some (c, r) =>
    if c = 'n' then Step.after r (word "ull".toList .null r.val)
    else if c = 't' then Step.after r (word "rue".toList (.boolean true) r.val)
    else if c = 'f' then Step.after r (word "alse".toList (.boolean false) r.val)
    else if c = '-' then Step.nested r (number true r.val)
    else if isDigit c then
      match number false (c :: r.val) with
      | .error f => .error f
      | .ok (t, u) => .ok (t, ⟨u.val, Nat.lt_of_le_of_lt (Nat.le_of_lt_succ u.property) r.property⟩)
    else if c = '"' then
      match quoted r.val with
      | .error f => .error f
      | .ok (cs, u) => .ok (.text (String.ofList cs), r.trans u)
    else if c = '[' then
      match depth with
      | 0 => .error (within .tooDeep (c :: r.val))
      | depth + 1 => Step.nested r (list (value depth) r.val)
    else if c = '{' then
      match depth with
      | 0 => .error (within .tooDeep (c :: r.val))
      | depth + 1 => Step.nested r (object (value depth) r.val)
    else .error (within .expectedValue (c :: r.val))

def maxDepth : Nat := 127

/-- The one value that the text holds. -/
def read (text : String) : Except Error Tree :=
  let s := text.toList
  let place (f : Failure) : Error := ⟨f.cause, Text.byteLength s - f.left⟩
  match value maxDepth s with
  | .error f => .error (place f)
  | .ok (t, r) =>
    match next? r.val with
    | none => .ok t
    | some (c, u) => .error (place (within .trailingCharacters (c :: u.val)))

end AgentSpec.Json
