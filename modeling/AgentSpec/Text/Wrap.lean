import AgentSpec.Text.Alphanumeric
import AgentSpec.Text.LineBreak
import AgentSpec.Text.Split
import AgentSpec.Text.Width

/-!
# Wrapping

A line of text is cut into words, and as many words as fit are put on each line. The blanks after
a word count for its line, except at the end of the line, where they are dropped. A word that is
wider than a line is cut into parts.
-/

namespace AgentSpec.Text

/-- Characters and the blanks after them. -/
structure Word where
  chars : List Char
  blanks : Nat
  deriving DecidableEq, Repr

namespace Word

def ofPiece (cs : List Char) : Word :=
  let chars := (cs.reverse.dropWhile (· == ' ')).reverse
  ⟨chars, cs.length - chars.length⟩

/-- The characters with the blanks after them. -/
def text (w : Word) : List Char := w.chars ++ List.replicate w.blanks ' '

end Word

/-! ## Words -/

/-- A hyphen is a place to break only between letters or digits, so the rules of line breaking do
not decide it; a soft hyphen is none at all. -/
def endsInHyphen (cs : List Char) : Bool :=
  cs.getLast?.any fun c => c == '-' || c == '\xad'

/-- Join each piece that ends in a hyphen to the next. -/
def joinHyphens : List (List Char) → List (List Char)
  | [] => []
  | p :: ps =>
    match joinHyphens ps with
    | [] => [p]
    | q :: qs => if endsInHyphen p then (p ++ q) :: qs else p :: q :: qs

/-- Where the line itself ends in a hyphen, its last two pieces stay together. -/
def joinLast (ps : List (List Char)) : List (List Char) :=
  match ps.reverse with
  | last :: p :: rest => if endsInHyphen last then ((p ++ last) :: rest).reverse else ps
  | _ => ps

/-- Cut after each hyphen between letters or digits. `run` is the piece begun, reversed. -/
def splitHyphens (run : List Char) : List Char → List (List Char)
  | [] => [run.reverse]
  | [c] => [(c :: run).reverse]
  | c :: d :: cs =>
    if c = '-' ∧ run.head?.any isAlphanumeric ∧ isAlphanumeric d then
      (c :: run).reverse :: splitHyphens [] (d :: cs)
    else splitHyphens (c :: run) (d :: cs)

/-- Cut into parts of at most `limit` columns, or of one character that is wider. -/
def splitWide (limit : Nat) (run : List Char) (used : Nat) : List Char → List (List Char)
  | [] => [run.reverse]
  | c :: cs =>
    if 0 < used ∧ limit < used + charWidth c then
      run.reverse :: splitWide limit [c] (charWidth c) cs
    else splitWide limit (c :: run) (used + charWidth c) cs

/-- The parts of a word, the blanks after the last. -/
def Word.split (parts : List (List Char)) (blanks : Nat) : List Word :=
  match parts.reverse with
  | [] => [⟨[], blanks⟩]
  | last :: before => (⟨last, blanks⟩ :: before.map fun p => ⟨p, 0⟩).reverse

def Word.atHyphens (w : Word) : List Word := Word.split (splitHyphens [] w.chars) w.blanks

def Word.within (limit : Nat) (w : Word) : List Word :=
  if limit < width w.chars then Word.split (splitWide limit [] 0 w.chars) w.blanks else [w]

def words (limit : Nat) (line : List Char) : List Word :=
  ((joinLast (joinHyphens (breakable line))).map Word.ofPiece).flatMap fun w =>
    w.atHyphens.flatMap (Word.within limit)

/-! ## Lines -/

/-- Fill lines of `limit` columns. `row` is the line begun, reversed, and `used` its width. -/
def fillLines (limit : Nat) (row : List Word) (used : Nat) : List Word → List (List Word)
  | [] => [row.reverse]
  | w :: ws =>
    if limit < used + width w.chars ∧ row ≠ [] then
      row.reverse :: fillLines limit [w] (width w.chars + w.blanks) ws
    else fillLines limit (w :: row) (used + width w.chars + w.blanks) ws

/-- The words of a line as they stand; the blanks after the last are dropped. -/
def rowText (row : List Word) : List Char :=
  match row.reverse with
  | [] => []
  | last :: before => before.reverse.flatMap Word.text ++ last.chars

/-- The lines, at most `columns` wide, into which a text is wrapped after an indentation. -/
def wrapped (columns : Nat) (first other : String) (text : String) : List String :=
  let limit := columns - width other.toList
  let rows := (split '\n' text.toList).flatMap fun line =>
    (fillLines limit [] 0 (words limit line)).map rowText
  match rows with
  | [] => [first]
  | row :: more =>
    (first ++ String.ofList row) :: more.map fun r => other ++ String.ofList r

end AgentSpec.Text
