import AgentSpec.Text.Span
import AgentSpec.Text.Width

/-!
# Snippets

A snippet shows the line that a label is on, one line before it and one after it, with the label
drawn under its line. Lines are found twice, by two rules: to choose what is shown and to number it,
a carriage return alone ends a line; within what is shown it does not.
-/

namespace AgentSpec.Diagnostic

open Text

/-! ## Choosing the lines -/

/-- The first and the last byte of each line end of the text from the byte `offset` on. -/
def lineEnds (offset : Nat) : List Char → List (Nat × Nat)
  | '\r' :: '\n' :: cs => (offset, offset + 1) :: lineEnds (offset + 2) cs
  | c :: cs =>
    if c = '\n' ∨ c = '\r' then (offset, offset) :: lineEnds (offset + 1) cs
    else lineEnds (offset + c.utf8Size) cs
  | [] => []

/-- A part of the text and the number of its first line. -/
structure Excerpt where
  firstNumber : Nat
  start : Nat
  stop : Nat

/-- The line ends before a label. -/
def endsBefore (cs : List Char) (label : Span) : List (Nat × Nat) :=
  (lineEnds 0 cs).filter fun e => e.2 < label.offset

def endsAfter (cs : List Char) (label : Span) : List (Nat × Nat) :=
  (lineEnds 0 cs).filter fun e => label.offset + label.length - 1 < e.1

/-- From the start of the line before the label to the end of the line after it. A label on a line
end has no line end after it on its own line, and so one line more. -/
def excerpt (cs : List Char) (label : Span) : Excerpt :=
  let before := endsBefore cs label
  ⟨max 1 before.length,
    (before.reverse[1]?.map fun e => e.2 + 1).getD 0,
    ((endsAfter cs label)[1]?.map fun e => e.2 + 1).getD (byteLength cs)⟩

/-- The line and the column, in bytes, at which a label is reported. -/
def labelPosition (cs : List Char) (label : Span) : Nat × Nat :=
  let before := endsBefore cs label
  let lineStart := (before.getLast?.map fun e => e.2 + 1).getD 0
  let column := match (lineEnds 0 cs).find? fun e => e.1 ≤ label.offset && label.offset ≤ e.2 with
    | some e => e.1
    | none => label.offset
  (before.length + 1, column - lineStart + 1)

/-! ## The lines shown -/

/-- A line with its place in the text; the length counts the line end. -/
structure Line where
  number : Nat
  offset : Nat
  length : Nat
  chars : List Char

/-- The lines of an excerpt. `run` is the line begun, reversed. A last line that ends in a carriage
return goes by the number of the line before it. -/
def linesFrom (number offset : Nat) (run : List Char) : List Char → List Line
  | [] =>
    if run = [] then []
    else
      let shown := if run.head? = some '\r' then number - 1 else number
      [⟨shown, offset, byteLength run, run.reverse⟩]
  | '\r' :: '\n' :: cs =>
    let length := byteLength run + 2
    ⟨number, offset, length, run.reverse⟩ :: linesFrom (number + 1) (offset + length) [] cs
  | c :: cs =>
    if c = '\n' then
      let length := byteLength run + 1
      ⟨number, offset, length, run.reverse⟩ :: linesFrom (number + 1) (offset + length) [] cs
    else linesFrom number offset (c :: run) cs

def takeBytes : List Char → Nat → List Char
  | [], _ => []
  | c :: cs, n => if n < c.utf8Size then [] else c :: takeBytes cs (n - c.utf8Size)

def dropBytes : List Char → Nat → List Char
  | [], _ => []
  | c :: cs, n => if n < c.utf8Size then c :: cs else dropBytes cs (n - c.utf8Size)

def shownLines (cs : List Char) (label : Span) : List Line :=
  let e := excerpt cs label
  linesFrom e.firstNumber e.start [] (takeBytes (dropBytes cs e.start) (e.stop - e.start))

/-! ## Drawing -/

def tabWidth : Nat := 4

/-- Each character with the columns it takes. A tab runs to the next stop, and a colour sequence,
from its escape to its `m`, takes none. -/
def cells (column : Nat) (escaped : Bool) : List Char → List (Char × Nat)
  | [] => []
  | c :: cs =>
    if escaped then (c, 0) :: cells column (c != 'm') cs
    else if c = '\x1b' then (c, 0) :: cells column true cs
    else
      let w := if c = '\t' then tabWidth - column % tabWidth else charWidth c
      (c, w) :: cells (column + w) false cs

def cellText : Char × Nat → String
  | (c, w) => if c = '\t' then String.ofList (List.replicate w ' ') else c.toString

def lineText (l : Line) : String := String.join ((cells 0 false l.chars).map cellText)

/-- The column at which a byte of the text is drawn. What lies past the visible part of the line is
drawn one column after it. -/
def drawnColumn (l : Line) (offset : Nat) : Nat :=
  let n := offset - l.offset
  let w := (cells 0 false (takeBytes l.chars n)).foldr (fun cell w => cell.2 + w) 0
  if byteLength l.chars < n then w + 1 else w

def repeated (n : Nat) (c : Char) : String := String.ofList (List.replicate n c)

/-- A text moved to the right end of `n` columns. -/
def padded (n : Nat) (text : String) : String := repeated (n - text.length) ' ' ++ text

/-- What stands before the drawing under a line, where lines are numbered in `n` columns. -/
def blankMargin (n : Nat) : String := " " ++ repeated n ' ' ++ " · "

/-- The label under its line: an underline with a mark in its middle and the text hung from it. -/
def markerText (n : Nat) (l : Line) (label : Span) : String :=
  let first := drawnColumn l label.offset
  let past := max (drawnColumn l (label.offset + label.length)) (first + 1)
  let middle := (first + past) / 2
  blankMargin n ++ repeated first ' ' ++ repeated (middle - first) '─' ++ "┬"
    ++ repeated (past - middle - 1) '─' ++ "\n"
    ++ blankMargin n ++ repeated middle ' ' ++ "╰── here\n"

/-- A label of no length is on no line. -/
def isOn (l : Line) (label : Span) : Bool :=
  0 < label.length && l.offset ≤ label.offset && label.offset < l.offset + l.length

def numberedLine (n : Nat) (label : Span) (l : Line) : String :=
  " " ++ padded n (toString l.number) ++ " │ " ++ lineText l ++ "\n"
    ++ if isOn l label then markerText n l label else ""

/-- The snippet of a text of the given name around a label. -/
def snippet (name : String) (text : String) (label : Span) : String :=
  let cs := text.toList
  let lines := shownLines cs label
  let n := (toString ((lines.getLast?.map Line.number).getD 0)).length
  let (line, column) := labelPosition cs label
  repeated (n + 2) ' ' ++ "╭─[" ++ name ++ ":" ++ toString line ++ ":" ++ toString column ++ "]\n"
    ++ String.join (lines.map (numberedLine n label))
    ++ repeated (n + 2) ' ' ++ "╰────\n"

end AgentSpec.Diagnostic
