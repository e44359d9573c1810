import AgentSpec.Power

/-!
# Spans of a text

A span is a run of bytes of the UTF-8 form of a text. `spanAtOffset` is the one character that
covers a byte, and `spanAt` finds it by line and column; a place at or past the end has the empty
span there. The byte meant by a line and a column is a checked sum, which fails where it is too
large for an offset.
-/

namespace AgentSpec.Text

structure Span where
  offset : Nat
  length : Nat
  deriving DecidableEq, Repr

/-- The bytes that the UTF-8 form of these characters takes. -/
def byteLength (cs : List Char) : Nat := cs.foldr (fun c n => c.utf8Size + n) 0

/-- The span of the character that covers the byte `n` of `cs`, where `cs` starts at the byte
`start`. -/
def covering (start : Nat) : List Char → Nat → Span
  | [], _ => ⟨start, 0⟩
  | c :: cs, n =>
    if n < c.utf8Size then ⟨start, c.utf8Size⟩
    else covering (start + c.utf8Size) cs (n - c.utf8Size)

def spanAtOffset (text : String) (offset : Nat) : Span := covering 0 text.toList offset

/-- How many bytes precede the line that comes `n` line feeds further on, or how many there are
when there are fewer lines. -/
def bytesBeforeLine : List Char → Nat → Nat
  | _, 0 => 0
  | [], _ + 1 => 0
  | c :: cs, n + 1 => c.utf8Size + bytesBeforeLine cs (if c = '\n' then n else n + 1)

def lineStart (text : String) (line : Nat) : Nat := bytesBeforeLine text.toList (line - 1)

/-- How many offsets there are: they are words of 64 bits. -/
def wordCount : Nat := twoTo 64

/-- Lines and columns count from one, columns in bytes; a zero acts as one and a column may run on
past the end of its line. There is no span where the place is past all offsets. -/
def spanAt (text : String) (line column : Nat) : Option Span :=
  let place := lineStart text line + (column - 1)
  if place < wordCount then some (spanAtOffset text place) else none

end AgentSpec.Text
