/-!
# Lines and columns of a text

`byteColumn` counts a byte offset off in line feeds and bytes, `characterColumn` in the line breaks
of YAML and in characters.
-/

namespace AgentSpec.Text

/-- A line, counted from one, and how much of it comes before the place meant. -/
structure Position where
  line : Nat
  column : Nat
  deriving DecidableEq, Repr

/-- The position after the first `n` bytes of `cs`, itself started at `p`. Only a line feed ends a
line, and columns are bytes. -/
def Position.afterBytes (p : Position) : List Char → Nat → Position
  | [], _ => p
  | c :: cs, n =>
    if n < c.utf8Size then ⟨p.line, p.column + n⟩
    else if c = '\n' then Position.afterBytes ⟨p.line + 1, 0⟩ cs (n - c.utf8Size)
    else Position.afterBytes ⟨p.line, p.column + c.utf8Size⟩ cs (n - c.utf8Size)

def byteColumn (text : String) (offset : Nat) : Position :=
  Position.afterBytes ⟨1, 0⟩ text.toList offset

/-- Line feed, carriage return, next line, line separator and paragraph separator. -/
def isLineBreak (c : Char) : Bool :=
  c == '\n' || c == '\r' || c == '\x85' || c == '\u2028' || c == '\u2029'

/-- The position of the character at the byte `n` of `cs`, itself started at `p`. A carriage return
and the line feed after it are one break, and columns are characters. -/
def Position.afterCharacters (p : Position) : List Char → Nat → Position
  | [], _ => p
  | c :: cs, n =>
    if n < c.utf8Size then p
    else if c = '\r' ∧ cs.head? = some '\n' then Position.afterCharacters p cs (n - c.utf8Size)
    else if isLineBreak c then Position.afterCharacters ⟨p.line + 1, 0⟩ cs (n - c.utf8Size)
    else Position.afterCharacters ⟨p.line, p.column + 1⟩ cs (n - c.utf8Size)

def characterColumn (text : String) (offset : Nat) : Position :=
  Position.afterCharacters ⟨1, 0⟩ text.toList offset

end AgentSpec.Text
