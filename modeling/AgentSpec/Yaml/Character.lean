import AgentSpec.Text.Hexadecimal
import AgentSpec.Text.Position

/-!
# Character classes of YAML

The classes are tested on what comes next in a text, which may be its end.
-/

namespace AgentSpec.Yaml

open Text (isLineBreak)

def isBlank (c : Char) : Bool := c == ' ' || c == '\t'

/-- A blank or a line break. -/
def isSpace (c : Char) : Bool := isBlank c || isLineBreak c

/-- A blank, a line break or the end. -/
def isSeparator : Option Char → Bool
  | none => true
  | some c => isSpace c

/-- A line break or the end. -/
def isLineEnd : Option Char → Bool
  | none => true
  | some c => isLineBreak c

/-- The characters of anchors, tag handles and directive names; ASCII alone. -/
def isWordChar (c : Char) : Bool :=
  ('0' ≤ c && c ≤ '9') || ('a' ≤ c && c ≤ 'z') || ('A' ≤ c && c ≤ 'Z') || c == '_' || c == '-'

def isDecimal (c : Char) : Bool := '0' ≤ c && c ≤ '9'

/-- The characters that a text may hold. -/
def isAllowed (c : Char) : Bool :=
  c == '\t' || c == '\n' || c == '\r' || ('\x20' ≤ c && c ≤ '\x7e') || c == '\x85'
    || ('\xa0' ≤ c && c.toNat ≤ 0xfffd) || 0x10000 ≤ c.toNat

def byteOrderMark : Char := '\ufeff'

/-- The characters of a tag. A verbatim tag and a directive may hold three flow indicators more. -/
def isUriChar (verbatim : Bool) (c : Char) : Bool :=
  isWordChar c || ";/?:@&=+$.%!~*'()".toList.contains c || (verbatim && ",[]".toList.contains c)

/-- A line break as it counts in content: all but the two Unicode separators are line feeds. -/
def normalBreak (c : Char) : Char := if c == '\u2028' || c == '\u2029' then c else '\n'

/-- The indicators that end a plain scalar in flow context. -/
def isFlowIndicator (c : Char) : Bool :=
  c == ',' || c == '[' || c == ']' || c == '{' || c == '}'

end AgentSpec.Yaml
