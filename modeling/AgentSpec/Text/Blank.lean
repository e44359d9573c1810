/-!
# White space

The characters with the Unicode property of that name. A text of white space alone is blank.
-/

namespace AgentSpec.Text

def isWhiteSpace (c : Char) : Bool :=
  ('\x09' ≤ c && c ≤ '\x0d') || c == ' ' || c == '\x85' || c == '\xa0' || c == '\u1680'
    || ('\u2000' ≤ c && c ≤ '\u200a') || c == '\u2028' || c == '\u2029' || c == '\u202f'
    || c == '\u205f' || c == '\u3000'

def isBlank (text : String) : Bool := text.toList.all isWhiteSpace

end AgentSpec.Text
