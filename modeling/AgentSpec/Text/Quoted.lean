import AgentSpec.Text.Hexadecimal
import AgentSpec.Text.Printable

/-!
# Quoted texts

A text between double quotes, in which whatever cannot be seen for what it is stands as an escape.
-/

namespace AgentSpec.Text

def quotedChar (c : Char) : String :=
  if c = '\x00' then "\\0"
  else if c = '\t' then "\\t"
  else if c = '\r' then "\\r"
  else if c = '\n' then "\\n"
  else if c = '\\' then "\\\\"
  else if c = '"' then "\\\""
  else if isExtending c ∨ !isPrintable c then "\\u\x7b" ++ hexDigits c.toNat ++ "\x7d"
  else c.toString

def quoted (text : String) : String :=
  "\"" ++ String.join (text.toList.map quotedChar) ++ "\""

end AgentSpec.Text
