import AgentSpec.Decimal.Written
import AgentSpec.Text.Hexadecimal
import AgentSpec.Tree

/-!
# Writing JSON

`compact` leaves out all white space, `pretty` puts every item and field on a line of its own.
Both write the fields of a mapping in the order in which it holds them.
-/

namespace AgentSpec.Json

/-! ## Scalars -/

/-- A quote, a backslash and the characters below space are escaped, all else stands for itself. -/
def escape (c : Char) : List Char :=
  if c = '"' then ['\\', '"']
  else if c = '\\' then ['\\', '\\']
  else if c = '\x08' then ['\\', 'b']
  else if c = '\x0c' then ['\\', 'f']
  else if c = '\n' then ['\\', 'n']
  else if c = '\r' then ['\\', 'r']
  else if c = '\t' then ['\\', 't']
  else if c.toNat < 32 then ['\\', 'u', '0', '0', Text.hexDigit (c.toNat / 16),
    Text.hexDigit (c.toNat % 16)]
  else [c]

def writeText (s : String) : List Char := '"' :: (s.toList.flatMap escape ++ ['"'])

def writeNumber : Number → List Char
  | .integer n => (Decimal.ofInt n).toList
  | .float x => (Decimal.ofBinary64 x).toList

def writeBoolean (b : Bool) : List Char := if b then "true".toList else "false".toList

/-! ## Compact form -/

mutual

def write : Tree → List Char
  | .null => "null".toList
  | .boolean b => writeBoolean b
  | .number n => writeNumber n
  | .text s => writeText s
  | .sequence items => '[' :: (writeItems items ++ [']'])
  | .mapping fields => '{' :: (writeFields fields ++ ['}'])

def writeItems : List Tree → List Char
  | [] => []
  | [t] => write t
  | t :: ts => write t ++ ',' :: writeItems ts

def writeFields : List (String × Tree) → List Char
  | [] => []
  | [(k, t)] => writeText k ++ ':' :: write t
  | (k, t) :: fs => writeText k ++ ':' :: (write t ++ ',' :: writeFields fs)

end

def compact (t : Tree) : String := String.ofList (write t)

/-! ## Pretty form -/

/-- A new line, indented by two blanks a level. -/
def newline (level : Nat) : List Char := '\n' :: List.replicate (2 * level) ' '

mutual

def writePretty (level : Nat) : Tree → List Char
  | .null => "null".toList
  | .boolean b => writeBoolean b
  | .number n => writeNumber n
  | .text s => writeText s
  | .sequence [] => ['[', ']']
  | .sequence (t :: ts) =>
    '[' :: (newline (level + 1) ++ writePretty (level + 1) t
      ++ writePrettyItems (level + 1) ts ++ newline level ++ [']'])
  | .mapping [] => ['{', '}']
  | .mapping ((k, t) :: fs) =>
    '{' :: (newline (level + 1) ++ writeText k ++ ':' :: ' ' :: writePretty (level + 1) t
      ++ writePrettyFields (level + 1) fs ++ newline level ++ ['}'])

def writePrettyItems (level : Nat) : List Tree → List Char
  | [] => []
  | t :: ts => ',' :: (newline level ++ writePretty level t ++ writePrettyItems level ts)

def writePrettyFields (level : Nat) : List (String × Tree) → List Char
  | [] => []
  | (k, t) :: fs =>
    ',' :: (newline level ++ writeText k ++ ':' :: ' ' :: writePretty level t
      ++ writePrettyFields level fs)

end

def pretty (t : Tree) : String := String.ofList (writePretty 0 t)

end AgentSpec.Json

namespace AgentSpec

/-- How a value stands in a message: a text as it is, any other value as compact JSON. -/
def Tree.render : Tree → String
  | .text s => s
  | t => Json.compact t

end AgentSpec
