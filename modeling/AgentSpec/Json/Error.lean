import AgentSpec.Text.Position
import AgentSpec.Text.Span

/-!
# Why a text is not JSON

An error is a cause and the byte offset up to which the text had been read.
-/

namespace AgentSpec.Json

inductive Cause where
  | endInValue
  | endInList
  | endInObject
  | endInText
  | expectedValue
  | expectedWord
  | expectedColon
  | expectedListEnd
  | expectedObjectEnd
  | keyNotText
  | trailingComma
  | trailingCharacters
  | invalidNumber
  | numberOutOfRange
  | invalidEscape
  | endInSurrogatePair
  | loneSurrogate
  | controlCharacter
  | tooDeep
  deriving DecidableEq, Repr

def Cause.message : Cause → String
  | .endInValue => "EOF while parsing a value"
  | .endInList => "EOF while parsing a list"
  | .endInObject => "EOF while parsing an object"
  | .endInText => "EOF while parsing a string"
  | .expectedValue => "expected value"
  | .expectedWord => "expected ident"
  | .expectedColon => "expected `:`"
  | .expectedListEnd => "expected `,` or `]`"
  | .expectedObjectEnd => "expected `,` or `\x7d`"
  | .keyNotText => "key must be a string"
  | .trailingComma => "trailing comma"
  | .trailingCharacters => "trailing characters"
  | .invalidNumber => "invalid number"
  | .numberOutOfRange => "number out of range"
  | .invalidEscape => "invalid escape"
  | .endInSurrogatePair => "unexpected end of hex escape"
  | .loneSurrogate => "lone leading surrogate in hex escape"
  | .controlCharacter => "control character (\\u0000-\\u001F) found while parsing a string"
  | .tooDeep => "recursion limit exceeded"

structure Error where
  cause : Cause
  offset : Nat
  deriving DecidableEq, Repr

def Error.position (e : Error) (text : String) : Text.Position := Text.byteColumn text e.offset

def Error.message (e : Error) (text : String) : String :=
  let p := e.position text
  e.cause.message ++ " at line " ++ toString p.line ++ " column " ++ toString p.column

/-- The character that the position named in the message ends with. -/
def Error.label? (e : Error) (text : String) : Option Text.Span :=
  let p := e.position text
  Text.spanAt text p.line p.column

end AgentSpec.Json
