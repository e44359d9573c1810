import AgentSpec.Text.Quoted
import AgentSpec.Text.Span
import AgentSpec.Yaml.Problem
import AgentSpec.Yaml.Scalar.Value

/-!
# Why a text is not a YAML document

The text is flawed, it holds more than one document, or its one document has no value. A mismatch
names the path of the value; two errors have no place at all.
-/

namespace AgentSpec.Yaml

/-! ## Paths -/

/-- Where a value stands in its document. The name of a field is unknown where an alias stands for
it. -/
inductive NodePath where
  | root
  | item (parent : NodePath) (index : Nat)
  | field (parent : NodePath) (name : String)
  | unnamedField (parent : NodePath)
  deriving DecidableEq, Repr

namespace NodePath

/-- What precedes the name of a field, given the text of the path it extends. -/
def lead (p : NodePath) (text : String) : String :=
  match p with
  | root => ""
  | _ => text ++ "."

def text : NodePath → String
  | root => "."
  | item parent index => parent.text ++ "[" ++ toString index ++ "]"
  | field parent name => parent.lead parent.text ++ name
  | unnamedField parent => parent.lead parent.text ++ "?"

end NodePath

/-! ## Errors -/

/-- A first key is asked for in other words than a later one. -/
def expectedKeyText (first : Bool) : String := if first then "a string key" else "a string"

def Mismatch.message : Mismatch → String
  | .localTag => "invalid type: enum, expected any valid JSON value"
  | .sequenceKey first => "invalid type: sequence, expected " ++ expectedKeyText first
  | .mappingKey first => "invalid type: map, expected " ++ expectedKeyText first
  | .notBoolean text => "invalid value: string " ++ Text.quoted text ++ ", expected a boolean"
  | .notInteger text => "invalid value: string " ++ Text.quoted text ++ ", expected an integer"
  | .notFloat text => "invalid value: string " ++ Text.quoted text ++ ", expected a float"
  | .notNull text => "invalid value: string " ++ Text.quoted text ++ ", expected null"
  | .outOfRange => "JSON number out of range"

inductive Error where
  | flaw (f : Flaw)
  | forbiddenCharacter (offset : Nat)
  | furtherDocument
  | unknownAnchor (place : Place)
  | tooDeep (place : Place)
  | tooManyAliases
  | mismatch (m : Mismatch) (path : NodePath) (place : Place)
  deriving DecidableEq, Repr

namespace Error

/-- The root is not worth naming. -/
def pathText (path : NodePath) : String :=
  let t := path.text
  if t = "." then "" else t ++ ": "

def message (e : Error) (source : String) : String :=
  match e with
  | flaw f => f.message source
  | forbiddenCharacter offset =>
    "control characters are not allowed"
      ++ if offset = 0 then "" else " at position " ++ toString offset
  | furtherDocument => "deserializing from YAML containing more than one document is not supported"
  | unknownAnchor place => "unknown anchor" ++ place.text source
  | tooDeep place => "recursion limit exceeded" ++ place.text source
  | tooManyAliases => "repetition limit exceeded"
  | mismatch m path place => pathText path ++ m.message ++ place.text source

/-- The place that is shown. A forbidden character is found before any place is. -/
def place? : Error → Option Place
  | flaw f => some f.place
  | forbiddenCharacter _ => some .start
  | furtherDocument => none
  | unknownAnchor place => some place
  | tooDeep place => some place
  | tooManyAliases => none
  | mismatch _ _ place => some place

def label? (e : Error) (source : String) : Option Text.Span :=
  e.place?.map fun p => Text.spanAtOffset source p.offset

end Error
end AgentSpec.Yaml
