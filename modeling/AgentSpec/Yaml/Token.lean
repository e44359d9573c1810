import AgentSpec.Yaml.Directive

/-!
# Tokens of YAML

Some tokens are written in the text, and some follow from its indentation: the start and end of a
block, and the key that a later colon makes of what comes before it.
-/

namespace AgentSpec.Yaml

inductive TokenKind where
  | streamEnd
  | directive (d : Directive)
  | documentStart
  | documentEnd
  | blockSequenceStart
  | blockMappingStart
  | blockEnd
  | flowSequenceStart
  | flowSequenceEnd
  | flowMappingStart
  | flowMappingEnd
  | blockEntry
  | flowEntry
  | key
  | value
  | aliasOf (name : String)
  | anchor (name : String)
  | tag (t : TagName)
  | scalar (text : String) (plain : Bool)
  deriving DecidableEq, Repr

structure Token where
  kind : TokenKind
  place : Place
  deriving DecidableEq, Repr

end AgentSpec.Yaml
