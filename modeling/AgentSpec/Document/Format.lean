import AgentSpec.Path

/-!
# Document formats

The source format of a document follows from the extension of its path, without regard to the case
of ASCII letters.
-/

namespace AgentSpec

inductive Format where
  | yaml
  | json
  deriving DecidableEq, Repr

namespace Format

def name : Format → String
  | .yaml => "Yaml"
  | .json => "Json"

/-- `yaml` and `yml` are one format. -/
def ofExtension? (extension : List Char) : Option Format :=
  let lower := extension.map Char.toLower
  if lower = "yaml".toList ∨ lower = "yml".toList then some .yaml
  else if lower = "json".toList then some .json
  else none

def ofPath? (path : String) : Option Format :=
  (Path.extension? path).bind fun e => ofExtension? e.toList

end Format
end AgentSpec
