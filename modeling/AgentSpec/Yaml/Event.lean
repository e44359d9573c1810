import AgentSpec.Yaml.Token

/-!
# Events of YAML

The events of a document are its scalars and aliases, and the starts and ends of its sequences and
mappings. A mapping's keys and values alternate.
-/

namespace AgentSpec.Yaml

/-- What may be written before a node. -/
structure Properties where
  anchor? : Option String
  tag? : Option Bytes
  deriving DecidableEq, Repr

def Properties.none : Properties := ⟨Option.none, Option.none⟩

inductive EventKind where
  | aliasOf (name : String)
  | scalar (p : Properties) (text : String) (plain : Bool)
  | sequenceStart (p : Properties)
  | sequenceEnd
  | mappingStart (p : Properties)
  | mappingEnd
  deriving DecidableEq, Repr

structure Event where
  kind : EventKind
  place : Place
  deriving DecidableEq, Repr

/-- A node that is not written: a plain scalar without text. -/
def Event.missing (p : Place) : Event := ⟨.scalar .none "" true, p⟩

end AgentSpec.Yaml
