import AgentSpec.Yaml.Event.Stream

/-!
# Anchors

An alias stands for a slot, and a slot for the node that was put into it last. An anchor takes the
slot that is numbered by how many names are in use before it; so a name that is used again may
share its slot with the next new name.
-/

namespace AgentSpec.Yaml

inductive NodeKind where
  | aliasOf (slot : Nat)
  | scalar (tag? : Option Bytes) (text : String) (plain : Bool)
  | sequenceStart (tag? : Option Bytes)
  | sequenceEnd
  | mappingStart (tag? : Option Bytes)
  | mappingEnd
  deriving DecidableEq, Repr

/-- An event without its anchor. -/
structure Node where
  kind : NodeKind
  place : Place
  deriving DecidableEq, Repr

/-- The events up to an unknown alias, and for each slot the events from its node on. -/
structure Bound where
  nodes : List Node
  targets : List (Nat × List Node)
  unknown? : Option Place

namespace Bound

/-- The names in use with their slots, each name once. -/
abbrev Names := List (String × Nat)

def Names.assign (names : Names) (name : String) : Names :=
  (name, names.length) :: names.filter fun n => n.1 != name

/-- What an event is besides its anchor; nothing for an alias. -/
def anchored? : EventKind → Option (Option String × NodeKind)
  | .aliasOf _ => none
  | .scalar p text plain => some (p.anchor?, .scalar p.tag? text plain)
  | .sequenceStart p => some (p.anchor?, .sequenceStart p.tag?)
  | .sequenceEnd => some (none, .sequenceEnd)
  | .mappingStart p => some (p.anchor?, .mappingStart p.tag?)
  | .mappingEnd => some (none, .mappingEnd)

def cons (n : Node) (b : Bound) : Bound := { b with nodes := n :: b.nodes }

/-- Put the nodes into a slot unless it is filled again further on. -/
def fill (slot : Nat) (b : Bound) : Bound :=
  if (b.targets.lookup slot).isSome then b
  else { b with targets := (slot, b.nodes) :: b.targets }

def ofEvents (names : Names) : List Event → Bound
  | [] => ⟨[], [], none⟩
  | ⟨.aliasOf name, place⟩ :: es =>
    match names.lookup name with
    | none => ⟨[], [], some place⟩
    | some slot => (ofEvents names es).cons ⟨.aliasOf slot, place⟩
  | ⟨kind, place⟩ :: es =>
    match anchored? kind with
    | some (some name, node) =>
      ((ofEvents (names.assign name) es).cons ⟨node, place⟩).fill names.length
    | some (none, node) => (ofEvents names es).cons ⟨node, place⟩
    | none => ⟨[], [], some place⟩

def target (b : Bound) (slot : Nat) : List Node := (b.targets.lookup slot).getD []

end Bound
end AgentSpec.Yaml
