import AgentSpec.Check.Collection

/-!
# Checks across sections

The steps of tasks refer to models and prompts by their identifiers. What is not shaped as a task
or step is passed over, but still counts as a position.
-/

namespace AgentSpec.Check

/-- A step with the positions of its task and of itself. -/
structure Step where
  task : Nat
  step : Nat
  value : Tree

/-- The identifiers of the mappings in a sequence; anything else declares none. -/
def declaredIds (t : Tree) : List Tree :=
  (t.items?.getD []).filterMap id?

/-- The mappings among the steps of one task. -/
def stepsOf (index : Nat) (task : Tree) : List Step :=
  (((task.field? "steps").bind Tree.items?).getD []).zipIdx.filterMap fun (s, i) =>
    if s.isMapping then some ⟨index, i, s⟩ else none

def steps (tasks : Tree) : List Step :=
  (tasks.items?.getD []).zipIdx.flatMap fun (t, i) => stepsOf i t

/-- A step whose reference names no declared identifier is logged and a fault. -/
def unresolved (r : Reference) (ids : List Tree) (s : Step) : List Note :=
  match s.value.field? r.key with
  | some v =>
    if knows ids v then []
    else [.log (.unresolved r v s.task s.step), .fault (.unknownReference r v)]
  | none => []

/-- References are checked when their target section is present. -/
def referencesTo (document tasks : Tree) (r : Reference) : List Note :=
  match document.field? r.target.toSection.name with
  | some declaring => (steps tasks).flatMap (unresolved r (declaredIds declaring))
  | none => []

def references (document : Tree) : List Note :=
  match document.field? Section.tasks.name with
  | some tasks => referencesTo document tasks .model ++ referencesTo document tasks .prompt
  | none => []

end AgentSpec.Check
