import AgentSpec.Check.Note

/-!
# Checks on collections

Every entry is checked for its shape, its required fields and the uniqueness of its identifier,
then by the rule of its collection on one field.
-/

namespace AgentSpec.Check

/-- The rule on the one field whose values a collection knows. -/
def rule (c : Collection) (entry : Tree) : List Note :=
  match c with
  | .models =>
    match entry.field? "type" with
    | some t => if t.isOneOf modelTypes then [] else [.advice (.unknownModelType t)]
    | none => []
  | .prompts =>
    match entry.field? "role" with
    | some t => if t.isOneOf promptRoles then [] else [.fault (.invalidRole t)]
    | none => []
  | .constraints =>
    match entry.field? "severity" with
    | some t => if t.isOneOf severities then [] else [.fault (.invalidSeverity t)]
    | none => []
  | .tasks => []

def missingFields (c : Collection) (index : Nat) (entry : Tree) : List Note :=
  (c.required.filter fun f => !entry.has f).map fun f => .fault (.missingField c index f)

/-- The identifier of an entry. -/
def id? (entry : Tree) : Option Tree := entry.field? "id"

/-- Whether an identifier is among those listed, by value. -/
def knows (ids : List Tree) (id : Tree) : Bool := ids.any id.same

/-- The fault of an identifier that is among the earlier ones. -/
def duplicate (c : Collection) (seen : List Tree) (entry : Tree) : List Note :=
  match id? entry with
  | some id => if knows seen id then [.fault (.duplicateId c id)] else []
  | none => []

/-- What is seen after an entry; an identifier is kept once. -/
def remember (seen : List Tree) (entry : Tree) : List Tree :=
  match id? entry with
  | some id => if knows seen id then seen else id :: seen
  | none => seen

/-- Check the entries from position `index` on. -/
def entriesFrom (c : Collection) (index : Nat) (seen : List Tree) : List Tree → List Note
  | [] => []
  | entry :: rest =>
    if entry.isMapping then
      missingFields c index entry ++ duplicate c seen entry ++ rule c entry
        ++ entriesFrom c (index + 1) (remember seen entry) rest
    else
      .fault (.entryNotMapping c index) :: entriesFrom c (index + 1) seen rest

def entries (c : Collection) (items : List Tree) : List Note :=
  .log (.checkingEntries items.length c) :: entriesFrom c 0 [] items

/-- Only models must not be empty. -/
def collection (c : Collection) (t : Tree) : List Note :=
  match t.items? with
  | none => [.fault (.notSequence c)]
  | some items =>
    if c = .models ∧ items.isEmpty then [.fault .noModels] else entries c items

end AgentSpec.Check
