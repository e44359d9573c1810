import AgentSpec.Binary64

/-!
# Document trees

The generic value that a document is read into. `same` is equality by value; it differs from
equality of trees only in that the two float zeros are the same number.
-/

namespace AgentSpec

inductive Number where
  | integer (value : Int)
  | float (value : Binary64)
  deriving DecidableEq

/-- An integer is never equal to a float. -/
def Number.same : Number → Number → Bool
  | .integer a, .integer b => a == b
  | .float a, .float b => a.same b
  | _, _ => false

/-- Nothing here keeps the fields of a mapping in order. What is read is an `OrderedTree`, in which
the names of every mapping ascend. -/
inductive Tree where
  | null
  | boolean (value : Bool)
  | number (value : Number)
  | text (value : String)
  | sequence (items : List Tree)
  | mapping (fields : List (String × Tree))

namespace Tree

instance : Inhabited Tree := ⟨.null⟩

/-! ## Equality by value -/

mutual

def same : Tree → Tree → Bool
  | .null, .null => true
  | .boolean a, .boolean b => a == b
  | .number a, .number b => a.same b
  | .text a, .text b => a == b
  | .sequence xs, .sequence ys => sameItems xs ys
  | .mapping xs, .mapping ys => sameFields xs ys
  | _, _ => false

def sameItems : List Tree → List Tree → Bool
  | [], [] => true
  | x :: xs, y :: ys => same x y && sameItems xs ys
  | _, _ => false

def sameFields : List (String × Tree) → List (String × Tree) → Bool
  | [], [] => true
  | (k, x) :: xs, (l, y) :: ys => k == l && same x y && sameFields xs ys
  | _, _ => false

end

/-! ## Access -/

/-- The value of a field; only a mapping has fields. -/
def field? (t : Tree) (name : String) : Option Tree :=
  match t with
  | .mapping fields => fields.lookup name
  | _ => none

def has (t : Tree) (name : String) : Bool := (t.field? name).isSome

def isMapping : Tree → Bool
  | .mapping _ => true
  | _ => false

def items? : Tree → Option (List Tree)
  | .sequence items => some items
  | _ => none

def text? : Tree → Option String
  | .text s => some s
  | _ => none

def names? : Tree → Option (List String)
  | .mapping fields => some (fields.map Prod.fst)
  | _ => none

/-- Whether the tree is one of the texts listed. -/
def isOneOf (t : Tree) (allowed : List String) : Bool :=
  match t with
  | .text s => allowed.contains s
  | _ => false

/-! ## Building mappings -/

/-- Put a field into its place by name; a field of that name is replaced. -/
def insertField (name : String) (value : Tree) : List (String × Tree) → List (String × Tree)
  | [] => [(name, value)]
  | (k, v) :: rest =>
    if name = k then (name, value) :: rest
    else if name < k then (name, value) :: (k, v) :: rest
    else (k, v) :: insertField name value rest

/-- The mapping with these fields; of several with one name the last counts. -/
def ofFields (fields : List (String × Tree)) : Tree :=
  .mapping (fields.foldl (fun acc f => insertField f.1 f.2 acc) [])

end Tree
end AgentSpec
