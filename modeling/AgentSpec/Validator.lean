import AgentSpec.Check
import AgentSpec.Load
import AgentSpec.Report

/-!
# Validators

A validator keeps the outcome of its last run and, until it is taken, the error that kept the last
run from a document. A run does not depend on what was kept before it.
-/

namespace AgentSpec

structure Validator where
  outcome : Outcome
  loadError? : Option LoadError

namespace Validator

def initial : Validator := ⟨.initial, none⟩

/-- A run on a document answers whether it is valid. -/
def validateDocument (v : Validator) (d : Tree) : Bool × Validator :=
  let v := { v with loadError? := none }
  let v := { v with outcome := validate d }
  (v.outcome.valid, v)

/-- A run on a path that leads to what was found. A load error becomes the only error. -/
def validateFound (v : Validator) (path : String) (found? : Option Entry) : Bool × Validator :=
  match load path found? with
  | .ok d => v.validateDocument d
  | .error e =>
    let v := { v with outcome := .failed e.message }
    (false, { v with loadError? := some e })

def validateFile (v : Validator) (fs : FileSystem) (path : String) : Bool × Validator :=
  v.validateFound path (fs.resolve? path)

/-- The load error is given away. -/
def takeLoadError (v : Validator) : Option LoadError × Validator :=
  (v.loadError?, { v with loadError? := none })

/-- A new validator after a run on a path that leads to what was found. -/
def ofFound (path : String) (found? : Option Entry) : Validator :=
  (initial.validateFound path found?).2

/-! ## Steps -/

/-- What is done with a validator. -/
inductive Step where
  | new
  | validateDocument (d : Tree)
  | validateFile (fs : FileSystem) (path : String)
  | takeLoadError
  | report

/-- What a step answers. -/
inductive Answer where
  | none
  | verdict (valid : Bool)
  | loadError (e? : Option LoadError)
  | report (text : String)

def step (v : Validator) : Step → Answer × Validator
  | .new => (.none, initial)
  | .validateDocument d =>
    let (valid, v) := v.validateDocument d
    (.verdict valid, v)
  | .validateFile fs path =>
    let (valid, v) := v.validateFile fs path
    (.verdict valid, v)
  | .takeLoadError =>
    let (e?, v) := v.takeLoadError
    (.loadError e?, v)
  | .report => (.report (AgentSpec.report false v.outcome), v)

/-- What a run on a path logs. -/
def foundLog (path : String) (found? : Option Entry) : List Record :=
  .validating path :: loadLog path found?
    ++ match load path found? with
      | .ok d => validationLog d
      | .error e => [.loadFailed path e.message]

end Validator
end AgentSpec
