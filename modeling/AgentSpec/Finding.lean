import AgentSpec.Document.Section
import AgentSpec.Json.Printer

/-!
# Findings

A fault makes a document invalid, an advice does not. An `Outcome` holds the messages of one
run, in the order in which they were found.
-/

namespace AgentSpec

/-! ## Causes -/

inductive Fault where
  | missingSection (s : Section)
  | versionNotText
  | notMapping (name : String)
  | notSequence (c : Collection)
  | missingInfoField (field : String)
  | invalidComplexity (value : Tree)
  | noModels
  | entryNotMapping (c : Collection) (index : Nat)
  | missingField (c : Collection) (index : Nat) (field : String)
  | duplicateId (c : Collection) (id : Tree)
  | invalidRole (value : Tree)
  | invalidSeverity (value : Tree)
  | unknownReference (r : Reference) (value : Tree)

/-- The wording calls sequences and mappings alike an array. -/
def Fault.message : Fault → String
  | .missingSection s => "Missing required section: " ++ s.name
  | .versionNotText => "openapia version must be a string"
  | .notMapping name => name ++ " must be an array"
  | .notSequence c => c.toSection.name ++ " must be an array"
  | .missingInfoField field => "Missing required field in info: " ++ field
  | .invalidComplexity value => "Invalid complexity: " ++ value.render
  | .noModels => "At least one model is required"
  | .entryNotMapping c index => c.title ++ " " ++ toString index ++ " must be an array"
  | .missingField c index field =>
    c.title ++ " " ++ toString index ++ " missing required field: " ++ field
  | .duplicateId c id => "Duplicate " ++ c.noun ++ " ID: " ++ id.render
  | .invalidRole value => "Invalid prompt role: " ++ value.render
  | .invalidSeverity value => "Invalid constraint severity: " ++ value.render
  | .unknownReference r value => "Task references unknown " ++ r.key ++ ": " ++ value.render

inductive Advice where
  | unsupportedVersion (version : String)
  | recommended (parent field : String)
  | unknownModelType (value : Tree)

def Advice.message : Advice → String
  | .unsupportedVersion version => "Version " ++ version ++ " may not be supported."
  | .recommended parent field => parent ++ "." ++ field ++ " is recommended"
  | .unknownModelType value => "Unknown model type: " ++ value.render

/-! ## Accumulation -/

/-- The messages collected so far. -/
structure Findings where
  errors : List String
  warnings : List String
  deriving DecidableEq, Repr

namespace Findings

def empty : Findings := ⟨[], []⟩

def error (f : Findings) (message : String) : Findings :=
  { f with errors := f.errors ++ [message] }

def warning (f : Findings) (message : String) : Findings :=
  { f with warnings := f.warnings ++ [message] }

end Findings

/-- The result of one run, as it is shown to the user. -/
structure Outcome where
  valid : Bool
  errors : List String
  warnings : List String
  deriving DecidableEq, Repr

namespace Outcome

def ofFindings (f : Findings) : Outcome := ⟨f.errors.isEmpty, f.errors, f.warnings⟩

/-- The outcome before any run: valid, for want of findings. -/
def initial : Outcome := ofFindings .empty

/-- The outcome of a run that ended before any section was checked. -/
def failed (message : String) : Outcome := ofFindings (Findings.empty.error message)

/-- The outcome as a value with its three fields in the order of display. -/
def toTree (o : Outcome) : Tree :=
  .mapping [("valid", .boolean o.valid),
    ("errors", .sequence (o.errors.map Tree.text)),
    ("warnings", .sequence (o.warnings.map Tree.text))]

end Outcome
end AgentSpec
