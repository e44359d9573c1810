import AgentSpec.FileSystem
import AgentSpec.Json.Ordered
import AgentSpec.Log
import AgentSpec.Yaml.Ordered

/-!
# Loading documents

A document is loaded from a path in three steps, and the first that fails tells why: the path must
lead somewhere, its extension must name a format, and what it leads to must be a text. The text is
then read in that format.
-/

namespace AgentSpec

/-- A text and the name under which it is shown. -/
structure NamedText where
  name : String
  text : String
  deriving DecidableEq, Repr

inductive LoadError where
  | notFound (path : String)
  | unsupportedFormat (path : String)
  | unreadable (path : String) (fault : ReadFault)
  | yaml (source : NamedText) (e : Yaml.Error)
  | json (source : NamedText) (e : Json.Error)
  deriving DecidableEq, Repr

namespace LoadError

def message : LoadError → String
  | notFound path => "File not found: " ++ path
  | unsupportedFormat path => "Unsupported file format: " ++ path
  | unreadable path fault => "Failed to read " ++ path ++ ": " ++ fault.message
  | yaml source e => "YAML parsing error: " ++ e.message source.text
  | json source e => "JSON parsing error: " ++ e.message source.text

def code : LoadError → String
  | notFound _ => "openapia::load::not_found"
  | unsupportedFormat _ => "openapia::load::unsupported_format"
  | unreadable _ _ => "openapia::load::unreadable"
  | yaml _ _ => "openapia::load::yaml"
  | json _ _ => "openapia::load::json"

def help? : LoadError → Option String
  | unsupportedFormat _ => some "OpenAPIA documents must use a .yaml, .yml or .json extension"
  | _ => none

/-- The fault behind the error, where there is one. -/
def cause? : LoadError → Option String
  | unreadable _ fault => some fault.message
  | _ => none

def source? : LoadError → Option NamedText
  | yaml source _ => some source
  | json source _ => some source
  | _ => none

/-- The span of the source that the error points at. -/
def label? : LoadError → Option Text.Span
  | yaml source e => e.label? source.text
  | json source e => e.label? source.text
  | _ => none

end LoadError

/-- Read a text in a format. The origin only names the text. -/
def parse (format : Format) (text origin : String) : Except LoadError OrderedTree :=
  match format with
  | .yaml =>
    (OrderedTree.ofRead (Yaml.read text) fun _ => Yaml.ordered_of_read).mapError
      (.yaml ⟨origin, text⟩)
  | .json =>
    (OrderedTree.ofRead (Json.read text) fun _ => Json.ordered_of_read).mapError
      (.json ⟨origin, text⟩)

section

variable {ε δ α : Type} {x : Except ε α} {g : ε → δ}

theorem mapError_eq_error_iff {e : δ} : x.mapError g = .error e ↔ ∃ f, x = .error f ∧ e = g f := by
  cases x with
  | ok a => exact ⟨nofun, fun ⟨_, h, _⟩ => nomatch h⟩
  | error f =>
    constructor
    · intro h
      cases h
      exact ⟨f, rfl, rfl⟩
    · intro ⟨_, hx, he⟩
      cases hx
      rw [he]
      rfl

theorem mapError_eq_ok_iff {a : α} : x.mapError g = .ok a ↔ x = .ok a := by
  cases x with
  | ok b => exact ⟨fun h => congrArg _ (Except.ok.inj h), fun h => congrArg _ (Except.ok.inj h)⟩
  | error f => exact ⟨nofun, nofun⟩

end

section

variable {text origin : String} {e : LoadError} {t : OrderedTree}

theorem parse_yaml_eq_error_iff :
    parse .yaml text origin = .error e ↔
      ∃ f, Yaml.read text = .error f ∧ e = .yaml ⟨origin, text⟩ f := by
  rw [parse, mapError_eq_error_iff]
  simp only [OrderedTree.ofRead_eq_error_iff]

theorem parse_json_eq_error_iff :
    parse .json text origin = .error e ↔
      ∃ f, Json.read text = .error f ∧ e = .json ⟨origin, text⟩ f := by
  rw [parse, mapError_eq_error_iff]
  simp only [OrderedTree.ofRead_eq_error_iff]

theorem parse_json_eq_ok_iff : parse .json text origin = .ok t ↔ Json.read text = .ok t.val := by
  rw [parse, mapError_eq_ok_iff, OrderedTree.ofRead_eq_ok_iff]

end

/-- Trees need not be compared to tell an error. -/
instance decidableEqError {ε α : Type} [DecidableEq ε] (x : Except ε α) (e : ε) :
    Decidable (x = .error e) :=
  match x with
  | .ok _ => isFalse nofun
  | .error f => decidable_of_iff (f = e) (by simp)

/-- The format and the text of the document at a path, from what the path leads to. -/
def documentText (path : String) (found? : Option Entry) : Except LoadError (Format × String) :=
  match found? with
  | none => .error (.notFound path)
  | some entry =>
    match Format.ofPath? path with
    | none => .error (.unsupportedFormat path)
    | some format =>
      match entry.text with
      | .error fault => .error (.unreadable path fault)
      | .ok text => .ok (format, text)

def load (path : String) (found? : Option Entry) : Except LoadError OrderedTree := do
  let (format, text) ← documentText path found?
  parse format text path

/-- What loading logs: nothing unless there is a text to read. -/
def loadLog (path : String) (found? : Option Entry) : List Record :=
  match documentText path found? with
  | .ok (format, _) => [.parsing path format]
  | .error _ => []

def FileSystem.load (fs : FileSystem) (path : String) : Except LoadError OrderedTree :=
  AgentSpec.load path (fs.resolve? path)

end AgentSpec
