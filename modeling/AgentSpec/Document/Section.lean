/-!
# The sections of a document

The eight top-level sections in the order in which they are reported and checked. Four of them are
collections: sequences of mappings that share the checks on fields and identifiers.
-/

namespace AgentSpec

inductive Section where
  | version
  | info
  | models
  | prompts
  | constraints
  | tasks
  | context
  | evaluation
  deriving DecidableEq, Repr

namespace Section

def all : List Section :=
  [.version, .info, .models, .prompts, .constraints, .tasks, .context, .evaluation]

/-- The name of the section's field in the document. -/
def name : Section → String
  | .version => "openapia"
  | .info => "info"
  | .models => "models"
  | .prompts => "prompts"
  | .constraints => "constraints"
  | .tasks => "tasks"
  | .context => "context"
  | .evaluation => "evaluation"

theorem mem_all (s : Section) : s ∈ all := by cases s <;> decide

theorem nodup_all : all.Nodup := by decide

theorem name_injective {s t : Section} (h : s.name = t.name) : s = t := by
  cases s <;> cases t <;> first | rfl | simp [name] at h

end Section

inductive Collection where
  | models
  | prompts
  | constraints
  | tasks
  deriving DecidableEq, Repr

namespace Collection

def toSection : Collection → Section
  | .models => .models
  | .prompts => .prompts
  | .constraints => .constraints
  | .tasks => .tasks

theorem toSection_injective {c c' : Collection} (h : c.toSection = c'.toSection) : c = c' := by
  cases c <;> cases c' <;> first | rfl | cases h

/-- The word for one entry, in the middle of a sentence. -/
def noun : Collection → String
  | .models => "model"
  | .prompts => "prompt"
  | .constraints => "constraint"
  | .tasks => "task"

/-- The word for one entry, at the start of a sentence. -/
def title : Collection → String
  | .models => "Model"
  | .prompts => "Prompt"
  | .constraints => "Constraint"
  | .tasks => "Task"

def required : Collection → List String
  | .models => ["id", "type", "provider", "name", "purpose"]
  | .prompts => ["id", "role", "template"]
  | .constraints => ["id", "rule", "severity"]
  | .tasks => ["id", "description"]

end Collection

/-- What a step of a task can refer to. -/
inductive Reference where
  | model
  | prompt
  deriving DecidableEq, Repr

namespace Reference

def key : Reference → String
  | .model => "model"
  | .prompt => "prompt"

/-- The collection whose identifiers can be referred to. -/
def target : Reference → Collection
  | .model => .models
  | .prompt => .prompts

end Reference

/-! ## Vocabulary -/

def schemaVersion : String := "0.1.0"

/-- A version that begins so is supported. -/
def supportedVersion : String := "0.1"

def infoFields : List String := ["title", "version", "description"]

def complexities : List String := ["low", "medium", "high"]

def modelTypes : List String :=
  ["LLM", "Vision", "Audio", "Multimodal", "Classification", "Embedding"]

def promptRoles : List String := ["system", "user", "assistant"]

def severities : List String := ["low", "medium", "high", "critical"]

end AgentSpec
