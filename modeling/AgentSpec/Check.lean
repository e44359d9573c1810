import AgentSpec.Check.Reference
import AgentSpec.Check.Section

/-!
# Checking a document

A document is checked for its required sections, then section by section, then across sections.
No check depends on what another found.
-/

namespace AgentSpec

namespace Check

def ofSection : Section → Tree → List Note
  | .version => version
  | .info => info
  | .models => collection .models
  | .prompts => collection .prompts
  | .constraints => collection .constraints
  | .tasks => collection .tasks
  | .context => context
  | .evaluation => evaluation

theorem ofSection_toSection (c : Collection) (t : Tree) :
    ofSection c.toSection t = collection c t := by
  cases c <;> rfl

/-- The notes on one section of a document, none if it is absent. -/
def sectionNotes (document : Tree) (s : Section) : List Note :=
  match document.field? s.name with
  | some value => .log (.checkingSection s) :: ofSection s value
  | none => []

def notes (document : Tree) : List Note :=
  .log .checkingRequired :: requiredSections document
    ++ Section.all.flatMap (sectionNotes document)
    ++ .log .checkingReferences :: references document

end Check

/-- The findings on a document. -/
def validate (document : Tree) : Outcome := .ofNotes (Check.notes document)

/-- What checking a document logs. -/
def validationLog (document : Tree) : List Record :=
  let o := validate document
  records (Check.notes document) ++ [.finished o.errors.length o.warnings.length]

end AgentSpec
