import AgentSpec.Check.Note

/-!
# Checks on the version and on the single mappings
-/

namespace AgentSpec.Check

/-- One fault for each absent section, in declared order. -/
def requiredSections (document : Tree) : List Note :=
  (Section.all.filter fun s => !document.has s.name).map fun s => .fault (.missingSection s)

def version : Tree → List Note
  | .text v =>
    if supportedVersion.toList.isPrefixOf v.toList then []
    else [.log (.unsupportedVersion v), .advice (.unsupportedVersion v)]
  | _ => [.fault .versionNotText]

def metadata (t : Tree) : List Note :=
  if t.isMapping then
    (if t.has "domain" then [] else [.advice (.recommended "ai_metadata" "domain")])
      ++ match t.field? "complexity" with
        | some c => if c.isOneOf complexities then [] else [.fault (.invalidComplexity c)]
        | none => []
  else [.fault (.notMapping "ai_metadata")]

def info (t : Tree) : List Note :=
  if t.isMapping then
    (infoFields.filter fun f => !t.has f).map (fun f => .fault (.missingInfoField f))
      ++ match t.field? "ai_metadata" with
        | some m => metadata m
        | none => []
  else [.fault (.notMapping "info")]

/-- A mapping that should have one field in particular. -/
def recommended (name field : String) (t : Tree) : List Note :=
  if t.isMapping then
    if t.has field then [] else [.advice (.recommended name field)]
  else [.fault (.notMapping name)]

def context : Tree → List Note := recommended "context" "memory"

def evaluation : Tree → List Note := recommended "evaluation" "metrics"

end AgentSpec.Check
