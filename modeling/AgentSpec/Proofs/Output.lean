import AgentSpec.CommandLine
import AgentSpec.Proofs.Json.RoundTrip
import AgentSpec.Proofs.Session

/-!
# Outcomes as JSON

With `--json` a validation prints its outcome and nothing else. Read as a document, the text is the
outcome again, whatever its messages hold: `json_output_decodes`.
-/

namespace AgentSpec

open Json CommandLine

theorem ordered_texts (texts : List String) :
    (Tree.sequence (texts.map Tree.text)).Ordered := by
  refine .sequence fun t ht => ?_
  obtain ⟨s, -, rfl⟩ := List.mem_map.mp ht
  exact .text s

/-- The outcome as it is read back, with its fields in the order of their names. -/
def Outcome.decoded (o : Outcome) : OrderedTree where
  val := .mapping [("errors", .sequence (o.errors.map Tree.text)), ("valid", .boolean o.valid),
    ("warnings", .sequence (o.warnings.map Tree.text))]
  property := by
    have hnames : ["errors", "valid", "warnings"].Pairwise (· < ·) := by decide
    exact .mapping hnames <| List.forall_mem_cons.mpr ⟨ordered_texts o.errors,
      List.forall_mem_cons.mpr ⟨.boolean o.valid,
        List.forall_mem_cons.mpr ⟨ordered_texts o.warnings, List.forall_mem_nil _⟩⟩⟩

theorem Outcome.ofFields_decoded (o : Outcome) :
    Tree.ofFields [("valid", .boolean o.valid), ("errors", .sequence (o.errors.map Tree.text)),
      ("warnings", .sequence (o.warnings.map Tree.text))] = o.decoded := by
  simp only [Tree.ofFields, List.foldl_cons, List.foldl_nil, Tree.insertField, decoded]
  rw [if_neg (by decide), if_pos (by decide), Tree.insertField, if_neg (by decide),
    if_neg (by decide), Tree.insertField, if_neg (by decide), if_neg (by decide)]
  rfl

theorem spells_texts {depth : Nat} (level : Nat) (texts : List String) :
    Spells (value (depth + 1)) (writePretty level (.sequence (texts.map Tree.text)))
      (.sequence (texts.map Tree.text)) := by
  refine spells_writePretty_sequence level fun t ht => ?_
  obtain ⟨s, -, rfl⟩ := List.mem_map.mp ht
  exact spells_text s

theorem Outcome.read_pretty (o : Outcome) :
    Json.read (pretty o.toTree ++ "\n") = .ok o.decoded.val := by
  have hfields : Spells (value (125 + 1 + 1)) (writePretty 0 o.toTree) o.decoded := by
    rw [← o.ofFields_decoded]
    refine spells_writePretty_mapping 0 ?_
    exact List.forall_mem_cons.mpr ⟨spells_boolean o.valid, List.forall_mem_cons.mpr
      ⟨spells_texts 1 o.errors, List.forall_mem_cons.mpr
        ⟨spells_texts 1 o.warnings, List.forall_mem_nil _⟩⟩⟩
  have hline : Blanks ['\n'] := by simp [Blanks, isBlank]
  exact read_of_spells hfields hline (by simp [pretty])

/-- What a run with a file leads to is the outcome of what is loaded. -/
theorem Validator.outcome_ofFound (fs : FileSystem) (path : String) :
    (ofFound path (fs.resolve? path)).outcome =
      outcomeOf (some ((fs.load path).map Subtype.val)) :=
  congrArg (fun r => r.2.outcome) (step_of_input (s := .validateFile fs path) rfl initial)

/-- What is printed in JSON mode is read as the mapping of the outcome's three fields: for every
validator, and for every run of the program on a document or on what cannot be loaded. -/
theorem json_output_decodes (env : Environment) (r : Request) (h : r.mode = .json)
    (origin : String) :
    (∀ v : Validator, parse .json (r.shown env v) origin = .ok v.outcome.decoded) ∧
    ∀ (fs : FileSystem) (args : List String), CommandLine.read args = .ok (.validate r) →
      parse .json (run env fs args).stdout origin =
        .ok (Validator.outcomeOf (some ((fs.load r.file).map Subtype.val))).decoded := by
  have hshown : ∀ v : Validator, parse .json (r.shown env v) origin = .ok v.outcome.decoded := by
    intro v
    rw [parse_json_eq_ok_iff, ← v.outcome.read_pretty]
    simp only [Request.shown, h]
  refine ⟨hshown, fun fs args hargs => ?_⟩
  have hout : (run env fs args).stdout =
      r.shown env (Validator.ofFound r.file (fs.resolve? r.file)) := by
    simp only [run, hargs]
    rfl
  rw [hout, hshown, Validator.outcome_ofFound]

/-- A file that is missing, with quotes and control characters in its name. -/
theorem json_output_decodes_missing :
    let args := ["validate", "--json", "\"é\n\x01.json"]
    let r : Request := ⟨"\"é\n\x01.json", .json, 0, false⟩
    r.mode = .json ∧ CommandLine.read args = .ok (.validate r) ∧
      ∃ t : OrderedTree, parse .json (run [] ⟨[], []⟩ args).stdout "out.json" = .ok t ∧
        t.val = .mapping [("errors", .sequence [.text "File not found: \"é\n\x01.json"]),
          ("valid", .boolean false), ("warnings", .sequence [])] := by
  intro args r
  have hread : CommandLine.read args = .ok (.validate r) := by decide +kernel
  have hload : FileSystem.load ⟨[], []⟩ r.file = .error (.notFound r.file) := by
    have hresolve : FileSystem.resolve? ⟨[], []⟩ r.file = none := by
      have hsplit : Text.split '/' r.file.toList = [r.file.toList] := by decide +kernel
      rw [FileSystem.resolve?, if_neg (by decide +kernel), hsplit, Folder.Location.startOf,
        if_neg (by decide +kernel), Folder.Location.walk, if_neg (by decide +kernel),
        if_neg (by decide +kernel)]
      rfl
    rw [FileSystem.load, hresolve]
    rfl
  have hout := (json_output_decodes [] r rfl "out.json").2 ⟨[], []⟩ args hread
  rw [hload] at hout
  exact ⟨rfl, hread, _, hout, rfl⟩

end AgentSpec
