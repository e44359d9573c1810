import AgentSpec.CommandLine
import AgentSpec.Proofs.Arguments
import AgentSpec.Proofs.Files
import AgentSpec.Proofs.Session

/-!
# Verdicts and how they are shown

The exit code of a validation is the verdict on its file. Mode, verbosity, colour and environment
decide only what is written and where: `verdict_apart_from_display` compares any two command lines
for one file, and says which of them write the same and which write nothing.
-/

namespace AgentSpec

open CommandLine

namespace Validator

theorem ofFound_of_ok {fs : FileSystem} {path : String} {d : OrderedTree}
    (h : fs.load path = .ok d) :
    ofFound path (fs.resolve? path) = ⟨validate d, none⟩ :=
  congrArg Prod.snd (step_validateFile_of_ok initial h)

theorem ofFound_of_error {fs : FileSystem} {path : String} {e : LoadError}
    (h : fs.load path = .error e) :
    ofFound path (fs.resolve? path) = ⟨⟨false, [e.message], []⟩, some e⟩ :=
  congrArg Prod.snd (step_validateFile_of_error initial h)

end Validator

/-! ## Texts that are not empty -/

theorem append_line_ne_empty (s : String) : s ++ "\n" ≠ "" := by
  intro h
  exact absurd (String.append_eq_empty_iff.mp h).2 (by decide)

theorem report_ne_empty (color : Bool) (o : Outcome) : report color o ≠ "" := by
  intro h
  rw [report] at h
  obtain ⟨hblocks, hsummary⟩ := String.append_eq_empty_iff.mp h
  obtain ⟨herrors, -⟩ := String.append_eq_empty_iff.mp hblocks
  cases he : o.errors with
  | nil =>
    rw [he, List.isEmpty_nil, if_pos rfl] at hsummary
    exact append_line_ne_empty _ hsummary
  | cons m ms =>
    rw [he, Report.block, if_neg (by simp)] at herrors
    exact append_line_ne_empty _ (String.append_eq_empty_iff.mp herrors).1

theorem LoadError.diagnostic_ne_empty (e : LoadError) : e.diagnostic ≠ "" :=
  append_line_ne_empty _

theorem logText_zero (color : Bool) (records : List Record) : logText 0 color records = "" := by
  have hnone : records.filter (Record.shown 0) = [] := by
    refine List.filter_eq_nil_iff.mpr fun r _ => ?_
    cases h : r.level <;> simp [Record.shown, h]
  rw [logText, hnone]
  rfl

namespace CommandLine

theorem run_of_read (env : Environment) (fs : FileSystem) {args : List String} {r : Request}
    (h : read args = .ok (.validate r)) : run env fs args = r.output env (fs.resolve? r.file) := by
  rw [run, h]
  rfl

namespace Request

variable (env : Environment) {fs : FileSystem} {r : Request}

theorem output_of_ok {d : OrderedTree} (h : fs.load r.file = .ok d) :
    let o := r.output env (fs.resolve? r.file)
    o.code = (if (validate d).valid then 0 else 1) ∧
      o.stdout = (match r.mode with
        | .report => AgentSpec.report (!r.noColor && env.reportColor) (validate d)
        | .json => Json.pretty (validate d).toTree ++ "\n"
        | .quiet => "") ∧
      o.stderr = r.log env (fs.resolve? r.file) := by
  rw [output, Validator.ofFound_of_ok h]
  cases hm : r.mode <;> simp [exitCode, shown, diagnostic, hm]

theorem output_of_error {e : LoadError} (h : fs.load r.file = .error e) :
    let o := r.output env (fs.resolve? r.file)
    o.code = 1 ∧
      o.stdout = (match r.mode with
        | .json => Json.pretty (Outcome.toTree ⟨false, [e.message], []⟩) ++ "\n"
        | _ => "") ∧
      o.stderr = r.log env (fs.resolve? r.file) ++ (match r.mode with
        | .report => e.diagnostic
        | _ => "") := by
  rw [output, Validator.ofFound_of_error h]
  cases hm : r.mode <;> simp [exitCode, shown, diagnostic, hm]

theorem log_silent (h : r.verbosity = 0) (found? : Option Entry) : r.log env found? = "" := by
  rw [log, h]
  exact logText_zero _ _

end Request
end CommandLine

/-- Any two validations of one file agree on their exit code, which is the verdict on the file.
What is printed does not depend on the verbosity. It is nothing in quiet mode, something that not
even environment and colour change in JSON mode, and in report mode nothing just when there is no
document. Without a word for more log the standard error has something to say in the latter case
and in no other. -/
theorem verdict_apart_from_display (fs : FileSystem) (env env' : Environment)
    {args args' : List String} {r r' : Request} (h : read args = .ok (.validate r))
    (h' : read args' = .ok (.validate r')) (hfile : r'.file = r.file) :
    let o := run env fs args
    let o' := run env' fs args'
    o.code = (match fs.load r.file with
      | .ok d => if (validate d).valid then 0 else 1
      | .error _ => 1) ∧
    o'.code = o.code ∧
    (env' = env → r'.mode = r.mode → r'.noColor = r.noColor → o'.stdout = o.stdout) ∧
    (r.mode = .quiet → o.stdout = "") ∧
    (r.mode = .json → o.stdout ≠ "" ∧ (r'.mode = .json → o'.stdout = o.stdout)) ∧
    (r.mode = .report → (o.stdout = "" ↔ ∃ e, fs.load r.file = .error e)) ∧
    (verbosityOf args = 0 →
      (o.stderr ≠ "" ↔ r.mode = .report ∧ ∃ e, fs.load r.file = .error e)) := by
  intro o o'
  have ho : o = r.output env (fs.resolve? r.file) := run_of_read env fs h
  have ho' : o' = r'.output env' (fs.resolve? r'.file) := run_of_read env' fs h'
  have hlog : verbosityOf args = 0 → r.log env (fs.resolve? r.file) = "" := fun hv =>
    Request.log_silent env ((verbosity_eq_zero_iff h).mpr hv) _
  cases hl : fs.load r.file with
  | ok d =>
    obtain ⟨hcode, hout, herr⟩ := Request.output_of_ok env hl
    obtain ⟨hcode', hout', -⟩ := Request.output_of_ok env' (hfile ▸ hl)
    rw [← ho] at hcode hout herr
    rw [← ho'] at hcode' hout'
    have hnone : ¬ ∃ e : LoadError, (.ok d : Except LoadError OrderedTree) = .error e := by
      rintro ⟨e, he⟩
      cases he
    refine ⟨hcode, hcode'.trans hcode.symm, ?_, ?_, ?_, ?_, ?_⟩
    · intro henv hmode hcolor
      rw [hout, hout', henv, hmode, hcolor]
    · intro hm
      rw [hout, hm]
    · intro hm
      rw [hout, hm]
      refine ⟨append_line_ne_empty _, fun hm' => ?_⟩
      rw [hout', hm']
    · intro hm
      rw [hout, hm]
      exact ⟨fun he => absurd he (report_ne_empty _ _), fun he => absurd he hnone⟩
    · intro hv
      rw [herr, hlog hv]
      exact ⟨fun hne => absurd rfl hne, fun he => absurd he.2 hnone⟩
  | error e =>
    obtain ⟨hcode, hout, herr⟩ := Request.output_of_error env hl
    obtain ⟨hcode', hout', -⟩ := Request.output_of_error env' (hfile ▸ hl)
    rw [← ho] at hcode hout herr
    rw [← ho'] at hcode' hout'
    refine ⟨hcode, hcode'.trans hcode.symm, ?_, ?_, ?_, ?_, ?_⟩
    · intro _ hmode _
      rw [hout, hout', hmode]
    · intro hm
      rw [hout, hm]
    · intro hm
      rw [hout, hm]
      refine ⟨append_line_ne_empty _, fun hm' => ?_⟩
      rw [hout', hm']
    · intro hm
      rw [hout, hm]
      exact ⟨fun _ => ⟨e, rfl⟩, fun _ => rfl⟩
    · intro hv
      rw [herr, hlog hv, String.empty_append]
      cases hm : r.mode with
      | report => exact ⟨fun _ => ⟨rfl, e, rfl⟩, fun _ => e.diagnostic_ne_empty⟩
      | json => exact ⟨fun hne => absurd rfl hne, fun hm' => by cases hm'.1⟩
      | quiet => exact ⟨fun hne => absurd rfl hne, fun hm' => by cases hm'.1⟩

/-- A missing file, shown by its diagnostic and, with more log and forced colour, as JSON. -/
theorem verdict_apart_from_display_missing :
    let fs : FileSystem := ⟨[], []⟩
    let args := ["validate", "a.json"]
    let args' := ["-v", "validate", "--json", "a.json", "--no-color"]
    let o := run [] fs args
    let o' := run [("CLICOLOR_FORCE", "1")] fs args'
    let r : Request := ⟨"a.json", .report, 0, false⟩
    let r' : Request := ⟨"a.json", .json, 1, true⟩
    read args = .ok (.validate r) ∧ read args' = .ok (.validate r') ∧ r'.file = r.file ∧
      o.code = 1 ∧ o'.code = 1 ∧ o.stdout = "" ∧ o.stderr ≠ "" ∧ o'.stdout ≠ "" := by
  intro fs args args' o o' r r'
  have hread : read args = .ok (.validate r) := by decide +kernel
  have hread' : read args' = .ok (.validate r') := by decide +kernel
  have hload : fs.load r.file = .error (.notFound r.file) :=
    FileSystem.load_of_absent (by decide +kernel) rfl
  obtain ⟨hcode, hsame, -, -, -, hreport, herr⟩ :=
    verdict_apart_from_display fs [] [("CLICOLOR_FORCE", "1")] hread hread' rfl
  obtain ⟨-, -, -, -, hjson, -⟩ :=
    verdict_apart_from_display fs [("CLICOLOR_FORCE", "1")] [] hread' hread rfl
  rw [hload] at hcode
  exact ⟨hread, hread', rfl, hcode, hsame.trans hcode, (hreport rfl).mpr ⟨_, hload⟩,
    (herr (by decide +kernel)).mpr ⟨rfl, _, hload⟩, (hjson rfl).1⟩

end AgentSpec
