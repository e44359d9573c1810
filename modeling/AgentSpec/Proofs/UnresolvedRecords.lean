import AgentSpec.Proofs.Reference
import AgentSpec.Validator

/-!
# Records of unresolved references

A log record of an unresolved reference tells a position: that of a task among all elements of the
tasks and that of a step among all elements of its steps. In every run such records and the errors
on unresolved references are told from the same dangling mentions, so the first record belongs to
the first error and so on, and the position is where the document has the step
(`unresolved_records_locate`). The steps themselves are listed by position, each once.
-/

namespace AgentSpec

/-- What a record shows: its level, its message and its named numbers. -/
def Record.content (x : Record) : Level × String × List (String × Nat) :=
  (x.level, x.message, x.fields)

/-- What the record of a mention is to show. -/
def Mention.recordContent (r : Reference) (m : Mention) : Level × String × List (String × Nat) :=
  (.debug, r.recordOpening ++ Json.compact m.value, [("task", m.task), ("step", m.step)])

/-- The log and the errors of a run on a document tell about the same mentions, which are those that
dangle, in the order of their positions. -/
structure Located (d : Tree) (log : List Record) (errors : List String)
    (found : Reference → List Mention) : Prop where
  dangling : ∀ r m, m ∈ found r ↔ m.Dangles d r
  ordered : ∀ r, (found r).Pairwise Mention.Before
  kindRecords : ∀ r, (log.filter (opensWith Record.message r.recordOpening)).map Record.content =
    (found r).map (Mention.recordContent r)
  kindErrors : ∀ r, errors.filter (opensWith id r.opening) = (found r).map (Mention.message r)
  allRecords : (log.filter (opensWith Record.message unresolvedOpening)).map Record.content =
    (found .model).map (Mention.recordContent .model)
      ++ (found .prompt).map (Mention.recordContent .prompt)
  allErrors : errors.filter (opensWith id unknownOpening) =
    (found .model).map (Mention.message .model) ++ (found .prompt).map (Mention.message .prompt)

/-- How mentions are told in the log. -/
def Mention.recordWording : Wording Record Mention where
  text := Record.message
  common := unresolvedOpening
  opening := Reference.recordOpening
  entry := record
  common_prefix := Reference.unresolvedOpening_prefix
  opening_prefix_iff r r' m := recordOpening_prefix_iff r r' m.value m.task m.step

theorem LoadError.not_opening (e : LoadError) : ¬ unknownOpening.toList <+: e.message.toList := by
  unfold unknownOpening message
  cases e <;> simp

namespace Check

/-! ## The log of a document -/

/-- The notes that come before those on references. -/
def ownNotes (d : Tree) : List Note :=
  .log .checkingRequired :: requiredSections d ++ Section.all.flatMap (sectionNotes d)
    ++ [.log .checkingReferences]

theorem notes_eq (d : Tree) : notes d = ownNotes d ++ references d := by
  simp [notes, ownNotes]

theorem own_ownNotes (d : Tree) : Own (ownNotes d) := by
  refine Own.append (Own.append ?_ ?_) ?_
  · exact List.forall_mem_cons.mpr ⟨trivial, own_map_fault fun _ _ => trivial⟩
  · intro n hn
    obtain ⟨s, _, hs⟩ := List.mem_flatMap.mp hn
    exact own_sectionNotes d s n hs
  · exact List.forall_mem_singleton.mpr trivial

theorem records_references (d : Tree) :
    records (references d) =
      (mentions d .model).map (Mention.record .model)
        ++ (mentions d .prompt).map (Mention.record .prompt) := by
  rw [references_eq, records_append, records_flatMap, records_flatMap, List.map_eq_flatMap,
    List.map_eq_flatMap]
  rfl

theorem validationLog_eq (d : Tree) :
    validationLog d = records (ownNotes d)
      ++ ((mentions d .model).map (Mention.record .model)
        ++ (mentions d .prompt).map (Mention.record .prompt))
      ++ [.finished (validate d).errors.length (validate d).warnings.length] := by
  rw [validationLog, notes_eq, records_append, records_references]

theorem others_of_local {log : List Record} (h : ∀ x ∈ log, x.IsLocal) :
    Mention.recordWording.Others log := fun x hx => (h x hx).not_opening

theorem log_tells (d : Tree) : Mention.recordWording.Tells (mentions d) (validationLog d) :=
  ⟨records (ownNotes d), [.finished (validate d).errors.length (validate d).warnings.length],
    others_of_local (own_ownNotes d).records,
    others_of_local (List.forall_mem_singleton.mpr trivial), validationLog_eq d⟩

/-- What a log tells in the words of records, in what its records show. -/
theorem located {log : List Record} {d : Tree}
    (h : Mention.recordWording.Tells (mentions d) log) :
    Located d log (validate d).errors (mentions d) where
  dangling _ _ := mem_mentions_iff
  ordered := mentions_ordered d
  kindRecords r := by
    have hr := congrArg (List.map Record.content) (h.filter_opening r)
    rwa [List.map_map] at hr
  kindErrors := (errors_tell d).filter_opening
  allRecords := by
    have hr := congrArg (List.map Record.content) h.filter_common
    rwa [List.map_append, List.map_map, List.map_map] at hr
  allErrors := (errors_tell d).filter_common

end Check

namespace Validator

theorem isLocal_loadLog (path : String) (found? : Option Entry) :
    ∀ x ∈ loadLog path found?, x.IsLocal := by
  unfold loadLog
  split <;> simp [Record.IsLocal]

/-- What the program logs before it checks the document or tells why there is none. -/
def openingLog (path : String) (found? : Option Entry) : List Record :=
  .started path :: .validating path :: loadLog path found?

theorem isLocal_openingLog (path : String) (found? : Option Entry) :
    ∀ x ∈ openingLog path found?, x.IsLocal :=
  List.forall_mem_cons.mpr ⟨trivial, List.forall_mem_cons.mpr
    ⟨trivial, isLocal_loadLog path found?⟩⟩

end Validator

/-- Every value as tasks has its steps listed in the order of their positions, each step once, where
it stands among all elements of the value. In every run on a document, the log and the errors tell
about the same dangling mentions in this order, for each kind of reference and for both. So they do
in every run of a validator on a path that leads to a document, whatever it kept before; a run on
any other path tells about none. -/
theorem unresolved_records_locate :
    (∀ tasks : Tree, (Check.steps tasks).Pairwise Check.Step.Before ∧
      (∀ p, p ∈ Check.steps tasks ↔ tasks.HasStep p.task p.step p.value) ∧
      ∀ t s step, tasks.HasStep t s step ↔
        ((Check.steps tasks).filter fun p => p.task = t ∧ p.step = s) = [⟨t, s, step⟩]) ∧
    (∀ d : Tree, ∃ found, Located d (validationLog d) (validate d).errors found) ∧
    ∀ (v : Validator) (path : String) (found? : Option Entry),
      let log := .started path :: Validator.foundLog path found?
      let errors := (v.validateFound path found?).2.outcome.errors
      match load path found? with
      | .ok d => ∃ found, Located d log errors found
      | .error _ => (∀ x ∈ log, ¬ unresolvedOpening.toList <+: x.message.toList) ∧
        ∀ e ∈ errors, ¬ unknownOpening.toList <+: e.toList := by
  refine ⟨fun tasks => ⟨Check.steps_ordered tasks, fun p => Check.mem_steps_iff_hasStep,
    fun t s step => Check.hasStep_iff_filter⟩,
    fun d => ⟨_, Check.located (Check.log_tells d)⟩, fun v path found? => ?_⟩
  have hopening := Check.others_of_local (Validator.isLocal_openingLog path found?)
  intro log errors
  cases hl : load path found? with
  | ok d =>
    have hlog : log = Validator.openingLog path found? ++ validationLog d := by
      simp only [log, Validator.foundLog, hl]
      rfl
    have herrors : errors = (validate d).errors := by
      simp only [errors, Validator.validateFound, hl]
      rfl
    rw [hlog, herrors]
    exact ⟨_, Check.located ((Check.log_tells d).append hopening)⟩
  | error e =>
    have hlog : log = Validator.openingLog path found? ++ [.loadFailed path e.message] := by
      simp only [log, Validator.foundLog, hl]
      rfl
    have herrors : errors = [e.message] := by
      simp only [errors, Validator.validateFound, hl]
      rfl
    rw [hlog, herrors]
    have hfailed : Mention.recordWording.Others [.loadFailed path e.message] :=
      Check.others_of_local (List.forall_mem_singleton.mpr trivial)
    exact ⟨List.forall_mem_append.mpr ⟨hopening, hfailed⟩,
      List.forall_mem_singleton.mpr e.not_opening⟩

end AgentSpec
