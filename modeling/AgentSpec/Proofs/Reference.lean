import AgentSpec.Proofs.Message
import Mathlib.Data.List.Sort

/-!
# Unresolved references

A mention is a value that a step refers to, with the position of the step. It dangles when no
entry of the section referred to has that value as its identifier. The errors of a document end
with one message for each dangling mention of a model and then of a prompt, in the order of their
positions, and no other error is worded so: `unknownErrors_exact`.
-/

namespace AgentSpec

/-- A value that the step at position `step` of the task at position `task` refers to. -/
structure Mention where
  task : Nat
  step : Nat
  value : Tree

namespace Mention

def Before (m n : Mention) : Prop := m.task < n.task ∨ m.task = n.task ∧ m.step < n.step

/-- The section referred to is there, but none of its entries has the identifier referred to. -/
def Dangles (d : Tree) (r : Reference) (m : Mention) : Prop :=
  (∃ step, StepAt d m.task m.step step ∧ step.field? r.key = some m.value) ∧
    d.has r.target.toSection.name = true ∧ ∀ id, Declares d r.target id → ¬ id ≈ m.value

def message (r : Reference) (m : Mention) : String := r.opening ++ m.value.render

/-- The record of a mention, with its position. -/
def record (r : Reference) (m : Mention) : Record := .unresolved r m.value m.task m.step

/-- How mentions are told in the errors. -/
def errorWording : Wording String Mention where
  text := id
  common := unknownOpening
  opening := Reference.opening
  entry := message
  common_prefix := Reference.unknownOpening_prefix
  opening_prefix_iff r r' m := AgentSpec.opening_prefix_iff r r' m.value

/-- What is noted of a dangling mention: its record, then its fault. -/
def notes (r : Reference) (m : Mention) : List Note :=
  [.log (m.record r), .fault (.unknownReference r m.value)]

end Mention

/-- The errors of a document that are worded as unresolved references of one kind. -/
def unknownErrors (r : Reference) (d : Tree) : List String :=
  (validate d).errors.filter fun e => r.opening.toList.isPrefixOf e.toList

namespace Check

/-- The mention in a step that names none of the identifiers. -/
def unknownIn (r : Reference) (ids : List Tree) (s : Step) : Option Mention :=
  match s.value.field? r.key with
  | some v => if knows ids v then none else some ⟨s.task, s.step, v⟩
  | none => none

/-- The dangling mentions, in the order in which the check meets them. -/
def mentions (d : Tree) (r : Reference) : List Mention :=
  match d.field? "tasks", d.field? r.target.toSection.name with
  | some tasks, some declaring => (steps tasks).filterMap (unknownIn r (declaredIds declaring))
  | _, _ => []

theorem unknownIn_eq_some_iff {r : Reference} {ids : List Tree} {s : Step} {m : Mention} :
    unknownIn r ids s = some m ↔
      m.task = s.task ∧ m.step = s.step ∧ s.value.field? r.key = some m.value ∧
        ∀ id ∈ ids, ¬ id ≈ m.value := by
  unfold unknownIn
  cases hf : s.value.field? r.key with
  | none => simp
  | some v =>
    have hk : knows ids v = false ↔ ∀ id ∈ ids, ¬ id ≈ v := by
      rw [← Bool.not_eq_true, knows_iff]
      simp
    by_cases h : knows ids v = true
    · simp only [h, if_true]
      constructor
      · intro e
        cases e
      · rintro ⟨_, _, hv, hn⟩
        rw [Option.some.injEq] at hv
        rw [hk.mpr (hv ▸ hn)] at h
        cases h
    · simp only [if_neg h, Option.some.injEq]
      constructor
      · rintro rfl
        exact ⟨rfl, rfl, rfl, hk.mp (Bool.eq_false_of_not_eq_true h)⟩
      · rintro ⟨ht, hs, hv, _⟩
        rw [← ht, ← hs, hv]

theorem mem_mentions_iff {d : Tree} {r : Reference} {m : Mention} :
    m ∈ mentions d r ↔ m.Dangles d r := by
  unfold mentions Mention.Dangles
  cases ht : d.field? "tasks" with
  | none =>
    refine ⟨fun h => absurd h List.not_mem_nil, ?_⟩
    rintro ⟨⟨step, ⟨tasks, _, _, htasks, _⟩, _⟩, _⟩
    rw [ht] at htasks
    cases htasks
  | some tasks =>
    cases hc : d.field? r.target.toSection.name with
    | none => simp [Tree.has, hc]
    | some declaring =>
      simp only [List.mem_filterMap, unknownIn_eq_some_iff, mem_declaredIds_iff hc, Tree.has, hc,
        Option.isSome_some, true_and]
      constructor
      · rintro ⟨⟨t, s, step⟩, hs, rfl, rfl, hv, hn⟩
        exact ⟨⟨step, (mem_steps_iff ht).mp hs, hv⟩, hn⟩
      · rintro ⟨⟨step, hs, hv⟩, hn⟩
        exact ⟨⟨m.task, m.step, step⟩, (mem_steps_iff ht).mpr hs, rfl, rfl, hv, hn⟩

theorem mentions_ordered (d : Tree) (r : Reference) :
    (mentions d r).Pairwise Mention.Before := by
  unfold mentions
  split
  · refine List.Pairwise.filterMap _ (fun p q hpq m hm n hn => ?_) (steps_ordered _)
    obtain ⟨hmt, hms, _⟩ := unknownIn_eq_some_iff.mp hm
    obtain ⟨hnt, hns, _⟩ := unknownIn_eq_some_iff.mp hn
    rw [Mention.Before, hmt, hms, hnt, hns]
    exact hpq
  · exact List.Pairwise.nil

/-! ## Notes -/

theorem unresolved_eq (r : Reference) (ids : List Tree) (s : Step) :
    unresolved r ids s = (unknownIn r ids s).toList.flatMap (Mention.notes r) := by
  unfold unresolved unknownIn
  cases s.value.field? r.key with
  | none => rfl
  | some v => cases h : knows ids v <;> simp [h, Mention.notes, Mention.record]

theorem referencesTo_eq {d tasks : Tree} (h : d.field? "tasks" = some tasks) (r : Reference) :
    referencesTo d tasks r = (mentions d r).flatMap (Mention.notes r) := by
  unfold referencesTo mentions
  rw [h]
  cases d.field? r.target.toSection.name with
  | none => rfl
  | some declaring =>
    simp only [funext (unresolved_eq r _)]
    rw [List.filterMap_eq_flatMap_toList, List.flatMap_assoc]

/-- The checks across sections note the dangling mentions and nothing else. -/
theorem references_eq (d : Tree) :
    references d = (mentions d .model).flatMap (Mention.notes .model)
      ++ (mentions d .prompt).flatMap (Mention.notes .prompt) := by
  unfold references
  cases h : d.field? Section.tasks.name with
  | none => simp only [mentions, show d.field? "tasks" = none from h, List.flatMap_nil,
      List.append_nil]
  | some tasks =>
    dsimp only
    rw [referencesTo_eq h, referencesTo_eq h]

/-! ## Faults -/

theorem faults_references (d : Tree) :
    faults (references d) =
      ((mentions d .model).map fun m => Fault.unknownReference .model m.value)
        ++ (mentions d .prompt).map fun m => Fault.unknownReference .prompt m.value := by
  rw [references_eq, faults_append, faults_flatMap, faults_flatMap, List.map_eq_flatMap,
    List.map_eq_flatMap]
  rfl

/-- The faults that the checks on single sections report. -/
def localFaults (d : Tree) : List Fault :=
  (absent d).map Fault.missingSection ++ Section.all.flatMap fun s => faults (sectionNotes d s)

theorem isLocal_of_mem_localFaults {d : Tree} {f : Fault} (h : f ∈ localFaults d) : f.IsLocal := by
  rcases List.mem_append.mp h with h | h
  · obtain ⟨s, _, rfl⟩ := List.mem_map.mp h
    trivial
  · obtain ⟨s, _, hs⟩ := List.mem_flatMap.mp h
    exact local_sectionNotes d s f hs

theorem faults_notes_eq_local_append (d : Tree) :
    faults (notes d) = localFaults d
      ++ ((mentions d .model).map fun m => Fault.unknownReference .model m.value)
      ++ (mentions d .prompt).map fun m => Fault.unknownReference .prompt m.value := by
  rw [faults_notes, faults_references, ← List.append_assoc]
  rfl

/-! ## Errors -/

theorem errors_eq (d : Tree) :
    (validate d).errors = (localFaults d).map Fault.message
      ++ (mentions d .model).map (Mention.message .model)
      ++ (mentions d .prompt).map (Mention.message .prompt) := by
  rw [validate_errors, faults_notes_eq_local_append, List.map_append, List.map_append,
    List.map_map, List.map_map]
  rfl

theorem not_opening_of_local {d : Tree} {e : String} (h : e ∈ (localFaults d).map Fault.message) :
    ¬ unknownOpening.toList <+: e.toList := by
  obtain ⟨f, hf, rfl⟩ := List.mem_map.mp h
  exact (isLocal_of_mem_localFaults hf).not_opening

theorem errors_tell (d : Tree) : Mention.errorWording.Tells (mentions d) (validate d).errors := by
  refine ⟨(localFaults d).map Fault.message, [], fun _ => not_opening_of_local,
    List.forall_mem_nil _, ?_⟩
  rw [errors_eq, List.append_nil, List.append_assoc]
  rfl

/-- The errors worded as unresolved references are those of the dangling mentions. -/
theorem unknownErrors_eq (r : Reference) (d : Tree) :
    unknownErrors r d = (mentions d r).map (Mention.message r) :=
  (errors_tell d).filter_opening r

/-- The errors worded as unresolved references, of either kind. -/
theorem filter_unknownOpening (d : Tree) :
    ((validate d).errors.filter fun e => unknownOpening.toList.isPrefixOf e.toList) =
      unknownErrors .model d ++ unknownErrors .prompt d := by
  rw [unknownErrors_eq, unknownErrors_eq]
  exact (errors_tell d).filter_common

end Check

/-- Fewer identifiers leave more mentions dangling. -/
theorem Mention.Dangles.mono {d d' : Tree} {r : Reference} {m : Mention}
    (htasks : d'.field? "tasks" = d.field? "tasks") (hd : d.has r.target.toSection.name = true)
    (hids : ∀ id, Declares d r.target id → ∃ id', Declares d' r.target id' ∧ id' ≈ id)
    (h : m.Dangles d' r) : m.Dangles d r := by
  obtain ⟨⟨step, hs, hv⟩, _, hn⟩ := h
  refine ⟨⟨step, ?_, hv⟩, hd, ?_⟩
  · unfold StepAt at hs ⊢
    rwa [← htasks]
  · intro id hid hm
    obtain ⟨id', hid', heq⟩ := hids id hid
    exact hn id' hid' (Setoid.trans heq hm)

theorem Mention.Before.asymm {m n : Mention} (h : m.Before n) : ¬ n.Before m := by
  unfold Mention.Before at h ⊢
  omega

/-- Ordered mentions form a sublist of any ordered mentions that include them. -/
theorem Mention.sublist_of_ordered {ms ns : List Mention} (hm : ms.Pairwise Before)
    (hn : ns.Pairwise Before) (h : ∀ m ∈ ms, m ∈ ns) : ms.Sublist ns := by
  have : Std.Antisymm Before := ⟨fun _ _ hmn hnm => absurd hnm hmn.asymm⟩
  have hnodup : ms.Nodup := hm.imp fun hmn => by
    rintro rfl
    exact hmn.asymm hmn
  exact List.sublist_of_subperm_of_pairwise (List.subperm_of_subset hnodup h) hm hn

/-- A document that declares at least what another declares has of its errors a sublist. -/
theorem unknownErrors_sublist {d d' : Tree} {r : Reference}
    (htasks : d'.field? "tasks" = d.field? "tasks") (hd : d.has r.target.toSection.name = true)
    (hids : ∀ id, Declares d r.target id → ∃ id', Declares d' r.target id' ∧ id' ≈ id) :
    (unknownErrors r d').Sublist (unknownErrors r d) := by
  rw [Check.unknownErrors_eq, Check.unknownErrors_eq]
  refine List.Sublist.map _ (Mention.sublist_of_ordered (Check.mentions_ordered d' r)
    (Check.mentions_ordered d r) fun m hm => ?_)
  exact Check.mem_mentions_iff.mpr ((Check.mem_mentions_iff.mp hm).mono htasks hd hids)

theorem unknownErrors_of_no_tasks {d : Tree} (h : d.has "tasks" = false) (r : Reference) :
    unknownErrors r d = [] := by
  have ht : d.field? "tasks" = none := by simpa [Tree.has] using h
  rw [Check.unknownErrors_eq, Check.mentions, ht, List.map_nil]

/-- The errors end with those on references, first to models, then to prompts. -/
theorem errors_eq_local_append_unknown (d : Tree) :
    (validate d).errors = (Check.localFaults d).map Fault.message
      ++ unknownErrors .model d ++ unknownErrors .prompt d := by
  rw [Check.unknownErrors_eq, Check.unknownErrors_eq]
  exact Check.errors_eq d

/-- The errors on unresolved references, for every document. Without tasks there are none. The
errors end with those on models and then those on prompts, and nothing before them is worded so.
Each of the two lists has one message for each dangling mention, in the order of positions. With
the same tasks, a document whose declarations cover those of another has of its errors a sublist,
and all of them if the declarations cover each other. -/
theorem unknownErrors_exact (d : Tree) :
    (d.has "tasks" = false → ∀ e ∈ (validate d).errors, ¬ unknownOpening.toList <+: e.toList) ∧
    (∃ before, (validate d).errors = before ++ unknownErrors .model d ++ unknownErrors .prompt d ∧
      ∀ e ∈ before, ¬ unknownOpening.toList <+: e.toList) ∧
    (∀ r, ∃ found : List Mention, found.Pairwise Mention.Before ∧
      (∀ m, m ∈ found ↔ m.Dangles d r) ∧ unknownErrors r d = found.map (Mention.message r)) ∧
    ∀ r d', d'.field? "tasks" = d.field? "tasks" → d.has r.target.toSection.name = true →
      d'.has r.target.toSection.name = true →
      (∀ id, Declares d r.target id → ∃ id', Declares d' r.target id' ∧ id' ≈ id) →
      (unknownErrors r d').Sublist (unknownErrors r d) ∧
      ((∀ id, Declares d' r.target id → ∃ id', Declares d r.target id' ∧ id' ≈ id) →
        unknownErrors r d' = unknownErrors r d) := by
  refine ⟨fun h e he => ?_, ⟨_, errors_eq_local_append_unknown d, fun e he => ?_⟩,
    fun r => ?_, fun r d' htasks hd hd' hids => ?_⟩
  · rw [errors_eq_local_append_unknown, unknownErrors_of_no_tasks h, unknownErrors_of_no_tasks h,
      List.append_nil, List.append_nil] at he
    exact Check.not_opening_of_local he
  · exact Check.not_opening_of_local he
  · exact ⟨Check.mentions d r, Check.mentions_ordered d r, fun m => Check.mem_mentions_iff,
      Check.unknownErrors_eq r d⟩
  · have hle := unknownErrors_sublist htasks hd hids
    exact ⟨hle, fun hids' => hle.antisymm (unknownErrors_sublist htasks.symm hd' hids')⟩

end AgentSpec
