import AgentSpec.Check.Reference
import AgentSpec.Proofs.Value

/-!
# Steps and declarations of a document

`StepAt` and `Declares` say in terms of the document where its steps are and which identifiers it
declares. `Check.steps` lists the steps each once, in the order of their positions
(`mem_steps_iff`, `steps_ordered`, `hasStep_iff_filter`), and `Check.declaredIds` the identifiers
(`mem_declaredIds_iff`).
-/

namespace AgentSpec

/-- The mapping `step` is the element at position `s` in the steps of the task at position `t`;
positions count every element, of whatever shape. -/
def StepAt (d : Tree) (t s : Nat) (step : Tree) : Prop :=
  ∃ tasks task steps, d.field? "tasks" = some (.sequence tasks) ∧ tasks[t]? = some task ∧
    task.field? "steps" = some (.sequence steps) ∧ steps[s]? = some step ∧ step.isMapping = true

/-- The same position in a value taken as tasks: the element at `t`, counted among all, is a mapping
with a sequence of steps, and `step` is the mapping at `s` in it. -/
def Tree.HasStep (tasks : Tree) (t s : Nat) (step : Tree) : Prop :=
  ∃ ts task steps, tasks = .sequence ts ∧ ts[t]? = some task ∧ task.isMapping = true ∧
    task.field? "steps" = some (.sequence steps) ∧ steps[s]? = some step ∧ step.isMapping = true

/-- An entry of the collection has the identifier `id`. -/
def Declares (d : Tree) (c : Collection) (id : Tree) : Prop :=
  ∃ entries, d.field? c.toSection.name = some (.sequence entries) ∧
    ∃ e ∈ entries, e.field? "id" = some id

namespace Tree

theorem items?_eq_some_iff {t : Tree} {ts : List Tree} :
    t.items? = some ts ↔ t = .sequence ts := by
  cases t <;> simp [items?]

theorem has_iff {t : Tree} {name : String} :
    t.has name = true ↔ ∃ v, t.field? name = some v :=
  Option.isSome_iff_exists

/-- Only a mapping has fields. -/
theorem isMapping_of_field? {t v : Tree} {name : String} (h : t.field? name = some v) :
    t.isMapping = true := by
  cases t <;> simp_all [field?, isMapping]

theorem field?_of_not_isMapping {t : Tree} (h : ¬ t.isMapping = true) (name : String) :
    t.field? name = none := by
  cases hf : t.field? name with
  | none => rfl
  | some v => exact absurd (isMapping_of_field? hf) h

end Tree

theorem stepAt_iff_hasStep {d step : Tree} {t s : Nat} :
    StepAt d t s step ↔ ∃ tasks, d.field? "tasks" = some tasks ∧ tasks.HasStep t s step := by
  constructor
  · rintro ⟨ts, task, steps, hd, ht, hf, hs, hm⟩
    exact ⟨.sequence ts, hd, ts, task, steps, rfl, ht, Tree.isMapping_of_field? hf, hf, hs, hm⟩
  · rintro ⟨-, hd, ts, task, steps, rfl, ht, -, hf, hs, hm⟩
    exact ⟨ts, task, steps, hd, ht, hf, hs, hm⟩

namespace Check

/-- The order of positions: by task, and within a task by step. -/
def Step.Before (p q : Step) : Prop := p.task < q.task ∨ p.task = q.task ∧ p.step < q.step

theorem mem_stepsOf_iff {t s i : Nat} {task step : Tree} :
    ⟨t, s, step⟩ ∈ stepsOf i task ↔ t = i ∧ ∃ steps, task.field? "steps" = some (.sequence steps) ∧
      steps[s]? = some step ∧ step.isMapping = true := by
  simp only [stepsOf, List.mem_filterMap, Prod.exists, List.mk_mem_zipIdx_iff_getElem?]
  constructor
  · rintro ⟨step', s', hs, hif⟩
    by_cases hm : step'.isMapping = true
    · rw [if_pos hm] at hif
      cases hif
      cases hf : (task.field? "steps").bind Tree.items? with
      | none => simp [hf] at hs
      | some steps =>
        obtain ⟨v, hv, hi⟩ := Option.bind_eq_some_iff.mp hf
        rw [Tree.items?_eq_some_iff.mp hi] at hv
        exact ⟨rfl, steps, hv, by simpa [hf] using hs, hm⟩
    · rw [if_neg hm] at hif
      cases hif
  · rintro ⟨rfl, steps, hf, hs, hm⟩
    exact ⟨step, s, by simpa [hf, Tree.items?] using hs, by rw [if_pos hm]⟩

/-- The listed steps are those of the tasks, at their positions. -/
theorem mem_steps_iff_hasStep {tasks : Tree} {p : Step} :
    p ∈ steps tasks ↔ tasks.HasStep p.task p.step p.value := by
  obtain ⟨t, s, step⟩ := p
  simp only [steps, List.mem_flatMap, Prod.exists, List.mk_mem_zipIdx_iff_getElem?,
    mem_stepsOf_iff, Tree.HasStep]
  constructor
  · rintro ⟨task, i, ht, rfl, steps, hf, hs, hm⟩
    cases tasks with
    | sequence ts =>
      exact ⟨ts, task, steps, rfl, by simpa [Tree.items?] using ht, Tree.isMapping_of_field? hf,
        hf, hs, hm⟩
    | _ => simp [Tree.items?] at ht
  · rintro ⟨ts, task, steps, rfl, ht, -, hf, hs, hm⟩
    exact ⟨task, t, by simpa [Tree.items?] using ht, rfl, steps, hf, hs, hm⟩

theorem mem_steps_iff {d tasks step : Tree} {t s : Nat} (h : d.field? "tasks" = some tasks) :
    ⟨t, s, step⟩ ∈ steps tasks ↔ StepAt d t s step := by
  rw [mem_steps_iff_hasStep, stepAt_iff_hasStep]
  simp [h]

theorem zipIdx_ordered {α : Type} (xs : List α) : xs.zipIdx.Pairwise fun a b => a.2 < b.2 := by
  have h : (xs.zipIdx.map Prod.snd).Pairwise (· < ·) := by
    rw [List.zipIdx_map_snd]
    exact List.pairwise_lt_range'
  exact List.pairwise_map.mp h

theorem stepsOf_ordered (i : Nat) (task : Tree) : (stepsOf i task).Pairwise Step.Before := by
  refine List.Pairwise.filterMap _ (fun a b hab p hp q hq => ?_) (zipIdx_ordered _)
  simp only at hp hq
  split at hp <;> cases hp
  split at hq <;> cases hq
  exact Or.inr ⟨rfl, hab⟩

/-- Steps are listed in the order of their positions, so none of them twice. -/
theorem steps_ordered (tasks : Tree) : (steps tasks).Pairwise Step.Before := by
  refine List.pairwise_flatMap.mpr ⟨fun a _ => stepsOf_ordered a.2 a.1, ?_⟩
  refine (zipIdx_ordered _).imp fun hab p hp q hq => Or.inl ?_
  rwa [(mem_stepsOf_iff.mp hp).1, (mem_stepsOf_iff.mp hq).1]

/-- In an ordered list whose elements are not in order there is at most one. -/
theorem eq_singleton_of_unordered {α : Type} {R : α → α → Prop} {xs : List α} {a : α}
    (h : xs.Pairwise R) (hR : ∀ x ∈ xs, ∀ y ∈ xs, ¬ R x y) (ha : a ∈ xs) : xs = [a] := by
  cases h with
  | nil => cases ha
  | @cons x rest hx _ =>
    have hrest : rest = [] := List.eq_nil_iff_forall_not_mem.mpr fun y hy =>
      hR x List.mem_cons_self y (List.mem_cons_of_mem _ hy) (hx y hy)
    rw [hrest, List.mem_singleton] at ha
    rw [hrest, ha]

/-- A position that has a step is listed once. -/
theorem hasStep_iff_filter {tasks step : Tree} {t s : Nat} :
    tasks.HasStep t s step ↔
      ((steps tasks).filter fun p => p.task = t ∧ p.step = s) = [⟨t, s, step⟩] := by
  have hmem : ∀ p : Step, (p ∈ (steps tasks).filter fun p => p.task = t ∧ p.step = s) ↔
      tasks.HasStep p.task p.step p.value ∧ p.task = t ∧ p.step = s := by
    intro p
    rw [List.mem_filter, mem_steps_iff_hasStep, decide_eq_true_iff]
  constructor
  · intro h
    -- of two steps at one position neither could come before the other
    refine eq_singleton_of_unordered ((steps_ordered tasks).filter _) (fun p hp q hq hpq => ?_)
      ((hmem _).mpr ⟨h, rfl, rfl⟩)
    have hpt := ((hmem p).mp hp).2
    have hqt := ((hmem q).mp hq).2
    unfold Step.Before at hpq
    omega
  · intro h
    exact ((hmem ⟨t, s, step⟩).mp (h ▸ List.mem_cons_self)).1

/-- Elements of other shapes count, before a step as before a task. -/
example :
    let step : Tree := .mapping [("model", .text "m")]
    let tasks : Tree := .sequence [.null, .mapping [("steps", .sequence [.text "a", step])],
      .mapping [("steps", .text "a")], .mapping [("steps", .sequence [step])]]
    steps tasks = [⟨1, 1, step⟩, ⟨3, 0, step⟩] := rfl

/-! ## Identifiers -/

theorem knows_iff {ids : List Tree} {v : Tree} : knows ids v = true ↔ ∃ id ∈ ids, id ≈ v := by
  rw [knows, List.any_eq_true]
  refine exists_congr fun id => and_congr_right fun _ => ?_
  rw [Tree.same_comm]
  exact Tree.same_iff

theorem mem_declaredIds_iff {d declaring id : Tree} {c : Collection}
    (h : d.field? c.toSection.name = some declaring) :
    id ∈ declaredIds declaring ↔ Declares d c id := by
  simp only [declaredIds, List.mem_filterMap, Declares, h, id?, Option.some.injEq]
  constructor
  · rintro ⟨e, he, hid⟩
    cases declaring with
    | sequence entries => exact ⟨entries, rfl, e, by simpa [Tree.items?] using he, hid⟩
    | _ => simp [Tree.items?] at he
  · rintro ⟨entries, rfl, e, he, hid⟩
    exact ⟨e, by simpa [Tree.items?] using he, hid⟩

end Check
end AgentSpec
