import AgentSpec.Proofs.Advice
import Mathlib.Data.Finset.Card

/-!
# Order of declarations

The entries of the collections and the steps of the tasks may stand in any order: the verdict and
the numbers of errors and of warnings stay. Which of several entries with one identifier are
reported does depend on the order, but not how many. Their number is that of the identifiers less
that of their values, `length_faults_entries`. All is put together in `verdict_of_reordered`.
-/

namespace AgentSpec

/-! ## Reordered documents -/

/-- The same, or a sequence of the same items in another order. -/
inductive Tree.Reorders : Tree → Tree → Prop where
  | same (t : Tree) : Reorders t t
  | items {xs ys : List Tree} (h : xs.Perm ys) : Reorders (.sequence xs) (.sequence ys)

/-- The same task, but for the order of its steps. -/
inductive Tree.ReordersSteps (t t' : Tree) : Prop where
  | same (h : t' = t)
  | steps {xs ys : List Tree} (h : t.Replaces t' "steps" (.sequence xs) (.sequence ys))
      (hp : xs.Perm ys)

/-- The same, or a sequence of the same tasks in another order and with their steps reordered. -/
inductive Tree.ReordersTasks : Tree → Tree → Prop where
  | same (t : Tree) : ReordersTasks t t
  | items {xs ys zs : List Tree} (h : List.Forall₂ ReordersSteps xs ys) (hp : ys.Perm zs) :
      ReordersTasks (.sequence xs) (.sequence zs)

def Section.Reorders : Section → Tree → Tree → Prop
  | .models, t, t' => t.Reorders t'
  | .prompts, t, t' => t.Reorders t'
  | .constraints, t, t' => t.Reorders t'
  | .tasks, t, t' => t.ReordersTasks t'
  | _, t, t' => t' = t

/-- A document with the same sections, but for the order of its models, prompts, constraints and
tasks and of the steps of these. -/
def Reordered (d d' : Tree) : Prop :=
  ∀ s : Section, Option.Rel s.Reorders (d.field? s.name) (d'.field? s.name)

namespace Check

/-! ## Number of faults on entries -/

/-- The values of the identifiers of some entries, each once. -/
def idValues (items : List Tree) : Finset (Quotient Tree.byValue) :=
  ((ids items).map (Quotient.mk Tree.byValue)).toFinset

/-- The faults on an entry that do not come from the others: those it has as the only one. -/
def ownFaults (c : Collection) (e : Tree) : List Fault := faults (entryNotes c [] e)

theorem mem_idValues {items : List Tree} {id : Tree} :
    Quotient.mk Tree.byValue id ∈ idValues items ↔ knows (ids items) id = true := by
  simp only [idValues, List.mem_toFinset, List.mem_map, knows_iff, Quotient.eq]

theorem length_missingFields (c : Collection) (index index' : Nat) (e : Tree) :
    (faults (missingFields c index e)).length = (faults (missingFields c index' e)).length := by
  simp only [missingFields, faults_map_fault, List.length_map]

/-- An identifier is a duplicate when it adds no value to those before it. -/
theorem length_faults_duplicate (c : Collection) (before : List Tree) (e : Tree) :
    (faults (duplicate c (ids before) e)).length + (idValues (before ++ [e])).card =
      (id? e).toList.length + (idValues before).card := by
  unfold duplicate
  rw [idValues, ids_append_singleton, List.map_append, List.toFinset_append, ← idValues]
  cases id? e with
  | none => simp
  | some id =>
    have hunion : idValues before ∪ ([id].map (Quotient.mk Tree.byValue)).toFinset =
        insert (Quotient.mk Tree.byValue id) (idValues before) := by
      rw [List.map_singleton, List.toFinset_cons, List.toFinset_nil, Finset.union_insert,
        Finset.union_empty]
    rw [Option.toList_some, hunion, Finset.card_insert_eq_ite]
    by_cases hk : knows (ids before) id = true
    · simp [hk, mem_idValues]
    · simp [hk, mem_idValues, Nat.add_comm]

theorem length_faults_entryNotes (c : Collection) (before : List Tree) (e : Tree) :
    (faults (entryNotes c before e)).length + (idValues (before ++ [e])).card =
      (ownFaults c e).length + (id? e).toList.length + (idValues before).card := by
  have hduplicate := length_faults_duplicate c before e
  unfold ownFaults entryNotes
  by_cases hm : e.isMapping = true
  · have hfirst : duplicate c (ids []) e = [] := by
      unfold duplicate
      cases id? e <;> rfl
    have hmissing := length_missingFields c before.length 0 e
    simp only [if_pos hm, hfirst, List.append_nil, faults_append, List.length_append,
      List.length_nil]
    omega
  · have hnone : (faults (duplicate c (ids before) e)).length = 0 := by
      rw [duplicate, id?_of_not_isMapping hm]
      rfl
    simp only [if_neg hm, faults_fault, faults_nil, List.length_singleton]
    omega

theorem length_faults_entriesFrom (c : Collection) (items : List Tree) :
    ∀ {seen before : List Tree}, Remembers seen before →
      (faults (entriesFrom c before.length seen items)).length
          + (idValues (before ++ items)).card =
        (items.flatMap (ownFaults c)).length + (ids items).length + (idValues before).card := by
  induction items with
  | nil =>
    intro seen before _
    rw [List.append_nil]
    rfl
  | cons e rest ih =>
    intro seen before h
    obtain ⟨seen', hs, he⟩ := entriesFrom_cons h c e rest
    have hrest := ih hs
    have hentry := length_faults_entryNotes c before e
    have hids : (ids (e :: rest)).length = (id? e).toList.length + (ids rest).length := by
      rw [ids, List.filterMap_cons, ← ids]
      cases id? e with
      | none => rw [Option.toList_none, List.length_nil, Nat.zero_add]
      | some id => rw [List.length_cons, Option.toList_some, List.length_singleton, Nat.add_comm]
    rw [List.length_append, List.length_singleton, List.append_assoc, List.singleton_append]
      at hrest
    rw [he, faults_append, List.length_append, List.flatMap_cons, List.length_append, hids]
    omega

/-- The entries give their own faults, and one for each identifier but the first of its value. -/
theorem length_faults_entries (c : Collection) (items : List Tree) :
    (faults (entries c items)).length + (idValues items).card =
      (items.flatMap (ownFaults c)).length + (ids items).length :=
  length_faults_entriesFrom c items remembers_nil

/-- The number of faults is told from the entries' own ones and from the identifiers. -/
theorem length_faults_collection {c : Collection} {xs ys : List Tree}
    (hown : (xs.map (ownFaults c)).Perm (ys.map (ownFaults c))) (hids : (ids xs).Perm (ids ys)) :
    (faults (collection c (.sequence ys))).length =
      (faults (collection c (.sequence xs))).length := by
  have hvalues : idValues xs = idValues ys := List.toFinset_eq_of_perm _ _ (hids.map _)
  have hlength : (faults (entries c ys)).length = (faults (entries c xs)).length := by
    have hx := length_faults_entries c xs
    have hy := length_faults_entries c ys
    rw [List.flatMap_def] at hx hy
    rw [hvalues, hown.flatten.length_eq, hids.length_eq] at hx
    omega
  have hempty : xs.isEmpty = ys.isEmpty := by
    have h := hown.length_eq
    rw [List.length_map, List.length_map] at h
    rw [Bool.eq_iff_iff, List.isEmpty_iff_length_eq_zero, List.isEmpty_iff_length_eq_zero, h]
  simp only [collection, Tree.items?, hempty]
  split
  · rfl
  · exact hlength

theorem length_faults_of_reorders {t t' : Tree} (c : Collection) (h : t.Reorders t') :
    (faults (collection c t')).length = (faults (collection c t)).length := by
  cases h with
  | same => rfl
  | items hp => exact length_faults_collection (hp.map _) (hp.filterMap _)

/-! ## Reordered tasks -/

theorem isMapping_of_reordersSteps {t t' : Tree} (h : t.ReordersSteps t') :
    t'.isMapping = t.isMapping := by
  cases h with
  | same h => rw [h]
  | steps h hp => rw [h.differ.isMapping, h.differ.isMapping']

/-- Only the references read the steps of a task. -/
theorem field?_of_reordersSteps {t t' : Tree} (h : t.ReordersSteps t') {name : String}
    (hn : name ≠ "steps") : t'.field? name = t.field? name := by
  cases h with
  | same h => rw [h]
  | steps h hp => exact h.differ.rest name hn

theorem ownFaults_of_reordersSteps {t t' : Tree} (h : t.ReordersSteps t') :
    ownFaults .tasks t' = ownFaults .tasks t := by
  have hhas : ∀ name ∈ Collection.tasks.required, t'.has name = t.has name := by
    intro name hname
    have hn : name ≠ "steps" := by
      rintro rfl
      exact absurd hname (by decide)
    rw [Tree.has, Tree.has, field?_of_reordersSteps h hn]
  have hmissing : missingFields .tasks 0 t' = missingFields .tasks 0 t := by
    unfold missingFields
    congr 1
    exact List.filter_congr fun name hname => by rw [hhas name hname]
  have hid : id? t' = id? t := field?_of_reordersSteps h (by decide)
  rw [ownFaults, ownFaults, entryNotes, entryNotes, isMapping_of_reordersSteps h]
  simp only [List.length_nil, hmissing, duplicate, hid]
  rfl

theorem map_eq_of_forall₂ {α β : Type} {R : α → α → Prop} {f : α → β}
    (hf : ∀ x y, R x y → f y = f x) {xs ys : List α} (h : List.Forall₂ R xs ys) :
    ys.map f = xs.map f := by
  induction h with
  | nil => rfl
  | cons hxy _ ih => rw [List.map_cons, List.map_cons, hf _ _ hxy, ih]

theorem length_faults_of_reordersTasks {t t' : Tree} (h : t.ReordersTasks t') :
    (faults (collection .tasks t')).length = (faults (collection .tasks t)).length := by
  cases h with
  | same => rfl
  | @items xs ys zs h hp =>
    have hown : ys.map (ownFaults .tasks) = xs.map (ownFaults .tasks) :=
      map_eq_of_forall₂ (fun _ _ ht => ownFaults_of_reordersSteps ht) h
    have hids : ids ys = ids xs := by
      have hmap : ys.map id? = xs.map id? :=
        map_eq_of_forall₂ (f := id?) (fun t t' (ht : t.ReordersSteps t') =>
          (field?_of_reordersSteps ht (by decide) : id? t' = id? t)) h
      have hfilter := congrArg (List.filterMap fun x => x) hmap
      rwa [List.filterMap_map, List.filterMap_map] at hfilter
    refine length_faults_collection ?_ ?_
    · rw [← hown]
      exact hp.map _
    · rw [← hids]
      exact hp.filterMap _

/-! ## Number of mentions -/

/-- The mappings among the steps of one task, without their positions. -/
def stepValues (task : Tree) : List Tree :=
  (((task.field? "steps").bind Tree.items?).getD []).filter Tree.isMapping

theorem values_stepsOf (index : Nat) (task : Tree) :
    (stepsOf index task).map Step.value = stepValues task := by
  unfold stepsOf stepValues
  generalize ((task.field? "steps").bind Tree.items?).getD [] = items
  have hvalue : ∀ x : Tree × Nat,
      Option.map Step.value (if x.1.isMapping then some ⟨index, x.2, x.1⟩ else none) =
        Option.guard Tree.isMapping x.1 := by
    intro x
    by_cases hm : x.1.isMapping = true <;> simp [Option.guard, hm]
  rw [List.map_filterMap, funext hvalue]
  conv_rhs => rw [← List.zipIdx_map_fst 0 items, ← List.filterMap_eq_filter, List.filterMap_map]
  rfl

theorem values_steps (tasks : Tree) :
    (steps tasks).map Step.value = (tasks.items?.getD []).flatMap stepValues := by
  unfold steps
  rw [List.map_flatMap]
  simp only [values_stepsOf]
  conv_rhs => rw [← List.zipIdx_map_fst 0 (tasks.items?.getD []), List.flatMap_map]

/-- The step refers to a value that is none of the identifiers. -/
def refersBeyond (r : Reference) (ids : List Tree) (step : Tree) : Bool :=
  (step.field? r.key).any fun v => !knows ids v

theorem length_filterMap_unknownIn (r : Reference) (ids : List Tree) (steps : List Step) :
    (steps.filterMap (unknownIn r ids)).length =
      (steps.map Step.value).countP (refersBeyond r ids) := by
  rw [List.length_filterMap_eq_countP, List.countP_map]
  congr 1
  funext s
  unfold unknownIn
  show _ = (s.value.field? r.key).any _
  cases s.value.field? r.key with
  | none => rfl
  | some v => cases hk : knows ids v <;> simp [hk]

theorem stepValues_of_reordersSteps {t t' : Tree} (h : t.ReordersSteps t') :
    (stepValues t).Perm (stepValues t') := by
  cases h with
  | same h => rw [h]
  | steps h hp =>
    rw [stepValues, stepValues, h.before, h.after]
    exact hp.filter _

theorem values_of_reordersTasks {t t' : Tree} (h : t.ReordersTasks t') :
    ((steps t).map Step.value).Perm ((steps t').map Step.value) := by
  cases h with
  | same => exact List.Perm.refl _
  | @items xs ys zs h hp =>
    have hsteps : (xs.flatMap stepValues).Perm (ys.flatMap stepValues) := by
      clear hp
      induction h with
      | nil => exact List.Perm.refl _
      | cons ht _ ih => exact (stepValues_of_reordersSteps ht).append ih
    rw [values_steps, values_steps]
    exact hsteps.trans (hp.flatMap_right _)

theorem knows_of_reorders {r : Reference} {t t' : Tree} (h : r.target.toSection.Reorders t t') :
    knows (declaredIds t') = knows (declaredIds t) := by
  have ht : t.Reorders t' := by cases r <;> exact h
  cases ht with
  | same => rfl
  | items hp =>
    funext v
    exact (hp.symm.filterMap id?).any_eq

/-- A section has as many faults in any order. -/
theorem length_faults_ofSection {s : Section} {t t' : Tree} (h : s.Reorders t t') :
    (faults (ofSection s t')).length = (faults (ofSection s t)).length := by
  have hsame : t' = t → (faults (ofSection s t')).length = (faults (ofSection s t)).length :=
    fun heq => by rw [heq]
  cases s with
  | models => exact length_faults_of_reorders .models h
  | prompts => exact length_faults_of_reorders .prompts h
  | constraints => exact length_faults_of_reorders .constraints h
  | tasks => exact length_faults_of_reordersTasks h
  | version => exact hsame h
  | info => exact hsame h
  | context => exact hsame h
  | evaluation => exact hsame h

theorem length_errors (d : Tree) :
    (validate d).errors.length = (absent d).length
      + (Section.all.flatMap fun s => faults (sectionNotes d s)).length
      + (mentions d .model).length + (mentions d .prompt).length := by
  rw [errors_eq, localFaults]
  simp only [List.length_append, List.length_map]

end Check

open Check

namespace Reordered

variable {d d' : Tree}

theorem field?_cases (h : Reordered d d') (s : Section) :
    (d.field? s.name = none ∧ d'.field? s.name = none) ∨
      ∃ t t', d.field? s.name = some t ∧ d'.field? s.name = some t' ∧ s.Reorders t t' := by
  have hs := h s
  generalize d.field? s.name = a at hs ⊢
  generalize d'.field? s.name = b at hs ⊢
  cases hs with
  | none => exact Or.inl ⟨rfl, rfl⟩
  | some ht => exact Or.inr ⟨_, _, rfl, rfl, ht⟩

theorem absent_eq (h : Reordered d d') : absent d' = absent d := by
  refine List.filter_congr fun s _ => ?_
  rw [Tree.has, Tree.has]
  rcases h.field?_cases s with ⟨hd, hd'⟩ | ⟨t, t', hd, hd', -⟩
  · rw [hd, hd']
  · rw [hd, hd']
    rfl

theorem length_sectionNotes (h : Reordered d d') (s : Section) :
    (faults (sectionNotes d' s)).length = (faults (sectionNotes d s)).length := by
  unfold sectionNotes
  rcases h.field?_cases s with ⟨hd, hd'⟩ | ⟨t, t', hd, hd', ht⟩
  · rw [hd, hd']
  · rw [hd, hd']
    exact length_faults_ofSection ht

theorem length_mentions (h : Reordered d d') (r : Reference) :
    (mentions d' r).length = (mentions d r).length := by
  unfold mentions
  rcases h.field?_cases .tasks with ⟨hd, hd'⟩ | ⟨tasks, tasks', hd, hd', ht⟩
  · rw [show d.field? "tasks" = none from hd, show d'.field? "tasks" = none from hd']
  · rw [show d.field? "tasks" = some tasks from hd, show d'.field? "tasks" = some tasks' from hd']
    rcases h.field?_cases r.target.toSection with ⟨hr, hr'⟩ | ⟨declaring, declaring', hr, hr', hids⟩
    · rw [hr, hr']
    · have hrefers : refersBeyond r (declaredIds declaring') =
          refersBeyond r (declaredIds declaring) := by
        unfold refersBeyond
        rw [knows_of_reorders hids]
      rw [hr, hr']
      dsimp only
      rw [length_filterMap_unknownIn, length_filterMap_unknownIn, hrefers]
      exact ((values_of_reordersTasks ht).countP_eq _).symm

theorem length_errors_eq (h : Reordered d d') :
    (validate d').errors.length = (validate d).errors.length := by
  have hsections : (Section.all.flatMap fun s => faults (sectionNotes d' s)).length =
      (Section.all.flatMap fun s => faults (sectionNotes d s)).length := by
    rw [List.length_flatMap, List.length_flatMap, funext h.length_sectionNotes]
  rw [length_errors, length_errors, h.absent_eq, h.length_mentions, h.length_mentions, hsections]

/-! ## Warnings -/

/-- The warnings on the types of models are reordered with the models, all others stay. -/
theorem warnings_perm (h : Reordered d d') :
    (validate d').warnings.Perm (validate d).warnings := by
  have hsame : ∀ s : Section, (∀ t t', s.Reorders t t' → t' = t) →
      d'.field? s.name = d.field? s.name := by
    intro s hs
    rcases h.field?_cases s with ⟨hd, hd'⟩ | ⟨t, t', hd, hd', ht⟩
    · rw [hd, hd']
    · rw [hd, hd', hs t t' ht]
  have htypes : (typesOf (d'.field? "models")).Perm (typesOf (d.field? "models")) := by
    rcases h.field?_cases .models with ⟨hd, hd'⟩ | ⟨t, t', hd, hd', ht⟩
    · rw [show d.field? "models" = none from hd, show d'.field? "models" = none from hd']
    · rw [show d.field? "models" = some t from hd, show d'.field? "models" = some t' from hd']
      cases ht with
      | same => exact List.Perm.refl _
      | items hp => exact (hp.filterMap _).symm
  have hversion : d'.field? "openapia" = d.field? "openapia" := hsame .version fun _ _ => id
  have hinfo : d'.field? "info" = d.field? "info" := hsame .info fun _ _ => id
  have hcontext : d'.field? "context" = d.field? "context" := hsame .context fun _ _ => id
  have hevaluation : d'.field? "evaluation" = d.field? "evaluation" :=
    hsame .evaluation fun _ _ => id
  rw [warnings_eq_advised, warnings_eq_advised]
  simp only [Advised.warnings, Tree.advised, hversion, hinfo, hcontext, hevaluation]
  exact (((htypes.flatMap_right _).append_left _).append_right _).append_right _

end Reordered

/-! ## References -/

theorem Reordered.unknownErrors_eq {d d' : Tree} (h : Reordered d d')
    (htasks : d'.field? "tasks" = d.field? "tasks") (r : Reference) :
    unknownErrors r d' = unknownErrors r d := by
  have hmentions : mentions d' r = mentions d r := by
    unfold mentions
    rw [htasks]
    rcases h.field?_cases r.target.toSection with ⟨hd, hd'⟩ | ⟨t, t', hd, hd', ht⟩
    · rw [hd, hd']
    · rw [hd, hd']
      have hin : unknownIn r (declaredIds t') = unknownIn r (declaredIds t) := by
        funext s
        rw [unknownIn, unknownIn, knows_of_reorders ht]
      cases d.field? "tasks" with
      | none => rfl
      | some tasks =>
        dsimp only
        rw [hin]
  rw [Check.unknownErrors_eq, Check.unknownErrors_eq, hmentions]

/-- The verdict on a document does not depend on the order of its models, prompts, constraints and
tasks, nor on that of the steps of a task: it has as many errors and as many warnings in any order,
the warnings being the same ones. With the tasks as they are, also the errors worded as unresolved
references are the same ones, in the same order. -/
theorem verdict_of_reordered {d d' : Tree} (h : Reordered d d') :
    (validate d').valid = (validate d).valid ∧
      (validate d').errors.length = (validate d).errors.length ∧
      (validate d').warnings.length = (validate d).warnings.length ∧
      (validate d').warnings.Perm (validate d).warnings ∧
      (d'.field? "tasks" = d.field? "tasks" →
        ((validate d').errors.filter fun e => unknownOpening.toList.isPrefixOf e.toList) =
          (validate d).errors.filter fun e => unknownOpening.toList.isPrefixOf e.toList) := by
  have hlength := h.length_errors_eq
  refine ⟨?_, hlength, h.warnings_perm.length_eq, h.warnings_perm, fun htasks => ?_⟩
  · show (validate d').errors.isEmpty = (validate d).errors.isEmpty
    rw [Bool.eq_iff_iff, List.isEmpty_iff_length_eq_zero, List.isEmpty_iff_length_eq_zero, hlength]
  · rw [filter_unknownOpening, filter_unknownOpening, h.unknownErrors_eq htasks,
      h.unknownErrors_eq htasks]

/-- Zero comes with either sign, and the second of two such models is the duplicate: the errors are
not the same in another order, but as many. The references to unknown models follow the tasks and
their steps. -/
theorem verdict_of_reordered_zeros :
    let model (negative : Bool) : Tree :=
      .mapping [("id", .number (.float (Binary64.zero negative)))]
    let task (x y : String) : Tree :=
      .mapping [("id", .text "t"), ("steps", .sequence
        [.mapping [("model", .text x)], .mapping [("model", .text y)]])]
    let document (models tasks : List Tree) : Tree :=
      .mapping [("models", .sequence models), ("tasks", .sequence tasks)]
    let d := document [model false, model true] [.null, task "a" "b"]
    let d' := document [model true, model false] [task "b" "a", .null]
    Reordered d d' ∧
      "Duplicate model ID: -0.0" ∈ (validate d).errors ∧
      "Duplicate model ID: 0.0" ∈ (validate d').errors ∧
      unknownErrors .model d =
        ["Task references unknown model: a", "Task references unknown model: b"] ∧
      unknownErrors .model d' =
        ["Task references unknown model: b", "Task references unknown model: a"] ∧
      (validate d').valid = (validate d).valid ∧
      (validate d').errors.length = (validate d).errors.length ∧
      (validate d').warnings.length = (validate d).warnings.length := by
  intro model task document d d'
  have htask : (task "a" "b").ReordersSteps (task "b" "a") := by
    refine .steps ⟨rfl, rfl, rfl, rfl, fun name hn => ?_⟩ (List.Perm.swap _ _ _)
    simp [task, Tree.field?, List.lookup_cons, beq_false_of_ne hn]
  have hreordered : Reordered d d' := by
    intro s
    cases s with
    | models => exact .some (.items (List.Perm.swap _ _ _))
    | tasks => exact .some (.items (.cons (.same rfl) (.cons htask .nil)) (List.Perm.swap _ _ _))
    | _ => exact .none
  obtain ⟨hvalid, herrors, hwarnings, -⟩ := verdict_of_reordered hreordered
  have hfound : unknownErrors .model d =
      ["Task references unknown model: a", "Task references unknown model: b"] := by
    rw [Check.unknownErrors_eq]
    decide +kernel
  have hfound' : unknownErrors .model d' =
      ["Task references unknown model: b", "Task references unknown model: a"] := by
    rw [Check.unknownErrors_eq]
    decide +kernel
  exact ⟨hreordered, by decide +kernel, by decide +kernel, hfound, hfound', hvalid, herrors,
    hwarnings⟩

end AgentSpec
