import AgentSpec.Proofs.CollectionFindings

/-!
# One notion of identifier

The walk over a collection and the check of references gather identifiers in two ways: the one adds
each to what it has seen as it goes, the other lists those of all entries at once. Both take the
same entries and compare by value, so a value is a repeated identifier for the one exactly when it
is a resolved reference for the other: `duplicate_iff_resolves`.
-/

namespace AgentSpec

/-- An entry that has an identifier and nothing else. -/
def Tree.withId (x : Tree) : Tree := .mapping [("id", x)]

/-- Tasks with one step, which refers to `x` and to nothing else. -/
def Reference.tasksFor (r : Reference) (x : Tree) : Tree :=
  .sequence [.mapping [("steps", .sequence [.mapping [(r.key, x)]])]]

/-- A document with a section that can be referred to and with tasks. -/
def Reference.document (r : Reference) (declaring tasks : Tree) : Tree :=
  .mapping [(r.target.toSection.name, declaring), ("tasks", tasks)]

namespace Check

/-- An entry with an identifier only lacks every other field, and repeats what is held before. -/
theorem faults_entryNotes_withId (c : Collection) (before : List Tree) (x : Tree) :
    faults (entryNotes c before (.withId x)) =
      c.required.tail.map (Fault.missingField c before.length)
        ++ if Collection.Holds before x then [.duplicateId c x] else [] := by
  have hmissing : (c.required.filter fun f => !(Tree.withId x).has f) = c.required.tail := by
    cases c <;> simp [Collection.required, Tree.withId, Tree.has, Tree.field?, List.lookup_cons]
  have hrule : faults (rule c (.withId x)) = [] := by
    cases c <;> rfl
  have hduplicate : faults (duplicate c (ids before) (.withId x)) =
      if Collection.Holds before x then [.duplicateId c x] else [] := by
    show faults (if knows (ids before) x then [.fault (.duplicateId c x)] else []) = _
    exact (apply_ite faults _ _ _).trans (if_congr knows_ids_iff rfl rfl)
  have hmapping : (Tree.withId x).isMapping = true := rfl
  rw [entryNotes, if_pos hmapping, faults_append, faults_append, hrule, List.append_nil, hduplicate,
    missingFields, faults_map_fault, hmissing]

theorem references_document (r : Reference) (declaring tasks : Tree) :
    references (r.document declaring tasks) =
      (steps tasks).flatMap (unresolved r (declaredIds declaring)) := by
  cases r <;> simp [references, referencesTo, Reference.document, Reference.target,
    Collection.toSection, Section.name, Tree.field?, List.lookup_cons]

/-- One step's reference is resolved when the section holds the identifier. -/
theorem faults_references_tasksFor (r : Reference) (entries : List Tree) (x : Tree) :
    faults (references (r.document (.sequence entries) (r.tasksFor x))) =
      if Collection.Holds entries x then [] else [.unknownReference r x] := by
  have hsteps : steps (r.tasksFor x) = [⟨0, 0, .mapping [(r.key, x)]⟩] := by
    simp [Reference.tasksFor, steps, stepsOf, Tree.items?, Tree.field?, Tree.isMapping]
  have hfield : (Tree.mapping [(r.key, x)]).field? r.key = some x := List.lookup_cons_self
  rw [references_document, hsteps, List.flatMap_singleton, unresolved, hfield]
  show faults (if knows (ids entries) x then [] else _) = _
  exact (apply_ite faults _ _ _).trans (if_congr knows_ids_iff rfl rfl)

end Check

/-- A value repeats an identifier exactly when it resolves as a reference. For any sequence as
models or prompts, the entry that follows it with this value as its identifier and no other field
is reported, after what is reported on the entries before it, for its missing fields and, if an
entry before it has an identifier of this value, as a duplicate. The same sequence leaves a step
that refers to the value without an error in this very case, and otherwise reports it as unknown. -/
theorem duplicate_iff_resolves (r : Reference) (entries : List Tree) (x : Tree) :
    let c := r.target
    let resolving := faults (Check.references (r.document (.sequence entries) (r.tasksFor x)))
    ∃ own, faults (Check.collection c (.sequence (entries ++ [.withId x]))) =
        faults (Check.entries c entries) ++ own ∧
      own = c.required.tail.map (Fault.missingField c entries.length)
        ++ (if Collection.Holds entries x then [.duplicateId c x] else []) ∧
      resolving = (if Collection.Holds entries x then [] else [.unknownReference r x]) ∧
      (Fault.duplicateId c x ∈ own ↔ resolving = []) := by
  intro c resolving
  have hresolving := Check.faults_references_tasksFor r entries x
  refine ⟨_, ?_, rfl, hresolving, ?_⟩
  · have hcollection : Check.collection c (.sequence (entries ++ [.withId x])) =
        Check.entries c (entries ++ [.withId x]) := by
      simp [Check.collection, Tree.items?]
    rw [hcollection, Check.faults_entries_concat, Check.faults_entryNotes_withId]
  · have hmissing : Fault.duplicateId c x ∉
        c.required.tail.map (Fault.missingField c entries.length) := by
      intro h
      obtain ⟨name, -, hname⟩ := List.mem_map.mp h
      cases hname
    show _ ↔ faults _ = []
    rw [hresolving]
    by_cases hk : Collection.Holds entries x
    · simp only [if_pos hk]
      exact iff_of_true (List.mem_append_right _ List.mem_cons_self) trivial
    · simp only [if_neg hk, List.append_nil]
      exact iff_of_false hmissing (List.cons_ne_nil _ _)

end AgentSpec
