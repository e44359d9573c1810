import AgentSpec.Check

/-!
# Reading notes

`faults`, `advices` and `records` read a list of notes piece by piece, so that what a document gives
follows from what each of its checks gives (`faults_notes`, `advices_notes`). A document is valid
when its notes hold no fault (`validate_valid_iff`).
-/

namespace AgentSpec

@[simp] theorem faults_nil : faults [] = [] := rfl

@[simp] theorem faults_fault (f : Fault) (ns : List Note) :
    faults (.fault f :: ns) = f :: faults ns := rfl

@[simp] theorem faults_advice (a : Advice) (ns : List Note) :
    faults (.advice a :: ns) = faults ns := rfl

@[simp] theorem faults_log (r : Record) (ns : List Note) : faults (.log r :: ns) = faults ns := rfl

@[simp] theorem faults_append (ms ns : List Note) : faults (ms ++ ns) = faults ms ++ faults ns :=
  List.filterMap_append

@[simp] theorem advices_nil : advices [] = [] := rfl

@[simp] theorem advices_fault (f : Fault) (ns : List Note) :
    advices (.fault f :: ns) = advices ns := rfl

@[simp] theorem advices_advice (a : Advice) (ns : List Note) :
    advices (.advice a :: ns) = a :: advices ns := rfl

@[simp] theorem advices_log (r : Record) (ns : List Note) :
    advices (.log r :: ns) = advices ns := rfl

@[simp] theorem advices_append (ms ns : List Note) :
    advices (ms ++ ns) = advices ms ++ advices ns :=
  List.filterMap_append

theorem records_append (ms ns : List Note) : records (ms ++ ns) = records ms ++ records ns :=
  List.filterMap_append

theorem faults_flatMap {α : Type} (xs : List α) (f : α → List Note) :
    faults (xs.flatMap f) = xs.flatMap fun x => faults (f x) :=
  List.filterMap_flatMap

theorem advices_flatMap {α : Type} (xs : List α) (f : α → List Note) :
    advices (xs.flatMap f) = xs.flatMap fun x => advices (f x) :=
  List.filterMap_flatMap

theorem records_flatMap {α : Type} (xs : List α) (f : α → List Note) :
    records (xs.flatMap f) = xs.flatMap fun x => records (f x) :=
  List.filterMap_flatMap

@[simp] theorem faults_map_fault {α : Type} (xs : List α) (f : α → Fault) :
    faults (xs.map fun x => .fault (f x)) = xs.map f := by
  induction xs with
  | nil => rfl
  | cons x xs ih => simp only [List.map_cons, faults_fault, ih]

@[simp] theorem advices_map_fault {α : Type} (xs : List α) (f : α → Fault) :
    advices (xs.map fun x => .fault (f x)) = [] := by
  induction xs with
  | nil => rfl
  | cons x xs ih => simp only [List.map_cons, advices_fault, ih]

/-! ## Outcomes -/

theorem validate_errors (d : Tree) :
    (validate d).errors = (faults (Check.notes d)).map Fault.message := rfl

theorem validate_warnings (d : Tree) :
    (validate d).warnings = (advices (Check.notes d)).map Advice.message := rfl

theorem validate_valid_iff (d : Tree) :
    (validate d).valid = true ↔ faults (Check.notes d) = [] := by
  show ((faults (Check.notes d)).map Fault.message).isEmpty = true ↔ _
  rw [List.isEmpty_iff, List.map_eq_nil_iff]

namespace Check

/-- The absent sections, in declared order. -/
def absent (d : Tree) : List Section := Section.all.filter fun s => !d.has s.name

theorem faults_notes (d : Tree) :
    faults (notes d) = (absent d).map Fault.missingSection
      ++ (Section.all.flatMap fun s => faults (sectionNotes d s)) ++ faults (references d) := by
  simp only [notes, requiredSections, faults_log, faults_append, faults_map_fault, faults_flatMap,
    absent, List.cons_append]

theorem advices_unresolved (r : Reference) (ids : List Tree) (s : Step) :
    advices (unresolved r ids s) = [] := by
  unfold unresolved
  split
  · split <;> rfl
  · rfl

/-- References are never a matter of advice. -/
theorem advices_references (d : Tree) : advices (references d) = [] := by
  have hr : ∀ tasks r, advices (referencesTo d tasks r) = [] := by
    intro tasks r
    unfold referencesTo
    split
    · simp only [advices_flatMap, advices_unresolved, List.flatMap_eq_nil_iff, implies_true]
    · rfl
  unfold references
  split
  · simp only [advices_append, hr, List.append_nil]
  · rfl

theorem advices_notes (d : Tree) :
    advices (notes d) = Section.all.flatMap fun s => advices (sectionNotes d s) := by
  simp only [notes, requiredSections, advices_log, advices_append, advices_map_fault,
    advices_flatMap, advices_references, List.cons_append, List.nil_append, List.append_nil]

end Check
end AgentSpec
