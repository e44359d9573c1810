import AgentSpec.Proofs.Note
import AgentSpec.Proofs.Step

/-!
# Entries of collections

The walk over the entries carries a list of the identifiers seen so far, each kept once. Up to
equality by value that list stands for the identifiers of all earlier entries (`Remembers`), so the
notes on a collection are those on each entry, told from the entries before it (`entries_eq`).
-/

namespace AgentSpec.Check

/-- The identifiers among some entries. -/
def ids (items : List Tree) : List Tree := items.filterMap id?

/-- The notes on the entry that follows the entries `before`. -/
def entryNotes (c : Collection) (before : List Tree) (entry : Tree) : List Note :=
  if entry.isMapping then
    missingFields c before.length entry ++ duplicate c (ids before) entry ++ rule c entry
  else [.fault (.entryNotMapping c before.length)]

/-- The entry has an identifier of this value. -/
def HasId (entry id : Tree) : Prop := ∃ x, entry.field? "id" = some x ∧ x ≈ id

theorem knows_ids_iff {items : List Tree} {id : Tree} :
    knows (ids items) id = true ↔ ∃ e ∈ items, HasId e id := by
  rw [knows_iff]
  simp only [ids, List.mem_filterMap, id?, HasId]
  constructor
  · rintro ⟨x, ⟨e, he, hx⟩, hxid⟩
    exact ⟨e, he, x, hx, hxid⟩
  · rintro ⟨e, he, x, hx, hxid⟩
    exact ⟨x, ⟨e, he, hx⟩, hxid⟩

theorem ids_append_singleton (before : List Tree) (entry : Tree) :
    ids (before ++ [entry]) = ids before ++ (id? entry).toList := by
  rw [ids, List.filterMap_append, ← ids]
  cases h : id? entry <;> simp [h]

theorem id?_of_not_isMapping {entry : Tree} (h : ¬ entry.isMapping = true) : id? entry = none :=
  Tree.field?_of_not_isMapping h "id"

/-! ## The identifiers seen -/

/-- What is seen knows the same values as the identifiers of all entries before. -/
def Remembers (seen before : List Tree) : Prop := ∀ v, knows seen v = knows (ids before) v

theorem knows_append_singleton (xs : List Tree) (id v : Tree) :
    knows (xs ++ [id]) v = (knows xs v || v.same id) := by
  simp [knows]

theorem remembers_nil : Remembers [] [] := fun _ => rfl

/-- What is known already adds nothing to what is known. -/
theorem knows_of_same {xs : List Tree} {id v : Tree} (hid : knows xs id = true)
    (hv : v.same id = true) : knows xs v = true := by
  obtain ⟨x, hx, hxid⟩ := knows_iff.mp hid
  have hidv : id ≈ v := Setoid.symm hv
  exact knows_iff.mpr ⟨x, hx, Setoid.trans hxid hidv⟩

theorem Remembers.step {seen before : List Tree} (h : Remembers seen before) (entry : Tree) :
    Remembers (remember seen entry) (before ++ [entry]) := by
  intro v
  rw [ids_append_singleton]
  unfold remember
  cases id? entry with
  | none => simpa using h v
  | some id =>
    rw [Option.toList_some, knows_append_singleton, ← h v]
    by_cases hk : knows seen id = true
    · simp only [hk, if_true]
      cases hv : v.same id with
      | false => simp
      | true => rw [knows_of_same hk hv, Bool.or_true]
    · simp only [hk, Bool.false_eq_true, if_false]
      simp [knows, Bool.or_comm]

theorem Remembers.duplicate_eq {seen before : List Tree} (h : Remembers seen before)
    (c : Collection) (entry : Tree) : duplicate c seen entry = duplicate c (ids before) entry := by
  unfold duplicate
  cases id? entry with
  | none => rfl
  | some id => simp only [h id]

/-- The notes of one step of the walk, and what is seen after it. -/
theorem entriesFrom_cons {seen before : List Tree} (h : Remembers seen before) (c : Collection)
    (entry : Tree) (rest : List Tree) :
    ∃ seen', Remembers seen' (before ++ [entry]) ∧
      entriesFrom c before.length seen (entry :: rest) =
        entryNotes c before entry ++ entriesFrom c (before.length + 1) seen' rest := by
  by_cases hm : entry.isMapping = true
  · refine ⟨remember seen entry, h.step entry, ?_⟩
    simp only [entriesFrom, entryNotes, hm, if_true, h.duplicate_eq]
  · refine ⟨seen, ?_, ?_⟩
    · have hs := h.step entry
      rwa [remember, id?_of_not_isMapping hm] at hs
    · simp only [entriesFrom, entryNotes, hm, Bool.false_eq_true, if_false, List.singleton_append]

theorem entriesFrom_eq (c : Collection) (items : List Tree) :
    ∀ {seen before : List Tree}, Remembers seen before →
      entriesFrom c before.length seen items =
        items.zipIdx.flatMap fun x => entryNotes c (before ++ items.take x.2) x.1 := by
  induction items with
  | nil => exact fun _ => rfl
  | cons entry rest ih =>
    intro seen before h
    obtain ⟨seen', hs, he⟩ := entriesFrom_cons h c entry rest
    have hr := ih hs
    rw [List.length_append, List.length_singleton] at hr
    rw [he, hr, List.zipIdx_cons', List.flatMap_cons, List.flatMap_map]
    simp only [List.take_zero, List.append_nil, List.take_succ_cons, List.append_assoc,
      List.singleton_append, Prod.map_fst, Prod.map_snd, id_eq]

/-- The notes on the entries, each told from its position and the entries before it. -/
theorem entries_eq (c : Collection) (items : List Tree) :
    entries c items = .log (.checkingEntries items.length c) ::
      items.zipIdx.flatMap fun x => entryNotes c (items.take x.2) x.1 := by
  rw [entries, ← List.length_nil (α := Tree), entriesFrom_eq c items remembers_nil]
  rfl

/-- One more entry adds its own notes and leaves those before it. -/
theorem entriesFrom_concat (c : Collection) (items : List Tree) (entry : Tree) :
    entriesFrom c 0 [] (items ++ [entry]) =
      entriesFrom c 0 [] items ++ entryNotes c items entry := by
  have hwalk : ∀ xs, entriesFrom c 0 [] xs =
      xs.zipIdx.flatMap fun x => entryNotes c (xs.take x.2) x.1 := fun xs =>
    entriesFrom_eq c xs remembers_nil
  rw [hwalk, hwalk, List.zipIdx_append, List.flatMap_append, List.zipIdx_singleton,
    List.flatMap_singleton]
  congr 1
  · refine List.flatMap_congr fun x hx => ?_
    rw [List.take_append_of_le_length (List.mem_zipIdx' hx).1.le]
  · rw [List.take_left' (by simp)]

theorem faults_entries_concat (c : Collection) (items : List Tree) (entry : Tree) :
    faults (entries c (items ++ [entry])) =
      faults (entries c items) ++ faults (entryNotes c items entry) := by
  rw [entries, entries, faults_log, faults_log, entriesFrom_concat, faults_append]

end AgentSpec.Check
