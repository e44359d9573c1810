import AgentSpec.Proofs.Collection

/-!
# How messages begin

An error or a log record on an unresolved reference can be told from every other one by its opening
words: no fault and no record of a section's own check is worded so (`Fault.IsLocal.not_opening`,
`Record.IsLocal.not_opening`), whatever text the document puts into it.
-/

namespace AgentSpec

/-- The words that begin every message on an unresolved reference. -/
def unknownOpening : String := "Task references unknown "

/-- The words that begin the messages on one kind of reference. -/
def Reference.opening (r : Reference) : String := unknownOpening ++ r.key ++ ": "

/-- The words that begin every record of an unresolved reference. -/
def unresolvedOpening : String := "Unresolved "

/-- The words that begin the records of one kind of reference. -/
def Reference.recordOpening (r : Reference) : String := unresolvedOpening ++ r.key ++ " reference "

/-- The text of an entry begins with these words. -/
def opensWith {α : Type} (text : α → String) (words : String) (x : α) : Bool :=
  words.toList.isPrefixOf (text x).toList

/-- The faults that a check of one section can report. -/
def Fault.IsLocal : Fault → Prop
  | .notMapping name => name ∈ ["info", "ai_metadata", "context", "evaluation"]
  | .unknownReference _ _ => False
  | _ => True

/-- The records that are not on a reference. -/
def Record.IsLocal : Record → Prop
  | .unresolved _ _ _ _ => False
  | _ => True

/-- The notes that a check of one section can make. -/
def Note.IsLocal : Note → Prop
  | .fault f => f.IsLocal
  | .advice _ => True
  | .log x => x.IsLocal

/-- A number does not begin with a letter. -/
theorem not_prefix_digits {c : Char} (hc : c.isDigit = false) (cs : List Char) (n : Nat)
    (rest : List Char) : ¬ c :: cs <+: Nat.toDigits 10 n ++ rest := by
  intro h
  cases hd : Nat.toDigits 10 n with
  | nil => exact Nat.toDigits_ne_nil hd
  | cons d ds =>
    rw [hd, List.cons_append, List.cons_prefix_cons] at h
    have hdigit : d.isDigit = true :=
      Nat.isDigit_of_mem_toDigits (by decide) (by decide) (hd ▸ List.mem_cons_self)
    rw [h.1, hdigit] at hc
    cases hc

theorem Fault.IsLocal.not_opening {f : Fault} (h : f.IsLocal) :
    ¬ unknownOpening.toList <+: f.message.toList := by
  unfold unknownOpening message
  cases f with
  | unknownReference r v => exact absurd h id
  | notMapping name =>
    simp only [IsLocal, List.mem_cons, List.not_mem_nil, or_false] at h
    rcases h with rfl | rfl | rfl | rfl <;> simp
  | notSequence c => cases c <;> simp [Collection.toSection, Section.name]
  | entryNotMapping c index => cases c <;> simp [Collection.title, not_prefix_digits]
  | missingField c index field => cases c <;> simp [Collection.title, not_prefix_digits]
  | _ => simp

theorem Record.IsLocal.not_opening {x : Record} (h : x.IsLocal) :
    ¬ unresolvedOpening.toList <+: x.message.toList := by
  unfold unresolvedOpening message
  cases x with
  | unresolved r v task step => exact absurd h id
  | _ => simp

theorem opening_prefix_iff (r r' : Reference) (v : Tree) :
    r.opening.toList <+: (Fault.unknownReference r' v).message.toList ↔ r = r' := by
  unfold Fault.message
  cases r <;> cases r' <;> simp [Reference.opening, unknownOpening, Reference.key]

theorem Reference.unknownOpening_prefix (r : Reference) :
    unknownOpening.toList <+: r.opening.toList := by
  simp only [opening, String.toList_append, List.append_assoc]
  exact List.prefix_append _ _

theorem recordOpening_prefix_iff (r r' : Reference) (v : Tree) (task step : Nat) :
    r.recordOpening.toList <+: (Record.unresolved r' v task step).message.toList ↔ r = r' := by
  unfold Record.message
  cases r <;> cases r' <;> simp [Reference.recordOpening, unresolvedOpening, Reference.key]

theorem Reference.unresolvedOpening_prefix (r : Reference) :
    unresolvedOpening.toList <+: r.recordOpening.toList := by
  simp only [recordOpening, String.toList_append, List.append_assoc]
  exact List.prefix_append _ _

/-! ## Telling the kinds apart -/

/-- The words in which a mention of each kind is told: some common to both kinds, and some by which
the kinds are told apart. -/
structure Wording (α β : Type) where
  text : α → String
  common : String
  opening : Reference → String
  entry : Reference → β → α
  common_prefix : ∀ r, common.toList <+: (opening r).toList
  opening_prefix_iff : ∀ r r' m, (opening r).toList <+: (text (entry r' m)).toList ↔ r = r'

namespace Wording

variable {α β : Type} (w : Wording α β)

/-- The entries are not worded as those on references. -/
def Others (xs : List α) : Prop := ∀ x ∈ xs, ¬ w.common.toList <+: (w.text x).toList

/-- The list tells about models, then about prompts, in the midst of others. -/
def Tells (ms : Reference → List β) (xs : List α) : Prop :=
  ∃ before after, w.Others before ∧ w.Others after ∧
    xs = before ++ ((ms .model).map (w.entry .model) ++ (ms .prompt).map (w.entry .prompt)) ++ after

variable {w}

theorem Others.filter_eq_nil {xs : List α} (h : w.Others xs) {words : String}
    (hwords : w.common.toList <+: words.toList) : xs.filter (opensWith w.text words) = [] :=
  List.filter_eq_nil_iff.mpr fun x hx hp =>
    h x hx (hwords.trans (List.isPrefixOf_iff_prefix.mp hp))

theorem opensWith_opening_iff (r r' : Reference) (m : β) :
    opensWith w.text (w.opening r) (w.entry r' m) = true ↔ r = r' :=
  List.isPrefixOf_iff_prefix.trans (w.opening_prefix_iff r r' m)

theorem opensWith_common (r : Reference) (m : β) :
    opensWith w.text w.common (w.entry r m) = true :=
  List.isPrefixOf_iff_prefix.mpr
    ((w.common_prefix r).trans ((w.opening_prefix_iff r r m).mpr rfl))

/-- The opening words of one kind pick out the entries of that kind. -/
theorem filter_opening_map (r r' : Reference) (ms : List β) :
    (ms.map (w.entry r')).filter (opensWith w.text (w.opening r)) =
      if r = r' then ms.map (w.entry r') else [] := by
  split
  · rename_i hr
    refine List.filter_eq_self.mpr fun x hx => ?_
    obtain ⟨m, _, rfl⟩ := List.mem_map.mp hx
    exact (opensWith_opening_iff r r' m).mpr hr
  · rename_i hr
    refine List.filter_eq_nil_iff.mpr fun x hx hp => ?_
    obtain ⟨m, _, rfl⟩ := List.mem_map.mp hx
    exact hr ((opensWith_opening_iff r r' m).mp hp)

theorem filter_common_map (r : Reference) (ms : List β) :
    (ms.map (w.entry r)).filter (opensWith w.text w.common) = ms.map (w.entry r) := by
  refine List.filter_eq_self.mpr fun x hx => ?_
  obtain ⟨m, _, rfl⟩ := List.mem_map.mp hx
  exact opensWith_common r m

variable {ms : Reference → List β} {xs : List α}

theorem Tells.filter_opening (h : w.Tells ms xs) (r : Reference) :
    xs.filter (opensWith w.text (w.opening r)) = (ms r).map (w.entry r) := by
  obtain ⟨before, after, hbefore, hafter, rfl⟩ := h
  rw [List.filter_append, List.filter_append, List.filter_append,
    hbefore.filter_eq_nil (w.common_prefix r), hafter.filter_eq_nil (w.common_prefix r),
    filter_opening_map, filter_opening_map]
  cases r <;> simp

theorem Tells.filter_common (h : w.Tells ms xs) :
    xs.filter (opensWith w.text w.common) =
      (ms .model).map (w.entry .model) ++ (ms .prompt).map (w.entry .prompt) := by
  obtain ⟨before, after, hbefore, hafter, rfl⟩ := h
  rw [List.filter_append, List.filter_append, List.filter_append,
    hbefore.filter_eq_nil List.prefix_rfl, hafter.filter_eq_nil List.prefix_rfl,
    filter_common_map, filter_common_map, List.nil_append, List.append_nil]

/-- Others may come before what is told. -/
theorem Tells.append (h : w.Tells ms xs) {others : List α} (ho : w.Others others) :
    w.Tells ms (others ++ xs) := by
  obtain ⟨before, after, hbefore, hafter, rfl⟩ := h
  refine ⟨others ++ before, after, List.forall_mem_append.mpr ⟨ho, hbefore⟩, hafter, ?_⟩
  simp only [List.append_assoc]

end Wording

/-! ## Notes of the sections' own checks -/

namespace Check

/-- Every fault among the notes is local. -/
def Local (ns : List Note) : Prop := ∀ f ∈ faults ns, f.IsLocal

/-- Every note is local. -/
def Own (ns : List Note) : Prop := ∀ n ∈ ns, n.IsLocal

theorem Own.faults {ns : List Note} (h : Own ns) : Local ns := by
  intro f hf
  obtain ⟨n, hn, hnf⟩ := List.mem_filterMap.mp hf
  cases n with
  | fault f' =>
    cases hnf
    exact h _ hn
  | _ => cases hnf

theorem Own.records {ns : List Note} (h : Own ns) : ∀ x ∈ records ns, x.IsLocal := by
  intro x hx
  obtain ⟨n, hn, hnx⟩ := List.mem_filterMap.mp hx
  cases n with
  | log x' =>
    cases hnx
    exact h _ hn
  | _ => cases hnx

theorem own_nil : Own [] := by simp [Own]

theorem Own.append {ms ns : List Note} (hm : Own ms) (hn : Own ns) : Own (ms ++ ns) :=
  fun n h => (List.mem_append.mp h).elim (hm n) (hn n)

theorem own_map_fault {α : Type} {xs : List α} {f : α → Fault} (h : ∀ x ∈ xs, (f x).IsLocal) :
    Own (xs.map fun x => .fault (f x)) := by
  intro n hn
  obtain ⟨x, hx, rfl⟩ := List.mem_map.mp hn
  exact h x hx

theorem own_version (t : Tree) : Own (version t) := by
  unfold version
  split
  · split <;> simp [Own, Note.IsLocal, Record.IsLocal]
  · simp [Own, Note.IsLocal, Fault.IsLocal]

theorem own_metadata (t : Tree) : Own (metadata t) := by
  unfold metadata
  split
  · apply Own.append
    · split <;> simp [Own, Note.IsLocal]
    · split
      · split <;> simp [Own, Note.IsLocal, Fault.IsLocal]
      · exact own_nil
  · simp [Own, Note.IsLocal, Fault.IsLocal]

theorem own_info (t : Tree) : Own (info t) := by
  unfold info
  split
  · apply Own.append
    · exact own_map_fault fun _ _ => trivial
    · split
      · exact own_metadata _
      · exact own_nil
  · simp [Own, Note.IsLocal, Fault.IsLocal]

theorem own_recommended {name : String} (field : String) (t : Tree)
    (h : name ∈ ["info", "ai_metadata", "context", "evaluation"]) :
    Own (recommended name field t) := by
  unfold recommended
  split
  · split <;> simp [Own, Note.IsLocal]
  · intro n hn
    rw [List.mem_singleton] at hn
    subst hn
    exact h

theorem own_entryNotes (c : Collection) (before : List Tree) (entry : Tree) :
    Own (entryNotes c before entry) := by
  unfold entryNotes
  split
  · refine Own.append (Own.append ?_ ?_) ?_
    · exact own_map_fault fun _ _ => trivial
    · unfold duplicate
      split
      · split <;> simp [Own, Note.IsLocal, Fault.IsLocal]
      · exact own_nil
    · unfold rule
      repeat' split
      all_goals simp [Own, Note.IsLocal, Fault.IsLocal]
  · simp [Own, Note.IsLocal, Fault.IsLocal]

theorem own_collection (c : Collection) (t : Tree) : Own (collection c t) := by
  unfold collection
  split
  · simp [Own, Note.IsLocal, Fault.IsLocal]
  · split
    · simp [Own, Note.IsLocal, Fault.IsLocal]
    · intro n hn
      rw [entries_eq] at hn
      rcases List.mem_cons.mp hn with rfl | hn
      · trivial
      · obtain ⟨x, _, hx⟩ := List.mem_flatMap.mp hn
        exact own_entryNotes _ _ _ n hx

theorem own_ofSection (s : Section) (t : Tree) : Own (ofSection s t) := by
  cases s with
  | version => exact own_version t
  | info => exact own_info t
  | models => exact own_collection .models t
  | prompts => exact own_collection .prompts t
  | constraints => exact own_collection .constraints t
  | tasks => exact own_collection .tasks t
  | context => exact own_recommended _ t (by decide)
  | evaluation => exact own_recommended _ t (by decide)

/-- The sections' own checks note nothing on references. -/
theorem own_sectionNotes (d : Tree) (s : Section) : Own (sectionNotes d s) := by
  unfold sectionNotes
  split
  · exact List.forall_mem_cons.mpr ⟨trivial, own_ofSection s _⟩
  · exact own_nil

/-- What the sections' own checks report is never worded as an unresolved reference. -/
theorem local_sectionNotes (d : Tree) (s : Section) : Local (sectionNotes d s) :=
  (own_sectionNotes d s).faults

end Check
end AgentSpec
