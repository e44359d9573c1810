import AgentSpec.Proofs.Conformance

/-!
# Findings on collections

What is found on a collection, in the words of the report. `Collection.errors` and
`Collection.warnings` tell it from the entries alone: the position of an entry, the entries before
it and its fields, with no list of seen identifiers. The checks find exactly this, and an
identifier that `n` entries have is reported `n - 1` times: `collection_findings`.
-/

namespace AgentSpec

/-! ## The findings told from the entries -/

instance (t : Tree) (allowed : List String) : Decidable (t.IsText allowed) :=
  decidable_of_iff _ Check.isOneOf_iff

instance (entry id : Tree) : Decidable (Check.HasId entry id) :=
  decidable_of_iff ((entry.field? "id").any fun x => x.same id) (by
    rw [Check.HasId, Option.any_eq_true]
    rfl)

/-- What is said of the value of a field, unless it is absent or one of the texts listed. -/
def unlisted (opening : String) (allowed : List String) : Option Tree → List String
  | some v => if v.IsText allowed then [] else [opening ++ v.render]
  | none => []

namespace Collection

/-- One of the entries has an identifier of this value. -/
def Holds (entries : List Tree) (id : Tree) : Prop := ∃ e ∈ entries, Check.HasId e id

instance (entries : List Tree) (id : Tree) : Decidable (Holds entries id) :=
  inferInstanceAs (Decidable (∃ e ∈ entries, Check.HasId e id))

def absentErrors (c : Collection) (index : Nat) (entry : Tree) : List String :=
  (c.required.filter fun f => !entry.has f).map fun f =>
    c.title ++ " " ++ toString index ++ " missing required field: " ++ f

def repeatErrors (c : Collection) (before : List Tree) (entry : Tree) : List String :=
  match entry.field? "id" with
  | some id => if Holds before id then ["Duplicate " ++ c.noun ++ " ID: " ++ id.render] else []
  | none => []

def valueErrors (c : Collection) (entry : Tree) : List String :=
  match c with
  | .prompts =>
    unlisted "Invalid prompt role: " ["system", "user", "assistant"] (entry.field? "role")
  | .constraints =>
    unlisted "Invalid constraint severity: " ["low", "medium", "high", "critical"]
      (entry.field? "severity")
  | .models => []
  | .tasks => []

/-- The errors on the entry at a position, from the entries before it. -/
def entryErrors (c : Collection) (before : List Tree) (index : Nat) (entry : Tree) :
    List String :=
  if entry.isMapping then
    c.absentErrors index entry ++ c.repeatErrors before entry ++ c.valueErrors entry
  else [c.title ++ " " ++ toString index ++ " must be an array"]

/-- The errors on a value as a collection. -/
def errors (c : Collection) : Tree → List String
  | .sequence items =>
    if c = .models ∧ items = [] then ["At least one model is required"]
    else items.zipIdx.flatMap fun (entry, index) => c.entryErrors (items.take index) index entry
  | _ => [c.toSection.name ++ " must be an array"]

def typeWarnings (type? : Option Tree) : List String :=
  unlisted "Unknown model type: "
    ["LLM", "Vision", "Audio", "Multimodal", "Classification", "Embedding"] type?

/-- The warnings on a value as a collection. -/
def warnings : Collection → Tree → List String
  | .models, .sequence items => items.flatMap fun entry => typeWarnings (entry.field? "type")
  | _, _ => []

end Collection

/-- The fault that an identifier of this value is repeated. -/
def Fault.repeats (c : Collection) (id : Tree) : Fault → Bool
  | .duplicateId c' x => c' = c ∧ x ≈ id
  | _ => false

/-! ## Entries -/

namespace Check

/-- The messages `g` of a note that is made of a value which is not listed. -/
theorem messages_unlisted (g : List Note → List String) (note : Tree → Note) (opening : String)
    (allowed : List String) (hnil : g [] = []) (hnote : ∀ v, g [note v] = [opening ++ v.render])
    (v? : Option Tree) :
    g (match v? with
      | some v => if v.isOneOf allowed then [] else [note v]
      | none => []) = unlisted opening allowed v? := by
  cases v? with
  | none => exact hnil
  | some v =>
    have hu : unlisted opening allowed (some v) =
        if v.isOneOf allowed then [] else [opening ++ v.render] :=
      if_congr isOneOf_iff.symm rfl rfl
    rw [hu]
    dsimp only
    cases v.isOneOf allowed with
    | true => exact hnil
    | false => exact hnote v

theorem messages_rule (c : Collection) (e : Tree) :
    (faults (rule c e)).map Fault.message = c.valueErrors e := by
  cases c with
  | models => rw [(faults_rule_eq_nil_iff .models e).mpr trivial, List.map_nil,
      Collection.valueErrors]
  | prompts =>
    exact messages_unlisted (fun ns => (faults ns).map Fault.message)
      (fun v => .fault (.invalidRole v)) "Invalid prompt role: " promptRoles rfl (fun _ => rfl)
      (e.field? "role")
  | constraints =>
    exact messages_unlisted (fun ns => (faults ns).map Fault.message)
      (fun v => .fault (.invalidSeverity v)) "Invalid constraint severity: " severities rfl
      (fun _ => rfl) (e.field? "severity")
  | tasks => rfl

theorem messages_missingFields (c : Collection) (index : Nat) (e : Tree) :
    (faults (missingFields c index e)).map Fault.message = c.absentErrors index e := by
  rw [missingFields, faults_map_fault, List.map_map]
  rfl

theorem messages_duplicate (c : Collection) (before : List Tree) (e : Tree) :
    (faults (duplicate c (ids before) e)).map Fault.message = c.repeatErrors before e := by
  unfold duplicate Collection.repeatErrors id?
  cases e.field? "id" with
  | none => rfl
  | some id =>
    by_cases hk : knows (ids before) id = true
    · have hh : Collection.Holds before id := knows_ids_iff.mp hk
      simp only [hk, hh, if_true]
      rfl
    · have hh : ¬ Collection.Holds before id := fun hh => hk (knows_ids_iff.mpr hh)
      simp only [hk, hh]
      rfl

theorem messages_entryNotes (c : Collection) (before : List Tree) (e : Tree) :
    (faults (entryNotes c before e)).map Fault.message =
      c.entryErrors before before.length e := by
  unfold entryNotes Collection.entryErrors
  by_cases hm : e.isMapping = true
  · rw [if_pos hm, if_pos hm, faults_append, faults_append, List.map_append, List.map_append,
      messages_missingFields, messages_duplicate, messages_rule]
  · rw [if_neg hm, if_neg hm]
    rfl

theorem advices_duplicate (c : Collection) (seen : List Tree) (e : Tree) :
    advices (duplicate c seen e) = [] := by
  unfold duplicate
  split
  · split <;> rfl
  · rfl

/-- Only the type of a model is a matter of advice. -/
theorem messages_advices_rule (c : Collection) (e : Tree) :
    (advices (rule c e)).map Advice.message =
      if c = .models then Collection.typeWarnings (e.field? "type") else [] := by
  cases c with
  | models =>
    exact messages_unlisted (fun ns => (advices ns).map Advice.message)
      (fun v => .advice (.unknownModelType v)) "Unknown model type: " modelTypes rfl (fun _ => rfl)
      (e.field? "type")
  | prompts =>
    rw [if_neg (by decide), rule]
    split
    · split <;> rfl
    · rfl
  | constraints =>
    rw [if_neg (by decide), rule]
    split
    · split <;> rfl
    · rfl
  | tasks => rfl

theorem messages_advices_entryNotes (c : Collection) (before : List Tree) (e : Tree) :
    (advices (entryNotes c before e)).map Advice.message =
      if c = .models then Collection.typeWarnings (e.field? "type") else [] := by
  unfold entryNotes
  by_cases hm : e.isMapping = true
  · rw [if_pos hm, advices_append, advices_append, missingFields, advices_map_fault,
      advices_duplicate, List.nil_append, List.nil_append, messages_advices_rule]
  · rw [if_neg hm, Tree.field?_of_not_isMapping hm "type"]
    split <;> rfl

/-! ## Collections -/

theorem messages_entries (c : Collection) (items : List Tree) :
    (faults (entries c items)).map Fault.message =
      items.zipIdx.flatMap fun (e, i) => c.entryErrors (items.take i) i e := by
  rw [entries_eq, faults_log, faults_flatMap, List.map_flatMap]
  refine List.flatMap_congr fun x hx => ?_
  have hi : x.2 < items.length := (List.mem_zipIdx' hx).1
  have hlength : (items.take x.2).length = x.2 := by
    rw [List.length_take]
    omega
  rw [messages_entryNotes, hlength]

theorem messages_advices_entries (c : Collection) (items : List Tree) :
    (advices (entries c items)).map Advice.message =
      items.flatMap fun e =>
        if c = .models then Collection.typeWarnings (e.field? "type") else [] := by
  rw [entries_eq, advices_log, advices_flatMap, List.map_flatMap]
  simp only [messages_advices_entryNotes]
  conv_rhs => rw [← List.zipIdx_map_fst 0 items, List.flatMap_map]

theorem messages_collection (c : Collection) (t : Tree) :
    (faults (collection c t)).map Fault.message = c.errors t := by
  cases t with
  | sequence items =>
    rw [collection, Tree.items?, Collection.errors]
    by_cases hc : c = .models ∧ items = []
    · have hc' : c = .models ∧ items.isEmpty = true := ⟨hc.1, List.isEmpty_iff.mpr hc.2⟩
      simp only [if_pos hc, if_pos hc']
      rfl
    · have hc' : ¬ (c = .models ∧ items.isEmpty = true) :=
        fun h => hc ⟨h.1, List.isEmpty_iff.mp h.2⟩
      simp only [if_neg hc, if_neg hc']
      exact messages_entries c items
  | _ => rfl

theorem messages_advices_collection (c : Collection) (t : Tree) :
    (advices (collection c t)).map Advice.message = c.warnings t := by
  cases t with
  | sequence items =>
    rw [collection, Tree.items?]
    dsimp only
    split
    · rename_i h
      obtain ⟨rfl, hempty⟩ := h
      rw [List.isEmpty_iff.mp hempty]
      rfl
    · rw [messages_advices_entries]
      cases c <;> simp [Collection.warnings]
  | _ => cases c <;> rfl

/-! ## Repeated identifiers -/

theorem HasId.trans {e x y : Tree} (h : HasId e x) (hxy : x ≈ y) : HasId e y := by
  obtain ⟨id, hid, hx⟩ := h
  exact ⟨id, hid, Setoid.trans hx hxy⟩

theorem holds_append_singleton {before : List Tree} {e id : Tree} :
    Collection.Holds (before ++ [e]) id ↔ Collection.Holds before id ∨ HasId e id := by
  simp only [Collection.Holds, List.mem_append, List.mem_singleton, or_and_right, exists_or,
    exists_eq_left]

/-- No other note than that on the identifier is a repetition. -/
theorem countP_repeats_other (c : Collection) (index : Nat) (e id : Tree) :
    (faults (missingFields c index e)).countP (Fault.repeats c id) = 0 ∧
      (faults (rule c e)).countP (Fault.repeats c id) = 0 := by
  constructor
  · rw [missingFields, faults_map_fault, List.countP_eq_zero]
    intro f hf
    obtain ⟨name, -, rfl⟩ := List.mem_map.mp hf
    exact Bool.false_ne_true
  · unfold rule
    repeat' split
    all_goals rfl

theorem countP_duplicate (c : Collection) (before : List Tree) (e id : Tree) :
    (faults (duplicate c (ids before) e)).countP (Fault.repeats c id) =
      if HasId e id ∧ Collection.Holds before id then 1 else 0 := by
  unfold duplicate id?
  cases hf : e.field? "id" with
  | none =>
    have hn : ¬ HasId e id := by
      rintro ⟨x, hx, -⟩
      rw [hf] at hx
      cases hx
    rw [if_neg fun h => hn h.1]
    rfl
  | some x =>
    have hid : HasId e id ↔ x ≈ id := by
      constructor
      · rintro ⟨y, hy, hyid⟩
        rw [hf, Option.some.injEq] at hy
        exact hy ▸ hyid
      · exact fun h => ⟨x, hf, h⟩
    dsimp only
    by_cases hx : x ≈ id
    · have hk : knows (ids before) x = true ↔ HasId e id ∧ Collection.Holds before id := by
        rw [knows_ids_iff, hid]
        constructor
        · rintro ⟨a, ha, hax⟩
          exact ⟨hx, a, ha, hax.trans hx⟩
        · rintro ⟨-, a, ha, haid⟩
          exact ⟨a, ha, haid.trans (Setoid.symm hx)⟩
      by_cases hh : HasId e id ∧ Collection.Holds before id
      · rw [if_pos hh, if_pos (hk.mpr hh)]
        simp [Fault.repeats, hx]
      · rw [if_neg hh, if_neg fun h => hh (hk.mp h)]
        rfl
    · have hn : ¬ (HasId e id ∧ Collection.Holds before id) := fun h => hx (hid.mp h.1)
      rw [if_neg hn]
      split
      · simp [Fault.repeats, hx]
      · rfl

theorem countP_entryNotes (c : Collection) (before : List Tree) (e id : Tree) :
    (faults (entryNotes c before e)).countP (Fault.repeats c id) =
      if HasId e id ∧ Collection.Holds before id then 1 else 0 := by
  unfold entryNotes
  by_cases hm : e.isMapping = true
  · obtain ⟨hmissing, hrule⟩ := countP_repeats_other c before.length e id
    rw [if_pos hm, faults_append, faults_append, List.countP_append, List.countP_append, hmissing,
      hrule, countP_duplicate, Nat.zero_add, Nat.add_zero]
  · have hn : ¬ HasId e id := fun ⟨_, hx, _⟩ => hm (Tree.isMapping_of_field? hx)
    rw [if_neg hm, if_neg fun h => hn h.1]
    rfl

/-- An identifier is reported at each of its entries, but at the first one only when an entry
before the walk has it. -/
theorem countP_entriesFrom (c : Collection) (id : Tree) (items : List Tree) :
    ∀ {seen before : List Tree}, Remembers seen before →
      (faults (entriesFrom c before.length seen items)).countP (Fault.repeats c id) =
        items.countP (fun e => HasId e id)
          - if Collection.Holds before id then 0 else 1 := by
  induction items with
  | nil => exact fun _ => (Nat.zero_sub _).symm
  | cons e rest ih =>
    intro seen before h
    obtain ⟨seen', hs, he⟩ := entriesFrom_cons h c e rest
    have hr := ih hs
    rw [List.length_append, List.length_singleton] at hr
    rw [he, faults_append, List.countP_append, countP_entryNotes, hr, List.countP_cons]
    simp only [holds_append_singleton, decide_eq_true_eq]
    by_cases hb : Collection.Holds before id
    · by_cases hid : HasId e id
      · simp only [hb, hid, and_self, or_self, if_true]
        omega
      · simp only [hb, hid, false_and, or_false, if_true, if_false]
        omega
    · by_cases hid : HasId e id
      · simp only [hb, hid, and_false, or_true, if_true, if_false]
        omega
      · simp only [hb, hid, and_false, or_false, if_false]
        omega

theorem countP_collection (c : Collection) (t id : Tree) :
    (faults (collection c t)).countP (Fault.repeats c id) =
      (t.items?.getD []).countP (fun e => HasId e id) - 1 := by
  unfold collection
  cases t.items? with
  | none => rfl
  | some items =>
    dsimp only
    split
    · rename_i h
      rw [List.isEmpty_iff.mp h.2]
      rfl
    · have hrun := countP_entriesFrom c id items remembers_nil
      rw [if_neg fun ⟨_, he, _⟩ => List.not_mem_nil he] at hrun
      exact hrun

end Check

/-- What the checks find on a value as a collection, on its own: the errors told from each entry,
its position and the entries before it, and the warnings on the types of models. Of the entries
that have an identifier of one value all but the first are reported; two identifiers can be
rendered alike, so that the faults are counted and not their messages. -/
theorem collection_findings (c : Collection) (t : Tree) :
    (Outcome.ofNotes (Check.collection c t)).errors = c.errors t ∧
    (Outcome.ofNotes (Check.collection c t)).warnings = c.warnings t ∧
    ∀ id, (faults (Check.collection c t)).countP (Fault.repeats c id) =
      (t.items?.getD []).countP (fun e => Check.HasId e id) - 1 :=
  ⟨Check.messages_collection c t, Check.messages_advices_collection c t,
    Check.countP_collection c t⟩

end AgentSpec
