import AgentSpec.Proofs.Reference

/-!
# Conforming documents

`Conforms` says what a document must be like, section by section and across sections, without the
order, the early ends and the list of seen identifiers of the checks. A document is valid exactly
when it conforms: `valid_iff_conforms`.
-/

namespace AgentSpec

/-! ## The predicate -/

/-- A text, and one of those listed. -/
def Tree.IsText (t : Tree) (allowed : List String) : Prop := ∃ s ∈ allowed, t = .text s

structure Tree.ConformsAsMetadata (t : Tree) : Prop where
  isMapping : t.isMapping = true
  complexity : ∀ v, t.field? "complexity" = some v → v.IsText ["low", "medium", "high"]

structure Tree.ConformsAsInfo (t : Tree) : Prop where
  isMapping : t.isMapping = true
  required : ∀ name ∈ ["title", "version", "description"], t.has name = true
  metadata : ∀ m, t.field? "ai_metadata" = some m → m.ConformsAsMetadata

/-- What the one field may hold whose values the collection knows. -/
def Collection.Allows : Collection → Tree → Prop
  | .prompts, e => ∀ v, e.field? "role" = some v → v.IsText ["system", "user", "assistant"]
  | .constraints, e =>
    ∀ v, e.field? "severity" = some v → v.IsText ["low", "medium", "high", "critical"]
  | .models, _ => True
  | .tasks, _ => True

/-- Two entries do not share an identifier. -/
def DistinctIds (a b : Tree) : Prop :=
  ∀ x y, a.field? "id" = some x → b.field? "id" = some y → ¬ x ≈ y

structure Collection.Conforms (c : Collection) (entries : List Tree) : Prop where
  nonempty : c = .models → entries ≠ []
  mappings : ∀ e ∈ entries, e.isMapping = true
  required : ∀ e ∈ entries, ∀ name ∈ c.required, e.has name = true
  allowed : ∀ e ∈ entries, c.Allows e
  distinct : entries.Pairwise DistinctIds

def Section.Conforms : Section → Tree → Prop
  | .version, t => ∃ v, t = .text v
  | .info, t => t.ConformsAsInfo
  | .models, t => ∃ entries, t = .sequence entries ∧ Collection.models.Conforms entries
  | .prompts, t => ∃ entries, t = .sequence entries ∧ Collection.prompts.Conforms entries
  | .constraints, t => ∃ entries, t = .sequence entries ∧ Collection.constraints.Conforms entries
  | .tasks, t => ∃ entries, t = .sequence entries ∧ Collection.tasks.Conforms entries
  | .context, t => t.isMapping = true
  | .evaluation, t => t.isMapping = true

structure Conforms (d : Tree) : Prop where
  isMapping : d.isMapping = true
  sections : ∀ s : Section, ∃ t, d.field? s.name = some t ∧ s.Conforms t
  references : ∀ (r : Reference) (t s : Nat) (step v : Tree), StepAt d t s step →
    step.field? r.key = some v → ∃ id, Declares d r.target id ∧ id ≈ v

/-! ## The checks on one section -/

namespace Check

theorem isOneOf_iff {t : Tree} {allowed : List String} :
    t.isOneOf allowed = true ↔ t.IsText allowed := by
  cases t <;> simp [Tree.isOneOf, Tree.IsText]

/-- A field whose values are listed gives no fault when it is absent or holds one of them. -/
theorem faults_listed_eq_nil_iff (v? : Option Tree) (allowed : List String)
    (fault : Tree → Fault) :
    faults (match v? with
      | some v => if v.isOneOf allowed then [] else [.fault (fault v)]
      | none => []) = [] ↔ ∀ v, v? = some v → v.IsText allowed := by
  cases v? with
  | none => simp
  | some v =>
    simp only [Option.some.injEq, forall_eq']
    rw [← isOneOf_iff]
    by_cases h : v.isOneOf allowed = true <;> simp [h]

/-- What is not a mapping gives one fault, and nothing else is checked. -/
theorem faults_ofMapping_eq_nil_iff (t : Tree) (ns : List Note) (f : Fault) :
    faults (if t.isMapping then ns else [.fault f]) = [] ↔ t.isMapping = true ∧ faults ns = [] := by
  by_cases h : t.isMapping = true <;> simp [h]

theorem faults_version_eq_nil_iff (t : Tree) : faults (version t) = [] ↔ ∃ v, t = .text v := by
  cases t with
  | text v =>
    refine ⟨fun _ => ⟨v, rfl⟩, fun _ => ?_⟩
    simp only [version]
    split <;> rfl
  | _ => simp [version]

theorem faults_metadata_eq_nil_iff (t : Tree) :
    faults (metadata t) = [] ↔ t.ConformsAsMetadata := by
  have hd : faults (if t.has "domain" then []
      else [.advice (.recommended "ai_metadata" "domain")]) = [] := by
    split <;> rfl
  have hc := faults_listed_eq_nil_iff (t.field? "complexity") complexities .invalidComplexity
  rw [metadata, faults_ofMapping_eq_nil_iff, faults_append, hd, List.nil_append]
  refine (and_congr_right fun _ => hc).trans ?_
  exact ⟨fun h => ⟨h.1, h.2⟩, fun h => ⟨h.isMapping, h.complexity⟩⟩

theorem faults_info_eq_nil_iff (t : Tree) : faults (info t) = [] ↔ t.ConformsAsInfo := by
  have hr : faults ((infoFields.filter fun f => !t.has f).map fun f =>
      .fault (.missingInfoField f)) = [] ↔
      ∀ name ∈ ["title", "version", "description"], t.has name = true := by
    simp [infoFields]
  have hi : faults (match t.field? "ai_metadata" with
      | some m => metadata m
      | none => []) = [] ↔
      ∀ m, t.field? "ai_metadata" = some m → m.ConformsAsMetadata := by
    cases t.field? "ai_metadata" with
    | none => simp
    | some m => simp [faults_metadata_eq_nil_iff]
  rw [info, faults_ofMapping_eq_nil_iff, faults_append, List.append_eq_nil_iff, hr]
  refine (and_congr_right fun _ => and_congr_right fun _ => hi).trans ?_
  exact ⟨fun h => ⟨h.1, h.2.1, h.2.2⟩, fun h => ⟨h.isMapping, h.required, h.metadata⟩⟩

theorem faults_recommended_eq_nil_iff (name field : String) (t : Tree) :
    faults (recommended name field t) = [] ↔ t.isMapping = true := by
  have hr : faults (if t.has field then [] else [.advice (.recommended name field)]) = [] := by
    split <;> rfl
  rw [recommended, faults_ofMapping_eq_nil_iff]
  exact and_iff_left hr

/-! ## The checks on collections -/

theorem faults_rule_eq_nil_iff (c : Collection) (e : Tree) :
    faults (rule c e) = [] ↔ c.Allows e := by
  cases c with
  | models =>
    simp only [rule, Collection.Allows, iff_true]
    split
    · split <;> rfl
    · rfl
  | prompts => exact faults_listed_eq_nil_iff (e.field? "role") _ .invalidRole
  | constraints => exact faults_listed_eq_nil_iff (e.field? "severity") _ .invalidSeverity
  | tasks => simp [rule, Collection.Allows]

theorem faults_missingFields_eq_nil_iff (c : Collection) (index : Nat) (e : Tree) :
    faults (missingFields c index e) = [] ↔ ∀ name ∈ c.required, e.has name = true := by
  simp [missingFields]

theorem faults_duplicate_eq_nil_iff (c : Collection) (before : List Tree) (e : Tree) :
    faults (duplicate c (ids before) e) = [] ↔ ∀ a ∈ before, DistinctIds a e := by
  unfold duplicate
  cases he : id? e with
  | none =>
    have he' : e.field? "id" = none := he
    simp [DistinctIds, he']
  | some id =>
    have he' : e.field? "id" = some id := he
    by_cases hk : knows (ids before) id = true
    · obtain ⟨a, ha, x, hx, hxid⟩ := knows_ids_iff.mp hk
      simp only [hk, if_true]
      exact ⟨fun h => by simp at h, fun h => absurd hxid (h a ha x id hx he')⟩
    · simp only [hk]
      refine ⟨fun _ a ha x y hx hy hxy => hk (knows_ids_iff.mpr ⟨a, ha, x, hx, ?_⟩), fun _ => rfl⟩
      rw [he', Option.some.injEq] at hy
      exact hy ▸ hxy

theorem faults_entryNotes_eq_nil_iff (c : Collection) (before : List Tree) (e : Tree) :
    faults (entryNotes c before e) = [] ↔
      e.isMapping = true ∧ (∀ name ∈ c.required, e.has name = true) ∧ c.Allows e ∧
        ∀ a ∈ before, DistinctIds a e := by
  rw [entryNotes, faults_ofMapping_eq_nil_iff, faults_append, faults_append,
    List.append_eq_nil_iff, List.append_eq_nil_iff, faults_missingFields_eq_nil_iff,
    faults_duplicate_eq_nil_iff, faults_rule_eq_nil_iff]
  exact ⟨fun h => ⟨h.1, h.2.1.1, h.2.2, h.2.1.2⟩, fun h => ⟨h.1, ⟨h.2.1, h.2.2.2⟩, h.2.2.1⟩⟩

/-- A relation holds between each element and those after it if it holds from every element back
to all those before it. -/
theorem pairwise_iff_take {α : Type} {R : α → α → Prop} {xs : List α} :
    xs.Pairwise R ↔ ∀ (i : Nat) (x : α), xs[i]? = some x → ∀ a ∈ xs.take i, R a x := by
  rw [List.pairwise_iff_getElem]
  constructor
  · intro h i x hx a ha
    obtain ⟨j, hj, rfl⟩ := List.mem_take_iff_getElem.mp ha
    obtain ⟨hi, rfl⟩ := List.getElem?_eq_some_iff.mp hx
    exact h j i _ hi (by omega)
  · intro h i j hi hj hij
    exact h j _ (List.getElem?_eq_getElem hj) _ (List.mem_take_iff_getElem.mpr ⟨i, by omega, rfl⟩)

theorem faults_entries_eq_nil_iff (c : Collection) (items : List Tree) :
    faults (entries c items) = [] ↔
      (∀ e ∈ items, e.isMapping = true) ∧ (∀ e ∈ items, ∀ name ∈ c.required, e.has name = true) ∧
        (∀ e ∈ items, c.Allows e) ∧ items.Pairwise DistinctIds := by
  rw [entries_eq, faults_log, faults_flatMap, List.flatMap_eq_nil_iff, pairwise_iff_take]
  simp only [Prod.forall, List.mk_mem_zipIdx_iff_getElem?, faults_entryNotes_eq_nil_iff]
  have hpos : ∀ e ∈ items, ∃ i : Nat, items[i]? = some e := fun e => List.mem_iff_getElem?.mp
  constructor
  · intro h
    refine ⟨fun e he => ?_, fun e he => ?_, fun e he => ?_, fun i e hi => (h e i hi).2.2.2⟩
    · obtain ⟨i, hi⟩ := hpos e he
      exact (h e i hi).1
    · obtain ⟨i, hi⟩ := hpos e he
      exact (h e i hi).2.1
    · obtain ⟨i, hi⟩ := hpos e he
      exact (h e i hi).2.2.1
  · rintro ⟨hm, hr, ha, hd⟩ e i hi
    have he : e ∈ items := List.mem_of_getElem? hi
    exact ⟨hm e he, hr e he, ha e he, hd i e hi⟩

theorem faults_collection_eq_nil_iff (c : Collection) (t : Tree) :
    faults (collection c t) = [] ↔ ∃ entries, t = .sequence entries ∧ c.Conforms entries := by
  unfold collection
  cases ht : t.items? with
  | none =>
    refine ⟨fun h => by simp at h, ?_⟩
    rintro ⟨entries, rfl, _⟩
    simp [Tree.items?] at ht
  | some items =>
    rw [Tree.items?_eq_some_iff] at ht
    subst ht
    simp only [Tree.sequence.injEq, exists_eq_left']
    split
    · rename_i h
      refine ⟨fun hf => by simp at hf, fun hc => absurd (List.isEmpty_iff.mp h.2) ?_⟩
      exact hc.nonempty h.1
    · rename_i h
      rw [faults_entries_eq_nil_iff]
      constructor
      · rintro ⟨hm, hr, ha, hd⟩
        exact ⟨fun hc hn => h ⟨hc, List.isEmpty_iff.mpr hn⟩, hm, hr, ha, hd⟩
      · exact fun hc => ⟨hc.mappings, hc.required, hc.allowed, hc.distinct⟩

theorem faults_ofSection_eq_nil_iff (s : Section) (t : Tree) :
    faults (ofSection s t) = [] ↔ s.Conforms t := by
  cases s with
  | version => exact faults_version_eq_nil_iff t
  | info => exact faults_info_eq_nil_iff t
  | models => exact faults_collection_eq_nil_iff .models t
  | prompts => exact faults_collection_eq_nil_iff .prompts t
  | constraints => exact faults_collection_eq_nil_iff .constraints t
  | tasks => exact faults_collection_eq_nil_iff .tasks t
  | context => exact faults_recommended_eq_nil_iff _ _ t
  | evaluation => exact faults_recommended_eq_nil_iff _ _ t

/-! ## The whole document -/

theorem absent_eq_nil_iff (d : Tree) :
    absent d = [] ↔ ∀ s : Section, d.has s.name = true := by
  simp [absent, List.filter_eq_nil_iff, Section.mem_all]

theorem faults_sectionNotes_eq_nil_iff (d : Tree) (s : Section) :
    faults (sectionNotes d s) = [] ↔ ∀ t, d.field? s.name = some t → s.Conforms t := by
  unfold sectionNotes
  cases d.field? s.name with
  | none => simp
  | some t => simp [faults_ofSection_eq_nil_iff]

/-- The checks on single sections find nothing when all sections are there and conform. -/
theorem localFaults_eq_nil_iff (d : Tree) :
    localFaults d = [] ↔ ∀ s : Section, ∃ t, d.field? s.name = some t ∧ s.Conforms t := by
  rw [localFaults, List.append_eq_nil_iff, List.map_eq_nil_iff, absent_eq_nil_iff,
    List.flatMap_eq_nil_iff]
  simp only [Section.mem_all, true_imp_iff, faults_sectionNotes_eq_nil_iff]
  constructor
  · rintro ⟨hh, hc⟩ s
    obtain ⟨t, ht⟩ := Tree.has_iff.mp (hh s)
    exact ⟨t, ht, hc s t ht⟩
  · intro h
    refine ⟨fun s => ?_, fun s t ht => ?_⟩
    · obtain ⟨t, ht, _⟩ := h s
      exact Tree.has_iff.mpr ⟨t, ht⟩
    · obtain ⟨t', ht', hc⟩ := h s
      rw [ht, Option.some.injEq] at ht'
      exact ht' ▸ hc

theorem mentions_eq_nil_iff {d : Tree} {r : Reference}
    (h : d.has r.target.toSection.name = true) :
    mentions d r = [] ↔ ∀ (t s : Nat) (step v : Tree), StepAt d t s step →
      step.field? r.key = some v → ∃ id, Declares d r.target id ∧ id ≈ v := by
  rw [List.eq_nil_iff_forall_not_mem]
  simp only [mem_mentions_iff, Mention.Dangles, h, true_and]
  constructor
  · intro hm t s step v hs hv
    by_contra hn
    exact hm ⟨t, s, v⟩ ⟨⟨step, hs, hv⟩, fun id hid heq => hn ⟨id, hid, heq⟩⟩
  · rintro hr m ⟨⟨step, hs, hv⟩, hn⟩
    obtain ⟨id, hid, heq⟩ := hr m.task m.step step m.value hs hv
    exact hn id hid heq

theorem valid_iff_nil (d : Tree) :
    (validate d).valid = true ↔ localFaults d = [] ∧ ∀ r, mentions d r = [] := by
  rw [validate_valid_iff, faults_notes_eq_local_append, List.append_eq_nil_iff,
    List.append_eq_nil_iff, List.map_eq_nil_iff, List.map_eq_nil_iff, and_assoc]
  refine and_congr_right fun _ => ⟨fun ⟨hm, hp⟩ r => ?_, fun h => ⟨h .model, h .prompt⟩⟩
  cases r with
  | model => exact hm
  | prompt => exact hp

end Check

/-- A document is valid exactly when it conforms. -/
theorem valid_iff_conforms (d : Tree) : (validate d).valid = true ↔ Conforms d := by
  rw [Check.valid_iff_nil, Check.localFaults_eq_nil_iff]
  have hhas : (∀ s : Section, ∃ t, d.field? s.name = some t ∧ s.Conforms t) →
      ∀ s : Section, d.has s.name = true := by
    intro h s
    obtain ⟨t, ht, _⟩ := h s
    exact Tree.has_iff.mpr ⟨t, ht⟩
  constructor
  · rintro ⟨hs, hm⟩
    obtain ⟨t, ht, _⟩ := hs .version
    exact ⟨Tree.isMapping_of_field? ht, hs,
      fun r => (Check.mentions_eq_nil_iff (hhas hs _)).mp (hm r)⟩
  · intro h
    exact ⟨h.sections,
      fun r => (Check.mentions_eq_nil_iff (hhas h.sections _)).mpr (h.references r)⟩

end AgentSpec
