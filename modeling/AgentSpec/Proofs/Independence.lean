import AgentSpec.Proofs.Reference

/-!
# Independent sections

A document falls into parts: for each section the document with that section alone, and for each
kind of reference the document with the tasks and the section referred to. The findings on the
whole are those on the parts, in the order of the sections: `findings_eq_parts`.
-/

namespace AgentSpec

/-- The document with one section. -/
def Section.alone (s : Section) (v : Tree) : Tree := .mapping [(s.name, v)]

/-- A document cut down to those of its sections that are listed. -/
def Tree.only (d : Tree) (sections : List Section) : Tree :=
  .mapping (sections.filterMap fun s => (d.field? s.name).map fun v => (s.name, v))

def missingErrors (sections : List Section) : List String :=
  sections.map fun s => "Missing required section: " ++ s.name

/-- The errors on a section alone, after those on the seven others that are missing. -/
def ownErrors (d : Tree) (s : Section) : List String :=
  match d.field? s.name with
  | some v => (validate (s.alone v)).errors.drop 7
  | none => []

/-- The warnings on a section alone. -/
def ownWarnings (d : Tree) (s : Section) : List String :=
  match d.field? s.name with
  | some v => (validate (s.alone v)).warnings
  | none => []

/-! ## Fields of the parts -/

theorem Section.lookup_cons (s t : Section) (v : Tree) (fields : List (String × Tree)) :
    ((s.name, v) :: fields).lookup t.name = if t = s then some v else fields.lookup t.name := by
  by_cases h : t = s
  · rw [if_pos h, h, List.lookup_cons_self]
  · have hne : t.name ≠ s.name := fun hn => h (Section.name_injective hn)
    rw [if_neg h, Tree.lookup_cons_of_ne hne]

theorem Section.field?_alone (s t : Section) (v : Tree) :
    (s.alone v).field? t.name = if t = s then some v else none :=
  Section.lookup_cons s t v []

theorem Tree.field?_only (d : Tree) (sections : List Section) (s : Section) :
    (d.only sections).field? s.name = if s ∈ sections then d.field? s.name else none := by
  show List.lookup _ _ = _
  induction sections with
  | nil => rfl
  | cons t sections ih =>
    cases ht : d.field? t.name with
    | none =>
      rw [List.filterMap_cons_none (by rw [ht]; rfl), ih]
      by_cases h : s = t
      · subst h
        simp [ht]
      · simp [h]
    | some v =>
      rw [List.filterMap_cons_some (by rw [ht]; rfl), Section.lookup_cons, ih]
      by_cases h : s = t
      · subst h
        simp [ht]
      · simp [h]

/-! ## What the checks read -/

namespace Check

/-- The checks on a section read nothing but its value. -/
theorem sectionNotes_congr {d d' : Tree} {s : Section}
    (h : d.field? s.name = d'.field? s.name) : sectionNotes d s = sectionNotes d' s := by
  unfold sectionNotes
  rw [h]

/-- The checks on references read nothing but the tasks and the identifiers that the section
referred to declares. -/
theorem mentions_congr {d d' : Tree} {r : Reference}
    (ht : d.field? Section.tasks.name = d'.field? Section.tasks.name)
    (hr : (d.field? r.target.toSection.name).map declaredIds =
      (d'.field? r.target.toSection.name).map declaredIds) :
    mentions d r = mentions d' r := by
  have ht' : d.field? "tasks" = d'.field? "tasks" := ht
  unfold mentions
  rw [ht']
  cases d'.field? "tasks" with
  | none => rfl
  | some tasks =>
    cases h : d.field? r.target.toSection.name with
    | none =>
      rw [h, Option.map_none, eq_comm, Option.map_eq_none_iff] at hr
      rw [hr]
    | some declaring =>
      rw [h, Option.map_some, eq_comm, Option.map_eq_some_iff] at hr
      obtain ⟨declaring', h', hids⟩ := hr
      rw [h']
      dsimp only
      rw [hids]

theorem errors_eq_sections (d : Tree) :
    (validate d).errors = missingErrors (absent d)
      ++ (Section.all.flatMap fun s => (faults (sectionNotes d s)).map Fault.message)
      ++ unknownErrors .model d ++ unknownErrors .prompt d := by
  rw [errors_eq_local_append_unknown, localFaults, List.map_append, List.map_map, List.map_flatMap]
  rfl

theorem warnings_eq_sections (d : Tree) :
    (validate d).warnings =
      Section.all.flatMap fun s => (advices (sectionNotes d s)).map Advice.message := by
  rw [validate_warnings, advices_notes, List.map_flatMap]

/-! ## One section -/

theorem absent_alone (s : Section) (v : Tree) : absent (s.alone v) = Section.all.erase s := by
  have h : absent (s.alone v) = Section.all.filter fun t => t ≠ s := by
    unfold absent Tree.has
    refine List.filter_congr fun t _ => ?_
    rw [Section.field?_alone]
    by_cases h : t = s <;> simp [h]
  rw [h]
  cases s <;> rfl

/-- A section alone is the only one that gives notes. -/
theorem sectionNotes_alone (s t : Section) (v : Tree) :
    sectionNotes (s.alone v) t = if t = s then sectionNotes (s.alone v) s else [] := by
  by_cases h : t = s
  · rw [if_pos h, h]
  · simp only [sectionNotes, Section.field?_alone, if_neg h]

theorem flatMap_sectionNotes_alone {α : Type} (s : Section) (v : Tree) (f : List Note → List α)
    (hf : f [] = []) :
    (Section.all.flatMap fun t => f (sectionNotes (s.alone v) t)) =
      f (sectionNotes (s.alone v) s) := by
  have h : ∀ t, f (sectionNotes (s.alone v) t) =
      if t = s then f (sectionNotes (s.alone v) s) else [] := by
    intro t
    rw [sectionNotes_alone]
    split
    · rfl
    · exact hf
  rw [funext h]
  cases s <;> simp [Section.all]

theorem unknownErrors_alone (s : Section) (v : Tree) (r : Reference) :
    unknownErrors r (s.alone v) = [] := by
  rw [unknownErrors_eq, List.map_eq_nil_iff, List.eq_nil_iff_forall_not_mem]
  rintro m hm
  obtain ⟨⟨step, ⟨tasks, _, _, ht, _⟩, _⟩, hr, _⟩ := mem_mentions_iff.mp hm
  have ht' : (s.alone v).field? Section.tasks.name = some (.sequence tasks) := ht
  rw [Section.field?_alone] at ht'
  rw [Tree.has, Section.field?_alone] at hr
  have hts : Section.tasks = s := by
    by_contra h
    simp [h] at ht'
  subst hts
  cases r <;> simp [Reference.target, Collection.toSection] at hr

theorem errors_alone (s : Section) (v : Tree) :
    (validate (s.alone v)).errors = missingErrors (Section.all.erase s)
      ++ (faults (sectionNotes (s.alone v) s)).map Fault.message := by
  rw [errors_eq_sections, absent_alone, unknownErrors_alone, unknownErrors_alone, List.append_nil,
    List.append_nil, flatMap_sectionNotes_alone s v (fun ns => (faults ns).map Fault.message) rfl]

theorem warnings_alone (s : Section) (v : Tree) :
    (validate (s.alone v)).warnings =
      (advices (sectionNotes (s.alone v) s)).map Advice.message := by
  rw [warnings_eq_sections,
    flatMap_sectionNotes_alone s v (fun ns => (advices ns).map Advice.message) rfl]

theorem length_missingErrors_erase (s : Section) :
    (missingErrors (Section.all.erase s)).length = 7 := by
  cases s <;> rfl

/-! ## Parts of a document -/

theorem sectionNotes_eq_alone {d v : Tree} {s : Section} (h : d.field? s.name = some v) :
    sectionNotes d s = sectionNotes (s.alone v) s := by
  refine sectionNotes_congr ?_
  rw [h, Section.field?_alone, if_pos rfl]

theorem ownErrors_eq (d : Tree) (s : Section) :
    ownErrors d s = (faults (sectionNotes d s)).map Fault.message := by
  unfold ownErrors
  cases h : d.field? s.name with
  | none => simp [sectionNotes, h]
  | some v =>
    show (validate (s.alone v)).errors.drop 7 = _
    rw [errors_alone, List.drop_left' (length_missingErrors_erase s), sectionNotes_eq_alone h]

theorem ownWarnings_eq (d : Tree) (s : Section) :
    ownWarnings d s = (advices (sectionNotes d s)).map Advice.message := by
  unfold ownWarnings
  cases h : d.field? s.name with
  | none => simp [sectionNotes, h]
  | some v =>
    show (validate (s.alone v)).warnings = _
    rw [warnings_alone, sectionNotes_eq_alone h]

theorem unknownErrors_only (d : Tree) (r : Reference) :
    unknownErrors r (d.only [r.target.toSection, .tasks]) = unknownErrors r d := by
  rw [unknownErrors_eq, unknownErrors_eq]
  congr 1
  refine mentions_congr ?_ ?_
  · rw [Tree.field?_only, if_pos (by simp)]
  · rw [Tree.field?_only, if_pos (by simp)]

/-- What is read section by section changes in place when one section changes. -/
theorem flatMap_sections_replace {f g : Section → List String} {t : Section}
    (h : ∀ s, s ≠ t → g s = f s) :
    ∃ before after, Section.all.flatMap f = before ++ f t ++ after ∧
      Section.all.flatMap g = before ++ g t ++ after := by
  obtain ⟨before, after, hall⟩ := List.append_of_mem (Section.mem_all t)
  have hnot : t ∉ before ++ after := by
    have hnodup := Section.nodup_all
    rw [hall, List.nodup_middle] at hnodup
    exact (List.nodup_cons.mp hnodup).1
  have hbefore : before.flatMap g = before.flatMap f := by
    refine List.flatMap_congr fun s hs => h s ?_
    rintro rfl
    exact hnot (List.mem_append_left _ hs)
  have hafter : after.flatMap g = after.flatMap f := by
    refine List.flatMap_congr fun s hs => h s ?_
    rintro rfl
    exact hnot (List.mem_append_right _ hs)
  refine ⟨before.flatMap f, after.flatMap f, ?_, ?_⟩
  · rw [hall, List.flatMap_append, List.flatMap_cons, List.append_assoc]
  · rw [hall, List.flatMap_append, List.flatMap_cons, List.append_assoc, hbefore, hafter]

end Check

theorem errors_eq_parts (d : Tree) :
    (validate d).errors = missingErrors (Section.all.filter fun s => !d.has s.name)
      ++ Section.all.flatMap (ownErrors d)
      ++ unknownErrors .model d ++ unknownErrors .prompt d := by
  rw [funext (Check.ownErrors_eq d)]
  exact Check.errors_eq_sections d

theorem warnings_eq_parts (d : Tree) :
    (validate d).warnings = Section.all.flatMap (ownWarnings d) := by
  rw [funext (Check.ownWarnings_eq d)]
  exact Check.warnings_eq_sections d

/-- Another value of one section gives its own findings in the place of the former ones, and
leaves those of the other sections where they are. -/
theorem findings_replace {d d' : Tree} {t : Section} (hhas : d'.has t.name = d.has t.name)
    (h : ∀ s : Section, s ≠ t → d'.field? s.name = d.field? s.name) :
    (∃ before after,
      (validate d).errors
        = before ++ ownErrors d t ++ after ++ unknownErrors .model d ++ unknownErrors .prompt d ∧
      (validate d').errors
        = before ++ ownErrors d' t ++ after ++ unknownErrors .model d'
          ++ unknownErrors .prompt d') ∧
    ∃ before after, (validate d).warnings = before ++ ownWarnings d t ++ after ∧
      (validate d').warnings = before ++ ownWarnings d' t ++ after := by
  have hmissing : (Section.all.filter fun s => !d'.has s.name)
      = Section.all.filter fun s => !d.has s.name := by
    refine List.filter_congr fun s _ => ?_
    by_cases hs : s = t
    · rw [hs, hhas]
    · rw [Tree.has, Tree.has, h s hs]
  have herrors : ∀ s, s ≠ t → ownErrors d' s = ownErrors d s := by
    intro s hs
    unfold ownErrors
    rw [h s hs]
  have hwarnings : ∀ s, s ≠ t → ownWarnings d' s = ownWarnings d s := by
    intro s hs
    unfold ownWarnings
    rw [h s hs]
  obtain ⟨before, after, hd, hd'⟩ := Check.flatMap_sections_replace herrors
  refine ⟨⟨missingErrors (Section.all.filter fun s => !d.has s.name) ++ before, after, ?_, ?_⟩, ?_⟩
  · rw [errors_eq_parts, hd]
    simp only [List.append_assoc]
  · rw [errors_eq_parts, hd', hmissing]
    simp only [List.append_assoc]
  · rw [warnings_eq_parts, warnings_eq_parts]
    exact Check.flatMap_sections_replace hwarnings

/-- The findings on every document in terms of those on its parts. The errors are those on the
missing sections, then the own ones of each section, then those on references to models and then
to prompts, which are found just as well with the tasks and the section referred to alone. The
warnings are the own ones of each section. A section alone gives seven errors on missing sections
before its own, and another value of a section gives its own findings in the place of the former
ones. -/
theorem findings_eq_parts (d : Tree) :
    (validate d).errors = missingErrors (Section.all.filter fun s => !d.has s.name)
      ++ Section.all.flatMap (ownErrors d) ++ unknownErrors .model d ++ unknownErrors .prompt d ∧
    unknownErrors .model d = unknownErrors .model (d.only [.models, .tasks]) ∧
    unknownErrors .prompt d = unknownErrors .prompt (d.only [.prompts, .tasks]) ∧
    (validate d).warnings = Section.all.flatMap (ownWarnings d) ∧
    (∀ s v, (validate (s.alone v)).errors.take 7 = missingErrors (Section.all.erase s)) ∧
    ∀ t d', d'.has t.name = d.has t.name →
      (∀ s : Section, s ≠ t → d'.field? s.name = d.field? s.name) →
      (∃ before after,
        (validate d).errors
          = before ++ ownErrors d t ++ after ++ unknownErrors .model d ++ unknownErrors .prompt d ∧
        (validate d').errors
          = before ++ ownErrors d' t ++ after ++ unknownErrors .model d'
            ++ unknownErrors .prompt d') ∧
      ∃ before after, (validate d).warnings = before ++ ownWarnings d t ++ after ∧
        (validate d').warnings = before ++ ownWarnings d' t ++ after := by
  refine ⟨errors_eq_parts d, (Check.unknownErrors_only d .model).symm,
    (Check.unknownErrors_only d .prompt).symm, warnings_eq_parts d, fun s v => ?_,
    fun t d' hhas h => findings_replace hhas h⟩
  rw [Check.errors_alone, List.take_left' (Check.length_missingErrors_erase s)]

end AgentSpec
