import AgentSpec.Proofs.Advice

/-!
# Adding a declaration

A model, a prompt or a constraint that is in order and has an identifier of its own is added at the
end of its section. No error arises from it: at most the one on empty models goes, and those on
references to the new identifier, and all others stay in their order. The warnings stay too, but for
one on the type of a new model. `addition_findings` states both runs in full.
-/

namespace AgentSpec

/-- The entry is in order as it is, and none of the entries has its identifier. -/
structure Collection.Admits (c : Collection) (entries : List Tree) (e : Tree) : Prop where
  isMapping : e.isMapping = true
  required : ∀ name ∈ c.required, e.has name = true
  allowed : c.Allows e
  fresh : ∀ a ∈ entries, DistinctIds a e

/-- The document `d'` is `d` with one more entry at the end of a section. -/
def Tree.Adds (d d' : Tree) (c : Collection) (entries : List Tree) (e : Tree) : Prop :=
  d.Replaces d' c.toSection.name (.sequence entries) (.sequence (entries ++ [e]))

namespace Check

/-! ## The section added to -/

theorem ownErrors_toSection {d t : Tree} {c : Collection}
    (h : d.field? c.toSection.name = some t) :
    ownErrors d c.toSection = (faults (collection c t)).map Fault.message := by
  rw [ownErrors_eq, sectionNotes, h]
  dsimp only
  rw [faults_log, ofSection_toSection]

theorem ownWarnings_toSection {d t : Tree} {c : Collection}
    (h : d.field? c.toSection.name = some t) : ownWarnings d c.toSection = c.warnings t := by
  rw [ownWarnings_eq, sectionNotes, h]
  dsimp only
  rw [advices_log, ofSection_toSection, messages_advices_collection]

/-- An entry that is admitted has no faults, and the section is not empty with it. -/
theorem faults_collection_concat {c : Collection} {items : List Tree} {e : Tree}
    (h : c.Admits items e) :
    faults (collection c (.sequence items)) =
      (if c = .models ∧ items = [] then [.noModels] else [])
        ++ faults (collection c (.sequence (items ++ [e]))) := by
  have hentry : faults (entryNotes c items e) = [] :=
    (faults_entryNotes_eq_nil_iff c items e).mpr ⟨h.isMapping, h.required, h.allowed, h.fresh⟩
  have hadded : faults (collection c (.sequence (items ++ [e]))) = faults (entries c items) := by
    have hne : collection c (.sequence (items ++ [e])) = entries c (items ++ [e]) := by
      simp [collection, Tree.items?]
    rw [hne, faults_entries_concat, hentry, List.append_nil]
  rw [hadded, collection, Tree.items?]
  by_cases hempty : c = .models ∧ items = []
  · obtain ⟨rfl, rfl⟩ := hempty
    rfl
  · have hempty' : ¬ (c = .models ∧ items.isEmpty = true) := fun hc =>
      hempty ⟨hc.1, List.isEmpty_iff.mp hc.2⟩
    simp only [if_neg hempty, if_neg hempty', List.nil_append]

theorem warnings_concat (c : Collection) (items : List Tree) (e : Tree) :
    c.warnings (.sequence (items ++ [e])) = c.warnings (.sequence items)
      ++ if c = .models then Collection.typeWarnings (e.field? "type") else [] := by
  cases c with
  | models => simp only [Collection.warnings, List.flatMap_append, List.flatMap_singleton, if_true]
  | _ => rfl

/-! ## References to it -/

theorem hasId_iff_of_id? {e id : Tree} (h : id? e = some id) (v : Tree) : HasId e v ↔ id ≈ v := by
  constructor
  · rintro ⟨x, hx, hxv⟩
    have hid : x = id := Option.some.inj (hx.symm.trans h)
    exact hid ▸ hxv
  · exact fun hv => ⟨id, h, hv⟩

/-- With one more identifier a step's mention dangles unless it is of this value. -/
theorem unknownIn_concat (r : Reference) (ids : List Tree) (id : Tree) (s : Step) :
    unknownIn r (ids ++ [id]) s = (unknownIn r ids s).filter fun m => ¬ id ≈ m.value := by
  unfold unknownIn
  cases s.value.field? r.key with
  | none => rfl
  | some v =>
    dsimp only
    rw [knows_append_singleton, Tree.same_comm]
    by_cases hk : knows ids v = true
    · simp [hk]
    · by_cases hid : id ≈ v
      · simp [hk, hid, Tree.same_iff.mpr hid, Option.filter_some]
      · simp [hk, hid, Bool.eq_false_of_not_eq_true fun h => hid (Tree.same_iff.mp h),
          Option.filter_some]

theorem mentions_added {d d' e : Tree} {c : Collection} {entries : List Tree} (hc : c ≠ .tasks)
    (h : d.Adds d' c entries e) (hid : e.has "id" = true) (r : Reference) :
    mentions d' r = (mentions d r).filter fun m => ¬ (r.target = c ∧ HasId e m.value) := by
  have htasks : d'.field? Section.tasks.name = d.field? Section.tasks.name :=
    h.rest_section fun ht => hc (Collection.toSection_injective ht.symm)
  by_cases hr : r.target = c
  · subst hr
    obtain ⟨id, hid⟩ : ∃ id, id? e = some id := Tree.has_iff.mp hid
    have hids : declaredIds (.sequence (entries ++ [e])) =
        declaredIds (.sequence entries) ++ [id] := by
      have happend := ids_append_singleton entries e
      rwa [hid] at happend
    unfold mentions
    rw [show d'.field? "tasks" = d.field? "tasks" from htasks, h.before, h.after]
    cases d.field? "tasks" with
    | none => rfl
    | some tasks =>
      dsimp only
      rw [hids, List.filter_filterMap]
      refine List.filterMap_congr fun s _ => ?_
      rw [unknownIn_concat]
      simp only [hasId_iff_of_id? hid, true_and]
  · have hdeclaring : d'.field? r.target.toSection.name = d.field? r.target.toSection.name :=
      h.rest_section fun ht => hr (Collection.toSection_injective ht)
    have hsame : mentions d' r = mentions d r := mentions_congr htasks (by rw [hdeclaring])
    rw [hsame, eq_comm, List.filter_eq_self]
    intro m _
    simp [hr]

/-- Of the section's errors only the one on empty models goes. -/
theorem ownErrors_added {d d' e : Tree} {c : Collection} {entries : List Tree}
    (h : d.Adds d' c entries e) (he : c.Admits entries e) :
    ownErrors d c.toSection =
      (if c = .models ∧ entries = [] then ["At least one model is required"] else [])
        ++ ownErrors d' c.toSection := by
  rw [ownErrors_toSection h.before, ownErrors_toSection h.after, faults_collection_concat he,
    List.map_append]
  congr 1
  split <;> rfl

theorem unknownErrors_added {d d' e : Tree} {c : Collection} {entries : List Tree}
    (hc : c ≠ .tasks) (h : d.Adds d' c entries e) (he : c.Admits entries e) (r : Reference) :
    unknownErrors r d' =
      ((mentions d r).filter fun m => ¬ (r.target = c ∧ HasId e m.value)).map
        (Mention.message r) := by
  have hid : e.has "id" = true := he.required "id" (by cases c <;> decide)
  rw [unknownErrors_eq, mentions_added hc h hid]

theorem unknownErrors_added_sublist {d d' e : Tree} {c : Collection} {entries : List Tree}
    (hc : c ≠ .tasks) (h : d.Adds d' c entries e) (he : c.Admits entries e) (r : Reference) :
    (unknownErrors r d').Sublist (unknownErrors r d) := by
  rw [unknownErrors_added hc h he, unknownErrors_eq]
  exact List.filter_sublist.map _

end Check

/-- An entry in order, with an identifier of its own, is added to the models, the prompts or the
constraints. Of the errors one on empty models goes, and of those on references, told from all
mentions that dangle in the former document, the ones to the identifier of the entry; what is left
is in its order, and nothing is new. After the warnings on the section, which stay as the others do,
there is one on the type of a model added, if it is not known. -/
theorem addition_findings {d d' e : Tree} {c : Collection} {entries : List Tree}
    (hc : c ≠ .tasks) (h : d.Adds d' c entries e) (he : c.Admits entries e) :
    (∃ before after,
      (validate d).errors = before
        ++ (if c = .models ∧ entries = [] then ["At least one model is required"] else []) ++ after
        ++ unknownErrors .model d ++ unknownErrors .prompt d ∧
      (validate d').errors =
        before ++ after ++ unknownErrors .model d' ++ unknownErrors .prompt d') ∧
    (∀ r, ∃ found : List Mention, found.Pairwise Mention.Before ∧
      (∀ m, m ∈ found ↔ m.Dangles d r) ∧ unknownErrors r d = found.map (Mention.message r) ∧
      unknownErrors r d' = (found.filter fun m => ¬ (r.target = c ∧ Check.HasId e m.value)).map
        (Mention.message r)) ∧
    (validate d').errors.Sublist (validate d).errors ∧
    ∃ before after,
      (validate d).warnings = before ++ c.warnings (.sequence entries) ++ after ∧
      (validate d').warnings = before ++ c.warnings (.sequence entries)
        ++ (if c = .models then Collection.typeWarnings (e.field? "type") else []) ++ after := by
  obtain ⟨⟨before, after, hd, hd'⟩, wbefore, wafter, hw, hw'⟩ :=
    findings_replace (h.has c.toSection.name) fun _ hs => h.rest_section hs
  have herrors : (validate d).errors = before
      ++ (if c = .models ∧ entries = [] then ["At least one model is required"] else [])
      ++ (ownErrors d' c.toSection ++ after)
      ++ unknownErrors .model d ++ unknownErrors .prompt d := by
    rw [hd, Check.ownErrors_added h he]
    simp only [List.append_assoc]
  have herrors' : (validate d').errors = before ++ (ownErrors d' c.toSection ++ after)
      ++ unknownErrors .model d' ++ unknownErrors .prompt d' := by
    rw [hd']
    simp only [List.append_assoc]
  refine ⟨⟨before, _, herrors, herrors'⟩, fun r => ?_, ?_, wbefore, wafter, ?_, ?_⟩
  · exact ⟨Check.mentions d r, Check.mentions_ordered d r, fun m => Check.mem_mentions_iff,
      Check.unknownErrors_eq r d, Check.unknownErrors_added hc h he r⟩
  · rw [herrors, herrors']
    have hsub := Check.unknownErrors_added_sublist hc h he
    refine ((List.Sublist.append_right ?_ _).append (hsub .model)).append (hsub .prompt)
    exact List.sublist_append_left _ _
  · rw [hw, Check.ownWarnings_toSection h.before]
  · rw [hw', Check.ownWarnings_toSection h.after, Check.warnings_concat, ← List.append_assoc]

/-- A model of an unknown type, with the text of a number as its identifier, is added after two
models that are not in order: the reference to the text is settled, the one to a third value is
not. -/
theorem addition_findings_text_of_number :
    let document (entries : List Tree) : Tree := .mapping [
      ("models", .sequence entries),
      ("tasks", .sequence [.null, .mapping [("steps", .sequence [.mapping [("model", .text "1")],
        .mapping [("model", .number (.integer 1))], .mapping [("model", .text "2")]])]])]
    let entries : List Tree := [.null, .mapping [("id", .number (.integer 1))]]
    let e : Tree := .mapping [("id", .text "1"), ("name", .null), ("provider", .null),
      ("purpose", .null), ("type", .text "Robotics")]
    let d := document entries
    let d' := document (entries ++ [e])
    Collection.models ≠ .tasks ∧ d.Adds d' .models entries e ∧ Collection.models.Admits entries e ∧
      unknownErrors .model d =
        ["Task references unknown model: 1", "Task references unknown model: 2"] ∧
      unknownErrors .model d' = ["Task references unknown model: 2"] ∧
      (validate d').errors.Sublist (validate d).errors ∧
      (validate d').warnings = ["Unknown model type: Robotics"] := by
  intro document entries e d d'
  have hadds : d.Adds d' .models entries e := by
    refine ⟨rfl, rfl, rfl, rfl, fun name hn => ?_⟩
    have hn' : name ≠ "models" := hn
    simp [d, d', document, Tree.field?, List.lookup_cons, beq_false_of_ne hn']
  have hadmits : Collection.models.Admits entries e := by
    refine ⟨rfl, by decide +kernel, trivial, ?_⟩
    intro a ha x y hx hy hxy
    have hy' : Tree.text "1" = y := Option.some.inj hy
    rcases List.mem_cons.mp ha with rfl | ha
    · cases hx
    · rw [List.mem_singleton.mp ha] at hx
      have hx' : Tree.number (.integer 1) = x := Option.some.inj hx
      rw [← hx', ← hy'] at hxy
      cases hxy
  have h := addition_findings (by decide) hadds hadmits
  have hfound : unknownErrors .model d =
      ["Task references unknown model: 1", "Task references unknown model: 2"] := by
    rw [Check.unknownErrors_eq]
    decide +kernel
  have hleft : unknownErrors .model d' = ["Task references unknown model: 2"] := by
    rw [Check.unknownErrors_eq]
    decide +kernel
  exact ⟨by decide, hadds, hadmits, hfound, hleft, h.2.2.1, by decide +kernel⟩

end AgentSpec
