import AgentSpec.Proofs.Yaml.Derivation
import AgentSpec.Yaml.Reader

/-!
# Places of errors

The nodes of a text and what aliases stand for have the places of its events (`Bound.Proper`), and
a reading hands them on to its errors (`Source.returns_value`). So every place that an error of the
reader names is proper: `proper_of_read`.
-/

namespace AgentSpec.Yaml

variable {source : String}

def ProperNodes (source : String) (ns : List Node) : Prop := ∀ n ∈ ns, n.place.Proper source

theorem properNodes_nil : ProperNodes source [] := List.forall_mem_nil _

theorem properNodes_cons {n : Node} {ns : List Node} :
    ProperNodes source (n :: ns) ↔ n.place.Proper source ∧ ProperNodes source ns :=
  List.forall_mem_cons

def Error.Proper (source : String) (e : Error) : Prop := ∀ p, e.place? = some p → p.Proper source

theorem Error.proper_of_place? {e : Error} {p : Place} (he : e.place? = some p)
    (h : p.Proper source) : e.Proper source := by
  intro q hq
  cases he.symm.trans hq
  exact h

theorem Error.proper_of_none {e : Error} (he : e.place? = none) : e.Proper source := by
  intro q hq
  cases he.symm.trans hq

/-! ## Anchors -/

namespace Bound

structure Proper (source : String) (b : Bound) : Prop where
  nodes : ProperNodes source b.nodes
  targets : ∀ slot ns, (slot, ns) ∈ b.targets → ProperNodes source ns
  unknown : ∀ p, b.unknown? = some p → p.Proper source

variable {b : Bound}

theorem proper_nil : Proper source ⟨[], [], none⟩ := by
  refine ⟨properNodes_nil, fun slot ns h => ?_, fun p h => ?_⟩
  · cases h
  · cases h

theorem proper_unknown {p : Place} (h : p.Proper source) : Proper source ⟨[], [], some p⟩ := by
  refine ⟨properNodes_nil, fun slot ns hn => ?_, fun q hq => ?_⟩
  · cases hn
  · cases hq
    exact h

theorem Proper.cons (h : b.Proper source) {n : Node} (hn : n.place.Proper source) :
    (b.cons n).Proper source :=
  ⟨properNodes_cons.mpr ⟨hn, h.nodes⟩, h.targets, h.unknown⟩

theorem Proper.fill (h : b.Proper source) (slot : Nat) : (b.fill slot).Proper source := by
  unfold Bound.fill
  split
  · exact h
  · refine ⟨h.nodes, fun slot' ns hn => ?_, h.unknown⟩
    rcases List.mem_cons.mp hn with hn | hn
    · cases hn
      exact h.nodes
    · exact h.targets slot' ns hn

theorem proper_ofEvents (names : Names) {es : List Event} (h : ProperEvents source es) :
    (ofEvents names es).Proper source := by
  fun_induction ofEvents names es with
  | case1 => exact proper_nil
  | case2 names name place es _ => exact proper_unknown (properEvents_cons.mp h).1
  | case3 names name place es slot _ ih =>
    obtain ⟨hp, hes⟩ := properEvents_cons.mp h
    exact (ih hes).cons hp
  | case4 names kind place es _ name node _ ih =>
    obtain ⟨hp, hes⟩ := properEvents_cons.mp h
    exact ((ih hes).cons hp).fill _
  | case5 names kind place es _ node _ ih =>
    obtain ⟨hp, hes⟩ := properEvents_cons.mp h
    exact (ih hes).cons hp
  | case6 names kind place es _ _ => exact proper_unknown (properEvents_cons.mp h).1

theorem Proper.target (h : b.Proper source) (slot : Nat) : ProperNodes source (b.target slot) := by
  unfold Bound.target
  cases hl : b.targets.lookup slot with
  | none => exact properNodes_nil
  | some ns =>
    obtain ⟨before, after, hsplit, -⟩ := List.lookup_eq_some_iff.mp hl
    exact h.targets slot ns (hsplit ▸ List.mem_append_right _ List.mem_cons_self)

end Bound

/-! ## Readings -/

namespace Source

structure Proper (source : String) (src : Source) : Prop where
  bound : src.bound.Proper source
  ending : src.ending.Proper source

/-- A reading is refused with a proper place and leaves proper nodes. -/
abbrev Returns (source : String) {α : Type} {s : Stand} (x : Step α s) : Prop :=
  Meets (Error.Proper source) (fun r => ProperNodes source r.2.val.ahead) x

variable {src : Source}

theorem returns_key (hsrc : src.Proper source) (path : NodePath) (first : Bool) (s : Stand)
    (hs : ProperNodes source s.ahead) : Returns source (src.key path first s) := by
  unfold key
  split
  · exact .error hsrc.ending
  · rename_i n rest h
    obtain ⟨hn, hrest⟩ := properNodes_cons.mp (h ▸ hs)
    dsimp only
    split
    · exact .ok hrest
    · exact .error (Error.proper_of_place? rfl hn)
    · exact .error (Error.proper_of_place? rfl hn)
    · rename_i slot _
      have ht := hsrc.bound.target slot
      split
      · exact .error (Error.proper_of_none rfl)
      · exact .ok hrest
      · rename_i htarget
        exact .error (Error.proper_of_place? rfl (properNodes_cons.mp (htarget ▸ ht)).1)
      · rename_i htarget
        exact .error (Error.proper_of_place? rfl (properNodes_cons.mp (htarget ▸ ht)).1)
      · exact .error hsrc.ending
    · exact .error hsrc.ending

mutual

theorem returns_value (hsrc : src.Proper source) (path : NodePath) (depth : Nat) (s : Stand)
    (hs : ProperNodes source s.ahead) : Returns source (src.value path depth s) := by
  rw [value]
  split
  · exact .error hsrc.ending
  · rename_i n rest h
    obtain ⟨hn, hrest⟩ := properNodes_cons.mp (h ▸ hs)
    dsimp only
    split
    · rename_i slot _
      split
      · exact .error (Error.proper_of_none rfl)
      · rename_i j ha
        have hb : Stand.Beyond ⟨src.bound.target slot, j⟩ s :=
          Stand.beyond_of_alias ha (Nat.le_refl j) _
        have ht := returns_value hsrc path depth ⟨src.bound.target slot, j⟩
          (hsrc.bound.target slot)
        split
        · rename_i he
          exact .error (ht.refused he)
        · exact .ok hrest
    · split
      · exact .error (Error.proper_of_place? rfl hn)
      · split
        · exact .error (Error.proper_of_place? rfl hn)
        · exact .ok hrest
    · split
      · exact .error (Error.proper_of_place? rfl hn)
      · split
        · exact .error (Error.proper_of_place? rfl hn)
        · have hb := Stand.beyond_of_cons h
          have hi := returns_items hsrc path (depth - 1) 0 ⟨rest, s.aliases⟩ hrest
          split
          · rename_i he
            exact .error (hi.refused he)
          · rename_i hr
            exact .ok (hi.value hr)
    · split
      · exact .error (Error.proper_of_place? rfl hn)
      · split
        · exact .error (Error.proper_of_place? rfl hn)
        · have hb := Stand.beyond_of_cons h
          have hf := returns_fields hsrc path (depth - 1) true ⟨rest, s.aliases⟩ hrest
          split
          · rename_i he
            exact .error (hf.refused he)
          · rename_i hr
            exact .ok (hf.value hr)
    · exact .error hsrc.ending
    · exact .error hsrc.ending
termination_by s.left 0
decreasing_by
  · exact Stand.left_lt hb 0 0
  · exact Stand.left_lt hb 1 0
  · exact Stand.left_lt hb 1 0

theorem returns_items (hsrc : src.Proper source) (path : NodePath) (depth index : Nat) (s : Stand)
    (hs : ProperNodes source s.ahead) : Returns source (src.items path depth index s) := by
  rw [items]
  split
  · exact .error hsrc.ending
  · rename_i n rest h
    split
    · exact .ok (properNodes_cons.mp (h ▸ hs)).2
    · have hv := returns_value hsrc (.item path index) depth s hs
      split
      · rename_i he
        exact .error (hv.refused he)
      · rename_i t r hr
        have hb := r.property
        have hi := returns_items hsrc path depth (index + 1) r.val (hv.value hr)
        split
        · rename_i he
          exact .error (hi.refused he)
        · rename_i hu
          exact .ok (hi.value hu)
termination_by s.left 1
decreasing_by
  · exact s.left_lt_self
  · exact Stand.left_lt hb 1 1

theorem returns_fields (hsrc : src.Proper source) (path : NodePath) (depth : Nat) (first : Bool)
    (s : Stand) (hs : ProperNodes source s.ahead) :
    Returns source (src.fields path depth first s) := by
  rw [fields]
  split
  · exact .error hsrc.ending
  · rename_i n rest h
    split
    · exact .ok (properNodes_cons.mp (h ▸ hs)).2
    · have hk := returns_key hsrc path first s hs
      split
      · rename_i he
        exact .error (hk.refused he)
      · rename_i name valuePath r hr
        have hb := r.property
        have hv := returns_value hsrc valuePath depth r.val (hk.value hr)
        split
        · rename_i he
          exact .error (hv.refused he)
        · rename_i t u hu
          have hbu := u.property.trans r.property
          have hf := returns_fields hsrc path depth false u.val (hv.value hu)
          split
          · rename_i he
            exact .error (hf.refused he)
          · rename_i hv
            exact .ok (hf.value hv)
termination_by s.left 1
decreasing_by
  · exact Stand.left_lt hb 0 1
  · exact Stand.left_lt hbu 1 1

end

end Source

/-! ## Texts -/

theorem endingError_proper {unknown? : Option Place} {ending : Ending}
    (hu : ∀ p, unknown? = some p → p.Proper source)
    (hf : ∀ f, ending = .flaw f → f.place.Proper source) {e : Error}
    (he : endingError unknown? ending = some e) : e.Proper source := by
  unfold endingError at he
  split at he
  · cases he
    exact Error.proper_of_place? rfl (hu _ rfl)
  · cases he
    exact Error.proper_of_place? rfl (hf _ rfl)
  · cases he
    exact Error.proper_of_none rfl
  · cases he

theorem proper_of_treeOfEvents {s : EventStream} (hs : s.Proper source) {e : Error}
    (h : treeOfEvents s = .error e) : e.Proper source := by
  have hbound := Bound.proper_ofEvents [] hs.events
  have hlast := fun e => endingError_proper (e := e) hbound.unknown hs.ending
  unfold treeOfEvents at h
  split at h
  · cases h
  · dsimp only at h
    have hsrc : Source.Proper source ⟨Bound.ofEvents [] s.events,
        (endingError (Bound.ofEvents [] s.events).unknown? s.ending).getD .furtherDocument⟩ := by
      refine ⟨hbound, ?_⟩
      cases hl : endingError (Bound.ofEvents [] s.events).unknown? s.ending with
      | none => exact Error.proper_of_none rfl
      | some f => exact hlast f hl
    split at h
    · rename_i f hf
      cases h
      exact (Source.returns_value hsrc _ _ _ hbound.nodes).refused hf
    · split at h
      · rename_i hf
        cases h
        exact hlast _ hf
      · cases h

/-- A place at the end of the stream that an error names is the end of the text. -/
theorem proper_of_read {text : String} {e : Error} (h : read text = .error e) :
    e.Proper text := by
  unfold read at h
  split at h
  · cases h
  · split at h
    · cases h
      exact Error.proper_of_place? rfl (Place.proper_of_inside rfl)
    · exact proper_of_treeOfEvents (EventStream.proper_ofText text) h

end AgentSpec.Yaml
