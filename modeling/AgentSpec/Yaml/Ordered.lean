import AgentSpec.Tree.Ordered
import AgentSpec.Yaml.Reader

/-!
# YAML trees are in order

Mappings of nodes are the only mappings that the reader builds, and it puts their fields in order,
also where an alias is read once more. So what is read from a text is in order: `ordered_of_read`.
-/

namespace AgentSpec.Yaml

/-! ## Scalars -/

namespace Scalar

variable {text : String} {t : Tree}

theorem ordered_of_integer {cs : List Char} (h : integer? cs = some (.ok t)) : t.Ordered := by
  unfold integer? at h
  dsimp only at h
  -- The range of either sign is told apart.
  repeat' split at h
  all_goals cases h
  · exact .number _
  · exact .number _

theorem ordered_of_float (h : float? text = some t) : t.Ordered := by
  unfold float? at h
  dsimp only at h
  repeat' split at h
  all_goals cases h
  · exact .null
  · exact .number _

theorem ordered_of_plainValue (h : plainValue text = .ok t) : t.Ordered := by
  unfold plainValue at h
  dsimp only at h
  split at h
  · cases h
    exact .null
  · split at h
    · cases h
      exact .boolean _
    · split at h
      · rename_i hx
        exact ordered_of_integer (h ▸ hx)
      · split at h
        · cases h
          exact .text _
        · cases h
          cases hf : float? text with
          | none => exact .text _
          | some u => exact ordered_of_float hf

theorem ordered_of_taggedValue {tag : Bytes} {plain : Bool}
    (h : taggedValue tag text plain = .ok t) : t.Ordered := by
  unfold taggedValue at h
  split at h
  · split at h
    · cases h
      exact .boolean _
    · cases h
  · split at h
    · cases hi : integer? text.toList with
      | none =>
        rw [hi] at h
        cases h
      | some x =>
        rw [hi] at h
        exact ordered_of_integer (hi.trans (congrArg some h))
    · split at h
      · split at h
        · rename_i hf
          cases h
          exact ordered_of_float hf
        · cases h
      · split at h
        · split at h
          · cases h
            exact .null
          · cases h
        · split at h
          · exact ordered_of_plainValue h
          · cases h
            exact .text _

theorem ordered_of_value {tag? : Option Bytes} {plain : Bool} (h : value tag? text plain = .ok t) :
    t.Ordered := by
  unfold value at h
  split at h
  · exact ordered_of_taggedValue h
  · split at h
    · exact ordered_of_plainValue h
    · cases h
      exact .text _

end Scalar

/-! ## Nodes -/

namespace Source

mutual

theorem ordered_value (src : Source) (path : NodePath) (depth : Nat) (s : Stand) {t : Tree}
    {r : s.Next} (h : src.value path depth s = .ok (t, r)) : t.Ordered := by
  rw [value] at h
  split at h
  · cases h
  · rename_i n rest hs
    dsimp only at h
    split at h
    · rename_i slot _
      split at h
      · cases h
      · rename_i j ha
        have hb : Stand.Beyond ⟨src.bound.target slot, j⟩ s :=
          Stand.beyond_of_alias ha (Nat.le_refl j) _
        split at h
        · cases h
        · rename_i hv
          cases h
          exact ordered_value src path depth ⟨src.bound.target slot, j⟩ hv
    · split at h
      · cases h
      · split at h
        · cases h
        · rename_i hv
          cases h
          exact Scalar.ordered_of_value hv
    · split at h
      · cases h
      · split at h
        · cases h
        · have hb := Stand.beyond_of_cons hs
          split at h
          · cases h
          · rename_i hi
            cases h
            exact .sequence (ordered_items src path (depth - 1) 0 ⟨rest, s.aliases⟩ hi)
    · split at h
      · cases h
      · split at h
        · cases h
        · have hb := Stand.beyond_of_cons hs
          split at h
          · cases h
          · rename_i hf
            cases h
            exact Tree.ordered_ofFields
              (ordered_fields src path (depth - 1) true ⟨rest, s.aliases⟩ hf)
    · cases h
    · cases h
termination_by s.left 0
decreasing_by
  · exact Stand.left_lt hb 0 0
  · exact Stand.left_lt hb 1 0
  · exact Stand.left_lt hb 1 0

theorem ordered_items (src : Source) (path : NodePath) (depth index : Nat) (s : Stand)
    {ts : List Tree} {r : s.Next} (h : src.items path depth index s = .ok (ts, r)) :
    ∀ t ∈ ts, t.Ordered := by
  rw [items] at h
  split at h
  · cases h
  · split at h
    · cases h
      exact List.forall_mem_nil _
    · split at h
      · cases h
      · rename_i t r hv
        have hb := r.property
        split at h
        · cases h
        · rename_i hi
          cases h
          exact List.forall_mem_cons.mpr ⟨ordered_value src (.item path index) depth s hv,
            ordered_items src path depth (index + 1) r.val hi⟩
termination_by s.left 1
decreasing_by
  · exact s.left_lt_self
  · exact Stand.left_lt hb 1 1

theorem ordered_fields (src : Source) (path : NodePath) (depth : Nat) (first : Bool) (s : Stand)
    {fs : List (String × Tree)} {r : s.Next} (h : src.fields path depth first s = .ok (fs, r)) :
    ∀ f ∈ fs, f.2.Ordered := by
  rw [fields] at h
  split at h
  · cases h
  · split at h
    · cases h
      exact List.forall_mem_nil _
    · split at h
      · cases h
      · rename_i name valuePath r hk
        have hb := r.property
        split at h
        · cases h
        · rename_i t u hv
          have hbu := u.property.trans r.property
          split at h
          · cases h
          · rename_i hf
            cases h
            exact List.forall_mem_cons.mpr ⟨ordered_value src valuePath depth r.val hv,
              ordered_fields src path depth false u.val hf⟩
termination_by s.left 1
decreasing_by
  · exact Stand.left_lt hb 0 1
  · exact Stand.left_lt hbu 1 1

end

end Source

/-! ## Texts -/

theorem ordered_of_treeOfEvents {s : EventStream} {t : Tree} (h : treeOfEvents s = .ok t) :
    t.Ordered := by
  unfold treeOfEvents at h
  split at h
  · cases h
    exact .null
  · dsimp only at h
    split at h
    · cases h
    · rename_i hv
      split at h
      · cases h
      · cases h
        exact Source.ordered_value _ _ _ _ hv

theorem ordered_of_read {text : String} {t : Tree} (h : read text = .ok t) : t.Ordered := by
  unfold read at h
  split at h
  · cases h
    exact .null
  · split at h
    · cases h
    · exact ordered_of_treeOfEvents h

end AgentSpec.Yaml
