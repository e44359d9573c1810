import AgentSpec.Tree

/-!
# Trees in order

A tree is in order when each of its mappings holds its names in ascending order, each name once.
`ofFields` builds only such mappings (`ordered_ofFields`), and what is read is a tree together with
the fact that it is in order.
-/

namespace AgentSpec

namespace Tree

/-- Each name once, in ascending order. -/
def Ascending (fields : List (String × Tree)) : Prop := (fields.map Prod.fst).Pairwise (· < ·)

/-- Every mapping in the tree is in order. -/
inductive Ordered : Tree → Prop where
  | null : Ordered .null
  | boolean (b : Bool) : Ordered (.boolean b)
  | number (n : Number) : Ordered (.number n)
  | text (s : String) : Ordered (.text s)
  | sequence {items : List Tree} (h : ∀ t ∈ items, Ordered t) : Ordered (.sequence items)
  | mapping {fields : List (String × Tree)} (hn : Ascending fields)
      (h : ∀ f ∈ fields, Ordered f.2) : Ordered (.mapping fields)

variable {name : String} {value : Tree} {fields : List (String × Tree)}

/-! ## Insertion -/

theorem ascending_cons {f : String × Tree} :
    Ascending (f :: fields) ↔ (∀ g ∈ fields, f.1 < g.1) ∧ Ascending fields := by
  rw [Ascending, List.map_cons, List.pairwise_cons, List.forall_mem_map]
  rfl

/-- What is inserted is the new field and otherwise fields that were there. -/
theorem mem_insertField {f : String × Tree} (h : f ∈ insertField name value fields) :
    f = (name, value) ∨ f ∈ fields := by
  induction fields with
  | nil => exact Or.inl (List.mem_singleton.mp h)
  | cons g fields ih =>
    rw [insertField] at h
    split at h
    · rcases List.mem_cons.mp h with h | h
      · exact Or.inl h
      · exact Or.inr (List.mem_cons_of_mem _ h)
    · split at h
      · exact List.mem_cons.mp h
      · rcases List.mem_cons.mp h with rfl | h
        · exact Or.inr List.mem_cons_self
        · exact (ih h).imp_right (List.mem_cons_of_mem _)

theorem ascending_insertField (h : Ascending fields) :
    Ascending (insertField name value fields) := by
  induction fields with
  | nil => exact List.pairwise_singleton _ _
  | cons g fields ih =>
    obtain ⟨hg, hfields⟩ := ascending_cons.mp h
    rw [insertField]
    split
    · rename_i hname
      exact ascending_cons.mpr ⟨hname ▸ hg, hfields⟩
    · rename_i hname
      split
      · rename_i hlt
        refine ascending_cons.mpr ⟨fun f hf => ?_, h⟩
        rcases List.mem_cons.mp hf with rfl | hf
        · exact hlt
        · exact String.lt_trans hlt (hg f hf)
      · rename_i hlt
        have hgt : g.1 < name := Std.lt_of_le_of_ne (String.not_lt.mp hlt) (Ne.symm hname)
        refine ascending_cons.mpr ⟨fun f hf => ?_, ih hfields⟩
        rcases mem_insertField hf with rfl | hf
        · exact hgt
        · exact hg f hf

/-- The fields are put in order. -/
theorem ordered_ofFields (h : ∀ f ∈ fields, f.2.Ordered) : (ofFields fields).Ordered := by
  have hfold : ∀ acc : List (String × Tree), Ascending acc → (∀ f ∈ acc, f.2.Ordered) →
      Ordered (.mapping (fields.foldl (fun acc f => insertField f.1 f.2 acc) acc)) := by
    induction fields with
    | nil => exact fun acc hacc hvalues => .mapping hacc hvalues
    | cons f fields ih =>
      obtain ⟨hf, hfields⟩ := List.forall_mem_cons.mp h
      intro acc hacc hvalues
      refine ih hfields _ (ascending_insertField hacc) fun g hg => ?_
      rcases mem_insertField hg with rfl | hg
      · exact hf
      · exact hvalues g hg
  exact hfold [] List.Pairwise.nil (List.forall_mem_nil _)

end Tree

/-- A tree that is in order, as it is read. -/
abbrev OrderedTree := { t : Tree // t.Ordered }

namespace OrderedTree

variable {ε : Type}

/-- What a reading gives, together with the fact that it is in order. -/
def ofRead (x : Except ε Tree) (h : ∀ t, x = .ok t → t.Ordered) : Except ε OrderedTree :=
  match x, h with
  | .ok t, h => .ok ⟨t, h t rfl⟩
  | .error e, _ => .error e

variable {x : Except ε Tree} {h : ∀ t, x = .ok t → t.Ordered}

theorem ofRead_eq_ok_iff {t : OrderedTree} : ofRead x h = .ok t ↔ x = .ok t.val := by
  cases x with
  | ok u =>
    constructor
    · intro hx
      cases hx
      rfl
    · intro hx
      cases hx
      rfl
  | error e => exact ⟨nofun, nofun⟩

theorem ofRead_eq_error_iff {e : ε} : ofRead x h = .error e ↔ x = .error e := by
  cases x with
  | ok u => exact ⟨nofun, nofun⟩
  | error f =>
    constructor
    · intro hx
      cases hx
      rfl
    · intro hx
      cases hx
      rfl

end OrderedTree
end AgentSpec
