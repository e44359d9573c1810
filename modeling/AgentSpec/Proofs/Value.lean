import AgentSpec.Tree.Ordered
import Mathlib.Data.String.Basic

/-!
# Equality by value

`Tree.same` is an equivalence, written `≈`. On mappings whose names ascend, as every reader builds
them, it compares two mappings as sets of names with values: `same_mapping_iff`.
-/

namespace AgentSpec

/-! ## Numbers -/

theorem Binary64.same_refl (x : Binary64) : x.same x = true := by simp [Binary64.same]

theorem Binary64.same_comm (x y : Binary64) : x.same y = y.same x := by
  have hn : (x.negative == y.negative) = (y.negative == x.negative) := BEq.comm
  have hb : (x.bits == y.bits) = (y.bits == x.bits) := BEq.comm
  by_cases h : y.bits = x.bits
  · simp only [Binary64.same, h, hn]
  · simp only [Binary64.same, hb, beq_eq_false_iff_ne.mpr h, Bool.false_and]

theorem Binary64.same_trans {x y z : Binary64} (h₁ : x.same y = true) (h₂ : y.same z = true) :
    x.same z = true := by
  simp only [Binary64.same, Bool.and_eq_true, Bool.or_eq_true, beq_iff_eq] at h₁ h₂ ⊢
  obtain ⟨b₁, s₁⟩ := h₁
  obtain ⟨b₂, s₂⟩ := h₂
  refine ⟨b₁.trans b₂, ?_⟩
  rcases s₁ with s₁ | zero
  · rcases s₂ with s₂ | zero
    · exact Or.inl (s₁.trans s₂)
    · exact Or.inr (b₁.trans zero)
  · exact Or.inr zero

theorem Number.same_refl (n : Number) : n.same n = true := by
  cases n with
  | integer a => simp [Number.same]
  | float x => exact x.same_refl

theorem Number.same_comm (m n : Number) : m.same n = n.same m := by
  cases m <;> cases n <;> simp only [Number.same]
  · exact BEq.comm
  · exact Binary64.same_comm _ _

theorem Number.same_trans {l m n : Number} (h₁ : l.same m = true) (h₂ : m.same n = true) :
    l.same n = true := by
  cases l <;> cases m <;> cases n <;> simp only [Number.same, Bool.false_eq_true] at h₁ h₂ ⊢
  · exact BEq.trans h₁ h₂
  · exact Binary64.same_trans h₁ h₂

/-! ## Trees -/

namespace Tree

mutual

theorem same_refl : ∀ t : Tree, t.same t = true
  | .null => rfl
  | .boolean _ => by simp [same]
  | .number n => n.same_refl
  | .text _ => by simp [same]
  | .sequence items => sameItems_refl items
  | .mapping fields => sameFields_refl fields

theorem sameItems_refl : ∀ ts : List Tree, sameItems ts ts = true
  | [] => rfl
  | t :: ts => by simp [sameItems, same_refl t, sameItems_refl ts]

theorem sameFields_refl : ∀ fs : List (String × Tree), sameFields fs fs = true
  | [] => rfl
  | (_, t) :: fs => by simp [sameFields, same_refl t, sameFields_refl fs]

end

mutual

theorem same_comm : ∀ a b : Tree, a.same b = b.same a
  | .null, b => by cases b <;> rfl
  | .boolean x, b => by cases b <;> simp only [same]; exact BEq.comm
  | .number m, b => by cases b <;> simp only [same]; exact Number.same_comm _ _
  | .text s, b => by cases b <;> simp only [same]; exact BEq.comm
  | .sequence xs, b => by cases b <;> simp only [same]; exact sameItems_comm xs _
  | .mapping xs, b => by cases b <;> simp only [same]; exact sameFields_comm xs _

theorem sameItems_comm : ∀ xs ys : List Tree, sameItems xs ys = sameItems ys xs
  | [], ys => by cases ys <;> rfl
  | x :: xs, [] => rfl
  | x :: xs, y :: ys => by simp only [sameItems, same_comm x y, sameItems_comm xs ys]

theorem sameFields_comm : ∀ xs ys : List (String × Tree), sameFields xs ys = sameFields ys xs
  | [], ys => by cases ys <;> rfl
  | x :: xs, [] => rfl
  | (k, x) :: xs, (l, y) :: ys => by
    have hk : (k == l) = (l == k) := BEq.comm
    simp only [sameFields, hk, same_comm x y, sameFields_comm xs ys]

end

mutual

theorem same_trans : ∀ a b c : Tree, a.same b = true → b.same c = true → a.same c = true
  | .null, b, c => by cases b <;> cases c <;> simp [same]
  | .boolean _, b, c => by cases b <;> cases c <;> simp [same]; exact Eq.trans
  | .number _, b, c => by cases b <;> cases c <;> simp [same]; exact Number.same_trans
  | .text _, b, c => by cases b <;> cases c <;> simp [same]; exact Eq.trans
  | .sequence xs, b, c => by cases b <;> cases c <;> simp [same]; exact sameItems_trans xs _ _
  | .mapping xs, b, c => by cases b <;> cases c <;> simp [same]; exact sameFields_trans xs _ _
termination_by structural a => a

theorem sameItems_trans : ∀ xs ys zs : List Tree,
    sameItems xs ys = true → sameItems ys zs = true → sameItems xs zs = true
  | [], ys, zs => by cases ys <;> cases zs <;> simp [sameItems]
  | x :: xs, [], zs => by simp [sameItems]
  | x :: xs, y :: ys, [] => by simp [sameItems]
  | x :: xs, y :: ys, z :: zs => by
    simp only [sameItems, Bool.and_eq_true]
    rintro ⟨h, hs⟩ ⟨h', hs'⟩
    exact ⟨same_trans x y z h h', sameItems_trans xs ys zs hs hs'⟩
termination_by structural xs => xs

theorem sameFields_trans : ∀ xs ys zs : List (String × Tree),
    sameFields xs ys = true → sameFields ys zs = true → sameFields xs zs = true
  | [], ys, zs => by cases ys <;> cases zs <;> simp [sameFields]
  | x :: xs, [], zs => by simp [sameFields]
  | x :: xs, y :: ys, [] => by simp [sameFields]
  | (_, x) :: xs, (_, y) :: ys, (_, z) :: zs => by
    simp only [sameFields, Bool.and_eq_true, beq_iff_eq]
    rintro ⟨⟨hk, h⟩, hs⟩ ⟨⟨hk', h'⟩, hs'⟩
    exact ⟨⟨hk.trans hk', same_trans x y z h h'⟩, sameFields_trans xs ys zs hs hs'⟩
termination_by structural xs => xs

end

/-- Trees that are equal by value. -/
instance byValue : Setoid Tree where
  r a b := a.same b = true
  iseqv := {
    refl := same_refl
    symm := fun h => (same_comm _ _).symm.trans h
    trans := same_trans _ _ _ }

instance (a b : Tree) : Decidable (a ≈ b) := inferInstanceAs (Decidable (a.same b = true))

theorem same_iff {a b : Tree} : a.same b = true ↔ a ≈ b := Iff.rfl

/-! ## Mappings -/

theorem lookup_cons_of_ne {name k : String} (h : name ≠ k) (t : Tree)
    (fs : List (String × Tree)) : ((k, t) :: fs).lookup name = fs.lookup name := by
  simp [List.lookup_cons, beq_false_of_ne h]

/-- A name below the first one is not among ascending names. -/
theorem Ascending.lookup_of_lt {k l : String} {t : Tree} {fs : List (String × Tree)}
    (h : Ascending ((l, t) :: fs)) (hk : k < l) : ((l, t) :: fs).lookup k = none := by
  refine List.lookup_eq_none_iff.mpr fun p hp => ?_
  have hle : k < p.1 := by
    rcases List.mem_cons.mp hp with rfl | hp
    · exact hk
    · exact hk.trans ((ascending_cons.mp h).1 p hp)
  simpa using hle.ne

theorem Ascending.lookup_tail {k : String} {t : Tree} {fs : List (String × Tree)}
    (h : Ascending ((k, t) :: fs)) : fs.lookup k = none := by
  refine List.lookup_eq_none_iff.mpr fun p hp => ?_
  have hlt : k < p.1 := (ascending_cons.mp h).1 p hp
  simpa using hlt.ne

/-- A name above all others goes last. -/
theorem insertField_of_lt {name : String} {fs : List (String × Tree)} (h : ∀ f ∈ fs, f.1 < name)
    (value : Tree) : insertField name value fs = fs ++ [(name, value)] := by
  induction fs with
  | nil => rfl
  | cons f fs ih =>
    obtain ⟨hlt, hrest⟩ := List.forall_mem_cons.mp h
    rw [insertField, if_neg hlt.ne', if_neg hlt.not_gt, ih hrest, List.cons_append]

/-- Fields in order stay as they are. -/
theorem ofFields_of_ascending {fs : List (String × Tree)} (h : Ascending fs) :
    ofFields fs = .mapping fs := by
  have hfold : ∀ before after, Ascending (before ++ after) →
      after.foldl (fun acc f => insertField f.1 f.2 acc) before = before ++ after := by
    intro before after
    induction after generalizing before with
    | nil => intro _; rw [List.foldl_nil, List.append_nil]
    | cons f after ih =>
      intro hb
      have hlt : ∀ g ∈ before, g.1 < f.1 := by
        intro g hg
        rw [Ascending, List.map_append, List.pairwise_append] at hb
        exact hb.2.2 g.1 (List.mem_map_of_mem hg) f.1 List.mem_cons_self
      rw [List.foldl_cons, insertField_of_lt hlt, ih, List.append_assoc, List.singleton_append]
      rwa [List.append_assoc, List.singleton_append]
  rw [ofFields, hfold [] fs h, List.nil_append]

private theorem lookup_of_sameFields {xs ys : List (String × Tree)}
    (h : sameFields xs ys = true) (name : String) :
    Option.Rel (· ≈ ·) (xs.lookup name) (ys.lookup name) := by
  induction xs generalizing ys with
  | nil =>
    cases ys with
    | nil => exact .none
    | cons y ys => simp [sameFields] at h
  | cons x xs ih =>
    cases ys with
    | nil => simp [sameFields] at h
    | cons y ys =>
      obtain ⟨k, x⟩ := x
      obtain ⟨l, y⟩ := y
      simp only [sameFields, Bool.and_eq_true, beq_iff_eq] at h
      obtain ⟨⟨rfl, hxy⟩, hs⟩ := h
      by_cases hn : name = k
      · subst hn
        rw [List.lookup_cons_self, List.lookup_cons_self]
        exact .some hxy
      · rw [lookup_cons_of_ne hn, lookup_cons_of_ne hn]
        exact ih hs

private theorem sameFields_of_lookup {xs ys : List (String × Tree)}
    (hx : Ascending xs) (hy : Ascending ys)
    (h : ∀ name, Option.Rel (· ≈ ·) (xs.lookup name) (ys.lookup name)) :
    sameFields xs ys = true := by
  induction xs generalizing ys with
  | nil =>
    cases ys with
    | nil => rfl
    | cons y ys =>
      have hl := h y.1
      rw [List.lookup_cons_self] at hl
      cases hl
  | cons x xs ih =>
    obtain ⟨k, x⟩ := x
    cases ys with
    | nil =>
      have hk := h k
      rw [List.lookup_cons_self] at hk
      cases hk
    | cons y ys =>
      obtain ⟨l, y⟩ := y
      -- The lesser of two first names would be missing on the other side.
      have hkl : k = l := by
        rcases lt_trichotomy k l with hlt | heq | hlt
        · have hk := h k
          rw [List.lookup_cons_self, hy.lookup_of_lt hlt] at hk
          cases hk
        · exact heq
        · have hl := h l
          rw [List.lookup_cons_self, hx.lookup_of_lt hlt] at hl
          cases hl
      subst hkl
      have hxy := h k
      rw [List.lookup_cons_self, List.lookup_cons_self] at hxy
      have hs : sameFields xs ys = true := by
        refine ih (ascending_cons.mp hx).2 (ascending_cons.mp hy).2 fun name => ?_
        by_cases hn : name = k
        · subst hn
          rw [hx.lookup_tail, hy.lookup_tail]
          exact .none
        · have ht := h name
          rwa [lookup_cons_of_ne hn, lookup_cons_of_ne hn] at ht
      cases hxy with
      | some hxy => simp only [sameFields, beq_self_eq_true, Bool.true_and, Bool.and_eq_true]
                    exact ⟨hxy, hs⟩

/-- Mappings are equal when they have the same names, each with equal values. -/
theorem same_mapping_iff {xs ys : List (String × Tree)} (hx : Ascending xs) (hy : Ascending ys) :
    Tree.mapping xs ≈ Tree.mapping ys ↔
      ∀ name, Option.Rel (· ≈ ·) ((mapping xs).field? name) ((mapping ys).field? name) :=
  ⟨fun h name => lookup_of_sameFields h name, fun h => sameFields_of_lookup hx hy h⟩

end Tree
end AgentSpec
