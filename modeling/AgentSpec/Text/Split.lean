/-!
# Splitting at a character

Splitting keeps empty pieces, so the pieces and the separators between them are the whole text.
-/

namespace AgentSpec.Text

/-- What stands between the separators. -/
def split (separator : Char) : List Char → List (List Char)
  | [] => [[]]
  | c :: cs =>
    if c = separator then [] :: split separator cs
    else
      match split separator cs with
      | [] => [[c]]
      | piece :: pieces => (c :: piece) :: pieces

variable {separator : Char}

theorem split_ne_nil (separator : Char) (cs : List Char) : split separator cs ≠ [] := by
  cases cs with
  | nil => exact List.cons_ne_nil _ _
  | cons c cs =>
    rw [split]
    split
    · exact List.cons_ne_nil _ _
    · split <;> exact List.cons_ne_nil _ _

theorem split_of_not_mem {cs : List Char} (h : separator ∉ cs) : split separator cs = [cs] := by
  induction cs with
  | nil => rfl
  | cons c cs ih =>
    have hc : c ≠ separator := fun hc => h (hc ▸ List.mem_cons_self)
    have hcs : separator ∉ cs := fun hcs => h (List.mem_cons_of_mem c hcs)
    rw [split, if_neg hc, ih hcs]

/-- A separator ends the pieces before it. -/
theorem split_append (separator : Char) (xs ys : List Char) :
    split separator (xs ++ separator :: ys) = split separator xs ++ split separator ys := by
  induction xs with
  | nil => simp [split]
  | cons c xs ih =>
    rw [List.cons_append, split, split, ih]
    by_cases hc : c = separator
    · rw [if_pos hc, if_pos hc, List.cons_append]
    · rw [if_neg hc, if_neg hc]
      cases hx : split separator xs with
      | nil => exact absurd hx (split_ne_nil separator xs)
      | cons piece pieces => rfl

/-- What has no separator goes to the first piece of what follows. -/
theorem split_append_of_not_mem {xs : List Char} (h : separator ∉ xs) (ys : List Char) :
    ∃ first, split separator (xs ++ ys) = (xs ++ first) :: (split separator ys).tail := by
  induction xs with
  | nil =>
    cases hy : split separator ys with
    | nil => exact absurd hy (split_ne_nil separator ys)
    | cons first rest => exact ⟨first, hy⟩
  | cons c xs ih =>
    have hc : c ≠ separator := fun hc => h (hc ▸ List.mem_cons_self)
    obtain ⟨first, hfirst⟩ := ih fun hxs => h (List.mem_cons_of_mem c hxs)
    refine ⟨first, ?_⟩
    rw [List.cons_append, split, if_neg hc, hfirst]
    rfl

/-- A change of characters that keeps the separator, and makes no new one, keeps the pieces. -/
theorem split_map {f : Char → Char} (h : ∀ c, f c = separator ↔ c = separator) (cs : List Char) :
    split separator (cs.map f) = (split separator cs).map (List.map f) := by
  induction cs with
  | nil => rfl
  | cons c cs ih =>
    rw [List.map_cons, split, split, ih]
    by_cases hc : c = separator
    · rw [if_pos ((h c).mpr hc), if_pos hc]
      rfl
    · rw [if_neg fun hf => hc ((h c).mp hf), if_neg hc]
      cases split separator cs with
      | nil => rfl
      | cons piece pieces => rfl

end AgentSpec.Text
