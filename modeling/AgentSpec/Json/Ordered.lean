import AgentSpec.Json.Reader
import AgentSpec.Tree.Ordered

/-!
# JSON trees are in order

Objects are the only mappings that the reader builds, and it puts their fields in order. So what is
read from a text is in order: `ordered_of_read`.
-/

namespace AgentSpec.Json

/-- A step of which every tree is in order. -/
def GivesOrdered {s : List Char} (x : Step Tree s) : Prop := ∀ t r, x = .ok (t, r) → t.Ordered

namespace GivesOrdered

variable {s : List Char}

theorem error {f : Failure} : GivesOrdered (.error f : Step Tree s) := nofun

theorem ok {t : Tree} {r : Rest s} (h : t.Ordered) : GivesOrdered (.ok (t, r)) := by
  intro u q he
  cases he
  exact h

theorem nested {r : Rest s} {x : Step Tree r.val} (h : GivesOrdered x) :
    GivesOrdered (Step.nested r x) := by
  cases x with
  | error f => exact error
  | ok a => exact ok (h a.1 a.2 rfl)

theorem ite {p : Prop} [Decidable p] {x y : Step Tree s} (hx : GivesOrdered x)
    (hy : GivesOrdered y) : GivesOrdered (if p then x else y) := by
  split
  · exact hx
  · exact hy

end GivesOrdered

/-! ## Words and numbers -/

theorem eq_of_word {expected : List Char} {t u : Tree} {s : List Char}
    {r : { r : List Char // r.length ≤ s.length }} (h : word expected t s = .ok (u, r)) :
    u = t := by
  induction expected generalizing s with
  | nil =>
    cases h
    rfl
  | cons e es ih =>
    cases s with
    | nil => cases h
    | cons c s =>
      rw [word] at h
      split at h
      · split at h
        · rename_i hw
          cases h
          exact ih hw
        · cases h
      · cases h

theorem ordered_after_word {s : List Char} (r : Rest s) (expected : List Char) {t : Tree}
    (h : t.Ordered) : GivesOrdered (Step.after r (word expected t r.val)) := by
  cases hw : word expected t r.val with
  | error f => exact .error
  | ok a => exact .ok (eq_of_word hw ▸ h)

theorem ordered_number (negative : Bool) (s : List Char) : GivesOrdered (number negative s) := by
  intro t r h
  unfold number at h
  simp only [bind, Except.bind, pure, Except.pure] at h
  repeat' split at h
  all_goals cases h
  exact .number _

/-! ## Lists and objects -/

section

variable {item : (s : List Char) → Step Tree s}

theorem ordered_items (hitem : ∀ s, GivesOrdered (item s)) {s : List Char} {ts : List Tree}
    {r : Rest s} (h : items item s = .ok (ts, r)) : ∀ t ∈ ts, t.Ordered := by
  fun_induction items item s generalizing ts with
  | case1 => cases h
  | case2 => cases h
  | case3 s t r ht u =>
    cases h
    exact List.forall_mem_cons.mpr ⟨hitem s t r ht, List.forall_mem_nil _⟩
  | case4 => cases h
  | case5 => cases h
  | case6 => cases h
  | case7 s t r ht u d v _ _ ts w hts _ _ ih =>
    cases h
    exact List.forall_mem_cons.mpr ⟨hitem s t r ht, ih hts⟩
  | case8 => cases h

theorem ordered_list (hitem : ∀ s, GivesOrdered (item s)) (s : List Char) :
    GivesOrdered (list item s) := by
  unfold list
  split
  · exact .error
  · split
    · exact .ok (.sequence (List.forall_mem_nil _))
    · split
      · exact .error
      · rename_i hts
        exact .ok (.sequence (ordered_items hitem hts))

theorem ordered_field (hitem : ∀ s, GivesOrdered (item s)) {s : List Char} {f : String × Tree}
    {r : Rest s} (h : field item s = .ok (f, r)) : f.2.Ordered := by
  unfold field at h
  repeat' split at h
  all_goals cases h
  exact hitem _ _ _ ‹_›

theorem ordered_fields (hitem : ∀ s, GivesOrdered (item s)) {s : List Char}
    {fs : List (String × Tree)} {r : Rest s} (h : fields item s = .ok (fs, r)) :
    ∀ f ∈ fs, f.2.Ordered := by
  fun_induction fields item s generalizing fs with
  | case1 => cases h
  | case2 => cases h
  | case3 s f r hf u =>
    cases h
    exact List.forall_mem_cons.mpr ⟨ordered_field hitem hf, List.forall_mem_nil _⟩
  | case4 => cases h
  | case5 => cases h
  | case6 s f r hf u v fs w hfs _ _ _ ih =>
    cases h
    exact List.forall_mem_cons.mpr ⟨ordered_field hitem hf, ih hfs⟩
  | case7 => cases h
  | case8 => cases h
  | case9 => cases h

theorem ordered_object (hitem : ∀ s, GivesOrdered (item s)) (s : List Char) :
    GivesOrdered (object item s) := by
  unfold object
  split
  · exact .error
  · split
    · exact .ok (.mapping List.Pairwise.nil (List.forall_mem_nil _))
    · split
      · split
        · exact .error
        · rename_i hfs
          exact .ok (Tree.ordered_ofFields (ordered_fields hitem hfs))
      · exact .error

end

/-! ## Values -/

theorem ordered_value (depth : Nat) (s : List Char) : GivesOrdered (value depth s) := by
  unfold value
  split
  · exact .error
  · rename_i c r _
    refine .ite (ordered_after_word r _ .null) ?_
    refine .ite (ordered_after_word r _ (.boolean true)) ?_
    refine .ite (ordered_after_word r _ (.boolean false)) ?_
    refine .ite (.nested (ordered_number true _)) ?_
    refine .ite ?number (.ite ?text (.ite ?list (.ite ?object .error)))
    case number =>
      split
      · exact .error
      · rename_i hn
        exact .ok (ordered_number false _ _ _ hn)
    case text =>
      split
      · exact .error
      · exact .ok (.text _)
    case list =>
      split
      · exact .error
      · rename_i depth
        exact .nested (ordered_list (ordered_value depth) _)
    case object =>
      split
      · exact .error
      · rename_i depth
        exact .nested (ordered_object (ordered_value depth) _)

theorem ordered_of_read {text : String} {t : Tree} (h : read text = .ok t) : t.Ordered := by
  unfold read at h
  dsimp only at h
  split at h
  · cases h
  · rename_i u r hv
    split at h
    · cases h
      exact ordered_value _ _ _ _ hv
    · cases h

end AgentSpec.Json
