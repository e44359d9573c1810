/-!
# What a step meets

A step that may fail meets two conditions when its error meets the one and its value the other.
Steps that meet their conditions are put together by `Meets.bind`.
-/

namespace AgentSpec

variable {ε α β : Type} {P : ε → Prop} {Q : α → Prop} {R : β → Prop}

def Meets (P : ε → Prop) (Q : α → Prop) : Except ε α → Prop
  | .error e => P e
  | .ok a => Q a

namespace Meets

theorem error {e : ε} (h : P e) : Meets P Q (.error e : Except ε α) := h

theorem ok {a : α} (h : Q a) : Meets P Q (.ok a : Except ε α) := h

variable {x : Except ε α}

theorem refused (h : Meets P Q x) {e : ε} (he : x = .error e) : P e := by
  rw [he] at h
  exact h

theorem value (h : Meets P Q x) {a : α} (ha : x = .ok a) : Q a := by
  rw [ha] at h
  exact h

theorem weaken {S : α → Prop} (h : Meets P Q x) (hs : ∀ a, Q a → S a) : Meets P S x := by
  cases x with
  | error e => exact h
  | ok a => exact hs a h

theorem bind {f : α → Except ε β} (hx : Meets P Q x) (hf : ∀ a, Q a → Meets P R (f a)) :
    Meets P R (x >>= f) := by
  cases x with
  | error e => exact hx
  | ok a => exact hf a hx

end Meets
end AgentSpec
