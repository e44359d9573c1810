import AgentSpec.Json.Printer
import AgentSpec.Json.Reader
import Mathlib.Tactic.SplitIfs

/-!
# Reading back texts and numbers

The steps of the reader undo those of the printer: what is written for a character is read as that
character (`quoted_escape`), and the digits of a natural number as that number (`yields_number`).
-/

namespace AgentSpec.Json

/-- The step takes what comes before `r` for `a`. -/
def Step.Yields {α : Type} {s : List Char} (x : Step α s) (a : α) (r : List Char) : Prop :=
  ∃ h, x = .ok (a, ⟨r, h⟩)

/-! ## Blanks -/

def Blanks (gap : List Char) : Prop := ∀ c ∈ gap, isBlank c = true

theorem blanks_nil : Blanks [] := List.forall_mem_nil _

theorem Blanks.tail {c : Char} {gap : List Char} (h : Blanks (c :: gap)) : Blanks gap :=
  (List.forall_mem_cons.mp h).2

theorem next?_of_blanks {gap : List Char} (h : Blanks gap) : next? gap = none := by
  induction gap with
  | nil => rfl
  | cons c gap ih => rw [next?, if_pos (h c List.mem_cons_self), ih h.tail, Option.map_none]

/-- Blanks are passed over. -/
theorem next?_append {gap : List Char} (h : Blanks gap) {c : Char} (hc : isBlank c = false)
    (r : List Char) : ∃ hlt, next? (gap ++ c :: r) = some (c, ⟨r, hlt⟩) := by
  induction gap with
  | nil => exact ⟨_, if_neg (by simp [hc])⟩
  | cons b gap ih =>
    obtain ⟨hlt, he⟩ := ih h.tail
    refine ⟨Nat.lt_succ_of_lt hlt, ?_⟩
    show next? (b :: (gap ++ c :: r)) = _
    rw [next?, if_pos (h b List.mem_cons_self), he]
    rfl

/-! ## Texts -/

theorem hexValue?_hexDigit : ∀ n < 16, Text.hexValue? (Text.hexDigit n) = some n := by decide

theorem utf8Size_pos_four (a b c d : Char) : 4 ≤ Text.byteLength [a, b, c, d] := by
  have ha := a.utf8Size_pos
  have hb := b.utf8Size_pos
  have hc := c.utf8Size_pos
  have hd := d.utf8Size_pos
  simp only [Text.byteLength, List.foldr_cons, List.foldr_nil]
  omega

theorem yields_hex {a b c d : Char} {n : Nat} (h : fourHex? a b c d = some n) (r : List Char) :
    (hex (a :: b :: c :: d :: r)).Yields n r := by
  have hsize : ¬ Text.byteLength ((a :: b :: c :: d :: r).take 4) < 4 :=
    Nat.not_lt_of_le (utf8Size_pos_four a b c d)
  refine ⟨by simp only [List.length_cons]; omega, ?_⟩
  rw [hex, if_neg hsize]
  simp only [h]

/-- The escape of a character below space by its number. -/
theorem yields_unicodeEscape {n : Nat} (hn : n < 32) (r : List Char) :
    (unicodeEscape ('0' :: '0' :: Text.hexDigit (n / 16) :: Text.hexDigit (n % 16) :: r)).Yields
      (Char.ofNat n) r := by
  have hfour : fourHex? '0' '0' (Text.hexDigit (n / 16)) (Text.hexDigit (n % 16)) = some n := by
    have hzero : Text.hexValue? '0' = some 0 := by decide
    simp only [fourHex?, hzero, hexValue?_hexDigit (n / 16) (by omega),
      hexValue?_hexDigit (n % 16) (by omega), bind, Option.bind, pure]
    congr 1
    omega
  obtain ⟨hlt, hx⟩ := yields_hex hfour r
  refine ⟨hlt, ?_⟩
  rw [unicodeEscape, hx]
  simp only
  rw [if_neg (by omega), if_neg (by omega)]

theorem quoted_of_unescape {s r rest : List Char} {c : Char} {cs : List Char}
    (hc : (unescape s).Yields c r) (h : (quoted r).Yields cs rest) :
    (quoted ('\\' :: s)).Yields (c :: cs) rest := by
  obtain ⟨hlt, hc⟩ := hc
  obtain ⟨hlt', h⟩ := h
  refine ⟨by simp only [List.length_cons]; omega, ?_⟩
  rw [quoted, if_neg (by decide), if_pos rfl, hc]
  simp only [h]

theorem yields_unescape_simple {x c : Char} (hx : x ≠ 'u') (h : simpleEscape? x = some c)
    (r : List Char) : (unescape (x :: r)).Yields c r := by
  refine ⟨by simp, ?_⟩
  rw [unescape, if_neg hx, h]

theorem yields_unescape_unicode {s r : List Char} {c : Char} (h : (unicodeEscape s).Yields c r) :
    (unescape ('u' :: s)).Yields c r := by
  obtain ⟨hlt, h⟩ := h
  refine ⟨Nat.lt_succ_of_lt hlt, ?_⟩
  rw [unescape, if_pos rfl, h]

theorem quoted_plain {r rest : List Char} {c : Char} {cs : List Char} (hq : c ≠ '"')
    (hb : c ≠ '\\') (hn : ¬ c.toNat < 32) (h : (quoted r).Yields cs rest) :
    (quoted (c :: r)).Yields (c :: cs) rest := by
  obtain ⟨hlt, h⟩ := h
  refine ⟨by simp only [List.length_cons]; omega, ?_⟩
  rw [quoted, if_neg hq, if_neg hb, if_neg hn, h]

/-- A character is escaped by a letter, by its number or not at all. -/
theorem escape_cases (c : Char) :
    (∃ x, x ≠ 'u' ∧ simpleEscape? x = some c ∧ escape c = ['\\', x]) ∨
    (c.toNat < 32 ∧ escape c = ['\\', 'u', '0', '0', Text.hexDigit (c.toNat / 16),
      Text.hexDigit (c.toNat % 16)]) ∨
    (c ≠ '"' ∧ c ≠ '\\' ∧ ¬ c.toNat < 32 ∧ escape c = [c]) := by
  unfold escape
  split_ifs with hq hb hback hform hline hreturn htab hnumber
  · exact .inl ⟨'"', by decide, by rw [hq]; rfl, rfl⟩
  · exact .inl ⟨'\\', by decide, by rw [hb]; rfl, rfl⟩
  · exact .inl ⟨'b', by decide, by rw [hback]; rfl, rfl⟩
  · exact .inl ⟨'f', by decide, by rw [hform]; rfl, rfl⟩
  · exact .inl ⟨'n', by decide, by rw [hline]; rfl, rfl⟩
  · exact .inl ⟨'r', by decide, by rw [hreturn]; rfl, rfl⟩
  · exact .inl ⟨'t', by decide, by rw [htab]; rfl, rfl⟩
  · exact .inr (.inl ⟨hnumber, rfl⟩)
  · exact .inr (.inr ⟨hq, hb, hnumber, rfl⟩)

/-- What is written for a character is read as the character. -/
theorem quoted_escape {r rest cs : List Char} (c : Char) (h : (quoted r).Yields cs rest) :
    (quoted (escape c ++ r)).Yields (c :: cs) rest := by
  rcases escape_cases c with ⟨x, hx, hs, he⟩ | ⟨hn, he⟩ | ⟨hq, hb, hn, he⟩
  · rw [he]
    exact quoted_of_unescape (yields_unescape_simple hx hs r) h
  · rw [he]
    have hu := yields_unicodeEscape hn r
    rw [Char.ofNat_toNat] at hu
    exact quoted_of_unescape (yields_unescape_unicode hu) h
  · rw [he]
    exact quoted_plain hq hb hn h

theorem quoted_flatMap (cs rest : List Char) :
    (quoted (cs.flatMap escape ++ '"' :: rest)).Yields cs rest := by
  induction cs with
  | nil =>
    refine ⟨Nat.lt_succ_self _, ?_⟩
    show quoted ('"' :: rest) = _
    rw [quoted, if_pos rfl]
  | cons c cs ih =>
    rw [List.flatMap_cons, List.append_assoc]
    exact quoted_escape c ih

/-! ## Numbers -/

/-- No character follows that a number goes on with. -/
def EndsNumber (r : List Char) : Prop :=
  ∀ c s, r = c :: s → isDigit c = false ∧ c ≠ '.' ∧ c ≠ 'e' ∧ c ≠ 'E'

theorem endsNumber_cons {c : Char} {r : List Char}
    (h : isDigit c = false ∧ c ≠ '.' ∧ c ≠ 'e' ∧ c ≠ 'E') : EndsNumber (c :: r) := by
  intro d s hd
  cases hd
  exact h

theorem endsNumber_of_isBlank {c : Char} (h : isBlank c = true) :
    isDigit c = false ∧ c ≠ '.' ∧ c ≠ 'e' ∧ c ≠ 'E' := by
  simp only [isBlank, Bool.or_eq_true, beq_iff_eq] at h
  rcases h with ((rfl | rfl) | rfl) | rfl <;> decide

theorem digitChar_spec : ∀ d < 10, isDigit (Decimal.digitChar d) = true ∧
    Decimal.digitValue (Decimal.digitChar d) = d ∧ (Decimal.digitChar d = '0' → d = 0) := by
  decide

theorem isDigit_of_mem_digits (n : Nat) : ∀ c ∈ Decimal.digits n, isDigit c = true := by
  fun_induction Decimal.digits n with
  | case1 n h =>
    intro c hc
    rw [List.mem_singleton.mp hc]
    exact (digitChar_spec n h).1
  | case2 n h ih =>
    intro c hc
    rcases List.mem_append.mp hc with hc | hc
    · exact ih c hc
    · rw [List.mem_singleton.mp hc]
      exact (digitChar_spec (n % 10) (by omega)).1

/-- Digits that are written are read back. -/
theorem value_digits (n : Nat) : Decimal.value (Decimal.digits n) = n := by
  fun_induction Decimal.digits n with
  | case1 n h => simp [Decimal.value, (digitChar_spec n h).2.1]
  | case2 n h ih =>
    rw [Decimal.value, List.foldl_append]
    rw [Decimal.value] at ih
    rw [ih, List.foldl_cons, List.foldl_nil, (digitChar_spec (n % 10) (by omega)).2.1]
    omega

/-- A zero in front stands alone. -/
theorem digits_eq_cons (n : Nat) : ∃ c ds, Decimal.digits n = c :: ds ∧ (c = '0' → n = 0) := by
  fun_induction Decimal.digits n with
  | case1 n h => exact ⟨_, [], rfl, (digitChar_spec n h).2.2⟩
  | case2 n h ih =>
    obtain ⟨c, ds, hds, hzero⟩ := ih
    refine ⟨c, ds ++ [Decimal.digitChar (n % 10)], by rw [hds, List.cons_append], fun hc => ?_⟩
    have := hzero hc
    omega

theorem digits_append {ds rest : List Char} (hd : ∀ c ∈ ds, isDigit c = true)
    (hr : EndsNumber rest) : ∃ h, digits (ds ++ rest) = (ds, ⟨rest, h⟩) := by
  have htake : (ds ++ rest).takeWhile isDigit = ds := by
    rw [List.takeWhile_append_of_pos hd]
    cases rest with
    | nil => rw [List.takeWhile_nil, List.append_nil]
    | cons c r => rw [List.takeWhile_cons_of_neg (by simp [(hr c r rfl).1]), List.append_nil]
  have hdrop : (ds ++ rest).dropWhile isDigit = rest := by
    rw [List.dropWhile_append_of_pos hd]
    cases rest with
    | nil => rfl
    | cons c r => rw [List.dropWhile_cons_of_neg (by simp [(hr c r rfl).1])]
  refine ⟨by simp, ?_⟩
  simp only [digits, htake, hdrop]

theorem yields_wholePart (n : Nat) {rest : List Char} (hr : EndsNumber rest) :
    (wholePart (Decimal.digits n ++ rest)).Yields (Decimal.digits n) rest := by
  obtain ⟨c, ds, hds, hzero⟩ := digits_eq_cons n
  have hall := isDigit_of_mem_digits n
  rw [hds] at hall ⊢
  obtain ⟨hc, hall⟩ := List.forall_mem_cons.mp hall
  obtain ⟨hle, he⟩ := digits_append hall hr
  have hlone : ¬ (c = '0' ∧ ds ≠ []) := by
    rintro ⟨h0, hne⟩
    rw [hzero h0, Decimal.digits] at hds
    exact hne (List.cons.inj hds).2.symm
  refine ⟨Nat.lt_succ_of_le hle, ?_⟩
  show wholePart (c :: (ds ++ rest)) = _
  rw [wholePart, he]
  simp only [hc, Bool.not_true, Bool.false_eq_true, if_false, if_neg hlone]

theorem fractionPart_of_endsNumber {rest : List Char} (hr : EndsNumber rest) :
    fractionPart rest = .ok (none, ⟨rest, Nat.le_refl _⟩) := by
  unfold fractionPart
  split
  · exact absurd rfl (hr _ _ rfl).2.1
  · rfl

theorem exponentPart_of_endsNumber {rest : List Char} (hr : EndsNumber rest) :
    exponentPart rest = .ok (none, ⟨rest, Nat.le_refl _⟩) := by
  cases rest with
  | nil => rfl
  | cons c r =>
    obtain ⟨-, -, he, hE⟩ := hr c r rfl
    rw [exponentPart, if_neg (not_or.mpr ⟨he, hE⟩)]

theorem yields_number {negative : Bool} {n : Nat} {m : Number} {rest : List Char}
    (hm : (Literal.mk negative (Decimal.digits n) none none).number = .ok m)
    (hr : EndsNumber rest) :
    (number negative (Decimal.digits n ++ rest)).Yields (.number m) rest := by
  obtain ⟨hlt, hw⟩ := yields_wholePart n hr
  refine ⟨hlt, ?_⟩
  rw [number, hw]
  simp only [bind, Except.bind, fractionPart_of_endsNumber hr, exponentPart_of_endsNumber hr, hm]
  rfl

end AgentSpec.Json
