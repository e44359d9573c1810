import AgentSpec.Proofs.Json.Scalar

/-!
# What the reader takes

`Spells item cs t` says that the reader `item` takes the characters `cs` for the tree `t` wherever
they stand. It holds of the words, of what the printer writes for texts and for integers of 64
bits, and it passes from values to the lists and objects of them, however many blanks stand between
their parts (`spells_list`, `spells_object`). A text that is spelled is read: `read_of_spells`.
-/

namespace AgentSpec.Json

/-! ## Values -/

/-- The reader takes the characters for the tree, whatever blanks come before them. What follows
them must not continue a number. -/
structure Spells (item : (s : List Char) → Step Tree s) (cs : List Char) (t : Tree) : Prop where
  starts : ∃ c r, cs = c :: r ∧ isBlank c = false ∧ c ≠ ']'
  yields : ∀ {gap rest}, Blanks gap → EndsNumber rest → (item (gap ++ (cs ++ rest))).Yields t rest

theorem word_append (es : List Char) (t : Tree) (rest : List Char) :
    ∃ h, word es t (es ++ rest) = .ok (t, ⟨rest, h⟩) := by
  induction es with
  | nil => exact ⟨Nat.le_refl _, rfl⟩
  | cons e es ih =>
    obtain ⟨h, he⟩ := ih
    refine ⟨Nat.le_succ_of_le h, ?_⟩
    show word (e :: es) t (e :: (es ++ rest)) = _
    rw [word, if_pos rfl, he]

variable {depth : Nat}

theorem spells_word (c : Char) (es : List Char) {t : Tree} (hb : isBlank c = false) (hc : c ≠ ']')
    (h : ∀ {s : List Char} {r : Rest s}, next? s = some (c, r) →
      value depth s = Step.after r (word es t r.val)) : Spells (value depth) (c :: es) t := by
  refine ⟨⟨c, es, rfl, hb, hc⟩, fun {gap rest} hg _ => ?_⟩
  obtain ⟨hlt, hn⟩ := next?_append hg hb (es ++ rest)
  obtain ⟨hle, hw⟩ := word_append es t rest
  refine ⟨Nat.lt_of_le_of_lt hle hlt, ?_⟩
  show value depth (gap ++ c :: (es ++ rest)) = _
  rw [h hn, hw, Step.after]

theorem spells_null : Spells (value depth) "null".toList .null := by
  refine spells_word 'n' "ull".toList (by decide) (by decide) fun hn => ?_
  rw [value, hn]
  simp only [if_true]

theorem spells_boolean (b : Bool) : Spells (value depth) (writeBoolean b) (.boolean b) := by
  cases b with
  | true =>
    refine spells_word 't' "rue".toList (by decide) (by decide) fun hn => ?_
    rw [value, hn]
    simp only [Char.reduceEq, if_false, if_true]
  | false =>
    refine spells_word 'f' "alse".toList (by decide) (by decide) fun hn => ?_
    rw [value, hn]
    simp only [Char.reduceEq, if_false, if_true]

theorem yields_writeText (text : String) (rest : List Char) :
    ∃ cs, writeText text ++ rest = '"' :: cs ∧ (quoted cs).Yields text.toList rest := by
  refine ⟨text.toList.flatMap escape ++ '"' :: rest, ?_, quoted_flatMap text.toList rest⟩
  simp [writeText]

theorem spells_text (text : String) : Spells (value depth) (writeText text) (.text text) := by
  refine ⟨⟨'"', _, rfl, by decide, by decide⟩, fun {gap rest} hg _ => ?_⟩
  obtain ⟨cs, hcs, hlt', hq⟩ := yields_writeText text rest
  obtain ⟨hlt, hn⟩ := next?_append (c := '"') hg (by decide) cs
  rw [hcs]
  refine ⟨Nat.lt_trans hlt' hlt, ?_⟩
  have hd : isDigit '"' = false := by decide
  rw [value, hn]
  simp only [Char.reduceEq, hd, Bool.false_eq_true, if_false, if_true, hq, String.ofList_toList]
  rfl

/-- An integer that 64 bits hold, with or without a sign. -/
def Fits64 (n : Int) : Prop := -(twoTo 63 : Int) ≤ n ∧ n < (twoTo 64 : Int)

instance (n : Int) : Decidable (Fits64 n) :=
  inferInstanceAs (Decidable (-(twoTo 63 : Int) ≤ n ∧ n < (twoTo 64 : Int)))

theorem spells_negative {n : Nat} (h : n + 1 ≤ twoTo 63) :
    Spells (value depth) ('-' :: Decimal.digits (n + 1)) (.number (.integer (.negSucc n))) := by
  refine ⟨⟨'-', _, rfl, by decide, by decide⟩, fun {gap rest} hg hr => ?_⟩
  have hm : (Literal.mk true (Decimal.digits (n + 1)) none none).number =
      .ok (.integer (.negSucc n)) := by
    simp only [Literal.number, value_digits, Option.isSome_none, Bool.or_self, Bool.false_eq_true,
      if_false, if_true, if_pos (show n + 1 ≠ 0 ∧ n + 1 ≤ twoTo 63 from ⟨Nat.succ_ne_zero n, h⟩)]
    rfl
  obtain ⟨hlt, hn⟩ := next?_append (c := '-') hg (by decide) (Decimal.digits (n + 1) ++ rest)
  obtain ⟨hlt', hy⟩ := yields_number hm hr
  refine ⟨Nat.lt_trans hlt' hlt, ?_⟩
  show value depth (gap ++ '-' :: (Decimal.digits (n + 1) ++ rest)) = _
  rw [value, hn]
  simp only [Char.reduceEq, if_false, if_true, hy, Step.nested]
  rfl

theorem spells_natural {n : Nat} (h : n < twoTo 64) :
    Spells (value depth) (Decimal.digits n) (.number (.integer n)) := by
  have hm : (Literal.mk false (Decimal.digits n) none none).number = .ok (.integer n) := by
    simp only [Literal.number, value_digits, Option.isSome_none, Bool.or_self, Bool.false_eq_true,
      if_false, if_pos h]
  obtain ⟨c, ds, hds, -⟩ := digits_eq_cons n
  have hc : isDigit c = true := isDigit_of_mem_digits n c (by rw [hds]; exact List.mem_cons_self)
  have hne : ∀ d, isDigit d = false → c ≠ d := by
    rintro d hd rfl
    exact absurd (hc.symm.trans hd) (by decide)
  have hb : isBlank c = false := by
    simp [isBlank, hne ' ' (by decide), hne '\n' (by decide), hne '\t' (by decide),
      hne '\r' (by decide)]
  refine ⟨⟨c, ds, hds, hb, hne ']' (by decide)⟩, fun {gap rest} hg hr => ?_⟩
  have hy := yields_number hm hr
  rw [hds] at hy ⊢
  obtain ⟨hlt', hy⟩ := hy
  obtain ⟨hlt, hn⟩ := next?_append hg hb (ds ++ rest)
  refine ⟨Nat.lt_of_le_of_lt (Nat.le_of_lt_succ hlt') hlt, ?_⟩
  show value depth (gap ++ c :: (ds ++ rest)) = _
  have hy' : number false (c :: (ds ++ rest)) = .ok (.number (.integer n), ⟨rest, hlt'⟩) := hy
  rw [value, hn]
  simp only [hne 'n' (by decide), hne 't' (by decide), hne 'f' (by decide), hne '-' (by decide), hc,
    if_false, if_true, hy']

theorem spells_integer {n : Int} (h : Fits64 n) :
    Spells (value depth) (writeNumber (.integer n)) (.number (.integer n)) := by
  obtain ⟨hlow, hhigh⟩ := h
  cases n with
  | ofNat n =>
    have hw : writeNumber (.integer (.ofNat n)) = Decimal.digits n := String.toList_ofList
    rw [hw]
    exact spells_natural (by simpa using hhigh)
  | negSucc n =>
    have hw : writeNumber (.integer (.negSucc n)) = '-' :: Decimal.digits (n + 1) := by
      simp [writeNumber, Decimal.ofInt, Decimal.ofNat]
    rw [hw]
    exact spells_negative (by omega)

/-! ## Lists -/

/-- Items with blanks around them and commas between them. -/
inductive Joins (item : (s : List Char) → Step Tree s) : List Char → List Tree → Prop where
  | last {gap cs gap' : List Char} {t : Tree} (hg : Blanks gap) (h : Spells item cs t)
      (hg' : Blanks gap') : Joins item (gap ++ (cs ++ gap')) [t]
  | cons {gap cs gap' ds : List Char} {t : Tree} {ts : List Tree} (hg : Blanks gap)
      (h : Spells item cs t) (hg' : Blanks gap') (hj : Joins item ds ts) :
      Joins item (gap ++ (cs ++ (gap' ++ ',' :: ds))) (t :: ts)

/-- What follows a value in a list or an object does not continue a number. -/
theorem endsNumber_append {gap : List Char} (hg : Blanks gap) {c : Char} {r : List Char}
    (h : isDigit c = false ∧ c ≠ '.' ∧ c ≠ 'e' ∧ c ≠ 'E') : EndsNumber (gap ++ c :: r) := by
  cases gap with
  | nil => exact endsNumber_cons h
  | cons b gap => exact endsNumber_cons (endsNumber_of_isBlank (hg b List.mem_cons_self))

variable {item : (s : List Char) → Step Tree s} {cs : List Char} {ts : List Tree}

theorem Joins.starts (h : Joins item cs ts) (rest : List Char) :
    ∃ c r, next? (cs ++ rest) = some (c, r) ∧ c ≠ ']' := by
  obtain ⟨gap, ds, t, tail, hg, hs, rfl⟩ : ∃ gap ds t tail, Blanks gap ∧ Spells item ds t ∧
      cs = gap ++ (ds ++ tail) := by
    cases h with
    | last hg h hg' => exact ⟨_, _, _, _, hg, h, rfl⟩
    | cons hg h hg' hj => exact ⟨_, _, _, _, hg, h, rfl⟩
  obtain ⟨c, r, rfl, hb, hc⟩ := hs.starts
  obtain ⟨hlt, hn⟩ := next?_append hg hb (r ++ tail ++ rest)
  have hcs : gap ++ (c :: r ++ tail) ++ rest = gap ++ c :: (r ++ tail ++ rest) := by
    simp only [List.append_assoc, List.cons_append]
  rw [hcs]
  exact ⟨c, _, hn, hc⟩

theorem Joins.yields (h : Joins item cs ts) (rest : List Char) :
    (items item (cs ++ ']' :: rest)).Yields ts rest := by
  induction h with
  | @last gap cs gap' t hg h hg' =>
    have hends : EndsNumber (gap' ++ ']' :: rest) := endsNumber_append hg' (by decide)
    obtain ⟨hlt, hi⟩ := h.yields hg hends
    obtain ⟨hlt', hn⟩ := next?_append (c := ']') hg' (by decide) rest
    have hcs : gap ++ (cs ++ gap') ++ ']' :: rest = gap ++ (cs ++ (gap' ++ ']' :: rest)) := by
      simp only [List.append_assoc]
    rw [hcs]
    refine ⟨Nat.lt_trans hlt' hlt, ?_⟩
    rw [items, hi]
    simp only [hn, if_true]
    rfl
  | @cons gap cs gap' ds t ts hg h hg' hj ih =>
    have hends : EndsNumber (gap' ++ ',' :: (ds ++ ']' :: rest)) :=
      endsNumber_append hg' (by decide)
    obtain ⟨hlt, hi⟩ := h.yields hg hends
    obtain ⟨hlt', hn⟩ := next?_append (c := ',') hg' (by decide) (ds ++ ']' :: rest)
    obtain ⟨d, v, hnext, hd⟩ := hj.starts (']' :: rest)
    obtain ⟨hlt'', ih⟩ := ih
    have hcs : gap ++ (cs ++ (gap' ++ ',' :: ds)) ++ ']' :: rest =
        gap ++ (cs ++ (gap' ++ ',' :: (ds ++ ']' :: rest))) := by
      simp only [List.append_assoc, List.cons_append]
    rw [hcs]
    refine ⟨Nat.lt_trans hlt'' (Nat.lt_trans hlt' hlt), ?_⟩
    rw [items, hi]
    simp only [hn, Char.reduceEq, if_false, if_true, hnext, hd, ih]
    rfl

theorem spells_brackets {t : Tree}
    (h : ∀ rest, (list (value depth) (cs ++ ']' :: rest)).Yields t rest) :
    Spells (value (depth + 1)) ('[' :: (cs ++ [']'])) t := by
  refine ⟨⟨'[', _, rfl, by decide, by decide⟩, fun {gap rest} hg _ => ?_⟩
  obtain ⟨hlt, hn⟩ := next?_append (c := '[') hg (by decide) (cs ++ ']' :: rest)
  obtain ⟨hlt', hl⟩ := h rest
  have hcs : gap ++ ('[' :: (cs ++ [']']) ++ rest) = gap ++ '[' :: (cs ++ ']' :: rest) := by
    simp only [List.append_assoc, List.cons_append, List.nil_append]
  rw [hcs]
  refine ⟨Nat.lt_trans hlt' hlt, ?_⟩
  have hd : isDigit '[' = false := by decide
  rw [value, hn]
  simp only [Char.reduceEq, hd, Bool.false_eq_true, if_false, if_true, hl, Step.nested]
  rfl

theorem spells_list (h : Joins (value depth) cs ts) :
    Spells (value (depth + 1)) ('[' :: (cs ++ [']'])) (.sequence ts) := by
  refine spells_brackets fun rest => ?_
  obtain ⟨c, r, hn, hc⟩ := h.starts (']' :: rest)
  obtain ⟨hlt, hi⟩ := h.yields rest
  refine ⟨hlt, ?_⟩
  simp only [list, hn, hc, if_false, hi]

theorem spells_emptyList {gap : List Char} (hg : Blanks gap) :
    Spells (value (depth + 1)) ('[' :: (gap ++ [']'])) (.sequence []) := by
  refine spells_brackets fun rest => ?_
  obtain ⟨hlt, hn⟩ := next?_append (c := ']') hg (by decide) rest
  refine ⟨hlt, ?_⟩
  simp only [list, hn, if_true]

/-! ## Objects -/

/-- Fields with blanks around their names and values, and commas between them. -/
inductive JoinsFields (item : (s : List Char) → Step Tree s) :
    List Char → List (String × Tree) → Prop where
  | last {gap colon cs gap' : List Char} {t : Tree} (name : String) (hg : Blanks gap)
      (hcolon : Blanks colon) (h : Spells item cs t) (hg' : Blanks gap') :
      JoinsFields item (gap ++ (writeText name ++ ':' :: (colon ++ (cs ++ gap')))) [(name, t)]
  | cons {gap colon cs gap' ds : List Char} {t : Tree} {fs : List (String × Tree)}
      (name : String) (hg : Blanks gap) (hcolon : Blanks colon) (h : Spells item cs t)
      (hg' : Blanks gap') (hj : JoinsFields item ds fs) :
      JoinsFields item
        (gap ++ (writeText name ++ ':' :: (colon ++ (cs ++ (gap' ++ ',' :: ds))))) ((name, t) :: fs)

theorem yields_field {colon : List Char} (hcolon : Blanks colon) {t : Tree} (h : Spells item cs t)
    (name : String) {rest : List Char} (hr : EndsNumber rest) :
    ∃ ds, writeText name ++ ':' :: (colon ++ (cs ++ rest)) = '"' :: ds ∧
      (field item ds).Yields (name, t) rest := by
  obtain ⟨ds, hds, hlt, hq⟩ := yields_writeText name (':' :: (colon ++ (cs ++ rest)))
  obtain ⟨hlt', hi⟩ := h.yields hcolon hr
  obtain ⟨hcolon', hn⟩ :
      ∃ h, next? (':' :: (colon ++ (cs ++ rest))) = some (':', ⟨colon ++ (cs ++ rest), h⟩) :=
    next?_append blanks_nil (by decide) _
  refine ⟨ds, hds, Nat.lt_trans hlt' (Nat.lt_trans hcolon' hlt), ?_⟩
  rw [field, hq]
  simp only [hn, if_true, hi, String.ofList_toList]
  rfl

variable {fs : List (String × Tree)}

theorem JoinsFields.yields (h : JoinsFields item cs fs) (rest : List Char) :
    ∃ r, next? (cs ++ '}' :: rest) = some ('"', r) ∧ (fields item r.val).Yields fs rest := by
  induction h with
  | @last gap colon cs gap' t name hg hcolon h hg' =>
    have hends : EndsNumber (gap' ++ '}' :: rest) := endsNumber_append hg' (by decide)
    obtain ⟨ds, hds, hlt, hf⟩ := yields_field hcolon h name hends
    obtain ⟨hgap, hq⟩ := next?_append (c := '"') hg (by decide) ds
    obtain ⟨hlt', hn⟩ := next?_append (c := '}') hg' (by decide) rest
    have hcs : gap ++ (writeText name ++ ':' :: (colon ++ (cs ++ gap'))) ++ '}' :: rest =
        gap ++ '"' :: ds := by
      rw [← hds]
      simp only [List.append_assoc, List.cons_append]
    rw [hcs]
    refine ⟨_, hq, Nat.lt_trans hlt' hlt, ?_⟩
    simp only
    rw [fields, hf]
    simp only [hn, if_true]
    rfl
  | @cons gap colon cs gap' es t fs name hg hcolon h hg' hj ih =>
    have hends : EndsNumber (gap' ++ ',' :: (es ++ '}' :: rest)) :=
      endsNumber_append hg' (by decide)
    obtain ⟨ds, hds, hlt, hf⟩ := yields_field hcolon h name hends
    obtain ⟨hgap, hq⟩ := next?_append (c := '"') hg (by decide) ds
    obtain ⟨hlt', hn⟩ := next?_append (c := ',') hg' (by decide) (es ++ '}' :: rest)
    obtain ⟨r, hr, hmore, ih⟩ := ih
    have hcs : gap ++ (writeText name ++ ':' :: (colon ++ (cs ++ (gap' ++ ',' :: es)))) ++
        '}' :: rest = gap ++ '"' :: ds := by
      rw [← hds]
      simp only [List.append_assoc, List.cons_append]
    rw [hcs]
    refine ⟨_, hq, Nat.lt_trans hmore (Nat.lt_trans r.property (Nat.lt_trans hlt' hlt)), ?_⟩
    simp only
    rw [fields, hf]
    simp only [hn, Char.reduceEq, if_false, if_true, hr, ih]
    rfl

theorem spells_braces {t : Tree}
    (h : ∀ rest, (object (value depth) (cs ++ '}' :: rest)).Yields t rest) :
    Spells (value (depth + 1)) ('{' :: (cs ++ ['}'])) t := by
  refine ⟨⟨'{', _, rfl, by decide, by decide⟩, fun {gap rest} hg _ => ?_⟩
  obtain ⟨hlt, hn⟩ := next?_append (c := '{') hg (by decide) (cs ++ '}' :: rest)
  obtain ⟨hlt', ho⟩ := h rest
  have hcs : gap ++ ('{' :: (cs ++ ['}']) ++ rest) = gap ++ '{' :: (cs ++ '}' :: rest) := by
    simp only [List.append_assoc, List.cons_append, List.nil_append]
  rw [hcs]
  refine ⟨Nat.lt_trans hlt' hlt, ?_⟩
  have hd : isDigit '{' = false := by decide
  rw [value, hn]
  simp only [Char.reduceEq, hd, Bool.false_eq_true, if_false, if_true, ho, Step.nested]
  rfl

theorem spells_object (h : JoinsFields (value depth) cs fs) :
    Spells (value (depth + 1)) ('{' :: (cs ++ ['}'])) (Tree.ofFields fs) := by
  refine spells_braces fun rest => ?_
  obtain ⟨r, hn, hlt, hf⟩ := h.yields rest
  refine ⟨Nat.lt_trans hlt r.property, ?_⟩
  simp only [object, hn, Char.reduceEq, if_false, if_true, hf]
  rfl

theorem spells_emptyObject {gap : List Char} (hg : Blanks gap) :
    Spells (value (depth + 1)) ('{' :: (gap ++ ['}'])) (.mapping []) := by
  refine spells_braces fun rest => ?_
  obtain ⟨hlt, hn⟩ := next?_append (c := '}') hg (by decide) rest
  refine ⟨hlt, ?_⟩
  simp only [object, hn, if_true]

/-! ## Texts that hold one value -/

theorem read_of_spells {t : Tree} (h : Spells (value maxDepth) cs t) {gap : List Char}
    (hg : Blanks gap) {text : String} (htext : text.toList = cs ++ gap) : read text = .ok t := by
  have hends : EndsNumber gap := by
    intro c r hc
    exact endsNumber_of_isBlank (hg c (hc ▸ List.mem_cons_self))
  have hy : (value maxDepth text.toList).Yields t gap := by
    rw [htext]
    exact h.yields blanks_nil hends
  obtain ⟨hlt, hv⟩ := hy
  simp only [read, hv, next?_of_blanks hg]

end AgentSpec.Json
