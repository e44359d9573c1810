import AgentSpec.Load
import AgentSpec.Proofs.Json.Spelling
import AgentSpec.Proofs.Value

/-!
# Written and read back

A tree is `Plain` when 64-bit integers are its only numbers and its nesting is within the reader's
limit. What either printer writes for it is read as the same tree if that is in order, as everything
read is (`spells_write`, `spells_writePretty`); so two of them are written alike only if they are
equal: `compact_round_trip`.
-/

namespace AgentSpec.Json

/-- A tree whose numbers are integers of 64 bits and whose sequences and mappings nest at most
`depth` deep. -/
inductive Plain : Nat → Tree → Prop where
  | null {depth : Nat} : Plain depth .null
  | boolean {depth : Nat} (b : Bool) : Plain depth (.boolean b)
  | integer {depth : Nat} {n : Int} (h : Fits64 n) : Plain depth (.number (.integer n))
  | text {depth : Nat} (s : String) : Plain depth (.text s)
  | sequence {depth : Nat} {items : List Tree} (h : ∀ t ∈ items, Plain depth t) :
      Plain (depth + 1) (.sequence items)
  | mapping {depth : Nat} {fields : List (String × Tree)} (h : ∀ f ∈ fields, Plain depth f.2) :
      Plain (depth + 1) (.mapping fields)

variable {item : (s : List Char) → Step Tree s} {depth : Nat} {t : Tree}

/-! ## Compact form -/

theorem joins_writeItems {ts : List Tree} (hne : ts ≠ [])
    (h : ∀ t ∈ ts, Spells item (write t) t) : Joins item (writeItems ts) ts := by
  induction ts with
  | nil => exact absurd rfl hne
  | cons t ts ih =>
    obtain ⟨ht, hts⟩ := List.forall_mem_cons.mp h
    cases ts with
    | nil => simpa [writeItems] using Joins.last blanks_nil ht blanks_nil
    | cons u us =>
      have hj := Joins.cons blanks_nil ht blanks_nil (ih (List.cons_ne_nil u us) hts)
      simpa [writeItems] using hj

theorem joinsFields_writeFields {fs : List (String × Tree)} (hne : fs ≠ [])
    (h : ∀ f ∈ fs, Spells item (write f.2) f.2) : JoinsFields item (writeFields fs) fs := by
  induction fs with
  | nil => exact absurd rfl hne
  | cons f fs ih =>
    obtain ⟨name, t⟩ := f
    obtain ⟨ht, hfs⟩ := List.forall_mem_cons.mp h
    cases fs with
    | nil =>
      simpa [writeFields] using
        JoinsFields.last name blanks_nil blanks_nil ht blanks_nil
    | cons g gs =>
      have hj := JoinsFields.cons name blanks_nil blanks_nil ht blanks_nil
        (ih (List.cons_ne_nil g gs) hfs)
      simpa [writeFields] using hj

theorem spells_write (h : Plain depth t) (ht : t.Ordered) : Spells (value depth) (write t) t := by
  induction h with
  | null => exact spells_null
  | boolean b => exact spells_boolean b
  | integer h => exact spells_integer h
  | text s => exact spells_text s
  | @sequence depth items h ih =>
    by_cases hne : items = []
    · subst hne
      exact spells_emptyList blanks_nil
    · cases ht with
      | sequence hitems =>
        exact spells_list (joins_writeItems hne fun t ht => ih t ht (hitems t ht))
  | @mapping depth fields h ih =>
    by_cases hne : fields = []
    · subst hne
      exact spells_emptyObject blanks_nil
    · cases ht with
      | mapping hn hfields =>
        have hs := spells_object (joinsFields_writeFields hne fun f hf => ih f hf (hfields f hf))
        rwa [Tree.ofFields_of_ascending hn] at hs

/-! ## Pretty form -/

theorem blanks_newline (level : Nat) : Blanks (newline level) := by
  intro c hc
  rcases List.mem_cons.mp hc with rfl | hc
  · decide
  · rw [(List.mem_replicate.mp hc).2]
    decide

theorem joins_writePretty (level outer : Nat) {t : Tree} {ts : List Tree}
    (h : ∀ u ∈ t :: ts, Spells item (writePretty level u) u) :
    Joins item (newline level ++ (writePretty level t ++ (writePrettyItems level ts ++
      newline outer))) (t :: ts) := by
  induction ts generalizing t with
  | nil =>
    obtain ⟨ht, -⟩ := List.forall_mem_cons.mp h
    exact Joins.last (blanks_newline level) ht (blanks_newline outer)
  | cons u us ih =>
    obtain ⟨ht, hus⟩ := List.forall_mem_cons.mp h
    have hj := Joins.cons (blanks_newline level) ht blanks_nil (ih hus)
    simpa [writePrettyItems] using hj

theorem joinsFields_writePretty (level outer : Nat) {f : String × Tree}
    {fs : List (String × Tree)} (h : ∀ g ∈ f :: fs, Spells item (writePretty level g.2) g.2) :
    JoinsFields item (newline level ++ (writeText f.1 ++ ':' :: ' ' :: (writePretty level f.2 ++
      (writePrettyFields level fs ++ newline outer)))) (f :: fs) := by
  have hblank : Blanks [' '] := by simp [Blanks, isBlank]
  induction fs generalizing f with
  | nil =>
    obtain ⟨hf, -⟩ := List.forall_mem_cons.mp h
    exact JoinsFields.last f.1 (blanks_newline level) hblank hf (blanks_newline outer)
  | cons g gs ih =>
    obtain ⟨hf, hgs⟩ := List.forall_mem_cons.mp h
    have hj := JoinsFields.cons f.1 (blanks_newline level) hblank hf blanks_nil (ih hgs)
    simpa [writePrettyFields] using hj

/-- The fields are put in order. -/
theorem spells_writePretty_mapping (level : Nat) {fs : List (String × Tree)}
    (h : ∀ f ∈ fs, Spells (value depth) (writePretty (level + 1) f.2) f.2) :
    Spells (value (depth + 1)) (writePretty level (.mapping fs)) (Tree.ofFields fs) := by
  cases fs with
  | nil => exact spells_emptyObject blanks_nil
  | cons f fs =>
    have hs := spells_object (joinsFields_writePretty (level + 1) level h)
    simpa [writePretty] using hs

theorem spells_writePretty_sequence (level : Nat) {ts : List Tree}
    (h : ∀ t ∈ ts, Spells (value depth) (writePretty (level + 1) t) t) :
    Spells (value (depth + 1)) (writePretty level (.sequence ts)) (.sequence ts) := by
  cases ts with
  | nil => exact spells_emptyList blanks_nil
  | cons t ts =>
    have hs := spells_list (joins_writePretty (level + 1) level h)
    simpa [writePretty] using hs

theorem spells_writePretty (h : Plain depth t) (ht : t.Ordered) (level : Nat) :
    Spells (value depth) (writePretty level t) t := by
  induction h generalizing level with
  | null => exact spells_null
  | boolean b => exact spells_boolean b
  | integer h => exact spells_integer h
  | text s => exact spells_text s
  | sequence h ih =>
    cases ht with
    | sequence hitems =>
      exact spells_writePretty_sequence level fun t ht => ih t ht (hitems t ht) (level + 1)
  | mapping h ih =>
    cases ht with
    | mapping hn hfields =>
      have hs := spells_writePretty_mapping level fun f hf => ih f hf (hfields f hf) (level + 1)
      rwa [Tree.ofFields_of_ascending hn] at hs

/-! ## Equality -/

theorem eq_of_sameItems {xs ys : List Tree}
    (h : ∀ x ∈ xs, ∀ y, x.same y = true → x = y) (hs : Tree.sameItems xs ys = true) :
    xs = ys := by
  induction xs generalizing ys with
  | nil => cases ys <;> simp [Tree.sameItems] at hs ⊢
  | cons x xs ih =>
    obtain ⟨hx, hxs⟩ := List.forall_mem_cons.mp h
    cases ys with
    | nil => simp [Tree.sameItems] at hs
    | cons y ys =>
      rw [Tree.sameItems, Bool.and_eq_true] at hs
      rw [hx y hs.1, ih hxs hs.2]

theorem eq_of_sameFields {xs ys : List (String × Tree)}
    (h : ∀ x ∈ xs, ∀ y, x.2.same y = true → x.2 = y) (hs : Tree.sameFields xs ys = true) :
    xs = ys := by
  induction xs generalizing ys with
  | nil => cases ys <;> simp [Tree.sameFields] at hs ⊢
  | cons x xs ih =>
    obtain ⟨hx, hxs⟩ := List.forall_mem_cons.mp h
    cases ys with
    | nil => simp [Tree.sameFields] at hs
    | cons y ys =>
      obtain ⟨k, x⟩ := x
      obtain ⟨l, y⟩ := y
      simp only [Tree.sameFields, Bool.and_eq_true, beq_iff_eq] at hs
      obtain ⟨⟨rfl, hxy⟩, hrest⟩ := hs
      obtain rfl : x = y := hx y hxy
      rw [ih hxs hrest]

/-- Without floats, equality by value is equality. -/
theorem Plain.eq_of_same (h : Plain depth t) {u : Tree} (hs : t ≈ u) : t = u := by
  rw [← Tree.same_iff] at hs
  induction h generalizing u with
  | null | boolean | text => cases u <;> simp [Tree.same] at hs ⊢ <;> exact hs
  | integer h =>
    cases u with
    | number n =>
      cases n <;> simp [Tree.same, Number.same] at hs ⊢
      exact hs
    | _ => simp [Tree.same] at hs
  | sequence h ih =>
    cases u with
    | sequence ys => rw [eq_of_sameItems (fun x hx y hy => ih x hx hy) hs]
    | _ => simp [Tree.same] at hs
  | mapping h ih =>
    cases u with
    | mapping ys => rw [eq_of_sameFields (fun x hx y hy => ih x hx hy) hs]
    | _ => simp [Tree.same] at hs

theorem read_compact {t : OrderedTree} (h : Plain maxDepth t) : read (compact t) = .ok t.val :=
  read_of_spells (spells_write h t.property) blanks_nil (by simp [compact])

end AgentSpec.Json

namespace AgentSpec

open Json

/-- A value that is not a text is shown in its compact form, and a plain tree of at most 127 levels
is read back from that form, being in order. So two such values that are not texts are shown alike
only if they are equal. -/
theorem compact_round_trip :
    (∀ v : Tree, v.text? = none → v.render = compact v) ∧
    (∀ (v : OrderedTree) (origin : String),
      Plain 127 v → parse .json (compact v) origin = .ok v) ∧
    ∀ v w : OrderedTree, Plain 127 v → Plain 127 w → v.val.text? = none → w.val.text? = none →
      (v.val.render = w.val.render ↔ v.val ≈ w.val) := by
  have hrender : ∀ v : Tree, v.text? = none → v.render = compact v := by
    intro v hv
    cases v with
    | text s => cases hv
    | _ => rfl
  refine ⟨hrender, fun v origin hv => ?_, fun v w hv hw htv htw => ⟨fun h => ?_, fun h => ?_⟩⟩
  · exact parse_json_eq_ok_iff.mpr (read_compact hv)
  · rw [hrender v htv, hrender w htw] at h
    have hread := read_compact hv
    rw [h, read_compact hw] at hread
    obtain rfl : w = v := Subtype.ext (Except.ok.inj hread)
    exact Setoid.refl _
  · rw [hv.eq_of_same h]

/-- The least and the greatest integer, an escaped name, and a value that differs in the last digit
only. -/
theorem compact_round_trip_edges :
    let tree (n : Int) : Tree := .mapping [("\x01é", .sequence [
      .number (.integer (-9223372036854775808)), .number (.integer n)]), ("b", .mapping [])]
    let shown := "\x7b\"\\u0001é\":[-9223372036854775808,18446744073709551615],\"b\":\x7b\x7d\x7d"
    ∃ v w : OrderedTree, v.val = tree 18446744073709551615 ∧ w.val = tree 18446744073709551614 ∧
      Plain 127 v ∧ Plain 127 w ∧ v.val.text? = none ∧ w.val.text? = none ∧
      v.val.render = shown ∧ parse .json shown "api.json" = .ok v ∧
      v.val.render ≠ w.val.render := by
  intro tree shown
  have hplain : ∀ n, Fits64 n → Plain 127 (tree n) := by
    intro n hn
    have hitems : Plain 126 (.sequence [.number (.integer (-9223372036854775808)),
        .number (.integer n)]) :=
      .sequence (List.forall_mem_cons.mpr ⟨.integer (by decide),
        List.forall_mem_cons.mpr ⟨.integer hn, List.forall_mem_nil _⟩⟩)
    exact .mapping <| List.forall_mem_cons.mpr ⟨hitems, List.forall_mem_cons.mpr
      ⟨.mapping (List.forall_mem_nil _), List.forall_mem_nil _⟩⟩
  have hordered : ∀ n, (tree n).Ordered := by
    intro n
    have hnames : ["\x01é", "b"].Pairwise (· < ·) := by decide
    have hitems : Tree.Ordered (.sequence [.number (.integer (-9223372036854775808)),
        .number (.integer n)]) :=
      .sequence (List.forall_mem_cons.mpr ⟨.number _,
        List.forall_mem_cons.mpr ⟨.number _, List.forall_mem_nil _⟩⟩)
    exact .mapping hnames <| List.forall_mem_cons.mpr ⟨hitems, List.forall_mem_cons.mpr
      ⟨.mapping .nil (List.forall_mem_nil _), List.forall_mem_nil _⟩⟩
  let v : OrderedTree := ⟨tree 18446744073709551615, hordered _⟩
  let w : OrderedTree := ⟨tree 18446744073709551614, hordered _⟩
  have hv : Plain 127 v := hplain _ (by decide)
  have hw : Plain 127 w := hplain _ (by decide)
  obtain ⟨hrender, hread, hinjective⟩ := compact_round_trip
  have hshown : compact (tree 18446744073709551615) = shown := by decide +kernel
  have hdiffer : ¬ tree 18446744073709551615 ≈ tree 18446744073709551614 := by decide
  exact ⟨v, w, rfl, rfl, hv, hw, rfl, rfl, (hrender v rfl).trans hshown,
    hshown ▸ hread v "api.json" hv, fun h => hdiffer ((hinjective v w hv hw rfl rfl).mp h)⟩

end AgentSpec
