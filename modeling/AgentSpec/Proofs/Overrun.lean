import AgentSpec.Proofs.Span

/-!
# Places past the end

The place of a line and a column is the start of the line and the bytes of the column before it.
At or past the end of the text it is meant to give the empty span there. The sum is one of 64-bit
words, and `spanAt_past_end` says when the span is the one that is meant: exactly when the sum is
itself a word. For a larger sum the addition fails, as in `spanAt_past_end_fails`.
-/

namespace AgentSpec.Text

/-- Where the columns of a line count from: its start, or the end of a text without such a line. -/
def LineOrEnd (text : String) (line start : Nat) : Prop :=
  LineStartsAt text line start ∨
    (∀ n, ¬ LineStartsAt text line n) ∧ start = byteLength text.toList

/-- The bytes before a line are those up to the line feed it follows, or all of them where there
are too few line feeds. -/
theorem bytesBeforeLine_cases (cs : List Char) (n : Nat) :
    (∃ above below, cs = above ++ below ∧ EndsLine above ∧ above.count '\n' = n ∧
      bytesBeforeLine cs n = byteLength above) ∨
    cs.count '\n' < n ∧ bytesBeforeLine cs n = byteLength cs := by
  induction cs generalizing n with
  | nil =>
    cases n with
    | zero => exact Or.inl ⟨[], [], rfl, Or.inl rfl, rfl, rfl⟩
    | succ n => exact Or.inr ⟨Nat.succ_pos n, rfl⟩
  | cons c cs ih =>
    cases n with
    | zero => exact Or.inl ⟨[], c :: cs, rfl, Or.inl rfl, rfl, rfl⟩
    | succ n =>
      rw [bytesBeforeLine]
      by_cases hc : c = '\n'
      · subst hc
        rw [if_pos rfl]
        rcases ih n with ⟨above, below, rfl, hends, hcount, he⟩ | ⟨hfew, he⟩
        · refine Or.inl ⟨'\n' :: above, below, rfl, hends.cons fun _ => rfl, ?_, ?_⟩
          · rw [List.count_cons_self, hcount]
          · rw [he, byteLength_cons]
        · refine Or.inr ⟨?_, ?_⟩
          · rw [List.count_cons_self]
            omega
          · rw [he, byteLength_cons]
      · rw [if_neg hc]
        rcases ih (n + 1) with ⟨above, below, rfl, hends, hcount, he⟩ | ⟨hfew, he⟩
        · -- With a line feed among them the characters above are not empty.
          have hne : above ≠ [] := by
            rintro rfl
            exact absurd hcount (Nat.succ_ne_zero n).symm
          refine Or.inl ⟨c :: above, below, rfl, hends.cons fun h => absurd h hne, ?_, ?_⟩
          · rw [List.count_cons_of_ne hc, hcount]
          · rw [he, byteLength_cons]
        · refine Or.inr ⟨?_, ?_⟩
          · rw [List.count_cons_of_ne hc]
            exact hfew
          · rw [he, byteLength_cons]

/-- The start that is computed is the one that is described, with line zero as the first. -/
theorem lineOrEnd_iff {text : String} {line start : Nat} :
    LineOrEnd text (max line 1) start ↔ start = lineStart text line := by
  have hline : max line 1 = line - 1 + 1 := by omega
  -- A described start is the computed one, since the line feeds above it are counted off.
  have hunique : ∀ n, LineStartsAt text (max line 1) n → n = lineStart text line := by
    rintro n ⟨above, below, htext, hn, hcount, hends⟩
    have habove : above.count '\n' = line - 1 := by omega
    rw [lineStart, htext, ← habove, bytesBeforeLine_of_endsLine below hends, hn]
  rcases bytesBeforeLine_cases text.toList (line - 1) with
    ⟨above, below, htext, hends, hcount, he⟩ | ⟨hfew, he⟩
  · have hstarts : LineStartsAt text (max line 1) (lineStart text line) :=
      ⟨above, below, htext, he.symm, by omega, hends⟩
    constructor
    · rintro (h | ⟨hnone, -⟩)
      · exact hunique start h
      · exact absurd hstarts (hnone _)
    · rintro rfl
      exact Or.inl hstarts
  · have hnone : ∀ n, ¬ LineStartsAt text (max line 1) n := by
      rintro n ⟨above, below, htext, -, hcount, -⟩
      rw [htext, List.count_append] at hfew
      omega
    constructor
    · rintro (h | ⟨-, h⟩)
      · exact absurd h (hnone start)
      · rw [h, lineStart, he]
    · rintro rfl
      exact Or.inr ⟨hnone, he⟩

theorem lineStart_le (text : String) (line : Nat) :
    lineStart text line ≤ byteLength text.toList := by
  rcases bytesBeforeLine_cases text.toList (line - 1) with ⟨above, below, htext, -, -, he⟩ | ⟨-, he⟩
  · rw [lineStart, he, htext, byteLength_append]
    exact Nat.le_add_right _ _
  · exact Nat.le_of_eq he

/-- A place at or past the end gives the empty span at the end exactly when it is a 64-bit word, as
it is for every column up to half of the words. Any other place has no span at all. -/
theorem spanAt_past_end {text : String} {line column start : Nat}
    (hsize : byteLength text.toList < twoTo 63)
    (hstart : LineOrEnd text (max line 1) start)
    (hpast : byteLength text.toList ≤ start + (max column 1 - 1)) :
    let place := start + (max column 1 - 1)
    (spanAt text line column = some ⟨byteLength text.toList, 0⟩ ↔ place < wordCount) ∧
      (column ≤ twoTo 63 → place < wordCount) ∧
      (spanAt text line column = none ↔ wordCount ≤ place) := by
  intro place
  have hplace : lineStart text line + (column - 1) = place := by
    rw [← lineOrEnd_iff.mp hstart]
    show _ = start + (max column 1 - 1)
    omega
  have hnone : spanAt text line column = none ↔ wordCount ≤ place := by
    rw [spanAt_eq_none_iff, hplace]
  have hsome : place < wordCount → spanAt text line column = some ⟨byteLength text.toList, 0⟩ := by
    intro hfits
    have hspan : spanAt text line column = some (spanAtOffset text place) := by
      rw [← hplace] at hfits ⊢
      exact spanAt_of_lt hfits
    rcases spanAtOffset_cases text place with ⟨hlt, -⟩ | ⟨-, hend⟩
    · exact absurd hpast (Nat.not_le.mpr hlt)
    · rw [hspan, hend]
  refine ⟨⟨fun h => ?_, hsome⟩, fun hcolumn => ?_, hnone⟩
  · by_contra hlarge
    rw [hnone.mpr (Nat.not_lt.mp hlarge)] at h
    cases h
  · have hword : wordCount = 18446744073709551616 := rfl
    have hhalf : twoTo 63 = 9223372036854775808 := rfl
    have hle := lineStart_le text line
    omega

/-- A column at half of the words, on a third line that the text does not have. -/
theorem spanAt_past_end_no_line :
    let text := "ab\nc"
    byteLength text.toList < twoTo 63 ∧ LineOrEnd text (max 3 1) 4 ∧
      byteLength text.toList ≤ 4 + (max (twoTo 63) 1 - 1) ∧
      spanAt text 3 (twoTo 63) = some ⟨byteLength text.toList, 0⟩ := by
  intro text
  have hsize : byteLength text.toList < twoTo 63 := by decide +kernel
  have hstart : LineOrEnd text (max 3 1) 4 := lineOrEnd_iff.mpr (by decide +kernel)
  have hpast : byteLength text.toList ≤ 4 + (max (twoTo 63) 1 - 1) := by decide +kernel
  have h := spanAt_past_end hsize hstart hpast
  exact ⟨hsize, hstart, hpast, h.1.mpr (h.2.1 (Nat.le_refl _))⟩

/-- On the second line the last column of all is past the end, but it is two further than offsets
go: there is no span, let alone the empty one at the end. -/
theorem spanAt_past_end_fails :
    let text := "ab\nc"
    let column := wordCount - 1
    let place := 3 + (max column 1 - 1)
    byteLength text.toList < twoTo 63 ∧ column < wordCount ∧ LineOrEnd text (max 2 1) 3 ∧
      byteLength text.toList ≤ place ∧ ¬ place < wordCount ∧ spanAt text 2 column = none ∧
      spanAt text 2 column ≠ some ⟨byteLength text.toList, 0⟩ := by
  refine ⟨by decide +kernel, by decide +kernel, lineOrEnd_iff.mpr (by decide +kernel),
    by decide +kernel, by decide +kernel, by decide +kernel, by decide +kernel⟩

end AgentSpec.Text
