import AgentSpec.Proofs.Boundary
import AgentSpec.Proofs.Overrun

/-!
# Lines and columns of bytes

The bytes before an offset tell its line and its column: one more than the line feeds among them,
and one more than the bytes after the last of these. The span at that line and column is the span at
the offset, also where the offset is inside a character: `spanAt_eq_spanAtOffset`.
-/

namespace AgentSpec.Text

/-- The bytes of the UTF-8 form before the offset. -/
def bytesBefore (text : String) (n : Nat) : List UInt8 := text.toUTF8.data.toList.take n

def lineFeed : UInt8 := 0x0A

def lineAt (text : String) (n : Nat) : Nat := (bytesBefore text n).count lineFeed + 1

def columnAt (text : String) (n : Nat) : Nat :=
  ((bytesBefore text n).reverse.takeWhile (· != lineFeed)).length + 1

/-! ## Line feeds among bytes -/

theorem eq_ten_of_lineFeed {n : Nat} (hn : n < 256) (h : lineFeed = UInt8.ofNat n) : n = 10 := by
  have hvalue := congrArg UInt8.toNat h
  rw [UInt8.toNat_ofNat_of_lt' hn] at hvalue
  exact hvalue.symm

/-- A line feed is one byte, and no other character has that byte. -/
theorem lineFeed_mem_utf8EncodeChar {c : Char} :
    lineFeed ∈ String.utf8EncodeChar c ↔ c = '\n' := by
  constructor
  · intro h
    by_cases hv : c.val.toNat ≤ 127
    · simp only [String.utf8EncodeChar, if_pos hv, List.mem_singleton] at h
      exact Char.ext (UInt32.toNat_inj.mp (eq_ten_of_lineFeed (by omega) h))
    · -- All bytes of a longer form are above those of ASCII.
      have hlarge : ∀ n, 128 ≤ n → n < 256 → lineFeed ≠ UInt8.ofNat n := by
        intro n hge hlt he
        have := eq_ten_of_lineFeed hlt he
        omega
      simp only [String.utf8EncodeChar, if_neg hv] at h
      split at h
      · simp only [List.mem_cons, List.not_mem_nil, or_false] at h
        rcases h with h | h <;> exact absurd h (hlarge _ (by omega) (by omega))
      · split at h
        · simp only [List.mem_cons, List.not_mem_nil, or_false] at h
          rcases h with h | h | h <;> exact absurd h (hlarge _ (by omega) (by omega))
        · simp only [List.mem_cons, List.not_mem_nil, or_false] at h
          rcases h with h | h | h | h <;> exact absurd h (hlarge _ (by omega) (by omega))
  · rintro rfl
    decide

theorem data_utf8Encode (cs : List Char) :
    cs.utf8Encode.data.toList = cs.flatMap String.utf8EncodeChar :=
  List.toList_data_toByteArray

theorem count_lineFeed (cs : List Char) :
    (cs.flatMap String.utf8EncodeChar).count lineFeed = cs.count '\n' := by
  induction cs with
  | nil => rfl
  | cons c cs ih =>
    rw [List.flatMap_cons, List.count_append, ih]
    by_cases hc : c = '\n'
    · subst hc
      rw [List.count_cons_self, Nat.add_comm]
      rfl
    · have hnone : lineFeed ∉ String.utf8EncodeChar c :=
        fun h => hc (lineFeed_mem_utf8EncodeChar.mp h)
      rw [List.count_eq_zero_of_not_mem hnone, Nat.zero_add, List.count_cons_of_ne hc]

/-- Where a line feed stands among the bytes, one stands among the characters. -/
theorem exists_split_of_lineFeed {cs : List Char} {above below : List UInt8}
    (h : cs.flatMap String.utf8EncodeChar = above ++ lineFeed :: below) :
    ∃ before after, cs = before ++ '\n' :: after ∧
      before.flatMap String.utf8EncodeChar = above := by
  induction cs generalizing above with
  | nil => simp at h
  | cons c cs ih =>
    rw [List.flatMap_cons] at h
    rcases List.append_eq_append_iff.mp h with ⟨rest, rfl, hrest⟩ | ⟨rest, hc, hrest⟩
    · obtain ⟨before, after, rfl, rfl⟩ := ih hrest
      exact ⟨c :: before, after, rfl, rfl⟩
    · cases rest with
      | nil =>
        rw [List.append_nil] at hc
        have hnext : cs.flatMap String.utf8EncodeChar = [] ++ lineFeed :: below := hrest.symm
        obtain ⟨before, after, rfl, hbefore⟩ := ih hnext
        exact ⟨c :: before, after, rfl, by rw [List.flatMap_cons, hbefore, hc, List.append_nil]⟩
      | cons b rest =>
        obtain ⟨rfl, -⟩ := List.cons.inj hrest
        have hmem : lineFeed ∈ String.utf8EncodeChar c := by simp [hc]
        obtain rfl := lineFeed_mem_utf8EncodeChar.mp hmem
        have hone : (String.utf8EncodeChar '\n').length = 1 := rfl
        rw [hc, List.length_append, List.length_cons] at hone
        obtain rfl : above = [] := List.length_eq_zero_iff.mp (by omega)
        exact ⟨[], cs, rfl, rfl⟩

theorem length_flatMap_utf8EncodeChar (cs : List Char) :
    (cs.flatMap String.utf8EncodeChar).length = byteLength cs := by
  rw [← data_utf8Encode, Array.length_toList]
  exact size_utf8Encode cs

/-! ## The line of an offset -/

/-- What goes up to the last line feed among the bytes. -/
def completeLines (bytes : List UInt8) : List UInt8 :=
  (bytes.reverse.dropWhile (· != lineFeed)).reverse

theorem completeLines_append (bytes : List UInt8) :
    completeLines bytes ++ (bytes.reverse.takeWhile (· != lineFeed)).reverse = bytes := by
  rw [completeLines, ← List.reverse_append, List.takeWhile_append_dropWhile, List.reverse_reverse]

theorem completeLines_cases (bytes : List UInt8) :
    completeLines bytes = [] ∨ ∃ front, completeLines bytes = front ++ [lineFeed] := by
  have hhead := List.head?_dropWhile_not (· != lineFeed) bytes.reverse
  rw [completeLines]
  cases hd : bytes.reverse.dropWhile (· != lineFeed) with
  | nil => exact Or.inl rfl
  | cons b rest =>
    have hb : b = lineFeed := by simpa [hd] using hhead
    exact Or.inr ⟨rest.reverse, by rw [hb, List.reverse_cons]⟩

theorem count_completeLines (bytes : List UInt8) :
    (completeLines bytes).count lineFeed = bytes.count lineFeed := by
  have hnone : lineFeed ∉ (bytes.reverse.takeWhile (· != lineFeed)).reverse := by
    intro h
    have hother := List.all_eq_true.mp List.all_takeWhile lineFeed (List.mem_reverse.mp h)
    exact absurd hother (by decide)
  conv_rhs => rw [← completeLines_append bytes]
  rw [List.count_append, List.count_eq_zero_of_not_mem hnone, Nat.add_zero]

/-- The complete lines before an offset are those above its line. -/
theorem lineStartsAt_lineAt {text : String} {n : Nat} (h : n ≤ text.utf8ByteSize) :
    ∃ start, LineStartsAt text (lineAt text n) start ∧ start + (columnAt text n - 1) = n := by
  have hbytes : text.toUTF8.data.toList = text.toList.flatMap String.utf8EncodeChar := by
    rw [← data_utf8Encode, String.utf8Encode_toList]
    rfl
  have hlength : (bytesBefore text n).length = n := by
    rw [bytesBefore, List.length_take, hbytes, length_flatMap_utf8EncodeChar, byteLength_toList]
    omega
  have happend := completeLines_append (bytesBefore text n)
  have hall : text.toList.flatMap String.utf8EncodeChar = bytesBefore text n ++
      text.toUTF8.data.toList.drop n := by
    rw [← hbytes, bytesBefore, List.take_append_drop]
  -- The complete lines are those of the first characters.
  obtain ⟨lines, rest, htext, hlines, hends⟩ : ∃ lines rest, text.toList = lines ++ rest ∧
      lines.flatMap String.utf8EncodeChar = completeLines (bytesBefore text n) ∧
      EndsLine lines := by
    rcases completeLines_cases (bytesBefore text n) with hnil | ⟨front, hfront⟩
    · exact ⟨[], text.toList, rfl, hnil.symm, Or.inl rfl⟩
    · rw [← happend, hfront, List.append_assoc, List.append_assoc, List.singleton_append] at hall
      obtain ⟨before, after, htext, hbefore⟩ := exists_split_of_lineFeed hall
      refine ⟨before ++ ['\n'], after, by simp [htext], ?_, Or.inr (by simp)⟩
      rw [List.flatMap_append, hbefore, hfront]
      rfl
  refine ⟨byteLength lines, ⟨lines, rest, htext, rfl, ?_, hends⟩, ?_⟩
  · rw [lineAt, ← count_completeLines, ← hlines, count_lineFeed]
  · have hsum := congrArg List.length happend
    rw [List.length_append, List.length_reverse, ← hlines, length_flatMap_utf8EncodeChar,
      hlength] at hsum
    rw [columnAt, Nat.add_sub_cancel]
    exact hsum

/-- Any byte offset is told by its line and column. For a line and a column in general the span is
that at the start of the line, or at the end of a text without such a line, and as many bytes
further on as the column has before it. In both the offset must be a word: a larger one has no
span. -/
theorem spanAt_eq_spanAtOffset (text : String) :
    (∀ n, n ≤ text.utf8ByteSize → n < wordCount →
      spanAt text (lineAt text n) (columnAt text n) = some (spanAtOffset text n)) ∧
    ∀ line column start, LineOrEnd text (max line 1) start →
      start + (max column 1 - 1) < wordCount →
      spanAt text line column = some (spanAtOffset text (start + (max column 1 - 1))) := by
  have hgeneral : ∀ line column start, LineOrEnd text (max line 1) start →
      start + (max column 1 - 1) < wordCount →
      spanAt text line column = some (spanAtOffset text (start + (max column 1 - 1))) := by
    intro line column start hstart hword
    have hcolumn : max column 1 - 1 = column - 1 := by omega
    rw [hcolumn, lineOrEnd_iff.mp hstart] at hword ⊢
    exact spanAt_of_lt hword
  refine ⟨fun n hn hword => ?_, hgeneral⟩
  obtain ⟨start, hstart, hsum⟩ := lineStartsAt_lineAt hn
  have hline : max (lineAt text n) 1 = lineAt text n := Nat.max_eq_left (Nat.le_add_left 1 _)
  have hcolumn : max (columnAt text n) 1 = columnAt text n := Nat.max_eq_left (Nat.le_add_left 1 _)
  have h := hgeneral (lineAt text n) (columnAt text n) start (Or.inl (hline.symm ▸ hstart))
  rw [hcolumn, hsum] at h
  exact h hword

/-- The second byte of the character on the third line, and a ninth line that the text lacks. -/
theorem spanAt_eq_spanAtOffset_inside_character :
    let text := "é\n\n€a"
    5 ≤ text.utf8ByteSize ∧ 5 < wordCount ∧ lineAt text 5 = 3 ∧ columnAt text 5 = 2 ∧
      spanAt text 3 2 = some (spanAtOffset text 5) ∧ spanAtOffset text 5 = ⟨4, 3⟩ ∧
      LineOrEnd text (max 9 1) 8 ∧ 8 + (max 4 1 - 1) < wordCount ∧
      spanAt text 9 4 = some (spanAtOffset text 11) ∧ spanAtOffset text 11 = ⟨8, 0⟩ := by
  intro text
  have hsize : 5 ≤ text.utf8ByteSize := by decide +kernel
  have hword : 5 < wordCount := by decide +kernel
  have hline : lineAt text 5 = 3 := by decide +kernel
  have hcolumn : columnAt text 5 = 2 := by decide +kernel
  have hend : LineOrEnd text (max 9 1) 8 := lineOrEnd_iff.mpr (by decide +kernel)
  have hpast : 8 + (max 4 1 - 1) < wordCount := by decide +kernel
  obtain ⟨hback, hgeneral⟩ := spanAt_eq_spanAtOffset text
  have hspan := hback 5 hsize hword
  rw [hline, hcolumn] at hspan
  exact ⟨hsize, hword, hline, hcolumn, hspan, by decide +kernel, hend, hpast,
    hgeneral 9 4 8 hend hpast, by decide +kernel⟩

end AgentSpec.Text
