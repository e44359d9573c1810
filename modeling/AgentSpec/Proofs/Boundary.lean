import AgentSpec.Proofs.Span

/-!
# Character boundaries

The span at an offset can be found from the bytes alone: step back from the offset until the text
may be cut, and decode the character that begins there. `spanBack?` does so; it has no result where
a step would go below zero or the text would be cut inside a character. `spanAtOffset_onBoundaries`
says that it always has one, which is the span that is computed by going over the characters, and
that this span is the one character around the offset.
-/

namespace AgentSpec.Text

/-- The text may be cut here: the bytes before the offset are themselves a text. -/
def IsBoundary (text : String) (n : Nat) : Prop := (String.Pos.Raw.mk n).IsValid text

/-- Whether the byte there is a first byte, or the text ends. -/
def isBoundary (text : String) (n : Nat) : Bool := (String.Pos.Raw.mk n).isValid text

/-- Boundaries with no further one between them. -/
def ConsecutiveBoundaries (text : String) (first next : Nat) : Prop :=
  IsBoundary text first ∧ IsBoundary text next ∧ first < next ∧
    ∀ n, IsBoundary text n → n ≤ first ∨ next ≤ n

/-- Step back to a boundary, one byte at a time. There is no step back from zero. -/
def stepBack? (text : String) : Nat → Option Nat
  | 0 => if isBoundary text 0 then some 0 else none
  | n + 1 => if isBoundary text (n + 1) then some (n + 1) else stepBack? text n

/-- The span of the character that begins there. A text is cut only at a boundary. -/
def spanFrom? (text : String) (start : Nat) : Option Span :=
  if start = text.utf8ByteSize then some ⟨start, 0⟩
  else if isBoundary text start then
    some ⟨start, ((text.toUTF8.utf8DecodeChar? start).map Char.utf8Size).getD 0⟩
  else none

def spanBack? (text : String) (offset : Nat) : Option Span :=
  (stepBack? text (min offset text.utf8ByteSize)).bind (spanFrom? text)

/-! ## Boundaries and characters -/

theorem byteLength_toList (text : String) : byteLength text.toList = text.utf8ByteSize := by
  have h : ∀ cs : List Char, byteLength cs = (String.ofList cs).utf8ByteSize := by
    intro cs
    induction cs with
    | nil => simp
    | cons c cs ih =>
      have hcons : String.ofList (c :: cs) = String.singleton c ++ String.ofList cs := by
        rw [String.singleton_eq_ofList, ← String.ofList_append]
        rfl
      rw [byteLength_cons, ih, hcons, String.utf8ByteSize_append, String.utf8ByteSize_singleton]
  rw [h, String.ofList_toList]

theorem isBoundary_eq_true_iff {text : String} {n : Nat} :
    isBoundary text n = true ↔ IsBoundary text n :=
  String.Pos.Raw.isValid_eq_true_iff

theorem isBoundary_iff {text : String} {n : Nat} :
    IsBoundary text n ↔ ∃ before after, text.toList = before ++ after ∧ byteLength before = n := by
  rw [IsBoundary, String.Pos.Raw.isValid_iff_exists_append]
  constructor
  · rintro ⟨before, after, rfl, hn⟩
    refine ⟨before.toList, after.toList, String.toList_append, ?_⟩
    rw [byteLength_toList]
    exact (congrArg String.Pos.Raw.byteIdx hn).symm
  · rintro ⟨before, after, htext, rfl⟩
    refine ⟨String.ofList before, String.ofList after, ?_, ?_⟩
    · rw [← String.ofList_append, ← htext, String.ofList_toList]
    · rw [← String.toList_ofList (l := before), byteLength_toList, String.ofList_toList]
      rfl

theorem isBoundary_size (text : String) : IsBoundary text text.utf8ByteSize :=
  isBoundary_iff.mpr ⟨text.toList, [], by simp, byteLength_toList text⟩

theorem le_size_of_boundary {text : String} {n : Nat} (h : IsBoundary text n) :
    n ≤ text.utf8ByteSize := by
  obtain ⟨before, after, htext, rfl⟩ := isBoundary_iff.mp h
  rw [← byteLength_toList, htext, byteLength_append]
  exact Nat.le_add_right _ _

/-- The text may be cut before each of its characters and after it, and not in between. -/
theorem consecutiveBoundaries_of_character {text : String} {before after : List Char} {c : Char}
    (h : text.toList = before ++ c :: after) :
    ConsecutiveBoundaries text (byteLength before) (byteLength before + c.utf8Size) := by
  have hpos := c.utf8Size_pos
  refine ⟨isBoundary_iff.mpr ⟨before, c :: after, h, rfl⟩,
    isBoundary_iff.mpr ⟨before ++ [c], after, by simp [h], by simp⟩, by omega, ?_⟩
  intro n hn
  obtain ⟨front, rest, hfront, rfl⟩ := isBoundary_iff.mp hn
  by_cases hlt : byteLength front < byteLength before + c.utf8Size
  · left
    -- What is shorter than the text up to the character's end is a part of what comes before it.
    have hpre : front <+: before ++ [c] :=
      prefix_of_byteLength_lt ⟨rest, hfront.symm⟩ ⟨after, by simp [h]⟩ (by simpa using hlt)
    rcases List.prefix_concat_iff.mp hpre with rfl | ⟨tail, rfl⟩
    · simp at hlt
    · simp
  · omega

/-! ## Bytes -/

theorem size_utf8Encode (cs : List Char) : cs.utf8Encode.size = byteLength cs := by
  rw [← String.toByteArray_ofList, String.size_toByteArray, ← byteLength_toList,
    String.toList_ofList]

/-- The bytes of a part of the text stand where the part does. -/
theorem extract_of_split {text : String} {before part after : List Char}
    (h : text.toList = before ++ (part ++ after)) :
    text.toUTF8.extract (byteLength before) (byteLength before + byteLength part) =
      part.utf8Encode := by
  have hbytes : text.toUTF8 = before.utf8Encode ++ (part.utf8Encode ++ after.utf8Encode) := by
    rw [← List.utf8Encode_append, ← List.utf8Encode_append, ← h, String.utf8Encode_toList]
    rfl
  rw [hbytes, ByteArray.extract_append, size_utf8Encode, Nat.sub_self, Nat.add_sub_cancel_left,
    ByteArray.extract_append_eq_left (size_utf8Encode part).symm]
  have hnone : before.utf8Encode.extract (byteLength before) (byteLength before + byteLength part)
      = ByteArray.empty := by
    rw [ByteArray.extract_eq_empty_iff, size_utf8Encode]
    omega
  rw [hnone, ByteArray.empty_append]

theorem decodeChar?_of_character {text : String} {before after : List Char} {c : Char}
    (h : text.toList = before ++ c :: after) :
    text.toUTF8.utf8DecodeChar? (byteLength before) = some c := by
  have hall : text.toList = before ++ (c :: after ++ []) := by rw [h, List.append_nil]
  have hsize : text.toUTF8.size = byteLength before + byteLength (c :: after) := by
    rw [← byteLength_append, ← h, byteLength_toList]
    rfl
  rw [ByteArray.utf8DecodeChar?_eq_utf8DecodeChar?_extract, hsize, extract_of_split hall,
    List.utf8DecodeChar?_utf8Encode_cons]

/-! ## Stepping back -/

/-- Stepping back ends at the last boundary that is not past the offset. -/
theorem stepBack?_eq_some {text : String} {n last : Nat} (hlast : IsBoundary text last)
    (hle : last ≤ n) (hno : ∀ m, IsBoundary text m → m ≤ last ∨ n < m) :
    stepBack? text n = some last := by
  induction n with
  | zero =>
    obtain rfl : last = 0 := Nat.le_zero.mp hle
    rw [stepBack?, if_pos (isBoundary_eq_true_iff.mpr hlast)]
  | succ n ih =>
    rw [stepBack?]
    by_cases hn : IsBoundary text (n + 1)
    · have heq : last = n + 1 := by
        rcases hno (n + 1) hn with h | h <;> omega
      rw [if_pos (isBoundary_eq_true_iff.mpr hn), heq]
    · have hne : last ≠ n + 1 := fun h => hn (h ▸ hlast)
      rw [if_neg fun h => hn (isBoundary_eq_true_iff.mp h)]
      refine ih (by omega) fun m hm => ?_
      rcases hno m hm with h | h <;> omega

/-- Stepping back and decoding finds the span that going over the characters finds. -/
theorem spanBack?_eq (text : String) (offset : Nat) :
    spanBack? text offset = some (spanAtOffset text offset) := by
  rcases spanAtOffset_cases text offset with
    ⟨hlt, ⟨before, c, after, hsplit, hs⟩, hle, hto⟩ | ⟨hge, hs⟩
  · rw [hs] at hle hto
    rw [byteLength_toList] at hlt
    have hsize : byteLength before ≠ text.utf8ByteSize := by
      dsimp only at hle
      omega
    obtain ⟨hfirst, -, -, hnone⟩ := consecutiveBoundaries_of_character hsplit
    have hback : stepBack? text (min offset text.utf8ByteSize) = some (byteLength before) := by
      rw [Nat.min_eq_left (Nat.le_of_lt hlt)]
      refine stepBack?_eq_some hfirst hle fun m hm => ?_
      exact (hnone m hm).imp_right (Nat.lt_of_lt_of_le hto)
    rw [spanBack?, hback, Option.bind_some, spanFrom?, if_neg hsize,
      if_pos (isBoundary_eq_true_iff.mpr hfirst), decodeChar?_of_character hsplit, hs]
    rfl
  · rw [byteLength_toList] at hge hs
    have hback : stepBack? text (min offset text.utf8ByteSize) = some text.utf8ByteSize := by
      rw [Nat.min_eq_right hge]
      exact stepBack?_eq_some (isBoundary_size text) (Nat.le_refl _) fun m hm =>
        Or.inl (le_size_of_boundary hm)
    rw [spanBack?, hback, Option.bind_some, spanFrom?, if_pos rfl, hs]

/-! ## The span at an offset -/

/-- The span begins at the last boundary that is not past the offset. -/
theorem le_offset_of_boundary {text : String} {m n : Nat} (hm : IsBoundary text m) (h : m ≤ n) :
    m ≤ (spanAtOffset text n).offset := by
  rcases spanAtOffset_cases text n with ⟨-, ⟨before, c, after, hsplit, hs⟩, -, hto⟩ | ⟨-, hs⟩
  · rw [hs] at hto ⊢
    obtain ⟨-, -, -, hnone⟩ := consecutiveBoundaries_of_character hsplit
    have hnext : ¬ byteLength before + c.utf8Size ≤ m := by
      dsimp only at hto
      omega
    exact (hnone m hm).resolve_right hnext
  · rw [hs, byteLength_toList]
    exact le_size_of_boundary hm

/-- The span at the first byte of a character is that of the character. -/
theorem spanAtOffset_of_split {text : String} {before after : List Char} {c : Char}
    (h : text.toList = before ++ c :: after) :
    spanAtOffset text (byteLength before) = ⟨byteLength before, c.utf8Size⟩ := by
  rw [spanAtOffset, h, covering_append, covering, if_pos c.utf8Size_pos, Nat.zero_add]

/-- The span at an offset is found by stepping back, which never goes below zero, and by decoding
one character. It is empty at or past the end, and there only; before it the bytes of the span are
those of the one character around the offset. The span at its own offset is the same, and a larger
offset has no earlier one. -/
theorem spanAtOffset_onBoundaries (text : String) (offset : Nat) :
    let s := spanAtOffset text offset
    spanBack? text offset = some s ∧
    (text.utf8ByteSize ≤ offset ∧ s = ⟨text.utf8ByteSize, 0⟩ ∨
      offset < text.utf8ByteSize ∧
        ConsecutiveBoundaries text s.offset (s.offset + s.length) ∧
        (∃ c : Char, text.toUTF8.extract s.offset (s.offset + s.length) = [c].utf8Encode) ∧
        s.offset ≤ offset ∧ offset < s.offset + s.length) ∧
    spanAtOffset text s.offset = s ∧
    ∀ further, s.offset ≤ (spanAtOffset text (offset + further)).offset := by
  intro s
  refine ⟨spanBack?_eq text offset, ?_⟩
  rcases spanAtOffset_cases text offset with
    ⟨hlt, ⟨before, c, after, hsplit, hs⟩, hle, hto⟩ | ⟨hge, hs⟩
  · have hs' : s = ⟨byteLength before, c.utf8Size⟩ := hs
    have hconsecutive := consecutiveBoundaries_of_character hsplit
    rw [hs] at hle hto
    rw [byteLength_toList] at hlt
    rw [hs']
    refine ⟨Or.inr ⟨hlt, hconsecutive, ⟨c, ?_⟩, hle, hto⟩, ?_, fun further => ?_⟩
    · have hbytes := extract_of_split (show text.toList = before ++ ([c] ++ after) from hsplit)
      rwa [byteLength_cons, byteLength_nil, Nat.add_zero] at hbytes
    · exact spanAtOffset_of_split hsplit
    · exact le_offset_of_boundary hconsecutive.1 (Nat.le_add_right_of_le hle)
  · have hs' : s = ⟨byteLength text.toList, 0⟩ := hs
    rw [hs']
    rw [byteLength_toList] at hge
    refine ⟨Or.inl ⟨hge, by rw [byteLength_toList]⟩, spanAtOffset_end text, fun further => ?_⟩
    rw [byteLength_toList]
    exact le_offset_of_boundary (isBoundary_size text) (Nat.le_add_right_of_le hge)

end AgentSpec.Text
