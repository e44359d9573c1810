import AgentSpec.Load
import AgentSpec.Proofs.Span

/-!
# Labels of JSON errors

A message on a text that is not JSON ends in a line and a column, and the error points at one span.
The span is the one that the line and the column name: `parse_json_label`.
-/

namespace AgentSpec.Json

/-- The words with which a message names a position. -/
def positionWords (line column : Nat) : String :=
  " at line " ++ toString line ++ " column " ++ toString column

/-! ## Reading a position back from a message -/

theorem not_blank_mem_digits (n : Nat) : ' ' ∉ (toString n).toList := by
  intro h
  have hd : ' ' ∈ Nat.toDigits 10 n := by simpa using h
  have : (' ').isDigit = true := Nat.isDigit_of_mem_toDigits (by decide) (by decide) hd
  exact absurd this (by decide)

/-- What follows the last blank of a text is told by the text. -/
theorem lastWord_inj {xs ys v w : List Char} (hv : ' ' ∉ v) (hw : ' ' ∉ w)
    (h : xs ++ ' ' :: v = ys ++ ' ' :: w) : xs = ys ∧ v = w := by
  rcases List.append_eq_append_iff.mp h with ⟨zs, rfl, hz⟩ | ⟨zs, rfl, hz⟩
  · cases zs with
    | nil => exact ⟨by simp, by simpa using hz⟩
    | cons z zs =>
      refine absurd ?_ hv
      rw [(List.cons.inj hz).2]
      simp
  · cases zs with
    | nil => exact ⟨by simp, by simpa using hz.symm⟩
    | cons z zs =>
      refine absurd ?_ hw
      rw [(List.cons.inj hz).2]
      simp

theorem toString_nat_inj {m n : Nat} (h : (toString m).toList = (toString n).toList) : m = n := by
  have hd : Nat.toDigits 10 m = Nat.toDigits 10 n := by
    simpa only [Nat.toString_eq_repr, Nat.toList_repr] using h
  have hv := congrArg (fun ds => Nat.ofDigitChars 10 ds 0) hd
  simpa using hv

/-- A message ends in one position only. -/
theorem position_of_suffix {message : List Char} {line column line' column' : Nat}
    (h : (positionWords line column).toList <:+ message)
    (h' : (positionWords line' column').toList <:+ message) : line = line' ∧ column = column' := by
  obtain ⟨xs, rfl⟩ := h
  obtain ⟨ys, hy⟩ := h'
  have hsplit : ∀ (zs : List Char) (l c : Nat), zs ++ (positionWords l c).toList =
      (((zs ++ " at line".toList) ++ ' ' :: (toString l).toList) ++ " column".toList) ++
        ' ' :: (toString c).toList := by
    intro zs l c
    simp [positionWords]
  rw [hsplit, hsplit] at hy
  obtain ⟨hl, hc⟩ := lastWord_inj (not_blank_mem_digits _) (not_blank_mem_digits _) hy
  obtain ⟨-, hl⟩ := lastWord_inj (not_blank_mem_digits _) (not_blank_mem_digits _)
    (List.append_cancel_right hl)
  exact ⟨(toString_nat_inj hl).symm, (toString_nat_inj hc).symm⟩

/-! ## The label of an error -/

/-- The place of an error is in the text or at its end. -/
theorem offset_le_of_read {text : String} {e : Error} (h : read text = .error e) :
    e.offset ≤ Text.byteLength text.toList := by
  unfold read at h
  dsimp only at h
  split at h
  · cases h
    exact Nat.sub_le _ _
  · split at h
    · cases h
    · cases h
      exact Nat.sub_le _ _

theorem Error.message_eq (f : Error) (text : String) :
    f.message text =
      f.cause.message ++ positionWords (f.position text).line (f.position text).column := by
  unfold Error.message positionWords
  simp only [String.append_assoc]

theorem positionWords_suffix (source : NamedText) (f : Error) :
    (positionWords (f.position source.text).line (f.position source.text).column).toList <:+
      (LoadError.json source f).message.toList := by
  have hm : (LoadError.json source f).message =
      "JSON parsing error: " ++ f.message source.text := rfl
  rw [hm, f.message_eq, ← String.append_assoc, String.toList_append]
  exact List.suffix_append _ _

end AgentSpec.Json

namespace AgentSpec

open Json Text

/-- A text that 64-bit offsets can address and that is not JSON is refused with a message that ends
in a line and a column, and with one label. The label begins on that line: with the character that
the named byte of the line belongs to, or where the column is zero with the line itself. It is
empty only at the end of the text. -/
theorem parse_json_label {text origin : String} {e : LoadError}
    (hsize : byteLength text.toList < wordCount) (h : parse .json text origin = .error e) :
    (∃ line column, (positionWords line column).toList <:+ e.message.toList) ∧
    ∀ line column, (positionWords line column).toList <:+ e.message.toList →
      ∃ s, e.label? = some s ∧ OnLine text s.offset line ∧
        (∃ start, LineStartsAt text line start ∧
          (column = 0 → s.offset = start) ∧
          (1 ≤ column → s.IsCharacter text ∧ s.offset ≤ start + (column - 1) ∧
            start + (column - 1) < s.offset + s.length)) ∧
        (s.length = 0 ↔ s.offset = byteLength text.toList) := by
  obtain ⟨f, hf, rfl⟩ := parse_json_eq_error_iff.mp h
  have hwords := positionWords_suffix ⟨origin, text⟩ f
  refine ⟨⟨_, _, hwords⟩, fun line column hm => ?_⟩
  obtain ⟨rfl, rfl⟩ := position_of_suffix hm hwords
  exact spanAt_byteColumn hsize (offset_le_of_read hf)

/-- The four bytes of the escape end inside a character, which is the one that the label covers. -/
theorem parse_json_label_escape :
    byteLength "[\n\"\\u12é\"]".toList < wordCount ∧
    ∃ e, parse .json "[\n\"\\u12é\"]" "api.json" = .error e ∧
      (positionWords 2 7).toList <:+ e.message.toList ∧ e.label? = some ⟨7, 2⟩ ∧
      OnLine "[\n\"\\u12é\"]" 7 2 ∧ Span.IsCharacter ⟨7, 2⟩ "[\n\"\\u12é\"]" := by
  have hsize : byteLength "[\n\"\\u12é\"]".toList < wordCount := by decide
  have hparse : parse .json "[\n\"\\u12é\"]" "api.json" =
      .error (.json ⟨"api.json", "[\n\"\\u12é\"]"⟩ ⟨.invalidEscape, 9⟩) := by decide +kernel
  have hposition : Json.Error.position ⟨.invalidEscape, 9⟩ "[\n\"\\u12é\"]" = ⟨2, 7⟩ := by
    decide +kernel
  have hwords := positionWords_suffix ⟨"api.json", "[\n\"\\u12é\"]"⟩ ⟨.invalidEscape, 9⟩
  rw [hposition] at hwords
  obtain ⟨-, hlabel⟩ := parse_json_label hsize hparse
  obtain ⟨s, hs, hline, ⟨_, -, -, hcharacter⟩, -⟩ := hlabel 2 7 hwords
  have hspan : Json.Error.label? ⟨.invalidEscape, 9⟩ "[\n\"\\u12é\"]" = some ⟨7, 2⟩ := by
    decide +kernel
  obtain rfl : ⟨7, 2⟩ = s := Option.some_inj.mp (hspan.symm.trans hs)
  exact ⟨hsize, _, hparse, hwords, hs, hline, (hcharacter (by decide)).1⟩

end AgentSpec
