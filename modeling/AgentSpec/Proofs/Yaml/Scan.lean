import AgentSpec.Proofs.Meets
import AgentSpec.Proofs.Span
import AgentSpec.Yaml.Token.Written

/-!
# Readings keep track of the text

A cursor `Tracks` a text when what is left of it begins at the offset of the cursor, and its line
and column are those that the text has at this offset. Every movement keeps track, and so does every
reading of a token: `Beginning.tracks_read`. A reading that is refused names a place before the end
of the stream.
-/

namespace AgentSpec.Yaml

open Text (byteLength isLineBreak)

/-! ## Characters in a line -/

def lineBreaks : List Char := ['\n', '\r', '\x85', '\u2028', '\u2029']

theorem isLineBreak_of_not_mem {ch : Char} (h : ch ∉ lineBreaks) : isLineBreak ch = false := by
  rw [← Bool.not_eq_true]
  intro hb
  exact h (by simpa [lineBreaks, isLineBreak, or_assoc] using hb)

/-- A character of one byte that breaks no line. -/
def IsSingle (ch : Char) : Prop := ch.utf8Size = 1 ∧ isLineBreak ch = false

instance (ch : Char) : Decidable (IsSingle ch) :=
  inferInstanceAs (Decidable (_ ∧ _))

def AreSingle (cs : List Char) : Prop := ∀ ch ∈ cs, IsSingle ch

-- Without this instance, all characters there are would be tried.
instance (cs : List Char) : Decidable (AreSingle cs) := List.decidableBAll IsSingle cs

theorem byteLength_of_single {cs : List Char} (h : AreSingle cs) :
    byteLength cs = cs.length := by
  induction cs with
  | nil => rfl
  | cons c cs ih =>
    rw [Text.byteLength_cons, ih fun ch hch => h ch (List.mem_cons_of_mem c hch),
      (h c List.mem_cons_self).1, List.length_cons, Nat.add_comm]

theorem single_of_between {a b ch : Char} (h : a ≤ ch ∧ ch ≤ b) (ha : ' ' ≤ a) (hb : b ≤ '~') :
    IsSingle ch := by
  have hl : ' ' ≤ ch := Char.le_trans ha h.1
  have hu : ch ≤ '~' := Char.le_trans h.2 hb
  refine ⟨?_, ?_⟩
  · rw [Char.utf8Size_eq_one_iff]
    exact UInt32.le_trans hu (by decide)
  · refine isLineBreak_of_not_mem fun hmem => ?_
    have hnone : lineBreaks.any (fun b => ' ' ≤ b ∧ b ≤ '~') = false := by decide
    exact List.any_eq_false.mp hnone ch hmem (decide_eq_true ⟨hl, hu⟩)

theorem single_of_isDecimal {ch : Char} (h : isDecimal ch = true) : IsSingle ch := by
  simp only [isDecimal, Bool.and_eq_true, decide_eq_true_eq] at h
  exact single_of_between h (by decide) (by decide)

theorem single_of_hexValue? {ch : Char} {n : Nat} (h : Text.hexValue? ch = some n) :
    IsSingle ch := by
  unfold Text.hexValue? at h
  split at h
  · rename_i hd
    exact single_of_between hd (by decide) (by decide)
  · split at h
    · rename_i hd
      exact single_of_between hd (by decide) (by decide)
    · split at h
      · rename_i hd
        exact single_of_between hd (by decide) (by decide)
      · cases h

theorem single_of_isWordChar {ch : Char} (h : isWordChar ch = true) : IsSingle ch := by
  simp only [isWordChar, Bool.or_eq_true, Bool.and_eq_true, decide_eq_true_eq, beq_iff_eq] at h
  rcases h with (((h | h) | h) | rfl) | rfl
  · exact single_of_between h (by decide) (by decide)
  · exact single_of_between h (by decide) (by decide)
  · exact single_of_between h (by decide) (by decide)
  · decide
  · decide

theorem single_of_isUriChar {verbatim : Bool} {ch : Char} (h : isUriChar verbatim ch = true) :
    IsSingle ch := by
  have hcommon : AreSingle ";/?:@&=+$.%!~*'()".toList := by decide
  have hverbatim : AreSingle ",[]".toList := by decide
  simp only [isUriChar, Bool.or_eq_true, Bool.and_eq_true, List.contains_iff_mem] at h
  rcases h with (h | h) | ⟨-, h⟩
  · exact single_of_isWordChar h
  · exact hcommon ch h
  · exact hverbatim ch h

/-- A class that holds no line break. -/
def NoBreaks (p : Char → Bool) : Prop := ∀ ch, p ch = true → isLineBreak ch = false

theorem noBreaks_of_lineBreaks {p : Char → Bool} (h : lineBreaks.any p = false) : NoBreaks p :=
  fun ch hp => isLineBreak_of_not_mem fun hmem => List.any_eq_false.mp h ch hmem hp

theorem noBreaks_isBlank : NoBreaks isBlank := noBreaks_of_lineBreaks (by decide)

theorem noBreaks_isWordChar : NoBreaks isWordChar := fun _ h => (single_of_isWordChar h).2

theorem noBreaks_isDecimal : NoBreaks isDecimal := fun _ h => (single_of_isDecimal h).2

theorem noBreaks_isUriChar (verbatim : Bool) : NoBreaks (isUriChar verbatim) :=
  fun _ h => (single_of_isUriChar h).2

theorem noBreaks_restOfLine : NoBreaks fun ch => !isLineBreak ch := by
  intro ch h
  simpa using h

/-! ## Cursors -/

namespace Cursor

variable {source : String} {c d : Cursor}

/-- What is left of the text begins at the offset of the cursor. -/
def Within (source : String) (c : Cursor) : Prop :=
  ∃ before, source.toList = before ++ c.rest ∧ byteLength before = c.offset

theorem Within.offset_of_end (h : c.Within source) (hr : c.rest = []) :
    c.offset = byteLength source.toList := by
  obtain ⟨before, hsplit, hoffset⟩ := h
  rw [hsplit, hr, List.append_nil, hoffset]

/-- The line and column that the cursor carries are those of the text at its offset. -/
structure Tracks (source : String) (c : Cursor) : Prop where
  within : c.Within source
  position : Text.characterColumn source c.offset = ⟨c.line + 1, c.column⟩

theorem tracks_ofText (source : String) : (ofText source).Tracks source :=
  ⟨⟨[], rfl, rfl⟩, Text.afterCharacters_zero _ _⟩

/-- A movement has to count the characters that it passes as the text does. -/
theorem Tracks.move (h : c.Tracks source) {run : List Char} (hr : c.rest = run ++ d.rest)
    (ho : d.offset = c.offset + byteLength run)
    (hp : Text.Position.afterCharacters ⟨c.line + 1, c.column⟩ c.rest (byteLength run) =
      ⟨d.line + 1, d.column⟩) : d.Tracks source := by
  obtain ⟨⟨before, hsplit, hoffset⟩, hposition⟩ := h
  refine ⟨⟨before ++ run, ?_, ?_⟩, ?_⟩
  · rw [hsplit, hr, List.append_assoc]
  · rw [Text.byteLength_append, hoffset, ho]
  · rw [Text.characterColumn, hsplit, ← hoffset] at hposition
    rw [Text.characterColumn, ho, hsplit, ← hoffset, Text.afterCharacters_append, hposition, hp]

/-- A movement inside a line. -/
theorem Tracks.along (h : c.Tracks source) {run r : List Char} (hr : c.rest = run ++ r)
    (hb : ∀ ch ∈ run, isLineBreak ch = false) :
    Tracks source ⟨r, c.offset + byteLength run, c.line, c.column + run.length⟩ :=
  h.move hr rfl (by rw [hr, Text.afterCharacters_run _ hb])

theorem Tracks.next? (h : c.Tracks source) {ch : Char} (hb : isLineBreak ch = false)
    (hn : c.next? = some (ch, d)) : d.Tracks source := by
  unfold Cursor.next? at hn
  split at hn
  · cases hn
  · rename_i hr
    cases hn
    exact h.along (show c.rest = [ch] ++ _ from hr) (by simpa using hb)

theorem next?_eq_of_peek? {first ch : Char} (hp : c.peek? = some first)
    (hn : c.next? = some (ch, d)) : first = ch := by
  obtain ⟨r, hr⟩ := List.head?_eq_some_iff.mp hp
  rw [Cursor.next?, hr] at hn
  cases hn
  rfl

theorem isLineBreak_of_next? (hb : c.lineBreak? = none) {ch : Char}
    (hn : c.next? = some (ch, d)) : isLineBreak ch = false := by
  unfold Cursor.next? at hn
  split at hn
  · cases hn
  · rename_i hr
    cases hn
    unfold Cursor.lineBreak? at hb
    split at hb
    · cases hb
    · rename_i hr'
      rw [hr] at hr'
      cases hr'
      split at hb
      · cases hb
      · rename_i hn
        exact Bool.not_eq_true _ ▸ hn
    · rename_i hr'
      rw [hr] at hr'
      cases hr'

/-- The next character, where it is not taken for a line break. -/
theorem Tracks.next_of_noBreak (h : c.Tracks source) (hb : c.lineBreak? = none) {ch : Char}
    (hn : c.next? = some (ch, d)) : d.Tracks source := h.next? (isLineBreak_of_next? hb hn) hn

theorem lineBreak?_of_end (hn : c.next? = none) : c.lineBreak? = none := by
  rw [Cursor.lineBreak?, rest_eq_nil_of_next? hn]

/-- A carriage return and the line feed after it are passed at once, and any other break alone. -/
theorem Tracks.lineBreak? (h : c.Tracks source) {ch : Char} (hb : c.lineBreak? = some (ch, d)) :
    d.Tracks source := by
  unfold Cursor.lineBreak? at hb
  split at hb
  · rename_i r hr
    cases hb
    refine h.move (show c.rest = ['\r', '\n'] ++ r from hr) rfl ?_
    rw [hr]
    show Text.Position.afterCharacters _ _ (('\r').utf8Size + (('\n').utf8Size + 0)) = _
    rw [Text.afterCharacters_past, Text.afterCharacters_past, Text.afterCharacters_zero]
    rfl
  · rename_i first r hpair hr
    split at hb
    · rename_i hbreak
      cases hb
      refine h.move (show c.rest = [first] ++ r from hr) rfl ?_
      rw [hr]
      show Text.Position.afterCharacters _ _ (first.utf8Size + 0) = _
      rw [Text.afterCharacters_past, Text.afterCharacters_zero, Text.Position.past, if_neg,
        if_pos hbreak]
      rintro ⟨rfl, hhead⟩
      obtain ⟨r', rfl⟩ := List.head?_eq_some_iff.mp hhead
      exact hpair r' rfl rfl
    · cases hb
  · cases hb

theorem Tracks.span (h : c.Tracks source) {p : Char → Bool} (hp : NoBreaks p) :
    (c.span p).2.Tracks source :=
  h.along List.takeWhile_append_dropWhile.symm fun ch hch =>
    hp ch (List.all_eq_true.mp List.all_takeWhile ch hch)

theorem Tracks.skip (h : c.Tracks source) {p : Char → Bool} (hp : NoBreaks p) :
    (c.skip p).Tracks source := h.span hp

theorem Tracks.skipBlanks (h : c.Tracks source) : c.skipBlanks.Tracks source :=
  h.skip noBreaks_isBlank

theorem Tracks.skipComment (h : c.Tracks source) : c.skipComment.Tracks source := by
  unfold Cursor.skipComment
  split
  · exact h.skip noBreaks_restOfLine
  · exact h

theorem Tracks.skipLineBreak (h : c.Tracks source) : c.skipLineBreak.Tracks source := by
  unfold Cursor.skipLineBreak
  split
  · rename_i hb
    exact h.lineBreak? hb
  · exact h

/-- Passing `n` characters moves on by `n` bytes only if each of them is one byte. -/
theorem Tracks.advance (h : c.Tracks source) {cs r : List Char} (hr : c.rest = cs ++ r)
    (hs : AreSingle cs) : (c.advance cs.length).Tracks source := by
  have hlong := h.along hr fun ch hch => (hs ch hch).2
  rw [byteLength_of_single hs] at hlong
  rwa [Cursor.advance, hr, List.drop_left]

/-- Inside a run of characters of one byte. -/
theorem Tracks.advance_span (h : c.Tracks source) {p : Char → Bool}
    (hp : ∀ ch, p ch = true → IsSingle ch) {n : Nat} (hn : n ≤ (c.span p).1.length) :
    (c.advance n).Tracks source := by
  have hr : c.rest = (c.rest.takeWhile p).take n ++
      ((c.rest.takeWhile p).drop n ++ c.rest.dropWhile p) := by
    rw [← List.append_assoc, List.take_append_drop, List.takeWhile_append_dropWhile]
  have hc := h.advance hr fun ch hch =>
    hp ch (List.all_eq_true.mp List.all_takeWhile ch (List.mem_of_mem_take hch))
  rwa [show ((c.rest.takeWhile p).take n).length = n from List.length_take_of_le hn] at hc

theorem Tracks.advance_one (h : c.Tracks source) {ch : Char} (hp : c.peek? = some ch)
    (hs : IsSingle ch) : (c.advance 1).Tracks source := by
  obtain ⟨r, hr⟩ := List.head?_eq_some_iff.mp hp
  exact h.advance (show c.rest = [ch] ++ r from hr) (List.forall_mem_singleton.mpr hs)

end Cursor

/-! ## Readings -/

open Cursor

/-- The place of a cursor that keeps track of the text. -/
def Place.Tracked (source : String) (p : Place) : Prop :=
  ∃ c : Cursor, c.Tracks source ∧ c.place = p

theorem Cursor.Tracks.place {source : String} {c : Cursor} (h : c.Tracks source) :
    c.place.Tracked source := ⟨c, h, rfl⟩

/-- A reading that succeeds keeps track of the text, and so does the cursor where one is refused. -/
abbrev KeepsTrack (source : String) {α : Type} (x : Except Flaw (α × Cursor)) : Prop :=
  Meets (fun f => f.place.Tracked source) (fun r => r.2.Tracks source) x

theorem KeepsTrack.bind {source : String} {α β : Type} {x : Except Flaw (α × Cursor)}
    {g : α × Cursor → Except Flaw (β × Cursor)} (hx : KeepsTrack source x)
    (hg : ∀ a d, d.Tracks source → KeepsTrack source (g (a, d))) : KeepsTrack source (x >>= g) :=
  Meets.bind hx fun r hr => hg r.1 r.2 hr

/-! ## Tags and directives -/

section

variable {source : String} {c : Cursor}

theorem TagName.tracks_uri (activity : Activity) (verbatim mayBeEmpty : Bool) (start : Place)
    (h : c.Tracks source) : KeepsTrack source (uri activity verbatim mayBeEmpty start c) := by
  have hd := h.span (noBreaks_isUriChar verbatim)
  unfold uri
  dsimp only
  repeat' split
  · exact .error (h.advance_span (fun _ => single_of_isUriChar) (Nat.sub_le _ _)).place
  · exact .error hd.place
  · exact .ok hd

theorem TagName.tracks_handleAt (activity : Activity) (start : Place) (h : c.Tracks source) :
    KeepsTrack source (handleAt activity start c) := by
  unfold handleAt
  split
  · exact .error h.place
  · rename_i hp
    have hc : (c.advance 1).Tracks source := h.advance_one (not_not.mp hp) (by decide)
    dsimp only
    split
    · rename_i hd
      exact .ok ((hc.span noBreaks_isWordChar).advance_one hd (by decide))
    · exact .ok (hc.span noBreaks_isWordChar)

theorem TagName.tracks_verbatim (h : c.Tracks source) (hp : c.peek? = some '!')
    (hq : c.peekAt? 1 = some '<') : KeepsTrack source (verbatim c) := by
  obtain ⟨r, hr⟩ := List.head?_eq_some_iff.mp hp
  obtain ⟨r', hr'⟩ : ∃ r', r = '<' :: r' := by
    rw [peekAt?, hr] at hq
    exact List.head?_eq_some_iff.mp (by simpa using hq)
  have hc : (c.advance 2).Tracks source :=
    h.advance (show c.rest = ['!', '<'] ++ r' by rw [hr, hr']; rfl) (by decide)
  refine (tracks_uri _ _ _ _ hc).bind fun s d hd => ?_
  dsimp only
  split
  · exact .error hd.place
  · rename_i hgt
    exact .ok (hd.advance_one (not_not.mp hgt) (by decide))

theorem TagName.tracks_shorthand (h : c.Tracks source) : KeepsTrack source (shorthand c) := by
  refine (tracks_handleAt _ _ h).bind fun t d hd => ?_
  dsimp only
  split
  · exact (tracks_uri _ _ _ _ hd).bind fun s e he => .ok he
  · refine (tracks_uri _ _ _ _ hd).bind fun s e he => ?_
    dsimp only
    split
    · exact .ok he
    · exact .ok he

theorem TagName.tracks_scan (flow : Bool) (h : c.Tracks source) (hp : c.peek? = some '!') :
    KeepsTrack source (scan flow c) := by
  have hw : KeepsTrack source (written c) := by
    unfold written
    split
    · rename_i hq
      exact tracks_verbatim h hp hq
    · exact tracks_shorthand h
  refine hw.bind fun t d hd => ?_
  dsimp only
  split
  · exact .ok hd
  · exact .error hd.place

theorem Directive.tracks_name (start : Place) (h : c.Tracks source) :
    KeepsTrack source (name start c) := by
  have hd := h.span noBreaks_isWordChar
  unfold name
  dsimp only
  repeat' split
  · exact .error hd.place
  · exact .ok hd
  · exact .error hd.place

theorem Directive.tracks_versionNumber (start : Place) (h : c.Tracks source) :
    KeepsTrack source (versionNumber start c) := by
  have hd := h.span noBreaks_isDecimal
  unfold versionNumber
  dsimp only
  repeat' split
  · exact .error hd.place
  · rename_i hlong
    exact .error (h.advance_span (fun _ => single_of_isDecimal) (Nat.le_of_lt hlong)).place
  · exact .ok hd

theorem Directive.tracks_versionValue (start : Place) (h : c.Tracks source) :
    KeepsTrack source (versionValue start c) := by
  refine (tracks_versionNumber start h.skipBlanks).bind fun major d hd => ?_
  dsimp only
  split
  · exact .error hd.place
  · rename_i hp
    have hdot : (d.advance 1).Tracks source := hd.advance_one (not_not.mp hp) (by decide)
    exact (tracks_versionNumber start hdot).bind fun minor e he => .ok he

theorem Directive.tracks_tagValue (start : Place) (h : c.Tracks source) :
    KeepsTrack source (tagValue start c) := by
  refine (TagName.tracks_handleAt _ start h.skipBlanks).bind fun t d hd => ?_
  dsimp only
  repeat' split
  · exact .error hd.place
  · exact .error hd.place
  · refine (TagName.tracks_uri _ _ _ start hd.skipBlanks).bind fun m e he => ?_
    dsimp only
    split
    · exact .ok he
    · exact .error he.place

theorem Directive.tracks_scan (h : c.Tracks source) (hp : c.peek? = some '%') :
    KeepsTrack source (scan c) := by
  have hc : (c.advance 1).Tracks source := h.advance_one hp (by decide)
  refine KeepsTrack.bind (tracks_name _ hc) fun word d hd => ?_
  have hv : KeepsTrack source (value word c.place d) := by
    unfold value
    repeat' split
    · exact tracks_versionValue _ hd
    · exact tracks_tagValue _ hd
    · exact .error hd.place
  refine hv.bind fun directive e he => ?_
  have hs : e.skipBlanks.skipComment.Tracks source := he.skipBlanks.skipComment
  dsimp only
  split
  · exact .ok hs.skipLineBreak
  · exact .error hs.place

/-! ## Scalars -/

theorem Plain.tracks_continueFrom (s : Plain.Setting) (text : String) (gap : Gap)
    (h : c.Tracks source) : KeepsTrack source (Plain.continueFrom s text gap c) := by
  fun_induction Plain.continueFrom s text gap c with
  | case1 text gap c b d hb ih => exact ih (h.lineBreak? hb)
  | case2 text gap c hb hn => exact .ok h
  | case3 => exact .error h.place
  | case4 text gap c hb ch d hn _ _ ih => exact ih (h.next_of_noBreak hb hn)
  | case5 => exact .ok h
  | case6 => exact .error h.place
  | case7 => exact .ok h
  | case8 text gap c hb ch d hn _ _ _ _ ih => exact ih (h.next_of_noBreak hb hn)

theorem Plain.tracks_scan (s : Plain.Setting) (h : c.Tracks source) {first : Char}
    (hp : c.peek? = some first) (hb : isLineBreak first = false) :
    KeepsTrack source (Plain.scan s c) := by
  unfold Plain.scan
  split
  · rename_i hn
    exact tracks_continueFrom s _ _ (h.next? (next?_eq_of_peek? hp hn ▸ hb) hn)
  · exact .ok h

/-- The digits of a numeric escape are of one byte each. -/
theorem Quoted.hexValue_split {acc n v : Nat} {cs : List Char} (h : hexValue acc n cs = some v) :
    ∃ run r, cs = run ++ r ∧ run.length = n ∧ AreSingle run := by
  induction n generalizing acc cs with
  | zero => exact ⟨[], cs, rfl, rfl, List.forall_mem_nil _⟩
  | succ n ih =>
    cases cs with
    | nil => cases h
    | cons ch cs =>
      obtain ⟨d, hd, hv⟩ := Option.bind_eq_some_iff.mp h
      obtain ⟨run, r, rfl, hlen, hrun⟩ := ih hv
      exact ⟨ch :: run, r, rfl, by rw [List.length_cons, hlen],
        List.forall_mem_cons.mpr ⟨single_of_hexValue? hd, hrun⟩⟩

theorem Quoted.meets_escape (start : Place) (letter : Char) (h : c.Tracks source) {d : Cursor}
    (hd : d.Tracks source) :
    Meets (fun f => f.place.Tracked source) (fun r => (d.advance r.2).Tracks source)
      (escape start c letter d) := by
  unfold escape
  split
  · exact .ok hd
  · split
    · exact .error hd.place
    · rename_i hv
      split
      · obtain ⟨run, r, hr, rfl, hrun⟩ := hexValue_split hv
        exact .ok (hd.advance hr hrun)
      · exact .error hd.place
  · exact .error h.place

theorem Quoted.tracks_continueFrom (single : Bool) (start : Place) (text : String) (gap : Gap)
    (h : c.Tracks source) : KeepsTrack source (Quoted.continueFrom single start text gap c) := by
  fun_induction Quoted.continueFrom single start text gap c with
  | case1 text gap c b d hb ih => exact ih (h.lineBreak? hb)
  | case2 => exact .error h.place
  | case3 text gap c hb ch d hn _ ih => exact ih (h.next_of_noBreak hb hn)
  | case4 => exact .error h.place
  | case5 text gap c hb d hm _ he hn => exact .ok (h.next_of_noBreak hb hn)
  | case6 => exact .error h.place
  | case7 text gap c hb ch d hn _ _ _ _ _ _ ih => exact ih (h.next_of_noBreak hb hn)
  | case8 text gap c hb ch d hn _ _ _ letter e he hq ih =>
    exact ih ((h.next_of_noBreak hb hn).next? (hq.2.2 ▸ rfl) he)
  | case9 text gap c hb d hm _ letter e he hn => exact .ok (h.next_of_noBreak hb hn)
  | case10 text gap c hb ch d hn _ _ _ letter e he _ _ _ b f hf ih =>
    exact ih ((h.next_of_noBreak hb hn).lineBreak? hf)
  | case11 text gap c hb ch d hn _ _ letter e he _ _ _ hd f hf =>
    have hletter := (h.next_of_noBreak hb hn).next_of_noBreak hd he
    exact .error ((meets_escape _ _ h hletter).refused hf)
  | case12 text gap c hb ch d hn _ _ _ letter e he _ _ _ hd value n hv ih =>
    have hletter := (h.next_of_noBreak hb hn).next_of_noBreak hd he
    exact ih ((meets_escape _ _ h hletter).value hv)
  | case13 text gap c hb ch d hn _ _ _ letter e he _ _ _ ih => exact ih (h.next_of_noBreak hb hn)

theorem Quoted.tracks_scan (single : Bool) (h : c.Tracks source) {first : Char}
    (hp : c.peek? = some first) (hb : isLineBreak first = false) :
    KeepsTrack source (Quoted.scan single c) := by
  unfold Quoted.scan
  split
  · rename_i hn
    exact tracks_continueFrom single _ _ _ (h.next? (next?_eq_of_peek? hp hn ▸ hb) hn)
  · exact .ok h

theorem Block.tracks_increment (start : Place) (h : c.Tracks source) :
    KeepsTrack source (Block.increment start c) := by
  unfold Block.increment
  split
  · rename_i hp
    split
    · exact .error h.place
    · split
      · rename_i hd
        exact .ok (h.advance_one hp (single_of_isDecimal hd))
      · exact .ok h
  · exact .ok h

theorem Block.tracks_chomping {chomping : Chomping} (h : c.Tracks source)
    (hc : chomping? c.peek? = some chomping) : (c.advance 1).Tracks source := by
  unfold chomping? at hc
  split at hc
  · rename_i hp
    exact h.advance_one hp (by decide)
  · rename_i hp
    exact h.advance_one hp (by decide)
  · cases hc

theorem Block.tracks_indicators (start : Place) (h : c.Tracks source) :
    KeepsTrack source (Block.indicators start c) := by
  unfold Block.indicators
  split
  · rename_i hc
    exact (tracks_increment start (tracks_chomping h hc)).bind fun n d hd => .ok hd
  · refine (tracks_increment start h).bind fun n d hd => ?_
    dsimp only
    split
    · exact .ok hd
    · split
      · rename_i hc
        exact .ok (tracks_chomping hd hc)
      · exact .ok hd

theorem Block.tracks_header (start : Place) (h : c.Tracks source) :
    KeepsTrack source (Block.header start c) := by
  refine (tracks_indicators start h).bind fun t d hd => ?_
  have hs : d.skipBlanks.skipComment.Tracks source := hd.skipBlanks.skipComment
  dsimp only
  split
  · exact .ok hs.skipLineBreak
  · exact .error hs.place

/-- Indentation is passed up to a character that breaks no line. -/
theorem Block.meets_indentation (start : Place) (indent widest : Nat) (h : c.Tracks source) :
    Meets (fun f => f.place.Tracked source)
      (fun i => i.cursor.Tracks source ∧ i.cursor.lineBreak? = none)
      (Block.indentation start indent widest c) := by
  fun_induction Block.indentation start indent widest c with
  | case1 widest c hn => exact .ok ⟨h, lineBreak?_of_end hn⟩
  | case2 widest c ch d hn hs f hf ih =>
    exact .error ((ih (h.next? (hs.1 ▸ rfl) hn)).refused hf)
  | case3 widest c ch d hn hs i hi ih => exact .ok ((ih (h.next? (hs.1 ▸ rfl) hn)).value hi)
  | case4 => exact .error h.place
  | case5 widest c ch d hn _ _ hb => exact .ok ⟨h, hb⟩
  | case6 widest c ch d hn _ _ b e hb f hf ih => exact .error ((ih (h.lineBreak? hb)).refused hf)
  | case7 widest c ch d hn _ _ b e hb i hi ih => exact .ok ((ih (h.lineBreak? hb)).value hi)

theorem Block.tracks_lines (literal : Bool) (start : Place) (indent : Nat) (l : Lines)
    (h : c.Tracks source) (hb : c.lineBreak? = none) :
    KeepsTrack source (Block.lines literal start indent l c) := by
  fun_induction Block.lines literal start indent l c with
  | case1 => exact .ok h
  | case2 => exact .ok h
  | case3 l c ch d hn => exact .ok ((h.next_of_noBreak hb hn).span noBreaks_restOfLine)
  | case4 l c ch d hn _ run b e he f hf =>
    have hrun := (h.next_of_noBreak hb hn).span noBreaks_restOfLine
    exact .error ((meets_indentation _ _ _ (hrun.lineBreak? he)).refused hf)
  | case5 l c ch d hn _ run _ b e he i hi ih =>
    have hrun := (h.next_of_noBreak hb hn).span noBreaks_restOfLine
    obtain ⟨hc, hnone⟩ := (meets_indentation _ _ _ (hrun.lineBreak? he)).value hi
    exact ih hc hnone

theorem Block.tracks_scan (literal : Bool) (outer : Int) (h : c.Tracks source) {ch : Char}
    (hp : c.peek? = some ch) (hs : IsSingle ch) :
    KeepsTrack source (Block.scan literal outer c) := by
  refine KeepsTrack.bind (tracks_header _ (h.advance_one hp hs)) fun t d hd => ?_
  refine Meets.bind (meets_indentation _ _ _ hd) fun i ⟨hi, hb⟩ => ?_
  exact (tracks_lines literal _ _ _ hi hb).bind fun l e he => .ok he

/-! ## Tokens -/

namespace Beginning

/-- What a cursor shows of the token that begins there. -/
theorem at?_cases {flow : Bool} {b : Beginning} (h : at? flow c = some b) :
    (∃ ch, c.peek? = some ch ∧
      (b = .directive ∧ ch = '%' ∨ ofChar? flow (isSeparator (c.peekAt? 1)) ch = some b)) ∨
    (b = .documentStart ∨ b = .documentEnd) ∧ ∃ cs r, c.rest = cs ++ r ∧ cs.length = 3 ∧
      AreSingle cs := by
  have hmark : ∀ dot, c.atMarker dot = true → ∃ cs r, c.rest = cs ++ r ∧ cs.length = 3 ∧
      AreSingle cs := by
    intro dot hm
    simp only [atMarker, Bool.and_eq_true, beq_iff_eq] at hm
    refine ⟨c.rest.take 3, c.rest.drop 3, (List.take_append_drop _ _).symm, ?_, ?_⟩
    · rw [hm.1.2]
      cases dot <;> rfl
    · rw [hm.1.2]
      cases dot <;> decide
  unfold at? at h
  split at h
  · cases h
  · rename_i ch hp
    split at h
    · rename_i hd
      cases h
      exact Or.inl ⟨ch, hp, Or.inl ⟨rfl, hd.2⟩⟩
    · split at h
      · rename_i hm
        cases h
        exact Or.inr ⟨Or.inl rfl, hmark false hm⟩
      · split at h
        · rename_i hm
          cases h
          exact Or.inr ⟨Or.inr rfl, hmark true hm⟩
        · exact Or.inl ⟨ch, hp, Or.inr h⟩

/-- An indicator is one byte, and a plain scalar does not begin with a line break. -/
theorem single_of_ofChar? {flow separated : Bool} {ch : Char} {b : Beginning}
    (h : ofChar? flow separated ch = some b) :
    b = .plain ∧ isLineBreak ch = false ∨ IsSingle ch ∧ (b = .tag → ch = '!') ∧
      b ∉ [Beginning.directive, .documentStart, .documentEnd] := by
  have choice : ∀ {p : Prop} [Decidable p] {a : Beginning} {e : Option Beginning},
      (if p then some a else e) = some b → p ∧ a = b ∨ e = some b := by
    intro p _ a e he
    by_cases hp : p
    · rw [if_pos hp] at he
      exact Or.inl ⟨hp, Option.some.inj he⟩
    · rw [if_neg hp] at he
      exact Or.inr he
  unfold ofChar? at h
  -- Each condition is that the character is a certain one, three and two of them only in context.
  iterate 5
    rcases choice h with ⟨rfl, rfl⟩ | h
    · exact Or.inr (by decide)
  iterate 3
    rcases choice h with ⟨⟨rfl, -⟩, rfl⟩ | h
    · exact Or.inr (by decide)
  iterate 3
    rcases choice h with ⟨rfl, rfl⟩ | h
    · exact Or.inr (by decide)
  iterate 2
    rcases choice h with ⟨⟨rfl, -⟩, rfl⟩ | h
    · exact Or.inr (by decide)
  iterate 2
    rcases choice h with ⟨rfl, rfl⟩ | h
    · exact Or.inr (by decide)
  split at h
  · cases h
  · rename_i hr
    refine Or.inl ⟨(Option.some.inj h).symm, ?_⟩
    simp only [isReserved, isSpace, Bool.or_eq_true, not_or, Bool.not_eq_true] at hr
    exact hr.1.2

theorem tracks_name (activity : Activity) (hc : (c.advance 1).Tracks source) :
    KeepsTrack source (name activity c) := by
  have hd := hc.span noBreaks_isWordChar
  unfold name
  dsimp only
  split
  · exact .error hd.place
  · exact .ok hd

theorem tracks_read {flow : Bool} {b : Beginning} (indent : Int) (h : c.Tracks source)
    (hb : at? flow c = some b) : KeepsTrack source (read flow indent c b) := by
  rcases at?_cases hb with ⟨ch, hp, ⟨rfl, rfl⟩ | hch⟩ | ⟨hmark, cs, r, hr, hlen, hcs⟩
  · exact (Directive.tracks_scan h hp).bind fun t d hd => .ok hd
  · rcases single_of_ofChar? hch with ⟨rfl, hbreak⟩ | ⟨hone, htag, hother⟩
    · exact (Plain.tracks_scan _ h hp hbreak).bind fun t d hd => .ok hd
    · have hc : (c.advance 1).Tracks source := h.advance_one hp hone
      cases b with
      | directive => exact absurd (by decide) hother
      | documentStart => exact absurd (by decide) hother
      | documentEnd => exact absurd (by decide) hother
      | aliasName => exact (tracks_name _ hc).bind fun t d hd => .ok hd
      | anchor => exact (tracks_name _ hc).bind fun t d hd => .ok hd
      | tag =>
        rw [htag rfl] at hp
        exact (TagName.tracks_scan flow h hp).bind fun t d hd => .ok hd
      | block literal =>
        exact (Block.tracks_scan literal indent h hp hone).bind fun t d hd => .ok hd
      | quoted single => exact (Quoted.tracks_scan single h hp hone.2).bind fun t d hd => .ok hd
      | plain => exact (Plain.tracks_scan _ h hp hone.2).bind fun t d hd => .ok hd
      | _ => exact .ok hc
  · have hc : (c.advance cs.length).Tracks source := h.advance hr hcs
    rw [hlen] at hc
    rcases hmark with rfl | rfl
    · exact .ok hc
    · exact .ok hc

end Beginning

end

end AgentSpec.Yaml
