import AgentSpec.Text.Position
import AgentSpec.Text.Span
import Mathlib.Data.List.Basic

/-!
# Spans, lines and characters

`OnLine`, `LineStartsAt` and `Span.IsCharacter` say in terms of a text where a byte offset is and
what a span covers. A byte offset falls on one character or past the end (`covering_cases`). The
position that counts bytes is told back into a span by `spanAt_byteColumn`. The position that counts
characters may be counted on from any of them (`afterCharacters_append`), and its line is that of
the span at its offset (`line_characterColumn`).
-/

namespace AgentSpec.Text

/-- A character begins at the offset, or the text ends there, and `line - 1` line feeds come before
it. -/
def OnLine (text : String) (offset line : Nat) : Prop :=
  ∃ before after, text.toList = before ++ after ∧ byteLength before = offset ∧
    before.count '\n' + 1 = line

/-- Nothing precedes, or a line feed comes last. -/
def EndsLine (cs : List Char) : Prop := cs = [] ∨ cs.getLast? = some '\n'

/-- The line, counted from one, begins at the offset. -/
def LineStartsAt (text : String) (line offset : Nat) : Prop :=
  ∃ before after, text.toList = before ++ after ∧ byteLength before = offset ∧
    before.count '\n' + 1 = line ∧ EndsLine before

/-- The span covers one character of the text and nothing else. -/
def Span.IsCharacter (s : Span) (text : String) : Prop :=
  ∃ before c after, text.toList = before ++ c :: after ∧ s = ⟨byteLength before, c.utf8Size⟩

/-! ## Bytes -/

@[simp]
theorem byteLength_nil : byteLength [] = 0 := rfl

@[simp]
theorem byteLength_cons (c : Char) (cs : List Char) :
    byteLength (c :: cs) = c.utf8Size + byteLength cs := rfl

@[simp]
theorem byteLength_append (cs ds : List Char) :
    byteLength (cs ++ ds) = byteLength cs + byteLength ds := by
  induction cs with
  | nil => simp
  | cons c cs ih =>
    simp only [List.cons_append, byteLength_cons, ih]
    omega

/-- Of two beginnings of a text the one with fewer bytes is a beginning of the other. -/
theorem prefix_of_byteLength_lt {cs ds rest : List Char} (hc : cs <+: rest) (hd : ds <+: rest)
    (h : byteLength cs < byteLength ds) : cs <+: ds := by
  rcases List.prefix_or_prefix_of_prefix hc hd with hp | ⟨tail, rfl⟩
  · exact hp
  · rw [byteLength_append] at h
    omega

/-- A byte offset falls on a character, or lies at or past the end. -/
theorem covering_cases (start : Nat) (cs : List Char) (n : Nat) :
    (∃ before c after, cs = before ++ c :: after ∧ byteLength before ≤ n ∧
      n < byteLength before + c.utf8Size ∧
      covering start cs n = ⟨start + byteLength before, c.utf8Size⟩) ∨
    byteLength cs ≤ n ∧ covering start cs n = ⟨start + byteLength cs, 0⟩ := by
  induction cs generalizing start n with
  | nil => exact Or.inr ⟨Nat.zero_le n, rfl⟩
  | cons c cs ih =>
    by_cases h : n < c.utf8Size
    · refine Or.inl ⟨[], c, cs, rfl, Nat.zero_le n, by simpa using h, ?_⟩
      simp [covering, h]
    · rw [covering, if_neg h]
      rcases ih (start + c.utf8Size) (n - c.utf8Size) with
        ⟨before, d, after, rfl, hle, hlt, he⟩ | ⟨hle, he⟩
      · refine Or.inl ⟨c :: before, d, after, rfl, ?_, ?_, ?_⟩
        · rw [byteLength_cons]
          omega
        · rw [byteLength_cons]
          omega
        · rw [he, byteLength_cons, Nat.add_assoc]
      · refine Or.inr ⟨?_, ?_⟩
        · rw [byteLength_cons]
          omega
        · rw [he, byteLength_cons, Nat.add_assoc]

/-- The characters before an offset do not matter for what it falls on. -/
theorem covering_append (start : Nat) (before rest : List Char) :
    covering start (before ++ rest) (byteLength before) =
      covering (start + byteLength before) rest 0 := by
  induction before generalizing start with
  | nil => rfl
  | cons c before ih =>
    have hpast : ¬ c.utf8Size + byteLength before < c.utf8Size := by omega
    rw [List.cons_append, byteLength_cons, covering, if_neg hpast, Nat.add_sub_cancel_left, ih,
      Nat.add_assoc]

/-! ## The span at an offset -/

/-- Only offsets at or past the end have the empty span, and theirs is at the end. -/
theorem spanAtOffset_cases (text : String) (n : Nat) :
    (n < byteLength text.toList ∧ (spanAtOffset text n).IsCharacter text ∧
      (spanAtOffset text n).offset ≤ n ∧
      n < (spanAtOffset text n).offset + (spanAtOffset text n).length) ∨
    byteLength text.toList ≤ n ∧ spanAtOffset text n = ⟨byteLength text.toList, 0⟩ := by
  rcases covering_cases 0 text.toList n with ⟨before, c, after, hsplit, hle, hlt, he⟩ | ⟨hle, he⟩
  · rw [Nat.zero_add] at he
    have hinside : n < byteLength text.toList := by
      rw [hsplit, byteLength_append, byteLength_cons]
      omega
    refine Or.inl ⟨hinside, ⟨before, c, after, hsplit, he⟩, ?_, ?_⟩
    · rw [spanAtOffset, he]
      exact hle
    · rw [spanAtOffset, he]
      exact hlt
  · rw [Nat.zero_add] at he
    exact Or.inr ⟨hle, he⟩

theorem spanAtOffset_end (text : String) :
    spanAtOffset text (byteLength text.toList) = ⟨byteLength text.toList, 0⟩ := by
  rcases spanAtOffset_cases text (byteLength text.toList) with ⟨hlt, -⟩ | ⟨-, he⟩
  · exact absurd hlt (Nat.lt_irrefl _)
  · exact he

/-- A place that is an offset has the span there. -/
theorem spanAt_of_lt {text : String} {line column : Nat}
    (h : lineStart text line + (column - 1) < wordCount) :
    spanAt text line column = some (spanAtOffset text (lineStart text line + (column - 1))) := by
  rw [spanAt]
  exact if_pos h

theorem spanAt_eq_none_iff {text : String} {line column : Nat} :
    spanAt text line column = none ↔ wordCount ≤ lineStart text line + (column - 1) := by
  by_cases h : lineStart text line + (column - 1) < wordCount
  · rw [spanAt_of_lt h]
    exact ⟨nofun, fun hle => absurd h (Nat.not_lt.mpr hle)⟩
  · rw [spanAt]
    exact ⟨fun _ => Nat.not_lt.mp h, fun _ => if_neg h⟩

/-! ## Lines counted in bytes -/

theorem EndsLine.cons {c : Char} {cs : List Char} (h : EndsLine cs) (hc : cs = [] → c = '\n') :
    EndsLine (c :: cs) := by
  right
  rcases h with rfl | h
  · rw [hc rfl]
    rfl
  · rw [List.getLast?_cons, h]
    rfl

/-- The position after `n` bytes counts the lines above the last of them, and from there on bytes;
no further line feed precedes it. -/
theorem afterBytes_split (p : Position) (cs : List Char) {n : Nat} (h : n ≤ byteLength cs) :
    ∃ above below, cs = above ++ below ∧ EndsLine above ∧ byteLength above ≤ n ∧
      (∀ pre post, below = pre ++ '\n' :: post → n ≤ byteLength above + byteLength pre) ∧
      p.afterBytes cs n = ⟨p.line + above.count '\n',
        if above = [] then p.column + n else n - byteLength above⟩ := by
  induction cs generalizing p n with
  | nil =>
    have hn : n = 0 := Nat.le_zero.mp h
    subst hn
    exact ⟨[], [], rfl, Or.inl rfl, Nat.le_refl 0, by simp, rfl⟩
  | cons c cs ih =>
    rw [byteLength_cons] at h
    by_cases hn : n < c.utf8Size
    · refine ⟨[], c :: cs, rfl, Or.inl rfl, Nat.zero_le n, ?_, by simp [Position.afterBytes, hn]⟩
      intro pre post hpre
      cases pre with
      | nil =>
        obtain ⟨rfl, -⟩ := List.cons.inj hpre
        have hone : '\n'.utf8Size = 1 := by decide
        simp only [byteLength_nil]
        omega
      | cons d pre =>
        obtain ⟨rfl, -⟩ := List.cons.inj hpre
        simp only [byteLength_nil, byteLength_cons]
        omega
    · rw [Position.afterBytes, if_neg hn]
      by_cases hc : c = '\n'
      · subst hc
        rw [if_pos rfl]
        obtain ⟨above, below, rfl, hends, hle, hno, he⟩ :=
          ih ⟨p.line + 1, 0⟩ (n := n - '\n'.utf8Size) (by omega)
        refine ⟨'\n' :: above, below, rfl, hends.cons fun _ => rfl, ?_, ?_, ?_⟩
        · rw [byteLength_cons]
          omega
        · intro pre post hpre
          have := hno pre post hpre
          rw [byteLength_cons]
          omega
        · rw [he, List.count_cons_self, if_neg (List.cons_ne_nil _ _), byteLength_cons]
          congr 1
          · simp only
            omega
          · split
            · rename_i ha
              subst ha
              simp
            · omega
      · rw [if_neg hc]
        obtain ⟨above, below, rfl, hends, hle, hno, he⟩ :=
          ih ⟨p.line, p.column + c.utf8Size⟩ (n := n - c.utf8Size) (by omega)
        by_cases ha : above = []
        · subst ha
          refine ⟨[], c :: below, rfl, Or.inl rfl, Nat.zero_le n, ?_, ?_⟩
          · intro pre post hpre
            cases pre with
            | nil => exact absurd (List.cons.inj hpre).1 hc
            | cons d pre =>
              obtain ⟨rfl, hbelow⟩ := List.cons.inj hpre
              have := hno pre post hbelow
              simp only [byteLength_nil, byteLength_cons] at this ⊢
              omega
          · rw [he]
            simp only [if_true, Position.mk.injEq, true_and]
            omega
        · refine ⟨c :: above, below, rfl, hends.cons fun h => absurd h ha, ?_, ?_, ?_⟩
          · rw [byteLength_cons]
            omega
          · intro pre post hpre
            have := hno pre post hpre
            rw [byteLength_cons]
            omega
          · rw [he, List.count_cons_of_ne hc, if_neg ha, if_neg (List.cons_ne_nil _ _),
              byteLength_cons]
            congr 1
            omega

/-- The start of a line is found from the line feeds above it. -/
theorem bytesBeforeLine_of_endsLine {above : List Char} (below : List Char) (h : EndsLine above) :
    bytesBeforeLine (above ++ below) (above.count '\n') = byteLength above := by
  induction above with
  | nil => rw [List.count_nil, bytesBeforeLine, byteLength_nil]
  | cons c above ih =>
    have htail : EndsLine above := by
      cases above with
      | nil => exact Or.inl rfl
      | cons d above => exact Or.inr (by simpa [EndsLine, List.getLast?_cons] using h)
    by_cases hc : c = '\n'
    · subst hc
      rw [List.cons_append, List.count_cons_self, bytesBeforeLine, if_pos rfl, ih htail,
        byteLength_cons]
    · -- The line feed that the line ends with is still to come.
      obtain ⟨k, hk⟩ : ∃ k, above.count '\n' = k + 1 := by
        refine Nat.exists_eq_add_one.mpr (List.count_pos_iff.mpr ?_)
        rcases h with h | h
        · cases h
        · have hlast := List.mem_of_getLast? h
          exact (List.mem_cons.mp hlast).resolve_left (Ne.symm hc)
      rw [List.cons_append, List.count_cons_of_ne hc, hk, bytesBeforeLine, if_neg hc, ← hk,
        ih htail, byteLength_cons]

/-- A position found by counting `n` bytes off gives the span of the character that byte `n - 1`
belongs to, or the first of its line where that has no bytes before the position. -/
theorem spanAt_byteColumn {text : String} {n : Nat} (hsize : byteLength text.toList < wordCount)
    (hn : n ≤ byteLength text.toList) :
    let p := byteColumn text n
    ∃ s, spanAt text p.line p.column = some s ∧
      OnLine text s.offset p.line ∧
      (∃ start, LineStartsAt text p.line start ∧
        (p.column = 0 → s.offset = start) ∧
        (1 ≤ p.column → s.IsCharacter text ∧ s.offset ≤ start + (p.column - 1) ∧
          start + (p.column - 1) < s.offset + s.length)) ∧
      (s.length = 0 ↔ s.offset = byteLength text.toList) := by
  obtain ⟨above, below, htext, hends, hle, hno, hp⟩ :=
    afterBytes_split ⟨1, 0⟩ text.toList hn
  have hline : (byteColumn text n).line = above.count '\n' + 1 := by
    rw [byteColumn, hp]
    exact Nat.add_comm _ _
  have hcolumn : (byteColumn text n).column = n - byteLength above := by
    rw [byteColumn, hp]
    split
    · rename_i h
      simp [h]
    · rfl
  have hstart : lineStart text (above.count '\n' + 1) = byteLength above := by
    rw [lineStart, htext]
    exact bytesBeforeLine_of_endsLine below hends
  have hspan : spanAt text (above.count '\n' + 1) (n - byteLength above) =
      some (covering 0 text.toList (byteLength above + (n - byteLength above - 1))) := by
    rw [spanAt_of_lt (by omega), hstart, spanAtOffset]
  intro p
  rw [hline, hcolumn]
  obtain ⟨s, hs⟩ :
      ∃ s, s = covering 0 text.toList (byteLength above + (n - byteLength above - 1)) := ⟨_, rfl⟩
  refine ⟨s, hs ▸ hspan, ?_⟩
  have hlineStarts : LineStartsAt text (above.count '\n' + 1) (byteLength above) :=
    ⟨above, below, htext, rfl, rfl, hends⟩
  rcases covering_cases 0 text.toList (byteLength above + (n - byteLength above - 1)) with
    ⟨before, c, after, hsplit, hbefore, hlt, hcover⟩ | ⟨hend, hcover⟩
  · rw [hcover, Nat.zero_add] at hs
    have hpos := c.utf8Size_pos
    have habove : above <+: before := by
      have hpre : above <+: before ++ [c] := by
        refine prefix_of_byteLength_lt ⟨below, htext.symm⟩ ⟨after, by simp [hsplit]⟩ ?_
        simp only [byteLength_append, byteLength_cons, byteLength_nil]
        omega
      rcases List.prefix_concat_iff.mp hpre with rfl | hpre
      · simp only [byteLength_append, byteLength_cons, byteLength_nil] at hbefore hlt
        omega
      · exact hpre
    obtain ⟨mid, rfl⟩ := habove
    rw [byteLength_append] at hbefore hlt
    -- No line feed stands between the start of the line and the character.
    have hmid : '\n' ∉ mid := by
      intro hmem
      obtain ⟨pre, post, rfl⟩ := List.append_of_mem hmem
      have hbelow : below = pre ++ '\n' :: (post ++ c :: after) := by
        have := htext.symm.trans hsplit
        simpa using this
      have := hno _ _ hbelow
      simp only [byteLength_append, byteLength_cons] at hbefore
      have hone : '\n'.utf8Size = 1 := by decide
      omega
    have hcount : (above ++ mid).count '\n' = above.count '\n' := by
      rw [List.count_append, List.count_eq_zero_of_not_mem hmid, Nat.add_zero]
    rw [hs]
    refine ⟨⟨above ++ mid, c :: after, hsplit, rfl, by rw [hcount]⟩,
      ⟨byteLength above, hlineStarts, fun h0 => ?_, fun h1 => ⟨⟨_, c, after, hsplit, rfl⟩, ?_, ?_⟩⟩,
      ?_⟩
    · simp only [byteLength_append]
      omega
    · simp only [byteLength_append]
      omega
    · simp only [byteLength_append]
      omega
    · simp only [hsplit, byteLength_append, byteLength_cons]
      omega
  · -- Past the end no byte of the line precedes the position.
    rw [hcover, Nat.zero_add] at hs
    have hall : byteLength above = byteLength text.toList := by
      have := congrArg byteLength htext
      rw [byteLength_append] at this
      omega
    rw [hs]
    refine ⟨⟨above, below, htext, hall, rfl⟩,
      ⟨byteLength above, hlineStarts, fun _ => hall.symm, fun h1 => ?_⟩, by simp⟩
    omega

/-! ## Lines counted in characters -/

theorem afterCharacters_zero (p : Position) (cs : List Char) : p.afterCharacters cs 0 = p := by
  cases cs with
  | nil => rfl
  | cons c cs => rw [Position.afterCharacters, if_pos c.utf8Size_pos]

/-- The position past a character, given the one that follows. -/
def Position.past (p : Position) (c : Char) (following : Option Char) : Position :=
  if c = '\r' ∧ following = some '\n' then p
  else if isLineBreak c then ⟨p.line + 1, 0⟩
  else ⟨p.line, p.column + 1⟩

theorem afterCharacters_past (p : Position) (c : Char) (cs : List Char) (n : Nat) :
    p.afterCharacters (c :: cs) (c.utf8Size + n) = (p.past c cs.head?).afterCharacters cs n := by
  rw [Position.afterCharacters, if_neg (Nat.not_lt_of_le (Nat.le_add_right _ n)),
    Nat.add_sub_cancel_left, Position.past]
  split
  · rfl
  · split
    · rfl
    · rfl

/-- Counting a text off may be interrupted after any of its characters. -/
theorem afterCharacters_append (p : Position) (before after : List Char) (n : Nat) :
    p.afterCharacters (before ++ after) (byteLength before + n) =
      (p.afterCharacters (before ++ after) (byteLength before)).afterCharacters after n := by
  induction before generalizing p with
  | nil => rw [byteLength_nil, Nat.zero_add, List.nil_append, afterCharacters_zero]
  | cons c cs ih =>
    rw [byteLength_cons, Nat.add_assoc, List.cons_append, afterCharacters_past,
      afterCharacters_past, ih]

/-- Characters that break no line are counted in the column. -/
theorem afterCharacters_run (p : Position) {run : List Char}
    (h : ∀ c ∈ run, isLineBreak c = false) (after : List Char) :
    p.afterCharacters (run ++ after) (byteLength run) = ⟨p.line, p.column + run.length⟩ := by
  induction run generalizing p with
  | nil => exact afterCharacters_zero p after
  | cons c cs ih =>
    have hc : isLineBreak c = false := h c List.mem_cons_self
    have hpast : p.past c (cs ++ after).head? = ⟨p.line, p.column + 1⟩ := by
      rw [Position.past, if_neg, if_neg]
      · simp [hc]
      · rintro ⟨rfl, -⟩
        cases hc
    rw [byteLength_cons, List.cons_append, afterCharacters_past, hpast,
      ih _ fun d hd => h d (List.mem_cons_of_mem c hd), List.length_cons, Nat.add_assoc,
      Nat.add_comm 1]

/-- No line break of YAML but the line feed. -/
def OnlyLineFeeds (cs : List Char) : Prop := ∀ c ∈ cs, isLineBreak c = true → c = '\n'

instance (cs : List Char) : Decidable (OnlyLineFeeds cs) :=
  List.decidableBAll (fun c => isLineBreak c = true → c = '\n') cs

theorem OnlyLineFeeds.tail {c : Char} {cs : List Char} (h : OnlyLineFeeds (c :: cs)) :
    OnlyLineFeeds cs := fun d hd => h d (List.mem_cons_of_mem c hd)

theorem OnlyLineFeeds.isLineBreak_iff {c : Char} {cs : List Char} (h : OnlyLineFeeds (c :: cs)) :
    isLineBreak c = true ↔ c = '\n' := by
  refine ⟨h c List.mem_cons_self, fun hc => ?_⟩
  rw [hc]
  rfl

/-- Where only line feeds end lines, a character either ends its line or is counted. -/
theorem afterCharacters_cons (p : Position) {c : Char} {cs : List Char}
    (h : OnlyLineFeeds (c :: cs)) (n : Nat) :
    p.afterCharacters (c :: cs) n =
      if n < c.utf8Size then p
      else if c = '\n' then Position.afterCharacters ⟨p.line + 1, 0⟩ cs (n - c.utf8Size)
      else Position.afterCharacters ⟨p.line, p.column + 1⟩ cs (n - c.utf8Size) := by
  have hcr : c ≠ '\r' := by
    rintro rfl
    exact absurd (h.isLineBreak_iff.mp rfl) (by decide)
  rw [Position.afterCharacters, if_neg (fun hc : c = '\r' ∧ _ => hcr hc.1)]
  simp only [h.isLineBreak_iff]

/-- The span at an offset begins on the line of the position there. -/
theorem line_afterCharacters (p : Position) {cs : List Char} (h : OnlyLineFeeds cs)
    (start n : Nat) :
    ∃ before after, cs = before ++ after ∧
      (covering start cs n).offset = start + byteLength before ∧
      (p.afterCharacters cs n).line = p.line + before.count '\n' := by
  induction cs generalizing p start n with
  | nil => exact ⟨[], [], rfl, rfl, rfl⟩
  | cons c cs ih =>
    rw [afterCharacters_cons p h]
    by_cases hn : n < c.utf8Size
    · exact ⟨[], c :: cs, rfl, by simp [covering, hn], by simp [hn]⟩
    · rw [covering, if_neg hn, if_neg hn]
      by_cases hc : c = '\n'
      · rw [if_pos hc]
        obtain ⟨before, after, rfl, hoffset, hline⟩ :=
          ih ⟨p.line + 1, 0⟩ h.tail (start + c.utf8Size) (n - c.utf8Size)
        refine ⟨c :: before, after, rfl, ?_, ?_⟩
        · rw [hoffset, byteLength_cons, Nat.add_assoc]
        · rw [hline, hc, List.count_cons_self, Nat.add_assoc, Nat.add_comm 1]
      · rw [if_neg hc]
        obtain ⟨before, after, rfl, hoffset, hline⟩ :=
          ih ⟨p.line, p.column + 1⟩ h.tail (start + c.utf8Size) (n - c.utf8Size)
        refine ⟨c :: before, after, rfl, ?_, ?_⟩
        · rw [hoffset, byteLength_cons, Nat.add_assoc]
        · rw [hline, List.count_cons_of_ne hc]

theorem line_characterColumn {text : String} (h : OnlyLineFeeds text.toList) (n : Nat) :
    OnLine text (spanAtOffset text n).offset (characterColumn text n).line := by
  obtain ⟨before, after, hsplit, hoffset, hline⟩ := line_afterCharacters ⟨1, 0⟩ h 0 n
  refine ⟨before, after, hsplit, ?_, ?_⟩
  · rw [spanAtOffset, hoffset, Nat.zero_add]
  · rw [characterColumn, hline, Nat.add_comm]

/-- The position at the end is the start of a line where the characters end one. -/
theorem column_afterCharacters (p : Position) {cs : List Char} (h : OnlyLineFeeds cs) :
    (p.afterCharacters cs (byteLength cs)).column = 0 ↔
      if cs = [] then p.column = 0 else cs.getLast? = some '\n' := by
  induction cs generalizing p with
  | nil => simp [Position.afterCharacters]
  | cons c cs ih =>
    have hsize : ¬ byteLength (c :: cs) < c.utf8Size := by
      rw [byteLength_cons]
      omega
    rw [afterCharacters_cons p h, if_neg hsize, if_neg (List.cons_ne_nil c cs), byteLength_cons,
      Nat.add_sub_cancel_left]
    by_cases hc : c = '\n'
    · rw [if_pos hc, ih _ h.tail]
      cases cs with
      | nil => simp [hc]
      | cons d ds => simp [List.getLast?_cons_cons]
    · rw [if_neg hc, ih _ h.tail]
      cases cs with
      | nil => simp [hc]
      | cons d ds => simp [List.getLast?_cons_cons]

theorem column_characterColumn_end {text : String} (h : OnlyLineFeeds text.toList) :
    (characterColumn text (byteLength text.toList)).column = 0 ↔ EndsLine text.toList := by
  rw [characterColumn, column_afterCharacters _ h, EndsLine]
  split
  · rename_i hnil
    simp [hnil]
  · rename_i hnil
    simp [hnil]

end AgentSpec.Text
