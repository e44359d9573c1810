import AgentSpec.Load
import AgentSpec.Proofs.Span
import AgentSpec.Proofs.Yaml.Failure

/-!
# Labels of YAML errors

An error of a text that is not YAML points at the span at its place, and the message names the line
and column of the place. The two agree on the line, but at the end of a last line that no line
feed ends: `parse_yaml_label`.
-/

namespace AgentSpec.Yaml

open Text (OnLine EndsLine OnlyLineFeeds byteLength spanAtOffset)

/-! ## The line of a place -/

namespace Place

/-- The end of the stream where the last line has no end, which counts as a line of its own. -/
def PastLastLine (p : Place) (text : String) : Prop := p.atEnd = true ∧ ¬ EndsLine text.toList

variable {p : Place} {text : String}

theorem onLine_position (hlines : OnlyLineFeeds text.toList)
    (hp : p.Proper text) (h : ¬ p.PastLastLine text) :
    OnLine text (spanAtOffset text p.offset).offset (p.position text).line := by
  have hq : p.position text = Text.characterColumn text p.offset := by
    unfold position
    refine if_neg fun ⟨hend, hcolumn⟩ => h ⟨hend, fun hends => hcolumn ?_⟩
    rw [hp hend]
    exact (Text.column_characterColumn_end hlines).mpr hends
  rw [hq]
  exact Text.line_characterColumn hlines p.offset

theorem position_of_pastLastLine (hlines : OnlyLineFeeds text.toList)
    (hp : p.Proper text) (h : p.PastLastLine text) :
    spanAtOffset text p.offset = ⟨byteLength text.toList, 0⟩ ∧
      ∃ last, OnLine text (byteLength text.toList) last ∧ p.position text = ⟨last + 1, 0⟩ := by
  have hend : p.offset = byteLength text.toList := hp h.1
  have hspan := Text.spanAtOffset_end text
  have hline := Text.line_characterColumn hlines (byteLength text.toList)
  rw [hspan] at hline
  refine ⟨by rw [hend, hspan], _, hline, ?_⟩
  have hcolumn : (Text.characterColumn text p.offset).column ≠ 0 := by
    rw [hend]
    exact fun h0 => h.2 ((Text.column_characterColumn_end hlines).mp h0)
  unfold position
  rw [if_pos ⟨h.1, hcolumn⟩, hend]

theorem position_start (text : String) : start.position text = ⟨1, 0⟩ := by
  have h : Text.characterColumn text 0 = ⟨1, 0⟩ := Text.afterCharacters_zero _ _
  rw [position, start, if_neg (by simp), h]

theorem text_start (source : String) : start.text source = "" := by
  rw [text, position_start]
  rfl

end Place

/-! ## The place in a message -/

theorem infix_of_append (lead middle trail : String) :
    middle.toList <:+: (lead ++ middle ++ trail).toList :=
  ⟨lead.toList, trail.toList, by simp⟩

theorem infix_append_right (lead last : String) : last.toList <:+: (lead ++ last).toList :=
  ⟨lead.toList, [], by simp⟩

/-- A message names the place that is shown. -/
theorem Error.text_infix_message {e : Error} {p : Place} (h : e.place? = some p)
    (source : String) : (p.text source).toList <:+: (e.message source).toList := by
  cases e with
  | flaw f =>
    cases h
    exact infix_of_append _ _ _
  | forbiddenCharacter offset =>
    cases h
    rw [Place.text_start]
    exact List.nil_infix
  | furtherDocument | tooManyAliases => cases h
  | unknownAnchor place | tooDeep place =>
    cases h
    exact infix_append_right _ _
  | mismatch m path place =>
    cases h
    exact infix_append_right _ _

/-! ## Texts without events -/

namespace Layout

/-- A version ends its line, and the stream ends on the next. -/
theorem tokens_of_version : TokenStream.ofText "%YAML 1.1" =
    ⟨[⟨.directive (.version 1 1), ⟨0, false⟩⟩, ⟨.streamEnd, ⟨9, true⟩⟩], none⟩ := by
  let directive : Token := ⟨.directive (.version 1 1), ⟨0, false⟩⟩
  let last : Token := ⟨.streamEnd, ⟨9, true⟩⟩
  let read (waiting : List Token) (taken : Nat) : Layout :=
    ⟨⟨[], 9, 0, 9⟩, false, waiting, taken, [], false, none, []⟩
  let ended (waiting : List Token) (taken : Nat) : Layout :=
    ⟨⟨[], 9, 1, 0⟩, true, waiting, taken, [], false, none, []⟩
  have hread : (ofText "%YAML 1.1").stream = (read [directive] 0).stream :=
    stream_of_advance (t := ofText "%YAML 1.1") (by decide +kernel) (by decide +kernel) rfl
      (by decide +kernel)
  have hdirective : (read [directive] 0).stream =
      ⟨directive :: (read [] 1).stream.tokens, (read [] 1).stream.flaw?⟩ :=
    stream_of_handOn (t := read [directive] 0) (by decide +kernel) (by decide +kernel)
  have hended : (read [] 1).stream = (ended [last] 1).stream :=
    stream_of_advance (t := read [] 1) (by decide +kernel) (by decide +kernel) rfl
      (by decide +kernel)
  have hlast : (ended [last] 1).stream =
      ⟨last :: (ended [] 2).stream.tokens, (ended [] 2).stream.flaw?⟩ :=
    stream_of_handOn (t := ended [last] 1) (by decide +kernel) (by decide +kernel)
  have hnone : (ended [] 2).stream = ⟨[], none⟩ :=
    stream_of_ended (t := ended [] 2) (by decide +kernel) (by decide +kernel) rfl
  rw [TokenStream.ofText, hread, hdirective, hended, hlast, hnone]

end Layout

theorem read_of_flaw {text : String} {f : Flaw} (hblank : Text.isBlank text = false)
    (hallowed : forbiddenOffset? text = none) (h : EventStream.ofText text = ⟨[], .flaw f⟩) :
    read text = .error (.flaw f) := by
  rw [read, hblank, hallowed, h]
  simp [treeOfEvents, Bound.ofEvents, endingError, Source.value]

end AgentSpec.Yaml

namespace AgentSpec

open Yaml Text

/-- A text whose lines end in line feeds and that is not YAML is refused with an error that has a
label where it has a place, and the message names the place. The label begins on the line of the
place, except past a last line that has no end: there the label is empty, at the end of the text,
and the place is the start of one line more. -/
theorem parse_yaml_label {text origin : String} {e : LoadError}
    (hlines : OnlyLineFeeds text.toList) (h : parse .yaml text origin = .error e) :
    ∃ f : Yaml.Error, e = .yaml ⟨origin, text⟩ f ∧ (f.place? = none → e.label? = none) ∧
      ∀ p, f.place? = some p →
        (p.text text).toList <:+: e.message.toList ∧
        ∃ s, e.label? = some s ∧
          (¬ p.PastLastLine text → OnLine text s.offset (p.position text).line) ∧
          (p.PastLastLine text → s = ⟨byteLength text.toList, 0⟩ ∧
            ∃ last, OnLine text s.offset last ∧ p.position text = ⟨last + 1, 0⟩) := by
  obtain ⟨f, hf, rfl⟩ := parse_yaml_eq_error_iff.mp h
  refine ⟨f, rfl, fun hnone => ?_, fun p hp => ⟨?_, spanAtOffset text p.offset, ?_, ?_, ?_⟩⟩
  · show f.label? text = none
    rw [Yaml.Error.label?, hnone]
    rfl
  · exact (f.text_infix_message hp text).trans (infix_append_right _ _)
  · show f.label? text = some _
    rw [Yaml.Error.label?, hp]
    rfl
  · exact Place.onLine_position hlines (proper_of_read hf p hp)
  · intro hpast
    obtain ⟨hspan, hlast⟩ :=
      Place.position_of_pastLastLine hlines (proper_of_read hf p hp) hpast
    rw [hspan]
    exact ⟨rfl, hlast⟩

/-- The percent sign on the second line is followed by no name, but by a character of two bytes. -/
theorem parse_yaml_label_directive :
    OnlyLineFeeds "# é\n%é".toList ∧ ∃ e, parse .yaml "# é\n%é" "api.yaml" = .error e ∧
      " at line 2 column 2".toList <:+: e.message.toList ∧
      e.label? = some ⟨6, 2⟩ ∧ OnLine "# é\n%é" 6 2 := by
  have hlines : OnlyLineFeeds "# é\n%é".toList := by decide +kernel
  let f : Flaw := .within .directive ⟨5, false⟩ .expectedDirective ⟨6, false⟩
  have hread : Yaml.read "# é\n%é" = .error (.flaw f) := by
    refine read_of_flaw (by decide +kernel) (by decide +kernel) ?_
    have hs : TokenStream.ofText "# é\n%é" = ⟨[], some f⟩ :=
      Layout.stream_of_flaw (t := .ofText "# é\n%é") (by decide +kernel) (by decide +kernel) rfl
        (by decide +kernel)
    rw [EventStream.ofText, hs]
    rfl
  have hparse : parse .yaml "# é\n%é" "api.yaml" =
      .error (.yaml ⟨"api.yaml", "# é\n%é"⟩ (.flaw f)) :=
    parse_yaml_eq_error_iff.mpr ⟨_, hread, rfl⟩
  obtain ⟨g, hg, -, hplace⟩ := parse_yaml_label hlines hparse
  cases hg
  obtain ⟨hwords, s, hs, hline, -⟩ := hplace f.place rfl
  have hspan : s = ⟨6, 2⟩ := by
    have hlabel : (Yaml.Error.flaw f).label? "# é\n%é" = some ⟨6, 2⟩ := by decide +kernel
    exact Option.some_inj.mp (hs.symm.trans hlabel)
  have hposition : f.place.position "# é\n%é" = ⟨2, 1⟩ := by decide +kernel
  have htext : f.place.text "# é\n%é" = " at line 2 column 2" := by decide +kernel
  have hpast : ¬ f.place.PastLastLine "# é\n%é" := fun h => Bool.false_ne_true h.1
  rw [htext] at hwords
  rw [hspan] at hs hline
  rw [hposition] at hline
  exact ⟨hlines, _, hparse, hwords, hs, hline hpast⟩

/-- The label of a version without a document is not on the line that the message names. -/
theorem parse_yaml_label_past_last_line :
    OnlyLineFeeds "%YAML 1.1".toList ∧ ∃ e, parse .yaml "%YAML 1.1" "api.yaml" = .error e ∧
      " at line 2 column 1".toList <:+: e.message.toList ∧
      ∃ s, e.label? = some s ∧ ¬ OnLine "%YAML 1.1" s.offset 2 := by
  let f : Flaw := .bare .expectedDocument ⟨9, true⟩
  have hread : Yaml.read "%YAML 1.1" = .error (.flaw f) := by
    refine read_of_flaw (by decide +kernel) (by decide +kernel) ?_
    rw [EventStream.ofText, Layout.tokens_of_version]
    rfl
  have hparse : parse .yaml "%YAML 1.1" "api.yaml" =
      .error (.yaml ⟨"api.yaml", "%YAML 1.1"⟩ (.flaw f)) :=
    parse_yaml_eq_error_iff.mpr ⟨_, hread, rfl⟩
  have hwords := (Yaml.Error.flaw f).text_infix_message rfl "%YAML 1.1"
  have htext : f.place.text "%YAML 1.1" = " at line 2 column 1" := by decide +kernel
  rw [htext] at hwords
  have hlabel : (Yaml.Error.flaw f).label? "%YAML 1.1" = some ⟨9, 0⟩ := by decide +kernel
  refine ⟨by decide +kernel, _, hparse, hwords.trans (infix_append_right _ _), ⟨9, 0⟩, hlabel, ?_⟩
  rintro ⟨before, after, hsplit, -, hline⟩
  have hcount : "%YAML 1.1".toList.count '\n' = 0 := by decide
  rw [hsplit, List.count_append] at hcount
  omega

end AgentSpec
