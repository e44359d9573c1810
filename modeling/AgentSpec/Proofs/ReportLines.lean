import AgentSpec.Proofs.Note
import AgentSpec.Report
import Mathlib.Data.List.Basic

/-!
# Lines of the report

The report writes each message after a bullet and ends it with a line feed, as it stands. What a
reader may look for in its lines is `Report.LinesTell`: a summary line for a valid document only,
and one bullet for each finding. A message can hold line feeds itself, and what follows them is
again a line. `report_lines_tell_iff` says which of these later lines break the law, and
`report_lines_tell_fails` has a document whose report ends with the summary of a valid one.
-/

namespace AgentSpec

/-! ## Splitting into lines -/

namespace Text

/-- What stands between the line feeds. -/
def lines (s : String) : List (List Char) := split '\n' s.toList

end Text

namespace Report

/-! ## What the lines are to tell -/

/-- The lines that messages have after their first ones. -/
def laterLines (messages : List String) : List (List Char) :=
  messages.flatMap fun m => (Text.lines m).tail

def bullet : String := "  - "

def clearSummary : String := "✅ Validation passed with no issues"

def warnedSummary : String := "✅ Validation passed with warnings"

/-- The lines of the report without colour state success for a valid outcome only, and in the words
that say whether there are warnings, and they have one bullet for each finding. -/
structure LinesTell (o : Outcome) : Prop where
  clear : clearSummary.toList ∈ Text.lines (report false o) ↔ o.valid = true ∧ o.warnings = []
  warned : warnedSummary.toList ∈ Text.lines (report false o) ↔ o.valid = true ∧ o.warnings ≠ []
  bullets : (Text.lines (report false o)).countP (fun l => bullet.toList.isPrefixOf l) =
    o.errors.length + o.warnings.length

/-! ## Rows -/

def blockRows (banner : String) (messages : List String) : List String :=
  if messages = [] then [] else banner :: messages.map fun m => bullet ++ m

/-- What the report ends with a line feed each. -/
def rows (o : Outcome) : List String :=
  blockRows errorBanner o.errors ++ blockRows warningBanner o.warnings
    ++ if o.errors = [] then [summary o] else []

def ended (texts : List String) : String := String.join (texts.map fun t => t ++ "\n")

theorem block_eq (banner : String) (messages : List String) :
    block banner messages = ended (blockRows banner messages) := by
  cases messages with
  | nil => rfl
  | cons m ms =>
    simp [block, blockRows, ended, bullet, String.join_cons, Function.comp_def]

theorem report_eq (o : Outcome) : report false o = ended (rows o) := by
  have hlast : (if o.errors.isEmpty then paint false "32" (summary o) ++ "\n" else "") =
      ended (if o.errors = [] then [summary o] else []) := by
    cases o.errors with
    | nil => simp [ended, paint, String.join_cons]
    | cons e es => rfl
  rw [report, hlast, rows, paint, paint]
  simp only [Bool.false_eq_true, if_false, block_eq, ended, List.map_append, String.join_append]

theorem lines_ended (texts : List String) :
    Text.lines (ended texts) = texts.flatMap Text.lines ++ [[]] := by
  induction texts with
  | nil => rfl
  | cons t ts ih =>
    have hcons : (ended (t :: ts)).toList = t.toList ++ '\n' :: (ended ts).toList := by
      simp [ended, String.join_cons]
    rw [Text.lines, hcons, Text.split_append, List.flatMap_cons, List.append_assoc, ← ih]
    rfl

/-- The line of a bullet, then the later lines of its message. -/
theorem lines_bullet (m : String) :
    ∃ first, Text.lines (bullet ++ m) = (bullet.toList ++ first) :: (Text.lines m).tail := by
  rw [Text.lines, String.toList_append]
  exact Text.split_append_of_not_mem (by decide +kernel) m.toList

/-! ## Counting lines -/

section Counting

variable {p : List Char → Bool} {b : Bool}

theorem countP_bullets (h : ∀ first, p (bullet.toList ++ first) = b)
    (messages : List String) :
    ((messages.map fun m => bullet ++ m).flatMap Text.lines).countP p =
      b.toNat * messages.length + (laterLines messages).countP p := by
  induction messages with
  | nil => rfl
  | cons m ms ih =>
    obtain ⟨first, hm⟩ := lines_bullet m
    have hone : (if p (bullet.toList ++ first) = true then 1 else 0) = b.toNat := by
      rw [h first]
      cases b <;> rfl
    have hlater : laterLines (m :: ms) = (Text.lines m).tail ++ laterLines ms := List.flatMap_cons
    rw [List.map_cons, List.flatMap_cons, hm, List.countP_append, List.countP_cons, hone, ih,
      hlater, List.countP_append, List.length_cons, Nat.mul_add_one]
    omega

theorem countP_block (h : ∀ first, p (bullet.toList ++ first) = b) {banner : String}
    (hline : '\n' ∉ banner.toList) (hbanner : p banner.toList = false) (messages : List String) :
    ((blockRows banner messages).flatMap Text.lines).countP p =
      b.toNat * messages.length + (laterLines messages).countP p := by
  have hitems := countP_bullets h messages
  unfold blockRows
  split
  · rename_i hnil
    rw [hnil]
    rfl
  · rw [List.flatMap_cons, Text.lines, Text.split_of_not_mem hline, List.singleton_append,
      List.countP_cons_of_neg (by simp [hbanner]), hitems]

theorem laterLines_append (ms ns : List String) :
    laterLines (ms ++ ns) = laterLines ms ++ laterLines ns :=
  List.flatMap_append

/-- The lines of the report that meet a condition which bullets all meet or all miss: the bullets,
the later lines of messages and the summary. -/
theorem countP_lines (h : ∀ first, p (bullet.toList ++ first) = b)
    (herror : p errorBanner.toList = false) (hwarning : p warningBanner.toList = false)
    (hend : p [] = false) (o : Outcome) :
    (Text.lines (report false o)).countP p =
      b.toNat * (o.errors.length + o.warnings.length)
        + (laterLines (o.errors ++ o.warnings)).countP p
        + if o.errors = [] ∧ p (summary o).toList = true then 1 else 0 := by
  have hline : '\n' ∉ (summary o).toList := by
    unfold summary
    split <;> decide +kernel
  have hlast : ((if o.errors = [] then [summary o] else []).flatMap Text.lines).countP p =
      if o.errors = [] ∧ p (summary o).toList = true then 1 else 0 := by
    by_cases he : o.errors = []
    · simp only [he, if_true, true_and, List.flatMap_cons, List.flatMap_nil, List.append_nil,
        Text.lines, Text.split_of_not_mem hline, List.countP_singleton]
    · simp only [he, if_false, false_and, List.flatMap_nil, List.countP_nil]
  rw [report_eq, lines_ended, rows, List.flatMap_append, List.flatMap_append, List.countP_append,
    List.countP_append, List.countP_append, countP_block h (by decide +kernel) herror,
    countP_block h (by decide +kernel) hwarning, hlast, laterLines_append, List.countP_append,
    List.countP_singleton, hend, Nat.mul_add]
  simp only [Bool.false_eq_true, if_false]
  omega

end Counting

/-- A line that neither banners nor bullets begin is a later line of a message or the summary. -/
theorem mem_lines_iff {line : List Char} (hfirst : line.head? = some '✅') (o : Outcome) :
    line ∈ Text.lines (report false o) ↔
      (o.errors = [] ∧ line = (summary o).toList) ∨
        line ∈ laterLines (o.errors ++ o.warnings) := by
  have hne : ∀ other : List Char, other.head? ≠ some '✅' → (other == line) = false := by
    intro other hother
    refine beq_false_of_ne ?_
    rintro rfl
    exact hother hfirst
  have hbullet : ∀ first, (bullet.toList ++ first).head? ≠ some '✅' := by
    intro first
    have hblank : bullet.toList.head? = some ' ' := by decide +kernel
    rw [List.head?_append, hblank, Option.some_or]
    decide
  have hcount := countP_lines (p := fun l => l == line) (fun first => hne _ (hbullet first))
    (hne errorBanner.toList (by decide +kernel)) (hne warningBanner.toList (by decide +kernel))
    (hne [] (by decide +kernel)) o
  have hmem : ∀ ls : List (List Char), line ∈ ls ↔ 0 < ls.countP fun l => l == line := fun ls =>
    List.count_pos_iff.symm
  rw [hmem, hcount, hmem]
  by_cases he : o.errors = [] ∧ line = (summary o).toList
  · have hyes : o.errors = [] ∧ ((summary o).toList == line) = true :=
      ⟨he.1, beq_iff_eq.mpr he.2.symm⟩
    rw [if_pos hyes]
    exact iff_of_true (Nat.succ_pos _) (Or.inl he)
  · have hnot : ¬ (o.errors = [] ∧ ((summary o).toList == line) = true) := fun h =>
      he ⟨h.1, (beq_iff_eq.mp h.2).symm⟩
    rw [if_neg hnot, Bool.toNat_false, Nat.zero_mul, Nat.zero_add, Nat.add_zero]
    exact (or_iff_right he).symm

theorem warnedSummary_ne_clearSummary : warnedSummary.toList ≠ clearSummary.toList := by
  decide +kernel

theorem clearSummary_mem_lines_iff (o : Outcome) :
    clearSummary.toList ∈ Text.lines (report false o) ↔
      (o.errors = [] ∧ o.warnings = []) ∨
        clearSummary.toList ∈ laterLines (o.errors ++ o.warnings) := by
  refine (mem_lines_iff (by decide +kernel) o).trans (or_congr_left (and_congr_right fun _ => ?_))
  unfold summary
  cases o.warnings with
  | nil => exact iff_of_true rfl rfl
  | cons w ws => exact iff_of_false warnedSummary_ne_clearSummary.symm (List.cons_ne_nil w ws)

theorem warnedSummary_mem_lines_iff (o : Outcome) :
    warnedSummary.toList ∈ Text.lines (report false o) ↔
      (o.errors = [] ∧ o.warnings ≠ []) ∨
        warnedSummary.toList ∈ laterLines (o.errors ++ o.warnings) := by
  refine (mem_lines_iff (by decide +kernel) o).trans (or_congr_left (and_congr_right fun _ => ?_))
  unfold summary
  cases o.warnings with
  | nil => exact iff_of_false warnedSummary_ne_clearSummary fun h => h rfl
  | cons w ws => exact iff_of_true rfl (List.cons_ne_nil w ws)

/-- Bullets are as many as the findings and the later lines that look like one. -/
theorem countP_bullet_lines (o : Outcome) :
    (Text.lines (report false o)).countP (fun l => bullet.toList.isPrefixOf l) =
      o.errors.length + o.warnings.length
        + (laterLines (o.errors ++ o.warnings)).countP fun l => bullet.toList.isPrefixOf l := by
  have hsummary : bullet.toList.isPrefixOf (summary o).toList = false := by
    unfold summary
    split <;> decide +kernel
  have h := countP_lines (p := fun l => bullet.toList.isPrefixOf l) (b := true)
    (fun first => List.isPrefixOf_iff_prefix.mpr (List.prefix_append _ _))
    (by decide +kernel) (by decide +kernel) (by decide +kernel) o
  rwa [hsummary, Bool.toNat_true, Nat.one_mul, if_neg (by simp), Nat.add_zero] at h

theorem laterLines_ne_nil {messages : List String} {line : List Char}
    (h : line ∈ laterLines messages) : messages ≠ [] := by
  rintro rfl
  exact List.not_mem_nil h

theorem laterLines_eq_nil {messages : List String} (h : ∀ m ∈ messages, '\n' ∉ m.toList) :
    laterLines messages = [] := by
  refine List.flatMap_eq_nil_iff.mpr fun m hm => ?_
  rw [Text.lines, Text.split_of_not_mem (h m hm)]
  rfl

end Report

open Report in
/-- What the lines of the report on a document tell. A summary line occurs for the verdict that it
states, or as a later line of a message; there is a bullet for each finding, and for each later line
that looks like one. So the lines tell the outcome exactly when no later line is a bullet or the
summary of a clear document, and none is that of a document with warnings unless it is one; in
particular, when no message has a line feed. -/
theorem report_lines_tell_iff (d : Tree) :
    let o := validate d
    let lines := Text.lines (report false o)
    let later := laterLines (o.errors ++ o.warnings)
    let isBullet := fun line : List Char => bullet.toList.isPrefixOf line
    (clearSummary.toList ∈ lines ↔
      (o.valid = true ∧ o.warnings = []) ∨ clearSummary.toList ∈ later) ∧
    (warnedSummary.toList ∈ lines ↔
      (o.valid = true ∧ o.warnings ≠ []) ∨ warnedSummary.toList ∈ later) ∧
    lines.countP isBullet = o.errors.length + o.warnings.length + later.countP isBullet ∧
    (LinesTell o ↔ clearSummary.toList ∉ later ∧
      (warnedSummary.toList ∈ later → o.valid = true) ∧ later.countP isBullet = 0) ∧
    ((∀ m ∈ o.errors ++ o.warnings, '\n' ∉ m.toList) → LinesTell o) := by
  intro o lines later isBullet
  have hvalid : o.valid = true ↔ o.errors = [] := List.isEmpty_iff
  have hclear : clearSummary.toList ∈ lines ↔
      (o.valid = true ∧ o.warnings = []) ∨ clearSummary.toList ∈ later := by
    rw [hvalid]
    exact clearSummary_mem_lines_iff o
  have hwarned : warnedSummary.toList ∈ lines ↔
      (o.valid = true ∧ o.warnings ≠ []) ∨ warnedSummary.toList ∈ later := by
    rw [hvalid]
    exact warnedSummary_mem_lines_iff o
  have hbullets := countP_bullet_lines o
  -- A document without errors and warnings has no messages, so no later lines either.
  have hsome : ∀ line ∈ later, o.valid = true → o.warnings ≠ [] := fun line hl hv hnone =>
    laterLines_ne_nil hl (List.append_eq_nil_iff.mpr ⟨hvalid.mp hv, hnone⟩)
  have hiff : LinesTell o ↔ clearSummary.toList ∉ later ∧
      (warnedSummary.toList ∈ later → o.valid = true) ∧ later.countP isBullet = 0 := by
    constructor
    · rintro ⟨hc, hw, hb⟩
      refine ⟨fun hl => ?_, fun hl => ?_, ?_⟩
      · obtain ⟨hv, hnone⟩ := hc.mp (hclear.mpr (Or.inr hl))
        exact hsome _ hl hv hnone
      · exact (hw.mp (hwarned.mpr (Or.inr hl))).1
      · exact Nat.add_left_cancel (hbullets.symm.trans hb)
    · rintro ⟨hc, hw, hb⟩
      refine ⟨hclear.trans (or_iff_left hc), hwarned.trans (or_iff_left_of_imp fun hl => ?_), ?_⟩
      · exact ⟨hw hl, hsome _ hl (hw hl)⟩
      · rw [hb] at hbullets
        exact hbullets
  refine ⟨hclear, hwarned, hbullets, hiff, fun h => hiff.mpr ?_⟩
  have hnil : later = [] := laterLines_eq_nil h
  rw [hnil]
  exact ⟨List.not_mem_nil, fun hw => absurd hw List.not_mem_nil, rfl⟩

/-- A document in order but for the role of a prompt, which goes on with a bullet and the summary of
a clear document: its report ends as that of a valid one does, with two bullets for one error. -/
theorem report_lines_tell_fails :
    let d : Tree := .mapping [
      ("constraints", .sequence []), ("context", .mapping [("memory", .null)]),
      ("evaluation", .mapping [("metrics", .null)]),
      ("info", .mapping [("description", .text "d"), ("title", .text "t"), ("version", .text "1")]),
      ("models", .sequence [.mapping [("id", .text "m"), ("name", .text "n"),
        ("provider", .text "p"), ("purpose", .text "u"), ("type", .text "LLM")]]),
      ("openapia", .text "0.1.0"),
      ("prompts", .sequence [.mapping [("id", .text "p"),
        ("role", .text "user\n  - none\n✅ Validation passed with no issues"),
        ("template", .text "t")]]),
      ("tasks", .sequence [])]
    let o := validate d
    let lines := Text.lines (report false o)
    o = ⟨false, ["Invalid prompt role: user\n  - none\n✅ Validation passed with no issues"], []⟩ ∧
      lines = ["❌ Validation Errors:".toList, "  - Invalid prompt role: user".toList,
        "  - none".toList, "✅ Validation passed with no issues".toList, []] ∧
      ¬ Report.LinesTell o := by
  intro d o lines
  have ho : o = ⟨false,
      ["Invalid prompt role: user\n  - none\n✅ Validation passed with no issues"], []⟩ := by
    decide +kernel
  have hlines : lines = ["❌ Validation Errors:".toList, "  - Invalid prompt role: user".toList,
      "  - none".toList, "✅ Validation passed with no issues".toList, []] := by
    show Text.lines (report false o) = _
    rw [ho]
    decide +kernel
  refine ⟨ho, hlines, fun h => ?_⟩
  have hmem : Report.clearSummary.toList ∈ lines := by
    rw [hlines]
    simp [Report.clearSummary]
  have hvalid := (h.clear.mp hmem).1
  rw [ho] at hvalid
  cases hvalid

end AgentSpec
