import AgentSpec.Yaml.Cursor
import AgentSpec.Yaml.Gap
import AgentSpec.Yaml.Problem

/-!
# Block scalars

A literal scalar keeps its line breaks, a folded one joins lines that do not begin with a blank. The
header may fix the indentation and says what becomes of the breaks at the end.
-/

namespace AgentSpec.Yaml.Block

open Cursor

/-- What becomes of the last line break and of the empty lines after it. -/
inductive Chomping where
  | strip
  | clip
  | keep
  deriving DecidableEq, Repr

structure Header where
  chomping : Chomping
  /-- Zero where the content decides. -/
  increment : Nat

def chomping? (c : Option Char) : Option Chomping :=
  match c with
  | some '+' => some .keep
  | some '-' => some .strip
  | _ => none

/-- The digit of the indentation, zero if there is none. -/
def increment (start : Place) (c : Cursor) : Except Flaw (Nat × Cursor) :=
  match c.peek? with
  | some ch =>
    if ch = '0' then .error (.within .blockScalar start .zeroIndentation c.place)
    else if isDecimal ch then .ok (ch.toNat - 48, c.advance 1)
    else .ok (0, c)
  | none => .ok (0, c)

/-- The two indicators may come in either order. -/
def indicators (start : Place) (c : Cursor) : Except Flaw (Header × Cursor) := do
  match chomping? c.peek? with
  | some chomping =>
    let (n, d) ← increment start (c.advance 1)
    return (⟨chomping, n⟩, d)
  | none =>
    let (n, d) ← increment start c
    if n = 0 then return (⟨.clip, 0⟩, d)
    match chomping? d.peek? with
    | some chomping => return (⟨chomping, n⟩, d.advance 1)
    | none => return (⟨.clip, n⟩, d)

/-- The header up to and including its line break. -/
def header (start : Place) (c : Cursor) : Except Flaw (Header × Cursor) := do
  let (h, d) ← indicators start c
  let d := d.skipBlanks.skipComment
  if isLineEnd d.peek? then return (h, d.skipLineBreak)
  else .error (.within .blockScalar start .expectedLineEnd d.place)

/-- The empty lines passed, the widest indentation seen, and where the next line's content
begins. -/
structure Indented (c : Cursor) where
  breaks : List Char
  widest : Nat
  cursor : Cursor
  onward : cursor.rest.length ≤ c.rest.length

/-- Whether the column is still in the indentation; an unknown indentation has no end. -/
def inIndentation (indent : Nat) (c : Cursor) : Bool := indent == 0 || c.column < indent

/-- Pass indentation and empty lines. -/
def indentation (start : Place) (indent widest : Nat) (c : Cursor) : Except Flaw (Indented c) :=
  match hn : c.next? with
  | none => .ok ⟨[], max widest c.column, c, Nat.le_refl _⟩
  | some (ch, d) =>
    if ch = ' ' ∧ inIndentation indent c then
      match indentation start indent widest d with
      | .error f => .error f
      | .ok i =>
        .ok ⟨i.breaks, i.widest, i.cursor, Nat.le_trans i.onward (Nat.le_of_lt (next?_lt hn))⟩
    else if ch = '\t' ∧ inIndentation indent c then
      .error (.within .blockScalar start .tabIndentation c.place)
    else
      match hb : c.lineBreak? with
      | none => .ok ⟨[], max widest c.column, c, Nat.le_refl _⟩
      | some (b, e) =>
        match indentation start indent (max widest c.column) e with
        | .error f => .error f
        | .ok i =>
          .ok ⟨b :: i.breaks, i.widest, i.cursor,
            Nat.le_trans i.onward (Nat.le_of_lt (lineBreak?_lt hb))⟩
termination_by c.rest.length
decreasing_by
  · exact next?_lt hn
  · exact lineBreak?_lt hb

/-- The lines read so far: their text, the break after the last of them and the empty lines after
that. -/
structure Lines where
  text : String
  lastBreak : Option Char
  emptyLines : List Char
  /-- Whether the last line begins with a blank. -/
  blank : Bool

/-- What stands between the lines read and a further one. -/
def Lines.joint (literal : Bool) (l : Lines) (blank : Bool) : List Char :=
  match l.lastBreak with
  | none => l.emptyLines
  | some b =>
    if literal || l.blank || blank then b :: l.emptyLines else folded (b :: l.emptyLines)

/-- Read lines as long as they are indented by `indent`. -/
def lines (literal : Bool) (start : Place) (indent : Nat) (l : Lines) (c : Cursor) :
    Except Flaw (Lines × Cursor) :=
  match _ : c.next? with
  | none => .ok (l, c)
  | some (ch, d) =>
    if c.column ≠ indent then .ok (l, c)
    else
      let run := d.span fun ch => !Text.isLineBreak ch
      let text := (l.text ++ String.ofList (l.joint literal (isBlank ch))).push ch
        ++ String.ofList run.1
      match _ : run.2.lineBreak? with
      | none => .ok (⟨text, none, [], isBlank ch⟩, run.2)
      | some (b, e) =>
        match indentation start indent 0 e with
        | .error f => .error f
        | .ok i => lines literal start indent ⟨text, some b, i.breaks, isBlank ch⟩ i.cursor
termination_by c.rest.length
decreasing_by
  have h₁ := next?_lt ‹c.next? = some (ch, d)›
  have h₂ : run.2.rest.length ≤ d.rest.length := length_skip_le _ d
  have h₃ := lineBreak?_lt ‹run.2.lineBreak? = some (b, e)›
  have h₄ := i.onward
  omega

def chomp (h : Header) (l : Lines) : String :=
  match h.chomping with
  | .strip => l.text
  | .clip => l.text ++ String.ofList l.lastBreak.toList
  | .keep => l.text ++ String.ofList (l.lastBreak.toList ++ l.emptyLines)

/-- The scalar whose indicator is at `c`, inside a block indented by `outer`. -/
def scan (literal : Bool) (outer : Int) (c : Cursor) : Except Flaw (String × Cursor) := do
  let (h, d) ← header c.place (c.advance 1)
  let fixed := if h.increment = 0 then 0 else (max outer 0).toNat + h.increment
  let i ← indentation c.place fixed 0 d
  let indent := if fixed = 0 then max i.widest (max (outer + 1).toNat 1) else fixed
  let (l, e) ← lines literal c.place indent ⟨"", none, i.breaks, false⟩ i.cursor
  return (chomp h l, e)

/-! ## What a reading leaves -/

theorem increment_leaves (start : Place) (c : Cursor) :
    Leaves c.rest.length (increment start c) := by
  unfold increment
  repeat' split
  all_goals grind [Leaves]

theorem indicators_leaves (start : Place) (c : Cursor) :
    Leaves c.rest.length (indicators start c) := by
  unfold indicators
  split
  · exact ((increment_leaves start _).mono (by simp)).bind fun n d hd => .ok hd
  · refine (increment_leaves start c).bind fun n d hd => ?_
    dsimp only
    repeat' split
    · exact .ok hd
    · exact .ok (by simp only [length_advance]; omega)
    · exact .ok hd

theorem header_leaves (start : Place) (c : Cursor) :
    Leaves c.rest.length (header start c) := by
  refine (indicators_leaves start c).bind fun h d hd => ?_
  have hs : d.skipBlanks.skipComment.rest.length ≤ c.rest.length :=
    Nat.le_trans (length_skipComment_le _) (Nat.le_trans (length_skip_le _ d) hd)
  dsimp only
  split
  · exact .ok (Nat.le_trans (length_skipLineBreak_le _) hs)
  · exact .error

theorem lines_leaves (literal : Bool) (start : Place) (indent : Nat) (l : Lines) (c : Cursor) :
    Leaves c.rest.length (lines literal start indent l c) := by
  fun_induction lines literal start indent l c with
  | case1 | case2 => exact .ok (Nat.le_refl _)
  | case3 _ c _ d hn _ run =>
    exact .ok (Nat.le_trans (length_span_le _ d) (Nat.le_of_lt (next?_lt hn)))
  | case4 => exact .error
  | case5 _ c _ d hn _ run _ _ e hb i _ ih =>
    have h₁ := next?_lt hn
    have h₂ : run.2.rest.length ≤ d.rest.length := length_span_le _ d
    have h₃ := lineBreak?_lt hb
    have h₄ := i.onward
    exact ih.mono (by omega)

theorem scan_leaves (literal : Bool) (outer : Int) (c : Cursor) :
    Leaves (c.rest.length - 1) (scan literal outer c) := by
  refine Leaves.bind ((header_leaves c.place (c.advance 1)).mono (by simp)) fun h d hd => ?_
  dsimp only
  cases indentation c.place _ 0 d with
  | error f => exact .error
  | ok i =>
    exact ((lines_leaves literal _ _ _ i.cursor).mono (Nat.le_trans i.onward hd)).bind
      fun l e he => .ok he

end AgentSpec.Yaml.Block
