import AgentSpec.Yaml.Cursor
import AgentSpec.Yaml.Gap
import AgentSpec.Yaml.Problem

/-!
# Plain scalars

A plain scalar runs on over line breaks as long as its lines are indented enough. It ends before a
comment, a document marker, a colon that is followed by a separator and, in flow context, a flow
indicator.
-/

namespace AgentSpec.Yaml.Plain

open Cursor

/-- Where the scalar stands: the least indentation of its further lines, and whether it is in flow
context. -/
structure Setting where
  start : Place
  indent : Int
  flow : Bool

/-- What was read, and the gap that was passed after it. -/
structure Scanned where
  text : String
  gap : Gap

/-- Whether a word cannot begin at `c`, which stands after a gap. -/
def endsAfterGap (s : Setting) (c : Cursor) (ch : Char) : Bool :=
  (!s.flow && (c.column : Int) < s.indent) || c.atAnyMarker || ch == '#'

/-- Whether an indicator at `c` ends the scalar. -/
def endsAt (s : Setting) (c : Cursor) (ch : Char) : Bool :=
  (ch == ':' && isSeparator (c.peekAt? 1)) || (s.flow && isFlowIndicator ch)

/-- In flow context a colon must not touch an indicator. -/
def badColon (s : Setting) (c : Cursor) (ch : Char) : Bool :=
  s.flow && ch == ':' && (match c.peekAt? 1 with
    | some d => isFlowIndicator d || d == '?'
    | none => false)

def continueFrom (s : Setting) (text : String) (gap : Gap) (c : Cursor) :
    Except Flaw (Scanned × Cursor) :=
  match _ : c.lineBreak? with
  | some (b, d) => continueFrom s text (gap.addBreak b) d
  | none =>
    match _ : c.next? with
    | none => .ok (⟨text, gap⟩, c)
    | some (ch, d) =>
      if isBlank ch then
        if ch = '\t' ∧ !gap.breaks.isEmpty ∧ (c.column : Int) < s.indent then
          .error (.within .plainScalar s.start .tabInPlain c.place)
        else continueFrom s text (gap.addBlank ch) d
      else if !gap.isNone && endsAfterGap s c ch then .ok (⟨text, gap⟩, c)
      else if badColon s c ch then
        .error (.within .plainScalar s.start .unexpectedColon c.place)
      else if endsAt s c ch then .ok (⟨text, gap⟩, c)
      else continueFrom s ((text ++ gap.text).push ch) .none d
termination_by c.rest.length
decreasing_by all_goals grind

/-- The first character has been looked at by whoever decided that a plain scalar begins here. -/
def scan (s : Setting) (c : Cursor) : Except Flaw (Scanned × Cursor) :=
  match c.next? with
  | some (ch, d) => continueFrom s (String.singleton ch) .none d
  | none => .ok (⟨"", .none⟩, c)

/-! ## What a reading leaves -/

theorem continueFrom_leaves (s : Setting) (text : String) (gap : Gap) (c : Cursor) :
    Leaves c.rest.length (continueFrom s text gap c) := by
  fun_induction continueFrom s text gap c <;> grind [Leaves]

theorem scan_leaves (s : Setting) (c : Cursor) : Leaves (c.rest.length - 1) (scan s c) := by
  unfold scan
  split
  · rename_i d hn
    exact (continueFrom_leaves s _ _ d).mono (Nat.le_sub_one_of_lt (next?_lt hn))
  · rename_i hn
    exact .ok (by simp [rest_eq_nil_of_next? hn])

end AgentSpec.Yaml.Plain
