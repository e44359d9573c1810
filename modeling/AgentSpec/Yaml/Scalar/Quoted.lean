import AgentSpec.Yaml.Cursor
import AgentSpec.Yaml.Gap
import AgentSpec.Yaml.Problem

/-!
# Quoted scalars

Between single quotes a quote is written twice and there are no escapes. Between double quotes a
backslash begins an escape, and before a line break it joins the lines without a blank.
-/

namespace AgentSpec.Yaml.Quoted

open Cursor

/-- The escapes of a single letter. -/
def simpleEscape? (c : Char) : Option Char :=
  match c with
  | '0' => some '\x00'
  | 'a' => some '\x07'
  | 'b' => some '\x08'
  | 't' => some '\t'
  | '\t' => some '\t'
  | 'n' => some '\n'
  | 'v' => some '\x0b'
  | 'f' => some '\x0c'
  | 'r' => some '\r'
  | 'e' => some '\x1b'
  | ' ' => some ' '
  | '"' => some '"'
  | '/' => some '/'
  | '\\' => some '\\'
  | 'N' => some '\x85'
  | '_' => some '\xa0'
  | 'L' => some '\u2028'
  | 'P' => some '\u2029'
  | _ => none

/-- How many digits the letter of a numeric escape asks for. -/
def escapeLength? (c : Char) : Option Nat :=
  match c with
  | 'x' => some 2
  | 'u' => some 4
  | 'U' => some 8
  | _ => none

/-- The value of exactly `n` hexadecimal digits. -/
def hexValue (acc : Nat) : Nat → List Char → Option Nat
  | 0, _ => some acc
  | _ + 1, [] => none
  | n + 1, c :: cs => (Text.hexValue? c).bind fun d => hexValue (acc * 16 + d) n cs

/-- The character of a numeric escape; surrogates are none. -/
def character? (n : Nat) : Option Char :=
  if 0xd800 ≤ n ∧ n ≤ 0xdfff ∨ 0x10ffff < n then none else some (Char.ofNat n)

/-- The escape whose backslash is at `c` and whose letter is `letter`, followed by `d`: its
character and how many digits belong to it. -/
def escape (start : Place) (c : Cursor) (letter : Char) (d : Cursor) : Except Flaw (Char × Nat) :=
  match simpleEscape? letter, escapeLength? letter with
  | some ch, _ => .ok (ch, 0)
  | none, some n =>
    match hexValue 0 n d.rest with
    | none => .error (.within .quotedEscape start .expectedHex d.place)
    | some value =>
      match character? value with
      | some ch => .ok (ch, n)
      | none => .error (.within .quotedEscape start .escapeCode d.place)
  | none, none => .error (.within .quotedEscape start .unknownEscape c.place)

def continueFrom (single : Bool) (start : Place) (text : String) (gap : Gap) (c : Cursor) :
    Except Flaw (String × Cursor) :=
  match _ : c.lineBreak? with
  | some (b, d) => continueFrom single start text (gap.addBreak b) d
  | none =>
    match _ : c.next? with
    | none =>
      .error (.within .quotedScalar start .endInQuotes c.place)
    | some (ch, d) =>
      if isBlank ch then continueFrom single start text (gap.addBlank ch) d
      else if c.atAnyMarker then
        .error (.within .quotedScalar start .documentIndicator c.place)
      else
        let text := text ++ gap.text
        match _ : d.next? with
        | none =>
          if ch = (if single then '\'' else '"') then .ok (text, d)
          else if !single ∧ ch = '\\' then
            .error (.within .quotedEscape start .unknownEscape c.place)
          else continueFrom single start (text.push ch) .none d
        | some (letter, e) =>
          if single ∧ ch = '\'' ∧ letter = '\'' then
            continueFrom single start (text.push '\'') .none e
          else if ch = (if single then '\'' else '"') then .ok (text, d)
          else if !single ∧ ch = '\\' then
            match _ : d.lineBreak? with
            | some (_, f) => continueFrom single start text .afterEscape f
            | none =>
              match escape start c letter e with
              | .error f => .error f
              | .ok (value, n) => continueFrom single start (text.push value) .none (e.advance n)
          else continueFrom single start (text.push ch) .none d
termination_by c.rest.length
decreasing_by all_goals grind

/-- The scalar whose opening quote is at `c`. -/
def scan (single : Bool) (c : Cursor) : Except Flaw (String × Cursor) :=
  match c.next? with
  | some (_, d) => continueFrom single c.place "" .none d
  | none => .ok ("", c)

/-! ## What a reading leaves -/

theorem continueFrom_leaves (single : Bool) (start : Place) (text : String) (gap : Gap)
    (c : Cursor) : Leaves c.rest.length (continueFrom single start text gap c) := by
  fun_induction continueFrom single start text gap c <;> grind [Leaves]

theorem scan_leaves (single : Bool) (c : Cursor) :
    Leaves (c.rest.length - 1) (scan single c) := by
  unfold scan
  split
  · rename_i d hn
    exact (continueFrom_leaves single _ _ _ d).mono (Nat.le_sub_one_of_lt (next?_lt hn))
  · rename_i hn
    exact .ok (by simp [rest_eq_nil_of_next? hn])

end AgentSpec.Yaml.Quoted
