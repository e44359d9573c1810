import AgentSpec.Yaml.Tag

/-!
# Directives

A line that begins with a percent sign states the version of the language or the meaning of a tag
handle.
-/

namespace AgentSpec.Yaml

open Cursor

inductive Directive where
  | version (major minor : Nat)
  | tag (handle : String) (meaning : Bytes)
  deriving DecidableEq, Repr

namespace Directive

def name (start : Place) (c : Cursor) : Except Flaw (String × Cursor) :=
  let (word, d) := c.span isWordChar
  if word.isEmpty then .error (.within .directive start .expectedDirective d.place)
  else if isSeparator d.peek? then .ok (String.ofList word, d)
  else .error (.within .directive start .directiveCharacter d.place)

/-- At most nine digits. -/
def versionNumber (start : Place) (c : Cursor) : Except Flaw (Nat × Cursor) :=
  let (ds, d) := c.span isDecimal
  if ds.isEmpty then .error (.within .versionDirective start .expectedVersion d.place)
  else if 9 < ds.length then
    .error (.within .versionDirective start .longVersion (c.advance 9).place)
  else .ok (ds.foldl (fun n ch => 10 * n + (ch.toNat - 48)) 0, d)

def versionValue (start : Place) (c : Cursor) : Except Flaw (Directive × Cursor) := do
  let (major, d) ← versionNumber start c.skipBlanks
  if d.peek? ≠ some '.' then .error (.within .versionDirective start .expectedDot d.place)
  else
    let (minor, e) ← versionNumber start (d.advance 1)
    return (.version major minor, e)

def tagValue (start : Place) (c : Cursor) : Except Flaw (Directive × Cursor) := do
  let (h, d) ← TagName.handleAt .tagDirectiveStart start c.skipBlanks
  if !h.closed ∧ h.text ≠ ['!'] then
    .error (.within .tagDirectiveHandle start .expectedBang d.place)
  else if !(d.peek?.any isBlank) then
    .error (.within .tagDirective start .expectedBlank d.place)
  else
    let (meaning, e) ← TagName.uri .tagDirectiveUri true false start d.skipBlanks
    if isSeparator e.peek? then return (.tag (String.ofList h.text) meaning, e)
    else .error (.within .tagDirective start .expectedSeparator e.place)

def value (name : String) (start : Place) (c : Cursor) : Except Flaw (Directive × Cursor) :=
  if name = "YAML" then versionValue start c
  else if name = "TAG" then tagValue start c
  else .error (.within .directive start .unknownDirective c.place)

/-- The directive whose percent sign is at `c`, up to and including its line break. -/
def scan (c : Cursor) : Except Flaw (Directive × Cursor) := do
  let (word, d) ← name c.place (c.advance 1)
  let (directive, e) ← value word c.place d
  let e := e.skipBlanks.skipComment
  if isLineEnd e.peek? then return (directive, e.skipLineBreak)
  else .error (.within .directive c.place .expectedLineEnd e.place)

/-! ## What a reading leaves -/

theorem name_leaves (start : Place) (c : Cursor) : Leaves c.rest.length (name start c) := by
  unfold name
  dsimp only
  repeat' split
  · exact .error
  · exact .ok (length_span_le _ c)
  · exact .error

theorem versionNumber_leaves (start : Place) (c : Cursor) :
    Leaves c.rest.length (versionNumber start c) := by
  unfold versionNumber
  dsimp only
  repeat' split
  · exact .error
  · exact .error
  · exact .ok (length_span_le _ c)

theorem versionValue_leaves (start : Place) (c : Cursor) :
    Leaves c.rest.length (versionValue start c) := by
  refine ((versionNumber_leaves start _).mono (length_skip_le _ c)).bind fun major d hd => ?_
  dsimp only
  split
  · exact .error
  · exact ((versionNumber_leaves start _).mono (by simp only [length_advance]; omega)).bind
      fun minor e he => .ok he

theorem tagValue_leaves (start : Place) (c : Cursor) :
    Leaves c.rest.length (tagValue start c) := by
  have hs : c.skipBlanks.rest.length ≤ c.rest.length := length_skip_le _ c
  refine ((TagName.handleAt_leaves _ start _).mono (by omega)).bind fun h d hd => ?_
  dsimp only
  repeat' split
  · exact .error
  · exact .error
  · refine ((TagName.uri_leaves _ _ _ start _).mono
      (Nat.le_trans (length_skip_le _ d) hd)).bind fun m e he => ?_
    dsimp only
    split
    · exact .ok he
    · exact .error

theorem value_leaves (word : String) (start : Place) (c : Cursor) :
    Leaves c.rest.length (value word start c) := by
  unfold value
  repeat' split
  · exact versionValue_leaves start c
  · exact tagValue_leaves start c
  · exact .error

theorem scan_leaves (c : Cursor) : Leaves (c.rest.length - 1) (scan c) := by
  refine Leaves.bind ((name_leaves _ (c.advance 1)).mono (by simp)) fun word d hd => ?_
  refine ((value_leaves word _ d).mono hd).bind fun directive e he => ?_
  have hs : e.skipBlanks.skipComment.rest.length ≤ c.rest.length - 1 :=
    Nat.le_trans (length_skipComment_le _) (Nat.le_trans (length_skip_le _ e) he)
  dsimp only
  split
  · exact .ok (Nat.le_trans (length_skipLineBreak_le _) hs)
  · exact .error

end Directive
end AgentSpec.Yaml
