import AgentSpec.Text.Span
import AgentSpec.Yaml.Character
import AgentSpec.Yaml.Place

/-!
# The cursor of a scanner

What is left of the text, and where in the text that is. Every movement is by characters or by line
breaks, and the lemmas say that it shortens what is left.
-/

namespace AgentSpec.Yaml

structure Cursor where
  rest : List Char
  offset : Nat
  line : Nat
  column : Nat
  deriving DecidableEq, Repr

namespace Cursor

def ofText (text : String) : Cursor := ⟨text.toList, 0, 0, 0⟩

def place (c : Cursor) : Place := ⟨c.offset, false⟩

def peek? (c : Cursor) : Option Char := c.rest.head?

def peekAt? (c : Cursor) (n : Nat) : Option Char := (c.rest.drop n).head?

/-- The next character, not taken for a line break. -/
def next? (c : Cursor) : Option (Char × Cursor) :=
  match c.rest with
  | [] => none
  | ch :: r => some (ch, ⟨r, c.offset + ch.utf8Size, c.line, c.column + 1⟩)

/-- The line break at the cursor, as it counts in content. -/
def lineBreak? (c : Cursor) : Option (Char × Cursor) :=
  match c.rest with
  | '\r' :: '\n' :: r => some ('\n', ⟨r, c.offset + 2, c.line + 1, 0⟩)
  | ch :: r =>
    if Text.isLineBreak ch then
      some (normalBreak ch, ⟨r, c.offset + ch.utf8Size, c.line + 1, 0⟩)
    else none
  | [] => none

/-- Pass the characters of a class that holds no line break. -/
def span (p : Char → Bool) (c : Cursor) : List Char × Cursor :=
  let run := c.rest.takeWhile p
  (run, ⟨c.rest.dropWhile p, c.offset + Text.byteLength run, c.line, c.column + run.length⟩)

def skip (p : Char → Bool) (c : Cursor) : Cursor := (c.span p).2

/-- Pass `n` characters of one byte each. -/
def advance (n : Nat) (c : Cursor) : Cursor :=
  ⟨c.rest.drop n, c.offset + n, c.line, c.column + n⟩

def skipLineBreak (c : Cursor) : Cursor :=
  match c.lineBreak? with
  | some (_, d) => d
  | none => c

/-- Pass blanks, a comment and the line break after it. -/
def skipBlanks (c : Cursor) : Cursor := c.skip isBlank

def skipComment (c : Cursor) : Cursor :=
  if c.peek? = some '#' then c.skip fun ch => !Text.isLineBreak ch else c

@[grind →]
theorem next?_lt {c d : Cursor} {ch : Char} (h : c.next? = some (ch, d)) :
    d.rest.length < c.rest.length := by
  unfold next? at h
  split at h
  · cases h
  · rename_i hr
    cases h
    simp [hr]

theorem rest_eq_nil_of_next? {c : Cursor} (h : c.next? = none) : c.rest = [] := by
  unfold next? at h
  split at h
  · assumption
  · cases h

@[grind →]
theorem lineBreak?_lt {c d : Cursor} {ch : Char} (h : c.lineBreak? = some (ch, d)) :
    d.rest.length < c.rest.length := by
  unfold lineBreak? at h
  split at h
  · rename_i hr
    cases h
    simp only [hr, List.length_cons]
    omega
  · rename_i hr
    split at h
    · cases h
      simp [hr]
    · cases h
  · cases h

@[grind .]
theorem length_span_le (p : Char → Bool) (c : Cursor) :
    (c.span p).2.rest.length ≤ c.rest.length :=
  (List.dropWhile_sublist _).length_le

theorem length_skip_le (p : Char → Bool) (c : Cursor) :
    (c.skip p).rest.length ≤ c.rest.length :=
  length_span_le p c

@[simp, grind =]
theorem length_advance (n : Nat) (c : Cursor) :
    (c.advance n).rest.length = c.rest.length - n := by
  simp [advance]

theorem length_skipComment_le (c : Cursor) : c.skipComment.rest.length ≤ c.rest.length := by
  unfold skipComment
  split
  · exact length_skip_le _ c
  · exact Nat.le_refl _

theorem length_skipLineBreak_le (c : Cursor) : c.skipLineBreak.rest.length ≤ c.rest.length := by
  unfold skipLineBreak
  split
  · rename_i h
    exact Nat.le_of_lt (lineBreak?_lt h)
  · exact Nat.le_refl _

/-! ## Readings -/

/-- Whatever a reading yields, at most `n` characters are left after it. -/
def Leaves {ε α : Type} (n : Nat) (x : Except ε (α × Cursor)) : Prop :=
  ∀ a d, x = .ok (a, d) → d.rest.length ≤ n

namespace Leaves

variable {ε α β : Type} {n : Nat}

theorem ok {a : α} {d : Cursor} (h : d.rest.length ≤ n) :
    Leaves n (.ok (a, d) : Except ε (α × Cursor)) := by
  intro b e he
  cases he
  exact h

theorem error {f : ε} : Leaves n (.error f : Except ε (α × Cursor)) := by
  intro b e he
  cases he

theorem bind {x : Except ε (α × Cursor)} {f : α × Cursor → Except ε (β × Cursor)}
    (hx : Leaves n x) (hf : ∀ a d, d.rest.length ≤ n → Leaves n (f (a, d))) :
    Leaves n (x >>= f) := by
  cases x with
  | error g => exact error
  | ok r => exact hf r.1 r.2 (hx r.1 r.2 rfl)

theorem mono {m : Nat} {x : Except ε (α × Cursor)} (hx : Leaves m x) (h : m ≤ n) :
    Leaves n x :=
  fun a d he => Nat.le_trans (hx a d he) h

end Leaves

/-! ## Markers -/

/-- Whether a document marker stands here: three dashes or dots at the start of a line, on their
own. -/
def atMarker (dot : Bool) (c : Cursor) : Bool :=
  c.column == 0 && c.rest.take 3 == (if dot then ['.', '.', '.'] else ['-', '-', '-'])
    && isSeparator (c.peekAt? 3)

def atAnyMarker (c : Cursor) : Bool := c.atMarker false || c.atMarker true

end Cursor
end AgentSpec.Yaml
