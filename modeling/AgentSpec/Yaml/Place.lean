import AgentSpec.Text.Position

/-!
# Places in a YAML text

A place is a byte offset. The end of the stream stands on a line of its own: where the text does not
end in a line break, its place is reported at the start of the next line.
-/

namespace AgentSpec.Yaml

structure Place where
  offset : Nat
  atEnd : Bool
  deriving DecidableEq, Repr

namespace Place

def start : Place := ⟨0, false⟩

def position (p : Place) (text : String) : Text.Position :=
  let q := Text.characterColumn text p.offset
  if p.atEnd ∧ q.column ≠ 0 then ⟨q.line + 1, 0⟩ else q

/-- The start of the text is not worth naming. -/
def isNamed (p : Text.Position) : Bool := p != ⟨1, 0⟩

def named (p : Text.Position) : String :=
  " at line " ++ toString p.line ++ " column " ++ toString (p.column + 1)

def text (p : Place) (source : String) : String :=
  let q := p.position source
  if isNamed q then named q else ""

end Place
end AgentSpec.Yaml
