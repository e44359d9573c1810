import AgentSpec.Yaml.Character

/-!
# Gaps between the words of a scalar

White space inside a plain or quoted scalar is folded: blanks stand for themselves, a single line
break for a blank, and of several line breaks the first is dropped.
-/

namespace AgentSpec.Yaml

/-- Join two lines over the breaks between them. Only a plain line feed folds. -/
def folded : List Char → List Char
  | ['\n'] => [' ']
  | '\n' :: more => more
  | breaks => breaks

/-- A run of blanks and line breaks. Blanks count only before the first break; after an escaped line
break they do not count at all and no break is folded. -/
structure Gap where
  blanks : List Char
  breaks : List Char
  escaped : Bool

namespace Gap

def none : Gap := ⟨[], [], false⟩

def afterEscape : Gap := ⟨[], [], true⟩

def isNone (g : Gap) : Bool := g.blanks.isEmpty && g.breaks.isEmpty && !g.escaped

def addBlank (g : Gap) (c : Char) : Gap :=
  if g.escaped || !g.breaks.isEmpty then g else { g with blanks := g.blanks ++ [c] }

def addBreak (g : Gap) (c : Char) : Gap := { g with breaks := g.breaks ++ [c] }

def text (g : Gap) : String :=
  if g.escaped then String.ofList g.breaks
  else if g.breaks.isEmpty then String.ofList g.blanks
  else String.ofList (folded g.breaks)

end Gap
end AgentSpec.Yaml
