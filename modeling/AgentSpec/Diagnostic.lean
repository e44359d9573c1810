import AgentSpec.Diagnostic.Snippet
import AgentSpec.Load
import AgentSpec.Text.Wrap

/-!
# Diagnostics

A load error as it is shown to the user: its code, its message, the fault behind it, the place in
the source and a piece of advice, each where there is one.
-/

namespace AgentSpec

namespace Diagnostic

/-- The columns in which messages are set. -/
def columns : Nat := 78

/-- A message after an indentation, each line with a line end. -/
def paragraph (first other message : String) : String :=
  String.join ((Text.wrapped columns first other message).map (· ++ "\n"))

def title (e : LoadError) : String := paragraph "  × " "  │ " e.message

def cause (e : LoadError) : String :=
  match e.cause? with
  | some fault => paragraph "  ╰─▶ " "      " fault
  | none => ""

def place (e : LoadError) : String :=
  match e.source?, e.label? with
  | some source, some label => snippet source.name source.text label
  | _, _ => ""

def advice (e : LoadError) : String :=
  match e.help? with
  | some help => paragraph "  help: " "        " help
  | none => ""

end Diagnostic

/-- The diagnostic of a load error, up to and including an empty line. It is told without colours,
as it is where standard error is no terminal; those that it has there if `CLICOLOR_FORCE` is set are
left out. -/
def LoadError.diagnostic (e : LoadError) : String :=
  e.code ++ "\n\n" ++ Diagnostic.title e ++ Diagnostic.cause e ++ Diagnostic.place e
    ++ Diagnostic.advice e ++ "\n"

end AgentSpec
