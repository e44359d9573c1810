import AgentSpec.CommandLine.Arguments
import AgentSpec.CommandLine.Help
import AgentSpec.Diagnostic
import AgentSpec.Validator

/-!
# The command line

What the program writes and its exit code, from its arguments, its environment and what the one
file that it reads leads to. The exit code follows from the document alone; mode, verbosity and
colour only decide what is written.
-/

namespace AgentSpec

/-- The variables of an environment with their values. -/
abbrev Environment := List (String × String)

namespace Environment

/-- Log lines are in colour unless they are asked to be plain. -/
def logColor (env : Environment) : Bool :=
  match env.lookup "NO_COLOR" with
  | some value => value.isEmpty
  | none => true

/-- Reports are in colour only when it is forced. -/
def reportColor (env : Environment) : Bool :=
  match env.lookup "CLICOLOR_FORCE" with
  | some value => value != "0"
  | none => false

end Environment

namespace CommandLine

structure Output where
  code : Nat
  stdout : String
  stderr : String
  deriving DecidableEq, Repr

namespace Request

/-- The outcome as it is shown; a load error is shown by its diagnostic instead. -/
def shown (env : Environment) (r : Request) (v : Validator) : String :=
  match r.mode, v.loadError? with
  | .json, _ => Json.pretty v.outcome.toTree ++ "\n"
  | .quiet, _ => ""
  | .report, some _ => ""
  | .report, none => AgentSpec.report (!r.noColor && env.reportColor) v.outcome

def diagnostic (r : Request) (v : Validator) : String :=
  match r.mode, v.loadError? with
  | .report, some e => e.diagnostic
  | _, _ => ""

def log (env : Environment) (r : Request) (found? : Option Entry) : String :=
  logText r.verbosity env.logColor (.started r.file :: Validator.foundLog r.file found?)

def exitCode (v : Validator) : Nat := if v.outcome.valid then 0 else 1

def output (env : Environment) (r : Request) (found? : Option Entry) : Output :=
  let v := Validator.ofFound r.file found?
  ⟨exitCode v, r.shown env v, r.log env found? ++ r.diagnostic v⟩

end Request

/-- The file that a command reads. -/
def Command.file? : Command → Option String
  | .validate r => some r.file
  | _ => none

def Command.output (env : Environment) (found? : Option Entry) : Command → Output
  | .help t => ⟨0, t.text, ""⟩
  | .version => ⟨0, versionText, ""⟩
  | .validate r => r.output env found?

def Misuse.output (m : Misuse) : Output := ⟨2, "", m.text⟩

/-- What the program does in a file system. -/
def run (env : Environment) (fs : FileSystem) (arguments : List String) : Output :=
  match read arguments with
  | .ok c => c.output env (c.file?.bind fs.resolve?)
  | .error m => m.output

end CommandLine
end AgentSpec
