import AgentSpec.CommandLine

/-!
# The program

Only the environment, the file and the streams are touched here.
-/

namespace AgentSpec.CommandLine

/-- What kept a file from being read, where that was not the way to it. -/
def refusal? : IO.Error → Option SystemError
  | .permissionDenied _ number description
  | .resourceExhausted _ number description
  | .noSuchThing _ number description
  | .invalidArgument _ number description
  | .inappropriateType _ number description
  | .resourceBusy number description
  | .resourceVanished number description
  | .hardwareFault number description
  | .unsupportedOperation number description
  | .illegalOperation number description
  | .otherError number description => some ⟨description, number.toNat⟩
  | _ => none

def leadsSomewhere (path : String) : IO Bool := do
  try
    let _ ← IO.FS.realPath path
    return true
  catch _ => return false

/-- What a path leads to. A file that is there but cannot be read is told from one that is not. -/
def findEntry (path : String) : IO (Option Entry) := do
  try
    let bytes ← IO.FS.readBinFile path
    return some (.file bytes)
  catch
    | .inappropriateType _ 21 _ => return some (.directory [])
    | e =>
      if ← leadsSomewhere path then return (refusal? e).map .closed
      else return none

def readEnvironment (names : List String) : IO Environment := do
  let values ← names.mapM fun name => return (name, ← IO.getEnv name)
  return values.filterMap fun (name, value?) => value?.map fun value => (name, value)

def writeOutput (o : Output) : IO UInt32 := do
  IO.print o.stdout
  IO.eprint o.stderr
  return o.code.toUInt32

end AgentSpec.CommandLine

open AgentSpec.CommandLine in
def main (arguments : List String) : IO UInt32 := do
  match read arguments with
  | .error m => writeOutput m.output
  | .ok c =>
    let env ← readEnvironment ["NO_COLOR", "CLICOLOR_FORCE"]
    let found? ← match c.file? with
      | some path => findEntry path
      | none => pure none
    writeOutput (c.output env found?)
