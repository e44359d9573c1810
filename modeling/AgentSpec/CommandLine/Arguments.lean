import AgentSpec.CommandLine.Command

/-!
# Reading arguments

Arguments are read from left to right, and the first that settles the matter wins: help, the
version or a misuse. Only what a later argument could still mend, a missing file, and the clash of
two modes wait for the end.
-/

namespace AgentSpec.CommandLine

/-- The flags given in one scope so far. -/
structure Given where
  verbosity : Nat
  noColor : Bool
  json : Bool
  quiet : Bool

def Given.empty : Given := ⟨0, false, false, false⟩

/-- What ends the reading before the last argument. -/
inductive Halt where
  | misuse (m : Misuse)
  | command (c : Command)

/-! ## Options -/

namespace Given

/-- Note a flag that must not be given twice. -/
def once (already : Bool) (f : Flag) (g : Given) : Except Halt Given :=
  if already then .error (.misuse (.repeated f)) else .ok g

def take (s : Scope) (g : Given) : Flag → Except Halt Given
  | .verbose => .ok { g with verbosity := g.verbosity + 1 }
  | .noColor => once g.noColor .noColor { g with noColor := true }
  | .json => once g.json .json { g with json := true }
  | .quiet => once g.quiet .quiet { g with quiet := true }
  | .help => .error (.command (.help s.topic))
  | .version => .error (.command .version)

def takeShort (s : Scope) (g : Given) (c : Char) : Except Halt Given :=
  match s.ofShort? c with
  | some f => g.take s f
  | none => .error (.misuse (.unknownOption ("-" ++ c.toString)))

/-- A long option, after its two dashes. No flag takes a value. -/
def takeLong (s : Scope) (g : Given) (option : List Char) : Except Halt Given :=
  let name := String.ofList (option.takeWhile (· != '='))
  match s.ofLong? name with
  | some f => if option.contains '=' then .error (.misuse (.unwantedValue f)) else g.take s f
  | none => .error (.misuse (.unknownOption ("--" ++ name)))

/-- One long option, or short ones that share a dash. -/
def takeOption (s : Scope) (g : Given) : List Char → Except Halt Given
  | '-' :: '-' :: option => g.takeLong s option
  | '-' :: cluster => cluster.foldlM (takeShort s) g
  | _ => .ok g

end Given

/-- A dash alone is a word like any other. -/
def isOption (word : String) : Bool :=
  match word.toList with
  | '-' :: _ :: _ => true
  | _ => false

/-! ## Words -/

/-- The arguments of a validation so far. -/
structure Arguments where
  given : Given
  file? : Option String

namespace Arguments

def takeFile (a : Arguments) (word : String) : Except Halt Arguments :=
  if a.file?.isSome then .error (.misuse (.secondFile word))
  else if word.isEmpty then .error (.misuse .emptyFile)
  else .ok { a with file? := some word }

/-- After two dashes alone every word is a file. -/
def take (a : Arguments) : List String → Except Halt Arguments
  | [] => .ok a
  | word :: words =>
    if word = "--" then words.foldlM takeFile a
    else if isOption word then do
      let given ← a.given.takeOption .validate word.toList
      take { a with given } words
    else do
      let a ← a.takeFile word
      take a words

def mode? (a : Arguments) : Option Mode :=
  match a.given.json, a.given.quiet with
  | false, false => some .report
  | true, false => some .json
  | false, true => some .quiet
  | true, true => none

/-- The request of complete arguments. A verbosity after the command replaces the one before it. -/
def request (before : Given) (a : Arguments) : Except Misuse Request :=
  match a.file?, a.mode? with
  | none, _ => .error .noFile
  | _, none => .error .jsonAndQuiet
  | some file, some mode =>
    let after := a.given
    .ok ⟨file, mode, if after.verbosity = 0 then before.verbosity else after.verbosity,
      before.noColor || after.noColor⟩

end Arguments

/-- What help is asked on, by the words after `help`. -/
def topicOf : List String → Except Misuse Topic
  | [] => .ok .program
  | ["validate"] => .ok .validate
  | ["help"] => .ok .help
  | words => .error (.unknownCommand (" ".intercalate words))

def readFrom (g : Given) : List String → Except Halt Command
  | [] => .error (.misuse .noCommand)
  | word :: words =>
    if word = "--" then .error (.misuse .noCommand)
    else if isOption word then do
      let g ← g.takeOption .program word.toList
      readFrom g words
    else if word = "validate" then do
      let a ← Arguments.take ⟨.empty, none⟩ words
      ((a.request g).map Command.validate).mapError .misuse
    else if word = "help" then ((topicOf words).map Command.help).mapError .misuse
    else .error (.misuse (.unknownCommand word))

/-- The command that the arguments of the program ask for. -/
def read (arguments : List String) : Except Misuse Command :=
  match readFrom .empty arguments with
  | .ok c => .ok c
  | .error (.command c) => .ok c
  | .error (.misuse m) => .error m

end AgentSpec.CommandLine
