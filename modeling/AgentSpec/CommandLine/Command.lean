/-!
# Commands

What a command line asks for: help, the version, or the validation of a document. A flag belongs
to the whole program, to validation, or to both.
-/

namespace AgentSpec.CommandLine

/-- How the outcome of a validation is shown. -/
inductive Mode where
  | report
  | json
  | quiet
  deriving DecidableEq, Repr

structure Request where
  file : String
  mode : Mode
  verbosity : Nat
  noColor : Bool
  deriving DecidableEq, Repr

/-- What there is help on. -/
inductive Topic where
  | program
  | validate
  | help
  deriving DecidableEq, Repr

inductive Command where
  | help (t : Topic)
  | version
  | validate (r : Request)
  deriving DecidableEq, Repr

/-! ## Flags -/

inductive Flag where
  | json
  | quiet
  | verbose
  | noColor
  | help
  | version
  deriving DecidableEq, Repr

namespace Flag

def long : Flag → String
  | json => "json"
  | quiet => "quiet"
  | verbose => "verbose"
  | noColor => "no-color"
  | help => "help"
  | version => "version"

def short? : Flag → Option Char
  | json => none
  | quiet => some 'q'
  | verbose => some 'v'
  | noColor => none
  | help => some 'h'
  | version => some 'V'

/-- Only verbosity adds up. -/
def repeatable (f : Flag) : Bool := f == verbose

def summary : Flag → String
  | json => "Output results as JSON"
  | quiet => "Print nothing; report validity through the exit code only"
  | verbose => "Enable verbose output (use -vv for debug output)"
  | noColor => "Disable coloured output"
  | help => "Print help"
  | version => "Print version"

end Flag

/-- Where flags stand: before the command or after it. -/
inductive Scope where
  | program
  | validate
  deriving DecidableEq, Repr

namespace Scope

def topic : Scope → Topic
  | program => .program
  | validate => .validate

/-- The flags of a scope, in the order in which help lists them. -/
def flags : Scope → List Flag
  | program => [.verbose, .noColor, .help, .version]
  | validate => [.json, .quiet, .verbose, .noColor, .help]

def ofLong? (s : Scope) (name : String) : Option Flag := s.flags.find? fun f => f.long == name

def ofShort? (s : Scope) (c : Char) : Option Flag := s.flags.find? fun f => f.short? == some c

end Scope

/-! ## Misuse -/

/-- Why a command line asks for nothing. -/
inductive Misuse where
  | noCommand
  | unknownCommand (word : String)
  | unknownOption (option : String)
  | unwantedValue (f : Flag)
  | repeated (f : Flag)
  | noFile
  | emptyFile
  | secondFile (word : String)
  | jsonAndQuiet
  deriving DecidableEq, Repr

def Misuse.message : Misuse → String
  | noCommand => "a command is required"
  | unknownCommand word => "unknown command '" ++ word ++ "'"
  | unknownOption option => "unknown option '" ++ option ++ "'"
  | unwantedValue f => "'--" ++ f.long ++ "' takes no value"
  | repeated f => "'--" ++ f.long ++ "' is given twice"
  | noFile => "a file is required"
  | emptyFile => "the name of the file is empty"
  | secondFile word => "only one file is validated, unexpected '" ++ word ++ "'"
  | jsonAndQuiet => "'--json' and '--quiet' exclude each other"

end AgentSpec.CommandLine
