import AgentSpec.Document.Format
import AgentSpec.Finding

/-!
# Log records

What a run tells about itself as it goes. A record has a level, a message and named numbers; the
verbosity decides which levels are shown.
-/

namespace AgentSpec

inductive Level where
  | info
  | debug
  deriving DecidableEq, Repr

inductive Record where
  | started (path : String)
  | validating (path : String)
  | parsing (path : String) (format : Format)
  | loadFailed (path message : String)
  | checkingRequired
  | checkingSection (s : Section)
  | unsupportedVersion (version : String)
  | checkingEntries (count : Nat) (c : Collection)
  | checkingReferences
  | unresolved (r : Reference) (value : Tree) (task step : Nat)
  | finished (errors warnings : Nat)

namespace Record

def level : Record → Level
  | .started _ => .info
  | .finished _ _ => .info
  | _ => .debug

def message : Record → String
  | .started path => "Validating " ++ path
  | .validating path => "Validating " ++ path
  | .parsing path format => "Parsing " ++ path ++ " as " ++ format.name
  | .loadFailed path message => "Failed to load " ++ path ++ ": " ++ message
  | .checkingRequired => "Checking required sections"
  | .checkingSection s => "Checking section " ++ s.name
  | .unsupportedVersion version =>
    "Version " ++ version ++ " is outside " ++ supportedVersion ++ ".x"
  | .checkingEntries count c =>
    "Checking " ++ toString count ++ " " ++ c.toSection.name ++ " entries"
  | .checkingReferences => "Checking cross-section references"
  | .unresolved r value _ _ => "Unresolved " ++ r.key ++ " reference " ++ Json.compact value
  | .finished errors warnings =>
    "Validation finished: " ++ toString errors ++ " errors, " ++ toString warnings ++ " warnings"

def fields : Record → List (String × Nat)
  | .unresolved _ _ task step => [("task", task), ("step", step)]
  | _ => []

end Record

/-! ## The written line -/

/-- Control characters that a terminal would act on are written as escapes. -/
def logEscape (c : Char) : String :=
  if c = '\x1b' then "\\x1b"
  else if c = '\x07' then "\\x07"
  else if c = '\x08' then "\\x08"
  else if c = '\x0c' then "\\x0c"
  else if c = '\x7f' then "\\x7f"
  else if 0x80 ≤ c.toNat ∧ c.toNat ≤ 0x9f then
    "\\u\x7b" ++ Text.hexDigits c.toNat ++ "\x7d"
  else c.toString

def styled (code text : String) : String := "\x1b[" ++ code ++ "m" ++ text ++ "\x1b[0m"

def Level.text (color : Bool) : Level → String
  | .info => if color then styled "32" " INFO" else " INFO"
  | .debug => if color then styled "34" "DEBUG" else "DEBUG"

def fieldText (color : Bool) (field : String × Nat) : String :=
  if color then " " ++ styled "3" field.1 ++ styled "2" "=" ++ toString field.2
  else " " ++ field.1 ++ "=" ++ toString field.2

def Record.line (color : Bool) (r : Record) : String :=
  r.level.text color ++ " " ++ String.join (r.message.toList.map logEscape)
    ++ String.join (r.fields.map (fieldText color)) ++ "\n"

/-- One `-v` shows what is informative, more show everything. -/
def Record.shown (verbosity : Nat) (r : Record) : Bool :=
  match r.level with
  | .info => 1 ≤ verbosity
  | .debug => 2 ≤ verbosity

def logText (verbosity : Nat) (color : Bool) (records : List Record) : String :=
  String.join ((records.filter (Record.shown verbosity)).map (Record.line color))

end AgentSpec
