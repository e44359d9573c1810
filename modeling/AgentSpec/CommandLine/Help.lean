import AgentSpec.CommandLine.Command

/-!
# Help texts

A help text says what its topic is for, how it is written, and lists its commands, arguments and
flags in two columns.
-/

namespace AgentSpec.CommandLine

namespace Help

def padded (width : Nat) (s : String) : String := s ++ "".pushn ' ' (width - s.length)

/-- Rows of a name and what it means, the meanings in one column. -/
def table (rows : List (String × String)) : String :=
  let width := (rows.map fun r => r.1.length).foldl max 0
  String.join (rows.map fun r => "  " ++ padded width r.1 ++ "  " ++ r.2 ++ "\n")

def chapter (heading : String) (rows : List (String × String)) : String :=
  "\n" ++ heading ++ ":\n" ++ table rows

/-- Both spellings of a flag; dots mark one that may be repeated. -/
def spelling (f : Flag) : String :=
  (match f.short? with
    | some c => "-" ++ c.toString ++ ", "
    | none => "    ")
    ++ "--" ++ f.long ++ (if f.repeatable then "..." else "")

def options (s : Scope) : String :=
  chapter "Options" (s.flags.map fun f => (spelling f, f.summary))

end Help

namespace Topic

def summary : Topic → String
  | program => "Validate OpenAPIA specification documents"
  | validate => "Validate an OpenAPIA specification file (.yaml, .yml or .json)"
  | help => "Print this message or the help of the given subcommand(s)"

def usage : Topic → String
  | program => "openapia [OPTIONS] <COMMAND>"
  | validate => "openapia validate [OPTIONS] <FILE>"
  | help => "openapia help [COMMAND]..."

def chapters : Topic → String
  | program =>
    Help.chapter "Commands" [("validate", summary validate), ("help", summary help)]
      ++ Help.options .program
  | validate =>
    Help.chapter "Arguments" [("<FILE>", "Specification file to validate")]
      ++ Help.options .validate
  | help => Help.chapter "Arguments" [("[COMMAND]...", "Print help for the subcommand(s)")]

def text (t : Topic) : String := t.summary ++ "\n\nUsage: " ++ t.usage ++ "\n" ++ t.chapters

end Topic

def versionText : String := "openapia 0.1.0\n"

def Misuse.text (m : Misuse) : String :=
  "error: " ++ m.message ++ "\n\nUsage: " ++ Topic.program.usage ++ "\n"

end AgentSpec.CommandLine
