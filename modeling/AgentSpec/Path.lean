import AgentSpec.Text.Split

/-!
# Paths

A path is text; its components are what stands between slashes. The extension is that of the last
component that names something.
-/

namespace AgentSpec.Path

/-- The components between slashes that name something: neither empty nor the current directory. -/
def named (path : List Char) : List (List Char) :=
  (Text.split '/' path).filter fun c => !(c == [] || c == ['.'])

/-- The part before the last dot and the part after it. -/
def splitAtLastDot? (name : List Char) : Option (List Char × List Char) :=
  let extension := name.reverse.takeWhile (· != '.')
  match name.reverse.dropWhile (· != '.') with
  | [] => none
  | _ :: stem => some (stem.reverse, extension.reverse)

/-- The parent directory has no extension, and a name that only begins with a dot has none. -/
def extensionOf? (name : List Char) : Option (List Char) :=
  if name = ['.', '.'] then none
  else
    match splitAtLastDot? name with
    | some (stem, extension) => if stem = [] then none else some extension
    | none => none

def extension? (path : String) : Option String :=
  ((named path.toList).getLast?.bind extensionOf?).map String.ofList

end AgentSpec.Path
