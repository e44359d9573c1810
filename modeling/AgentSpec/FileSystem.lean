import AgentSpec.Path

/-!
# Files, directories and links

A file system as it is seen from a working directory. `resolve?` follows a path piece by piece; a
link on the way is replaced by its target, and no more than forty links are followed.
-/

namespace AgentSpec

/-- Why the operating system refuses a call: its description and its number for the reason. -/
structure SystemError where
  description : String
  number : Nat
  deriving DecidableEq, Repr

def SystemError.message (e : SystemError) : String :=
  e.description ++ " (os error " ++ toString e.number ++ ")"

inductive Entry where
  | file (bytes : ByteArray)
  /-- A file that the system does not let be read. -/
  | closed (e : SystemError)
  | directory (entries : List (String × Entry))
  | link (target : String)

/-- What a directory holds. -/
abbrev Folder := List (String × Entry)

structure FileSystem where
  working : Folder
  /-- The directories around the working one, innermost first. -/
  above : List Folder

/-! ## Resolution -/

/-- A directory on the way of a path, with those around it. -/
structure Folder.Location where
  folder : Folder
  above : List Folder

namespace Folder.Location

def into (l : Location) (inner : Folder) : Location := ⟨inner, l.folder :: l.above⟩

/-- The directory around this one; around the outermost there is none but itself. -/
def parent (l : Location) : Location :=
  match l.above with
  | [] => l
  | outer :: above => ⟨outer, above⟩

def root (l : Location) : Location := ⟨l.above.getLast?.getD l.folder, []⟩

/-- Where a path starts out from this directory. -/
def startOf (l : Location) (path : String) : Location :=
  if path.toList.head? = some '/' then l.root else l

/-- The entry that the pieces of a path lead to. A file has nothing below it, not even itself, and a
link without a target leads nowhere. -/
def walk (links : Nat) (l : Location) (pieces : List (List Char)) : Option Entry :=
  match pieces with
  | [] => some (.directory l.folder)
  | piece :: rest =>
    if piece = [] ∨ piece = ['.'] then walk links l rest
    else if piece = ['.', '.'] then walk links l.parent rest
    else
      match l.folder.lookup (String.ofList piece) with
      | none => none
      | some (.directory inner) => walk links (l.into inner) rest
      | some (.file bytes) => if rest = [] then some (.file bytes) else none
      | some (.closed e) => if rest = [] then some (.closed e) else none
      | some (.link target) =>
        if target = "" then none
        else
          match links with
          | 0 => none
          | links + 1 => walk links (l.startOf target) (Text.split '/' target.toList ++ rest)
termination_by (links, pieces.length)

end Folder.Location

namespace FileSystem

def maxLinks : Nat := 40

/-- Longer paths, in bytes, lead nowhere. -/
def maxPathBytes : Nat := 4095

def location (fs : FileSystem) : Folder.Location := ⟨fs.working, fs.above⟩

/-- What a path leads to, links followed. -/
def resolve? (fs : FileSystem) (path : String) : Option Entry :=
  if path.isEmpty ∨ maxPathBytes < path.utf8ByteSize then none
  else (fs.location.startOf path).walk maxLinks (Text.split '/' path.toList)

end FileSystem

/-! ## Contents -/

/-- Why an entry has no text. -/
inductive ReadFault where
  | isDirectory
  | refused (e : SystemError)
  | notUnicode
  deriving DecidableEq, Repr

def ReadFault.message : ReadFault → String
  | .isDirectory => SystemError.message ⟨"Is a directory", 21⟩
  | .refused e => e.message
  | .notUnicode => "stream did not contain valid UTF-8"

/-- The text of a file. A link that was not followed has none. -/
def Entry.text : Entry → Except ReadFault String
  | .file bytes =>
    match String.fromUTF8? bytes with
    | some text => .ok text
    | none => .error .notUnicode
  | .closed e => .error (.refused e)
  | .directory _ => .error .isDirectory
  | .link _ => .error .isDirectory

/-! ## Changes -/

namespace Folder

/-- Put an entry in the place of any of that name. -/
def set (name : String) (e : Entry) (f : Folder) : Folder :=
  (name, e) :: f.filter fun x => x.1 != name

/-- The directory of that name, empty if there is none. -/
def inner (name : String) (f : Folder) : Folder :=
  match f.lookup name with
  | some (.directory inner) => inner
  | _ => []

/-- A directory that is made again keeps what it holds. -/
def renewed (f : Folder) (name : String) : Entry → Entry
  | .directory [] => .directory (f.inner name)
  | e => e

/-- Put an entry at a path of names, with the directories that it needs. -/
def put (e : Entry) : List String → Folder → Folder
  | [], f => f
  | [name], f => f.set name (f.renewed name e)
  | name :: names, f => f.set name (.directory (put e names (f.inner name)))

/-- Remove what is at a path of names. -/
def erase : List String → Folder → Folder
  | [], f => f
  | [name], f => f.filter fun x => x.1 != name
  | name :: names, f =>
    match f.lookup name with
    | some (.directory inner) => f.set name (.directory (erase names inner))
    | _ => f

end Folder

namespace FileSystem

def names (path : String) : List String := (Path.named path.toList).map String.ofList

def put (fs : FileSystem) (path : String) (e : Entry) : FileSystem :=
  { fs with working := fs.working.put e (names path) }

def erase (fs : FileSystem) (path : String) : FileSystem :=
  { fs with working := fs.working.erase (names path) }

end FileSystem
end AgentSpec
