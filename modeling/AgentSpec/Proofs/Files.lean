import AgentSpec.Load

/-!
# What names lead to

A name without slashes is looked up in the working directory and nowhere else.
-/

namespace AgentSpec

namespace FileSystem

/-- The path is the name of an entry of the working directory, if it has one of that name. -/
def IsName (path : String) : Prop :=
  '/' ∉ path.toList ∧ path.toList ≠ [] ∧ path.toList ≠ ['.'] ∧ path.toList ≠ ['.', '.'] ∧
    path.utf8ByteSize ≤ maxPathBytes

instance (path : String) : Decidable (IsName path) :=
  inferInstanceAs (Decidable ('/' ∉ path.toList ∧ path.toList ≠ [] ∧ path.toList ≠ ['.'] ∧
    path.toList ≠ ['.', '.'] ∧ path.utf8ByteSize ≤ maxPathBytes))

/-- A name leads to its entry, or one link further if that has a target. -/
theorem resolve?_of_isName (fs : FileSystem) {path : String} (h : IsName path) :
    fs.resolve? path = match fs.working.lookup path with
      | some (.link target) =>
        if target = "" then none
        else (fs.location.startOf target).walk (maxLinks - 1) (Text.split '/' target.toList)
      | found? => found? := by
  obtain ⟨hslash, hnil, hdot, hdots, hsize⟩ := h
  have hlong : ¬ (path.isEmpty ∨ maxPathBytes < path.utf8ByteSize) := by
    rintro (hempty | hlong)
    · rw [String.isEmpty_iff.mp hempty] at hnil
      exact hnil rfl
    · omega
  have hstart : path.toList.head? ≠ some '/' := fun hh => hslash (List.mem_of_head? hh)
  have hfolder : fs.location.folder = fs.working := rfl
  rw [resolve?, if_neg hlong, Text.split_of_not_mem hslash, Folder.Location.startOf, if_neg hstart,
    Folder.Location.walk, if_neg (by simp [hnil, hdot]), if_neg hdots, String.ofList_toList,
    hfolder]
  cases fs.working.lookup path with
  | none => rfl
  | some entry =>
    cases entry with
    | file bytes => rfl
    | closed fault => rfl
    | directory inner =>
      dsimp only
      rw [Folder.Location.walk]
      rfl
    | link target =>
      dsimp only
      rw [List.append_nil]
      rfl

/-- A name that the working directory does not have is not found. -/
theorem load_of_absent {fs : FileSystem} {path : String} (h : IsName path)
    (habsent : fs.working.lookup path = none) : fs.load path = .error (.notFound path) := by
  rw [load, resolve?_of_isName fs h, habsent]
  rfl

end FileSystem
end AgentSpec
