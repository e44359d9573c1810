import AgentSpec.Document.Format
import Mathlib

/-!
# Extensions of paths

`EndsIn` says which name a path ends in: what is left before a run of slashes, and of slashes with
a dot after them, from the last slash on. That is the last component that names something
(`getLast?_named_iff`), and its extension alone tells the format (`ofPath?_of_extension`), whatever
directory the name stands in and whatever case its letters have.
-/

namespace AgentSpec

namespace Path

/-- Any run of slashes and of slashes with a dot after them. -/
def IsTrailer (run : List Char) : Prop :=
  ∃ pieces : List (List Char), (∀ p ∈ pieces, p = ['/'] ∨ p = ['/', '.']) ∧ run = pieces.flatten

/-- A path ends in a name when only a trailer follows the name, and nothing or a slash comes right
before it. -/
def EndsIn (path name : List Char) : Prop :=
  ∃ front run, path = front ++ (name ++ run) ∧ (front = [] ∨ front.getLast? = some '/') ∧
    IsTrailer run ∧ '/' ∉ name ∧ name ≠ [] ∧ name ≠ ['.']

theorem exists_last_of_mem {c : Char} {cs : List Char} (h : c ∈ cs) :
    ∃ front tail, cs = front ++ c :: tail ∧ c ∉ tail := by
  obtain ⟨tail, front, hcs, htail⟩ := List.eq_append_cons_of_mem (List.mem_reverse.mpr h)
  refine ⟨front.reverse, tail.reverse, ?_, by simpa using htail⟩
  simpa using congrArg List.reverse hcs

/-! ## Components -/

theorem named_of_name {name : List Char} (hslash : '/' ∉ name) (hnil : name ≠ [])
    (hdot : name ≠ ['.']) : named name = [name] := by
  simp [named, Text.split_of_not_mem hslash, hnil, hdot]

theorem named_append (xs ys : List Char) : named (xs ++ '/' :: ys) = named xs ++ named ys := by
  rw [named, Text.split_append, List.filter_append]
  rfl

theorem named_append_trailer (path : List Char) {run : List Char} (h : IsTrailer run) :
    named (path ++ run) = named path := by
  obtain ⟨pieces, hpieces, rfl⟩ := h
  induction pieces generalizing path with
  | nil => rw [List.flatten_nil, List.append_nil]
  | cons p pieces ih =>
    have hp : named (path ++ p) = named path := by
      rcases hpieces p List.mem_cons_self with rfl | rfl
      · rw [named_append]
        exact List.append_nil _
      · rw [named_append]
        exact List.append_nil _
    rw [List.flatten_cons, ← List.append_assoc,
      ih (path ++ p) fun q hq => hpieces q (List.mem_cons_of_mem p hq), hp]

theorem isTrailer_nil : IsTrailer [] := ⟨[], nofun, rfl⟩

theorem IsTrailer.concat {run piece : List Char} (h : IsTrailer run)
    (hp : piece = ['/'] ∨ piece = ['/', '.']) : IsTrailer (run ++ piece) := by
  obtain ⟨pieces, hpieces, rfl⟩ := h
  refine ⟨pieces ++ [piece], fun p hmem => ?_, by simp⟩
  rcases List.mem_append.mp hmem with hmem | hmem
  · exact hpieces p hmem
  · exact List.mem_singleton.mp hmem ▸ hp

theorem endsIn_of_getLast? {path name : List Char} (h : (named path).getLast? = some name) :
    EndsIn path name := by
  induction hn : path.length using Nat.strongRecOn generalizing path with
  | ind n ih =>
    by_cases hslash : '/' ∈ path
    · obtain ⟨front, tail, rfl, htail⟩ := exists_last_of_mem hslash
      rw [named_append] at h
      by_cases hskip : tail = [] ∨ tail = ['.']
      · -- A last component without a name belongs to the trailer.
        have hnone : named tail = [] := by rcases hskip with rfl | rfl <;> rfl
        rw [hnone, List.append_nil] at h
        have hshort : front.length < n := by
          rw [← hn, List.length_append, List.length_cons]
          omega
        obtain ⟨first, run, rfl, hfirst, hrun, hname⟩ := ih front.length hshort h rfl
        refine ⟨first, run ++ '/' :: tail, by simp, hfirst, hrun.concat ?_, hname⟩
        rcases hskip with rfl | rfl
        · exact Or.inl rfl
        · exact Or.inr rfl
      · obtain ⟨hnil, hdot⟩ := not_or.mp hskip
        rw [named_of_name htail hnil hdot, List.getLast?_concat] at h
        obtain rfl := Option.some_inj.mp h
        exact ⟨front ++ ['/'], [], by simp, Or.inr (by simp), isTrailer_nil, htail, hnil, hdot⟩
    · by_cases hskip : path = [] ∨ path = ['.']
      · have hnone : named path = [] := by rcases hskip with rfl | rfl <;> rfl
        rw [hnone] at h
        cases h
      · obtain ⟨hnil, hdot⟩ := not_or.mp hskip
        rw [named_of_name hslash hnil hdot] at h
        obtain rfl := Option.some_inj.mp h
        exact ⟨[], [], by simp, Or.inl rfl, isTrailer_nil, hslash, hnil, hdot⟩

theorem EndsIn.getLast? {path name : List Char} (h : EndsIn path name) :
    (named path).getLast? = some name := by
  obtain ⟨front, run, rfl, hfront, hrun, hslash, hnil, hdot⟩ := h
  rw [← List.append_assoc, named_append_trailer _ hrun]
  rcases hfront with rfl | hlast
  · rw [List.nil_append, named_of_name hslash hnil hdot]
    rfl
  · obtain ⟨directory, rfl⟩ := List.getLast?_eq_some_iff.mp hlast
    rw [List.append_assoc, List.singleton_append, named_append, named_of_name hslash hnil hdot,
      List.getLast?_concat]

/-- The last component that names something is the name that the path ends in. -/
theorem getLast?_named_iff {path name : List Char} :
    (named path).getLast? = some name ↔ EndsIn path name :=
  ⟨endsIn_of_getLast?, EndsIn.getLast?⟩

/-! ## The last dot -/

theorem splitAtLastDot?_append {stem extension : List Char} (h : '.' ∉ extension) :
    splitAtLastDot? (stem ++ '.' :: extension) = some (stem, extension) := by
  have hreverse : (stem ++ '.' :: extension).reverse =
      extension.reverse ++ '.' :: stem.reverse := by simp
  have hother : ∀ c ∈ extension.reverse, (c != '.') = true := by
    intro c hc
    exact bne_iff_ne.mpr fun he => h (he ▸ List.mem_reverse.mp hc)
  have htake : (extension.reverse ++ '.' :: stem.reverse).takeWhile (· != '.') =
      extension.reverse := by
    rw [List.takeWhile_append_of_pos hother, List.takeWhile_cons_of_neg (by decide),
      List.append_nil]
  have hdrop : (extension.reverse ++ '.' :: stem.reverse).dropWhile (· != '.') =
      '.' :: stem.reverse := by
    rw [List.dropWhile_append_of_pos hother, List.dropWhile_cons_of_neg (by decide)]
  rw [splitAtLastDot?, hreverse, htake, hdrop]
  simp

theorem splitAtLastDot?_of_not_mem {name : List Char} (h : '.' ∉ name) :
    splitAtLastDot? name = none := by
  have hdrop : name.reverse.dropWhile (· != '.') = [] := by
    rw [List.dropWhile_eq_nil_iff]
    intro c hc
    exact bne_iff_ne.mpr fun he => h (he ▸ List.mem_reverse.mp hc)
  rw [splitAtLastDot?, hdrop]

theorem splitAtLastDot?_eq_some_iff {name stem extension : List Char} :
    splitAtLastDot? name = some (stem, extension) ↔
      name = stem ++ '.' :: extension ∧ '.' ∉ extension := by
  constructor
  · intro h
    by_cases hdot : '.' ∈ name
    · obtain ⟨front, tail, rfl, htail⟩ := exists_last_of_mem hdot
      rw [splitAtLastDot?_append htail] at h
      obtain ⟨rfl, rfl⟩ := Prod.mk.inj (Option.some_inj.mp h)
      exact ⟨rfl, htail⟩
    · rw [splitAtLastDot?_of_not_mem hdot] at h
      cases h
  · rintro ⟨rfl, hdot⟩
    exact splitAtLastDot?_append hdot

theorem extensionOf?_eq_some_iff {name extension : List Char} :
    extensionOf? name = some extension ↔
      ∃ stem, name = stem ++ '.' :: extension ∧ name ≠ ['.', '.'] ∧ stem ≠ [] ∧
        '.' ∉ extension := by
  constructor
  · intro h
    rw [extensionOf?] at h
    by_cases hparent : name = ['.', '.']
    · rw [if_pos hparent] at h
      cases h
    · rw [if_neg hparent] at h
      cases hsplit : splitAtLastDot? name with
      | none =>
        rw [hsplit] at h
        cases h
      | some parts =>
        obtain ⟨stem, tail⟩ := parts
        obtain ⟨hname, hdot⟩ := splitAtLastDot?_eq_some_iff.mp hsplit
        rw [hsplit] at h
        dsimp only at h
        by_cases hstem : stem = []
        · rw [if_pos hstem] at h
          cases h
        · rw [if_neg hstem] at h
          obtain rfl := Option.some_inj.mp h
          exact ⟨stem, hname, hparent, hstem, hdot⟩
  · rintro ⟨stem, rfl, hparent, hstem, hdot⟩
    rw [extensionOf?, if_neg hparent, splitAtLastDot?_append hdot]
    exact if_neg hstem

/-! ## Case -/

/-- The letters from A to Z become those from a to z, and nothing else changes. -/
def lowered (c : Char) : Char :=
  if 'A' ≤ c ∧ c ≤ 'Z' then Char.ofNat (c.toNat + 32) else c

theorem lowered_eq_toLower : lowered = Char.toLower := by
  funext c
  have hupper : c.isUpper = true ↔ 'A' ≤ c ∧ c ≤ 'Z' := decide_eq_true_iff
  rw [lowered]
  by_cases h : 'A' ≤ c ∧ c ≤ 'Z'
  · rw [if_pos h, Char.toLower_eq_of_isUpper (hupper.mpr h)]
  · rw [if_neg h, Char.toLower_eq_of_not_isUpper (hupper.not.mpr h)]

theorem lowered_lowered (c : Char) : lowered (lowered c) = lowered c := by
  rw [lowered_eq_toLower, Char.toLower_toLower_eq_toLower]

/-- What is no letter comes from itself only. -/
theorem lowered_eq_iff {c d : Char} (hd : d.isAlpha = false) : lowered c = d ↔ c = d := by
  have hself : ∀ e : Char, e.isAlpha = false → lowered e = e := by
    intro e he
    have hupper : ¬ e.isUpper = true := fun h => by simp [Char.isAlpha, h] at he
    rw [lowered_eq_toLower, Char.toLower_eq_of_not_isUpper hupper]
  constructor
  · intro h
    have hc : c.isAlpha = false := by
      rw [← Char.isAlpha_toLower_eq_isAlpha, ← lowered_eq_toLower, h, hd]
    rw [← hself c hc, h]
  · rintro rfl
    exact hself c hd

theorem map_lowered_eq_dot {name : List Char} : name.map lowered = ['.'] ↔ name = ['.'] := by
  simp [List.map_eq_cons_iff, lowered_eq_iff]

theorem map_lowered_eq_dots {name : List Char} :
    name.map lowered = ['.', '.'] ↔ name = ['.', '.'] := by
  simp [List.map_eq_cons_iff, lowered_eq_iff]

theorem named_map_lowered (path : List Char) :
    named (path.map lowered) = (named path).map (List.map lowered) := by
  have hkeep : (fun c : List Char => !(c == [] || c == ['.'])) ∘ List.map lowered =
      fun c => !(c == [] || c == ['.']) := by
    funext c
    have hnil : (c.map lowered == []) = (c == []) := by cases c <;> rfl
    have hdot : (c.map lowered == ['.']) = (c == ['.']) := by
      rw [Bool.eq_iff_iff, beq_iff_eq, beq_iff_eq, map_lowered_eq_dot]
    rw [Function.comp_apply, hnil, hdot]
  rw [named, Text.split_map fun c => lowered_eq_iff rfl, List.filter_map, hkeep]
  rfl

theorem extensionOf?_map_lowered (name : List Char) :
    extensionOf? (name.map lowered) = (extensionOf? name).map (List.map lowered) := by
  have hdot : ∀ cs : List Char, '.' ∉ cs → '.' ∉ cs.map lowered := by
    intro cs hcs h
    obtain ⟨c, hc, he⟩ := List.mem_map.mp h
    exact hcs ((lowered_eq_iff rfl).mp he ▸ hc)
  by_cases hparent : name = ['.', '.']
  · rw [hparent]
    rfl
  · rw [extensionOf?, extensionOf?, if_neg hparent, if_neg (map_lowered_eq_dots.not.mpr hparent)]
    by_cases hname : '.' ∈ name
    · obtain ⟨front, tail, rfl, htail⟩ := exists_last_of_mem hname
      have hself : lowered '.' = '.' := rfl
      rw [List.map_append, List.map_cons, hself, splitAtLastDot?_append htail,
        splitAtLastDot?_append (hdot tail htail)]
      by_cases hfront : front = []
      · rw [hfront]
        rfl
      · simp [hfront]
    · rw [splitAtLastDot?_of_not_mem hname, splitAtLastDot?_of_not_mem (hdot name hname)]
      rfl

end Path

/-! ## Formats -/

namespace Format

open AgentSpec.Path

/-- How the extensions of a format are spelled in small letters. -/
def spellings : Format → List (List Char)
  | .yaml => ["yaml".toList, "yml".toList]
  | .json => ["json".toList]

/-- The path ends in a name with a stem and an extension of the format, in letters of any case. -/
def IsNamedBy (format : Format) (path : String) : Prop :=
  ∃ stem extension, EndsIn path.toList (stem ++ '.' :: extension) ∧
    stem ++ '.' :: extension ≠ ['.', '.'] ∧ stem ≠ [] ∧ '.' ∉ extension ∧
    extension.map lowered ∈ format.spellings

theorem ofExtension?_eq_some_iff {extension : List Char} {format : Format} :
    ofExtension? extension = some format ↔ extension.map lowered ∈ format.spellings := by
  rw [lowered_eq_toLower, ofExtension?]
  generalize extension.map Char.toLower = lower
  by_cases hyaml : lower = "yaml".toList ∨ lower = "yml".toList
  · rw [if_pos hyaml]
    cases format with
    | yaml => simpa [spellings] using hyaml
    | json => rcases hyaml with rfl | rfl <;> simp [spellings]
  · rw [if_neg hyaml]
    by_cases hjson : lower = "json".toList
    · cases format <;> simp [spellings, hjson]
    · rw [if_neg hjson]
      cases format with
      | yaml => simpa [spellings] using hyaml
      | json => simpa [spellings] using hjson

/-- The format as it follows from the characters of the path. -/
theorem ofPath?_eq (path : String) :
    ofPath? path = ((named path.toList).getLast?.bind extensionOf?).bind ofExtension? := by
  rw [ofPath?, extension?, Option.bind_map]
  simp only [Function.comp_def, String.toList_ofList]

theorem ofPath?_eq_some_iff {path : String} {format : Format} :
    ofPath? path = some format ↔ format.IsNamedBy path := by
  rw [ofPath?_eq]
  constructor
  · intro h
    obtain ⟨extension, hextension, hformat⟩ := Option.bind_eq_some_iff.mp h
    obtain ⟨name, hname, hof⟩ := Option.bind_eq_some_iff.mp hextension
    obtain ⟨stem, rfl, hparent, hstem, hdot⟩ := extensionOf?_eq_some_iff.mp hof
    exact ⟨stem, extension, getLast?_named_iff.mp hname, hparent, hstem, hdot,
      ofExtension?_eq_some_iff.mp hformat⟩
  · rintro ⟨stem, extension, hends, hparent, hstem, hdot, hformat⟩
    have hof := extensionOf?_eq_some_iff.mpr ⟨stem, rfl, hparent, hstem, hdot⟩
    rw [hends.getLast?, Option.bind_some, hof, Option.bind_some]
    exact ofExtension?_eq_some_iff.mpr hformat

theorem ofExtension?_map_lowered (extension : List Char) :
    ofExtension? (extension.map lowered) = ofExtension? extension := by
  apply Option.ext
  intro format
  rw [ofExtension?_eq_some_iff, ofExtension?_eq_some_iff, List.map_map]
  have hidem : lowered ∘ lowered = lowered := funext lowered_lowered
  rw [hidem]

/-- Only the last component of a path tells its format, and the case of its letters does not. -/
theorem ofPath?_map_lowered (path : String) :
    ofPath? path = ((named (path.toList.map lowered)).getLast?.bind extensionOf?).bind
      ofExtension? := by
  rw [ofPath?_eq, named_map_lowered, List.getLast?_map, Option.bind_map]
  cases (named path.toList).getLast? with
  | none => rfl
  | some name =>
    simp only [Option.bind_some, Function.comp_apply, extensionOf?_map_lowered, Option.bind_map,
      ofExtension?_map_lowered]

/-- A format is that of the extension of the name that the path ends in. Directories before the
name, a trailer after it and the case of letters do not matter. -/
theorem ofPath?_of_extension (path : String) :
    (∀ format, ofPath? path = some format ↔ format.IsNamedBy path) ∧
    (∀ directory, (∃ name, EndsIn path.toList name) →
      ofPath? (directory ++ "/" ++ path) = ofPath? path) ∧
    (∀ run, IsTrailer run.toList → ofPath? (path ++ run) = ofPath? path) ∧
    ∀ path', path'.toList.map lowered = path.toList.map lowered → ofPath? path' = ofPath? path := by
  refine ⟨fun format => ofPath?_eq_some_iff, fun directory ⟨name, hends⟩ => ?_, fun run hrun => ?_,
    fun path' hcase => ?_⟩
  · have hpath : (directory ++ "/" ++ path).toList = directory.toList ++ '/' :: path.toList := by
      simp
    rw [ofPath?_eq, ofPath?_eq, hpath, named_append, List.getLast?_append, hends.getLast?]
    rfl
  · rw [ofPath?_eq, ofPath?_eq, String.toList_append, named_append_trailer _ hrun]
  · rw [ofPath?_map_lowered, ofPath?_map_lowered, hcase]

/-- A name in a directory with another extension, before slashes and a dot, and in other case. -/
theorem ofPath?_of_extension_name :
    let name := "x.YmL"
    EndsIn name.toList ['x', '.', 'Y', 'm', 'L'] ∧ yaml.IsNamedBy name ∧ ofPath? name = some .yaml ∧
      ofPath? ("a.json/.." ++ "/" ++ name) = some .yaml ∧
      IsTrailer "//./".toList ∧ ofPath? (name ++ "//./") = some .yaml ∧
      "X.yMl".toList.map lowered = name.toList.map lowered ∧ ofPath? "X.yMl" = some .yaml := by
  intro name
  obtain ⟨hformat, hdirectory, htrailer, hcase⟩ := ofPath?_of_extension name
  have hends : EndsIn name.toList ['x', '.', 'Y', 'm', 'L'] :=
    ⟨[], [], by decide, Or.inl rfl, isTrailer_nil, by decide, by decide, by decide⟩
  have hnamed : yaml.IsNamedBy name :=
    ⟨['x'], ['Y', 'm', 'L'], hends, by decide, by decide, by decide, by decide⟩
  have hrun : IsTrailer "//./".toList := ⟨[['/'], ['/', '.'], ['/']], by decide, rfl⟩
  have hother : "X.yMl".toList.map lowered = name.toList.map lowered := by decide
  have hof := (hformat .yaml).mpr hnamed
  exact ⟨hends, hnamed, hof, (hdirectory "a.json/.." ⟨_, hends⟩).trans hof, hrun,
    (htrailer "//./" hrun).trans hof, hother, (hcase "X.yMl" hother).trans hof⟩

end Format
end AgentSpec
