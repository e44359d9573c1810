import AgentSpec.Load
import AgentSpec.Proofs.Extension

/-!
# What loading a path gives

`LeadsTo` tells, link by link, what a path leads to; `resolve?` finds exactly that, over at most
forty links (`resolve?_eq_some_iff`). What loading gives is told from there in the order in which
the conditions are looked at: `load_outcome`.
-/

namespace AgentSpec

namespace Folder.Location

/-- A piece that is looked up in a directory. -/
def IsEntryName (piece : List Char) : Prop := piece ≠ [] ∧ piece ≠ ['.'] ∧ piece ≠ ['.', '.']

instance (piece : List Char) : Decidable (IsEntryName piece) :=
  inferInstanceAs (Decidable (piece ≠ [] ∧ piece ≠ ['.'] ∧ piece ≠ ['.', '.']))

/-- What the pieces of a path lead to from a directory, and over how many links. A file has nothing
below it, and a link is replaced by the pieces of its target, if it has one. -/
inductive LeadsTo : Location → List (List Char) → Nat → Entry → Prop
  | here (l : Location) : LeadsTo l [] 0 (.directory l.folder)
  | stay {l : Location} {piece : List Char} {rest : List (List Char)} {n : Nat} {e : Entry} :
      piece = [] ∨ piece = ['.'] → LeadsTo l rest n e → LeadsTo l (piece :: rest) n e
  | up {l : Location} {rest : List (List Char)} {n : Nat} {e : Entry} :
      LeadsTo l.parent rest n e → LeadsTo l (['.', '.'] :: rest) n e
  | down {l : Location} {piece : List Char} {rest : List (List Char)} {n : Nat} {e : Entry}
      {inner : Folder} : IsEntryName piece →
      l.folder.lookup (String.ofList piece) = some (.directory inner) →
      LeadsTo (l.into inner) rest n e → LeadsTo l (piece :: rest) n e
  | file {l : Location} {piece : List Char} {bytes : ByteArray} : IsEntryName piece →
      l.folder.lookup (String.ofList piece) = some (.file bytes) →
      LeadsTo l [piece] 0 (.file bytes)
  | closed {l : Location} {piece : List Char} {fault : SystemError} : IsEntryName piece →
      l.folder.lookup (String.ofList piece) = some (.closed fault) →
      LeadsTo l [piece] 0 (.closed fault)
  | link {l : Location} {piece : List Char} {rest : List (List Char)} {n : Nat} {e : Entry}
      {target : String} : IsEntryName piece →
      l.folder.lookup (String.ofList piece) = some (.link target) → target ≠ "" →
      LeadsTo (l.startOf target) (Text.split '/' target.toList ++ rest) n e →
      LeadsTo l (piece :: rest) (n + 1) e

/-- Links are followed to their end. -/
theorem LeadsTo.ne_link {l : Location} {pieces : List (List Char)} {n : Nat} {e : Entry}
    (h : LeadsTo l pieces n e) (target : String) : e ≠ .link target := by
  induction h with
  | here l => exact nofun
  | stay _ _ ih => exact ih
  | up _ ih => exact ih
  | down _ _ _ ih => exact ih
  | file _ _ => exact nofun
  | closed _ _ => exact nofun
  | link _ _ _ _ ih => exact ih

theorem isEntryName_iff {piece : List Char} :
    IsEntryName piece ↔ ¬ (piece = [] ∨ piece = ['.']) ∧ piece ≠ ['.', '.'] := by
  rw [IsEntryName, not_or, and_assoc]

theorem walk_of_leadsTo {l : Location} {pieces : List (List Char)} {n : Nat} {e : Entry}
    (h : LeadsTo l pieces n e) {links : Nat} (hle : n ≤ links) : walk links l pieces = some e := by
  induction h generalizing links with
  | here l => rw [walk]
  | stay hpiece _ ih => rw [walk, if_pos hpiece, ih hle]
  | up _ ih => rw [walk, if_neg (by decide), if_pos rfl, ih hle]
  | down hname hlookup _ ih =>
    obtain ⟨hstays, hparent⟩ := isEntryName_iff.mp hname
    rw [walk, if_neg hstays, if_neg hparent, hlookup]
    exact ih hle
  | file hname hlookup =>
    obtain ⟨hstays, hparent⟩ := isEntryName_iff.mp hname
    rw [walk, if_neg hstays, if_neg hparent, hlookup]
    rfl
  | closed hname hlookup =>
    obtain ⟨hstays, hparent⟩ := isEntryName_iff.mp hname
    rw [walk, if_neg hstays, if_neg hparent, hlookup]
    rfl
  | link hname hlookup htarget _ ih =>
    obtain ⟨links, rfl⟩ : ∃ k, links = k + 1 := ⟨links - 1, by omega⟩
    obtain ⟨hstays, hparent⟩ := isEntryName_iff.mp hname
    rw [walk, if_neg hstays, if_neg hparent, hlookup]
    dsimp only
    rw [if_neg htarget]
    exact ih (by omega)

theorem leadsTo_of_walk {links : Nat} {l : Location} {pieces : List (List Char)} {e : Entry}
    (h : walk links l pieces = some e) : ∃ n ≤ links, LeadsTo l pieces n e := by
  fun_induction walk links l pieces with
  | case1 links l =>
    obtain rfl := Option.some_inj.mp h
    exact ⟨0, Nat.zero_le links, .here l⟩
  | case2 links l piece rest hpiece ih =>
    obtain ⟨n, hn, hleads⟩ := ih h
    exact ⟨n, hn, .stay hpiece hleads⟩
  | case3 links l rest _ ih =>
    obtain ⟨n, hn, hleads⟩ := ih h
    exact ⟨n, hn, .up hleads⟩
  | case4 => cases h
  | case5 links l piece rest hpiece hparent inner hlookup ih =>
    obtain ⟨n, hn, hleads⟩ := ih h
    exact ⟨n, hn, .down (isEntryName_iff.mpr ⟨hpiece, hparent⟩) hlookup hleads⟩
  | case6 links l piece hpiece hparent bytes hlookup =>
    obtain rfl := Option.some_inj.mp h
    exact ⟨0, Nat.zero_le links, .file (isEntryName_iff.mpr ⟨hpiece, hparent⟩) hlookup⟩
  | case7 => cases h
  | case8 links l piece hpiece hparent fault hlookup =>
    obtain rfl := Option.some_inj.mp h
    exact ⟨0, Nat.zero_le links, .closed (isEntryName_iff.mpr ⟨hpiece, hparent⟩) hlookup⟩
  | case9 => cases h
  | case10 => cases h
  | case11 => cases h
  | case12 l piece rest hpiece hparent target hlookup htarget links ih =>
    obtain ⟨n, hn, hleads⟩ := ih h
    exact ⟨n + 1, Nat.succ_le_succ hn,
      .link (isEntryName_iff.mpr ⟨hpiece, hparent⟩) hlookup htarget hleads⟩

/-- Walking finds what the pieces lead to over no more links than are left. -/
theorem walk_eq_some_iff {links : Nat} {l : Location} {pieces : List (List Char)} {e : Entry} :
    walk links l pieces = some e ↔ ∃ n ≤ links, LeadsTo l pieces n e :=
  ⟨leadsTo_of_walk, fun ⟨_, hle, h⟩ => walk_of_leadsTo h hle⟩

end Folder.Location

/-! ## Texts -/

theorem fromUTF8?_eq_some_iff {bytes : ByteArray} {text : String} :
    String.fromUTF8? bytes = some text ↔ bytes = text.toUTF8 := by
  constructor
  · intro h
    rw [String.fromUTF8?] at h
    split at h
    · obtain rfl := Option.some_inj.mp h
      rfl
    · cases h
  · rintro rfl
    have hvalid : text.toUTF8.IsValidUTF8 := text.isValidUTF8
    rw [String.fromUTF8?, dif_pos hvalid]
    rfl

namespace Entry

theorem text_eq_ok_iff {e : Entry} {text : String} :
    e.text = .ok text ↔ e = .file text.toUTF8 := by
  cases e with
  | file bytes =>
    rw [Entry.file.injEq, ← fromUTF8?_eq_some_iff, Entry.text]
    cases String.fromUTF8? bytes with
    | none => exact ⟨nofun, nofun⟩
    | some t => rw [Except.ok.injEq, Option.some_inj]
  | closed fault => exact ⟨nofun, nofun⟩
  | directory entries => exact ⟨nofun, nofun⟩
  | link target => exact ⟨nofun, nofun⟩

/-- A file without a text holds bytes that are those of no text. -/
theorem text_file_eq_error_iff {bytes : ByteArray} {fault : ReadFault} :
    (Entry.file bytes).text = .error fault ↔
      fault = .notUnicode ∧ ∀ text : String, text.toUTF8 ≠ bytes := by
  have hnone : (∀ text : String, text.toUTF8 ≠ bytes) ↔ String.fromUTF8? bytes = none := by
    rw [Option.eq_none_iff_forall_ne_some]
    exact forall_congr' fun text => not_congr (eq_comm.trans fromUTF8?_eq_some_iff.symm)
  rw [hnone, Entry.text]
  cases String.fromUTF8? bytes with
  | none => exact ⟨fun h => ⟨(Except.error.inj h).symm, rfl⟩, fun h => h.1 ▸ rfl⟩
  | some t => exact ⟨nofun, nofun⟩

end Entry

namespace FileSystem

/-- A path leads somewhere if it is a text of a length that the system takes, and its pieces lead
there over no more than forty links. -/
def LeadsTo (fs : FileSystem) (path : String) (e : Entry) : Prop :=
  path ≠ "" ∧ path.utf8ByteSize ≤ maxPathBytes ∧
    ∃ n ≤ maxLinks, (fs.location.startOf path).LeadsTo (Text.split '/' path.toList) n e

theorem resolve?_eq_some_iff {fs : FileSystem} {path : String} {e : Entry} :
    fs.resolve? path = some e ↔ fs.LeadsTo path e := by
  have hlong : (path.isEmpty = true ∨ maxPathBytes < path.utf8ByteSize) ↔
      ¬ (path ≠ "" ∧ path.utf8ByteSize ≤ maxPathBytes) := by
    rw [String.isEmpty_iff]
    simp only [ne_eq, not_and_or, not_not, not_le]
  rw [resolve?, LeadsTo, ← and_assoc]
  by_cases h : path ≠ "" ∧ path.utf8ByteSize ≤ maxPathBytes
  · rw [if_neg (hlong.not.mpr (not_not.mpr h)), Folder.Location.walk_eq_some_iff]
    exact (and_iff_right h).symm
  · rw [if_pos (hlong.mpr h)]
    exact ⟨nofun, fun hleads => absurd hleads.1 h⟩

theorem resolve?_eq_none_iff {fs : FileSystem} {path : String} :
    fs.resolve? path = none ↔ ∀ e, ¬ fs.LeadsTo path e := by
  simp only [Option.eq_none_iff_forall_ne_some, ← resolve?_eq_some_iff, ne_eq]

/-- What a path leads to cannot be read as a text. -/
def HasFault (fs : FileSystem) (path : String) : ReadFault → Prop
  | .isDirectory => ∃ entries, fs.LeadsTo path (.directory entries)
  | .refused e => fs.LeadsTo path (.closed e)
  | .notUnicode => ∃ bytes, fs.LeadsTo path (.file bytes) ∧ ∀ text : String, text.toUTF8 ≠ bytes

/-- What is at the end of a path has a fault exactly when it has no text. -/
theorem hasFault_iff {fs : FileSystem} {path : String} {fault : ReadFault} :
    fs.HasFault path fault ↔ ∃ e, fs.LeadsTo path e ∧ e.text = .error fault := by
  constructor
  · intro h
    cases fault with
    | isDirectory =>
      obtain ⟨entries, hleads⟩ := h
      exact ⟨_, hleads, rfl⟩
    | refused e => exact ⟨_, h, rfl⟩
    | notUnicode =>
      obtain ⟨bytes, hleads, hbytes⟩ := h
      exact ⟨_, hleads, Entry.text_file_eq_error_iff.mpr ⟨rfl, hbytes⟩⟩
  · rintro ⟨e, hleads, htext⟩
    cases e with
    | file bytes =>
      obtain ⟨rfl, hbytes⟩ := Entry.text_file_eq_error_iff.mp htext
      exact ⟨bytes, hleads, hbytes⟩
    | closed e =>
      cases htext
      exact hleads
    | directory entries =>
      cases htext
      exact ⟨entries, hleads⟩
    | link target =>
      obtain ⟨-, -, n, -, hpieces⟩ := hleads
      exact absurd rfl (hpieces.ne_link target)

end FileSystem

/-! ## Outcomes of loading -/

theorem source?_of_parse {format : Format} {text origin : String} {e : LoadError}
    (h : parse format text origin = .error e) : e.source? = some ⟨origin, text⟩ := by
  cases format with
  | yaml =>
    obtain ⟨f, -, rfl⟩ := parse_yaml_eq_error_iff.mp h
    rfl
  | json =>
    obtain ⟨f, -, rfl⟩ := parse_json_eq_error_iff.mp h
    rfl

/-- The first step that fails tells why there is no text to read. -/
theorem documentText_eq_error_iff {path : String} {found? : Option Entry} {e : LoadError} :
    documentText path found? = .error e ↔
      e = .notFound path ∧ found? = none ∨
      e = .unsupportedFormat path ∧ (∃ entry, found? = some entry) ∧ Format.ofPath? path = none ∨
      ∃ fault, e = .unreadable path fault ∧ (∃ format, Format.ofPath? path = some format) ∧
        ∃ entry, found? = some entry ∧ entry.text = .error fault := by
  cases found? with
  | none => simp [documentText, eq_comm]
  | some entry =>
    cases hformat : Format.ofPath? path with
    | none => simp [documentText, hformat, eq_comm]
    | some format =>
      cases htext : entry.text with
      | error fault => simp [documentText, hformat, htext, eq_comm]
      | ok text => simp [documentText, hformat, htext]

/-- An error that has no source is not one of reading a text. -/
theorem load_eq_documentText_error {path : String} {found? : Option Entry} {e : LoadError}
    (hsource : e.source? = none) :
    load path found? = .error e ↔ documentText path found? = .error e := by
  rw [load]
  cases hfound : documentText path found? with
  | error f =>
    exact ⟨fun h => congrArg _ (Except.error.inj h), fun h => congrArg _ (Except.error.inj h)⟩
  | ok found =>
    obtain ⟨format, text⟩ := found
    refine ⟨fun h => ?_, nofun⟩
    have hparse : parse format text path = .error e := h
    rw [source?_of_parse hparse] at hsource
    cases hsource

theorem load_of_text {path : String} {entry : Entry} {format : Format} {text : String}
    (hformat : Format.ofPath? path = some format) (htext : entry.text = .ok text) :
    load path (some entry) = parse format text path := by
  have hfound : documentText path (some entry) = .ok (format, text) := by
    simp [documentText, hformat, htext]
  rw [load, hfound]
  rfl

/-- What is shown of a load error apart from the name of its source. -/
def LoadError.shown (e : LoadError) : String × Option Text.Span := (e.message, e.label?)

theorem shown_parse (format : Format) (text origin other : String) :
    (parse format text origin).mapError LoadError.shown =
      (parse format text other).mapError LoadError.shown := by
  cases format with
  | yaml =>
    rw [parse, parse]
    cases OrderedTree.ofRead (Yaml.read text) fun _ => Yaml.ordered_of_read <;> rfl
  | json =>
    rw [parse, parse]
    cases OrderedTree.ofRead (Json.read text) fun _ => Json.ordered_of_read <;> rfl

namespace FileSystem

/-- An error without a source tells the first of the steps before reading that fails. -/
theorem load_eq_error_iff {fs : FileSystem} {path : String} {e : LoadError}
    (hsource : e.source? = none) :
    fs.load path = .error e ↔
      e = .notFound path ∧ (∀ entry, ¬ fs.LeadsTo path entry) ∨
      e = .unsupportedFormat path ∧ (∃ entry, fs.LeadsTo path entry) ∧
        (∀ format : Format, ¬ format.IsNamedBy path) ∨
      ∃ fault, e = .unreadable path fault ∧ (∃ format : Format, format.IsNamedBy path) ∧
        fs.HasFault path fault := by
  have hformat : Format.ofPath? path = none ↔ ∀ format : Format, ¬ format.IsNamedBy path := by
    simp only [Option.eq_none_iff_forall_ne_some, ← Format.ofPath?_eq_some_iff, ne_eq]
  rw [FileSystem.load, load_eq_documentText_error hsource, documentText_eq_error_iff]
  simp only [resolve?_eq_none_iff, resolve?_eq_some_iff, hformat, Format.ofPath?_eq_some_iff,
    hasFault_iff]

/-- A path that leads nowhere is not found, whatever its extension. One that leads somewhere and is
not named for a format is unsupported, whatever it leads to. One that is, and leads to a directory,
to bytes of no text or to a file that the system keeps closed, is unreadable. What is left is read
as a text in the format that the path is named for, and neither its tree nor what is shown of an
error depends on the path. -/
theorem load_outcome (fs : FileSystem) (path : String) :
    (∀ p, fs.load path = .error (.notFound p) ↔ p = path ∧ ∀ e, ¬ fs.LeadsTo path e) ∧
    (∀ p, fs.load path = .error (.unsupportedFormat p) ↔
      p = path ∧ (∃ e, fs.LeadsTo path e) ∧ ∀ format : Format, ¬ format.IsNamedBy path) ∧
    (∀ p fault, fs.load path = .error (.unreadable p fault) ↔
      p = path ∧ (∃ format : Format, format.IsNamedBy path) ∧ fs.HasFault path fault) ∧
    ∀ (format : Format) (text : String), format.IsNamedBy path →
      fs.LeadsTo path (.file text.toUTF8) →
      fs.load path = parse format text path ∧
        ∀ origin, (fs.load path).mapError LoadError.shown =
          (parse format text origin).mapError LoadError.shown := by
  refine ⟨fun p => ?_, fun p => ?_, fun p fault => ?_, fun format text hformat hleads => ?_⟩
  · rw [load_eq_error_iff rfl]
    simp
  · rw [load_eq_error_iff rfl]
    simp
  · rw [load_eq_error_iff rfl]
    simp [and_assoc]
  · have hload : fs.load path = parse format text path := by
      rw [FileSystem.load, resolve?_eq_some_iff.mpr hleads]
      exact load_of_text (Format.ofPath?_eq_some_iff.mpr hformat) (Entry.text_eq_ok_iff.mpr rfl)
    exact ⟨hload, fun origin => by rw [hload, shown_parse format text path origin]⟩

/-- Over two links, one of them in a directory, to a file whose own name tells no format. -/
theorem load_outcome_links :
    let fs : FileSystem := ⟨[("a.json", .link "b/c.yml"),
      ("b", .directory [("c.yml", .link "../d")]), ("d", .file "[]".toUTF8)], []⟩
    Format.json.IsNamedBy "a.json" ∧ fs.LeadsTo "a.json" (.file "[]".toUTF8) ∧
      fs.load "a.json" = parse .json "[]" "a.json" := by
  intro fs
  have hformat : Format.json.IsNamedBy "a.json" :=
    Format.ofPath?_eq_some_iff.mp (by decide +kernel)
  have hleads : fs.LeadsTo "a.json" (.file "[]".toUTF8) := by
    have hpath : Text.split '/' "a.json".toList = [['a', '.', 'j', 's', 'o', 'n']] := by decide
    have htarget : Text.split '/' "b/c.yml".toList = [['b'], ['c', '.', 'y', 'm', 'l']] := by decide
    have hinner : Text.split '/' "../d".toList = [['.', '.'], ['d']] := by decide
    refine ⟨by decide, by decide, 2, by decide, ?_⟩
    rw [hpath]
    refine .link (by decide) (by rfl) (by decide) ?_
    rw [htarget]
    refine .down (by decide) (by rfl) (.link (by decide) (by rfl) (by decide) ?_)
    rw [hinner]
    exact .up (.file (by decide) (by rfl))
  exact ⟨hformat, hleads, ((load_outcome fs "a.json").2.2.2 _ _ hformat hleads).1⟩

end FileSystem
end AgentSpec
