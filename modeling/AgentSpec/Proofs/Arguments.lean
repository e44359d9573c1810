import AgentSpec.CommandLine.Arguments
import AgentSpec.Proofs.Meets
import Mathlib.Data.List.TakeWhile

/-!
# What arguments are read as

A request has a verbosity when some word before two dashes alone asks for it
(`verbosity_eq_zero_iff`), and every request for a named file is read off the arguments that spell
it out (`read_arguments`).
-/

namespace AgentSpec.CommandLine

/-! ## The number of requests for more -/

/-- How often a word asks for more of the log: as the long option, or by each of its letters that
does. -/
def wordVerbosity : List Char → Nat
  | '-' :: '-' :: option => if option = "verbose".toList then 1 else 0
  | '-' :: cluster => cluster.count 'v'
  | _ => 0

/-- How often the words ask for more, up to two dashes alone. -/
def verbosityOf : List String → Nat
  | [] => 0
  | word :: words => if word = "--" then 0 else wordVerbosity word.toList + verbosityOf words

example : verbosityOf ["-vv", "validate", "--quiet", "-qv", "--", "-v"] = 3 := by decide +kernel

theorem wordVerbosity_of_not_option {word : String} (h : ¬ isOption word) :
    wordVerbosity word.toList = 0 := by
  rw [isOption] at h
  generalize word.toList = cs at h ⊢
  cases cs with
  | nil => rfl
  | cons c cs =>
    by_cases hc : c = '-'
    · subst hc
      cases cs with
      | nil => rfl
      | cons d ds => exact absurd rfl h
    · simp [wordVerbosity, hc]

/-- What ends the reading is not a request. -/
def Halt.NoRequest (e : Halt) : Prop := ∀ r, e ≠ .command (.validate r)

theorem noRequest_misuse (m : Misuse) : Halt.NoRequest (.misuse m) := by
  intro r h
  cases h

theorem Flag.eq_verbose_iff_long (f : Flag) : f = .verbose ↔ f.long.toList = "verbose".toList := by
  cases f <;> decide

theorem Flag.eq_verbose_iff_short (f : Flag) : f = .verbose ↔ f.short? = some 'v' := by
  cases f <;> decide

namespace Given

/-- The reading adds to the verbosity, if it does not end. -/
def Adds (g : Given) (n : Nat) : Except Halt Given → Prop :=
  Meets Halt.NoRequest fun g' => g'.verbosity = g.verbosity + n

theorem adds_once (already : Bool) (f : Flag) {g g' : Given} (h : g'.verbosity = g.verbosity) :
    g.Adds 0 (once already f g') := by
  rw [once]
  split
  · exact Meets.error (noRequest_misuse _)
  · exact Meets.ok h

theorem adds_take (s : Scope) (g : Given) (f : Flag) :
    g.Adds (if f = .verbose then 1 else 0) (g.take s f) := by
  cases f with
  | verbose => exact Meets.ok rfl
  | noColor => exact adds_once _ _ rfl
  | json => exact adds_once _ _ rfl
  | quiet => exact adds_once _ _ rfl
  | help =>
    refine Meets.error fun r h => ?_
    cases h
  | version =>
    refine Meets.error fun r h => ?_
    cases h

theorem adds_takeShort (s : Scope) (g : Given) (c : Char) :
    g.Adds (if c = 'v' then 1 else 0) (g.takeShort s c) := by
  rw [takeShort]
  cases hf : s.ofShort? c with
  | none => exact Meets.error (noRequest_misuse _)
  | some f =>
    have hc : f.short? = some c := by simpa [Scope.ofShort?] using List.find?_some hf
    have hiff : f = .verbose ↔ c = 'v' := by
      rw [f.eq_verbose_iff_short, hc, Option.some.injEq]
    simpa only [hiff] using adds_take s g f

theorem adds_takeLong (s : Scope) (g : Given) (option : List Char) :
    g.Adds (if option = "verbose".toList then 1 else 0) (g.takeLong s option) := by
  rw [takeLong]
  cases hf : s.ofLong? (String.ofList (option.takeWhile (· != '='))) with
  | none => exact Meets.error (noRequest_misuse _)
  | some f =>
    dsimp only
    by_cases hvalue : option.contains '='
    · rw [if_pos hvalue]
      exact Meets.error (noRequest_misuse _)
    · rw [if_neg hvalue]
      -- Without a value the option is the name of the flag.
      have hname : option.takeWhile (· != '=') = option := by
        refine List.takeWhile_eq_self_iff.mpr fun c hc => ?_
        have hne : c ≠ '=' := by
          rintro rfl
          exact hvalue (List.contains_iff_mem.mpr hc)
        exact bne_iff_ne.mpr hne
      have hlong : f.long = String.ofList option := by
        have h := List.find?_some hf
        rw [hname] at h
        exact eq_of_beq h
      have hiff : f = .verbose ↔ option = "verbose".toList := by
        rw [f.eq_verbose_iff_long, hlong, String.toList_ofList]
      simpa only [hiff] using adds_take s g f

theorem adds_cluster (s : Scope) (g : Given) (cluster : List Char) :
    g.Adds (cluster.count 'v') (cluster.foldlM (takeShort s) g) := by
  induction cluster generalizing g with
  | nil => exact Meets.ok rfl
  | cons c cluster ih =>
    rw [List.foldlM_cons]
    refine (adds_takeShort s g c).bind fun g' hg' => ?_
    have hcount : g.verbosity + (c :: cluster).count 'v' = g'.verbosity + cluster.count 'v' := by
      rw [hg', List.count_cons]
      simp only [beq_iff_eq]
      omega
    rw [hcount]
    exact ih g'

theorem adds_takeOption (s : Scope) (g : Given) (word : List Char) :
    g.Adds (wordVerbosity word) (g.takeOption s word) := by
  fun_cases takeOption s g word with
  | case1 option => exact adds_takeLong s g option
  | case2 cluster hlong =>
    rw [wordVerbosity]
    · exact adds_cluster s g cluster
    · exact hlong
  | case3 _ hlong hshort =>
    rw [wordVerbosity]
    · exact Meets.ok rfl
    · exact hlong
    · exact hshort

end Given

namespace Arguments

theorem given_takeFile (a : Arguments) (word : String) :
    Meets Halt.NoRequest (fun a' => a'.given = a.given) (a.takeFile word) := by
  rw [takeFile]
  split
  · exact Meets.error (noRequest_misuse _)
  · split
    · exact Meets.error (noRequest_misuse _)
    · exact Meets.ok rfl

theorem given_takeFiles (a : Arguments) (words : List String) :
    Meets Halt.NoRequest (fun a' => a'.given = a.given) (words.foldlM takeFile a) := by
  induction words generalizing a with
  | nil => exact Meets.ok rfl
  | cons word words ih =>
    rw [List.foldlM_cons]
    refine (given_takeFile a word).bind fun a' ha' => ?_
    rw [← ha']
    exact ih a'

theorem verbosity_take (a : Arguments) (words : List String) :
    Meets Halt.NoRequest
      (fun a' => a'.given.verbosity = a.given.verbosity + verbosityOf words) (a.take words) := by
  induction words generalizing a with
  | nil => exact Meets.ok rfl
  | cons word words ih =>
    rw [take, verbosityOf]
    by_cases hdashes : word = "--"
    · rw [if_pos hdashes, if_pos hdashes]
      exact (given_takeFiles a words).weaken fun a' ha' => congrArg Given.verbosity ha'
    · rw [if_neg hdashes, if_neg hdashes]
      by_cases hoption : isOption word
      · rw [if_pos hoption]
        refine (Given.adds_takeOption .validate a.given word.toList).bind fun g hg => ?_
        rw [← Nat.add_assoc, ← hg]
        exact ih { a with given := g }
      · rw [if_neg hoption, wordVerbosity_of_not_option hoption, Nat.zero_add]
        refine (given_takeFile a word).bind fun a' ha' => ?_
        rw [← ha']
        exact ih a'

theorem verbosity_request {before : Given} {a : Arguments} {r : Request}
    (h : a.request before = .ok r) :
    r.verbosity = if a.given.verbosity = 0 then before.verbosity else a.given.verbosity := by
  rw [request] at h
  split at h
  · cases h
  · cases h
  · cases h
    rfl

end Arguments

theorem verbosity_readFrom (g : Given) (words : List String) :
    Meets Halt.NoRequest
      (fun c => ∀ r, c = .validate r → (r.verbosity = 0 ↔ g.verbosity + verbosityOf words = 0))
      (readFrom g words) := by
  induction words generalizing g with
  | nil => exact Meets.error (noRequest_misuse _)
  | cons word words ih =>
    rw [readFrom, verbosityOf]
    by_cases hdashes : word = "--"
    · rw [if_pos hdashes, if_pos hdashes]
      exact Meets.error (noRequest_misuse _)
    rw [if_neg hdashes, if_neg hdashes]
    by_cases hoption : isOption word
    · rw [if_pos hoption]
      refine (Given.adds_takeOption .program g word.toList).bind fun g' hg' => ?_
      rw [← Nat.add_assoc, ← hg']
      exact ih g'
    rw [if_neg hoption, wordVerbosity_of_not_option hoption, Nat.zero_add]
    by_cases hvalidate : word = "validate"
    · rw [if_pos hvalidate]
      refine (Arguments.verbosity_take ⟨.empty, none⟩ words).bind fun a ha => ?_
      have hadds : a.given.verbosity = verbosityOf words := ha.trans (Nat.zero_add _)
      cases hr : a.request g with
      | error m => exact Meets.error (noRequest_misuse m)
      | ok r =>
        refine Meets.ok fun r' hr' => ?_
        cases hr'
        rw [Arguments.verbosity_request hr, hadds]
        split <;> omega
    rw [if_neg hvalidate]
    by_cases hhelp : word = "help"
    · rw [if_pos hhelp]
      cases topicOf words with
      | error m => exact Meets.error (noRequest_misuse m)
      | ok t =>
        refine Meets.ok fun r hr => ?_
        cases hr
    · rw [if_neg hhelp]
      exact Meets.error (noRequest_misuse _)

/-- A request is silent exactly when no argument asks for more. -/
theorem verbosity_eq_zero_iff {arguments : List String} {r : Request}
    (h : read arguments = .ok (.validate r)) : r.verbosity = 0 ↔ verbosityOf arguments = 0 := by
  have hread := verbosity_readFrom .empty arguments
  rw [read] at h
  cases hr : readFrom .empty arguments with
  | ok c =>
    rw [hr] at h
    have hc : c = .validate r := Except.ok.inj h
    have hiff := hread.value hr r hc
    rw [hiff, Given.empty, Nat.zero_add]
  | error e =>
    rw [hr] at h
    cases e with
    | misuse m => cases h
    | command c =>
      have hc : c = .validate r := Except.ok.inj h
      exact absurd (congrArg Halt.command hc) (hread.refused hr r)

/-! ## Arguments for a request -/

def Mode.arguments : Mode → List String
  | .report => []
  | .json => ["--json"]
  | .quiet => ["--quiet"]

/-- The request spelt out: its verbosity one by one before the command, its mode after it, and the
file where any name is taken for one. -/
def Request.arguments (r : Request) : List String :=
  List.replicate r.verbosity "-v" ++ (if r.noColor then ["--no-color"] else []) ++
    "validate" :: (r.mode.arguments ++ ["--", r.file])

theorem readFrom_replicate (g : Given) (n : Nat) (words : List String) :
    readFrom g (List.replicate n "-v" ++ words) =
      readFrom { g with verbosity := g.verbosity + n } words := by
  induction n generalizing g with
  | zero => rfl
  | succ n ih =>
    rw [List.replicate_succ, List.cons_append, readFrom, if_neg (by decide), if_pos (by decide)]
    have htake : g.takeOption .program "-v".toList =
        .ok { g with verbosity := g.verbosity + 1 } := rfl
    rw [htake]
    exact (ih _).trans (by rw [Nat.add_right_comm, Nat.add_assoc])

theorem take_file (g : Given) {file : String} (hfile : file ≠ "") :
    Arguments.take ⟨g, none⟩ ["--", file] = .ok ⟨g, some file⟩ := by
  have hempty : ¬ file.isEmpty := fun h => hfile (String.isEmpty_iff.mp h)
  have htake : Arguments.takeFile ⟨g, none⟩ file = .ok ⟨g, some file⟩ := by
    rw [Arguments.takeFile, if_neg (by simp), if_neg hempty]
  rw [Arguments.take, if_pos rfl, List.foldlM_cons, htake]
  rfl

theorem take_mode (m : Mode) {file : String} (hfile : file ≠ "") :
    Arguments.take ⟨.empty, none⟩ (m.arguments ++ ["--", file]) =
      .ok ⟨⟨0, false, m == .json, m == .quiet⟩, some file⟩ := by
  have hoption : ∀ (word : String) (g : Given), word ≠ "--" → isOption word →
      Given.empty.takeOption .validate word.toList = .ok g →
      Arguments.take ⟨.empty, none⟩ (word :: ["--", file]) = .ok ⟨g, some file⟩ := by
    intro word g hdashes hoption hg
    rw [Arguments.take, if_neg hdashes, if_pos hoption, hg]
    exact take_file g hfile
  cases m with
  | report => exact take_file _ hfile
  | json => exact hoption "--json" _ (by decide) (by decide) rfl
  | quiet => exact hoption "--quiet" _ (by decide) (by decide) rfl

theorem request_mode (before : Given) (file : String) (m : Mode) :
    Arguments.request before ⟨⟨0, false, m == .json, m == .quiet⟩, some file⟩ =
      .ok ⟨file, m, before.verbosity, before.noColor⟩ := by
  have hmode : Arguments.mode? ⟨⟨0, false, m == .json, m == .quiet⟩, some file⟩ = some m := by
    cases m <;> rfl
  rw [Arguments.request, hmode]
  simp

theorem readFrom_validate (before : Given) (m : Mode) {file : String} (hfile : file ≠ "") :
    readFrom before ("validate" :: (m.arguments ++ ["--", file])) =
      .ok (.validate ⟨file, m, before.verbosity, before.noColor⟩) := by
  have hrequest := request_mode before file m
  rw [readFrom, if_neg (by decide), if_neg (by decide), if_pos rfl, take_mode m hfile]
  show ((Arguments.request before _).map Command.validate).mapError Halt.misuse = _
  rw [hrequest]
  rfl

/-- Every request for a file with a name is asked for by some arguments. -/
theorem read_arguments {r : Request} (hfile : r.file ≠ "") :
    read r.arguments = .ok (.validate r) := by
  have hreadFrom : readFrom .empty r.arguments = .ok (.validate r) := by
    rw [Request.arguments, List.append_assoc, readFrom_replicate]
    cases hcolor : r.noColor with
    | false =>
      rw [if_neg (by decide), List.nil_append, readFrom_validate _ _ hfile]
      simp [Given.empty, ← hcolor]
    | true =>
      rw [if_pos rfl, List.singleton_append, readFrom, if_neg (by decide), if_pos (by decide)]
      show readFrom { Given.empty with verbosity := 0 + r.verbosity, noColor := true } _ = _
      rw [readFrom_validate _ _ hfile]
      simp [← hcolor]
  rw [read, hreadFrom]

end AgentSpec.CommandLine
