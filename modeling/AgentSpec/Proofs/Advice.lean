import AgentSpec.Proofs.CollectionFindings
import AgentSpec.Proofs.Independence
import Mathlib.Logic.Relation

/-!
# Errors and warnings apart

A version that is a text, the type of a model and the fields that are recommended are read for
warnings only: an edit of one of them leaves the errors as they are, and so does any number of
edits. The warnings in turn are told from these fields and nothing else (`Tree.advised`). Both are
put together in `errors_and_warnings_apart`.
-/

namespace AgentSpec

/-! ## Edits -/

/-- Two mappings that agree on every field but one. -/
structure Tree.DifferAt (name : String) (t t' : Tree) : Prop where
  isMapping : t.isMapping = true
  isMapping' : t'.isMapping = true
  rest : ∀ other, other ≠ name → t'.field? other = t.field? other

/-- One value of a field is replaced by another, and nothing else changes. -/
structure Tree.Replaces (t t' : Tree) (name : String) (v v' : Tree) : Prop where
  before : t.field? name = some v
  after : t'.field? name = some v'
  differ : t.DifferAt name t'

/-- One edit of what is read for warnings only. -/
inductive AdviceEdit (d d' : Tree) : Prop where
  | version {v v' : String} (h : d.Replaces d' "openapia" (.text v) (.text v'))
  | modelType (before after : List Tree) {e e' v v' : Tree}
      (h : d.Replaces d' "models" (.sequence (before ++ e :: after))
        (.sequence (before ++ e' :: after)))
      (he : e.Replaces e' "type" v v')
  | domain {i i' m m' : Tree} (h : d.Replaces d' "info" i i')
      (hi : i.Replaces i' "ai_metadata" m m') (hm : m.DifferAt "domain" m')
  | memory {t t' : Tree} (h : d.Replaces d' "context" t t') (ht : t.DifferAt "memory" t')
  | metrics {t t' : Tree} (h : d.Replaces d' "evaluation" t t') (ht : t.DifferAt "metrics" t')

theorem Tree.DifferAt.has {name other : String} {t t' : Tree} (h : t.DifferAt name t')
    (hn : other ≠ name) : t'.has other = t.has other := by
  rw [Tree.has, Tree.has, h.rest other hn]

theorem Tree.Replaces.has {t t' v v' : Tree} {name : String} (h : t.Replaces t' name v v')
    (other : String) : t'.has other = t.has other := by
  by_cases hn : other = name
  · rw [hn, Tree.has, Tree.has, h.before, h.after]
    rfl
  · exact h.differ.has hn

theorem Tree.Replaces.rest_section {d d' t t' : Tree} {s other : Section}
    (h : d.Replaces d' s.name t t') (hs : other ≠ s) :
    d'.field? other.name = d.field? other.name :=
  h.differ.rest other.name fun hn => hs (Section.name_injective hn)

/-! ## What the warnings are told from -/

/-- A mapping is there, and it has not the field. -/
def lacks (t? : Option Tree) (name : String) : Bool := t?.any fun t => t.isMapping && !t.has name

/-- The types of the entries, in order, of what is a sequence of models. -/
def typesOf (models? : Option Tree) : List Tree :=
  ((models?.bind Tree.items?).getD []).filterMap fun e => e.field? "type"

/-- All that the warnings on a document are about. -/
structure Advised where
  version? : Option Tree
  types : List Tree
  lacksDomain : Bool
  lacksMemory : Bool
  lacksMetrics : Bool

def Tree.advised (d : Tree) : Advised where
  version? := d.field? "openapia"
  types := typesOf (d.field? "models")
  lacksDomain := lacks ((d.field? "info").bind fun i => i.field? "ai_metadata") "domain"
  lacksMemory := lacks (d.field? "context") "memory"
  lacksMetrics := lacks (d.field? "evaluation") "metrics"

namespace Advised

def versionWarnings : Option Tree → List String
  | some (.text v) =>
    if "0.1".toList.isPrefixOf v.toList then [] else ["Version " ++ v ++ " may not be supported."]
  | _ => []

def recommendation (lacks : Bool) (parent field : String) : List String :=
  if lacks then [parent ++ "." ++ field ++ " is recommended"] else []

def warnings (a : Advised) : List String :=
  versionWarnings a.version?
    ++ recommendation a.lacksDomain "ai_metadata" "domain"
    ++ a.types.flatMap (fun t => Collection.typeWarnings (some t))
    ++ recommendation a.lacksMemory "context" "memory"
    ++ recommendation a.lacksMetrics "evaluation" "metrics"

end Advised

namespace Check

/-! ## Faults on the sections edited -/

theorem faults_metadata_of_differAt {m m' : Tree} (h : m.DifferAt "domain" m') :
    faults (metadata m') = faults (metadata m) := by
  have hd : ∀ t : Tree, faults (if t.has "domain" then []
      else [.advice (.recommended "ai_metadata" "domain")]) = [] := by
    intro t
    split <;> rfl
  rw [metadata, metadata, if_pos h.isMapping, if_pos h.isMapping', faults_append, faults_append,
    hd, hd, h.rest "complexity" (by decide)]

theorem faults_info_of_replaces {i i' m m' : Tree} (h : i.Replaces i' "ai_metadata" m m')
    (hm : m.DifferAt "domain" m') : faults (info i') = faults (info i) := by
  rw [info, info, if_pos h.differ.isMapping, if_pos h.differ.isMapping', h.before, h.after]
  simp only [faults_append, faults_metadata_of_differAt hm, h.has]

/-- The walk over the models does not read their types for faults: it remembers the same
identifiers whether or not a type was replaced. -/
theorem faults_entriesFrom_of_replaces {e e' v v' : Tree} (h : e.Replaces e' "type" v v')
    (before after : List Tree) (index : Nat) (seen : List Tree) :
    faults (entriesFrom .models index seen (before ++ e' :: after)) =
      faults (entriesFrom .models index seen (before ++ e :: after)) := by
  induction before generalizing index seen with
  | nil =>
    have hid : id? e' = id? e := h.differ.rest "id" (by decide)
    have hrule : ∀ t, faults (rule .models t) = [] := fun t =>
      (faults_rule_eq_nil_iff .models t).mpr trivial
    simp only [List.nil_append, entriesFrom, h.differ.isMapping, h.differ.isMapping', if_true,
      faults_append, missingFields, duplicate, remember, hid, h.has, hrule]
  | cons a before ih =>
    simp only [List.cons_append, entriesFrom]
    by_cases hm : a.isMapping = true
    · simp only [hm, if_true, faults_append, ih]
    · simp only [hm, Bool.false_eq_true, if_false, faults_fault, ih]

theorem faults_models_of_replaces {e e' v v' : Tree} (h : e.Replaces e' "type" v v')
    (before after : List Tree) :
    faults (collection .models (.sequence (before ++ e' :: after))) =
      faults (collection .models (.sequence (before ++ e :: after))) := by
  simp [collection, Tree.items?, entries, faults_entriesFrom_of_replaces h]

theorem declaredIds_of_replaces {e e' v v' : Tree} (h : e.Replaces e' "type" v v')
    (before after : List Tree) :
    declaredIds (.sequence (before ++ e' :: after)) =
      declaredIds (.sequence (before ++ e :: after)) := by
  have hid : id? e' = id? e := h.differ.rest "id" (by decide)
  simp [declaredIds, Tree.items?, List.filterMap_cons, hid]

/-! ## Errors of a run of edits -/

/-- Another value of a section, with the same faults of its own and the same identifiers declared,
leaves the errors on the document as they are. -/
theorem errors_of_replaces {d d' t t' : Tree} {s : Section} (h : d.Replaces d' s.name t t')
    (hs : s ≠ .tasks) (hown : faults (ofSection s t') = faults (ofSection s t))
    (hids : declaredIds t' = declaredIds t) : (validate d').errors = (validate d).errors := by
  have hsection : ownErrors d' s = ownErrors d s := by
    rw [ownErrors_eq, ownErrors_eq, sectionNotes, sectionNotes, h.before, h.after]
    simp only [faults_log, hown]
  have hunknown : ∀ r, unknownErrors r d' = unknownErrors r d := by
    intro r
    rw [unknownErrors_eq, unknownErrors_eq]
    congr 1
    refine mentions_congr (h.rest_section hs.symm) ?_
    by_cases hr : r.target.toSection = s
    · rw [hr, h.before, h.after, Option.map_some, Option.map_some, hids]
    · rw [h.rest_section hr]
  obtain ⟨⟨before, after, hd, hd'⟩, -⟩ :=
    findings_replace (h.has s.name) fun _ hs' => h.rest_section hs'
  rw [hd, hd', hsection, hunknown, hunknown]

theorem declaredIds_of_isMapping {t : Tree} (h : t.isMapping = true) : declaredIds t = [] := by
  cases t with
  | mapping fields => rfl
  | _ => cases h

/-- Between two values that conform to their section, and declare nothing, no error changes. -/
theorem errors_of_conforming {d d' t t' : Tree} {s : Section} (h : d.Replaces d' s.name t t')
    (hs : s ≠ .tasks) (ht : s.Conforms t) (ht' : s.Conforms t') (hids : declaredIds t = [])
    (hids' : declaredIds t' = []) : (validate d').errors = (validate d).errors := by
  refine errors_of_replaces h hs ?_ (hids'.trans hids.symm)
  rw [(faults_ofSection_eq_nil_iff s t).mpr ht, (faults_ofSection_eq_nil_iff s t').mpr ht']

theorem errors_of_edit {d d' : Tree} (h : AdviceEdit d d') :
    (validate d').errors = (validate d).errors := by
  cases h with
  | version h =>
    exact errors_of_conforming (s := .version) h (by decide) ⟨_, rfl⟩ ⟨_, rfl⟩ rfl rfl
  | modelType before after h he =>
    exact errors_of_replaces (s := .models) h (by decide)
      (faults_models_of_replaces he before after) (declaredIds_of_replaces he before after)
  | domain h hi hm =>
    refine errors_of_replaces (s := .info) h (by decide) (faults_info_of_replaces hi hm) ?_
    rw [declaredIds_of_isMapping hi.differ.isMapping, declaredIds_of_isMapping hi.differ.isMapping']
  | memory h ht =>
    exact errors_of_conforming (s := .context) h (by decide) ht.isMapping ht.isMapping'
      (declaredIds_of_isMapping ht.isMapping) (declaredIds_of_isMapping ht.isMapping')
  | metrics h ht =>
    exact errors_of_conforming (s := .evaluation) h (by decide) ht.isMapping ht.isMapping'
      (declaredIds_of_isMapping ht.isMapping) (declaredIds_of_isMapping ht.isMapping')

theorem errors_of_edits {d d' : Tree} (h : Relation.ReflTransGen AdviceEdit d d') :
    (validate d').errors = (validate d).errors := by
  induction h with
  | refl => rfl
  | tail _ h ih => rw [errors_of_edit h, ih]

/-! ## Warnings -/

theorem advices_version (t : Tree) :
    (advices (version t)).map Advice.message = Advised.versionWarnings (some t) := by
  cases t with
  | text v =>
    show (advices (if supportedVersion.toList.isPrefixOf v.toList then [] else _)).map _ =
      if supportedVersion.toList.isPrefixOf v.toList then [] else _
    split <;> rfl
  | _ => rfl

theorem advices_recommended (name field : String) (t : Tree) :
    (advices (recommended name field t)).map Advice.message =
      Advised.recommendation (lacks (some t) field) name field := by
  rw [recommended, Advised.recommendation, lacks, Option.any_some]
  cases t.isMapping with
  | false => rfl
  | true => cases t.has field <;> rfl

theorem advices_metadata (m : Tree) :
    (advices (metadata m)).map Advice.message =
      Advised.recommendation (lacks (some m) "domain") "ai_metadata" "domain" := by
  rw [metadata, Advised.recommendation, lacks, Option.any_some]
  cases m.isMapping with
  | false => rfl
  | true =>
    cases m.field? "complexity" with
    | none => cases m.has "domain" <;> rfl
    | some c =>
      dsimp only
      cases c.isOneOf complexities <;> cases m.has "domain" <;> rfl

theorem advices_info (i : Tree) :
    (advices (info i)).map Advice.message =
      Advised.recommendation (lacks (i.field? "ai_metadata") "domain") "ai_metadata" "domain" := by
  rw [info]
  by_cases hm : i.isMapping = true
  · rw [if_pos hm, advices_append, advices_map_fault, List.nil_append]
    cases i.field? "ai_metadata" with
    | none => rfl
    | some m => exact advices_metadata m
  · rw [if_neg hm, Tree.field?_of_not_isMapping hm "ai_metadata"]
    rfl

/-- The types of the models give the warnings, one after the other. -/
theorem warnings_models (t : Tree) :
    Collection.models.warnings t =
      (typesOf (some t)).flatMap fun v => Collection.typeWarnings (some v) := by
  cases t with
  | sequence items =>
    rw [Collection.warnings, typesOf, Option.bind_some, Tree.items?, Option.getD_some]
    induction items with
    | nil => rfl
    | cons e items ih =>
      rw [List.flatMap_cons, ih, List.filterMap_cons]
      cases e.field? "type" with
      | none => rfl
      | some v => rfl
  | _ => rfl

theorem warnings_of_ne_models {c : Collection} (hc : c ≠ .models) (t : Tree) :
    c.warnings t = [] := by
  cases c <;> first | rfl | exact absurd rfl hc

/-- What is said of a section is told from its value, and nothing is said of an absent one. -/
theorem advices_sectionNotes (d : Tree) (s : Section) (g : Option Tree → List String)
    (hnone : g none = [])
    (hsome : ∀ t, (advices (ofSection s t)).map Advice.message = g (some t)) :
    (advices (sectionNotes d s)).map Advice.message = g (d.field? s.name) := by
  unfold sectionNotes
  cases d.field? s.name with
  | none => exact hnone.symm
  | some t => exact hsome t

theorem advices_sectionNotes_of_ne_models (d : Tree) {c : Collection} (hc : c ≠ .models) :
    (advices (sectionNotes d c.toSection)).map Advice.message = [] := by
  refine advices_sectionNotes d c.toSection (fun _ => []) rfl fun t => ?_
  rw [ofSection_toSection, messages_advices_collection, warnings_of_ne_models hc]

/-- The warnings in full, told from what they are about. -/
theorem warnings_eq_advised (d : Tree) : (validate d).warnings = d.advised.warnings := by
  have hversion := advices_sectionNotes d .version Advised.versionWarnings rfl advices_version
  have hinfo := advices_sectionNotes d .info
    (fun i? => Advised.recommendation (lacks (i?.bind fun i => i.field? "ai_metadata") "domain")
      "ai_metadata" "domain") rfl advices_info
  have hmodels := advices_sectionNotes d .models
    (fun t? => (typesOf t?).flatMap fun v => Collection.typeWarnings (some v)) rfl
    fun t => (messages_advices_collection .models t).trans (warnings_models t)
  have hprompts := advices_sectionNotes_of_ne_models d (c := .prompts) (by decide)
  have hconstraints := advices_sectionNotes_of_ne_models d (c := .constraints) (by decide)
  have htasks := advices_sectionNotes_of_ne_models d (c := .tasks) (by decide)
  have hcontext := advices_sectionNotes d .context
    (fun t? => Advised.recommendation (lacks t? "memory") "context" "memory") rfl
    (advices_recommended "context" "memory")
  have hevaluation := advices_sectionNotes d .evaluation
    (fun t? => Advised.recommendation (lacks t? "metrics") "evaluation" "metrics") rfl
    (advices_recommended "evaluation" "metrics")
  simp only [Collection.toSection] at hprompts hconstraints htasks
  rw [warnings_eq_sections, Section.all]
  simp only [List.flatMap_cons, List.flatMap_nil, hversion, hinfo, hmodels, hprompts,
    hconstraints, htasks, hcontext, hevaluation, List.append_nil, List.nil_append]
  simp only [Advised.warnings, Tree.advised, Section.name, List.append_assoc]

end Check

/-- Errors and warnings do not depend on what is read for the other. Whatever number of times a
version is replaced, or the type of a model, or the domain, the memory or the metrics are put in,
taken out or replaced, the errors and the verdict stay. And two documents with the same version, the
same types of models in order, and the same recommended fields missing have the same warnings,
whatever else they hold. -/
theorem errors_and_warnings_apart (d d' : Tree) :
    (Relation.ReflTransGen AdviceEdit d d' →
      (validate d').errors = (validate d).errors ∧ (validate d').valid = (validate d).valid) ∧
    (d'.advised = d.advised → (validate d').warnings = (validate d).warnings) := by
  refine ⟨fun h => ?_, fun h => ?_⟩
  · have he := Check.errors_of_edits h
    exact ⟨he, congrArg List.isEmpty he⟩
  · rw [Check.warnings_eq_advised, Check.warnings_eq_advised, h]

/-- Three edits of a document with an error in its models, and a fourth document with the warnings
that these leave but other errors. -/
theorem errors_and_warnings_apart_three_edits :
    let document (memory : List (String × Tree)) (entries : List Tree) (version : String) : Tree :=
      .mapping [("context", .mapping memory), ("models", .sequence entries),
        ("openapia", .text version)]
    let model (t : Tree) : Tree := .mapping [("id", .text "m"), ("type", t)]
    let d := document [("memory", .null)] [.null, model (.text "LLM")] "0.1.0"
    let d' := document [] [.null, model (.boolean true)] "2"
    let other := document [] [model (.boolean true), .null, .null] "2"
    Relation.ReflTransGen AdviceEdit d d' ∧
    ((validate d').errors = (validate d).errors ∧ (validate d').valid = (validate d).valid) ∧
    other.advised = d'.advised ∧ (validate other).warnings = (validate d').warnings := by
  intro document model d d' other
  have hversion : AdviceEdit d (document [("memory", .null)] [.null, model (.text "LLM")] "2") :=
    .version ⟨rfl, rfl, rfl, rfl, fun name h => by
      simp [d, document, Tree.field?, List.lookup_cons, beq_false_of_ne h]⟩
  have htype : AdviceEdit (document [("memory", .null)] [.null, model (.text "LLM")] "2")
      (document [("memory", .null)] [.null, model (.boolean true)] "2") :=
    .modelType [.null] []
      ⟨rfl, rfl, rfl, rfl, fun name h => by
        simp [document, Tree.field?, List.lookup_cons, beq_false_of_ne h]⟩
      ⟨rfl, rfl, rfl, rfl, fun name h => by
        simp [model, Tree.field?, List.lookup_cons, beq_false_of_ne h]⟩
  have hmemory : AdviceEdit (document [("memory", .null)] [.null, model (.boolean true)] "2") d' :=
    .memory
      ⟨rfl, rfl, rfl, rfl, fun name h => by
        simp [d', document, Tree.field?, List.lookup_cons, beq_false_of_ne h]⟩
      ⟨rfl, rfl, fun name h => by
        simp [Tree.field?, List.lookup_cons, beq_false_of_ne h]⟩
  have hedits : Relation.ReflTransGen AdviceEdit d d' :=
    ((Relation.ReflTransGen.single hversion).tail htype).tail hmemory
  have hadvised : other.advised = d'.advised := rfl
  exact ⟨hedits, (errors_and_warnings_apart d d').1 hedits, hadvised,
    (errors_and_warnings_apart d' other).2 hadvised⟩

end AgentSpec
