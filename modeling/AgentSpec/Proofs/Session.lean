import AgentSpec.Validator

/-!
# Sessions

A session uses one validator while the files change around it. What the validator keeps is a
function of the history of the session: the outcome is that of the latest run since the validator
was new, on the document or the files of that moment, and the load error is that of this run for
as long as it was not taken (`Validator.Reflects`). One step keeps this, and so does every session:
`session_reflects_history`.
-/

namespace AgentSpec

/-! ## What the history tells -/

namespace Validator

/-- What a run is on: a document, or why there was none. -/
def Step.input? : Step → Option (Except LoadError Tree)
  | .validateDocument d => some (.ok d)
  | .validateFile fs path => some ((fs.load path).map Subtype.val)
  | _ => none

def Step.renews : Step → Bool
  | .new => true
  | _ => false

def Step.takes : Step → Bool
  | .takeLoadError => true
  | _ => false

/-- What the latest run was on, if no step after it meets the condition. -/
def latest? (stop : Step → Bool) (history : List Step) : Option (Except LoadError Tree) :=
  (history.reverse.takeWhile fun s => !stop s).findSome? Step.input?

/-- What the latest run since the validator was new was on. -/
def lastInput? (history : List Step) : Option (Except LoadError Tree) :=
  latest? Step.renews history

/-- The load error of the latest run since the validator was new, if it had one and no step after
it took it. -/
def pending? (history : List Step) : Option LoadError :=
  match latest? (fun s => s.renews || s.takes) history with
  | some (.error e) => some e
  | _ => none

def outcomeOf : Option (Except LoadError Tree) → Outcome
  | some (.ok d) => validate d
  | some (.error e) => ⟨false, [e.message], []⟩
  | none => ⟨true, [], []⟩

/-- The validator keeps what its history tells. -/
structure Reflects (v : Validator) (history : List Step) : Prop where
  outcome : v.outcome = outcomeOf (lastInput? history)
  loadError : v.loadError? = pending? history

theorem latest?_concat (stop : Step → Bool) (history : List Step) (s : Step) :
    latest? stop (history ++ [s]) =
      if stop s then none else s.input?.or (latest? stop history) := by
  unfold latest?
  rw [List.reverse_append, List.reverse_singleton, List.singleton_append, List.takeWhile_cons]
  cases stop s
  · cases h : s.input? <;> simp [h]
  · simp

example (d : Tree) : lastInput? [.validateDocument d, .takeLoadError, .report] = some (.ok d) := rfl

example (d : Tree) : lastInput? [.validateDocument d, .new] = none := rfl

theorem reflects_initial : initial.Reflects [] := ⟨rfl, rfl⟩

/-! ## Steps -/

theorem step_validateFile_of_ok (v : Validator) {fs : FileSystem} {path : String}
    {d : OrderedTree} (h : fs.load path = .ok d) :
    v.step (.validateFile fs path) = v.step (.validateDocument d) := by
  have h' : load path (fs.resolve? path) = .ok d := h
  simp only [step, validateFile, validateFound, h']

theorem step_validateFile_of_error (v : Validator) {fs : FileSystem} {path : String} {e : LoadError}
    (h : fs.load path = .error e) :
    v.step (.validateFile fs path) = (.verdict false, ⟨⟨false, [e.message], []⟩, some e⟩) := by
  have h' : load path (fs.resolve? path) = .error e := h
  simp only [step, validateFile, validateFound, h']
  rfl

/-- A run leaves nothing of what was kept, and answers with the verdict that it keeps. -/
theorem step_of_input {s : Step} {input : Except LoadError Tree} (h : s.input? = some input)
    (v : Validator) :
    v.step s = (.verdict (outcomeOf (some input)).valid, ⟨outcomeOf (some input),
      match input with
      | .ok _ => none
      | .error e => some e⟩) := by
  cases s with
  | validateDocument d =>
    cases h
    rfl
  | validateFile fs path =>
    rw [Step.input?, Option.some.injEq] at h
    cases hl : fs.load path with
    | ok d =>
      obtain rfl : .ok d.val = input := by rw [← h, hl]; rfl
      rw [step_validateFile_of_ok v hl]
      rfl
    | error e =>
      obtain rfl : .error e = input := by rw [← h, hl]; rfl
      rw [step_validateFile_of_error v hl]
      rfl
  | new => cases h
  | takeLoadError => cases h
  | report => cases h

theorem Reflects.step {v : Validator} {history : List Step} (h : v.Reflects history) (s : Step) :
    (v.step s).2.Reflects (history ++ [s]) := by
  cases hi : s.input? with
  | some input =>
    have hstop : s.renews = false ∧ s.takes = false := by
      cases s <;> simp [Step.input?, Step.renews, Step.takes] at hi ⊢
    rw [step_of_input hi]
    refine ⟨?_, ?_⟩
    · simp [lastInput?, latest?_concat, hstop, hi]
    · cases input <;> simp [pending?, latest?_concat, hstop, hi]
  | none =>
    cases s with
    | new =>
      refine ⟨?_, ?_⟩
      · rw [lastInput?, latest?_concat]
        rfl
      · rw [pending?, latest?_concat]
        rfl
    | takeLoadError =>
      refine ⟨?_, ?_⟩
      · rw [lastInput?, latest?_concat]
        exact h.outcome
      · rw [pending?, latest?_concat]
        rfl
    | report =>
      refine ⟨?_, ?_⟩
      · rw [lastInput?, latest?_concat]
        exact h.outcome
      · rw [pending?, latest?_concat]
        exact h.loadError
    | validateDocument d => cases hi
    | validateFile fs path => cases hi

/-- A verdict is kept together with the errors that it is on. -/
theorem Reflects.valid {v : Validator} {history : List Step} (h : v.Reflects history) :
    v.outcome.valid = v.outcome.errors.isEmpty := by
  rw [h.outcome]
  cases lastInput? history with
  | none => rfl
  | some input => cases input <;> rfl

end Validator

/-! ## Runs -/

/-- A validator among files. -/
structure Session where
  files : FileSystem
  validator : Validator

namespace Session

/-- What happens in a session: the files change in any way, or the validator is used. -/
inductive Operation where
  | change (files : FileSystem)
  | new
  | validateDocument (d : Tree)
  | validateFile (path : String)
  | takeLoadError
  | report

namespace Operation

/-- The step that the validator takes, with the files of the moment. -/
def step? (files : FileSystem) : Operation → Option Validator.Step
  | .change _ => none
  | .new => some .new
  | .validateDocument d => some (.validateDocument d)
  | .validateFile path => some (.validateFile files path)
  | .takeLoadError => some .takeLoadError
  | .report => some .report

def validates : Operation → Bool
  | .validateDocument _ => true
  | .validateFile _ => true
  | _ => false

/-- Whether it only changes the files, takes the load error or reports. -/
def keepsOutcome : Operation → Bool
  | .change _ => true
  | .takeLoadError => true
  | .report => true
  | _ => false

end Operation

def take (s : Session) (step : Validator.Step) : Validator.Answer × Session :=
  let (answer, validator) := s.validator.step step
  (answer, { s with validator })

def perform (s : Session) : Operation → Validator.Answer × Session
  | .change files => (.none, { s with files })
  | .new => s.take .new
  | .validateDocument d => s.take (.validateDocument d)
  | .validateFile path => s.take (.validateFile s.files path)
  | .takeLoadError => s.take .takeLoadError
  | .report => s.take .report

def run (s : Session) : List Operation → Session
  | [] => s
  | op :: ops => (s.perform op).2.run ops

/-- The steps of the validator, each with the files of its moment. -/
def history (s : Session) : List Operation → List Validator.Step
  | [] => []
  | op :: ops => (op.step? s.files).toList ++ (s.perform op).2.history ops

theorem reflects_perform {s : Session} {past : List Validator.Step}
    (h : s.validator.Reflects past) (op : Operation) :
    (s.perform op).2.validator.Reflects (past ++ (op.step? s.files).toList) := by
  cases op with
  | change files =>
    rw [Operation.step?, Option.toList_none, List.append_nil]
    exact h
  | new => exact h.step .new
  | validateDocument d => exact h.step (.validateDocument d)
  | validateFile path => exact h.step (.validateFile s.files path)
  | takeLoadError => exact h.step .takeLoadError
  | report => exact h.step .report

theorem reflects_run {s : Session} {past : List Validator.Step} (h : s.validator.Reflects past)
    (ops : List Operation) : (s.run ops).validator.Reflects (past ++ s.history ops) := by
  -- The past is general: the induction takes each operation into it.
  induction ops generalizing s past with
  | nil =>
    rw [history, List.append_nil]
    exact h
  | cons op ops ih =>
    rw [history, ← List.append_assoc]
    exact ih (reflects_perform h op)

theorem outcome_run_of_keeps (s : Session) {later : List Operation}
    (h : ∀ op ∈ later, op.keepsOutcome = true) :
    (s.run later).validator.outcome = s.validator.outcome := by
  induction later generalizing s with
  | nil => rfl
  | cons op later ih =>
    have hop : (s.perform op).2.validator.outcome = s.validator.outcome := by
      have hk := h op List.mem_cons_self
      cases op <;> first | rfl | cases hk
    rw [run, ih _ fun o ho => h o (List.mem_cons_of_mem op ho), hop]

/-- A run answers with the verdict that it leaves and does not depend on what was kept before. -/
theorem perform_of_validates (s : Session) {op : Operation} (h : op.validates = true) :
    (s.perform op).1 = .verdict (s.perform op).2.validator.outcome.valid ∧
      ∀ v, perform ⟨s.files, v⟩ op = s.perform op := by
  have hstep : ∀ (step : Validator.Step) (input : Except LoadError Tree), step.input? = some input →
      (s.take step).1 = .verdict (s.take step).2.validator.outcome.valid ∧
        ∀ v, take ⟨s.files, v⟩ step = s.take step := by
    intro step input hi
    simp only [take, Validator.step_of_input hi, true_and, implies_true]
  cases op with
  | validateDocument d => exact hstep (.validateDocument d) _ rfl
  | validateFile path => exact hstep (.validateFile s.files path) _ rfl
  | change files => cases h
  | new => cases h
  | takeLoadError => cases h
  | report => cases h

theorem perform_validateFile (s : Session) (path : String) :
    match s.files.load path with
    | .ok d => s.perform (.validateFile path) = s.perform (.validateDocument d)
    | .error e => s.perform (.validateFile path) =
        (.verdict false, ⟨s.files, ⟨⟨false, [e.message], []⟩, some e⟩⟩) := by
  cases h : s.files.load path with
  | ok d =>
    show s.take (.validateFile s.files path) = s.take (.validateDocument d)
    rw [take, Validator.step_validateFile_of_ok s.validator h]
    rfl
  | error e =>
    show s.take (.validateFile s.files path) = _
    rw [take, Validator.step_validateFile_of_error s.validator h]

end Session

/-- What every session comes to. The verdict kept is that there are no errors. The outcome is that
of the latest run since the validator was new, whatever is changed, taken or reported later. A run
answers with the verdict that it leaves, and leaves the same from any validator. A run on a path is
one on the document that it leads to, or leaves a load error as the only error. The load error
taken is that of the latest run since the validator was new, unless it was taken before, and it is
taken once. -/
theorem session_reflects_history (files : FileSystem) (ops : List Session.Operation) :
    let start : Session := ⟨files, .initial⟩
    let s := start.run ops
    let past := start.history ops
    s.validator.outcome.valid = s.validator.outcome.errors.isEmpty ∧
    s.validator.outcome = Validator.outcomeOf (Validator.lastInput? past) ∧
    (∀ later : List Session.Operation, (∀ op ∈ later, op.keepsOutcome = true) →
      (s.run later).validator.outcome = s.validator.outcome) ∧
    (∀ op : Session.Operation, op.validates = true →
      (s.perform op).1 = .verdict (s.perform op).2.validator.outcome.valid ∧
        ∀ v, Session.perform ⟨s.files, v⟩ op = s.perform op) ∧
    (∀ path, match s.files.load path with
      | .ok d => s.perform (.validateFile path) = s.perform (.validateDocument d)
      | .error e => s.perform (.validateFile path) =
          (.verdict false, ⟨s.files, ⟨⟨false, [e.message], []⟩, some e⟩⟩)) ∧
    (s.perform .takeLoadError).1 = .loadError (Validator.pending? past) ∧
    ((s.perform .takeLoadError).2.perform .takeLoadError).1 = .loadError none := by
  intro start s past
  have h : (start.run ops).validator.Reflects ([] ++ start.history ops) :=
    Session.reflects_run Validator.reflects_initial ops
  refine ⟨h.valid, h.outcome, fun later hl => s.outcome_run_of_keeps hl,
    fun op hop => s.perform_of_validates hop, s.perform_validateFile, ?_, rfl⟩
  exact congrArg Validator.Answer.loadError h.loadError

end AgentSpec
