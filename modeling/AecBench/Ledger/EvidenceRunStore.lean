import AecBench.Contracts.Planning
import AecBench.Lib.Dict
import AecBench.Lib.Journal

/-!
# The evidence run store

One directory a run, with its specification, its plan and its operational state as three JSON
documents. A document is replaced atomically and durably; a call replaces at most two of them,
one after the other, under the lock of the run. A record that is read back has lists in place of
the tuples of its `Any` fields.

## Main definitions

* `EvidenceRunState`, `RunDirectory`, `RunStore` — the state record, one directory, and all of
  them.
* `validatePlanAgainstSpec`, `checkPlanRevision` — the guards between the documents.
* `createRun`, `writeDraftPlan`, `promoteReadyPlan`, `startRun`, `closeRun` — what each call
  writes and returns; `readRun` — the strict reading.
* `StoreCall`, `runJournal` — the calls of a store as a journal.
-/

namespace AecBench.Ledger

open AecBench.Contracts
open Validation

/-! ## Records -/

inductive StoreErrorKind
  | storeError
  | conflict
  | incomplete
  | stateError
  | valueError
  deriving DecidableEq

/-- What an operation of the store raises. -/
structure StoreError where
  kind : StoreErrorKind
  message : String

inductive OperationalState
  | draft
  | ready
  | started
  | closed
  deriving DecidableEq

/-- Mutable operational state of one run. -/
structure EvidenceRunState where
  state : OperationalState
  runIdentity : EntityIdentity
  planIdentity : Option EntityIdentity := none
  startedAt : Option Instant := none
  closedAt : Option Instant := none
  deriving DecidableEq

/-- `validate_timestamps`. -/
def EvidenceRunState.validateTimestamps (s : EvidenceRunState) : Except String Unit := do
  require (s.state = .started ∨ s.state = .closed → s.startedAt.isSome)
    "started evidence run state must include started_at"
  require (s.state = .ready ∨ s.state = .started ∨ s.state = .closed → s.planIdentity.isSome)
    "ready evidence run state must include plan identity"
  require (s.state = .closed → s.closedAt.isSome) "closed evidence run state must include closed_at"
  require (s.state = .draft ∨ s.state = .ready → s.startedAt = none ∧ s.closedAt = none)
    "unstarted evidence run state must not include operational timestamps"
  require (∀ closedAt ∈ s.closedAt, ∀ startedAt ∈ s.startedAt, startedAt ≤ closedAt)
    "evidence run closed_at must not precede started_at"

def EvidenceRunState.errors (s : EvidenceRunState) : Errors := record [] s.validateTimestamps

/-- The records of one run. -/
structure StoredEvidenceRun where
  spec : ResolvedRunSpec
  plan : Option RunPlan
  state : EvidenceRunState

/-- The documents in the directory of one run. -/
structure RunDirectory where
  spec : Option ResolvedRunSpec := none
  plan : Option RunPlan := none
  state : Option EvidenceRunState := none
  deriving DecidableEq

/-- The directories below the root of a store, by name. -/
abbrev RunStore := String → Option RunDirectory

/-! ## Names of directories -/

/-- The characters of a key without those at the end that are underscores or hyphens. -/
def rstripKey (cs : List Char) : List Char :=
  (cs.reverse.dropWhile fun c => c == '_' || c == '-').reverse

/-- `_locator`: the readable key, cut to what fits in a file name, and the full id. -/
def locator (identity : EntityIdentity) : String :=
  let readable := identity.key.text.toList.flatMap fun c => if c = '/' then ['_', '_'] else [c]
  let cut := rstripKey (readable.take (255 - identity.id.text.length - 2))
  String.ofList (if cut = [] then "run".toList else cut) ++ "--" ++ identity.id.text

/-! ## Reading -/

/-- `_read_optional_model`: a document, read with strict validation. -/
def readOptional {α : Type} (errors : α → Errors) (name : String) (document : Option α) :
    Except StoreError (Option α) :=
  match document with
  | none => .ok none
  | some x =>
    if errors x = [] then .ok (some x)
    else .error ⟨.storeError, s!"evidence run record failed strict validation: {name}"⟩

namespace RunDirectory

def readSpec (d : RunDirectory) : Except StoreError (Option ResolvedRunSpec) :=
  readOptional ResolvedRunSpec.errors "resolved-run-spec.json" d.spec

def readPlan (d : RunDirectory) : Except StoreError (Option RunPlan) :=
  readOptional RunPlan.errors "run-plan.json" d.plan

def readState (d : RunDirectory) : Except StoreError (Option EvidenceRunState) :=
  readOptional EvidenceRunState.errors "state.json" d.state

end RunDirectory

/-- Both records, when both are there. -/
def bothRecords : Option ResolvedRunSpec → Option EvidenceRunState →
    Except StoreError (ResolvedRunSpec × EvidenceRunState)
  | some spec, some state => .ok (spec, state)
  | _, _ => .error ⟨.incomplete, "evidence run requires a resolved specification and state"⟩

/-- `_require_safe_run_directory`. -/
def requireDirectory : Option RunDirectory → Except StoreError RunDirectory
  | some d => .ok d
  | none => .error ⟨.incomplete, "evidence run directory does not exist"⟩

/-- `_require_spec_and_state`. -/
def requireSpecAndState (directory : Option RunDirectory) (runIdentity : EntityIdentity) :
    Except StoreError (RunDirectory × ResolvedRunSpec × EvidenceRunState) := do
  let d ← requireDirectory directory
  let spec ← d.readSpec
  let state ← d.readState
  let records ← bothRecords spec state
  require (records.1.runIdentity = runIdentity)
    ⟨.conflict, "run directory identity does not match its resolved specification"⟩
  require (records.2.runIdentity = runIdentity)
    ⟨.conflict, "run directory identity does not match its operational state"⟩
  return (d, records)

/-! ## Guards -/

/-- The releases and the agent conditions of a plan, trial by trial. -/
def planReleases (plan : RunPlan) : List TaskSnapshotRef := plan.trials.map (·.taskRelease)

def planConditions (plan : RunPlan) : List AgentCondition := plan.trials.map (·.agentCondition)

/-- What a plan must share with its specification, complete or not. -/
def validatePlanParts (plan : RunPlan) (spec : ResolvedRunSpec) : Except StoreError Unit := do
  require (plan.runIdentity = spec.runIdentity)
    ⟨.conflict, "plan run identity does not match the resolved specification"⟩
  require (∀ trial ∈ plan.trials, trial.runIdentity = spec.runIdentity)
    ⟨.conflict, "plan trial run identity does not match the resolved specification"⟩
  require (Dict.Includes (·.taskId) spec.taskReleases (planReleases plan))
    ⟨.conflict, "plan task releases do not match the resolved specification"⟩
  require (Dict.Includes (·.identity.id) spec.agentConditions (planConditions plan))
    ⟨.conflict, "plan agent conditions do not match the resolved specification"⟩
  require (∀ trial ∈ plan.trials, trial.compute = spec.compute)
    ⟨.conflict, "plan compute settings do not match the resolved specification"⟩
  require (∀ trial ∈ plan.trials, trial.repetition ≤ spec.repetitions)
    ⟨.conflict, "plan repetitions exceed the resolved specification"⟩
  require (∀ trial ∈ plan.trials, trial.seed = spec.randomizationSeed)
    ⟨.conflict, "plan seeds do not match the resolved specification"⟩
  require (∀ trial ∈ plan.trials, trial.evaluationProfile = spec.evaluationRegime)
    ⟨.conflict, "plan evaluation profiles do not match the resolved specification"⟩
  require (plan.summary.visibilityPolicy = spec.visibility)
    ⟨.conflict, "plan visibility policy does not match the resolved specification"⟩

/-- What a plan must share with its specification to be complete. -/
def validatePlanComplete (plan : RunPlan) (spec : ResolvedRunSpec) : Except StoreError Unit := do
  require (Dict.Includes (·.taskId) (planReleases plan) spec.taskReleases)
    ⟨.conflict, "ready plan task releases do not match the resolved specification"⟩
  require (Dict.Includes (·.identity.id) (planConditions plan) spec.agentConditions)
    ⟨.conflict, "ready plan agent conditions do not match the resolved specification"⟩
  require (plan.summary.repetitions = spec.repetitions ∧ (plan.summary.totalTrials : ℕ) =
      spec.taskReleases.length * spec.agentConditions.length * spec.repetitions)
    ⟨.conflict, "plan trial count does not match the resolved specification"⟩

/-- `_validate_plan_against_spec`. -/
def validatePlanAgainstSpec (plan : RunPlan) (spec : ResolvedRunSpec) (requireComplete : Bool) :
    Except StoreError Unit := do
  validatePlanParts plan spec
  if requireComplete then validatePlanComplete plan spec else .ok ()

/-- `_check_plan_revision`. -/
def checkPlanRevision (current candidate : RunPlan) : Except StoreError Unit := do
  require (current.planIdentity.id = candidate.planIdentity.id ∧
      current.planIdentity.key = candidate.planIdentity.key)
    ⟨.conflict, "plan replacement must preserve the plan identity"⟩
  require (current.planIdentity.version ≤ candidate.planIdentity.version)
    ⟨.conflict, "plan replacement must use a higher plan identity version"⟩
  require (candidate.planIdentity.version = current.planIdentity.version → current = candidate)
    ⟨.conflict, "same plan identity version already has different content"⟩

/-! ## The strict reading -/

/-- The checks of a plan against the specification and the state beside it. -/
def checkStoredPlan (spec : ResolvedRunSpec) (state : EvidenceRunState) :
    Option RunPlan → Except StoreError Unit
  | none => require (state.state = .draft ∧ state.planIdentity = none)
      ⟨.incomplete, "non-draft evidence run requires a persisted plan"⟩
  | some plan => do
    validatePlanAgainstSpec plan spec (state.state ≠ .draft)
    require (state.planIdentity = some plan.planIdentity)
      ⟨.conflict, "operational state plan identity does not match the persisted plan"⟩
    require (plan.state = if state.state = .draft then .draft else .ready)
      ⟨.conflict, "operational state does not match the persisted plan state"⟩

/-- `_read_run_unlocked`. -/
def readRunUnlocked (directory : Option RunDirectory) (runIdentity : EntityIdentity) :
    Except StoreError StoredEvidenceRun := do
  let (d, spec, state) ← requireSpecAndState directory runIdentity
  let plan ← d.readPlan
  checkStoredPlan spec state plan
  return { spec, plan, state }

/-! ## Writing -/

/-- A durable step: the directory is made, or a document is replaced. -/
inductive FileWrite
  | makeDirectory
  | spec (spec : ResolvedRunSpec)
  | plan (plan : RunPlan)
  | state (state : EvidenceRunState)

/-- The directory after a durable step, as it reads from then on. -/
def FileWrite.apply (directory : Option RunDirectory) (w : FileWrite) : Option RunDirectory :=
  let d := directory.getD {}
  match w with
  | .makeDirectory => some d
  | .spec s => some { d with spec := some s.dumped }
  | .plan p => some { d with plan := some p.dumped }
  | .state s => some { d with state := some s }

/-- What a call that passes its guards does. -/
structure Prepared (β : Type) where
  writes : List FileWrite
  /-- What it returns, from the directory after its writes. -/
  result : Option RunDirectory → Except StoreError β

/-- `_write_model_if_changed`. -/
def writeIfChanged {α : Type} [DecidableEq α] (write : α → FileWrite) (current : Option α)
    (candidate : α) : List FileWrite :=
  if current = some candidate then [] else [write candidate]

/-- `EvidenceRunState(...)`: the state, when its timestamps are consistent. -/
def EvidenceRunState.construct (s : EvidenceRunState) : Except StoreError EvidenceRunState :=
  match s.validateTimestamps with
  | .ok _ => .ok s
  | .error message => .error ⟨.valueError, message⟩

/-- The state that a run without one is given. -/
def initialState (spec : ResolvedRunSpec) (d : RunDirectory) :
    Option EvidenceRunState → Except StoreError (List FileWrite)
  | some _ => .ok []
  | none => do
    let plan ← d.readPlan
    require (plan = none) ⟨.incomplete, "evidence run with a plan is missing operational state"⟩
    return [.state { state := .draft, runIdentity := spec.runIdentity }]

/-- `create_run`. What fails after the specification is written fails with it written. -/
def createRun (spec : ResolvedRunSpec) (directory : Option RunDirectory) :
    Except StoreError (Prepared StoredEvidenceRun) := do
  let d := directory.getD {}
  let existing ← d.readSpec
  require (existing = none ∨ existing = some spec)
    ⟨.conflict, "run identity already has a different resolved specification"⟩
  let rest := d.readState >>= initialState spec d
  return {
    writes := (if directory = none then [.makeDirectory] else []) ++
      (if existing = none then [.spec spec] else []) ++ rest.toOption.getD []
    result := fun after => do
      let _ ← rest
      readRunUnlocked after spec.runIdentity }

/-- `_validate_plan_identity`. -/
def validatePlanIdentity (runIdentity : EntityIdentity) (plan : RunPlan) :
    Except StoreError Unit :=
  require (plan.runIdentity = runIdentity)
    ⟨.conflict, "plan run identity does not match the requested run"⟩

/-- `write_draft_plan`. -/
def writeDraftPlan (runIdentity : EntityIdentity) (plan : RunPlan)
    (directory : Option RunDirectory) : Except StoreError (Prepared RunPlan) := do
  validatePlanIdentity runIdentity plan
  require (plan.state = .draft) ⟨.stateError, "draft plan writes require plan state 'draft'"⟩
  let (d, spec, state) ← requireSpecAndState directory runIdentity
  validatePlanAgainstSpec plan spec false
  require (¬ (state.state = .started ∨ state.state = .closed))
    ⟨.stateError, "started evidence run plans cannot be edited"⟩
  let current ← d.readPlan
  current.forM fun current => checkPlanRevision current plan
  return {
    writes := writeIfChanged .plan current plan ++ writeIfChanged .state (some state)
      { state := .draft, runIdentity, planIdentity := some plan.planIdentity }
    result := fun _ => .ok plan }

/-- The draft that is promoted. -/
def requireDraft : Option RunPlan → Except StoreError RunPlan
  | some plan => .ok plan
  | none => .error ⟨.incomplete, "ready promotion requires a persisted draft plan"⟩

/-- `promote_ready_plan`. -/
def promoteReadyPlan (runIdentity : EntityIdentity) (plan : RunPlan)
    (directory : Option RunDirectory) : Except StoreError (Prepared RunPlan) := do
  validatePlanIdentity runIdentity plan
  require (plan.state = .ready) ⟨.stateError, "ready promotion requires plan state 'ready'"⟩
  let (d, spec, state) ← requireSpecAndState directory runIdentity
  validatePlanAgainstSpec plan spec true
  require (¬ (state.state = .started ∨ state.state = .closed))
    ⟨.stateError, "started evidence run plans cannot be replaced"⟩
  let stored ← d.readPlan
  let current ← requireDraft stored
  require (current.planIdentity.id = plan.planIdentity.id ∧
      current.planIdentity.key = plan.planIdentity.key ∧
      current.planIdentity.version = plan.planIdentity.version)
    ⟨.conflict, "ready plan identity does not match the persisted draft"⟩
  require (plan = { current with state := .ready })
    ⟨.conflict, "ready plan content must match the persisted draft"⟩
  return {
    writes := writeIfChanged .plan (some current) plan ++ writeIfChanged .state (some state)
      { state := .ready, runIdentity, planIdentity := some plan.planIdentity }
    result := fun _ => .ok plan }

/-- The ready plan of a run that starts. -/
def requireReady : Option RunPlan → Except StoreError RunPlan
  | some plan =>
    if plan.state = .ready then .ok plan
    else .error ⟨.stateError, "run must have a persisted ready plan before start"⟩
  | none => .error ⟨.stateError, "run must have a persisted ready plan before start"⟩

/-- The state that `start_run` writes; none when the run has started at that instant. -/
def startedState (runIdentity : EntityIdentity) (plan : RunPlan) (state : EvidenceRunState)
    (startedAt : Instant) : Except StoreError (Option EvidenceRunState) :=
  match state.state with
  | .started => do
    require (state.startedAt = some startedAt)
      ⟨.conflict, "started run identity already has a different started_at"⟩
    return none
  | .closed => .error ⟨.stateError, "closed evidence runs cannot be started"⟩
  | .draft =>
    .error ⟨.stateError, "run must be promoted to the recorded ready plan before start"⟩
  | .ready => do
    require (plan.createdAt ≤ startedAt)
      ⟨.valueError, "evidence run started_at must not precede plan creation"⟩
    let started ← EvidenceRunState.construct {
      state := .started
      runIdentity
      planIdentity := some plan.planIdentity
      startedAt := some startedAt }
    return some started

/-- `start_run`. -/
def startRun (runIdentity : EntityIdentity) (startedAt : Instant)
    (directory : Option RunDirectory) : Except StoreError (Prepared StoredEvidenceRun) := do
  let (d, spec, state) ← requireSpecAndState directory runIdentity
  let stored ← d.readPlan
  let plan ← requireReady stored
  validatePlanAgainstSpec plan spec true
  require (state.planIdentity = some plan.planIdentity)
    ⟨.conflict, "operational state plan identity does not match the persisted plan"⟩
  let started ← startedState runIdentity plan state startedAt
  return {
    writes := started.toList.map .state
    result := fun _ => .ok { spec, plan := some plan, state := started.getD state } }

/-- The plan of a run that has started. -/
def requireStarted : Option RunPlan → Except StoreError RunPlan
  | some plan => .ok plan
  | none => .error ⟨.incomplete, "started evidence run requires its stable ready plan"⟩

/-- `close_run` of a run that is closed. -/
def closeAgain (runIdentity : EntityIdentity) (state : EvidenceRunState) (closedAt : Instant) :
    Except StoreError (Prepared StoredEvidenceRun) := do
  require (state.closedAt = some closedAt)
    ⟨.conflict, "closed run identity already has a different closed_at"⟩
  return { writes := [], result := fun after => readRunUnlocked after runIdentity }

/-- `close_run` of a run that is not closed. -/
def closeStarted (runIdentity : EntityIdentity) (d : RunDirectory) (spec : ResolvedRunSpec)
    (state : EvidenceRunState) (closedAt : Instant) :
    Except StoreError (Prepared StoredEvidenceRun) := do
  require (state.state = .started ∧ state.startedAt.isSome)
    ⟨.stateError, "only started evidence runs can be closed"⟩
  let stored ← d.readPlan
  let plan ← requireStarted stored
  validatePlanAgainstSpec plan spec true
  require (state.planIdentity = some plan.planIdentity)
    ⟨.conflict, "operational state plan identity does not match the persisted plan"⟩
  let closed ← EvidenceRunState.construct {
    state := .closed
    runIdentity
    planIdentity := some plan.planIdentity
    startedAt := state.startedAt
    closedAt := some closedAt }
  return {
    writes := [.state closed]
    result := fun _ => .ok { spec, plan := some plan, state := closed } }

/-- `close_run`. -/
def closeRun (runIdentity : EntityIdentity) (closedAt : Instant)
    (directory : Option RunDirectory) : Except StoreError (Prepared StoredEvidenceRun) := do
  let (d, spec, state) ← requireSpecAndState directory runIdentity
  if state.state = .closed then closeAgain runIdentity state closedAt
  else closeStarted runIdentity d spec state closedAt

/-! ## The calls of a store -/

/-- A call that writes, with its validated arguments. -/
inductive StoreCall
  | createRun (spec : Model ResolvedRunSpec.errors)
  | writeDraftPlan (runIdentity : EntityIdentity) (plan : Model RunPlan.errors)
  | promoteReadyPlan (runIdentity : EntityIdentity) (plan : Model RunPlan.errors)
  | startRun (runIdentity : EntityIdentity) (startedAt : Instant)
  | closeRun (runIdentity : EntityIdentity) (closedAt : Instant)

/-- What a call returns. -/
inductive StoreAnswer
  | run (run : StoredEvidenceRun)
  | plan (plan : RunPlan)

/-- A prepared call under one type of answers. -/
def Prepared.map {β γ : Type} (f : β → γ) (p : Prepared β) : Prepared γ :=
  { writes := p.writes, result := fun after => (p.result after).map f }

namespace StoreCall

/-- The run that a call is about. -/
def runIdentity : StoreCall → EntityIdentity
  | createRun spec => spec.1.runIdentity
  | writeDraftPlan runIdentity _ => runIdentity
  | promoteReadyPlan runIdentity _ => runIdentity
  | startRun runIdentity _ => runIdentity
  | closeRun runIdentity _ => runIdentity

def prepare : StoreCall → Option RunDirectory → Except StoreError (Prepared StoreAnswer)
  | createRun spec, d => (Ledger.createRun spec.1 d).map (.map .run)
  | writeDraftPlan id plan, d => (Ledger.writeDraftPlan id plan.1 d).map (.map .plan)
  | promoteReadyPlan id plan, d => (Ledger.promoteReadyPlan id plan.1 d).map (.map .plan)
  | startRun id startedAt, d => (Ledger.startRun id startedAt d).map (.map .run)
  | closeRun id closedAt, d => (Ledger.closeRun id closedAt d).map (.map .run)

end StoreCall

/-- The calls on the directory of one run. -/
def directoryJournal : Journal (Option RunDirectory) FileWrite StoreError StoreAnswer StoreCall where
  apply := FileWrite.apply
  prepare c d := (c.prepare d).map (·.writes)
  answer c d := do
    let prepared ← c.prepare d
    prepared.result (prepared.writes.foldl FileWrite.apply d)

/-- The calls of a store: each works in the directory of its run. -/
def runJournal : Journal RunStore (String × FileWrite) StoreError StoreAnswer StoreCall :=
  directoryJournal.family fun c => locator c.runIdentity

/-- `read_run`. -/
def readRun (store : RunStore) (runIdentity : EntityIdentity) :
    Except StoreError StoredEvidenceRun :=
  readRunUnlocked (store (locator runIdentity)) runIdentity

end AecBench.Ledger
