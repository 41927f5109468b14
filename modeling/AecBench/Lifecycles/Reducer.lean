import AecBench.Lib.Objects
import AecBench.Lib.Table
import AecBench.Contracts.EvidenceLifecycle
import AecBench.Lifecycles.State

/-!
# Lifecycle reducers

The transition decisions of a lifecycle: each takes a run state, and either raises or returns a
detached run state with the transitions it added. Run states are mutable objects here, as in
the source: a reducer copies the state it is given and assigns to the copy.

## Main definitions

* `reduceRelease`, `reduceSubmit`, `reduceOpenAttempt`, `reduceFailAttempt`, `reduceRevisit`,
  `reduceBranch` — the reducers.
* `ReducerCall` — a call of any of them.

## Main results

* `reduceRelease_eq_ok` and its siblings — what a reducer that returns has checked and built.
* `ReducerCall.keeps` — no reducer touches an object that was there before.

## Implementation notes

* A run state owns its checkpoint records, and these own their attempts and actions, so an
  object is a whole run state; `updated.checkpoint(checkpoint_id)` is the part of the object
  that the assignments go to.
-/

namespace AecBench.Lifecycles

open Validation Objects Contracts

/-- The exceptions of the reducers; a validation error names the model it comes from. -/
inductive LifecycleException
  | evidenceLifecycleError (message : String)
  | keyError (key : String)
  | validationError (model : String) (errors : Errors)
  deriving DecidableEq

/-- The constructor of a validated record. -/
def construct {α : Type} (model : String) (errors : α → Errors) (x : α) :
    Except LifecycleException α :=
  if errors x = [] then .ok x else .error (.validationError model (errors x))

@[simp] lemma construct_eq_ok {α : Type} {model : String} {errors : α → Errors} {x y : α} :
    construct model errors x = .ok y ↔ errors x = [] ∧ x = y := by
  by_cases h : errors x = [] <;> simp [construct, h]

/-- The state and the transitions a reducer returns. -/
structure LifecycleReduction where
  state : Ref
  events : List LifecycleTransitionRecord := []

abbrev ReducerM := Objects.Action LifecycleException EvidenceLifecycleRunState

namespace EvidenceLifecycleRunState

/-- `state.checkpoint(checkpoint_id)`. -/
def checkpoint (state : EvidenceLifecycleRunState) (checkpointId : String) :
    Except LifecycleException CheckpointRunRecord :=
  match state.checkpoint? checkpointId with
  | some checkpoint => .ok checkpoint
  | none => .error (.keyError checkpointId)

/-- `_checkpoint(state, checkpoint_id)`. -/
def knownCheckpoint (state : EvidenceLifecycleRunState) (checkpointId : String) :
    Except LifecycleException CheckpointRunRecord :=
  match state.checkpoint? checkpointId with
  | some checkpoint => .ok checkpoint
  | none => .error (.evidenceLifecycleError ("unknown checkpoint: " ++ checkpointId))

/-- Assignments to `state.checkpoint(checkpoint_id)`. -/
def assignCheckpoint (checkpointId : String) (f : CheckpointRunRecord → CheckpointRunRecord)
    (state : EvidenceLifecycleRunState) : EvidenceLifecycleRunState :=
  { state with
    checkpointRuns := Table.updateFirst (·.checkpointId = checkpointId) f state.checkpointRuns }

end EvidenceLifecycleRunState

/-- Assignments to `checkpoint.active_attempt`. -/
def CheckpointRunRecord.assignActiveAttempt
    (f : CheckpointAttemptRecord → CheckpointAttemptRecord) (checkpoint : CheckpointRunRecord) :
    CheckpointRunRecord :=
  { checkpoint with attempts := Table.updateLast (·.status = .active) f checkpoint.attempts }

def transitionId (n : ℕ) : String := "transition-" ++ Text.padded 3 n

def revisitId (n : ℕ) : String := "revisit-" ++ Text.padded 3 n

def attemptId (checkpointId : String) (n : ℕ) : String :=
  checkpointId ++ ".attempt-" ++ Text.padded 3 n

/-- `_transition`: append a transition with the next identifier. -/
def transition (state : Ref) (kind : LifecycleTransitionKind)
    (fromCheckpointId toCheckpointId : Option String) (reason : String) :
    ReducerM LifecycleTransitionRecord := do
  let current ← read state
  let event ← eval <| construct "LifecycleTransitionRecord" LifecycleTransitionRecord.errors
    { transitionId := transitionId (current.transitions.length + 1), kind, fromCheckpointId,
      toCheckpointId, reason }
  assign state fun s => { s with transitions := s.transitions ++ [event] }
  return event

/-- Release the next checkpoint. -/
def reduceRelease (state : Ref) (checkpointId : String) (releasedFiles : List String)
    (reason : String) (previousCheckpointId : Option String) : ReducerM LifecycleReduction := do
  let before ← read state
  raiseIf (before.status ≠ .awaitingEvidenceRelease ∨ before.activeCheckpointId ≠ none)
    (.evidenceLifecycleError "lifecycle is not awaiting evidence release")
  let checkpoint ← eval (before.knownCheckpoint checkpointId)
  raiseIf (checkpoint.status ≠ .pending)
    (.evidenceLifecycleError ("checkpoint is not pending: " ++ checkpointId))
  let updated ← copy state
  assign updated <| EvidenceLifecycleRunState.assignCheckpoint checkpointId fun c =>
    { c with status := .active, releasedFiles }
  assign updated fun s =>
    { s with activeCheckpointId := some checkpointId, status := .awaitingCheckpointSubmission }
  let event ← transition updated .release previousCheckpointId (some checkpointId) reason
  return { state := updated, events := [event] }

/-- The assignments of `reduce_submit` to the active checkpoint. -/
def CheckpointRunRecord.submit (submissionPath submissionSha256 : String)
    (checkpoint : CheckpointRunRecord) : CheckpointRunRecord :=
  { checkpoint.assignActiveAttempt fun a => { a with status := .submitted } with
    status := .submitted
    submissionPath := some submissionPath
    submissionSha256 := some submissionSha256 }

/-- The status of a run after a submission. -/
def statusAfterSubmit (checkpointRuns : List CheckpointRunRecord) : LifecycleRunStatus :=
  if ∀ item ∈ checkpointRuns, item.status = .submitted then .complete
  else .awaitingEvidenceRelease

/-- Submit the active checkpoint. -/
def reduceSubmit (state : Ref) (checkpointId submissionPath submissionSha256 reason : String) :
    ReducerM LifecycleReduction := do
  let before ← read state
  raiseIf (before.status ≠ .awaitingCheckpointSubmission)
    (.evidenceLifecycleError "lifecycle is not awaiting checkpoint submission")
  raiseIf (before.activeCheckpointId ≠ some checkpointId)
    (.evidenceLifecycleError ("checkpoint is not active: " ++ checkpointId))
  let updated ← copy state
  let _ ← eval (before.checkpoint checkpointId)
  assign updated <| EvidenceLifecycleRunState.assignCheckpoint checkpointId
    (CheckpointRunRecord.submit submissionPath submissionSha256)
  assign updated fun s =>
    { s with activeCheckpointId := none, status := statusAfterSubmit s.checkpointRuns }
  let event ← transition updated .submit (some checkpointId) none reason
  return { state := updated, events := [event] }

/-- The attempt `reduce_open_attempt` adds to a checkpoint. -/
def CheckpointRunRecord.nextAttempt (checkpoint : CheckpointRunRecord)
    (checkpointId sessionId executionMode : String) (episodeRequestSha256 : Option String) :
    CheckpointAttemptRecord where
  attemptId := attemptId checkpointId (checkpoint.attempts.length + 1)
  sessionId := sessionId
  sequence := checkpoint.attempts.length + 1
  executionMode := executionMode
  status := .active
  resumedFromAttemptId := checkpoint.lastAttempt.map (·.attemptId)
  episodeRequestSha256 := episodeRequestSha256

/-- Interrupt the attempt that is active, if there is one. -/
def CheckpointRunRecord.interruptActiveAttempt (checkpoint : CheckpointRunRecord) :
    CheckpointRunRecord :=
  checkpoint.assignActiveAttempt fun a => { a with status := .interrupted }

/-- The rest of `reduce_open_attempt`, when the active attempt is not the session's own. -/
def openNewAttempt (updated : Ref) (checkpoint : CheckpointRunRecord)
    (checkpointId sessionId executionMode : String) (episodeRequestSha256 : Option String) :
    ReducerM LifecycleReduction := do
  assign updated <| EvidenceLifecycleRunState.assignCheckpoint checkpointId
    CheckpointRunRecord.interruptActiveAttempt
  let attempt ← eval <| construct "CheckpointAttemptRecord" CheckpointAttemptRecord.errors
    (checkpoint.interruptActiveAttempt.nextAttempt checkpointId sessionId executionMode
      episodeRequestSha256)
  assign updated <| EvidenceLifecycleRunState.assignCheckpoint checkpointId fun c =>
    { c with attempts := c.attempts ++ [attempt] }
  return { state := updated }

/-- Open an attempt at the active checkpoint, or resume the one the session has open. -/
def reduceOpenAttempt (state : Ref) (checkpointId sessionId executionMode : String)
    (episodeRequestSha256 : Option String) : ReducerM LifecycleReduction := do
  let before ← read state
  raiseIf (before.activeCheckpointId ≠ some checkpointId)
    (.evidenceLifecycleError "no checkpoint is active")
  let updated ← copy state
  let checkpoint ← eval (before.checkpoint checkpointId)
  match checkpoint.activeAttempt with
  | some attempt =>
    if attempt.sessionId = sessionId then do
      raiseIf (episodeRequestSha256 ≠ none ∧ attempt.episodeRequestSha256 ≠ episodeRequestSha256)
        (.evidenceLifecycleError "active checkpoint attempt request hash changed")
      return { state := updated }
    else
      openNewAttempt updated checkpoint checkpointId sessionId executionMode episodeRequestSha256
  | none =>
    openNewAttempt updated checkpoint checkpointId sessionId executionMode episodeRequestSha256

/-- Fail the active attempt. -/
def reduceFailAttempt (state : Ref) (checkpointId sessionId failureKind : String) :
    ReducerM LifecycleReduction := do
  let before ← read state
  raiseIf (before.activeCheckpointId ≠ some checkpointId)
    (.evidenceLifecycleError "no checkpoint is active")
  let updated ← copy state
  let checkpoint ← eval (before.checkpoint checkpointId)
  match checkpoint.activeAttempt with
  | none => raise (.evidenceLifecycleError "no checkpoint attempt is active")
  | some attempt => do
    raiseIf (attempt.sessionId ≠ sessionId)
      (.evidenceLifecycleError
        ("active attempt belongs to " ++ attempt.sessionId ++ "; cannot fail it from " ++
          sessionId))
    assign updated <| EvidenceLifecycleRunState.assignCheckpoint checkpointId <|
      CheckpointRunRecord.assignActiveAttempt fun a =>
        { a with status := .failed, failureKind := some failureKind }
    return { state := updated }

/-- Record a revisit of a submitted checkpoint. -/
def reduceRevisit (state : Ref) (checkpointId reason : String) :
    ReducerM LifecycleReduction := do
  let updated ← copy state
  let current ← read updated
  let checkpoint ← eval (current.checkpoint checkpointId)
  raiseIf (checkpoint.status ≠ .submitted)
    (.evidenceLifecycleError ("checkpoint is not available for revisit: " ++ checkpointId))
  let revisit ← eval <| construct "CheckpointRevisitRecord" CheckpointRevisitRecord.errors
    { revisitId := revisitId (current.revisits.length + 1), checkpointId,
      requestedFromCheckpointId := current.activeCheckpointId, reason }
  assign updated fun s => { s with revisits := s.revisits ++ [revisit] }
  let event ← transition updated .revisit revisit.requestedFromCheckpointId (some checkpointId)
    reason
  return { state := updated, events := [event] }

/-! ## Branches -/

def CheckpointAttemptRecord.inherit (attempt : CheckpointAttemptRecord) :
    CheckpointAttemptRecord :=
  { attempt with inheritedFromParent := true }

def EvidenceRequestActionRecord.inherit (action : EvidenceRequestActionRecord) :
    EvidenceRequestActionRecord :=
  { action with inheritedFromParent := true }

def LifecycleOperationActionRecord.inherit (action : LifecycleOperationActionRecord) :
    LifecycleOperationActionRecord :=
  { action with inheritedFromParent := true }

/-- The history a branch takes over from a checkpoint of its parent. -/
def CheckpointRunRecord.inheritHistory (parent : CheckpointRunRecord) : CheckpointRunRecord where
  checkpointId := parent.checkpointId
  releasedFiles := parent.releasedFiles
  attempts := parent.attempts.map CheckpointAttemptRecord.inherit
  evidenceRequestBudget := parent.evidenceRequestBudget
  evidenceRequestBudgetRemaining := parent.evidenceRequestBudgetRemaining
  evidenceRequestActions :=
    parent.evidenceRequestActions.map EvidenceRequestActionRecord.inherit
  operationBudget := parent.operationBudget
  operationBudgetRemaining := parent.operationBudgetRemaining
  operationActions := parent.operationActions.map LifecycleOperationActionRecord.inherit

/-- A checkpoint before the branch point, taken over as it was submitted. -/
def CheckpointRunRecord.inherited (parent : CheckpointRunRecord) (checkpointId : String) :
    CheckpointRunRecord :=
  { parent.inheritHistory with
    checkpointId
    status := .submitted
    submissionPath := parent.submissionPath
    submissionSha256 := parent.submissionSha256
    inheritedFromParent := true }

/-- The branch point, reopened with the history of the parent. -/
def CheckpointRunRecord.reopened (parent : CheckpointRunRecord) (checkpointId : String) :
    CheckpointRunRecord :=
  { parent.inheritHistory with checkpointId, status := .active }

/-- A checkpoint that has not been released yet. -/
def CheckpointRunRecord.fresh (checkpoint : EvidenceCheckpointSpec) : CheckpointRunRecord where
  checkpointId := checkpoint.checkpointId
  evidenceRequestBudget := checkpoint.requestBudget
  evidenceRequestBudgetRemaining := checkpoint.requestBudget
  operationBudget := checkpoint.operationBudget
  operationBudgetRemaining := checkpoint.operationBudget

def constructCheckpointRun (checkpoint : CheckpointRunRecord) :
    Except LifecycleException CheckpointRunRecord :=
  construct "CheckpointRunRecord" CheckpointRunRecord.ownErrors checkpoint

/-- The checkpoint record of a branch at one position of the lifecycle. -/
def branchCheckpointRun (parent : EvidenceLifecycleRunState)
    (parentCheckpoint : CheckpointRunRecord) (branchIndex : ℕ)
    (item : EvidenceCheckpointSpec × ℕ) : Except LifecycleException CheckpointRunRecord :=
  if item.2 < branchIndex then do
    let inherited ← parent.knownCheckpoint item.1.checkpointId
    require (inherited.status = .submitted) <| .evidenceLifecycleError
      ("parent checkpoint dependency is incomplete: " ++ item.1.checkpointId)
    constructCheckpointRun (inherited.inherited item.1.checkpointId)
  else if item.2 = branchIndex then
    constructCheckpointRun (parentCheckpoint.reopened item.1.checkpointId)
  else
    constructCheckpointRun (.fresh item.1)

/-- The state of a branch before its transition is recorded. -/
def branchState (parent : EvidenceLifecycleRunState) (branch : LifecycleBranchRecord)
    (checkpointId : String) (checkpointRuns : List CheckpointRunRecord) :
    EvidenceLifecycleRunState where
  schemaVersion := parent.schemaVersion
  lifecycleId := parent.lifecycleId
  lifecycleSpecSha256 := parent.lifecycleSpecSha256
  packageSha256 := parent.packageSha256
  status := .awaitingCheckpointSubmission
  activeCheckpointId := some checkpointId
  checkpointRuns := checkpointRuns
  branch := some branch

/-- Reopen a submitted checkpoint in a new run that inherits everything before it. -/
def reduceBranch (parentState : Ref) (checkpoints : List EvidenceCheckpointSpec)
    (branchIndex : ℕ) (branch : LifecycleBranchRecord) (checkpointId reason : String) :
    ReducerM LifecycleReduction := do
  raiseIf (checkpoints.length ≤ branchIndex)
    (.evidenceLifecycleError
      ("branch checkpoint index is out of range: " ++ toString branchIndex))
  raiseIf ((checkpoints[branchIndex]?).map (·.checkpointId) ≠ some checkpointId)
    (.evidenceLifecycleError "branch checkpoint index does not match checkpoint id")
  let parent ← read parentState
  let parentCheckpoint ← eval (parent.knownCheckpoint checkpointId)
  raiseIf (parentCheckpoint.status ≠ .submitted)
    (.evidenceLifecycleError ("checkpoint is not available for branching: " ++ checkpointId))
  let checkpointRuns ← eval <|
    checkpoints.zipIdx.mapM (branchCheckpointRun parent parentCheckpoint branchIndex)
  let state ← eval <| construct "EvidenceLifecycleRunState" EvidenceLifecycleRunState.ownErrors
    (branchState parent branch checkpointId checkpointRuns)
  let updated ← alloc state
  let event ← transition updated .branch (some checkpointId) (some checkpointId) reason
  return { state := updated, events := [event] }

/-- A call of one of the reducers. -/
inductive ReducerCall
  | release (checkpointId : String) (releasedFiles : List String) (reason : String)
      (previousCheckpointId : Option String)
  | submit (checkpointId submissionPath submissionSha256 reason : String)
  | openAttempt (checkpointId sessionId executionMode : String)
      (episodeRequestSha256 : Option String)
  | failAttempt (checkpointId sessionId failureKind : String)
  | revisit (checkpointId reason : String)
  | branch (checkpoints : List EvidenceCheckpointSpec) (branchIndex : ℕ)
      (lineage : LifecycleBranchRecord) (checkpointId reason : String)

def ReducerCall.run (state : Ref) : ReducerCall → ReducerM LifecycleReduction
  | .release checkpointId releasedFiles reason previousCheckpointId =>
    reduceRelease state checkpointId releasedFiles reason previousCheckpointId
  | .submit checkpointId submissionPath submissionSha256 reason =>
    reduceSubmit state checkpointId submissionPath submissionSha256 reason
  | .openAttempt checkpointId sessionId executionMode episodeRequestSha256 =>
    reduceOpenAttempt state checkpointId sessionId executionMode episodeRequestSha256
  | .failAttempt checkpointId sessionId failureKind =>
    reduceFailAttempt state checkpointId sessionId failureKind
  | .revisit checkpointId reason => reduceRevisit state checkpointId reason
  | .branch checkpoints branchIndex lineage checkpointId reason =>
    reduceBranch state checkpoints branchIndex lineage checkpointId reason

/-! ## What a reducer that returns has built -/

/-- The transition that comes next. -/
def EvidenceLifecycleRunState.nextTransition (state : EvidenceLifecycleRunState)
    (kind : LifecycleTransitionKind) (fromCheckpointId toCheckpointId : Option String)
    (reason : String) : LifecycleTransitionRecord where
  transitionId := transitionId (state.transitions.length + 1)
  kind := kind
  fromCheckpointId := fromCheckpointId
  toCheckpointId := toCheckpointId
  reason := reason

/-- The state with the transition that comes next. -/
def EvidenceLifecycleRunState.withTransition (kind : LifecycleTransitionKind)
    (fromCheckpointId toCheckpointId : Option String) (reason : String)
    (state : EvidenceLifecycleRunState) : EvidenceLifecycleRunState :=
  { state with transitions := state.transitions ++
      [state.nextTransition kind fromCheckpointId toCheckpointId reason] }

/-- The run with the released checkpoint. -/
def EvidenceLifecycleRunState.released (checkpointId : String) (releasedFiles : List String)
    (state : EvidenceLifecycleRunState) : EvidenceLifecycleRunState :=
  { state.assignCheckpoint checkpointId fun c => { c with status := .active, releasedFiles } with
    activeCheckpointId := some checkpointId
    status := .awaitingCheckpointSubmission }

/-- The run with the submitted checkpoint. -/
def EvidenceLifecycleRunState.submitted (checkpointId submissionPath submissionSha256 : String)
    (state : EvidenceLifecycleRunState) : EvidenceLifecycleRunState :=
  let updated :=
    state.assignCheckpoint checkpointId (CheckpointRunRecord.submit submissionPath submissionSha256)
  { updated with
    activeCheckpointId := none
    status := statusAfterSubmit updated.checkpointRuns }

section Results

variable {os os' : List EvidenceLifecycleRunState} {s : EvidenceLifecycleRunState} {state : Ref}
  {red : LifecycleReduction}

variable {reason : String}

variable {kind : LifecycleTransitionKind} {fromCheckpointId toCheckpointId : Option String}

lemma transitionRecord_errors_eq_nil {n : ℕ} :
    ({ transitionId := transitionId n, kind, fromCheckpointId, toCheckpointId, reason } :
      LifecycleTransitionRecord).errors = [] ↔ ¬ Text.Blank reason := by
  have hid : ¬ Text.Blank (transitionId n) := Text.not_blank_append _ (by decide)
  simp [LifecycleTransitionRecord.errors, record_eq_nil, hid]

lemma returns_transition {P : LifecycleTransitionRecord → List EvidenceLifecycleRunState → Prop} :
    Returns (transition os.length kind fromCheckpointId toCheckpointId reason) (os ++ [s]) P ↔
      (¬ Text.Blank reason → P (s.nextTransition kind fromCheckpointId toCheckpointId reason)
        (os ++ [s.withTransition kind fromCheckpointId toCheckpointId reason])) := by
  simp only [transition, returns_bind, returns_read, getD_append_length, returns_eval,
    construct_eq_ok, returns_assign, returns_pure, modify_append_length,
    transitionRecord_errors_eq_nil]
  constructor
  · intro h hr
    exact h _ ⟨hr, rfl⟩
  · rintro h _ ⟨hr, rfl⟩
    exact h hr

variable {checkpointId : String}

@[simp] lemma EvidenceLifecycleRunState.checkpoint_eq_ok {c : CheckpointRunRecord} :
    s.checkpoint checkpointId = .ok c ↔
      s.checkpoint? checkpointId = some c := by
  rw [checkpoint]
  cases s.checkpoint? checkpointId <;> simp

@[simp] lemma EvidenceLifecycleRunState.knownCheckpoint_eq_ok {c : CheckpointRunRecord} :
    s.knownCheckpoint checkpointId = .ok c ↔
      s.checkpoint? checkpointId = some c := by
  rw [knownCheckpoint]
  cases s.checkpoint? checkpointId <;> simp

/-- The result of a reducer that returns: a new object with a state that satisfies `P`. -/
def Reduces (x : ReducerM LifecycleReduction) (os : List EvidenceLifecycleRunState)
    (P : EvidenceLifecycleRunState → Prop) : Prop :=
  Returns x os fun red os' => ∃ s', red.state = os.length ∧ os' = os ++ [s'] ∧ P s'

variable (hs : os.getD state default = s)
include hs

lemma reduceRelease_reduces {releasedFiles : List String} {previousCheckpointId : Option String} :
    Reduces (reduceRelease state checkpointId releasedFiles reason previousCheckpointId) os
      fun s' => s.status = .awaitingEvidenceRelease ∧
        (∃ c, s.checkpoint? checkpointId = some c ∧ c.status = .pending) ∧
        ¬ Text.Blank reason ∧ s' = (s.released checkpointId releasedFiles).withTransition
          .release previousCheckpointId (some checkpointId) reason := by
  simp only [Reduces, reduceRelease, returns_bind, returns_read, returns_raiseIf, returns_eval,
    returns_copy, returns_assign, returns_pure, returns_transition, hs, modify_append_length,
    EvidenceLifecycleRunState.knownCheckpoint_eq_ok]
  intro hst c hc hp hreason
  exact ⟨_, trivial, rfl, by tauto, ⟨c, hc, by tauto⟩, hreason, rfl⟩

lemma reduceSubmit_reduces {submissionPath submissionSha256 : String} :
    Reduces (reduceSubmit state checkpointId submissionPath submissionSha256 reason) os
      fun s' => s.status = .awaitingCheckpointSubmission ∧
        s.activeCheckpointId = some checkpointId ∧ ¬ Text.Blank reason ∧
        s' = (s.submitted checkpointId submissionPath submissionSha256).withTransition
          .submit (some checkpointId) none reason := by
  simp only [Reduces, reduceSubmit, returns_bind, returns_read, returns_raiseIf, returns_eval,
    returns_copy, returns_assign, returns_pure, returns_transition, hs, modify_append_length,
    EvidenceLifecycleRunState.checkpoint_eq_ok]
  intro hst hact c hc hreason
  exact ⟨_, trivial, rfl, by tauto, by tauto, hreason, rfl⟩

lemma reduceRevisit_reduces :
    Reduces (reduceRevisit state checkpointId reason) os fun s' =>
      ∃ revisit : CheckpointRevisitRecord, revisit.errors = [] ∧ ¬ Text.Blank reason ∧
        s' = ({ s with revisits := s.revisits ++ [revisit] } :
          EvidenceLifecycleRunState).withTransition .revisit revisit.requestedFromCheckpointId
            (some checkpointId) reason := by
  simp only [Reduces, reduceRevisit, returns_bind, returns_read, returns_raiseIf, returns_eval,
    returns_copy, returns_assign, returns_pure, returns_transition, hs, modify_append_length,
    getD_append_length, construct_eq_ok, EvidenceLifecycleRunState.checkpoint_eq_ok]
  rintro c hc hst _ ⟨hrevisit, rfl⟩ hreason
  exact ⟨_, trivial, rfl, _, hrevisit, hreason, rfl⟩

variable {sessionId : String}

lemma reduceFailAttempt_reduces {failureKind : String} :
    Reduces (reduceFailAttempt state checkpointId sessionId failureKind) os fun s' =>
      s' = s.assignCheckpoint checkpointId (CheckpointRunRecord.assignActiveAttempt fun a =>
        { a with status := .failed, failureKind := some failureKind }) := by
  simp only [Reduces, reduceFailAttempt, returns_bind, returns_read, returns_raiseIf,
    returns_eval, returns_copy, hs, EvidenceLifecycleRunState.checkpoint_eq_ok]
  intro hact c hc
  cases c.activeAttempt with
  | none => exact returns_raise
  | some attempt =>
    simp only [returns_bind, returns_raiseIf, returns_assign, returns_pure,
      modify_append_length]
    intro hsession
    exact ⟨_, trivial, rfl, rfl⟩

omit hs

/-- The checkpoint after `reduce_open_attempt` has added an attempt. -/
def CheckpointRunRecord.withNextAttempt (sessionId executionMode : String)
    (episodeRequestSha256 : Option String) (checkpoint : CheckpointRunRecord) :
    CheckpointRunRecord :=
  { checkpoint.interruptActiveAttempt with
    attempts := checkpoint.interruptActiveAttempt.attempts ++
      [checkpoint.interruptActiveAttempt.nextAttempt checkpoint.checkpointId sessionId
        executionMode episodeRequestSha256] }

variable {episodeRequestSha256 : Option String}

lemma openNewAttempt_reduces {checkpoint : CheckpointRunRecord} {executionMode : String}
    (hc : s.checkpoint? checkpointId = some checkpoint) :
    Returns (openNewAttempt os.length checkpoint checkpointId sessionId executionMode
        episodeRequestSha256) (os ++ [s])
      fun red os' => ∃ s', red.state = os.length ∧ os' = os ++ [s'] ∧
        (checkpoint.interruptActiveAttempt.nextAttempt checkpointId sessionId executionMode
          episodeRequestSha256).errors = [] ∧
        s' = s.assignCheckpoint checkpointId
          (CheckpointRunRecord.withNextAttempt sessionId executionMode episodeRequestSha256) := by
  simp only [openNewAttempt, returns_bind, returns_assign, returns_eval, construct_eq_ok,
    returns_pure, modify_append_length]
  rintro _ ⟨hattempt, rfl⟩
  refine ⟨_, trivial, rfl, hattempt, ?_⟩
  have hid : checkpoint.checkpointId = checkpointId := by simpa using List.find?_some hc
  simp only [EvidenceLifecycleRunState.assignCheckpoint]
  rw [Table.updateFirst_updateFirst (f := CheckpointRunRecord.interruptActiveAttempt) fun _ => rfl]
  congr 1
  apply Table.updateFirst_congr
  intro c hfound
  obtain rfl : checkpoint = c := Option.some.inj (hc.symm.trans hfound)
  rw [Function.comp_apply, CheckpointRunRecord.withNextAttempt, hid]

/-- What `reduce_open_attempt` has built when it returns: the run as it was, or the run with a
new attempt at the active checkpoint. -/
lemma reduceOpenAttempt_reduces {executionMode : String} (hs : os.getD state default = s) :
    Reduces (reduceOpenAttempt state checkpointId sessionId executionMode episodeRequestSha256)
      os fun s' => s' = s ∨ ∃ c, s.checkpoint? checkpointId = some c ∧
        (c.interruptActiveAttempt.nextAttempt checkpointId sessionId executionMode
          episodeRequestSha256).errors = [] ∧
        s' = s.assignCheckpoint checkpointId
          (CheckpointRunRecord.withNextAttempt sessionId executionMode episodeRequestSha256) := by
  simp only [Reduces, reduceOpenAttempt, returns_bind, returns_read, returns_raiseIf,
    returns_eval, returns_copy, hs, EvidenceLifecycleRunState.checkpoint_eq_ok]
  intro hact c hc
  have hnew : Returns (openNewAttempt os.length c checkpointId sessionId executionMode
      episodeRequestSha256) (os ++ [s]) fun red os' =>
        ∃ s', red.state = os.length ∧ os' = os ++ [s'] ∧ (s' = s ∨ ∃ c,
          s.checkpoint? checkpointId = some c ∧
          (c.interruptActiveAttempt.nextAttempt checkpointId sessionId executionMode
            episodeRequestSha256).errors = [] ∧
          s' = s.assignCheckpoint checkpointId (CheckpointRunRecord.withNextAttempt sessionId
            executionMode episodeRequestSha256)) := by
    intro red os' h
    obtain ⟨s', hred, hos, hattempt, hs'⟩ := openNewAttempt_reduces hc red os' h
    exact ⟨s', hred, hos, .inr ⟨c, hc, hattempt, hs'⟩⟩
  cases c.activeAttempt with
  | none => exact hnew
  | some attempt =>
    by_cases hsession : attempt.sessionId = sessionId
    · simp only [if_pos hsession, returns_bind, returns_raiseIf, returns_pure]
      intro _
      exact ⟨s, trivial, rfl, .inl rfl⟩
    · simp only [if_neg hsession]
      exact hnew

lemma reduceBranch_reduces {checkpoints : List EvidenceCheckpointSpec} {branchIndex : ℕ}
    {branch : LifecycleBranchRecord} (hs : os.getD state default = s) :
    Reduces (reduceBranch state checkpoints branchIndex branch checkpointId reason) os fun s' =>
      ∃ parentCheckpoint checkpointRuns, s.checkpoint? checkpointId = some parentCheckpoint ∧
        (checkpoints[branchIndex]?).map (·.checkpointId) = some checkpointId ∧
        List.Forall₂ (fun item c => branchCheckpointRun s parentCheckpoint branchIndex item =
          .ok c) checkpoints.zipIdx checkpointRuns ∧
        (branchState s branch checkpointId checkpointRuns).ownErrors = [] ∧
        ¬ Text.Blank reason ∧
        s' = (branchState s branch checkpointId checkpointRuns).withTransition .branch
          (some checkpointId) (some checkpointId) reason := by
  simp only [Reduces, reduceBranch, returns_bind, returns_read, returns_raiseIf, returns_eval,
    returns_alloc, returns_pure, returns_transition, hs, construct_eq_ok, mapM_eq_ok,
    EvidenceLifecycleRunState.knownCheckpoint_eq_ok]
  rintro hrange hid c hc hst checkpointRuns hruns _ ⟨hvalid, rfl⟩ hreason
  exact ⟨_, trivial, rfl, c, checkpointRuns, hc, by tauto, hruns, hvalid, hreason, rfl⟩

end Results

/-! ## Detachment -/

section Detached

variable {n : ℕ}

lemma keeps_transition {state : Ref} (h : n ≤ state) {kind : LifecycleTransitionKind}
    {fromCheckpointId toCheckpointId : Option String} {reason : String} :
    Keeps n (fun _ => True)
      (transition state kind fromCheckpointId toCheckpointId reason) :=
  keeps_bind keeps_read fun _ _ => keeps_bind keeps_eval fun _ _ =>
    keeps_bind (keeps_assign h) fun _ _ => keeps_pure trivial

lemma keeps_openNewAttempt {updated : Ref} (h : n ≤ updated) {checkpoint : CheckpointRunRecord}
    {checkpointId sessionId executionMode : String} {episodeRequestSha256 : Option String} :
    Keeps n (fun red => n ≤ red.state) (openNewAttempt updated checkpoint checkpointId sessionId
      executionMode episodeRequestSha256) :=
  keeps_bind (keeps_assign h) fun _ _ => keeps_bind keeps_eval fun _ _ =>
    keeps_bind (keeps_assign h) fun _ _ => keeps_pure h

/-- **Detachment.** No reducer assigns to an object that was there before, and the state it
returns is a new object. -/
lemma ReducerCall.keeps (call : ReducerCall) (state : Ref) :
    Keeps n (fun red => n ≤ red.state) (call.run state) := by
  cases call with
  | release checkpointId releasedFiles reason previousCheckpointId =>
    exact keeps_bind keeps_read fun _ _ => keeps_bind keeps_raiseIf fun _ _ =>
      keeps_bind keeps_eval fun _ _ => keeps_bind keeps_raiseIf fun _ _ =>
      keeps_bind keeps_copy fun _ h => keeps_bind (keeps_assign h) fun _ _ =>
      keeps_bind (keeps_assign h) fun _ _ => keeps_bind (keeps_transition h) fun _ _ =>
      keeps_pure h
  | submit checkpointId submissionPath submissionSha256 reason =>
    exact keeps_bind keeps_read fun _ _ => keeps_bind keeps_raiseIf fun _ _ =>
      keeps_bind keeps_raiseIf fun _ _ => keeps_bind keeps_copy fun _ h =>
      keeps_bind keeps_eval fun _ _ => keeps_bind (keeps_assign h) fun _ _ =>
      keeps_bind (keeps_assign h) fun _ _ => keeps_bind (keeps_transition h) fun _ _ =>
      keeps_pure h
  | openAttempt checkpointId sessionId executionMode episodeRequestSha256 =>
    refine keeps_bind keeps_read fun _ _ => keeps_bind keeps_raiseIf fun _ _ =>
      keeps_bind keeps_copy fun _ h => keeps_bind keeps_eval fun c _ => ?_
    cases c.activeAttempt with
    | none => exact keeps_openNewAttempt h
    | some attempt =>
      by_cases hsession : attempt.sessionId = sessionId
      · simp only [if_pos hsession]
        exact keeps_bind keeps_raiseIf fun _ _ => keeps_pure h
      · simp only [if_neg hsession]
        exact keeps_openNewAttempt h
  | failAttempt checkpointId sessionId failureKind =>
    refine keeps_bind keeps_read fun _ _ => keeps_bind keeps_raiseIf fun _ _ =>
      keeps_bind keeps_copy fun _ h => keeps_bind keeps_eval fun c _ => ?_
    cases c.activeAttempt with
    | none => exact keeps_raise
    | some attempt =>
      exact keeps_bind keeps_raiseIf fun _ _ => keeps_bind (keeps_assign h) fun _ _ =>
        keeps_pure h
  | revisit checkpointId reason =>
    exact keeps_bind keeps_copy fun _ h => keeps_bind keeps_read fun _ _ =>
      keeps_bind keeps_eval fun _ _ => keeps_bind keeps_raiseIf fun _ _ =>
      keeps_bind keeps_eval fun _ _ => keeps_bind (keeps_assign h) fun _ _ =>
      keeps_bind (keeps_transition h) fun _ _ => keeps_pure h
  | branch checkpoints branchIndex lineage checkpointId reason =>
    exact keeps_bind keeps_raiseIf fun _ _ => keeps_bind keeps_raiseIf fun _ _ =>
      keeps_bind keeps_read fun _ _ => keeps_bind keeps_eval fun _ _ =>
      keeps_bind keeps_raiseIf fun _ _ => keeps_bind keeps_eval fun _ _ =>
      keeps_bind keeps_eval fun _ _ => keeps_bind keeps_alloc fun _ h =>
      keeps_bind (keeps_transition h) fun _ _ => keeps_pure h

end Detached

end AecBench.Lifecycles
