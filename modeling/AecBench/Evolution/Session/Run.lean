import AecBench.Evolution.Session.Tools

/-!
# Running and resuming a session

The session loop with its terminal outcomes, the restoration from a checkpoint, the entry point
of a variation call, and the calls of one variation one after the other, each of which finds the
checkpoint that the one before it left.

## Main definitions

* `terminalResult`, `exhausted`, `finishCancellation` — the terminal outcomes.
* `startNewCall`, `restoreCheckpoint` — the two ways a session starts.
* `round`, `loop`, `runSession` — the session loop.
* `runAvo` — the entry point of a call.
* `callOf` — one call from a checkpoint file, with given answers of the environment.
* `FileReachable` — the checkpoint files that calls of one variation leave, however they end.
* `sampleConfig` — a small variation.

## Implementation notes

* Every round of the loop counts a model request, so the limit on model requests is the fuel of
  the loop.
-/

namespace AecBench.Evolution.Session

open Validation

/-! ## Terminal outcomes -/

/-- The constructor of a proposal. -/
def candidateProposal (proposal : CandidateProposal) : Except String CandidateProposal := do
  proposal.check
  return proposal

/-- The proposal of a session with the given terminal status. -/
def proposalOf (cfg : SessionConfig) (status : ProposalStatus) : Method CandidateProposal := do
  let session ← getSession
  let state := session.state
  let message := session.attributes.terminalMessage
  if status = .submitted then do
    let snapshot ← exportSnapshot cfg.childCandidateId
    match state.attempts.find? (·.revision = state.currentRevision) with
    | none => .fail (.other "StopIteration")
    | some attempt => ofExcept <| candidateProposal {
        status := .submitted
        child := some snapshot
        mutation := some attempt.mutation
        reasoning := message
        usage := state.usage
        attempt := some attempt
        memory := state.memory }
  else ofExcept <| candidateProposal {
      status := status
      child := none
      mutation := none
      reasoning :=
        if message = "" then "Variation ended without a submitted child." else message
      usage := state.usage
      memory := state.memory }

/-- Look at the cancellation signal, unless the session is cancelled already. -/
def checkUnlessCancelled : Method Unit := do
  let session ← getSession
  if session.attributes.terminalStatus = some .cancelled then return () else checkCancellation

/-- `_terminal_result`. -/
def terminalResult (cfg : SessionConfig) : Method CandidateProposal := do
  checkUnlessCancelled
  refreshElapsed
  let session ← getSession
  let status := session.attributes.terminalStatus.getD .budgetExhausted
  replaceState fun state => { state with terminalStatus := some status }
  let result ← proposalOf cfg status
  writeCheckpoint cfg (some result)
  return result

/-- The message of a reached limit. -/
def exhaustionMessage (limit : String) : String := s!"Budget exhausted: {limit}."

/-- `_exhausted`. -/
def exhausted (cfg : SessionConfig) (limit : String) : Method CandidateProposal := do
  terminate .budgetExhausted (exhaustionMessage limit)
  terminalResult cfg

/-- `_finish_cancellation`. -/
def finishCancellation (cfg : SessionConfig) (reason : AVOCancellationReason) :
    Method CandidateProposal := do
  replaceState fun state => { state with exhaustedDirectionRequested := false }
  updateAttributes fun a => { a with cancellationReason := some reason }
  terminate .cancelled reason.detail
  let _ ← terminalResult cfg
  .fail (.cancelled reason)

/-! ## Starting -/

/-- The evaluation of the parent, before the first checkpoint of a state that can be resumed. -/
def evaluateParent (cfg : SessionConfig) : Method Unit := do
  ensureEffectBudget cfg
  checkCancellation
  checkCancellation
  let effect ← beginExternalEffect cfg .developmentEvaluation "development-parent"
  let evidence ← asExternalEffect effect
    (evaluateSnapshot cfg cfg.request.parent.snapshot 0)
  updateAttributes fun a => { a with parentEvidence := some evidence }
  incrementUsage cfg 0 0 1
  clearExternalEffect cfg effect.effectId
  checkCancellation

/-- `_start_new_call`. -/
def startNewCall (cfg : SessionConfig) : Method Unit := do
  refreshElapsed
  let session ← getSession
  match loopLimitReason cfg.budget session.state.usage with
  | some limit => terminate .budgetExhausted (exhaustionMessage limit)
  | none => do
    let r ← (evaluateParent cfg).result
    match r with
    | .ok _ => return ()
    | .error (.toolBudgetExceeded limit) =>
      terminate .budgetExhausted (exhaustionMessage limit)
    | .error e => .fail e

/-- The model cost that a checkpoint restores. -/
def restoredModelCost (usage : ProposalUsage) : Option ℚ≥0 :=
  match usage.modelCostUsd with
  | some cost => some cost
  | none => if usage.modelRequests = 0 then some 0 else none

/-- The mutation and the hypothesis that a checkpoint restores. -/
def restoredMutation (cfg : SessionConfig) (state : AVOState) (current : WorkspaceSnapshot) :
    MutationSummary × String :=
  match state.attempts.find? (·.revision = state.currentRevision) with
  | none => (mutationSummaryForMaterial cfg.request.parent.snapshot current, "")
  | some attempt => (attempt.mutation, attempt.hypothesis)

/-- `_restore_checkpoint`. -/
def restoreCheckpoint (cfg : SessionConfig) (checkpoint : AVOCheckpoint) : Method Unit := do
  match checkpoint.parentEvidence with
  | none => .fail (.incompleteExternalEffect none)
  | some evidence => do
    let evidence ← ofExcept evidence.toEvaluatedCandidate
    updateAttributes fun a => { a with parentEvidence := some evidence }
    let state ← ofExcept checkpoint.toState
    Program.perform () (.assign state)
    applySnapshot checkpoint.currentSnapshot
    let now ← Program.perform () .clock
    let restored := restoredMutation cfg state checkpoint.currentSnapshot
    updateAttributes fun a =>
      { a with
        startedAt := now - checkpoint.usage.elapsedSeconds
        modelCost := restoredModelCost checkpoint.usage
        lastMutation := restored.1
        lastHypothesis := restored.2
        terminalStatus := state.terminalStatus
        terminalMessage := (checkpoint.terminalResult.map (·.reasoning)).getD "" }

/-! ## The loop -/

/-- Run `body`; a limit that it reaches ends the session. -/
def orExhausted (cfg : SessionConfig) (body : Method Unit) :
    Method (Option CandidateProposal) := do
  let r ← body.result
  match r with
  | .ok _ => return none
  | .error (.toolBudgetExceeded limit) => do
    let result ← exhausted cfg limit
    return some result
  | .error e => .fail e

/-- The usage of a response, and its command. -/
def recordResponse (response : Option AVOResponse) : Method AVOCommand :=
  match response with
  | none => .fail (.invalid "agent runner must return AVOCommand or AVOResponse")
  | some response => do
    recordModelCost response.modelCostUsd
    recordModelTokens response.inputTokens response.outputTokens
    return response.command

/-- The runner as an external effect. -/
def callRunner (cfg : SessionConfig) (advice : Bool) (effect : AVOIncompleteExternalEffect) :
    Method (Option AVOResponse) :=
  asExternalEffect effect do
    let turn ← Program.perform () .model
    runTurn cfg advice turn

/-- One model request: reserved, marked, made and recorded. -/
def requestModel (cfg : SessionConfig) (advice : Bool) : Method AVOCommand := do
  ensureModelRequestBudget cfg
  incrementUsage cfg 1 0 0
  checkCancellation
  let session ← getSession
  let effect ← beginExternalEffect cfg .modelRequest
    ("model-" ++ toString session.state.usage.modelRequests)
  let response ← callRunner cfg advice effect
  tryFinally (recordResponse response) (clearExternalEffect cfg effect.effectId)

/-- What follows a model response, unless the runner ended the session itself. -/
def followCommand (cfg : SessionConfig) (advice : Bool) (command : AVOCommand) :
    Method (Option CandidateProposal) := do
  let session ← getSession
  if session.attributes.terminalStatus ≠ none then return none
  else do
    let result ← orExhausted cfg (dispatch cfg advice command)
    let session ← getSession
    if result ≠ none ∨ session.attributes.terminalStatus ≠ none then return result
    else orExhausted cfg (maybeGetAdvice cfg)

/-- One round of the loop: the proposal, when the session ends in it. -/
def round (cfg : SessionConfig) : Method (Option CandidateProposal) := do
  let session ← getSession
  let advice := offersAdvice cfg session.state
  refreshElapsed
  let session ← getSession
  match loopLimitReason cfg.budget session.state.usage with
  | some limit => do
    let result ← exhausted cfg limit
    return some result
  | none => do
    checkCancellation
    let command ← requestModel cfg advice
    checkCancellation
    followCommand cfg advice command

/-- The loop of a session. -/
def loop (cfg : SessionConfig) : ℕ → Method CandidateProposal
  | 0 => .fail (.other "the loop does not end")
  | fuel + 1 => do
    let session ← getSession
    if session.attributes.terminalStatus ≠ none then terminalResult cfg
    else do
      let result ← round cfg
      match result with
      | some proposal => return proposal
      | none => loop cfg fuel

/-! ## Sessions -/

/-- How a session starts: from a checkpoint, or with the evaluation of the parent. -/
def startSession (cfg : SessionConfig) (checkpoint : Option AVOCheckpoint) :
    Method (Option CandidateProposal) :=
  match checkpoint with
  | none => do
    startNewCall cfg
    return none
  | some checkpoint => do
    restoreCheckpoint cfg checkpoint
    let session ← getSession
    if session.attributes.terminalStatus ≠ none then return none
    -- An advice trigger may have been checkpointed without the intervention it asks for.
    else orExhausted cfg (maybeGetAdvice cfg)

/-- `AVOSession.run`, without the handler of cancellations. -/
def runUncancelled (cfg : SessionConfig) (checkpoint : Option AVOCheckpoint) :
    Method CandidateProposal :=
  if cfg.request.scope = .skip then do
    checkCancellation
    terminate .abstained "Proposal scope does not permit a mutation."
    terminalResult cfg
  else do
    let result ← startSession cfg checkpoint
    match result with
    | some proposal => return proposal
    | none => loop cfg (cfg.budget.maxModelRequests + 1)

/-- `AVOSession.run`. -/
def runSession (cfg : SessionConfig) (checkpoint : Option AVOCheckpoint) :
    Method CandidateProposal :=
  tryCatch (runUncancelled cfg checkpoint) fun error =>
    match error with
    | .cancelled reason => finishCancellation cfg reason
    | error => .fail error

/-- The state of a new session. -/
def initialState (cfg : SessionConfig) : AVOState :=
  { variationId := cfg.variationId
    parentCandidateId := cfg.request.parent.snapshot.candidateId
    childCandidateId := cfg.childCandidateId
    currentRevision := 0
    memory := cfg.request.memory
    parentSnapshot := some cfg.request.parent.snapshot }

/-- `scratch_workspace_from`, in an empty scratch directory. -/
def materialiseScratch (cfg : SessionConfig) : Method Unit := do
  let parent := cfg.request.parent.snapshot
  ofExcept (require (¬ Text.Blank cfg.childCandidateId) "child_candidate_id must not be blank")
  ofExcept (require (cfg.childCandidateId ≠ parent.candidateId)
    "child_candidate_id must differ from the parent candidate_id")
  writePrompt parent.systemPrompt
  applySnapshot parent

/-- A session in a new scratch workspace. -/
def newSession (cfg : SessionConfig) (checkpoint : Option AVOCheckpoint) :
    Method CandidateProposal := do
  materialiseScratch cfg
  let now ← Program.perform () .clock
  updateAttributes fun a => { a with startedAt := now }
  ofExcept (initialState cfg).check
  runSession cfg checkpoint

/-! ## Calls -/

/-- The proposal of a call whose scope permits no change. -/
def skippedProposal (cfg : SessionConfig) : CandidateProposal :=
  { status := .abstained
    child := none
    mutation := none
    reasoning := "Proposal scope does not permit a mutation."
    usage := {}
    memory := cfg.request.memory }

/-- `load_resumable_checkpoint`. -/
def loadResumableCheckpoint (cfg : SessionConfig) (identity : AVOConfigurationIdentity)
    (file : AVOCheckpoint) : Method AVOCheckpoint := do
  let checkpoint ← ofExcept file.read
  ofExcept (checkpoint.requireResumable (cfg.context identity) cfg.variationId
    cfg.childCandidateId cfg.request.parent.snapshot)
  match checkpoint.incompleteExternalEffects with
  | [] => return checkpoint
  | effect :: _ => .fail (.incompleteExternalEffect (some effect))

/-- Raise the cancellation that a checkpoint records; an earlier signal keeps its reason. -/
def raiseRecordedCancellation (terminal : AVOCheckpointTerminalResult) :
    Method CandidateProposal := do
  checkCancellation
  if h : ¬ Text.Blank terminal.reasoning then
    .fail (.cancelled {
      code := terminal.cancellationCode.getD .requested
      detail := terminal.reasoning
      visible := h })
  else .fail (.invalid "cancellation reason detail must not be blank")

/-- A call that finds a checkpoint. -/
def resumeAvo (cfg : SessionConfig) (identity : AVOConfigurationIdentity)
    (file : AVOCheckpoint) : Method CandidateProposal := do
  let checkpoint ← loadResumableCheckpoint cfg identity file
  match checkpoint.terminalResult with
  | none => newSession cfg (some checkpoint)
  | some terminal =>
    if terminal.status = .cancelled then raiseRecordedCancellation terminal
    else ofExcept checkpoint.terminalProposal

/-- `run_avo`, once the development batch is planned. -/
def runAvo (cfg : SessionConfig) (file : Option AVOCheckpoint) : Method CandidateProposal :=
  match cfg.configurationIdentity with
  | none => do
    checkCancellation
    if cfg.request.scope = .skip then do
      let reason ← Program.perform () .poll
      if reason = none then ofExcept (candidateProposal (skippedProposal cfg))
      else newSession cfg none
    else newSession cfg none
  | some identity =>
    match file with
    | none => newSession cfg none
    | some file => resumeAvo cfg identity file

/-- The world in which a call starts. -/
def startWorld (cfg : SessionConfig) (skillBudget : ℕ) : World :=
  { session :=
      { state := initialState cfg
        attributes := { scratch := { prompt := "", skillBudget } } } }

/-- The environment that gives the answers of `replies`, one by one. -/
def environment (replies : ℕ → Reply) : Program.Env Reply World :=
  { disturb := fun _ w => w
    input := replies }

/-- How a call ends, and the world it leaves. -/
def callOf (cfg : SessionConfig) (skillBudget : ℕ) (file : Option AVOCheckpoint)
    (replies : ℕ → Reply) : Except Err CandidateProposal × World :=
  let run := (runAvo cfg file).exec semantics (environment replies) 0 (startWorld cfg skillBudget)
  (run.1, run.2.1)

/-- The checkpoint files of one variation: there is none at first, and a call that finds one
leaves the last it wrote before it ended or was killed, whichever part of its record that is. -/
inductive FileReachable (cfg : SessionConfig) (skillBudget : ℕ) : Option AVOCheckpoint → Prop
  | absent : FileReachable cfg skillBudget none
  | call {file : Option AVOCheckpoint} (h : FileReachable cfg skillBudget file)
      (replies : ℕ → Reply) {log : List Event}
      (hlog : log <:+ (callOf cfg skillBudget file replies).2.log) :
      FileReachable cfg skillBudget (checkpointFile log file)

/-! ## A small variation -/

/-- The record of one completed trial. -/
def sampleTrial (trialId : String) (reward : ℚ) : TrialRecord :=
  { trialId := trialId
    runId := "run"
    taskId := "civil/beam"
    executionStatus := .completed
    evaluationStatus := .completed
    evaluation := some { reward, validity := ⟨true, true, true, []⟩ }
    runManifest := some { runId := "run", experimentId := "development" } }

/-- One case, evaluated once. -/
def sampleEvaluation : RevisionEvaluation :=
  { batch :=
      { taskIds := ["civil/beam"]
        trials := [⟨"planned", "civil/beam", 1⟩]
        evaluationCaseIds := ["case"] }
    plannedExperimentId := "development" }

def sampleParent : WorkspaceSnapshot := { systemPrompt := "prompt", candidateId := "parent" }

/-- A variation of a parent that scored nothing. -/
def sampleConfig : SessionConfig :=
  { request :=
      { runId := "evolution"
        selection := ⟨"parent", [], .conservative, "goal", "reason"⟩
        parent := (sampleEvaluation.evaluate sampleParent 0 [sampleTrial "before" 0]).toOption.getD
          default
        scope := .targeted }
    childCandidateId := "child"
    revisionEvaluation := sampleEvaluation
    variationId := "variation"
    configurationIdentity := some ⟨"model", "supervisor", "tools", "evaluator", "configuration"⟩ }

end AecBench.Evolution.Session
