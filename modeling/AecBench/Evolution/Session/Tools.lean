import AecBench.Evolution.Session.Effects

/-!
# The tools of a session

The tools a runner can use, each guarded by the tool budget, and their dispatch.

## Main definitions

* `editCandidate`, `testCandidate`, `restoreCandidate`, `submitCandidate`, `abstain`,
  `requestAdvice` — the tools that change the session.
* `runTool`, `guarded` — one tool call, without and with the budget in front of it.
* `dispatch` — the command of a model response; `runTurn` — the tool calls a runner makes itself.
-/

namespace AecBench.Evolution.Session

open Validation

/-! ## Editing -/

/-- `max(revisions) + 1` over the current revision and those of the attempts. -/
def nextRevision (state : AVOState) : ℕ :=
  (state.attempts.map (·.revision)).foldl max state.currentRevision + 1

/-- The part of an edit that is rolled back when it raises: whether the edits change the
workspace, and if so, a new revision and the sanitiser. -/
def mutateScratch (cfg : SessionConfig) (mutations : List MutationInput)
    (before : WorkspaceSnapshot) : Method Bool := do
  applyMutations mutations
  let rawAfter ← exportSnapshot cfg.childCandidateId
  if before.SameMaterial rawAfter then return false
  else do
    replaceState fun state => { state with currentRevision := nextRevision state }
    sanitiseWorkspace cfg (beginCompactionEffect cfg)
    return true

/-- Restore the material and the revision from before an edit. -/
def rollback (before : WorkspaceSnapshot) (previousRevision : ℕ) : Method Unit := do
  applySnapshot before
  replaceState fun state => { state with currentRevision := previousRevision }

/-- The handler of an edit that raised: roll back, and report a compaction that was started. -/
def rollbackAndRaise (cfg : SessionConfig) (before : WorkspaceSnapshot) (previousRevision : ℕ)
    (error : Err) : Method Bool := do
  rollback before previousRevision
  let session ← getSession
  match session.attributes.incompleteExternalEffects.reverse.find?
      (·.operation = .compaction) with
  | none => .fail error
  | some effect => do
    writeCheckpoint cfg none
    match error with
    | .incompleteExternalEffect _ => .fail error
    | _ => .fail (.incompleteExternalEffect (some effect))

/-- A refused edit: roll back what it did and confirm its compactions. -/
def refuseEdit (cfg : SessionConfig) (before : WorkspaceSnapshot) (previousRevision : ℕ)
    (message : String) : Method CandidateEditResult := do
  rollback before previousRevision
  clearCompactionEffects cfg
  let session ← getSession
  return { success := false, revision := session.state.currentRevision, message }

/-- An accepted edit: the mutation is the difference from the parent. -/
def acceptEdit (cfg : SessionConfig) (after : WorkspaceSnapshot) :
    Method CandidateEditResult := do
  let mutation := mutationSummaryForMaterial cfg.request.parent.snapshot after
  updateAttributes fun a => { a with lastMutation := mutation, lastHypothesis := "" }
  clearCompactionEffects cfg
  writeCheckpoint cfg none
  checkCancellation
  let session ← getSession
  return {
    success := true
    revision := session.state.currentRevision
    mutation := some mutation
    message := "mutation applied to scratch" }

/-- What becomes of an edit that did not raise. -/
def settleEdit (cfg : SessionConfig) (before : WorkspaceSnapshot) (previousRevision : ℕ) :
    Method CandidateEditResult := do
  let limit := cfg.request.scope.actionLimit
  let after ← exportSnapshot cfg.childCandidateId
  if before.SameMaterial after then
    refuseEdit cfg before previousRevision "sanitisation removed the proposed workspace change"
  else if limit < materialChangeCount cfg.request.parent.snapshot after then
    refuseEdit cfg before previousRevision
      s!"mutation scope exceeded ({limit} material changes permitted)"
  else acceptEdit cfg after

def editCandidate (cfg : SessionConfig) (argument : MutationArgument) :
    Method CandidateEditResult := do
  let mutations ← ofExcept (normaliseMutations argument)
  let session ← getSession
  let previousRevision := session.state.currentRevision
  let limit := cfg.request.scope.actionLimit
  if limit < mutations.length then
    return {
      success := false
      revision := previousRevision
      message := s!"mutation scope exceeded ({limit} actions permitted)" }
  else do
    let before ← exportSnapshot cfg.childCandidateId
    let changed ← tryCatch (mutateScratch cfg mutations before)
      (rollbackAndRaise cfg before previousRevision)
    if changed then settleEdit cfg before previousRevision
    else
      return {
        success := false
        revision := previousRevision
        message := "mutation made no effective workspace change" }

/-! ## Testing -/

/-- `_best_score`; the parent has evidence in every session that tests. -/
def bestScore (session : AVOSession) : Option ℚ :=
  match session.state.bestAttemptId with
  | none => session.attributes.parentEvidence.map (·.assessment.batchScore)
  | some best =>
    (session.state.attempts.find? (·.attemptId = best)).map
      (·.evaluated.assessment.batchScore)

/-- Whether an attempt is valid and better than the best before it. -/
def improves (session : AVOSession) (attempt : RevisionAttempt) : Bool :=
  attempt.evaluated.assessment.valid ∧
    ∀ best ∈ bestScore session, best < attempt.evaluated.assessment.batchScore

/-- `_remember`. -/
def remember (entry : AVOMemoryEntry) : Method Unit := do
  let session ← getSession
  let existing := session.state.memory.filter (·.identity ≠ entry.identity)
  let memory ← ofExcept (retainMemory (existing ++ [entry]) session.state.bestAttemptId)
  replaceState fun state => { state with memory }

/-- Evaluate a snapshot as the given revision. -/
def evaluateSnapshot (cfg : SessionConfig) (snapshot : WorkspaceSnapshot) (revision : ℕ) :
    Method EvaluatedCandidate := do
  let answer ← Program.perform () (.evaluate revision snapshot)
  let records ← ofExcept answer
  ofExcept (cfg.revisionEvaluation.evaluate snapshot revision records)

/-- `evaluate_revision`. -/
def evaluateRevision (cfg : SessionConfig) (snapshot : WorkspaceSnapshot) :
    Method RevisionAttempt := do
  let session ← getSession
  let revision := session.state.currentRevision
  let evaluated ← evaluateSnapshot cfg snapshot revision
  ofExcept <| revisionAttempt {
    attemptId := session.state.variationId ++ ":attempt-" ++ toString revision
    revision := revision
    evaluated := evaluated
    mutation := session.attributes.lastMutation
    hypothesis := session.attributes.lastHypothesis
    usageAfter := session.state.usage }

/-- Append an attempt and remember it. -/
def recordAttempt (attempt : RevisionAttempt) : Method Unit := do
  let session ← getSession
  let improved := improves session attempt
  replaceState fun state =>
    { state with
      attempts := state.attempts ++ [attempt]
      bestAttemptId := if improved then some attempt.attemptId else state.bestAttemptId
      consecutiveWithoutProgress :=
        if improved then 0 else state.consecutiveWithoutProgress + 1
      consecutiveEvaluationErrors := 0 }
  let entry := memoryEntryForAttempt session.state.variationId attempt improved
  ofExcept entry.check
  remember entry

/-- The evaluation of the current revision. -/
def evaluateCurrent (cfg : SessionConfig) (hypothesis : String) (snapshot : WorkspaceSnapshot) :
    Method RevisionAttempt := do
  ensureEffectBudget cfg
  incrementUsage cfg 0 0 1
  updateAttributes fun a => { a with lastHypothesis := Text.strip hypothesis }
  let session ← getSession
  let revision := session.state.currentRevision
  let evaluatedSnapshot := { snapshot with
    candidateId := cfg.childCandidateId ++ ":revision-" ++ toString revision }
  checkCancellation
  let effect ← beginExternalEffect cfg .developmentEvaluation
    ("development-revision-" ++ toString revision)
  let attempt ← asExternalEffect effect (evaluateRevision cfg evaluatedSnapshot)
  refreshElapsed
  let session ← getSession
  let attempt ← ofExcept (revisionAttempt { attempt with usageAfter := session.state.usage })
  recordAttempt attempt
  clearExternalEffect cfg effect.effectId
  checkCancellation
  return attempt

/-- Why the current material cannot be evaluated, if it cannot. -/
def testRefusal (cfg : SessionConfig) (state : AVOState) (snapshot : WorkspaceSnapshot) :
    Option String :=
  if snapshot.SameMaterial cfg.request.parent.snapshot then
    some "unchanged parent material cannot be evaluated as a child"
  else if state.currentRevision = 0 then
    some "apply an effective mutation before evaluating a child revision"
  else if ∃ attempt ∈ state.attempts, attempt.revision = state.currentRevision then
    some "current revision was already evaluated; restore or apply a new mutation"
  else none

def testCandidate (cfg : SessionConfig) (hypothesis : Option String) :
    Method CandidateCheckResult := do
  checkCancellation
  let session ← getSession
  let refused (message : String) : CandidateCheckResult :=
    { success := false, revision := session.state.currentRevision, message }
  match hypothesis with
  | none => return refused "hypothesis must not be blank"
  | some hypothesis =>
    if Text.Blank hypothesis then return refused "hypothesis must not be blank"
    else do
      let snapshot ← exportSnapshot cfg.childCandidateId
      match testRefusal cfg session.state snapshot with
      | some message => return refused message
      | none => do
        let attempt ← evaluateCurrent cfg hypothesis snapshot
        let session ← getSession
        return {
          success := true
          revision := session.state.currentRevision
          attempt := some attempt
          message := "current revision evaluated" }

/-! ## Restoring and ending -/

/-- The first attempt with the given identity or the given revision. -/
def findAttempt (state : AVOState) (attemptId : Option String) (revision : Option ℤ) :
    Option RevisionAttempt :=
  state.attempts.find? fun attempt =>
    attemptId = some attempt.attemptId ∨ revision = some (attempt.revision : ℤ)

def restoreCandidate (cfg : SessionConfig) (attemptId : Option String) (revision : Option ℤ) :
    Method CandidateRestoreResult := do
  checkCancellation
  let session ← getSession
  let refused (message : String) : CandidateRestoreResult :=
    { success := false, revision := session.state.currentRevision, message }
  if attemptId = none ∧ revision = none then return refused "attempt_id or revision is required"
  else
    match findAttempt session.state attemptId revision with
    | none => return refused "revision attempt not found"
    | some attempt => do
      applySnapshot attempt.evaluated.snapshot
      replaceState fun state =>
        { state with
          currentRevision := attempt.revision
          consecutiveEvaluationErrors := 0 }
      updateAttributes fun a =>
        { a with lastMutation := attempt.mutation, lastHypothesis := attempt.hypothesis }
      writeCheckpoint cfg none
      checkCancellation
      let snapshot ← exportSnapshot cfg.childCandidateId
      return {
        success := true
        revision := attempt.revision
        snapshot := some snapshot
        message := "exact evaluated attempt material restored" }

/-- Select a terminal status and its message. -/
def terminate (status : ProposalStatus) (message : String) : Method Unit :=
  updateAttributes fun a => { a with terminalStatus := some status, terminalMessage := message }

def submitCandidate (cfg : SessionConfig) (reasoning : Option String) :
    Method CandidateSubmissionResult := do
  checkCancellation
  let session ← getSession
  let revision := session.state.currentRevision
  match reasoning.filter fun text => ¬ Text.Blank text with
  | none => return { success := false, revision, message := "reasoning must not be blank" }
  | some reasoning => do
    let snapshot ← exportSnapshot cfg.childCandidateId
    let valid ← ofExcept (isRevisionValid session.state revision snapshot)
    if valid then do
      terminate .submitted (Text.strip reasoning)
      return {
        success := true
        revision := revision
        attempt := session.state.attempts.find? (·.revision = revision)
        message := Text.strip reasoning }
    else
      return {
        success := false
        revision := revision
        message := "current revision has no eligible exact revision evidence" }

def abstain (reasoning : Option String) : Method CandidateAbstentionResult :=
  match reasoning.filter fun text => ¬ Text.Blank text with
  | none => return { terminal := false, message := "reasoning must not be blank" }
  | some reasoning => do
    terminate .abstained (Text.strip reasoning)
    return { terminal := true, message := Text.strip reasoning }

def requestAdvice (cfg : SessionConfig) : Method String := do
  let session ← getSession
  if cfg.advisor ∧ session.state.usage.supervisorInterventions <
      cfg.budget.maxSupervisorInterventions then do
    replaceState fun state => { state with exhaustedDirectionRequested := true }
    writeCheckpoint cfg none
    return "The exhausted-direction request was recorded for advisor input."
  else return "Advisor input is unavailable within the configured budget."

/-! ## Tool calls -/

def readProgramGuidance (cfg : SessionConfig) : Method String :=
  match cfg.knowledgeSource with
  | .unavailable => return "No approved knowledge source is available."
  | .text guidance => return guidance
  | .callable => Program.perform () .knowledge

/-- A tool without arguments. -/
def runBare (cfg : SessionConfig) : AVOTool → Method ToolResult
  | .inspectParentResults => return .parentResults cfg.request.parent
  | .inspectCurrentCandidate => do
    let snapshot ← exportSnapshot cfg.childCandidateId
    return .currentCandidate snapshot
  | .inspectInspirations => return .inspirations cfg.request.inspirations
  | .inspectPreviousCycles => return .records
  | .inspectRejectedCandidates => return .records
  | .readProgramGuidance => do
    let text ← readProgramGuidance cfg
    return .guidance text
  | .submitCandidate => do
    let result ← submitCandidate cfg (some "Submitted the current evaluated revision.")
    return .submission result
  | .restoreCandidate => do
    let result ← restoreCandidate cfg none none
    return .restore result
  | .requestAdvice => do
    let text ← requestAdvice cfg
    return .message text
  | .editCandidate => .fail (.invalid "edit_candidate() missing 1 required argument")
  | .testCandidate => .fail (.invalid "test_candidate() missing 1 required argument")
  | .abstain => .fail (.invalid "abstain() missing 1 required argument")

/-- A tool with its arguments. -/
def runTool (cfg : SessionConfig) : AVOCommand → Method ToolResult
  | .bare tool => runBare cfg tool
  | .editCandidate argument => do
    let result ← editCandidate cfg argument
    return .edit result
  | .testCandidate hypothesis => do
    let result ← testCandidate cfg hypothesis
    return .check result
  | .restoreCandidate attemptId revision => do
    let result ← restoreCandidate cfg attemptId revision
    return .restore result
  | .submitCandidate reasoning => do
    let result ← submitCandidate cfg reasoning
    return .submission result
  | .abstain reasoning => do
    let result ← abstain reasoning
    return .abstention result
  | .malformed _ => .fail (.invalid "unexpected keyword argument")

/-- Remember what the runner is shown of its last tool call. -/
def showPrevious (previous : Option (Except Err ToolResult)) : Method Unit :=
  updateAttributes fun a => { a with previousTool := previous }

/-- One tool call: counted, within the budget, before the tool starts. -/
def guardedCall (cfg : SessionConfig) (command : AVOCommand) : Method ToolResult := do
  checkCancellation
  ensureToolBudget cfg
  incrementUsage cfg 0 1 0
  Program.perform () (.tool command.tool)
  runTool cfg command

/-- A guarded tool, with the record of what it did. -/
def guarded (cfg : SessionConfig) (command : AVOCommand) : Method ToolResult := do
  showPrevious none
  let r ← (guardedCall cfg command).result
  showPrevious (some r)
  match r with
  | .ok result => return result
  | .error e => .fail e

/-- Whether the advisor tool is among the tools that `_build_tools` returns. -/
def offersAdvice (cfg : SessionConfig) (state : AVOState) : Bool :=
  cfg.advisor ∧ state.usage.supervisorInterventions < cfg.budget.maxSupervisorInterventions

/-- Call a tool by its name among the offered ones. -/
def callTool (cfg : SessionConfig) (advice : Bool) (command : AVOCommand) : Method ToolResult :=
  if command.tool = .requestAdvice ∧ advice = false then .fail (.invalid "request_advice")
  else guarded cfg command

/-- `_dispatch`: an argument error is returned to the next model request. -/
def dispatch (cfg : SessionConfig) (advice : Bool) (command : AVOCommand) : Method Unit := do
  let r ← (callTool cfg advice command).result
  match r with
  | .ok _ => return ()
  | .error (.invalid _) => return ()
  | .error e => .fail e

/-- The runner during one model request. -/
def runTurn (cfg : SessionConfig) (advice : Bool) : RunnerTurn → Method (Option AVOResponse)
  | .respond response => return some response
  | .untyped => return none
  | .raise => .fail (.other "runner raised")
  | .call command next => do
    let r ← (callTool cfg advice command).result
    runTurn cfg advice (next r)

end AecBench.Evolution.Session
