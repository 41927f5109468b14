import AecBench.Evolution.Session.Workspace

/-!
# Budgets, checkpoints and external effects of a session

The usage a session counts, the limits it tests before an effect, the checkpoint it writes, and
the markers it keeps of external effects whose completion is not confirmed.

## Main definitions

* `setUsage`, `incrementUsage`, `refreshElapsed` — the usage counters.
* `loopLimitReason`, `ensureToolBudget`, `ensureEffectBudget`, `ensureModelRequestBudget` — the
  limits that stop an effect.
* `writeCheckpoint`, `beginExternalEffect`, `clearExternalEffect` — the durable record.
* `maybeGetAdvice` — one intervention of the advisor.
-/

namespace AecBench.Evolution.Session

open Validation

/-! ## Cancellation -/

/-- `_check_cancellation`. -/
def checkCancellation : Method Unit := do
  let reason ← Program.perform () .poll
  match reason with
  | none => return ()
  | some reason => .fail (.cancelled reason)

/-! ## Usage -/

/-- `_set_usage`. -/
def setUsage (f : ProposalUsage → ProposalUsage) : Method Unit :=
  replaceState fun state => { state with usage := f state.usage }

/-- The usage with the increments counted, and the evaluation cost of the new count. -/
def incrementedUsage (cfg : SessionConfig) (modelRequests toolCalls developmentEvaluations : ℕ)
    (usage : ProposalUsage) : ProposalUsage :=
  { usage with
    modelRequests := usage.modelRequests + modelRequests
    toolCalls := usage.toolCalls + toolCalls
    developmentEvaluations := usage.developmentEvaluations + developmentEvaluations
    developmentEvaluationCostUsd := cfg.developmentEvaluationCostUsd.map
      (· * ((usage.developmentEvaluations + developmentEvaluations : ℕ) : ℚ≥0)) }

/-- `_increment_usage`. -/
def incrementUsage (cfg : SessionConfig) (modelRequests toolCalls developmentEvaluations : ℕ) :
    Method Unit :=
  setUsage (incrementedUsage cfg modelRequests toolCalls developmentEvaluations)

/-- The seconds since `startedAt`, and none when the clock is before it. -/
def elapsedAt (startedAt now : ℚ) : ℚ≥0 := (now - startedAt).toNNRat

/-- `_refresh_elapsed`. -/
def refreshElapsed : Method Unit := do
  let now ← Program.perform () .clock
  let session ← getSession
  setUsage fun usage =>
    { usage with elapsedSeconds := elapsedAt session.attributes.startedAt now }

/-- `_record_model_cost`: an unknown cost makes the total unknown for good. -/
def recordModelCost (cost : Option ℚ≥0) : Method Unit :=
  match cost with
  | none => do
    updateAttributes fun a => { a with modelCost := none }
    setUsage fun usage => { usage with modelCostUsd := none }
  | some cost => do
    let session ← getSession
    match session.attributes.modelCost with
    | none => return ()
    | some total => do
      updateAttributes fun a => { a with modelCost := some (total + cost) }
      setUsage fun usage => { usage with modelCostUsd := some (total + cost) }

/-- `_record_model_tokens`. -/
def recordModelTokens (inputTokens outputTokens : Option ℕ) : Method Unit :=
  setUsage fun usage =>
    { usage with
      inputTokens := mergePlane (usage.modelRequests - 1) usage.inputTokens inputTokens
      outputTokens := mergePlane (usage.modelRequests - 1) usage.outputTokens outputTokens }

/-! ## Limits -/

/-- One round of `_known_token_limit`. -/
def tokenLimit (name : String) (observed limit : Option ℕ) : Option String :=
  limit.bind fun limit =>
    match observed with
    | none => some (name ++ "_unknown")
    | some tokens => if limit ≤ tokens then some name else none

/-- `_known_token_limit`. -/
def knownTokenLimit (budget : AVOBudget) (usage : ProposalUsage) : Option String :=
  if usage.modelRequests = 0 then none
  else
    (tokenLimit "max_input_tokens" usage.inputTokens budget.maxInputTokens).or
      (tokenLimit "max_output_tokens" usage.outputTokens budget.maxOutputTokens)

/-- `_known_cost_limit`. -/
def knownCostLimit (budget : AVOBudget) (usage : ProposalUsage) : Option String :=
  budget.maxCostUsd.bind fun limit =>
    match usage.totalCostUsd with
    | none => some "max_cost_usd_unknown"
    | some cost => if limit ≤ cost then some "max_cost_usd" else none

/-- The token and cost limits, in the order in which they are tested. -/
def knownLimit (budget : AVOBudget) (usage : ProposalUsage) : Option String :=
  (knownTokenLimit budget usage).or (knownCostLimit budget usage)

/-- `_loop_limit_reason`: the limit that stops the next model request or tool effect. -/
def loopLimitReason (budget : AVOBudget) (usage : ProposalUsage) : Option String :=
  if budget.maxModelRequests ≤ usage.modelRequests then some "max_model_requests"
  else if budget.maxToolCalls ≤ usage.toolCalls then some "max_tool_calls"
  else if budget.maxElapsedSeconds ≤ usage.elapsedSeconds then some "max_elapsed_seconds"
  else knownLimit budget usage

/-- Raise for a limit that is reached. -/
def raiseLimit (limit : Option String) : Method Unit :=
  match limit with
  | none => return ()
  | some limit => .fail (.toolBudgetExceeded limit)

/-- The limits of a model request, after the elapsed time was refreshed. -/
def modelRequestLimit (budget : AVOBudget) (usage : ProposalUsage) : Option String :=
  if budget.maxModelRequests ≤ usage.modelRequests then some "max_model_requests"
  else if budget.maxElapsedSeconds ≤ usage.elapsedSeconds then some "max_elapsed_seconds"
  else none

/-- `_ensure_model_request_budget`. -/
def ensureModelRequestBudget (cfg : SessionConfig) : Method Unit := do
  refreshElapsed
  let session ← getSession
  raiseLimit (modelRequestLimit cfg.budget session.state.usage)

/-- The limits of a tool call, after the elapsed time was refreshed. -/
def toolCallLimit (budget : AVOBudget) (usage : ProposalUsage) : Option String :=
  if budget.maxToolCalls ≤ usage.toolCalls then some "max_tool_calls"
  else if budget.maxElapsedSeconds ≤ usage.elapsedSeconds then some "max_elapsed_seconds"
  else knownLimit budget usage

/-- `_ensure_tool_budget`. -/
def ensureToolBudget (cfg : SessionConfig) : Method Unit := do
  refreshElapsed
  let session ← getSession
  raiseLimit (toolCallLimit cfg.budget session.state.usage)

/-- The limits of an evaluation, after the elapsed time was refreshed. -/
def evaluationLimit (budget : AVOBudget) (state : AVOState) : Option String :=
  if budget.maxDevelopmentEvaluations ≤ state.usage.developmentEvaluations then
    some "max_development_evaluations"
  else if budget.maxConsecutiveEvaluationErrors ≤ state.consecutiveEvaluationErrors then
    some "max_consecutive_evaluation_errors"
  else if budget.maxStagnantEvaluations ≤ state.consecutiveWithoutProgress then
    some "max_stagnant_evaluations"
  else loopLimitReason budget state.usage

/-- `_ensure_effect_budget` of `max_development_evaluations`, its only use. -/
def ensureEffectBudget (cfg : SessionConfig) : Method Unit := do
  refreshElapsed
  let session ← getSession
  raiseLimit (evaluationLimit cfg.budget session.state)

/-! ## Checkpoints -/

/-- `_write_checkpoint`. -/
def writeCheckpoint (cfg : SessionConfig) (terminalResult : Option CandidateProposal) :
    Method Unit :=
  match cfg.configurationIdentity with
  | none => return ()
  | some identity => do
    let session ← getSession
    let terminal ← ofExcept <| terminalResult.elim (.ok none) fun result =>
      some <$> AVOCheckpointTerminalResult.fromResult result
        (session.attributes.cancellationReason.map (·.code))
    let snapshot ← exportSnapshot cfg.childCandidateId
    let checkpoint ← ofExcept <| AVOCheckpoint.fromState (cfg.context identity) session.state
      session.attributes.parentEvidence snapshot session.attributes.incompleteExternalEffects
      terminal
    Program.perform () (.write checkpoint)

/-! ## External effects -/

/-- The marker of an external effect. -/
def incompleteEffect (variationId : String) (operation : AVOExternalEffectOperation)
    (effectIdSuffix : String) : AVOIncompleteExternalEffect :=
  { effectId := variationId ++ ":" ++ effectIdSuffix
    operation := operation
    reason := operation.value ++ " started; completion is not yet confirmed." }

/-- `_begin_external_effect`: mark an effect, durably, before it starts. -/
def beginExternalEffect (cfg : SessionConfig) (operation : AVOExternalEffectOperation)
    (effectIdSuffix : String) : Method AVOIncompleteExternalEffect := do
  let session ← getSession
  let effect := incompleteEffect session.state.variationId operation effectIdSuffix
  ofExcept effect.check
  updateAttributes fun a =>
    { a with incompleteExternalEffects := a.incompleteExternalEffects ++ [effect] }
  writeCheckpoint cfg none
  return effect

/-- Forget the markers with the given identity. -/
def dropEffect (effectId : String) : Method Unit :=
  updateAttributes fun a =>
    { a with
      incompleteExternalEffects :=
        a.incompleteExternalEffects.filter (·.effectId ≠ effectId) }

/-- `_clear_external_effect`. -/
def clearExternalEffect (cfg : SessionConfig) (effectId : String) : Method Unit := do
  dropEffect effectId
  writeCheckpoint cfg none

/-- `_begin_compaction_effect`. -/
def beginCompactionEffect (cfg : SessionConfig) (skillName : String) : Method Unit := do
  checkCancellation
  let _ ← beginExternalEffect cfg .compaction ("compaction-" ++ skillName)

/-- `_clear_compaction_effects`. -/
def clearCompactionEffects (cfg : SessionConfig) : Method Unit := do
  let session ← getSession
  forEach (fun effect : AVOIncompleteExternalEffect => clearExternalEffect cfg effect.effectId)
    (session.attributes.incompleteExternalEffects.filter (·.operation = .compaction))

/-- Run `body` as an external effect: whatever it raises leaves the effect incomplete. -/
def asExternalEffect {α : Type} (effect : AVOIncompleteExternalEffect) (body : Method α) :
    Method α :=
  tryCatch body fun _ => .fail (.incompleteExternalEffect (some effect))

/-! ## Advice -/

/-- Raise the limit that an advisor reservation reports. -/
def ofReservation {α : Type} : Except String α → Method α
  | .ok a => .done a
  | .error limit => .fail (.toolBudgetExceeded limit)

/-- What the advisor is given in a state. -/
def adviceRequest (cfg : SessionConfig) (state : AVOState) (trigger : AVOAdviceTrigger) :
    AVOAdviceRequest :=
  { goal := cfg.request.selection.goal
    selectedParentId := state.parentCandidateId
    strategy := cfg.request.selection.strategy
    attemptSummaries := state.memory
    remainingBudget := remainingAvoBudget cfg.budget state
    triggerReason := trigger }

/-- The call of the advisor and the record of its confirmed outcome. -/
def callAdvisor (cfg : SessionConfig) (usageBefore : ProposalUsage) (request : AVOAdviceRequest)
    (effect : AVOIncompleteExternalEffect) : Method Unit := do
  let answer ← Program.perform () (.advise request)
  let result ← ofExcept answer
  ofExcept result.check
  let usage ← ofExcept (completeAdvisorUsage usageBefore cfg.budget result.usage)
  updateAttributes fun a => { a with modelCost := usage.modelCostUsd }
  replaceState fun state =>
    { state with
      usage := usage
      supervisionRecords := state.supervisionRecords ++ [⟨request.triggerReason, result.output⟩]
      exhaustedDirectionRequested := false
      consecutiveWithoutProgress := 0
      consecutiveEvaluationErrors := 0 }
  -- The outcome, its usage and the removal of the marker are published together.
  dropEffect effect.effectId
  writeCheckpoint cfg none

/-- One intervention of the advisor, for the given reason. -/
def getAdvice (cfg : SessionConfig) (trigger : AVOAdviceTrigger) : Method Unit := do
  checkCancellation
  let session ← getSession
  let usageBefore := session.state.usage
  let reserved ← ofReservation (reserveAdvisorBudget usageBefore cfg.budget)
  ofExcept { session.state with usage := reserved }.check
  let request := adviceRequest cfg { session.state with usage := reserved } trigger
  ofExcept request.check
  replaceState fun state => { state with usage := reserved }
  let effect ← beginExternalEffect cfg .supervisorRequest
    ("supervisor-" ++ toString reserved.supervisorInterventions)
  asExternalEffect effect (callAdvisor cfg usageBefore request effect)
  checkCancellation

/-- `_maybe_get_advice`. -/
def maybeGetAdvice (cfg : SessionConfig) : Method Unit := do
  let session ← getSession
  match adviceTrigger session.state cfg.budget with
  | none => return ()
  | some trigger => if cfg.advisor then getAdvice cfg trigger else return ()

end AecBench.Evolution.Session
