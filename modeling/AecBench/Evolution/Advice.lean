import AecBench.Evolution.Variation

/-!
# Advice and its budget

When an intervention of the advisor is due, what of the budget it needs, and how its usage is
added to that of the call.

## Main definitions

* `adviceTrigger` — why an intervention is due now, if it is.
* `reserveAdvisorBudget`, `completeAdvisorUsage` — the usage with one advisor call reserved, and
  with its reported usage added.
* `AVOAdviceRequest`, `remainingAvoBudget` — what the advisor is given.

## Main results

* `reserveAdvisorBudget_eq_ok` — a reservation counts one request and one intervention, below
  their limits.
* `completeAdvisorUsage_eq_ok` — the completed usage has the counters of the reservation.
-/

namespace AecBench.Evolution

open Validation

/-! ## Triggers -/

def validStagnationThreshold : ℕ := 3

def invalidOrFailedThreshold : ℕ := 2

/-- `_has_valid_stagnation`. -/
def hasValidStagnation (state : AVOState) : Prop :=
  validStagnationThreshold ≤ state.consecutiveWithoutProgress ∧
    state.consecutiveEvaluationErrors = 0 ∧
    let latest := state.attempts.drop (state.attempts.length - validStagnationThreshold)
    latest.length = validStagnationThreshold ∧
      ∀ attempt ∈ latest, attempt.evaluated.assessment.valid = true

instance (state : AVOState) : Decidable (hasValidStagnation state) :=
  inferInstanceAs (Decidable (_ ∧ _ ∧ _ ∧ _))

/-- `_has_consecutive_invalid_or_failed_evaluations`. -/
def hasConsecutiveInvalidOrFailedEvaluations (state : AVOState) : Prop :=
  invalidOrFailedThreshold ≤ state.consecutiveEvaluationErrors ∨
    let needed := invalidOrFailedThreshold - state.consecutiveEvaluationErrors
    let latest := state.attempts.drop (state.attempts.length - needed)
    latest.length = needed ∧ ∀ attempt ∈ latest, attempt.evaluated.assessment.valid = false

instance (state : AVOState) : Decidable (hasConsecutiveInvalidOrFailedEvaluations state) :=
  inferInstanceAs (Decidable (_ ∨ _ ∧ _))

/-- `advice_trigger`. -/
def adviceTrigger (state : AVOState) (budget : AVOBudget) : Option AVOAdviceTrigger :=
  if state.terminalStatus ≠ none then none
  else if budget.maxSupervisorInterventions ≤ state.usage.supervisorInterventions then none
  else if hasValidStagnation state then some .validDevelopmentStagnation
  else if hasConsecutiveInvalidOrFailedEvaluations state then
    some .consecutiveInvalidOrFailedEvaluations
  else if state.exhaustedDirectionRequested then some .exhaustedDirectionRequest
  else none

/-! ## Reservation -/

/-- The check of one token plane: a known count must not exceed its limit, and an unknown one is
admitted only for a reserved first request. -/
def validateTokensWithinBudget (name : String) (observed limit : Option ℕ) (admitUnknown : Bool) :
    Except String Unit :=
  limit.elim (.ok ()) fun limit =>
    match observed with
    | none => require (admitUnknown = true) (name ++ "_unknown")
    | some tokens => require (tokens ≤ limit) name

/-- `_validate_usage_within_budget`. -/
def validateUsageWithinBudget (usage : ProposalUsage) (budget : AVOBudget)
    (allowReservedUnknownTokens allowReservedUnknownCost : Bool) : Except String Unit := do
  require (usage.modelRequests ≤ budget.maxModelRequests) "max_model_requests"
  require (usage.supervisorInterventions ≤ budget.maxSupervisorInterventions)
    "max_supervisor_interventions"
  require (usage.elapsedSeconds ≤ budget.maxElapsedSeconds) "max_elapsed_seconds"
  let unknownTokens := allowReservedUnknownTokens && usage.modelRequests = 1
  validateTokensWithinBudget "max_input_tokens" usage.inputTokens budget.maxInputTokens
    unknownTokens
  validateTokensWithinBudget "max_output_tokens" usage.outputTokens budget.maxOutputTokens
    unknownTokens
  budget.maxCostUsd.elim (.ok ()) fun limit =>
    match usage.totalCostUsd with
    | none => require (allowReservedUnknownCost = true ∧ usage.modelRequests = 1)
        "max_cost_usd_unknown"
    | some cost => require (cost ≤ limit) "max_cost_usd"

/-- The usage with one advisor call counted. -/
def ProposalUsage.withAdvisorCall (usage : ProposalUsage) : ProposalUsage :=
  { usage with
    modelRequests := usage.modelRequests + 1
    supervisorInterventions := usage.supervisorInterventions + 1 }

/-- `reserve_advisor_budget`. -/
def reserveAdvisorBudget (usage : ProposalUsage) (budget : AVOBudget) :
    Except String ProposalUsage := do
  require (usage.modelRequests < budget.maxModelRequests) "max_model_requests"
  require (usage.supervisorInterventions < budget.maxSupervisorInterventions)
    "max_supervisor_interventions"
  require (usage.elapsedSeconds < budget.maxElapsedSeconds) "max_elapsed_seconds"
  let reserved := usage.withAdvisorCall
  validateUsageWithinBudget reserved budget (usage.modelRequests = 0)
    (usage.modelRequests = 0 ∧ usage.totalCostUsd ≠ none)
  return reserved

/-- The sum of a plane of usage, when both terms are known; the first request has nothing before
it. -/
def mergePlane {α : Type} [Add α] (requestsBefore : ℕ) (previous added : Option α) : Option α :=
  if requestsBefore = 0 then added
  else do
    let previous ← previous
    let added ← added
    return previous + added

/-- `complete_advisor_usage`. -/
def completeAdvisorUsage (usageBefore : ProposalUsage) (budget : AVOBudget)
    (advisorUsage : ProposalUsage) : Except String ProposalUsage := do
  let reserved ← reserveAdvisorBudget usageBefore budget
  require (advisorUsage.modelRequests = 1 ∧ advisorUsage.supervisorInterventions = 1 ∧
      advisorUsage.toolCalls = 0 ∧ advisorUsage.developmentEvaluations = 0 ∧
      advisorUsage.developmentEvaluationCostUsd = none)
    "advisor usage must describe exactly one request and intervention"
  return { reserved with
    inputTokens :=
      mergePlane usageBefore.modelRequests usageBefore.inputTokens advisorUsage.inputTokens
    outputTokens :=
      mergePlane usageBefore.modelRequests usageBefore.outputTokens advisorUsage.outputTokens
    modelCostUsd :=
      mergePlane usageBefore.modelRequests usageBefore.modelCostUsd advisorUsage.modelCostUsd
    elapsedSeconds := reserved.elapsedSeconds + advisorUsage.elapsedSeconds }

/-! ## Requests -/

/-- What is left of a budget; it describes the allowance and grants nothing. -/
structure AVORemainingBudget where
  remainingModelRequests : ℕ
  remainingToolCalls : ℕ
  remainingDevelopmentEvaluations : ℕ
  remainingElapsedSeconds : ℚ≥0
  remainingSupervisorInterventions : ℕ
  costLimitUsd : Option ℚ≥0
  remainingCostUsd : Option ℚ≥0
  remainingInputTokens : Option ℕ
  remainingOutputTokens : Option ℕ
  inputTokenLimit : Option ℕ
  outputTokenLimit : Option ℕ

/-- What is left of one token plane. -/
def remainingTokens (limit observed : Option ℕ) (modelRequests : ℕ) : Option ℕ := do
  let limit ← limit
  match observed with
  | none => if modelRequests = 0 then some limit else none
  | some tokens => some (limit - tokens)

/-- `remaining_avo_budget`. -/
def remainingAvoBudget (budget : AVOBudget) (state : AVOState) : AVORemainingBudget :=
  let usage := state.usage
  { remainingModelRequests := budget.maxModelRequests - usage.modelRequests
    remainingToolCalls := budget.maxToolCalls - usage.toolCalls
    remainingDevelopmentEvaluations :=
      budget.maxDevelopmentEvaluations - usage.developmentEvaluations
    remainingElapsedSeconds := budget.maxElapsedSeconds - usage.elapsedSeconds
    remainingSupervisorInterventions :=
      budget.maxSupervisorInterventions - usage.supervisorInterventions
    costLimitUsd := budget.maxCostUsd
    remainingCostUsd := do
      let limit ← budget.maxCostUsd
      let cost ← usage.totalCostUsd
      return limit - cost
    remainingInputTokens :=
      remainingTokens budget.maxInputTokens usage.inputTokens usage.modelRequests
    remainingOutputTokens :=
      remainingTokens budget.maxOutputTokens usage.outputTokens usage.modelRequests
    inputTokenLimit := budget.maxInputTokens
    outputTokenLimit := budget.maxOutputTokens }

/-- What the advisor is given. -/
structure AVOAdviceRequest where
  goal : String
  selectedParentId : String
  strategy : MutationStrategy
  attemptSummaries : List AVOMemoryEntry
  remainingBudget : AVORemainingBudget
  triggerReason : AVOAdviceTrigger

/-- What the constructor of an advice request checks; the remaining budget never exceeds its
limits by its construction. -/
def AVOAdviceRequest.check (request : AVOAdviceRequest) : Except String Unit := do
  requireText request.goal "goal"
  requireText request.selectedParentId "selected_parent_id"
  let summaries ← validateMemoryEntries request.attemptSummaries
  require (summaries.length ≤ avoMemoryLimit)
    s!"attempt_summaries must contain at most {avoMemoryLimit} entries"

/-! ## What a reservation gives -/

lemma validateTokensWithinBudget_eq_ok {name : String} {observed limit : Option ℕ}
    {admitUnknown : Bool}
    (h : validateTokensWithinBudget name observed limit admitUnknown = .ok ()) :
    ∀ bound ∈ limit, ∀ tokens ∈ observed, tokens ≤ bound := by
  rintro bound rfl tokens rfl
  exact require_eq_ok.mp h

variable {usage : ProposalUsage} {budget : AVOBudget}

lemma validateUsageWithinBudget_eq_ok {unknownTokens unknownCost : Bool}
    (h : validateUsageWithinBudget usage budget unknownTokens unknownCost = .ok ()) :
    (∀ limit ∈ budget.maxInputTokens, ∀ tokens ∈ usage.inputTokens, tokens ≤ limit) ∧
      (∀ limit ∈ budget.maxOutputTokens, ∀ tokens ∈ usage.outputTokens, tokens ≤ limit) ∧
        ∀ limit ∈ budget.maxCostUsd, ∀ cost ∈ usage.totalCostUsd, cost ≤ limit := by
  simp only [validateUsageWithinBudget, bind_eq_ok, require_eq_ok, Unique.exists_iff] at h
  obtain ⟨-, -, -, hinput, houtput, hcost⟩ := h
  refine ⟨validateTokensWithinBudget_eq_ok hinput, validateTokensWithinBudget_eq_ok houtput, ?_⟩
  rintro limit hlimit cost htotal
  rw [hlimit, Option.elim_some, htotal] at hcost
  exact require_eq_ok.mp hcost

lemma reserveAdvisorBudget_eq_ok {reserved : ProposalUsage}
    (h : reserveAdvisorBudget usage budget = .ok reserved) :
    reserved = usage.withAdvisorCall ∧ usage.modelRequests < budget.maxModelRequests ∧
      usage.supervisorInterventions < budget.maxSupervisorInterventions ∧
      usage.elapsedSeconds < budget.maxElapsedSeconds ∧
      validateUsageWithinBudget usage.withAdvisorCall budget (usage.modelRequests = 0)
        (usage.modelRequests = 0 ∧ usage.totalCostUsd ≠ none) = .ok () := by
  simp only [reserveAdvisorBudget, bind_eq_ok, require_eq_ok, Unique.exists_iff, pure_eq_ok] at h
  obtain ⟨hrequests, hinterventions, helapsed, hwithin, rfl⟩ := h
  exact ⟨rfl, hrequests, hinterventions, helapsed, hwithin⟩

lemma completeAdvisorUsage_eq_ok {added completed : ProposalUsage}
    (h : completeAdvisorUsage usage budget added = .ok completed) :
    completed.modelRequests = usage.modelRequests + 1 ∧
      completed.supervisorInterventions = usage.supervisorInterventions + 1 ∧
      completed.toolCalls = usage.toolCalls ∧
      completed.developmentEvaluations = usage.developmentEvaluations := by
  simp only [completeAdvisorUsage, bind_eq_ok, require_eq_ok, Unique.exists_iff, pure_eq_ok] at h
  obtain ⟨reserved, hreserved, -, rfl⟩ := h
  obtain ⟨rfl, -⟩ := reserveAdvisorBudget_eq_ok hreserved
  exact ⟨rfl, rfl, rfl, rfl⟩

end AecBench.Evolution
