import Mathlib.Algebra.Order.BigOperators.Group.List
import Mathlib.Data.List.Induction
import Mathlib.Data.Rat.Floor
import AecBench.Lib.Machine
import AecBench.Lib.Text

/-!
# The budget ledger of a harness

One ledger is shared by every invocation of a program run. Each of its methods holds the lock
of the ledger while it reads or writes a counter, so the calls of any number of threads take
effect one after the other: an interleaving of threads is a list of calls.

## Main definitions

* `HarnessBudget`, `HarnessBudgetLedger` — the limits, and the counters with the first breach.
* `beforeDispatch`, `recordTrial`, `recordStageExecution`, `reserveInvocationCapacity`,
  `afterDispatch`, `markUnaccountedDispatch` — the methods, each with what it raises and the
  ledger it leaves.
* `LedgerCall`, `budgetMachine` — the calls of a run, and the ledger driven by them.
* `WithinLimits`, `Kept` — what the totals of a ledger say about the calls made so far.

## Main results

* `kept_call` — every call keeps the totals in step with the calls.
* `ledger_sound` — capacity, totals, limits and the first breach, over every order of calls.
-/

namespace AecBench.Harness

/-! ## The ledger -/

/-- Closed resource envelope constraining every program compiled for a harness. -/
structure HarnessBudget where
  maxParallelism : ℕ := 32
  maxTotalAttempts : ℕ := 256
  maxAgentTurns : ℕ := 1000
  maxToolCalls : ℕ := 1024
  maxContextTokens : ℕ := 1000000
  maxRuntimeSeconds : ℕ := 86400
  maxTokens : Option ℕ := none
  maxCostUsd : Option ℚ≥0 := none

structure HarnessBudgetError where
  code : String
  message : String

/-- What a method of the ledger raises. -/
inductive LedgerError
  | budget (error : HarnessBudgetError)
  | valueError (message : String)

structure HarnessBudgetLedger where
  budget : HarnessBudget
  startedAt : ℚ
  reservedAgentTurns : ℤ := 0
  reservedToolCalls : ℤ := 0
  reservedContextTokens : ℤ := 0
  unaccountedDispatches : ℕ := 0
  importedTrials : ℕ := 0
  recordedStageExecutions : ℕ := 0
  observedTokens : ℤ := 0
  tokenEvidenceComplete : Bool := true
  observedCostUsd : ℚ := 0
  costEvidenceComplete : Bool := true
  observedTrialSeconds : ℚ := 0
  breach : Option HarnessBudgetError := none

/-- How a call ends: with a value or an error, and the ledger it leaves. -/
abbrev Outcome (α : Type) := Except LedgerError α × HarnessBudgetLedger

/-- A condition that breaches the budget, with the breach it reports. -/
structure Check where
  violated : Bool
  breach : HarnessBudgetError

namespace HarnessBudgetLedger

variable {α : Type}

/-- The seconds since the ledger was made, when the clock shows `now`. -/
def elapsed (l : HarnessBudgetLedger) (now : ℚ) : ℚ := max 0 (now - l.startedAt)

/-- The first breach is kept, and it is the one that is raised. -/
def breachAndRaise (l : HarnessBudgetLedger) (breach : HarnessBudgetError) : Outcome α :=
  (.error (.budget (l.breach.getD breach)), { l with breach := some (l.breach.getD breach) })

/-- Raise the first violated check; with none, go on as `next`. -/
def checkAll (l : HarnessBudgetLedger) (checks : List Check) (next : Outcome α) : Outcome α :=
  match checks.find? (·.violated) with
  | some check => l.breachAndRaise check.breach
  | none => next

/-- Raise the breach that is already there; with none, go on as `next`. -/
def unlessBreached (l : HarnessBudgetLedger) (next : Outcome α) : Outcome α :=
  match l.breach with
  | some breach => (.error (.budget breach), l)
  | none => next

/-- The wall clock is past the runtime budget. -/
def wallTimeCheck (l : HarnessBudgetLedger) (now : ℚ) : Check where
  violated := decide (l.budget.maxRuntimeSeconds < l.elapsed now)
  breach :=
    { code := "harness_runtime_budget_exceeded"
      message := "harness wall-clock runtime exceeded the declared Hx budget" }

/-- A positive remaining wall-clock allowance, or a rejected invocation. -/
def beforeDispatch (l : HarnessBudgetLedger) (now : ℚ) : Outcome ℤ :=
  let remaining : ℚ := l.budget.maxRuntimeSeconds - l.elapsed now
  l.unlessBreached <| l.checkAll
    [{ violated := decide (remaining ≤ 0)
       breach :=
        { code := "harness_runtime_budget_exceeded"
          message := "harness wall-clock runtime budget was exhausted before dispatch" } }]
    -- `int` rounds the positive allowance down
    (.ok (max 1 remaining.floor), l)

end HarnessBudgetLedger

/-! ## Observations -/

/-- The fields of a cost record that the ledger reads. -/
structure CostRecord where
  tokensIn : Option ℕ := none
  tokensOut : Option ℕ := none
  estimatedCostUsd : Option ℚ≥0 := none

/-- The fields of a trial record that the ledger reads. -/
structure TrialUsage where
  trialId : String
  cost : Option CostRecord
  totalSeconds : ℚ≥0

/-- The arguments of `record_stage_execution`. -/
structure StageUsage where
  inputTokens : Option ℤ
  outputTokens : Option ℤ
  estimatedCostUsd : Option ℚ
  totalSeconds : ℚ

/-- The arguments of `_record_observation`. -/
structure Observation where
  label : String
  observedTokens : ℤ
  tokensKnown : Bool
  observedCost : ℚ
  costKnown : Bool
  totalSeconds : ℚ
  importedTrial : Bool

/-- The observation of a trial: tokens count when both directions are known. -/
def TrialUsage.observation (record : TrialUsage) : Observation :=
  let tokens : Option ℕ := do
    let cost ← record.cost
    return (← cost.tokensIn) + (← cost.tokensOut)
  let cost := record.cost.bind (·.estimatedCostUsd)
  { label := s!"trial {Text.repr record.trialId}"
    observedTokens := (tokens.getD 0 : ℕ)
    tokensKnown := tokens.isSome
    observedCost := (cost.getD 0 : ℚ≥0)
    costKnown := cost.isSome
    totalSeconds := record.totalSeconds
    importedTrial := true }

/-- The observation of a stage: a direction that is not known counts as none. -/
def StageUsage.observation (stage : StageUsage) : Observation where
  label := "intermediate stage execution"
  observedTokens := stage.inputTokens.getD 0 + stage.outputTokens.getD 0
  tokensKnown := stage.inputTokens.isSome && stage.outputTokens.isSome
  observedCost := stage.estimatedCostUsd.getD 0
  costKnown := stage.estimatedCostUsd.isSome
  totalSeconds := stage.totalSeconds
  importedTrial := false

/-- The first argument of a stage that is refused. -/
def StageUsage.refusal (stage : StageUsage) : Option String :=
  if stage.inputTokens.any (· < 0) then
    some "input_tokens must be a non-negative integer when provided"
  else if stage.outputTokens.any (· < 0) then
    some "output_tokens must be a non-negative integer when provided"
  else if stage.estimatedCostUsd.any (· < 0) then
    some "estimated_cost_usd must be non-negative when provided"
  else if stage.totalSeconds < 0 then some "total_seconds must be non-negative"
  else none

/-- The format `{cost:.8f}` of a cost that is not negative: ties go to the even digit. -/
def formatUsd (cost : ℚ) : String :=
  let scaled := cost.num.natAbs * 10 ^ 8 / cost.den
  let rest := cost.num.natAbs * 10 ^ 8 % cost.den
  let rounded := if 2 * rest < cost.den ∨ (2 * rest = cost.den ∧ scaled % 2 = 0) then
    scaled else scaled + 1
  s!"{rounded / 10 ^ 8}.{Text.padded 8 (rounded % 10 ^ 8)}"

namespace HarnessBudgetLedger

/-- The totals with one more observation. -/
def count (l : HarnessBudgetLedger) (seen : Observation) : HarnessBudgetLedger :=
  { l with
    importedTrials := if seen.importedTrial then l.importedTrials + 1 else l.importedTrials
    recordedStageExecutions :=
      if seen.importedTrial then l.recordedStageExecutions else l.recordedStageExecutions + 1
    observedTrialSeconds := l.observedTrialSeconds + seen.totalSeconds
    observedTokens := l.observedTokens + seen.observedTokens
    observedCostUsd := l.observedCostUsd + seen.observedCost
    tokenEvidenceComplete := l.tokenEvidenceComplete && seen.tokensKnown
    costEvidenceComplete := l.costEvidenceComplete && seen.costKnown }

/-- What is checked of the totals after an observation, in order. -/
def observationChecks (l : HarnessBudgetLedger) (seen : Observation) (now : ℚ) : List Check :=
  [{ violated := l.budget.maxTokens.isSome && !seen.tokensKnown
     breach :=
      { code := "harness_token_evidence_missing"
        message := s!"{seen.label} lacks token evidence required by the Hx budget" } },
   { violated := l.budget.maxCostUsd.isSome && !seen.costKnown
     breach :=
      { code := "harness_cost_evidence_missing"
        message := s!"{seen.label} lacks cost evidence required by the Hx budget" } },
   { violated := l.budget.maxTokens.any fun limit => (limit : ℤ) < l.observedTokens
     breach :=
      { code := "harness_token_budget_exceeded"
        message := s!"observed {l.observedTokens} tokens exceeds Hx budget " ++
          s!"{l.budget.maxTokens.getD 0}" } },
   { violated := l.budget.maxCostUsd.any fun limit => decide ((limit : ℚ) < l.observedCostUsd)
     breach :=
      { code := "harness_cost_budget_exceeded"
        message := s!"observed cost {formatUsd l.observedCostUsd} USD exceeds Hx budget " ++
          s!"{formatUsd (l.budget.maxCostUsd.getD 0)} USD" } },
   { violated := decide ((l.budget.maxRuntimeSeconds : ℚ) < seen.totalSeconds)
     breach :=
      { code := "harness_runtime_budget_exceeded"
        message := s!"{seen.label} duration exceeds the Hx runtime budget" } },
   l.wallTimeCheck now]

/-- The totals are updated before anything is checked, so a breaching observation counts. -/
def recordObservation (l : HarnessBudgetLedger) (seen : Observation) (now : ℚ) : Outcome Unit :=
  let counted := l.count seen
  counted.checkAll (counted.observationChecks seen now) (.ok (), counted)

/-- Account one already-incurred trial. -/
def recordTrial (l : HarnessBudgetLedger) (record : TrialUsage) (now : ℚ) : Outcome Unit :=
  l.recordObservation record.observation now

/-- Account one unscored stage invocation. -/
def recordStageExecution (l : HarnessBudgetLedger) (stage : StageUsage) (now : ℚ) :
    Outcome Unit :=
  match stage.refusal with
  | some message => (.error (.valueError message), l)
  | none => l.recordObservation stage.observation now

end HarnessBudgetLedger

/-! ## Capacity -/

/-- The capacity one invocation asks for. -/
structure InvocationCapacity where
  agentTurns : ℤ
  toolCalls : ℤ
  contextTokens : ℤ

/-- An amount of the request is negative. -/
def InvocationCapacity.Negative (asked : InvocationCapacity) : Prop :=
  asked.agentTurns < 0 ∨ asked.toolCalls < 0 ∨ asked.contextTokens < 0

instance (asked : InvocationCapacity) : Decidable asked.Negative :=
  inferInstanceAs (Decidable (_ ∨ _))

namespace HarnessBudgetLedger

/-- The capacities that would be reserved, with the capacity asked for. -/
def withCapacity (l : HarnessBudgetLedger) (asked : InvocationCapacity) : HarnessBudgetLedger :=
  { l with
    reservedAgentTurns := l.reservedAgentTurns + asked.agentTurns
    reservedToolCalls := l.reservedToolCalls + asked.toolCalls
    reservedContextTokens := l.reservedContextTokens + asked.contextTokens }

/-- What is checked of the next capacities, in order. -/
def capacityChecks (next : HarnessBudgetLedger) : List Check :=
  [{ violated := decide ((next.budget.maxAgentTurns : ℤ) < next.reservedAgentTurns)
     breach :=
      { code := "harness_agent_turn_capacity_exceeded"
        message := s!"reserved agent-turn capacity {next.reservedAgentTurns} exceeds Hx budget " ++
          s!"{next.budget.maxAgentTurns}" } },
   { violated := decide ((next.budget.maxToolCalls : ℤ) < next.reservedToolCalls)
     breach :=
      { code := "harness_tool_call_capacity_exceeded"
        message := s!"reserved tool-call capacity {next.reservedToolCalls} exceeds Hx budget " ++
          s!"{next.budget.maxToolCalls}" } },
   { violated := decide ((next.budget.maxContextTokens : ℤ) < next.reservedContextTokens)
     breach :=
      { code := "harness_context_capacity_exceeded"
        message := s!"reserved context capacity {next.reservedContextTokens} exceeds Hx budget " ++
          s!"{next.budget.maxContextTokens}" } }]

/-- Reserve capacity: every check comes before the counters change. -/
def reserveInvocationCapacity (l : HarnessBudgetLedger) (asked : InvocationCapacity) :
    Outcome Unit :=
  if asked.Negative then
    (.error (.valueError "invocation capacity reservations must be non-negative integers"), l)
  else
    l.unlessBreached <|
      l.checkAll (l.withCapacity asked).capacityChecks (.ok (), l.withCapacity asked)

/-- Reject a completed invocation that crossed the wall-clock deadline. -/
def afterDispatch (l : HarnessBudgetLedger) (now : ℚ) : Outcome Unit :=
  l.unlessBreached <| l.checkAll [l.wallTimeCheck now] (.ok (), l)

/-- Record a started dispatch that returned no complete, auditable trial plan. -/
def markUnaccountedDispatch (l : HarnessBudgetLedger) : Outcome Unit :=
  (.ok (),
    { l with
      unaccountedDispatches := l.unaccountedDispatches + 1
      tokenEvidenceComplete := false
      costEvidenceComplete := false
      breach := some <| l.breach.getD
        { code := "harness_dispatch_evidence_incomplete"
          message := "a started Harbor dispatch did not produce a complete auditable trial plan" } })

end HarnessBudgetLedger

/-! ## Snapshots -/

/-- Cumulative usage, completeness of the evidence, and the first breach. -/
structure HarnessBudgetObservation where
  status : String
  reservedAgentTurns : ℤ
  reservedToolCalls : ℤ
  reservedContextTokens : ℤ
  unaccountedDispatches : ℕ
  importedTrials : ℕ
  recordedStageExecutions : ℕ
  observedTokens : ℤ
  tokenEvidenceComplete : Bool
  observedCostUsd : ℚ
  costEvidenceComplete : Bool
  observedTrialSeconds : ℚ
  elapsedWallSeconds : ℚ
  breachCode : Option String
  breachMessage : Option String

/-- What the contract of a snapshot asks for. -/
structure HarnessBudgetObservation.Valid (seen : HarnessBudgetObservation) : Prop where
  reserved : 0 ≤ seen.reservedAgentTurns ∧ 0 ≤ seen.reservedToolCalls ∧
    0 ≤ seen.reservedContextTokens
  observed : 0 ≤ seen.observedTokens ∧ 0 ≤ seen.observedCostUsd ∧ 0 ≤ seen.observedTrialSeconds
  elapsed : 0 ≤ seen.elapsedWallSeconds
  breached : seen.status = "breached" → seen.breachCode.isSome ∧ seen.breachMessage.isSome
  within : seen.status = "within_budget" → seen.breachCode = none ∧ seen.breachMessage = none

/-- Immutable evidence, also when the execution failed. -/
def HarnessBudgetLedger.snapshot (l : HarnessBudgetLedger) (now : ℚ) :
    HarnessBudgetObservation where
  status := if l.breach.isSome then "breached" else "within_budget"
  reservedAgentTurns := l.reservedAgentTurns
  reservedToolCalls := l.reservedToolCalls
  reservedContextTokens := l.reservedContextTokens
  unaccountedDispatches := l.unaccountedDispatches
  importedTrials := l.importedTrials
  recordedStageExecutions := l.recordedStageExecutions
  observedTokens := l.observedTokens
  tokenEvidenceComplete := l.tokenEvidenceComplete
  observedCostUsd := l.observedCostUsd
  costEvidenceComplete := l.costEvidenceComplete
  observedTrialSeconds := l.observedTrialSeconds
  elapsedWallSeconds := l.elapsed now
  breachCode := l.breach.map (·.code)
  breachMessage := l.breach.map (·.message)

/-! ## Calls -/

/-- A call of one method, with the reading of the clock it takes under the lock. -/
inductive LedgerCall
  | beforeDispatch (now : ℚ)
  | reserveInvocationCapacity (asked : InvocationCapacity)
  | recordTrial (record : TrialUsage) (now : ℚ)
  | recordStageExecution (stage : StageUsage) (now : ℚ)
  | markUnaccountedDispatch
  | afterDispatch (now : ℚ)

namespace LedgerCall

/-- How a call ends, its value left out. -/
def outcome (l : HarnessBudgetLedger) : LedgerCall → Outcome Unit
  | beforeDispatch now => ((l.beforeDispatch now).1.map fun _ => (), (l.beforeDispatch now).2)
  | reserveInvocationCapacity asked => l.reserveInvocationCapacity asked
  | recordTrial record now => l.recordTrial record now
  | recordStageExecution stage now => l.recordStageExecution stage now
  | markUnaccountedDispatch => l.markUnaccountedDispatch
  | afterDispatch now => l.afterDispatch now

/-- The observation a call records. -/
def observation : LedgerCall → Option Observation
  | recordTrial record _ => some record.observation
  | recordStageExecution stage _ =>
    if stage.refusal.isNone then some stage.observation else none
  | _ => none

/-- The call reports a dispatch without evidence. -/
def isUnaccounted : LedgerCall → Bool
  | markUnaccountedDispatch => true
  | _ => false

/-- The calls that guard an invocation. -/
def Guards : LedgerCall → Prop
  | beforeDispatch _ => True
  | reserveInvocationCapacity _ => True
  | afterDispatch _ => True
  | _ => False

end LedgerCall

/-- The ledger, driven by the calls of its threads. -/
def budgetMachine : Machine HarnessBudgetLedger LedgerCall where
  step l call := (call.outcome l).2

/-- The observations that a list of calls records. -/
def recorded (calls : List LedgerCall) : List Observation :=
  calls.filterMap LedgerCall.observation

@[simp] lemma recorded_nil : recorded [] = [] := rfl

lemma recorded_concat (calls : List LedgerCall) (call : LedgerCall) :
    recorded (calls ++ [call]) = recorded calls ++ call.observation.toList := by
  cases h : call.observation <;> simp [recorded, h]

/-! ## What one call can do -/

variable {breach : HarnessBudgetError} {call : LedgerCall}

namespace HarnessBudgetLedger

variable {α : Type} {l : HarnessBudgetLedger}

lemma checkAll_cases (l : HarnessBudgetLedger) (checks : List Check) (next : Outcome α) :
    (∃ breach, l.checkAll checks next = l.breachAndRaise breach) ∨
      ((∀ check ∈ checks, check.violated = false) ∧ l.checkAll checks next = next) := by
  unfold checkAll
  cases h : checks.find? (·.violated) with
  | some check => exact .inl ⟨check.breach, rfl⟩
  | none =>
    refine .inr ⟨fun check hcheck => ?_, rfl⟩
    simpa using List.find?_eq_none.mp h check hcheck

lemma unlessBreached_some (h : l.breach = some breach) (next : Outcome α) :
    l.unlessBreached next = (.error (.budget breach), l) := by
  rw [unlessBreached, h]

lemma unlessBreached_none (h : l.breach = none) (next : Outcome α) :
    l.unlessBreached next = next := by
  rw [unlessBreached, h]

/-- The ledger a call leaves. -/
inductive Leaves (l : HarnessBudgetLedger) : LedgerCall → HarnessBudgetLedger → Prop
  /-- Nothing changed. -/
  | same {call : LedgerCall} (hseen : call.observation = none)
      (hmark : call.isUnaccounted = false) :
      Leaves l call l
  /-- A guard breached the budget. -/
  | breached {call : LedgerCall} (hseen : call.observation = none)
      (hmark : call.isUnaccounted = false) (free : l.breach = none) (breach : HarnessBudgetError) :
      Leaves l call { l with breach := some breach }
  /-- Capacity was reserved within the budget. -/
  | reserved {asked : InvocationCapacity} (asks : ¬ asked.Negative) (free : l.breach = none)
      (fits : ∀ check ∈ (l.withCapacity asked).capacityChecks, check.violated = false) :
      Leaves l (.reserveInvocationCapacity asked) (l.withCapacity asked)
  /-- An observation was recorded and every check passed. -/
  | recorded {call : LedgerCall} {seen : Observation} (hseen : call.observation = some seen)
      (hmark : call.isUnaccounted = false) (now : ℚ)
      (fits : ∀ check ∈ (l.count seen).observationChecks seen now, check.violated = false) :
      Leaves l call (l.count seen)
  /-- An observation was recorded and breached the budget. -/
  | overrun {call : LedgerCall} {seen : Observation} (hseen : call.observation = some seen)
      (hmark : call.isUnaccounted = false) (breach : HarnessBudgetError) :
      Leaves l call { l.count seen with breach := some (l.breach.getD breach) }
  /-- A dispatch without evidence was recorded. -/
  | unaccounted : Leaves l .markUnaccountedDispatch l.markUnaccountedDispatch.2

lemma leaves_recordObservation {seen : Observation} (hseen : call.observation = some seen)
    (hmark : call.isUnaccounted = false) (now : ℚ) :
    Leaves l call (l.recordObservation seen now).2 := by
  have hcases := (l.count seen).checkAll_cases ((l.count seen).observationChecks seen now)
    (.ok (), l.count seen)
  obtain ⟨breach, heq⟩ | ⟨hfits, heq⟩ := hcases
  · rw [recordObservation, heq]
    exact .overrun hseen hmark breach
  · rw [recordObservation, heq]
    exact .recorded hseen hmark now hfits

lemma leaves_guard (hseen : call.observation = none) (hmark : call.isUnaccounted = false)
    (checks : List Check) (value : Except LedgerError α) :
    Leaves l call (l.unlessBreached (l.checkAll checks (value, l))).2 := by
  obtain hfree | ⟨breach, hbreach⟩ := Option.eq_none_or_eq_some l.breach
  · rw [unlessBreached_none hfree]
    obtain ⟨breach, heq⟩ | ⟨-, heq⟩ := l.checkAll_cases checks (value, l)
    · rw [heq, breachAndRaise, hfree]
      exact .breached hseen hmark hfree breach
    · rw [heq]
      exact .same hseen hmark
  · rw [unlessBreached_some hbreach]
    exact .same hseen hmark

lemma leaves_reserve (asked : InvocationCapacity) :
    Leaves l (.reserveInvocationCapacity asked) (l.reserveInvocationCapacity asked).2 := by
  unfold reserveInvocationCapacity
  by_cases hasked : asked.Negative
  · rw [if_pos hasked]
    exact .same rfl rfl
  · rw [if_neg hasked]
    obtain hfree | ⟨breach, hbreach⟩ := Option.eq_none_or_eq_some l.breach
    · rw [unlessBreached_none hfree]
      have hcases := l.checkAll_cases (l.withCapacity asked).capacityChecks
        (.ok (), l.withCapacity asked)
      obtain ⟨breach, heq⟩ | ⟨hfits, heq⟩ := hcases
      · rw [heq, breachAndRaise, hfree]
        exact .breached rfl rfl hfree breach
      · rw [heq]
        exact .reserved hasked hfree hfits
    · rw [unlessBreached_some hbreach]
      exact .same rfl rfl

lemma leaves_call (l : HarnessBudgetLedger) (call : LedgerCall) :
    Leaves l call (call.outcome l).2 := by
  cases call with
  | beforeDispatch now =>
    show Leaves l (.beforeDispatch now) (l.beforeDispatch now).2
    exact leaves_guard rfl rfl _ _
  | reserveInvocationCapacity asked => exact leaves_reserve asked
  | recordTrial record now => exact leaves_recordObservation rfl rfl now
  | recordStageExecution stage now =>
    show Leaves l _ (l.recordStageExecution stage now).2
    unfold recordStageExecution
    cases hrefusal : stage.refusal with
    | some message => exact .same (by simp [LedgerCall.observation, hrefusal]) rfl
    | none =>
      exact leaves_recordObservation (by simp [LedgerCall.observation, hrefusal]) rfl now
  | markUnaccountedDispatch => exact .unaccounted
  | afterDispatch now =>
    show Leaves l (.afterDispatch now) (l.afterDispatch now).2
    exact leaves_guard rfl rfl _ _

/-! ## The first breach -/

lemma breach_call (h : l.breach = some breach) (call : LedgerCall) :
    (call.outcome l).2.breach = some breach := by
  have hleaves := leaves_call l call
  generalize (call.outcome l).2 = after at hleaves ⊢
  cases hleaves with
  | same _ _ => exact h
  | breached _ _ free | reserved _ free => simp [free] at h
  | recorded _ _ => exact h
  | overrun _ _ => simp [h]
  | unaccounted => simp [markUnaccountedDispatch, h]

lemma guard_call (h : l.breach = some breach) (hguards : call.Guards) :
    ∃ error, (call.outcome l).1 = .error error := by
  cases call with
  | beforeDispatch now =>
    exact ⟨.budget breach, by
      simp [LedgerCall.outcome, beforeDispatch, unlessBreached_some h, Except.map]⟩
  | reserveInvocationCapacity asked =>
    show ∃ error, (l.reserveInvocationCapacity asked).1 = .error error
    unfold reserveInvocationCapacity
    by_cases hasked : asked.Negative
    · rw [if_pos hasked]
      exact ⟨_, rfl⟩
    · rw [if_neg hasked, unlessBreached_some h]
      exact ⟨_, rfl⟩
  | afterDispatch now =>
    exact ⟨.budget breach, by simp [LedgerCall.outcome, afterDispatch, unlessBreached_some h]⟩
  | recordTrial record now | recordStageExecution stage now | markUnaccountedDispatch =>
    exact hguards.elim

end HarnessBudgetLedger

/-! ## The totals -/

/-- The totals of a limited dimension are within its limit, and its evidence is complete. -/
structure WithinLimits (l : HarnessBudgetLedger) : Prop where
  tokens : ∀ limit ∈ l.budget.maxTokens,
    l.observedTokens ≤ limit ∧ l.tokenEvidenceComplete = true
  cost : ∀ limit ∈ l.budget.maxCostUsd,
    l.observedCostUsd ≤ limit ∧ l.costEvidenceComplete = true

/-- The totals of a ledger after some calls. -/
structure Kept (budget : HarnessBudget) (calls : List LedgerCall) (l : HarnessBudgetLedger) :
    Prop where
  budget_eq : l.budget = budget
  agentTurns : 0 ≤ l.reservedAgentTurns ∧ l.reservedAgentTurns ≤ budget.maxAgentTurns
  toolCalls : 0 ≤ l.reservedToolCalls ∧ l.reservedToolCalls ≤ budget.maxToolCalls
  contextTokens : 0 ≤ l.reservedContextTokens ∧ l.reservedContextTokens ≤ budget.maxContextTokens
  tokens : l.observedTokens = ((recorded calls).map (·.observedTokens)).sum
  cost : l.observedCostUsd = ((recorded calls).map (·.observedCost)).sum
  seconds : l.observedTrialSeconds = ((recorded calls).map (·.totalSeconds)).sum
  trials : l.importedTrials = (recorded calls).countP (·.importedTrial)
  stages : l.recordedStageExecutions = (recorded calls).countP (!·.importedTrial)
  unaccounted : l.unaccountedDispatches = calls.countP (·.isUnaccounted)
  tokenEvidence : l.tokenEvidenceComplete =
    ((recorded calls).all (·.tokensKnown) && !calls.any (·.isUnaccounted))
  costEvidence : l.costEvidenceComplete =
    ((recorded calls).all (·.costKnown) && !calls.any (·.isUnaccounted))
  within : l.breach = none → WithinLimits l

section Kept

variable {budget : HarnessBudget} {calls : List LedgerCall} {l : HarnessBudgetLedger}
  {call : LedgerCall} {seen : Observation}

/-- A call that records nothing keeps the totals, also when it breaches the budget. -/
lemma Kept.quiet (h : Kept budget calls l) (hseen : call.observation = none)
    (hmark : call.isUnaccounted = false) (breach : Option HarnessBudgetError)
    (hfree : breach = none → l.breach = none) :
    Kept budget (calls ++ [call]) { l with breach := breach } := by
  have hrecorded : recorded (calls ++ [call]) = recorded calls := by
    simp [recorded_concat, hseen]
  exact
    { budget_eq := h.budget_eq
      agentTurns := h.agentTurns
      toolCalls := h.toolCalls
      contextTokens := h.contextTokens
      tokens := by rw [hrecorded]; exact h.tokens
      cost := by rw [hrecorded]; exact h.cost
      seconds := by rw [hrecorded]; exact h.seconds
      trials := by rw [hrecorded]; exact h.trials
      stages := by rw [hrecorded]; exact h.stages
      unaccounted := by simpa [hmark] using h.unaccounted
      tokenEvidence := by rw [hrecorded]; simpa [hmark] using h.tokenEvidence
      costEvidence := by rw [hrecorded]; simpa [hmark] using h.costEvidence
      within := fun hnone =>
        ⟨(h.within (hfree hnone)).tokens, (h.within (hfree hnone)).cost⟩ }

lemma Kept.count (h : Kept budget calls l) (hseen : call.observation = some seen)
    (hmark : call.isUnaccounted = false) (breach : Option HarnessBudgetError)
    (hwithin : breach = none → WithinLimits (l.count seen)) :
    Kept budget (calls ++ [call]) { l.count seen with breach := breach } := by
  have hrecorded : recorded (calls ++ [call]) = recorded calls ++ [seen] := by
    simp [recorded_concat, hseen]
  exact
    { budget_eq := h.budget_eq
      agentTurns := h.agentTurns
      toolCalls := h.toolCalls
      contextTokens := h.contextTokens
      tokens := by simp [hrecorded, HarnessBudgetLedger.count, h.tokens]
      cost := by simp [hrecorded, HarnessBudgetLedger.count, h.cost]
      seconds := by simp [hrecorded, HarnessBudgetLedger.count, h.seconds]
      trials := by
        cases hkind : seen.importedTrial <;>
          simp [hrecorded, HarnessBudgetLedger.count, h.trials, hkind]
      stages := by
        cases hkind : seen.importedTrial <;>
          simp [hrecorded, HarnessBudgetLedger.count, h.stages, hkind]
      unaccounted := by simpa [hmark, HarnessBudgetLedger.count] using h.unaccounted
      tokenEvidence := by
        simp [hrecorded, HarnessBudgetLedger.count, h.tokenEvidence, hmark, Bool.and_right_comm]
      costEvidence := by
        simp [hrecorded, HarnessBudgetLedger.count, h.costEvidence, hmark, Bool.and_right_comm]
      within := fun hnone => ⟨(hwithin hnone).tokens, (hwithin hnone).cost⟩ }

lemma withinLimits_of_checks {now : ℚ} (hl : l.breach = none → WithinLimits l)
    (hfits : ∀ check ∈ (l.count seen).observationChecks seen now, check.violated = false)
    (hfree : l.breach = none) : WithinLimits (l.count seen) := by
  simp only [HarnessBudgetLedger.observationChecks, List.forall_mem_cons] at hfits
  obtain ⟨htokensKnown, hcostKnown, htokens, hcost, -⟩ := hfits
  constructor
  · intro limit hlimit
    have hlimited : l.budget.maxTokens = some limit := hlimit
    have hcomplete := ((hl hfree).tokens limit hlimited).2
    simp only [HarnessBudgetLedger.count, hlimited, Option.isSome_some, Bool.true_and,
      Bool.not_eq_false'] at htokensKnown
    refine ⟨?_, by simp [HarnessBudgetLedger.count, hcomplete, htokensKnown]⟩
    simp only [HarnessBudgetLedger.count, hlimited] at htokens
    exact not_lt.mp (of_decide_eq_false htokens)
  · intro limit hlimit
    have hlimited : l.budget.maxCostUsd = some limit := hlimit
    have hcomplete := ((hl hfree).cost limit hlimited).2
    simp only [HarnessBudgetLedger.count, hlimited, Option.isSome_some, Bool.true_and,
      Bool.not_eq_false'] at hcostKnown
    refine ⟨?_, by simp [HarnessBudgetLedger.count, hcomplete, hcostKnown]⟩
    simp only [HarnessBudgetLedger.count, hlimited] at hcost
    exact not_lt.mp (of_decide_eq_false hcost)

lemma Kept.reserve (h : Kept budget calls l) {asked : InvocationCapacity}
    (hasked : ¬ asked.Negative)
    (hfits : ∀ check ∈ (l.withCapacity asked).capacityChecks, check.violated = false) :
    Kept budget (calls ++ [.reserveInvocationCapacity asked]) (l.withCapacity asked) := by
  have hquiet : Kept budget (calls ++ [.reserveInvocationCapacity asked]) l :=
    h.quiet rfl rfl l.breach id
  simp only [InvocationCapacity.Negative, not_or, not_lt] at hasked
  simp only [HarnessBudgetLedger.capacityChecks, HarnessBudgetLedger.withCapacity,
    List.forall_mem_cons, decide_eq_false_iff_not, not_lt, h.budget_eq] at hfits
  exact
    { hquiet with
      agentTurns := ⟨add_nonneg h.agentTurns.1 hasked.1, hfits.1⟩
      toolCalls := ⟨add_nonneg h.toolCalls.1 hasked.2.1, hfits.2.1⟩
      contextTokens := ⟨add_nonneg h.contextTokens.1 hasked.2.2, hfits.2.2.1⟩
      within := fun hnone => ⟨(h.within hnone).tokens, (h.within hnone).cost⟩ }

lemma Kept.unaccountedDispatch (h : Kept budget calls l) :
    Kept budget (calls ++ [.markUnaccountedDispatch]) l.markUnaccountedDispatch.2 := by
  have hrecorded : recorded (calls ++ [.markUnaccountedDispatch]) = recorded calls := by
    simp [recorded_concat, LedgerCall.observation]
  exact
    { budget_eq := h.budget_eq
      agentTurns := h.agentTurns
      toolCalls := h.toolCalls
      contextTokens := h.contextTokens
      tokens := by rw [hrecorded]; exact h.tokens
      cost := by rw [hrecorded]; exact h.cost
      seconds := by rw [hrecorded]; exact h.seconds
      trials := by rw [hrecorded]; exact h.trials
      stages := by rw [hrecorded]; exact h.stages
      unaccounted := by
        simp [HarnessBudgetLedger.markUnaccountedDispatch, h.unaccounted,
          LedgerCall.isUnaccounted]
      tokenEvidence := by
        simp [HarnessBudgetLedger.markUnaccountedDispatch, LedgerCall.isUnaccounted]
      costEvidence := by
        simp [HarnessBudgetLedger.markUnaccountedDispatch, LedgerCall.isUnaccounted]
      within := by simp [HarnessBudgetLedger.markUnaccountedDispatch] }

/-- **One step.** Every call keeps the totals in step with the calls made. -/
lemma kept_call (h : Kept budget calls l) (call : LedgerCall) :
    Kept budget (calls ++ [call]) (call.outcome l).2 := by
  have hleaves := l.leaves_call call
  generalize (call.outcome l).2 = after at hleaves ⊢
  cases hleaves with
  | same hseen hmark => exact h.quiet hseen hmark l.breach id
  | breached hseen hmark free breach =>
    exact h.quiet hseen hmark (some breach) fun hnone => absurd hnone (Option.some_ne_none _)
  | reserved asks free fits => exact h.reserve asks fits
  | recorded hseen hmark now fits =>
    exact h.count hseen hmark l.breach fun hfree => withinLimits_of_checks h.within fits hfree
  | overrun hseen hmark breach =>
    exact h.count hseen hmark (some _) fun hnone => absurd hnone (Option.some_ne_none _)
  | unaccounted => exact h.unaccountedDispatch

end Kept

/-! ## Runs -/

/-- The ledger of a harness, when the clock shows `startedAt`. -/
def HarnessBudgetLedger.start (budget : HarnessBudget) (startedAt : ℚ) : HarnessBudgetLedger :=
  { budget, startedAt }

/-- The ledger after some calls. -/
def ledgerAfter (budget : HarnessBudget) (startedAt : ℚ) (calls : List LedgerCall) :
    HarnessBudgetLedger :=
  budgetMachine.run (.start budget startedAt) calls

lemma kept_start (budget : HarnessBudget) (startedAt : ℚ) :
    Kept budget [] (.start budget startedAt) where
  budget_eq := rfl
  agentTurns := ⟨le_refl 0, Int.natCast_nonneg _⟩
  toolCalls := ⟨le_refl 0, Int.natCast_nonneg _⟩
  contextTokens := ⟨le_refl 0, Int.natCast_nonneg _⟩
  tokens := rfl
  cost := rfl
  seconds := rfl
  trials := rfl
  stages := rfl
  unaccounted := rfl
  tokenEvidence := rfl
  costEvidence := rfl
  within _ :=
    { tokens := fun limit _ => ⟨Int.natCast_nonneg limit, rfl⟩
      cost := fun limit _ => ⟨NNRat.cast_nonneg limit, rfl⟩ }

lemma kept_run (budget : HarnessBudget) (startedAt : ℚ) (calls : List LedgerCall) :
    Kept budget calls (ledgerAfter budget startedAt calls) := by
  induction calls using List.reverseRecOn with
  | nil => exact kept_start budget startedAt
  | append_singleton calls call ih =>
    rw [ledgerAfter, Machine.run_append]
    exact kept_call ih call

lemma breach_run {l : HarnessBudgetLedger} (h : l.breach = some breach) (calls : List LedgerCall) :
    (budgetMachine.run l calls).breach = some breach :=
  Machine.run_preserves_of_forall (C := fun _ => True)
    (I := fun l : HarnessBudgetLedger => l.breach = some breach)
    (fun _ call hbreach _ => HarnessBudgetLedger.breach_call hbreach call) h fun _ _ => trivial

/-- What holds of a ledger after any calls of any threads. -/
structure LedgerSound (budget : HarnessBudget) (startedAt : ℚ) (calls : List LedgerCall) :
    Prop where
  /-- The capacities, the totals, the counts, the evidence and the limits. -/
  kept : Kept budget calls (ledgerAfter budget startedAt calls)
  /-- The first breach is the breach for ever. -/
  first : ∀ done rest, calls = done ++ rest →
    ∀ breach ∈ (ledgerAfter budget startedAt done).breach,
      (ledgerAfter budget startedAt calls).breach = some breach
  /-- After a breach no guard returns normally. -/
  stopped : ∀ done call rest, calls = done ++ call :: rest → call.Guards →
    (ledgerAfter budget startedAt done).breach ≠ none →
      ∀ value, (call.outcome (ledgerAfter budget startedAt done)).1 ≠ .ok value

/-- **Soundness of the budget ledger.** Whatever the threads call and in whatever order the
calls take the lock: reserved capacity is within the budget, the totals are the sums of the
recorded observations, without a breach they are within the limits and their evidence is
complete, and the first breach stays and stops every guard. -/
theorem ledger_sound (budget : HarnessBudget) (startedAt : ℚ) (calls : List LedgerCall) :
    LedgerSound budget startedAt calls where
  kept := kept_run budget startedAt calls
  first := by
    rintro done rest rfl breach hbreach
    rw [ledgerAfter, Machine.run_append]
    exact breach_run hbreach rest
  stopped := by
    intro done call rest _ hguards hbreached value hvalue
    obtain ⟨breach, hbreach⟩ := Option.ne_none_iff_exists'.mp hbreached
    obtain ⟨error, herror⟩ := HarnessBudgetLedger.guard_call hbreach hguards
    rw [herror] at hvalue
    cases hvalue

/-- The breach of an overrun is the one that later calls raise. -/
example :
    let budget : HarnessBudget := { maxTokens := some 10 }
    let stage : StageUsage :=
      { inputTokens := some 9, outputTokens := some 2, estimatedCostUsd := none, totalSeconds := 1 }
    let l := ledgerAfter budget 0 [.recordStageExecution stage 1, .beforeDispatch 2]
    l.observedTokens = 11 ∧ l.breach.map (·.code) = some "harness_token_budget_exceeded" := by
  decide +kernel

end AecBench.Harness
