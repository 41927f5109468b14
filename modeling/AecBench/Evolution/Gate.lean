import Mathlib.Data.PNat.Defs
import AecBench.Evolution.Core

/-!
# The candidate gate

The policy that accepts or rejects an evaluated child, the explicit state of a search, and the
transition between the states of two cycles.

## Main definitions

* `EvolutionConfig` — the configuration of a search.
* `EvolutionState`, `GateResult`, `CycleOutcome` — the state, a decision and a whole cycle.
* `gateCandidate` — acceptance and stagnation; `nextEvolutionState` — the next state.
* `isConverged` — whether the best score was flat for the configured window.

## Main results

* `gates_of_gateCandidate` — what the gate decides.
* `nextEvolutionState_spec` — what the next state records.
-/

namespace AecBench.Evolution

open Validation

/-! ## Configuration -/

inductive SearchStrategy
  | hillClimb
  | qd
  deriving DecidableEq

/-- The part of the configuration that the search reads. -/
structure EvolutionConfig where
  batchSize : ℕ+ := 10
  maxCycles : ℕ+ := 20
  improvementThreshold : ℚ := 2 / 100
  stagnationWindow : ℕ+ := 5
  structuralWeight : ℚ := 3 / 10
  strategy : SearchStrategy := .hillClimb
  qdSeed : ℕ := 42
  qdNCentroids : ℕ+ := 200
  qdInspirationLimit : ℕ := 2

instance : Inhabited EvolutionConfig := ⟨{}⟩

/-! ## States and decisions -/

inductive GateDecision
  | accepted
  | rejected
  | skipped
  deriving DecidableEq

structure EvolutionState where
  cycle : ℕ
  activeCandidateId : String
  bestCandidateId : String
  bestScore : ℚ
  cyclesWithoutImprovement : ℕ
  bestScoreHistory : List ℚ

/-- What the constructor of a state checks. -/
def EvolutionState.check (state : EvolutionState) : Except String Unit := do
  requireText state.activeCandidateId "active_candidate_id"
  requireText state.bestCandidateId "best_candidate_id"

/-- The state of a search that has evaluated its baseline. -/
def EvolutionState.fromBaseline (baseline : EvaluatedCandidate) (structuralWeight : ℚ) :
    Except String EvolutionState := do
  let score ← assessmentScore baseline.assessment structuralWeight
  let state : EvolutionState :=
    { cycle := 0
      activeCandidateId := baseline.snapshot.candidateId
      bestCandidateId := baseline.snapshot.candidateId
      bestScore := score
      cyclesWithoutImprovement := 0
      bestScoreHistory := [score] }
  state.check
  return state

structure GateResult where
  decision : GateDecision
  reason : String
  effectiveScore : Option ℚ := none
  improved : Bool := false
  cyclesWithoutImprovement : Option ℕ := none

/-- The constructor of a gate result. -/
def gateResult (result : GateResult) : Except String GateResult := do
  requireText result.reason "gate reason"
  return result

structure CycleOutcome where
  cycle : ℕ
  selection : SelectionPlan
  parent : EvaluatedCandidate
  proposal : CandidateProposal
  child : Option EvaluatedCandidate
  decision : GateResult
  activeCandidateIdAfter : String
  bestCandidateIdAfter : String

/-- What the constructor of an outcome checks. -/
def CycleOutcome.check (outcome : CycleOutcome) : Except String Unit := do
  require (1 ≤ outcome.cycle) "cycle must be positive"
  require (outcome.parent.snapshot.candidateId = outcome.selection.parentCandidateId)
    "cycle parent must match the selection parent_candidate_id"
  require (outcome.proposal.status = .submitted → outcome.child ≠ none)
    "submitted proposal requires a bound evaluated child"
  require (∀ child ∈ outcome.child, ∀ _ ∈ outcome.proposal.child,
      child.snapshot.candidateId ≠ outcome.parent.snapshot.candidateId)
    "submitted child candidate_id must differ from the parent"
  require (∀ child ∈ outcome.child, ∀ proposed ∈ outcome.proposal.child,
      child.snapshot.candidateId = proposed.candidateId)
    "evaluated child must match the submitted proposal child"
  requireText outcome.activeCandidateIdAfter "active_candidate_id_after"
  requireText outcome.bestCandidateIdAfter "best_candidate_id_after"

/-! ## The gate -/

/-- The format `{score:.3f}`: three decimals, ties to the even one. -/
def formatScore (score : ℚ) : String :=
  let thousandths := score.num.natAbs * 1000 / score.den
  let rest := score.num.natAbs * 1000 % score.den
  let rounded := if 2 * rest < score.den ∨ (2 * rest = score.den ∧ thousandths % 2 = 0) then
    thousandths else thousandths + 1
  let sign := if score < 0 then "-" else ""
  s!"{sign}{rounded / 1000}.{Text.padded 3 (rounded % 1000)}"

/-- Why a proposal is skipped. -/
def skipReason : ProposalStatus → Option String
  | .submitted => none
  | .abstained => some "proposal abstained"
  | .budgetExhausted => some "proposal budget exhausted"
  | .cancelled => some "proposal cancelled"

/-- The decision about a child whose evaluation is invalid. -/
def gateInvalid (child : EvaluatedCandidate) (state : EvolutionState) (config : EvolutionConfig) :
    Except String GateResult := do
  let reasons := "; ".intercalate child.assessment.invalidReasons
  let score ← assessmentScore child.assessment config.structuralWeight
  gateResult
    { decision := .rejected
      reason := s!"child evaluation is invalid: {reasons}"
      effectiveScore := some score
      cyclesWithoutImprovement := some (state.cyclesWithoutImprovement + 1) }

/-- The decision about a child with a valid evaluation: its score is compared with that of its
parent on the same cases. -/
def gateScores (parent child : EvaluatedCandidate) (state : EvolutionState)
    (config : EvolutionConfig) : Except String GateResult := do
  let parentScore ← assessmentScore parent.assessment config.structuralWeight
  let score ← assessmentScore child.assessment config.structuralWeight
  let improved : Bool := parentScore + config.improvementThreshold < score
  let stagnationCount := if improved then 0 else state.cyclesWithoutImprovement + 1
  if (config.stagnationWindow : ℕ) ≤ stagnationCount then
    gateResult
      { decision := .rejected
        reason := s!"stagnation for {stagnationCount} cycles without improvement"
        effectiveScore := some score
        improved
        cyclesWithoutImprovement := some stagnationCount }
  else
    gateResult
      { decision := .accepted
        reason := s!"candidate score {formatScore score} passed the configured gate"
        effectiveScore := some score
        improved
        cyclesWithoutImprovement := some stagnationCount }

/-- `gate_candidate`. -/
def gateCandidate (parent : EvaluatedCandidate) (child : Option EvaluatedCandidate)
    (proposal : CandidateProposal) (state : EvolutionState) (config : EvolutionConfig) :
    Except String GateResult :=
  match skipReason proposal.status with
  | some reason =>
    gateResult
      { decision := .skipped
        reason
        cyclesWithoutImprovement := some state.cyclesWithoutImprovement }
  | none =>
    match child, proposal.child with
    | some child, some proposed => do
      require (child.snapshot.candidateId = proposed.candidateId)
        "evaluated child must match the submitted proposal child"
      require (child.snapshot.candidateId ≠ parent.snapshot.candidateId)
        "submitted child candidate_id must differ from the parent"
      require (parent.assessment.evaluationCaseIds = child.assessment.evaluationCaseIds)
        "parent and child must use the same evaluation cases"
      if child.assessment.valid then gateScores parent child state config
      else gateInvalid child state config
    | _, _ => .error "submitted proposal requires an evaluated child"

/-! ## The next state -/

/-- The child and its score, when the cycle records it as the best candidate. -/
def GateResult.recorded (decision : GateResult) (child : Option EvaluatedCandidate) :
    Option (String × ℚ) := do
  let child ← child
  let score ← decision.effectiveScore
  if decision.decision = .accepted ∧ decision.improved then
    some (child.snapshot.candidateId, score) else none

/-- The candidate that is active after a cycle. -/
def GateResult.activeCandidateId (decision : GateResult) (state : EvolutionState)
    (parent : EvaluatedCandidate) (child : Option EvaluatedCandidate) : String :=
  match decision.decision, child with
  | .skipped, _ => state.activeCandidateId
  | .accepted, some child => child.snapshot.candidateId
  | _, _ => parent.snapshot.candidateId

/-- The counter after a cycle. -/
def GateResult.stagnationCount (decision : GateResult) (state : EvolutionState) : ℕ :=
  decision.cyclesWithoutImprovement.getD
    (if decision.decision = .skipped then state.cyclesWithoutImprovement
      else state.cyclesWithoutImprovement + if decision.improved then 0 else 1)

/-- `next_evolution_state`. -/
def nextEvolutionState (state : EvolutionState) (parent : EvaluatedCandidate)
    (child : Option EvaluatedCandidate) (decision : GateResult) :
    Except String EvolutionState := do
  let (bestCandidateId, bestScore) :=
    (decision.recorded child).getD (state.bestCandidateId, state.bestScore)
  let next : EvolutionState :=
    { cycle := state.cycle + 1
      activeCandidateId := decision.activeCandidateId state parent child
      bestCandidateId
      bestScore
      cyclesWithoutImprovement := decision.stagnationCount state
      bestScoreHistory := state.bestScoreHistory ++ [bestScore] }
  next.check
  return next

/-- `is_converged`: the last best scores of a whole window are within the threshold. -/
def isConverged (state : EvolutionState) (config : EvolutionConfig) : Bool :=
  let window : ℕ := config.stagnationWindow
  let recent := state.bestScoreHistory.drop (state.bestScoreHistory.length - window)
  window + 1 ≤ state.bestScoreHistory.length ∧
    recent.max?.getD 0 - recent.min?.getD 0 ≤ config.improvementThreshold

/-! ## What a decision says -/

section Specs

variable {parent : EvaluatedCandidate} {child : Option EvaluatedCandidate}
  {proposal : CandidateProposal} {state next : EvolutionState} {config : EvolutionConfig}
  {decision : GateResult}

lemma gateResult_eq_ok {result : GateResult} :
    gateResult result = .ok decision ↔ ¬ Text.Blank result.reason ∧ result = decision := by
  simp only [gateResult, unit_bind_eq_ok, requireText_eq_ok, pure_eq_ok]

/-- The scores of a cycle: those of the parent and of a valid child, by the same weight. -/
structure Scored (config : EvolutionConfig) (parent child : EvaluatedCandidate)
    (parentScore score : ℚ) : Prop where
  valid : child.assessment.valid = true
  parent : assessmentScore parent.assessment config.structuralWeight = .ok parentScore
  child : assessmentScore child.assessment config.structuralWeight = .ok score

/-- The decisions of the gate about a proposal. -/
inductive Gates (config : EvolutionConfig) (state : EvolutionState) (parent : EvaluatedCandidate)
    (proposal : CandidateProposal) : Option EvaluatedCandidate → GateResult → Prop
  | skipped {child : Option EvaluatedCandidate} {decision : GateResult}
      (status : proposal.status ≠ .submitted) (decided : decision.decision = .skipped)
      (improved : decision.improved = false)
      (counter : decision.cyclesWithoutImprovement = some state.cyclesWithoutImprovement) :
      Gates config state parent proposal child decision
  | invalid {child : EvaluatedCandidate} {decision : GateResult}
      (status : proposal.status = .submitted)
      (apart : child.snapshot.candidateId ≠ parent.snapshot.candidateId)
      (valid : child.assessment.valid = false) (decided : decision.decision = .rejected)
      (improved : decision.improved = false)
      (counter : decision.cyclesWithoutImprovement = some (state.cyclesWithoutImprovement + 1)) :
      Gates config state parent proposal (some child) decision
  /-- An improved child is accepted, and the counter starts again. -/
  | improved {child : EvaluatedCandidate} {decision : GateResult} {parentScore score : ℚ}
      (status : proposal.status = .submitted)
      (apart : child.snapshot.candidateId ≠ parent.snapshot.candidateId)
      (scored : Scored config parent child parentScore score)
      (gain : parentScore + config.improvementThreshold < score)
      (decided : decision.decision = .accepted) (effective : decision.effectiveScore = some score)
      (improved : decision.improved = true) (counter : decision.cyclesWithoutImprovement = some 0) :
      Gates config state parent proposal (some child) decision
  /-- A valid child that has not improved is accepted until the search stagnates. -/
  | unimproved {child : EvaluatedCandidate} {decision : GateResult} {parentScore score : ℚ}
      (status : proposal.status = .submitted)
      (apart : child.snapshot.candidateId ≠ parent.snapshot.candidateId)
      (scored : Scored config parent child parentScore score)
      (gain : ¬ parentScore + config.improvementThreshold < score)
      (decided : decision.decision ≠ .skipped) (effective : decision.effectiveScore = some score)
      (improved : decision.improved = false)
      (counter : decision.cyclesWithoutImprovement = some (state.cyclesWithoutImprovement + 1)) :
      Gates config state parent proposal (some child) decision

/-- The decision about a valid child; an improved one is never rejected for stagnation, since the
window is positive. -/
lemma gates_gateScores {c : EvaluatedCandidate} (hstatus : proposal.status = .submitted)
    (hne : c.snapshot.candidateId ≠ parent.snapshot.candidateId)
    (hvalid : c.assessment.valid = true)
    (h : gateScores parent c state config = .ok decision) :
    Gates config state parent proposal (some c) decision := by
  have hwindow := config.stagnationWindow.pos
  simp only [gateScores, bind_eq_ok] at h
  obtain ⟨parentScore, hparent, score, hscore, h⟩ := h
  have hscored : Scored config parent c parentScore score := ⟨hvalid, hparent, hscore⟩
  by_cases himproved : parentScore + config.improvementThreshold < score
  · have hopen : ¬ (config.stagnationWindow : ℕ) ≤ 0 := by omega
    simp only [himproved, decide_true, if_true, if_neg hopen, gateResult_eq_ok] at h
    obtain ⟨-, rfl⟩ := h
    exact .improved hstatus hne hscored himproved rfl rfl rfl rfl
  · simp only [himproved, decide_false, Bool.false_eq_true, if_false] at h
    split_ifs at h
    all_goals
      obtain ⟨-, rfl⟩ := gateResult_eq_ok.mp h
      exact .unimproved hstatus hne hscored himproved GateDecision.noConfusion rfl rfl rfl

/-- **What the gate decides.** -/
theorem gates_of_gateCandidate
    (h : gateCandidate parent child proposal state config = .ok decision) :
    Gates config state parent proposal child decision := by
  unfold gateCandidate at h
  by_cases hstatus : proposal.status = .submitted
  · rw [hstatus] at h
    simp only [skipReason] at h
    obtain hnone | ⟨c, rfl⟩ := Option.eq_none_or_eq_some child
    · rw [hnone] at h
      cases h
    obtain hnone | ⟨proposed, hproposed⟩ := Option.eq_none_or_eq_some proposal.child
    · rw [hnone] at h
      cases h
    simp only [hproposed, bind_eq_ok, require_eq_ok, Unique.exists_iff] at h
    obtain ⟨-, hne, -, h⟩ := h
    by_cases hvalid : c.assessment.valid = true
    · rw [if_pos hvalid] at h
      exact gates_gateScores hstatus hne hvalid h
    · rw [if_neg hvalid] at h
      simp only [gateInvalid, bind_eq_ok, gateResult_eq_ok] at h
      obtain ⟨_, -, -, rfl⟩ := h
      exact .invalid hstatus hne (Bool.eq_false_of_not_eq_true hvalid) rfl rfl rfl
  · have hskip : ∃ reason, skipReason proposal.status = some reason := by
      cases hcases : proposal.status with
      | submitted => exact absurd hcases hstatus
      | abstained | budgetExhausted | cancelled => exact ⟨_, rfl⟩
    obtain ⟨reason, hreason⟩ := hskip
    simp only [hreason, gateResult_eq_ok] at h
    obtain ⟨-, rfl⟩ := h
    exact .skipped hstatus rfl rfl rfl

/-- **What the next state records.** -/
theorem nextEvolutionState_spec (h : nextEvolutionState state parent child decision = .ok next) :
    next.cyclesWithoutImprovement = decision.stagnationCount state ∧
      (next.bestCandidateId, next.bestScore) =
        (decision.recorded child).getD (state.bestCandidateId, state.bestScore) ∧
      next.activeCandidateId = decision.activeCandidateId state parent child ∧
      next.cycle = state.cycle + 1 ∧
      next.bestScoreHistory = state.bestScoreHistory ++ [next.bestScore] := by
  simp only [nextEvolutionState, unit_bind_eq_ok, pure_eq_ok] at h
  obtain ⟨-, rfl⟩ := h
  exact ⟨rfl, rfl, rfl, rfl, rfl⟩

lemma parent_of_check {outcome : CycleOutcome} (h : outcome.check = .ok ()) :
    outcome.parent.snapshot.candidateId = outcome.selection.parentCandidateId := by
  simp only [CycleOutcome.check, bind_eq_ok, require_eq_ok, Unique.exists_iff] at h
  exact h.2.1

end Specs

end AecBench.Evolution
