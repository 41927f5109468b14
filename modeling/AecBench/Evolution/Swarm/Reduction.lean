import AecBench.Evolution.Swarm.Core
import AecBench.Lib.Leader
import AecBench.Lib.Machine

/-!
# Runs of the swarm reducer

The reducer keeps its counters in three places: in the state of the run, in the states of the
agents, and in the pivot counters of the agents. Here are runs of it, over outcomes of any
agents in any order, and how the counters agree with the outcomes that were applied.

## Main definitions

* `Reduction`, `reducer` — one call of the reducer, and its runs.
* `applied` — the outcomes a run applied, with the decisions about them.
* `SwarmState.Fresh` — the state of a pool that has not started.
* `RunSound` — how the state after a run agrees with the outcomes applied in it.

## Main results

* `reduce_reduces` — what one application changes.
* `run_sound` — every run of a fresh pool is sound.
-/

namespace AecBench.Evolution.Swarm

open Validation Leader

/-! ## Runs -/

/-- One call of the reducer, apart from the state it is given. -/
structure Reduction where
  outcome : SwarmOutcome
  budget : BudgetSnapshot
  config : SwarmConfig
  now : String

namespace Reduction

def reduce (x : Reduction) (state : SwarmState) : Except String (SwarmState × SwarmDecision) :=
  nextSwarmState state x.outcome x.budget x.config x.now

def agentId (x : Reduction) : String := x.outcome.assignment.agentId

/-- The cost that the agent reports. -/
def cost (x : Reduction) : ℚ≥0 := x.outcome.agentResult.agentUsage.totalCostUsd.getD 0

def evaluated (x : Reduction) : Bool := x.outcome.evaluatedCandidate.isSome

/-- The evaluations that the outcome counts for. -/
def evaluations (x : Reduction) : ℕ := if x.evaluated then 1 else 0

/-- The accepted child of an outcome, and its score. -/
def accepted? (x : Reduction) : Option (String × ℚ) :=
  (x.outcome.evaluatedCandidate.filter x.outcome.accepted).bind fun child =>
    ((assessmentScore child.assessment x.config.structuralWeight).map fun score =>
      (child.snapshot.candidateId, score)).toOption

end Reduction

/-- Runs of the reducer; an outcome that it refuses leaves the state as it is. -/
def reducer : Machine SwarmState Reduction where
  step state x :=
    match x.reduce state with
    | .ok (next, _) => next
    | .error _ => state

/-- An outcome that was applied, and the decision about its agent. -/
structure Applied where
  reduction : Reduction
  decision : SwarmDecision

/-- The outcomes applied in a run. -/
def applied : SwarmState → List Reduction → List Applied
  | _, [] => []
  | state, x :: xs =>
    match x.reduce state with
    | .ok (next, decision) => ⟨x, decision⟩ :: applied next xs
    | .error _ => applied state xs

namespace Applied

def agentId (a : Applied) : String := a.reduction.agentId

/-- The agent is told to pivot. -/
def pivots (a : Applied) : Bool := a.decision.pivot.isSome

/-- An evaluation of the agent that gives no pivot. -/
def Steady (agentId : String) (a : Applied) : Prop :=
  a.agentId = agentId ∧ a.reduction.evaluated = true ∧ a.pivots = false

instance (agentId : String) : DecidablePred (Steady agentId) := fun _ =>
  inferInstanceAs (Decidable (_ ∧ _ ∧ _))

end Applied

/-- The costs that an agent reported. -/
def costs (agentId : String) (log : List Applied) : List ℚ≥0 :=
  (log.filter fun a => a.agentId = agentId).map fun a => a.reduction.cost

/-- The accepted children and their scores, in the order in which they were applied. -/
def acceptedChildren (log : List Applied) : List (String × ℚ) :=
  log.filterMap fun a => a.reduction.accepted?

/-! ## Soundness of a run -/

/-- The state of a pool that has not started. -/
structure SwarmState.Fresh (state : SwarmState) : Prop where
  checked : state.check = .ok ()
  evaluations : state.totalEvaluations = 0
  best : state.bestCandidateId = none ∧ state.bestScore = none
  agents : ∀ agent ∈ state.agentStates, agent.evalCount = 0 ∧ agent.budgetConsumedUsd = 0

/-- The best score does not decrease. -/
def Rises (old new : Option ℚ) : Prop := ∀ b ∈ old, ∃ b' ∈ new, b ≤ b'

/-- Only the agent with this identity may have changed. -/
structure OthersUnchanged (agentId : String) (state next : SwarmState) : Prop where
  ids : next.agentStates.map (·.agentId) = state.agentStates.map (·.agentId)
  agents : ∀ agent : SwarmAgentState, agent.agentId ≠ agentId →
    (agent ∈ next.agentStates ↔ agent ∈ state.agentStates)
  counters : ∀ id, id ≠ agentId → next.pivotState.current id = state.pivotState.current id

/-- Between two pivots of an agent there are three of its evaluations that give none. -/
def Spaced (log : List Applied) : Prop :=
  ∀ before a between b after, log = before ++ a :: (between ++ b :: after) →
    a.pivots = true → b.pivots = true → b.agentId = a.agentId →
      3 ≤ between.countP (Applied.Steady a.agentId ·)

/-- How the state after a run agrees with the outcomes applied in it. -/
structure RunSound (state : SwarmState) (xs : List Reduction) : Prop where
  evaluations : (reducer.run state xs).totalEvaluations =
    ((reducer.run state xs).agentStates.map (·.evalCount)).sum
  consumed : ∀ agent ∈ (reducer.run state xs).agentStates,
    agent.budgetConsumedUsd = (costs agent.agentId (applied state xs)).sum
  /-- The best candidate is the first of the accepted children with the highest score. -/
  best : ∃ best, Leading Prod.snd (acceptedChildren (applied state xs)) best ∧
    (reducer.run state xs).bestCandidateId = best.map Prod.fst ∧
      (reducer.run state xs).bestScore = best.map Prod.snd
  rises : ∀ before after, xs = before ++ after →
    Rises (reducer.run state before).bestScore (reducer.run state xs).bestScore
  others : ∀ before x after, xs = before ++ x :: after →
    OthersUnchanged x.agentId (reducer.run state before) (reducer.run state (before ++ [x]))
  /-- A state that stopped stays stopped, and no agent continues from then on. -/
  stopped : ∀ before after, xs = before ++ after → (reducer.run state before).stopped = true →
    (reducer.run state xs).stopped = true ∧
      ∀ a ∈ applied (reducer.run state before) after, a.decision.continueAgent = false
  spaced : Spaced (applied state xs)

/-! ## One application -/

section Reduction

variable {state next : SwarmState} {x : Reduction} {decision : SwarmDecision}

variable {current : SwarmAgentState}

lemma exists_agent {agents : List SwarmAgentState} {agentId : String}
    (hnodup : (agents.map (·.agentId)).Nodup)
    (hfind : agents.find? (·.agentId = agentId) = some current) :
    ∃ before after, agents = before ++ current :: after ∧ current.agentId = agentId ∧
      (∀ agent ∈ before, agent.agentId ≠ agentId) ∧ ∀ agent ∈ after, agent.agentId ≠ agentId := by
  obtain ⟨hcurrent, before, after, rfl, hbefore⟩ := List.find?_eq_some_iff_append.mp hfind
  have hid : current.agentId = agentId := by simpa using hcurrent
  refine ⟨before, after, rfl, hid, fun agent hagent => by simpa using hbefore agent hagent, ?_⟩
  intro agent hagent heq
  rw [List.map_append, List.map_cons] at hnodup
  have hcons := (List.nodup_append.mp hnodup).2.1
  refine (List.nodup_cons.mp hcons).1 (List.mem_map.mpr ⟨agent, hagent, ?_⟩)
  rw [heq, hid]

lemma map_replace_split {before after : List SwarmAgentState} {agentId : String}
    (update : SwarmAgentState → SwarmAgentState) (hcurrent : current.agentId = agentId)
    (hbefore : ∀ agent ∈ before, agent.agentId ≠ agentId)
    (hafter : ∀ agent ∈ after, agent.agentId ≠ agentId) :
    ((before ++ current :: after).map fun agent =>
        if agent.agentId = agentId then update agent else agent) =
      before ++ update current :: after := by
  have hkeep : ∀ agents : List SwarmAgentState, (∀ agent ∈ agents, agent.agentId ≠ agentId) →
      (agents.map fun agent => if agent.agentId = agentId then update agent else agent) =
        agents := by
    intro agents hagents
    conv_rhs => rw [← List.map_id agents]
    exact List.map_congr_left fun agent hagent => if_neg (hagents agent hagent)
  rw [List.map_append, List.map_cons, hkeep before hbefore, hkeep after hafter, if_pos hcurrent]

lemma PivotState.current_set (pivots : PivotState) (updated : AgentPivotState) (id : String) :
    (pivots.set updated).current id = if id = updated.agentId then updated else pivots.current id := by
  have hfind : ∀ entries : List AgentPivotState,
      (entries.map fun pivot => if pivot.agentId = updated.agentId then updated else pivot).find?
          (·.agentId = id) =
        if id = updated.agentId then
          (entries.find? (·.agentId = id)).map fun _ => updated
        else entries.find? (·.agentId = id) := by
    intro entries
    induction entries with
    | nil => by_cases hid : id = updated.agentId <;> simp [hid]
    | cons pivot rest ih =>
      rw [List.map_cons, List.find?_cons, List.find?_cons, ih]
      by_cases hpivot : pivot.agentId = updated.agentId
      · rw [if_pos hpivot]
        by_cases hid : id = updated.agentId
        · simp [hid, hpivot]
        · have hne : ¬ updated.agentId = id := fun h => hid h.symm
          simp [hid, hne, hpivot]
      · rw [if_neg hpivot]
        by_cases hid : id = updated.agentId
        · simp [hid, hpivot]
        · simp [hid]
  rw [current, current, set]
  by_cases hmem : updated.agentId ∈ pivots.agentStates.map (·.agentId)
  · rw [if_pos hmem, hfind]
    by_cases hid : id = updated.agentId
    · rw [if_pos hid, if_pos hid, hid]
      obtain ⟨pivot, hpivot, heq⟩ := List.mem_map.mp hmem
      cases hsome : pivots.agentStates.find? (·.agentId = updated.agentId) with
      | none => exact absurd heq (by simpa using List.find?_eq_none.mp hsome pivot hpivot)
      | some found => rfl
    · rw [if_neg hid, if_neg hid]
  · rw [if_neg hmem, List.find?_append, hfind]
    by_cases hid : id = updated.agentId
    · have hnone : pivots.agentStates.find? (·.agentId = updated.agentId) = none := by
        refine List.find?_eq_none.mpr fun pivot hpivot => ?_
        simpa using fun heq : pivot.agentId = updated.agentId =>
          hmem (heq ▸ List.mem_map_of_mem hpivot)
      rw [if_pos hid, if_pos hid, hid, hnone]
      simp
    · have hne : ¬ updated.agentId = id := fun h => hid h.symm
      rw [if_neg hid, if_neg hid]
      simp [hne]

lemma AgentPivotState.advance_cooldown (current : AgentPivotState) (nonImproving pivotAfter : ℕ) :
    current.cooldownRemaining ≤ (current.advance nonImproving pivotAfter).1.cooldownRemaining + 1 ∧
      ((current.advance nonImproving pivotAfter).2 ≠ none → current.cooldownRemaining = 0 ∧
        (current.advance nonImproving pivotAfter).1.cooldownRemaining = 3) := by
  rw [advance]
  by_cases hcooldown : 0 < current.cooldownRemaining
  · rw [if_pos hcooldown]
    exact ⟨by dsimp only; omega, fun h => absurd rfl h⟩
  · rw [if_neg hcooldown]
    by_cases hpivot : pivotAfter ≤ nonImproving
    · rw [if_pos hpivot]
      exact ⟨by dsimp only; omega, fun _ => ⟨by omega, rfl⟩⟩
    · rw [if_neg hpivot]
      exact ⟨by dsimp only; omega, fun h => absurd rfl h⟩

/-- What one application of an outcome changes. -/
structure Reduces (state : SwarmState) (x : Reduction) (next : SwarmState)
    (decision : SwarmDecision) : Prop where
  checked : next.check = .ok ()
  pool : ∃ before current after updated, state.agentStates = before ++ current :: after ∧
    next.agentStates = before ++ updated :: after ∧ (current.agentId = x.agentId ∧
      updated.agentId = x.agentId ∧ ∀ agent ∈ before ++ after, agent.agentId ≠ x.agentId) ∧
        updated.budgetConsumedUsd = current.budgetConsumedUsd + x.cost ∧
          updated.evalCount = current.evalCount + x.evaluations
  total : next.totalEvaluations = state.totalEvaluations + x.evaluations
  /-- An accepted child becomes the best one when it outscores the best one. -/
  best : (next.bestCandidateId, next.bestScore) =
    match x.accepted? with
    | some (id, score) =>
      if ∀ b ∈ state.bestScore, b < score then (some id, some score)
      else (state.bestCandidateId, state.bestScore)
    | none => (state.bestCandidateId, state.bestScore)
  stopped : next.stopped = (state.stopped || x.budget.exhausted)
  continues : decision.continueAgent = !next.stopped
  counters : ∀ id, id ≠ x.agentId → next.pivotState.current id = state.pivotState.current id
  cooldown : (state.pivotState.current x.agentId).cooldownRemaining ≤
    (next.pivotState.current x.agentId).cooldownRemaining +
      if Applied.Steady x.agentId ⟨x, decision⟩ then 1 else 0
  pivot : decision.pivot ≠ none → (state.pivotState.current x.agentId).cooldownRemaining = 0 ∧
    (next.pivotState.current x.agentId).cooldownRemaining = 3

/-- The best candidate after an evaluation, from how the reducer decides about it. -/
lemma best_of_improves {child : EvaluatedCandidate} {score : ℚ} {charged : SwarmState}
    (hchild : x.outcome.evaluatedCandidate = some child)
    (hscore : assessmentScore child.assessment x.config.structuralWeight = .ok score)
    (hcharged : charged.bestCandidateId = state.bestCandidateId ∧
      charged.bestScore = state.bestScore) :
    (if improvesGlobal charged x.outcome child score then
        (some child.snapshot.candidateId, some score)
      else (charged.bestCandidateId, charged.bestScore)) =
      match x.accepted? with
      | some (id, score) =>
        if ∀ b ∈ state.bestScore, b < score then (some id, some score)
        else (state.bestCandidateId, state.bestScore)
      | none => (state.bestCandidateId, state.bestScore) := by
  rw [improvesGlobal, hcharged.1, hcharged.2]
  by_cases haccepted : x.outcome.accepted child = true
  · have haccepted? : x.accepted? = some (child.snapshot.candidateId, score) := by
      rw [Reduction.accepted?, hchild, Option.filter_some, if_pos haccepted, Option.bind_some,
        hscore]
      rfl
    rw [haccepted?, haccepted, Bool.true_and]
    cases hbest : state.bestScore with
    | none | some b => simp
  · have haccepted? : x.accepted? = none := by
      rw [Reduction.accepted?, hchild, Option.filter_some, if_neg haccepted, Option.bind_none]
    rw [haccepted?, Bool.eq_false_iff.mpr haccepted, Bool.false_and, if_neg Bool.false_ne_true]

/-- What the evaluation of a child changes, besides what `EvaluationReduced` says. -/
lemma reduceEvaluation_counts {charged reduced : SwarmState} {child : EvaluatedCandidate}
    {pivot : Option String}
    (h : reduceEvaluation charged x.outcome x.config x.now current child = .ok (reduced, pivot)) :
    reduced.totalEvaluations = charged.totalEvaluations + 1 ∧
      (∃ update : SwarmAgentState → SwarmAgentState,
        (reduced.agentStates = charged.agentStates.map fun agent =>
          if agent.agentId = x.agentId then update agent else agent) ∧
        ∀ agent, (update agent).agentId = agent.agentId ∧
          (update agent).budgetConsumedUsd = agent.budgetConsumedUsd ∧
            (update agent).evalCount = current.evalCount + 1) ∧
      ∃ nonImproving, reduced.pivotState = charged.pivotState.set
          ((charged.pivotState.current x.agentId).advance nonImproving x.config.pivotAfter).1 ∧
        ((charged.pivotState.current x.agentId).advance nonImproving x.config.pivotAfter).2 =
          pivot := by
  simp only [reduceEvaluation, bind_eq_ok, pure_eq_ok, Prod.mk.injEq, Prod.exists] at h
  obtain ⟨score, -, bds, -, agents', hagents, pivots', pivot', hpivots, rfl, rfl⟩ := h
  obtain ⟨-, rfl⟩ := replaceAgentState_eq_ok.mp hagents
  obtain ⟨-, rfl, rfl⟩ := updatePivotState_eq_ok.mp hpivots
  exact ⟨rfl, ⟨_, rfl, fun agent => ⟨rfl, rfl, rfl⟩⟩, _, rfl, rfl⟩

/-- What the reducer decides: a stopped agent does not continue, and only an agent that
continues pivots. -/
lemma swarmDecision_cases (state : SwarmState) (config : SwarmConfig) (evaluated : Bool)
    (pivot : Option String) (exhausted : Bool) (total : ℕ) :
    (swarmDecision state evaluated pivot exhausted config total).stop =
        (state.stopped || exhausted) ∧
      (swarmDecision state evaluated pivot exhausted config total).continueAgent =
        !(state.stopped || exhausted) ∧
      ((swarmDecision state evaluated pivot exhausted config total).pivot = none ∨
        (swarmDecision state evaluated pivot exhausted config total).pivot = pivot) := by
  simp only [swarmDecision]
  by_cases hs : (state.stopped || exhausted) = true
  · rw [if_pos hs, hs]
    exact ⟨rfl, rfl, .inl rfl⟩
  · rw [if_neg hs, Bool.eq_false_iff.mpr hs]
    cases pivot with
    | none => exact ⟨rfl, rfl, .inl rfl⟩
    | some reason => exact ⟨rfl, rfl, .inr rfl⟩

/-- **What one application of an outcome changes.** -/
theorem reduce_reduces (hvalid : state.Valid) (h : x.reduce state = .ok (next, decision)) :
    Reduces state x next decision := by
  obtain ⟨current, cost, charged, reduced, pivot, -, hfind, -, hcost, hcharged, hreduced, rfl, -,
    hcheck, rfl⟩ := nextSwarmState_eq_ok.mp h
  obtain ⟨before, after, hagents, hid, hbefore, hafter⟩ := exists_agent hvalid.agentIds hfind
  have hothers : ∀ agent ∈ before ++ after, agent.agentId ≠ x.agentId := by
    intro agent hagent
    rcases List.mem_append.mp hagent with hagent | hagent
    · exact hbefore agent hagent
    · exact hafter agent hagent
  have hx : x.cost = cost := by rw [Reduction.cost, hcost, Option.getD_some]
  simp only [chargeAgent, bind_eq_ok, pure_eq_ok] at hcharged
  obtain ⟨agents, hreplaced, rfl⟩ := hcharged
  obtain ⟨-, rfl⟩ := replaceAgentState_eq_ok.mp hreplaced
  rw [hagents, map_replace_split _ hid hbefore hafter] at hreduced
  obtain ⟨hstop, hcontinue, hpivot⟩ := swarmDecision_cases state x.config
    x.outcome.evaluatedCandidate.isSome pivot x.budget.exhausted reduced.totalEvaluations
  obtain hchild | ⟨child, hchild⟩ := Option.eq_none_or_eq_some x.outcome.evaluatedCandidate
  · have hnone : x.evaluated = false := by rw [Reduction.evaluated, hchild]; rfl
    rw [hchild, Option.elim_none, Except.ok.injEq, Prod.mk.injEq] at hreduced
    obtain ⟨rfl, rfl⟩ := hreduced
    have haccepted : x.accepted? = none := by
      rw [Reduction.accepted?, hchild, Option.filter_none, Option.bind_none]
    have hpivot : (swarmDecision state x.outcome.evaluatedCandidate.isSome none x.budget.exhausted
        x.config state.totalEvaluations).pivot = none := hpivot.elim id id
    refine {
      checked := hcheck
      pool := ⟨before, current, after, _, hagents, rfl, ⟨hid, hid, hothers⟩, by rw [hx], ?_⟩
      total := ?_
      best := ?_
      stopped := hstop
      continues := hcontinue.trans (by rw [hstop])
      counters := fun _ _ => rfl
      cooldown := Nat.le_add_right _ _
      pivot := fun hne => absurd hpivot hne }
    · rw [Reduction.evaluations, hnone]
      rfl
    · rw [Reduction.evaluations, hnone]
      rfl
    · rw [haccepted]
  · have hsome : x.evaluated = true := by rw [Reduction.evaluated, hchild]; rfl
    rw [hchild, Option.elim_some] at hreduced
    obtain ⟨htotal, ⟨update, hmap, hupdate⟩, nonImproving, hpivots, hadvance⟩ :=
      reduceEvaluation_counts hreduced
    obtain ⟨score, hscore, hbest⟩ := (reduceEvaluation_reduced hreduced).best
    have hcurrent := PivotState.current_agentId state.pivotState x.agentId
    have hset : ∀ id, reduced.pivotState.current id =
        if id = x.agentId then
          ((state.pivotState.current x.agentId).advance nonImproving x.config.pivotAfter).1
        else state.pivotState.current id := by
      intro id
      rw [hpivots, PivotState.current_set, AgentPivotState.advance_agentId, hcurrent]
    have hcool := AgentPivotState.advance_cooldown (state.pivotState.current x.agentId)
      nonImproving x.config.pivotAfter
    have hself := hset x.agentId
    rw [if_pos rfl] at hself
    have hpivoting : (swarmDecision state x.outcome.evaluatedCandidate.isSome pivot
        x.budget.exhausted x.config reduced.totalEvaluations).pivot ≠ none →
        ((state.pivotState.current x.agentId).advance nonImproving x.config.pivotAfter).2 ≠
          none := by
      intro hne
      have hsame := hpivot.resolve_left hne
      rw [hsame] at hne
      exact hadvance ▸ hne
    refine {
      checked := hcheck
      pool := ⟨before, current, after, update { current with
          budgetConsumedUsd := current.budgetConsumedUsd + cost }, hagents, ?_,
        ⟨hid, (hupdate _).1.trans hid, hothers⟩, ?_, ?_⟩
      total := ?_
      best := ?_
      stopped := hstop
      continues := hcontinue.trans (by rw [hstop])
      counters := fun id hne => ?_
      cooldown := ?_
      pivot := fun hne => ?_ }
    · refine hmap.trans ?_
      exact map_replace_split update hid hbefore hafter
    · rw [(hupdate _).2.1, hx]
    · rw [(hupdate _).2.2, Reduction.evaluations, hsome]
      rfl
    · rw [Reduction.evaluations, hsome]
      exact htotal
    · exact hbest.trans (best_of_improves hchild hscore ⟨rfl, rfl⟩)
    · rw [hset id, if_neg hne]
    · rw [hself]
      by_cases hsteady : Applied.Steady x.agentId ⟨x, swarmDecision state
          x.outcome.evaluatedCandidate.isSome pivot x.budget.exhausted x.config
          reduced.totalEvaluations⟩
      · rw [if_pos hsteady]
        exact hcool.1
      · have hpivots : (swarmDecision state x.outcome.evaluatedCandidate.isSome pivot
            x.budget.exhausted x.config reduced.totalEvaluations).pivot ≠ none :=
          fun hnone => hsteady ⟨rfl, hsome, by rw [Applied.pivots, hnone]; rfl⟩
        rw [(hcool.2 (hpivoting hpivots)).1]
        exact Nat.zero_le _
    · rw [hself]
      exact hcool.2 (hpivoting hne)

end Reduction

/-! ## Runs -/

section Runs

variable {state next : SwarmState} {x : Reduction} {xs : List Reduction}
  {decision : SwarmDecision}

/-- What holds of the empty run, and of a run whenever it holds of all but its first applied
outcome, holds of every run. -/
theorem run_induction {P : SwarmState → List Applied → SwarmState → Prop}
    (nil : ∀ s, P s [] s)
    (cons : ∀ s x next decision log final, Reduces s x next decision → P next log final →
      P s (⟨x, decision⟩ :: log) final)
    (hvalid : state.Valid) (xs : List Reduction) :
    P state (applied state xs) (reducer.run state xs) := by
  induction xs generalizing state with
  | nil => exact nil state
  | cons x xs ih =>
    rw [applied, Machine.run_cons]
    cases hx : x.reduce state with
    | error e =>
      have hstep : reducer.step state x = state := by simp only [reducer, hx]
      rw [hstep]
      exact ih hvalid
    | ok y =>
      have hstep : reducer.step state x = y.1 := by simp only [reducer, hx]
      have hreduces := reduce_reduces hvalid hx
      rw [hstep]
      exact cons state x y.1 y.2 _ _ hreduces (ih (SwarmState.check_eq_ok.mp hreduces.checked))

lemma run_valid (hvalid : state.Valid) (xs : List Reduction) : (reducer.run state xs).Valid := by
  refine Machine.run_preserves_of_forall (fun s x hs _ => ?_) hvalid fun x (_ : x ∈ xs) => trivial
  cases hx : x.reduce s with
  | error e =>
    have hstep : reducer.step s x = s := by simp only [reducer, hx]
    rwa [hstep]
  | ok y =>
    have hstep : reducer.step s x = y.1 := by simp only [reducer, hx]
    rw [hstep]
    exact SwarmState.check_eq_ok.mp (reduce_reduces hs hx).checked

lemma run_evaluations (hvalid : state.Valid) (xs : List Reduction) :
    (reducer.run state xs).totalEvaluations + (state.agentStates.map (·.evalCount)).sum =
      state.totalEvaluations + ((reducer.run state xs).agentStates.map (·.evalCount)).sum := by
  refine run_induction (P := fun s _ final =>
    final.totalEvaluations + (s.agentStates.map (·.evalCount)).sum =
      s.totalEvaluations + (final.agentStates.map (·.evalCount)).sum)
    (fun s => rfl) (fun s x next decision log final h ih => ?_) hvalid xs
  obtain ⟨before, current, after, updated, hagents, hnext, -, -, hcount⟩ := h.pool
  have hsum : (next.agentStates.map (·.evalCount)).sum =
      (s.agentStates.map (·.evalCount)).sum + x.evaluations := by
    rw [hagents, hnext]
    simp only [List.map_append, List.map_cons, List.sum_append, List.sum_cons]
    omega
  have htotal := h.total
  omega

lemma run_consumed (hvalid : state.Valid) (xs : List Reduction) :
    ∀ agent ∈ (reducer.run state xs).agentStates, ∃ old ∈ state.agentStates,
      old.agentId = agent.agentId ∧ agent.budgetConsumedUsd =
        old.budgetConsumedUsd + (costs agent.agentId (applied state xs)).sum := by
  refine run_induction (P := fun s log final => ∀ agent ∈ final.agentStates,
    ∃ old ∈ s.agentStates, old.agentId = agent.agentId ∧
      agent.budgetConsumedUsd = old.budgetConsumedUsd + (costs agent.agentId log).sum)
    (fun s agent hagent => ⟨agent, hagent, rfl, by simp [costs]⟩)
    (fun s x next decision log final h ih agent hagent => ?_) hvalid xs
  obtain ⟨before, current, after, updated, hagents, hnext, ⟨hcurrent, hupdated, hothers⟩, hcost,
    -⟩ := h.pool
  obtain ⟨old, hold, hid, hconsumed⟩ := ih agent hagent
  have hcosts : (costs agent.agentId (⟨x, decision⟩ :: log)).sum =
      (if x.agentId = agent.agentId then x.cost else 0) + (costs agent.agentId log).sum := by
    by_cases hx : x.agentId = agent.agentId
    · simp [costs, Applied.agentId, hx]
    · simp [costs, Applied.agentId, hx]
  rw [hnext] at hold
  rw [hagents]
  by_cases hx : x.agentId = agent.agentId
  · rw [hcosts, if_pos hx]
    rcases List.mem_append.mp hold with hold | hold
    · exact absurd (hid.trans hx.symm) (hothers old (List.mem_append_left _ hold))
    · rcases List.mem_cons.mp hold with rfl | hold
      · refine ⟨current, List.mem_append_right _ List.mem_cons_self, hcurrent.trans hx, ?_⟩
        rw [hconsumed, hcost, add_assoc]
      · exact absurd (hid.trans hx.symm) (hothers old (List.mem_append_right _ hold))
  · rw [hcosts, if_neg hx, zero_add]
    refine ⟨old, ?_, hid, hconsumed⟩
    rcases List.mem_append.mp hold with hold | hold
    · exact List.mem_append_left _ hold
    · rcases List.mem_cons.mp hold with rfl | hold
      · exact absurd (hupdated.symm.trans hid) hx
      · exact List.mem_append_right _ (List.mem_cons_of_mem _ hold)

lemma run_best (hvalid : state.Valid) (xs : List Reduction) {seen : List (String × ℚ)}
    {best : Option (String × ℚ)} (hbest : Leading Prod.snd seen best)
    (hstate : (state.bestCandidateId, state.bestScore) = (best.map Prod.fst, best.map Prod.snd)) :
    ∃ best', Leading Prod.snd (seen ++ acceptedChildren (applied state xs)) best' ∧
      ((reducer.run state xs).bestCandidateId, (reducer.run state xs).bestScore) =
        (best'.map Prod.fst, best'.map Prod.snd) := by
  refine run_induction (P := fun s log final => ∀ seen best, Leading Prod.snd seen best →
    (s.bestCandidateId, s.bestScore) = (best.map Prod.fst, best.map Prod.snd) →
      ∃ best', Leading Prod.snd (seen ++ acceptedChildren log) best' ∧
        (final.bestCandidateId, final.bestScore) = (best'.map Prod.fst, best'.map Prod.snd))
    (fun s seen best hbest hs => ⟨best, by simpa [acceptedChildren] using hbest, hs⟩)
    (fun s x next decision log final h ih seen best hbest hs => ?_) hvalid xs seen best hbest hstate
  have hnext := h.best
  rw [Prod.mk.injEq] at hs
  cases haccepted : x.accepted? with
  | none =>
    have hlog : acceptedChildren (⟨x, decision⟩ :: log) = acceptedChildren log :=
      List.filterMap_cons_none haccepted
    rw [haccepted] at hnext
    rw [hlog]
    exact ih seen best hbest (by rw [hnext, hs.1, hs.2])
  | some child =>
    have hlog : acceptedChildren (⟨x, decision⟩ :: log) = child :: acceptedChildren log :=
      List.filterMap_cons_some haccepted
    rw [haccepted] at hnext
    have hiff : (∀ b ∈ s.bestScore, b < child.2) ↔ Outscores Prod.snd best child := by
      rw [hs.2]
      cases best with
      | none | some b => simp [Outscores]
    obtain ⟨best', hbest', hfinal⟩ := ih (seen ++ [child]) _ (hbest.append child) (by
      rw [hnext]
      by_cases hout : Outscores Prod.snd best child
      · rw [if_pos hout]
        exact if_pos (hiff.mpr hout)
      · rw [if_neg hout, ← hs.1, ← hs.2]
        exact if_neg fun h => hout (hiff.mp h))
    refine ⟨best', ?_, hfinal⟩
    rwa [hlog, List.append_cons]

lemma Rises.refl (score : Option ℚ) : Rises score score := fun b hb => ⟨b, hb, le_rfl⟩

lemma Rises.trans {a b c : Option ℚ} (h : Rises a b) (h' : Rises b c) : Rises a c := by
  intro s hs
  obtain ⟨s', hs', hle⟩ := h s hs
  obtain ⟨s'', hs'', hle'⟩ := h' s' hs'
  exact ⟨s'', hs'', hle.trans hle'⟩

lemma Reduces.rises (h : Reduces state x next decision) : Rises state.bestScore next.bestScore := by
  have hbest := h.best
  cases haccepted : x.accepted? with
  | none =>
    rw [haccepted] at hbest
    rw [(Prod.mk.inj hbest).2]
    exact Rises.refl _
  | some child =>
    rw [haccepted] at hbest
    dsimp only at hbest
    by_cases hout : ∀ b ∈ state.bestScore, b < child.2
    · rw [if_pos hout, Prod.mk.injEq] at hbest
      intro b hb
      exact ⟨child.2, hbest.2, (hout b hb).le⟩
    · rw [if_neg hout, Prod.mk.injEq] at hbest
      rw [hbest.2]
      exact Rises.refl _

lemma run_rises (hvalid : state.Valid) (xs : List Reduction) :
    Rises state.bestScore (reducer.run state xs).bestScore :=
  run_induction (P := fun s _ final => Rises s.bestScore final.bestScore)
    (fun state => Rises.refl state.bestScore) (fun _ _ _ _ _ _ h ih => h.rises.trans ih) hvalid xs

lemma Reduces.others (h : Reduces state x next decision) :
    OthersUnchanged x.agentId state next := by
  obtain ⟨before, current, after, updated, hagents, hnext, ⟨hcurrent, hupdated, -⟩, -⟩ := h.pool
  refine ⟨?_, fun agent hne => ?_, h.counters⟩
  · rw [hagents, hnext]
    simp only [List.map_append, List.map_cons, hcurrent, hupdated]
  · have hold : agent ≠ current := fun heq => hne (heq ▸ hcurrent)
    have hnew : agent ≠ updated := fun heq => hne (heq ▸ hupdated)
    rw [hagents, hnext]
    simp only [List.mem_append, List.mem_cons, hold, hnew]

lemma run_stopped (hvalid : state.Valid) (xs : List Reduction) (hstopped : state.stopped = true) :
    (reducer.run state xs).stopped = true ∧
      ∀ a ∈ applied state xs, a.decision.continueAgent = false := by
  refine run_induction (P := fun s log final => s.stopped = true →
    final.stopped = true ∧ ∀ a ∈ log, a.decision.continueAgent = false)
    (fun s hs => ⟨hs, fun a ha => absurd ha List.not_mem_nil⟩)
    (fun s x next decision log final h ih hs => ?_) hvalid xs hstopped
  have hnext : next.stopped = true := by rw [h.stopped, hs, Bool.true_or]
  obtain ⟨hfinal, hlog⟩ := ih hnext
  refine ⟨hfinal, fun a ha => ?_⟩
  rcases List.mem_cons.mp ha with rfl | ha
  · rw [h.continues, hnext, Bool.not_true]
  · exact hlog a ha

/-- Before the first pivot of an agent, its evaluations use its cooldown up. -/
def Cools (state : SwarmState) (log : List Applied) : Prop :=
  ∀ between b after, log = between ++ b :: after → b.pivots = true →
    (state.pivotState.current b.agentId).cooldownRemaining ≤
      between.countP (Applied.Steady b.agentId ·)

lemma cools_nil (state : SwarmState) : Cools state [] := by
  intro between b after hlog
  cases between <;> cases hlog

lemma pivot_ne_none {a : Applied} (h : a.pivots = true) : a.decision.pivot ≠ none := by
  intro hnone
  rw [Applied.pivots, hnone] at h
  cases h

lemma Reduces.cools {log : List Applied} (h : Reduces state x next decision)
    (hlog : Cools next log) : Cools state (⟨x, decision⟩ :: log) := by
  intro between b after heq hpivots
  cases between with
  | nil =>
    obtain ⟨rfl, -⟩ := heq
    have hcooldown : (state.pivotState.current x.agentId).cooldownRemaining = 0 :=
      (h.pivot (pivot_ne_none hpivots)).1
    exact hcooldown.trans_le (Nat.zero_le _)
  | cons a between =>
    rw [List.cons_append, List.cons.injEq] at heq
    obtain ⟨rfl, heq⟩ := heq
    have hrest := hlog between b after heq hpivots
    rw [List.countP_cons]
    by_cases hx : x.agentId = b.agentId
    · have hcooldown := h.cooldown
      rw [← hx] at hrest ⊢
      simp only [decide_eq_true_eq]
      omega
    · rw [← h.counters b.agentId fun hid => hx hid.symm]
      omega

lemma run_spaced (hvalid : state.Valid) (xs : List Reduction) : Spaced (applied state xs) := by
  refine (run_induction (P := fun s log _ => Cools s log ∧ Spaced log) (fun state => ⟨cools_nil state, ?_⟩)
    (fun s x next decision log final h ih => ⟨h.cools ih.1, ?_⟩) hvalid xs).2
  · intro before a between b after hlog
    cases before <;> cases hlog
  · intro before a between b after hlog ha hb hid
    cases before with
    | nil =>
      rw [List.nil_append, List.cons.injEq] at hlog
      obtain ⟨rfl, hlog⟩ := hlog
      have hcooldown : (next.pivotState.current x.agentId).cooldownRemaining = 3 :=
        (h.pivot (pivot_ne_none ha)).2
      have hcools := ih.1 between b after hlog hb
      rw [hid] at hcools
      exact hcooldown.symm.trans_le hcools
    | cons c before =>
      rw [List.cons_append, List.cons.injEq] at hlog
      exact ih.2 before a between b after hlog.2 ha hb hid

lemma step_others (hvalid : state.Valid) (x : Reduction) :
    OthersUnchanged x.agentId state (reducer.step state x) := by
  cases hx : x.reduce state with
  | error e =>
    have hstep : reducer.step state x = state := by simp only [reducer, hx]
    rw [hstep]
    exact ⟨rfl, fun _ _ => Iff.rfl, fun _ _ => rfl⟩
  | ok y =>
    have hstep : reducer.step state x = y.1 := by simp only [reducer, hx]
    rw [hstep]
    exact (reduce_reduces hvalid hx).others

/-- **Every run of a fresh pool is sound**: the counters of the state, of the agents and of the
pivots agree with the outcomes that were applied, whatever their agents and their order. -/
theorem run_sound (hfresh : state.Fresh) (xs : List Reduction) : RunSound state xs := by
  have hvalid := SwarmState.check_eq_ok.mp hfresh.checked
  refine {
    evaluations := ?_
    consumed := fun agent hagent => ?_
    best := ?_
    rises := ?_
    others := ?_
    stopped := ?_
    spaced := run_spaced hvalid xs }
  · have hzero : (state.agentStates.map (·.evalCount)).sum = 0 := by
      have hall : ∀ n ∈ state.agentStates.map (·.evalCount), n = 0 := by
        intro n hn
        obtain ⟨agent, hagent, rfl⟩ := List.mem_map.mp hn
        exact (hfresh.agents agent hagent).1
      rw [List.eq_replicate_of_mem hall, List.sum_replicate_nat, Nat.mul_zero]
    have hcount := run_evaluations hvalid xs
    rwa [hzero, hfresh.evaluations, Nat.zero_add] at hcount
  · obtain ⟨old, hold, -, hconsumed⟩ := run_consumed hvalid xs agent hagent
    rwa [(hfresh.agents old hold).2, zero_add] at hconsumed
  · have hnone : (state.bestCandidateId, state.bestScore) =
        ((none : Option (String × ℚ)).map Prod.fst, (none : Option (String × ℚ)).map Prod.snd) := by
      rw [hfresh.best.1, hfresh.best.2]
      rfl
    have hempty : Leading Prod.snd ([] : List (String × ℚ)) none := rfl
    obtain ⟨best, hbest, hfinal⟩ := run_best hvalid xs hempty hnone
    exact ⟨best, hbest, (Prod.mk.inj hfinal).1, (Prod.mk.inj hfinal).2⟩
  · rintro before after rfl
    rw [Machine.run_append]
    exact run_rises (run_valid hvalid before) after
  · rintro before x after rfl
    rw [Machine.run_append]
    exact step_others (run_valid hvalid before) x
  · rintro before after rfl hstopped
    rw [Machine.run_append]
    exact run_stopped (run_valid hvalid before) after hstopped

end Runs

/-- A pool of two agents that has not started. -/
def poolState : SwarmState where
  runId := "run"
  totalEvaluations := 0
  bestCandidateId := none
  bestScore := none
  agentStates := ["agent-0", "agent-1"].map fun agentId =>
    { agentId, model := "model", status := .active, worktreeBranch := s!"coral/{agentId}" }
  recentScores := []
  recentDescriptors := []
  pivotState := { agentStates := ["agent-0", "agent-1"].map fun agentId => { agentId } }
  stopped := false
  stopReason := none

lemma poolState_fresh : poolState.Fresh where
  checked := by decide
  evaluations := rfl
  best := ⟨rfl, rfl⟩
  agents := by decide

/-- An agent gives its assignment up after one model request. -/
def abstention (agentId : String) : Reduction where
  outcome :=
    { assignment :=
        { runId := "run", assignmentId := s!"{agentId}:assignment:1", agentId
          selection :=
            { parentCandidateId := "baseline", inspirationCandidateIds := []
              strategy := .conservative, goal := "improve", reasoning := "the only candidate" }
          parent := { systemPrompt := "prompt", candidateId := "baseline" }
          inspirations := []
          maxCostUsd := 1
          issuedAt := "2026-04-07T10:00:00+00:00" }
      agentResult :=
        { agentId, assignmentId := s!"{agentId}:assignment:1"
          proposal := { status := .abstained, child := none, mutation := none,
                        reasoning := "nothing to improve", usage := {} }
          agentUsage := { modelRequests := 1, modelCostUsd := some (1 / 2) } }
      evaluatedCandidate := none
      archiveOutcome := none }
  budget := { maxCostUsd := 1, totalAgentSpend := 1 / 2, evalBudgetUsd := 1, evalSpend := 0 }
  config := { maxCostUsd := 1, evalBudgetUsd := 1 }
  now := "2026-04-07T10:01:00+00:00"

/-- A run in which both agents give their assignments up is sound. -/
theorem run_sound_abstentions : RunSound poolState [abstention "agent-0", abstention "agent-1"] :=
  run_sound poolState_fresh _

example : (applied poolState [abstention "agent-0", abstention "agent-1"]).length = 2 := by
  decide +kernel

end AecBench.Evolution.Swarm
