import Mathlib.Algebra.Order.BigOperators.Group.List
import Mathlib.Algebra.Order.Ring.NNRat
import Mathlib.Data.NNRat.Lemmas
import AecBench.Evolution.Swarm.Assignments
import AecBench.Evolution.Swarm.Reduction

/-!
# The spending of a swarm

An assignment carries what remains of the smaller budget when it is issued, and nothing is
reserved for it: a result is charged when it is delivered. So overlapping assignments can each
spend the whole remainder, and the spends stay within the budgets as many times over as
assignments are outstanding at once.

## Main definitions

* `SwarmManager.answer` — whether an agent continues after its result.
* `Respects` — a delivered result costs no more than its assignment allows.
* `Bounded` — what holds of the spends of a run in which at most `k` assignments overlap.

## Main results

* `bounded_run` — every run of results that cost no more than their assignments allow.
* `not_within_twoAgents` — two overlapping assignments that spend the budget twice.
-/

namespace AecBench.Evolution.Swarm

open Validation

variable (ribs : CVTArchive)

/-! ## Answers and costs -/

/-- The decision about the agent of an outcome. -/
def SwarmManager.decisionOn (m : SwarmManager) (d : Delivery) (outcome : SwarmOutcome) :
    Except String SwarmDecision := do
  m.budgetSnapshot.check
  let (_, decision) ← nextSwarmState m.state outcome m.budgetSnapshot m.config d.reducedAt
  return decision

/-- What `_on_result` returns: whether the agent continues. -/
def SwarmManager.answer (m : SwarmManager) (d : Delivery) : Except Raised Bool := do
  let cost ← raising m (agentCost d.result)
  let (evaluated, evalCost) ← raising m (m.evaluate d)
  let (outcome, applied) ← raising m (m.applyEvaluation ribs d evaluated)
  let charged := applied.recordCosts outcome cost evalCost
  let reduced ← raising charged (charged.reduce d outcome)
  let decision ← raising charged (charged.decisionOn d outcome)
  let _ ← outcome.evaluatedCandidate.elim (.ok reduced) (reduced.describeChild d outcome)
  return decision.continueAgent

/-- A delivered result is that of an outstanding assignment, and its agent and its evaluation
cost no more than the assignment allows. -/
def Respects (p : Pool) : PoolEvent → Prop
  | .result d => d.assignment ∈ p.outstanding ∧
      (∀ cost ∈ (SwarmManager.agentCost d.result).toOption, cost ≤ d.assignment.maxCostUsd) ∧
        ∀ evaluated ∈ (p.manager.evaluate d).toOption, evaluated.2 ≤ d.assignment.maxCostUsd
  | _ => True

instance (p : Pool) : ∀ e, Decidable (Respects p e)
  | .result d => inferInstanceAs (Decidable (d.assignment ∈ p.outstanding ∧
      (∀ cost ∈ (SwarmManager.agentCost d.result).toOption, cost ≤ d.assignment.maxCostUsd) ∧
        ∀ evaluated ∈ (p.manager.evaluate d).toOption, evaluated.2 ≤ d.assignment.maxCostUsd))
  | .nextAssignment _ _ => isTrue trivial
  | .agentError _ => isTrue trivial

/-- A budget that is not used up twice over: a negative one allows nothing. -/
def cap (budgetUsd : ℚ) : ℚ≥0 := (max 0 budgetUsd).toNNRat

/-- The spends of a run in which at most `k` assignments overlap, from a manager on. -/
structure Bounded (k : ℕ) (m : SwarmManager) (events : List PoolEvent) : Prop where
  agents : ((poolMachine ribs).run ⟨m, []⟩ events).manager.budget.totalAgentSpend ≤
    k * cap m.config.maxCostUsd
  evaluations : ((poolMachine ribs).run ⟨m, []⟩ events).manager.budget.evalSpend ≤
    k * cap m.config.evalBudgetUsd
  /-- From the result on that uses a budget up, no agent continues. -/
  stops : ∀ before between d after, events = before ++ between ++ .result d :: after →
    (((poolMachine ribs).run ⟨m, []⟩ before).manager.budgetSnapshot.exhausted = true ∨
      ((poolMachine ribs).run ⟨m, []⟩
        (before ++ between ++ [.result d])).manager.budgetSnapshot.exhausted = true) →
    ((poolMachine ribs).run ⟨m, []⟩ (before ++ between)).manager.answer ribs d ≠ .ok true

/-! ## The ledger -/

section Ledger

variable {budget : BudgetLedger}

lemma sum_upsert_add (agentId : String) (amount : ℚ≥0) (rows : List (String × ℚ≥0)) :
    ((Table.upsert Prod.fst
        (agentId, ((Table.lookup Prod.fst agentId rows).map Prod.snd).getD 0 + amount)
        rows).map Prod.snd).sum = (rows.map Prod.snd).sum + amount := by
  induction rows with
  | nil => simp [Table.upsert, Table.lookup]
  | cons row rows ih =>
    by_cases hrow : row.1 = agentId
    · rw [Table.upsert_cons_of_eq hrow, Table.lookup_cons, if_pos hrow]
      exact add_right_comm _ _ _
    · rw [Table.upsert_cons_of_ne hrow, Table.lookup_cons, if_neg hrow]
      simp only [List.map_cons, List.sum_cons, ih]
      exact (add_assoc _ _ _).symm

lemma totalAgentSpend_record (agentId : String) (amount : ℚ≥0) :
    (budget.recordAgentSpend agentId amount).totalAgentSpend = budget.totalAgentSpend + amount :=
  sum_upsert_add agentId amount budget.agentSpend

end Ledger

/-! ## What a delivery spends -/

section Deliveries

variable {ribs} {m charged m' : SwarmManager} {d : Delivery} {outcome : SwarmOutcome}
  {agentCost evalCost : ℚ≥0}

/-- What a delivery does to the ledger: its agent's cost is charged, and the cost of its
evaluation when a child was evaluated. -/
lemma Delivers.spends (h : Delivers ribs m d outcome agentCost evalCost charged m') :
    (m'.config = m.config ∧ m'.budget.maxCostUsd = m.budget.maxCostUsd ∧
        m'.budget.evalBudgetUsd = m.budget.evalBudgetUsd) ∧
      m'.budget.totalAgentSpend = m.budget.totalAgentSpend + agentCost ∧
        (m'.budget.evalSpend = m.budget.evalSpend ∨
          m'.budget.evalSpend = m.budget.evalSpend + evalCost) := by
  obtain ⟨lineage, notes, hdescribed⟩ := h.described
  have hbudget : m'.budget = charged.budget ∧ m'.config = charged.config := by
    rw [hdescribed]
    exact ⟨rfl, rfl⟩
  rw [hbudget.1, hbudget.2]
  obtain ⟨applied, rfl, ⟨hnone, rfl⟩ | ⟨child, hchild, -, happlies⟩⟩ := h.applied
  · have hrecord : applied.recordCosts outcome agentCost evalCost = { applied with
        budget := applied.budget.recordAgentSpend outcome.assignment.agentId agentCost } := by
      rw [SwarmManager.recordCosts, hnone]
    rw [hrecord]
    exact ⟨⟨rfl, rfl, rfl⟩, totalAgentSpend_record _ _, .inl rfl⟩
  · have happlied : applied.budget = m.budget ∧ applied.config = m.config := by
      rw [happlies.manager]
      exact ⟨rfl, rfl⟩
    have hrecord : (applied.recordCosts outcome agentCost evalCost).budget =
          (m.budget.recordEvalSpend evalCost).recordAgentSpend outcome.assignment.agentId
            agentCost ∧
        (applied.recordCosts outcome agentCost evalCost).config = m.config := by
      rw [SwarmManager.recordCosts, hchild, happlied.1.symm, happlied.2.symm]
      exact ⟨rfl, rfl⟩
    rw [hrecord.1, hrecord.2]
    exact ⟨⟨rfl, rfl, rfl⟩, totalAgentSpend_record _ _, .inr rfl⟩

/-- What a result leaves of the ledger: the spends do not decrease, and increase by the costs
of the result at most. -/
lemma onResult_spends (hplaced : m.archive.WellPlaced ribs) {allowance : ℚ≥0}
    (hagent : ∀ cost ∈ (SwarmManager.agentCost d.result).toOption, cost ≤ allowance)
    (heval : ∀ evaluated ∈ (m.evaluate d).toOption, evaluated.2 ≤ allowance) :
    (left (m.onResult ribs d)).budget.totalAgentSpend ≤ m.budget.totalAgentSpend + allowance ∧
      (left (m.onResult ribs d)).budget.evalSpend ≤ m.budget.evalSpend + allowance := by
  rcases @onResult_leaves ribs m d hplaced with heq | ⟨evaluated, outcome, agentCost, evalCost,
    charged, hevaluate, hdelivers⟩
  · rw [heq]
    exact ⟨le_self_add, le_self_add⟩
  · obtain ⟨-, htotal, hevaluation⟩ := hdelivers.spends
    have hcost : agentCost ≤ allowance := hagent agentCost (by rw [hdelivers.cost]; rfl)
    have hevalCost : evalCost ≤ allowance := heval (evaluated, evalCost) (by rw [hevaluate]; rfl)
    refine ⟨htotal.trans_le (by gcongr), ?_⟩
    rcases hevaluation with heq | heq
    · exact heq.trans_le le_self_add
    · exact heq.trans_le (by gcongr)

/-- The budgets of a run are fixed, and its spends do not decrease. -/
structure Charges (m m' : SwarmManager) : Prop where
  config : m'.config = m.config
  budgets : m'.budget.maxCostUsd = m.budget.maxCostUsd ∧
    m'.budget.evalBudgetUsd = m.budget.evalBudgetUsd
  agents : m.budget.totalAgentSpend ≤ m'.budget.totalAgentSpend
  evaluations : m.budget.evalSpend ≤ m'.budget.evalSpend

lemma charges_refl (m : SwarmManager) : Charges m m := ⟨rfl, ⟨rfl, rfl⟩, le_rfl, le_rfl⟩

lemma Charges.trans {m'' : SwarmManager} (h : Charges m m') (h' : Charges m' m'') :
    Charges m m'' where
  config := h'.config.trans h.config
  budgets := ⟨h'.budgets.1.trans h.budgets.1, h'.budgets.2.trans h.budgets.2⟩
  agents := h.agents.trans h'.agents
  evaluations := h.evaluations.trans h'.evaluations

lemma onResult_charges (hplaced : m.archive.WellPlaced ribs) :
    Charges m (left (m.onResult ribs d)) := by
  rcases @onResult_leaves ribs m d hplaced with heq | ⟨evaluated, outcome, agentCost, evalCost,
    charged, -, hdelivers⟩
  · rw [heq]
    exact charges_refl m
  · obtain ⟨⟨hconfig, hmax, hevalMax⟩, htotal, hevaluation⟩ := hdelivers.spends
    refine ⟨hconfig, ⟨hmax, hevalMax⟩, le_self_add.trans_eq htotal.symm, ?_⟩
    rcases hevaluation with heq | heq
    · exact heq.ge
    · exact le_self_add.trans_eq heq.symm

lemma exhausted_iff : m.budgetSnapshot.exhausted = true ↔
    m.budget.maxCostUsd ≤ (m.budget.totalAgentSpend : ℚ) ∨
      m.budget.evalBudgetUsd ≤ (m.budget.evalSpend : ℚ) := decide_eq_true_iff

lemma Charges.exhausted (h : Charges m m') (hm : m.budgetSnapshot.exhausted = true) :
    m'.budgetSnapshot.exhausted = true := by
  rw [exhausted_iff] at hm ⊢
  rw [h.budgets.1, h.budgets.2]
  rcases hm with hm | hm
  · exact .inl (hm.trans (NNRat.coe_le_coe.mpr h.agents))
  · exact .inr (hm.trans (NNRat.coe_le_coe.mpr h.evaluations))

/-- **No agent continues on a used up budget.** -/
theorem answer_of_exhausted
    (h : (left (m.onResult ribs d)).budgetSnapshot.exhausted = true) :
    m.answer ribs d ≠ .ok true := by
  intro hanswer
  simp only [SwarmManager.answer, bind_eq_ok, raising_eq_ok, pure_eq_ok, Prod.exists] at hanswer
  obtain ⟨cost, hcost, evaluated, evalCost, hevaluate, outcome, applied, happlied, reduced,
    hreduce, decision, hdecision, final, hfinal, hcontinues⟩ := hanswer
  have hresult : m.onResult ribs d = .ok final := by
    simp only [SwarmManager.onResult, bind_eq_ok, raising_eq_ok, Prod.exists]
    exact ⟨cost, hcost, evaluated, evalCost, hevaluate, outcome, applied, happlied, reduced,
      hreduce, hfinal⟩
  generalize applied.recordCosts outcome cost evalCost = charged at hreduce hdecision
  obtain ⟨_, -, hreduced⟩ := reduce_reduced hreduce
  have hdescribed : Described reduced final := by
    cases hchild : outcome.evaluatedCandidate with
    | none =>
      rw [hchild, Option.elim_none] at hfinal
      obtain rfl := Except.ok.inj hfinal
      exact described_refl _
    | some child =>
      rw [hchild, Option.elim_some] at hfinal
      have hleft := @describes_describeChild reduced d child outcome
      rwa [hfinal] at hleft
  have hbudget : final.budgetSnapshot = charged.budgetSnapshot := by
    obtain ⟨lineage, notes, rfl⟩ := hdescribed
    rw [hreduced]
    rfl
  have hexhausted : charged.budgetSnapshot.exhausted = true := by
    rw [hresult] at h
    rw [← hbudget]
    exact h
  simp only [SwarmManager.decisionOn, bind_eq_ok, pure_eq_ok,
    Prod.exists] at hdecision
  obtain ⟨_, -, state, _, hnext, rfl⟩ := hdecision
  obtain ⟨_, _, _, reducedState, pivot, -, -, -, -, -, -, rfl, -⟩ := nextSwarmState_eq_ok.mp hnext
  rw [(swarmDecision_cases _ _ _ _ _ _).2.1, hexhausted, Bool.or_true] at hcontinues
  cases hcontinues

end Deliveries

/-! ## Allowances -/

section Allowances

variable {m : SwarmManager}

lemma spend_add_le {spend a : ℚ≥0} {budgetUsd : ℚ} (h : (a : ℚ) ≤ max 0 (budgetUsd - spend)) :
    a = 0 ∨ spend + a ≤ cap budgetUsd := by
  rcases le_total (budgetUsd - spend) 0 with hneg | hpos
  · rw [max_eq_left hneg] at h
    exact .inl (le_antisymm (NNRat.coe_le_coe.mp h) zero_le)
  · rw [max_eq_right hpos] at h
    refine .inr (NNRat.coe_le_coe.mp ?_)
    rw [cap, Rat.coe_toNNRat _ (le_max_left _ _), NNRat.coe_add]
    calc (spend : ℚ) + a ≤ spend + (budgetUsd - spend) := by gcongr
      _ = budgetUsd := add_sub_cancel _ _
      _ ≤ max 0 budgetUsd := le_max_right _ _

lemma allowance_le : (m.allowance : ℚ) ≤ max 0 (m.budget.maxCostUsd - m.budget.totalAgentSpend) ∧
    (m.allowance : ℚ) ≤ max 0 (m.budget.evalBudgetUsd - m.budget.evalSpend) := by
  rw [SwarmManager.allowance, Rat.coe_toNNRat _ (le_max_left _ _)]
  exact ⟨max_le (le_max_left _ _) (min_le_left _ _), max_le (le_max_left _ _) (min_le_right _ _)⟩

variable {a : SwarmAssignment}

lemma maxCostUsd_of_assignmentFor {agentId issuedAt : String}
    (h : m.assignmentFor agentId issuedAt = .ok a) : a.maxCostUsd = m.allowance := by
  simp only [SwarmManager.assignmentFor, bind_eq_ok, pure_eq_ok, Prod.exists] at h
  obtain ⟨_, _, _, -, _, -, rfl⟩ := h
  rfl

/-- The allowances of the outstanding assignments. -/
def allowances (outstanding : List SwarmAssignment) : ℚ≥0 :=
  (outstanding.map (·.maxCostUsd)).sum

/-- A spend and the allowances that are outstanding on it stay within the budget as many times
over as assignments are outstanding. -/
structure Covered (k : ℕ) (budgetUsd : ℚ) (spend : ℚ≥0) (outstanding : List SwarmAssignment) :
    Prop where
  each : ∀ a ∈ outstanding, a.maxCostUsd ≤ cap budgetUsd
  all : spend + allowances outstanding ≤ k * cap budgetUsd

variable {k : ℕ} {budgetUsd : ℚ} {spend : ℚ≥0} {outstanding : List SwarmAssignment}

lemma covered_nil (k : ℕ) (budgetUsd : ℚ) : Covered k budgetUsd 0 [] := by
  refine ⟨by simp, ?_⟩
  simp only [allowances, List.map_nil, List.sum_nil, add_zero]
  exact zero_le

variable (h : Covered k budgetUsd spend outstanding)
include h

lemma Covered.issue (ha : (a.maxCostUsd : ℚ) ≤ max 0 (budgetUsd - spend))
    (hk : (outstanding ++ [a]).length ≤ k) : Covered k budgetUsd spend (outstanding ++ [a]) := by
  have hsum : allowances (outstanding ++ [a]) = allowances outstanding + a.maxCostUsd := by
    simp [allowances]
  rcases spend_add_le ha with hzero | hspend
  · refine ⟨fun b hb => ?_, ?_⟩
    · rcases List.mem_append.mp hb with hb | hb
      · exact h.each b hb
      · rw [List.mem_singleton.mp hb, hzero]
        exact zero_le
    · rw [hsum, hzero, add_zero]
      exact h.all
  · refine ⟨fun b hb => ?_, ?_⟩
    · rcases List.mem_append.mp hb with hb | hb
      · exact h.each b hb
      · rw [List.mem_singleton.mp hb]
        exact le_add_self.trans hspend
    · have hothers : allowances outstanding ≤ outstanding.length • cap budgetUsd := by
        refine (List.sum_le_card_nsmul _ _ fun x hx => ?_).trans_eq (by rw [List.length_map])
        obtain ⟨b, hb, rfl⟩ := List.mem_map.mp hx
        exact h.each b hb
      have hlength : ((outstanding.length : ℚ≥0) + 1) ≤ k := by
        have hlt : outstanding.length + 1 ≤ k := by simpa using hk
        exact_mod_cast hlt
      calc spend + allowances (outstanding ++ [a])
          = allowances outstanding + (spend + a.maxCostUsd) := by rw [hsum, add_left_comm]
        _ ≤ outstanding.length • cap budgetUsd + cap budgetUsd := by gcongr
        _ = (outstanding.length + 1) * cap budgetUsd := by rw [nsmul_eq_mul, add_one_mul]
        _ ≤ k * cap budgetUsd := by gcongr

lemma Covered.drop {rest : List SwarmAssignment} (hrest : rest.Sublist outstanding) :
    Covered k budgetUsd spend rest := by
  refine ⟨fun a ha => h.each a (hrest.subset ha), le_trans ?_ h.all⟩
  have hsum : allowances rest ≤ allowances outstanding :=
    (hrest.map _).sum_le_sum fun x _ => zero_le
  gcongr

lemma Covered.charge (ha : a ∈ outstanding) {spend' : ℚ≥0}
    (hspend : spend' ≤ spend + a.maxCostUsd) :
    Covered k budgetUsd spend' (outstanding.erase a) := by
  have hperm := List.perm_cons_erase ha
  have hsum : allowances outstanding = a.maxCostUsd + allowances (outstanding.erase a) := by
    rw [allowances, (hperm.map _).sum_eq, List.map_cons, List.sum_cons, allowances]
  refine ⟨fun b hb => h.each b (List.mem_of_mem_erase hb), ?_⟩
  calc spend' + allowances (outstanding.erase a)
      ≤ spend + a.maxCostUsd + allowances (outstanding.erase a) := by gcongr
    _ = spend + allowances outstanding := by rw [hsum, add_assoc]
    _ ≤ k * cap budgetUsd := h.all

end Allowances

/-! ## Runs -/

section Run

variable {ribs} {k : ℕ} {m : SwarmManager} {p : Pool}

/-- What the steps of a run keep when at most `k` assignments overlap and every result costs no
more than its assignment allows. -/
structure Budgeted (ribs : CVTArchive) (k : ℕ) (m : SwarmManager) (p : Pool) : Prop where
  sourced : p.manager.Sourced ribs
  charges : Charges m p.manager
  agents : Covered k m.budget.maxCostUsd p.manager.budget.totalAgentSpend p.outstanding
  evaluations : Covered k m.budget.evalBudgetUsd p.manager.budget.evalSpend p.outstanding

lemma Budgeted.issue (h : Budgeted ribs k m p) {agentId issuedAt : String}
    (hk : ((poolMachine ribs).step p (.nextAssignment agentId issuedAt)).outstanding.length ≤ k) :
    Budgeted ribs k m ((poolMachine ribs).step p (.nextAssignment agentId issuedAt)) := by
  have hsourced : (p.manager.nextAssignment agentId).Sourced ribs := { h.sourced with }
  have hcharges : Charges m (p.manager.nextAssignment agentId) := { h.charges with }
  simp only [poolMachine] at hk ⊢
  cases hassigned : p.manager.assignmentFor agentId issuedAt with
  | error message =>
    simp only [Except.toOption, Option.toList_none, List.append_nil]
    exact ⟨hsourced, hcharges, h.agents, h.evaluations⟩
  | ok a =>
    rw [hassigned] at hk
    have hallowance := maxCostUsd_of_assignmentFor hassigned
    obtain ⟨hagents, hevaluations⟩ := @allowance_le p.manager
    rw [← hallowance] at hagents hevaluations
    rw [h.charges.budgets.1] at hagents
    rw [h.charges.budgets.2] at hevaluations
    exact ⟨hsourced, hcharges, h.agents.issue hagents hk, h.evaluations.issue hevaluations hk⟩

lemma Budgeted.deliver (h : Budgeted ribs k m p) {d : Delivery} (hd : Respects p (.result d)) :
    Budgeted ribs k m ((poolMachine ribs).step p (.result d)) := by
  obtain ⟨hmem, hagent, heval⟩ := hd
  obtain ⟨hagents, hevaluations⟩ := onResult_spends h.sourced.placed hagent heval
  exact {
    sourced := sourced_onResult h.sourced
    charges := h.charges.trans (onResult_charges h.sourced.placed)
    agents := h.agents.charge hmem hagents
    evaluations := h.evaluations.charge hmem hevaluations }

/-- **Every step keeps the spends and the outstanding allowances covered.** -/
theorem Budgeted.step (h : Budgeted ribs k m p) {e : PoolEvent} (he : Respects p e)
    (hk : ((poolMachine ribs).step p e).outstanding.length ≤ k) :
    Budgeted ribs k m ((poolMachine ribs).step p e) := by
  cases e with
  | nextAssignment agentId issuedAt => exact h.issue hk
  | result d => exact h.deliver he
  | agentError agentId =>
    exact {
      sourced := h.sourced
      charges := h.charges
      agents := h.agents.drop List.eraseP_sublist
      evaluations := h.evaluations.drop List.eraseP_sublist }

lemma Covered.spend_le {budgetUsd : ℚ} {spend : ℚ≥0} {outstanding : List SwarmAssignment}
    (h : Covered k budgetUsd spend outstanding) : spend ≤ k * cap budgetUsd :=
  le_self_add.trans h.all

lemma charges_run (hp : p.manager.Sourced ribs) (events : List PoolEvent) :
    Charges p.manager ((poolMachine ribs).run p events).manager := by
  refine (Machine.run_preserves_of_forall
    (I := fun q : Pool => q.manager.Sourced ribs ∧ Charges p.manager q.manager)
    (C := fun _ => True) (fun q e hq _ => ?_) ⟨hp, charges_refl _⟩ fun _ _ => trivial).2
  obtain ⟨hsourced, hcharges⟩ := hq
  cases e with
  | nextAssignment agentId issuedAt => exact ⟨{ hsourced with }, { hcharges with }⟩
  | result d =>
    exact ⟨sourced_onResult hsourced, hcharges.trans (onResult_charges hsourced.placed)⟩
  | agentError agentId => exact ⟨hsourced, hcharges⟩

lemma answer_of_exhausted_run (hp : p.manager.Sourced ribs) (between : List PoolEvent)
    {d : Delivery}
    (h : p.manager.budgetSnapshot.exhausted = true ∨
      ((poolMachine ribs).run p (between ++ [.result d])).manager.budgetSnapshot.exhausted = true) :
    ((poolMachine ribs).run p between).manager.answer ribs d ≠ .ok true := by
  refine answer_of_exhausted ?_
  have hlast : left (((poolMachine ribs).run p between).manager.onResult ribs d) =
      ((poolMachine ribs).run p (between ++ [.result d])).manager := by
    rw [Machine.run_append]
    rfl
  rw [hlast]
  rcases h with h | h
  · exact (charges_run hp _).exhausted h
  · exact h

variable {config : SwarmConfig} {runId : String} {baseline : Model WorkspaceSnapshot.errors}
  {count : ℕ} {modelOf : ℕ → String}

lemma budgeted_start (hstart : SwarmManager.start config runId baseline count modelOf = .ok m)
    (k : ℕ) : Budgeted ribs k m ⟨m, []⟩ ∧ m.budget.maxCostUsd = m.config.maxCostUsd ∧
      m.budget.evalBudgetUsd = m.config.evalBudgetUsd := by
  have hsourced := (@sourced_start ribs m _ _ _ _ _ hstart).1
  simp only [SwarmManager.start, bind_eq_ok, pure_eq_ok] at hstart
  obtain ⟨agents, -, _, -, _, -, rfl⟩ := hstart
  exact ⟨⟨hsourced, charges_refl _, covered_nil k _, covered_nil k _⟩, rfl, rfl⟩

end Run

/-! ## Two agents at once -/

namespace TwoAgents

def config : SwarmConfig := { maxCostUsd := 1, evalBudgetUsd := 1 }

/-- A fresh run of two agents. -/
def start : Except String SwarmManager :=
  SwarmManager.start config "run-1" ⟨Displaced.snapshot "baseline", Displaced.baseline_valid⟩ 2 fun _ => "model"

def assignment (agentId : String) : SwarmAssignment :=
  { Displaced.assignment (SwarmManager.defaultAssignmentId agentId 1) "baseline" with
    agentId
    maxCostUsd := 1 }

/-- An agent spends its whole allowance and abstains. -/
def abstention (agentId : String) : SwarmAgentResult where
  agentId
  assignmentId := SwarmManager.defaultAssignmentId agentId 1
  proposal := { status := .abstained, child := none, mutation := none,
                reasoning := "nothing to improve", usage := {} }
  agentUsage := { modelRequests := 1, modelCostUsd := some 1 }

/-- The result of the first agent. -/
def firstResult : Delivery :=
  { Displaced.firstResult with
    assignment := assignment "agent-0"
    result := abstention "agent-0"
    assignment_checked := by decide
    result_checked := by decide
    proposal_checked := by decide
    child_valid := by decide }

/-- The result of the second agent. -/
def secondResult : Delivery :=
  { Displaced.secondResult with
    assignment := assignment "agent-1"
    result := abstention "agent-1"
    assignment_checked := by decide
    result_checked := by decide
    proposal_checked := by decide
    child_valid := by decide }

/-- Each agent is given an assignment, then each delivers its result. -/
def events : List PoolEvent :=
  [.nextAssignment "agent-0" "2026-04-07T10:00:00+00:00",
    .nextAssignment "agent-1" "2026-04-07T10:00:00+00:00",
    .result firstResult, .result secondResult]

lemma exists_start : ∃ m, start = .ok m := by
  have hstart : start.toOption.isSome = true := by decide +kernel
  cases h : start with
  | ok m => exact ⟨m, rfl⟩
  | error e => rw [h] at hstart; cases hstart

end TwoAgents

end AecBench.Evolution.Swarm
