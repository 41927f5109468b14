import Mathlib.Algebra.Order.BigOperators.Group.List
import AecBench.Harness.ProgramExecution.Walks

/-!
# What the evidence accounts for

The budget counts the attempts and the recursive calls of a run, and the evidence of the nodes lists
them. Both agree unless a fan-out whose items succeed drops their attempts.

## Main definitions

* `Accounts` — the result of a run accounts for everything.
* `Reportable`, `FanoutsAgree` — what handlers have to do for that.

## Main results

* `budget_of_follows` — the budget counts what the steps claim, within the limits.
* `execution_accounts_iff` — when the result of a run accounts for everything.
* `execution_returns` — what a run returns, and what it can raise.
-/

namespace AecBench.ProgramExecution

open AecBench.Contracts
open Program (Follows Runs Step tally tally_add tally_append tally_cons tally_nil)
open Text (NonEmptyStr)
open Validation

/-! ## The budget -/

/-- The budget counts what was claimed, within the limits. -/
structure Counts (limits : ProgramLimits) (s : Multiset Spend) (budget : RuntimeBudget) : Prop where
  attempts : budget.totalAttempts = attemptsOf s
  recursions : budget.recursiveCalls = recursionsOf s
  attempts_le : budget.totalAttempts ≤ limits.maxTotalAttempts
  recursions_le : budget.recursiveCalls ≤ limits.maxRecursiveCalls

section Budgets

variable {limits : ProgramLimits} {s : Multiset Spend} {w w' : World} {tr : List (Step Op Raised)}

lemma Counts.claimAttempt (h : Counts limits s w.budget) (hok : w.claimAttempt limits = .ok w') :
    Counts limits (.attempt ::ₘ s) w'.budget := by
  rw [World.claimAttempt] at hok
  by_cases hfull : limits.maxTotalAttempts ≤ w.budget.totalAttempts
  · rw [if_pos hfull] at hok; cases hok
  rw [if_neg hfull] at hok
  cases hok
  have hattempts := h.attempts
  refine ⟨?_, ?_, ?_, h.recursions_le⟩
  · rw [attemptsOf_cons_attempt]
    dsimp only
    omega
  · rw [recursionsOf_cons_attempt]
    exact h.recursions
  · dsimp only
    omega

lemma Counts.claimRecursion {nodeId : NonEmptyStr} {node : RecursionLimits} {depth : Depth}
    (h : Counts limits s w.budget) (hok : w.claimRecursion limits nodeId node depth = .ok w') :
    Counts limits (.recursion nodeId depth.toNat ::ₘ s) w'.budget := by
  rw [World.claimRecursion] at hok
  cases hadmitted : admittedDepth limits node depth with
  | error f => rw [hadmitted] at hok; cases hok
  | ok d =>
    rw [hadmitted] at hok
    dsimp only at hok
    by_cases hnode : node.maxCalls ≤ w.nodeCalls nodeId
    · rw [if_pos hnode] at hok; cases hok
    rw [if_neg hnode] at hok
    by_cases hfull : limits.maxRecursiveCalls ≤ w.budget.recursiveCalls
    · rw [if_pos hfull] at hok; cases hok
    rw [if_neg hfull] at hok
    cases hok
    have hrecursions := h.recursions
    refine ⟨?_, ?_, h.attempts_le, ?_⟩
    · rw [attemptsOf_cons_recursion]
      exact h.attempts
    · rw [recursionsOf_cons_recursion, World.countCall]
      dsimp only
      omega
    · rw [World.countCall]
      dsimp only
      omega

lemma Counts.act {step : Step Op Raised} {i : Input} (h : Counts limits s w.budget)
    (hanswer : ((semantics limits).act step.op i w).1 = step.answer) :
    Counts limits (spent step + s) ((semantics limits).act step.op i w).2.budget := by
  obtain ⟨op, answer⟩ := step
  obtain rfl : ((semantics limits).act op i w).1 = answer := hanswer
  cases op with
  | claimAttempt nodeId fanoutIndex =>
    change Counts limits (spent ⟨.claimAttempt nodeId fanoutIndex, (locked _ w).1⟩ + s)
      (locked (w.claimAttempt limits) w).2.budget
    cases hclaim : w.claimAttempt limits with
    | ok w' =>
      have hcounts := h.claimAttempt hclaim
      rwa [← Multiset.singleton_add] at hcounts
    | error f => simpa [locked, spent] using h
  | claimRecursion context depth =>
    change Counts limits (spent ⟨.claimRecursion context depth, (locked _ w).1⟩ + s)
      (locked (w.claimRecursion limits context.nodeId context.recursion depth) w).2.budget
    cases hclaim : w.claimRecursion limits context.nodeId context.recursion depth with
    | ok w' =>
      have hcounts := h.claimRecursion hclaim
      rwa [← Multiset.singleton_add] at hcounts
    | error f => simpa [locked, spent] using h
  | enterSlot context =>
    have hzero : spent ⟨.enterSlot context, ((semantics limits).act (.enterSlot context) i w).1⟩ = 0 :=
      rfl
    rw [hzero, zero_add]
    change Counts limits s (locked (w.enterSlot limits) w).2.budget
    cases henter : w.enterSlot limits with
    | error f => exact h
    | ok w' =>
      rw [World.enterSlot] at henter
      by_cases hfull : (limits.maxParallelism : ℤ) ≤ w.budget.currentParallelism
      · rw [if_pos hfull] at henter; cases henter
      · rw [if_neg hfull] at henter
        cases henter
        exact ⟨h.attempts, h.recursions, h.attempts_le, h.recursions_le⟩
  | leaveSlot context outcome =>
    exact (zero_add s).symm ▸ ⟨h.attempts, h.recursions, h.attempts_le, h.recursions_le⟩
  | take =>
    have hbudget : w.takeItem.2.budget = w.budget := by
      rw [World.takeItem]
      split
      · rfl
      · rfl
    have hzero : spent ⟨.take, ((semantics limits).act .take i w).1⟩ = 0 := rfl
    rw [hzero, zero_add]
    change Counts limits s w.takeItem.2.budget
    rwa [hbudget]
  | execute node walk | openQueue nodeId size | choose | handler arguments context | sleep seconds
  | readBudget => exact (zero_add s).symm ▸ h

/-- **The budget counts what the steps of a run claim**, within the limits of the program. -/
theorem budget_of_follows (h : Follows (semantics limits) tr {} w) :
    Counts limits (tally spent tr) w.budget := by
  refine h.invariant (I := fun t w => Counts limits (tally spent t) w.budget) ?_ ?_
  · exact ⟨by simp, by simp, Nat.zero_le _, Nat.zero_le _⟩
  · intro t step i w hcounts hanswer
    have hstep := hcounts.act hanswer
    rwa [add_comm, ← Program.tally_singleton ProgramExecution.spent step, ← tally_add] at hstep

end Budgets

/-! ## Fan-outs that agree -/

/-- No attempt ends with an exception whose text cannot be reported. -/
def Reportable (tr : List (Step Op Raised)) : Prop := ∀ o, (o, Ending.unreportable) ∉ endings tr

/-- The item of a fan-out succeeds with outputs. -/
def ItemSucceeds (tr : List (Step Op Raised)) (nodeId : NonEmptyStr) (index : ℕ)
    (outputs : JsonObject) : Prop :=
  (some (nodeId, some index), Ending.succeeded outputs) ∈ endings tr

/-- When all items of a fan-out succeed, their outputs have the same names. -/
def FanoutsAgree (tr : List (Step Op Raised)) : Prop :=
  ∀ nodeId size r, ⟨.openQueue nodeId size, r⟩ ∈ tr →
    (∀ i < size, ∃ outputs, ItemSucceeds tr nodeId i outputs) →
      ∀ i j outputs outputs', ItemSucceeds tr nodeId i outputs →
        ItemSucceeds tr nodeId j outputs' → outputPorts outputs = outputPorts outputs'

section Ports

variable {node : ProgramNode} {tr : List (Step Op Raised)} {runs : List InvocationRun}
  {xs : List InvocationResult} {x : InvocationRun} {y : InvocationResult}

lemma copyFields_keys (fields : JsonObject) :
    (Json.copyFields fields).map Prod.fst = fields.map Prod.fst := by
  induction fields with
  | nil => rfl
  | cons f fields ih =>
    obtain ⟨k, v⟩ := f
    rw [Json.copyFields, List.map_cons, List.map_cons, ih]

lemma outputPorts_copyObject (outputs : JsonObject) :
    outputPorts (Json.copyObject outputs) = outputPorts outputs := by
  have hperm : ((Json.copyFields outputs).insertionSort fun f g => f.1 ≤ g.1).map Prod.fst
      |>.Perm (outputs.map Prod.fst) := by
    rw [← copyFields_keys outputs]
    exact (List.perm_insertionSort _ _).map _
  exact ((List.perm_insertionSort _ _).trans
    (hperm.trans (List.perm_insertionSort _ _).symm)).eq_of_pairwise'
      (List.pairwise_insertionSort _ _) (List.pairwise_insertionSort _ _)

lemma InvocationRun.Of.ports (h : x.Of node) (hy : x.result = .ok y)
    {o : Option (NonEmptyStr × Option ℕ)} {outputs : JsonObject}
    (he : (o, .succeeded outputs) ∈ endings x.trace) :
    y.succeeded = true ∧ outputPorts y.outputs = outputPorts outputs := by
  obtain ⟨-, he | hconcludes⟩ := h.mem_endings he
  · cases he
  · rw [hy] at hconcludes
    obtain ⟨hsucceeded, -, houtputs⟩ := hconcludes
    exact ⟨hsucceeded, by rw [houtputs, outputPorts_copyObject]⟩

lemma InvocationRun.Of.exists_succeeded (h : x.Of node) (hy : x.result = .ok y)
    (hsucceeded : y.succeeded = true) :
    ∃ outputs, (some (node.nodeId, x.fanoutIndex), .succeeded outputs) ∈ endings x.trace := by
  obtain ⟨e, hconcludes, he⟩ := h.exists_ending
  rw [hy] at hconcludes
  cases e with
  | succeeded outputs => exact ⟨outputs, he⟩
  | failed | fatal code =>
    rw [hconcludes.1] at hsucceeded
    cases hsucceeded
  | unreportable => exact hconcludes.elim

lemma firstFailed_eq_none : firstFailed xs = none ↔ ∀ y ∈ xs, y.succeeded = true := by
  simp [firstFailed]

lemma exists_result (h : runs.map InvocationRun.result = xs.map .ok) (hx : x ∈ runs) :
    ∃ y ∈ xs, x.result = .ok y := by
  obtain ⟨y, hy, hresult⟩ := List.mem_map.mp (h ▸ List.mem_map_of_mem hx)
  exact ⟨y, hy, hresult.symm⟩

lemma exists_run (h : runs.map InvocationRun.result = xs.map .ok) (hy : y ∈ xs) :
    ∃ x ∈ runs, x.result = .ok y :=
  List.mem_map.mp (h.symm ▸ List.mem_map_of_mem (f := Except.ok) hy)

lemma Performs.itemSucceeds (h : Performs node tr runs) {nodeId : NonEmptyStr} {i : ℕ}
    {outputs : JsonObject} (hitem : ItemSucceeds tr nodeId i outputs) :
    ∃ x ∈ runs, x.fanoutIndex = some i ∧
      (some (nodeId, some i), .succeeded outputs) ∈ endings x.trace := by
  obtain ⟨x, hx, he⟩ := h.mem_endings.mp hitem
  obtain ⟨howner, -⟩ := (h.invoked x hx).mem_endings he
  exact ⟨x, hx, (Prod.mk.inj (Option.some.inj howner)).2.symm, he⟩

lemma Performs.fanoutsAgree (h : Performs node tr runs)
    (hresults : runs.map InvocationRun.result = xs.map .ok) :
    FanoutsAgree tr ↔ (node.body.kind = .fanout → firstFailed xs = none → PortsAgree xs) := by
  constructor
  · intro hagree hkind hsucceeded y hy z hz
    obtain ⟨x, hx, hxy⟩ := exists_run hresults hy
    obtain ⟨x', hx', hxz⟩ := exists_run hresults hz
    have hopened := h.opened hkind (List.ne_nil_of_mem hx)
    obtain ⟨-, -, hindices⟩ := h.queue _ _ _ hopened
    have hindex : ∀ x ∈ runs, ∃ i, x.fanoutIndex = some i := by
      intro x hx
      obtain ⟨i, -, hi⟩ := List.mem_map.mp (hindices ▸ List.mem_map_of_mem hx)
      exact ⟨i, hi.symm⟩
    have hall : ∀ x ∈ runs, ∀ y, x.result = .ok y → ∀ i, x.fanoutIndex = some i →
        ∃ outputs, ItemSucceeds tr node.nodeId i outputs ∧
          outputPorts y.outputs = outputPorts outputs := by
      intro x hx y hxy i hi
      have hy : y ∈ xs := by
        obtain ⟨y', hy', hxy'⟩ := exists_result hresults hx
        obtain rfl := Except.ok.inj (hxy.symm.trans hxy')
        exact hy'
      obtain ⟨outputs, he⟩ :=
        (h.invoked x hx).exists_succeeded hxy (firstFailed_eq_none.mp hsucceeded y hy)
      have hports := ((h.invoked x hx).ports hxy he).2
      rw [hi] at he
      exact ⟨outputs, h.mem_endings.mpr ⟨x, hx, he⟩, hports⟩
    obtain ⟨i, hi⟩ := hindex x hx
    obtain ⟨j, hj⟩ := hindex x' hx'
    obtain ⟨outputs, hitem, hports⟩ := hall x hx y hxy i hi
    obtain ⟨outputs', hitem', hports'⟩ := hall x' hx' z hxz j hj
    rw [hports, hports']
    refine hagree _ _ _ hopened (fun k hk => ?_) i j outputs outputs' hitem hitem'
    obtain ⟨x'', hx'', hk'⟩ : ∃ x ∈ runs, x.fanoutIndex = some k := by
      have hmem : some k ∈ runs.map InvocationRun.fanoutIndex := by
        rw [hindices]
        exact List.mem_map_of_mem (List.mem_range.mpr hk)
      exact List.mem_map.mp hmem
    obtain ⟨y'', -, hxy''⟩ := exists_result hresults hx''
    obtain ⟨outputs'', hitem'', -⟩ := hall x'' hx'' y'' hxy'' k hk'
    exact ⟨outputs'', hitem''⟩
  · intro hagree nodeId size r hopened hall i j outputs outputs' hitem hitem'
    obtain ⟨rfl, hkind, hindices⟩ := h.queue _ _ _ hopened
    have hsucceeded : firstFailed xs = none := by
      rw [firstFailed_eq_none]
      intro y hy
      obtain ⟨x, hx, hxy⟩ := exists_run hresults hy
      obtain ⟨k, hk, hindex⟩ := List.mem_map.mp (hindices ▸ List.mem_map_of_mem hx)
      obtain ⟨outputs, hk⟩ := hall k (List.mem_range.mp hk)
      obtain ⟨x', hx', hindex', he⟩ := h.itemSucceeds hk
      obtain rfl := List.inj_on_of_nodup_map h.distinct hx' hx (hindex'.trans hindex)
      exact ((h.invoked x' hx').ports hxy he).1
    have hports : ∀ k outputs, ItemSucceeds tr node.nodeId k outputs →
        ∃ y ∈ xs, outputPorts y.outputs = outputPorts outputs := by
      intro k outputs hk
      obtain ⟨x, hx, -, he⟩ := h.itemSucceeds hk
      obtain ⟨y, hy, hxy⟩ := exists_result hresults hx
      exact ⟨y, hy, ((h.invoked x hx).ports hxy he).2⟩
    obtain ⟨y, hy, hy'⟩ := hports i outputs hitem
    obtain ⟨z, hz, hz'⟩ := hports j outputs' hitem'
    rw [← hy', ← hz']
    exact hagree hkind hsucceeded y hy z hz

end Ports

/-! ## Evidence of one node -/

/-- The attempts of one invocation of a node, as its evidence lists them. -/
def attemptsAt (evidence : NodeExecutionEvidence) (fanoutIndex : Option ℕ) :
    List OperationAttemptEvidence :=
  evidence.attempts.filter fun a => a.fanoutIndex = fanoutIndex

/-- Every invocation of a node respects the retry policy of the node. -/
def RespectsRetries (node : ProgramNode) (evidence : NodeExecutionEvidence) : Prop :=
  ∀ fanoutIndex,
    Attempts node.nodeId fanoutIndex node.body.retry? 1 (attemptsAt evidence fanoutIndex) ∧
      (attemptsAt evidence fanoutIndex).length ≤ maxAttempts node.body.retry?

/-- The evidence of a node lists what its steps claim. -/
structure Lists (tr : List (Step Op Raised)) (evidence : NodeExecutionEvidence) : Prop where
  attempts : attemptsOf (tally spent tr) = evidence.attempts.length
  recursions : recursionsOf (tally spent tr) =
    (evidence.attempts.map OperationAttemptEvidence.recursiveCalls).sum

section Nodes

variable {node : ProgramNode} {tr : List (Step Op Raised)} {runs : List InvocationRun}
  {xs : List InvocationResult} {evidence : NodeExecutionEvidence}

lemma lists_flatMap (hruns : ∀ x ∈ runs, x.Of node)
    (hresults : runs.map InvocationRun.result = xs.map .ok) :
    attemptsOf (runs.map fun x => tally spent x.trace).sum =
        (xs.flatMap InvocationResult.attempts).length ∧
      recursionsOf (runs.map fun x => tally spent x.trace).sum =
        ((xs.flatMap InvocationResult.attempts).map
          OperationAttemptEvidence.recursiveCalls).sum := by
  induction runs generalizing xs with
  | nil =>
    obtain rfl := List.map_eq_nil_iff.mp hresults.symm
    simp
  | cons x runs ih =>
    obtain ⟨y, ys, rfl, hy, hys⟩ := List.map_eq_cons_iff.mp hresults.symm
    obtain ⟨hattempts, hrecursions⟩ := ih (fun x hx => hruns x (List.mem_cons_of_mem _ hx)) hys.symm
    obtain ⟨-, -, hcount, hcalls⟩ := (hruns x List.mem_cons_self).evidence hy.symm
    rw [List.map_cons, List.sum_cons, attemptsOf_add, recursionsOf_add, hattempts, hrecursions,
      hcount, hcalls, List.flatMap_cons, List.length_append, List.map_append, List.sum_append]
    exact ⟨rfl, rfl⟩

lemma filter_flatMap (hruns : ∀ x ∈ runs, x.Of node)
    (hdistinct : (runs.map InvocationRun.fanoutIndex).Nodup)
    (hresults : runs.map InvocationRun.result = xs.map .ok) (fanoutIndex : Option ℕ) :
    ((xs.flatMap InvocationResult.attempts).filter fun a => a.fanoutIndex = fanoutIndex) = [] ∨
      ∃ x ∈ runs, x.fanoutIndex = fanoutIndex ∧ ∃ y, x.result = .ok y ∧
        ((xs.flatMap InvocationResult.attempts).filter fun a => a.fanoutIndex = fanoutIndex) =
          y.attempts := by
  induction runs generalizing xs with
  | nil =>
    obtain rfl := List.map_eq_nil_iff.mp hresults.symm
    exact .inl rfl
  | cons x runs ih =>
    obtain ⟨y, ys, rfl, hy, hys⟩ := List.map_eq_cons_iff.mp hresults.symm
    rw [List.map_cons, List.nodup_cons] at hdistinct
    have hrest := ih (fun x hx => hruns x (List.mem_cons_of_mem _ hx)) hdistinct.2 hys.symm
    obtain ⟨hshape, -⟩ := (hruns x List.mem_cons_self).evidence hy.symm
    rw [List.flatMap_cons, List.filter_append]
    by_cases hindex : x.fanoutIndex = fanoutIndex
    · -- The other invocations have other indices.
      have hself : (y.attempts.filter fun a => a.fanoutIndex = fanoutIndex) = y.attempts :=
        List.filter_eq_self.mpr fun a ha => by simpa [hindex] using (hshape.owned a ha).2
      have hnone :
          ((ys.flatMap InvocationResult.attempts).filter fun a => a.fanoutIndex = fanoutIndex) =
            [] := by
        rcases hrest with hnil | ⟨x', hx', hindex', -⟩
        · exact hnil
        · exact absurd (List.mem_map.mpr ⟨x', hx', hindex'.trans hindex.symm⟩) hdistinct.1
      rw [hself, hnone, List.append_nil]
      exact .inr ⟨x, List.mem_cons_self, hindex, y, hy.symm, rfl⟩
    · have hnone : (y.attempts.filter fun a => a.fanoutIndex = fanoutIndex) = [] := by
        refine List.filter_eq_nil_iff.mpr fun a ha => ?_
        rw [decide_eq_true_eq, (hshape.owned a ha).2]
        exact hindex
      rw [hnone, List.nil_append]
      rcases hrest with hnil | ⟨x', hx', hfacts⟩
      · exact .inl hnil
      · exact .inr ⟨x', List.mem_cons_of_mem _ hx', hfacts⟩

lemma respectsRetries_nil (h : evidence.attempts = []) : RespectsRetries node evidence := by
  intro fanoutIndex
  rw [attemptsAt, h]
  exact ⟨attempts_nil, Nat.zero_le _⟩

lemma Performs.lists (h : Performs node tr runs)
    (hresults : runs.map InvocationRun.result = xs.map .ok)
    (hattempts : evidence.attempts = xs.flatMap InvocationResult.attempts) :
    Lists tr evidence ∧ RespectsRetries node evidence := by
  obtain ⟨hcount, hcalls⟩ := lists_flatMap h.invoked hresults
  refine ⟨⟨by rw [h.spent, hcount, hattempts], by rw [h.spent, hcalls, hattempts]⟩, fun i => ?_⟩
  rw [attemptsAt, hattempts]
  rcases filter_flatMap h.invoked h.distinct hresults i with hnil | ⟨x, hx, rfl, y, hy, hself⟩
  · rw [hnil]
    exact ⟨attempts_nil, Nat.zero_le _⟩
  · rw [hself]
    obtain ⟨hshape, hbound, -⟩ := (h.invoked x hx).evidence hy
    exact ⟨hshape, hbound⟩

/-- **What the evidence of a visit lists**: everything, or, for a fan-out that does not agree,
nothing of the attempts that were made. -/
theorem Concluded.lists {x : ExecutedNode} (h : Concluded node runs (.ok x))
    (hperforms : Performs node tr runs) :
    Reportable tr ∧ RespectsRetries node x.evidence ∧
      ((FanoutsAgree tr ∧ Lists tr x.evidence) ∨
        ¬ FanoutsAgree tr ∧ x.evidence.attempts = [] ∧ 0 < attemptsOf (tally spent tr)) := by
  have hreportable : ∀ {xs : List InvocationResult}, runs.map InvocationRun.result = xs.map .ok →
      Reportable tr := by
    intro xs hresults o he
    obtain ⟨x, hx, he⟩ := hperforms.mem_endings.mp he
    obtain ⟨y, -, hy⟩ := exists_result hresults hx
    obtain ⟨-, he | hconcludes⟩ := (hperforms.invoked x hx).mem_endings he
    · cases he
    · rw [hy] at hconcludes
      exact hconcludes
  cases h with
  | idle hruns hattempts =>
    subst hruns
    have hresults : ([] : List InvocationRun).map InvocationRun.result =
      ([] : List InvocationResult).map .ok := rfl
    refine ⟨hreportable hresults, respectsRetries_nil hattempts, .inl ⟨?_, ?_⟩⟩
    · exact (hperforms.fanoutsAgree hresults).mpr fun _ _ y hy => absurd hy List.not_mem_nil
    · exact (hperforms.lists hresults hattempts).1
  | reported xs hresults hreports hkind hports =>
    obtain ⟨hlists, hretries⟩ := hperforms.lists hresults hreports.attempts
    exact ⟨hreportable hresults, hretries,
      .inl ⟨(hperforms.fanoutsAgree hresults).mpr hports, hlists⟩⟩
  | inconsistent xs hresults hkind hsucceeded hports =>
    refine ⟨hreportable hresults, respectsRetries_nil rfl, .inr ⟨fun hagree => ?_, rfl, ?_⟩⟩
    · exact hports ((hperforms.fanoutsAgree hresults).mp hagree hkind hsucceeded)
    · -- The outputs of some item differ from others, so there is an item, which was attempted.
      obtain ⟨y, hy⟩ : ∃ y, y ∈ xs := by
        by_contra hnone
        exact hports fun y hy => absurd ⟨y, hy⟩ hnone
      obtain ⟨x, hx, hxy⟩ := exists_run hresults hy
      have hne := (hperforms.invoked x hx).attempts_ne_nil hxy
        (firstFailed_eq_none.mp hsucceeded y hy)
      rw [hperforms.spent, (lists_flatMap hperforms.invoked hresults).1]
      refine List.length_pos_iff.mpr fun hnil => hne ?_
      exact List.flatMap_eq_nil_iff.mp hnil y hy

end Nodes

/-! ## Evidence of a run -/

/-- The result of a run accounts for everything: it has one entry of evidence for every node, its
totals are those of the entries and within the limits, and every invocation respects the retry
policy of its node. -/
structure Accounts (program : CompiledExecutionProgram) (r : ProgramExecutionResult) : Prop where
  nodes : r.nodeEvidence.map NodeExecutionEvidence.nodeId = program.topologicalOrder
  attempts : r.totalAttempts = (r.nodeEvidence.map fun e => e.attempts.length).sum
  recursions : r.recursiveCalls = (r.nodeEvidence.map fun e =>
    (e.attempts.map OperationAttemptEvidence.recursiveCalls).sum).sum
  attempts_le : r.totalAttempts ≤ program.limits.maxTotalAttempts
  recursions_le : r.recursiveCalls ≤ program.limits.maxRecursiveCalls
  retries : ∀ node ∈ program.nodes, ∀ e ∈ r.nodeEvidence, e.nodeId = node.nodeId →
    RespectsRetries node e

/-- A run gives back a result that accounts for everything. -/
def AccountsFor (program : CompiledExecutionProgram) (r : Except Raised ProgramExecutionResult) :
    Prop := ∃ result, r = .ok result ∧ Accounts program result

section Programs

variable {digest : Json → String} {program : CompiledExecutionProgram}
  {registry : OperationRegistry} {walk walk' : Walk} {w w' : World}
  {visits : List Visit} {tr : List (Step Op Raised)}

/-- What each visit of a walk does. -/
def Performed (visits : List Visit) : Prop :=
  (visits.map fun v => v.node.nodeId).Nodup ∧
    ∀ v ∈ visits, ∃ runs, Performs v.node v.trace runs ∧ Concluded v.node runs (.ok v.executed)

lemma Visits.performed {ids : List NonEmptyStr} {limits : ProgramLimits}
    (h : Visits digest program registry limits ids walk w visits walk' w') (hnodup : ids.Nodup) :
    Performed visits :=
  ⟨h.nodes ▸ hnodup, fun v hv => (h.concluded v hv).2⟩

/-- The trace of a walk, with what follows it. -/
def whole (visits : List Visit) (t : List (Step Op Raised)) : List (Step Op Raised) :=
  visits.flatMap Visit.trace ++ t

variable {t : List (Step Op Raised)}

lemma mem_endings_whole {e : Option (NonEmptyStr × Option ℕ) × Ending} :
    e ∈ endings (whole visits t) ↔ (∃ v ∈ visits, e ∈ endings v.trace) ∨ e ∈ endings t := by
  rw [whole, endings_append, List.mem_append]
  refine or_congr ?_ Iff.rfl
  simp only [mem_endings, List.mem_flatMap]
  constructor
  · rintro ⟨step, ⟨v, hv, hstep⟩, hending⟩
    exact ⟨v, hv, step, hstep, hending⟩
  · rintro ⟨v, hv, step, hstep, hending⟩
    exact ⟨step, ⟨v, hv, hstep⟩, hending⟩

lemma Performed.owner_eq (h : Performed visits) {v : Visit} (hv : v ∈ visits)
    {nodeId : NonEmptyStr} {i : Option ℕ} {e : Ending}
    (he : (some (nodeId, i), e) ∈ endings v.trace) : nodeId = v.node.nodeId := by
  obtain ⟨runs, hperforms, -⟩ := h.2 v hv
  obtain ⟨x, hx, he⟩ := hperforms.mem_endings.mp he
  exact (Prod.mk.inj (Option.some.inj ((hperforms.invoked x hx).mem_endings he).1)).1

lemma Performed.mem_endings (h : Performed visits) {v : Visit} (hv : v ∈ visits) {i : Option ℕ}
    {e : Ending} (ht : ∀ i e, (some (v.node.nodeId, i), e) ∉ endings t) :
    (some (v.node.nodeId, i), e) ∈ endings (whole visits t) ↔
      (some (v.node.nodeId, i), e) ∈ endings v.trace := by
  rw [mem_endings_whole]
  constructor
  · rintro (⟨v', hv', he⟩ | he)
    · obtain rfl := List.inj_on_of_nodup_map h.1 hv hv' (h.owner_eq hv' he)
      exact he
    · exact absurd he (ht i e)
  · exact fun he => .inl ⟨v, hv, he⟩

lemma Performed.reportable (h : Performed visits) : Reportable (visits.flatMap Visit.trace) := by
  intro o he
  rw [← List.append_nil (visits.flatMap Visit.trace)] at he
  rcases (mem_endings_whole (t := [])).mp he with ⟨v, hv, he⟩ | he
  · obtain ⟨runs, hperforms, hconcluded⟩ := h.2 v hv
    exact (hconcluded.lists hperforms).1 o he
  · exact absurd he List.not_mem_nil

lemma Performed.fanoutsAgree (h : Performed visits) (ht : endings t = [])
    (hopens : ∀ step ∈ t, ¬ Opens step) :
    FanoutsAgree (whole visits t) ↔ ∀ v ∈ visits, FanoutsAgree v.trace := by
  constructor
  · intro hagree v hv nodeId size r hopened hall i j outputs outputs' hitem hitem'
    obtain ⟨runs, hperforms, -⟩ := h.2 v hv
    obtain ⟨rfl, -⟩ := hperforms.queue _ _ _ hopened
    have hmem : ∀ k o, ItemSucceeds v.trace v.node.nodeId k o →
        ItemSucceeds (whole visits t) v.node.nodeId k o := fun k o =>
      (h.mem_endings hv (by simp [ht])).mpr
    refine hagree v.node.nodeId size r ?_ (fun k hk => ?_) i j outputs outputs' (hmem _ _ hitem)
      (hmem _ _ hitem')
    · exact List.mem_append_left _ (List.mem_flatMap.mpr ⟨v, hv, hopened⟩)
    · obtain ⟨o, ho⟩ := hall k hk
      exact ⟨o, hmem _ _ ho⟩
  · intro hagree nodeId size r hopened hall i j outputs outputs' hitem hitem'
    rcases List.mem_append.mp hopened with hopened | hopened
    · obtain ⟨v, hv, hopened⟩ := List.mem_flatMap.mp hopened
      obtain ⟨runs, hperforms, -⟩ := h.2 v hv
      obtain ⟨rfl, -⟩ := hperforms.queue _ _ _ hopened
      have hmem : ∀ k o, ItemSucceeds (whole visits t) v.node.nodeId k o →
          ItemSucceeds v.trace v.node.nodeId k o := fun k o =>
        (h.mem_endings hv (by simp [ht])).mp
      refine hagree v hv v.node.nodeId size r hopened (fun k hk => ?_) i j outputs outputs'
        (hmem _ _ hitem) (hmem _ _ hitem')
      obtain ⟨o, ho⟩ := hall k hk
      exact ⟨o, hmem _ _ ho⟩
    · exact absurd trivial (hopens _ hopened)

lemma spent_flatMap (visits : List Visit) :
    attemptsOf (tally spent (visits.flatMap Visit.trace)) =
        (visits.map fun v => attemptsOf (tally spent v.trace)).sum ∧
      recursionsOf (tally spent (visits.flatMap Visit.trace)) =
        (visits.map fun v => recursionsOf (tally spent v.trace)).sum := by
  induction visits with
  | nil => simp
  | cons v visits ih =>
    rw [List.flatMap_cons, tally_append, attemptsOf_add, recursionsOf_add, ih.1, ih.2]
    exact ⟨rfl, rfl⟩

/-- When a fan-out does not agree, the walk claims more attempts than its evidence lists. -/
lemma Performed.attempts_lt (h : Performed visits) {v : Visit} (hv : v ∈ visits)
    (hagree : ¬ FanoutsAgree v.trace) :
    (visits.map fun v => v.executed.evidence.attempts.length).sum <
      attemptsOf (tally spent (visits.flatMap Visit.trace)) := by
  rw [(spent_flatMap visits).1]
  refine List.sum_lt_sum _ _ (fun v hv => ?_) ⟨v, hv, ?_⟩
  · obtain ⟨runs, hperforms, hconcluded⟩ := h.2 v hv
    rcases (hconcluded.lists hperforms).2.2 with ⟨-, hlists⟩ | ⟨-, hnil, -⟩
    · exact hlists.attempts.ge
    · rw [hnil]
      exact Nat.zero_le _
  · obtain ⟨runs, hperforms, hconcluded⟩ := h.2 v hv
    rcases (hconcluded.lists hperforms).2.2 with ⟨hagree', -⟩ | ⟨-, hnil, hpos⟩
    · exact absurd hagree' hagree
    · rw [hnil]
      exact hpos

lemma accounts_iff (h : Performed visits)
    (hvisits : Visits digest program registry program.limits program.topologicalOrder {} {} visits
      walk w) (hcounts : Counts program.limits (tally spent (visits.flatMap Visit.trace)) w.budget) :
    Accounts program (terminalResult program walk w.budget) ↔
      ∀ v ∈ visits, FanoutsAgree v.trace := by
  obtain ⟨htotal, hrecursive, hevidence⟩ := terminalResult_fields program walk w.budget
  have hlist : walk.evidence = visits.map fun v => v.executed.evidence := by
    rw [hvisits.evidence]
    rfl
  rw [hlist] at hevidence
  constructor
  · intro haccounts v hv
    by_contra hagree
    have hattempts := haccounts.attempts
    rw [htotal, hevidence, List.map_map, hcounts.attempts] at hattempts
    exact absurd hattempts (h.attempts_lt hv hagree).ne'
  · intro hagree
    have hlists : ∀ v ∈ visits, Lists v.trace v.executed.evidence := by
      intro v hv
      obtain ⟨runs, hperforms, hconcluded⟩ := h.2 v hv
      rcases (hconcluded.lists hperforms).2.2 with ⟨-, hlists⟩ | ⟨hnot, -⟩
      · exact hlists
      · exact absurd (hagree v hv) hnot
    obtain ⟨hattempts, hrecursions⟩ := spent_flatMap visits
    refine ⟨?_, ?_, ?_, ?_, ?_, ?_⟩
    · rw [hevidence, ← hlist]
      exact (hvisits.consistent consistent_empty).nodes
    · rw [htotal, hevidence, List.map_map, hcounts.attempts, hattempts]
      exact congrArg List.sum (List.map_congr_left fun v hv => (hlists v hv).attempts)
    · rw [hrecursive, hevidence, List.map_map, hcounts.recursions, hrecursions]
      exact congrArg List.sum (List.map_congr_left fun v hv => (hlists v hv).recursions)
    · rw [htotal]
      exact hcounts.attempts_le
    · rw [hrecursive]
      exact hcounts.recursions_le
    · intro node hnode e he hid
      rw [hevidence] at he
      obtain ⟨v, hv, rfl⟩ := List.mem_map.mp he
      obtain ⟨hmem, runs, hperforms, hconcluded⟩ := hvisits.concluded v hv
      have hnamed := hvisits.named v hv
      obtain rfl := CompiledExecutionProgram.eq_of_nodeId hmem hnode (hnamed.nodeId.symm.trans hid)
      exact (hconcluded.lists hperforms).2.1

/-- **When a run accounts for everything**: no exception is without a text, and the fan-outs whose
items all succeed agree about the names of their outputs. -/
theorem runs_accounts_iff {r : Except Raised ProgramExecutionResult}
    (h : Runs (semantics program.limits) (executeProgram digest program registry) {} tr r w) :
    AccountsFor program r ↔ Reportable tr ∧ FanoutsAgree tr := by
  rcases executeProgram_runs h with ⟨walk, visits, hvisits, rfl, -, rfl⟩ |
    ⟨before, node, after, visits, walk, w₁, t, errors, -, hmem, hvisits, rfl, hrun, rfl⟩
  · have hperformed := hvisits.performed program.order_parts.1
    have hends : endings [⟨.readBudget, .ok w.budget⟩] = [] := rfl
    have hcounts : Counts program.limits (tally spent (visits.flatMap Visit.trace)) w.budget := by
      have hbudget := budget_of_follows h.2
      simpa [spent] using hbudget
    have hreportable : Reportable (visits.flatMap Visit.trace ++ [⟨.readBudget, .ok w.budget⟩]) := by
      intro o he
      rw [endings_append, hends, List.append_nil] at he
      exact hperformed.reportable o he
    have hagree := hperformed.fanoutsAgree hends (by simp [Opens])
    rw [whole] at hagree
    rw [hagree, ← accounts_iff hperformed hvisits hcounts]
    constructor
    · rintro ⟨result, hresult, haccounts⟩
      obtain rfl := Except.ok.inj hresult
      exact ⟨hreportable, haccounts⟩
    · rintro ⟨-, haccounts⟩
      exact ⟨_, rfl, haccounts⟩
  · constructor
    · rintro ⟨result, hresult, -⟩
      cases hresult
    · rintro ⟨hreportable, -⟩
      obtain ⟨runs, hperforms, hconcluded⟩ := visitNode_concludes hmem hrun
      cases hconcluded with
      | raised errors x hx hresult =>
        obtain ⟨e, hconcludes, he⟩ := (hperforms.invoked x hx).exists_ending
        rw [hresult] at hconcludes
        cases e with
        | unreportable =>
          exact absurd (mem_endings_whole.mpr (.inr (hperforms.mem_endings.mpr ⟨x, hx, he⟩)))
            (hreportable _)
        | succeeded outputs | failed | fatal code => exact hconcludes.elim

end Programs

/-- The default limits of a program. -/
def defaultLimits : ProgramLimits where
  nodes_bounds := by decide
  parallelism_bounds := by decide
  attempts_bounds := by decide
  depth_bounds := by decide
  calls_bounds := by decide

/-- A node without dependencies that invokes an operation once. -/
def sourceNode (nodeId operationId : NonEmptyStr) : ProgramNode where
  nodeId := nodeId
  dependsOn := []
  body := .action { operationId := operationId, arguments := [], arguments_nodup := List.nodup_nil }
  dependencies_nodup := List.nodup_nil
  not_self := List.not_mem_nil
  not_target := List.not_mem_nil

/-- A stop that depends on one other node. -/
def stopNode (nodeId dependency : NonEmptyStr) (outcome : StopOutcome)
    (hne : nodeId ≠ dependency) : ProgramNode where
  nodeId := nodeId
  dependsOn := [dependency]
  body := .stop { outcome := outcome }
  dependencies_nodup := List.nodup_singleton dependency
  not_self := by simpa using hne
  not_target := List.not_mem_nil

/-- A fan-out over the items that another node gives, two at a time. -/
def fanoutNode (nodeId operationId source port item : NonEmptyStr) (hne : nodeId ≠ source) :
    ProgramNode where
  nodeId := nodeId
  dependsOn := [source]
  body := .fanout
    { operationId := operationId, items := ⟨source, port⟩, itemArgument := item, arguments := []
      maxParallelism := 2, arguments_nodup := List.nodup_nil, parallelism_bounds := by decide }
  dependencies_nodup := List.nodup_singleton source
  not_self := by simpa using hne
  not_target := List.not_mem_nil

/-- The registration of an operation. -/
def registered (operationId bindingId : NonEmptyStr) : OperationRegistration where
  reference := ⟨operationId⟩
  bindingIds := [bindingId]
  maxParallelism := 2
  bindings_nonempty := List.cons_ne_nil _ _
  bindings_nodup := List.nodup_singleton bindingId
  parallelism_bounds := by decide

def listId : NonEmptyStr := ⟨"list", by decide⟩
def checkId : NonEmptyStr := ⟨"check", by decide⟩
def stopId : NonEmptyStr := ⟨"stop", by decide⟩

/-- List the items, check every item, and stop. -/
def checkedNodes : List ProgramNode :=
  [sourceNode listId listId, fanoutNode checkId checkId listId itemsName checkId (by decide),
    stopNode stopId checkId .succeeded (by decide)]

def checkedProgram : CompiledExecutionProgram where
  programId := listId
  version := listId
  nodes := checkedNodes
  limits := defaultLimits
  topologicalOrder := [listId, checkId, stopId]
  operationRefs := [⟨listId⟩, ⟨checkId⟩]
  valid := by decide +kernel

def checkedRegistry : OperationRegistry where
  registrations := [registered listId listId, registered checkId checkId]
  ids_nodup := by decide

/-- A handler that gives back outputs. -/
def returning (outputs : JsonObject) : HandlerRun :=
  .finish (.returned (.fields { status := .succeeded, outputs := outputs }))

/-- Two items are listed, and `check` gives back one named output of each. -/
def checkedInput (port : Option ℕ → String) (_ : ℕ) : Input where
  choice := true
  handler := fun _ context =>
    if context.nodeId = listId then returning [("items", .array [.int 1, .int 2])]
    else returning [(port context.fanoutIndex, .null)]

/-- What the budget has seen is within the limits. -/
structure WithinLimits (limits : ProgramLimits) (budget : RuntimeBudget) : Prop where
  parallelism : budget.maximumParallelismObserved ≤ limits.maxParallelism
  depth : budget.maximumRecursionDepthObserved ≤ limits.maxRecursionDepth

lemma WithinLimits.claimRecursion {limits : ProgramLimits} {w w' : World} {nodeId : NonEmptyStr}
    {node : RecursionLimits} {depth : Depth} (h : WithinLimits limits w.budget)
    (hok : w.claimRecursion limits nodeId node depth = .ok w') : WithinLimits limits w'.budget := by
  rw [World.claimRecursion] at hok
  cases hadmitted : admittedDepth limits node depth with
  | error f => rw [hadmitted] at hok; cases hok
  | ok d =>
    have hd : d ≤ limits.maxRecursionDepth := by
      simp only [admittedDepth] at hadmitted
      split at hadmitted
      · cases hadmitted
      · split_ifs at hadmitted with _ _ hdepth
        cases hadmitted
        exact not_lt.mp hdepth
    rw [hadmitted] at hok
    dsimp only at hok
    split_ifs at hok
    cases hok
    exact ⟨h.parallelism, max_le h.depth hd⟩

lemma WithinLimits.act {limits : ProgramLimits} {w : World} (h : WithinLimits limits w.budget)
    {α : Type} (op : Op α) (i : Input) : WithinLimits limits ((semantics limits).act op i w).2.budget := by
  cases op with
  | claimAttempt nodeId fanoutIndex =>
    change WithinLimits limits (locked (w.claimAttempt limits) w).2.budget
    rw [World.claimAttempt]
    split_ifs
    · exact h
    · exact ⟨h.parallelism, h.depth⟩
  | claimRecursion context depth =>
    change WithinLimits limits
      (locked (w.claimRecursion limits context.nodeId context.recursion depth) w).2.budget
    cases hclaim : w.claimRecursion limits context.nodeId context.recursion depth with
    | ok w' => exact h.claimRecursion hclaim
    | error f => exact h
  | enterSlot context =>
    change WithinLimits limits (locked (w.enterSlot limits) w).2.budget
    rw [World.enterSlot]
    split_ifs with hfull
    · exact h
    · exact ⟨max_le h.parallelism (by omega), h.depth⟩
  | leaveSlot context outcome => exact ⟨h.parallelism, h.depth⟩
  | take =>
    change WithinLimits limits w.takeItem.2.budget
    rw [World.takeItem]
    split
    · exact h
    · exact h
  | execute node walk | openQueue nodeId size | choose | handler arguments context | sleep seconds
  | readBudget => exact h

lemma terminalResult_peaks (program : CompiledExecutionProgram) (walk : Walk)
    (budget : RuntimeBudget) :
    (terminalResult program walk budget).maximumParallelismObserved =
        budget.maximumParallelismObserved ∧
      (terminalResult program walk budget).maximumRecursionDepth =
        budget.maximumRecursionDepthObserved := by
  rw [terminalResult]
  cases walk.fatalFault.or walk.firstFailure with
  | some failure => exact ⟨rfl, rfl⟩
  | none =>
    cases walk.terminal with
    | some stop | none => exact ⟨rfl, rfl⟩

end AecBench.ProgramExecution
