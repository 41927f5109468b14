import AecBench.Harness.ProgramExecution.Accounting

/-!
# When fatal faults end a program

An invocation that ends with a fatal fault ends the program if its node reports it. A fan-out
reports the first of its items that fails, so a fault behind an ordinary failure is lost.

## Main definitions

* `EndsFatally` — an invocation ends with a fatal fault.
* `StopsAfter`, `FatalStops` — the program stops after each fatal fault.
* `FatalReported` — what handlers have to do for that.

## Main results

* `Concluded.fatal_iff` — when the visit of a node is fatal.
* `execution_fatalStops_iff` — when each fatal fault stops the program.
-/

namespace AecBench.ProgramExecution

open AecBench.Contracts
open Program (Runs Step)
open Text (NonEmptyStr)
open Validation

/-! ## Fatal endings -/

/-- The last attempt of an invocation ends with a fatal fault. -/
def EndsFatally (tr : List (Step Op Raised)) (nodeId : NonEmptyStr) (fanoutIndex : Option ℕ)
    (code : NonEmptyStr) : Prop :=
  (some (nodeId, fanoutIndex), Ending.fatal code) ∈ endings tr

/-- An invocation of the node ends with a fatal fault, and all items before it succeed. -/
def FatalLeads (tr : List (Step Op Raised)) (nodeId : NonEmptyStr) : Prop :=
  ∃ i code, EndsFatally tr nodeId i code ∧
    ∀ k j, i = some k → j < k → ∃ outputs, ItemSucceeds tr nodeId j outputs

section Visits

variable {node : ProgramNode} {tr : List (Step Op Raised)} {runs : List InvocationRun}
  {xs : List InvocationResult} {x : InvocationRun} {y : InvocationResult} {code : NonEmptyStr}

lemma InvocationRun.Of.fatal (h : x.Of node) (hy : x.result = .ok y)
    {o : Option (NonEmptyStr × Option ℕ)} (he : (o, .fatal code) ∈ endings x.trace) :
    y.succeeded = false ∧ y.fatal = true ∧ y.errorCode = some code := by
  obtain ⟨-, he | hconcludes⟩ := h.mem_endings he
  · cases he
  · rw [hy] at hconcludes
    exact hconcludes

lemma InvocationRun.Of.exists_fatal (h : x.Of node) (hy : x.result = .ok y)
    (hfatal : y.fatal = true) :
    ∃ code, (some (node.nodeId, x.fanoutIndex), .fatal code) ∈ endings x.trace ∧
      y.errorCode = some code := by
  obtain ⟨e, hconcludes, he⟩ := h.exists_ending
  rw [hy] at hconcludes
  cases e with
  | fatal code => exact ⟨code, he, hconcludes.2.2⟩
  | succeeded outputs =>
    rw [hconcludes.2.1] at hfatal
    cases hfatal
  | failed =>
    rw [hconcludes.2] at hfatal
    cases hfatal
  | unreportable => exact hconcludes.elim

lemma firstFailed_eq_some (h : firstFailed xs = some y) :
    y.succeeded = false ∧ ∃ as bs, xs = as ++ y :: bs ∧ ∀ a ∈ as, a.succeeded = true := by
  obtain ⟨hy, as, bs, hxs, has⟩ := List.find?_eq_some_iff_append.mp h
  exact ⟨by simpa using hy, as, bs, hxs, fun a ha => by simpa using has a ha⟩

lemma exists_firstFailed (hresults : runs.map InvocationRun.result = xs.map .ok)
    (h : firstFailed xs = some y) :
    y.succeeded = false ∧ ∃ rs x rs', runs = rs ++ x :: rs' ∧ x.result = .ok y ∧
      ∀ x ∈ rs, ∃ a, x.result = .ok a ∧ a.succeeded = true := by
  obtain ⟨hy, as, bs, rfl, has⟩ := firstFailed_eq_some h
  rw [List.map_append, List.map_cons] at hresults
  obtain ⟨rs, rest, rfl, hrs, hrest⟩ := List.map_eq_append_iff.mp hresults
  obtain ⟨x, rs', rfl, hx, -⟩ := List.map_eq_cons_iff.mp hrest
  refine ⟨hy, rs, x, rs', rfl, hx, fun x' hx' => ?_⟩
  obtain ⟨a, ha, hresult⟩ := exists_result hrs hx'
  exact ⟨a, hresult, has a ha⟩

lemma indices_before {rs rs' : List InvocationRun} {size : ℕ}
    (h : (rs ++ x :: rs').map InvocationRun.fanoutIndex = (List.range size).map some) :
    rs.map InvocationRun.fanoutIndex = (List.range rs.length).map some ∧
      x.fanoutIndex = some rs.length := by
  have hlength : rs.length < size := by
    have := congrArg List.length h
    simp at this
    omega
  have htake := congrArg (List.take (rs.length + 1)) h
  rw [← List.map_take, ← List.map_take, List.take_range, Nat.min_eq_left hlength,
    List.take_append, List.take_of_length_le (by omega), Nat.add_sub_cancel_left, List.take_succ_cons,
    List.take_zero, List.map_append, List.range_succ, List.map_append] at htake
  obtain ⟨hfirst, hlast⟩ := List.append_inj' htake rfl
  exact ⟨hfirst, by simpa using hlast⟩

lemma Performs.indices (h : Performs node tr runs) (hkind : node.body.kind = .fanout)
    (hx : x ∈ runs) :
    runs.map InvocationRun.fanoutIndex = (List.range runs.length).map some :=
  (h.queue _ _ _ (h.opened hkind (List.ne_nil_of_mem hx))).2.2

/-- **When the visit of a node is fatal**: its first failure is. -/
theorem Performs.fatal_iff (h : Performs node tr runs)
    (hresults : runs.map InvocationRun.result = xs.map .ok) (hfirst : firstFailed xs = some y) :
    y.fatal = true ↔ FatalLeads tr node.nodeId := by
  obtain ⟨hy, rs, x, rs', rfl, hxy, hrs⟩ := exists_firstFailed hresults hfirst
  have hx : x ∈ rs ++ x :: rs' := List.mem_append_right _ List.mem_cons_self
  have hof := h.invoked x hx
  constructor
  · intro hyfatal
    obtain ⟨code, he, -⟩ := hof.exists_fatal hxy hyfatal
    refine ⟨x.fanoutIndex, code, h.mem_endings.mpr ⟨x, hx, he⟩, fun k j hk hj => ?_⟩
    by_cases hkind : node.body.kind = .fanout
    · obtain ⟨hbefore, hindex⟩ := indices_before (h.indices hkind hx)
      rw [hindex] at hk
      obtain rfl := Option.some.inj hk
      obtain ⟨x', hx', hj'⟩ : ∃ x ∈ rs, x.fanoutIndex = some j := by
        have hmem : some j ∈ rs.map InvocationRun.fanoutIndex := by
          rw [hbefore]
          exact List.mem_map_of_mem (List.mem_range.mpr hj)
        exact List.mem_map.mp hmem
      obtain ⟨a, ha, hsucceeded⟩ := hrs x' hx'
      have hx'' : x' ∈ rs ++ x :: rs' := List.mem_append_left _ hx'
      obtain ⟨outputs, houtputs⟩ := (h.invoked x' hx'').exists_succeeded ha hsucceeded
      rw [hj'] at houtputs
      exact ⟨outputs, h.mem_endings.mpr ⟨x', hx'', houtputs⟩⟩
    · rw [(h.single hkind x hx).2] at hk
      cases hk
  · rintro ⟨i, code, he, hsmaller⟩
    obtain ⟨x₁, hx₁, he₁⟩ := h.mem_endings.mp he
    obtain ⟨y₁, -, hxy₁⟩ := exists_result hresults hx₁
    obtain ⟨hy₁, hfatal₁, -⟩ := (h.invoked x₁ hx₁).fatal hxy₁ he₁
    have hi : x₁.fanoutIndex = i :=
      (Prod.mk.inj (Option.some.inj ((h.invoked x₁ hx₁).mem_endings he₁).1)).2.symm
    suffices hsame : x₁ = x by
      rw [hsame] at hxy₁
      rwa [Except.ok.inj (hxy.symm.trans hxy₁)]
    by_cases hkind : node.body.kind = .fanout
    · have hindices := h.indices hkind hx
      obtain ⟨hbefore, hindex⟩ := indices_before hindices
      obtain ⟨k, hk, hk₁⟩ := List.mem_map.mp (hindices ▸ List.mem_map_of_mem hx₁)
      refine List.inj_on_of_nodup_map h.distinct hx₁ hx ?_
      rw [hindex, ← hk₁]
      refine congrArg some (le_antisymm ?_ ?_)
      · -- The item of the first failure does not succeed.
        by_contra hlt
        obtain ⟨outputs, hitem⟩ := hsmaller k rs.length (hi.symm.trans hk₁.symm) (by omega)
        obtain ⟨x₂, hx₂, hindex₂, he₂⟩ := h.itemSucceeds hitem
        obtain rfl := List.inj_on_of_nodup_map h.distinct hx₂ hx (hindex₂.trans hindex.symm)
        have hsucceeded := (hof.ports hxy he₂).1
        rw [hy] at hsucceeded
        cases hsucceeded
      · -- The items before it succeed.
        by_contra hlt
        obtain ⟨x₂, hx₂, hindex₂⟩ : ∃ x ∈ rs, x.fanoutIndex = some k := by
          have hmem : some k ∈ rs.map InvocationRun.fanoutIndex := by
            rw [hbefore]
            exact List.mem_map_of_mem (List.mem_range.mpr (by omega))
          exact List.mem_map.mp hmem
        have hsame := List.inj_on_of_nodup_map h.distinct (List.mem_append_left _ hx₂) hx₁
          (hindex₂.trans hk₁)
        obtain ⟨a, ha, hsucceeded⟩ := hrs x₂ hx₂
        rw [hsame, hxy₁] at ha
        rw [← Except.ok.inj ha, hy₁] at hsucceeded
        cases hsucceeded
    · have hrunx := (h.single hkind x hx).1
      rw [hrunx] at hx₁
      exact List.mem_singleton.mp hx₁

/-- **A visit in which an invocation ends with a fatal fault.** -/
theorem Concluded.fatal_iff {x : ExecutedNode} (h : Concluded node runs (.ok x))
    (hperforms : Performs node tr runs) (hfatal : ∃ i code, EndsFatally tr node.nodeId i code) :
    node.body.kind ≠ .stop ∧ (x.fatal = true ↔ FatalLeads tr node.nodeId) ∧
      (x.fatal = true → ∃ i code, EndsFatally tr node.nodeId i code ∧
        x.evidence.errorCode = some code) := by
  have hfailed : ∀ {xs : List InvocationResult}, runs.map InvocationRun.result = xs.map .ok →
      ∃ y, firstFailed xs = some y := by
    intro xs hresults
    obtain ⟨i, code, he⟩ := hfatal
    obtain ⟨x₁, hx₁, he₁⟩ := hperforms.mem_endings.mp he
    obtain ⟨y₁, hy₁, hxy₁⟩ := exists_result hresults hx₁
    cases hfirst : firstFailed xs with
    | some y => exact ⟨y, rfl⟩
    | none =>
      have hsucceeded := firstFailed_eq_none.mp hfirst y₁ hy₁
      rw [((hperforms.invoked x₁ hx₁).fatal hxy₁ he₁).1] at hsucceeded
      cases hsucceeded
  cases h with
  | idle hruns hattempts =>
    subst hruns
    obtain ⟨y, hy⟩ := @hfailed [] rfl
    cases hy
  | inconsistent xs hresults hkind hsucceeded hports =>
    obtain ⟨y, hy⟩ := hfailed hresults
    rw [hsucceeded] at hy
    cases hy
  | reported xs hresults hreports hkind hports =>
    obtain ⟨y, hfirst⟩ := hfailed hresults
    obtain ⟨-, hsame, hcode⟩ := hreports.failed y hfirst
    refine ⟨hkind, ?_, fun hxfatal => ?_⟩
    · rw [hsame]
      exact hperforms.fatal_iff hresults hfirst
    · obtain ⟨-, rs, x', rs', rfl, hxy, -⟩ := exists_firstFailed hresults hfirst
      have hx' : x' ∈ rs ++ x' :: rs' := List.mem_append_right _ List.mem_cons_self
      obtain ⟨code, he, hy⟩ := (hperforms.invoked x' hx').exists_fatal hxy (hsame ▸ hxfatal)
      exact ⟨x'.fanoutIndex, code, hperforms.mem_endings.mpr ⟨x', hx', he⟩, hcode code hy⟩

end Visits

/-! ## Programs that stop -/

/-- The program stops after the node: no later node is executed, and the program fails with the code
of a fatal fault. -/
structure StopsAfter (program : CompiledExecutionProgram) (tr : List (Step Op Raised))
    (nodeId : NonEmptyStr) (result : ProgramExecutionResult) : Prop where
  skipped : ∀ before after, program.topologicalOrder = before ++ nodeId :: after → ∀ id ∈ after,
    ∃ e ∈ result.nodeEvidence, e.nodeId = id ∧ e.status = .skipped ∧
      e.errorCode = some programAlreadyTerminated
  idle : ∀ before after, program.topologicalOrder = before ++ nodeId :: after →
    ∀ node walk r, ⟨.execute node walk, r⟩ ∈ tr → node.nodeId ∉ after
  status : result.status = .failed
  code : ∃ id i code, EndsFatally tr id i code ∧ result.errorCode = some code

/-- Each fatal fault that ends an invocation stops the program. -/
def FatalStops (program : CompiledExecutionProgram) (tr : List (Step Op Raised))
    (r : Except Raised ProgramExecutionResult) : Prop :=
  ∀ nodeId i code, EndsFatally tr nodeId i code →
    ∃ result, r = .ok result ∧ StopsAfter program tr nodeId result

/-- Where an invocation ends with a fatal fault, no invocation of the node ends with an exception
that cannot be reported, and some fatal item comes before all items that fail otherwise. -/
def FatalReported (tr : List (Step Op Raised)) : Prop :=
  ∀ nodeId i code, EndsFatally tr nodeId i code →
    (∀ j, (some (nodeId, j), Ending.unreportable) ∉ endings tr) ∧ FatalLeads tr nodeId

section Programs

variable {digest : Json → String} {program : CompiledExecutionProgram}
  {registry : OperationRegistry} {limits : ProgramLimits} {walk walk' : Walk} {w w' : World}
  {ids : List NonEmptyStr} {visits : List Visit} {tr t : List (Step Op Raised)} {v : Visit}

lemma Visits.terminated (h : Visits digest program registry limits ids walk w visits walk' w')
    (hterminated : walk.terminated = true) :
    (∀ v ∈ visits, v.trace = [] ∧
      v.executed = { evidence := skippedEvidence v.node programAlreadyTerminated }) ∧
        walk'.fatalFault = walk.fatalFault ∧ walk'.terminated = true := by
  induction h with
  | nil walk w => exact ⟨by simp, rfl, hterminated⟩
  | @cons id rest walk walk₁ walk' w w₁ w' node t x visits hnode hrun hrecord hrest ih =>
    obtain ⟨hmem, -⟩ := CompiledExecutionProgram.nodeById_eq_some.mp hnode
    obtain ⟨walk₂, hrecord', hrecorded⟩ :=
      @exists_record _ walk _ (visitNode_wellFormed hmem hrun).selects
    obtain rfl := Except.ok.inj (hrecord.symm.trans hrecord')
    rcases visitNode_runs hrun with ⟨code, hx, rfl, -, hcode⟩ | ⟨hnot, -⟩
    · rw [if_pos hterminated] at hcode
      subst hcode
      obtain rfl := Except.ok.inj hx
      obtain ⟨hvisits, hfault, hend⟩ := ih (hrecorded.terminated.mpr (.inl hterminated))
      refine ⟨fun v hv => ?_, hfault.trans hrecorded.fatalFault, hend⟩
      rcases List.mem_cons.mp hv with rfl | hv
      · exact ⟨rfl, rfl⟩
      · exact hvisits v hv
    · rw [hterminated] at hnot
      cases hnot

lemma activationError_ne {node : ProgramNode} :
    activationError program walk node ≠ some programAlreadyTerminated := by
  rw [activationError]
  split_ifs
  · decide
  · decide
  · decide
  · decide
  · decide

lemma Performed.fatalLeads (h : Performed visits) (hv : v ∈ visits)
    (ht : ∀ i e, (some (v.node.nodeId, i), e) ∉ endings t) :
    FatalLeads (whole visits t) v.node.nodeId ↔ FatalLeads v.trace v.node.nodeId := by
  simp only [FatalLeads, EndsFatally, ItemSucceeds, h.mem_endings hv ht]

lemma Visits.fatal_terminates
    (h : Visits digest program registry limits ids walk w visits walk' w') (hv : v ∈ visits)
    (hfatal : v.executed.fatal = true) :
    walk'.fatalFault = some (fatalFaultOf v.node v.executed.evidence) ∧ walk'.terminated = true ∧
      ∃ before after visits₁ visits₂, ids = before ++ v.node.nodeId :: after ∧
        visits = visits₁ ++ v :: visits₂ ∧ visits₁.map (fun v => v.node.nodeId) = before ∧
          visits₂.map (fun v => v.node.nodeId) = after ∧ ∀ v ∈ visits₂, v.trace = [] ∧
            v.executed = { evidence := skippedEvidence v.node programAlreadyTerminated } := by
  obtain ⟨before, after, visits₁, visits₂, walk₁, w₁, w₂, hids, hvisits, hbefore, -, hrecorded,
    hafter⟩ := h.split hv
  obtain ⟨hskipped, hfault, hend⟩ := hafter.terminated (hrecorded.terminated.mpr (.inr (.inr hfatal)))
  rw [hrecorded.fatalFault, if_pos hfatal] at hfault
  exact ⟨hfault, hend, before, after, visits₁, visits₂, hids, hvisits, hbefore.nodes, hafter.nodes,
    hskipped⟩

/-- A node that is no stop and is not fatal is not the last one that can be executed. -/
lemma Visits.goes_on
    (h : Visits digest program registry limits program.topologicalOrder walk w visits walk' w')
    (hv : v ∈ visits) (hexecuted : v.trace ≠ []) (hkind : v.node.body.kind ≠ .stop)
    (hfatal : v.executed.fatal = false) :
    ∃ before after, program.topologicalOrder = before ++ v.node.nodeId :: after ∧
      ∃ v' ∈ visits, v'.node.nodeId ∈ after ∧ ¬ (v'.executed.evidence.status = .skipped ∧
        v'.executed.evidence.errorCode = some programAlreadyTerminated) := by
  obtain ⟨before, after, visits₁, visits₂, walk₁, w₁, w₂, hids, rfl, hbefore, hrun, hrecorded,
    hafter⟩ := h.split hv
  refine ⟨before, after, hids, ?_⟩
  have hmem := (h.concluded v hv).1
  have hrunning : walk₁.terminated = false := by
    have hwalk : v.walk.terminated = false := by
      rcases visitNode_runs hrun with ⟨code, -, hnil, -⟩ | ⟨hwalk, -⟩
      · exact absurd hnil hexecuted
      · exact hwalk
    rw [← Bool.not_eq_true, hrecorded.terminated, hwalk, hfatal]
    simp [hkind]
  cases hafter with
  | nil walk w => exact absurd rfl (CompiledExecutionProgram.exists_after hmem hkind hids)
  | @cons id rest _ walk₂ _ _ w₃ _ node t x visits hnode hrun' hrecord hrest =>
    obtain ⟨hmem', hid⟩ := CompiledExecutionProgram.nodeById_eq_some.mp hnode
    refine ⟨⟨walk₁, node, t, x⟩, List.mem_append_right _ (List.mem_cons_of_mem _ List.mem_cons_self),
      ?_, ?_⟩
    · rw [← hid]
      exact List.mem_cons_self
    · rintro ⟨hstatus, hcode⟩
      rcases (visitNode_wellFormed hmem' hrun').active with ⟨code, hx, hactive⟩ | ⟨-, -, hnot⟩
      · rw [hrunning] at hactive
        have hcode' : x.evidence.errorCode = some code := by rw [hx]; rfl
        rw [← hcode', hcode] at hactive
        exact activationError_ne hactive
      · exact hnot hstatus

variable {i : Option ℕ} {code : NonEmptyStr}

lemma Performed.exists_visit (h : Performed visits) {nodeId : NonEmptyStr}
    (he : EndsFatally (whole visits t) nodeId i code) :
    (∃ v ∈ visits, nodeId = v.node.nodeId ∧ EndsFatally v.trace v.node.nodeId i code) ∨
      EndsFatally t nodeId i code := by
  rcases mem_endings_whole.mp he with ⟨v, hv, he⟩ | he
  · obtain rfl := h.owner_eq hv he
    exact .inl ⟨v, hv, rfl, he⟩
  · exact .inr he

lemma order_unique {order before after before' after' : List NonEmptyStr} {id : NonEmptyStr}
    (hnodup : order.Nodup) (h : order = before ++ id :: after) (h' : order = before' ++ id :: after') :
    after = after' := by
  have hparts := hnodup
  rw [h, List.nodup_append, List.nodup_cons] at hparts
  obtain ⟨-, ⟨hafter, -⟩, hdisjoint⟩ := hparts
  have hbefore : id ∉ before := fun hin => hdisjoint _ hin _ List.mem_cons_self rfl
  exact ((List.append_cons_inj_of_notMem hbefore hafter).mp (h.symm.trans h')).2.2

/-- **A reported fatal fault stops the program.** -/
lemma stopsAfter (hperformed : Performed visits)
    (hvisits : Visits digest program registry limits program.topologicalOrder {} w visits walk w')
    (hv : v ∈ visits) (ht : ∀ step ∈ t, ¬ Announces step)
    (he : EndsFatally v.trace v.node.nodeId i code) (hleads : FatalLeads v.trace v.node.nodeId)
    (budget : RuntimeBudget) :
    StopsAfter program (whole visits t) v.node.nodeId (terminalResult program walk budget) := by
  obtain ⟨runs, hperforms, hconcluded⟩ := hperformed.2 v hv
  obtain ⟨-, hfatal, hcode⟩ := hconcluded.fatal_iff hperforms ⟨i, code, he⟩
  obtain ⟨hfault, -, before, after, visits₁, visits₂, horder, hsplit, -, hafter, hskipped⟩ :=
    hvisits.fatal_terminates hv (hfatal.mpr hleads)
  have hevidence : (terminalResult program walk budget).nodeEvidence =
      visits.map fun v => v.executed.evidence := by
    rw [(terminalResult_fields program walk budget).2.2, hvisits.evidence]
    rfl
  have hresult : terminalResult program walk budget =
      failedResult program walk budget (fatalFaultOf v.node v.executed.evidence) := by
    rw [terminalResult, hfault]
    rfl
  refine ⟨fun before' after' horder' id hid => ?_, fun before' after' horder' node known r hstep hin => ?_,
    ?_, ?_⟩
  · obtain rfl := order_unique program.order_parts.1 horder horder'
    obtain ⟨v', hv', rfl⟩ := List.mem_map.mp (hafter ▸ hid)
    refine ⟨v'.executed.evidence, ?_, ?_⟩
    · rw [hevidence, hsplit]
      exact List.mem_map_of_mem (List.mem_append_right _ (List.mem_cons_of_mem _ hv'))
    · rw [(hskipped v' hv').2]
      exact ⟨rfl, rfl, rfl⟩
  · obtain rfl := order_unique program.order_parts.1 horder horder'
    rcases List.mem_append.mp hstep with hstep | hstep
    · obtain ⟨v', hv', hstep⟩ := List.mem_flatMap.mp hstep
      obtain ⟨-, -, -, -, -, w₁, w₂, -, -, -, hrun, -⟩ := hvisits.split hv'
      obtain ⟨rfl, -⟩ := visitNode_executes hrun hstep
      obtain ⟨last, hlast, hid⟩ := List.mem_map.mp (hafter ▸ hin)
      have hmem : last ∈ visits := by
        rw [hsplit]
        exact List.mem_append_right _ (List.mem_cons_of_mem _ hlast)
      obtain rfl := List.inj_on_of_nodup_map hperformed.1 hmem hv' hid
      rw [(hskipped last hlast).1] at hstep
      cases hstep
    · exact ht _ hstep trivial
  · rw [hresult]
    rfl
  · obtain ⟨i, code, he, herror⟩ := hcode (hfatal.mpr hleads)
    refine ⟨v.node.nodeId, i, code, mem_endings_whole.mpr (.inl ⟨v, hv, he⟩), ?_⟩
    rw [hresult]
    simp [failedResult, fatalFaultOf, herror]

lemma leads_of_stopsAfter (hperformed : Performed visits)
    (hvisits : Visits digest program registry limits program.topologicalOrder {} w visits walk w')
    (hv : v ∈ visits) (he : EndsFatally v.trace v.node.nodeId i code) {budget : RuntimeBudget}
    (hstops : StopsAfter program (whole visits t) v.node.nodeId
      (terminalResult program walk budget)) : FatalLeads v.trace v.node.nodeId := by
  obtain ⟨runs, hperforms, hconcluded⟩ := hperformed.2 v hv
  obtain ⟨hkind, hfatal, -⟩ := hconcluded.fatal_iff hperforms ⟨i, code, he⟩
  by_contra hleads
  have hexecuted : v.trace ≠ [] := by
    intro hnil
    rw [EndsFatally, hnil] at he
    exact absurd he List.not_mem_nil
  obtain ⟨before, after, horder, v', hv', hid, hnot⟩ := hvisits.goes_on hv hexecuted hkind
    (by rw [← Bool.not_eq_true, hfatal]; exact hleads)
  obtain ⟨e, hin, hnode, hstatus, hcode⟩ := hstops.skipped before after horder _ hid
  rw [(terminalResult_fields program walk budget).2.2, hvisits.evidence] at hin
  obtain ⟨other, hother, rfl⟩ := List.mem_map.mp hin
  have hsame : other = v' := List.inj_on_of_nodup_map hperformed.1 hother hv'
    ((hvisits.named other hother).nodeId.symm.trans hnode)
  rw [hsame] at hstatus hcode
  exact hnot ⟨hstatus, hcode⟩

lemma not_endsFatally_of_raised {before after : List NonEmptyStr} {node : ProgramNode}
    {errors : Errors} {w₁ : World}
    (horder : program.topologicalOrder = before ++ node.nodeId :: after)
    (hmem : node ∈ program.nodes)
    (hvisits : Visits digest program registry limits before {} w visits walk w₁)
    (hrun : Runs (semantics limits) (visitNode digest program registry walk node) w₁ t
      (.error (.validationError errors)) w') (hreported : FatalReported (whole visits t))
    {nodeId : NonEmptyStr} : ¬ EndsFatally (whole visits t) nodeId i code := by
  intro he
  have hnodup := program.order_parts.1
  rw [horder] at hnodup
  have hperformed := hvisits.performed (List.nodup_append.mp hnodup).1
  obtain ⟨runs, hperforms, hconcluded⟩ := visitNode_concludes hmem hrun
  have howner : ∀ {nodeId i e}, (some (nodeId, i), e) ∈ endings t → nodeId = node.nodeId := by
    intro nodeId i e he
    obtain ⟨x, hx, he⟩ := hperforms.mem_endings.mp he
    exact (Prod.mk.inj (Option.some.inj ((hperforms.invoked x hx).mem_endings he).1)).1
  obtain ⟨hreportable, hleads⟩ := hreported nodeId i code he
  rcases hperformed.exists_visit he with ⟨v, hv, rfl, hends⟩ | he
  · -- The visit before would have ended the walk.
    have hne : v.node.nodeId ≠ node.nodeId := by
      have hin : v.node.nodeId ∈ before := by
        rw [← hvisits.nodes]
        exact List.mem_map_of_mem hv
      exact fun heq => (List.nodup_append.mp hnodup).2.2 _ hin _ List.mem_cons_self heq
    have hother : ∀ i e, (some (v.node.nodeId, i), e) ∉ endings t := fun i e he => hne (howner he)
    obtain ⟨runs', hperforms', hconcluded'⟩ := hperformed.2 v hv
    obtain ⟨-, hfatal, -⟩ := hconcluded'.fatal_iff hperforms' ⟨i, code, hends⟩
    obtain ⟨-, hterminated, -⟩ := hvisits.fatal_terminates hv
      (hfatal.mpr ((hperformed.fatalLeads hv hother).mp hleads))
    rcases visitNode_runs hrun with ⟨code, hskip, -⟩ | ⟨hrunning, -⟩
    · cases hskip
    · rw [hterminated] at hrunning
      cases hrunning
  · obtain rfl := howner he
    cases hconcluded with
    | raised errors x' hx' hresult =>
      obtain ⟨e, hconcludes, he'⟩ := (hperforms.invoked x' hx').exists_ending
      rw [hresult] at hconcludes
      cases e with
      | unreportable =>
        exact hreportable _
          (mem_endings_whole.mpr (.inr (hperforms.mem_endings.mpr ⟨x', hx', he'⟩)))
      | succeeded outputs | failed | fatal code => exact hconcludes.elim

/-- **When each fatal fault stops the program.** -/
theorem runs_fatalStops_iff {r : Except Raised ProgramExecutionResult}
    (h : Runs (semantics limits) (executeProgram digest program registry) {} tr r w) :
    FatalStops program tr r ↔ FatalReported tr := by
  rcases executeProgram_runs h with ⟨walk, visits, hvisits, rfl, -, rfl⟩ |
    ⟨before, node, after, visits, walk, w₁, t, errors, horder, hmem, hvisits, rfl, hrun, rfl⟩
  · have hperformed := hvisits.performed program.order_parts.1
    have hends : ∀ v : Visit, ∀ i e,
        (some (v.node.nodeId, i), e) ∉ endings [⟨.readBudget, .ok w.budget⟩] := by
      intro v i e he
      cases he
    have hvisit : ∀ nodeId i code,
        EndsFatally (whole visits [⟨.readBudget, .ok w.budget⟩]) nodeId i code →
          ∃ v ∈ visits, nodeId = v.node.nodeId ∧ EndsFatally v.trace v.node.nodeId i code := by
      intro nodeId i code he
      rcases hperformed.exists_visit he with hfound | he
      · exact hfound
      · cases he
    constructor
    · intro hstops nodeId i code he
      obtain ⟨result, hresult, hstops⟩ := hstops nodeId i code he
      obtain rfl := Except.ok.inj hresult
      obtain ⟨v, hv, rfl, hends'⟩ := hvisit nodeId i code he
      refine ⟨fun j hj => ?_, ?_⟩
      · rw [endings_append, List.mem_append] at hj
        rcases hj with hj | hj
        · exact hperformed.reportable _ hj
        · cases hj
      · exact (hperformed.fatalLeads hv (hends v)).mpr
          (leads_of_stopsAfter hperformed hvisits hv hends' hstops)
    · intro hreported nodeId i code he
      obtain ⟨-, hleads⟩ := hreported nodeId i code he
      obtain ⟨v, hv, rfl, hends'⟩ := hvisit nodeId i code he
      exact ⟨_, rfl, stopsAfter hperformed hvisits hv (by simp [Announces]) hends'
        ((hperformed.fatalLeads hv (hends v)).mp hleads) w.budget⟩
  · constructor
    · intro hstops nodeId i code he
      obtain ⟨result, hresult, -⟩ := hstops nodeId i code he
      cases hresult
    · intro hreported nodeId i code he
      exact absurd he (not_endsFatally_of_raised horder hmem hvisits hrun hreported)

end Programs

/-- The code of a fatal ending. -/
def Ending.fatalCode? : Ending → Option NonEmptyStr
  | .fatal code => some code
  | _ => none

/-- The first item raises an exception, and the handler of the second gives back no result. -/
def faultyInput (_ : ℕ) : Input where
  choice := true
  handler := fun _ context =>
    if context.nodeId = listId then returning [("items", .array [.int 1, .int 2])]
    else if context.fanoutIndex = some 0 then .finish (.exception "timeout" "TimeoutError")
    else .finish (.returned .other)

end AecBench.ProgramExecution
