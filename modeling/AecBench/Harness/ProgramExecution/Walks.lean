import AecBench.Harness.ProgramExecution.Conclusions

/-!
# What the executor keeps of a walk

Every node that is visited leaves one entry of evidence, and the maps of the executor agree with
the evidence so far.

## Main definitions

* `Recorded` — what the record of a node changes.
* `Consistent` — the failure and the stop that the executor knows are those of the evidence.

## Main results

* `Visits.along` — what every visit keeps.
* `validated_terminalResult` — the result of a walk is valid.
* `executeProgram_runs` — the runs of a program.
-/

namespace AecBench.ProgramExecution

open AecBench.Contracts
open Program (Runs Step runs_bind runs_leaf runs_perform)
open Text (NonEmptyStr)
open Validation

/-! ## Records -/

/-- What the record of a node changes. -/
structure Recorded (walk : Walk) (node : ProgramNode) (x : ExecutedNode) (walk' : Walk) : Prop where
  evidence : walk'.evidence = walk.evidence ++ [x.evidence]
  statuses : walk'.statuses = Function.update walk.statuses node.nodeId (some x.evidence.status)
  outputs : walk'.outputs =
    if x.evidence.status = .succeeded then
      Function.update walk.outputs node.nodeId (some x.evidence.outputs)
    else walk.outputs
  branchChoices : walk'.branchChoices =
    if node.body.kind = .branch ∧ x.evidence.status = .succeeded then
      Function.update walk.branchChoices node.nodeId x.evidence.selectedSuccessorNodeId
    else walk.branchChoices
  firstFailure : walk'.firstFailure =
    if x.evidence.status = .failed ∧ walk.firstFailure = none then
      some (failureOf node x.evidence)
    else walk.firstFailure
  fatalFault : walk'.fatalFault =
    if x.fatal then some (fatalFaultOf node x.evidence) else walk.fatalFault
  terminal : (walk'.terminal = walk.terminal ∧
      (node.body.kind = .stop → x.evidence.status ≠ .succeeded)) ∨
    ∃ n value, node.body = .stop n ∧ x.evidence.status = .succeeded ∧
      walk'.terminal = some (node.nodeId, n, value)
  terminated : walk'.terminated = true ↔ walk.terminated = true ∨
    (node.body.kind = .stop ∧ x.evidence.status = .succeeded) ∨ x.fatal = true

lemma recordFatal_fields (walk : Walk) (node : ProgramNode) (x : ExecutedNode) :
    (recordFatal walk node x).evidence = walk.evidence ∧
      (recordFatal walk node x).statuses = walk.statuses ∧
        (recordFatal walk node x).outputs = walk.outputs ∧
          (recordFatal walk node x).branchChoices = walk.branchChoices ∧
            (recordFatal walk node x).firstFailure = walk.firstFailure ∧
              (recordFatal walk node x).terminal = walk.terminal := by
  rw [recordFatal]
  by_cases hfatal : x.fatal = true
  · rw [if_pos hfatal]
    exact ⟨rfl, rfl, rfl, rfl, rfl, rfl⟩
  · rw [if_neg hfatal]
    exact ⟨rfl, rfl, rfl, rfl, rfl, rfl⟩

lemma recordStop_fields (walk : Walk) (node : ProgramNode) (evidence : NodeExecutionEvidence) :
    (recordStop walk node evidence).evidence = walk.evidence ∧
      (recordStop walk node evidence).statuses = walk.statuses ∧
        (recordStop walk node evidence).outputs = walk.outputs ∧
          (recordStop walk node evidence).branchChoices = walk.branchChoices ∧
            (recordStop walk node evidence).firstFailure = walk.firstFailure ∧
              (recordStop walk node evidence).fatalFault = walk.fatalFault := by
  rw [recordStop]
  cases node.body with
  | stop n =>
    dsimp only
    by_cases hstatus : evidence.status = .succeeded
    · rw [if_pos hstatus]
      exact ⟨rfl, rfl, rfl, rfl, rfl, rfl⟩
    · rw [if_neg hstatus]
      exact ⟨rfl, rfl, rfl, rfl, rfl, rfl⟩
  | _ => exact ⟨rfl, rfl, rfl, rfl, rfl, rfl⟩

lemma recordStop_terminal (walk : Walk) (node : ProgramNode) (evidence : NodeExecutionEvidence) :
    ((recordStop walk node evidence).terminal = walk.terminal ∧
        (node.body.kind = .stop → evidence.status ≠ .succeeded)) ∨
      ∃ n value, node.body = .stop n ∧ evidence.status = .succeeded ∧
        (recordStop walk node evidence).terminal = some (node.nodeId, n, value) := by
  rw [recordStop]
  cases hn : node.body with
  | stop n =>
    dsimp only
    by_cases hstatus : evidence.status = .succeeded
    · rw [if_pos hstatus]
      exact .inr ⟨n, _, rfl, hstatus, rfl⟩
    · rw [if_neg hstatus]
      exact .inl ⟨rfl, fun _ => hstatus⟩
  | _ => exact .inl ⟨rfl, fun hkind => by cases hkind⟩

lemma recordStop_terminated (walk : Walk) (node : ProgramNode) (evidence : NodeExecutionEvidence) :
    (recordStop walk node evidence).terminated = true ↔
      walk.terminated = true ∨ (node.body.kind = .stop ∧ evidence.status = .succeeded) := by
  rw [recordStop]
  cases hn : node.body with
  | stop n =>
    dsimp only
    by_cases hstatus : evidence.status = .succeeded
    · rw [if_pos hstatus]
      simp [hstatus, ProgramNodeBody.kind]
    · rw [if_neg hstatus]
      simp [hstatus]
  | _ => simp [ProgramNodeBody.kind]

lemma recordFatal_terminated (walk : Walk) (node : ProgramNode) (x : ExecutedNode) :
    (recordFatal walk node x).terminated = true ↔ walk.terminated = true ∨ x.fatal = true := by
  rw [recordFatal]
  by_cases hfatal : x.fatal = true
  · rw [if_pos hfatal]
    simp [hfatal]
  · rw [if_neg hfatal]
    simp [hfatal]

lemma recordFatal_fatalFault (walk : Walk) (node : ProgramNode) (x : ExecutedNode) :
    (recordFatal walk node x).fatalFault =
      if x.fatal then some (fatalFaultOf node x.evidence) else walk.fatalFault := by
  rw [recordFatal]
  by_cases hfatal : x.fatal = true
  · rw [if_pos hfatal, if_pos hfatal]
  · rw [if_neg hfatal, if_neg hfatal]

variable {node : ProgramNode}

/-- A branch that succeeds selects a successor, so the record of a node never fails. -/
lemma recordChoice_eq {walk : Walk} {evidence : NodeExecutionEvidence}
    (hselects : Selects node evidence) :
    recordChoice walk node evidence = .ok { walk with
      branchChoices :=
        if node.body.kind = .branch ∧ evidence.status = .succeeded then
          Function.update walk.branchChoices node.nodeId evidence.selectedSuccessorNodeId
        else walk.branchChoices } := by
  rw [recordChoice]
  by_cases hbranch : node.body.kind = .branch ∧ evidence.status = .succeeded
  · obtain ⟨selected, -, hselected⟩ := hselects hbranch.1 hbranch.2
    rw [if_pos hbranch, if_pos hbranch, hselected]
  · rw [if_neg hbranch, if_neg hbranch]

/-- **The record of a node that was visited.** -/
theorem exists_record {walk : Walk} {x : ExecutedNode} (hselects : Selects node x.evidence) :
    ∃ walk', record walk node x = .ok walk' ∧ Recorded walk node x walk' := by
  refine ⟨_, by rw [record, recordChoice_eq hselects]; rfl, ?_⟩
  generalize hchoice : ({ recordEvidence walk node x.evidence with
      branchChoices :=
        if node.body.kind = .branch ∧ x.evidence.status = .succeeded then
          Function.update (recordEvidence walk node x.evidence).branchChoices node.nodeId
            x.evidence.selectedSuccessorNodeId
        else (recordEvidence walk node x.evidence).branchChoices } : Walk) = chosen
  obtain ⟨he, hs, ho, hb, hf, ht⟩ :=
    recordFatal_fields (recordStop chosen node x.evidence) node x
  obtain ⟨he', hs', ho', hb', hf', hfatal'⟩ := recordStop_fields chosen node x.evidence
  refine ⟨?_, ?_, ?_, ?_, ?_, ?_, ?_, ?_⟩
  · rw [he, he', ← hchoice]; rfl
  · rw [hs, hs', ← hchoice]; rfl
  · rw [ho, ho', ← hchoice]; rfl
  · rw [hb, hb', ← hchoice]; rfl
  · rw [hf, hf', ← hchoice]; rfl
  · rw [recordFatal_fatalFault, hfatal', ← hchoice]; rfl
  · rw [ht]
    rcases recordStop_terminal chosen node x.evidence with ⟨hsame, hstop⟩ | hstop
    · exact .inl ⟨hsame.trans (by rw [← hchoice]; rfl), hstop⟩
    · exact .inr hstop
  · rw [recordFatal_terminated, recordStop_terminated, ← hchoice, or_assoc]
    rfl

/-! ## Nodes that are visited -/

section Visited

variable {digest : Json → String} {program : CompiledExecutionProgram}
  {registry : OperationRegistry} {limits : ProgramLimits} {walk : Walk} {node : ProgramNode}
  {tr : List (Step Op Raised)} {w w' : World} {x : ExecutedNode}

/-- The node was skipped, or it was executed. -/
def Skipped (program : CompiledExecutionProgram) (walk : Walk) (node : ProgramNode)
    (x : ExecutedNode) : Prop :=
  ∃ code, x = { evidence := skippedEvidence node code } ∧
    if walk.terminated then code = programAlreadyTerminated
    else activationError program walk node = some code

/-- What holds of the outcome of every visit. -/
structure WellFormed (program : CompiledExecutionProgram) (walk : Walk) (node : ProgramNode)
    (x : ExecutedNode) : Prop where
  named : Named node x.evidence
  selects : Selects node x.evidence
  active : Skipped program walk node x ∨ walk.terminated = false ∧
    activationError program walk node = none ∧ x.evidence.status ≠ .skipped

lemma fanoutOutcome_named {p : PreparedFanout} {invocations : List InvocationResult}
    (h : fanoutOutcome node p invocations = .ok x) :
    Named node x.evidence ∧ x.evidence.status ≠ .skipped := by
  rw [fanoutOutcome] at h
  cases hfailure : invocations.find? fun invocation => !invocation.succeeded with
  | some failure =>
    rw [hfailure] at h
    cases h
    exact ⟨⟨rfl, rfl, rfl⟩, NodeExecutionStatus.noConfusion⟩
  | none =>
    rw [hfailure] at h
    cases haggregate : aggregateFanoutOutputs invocations with
    | error e => rw [haggregate] at h; cases h
    | ok outputs =>
      rw [haggregate] at h
      cases h
      exact ⟨⟨rfl, rfl, rfl⟩, NodeExecutionStatus.noConfusion⟩

/-- The outcome of a task is about its node, and a branch that succeeds selects a target. -/
lemma runTask_outcome {r₀ : Except Raised ExecutedNode} (hmem : node ∈ program.nodes)
    (hrun : Runs (semantics limits)
      (runTask digest program walk node (task digest program registry walk node)) w tr r₀ w')
    (hx : caught node r₀ = .ok x) :
    Named node x.evidence ∧ Selects node x.evidence ∧ x.evidence.status ≠ .skipped := by
  rcases caught_eq_ok.mp hx with rfl | ⟨f, rfl, rfl⟩
  · have hfits : (task digest program registry walk node).Fits node := task_fits hmem
    cases htask : task digest program registry walk node with
    | settle announced outcome =>
      rw [htask] at hfits hrun
      obtain ⟨rfl, -⟩ := runTask_settle hrun
      have hsettled := hfits.2 x rfl
      exact ⟨hsettled.named, hsettled.selects, hsettled.not_skipped⟩
    | operation p =>
      rw [htask] at hfits hrun
      obtain ⟨t, r₁, -, -, hr₁⟩ := runTask_operation hrun
      obtain ⟨-, -, -, hkind⟩ := hfits
      cases r₁ with
      | error e => cases hr₁
      | ok invocation =>
        cases hr₁
        refine ⟨⟨rfl, rfl, rfl⟩, fun hbranch => ?_, ?_⟩
        · rcases hkind with hkind | hkind
          · rw [hkind] at hbranch; cases hbranch
          · rw [hkind] at hbranch; cases hbranch
        · rw [executedOperationNode]
          cases invocation.succeeded <;> simp
    | fanout n p =>
      rw [htask] at hfits hrun
      obtain ⟨t, items, -, -, -, hr₁⟩ := runTask_fanout hrun
      obtain ⟨invocations, -, hr₁⟩ := bind_eq_ok.mp hr₁.symm
      obtain ⟨hnamed, hstatus⟩ := fanoutOutcome_named hr₁
      refine ⟨hnamed, fun hbranch => ?_, hstatus⟩
      have hn : node.body = .fanout n := hfits
      rw [hn] at hbranch
      cases hbranch
  · exact ⟨⟨rfl, rfl, rfl⟩, (fun _ hstatus => by cases hstatus), NodeExecutionStatus.noConfusion⟩

/-- **The outcome of a visit** is about its node, and a branch that succeeds selects a target. -/
theorem visitNode_wellFormed (hmem : node ∈ program.nodes)
    (h : Runs (semantics limits) (visitNode digest program registry walk node) w tr (.ok x) w') :
    WellFormed program walk node x := by
  rcases visitNode_runs h with ⟨code, hx, -, -, hcode⟩ | ⟨hterminated, hactive, r₀, hcaught, hrun⟩
  · cases hx
    exact ⟨⟨rfl, rfl, rfl⟩, (fun _ hstatus => by cases hstatus), .inl ⟨code, rfl, hcode⟩⟩
  · obtain ⟨hnamed, hselects, hstatus⟩ := runTask_outcome hmem hrun hcaught.symm
    exact ⟨hnamed, hselects, .inr ⟨hterminated, hactive, hstatus⟩⟩

end Visited

/-! ## Walks over the nodes -/

section Walks

variable {digest : Json → String} {program : CompiledExecutionProgram}
  {registry : OperationRegistry} {limits : ProgramLimits} {walk walk' : Walk} {w w' : World}
  {ids done : List NonEmptyStr} {visits : List Visit}

variable (h : Visits digest program registry limits ids walk w visits walk' w')
include h

/-- **What every visit keeps** holds after the walk, and before every visit of it. -/
theorem Visits.along {P : List NonEmptyStr → Walk → Prop} (hstart : P done walk)
    (hstep : ∀ done walk node w t x w₁ walk₁, node ∈ program.nodes → P done walk →
      Runs (semantics limits) (visitNode digest program registry walk node) w t (.ok x) w₁ →
        Recorded walk node x walk₁ → P (done ++ [node.nodeId]) walk₁) :
    P (done ++ ids) walk' ∧
      ∀ v ∈ visits, v.node ∈ program.nodes ∧ (∃ w w₁, Runs (semantics limits)
          (visitNode digest program registry v.walk v.node) w v.trace (.ok v.executed) w₁) ∧
        ∃ before after, done ++ ids = before ++ v.node.nodeId :: after ∧ P before v.walk := by
  induction h generalizing done with
  | nil walk w => exact ⟨by simpa using hstart, by simp⟩
  | @cons id rest walk walk₁ walk' w w₁ w' node t x visits hnode hrun hrecord hrest ih =>
    obtain ⟨hmem, rfl⟩ := CompiledExecutionProgram.nodeById_eq_some.mp hnode
    obtain ⟨walk₂, hrecord', hrecorded⟩ :=
      @exists_record _ walk _ (visitNode_wellFormed hmem hrun).selects
    obtain rfl := Except.ok.inj (hrecord.symm.trans hrecord')
    obtain ⟨hend, hvisits⟩ := ih (hstep done walk node w t x w₁ walk₁ hmem hstart hrun hrecorded)
    rw [List.append_assoc, List.singleton_append] at hend hvisits
    refine ⟨hend, fun v hv => ?_⟩
    rcases List.mem_cons.mp hv with rfl | hv
    · exact ⟨hmem, ⟨w, w₁, hrun⟩, done, rest, rfl, hstart⟩
    · exact hvisits v hv

lemma Visits.evidence :
    walk'.evidence = walk.evidence ++ visits.map fun v => v.executed.evidence := by
  induction h with
  | nil walk w => simp
  | cons hnode hrun hrecord hrest ih =>
    obtain ⟨hmem, rfl⟩ := CompiledExecutionProgram.nodeById_eq_some.mp hnode
    obtain ⟨walk₂, hrecord', hrecorded⟩ := exists_record (visitNode_wellFormed hmem hrun).selects
    obtain rfl := Except.ok.inj (hrecord.symm.trans hrecord')
    rw [ih, hrecorded.evidence, List.append_assoc]
    rfl

lemma Visits.split {v : Visit} (hv : v ∈ visits) :
    ∃ before after visits₁ visits₂ walk₁ w₁ w₂,
      ids = before ++ v.node.nodeId :: after ∧ visits = visits₁ ++ v :: visits₂ ∧
        Visits digest program registry limits before walk w visits₁ v.walk w₁ ∧
          Runs (semantics limits) (visitNode digest program registry v.walk v.node) w₁ v.trace
            (.ok v.executed) w₂ ∧
          Recorded v.walk v.node v.executed walk₁ ∧
            Visits digest program registry limits after walk₁ w₂ visits₂ walk' w' := by
  induction h with
  | nil walk w => cases hv
  | @cons id rest walk walk₁ walk' w w₁ w' node t x visits hnode hrun hrecord hrest ih =>
    obtain ⟨hmem, hid⟩ := CompiledExecutionProgram.nodeById_eq_some.mp hnode
    rcases List.mem_cons.mp hv with rfl | hv
    · obtain ⟨walk₂, hrecord', hrecorded⟩ :=
        @exists_record _ walk _ (visitNode_wellFormed hmem hrun).selects
      obtain rfl := Except.ok.inj (hrecord.symm.trans hrecord')
      exact ⟨[], rest, [], visits, walk₁, w, w₁, by rw [← hid]; rfl, rfl, .nil walk w, hrun,
        hrecorded, hrest⟩
    · obtain ⟨before, after, visits₁, visits₂, walk₂, w₂, w₃, rfl, rfl, hbefore, hrun', hrecorded,
        hafter⟩ := ih hv
      exact ⟨id :: before, after, ⟨walk, node, t, x⟩ :: visits₁, visits₂, walk₂, w₂, w₃, rfl, rfl,
        .cons hnode hrun hrecord hbefore, hrun', hrecorded, hafter⟩

lemma Visits.nodes : visits.map (fun v => v.node.nodeId) = ids := by
  induction h with
  | nil walk w => rfl
  | cons hnode hrun hrecord hrest ih =>
    rw [List.map_cons, ih, (CompiledExecutionProgram.nodeById_eq_some.mp hnode).2]

lemma Visits.named : ∀ v ∈ visits, Named v.node v.executed.evidence := by
  induction h with
  | nil walk w => simp
  | cons hnode hrun hrecord hrest ih =>
    obtain ⟨hmem, -⟩ := CompiledExecutionProgram.nodeById_eq_some.mp hnode
    intro v hv
    rcases List.mem_cons.mp hv with rfl | hv
    · exact (visitNode_wellFormed hmem hrun).named
    · exact ih v hv

lemma Visits.concluded :
    ∀ v ∈ visits, v.node ∈ program.nodes ∧
      ∃ runs, Performs v.node v.trace runs ∧ Concluded v.node runs (.ok v.executed) := by
  induction h with
  | nil walk w => simp
  | cons hnode hrun hrecord hrest ih =>
    obtain ⟨hmem, -⟩ := CompiledExecutionProgram.nodeById_eq_some.mp hnode
    intro v hv
    rcases List.mem_cons.mp hv with rfl | hv
    · exact ⟨hmem, visitNode_concludes hmem hrun⟩
    · exact ih v hv

end Walks

/-! ## Valid results -/

/-- The failure and the stop that the executor knows are those of the evidence. -/
structure Consistent (done : List NonEmptyStr) (walk : Walk) : Prop where
  nodes : walk.evidence.map NodeExecutionEvidence.nodeId = done
  failures : walk.firstFailure = none → ∀ e ∈ walk.evidence, e.status ≠ .failed
  terminal : ∀ stop, walk.terminal = some stop →
    ∃ e ∈ walk.evidence, e.nodeId = stop.1 ∧ e.kind = .stop ∧ e.status = .succeeded

lemma consistent_empty : Consistent [] {} where
  nodes := rfl
  failures := by simp
  terminal := by simp

lemma Consistent.record {done : List NonEmptyStr} {walk walk' : Walk} {x : ExecutedNode}
    {program : CompiledExecutionProgram} (h : Consistent done walk)
    (hx : WellFormed program walk node x) (hrecorded : Recorded walk node x walk') :
    Consistent (done ++ [node.nodeId]) walk' where
  nodes := by
    rw [hrecorded.evidence, List.map_append, h.nodes, List.map_singleton, hx.named.nodeId]
  failures := by
    intro hnone e he
    rw [hrecorded.firstFailure] at hnone
    by_cases hfailed : x.evidence.status = .failed ∧ walk.firstFailure = none
    · rw [if_pos hfailed] at hnone; cases hnone
    · rw [if_neg hfailed] at hnone
      rw [hrecorded.evidence] at he
      rcases List.mem_append.mp he with he | he
      · exact h.failures hnone e he
      · rw [List.mem_singleton.mp he]
        exact fun hstatus => hfailed ⟨hstatus, hnone⟩
  terminal := by
    intro stop hstop
    rw [hrecorded.evidence]
    rcases hrecorded.terminal with ⟨hsame, -⟩ | ⟨n, value, hn, hstatus, hterminal⟩
    · obtain ⟨e, he, hfacts⟩ := h.terminal stop (hsame ▸ hstop)
      exact ⟨e, List.mem_append_left _ he, hfacts⟩
    · obtain rfl := Option.some.inj (hterminal.symm.trans hstop)
      refine ⟨x.evidence, List.mem_append_right _ List.mem_cons_self, hx.named.nodeId, ?_, hstatus⟩
      rw [hx.named.kind, hn]
      rfl

section Results

variable {program : CompiledExecutionProgram} {walk : Walk} {budget : RuntimeBudget}
  {done : List NonEmptyStr}

lemma failedResult_valid (failure : RuntimeFault) :
    (failedResult program walk budget failure).validateTerminalShape = .ok () := by
  simp [ProgramExecutionResult.validateTerminalShape, failedResult, accountedResult,
    ProgramExecutionResult.validateStopReference, ProgramExecutionResult.validateFailedTerminal,
    unit_bind_eq_ok, require_eq_ok, Json.isNull]

lemma stoppedResult_valid (h : Consistent done walk) (hfailure : walk.firstFailure = none)
    {stop : NonEmptyStr × StopNode × Json} (hstop : walk.terminal = some stop) :
    (stoppedResult program walk budget stop).validateTerminalShape = .ok () := by
  obtain ⟨id, n, value⟩ := stop
  obtain ⟨e, he, hid, hkind, hstatus⟩ := h.terminal _ hstop
  have hreached : id ∈ (stoppedResult program walk budget (id, n, value)).reachedStopIds :=
    List.mem_map.mpr ⟨e, List.mem_filter.mpr ⟨he, by simp [hkind, hstatus]⟩, hid⟩
  have hfailed : (stoppedResult program walk budget (id, n, value)).failedNodes = [] :=
    List.filter_eq_nil_iff.mpr fun e he => by simpa using h.failures hfailure e he
  have hreference :
      (stoppedResult program walk budget (id, n, value)).validateStopReference = .ok () := by
    rw [ProgramExecutionResult.validateStopReference, require_eq_ok]
    intro id' hid'
    obtain rfl : id = id' := Option.some.inj hid'
    exact hreached
  have hstopped : (stoppedResult program walk budget (id, n, value)).stopNodeId = some id := rfl
  rw [ProgramExecutionResult.validateTerminalShape, unit_bind_eq_ok]
  refine ⟨hreference, ?_⟩
  cases houtcome : n.outcome with
  | succeeded =>
    have hs : (stoppedResult program walk budget (id, n, value)).status = .succeeded := by
      simp [stoppedResult, houtcome, StopOutcome.status]
    rw [hs]
    simp [ProgramExecutionResult.validateSuccessfulTerminal, unit_bind_eq_ok, require_eq_ok,
      hfailed, hstopped]
    simp [stoppedResult, houtcome]
  | failed =>
    have hs : (stoppedResult program walk budget (id, n, value)).status = .failed := by
      simp [stoppedResult, houtcome, StopOutcome.status]
    rw [hs]
    simp [ProgramExecutionResult.validateFailedTerminal, unit_bind_eq_ok, require_eq_ok,
      hfailed, hstopped]
    simp [stoppedResult, houtcome, stopFailed]
  | stopped =>
    have hs : (stoppedResult program walk budget (id, n, value)).status = .stopped := by
      simp [stoppedResult, houtcome, StopOutcome.status]
    rw [hs]
    simp [ProgramExecutionResult.validateSuccessfulTerminal, unit_bind_eq_ok, require_eq_ok,
      hfailed, hstopped]
    simp [stoppedResult, houtcome]

lemma terminalResult_fields (program : CompiledExecutionProgram) (walk : Walk)
    (budget : RuntimeBudget) :
    (terminalResult program walk budget).totalAttempts = budget.totalAttempts ∧
      (terminalResult program walk budget).recursiveCalls = budget.recursiveCalls ∧
        (terminalResult program walk budget).nodeEvidence = walk.evidence := by
  rw [terminalResult]
  cases walk.fatalFault.or walk.firstFailure with
  | some failure => exact ⟨rfl, rfl, rfl⟩
  | none =>
    cases walk.terminal with
    | some stop | none => exact ⟨rfl, rfl, rfl⟩

/-- **The result of a walk is valid.** -/
theorem validated_terminalResult (h : Consistent done walk) :
    validated (terminalResult program walk budget) = .ok (terminalResult program walk budget) := by
  suffices hvalid : (terminalResult program walk budget).validateTerminalShape = .ok () by
    rw [validated, hvalid]
  rw [terminalResult]
  cases hfailure : walk.fatalFault.or walk.firstFailure with
  | some failure => exact failedResult_valid failure
  | none =>
    cases hstop : walk.terminal with
    | none => exact failedResult_valid noActiveStop
    | some stop => exact stoppedResult_valid h (Option.or_eq_none_iff.mp hfailure).2 hstop

end Results

/-! ## Runs of a program -/

section Programs

variable {digest : Json → String} {program : CompiledExecutionProgram}
  {registry : OperationRegistry} {limits : ProgramLimits} {walk walk' : Walk} {w w' : World}
  {ids done : List NonEmptyStr} {visits : List Visit} {tr : List (Step Op Raised)}

lemma Visits.consistent (h : Visits digest program registry limits ids walk w visits walk' w')
    (hstart : Consistent done walk) : Consistent (done ++ ids) walk' :=
  (h.along hstart fun _ _ _ _ _ _ _ _ hmem hconsistent hrun hrecorded =>
    hconsistent.record (visitNode_wellFormed hmem hrun) hrecorded).1

/-- **The runs of a program**: all nodes are visited, or an invocation of some node raises. -/
theorem executeProgram_runs {r : Except Raised ProgramExecutionResult}
    (h : Runs (semantics limits) (executeProgram digest program registry) w tr r w') :
    (∃ walk visits,
      Visits digest program registry limits program.topologicalOrder {} w visits walk w' ∧
        tr = visits.flatMap Visit.trace ++ [⟨.readBudget, .ok w'.budget⟩] ∧
          Consistent program.topologicalOrder walk ∧
            r = .ok (terminalResult program walk w'.budget)) ∨
    ∃ before node after visits walk w₁ t errors,
      program.topologicalOrder = before ++ node.nodeId :: after ∧ node ∈ program.nodes ∧
        Visits digest program registry limits before {} w visits walk w₁ ∧
          tr = visits.flatMap Visit.trace ++ t ∧
            Runs (semantics limits) (visitNode digest program registry walk node) w₁ t
              (.error (.validationError errors)) w' ∧ r = .error (.validationError errors) := by
  rcases runs_bind.mp h with ⟨e, rfl, hall⟩ | ⟨walk, t, t', w₁, rfl, hall, hend⟩
  · rcases visitAll_runs hall with ⟨walk', visits, hr, -⟩ |
      ⟨before, id, after, visits, walk, w₁, t, e', horder, hvisits, rfl, he, hvisit⟩
    · cases hr
    cases he
    rcases visit_runs hvisit with ⟨hnone, -⟩ | ⟨node, hnode, ⟨e', he, hrun⟩ | ⟨x, he, hrun⟩⟩
    · -- Every id of the order is the id of a node.
      have hid : id ∈ program.nodes.map ProgramNode.nodeId := by
        rw [← program.order_parts.2.1, horder]
        exact List.mem_append_right _ List.mem_cons_self
      obtain ⟨node, hmem, hnode⟩ := List.mem_map.mp hid
      rw [CompiledExecutionProgram.nodeById_eq_some.mpr ⟨hmem, hnode⟩] at hnone
      cases hnone
    · obtain ⟨hmem, rfl⟩ := CompiledExecutionProgram.nodeById_eq_some.mp hnode
      cases he
      obtain ⟨runs, -, hconcluded⟩ := visitNode_concludes hmem hrun
      cases hconcluded with
      | raised errors x hx hresult =>
        exact .inr ⟨before, node, after, visits, walk, w₁, t, errors, horder, hmem, hvisits, rfl,
          hrun, rfl⟩
    · obtain ⟨hmem, rfl⟩ := CompiledExecutionProgram.nodeById_eq_some.mp hnode
      obtain ⟨walk', hrecord, -⟩ := @exists_record _ walk _ (visitNode_wellFormed hmem hrun).selects
      rw [hrecord] at he
      cases he
  · rcases visitAll_runs hall with ⟨walk', visits, hr, rfl, hvisits⟩ |
      ⟨before, id, after, visits, walk, w₁, t, e', -, -, -, hr, -⟩
    · cases hr
      have hconsistent := hvisits.consistent consistent_empty
      rcases runs_bind.mp hend with ⟨e, rfl, hread⟩ | ⟨budget, t₁, t₂, w₂, rfl, hread, hleaf⟩
      · obtain ⟨i, -, he, -⟩ := runs_perform.mp hread
        cases he
      · obtain ⟨i, rfl, hbudget, rfl⟩ := runs_perform.mp hread
        cases hbudget
        obtain ⟨rfl, rfl, rfl⟩ := runs_leaf.mp hleaf
        exact .inl ⟨walk, visits, hvisits, by simp [semantics], hconsistent,
          validated_terminalResult hconsistent⟩
    · cases hr

end Programs

end AecBench.ProgramExecution
