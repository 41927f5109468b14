import AecBench.Harness.ProgramExecution.Fatality

/-!
# When nodes are executed

A node is executed when the branches that target it selected it and its dependencies succeeded. A
join only looks at its sources, so another dependency of a join can have failed.

## Main definitions

* `Activated` — what has to hold when a node is executed.
* `Tracks` — the maps of the executor are those of the evidence so far.
* `ActivationSound` — what has to hold of a run.
* `JoinsReady` — the other dependencies of the joins succeed.

## Main results

* `visitNode_reads` — a node reads only outputs that the executor knows.
* `execution_activationSound_iff` — when the activation of a run is sound.
-/

namespace AecBench.ProgramExecution

open AecBench.Contracts
open Program (Runs Step)
open Text (NonEmptyStr)
open Validation

/-! ## Reads -/

/-- The bindings that have a source are values that can be read. -/
def Reads (walk : Walk) (bindings : List InputBindingLineage) : Prop :=
  ∀ b ∈ bindings, ∀ id, b.sourceNodeId = some id →
    ∃ reference value, reference.nodeId = id ∧ resolveOutput walk reference = .ok value

section Reads

variable {digest : Json → String} {program : CompiledExecutionProgram}
  {registry : OperationRegistry} {limits : ProgramLimits} {walk : Walk} {node : ProgramNode}
  {bindings : List InputBindingLineage}

lemma reads_nil : Reads walk [] := fun _ hb => absurd hb List.not_mem_nil

lemma Reads.append {others : List InputBindingLineage} (h : Reads walk bindings)
    (h' : Reads walk others) : Reads walk (bindings ++ others) := by
  intro b hb
  rcases List.mem_append.mp hb with hb | hb
  · exact h b hb
  · exact h' b hb

lemma reads_inputBinding {reference : ProgramOutputRef} {value : Json}
    (hread : resolveOutput walk reference = .ok value)
    (h : ∀ b ∈ bindings, b.sourceNodeId = some reference.nodeId) : Reads walk bindings := by
  intro b hb id hid
  exact ⟨reference, value, Option.some.inj ((h b hb).symm.trans hid), hread⟩

lemma reads_bindArguments {arguments : List ProgramArgument} {values : JsonObject}
    (h : bindArguments digest walk arguments = .ok (values, bindings)) : Reads walk bindings := by
  rw [bindArguments] at h
  cases hbound : arguments.mapM (bindArgument digest walk) with
  | error e => rw [hbound] at h; cases h
  | ok bound =>
    rw [hbound] at h
    cases h
    intro b hb id hid
    obtain ⟨⟨v, b⟩, hmem, rfl⟩ := List.mem_map.mp hb
    obtain ⟨argument, -, hargument⟩ := exists_of_mem_mapM hbound _ hmem
    rw [bindArgument] at hargument
    cases hvalue : argument.value with
    | literal value =>
      rw [hvalue] at hargument
      cases hargument
      cases hid
    | output reference =>
      rw [hvalue] at hargument
      cases hread : resolveOutput walk reference with
      | error e => simp only [hread] at hargument; cases hargument
      | ok value =>
        simp only [hread] at hargument
        cases hargument
        exact ⟨reference, _, Option.some.inj hid, hread⟩

lemma reads_joined {n : JoinNode} {available : List (ProgramOutputRef × Json)}
    (h : availableSources walk n = .ok available) :
    Reads walk (joined digest node n available).evidence.inputBindings := by
  have hread : ∀ s ∈ available, ∃ value, resolveOutput walk s.1 = .ok value := by
    intro s hs
    obtain ⟨source, -, hsource⟩ := exists_of_mem_mapM h s hs
    cases hvalue : resolveOutput walk source with
    | error e => rw [hvalue] at hsource; cases hsource
    | ok value =>
      rw [hvalue] at hsource
      cases hsource
      exact ⟨value, hvalue⟩
  intro b hb id hid
  obtain ⟨k, hk, rfl⟩ := List.mem_mapIdx.mp hb
  generalize hs : (if n.strategy = .firstSuccess then available.take 1 else available)[k] = s at hid
  have hmem : s ∈ available := by
    have hin := List.getElem_mem hk
    rw [hs] at hin
    by_cases hstrategy : n.strategy = .firstSuccess
    · rw [if_pos hstrategy] at hin
      exact List.mem_of_mem_take hin
    · rwa [if_neg hstrategy] at hin
  obtain ⟨value, hvalue⟩ := hread s hmem
  exact ⟨s.1, value, Option.some.inj hid, hvalue⟩

lemma reads_prepareAction {n : ActionNode} {p : Prepared}
    (h : prepareAction digest program registry walk node n = .ok p) : Reads walk p.bindings := by
  simp only [prepareAction, bind_eq_ok] at h
  obtain ⟨⟨values, bindings⟩, harguments, registration, -, h⟩ := h
  cases h
  exact reads_bindArguments harguments

lemma reads_prepareVerify {n : VerifyNode} {p : Prepared}
    (h : prepareVerify digest program registry walk node n = .ok p) : Reads walk p.bindings := by
  simp only [prepareVerify, bind_eq_ok] at h
  obtain ⟨⟨values, bindings⟩, harguments, u, -, subject, hsubject, registration, -, h⟩ := h
  cases h
  refine (reads_bindArguments harguments).append (reads_inputBinding hsubject fun b hb => ?_)
  rw [List.mem_singleton.mp hb]
  rfl

lemma reads_prepareFanout {n : FanoutNode} {p : PreparedFanout}
    (h : prepareFanout digest program registry walk node n = .ok p) : Reads walk p.bindings := by
  simp only [prepareFanout, bind_eq_ok] at h
  obtain ⟨⟨values, bindings⟩, harguments, u, -, value, hvalue, items, -, registration, -, h⟩ := h
  cases h
  refine (reads_bindArguments harguments).append (reads_inputBinding hvalue fun b hb => ?_)
  rcases List.mem_cons.mp hb with rfl | hb
  · rfl
  · obtain ⟨k, hk, rfl⟩ := List.mem_mapIdx.mp hb
    rfl

variable {x : ExecutedNode}

lemma reads_branched {n : BranchNode} (h : branched digest walk node n = .ok x) :
    Reads walk x.evidence.inputBindings := by
  simp only [branched, bind_eq_ok] at h
  obtain ⟨value, hvalue, answer, -, h⟩ := h
  cases h
  exact reads_inputBinding hvalue fun b hb => by rw [List.mem_singleton.mp hb]; rfl

lemma reads_stopped {n : StopNode} (h : stopped digest walk node n = .ok x) :
    Reads walk x.evidence.inputBindings := by
  rw [stopped] at h
  cases hresult : n.result with
  | none =>
    rw [hresult] at h
    cases h
    exact reads_nil
  | some reference =>
    rw [hresult] at h
    cases hvalue : resolveOutput walk reference with
    | error e => simp only [hvalue] at h; cases h
    | ok value =>
      simp only [hvalue] at h
      cases h
      exact reads_inputBinding hvalue fun b hb => by rw [List.mem_singleton.mp hb]; rfl

/-- What a task reads. -/
def Task.Reading (walk : Walk) : Task → Prop
  | .settle _ outcome => ∀ x, outcome = .ok x → Reads walk x.evidence.inputBindings
  | .operation p => Reads walk p.bindings
  | .fanout _ p => Reads walk p.bindings

lemma reading_joinTask (n : JoinNode) : (joinTask digest walk node n).Reading walk := by
  rw [joinTask]
  cases havailable : availableSources walk n with
  | error e => exact fun x hx => by cases hx
  | ok available =>
    dsimp only
    by_cases hall : n.strategy = .all ∧ available.length ≠ n.sources.length
    · rw [if_pos hall]
      intro x hx
      cases hx
      exact reads_nil
    · rw [if_neg hall]
      by_cases hnone : available = []
      · rw [if_pos hnone]
        intro x hx
        cases hx
        exact reads_nil
      · rw [if_neg hnone]
        intro x hx
        cases hx
        exact reads_joined havailable

lemma reading_operationTask {prepared : Except Raised Prepared}
    (h : ∀ p, prepared = .ok p → Reads walk p.bindings) : (operationTask prepared).Reading walk := by
  cases prepared with
  | error e => exact fun x hx => by cases hx
  | ok p => exact h p rfl

lemma reading_task : (task digest program registry walk node).Reading walk := by
  rw [task]
  cases node.body with
  | action n => exact reading_operationTask fun p hp => reads_prepareAction hp
  | verify n => exact reading_operationTask fun p hp => reads_prepareVerify hp
  | fanout n =>
    dsimp only
    cases hprepared : prepareFanout digest program registry walk node n with
    | error e => exact fun x hx => by cases hx
    | ok p => exact reads_prepareFanout hprepared
  | join n => exact reading_joinTask n
  | branch n => exact fun x hx => reads_branched hx
  | stop n => exact fun x hx => reads_stopped hx

lemma fanoutOutcome_bindings {p : PreparedFanout} {invocations : List InvocationResult}
    (h : fanoutOutcome node p invocations = .ok x) : x.evidence.inputBindings = p.bindings := by
  rw [fanoutOutcome] at h
  cases hfailure : invocations.find? fun invocation => !invocation.succeeded with
  | some failure =>
    rw [hfailure] at h
    cases h
    rfl
  | none =>
    rw [hfailure] at h
    cases haggregate : aggregateFanoutOutputs invocations with
    | error e => rw [haggregate] at h; cases h
    | ok outputs =>
      rw [haggregate] at h
      cases h
      rfl

/-- **A node reads only outputs that the executor knows.** -/
theorem visitNode_reads {tr : List (Step Op Raised)} {w w' : World}
    (h : Runs (semantics limits) (visitNode digest program registry walk node) w tr (.ok x) w') :
    Reads walk x.evidence.inputBindings := by
  rcases visitNode_runs h with ⟨code, hx, -⟩ | ⟨-, -, r₀, hcaught, hrun⟩
  · cases hx
    exact reads_nil
  rcases caught_eq_ok.mp hcaught.symm with rfl | ⟨f, rfl, rfl⟩
  · have hreading := @reading_task digest program registry walk node
    cases htask : task digest program registry walk node with
    | settle announced outcome =>
      rw [htask] at hreading hrun
      obtain ⟨rfl, -⟩ := runTask_settle hrun
      exact hreading x rfl
    | operation p =>
      rw [htask] at hreading hrun
      obtain ⟨t, r₁, -, -, hr₁⟩ := runTask_operation hrun
      cases r₁ with
      | error e => cases hr₁
      | ok invocation =>
        cases hr₁
        exact hreading
    | fanout n p =>
      rw [htask] at hreading hrun
      obtain ⟨t, items, -, -, -, hr₁⟩ := runTask_fanout hrun
      obtain ⟨invocations, -, hr₁⟩ := bind_eq_ok.mp hr₁.symm
      rw [fanoutOutcome_bindings hr₁]
      exact hreading
  · exact reads_nil

end Reads

/-! ## What the executor knows -/

/-- The node succeeded, as the evidence says. -/
def Succeeded (evidence : List NodeExecutionEvidence) (id : NonEmptyStr) : Prop :=
  ∃ e ∈ evidence, e.nodeId = id ∧ e.status = .succeeded

/-- The stops that were reached. -/
def reachedStops (evidence : List NodeExecutionEvidence) : List NodeExecutionEvidence :=
  evidence.filter fun e => e.kind = .stop ∧ e.status = .succeeded

/-- Every binding of an entry of evidence has its source among the entries before it. -/
def ReadsEarlier (evidence : List NodeExecutionEvidence) : Prop :=
  ∀ before e after, evidence = before ++ e :: after → ∀ b ∈ e.inputBindings, ∀ id,
    b.sourceNodeId = some id → Succeeded before id

/-- The maps of the executor are those of the evidence so far. -/
structure Tracks (program : CompiledExecutionProgram) (done : List NonEmptyStr) (walk : Walk) :
    Prop where
  nodes : walk.evidence.map NodeExecutionEvidence.nodeId = done
  statuses : ∀ id s, walk.statuses id = some s → ∃ e ∈ walk.evidence, e.nodeId = id ∧ e.status = s
  outputs : ∀ id o, walk.outputs id = some o → Succeeded walk.evidence id
  choices : ∀ id target, walk.branchChoices id = some target → ∃ e ∈ walk.evidence,
    e.nodeId = id ∧ e.status = .succeeded ∧ e.selectedSuccessorNodeId = some target
  one_stop : (reachedStops walk.evidence).length ≤ 1
  running : walk.terminated = false → reachedStops walk.evidence = []
  terminal : ∀ stop, walk.terminal = some stop → ∃ node ∈ program.nodes,
    node.nodeId = stop.1 ∧ node.body = .stop stop.2.1 ∧ Succeeded walk.evidence node.nodeId
  reads : ReadsEarlier walk.evidence

section Tracks

variable {program : CompiledExecutionProgram} {done : List NonEmptyStr} {walk walk' : Walk}
  {node : ProgramNode} {x : ExecutedNode}

variable {evidence : List NodeExecutionEvidence}

lemma Succeeded.append {others : List NodeExecutionEvidence} {id : NonEmptyStr}
    (h : Succeeded evidence id) : Succeeded (evidence ++ others) id := by
  obtain ⟨e, he, hfacts⟩ := h
  exact ⟨e, List.mem_append_left _ he, hfacts⟩

lemma tracks_empty : Tracks program [] {} where
  nodes := rfl
  statuses := by simp
  outputs := by simp
  choices := by simp
  one_stop := Nat.zero_le _
  running := fun _ => rfl
  terminal := by simp
  reads := by
    intro before e after h
    simp at h

lemma Tracks.read (h : Tracks program done walk) {reference : ProgramOutputRef} {value : Json}
    (hread : resolveOutput walk reference = .ok value) :
    Succeeded walk.evidence reference.nodeId := by
  rw [resolveOutput] at hread
  cases houtputs : walk.outputs reference.nodeId with
  | some outputs => exact h.outputs _ _ houtputs
  | none =>
    rw [houtputs, Option.bind_none] at hread
    cases hread

lemma WellFormed.running (h : WellFormed program walk node x)
    (hstatus : x.evidence.status ≠ .skipped) : walk.terminated = false := by
  rcases h.active with ⟨code, hx, -⟩ | ⟨hrunning, -, -⟩
  · rw [hx] at hstatus
    exact absurd rfl hstatus
  · exact hrunning

lemma Tracks.stops (h : Tracks program done walk) (hx : WellFormed program walk node x)
    (hrecorded : Recorded walk node x walk') :
    (reachedStops walk'.evidence).length ≤ 1 ∧
      (walk'.terminated = false → reachedStops walk'.evidence = []) := by
  rw [hrecorded.evidence, reachedStops, List.filter_append]
  by_cases hstop : x.evidence.kind = .stop ∧ x.evidence.status = .succeeded
  · have hrunning := hx.running (by rw [hstop.2]; decide)
    have hnone : (walk.evidence.filter fun e => e.kind = .stop ∧ e.status = .succeeded) = [] :=
      h.running hrunning
    rw [hnone, List.filter_singleton, decide_eq_true hstop]
    refine ⟨le_rfl, fun hnot => ?_⟩
    have hkind : node.body.kind = .stop := hx.named.kind.symm.trans hstop.1
    rw [hrecorded.terminated.mpr (.inr (.inl ⟨hkind, hstop.2⟩))] at hnot
    cases hnot
  · have hnil : ([x.evidence].filter fun e => e.kind = .stop ∧ e.status = .succeeded) = [] := by
      rw [List.filter_singleton, decide_eq_false hstop]
      rfl
    rw [hnil, List.append_nil]
    refine ⟨h.one_stop, fun hnot => h.running ?_⟩
    rw [← Bool.not_eq_true] at hnot ⊢
    exact fun hterminated => hnot (hrecorded.terminated.mpr (.inl hterminated))

lemma ReadsEarlier.append {last : NodeExecutionEvidence} (h : ReadsEarlier evidence)
    (hlast : ∀ b ∈ last.inputBindings, ∀ id, b.sourceNodeId = some id → Succeeded evidence id) :
    ReadsEarlier (evidence ++ [last]) := by
  intro before e after hsplit b hb id hid
  rcases List.eq_nil_or_concat after with rfl | ⟨rest, e', rfl⟩
  · obtain ⟨rfl, hsame⟩ := List.append_inj' hsplit rfl
    cases hsame
    exact hlast b hb id hid
  · rw [List.concat_eq_append, ← List.cons_append, ← List.append_assoc] at hsplit
    exact h before e rest (List.append_inj' hsplit rfl).1 b hb id hid

/-- **The maps of the executor are those of the evidence** after a node is recorded. -/
lemma Tracks.record (h : Tracks program done walk) (hmem : node ∈ program.nodes)
    (hx : WellFormed program walk node x) (hreads : Reads walk x.evidence.inputBindings)
    (hrecorded : Recorded walk node x walk') : Tracks program (done ++ [node.nodeId]) walk' where
  nodes := by
    rw [hrecorded.evidence, List.map_append, h.nodes, List.map_singleton, hx.named.nodeId]
  statuses := by
    intro id s hs
    rw [hrecorded.statuses] at hs
    rw [hrecorded.evidence]
    by_cases hid : id = node.nodeId
    · subst hid
      rw [Function.update_self] at hs
      exact ⟨x.evidence, by simp, hx.named.nodeId, Option.some.inj hs⟩
    · rw [Function.update_of_ne hid] at hs
      obtain ⟨e, he, hfacts⟩ := h.statuses id s hs
      exact ⟨e, List.mem_append_left _ he, hfacts⟩
  outputs := by
    intro id o ho
    rw [hrecorded.outputs] at ho
    rw [hrecorded.evidence]
    by_cases hstatus : x.evidence.status = .succeeded
    · rw [if_pos hstatus] at ho
      by_cases hid : id = node.nodeId
      · subst hid
        exact ⟨x.evidence, by simp, hx.named.nodeId, hstatus⟩
      · rw [Function.update_of_ne hid] at ho
        exact (h.outputs id o ho).append
    · rw [if_neg hstatus] at ho
      exact (h.outputs id o ho).append
  choices := by
    intro id target htarget
    rw [hrecorded.branchChoices] at htarget
    rw [hrecorded.evidence]
    have hold : walk.branchChoices id = some target → ∃ e ∈ walk.evidence ++ [x.evidence],
        e.nodeId = id ∧ e.status = .succeeded ∧ e.selectedSuccessorNodeId = some target := by
      intro hchoice
      obtain ⟨e, he, hfacts⟩ := h.choices id target hchoice
      exact ⟨e, List.mem_append_left _ he, hfacts⟩
    by_cases hbranch : node.body.kind = .branch ∧ x.evidence.status = .succeeded
    · rw [if_pos hbranch] at htarget
      by_cases hid : id = node.nodeId
      · subst hid
        rw [Function.update_self] at htarget
        exact ⟨x.evidence, by simp, hx.named.nodeId, hbranch.2, htarget⟩
      · rw [Function.update_of_ne hid] at htarget
        exact hold htarget
    · rw [if_neg hbranch] at htarget
      exact hold htarget
  one_stop := (h.stops hx hrecorded).1
  running := (h.stops hx hrecorded).2
  terminal := by
    intro stop hstop
    rw [hrecorded.evidence]
    rcases hrecorded.terminal with ⟨hsame, -⟩ | ⟨n, value, hn, hstatus, hterminal⟩
    · obtain ⟨node', hmem', hid, hbody, hsucceeded⟩ := h.terminal stop (hsame ▸ hstop)
      exact ⟨node', hmem', hid, hbody, hsucceeded.append⟩
    · obtain rfl := Option.some.inj (hterminal.symm.trans hstop)
      exact ⟨node, hmem, rfl, hn, x.evidence, by simp, hx.named.nodeId, hstatus⟩
  reads := by
    rw [hrecorded.evidence]
    refine h.reads.append fun b hb id hid => ?_
    obtain ⟨reference, value, rfl, hread⟩ := hreads b hb id hid
    exact h.read hread

end Tracks

/-! ## Activation -/

/-- The nodes from which a node takes what is there: the sources of a join. -/
def sourceIds : ProgramNodeBody → List NonEmptyStr
  | .join n => n.sources.map ProgramOutputRef.nodeId
  | _ => []

/-- The sources of a join meet its strategy. -/
def StrategyMet (evidence : List NodeExecutionEvidence) (n : JoinNode) : Prop :=
  if n.strategy = .all then ∀ source ∈ n.sources, Succeeded evidence source.nodeId
  else ∃ source ∈ n.sources, Succeeded evidence source.nodeId

/-- What has to hold when a node is executed: its dependencies succeeded, or, for a join, its
strategy is met and its other dependencies succeeded. -/
structure Activated (walk : Walk) (node : ProgramNode) : Prop where
  dependencies : ∀ id ∈ node.dependsOn, id ∉ sourceIds node.body → Succeeded walk.evidence id
  sources : ∀ n, node.body = .join n → StrategyMet walk.evidence n

section Activation

variable {digest : Json → String} {program : CompiledExecutionProgram}
  {registry : OperationRegistry} {limits : ProgramLimits} {walk : Walk} {node : ProgramNode}
  {done : List NonEmptyStr} {tr : List (Step Op Raised)} {w w' : World}

lemma activationError_eq_none (h : activationError program walk node = none) :
    (∀ branch ∈ program.nodes, node.nodeId ∈ branch.body.targets →
      walk.branchChoices branch.nodeId = some node.nodeId) ∧
        (node.body.kind ≠ .join → ∀ id ∈ node.dependsOn,
          walk.statuses id = some .succeeded) := by
  rw [activationError] at h
  split_ifs at h with hactive hselected hjoin hdependencies
  · refine ⟨fun branch hbranch htarget => ?_, fun hkind => absurd hjoin hkind⟩
    have hcontrol : branch.nodeId ∈ branchControls program node.nodeId := by
      rw [branchControls, List.mem_insertionSort]
      exact List.mem_map_of_mem (List.mem_filter.mpr ⟨hbranch, by simpa using htarget⟩)
    by_contra hne
    exact hselected (List.any_eq_true.mpr ⟨_, hcontrol, by simpa using hne⟩)
  · refine ⟨fun branch hbranch htarget => ?_, fun _ id hid => ?_⟩
    · have hcontrol : branch.nodeId ∈ branchControls program node.nodeId := by
        rw [branchControls, List.mem_insertionSort]
        exact List.mem_map_of_mem (List.mem_filter.mpr ⟨hbranch, by simpa using htarget⟩)
      by_contra hne
      exact hselected (List.any_eq_true.mpr ⟨_, hcontrol, by simpa using hne⟩)
    · by_contra hne
      exact hdependencies (List.any_eq_true.mpr ⟨id, hid, by simpa using hne⟩)

variable {answer : Except Raised Unit} {r : Except Raised ExecutedNode}

lemma join_executes {n : JoinNode} {node' : ProgramNode} {known : Walk} (hn : node.body = .join n)
    (h : Runs (semantics limits) (visitNode digest program registry walk node) w tr r w')
    (hstep : ⟨.execute node' known, answer⟩ ∈ tr) :
    ∃ available, availableSources walk n = .ok available ∧
      (n.strategy = .all → available.length = n.sources.length) ∧ available ≠ [] := by
  rcases visitNode_runs h with ⟨code, -, rfl, -⟩ | ⟨-, -, r₀, -, hrun⟩
  · cases hstep
  have htask : task digest program registry walk node = joinTask digest walk node n := by
    rw [task, hn]
  rw [htask, joinTask] at hrun
  cases havailable : availableSources walk n with
  | error e =>
    rw [havailable] at hrun
    obtain ⟨-, -, rfl⟩ := runTask_settle hrun
    cases hstep
  | ok available =>
    rw [havailable] at hrun
    dsimp only at hrun
    by_cases hall : n.strategy = .all ∧ available.length ≠ n.sources.length
    · rw [if_pos hall] at hrun
      obtain ⟨-, -, rfl⟩ := runTask_settle hrun
      cases hstep
    · rw [if_neg hall] at hrun
      by_cases hnone : available = []
      · rw [if_pos hnone] at hrun
        obtain ⟨-, -, rfl⟩ := runTask_settle hrun
        cases hstep
      · refine ⟨available, rfl, fun hstrategy => ?_, hnone⟩
        by_contra hne
        exact hall ⟨hstrategy, hne⟩

lemma Tracks.strategyMet {n : JoinNode} {available : List (ProgramOutputRef × Json)}
    (h : Tracks program done walk) (havailable : availableSources walk n = .ok available)
    (hall : n.strategy = .all → available.length = n.sources.length) (hne : available ≠ []) :
    StrategyMet walk.evidence n := by
  have hlength := (mapM_eq_ok.mp havailable).length_eq
  rw [StrategyMet]
  by_cases hstrategy : n.strategy = .all
  · rw [if_pos hstrategy]
    rw [hall hstrategy, List.length_filter_eq_length_iff] at hlength
    intro source hsource
    exact h.statuses _ _ (by simpa using hlength source hsource)
  · rw [if_neg hstrategy]
    obtain ⟨source, hsource⟩ := List.exists_mem_of_length_pos
      (hlength ▸ List.length_pos_iff.mpr hne)
    obtain ⟨hmem, hstatus⟩ := List.mem_filter.mp hsource
    exact ⟨source, hmem, h.statuses _ _ (by simpa using hstatus)⟩

/-- What holds when a node is executed, whatever its handlers do. -/
structure Announced (program : CompiledExecutionProgram) (final : List NodeExecutionEvidence)
    (walk : Walk) (node : ProgramNode) : Prop where
  tracks : ∃ before after, program.topologicalOrder = before ++ node.nodeId :: after ∧
    Tracks program before walk
  known : ∀ e ∈ walk.evidence, e ∈ final
  active : activationError program walk node = none
  joins : ∀ n, node.body = .join n → StrategyMet walk.evidence n

lemma announced {before after : List NonEmptyStr} {final : List NodeExecutionEvidence}
    {node' : ProgramNode} {known : Walk}
    (horder : program.topologicalOrder = before ++ node.nodeId :: after)
    (htracks : Tracks program before walk) (hknown : ∀ e ∈ walk.evidence, e ∈ final)
    (h : Runs (semantics limits) (visitNode digest program registry walk node) w tr r w')
    (hstep : ⟨.execute node' known, answer⟩ ∈ tr) : Announced program final known node' := by
  obtain ⟨rfl, rfl, -, hactive⟩ := visitNode_executes h hstep
  refine ⟨⟨before, after, horder, htracks⟩, hknown, hactive, fun n hn => ?_⟩
  obtain ⟨available, havailable, hall, hne⟩ := join_executes hn h hstep
  exact htracks.strategyMet havailable hall hne

end Activation

/-! ## Runs -/

/-- What has to hold of the result of a run: what it reads comes from earlier nodes that succeeded,
it reaches at most one stop, and it has the outcome of a stop only if that stop was reached and no
node failed. -/
structure ResultSound (program : CompiledExecutionProgram) (result : ProgramExecutionResult) :
    Prop where
  reads : ReadsEarlier result.nodeEvidence
  stops : (reachedStops result.nodeEvidence).length ≤ 1
  status : result.status ≠ .failed → ∃ node ∈ program.nodes, ∃ n, node.body = .stop n ∧
    StopOutcome.status n.outcome = result.status ∧ Succeeded result.nodeEvidence node.nodeId ∧
      ∀ e ∈ result.nodeEvidence, e.status ≠ .failed

/-- What has to hold of a run: of every node when it is executed, and of the result. -/
structure ActivationSound (program : CompiledExecutionProgram) (tr : List (Step Op Raised))
    (r : Except Raised ProgramExecutionResult) : Prop where
  activated : ∀ node walk answer, ⟨.execute node walk, answer⟩ ∈ tr → Activated walk node
  /-- The evidence then is that of the nodes before it, and it can only read their outputs. -/
  earlier : ∀ node walk answer, ⟨.execute node walk, answer⟩ ∈ tr →
    (∃ after, program.topologicalOrder =
      walk.evidence.map NodeExecutionEvidence.nodeId ++ node.nodeId :: after) ∧
        ∀ reference value, resolveOutput walk reference = .ok value →
          Succeeded walk.evidence reference.nodeId
  selected : ∀ branch ∈ program.nodes, ∀ node walk answer, ⟨.execute node walk, answer⟩ ∈ tr →
    node.nodeId ∈ branch.body.targets → ∃ e ∈ walk.evidence, e.nodeId = branch.nodeId ∧
      e.status = .succeeded ∧ e.selectedSuccessorNodeId = some node.nodeId
  exclusive : ∀ branch ∈ program.nodes, ∀ node walk answer node' walk' answer',
    ⟨.execute node walk, answer⟩ ∈ tr → ⟨.execute node' walk', answer'⟩ ∈ tr →
      node.nodeId ∈ branch.body.targets → node'.nodeId ∈ branch.body.targets →
        node.nodeId = node'.nodeId
  result : ∀ result, r = .ok result → ResultSound program result

/-- When a join is executed, its dependencies succeeded that are neither its sources nor branches
that target it. -/
def JoinsReady (program : CompiledExecutionProgram) (tr : List (Step Op Raised)) : Prop :=
  ∀ node walk answer, ⟨.execute node walk, answer⟩ ∈ tr → ∀ n, node.body = .join n →
    ∀ id ∈ node.dependsOn, id ∉ n.sources.map ProgramOutputRef.nodeId →
      (∀ branch ∈ program.nodes, branch.nodeId = id → node.nodeId ∉ branch.body.targets) →
        Succeeded walk.evidence id

section Runs

variable {digest : Json → String} {program : CompiledExecutionProgram}
  {registry : OperationRegistry} {limits : ProgramLimits} {walk walk' : Walk} {w w' : World}
  {ids done : List NonEmptyStr} {visits : List Visit} {tr : List (Step Op Raised)}
  {final : Walk} {node : ProgramNode}

lemma Visits.tracks (h : Visits digest program registry limits ids walk w visits walk' w')
    (hstart : Tracks program done walk) :
    Tracks program (done ++ ids) walk' ∧ ∀ v ∈ visits, ∃ before after,
      done ++ ids = before ++ v.node.nodeId :: after ∧ Tracks program before v.walk := by
  obtain ⟨hend, hvisits⟩ := h.along hstart fun done walk node w t x w₁ walk₁ hmem htracks hrun hrec =>
    htracks.record hmem (visitNode_wellFormed hmem hrun) (visitNode_reads hrun) hrec
  exact ⟨hend, fun v hv => (hvisits v hv).2.2⟩

lemma Visits.announced (h : Visits digest program registry limits ids {} w visits walk' w')
    {rest : List NonEmptyStr} (horder : program.topologicalOrder = ids ++ rest)
    {answer : Except Raised Unit}
    (hstep : ⟨.execute node walk, answer⟩ ∈ visits.flatMap Visit.trace) :
    Announced program walk'.evidence walk node := by
  obtain ⟨v, hv, hstep⟩ := List.mem_flatMap.mp hstep
  obtain ⟨before, after, hids, htracks⟩ := (h.tracks tracks_empty).2 v hv
  obtain ⟨first, last, visits₁, visits₂, walk₁, w₁, w₂, -, hvisits, hbefore, hrun, -⟩ := h.split hv
  have horder' : program.topologicalOrder = before ++ v.node.nodeId :: (after ++ rest) := by
    rw [List.nil_append] at hids
    rw [horder, hids, List.append_assoc, List.cons_append]
  refine ProgramExecution.announced horder' htracks (fun e he => ?_) hrun hstep
  · rw [hbefore.evidence] at he
    rw [h.evidence, hvisits, List.map_append, ← List.append_assoc]
    exact List.mem_append_left _ he

variable {r : Except Raised ProgramExecutionResult}

/-- **What is announced in a run**, and what the executor knows at its end. -/
theorem runs_announced
    (h : Runs (semantics limits) (executeProgram digest program registry) {} tr r w) :
    ∃ done final, done.Nodup ∧ Tracks program done final ∧
      (∀ node walk answer, ⟨.execute node walk, answer⟩ ∈ tr →
        Announced program final.evidence walk node) ∧
          ∀ result, r = .ok result → Consistent done final ∧
            ∃ budget, result = terminalResult program final budget := by
  rcases executeProgram_runs h with ⟨walk, visits, hvisits, rfl, hconsistent, rfl⟩ |
    ⟨before, node, after, visits, walk, w₁, t, errors, horder, hmem, hvisits, rfl, hrun, rfl⟩
  · refine ⟨_, walk, program.order_parts.1, (hvisits.tracks tracks_empty).1,
      fun node known answer hstep => ?_, fun result hresult => ?_⟩
    · rcases List.mem_append.mp hstep with hstep | hstep
      · exact hvisits.announced (List.append_nil _).symm hstep
      · have hannounces : Announces ⟨.execute node known, answer⟩ := trivial
        rw [List.mem_singleton.mp hstep] at hannounces
        exact hannounces.elim
    · obtain rfl := Except.ok.inj hresult
      exact ⟨hconsistent, w.budget, rfl⟩
  · have hnodup := program.order_parts.1
    rw [horder] at hnodup
    have htracks := (hvisits.tracks tracks_empty).1
    refine ⟨before, walk, (List.nodup_append.mp hnodup).1, htracks,
      fun node' known answer hstep => ?_, fun result hresult => by cases hresult⟩
    rcases List.mem_append.mp hstep with hstep | hstep
    · exact hvisits.announced horder hstep
    · exact announced horder htracks (fun e he => he) hrun hstep

lemma Announced.selected (h : Announced program final.evidence walk node) {branch : ProgramNode}
    (hbranch : branch ∈ program.nodes) (htarget : node.nodeId ∈ branch.body.targets) :
    ∃ e ∈ walk.evidence, e.nodeId = branch.nodeId ∧ e.status = .succeeded ∧
      e.selectedSuccessorNodeId = some node.nodeId := by
  obtain ⟨before, after, -, htracks⟩ := h.tracks
  exact htracks.choices _ _ ((activationError_eq_none h.active).1 branch hbranch htarget)

/-- A node that is no join is executed when all its dependencies succeeded, and a join when its
other dependencies did. -/
lemma Announced.activated (h : Announced program final.evidence walk node)
    (hjoins : ∀ n, node.body = .join n → ∀ id ∈ node.dependsOn,
      id ∉ n.sources.map ProgramOutputRef.nodeId → Succeeded walk.evidence id) :
    Activated walk node := by
  refine ⟨fun id hid hsource => ?_, h.joins⟩
  by_cases hkind : node.body.kind = .join
  · cases hn : node.body with
    | join n =>
      rw [hn] at hsource
      exact hjoins n hn id hid hsource
    | action n | fanout n | branch n | verify n | stop n => rw [hn] at hkind; cases hkind
  · obtain ⟨before, after, -, htracks⟩ := h.tracks
    exact htracks.statuses _ _ ((activationError_eq_none h.active).2 hkind id hid)

lemma Tracks.resultSound (h : Tracks program done final) (hconsistent : Consistent done final)
    (budget : RuntimeBudget) : ResultSound program (terminalResult program final budget) := by
  have hevidence := (terminalResult_fields program final budget).2.2
  refine ⟨hevidence ▸ h.reads, hevidence ▸ h.one_stop, fun hstatus => ?_⟩
  rw [terminalResult] at hstatus ⊢
  cases hfailure : final.fatalFault.or final.firstFailure with
  | some failure =>
    rw [hfailure] at hstatus
    exact absurd rfl hstatus
  | none =>
    rw [hfailure] at hstatus
    cases hstop : final.terminal with
    | none =>
      rw [hstop] at hstatus
      exact absurd rfl hstatus
    | some stop =>
      obtain ⟨node, hmem, -, hbody, hsucceeded⟩ := h.terminal stop hstop
      exact ⟨node, hmem, stop.2.1, hbody, rfl, hsucceeded,
        hconsistent.failures (Option.or_eq_none_iff.mp hfailure).2⟩

/-- **When the activation of a run is sound**: its joins are ready. -/
theorem runs_activationSound_iff
    (h : Runs (semantics limits) (executeProgram digest program registry) {} tr r w) :
    ActivationSound program tr r ↔ JoinsReady program tr := by
  obtain ⟨done, final, hnodup, htracks, hannounced, hresult⟩ := runs_announced h
  constructor
  · intro hsound node walk answer hstep n hn id hid hsource _
    exact (hsound.activated node walk answer hstep).dependencies id hid (by rwa [hn])
  · intro hready
    refine ⟨fun node walk answer hstep => ?_, fun node walk answer hstep => ?_,
      fun branch hbranch node walk answer hstep => (hannounced _ _ _ hstep).selected hbranch, ?_, ?_⟩
    · refine (hannounced _ _ _ hstep).activated fun n hn id hid hsource => ?_
      by_cases hcontrol : ∃ branch ∈ program.nodes, branch.nodeId = id ∧
          node.nodeId ∈ branch.body.targets
      · obtain ⟨branch, hbranch, rfl, htarget⟩ := hcontrol
        obtain ⟨e, he, hid', hstatus, -⟩ := (hannounced _ _ _ hstep).selected hbranch htarget
        exact ⟨e, he, hid', hstatus⟩
      · refine hready node walk answer hstep n hn id hid hsource fun branch hbranch hid' htarget => ?_
        exact hcontrol ⟨branch, hbranch, hid', htarget⟩
    · obtain ⟨before, after, horder, hbefore⟩ := (hannounced _ _ _ hstep).tracks
      exact ⟨⟨after, by rw [hbefore.nodes, horder]⟩, fun reference value hread => hbefore.read hread⟩
    · -- Both targets were selected by the one entry of evidence that the branch has.
      intro branch hbranch node walk answer node' walk' answer' hstep hstep' htarget htarget'
      obtain ⟨e, he, hid, -, hselected⟩ := (hannounced _ _ _ hstep).selected hbranch htarget
      obtain ⟨e', he', hid', -, hselected'⟩ := (hannounced _ _ _ hstep').selected hbranch htarget'
      have hsame : e = e' := by
        refine List.inj_on_of_nodup_map (htracks.nodes ▸ hnodup) ?_ ?_ (hid.trans hid'.symm)
        · exact (hannounced _ _ _ hstep).known e he
        · exact (hannounced _ _ _ hstep').known e' he'
      rw [hsame, hselected'] at hselected
      exact (Option.some.inj hselected).symm
    · intro result hr
      obtain ⟨hconsistent, budget, rfl⟩ := hresult result hr
      exact htracks.resultSound hconsistent budget

end Runs

/-- **When the activation of a program run is sound.** -/
theorem execution_activationSound_iff (digest : Json → String) (program : CompiledExecutionProgram)
    (registry : OperationRegistry) (input : ℕ → Input) :
    ActivationSound program (execution digest program registry input).trace
        (execution digest program registry input).result ↔
      JoinsReady program (execution digest program registry input).trace :=
  runs_activationSound_iff (Program.runs_trace (fun _ _ => rfl) 0)

/-! ### A join that does not wait -/

/-- A join over the results of two nodes that also depends on a third. -/
def joinNode (nodeId first second other port : NonEmptyStr) (hne : first ≠ second)
    (hnodup : [first, second, other].Nodup) (hself : nodeId ∉ [first, second, other]) :
    ProgramNode where
  nodeId := nodeId
  dependsOn := [first, second, other]
  body := .join
    { sources := [⟨first, port⟩, ⟨second, port⟩], two_sources := le_rfl
      sources_nodup := by simpa using hne }
  dependencies_nodup := hnodup
  not_self := hself
  not_target := List.not_mem_nil

def joinId : NonEmptyStr := ⟨"join", by decide⟩

/-- List, check, and look for items; join what was listed and checked; and stop. -/
def unwaitedProgram : CompiledExecutionProgram where
  programId := joinId
  version := joinId
  nodes := [sourceNode listId listId, sourceNode checkId listId, sourceNode itemsName checkId,
    joinNode joinId listId checkId itemsName resultName (by decide) (by decide) (by decide),
    stopNode stopId joinId .succeeded (by decide)]
  limits := defaultLimits
  topologicalOrder := [listId, checkId, itemsName, joinId, stopId]
  operationRefs := [⟨listId⟩, ⟨checkId⟩]
  valid := by decide +kernel

/-- Only the operation `list` has a handler that succeeds. -/
def unwaitedInput (_ : ℕ) : Input where
  choice := true
  handler := fun _ context =>
    if context.operationRef.operationId = listId then returning [(resultPort, .null)]
    else .finish (.failure checkId "not found")

/-- What is executed in a step, and what the executor knows then. -/
def executed? : Step Op Raised → Option (ProgramNode × Walk)
  | ⟨.execute node walk, _⟩ => some (node, walk)
  | _ => none

lemma exists_of_executed? {step : Step Op Raised} {x : ProgramNode × Walk}
    (h : executed? step = some x) : ∃ answer, step = ⟨.execute x.1 x.2, answer⟩ := by
  obtain ⟨op, answer⟩ := step
  cases op with
  | execute node walk => cases h; exact ⟨answer, rfl⟩
  | _ => cases h

/-- The join is executed although the third node that it depends on failed. -/
theorem unwaited_join_executed :
    ¬ ActivationSound unwaitedProgram
      (execution (fun _ => "") unwaitedProgram checkedRegistry unwaitedInput).trace
      (execution (fun _ => "") unwaitedProgram checkedRegistry unwaitedInput).result := by
  have hrun : ((execution (fun _ => "") unwaitedProgram checkedRegistry
      unwaitedInput).trace.filterMap executed?).any (fun x => decide (itemsName ∈ x.1.dependsOn ∧
        itemsName ∉ sourceIds x.1.body ∧
          ∀ e ∈ x.2.evidence, ¬ (e.nodeId = itemsName ∧ e.status = .succeeded))) = true := by
    decide +kernel
  obtain ⟨⟨node, walk⟩, hmem, hfacts⟩ := List.any_eq_true.mp hrun
  obtain ⟨step, hstep, hexecuted⟩ := List.mem_filterMap.mp hmem
  obtain ⟨answer, rfl⟩ := exists_of_executed? hexecuted
  obtain ⟨hdependency, hsource, hfailed⟩ := decide_eq_true_eq.mp hfacts
  intro hsound
  obtain ⟨e, he, hid, hstatus⟩ :=
    (hsound.activated node walk answer hstep).dependencies itemsName hdependency hsource
  exact hfailed e he ⟨hid, hstatus⟩

end AecBench.ProgramExecution
