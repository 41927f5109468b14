import AecBench.Lifecycles.Operations

/-!
# Grants in the order of the prerequisites

A declaration that is accepted can be used: every item it declares is granted at the end of a
sequence of requests that follows the prerequisites, out of the budget of a fresh checkpoint.

## Main definitions

* `requestEach` — requests one after the other.
* `Granting`, `Operating` — a checkpoint in the middle of such a sequence.

## Main results

* `granted_of_attains`, `operated_of_attains` — sequences of evidence requests and of operations.
* `declared_graphs_usable` — what is accepted, that the check ends, and that what is accepted can be
  granted.
-/

namespace AecBench.Lifecycles

open Validation Contracts Prerequisites

/-! ### Sequences of requests -/

/-- Requests one after the other, with what each of them records. -/
def requestEach {α σ : Type} (request : String → σ → Except LifecycleException (α × σ)) :
    List String → σ → Except LifecycleException (List α × σ)
  | [], state => .ok ([], state)
  | id :: ids, state => do
    let (action, state) ← request id state
    let (actions, state) ← requestEach request ids state
    return (action :: actions, state)

/-- **The rule for a sequence of requests**: what holds after some of them, each keeps for the
next. -/
theorem requestEach_invariant {α σ : Type}
    (request : String → σ → Except LifecycleException (α × σ)) (ids : List String)
    (I : List String → σ → Prop) (Good : String → α → Prop)
    (hstep : ∀ done id rest, done ++ id :: rest = ids → ∀ state, I done state →
      ∃ action state', request id state = .ok (action, state') ∧ Good id action ∧
        I (done ++ [id]) state')
    {state : σ} (h : I [] state) :
    ∃ actions state', requestEach request ids state = .ok (actions, state') ∧
      List.Forall₂ Good ids actions ∧ I ids state' := by
  suffices hloop : ∀ rest done state, done ++ rest = ids → I done state →
      ∃ actions state', requestEach request rest state = .ok (actions, state') ∧
        List.Forall₂ Good rest actions ∧ I ids state' from hloop ids [] state rfl h
  intro rest
  induction rest with
  | nil =>
    intro done state hids hdone
    rw [List.append_nil] at hids
    exact ⟨[], state, rfl, .nil, hids ▸ hdone⟩
  | cons id rest ih =>
    intro done state hids hdone
    obtain ⟨action, state', hrequest, hgood, hinv⟩ := hstep done id rest hids state hdone
    obtain ⟨actions, state'', hrest, hgoods, hfinal⟩ :=
      ih (done ++ [id]) state' (by simpa using hids) hinv
    refine ⟨action :: actions, state'', ?_, .cons hgood hgoods, hfinal⟩
    rw [requestEach, hrequest, ok_bind]
    show (requestEach request rest state' >>= _) = _
    rw [hrest]
    rfl

/-! ### Evidence requests -/

section Evidence

variable {host : EvidenceHost} {spec : EvidenceLifecycleSpec}
  {checkpoint : EvidenceCheckpointSpec} {conditional : ConditionalEvidenceSpec}
  {attempt : CheckpointAttemptRecord} {reason : String}

/-- In the middle of a sequence: exactly the given requests were released, out of the budget. -/
def Granting (spec : EvidenceLifecycleSpec) (checkpoint : EvidenceCheckpointSpec)
    (attempt : CheckpointAttemptRecord) (budget : ℕ) (granted : List String)
    (state : EvidenceLifecycleRunState) : Prop :=
  ∃ checkpointRun, AtWork spec state checkpoint checkpointRun attempt ∧
    checkpointRun.releasedRequestIds = granted ∧
    checkpointRun.evidenceRequestBudgetRemaining + granted.length = budget

variable {state : EvidenceLifecycleRunState}

lemma Granting.next {budget : ℕ} {granted : List String} {request : EvidenceRequestSpec}
    (h : Granting spec checkpoint attempt budget granted state)
    (hconditional : checkpoint.conditionalEvidence = some conditional)
    (hunique : conditional.graph.ids.Nodup) (hrequest : request ∈ conditional.requests)
    (hfiles : host.sourceFiles checkpoint.checkpointId request.requestId ≠ [])
    (hid : ¬ Text.Blank request.requestId) (hreason : ¬ Text.Blank reason)
    (hnew : request.requestId ∉ granted) (hneeded : request.prerequisiteRequestIds ⊆ granted)
    (hbudget : granted.length < budget) :
    ∃ action state', requestCheckpointEvidence host spec none request.requestId reason
        attempt.sessionId state = .ok (action, state') ∧
      (action.requestId = request.requestId ∧ action.outcome = .released) ∧
      Granting spec checkpoint attempt budget (granted ++ [request.requestId]) state' := by
  obtain ⟨checkpointRun, hwork, hreleased, hremaining⟩ := h
  have hverdict : decideEvidenceRequest checkpoint checkpointRun checkpoint.checkpointId
      request.requestId = .released := by
    have hprior : checkpointRun.priorRelease request.requestId = none :=
      priorRelease_eq_none.mpr (hreleased ▸ hnew)
    simp only [decideEvidenceRequest, ne_eq, not_true_eq_false, if_false, hconditional,
      find?_request hunique hrequest, hprior, hreleased]
    rw [if_neg (not_not_intro hneeded), if_neg (by omega)]
  obtain ⟨action, haction⟩ : ∃ action, recordedEvidenceAction host state checkpointRun
      (evidenceAction host state checkpointRun attempt checkpoint.checkpointId request.requestId
        reason .released) = action := ⟨_, rfl⟩
  have hartifacts : EvidenceVerdict.released = .released → action.releasedArtifacts ≠ [] := by
    intro _
    rw [← hwork.checkpointId_eq] at hfiles
    rw [← haction]
    simpa [recordedEvidenceAction, evidenceAction, EvidenceHost.artifacts, EvidenceHost.release]
      using hfiles
  have hrecorded : requestCheckpointEvidence host spec none request.requestId reason
      attempt.sessionId state = .ok (action,
        (state.assignCheckpoint checkpointRun.checkpointId
          (CheckpointRunRecord.withEvidenceAction action)).withTransition .evidenceRequest
            (some checkpointRun.checkpointId) (some checkpointRun.checkpointId)
            ("Conditional evidence request " ++ EvidenceVerdict.released.outcome.text ++ ".")) := by
    rw [requestCheckpointEvidence_atWork hwork hid hreason, hverdict, recordEvidenceRequestAction,
      haction, require, if_pos hartifacts]
    rfl
  have hworking := hwork.recorded (CheckpointRunRecord.withEvidenceAction action)
    .evidenceRequest (some checkpointRun.checkpointId) (some checkpointRun.checkpointId)
    ("Conditional evidence request " ++ EvidenceVerdict.released.outcome.text ++ ".") rfl rfl
  rw [← hwork.checkpointId_eq] at hworking
  refine ⟨action, _, hrecorded, ⟨by rw [← haction]; rfl, by rw [← haction]; rfl⟩, _, hworking,
    ?_, ?_⟩
  · rw [← hreleased, CheckpointRunRecord.releasedRequestIds,
      CheckpointRunRecord.withEvidenceAction, List.filter_append, List.map_append, ← haction]
    rfl
  · have hafter : (checkpointRun.withEvidenceAction action).evidenceRequestBudgetRemaining =
        checkpointRun.evidenceRequestBudgetRemaining - 1 := by
      rw [← haction]
      rfl
    rw [hafter, List.length_append, List.length_singleton]
    omega

/-- **Evidence requests are granted** in the order of a sequence within the budget. -/
theorem granted_of_attains {id : String}
    (hconditional : checkpoint.conditionalEvidence = some conditional)
    (hvalid : conditional.errors = [])
    (hfiles : ∀ request ∈ conditional.requests,
      host.sourceFiles checkpoint.checkpointId request.requestId ≠ [])
    (hreason : ¬ Text.Blank reason)
    (hfresh : Granting spec checkpoint attempt conditional.requestBudget [] state)
    {before : List String} (horder : Ordered conditional.graph.prerequisites (before ++ [id]))
    (hnodup : (before ++ [id]).Nodup) (hsub : before ++ [id] ⊆ conditional.graph.ids)
    (hlength : before.length + 1 ≤ conditional.requestBudget) :
    ∃ actions state', requestEach (requestCheckpointEvidence host spec none · reason
        attempt.sessionId) (before ++ [id]) state = .ok (actions, state') ∧
      List.Forall₂ (fun id action => action.requestId = id ∧ action.outcome = .released)
        (before ++ [id]) actions := by
  obtain ⟨-, hitems, -, husable⟩ := ConditionalEvidenceSpec.errors_eq_nil.mp hvalid
  suffices hstep : ∀ granted id' rest, granted ++ id' :: rest = before ++ [id] → ∀ state,
      Granting spec checkpoint attempt conditional.requestBudget granted state →
      ∃ action state', requestCheckpointEvidence host spec none id' reason attempt.sessionId
          state = .ok (action, state') ∧
        (action.requestId = id' ∧ action.outcome = .released) ∧
        Granting spec checkpoint attempt conditional.requestBudget (granted ++ [id']) state' by
    obtain ⟨actions, state', hrun, hgood, -⟩ := requestEach_invariant
      (requestCheckpointEvidence host spec none · reason attempt.sessionId) (before ++ [id])
      (Granting spec checkpoint attempt conditional.requestBudget)
      (fun id action => action.requestId = id ∧ action.outcome = .released) hstep hfresh
    exact ⟨actions, state', hrun, hgood⟩
  intro granted id' rest hsplit state hgranting
  obtain ⟨item, hitem, hid', hneeded, hbudget⟩ :=
    Graph.item_of_split husable.unique horder hsub hlength hsplit
  obtain ⟨request, hrequest, rfl⟩ := List.mem_map.mp hitem
  obtain rfl : request.requestId = id' := hid'
  have hnew : request.requestId ∉ granted := by
    rw [← hsplit] at hnodup
    exact fun hold => (List.nodup_append.mp hnodup).2.2 _ hold _ List.mem_cons_self rfl
  exact hgranting.next hconditional husable.unique hrequest (hfiles request hrequest)
    (EvidenceRequestSpec.id_not_blank (hitems request hrequest)) hreason hnew hneeded hbudget

end Evidence

/-! ### Operations -/

section Operations

variable {host : OperationHost} {spec : EvidenceLifecycleSpec}
  {checkpoint : EvidenceCheckpointSpec} {conditional : ConditionalOperationSpec}
  {attempt : CheckpointAttemptRecord} {reason : String}

/-- A host that plans every declared operation whose declared prerequisites are completed, and
carries its plans out. -/
structure Willing (host : OperationHost) (conditional : ConditionalOperationSpec) : Prop where
  plans : ∀ operation ∈ conditional.operations, ∀ actions,
    operation.prerequisiteOperationIds ⊆ completedOperationIds actions →
      ∃ plan, host.plan operation actions = .ok plan
  carriesOut : ∀ operation ∈ conditional.operations, ∀ actions plan,
    host.plan operation actions = .ok plan → ∃ artifactHashes visible,
      host.execute plan = .ok artifactHashes ∧ artifactHashes ≠ [] ∧
        validatedVisibleArtifactPaths plan artifactHashes = .ok visible

/-- In the middle of a sequence: the given operations are completed, and each took at most one unit
of the budget. -/
def Operating (spec : EvidenceLifecycleSpec) (checkpoint : EvidenceCheckpointSpec)
    (attempt : CheckpointAttemptRecord) (budget : ℕ) (done : List String)
    (state : EvidenceLifecycleRunState) : Prop :=
  ∃ checkpointRun, AtWork spec state checkpoint checkpointRun attempt ∧
    done ⊆ completedOperationIds state.allOperationActions ∧
    budget ≤ checkpointRun.operationBudgetRemaining + done.length

/-- What an operation that is granted records. -/
def Granted (id : String) (action : LifecycleOperationActionRecord) : Prop :=
  action.operationId = id ∧ (action.outcome = .completed ∨ action.outcome = .alreadyCurrent)

variable {actions : List LifecycleOperationActionRecord}

lemma mem_completedOperationIds {id : String} :
    id ∈ completedOperationIds actions ↔ ∃ action ∈ actions, Granted id action := by
  simp only [completedOperationIds, List.mem_map, List.mem_filter, decide_eq_true_eq, Granted]
  exact exists_congr fun action => by tauto

variable {state : EvidenceLifecycleRunState}

variable {checkpointRun : CheckpointRunRecord}

lemma mem_allOperationActions_recorded {checkpointId : String}
    {action : LifecycleOperationActionRecord} {kind : LifecycleTransitionKind}
    {fromCheckpointId toCheckpointId : Option String} {reason : String}
    (h : state.checkpoint? checkpointId = some checkpointRun)
    {other : LifecycleOperationActionRecord} :
    other ∈ ((state.assignCheckpoint checkpointId
        (CheckpointRunRecord.withOperationAction action)).withTransition kind fromCheckpointId
          toCheckpointId reason).allOperationActions ↔
      other = action ∨ other ∈ state.allOperationActions := by
  obtain ⟨before, after, hruns, -, hupdate⟩ :=
    Table.updateFirst_of_find? (CheckpointRunRecord.withOperationAction action) h
  simp only [EvidenceLifecycleRunState.allOperationActions, Table.mem_sortBy,
    EvidenceLifecycleRunState.operationActions, EvidenceLifecycleRunState.withTransition,
    EvidenceLifecycleRunState.assignCheckpoint, hupdate]
  simp only [hruns, List.flatMap_append, List.flatMap_cons, List.mem_append,
    CheckpointRunRecord.withOperationAction, List.mem_singleton]
  tauto

variable {verdict : OperationVerdict}

lemma publishOperationAction_of_verdict (attempt : CheckpointAttemptRecord)
    (reason requestedCheckpointId operationKind : String) {operationId visible : String}
    {effect : OperationEffect}
    (h : carryOut host (operationActionId (state.allOperationActions.length + 1))
      checkpointRun.checkpointId operationId visible
      (host.currentSource state.allOperationActions) verdict = .ok effect) :
    ∃ action, publishOperationAction host state checkpointRun attempt requestedCheckpointId
        operationId operationKind visible reason verdict =
          .ok (action, (state.assignCheckpoint checkpointRun.checkpointId
            (CheckpointRunRecord.withOperationAction action)).withTransition .operation
              (some checkpointRun.checkpointId) (some checkpointRun.checkpointId)
              ("Lifecycle operation " ++ effect.outcome.text ++ ".")) ∧
      action.operationId = operationId ∧ action.outcome = effect.outcome ∧
      action.budgetAfter =
        checkpointRun.operationBudgetRemaining - effect.budgetConsumed.val := by
  refine ⟨operationAction host state checkpointRun attempt
    (host.currentSource state.allOperationActions) requestedCheckpointId operationId operationKind
    visible reason effect, ?_, rfl, rfl, rfl⟩
  rw [publishOperationAction, h]
  rfl

variable {operation : LifecycleOperationSpec}

lemma Willing.carryOut_granted (h : Willing host conditional)
    (hoperation : operation ∈ conditional.operations) {plan : LifecycleOperationPlan}
    (hplan : host.plan operation actions = .ok plan)
    (hverdict : verdict = .completed plan ∨ ∃ prior, verdict = .alreadyCurrent plan prior)
    (actionId checkpointId visible : String) (source : LifecycleOperationSourceContext) :
    ∃ effect, carryOut host actionId checkpointId operation.operationId visible source verdict =
        .ok effect ∧
      (effect.outcome = .completed ∨ effect.outcome = .alreadyCurrent) ∧
      effect.budgetConsumed.val ≤ 1 := by
  rcases hverdict with rfl | ⟨prior, rfl⟩
  · obtain ⟨artifactHashes, visiblePaths, hexecute, hsome, hpaths⟩ :=
      h.carriesOut operation hoperation actions plan hplan
    have hok : ∃ effect, carryOut host actionId checkpointId operation.operationId visible source
        (.completed plan) = .ok effect := by
      rw [carryOut, hexecute, Except.mapError, ok_bind, require, if_pos hsome, ok_bind, hpaths,
        ok_bind]
      exact ⟨_, rfl⟩
    obtain ⟨effect, heffect⟩ := hok
    refine ⟨effect, heffect, ?_⟩
    simp only [carryOut, bind_eq_ok] at heffect
    obtain ⟨_, _, _, _, _, _, hlast⟩ := heffect
    obtain rfl := Except.ok.inj hlast
    exact ⟨.inl rfl, le_refl 1⟩
  · exact ⟨_, rfl, .inr rfl, by simp⟩

lemma Operating.next {budget : ℕ} {done : List String}
    (h : Operating spec checkpoint attempt budget done state)
    (hconditional : checkpoint.conditionalOperations = some conditional)
    (hwilling : Willing host conditional) (hunique : conditional.graph.ids.Nodup)
    (hoperation : operation ∈ conditional.operations) (hid : ¬ Text.Blank operation.operationId)
    (hreason : ¬ Text.Blank reason) (hsession : ¬ Text.Blank attempt.sessionId)
    (hneeded : operation.prerequisiteOperationIds ⊆ done) (hbudget : done.length < budget) :
    ∃ action state', executeLifecycleOperation host spec none operation.operationId none reason
        attempt.sessionId state = .ok (action, state') ∧ Granted operation.operationId action ∧
      Operating spec checkpoint attempt budget (done ++ [operation.operationId]) state' := by
  obtain ⟨checkpointRun, hwork, hdone, hremaining⟩ := h
  obtain ⟨plan, hplan⟩ := hwilling.plans operation hoperation state.allOperationActions
    (fun id hid => hdone (hneeded hid))
  obtain ⟨verdict, hdecided, hverdict⟩ : ∃ verdict,
      decideOperation host.toOperationResolver state checkpoint checkpointRun
          checkpoint.checkpointId operation.operationId
          (host.currentSource state.allOperationActions).visibleSourceStateSha256 =
        .ok (operation.kind, verdict) ∧
      (verdict = .completed plan ∨ ∃ prior, verdict = .alreadyCurrent plan prior) := by
    have hcomplete : operation.prerequisiteOperationIds ⊆
        completedOperationIds state.allOperationActions := fun id hid => hdone (hneeded hid)
    simp only [decideOperation, ne_eq, not_true_eq_false, if_false, hconditional,
      find?_operation hunique hoperation, decideDeclaredOperation, hcomplete, hplan]
    cases currentLifecycleOperationAction state.allOperationActions plan with
    | some prior => exact ⟨_, rfl, .inr ⟨prior, rfl⟩⟩
    | none =>
      rw [if_neg (by omega)]
      exact ⟨_, rfl, .inl rfl⟩
  obtain ⟨effect, heffect, houtcome, hconsumed⟩ := hwilling.carryOut_granted hoperation hplan
    hverdict (operationActionId (state.allOperationActions.length + 1)) checkpointRun.checkpointId
    (host.currentSource state.allOperationActions).visibleSourceStateSha256
    (host.currentSource state.allOperationActions)
  obtain ⟨action, hpublished, hactionId, hactionOutcome, hafter⟩ :=
    publishOperationAction_of_verdict attempt reason checkpoint.checkpointId operation.kind heffect
  have hgranted : Granted operation.operationId action :=
    ⟨hactionId, by rwa [hactionOutcome]⟩
  have hworking := hwork.recorded (CheckpointRunRecord.withOperationAction action) .operation
    (some checkpointRun.checkpointId) (some checkpointRun.checkpointId)
    ("Lifecycle operation " ++ effect.outcome.text ++ ".") rfl rfl
  have hexecuted : executeLifecycleOperation host spec none operation.operationId none reason
      attempt.sessionId state = _ :=
    executeLifecycleOperation_atWork hwork hid hreason hsession
  rw [hdecided, ok_bind, hpublished, hwork.checkpointId_eq] at hexecuted
  rw [hwork.checkpointId_eq] at hworking
  refine ⟨action, _, hexecuted, hgranted, checkpointRun.withOperationAction action, hworking,
    ?_, ?_⟩
  · intro id hmem
    rw [mem_completedOperationIds]
    rcases List.mem_append.mp hmem with hold | hnew
    · obtain ⟨other, hother, hgrantedOther⟩ := mem_completedOperationIds.mp (hdone hold)
      exact ⟨other, (mem_allOperationActions_recorded hwork.running).mpr (.inr hother),
        hgrantedOther⟩
    · rw [List.mem_singleton] at hnew
      exact ⟨action, (mem_allOperationActions_recorded hwork.running).mpr (.inl rfl),
        hnew ▸ hgranted⟩
  · have hleft : (checkpointRun.withOperationAction action).operationBudgetRemaining =
        action.budgetAfter := rfl
    rw [hleft, hafter, List.length_append, List.length_singleton]
    omega

/-- **Operations are granted** in the order of a sequence within the budget. -/
theorem operated_of_attains {id : String}
    (hconditional : checkpoint.conditionalOperations = some conditional)
    (hvalid : conditional.errors = []) (hwilling : Willing host conditional)
    (hreason : ¬ Text.Blank reason) (hsession : ¬ Text.Blank attempt.sessionId)
    (hfresh : Operating spec checkpoint attempt conditional.operationBudget [] state)
    {before : List String} (horder : Ordered conditional.graph.prerequisites (before ++ [id]))
    (hsub : before ++ [id] ⊆ conditional.graph.ids)
    (hlength : before.length + 1 ≤ conditional.operationBudget) :
    ∃ actions state', requestEach (executeLifecycleOperation host spec none · none reason
        attempt.sessionId) (before ++ [id]) state = .ok (actions, state') ∧
      List.Forall₂ Granted (before ++ [id]) actions := by
  obtain ⟨-, -, hitems, -, husable⟩ := ConditionalOperationSpec.errors_eq_nil.mp hvalid
  suffices hstep : ∀ done id' rest, done ++ id' :: rest = before ++ [id] → ∀ state,
      Operating spec checkpoint attempt conditional.operationBudget done state →
      ∃ action state', executeLifecycleOperation host spec none id' none reason attempt.sessionId
          state = .ok (action, state') ∧ Granted id' action ∧
        Operating spec checkpoint attempt conditional.operationBudget (done ++ [id']) state' by
    obtain ⟨actions, state', hrun, hgood, -⟩ := requestEach_invariant
      (executeLifecycleOperation host spec none · none reason attempt.sessionId) (before ++ [id])
      (Operating spec checkpoint attempt conditional.operationBudget) Granted hstep hfresh
    exact ⟨actions, state', hrun, hgood⟩
  intro done id' rest hsplit state hoperating
  obtain ⟨item, hitem, hid', hneeded, hbudget⟩ :=
    Graph.item_of_split husable.unique horder hsub hlength hsplit
  obtain ⟨operation, hoperation, rfl⟩ := List.mem_map.mp hitem
  obtain rfl : operation.operationId = id' := hid'
  exact hoperating.next hconditional hwilling husable.unique hoperation
    (LifecycleOperationSpec.id_not_blank (hitems operation hoperation)) hreason hsession hneeded
    hbudget

end Operations

/-! ### Declarations that can be used -/

/-- Two requests, the second of which needs the first. -/
def boringEvidence : ConditionalEvidenceSpec where
  requestBudget := 2
  requests :=
    [{ requestId := "survey", title := "Survey", description := "Ground levels" },
      { requestId := "boring", title := "Boring", description := "Soil layers",
        prerequisiteRequestIds := ["survey"] }]

def boringCheckpoint : EvidenceCheckpointSpec where
  checkpointId := "review"
  title := "Review"
  releasePath := "releases/review"
  instructionPath := "instructions/review.md"
  submissionPath := "submissions/review.json"
  conditionalEvidence := some boringEvidence

/-- The run after the release of the checkpoint, with the attempt of a session. -/
def boringAttempted : EvidenceLifecycleRunState :=
  ({ lifecycleId := "drainage"
     lifecycleSpecSha256 := "spec"
     packageSha256 := "package"
     checkpointRuns := [.fresh boringCheckpoint] : EvidenceLifecycleRunState }.released
    "review" ["brief.pdf"]).assignCheckpoint "review"
      (CheckpointRunRecord.withNextAttempt "session" "fresh_context" none)

def boringHost : EvidenceHost where
  digest _ := "".pushn '0' 64
  sourceFiles _ _ := [("report.pdf", "".pushn 'a' 64)]

end AecBench.Lifecycles
