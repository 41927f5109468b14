import AecBench.Experimentation.LearningStudies.Steps
import AecBench.Lib.Loops

/-!
# The lineage of learner states

The committed states of an arm run are a chain from its initial state; a step that does not commit
leaves the state to the next one as it was, and a step that fails is the last that runs. State and
feedback identities are accepted once. The trial records of an arm run are those of its completed
steps unless a discard has raised: then the record of the failed step is among them.

## Main definitions

* `ArmLineage` — what holds of the result of an arm run.
* `Explained` — a call agrees with the results of its arm run.
* `ResumePrefix` — a resumed arm run is a completed prefix.
* `Progress` — an arm run between two steps; `Finished` — an arm run that has ended.

## Main results

* `Progress.accepted`, `Progress.refused` — what a step keeps.
* `runSteps_finished`, `runArmRun_finished` — what the steps and an arm run keep.
-/

namespace AecBench.Experimentation.LearningStudies

open Text Validation Stateful

variable {W S F R : Type}

/-! ## Results -/

/-- The results lead from one state to another. -/
def Chain : Option String → List (StepExecutionResult F R) → Option String → Prop
  | before, [], final => final = before
  | before, result :: results, final =>
    result.stateBeforeId = before ∧ Chain result.committedStateId results final

/-- A result is that of a step of the plan. -/
structure StepLineage (indexed : CompiledStudyStep × ℕ) (result : StepExecutionResult F R) :
    Prop where
  step_id : result.stepId = indexed.1.stepId
  step_index : result.stepIndex = indexed.2
  /-- A completed step commits its candidate state, or the state before it. -/
  completed : result.status = .completed → ∃ before candidate,
    result.stateBeforeId = some before ∧ result.candidateStateId = some candidate ∧
      result.stateCommitted = some indexed.1.commits ∧
      result.committedStateId = some (if indexed.1.commits then candidate else before) ∧
      TrialOf indexed.1 result.trialRecord ∧ FeedbackOf indexed.1 result.feedback
  /-- Another step leaves the state before it. -/
  other : result.status ≠ .completed → result.committedStateId = result.stateBeforeId ∧
    result.candidateStateId = none ∧ result.trialRecord = none ∧ result.feedback = none

/-- After a step that has failed, every step is skipped. -/
def StopsAtFailure (results : List (StepExecutionResult F R)) : Prop :=
  ∃ done stopped, results = done ++ stopped ∧ (∀ result ∈ done, result.status = .completed) ∧
    (stopped = [] ∨ ∃ failed skipped, stopped = failed :: skipped ∧ failed.status = .failed ∧
      ∀ result ∈ skipped, result.status = .skipped)

/-- The trial records of completed steps. -/
def recordedTrials (results : List (StepExecutionResult F R)) : List (TrialRecord R) :=
  results.filterMap (·.trialRecord)

/-- The identities of the candidate states of completed steps. -/
def candidateIds (results : List (StepExecutionResult F R)) : List String :=
  results.filterMap (·.candidateStateId)

def releasedIds (results : List (StepExecutionResult F R)) : List String :=
  results.filterMap fun result => result.feedback.map (·.feedbackId)

/-- The state identities that an arm run has accepted. -/
def ArmRunExecutionResult.stateIds (result : ArmRunExecutionResult F R) : List String :=
  result.initialStateId.toList ++ candidateIds result.completedSteps

/-- What holds of the result of an arm run, besides its trial records. -/
structure ArmLineage (armRun : PlannedArmRun) (result : ArmRunExecutionResult F R) : Prop where
  id : result.armRunId = armRun.armRunId
  started : (result.initialStateId = none ∧ result.completedSteps = [] ∧
      result.finalStateId = none ∧ result.status = .failed) ∨
    (result.initialStateId.isSome ∧
      List.Forall₂ StepLineage armRun.steps.zipIdx result.completedSteps ∧
      Chain result.initialStateId result.completedSteps result.finalStateId ∧
      StopsAtFailure result.completedSteps)

/-! ## Calls -/

/-- The arm run that a call is made for. -/
def Call.armRunId : Call S F R → String
  | initialiseLearner armRun => armRun.armRunId
  | executeExperience request => request.armRun.armRunId
  | releaseFeedback request => request.armRun.armRunId
  | consolidate request => request.armRun.armRunId
  | discardState armRun _ _ => armRun.armRunId

/-- The state that a call hands to a step. -/
def Call.state? : Call S F R → Option (LearnerStateHandle S)
  | executeExperience request => some request.state
  | releaseFeedback request => some request.state
  | consolidate request => some request.state
  | _ => none

def handed (calls : List (Called S F R)) : List (LearnerStateHandle S) :=
  calls.filterMap (·.call.state?)

/-- The result of the step was computed from this state. -/
def HandedTo (results : List (StepExecutionResult F R)) (stepId : String)
    (state : LearnerStateHandle S) : Prop :=
  ∃ result ∈ results, result.stepId = stepId ∧ result.stateBeforeId = some state.stateId

/-- A call agrees with the results of its arm run: it was handed the state before its step, and a
consolidation the feedback that its named steps have released. -/
def Explained (results : List (StepExecutionResult F R)) : Call S F R → Prop
  | .executeExperience request => HandedTo results request.step.stepId request.state
  | .releaseFeedback request => HandedTo results request.step.stepId request.state
  | .consolidate request => HandedTo results request.step.stepId request.state ∧
    List.Forall₂ (fun stepId feedback => ∃ result ∈ results,
      result.stepId = stepId ∧ result.feedback = some feedback)
      request.step.feedbackStepIds request.feedback
  | _ => True

/-- One identity stands for one state. -/
def OneValue (states : List (LearnerStateHandle S)) : Prop :=
  ∀ state ∈ states, ∀ state' ∈ states, state.stateId = state'.stateId → state = state'

/-! ## Resumes -/

/-- A resumed arm run is a completed prefix, with its committed state. -/
structure ResumePrefix (armRun : PlannedArmRun) (resumeState : ArmRunResumeState S F R) :
    Prop where
  lineage : List.Forall₂ StepLineage
    (armRun.steps.zipIdx.take resumeState.completedSteps.length) resumeState.completedSteps
  chain : Chain (some resumeState.initialStateId) resumeState.completedSteps
    (some resumeState.currentState.stateId)
  trials : resumeState.trialRecords = recordedTrials resumeState.completedSteps
  feedback : resumeState.feedbackByStep = resumeState.completedSteps.filterMap fun result =>
    result.feedback.map fun feedback => (result.stepId, feedback)

/-- The state identities that a resume has accepted for an arm run. -/
def resumedStateIds (resume : LearningStudyResume S F R) (armRun : PlannedArmRun) : List String :=
  match resume.completedArmRuns armRun.armRunId with
  | some result => result.stateIds
  | none =>
    match resume.incompleteArmRuns armRun.armRunId with
    | some resumeState => resumeState.initialStateId :: candidateIds resumeState.completedSteps
    | none => []

def resumedFeedbackIds (resume : LearningStudyResume S F R) (armRun : PlannedArmRun) :
    List String :=
  match resume.completedArmRuns armRun.armRunId with
  | some result => releasedIds result.completedSteps
  | none =>
    match resume.incompleteArmRuns armRun.armRunId with
    | some resumeState => releasedIds resumeState.completedSteps
    | none => []

/-! ## Chains and calls -/

section Chains

variable {results results' : List (StepExecutionResult F R)} {result : StepExecutionResult F R}
  {before after : Option String}

lemma chain_concat (h : Chain before results after) (hbefore : result.stateBeforeId = after) :
    Chain before (results ++ [result]) result.committedStateId := by
  induction results generalizing before with
  | nil => exact ⟨hbefore.trans h, rfl⟩
  | cons first results ih => exact ⟨h.1, ih h.2⟩

lemma chain_append_of_same (h : Chain before results after)
    (hsame : ∀ result ∈ results', result.stateBeforeId = after ∧ result.committedStateId = after) :
    Chain before (results ++ results') after := by
  induction results' generalizing results with
  | nil =>
    rw [List.append_nil]
    exact h
  | cons result results' ih =>
    obtain ⟨hbefore, hcommitted⟩ := hsame result List.mem_cons_self
    have hfirst := chain_concat h hbefore
    rw [hcommitted] at hfirst
    have hrest := ih hfirst fun r hr => hsame r (List.mem_cons_of_mem _ hr)
    rwa [List.append_assoc, List.singleton_append] at hrest

lemma recordedTrials_append :
    recordedTrials (results ++ results') = recordedTrials results ++ recordedTrials results' :=
  List.filterMap_append

lemma candidateIds_append :
    candidateIds (results ++ results') = candidateIds results ++ candidateIds results' :=
  List.filterMap_append

lemma releasedIds_append :
    releasedIds (results ++ results') = releasedIds results ++ releasedIds results' :=
  List.filterMap_append

lemma Explained.mono {call : Call S F R} (h : Explained results call)
    (hsub : results ⊆ results') : Explained results' call := by
  have hhanded : ∀ stepId (state : LearnerStateHandle S),
      HandedTo results stepId state → HandedTo results' stepId state := by
    rintro stepId state ⟨r, hr, heq⟩
    exact ⟨r, hsub hr, heq⟩
  cases call with
  | initialiseLearner armRun => trivial
  | executeExperience request | releaseFeedback request => exact hhanded _ _ h
  | consolidate request =>
    refine ⟨hhanded _ _ h.1, h.2.imp ?_⟩
    rintro stepId feedback ⟨r, hr, heq⟩
    exact ⟨r, hsub hr, heq⟩
  | discardState armRun step state => trivial

lemma forall₂_of_selectFeedback {stepIds : List String} {selected : List (FeedbackHandle F)}
    (h : selectFeedback (results.filterMap fun result =>
      result.feedback.map fun feedback => (result.stepId, feedback)) stepIds = .ok selected) :
    List.Forall₂ (fun stepId feedback => ∃ result ∈ results,
      result.stepId = stepId ∧ result.feedback = some feedback) stepIds selected := by
  refine (mapM_eq_ok.mp h).imp ?_
  intro stepId feedback hget
  split at hget
  next => cases hget
  next entry hentry =>
    obtain rfl := Except.ok.inj hget
    obtain ⟨hmem, hkey⟩ := Dict.mem_of_get hentry
    obtain ⟨r, hr, hmap⟩ := List.mem_filterMap.mp hmem
    obtain ⟨feedback, hfeedback, rfl⟩ := Option.map_eq_some_iff.mp hmap
    exact ⟨r, hr, hkey, hfeedback⟩

variable {armRun : PlannedArmRun} {step : CompiledStudyStep} {stateBefore : LearnerStateHandle S}
  {call : Call S F R}

lemma explained_of_callOf (h : CallOf armRun step stateBefore (results.filterMap fun result =>
      result.feedback.map fun feedback => (result.stepId, feedback)) call)
    (hsub : results ⊆ results') (hresult : result ∈ results') (hid : result.stepId = step.stepId)
    (hbefore : result.stateBeforeId = some stateBefore.stateId) :
    call.armRunId = armRun.armRunId ∧ Explained results' call := by
  cases call with
  | initialiseLearner armRun => exact h.elim
  | executeExperience request | releaseFeedback request =>
    obtain ⟨rfl, rfl, rfl⟩ := h
    exact ⟨rfl, result, hresult, hid, hbefore⟩
  | consolidate request =>
    obtain ⟨rfl, rfl, rfl, hselected⟩ := h
    refine ⟨rfl, ⟨result, hresult, hid, hbefore⟩, (forall₂_of_selectFeedback hselected).imp ?_⟩
    rintro stepId feedback ⟨r, hr, heq⟩
    exact ⟨r, hsub hr, heq⟩
  | discardState armRun' step' state => exact ⟨congrArg PlannedArmRun.armRunId h.1, trivial⟩

lemma eq_of_callOf {feedbackByStep : List (String × FeedbackHandle F)}
    (h : CallOf armRun step stateBefore feedbackByStep call) :
    ∀ state ∈ call.state?, state = stateBefore := by
  cases call with
  | initialiseLearner armRun => exact h.elim
  | executeExperience request | releaseFeedback request =>
    rintro state hstate
    exact (Option.some.inj hstate).symm.trans h.2.2
  | consolidate request =>
    rintro state hstate
    exact (Option.some.inj hstate).symm.trans h.2.2.1
  | discardState armRun' step' state =>
    rintro state hstate
    cases hstate

end Chains

/-! ## Arm runs -/

/-- What the other arm runs of a study have accepted and called: those that are done, and those
that the resume has prefixes of. -/
structure Outside (S F R : Type) where
  calls : List (Called S F R)
  doneStates : List String
  restStates : List String
  doneFeedback : List String
  restFeedback : List String

/-- An arm run between two steps. -/
structure Progress (armRun : PlannedArmRun) (o : Outside S F R) (initialStateId : String)
    (completed : List (StepExecutionResult F R)) (frame : Frame W S F R) : Prop where
  lineage : List.Forall₂ StepLineage (armRun.steps.zipIdx.take completed.length) completed
  done : ∀ result ∈ completed, result.status = .completed
  chain : Chain (some initialStateId) completed (frame.state.map (·.stateId))
  trials : frame.trialRecords = recordedTrials completed
  released : frame.feedbackByStep = completed.filterMap fun result =>
    result.feedback.map fun feedback => (result.stepId, feedback)
  states : (o.doneStates ++ (initialStateId :: candidateIds completed) ++ o.restStates).Nodup
  seen : o.doneStates ++ (initialStateId :: candidateIds completed) ++ o.restStates ⊆
    frame.seenStateIds
  feedback : (o.doneFeedback ++ releasedIds completed ++ o.restFeedback).Nodup
  seen_feedback : o.doneFeedback ++ releasedIds completed ++ o.restFeedback ⊆ frame.seenFeedbackIds
  calls : ∃ new, frame.calls = o.calls ++ new ∧ ∀ called ∈ new,
    (called.call.armRunId = armRun.armRunId ∧ Explained completed called.call) ∧
      ¬ called.DiscardRaised
  known : ∀ state ∈ frame.state.toList ++ handed frame.calls,
    state.stateId ∈ o.doneStates ++ (initialStateId :: candidateIds completed)
  one_value : OneValue (frame.state.toList ++ handed frame.calls)

/-- An arm run that has ended. -/
structure Finished (o : Outside S F R) (result : ArmRunExecutionResult F R)
    (frame : Frame W S F R) : Prop where
  states : (o.doneStates ++ result.stateIds ++ o.restStates).Nodup
  seen : o.doneStates ++ result.stateIds ++ o.restStates ⊆ frame.seenStateIds
  feedback : (o.doneFeedback ++ releasedIds result.completedSteps ++ o.restFeedback).Nodup
  seen_feedback : o.doneFeedback ++ releasedIds result.completedSteps ++ o.restFeedback ⊆
    frame.seenFeedbackIds
  calls : ∃ new, frame.calls = o.calls ++ new ∧
    (∀ called ∈ new, called.call.armRunId = result.armRunId ∧
      Explained result.completedSteps called.call) ∧
    (result.trialRecords = recordedTrials result.completedSteps ↔
      ∀ called ∈ new, ¬ called.DiscardRaised)
  known : ∀ state ∈ handed frame.calls, state.stateId ∈ o.doneStates ++ result.stateIds
  one_value : OneValue (handed frame.calls)

section Arms

variable {armRun : PlannedArmRun} {o : Outside S F R} {initialStateId : String}
  {completed : List (StepExecutionResult F R)} {frame frame' : Frame W S F R}
  {step : CompiledStudyStep} {stepIndex : ℕ} {rest : List (CompiledStudyStep × ℕ)}
  {stateBefore candidate : LearnerStateHandle S} {result : StepExecutionResult F R}

lemma handed_append (calls new : List (Called S F R)) :
    handed (calls ++ new) = handed calls ++ handed new := List.filterMap_append

lemma handed_of_callOf {feedbackByStep : List (String × FeedbackHandle F)}
    {new : List (Called S F R)}
    (h : ∀ called ∈ new, CallOf armRun step stateBefore feedbackByStep called.call) :
    ∀ state ∈ handed new, state = stateBefore := by
  intro state hstate
  obtain ⟨called, hcalled, heq⟩ := List.mem_filterMap.mp hstate
  exact eq_of_callOf (h called hcalled) state heq

lemma nodup_insert {xs ys zs seen : List String} {x : String} (h : (xs ++ ys ++ zs).Nodup)
    (hseen : xs ++ ys ++ zs ⊆ seen) (hx : x ∉ seen) : (xs ++ (ys ++ [x]) ++ zs).Nodup := by
  have hperm : (xs ++ (ys ++ [x]) ++ zs).Perm (x :: (xs ++ ys ++ zs)) := by
    rw [← List.append_assoc, List.append_assoc (xs ++ ys)]
    exact List.perm_middle
  exact hperm.nodup_iff.mpr (List.nodup_cons.mpr ⟨fun hmem => hx (hseen hmem), h⟩)

lemma insert_subset {xs ys zs seen : List String} {x : String}
    (hseen : xs ++ ys ++ zs ⊆ seen) : xs ++ (ys ++ [x]) ++ zs ⊆ seen ++ [x] := by
  intro y hy
  simp only [List.mem_append, List.mem_singleton] at hy ⊢
  rcases hy with (hy | hy | rfl) | hy
  · exact .inl (hseen (by simp [hy]))
  · exact .inl (hseen (by simp [hy]))
  · exact .inr rfl
  · exact .inl (hseen (by simp [hy]))

lemma Accepted.lineage (ha : Accepted armRun stepIndex step stateBefore frame result candidate
    frame') : StepLineage (step, stepIndex) result where
  step_id := ha.step_id
  step_index := ha.step_index
  completed _ := by
    refine ⟨stateBefore.stateId, candidate.stateId, ha.before, ha.candidate_id,
      ha.state_committed, ?_, ha.trial, ha.feedback⟩
    rw [ha.committed_id]
    split_ifs <;> rfl
  other h := absurd ha.status h

lemma Accepted.handed (ha : Accepted armRun stepIndex step stateBefore frame result candidate
    frame') (hstate : frame.state = some stateBefore) :
    ∀ state ∈ frame'.state.toList ++ handed frame'.calls,
      state = candidate ∨ state ∈ frame.state.toList ++ handed frame.calls := by
  obtain ⟨new, hcalls, hnew⟩ := ha.calls
  intro state hmem
  rw [ha.state, hcalls, handed_append, hstate] at *
  simp only [Option.toList_some, List.singleton_append, List.mem_cons, List.mem_append] at hmem ⊢
  rcases hmem with heq | hmem | hmem
  · by_cases hcommits : step.commits = true
    · rw [if_pos hcommits] at heq
      exact .inl heq
    · rw [if_neg hcommits] at heq
      exact .inr (.inl heq)
  · exact .inr (.inr hmem)
  · exact .inr (.inl (handed_of_callOf (fun called hcalled => (hnew called hcalled).1) _ hmem))

lemma Progress.accepted (h : Progress armRun o initialStateId completed frame)
    (hstate : frame.state = some stateBefore)
    (hdrop : armRun.steps.zipIdx.drop completed.length = (step, stepIndex) :: rest)
    (ha : Accepted armRun stepIndex step stateBefore frame result candidate frame') :
    Progress armRun o initialStateId (completed ++ [result]) frame' := by
  have hcandidates : initialStateId :: candidateIds (completed ++ [result]) =
      (initialStateId :: candidateIds completed) ++ [candidate.stateId] := by
    simp [candidateIds, ha.candidate_id]
  have hfresh : ∀ state ∈ frame.state.toList ++ handed frame.calls,
      state.stateId ≠ candidate.stateId := by
    intro state hmem heq
    refine ha.new_state (h.seen ?_)
    rw [← heq]
    exact List.mem_append_left _ (h.known state hmem)
  constructor
  · have hget : armRun.steps.zipIdx[completed.length]? = some (step, stepIndex) := by
      rw [← List.head?_drop, hdrop]
      rfl
    rw [List.length_append, List.length_singleton, List.take_add_one, hget]
    exact List.rel_append h.lineage (List.Forall₂.cons ha.lineage List.Forall₂.nil)
  · intro r hr
    rcases List.mem_append.mp hr with hr | hr
    · exact h.done r hr
    · rw [List.mem_singleton.mp hr]
      exact ha.status
  · have hchain : Chain (some initialStateId) (completed ++ [result]) result.committedStateId :=
      chain_concat h.chain (by rw [ha.before, hstate]; rfl)
    rw [ha.committed_id] at hchain
    rw [ha.state]
    exact hchain
  · rw [recordedTrials_append, ha.trials, h.trials]
    cases htrial : result.trialRecord <;> simp [recordedTrials, htrial]
  · rw [List.filterMap_append, ha.released, h.released, ← ha.step_id]
    cases hfeedback : result.feedback <;> simp [hfeedback]
  · rw [hcandidates]
    exact nodup_insert h.states h.seen ha.new_state
  · rw [hcandidates, ha.seen_states]
    exact insert_subset h.seen
  · cases hfeedback : result.feedback with
    | none =>
      have hnone : releasedIds [result] = [] := by simp [releasedIds, hfeedback]
      rw [releasedIds_append, hnone, List.append_nil]
      exact h.feedback
    | some feedback =>
      have hsome : releasedIds [result] = [feedback.feedbackId] := by
        simp [releasedIds, hfeedback]
      rw [releasedIds_append, hsome]
      exact nodup_insert h.feedback h.seen_feedback (ha.new_feedback feedback hfeedback)
  · cases hfeedback : result.feedback with
    | none =>
      have hnone : releasedIds [result] = [] := by simp [releasedIds, hfeedback]
      rw [releasedIds_append, hnone, List.append_nil, ha.seen_feedback, hfeedback]
      exact List.Subset.trans h.seen_feedback (List.subset_append_left _ _)
    | some feedback =>
      have hsome : releasedIds [result] = [feedback.feedbackId] := by
        simp [releasedIds, hfeedback]
      rw [releasedIds_append, hsome, ha.seen_feedback, hfeedback]
      exact insert_subset h.seen_feedback
  · obtain ⟨old, hold, hexplained⟩ := h.calls
    obtain ⟨new, hcalls, hnew⟩ := ha.calls
    refine ⟨old ++ new, by rw [hcalls, hold, List.append_assoc], ?_⟩
    intro called hcalled
    rcases List.mem_append.mp hcalled with hcalled | hcalled
    · obtain ⟨⟨harm, hex⟩, hdiscard⟩ := hexplained called hcalled
      exact ⟨⟨harm, hex.mono (List.subset_append_left _ _)⟩, hdiscard⟩
    · obtain ⟨hcall, hdiscard⟩ := hnew called hcalled
      rw [h.released] at hcall
      exact ⟨explained_of_callOf hcall (List.subset_append_left _ _)
        (List.mem_append_right _ List.mem_cons_self) ha.step_id ha.before, hdiscard⟩
  · intro state hmem
    rw [hcandidates, ← List.append_assoc, List.mem_append, List.mem_singleton]
    rcases ha.handed hstate state hmem with rfl | hmem
    · exact .inr rfl
    · exact .inl (h.known state hmem)
  · intro state hmem state' hmem' heq
    rcases ha.handed hstate state hmem with rfl | hold
    · rcases ha.handed hstate state' hmem' with rfl | hold'
      · rfl
      · exact absurd heq.symm (hfresh state' hold')
    · rcases ha.handed hstate state' hmem' with rfl | hold'
      · exact absurd heq (hfresh state hold)
      · exact h.one_value state hold state' hold' heq

/-- The result of an arm run whose steps have these results. -/
def armResult (armRun : PlannedArmRun) (initialStateId : String)
    (completedSteps : List (StepExecutionResult F R)) (failure : Option StudyStepFailure)
    (frame : Frame W S F R) : ArmRunExecutionResult F R where
  armRunId := armRun.armRunId
  status := if failure.isNone then .completed else .failed
  initialStateId := some initialStateId
  completedSteps
  trialRecords := frame.trialRecords
  finalStateId := frame.state.map (·.stateId)
  failure

lemma Progress.finished (h : Progress armRun o initialStateId completed frame)
    (hdrop : armRun.steps.zipIdx.drop completed.length = []) :
    ArmLineage armRun (armResult armRun initialStateId completed none frame) ∧
      Finished o (armResult armRun initialStateId completed none frame) frame := by
  have hlineage := h.lineage
  rw [List.take_of_length_le (List.drop_eq_nil_iff.mp hdrop)] at hlineage
  refine ⟨⟨rfl, .inr ⟨rfl, hlineage, h.chain, completed, [], ?_, h.done, .inl rfl⟩⟩, ?_⟩
  · exact (List.append_nil _).symm
  · obtain ⟨new, hcalls, hnew⟩ := h.calls
    exact
      { states := h.states
        seen := h.seen
        feedback := h.feedback
        seen_feedback := h.seen_feedback
        calls := ⟨new, hcalls, fun called hcalled => (hnew called hcalled).1,
          iff_of_true h.trials fun called hcalled => (hnew called hcalled).2⟩
        known := fun state hmem => h.known state (List.mem_append_right _ hmem)
        one_value := fun state hmem state' hmem' => h.one_value state
          (List.mem_append_right _ hmem) state' (List.mem_append_right _ hmem') }

/-- The results of the step that fails and of those after it. -/
def stoppedAt (stateBefore : LearnerStateHandle S) (step : CompiledStudyStep) (stepIndex : ℕ)
    (failure : StudyStepFailure) (rest : List (CompiledStudyStep × ℕ)) :
    List (StepExecutionResult F R) :=
  failedStep stepIndex step stateBefore failure :: rest.map (skippedStep stateBefore)

variable {failure : StudyStepFailure}

lemma forall_stoppedAt {P : StepExecutionResult F R → Prop}
    (hfailed : P (failedStep stepIndex step stateBefore failure))
    (hskipped : ∀ indexed, P (skippedStep stateBefore indexed)) :
    ∀ result ∈ stoppedAt stateBefore step stepIndex failure rest, P result := by
  intro result hresult
  rcases List.mem_cons.mp hresult with rfl | hresult
  · exact hfailed
  · obtain ⟨indexed, -, rfl⟩ := List.mem_map.mp hresult
    exact hskipped indexed

lemma filterMap_stoppedAt {α : Type} {f : StepExecutionResult F R → Option α}
    (hfailed : f (failedStep stepIndex step stateBefore failure) = none)
    (hskipped : ∀ indexed, f (skippedStep stateBefore indexed) = none) :
    (stoppedAt stateBefore step stepIndex failure rest).filterMap f = [] :=
  List.filterMap_eq_nil_iff.mpr (forall_stoppedAt hfailed hskipped)

lemma lineage_stoppedAt :
    List.Forall₂ StepLineage ((step, stepIndex) :: rest)
      (stoppedAt (F := F) (R := R) stateBefore step stepIndex failure rest) := by
  refine List.Forall₂.cons ⟨rfl, rfl, nofun, fun _ => ⟨rfl, rfl, rfl, rfl⟩⟩ ?_
  rw [List.forall₂_map_right_iff]
  exact List.forall₂_same.mpr fun indexed _ =>
    ⟨rfl, rfl, nofun, fun _ => ⟨rfl, rfl, rfl, rfl⟩⟩

lemma Progress.refused (h : Progress armRun o initialStateId completed frame)
    (hstate : frame.state = some stateBefore)
    (hdrop : armRun.steps.zipIdx.drop completed.length = (step, stepIndex) :: rest)
    (hr : Refused armRun step stateBefore frame frame') :
    let result := armResult armRun initialStateId
      (completed ++ stoppedAt stateBefore step stepIndex failure rest) (some failure) frame'
    ArmLineage armRun result ∧ Finished o result frame' := by
  have hcandidates : candidateIds
      (completed ++ stoppedAt stateBefore step stepIndex failure rest) = candidateIds completed := by
    rw [candidateIds_append, candidateIds, candidateIds,
      filterMap_stoppedAt rfl fun _ => rfl, List.append_nil]
  have hreleased : releasedIds
      (completed ++ stoppedAt stateBefore step stepIndex failure rest) = releasedIds completed := by
    rw [releasedIds_append, releasedIds, releasedIds,
      filterMap_stoppedAt rfl fun _ => rfl, List.append_nil]
  have htrials : recordedTrials
      (completed ++ stoppedAt stateBefore step stepIndex failure rest) =
        recordedTrials completed := by
    rw [recordedTrials_append, recordedTrials, recordedTrials,
      filterMap_stoppedAt rfl fun _ => rfl, List.append_nil]
  intro result
  refine ⟨⟨rfl, .inr ⟨rfl, ?_, ?_, ?_⟩⟩, ?_⟩
  · have hstopped : List.Forall₂ StepLineage ((step, stepIndex) :: rest)
        (stoppedAt (F := F) (R := R) stateBefore step stepIndex failure rest) := lineage_stoppedAt
    have hall := List.rel_append h.lineage hstopped
    dsimp only at hall
    rwa [← hdrop, List.take_append_drop] at hall
  · change Chain (some initialStateId) _ (frame'.state.map (·.stateId))
    rw [hr.state]
    refine chain_append_of_same h.chain (forall_stoppedAt ?_ ?_)
    · rw [hstate]
      exact ⟨rfl, rfl⟩
    · intro indexed
      rw [hstate]
      exact ⟨rfl, rfl⟩
  · exact ⟨completed, _, rfl, h.done, .inr ⟨_, _, rfl, rfl, by
      intro r hmem
      obtain ⟨indexed, -, rfl⟩ := List.mem_map.mp hmem
      rfl⟩⟩
  · have hids : result.stateIds = initialStateId :: candidateIds completed :=
      congrArg (List.cons initialStateId) hcandidates
    obtain ⟨old, hold, hexplained⟩ := h.calls
    obtain ⟨new, hcalls, hnew, hdiscard⟩ := hr.calls
    have hhanded : ∀ state ∈ handed frame'.calls,
        state ∈ frame.state.toList ++ handed frame.calls := by
      intro state hmem
      rw [hcalls, handed_append] at hmem
      rcases List.mem_append.mp hmem with hmem | hmem
      · exact List.mem_append_right _ hmem
      · rw [handed_of_callOf hnew state hmem, hstate]
        exact List.mem_append_left _ List.mem_cons_self
    constructor
    · rw [hids]
      exact h.states
    · rw [hids]
      exact List.Subset.trans h.seen hr.seen_states
    · exact hreleased ▸ h.feedback
    · rw [hr.seen_feedback]
      exact hreleased ▸ h.seen_feedback
    · refine ⟨old ++ new, by rw [hcalls, hold, List.append_assoc], ?_, ?_⟩
      · intro called hcalled
        rcases List.mem_append.mp hcalled with hcalled | hcalled
        · obtain ⟨⟨harm, hex⟩, -⟩ := hexplained called hcalled
          exact ⟨harm, hex.mono (List.subset_append_left _ _)⟩
        · have hcall := hnew called hcalled
          rw [h.released] at hcall
          exact explained_of_callOf hcall (List.subset_append_left _ _)
            (List.mem_append_right _ List.mem_cons_self) rfl rfl
      · change frame'.trialRecords = recordedTrials (completed ++ _) ↔ _
        rw [htrials, ← h.trials]
        rcases hdiscard with ⟨hsame, hnone⟩ | ⟨⟨record, hmore⟩, called, hcalled, hraised⟩
        · refine iff_of_true hsame ?_
          intro called hcalled
          rcases List.mem_append.mp hcalled with hcalled | hcalled
          · exact (hexplained called hcalled).2
          · exact hnone called hcalled
        · refine iff_of_false ?_ fun hall => hall called (List.mem_append_right _ hcalled) hraised
          rw [hmore]
          simp
    · rw [hids]
      exact fun state hmem => h.known state (hhanded state hmem)
    · exact fun state hmem state' hmem' =>
        h.one_value state (hhanded state hmem) state' (hhanded state' hmem')

lemma Finished.of_world {result : ArmRunExecutionResult F R} (h : Finished o result frame)
    (world : W) : Finished o result { frame with world } where
  states := h.states
  seen := h.seen
  feedback := h.feedback
  seen_feedback := h.seen_feedback
  calls := h.calls
  known := h.known
  one_value := h.one_value

variable {operations : LearningStudyOperations W S F R} {observer : LearningStudyObserver W S F R}

lemma attempt_eq_ok {α : Type} {x : Run W S F R α} {r : Except Raised α}
    (h : attempt x frame = .ok r frame') :
    (∃ a, r = .ok a ∧ x frame = .ok a frame') ∨ ∃ e, r = .error e ∧ x frame = .error e frame' := by
  unfold attempt at h
  split at h
  next a frame₁ hx =>
    obtain ⟨rfl, rfl⟩ := EStateM.Result.ok.inj h
    exact .inl ⟨a, rfl, hx⟩
  next e frame₁ hx =>
    obtain ⟨rfl, rfl⟩ := EStateM.Result.ok.inj h
    exact .inr ⟨e, rfl, hx⟩

lemma run_bind_eq_ok {α β : Type} {x : Run W S F R α} {f : α → Run W S F R β} {b : β}
    (h : (x >>= f) frame = .ok b frame') :
    ∃ a frame₁, x frame = .ok a frame₁ ∧ f a frame₁ = .ok b frame' := by
  rw [run_bind] at h
  split at h
  next a frame₁ hx => exact ⟨a, frame₁, hx, h⟩
  next => cases h

lemma runSteps_finished {rest : List (CompiledStudyStep × ℕ)}
    {results : List (StepExecutionResult F R)} {failure : Option StudyStepFailure}
    (h : Progress armRun o initialStateId completed frame)
    (hdrop : armRun.steps.zipIdx.drop completed.length = rest)
    (hrun : runSteps operations observer armRun rest completed frame =
      .ok (results, failure) frame') :
    ArmLineage armRun (armResult armRun initialStateId results failure frame') ∧
      Finished o (armResult armRun initialStateId results failure frame') frame' := by
  induction rest generalizing completed frame with
  | nil =>
    obtain ⟨heq, rfl⟩ := EStateM.Result.ok.inj hrun
    obtain ⟨rfl, rfl⟩ := Prod.mk.inj heq
    exact h.finished hdrop
  | cons indexed rest ih =>
    obtain ⟨step, stepIndex⟩ := indexed
    unfold runSteps at hrun
    rw [run_get] at hrun
    cases hstate : frame.state with
    | none =>
      rw [hstate] at hrun
      cases hrun
    | some stateBefore =>
      rw [hstate] at hrun
      obtain ⟨r, frame₁, hattempt, hrun⟩ := run_bind_eq_ok hrun
      have hcases := @performStep_cases _ _ _ _ operations observer armRun
        stepIndex step stateBefore frame
      obtain ⟨result, rfl, hx⟩ | ⟨e, rfl, hx⟩ := attempt_eq_ok hattempt
      · rw [hx] at hcases
        obtain ⟨candidate, haccepted⟩ := hcases
        refine ih (h.accepted hstate hdrop haccepted) ?_ hrun
        rw [List.length_append, List.length_singleton, ← List.drop_drop, hdrop]
        rfl
      · rw [hx] at hcases
        dsimp only at hcases hrun
        split_ifs at hrun with hinterrupts
        · cases hrun
        · obtain ⟨_, frame₂, hnotify, hrun⟩ := run_bind_eq_ok hrun
          obtain ⟨world, rfl⟩ := notify_eq_ok hnotify
          obtain ⟨heq, rfl⟩ := EStateM.Result.ok.inj hrun
          obtain ⟨rfl, rfl⟩ := Prod.mk.inj heq
          obtain ⟨hlineage, hfinished⟩ :=
            h.refused hstate hdrop (hcases.resolve_left hinterrupts)
          exact ⟨hlineage, hfinished.of_world world⟩

/-- An arm run is about to begin, with what the resume has accepted for it. -/
structure Ready (o : Outside S F R) (ownStates ownFeedback : List String)
    (frame : Frame W S F R) : Prop where
  calls : frame.calls = o.calls
  states : (o.doneStates ++ ownStates ++ o.restStates).Nodup
  seen : o.doneStates ++ ownStates ++ o.restStates ⊆ frame.seenStateIds
  feedback : (o.doneFeedback ++ ownFeedback ++ o.restFeedback).Nodup
  seen_feedback : o.doneFeedback ++ ownFeedback ++ o.restFeedback ⊆ frame.seenFeedbackIds
  known : ∀ state ∈ handed frame.calls, state.stateId ∈ o.doneStates
  one_value : OneValue (handed frame.calls)

/-- A learner is initialised with a new state, or the attempt is refused, or the study ends. -/
lemma initialise_cases (armRun : PlannedArmRun) (frame : Frame W S F R) :
    match initialise operations observer armRun frame with
    | .ok state frame' => state.stateId ∉ frame.seenStateIds ∧ ∃ world, frame' = { frame with
      world
      seenStateIds := frame.seenStateIds ++ [state.stateId]
      calls := frame.calls ++ [⟨.initialiseLearner armRun, false⟩] }
    | .error e frame' => e.interrupts = true ∨ ∃ world raised, frame' = { frame with
      world, calls := frame.calls ++ [⟨.initialiseLearner armRun, raised⟩] } := by
  unfold initialise
  rw [run_bind]
  have hcall := callOperation_spec (.initialiseLearner armRun : Call S F R)
    (operations.initialiseLearner armRun) frame
  cases hrun : callOperation (.initialiseLearner armRun : Call S F R)
      (operations.initialiseLearner armRun) frame with
  | error e frame' =>
    obtain ⟨world, rfl⟩ := hcall.error rfl hrun
    exact .inr ⟨world, true, rfl⟩
  | ok state frame₁ =>
    obtain ⟨world, rfl⟩ := hcall.ok rfl hrun
    dsimp only
    rw [run_bind]
    have hnew := @validateNewState_spec _ _ _ _ (· = { frame with
      world, calls := frame.calls ++ [(⟨.initialiseLearner armRun, false⟩ : Called S F R)] })
      state.stateId
    cases hvalidate : validateNewState state.stateId { frame with
        world, calls := frame.calls ++ [(⟨.initialiseLearner armRun, false⟩ : Called S F R)] } with
    | error e frame' => exact .inr ⟨world, false, hnew.error rfl hvalidate⟩
    | ok u frame₂ =>
      obtain ⟨hfresh, rfl⟩ := hnew.ok rfl hvalidate
      dsimp only
      rw [run_bind, run_modify]
      dsimp only
      rw [run_bind]
      cases hnotify : notify observer (.learnerInitialised armRun state) { frame with
          world
          seenStateIds := frame.seenStateIds ++ [state.stateId]
          calls := frame.calls ++ [(⟨.initialiseLearner armRun, false⟩ : Called S F R)] } with
      | error e frame' => exact .inl (interrupts_of_notify hnotify)
      | ok u frame₃ =>
        obtain ⟨world', rfl⟩ := notify_eq_ok hnotify
        exact ⟨hfresh, world', rfl⟩

variable {state : LearnerStateHandle S}

lemma OneValue.cons {states : List (LearnerStateHandle S)} (h : OneValue states)
    (hnew : ∀ state' ∈ states, state'.stateId ≠ state.stateId) : OneValue (state :: states) := by
  intro a ha b hb heq
  rcases List.mem_cons.mp ha with rfl | hold
  · rcases List.mem_cons.mp hb with rfl | hold'
    · rfl
    · exact absurd heq.symm (hnew b hold')
  · rcases List.mem_cons.mp hb with rfl | hold'
    · exact absurd heq (hnew a hold)
    · exact h a hold b hold' heq

lemma Ready.initialised (h : Ready o [] [] frame) (world : W)
    (hfresh : state.stateId ∉ frame.seenStateIds) :
    Progress armRun o state.stateId [] { frame with
      world
      seenStateIds := frame.seenStateIds ++ [state.stateId]
      state := some state
      trialRecords := []
      trialsByExperience := []
      feedbackByStep := []
      calls := frame.calls ++ [⟨.initialiseLearner armRun, false⟩] } := by
  have hhanded : handed (frame.calls ++ [(⟨.initialiseLearner armRun, false⟩ : Called S F R)]) =
      handed frame.calls := by
    rw [handed_append]
    exact List.append_nil _
  have hnew : ∀ state' ∈ handed frame.calls, state'.stateId ≠ state.stateId := by
    intro state' hmem heq
    refine hfresh (h.seen ?_)
    rw [← heq, List.append_nil]
    exact List.mem_append_left _ (h.known state' hmem)
  constructor
  · exact List.Forall₂.nil
  · exact fun _ hmem => absurd hmem List.not_mem_nil
  · rfl
  · rfl
  · rfl
  · exact @nodup_insert _ [] _ _ _ h.states h.seen hfresh
  · exact @insert_subset _ [] _ _ _ h.seen
  · exact h.feedback
  · exact h.seen_feedback
  · refine ⟨_, by rw [h.calls], ?_⟩
    intro called hcalled
    rw [List.mem_singleton.mp hcalled]
    exact ⟨⟨rfl, trivial⟩, fun h => h⟩
  · intro state' hmem
    rw [hhanded] at hmem
    rcases List.mem_cons.mp hmem with rfl | hmem
    · exact List.mem_append_right _ List.mem_cons_self
    · exact List.mem_append_left _ (h.known state' hmem)
  · rw [hhanded]
    exact h.one_value.cons hnew

lemma mem_of_chain {indexed : List (CompiledStudyStep × ℕ)}
    {results : List (StepExecutionResult F R)} {before after : Option String} {ids : List String}
    (hlineage : List.Forall₂ StepLineage indexed results) (h : Chain before results after)
    (hbefore : ∀ id ∈ before, id ∈ ids) : ∀ id ∈ after, id ∈ ids ++ candidateIds results := by
  induction hlineage generalizing before ids with
  | nil =>
    rintro id hid
    exact List.mem_append_left _ (hbefore id (h ▸ hid))
  | @cons step result indexed results hstep _ ih =>
    have hcommitted : ∀ id ∈ result.committedStateId, id ∈ ids ++ candidateIds [result] := by
      intro id hid
      by_cases hstatus : result.status = .completed
      · obtain ⟨b, c, hb, hc, -, hcommit, -⟩ := hstep.completed hstatus
        have hcandidates : candidateIds [result] = [c] := by simp [candidateIds, hc]
        rw [hcommit] at hid
        obtain rfl := Option.some.inj hid
        rw [hcandidates]
        split_ifs
        · exact List.mem_append_right _ List.mem_cons_self
        · exact List.mem_append_left _ (hbefore b (h.1 ▸ hb))
      · rw [(hstep.other hstatus).1] at hid
        exact List.mem_append_left _ (hbefore id (h.1 ▸ hid))
    intro id hid
    have hmem := ih h.2 hcommitted id hid
    rwa [List.append_assoc, ← candidateIds_append, List.singleton_append] at hmem

variable {resumeState : ArmRunResumeState S F R}

lemma Ready.resumed
    (h : Ready o (resumeState.initialStateId :: candidateIds resumeState.completedSteps)
      (releasedIds resumeState.completedSteps) frame) (hresumed : ResumePrefix armRun resumeState)
    (hdone : ∀ result ∈ resumeState.completedSteps, result.status = .completed)
    (trials : List (String × TrialRecord R)) :
    Progress armRun o resumeState.initialStateId resumeState.completedSteps { frame with
      state := some resumeState.currentState
      trialRecords := resumeState.trialRecords
      trialsByExperience := trials
      feedbackByStep := resumeState.feedbackByStep } := by
  have hcurrent : resumeState.currentState.stateId ∈
      resumeState.initialStateId :: candidateIds resumeState.completedSteps := by
    refine @mem_of_chain _ _ _ _ _ _ [resumeState.initialStateId] hresumed.lineage hresumed.chain ?_ _
      rfl
    rintro id hid
    exact List.mem_singleton.mpr (Option.some.inj hid).symm
  have hnew : ∀ state ∈ handed frame.calls,
      state.stateId ≠ resumeState.currentState.stateId := by
    intro state hmem heq
    have hdisjoint := (List.nodup_append.mp (List.nodup_append.mp h.states).1).2.2
    exact hdisjoint _ (h.known state hmem) _ hcurrent heq
  constructor
  · exact hresumed.lineage
  · exact hdone
  · exact hresumed.chain
  · exact hresumed.trials
  · exact hresumed.feedback
  · exact h.states
  · exact h.seen
  · exact h.feedback
  · exact h.seen_feedback
  · exact ⟨[], by rw [List.append_nil, h.calls], fun _ hmem => absurd hmem List.not_mem_nil⟩
  · intro state hmem
    rcases List.mem_cons.mp hmem with rfl | hmem
    · exact List.mem_append_right _ hcurrent
    · exact List.mem_append_left _ (h.known state hmem)
  · exact h.one_value.cons hnew

lemma Ready.uninitialised (h : Ready o [] [] frame) (world : W) (raised : Bool)
    (failure : StudyStepFailure) :
    let result : ArmRunExecutionResult F R :=
      ⟨armRun.armRunId, .failed, none, [], [], none, some failure⟩
    ArmLineage armRun result ∧ Finished o result { frame with
      world
      state := none
      trialRecords := []
      trialsByExperience := []
      feedbackByStep := []
      calls := frame.calls ++ [⟨.initialiseLearner armRun, raised⟩] } := by
  have hhanded : handed (frame.calls ++ [(⟨.initialiseLearner armRun, raised⟩ : Called S F R)]) =
      handed frame.calls := by
    rw [handed_append]
    exact List.append_nil _
  intro result
  refine ⟨⟨rfl, .inl ⟨rfl, rfl, rfl, rfl⟩⟩, h.states, h.seen, h.feedback, h.seen_feedback,
    ⟨_, by rw [h.calls], ?_, ?_⟩, ?_, ?_⟩
  · intro called hcalled
    rw [List.mem_singleton.mp hcalled]
    exact ⟨rfl, trivial⟩
  · refine iff_of_true rfl ?_
    intro called hcalled hdiscard
    rw [List.mem_singleton.mp hcalled] at hdiscard
    exact hdiscard
  · rw [hhanded]
    exact fun state hmem => List.mem_append_left _ (h.known state hmem)
  · rw [hhanded]
    exact h.one_value

lemma completed_of_validateResumePrefix (h : validateResumePrefix armRun resumeState = .ok ⟨⟩) :
    ∀ result ∈ resumeState.completedSteps, result.status = .completed := by
  rw [validateResumePrefix, require_bind_eq_ok] at h
  obtain ⟨hlength, hchecks⟩ := h
  intro result hresult
  have hmap : (resumeState.completedSteps.zip armRun.steps.zipIdx).map Prod.fst =
      resumeState.completedSteps := List.map_fst_zip (by simpa using hlength.le)
  rw [← hmap] at hresult
  obtain ⟨receipt, hreceipt, rfl⟩ := List.mem_map.mp hresult
  have hcheck := Loops.forM_eq_ok.mp hchecks receipt hreceipt
  rw [checkReceipt, require_bind_eq_ok] at hcheck
  exact hcheck.1

/-- **An arm run.** -/
theorem runArmRun_finished {resumeState : Option (ArmRunResumeState S F R)}
    {result : ArmRunExecutionResult F R}
    (h : Ready o
      (resumeState.elim [] fun resumed => resumed.initialStateId :: candidateIds resumed.completedSteps)
      (resumeState.elim [] fun resumed => releasedIds resumed.completedSteps) frame)
    (hresume : ∀ resumed ∈ resumeState, ResumePrefix armRun resumed)
    (hrun : runArmRun operations observer armRun resumeState frame = .ok result frame') :
    ArmLineage armRun result ∧ Finished o result frame' := by
  obtain ⟨begun, frame₁, hbegin, hrun⟩ := run_bind_eq_ok hrun
  have hsteps : ∀ initialStateId completed, begun = .ok (initialStateId, completed) →
      Progress armRun o initialStateId completed frame₁ →
      ArmLineage armRun result ∧ Finished o result frame' := by
    rintro initialStateId completed rfl hprogress
    obtain ⟨⟨results, failure⟩, frame₂, hsteps, hrun⟩ := run_bind_eq_ok hrun
    dsimp only at hrun
    rw [run_get] at hrun
    obtain ⟨u, frame₃, hnotify, hrun⟩ := run_bind_eq_ok hrun
    obtain ⟨world, rfl⟩ := notify_eq_ok hnotify
    obtain ⟨rfl, rfl⟩ := EStateM.Result.ok.inj hrun
    obtain ⟨hlineage, hfinished⟩ := runSteps_finished hprogress rfl hsteps
    exact ⟨hlineage, hfinished.of_world world⟩
  cases resumeState with
  | none =>
    unfold beginArmRun at hbegin
    obtain ⟨u, frame₂, hmodify, hbegin⟩ := run_bind_eq_ok hbegin
    obtain ⟨-, rfl⟩ := EStateM.Result.ok.inj hmodify
    obtain ⟨u, frame₃, hnotify, hbegin⟩ := run_bind_eq_ok hbegin
    obtain ⟨world, rfl⟩ := notify_eq_ok hnotify
    obtain ⟨r, frame₄, hattempt, hbegin⟩ := run_bind_eq_ok hbegin
    have hcases := @initialise_cases _ _ _ _ operations observer armRun
      { frame with
        world
        state := none
        trialRecords := []
        trialsByExperience := []
        feedbackByStep := [] }
    obtain ⟨state, rfl, hx⟩ | ⟨e, rfl, hx⟩ := attempt_eq_ok hattempt
    · rw [hx] at hcases
      obtain ⟨hfresh, world', rfl⟩ := hcases
      obtain ⟨u, frame₅, hmodify, hbegin⟩ := run_bind_eq_ok hbegin
      obtain ⟨-, rfl⟩ := EStateM.Result.ok.inj hmodify
      obtain ⟨rfl, rfl⟩ := EStateM.Result.ok.inj hbegin
      exact hsteps _ _ rfl (h.initialised world' hfresh)
    · rw [hx] at hcases
      dsimp only at hcases hbegin
      split_ifs at hbegin with hinterrupts
      · cases hbegin
      · obtain ⟨rfl, rfl⟩ := EStateM.Result.ok.inj hbegin
        obtain ⟨world', raised, rfl⟩ := hcases.resolve_left hinterrupts
        obtain ⟨u, frame₅, hnotify, hrun⟩ := run_bind_eq_ok hrun
        obtain ⟨world₂, rfl⟩ := notify_eq_ok hnotify
        obtain ⟨rfl, rfl⟩ := EStateM.Result.ok.inj hrun
        exact h.uninitialised world₂ raised _
  | some resumed =>
    unfold beginArmRun at hbegin
    dsimp only at hbegin
    cases hcheck : checkResume armRun resumed with
    | error e =>
      rw [hcheck] at hbegin
      cases hbegin
    | ok trials =>
      obtain ⟨u, hvalidate, -⟩ := bind_eq_ok.mp hcheck
      rw [hcheck] at hbegin
      obtain ⟨v, frame₂, hmodify, hbegin⟩ := run_bind_eq_ok hbegin
      obtain ⟨-, rfl⟩ := EStateM.Result.ok.inj hmodify
      obtain ⟨rfl, rfl⟩ := EStateM.Result.ok.inj hbegin
      exact hsteps _ _ rfl (h.resumed (hresume resumed rfl)
        (completed_of_validateResumePrefix hvalidate) trials)

end Arms

end AecBench.Experimentation.LearningStudies
