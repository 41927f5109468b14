import AecBench.Lifecycles.Reducer

/-!
# Reducers keep run states valid

A reducer that is given a valid run state either raises or returns a valid run state; either
way the state it was given is unchanged. The reducers assign to fields without validation, so
every clause of the validators is restored by the reducer itself.

## Main definitions

* `EvidenceLifecycleRunState.ValidFor` — a run state that passes its validators and follows the
  checkpoints of a specification.
* `ReducerCall.Callable` — the arguments the callers of the reducers pass.
* `EvidenceLifecycleRunState.DenseTransitions` — transitions numbered without gaps from 1.

## Main results

* `EvidenceLifecycleRunState.valid_replace` — replacing one checkpoint of a valid run.
* `ReducerCall.validFor` — **every reducer keeps run states valid**, and leaves the state it was
  given alone.
-/

namespace AecBench.Lifecycles

open Validation Objects Contracts

/-! ## Attempts -/

namespace CheckpointRunRecord

/-- The two records have spent the same budgets on the same actions. -/
structure SameHistory (c c' : CheckpointRunRecord) : Prop where
  checkpointId : c'.checkpointId = c.checkpointId
  evidenceBudget : c'.evidenceRequestBudget = c.evidenceRequestBudget
  evidenceRemaining : c'.evidenceRequestBudgetRemaining = c.evidenceRequestBudgetRemaining
  evidenceActions : c'.evidenceRequestActions = c.evidenceRequestActions
  operationBudget : c'.operationBudget = c.operationBudget
  operationRemaining : c'.operationBudgetRemaining = c.operationBudgetRemaining
  operationActions : c'.operationActions = c.operationActions

variable {c : CheckpointRunRecord}

variable (hc : c.errors = [])
include hc

/-- What is left to check of a record when only its status and its attempts have changed. -/
lemma valid_of_sameHistory {c' : CheckpointRunRecord} (h : SameHistory c c')
    (hsubmission : c'.status = .submitted → c'.submissionPath ≠ none ∧ c'.submissionSha256 ≠ none)
    (hactive : c'.activeAttempts.length ≤ 1)
    (hsequences : c'.attempts.map (·.sequence) = List.range' 1 c'.attempts.length)
    (hattempts : ∀ a ∈ c'.attempts, a.errors = []) : c'.errors = [] := by
  rw [errors_eq_nil, ownErrors_eq_nil] at hc
  obtain ⟨hown, -, hevidence, hoperations⟩ := hc
  rw [errors_eq_nil, ownErrors_eq_nil]
  refine ⟨⟨?_, hsubmission, hactive, hsequences, ?_, ?_, ?_, ?_⟩, hattempts, ?_, ?_⟩
  · rw [h.checkpointId]
    exact hown.named
  · rw [h.evidenceBudget, h.evidenceRemaining]
    exact hown.evidenceRemaining
  · rw [evidenceSpending, h.checkpointId, h.evidenceBudget, h.evidenceActions,
      h.evidenceRemaining]
    exact hown.evidenceSpent
  · rw [h.operationBudget, h.operationRemaining]
    exact hown.operationRemaining
  · rw [operationSpending, h.checkpointId, h.operationBudget, h.operationActions,
      h.operationRemaining]
    exact hown.operationSpent
  · rw [h.evidenceActions]
    exact hevidence
  · rw [h.operationActions]
    exact hoperations

/-- Ending the active attempt of a valid record leaves none active and keeps the others. -/
lemma assignActiveAttempt_settles {f : CheckpointAttemptRecord → CheckpointAttemptRecord}
    (hstatus : ∀ a, (f a).status ≠ .active) (hsequence : ∀ a, (f a).sequence = a.sequence)
    (herrors : ∀ a, (f a).errors = a.errors) :
    (c.assignActiveAttempt f).activeAttempts = [] ∧
      (c.assignActiveAttempt f).attempts.map (·.sequence) =
        List.range' 1 (c.assignActiveAttempt f).attempts.length ∧
      ∀ a ∈ (c.assignActiveAttempt f).attempts, a.errors = [] := by
  rw [errors_eq_nil, ownErrors_eq_nil] at hc
  obtain ⟨hown, hattempts, -, -⟩ := hc
  have hone := hown.oneActive
  have hseq := hown.sequences
  cases hfound : c.attempts.reverse.find? (·.status = .active) with
  | none =>
    have hsame : (c.assignActiveAttempt f).attempts = c.attempts := by
      rw [assignActiveAttempt, Table.updateLast, Table.updateFirst_of_find?_eq_none hfound,
        List.reverse_reverse]
    have hnone : c.activeAttempts = [] := by
      rw [activeAttempts, List.filter_eq_nil_iff]
      simpa using hfound
    rw [activeAttempts, hsame]
    exact ⟨hnone, hseq, hattempts⟩
  | some a =>
    have ha : a.status = .active := by simpa using List.find?_some hfound
    obtain ⟨before, after, hsplit, hafter, hupdate⟩ := Table.updateLast_of_find? f hfound
    have hnew : (c.assignActiveAttempt f).attempts = before ++ f a :: after := hupdate
    rw [activeAttempts, hsplit, List.filter_append, List.filter_cons_of_pos (by simpa using ha),
      List.length_append, List.length_cons] at hone
    have hbefore : before.filter (·.status = .active) = [] :=
      List.eq_nil_of_length_eq_zero (by omega)
    have hafter' : after.filter (·.status = .active) = [] :=
      List.eq_nil_of_length_eq_zero (by omega)
    refine ⟨?_, ?_, ?_⟩
    · rw [activeAttempts, hnew, List.filter_append, hbefore,
        List.filter_cons_of_neg (by simpa using hstatus a), hafter']
      rfl
    · rw [hsplit] at hseq
      rw [hnew]
      simpa [hsequence] using hseq
    · rw [hsplit] at hattempts
      rw [hnew]
      intro b hb
      rcases List.mem_append.mp hb with hb | hb
      · exact hattempts b (List.mem_append_left _ hb)
      · rcases List.mem_cons.mp hb with rfl | hb
        · rw [herrors]
          exact hattempts a (by simp)
        · exact hattempts b (by simp [hb])

lemma valid_submit (submissionPath submissionSha256 : String) :
    (c.submit submissionPath submissionSha256).errors = [] := by
  obtain ⟨hnone, hseq, hattempts⟩ := assignActiveAttempt_settles hc
    (f := fun a => { a with status := .submitted }) (by simp) (fun _ => rfl) (fun _ => rfl)
  refine valid_of_sameHistory hc ⟨rfl, rfl, rfl, rfl, rfl, rfl, rfl⟩ ?_ ?_ hseq hattempts
  · intro _
    simp [submit]
  · have hlen : (c.submit submissionPath submissionSha256).activeAttempts = [] := hnone
    simp [hlen]

lemma valid_failAttempt (failureKind : String) :
    (c.assignActiveAttempt fun a =>
      { a with status := .failed, failureKind := some failureKind }).errors = [] := by
  have hown := (ownErrors_eq_nil.mp (errors_eq_nil.mp hc).1)
  obtain ⟨hnone, hseq, hattempts⟩ := assignActiveAttempt_settles hc
    (f := fun a => { a with status := .failed, failureKind := some failureKind })
    (by simp) (fun _ => rfl) (fun _ => rfl)
  refine valid_of_sameHistory hc ⟨rfl, rfl, rfl, rfl, rfl, rfl, rfl⟩ hown.submission ?_ hseq
    hattempts
  simp [hnone]

/-- Adding a valid attempt, after the active one is interrupted, gives a valid record. -/
lemma valid_withNextAttempt {sessionId executionMode : String}
    {episodeRequestSha256 : Option String}
    (hnew : (c.interruptActiveAttempt.nextAttempt c.checkpointId sessionId executionMode
      episodeRequestSha256).errors = []) :
    (c.withNextAttempt sessionId executionMode episodeRequestSha256).errors = [] := by
  have hown := (ownErrors_eq_nil.mp (errors_eq_nil.mp hc).1)
  obtain ⟨hnone, hseq, hattempts⟩ := assignActiveAttempt_settles hc
    (f := fun a => { a with status := .interrupted }) (by simp) (fun _ => rfl) (fun _ => rfl)
  refine valid_of_sameHistory hc ⟨rfl, rfl, rfl, rfl, rfl, rfl, rfl⟩ hown.submission ?_ ?_ ?_
  · have hactive : (c.withNextAttempt sessionId executionMode
        episodeRequestSha256).activeAttempts = [c.interruptActiveAttempt.nextAttempt
          c.checkpointId sessionId executionMode episodeRequestSha256] := by
      rw [activeAttempts] at hnone
      rw [activeAttempts, withNextAttempt, List.filter_append, interruptActiveAttempt, hnone]
      rfl
    simp [hactive]
  · rw [withNextAttempt, List.map_append, interruptActiveAttempt, hseq, List.length_append,
      List.length_singleton, List.range'_1_concat, Nat.add_comm 1]
    rfl
  · intro a ha
    rcases List.mem_append.mp ha with ha | ha
    · exact hattempts a ha
    · obtain rfl := List.mem_singleton.mp ha
      exact hnew

end CheckpointRunRecord

/-! ## Replacing one checkpoint of a run -/

variable {checkpointId : String}

variable {f : CheckpointRunRecord → CheckpointRunRecord}

namespace EvidenceLifecycleRunState

variable {s : EvidenceLifecycleRunState} {before after : List CheckpointRunRecord}
  {c c' : CheckpointRunRecord}

/-- **Replacing one checkpoint** of a valid run by a valid record with the same history gives a
valid run, when the status of the run and the order of the phases still fit. -/
lemma valid_replace (hs : s.errors = []) (hruns : s.checkpointRuns = before ++ c :: after)
    (hc' : c'.errors = []) (hsame : CheckpointRunRecord.SameHistory c c')
    (status : LifecycleRunStatus) {activeCheckpointId : Option String}
    (hstatus : ({ s with
      status, activeCheckpointId, checkpointRuns := before ++ c' :: after } :
        EvidenceLifecycleRunState).StatusAgrees)
    (hphases : ((before ++ c' :: after).map (·.status.phase)).Pairwise (· ≤ ·)) :
    ({ s with status, activeCheckpointId, checkpointRuns := before ++ c' :: after } :
      EvidenceLifecycleRunState).errors = [] := by
  rw [errors_eq_nil, ownErrors_eq_nil] at hs
  obtain ⟨hown, hcheckpoints, hrevisits, htransitions, hbranch⟩ := hs
  have hids : (before ++ c' :: after).map (·.checkpointId) = s.checkpointIds := by
    rw [checkpointIds, hruns]
    simp [hsame.checkpointId]
  have hoperations : (before ++ c' :: after).flatMap (·.operationActions) =
      s.operationActions := by
    rw [operationActions, hruns]
    simp [hsame.operationActions]
  have hevidence : (before ++ c' :: after).flatMap (·.evidenceRequestActions) =
      s.evidenceRequestActions := by
    rw [evidenceRequestActions, hruns]
    simp [hsame.evidenceActions]
  rw [hruns] at hcheckpoints
  rw [errors_eq_nil, ownErrors_eq_nil]
  refine ⟨⟨hown.named, hown.authorization, ?_, hstatus, hphases, ?_, hown.branchActions, ?_, ?_,
    ?_⟩, ?_, hrevisits, htransitions, hbranch⟩
  · rw [checkpointIds, hids]
    exact hown.ids
  · intro branch hb
    rw [checkpointIds, hids]
    exact hown.branchPoint branch hb
  · intro hv
    obtain ⟨hno, hbudgets⟩ := hown.withoutOperations hv
    rw [hruns] at hbudgets
    refine ⟨hoperations.trans hno, ?_⟩
    intro checkpoint hmem
    rcases List.mem_append.mp hmem with hmem | hmem
    · exact hbudgets checkpoint (List.mem_append_left _ hmem)
    · rcases List.mem_cons.mp hmem with rfl | hmem
      · rw [hsame.operationBudget, hsame.operationRemaining]
        exact hbudgets c (by simp)
      · exact hbudgets checkpoint (by simp [hmem])
  · rw [operationActions, hoperations]
    exact hown.operationIdentities
  · rw [evidenceRequestActions, hevidence]
    exact hown.evidenceIdentities
  · intro checkpoint hmem
    rcases List.mem_append.mp hmem with hmem | hmem
    · exact hcheckpoints checkpoint (List.mem_append_left _ hmem)
    · rcases List.mem_cons.mp hmem with rfl | hmem
      · exact hc'
      · exact hcheckpoints checkpoint (by simp [hmem])

/-- Replacing a checkpoint by one with the same status and identifier keeps the agreement of
the run's status. -/
lemma statusAgrees_replace (hs : s.StatusAgrees)
    (hruns : s.checkpointRuns = before ++ c :: after) (hstatus : c'.status = c.status)
    (hid : c'.checkpointId = c.checkpointId) :
    ({ s with checkpointRuns := before ++ c' :: after } :
      EvidenceLifecycleRunState).StatusAgrees := by
  have hactive : ((before ++ c' :: after).filter (·.status = .active)).map (·.checkpointId) =
      s.activeCheckpoints.map (·.checkpointId) := by
    rw [activeCheckpoints, hruns]
    by_cases hc : c.status = .active <;> simp [hstatus, hc, hid]
  rw [StatusAgrees] at hs ⊢
  cases hst : s.status with
  | complete =>
    rw [hst] at hs
    obtain ⟨hnone, hempty, hall⟩ := hs
    rw [hempty, List.map_nil, List.map_eq_nil_iff] at hactive
    refine ⟨hnone, hactive, ?_⟩
    rw [hruns] at hall
    intro checkpoint hmem
    rcases List.mem_append.mp hmem with hmem | hmem
    · exact hall checkpoint (List.mem_append_left _ hmem)
    · rcases List.mem_cons.mp hmem with rfl | hmem
      · rw [hstatus]
        exact hall c (by simp)
      · exact hall checkpoint (by simp [hmem])
  | awaitingCheckpointSubmission =>
    rw [hst] at hs
    obtain ⟨a, ha, hactiveId⟩ := hs
    rw [ha, List.map_singleton] at hactive
    obtain ⟨a', ha', hid'⟩ := List.map_eq_singleton_iff.mp hactive
    exact ⟨a', ha', hactiveId.trans (congrArg some hid'.symm)⟩
  | awaitingEvidenceRelease =>
    rw [hst] at hs
    obtain ⟨hnone, hempty⟩ := hs
    rw [hempty, List.map_nil, List.map_eq_nil_iff] at hactive
    exact ⟨hnone, hactive⟩

/-- An assignment to a checkpoint that keeps its identifier, its history and its status keeps
the run valid. -/
lemma valid_assignCheckpoint (hs : s.errors = [])
    (hvalid : ∀ c, s.checkpoint? checkpointId = some c → c.errors = [] → (f c).errors = [])
    (hsame : ∀ c, CheckpointRunRecord.SameHistory c (f c))
    (hstatus : ∀ c, (f c).status = c.status) : (s.assignCheckpoint checkpointId f).errors = [] := by
  cases hfound : s.checkpoint? checkpointId with
  | none =>
    rw [assignCheckpoint, Table.updateFirst_of_find?_eq_none hfound]
    exact hs
  | some c =>
    obtain ⟨before, after, hruns, -, hupdate⟩ := Table.updateFirst_of_find? f hfound
    have hown := ownErrors_eq_nil.mp (errors_eq_nil.mp hs).1
    have hc : c.errors = [] := (errors_eq_nil.mp hs).2.1 c (by rw [hruns]; simp)
    have hphases : (before ++ f c :: after).map (·.status.phase) =
        s.checkpointRuns.map (·.status.phase) := by
      rw [hruns]
      simp [hstatus]
    rw [assignCheckpoint, hupdate]
    refine valid_replace hs hruns (hvalid c hfound hc) (hsame c) s.status
      (statusAgrees_replace hown.statusAgrees hruns (hstatus c) (hsame c).checkpointId) ?_
    rw [hphases]
    exact hown.phases

lemma valid_withTransition (hs : s.errors = []) {kind : LifecycleTransitionKind}
    {fromCheckpointId toCheckpointId : Option String} {reason : String}
    (hreason : ¬ Text.Blank reason) :
    (s.withTransition kind fromCheckpointId toCheckpointId reason).errors = [] := by
  rw [errors_eq_nil] at hs ⊢
  obtain ⟨hown, hcheckpoints, hrevisits, htransitions, hbranch⟩ := hs
  refine ⟨hown, hcheckpoints, hrevisits, ?_, hbranch⟩
  intro t ht
  rcases List.mem_append.mp ht with ht | ht
  · exact htransitions t ht
  · obtain rfl := List.mem_singleton.mp ht
    exact transitionRecord_errors_eq_nil.mpr hreason

/-! ## Releasing and submitting -/

/-- `sum(checkpoint.status == SUBMITTED for checkpoint in state.checkpoint_runs)`. -/
def submittedCount (state : EvidenceLifecycleRunState) : ℕ :=
  state.checkpointRuns.countP (·.status = .submitted)

lemma submitted_of_mem_take {runs : List CheckpointRunRecord}
    (h : (runs.map (·.status.phase)).Pairwise (· ≤ ·)) :
    ∀ c ∈ runs.take (runs.countP (·.status = .submitted)), c.status = .submitted := by
  induction runs with
  | nil => simp
  | cons a runs ih =>
    rw [List.map_cons, List.pairwise_cons] at h
    by_cases ha : a.status = .submitted
    · rw [List.countP_cons_of_pos (by simpa using ha), List.take_succ_cons]
      intro c hc
      rcases List.mem_cons.mp hc with rfl | hc
      · exact ha
      · exact ih h.2 c hc
    · have hnone : runs.countP (·.status = .submitted) = 0 := by
        rw [List.countP_eq_zero]
        intro c hc
        have hle := h.1 c.status.phase (List.mem_map_of_mem hc)
        intro hsub
        rw [of_decide_eq_true hsub] at hle
        cases hst : a.status with
        | submitted => exact ha hst
        | active | pending => simp [hst, CheckpointRunStatus.phase] at hle
      rw [List.countP_cons_of_neg (by simpa using ha), hnone]
      simp

lemma submitted_before (hs : s.errors = []) (hruns : s.checkpointRuns = before ++ c :: after)
    (hnext : s.checkpointIds[s.submittedCount]? = some c.checkpointId) :
    ∀ b ∈ before, b.status = .submitted := by
  have hown := ownErrors_eq_nil.mp (errors_eq_nil.mp hs).1
  have hat : s.checkpointIds[before.length]? = some c.checkpointId := by
    rw [checkpointIds, hruns]
    simp
  have hlt : before.length < s.checkpointIds.length := by
    rw [checkpointIds, hruns]
    simp
  have hk : before.length = s.submittedCount :=
    (List.getElem?_inj hlt hown.ids).mp (hat.trans hnext.symm)
  have hall := submitted_of_mem_take hown.phases
  rw [← submittedCount, ← hk, hruns, List.take_left] at hall
  exact hall

lemma valid_released (hs : s.errors = []) (releasedFiles : List String)
    (hst : s.status = .awaitingEvidenceRelease) (hc : s.checkpoint? checkpointId = some c)
    (hpending : c.status = .pending)
    (hnext : s.checkpointIds[s.submittedCount]? = some checkpointId) :
    (s.released checkpointId releasedFiles).errors = [] := by
  have hown := ownErrors_eq_nil.mp (errors_eq_nil.mp hs).1
  have hid : c.checkpointId = checkpointId := by simpa using List.find?_some hc
  obtain ⟨before, after, hruns, -, hupdate⟩ := Table.updateFirst_of_find?
    (fun c => ({ c with status := .active, releasedFiles } : CheckpointRunRecord)) hc
  have hcv : c.errors = [] := (errors_eq_nil.mp hs).2.1 c (by rw [hruns]; simp)
  have hcown := CheckpointRunRecord.ownErrors_eq_nil.mp
    (CheckpointRunRecord.errors_eq_nil.mp hcv).1
  have hbefore := submitted_before hs hruns (hnext.trans (congrArg some hid.symm))
  have hnone : s.activeCheckpoints = [] := by
    have hagrees := hown.statusAgrees
    rw [StatusAgrees, hst] at hagrees
    exact hagrees.2
  have hc' : ({ c with status := .active, releasedFiles } : CheckpointRunRecord).errors = [] :=
    CheckpointRunRecord.valid_of_sameHistory hcv ⟨rfl, rfl, rfl, rfl, rfl, rfl, rfl⟩ (by simp)
      hcown.oneActive hcown.sequences (CheckpointRunRecord.errors_eq_nil.mp hcv).2.1
  simp only [released, assignCheckpoint, hupdate]
  refine valid_replace hs hruns hc' ⟨rfl, rfl, rfl, rfl, rfl, rfl, rfl⟩ _ ?_ ?_
  · rw [activeCheckpoints, hruns, List.filter_append, List.append_eq_nil_iff] at hnone
    rw [List.filter_cons_of_neg (by simp [hpending])] at hnone
    refine ⟨{ c with status := .active, releasedFiles }, ?_, congrArg some hid.symm⟩
    rw [activeCheckpoints, List.filter_append, hnone.1, List.filter_cons_of_pos (by simp),
      hnone.2]
    rfl
  · have hphases := hown.phases
    rw [hruns, List.map_append, List.map_cons, List.pairwise_append, List.pairwise_cons] at hphases
    rw [List.map_append, List.map_cons, List.pairwise_append, List.pairwise_cons]
    obtain ⟨h1, ⟨h2, h3⟩, h4⟩ := hphases
    refine ⟨h1, ⟨?_, h3⟩, ?_⟩
    · intro n hn
      have hle := h2 n hn
      rw [hpending] at hle
      exact Nat.le_of_succ_le hle
    · intro n hn m hm
      obtain ⟨b, hb, rfl⟩ := List.mem_map.mp hn
      rw [hbefore b hb]
      exact Nat.zero_le m

lemma valid_submitted (hs : s.errors = []) (submissionPath submissionSha256 : String)
    (hst : s.status = .awaitingCheckpointSubmission)
    (hactive : s.activeCheckpointId = some checkpointId) :
    (s.submitted checkpointId submissionPath submissionSha256).errors = [] := by
  have hown := ownErrors_eq_nil.mp (errors_eq_nil.mp hs).1
  have hagrees := hown.statusAgrees
  rw [StatusAgrees, hst] at hagrees
  obtain ⟨a, ha, haid⟩ := hagrees
  have haid' : a.checkpointId = checkpointId :=
    (Option.some.inj (hactive.symm.trans haid)).symm
  obtain ⟨hmem, hastatus⟩ : a ∈ s.checkpointRuns ∧ a.status = .active := by
    have : a ∈ s.activeCheckpoints := by rw [ha]; simp
    simpa [activeCheckpoints] using this
  have hc : s.checkpoint? checkpointId = some a := by
    have hkeyed : Table.Keyed (·.checkpointId) s.checkpointRuns := hown.ids
    have hlookup := hkeyed.lookup_of_mem hmem
    rw [haid'] at hlookup
    exact hlookup
  obtain ⟨before, after, hruns, -, hupdate⟩ := Table.updateFirst_of_find?
    (CheckpointRunRecord.submit submissionPath submissionSha256) hc
  have hav : a.errors = [] := (errors_eq_nil.mp hs).2.1 a hmem
  rw [activeCheckpoints, hruns, List.filter_append,
    List.filter_cons_of_pos (by simpa using hastatus), List.append_eq_singleton_iff] at ha
  obtain ⟨hnb, hna⟩ : before.filter (·.status = .active) = [] ∧
      after.filter (·.status = .active) = [] := by
    rcases ha with ⟨h1, h2⟩ | ⟨-, h2⟩
    · exact ⟨h1, (List.cons.inj h2).2⟩
    · exact absurd h2 (List.cons_ne_nil _ _)
  have hphases := hown.phases
  rw [hruns, List.map_append, List.map_cons, List.pairwise_append, List.pairwise_cons] at hphases
  obtain ⟨h1, ⟨h2, h3⟩, h4⟩ := hphases
  have hbefore : ∀ b ∈ before, b.status.phase = 0 := by
    intro b hb
    have hle : b.status.phase ≤ a.status.phase :=
      h4 _ (List.mem_map_of_mem hb) _ List.mem_cons_self
    have hne : b.status ≠ .active := by simpa using List.filter_eq_nil_iff.mp hnb b hb
    rw [hastatus] at hle
    cases hbs : b.status with
    | submitted => rfl
    | active => exact absurd hbs hne
    | pending => simp [hbs, CheckpointRunStatus.phase] at hle
  simp only [submitted, assignCheckpoint, hupdate]
  refine valid_replace hs hruns (CheckpointRunRecord.valid_submit hav _ _)
    ⟨rfl, rfl, rfl, rfl, rfl, rfl, rfl⟩ _ ?_ ?_
  · have hnone : (before ++ a.submit submissionPath submissionSha256 :: after).filter
        (·.status = .active) = [] := by
      rw [List.filter_append, hnb, List.filter_cons_of_neg (by simp [CheckpointRunRecord.submit]),
        hna]
      rfl
    by_cases hall : ∀ item ∈ before ++ a.submit submissionPath submissionSha256 :: after,
        item.status = .submitted
    · simp only [StatusAgrees, statusAfterSubmit, if_pos hall]
      exact ⟨trivial, hnone, hall⟩
    · simp only [StatusAgrees, statusAfterSubmit, if_neg hall]
      exact ⟨trivial, hnone⟩
  · rw [List.map_append, List.map_cons, List.pairwise_append, List.pairwise_cons]
    refine ⟨h1, ⟨fun n _ => Nat.zero_le n, h3⟩, ?_⟩
    intro n hn m hm
    obtain ⟨b, hb, rfl⟩ := List.mem_map.mp hn
    rw [hbefore b hb]
    exact Nat.zero_le m

end EvidenceLifecycleRunState

/-! ## Branches -/

section Branch

variable {s : EvidenceLifecycleRunState} {parentCheckpoint : CheckpointRunRecord}

lemma CheckpointRunRecord.valid_inheritHistory {c c' : CheckpointRunRecord} (hc : c.errors = [])
    (hown : c'.ownErrors = []) (hattempts : c'.attempts = c.inheritHistory.attempts)
    (hevidence : c'.evidenceRequestActions = c.inheritHistory.evidenceRequestActions)
    (hoperations : c'.operationActions = c.inheritHistory.operationActions) : c'.errors = [] := by
  rw [errors_eq_nil] at hc
  obtain ⟨-, hca, hce, hco⟩ := hc
  rw [errors_eq_nil, hattempts, hevidence, hoperations]
  refine ⟨hown, ?_, ?_, ?_⟩
  · intro a ha
    obtain ⟨b, hb, rfl⟩ := List.mem_map.mp ha
    exact hca b hb
  · intro a ha
    obtain ⟨b, hb, rfl⟩ := List.mem_map.mp ha
    exact hce b hb
  · intro a ha
    obtain ⟨b, hb, rfl⟩ := List.mem_map.mp ha
    exact hco b hb

lemma branchCheckpointRun_valid (hs : ∀ c ∈ s.checkpointRuns, c.errors = [])
    (hparent : parentCheckpoint ∈ s.checkpointRuns) {branchIndex : ℕ}
    {item : EvidenceCheckpointSpec × ℕ} {c : CheckpointRunRecord}
    (h : branchCheckpointRun s parentCheckpoint branchIndex item = .ok c) :
    c.errors = [] ∧ c.checkpointId = item.1.checkpointId := by
  rw [branchCheckpointRun] at h
  split at h
  · simp only [bind_eq_ok, require_eq_ok, constructCheckpointRun, construct_eq_ok,
      EvidenceLifecycleRunState.knownCheckpoint_eq_ok] at h
    obtain ⟨inherited, hfound, -, -, hown, rfl⟩ := h
    exact ⟨CheckpointRunRecord.valid_inheritHistory (hs inherited (List.mem_of_find?_eq_some hfound))
      hown rfl rfl rfl, rfl⟩
  · split at h
    · rw [constructCheckpointRun, construct_eq_ok] at h
      obtain ⟨hown, rfl⟩ := h
      exact ⟨CheckpointRunRecord.valid_inheritHistory (hs parentCheckpoint hparent) hown rfl rfl
        rfl, rfl⟩
    · rw [constructCheckpointRun, construct_eq_ok] at h
      obtain ⟨hown, rfl⟩ := h
      refine ⟨CheckpointRunRecord.errors_eq_nil.mpr ⟨hown, ?_, ?_, ?_⟩, rfl⟩ <;>
        simp [CheckpointRunRecord.fresh]

lemma branchCheckpointRuns_valid (hs : ∀ c ∈ s.checkpointRuns, c.errors = [])
    (hparent : parentCheckpoint ∈ s.checkpointRuns) {branchIndex : ℕ}
    {items : List (EvidenceCheckpointSpec × ℕ)} {runs : List CheckpointRunRecord}
    (h : List.Forall₂ (fun item c =>
      branchCheckpointRun s parentCheckpoint branchIndex item = .ok c) items runs) :
    (∀ c ∈ runs, c.errors = []) ∧
      runs.map (·.checkpointId) = items.map (·.1.checkpointId) := by
  induction h with
  | nil => simp
  | cons hitem _ ih =>
    obtain ⟨hc, hid⟩ := branchCheckpointRun_valid hs hparent hitem
    refine ⟨?_, ?_⟩
    · intro c hmem
      rcases List.mem_cons.mp hmem with rfl | hmem
      · exact hc
      · exact ih.1 c hmem
    · rw [List.map_cons, List.map_cons, hid, ih.2]

end Branch

/-! ## Every reducer -/

/-- The run state passes its validators and follows the checkpoints of the specification. -/
def EvidenceLifecycleRunState.ValidFor (spec : EvidenceLifecycleSpec)
    (state : EvidenceLifecycleRunState) : Prop :=
  state.errors = [] ∧ state.checkpointIds = spec.checkpoints.map (·.checkpointId)

/-- The transitions are numbered without gaps from 1. -/
def EvidenceLifecycleRunState.DenseTransitions (state : EvidenceLifecycleRunState) : Prop :=
  state.transitions.map (·.transitionId) =
    (List.range' 1 state.transitions.length).map transitionId

/-- What the callers of the reducers pass: `reduce_release` gets the checkpoint after the
submitted ones, and `reduce_branch` the checkpoints of the specification and a constructed
branch record. -/
def ReducerCall.Callable (spec : EvidenceLifecycleSpec) (state : EvidenceLifecycleRunState) :
    ReducerCall → Prop
  | .release checkpointId .. =>
    (spec.checkpoints[state.submittedCount]?).map (·.checkpointId) = some checkpointId
  | .branch checkpoints _ lineage .. =>
    checkpoints = spec.checkpoints ∧ lineage.errors = []
  | _ => True

variable {s : EvidenceLifecycleRunState}

lemma EvidenceLifecycleRunState.denseTransitions_withTransition (h : s.DenseTransitions)
    (kind : LifecycleTransitionKind) (fromCheckpointId toCheckpointId : Option String)
    (reason : String) :
    (s.withTransition kind fromCheckpointId toCheckpointId reason).DenseTransitions := by
  rw [DenseTransitions, withTransition, List.map_append, h, List.length_append,
    List.length_singleton, List.range'_1_concat, List.map_append, Nat.add_comm 1]
  rfl

lemma EvidenceLifecycleRunState.checkpointIds_assignCheckpoint
    (hf : ∀ c, (f c).checkpointId = c.checkpointId) :
    (s.assignCheckpoint checkpointId f).checkpointIds = s.checkpointIds := by
  rw [checkpointIds, checkpointIds, assignCheckpoint]
  cases hfound : s.checkpoint? checkpointId with
  | none => rw [Table.updateFirst_of_find?_eq_none hfound]
  | some c =>
    obtain ⟨before, after, hruns, -, hupdate⟩ := Table.updateFirst_of_find? f hfound
    simp only [hupdate]
    rw [hruns]
    simp [hf]

lemma ReducerCall.reduces {spec : EvidenceLifecycleSpec} {os : List EvidenceLifecycleRunState}
    {state : Ref} (call : ReducerCall) (hget : os.getD state default = s) (hs : s.ValidFor spec)
    (hcall : call.Callable spec s) :
    Reduces (call.run state) os fun s' =>
      s'.ValidFor spec ∧ (s.DenseTransitions → s'.DenseTransitions) := by
  obtain ⟨hvalid, hids⟩ := hs
  cases call with
  | release checkpointId releasedFiles reason previousCheckpointId =>
    intro red os' h
    obtain ⟨s', hred, hos, hst, ⟨c, hc, hpending⟩, hreason, rfl⟩ :=
      reduceRelease_reduces hget red os' h
    have hnext : s.checkpointIds[s.submittedCount]? = some checkpointId := by
      rw [hids, List.getElem?_map]
      exact hcall
    refine ⟨_, hred, hos, ⟨?_, ?_⟩, ?_⟩
    · exact EvidenceLifecycleRunState.valid_withTransition
        (EvidenceLifecycleRunState.valid_released hvalid _ hst hc hpending hnext) hreason
    · exact (EvidenceLifecycleRunState.checkpointIds_assignCheckpoint (s := s)
        (f := fun c => { c with status := .active, releasedFiles }) fun _ => rfl).trans hids
    · intro hdense
      exact EvidenceLifecycleRunState.denseTransitions_withTransition hdense _ _ _ _
  | submit checkpointId submissionPath submissionSha256 reason =>
    intro red os' h
    obtain ⟨s', hred, hos, hst, hactive, hreason, rfl⟩ := reduceSubmit_reduces hget red os' h
    refine ⟨_, hred, hos, ⟨?_, ?_⟩, ?_⟩
    · exact EvidenceLifecycleRunState.valid_withTransition
        (EvidenceLifecycleRunState.valid_submitted hvalid _ _ hst hactive) hreason
    · exact (EvidenceLifecycleRunState.checkpointIds_assignCheckpoint (s := s)
        (f := CheckpointRunRecord.submit submissionPath submissionSha256) fun _ => rfl).trans hids
    · intro hdense
      exact EvidenceLifecycleRunState.denseTransitions_withTransition hdense _ _ _ _
  | openAttempt checkpointId sessionId executionMode episodeRequestSha256 =>
    intro red os' h
    obtain ⟨s', hred, hos, rfl | ⟨c, hc, hattempt, rfl⟩⟩ :=
      reduceOpenAttempt_reduces hget red os' h
    · exact ⟨_, hred, hos, ⟨hvalid, hids⟩, id⟩
    · have hid : c.checkpointId = checkpointId := by simpa using List.find?_some hc
      refine ⟨_, hred, hos, ⟨?_, ?_⟩, id⟩
      · refine EvidenceLifecycleRunState.valid_assignCheckpoint hvalid ?_
          (fun _ => ⟨rfl, rfl, rfl, rfl, rfl, rfl, rfl⟩) fun _ => rfl
        intro c' hc' hvalid'
        obtain rfl : c = c' := Option.some.inj (hc.symm.trans hc')
        rw [← hid] at hattempt
        exact CheckpointRunRecord.valid_withNextAttempt hvalid' hattempt
      · refine (EvidenceLifecycleRunState.checkpointIds_assignCheckpoint ?_).trans hids
        exact fun _ => rfl
  | failAttempt checkpointId sessionId failureKind =>
    intro red os' h
    obtain ⟨s', hred, hos, rfl⟩ := reduceFailAttempt_reduces hget red os' h
    refine ⟨_, hred, hos, ⟨?_, ?_⟩, id⟩
    · exact EvidenceLifecycleRunState.valid_assignCheckpoint hvalid
        (fun _ _ hc => CheckpointRunRecord.valid_failAttempt hc failureKind)
        (fun _ => ⟨rfl, rfl, rfl, rfl, rfl, rfl, rfl⟩) fun _ => rfl
    · refine (EvidenceLifecycleRunState.checkpointIds_assignCheckpoint ?_).trans hids
      exact fun _ => rfl
  | revisit checkpointId reason =>
    intro red os' h
    obtain ⟨s', hred, hos, revisit, hrevisit, hreason, rfl⟩ :=
      reduceRevisit_reduces hget red os' h
    refine ⟨_, hred, hos, ⟨?_, hids⟩, ?_⟩
    · refine EvidenceLifecycleRunState.valid_withTransition ?_ hreason
      rw [EvidenceLifecycleRunState.errors_eq_nil] at hvalid ⊢
      obtain ⟨hown, hcheckpoints, hrevisits, htransitions, hbranch⟩ := hvalid
      refine ⟨hown, hcheckpoints, ?_, htransitions, hbranch⟩
      intro r hr
      rcases List.mem_append.mp hr with hr | hr
      · exact hrevisits r hr
      · obtain rfl := List.mem_singleton.mp hr
        exact hrevisit
    · intro hdense
      exact EvidenceLifecycleRunState.denseTransitions_withTransition hdense _ _ _ _
  | branch checkpoints branchIndex lineage checkpointId reason =>
    intro red os' h
    obtain ⟨s', hred, hos, parentCheckpoint, runs, hparent, -, hruns, hown, hreason, rfl⟩ :=
      reduceBranch_reduces hget red os' h
    obtain ⟨rfl, hlineage⟩ := hcall
    obtain ⟨hrunsValid, hrunsIds⟩ := branchCheckpointRuns_valid
      (EvidenceLifecycleRunState.errors_eq_nil.mp hvalid).2.1
      (List.mem_of_find?_eq_some hparent) hruns
    refine ⟨_, hred, hos, ⟨?_, ?_⟩, ?_⟩
    · refine EvidenceLifecycleRunState.valid_withTransition ?_ hreason
      refine EvidenceLifecycleRunState.errors_eq_nil.mpr ⟨hown, hrunsValid, by simp [branchState],
        by simp [branchState], ?_⟩
      intro b hb
      obtain rfl := Option.some.inj hb
      exact hlineage
    · calc runs.map (·.checkpointId)
          = spec.checkpoints.zipIdx.map (·.1.checkpointId) := hrunsIds
        _ = (spec.checkpoints.zipIdx.map Prod.fst).map (·.checkpointId) := by
          rw [List.map_map]; rfl
        _ = spec.checkpoints.map (·.checkpointId) := by rw [List.zipIdx_map_fst]
    · intro _
      refine EvidenceLifecycleRunState.denseTransitions_withTransition ?_ _ _ _ _
      rfl

/-- **Reducers keep run states valid.** A reducer called on a valid run state, with any
arguments its callers pass, leaves that state unchanged whether it raises or returns; and when
it returns, the state it returns is another object that is valid again, with its transitions
numbered without gaps when they were before. -/
theorem ReducerCall.validFor (spec : EvidenceLifecycleSpec) (os : List EvidenceLifecycleRunState)
    (state : Ref) (s : EvidenceLifecycleRunState) (call : ReducerCall)
    (hstate : os[state]? = some s) (hs : s.ValidFor spec) (hcall : call.Callable spec s) :
    (objectsAfter (call.run state os))[state]? = some s ∧
      ∀ red os', call.run state os = .ok red os' → red.state ≠ state ∧
        ∃ s', os'[red.state]? = some s' ∧ s'.ValidFor spec ∧
          (s.DenseTransitions → s'.DenseTransitions) := by
  have hget : os.getD state default = s := by rw [List.getD, hstate]; rfl
  refine ⟨(call.keeps state).getElem? hstate, ?_⟩
  intro red os' hrun
  obtain ⟨s', hred, rfl, hvalid, hdense⟩ := call.reduces hget hs hcall red os' hrun
  have hlt : state < os.length := (List.getElem?_eq_some_iff.mp hstate).1
  rw [hred]
  refine ⟨Nat.ne_of_gt hlt, s', by simp, hvalid, hdense⟩

/-- A lifecycle of a single checkpoint. -/
def soleCheckpoint : EvidenceLifecycleSpec where
  lifecycleId := "review"
  checkpoints :=
    [{ checkpointId := "draft", title := "Draft", releasePath := "releases/draft",
       instructionPath := "instructions/draft.md", submissionPath := "submissions/draft.json" }]

/-- A run of it before anything is released. -/
def soleCheckpointRun : EvidenceLifecycleRunState where
  lifecycleId := "review"
  lifecycleSpecSha256 := "0f"
  packageSha256 := "1e"
  checkpointRuns := [{ checkpointId := "draft" }]

/-- Releasing the checkpoint of that run. -/
def releaseDraft : ReducerCall :=
  .release "draft" ["notes.md"] "Evidence released for active review." none

theorem releaseDraft_validFor :
    (objectsAfter (releaseDraft.run 0 [soleCheckpointRun]))[0]? = some soleCheckpointRun ∧
      ∀ red os', releaseDraft.run 0 [soleCheckpointRun] = .ok red os' → red.state ≠ 0 ∧
        ∃ s', os'[red.state]? = some s' ∧ s'.ValidFor soleCheckpoint ∧
          (soleCheckpointRun.DenseTransitions → s'.DenseTransitions) :=
  ReducerCall.validFor soleCheckpoint [soleCheckpointRun] 0 soleCheckpointRun releaseDraft rfl
    ⟨by decide, rfl⟩ rfl

end AecBench.Lifecycles
