import Mathlib.Data.String.Basic
import AecBench.Contracts.Planning
import AecBench.Contracts.TrialRecord
import AecBench.Lib.Dict

/-!
# The accounting of a run

The outcomes reported for the trials of a plan are grouped by trial. Each planned trial is
accepted, missing or invalid; records of invalid and of unexpected trials are quarantined.
Several outcomes of one trial must agree in what is written of their records.

## Main definitions

* `TrialAccountingObservation`, `RunAccountingCounts`, `RunAccounting` — the records.
* `recordMatchesPlan`, `observationsEqual` — when a record fits its planned trial, and when the
  outcomes of one trial agree.
* `accountTrial` — what one planned trial adds; `accountRun` — the accounting of a run.
-/

namespace AecBench.Contracts

open Validation

/-! ## Records -/

inductive RunTrialOutcome
  | succeeded
  | failed
  | cancelled
  | timedOut
  | invalid
  | missing
  deriving DecidableEq

namespace RunTrialOutcome

def text : RunTrialOutcome → String
  | succeeded => "succeeded"
  | failed => "failed"
  | cancelled => "cancelled"
  | timedOut => "timed_out"
  | invalid => "invalid"
  | missing => "missing"

/-- An outcome with which a trial has ended. -/
def Terminal (outcome : RunTrialOutcome) : Prop := outcome ≠ .invalid ∧ outcome ≠ .missing

instance (outcome : RunTrialOutcome) : Decidable outcome.Terminal :=
  inferInstanceAs (Decidable (_ ∧ _))

end RunTrialOutcome

/-- One outcome reported for one result or planned trial. -/
structure TrialAccountingObservation where
  trialId : String
  outcome : RunTrialOutcome
  record : Option TrialRecord := none

/-- `validate_record_requirement`. -/
def TrialAccountingObservation.validateRecordRequirement (o : TrialAccountingObservation) :
    Except String Unit := do
  require (¬ (o.outcome = .missing ∧ o.record ≠ none))
    "missing trial outcomes must not carry a TrialRecord"
  require (¬ (o.outcome.Terminal ∧ o.record = none))
    s!"{o.outcome.text} trial outcomes require a TrialRecord"
  require (∀ r ∈ o.record, r.value.trialId = o.trialId)
    "trial accounting observation ID must match its TrialRecord"

def TrialAccountingObservation.errors (o : TrialAccountingObservation) : Errors :=
  Validation.record [("record", optional TrialRecord.errors o.record)] o.validateRecordRequirement

/-- Outcome counts of the planned trials, and counts of memberships. -/
structure RunAccountingCounts where
  planned : ℕ
  succeeded : ℕ
  failed : ℕ
  cancelled : ℕ
  timedOut : ℕ
  invalid : ℕ
  missing : ℕ
  duplicate : ℕ
  unexpected : ℕ

/-- `validate_outcome_partition`. -/
def RunAccountingCounts.errors (counts : RunAccountingCounts) : Errors :=
  Validation.record [] <| require
    (counts.succeeded + counts.failed + counts.cancelled + counts.timedOut + counts.invalid +
      counts.missing = counts.planned)
    "run accounting outcome counts must partition planned trials"

inductive RunAccountingStatus
  | complete
  | completeWithFailures
  | cancelled
  | incomplete
  | invalid
  deriving DecidableEq

inductive RunCompleteness
  | complete
  | incomplete
  deriving DecidableEq

inductive RunValidity
  | valid
  | invalid
  deriving DecidableEq

/-- The accepted membership and the status of one run plan. -/
structure RunAccounting where
  runId : EntityId
  planId : EntityId
  status : RunAccountingStatus
  completeness : RunCompleteness
  validity : RunValidity
  counts : RunAccountingCounts
  cancellationRequested : Bool
  acceptedTrialIds : List EntityId
  missingTrialIds : List EntityId
  invalidTrialIds : List EntityId
  duplicateTrialIds : List EntityId
  conflictingDuplicateTrialIds : List EntityId
  unexpectedTrialIds : List String
  unexpectedDuplicateTrialIds : List String

/-- `validate_unique_planned_ids`. -/
def checkPlannedIds (ids : List EntityId) : Errors :=
  ofCheck (require ids.Nodup "run accounting trial ID lists must be unique")

/-- `validate_unique_unexpected_ids`. -/
def checkUnexpectedIds (ids : List String) : Errors :=
  ofCheck (require ids.Nodup "run accounting unexpected trial ID lists must be unique")

/-- Whether there is evidence that is not valid. -/
def InvalidEvidence (counts : RunAccountingCounts) (conflicting : List EntityId) : Prop :=
  counts.invalid ≠ 0 ∨ counts.unexpected ≠ 0 ∨ conflicting ≠ []

instance (counts : RunAccountingCounts) (conflicting : List EntityId) :
    Decidable (InvalidEvidence counts conflicting) := inferInstanceAs (Decidable (_ ∨ _ ∨ _))

/-- `_status_for`, and the status that the record expects. -/
def statusFor (counts : RunAccountingCounts) (conflicting : List EntityId)
    (cancellationRequested : Bool) : RunAccountingStatus :=
  if InvalidEvidence counts conflicting then .invalid
  else if counts.missing ≠ 0 then .incomplete
  else if cancellationRequested ∧ counts.cancelled ≠ 0 then .cancelled
  else if counts.failed ≠ 0 ∨ counts.cancelled ≠ 0 ∨ counts.timedOut ≠ 0 then .completeWithFailures
  else .complete

namespace RunAccounting

/-- `validate_summary`. -/
def validateSummary (a : RunAccounting) : Except String Unit := do
  require ((∀ id ∈ a.acceptedTrialIds, id ∉ a.missingTrialIds ∧ id ∉ a.invalidTrialIds) ∧
      ∀ id ∈ a.missingTrialIds, id ∉ a.invalidTrialIds)
    "accepted, missing, and invalid planned trial IDs must be disjoint"
  require (∀ id ∈ a.conflictingDuplicateTrialIds, id ∈ a.duplicateTrialIds ∧ id ∈ a.invalidTrialIds)
    "conflicting duplicate trial IDs must also be duplicate and invalid"
  require (∀ id ∈ a.unexpectedDuplicateTrialIds, id ∈ a.unexpectedTrialIds)
    "unexpected duplicate trial IDs must also be unexpected"
  require (a.acceptedTrialIds.length =
      a.counts.succeeded + a.counts.failed + a.counts.cancelled + a.counts.timedOut)
    "accepted trial IDs must match accepted terminal outcome counts"
  require (a.missingTrialIds.length = a.counts.missing)
    "missing trial IDs must match the missing count"
  require (a.invalidTrialIds.length = a.counts.invalid)
    "invalid trial IDs must match the invalid count"
  require (a.duplicateTrialIds.length + a.unexpectedDuplicateTrialIds.length = a.counts.duplicate)
    "duplicate trial IDs must match the duplicate count"
  require (a.unexpectedTrialIds.length = a.counts.unexpected)
    "unexpected trial IDs must match the unexpected count"
  require (a.completeness = if a.counts.missing ≠ 0 then .incomplete else .complete)
    "run accounting completeness does not match missing results"
  require (a.validity =
      if InvalidEvidence a.counts a.conflictingDuplicateTrialIds then .invalid else .valid)
    "run accounting validity does not match evidence"
  require (a.status = statusFor a.counts a.conflictingDuplicateTrialIds a.cancellationRequested)
    "run accounting status does not match its counts"

def errors (a : RunAccounting) : Errors :=
  Validation.record
    [("accepted_trial_ids", checkPlannedIds a.acceptedTrialIds),
     ("missing_trial_ids", checkPlannedIds a.missingTrialIds),
     ("invalid_trial_ids", checkPlannedIds a.invalidTrialIds),
     ("duplicate_trial_ids", checkPlannedIds a.duplicateTrialIds),
     ("conflicting_duplicate_trial_ids", checkPlannedIds a.conflictingDuplicateTrialIds),
     ("unexpected_trial_ids", checkUnexpectedIds a.unexpectedTrialIds),
     ("unexpected_duplicate_trial_ids", checkUnexpectedIds a.unexpectedDuplicateTrialIds)]
    a.validateSummary

end RunAccounting

/-- The summary, and the records eligible for aggregation and those that are not. -/
structure RunAccountingResult where
  accounting : RunAccounting
  acceptedRecords : List TrialRecord
  quarantinedRecords : List TrialRecord

/-! ## Records and their planned trials -/

/-- The revision of a task that its snapshot names. -/
def TaskSource.revision : TaskSource → String
  | .artifact a => a.sha256
  | .repository sourceRevision _ => sourceRevision

/-- The statuses that an outcome needs. -/
def statusesMatch (r : TrialValue) : RunTrialOutcome → Prop
  | .succeeded => r.executionStatus = .completed ∧
      (r.evaluationStatus = .completed ∨ r.evaluationStatus = .notRequested)
  | .failed => r.executionStatus = .failed ∨
      r.executionStatus = .completed ∧ r.evaluationStatus = .failed
  | .cancelled => r.executionStatus = .cancelled
  | .timedOut => r.executionStatus = .failed
  | .invalid => True
  | .missing => True

instance (r : TrialValue) : ∀ outcome, Decidable (statusesMatch r outcome)
  | .succeeded => inferInstanceAs (Decidable (_ ∧ _))
  | .failed => inferInstanceAs (Decidable (_ ∨ _))
  | .cancelled => inferInstanceAs (Decidable (_ = _))
  | .timedOut => inferInstanceAs (Decidable (_ = _))
  | .invalid => isTrue trivial
  | .missing => isTrue trivial

/-- The binding that a result of a planned trial carries. -/
def expectedBinding (trial : PlannedTrial) (spec : ResolvedRunSpec) : PlannedTrialBinding where
  runIdentity := spec.runIdentity
  trialIdentity := trial.trialIdentity
  taskRelease := trial.taskRelease
  agentConditionIdentity := trial.agentCondition.identity
  ordinal := trial.ordinal
  repetition := trial.repetition
  compute := trial.compute
  familyRelease := trial.familyRelease
  executionFamily := trial.executionFamily
  evaluationProfile := trial.evaluationProfile
  expectedAuthorities := spec.expectedAuthorities

/-- `_record_matches_plan`. -/
def recordMatchesPlan (r : TrialValue) (trial : PlannedTrial) (spec : ResolvedRunSpec)
    (outcome : RunTrialOutcome) : Prop :=
  r.runId = trial.runIdentity.id.text ∧
  (r.taskId = trial.taskRelease.taskId ∧ r.input.taskKind = trial.executionFamily) ∧
  r.input.visibility = some trial.taskMetadata.visibility ∧
  (r.manifest.adapter = trial.agentCondition.adapter ∧
    r.manifest.model = trial.agentCondition.model) ∧
  r.manifest.computeBackend = trial.compute.backend ∧
  (r.attempt : ℕ) = 1 ∧
  r.input.taskRevision = trial.taskRelease.source.revision ∧
  ¬ (r.evidenceStatus = .pending ∨ r.evidenceStatus = .incomplete ∨ r.evidenceStatus = .invalid) ∧
  ¬ (r.evaluationStatus = .pending ∨ r.evaluationStatus = .invalid) ∧
  statusesMatch r outcome ∧
  r.binding = some (expectedBinding trial spec)

instance (r : TrialValue) (trial : PlannedTrial) (spec : ResolvedRunSpec)
    (outcome : RunTrialOutcome) : Decidable (recordMatchesPlan r trial spec outcome) :=
  inferInstanceAs (Decidable (_ ∧ _))

/-! ## The accounting -/

/-- `_observations_equal`: the outcomes and what is written of the records. -/
def observationsEqual (first : TrialAccountingObservation)
    (rest : List TrialAccountingObservation) : Prop :=
  ∀ o ∈ rest, o.outcome = first.outcome ∧
    o.record.map TrialRecord.dump = first.record.map TrialRecord.dump

instance (first : TrialAccountingObservation) (rest : List TrialAccountingObservation) :
    Decidable (observationsEqual first rest) := inferInstanceAs (Decidable (∀ o ∈ rest, _))

/-- What has been accounted, in the order of the plan. -/
structure Tally where
  accepted : List (EntityId × TrialRecord × RunTrialOutcome) := []
  quarantined : List TrialRecord := []
  missing : List EntityId := []
  invalid : List EntityId := []
  duplicates : List EntityId := []
  conflicting : List EntityId := []

def Tally.append (s t : Tally) : Tally where
  accepted := s.accepted ++ t.accepted
  quarantined := s.quarantined ++ t.quarantined
  missing := s.missing ++ t.missing
  invalid := s.invalid ++ t.invalid
  duplicates := s.duplicates ++ t.duplicates
  conflicting := s.conflicting ++ t.conflicting

section Accounting

variable (spec : ResolvedRunSpec) (trial : PlannedTrial)

/-- What one observation says of its planned trial. -/
def accountObservation (o : TrialAccountingObservation) : Tally :=
  let id := trial.trialIdentity.id
  if o.outcome = .missing then { missing := [id] }
  else if o.outcome = .invalid then { invalid := [id], quarantined := o.record.toList }
  else match o.record with
    | none => { invalid := [id] }
    | some r =>
      if recordMatchesPlan r.value trial spec o.outcome then { accepted := [(id, r, o.outcome)] }
      else { invalid := [id], quarantined := [r] }

/-- What the observations of a planned trial add. -/
def accountTrial : List TrialAccountingObservation → Tally
  | [] => { missing := [trial.trialIdentity.id] }
  | [o] => accountObservation spec trial o
  | first :: second :: rest =>
    let id := trial.trialIdentity.id
    if observationsEqual first (second :: rest) then
      { accountObservation spec trial first with duplicates := [id] }
    else
      { duplicates := [id]
        conflicting := [id]
        quarantined := (first :: second :: rest).filterMap (·.record)
        invalid := [id] }

end Accounting

/-- `grouped[trial_id]`. -/
def grouped (observations : List TrialAccountingObservation) (trialId : String) :
    List TrialAccountingObservation := observations.filter (·.trialId = trialId)

/-- The ids of observations for which no trial is planned, sorted. -/
def unexpectedIds (plan : RunPlan) (observations : List TrialAccountingObservation) :
    List String :=
  ((observations.map (·.trialId)).dedup.filter
    (· ∉ plan.trials.map (·.trialIdentity.id.text))).insertionSort (· ≤ ·)

/-- Those of which there are several. -/
def unexpectedDuplicateIds (plan : RunPlan) (observations : List TrialAccountingObservation) :
    List String :=
  (unexpectedIds plan observations).filter fun trialId => 1 < (grouped observations trialId).length

/-- The loop over the planned trials. -/
def tallyOf (spec : ResolvedRunSpec) (plan : RunPlan)
    (observations : List TrialAccountingObservation) : Tally :=
  plan.trials.foldl (fun tally trial =>
      tally.append (accountTrial spec trial (grouped observations trial.trialIdentity.id.text)))
    { quarantined := (unexpectedIds plan observations).flatMap fun trialId =>
        (grouped observations trialId).filterMap (·.record) }

/-- The counts of what was accounted. -/
def countsOf (plan : RunPlan) (observations : List TrialAccountingObservation) (tally : Tally) :
    RunAccountingCounts :=
  let outcomes := tally.accepted.map (·.2.2)
  { planned := plan.trials.length
    succeeded := outcomes.count .succeeded
    failed := outcomes.count .failed
    cancelled := outcomes.count .cancelled
    timedOut := outcomes.count .timedOut
    invalid := tally.invalid.length
    missing := tally.missing.length
    duplicate := tally.duplicates.length + (unexpectedDuplicateIds plan observations).length
    unexpected := (unexpectedIds plan observations).length }

/-- The summary of what was accounted. -/
def accountingOf (plan : RunPlan) (observations : List TrialAccountingObservation)
    (cancellationRequested : Bool) (tally : Tally) (counts : RunAccountingCounts) :
    RunAccounting where
  runId := plan.runIdentity.id
  planId := plan.planIdentity.id
  status := statusFor counts tally.conflicting cancellationRequested
  completeness := if counts.missing ≠ 0 then .incomplete else .complete
  validity := if InvalidEvidence counts tally.conflicting then .invalid else .valid
  counts
  cancellationRequested
  acceptedTrialIds := tally.accepted.map (·.1)
  missingTrialIds := tally.missing
  invalidTrialIds := tally.invalid
  duplicateTrialIds := tally.duplicates
  conflictingDuplicateTrialIds := tally.conflicting
  unexpectedTrialIds := unexpectedIds plan observations
  unexpectedDuplicateTrialIds := unexpectedDuplicateIds plan observations

/-- What is checked of every trial of the plan first. -/
def checkPlannedTrial (spec : ResolvedRunSpec) (trial : PlannedTrial) : Except String Unit := do
  require (Dict.get (·.taskId) spec.taskReleases trial.taskRelease.taskId = some trial.taskRelease)
    "run accounting plan task release does not match the specification"
  require (Dict.get (·.identity.id) spec.agentConditions trial.agentCondition.identity.id =
      some trial.agentCondition)
    "run accounting plan agent condition does not match the specification"
  require (trial.compute = spec.compute ∧ trial.evaluationProfile = spec.evaluationRegime)
    "run accounting plan execution condition does not match the specification"

/-- `account_run`. -/
def accountRun (spec : ResolvedRunSpec) (plan : RunPlan)
    (observations : List TrialAccountingObservation) (cancellationRequested : Bool) :
    Except String RunAccountingResult := do
  require (spec.runIdentity = plan.runIdentity)
    "run accounting specification does not match the run plan"
  plan.trials.forM (checkPlannedTrial spec)
  require (plan.trials.map (·.trialIdentity.id.text)).Nodup
    "run accounting requires unique planned trial identities"
  let tally := tallyOf spec plan observations
  let counts ← construct RunAccountingCounts.errors "RunAccountingCounts"
    (countsOf plan observations tally)
  let accounting ← construct RunAccounting.errors "RunAccounting"
    (accountingOf plan observations cancellationRequested tally counts)
  return {
    accounting
    acceptedRecords := tally.accepted.map (·.2.1)
    quarantinedRecords := tally.quarantined }

end AecBench.Contracts
