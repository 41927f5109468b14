import AecBench.Worlds.Stewardship.PumpStation.Transitions

/-!
# Actor actions and host controls

What an accepted actor action and an accepted host control make of the state. Every action is a
function of its own; `transition` and `applyControl` choose among them and close with the checks
of the receipt.

## Main definitions

* `transition` — one actor action.
* `applyOperationsBoundaryReview`, `applyProcessOutcome`, `applyCommonBoundaryControl`,
  `applyTreatment`, `applyControl` — the host controls.
-/

namespace AecBench.Worlds.PumpStation

open Text Validation

/-- The receipt of an accepted transition, as far as it can be refused. -/
def finishTransition (before after : State) (sequence : ℕ) (requestId reason : String) :
    Except Failure State := do
  require (1 ≤ sequence) ⟨"receipt-shape", "receipt sequence must be positive"⟩
  require (0 ≤ before.calendarSeconds ∧ before.calendarSeconds ≤ after.calendarSeconds)
    ⟨"receipt-shape", "receipt time range is invalid"⟩
  require (¬ Blank requestId) ⟨"action-shape", "request_id must not be empty"⟩
  require (¬ Blank reason) ⟨"action-shape", "reason must not be empty"⟩
  pure after

/-! ## The roots of authority -/

inductive RootOperation
  | operationsReview
  | processOutcome
  | commonBoundary
  deriving DecidableEq

def ProcessKind.outcomeAuthority : ProcessKind → Option String
  | functionalCheck => some "maintenance-controller"
  | postMaintenanceVerification => some "verification-engineer-01"
  | _ => none

/-- The root controls that an authority may use now. -/
def State.rootControlOperations (s : State) (authorityId : String) (processId : Option String) :
    List RootOperation :=
  (if authorityId = "operations-controller" then [.operationsReview, .commonBoundary] else []) ++
    if ∃ process ∈ s.processes, process.status = .active ∧
        (∀ id ∈ processId, process.processId = id) ∧
        process.kind.outcomeAuthority = some authorityId then [.processOutcome] else []

/-! ## Actor actions -/

def continueOperation (host : Host) (model : CoupledModel) (schedule : EventSchedule) (s : State)
    (sequence : ℕ) (requestId : String) : Except Failure State := do
  let eventTime ← s.nextEventTime schedule
  let transitionId := s!"transition-{sequence}-{requestId}"
  let advanced ← advancePhysical host model s eventTime transitionId
  applyEventEffects host advanced schedule eventTime transitionId

def requestDutyAssignment (s : State) (sequence : ℕ) (requestId : String)
    (assignment : List String) (sourceOutageId sourceBacklogItemId : Option String) :
    Except Failure State := do
  require (assignment ≠ []) ⟨"assignment", "ordered_pump_ids is required"⟩
  require (assignment.length ≤ 2 ∧ assignment.Nodup ∧
      assignment ⊆ s.physical.pumps.map (·.pumpId))
    ⟨"assignment", "assignment identities or count are invalid"⟩
  let availabilities ← assignment.mapM s.physical.availability
  require (∀ availability ∈ availabilities, availability.runEligible = true)
    ⟨"assignment", "assignment contains a pump that cannot serve"⟩
  require (∀ id ∈ sourceOutageId, ∃ episode ∈ s.outageEpisodes,
      episode.episodeId = id ∧ episode.status = "open")
    ⟨"assignment-source", sourceOutageId.getD ""⟩
  match sourceBacklogItemId with
  | none => pure ()
  | some id =>
    let sourceItem ← s.backlogItem id
    require (¬ sourceItem.status.Terminal) ⟨"assignment-source", id⟩
  let required ← s.serviceRequirement s.calendarSeconds
  let selected ← s.selectedServiceRunning (some assignment) required
  let stationAvailabilities ← s.physical.pumps.mapM fun pump => s.physical.availability pump.pumpId
  require (¬ (selected.length < required ∧
      required ≤ stationAvailabilities.countP (·.assuredForOutagePlanning)))
    ⟨"avoidable-service-deficit", "another permitted assignment can meet current service"⟩
  let unserved := required - selected.length
  let record ← DutyAssignment.checked {
    assignmentId := s!"assignment-{sequence}"
    orderedPumpIds := assignment
    active := true
    sourceNeedId := s!"service-{s.calendarSeconds}"
    effectiveTransitionId := s!"request-{requestId}"
    requiredServiceScu := required
    assignedServiceScu := selected.length
    unservedServiceScu := unserved
    decisionDetail := if unserved = 0 then "accepted service assignment"
      else "accepted unavoidable degraded operation"
    suspensionSourceId := none }
  State.withPhysicalRunningSets { s with assignment := record } selected none

/-- `_fail("field-work-target", …)` unless the target is unassigned and at rest. -/
def requireTargetAtRest (s : State) (targetId : String) : Except Failure Unit :=
  require (targetId ∉ s.assignment.orderedPumpIds ∧
      targetId ∉ s.physical.serviceRunningPumpIds ∧ targetId ∉ s.physical.testRunningPumpIds)
    ⟨"field-work-target", "target must be unassigned and not running"⟩

/-- The pump is isolated under its own restriction, and its inspection starts. The rank of the item
in the backlog is not modelled: it matters only to a request without a reason. -/
def requestInspection (s : State) (sequence : ℕ) (requestId targetId backlogItemId : String) :
    Except Failure State := do
  let selectedItem ← s.backlogItem backlogItemId
  requireTargetAtRest s targetId
  require (selectedItem.workType = "inspection" ∨
      selectedItem.workType = "collateral_duty_inspection") ⟨"backlog-binding", backlogItemId⟩
  let boundary ← s.physical.boundary targetId
  require (boundary.mode = .serviceAvailable) ⟨"inspection-boundary", targetId⟩
  let physical ← s.physical.withBoundaryMode targetId .isolatedForWork requestId
  let isolation : Restriction := {
    restrictionId := s!"isolation-{targetId}-{requestId}"
    kind := .noIntervention
    pumpId := targetId
    status := .active
    createdSequence := sequence
    evidenceId := none }
  State.startProcess { s with physical := physical, restrictions := s.restrictions ++ [isolation] }
    sequence .inspection targetId backlogItemId 28800
    ["field-access-slot", "lifting-isolation-set-01", "diagnostic-test-set-01",
      "maintenance-crew-01"]

def requestObstructionClearance (s : State) (sequence : ℕ)
    (targetId inspectionEvidenceId backlogItemId : String) : Except Failure State := do
  let selectedItem ← s.backlogItem backlogItemId
  requireTargetAtRest s targetId
  require (selectedItem.workType = "obstruction_clearance") ⟨"backlog-binding", backlogItemId⟩
  require (inspectionEvidenceId ∈ s.acceptedEvidenceIds)
    ⟨"clearance-evidence", inspectionEvidenceId⟩
  let expected := s!"initial-{pumpLabel targetId}-inspection-accepted"
  require (¬ (selectedItem.itemId = "backlog-b-clearance-001" ∧ inspectionEvidenceId ≠ expected))
    ⟨"clearance-evidence-binding", inspectionEvidenceId⟩
  let boundary ← s.physical.boundary targetId
  require (boundary.mode = .isolatedForWork) ⟨"clearance-boundary", targetId⟩
  s.startProcess sequence .obstructionClearance targetId backlogItemId 14400
    ["field-access-slot", "lifting-isolation-set-01", "maintenance-crew-01", clearanceKit]

def requestFunctionalCheck (s : State) (sequence : ℕ) (targetId backlogItemId : String) :
    Except Failure State := do
  let selectedItem ← s.backlogItem backlogItemId
  require (selectedItem.workType = "minimum_functional_check") ⟨"backlog-binding", backlogItemId⟩
  let boundary ← s.physical.boundary targetId
  require (boundary.mode = .testOnly) ⟨"functional-check-boundary", targetId⟩
  let updated ← s.startProcess sequence .functionalCheck targetId backlogItemId 3600
    ["field-access-slot", "diagnostic-test-set-01", "maintenance-crew-01"]
  updated.withPhysicalRunningSets updated.physical.serviceRunningPumpIds (some [targetId])

def requestVerification (s : State) (sequence : ℕ) (targetId backlogItemId : String) :
    Except Failure State := do
  let selectedItem ← s.backlogItem backlogItemId
  require (selectedItem.workType = "post_maintenance_verification")
    ⟨"backlog-binding", backlogItemId⟩
  let boundary ← s.physical.boundary targetId
  require (boundary.mode = .runInService ∨ boundary.mode = .serviceAvailable)
    ⟨"verification-boundary", targetId⟩
  s.startProcess sequence .postMaintenanceVerification targetId backlogItemId 28800
    ["field-access-slot", "diagnostic-test-set-01", "verification-engineer-01"]

/-- The demand for the verification that a provisional return leaves open. -/
def verificationDemand (transitionId targetId : String) (now runtime : ℤ)
    (obligationId restrictionId : String) : GeneratedDemand where
  ruleId := "WG-04"
  sourceTransitionId := transitionId
  targetKind := "asset"
  targetId := targetId
  workType := "post_maintenance_verification"
  generatedAt := now
  priority := .p1
  dueCalendarSeconds := some (now + 57600)
  dueRuntimeKind := some "pump_total"
  dueRuntimeId := some targetId
  dueRuntimeLimit := some (runtime + 28800)
  obligationIds := [obligationId]
  restrictionIds := [restrictionId]
  closureRule := "verification accepted and Operations review releases run-in"

def requestProvisionalReturn (host : Host) (s : State) (sequence : ℕ)
    (requestId targetId evidenceId : String) : Except Failure State := do
  require (evidenceId ∈ s.acceptedEvidenceIds)
    ⟨"provisional-return", "accepted functional-check evidence is required"⟩
  require (evidenceId =
      s!"evidence-{pumpLabel targetId}-functional-check-pass-001")
    ⟨"provisional-return", "functional-check evidence belongs to another target"⟩
  let boundary ← s.physical.boundary targetId
  require (boundary.mode = .testOnly) ⟨"provisional-return", "pump is not in test_only"⟩
  let restrictionId := s!"restriction-{targetId}-run-in-001"
  let obligationId := s!"obligation-{targetId}-verification-001"
  let physical ← s.physical.withBoundaryMode targetId .runInService requestId
  let pump ← s.physical.pump targetId
  let runtime := pump.exposure.runtimeSeconds
  let restriction : Restriction := {
    restrictionId := restrictionId
    kind := .postMaintenanceRunIn
    pumpId := targetId
    status := .active
    createdSequence := sequence
    evidenceId := some evidenceId }
  let obligation : Obligation := {
    obligationId := obligationId
    kind := .postMaintenanceVerification
    pumpId := targetId
    status := .active
    originatingActionId := requestId
    responsibleAuthority := .verification
    linkedRestrictionId := restrictionId
    dueCalendarSeconds := s.calendarSeconds + 57600
    dueRuntimeSeconds := runtime + 28800
    createdSequence := sequence
    evidenceId := some evidenceId }
  State.generate host { s with
      physical := physical
      restrictions := s.restrictions ++ [restriction]
      obligations := s.obligations ++ [obligation] }
    (verificationDemand s!"transition-{sequence}-{requestId}" targetId s.calendarSeconds runtime
      obligationId restrictionId)

def requestConditionCheck (s : State) (sequence : ℕ) (targetId : String) :
    Except Failure State := do
  let evidence ← s.producedEvidence s!"condition-check-{targetId}-{sequence}" .conditionCheck
    targetId .engineering .engineering none
  pure { s with evidence := s.evidence ++ [evidence] }

/-- The only suspended process of an identity. -/
def State.suspendedProcess (s : State) (processId : String) (failure : Failure) :
    Except Failure CoupledProcess :=
  match s.processes.filter fun process =>
      process.processId = processId ∧ process.status = .suspended with
  | [process] => .ok process
  | _ => .error failure

/-- The blocked time of an item up to now; a time of zero counts as no time. -/
def BacklogItem.blockedSeconds (item : BacklogItem) (now : ℤ) : ℤ :=
  let since := item.blockedSinceCalendarSeconds.getD now
  item.accumulatedBlockedSeconds + now - (if since = 0 then now else since)

def resumeProcess (s : State) (processId : String) : Except Failure State := do
  require (s.physical.commonBoundary.available = true)
    ⟨"resume-process", "common operating boundary remains unavailable"⟩
  let process ← s.suspendedProcess processId ⟨"resume-process", processId⟩
  s.requireFieldProcessAdmissible process.kind process.targetId process.remainingDurationSeconds
  let (resources, reservations) ← resumeProcessReservations s.resources s.resourceReservations
    process.processId process.targetId process.requiredPoolIds s.calendarSeconds
    process.remainingDurationSeconds
  let item ← s.backlogItem process.backlogItemId
  let replaced ← s.replaceBacklogItem { item with
    status := .inProgress
    blockedFromStatus := none
    accumulatedBlockedSeconds := item.blockedSeconds s.calendarSeconds
    blockedSinceCalendarSeconds := none }
  let updated : State := { replaced with
    resources := resources
    resourceReservations := reservations
    processes := s.replacedProcess { process with
      status := .active
      dueAtCalendarSeconds := s.calendarSeconds + process.remainingDurationSeconds } }
  if process.kind = .functionalCheck then
    updated.withPhysicalRunningSets updated.physical.serviceRunningPumpIds (some [process.targetId])
  else pure updated

def cancelProcess (s : State) (processId : String) : Except Failure State := do
  let process ← s.suspendedProcess processId
    ⟨"cancel-process", "active work must suspend before cancellation"⟩
  let (resources, reservations) ← cancelProcessReservations s.resources s.resourceReservations
    process.processId s.calendarSeconds
  let item ← s.backlogItem process.backlogItemId
  let replaced ← s.replaceBacklogItem { item with
    status := .planned
    blockedFromStatus := none
    accumulatedBlockedSeconds := item.blockedSeconds s.calendarSeconds
    blockedSinceCalendarSeconds := none
    linkedProcessId := none }
  pure { replaced with
    resources := resources
    resourceReservations := reservations
    processes := s.replacedProcess { process with status := .cancelled } }

/-- The branch of an action. -/
def actionBranch (host : Host) (model : CoupledModel) (schedule : EventSchedule) (s : State)
    (sequence : ℕ) (requestId : String) : Action → Except Failure State
  | .continueOperation _ => continueOperation host model schedule s sequence requestId
  | .requestDutyAssignment _ orderedPumpIds sourceOutageId sourceBacklogItemId =>
    requestDutyAssignment s sequence requestId (orderedPumpIds.ids.map (·.val))
      (sourceOutageId.map (·.val)) (sourceBacklogItemId.map (·.val))
  | .requestInspection _ pumpId backlogItemId =>
    requestInspection s sequence requestId pumpId.val backlogItemId.val
  | .requestConditionCheck _ pumpId => requestConditionCheck s sequence pumpId.val
  | .requestObstructionClearance _ pumpId inspectionEvidenceId backlogItemId =>
    requestObstructionClearance s sequence pumpId.val inspectionEvidenceId.val backlogItemId.val
  | .requestFunctionalCheck _ pumpId backlogItemId =>
    requestFunctionalCheck s sequence pumpId.val backlogItemId.val
  | .requestProvisionalReturn _ pumpId functionalCheckEvidenceId =>
    requestProvisionalReturn host s sequence requestId pumpId.val functionalCheckEvidenceId.val
  | .requestProvisionalClosure _ _ => .ok s
  | .requestVerification _ pumpId backlogItemId =>
    requestVerification s sequence pumpId.val backlogItemId.val
  | .resumeProcess _ processId => resumeProcess s processId.val
  | .cancelProcess _ processId => cancelProcess s processId.val
  | .requestDependencyWaiver .. =>
    .error ⟨"dependency-waiver", "the current pump profile has no waivable dependency"⟩

/-- One actor action. -/
def transition (host : Host) (model : CoupledModel) (schedule : EventSchedule) (s : State)
    (sequence : ℕ) (requestId : String) (action : Action) : Except Failure State := do
  let updated ← actionBranch host model schedule s sequence requestId action
  finishTransition s updated sequence requestId (strip action.reason.val)

/-! ## Host controls -/

/-- The release of a pump's run-in after its verification. -/
def releaseRunIn (s : State) (request : OperationsBoundaryReviewRequest) (contentId : String) :
    Except Failure State := do
  let boundary ← s.physical.boundary request.pumpId
  let expectedRestriction := if request.pumpId = "pump-a" then "restriction-a-run-in-001"
    else s!"restriction-{request.pumpId}-run-in-001"
  let obligationId := if request.pumpId = "pump-a" then "obligation-a-verification-001"
    else s!"obligation-{request.pumpId}-verification-001"
  require (boundary.mode = .runInService ∧
      request.restrictionOrIsolationPermitId = expectedRestriction ∧
      expectedRestriction ∈ s.activeRestrictionIds)
    ⟨"operations-review-mismatch", request.reviewId⟩
  let physical ← s.physical.withBoundaryMode request.pumpId .serviceAvailable contentId
  let restrictions := s.restrictions.map fun value =>
    if value.restrictionId = expectedRestriction then
      { value with status := .lifted, evidenceId := some request.acceptedEvidenceId }
    else value
  let obligations := s.obligations.map fun value =>
    if value.obligationId = obligationId then
      { value with status := .fulfilled, evidenceId := some request.acceptedEvidenceId }
    else value
  match s.backlog.filter fun item => item.targetId = request.pumpId ∧
      item.workType = "post_maintenance_verification" ∧ item.status = .completed with
  | [item] =>
    let replaced ← s.replaceBacklogItem { item with status := .closed }
    let episodes := if request.pumpId = "pump-b" then
        s.outageEpisodes.map fun episode =>
          if episode.episodeId = "outage-b-001" then
            { episode with status := "closed", closingTransitionId := some request.reviewId }
          else episode
      else s.outageEpisodes
    pure { replaced with
      physical := physical
      restrictions := restrictions
      obligations := obligations
      outageEpisodes := episodes }
  | _ => .error ⟨"operations-review-work", request.pumpId⟩

/-- The release of a pump's isolation after an inspection without a finding. -/
def releaseIsolation (s : State) (request : OperationsBoundaryReviewRequest) (contentId : String) :
    Except Failure State := do
  let boundary ← s.physical.boundary request.pumpId
  require (boundary.mode = .isolatedForWork) ⟨"operations-review-mismatch", request.reviewId⟩
  let first := s!"isolation-{request.pumpId}-"
  let matchingRestrictions := s.activeRestrictionIds.filter fun value =>
    first.toList.isPrefixOf value.toList
  require (request.restrictionOrIsolationPermitId ∈ matchingRestrictions)
    ⟨"operations-review-mismatch",
      s!"isolation-{request.pumpId}-{Names.lastPart request.restrictionOrIsolationPermitId}"⟩
  let physical ← s.physical.withBoundaryMode request.pumpId .serviceAvailable contentId
  let restrictions := s.restrictions.map fun value =>
    if value.restrictionId ∈ matchingRestrictions then
      { value with status := .lifted, evidenceId := some request.acceptedEvidenceId }
    else value
  pure { s with physical := physical, restrictions := restrictions }

def applyOperationsBoundaryReview (host : Host) (s : State)
    (request : OperationsBoundaryReviewRequest) (sequence : ℕ) : Except Failure State := do
  require (.operationsReview ∈ s.rootControlOperations request.operationsAuthorityId none)
    ⟨"operations-review-authority", request.operationsAuthorityId⟩
  require (request.baseStateId = host.stateId s) ⟨"stale-operations-review", request.reviewId⟩
  require (request.acceptedEvidenceId ∈ s.acceptedEvidenceIds)
    ⟨"operations-review-evidence", request.acceptedEvidenceId⟩
  let expectedEvidenceId : Option String :=
    if request.reviewKind = "post_verification_restriction" then
      some s!"evidence-{request.pumpId}-verification-pass-001"
    else if request.reviewKind = "post_inspection_isolation" then
      some s!"evidence-{pumpLabel request.pumpId}-inspection-no-finding-001"
    else none
  require (∀ id ∈ expectedEvidenceId, request.acceptedEvidenceId = id)
    ⟨"operations-review-evidence-binding", request.acceptedEvidenceId⟩
  require (request.requestedOutcome = "release")
    ⟨"operations-review-outcome", request.requestedOutcome⟩
  let contentId := host.contentId (.review request)
  let updated ←
    if request.reviewKind = "post_verification_restriction" then releaseRunIn s request contentId
    else if request.reviewKind = "post_inspection_isolation" then
      releaseIsolation s request contentId
    else do
      let _ ← s.physical.boundary request.pumpId
      .error ⟨"operations-review-kind", request.reviewKind⟩
  finishTransition s updated sequence request.reviewId request.reason

/-- The treatment of one pump. -/
def treatPump (host : Host) (request : CoupledTreatmentRequest) (pump : PumpState) :
    Except Failure PumpState := do
  if pump.pumpId ∉ request.affectedPumpIds then pure pump
  else
    let obstruction := host.round (pump.condition.obstruction + request.obstructionDelta)
    let clearanceLoss := host.round (pump.condition.clearanceLoss + request.clearanceLossDelta)
    require (obstruction ≤ 1 ∧ clearanceLoss ≤ 1) ⟨"coupled-treatment-range", pump.pumpId⟩
    let condition ← PumpCondition.make obstruction clearanceLoss
    pure { pump with condition := condition }

def applyTreatment (host : Host) (s : State) (request : CoupledTreatmentRequest) (sequence : ℕ) :
    Except Failure State := do
  require (request.authorityId = "rollout-host")
    ⟨"coupled-treatment-authority", request.authorityId⟩
  require (request.baseStateId = host.stateId s) ⟨"stale-coupled-treatment", request.requestId⟩
  require (¬ Blank request.treatmentLabel) ⟨"coupled-treatment-label", request.requestId⟩
  require (request.affectedPumpIds ≠ [] ∧ request.affectedPumpIds.Nodup ∧
      request.affectedPumpIds ⊆ s.physical.pumps.map (·.pumpId))
    ⟨"coupled-treatment-targets", request.requestId⟩
  require (0 ≤ request.obstructionDelta ∧ 0 ≤ request.clearanceLossDelta)
    ⟨"coupled-treatment-delta", request.requestId⟩
  let pumps ← s.physical.pumps.mapM (treatPump host request)
  let physical ← PhysicalState.make { s.physical.toPhysicalFields with pumps := pumps }
  let updated : State := { s with
    physical := physical
    eventEffectIds := s.eventEffectIds ++ [host.contentId (.treatment request)] }
  finishTransition s updated sequence request.requestId
    "Apply the authorised child-only common-cause treatment."

/-- The demand for an investigation after a failed verification. -/
def reworkDemand (requestId targetId : String) (now runtime : ℤ) (running : Bool)
    (obligationIds restrictionIds : List String) : GeneratedDemand where
  ruleId := "WG-05"
  sourceTransitionId := requestId
  targetKind := "asset"
  targetId := targetId
  workType := "rework_investigation"
  generatedAt := now
  priority := if running then .p0 else .p1
  dueCalendarSeconds := some (now + 28800)
  dueRuntimeKind := some "pump_total"
  dueRuntimeId := some targetId
  dueRuntimeLimit := some (runtime + 28800)
  obligationIds := obligationIds
  restrictionIds := restrictionIds
  closureRule := "accepted rework investigation"

/-- A failed functional check or verification. -/
def failProcess (host : Host) (s : State) (request : ProcessOutcomeRequest)
    (process : CoupledProcess) : Except Failure State := do
  let (resources, reservations) ← releaseReservations s.resources s.resourceReservations
    process.processId s.calendarSeconds
  let item ← s.backlogItem process.backlogItemId
  let failedItem := { item with
    status := .planned
    linkedProcessId := none
    closureEvidenceIds := item.closureEvidenceIds ++ [request.evidenceId] }
  let physical ← PhysicalState.make { s.physical.toPhysicalFields with
    testRunningPumpIds := s.physical.testRunningPumpIds.filter (· ≠ process.targetId) }
  let replaced ← s.replaceBacklogItem failedItem
  let functional := process.kind = .functionalCheck
  let authority : Authority := if functional then .maintenance else .verification
  let evidence ← s.producedEvidence request.evidenceId
    (if functional then .functionalChecks else .postMaintenanceVerification) process.targetId
    authority authority (some false)
  let updated : State := { replaced with
    physical := physical
    resources := resources
    resourceReservations := reservations
    processes := s.replacedProcess { process with status := .failed }
    evidence := s.evidence ++ [evidence] }
  if process.kind = .postMaintenanceVerification then
    let pump ← s.physical.pump process.targetId
    updated.generate host (reworkDemand request.requestId process.targetId s.calendarSeconds
      pump.exposure.runtimeSeconds (process.targetId ∈ s.physical.serviceRunningPumpIds)
      failedItem.linkedObligationIds failedItem.linkedRestrictionIds)
  else pure updated

def applyProcessOutcome (host : Host) (s : State) (request : ProcessOutcomeRequest)
    (sequence : ℕ) : Except Failure State := do
  require (request.baseStateId = host.stateId s) ⟨"stale-process-outcome", request.requestId⟩
  require (request.outcome = "failed") ⟨"process-outcome", request.outcome⟩
  match s.processes.filter fun process =>
      process.processId = request.processId ∧ process.status = .active with
  | [process] =>
    require (.processOutcome ∈ s.rootControlOperations request.authorityId (some request.processId))
      ⟨"process-outcome-authority", request.authorityId⟩
    let updated ← failProcess host s request process
    finishTransition s updated sequence request.requestId
      "Record the authority-owned failed process evidence."
  | _ => .error ⟨"process-outcome-process", request.processId⟩

def applyCommonBoundaryControl (host : Host) (s : State) (request : CommonBoundaryRequest)
    (sequence : ℕ) : Except Failure State := do
  require (.commonBoundary ∈ s.rootControlOperations request.authorityId none)
    ⟨"common-boundary-authority", request.authorityId⟩
  require (request.baseStateId = host.stateId s) ⟨"stale-common-boundary", request.requestId⟩
  require (request.boundaryKind = "power" ∨ request.boundaryKind = "discharge")
    ⟨"common-boundary-kind", request.boundaryKind⟩
  let contentId := host.contentId (.common request)
  let suspended ← if request.available then pure s else s.suspendProcesses s.processes
  let before := suspended.physical.commonBoundary
  let boundary : BoundaryAvailability := {
    powerAvailable :=
      if request.boundaryKind = "power" then request.available else before.powerAvailable
    dischargeAvailable :=
      if request.boundaryKind = "discharge" then request.available else before.dischargeAvailable
    sourceTransitionId := contentId }
  let physical ← PhysicalState.make { suspended.physical.toPhysicalFields with
    commonBoundary := boundary
    serviceRunningPumpIds :=
      if request.available then suspended.physical.serviceRunningPumpIds else []
    testRunningPumpIds :=
      if request.available then suspended.physical.testRunningPumpIds else [] }
  let assignment := if request.available then suspended.assignment
    else { suspended.assignment with active := false, suspensionSourceId := some contentId }
  let updated : State := { suspended with
    physical := physical
    assignment := assignment
    eventEffectIds := suspended.eventEffectIds ++ [contentId] }
  finishTransition s updated sequence request.requestId
    "Apply the declared common operating boundary change."

def applyControl (host : Host) (s : State) (sequence : ℕ) : Control → Except Failure State
  | .review request => applyOperationsBoundaryReview host s request sequence
  | .outcome request => applyProcessOutcome host s request sequence
  | .common request => applyCommonBoundaryControl host s request sequence
  | .treatment request => applyTreatment host s request sequence

end AecBench.Worlds.PumpStation
