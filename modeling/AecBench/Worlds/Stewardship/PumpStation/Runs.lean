import AecBench.Lib.Machine
import AecBench.Worlds.Stewardship.PumpStation.Actions

/-!
# Runs of the pump station

The opening state of a profile, and the runs from there: a root run, and children that open at the
state their parent is in. An action or a control that is refused leaves the run as it is, so every
list of events is a run.

## Main definitions

* `OpeningState`, `initialState` — an opening specification, and the state compiled from it.
* `RunState`, `RunEvent`, `world` — a run and its machine; `RunState.root` — its start.
* `rs1`, `plainHost` — a reference profile, and a host to run it.
-/

namespace AecBench.Worlds.PumpStation

open Validation

/-! ## Opening specifications -/

structure PumpRow where
  pumpId : String
  obstruction : ℚ
  clearanceLoss : ℚ
  runtimeSeconds : ℤ
  completedStarts : ℤ

structure PumpBoundaryRow where
  pumpId : String
  mode : PumpMode
  sourceId : String

structure RestrictionRow where
  restrictionId : String
  kind : RestrictionKind
  pumpId : String
  status : RestrictionStatus

structure RequiredActionRow where
  obligationId : String
  kind : ObligationKind
  pumpId : String
  status : ObligationStatus
  responsibleAuthority : Authority
  dueCalendarSeconds : ℤ
  dueRuntimeSeconds : ℤ

structure WorkOrderRow where
  workOrderId : String
  pumpId : String
  status : WorkOrderStatus

structure AcceptedEvidenceRow where
  evidenceId : String
  kind : EvidenceKind
  pumpId : String
  acceptedBy : Authority
  sourceId : String
  operatingRegimeId : String
  quality : EvidenceQuality

structure AssignmentRow where
  assignmentId : String
  orderedPumpIds : List String
  requiredServiceScu : ℤ
  assignedServiceScu : ℤ
  unservedServiceScu : ℤ
  decisionDetail : String

structure OutageEpisodeRow where
  episodeId : String
  unavailableBaselinePumpId : String
  sourceRecordId : String
  status : String

structure BacklogRow where
  itemId : String
  workType : String
  targetId : String
  generationRuleId : String
  generatedAtCalendarSeconds : ℤ
  basePriority : Priority
  dueCalendarSeconds : ℤ
  dueRuntimeLimitSeconds : Option ℤ
  status : BacklogStatus

/-- The opening state of a profile, every value read at its type. -/
structure OpeningState where
  calendarSeconds : ℤ
  pumps : List PumpRow
  pumpBoundaries : List PumpBoundaryRow
  powerAvailable : Bool
  dischargeAvailable : Bool
  serviceRunningPumpIds : List String
  testRunningPumpIds : List String
  inflowM3S : ℚ
  wetWellLevelM : ℚ
  reusablePools : List ReusablePoolRow
  consumablePools : List ConsumablePoolRow
  restrictions : List RestrictionRow
  requiredActions : List RequiredActionRow
  workOrders : List WorkOrderRow
  acceptedEvidence : List AcceptedEvidenceRow
  assignment : AssignmentRow
  outageEpisodes : List OutageEpisodeRow
  backlog : List BacklogRow
  liabilityOwnerIds : List String

/-! ## The opening state -/

def createOpeningPhysicalState (opening : OpeningState) : Except Failure PhysicalState := do
  let pumps ← opening.pumps.mapM fun row => do
    let condition ← PumpCondition.make row.obstruction row.clearanceLoss
    let exposure ← PumpExposure.make row.runtimeSeconds row.completedStarts
    pure ({ pumpId := row.pumpId, condition := condition, exposure := exposure } : PumpState)
  let boundaries := opening.pumpBoundaries.map fun row =>
    ({ pumpId := row.pumpId
       mode := row.mode
       sourcePermitOrEvidenceId := row.sourceId
       effectiveTransitionId := row.sourceId } : PumpBoundary)
  require (pumps.length = 3 ∧ boundaries.length = 3)
    ⟨"opening-state-shape", "the current station model requires exactly three pumps"⟩
  PhysicalState.make {
    calendarSeconds := opening.calendarSeconds
    pumps := pumps
    pumpBoundaries := boundaries
    commonBoundary := {
      powerAvailable := opening.powerAvailable
      dischargeAvailable := opening.dischargeAvailable
      sourceTransitionId := "initial-common-boundaries-available" }
    serviceRunningPumpIds := opening.serviceRunningPumpIds
    testRunningPumpIds := opening.testRunningPumpIds }

/-- The value of a pump in a dictionary made of rows: of two rows of one pump the later counts. -/
def byPump {α : Type} (rows : List α) (pumpOf idOf : α → String) (pumpId : String) :
    Option String :=
  (Dict.get pumpOf rows pumpId).map idOf

def requireRow (row : Option String) (pumpId : String) : Except Failure String :=
  match row with
  | some id => .ok id
  | none => .error ⟨"opening-state-shape", pumpId⟩

def requireByPump {α : Type} (rows : List α) (pumpOf idOf : α → String) (pumpId : String) :
    Except Failure String :=
  requireRow (byPump rows pumpOf idOf pumpId) pumpId

/-- `initial-…-provisional-return`, for the label of a pump. -/
def initialReturnId (pumpId : String) : String :=
  s!"initial-{pumpLabel pumpId}-provisional-return"

def openingItem (opening : OpeningState) (row : BacklogRow) : Except Failure BacklogItem := do
  let verification := row.workType = "post_maintenance_verification"
  require (verification ∨ row.workType = "obstruction_clearance")
    ⟨"opening-state-shape", s!"unsupported opening work type: {row.workType}"⟩
  let obligationIds ←
    if verification then
      (fun id => [id]) <$> requireByPump opening.requiredActions (·.pumpId) (·.obligationId)
        row.targetId
    else pure []
  let originatingRecordId ←
    if verification then pure (initialReturnId row.targetId)
    else requireByPump opening.acceptedEvidence (·.pumpId) (·.evidenceId) row.targetId
  let restrictionId ← requireByPump opening.restrictions (·.pumpId) (·.restrictionId) row.targetId
  let workOrderId ← requireByPump opening.workOrders (·.pumpId) (·.workOrderId) row.targetId
  pure {
    itemId := row.itemId
    workType := row.workType
    targetKind := "asset"
    targetId := row.targetId
    generationRuleId := row.generationRuleId
    generationOrdinal := 1
    originatingRecordId := originatingRecordId
    linkedObligationIds := obligationIds
    linkedRestrictionIds := [restrictionId]
    linkedWorkOrderId := some workOrderId
    linkedProcessId := none
    generatedAtCalendarSeconds := row.generatedAtCalendarSeconds
    basePriority := row.basePriority
    effectivePriority := row.basePriority
    dueCalendarSeconds := some row.dueCalendarSeconds
    dueRuntimeClockKind := if verification then some "pump_total" else none
    dueRuntimeClockId := if verification then some row.targetId else none
    dueRuntimeLimitSeconds := row.dueRuntimeLimitSeconds
    status := row.status
    blockedFromStatus := none
    blockedSinceCalendarSeconds := none
    accumulatedBlockedSeconds := 0
    closureRule := if verification then "verification accepted and Operations review releases run-in"
      else "clearance completes and functional check is generated"
    closureEvidenceIds := [] }

def openingRestriction (opening : OpeningState) (row : RestrictionRow) : Restriction where
  restrictionId := row.restrictionId
  kind := row.kind
  pumpId := row.pumpId
  status := row.status
  createdSequence := 0
  evidenceId := if row.kind = .noIntervention then
    byPump opening.acceptedEvidence (·.pumpId) (·.evidenceId) row.pumpId else none

def openingObligation (opening : OpeningState) (row : RequiredActionRow) :
    Except Failure Obligation := do
  let linked ← requireRow ((opening.restrictions.find? fun restriction =>
    restriction.pumpId = row.pumpId ∧ restriction.kind = .postMaintenanceRunIn).map
      (·.restrictionId)) row.pumpId
  pure {
    obligationId := row.obligationId
    kind := row.kind
    pumpId := row.pumpId
    status := row.status
    originatingActionId := initialReturnId row.pumpId
    responsibleAuthority := row.responsibleAuthority
    linkedRestrictionId := linked
    dueCalendarSeconds := row.dueCalendarSeconds
    dueRuntimeSeconds := row.dueRuntimeSeconds
    createdSequence := 0
    evidenceId := none }

def openingEvidence (opening : OpeningState) (row : AcceptedEvidenceRow) :
    Except Failure Evidence :=
  acceptedEvidenceRecord row.evidenceId row.kind row.pumpId opening.calendarSeconds
    (if row.kind = .conditionCheck then .engineering else .maintenance) row.acceptedBy
    (if row.kind = .conditionCheck then some true else none) row.sourceId
    (Names.replace "declared-regime" "opening-baseline" row.operatingRegimeId)
    row.operatingRegimeId row.quality

/-- `initial_state`. Of the comparison with the specification only the liability owners can differ:
everything else of the state is read from the specification as it stands there. -/
def initialState (opening : OpeningState) (schedule : EventSchedule) : Except Failure State := do
  let physical ← createOpeningPhysicalState opening
  let environment ← CoupledEnvironment.make opening.inflowM3S opening.wetWellLevelM
  let resources ← createResourceState opening.reusablePools opening.consumablePools
  let obligations ← opening.requiredActions.mapM (openingObligation opening)
  let evidence ← opening.acceptedEvidence.mapM (openingEvidence opening)
  let assignment ← DutyAssignment.checked {
    assignmentId := opening.assignment.assignmentId
    orderedPumpIds := opening.assignment.orderedPumpIds
    active := true
    sourceNeedId := "opening-normal-service"
    effectiveTransitionId := "initial-state"
    requiredServiceScu := opening.assignment.requiredServiceScu
    assignedServiceScu := opening.assignment.assignedServiceScu
    unservedServiceScu := opening.assignment.unservedServiceScu
    decisionDetail := opening.assignment.decisionDetail
    suspensionSourceId := none }
  let backlog ← opening.backlog.mapM (openingItem opening)
  let state ← State.withBacklog {
    physical := physical
    environment := environment
    resources := resources
    restrictions := opening.restrictions.map (openingRestriction opening)
    obligations := obligations
    workOrders := opening.workOrders.map fun row =>
      { workOrderId := row.workOrderId
        pumpId := row.pumpId
        status := row.status
        createdSequence := 0 }
    processes := []
    evidence := evidence
    resourceReservations := []
    assignment := assignment
    serviceSchedule := schedule.serviceRequirements
    baselineSchedule := schedule.baselineAssignments
    disclosedThroughCalendarSeconds := schedule.disclosedThroughCalendarSeconds
    backlog := []
    generationRecords := []
    outageEpisodes := opening.outageEpisodes.map fun row =>
      { episodeId := row.episodeId
        unavailableBaselinePumpId := row.unavailableBaselinePumpId
        sourceRecordId := row.sourceRecordId
        openingTransitionId := "initial-state"
        closingTransitionId := none
        status := row.status }
    operatingIntervals := []
    collateralRuntime := opening.outageEpisodes.flatMap fun row =>
      (opening.serviceRunningPumpIds.filter (· ≠ row.unavailableBaselinePumpId)).map fun pumpId =>
        (row.episodeId, pumpId, 0)
    pendingStartPumpIds := []
    eventEffectIds := []
    backlog_distinct := List.nodup_nil } backlog
  let windows ← state.resourceWindows
  require (windows = schedule.resourceWindows)
    ⟨"opening-state-binding", "opening resource windows differ from the event schedule"⟩
  require (state.activeLiabilityIds = opening.liabilityOwnerIds)
    ⟨"opening-state-binding", "constructed state differs from its specification"⟩
  pure state

/-! ## Runs -/

/-- A pump reference profile: its opening state, its schedule and the model of its station. -/
structure Profile where
  opening : OpeningState
  schedule : EventSchedule
  model : CoupledModel

/-- A run: where it opened, where it is, and the number of its last transition. -/
structure RunState where
  child : Bool
  opening : State
  state : State
  sequence : ℕ

/-- What happens to a run. A fork goes on with a rollout child that opens at the state of the run. -/
inductive RunEvent
  | act (requestId : String) (action : Action)
  | control (control : Control)
  | fork

/-- The root run of an opening state. -/
def RunState.root (opening : State) : RunState := ⟨false, opening, opening, 0⟩

/-- The run after an accepted transition; a refused one leaves it as it is. -/
def RunState.follow (c : RunState) : Except Failure State → RunState
  | .ok state => { c with state := state, sequence := c.sequence + 1 }
  | .error _ => c

def Control.isTreatment : Control → Bool
  | treatment _ => true
  | _ => false

/-- The result of an event that asks for a transition; a treatment is for rollout children. -/
def RunState.result (host : Host) (profile : Profile) (c : RunState) :
    RunEvent → Option (Except Failure State)
  | .act requestId action => some (transition host profile.model profile.schedule c.state
      (c.sequence + 1) requestId action)
  | .control control =>
    if control.isTreatment && !c.child then none
    else some (applyControl host c.state (c.sequence + 1) control)
  | .fork => none

/-- The runs of a profile. -/
def world (host : Host) (profile : Profile) : Machine RunState RunEvent where
  step c event :=
    match event with
    | .fork => { c with child := true, opening := c.state }
    | event =>
      match c.result host profile event with
      | some result => c.follow result
      | none => c

/-- Whether the opening state of a profile has a property. -/
def Profile.opensWith (profile : Profile) (p : State → Bool) : Bool :=
  match initialState profile.opening profile.schedule with
  | .ok opening => p opening
  | .error _ => false

lemma Profile.exists_opening {profile : Profile} {p : State → Bool}
    (h : profile.opensWith p = true) :
    ∃ opening, initialState profile.opening profile.schedule = .ok opening ∧ p opening = true := by
  unfold Profile.opensWith at h
  split at h
  · exact ⟨_, ‹_›, h⟩
  · cases h

/-! ## The reference profile RS1 -/

def rs1Windows : List AvailabilityInterval :=
  [⟨21600, 61200⟩, ⟨108000, 165600⟩, ⟨194400, 226800⟩]

def rs1Schedule (windows : List AvailabilityInterval) : EventSchedule where
  disclosedThroughCalendarSeconds := 226800
  serviceRequirements := [⟨21600, 64800, 1, by decide, by decide⟩,
    ⟨64800, 93600, 2, by decide, by decide⟩, ⟨93600, 226800, 1, by decide, by decide⟩]
  baselineAssignments := [(21600, 64800, ["pump-c"]), (64800, 93600, ["pump-a", "pump-b"]),
    (93600, 226800, ["pump-a"])]
  resourceWindows := windows
  hostEvents := [⟨"peak-start", "service_requirement_change", 64800⟩,
    ⟨"peak-end", "service_requirement_change", 93600⟩,
    ⟨"document-review-point-c-001", "document_review_point", 100800⟩,
    ⟨"work-window-w2-start", "resource_availability", 108000⟩,
    ⟨"c-priority-p1", "backlog_priority", 122400⟩,
    ⟨"c-calendar-due", "backlog_due", 151200⟩,
    ⟨"work-window-w2-end", "resource_withdrawal", 165600⟩,
    ⟨"work-window-w3-start", "resource_availability", 194400⟩,
    ⟨"work-window-w3-end", "resource_withdrawal", 226800⟩]

def rs1Opening (capacity : ℤ) (windows : List AvailabilityInterval) : OpeningState where
  calendarSeconds := 21600
  pumps := [⟨"pump-a", 2039999999998400 / 100000000000000000, 11999999998800 / 100000000000000000,
      3600, 1⟩,
    ⟨"pump-b", 70 / 100, 0, 0, 0⟩, ⟨"pump-c", 15 / 100000, 0, 0, 1⟩]
  pumpBoundaries := [⟨"pump-a", .runInService, "initial-a-provisional-return"⟩,
    ⟨"pump-b", .isolatedForWork, "initial-b-inspection-accepted"⟩,
    ⟨"pump-c", .serviceAvailable, "initial-c-assurance-accepted"⟩]
  powerAvailable := true
  dischargeAvailable := true
  serviceRunningPumpIds := ["pump-c"]
  testRunningPumpIds := []
  inflowM3S := 155 / 10000
  wetWellLevelM := 165 / 100
  reusablePools := ["field-access-slot", "lifting-isolation-set-01", "diagnostic-test-set-01",
    "maintenance-crew-01", "verification-engineer-01"].map fun poolId =>
      ⟨poolId, capacity, capacity, 0, 0, windows⟩
  consumablePools := [⟨clearanceKit, 1, 1, 0⟩]
  restrictions := [⟨"restriction-a-run-in-001", .postMaintenanceRunIn, "pump-a", .active⟩,
    ⟨"restriction-b-isolated-001", .noIntervention, "pump-b", .active⟩]
  requiredActions := [⟨"obligation-a-verification-001", .postMaintenanceVerification, "pump-a",
    .active, .verification, 64800, 32400⟩]
  workOrders := [⟨"work-order-a-001", "pump-a", .opened⟩, ⟨"work-order-b-001", "pump-b", .opened⟩]
  acceptedEvidence := [
    ⟨"initial-b-inspection-accepted", .inspection, "pump-b", .maintenance,
      "source-initial-b-inspection-accepted", "asw-8-rs1-declared-regime", .current⟩,
    ⟨"initial-c-assurance-accepted", .conditionCheck, "pump-c", .operations,
      "source-initial-c-assurance-accepted", "asw-8-rs1-declared-regime", .current⟩]
  assignment := ⟨"assignment-opening-c", ["pump-c"], 1, 1, 0, "accepted initial assignment"⟩
  outageEpisodes := [⟨"outage-b-001", "pump-b", "initial-b-inspection-accepted", "open"⟩]
  backlog := [
    ⟨"backlog-a-verification-001", "post_maintenance_verification", "pump-a", "WG-04", 7200, .p1,
      64800, some 32400, .planned⟩,
    ⟨"backlog-b-clearance-001", "obstruction_clearance", "pump-b", "WG-02", 21600, .p1, 64800,
      none, .planned⟩]
  liabilityOwnerIds := ["obligation-a-verification-001", "outage-b-001"]

/-- RS1, with the capacity of its reusable pools and their windows for parameters: it has capacity
one and the windows `rs1Windows`. -/
def rs1 (capacity : ℤ) (windows : List AvailabilityInterval) : Profile where
  opening := rs1Opening capacity windows
  schedule := rs1Schedule windows
  model := ⟨["pump-a", "pump-b", "pump-c"], ⟨1 / 1000000, 1 / 1000, 1 / 10000000⟩⟩

/-- A host whose identities of states tell their time and the number of their effects. -/
def plainHost : Host where
  round := id
  stateId s := s!"state-{s.calendarSeconds}-{s.eventEffectIds.length}"
  contentId _ := "control"
  stableId _ _ _ _ _ := "0123"

/-- A text of an action; a blank one is replaced. -/
def plainText (text : String) : Text.NonEmptyStr :=
  if h : Text.Blank text then ⟨"work", by decide⟩ else ⟨text, h⟩

end AecBench.Worlds.PumpStation
