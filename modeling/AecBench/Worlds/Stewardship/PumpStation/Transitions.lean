import AecBench.Lib.Dict
import AecBench.Lib.Names
import AecBench.Worlds.Stewardship.PumpStation.State

/-!
# Transitions of the pump station

The parts of the coupled world's transitions: work that starts, is suspended and ends, work that
is generated, the station advanced to its next event, and the effects of that event.

## Main definitions

* `State.startProcess`, `State.suspendProcess`, `completeProcess` — a process from its start on.
* `State.addGeneratedWork`, `generatedItem` — demand that a transition raises.
* `advancePhysical`, `State.nextEventTime` — the station up to its next event.
* `applyEventEffects` — the effects of an event.
-/

namespace AecBench.Worlds.PumpStation

open Validation

namespace State

variable (s : State)

/-! ## Service -/

def serviceRequirement (atSeconds : ℤ) : Except Failure ℕ :=
  match s.serviceSchedule.find? fun requirement =>
      requirement.startCalendarSeconds ≤ atSeconds ∧ atSeconds < requirement.endCalendarSeconds with
  | some requirement => .ok requirement.requiredServiceScu
  | none => .error ⟨"service-schedule", s!"no requirement at {atSeconds}"⟩

def baselineAssignment (atSeconds : ℤ) : Except Failure (List String) :=
  match s.baselineSchedule.find? fun row => row.1 ≤ atSeconds ∧ atSeconds < row.2.1 with
  | some row => .ok row.2.2
  | none => .error ⟨"baseline-schedule", s!"no baseline at {atSeconds}"⟩

/-- The pumps of an assignment that may run, as many as are required. -/
def selectedServiceRunning (assignment : Option (List String)) (required : ℕ) :
    Except Failure (List String) := do
  if assignment = none ∧ s.assignment.active = false then pure []
  else
    let selected := assignment.getD s.assignment.orderedPumpIds
    let rows ← selected.mapM fun pumpId => do
      let availability ← s.physical.availability pumpId
      pure (pumpId, availability.runEligible)
    pure (((rows.filter (·.2)).map (·.1)).take required)

/-- The state with other running sets; a pump that starts to run has a pending start. -/
def withPhysicalRunningSets (service : List String) (test : Option (List String)) :
    Except Failure State := do
  let previous := s.physical.serviceRunningPumpIds ++ s.physical.testRunningPumpIds
  let selectedTest := test.getD s.physical.testRunningPumpIds
  let current := service ++ selectedTest
  let pending := (s.pendingStartPumpIds ++ current.filter (· ∉ previous)).dedup.insertionSort (· ≤ ·)
  let physical ← PhysicalState.make { s.physical.toPhysicalFields with
    serviceRunningPumpIds := service
    testRunningPumpIds := selectedTest }
  pure { s with physical := physical, pendingStartPumpIds := pending }

/-! ## Work -/

def replaceBacklogItem (item : BacklogItem) : Except Failure State := do
  let _ ← s.backlogItem item.itemId
  s.withBacklog (Table.replace BacklogItem.itemId item s.backlog)

/-- The processes with the one of the same identity replaced. -/
def replacedProcess (process : CoupledProcess) : List CoupledProcess :=
  Table.replace CoupledProcess.processId process s.processes

def requireFieldProcessAdmissible (processKind : ProcessKind) (targetId : String)
    (durationSeconds : ℤ) : Except Failure Unit := do
  require (s.physical.commonBoundary.available = true)
    ⟨"field-process-boundary", "common operating boundary is unavailable"⟩
  let isolatedOtherTargets := (s.physical.pumpBoundaries.filter fun boundary =>
    boundary.pumpId ≠ targetId ∧ boundary.mode = .isolatedForWork).map (·.pumpId)
  require (¬ ((processKind = .inspection ∨ processKind = .obstructionClearance) ∧
      isolatedOtherTargets ≠ []))
    ⟨"field-process-isolation", isolatedOtherTargets.headD ""⟩
  let admissible ← plannedOutageAdmissible s.physical targetId s.calendarSeconds
    (s.calendarSeconds + durationSeconds)
    (s.serviceSchedule.filter (·.endCalendarSeconds > s.calendarSeconds))
    s.disclosedThroughCalendarSeconds
  require (admissible = true)
    ⟨"planned-outage-capacity",
      s!"assured non-target service does not cover {targetId} through completion"⟩

/-- The process that starts with a transition. -/
def newProcess (sequence : ℕ) (kind : ProcessKind) (targetId backlogItemId : String)
    (durationSeconds : ℤ) (poolIds : List String) : CoupledProcess where
  processId := s!"process-{kind.value}-{targetId}-{sequence}"
  kind := kind
  targetId := targetId
  backlogItemId := backlogItemId
  startedAtCalendarSeconds := s.calendarSeconds
  dueAtCalendarSeconds := s.calendarSeconds + durationSeconds
  remainingDurationSeconds := durationSeconds
  requiredPoolIds := poolIds
  status := .active

def startProcess (sequence : ℕ) (kind : ProcessKind) (targetId backlogItemId : String)
    (durationSeconds : ℤ) (poolIds : List String) : Except Failure State := do
  s.requireFieldProcessAdmissible kind targetId durationSeconds
  let item ← s.backlogItem backlogItemId
  require (item.targetId = targetId ∧ (item.status = .opened ∨ item.status = .planned))
    ⟨"backlog-binding", backlogItemId⟩
  require (∀ process ∈ s.processes, process.status ≠ .active)
    ⟨"process-conflict", "the shared work lane already has an active process"⟩
  let process := s.newProcess sequence kind targetId backlogItemId durationSeconds poolIds
  let (resources, reservations) ← reserveProcessResources s.resources s.resourceReservations
    process.processId targetId poolIds s.calendarSeconds durationSeconds
  let replaced ← s.replaceBacklogItem { item with
    status := .inProgress
    linkedProcessId := some process.processId }
  pure { replaced with
    resources := resources
    resourceReservations := reservations
    processes := s.processes ++ [process] }

def addGeneratedWork (generation : WorkGenerationRecord) (item : BacklogItem) :
    Except Failure State := do
  let (records, backlog) ← generateWorkOnce s.generationRecords s.backlog generation item
  let updated ← s.withBacklog backlog
  pure { updated with generationRecords := records }

/-- Set the reusable capacity free, or withdraw it. -/
def setReusableAvailability (available : Bool) : Except Failure State := do
  let resources ← s.resources.pools.foldlM (fun resources pool => do
    match pool with
    | .consumable _ => pure resources
    | .reusable pool =>
      require (pool.reserved = 0) ⟨"resource-withdrawal", s!"{pool.poolId} remains reserved"⟩
      resources.withPool (← pool.withQuantities (if available then pool.capacity else 0)
        pool.reserved (if available then 0 else pool.capacity))) s.resources
  pure { s with resources := resources }

/-- Suspend an active process before a safety or resource-withdrawal event. -/
def suspendProcess (process : CoupledProcess) : Except Failure State := do
  if process.status ≠ .active then pure s
  else
    let (resources, reservations) ← retainConsumableReservations s.resources
      s.resourceReservations s.calendarSeconds
    let item ← s.backlogItem process.backlogItemId
    let replaced ← s.replaceBacklogItem { item with
      status := .blocked
      blockedFromStatus := some item.status
      blockedSinceCalendarSeconds := some s.calendarSeconds }
    let physical ← PhysicalState.make { s.physical.toPhysicalFields with
      testRunningPumpIds := s.physical.testRunningPumpIds.filter (· ≠ process.targetId) }
    pure { replaced with
      physical := physical
      resources := resources
      resourceReservations := reservations
      processes := s.replacedProcess { process with
        status := .suspended
        remainingDurationSeconds := max 0 (process.dueAtCalendarSeconds - s.calendarSeconds) } }

/-- Suspend those of the processes that are active. -/
def suspendProcesses (s : State) (processes : List CoupledProcess) : Except Failure State :=
  processes.foldlM (fun updated process => updated.suspendProcess process) s

/-! ## Runtime clocks -/

def collateralRuntimeOf (episodeId pumpId : String) : ℤ :=
  match s.collateralRuntime.find? fun row => row.1 = episodeId ∧ row.2.1 = pumpId with
  | some row => row.2.2
  | none => 0

def runtimeClockValues : List ((String × String) × ℤ) :=
  (s.physical.pumps.map fun pump => (("pump_total", pump.pumpId), pump.exposure.runtimeSeconds)) ++
    s.collateralRuntime.map fun row =>
      (("outage_episode_collateral", s!"{row.1}:{row.2.1}"), row.2.2)

/-- The reading of a clock; of two rows for one clock the later one counts. -/
def runtimeClock (clockKind clockId : String) : Option ℤ :=
  (Dict.get Prod.fst s.runtimeClockValues (clockKind, clockId)).map (·.2)

def runtimeClockAccrues (clockKind clockId : String) : Except Failure Bool := do
  if clockKind = "pump_total" then
    pure (decide (clockId ∈ s.physical.serviceRunningPumpIds ++ s.physical.testRunningPumpIds))
  else if clockKind ≠ "outage_episode_collateral" then pure false
  else match Names.splitLast ':' clockId with
    | none => pure false
    | some (episodeId, pumpId) =>
      if pumpId ∉ s.physical.serviceRunningPumpIds then pure false
      else match s.outageEpisodes.filter fun episode =>
          episode.episodeId = episodeId ∧ episode.status = "open" with
        | [episode] => do
          let baseline ← s.baselineAssignment s.calendarSeconds
          pure (decide (episode.unavailableBaselinePumpId ∈ baseline))
        | _ => pure false

/-- The readings at which the urgency of an item changes. -/
def runtimeBoundaries (limit : ℤ) : List (ℤ × String) :=
  [(limit - 2 * 28800, "p2"), (limit - 28800, "p1"), (limit, "due")]

/-- The times at which a running clock meets a boundary of open demand. -/
def runtimeBoundaryCandidates : Except Failure (List ℤ) := do
  let rows ← s.backlog.mapM fun item => do
    match item.dueRuntimeClockKind, item.dueRuntimeClockId, item.dueRuntimeLimitSeconds with
    | some clockKind, some clockId, some limit =>
      if item.status ≠ .opened ∧ item.status ≠ .planned ∧ item.status ≠ .inProgress ∧
          item.status ≠ .blocked then pure []
      else if ¬ (← s.runtimeClockAccrues clockKind clockId) then pure []
      else match s.runtimeClock clockKind clockId with
        | none => pure []
        | some current => pure <| ((runtimeBoundaries limit).filter (·.1 > current)).map fun row =>
            s.calendarSeconds + row.1 - current
    | _, _, _ => pure []
  pure rows.flatten

def runtimeBoundaryEffectIds : List String :=
  s.backlog.flatMap fun item =>
    match item.dueRuntimeClockKind, item.dueRuntimeClockId, item.dueRuntimeLimitSeconds with
    | some clockKind, some clockId, some limit =>
      match s.runtimeClock clockKind clockId with
      | none => []
      | some current => ((runtimeBoundaries limit).filter (·.1 = current)).map (fun row =>
          s!"backlog-runtime-boundary-{item.itemId}-{row.2}") |>.filter (· ∉ s.eventEffectIds)
    | _, _, _ => []

/-! ## The next event -/

/-- The windows of the reusable pools, which are all the same. -/
def resourceWindows : Except Failure (List AvailabilityInterval) :=
  match s.resources.pools.filterMap Pool.windows with
  | [] => .error ⟨"resource-window", "reusable resource schedules differ"⟩
  | windows :: rest =>
    if ∀ other ∈ rest, other = windows then .ok windows
    else .error ⟨"resource-window", "reusable resource schedules differ"⟩

end State

structure ScheduledEvent where
  eventId : String
  eventType : String
  time : ℤ

/-- The declared schedule of a profile. -/
structure EventSchedule where
  disclosedThroughCalendarSeconds : ℤ
  serviceRequirements : List ServiceRequirement
  baselineAssignments : List (ℤ × ℤ × List String)
  resourceWindows : List AvailabilityInterval
  hostEvents : List ScheduledEvent

def State.nextEventTime (s : State) (schedule : EventSchedule) : Except Failure ℤ := do
  let windows ← s.resourceWindows
  let boundaries ← s.runtimeBoundaryCandidates
  let times := s.serviceSchedule.flatMap (fun r => [r.startCalendarSeconds, r.endCalendarSeconds]) ++
    windows.flatMap (fun w => [w.startCalendarSeconds, w.endCalendarSeconds]) ++
    schedule.hostEvents.map (·.time) ++
    (s.processes.filter (·.status = .active)).map (·.dueAtCalendarSeconds)
  let candidates := (times.filter (· > s.calendarSeconds) ++ boundaries).filter
    (· < s.disclosedThroughCalendarSeconds)
  match candidates.min? with
  | none => .error ⟨"no-next-event", toString s.calendarSeconds⟩
  | some time => .ok time

/-! ## Records that transitions produce -/

/-- What a work rule says of the demand it generates. -/
structure GeneratedDemand where
  ruleId : String
  sourceTransitionId : String
  targetKind : String
  targetId : String
  workType : String
  generatedAt : ℤ
  priority : Priority
  dueCalendarSeconds : Option ℤ
  dueRuntimeKind : Option String
  dueRuntimeId : Option String
  dueRuntimeLimit : Option ℤ
  obligationIds : List String
  restrictionIds : List String
  closureRule : String

/-- `_generated_item`, with the ordinal one that all rules give. -/
def generatedItem (host : Host) (d : GeneratedDemand) : WorkGenerationRecord × BacklogItem :=
  let stable := host.stableId d.ruleId d.sourceTransitionId d.targetKind d.targetId 1
  let itemId := s!"backlog-{Names.lower d.ruleId}-{d.targetId}-{1}-{stable}"
  ({ ruleId := d.ruleId
     sourceTransitionId := d.sourceTransitionId
     targetKind := d.targetKind
     targetId := d.targetId
     generationOrdinal := 1
     backlogItemId := itemId },
   { itemId := itemId
     workType := d.workType
     targetKind := d.targetKind
     targetId := d.targetId
     generationRuleId := d.ruleId
     generationOrdinal := 1
     originatingRecordId := d.sourceTransitionId
     linkedObligationIds := d.obligationIds
     linkedRestrictionIds := d.restrictionIds
     linkedWorkOrderId := none
     linkedProcessId := none
     generatedAtCalendarSeconds := d.generatedAt
     basePriority := d.priority
     effectivePriority := d.priority
     dueCalendarSeconds := d.dueCalendarSeconds
     dueRuntimeClockKind := d.dueRuntimeKind
     dueRuntimeClockId := d.dueRuntimeId
     dueRuntimeLimitSeconds := d.dueRuntimeLimit
     status := .planned
     blockedFromStatus := none
     blockedSinceCalendarSeconds := none
     accumulatedBlockedSeconds := 0
     closureRule := d.closureRule
     closureEvidenceIds := [] })

def State.generate (host : Host) (s : State) (demand : GeneratedDemand) : Except Failure State :=
  let (generation, item) := generatedItem host demand
  s.addGeneratedWork generation item

/-- `_accepted_evidence_record` with its context given. -/
def acceptedEvidenceRecord (evidenceId : String) (kind : EvidenceKind) (pumpId : String)
    (createdAtSeconds : ℤ) (producedBy acceptedBy : Authority) (passed : Option Bool)
    (sourceId baselineId operatingRegimeId : String) (quality : EvidenceQuality) :
    Except Failure Evidence := do
  let health ← EvidenceHealth.checked {
    observedAtSeconds := createdAtSeconds
    producedAtSeconds := createdAtSeconds
    availableAtSeconds := createdAtSeconds
    sourceId := sourceId
    componentScope := [pumpId]
    baselineId := baselineId
    operatingRegimeId := operatingRegimeId
    accepted := true
    quality := quality }
  pure {
    evidenceId := evidenceId
    kind := kind
    pumpId := pumpId
    createdAtSeconds := createdAtSeconds
    producedBy := producedBy
    acceptedBy := some acceptedBy
    passed := passed
    health := some health }

/-- `_accepted_evidence_record` in the one context that the accepted evidence of a state has. -/
def State.producedEvidence (s : State) (evidenceId : String) (kind : EvidenceKind)
    (pumpId : String) (producedBy acceptedBy : Authority) (passed : Option Bool) :
    Except Failure Evidence :=
  let healths := (s.evidence.filterMap (·.health)).filter (·.accepted)
  match (healths.map fun h => (h.baselineId, h.operatingRegimeId)).dedup with
  | [(baselineId, operatingRegimeId)] =>
    acceptedEvidenceRecord evidenceId kind pumpId s.calendarSeconds producedBy acceptedBy passed
      s!"source-{evidenceId}" baselineId operatingRegimeId .current
  | _ => .error ⟨"evidence-context", "accepted evidence must use one profile context"⟩

/-! ## The station advanced -/

/-- The order of the rows of collateral runtime. -/
def collateralLe (a b : String × String × ℤ) : Prop :=
  a.1 < b.1 ∨ a.1 = b.1 ∧ (a.2.1 < b.2.1 ∨ a.2.1 = b.2.1 ∧ a.2.2 ≤ b.2.2)

instance : DecidableRel collateralLe := fun _ _ => inferInstanceAs (Decidable (_ ∨ _))

/-- The rows of collateral runtime after an interval; what stood there before it is read from
`prior`. -/
def accrueCollateral (prior : String → String → ℤ) (rows : List (String × String × ℤ))
    (deltas : List OperatingDelta) : List (String × String × ℤ) :=
  deltas.foldl (fun rows delta =>
    match delta.attributedOutageEpisodeId with
    | none => rows
    | some episodeId =>
      rows.filter (fun row => ¬ (row.1 = episodeId ∧ row.2.1 = delta.pumpId)) ++
        [(episodeId, delta.pumpId, prior episodeId delta.pumpId + delta.collateralRuntimeSeconds)])
    rows

/-- What the interval asks of a pump. -/
def requestedDelta (s : State) (baseline : List String) (elapsed : ℤ) (pump : PumpState) :
    Except Failure OperatingDelta :=
  let serviceRuntime := if pump.pumpId ∈ s.physical.serviceRunningPumpIds then elapsed else 0
  let attributed := pump.pumpId = "pump-c" ∧ "pump-b" ∈ baseline ∧ serviceRuntime ≠ 0 ∧
    ∃ episode ∈ s.outageEpisodes, episode.episodeId = "outage-b-001" ∧ episode.status = "open"
  OperatingDelta.checked {
    pumpId := pump.pumpId
    serviceRuntimeSeconds := serviceRuntime
    testRuntimeSeconds := if pump.pumpId ∈ s.physical.testRunningPumpIds then elapsed else 0
    attributedOutageEpisodeId := if attributed then some "outage-b-001" else none
    startAdded := decide (pump.pumpId ∈ s.pendingStartPumpIds)
    openingExposure := none
    closingExposure := none
    openingCondition := none
    closingCondition := none }

/-- The demand for an inspection of Pump C after its collateral duty. -/
def collateralInspection (transitionId : String) (endSeconds : ℤ) : GeneratedDemand where
  ruleId := "WG-07"
  sourceTransitionId := transitionId
  targetKind := "asset"
  targetId := "pump-c"
  workType := "collateral_duty_inspection"
  generatedAt := endSeconds
  priority := .p2
  dueCalendarSeconds := some (endSeconds + 57600)
  dueRuntimeKind := some "outage_episode_collateral"
  dueRuntimeId := some "outage-b-001:pump-c"
  dueRuntimeLimit := some 86400
  obligationIds := []
  restrictionIds := []
  closureRule := "accepted inspection for Pump C"

def advancePhysical (host : Host) (model : CoupledModel) (s : State) (endSeconds : ℤ)
    (transitionId : String) : Except Failure State := do
  let elapsed := endSeconds - s.calendarSeconds
  require (0 < elapsed) ⟨"time-order", toString endSeconds⟩
  let baseline ← s.baselineAssignment s.calendarSeconds
  let deltas ← s.physical.pumps.mapM (requestedDelta s baseline elapsed)
  let required ← s.serviceRequirement s.calendarSeconds
  let interval ← OperatingInterval.checked {
    startCalendarSeconds := s.calendarSeconds
    endCalendarSeconds := endSeconds
    requiredServiceScu := required
    baselineAssignmentPumpIds := baseline
    actualAssignmentPumpIds := s.assignment.orderedPumpIds
    serviceRunningPumpIds := s.physical.serviceRunningPumpIds
    testRunningPumpIds := s.physical.testRunningPumpIds
    pumpDeltas := deltas }
  let (physical, operatingInterval) ← transitionCoupledPumpStation host.round model s.physical
    interval
  let collateral := (accrueCollateral s.collateralRuntimeOf s.collateralRuntime
    operatingInterval.pumpDeltas).insertionSort collateralLe
  let updated : State := { s with
    physical := physical
    operatingIntervals := s.operatingIntervals ++ [operatingInterval]
    collateralRuntime := collateral
    pendingStartPumpIds := [] }
  if updated.collateralRuntimeOf "outage-b-001" "pump-c" ≥ 28800 ∧
      ∀ item ∈ updated.backlog, ¬ (item.generationRuleId = "WG-07" ∧ item.targetId = "pump-c") then
    updated.generate host (collateralInspection transitionId endSeconds)
  else pure updated

/-! ## The end of a process -/

/-- The label of a pump: what follows `pump-` in its identity. -/
def pumpLabel (pumpId : String) : String := Names.removePrefix "pump-" pumpId

/-- What is common to the ends of all kinds of processes: `updated` is the state with the demand
that the end generates, and the other arguments are what it does besides. -/
def finishProcess (s updated : State) (process : CoupledProcess) (item : BacklogItem)
    (status : BacklogStatus) (evidence : Evidence) (restrictions : List Restriction)
    (physical : PhysicalState) (resources : ResourceState)
    (reservations : List PoolReservation) : Except Failure State := do
  let (resources, reservations) ← releaseReservations resources reservations process.processId
    s.calendarSeconds
  let replaced ← updated.replaceBacklogItem { item with
    status := status
    closureEvidenceIds := [evidence.evidenceId] }
  pure { replaced with
    physical := physical
    resources := resources
    resourceReservations := reservations
    processes := updated.replacedProcess { process with
      status := .completed
      remainingDurationSeconds := 0 }
    evidence := s.evidence ++ [evidence]
    restrictions := restrictions }

def clearanceKit : String := "obstruction-clearance-kit"

/-- The demand for a functional check after a clearance. -/
def functionalCheckDemand (transitionId targetId : String) (now : ℤ) : GeneratedDemand where
  ruleId := "WG-03"
  sourceTransitionId := transitionId
  targetKind := "asset"
  targetId := targetId
  workType := "minimum_functional_check"
  generatedAt := now
  priority := .p1
  dueCalendarSeconds := some (now + 3600)
  dueRuntimeKind := none
  dueRuntimeId := none
  dueRuntimeLimit := none
  obligationIds := []
  restrictionIds := []
  closureRule := "accepted functional-check evidence"

/-- The demand for another kit after a clearance. -/
def replenishmentDemand (transitionId : String) (now : ℤ) : GeneratedDemand where
  ruleId := "WG-06"
  sourceTransitionId := transitionId
  targetKind := "resource_pool"
  targetId := clearanceKit
  workType := "replenish_clearance_kit"
  generatedAt := now
  priority := .p2
  dueCalendarSeconds := some (now + 1209600)
  dueRuntimeKind := none
  dueRuntimeId := none
  dueRuntimeLimit := none
  obligationIds := []
  restrictionIds := []
  closureRule := "declared stock arrival is recorded"

def completeClearance (host : Host) (s : State) (process : CoupledProcess) (item : BacklogItem)
    (transitionId : String) : Except Failure State := do
  let (resources, reservations) ← consumeReservation s.resources s.resourceReservations
    clearanceKit process.processId s.calendarSeconds
  let pump ← s.physical.pump process.targetId
  let cleared ← PumpCondition.make (max (2 / 100) (host.round (15 / 100 * pump.condition.obstruction)))
    pump.condition.clearanceLoss
  let physical ← PhysicalState.make { s.physical.toPhysicalFields with
    pumps := s.physical.pumps.map fun value =>
      if value.pumpId = pump.pumpId then { value with condition := cleared } else value }
  let physical ← physical.withBoundaryMode process.targetId .testOnly transitionId
  let restrictions := s.restrictions.map fun value =>
    if value.pumpId = process.targetId ∧ value.status = .active ∧ value.kind = .noIntervention then
      { value with status := .lifted }
    else value
  let targetLabel := pumpLabel process.targetId
  let evidence ← s.producedEvidence s!"evidence-{targetLabel}-clearance-complete-001"
    .functionalChecks process.targetId .maintenance .maintenance (some true)
  let updated ← s.generate host (functionalCheckDemand transitionId process.targetId
    s.calendarSeconds)
  let updated ← updated.generate host (replenishmentDemand transitionId s.calendarSeconds)
  finishProcess s updated process item .closed evidence restrictions physical resources reservations

def completeFunctionalCheck (s : State) (process : CoupledProcess) (item : BacklogItem) :
    Except Failure State := do
  let physical ← PhysicalState.make { s.physical.toPhysicalFields with testRunningPumpIds := [] }
  let targetLabel := pumpLabel process.targetId
  let evidence ← s.producedEvidence s!"evidence-{targetLabel}-functional-check-pass-001"
    .functionalChecks process.targetId .maintenance .operations (some true)
  finishProcess s s process item .closed evidence s.restrictions physical s.resources
    s.resourceReservations

def completeVerification (s : State) (process : CoupledProcess) (item : BacklogItem) :
    Except Failure State := do
  let evidence ← s.producedEvidence s!"evidence-{process.targetId}-verification-pass-001"
    .postMaintenanceVerification process.targetId .verification .verification (some true)
  finishProcess s s process item .completed evidence s.restrictions s.physical s.resources
    s.resourceReservations

def completeInspection (s : State) (process : CoupledProcess) (item : BacklogItem) :
    Except Failure State := do
  let targetLabel := pumpLabel process.targetId
  let evidence ← s.producedEvidence s!"evidence-{targetLabel}-inspection-no-finding-001"
    .inspection process.targetId .maintenance .maintenance (some true)
  finishProcess s s process item .closed evidence s.restrictions s.physical s.resources
    s.resourceReservations

def completeProcess (host : Host) (s : State) (process : CoupledProcess) (transitionId : String) :
    Except Failure State := do
  let item ← s.backlogItem process.backlogItemId
  match process.kind with
  | .obstructionClearance => completeClearance host s process item transitionId
  | .functionalCheck => completeFunctionalCheck s process item
  | .postMaintenanceVerification => completeVerification s process item
  | .inspection => completeInspection s process item

/-! ## The effects of an event -/

/-- The end of a resource window: active work is suspended before the capacity is withdrawn. -/
def closeWindows (s : State) (windows : List AvailabilityInterval) (eventTime : ℤ) :
    Except Failure (State × List String) := do
  if ∃ window ∈ windows, window.endCalendarSeconds = eventTime then
    let suspended ← s.suspendProcesses s.processes
    let withdrawn ← suspended.setReusableAvailability false
    pure (withdrawn, ((s.processes.filter (·.status = .active)).map fun process =>
      s!"process-suspended-{process.processId}-{eventTime}") ++ [s!"resource-window-close-{eventTime}"])
  else pure (s, [])

/-- The start of a resource window. -/
def openWindows (s : State) (windows : List AvailabilityInterval) (eventTime : ℤ) :
    Except Failure (State × List String) := do
  if ∃ window ∈ windows, window.startCalendarSeconds = eventTime then
    pure (← s.setReusableAvailability true, [s!"resource-window-open-{eventTime}"])
  else pure (s, [])

/-- The start of a service requirement. -/
def startRequirement (s : State) (eventTime : ℤ) : Except Failure (State × List String) := do
  match s.serviceSchedule.find? (·.startCalendarSeconds = eventTime) with
  | none => pure (s, [])
  | some starting =>
    let priorRequired ← s.serviceRequirement (eventTime - 1)
    let required := starting.requiredServiceScu
    let service ← s.selectedServiceRunning none required
    let updated ← s.withPhysicalRunningSets service none
    pure (updated,
      if priorRequired = 1 ∧ required = 2 then ["service-peak-start"]
      else if priorRequired = 2 ∧ required = 1 then ["service-peak-end"]
      else if priorRequired ≠ required then [s!"service-requirement-{required}-{eventTime}"]
      else [])

def applyEventEffects (host : Host) (s : State) (schedule : EventSchedule) (eventTime : ℤ)
    (transitionId : String) : Except Failure State := do
  let windows ← s.resourceWindows
  let (closed, closeIds) ← closeWindows s windows eventTime
  let (opened, openIds) ← openWindows closed windows eventTime
  let (started, requirementIds) ← startRequirement opened eventTime
  let hostIds := (schedule.hostEvents.filter fun event => event.time = eventTime ∧
    (event.eventType = "backlog_due" ∨ event.eventType = "backlog_priority" ∨
      event.eventType = "document_review_point")).map (·.eventId)
  let updated : State := { started with
    eventEffectIds := s.eventEffectIds ++ s.runtimeBoundaryEffectIds ++ closeIds ++ openIds ++
      requirementIds ++ hostIds }
  let dueProcesses := updated.processes.filter fun process =>
    process.status = .active ∧ process.dueAtCalendarSeconds = eventTime
  dueProcesses.foldlM (fun updated process => completeProcess host updated process transitionId)
    updated

end AecBench.Worlds.PumpStation
