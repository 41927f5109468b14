import AecBench.Worlds.Stewardship.PumpStation.Resources
import AecBench.Worlds.Stewardship.PumpStation.Runs

/-!
# What the parts of a transition do

Each part of a transition, read backwards: when it returns a state, what it has found in the state
before, and which fields it has changed. Everything that is proved of runs starts from here.

## Main definitions

* `PhysicalFields.mode` — the mode a pump is operated under.
* `State.surroundings` — the fields of a state that work leaves alone.
* `CoupledProcess.suspended`, `CoupledProcess.completed` — a process after its suspension and after
  its completion; `Completion` — a state after the completion of a process.

## Main results

* `startProcess_eq_ok`, `suspendProcess_eq_ok`, `advancePhysical_eq_ok`, `finishProcess_eq_ok` — the
  parts that change the work.
* `completeProcess_completion` — the completion of a process.
* `withBoundaryMode_mode` — the modes after the boundary of one pump was changed.
-/

namespace AecBench.Worlds.PumpStation

open Validation

/-! ## Modes -/

namespace PhysicalFields

variable {s : PhysicalFields} {pumpId : String}

/-- The mode a pump is operated under. -/
def mode (s : PhysicalFields) (pumpId : String) : Option PumpMode :=
  (Table.lookup PumpBoundary.pumpId pumpId s.pumpBoundaries).map (·.mode)

lemma boundary_eq_ok {boundary : PumpBoundary} :
    s.boundary pumpId = .ok boundary ↔
      Table.lookup PumpBoundary.pumpId pumpId s.pumpBoundaries = some boundary := by
  unfold PhysicalFields.boundary Table.lookup
  cases s.pumpBoundaries.find? fun row => row.pumpId = pumpId <;> simp

lemma mode_of_boundary {boundary : PumpBoundary} (h : s.boundary pumpId = .ok boundary) :
    s.mode pumpId = some boundary.mode := by
  rw [mode, boundary_eq_ok.mp h, Option.map_some]

end PhysicalFields

section Physical

variable {s state : PhysicalState} {pumpId sourceId : String} {mode : PumpMode}

/-- The boundary of one pump is changed, and the pump leaves the sets it may not run in. -/
lemma withBoundaryMode_eq_ok (h : s.withBoundaryMode pumpId mode sourceId = .ok state) :
    (∃ boundary, s.boundary pumpId = .ok boundary) ∧
      state.toPhysicalFields = { s.toPhysicalFields with
        pumpBoundaries := Table.replace PumpBoundary.pumpId ⟨pumpId, mode, sourceId, sourceId⟩
          s.pumpBoundaries
        serviceRunningPumpIds := s.serviceRunningPumpIds.filter fun item =>
          item ≠ pumpId ∨ mode = .runInService ∨ mode = .serviceAvailable
        testRunningPumpIds := s.testRunningPumpIds.filter fun item =>
          item ≠ pumpId ∨ mode = .testOnly } := by
  unfold PhysicalState.withBoundaryMode at h
  obtain ⟨boundary, hboundary, hmake⟩ := bind_eq_ok.mp h
  exact ⟨⟨boundary, hboundary⟩, PhysicalState.make_eq_ok hmake⟩

/-- **The modes after a change of one boundary.** -/
lemma withBoundaryMode_mode (h : s.withBoundaryMode pumpId mode sourceId = .ok state) (p : String) :
    state.mode p = if p = pumpId then some mode else s.mode p := by
  obtain ⟨⟨boundary, hboundary⟩, hstate⟩ := withBoundaryMode_eq_ok h
  rw [hstate, PhysicalFields.mode, PhysicalFields.mode]
  rw [Table.lookup_replace]
  by_cases hp : p = pumpId
  · rw [if_pos hp, if_pos hp, hp, PhysicalFields.boundary_eq_ok.mp hboundary]
    rfl
  · rw [if_neg hp, if_neg hp]

end Physical

/-! ## The parts that change the work -/

/-- The fields of a state that work leaves alone. -/
structure Surroundings where
  environment : CoupledEnvironment
  obligations : List Obligation
  workOrders : List WorkOrder
  assignment : DutyAssignment
  serviceSchedule : List ServiceRequirement
  baselineSchedule : List (ℤ × ℤ × List String)
  disclosedThroughCalendarSeconds : ℤ
  outageEpisodes : List OutageEpisode
  operatingIntervals : List OperatingInterval
  collateralRuntime : List (String × String × ℤ)
  pendingStartPumpIds : List String
  eventEffectIds : List String

def State.surroundings (s : State) : Surroundings where
  environment := s.environment
  obligations := s.obligations
  workOrders := s.workOrders
  assignment := s.assignment
  serviceSchedule := s.serviceSchedule
  baselineSchedule := s.baselineSchedule
  disclosedThroughCalendarSeconds := s.disclosedThroughCalendarSeconds
  outageEpisodes := s.outageEpisodes
  operatingIntervals := s.operatingIntervals
  collateralRuntime := s.collateralRuntime
  pendingStartPumpIds := s.pendingStartPumpIds
  eventEffectIds := s.eventEffectIds

section Work

variable {s state : State} {host : Host}

variable {item : BacklogItem}

lemma backlogItem_eq_ok {itemId : String} (h : s.backlogItem itemId = .ok item) :
    item ∈ s.backlog ∧ item.itemId = itemId := by
  unfold State.backlogItem at h
  split at h
  · rename_i found hfound
    cases h
    exact ⟨List.mem_of_find?_eq_some hfound, by simpa using List.find?_some hfound⟩
  · cases h

lemma replaceBacklogItem_eq_ok (h : s.replaceBacklogItem item = .ok state) :
    ∃ hdistinct, state = { s with
      backlog := Table.replace BacklogItem.itemId item s.backlog
      backlog_distinct := hdistinct } := by
  unfold State.replaceBacklogItem at h
  obtain ⟨-, -, h⟩ := bind_eq_ok.mp h
  exact State.withBacklog_eq_ok.mp h

lemma withPhysicalRunningSets_eq_ok {service : List String} {test : Option (List String)}
    (h : s.withPhysicalRunningSets service test = .ok state) :
    ∃ physical pending, physical.toPhysicalFields = { s.physical.toPhysicalFields with
        serviceRunningPumpIds := service
        testRunningPumpIds := test.getD s.physical.testRunningPumpIds } ∧
      state = { s with physical := physical, pendingStartPumpIds := pending } := by
  unfold State.withPhysicalRunningSets at h
  obtain ⟨physical, hphysical, hpure⟩ := bind_eq_ok.mp h
  exact ⟨physical, _, PhysicalState.make_eq_ok hphysical, (pure_eq_ok.mp hpure).symm⟩

/-- **The start of a process**: the checks it has passed, and what it changes. -/
lemma startProcess_eq_ok {sequence : ℕ} {kind : ProcessKind} {targetId itemId : String}
    {duration : ℤ} {poolIds : List String}
    (h : s.startProcess sequence kind targetId itemId duration poolIds = .ok state) :
    s.requireFieldProcessAdmissible kind targetId duration = .ok () ∧
      (∀ process ∈ s.processes, process.status ≠ .active) ∧
      ∃ item ∈ s.backlog, item.itemId = itemId ∧ item.targetId = targetId ∧
        (item.status = .opened ∨ item.status = .planned) ∧
      ∃ resources reservations,
        reserveProcessResources s.resources s.resourceReservations
          (s.newProcess sequence kind targetId itemId duration poolIds).processId targetId poolIds
          s.calendarSeconds duration = .ok (resources, reservations) ∧
      ∃ hdistinct, state = { s with
        resources := resources
        resourceReservations := reservations
        processes := s.processes ++
          [s.newProcess sequence kind targetId itemId duration poolIds]
        backlog := Table.replace BacklogItem.itemId { item with
          status := .inProgress
          linkedProcessId :=
            some (s.newProcess sequence kind targetId itemId duration poolIds).processId } s.backlog
        backlog_distinct := hdistinct } := by
  unfold State.startProcess at h
  obtain ⟨hadmissible, h⟩ := unit_bind_eq_ok.mp h
  obtain ⟨item, hitem, h⟩ := bind_eq_ok.mp h
  obtain ⟨⟨htarget, hstatus⟩, h⟩ := require_bind_eq_ok.mp h
  obtain ⟨hlane, h⟩ := require_bind_eq_ok.mp h
  obtain ⟨⟨resources, reservations⟩, hreserve, h⟩ := bind_eq_ok.mp h
  obtain ⟨replaced, hreplaced, hpure⟩ := bind_eq_ok.mp h
  obtain ⟨hmem, hid⟩ := backlogItem_eq_ok hitem
  obtain ⟨hdistinct, rfl⟩ := replaceBacklogItem_eq_ok hreplaced
  obtain rfl := pure_eq_ok.mp hpure
  exact ⟨hadmissible, hlane, item, hmem, hid, htarget, hstatus, resources, reservations, hreserve,
    hdistinct, rfl⟩

/-- Demand that is generated is there already, or comes last under an identity of its own. -/
lemma generateWorkOnce_eq_ok {records records' : List WorkGenerationRecord}
    {backlog backlog' : List BacklogItem} {generation : WorkGenerationRecord}
    (h : generateWorkOnce records backlog generation item = .ok (records', backlog')) :
    backlog' = backlog ∨
      (∀ value ∈ backlog, value.itemId ≠ item.itemId) ∧ backlog' = backlog ++ [item] := by
  unfold generateWorkOnce at h
  obtain ⟨-, h⟩ := require_bind_eq_ok.mp h
  dsimp only at h
  split_ifs at h
  · obtain ⟨-, h⟩ := require_bind_eq_ok.mp h
    obtain ⟨-, h⟩ := require_bind_eq_ok.mp h
    cases pure_eq_ok.mp h
    exact .inl rfl
  · obtain ⟨hnew, h⟩ := require_bind_eq_ok.mp h
    cases pure_eq_ok.mp h
    exact .inr ⟨hnew, rfl⟩

lemma generate_eq_ok {demand : GeneratedDemand} (h : s.generate host demand = .ok state) :
    ∃ records backlog hdistinct,
      (backlog = s.backlog ∨
        (∀ value ∈ s.backlog, value.itemId ≠ (generatedItem host demand).2.itemId) ∧
          backlog = s.backlog ++ [(generatedItem host demand).2]) ∧
      state = { s with
        generationRecords := records
        backlog := backlog
        backlog_distinct := hdistinct } := by
  unfold State.generate State.addGeneratedWork at h
  obtain ⟨⟨records, backlog⟩, hgenerate, h⟩ := bind_eq_ok.mp h
  obtain ⟨updated, hupdated, hpure⟩ := bind_eq_ok.mp h
  obtain ⟨hdistinct, rfl⟩ := State.withBacklog_eq_ok.mp hupdated
  obtain rfl := pure_eq_ok.mp hpure
  exact ⟨records, backlog, hdistinct, generateWorkOnce_eq_ok hgenerate, rfl⟩

/-- A process after its suspension. -/
def CoupledProcess.suspended (process : CoupledProcess) (now : ℤ) : CoupledProcess :=
  { process with
    status := .suspended
    remainingDurationSeconds := max 0 (process.dueAtCalendarSeconds - now) }

/-- A process after its completion. -/
def CoupledProcess.completed (process : CoupledProcess) : CoupledProcess :=
  { process with
    status := .completed
    remainingDurationSeconds := 0 }

/-- An item whose process is suspended. -/
def BacklogItem.blockedAt (item : BacklogItem) (now : ℤ) : BacklogItem :=
  { item with
    status := .blocked
    blockedFromStatus := some item.status
    blockedSinceCalendarSeconds := some now }

variable {process : CoupledProcess}

lemma suspendProcess_of_ne (h : process.status ≠ .active) : s.suspendProcess process = .ok s := by
  unfold State.suspendProcess
  rw [if_pos h]
  rfl

/-- **The suspension of an active process.** -/
lemma suspendProcess_eq_ok (hactive : process.status = .active)
    (h : s.suspendProcess process = .ok state) :
    ∃ item ∈ s.backlog, item.itemId = process.backlogItemId ∧
      ∃ physical resources reservations hdistinct,
        physical.toPhysicalFields = { s.physical.toPhysicalFields with
          testRunningPumpIds := s.physical.testRunningPumpIds.filter (· ≠ process.targetId) } ∧
        retainConsumableReservations s.resources s.resourceReservations s.calendarSeconds =
          .ok (resources, reservations) ∧
        state = { s with
          physical := physical
          resources := resources
          resourceReservations := reservations
          processes := s.replacedProcess (process.suspended s.calendarSeconds)
          backlog := Table.replace BacklogItem.itemId (item.blockedAt s.calendarSeconds) s.backlog
          backlog_distinct := hdistinct } := by
  unfold State.suspendProcess at h
  rw [if_neg (not_not.mpr hactive)] at h
  obtain ⟨⟨resources, reservations⟩, hretain, h⟩ := bind_eq_ok.mp h
  obtain ⟨item, hitem, h⟩ := bind_eq_ok.mp h
  obtain ⟨replaced, hreplaced, h⟩ := bind_eq_ok.mp h
  obtain ⟨physical, hphysical, hpure⟩ := bind_eq_ok.mp h
  obtain ⟨hmem, hid⟩ := backlogItem_eq_ok hitem
  obtain ⟨hdistinct, rfl⟩ := replaceBacklogItem_eq_ok hreplaced
  obtain rfl := pure_eq_ok.mp hpure
  exact ⟨item, hmem, hid, physical, resources, reservations, hdistinct,
    PhysicalState.make_eq_ok hphysical, hretain, rfl⟩

/-- **The end of a process**, with what its kind does besides. -/
lemma finishProcess_eq_ok {updated : State} {status : BacklogStatus} {evidence : Evidence}
    {restrictions : List Restriction} {physical : PhysicalState} {resources : ResourceState}
    {reservations : List PoolReservation}
    (h : finishProcess s updated process item status evidence restrictions physical resources
      reservations = .ok state) :
    ∃ resources' reservations' hdistinct,
      releaseReservations resources reservations process.processId s.calendarSeconds =
        .ok (resources', reservations') ∧
      state = { updated with
        physical := physical
        resources := resources'
        resourceReservations := reservations'
        processes := updated.replacedProcess process.completed
        evidence := s.evidence ++ [evidence]
        restrictions := restrictions
        backlog := Table.replace BacklogItem.itemId
          { item with status := status, closureEvidenceIds := [evidence.evidenceId] }
          updated.backlog
        backlog_distinct := hdistinct } := by
  unfold finishProcess at h
  obtain ⟨⟨resources', reservations'⟩, hrelease, h⟩ := bind_eq_ok.mp h
  obtain ⟨replaced, hreplaced, hpure⟩ := bind_eq_ok.mp h
  obtain ⟨hdistinct, rfl⟩ := replaceBacklogItem_eq_ok hreplaced
  obtain rfl := pure_eq_ok.mp hpure
  exact ⟨resources', reservations', hdistinct, hrelease, rfl⟩

end Work

/-! ## The station advanced -/

section Advance

variable {s state : State} {host : Host} {model : CoupledModel}

lemma map_of_mapM {α β γ : Type} {f : α → Except Failure β} {g : α → γ} {k : β → γ} {xs : List α}
    {ys : List β} (hf : ∀ x y, f x = .ok y → k y = g x) (h : xs.mapM f = .ok ys) :
    ys.map k = xs.map g := by
  rw [mapM_eq_ok] at h
  induction h with
  | nil => rfl
  | cons hxy _ ih => rw [List.map_cons, List.map_cons, hf _ _ hxy, ih]

lemma OperatingInterval.checked_eq_ok {interval checked : OperatingInterval}
    (h : interval.checked = .ok checked) : checked = interval := by
  unfold OperatingInterval.checked at h
  obtain ⟨-, h⟩ := require_bind_eq_ok.mp h
  obtain ⟨-, h⟩ := require_bind_eq_ok.mp h
  obtain ⟨-, h⟩ := require_bind_eq_ok.mp h
  obtain ⟨-, h⟩ := unit_bind_eq_ok.mp h
  exact (pure_eq_ok.mp h).symm

lemma transitionCoupledPumpStation_eq_ok {round : ℚ → ℚ} {before after : PhysicalState}
    {interval output : OperatingInterval}
    (h : transitionCoupledPumpStation round model before interval = .ok (after, output)) :
    ∃ pumps, pumps.map PumpState.pumpId = before.pumps.map PumpState.pumpId ∧
      after.toPhysicalFields = { before.toPhysicalFields with
        calendarSeconds := interval.endCalendarSeconds
        pumps := pumps
        serviceRunningPumpIds := interval.serviceRunningPumpIds
        testRunningPumpIds := interval.testRunningPumpIds } := by
  unfold transitionCoupledPumpStation at h
  obtain ⟨-, h⟩ := require_bind_eq_ok.mp h
  obtain ⟨-, h⟩ := require_bind_eq_ok.mp h
  obtain ⟨-, h⟩ := require_bind_eq_ok.mp h
  obtain ⟨-, h⟩ := unit_bind_eq_ok.mp h
  obtain ⟨-, h⟩ := unit_bind_eq_ok.mp h
  obtain ⟨updated, hupdated, h⟩ := bind_eq_ok.mp h
  obtain ⟨physical, hphysical, h⟩ := bind_eq_ok.mp h
  obtain ⟨checked, -, hpure⟩ := bind_eq_ok.mp h
  cases pure_eq_ok.mp hpure
  refine ⟨updated.map Prod.fst, ?_, PhysicalState.make_eq_ok hphysical⟩
  rw [List.map_map]
  refine map_of_mapM (fun pump row hrow => ?_) hupdated
  unfold advancePump at hrow
  obtain ⟨requested, -, hrow⟩ := bind_eq_ok.mp hrow
  obtain ⟨exposure, -, hrow⟩ := bind_eq_ok.mp hrow
  obtain ⟨condition, -, hrow⟩ := bind_eq_ok.mp hrow
  obtain ⟨delta, -, hrow⟩ := bind_eq_ok.mp hrow
  cases pure_eq_ok.mp hrow
  rfl

/-- **The station up to its next event**: the clocks and the pumps, and the demand for an
inspection of Pump C. -/
lemma advancePhysical_eq_ok {endSeconds : ℤ} {transitionId : String}
    (h : advancePhysical host model s endSeconds transitionId = .ok state) :
    s.calendarSeconds < endSeconds ∧
      ∃ physical pumps intervals collateral records backlog hdistinct,
        physical.toPhysicalFields = { s.physical.toPhysicalFields with
          calendarSeconds := endSeconds
          pumps := pumps } ∧
        pumps.map PumpState.pumpId = s.physical.pumps.map PumpState.pumpId ∧
        (backlog = s.backlog ∨
          (∀ value ∈ s.backlog, value.itemId ≠
            (generatedItem host (collateralInspection transitionId endSeconds)).2.itemId) ∧
            backlog =
              s.backlog ++ [(generatedItem host (collateralInspection transitionId endSeconds)).2]) ∧
        state = { s with
          physical := physical
          operatingIntervals := intervals
          collateralRuntime := collateral
          pendingStartPumpIds := []
          generationRecords := records
          backlog := backlog
          backlog_distinct := hdistinct } := by
  unfold advancePhysical at h
  obtain ⟨htime, h⟩ := require_bind_eq_ok.mp h
  obtain ⟨baseline, -, h⟩ := bind_eq_ok.mp h
  obtain ⟨deltas, -, h⟩ := bind_eq_ok.mp h
  obtain ⟨required, -, h⟩ := bind_eq_ok.mp h
  obtain ⟨interval, hinterval, h⟩ := bind_eq_ok.mp h
  obtain ⟨⟨physical, output⟩, htransition, h⟩ := bind_eq_ok.mp h
  obtain ⟨pumps, hids, hphysical⟩ := transitionCoupledPumpStation_eq_ok htransition
  rw [OperatingInterval.checked_eq_ok hinterval] at hphysical
  have hclock : s.calendarSeconds < endSeconds := by
    omega
  refine ⟨hclock, ?_⟩
  dsimp only at h
  split_ifs at h
  · obtain ⟨records, backlog, hdistinct, hbacklog, rfl⟩ := generate_eq_ok h
    exact ⟨physical, pumps, _, _, records, backlog, hdistinct, hphysical, hids, hbacklog, rfl⟩
  · obtain rfl := pure_eq_ok.mp h
    exact ⟨physical, pumps, _, _, s.generationRecords, s.backlog, s.backlog_distinct, hphysical,
      hids, .inl rfl, rfl⟩

end Advance

/-! ## The completion of a process -/

section Completion

variable {s state : State} {host : Host} {process : CoupledProcess} {item : BacklogItem}
  {transitionId : String}

/-- Evidence that counts as accepted. -/
def Evidence.Accepted (evidence : Evidence) : Prop :=
  (evidence.acceptedBy.isSome && evidence.health.all (·.accepted)) = true

lemma mem_acceptedEvidenceIds {id : String} :
    id ∈ s.acceptedEvidenceIds ↔ ∃ evidence ∈ s.evidence, evidence.Accepted ∧ evidence.evidenceId = id := by
  simp only [State.acceptedEvidenceIds, List.mem_map, List.mem_filter, Evidence.Accepted, and_assoc]

/-- Evidence that a transition produces is accepted evidence under the identity it is given. -/
lemma producedEvidence_eq_ok {evidenceId pumpId : String} {kind : EvidenceKind}
    {producedBy acceptedBy : Authority} {passed : Option Bool} {evidence : Evidence}
    (h : s.producedEvidence evidenceId kind pumpId producedBy acceptedBy passed = .ok evidence) :
    evidence.evidenceId = evidenceId ∧ evidence.Accepted := by
  unfold State.producedEvidence at h
  dsimp only at h
  split at h
  · unfold acceptedEvidenceRecord at h
    obtain ⟨health, hhealth, hpure⟩ := bind_eq_ok.mp h
    cases pure_eq_ok.mp hpure
    refine ⟨rfl, ?_⟩
    suffices haccepted : health.accepted = true by simp [Evidence.Accepted, haccepted]
    unfold EvidenceHealth.checked at hhealth
    iterate 9 obtain ⟨-, hhealth⟩ := require_bind_eq_ok.mp hhealth
    cases pure_eq_ok.mp hhealth
    rfl
  · cases h

/-- The identity of the evidence that success of a kind of work on a pump leaves. -/
def ProcessKind.successEvidenceId (kind : ProcessKind) (targetId : String) : String :=
  match kind with
  | .obstructionClearance => s!"evidence-{pumpLabel targetId}-clearance-complete-001"
  | .functionalCheck => s!"evidence-{pumpLabel targetId}-functional-check-pass-001"
  | .postMaintenanceVerification => s!"evidence-{targetId}-verification-pass-001"
  | .inspection => s!"evidence-{pumpLabel targetId}-inspection-no-finding-001"

/-- The identity of the evidence that the success of a process leaves. -/
def CoupledProcess.successEvidenceId (process : CoupledProcess) : String :=
  process.kind.successEvidenceId process.targetId

/-- The status of an item whose process has succeeded. -/
def ProcessKind.doneStatus (kind : ProcessKind) : BacklogStatus :=
  if kind = .postMaintenanceVerification then .completed else .closed

/-- Demand that nobody works on yet. -/
structure BacklogItem.Fresh (item : BacklogItem) (now : ℤ) : Prop where
  status : item.status = .planned
  unlinked : item.linkedProcessId = none
  generated : item.generatedAtCalendarSeconds = now

/-- What the completion of a process makes of a state. -/
structure Completion (host : Host) (s : State) (process : CoupledProcess) (transitionId : String)
    (state : State) : Prop where
  processes : state.processes = s.replacedProcess process.completed
  evidence : ∃ evidence : Evidence, evidence.evidenceId = process.successEvidenceId ∧
    evidence.Accepted ∧ state.evidence = s.evidence ++ [evidence]
  backlog : ∃ item ∈ s.backlog, item.itemId = process.backlogItemId ∧ ∃ generated,
    (∀ new ∈ generated, new.Fresh s.calendarSeconds ∧ ∀ old ∈ s.backlog, old.itemId ≠ new.itemId) ∧
    state.backlog = Table.replace BacklogItem.itemId { item with
      status := process.kind.doneStatus
      closureEvidenceIds := [process.successEvidenceId] } (s.backlog ++ generated)
  held : ∃ resources reservations,
    (if process.kind = .obstructionClearance then
      consumeReservation s.resources s.resourceReservations clearanceKit process.processId
        s.calendarSeconds = .ok (resources, reservations)
    else resources = s.resources ∧ reservations = s.resourceReservations) ∧
    releaseReservations resources reservations process.processId s.calendarSeconds =
      .ok (state.resources, state.resourceReservations)
  mode : ∀ p, state.physical.mode p =
    if process.kind = .obstructionClearance ∧ p = process.targetId then some .testOnly
    else s.physical.mode p
  service : state.physical.serviceRunningPumpIds = s.physical.serviceRunningPumpIds.filter fun p =>
    process.kind ≠ .obstructionClearance ∨ p ≠ process.targetId
  test : state.physical.testRunningPumpIds =
    if process.kind = .functionalCheck then [] else s.physical.testRunningPumpIds
  calendarSeconds : state.calendarSeconds = s.calendarSeconds
  commonBoundary : state.physical.commonBoundary = s.physical.commonBoundary
  pumpIds : state.physical.pumps.map PumpState.pumpId = s.physical.pumps.map PumpState.pumpId
  surroundings : state.surroundings = s.surroundings

lemma generate_fresh {demand : GeneratedDemand} (h : s.generate host demand = .ok state) :
    ∃ records generated hdistinct,
      (∀ new ∈ generated, new.Fresh demand.generatedAt ∧
        ∀ old ∈ s.backlog, old.itemId ≠ new.itemId) ∧
      state = { s with
        generationRecords := records
        backlog := s.backlog ++ generated
        backlog_distinct := hdistinct } := by
  obtain ⟨records, backlog, hdistinct, rfl | ⟨hnew, rfl⟩, rfl⟩ := generate_eq_ok h
  · refine ⟨records, [], by simpa using hdistinct, fun new hnew => absurd hnew List.not_mem_nil, ?_⟩
    simp only [List.append_nil]
  · refine ⟨records, _, hdistinct, ?_, rfl⟩
    intro new hmem
    obtain rfl := List.mem_singleton.mp hmem
    exact ⟨⟨rfl, rfl, rfl⟩, hnew⟩

/-- The completion of a process whose kind generates no demand and leaves the pumps alone. -/
lemma completion_of_finishProcess {evidence : Evidence} (physical : PhysicalState)
    (hkind : process.kind ≠ .obstructionClearance) (hitem : item ∈ s.backlog)
    (hid : item.itemId = process.backlogItemId)
    (hevidence : evidence.evidenceId = process.successEvidenceId) (haccepted : evidence.Accepted)
    (hphysical : physical.toPhysicalFields = { s.physical.toPhysicalFields with
      testRunningPumpIds :=
        if process.kind = .functionalCheck then [] else s.physical.testRunningPumpIds })
    (h : finishProcess s s process item process.kind.doneStatus evidence s.restrictions physical
      s.resources s.resourceReservations = .ok state) :
    Completion host s process transitionId state := by
  obtain ⟨resources, reservations, hdistinct, hrelease, rfl⟩ := finishProcess_eq_ok h
  constructor
  · rfl
  · exact ⟨evidence, hevidence, haccepted, rfl⟩
  · refine ⟨item, hitem, hid, [], fun new hnew => absurd hnew List.not_mem_nil, ?_⟩
    rw [List.append_nil, ← hevidence]
  · refine ⟨s.resources, s.resourceReservations, ?_, hrelease⟩
    rw [if_neg hkind]
    exact ⟨rfl, rfl⟩
  · intro p
    rw [if_neg fun hp => hkind hp.1]
    simp only [PhysicalFields.mode, hphysical]
  · rw [hphysical, List.filter_eq_self.mpr]
    intro p _
    simp [hkind]
  · rw [hphysical]
  · simp only [State.calendarSeconds, hphysical]
  · rw [hphysical]
  · rw [hphysical]
  · rfl

/-- **The completion of a clearance**: stock is consumed, the pump is put on test, and a functional
check and a replenishment are demanded. -/
lemma completeClearance_completion (hkind : process.kind = .obstructionClearance)
    (hitem : item ∈ s.backlog) (hid : item.itemId = process.backlogItemId)
    (h : completeClearance host s process item transitionId = .ok state) :
    Completion host s process transitionId state := by
  unfold completeClearance at h
  obtain ⟨⟨resources, reservations⟩, hconsume, h⟩ := bind_eq_ok.mp h
  obtain ⟨pump, -, h⟩ := bind_eq_ok.mp h
  obtain ⟨cleared, -, h⟩ := bind_eq_ok.mp h
  obtain ⟨physical, hphysical, h⟩ := bind_eq_ok.mp h
  obtain ⟨moved, hmoved, h⟩ := bind_eq_ok.mp h
  obtain ⟨evidence, hevidence, h⟩ := bind_eq_ok.mp h
  obtain ⟨first, hfirst, h⟩ := bind_eq_ok.mp h
  obtain ⟨second, hsecond, h⟩ := bind_eq_ok.mp h
  obtain ⟨hevidenceId, haccepted⟩ := producedEvidence_eq_ok hevidence
  obtain ⟨records, checks, hchecks, hfreshChecks, rfl⟩ := generate_fresh hfirst
  obtain ⟨records', kits, hkits, hfreshKits, rfl⟩ := generate_fresh hsecond
  obtain ⟨resources', reservations', hdistinct, hrelease, rfl⟩ := finishProcess_eq_ok h
  have hsuccess : evidence.evidenceId = process.successEvidenceId := by
    rw [hevidenceId, CoupledProcess.successEvidenceId, hkind, ProcessKind.successEvidenceId]
  have hbefore := PhysicalState.make_eq_ok hphysical
  have hafter := (withBoundaryMode_eq_ok hmoved).2
  rw [hbefore] at hafter
  constructor
  · rfl
  · exact ⟨evidence, hsuccess, haccepted, rfl⟩
  · refine ⟨item, hitem, hid, checks ++ kits, ?_, ?_⟩
    · intro new hnew
      rcases List.mem_append.mp hnew with hnew | hnew
      · exact hfreshChecks new hnew
      · obtain ⟨hfresh, hold⟩ := hfreshKits new hnew
        exact ⟨hfresh, fun old hmem => hold old (List.mem_append_left _ hmem)⟩
    · rw [← List.append_assoc, ← hsuccess]
      simp only [ProcessKind.doneStatus, hkind, reduceCtorEq, if_false]
  · refine ⟨resources, reservations, ?_, hrelease⟩
    rw [if_pos hkind]
    exact hconsume
  · intro p
    have hmode := withBoundaryMode_mode hmoved p
    rw [show (physical.mode p) = s.physical.mode p by
      rw [hbefore]; rfl] at hmode
    simp only [hkind, true_and]
    exact hmode
  · rw [hafter]
    simp [hkind]
  · rw [hafter]
    simp [hkind]
  · simp only [State.calendarSeconds, hafter]
  · rw [hafter]
  · rw [hafter]
    rw [List.map_map]
    apply List.map_congr_left
    intro value _
    dsimp only [Function.comp_apply]
    split_ifs <;> rfl
  · rfl

/-- **The completion of a process.** -/
theorem completeProcess_completion (h : completeProcess host s process transitionId = .ok state) :
    Completion host s process transitionId state := by
  unfold completeProcess at h
  obtain ⟨item, hitem, h⟩ := bind_eq_ok.mp h
  obtain ⟨hmem, hid⟩ := backlogItem_eq_ok hitem
  cases hkind : process.kind with
  | obstructionClearance =>
    rw [hkind] at h
    exact completeClearance_completion hkind hmem hid h
  | functionalCheck =>
    rw [hkind] at h
    obtain ⟨physical, hphysical, h⟩ := bind_eq_ok.mp h
    obtain ⟨evidence, hevidence, h⟩ := bind_eq_ok.mp h
    obtain ⟨hevidenceId, haccepted⟩ := producedEvidence_eq_ok hevidence
    refine completion_of_finishProcess physical (by simp [hkind]) hmem hid ?_
      haccepted ?_ (by simpa [ProcessKind.doneStatus, hkind] using h)
    · rw [hevidenceId, CoupledProcess.successEvidenceId, hkind, ProcessKind.successEvidenceId]
    · rw [PhysicalState.make_eq_ok hphysical, if_pos hkind]
  | postMaintenanceVerification | inspection =>
    rw [hkind] at h
    obtain ⟨evidence, hevidence, h⟩ := bind_eq_ok.mp h
    obtain ⟨hevidenceId, haccepted⟩ := producedEvidence_eq_ok hevidence
    refine completion_of_finishProcess s.physical (by simp [hkind]) hmem hid ?_ haccepted ?_
      (by simpa [ProcessKind.doneStatus, hkind] using h)
    · rw [hevidenceId, CoupledProcess.successEvidenceId, hkind, ProcessKind.successEvidenceId]
    · simp [hkind]

end Completion

end AecBench.Worlds.PumpStation
