import AecBench.Worlds.Stewardship.PumpStation.Steps

/-!
# What accepted actions and controls do

Each actor action and each host control, read backwards: what an accepted one has found in the
state before, and the state it returns.

## Main results

* `requestInspection_eq_ok`, `requestProvisionalReturn_eq_ok`, `resumeProcess_eq_ok`,
  `cancelProcess_eq_ok` and their kin — the actions.
* `releaseRunIn_eq_ok`, `releaseIsolation_eq_ok`, `failProcess_eq_ok`,
  `applyCommonBoundaryControl_eq_ok`, `applyTreatment_eq_ok` — the controls.
-/

namespace AecBench.Worlds.PumpStation

open Validation

variable {s state : State} {host : Host} {sequence : ℕ} {requestId targetId : String}

lemma finishTransition_eq_ok {before after : State} {reason : String}
    (h : finishTransition before after sequence requestId reason = .ok state) :
    state = after ∧ 0 ≤ before.calendarSeconds := by
  unfold finishTransition at h
  obtain ⟨-, h⟩ := require_bind_eq_ok.mp h
  obtain ⟨⟨htime, -⟩, h⟩ := require_bind_eq_ok.mp h
  obtain ⟨-, h⟩ := require_bind_eq_ok.mp h
  obtain ⟨-, h⟩ := require_bind_eq_ok.mp h
  exact ⟨(pure_eq_ok.mp h).symm, htime⟩

/-! ## Actions -/

lemma requestDutyAssignment_eq_ok {assignment : List String}
    {sourceOutageId sourceBacklogItemId : Option String}
    (h : requestDutyAssignment s sequence requestId assignment sourceOutageId sourceBacklogItemId =
      .ok state) :
    ∃ record required selected physical pending,
      record.orderedPumpIds = assignment ∧
      s.serviceRequirement s.calendarSeconds = .ok required ∧
      s.selectedServiceRunning (some assignment) required = .ok selected ∧
      physical.toPhysicalFields = { s.physical.toPhysicalFields with
        serviceRunningPumpIds := selected } ∧
      state = { s with
        assignment := record
        physical := physical
        pendingStartPumpIds := pending } := by
  unfold requestDutyAssignment at h
  obtain ⟨-, h⟩ := require_bind_eq_ok.mp h
  obtain ⟨-, h⟩ := require_bind_eq_ok.mp h
  obtain ⟨availabilities, -, h⟩ := bind_eq_ok.mp h
  obtain ⟨-, h⟩ := require_bind_eq_ok.mp h
  obtain ⟨-, h⟩ := require_bind_eq_ok.mp h
  cases sourceBacklogItemId
  -- the source item is only looked at
  case' some id =>
    obtain ⟨item, -, h⟩ := bind_eq_ok.mp h
    obtain ⟨-, h⟩ := require_bind_eq_ok.mp h
  all_goals
    obtain ⟨required, hrequired, h⟩ := bind_eq_ok.mp h
    obtain ⟨selected, hselected, h⟩ := bind_eq_ok.mp h
    obtain ⟨stations, -, h⟩ := bind_eq_ok.mp h
    obtain ⟨-, h⟩ := require_bind_eq_ok.mp h
    obtain ⟨record, hrecord, h⟩ := bind_eq_ok.mp h
    obtain ⟨physical, pending, hphysical, rfl⟩ := withPhysicalRunningSets_eq_ok h
    refine ⟨record, required, selected, physical, pending, ?_, hrequired, hselected, hphysical, rfl⟩
    unfold DutyAssignment.checked at hrecord
    iterate 3 obtain ⟨-, hrecord⟩ := require_bind_eq_ok.mp hrecord
    rw [← pure_eq_ok.mp hrecord]

lemma requireTargetAtRest_eq_ok (h : requireTargetAtRest s targetId = .ok ()) :
    targetId ∉ s.assignment.orderedPumpIds ∧ targetId ∉ s.physical.serviceRunningPumpIds ∧
      targetId ∉ s.physical.testRunningPumpIds :=
  require_eq_ok.mp h

variable {itemId : String}

lemma requestInspection_eq_ok
    (h : requestInspection s sequence requestId targetId itemId = .ok state) :
    targetId ∉ s.assignment.orderedPumpIds ∧ s.physical.mode targetId = some .serviceAvailable ∧
      ∃ physical restrictions,
        s.physical.withBoundaryMode targetId .isolatedForWork requestId = .ok physical ∧
        State.startProcess { s with
          physical := physical
          restrictions := s.restrictions ++ restrictions } sequence .inspection targetId itemId
          28800 ["field-access-slot", "lifting-isolation-set-01", "diagnostic-test-set-01",
            "maintenance-crew-01"] = .ok state := by
  unfold requestInspection at h
  obtain ⟨selected, -, h⟩ := bind_eq_ok.mp h
  obtain ⟨hrest, h⟩ := unit_bind_eq_ok.mp h
  obtain ⟨-, h⟩ := require_bind_eq_ok.mp h
  obtain ⟨boundary, hboundary, h⟩ := bind_eq_ok.mp h
  obtain ⟨hmode, h⟩ := require_bind_eq_ok.mp h
  obtain ⟨physical, hphysical, h⟩ := bind_eq_ok.mp h
  refine ⟨(requireTargetAtRest_eq_ok hrest).1, ?_, physical, _, hphysical, h⟩
  rw [PhysicalFields.mode_of_boundary hboundary, hmode]

lemma requestObstructionClearance_eq_ok {evidenceId : String}
    (h : requestObstructionClearance s sequence targetId evidenceId itemId = .ok state) :
    s.physical.mode targetId = some .isolatedForWork ∧
      s.startProcess sequence .obstructionClearance targetId itemId 14400
        ["field-access-slot", "lifting-isolation-set-01", "maintenance-crew-01", clearanceKit] =
        .ok state := by
  unfold requestObstructionClearance at h
  obtain ⟨selected, -, h⟩ := bind_eq_ok.mp h
  obtain ⟨-, h⟩ := unit_bind_eq_ok.mp h
  obtain ⟨-, h⟩ := require_bind_eq_ok.mp h
  obtain ⟨-, h⟩ := require_bind_eq_ok.mp h
  obtain ⟨-, h⟩ := require_bind_eq_ok.mp h
  obtain ⟨boundary, hboundary, h⟩ := bind_eq_ok.mp h
  obtain ⟨hmode, h⟩ := require_bind_eq_ok.mp h
  refine ⟨?_, h⟩
  rw [PhysicalFields.mode_of_boundary hboundary, hmode]

lemma requestFunctionalCheck_eq_ok
    (h : requestFunctionalCheck s sequence targetId itemId = .ok state) :
    s.physical.mode targetId = some .testOnly ∧ ∃ started physical pending,
      s.startProcess sequence .functionalCheck targetId itemId 3600
        ["field-access-slot", "diagnostic-test-set-01", "maintenance-crew-01"] = .ok started ∧
      physical.toPhysicalFields = { started.physical.toPhysicalFields with
        testRunningPumpIds := [targetId] } ∧
      state = { started with physical := physical, pendingStartPumpIds := pending } := by
  unfold requestFunctionalCheck at h
  obtain ⟨selected, -, h⟩ := bind_eq_ok.mp h
  obtain ⟨-, h⟩ := require_bind_eq_ok.mp h
  obtain ⟨boundary, hboundary, h⟩ := bind_eq_ok.mp h
  obtain ⟨hmode, h⟩ := require_bind_eq_ok.mp h
  obtain ⟨started, hstarted, h⟩ := bind_eq_ok.mp h
  obtain ⟨physical, pending, hphysical, rfl⟩ := withPhysicalRunningSets_eq_ok h
  refine ⟨?_, started, physical, pending, hstarted, hphysical, rfl⟩
  rw [PhysicalFields.mode_of_boundary hboundary, hmode]

lemma requestVerification_eq_ok (h : requestVerification s sequence targetId itemId = .ok state) :
    (s.physical.mode targetId = some .runInService ∨
        s.physical.mode targetId = some .serviceAvailable) ∧
      s.startProcess sequence .postMaintenanceVerification targetId itemId 28800
        ["field-access-slot", "diagnostic-test-set-01", "verification-engineer-01"] =
        .ok state := by
  unfold requestVerification at h
  obtain ⟨selected, -, h⟩ := bind_eq_ok.mp h
  obtain ⟨-, h⟩ := require_bind_eq_ok.mp h
  obtain ⟨boundary, hboundary, h⟩ := bind_eq_ok.mp h
  obtain ⟨hmode, h⟩ := require_bind_eq_ok.mp h
  refine ⟨?_, h⟩
  rw [PhysicalFields.mode_of_boundary hboundary]
  exact hmode.imp (congrArg some) (congrArg some)

lemma requestProvisionalReturn_eq_ok {evidenceId : String}
    (h : requestProvisionalReturn host s sequence requestId targetId evidenceId = .ok state) :
    evidenceId ∈ s.acceptedEvidenceIds ∧
      evidenceId = s!"evidence-{pumpLabel targetId}-functional-check-pass-001" ∧
      s.physical.mode targetId = some .testOnly ∧
      ∃ physical restriction obligation demand,
        s.physical.withBoundaryMode targetId .runInService requestId = .ok physical ∧
        obligation.status ≠ .fulfilled ∧ obligation.createdSequence = sequence ∧
        State.generate host { s with
          physical := physical
          restrictions := s.restrictions ++ [restriction]
          obligations := s.obligations ++ [obligation] } demand = .ok state ∧
        demand.ruleId = "WG-04" ∧ demand.generatedAt = s.calendarSeconds ∧
        obligation.obligationId = s!"obligation-{targetId}-verification-001" := by
  unfold requestProvisionalReturn at h
  obtain ⟨haccepted, h⟩ := require_bind_eq_ok.mp h
  obtain ⟨hid, h⟩ := require_bind_eq_ok.mp h
  obtain ⟨boundary, hboundary, h⟩ := bind_eq_ok.mp h
  obtain ⟨hmode, h⟩ := require_bind_eq_ok.mp h
  obtain ⟨physical, hphysical, h⟩ := bind_eq_ok.mp h
  obtain ⟨pump, -, h⟩ := bind_eq_ok.mp h
  refine ⟨haccepted, hid, ?_, physical, _, _, _, hphysical, ?_, ?_, h, rfl, rfl, rfl⟩
  · rw [PhysicalFields.mode_of_boundary hboundary, hmode]
  · exact nofun
  · rfl

lemma requestConditionCheck_eq_ok (h : requestConditionCheck s sequence targetId = .ok state) :
    ∃ evidence : Evidence, evidence.evidenceId = s!"condition-check-{targetId}-{sequence}" ∧
      evidence.Accepted ∧ state = { s with evidence := s.evidence ++ [evidence] } := by
  unfold requestConditionCheck at h
  obtain ⟨evidence, hevidence, hpure⟩ := bind_eq_ok.mp h
  obtain ⟨hid, haccepted⟩ := producedEvidence_eq_ok hevidence
  exact ⟨evidence, hid, haccepted, (pure_eq_ok.mp hpure).symm⟩

variable {processId : String}

lemma suspendedProcess_eq_ok {failure : Failure} {process : CoupledProcess}
    (h : s.suspendedProcess processId failure = .ok process) :
    process ∈ s.processes ∧ process.processId = processId ∧ process.status = .suspended := by
  unfold State.suspendedProcess at h
  split at h
  · rename_i found hfound
    cases h
    have hmem : process ∈ s.processes.filter fun process =>
        process.processId = processId ∧ process.status = .suspended := by
      rw [hfound]
      exact List.mem_singleton_self _
    simpa using List.mem_filter.mp hmem
  · cases h

/-- A process that is worked on again. -/
def CoupledProcess.resumed (process : CoupledProcess) (now : ℤ) : CoupledProcess :=
  { process with
    status := .active
    dueAtCalendarSeconds := now + process.remainingDurationSeconds }

/-- An item whose process is worked on again. -/
def BacklogItem.unblockedAt (item : BacklogItem) (now : ℤ) : BacklogItem :=
  { item with
    status := .inProgress
    blockedFromStatus := none
    accumulatedBlockedSeconds := item.blockedSeconds now
    blockedSinceCalendarSeconds := none }

/-- An item whose process was cancelled. -/
def BacklogItem.cancelledAt (item : BacklogItem) (now : ℤ) : BacklogItem :=
  { item with
    status := .planned
    blockedFromStatus := none
    accumulatedBlockedSeconds := item.blockedSeconds now
    blockedSinceCalendarSeconds := none
    linkedProcessId := none }

/-- **The resumption of a suspended process.** -/
lemma resumeProcess_eq_ok (h : resumeProcess s processId = .ok state) :
    s.physical.commonBoundary.available = true ∧
      ∃ process ∈ s.processes, process.processId = processId ∧ process.status = .suspended ∧
      s.requireFieldProcessAdmissible process.kind process.targetId
        process.remainingDurationSeconds = .ok () ∧
      ∃ item ∈ s.backlog, item.itemId = process.backlogItemId ∧
      ∃ physical pending resources reservations hdistinct,
        resumeProcessReservations s.resources s.resourceReservations process.processId
          process.targetId process.requiredPoolIds s.calendarSeconds
          process.remainingDurationSeconds = .ok (resources, reservations) ∧
        physical.toPhysicalFields = { s.physical.toPhysicalFields with
          testRunningPumpIds := if process.kind = .functionalCheck then [process.targetId]
            else s.physical.testRunningPumpIds } ∧
        state = { s with
          physical := physical
          pendingStartPumpIds := pending
          resources := resources
          resourceReservations := reservations
          processes := s.replacedProcess (process.resumed s.calendarSeconds)
          backlog :=
            Table.replace BacklogItem.itemId (item.unblockedAt s.calendarSeconds) s.backlog
          backlog_distinct := hdistinct } := by
  unfold resumeProcess at h
  obtain ⟨hboundary, h⟩ := require_bind_eq_ok.mp h
  obtain ⟨process, hprocess, h⟩ := bind_eq_ok.mp h
  obtain ⟨hadmissible, h⟩ := unit_bind_eq_ok.mp h
  obtain ⟨⟨resources, reservations⟩, hresume, h⟩ := bind_eq_ok.mp h
  obtain ⟨item, hitem, h⟩ := bind_eq_ok.mp h
  obtain ⟨replaced, hreplaced, h⟩ := bind_eq_ok.mp h
  obtain ⟨hmem, hid, hstatus⟩ := suspendedProcess_eq_ok hprocess
  obtain ⟨hitemMem, hitemId⟩ := backlogItem_eq_ok hitem
  obtain ⟨hdistinct, rfl⟩ := replaceBacklogItem_eq_ok hreplaced
  refine ⟨hboundary, process, hmem, hid, hstatus, hadmissible, item, hitemMem, hitemId, ?_⟩
  split_ifs at h with hkind
  · obtain ⟨physical, pending, hphysical, rfl⟩ := withPhysicalRunningSets_eq_ok h
    refine ⟨physical, pending, resources, reservations, hdistinct, hresume, ?_, rfl⟩
    rw [if_pos hkind]
    exact hphysical
  · obtain rfl := pure_eq_ok.mp h
    refine ⟨s.physical, s.pendingStartPumpIds, resources, reservations, hdistinct, hresume, ?_, rfl⟩
    rw [if_neg hkind]

/-- **The cancellation of a suspended process.** -/
lemma cancelProcess_eq_ok (h : cancelProcess s processId = .ok state) :
    ∃ process ∈ s.processes, process.processId = processId ∧ process.status = .suspended ∧
      ∃ item ∈ s.backlog, item.itemId = process.backlogItemId ∧
      ∃ resources reservations hdistinct,
        cancelProcessReservations s.resources s.resourceReservations process.processId
          s.calendarSeconds = .ok (resources, reservations) ∧
        state = { s with
          resources := resources
          resourceReservations := reservations
          processes := s.replacedProcess { process with status := .cancelled }
          backlog :=
            Table.replace BacklogItem.itemId (item.cancelledAt s.calendarSeconds) s.backlog
          backlog_distinct := hdistinct } := by
  unfold cancelProcess at h
  obtain ⟨process, hprocess, h⟩ := bind_eq_ok.mp h
  obtain ⟨⟨resources, reservations⟩, hcancel, h⟩ := bind_eq_ok.mp h
  obtain ⟨item, hitem, h⟩ := bind_eq_ok.mp h
  obtain ⟨replaced, hreplaced, h⟩ := bind_eq_ok.mp h
  obtain ⟨hmem, hid, hstatus⟩ := suspendedProcess_eq_ok hprocess
  obtain ⟨hitemMem, hitemId⟩ := backlogItem_eq_ok hitem
  obtain ⟨hdistinct, rfl⟩ := replaceBacklogItem_eq_ok hreplaced
  exact ⟨process, hmem, hid, hstatus, item, hitemMem, hitemId, resources, reservations, hdistinct,
    hcancel, (pure_eq_ok.mp h).symm⟩

/-! ## Controls -/

variable {request : OperationsBoundaryReviewRequest}

/-- **The release of a pump's run-in.** -/
lemma releaseRunIn_eq_ok {contentId : String} (h : releaseRunIn s request contentId = .ok state) :
    s.physical.mode request.pumpId = some .runInService ∧
      ∃ physical, s.physical.withBoundaryMode request.pumpId .serviceAvailable contentId =
          .ok physical ∧
      ∃ item ∈ s.backlog, item.targetId = request.pumpId ∧ item.status = .completed ∧
        item.workType = "post_maintenance_verification" ∧
      ∃ restrictions obligationId hdistinct,
        state = { s with
          physical := physical
          restrictions := restrictions
          obligations := s.obligations.map fun value =>
            if value.obligationId = obligationId then
              { value with status := .fulfilled, evidenceId := some request.acceptedEvidenceId }
            else value
          outageEpisodes := if request.pumpId = "pump-b" then
              s.outageEpisodes.map fun episode =>
                if episode.episodeId = "outage-b-001" then
                  { episode with status := "closed", closingTransitionId := some request.reviewId }
                else episode
            else s.outageEpisodes
          backlog :=
            Table.replace BacklogItem.itemId { item with status := .closed } s.backlog
          backlog_distinct := hdistinct } := by
  unfold releaseRunIn at h
  obtain ⟨boundary, hboundary, h⟩ := bind_eq_ok.mp h
  obtain ⟨⟨hmode, -⟩, h⟩ := require_bind_eq_ok.mp h
  obtain ⟨physical, hphysical, h⟩ := bind_eq_ok.mp h
  dsimp only at h
  split at h
  · rename_i item hitem
    obtain ⟨replaced, hreplaced, h⟩ := bind_eq_ok.mp h
    obtain ⟨hdistinct, rfl⟩ := replaceBacklogItem_eq_ok hreplaced
    have hmem : item ∈ s.backlog.filter fun item => item.targetId = request.pumpId ∧
        item.workType = "post_maintenance_verification" ∧ item.status = .completed := by
      rw [hitem]
      exact List.mem_singleton_self _
    obtain ⟨hin, hcolumns⟩ := List.mem_filter.mp hmem
    simp only [decide_eq_true_eq] at hcolumns
    refine ⟨?_, physical, hphysical, item, hin, hcolumns.1, hcolumns.2.2, hcolumns.2.1, _, _,
      hdistinct, (pure_eq_ok.mp h).symm⟩
    rw [PhysicalFields.mode_of_boundary hboundary, hmode]
  · cases h

/-- **The release of a pump's isolation.** -/
lemma releaseIsolation_eq_ok {contentId : String}
    (h : releaseIsolation s request contentId = .ok state) :
    s.physical.mode request.pumpId = some .isolatedForWork ∧
      ∃ physical restrictions,
        s.physical.withBoundaryMode request.pumpId .serviceAvailable contentId = .ok physical ∧
        state = { s with physical := physical, restrictions := restrictions } := by
  unfold releaseIsolation at h
  obtain ⟨boundary, hboundary, h⟩ := bind_eq_ok.mp h
  obtain ⟨hmode, h⟩ := require_bind_eq_ok.mp h
  obtain ⟨-, h⟩ := require_bind_eq_ok.mp h
  obtain ⟨physical, hphysical, h⟩ := bind_eq_ok.mp h
  refine ⟨?_, physical, _, hphysical, (pure_eq_ok.mp h).symm⟩
  rw [PhysicalFields.mode_of_boundary hboundary, hmode]

/-- An accepted review releases a run-in or an isolation, on the evidence that its kind names. -/
lemma applyOperationsBoundaryReview_eq_ok
    (h : applyOperationsBoundaryReview host s request sequence = .ok state) :
    request.acceptedEvidenceId ∈ s.acceptedEvidenceIds ∧
      (request.acceptedEvidenceId = s!"evidence-{request.pumpId}-verification-pass-001" ∧
          releaseRunIn s request (host.contentId (.review request)) = .ok state ∨
        request.acceptedEvidenceId =
            s!"evidence-{pumpLabel request.pumpId}-inspection-no-finding-001" ∧
          releaseIsolation s request (host.contentId (.review request)) = .ok state) := by
  unfold applyOperationsBoundaryReview at h
  obtain ⟨-, h⟩ := require_bind_eq_ok.mp h
  obtain ⟨-, h⟩ := require_bind_eq_ok.mp h
  obtain ⟨haccepted, h⟩ := require_bind_eq_ok.mp h
  obtain ⟨hbinding, h⟩ := require_bind_eq_ok.mp h
  obtain ⟨-, h⟩ := require_bind_eq_ok.mp h
  refine ⟨haccepted, ?_⟩
  by_cases hverification : request.reviewKind = "post_verification_restriction"
  · rw [if_pos hverification] at h hbinding
    obtain ⟨updated, hupdated, h⟩ := bind_eq_ok.mp h
    obtain ⟨rfl, -⟩ := finishTransition_eq_ok h
    exact .inl ⟨hbinding _ rfl, hupdated⟩
  · rw [if_neg hverification] at h hbinding
    by_cases hinspection : request.reviewKind = "post_inspection_isolation"
    · rw [if_pos hinspection] at h hbinding
      obtain ⟨updated, hupdated, h⟩ := bind_eq_ok.mp h
      obtain ⟨rfl, -⟩ := finishTransition_eq_ok h
      exact .inr ⟨hbinding _ rfl, hupdated⟩
    · rw [if_neg hinspection] at h
      obtain ⟨boundary, -, h⟩ := bind_eq_ok.mp h
      cases h

lemma applyTreatment_eq_ok {request : CoupledTreatmentRequest}
    (h : applyTreatment host s request sequence = .ok state) :
    ∃ physical pumps, pumps.map PumpState.pumpId = s.physical.pumps.map PumpState.pumpId ∧
      pumps.map PumpState.exposure = s.physical.pumps.map PumpState.exposure ∧
      physical.toPhysicalFields = { s.physical.toPhysicalFields with pumps := pumps } ∧
      state = { s with
        physical := physical
        eventEffectIds := s.eventEffectIds ++ [host.contentId (.treatment request)] } := by
  unfold applyTreatment at h
  iterate 5 obtain ⟨-, h⟩ := require_bind_eq_ok.mp h
  obtain ⟨pumps, hpumps, h⟩ := bind_eq_ok.mp h
  obtain ⟨physical, hphysical, h⟩ := bind_eq_ok.mp h
  obtain ⟨rfl, -⟩ := finishTransition_eq_ok h
  have htreated : ∀ pump treated, treatPump host request pump = .ok treated →
      treated.pumpId = pump.pumpId ∧ treated.exposure = pump.exposure := by
    intro pump treated htreat
    unfold treatPump at htreat
    split_ifs at htreat
    · obtain ⟨-, htreat⟩ := require_bind_eq_ok.mp htreat
      obtain ⟨condition, -, htreat⟩ := bind_eq_ok.mp htreat
      cases pure_eq_ok.mp htreat
      exact ⟨rfl, rfl⟩
    · cases pure_eq_ok.mp htreat
      exact ⟨rfl, rfl⟩
  exact ⟨physical, pumps, map_of_mapM (fun pump treated ht => (htreated pump treated ht).1) hpumps,
    map_of_mapM (fun pump treated ht => (htreated pump treated ht).2) hpumps,
    PhysicalState.make_eq_ok hphysical, rfl⟩

/-- An item whose process has failed. -/
def BacklogItem.failedWith (item : BacklogItem) (evidenceId : String) : BacklogItem :=
  { item with
    status := .planned
    linkedProcessId := none
    closureEvidenceIds := item.closureEvidenceIds ++ [evidenceId] }

/-- **The failure of an active process.** -/
lemma failProcess_eq_ok {request : ProcessOutcomeRequest} {process : CoupledProcess}
    (h : failProcess host s request process = .ok state) :
    ∃ item ∈ s.backlog, item.itemId = process.backlogItemId ∧
      ∃ evidence : Evidence, evidence.evidenceId = request.evidenceId ∧
      ∃ physical resources reservations records generated hdistinct,
        (∀ new ∈ generated, new.Fresh s.calendarSeconds ∧
          ∀ old ∈ s.backlog, old.itemId ≠ new.itemId) ∧
        releaseReservations s.resources s.resourceReservations process.processId
          s.calendarSeconds = .ok (resources, reservations) ∧
        physical.toPhysicalFields = { s.physical.toPhysicalFields with
          testRunningPumpIds := s.physical.testRunningPumpIds.filter (· ≠ process.targetId) } ∧
        state = { s with
          physical := physical
          resources := resources
          resourceReservations := reservations
          processes := s.replacedProcess { process with status := .failed }
          evidence := s.evidence ++ [evidence]
          generationRecords := records
          backlog := Table.replace BacklogItem.itemId (item.failedWith request.evidenceId)
            s.backlog ++ generated
          backlog_distinct := hdistinct } := by
  unfold failProcess at h
  obtain ⟨⟨resources, reservations⟩, hrelease, h⟩ := bind_eq_ok.mp h
  obtain ⟨item, hitem, h⟩ := bind_eq_ok.mp h
  obtain ⟨physical, hphysical, h⟩ := bind_eq_ok.mp h
  obtain ⟨replaced, hreplaced, h⟩ := bind_eq_ok.mp h
  obtain ⟨evidence, hevidence, h⟩ := bind_eq_ok.mp h
  obtain ⟨hmem, hid⟩ := backlogItem_eq_ok hitem
  obtain ⟨hdistinct, rfl⟩ := replaceBacklogItem_eq_ok hreplaced
  obtain ⟨hevidenceId, -⟩ := producedEvidence_eq_ok hevidence
  have hmake := PhysicalState.make_eq_ok hphysical
  refine ⟨item, hmem, hid, evidence, hevidenceId, physical, resources, reservations, ?_⟩
  split_ifs at h with hkind
  · obtain ⟨pump, -, h⟩ := bind_eq_ok.mp h
    obtain ⟨records, generated, hdistinct', hfresh, rfl⟩ := generate_fresh h
    refine ⟨records, generated, hdistinct', ?_, hrelease, hmake, rfl⟩
    intro new hnew
    obtain ⟨hisFresh, hothers⟩ := hfresh new hnew
    refine ⟨hisFresh, fun old hold => ?_⟩
    have hkeys : old.itemId ∈ (Table.replace BacklogItem.itemId (item.failedWith request.evidenceId)
        s.backlog).map (·.itemId) := by
      rw [Table.map_key_replace]
      exact List.mem_map_of_mem hold
    obtain ⟨other, hother, heq⟩ := List.mem_map.mp hkeys
    rw [← heq]
    exact hothers other hother
  · obtain rfl := pure_eq_ok.mp h
    refine ⟨s.generationRecords, [], by simpa using hdistinct,
      fun new hnew => absurd hnew List.not_mem_nil, hrelease, hmake, ?_⟩
    simp only [List.append_nil, BacklogItem.failedWith]

lemma applyProcessOutcome_eq_ok {request : ProcessOutcomeRequest}
    (h : applyProcessOutcome host s request sequence = .ok state) :
    ∃ process ∈ s.processes, process.processId = request.processId ∧ process.status = .active ∧
      failProcess host s request process = .ok state := by
  unfold applyProcessOutcome at h
  obtain ⟨-, h⟩ := require_bind_eq_ok.mp h
  obtain ⟨-, h⟩ := require_bind_eq_ok.mp h
  split at h
  · rename_i process hprocess
    obtain ⟨-, h⟩ := require_bind_eq_ok.mp h
    obtain ⟨updated, hupdated, h⟩ := bind_eq_ok.mp h
    obtain ⟨rfl, -⟩ := finishTransition_eq_ok h
    have hmem : process ∈ s.processes.filter fun process =>
        process.processId = request.processId ∧ process.status = .active := by
      rw [hprocess]
      exact List.mem_singleton_self _
    obtain ⟨hin, hcolumns⟩ := List.mem_filter.mp hmem
    simp only [decide_eq_true_eq] at hcolumns
    exact ⟨process, hin, hcolumns.1, hcolumns.2, hupdated⟩
  · cases h

/-- **The common boundary**: when it is lost, active work is suspended and every pump stops. -/
lemma applyCommonBoundaryControl_eq_ok {request : CommonBoundaryRequest}
    (h : applyCommonBoundaryControl host s request sequence = .ok state) :
    ∃ suspended boundary physical assignment effects,
      (if request.available then suspended = s
        else s.suspendProcesses s.processes = .ok suspended) ∧
      (if request.available then
        suspended.physical.commonBoundary.available = true → boundary.available = true
        else boundary.available = false) ∧
      physical.toPhysicalFields = { suspended.physical.toPhysicalFields with
        commonBoundary := boundary
        serviceRunningPumpIds :=
          if request.available then suspended.physical.serviceRunningPumpIds else []
        testRunningPumpIds :=
          if request.available then suspended.physical.testRunningPumpIds else [] } ∧
      (if request.available then assignment = suspended.assignment
        else assignment.active = false ∧
          assignment.orderedPumpIds = suspended.assignment.orderedPumpIds) ∧
      state = { suspended with
        physical := physical
        assignment := assignment
        eventEffectIds := effects } := by
  unfold applyCommonBoundaryControl at h
  obtain ⟨-, h⟩ := require_bind_eq_ok.mp h
  obtain ⟨-, h⟩ := require_bind_eq_ok.mp h
  obtain ⟨hkind, h⟩ := require_bind_eq_ok.mp h
  cases havailable : request.available
  all_goals
    simp only [havailable, if_true, Bool.false_eq_true, if_false] at h ⊢
    obtain ⟨suspended, hsuspended, h⟩ := bind_eq_ok.mp h
    obtain ⟨physical, hphysical, h⟩ := bind_eq_ok.mp h
    obtain ⟨rfl, -⟩ := finishTransition_eq_ok h
    have hmake := PhysicalState.make_eq_ok hphysical
  case' false =>
    refine ⟨suspended, _, physical, _, _, hsuspended, ?_, hmake, ?_, rfl⟩
    · rcases hkind with hpower | hdischarge
      · simp [BoundaryAvailability.available, hpower]
      · simp [BoundaryAvailability.available, hdischarge]
    · exact ⟨rfl, rfl⟩
  case' true =>
    refine ⟨suspended, _, physical, _, _, (pure_eq_ok.mp hsuspended).symm, ?_, hmake, rfl, rfl⟩
    intro hbefore
    simp only [BoundaryAvailability.available, Bool.and_eq_true] at hbefore ⊢
    exact ⟨by split_ifs <;> simp [hbefore], by split_ifs <;> simp [hbefore]⟩

end AecBench.Worlds.PumpStation
