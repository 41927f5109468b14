import AecBench.Worlds.Stewardship.PumpStation.Processes

/-!
# Planned outages

Work on a pump is admitted when the other pumps cover the declared service up to its completion,
and while the pump does not serve itself. What was admitted stays covered: pumps that turn
available only add to the cover. That the pump does not serve lasts as long as no duty assignment
and no service boundary selects it.

## Main definitions

* `PhysicalFields.assuredOthers` — the other pumps that are assured for outage planning.
* `OutageCovered` — the cover of one process, and `OutagesCovered`, of all that are active.
* `KeepsOutages` — the events that put no pump under work into service.

## Main results

* `plannedOutageAdmissible_spec` — what the admission of an outage says.
* `outages_covered` — in a run of such events every outage is covered.
-/

namespace AecBench.Worlds.PumpStation

open Validation

/-! ## The admission of an outage -/

namespace PhysicalFields

variable {s t : PhysicalFields} {pumpId targetId : String}

/-- The pump is assured for outage planning. -/
def assured (s : PhysicalFields) (pumpId : String) : Bool :=
  s.commonBoundary.available && decide (s.mode pumpId = some .serviceAvailable)

/-- The pump may serve. -/
def runEligible (s : PhysicalFields) (pumpId : String) : Bool :=
  s.commonBoundary.available && (decide (s.mode pumpId = some .runInService) ||
    decide (s.mode pumpId = some .serviceAvailable))

/-- The number of pumps besides the target that are assured for outage planning. -/
def assuredOthers (s : PhysicalFields) (targetId : String) : ℕ :=
  ((s.pumps.map (·.pumpId)).filter (· ≠ targetId)).countP s.assured

lemma availability_eq_ok {availability : PumpAvailability}
    (h : s.availability pumpId = .ok availability) :
    availability.runEligible = s.runEligible pumpId ∧
      availability.assuredForOutagePlanning = s.assured pumpId := by
  unfold PhysicalFields.availability at h
  obtain ⟨boundary, hboundary, h⟩ := bind_eq_ok.mp h
  obtain rfl := pure_eq_ok.mp h
  rw [runEligible, assured, mode_of_boundary hboundary]
  simp [pumpAvailabilityForBoundary]

lemma assuredOthers_le (hpumps : t.pumps.map (·.pumpId) = s.pumps.map (·.pumpId))
    (h : ∀ p ≠ targetId, s.assured p = true → t.assured p = true) :
    s.assuredOthers targetId ≤ t.assuredOthers targetId := by
  unfold assuredOthers
  rw [hpumps]
  refine List.countP_mono_left fun p hp => h p ?_
  simpa using (List.mem_filter.mp hp).2

end PhysicalFields

/-- A stretch of requirements without a gap covers every time in it, and none asks for more than
what is assured. -/
lemma coveredThrough_spec {completion cursor last : ℤ} {assured : ℕ}
    {rows : List ServiceRequirement}
    (h : coveredThrough completion assured cursor rows = some last) :
    (∀ r ∈ rows, r.requiredServiceScu ≤ assured) ∧ ∀ t, cursor ≤ t → t < last →
      ∃ r ∈ rows, r.startCalendarSeconds ≤ t ∧ t < r.endCalendarSeconds := by
  induction rows generalizing cursor with
  | nil =>
    obtain rfl := Option.some.inj h
    refine ⟨fun r hr => absurd hr List.not_mem_nil, fun t hfirst hlast => ?_⟩
    omega
  | cons r rows ih =>
    unfold coveredThrough at h
    split_ifs at h with hgap
    obtain ⟨hstart, hneed⟩ := not_or.mp hgap
    obtain ⟨hrest, hcover⟩ := ih h
    constructor
    · intro r' hr'
      rcases List.mem_cons.mp hr' with rfl | hr'
      · omega
      · exact hrest r' hr'
    · intro t hfirst hlast
      by_cases ht : t < max cursor (min r.endCalendarSeconds completion)
      · exact ⟨r, List.mem_cons_self, by omega, by omega⟩
      · obtain ⟨r', hr', hcovers⟩ := hcover t (by omega) hlast
        exact ⟨r', List.mem_cons_of_mem _ hr', hcovers⟩

variable {targetId : String}

/-- **An outage that is admitted**: the target does not serve, every time up to the completion has
a requirement, and none of them asks for more than the other pumps assure. -/
theorem plannedOutageAdmissible_spec {state : PhysicalState} {first completion disclosed : ℤ}
    {schedule : List ServiceRequirement}
    (h : plannedOutageAdmissible state targetId first completion schedule disclosed = .ok true) :
    targetId ∉ state.serviceRunningPumpIds ∧ targetId ∉ state.testRunningPumpIds ∧
      (∀ r ∈ schedule, r.startCalendarSeconds < completion → first < r.endCalendarSeconds →
        r.requiredServiceScu ≤ state.assuredOthers targetId) ∧
      ∀ t, first ≤ t → t < completion →
        ∃ r ∈ schedule, r.startCalendarSeconds ≤ t ∧ t < r.endCalendarSeconds := by
  unfold plannedOutageAdmissible at h
  split_ifs at h with hdisclosed hrunning
  · cases h
  · cases h
  · obtain ⟨hservice, htest⟩ := not_or.mp hrunning
    obtain ⟨availabilities, havailabilities, h⟩ := bind_eq_ok.mp h
    have hcount : availabilities.countP (·.assuredForOutagePlanning) =
        state.assuredOthers targetId := by
      have hcolumns := map_of_mapM
        (g := fun pump : PumpState => state.assured pump.pumpId)
        (k := PumpAvailability.assuredForOutagePlanning)
        (fun pump availability hpump => (PhysicalFields.availability_eq_ok hpump).2)
        havailabilities
      have hcountP := congrArg (List.countP id) hcolumns
      rw [List.countP_map, List.countP_map] at hcountP
      rw [PhysicalFields.assuredOthers, List.filter_map, List.countP_map]
      exact hcountP
    dsimp only at h
    rw [hcount] at h
    split at h
    · cases h
    · cases h
    · rename_i last hlast _
      have hend : completion ≤ last := by
        have hdecide := pure_eq_ok.mp h
        simpa using hdecide
      obtain ⟨hneeds, hcover⟩ := coveredThrough_spec hlast
      refine ⟨hservice, htest, fun r hr hbefore hafter => ?_, fun t hfirst ht => ?_⟩
      · refine hneeds r ?_
        rw [List.mem_insertionSort, List.mem_filter]
        exact ⟨hr, by simpa using ⟨hbefore, hafter⟩⟩
      · obtain ⟨r, hr, hcovers⟩ := hcover t hfirst (by omega)
        rw [List.mem_insertionSort, List.mem_filter] at hr
        exact ⟨r, hr.1, hcovers⟩

/-! ## The pumps selected for service -/

/-- The pumps of an assignment that may serve, as many as are required. -/
def PhysicalFields.served (s : PhysicalFields) (ids : List String) (required : ℕ) : List String :=
  (ids.filter s.runEligible).take required

section Selected

variable {s state : State} {host : Host} {model : CoupledModel} {schedule : EventSchedule} {n : ℕ}

lemma selectedServiceRunning_eq {assignment : Option (List String)} {required : ℕ}
    {selected : List String} (h : s.selectedServiceRunning assignment required = .ok selected) :
    selected = if assignment = none ∧ s.assignment.active = false then []
      else s.physical.served (assignment.getD s.assignment.orderedPumpIds) required := by
  unfold State.selectedServiceRunning at h
  split_ifs at h ⊢
  · exact (pure_eq_ok.mp h).symm
  · obtain ⟨rows, hrows, h⟩ := bind_eq_ok.mp h
    obtain rfl := pure_eq_ok.mp h
    have hmap : rows.map id = (assignment.getD s.assignment.orderedPumpIds).map
        fun p => (p, s.physical.runEligible p) := by
      refine map_of_mapM (fun p row hrow => ?_) hrows
      obtain ⟨availability, havailability, hpure⟩ := bind_eq_ok.mp hrow
      obtain rfl := pure_eq_ok.mp hpure
      rw [id, (PhysicalFields.availability_eq_ok havailability).1]
    rw [List.map_id] at hmap
    rw [hmap, List.filter_map, List.map_map, PhysicalFields.served]
    simp [Function.comp_def]

/-- The pump is the target of a clearance that is due. -/
def State.clearedAt (s : State) (time : ℤ) (pumpId : String) : Prop :=
  ∃ q ∈ s.processes, q.status = .active ∧ q.kind = .obstructionClearance ∧
    q.dueAtCalendarSeconds = time ∧ q.targetId = pumpId

instance (s : State) (time : ℤ) (pumpId : String) : Decidable (s.clearedAt time pumpId) :=
  inferInstanceAs (Decidable (∃ q ∈ s.processes, _))

/-- The number of pumps besides the target that are assured once the clearances that are due have
put their pumps on test. -/
def State.assuredAfter (s : State) (time : ℤ) (targetId : String) : ℕ :=
  ((s.physical.pumps.map (·.pumpId)).filter (· ≠ targetId)).countP fun p =>
    s.physical.assured p && !decide (s.clearedAt time p)

/-- What an operation that continues leaves of the work: the station is at its next event, and
nothing is active there, or no window closes and the active work is what is not due yet. -/
structure Continued (schedule : EventSchedule) (s state : State) (time : ℤ) : Prop where
  next : s.nextEventTime schedule = .ok time
  clock : state.calendarSeconds = time
  later : s.calendarSeconds < time
  schedules : state.serviceSchedule = s.serviceSchedule
  common : state.physical.commonBoundary = s.physical.commonBoundary
  pumps : state.physical.pumps.map (·.pumpId) = s.physical.pumps.map (·.pumpId)
  active : (∀ q ∈ state.processes, q.status ≠ .active) ∨
    (∀ windows, s.resourceWindows = .ok windows → ∀ w ∈ windows, w.endCalendarSeconds ≠ time) ∧
    (∀ q ∈ state.processes, q.status = .active → q ∈ s.processes ∧ q.dueAtCalendarSeconds ≠ time)
  mode : ∀ p, s.physical.mode p = some .serviceAvailable → ¬ s.clearedAt time p →
    state.physical.mode p = some .serviceAvailable
  service : ∀ p ∈ state.physical.serviceRunningPumpIds, p ∈ s.physical.serviceRunningPumpIds ∨
    s.assignment.active = true ∧ ∃ r,
      s.serviceSchedule.find? (·.startCalendarSeconds = time) = some r ∧
      p ∈ s.physical.served s.assignment.orderedPumpIds r.requiredServiceScu

lemma served_congr {a b : PhysicalState} (hboundaries : a.pumpBoundaries = b.pumpBoundaries)
    (hcommon : a.commonBoundary = b.commonBoundary) (ids : List String) (required : ℕ) :
    a.served ids required = b.served ids required := by
  have heligible : a.runEligible = b.runEligible := by
    funext p
    rw [PhysicalFields.runEligible, PhysicalFields.runEligible, mode_congr hboundaries, hcommon]
  simp only [PhysicalFields.served, heligible]

/-- The closing and opening of windows leave the service alone, and leave no active work behind
when a window closes. -/
lemma windows_spec {closed opened : State} {windows : List AvailabilityInterval} {time : ℤ}
    {closeIds openIds : List String} (hkeyed : s.KeyedProcesses)
    (hclose : closeWindows s windows time = .ok (closed, closeIds))
    (hopen : openWindows closed windows time = .ok (opened, openIds)) :
    opened.KeyedProcesses ∧ opened.surroundings = s.surroundings ∧
      opened.physical.toPhysicalFields = { s.physical.toPhysicalFields with
        testRunningPumpIds := opened.physical.testRunningPumpIds } ∧
      (opened.processes = s.processes ∧ (∀ w ∈ windows, w.endCalendarSeconds ≠ time) ∨
        ∀ q ∈ opened.processes, q.status ≠ .active) := by
  have hopened : opened.processes = closed.processes ∧ opened.physical = closed.physical ∧
      opened.surroundings = closed.surroundings := by
    rcases openWindows_eq_ok hopen with ⟨-, rfl⟩ | ⟨-, havailable⟩
    · exact ⟨rfl, rfl, rfl⟩
    · obtain ⟨updated, rfl, -⟩ := setReusableAvailability_spec havailable
      exact ⟨rfl, rfl, rfl⟩
  obtain ⟨hprocesses, hphysical, hsurroundings⟩ := hopened
  unfold State.KeyedProcesses
  rw [hprocesses, hphysical, hsurroundings]
  rcases closeWindows_eq_ok hclose with ⟨hnone, rfl⟩ | ⟨-, suspended, hsuspend, hwithdraw⟩
  · exact ⟨hkeyed, rfl, rfl, .inl ⟨rfl, hnone⟩⟩
  · have hsuspension := suspendProcesses_suspension hkeyed hsuspend
    obtain ⟨updated, rfl, -⟩ := setReusableAvailability_spec hwithdraw
    refine ⟨?_, hsuspension.surroundings, ?_, .inr fun q hq => ?_⟩
    · unfold Table.Keyed
      rw [show List.map CoupledProcess.processId _ = s.processes.map CoupledProcess.processId from ?_]
      · exact hkeyed
      · rw [hsuspension.processes, List.map_map]
        apply List.map_congr_left
        intro q _
        simp only [Function.comp_apply]
        split_ifs <;> simp
    · dsimp only
      rw [hsuspension.physical]
    · exact hsuspension.no_active q hq

/-- The start of a requirement selects the pumps that serve, and changes nothing else. -/
lemma startRequirement_spec {started : State} {time : ℤ} {ids : List String}
    (h : startRequirement s time = .ok (started, ids)) :
    started.processes = s.processes ∧ started.serviceSchedule = s.serviceSchedule ∧
      started.calendarSeconds = s.calendarSeconds ∧
      started.physical.toPhysicalFields = { s.physical.toPhysicalFields with
        serviceRunningPumpIds := started.physical.serviceRunningPumpIds } ∧
      ∀ p ∈ started.physical.serviceRunningPumpIds, p ∈ s.physical.serviceRunningPumpIds ∨
        s.assignment.active = true ∧ ∃ r,
          s.serviceSchedule.find? (·.startCalendarSeconds = time) = some r ∧
          p ∈ s.physical.served s.assignment.orderedPumpIds r.requiredServiceScu := by
  rcases startRequirement_eq_ok h with rfl |
    ⟨r, hr, service, physical, pending, hservice, hphysical, rfl⟩
  · exact ⟨rfl, rfl, rfl, rfl, fun p hp => .inl hp⟩
  · refine ⟨rfl, rfl, ?_, ?_, fun p hp => ?_⟩
    · rw [State.calendarSeconds, State.calendarSeconds, hphysical]
    · dsimp only
      rw [hphysical]
    · right
      have hmem : p ∈ service := by
        have hrunning : p ∈ physical.serviceRunningPumpIds := hp
        rw [hphysical] at hrunning
        exact hrunning
      rw [selectedServiceRunning_eq hservice] at hmem
      split_ifs at hmem with hinactive
      · exact absurd hmem List.not_mem_nil
      · exact ⟨by simpa using hinactive, r, hr, hmem⟩

/-- **An operation that continues**, as far as planned outages are concerned. -/
lemma continueOperation_continued {requestId : String} (hkeyed : s.KeyedProcesses)
    (h : continueOperation host model schedule s n requestId = .ok state) :
    ∃ time, Continued schedule s state time := by
  obtain ⟨time, advanced, hnext, hadvance, heffects⟩ := continueOperation_eq_ok h
  obtain ⟨windows, closed, opened, started, closeIds, openIds, requirementIds, effects, hwindows,
    hclose, hopen, hstart, hdue⟩ := applyEventEffects_eq_ok heffects
  have hadvanced := advancePhysical_advanced hadvance
  obtain ⟨pumps, hpumps, hphysical⟩ := hadvanced.physical
  have hkeyedAdvanced : advanced.KeyedProcesses := by
    unfold State.KeyedProcesses
    rw [hadvanced.processes]
    exact hkeyed
  obtain ⟨hkeyedOpened, hsurroundings, hopened, hactive⟩ :=
    windows_spec hkeyedAdvanced hclose hopen
  obtain ⟨hprocesses, hschedule, hclock, hstarted, hservice⟩ := startRequirement_spec hstart
  have hkeyedStarted : State.KeyedProcesses { started with eventEffectIds := effects } := by
    unfold State.KeyedProcesses
    rw [hprocesses]
    exact hkeyedOpened
  have hcompletions := completions_of_foldlM hkeyedStarted List.filter_sublist hdue
  have hassignment : opened.assignment = s.assignment :=
    (congrArg Surroundings.assignment hsurroundings).trans hadvanced.assignment
  have hschedules : opened.serviceSchedule = s.serviceSchedule :=
    (congrArg Surroundings.serviceSchedule hsurroundings).trans hadvanced.serviceSchedule
  have hboundaries : opened.physical.pumpBoundaries = s.physical.pumpBoundaries := by
    rw [hopened, hphysical]
  have hcommon : opened.physical.commonBoundary = s.physical.commonBoundary := by
    rw [hopened, hphysical]
  have hmode : ∀ p, started.physical.mode p = s.physical.mode p :=
    mode_congr (by rw [hstarted]; exact hboundaries)
  -- the active work is what is not due yet
  have hremaining : ∀ q ∈ state.processes, q.status = .active →
      q ∈ started.processes ∧ q.dueAtCalendarSeconds ≠ time := by
    intro q hq hstatus
    rw [hcompletions.processes] at hq
    obtain ⟨q₀, hq₀, rfl⟩ := List.mem_map.mp hq
    by_cases hmem : q₀.processId ∈ (started.processes.filter fun process =>
        process.status = .active ∧ process.dueAtCalendarSeconds = time).map (·.processId)
    · rw [if_pos hmem] at hstatus
      cases hstatus
    · rw [if_neg hmem] at hstatus ⊢
      refine ⟨hq₀, fun htime => hmem (List.mem_map_of_mem ?_)⟩
      rw [List.mem_filter]
      exact ⟨hq₀, by simp [hstatus, htime]⟩
  refine ⟨time, hnext, ?_, hadvanced.later, ?_, ?_, ?_, ?_, ?_, ?_⟩
  · have hopenedClock : opened.calendarSeconds = advanced.calendarSeconds := by
      rw [State.calendarSeconds, hopened]
      rfl
    exact hcompletions.calendarSeconds.trans (hclock.trans (hopenedClock.trans hadvanced.clock))
  · exact (congrArg Surroundings.serviceSchedule hcompletions.surroundings).trans
      (hschedule.trans hschedules)
  · rw [hcompletions.commonBoundary, ← hcommon]
    exact congrArg (·.commonBoundary) hstarted
  · rw [hcompletions.pumpIds]
    rw [hstarted]
    rw [hopened, hphysical]
    exact hpumps
  · rcases hactive with ⟨hsame, hnone⟩ | hnone
    · right
      refine ⟨fun windows' hwindows' => ?_, fun q hq hstatus => ?_⟩
      · have hsameWindows : advanced.resourceWindows = s.resourceWindows := by
          unfold State.resourceWindows
          rw [hadvanced.resources]
        rw [hsameWindows, hwindows'] at hwindows
        obtain rfl := Except.ok.inj hwindows
        exact hnone
      · obtain ⟨hmem, htime⟩ := hremaining q hq hstatus
        rw [hprocesses, hsame, hadvanced.processes] at hmem
        exact ⟨hmem, htime⟩
    · left
      intro q hq hstatus
      obtain ⟨hmem, -⟩ := hremaining q hq hstatus
      rw [hprocesses] at hmem
      exact hnone q hmem hstatus
  · intro p hp hnotCleared
    rw [hcompletions.mode, if_neg]
    · exact (hmode p).trans hp
    · rintro ⟨q, hq, hclearance, rfl⟩
      obtain ⟨hmem, hcolumns⟩ := List.mem_filter.mp hq
      simp only [decide_eq_true_eq] at hcolumns
      rcases hactive with ⟨hsame, -⟩ | hnone
      · have hbefore : q ∈ started.processes := hmem
        rw [hprocesses, hsame, hadvanced.processes] at hbefore
        exact hnotCleared ⟨q, hbefore, hcolumns.1, hclearance, hcolumns.2, rfl⟩
      · have hbefore : q ∈ started.processes := hmem
        rw [hprocesses] at hbefore
        exact hnone q hbefore hcolumns.1
  · intro p hp
    have hrunning : p ∈ started.physical.serviceRunningPumpIds := hcompletions.service hp
    rcases hservice p hrunning with hbefore | ⟨hassigned, r, hr, hserved⟩
    · left
      rw [hopened, hphysical] at hbefore
      exact hbefore
    · right
      rw [hassignment] at hassigned hserved
      rw [hschedules] at hr
      rw [served_congr hboundaries hcommon] at hserved
      exact ⟨hassigned, r, hr, hserved⟩

end Selected

/-! ## Outages that are covered -/

section Cover

variable {s state : State} {host : Host} {model : CoupledModel} {schedule : EventSchedule} {n : ℕ}
  {q : CoupledProcess}

/-- The outage of a process is covered: its pump does not serve, and up to its due time no
requirement asks for more than the other pumps assure. -/
structure OutageCovered (s : State) (q : CoupledProcess) : Prop where
  rest : q.targetId ∉ s.physical.serviceRunningPumpIds
  covered : ∀ t, s.calendarSeconds ≤ t → t < q.dueAtCalendarSeconds →
    ∃ required, s.serviceRequirement t = .ok required ∧
      required ≤ s.physical.assuredOthers q.targetId

/-- **Planned outages keep assured capacity**: while the common boundary is available, the outage
of every active process is covered. -/
def OutagesCovered (s : State) : Prop :=
  ∀ q ∈ s.processes, q.status = .active → s.physical.commonBoundary.available = true →
    OutageCovered s q

/-- The events that put no pump under work into service, and leave the work that goes on covered:
* a duty assignment selects no target of an active process;
* at the next event the assignment selects no target of a process that stays active, and the
  clearances that end there leave enough assured pumps to it. -/
def KeepsOutages (schedule : EventSchedule) (s : State) : RunEvent → Prop
  | .act _ (.requestDutyAssignment _ ordered _ _) =>
    ∀ required, s.serviceRequirement s.calendarSeconds = .ok required → ∀ q ∈ s.processes,
      q.status = .active → q.targetId ∉ s.physical.served (ordered.ids.map (·.val)) required
  | .act _ (.continueOperation _) =>
    ∀ time, s.nextEventTime schedule = .ok time →
      (∀ windows, s.resourceWindows = .ok windows → ∀ w ∈ windows, w.endCalendarSeconds ≠ time) →
      ∀ q ∈ s.processes, q.status = .active → q.dueAtCalendarSeconds ≠ time →
        (s.assignment.active = true →
          ∀ r ∈ s.serviceSchedule.find? (·.startCalendarSeconds = time),
            q.targetId ∉ s.physical.served s.assignment.orderedPumpIds r.requiredServiceScu) ∧
        ∀ r ∈ s.serviceSchedule, r.startCalendarSeconds < q.dueAtCalendarSeconds →
          time < r.endCalendarSeconds → r.requiredServiceScu ≤ s.assuredAfter time q.targetId
  | _ => True

/-- What holds of every state of a run: active work has the common boundary, and is covered. -/
def OutagesSound (s : State) : Prop :=
  ∀ q ∈ s.processes, q.status = .active →
    s.physical.commonBoundary.available = true ∧ OutageCovered s q

/-- A state in which no more work is active, no pump that was available or at rest has changed, and
the clock has not gone back. -/
structure Held (s state : State) : Prop where
  active : ∀ q ∈ state.processes, q.status = .active → q ∈ s.processes
  clock : s.calendarSeconds ≤ state.calendarSeconds
  schedules : state.serviceSchedule = s.serviceSchedule
  pumps : state.physical.pumps.map (·.pumpId) = s.physical.pumps.map (·.pumpId)
  common : s.physical.commonBoundary.available = true →
    state.physical.commonBoundary.available = true
  mode : ∀ p, s.physical.mode p = some .serviceAvailable →
    state.physical.mode p = some .serviceAvailable
  service : state.physical.serviceRunningPumpIds ⊆ s.physical.serviceRunningPumpIds

lemma OutageCovered.held (h : OutageCovered s q) (hheld : Held s state)
    (hcommon : s.physical.commonBoundary.available = true) : OutageCovered state q := by
  refine ⟨fun hmem => h.rest (hheld.service hmem), fun t hfirst hlast => ?_⟩
  obtain ⟨required, hrequired, hle⟩ := h.covered t (hheld.clock.trans hfirst) hlast
  refine ⟨required, ?_, hle.trans (PhysicalFields.assuredOthers_le hheld.pumps fun p _ hp => ?_)⟩
  · unfold State.serviceRequirement at hrequired ⊢
    rw [hheld.schedules]
    exact hrequired
  · simp only [PhysicalFields.assured, Bool.and_eq_true, decide_eq_true_eq] at hp ⊢
    exact ⟨hheld.common hcommon, hheld.mode p hp.2⟩

lemma OutagesSound.held (h : OutagesSound s) (hheld : Held s state) : OutagesSound state := by
  intro q hq hactive
  obtain ⟨hcommon, hcovered⟩ := h q (hheld.active q hq hactive) hactive
  exact ⟨hheld.common hcommon, hcovered.held hheld hcommon⟩

/-- **Admitted work is covered.** -/
lemma outageCovered_of_admissible {kind : ProcessKind} {duration : ℤ}
    (h : s.requireFieldProcessAdmissible kind targetId duration = .ok ())
    (htarget : q.targetId = targetId)
    (hdue : q.dueAtCalendarSeconds = s.calendarSeconds + duration) :
    s.physical.commonBoundary.available = true ∧ OutageCovered s q := by
  unfold State.requireFieldProcessAdmissible at h
  obtain ⟨hcommon, h⟩ := require_bind_eq_ok.mp h
  obtain ⟨-, h⟩ := require_bind_eq_ok.mp h
  obtain ⟨admissible, hadmissible, h⟩ := bind_eq_ok.mp h
  rw [require_eq_ok.mp h] at hadmissible
  obtain ⟨hservice, -, hneeds, hcover⟩ := plannedOutageAdmissible_spec hadmissible
  refine ⟨hcommon, ?_, fun t hfirst hlast => ?_⟩
  · rw [htarget]
    exact hservice
  · rw [hdue] at hlast
    obtain ⟨r, hr, hstart, hend⟩ := hcover t hfirst hlast
    have hsome : (s.serviceSchedule.find? fun requirement =>
        requirement.startCalendarSeconds ≤ t ∧ t < requirement.endCalendarSeconds).isSome := by
      rw [List.find?_isSome]
      exact ⟨r, (List.mem_filter.mp hr).1, by simpa using ⟨hstart, hend⟩⟩
    obtain ⟨found, hfound⟩ := Option.isSome_iff_exists.mp hsome
    have hcolumns : found.startCalendarSeconds ≤ t ∧ t < found.endCalendarSeconds := by
      simpa using List.find?_some hfound
    refine ⟨found.requiredServiceScu, ?_, ?_⟩
    · unfold State.serviceRequirement
      rw [hfound]
    · rw [htarget]
      refine hneeds found ?_ (by omega) (by omega)
      rw [List.mem_filter]
      exact ⟨List.mem_of_find?_eq_some hfound, by simp; omega⟩

lemma startProcess_sound {t : State} {kind : ProcessKind} {itemId : String} {duration : ℤ}
    {poolIds : List String}
    (h : t.startProcess n kind targetId itemId duration poolIds = .ok state) :
    OutagesSound state := by
  obtain ⟨hadmissible, hlane, item, -, -, -, -, resources, reservations, -, hdistinct, rfl⟩ :=
    startProcess_eq_ok h
  intro q hq hactive
  rcases List.mem_append.mp hq with hq | hq
  · exact absurd hactive (hlane q hq)
  · obtain rfl := List.mem_singleton.mp hq
    obtain ⟨hcommon, hcovered⟩ := outageCovered_of_admissible
      (q := t.newProcess n kind targetId itemId duration poolIds) hadmissible rfl rfl
    exact ⟨hcommon, hcovered.rest, hcovered.covered⟩

/-- Physical changes of the running sets for tests, with nothing else besides the work. -/
lemma Held.of_test (hactive : ∀ q ∈ state.processes, q.status = .active → q ∈ s.processes)
    (hschedules : state.serviceSchedule = s.serviceSchedule)
    (hphysical : state.physical.toPhysicalFields = { s.physical.toPhysicalFields with
      testRunningPumpIds := state.physical.testRunningPumpIds }) : Held s state := by
  refine ⟨hactive, ?_, hschedules, ?_, ?_, ?_, ?_⟩
  · rw [State.calendarSeconds, State.calendarSeconds, hphysical]
  · rw [hphysical]
  · rw [hphysical]
    exact id
  · intro p hp
    rw [PhysicalFields.mode, hphysical]
    exact hp
  · rw [hphysical]
    exact List.Subset.refl _

/-- A change of the boundary of one pump that was not available takes nothing from the others. -/
lemma Held.of_boundary {pumpId sourceId : String} {mode : PumpMode} {physical : PhysicalState}
    (hprocesses : state.processes = s.processes)
    (hschedules : state.serviceSchedule = s.serviceSchedule)
    (hphysical : s.physical.withBoundaryMode pumpId mode sourceId = .ok physical)
    (hstate : state.physical = physical)
    (hbefore : s.physical.mode pumpId ≠ some .serviceAvailable) : Held s state := by
  obtain ⟨-, hfields⟩ := withBoundaryMode_eq_ok hphysical
  refine ⟨fun q hq _ => hprocesses ▸ hq, ?_, hschedules, ?_, ?_, ?_, ?_⟩
  · rw [State.calendarSeconds, State.calendarSeconds, hstate, hfields]
  · rw [hstate, hfields]
  · rw [hstate, hfields]
    exact id
  · intro p hp
    rw [hstate, withBoundaryMode_mode hphysical]
    split_ifs with heq
    · rw [heq] at hp
      exact absurd hp hbefore
    · exact hp
  · rw [hstate, hfields]
    exact fun p hp => List.mem_of_mem_filter hp

lemma active_of_replaced (changed : CoupledProcess) (hstatus : changed.status ≠ .active)
    (hmem : changed.processId ∈ s.processes.map (·.processId)) :
    ∀ q ∈ s.replacedProcess changed, q.status = .active → q ∈ s.processes := by
  intro q hq hactive
  rw [State.replacedProcess, Table.mem_replace hmem] at hq
  rcases hq with rfl | ⟨hq, -⟩
  · exact absurd hactive hstatus
  · exact hq

variable {requestId : String}

variable (hs : OutagesSound s)
include hs

/-- **A duty assignment** that selects no pump under work. -/
lemma requestDutyAssignment_sound {assignment : List String}
    {sourceOutageId sourceBacklogItemId : Option String}
    (hkeeps : ∀ required, s.serviceRequirement s.calendarSeconds = .ok required →
      ∀ q ∈ s.processes, q.status = .active → q.targetId ∉ s.physical.served assignment required)
    (h : requestDutyAssignment s n requestId assignment sourceOutageId sourceBacklogItemId =
      .ok state) : OutagesSound state := by
  obtain ⟨record, required, selected, physical, pending, -, hrequired, hselected, hphysical, rfl⟩ :=
    requestDutyAssignment_eq_ok h
  have hserved := selectedServiceRunning_eq hselected
  intro q hq hactive
  obtain ⟨hcommon, hcovered⟩ := hs q hq hactive
  refine ⟨?_, ?_, fun t hfirst hlast => ?_⟩
  · dsimp only
    rw [hphysical]
    exact hcommon
  · dsimp only
    rw [hphysical]
    rw [hserved]
    exact hkeeps required hrequired q hq hactive
  · have hclock : s.calendarSeconds ≤ t := by
      rw [State.calendarSeconds, hphysical] at hfirst
      exact hfirst
    obtain ⟨required', hrequired', hle⟩ := hcovered.covered t hclock hlast
    refine ⟨required', hrequired', hle.trans ?_⟩
    rw [hphysical]
    exact le_rfl

/-- **An operation that continues** past no trouble. -/
lemma continueOperation_sound {reason : Text.NonEmptyStr} (hkeyed : s.KeyedProcesses)
    (hkeeps : KeepsOutages schedule s (.act requestId (.continueOperation reason)))
    (h : continueOperation host model schedule s n requestId = .ok state) : OutagesSound state := by
  obtain ⟨time, hcontinued⟩ := continueOperation_continued hkeyed h
  rcases hcontinued.active with hnone | ⟨hwindows, hremaining⟩
  · exact fun q hq hactive => absurd hactive (hnone q hq)
  intro q hq hactive
  obtain ⟨hbefore, htime⟩ := hremaining q hq hactive
  obtain ⟨hcommon, hcovered⟩ := hs q hbefore hactive
  obtain ⟨hselect, hneeds⟩ := hkeeps time hcontinued.next hwindows q hbefore hactive htime
  have hcommonAfter : state.physical.commonBoundary.available = true := by
    rw [hcontinued.common]
    exact hcommon
  refine ⟨hcommonAfter, fun hmem => ?_, fun t hfirst hlast => ?_⟩
  · rcases hcontinued.service _ hmem with hold | ⟨hassigned, r, hr, hserved⟩
    · exact hcovered.rest hold
    · exact hselect hassigned r hr hserved
  · rw [hcontinued.clock] at hfirst
    obtain ⟨required, hrequired, -⟩ :=
      hcovered.covered t (hcontinued.later.le.trans hfirst) hlast
    refine ⟨required, ?_, ?_⟩
    · unfold State.serviceRequirement at hrequired ⊢
      rw [hcontinued.schedules]
      exact hrequired
    · have hle : required ≤ s.assuredAfter time q.targetId := by
        unfold State.serviceRequirement at hrequired
        split at hrequired
        · rename_i found hfound
          obtain rfl := Except.ok.inj hrequired
          have hcolumns : found.startCalendarSeconds ≤ t ∧ t < found.endCalendarSeconds := by
            simpa using List.find?_some hfound
          exact hneeds found (List.mem_of_find?_eq_some hfound) (by omega) (by omega)
        · cases hrequired
      refine hle.trans ?_
      unfold State.assuredAfter PhysicalFields.assuredOthers
      rw [hcontinued.pumps]
      refine List.countP_mono_left fun p _ hp => ?_
      simp only [Bool.and_eq_true, Bool.not_eq_true', decide_eq_false_iff_not,
        PhysicalFields.assured, decide_eq_true_eq] at hp ⊢
      exact ⟨hcommonAfter, hcontinued.mode p hp.1.2 hp.2⟩

/-- **The resumption of a process**, which is admitted anew. -/
lemma resumeProcess_sound {processId : String} (h : resumeProcess s processId = .ok state) :
    OutagesSound state := by
  obtain ⟨-, process, hmem, -, -, hadmissible, item, -, -, physical, pending, resources,
    reservations, hdistinct, -, hphysical, rfl⟩ := resumeProcess_eq_ok h
  have hkey : (process.resumed s.calendarSeconds).processId ∈ s.processes.map (·.processId) :=
    List.mem_map.mpr ⟨process, hmem, rfl⟩
  have hframe : ∀ q : CoupledProcess, OutageCovered s q → OutageCovered { s with
      physical := physical
      pendingStartPumpIds := pending
      resources := resources
      resourceReservations := reservations
      processes := s.replacedProcess (process.resumed s.calendarSeconds)
      backlog := Table.replace BacklogItem.itemId (item.unblockedAt s.calendarSeconds) s.backlog
      backlog_distinct := hdistinct } q := by
    intro q hq
    refine ⟨?_, fun t hfirst hlast => ?_⟩
    · dsimp only
      rw [hphysical]
      exact hq.rest
    · rw [State.calendarSeconds, hphysical] at hfirst
      obtain ⟨required, hrequired, hle⟩ := hq.covered t hfirst hlast
      refine ⟨required, hrequired, hle.trans ?_⟩
      rw [hphysical]
      exact le_rfl
  have hcommonAfter : physical.commonBoundary = s.physical.commonBoundary := by rw [hphysical]
  intro q hq hactive
  have hcases : q = process.resumed s.calendarSeconds ∨
      q ∈ s.processes ∧ q.processId ≠ (process.resumed s.calendarSeconds).processId :=
    (Table.mem_replace hkey).mp hq
  rcases hcases with rfl | ⟨hold, -⟩
  · obtain ⟨hcommon, hcovered⟩ := outageCovered_of_admissible
      (q := process.resumed s.calendarSeconds) hadmissible rfl rfl
    exact ⟨by dsimp only; rw [hcommonAfter]; exact hcommon, hframe _ hcovered⟩
  · obtain ⟨hcommon, hcovered⟩ := hs q hold hactive
    exact ⟨by dsimp only; rw [hcommonAfter]; exact hcommon, hframe _ hcovered⟩

/-- **Every accepted action** that keeps the outages leaves them covered. -/
lemma transition_sound {action : Action} (hkeyed : s.KeyedProcesses)
    (hkeeps : KeepsOutages schedule s (.act requestId action))
    (h : transition host model schedule s n requestId action = .ok state) : OutagesSound state := by
  unfold transition at h
  obtain ⟨updated, hbranch, hfinish⟩ := bind_eq_ok.mp h
  obtain ⟨rfl, -⟩ := finishTransition_eq_ok hfinish
  cases action with
  | continueOperation reason => exact continueOperation_sound hs hkeyed hkeeps hbranch
  | requestDutyAssignment reason ordered sourceOutageId sourceBacklogItemId =>
    exact requestDutyAssignment_sound hs hkeeps hbranch
  | requestInspection reason pumpId itemId =>
    obtain ⟨-, -, physical, restrictions, -, hstart⟩ := requestInspection_eq_ok hbranch
    exact startProcess_sound hstart
  | requestConditionCheck reason pumpId =>
    obtain ⟨evidence, -, -, rfl⟩ := requestConditionCheck_eq_ok hbranch
    exact hs.held (Held.of_test (fun q hq _ => hq) rfl rfl)
  | requestObstructionClearance reason pumpId evidenceId itemId =>
    exact startProcess_sound (requestObstructionClearance_eq_ok hbranch).2
  | requestFunctionalCheck reason pumpId itemId =>
    obtain ⟨-, started, physical, pending, hstart, hphysical, rfl⟩ :=
      requestFunctionalCheck_eq_ok hbranch
    refine (startProcess_sound hstart).held (Held.of_test (fun q hq _ => hq) rfl ?_)
    rw [hphysical]
  | requestProvisionalReturn reason pumpId evidenceId =>
    obtain ⟨-, -, hbefore, physical, restriction, obligation, demand, hphysical, -, -, hgenerate,
      -⟩ := requestProvisionalReturn_eq_ok hbranch
    obtain ⟨records, backlog, hdistinct, -, rfl⟩ := generate_eq_ok hgenerate
    exact hs.held (Held.of_boundary rfl rfl hphysical rfl (by rw [hbefore]; nofun))
  | requestProvisionalClosure reason workOrderId =>
    cases hbranch
    exact hs
  | requestVerification reason pumpId itemId =>
    exact startProcess_sound (requestVerification_eq_ok hbranch).2
  | resumeProcess reason processId => exact resumeProcess_sound hs hbranch
  | cancelProcess reason processId =>
    obtain ⟨process, hmem, -, -, item, -, -, resources, reservations, hdistinct, -, rfl⟩ :=
      cancelProcess_eq_ok hbranch
    refine hs.held (Held.of_test ?_ rfl rfl)
    exact active_of_replaced { process with status := .cancelled } nofun
      (List.mem_map.mpr ⟨process, hmem, rfl⟩)
  | requestDependencyWaiver reason processId dependencyId evidenceId => cases hbranch

/-- **Every accepted control** leaves the outages covered. -/
lemma applyControl_sound {control : Control} (hkeyed : s.KeyedProcesses)
    (h : applyControl host s n control = .ok state) : OutagesSound state := by
  cases control with
  | review request =>
    obtain ⟨-, ⟨-, hrelease⟩ | ⟨-, hrelease⟩⟩ := applyOperationsBoundaryReview_eq_ok h
    · obtain ⟨hbefore, physical, hphysical, item, -, -, -, -, restrictions, obligationId, hdistinct,
        rfl⟩ := releaseRunIn_eq_ok hrelease
      exact hs.held (Held.of_boundary rfl rfl hphysical rfl (by rw [hbefore]; nofun))
    · obtain ⟨hbefore, physical, restrictions, hphysical, rfl⟩ := releaseIsolation_eq_ok hrelease
      exact hs.held (Held.of_boundary rfl rfl hphysical rfl (by rw [hbefore]; nofun))
  | outcome request =>
    obtain ⟨process, hmem, -, -, hfail⟩ := applyProcessOutcome_eq_ok h
    obtain ⟨item, -, -, evidence, -, physical, resources, reservations, records, generated,
      hdistinct, -, -, hphysical, rfl⟩ := failProcess_eq_ok hfail
    refine hs.held (Held.of_test ?_ rfl ?_)
    · exact active_of_replaced { process with status := .failed } nofun
        (List.mem_map.mpr ⟨process, hmem, rfl⟩)
    · dsimp only
      rw [hphysical]
  | common request =>
    obtain ⟨suspended, boundary, physical, assignment, effects, hsuspend, havailable, hphysical, -,
      rfl⟩ := applyCommonBoundaryControl_eq_ok h
    split_ifs at hsuspend havailable hphysical
    · subst hsuspend
      refine hs.held ⟨fun q hq _ => hq, ?_, rfl, ?_, ?_, ?_, ?_⟩
      · rw [State.calendarSeconds, State.calendarSeconds, hphysical]
      · dsimp only
        rw [hphysical]
      · dsimp only
        rw [hphysical]
        exact havailable
      · intro p hp
        rw [PhysicalFields.mode, hphysical]
        exact hp
      · dsimp only
        rw [hphysical]
        exact List.Subset.refl _
    · have hsuspension := suspendProcesses_suspension hkeyed hsuspend
      exact fun q hq hactive => absurd hactive (hsuspension.no_active q hq)
  | treatment request =>
    obtain ⟨physical, pumps, hpumps, -, hphysical, rfl⟩ := applyTreatment_eq_ok h
    refine hs.held ⟨fun q hq _ => hq, ?_, rfl, ?_, ?_, ?_, ?_⟩
    · rw [State.calendarSeconds, State.calendarSeconds, hphysical]
    · dsimp only
      rw [hphysical]
      exact hpumps
    · dsimp only
      rw [hphysical]
      exact id
    · intro p hp
      rw [PhysicalFields.mode, hphysical]
      exact hp
    · dsimp only
      rw [hphysical]
      exact List.Subset.refl _

end Cover

/-! ## Runs -/

section Runs

variable {host : Host} {profile : Profile} {opening : State} {events : List RunEvent}

/-- **One step** of a run that keeps the outages. -/
lemma OutagesSound.step {c : RunState} {event : RunEvent} (hs : OutagesSound c.state)
    (hregistered : c.Registered) (hkeeps : KeepsOutages profile.schedule c.state event) :
    OutagesSound ((world host profile).step c event).state := by
  rcases step_cases host profile c event with ⟨hstate, -⟩ | ⟨state, hresult, hstep⟩
  · rw [hstate]
    exact hs
  · rw [hstep]
    cases event with
    | act requestId action =>
      exact transition_sound hs hregistered.keyed hkeeps (Option.some.inj hresult)
    | control control =>
      dsimp only [RunState.result] at hresult
      split_ifs at hresult
      exact applyControl_sound hs hregistered.keyed (Option.some.inj hresult)
    | fork => cases hresult

end Runs

/-! ## The run of a duty assignment -/

instance decidableKeepsOutages (schedule : EventSchedule) (s : State) (event : RunEvent) :
    Decidable (KeepsOutages schedule s event) :=
  match event with
  | .act _ (.requestDutyAssignment ..) =>
    inferInstanceAs (Decidable (∀ _, _ → ∀ q ∈ s.processes, _))
  | .act _ (.continueOperation _) =>
    inferInstanceAs (Decidable (∀ _, _ → (∀ windows, _ → ∀ w ∈ windows, _) →
      ∀ q ∈ s.processes, _ → _ → (_ → ∀ r ∈ s.serviceSchedule.find? _, _) ∧
        ∀ r ∈ s.serviceSchedule, _))
  | .control _ | .fork | .act _ (.requestConditionCheck ..) | .act _ (.requestInspection ..)
  | .act _ (.requestObstructionClearance ..) | .act _ (.requestFunctionalCheck ..)
  | .act _ (.requestProvisionalReturn ..) | .act _ (.requestProvisionalClosure ..)
  | .act _ (.requestVerification ..) | .act _ (.resumeProcess ..) | .act _ (.cancelProcess ..)
  | .act _ (.requestDependencyWaiver ..) => inferInstanceAs (Decidable True)

/-- A duty assignment of one pump. -/
def assignTo (pumpId : String) : RunEvent := .act "assign" (.requestDutyAssignment
  (plainText "work") ⟨[plainText pumpId], List.cons_ne_nil _ _, by simp, by simp⟩ none none)

/-- The verification of Pump A starts. -/
def verifyA : RunEvent := .act "verify" (.requestVerification (plainText "work")
  (plainText "pump-a") (plainText "backlog-a-verification-001"))

end AecBench.Worlds.PumpStation
