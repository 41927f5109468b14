import AecBench.Worlds.Stewardship.PumpStation.Moves

/-!
# What an event does

An event closes and opens windows, starts a service requirement and ends the processes that are
due, one part after the other. With processes of distinct identities the two loops of it, over the
processes that are suspended and over those that are completed, change each process once.

## Main definitions

* `Suspension` — a state after the suspension of some of its processes.
* `Completions` — a state after the completion of some of its processes.
* `Advanced` — a state at its next event, before the event.

## Main results

* `suspendProcesses_suspension`, `completions_of_foldlM` — the two loops.
* `applyEventEffects_eq_ok` — the parts of an event.
-/

namespace AecBench.Worlds.PumpStation

open Validation

variable {s state : State} {host : Host} {transitionId : String}

/-- No two processes of a state share an identity. -/
def State.KeyedProcesses (s : State) : Prop := Table.Keyed CoupledProcess.processId s.processes

/-- What a suspension makes of a process, if it is active. -/
def CoupledProcess.halted (process : CoupledProcess) (now : ℤ) : CoupledProcess :=
  if process.status = .active then process.suspended now else process

@[simp] lemma CoupledProcess.halted_processId (process : CoupledProcess) (now : ℤ) :
    (process.halted now).processId = process.processId := by
  unfold CoupledProcess.halted
  split_ifs <;> rfl

lemma CoupledProcess.halted_of_active {process : CoupledProcess} (h : process.status = .active)
    (now : ℤ) : process.halted now = process.suspended now :=
  if_pos h

lemma CoupledProcess.halted_of_ne {process : CoupledProcess} (h : process.status ≠ .active)
    (now : ℤ) : process.halted now = process :=
  if_neg h

/-! ## Suspension -/

/-- A state after the suspension of some of its processes. -/
structure Suspension (s : State) (done : List CoupledProcess) (state : State) : Prop where
  processes : state.processes = s.processes.map fun p =>
    if p.processId ∈ done.map (·.processId) then p.halted s.calendarSeconds else p
  physical : state.physical.toPhysicalFields = { s.physical.toPhysicalFields with
    testRunningPumpIds := s.physical.testRunningPumpIds.filter fun id =>
      ∀ p ∈ done, p.status = .active → id ≠ p.targetId }
  stock : s.resources.SameStock state.resources
  conserved : (∃ p ∈ done, p.status = .active) →
    Conserved state.resources state.resourceReservations
  reservations : (∃ p ∈ done, p.status = .active) →
    state.resourceReservations = s.resourceReservations.map (·.suspend s.calendarSeconds)
  untouched : (∀ p ∈ done, p.status ≠ .active) → state = s
  backlogIds : state.backlog.map (·.itemId) = s.backlog.map (·.itemId)
  evidence : state.evidence = s.evidence
  restrictions : state.restrictions = s.restrictions
  surroundings : state.surroundings = s.surroundings

lemma PoolReservation.suspend_suspend (r : PoolReservation) (now : ℤ) :
    (r.suspend now).suspend now = r.suspend now := by
  unfold PoolReservation.suspend
  split_ifs <;> simp_all

/-- **The suspension of some processes**, each of them in the state as it was found. -/
lemma suspendProcesses_suspension (hkeyed : s.KeyedProcesses)
    (h : s.suspendProcesses s.processes = .ok state) : Suspension s s.processes state := by
  refine Loops.foldlM_invariant (Suspension s) ?_ ?_ h
  · constructor
    · simp
    · simp
    · rfl
    · simp
    · simp
    · exact fun _ => rfl
    · rfl
    · rfl
    · rfl
    · rfl
  · intro done x rest hsplit t t' ht hstep
    have hx : x ∈ s.processes := by
      rw [← hsplit]
      simp
    have hnew : x.processId ∉ done.map (·.processId) := by
      have hnodup : ((done ++ x :: rest).map (·.processId)).Nodup := hsplit ▸ hkeyed
      rw [List.map_append, List.map_cons, List.nodup_append] at hnodup
      intro hmem
      exact hnodup.2.2 _ hmem _ List.mem_cons_self rfl
    have hclock : t.calendarSeconds = s.calendarSeconds := by
      simp only [State.calendarSeconds, ht.physical]
    by_cases hactive : x.status = .active
    · obtain ⟨item, hitem, hid, physical, resources, reservations, hdistinct, hphysical, hretain,
        rfl⟩ := suspendProcess_eq_ok hactive hstep
      obtain ⟨hstock, hconserved, hreservations⟩ := retain_spec hretain
      have hloop := Table.replace_map_done
        (f := fun p : CoupledProcess => p.halted s.calendarSeconds)
        (fun p => p.halted_processId _) hkeyed hx hnew
      constructor
      · dsimp only
        rw [State.replacedProcess, hclock, ← CoupledProcess.halted_of_active hactive,
          ht.processes, List.map_append, List.map_singleton]
        exact hloop
      · dsimp only
        rw [hphysical, ht.physical]
        dsimp only
        rw [List.filter_filter]
        congr 1
        apply List.filter_congr
        intro id _
        simp only [List.mem_append, List.mem_singleton, or_imp, forall_and, forall_eq, hactive,
          true_imp_iff, ← Bool.decide_and, and_comm]
      · exact ht.stock.trans hstock
      · exact fun _ => hconserved
      · intro _
        dsimp only
        rw [hreservations, hclock]
        by_cases hbefore : ∃ p ∈ done, p.status = .active
        · rw [ht.reservations hbefore, List.map_map]
          apply List.map_congr_left
          intro r _
          exact PoolReservation.suspend_suspend r _
        · rw [show t.resourceReservations = s.resourceReservations by
            rw [ht.untouched fun p hp hstatus => hbefore ⟨p, hp, hstatus⟩]]
      · intro hnone
        exact absurd hactive (hnone x (by simp))
      · dsimp only
        rw [Table.map_key_replace, ht.backlogIds]
      · exact ht.evidence
      · exact ht.restrictions
      · exact ht.surroundings
    · rw [suspendProcess_of_ne hactive] at hstep
      cases hstep
      have hsame : (∃ p ∈ done ++ [x], p.status = .active) ↔ ∃ p ∈ done, p.status = .active := by
        simp [hactive]
      constructor
      · rw [ht.processes, List.map_append, List.map_singleton]
        exact Table.map_done_of_fixed (f := fun p : CoupledProcess => p.halted s.calendarSeconds)
          hkeyed hx (CoupledProcess.halted_of_ne hactive _)
      · rw [ht.physical]
        dsimp only
        congr 1
        apply List.filter_congr
        intro id _
        simp [hactive, or_imp, forall_and]
      · exact ht.stock
      · exact fun hany => ht.conserved (hsame.mp hany)
      · exact fun hany => ht.reservations (hsame.mp hany)
      · exact fun hnone => ht.untouched fun p hp => hnone p (List.mem_append_left _ hp)
      · exact ht.backlogIds
      · exact ht.evidence
      · exact ht.restrictions
      · exact ht.surroundings

lemma Suspension.no_active (h : Suspension s s.processes state) :
    ∀ q ∈ state.processes, q.status ≠ .active := by
  intro q hq
  rw [h.processes] at hq
  obtain ⟨q₀, hq₀, rfl⟩ := List.mem_map.mp hq
  rw [if_pos (List.mem_map_of_mem hq₀)]
  by_cases hactive : q₀.status = .active
  · simp [CoupledProcess.halted_of_active hactive, CoupledProcess.suspended]
  · simp [CoupledProcess.halted_of_ne hactive, hactive]

/-! ## Completion -/

/-- A state after the completion of some of its processes. -/
structure Completions (s : State) (done : List CoupledProcess) (state : State) : Prop where
  processes : state.processes = s.processes.map fun p =>
    if p.processId ∈ done.map (·.processId) then p.completed else p
  evidence : ∃ added : List Evidence,
    added.map (·.evidenceId) = done.map (·.successEvidenceId) ∧
    state.evidence = s.evidence ++ added
  mode : ∀ p, state.physical.mode p =
    if ∃ q ∈ done, q.kind = .obstructionClearance ∧ p = q.targetId then some .testOnly
    else s.physical.mode p
  service : state.physical.serviceRunningPumpIds ⊆ s.physical.serviceRunningPumpIds
  calendarSeconds : state.calendarSeconds = s.calendarSeconds
  commonBoundary : state.physical.commonBoundary = s.physical.commonBoundary
  pumpIds : state.physical.pumps.map PumpState.pumpId = s.physical.pumps.map PumpState.pumpId
  surroundings : state.surroundings = s.surroundings

/-- **The completion of some processes**, one after the other. -/
lemma completions_of_foldlM {due : List CoupledProcess} (hkeyed : s.KeyedProcesses)
    (hdue : due.Sublist s.processes)
    (h : due.foldlM (fun updated process => completeProcess host updated process transitionId) s =
      .ok state) : Completions s due state := by
  refine Loops.foldlM_invariant (Completions s) ?_ ?_ h
  · constructor
    · simp
    · exact ⟨[], rfl, by simp⟩
    · simp
    · exact List.Subset.refl _
    all_goals rfl
  · intro done x rest hsplit t t' ht hstep
    have hx : x ∈ s.processes := by
      refine hdue.subset ?_
      rw [← hsplit]
      simp
    have hnew : x.processId ∉ done.map (·.processId) := by
      have hnodup : ((done ++ x :: rest).map (·.processId)).Nodup :=
        hsplit ▸ (hdue.map _).nodup hkeyed
      rw [List.map_append, List.map_cons, List.nodup_append] at hnodup
      intro hmem
      exact hnodup.2.2 _ hmem _ List.mem_cons_self rfl
    have hcompletion := completeProcess_completion hstep
    have hloop := Table.replace_map_done (f := CoupledProcess.completed) (fun _ => rfl) hkeyed hx
      hnew
    constructor
    · rw [hcompletion.processes, State.replacedProcess, ht.processes, List.map_append,
        List.map_singleton]
      exact hloop
    · obtain ⟨added, hids, hevidence⟩ := ht.evidence
      obtain ⟨last, hlast, -, hlastEvidence⟩ := hcompletion.evidence
      refine ⟨added ++ [last], ?_, ?_⟩
      · simp only [List.map_append, hids, List.map_singleton, hlast]
      · rw [hlastEvidence, hevidence, List.append_assoc]
    · intro p
      rw [hcompletion.mode, ht.mode]
      by_cases hcleared : x.kind = .obstructionClearance ∧ p = x.targetId
      · rw [if_pos hcleared, if_pos ⟨x, by simp, hcleared⟩]
      · rw [if_neg hcleared]
        congr 1
        simp only [List.mem_append, List.mem_singleton, or_and_right, exists_or, exists_eq_left,
          hcleared, or_false]
    · rw [hcompletion.service]
      exact fun p hp => ht.service (List.mem_of_mem_filter hp)
    · exact hcompletion.calendarSeconds.trans ht.calendarSeconds
    · exact hcompletion.commonBoundary.trans ht.commonBoundary
    · exact hcompletion.pumpIds.trans ht.pumpIds
    · exact hcompletion.surroundings.trans ht.surroundings

/-! ## The parts of an event -/

variable {eventTime : ℤ} {ids : List String}

lemma closeWindows_eq_ok {windows : List AvailabilityInterval}
    (h : closeWindows s windows eventTime = .ok (state, ids)) :
    (∀ window ∈ windows, window.endCalendarSeconds ≠ eventTime) ∧ state = s ∨
      (∃ window ∈ windows, window.endCalendarSeconds = eventTime) ∧ ∃ suspended,
        s.suspendProcesses s.processes = .ok suspended ∧
        suspended.setReusableAvailability false = .ok state := by
  unfold closeWindows at h
  split_ifs at h with hend
  · obtain ⟨suspended, hsuspended, h⟩ := bind_eq_ok.mp h
    obtain ⟨withdrawn, hwithdrawn, h⟩ := bind_eq_ok.mp h
    cases pure_eq_ok.mp h
    exact .inr ⟨hend, suspended, hsuspended, hwithdrawn⟩
  · cases pure_eq_ok.mp h
    exact .inl ⟨fun window hwindow heq => hend ⟨window, hwindow, heq⟩, rfl⟩

lemma openWindows_eq_ok {windows : List AvailabilityInterval}
    (h : openWindows s windows eventTime = .ok (state, ids)) :
    (∀ window ∈ windows, window.startCalendarSeconds ≠ eventTime) ∧ state = s ∨
      (∃ window ∈ windows, window.startCalendarSeconds = eventTime) ∧
        s.setReusableAvailability true = .ok state := by
  unfold openWindows at h
  split_ifs at h with hstart
  · obtain ⟨opened, hopened, h⟩ := bind_eq_ok.mp h
    cases pure_eq_ok.mp h
    exact .inr ⟨hstart, hopened⟩
  · cases pure_eq_ok.mp h
    exact .inl ⟨fun window hwindow heq => hstart ⟨window, hwindow, heq⟩, rfl⟩

lemma startRequirement_eq_ok (h : startRequirement s eventTime = .ok (state, ids)) :
    state = s ∨ ∃ requirement,
      s.serviceSchedule.find? (·.startCalendarSeconds = eventTime) = some requirement ∧
      ∃ service physical pending,
        s.selectedServiceRunning none requirement.requiredServiceScu = .ok service ∧
        physical.toPhysicalFields = { s.physical.toPhysicalFields with
          serviceRunningPumpIds := service } ∧
        state = { s with physical := physical, pendingStartPumpIds := pending } := by
  unfold startRequirement at h
  split at h
  · cases pure_eq_ok.mp h
    exact .inl rfl
  · rename_i requirement hrequirement
    obtain ⟨prior, -, h⟩ := bind_eq_ok.mp h
    obtain ⟨service, hservice, h⟩ := bind_eq_ok.mp h
    obtain ⟨updated, hupdated, h⟩ := bind_eq_ok.mp h
    cases pure_eq_ok.mp h
    obtain ⟨physical, pending, hphysical, rfl⟩ := withPhysicalRunningSets_eq_ok hupdated
    exact .inr ⟨requirement, hrequirement, service, physical, pending, hservice, hphysical, rfl⟩

/-- **The parts of an event**, in their order. -/
lemma applyEventEffects_eq_ok {schedule : EventSchedule}
    (h : applyEventEffects host s schedule eventTime transitionId = .ok state) :
    ∃ windows closed opened started closeIds openIds requirementIds effects,
      s.resourceWindows = .ok windows ∧
      closeWindows s windows eventTime = .ok (closed, closeIds) ∧
      openWindows closed windows eventTime = .ok (opened, openIds) ∧
      startRequirement opened eventTime = .ok (started, requirementIds) ∧
      (started.processes.filter fun process =>
          process.status = .active ∧ process.dueAtCalendarSeconds = eventTime).foldlM
        (fun updated process => completeProcess host updated process transitionId)
        { started with eventEffectIds := effects } = .ok state := by
  unfold applyEventEffects at h
  obtain ⟨windows, hwindows, h⟩ := bind_eq_ok.mp h
  obtain ⟨⟨closed, closeIds⟩, hclose, h⟩ := bind_eq_ok.mp h
  obtain ⟨⟨opened, openIds⟩, hopen, h⟩ := bind_eq_ok.mp h
  obtain ⟨⟨started, requirementIds⟩, hstart, h⟩ := bind_eq_ok.mp h
  exact ⟨windows, closed, opened, started, closeIds, openIds, requirementIds, _, hwindows, hclose,
    hopen, hstart, h⟩

/-- **An operation continued** advances the station to its next event and applies it. -/
lemma continueOperation_eq_ok {model : CoupledModel} {schedule : EventSchedule} {sequence : ℕ}
    {requestId : String}
    (h : continueOperation host model schedule s sequence requestId = .ok state) :
    ∃ eventTime advanced, s.nextEventTime schedule = .ok eventTime ∧
      advancePhysical host model s eventTime s!"transition-{sequence}-{requestId}" = .ok advanced ∧
      applyEventEffects host advanced schedule eventTime s!"transition-{sequence}-{requestId}" =
        .ok state := by
  unfold continueOperation at h
  obtain ⟨eventTime, htime, h⟩ := bind_eq_ok.mp h
  obtain ⟨advanced, hadvanced, h⟩ := bind_eq_ok.mp h
  exact ⟨eventTime, advanced, htime, hadvanced, h⟩

/-! ## The station at its next event -/

/-- The station advanced to a time, before the event there: the clock, the exposure and condition
of the pumps and the records of the interval have changed, and demand may have been generated. -/
structure Advanced (s : State) (time : ℤ) (state : State) : Prop where
  later : s.calendarSeconds < time
  clock : state.calendarSeconds = time
  physical : ∃ pumps, pumps.map PumpState.pumpId = s.physical.pumps.map PumpState.pumpId ∧
    state.physical.toPhysicalFields = { s.physical.toPhysicalFields with
      calendarSeconds := time
      pumps := pumps }
  processes : state.processes = s.processes
  evidence : state.evidence = s.evidence
  restrictions : state.restrictions = s.restrictions
  resources : state.resources = s.resources
  reservations : state.resourceReservations = s.resourceReservations
  backlog : ∃ generated, state.backlog = s.backlog ++ generated ∧
    ∀ new ∈ generated, new.Fresh time ∧ ∀ old ∈ s.backlog, old.itemId ≠ new.itemId
  obligations : state.obligations = s.obligations
  outageEpisodes : state.outageEpisodes = s.outageEpisodes
  assignment : state.assignment = s.assignment
  serviceSchedule : state.serviceSchedule = s.serviceSchedule
  disclosed : state.disclosedThroughCalendarSeconds = s.disclosedThroughCalendarSeconds

lemma advancePhysical_advanced {model : CoupledModel} {time : ℤ}
    (h : advancePhysical host model s time transitionId = .ok state) : Advanced s time state := by
  obtain ⟨hlater, physical, pumps, intervals, collateral, records, backlog, hdistinct, hphysical,
    hpumps, hbacklog, rfl⟩ := advancePhysical_eq_ok h
  constructor
  · exact hlater
  · simp only [State.calendarSeconds, hphysical]
  · exact ⟨pumps, hpumps, hphysical⟩
  case backlog =>
    rcases hbacklog with rfl | ⟨hnew, rfl⟩
    · exact ⟨[], (List.append_nil _).symm, fun new hnew => absurd hnew List.not_mem_nil⟩
    · refine ⟨_, rfl, fun new hmem => ?_⟩
      obtain rfl := List.mem_singleton.mp hmem
      exact ⟨⟨rfl, rfl, rfl⟩, hnew⟩
  all_goals rfl

end AecBench.Worlds.PumpStation
