import AecBench.Worlds.Stewardship.PumpStation.Events

/-!
# The course of modes, evidence and processes

What an accepted event of a run makes of the modes of the pumps, of the evidence and of the
processes, one case for each kind of event that does something to them; and what holds of the
processes of every state, that each has an identity of its own and a pump to work on.

## Main definitions

* `CoupledProcess.fixed` — the columns of a process that never change.
* `Grown` — the processes are the same in these columns, or there is one more.
* `Course` — what an accepted event does to modes, evidence and processes.
* `Registered` — the processes of a state and their identities.

## Main results

* `course_of_result` — every accepted event takes its course.
* `Registered.grown` — accepted events keep the processes registered.
-/

namespace AecBench.Worlds.PumpStation

open Text Validation

variable {s state : State} {host : Host} {model : CoupledModel} {schedule : EventSchedule} {n : ℕ}

/-! ## Processes that grow -/

/-- The columns of a process that never change. -/
def CoupledProcess.fixed (process : CoupledProcess) :
    String × ProcessKind × String × String × List String :=
  (process.processId, process.kind, process.targetId, process.backlogItemId,
    process.requiredPoolIds)

@[simp] lemma CoupledProcess.fixed_halted (process : CoupledProcess) (now : ℤ) :
    (process.halted now).fixed = process.fixed := by
  unfold CoupledProcess.halted
  split_ifs <;> rfl

/-- The processes are the same in the columns that never change, or there is one more, whose
identity ends in the number of the transition and whose pump has a mode; those in `due` are
completed, and no others. -/
structure Grown (n : ℕ) (s : State) (due : List CoupledProcess) (state : State) : Prop where
  fixed : state.processes.map (·.fixed) = s.processes.map (·.fixed) ∨
    ∃ new : CoupledProcess, state.processes = s.processes ++ [new] ∧
      (∃ stem, new.processId = stem ++ "-" ++ toString n) ∧
      (s.physical.mode new.targetId).isSome
  completed : ∀ q ∈ state.processes, q.status = .completed →
    q ∈ s.processes ∨ q ∈ due.map (·.completed)

lemma Grown.of_eq (h : state.processes = s.processes) : Grown n s [] state := by
  refine ⟨.inl (by rw [h]), fun q hq _ => .inl ?_⟩
  rw [← h]
  exact hq

lemma Grown.congr {due : List CoupledProcess} {t t' : State} (h : Grown n t due t')
    (hprocesses : t.processes = s.processes) (hmode : ∀ p, t.physical.mode p = s.physical.mode p)
    (hafter : state.processes = t'.processes) : Grown n s due state := by
  constructor
  · rw [hafter, ← hprocesses]
    refine h.fixed.imp_right ?_
    rintro ⟨new, hnew, hnumber, htarget⟩
    exact ⟨new, hnew, hnumber, hmode new.targetId ▸ htarget⟩
  · rw [hafter, ← hprocesses]
    exact h.completed

lemma Grown.of_replaced {process : CoupledProcess} (changed : CoupledProcess)
    (hkeyed : s.KeyedProcesses) (hmem : process ∈ s.processes)
    (hchanged : changed.fixed = process.fixed) (hstatus : changed.status ≠ .completed)
    (h : state.processes = s.replacedProcess changed) : Grown n s [] state := by
  have hid : changed.processId = process.processId := congrArg Prod.fst hchanged
  constructor
  · left
    rw [h, State.replacedProcess]
    refine Table.map_replace fun other hother hsame => ?_
    rw [hkeyed.eq_of_key_eq hother hmem (hsame.trans hid), hchanged]
  · intro q hq hdone
    left
    have hkey : changed.processId ∈ s.processes.map (·.processId) := by
      rw [hid]
      exact List.mem_map_of_mem hmem
    rw [h, State.replacedProcess, Table.mem_replace hkey] at hq
    rcases hq with rfl | ⟨hq, -⟩
    · exact absurd hdone hstatus
    · exact hq

lemma Grown.of_startProcess {kind : ProcessKind} {targetId itemId : String} {duration : ℤ}
    {poolIds : List String} {t : State}
    (h : t.startProcess n kind targetId itemId duration poolIds = .ok state)
    (hprocesses : t.processes = s.processes) (htarget : (s.physical.mode targetId).isSome) :
    Grown n s [] state := by
  obtain ⟨-, -, item, -, -, -, -, resources, reservations, -, hdistinct, rfl⟩ :=
    startProcess_eq_ok h
  constructor
  · refine .inr ⟨t.newProcess n kind targetId itemId duration poolIds, ?_, ?_, htarget⟩
    · rw [hprocesses]
    · exact ⟨"process-" ++ kind.value ++ "-" ++ targetId, rfl⟩
  · intro q hq hdone
    rcases List.mem_append.mp hq with hq | hq
    · exact .inl (hprocesses ▸ hq)
    · rw [List.mem_singleton.mp hq] at hdone
      cases hdone

/-- The processes of a state: identities with numbers of past transitions, each of them given
once, and pumps that are operated. -/
structure Registered (n : ℕ) (s : State) : Prop where
  numbered : ∀ q ∈ s.processes, ∃ k ≤ n, ∃ stem, q.processId = stem ++ "-" ++ toString k
  keyed : s.KeyedProcesses
  targets : ∀ q ∈ s.processes, (s.physical.mode q.targetId).isSome

/-- **Accepted events keep the processes registered.** -/
theorem Registered.grown {due : List CoupledProcess} (hs : Registered n s)
    (hgrown : Grown (n + 1) s due state)
    (hmode : ∀ p, (s.physical.mode p).isSome → (state.physical.mode p).isSome) :
    Registered (n + 1) state := by
  rcases hgrown.fixed with hfixed | ⟨new, hnew, hnumber, htarget⟩
  · have hold : ∀ q ∈ state.processes, ∃ q₀ ∈ s.processes, q₀.fixed = q.fixed := by
      intro q hq
      have hmem : q.fixed ∈ s.processes.map (·.fixed) := by
        rw [← hfixed]
        exact List.mem_map_of_mem hq
      exact List.mem_map.mp hmem
    refine ⟨fun q hq => ?_, ?_, fun q hq => ?_⟩
    · obtain ⟨q₀, hq₀, heq⟩ := hold q hq
      obtain ⟨k, hk, stem, hid⟩ := hs.numbered q₀ hq₀
      exact ⟨k, by omega, stem, (congrArg Prod.fst heq).symm.trans hid⟩
    · have hids : state.processes.map (·.processId) = s.processes.map (·.processId) := by
        have hfirst := congrArg (List.map Prod.fst) hfixed
        rw [List.map_map, List.map_map] at hfirst
        exact hfirst
      have hkeyed := hs.keyed
      unfold State.KeyedProcesses Table.Keyed at hkeyed ⊢
      rw [hids]
      exact hkeyed
    · obtain ⟨q₀, hq₀, heq⟩ := hold q hq
      have htarget : q₀.targetId = q.targetId := congrArg (fun columns => columns.2.2.1) heq
      rw [← htarget]
      exact hmode _ (hs.targets q₀ hq₀)
  · obtain ⟨stem, hid⟩ := hnumber
    refine ⟨fun q hq => ?_, ?_, fun q hq => ?_⟩
    · rw [hnew] at hq
      rcases List.mem_append.mp hq with hq | hq
      · obtain ⟨k, hk, stem', hid'⟩ := hs.numbered q hq
        exact ⟨k, by omega, stem', hid'⟩
      · rw [List.mem_singleton.mp hq]
        exact ⟨n + 1, le_rfl, stem, hid⟩
    · unfold State.KeyedProcesses
      rw [hnew]
      refine Table.Keyed.append_singleton hs.keyed ?_
      rw [Table.lookup_eq_none_iff]
      intro q hq hsame
      obtain ⟨k, hk, stem', hid'⟩ := hs.numbered q hq
      rw [hid', hid] at hsame
      have := (Names.numbered_injective hsame).2
      omega
    · rw [hnew] at hq
      rcases List.mem_append.mp hq with hq | hq
      · exact hmode _ (hs.targets q hq)
      · rw [List.mem_singleton.mp hq]
        exact hmode _ htarget

/-! ## The course of an event -/

/-- What an accepted event does to the modes, the evidence and the processes of a state. -/
inductive Course (s : State) (n : ℕ) : RunEvent → State → Prop
  /-- The event leaves modes and evidence alone. -/
  | quiet {event : RunEvent} {state : State}
      (hmode : ∀ p, state.physical.mode p = s.physical.mode p)
      (hevidence : state.evidence = s.evidence) (hgrown : Grown n s [] state) :
      Course s n event state
  /-- The station goes on to its next event, where the work that is due is completed. -/
  | continued {requestId : String} {reason : NonEmptyStr} {state : State}
      {due : List CoupledProcess} {time : ℤ} {added : List Evidence}
      (hdue : ∀ q ∈ due, q ∈ s.processes ∧ q.status = .active ∧ q.dueAtCalendarSeconds = time ∧
        q.completed ∈ state.processes)
      (hmode : ∀ p, state.physical.mode p =
        if ∃ q ∈ due, q.kind = .obstructionClearance ∧ p = q.targetId then some .testOnly
        else s.physical.mode p)
      (hids : added.map (·.evidenceId) = due.map (·.successEvidenceId))
      (hevidence : state.evidence = s.evidence ++ added) (hgrown : Grown n s due state) :
      Course s n (.act requestId (.continueOperation reason)) state
  /-- The pump is isolated for its inspection. -/
  | isolated {requestId : String} {reason pumpId itemId : NonEmptyStr} {state : State}
      (hbefore : s.physical.mode pumpId.val = some .serviceAvailable)
      (hmode : ∀ p, state.physical.mode p =
        if p = pumpId.val then some .isolatedForWork else s.physical.mode p)
      (hevidence : state.evidence = s.evidence) (hgrown : Grown n s [] state) :
      Course s n (.act requestId (.requestInspection reason pumpId itemId)) state
  /-- The pump returns to run-in service, on the evidence of a functional check. -/
  | returned {requestId : String} {reason pumpId evidenceId : NonEmptyStr} {state : State}
      (hbefore : s.physical.mode pumpId.val = some .testOnly)
      (hgate : ProcessKind.successEvidenceId .functionalCheck pumpId.val ∈ s.acceptedEvidenceIds)
      (hmode : ∀ p, state.physical.mode p =
        if p = pumpId.val then some .runInService else s.physical.mode p)
      (hevidence : state.evidence = s.evidence) (hgrown : Grown n s [] state) :
      Course s n (.act requestId (.requestProvisionalReturn reason pumpId evidenceId)) state
  /-- A review makes the pump available, on the evidence of a verification or an inspection. -/
  | released {request : OperationsBoundaryReviewRequest} {state : State} {before : PumpMode}
      {kind : ProcessKind}
      (hkind : before = .runInService ∧ kind = .postMaintenanceVerification ∨
        before = .isolatedForWork ∧ kind = .inspection)
      (hbefore : s.physical.mode request.pumpId = some before)
      (hgate : kind.successEvidenceId request.pumpId ∈ s.acceptedEvidenceIds)
      (hmode : ∀ p, state.physical.mode p =
        if p = request.pumpId then some .serviceAvailable else s.physical.mode p)
      (hevidence : state.evidence = s.evidence) (hgrown : Grown n s [] state) :
      Course s n (.control (.review request)) state
  /-- A condition check is recorded. -/
  | checked {requestId : String} {reason pumpId : NonEmptyStr} {state : State}
      {evidence : Evidence} (hid : evidence.evidenceId = s!"condition-check-{pumpId.val}-{n}")
      (hmode : ∀ p, state.physical.mode p = s.physical.mode p)
      (hevidence : state.evidence = s.evidence ++ [evidence]) (hgrown : Grown n s [] state) :
      Course s n (.act requestId (.requestConditionCheck reason pumpId)) state
  /-- A failure is recorded. -/
  | failed {request : ProcessOutcomeRequest} {state : State} {evidence : Evidence}
      (hid : evidence.evidenceId = request.evidenceId)
      (hmode : ∀ p, state.physical.mode p = s.physical.mode p)
      (hevidence : state.evidence = s.evidence ++ [evidence]) (hgrown : Grown n s [] state) :
      Course s n (.control (.outcome request)) state

variable {event : RunEvent}

lemma Course.grown (h : Course s n event state) : ∃ due, Grown n s due state := by
  cases h <;> exact ⟨_, ‹_›⟩

lemma Course.mode_isSome (h : Course s n event state) (p : String)
    (hp : (s.physical.mode p).isSome) : (state.physical.mode p).isSome := by
  cases h with
  | quiet hmode => rwa [hmode]
  | continued hdue hmode | isolated hbefore hmode | returned hbefore hgate hmode
  | released hkind hbefore hgate hmode =>
    rw [hmode]
    split_ifs
    · rfl
    · exact hp
  | checked hid hmode | failed hid hmode => rwa [hmode]

/-! ### Actions -/

section Actions

variable {requestId : String}

lemma mode_congr {a b : PhysicalState} (h : a.pumpBoundaries = b.pumpBoundaries) (p : String) :
    a.mode p = b.mode p := by
  simp only [PhysicalFields.mode, h]

lemma startProcess_course {kind : ProcessKind} {targetId itemId : String} {duration : ℤ}
    {poolIds : List String} (htarget : (s.physical.mode targetId).isSome)
    (h : s.startProcess n kind targetId itemId duration poolIds = .ok state) :
    Course s n event state := by
  have hgrown := Grown.of_startProcess h rfl htarget
  obtain ⟨-, -, item, -, -, -, -, resources, reservations, -, hdistinct, rfl⟩ :=
    startProcess_eq_ok h
  exact .quiet (fun _ => rfl) rfl hgrown

lemma Suspension.grown {done : List CoupledProcess} (h : Suspension s done state) :
    Grown n s [] state := by
  constructor
  · left
    rw [h.processes, List.map_map]
    apply List.map_congr_left
    intro q _
    simp only [Function.comp_apply]
    split_ifs <;> simp
  · intro q hq hdone
    rw [h.processes] at hq
    obtain ⟨q₀, hq₀, rfl⟩ := List.mem_map.mp hq
    left
    by_cases hactive : q₀.status = .active
    · split_ifs at hdone
      · rw [CoupledProcess.halted_of_active hactive] at hdone
        cases hdone
      · rw [hactive] at hdone
        cases hdone
    · rw [CoupledProcess.halted_of_ne hactive, ite_self]
      exact hq₀

lemma Suspension.mode {done : List CoupledProcess} (h : Suspension s done state) (p : String) :
    state.physical.mode p = s.physical.mode p :=
  mode_congr (by rw [h.physical]) p

/-- An event that closes no window leaves the processes as they are up to what is due; one that
closes a window leaves none of them active. -/
lemma applyEventEffects_course {eventTime : ℤ} {transitionId : String} {t : State}
    (h : applyEventEffects host t schedule eventTime transitionId = .ok state)
    (hcontinue : ∃ requestId reason, event = .act requestId (.continueOperation reason))
    (hkeyed : s.KeyedProcesses) (hprocesses : t.processes = s.processes)
    (hmode : ∀ p, t.physical.mode p = s.physical.mode p) (hevidence : t.evidence = s.evidence) :
    Course s n event state := by
  obtain ⟨windows, closed, opened, started, closeIds, openIds, requirementIds, effects, -, hclose,
    hopen, hstart, hdue⟩ := applyEventEffects_eq_ok h
  obtain ⟨requestId, reason, rfl⟩ := hcontinue
  have hopened : opened.processes = closed.processes ∧ opened.evidence = closed.evidence ∧
      ∀ p, opened.physical.mode p = closed.physical.mode p := by
    rcases openWindows_eq_ok hopen with ⟨-, rfl⟩ | ⟨-, havailable⟩
    · exact ⟨rfl, rfl, fun _ => rfl⟩
    · obtain ⟨updated, rfl, -⟩ := setReusableAvailability_spec havailable
      exact ⟨rfl, rfl, fun _ => rfl⟩
  have hstarted : started.processes = opened.processes ∧ started.evidence = opened.evidence ∧
      ∀ p, started.physical.mode p = opened.physical.mode p := by
    rcases startRequirement_eq_ok hstart with rfl |
      ⟨requirement, -, service, physical, pending, -, hphysical, rfl⟩
    · exact ⟨rfl, rfl, fun _ => rfl⟩
    · exact ⟨rfl, rfl, mode_congr (by rw [hphysical])⟩
  have hsofar : started.processes = closed.processes := hstarted.1.trans hopened.1
  rcases closeWindows_eq_ok hclose with ⟨-, rfl⟩ | ⟨-, suspended, hsuspend, hwithdraw⟩
  · -- no window closes: the processes that are due are those of the state before
    have hsame : started.processes = s.processes := hsofar.trans hprocesses
    have hcompletions := completions_of_foldlM (by
      unfold State.KeyedProcesses
      rw [hsame]
      exact hkeyed) List.filter_sublist hdue
    obtain ⟨added, hids, hadded⟩ := hcompletions.evidence
    refine @Course.continued _ _ _ _ _ _ eventTime _ (fun q hq => ?_) (fun p => ?_) hids ?_ ?_
    · obtain ⟨hmem, hcolumns⟩ := List.mem_filter.mp hq
      simp only [decide_eq_true_eq] at hcolumns
      refine ⟨hsame ▸ hmem, hcolumns.1, hcolumns.2, ?_⟩
      rw [hcompletions.processes]
      refine List.mem_map.mpr ⟨q, hmem, ?_⟩
      rw [if_pos (List.mem_map_of_mem hq)]
    · rw [hcompletions.mode, hstarted.2.2 p, hopened.2.2 p, hmode p]
    · rw [hadded, hstarted.2.1, hopened.2.1, hevidence]
    · constructor
      · left
        rw [hcompletions.processes, List.map_map, ← hsame]
        apply List.map_congr_left
        intro q _
        simp only [Function.comp_apply]
        split_ifs <;> rfl
      · intro q hq hdone
        rw [hcompletions.processes] at hq
        obtain ⟨q₀, hq₀, rfl⟩ := List.mem_map.mp hq
        by_cases hmem : q₀.processId ∈ (started.processes.filter fun process =>
            process.status = .active ∧ process.dueAtCalendarSeconds = eventTime).map (·.processId)
        · right
          obtain ⟨d, hd, hid⟩ := List.mem_map.mp hmem
          have hsameProcess : d = q₀ := by
            refine hkeyed.eq_of_key_eq ?_ ?_ hid
            · exact hsame ▸ (List.mem_filter.mp hd).1
            · exact hsame ▸ hq₀
          rw [if_pos hmem, ← hsameProcess]
          exact List.mem_map_of_mem hd
        · left
          rw [if_neg hmem]
          exact hsame ▸ hq₀
  · -- a window closes: all work is suspended first, and nothing is due
    have hsuspension := suspendProcesses_suspension (by
      unfold State.KeyedProcesses
      rw [hprocesses]
      exact hkeyed) hsuspend
    obtain ⟨updated, rfl, -⟩ := setReusableAvailability_spec hwithdraw
    have hnone : started.processes.filter (fun process =>
        process.status = .active ∧ process.dueAtCalendarSeconds = eventTime) = [] := by
      rw [List.filter_eq_nil_iff, hsofar]
      intro q hq
      simp [hsuspension.no_active q hq]
    rw [hnone] at hdue
    obtain rfl := pure_eq_ok.mp hdue
    refine .quiet (fun p => ?_) ?_ ?_
    · rw [← hmode p, ← hsuspension.mode p, ← hopened.2.2 p, ← hstarted.2.2 p]
    · rw [← hevidence, ← hsuspension.evidence, ← hopened.2.1, ← hstarted.2.1]
    · have hgrown : Grown n t [] suspended := hsuspension.grown
      exact hgrown.congr hprocesses hmode hsofar

variable {reason : NonEmptyStr}

lemma continueOperation_course (hkeyed : s.KeyedProcesses)
    (h : continueOperation host model schedule s n requestId = .ok state) :
    Course s n (.act requestId (.continueOperation reason)) state := by
  obtain ⟨eventTime, advanced, -, hadvance, heffects⟩ := continueOperation_eq_ok h
  obtain ⟨-, physical, pumps, intervals, collateral, records, backlog, hdistinct, hphysical, -, -,
    rfl⟩ := advancePhysical_eq_ok hadvance
  refine applyEventEffects_course heffects ⟨requestId, reason, rfl⟩ hkeyed rfl ?_ rfl
  exact mode_congr (by rw [hphysical])

lemma requestInspection_course {pumpId itemId : NonEmptyStr}
    (h : requestInspection s n requestId pumpId.val itemId.val = .ok state) :
    Course s n (.act requestId (.requestInspection reason pumpId itemId)) state := by
  obtain ⟨-, hbefore, physical, restrictions, hphysical, hstart⟩ := requestInspection_eq_ok h
  have hgrown : Grown n s [] state :=
    Grown.of_startProcess hstart rfl (by rw [hbefore]; rfl)
  obtain ⟨-, -, item, -, -, -, -, resources, reservations, -, hdistinct, rfl⟩ :=
    startProcess_eq_ok hstart
  exact .isolated hbefore (withBoundaryMode_mode hphysical) rfl hgrown

lemma requestProvisionalReturn_course {pumpId evidenceId : NonEmptyStr}
    (h : requestProvisionalReturn host s n requestId pumpId.val evidenceId.val = .ok state) :
    Course s n (.act requestId (.requestProvisionalReturn reason pumpId evidenceId)) state := by
  obtain ⟨haccepted, hid, hbefore, physical, restriction, obligation, demand, hphysical, -, -,
    hgenerate, -⟩ := requestProvisionalReturn_eq_ok h
  obtain ⟨records, backlog, hdistinct, -, rfl⟩ := generate_eq_ok hgenerate
  refine .returned hbefore ?_ (withBoundaryMode_mode hphysical) rfl (Grown.of_eq rfl)
  rw [hid] at haccepted
  exact haccepted

lemma resumeProcess_course {processId : String} (hkeyed : s.KeyedProcesses)
    (h : resumeProcess s processId = .ok state) : Course s n event state := by
  obtain ⟨-, process, hmem, -, -, -, item, -, -, physical, pending, resources, reservations,
    hdistinct, -, hphysical, rfl⟩ := resumeProcess_eq_ok h
  exact .quiet (mode_congr (by rw [hphysical])) rfl
    (Grown.of_replaced (process.resumed s.calendarSeconds) hkeyed hmem rfl
      nofun rfl)

/-- **Every accepted action takes its course.** -/
lemma transition_course {action : Action} (hkeyed : s.KeyedProcesses)
    (h : transition host model schedule s n requestId action = .ok state) :
    Course s n (.act requestId action) state := by
  unfold transition at h
  obtain ⟨updated, hbranch, hfinish⟩ := bind_eq_ok.mp h
  obtain ⟨rfl, -⟩ := finishTransition_eq_ok hfinish
  cases action with
  | continueOperation reason => exact continueOperation_course hkeyed hbranch
  | requestDutyAssignment reason ordered sourceOutageId sourceBacklogItemId =>
    obtain ⟨record, required, selected, physical, pending, -, -, -, hphysical, rfl⟩ :=
      requestDutyAssignment_eq_ok hbranch
    exact .quiet (mode_congr (by rw [hphysical])) rfl (Grown.of_eq rfl)
  | requestInspection reason pumpId itemId => exact requestInspection_course hbranch
  | requestConditionCheck reason pumpId =>
    obtain ⟨evidence, hid, -, rfl⟩ := requestConditionCheck_eq_ok hbranch
    exact .checked hid (fun _ => rfl) rfl (Grown.of_eq rfl)
  | requestObstructionClearance reason pumpId evidenceId itemId =>
    obtain ⟨hbefore, hstart⟩ := requestObstructionClearance_eq_ok hbranch
    exact startProcess_course (by rw [hbefore]; rfl) hstart
  | requestFunctionalCheck reason pumpId itemId =>
    obtain ⟨hbefore, started, physical, pending, hstart, hphysical, rfl⟩ :=
      requestFunctionalCheck_eq_ok hbranch
    have hgrown : Grown n s [] started := Grown.of_startProcess hstart rfl (by rw [hbefore]; rfl)
    obtain ⟨-, -, item, -, -, -, -, resources, reservations, -, hdistinct, rfl⟩ :=
      startProcess_eq_ok hstart
    exact .quiet (mode_congr (by rw [hphysical])) rfl (hgrown.congr rfl (fun _ => rfl) rfl)
  | requestProvisionalReturn reason pumpId evidenceId =>
    exact requestProvisionalReturn_course hbranch
  | requestProvisionalClosure reason workOrderId =>
    cases hbranch
    exact .quiet (fun _ => rfl) rfl (Grown.of_eq rfl)
  | requestVerification reason pumpId itemId =>
    obtain ⟨hbefore, hstart⟩ := requestVerification_eq_ok hbranch
    refine startProcess_course ?_ hstart
    rcases hbefore with hbefore | hbefore <;> rw [hbefore] <;> rfl
  | resumeProcess reason processId => exact resumeProcess_course hkeyed hbranch
  | cancelProcess reason processId =>
    obtain ⟨process, hmem, -, -, item, -, -, resources, reservations, hdistinct, -, rfl⟩ :=
      cancelProcess_eq_ok hbranch
    exact .quiet (fun _ => rfl) rfl
      (Grown.of_replaced { process with status := .cancelled } hkeyed hmem rfl
      nofun rfl)
  | requestDependencyWaiver reason processId dependencyId evidenceId => cases hbranch

end Actions

/-! ### Controls -/

lemma applyOperationsBoundaryReview_course {request : OperationsBoundaryReviewRequest}
    (h : applyOperationsBoundaryReview host s request n = .ok state) :
    Course s n (.control (.review request)) state := by
  obtain ⟨haccepted, ⟨hid, hrelease⟩ | ⟨hid, hrelease⟩⟩ := applyOperationsBoundaryReview_eq_ok h
  · obtain ⟨hbefore, physical, hphysical, item, -, -, -, -, restrictions, obligationId, hdistinct,
      rfl⟩ := releaseRunIn_eq_ok hrelease
    rw [hid] at haccepted
    exact .released (.inl ⟨rfl, rfl⟩) hbefore haccepted (withBoundaryMode_mode hphysical) rfl
      (Grown.of_eq rfl)
  · obtain ⟨hbefore, physical, restrictions, hphysical, rfl⟩ := releaseIsolation_eq_ok hrelease
    rw [hid] at haccepted
    exact .released (.inr ⟨rfl, rfl⟩) hbefore haccepted (withBoundaryMode_mode hphysical) rfl
      (Grown.of_eq rfl)

lemma applyCommonBoundaryControl_course {request : CommonBoundaryRequest}
    (hkeyed : s.KeyedProcesses) (h : applyCommonBoundaryControl host s request n = .ok state) :
    Course s n event state := by
  obtain ⟨suspended, boundary, physical, assignment, effects, hsuspend, -, hphysical, -, rfl⟩ :=
    applyCommonBoundaryControl_eq_ok h
  have hmode : ∀ p, physical.mode p = suspended.physical.mode p :=
    mode_congr (by rw [hphysical])
  split_ifs at hsuspend
  · subst hsuspend
    exact .quiet hmode rfl (Grown.of_eq rfl)
  · have hsuspension := suspendProcesses_suspension hkeyed hsuspend
    refine .quiet (fun p => ?_) hsuspension.evidence ?_
    · exact (hmode p).trans (hsuspension.mode p)
    · exact hsuspension.grown.congr rfl (fun _ => rfl) rfl

/-- **Every accepted control takes its course.** -/
lemma applyControl_course {control : Control} (hkeyed : s.KeyedProcesses)
    (h : applyControl host s n control = .ok state) : Course s n (.control control) state := by
  cases control with
  | review request => exact applyOperationsBoundaryReview_course h
  | outcome request =>
    obtain ⟨process, hmem, -, -, hfail⟩ := applyProcessOutcome_eq_ok h
    obtain ⟨item, -, -, evidence, hid, physical, resources, reservations, records, generated,
      hdistinct, -, -, hphysical, rfl⟩ := failProcess_eq_ok hfail
    exact .failed hid (mode_congr (by rw [hphysical])) rfl
      (Grown.of_replaced { process with status := .failed } hkeyed hmem rfl
      nofun rfl)
  | common request => exact applyCommonBoundaryControl_course hkeyed h
  | treatment request =>
    obtain ⟨physical, pumps, -, -, hphysical, rfl⟩ := applyTreatment_eq_ok h
    exact .quiet (mode_congr (by rw [hphysical])) rfl (Grown.of_eq rfl)

/-! ## Runs -/

section Runs

variable {profile : Profile} {c : RunState} {event : RunEvent}

/-- **Every accepted event takes its course.** -/
theorem course_of_result (hkeyed : c.state.KeyedProcesses)
    (h : c.result host profile event = some (.ok state)) :
    Course c.state (c.sequence + 1) event state := by
  cases event with
  | act requestId action => exact transition_course hkeyed (Option.some.inj h)
  | control control =>
    dsimp only [RunState.result] at h
    split_ifs at h
    exact applyControl_course hkeyed (Option.some.inj h)
  | fork => cases h

lemma step_cases (host : Host) (profile : Profile) (c : RunState) (event : RunEvent) :
    ((world host profile).step c event).state = c.state ∧
        ((world host profile).step c event).sequence = c.sequence ∨
      ∃ state, c.result host profile event = some (.ok state) ∧
        (world host profile).step c event =
          { c with state := state, sequence := c.sequence + 1 } := by
  cases event with
  | fork => exact .inl ⟨rfl, rfl⟩
  | act requestId action =>
    cases hresult : transition host profile.model profile.schedule c.state (c.sequence + 1)
        requestId action with
    | ok state =>
      refine .inr ⟨state, congrArg some hresult, ?_⟩
      simp only [world, RunState.result, hresult, RunState.follow]
    | error failure =>
      left
      simp only [world, RunState.result, hresult, RunState.follow, and_self]
  | control control =>
    by_cases hchild : (control.isTreatment && !c.child) = true
    · left
      simp only [world, RunState.result, hchild, if_true, and_self]
    · cases hresult : applyControl host c.state (c.sequence + 1) control with
      | ok state =>
        refine .inr ⟨state, ?_, ?_⟩
        · simp only [RunState.result, hchild, hresult, Bool.false_eq_true, if_false]
        · simp only [world, RunState.result, hchild, hresult, Bool.false_eq_true, if_false,
            RunState.follow]
      | error failure =>
        left
        simp only [world, RunState.result, hchild, hresult, Bool.false_eq_true, if_false,
          RunState.follow, and_self]

/-- The processes of a run are registered under the numbers of its transitions. -/
def RunState.Registered (c : RunState) : Prop := PumpStation.Registered c.sequence c.state

lemma RunState.Registered.step (hc : c.Registered) :
    ((world host profile).step c event).Registered := by
  rcases step_cases host profile c event with ⟨hstate, hsequence⟩ | ⟨state, hresult, hstep⟩
  · unfold RunState.Registered
    rw [hstate, hsequence]
    exact hc
  · have hcourse := course_of_result hc.keyed hresult
    obtain ⟨due, hgrown⟩ := hcourse.grown
    rw [hstep]
    exact PumpStation.Registered.grown hc hgrown hcourse.mode_isSome

lemma initialState_processes {opening : OpeningState} (h : initialState opening schedule = .ok s) :
    s.processes = [] := by
  unfold initialState at h
  obtain ⟨physical, -, h⟩ := bind_eq_ok.mp h
  obtain ⟨environment, -, h⟩ := bind_eq_ok.mp h
  obtain ⟨resources, -, h⟩ := bind_eq_ok.mp h
  obtain ⟨obligations, -, h⟩ := bind_eq_ok.mp h
  obtain ⟨evidence, -, h⟩ := bind_eq_ok.mp h
  obtain ⟨assignment, -, h⟩ := bind_eq_ok.mp h
  obtain ⟨backlog, -, h⟩ := bind_eq_ok.mp h
  obtain ⟨state, hstate, h⟩ := bind_eq_ok.mp h
  obtain ⟨windows, -, h⟩ := bind_eq_ok.mp h
  obtain ⟨-, h⟩ := require_bind_eq_ok.mp h
  obtain ⟨-, h⟩ := require_bind_eq_ok.mp h
  obtain ⟨hdistinct, rfl⟩ := State.withBacklog_eq_ok.mp hstate
  rw [← pure_eq_ok.mp h]

lemma RunState.Registered.root (h : s.processes = []) : (RunState.root s).Registered := by
  refine ⟨fun q hq => ?_, ?_, fun q hq => ?_⟩
  · rw [show (RunState.root s).state.processes = [] from h] at hq
    exact absurd hq List.not_mem_nil
  · unfold State.KeyedProcesses Table.Keyed
    rw [show (RunState.root s).state.processes = [] from h]
    exact List.nodup_nil
  · rw [show (RunState.root s).state.processes = [] from h] at hq
    exact absurd hq List.not_mem_nil

end Runs

end AecBench.Worlds.PumpStation
