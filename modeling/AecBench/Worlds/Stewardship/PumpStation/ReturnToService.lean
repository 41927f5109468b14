import AecBench.Worlds.Stewardship.PumpStation.Processes

/-!
# The gates of the return to service

A pump returns to run-in service on a functional check, and becomes available on a verification or
an inspection. The gates ask for evidence by an identity that can be told beforehand, and do not
look at the process behind it. The link holds along a run as long as no failed outcome carries
such an identity, and no pump is put in a mode whose evidence is there already.

## Main definitions

* `Completes`, `PutIn`, `CompletedSince` — a process that completed, a pump that was put in a mode,
  and a process that completed since then.
* `ReturnsGated` — every return of a run is proved by a process that completed since.
* `KeepsGates`, `OpensGated` — the events and the openings that keep the link.

## Main results

* `returns_gated` — in a run of such events every return is proved.
-/

namespace AecBench.Worlds.PumpStation

open Text Validation

/-! ## Completed work -/

/-- Work of the kind on the pump is completed between the two states. -/
def Completes (before after : State) (kind : ProcessKind) (pumpId : String) : Prop :=
  ∃ q ∈ before.processes, q.status = .active ∧ q.kind = kind ∧ q.targetId = pumpId ∧
    q.completed ∈ after.processes

/-- The pump is put in one of the modes. A clearance that completes puts its pump on test, whatever
the mode was. -/
def PutIn (before after : State) (modes : List PumpMode) (pumpId : String) : Prop :=
  ∃ mode ∈ modes, after.physical.mode pumpId = some mode ∧
    (before.physical.mode pumpId ≠ some mode ∨
      mode = .testOnly ∧ Completes before after .obstructionClearance pumpId)

/-- Work of the kind on the pump has completed since the pump was last put in one of the modes. -/
def CompletedSince (host : Host) (profile : Profile) (c : RunState) (events : List RunEvent)
    (kind : ProcessKind) (modes : List PumpMode) (pumpId : String) : Prop :=
  (world host profile).Since
    (fun c event => Completes c.state ((world host profile).step c event).state kind pumpId)
    (fun c event => ¬ PutIn c.state ((world host profile).step c event).state modes pumpId)
    c events

/-- **Every return of a run is gated**: a pump that turns to run-in service has passed a functional
check since it was last isolated or put on test, and one that turns available a verification since
it runs in, or an inspection since it is isolated. -/
def ReturnsGated (host : Host) (profile : Profile) (c : RunState) (events : List RunEvent) : Prop :=
  ∀ before event after, events = before ++ event :: after → ∀ pumpId,
    let s := ((world host profile).run c before).state
    let s' := ((world host profile).step ((world host profile).run c before) event).state
    (s.physical.mode pumpId ≠ some .runInService → s'.physical.mode pumpId = some .runInService →
      CompletedSince host profile c before .functionalCheck [.isolatedForWork, .testOnly] pumpId) ∧
    (s.physical.mode pumpId ≠ some .serviceAvailable →
      s'.physical.mode pumpId = some .serviceAvailable →
      s.physical.mode pumpId = some .runInService ∧
          CompletedSince host profile c before .postMaintenanceVerification [.runInService] pumpId ∨
        s.physical.mode pumpId = some .isolatedForWork ∧
          CompletedSince host profile c before .inspection [.isolatedForWork] pumpId)

/-! ## The gates -/

/-- The work that leads out of a mode. -/
def PumpMode.exitWork : PumpMode → Option ProcessKind
  | testOnly => some .functionalCheck
  | runInService => some .postMaintenanceVerification
  | isolatedForWork => some .inspection
  | serviceAvailable => none

/-- The modes in which a pump is put before the work that leads out of this one. -/
def PumpMode.entries : PumpMode → List PumpMode
  | testOnly => [isolatedForWork, testOnly]
  | mode => [mode]

/-- The identity that the gate out of a mode asks for. -/
def gateId (mode : PumpMode) (pumpId : String) : Option String :=
  mode.exitWork.map (·.successEvidenceId pumpId)

/-- The events that keep the link from the identities to the work:
* no failed outcome carries the identity that a gate asks for now, unless it is there already;
* no pump is put in a mode whose gate asks for an identity that is there already, and no functional
  check of a pump is due together with the clearance that puts it on test. -/
def KeepsGates (s : State) : RunEvent → Prop
  | .control (.outcome request) => request.evidenceId ∉ s.acceptedEvidenceIds →
      ∀ boundary ∈ s.physical.pumpBoundaries,
        gateId boundary.mode boundary.pumpId ≠ some request.evidenceId
  | .act _ (.requestInspection _ pumpId _) =>
    ProcessKind.successEvidenceId .inspection pumpId.val ∉ s.acceptedEvidenceIds
  | .act _ (.requestProvisionalReturn _ pumpId _) =>
    ProcessKind.successEvidenceId .postMaintenanceVerification pumpId.val ∉ s.acceptedEvidenceIds
  | .act _ (.continueOperation _) => ∀ q ∈ s.processes, q.status = .active →
      q.kind = .obstructionClearance →
      ProcessKind.successEvidenceId .functionalCheck q.targetId ∉ s.acceptedEvidenceIds ∧
      ∀ r ∈ s.processes, r.status = .active → r.kind = .functionalCheck →
        r.targetId = q.targetId → r.dueAtCalendarSeconds ≠ q.dueAtCalendarSeconds
  | _ => True

/-- The openings that keep the link: no two pumps have one label, and no gate finds its identity
there already. -/
def OpensGated (s : State) : Prop :=
  (∀ a ∈ s.physical.pumpBoundaries, ∀ b ∈ s.physical.pumpBoundaries,
    pumpLabel a.pumpId = pumpLabel b.pumpId → a.pumpId = b.pumpId) ∧
  ∀ boundary ∈ s.physical.pumpBoundaries, ∀ id ∈ gateId boundary.mode boundary.pumpId,
    id ∉ s.acceptedEvidenceIds

/-! ### The identities -/

/-- What an identity of evidence ends in. -/
def ProcessKind.code : ProcessKind → String
  | obstructionClearance => "-clearance-complete-001"
  | functionalCheck => "-functional-check-pass-001"
  | postMaintenanceVerification => "-verification-pass-001"
  | inspection => "-inspection-no-finding-001"

/-- What an identity of evidence says of the pump. -/
def ProcessKind.stem (kind : ProcessKind) (pumpId : String) : String :=
  if kind = .postMaintenanceVerification then pumpId else pumpLabel pumpId

lemma successEvidenceId_eq (kind : ProcessKind) (pumpId : String) :
    kind.successEvidenceId pumpId = "evidence-" ++ kind.stem pumpId ++ kind.code := by
  cases kind <;> rfl

variable {p : String} {kind : ProcessKind}

/-- **The identity of evidence** determines the kind of work and, among pumps of distinct labels,
the pump. -/
lemma successEvidenceId_injective {kind' : ProcessKind} {q : String}
    (hlabels : pumpLabel p = pumpLabel q → p = q)
    (h : kind.successEvidenceId p = kind'.successEvidenceId q) : kind = kind' ∧ p = q := by
  rw [successEvidenceId_eq, successEvidenceId_eq] at h
  have hfree : Names.SuffixFree [ProcessKind.code .obstructionClearance,
      ProcessKind.code .functionalCheck, ProcessKind.code .postMaintenanceVerification,
      ProcessKind.code .inspection] := by decide +kernel
  have hmem : ∀ k : ProcessKind, k.code ∈ [ProcessKind.code .obstructionClearance,
      ProcessKind.code .functionalCheck, ProcessKind.code .postMaintenanceVerification,
      ProcessKind.code .inspection] := by
    intro k
    cases k <;> simp
  obtain ⟨hstem, hcode⟩ := Names.coded_injective hfree (hmem kind) (hmem kind') h
  have hkind : kind = kind' := by
    cases kind <;> cases kind' <;> first | rfl | exact absurd hcode (by decide)
  subst hkind
  refine ⟨rfl, ?_⟩
  have hsame : kind.stem p = kind.stem q := by
    have hlist := congrArg String.toList hstem
    rw [String.toList_append, String.toList_append] at hlist
    exact String.toList_inj.mp (List.append_cancel_left hlist)
  unfold ProcessKind.stem at hsame
  split_ifs at hsame
  · exact hsame
  · exact hlabels hsame

lemma successEvidenceId_ne_conditionCheck (kind : ProcessKind) (p q : String) (n : ℕ) :
    kind.successEvidenceId p ≠ s!"condition-check-{q}-{n}" := by
  intro h
  rw [successEvidenceId_eq] at h
  change _ = "condition-check-" ++ q ++ "-" ++ toString n at h
  have hhead := congrArg (fun text => text.toList.head?) h
  simp [String.toList_append] at hhead

/-! ## Runs -/

section Steps

variable {host : Host} {profile : Profile} {c₀ : RunState} {events : List RunEvent}
  {event : RunEvent} {s state : State} {n : ℕ}

/-- What holds along a run of events that keep the gates: the processes are registered, pumps have
labels of their own, and work that a gate's identity speaks of has been done. -/
structure GatesSound (host : Host) (profile : Profile) (c₀ : RunState) (events : List RunEvent) :
    Prop where
  registered : ((world host profile).run c₀ events).Registered
  labels : ∀ p q,
    (((world host profile).run c₀ events).state.physical.mode p).isSome →
    (((world host profile).run c₀ events).state.physical.mode q).isSome →
    pumpLabel p = pumpLabel q → p = q
  proven : ∀ p mode kind,
    ((world host profile).run c₀ events).state.physical.mode p = some mode →
    mode.exitWork = some kind →
    kind.successEvidenceId p ∈ ((world host profile).run c₀ events).state.acceptedEvidenceIds →
    CompletedSince host profile c₀ events kind mode.entries p

lemma due_of_completes {due : List CoupledProcess} (hkeyed : s.KeyedProcesses)
    (hgrown : Grown n s due state) (hdue : ∀ q ∈ due, q ∈ s.processes)
    (h : Completes s state kind p) : ∃ q ∈ due, q.kind = kind ∧ q.targetId = p := by
  obtain ⟨q, hq, hactive, hkind, htarget, hdone⟩ := h
  rcases hgrown.completed _ hdone rfl with hbefore | hmem
  · have hsame : q.completed = q := hkeyed.eq_of_key_eq hbefore hq rfl
    rw [← hsame] at hactive
    cases hactive
  · obtain ⟨d, hd, heq⟩ := List.mem_map.mp hmem
    have hsame : d = q :=
      hkeyed.eq_of_key_eq (hdue d hd) hq (congrArg (fun r => r.processId) heq)
    exact ⟨q, hsame ▸ hd, hkind, htarget⟩

variable {mode : PumpMode}

lemma not_putIn_of_mode_eq {modes : List PumpMode} (hbefore : s.physical.mode p = some mode)
    (hafter : state.physical.mode p = some mode)
    (hclear : ¬ Completes s state .obstructionClearance p) : ¬ PutIn s state modes p := by
  rintro ⟨m, -, hm, hchanged | ⟨-, hcompletes⟩⟩
  · rw [hafter] at hm
    exact hchanged (hbefore.trans hm)
  · exact hclear hcompletes

lemma mem_acceptedEvidenceIds_append {added : List Evidence} {id : String}
    (hevidence : state.evidence = s.evidence ++ added) (h : id ∈ state.acceptedEvidenceIds) :
    id ∈ s.acceptedEvidenceIds ∨ id ∈ added.map (·.evidenceId) := by
  obtain ⟨evidence, hmem, haccepted, rfl⟩ := mem_acceptedEvidenceIds.mp h
  rw [hevidence] at hmem
  rcases List.mem_append.mp hmem with hmem | hmem
  · exact .inl (mem_acceptedEvidenceIds.mpr ⟨evidence, hmem, haccepted, rfl⟩)
  · exact .inr (List.mem_map_of_mem hmem)

lemma acceptedEvidenceIds_congr (h : state.evidence = s.evidence) :
    state.acceptedEvidenceIds = s.acceptedEvidenceIds := by
  unfold State.acceptedEvidenceIds
  rw [h]

lemma Course.mode_isSome_iff (h : Course s n event state)
    (htargets : ∀ q ∈ s.processes, (s.physical.mode q.targetId).isSome) (p : String) :
    (state.physical.mode p).isSome ↔ (s.physical.mode p).isSome := by
  refine ⟨fun hp => ?_, h.mode_isSome p⟩
  cases h with
  | quiet hmode => rwa [hmode] at hp
  | continued hdue hmode =>
    rw [hmode] at hp
    split_ifs at hp with hcleared
    · obtain ⟨q, hq, -, rfl⟩ := hcleared
      exact htargets q (hdue q hq).1
    · exact hp
  | isolated hbefore hmode | returned hbefore hgate hmode | released hkind hbefore hgate hmode =>
    rw [hmode] at hp
    split_ifs at hp with heq
    · rw [heq, hbefore]
      rfl
    · exact hp
  | checked hid hmode | failed hid hmode => rwa [hmode] at hp

lemma not_completes_of_grown (hkeyed : s.KeyedProcesses) (hgrown : Grown n s [] state) :
    ¬ Completes s state kind p := by
  intro hcompletes
  obtain ⟨q, hq, -⟩ := due_of_completes hkeyed hgrown
    (fun q hq => absurd hq List.not_mem_nil) hcompletes
  exact absurd hq List.not_mem_nil

lemma not_mem_of_gate {id : String}
    (hkeeps : ∀ boundary ∈ s.physical.pumpBoundaries,
      gateId boundary.mode boundary.pumpId ≠ some id) (hmode : s.physical.mode p = some mode)
    (hkind : mode.exitWork = some kind) : kind.successEvidenceId p ≠ id := by
  intro heq
  obtain ⟨boundary, hlookup, hboundary⟩ := Option.map_eq_some_iff.mp hmode
  obtain ⟨hmem, hid⟩ := Table.mem_of_lookup hlookup
  refine hkeeps boundary hmem ?_
  rw [gateId, hboundary, hid, hkind, Option.map_some, heq]

/-- **A pump that turns to another mode** is isolated or put on test, or goes through the gate of
the mode it was in. -/
lemma Course.turns (h : Course s n event state) (hbefore : s.physical.mode p ≠ some mode)
    (hafter : state.physical.mode p = some mode) :
    mode = .isolatedForWork ∨ mode = .testOnly ∨
      ∃ before kind, s.physical.mode p = some before ∧ before.exitWork = some kind ∧
        kind.successEvidenceId p ∈ s.acceptedEvidenceIds ∧
        (mode = .runInService ∧ before = .testOnly ∨
          mode = .serviceAvailable ∧ (before = .runInService ∨ before = .isolatedForWork)) := by
  cases h with
  | quiet hmode | checked hid hmode | failed hid hmode =>
    exact absurd ((hmode p).symm.trans hafter) hbefore
  | continued hdue hmode =>
    rw [hmode] at hafter
    split_ifs at hafter
    · exact .inr (.inl (Option.some.inj hafter).symm)
    · exact absurd hafter hbefore
  | isolated hstart hmode =>
    rw [hmode] at hafter
    split_ifs at hafter
    · exact .inl (Option.some.inj hafter).symm
    · exact absurd hafter hbefore
  | returned htest hgate hmode =>
    rw [hmode] at hafter
    split_ifs at hafter with heq
    · rw [heq]
      exact .inr (.inr ⟨_, _, htest, rfl, hgate, .inl ⟨(Option.some.inj hafter).symm, rfl⟩⟩)
    · exact absurd hafter hbefore
  | released hwork hstart hgate hmode =>
    rw [hmode] at hafter
    split_ifs at hafter with heq
    · have hmodeEq := (Option.some.inj hafter).symm
      rw [heq]
      rcases hwork with ⟨rfl, rfl⟩ | ⟨rfl, rfl⟩
      · exact .inr (.inr ⟨_, _, hstart, rfl, hgate, .inr ⟨hmodeEq, .inl rfl⟩⟩)
      · exact .inr (.inr ⟨_, _, hstart, rfl, hgate, .inr ⟨hmodeEq, .inr rfl⟩⟩)
    · exact absurd hafter hbefore

/-- **What an accepted event that keeps the gates leaves behind an open gate**: the pump was in the
mode before, and the gate was open or the work has been completed now. -/
lemma Course.open_gate {m : ℕ} (h : Course s n event state) (hregistered : Registered m s)
    (hlabels : ∀ a b, (s.physical.mode a).isSome → (s.physical.mode b).isSome →
      pumpLabel a = pumpLabel b → a = b) (hkeeps : KeepsGates s event)
    (hmode : state.physical.mode p = some mode) (hkind : mode.exitWork = some kind)
    (hid : kind.successEvidenceId p ∈ state.acceptedEvidenceIds) :
    s.physical.mode p = some mode ∧ ¬ Completes s state .obstructionClearance p ∧
      (kind.successEvidenceId p ∈ s.acceptedEvidenceIds ∨ Completes s state kind p) := by
  have hkeyed := hregistered.keyed
  cases h with
  | quiet hsame hevidence hgrown =>
    rw [acceptedEvidenceIds_congr hevidence] at hid
    exact ⟨(hsame p).symm.trans hmode, not_completes_of_grown hkeyed hgrown, .inl hid⟩
  | checked hcheck hsame hevidence hgrown =>
    refine ⟨(hsame p).symm.trans hmode, not_completes_of_grown hkeyed hgrown, .inl ?_⟩
    rcases mem_acceptedEvidenceIds_append hevidence hid with hbefore | hnew
    · exact hbefore
    · rw [List.map_singleton, List.mem_singleton, hcheck] at hnew
      exact absurd hnew (successEvidenceId_ne_conditionCheck _ _ _ _)
  | @failed request _ evidence hrequest hsame hevidence hgrown =>
    have hbefore : s.physical.mode p = some mode := (hsame p).symm.trans hmode
    refine ⟨hbefore, not_completes_of_grown hkeyed hgrown, .inl ?_⟩
    rcases mem_acceptedEvidenceIds_append hevidence hid with hold | hnew
    · exact hold
    · rw [List.map_singleton, List.mem_singleton, hrequest] at hnew
      by_contra hnone
      rw [hnew] at hnone
      exact not_mem_of_gate (hkeeps hnone) hbefore hkind hnew
  | isolated hbefore hnext hevidence hgrown | returned hbefore hgate hnext hevidence hgrown =>
    rw [acceptedEvidenceIds_congr hevidence] at hid
    rw [hnext] at hmode
    split_ifs at hmode with heq
    · obtain rfl := Option.some.inj hmode
      obtain rfl := Option.some.inj hkind
      rw [heq] at hid
      exact absurd hid hkeeps
    · exact ⟨hmode, not_completes_of_grown hkeyed hgrown, .inl hid⟩
  | released hwork hbefore hgate hnext hevidence hgrown =>
    rw [acceptedEvidenceIds_congr hevidence] at hid
    rw [hnext] at hmode
    split_ifs at hmode
    · obtain rfl := Option.some.inj hmode
      cases hkind
    · exact ⟨hmode, not_completes_of_grown hkeyed hgrown, .inl hid⟩
  | @continued _ _ _ due time added hdue hnext hids hevidence hgrown =>
    have hadded : kind.successEvidenceId p ∈ added.map (·.evidenceId) →
        (s.physical.mode p).isSome → ∃ q ∈ due, q.kind = kind ∧ q.targetId = p := by
      intro hmem hp
      rw [hids] at hmem
      obtain ⟨q, hq, heq⟩ := List.mem_map.mp hmem
      obtain ⟨hsameKind, hsameTarget⟩ := successEvidenceId_injective
        (hlabels _ _ (hregistered.targets q (hdue q hq).1) hp) heq
      exact ⟨q, hq, hsameKind, hsameTarget⟩
    rw [hnext] at hmode
    split_ifs at hmode with hcleared
    · -- a clearance of the pump is due: its gate was closed, and no functional check is due
      obtain rfl := Option.some.inj hmode
      obtain rfl := Option.some.inj hkind
      obtain ⟨q, hq, hclearance, rfl⟩ := hcleared
      obtain ⟨hmem, hactive, htime, -⟩ := hdue q hq
      obtain ⟨hclosed, hapart⟩ := hkeeps q hmem hactive hclearance
      rcases mem_acceptedEvidenceIds_append hevidence hid with hold | hnew
      · exact absurd hold hclosed
      · obtain ⟨r, hr, hcheck, htarget⟩ := hadded hnew (hregistered.targets q hmem)
        obtain ⟨hrmem, hractive, hrtime, -⟩ := hdue r hr
        exact absurd (hrtime.trans htime.symm) (hapart r hrmem hractive hcheck htarget)
    · have hclear : ¬ Completes s state .obstructionClearance p := by
        intro hcompletes
        obtain ⟨q, hq, hclearance, htarget⟩ :=
          due_of_completes hkeyed hgrown (fun q hq => (hdue q hq).1) hcompletes
        exact hcleared ⟨q, hq, hclearance, htarget.symm⟩
      refine ⟨hmode, hclear, ?_⟩
      rcases mem_acceptedEvidenceIds_append hevidence hid with hold | hnew
      · exact .inl hold
      · obtain ⟨q, hq, hsameKind, htarget⟩ := hadded hnew (by rw [hmode]; rfl)
        obtain ⟨hmem, hactive, -, hdone⟩ := hdue q hq
        exact .inr ⟨q, hmem, hactive, hsameKind, htarget, hdone⟩

/-- **One step**: an event that keeps the gates keeps them sound. -/
lemma GatesSound.step (h : GatesSound host profile c₀ events)
    (hkeeps : KeepsGates ((world host profile).run c₀ events).state event) :
    GatesSound host profile c₀ (events ++ [event]) := by
  have hrun : (world host profile).run c₀ (events ++ [event]) =
      (world host profile).step ((world host profile).run c₀ events) event := by
    rw [Machine.run_append]
    rfl
  have hregistered : ((world host profile).step ((world host profile).run c₀ events)
      event).Registered := h.registered.step
  rcases step_cases host profile ((world host profile).run c₀ events) event with
    ⟨hstate, -⟩ | ⟨state, hresult, hstep⟩
  · -- a refused event changes nothing
    refine ⟨by rwa [hrun], ?_, ?_⟩
    · rw [hrun, hstate]
      exact h.labels
    · rw [hrun, hstate]
      intro p mode kind hmode hkind hid
      refine (h.proven p mode kind hmode hkind hid).append_singleton ?_
      refine not_putIn_of_mode_eq hmode (by rw [hstate, hmode]) ?_
      rw [hstate]
      exact not_completes_of_grown h.registered.keyed (Grown.of_eq rfl : Grown 0 _ [] _)
  · have hcourse := course_of_result h.registered.keyed hresult
    have hafter : ((world host profile).step ((world host profile).run c₀ events) event).state =
        state := by rw [hstep]
    refine ⟨by rwa [hrun], ?_, ?_⟩
    · rw [hrun, hafter]
      intro p q hp hq
      rw [hcourse.mode_isSome_iff h.registered.targets] at hp hq
      exact h.labels p q hp hq
    · rw [hrun, hafter]
      intro p mode kind hmode hkind hid
      obtain ⟨hbefore, hclear, hopen⟩ :=
        hcourse.open_gate h.registered h.labels hkeeps hmode hkind hid
      have hnot : ¬ PutIn ((world host profile).run c₀ events).state state mode.entries p :=
        not_putIn_of_mode_eq hbefore hmode hclear
      rw [← hafter] at hnot
      rcases hopen with hold | hcompletes
      · exact (h.proven p mode kind hbefore hkind hold).append_singleton hnot
      · rw [← hafter] at hcompletes
        exact Machine.since_of_last hcompletes hnot

/-- **Every run** of events that keep the gates keeps them sound. -/
lemma gatesSound_run {opening : State} (hprocesses : opening.processes = [])
    (hopens : OpensGated opening)
    (hkeeps : (world host profile).Along (fun c event => KeepsGates c.state event)
      (RunState.root opening) events) :
    GatesSound host profile (RunState.root opening) events := by
  induction events using List.reverseRecOn with
  | nil =>
    have hboundary : ∀ p mode, opening.physical.mode p = some mode →
        ∃ boundary ∈ opening.physical.pumpBoundaries,
          boundary.pumpId = p ∧ boundary.mode = mode := by
      intro p mode hmode
      obtain ⟨boundary, hlookup, hsame⟩ := Option.map_eq_some_iff.mp hmode
      obtain ⟨hmem, hid⟩ := Table.mem_of_lookup hlookup
      exact ⟨boundary, hmem, hid, hsame⟩
    refine ⟨RunState.Registered.root hprocesses, ?_, ?_⟩
    · intro p q hp hq hlabel
      obtain ⟨mode, hmode⟩ := Option.isSome_iff_exists.mp hp
      obtain ⟨mode', hmode'⟩ := Option.isSome_iff_exists.mp hq
      obtain ⟨a, ha, rfl, -⟩ := hboundary p mode hmode
      obtain ⟨b, hb, rfl, -⟩ := hboundary q mode' hmode'
      exact hopens.1 a ha b hb hlabel
    · intro p mode kind hmode hkind hid
      obtain ⟨boundary, hmem, rfl, rfl⟩ := hboundary p mode hmode
      refine absurd hid (hopens.2 boundary hmem _ ?_)
      rw [gateId, hkind]
      rfl
  | append_singleton events event ih =>
    rw [Machine.along_append] at hkeeps
    exact (ih hkeeps.1).step hkeeps.2.1

/-- **Returns are gated** in every run of events that keep the gates, from every opening state that
keeps them. -/
theorem returns_gated {opening : State}
    (hopening : initialState profile.opening profile.schedule = .ok opening)
    (hopens : OpensGated opening)
    (hkeeps : (world host profile).Along (fun c event => KeepsGates c.state event)
      (RunState.root opening) events) :
    ReturnsGated host profile (RunState.root opening) events := by
  intro before event after hsplit pumpId
  rw [hsplit, Machine.along_append] at hkeeps
  have hsound := gatesSound_run (initialState_processes hopening) hopens hkeeps.1
  rcases step_cases host profile ((world host profile).run (RunState.root opening) before) event with
    ⟨hstate, -⟩ | ⟨state, hresult, hstep⟩
  · rw [hstate]
    exact ⟨fun hbefore hafter => absurd hafter hbefore, fun hbefore hafter => absurd hafter hbefore⟩
  · rw [hstep]
    have hcourse := course_of_result hsound.registered.keyed hresult
    constructor
    · intro hbefore hafter
      rcases hcourse.turns hbefore hafter with h | h | ⟨mode, kind, hmode, hkind, hgate, h⟩
      · cases h
      · cases h
      · rcases h with ⟨-, rfl⟩ | ⟨h, -⟩
        · obtain rfl := Option.some.inj hkind
          exact hsound.proven pumpId _ _ hmode rfl hgate
        · cases h
    · intro hbefore hafter
      rcases hcourse.turns hbefore hafter with h | h | ⟨mode, kind, hmode, hkind, hgate, h⟩
      · cases h
      · cases h
      · rcases h with ⟨h, -⟩ | ⟨-, rfl | rfl⟩
        · cases h
        · obtain rfl := Option.some.inj hkind
          exact .inl ⟨hmode, hsound.proven pumpId _ _ hmode rfl hgate⟩
        · obtain rfl := Option.some.inj hkind
          exact .inr ⟨hmode, hsound.proven pumpId _ _ hmode rfl hgate⟩

end Steps

/-! ## The run of a failed functional check -/

deriving instance DecidableEq for CoupledProcess

instance decidableCompletes (before after : State) (kind : ProcessKind) (pumpId : String) :
    Decidable (Completes before after kind pumpId) :=
  inferInstanceAs (Decidable (∃ q ∈ before.processes, _ ∧ _ ∧ _ ∧ q.completed ∈ after.processes))

instance decidableKeepsGates (s : State) (event : RunEvent) : Decidable (KeepsGates s event) :=
  match event with
  | .control (.outcome _) => inferInstanceAs (Decidable (_ → ∀ boundary ∈ _, _))
  | .control (.review _) | .control (.common _) | .control (.treatment _) | .fork =>
    inferInstanceAs (Decidable True)
  | .act _ (.requestInspection ..) | .act _ (.requestProvisionalReturn ..) =>
    inferInstanceAs (Decidable (¬ _))
  | .act _ (.continueOperation _) => inferInstanceAs (Decidable (∀ q ∈ s.processes, _))
  | .act _ (.requestDutyAssignment ..) | .act _ (.requestConditionCheck ..)
  | .act _ (.requestObstructionClearance ..) | .act _ (.requestFunctionalCheck ..)
  | .act _ (.requestProvisionalClosure ..) | .act _ (.requestVerification ..)
  | .act _ (.resumeProcess ..) | .act _ (.cancelProcess ..) | .act _ (.requestDependencyWaiver ..) =>
    inferInstanceAs (Decidable True)

instance decidableOpensGated (s : State) : Decidable (OpensGated s) :=
  inferInstanceAs (Decidable (_ ∧ _))

/-- Pump B is cleared and put on test, and its functional check starts. -/
def checkStarted : List RunEvent := [
  .act "clear" (.requestObstructionClearance (plainText "work") (plainText "pump-b")
    (plainText "initial-b-inspection-accepted") (plainText "backlog-b-clearance-001")),
  .act "clear-next" (.continueOperation (plainText "work")),
  .act "check" (.requestFunctionalCheck (plainText "work") (plainText "pump-b")
    (plainText "backlog-wg-03-pump-b-1-0123"))]

/-- The functional check fails, and its outcome is recorded under a predictable identity. -/
def failedOutcome : ProcessOutcomeRequest where
  requestId := "outcome"
  authorityId := "maintenance-controller"
  processId := "process-functional_check-pump-b-3"
  outcome := "failed"
  evidenceId := "evidence-b-functional-check-pass-001"
  baseStateId := "state-36000-1"

def returnToService : RunEvent := .act "return" (.requestProvisionalReturn (plainText "work")
  (plainText "pump-b") (plainText "evidence-b-functional-check-pass-001"))

/-- **A failed functional check returns a pump to service**: its evidence passes the gate, and no
functional check of the pump has ever been completed. -/
theorem failed_check_returns : ∃ opening,
    initialState (rs1 1 rs1Windows).opening (rs1 1 rs1Windows).schedule = .ok opening ∧
      ¬ ReturnsGated plainHost (rs1 1 rs1Windows) (RunState.root opening)
        (checkStarted ++ [.control (.outcome failedOutcome), returnToService]) := by
  have hmodes : (rs1 1 rs1Windows).opensWith (fun opening =>
      let M := world plainHost (rs1 1 rs1Windows)
      let c := M.run (RunState.root opening) (checkStarted ++ [.control (.outcome failedOutcome)])
      decide (c.state.physical.mode "pump-b" ≠ some .runInService) &&
        decide ((M.step c returnToService).state.physical.mode "pump-b" = some .runInService)) =
        true := by
    decide +kernel
  have hchecks : (rs1 1 rs1Windows).opensWith (fun opening =>
      let M := world plainHost (rs1 1 rs1Windows)
      decide (M.Along (fun c event => ¬ Completes c.state (M.step c event).state .functionalCheck
        "pump-b") (RunState.root opening)
          (checkStarted ++ [.control (.outcome failedOutcome)]))) = true := by
    decide +kernel
  obtain ⟨opening, hopening, hmode⟩ := Profile.exists_opening hmodes
  obtain ⟨_, hopening', hnone⟩ := Profile.exists_opening hchecks
  obtain rfl := Except.ok.inj (hopening.symm.trans hopening')
  simp only [Bool.and_eq_true, decide_eq_true_eq] at hmode hnone
  obtain ⟨hbefore, hafter⟩ := hmode
  refine ⟨opening, hopening, fun hgated => ?_⟩
  have hsplit : checkStarted ++ [.control (.outcome failedOutcome), returnToService] =
      (checkStarted ++ [.control (.outcome failedOutcome)]) ++ returnToService :: [] := by
    rw [List.append_assoc, List.singleton_append]
  obtain ⟨pre, event, post, heq, hcompletes, hnot⟩ := (hgated _ _ _ hsplit "pump-b").1 hbefore hafter
  rw [Machine.along_iff_forall_split] at hnone
  exact hnone pre event post heq hcompletes

/-- The run in which the check is completed instead. -/
theorem completed_check_returns : ∃ opening,
    initialState (rs1 1 rs1Windows).opening (rs1 1 rs1Windows).schedule = .ok opening ∧
      ReturnsGated plainHost (rs1 1 rs1Windows) (RunState.root opening)
        (checkStarted ++ [.act "next" (.continueOperation (plainText "work")), returnToService]) := by
  have hopens : (rs1 1 rs1Windows).opensWith (fun opening => decide (OpensGated opening)) = true := by
    decide +kernel
  have hkeeps : (rs1 1 rs1Windows).opensWith (fun opening =>
      decide ((world plainHost (rs1 1 rs1Windows)).Along (fun c event => KeepsGates c.state event)
        (RunState.root opening) (checkStarted ++
          [.act "next" (.continueOperation (plainText "work")), returnToService]))) = true := by
    decide +kernel
  obtain ⟨opening, hopening, hgated⟩ := Profile.exists_opening hopens
  obtain ⟨_, hopening', halong⟩ := Profile.exists_opening hkeeps
  obtain rfl := Except.ok.inj (hopening.symm.trans hopening')
  exact ⟨opening, hopening, returns_gated hopening (of_decide_eq_true hgated)
    (of_decide_eq_true halong)⟩

end AecBench.Worlds.PumpStation
