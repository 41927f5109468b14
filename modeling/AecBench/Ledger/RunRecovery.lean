import AecBench.Ledger.EvidenceRunStore

/-!
# Recovery of the evidence run store

Every call of the store makes its writes in an order in which the call itself can be repeated at
each stop, as long as each specification and each plan given to it reads back as itself. A
specification with a tuple in the parameters of an agent condition reads back with a list, and
its creation, stopped after the first document, cannot be repeated.

## Main definitions

* `StoreCall.ReadsBack` — the records of a call read back as themselves.
* `Sound` — what a directory can hold between two writes.
* `Recovers` — what is asked of a store that is reopened.

## Main results

* `consumes` — a call that has made its first write has only the rest of it to do.
* `run_store_recovers` — every store that calls lead to recovers.
* `not_recovers_tuple` — a store does not recover from the creation of a run with a tuple.
-/

namespace AecBench.Ledger

open AecBench.Contracts
open Validation

/-! ## What a directory can hold -/

/-- The records of a call read back as themselves. -/
def StoreCall.ReadsBack : StoreCall → Prop
  | .createRun spec => spec.1.dumped = spec.1
  | .writeDraftPlan _ plan => plan.1.dumped = plan.1
  | .promoteReadyPlan _ plan => plan.1.dumped = plan.1
  | .startRun _ _ => True
  | .closeRun _ _ => True

/-- A specification stored under a name. -/
structure KeptSpec (name : String) (spec : ResolvedRunSpec) : Prop where
  valid : spec.errors = []
  dumped : spec.dumped = spec
  located : locator spec.runIdentity = name

/-- A stored plan. -/
structure KeptPlan (plan : RunPlan) : Prop where
  valid : plan.errors = []
  dumped : plan.dumped = plan

/-- A state in which the plan can still be replaced. -/
def EvidenceRunState.Editable (state : EvidenceRunState) : Prop :=
  ¬ (state.state = .started ∨ state.state = .closed)

instance (state : EvidenceRunState) : Decidable state.Editable :=
  inferInstanceAs (Decidable (¬ (_ ∨ _)))

/-- What the documents of one run have to do with each other between two writes. -/
structure Coherent (spec : ResolvedRunSpec) (plan : RunPlan) (state : EvidenceRunState) :
    Prop where
  valid : state.validateTimestamps = .ok ()
  run : state.runIdentity = spec.runIdentity
  parts : validatePlanParts plan spec = .ok ()
  stage : plan.state = .draft ∨ plan.state = .ready ∧ validatePlanComplete plan spec = .ok ()
  locked : ¬ state.Editable → plan.state = .ready ∧ state.planIdentity = some plan.planIdentity

/-- The state of a new run. -/
def newState (spec : ResolvedRunSpec) : EvidenceRunState :=
  { state := .draft, runIdentity := spec.runIdentity }

/-- What a directory of the name can hold between two writes. -/
inductive Sound (name : String) : Option RunDirectory → Prop
  | absent : Sound name none
  | empty : Sound name (some {})
  | specified {spec : ResolvedRunSpec} (hspec : KeptSpec name spec) :
      Sound name (some { spec := some spec })
  | created {spec : ResolvedRunSpec} (hspec : KeptSpec name spec) :
      Sound name (some { spec := some spec, state := some (newState spec) })
  | planned {spec : ResolvedRunSpec} {plan : RunPlan} {state : EvidenceRunState}
      (hspec : KeptSpec name spec) (hplan : KeptPlan plan) (h : Coherent spec plan state) :
      Sound name (some { spec := some spec, plan := some plan, state := some state })

/-! ## Reading what a directory holds -/

lemma readOptional_eq {α : Type} {errors : α → Errors} {file : String} {document : Option α}
    (h : ∀ x ∈ document, errors x = []) : readOptional errors file document = .ok document := by
  cases document with
  | none => rfl
  | some x => simp [readOptional, h x rfl]

variable {state : EvidenceRunState}

lemma EvidenceRunState.errors_eq_nil : state.errors = [] ↔ state.validateTimestamps = .ok () := by
  rw [EvidenceRunState.errors, record_eq_nil]
  simp

lemma newState_valid (spec : ResolvedRunSpec) : (newState spec).validateTimestamps = .ok () := by
  simp [newState, EvidenceRunState.validateTimestamps, require_bind_eq_ok]

variable {plan : RunPlan} {spec : ResolvedRunSpec}

section Read

variable {name : String} {d : RunDirectory}

lemma Sound.readSpec (h : Sound name (some d)) : d.readSpec = .ok d.spec := by
  refine readOptional_eq fun spec hspec => ?_
  cases h with
  | empty => simp at hspec
  | specified hkept | created hkept | planned hkept => exact Option.some.inj hspec ▸ hkept.valid

lemma Sound.readPlan (h : Sound name (some d)) : d.readPlan = .ok d.plan := by
  refine readOptional_eq fun plan hplan => ?_
  cases h with
  | empty | specified | created => simp at hplan
  | planned _ hkept => exact Option.some.inj hplan ▸ hkept.valid

lemma Sound.readState (h : Sound name (some d)) : d.readState = .ok d.state := by
  refine readOptional_eq fun state hstate => ?_
  rw [EvidenceRunState.errors_eq_nil]
  cases h with
  | empty | specified => simp at hstate
  | created => exact Option.some.inj hstate ▸ newState_valid _
  | planned _ _ h => exact Option.some.inj hstate ▸ h.valid

/-- What a call finds that reads the specification and the state of its run. -/
structure Holds (directory : Option RunDirectory) (runIdentity : EntityIdentity) (d : RunDirectory)
    (spec : ResolvedRunSpec) (state : EvidenceRunState) : Prop where
  here : directory = some d
  spec_eq : d.spec = some spec
  state_eq : d.state = some state
  run : spec.runIdentity = runIdentity
  stateRun : state.runIdentity = runIdentity

variable {directory : Option RunDirectory} {runIdentity : EntityIdentity}

lemma Sound.requireSpecAndState_eq_ok (h : Sound name directory)
    {r : RunDirectory × ResolvedRunSpec × EvidenceRunState} :
    requireSpecAndState directory runIdentity = .ok r ↔
      Holds directory runIdentity r.1 r.2.1 r.2.2 := by
  cases directory with
  | none =>
    refine ⟨fun hread => ?_, fun hholds => absurd hholds.here (by simp)⟩
    simp [requireSpecAndState, requireDirectory, bind, Except.bind] at hread
  | some d =>
    obtain ⟨d', spec, state⟩ := r
    simp only [requireSpecAndState, requireDirectory, ok_bind, h.readSpec, h.readState]
    rw [bind_eq_ok]
    simp only [require_bind_eq_ok, pure_eq_ok]
    constructor
    · rintro ⟨⟨spec', state'⟩, hboth, hrun, hrun', hr⟩
      obtain ⟨rfl, rfl, rfl⟩ : d = d' ∧ spec' = spec ∧ state' = state := by simpa using hr
      have hrecords : d.spec = some spec' ∧ d.state = some state' := by
        cases hs : d.spec <;> cases ht : d.state <;> simp_all [bothRecords]
      exact ⟨rfl, hrecords.1, hrecords.2, hrun, hrun'⟩
    · rintro ⟨hd, hspec, hstate, hrun, hrun'⟩
      obtain rfl := Option.some.inj hd
      have hboth : bothRecords d.spec d.state = .ok (spec, state) := by
        rw [hspec, hstate, bothRecords]
      exact ⟨(spec, state), hboth, hrun, hrun', rfl⟩

lemma validatePlanAgainstSpec_eq_ok {complete : Bool} :
    validatePlanAgainstSpec plan spec complete = .ok () ↔
      validatePlanParts plan spec = .ok () ∧
        (complete = true → validatePlanComplete plan spec = .ok ()) := by
  rw [validatePlanAgainstSpec, unit_bind_eq_ok]
  cases complete <;> simp

lemma checkStoredPlan_eq_ok :
    checkStoredPlan spec state (some plan) = .ok () ↔
      validatePlanParts plan spec = .ok () ∧
        (state.state ≠ .draft → validatePlanComplete plan spec = .ok ()) ∧
        state.planIdentity = some plan.planIdentity ∧
        plan.state = if state.state = .draft then .draft else .ready := by
  rw [checkStoredPlan, unit_bind_eq_ok, validatePlanAgainstSpec_eq_ok]
  simp only [require_bind_eq_ok, require_eq_ok, decide_eq_true_eq, ne_eq, and_assoc]

lemma Sound.readRunUnlocked_eq_ok (h : Sound name directory) {r : StoredEvidenceRun} :
    readRunUnlocked directory runIdentity = .ok r ↔
      ∃ d, Holds directory runIdentity d r.spec r.state ∧ d.plan = r.plan ∧
        checkStoredPlan r.spec r.state r.plan = .ok () := by
  obtain ⟨spec, plan, state⟩ := r
  rw [readRunUnlocked, bind_eq_ok]
  constructor
  · rintro ⟨⟨d, spec', state'⟩, hread, hrest⟩
    have hholds := h.requireSpecAndState_eq_ok.mp hread
    have hd : Sound name (some d) := hholds.here ▸ h
    simp only [hd.readPlan, ok_bind, unit_bind_eq_ok, pure_eq_ok] at hrest
    obtain ⟨hcheck, hr⟩ := hrest
    obtain ⟨rfl, rfl, rfl⟩ : spec' = spec ∧ d.plan = plan ∧ state' = state := by simpa using hr
    exact ⟨d, hholds, rfl, hcheck⟩
  · rintro ⟨d, hholds, rfl, hcheck⟩
    have hd : Sound name (some d) := hholds.here ▸ h
    refine ⟨(d, spec, state), h.requireSpecAndState_eq_ok.mpr hholds, ?_⟩
    simp only [hd.readPlan, ok_bind, unit_bind_eq_ok, pure_eq_ok]
    exact ⟨hcheck, trivial⟩

end Read

/-! ## What each call does -/

section Calls

variable {name : String} {directory : Option RunDirectory} {runIdentity : EntityIdentity}

/-- What the creation of a run does. -/
def creation (spec : ResolvedRunSpec) (directory : Option RunDirectory) :
    Prepared StoredEvidenceRun :=
  { writes := (if directory = none then [.makeDirectory] else []) ++
      (if (directory.getD {}).spec = none then [.spec spec] else []) ++
      if (directory.getD {}).state = none then [.state (newState spec)] else []
    result := fun after => readRunUnlocked after spec.runIdentity }

variable {p : Prepared StoredEvidenceRun}

lemma createRun_eq_ok (h : Sound name directory) :
    createRun spec directory = .ok p ↔
      ((directory.getD {}).spec = none ∨ (directory.getD {}).spec = some spec) ∧
        creation spec directory = p := by
  have hd : Sound name (some (directory.getD {})) := by
    cases directory with
    | none => exact .empty
    | some d => exact h
  have hrest : ((directory.getD {}).readState >>= initialState spec (directory.getD {})) =
      .ok (if (directory.getD {}).state = none then [.state (newState spec)] else []) := by
    rw [hd.readState, ok_bind]
    generalize directory.getD {} = d at hd ⊢
    cases hd with
    | empty | specified | created | planned => rfl
  simp only [createRun, hd.readSpec, ok_bind, require_bind_eq_ok, hrest, pure_eq_ok]
  rfl

/-- The guards of `write_draft_plan`. -/
structure DraftGuards (runIdentity : EntityIdentity) (plan : RunPlan) (spec : ResolvedRunSpec)
    (state : EvidenceRunState) (current : Option RunPlan) : Prop where
  run : plan.runIdentity = runIdentity
  draft : plan.state = .draft
  parts : validatePlanParts plan spec = .ok ()
  editable : state.Editable
  revision : ∀ stored ∈ current, checkPlanRevision stored plan = .ok ()

/-- What `write_draft_plan` and `promote_ready_plan` write. -/
def replacePlan (runIdentity : EntityIdentity) (stage : OperationalState) (plan : RunPlan)
    (state : EvidenceRunState) (current : Option RunPlan) : Prepared RunPlan :=
  { writes := writeIfChanged .plan current plan ++ writeIfChanged .state (some state)
      { state := stage, runIdentity, planIdentity := some plan.planIdentity }
    result := fun _ => .ok plan }

lemma writeDraftPlan_eq_ok (h : Sound name directory) {p : Prepared RunPlan} :
    writeDraftPlan runIdentity plan directory = .ok p ↔
      ∃ d spec state, Holds directory runIdentity d spec state ∧
        DraftGuards runIdentity plan spec state d.plan ∧
        replacePlan runIdentity .draft plan state d.plan = p := by
  simp only [writeDraftPlan, validatePlanIdentity, require_bind_eq_ok]
  rw [bind_eq_ok]
  constructor
  · rintro ⟨hrun, hdraft, ⟨d, spec, state⟩, hread, hrest⟩
    have hholds := h.requireSpecAndState_eq_ok.mp hread
    have hd : Sound name (some d) := hholds.here ▸ h
    simp only [unit_bind_eq_ok, validatePlanAgainstSpec_eq_ok, require_eq_ok, hd.readPlan,
      ok_bind, pure_eq_ok] at hrest
    obtain ⟨⟨hparts, -⟩, heditable, hrevision, hp⟩ := hrest
    refine ⟨d, spec, state, hholds, ⟨hrun, hdraft, hparts, heditable, fun stored hstored => ?_⟩, hp⟩
    rw [Option.mem_def.mp hstored] at hrevision
    exact hrevision
  · rintro ⟨d, spec, state, hholds, hguards, hp⟩
    have hd : Sound name (some d) := hholds.here ▸ h
    refine ⟨hguards.run, hguards.draft, (d, spec, state), h.requireSpecAndState_eq_ok.mpr hholds,
      ?_⟩
    simp only [unit_bind_eq_ok, validatePlanAgainstSpec_eq_ok, require_eq_ok, hd.readPlan,
      ok_bind, pure_eq_ok]
    refine ⟨⟨hguards.parts, by simp⟩, hguards.editable, ?_, hp⟩
    cases hstored : d.plan with
    | none => rfl
    | some stored => exact hguards.revision stored hstored

/-- The guards of `promote_ready_plan`. -/
structure PromotionGuards (runIdentity : EntityIdentity) (plan : RunPlan) (spec : ResolvedRunSpec)
    (state : EvidenceRunState) (current : Option RunPlan) : Prop where
  run : plan.runIdentity = runIdentity
  ready : plan.state = .ready
  parts : validatePlanParts plan spec = .ok ()
  complete : validatePlanComplete plan spec = .ok ()
  editable : state.Editable
  draft : ∃ stored, current = some stored ∧ plan = { stored with state := .ready }

lemma promoteReadyPlan_eq_ok (h : Sound name directory) {p : Prepared RunPlan} :
    promoteReadyPlan runIdentity plan directory = .ok p ↔
      ∃ d spec state, Holds directory runIdentity d spec state ∧
        PromotionGuards runIdentity plan spec state d.plan ∧
        replacePlan runIdentity .ready plan state d.plan = p := by
  simp only [promoteReadyPlan, validatePlanIdentity, require_bind_eq_ok]
  rw [bind_eq_ok]
  constructor
  · rintro ⟨hrun, hready, ⟨d, spec, state⟩, hread, hrest⟩
    have hholds := h.requireSpecAndState_eq_ok.mp hread
    have hd : Sound name (some d) := hholds.here ▸ h
    simp only [unit_bind_eq_ok, validatePlanAgainstSpec_eq_ok, require_eq_ok, hd.readPlan,
      ok_bind] at hrest
    obtain ⟨⟨hparts, hcomplete⟩, heditable, hrest⟩ := hrest
    obtain ⟨stored, hstored, hrest⟩ := bind_eq_ok.mp hrest
    simp only [require_bind_eq_ok, pure_eq_ok] at hrest
    obtain ⟨-, hplan, hp⟩ := hrest
    have hcurrent : d.plan = some stored := by
      cases hd : d.plan with
      | none => simp [hd, requireDraft] at hstored
      | some x =>
        rw [hd, requireDraft] at hstored
        rw [Except.ok.inj hstored]
    refine ⟨d, spec, state, hholds,
      ⟨hrun, hready, hparts, hcomplete trivial, heditable, stored, hcurrent, hplan⟩, ?_⟩
    rw [hcurrent]
    exact hp
  · rintro ⟨d, spec, state, hholds, hguards, hp⟩
    have hd : Sound name (some d) := hholds.here ▸ h
    obtain ⟨stored, hcurrent, hplan⟩ := hguards.draft
    refine ⟨hguards.run, hguards.ready, (d, spec, state), h.requireSpecAndState_eq_ok.mpr hholds,
      ?_⟩
    simp only [unit_bind_eq_ok, validatePlanAgainstSpec_eq_ok, require_eq_ok, hd.readPlan,
      ok_bind, hcurrent, requireDraft, pure_eq_ok]
    have hidentity : stored.planIdentity = plan.planIdentity := by rw [hplan]
    refine ⟨⟨hguards.parts, fun _ => hguards.complete⟩, hguards.editable, ?_, hplan, ?_⟩
    · rw [hidentity]
      exact ⟨rfl, rfl, rfl⟩
    · rw [hcurrent] at hp
      exact hp

/-- What `start_run` and `close_run` find before they look at the stage of the run. -/
structure LockGuards (d : RunDirectory) (spec : ResolvedRunSpec) (state : EvidenceRunState)
    (plan : RunPlan) : Prop where
  plan_eq : d.plan = some plan
  parts : validatePlanParts plan spec = .ok ()
  complete : validatePlanComplete plan spec = .ok ()
  identity : state.planIdentity = some plan.planIdentity

lemma startRun_eq_ok (h : Sound name directory) {startedAt : Instant} :
    startRun runIdentity startedAt directory = .ok p ↔
      ∃ d spec state plan started, Holds directory runIdentity d spec state ∧
        LockGuards d spec state plan ∧ plan.state = .ready ∧
        startedState runIdentity plan state startedAt = .ok started ∧
        p = { writes := started.toList.map .state
              result := fun _ => .ok { spec, plan := some plan, state := started.getD state } } := by
  rw [startRun, bind_eq_ok]
  constructor
  · rintro ⟨⟨d, spec, state⟩, hread, hrest⟩
    have hholds := h.requireSpecAndState_eq_ok.mp hread
    have hd : Sound name (some d) := hholds.here ▸ h
    simp only [hd.readPlan, ok_bind] at hrest
    obtain ⟨plan, hplan, hrest⟩ := bind_eq_ok.mp hrest
    simp only [unit_bind_eq_ok, validatePlanAgainstSpec_eq_ok, require_eq_ok] at hrest
    obtain ⟨⟨hparts, hcomplete⟩, hidentity, hrest⟩ := hrest
    obtain ⟨started, hstarted, hp⟩ := bind_eq_ok.mp hrest
    have hready : d.plan = some plan ∧ plan.state = .ready := by
      cases hstored : d.plan with
      | none => simp [hstored, requireReady] at hplan
      | some stored =>
        by_cases hstage : stored.state = .ready
        · rw [hstored, requireReady, if_pos hstage] at hplan
          rw [← Except.ok.inj hplan]
          exact ⟨rfl, hstage⟩
        · simp [hstored, requireReady, hstage] at hplan
    exact ⟨d, spec, state, plan, started, hholds,
      ⟨hready.1, hparts, hcomplete trivial, hidentity⟩, hready.2, hstarted, (pure_eq_ok.mp hp).symm⟩
  · rintro ⟨d, spec, state, plan, started, hholds, hguards, hready, hstarted, rfl⟩
    have hd : Sound name (some d) := hholds.here ▸ h
    refine ⟨(d, spec, state), h.requireSpecAndState_eq_ok.mpr hholds, ?_⟩
    have hplan : requireReady d.plan = .ok plan := by
      rw [hguards.plan_eq, requireReady, if_pos hready]
    simp only [hd.readPlan, ok_bind, hplan, unit_bind_eq_ok, validatePlanAgainstSpec_eq_ok,
      require_eq_ok]
    refine ⟨⟨hguards.parts, fun _ => hguards.complete⟩, hguards.identity, ?_⟩
    rw [bind_eq_ok]
    exact ⟨started, hstarted, rfl⟩

lemma construct_eq_ok {s s' : EvidenceRunState} :
    s.construct = .ok s' ↔ s.validateTimestamps = .ok () ∧ s = s' := by
  unfold EvidenceRunState.construct
  cases s.validateTimestamps <;> simp

/-- The state that `start_run` writes. -/
def startedFrom (runIdentity : EntityIdentity) (plan : RunPlan) (startedAt : Instant) :
    EvidenceRunState :=
  { state := .started
    runIdentity
    planIdentity := some plan.planIdentity
    startedAt := some startedAt }

lemma startedState_eq_ok {startedAt : Instant} {started : Option EvidenceRunState} :
    startedState runIdentity plan state startedAt = .ok started ↔
      state.state = .started ∧ state.startedAt = some startedAt ∧ started = none ∨
      state.state = .ready ∧ plan.createdAt ≤ startedAt ∧
        (startedFrom runIdentity plan startedAt).validateTimestamps = .ok () ∧
        started = some (startedFrom runIdentity plan startedAt) := by
  unfold startedState
  cases hstage : state.state with
  | draft | closed => simp
  | started =>
    simp only [require_bind_eq_ok, pure_eq_ok]
    simp [eq_comm]
  | ready =>
    rw [require_bind_eq_ok, bind_eq_ok]
    simp only [construct_eq_ok, pure_eq_ok]
    constructor
    · rintro ⟨hcreated, written, ⟨hvalid, rfl⟩, rfl⟩
      exact .inr ⟨trivial, hcreated, hvalid, rfl⟩
    · rintro (⟨hfalse, -⟩ | ⟨-, hcreated, hvalid, rfl⟩)
      · simp at hfalse
      · exact ⟨hcreated, _, ⟨hvalid, rfl⟩, rfl⟩

/-- The state that `close_run` writes. -/
def closedFrom (runIdentity : EntityIdentity) (plan : RunPlan) (state : EvidenceRunState)
    (closedAt : Instant) : EvidenceRunState :=
  { state := .closed
    runIdentity
    planIdentity := some plan.planIdentity
    startedAt := state.startedAt
    closedAt := some closedAt }

lemma closeRun_eq_ok (h : Sound name directory) {closedAt : Instant} :
    closeRun runIdentity closedAt directory = .ok p ↔
      ∃ d spec state, Holds directory runIdentity d spec state ∧
        (state.state = .closed ∧ state.closedAt = some closedAt ∧
            p = { writes := [], result := fun after => readRunUnlocked after runIdentity } ∨
          state.state = .started ∧ state.startedAt.isSome = true ∧ ∃ plan,
            LockGuards d spec state plan ∧
            (closedFrom runIdentity plan state closedAt).validateTimestamps = .ok () ∧
            p = { writes := [.state (closedFrom runIdentity plan state closedAt)]
                  result := fun _ => .ok { spec, plan := some plan
                                           state := closedFrom runIdentity plan state closedAt } }) := by
  rw [closeRun, bind_eq_ok]
  constructor
  · rintro ⟨⟨d, spec, state⟩, hread, hrest⟩
    have hholds := h.requireSpecAndState_eq_ok.mp hread
    have hd : Sound name (some d) := hholds.here ▸ h
    refine ⟨d, spec, state, hholds, ?_⟩
    simp only at hrest
    by_cases hclosed : state.state = .closed
    · rw [if_pos hclosed, closeAgain, require_bind_eq_ok, pure_eq_ok] at hrest
      exact .inl ⟨hclosed, hrest.1, hrest.2.symm⟩
    · rw [if_neg hclosed, closeStarted, require_bind_eq_ok, hd.readPlan, ok_bind] at hrest
      obtain ⟨⟨hstage, hat⟩, hrest⟩ := hrest
      obtain ⟨plan, hplan, hrest⟩ := bind_eq_ok.mp hrest
      simp only [unit_bind_eq_ok, validatePlanAgainstSpec_eq_ok, require_eq_ok] at hrest
      obtain ⟨⟨hparts, hcomplete⟩, hidentity, hrest⟩ := hrest
      obtain ⟨closed, hconstruct, hp⟩ := bind_eq_ok.mp hrest
      obtain ⟨hvalid, rfl⟩ := construct_eq_ok.mp hconstruct
      have hstored : d.plan = some plan := by
        cases hstored : d.plan with
        | none => simp [hstored, requireStarted] at hplan
        | some stored =>
          rw [hstored, requireStarted] at hplan
          rw [Except.ok.inj hplan]
      exact .inr ⟨hstage, hat, plan, ⟨hstored, hparts, hcomplete trivial, hidentity⟩, hvalid,
        (pure_eq_ok.mp hp).symm⟩
  · rintro ⟨d, spec, state, hholds, hcases⟩
    have hd : Sound name (some d) := hholds.here ▸ h
    refine ⟨(d, spec, state), h.requireSpecAndState_eq_ok.mpr hholds, ?_⟩
    simp only
    obtain ⟨hclosed, hat, rfl⟩ | ⟨hstage, hat, plan, hguards, hvalid, rfl⟩ := hcases
    · rw [if_pos hclosed, closeAgain, require_bind_eq_ok]
      exact ⟨hat, rfl⟩
    · have hplan : requireStarted d.plan = .ok plan := by rw [hguards.plan_eq, requireStarted]
      rw [if_neg (by simp [hstage]), closeStarted, require_bind_eq_ok, hd.readPlan, ok_bind, hplan,
        ok_bind]
      refine ⟨⟨hstage, hat⟩, ?_⟩
      simp only [unit_bind_eq_ok, validatePlanAgainstSpec_eq_ok, require_eq_ok]
      refine ⟨⟨hguards.parts, fun _ => hguards.complete⟩, hguards.identity, ?_⟩
      rw [bind_eq_ok]
      exact ⟨_, construct_eq_ok.mpr ⟨hvalid, rfl⟩, rfl⟩

end Calls

/-! ## Calls that stop -/

/-- An operation that has made its first write has only the rest of it to do, and returns what it
would have returned. -/
def Resumes {β : Type} (I : Option RunDirectory → Prop)
    (op : Option RunDirectory → Except StoreError (Prepared β)) : Prop :=
  ∀ d p w ws, I d → op d = .ok p → p.writes = w :: ws → I (w.apply d) ∧
    ∃ q b, op (w.apply d) = .ok q ∧ q.writes = ws ∧
      q.result (ws.foldl FileWrite.apply (w.apply d)) = .ok b ∧
      p.result (ws.foldl FileWrite.apply (w.apply d)) = .ok b

variable {c : StoreCall} {w : FileWrite} {ws : List FileWrite}

lemma prepare_eq_cons {β : Type} (op : Option RunDirectory → Except StoreError (Prepared β))
    {f : β → StoreAnswer} (hc : ∀ d, c.prepare d = (op d).map (.map f)) {d : Option RunDirectory}
    (h : directoryJournal.prepare c d = .ok (w :: ws)) :
    ∃ p, op d = .ok p ∧ p.writes = w :: ws := by
  cases hop : op d with
  | error e => simp [directoryJournal, hc, hop, Except.map] at h
  | ok p => exact ⟨p, rfl, by simpa [directoryJournal, hc, hop, Except.map, Prepared.map] using h⟩

lemma Resumes.consumes {β : Type} {I : Option RunDirectory → Prop}
    {op : Option RunDirectory → Except StoreError (Prepared β)} (h : Resumes I op)
    {f : β → StoreAnswer} (hc : ∀ d, c.prepare d = (op d).map (.map f)) {d : Option RunDirectory}
    (hd : I d) (hprepare : directoryJournal.prepare c d = .ok (w :: ws)) :
    I (w.apply d) ∧ directoryJournal.prepare c (w.apply d) = .ok ws ∧
      ∃ a, directoryJournal.answer c (w.apply d) = .ok a ∧ directoryJournal.answer c d = .ok a := by
  obtain ⟨p, hop, hwrites⟩ := prepare_eq_cons op hc hprepare
  obtain ⟨hi, q, b, hq, hqwrites, hagain, hresult⟩ := h d p w ws hd hop hwrites
  refine ⟨hi, ?_, f b, ?_, ?_⟩
  · show (c.prepare (w.apply d)).map _ = _
    rw [hc, hq]
    exact congrArg Except.ok hqwrites
  · show (c.prepare (w.apply d) >>= _) = _
    rw [hc, hq]
    show (q.result (q.writes.foldl _ _)).map f = _
    rw [hqwrites]
    exact congrArg (Except.map f) hagain
  · show (c.prepare d >>= _) = _
    rw [hc, hop]
    show (p.result (p.writes.foldl _ _)).map f = _
    rw [hwrites]
    exact congrArg (Except.map f) hresult

section Resuming

variable {name : String}

lemma writeIfChanged_pair_eq_cons {α β : Type} [DecidableEq α] [DecidableEq β] {f : α → FileWrite}
    {g : β → FileWrite} {a : Option α} {b : Option β} {x : α} {y : β}
    (h : writeIfChanged f a x ++ writeIfChanged g b y = w :: ws) :
    w = f x ∧ ws = writeIfChanged g b y ∨ a = some x ∧ w = g y ∧ ws = [] := by
  by_cases ha : a = some x
  · by_cases hb : b = some y
    · simp [writeIfChanged, ha, hb] at h
    · exact .inr ⟨ha, by simpa [writeIfChanged, ha, hb, eq_comm] using h⟩
  · exact .inl (by simpa [writeIfChanged, ha, eq_comm] using h)

variable {d : RunDirectory}

lemma Sound.putPlan (h : Sound name (some d)) (hspec : d.spec = some spec)
    (hstate : d.state = some state) (hplan : KeptPlan plan) (heditable : state.Editable)
    (hparts : validatePlanParts plan spec = .ok ())
    (hstage : plan.state = .draft ∨ plan.state = .ready ∧ validatePlanComplete plan spec = .ok ()) :
    Sound name (some { d with plan := some plan }) := by
  cases h with
  | empty => simp at hspec
  | specified => simp at hstate
  | created hkept =>
    obtain rfl := Option.some.inj hspec
    obtain rfl := Option.some.inj hstate
    exact .planned hkept hplan
      ⟨newState_valid _, rfl, hparts, hstage, fun hn => absurd heditable hn⟩
  | planned hkept _ hcoherent =>
    obtain rfl := Option.some.inj hspec
    obtain rfl := Option.some.inj hstate
    exact .planned hkept hplan
      ⟨hcoherent.valid, hcoherent.run, hparts, hstage, fun hn => absurd heditable hn⟩

lemma Sound.putState (h : Sound name (some d)) (hspec : d.spec = some spec)
    (hplan : d.plan = some plan) (hvalid : state.validateTimestamps = .ok ())
    (hrun : state.runIdentity = spec.runIdentity)
    (hlocked : ¬ state.Editable → plan.state = .ready ∧
      state.planIdentity = some plan.planIdentity) :
    Sound name (some { d with state := some state }) := by
  cases h with
  | empty => simp at hspec
  | specified | created => simp at hplan
  | planned hkept hstored hcoherent =>
    obtain rfl := Option.some.inj hspec
    obtain rfl := Option.some.inj hplan
    exact .planned hkept hstored ⟨hvalid, hrun, hcoherent.parts, hcoherent.stage, hlocked⟩

lemma Sound.locked (h : Sound name (some d)) (hstate : d.state = some state)
    (hplan : d.plan = some plan) (hn : ¬ state.Editable) :
    plan.state = .ready ∧ state.planIdentity = some plan.planIdentity := by
  cases h with
  | empty | specified | created => simp at hplan
  | planned _ _ hcoherent =>
    obtain rfl := Option.some.inj hstate
    obtain rfl := Option.some.inj hplan
    exact hcoherent.locked hn

lemma checkPlanRevision_self (plan : RunPlan) : checkPlanRevision plan plan = .ok () := by
  simp [checkPlanRevision, require_bind_eq_ok]

/-- The state that goes with a replaced plan. -/
def planState (runIdentity : EntityIdentity) (stage : OperationalState) (plan : RunPlan) :
    EvidenceRunState :=
  { state := stage, runIdentity, planIdentity := some plan.planIdentity }

/-- What the guards `G` of an operation that replaces the plan promise. -/
structure Replaces (runIdentity : EntityIdentity) (stage : OperationalState) (plan : RunPlan)
    (G : ResolvedRunSpec → EvidenceRunState → Option RunPlan → Prop) : Prop where
  early : stage = .draft ∨ stage = .ready
  editable {s t current} : G s t current → t.Editable
  parts {s t current} : G s t current → validatePlanParts plan s = .ok ()
  planStage {s t current} : G s t current →
    plan.state = .draft ∨ plan.state = .ready ∧ validatePlanComplete plan s = .ok ()
  again {s t current} : G s t current → G s t (some plan)
  staged {s t} : G s t (some plan) → G s (planState runIdentity stage plan) (some plan)

variable {runIdentity : EntityIdentity}

lemma Replaces.resumes {stage : OperationalState}
    {G : ResolvedRunSpec → EvidenceRunState → Option RunPlan → Prop}
    (hG : Replaces runIdentity stage plan G) (hplan : KeptPlan plan)
    {op : Option RunDirectory → Except StoreError (Prepared RunPlan)}
    (hop : ∀ {directory p}, Sound name directory → (op directory = .ok p ↔
      ∃ d spec state, Holds directory runIdentity d spec state ∧ G spec state d.plan ∧
        replacePlan runIdentity stage plan state d.plan = p)) : Resumes (Sound name) op := by
  intro directory p w ws h hp hwrites
  obtain ⟨d, spec, state, hholds, hguards, rfl⟩ := (hop h).mp hp
  obtain rfl := hholds.here
  obtain ⟨rfl, rfl⟩ | ⟨hcurrent, rfl, rfl⟩ := writeIfChanged_pair_eq_cons hwrites
  · -- the plan is written, the state is left
    have hput : FileWrite.apply (some d) (.plan plan) = some { d with plan := some plan } := by
      simp [FileWrite.apply, hplan.dumped]
    have hsound := h.putPlan hholds.spec_eq hholds.state_eq hplan (hG.editable hguards)
      (hG.parts hguards) (hG.planStage hguards)
    rw [hput]
    refine ⟨hsound, replacePlan runIdentity stage plan state (some plan), plan, (hop hsound).mpr
      ⟨_, spec, state, ⟨rfl, hholds.spec_eq, hholds.state_eq, hholds.run, hholds.stateRun⟩,
        hG.again hguards, rfl⟩, ?_, rfl, rfl⟩
    simp [replacePlan, writeIfChanged]
  · -- the plan was there, the state is written
    rw [hcurrent] at hguards
    have heditable := hG.editable (hG.staged hguards)
    have hvalid : (planState runIdentity stage plan).validateTimestamps = .ok () := by
      obtain hstage | hstage := hG.early <;>
        simp [planState, hstage, EvidenceRunState.validateTimestamps, require_bind_eq_ok]
    have hsound : Sound name (some { d with state := some (planState runIdentity stage plan) }) :=
      h.putState hholds.spec_eq hcurrent hvalid hholds.run.symm fun hn => absurd heditable hn
    refine ⟨hsound, replacePlan runIdentity stage plan (planState runIdentity stage plan)
      (some plan), plan, (hop hsound).mpr ⟨_, spec, planState runIdentity stage plan,
        ⟨rfl, hholds.spec_eq, rfl, hholds.run, rfl⟩, ?_, ?_⟩, ?_, rfl, rfl⟩
    · show G spec _ d.plan
      rw [hcurrent]
      exact hG.staged hguards
    · show replacePlan _ _ _ _ d.plan = _
      rw [hcurrent]
    · simp [replacePlan, writeIfChanged, planState]

lemma replaces_draft (runIdentity : EntityIdentity) (plan : RunPlan) :
    Replaces runIdentity .draft plan (DraftGuards runIdentity plan) where
  early := .inl rfl
  editable := (·.editable)
  parts := (·.parts)
  planStage hguards := .inl hguards.draft
  again hguards :=
    { hguards with
      revision := fun stored hstored => by
        rw [← Option.some.inj hstored]
        exact checkPlanRevision_self plan }
  staged hguards := { hguards with editable := by simp [EvidenceRunState.Editable, planState] }

lemma replaces_ready (runIdentity : EntityIdentity) (plan : RunPlan) :
    Replaces runIdentity .ready plan (PromotionGuards runIdentity plan) where
  early := .inr rfl
  editable := (·.editable)
  parts := (·.parts)
  planStage hguards := .inr ⟨hguards.ready, hguards.complete⟩
  again hguards := { hguards with draft := ⟨plan, rfl, by rw [← hguards.ready]⟩ }
  staged hguards := { hguards with editable := by simp [EvidenceRunState.Editable, planState] }

lemma writeDraftPlan_resumes (hplan : KeptPlan plan) :
    Resumes (Sound name) (writeDraftPlan runIdentity plan) :=
  (replaces_draft runIdentity plan).resumes hplan fun h => writeDraftPlan_eq_ok h

lemma promoteReadyPlan_resumes (hplan : KeptPlan plan) :
    Resumes (Sound name) (promoteReadyPlan runIdentity plan) :=
  (replaces_ready runIdentity plan).resumes hplan fun h => promoteReadyPlan_eq_ok h

lemma readRunUnlocked_created (hspec : KeptSpec name spec) :
    readRunUnlocked (some { spec := some spec, state := some (newState spec) }) spec.runIdentity =
      .ok { spec, plan := none, state := newState spec } := by
  rw [(Sound.created hspec).readRunUnlocked_eq_ok]
  exact ⟨_, ⟨rfl, rfl, rfl, rfl, rfl⟩, rfl, by simp [checkStoredPlan, newState]⟩

lemma createRun_resumes (hspec : KeptSpec name spec) : Resumes (Sound name) (createRun spec) := by
  intro directory p w ws h hp hwrites
  obtain ⟨hsame, rfl⟩ := (createRun_eq_ok h).mp hp
  have hput : FileWrite.apply (some {}) (.spec spec) = some { spec := some spec } := by
    simp [FileWrite.apply, hspec.dumped]
  have hread := readRunUnlocked_created hspec
  cases h with
  | absent =>
    obtain ⟨rfl, rfl⟩ := List.cons.inj hwrites
    have hsound : Sound name (some {}) := .empty
    have hfinal : readRunUnlocked (FileWrite.apply (FileWrite.apply (some {}) (.spec spec))
        (.state (newState spec))) spec.runIdentity =
        .ok { spec, plan := none, state := newState spec } := by
      rw [hput]
      exact hread
    exact ⟨hsound, _, _, (createRun_eq_ok hsound).mpr ⟨hsame, rfl⟩, rfl, hfinal, hfinal⟩
  | empty =>
    obtain ⟨rfl, rfl⟩ := List.cons.inj hwrites
    rw [hput]
    have hsound : Sound name (some { spec := some spec }) := .specified hspec
    exact ⟨hsound, _, _, (createRun_eq_ok hsound).mpr ⟨.inr rfl, rfl⟩, rfl, hread, hread⟩
  | specified hkept =>
    obtain rfl : spec = _ := by simpa [eq_comm] using hsame
    obtain ⟨rfl, rfl⟩ := List.cons.inj hwrites
    have hsound : Sound name (some { spec := some spec, state := some (newState spec) }) :=
      .created hspec
    exact ⟨hsound, _, _, (createRun_eq_ok hsound).mpr ⟨.inr rfl, rfl⟩, rfl, hread, hread⟩
  | created | planned => simp [creation] at hwrites

lemma startRun_resumes {startedAt : Instant} :
    Resumes (Sound name) (startRun runIdentity startedAt) := by
  intro directory p w ws h hp hwrites
  obtain ⟨d, spec, state, plan, started, hholds, hguards, hready, hstarted, rfl⟩ :=
    (startRun_eq_ok h).mp hp
  obtain rfl := hholds.here
  obtain ⟨-, -, rfl⟩ | ⟨-, -, hvalid, rfl⟩ := startedState_eq_ok.mp hstarted
  · simp at hwrites
  · obtain ⟨rfl, rfl⟩ := List.cons.inj hwrites
    have hsound : Sound name
        (some { d with state := some (startedFrom runIdentity plan startedAt) }) :=
      h.putState hholds.spec_eq hguards.plan_eq hvalid hholds.run.symm fun _ => ⟨hready, rfl⟩
    have hagain : startedState runIdentity plan (startedFrom runIdentity plan startedAt)
        startedAt = .ok none := startedState_eq_ok.mpr (.inl ⟨rfl, rfl, rfl⟩)
    exact ⟨hsound, _, _, (startRun_eq_ok hsound).mpr ⟨_, spec, _, plan, none,
      ⟨rfl, hholds.spec_eq, rfl, hholds.run, rfl⟩,
      ⟨hguards.plan_eq, hguards.parts, hguards.complete, rfl⟩, hready, hagain, rfl⟩, rfl, rfl, rfl⟩

lemma closeRun_resumes {closedAt : Instant} :
    Resumes (Sound name) (closeRun runIdentity closedAt) := by
  intro directory p w ws h hp hwrites
  obtain ⟨d, spec, state, hholds, ⟨-, -, rfl⟩ | ⟨hstage, -, plan, hguards, hvalid, rfl⟩⟩ :=
    (closeRun_eq_ok h).mp hp
  · simp at hwrites
  · obtain rfl := hholds.here
    obtain ⟨rfl, rfl⟩ := List.cons.inj hwrites
    have hready : plan.state = .ready :=
      (h.locked hholds.state_eq hguards.plan_eq (by simp [EvidenceRunState.Editable, hstage])).1
    have hsound : Sound name
        (some { d with state := some (closedFrom runIdentity plan state closedAt) }) :=
      h.putState hholds.spec_eq hguards.plan_eq hvalid hholds.run.symm fun _ => ⟨hready, rfl⟩
    have hread : readRunUnlocked
        (some { d with state := some (closedFrom runIdentity plan state closedAt) }) runIdentity =
        .ok { spec, plan := some plan, state := closedFrom runIdentity plan state closedAt } := by
      rw [hsound.readRunUnlocked_eq_ok]
      refine ⟨_, ⟨rfl, hholds.spec_eq, rfl, hholds.run, rfl⟩, hguards.plan_eq, ?_⟩
      rw [checkStoredPlan_eq_ok]
      exact ⟨hguards.parts, fun _ => hguards.complete, rfl, hready⟩
    exact ⟨hsound, _, _, (closeRun_eq_ok hsound).mpr ⟨_, spec, _,
      ⟨rfl, hholds.spec_eq, rfl, hholds.run, rfl⟩, .inl ⟨rfl, rfl, rfl⟩⟩, rfl, hread, rfl⟩

end Resuming

/-- A call whose records read back has, after its first write, only the rest of it to do, and it
returns. -/
lemma resumes (hc : c.ReadsBack) {d : Option RunDirectory} (hd : Sound (locator c.runIdentity) d)
    (h : directoryJournal.prepare c d = .ok (w :: ws)) :
    Sound (locator c.runIdentity) (w.apply d) ∧
      directoryJournal.prepare c (w.apply d) = .ok ws ∧
      ∃ a, directoryJournal.answer c (w.apply d) = .ok a ∧ directoryJournal.answer c d = .ok a := by
  cases c with
  | createRun spec => exact (createRun_resumes ⟨spec.2, hc, rfl⟩).consumes (fun _ => rfl) hd h
  | writeDraftPlan _ plan =>
    exact (writeDraftPlan_resumes ⟨plan.2, hc⟩).consumes (fun _ => rfl) hd h
  | promoteReadyPlan _ plan =>
    exact (promoteReadyPlan_resumes ⟨plan.2, hc⟩).consumes (fun _ => rfl) hd h
  | startRun => exact startRun_resumes.consumes (fun _ => rfl) hd h
  | closeRun => exact closeRun_resumes.consumes (fun _ => rfl) hd h

/-- **A call consumes its writes** in the directory of its run. -/
theorem consumes (hc : c.ReadsBack) :
    directoryJournal.Consumes (Sound (locator c.runIdentity)) c := by
  intro d w ws hd h
  obtain ⟨hsound, hrest, a, hagain, hanswer⟩ := resumes hc hd h
  exact ⟨hsound, hrest, hagain.trans hanswer.symm⟩

/-! ## Directories that can be read again -/

section Recovery

variable {name : String}

lemma completed_eq {d : Option RunDirectory} {p : Prepared StoreAnswer} (h : c.prepare d = .ok p) :
    directoryJournal.completed c d = p.writes.foldl FileWrite.apply d := by
  have hwrites : directoryJournal.prepare c d = .ok p.writes := by
    show (c.prepare d).map _ = _
    rw [h]
    rfl
  rw [Journal.completed, Journal.writesOf_eq hwrites]
  rfl

lemma replacePlan_self (spec : Option ResolvedRunSpec) (runIdentity : EntityIdentity)
    (stage : OperationalState) (plan : RunPlan) (state : EvidenceRunState) :
    (replacePlan runIdentity stage plan state (some plan)).writes.foldl FileWrite.apply
        (some { spec, plan := some plan, state := some state }) =
      some { spec, plan := some plan, state := some (planState runIdentity stage plan) } := by
  by_cases hsame : state = planState runIdentity stage plan
  · have hnone : (replacePlan runIdentity stage plan state (some plan)).writes = [] := by
      simp [replacePlan, writeIfChanged, hsame, planState]
    rw [hnone, List.foldl_nil, hsame]
  · have hone : (replacePlan runIdentity stage plan state (some plan)).writes =
        [.state (planState runIdentity stage plan)] := by
      simpa [replacePlan, writeIfChanged, planState] using hsame
    rw [hone]
    rfl

lemma readRunUnlocked_planned (hspec : KeptSpec name spec) (hplan : KeptPlan plan)
    (h : Coherent spec plan state) (hidentity : state.planIdentity = some plan.planIdentity)
    (hstage : plan.state = if state.state = .draft then .draft else .ready) :
    readRunUnlocked (some { spec := some spec, plan := some plan, state := some state })
      spec.runIdentity = .ok { spec, plan := some plan, state } := by
  rw [(Sound.planned hspec hplan h).readRunUnlocked_eq_ok]
  refine ⟨_, ⟨rfl, rfl, rfl, rfl, h.run⟩, rfl, ?_⟩
  rw [checkStoredPlan_eq_ok]
  refine ⟨h.parts, fun hn => ?_, hidentity, hstage⟩
  rw [if_neg hn] at hstage
  obtain hdraft | ⟨-, hcomplete⟩ := h.stage
  · rw [hdraft] at hstage
    simp at hstage
  · exact hcomplete

lemma completed_createRun {d : RunDirectory} (h : Sound name (some d)) (hvalid : spec.errors = [])
    (hspec : d.spec = some spec) :
    directoryJournal.completed (.createRun ⟨spec, hvalid⟩) (some d) =
      (creation spec (some d)).writes.foldl FileWrite.apply (some d) := by
  have hcreate := (createRun_eq_ok h).mpr ⟨.inr hspec, rfl⟩
  have hprepare : StoreCall.prepare (.createRun ⟨spec, hvalid⟩) (some d) =
      .ok ((creation spec (some d)).map .run) := by
    show (createRun spec (some d)).map _ = _
    rw [hcreate]
    rfl
  rw [completed_eq hprepare]
  rfl

lemma run_of_parts (h : validatePlanParts plan spec = .ok ()) :
    plan.runIdentity = spec.runIdentity := by
  rw [validatePlanParts, require_bind_eq_ok] at h
  exact h.1

section Planned

variable {spec : ResolvedRunSpec} {plan : RunPlan} {state : EvidenceRunState}

lemma readRunUnlocked_replaced (hspec : KeptSpec name spec) (hplan : KeptPlan plan)
    (h : Coherent spec plan state) {stage : OperationalState}
    (hstage : stage = .draft ∧ plan.state = .draft ∨ stage = .ready ∧ plan.state = .ready)
    (hc : c.prepare (some { spec := some spec, plan := some plan, state := some state }) =
      .ok ((replacePlan spec.runIdentity stage plan state (some plan)).map .plan)) :
    ∃ r, readRunUnlocked (directoryJournal.completed c
        (some { spec := some spec, plan := some plan, state := some state }))
      spec.runIdentity = .ok r := by
  have hfinal := replacePlan_self (some spec) spec.runIdentity stage plan state
  rw [completed_eq hc]
  show ∃ r, readRunUnlocked ((replacePlan _ _ _ _ _).writes.foldl _ _) _ = .ok r
  rw [hfinal]
  refine ⟨_, readRunUnlocked_planned hspec hplan ⟨?_, rfl, h.parts, h.stage, ?_⟩ rfl ?_⟩
  all_goals
    obtain ⟨rfl, hready⟩ | ⟨rfl, hready⟩ := hstage <;>
      simp [planState, EvidenceRunState.Editable, EvidenceRunState.validateTimestamps,
        require_bind_eq_ok, hready]

lemma prepare_writeDraftPlan (hspec : KeptSpec name spec) (hplan : KeptPlan plan)
    (h : Coherent spec plan state) (heditable : state.Editable) (hdraft : plan.state = .draft) :
    (StoreCall.writeDraftPlan spec.runIdentity ⟨plan, hplan.valid⟩).prepare
        (some { spec := some spec, plan := some plan, state := some state }) =
      .ok ((replacePlan spec.runIdentity .draft plan state (some plan)).map .plan) := by
  have hop := (writeDraftPlan_eq_ok (.planned hspec hplan h)).mpr ⟨_, spec, state,
    ⟨rfl, rfl, rfl, rfl, h.run⟩, ⟨run_of_parts h.parts, hdraft, h.parts, heditable, fun stored hs => by
      rw [← Option.some.inj hs]
      exact checkPlanRevision_self plan⟩, rfl⟩
  show (writeDraftPlan _ plan _).map _ = _
  rw [hop]
  rfl

lemma prepare_promoteReadyPlan (hspec : KeptSpec name spec) (hplan : KeptPlan plan)
    (h : Coherent spec plan state) (heditable : state.Editable) (hready : plan.state = .ready)
    (hcomplete : validatePlanComplete plan spec = .ok ()) :
    (StoreCall.promoteReadyPlan spec.runIdentity ⟨plan, hplan.valid⟩).prepare
        (some { spec := some spec, plan := some plan, state := some state }) =
      .ok ((replacePlan spec.runIdentity .ready plan state (some plan)).map .plan) := by
  have hop := (promoteReadyPlan_eq_ok (.planned hspec hplan h)).mpr ⟨_, spec, state,
    ⟨rfl, rfl, rfl, rfl, h.run⟩, ⟨run_of_parts h.parts, hready, h.parts, hcomplete, heditable, plan,
      rfl, by rw [← hready]⟩, rfl⟩
  show (promoteReadyPlan _ plan _).map _ = _
  rw [hop]
  rfl

end Planned

lemma Sound.recovers {d : RunDirectory} (h : Sound name (some d)) (hspec : d.spec = some spec) :
    ∃ c : StoreCall, c.ReadsBack ∧ c.runIdentity = spec.runIdentity ∧
      ∃ r, readRunUnlocked (directoryJournal.completed c (some d)) spec.runIdentity = .ok r := by
  cases h with
  | empty => simp at hspec
  | specified hkept =>
    obtain rfl := Option.some.inj hspec
    refine ⟨.createRun ⟨_, hkept.valid⟩, hkept.dumped, rfl, ?_⟩
    rw [completed_createRun (.specified hkept) hkept.valid rfl]
    exact ⟨_, readRunUnlocked_created hkept⟩
  | created hkept =>
    obtain rfl := Option.some.inj hspec
    refine ⟨.createRun ⟨_, hkept.valid⟩, hkept.dumped, rfl, ?_⟩
    rw [completed_createRun (.created hkept) hkept.valid rfl]
    exact ⟨_, readRunUnlocked_created hkept⟩
  | @planned _ _ state hkept hplan hcoherent =>
    obtain rfl := Option.some.inj hspec
    by_cases heditable : state.Editable
    · -- the stored plan is written once more, and its state with it
      obtain hdraft | ⟨hready, hcomplete⟩ := hcoherent.stage
      · refine ⟨.writeDraftPlan _ ⟨_, hplan.valid⟩, hplan.dumped, rfl, ?_⟩
        exact readRunUnlocked_replaced hkept hplan hcoherent (.inl ⟨rfl, hdraft⟩)
          (prepare_writeDraftPlan hkept hplan hcoherent heditable hdraft)
      · refine ⟨.promoteReadyPlan _ ⟨_, hplan.valid⟩, hplan.dumped, rfl, ?_⟩
        exact readRunUnlocked_replaced hkept hplan hcoherent (.inr ⟨rfl, hready⟩)
          (prepare_promoteReadyPlan hkept hplan hcoherent heditable hready hcomplete)
    · -- the run has started: nothing is missing
      obtain ⟨hready, hidentity⟩ := hcoherent.locked heditable
      refine ⟨.createRun ⟨_, hkept.valid⟩, hkept.dumped, rfl, ?_⟩
      rw [completed_createRun (.planned hkept hplan hcoherent) hkept.valid rfl]
      refine ⟨_, readRunUnlocked_planned hkept hplan hcoherent hidentity ?_⟩
      rw [hready, if_neg]
      intro hdraft
      simp [EvidenceRunState.Editable, hdraft] at heditable

end Recovery

/-! ## Runs that have started -/

section Locked

variable {name : String} {spec : ResolvedRunSpec} {plan : RunPlan}

/-- A directory of a run that has started with the specification and the plan. -/
def LockedWith (spec : ResolvedRunSpec) (plan : RunPlan) (d : Option RunDirectory) : Prop :=
  ∃ state, ¬ state.Editable ∧
    d = some { spec := some spec, plan := some plan, state := some state }

lemma LockedWith.not_editable {d : RunDirectory} (h : LockedWith spec plan (some d))
    (hstate : d.state = some state) : ¬ state.Editable := by
  obtain ⟨locked, hlocked, hd⟩ := h
  obtain rfl := Option.some.inj hd
  rwa [← Option.some.inj hstate]

lemma LockedWith.write {d : Option RunDirectory} (hd : Sound name d) (h : LockedWith spec plan d)
    (hw : directoryJournal.prepare c d = .ok (w :: ws)) : LockedWith spec plan (w.apply d) := by
  cases c with
  | createRun created =>
    obtain ⟨p, hop, hwrites⟩ := prepare_eq_cons (createRun created.1) (fun _ => rfl) hw
    obtain ⟨state, -, rfl⟩ := h
    obtain ⟨-, rfl⟩ := (createRun_eq_ok hd).mp hop
    simp [creation] at hwrites
  | writeDraftPlan id candidate =>
    obtain ⟨p, hop, -⟩ := prepare_eq_cons (writeDraftPlan id candidate.1) (fun _ => rfl) hw
    obtain ⟨d, found, state, hholds, hguards, -⟩ := (writeDraftPlan_eq_ok hd).mp hop
    obtain rfl := hholds.here
    exact absurd hguards.editable (h.not_editable hholds.state_eq)
  | promoteReadyPlan id candidate =>
    obtain ⟨p, hop, -⟩ := prepare_eq_cons (promoteReadyPlan id candidate.1) (fun _ => rfl) hw
    obtain ⟨d, found, state, hholds, hguards, -⟩ := (promoteReadyPlan_eq_ok hd).mp hop
    obtain rfl := hholds.here
    exact absurd hguards.editable (h.not_editable hholds.state_eq)
  | startRun id startedAt =>
    obtain ⟨p, hop, hwrites⟩ := prepare_eq_cons (startRun id startedAt) (fun _ => rfl) hw
    obtain ⟨d, found, state, stored, started, hholds, -, -, hstarted, rfl⟩ :=
      (startRun_eq_ok hd).mp hop
    obtain rfl := hholds.here
    obtain ⟨-, -, rfl⟩ | ⟨hready, -⟩ := startedState_eq_ok.mp hstarted
    · simp at hwrites
    · exact absurd (by simp [EvidenceRunState.Editable, hready])
        (h.not_editable hholds.state_eq)
  | closeRun id closedAt =>
    obtain ⟨p, hop, hwrites⟩ := prepare_eq_cons (closeRun id closedAt) (fun _ => rfl) hw
    obtain ⟨d, found, state, -, ⟨-, -, rfl⟩ | ⟨-, -, stored, -, -, rfl⟩⟩ :=
      (closeRun_eq_ok hd).mp hop
    · simp at hwrites
    · obtain ⟨rfl, -⟩ := List.cons.inj hwrites
      obtain ⟨locked, -, rfl⟩ := h
      exact ⟨_, by simp [EvidenceRunState.Editable, closedFrom], rfl⟩

lemma LockedWith.of_started {id : EntityIdentity} {startedAt : Instant} {d : Option RunDirectory}
    (hd : Sound name d) {a : StoreAnswer}
    (h : directoryJournal.answer (.startRun id startedAt) d = .ok a) :
    ∃ spec plan state, d = some { spec := some spec, plan := some plan, state := some state } ∧
      LockedWith spec plan (directoryJournal.completed (.startRun id startedAt) d) := by
  obtain ⟨prepared, hprepare, -⟩ := bind_eq_ok.mp h
  cases hop : startRun id startedAt d with
  | error e => simp [StoreCall.prepare, hop, Except.map] at hprepare
  | ok p =>
    have hp : StoreCall.prepare (.startRun id startedAt) d = .ok (p.map .run) := by
      show (startRun id startedAt d).map _ = _
      rw [hop]
      rfl
    rw [completed_eq hp]
    obtain ⟨d, spec, state, plan, started, hholds, hguards, -, hstarted, rfl⟩ :=
      (startRun_eq_ok hd).mp hop
    obtain rfl := hholds.here
    have hrecords : d = { spec := some spec, plan := some plan, state := some state } := by
      rw [← hholds.spec_eq, ← hguards.plan_eq, ← hholds.state_eq]
    refine ⟨spec, plan, state, congrArg some hrecords, ?_⟩
    rw [hrecords]
    obtain ⟨hstage, -, rfl⟩ | ⟨-, -, -, rfl⟩ := startedState_eq_ok.mp hstarted
    · exact ⟨state, by simp [EvidenceRunState.Editable, hstage], rfl⟩
    · exact ⟨_, by simp [EvidenceRunState.Editable, startedFrom], rfl⟩

end Locked

/-! ## The store -/

/-- A store in which no run was created. -/
def RunStore.empty : RunStore := fun _ => none

/-- What is asked of a store that is reopened, for calls of a kind `A`. -/
structure Recovers (A : StoreCall → Prop) (store : RunStore) : Prop where
  /-- A call that stops leaves the store as it was, or returns when it is repeated what it would
  have returned, with the store it would have left. -/
  repeatable : ∀ c k, A c → runJournal.interrupted c k store = store ∨
    runJournal.completed c (runJournal.interrupted c k store) = runJournal.completed c store ∧
      ∃ a, runJournal.answer c (runJournal.interrupted c k store) = .ok a ∧
        runJournal.answer c store = .ok a
  /-- Every run can be read after one more call. -/
  readable : ∀ name d spec, store name = some d → d.spec = some spec →
    ∃ c, A c ∧ ∃ r, readRun (runJournal.completed c store) spec.runIdentity = .ok r
  /-- The specification and the plan of a run that has been started stay as they are. -/
  stable : ∀ id startedAt a, runJournal.answer (.startRun id startedAt) store = .ok a →
    ∀ later : List (StoreCall × ℕ), (∀ e ∈ later, A e.1) →
      ∃ d d', store (locator id) = some d ∧
        runJournal.machine.run (runJournal.completed (.startRun id startedAt) store) later
          (locator id) = some d' ∧ d'.spec = d.spec ∧ d'.plan = d.plan

lemma runJournal_consumes (hc : c.ReadsBack) :
    runJournal.Consumes (fun store => ∀ name, Sound name (store name)) c :=
  Journal.Consumes.family (I := Sound) (consumes hc)

lemma runJournal_consumes_locked (hc : c.ReadsBack) {name : String} :
    runJournal.Consumes (fun store => ∀ i, Sound i (store i) ∧
      (i = name → LockedWith spec plan (store i))) c := by
  refine Journal.Consumes.family (I := fun i d => Sound i d ∧ (i = name → LockedWith spec plan d)) ?_
  intro d w ws hd h
  obtain ⟨hsound, hrest, hanswer⟩ := consumes hc d w ws hd.1 h
  exact ⟨⟨hsound, fun hname => (hd.2 hname).write hd.1 h⟩, hrest, hanswer⟩

section Store

variable {store : RunStore} (h : ∀ name, Sound name (store name))

include h

lemma repeatable_of_sound (hc : c.ReadsBack) (k : ℕ) :
    runJournal.interrupted c k store = store ∨
      runJournal.completed c (runJournal.interrupted c k store) = runJournal.completed c store ∧
        ∃ a, runJournal.answer c (runJournal.interrupted c k store) = .ok a ∧
          runJournal.answer c store = .ok a := by
  cases hprepare : runJournal.prepare c store with
  | error e => exact .inl (Journal.interrupted_of_error hprepare k)
  | ok ws =>
    cases ws with
    | nil =>
      refine .inl ?_
      rw [Journal.interrupted, Journal.writesOf_eq hprepare, List.take_nil, Journal.applyAll_nil]
    | cons w ws =>
      refine .inr ⟨Journal.interrupted_again (runJournal_consumes hc) h k, ?_⟩
      rw [Journal.answer_interrupted (runJournal_consumes hc) h k]
      obtain ⟨vs, hvs, hws⟩ := Journal.family_prepare_eq_ok.mp hprepare
      cases vs with
      | nil => simp at hws
      | cons v vs =>
        obtain ⟨-, -, a, -, ha⟩ := resumes hc (h _) hvs
        exact ⟨a, ha, ha⟩

lemma readable_of_sound {name : String} {d : RunDirectory} (hd : store name = some d)
    (hspec : d.spec = some spec) :
    ∃ c : StoreCall, c.ReadsBack ∧
      ∃ r, readRun (runJournal.completed c store) spec.runIdentity = .ok r := by
  have hsound : Sound name (some d) := hd ▸ h name
  obtain ⟨c, hc, hrun, r, hr⟩ := hsound.recovers hspec
  have hname : locator spec.runIdentity = name := by
    cases hsound with
    | empty => simp at hspec
    | specified hkept | created hkept | planned hkept => exact Option.some.inj hspec ▸ hkept.located
  refine ⟨c, hc, r, ?_⟩
  rw [readRun, runJournal, Journal.family_completed, hrun, hname, Function.update_self, hd]
  exact hr

/-- The specification and the plan of a run that has been started stay as they are. -/
lemma stable_of_sound {id : EntityIdentity} {startedAt : Instant} {a : StoreAnswer}
    (ha : runJournal.answer (.startRun id startedAt) store = .ok a)
    {later : List (StoreCall × ℕ)} (hlater : ∀ e ∈ later, e.1.ReadsBack) :
    ∃ d d', store (locator id) = some d ∧
      runJournal.machine.run (runJournal.completed (.startRun id startedAt) store) later
        (locator id) = some d' ∧ d'.spec = d.spec ∧ d'.plan = d.plan := by
  obtain ⟨spec, plan, state, hd, hlocked⟩ := LockedWith.of_started (h (locator id)) ha
  have hstart : ∀ i, Sound i (runJournal.completed (.startRun id startedAt) store i) ∧
      (i = locator id →
        LockedWith spec plan (runJournal.completed (.startRun id startedAt) store i)) := by
    intro i
    refine ⟨Journal.completed_preserves (runJournal_consumes (c := .startRun id startedAt) trivial)
      h i, ?_⟩
    rintro rfl
    rw [runJournal, Journal.family_completed]
    show LockedWith spec plan (Function.update store (locator id) _ (locator id))
    rw [Function.update_self]
    exact hlocked
  have hend := Journal.preserves (C := StoreCall.ReadsBack)
    (fun c hc => runJournal_consumes_locked hc) hstart hlater
  obtain ⟨state', -, hd'⟩ := (hend (locator id)).2 rfl
  exact ⟨_, _, hd, hd', rfl, rfl⟩

end Store

/-- **Crash recovery.** In every store that calls lead to whose records read back as themselves,
stopped anywhere between their writes, a call that stops can be repeated, every run can be read
after one more call, and a run that has been started keeps its specification and its plan. -/
theorem run_store_recovers (events : List (StoreCall × ℕ)) (h : ∀ e ∈ events, e.1.ReadsBack) :
    Recovers StoreCall.ReadsBack (runJournal.machine.run RunStore.empty events) := by
  have hsound : ∀ name, Sound name (runJournal.machine.run RunStore.empty events name) :=
    Journal.preserves (C := StoreCall.ReadsBack) (fun c hc => runJournal_consumes hc)
      (fun name => Sound.absent) h
  exact
    { repeatable := fun c k hc => repeatable_of_sound hsound hc k
      readable := fun _ _ _ hd hspec => readable_of_sound hsound hd hspec
      stable := fun _ _ _ ha _ hlater => stable_of_sound hsound ha hlater }

namespace Tupled

open Contracts.Colliding

/-- The specification of a run with one task and one agent condition with the parameters. -/
def specOf (parameters : PyFields) : ResolvedRunSpec :=
  (arguments [release 1 "a"]
    [{ identity := identity 2 "b", adapter := "direct", model := "model", parameters }]).spec

lemma specOf_valid (parameters : PyFields) : (specOf parameters).errors = [] := by
  have hplain : (specOf .nil).errors = [] := by decide +kernel
  exact hplain

/-- The creation of a run with the parameters. -/
def creationOf (parameters : PyFields) : StoreCall :=
  .createRun ⟨specOf parameters, specOf_valid parameters⟩

/-- A list of stop words, as a tuple. -/
def stopWords : PyFields := .cons "stop" (.tuple (.cons (.str "END") .nil)) .nil

end Tupled

/-- The creation of a run, stopped after the specification. -/
theorem run_store_recovers_created : Recovers StoreCall.ReadsBack
    (runJournal.machine.run RunStore.empty [(Tupled.creationOf .nil, 2)]) :=
  run_store_recovers _ (List.forall_mem_singleton.mpr (by decide +kernel : _ = _))

/-- **A run that cannot be created again**: its creation stopped after the specification was
written, in which the tuple is now a list. -/
theorem not_recovers_tuple :
    ¬ ∀ events, Recovers (fun _ => True) (runJournal.machine.run RunStore.empty events) := by
  intro h
  obtain hsame | ⟨-, a, hagain, -⟩ := (h []).repeatable (Tupled.creationOf Tupled.stopWords) 2 trivial
  · have hwritten : (runJournal.interrupted (Tupled.creationOf Tupled.stopWords) 2 RunStore.empty
        (locator (Tupled.specOf Tupled.stopWords).runIdentity)).isSome = true := by decide +kernel
    rw [show runJournal.interrupted _ 2 RunStore.empty = RunStore.empty from hsame] at hwritten
    exact absurd hwritten Bool.false_ne_true
  · have hfails : (runJournal.answer (Tupled.creationOf Tupled.stopWords)
        (runJournal.interrupted (Tupled.creationOf Tupled.stopWords) 2 RunStore.empty)).toOption.isNone =
        true := by decide +kernel
    rw [show runJournal.answer _ (runJournal.interrupted _ 2 RunStore.empty) = _ from hagain] at hfails
    exact absurd hfails Bool.false_ne_true

end AecBench.Ledger
