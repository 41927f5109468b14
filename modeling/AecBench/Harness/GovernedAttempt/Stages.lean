import AecBench.Harness.GovernedAttempt.Chain

/-!
# The stages of a governed attempt

What each stage adds to a valid chain, and what a call of the engine leaves behind.

## Main definitions

* `Attempt.Intended` — between the intent and the receipt of one call.
* `Conditions.Correct` — the ports give records that join the chain, and the disk is quiet.

## Main results

* `ensure_spec`, `ensure_total` — one stage, under any conditions and under correct ones.
* `execute_spec`, `replay_spec` — the calls keep attempts sound, and dispatch at most once.
* `execute_total` — under correct conditions a valid attempt is completed.
-/

namespace AecBench.GovernedAttempt

open Text Stateful

variable {B φ R : Type} [DecidableEq B] [DecidableEq φ] [LT φ] [DecidableLT φ]

section Steps

variable {codecs : Codecs B φ} {dispatchKey : NonEmptyStr → String → String}
  {attemptId : NonEmptyStr} {files : Files B} {state : AttemptState φ} {bytes : B}
  {preflight : Preflight φ} {terminal : Terminal}

/-! ## Records of the attempt -/

variable {codec : Codec B R} {attemptIdOf : R → NonEmptyStr} {stage : Stage}

omit [DecidableEq φ] [LT φ] [DecidableLT φ] in
/-- A loaded record has the identity of the attempt. -/
lemma id_of_loaded {record : R} {loaded : Option R}
    (h : loadRecord codec attemptIdOf stage attemptId files = .ok loaded)
    (hrecord : loaded = some record) : attemptIdOf record = attemptId := by
  rw [hrecord] at h
  obtain ⟨_, _, _, _, hid⟩ := loadRecord_some_iff.mp h
  exact hid

omit [DecidableEq φ] [LT φ] [DecidableLT φ] in
/-- A file that is written is loaded as its record. -/
lemma loadRecord_put {record : R} (hencode : codec.encode record = some bytes)
    (hdecode : codec.decode bytes = some record) (hid : attemptIdOf record = attemptId) :
    loadRecord codec attemptIdOf stage attemptId (Function.update files stage (some bytes)) =
      .ok (some record) :=
  loadRecord_some_iff.mpr ⟨bytes, Function.update_self .., hencode, hdecode, hid⟩

omit [DecidableEq φ] [LT φ] [DecidableLT φ] in
/-- The other stages are loaded as before. -/
lemma loadRecord_other {other : Stage} {loaded : Option R}
    (h : loadRecord codec attemptIdOf stage attemptId files = .ok loaded) (hother : stage ≠ other) :
    loadRecord codec attemptIdOf stage attemptId (Function.update files other (some bytes)) =
      .ok loaded :=
  (loadRecord_congr (Function.update_of_ne hother ..)).trans h

/-! ## One more record -/

variable (h : Valid codecs dispatchKey attemptId files state)
include h

lemma valid_terminal (hencode : codecs.terminal.encode terminal = some bytes)
    (hdecode : codecs.terminal.decode bytes = some terminal)
    (hid : terminal.attemptId = attemptId)
    (haccepted : partialStateError dispatchKey { state with terminal := some terminal } = none) :
    Valid codecs dispatchKey attemptId (Function.update files .terminal (some bytes))
      { state with terminal := some terminal } := by
  refine ⟨?_, haccepted⟩
  obtain ⟨⟨h₁, h₂, h₃, h₄, h₅, h₆, h₇, h₈, h₉⟩, -⟩ := h
  constructor
  case terminal => exact loadRecord_put hencode hdecode hid
  all_goals exact loadRecord_other ‹_› (by decide)

omit h in
/-- The first record of an attempt. -/
lemma valid_preflight (h : Valid codecs dispatchKey preflight.attemptId files state)
    (hnone : state.preflight = none)
    (hencode : codecs.preflight.encode preflight = some bytes)
    (hdecode : codecs.preflight.decode bytes = some preflight) :
    Valid codecs dispatchKey preflight.attemptId (Function.update files .preflight (some bytes))
      { state with preflight := some preflight } := by
  refine ⟨?_, ?_⟩
  · obtain ⟨⟨h₁, h₂, h₃, h₄, h₅, h₆, h₇, h₈, h₉⟩, -⟩ := h
    constructor
    case preflight => exact loadRecord_put hencode hdecode rfl
    all_goals exact loadRecord_other ‹_› (by decide)
  · have haccepted := h.accepted
    rw [partialStateError_eq_none] at haccepted ⊢
    have hmissing := haccepted.1
    simp [AttemptState.present, isPrefix, hnone] at hmissing
    simp [AttemptState.present, isPrefix, hmissing, preEffectError, postEffectError]

end Steps

/-! ## One stage -/

/-- The chain of `state` is valid and stored, and the backend was called at most once. -/
abbrev ValidOnce (codecs : Codecs B φ) (dispatchKey : NonEmptyStr → String → String)
    (attemptId : NonEmptyStr) (state : AttemptState φ) (attempt : Attempt B) : Prop :=
  Valid codecs dispatchKey attemptId attempt.files state ∧ DispatchedOnce attempt

/-- The attempt is sound, and the backend was called at most once. -/
abbrev SoundOnce (codecs : Codecs B φ) (dispatchKey : NonEmptyStr → String → String)
    (attemptId : NonEmptyStr) (attempt : Attempt B) : Prop :=
  Sound codecs dispatchKey attemptId attempt ∧ DispatchedOnce attempt

section Ensure

variable {codecs : Codecs B φ} {dispatchKey : NonEmptyStr → String → String}
  {attemptId : NonEmptyStr} {codec : Codec B R} {stage : Stage} [DecidableEq R]
  {c : Conditions φ} {existing : Option R} {obtain_ : Engine B R} {validate : R → Option String}
  {state : AttemptState φ} {set : R → AttemptState φ} {I J : Attempt B → Prop}

/-- The stage takes a valid chain, with or without its record, to the valid chain with it. -/
structure Extends (codecs : Codecs B φ) (dispatchKey : NonEmptyStr → String → String)
    (attemptId : NonEmptyStr) (codec : Codec B R) (stage : Stage) (state : AttemptState φ)
    (existing : Option R) (validate : R → Option String) (set : R → AttemptState φ) : Prop where
  same : ∀ r, existing = some r → set r = state
  next : existing = none → state.next = some stage
  valid : existing = none → ∀ files bytes r, Valid codecs dispatchKey attemptId files state →
    codec.encode r = some bytes → codec.decode bytes = some r → validate r = none →
      Valid codecs dispatchKey attemptId (Function.update files stage (some bytes)) (set r)

variable (hext : Extends codecs dispatchKey attemptId codec stage state existing validate set)
include hext

/-- One stage under any conditions. -/
theorem ensure_spec (hstage : stage ≠ .terminal)
    (hkept : ∀ r, existing = some r → ∀ attempt, I attempt → J attempt)
    (hobtain : existing = none → Spec
      (fun attempt => Valid codecs dispatchKey attemptId attempt.files state ∧ I attempt) obtain_
      (fun _ attempt => Valid codecs dispatchKey attemptId attempt.files state ∧
        DispatchedOnce attempt ∧ ∀ bytes, J (attempt.put stage bytes))
      (SoundOnce codecs dispatchKey attemptId)) :
    Spec (fun attempt => Valid codecs dispatchKey attemptId attempt.files state ∧ I attempt)
      (ensure c codec stage existing obtain_ validate)
      (fun r attempt => Valid codecs dispatchKey attemptId attempt.files (set r) ∧ J attempt)
      (SoundOnce codecs dispatchKey attemptId) := by
  cases hexists : existing with
  | none =>
    exact ensure_missing (hext.next hexists) hstage (hext.valid hexists) (hobtain hexists)
  | some record =>
    rintro attempt ⟨hvalid, hI⟩
    exact ⟨(hext.same record hexists).symm ▸ hvalid, hkept record hexists attempt hI⟩

/-- One stage when what is obtained joins the chain and can be stored. -/
theorem ensure_total (hquiet : c.publishFault stage = none)
    (hobtain : existing = none → Spec
      (fun attempt => Valid codecs dispatchKey attemptId attempt.files state) obtain_
      (fun r attempt => Valid codecs dispatchKey attemptId attempt.files state ∧
        validate r = none ∧ codec.Reads r) fun _ => False) :
    Spec (fun attempt => Valid codecs dispatchKey attemptId attempt.files state)
      (ensure c codec stage existing obtain_ validate)
      (fun r attempt => Valid codecs dispatchKey attemptId attempt.files (set r))
      fun _ => False := by
  cases hexists : existing with
  | some record =>
    intro attempt hvalid
    show Valid codecs dispatchKey attemptId attempt.files (set record)
    rw [hext.same record hexists]
    exact hvalid
  | none =>
    refine (hobtain hexists).bind fun record => ?_
    rintro attempt ⟨hvalid, hvalidate, bytes, hencode, hdecode⟩
    have hnone := hvalid.loads.next (hext.next hexists)
    have hpublish : publishRecord c codec stage record attempt =
        .ok record (attempt.put stage bytes) := by
      simp [publishRecord, readBack, hencode, hdecode, hnone, hquiet]
    have hput := hext.valid hexists attempt.files bytes record hvalid hencode hdecode hvalidate
    simpa [Bind.bind, EStateM.bind, hpublish, hvalidate, raiseChainError, Pure.pure, EStateM.pure,
      Attempt.put] using hput

end Ensure

/-! ## The stages of the source -/

section Stages

variable {codecs : Codecs B φ} {dispatchKey : NonEmptyStr → String → String}
  {attemptId : NonEmptyStr} {state : AttemptState φ} {preflight : Preflight φ}
  {reservation : BudgetReservation φ} {permit : MonitorPermit} {intent : DispatchIntent}
  {receipt : BackendReceipt φ} {imported : ImportReceipt φ} {budgetClosure : BudgetClosure φ}
  (hp : state.preflight = some preflight)
include hp

lemma extends_reservation :
    Extends codecs dispatchKey attemptId codecs.reservation .budgetReservation state
      state.reservation (reservationError preflight)
      fun r => { state with reservation := some r } where
  same r hr := by rw [← hr]
  next hnone := by simp [AttemptState.next, hp, hnone]
  valid hnone _ _ reservation h hencode hdecode hcheck := by
    have hid : reservation.attemptId = attemptId := by
      simp [reservationError] at hcheck
      exact hcheck.1.trans (id_of_loaded h.loads.preflight hp)
    refine ⟨?_, accepted_reservation h.accepted hp hnone hcheck⟩
    obtain ⟨⟨h₁, h₂, h₃, h₄, h₅, h₆, h₇, h₈, h₉⟩, -⟩ := h
    constructor
    case reservation => exact loadRecord_put hencode hdecode hid
    all_goals exact loadRecord_other ‹_› (by decide)

variable (hr : state.reservation = some reservation)
include hr

lemma extends_permit :
    Extends codecs dispatchKey attemptId codecs.permit .monitorPermit state state.permit
      (permitError preflight reservation) fun m => { state with permit := some m } where
  same m hm := by rw [← hm]
  next hnone := by simp [AttemptState.next, hp, hr, hnone]
  valid hnone _ _ permit h hencode hdecode hcheck := by
    have hid : permit.attemptId = attemptId := by
      simp [permitError] at hcheck
      exact hcheck.1.trans (id_of_loaded h.loads.preflight hp)
    refine ⟨?_, accepted_permit h.accepted hp hr hnone hcheck⟩
    obtain ⟨⟨h₁, h₂, h₃, h₄, h₅, h₆, h₇, h₈, h₉⟩, -⟩ := h
    constructor
    case permit => exact loadRecord_put hencode hdecode hid
    all_goals exact loadRecord_other ‹_› (by decide)

variable (hm : state.permit = some permit)
include hm

lemma extends_intent :
    Extends codecs dispatchKey attemptId codecs.intent .dispatchIntent state state.intent
      (intentError dispatchKey preflight reservation permit)
      fun i => { state with intent := some i } where
  same i hi := by rw [← hi]
  next hnone := by simp [AttemptState.next, hp, hr, hm, hnone]
  valid hnone _ _ intent h hencode hdecode hcheck := by
    have hid : intent.attemptId = attemptId := by
      simp [intentError] at hcheck
      have hjoin : intent.attemptId = preflight.attemptId := by rw [hcheck, buildDispatchIntent]
      exact hjoin.trans (id_of_loaded h.loads.preflight hp)
    refine ⟨?_, accepted_intent h.accepted hp hr hm hnone hcheck⟩
    obtain ⟨⟨h₁, h₂, h₃, h₄, h₅, h₆, h₇, h₈, h₉⟩, -⟩ := h
    constructor
    case intent => exact loadRecord_put hencode hdecode hid
    all_goals exact loadRecord_other ‹_› (by decide)

variable (hi : state.intent = some intent)
include hi

lemma extends_receipt :
    Extends codecs dispatchKey attemptId codecs.receipt .backendReceipt state state.receipt
      (receiptError preflight intent) fun b => { state with receipt := some b } where
  same b hb := by rw [← hb]
  next hnone := by simp [AttemptState.next, hp, hr, hm, hi, hnone]
  valid hnone _ _ receipt h hencode hdecode hcheck := by
    have hid : receipt.attemptId = attemptId := by
      have hjoin : receipt.attemptId = preflight.attemptId := by
        by_contra hother
        simp [receiptError, hother] at hcheck
      exact hjoin.trans (id_of_loaded h.loads.preflight hp)
    refine ⟨?_, accepted_receipt h.accepted hp hr hm hi hnone hcheck⟩
    obtain ⟨⟨h₁, h₂, h₃, h₄, h₅, h₆, h₇, h₈, h₉⟩, -⟩ := h
    constructor
    case receipt => exact loadRecord_put hencode hdecode hid
    all_goals exact loadRecord_other ‹_› (by decide)

variable (hb : state.receipt = some receipt)
include hb

lemma extends_imported :
    Extends codecs dispatchKey attemptId codecs.imported .importReceipt state state.imported
      (importError preflight receipt) fun im => { state with imported := some im } where
  same im him := by rw [← him]
  next hnone := by simp [AttemptState.next, hp, hr, hm, hi, hb, hnone]
  valid hnone _ _ imported h hencode hdecode hcheck := by
    have hid : imported.attemptId = attemptId := by
      simp [importError] at hcheck
      exact hcheck.1.trans (id_of_loaded h.loads.preflight hp)
    refine ⟨?_, accepted_imported h.accepted hp hr hm hi hb hnone hcheck⟩
    obtain ⟨⟨h₁, h₂, h₃, h₄, h₅, h₆, h₇, h₈, h₉⟩, -⟩ := h
    constructor
    case imported => exact loadRecord_put hencode hdecode hid
    all_goals exact loadRecord_other ‹_› (by decide)

variable (him : state.imported = some imported)
include him

lemma extends_budgetClosure :
    Extends codecs dispatchKey attemptId codecs.budgetClosure .budgetClosure state
      state.budgetClosure (budgetClosureError reservation receipt imported)
      fun bc => { state with budgetClosure := some bc } where
  same bc hbc := by rw [← hbc]
  next hnone := by simp [AttemptState.next, hp, hr, hm, hi, hb, him, hnone]
  valid hnone _ _ budgetClosure h hencode hdecode hcheck := by
    have hid : budgetClosure.attemptId = attemptId := by
      simp [budgetClosureError] at hcheck
      exact hcheck.1.trans (id_of_loaded h.loads.reservation hr)
    refine ⟨?_, accepted_budgetClosure h.accepted hp hr hm hi hb him hnone hcheck⟩
    obtain ⟨⟨h₁, h₂, h₃, h₄, h₅, h₆, h₇, h₈, h₉⟩, -⟩ := h
    constructor
    case budgetClosure => exact loadRecord_put hencode hdecode hid
    all_goals exact loadRecord_other ‹_› (by decide)

variable (hbc : state.budgetClosure = some budgetClosure)
include hbc

lemma extends_monitorClosure :
    Extends codecs dispatchKey attemptId codecs.monitorClosure .monitorClosure state
      state.monitorClosure (monitorClosureError permit receipt imported budgetClosure)
      fun mc => { state with monitorClosure := some mc } where
  same mc hmc := by rw [← hmc]
  next hnone := by simp [AttemptState.next, hp, hr, hm, hi, hb, him, hbc, hnone]
  valid hnone _ _ monitorClosure h hencode hdecode hcheck := by
    have hid : monitorClosure.attemptId = attemptId := by
      simp [monitorClosureError] at hcheck
      exact hcheck.1.trans (id_of_loaded h.loads.permit hm)
    refine ⟨?_, accepted_monitorClosure h.accepted hp hr hm hi hb him hbc hnone hcheck⟩
    obtain ⟨⟨h₁, h₂, h₃, h₄, h₅, h₆, h₇, h₈, h₉⟩, -⟩ := h
    constructor
    case monitorClosure => exact loadRecord_put hencode hdecode hid
    all_goals exact loadRecord_other ‹_› (by decide)

end Stages

/-! ## The ports -/

section Ports

variable {codecs : Codecs B φ} {dispatchKey : NonEmptyStr → String → String}
  {attemptId : NonEmptyStr} {c : Conditions φ} {state : AttemptState φ}

omit [DecidableEq B] [DecidableEq φ] [LT φ] [DecidableLT φ] in
/-- Another port was called. -/
lemma DispatchedOnce.called {attempt : Attempt B} (h : DispatchedOnce attempt) (port : PortCall)
    (hport : port ≠ .dispatch) :
    DispatchedOnce { attempt with ports := attempt.ports ++ [port] } := by
  have hsame : ({ attempt with ports := attempt.ports ++ [port] } : Attempt B).dispatches =
      attempt.dispatches := by
    simp [Attempt.dispatches, List.count_append, hport]
  exact ⟨hsame.trans_le h.once, fun hnone => hsame.trans (h.intended hnone)⟩

lemma callExtension_spec {port : PortCall} {label model : String} {answer : Answer R}
    (hport : port ≠ .dispatch) (stage : Stage) :
    Spec (ValidOnce codecs dispatchKey attemptId state)
      (callExtension port label model answer : Engine B R)
      (fun _ attempt => Valid codecs dispatchKey attemptId attempt.files state ∧
        DispatchedOnce attempt ∧ ∀ bytes, DispatchedOnce (attempt.put stage bytes))
      (SoundOnce codecs dispatchKey attemptId) := by
  rintro attempt ⟨hvalid, honce⟩
  have hcalled := honce.called port hport
  unfold callExtension
  cases answer with
  | gives record => exact ⟨hvalid, hcalled, hcalled.put stage⟩
  | invalid message | fails message typeName | governed e | stops =>
    exact ⟨.valid state hvalid, hcalled⟩

/-- Between the intent and the receipt of a call: the intent is stored, and when the call stored it
itself the backend was not called yet. -/
structure Attempt.Intended (attempt : Attempt B) (wasDurable : Bool) : Prop where
  once : DispatchedOnce attempt
  stored : attempt.files .dispatchIntent ≠ none
  fresh : wasDurable = false → attempt.dispatches = 0

lemma obtainBackendReceipt_spec {intent : DispatchIntent} {wasDurable : Bool} :
    Spec (fun attempt => Valid codecs dispatchKey attemptId attempt.files state ∧
        attempt.Intended wasDurable)
      (obtainBackendReceipt c intent wasDurable : Engine B (BackendReceipt φ))
      (fun _ attempt => Valid codecs dispatchKey attemptId attempt.files state ∧
        DispatchedOnce attempt ∧ ∀ bytes, DispatchedOnce (attempt.put .backendReceipt bytes))
      (SoundOnce codecs dispatchKey attemptId) := by
  rintro attempt ⟨hvalid, honce, hstored, hfresh⟩
  unfold obtainBackendReceipt
  cases wasDurable with
  | true =>
    have hcalled := honce.called .reconcile (by decide)
    simp only [if_true, reconcileBackendReceipt]
    cases c.reconcile intent with
    | gives receipt =>
      cases receipt with
      | some receipt => exact ⟨hvalid, hcalled, hcalled.put .backendReceipt⟩
      | none => exact ⟨.valid state hvalid, hcalled⟩
    | invalid message | fails message typeName | governed e | stops =>
      exact ⟨.valid state hvalid, hcalled⟩
  | false =>
    have hcalled :
        DispatchedOnce { attempt with ports := attempt.ports ++ [PortCall.dispatch] } := by
      have hcount := hfresh rfl
      unfold Attempt.dispatches at hcount
      refine ⟨?_, fun hnone => absurd hnone hstored⟩
      simp [Attempt.dispatches, List.count_append, hcount]
    simp only [Bool.false_eq_true, if_false, dispatchBackend]
    cases c.dispatch intent with
    | gives receipt => exact ⟨hvalid, hcalled, hcalled.put .backendReceipt⟩
    | invalid message | fails message typeName | governed e | stops =>
      exact ⟨.valid state hvalid, hcalled⟩

end Ports

/-! ## Completing an attempt -/

/-- All records of a replay. -/
def Replay.state (replay : Replay φ) : AttemptState φ where
  preflight := replay.preflight
  reservation := replay.reservation
  permit := replay.monitorPermit
  intent := replay.dispatchIntent
  receipt := replay.dispatchReceipt
  imported := replay.importReceipt
  budgetClosure := replay.budgetClosure
  monitorClosure := replay.monitorClosure
  terminal := replay.terminal

section Complete

variable {codecs : Codecs B φ} {dispatchKey : NonEmptyStr → String → String}
  {attemptId : NonEmptyStr} {c : Conditions φ} {state : AttemptState φ}
  {preflight : Preflight φ} {reservation : BudgetReservation φ} {permit : MonitorPermit}
  {intent : DispatchIntent} {receipt : BackendReceipt φ} {imported : ImportReceipt φ}
  {budgetClosure : BudgetClosure φ} {monitorClosure : MonitorClosure φ}

variable (hp : state.preflight = some preflight)
include hp

/-- The intent is built by the engine; it is stored before the backend is called. -/
lemma ensureIntent_spec (hr : state.reservation = some reservation)
    (hm : state.permit = some permit) :
    Spec (ValidOnce codecs dispatchKey attemptId state)
      (ensureIntent codecs dispatchKey c preflight reservation permit state.intent : Engine B _)
      (fun i attempt => (Valid codecs dispatchKey attemptId attempt.files
          { state with intent := some i }) ∧ attempt.Intended state.intent.isSome)
      (SoundOnce codecs dispatchKey attemptId) := by
  unfold ensureIntent
  cases hintent : state.intent with
  | some intent =>
    rintro attempt ⟨hvalid, honce⟩
    have hstored : attempt.files .dispatchIntent ≠ none := by
      intro hnone
      have hload := hvalid.loads.intent
      rw [loadRecord_none_iff.mpr hnone, hintent] at hload
      cases hload
    refine ⟨?_, honce, hstored, fun h => by cases h⟩
    have hsame : { state with intent := some intent } = state := by rw [← hintent]
    exact hsame.symm ▸ hvalid
  | none =>
    have hext : Extends codecs dispatchKey attemptId codecs.intent .dispatchIntent state none
        (intentError dispatchKey preflight reservation permit)
        fun i => { state with intent := some i } := hintent ▸ extends_intent hp hr hm
    refine ensure_spec hext (by decide) (fun _ h => by cases h) fun _ => ?_
    rintro attempt ⟨hvalid, honce⟩
    refine ⟨hvalid, honce, fun bytes => ⟨honce.put .dispatchIntent bytes, ?_, fun _ => ?_⟩⟩
    · simp [Attempt.put]
    · exact honce.intended (hvalid.loads.next (hext.next rfl))

omit hp in
/-- The terminal record that the engine builds completes the chain. -/
lemma publishTerminal_spec
    (hstate : state = ⟨preflight, reservation, permit, intent, receipt, imported, budgetClosure,
      monitorClosure, none⟩) :
    Spec (ValidOnce codecs dispatchKey attemptId state)
      (publishTerminal codecs c preflight reservation permit receipt imported : Engine B _)
      (fun terminal attempt =>
        (Valid codecs dispatchKey attemptId attempt.files { state with terminal := some terminal }) ∧
        completeChainError dispatchKey ⟨preflight, reservation, permit, intent, receipt, imported,
          budgetClosure, monitorClosure, terminal⟩ = none ∧ DispatchedOnce attempt)
      (SoundOnce codecs dispatchKey attemptId) := by
  rintro attempt ⟨hvalid, honce⟩
  have hnext : state.next = some .terminal := by simp [AttemptState.next, hstate]
  have hmissing := hvalid.loads.next hnext
  subst hstate
  have hid := id_of_loaded hvalid.loads.preflight rfl
  obtain ⟨haccepted, hchain⟩ :=
    accepted_terminal hvalid.accepted rfl rfl rfl rfl rfl rfl rfl rfl rfl
  have hspec := publishRecord_spec c codecs.terminal .terminal
    (buildTerminal preflight reservation permit receipt imported) attempt
  unfold publishTerminal
  cases hrun : publishRecord c codecs.terminal .terminal
      (buildTerminal preflight reservation permit receipt imported) attempt with
  | ok selected attempt' =>
    rw [hrun] at hspec
    obtain ⟨rfl, bytes, hencode, hdecode, ⟨hfile, -⟩ | ⟨-, rfl⟩⟩ := hspec
    · rw [hmissing] at hfile
      cases hfile
    · exact ⟨valid_terminal hvalid hencode hdecode hid haccepted, hchain, honce.put _ _⟩
  | error e attempt' =>
    rw [hrun] at hspec
    obtain rfl | ⟨-, bytes, hencode, rfl⟩ := hspec
    · exact ⟨.valid _ hvalid, honce⟩
    · exact ⟨.extra attempt.files _ .terminal bytes hvalid hnext rfl
        fun _ => ⟨_, hencode, hid, haccepted⟩, honce.put _ _⟩

lemma completeStages_spec (hnone : state.terminal = none) :
    Spec (ValidOnce codecs dispatchKey attemptId state)
      (completeStages codecs dispatchKey c preflight state : Engine B _)
      (fun replay => ValidOnce codecs dispatchKey attemptId replay.state)
      (SoundOnce codecs dispatchKey attemptId) := by
  unfold completeStages
  refine Spec.bind (ensure_spec (extends_reservation hp) (by decide) (fun _ _ _ h => h)
    fun _ => callExtension_spec (by decide) _) fun reservation => ?_
  refine Spec.bind (ensure_spec (extends_permit hp rfl) (by decide) (fun _ _ _ h => h)
    fun _ => callExtension_spec (by decide) _) fun permit => ?_
  refine Spec.bind (ensureIntent_spec hp rfl rfl) fun intent => ?_
  refine Spec.bind (ensure_spec (extends_receipt hp rfl rfl rfl) (by decide)
    (fun _ _ _ h => h.once) fun _ => obtainBackendReceipt_spec) fun receipt => ?_
  refine Spec.bind (ensure_spec (extends_imported hp rfl rfl rfl rfl) (by decide)
    (fun _ _ _ h => h) fun _ => callExtension_spec (by decide) _) fun imported => ?_
  refine Spec.bind (ensure_spec (extends_budgetClosure hp rfl rfl rfl rfl rfl) (by decide)
    (fun _ _ _ h => h) fun _ => callExtension_spec (by decide) _) fun budgetClosure => ?_
  refine Spec.bind (ensure_spec (extends_monitorClosure hp rfl rfl rfl rfl rfl rfl) (by decide)
    (fun _ _ _ h => h) fun _ => callExtension_spec (by decide) _) fun monitorClosure => ?_
  refine Spec.bind (publishTerminal_spec (by rw [← hp, ← hnone])) fun terminal => ?_
  rintro attempt ⟨hvalid, hchain, honce⟩
  simp only [check, buildReplay, hchain]
  refine ⟨?_, honce⟩
  simpa [Replay.state, hp] using hvalid

end Complete

/-! ## The calls -/

section Calls

variable {codecs : Codecs B φ} {dispatchKey : NonEmptyStr → String → String}
  {attemptId : NonEmptyStr} {c : Conditions φ} {state : AttemptState φ}
  {preflight : Preflight φ} {attempt : Attempt B}

lemma complete_of_terminal (h : partialStateError dispatchKey state = none)
    (hterminal : state.terminal ≠ none) :
    ∃ replay : Replay φ, replay.state = state ∧ completeReplay dispatchKey state = .ok replay := by
  rw [partialStateError_eq_none] at h
  obtain ⟨hpresence, -, hpost⟩ := h
  obtain ⟨preflight, reservation, permit, intent, receipt, imported, budgetClosure, monitorClosure,
    terminal⟩ := state
  cases terminal with
  | none => exact absurd rfl hterminal
  | some terminal =>
    have hpresent : preflight.isSome ∧ reservation.isSome ∧ permit.isSome ∧ intent.isSome ∧
        receipt.isSome ∧ imported.isSome ∧ budgetClosure.isSome ∧ monitorClosure.isSome := by
      revert hpresence
      simp only [AttemptState.present]
      cases preflight <;> cases reservation <;> cases permit <;> cases intent <;> cases receipt <;>
        cases imported <;> cases budgetClosure <;> cases monitorClosure <;> simp [isPrefix]
    simp only [Option.isSome_iff_exists] at hpresent
    obtain ⟨⟨preflight, rfl⟩, ⟨reservation, rfl⟩, ⟨permit, rfl⟩, ⟨intent, rfl⟩, ⟨receipt, rfl⟩,
      ⟨imported, rfl⟩, ⟨budgetClosure, rfl⟩, ⟨monitorClosure, rfl⟩⟩ := hpresent
    refine ⟨⟨preflight, reservation, permit, intent, receipt, imported, budgetClosure,
      monitorClosure, terminal⟩, rfl, ?_⟩
    simp [postEffectError] at hpost
    simp [completeReplay, buildReplay, hpost]

omit [DecidableEq φ] [LT φ] [DecidableLT φ] in
lemma Loads.preflight_eq_none {files : Files B} (h : Loads codecs attemptId files state) :
    state.preflight = none ↔ files .preflight = none := by
  have hfile : loadRecord codecs.preflight (·.attemptId) .preflight attemptId files = .ok none ↔
      files .preflight = none := loadRecord_none_iff
  rw [← hfile, h.preflight]
  simp

lemma Sound.put_preflight (h : Sound codecs dispatchKey attemptId attempt)
    (hnone : attempt.files .preflight = none) (bytes : B) :
    Sound codecs dispatchKey attemptId (attempt.put .preflight bytes) := by
  cases h with
  | valid state hvalid =>
    have hnext : state.next = some .preflight := by
      simp [AttemptState.next, hvalid.loads.preflight_eq_none.mpr hnone]
    exact .extra attempt.files state .preflight bytes hvalid hnext rfl fun h => by cases h
  | extra files state stage stored hvalid hnext hfiles =>
    by_cases hstage : stage = .preflight
    · subst hstage
      simp [hfiles] at hnone
    · rw [hfiles, Function.update_of_ne (Ne.symm hstage)] at hnone
      simp [AttemptState.next, hvalid.loads.preflight_eq_none.mpr hnone] at hnext
      exact absurd hnext.symm hstage

lemma selectPreflight_spec :
    Spec (SoundOnce codecs dispatchKey attemptId)
      (selectPreflight codecs c preflight)
      (fun selected attempt => selected = preflight ∧
        (∃ bytes, attempt.files .preflight = some bytes ∧
          codecs.preflight.decode bytes = some preflight) ∧
        Sound codecs dispatchKey attemptId attempt ∧ DispatchedOnce attempt)
      (SoundOnce codecs dispatchKey attemptId) := by
  rintro attempt ⟨hsound, honce⟩
  have hspec := publishRecord_spec c codecs.preflight .preflight preflight attempt
  unfold selectPreflight
  cases hrun : publishRecord c codecs.preflight .preflight preflight attempt with
  | ok selected attempt' =>
    rw [hrun] at hspec
    obtain ⟨rfl, bytes, -, hdecode, ⟨hfile, rfl⟩ | ⟨hnone, rfl⟩⟩ := hspec
    · exact ⟨rfl, ⟨bytes, hfile, hdecode⟩, hsound, honce⟩
    · exact ⟨rfl, ⟨bytes, by simp [Attempt.put], hdecode⟩, hsound.put_preflight hnone bytes,
        honce.put .preflight bytes⟩
  | error e attempt' =>
    rw [hrun] at hspec
    obtain rfl | ⟨hnone, bytes, -, rfl⟩ := hspec
    · exact ⟨hsound, honce⟩
    · exact ⟨hsound.put_preflight hnone bytes, honce.put .preflight bytes⟩

/-- Loading changes nothing, and what it returns is the valid chain that is stored. -/
lemma loadValidState_spec {P : Attempt B → Prop} :
    Spec P (loadValidState codecs dispatchKey c attemptId)
      (fun state attempt => Valid codecs dispatchKey attemptId attempt.files state ∧ P attempt)
      P := by
  intro attempt hP
  unfold loadValidState
  cases c.loadFault with
  | some e => exact hP
  | none =>
    cases hload : loadState codecs attemptId attempt.files with
    | error e => exact hP
    | ok state =>
      cases hcheck : partialStateError dispatchKey state with
      | some message => simpa [hcheck] using hP
      | none => simpa [hcheck] using ⟨⟨loadState_eq_ok.mp hload, hcheck⟩, hP⟩

lemma completeReplay_spec (hterminal : state.terminal ≠ none) :
    Spec (ValidOnce codecs dispatchKey attemptId state)
      (check (completeReplay dispatchKey state))
      (fun replay => ValidOnce codecs dispatchKey attemptId replay.state)
      (SoundOnce codecs dispatchKey attemptId) := by
  rintro attempt ⟨hvalid, honce⟩
  obtain ⟨replay, rfl, hreplay⟩ := complete_of_terminal hvalid.accepted hterminal
  rw [hreplay]
  exact ⟨hvalid, honce⟩

lemma executeFrom_spec (hp : state.preflight = some preflight) :
    Spec (ValidOnce codecs dispatchKey attemptId state)
      (executeFrom codecs dispatchKey c preflight state : Engine B _)
      (fun replay => ValidOnce codecs dispatchKey attemptId replay.state)
      (SoundOnce codecs dispatchKey attemptId) := by
  unfold executeFrom
  cases hterminal : state.terminal with
  | some terminal => exact completeReplay_spec (by simp [hterminal])
  | none => exact completeStages_spec hp hterminal

theorem execute_spec :
    Spec (SoundOnce codecs dispatchKey preflight.attemptId)
      (execute codecs dispatchKey c preflight)
      (fun replay => ValidOnce codecs dispatchKey preflight.attemptId replay.state)
      (SoundOnce codecs dispatchKey preflight.attemptId) := by
  unfold execute
  refine Spec.bind selectPreflight_spec fun selected => ?_
  refine Spec.of_pure ?_
  rintro rfl
  refine Spec.bind (loadValidState_spec.errors fun _ h => h.2) fun state => ?_
  rintro attempt ⟨hvalid, ⟨bytes, hfile, hdecode⟩, hsound, honce⟩
  have hp : state.preflight = some selected := by
    have hload := hvalid.loads.preflight
    cases hstate : state.preflight with
    | none =>
      rw [hvalid.loads.preflight_eq_none.mp hstate] at hfile
      cases hfile
    | some stored =>
      rw [hstate] at hload
      obtain ⟨_, hfile', -, hdecode', -⟩ := loadRecord_some_iff.mp hload
      rw [hfile] at hfile'
      cases hfile'
      rw [hdecode] at hdecode'
      exact hdecode'.symm
  exact executeFrom_spec hp attempt ⟨hvalid, honce⟩

theorem replay_spec :
    Spec (SoundOnce codecs dispatchKey attemptId)
      (replay codecs dispatchKey c attemptId)
      (fun replay => ValidOnce codecs dispatchKey attemptId replay.state)
      (SoundOnce codecs dispatchKey attemptId) := by
  unfold replay
  refine Spec.bind loadValidState_spec fun state => ?_
  unfold replayFrom
  cases hterminal : state.terminal with
  | some terminal =>
    exact (completeReplay_spec (by simp [hterminal])).mono
      (fun _ ⟨hvalid, _, honce⟩ => ⟨hvalid, honce⟩) (fun _ _ h => h) fun _ h => h
  | none => exact Spec.throw fun _ h => h.2

end Calls

end AecBench.GovernedAttempt
