import AecBench.Harness.GovernedAttempt.Lifecycle
import AecBench.Lib.Stateful

/-!
# The chain of stored stages

A stage is published before it is validated against the stages before it. So the stored stages are
always a valid chain, or a valid chain with one more record behind it, which may be anything.

## Main definitions

* `Valid` — the files of an attempt load as a state that is accepted.
* `AttemptState.next` — the first missing stage.
* `Sound` — a valid chain, with at most one more record.
* `DispatchedOnce` — the backend was called at most once, and not before the intent was stored.

## Main results

* `ensure_spec` — one stage.
* `execute_spec`, `replay_spec` — the calls keep attempts sound.
-/

namespace AecBench.GovernedAttempt

open Text Stateful

variable {B φ R : Type} [DecidableEq B] [DecidableEq φ] [LT φ] [DecidableLT φ]

/-- The files load as a state that `validate_partial_state` accepts. -/
structure Valid (codecs : Codecs B φ) (dispatchKey : NonEmptyStr → String → String)
    (attemptId : NonEmptyStr) (files : Files B) (state : AttemptState φ) : Prop where
  loads : Loads codecs attemptId files state
  accepted : partialStateError dispatchKey state = none

/-- The first missing stage. -/
def AttemptState.next (state : AttemptState φ) : Option Stage :=
  if state.preflight = none then some .preflight
  else if state.reservation = none then some .budgetReservation
  else if state.permit = none then some .monitorPermit
  else if state.intent = none then some .dispatchIntent
  else if state.receipt = none then some .backendReceipt
  else if state.imported = none then some .importReceipt
  else if state.budgetClosure = none then some .budgetClosure
  else if state.monitorClosure = none then some .monitorClosure
  else if state.terminal = none then some .terminal
  else none

/-! ## Accepted states -/

section Accepted

variable {dispatchKey : NonEmptyStr → String → String} {preflight : Preflight φ}
  {reservation : BudgetReservation φ} {permit : MonitorPermit} {intent : DispatchIntent}
  {receipt : BackendReceipt φ} {imported : ImportReceipt φ} {budgetClosure : BudgetClosure φ}
  {monitorClosure : MonitorClosure φ}

lemma partialStateError_eq_none {state : AttemptState φ} :
    partialStateError dispatchKey state = none ↔ isPrefix state.present = true ∧
      preEffectError dispatchKey state = none ∧ postEffectError dispatchKey state = none := by
  unfold partialStateError
  by_cases h : isPrefix state.present = true <;> simp [h]

variable {state : AttemptState φ} (h : partialStateError dispatchKey state = none)
include h

variable (hp : state.preflight = some preflight)
include hp

lemma accepted_reservation (hnone : state.reservation = none)
    (hcheck : reservationError preflight reservation = none) :
    partialStateError dispatchKey { state with reservation := some reservation } = none := by
  rw [partialStateError_eq_none] at h ⊢
  have hmissing := h.1
  simp [AttemptState.present, isPrefix, hp, hnone] at hmissing
  simp [AttemptState.present, isPrefix, hp, hmissing, preEffectError, postEffectError, hcheck]

variable (hr : state.reservation = some reservation)
include hr

lemma accepted_permit (hnone : state.permit = none)
    (hcheck : permitError preflight reservation permit = none) :
    partialStateError dispatchKey { state with permit := some permit } = none := by
  rw [partialStateError_eq_none] at h ⊢
  obtain ⟨hmissing, hpre, -⟩ := h
  simp [AttemptState.present, isPrefix, hp, hr, hnone] at hmissing
  simp [preEffectError, hp, hr, hnone] at hpre
  simp [AttemptState.present, isPrefix, hp, hr, hmissing, preEffectError, postEffectError, hpre,
    hcheck]

variable (hm : state.permit = some permit)
include hm

lemma accepted_intent (hnone : state.intent = none)
    (hcheck : intentError dispatchKey preflight reservation permit intent = none) :
    partialStateError dispatchKey { state with intent := some intent } = none := by
  rw [partialStateError_eq_none] at h ⊢
  obtain ⟨hmissing, hpre, -⟩ := h
  simp [AttemptState.present, isPrefix, hp, hr, hm, hnone] at hmissing
  simp [preEffectError, hp, hr, hm, hnone] at hpre
  simp [AttemptState.present, isPrefix, hp, hr, hm, hmissing, preEffectError, postEffectError, hpre,
    hcheck]

variable (hi : state.intent = some intent)
include hi

lemma accepted_receipt (hnone : state.receipt = none)
    (hcheck : receiptError preflight intent receipt = none) :
    partialStateError dispatchKey { state with receipt := some receipt } = none := by
  rw [partialStateError_eq_none] at h ⊢
  obtain ⟨hmissing, hpre, -⟩ := h
  simp [AttemptState.present, isPrefix, hp, hr, hm, hi, hnone] at hmissing
  simp [preEffectError, hp, hr, hm, hi] at hpre
  simp [AttemptState.present, isPrefix, hp, hr, hm, hi, hmissing, preEffectError, postEffectError,
    hpre, hcheck]

variable (hb : state.receipt = some receipt)
include hb

lemma accepted_imported (hnone : state.imported = none)
    (hcheck : importError preflight receipt imported = none) :
    partialStateError dispatchKey { state with imported := some imported } = none := by
  rw [partialStateError_eq_none] at h ⊢
  obtain ⟨hmissing, hpre, hpost⟩ := h
  simp [AttemptState.present, isPrefix, hp, hr, hm, hi, hb, hnone] at hmissing
  simp [preEffectError, hp, hr, hm, hi] at hpre
  simp [postEffectError, hp, hr, hm, hi, hb, hnone] at hpost
  simp [AttemptState.present, isPrefix, hp, hr, hm, hi, hb, hmissing, preEffectError,
    postEffectError, hpre, hpost, hcheck]

variable (him : state.imported = some imported)
include him

lemma accepted_budgetClosure (hnone : state.budgetClosure = none)
    (hcheck : budgetClosureError reservation receipt imported budgetClosure = none) :
    partialStateError dispatchKey { state with budgetClosure := some budgetClosure } = none := by
  rw [partialStateError_eq_none] at h ⊢
  obtain ⟨hmissing, hpre, hpost⟩ := h
  simp [AttemptState.present, isPrefix, hp, hr, hm, hi, hb, him, hnone] at hmissing
  simp [preEffectError, hp, hr, hm, hi] at hpre
  simp [postEffectError, hp, hr, hm, hi, hb, him, hnone] at hpost
  simp [AttemptState.present, isPrefix, hp, hr, hm, hi, hb, him, hmissing, preEffectError,
    postEffectError, hpre, hpost, hcheck]

variable (hbc : state.budgetClosure = some budgetClosure)
include hbc

lemma accepted_monitorClosure (hnone : state.monitorClosure = none)
    (hcheck : monitorClosureError permit receipt imported budgetClosure monitorClosure = none) :
    partialStateError dispatchKey { state with monitorClosure := some monitorClosure } = none := by
  rw [partialStateError_eq_none] at h ⊢
  obtain ⟨hmissing, hpre, hpost⟩ := h
  simp [AttemptState.present, isPrefix, hp, hr, hm, hi, hb, him, hbc, hnone] at hmissing
  simp [preEffectError, hp, hr, hm, hi] at hpre
  simp [postEffectError, hp, hr, hm, hi, hb, him, hbc, hnone] at hpost
  simp [AttemptState.present, isPrefix, hp, hr, hm, hi, hb, him, hbc, hmissing, preEffectError,
    postEffectError, hpre, hpost, hcheck]

variable (hmc : state.monitorClosure = some monitorClosure)
include hmc

lemma accepted_terminal (hnone : state.terminal = none) :
    partialStateError dispatchKey
        { state with terminal := buildTerminal preflight reservation permit receipt imported } =
      none ∧
    completeChainError dispatchKey ⟨preflight, reservation, permit, intent, receipt, imported,
        budgetClosure, monitorClosure,
        buildTerminal preflight reservation permit receipt imported⟩ = none := by
  rw [partialStateError_eq_none] at h ⊢
  obtain ⟨-, hpre, hpost⟩ := h
  simp [preEffectError, hp, hr, hm, hi] at hpre
  simp [postEffectError, hp, hr, hm, hi, hb, him, hbc, hmc, hnone] at hpost
  have hintent : intent.attemptId = preflight.attemptId := by
    have hjoin := hpre.2.2
    simp [intentError] at hjoin
    rw [hjoin, buildDispatchIntent]
  have hclosures : budgetClosure.attemptId = preflight.attemptId ∧
      monitorClosure.attemptId = preflight.attemptId := by
    have hreservation := hpre.1
    have hpermit := hpre.2.1
    have hbudget := hpost.2.2.1
    have hmonitor := hpost.2.2.2
    simp [reservationError] at hreservation
    simp [permitError] at hpermit
    simp [budgetClosureError] at hbudget
    simp [monitorClosureError] at hmonitor
    exact ⟨hbudget.1.trans hreservation.1, hmonitor.1.trans hpermit.1⟩
  have hchain : completeChainError dispatchKey ⟨preflight, reservation, permit, intent, receipt,
      imported, budgetClosure, monitorClosure,
      buildTerminal preflight reservation permit receipt imported⟩ = none := by
    simp [completeChainError, hpre, hpost, terminalError, buildTerminal, hintent, hclosures]
  refine ⟨⟨?_, ?_, ?_⟩, hchain⟩
  · simp [AttemptState.present, isPrefix, hp, hr, hm, hi, hb, him, hbc, hmc]
  · simp [preEffectError, hp, hr, hm, hi, hpre]
  · simp [postEffectError, hp, hr, hm, hi, hb, him, hbc, hmc, hpost, hchain]

end Accepted

/-! ## Sound attempts -/

section Sound

variable {codecs : Codecs B φ} {dispatchKey : NonEmptyStr → String → String}
  {attemptId : NonEmptyStr} {codec : Codec B R} {stage : Stage}

/-- The files are those of a valid chain, with at most one more record behind it. A terminal record
there is one that the engine built for this chain. -/
inductive Sound (codecs : Codecs B φ) (dispatchKey : NonEmptyStr → String → String)
    (attemptId : NonEmptyStr) (attempt : Attempt B) : Prop
  | valid (state : AttemptState φ) (h : Valid codecs dispatchKey attemptId attempt.files state)
  | extra (files : Files B) (state : AttemptState φ) (stage : Stage) (bytes : B)
      (h : Valid codecs dispatchKey attemptId files state) (hnext : state.next = some stage)
      (hfiles : attempt.files = Function.update files stage (some bytes))
      (hterminal : stage = .terminal → ∃ terminal, codecs.terminal.encode terminal = some bytes ∧
        terminal.attemptId = attemptId ∧
        partialStateError dispatchKey { state with terminal := some terminal } = none)

/-- How often the backend was asked to dispatch. -/
def Attempt.dispatches (attempt : Attempt B) : ℕ := attempt.ports.count .dispatch

/-- The backend was called at most once, and not before the intent was stored. -/
structure DispatchedOnce (attempt : Attempt B) : Prop where
  once : attempt.dispatches ≤ 1
  intended : attempt.files .dispatchIntent = none → attempt.dispatches = 0

omit [DecidableEq B] in
lemma DispatchedOnce.put {attempt : Attempt B} (h : DispatchedOnce attempt) (stage : Stage)
    (bytes : B) : DispatchedOnce (attempt.put stage bytes) where
  once := h.once
  intended hnone := by
    refine h.intended ?_
    by_cases hstage : stage = .dispatchIntent
    · subst hstage
      simp [Attempt.put] at hnone
    · simpa [Attempt.put, Function.update_of_ne (Ne.symm hstage)] using hnone

omit [DecidableEq φ] [LT φ] [DecidableLT φ] in
/-- Nothing is stored for the first missing stage. -/
lemma Loads.next {files : Files B} {state : AttemptState φ} (h : Loads codecs attemptId files state)
    (hnext : state.next = some stage) : files stage = none := by
  unfold AttemptState.next at hnext
  split_ifs at hnext with h₁ h₂ h₃ h₄ h₅ h₆ h₇ h₈ h₉ <;> cases hnext
  · exact loadRecord_none_iff.mp (h.preflight.trans (by rw [h₁]))
  · exact loadRecord_none_iff.mp (h.reservation.trans (by rw [h₂]))
  · exact loadRecord_none_iff.mp (h.permit.trans (by rw [h₃]))
  · exact loadRecord_none_iff.mp (h.intent.trans (by rw [h₄]))
  · exact loadRecord_none_iff.mp (h.receipt.trans (by rw [h₅]))
  · exact loadRecord_none_iff.mp (h.imported.trans (by rw [h₆]))
  · exact loadRecord_none_iff.mp (h.budgetClosure.trans (by rw [h₇]))
  · exact loadRecord_none_iff.mp (h.monitorClosure.trans (by rw [h₈]))
  · exact loadRecord_none_iff.mp (h.terminal.trans (by rw [h₉]))

/-! ## Publishing -/

variable [DecidableEq R] {c : Conditions φ}

omit [DecidableEq φ] [LT φ] [DecidableLT φ] in
/-- What a publication returns and leaves behind. -/
lemma publishRecord_spec (c : Conditions φ) (codec : Codec B R) (stage : Stage) (record : R)
    (attempt : Attempt B) :
    match publishRecord c codec stage record attempt with
    | .ok selected attempt' => selected = record ∧ ∃ bytes, codec.encode record = some bytes ∧
        codec.decode bytes = some record ∧
        ((attempt.files stage = some bytes ∧ attempt' = attempt) ∨
          (attempt.files stage = none ∧ attempt' = attempt.put stage bytes))
    | .error _ attempt' => attempt' = attempt ∨ (attempt.files stage = none ∧
        ∃ bytes, codec.encode record = some bytes ∧ attempt' = attempt.put stage bytes) := by
  unfold publishRecord
  cases hencode : codec.encode record with
  | none => exact .inl rfl
  | some bytes =>
    cases hfile : attempt.files stage with
    | some stored =>
      by_cases hsame : stored = bytes
      · subst hsame
        cases hfault : c.publishFault stage with
        | some fault => simp
        | none =>
          unfold readBack
          cases hdecode : codec.decode stored with
          | none => simp [hdecode]
          | some selected =>
            by_cases hselected : selected = record
            · subst hselected
              simp [hdecode]
            · simp [hdecode, hselected]
      · simp [hsame]
    | none =>
      cases hfault : c.publishFault stage with
      | some fault => cases fault <;> simp
      | none =>
        unfold readBack
        cases hdecode : codec.decode bytes with
        | none => simp [hdecode]
        | some selected =>
          by_cases hselected : selected = record
          · subst hselected
            simp [hdecode]
          · simp [hdecode, hselected]

/-- One stage whose record is not stored yet: what it takes to go on, and what is left behind when
it raises. `I` is kept by obtaining the record, and gives `J` when the record is stored. -/
lemma ensure_missing {obtain_ : Engine B R} {validate : R → Option String}
    {state : AttemptState φ} {set : R → AttemptState φ} {I J : Attempt B → Prop}
    (hnext : state.next = some stage) (hstage : stage ≠ .terminal)
    (hset : ∀ files bytes r, Valid codecs dispatchKey attemptId files state →
      codec.encode r = some bytes → codec.decode bytes = some r → validate r = none →
        Valid codecs dispatchKey attemptId (Function.update files stage (some bytes)) (set r))
    (hobtain : Spec (fun attempt => Valid codecs dispatchKey attemptId attempt.files state ∧
        I attempt) obtain_
      (fun _ attempt => Valid codecs dispatchKey attemptId attempt.files state ∧
        DispatchedOnce attempt ∧ ∀ bytes, J (attempt.put stage bytes))
      fun attempt => Sound codecs dispatchKey attemptId attempt ∧ DispatchedOnce attempt) :
    Spec (fun attempt => Valid codecs dispatchKey attemptId attempt.files state ∧ I attempt)
      (ensure c codec stage none obtain_ validate)
      (fun r attempt => Valid codecs dispatchKey attemptId attempt.files (set r) ∧ J attempt)
      fun attempt => Sound codecs dispatchKey attemptId attempt ∧ DispatchedOnce attempt := by
  refine hobtain.bind fun record => ?_
  have hpublish : Spec
      (fun attempt => Valid codecs dispatchKey attemptId attempt.files state ∧
        DispatchedOnce attempt ∧ ∀ bytes, J (attempt.put stage bytes))
      (publishRecord c codec stage record)
      (fun selected attempt' => ∃ attempt bytes,
        Valid codecs dispatchKey attemptId attempt.files state ∧ DispatchedOnce attempt ∧
        J attempt' ∧ attempt' = attempt.put stage bytes ∧ codec.encode selected = some bytes ∧
        codec.decode bytes = some selected)
      fun attempt => Sound codecs dispatchKey attemptId attempt ∧ DispatchedOnce attempt := by
    intro attempt ⟨hvalid, honce, hJ⟩
    have hnone := hvalid.loads.next hnext
    have hspec := publishRecord_spec c codec stage record attempt
    cases hrun : publishRecord c codec stage record attempt with
    | ok selected attempt' =>
      rw [hrun] at hspec
      obtain ⟨rfl, bytes, hencode, hdecode, ⟨hfile, -⟩ | ⟨-, rfl⟩⟩ := hspec
      · rw [hnone] at hfile
        cases hfile
      · exact ⟨attempt, bytes, hvalid, honce, hJ bytes, rfl, hencode, hdecode⟩
    | error e attempt' =>
      rw [hrun] at hspec
      obtain rfl | ⟨-, bytes, -, rfl⟩ := hspec
      · exact ⟨.valid state hvalid, honce⟩
      · exact ⟨.extra attempt.files state stage bytes hvalid hnext rfl fun h => absurd h hstage,
          honce.put stage bytes⟩
  refine hpublish.bind fun selected => ?_
  cases hvalidate : validate selected with
  | none =>
    rintro attempt' ⟨attempt, bytes, hvalid, -, hJ, rfl, hencode, hdecode⟩
    exact ⟨hset attempt.files bytes selected hvalid hencode hdecode hvalidate, hJ⟩
  | some message =>
    rintro attempt' ⟨attempt, bytes, hvalid, honce, -, rfl, -, -⟩
    exact ⟨.extra attempt.files state stage bytes hvalid hnext rfl fun h => absurd h hstage,
      honce.put stage bytes⟩

end Sound

end AecBench.GovernedAttempt
