import AecBench.Lib.Validation
import AecBench.Harness.GovernedAttempt.Contracts

/-!
# The repository of governed attempts

One immutable file for each stage of an attempt, in a directory that the identity of the attempt
names. A record is loaded from the bytes of its file, and a stage without a file is missing.

## Main definitions

* `AttemptError` — what the engine raises.
* `Codec`, `Codecs` — how records are written as bytes `B` and read back.
* `Files`, `loadRecord`, `AttemptState`, `loadState` — what is stored for one attempt.
* `validatePartialState`, `completeReplay` — the checks of a loaded state.

## Main results

* `loadState_eq_ok` — a state is loaded when each of its stages is.
-/

namespace AecBench.GovernedAttempt

open Text Validation

/-- The exceptions of the engine; `raised` are those of the disk and of the serialisation, and
`stopped` is the end of the process. -/
inductive AttemptError
  | collision (message : String)
  | integrity (message : String)
  | incomplete (message : String)
  | extension (message : String)
  | dispatchUncertain (message : String)
  | reconciliationRequired (message : String)
  | raised (message : String)
  | stopped

/-- `str(error)`. -/
def AttemptError.text : AttemptError → String
  | collision m | integrity m | incomplete m | extension m | dispatchUncertain m => m
  | reconciliationRequired m | raised m => m
  | stopped => ""

/-! ## Files -/

/-- The canonical bytes of a record, unless it cannot be written, and the record that bytes are
validated to. -/
structure Codec (B R : Type) where
  encode : R → Option B
  decode : B → Option R

/-- The record is read back as it was written. -/
def Codec.Reads {B R : Type} (codec : Codec B R) (record : R) : Prop :=
  ∃ bytes, codec.encode record = some bytes ∧ codec.decode bytes = some record

structure Codecs (B φ : Type) where
  preflight : Codec B (Preflight φ)
  reservation : Codec B (BudgetReservation φ)
  permit : Codec B MonitorPermit
  intent : Codec B DispatchIntent
  receipt : Codec B (BackendReceipt φ)
  imported : Codec B (ImportReceipt φ)
  budgetClosure : Codec B (BudgetClosure φ)
  monitorClosure : Codec B (MonitorClosure φ)
  terminal : Codec B Terminal

/-- The files of one attempt. -/
abbrev Files (B : Type) := Stage → Option B

section Loading

variable {B φ R : Type} [DecidableEq B]

/-- `_load_record`: canonical bytes of a record with the identity of the attempt. -/
def loadRecord (codec : Codec B R) (attemptIdOf : R → NonEmptyStr) (stage : Stage)
    (attemptId : NonEmptyStr) (files : Files B) : Except AttemptError (Option R) :=
  match files stage with
  | none => .ok none
  | some bytes =>
    match codec.decode bytes with
    | none => .error (.integrity (stage.label ++ " could not replay canonical evidence"))
    | some record =>
      if codec.encode record ≠ some bytes then
        .error (.integrity (stage.label ++ " could not replay canonical evidence"))
      else if attemptIdOf record ≠ attemptId then
        .error (.integrity (stage.label ++ " record differs from its logical identity"))
      else .ok (some record)

/-- The durable records of an attempt, as far as they exist. -/
structure AttemptState (φ : Type) where
  preflight : Option (Preflight φ)
  reservation : Option (BudgetReservation φ)
  permit : Option MonitorPermit
  intent : Option DispatchIntent
  receipt : Option (BackendReceipt φ)
  imported : Option (ImportReceipt φ)
  budgetClosure : Option (BudgetClosure φ)
  monitorClosure : Option (MonitorClosure φ)
  terminal : Option Terminal

/-- `load_state`. -/
def loadState (codecs : Codecs B φ) (attemptId : NonEmptyStr) (files : Files B) :
    Except AttemptError (AttemptState φ) := do
  let preflight ← loadRecord codecs.preflight (·.attemptId) .preflight attemptId files
  let reservation ← loadRecord codecs.reservation (·.attemptId) .budgetReservation attemptId files
  let permit ← loadRecord codecs.permit (·.attemptId) .monitorPermit attemptId files
  let intent ← loadRecord codecs.intent (·.attemptId) .dispatchIntent attemptId files
  let receipt ← loadRecord codecs.receipt (·.attemptId) .backendReceipt attemptId files
  let imported ← loadRecord codecs.imported (·.attemptId) .importReceipt attemptId files
  let budgetClosure ← loadRecord codecs.budgetClosure (·.attemptId) .budgetClosure attemptId files
  let monitorClosure ←
    loadRecord codecs.monitorClosure (·.attemptId) .monitorClosure attemptId files
  let terminal ← loadRecord codecs.terminal (·.attemptId) .terminal attemptId files
  return ⟨preflight, reservation, permit, intent, receipt, imported, budgetClosure, monitorClosure,
    terminal⟩

/-- Each stage is loaded as the state has it. -/
structure Loads (codecs : Codecs B φ) (attemptId : NonEmptyStr) (files : Files B)
    (state : AttemptState φ) : Prop where
  preflight : loadRecord codecs.preflight (·.attemptId) .preflight attemptId files =
    .ok state.preflight
  reservation : loadRecord codecs.reservation (·.attemptId) .budgetReservation attemptId files =
    .ok state.reservation
  permit : loadRecord codecs.permit (·.attemptId) .monitorPermit attemptId files = .ok state.permit
  intent : loadRecord codecs.intent (·.attemptId) .dispatchIntent attemptId files = .ok state.intent
  receipt : loadRecord codecs.receipt (·.attemptId) .backendReceipt attemptId files =
    .ok state.receipt
  imported : loadRecord codecs.imported (·.attemptId) .importReceipt attemptId files =
    .ok state.imported
  budgetClosure : loadRecord codecs.budgetClosure (·.attemptId) .budgetClosure attemptId files =
    .ok state.budgetClosure
  monitorClosure : loadRecord codecs.monitorClosure (·.attemptId) .monitorClosure attemptId files =
    .ok state.monitorClosure
  terminal : loadRecord codecs.terminal (·.attemptId) .terminal attemptId files = .ok state.terminal

variable {codecs : Codecs B φ} {codec : Codec B R} {attemptIdOf : R → NonEmptyStr} {stage : Stage}
  {attemptId : NonEmptyStr} {files : Files B} {state : AttemptState φ}

theorem loadState_eq_ok :
    loadState codecs attemptId files = .ok state ↔ Loads codecs attemptId files state := by
  simp only [loadState, bind_eq_ok, pure_eq_ok]
  constructor
  · rintro ⟨_, h₁, _, h₂, _, h₃, _, h₄, _, h₅, _, h₆, _, h₇, _, h₈, _, h₉, rfl⟩
    exact ⟨h₁, h₂, h₃, h₄, h₅, h₆, h₇, h₈, h₉⟩
  · rintro ⟨h₁, h₂, h₃, h₄, h₅, h₆, h₇, h₈, h₉⟩
    exact ⟨_, h₁, _, h₂, _, h₃, _, h₄, _, h₅, _, h₆, _, h₇, _, h₈, _, h₉, rfl⟩

lemma loadRecord_none_iff :
    loadRecord codec attemptIdOf stage attemptId files = .ok none ↔ files stage = none := by
  unfold loadRecord
  cases hfile : files stage with
  | none => simp
  | some bytes =>
    simp only [reduceCtorEq, iff_false]
    split
    · simp
    · split
      · simp
      · split <;> simp

lemma loadRecord_some_iff {record : R} :
    loadRecord codec attemptIdOf stage attemptId files = .ok (some record) ↔
      ∃ bytes, files stage = some bytes ∧ codec.encode record = some bytes ∧
        codec.decode bytes = some record ∧ attemptIdOf record = attemptId := by
  unfold loadRecord
  cases hfile : files stage with
  | none => simp
  | some bytes =>
    constructor
    · intro h
      dsimp only at h
      split at h
      · cases h
      · rename_i record' hdecode
        split at h
        · cases h
        · rename_i hencode
          split at h
          · cases h
          · rename_i hid
            cases h
            exact ⟨bytes, rfl, not_not.mp hencode, hdecode, not_not.mp hid⟩
    · rintro ⟨_, ⟨⟩, hencode, hdecode, hid⟩
      simp [hencode, hdecode, hid]

lemma loadRecord_congr {files' : Files B} (h : files' stage = files stage) :
    loadRecord codec attemptIdOf stage attemptId files' =
      loadRecord codec attemptIdOf stage attemptId files := by
  unfold loadRecord
  rw [h]

end Loading

/-! ## Checks -/

section Checks

variable {φ : Type} [DecidableEq φ] [LT φ] [DecidableLT φ]

/-- `_validate_stage_prefix`: no record after a missing one. -/
def isPrefix : List Bool → Bool
  | [] => true
  | true :: rest => isPrefix rest
  | false :: rest => rest.all not

def AttemptState.present (state : AttemptState φ) : List Bool :=
  [state.preflight.isSome, state.reservation.isSome, state.permit.isSome, state.intent.isSome,
    state.receipt.isSome, state.imported.isSome, state.budgetClosure.isSome,
    state.monitorClosure.isSome, state.terminal.isSome]

/-- `_validate_pre_effect_state`. -/
def preEffectError (dispatchKey : NonEmptyStr → String → String) (state : AttemptState φ) :
    Option String :=
  match state.preflight, state.reservation with
  | some preflight, some reservation =>
    reservationError preflight reservation <|>
      match state.permit with
      | none => none
      | some permit =>
        permitError preflight reservation permit <|>
          match state.intent with
          | none => none
          | some intent => intentError dispatchKey preflight reservation permit intent
  | _, _ => none

/-- `_validate_post_effect_state` with `_validate_import_and_closures`. -/
def postEffectError (dispatchKey : NonEmptyStr → String → String) (state : AttemptState φ) :
    Option String :=
  match state.preflight, state.reservation, state.permit, state.intent, state.receipt with
  | some preflight, some reservation, some permit, some intent, some receipt =>
    receiptError preflight intent receipt <|>
      match state.imported with
      | none => none
      | some imported =>
        importError preflight receipt imported <|>
          match state.budgetClosure with
          | none => none
          | some budgetClosure =>
            budgetClosureError reservation receipt imported budgetClosure <|>
              match state.monitorClosure with
              | none => none
              | some monitorClosure =>
                monitorClosureError permit receipt imported budgetClosure monitorClosure <|>
                  match state.terminal with
                  | none => none
                  | some terminal =>
                    completeChainError dispatchKey ⟨preflight, reservation, permit, intent, receipt,
                      imported, budgetClosure, monitorClosure, terminal⟩
  | _, _, _, _, _ => none

/-- `validate_partial_state`: the first check of a loaded state that fails. -/
def partialStateError (dispatchKey : NonEmptyStr → String → String) (state : AttemptState φ) :
    Option String :=
  (if isPrefix state.present then none
    else some "governed attempt durable stages do not form one exact prefix")
  <|> preEffectError dispatchKey state
  <|> postEffectError dispatchKey state

/-- The construction of the replay model, which validates the chain. -/
def buildReplay (dispatchKey : NonEmptyStr → String → String) (replay : Replay φ) :
    Except AttemptError (Replay φ) :=
  match completeChainError dispatchKey replay with
  | some error => .error (.raised error)
  | none => .ok replay

/-- `complete_replay`. -/
def completeReplay (dispatchKey : NonEmptyStr → String → String) (state : AttemptState φ) :
    Except AttemptError (Replay φ) :=
  match state.preflight, state.reservation, state.permit, state.intent, state.receipt,
      state.imported, state.budgetClosure, state.monitorClosure, state.terminal with
  | some preflight, some reservation, some permit, some intent, some receipt, some imported,
      some budgetClosure, some monitorClosure, some terminal =>
    buildReplay dispatchKey ⟨preflight, reservation, permit, intent, receipt, imported,
      budgetClosure, monitorClosure, terminal⟩
  | _, _, _, _, _, _, _, _, _ =>
    .error (.incomplete "governed attempt terminal evidence is incomplete")

end Checks

end AecBench.GovernedAttempt
