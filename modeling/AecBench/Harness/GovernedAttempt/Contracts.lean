import Mathlib.Data.List.Basic
import AecBench.Lib.Text

/-!
# Records of a governed attempt

A governed attempt leaves one immutable record for each of its stages. Every record after the first
is joined to those before it; the chain validators name the first join that does not hold.

The numbers `φ` are the floats of the usage fields: they are only compared.

## Main definitions

* `Stage` — the persisted stages in their order.
* `Preflight`, `BudgetReservation`, `MonitorPermit`, `DispatchIntent`, `BackendReceipt`,
  `ImportReceipt`, `BudgetClosure`, `MonitorClosure`, `Terminal`, `Replay` — the records.
* `buildDispatchIntent`, `buildTerminal` — the records the engine builds itself.
* `reservationError`, `permitError`, `intentError`, `receiptError`, `importError`,
  `budgetClosureError`, `monitorClosureError`, `completeChainError` — the chain validators.
-/

namespace AecBench.GovernedAttempt

open Text

/-! ## Fields -/

/-- Hashes as the validators of the records accept them: at least one, sorted and unique. -/
structure EvidenceHashes where
  hashes : List String
  nonempty : hashes ≠ []
  digests : ∀ h ∈ hashes, HexDigest h
  sorted : hashes.Pairwise (· < ·)
  deriving DecidableEq

structure Usage (φ : Type) where
  modelCalls : ℕ
  inputTokens : ℕ
  outputTokens : ℕ
  cacheReadTokens : ℕ
  cacheWriteTokens : ℕ
  estimatedCostUsd : φ
  wallTimeSeconds : φ
  deriving DecidableEq

structure UsageLimits (φ : Type) where
  modelCalls : ℕ
  totalTokens : Option ℕ
  estimatedCostUsd : Option φ
  wallTimeSeconds : φ
  deriving DecidableEq

/-! ## Records -/

/-- The persisted stages, in their order. -/
inductive Stage
  | preflight
  | budgetReservation
  | monitorPermit
  | dispatchIntent
  | backendReceipt
  | importReceipt
  | budgetClosure
  | monitorClosure
  | terminal
  deriving DecidableEq

/-- The label of a stage in error texts. -/
def Stage.label : Stage → String
  | preflight => "governed attempt preflight"
  | budgetReservation => "governed attempt budget reservation"
  | monitorPermit => "governed attempt monitor permit"
  | dispatchIntent => "governed attempt dispatch intent"
  | backendReceipt => "governed attempt backend receipt"
  | importReceipt => "governed attempt import receipt"
  | budgetClosure => "governed attempt budget closure"
  | monitorClosure => "governed attempt monitor closure"
  | terminal => "governed attempt terminal"

structure Preflight (φ : Type) where
  attemptId : NonEmptyStr
  workloadSha256 : String
  dispatchPayloadSha256 : String
  maximumUsage : UsageLimits φ
  requiredEffectEvidence : EvidenceHashes
  deriving DecidableEq

structure BudgetReservation (φ : Type) where
  attemptId : NonEmptyStr
  reservationId : NonEmptyStr
  maximumUsage : UsageLimits φ
  deriving DecidableEq

structure MonitorPermit where
  attemptId : NonEmptyStr
  reservationId : NonEmptyStr
  permitId : NonEmptyStr
  deriving DecidableEq

structure DispatchIntent where
  attemptId : NonEmptyStr
  reservationId : NonEmptyStr
  permitId : NonEmptyStr
  dispatchPayloadSha256 : String
  dispatchKeySha256 : String
  deriving DecidableEq

structure BackendReceipt (φ : Type) where
  attemptId : NonEmptyStr
  dispatchKeySha256 : String
  backendReceiptId : NonEmptyStr
  observedUsage : Usage φ
  effectEvidence : EvidenceHashes
  deriving DecidableEq

structure ImportReceipt (φ : Type) where
  attemptId : NonEmptyStr
  backendReceiptId : NonEmptyStr
  importId : NonEmptyStr
  observedUsage : Usage φ
  sourceEffectEvidence : EvidenceHashes
  importedEvidence : EvidenceHashes
  deriving DecidableEq

structure BudgetClosure (φ : Type) where
  attemptId : NonEmptyStr
  reservationId : NonEmptyStr
  backendReceiptId : NonEmptyStr
  importId : NonEmptyStr
  observedUsage : Usage φ
  effectEvidence : EvidenceHashes
  deriving DecidableEq

/-- The closure of the monitor; its field `closure_permitted` can only be true. -/
structure MonitorClosure (φ : Type) where
  attemptId : NonEmptyStr
  permitId : NonEmptyStr
  backendReceiptId : NonEmptyStr
  importId : NonEmptyStr
  observedUsage : Usage φ
  effectEvidence : EvidenceHashes
  deriving DecidableEq

structure Terminal where
  attemptId : NonEmptyStr
  reservationId : NonEmptyStr
  permitId : NonEmptyStr
  backendReceiptId : NonEmptyStr
  importId : NonEmptyStr
  effectEvidence : EvidenceHashes
  importedEvidence : EvidenceHashes
  deriving DecidableEq

/-- The complete typed replay of one attempt. -/
structure Replay (φ : Type) where
  preflight : Preflight φ
  reservation : BudgetReservation φ
  monitorPermit : MonitorPermit
  dispatchIntent : DispatchIntent
  dispatchReceipt : BackendReceipt φ
  importReceipt : ImportReceipt φ
  budgetClosure : BudgetClosure φ
  monitorClosure : MonitorClosure φ
  terminal : Terminal

/-! ## Chain validation -/

section Chain

variable {φ : Type} [DecidableEq φ]

/-- `build_dispatch_intent`; `dispatchKey` is the digest of the attempt id and the payload. -/
def buildDispatchIntent (dispatchKey : NonEmptyStr → String → String) (preflight : Preflight φ)
    (reservation : BudgetReservation φ) (permit : MonitorPermit) : DispatchIntent where
  attemptId := preflight.attemptId
  reservationId := reservation.reservationId
  permitId := permit.permitId
  dispatchPayloadSha256 := preflight.dispatchPayloadSha256
  dispatchKeySha256 := dispatchKey preflight.attemptId preflight.dispatchPayloadSha256

/-- The terminal record that `_publish_terminal` builds. -/
def buildTerminal (preflight : Preflight φ) (reservation : BudgetReservation φ)
    (permit : MonitorPermit) (receipt : BackendReceipt φ) (imported : ImportReceipt φ) :
    Terminal where
  attemptId := preflight.attemptId
  reservationId := reservation.reservationId
  permitId := permit.permitId
  backendReceiptId := receipt.backendReceiptId
  importId := imported.importId
  effectEvidence := receipt.effectEvidence
  importedEvidence := imported.importedEvidence

def reservationError (preflight : Preflight φ) (reservation : BudgetReservation φ) :
    Option String :=
  if reservation.attemptId ≠ preflight.attemptId ∨
      reservation.maximumUsage ≠ preflight.maximumUsage then
    some "governed attempt budget reservation differs from preflight"
  else none

def permitError (preflight : Preflight φ) (reservation : BudgetReservation φ)
    (permit : MonitorPermit) : Option String :=
  if permit.attemptId ≠ preflight.attemptId ∨
      permit.reservationId ≠ reservation.reservationId then
    some "governed attempt monitor permit differs from its reservation"
  else none

def intentError (dispatchKey : NonEmptyStr → String → String) (preflight : Preflight φ)
    (reservation : BudgetReservation φ) (permit : MonitorPermit) (intent : DispatchIntent) :
    Option String :=
  if intent ≠ buildDispatchIntent dispatchKey preflight reservation permit then
    some "governed attempt dispatch intent differs from its permitted effect"
  else none

/-- `usage_breach_label`: the first usage above its reservation. -/
def usageBreachLabel [LT φ] [DecidableLT φ] (observed : Usage φ) (maximum : UsageLimits φ) :
    Option String :=
  if maximum.modelCalls < observed.modelCalls then some "model calls"
  else if ∃ limit ∈ maximum.totalTokens, limit < observed.inputTokens + observed.outputTokens +
      observed.cacheReadTokens + observed.cacheWriteTokens then some "total tokens"
  else if ∃ limit ∈ maximum.estimatedCostUsd, limit < observed.estimatedCostUsd then
    some "estimated cost"
  else if maximum.wallTimeSeconds < observed.wallTimeSeconds then some "wall time"
  else none

def receiptError [LT φ] [DecidableLT φ] (preflight : Preflight φ) (intent : DispatchIntent)
    (receipt : BackendReceipt φ) : Option String :=
  if receipt.attemptId ≠ preflight.attemptId ∨
      receipt.dispatchKeySha256 ≠ intent.dispatchKeySha256 then
    some "governed attempt backend receipt differs from dispatch intent"
  else
    match usageBreachLabel receipt.observedUsage preflight.maximumUsage with
    | some breach => some ("governed attempt backend usage exceeds reserved " ++ breach)
    | none =>
      if ¬ ∀ h ∈ preflight.requiredEffectEvidence.hashes, h ∈ receipt.effectEvidence.hashes then
        some "governed attempt backend effect evidence is incomplete"
      else none

def importError (preflight : Preflight φ) (receipt : BackendReceipt φ)
    (imported : ImportReceipt φ) : Option String :=
  if imported.attemptId ≠ preflight.attemptId ∨
      imported.backendReceiptId ≠ receipt.backendReceiptId ∨
      imported.observedUsage ≠ receipt.observedUsage ∨
      imported.sourceEffectEvidence ≠ receipt.effectEvidence then
    some "governed attempt import usage or effect evidence differs from backend receipt"
  else none

def budgetClosureError (reservation : BudgetReservation φ) (receipt : BackendReceipt φ)
    (imported : ImportReceipt φ) (closure : BudgetClosure φ) : Option String :=
  if closure.attemptId ≠ reservation.attemptId ∨
      closure.reservationId ≠ reservation.reservationId ∨
      closure.backendReceiptId ≠ receipt.backendReceiptId ∨
      closure.importId ≠ imported.importId ∨
      closure.observedUsage ≠ receipt.observedUsage ∨
      closure.effectEvidence ≠ receipt.effectEvidence then
    some "governed attempt budget closure differs from effect usage or evidence"
  else none

def monitorClosureError (permit : MonitorPermit) (receipt : BackendReceipt φ)
    (imported : ImportReceipt φ) (budgetClosure : BudgetClosure φ) (closure : MonitorClosure φ) :
    Option String :=
  if closure.attemptId ≠ permit.attemptId ∨
      closure.permitId ≠ permit.permitId ∨
      closure.backendReceiptId ≠ receipt.backendReceiptId ∨
      closure.importId ≠ imported.importId ∨
      budgetClosure.attemptId ≠ closure.attemptId ∨
      closure.observedUsage ≠ receipt.observedUsage ∨
      closure.effectEvidence ≠ receipt.effectEvidence then
    some "governed attempt monitor closure differs from accounted effect evidence"
  else none

/-- The join of the terminal record, the last check of `complete_chain_error`. -/
def terminalError (replay : Replay φ) : Option String :=
  if replay.terminal.attemptId ≠ replay.preflight.attemptId ∨
      replay.terminal.reservationId ≠ replay.reservation.reservationId ∨
      replay.terminal.permitId ≠ replay.monitorPermit.permitId ∨
      replay.terminal.backendReceiptId ≠ replay.dispatchReceipt.backendReceiptId ∨
      replay.terminal.importId ≠ replay.importReceipt.importId ∨
      replay.dispatchIntent.attemptId ≠ replay.terminal.attemptId ∨
      replay.budgetClosure.attemptId ≠ replay.terminal.attemptId ∨
      replay.monitorClosure.attemptId ≠ replay.terminal.attemptId ∨
      replay.terminal.effectEvidence ≠ replay.dispatchReceipt.effectEvidence ∨
      replay.terminal.importedEvidence ≠ replay.importReceipt.importedEvidence then
    some "governed attempt terminal differs from its exact lifecycle chain"
  else none

/-- `complete_chain_error`: the first mismatch of a complete chain. -/
def completeChainError [LT φ] [DecidableLT φ] (dispatchKey : NonEmptyStr → String → String)
    (replay : Replay φ) : Option String :=
  reservationError replay.preflight replay.reservation
  <|> permitError replay.preflight replay.reservation replay.monitorPermit
  <|> intentError dispatchKey replay.preflight replay.reservation replay.monitorPermit
    replay.dispatchIntent
  <|> receiptError replay.preflight replay.dispatchIntent replay.dispatchReceipt
  <|> importError replay.preflight replay.dispatchReceipt replay.importReceipt
  <|> budgetClosureError replay.reservation replay.dispatchReceipt replay.importReceipt
    replay.budgetClosure
  <|> monitorClosureError replay.monitorPermit replay.dispatchReceipt replay.importReceipt
    replay.budgetClosure replay.monitorClosure
  <|> terminalError replay

end Chain

end AecBench.GovernedAttempt
