import Mathlib.Algebra.Order.Field.Rat
import Mathlib.Algebra.BigOperators.Group.List.Defs
import AecBench.Lib.Text

/-!
# Policies and receipts of the provider broker

A policy is the authority that one broker serves: a model, and budgets on calls, tokens, cost and
time. The receipt of a session repeats what its calls used, and its validation counts everything
again.

Amounts of money and seconds are the rationals that the floats of the source stand for; instants are
seconds.

## Main definitions

* `Policy` — the authority of a broker; `CallPlane`, `Method`.
* `CallReceipt`, `UnknownReceipt` — a metered call, and a call whose outcome is unknown.
* `Receipt`, `receiptError` — the receipt of a session, and the first check of it that fails.
-/

namespace AecBench.ProviderBroker

open Text

inductive Status
  | completed
  | failed
  | effectUnknown
  deriving DecidableEq

/-- The closed metering planes. -/
inductive CallPlane
  | main
  | auxiliary
  deriving DecidableEq

def CallPlane.value : CallPlane → String
  | main => "main"
  | auxiliary => "auxiliary"

inductive Method
  | generate
  | generateWithTools
  deriving DecidableEq

/-- The authority delegated to one agent process. `contentSha256` is its content address. -/
structure Policy where
  brokerId : NonEmptyStr
  contentSha256 : String
  model : NonEmptyStr
  maxMainCalls : ℕ
  maxAuxiliaryCalls : ℕ
  maxCalls : ℕ
  maxTotalTokens : Option ℕ
  maxCostUsd : Option ℚ
  timeoutSeconds : ℕ
  main_pos : 0 < maxMainCalls
  tokens_pos : ∀ n ∈ maxTotalTokens, 0 < n
  cost_pos : ∀ x ∈ maxCostUsd, 0 < x
  timeout_pos : 0 < timeoutSeconds
  calls_eq : maxCalls = maxMainCalls + maxAuxiliaryCalls

/-- The calls that a plane may make. -/
def Policy.planeLimit (policy : Policy) : CallPlane → ℕ
  | .main => policy.maxMainCalls
  | .auxiliary => policy.maxAuxiliaryCalls

/-- One provider call and its metered response. -/
structure CallReceipt where
  callIndex : ℕ
  callPlane : CallPlane
  method : Method
  model : NonEmptyStr
  requestSha256 : String
  responseSha256 : String
  inputTokens : ℕ
  outputTokens : ℕ
  cacheReadTokens : ℕ
  cacheWriteTokens : ℕ
  costUsd : ℚ
  startedAt : ℚ
  finishedAt : ℚ
  index_pos : 0 < callIndex
  cost_nonneg : 0 ≤ costUsd
  ordered : startedAt ≤ finishedAt

/-- `_call_tokens`. -/
def callTokens (call : CallReceipt) : ℕ :=
  call.inputTokens + call.outputTokens + call.cacheReadTokens + call.cacheWriteTokens

/-- An admitted call whose outcome is unknown. -/
structure UnknownReceipt where
  callIndex : ℕ
  callPlane : CallPlane
  method : Method
  model : NonEmptyStr
  requestSha256 : String
  startedAt : ℚ
  recordedAt : ℚ
  index_pos : 0 < callIndex
  ordered : startedAt ≤ recordedAt

/-- The terminal receipt of one session. -/
structure Receipt where
  brokerId : NonEmptyStr
  policySha256 : String
  status : Status
  calls : List CallReceipt
  effectUnknownCalls : List UnknownReceipt
  deniedCalls : ℕ
  totalCalls : ℕ
  totalInputTokens : ℕ
  totalOutputTokens : ℕ
  totalCacheReadTokens : ℕ
  totalCacheWriteTokens : ℕ
  totalCostUsd : ℚ
  startedAt : ℚ
  finishedAt : ℚ
  failureReason : Option String

/-! ## Validation of a receipt -/

/-- The constraints of the fields. -/
def fieldError (receipt : Receipt) : Option String :=
  if 1 < receipt.effectUnknownCalls.length then
    some "effect_unknown_calls should have at most 1 item"
  else if receipt.totalCostUsd < 0 then
    some "total_cost_usd should be greater than or equal to 0"
  else if ∃ reason ∈ receipt.failureReason, Blank reason then
    some "failure_reason must be non-empty"
  else none

/-- `_validate_receipt_time_and_indices`. -/
def timeAndIndicesError (receipt : Receipt) : Option String :=
  if receipt.finishedAt < receipt.startedAt then
    some "provider broker cannot finish before it starts"
  else if receipt.calls.map (·.callIndex) ≠ List.range' 1 receipt.calls.length then
    some "provider broker call indices must be contiguous"
  else if receipt.effectUnknownCalls.map (·.callIndex) ≠
      List.range' (receipt.calls.length + 1) receipt.effectUnknownCalls.length then
    some "provider broker unknown-effect call indices must follow observed calls"
  else none

/-- `_validate_receipt_aggregates`. -/
def aggregatesError (receipt : Receipt) : Option String :=
  if receipt.totalCalls ≠ receipt.calls.length + receipt.effectUnknownCalls.length then
    some "provider broker total_calls must equal observed calls"
  else if receipt.totalInputTokens ≠ (receipt.calls.map (·.inputTokens)).sum then
    some "provider broker total_input_tokens must equal observed calls"
  else if receipt.totalOutputTokens ≠ (receipt.calls.map (·.outputTokens)).sum then
    some "provider broker total_output_tokens must equal observed calls"
  else if receipt.totalCacheReadTokens ≠ (receipt.calls.map (·.cacheReadTokens)).sum then
    some "provider broker total_cache_read_tokens must equal observed calls"
  else if receipt.totalCacheWriteTokens ≠ (receipt.calls.map (·.cacheWriteTokens)).sum then
    some "provider broker total_cache_write_tokens must equal observed calls"
  else if 1 / 1000000000 < |receipt.totalCostUsd - (receipt.calls.map (·.costUsd)).sum| then
    some "provider broker total_cost_usd must equal observed calls"
  else none

/-- `_validate_receipt_status`. -/
def statusError (receipt : Receipt) : Option String :=
  match receipt.status with
  | .completed =>
    if receipt.failureReason ≠ none then
      some "completed provider broker cannot carry a failure reason"
    else if receipt.effectUnknownCalls ≠ [] then
      some "completed provider broker cannot carry unknown-effect calls"
    else none
  | .effectUnknown =>
    if receipt.failureReason = none ∨ receipt.effectUnknownCalls.length ≠ 1 then
      some "effect-unknown provider broker requires one unknown-effect call and a failure reason"
    else none
  | .failed =>
    if receipt.failureReason = none then some "failed provider broker requires a failure reason"
    else if receipt.effectUnknownCalls ≠ [] then
      some "failed provider broker cannot carry unknown-effect calls"
    else none

/-- The validation of a receipt: the first check that fails. -/
def receiptError (receipt : Receipt) : Option String :=
  fieldError receipt <|> timeAndIndicesError receipt <|> aggregatesError receipt <|>
    statusError receipt

end AecBench.ProviderBroker
