import AecBench.Lib.Machine
import AecBench.Lib.Wire
import AecBench.Harness.ProviderBroker.Contracts

/-!
# The provider broker

The broker serves one connection at a time: it admits or denies the request, calls the provider
client, and meters what the client returned. Whatever fails after the client was called makes the
effect of the call unknown, which ends the session. A session ends with one receipt.

A `Turn` is one iteration of the server loop with everything it reads: the elapsed time, the peer,
what arrived, what the client does, and the clock.

## Main definitions

* `Provider` — the client's kind, the prices and the digest.
* `admitCall`, `decodeAdmittedCall` — the gates before the client is called.
* `executeAdmittedCall`, `meteredCallOutcome`, `effectUnknownOutcome` — the call.
* `Session`, `Turn`, `Broker`, `broker` — the server loop as a machine.
* `Broker.invocations` — the client calls that were started, as a history.
-/

namespace AecBench.ProviderBroker

open Text Wire

/-! ## Client -/

structure ToolCall where
  name : CodeText
  code : CodeText
  callId : CodeText

structure CompletionResponse where
  outputText : CodeText := []
  inputTokens : ℤ := 0
  outputTokens : ℤ := 0
  cacheReadTokens : ℤ := 0
  cacheWriteTokens : ℤ := 0
  errorMessage : Option CodeText := none
  done : Bool := false
  toolCall : Option ToolCall := none

/-- What a call of the client does: it returns a response, or something that is not one, raises an
exception, or raises what only ends a process (`KeyboardInterrupt`, `SystemExit`). -/
inductive ClientAnswer
  | returns (response : CompletionResponse)
  | malformed
  | raises
  | aborts

/-- The kind of the client, `estimate_cost_usd` (its prices; it may raise) and the digest of
canonical JSON. -/
structure Provider where
  isReplay : Bool
  toolCapable : Bool
  estimateCostUsd : NonEmptyStr → ℤ → ℤ → ℤ → ℤ → Except Unit (Option ℚ)
  sha256 : Value → String

/-- `canonical_json_sha256`: a text that has no encoding raises. -/
def canonicalJsonSha256 (p : Provider) (payload : Object) : Option String :=
  if (Value.object payload).encodable then some (p.sha256 (.object payload)) else none

/-- `_response_payload`. -/
def responsePayload (response : CompletionResponse) : Object :=
  [(text "output_text", .str response.outputText),
    (text "input_tokens", .int response.inputTokens),
    (text "output_tokens", .int response.outputTokens),
    (text "cache_read_tokens", .int response.cacheReadTokens),
    (text "cache_write_tokens", .int response.cacheWriteTokens),
    (text "error_message", optional response.errorMessage),
    (text "done", .bool response.done),
    (text "tool_call",
      match response.toolCall with
      | some toolCall => .object [(text "name", .str toolCall.name),
          (text "code", .str toolCall.code), (text "call_id", .str toolCall.callId)]
      | none => .null)]

/-! ## Outcomes -/

/-- One denied, completed, or effect-unknown transition. -/
structure CallOutcome where
  response : Object
  call : Option CallReceipt := none
  effectUnknownCall : Option UnknownReceipt := none
  deniedReason : Option String := none
  terminalFailure : Option String := none

/-- The response to a call that the broker answers with an error. -/
def errorResponse (reason : String) : Object :=
  [(text "response", .object (responsePayload { errorMessage := some (text reason) }))]

def deniedOutcome (reason : String) (terminalFailure : Option String) : CallOutcome :=
  { response := errorResponse reason, deniedReason := some reason, terminalFailure }

/-- `_malformed_request_response`. -/
def malformedRequestResponse (reason : String) : Object :=
  errorResponse "provider broker denied malformed request" ++
    [(text "broker_error", .str (text reason))]

def malformedRequestOutcome (reason : String) : CallOutcome :=
  { response := malformedRequestResponse reason, deniedReason := some reason }

/-! ## Admission -/

/-- What admission raises: an error that `_handle_call` answers, or an `OverflowError`, which it does
not catch. -/
inductive AdmissionError
  | caught (message : String)
  | overflow

structure Message where
  role : CodeText
  content : CodeText
  toolCallId : Option CodeText
  toolName : Option CodeText

/-- The typed arguments; a temperature stands for the float it is converted to. -/
inductive Arguments
  | generate (temperature : Option Value) (maxOutputTokens : Option ℤ)
  | tools (toolName toolDescription : CodeText) (toolParametersSchema : Object)

structure AdmittedCall where
  request : Object
  operation : Method
  callPlane : CallPlane
  messages : List Message
  systemPrompt : Option CodeText
  arguments : Arguments

/-- `_required_string`. -/
def requiredString (value : Value) (label : String) (allowEmpty : Bool) :
    Except AdmissionError CodeText :=
  match value.text? with
  | some t =>
    if !allowEmpty && decide t.Blank then .error (.caught (label ++ " must be a string"))
    else .ok t
  | none => .error (.caught (label ++ " must be a string"))

/-- `_optional_string`. -/
def optionalString (value : Value) (label : String) : Except AdmissionError (Option CodeText) :=
  if value.isNull then .ok none else (requiredString value label true).map some

/-- One message of the request. -/
def messageFromPayload (item : Value) : Except AdmissionError Message := do
  match item with
  | .object fields =>
    let role ← requiredString (get fields "role") "message role" false
    let content ← requiredString (get fields "content") "message content" true
    let toolCallId ← optionalString (get fields "tool_call_id") "tool_call_id"
    let toolName ← optionalString (get fields "tool_name") "tool_name"
    return ⟨role, content, toolCallId, toolName⟩
  | _ => .error (.caught "each message must be an object")

/-- `_messages_from_payload`. -/
def messagesFromPayload (value : Value) : Except AdmissionError (List Message) :=
  match value with
  | .array items => items.mapM messageFromPayload
  | _ => .error (.caught "messages must be a list")

/-- An `int` too large for a float: it would be rounded to `2 ^ 1024`. -/
def FloatOverflow (n : ℤ) : Prop := 2 ^ 1024 - 2 ^ 970 ≤ |n|

instance (n : ℤ) : Decidable (FloatOverflow n) := inferInstanceAs (Decidable (_ ≤ _))

/-- The arguments of a plain generation. -/
def generateArguments (request : Object) : Except AdmissionError Arguments := do
  let rawTemperature := get request "temperature"
  let temperature ← match rawTemperature with
    | .null => pure none
    | .bool _ | .int _ | .float _ | .special _ => pure (some rawTemperature)
    | _ => .error (.caught "temperature must be numeric or null")
  let maxOutputTokens ← match get request "max_output_tokens" with
    | .null => pure none
    | .int n =>
      if n ≤ 0 then .error (.caught "max_output_tokens must be a positive integer")
      else pure (some n)
    | _ => .error (.caught "max_output_tokens must be a positive integer")
  match rawTemperature with
  | .int n => if FloatOverflow n then .error .overflow else return .generate temperature maxOutputTokens
  | _ => return .generate temperature maxOutputTokens

/-- `_tool_arguments_from_request`. -/
def toolArgumentsFromRequest (request : Object) : Except AdmissionError Arguments := do
  let toolName ← requiredString (get request "tool_name") "tool_name" false
  let toolDescription ← requiredString (get request "tool_description") "tool_description" false
  match get request "tool_parameters_schema" with
  | .object schema => return .tools toolName toolDescription schema
  | _ => .error (.caught "tool_parameters_schema must be an object")

/-- `_decode_admitted_call`. -/
def decodeAdmittedCall (request : Object) (operation : Method) (callPlane : CallPlane) :
    Except AdmissionError AdmittedCall := do
  let messages ← messagesFromPayload (get request "messages")
  let systemPrompt ← optionalString (get request "system_prompt") "system_prompt"
  let arguments ← match operation with
    | .generate => generateArguments request
    | .generateWithTools => toolArgumentsFromRequest request
  return ⟨request, operation, callPlane, messages, systemPrompt, arguments⟩

/-- `_call_budget_rejection`. -/
def callBudgetRejection (policy : Policy) (calls : List CallReceipt) (callPlane : CallPlane)
    (elapsedSeconds : ℚ) : Option String :=
  if policy.timeoutSeconds ≤ elapsedSeconds then some "provider broker time budget exhausted"
  else if policy.maxCalls ≤ calls.length then some "provider broker call budget exhausted"
  else if policy.planeLimit callPlane ≤ calls.countP (·.callPlane = callPlane) then
    some ("provider broker " ++ callPlane.value ++ " call budget exhausted")
  else if ∃ limit ∈ policy.maxTotalTokens, limit ≤ (calls.map callTokens).sum then
    some "provider broker token budget exhausted"
  else if ∃ limit ∈ policy.maxCostUsd, limit ≤ (calls.map (·.costUsd)).sum then
    some "provider broker cost budget exhausted"
  else none

/-- The operation of a request; looking a list or a `dict` up in a set raises a `TypeError`. -/
def operationOf (request : Object) : Except AdmissionError (Option Method) :=
  match get request "operation" with
  | .array _ => .error (.caught "unhashable type: 'list'")
  | .object _ => .error (.caught "unhashable type: 'dict'")
  | .str t =>
    if t = text "generate" then .ok (some .generate)
    else if t = text "generate_with_tools" then .ok (some .generateWithTools)
    else .ok none
  | _ => .ok none

/-- `_authorized_call_plane`. -/
def authorizedCallPlane (value : Value) : Option CallPlane :=
  match value.text? with
  | some t =>
    if t = text "main" then some .main
    else if t = text "auxiliary" then some .auxiliary
    else none
  | none => none

/-- `_admit_call`: the call, or the outcome of its denial. -/
def admitCall (policy : Policy) (calls : List CallReceipt) (elapsedSeconds : ℚ) (request : Object) :
    Except AdmissionError (CallOutcome ⊕ AdmittedCall) := do
  match ← operationOf request with
  | none => return .inl (deniedOutcome "provider broker operation is not authorized" none)
  | some operation =>
    if (get request "policy_sha256").text? ≠ some (text policy.contentSha256) then
      return .inl (deniedOutcome "provider broker policy is not authorized" none)
    else if (get request "model").text? ≠ some (text policy.model.val) then
      return .inl (deniedOutcome "provider broker model is not authorized" none)
    else
      match authorizedCallPlane (get request "call_plane") with
      | none => return .inl (deniedOutcome "provider broker call plane is not authorized" none)
      | some callPlane =>
        match callBudgetRejection policy calls callPlane elapsedSeconds with
        | some reason =>
          return .inl (deniedOutcome reason
            (if reason = "provider broker time budget exhausted" then some reason else none))
        | none => return .inr (← decodeAdmittedCall request operation callPlane)

/-! ## The call -/

/-- What a turn of the server loop reads. -/
inductive Arrival
  | idle
  | refused (message : String)
  | request (fields : Object)

/-- One iteration of the server loop. -/
structure Turn where
  elapsedSeconds : ℚ
  peerAlive : Bool
  arrival : Arrival
  answer : ClientAnswer
  startedAt : ℚ
  finishedAt : ℚ
  recordedAt : ℚ
  delivered : Bool
  closedAt : ℚ

/-- `_response_cost`. -/
def responseCost (p : Provider) (model : NonEmptyStr) (response : CompletionResponse) : Option ℚ :=
  match p.estimateCostUsd model response.inputTokens response.outputTokens response.cacheReadTokens
      response.cacheWriteTokens with
  | .error _ => none
  | .ok (some cost) => some cost
  | .ok none => if p.isReplay then some 0 else none

/-- `_response_budget_failure`. -/
def responseBudgetFailure (policy : Policy) (calls : List CallReceipt) (call : CallReceipt)
    (elapsedSeconds : ℚ) : Option String :=
  if ∃ limit ∈ policy.maxTotalTokens, limit < (calls.map callTokens).sum + callTokens call then
    some "provider broker response exceeded token budget"
  else if ∃ limit ∈ policy.maxCostUsd, limit < (calls.map (·.costUsd)).sum + call.costUsd then
    some "provider broker response exceeded cost budget"
  else if policy.timeoutSeconds < call.finishedAt - call.startedAt + elapsedSeconds then
    some "provider broker response exceeded time budget"
  else none

/-- The constructor of a call receipt. -/
def buildCall (policy : Policy) (calls : List CallReceipt) (admitted : AdmittedCall)
    (response : CompletionResponse) (cost : ℚ) (requestSha256 responseSha256 : String)
    (turn : Turn) : Option CallReceipt :=
  if h : 0 ≤ response.inputTokens ∧ 0 ≤ response.outputTokens ∧ 0 ≤ response.cacheReadTokens ∧
      0 ≤ response.cacheWriteTokens ∧ 0 ≤ cost ∧ turn.startedAt ≤ turn.finishedAt then
    some {
      callIndex := calls.length + 1
      callPlane := admitted.callPlane
      method := admitted.operation
      model := policy.model
      requestSha256 := requestSha256
      responseSha256 := responseSha256
      inputTokens := response.inputTokens.toNat
      outputTokens := response.outputTokens.toNat
      cacheReadTokens := response.cacheReadTokens.toNat
      cacheWriteTokens := response.cacheWriteTokens.toNat
      costUsd := cost
      startedAt := turn.startedAt
      finishedAt := turn.finishedAt
      index_pos := Nat.succ_pos _
      cost_nonneg := h.2.2.2.2.1
      ordered := h.2.2.2.2.2 }
  else none

/-- `_metered_call_outcome`, or nothing when it raises. -/
def meteredCallOutcome (p : Provider) (policy : Policy) (calls : List CallReceipt)
    (admitted : AdmittedCall) (response : CompletionResponse) (turn : Turn) :
    Option CallOutcome := do
  let cost ← responseCost p policy.model response
  let requestSha256 ← canonicalJsonSha256 p admitted.request
  let responseSha256 ← canonicalJsonSha256 p (responsePayload response)
  let call ← buildCall policy calls admitted response cost requestSha256 responseSha256 turn
  match responseBudgetFailure policy calls call turn.elapsedSeconds with
  | some reason =>
    return { response := errorResponse reason, call := some call, deniedReason := some reason,
             terminalFailure := some reason }
  | none =>
    return { response := [(text "response", .object (responsePayload response))], call := some call }

/-- `_effect_unknown_outcome`, or nothing when it raises. -/
def effectUnknownOutcome (p : Provider) (policy : Policy) (calls : List CallReceipt)
    (admitted : AdmittedCall) (turn : Turn) : Option CallOutcome := do
  let requestSha256 ← canonicalJsonSha256 p admitted.request
  if h : turn.startedAt ≤ turn.recordedAt then
    return {
      response := errorResponse "provider broker effect outcome is unknown"
      effectUnknownCall := some {
        callIndex := calls.length + 1
        callPlane := admitted.callPlane
        method := admitted.operation
        model := policy.model
        requestSha256 := requestSha256
        startedAt := turn.startedAt
        recordedAt := turn.recordedAt
        index_pos := Nat.succ_pos _
        ordered := h }
      terminalFailure := some "provider broker effect outcome is unknown" }
  else none

/-- `_execute_admitted_call`: the outcome of a started client call, or nothing when an exception
leaves the broker. -/
def executeAdmittedCall (p : Provider) (policy : Policy) (calls : List CallReceipt)
    (admitted : AdmittedCall) (turn : Turn) : Option CallOutcome :=
  match turn.answer with
  | .returns response =>
    meteredCallOutcome p policy calls admitted response turn <|>
      effectUnknownOutcome p policy calls admitted turn
  | .malformed | .raises => effectUnknownOutcome p policy calls admitted turn
  | .aborts => none

/-- The method of the client that is called. -/
def clientMethod (p : Provider) (admitted : AdmittedCall) : Method :=
  match admitted.arguments with
  | .generate _ _ => .generate
  | .tools _ _ _ => if p.toolCapable then .generateWithTools else .generate

/-- A client call that was started. -/
structure Invocation where
  admitted : AdmittedCall
  method : Method

/-- `_handle_call`: the client call that was started, and the outcome, unless an exception leaves
the broker. -/
def handleCall (p : Provider) (policy : Policy) (calls : List CallReceipt) (request : Object)
    (turn : Turn) : Option Invocation × Option CallOutcome :=
  match admitCall policy calls turn.elapsedSeconds request with
  | .error (.caught message) => (none, some (malformedRequestOutcome message))
  | .error .overflow => (none, none)
  | .ok (.inl outcome) => (none, some outcome)
  | .ok (.inr admitted) =>
    (some ⟨admitted, clientMethod p admitted⟩, executeAdmittedCall p policy calls admitted turn)

/-! ## Sessions -/

structure Session where
  startedAt : ℚ
  calls : List CallReceipt := []
  effectUnknownCalls : List UnknownReceipt := []
  deniedCalls : ℕ := 0
  terminalFailure : Option String := none

def Session.deny (session : Session) : Session :=
  { session with deniedCalls := session.deniedCalls + 1 }

/-- The first failure of a session is kept. -/
def Session.fail (session : Session) (reason : String) : Session :=
  match session.terminalFailure with
  | some _ => session
  | none => { session with terminalFailure := some reason }

/-- `apply`. -/
def Session.apply (session : Session) (outcome : CallOutcome) : Session :=
  let session := { session with
    calls := session.calls ++ outcome.call.toList
    effectUnknownCalls := session.effectUnknownCalls ++ outcome.effectUnknownCall.toList }
  let session := match outcome.deniedReason with
    | some _ => session.deny
    | none => session
  match outcome.terminalFailure with
  | some reason => session.fail reason
  | none => session

/-- `_build_receipt`, before its validation. -/
def receiptOf (policy : Policy) (session : Session) (finishedAt : ℚ) : Receipt where
  brokerId := policy.brokerId
  policySha256 := policy.contentSha256
  status :=
    if session.effectUnknownCalls ≠ [] then .effectUnknown
    else if session.terminalFailure ≠ none then .failed
    else .completed
  calls := session.calls
  effectUnknownCalls := session.effectUnknownCalls
  deniedCalls := session.deniedCalls
  totalCalls := session.calls.length + session.effectUnknownCalls.length
  totalInputTokens := (session.calls.map (·.inputTokens)).sum
  totalOutputTokens := (session.calls.map (·.outputTokens)).sum
  totalCacheReadTokens := (session.calls.map (·.cacheReadTokens)).sum
  totalCacheWriteTokens := (session.calls.map (·.cacheWriteTokens)).sum
  totalCostUsd := (session.calls.map (·.costUsd)).sum
  startedAt := session.startedAt
  finishedAt := finishedAt
  failureReason := session.terminalFailure

/-- Where a broker is: it serves, it returned its receipt, or an exception left it. -/
inductive Progress
  | serving
  | closed (receipt : Receipt)
  | escaped

/-- A broker: its session, where it is, and the client calls that were started so far. -/
structure Broker where
  session : Session
  progress : Progress := .serving
  invocations : List Invocation := []

/-- The session ends with its receipt, unless the receipt is not valid. -/
def Broker.close (policy : Policy) (broker : Broker) (finishedAt : ℚ) : Broker :=
  let receipt := receiptOf policy broker.session finishedAt
  match receiptError receipt with
  | some _ => { broker with progress := .escaped }
  | none => { broker with progress := .closed receipt }

/-- The loop goes on unless the session is terminal. -/
def Broker.next (policy : Policy) (broker : Broker) (finishedAt : ℚ) : Broker :=
  match broker.session.terminalFailure with
  | some _ => broker.close policy finishedAt
  | none => broker

/-- `_broker_terminal_reason`. -/
def brokerTerminalReason (policy : Policy) (turn : Turn) : Option String :=
  if policy.timeoutSeconds ≤ turn.elapsedSeconds then some "provider broker time budget exhausted"
  else if !turn.peerAlive then some "provider broker peer exited without finalization"
  else none

/-- `_is_authorized_finalization`. -/
def IsAuthorizedFinalization (policy : Policy) (request : Object) : Prop :=
  (get request "operation").text? = some (text "finalize") ∧
    (get request "policy_sha256").text? = some (text policy.contentSha256)

instance (policy : Policy) (request : Object) : Decidable (IsAuthorizedFinalization policy request) :=
  inferInstanceAs (Decidable (_ ∧ _))

/-- A call that was handled: its outcome is applied, and a response that was not delivered after an
effect ends the session. -/
def Session.settle (session : Session) (outcome : CallOutcome) (turn : Turn) : Session :=
  let session := session.apply outcome
  if !turn.delivered && outcome.call.isSome then
    session.fail "provider broker response transport failed after provider effect"
  else session

/-- `_handle_call` in the server loop. -/
def Broker.call (p : Provider) (policy : Policy) (broker : Broker) (request : Object)
    (turn : Turn) : Broker :=
  let handled := handleCall p policy broker.session.calls request turn
  let broker := { broker with invocations := broker.invocations ++ handled.1.toList }
  match handled.2 with
  | none => { broker with progress := .escaped }
  | some outcome =>
    ({ broker with session := broker.session.settle outcome turn }).next policy turn.closedAt

/-- `_serve_broker_connection`. -/
def Broker.connection (p : Provider) (policy : Policy) (broker : Broker) (turn : Turn) : Broker :=
  match turn.arrival with
  | .idle => broker
  | .refused _ => { broker with session := broker.session.deny }
  | .request fields =>
    if IsAuthorizedFinalization policy fields then broker.close policy turn.closedAt
    else broker.call p policy fields turn

/-- One iteration of `_serve_broker_session`. -/
def Broker.serve (p : Provider) (policy : Policy) (broker : Broker) (turn : Turn) : Broker :=
  match broker.progress with
  | .serving =>
    match brokerTerminalReason policy turn with
    | some reason =>
      ({ broker with session := broker.session.fail reason }).close policy turn.closedAt
    | none => broker.connection p policy turn
  | _ => broker

/-- The server loop. -/
def broker (p : Provider) (policy : Policy) : Machine Broker Turn := ⟨Broker.serve p policy⟩

/-- A session that starts. -/
def Broker.opened (startedAt : ℚ) : Broker := { session := { startedAt } }

end AecBench.ProviderBroker
