import AecBench.Harness.GovernedAttempt.Repository
import AecBench.Lib.Machine

/-!
# The lifecycle of a governed attempt

The engine brings an attempt from its preflight to its terminal record. Each stage that is not
stored yet is obtained, from a port or by the engine itself, published, and validated against the
stages before it. The lock of the repository serves one call at a time; a call may stop anywhere,
and the next one goes on from the stored records.

What the disk and the ports do during a call are its `Conditions`. A call asks each port at most
once and publishes each stage at most once.

## Main definitions

* `Answer`, `Fault`, `Conditions` — what a call meets.
* `Attempt`, `Engine` — the files of an attempt with the history of its port calls, and programs on
  them.
* `publishRecord`, `ensure` — one stage; `ensureReservation`, … — the stages of the source.
* `execute`, `replay` — the calls; `repository` — the attempts of a repository, a call at a time.

## Main results

* `repository_run` — an attempt is moved by the calls that name it.
-/

namespace AecBench.GovernedAttempt

open Text

/-! ## What a call meets -/

/-- What a port does: it returns a valid record, or something that is not one, raises an exception
(its text and the name of its type), raises an error of the engine's own kind, or the process
stops. -/
inductive Answer (R : Type)
  | gives (record : R)
  | invalid (message : String)
  | fails (message typeName : String)
  | governed (error : AttemptError)
  | stops

/-- A publication that does not come to its end: with the file missing, or with the file there. -/
inductive Fault
  | before (error : AttemptError)
  | after (error : AttemptError)

/-- The exception of a fault. -/
def Fault.error : Fault → AttemptError
  | before e => e
  | after e => e

structure Conditions (φ : Type) where
  loadFault : Option AttemptError
  publishFault : Stage → Option Fault
  reserve : Preflight φ → Answer (BudgetReservation φ)
  authorize : Preflight φ → BudgetReservation φ → Answer MonitorPermit
  dispatch : DispatchIntent → Answer (BackendReceipt φ)
  reconcile : DispatchIntent → Answer (Option (BackendReceipt φ))
  importResult : Preflight φ → BackendReceipt φ → Answer (ImportReceipt φ)
  closeBudget : BudgetReservation φ → BackendReceipt φ → ImportReceipt φ →
    Answer (BudgetClosure φ)
  closeMonitor : MonitorPermit → BackendReceipt φ → ImportReceipt φ → BudgetClosure φ →
    Answer (MonitorClosure φ)

/-- The ports, as a history of calls names them. -/
inductive PortCall
  | reserve
  | authorize
  | dispatch
  | reconcile
  | importResult
  | closeBudget
  | closeMonitor
  deriving DecidableEq

/-- The files of an attempt, and the ports that were called for it so far. -/
structure Attempt (B : Type) where
  files : Files B
  ports : List PortCall

abbrev Engine (B α : Type) := EStateM AttemptError (Attempt B) α

variable {B φ R : Type} [DecidableEq B] [DecidableEq φ] [DecidableEq R]

def Attempt.empty : Attempt B := ⟨fun _ => none, []⟩

/-- The file of a stage is there from now on. -/
def Attempt.put (attempt : Attempt B) (stage : Stage) (bytes : B) : Attempt B :=
  { attempt with files := Function.update attempt.files stage (some bytes) }

/-! ## One stage -/

/-- The check after a publication: the stored bytes are read back as the record. -/
def readBack (codec : Codec B R) (stage : Stage) (record : R) (bytes : B) : Engine B R :=
  fun attempt =>
    match codec.decode bytes with
    | none => .error (.integrity (stage.label ++ " could not replay canonical evidence")) attempt
    | some selected =>
      if selected ≠ record then
        .error (.integrity (stage.label ++ " could not replay canonical evidence")) attempt
      else .ok selected attempt

/-- `publish_record`: the first writer of a stage creates its file, and a later one has to bring the
same bytes. -/
def publishRecord (c : Conditions φ) (codec : Codec B R) (stage : Stage) (record : R) :
    Engine B R :=
  fun attempt =>
    match codec.encode record with
    | none => .error (.raised (stage.label ++ " cannot be serialized")) attempt
    | some bytes =>
      match attempt.files stage, c.publishFault stage with
      | some stored, fault =>
        if stored ≠ bytes then
          .error (.collision (stage.label ++ " already contains different immutable content"))
            attempt
        else
          match fault with
          | some fault => .error fault.error attempt
          | none => readBack codec stage record bytes attempt
      | none, some (.before e) => .error e attempt
      | none, some (.after e) => .error e (attempt.put stage bytes)
      | none, none => readBack codec stage record bytes (attempt.put stage bytes)

/-- `_raise_chain_error`. -/
def raiseChainError (error : Option String) : Engine B Unit :=
  match error with
  | some message => throw (.integrity message)
  | none => pure ()

/-- One stage: a stored record is used as it is; another one is obtained, published and checked. -/
def ensure (c : Conditions φ) (codec : Codec B R) (stage : Stage) (existing : Option R)
    (obtain : Engine B R) (check : R → Option String) : Engine B R :=
  match existing with
  | some record => pure record
  | none => do
    let record ← obtain
    let selected ← publishRecord c codec stage record
    raiseChainError (check selected)
    return selected

/-! ## The ports -/

/-- `_validated_model` of what `_call_extension` returns. -/
def callExtension (port : PortCall) (label model : String) (answer : Answer R) : Engine B R :=
  fun attempt =>
    let attempt' := { attempt with ports := attempt.ports ++ [port] }
    match answer with
    | .gives record => .ok record attempt'
    | .invalid message => .error (.integrity (model ++ " is invalid: " ++ message)) attempt'
    | .fails message _ =>
      .error (.extension ("governed attempt " ++ label ++ " failed: " ++ message)) attempt'
    | .governed e => .error e attempt'
    | .stops => .error .stopped attempt'

/-- The text of an exception, or the name of its type. -/
def uncertainText : Answer R → String
  | .gives _ => ""
  | .invalid message => "governed attempt backend receipt is invalid: " ++ message
  | .fails message typeName => if Blank message then typeName else strip message
  | .governed e => strip e.text
  | .stops => ""

def dispatchBackend (c : Conditions φ) (intent : DispatchIntent) : Engine B (BackendReceipt φ) :=
  fun attempt =>
    let attempt' := { attempt with ports := attempt.ports ++ [.dispatch] }
    match c.dispatch intent with
    | .gives receipt => .ok receipt attempt'
    | .stops => .error .stopped attempt'
    | answer => .error (.dispatchUncertain
        ("governed attempt backend receipt is uncertain after durable dispatch intent: " ++
          uncertainText answer)) attempt'

/-- `_reconcile_backend_receipt`. -/
def reconcileBackendReceipt (c : Conditions φ) (intent : DispatchIntent) :
    Engine B (BackendReceipt φ) :=
  fun attempt =>
    let attempt' := { attempt with ports := attempt.ports ++ [.reconcile] }
    match c.reconcile intent with
    | .gives (some receipt) => .ok receipt attempt'
    | .stops => .error .stopped attempt'
    | .invalid _ => .error (.reconciliationRequired
        "durable governed dispatch intent reconciled an invalid backend receipt") attempt'
    | _ => .error (.reconciliationRequired
        "durable governed dispatch intent could not reconcile a backend receipt") attempt'

/-- `_obtain_backend_receipt`. -/
def obtainBackendReceipt (c : Conditions φ) (intent : DispatchIntent) (intentWasDurable : Bool) :
    Engine B (BackendReceipt φ) :=
  if intentWasDurable then reconcileBackendReceipt c intent else dispatchBackend c intent

/-! ## The stages -/

section Stages

variable (codecs : Codecs B φ) (dispatchKey : NonEmptyStr → String → String) (c : Conditions φ)

/-- `_select_preflight`; `publish_record` has compared what it returns. -/
def selectPreflight (preflight : Preflight φ) : Engine B (Preflight φ) :=
  publishRecord c codecs.preflight .preflight preflight

def ensureReservation (preflight : Preflight φ) (existing : Option (BudgetReservation φ)) :
    Engine B (BudgetReservation φ) :=
  ensure c codecs.reservation .budgetReservation existing
    (callExtension .reserve "budget reservation" "governed attempt budget reservation"
      (c.reserve preflight))
    (reservationError preflight)

def ensurePermit (preflight : Preflight φ) (reservation : BudgetReservation φ)
    (existing : Option MonitorPermit) : Engine B MonitorPermit :=
  ensure c codecs.permit .monitorPermit existing
    (callExtension .authorize "monitor authorization" "governed attempt monitor permit"
      (c.authorize preflight reservation))
    (permitError preflight reservation)

/-- The intent; whether it was durable is whether it existed. -/
def ensureIntent (preflight : Preflight φ) (reservation : BudgetReservation φ)
    (permit : MonitorPermit) (existing : Option DispatchIntent) : Engine B DispatchIntent :=
  ensure c codecs.intent .dispatchIntent existing
    (pure (buildDispatchIntent dispatchKey preflight reservation permit))
    (intentError dispatchKey preflight reservation permit)

variable [LT φ] [DecidableLT φ]

def ensureReceipt (preflight : Preflight φ) (intent : DispatchIntent) (intentWasDurable : Bool)
    (existing : Option (BackendReceipt φ)) : Engine B (BackendReceipt φ) :=
  ensure c codecs.receipt .backendReceipt existing
    (obtainBackendReceipt c intent intentWasDurable)
    (receiptError preflight intent)

def ensureImport (preflight : Preflight φ) (receipt : BackendReceipt φ)
    (existing : Option (ImportReceipt φ)) : Engine B (ImportReceipt φ) :=
  ensure c codecs.imported .importReceipt existing
    (callExtension .importResult "import extension" "governed attempt import receipt"
      (c.importResult preflight receipt))
    (importError preflight receipt)

def ensureBudgetClosure (reservation : BudgetReservation φ) (receipt : BackendReceipt φ)
    (imported : ImportReceipt φ) (existing : Option (BudgetClosure φ)) :
    Engine B (BudgetClosure φ) :=
  ensure c codecs.budgetClosure .budgetClosure existing
    (callExtension .closeBudget "budget closure" "governed attempt budget closure"
      (c.closeBudget reservation receipt imported))
    (budgetClosureError reservation receipt imported)

def ensureMonitorClosure (permit : MonitorPermit) (receipt : BackendReceipt φ)
    (imported : ImportReceipt φ) (budgetClosure : BudgetClosure φ)
    (existing : Option (MonitorClosure φ)) : Engine B (MonitorClosure φ) :=
  ensure c codecs.monitorClosure .monitorClosure existing
    (callExtension .closeMonitor "monitor closure" "governed attempt monitor closure"
      (c.closeMonitor permit receipt imported budgetClosure))
    (monitorClosureError permit receipt imported budgetClosure)

/-- `_publish_terminal`. -/
def publishTerminal (preflight : Preflight φ) (reservation : BudgetReservation φ)
    (permit : MonitorPermit) (receipt : BackendReceipt φ) (imported : ImportReceipt φ) :
    Engine B Terminal :=
  publishRecord c codecs.terminal .terminal
    (buildTerminal preflight reservation permit receipt imported)

/-! ## The calls -/

/-- An `Except` as a step of the engine that changes nothing. -/
def check {α : Type} (result : Except AttemptError α) : Engine B α :=
  match result with
  | .ok a => pure a
  | .error e => throw e

/-- `load_state` and `validate_partial_state`. -/
def loadValidState (attemptId : NonEmptyStr) : Engine B (AttemptState φ) := fun attempt =>
  match c.loadFault with
  | some e => .error e attempt
  | none =>
    match loadState codecs attemptId attempt.files with
    | .error e => .error e attempt
    | .ok state =>
      match partialStateError dispatchKey state with
      | some message => .error (.integrity message) attempt
      | none => .ok state attempt

/-- The stages from the reservation to the terminal record. -/
def completeStages (preflight : Preflight φ) (state : AttemptState φ) : Engine B (Replay φ) := do
  let reservation ← ensureReservation codecs c preflight state.reservation
  let permit ← ensurePermit codecs c preflight reservation state.permit
  let intent ← ensureIntent codecs dispatchKey c preflight reservation permit state.intent
  let receipt ← ensureReceipt codecs c preflight intent state.intent.isSome state.receipt
  let imported ← ensureImport codecs c preflight receipt state.imported
  let budgetClosure ← ensureBudgetClosure codecs c reservation receipt imported state.budgetClosure
  let monitorClosure ←
    ensureMonitorClosure codecs c permit receipt imported budgetClosure state.monitorClosure
  let terminal ← publishTerminal codecs c preflight reservation permit receipt imported
  check (buildReplay dispatchKey ⟨preflight, reservation, permit, intent, receipt, imported,
    budgetClosure, monitorClosure, terminal⟩)

/-- What `execute` does with a valid state. -/
def executeFrom (preflight : Preflight φ) (state : AttemptState φ) : Engine B (Replay φ) :=
  match state.terminal with
  | some _ => check (completeReplay dispatchKey state)
  | none => completeStages codecs dispatchKey c preflight state

/-- `execute`. -/
def execute (preflight : Preflight φ) : Engine B (Replay φ) := do
  let selected ← selectPreflight codecs c preflight
  let state ← loadValidState codecs dispatchKey c selected.attemptId
  executeFrom codecs dispatchKey c selected state

/-- What `replay` does with a valid state. -/
def replayFrom (state : AttemptState φ) : Engine B (Replay φ) :=
  match state.terminal with
  | some _ => check (completeReplay dispatchKey state)
  | none => throw (.incomplete "governed attempt has no terminal evidence")

/-- `replay`, of an attempt id that is not blank. -/
def replay (attemptId : NonEmptyStr) : Engine B (Replay φ) := do
  let state ← loadValidState codecs dispatchKey c attemptId
  replayFrom dispatchKey state

end Stages

/-! ## Repositories -/

inductive Call (φ : Type)
  | execute (preflight : Preflight φ)
  | replay (attemptId : NonEmptyStr)

/-- The attempt that a call names. -/
def Call.attemptId : Call φ → NonEmptyStr
  | .execute preflight => preflight.attemptId
  | .replay attemptId => attemptId

/-- A call and what it meets. -/
structure Event (φ : Type) where
  call : Call φ
  conditions : Conditions φ

section Repositories

variable [LT φ] [DecidableLT φ] (codecs : Codecs B φ)
  (dispatchKey : NonEmptyStr → String → String)

/-- A call on the attempt it names: the attempt afterwards, and what the call returned or raised. -/
def Event.handle (event : Event φ) (attempt : Attempt B) :
    EStateM.Result AttemptError (Attempt B) (Replay φ) :=
  match event.call with
  | .execute preflight => execute codecs dispatchKey event.conditions preflight attempt
  | .replay attemptId => replay codecs dispatchKey event.conditions attemptId attempt

/-- The state of a result. -/
def stateOf {ε σ α : Type} : EStateM.Result ε σ α → σ
  | .ok _ s => s
  | .error _ s => s

/-- One attempt, driven by the calls that name it. -/
def attemptMachine : Machine (Attempt B) (Event φ) :=
  ⟨fun attempt event => stateOf (event.handle codecs dispatchKey attempt)⟩

/-- The attempts of a repository. -/
def repository : Machine (NonEmptyStr → Attempt B) (Event φ) :=
  ⟨fun attempts event => Function.update attempts event.call.attemptId
    (stateOf (event.handle codecs dispatchKey (attempts event.call.attemptId)))⟩

omit [DecidableEq R] in
/-- An attempt is moved by the calls that name it. -/
theorem repository_run (attempts : NonEmptyStr → Attempt B) (events : List (Event φ))
    (attemptId : NonEmptyStr) :
    (repository codecs dispatchKey).run attempts events attemptId =
      (attemptMachine codecs dispatchKey).run (attempts attemptId)
        (events.filter (·.call.attemptId = attemptId)) := by
  induction events generalizing attempts with
  | nil => rfl
  | cons event events ih =>
    rw [Machine.run_cons, ih]
    by_cases hid : event.call.attemptId = attemptId
    · subst hid
      simp [repository, attemptMachine]
    · have hother : attemptId ≠ event.call.attemptId := fun h => hid h.symm
      simp [repository, hid, hother]

end Repositories

end AecBench.GovernedAttempt
