import AecBench.Lib.Replace
import AecBench.Worlds.Stewardship.PumpStation.Physical

/-!
# Work and resources of the pump station

Pools of reusable capacity and of consumable stock, the reservations that processes hold in them,
the backlog of recognised demand for work, and the two admission questions that work raises: which
generated item is new, and whether an outage for work leaves enough assured service.

## Main definitions

* `Pool`, `ResourceState`, `createResourceState` — the pools, and their opening quantities.
* `reserveProcessResources`, `retainConsumableReservations`, `resumeProcessReservations`,
  `cancelProcessReservations`, `consumeReservation`, `releaseReservations` — the operations.
* `resourceConservation` — pool quantities against all live reservations.
* `BacklogItem`, `generateWorkOnce`, `plannedOutageAdmissible` — demand for work.
-/

namespace AecBench.Worlds.PumpStation

open Validation

/-! ## Pools -/

/-- A half-open window of reusable capacity. -/
structure AvailabilityInterval where
  startCalendarSeconds : ℤ
  endCalendarSeconds : ℤ
  deriving DecidableEq

/-- Whether the whole requested interval is available. -/
def AvailabilityInterval.Covers (w : AvailabilityInterval) (first last : ℤ) : Prop :=
  w.startCalendarSeconds ≤ first ∧ last ≤ w.endCalendarSeconds

instance (w : AvailabilityInterval) (first last : ℤ) : Decidable (w.Covers first last) :=
  inferInstanceAs (Decidable (_ ∧ _))

structure ReusablePool where
  poolId : String
  capacity : ℤ
  free : ℤ
  reserved : ℤ
  unavailable : ℤ
  availabilityIntervals : List AvailabilityInterval
  nonneg : 0 ≤ capacity ∧ 0 ≤ free ∧ 0 ≤ reserved ∧ 0 ≤ unavailable
  balanced : capacity = free + reserved + unavailable

structure ConsumablePool where
  poolId : String
  onHand : ℤ
  free : ℤ
  reserved : ℤ
  arrivals : ℤ
  consumed : ℤ
  discarded : ℤ
  openingOnHand : ℤ
  nonneg : 0 ≤ onHand ∧ 0 ≤ free ∧ 0 ≤ reserved ∧ 0 ≤ arrivals ∧ 0 ≤ consumed ∧ 0 ≤ discarded ∧
    0 ≤ openingOnHand
  balanced : onHand = free + reserved
  accounted : openingOnHand + arrivals = onHand + consumed + discarded

inductive Pool
  | reusable (pool : ReusablePool)
  | consumable (pool : ConsumablePool)

def Pool.poolId : Pool → String
  | reusable pool => pool.poolId
  | consumable pool => pool.poolId

def Pool.free : Pool → ℤ
  | reusable pool => pool.free
  | consumable pool => pool.free

def Pool.reserved : Pool → ℤ
  | reusable pool => pool.reserved
  | consumable pool => pool.reserved

/-- The stock a pool has given up for good. -/
def Pool.consumed : Pool → ℤ
  | reusable _ => 0
  | consumable pool => pool.consumed

/-- The windows of a pool of reusable capacity. -/
def Pool.windows : Pool → Option (List AvailabilityInterval)
  | reusable pool => some pool.availabilityIntervals
  | consumable _ => none

def ReusablePool.make (poolId : String) (capacity free reserved unavailable : ℤ)
    (availabilityIntervals : List AvailabilityInterval) : Except Failure ReusablePool :=
  if hn : 0 ≤ capacity ∧ 0 ≤ free ∧ 0 ≤ reserved ∧ 0 ≤ unavailable then
    if hb : capacity = free + reserved + unavailable then
      .ok ⟨poolId, capacity, free, reserved, unavailable, availabilityIntervals, hn, hb⟩
    else .error ⟨"resource-conservation", poolId⟩
  else .error ⟨"resource-quantity", poolId⟩

def ConsumablePool.make (poolId : String)
    (onHand free reserved arrivals consumed discarded openingOnHand : ℤ) :
    Except Failure ConsumablePool :=
  if hn : 0 ≤ onHand ∧ 0 ≤ free ∧ 0 ≤ reserved ∧ 0 ≤ arrivals ∧ 0 ≤ consumed ∧ 0 ≤ discarded ∧
      0 ≤ openingOnHand then
    if hb : onHand = free + reserved then
      if ha : openingOnHand + arrivals = onHand + consumed + discarded then
        .ok ⟨poolId, onHand, free, reserved, arrivals, consumed, discarded, openingOnHand, hn, hb, ha⟩
      else .error ⟨"resource-conservation", poolId⟩
    else .error ⟨"resource-conservation", poolId⟩
  else .error ⟨"resource-quantity", poolId⟩

/-- `replace(pool, free=…, unavailable=…)` of reusable capacity. -/
def ReusablePool.withQuantities (pool : ReusablePool) (free reserved unavailable : ℤ) :
    Except Failure Pool :=
  Pool.reusable <$> ReusablePool.make pool.poolId pool.capacity free reserved unavailable
    pool.availabilityIntervals

/-- `replace(pool, free=…, reserved=…)`. -/
def Pool.move (pool : Pool) (quantity : ℤ) : Except Failure Pool :=
  match pool with
  | reusable pool =>
    pool.withQuantities (pool.free - quantity) (pool.reserved + quantity) pool.unavailable
  | consumable pool => Pool.consumable <$> ConsumablePool.make pool.poolId pool.onHand
      (pool.free - quantity) (pool.reserved + quantity) pool.arrivals pool.consumed pool.discarded
      pool.openingOnHand

/-- The pools, of distinct identities. -/
structure ResourceState where
  pools : List Pool
  distinct : (pools.map Pool.poolId).Nodup

namespace ResourceState

def make (pools : List Pool) : Except Failure ResourceState :=
  if h : (pools.map Pool.poolId).Nodup then .ok ⟨pools, h⟩
  else .error ⟨"resource-inventory", "pool identities must be distinct"⟩

variable (resources : ResourceState)

def pool (poolId : String) : Except Failure Pool :=
  match resources.pools.find? (·.poolId = poolId) with
  | some pool => .ok pool
  | none => .error ⟨"unknown-resource-pool", poolId⟩

/-- The pools with the one of the same identity replaced. -/
def withPool (updated : Pool) : Except Failure ResourceState := do
  let _ ← resources.pool updated.poolId
  make (Table.replace Pool.poolId updated resources.pools)

end ResourceState

/-- The opening quantities of the pools. -/
structure ReusablePoolRow where
  poolId : String
  capacity : ℤ
  free : ℤ
  reserved : ℤ
  unavailable : ℤ
  availabilityIntervals : List AvailabilityInterval

structure ConsumablePoolRow where
  poolId : String
  onHand : ℤ
  free : ℤ
  reserved : ℤ

def createResourceState (reusablePools : List ReusablePoolRow)
    (consumablePools : List ConsumablePoolRow) : Except Failure ResourceState := do
  let reusable ← reusablePools.mapM fun item =>
    ReusablePool.make item.poolId item.capacity item.free item.reserved item.unavailable
      item.availabilityIntervals
  let consumable ← consumablePools.mapM fun item =>
    ConsumablePool.make item.poolId item.onHand item.free item.reserved 0 0 0 item.onHand
  require (reusable ≠ [] ∧ ∀ pool ∈ reusable, pool.availabilityIntervals ≠ [])
    ⟨"resource-window", "each reusable pool requires at least one availability window"⟩
  ResourceState.make (reusable.map .reusable ++ consumable.map .consumable)

/-! ## Reservations -/

inductive PoolReservationStatus
  | reserved
  | active
  | suspendedRetained
  | released
  | consumed
  | cancelled
  deriving DecidableEq

structure PoolReservation where
  reservationId : String
  poolId : String
  quantity : ℤ
  processId : String
  targetId : String
  status : PoolReservationStatus
  createdAtCalendarSeconds : ℤ
  releasedAtCalendarSeconds : Option ℤ
  retainOnSuspension : Bool
  disposition : Option String

/-- The reservation still stands for a quantity of its pool. -/
def PoolReservation.Live (r : PoolReservation) : Prop :=
  r.status = .reserved ∨ r.status = .active ∨ r.status = .suspendedRetained

instance (r : PoolReservation) : Decidable r.Live := inferInstanceAs (Decidable (_ ∨ _))

/-- The quantity of a pool that its live reservations stand for. -/
def liveQuantity (reservations : List PoolReservation) (poolId : String) : ℤ :=
  ((reservations.filter fun r => r.poolId = poolId ∧ r.Live).map (·.quantity)).sum

/-- The pools whose quantities differ from their live reservations, sorted. What a pool checks of
its own quantities it carries with it. -/
def resourceConservation (resources : ResourceState) (reservations : List PoolReservation) :
    List String :=
  ((resources.pools.filter fun pool => pool.reserved ≠ liveQuantity reservations pool.poolId).map
    Pool.poolId).insertionSort (· ≤ ·)

/-- The check at the end of each operation on reservations. -/
def conserved (detail : String) (resources : ResourceState) (reservations : List PoolReservation) :
    Except Failure (ResourceState × List PoolReservation) := do
  require (resourceConservation resources reservations = []) ⟨"resource-conservation", detail⟩
  pure (resources, reservations)

/-- A loop over all reservations that settles each of them, and the pools with it. -/
def settleEach
    (settle : ResourceState → PoolReservation → Except Failure (ResourceState × PoolReservation)) :
    ResourceState → List PoolReservation → Except Failure (ResourceState × List PoolReservation)
  | resources, [] => .ok (resources, [])
  | resources, r :: rs => do
    let (resources, r) ← settle resources r
    let (resources, rs) ← settleEach settle resources rs
    pure (resources, r :: rs)

def reservationOrdinal (reservations : List PoolReservation) (poolId processId : String) : ℕ :=
  1 + reservations.countP fun r => r.poolId = poolId ∧ r.processId = processId

/-- A unit of a pool, reserved for a process. -/
def newReservation (reservations : List PoolReservation) (processId targetId : String)
    (nowCalendarSeconds : ℤ) (pool : Pool) : PoolReservation where
  reservationId :=
    s!"reservation-{processId}-{pool.poolId}-{reservationOrdinal reservations pool.poolId processId}"
  poolId := pool.poolId
  quantity := 1
  processId := processId
  targetId := targetId
  status := .active
  createdAtCalendarSeconds := nowCalendarSeconds
  releasedAtCalendarSeconds := none
  retainOnSuspension := pool.windows.isNone
  disposition := none

def reserveProcessResources (resources : ResourceState) (reservations : List PoolReservation)
    (processId targetId : String) (poolIds : List String) (nowCalendarSeconds durationSeconds : ℤ) :
    Except Failure (ResourceState × List PoolReservation) := do
  require (poolIds.Nodup ∧ 0 < durationSeconds)
    ⟨"resource-request", "pool identities or duration are invalid"⟩
  let selected ← poolIds.mapM resources.pool
  selected.forM fun pool => do
    require (1 ≤ pool.free) ⟨"resource-unavailable", pool.poolId⟩
    require (∀ windows ∈ pool.windows, ∃ window ∈ windows,
        window.Covers nowCalendarSeconds (nowCalendarSeconds + durationSeconds))
      ⟨"resource-window", pool.poolId⟩
  let updated ← selected.foldlM (fun resources pool => do resources.withPool (← pool.move 1))
    resources
  conserved "reservation account differs" updated
    (reservations ++
      selected.map (newReservation reservations processId targetId nowCalendarSeconds))

/-- Suspension of one reservation. -/
def retainReservation (nowCalendarSeconds : ℤ) (resources : ResourceState) (r : PoolReservation) :
    Except Failure (ResourceState × PoolReservation) := do
  if r.status ≠ .active then pure (resources, r)
  else
    let pool ← resources.pool r.poolId
    if r.retainOnSuspension then pure (resources, { r with status := .suspendedRetained })
    else
      require (pool.windows.isSome = true) ⟨"resource-class", r.poolId⟩
      let updated ← resources.withPool (← pool.move (-1))
      pure (updated, { r with
        status := .released
        releasedAtCalendarSeconds := some nowCalendarSeconds
        disposition := some "released_on_suspension" })

/-- Release reusable capacity and retain consumable stock on suspension. -/
def retainConsumableReservations (resources : ResourceState) (reservations : List PoolReservation)
    (nowCalendarSeconds : ℤ) : Except Failure (ResourceState × List PoolReservation) := do
  let (updated, result) ← settleEach (retainReservation nowCalendarSeconds) resources reservations
  conserved "suspension account differs" updated result

/-- Reactivate retained stock and reserve fresh reusable capacity on resume. -/
def resumeProcessReservations (resources : ResourceState) (reservations : List PoolReservation)
    (processId targetId : String) (requiredPoolIds : List String)
    (nowCalendarSeconds remainingDurationSeconds : ℤ) :
    Except Failure (ResourceState × List PoolReservation) := do
  let retained (r : PoolReservation) : Bool :=
    r.processId = processId && r.status = .suspendedRetained
  let retainedPoolIds := (reservations.filter retained).map (·.poolId)
  let missingPoolIds := requiredPoolIds.filter (· ∉ retainedPoolIds)
  let (updated, result) ← reserveProcessResources resources reservations processId targetId
    missingPoolIds nowCalendarSeconds remainingDurationSeconds
  conserved "resume account differs" updated
    (result.map fun r => if retained r then { r with status := .active } else r)

/-- Cancellation of one reservation. -/
def cancelReservation (processId : String) (nowCalendarSeconds : ℤ) (resources : ResourceState)
    (r : PoolReservation) : Except Failure (ResourceState × PoolReservation) := do
  if r.processId ≠ processId ∨ (r.status ≠ .active ∧ r.status ≠ .suspendedRetained) then
    pure (resources, r)
  else
    let pool ← resources.pool r.poolId
    let updated ← resources.withPool (← pool.move (-r.quantity))
    pure (updated, { r with
      status := .cancelled
      releasedAtCalendarSeconds := some nowCalendarSeconds
      disposition := some "cancelled_unused" })

/-- Cancel retained stock and any active reservation without consuming them. -/
def cancelProcessReservations (resources : ResourceState) (reservations : List PoolReservation)
    (processId : String) (nowCalendarSeconds : ℤ) :
    Except Failure (ResourceState × List PoolReservation) := do
  let (updated, result) ← settleEach (cancelReservation processId nowCalendarSeconds) resources
    reservations
  conserved "cancellation account differs" updated result

/-- Consume one held consumable reservation after successful work. -/
def consumeReservation (resources : ResourceState) (reservations : List PoolReservation)
    (poolId processId : String) (nowCalendarSeconds : ℤ) :
    Except Failure (ResourceState × List PoolReservation) := do
  match ← resources.pool poolId with
  | .reusable _ => .error ⟨"resource-class", poolId⟩
  | .consumable pool =>
    let held := reservations.filter fun r => r.poolId = poolId ∧ r.processId = processId ∧
      (r.status = .active ∨ r.status = .suspendedRetained)
    match held with
    | [selected] =>
      let updatedPool ← ConsumablePool.make pool.poolId (pool.onHand - selected.quantity) pool.free
        (pool.reserved - selected.quantity) pool.arrivals (pool.consumed + selected.quantity)
        pool.discarded pool.openingOnHand
      let updated := reservations.map fun r =>
        if r.reservationId = selected.reservationId then
          { r with
            status := .consumed
            releasedAtCalendarSeconds := some nowCalendarSeconds
            disposition := some "consumed_on_success" }
        else r
      pure (← resources.withPool (.consumable updatedPool), updated)
    | _ => .error ⟨"reservation-state", poolId⟩

/-- Release of one reservation. -/
def releaseReservation (processId : String) (nowCalendarSeconds : ℤ) (resources : ResourceState)
    (r : PoolReservation) : Except Failure (ResourceState × PoolReservation) := do
  if r.processId ≠ processId ∨ r.status ≠ .active then pure (resources, r)
  else
    let pool ← resources.pool r.poolId
    require (pool.windows.isSome = true)
      ⟨"reservation-state", s!"unused consumable {pool.poolId} needs an explicit disposition"⟩
    let updated ← resources.withPool (← pool.move (-r.quantity))
    pure (updated, { r with
      status := .released
      releasedAtCalendarSeconds := some nowCalendarSeconds
      disposition := some "released_on_completion" })

/-- Release all still active reusable reservations after the end of a process. -/
def releaseReservations (resources : ResourceState) (reservations : List PoolReservation)
    (processId : String) (nowCalendarSeconds : ℤ) :
    Except Failure (ResourceState × List PoolReservation) := do
  let (updated, result) ← settleEach (releaseReservation processId nowCalendarSeconds) resources
    reservations
  conserved "completion account differs" updated result

/-! ## Processes and the backlog -/

inductive ProcessStatus
  | active
  | suspended
  | completed
  | failed
  | cancelled
  deriving DecidableEq

inductive ProcessKind
  | inspection
  | obstructionClearance
  | functionalCheck
  | postMaintenanceVerification
  deriving DecidableEq

def ProcessKind.value : ProcessKind → String
  | inspection => "inspection"
  | obstructionClearance => "obstruction_clearance"
  | functionalCheck => "functional_check"
  | postMaintenanceVerification => "post_maintenance_verification"

/-- A timed work process, linked to a recognised demand. -/
structure CoupledProcess where
  processId : String
  kind : ProcessKind
  targetId : String
  backlogItemId : String
  startedAtCalendarSeconds : ℤ
  dueAtCalendarSeconds : ℤ
  remainingDurationSeconds : ℤ
  requiredPoolIds : List String
  status : ProcessStatus

inductive Priority
  | p0
  | p1
  | p2
  | p3
  deriving DecidableEq

inductive BacklogStatus
  | opened
  | planned
  | inProgress
  | completed
  | closed
  | blocked
  | cancelled
  | superseded
  deriving DecidableEq

structure BacklogItem where
  itemId : String
  workType : String
  targetKind : String
  targetId : String
  generationRuleId : String
  generationOrdinal : ℕ
  originatingRecordId : String
  linkedObligationIds : List String
  linkedRestrictionIds : List String
  linkedWorkOrderId : Option String
  linkedProcessId : Option String
  generatedAtCalendarSeconds : ℤ
  basePriority : Priority
  effectivePriority : Priority
  dueCalendarSeconds : Option ℤ
  dueRuntimeClockKind : Option String
  dueRuntimeClockId : Option String
  dueRuntimeLimitSeconds : Option ℤ
  status : BacklogStatus
  blockedFromStatus : Option BacklogStatus
  blockedSinceCalendarSeconds : Option ℤ
  accumulatedBlockedSeconds : ℤ
  closureRule : String
  closureEvidenceIds : List String
  deriving DecidableEq

/-- The source identity of one generated item. -/
structure WorkGenerationRecord where
  ruleId : String
  sourceTransitionId : String
  targetKind : String
  targetId : String
  generationOrdinal : ℕ
  backlogItemId : String
  deriving DecidableEq

def WorkGenerationRecord.key (r : WorkGenerationRecord) : String × String × String × String × ℕ :=
  (r.ruleId, r.sourceTransitionId, r.targetKind, r.targetId, r.generationOrdinal)

/-- Create one stable item, or return what is there when its content is the same. -/
def generateWorkOnce (records : List WorkGenerationRecord) (backlog : List BacklogItem)
    (generation : WorkGenerationRecord) (item : BacklogItem) :
    Except Failure (List WorkGenerationRecord × List BacklogItem) := do
  require (generation.backlogItemId = item.itemId) ⟨"generation-link", item.itemId⟩
  let existing := records.filter (·.key = generation.key)
  if existing ≠ [] then
    require (existing = [generation]) ⟨"generation-content-mismatch", item.itemId⟩
    require (backlog.filter (·.itemId = generation.backlogItemId) = [item])
      ⟨"generation-content-mismatch", item.itemId⟩
    pure (records, backlog)
  else
    require (∀ value ∈ backlog, value.itemId ≠ item.itemId)
      ⟨"generation-content-mismatch", item.itemId⟩
    pure (records ++ [generation], backlog ++ [item])

/-- The end of the stretch that the requirements cover without a gap or too high a demand. -/
def coveredThrough (completion : ℤ) (assured : ℕ) : ℤ → List ServiceRequirement → Option ℤ
  | cursor, [] => some cursor
  | cursor, requirement :: rest =>
    if requirement.startCalendarSeconds > cursor ∨ requirement.requiredServiceScu > assured then none
    else coveredThrough completion assured
      (max cursor (min requirement.endCalendarSeconds completion)) rest

/-- Whether assured capacity of the other pumps covers each disclosed interval of the work. -/
def plannedOutageAdmissible (state : PhysicalState) (targetPumpId : String)
    (startCalendarSeconds completionCalendarSeconds : ℤ)
    (visibleServiceSchedule : List ServiceRequirement) (disclosedThroughCalendarSeconds : ℤ) :
    Except Failure Bool := do
  if completionCalendarSeconds > disclosedThroughCalendarSeconds then pure false
  else if targetPumpId ∈ state.serviceRunningPumpIds ∨ targetPumpId ∈ state.testRunningPumpIds then
    pure false
  else
    let others := state.pumps.filter (·.pumpId ≠ targetPumpId)
    let availabilities ← others.mapM fun pump => state.availability pump.pumpId
    let assuredNonTarget := availabilities.countP (·.assuredForOutagePlanning)
    let relevant := visibleServiceSchedule.filter fun requirement =>
      requirement.startCalendarSeconds < completionCalendarSeconds ∧
        requirement.endCalendarSeconds > startCalendarSeconds
    let inOrder := relevant.insertionSort (·.startCalendarSeconds ≤ ·.startCalendarSeconds)
    match relevant, coveredThrough completionCalendarSeconds assuredNonTarget startCalendarSeconds
        inOrder with
    | [], _ => pure false
    | _, none => pure false
    | _, some cursor => pure (decide (cursor ≥ completionCalendarSeconds))

end AecBench.Worlds.PumpStation
