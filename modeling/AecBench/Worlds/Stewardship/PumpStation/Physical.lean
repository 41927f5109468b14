import Mathlib.Algebra.Order.Ring.Rat
import AecBench.Lib.Validation

/-!
# The pump station as a physical asset

Three pumps of one wastewater pump station: their latent condition and clocks, the boundary each
of them is operated under, and the sets that run in service and on test. One operating interval
moves the clocks and the condition of every pump.

A decimal operation of the source is rounded to the precision of its context; the rounding is the
parameter `round`.

## Main definitions

* `PumpCondition`, `PumpExposure`, `PhysicalState` — values that pass their own checks.
* `PhysicalState.withBoundaryMode` — a pump put under another boundary.
* `OperatingDelta`, `OperatingInterval` — what an interval did to each pump.
* `transitionCoupledPumpStation` — one interval applied to the pumps.
-/

namespace AecBench.Worlds.PumpStation

open Validation

/-- An error of the pump station: a code and what it is about. -/
structure Failure where
  code : String
  detail : String

/-! ## Pumps -/

structure DegradationParameters where
  obstructionRuntimeRate : ℚ
  obstructionStartRate : ℚ
  clearanceRuntimeRate : ℚ

/-- Latent obstruction and clearance loss of a pump. -/
structure PumpCondition where
  obstruction : ℚ
  clearanceLoss : ℚ
  obstruction_range : 0 ≤ obstruction ∧ obstruction ≤ 1
  clearanceLoss_range : 0 ≤ clearanceLoss ∧ clearanceLoss ≤ 1

def PumpCondition.make (obstruction clearanceLoss : ℚ) : Except Failure PumpCondition :=
  if ho : 0 ≤ obstruction ∧ obstruction ≤ 1 then
    if hc : 0 ≤ clearanceLoss ∧ clearanceLoss ≤ 1 then .ok ⟨obstruction, clearanceLoss, ho, hc⟩
    else .error ⟨"pump-condition", "clearance loss must remain inside [0, 1]"⟩
  else .error ⟨"pump-condition", "obstruction must remain inside [0, 1]"⟩

/-- Runtime and completed starts of a pump. -/
structure PumpExposure where
  runtimeSeconds : ℤ
  completedStarts : ℤ
  runtimeSeconds_nonneg : 0 ≤ runtimeSeconds
  completedStarts_nonneg : 0 ≤ completedStarts

def PumpExposure.make (runtimeSeconds completedStarts : ℤ) : Except Failure PumpExposure :=
  if hr : 0 ≤ runtimeSeconds then
    if hs : 0 ≤ completedStarts then .ok ⟨runtimeSeconds, completedStarts, hr, hs⟩
    else .error ⟨"pump-exposure", "completed_starts must be non-negative"⟩
  else .error ⟨"pump-exposure", "runtime_seconds must be non-negative"⟩

structure PumpState where
  pumpId : String
  condition : PumpCondition
  exposure : PumpExposure

inductive PumpMode
  | isolatedForWork
  | testOnly
  | runInService
  | serviceAvailable
  deriving DecidableEq

/-- The topology of the station, as far as its physics reads it. -/
structure CoupledModel where
  pumpIds : List String
  degradation : DegradationParameters

/-! ## Boundaries -/

structure BoundaryAvailability where
  powerAvailable : Bool
  dischargeAvailable : Bool
  sourceTransitionId : String

def BoundaryAvailability.available (b : BoundaryAvailability) : Bool :=
  b.powerAvailable && b.dischargeAvailable

structure PumpBoundary where
  pumpId : String
  mode : PumpMode
  sourcePermitOrEvidenceId : String
  effectiveTransitionId : String

/-- The operating predicates of a pump. -/
structure PumpAvailability where
  runEligible : Bool
  testEligible : Bool
  assuredForOutagePlanning : Bool

def pumpAvailabilityForBoundary (boundary : PumpBoundary) (common : BoundaryAvailability) :
    PumpAvailability where
  runEligible := common.available &&
    (boundary.mode = .runInService || boundary.mode = .serviceAvailable)
  testEligible := common.available && boundary.mode = .testOnly
  assuredForOutagePlanning := common.available && boundary.mode = .serviceAvailable

/-! ## The physical state -/

structure PhysicalFields where
  calendarSeconds : ℤ
  pumps : List PumpState
  pumpBoundaries : List PumpBoundary
  commonBoundary : BoundaryAvailability
  serviceRunningPumpIds : List String
  testRunningPumpIds : List String

namespace PhysicalFields

variable (s : PhysicalFields)

def pump (pumpId : String) : Except Failure PumpState :=
  match s.pumps.find? (·.pumpId = pumpId) with
  | some pump => .ok pump
  | none => .error ⟨"unknown-pump", pumpId⟩

def boundary (pumpId : String) : Except Failure PumpBoundary :=
  match s.pumpBoundaries.find? (·.pumpId = pumpId) with
  | some boundary => .ok boundary
  | none => .error ⟨"unknown-pump", pumpId⟩

def availability (pumpId : String) : Except Failure PumpAvailability := do
  let boundary ← s.boundary pumpId
  pure (pumpAvailabilityForBoundary boundary s.commonBoundary)

/-- The checks every physical state has to pass. -/
def check : Except Failure Unit := do
  let pumpIds := s.pumps.map (·.pumpId)
  let boundaryIds := s.pumpBoundaries.map (·.pumpId)
  let service := s.serviceRunningPumpIds
  let test := s.testRunningPumpIds
  require (pumpIds.Nodup ∧ pumpIds.length = 3 ∧ boundaryIds ⊆ pumpIds ∧ pumpIds ⊆ boundaryIds)
    ⟨"coupled-state", "physical and boundary pump identities differ"⟩
  require (service.Nodup ∧ test.Nodup)
    ⟨"coupled-state", "running sets contain duplicate pumps"⟩
  require ((∀ p ∈ service, p ∉ test) ∧ service ++ test ⊆ pumpIds ∧ (service ++ test).length ≤ 2)
    ⟨"coupled-state", "running sets are invalid"⟩
  service.forM fun pumpId => do
    let availability ← s.availability pumpId
    require (availability.runEligible = true)
      ⟨"coupled-state", s!"{pumpId} is not service-run eligible"⟩
  test.forM fun pumpId => do
    let availability ← s.availability pumpId
    require (availability.testEligible = true)
      ⟨"coupled-state", s!"{pumpId} is not test eligible"⟩

end PhysicalFields

/-- Three pumps with their boundaries and running sets. -/
structure PhysicalState extends PhysicalFields where
  sound : toPhysicalFields.check = .ok ()

namespace PhysicalState

def make (s : PhysicalFields) : Except Failure PhysicalState :=
  match h : s.check with
  | .ok () => .ok ⟨s, h⟩
  | .error failure => .error failure

lemma make_eq_ok {s : PhysicalFields} {state : PhysicalState} (h : make s = .ok state) :
    state.toPhysicalFields = s := by
  unfold make at h
  split at h
  · cases h
    rfl
  · cases h

/-- The state after one explicit transition of a pump's boundary. -/
def withBoundaryMode (s : PhysicalState) (pumpId : String) (mode : PumpMode) (sourceId : String) :
    Except Failure PhysicalState := do
  let _ ← s.boundary pumpId
  let boundaries := s.pumpBoundaries.map fun boundary =>
    if boundary.pumpId = pumpId then ⟨pumpId, mode, sourceId, sourceId⟩ else boundary
  let service := s.serviceRunningPumpIds.filter fun item =>
    item ≠ pumpId ∨ mode = .runInService ∨ mode = .serviceAvailable
  let test := s.testRunningPumpIds.filter fun item => item ≠ pumpId ∨ mode = .testOnly
  make { s.toPhysicalFields with
    pumpBoundaries := boundaries
    serviceRunningPumpIds := service
    testRunningPumpIds := test }

end PhysicalState

/-! ## Service -/

structure ServiceRequirement where
  startCalendarSeconds : ℤ
  endCalendarSeconds : ℤ
  requiredServiceScu : ℕ
  ordered : 0 ≤ startCalendarSeconds ∧ startCalendarSeconds < endCalendarSeconds
  one_or_two : requiredServiceScu = 1 ∨ requiredServiceScu = 2

structure DutyAssignment where
  assignmentId : String
  orderedPumpIds : List String
  active : Bool
  sourceNeedId : String
  effectiveTransitionId : String
  requiredServiceScu : ℤ
  assignedServiceScu : ℤ
  unservedServiceScu : ℤ
  decisionDetail : String
  suspensionSourceId : Option String

/-- The checks of an assignment. -/
def DutyAssignment.checked (a : DutyAssignment) : Except Failure DutyAssignment := do
  require (a.orderedPumpIds ≠ [] ∧ a.orderedPumpIds.Nodup)
    ⟨"duty-assignment", "assignment must contain distinct pumps"⟩
  require (0 ≤ a.requiredServiceScu ∧ 0 ≤ a.assignedServiceScu ∧ 0 ≤ a.unservedServiceScu ∧
      a.requiredServiceScu = a.assignedServiceScu + a.unservedServiceScu)
    ⟨"duty-assignment", "assignment service accounting is invalid"⟩
  require (¬ Text.Blank a.decisionDetail)
    ⟨"duty-assignment", "assignment decision detail is required"⟩
  pure a

structure OutageEpisode where
  episodeId : String
  unavailableBaselinePumpId : String
  sourceRecordId : String
  openingTransitionId : String
  closingTransitionId : Option String
  status : String

/-! ## Operating intervals -/

/-- What one interval did to one pump. -/
structure OperatingDelta where
  pumpId : String
  serviceRuntimeSeconds : ℤ
  testRuntimeSeconds : ℤ
  attributedOutageEpisodeId : Option String
  startAdded : Bool
  openingExposure : Option PumpExposure
  closingExposure : Option PumpExposure
  openingCondition : Option PumpCondition
  closingCondition : Option PumpCondition

namespace OperatingDelta

variable (d : OperatingDelta)

def checked : Except Failure OperatingDelta := do
  require (0 ≤ d.serviceRuntimeSeconds) ⟨"operating-delta", "service runtime must be non-negative"⟩
  require (0 ≤ d.testRuntimeSeconds) ⟨"operating-delta", "test runtime must be non-negative"⟩
  require (d.serviceRuntimeSeconds = 0 ∨ d.testRuntimeSeconds = 0)
    ⟨"operating-delta", "one pump cannot serve and test in the same interval"⟩
  pure d

def totalRuntimeSeconds : ℤ := d.serviceRuntimeSeconds + d.testRuntimeSeconds

/-- Service runtime that is attributed to a named outage. -/
def collateralRuntimeSeconds : ℤ :=
  if d.attributedOutageEpisodeId.isSome then d.serviceRuntimeSeconds else 0

end OperatingDelta

structure OperatingInterval where
  startCalendarSeconds : ℤ
  endCalendarSeconds : ℤ
  requiredServiceScu : ℕ
  baselineAssignmentPumpIds : List String
  actualAssignmentPumpIds : List String
  serviceRunningPumpIds : List String
  testRunningPumpIds : List String
  pumpDeltas : List OperatingDelta

namespace OperatingInterval

variable (i : OperatingInterval)

def elapsedSeconds : ℤ := i.endCalendarSeconds - i.startCalendarSeconds

def checked : Except Failure OperatingInterval := do
  require (0 < i.elapsedSeconds ∧ (i.requiredServiceScu = 1 ∨ i.requiredServiceScu = 2))
    ⟨"coupled-operating-interval", "time or service requirement is invalid"⟩
  require ((∀ p ∈ i.serviceRunningPumpIds, p ∉ i.testRunningPumpIds) ∧
      (i.serviceRunningPumpIds ++ i.testRunningPumpIds).dedup.length ≤ 2)
    ⟨"coupled-operating-interval", "physical running sets are invalid"⟩
  require ((i.pumpDeltas.map (·.pumpId)).Nodup ∧ i.pumpDeltas.length = 3)
    ⟨"coupled-operating-interval", "one delta per distinct pump is required"⟩
  i.pumpDeltas.forM fun delta => require
    (delta.serviceRuntimeSeconds =
        (if delta.pumpId ∈ i.serviceRunningPumpIds then i.elapsedSeconds else 0) ∧
      delta.testRuntimeSeconds =
        (if delta.pumpId ∈ i.testRunningPumpIds then i.elapsedSeconds else 0))
    ⟨"coupled-operating-interval", s!"{delta.pumpId} runtime differs from its running set"⟩
  pure i

def pumpDelta (pumpId : String) : Except Failure OperatingDelta :=
  match i.pumpDeltas.find? (·.pumpId = pumpId) with
  | some delta => .ok delta
  | none => .error ⟨"unknown-pump", pumpId⟩

end OperatingInterval

/-! ## The kernel -/

section Kernel

variable (round : ℚ → ℚ) (model : CoupledModel)

def progressCoupledCondition (condition : PumpCondition) (runtimeSeconds : ℤ) (starts : ℤ) :
    Except Failure PumpCondition :=
  let degradation := model.degradation
  PumpCondition.make
    (min 1 (round
      (round (condition.obstruction + round (degradation.obstructionRuntimeRate * runtimeSeconds)) +
        round (degradation.obstructionStartRate * starts))))
    (min 1 (round (condition.clearanceLoss +
      round (degradation.clearanceRuntimeRate * runtimeSeconds))))

/-- The interval applied to one pump: the pump afterwards, and its completed delta. -/
def advancePump (state : PhysicalState) (interval : OperatingInterval) (pump : PumpState) :
    Except Failure (PumpState × OperatingDelta) := do
  let priorRunning := state.serviceRunningPumpIds ++ state.testRunningPumpIds
  let nextRunning := interval.serviceRunningPumpIds ++ interval.testRunningPumpIds
  let requested ← interval.pumpDelta pump.pumpId
  let started := requested.startAdded ||
    (pump.pumpId ∈ nextRunning && pump.pumpId ∉ priorRunning)
  let starts : ℤ := if started then 1 else 0
  let runtime := requested.totalRuntimeSeconds
  let closingExposure ← PumpExposure.make (pump.exposure.runtimeSeconds + runtime)
    (pump.exposure.completedStarts + starts)
  let closingCondition ← progressCoupledCondition round model pump.condition runtime starts
  let delta ← OperatingDelta.checked { requested with
    startAdded := started
    openingExposure := some pump.exposure
    closingExposure := some closingExposure
    openingCondition := some pump.condition
    closingCondition := some closingCondition }
  pure ({ pump with exposure := closingExposure, condition := closingCondition }, delta)

def transitionCoupledPumpStation (state : PhysicalState) (interval : OperatingInterval) :
    Except Failure (PhysicalState × OperatingInterval) := do
  require (state.pumps.map (·.pumpId) = model.pumpIds)
    ⟨"coupled-state", "pump identities or order differ from the model"⟩
  require (state.calendarSeconds = interval.startCalendarSeconds)
    ⟨"coupled-operating-interval", "interval must start at current world time"⟩
  require (interval.serviceRunningPumpIds ⊆ interval.actualAssignmentPumpIds)
    ⟨"coupled-operating-interval", "service-running pumps must be assigned"⟩
  interval.serviceRunningPumpIds.forM fun pumpId => do
    let availability ← state.availability pumpId
    require (availability.runEligible = true)
      ⟨"coupled-operating-interval", s!"{pumpId} is not service-run eligible"⟩
  interval.testRunningPumpIds.forM fun pumpId => do
    let availability ← state.availability pumpId
    require (availability.testEligible = true)
      ⟨"coupled-operating-interval", s!"{pumpId} is not test eligible"⟩
  let updated ← state.pumps.mapM (advancePump round model state interval)
  let physical ← PhysicalState.make { state.toPhysicalFields with
    calendarSeconds := interval.endCalendarSeconds
    pumps := updated.map Prod.fst
    serviceRunningPumpIds := interval.serviceRunningPumpIds
    testRunningPumpIds := interval.testRunningPumpIds }
  let output ← OperatingInterval.checked { interval with pumpDeltas := updated.map Prod.snd }
  pure (physical, output)

end Kernel

end AecBench.Worlds.PumpStation
