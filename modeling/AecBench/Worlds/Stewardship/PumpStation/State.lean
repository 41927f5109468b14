import AecBench.Worlds.Stewardship.PumpStation.CoupledWork

/-!
# The stewardship state of the pump station

The values of the live world: restrictions, obligations, work orders and evidence next to the
physical state and the work, what actors may ask for, and what the host's controls ask for.

## Main definitions

* `EvidenceHealth`, `Evidence` — evidence with its provenance.
* `State` — the whole state; `State.withBacklog` — a state with another backlog.
* `State.activeLiabilityIds`, `State.createdLiabilityIds`, `State.dischargedLiabilityIds` — the
  identities of liability owners.
* `Action`, `Control` — what actors and hosts ask for.
-/

namespace AecBench.Worlds.PumpStation

open Text Validation

inductive Authority
  | operations
  | maintenance
  | engineering
  | workManagement
  | verification
  deriving DecidableEq

/-! ## Evidence -/

inductive EvidenceQuality
  | current
  | suspect
  | unavailable
  deriving DecidableEq

structure EvidenceHealth where
  observedAtSeconds : ℤ
  producedAtSeconds : ℤ
  availableAtSeconds : ℤ
  sourceId : String
  componentScope : List String
  baselineId : String
  operatingRegimeId : String
  accepted : Bool
  quality : EvidenceQuality

/-- The checks of evidence health. -/
def EvidenceHealth.checked (h : EvidenceHealth) : Except Failure EvidenceHealth := do
  require (0 ≤ h.observedAtSeconds)
    ⟨"evidence-health", "observed_at_seconds must be a non-negative integer"⟩
  require (0 ≤ h.producedAtSeconds)
    ⟨"evidence-health", "produced_at_seconds must be a non-negative integer"⟩
  require (0 ≤ h.availableAtSeconds)
    ⟨"evidence-health", "available_at_seconds must be a non-negative integer"⟩
  require (h.observedAtSeconds ≤ h.producedAtSeconds ∧ h.producedAtSeconds ≤ h.availableAtSeconds)
    ⟨"evidence-health", "observation, production, and availability times must be ordered"⟩
  require (¬ Blank h.sourceId) ⟨"evidence-health", "source_id must not be empty"⟩
  require (¬ Blank h.baselineId) ⟨"evidence-health", "baseline_id must not be empty"⟩
  require (¬ Blank h.operatingRegimeId)
    ⟨"evidence-health", "operating_regime_id must not be empty"⟩
  require (h.componentScope ≠ []) ⟨"evidence-health", "component_scope must not be empty"⟩
  require (∀ componentId ∈ h.componentScope, ¬ Blank componentId)
    ⟨"evidence-health", "component_scope must not be empty"⟩
  require h.componentScope.Nodup
    ⟨"evidence-health", "component_scope must not contain duplicates"⟩
  pure h

inductive EvidenceKind
  | inspection
  | functionalChecks
  | postMaintenanceVerification
  | conditionCheck
  deriving DecidableEq

structure Evidence where
  evidenceId : String
  kind : EvidenceKind
  pumpId : String
  createdAtSeconds : ℤ
  producedBy : Authority
  acceptedBy : Option Authority
  passed : Option Bool
  health : Option EvidenceHealth

/-! ## Restrictions, obligations and work orders -/

inductive RestrictionKind
  | deferredPumpNotDuty
  | postMaintenanceRunIn
  | noIntervention
  deriving DecidableEq

inductive RestrictionStatus
  | active
  | lifted
  deriving DecidableEq

structure Restriction where
  restrictionId : String
  kind : RestrictionKind
  pumpId : String
  status : RestrictionStatus
  createdSequence : ℕ
  evidenceId : Option String

inductive ObligationKind
  | deferredFollowUp
  | postMaintenanceVerification
  deriving DecidableEq

inductive ObligationStatus
  | active
  | due
  | overdue
  | fulfilled
  | breached
  deriving DecidableEq

structure Obligation where
  obligationId : String
  kind : ObligationKind
  pumpId : String
  status : ObligationStatus
  originatingActionId : String
  responsibleAuthority : Authority
  linkedRestrictionId : String
  dueCalendarSeconds : ℤ
  dueRuntimeSeconds : ℤ
  createdSequence : ℕ
  evidenceId : Option String

inductive WorkOrderStatus
  | opened
  | scheduled
  | inProgress
  | scopeCompleted
  | provisionallyClosed
  deriving DecidableEq

structure WorkOrder where
  workOrderId : String
  pumpId : String
  status : WorkOrderStatus
  createdSequence : ℕ

/-- The shared physical conditions. -/
structure CoupledEnvironment where
  inflowM3S : ℚ
  wetWellLevelM : ℚ
  inflowM3S_nonneg : 0 ≤ inflowM3S
  wetWellLevelM_nonneg : 0 ≤ wetWellLevelM

def CoupledEnvironment.make (inflowM3S wetWellLevelM : ℚ) : Except Failure CoupledEnvironment :=
  if hi : 0 ≤ inflowM3S then
    if hw : 0 ≤ wetWellLevelM then .ok ⟨inflowM3S, wetWellLevelM, hi, hw⟩
    else .error ⟨"coupled-environment", "wet_well_level_m must be non-negative"⟩
  else .error ⟨"coupled-environment", "inflow_m3_s must be non-negative"⟩

/-! ## The state -/

structure State where
  physical : PhysicalState
  environment : CoupledEnvironment
  resources : ResourceState
  restrictions : List Restriction
  obligations : List Obligation
  workOrders : List WorkOrder
  processes : List CoupledProcess
  evidence : List Evidence
  resourceReservations : List PoolReservation
  assignment : DutyAssignment
  serviceSchedule : List ServiceRequirement
  baselineSchedule : List (ℤ × ℤ × List String)
  disclosedThroughCalendarSeconds : ℤ
  backlog : List BacklogItem
  generationRecords : List WorkGenerationRecord
  outageEpisodes : List OutageEpisode
  operatingIntervals : List OperatingInterval
  collateralRuntime : List (String × String × ℤ)
  pendingStartPumpIds : List String
  eventEffectIds : List String
  backlog_distinct : (backlog.map (·.itemId)).Nodup

/-- The work rules whose items are owners of a liability. -/
def BacklogItem.LiabilityOwner (item : BacklogItem) : Prop :=
  item.generationRuleId = "WG-06" ∨ item.generationRuleId = "WG-07"

instance (item : BacklogItem) : Decidable item.LiabilityOwner :=
  inferInstanceAs (Decidable (_ ∨ _))

/-- The statuses in which the demand of an item is at an end. -/
def BacklogStatus.Terminal (status : BacklogStatus) : Prop :=
  status = .closed ∨ status = .cancelled ∨ status = .superseded

instance (status : BacklogStatus) : Decidable status.Terminal :=
  inferInstanceAs (Decidable (_ ∨ _))

namespace State

variable (s : State)

def calendarSeconds : ℤ := s.physical.calendarSeconds

def withBacklog (backlog : List BacklogItem) : Except Failure State :=
  if h : (backlog.map (·.itemId)).Nodup then .ok { s with backlog := backlog, backlog_distinct := h }
  else .error ⟨"backlog-identity", "backlog item IDs must be distinct"⟩

lemma withBacklog_eq_ok {s state : State} {backlog : List BacklogItem} :
    s.withBacklog backlog = .ok state ↔
      ∃ h, state = { s with backlog := backlog, backlog_distinct := h } := by
  unfold withBacklog
  split
  · rw [Except.ok.injEq]
    constructor
    · intro h
      exact ⟨‹_›, h.symm⟩
    · rintro ⟨h, rfl⟩
      rfl
  · constructor
    · intro h
      cases h
    · rintro ⟨h, -⟩
      exact absurd h ‹_›

def acceptedEvidenceIds : List String :=
  (s.evidence.filter fun item =>
    item.acceptedBy.isSome && item.health.all (·.accepted)).map (·.evidenceId)

def activeRestrictionIds : List String :=
  (s.restrictions.filter (·.status = .active)).map (·.restrictionId)

def activeLiabilityIds : List String :=
  (s.obligations.filter (·.status ≠ .fulfilled)).map (·.obligationId) ++
    (s.outageEpisodes.filter (·.status = "open")).map (·.episodeId) ++
    (s.backlog.filter fun item => item.LiabilityOwner ∧ ¬ item.status.Terminal).map (·.itemId)

def createdLiabilityIds : List String :=
  (s.obligations.filter (·.createdSequence > 0)).map (·.obligationId) ++
    (s.backlog.filter (·.LiabilityOwner)).map (·.itemId)

def dischargedLiabilityIds : List String :=
  (s.obligations.filter (·.status = .fulfilled)).map (·.obligationId) ++
    (s.outageEpisodes.filter (·.status = "closed")).map (·.episodeId) ++
    (s.backlog.filter fun item => item.LiabilityOwner ∧ item.status = .closed).map (·.itemId)

def terminalWorkItemIds : List String :=
  (s.backlog.filter (·.status.Terminal)).map (·.itemId)

def backlogItem (itemId : String) : Except Failure BacklogItem :=
  match s.backlog.find? (·.itemId = itemId) with
  | some item => .ok item
  | none => .error ⟨"unknown-backlog-item", itemId⟩

end State

/-! ## What actors ask for -/

/-- One or two pumps in order. -/
structure PumpOrder where
  ids : List NonEmptyStr
  not_empty : ids ≠ []
  at_most_two : ids.length ≤ 2
  distinct : ids.Nodup

inductive Action
  | continueOperation (reason : NonEmptyStr)
  | requestDutyAssignment (reason : NonEmptyStr) (orderedPumpIds : PumpOrder)
      (sourceOutageId sourceBacklogItemId : Option NonEmptyStr)
  | requestInspection (reason pumpId backlogItemId : NonEmptyStr)
  | requestConditionCheck (reason pumpId : NonEmptyStr)
  | requestObstructionClearance (reason pumpId inspectionEvidenceId backlogItemId : NonEmptyStr)
  | requestFunctionalCheck (reason pumpId backlogItemId : NonEmptyStr)
  | requestProvisionalReturn (reason pumpId functionalCheckEvidenceId : NonEmptyStr)
  | requestProvisionalClosure (reason workOrderId : NonEmptyStr)
  | requestVerification (reason pumpId backlogItemId : NonEmptyStr)
  | resumeProcess (reason processId : NonEmptyStr)
  | cancelProcess (reason processId : NonEmptyStr)
  | requestDependencyWaiver (reason processId dependencyId evidenceId : NonEmptyStr)

def Action.reason : Action → NonEmptyStr
  | continueOperation reason => reason
  | requestDutyAssignment reason .. => reason
  | requestInspection reason .. => reason
  | requestConditionCheck reason .. => reason
  | requestObstructionClearance reason .. => reason
  | requestFunctionalCheck reason .. => reason
  | requestProvisionalReturn reason .. => reason
  | requestProvisionalClosure reason .. => reason
  | requestVerification reason .. => reason
  | resumeProcess reason .. => reason
  | cancelProcess reason .. => reason
  | requestDependencyWaiver reason .. => reason

/-! ## What hosts ask for -/

structure OperationsBoundaryReviewRequest where
  reviewId : String
  reviewKind : String
  pumpId : String
  restrictionOrIsolationPermitId : String
  acceptedEvidenceId : String
  requestedOutcome : String
  baseStateId : String
  operationsAuthorityId : String
  reason : String

structure ProcessOutcomeRequest where
  requestId : String
  authorityId : String
  processId : String
  outcome : String
  evidenceId : String
  baseStateId : String

structure CommonBoundaryRequest where
  requestId : String
  authorityId : String
  boundaryKind : String
  available : Bool
  baseStateId : String

structure CoupledTreatmentRequest where
  requestId : String
  authorityId : String
  treatmentLabel : String
  affectedPumpIds : List String
  obstructionDelta : ℚ
  clearanceLossDelta : ℚ
  baseStateId : String

inductive Control
  | review (request : OperationsBoundaryReviewRequest)
  | outcome (request : ProcessOutcomeRequest)
  | common (request : CommonBoundaryRequest)
  | treatment (request : CoupledTreatmentRequest)

/-- What the transitions take from outside of the model: the rounding of decimals to the context,
the identity of a state, that of a control, and the first hexadecimal digits of the identity of a
generated item's key. -/
structure Host where
  round : ℚ → ℚ
  stateId : State → String
  contentId : Control → String
  stableId : String → String → String → String → ℕ → String

end AecBench.Worlds.PumpStation
