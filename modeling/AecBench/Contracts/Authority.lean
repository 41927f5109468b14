import Mathlib.Data.Finset.Basic
import Mathlib.Data.List.Sort
import AecBench.Lib.Validation

/-!
# Origins, bases and authority events

Who has produced an artifact and who has observed it, with the taint labels that it inherits; the
typed references that support a decision; and the decisions, which only some principals may grant.

## Main definitions

* `OriginStamp` — the observed origin of an artifact; `deriveOriginStamp` — the origin of an
  artifact that is derived from others.
* `BasisReference`, `HumanAuthorityApproval` — what supports a decision.
* `AuthorityEvent` — a decision on a transition.

## Main results

* `AuthorityEvent.human_of_granted` — only humans grant what is for humans only.
-/

namespace AecBench.Contracts.Authority

open Validation Text

inductive AuthorityPrincipalKind
  | human
  | hostRuntime
  | hostPolicy
  | taskAuthority
  | criticAuthority
  | candidate
  | model
  | optimizer
  | redTeam
  | monitor
  | externalParty
  deriving DecidableEq

inductive AuthorityAction
  | proposalFreeze
  | compile
  | providerDispatch
  | scoredEvidenceImport
  | pairedComparison
  | repairAcceptance
  | policyPromotion
  | motifPromotion
  | motifStateChange
  | releaseCritic
  | retireCritic
  | revealAcceptanceManifest
  | releaseEvaluationCohort
  | retireEvaluationCohort
  | changeKernelVersion
  | suspendSubject
  deriving DecidableEq

inductive AuthorityDecision
  | granted
  | denied
  deriving DecidableEq

inductive BasisKind
  | origin
  | evidence
  | critic
  | evaluationOutcome
  | criticEvaluationOutcome
  | monitorReport
  | promotionMonitor
  | promotionLineage
  | motifAssurance
  | motifQualification
  | authorityEvent
  | humanApproval
  | regressionEvidence
  deriving DecidableEq

/-- The value of a kind in texts. -/
def BasisKind.value : BasisKind → String
  | origin => "origin"
  | evidence => "evidence"
  | critic => "critic"
  | evaluationOutcome => "evaluation_outcome"
  | criticEvaluationOutcome => "critic_evaluation_outcome"
  | monitorReport => "monitor_report"
  | promotionMonitor => "promotion_monitor"
  | promotionLineage => "promotion_lineage"
  | motifAssurance => "motif_assurance"
  | motifQualification => "motif_qualification"
  | authorityEvent => "authority_event"
  | humanApproval => "human_approval"
  | regressionEvidence => "regression_evidence"

inductive TaintLabel
  | candidateAuthored
  | modelReported
  | externalUnverified
  | runtimeObserved
  | taskAuthority
  | criticAuthority
  | humanAuthority
  | integrityIncident
  deriving DecidableEq

structure AuthorityPrincipal where
  principalId : String
  kind : AuthorityPrincipalKind
  deriving DecidableEq

/-- `_HOST_PRINCIPAL_KINDS` -/
def hostPrincipalKinds : List AuthorityPrincipalKind := [.hostRuntime, .hostPolicy]

/-! ## What supports a decision -/

section Bases

variable {σ : Type}

/-- A human decision on one action and one subject. -/
structure HumanAuthorityApproval (σ : Type) where
  approvalId : String
  principal : AuthorityPrincipal
  action : AuthorityAction
  subjectId : String
  subjectSha256 : σ
  approved : Bool
  reason : String
  /-- A human is the principal. -/
  human : principal.kind = .human

/-- A typed reference to an artifact. -/
structure BasisReference (σ : Type) where
  kind : BasisKind
  artifactId : String
  artifactSha256 : σ
  deriving DecidableEq

end Bases

/-! ## Origins -/

/-- The label that the artifacts of a producer carry. -/
def requiredByProducer : AuthorityPrincipalKind → Option TaintLabel
  | .candidate => some .candidateAuthored
  | .model => some .modelReported
  | .externalParty => some .externalUnverified
  | _ => none

structure OriginFields (σ : Type) where
  artifactId : String
  artifactSha256 : σ
  producer : AuthorityPrincipal
  producerProcessId : String
  observedBy : AuthorityPrincipal
  channel : String
  operationId : String
  invocationId : String
  parentOriginSha256s : List σ
  taintLabels : Finset TaintLabel
  deriving DecidableEq

/-- The checks of an origin, next to those of its texts. -/
def OriginFields.Sound {σ : Type} (o : OriginFields σ) : Prop :=
  o.parentOriginSha256s.Nodup ∧ o.taintLabels ≠ ∅ ∧ o.observedBy.kind ∈ hostPrincipalKinds ∧
    ∀ label ∈ requiredByProducer o.producer.kind, label ∈ o.taintLabels

/-- Who has produced and who has observed an artifact, with its taint. -/
structure OriginStamp (σ : Type) extends OriginFields σ where
  sound : toOriginFields.Sound
  deriving DecidableEq

section Derived

variable {σ : Type} [LinearOrder σ]

instance (o : OriginFields σ) : Decidable o.Sound := by
  unfold OriginFields.Sound
  infer_instance

/-- The checks of an origin, in their order. -/
def OriginFields.checked (o : OriginFields σ) : Except String (OriginStamp σ) := do
  require (¬ Blank o.artifactId ∧ ¬ Blank o.producerProcessId ∧ ¬ Blank o.channel ∧
    ¬ Blank o.operationId ∧ ¬ Blank o.invocationId) "value must not be blank"
  require o.parentOriginSha256s.Nodup "parent origin references must be unique"
  require (o.taintLabels ≠ ∅) "taint_labels must contain at least 1 item"
  require (o.observedBy.kind ∈ hostPrincipalKinds)
    "origin stamps must be observed by a host principal"
  if h : o.Sound then pure ⟨o, h⟩ else .error "origin requires the taint of its producer"

/-- `derive_origin_stamp`, of parents that are given with their content ids. -/
def deriveOriginStamp (artifactId : String) (artifactSha256 : σ) (producer : AuthorityPrincipal)
    (producerProcessId : String) (observedBy : AuthorityPrincipal)
    (channel operationId invocationId : String) (parents : List (σ × OriginStamp σ))
    (operationTaint : List TaintLabel) : Except String (OriginStamp σ) :=
  OriginFields.checked
    { artifactId, artifactSha256, producer, producerProcessId, observedBy, channel, operationId
      invocationId
      parentOriginSha256s := (parents.map Prod.fst).insertionSort (· ≤ ·)
      taintLabels := parents.foldr (fun parent labels => parent.2.taintLabels ∪ labels)
        operationTaint.toFinset }

lemma OriginFields.checked_eq_ok {o : OriginFields σ} {stamp : OriginStamp σ}
    (h : o.checked = .ok stamp) : stamp.toOriginFields = o := by
  simp only [OriginFields.checked, require_bind_eq_ok] at h
  obtain ⟨-, -, -, -, h⟩ := h
  split_ifs at h with hsound
  rw [← pure_eq_ok.mp h]

end Derived

/-! ## Decisions -/

/-- `_CRITIC_ACTIONS` -/
def criticActions : List AuthorityAction :=
  [.releaseCritic, .retireCritic, .revealAcceptanceManifest]

/-- `_EVALUATION_COHORT_ACTIONS` -/
def evaluationCohortActions : List AuthorityAction :=
  [.releaseEvaluationCohort, .retireEvaluationCohort]

/-- `_HUMAN_ONLY_ACTIONS` -/
def humanOnlyActions : List AuthorityAction :=
  criticActions ++ evaluationCohortActions ++ [.changeKernelVersion]

/-- `_GRANT_AUTHORITY` -/
def grantAuthority : AuthorityAction → List AuthorityPrincipalKind
  | .proposalFreeze => [.hostRuntime, .hostPolicy, .human]
  | .compile => [.hostRuntime, .human]
  | .providerDispatch => [.hostRuntime, .human]
  | .scoredEvidenceImport => [.hostRuntime, .taskAuthority, .human]
  | .pairedComparison => [.hostPolicy, .criticAuthority, .human]
  | .repairAcceptance => [.hostPolicy, .criticAuthority, .human]
  | .policyPromotion => [.hostPolicy, .criticAuthority, .human]
  | .motifPromotion => [.hostPolicy, .criticAuthority, .human]
  | .motifStateChange => [.hostPolicy, .criticAuthority, .human]
  | .releaseCritic => [.human]
  | .retireCritic => [.human]
  | .revealAcceptanceManifest => [.human]
  | .releaseEvaluationCohort => [.human]
  | .retireEvaluationCohort => [.human]
  | .changeKernelVersion => [.human]
  | .suspendSubject => [.hostPolicy, .human]

structure KernelRef where
  kernelId : String
  version : String
  deriving DecidableEq

/-- A critic of one evaluation regime. -/
structure CriticRef where
  regime : String
  criticId : String
  role : String
  deriving DecidableEq

structure AuthorityEventFields (σ : Type) where
  eventId : String
  principal : AuthorityPrincipal
  action : AuthorityAction
  decision : AuthorityDecision
  subjectId : String
  subjectSha256 : σ
  basis : List (BasisReference σ)
  kernelRef : KernelRef
  critic : Option CriticRef
  reasons : List String
  revalidationTriggers : List String
  deriving DecidableEq

/-- The checks of an event: its lists, and who may grant what. -/
def AuthorityEventFields.Sound {σ : Type} (e : AuthorityEventFields σ) : Prop :=
  e.basis ≠ [] ∧ e.basis.Nodup ∧ e.reasons ≠ [] ∧ e.reasons.Nodup ∧
    e.revalidationTriggers.Nodup ∧
    (e.decision = .granted → e.principal.kind ∈ grantAuthority e.action ∧
      (e.action ∈ criticActions → e.critic.isSome))

instance {σ : Type} [DecidableEq σ] (e : AuthorityEventFields σ) : Decidable e.Sound := by
  unfold AuthorityEventFields.Sound
  infer_instance

/-- A decision on a transition. -/
structure AuthorityEvent (σ : Type) extends AuthorityEventFields σ where
  sound : toAuthorityEventFields.Sound
  deriving DecidableEq

lemma AuthorityEvent.human_of_granted {σ : Type} (e : AuthorityEvent σ)
    (hgranted : e.decision = .granted) (haction : e.action ∈ humanOnlyActions) :
    e.principal.kind = .human := by
  have hallowed := (e.sound.2.2.2.2.2 hgranted).1
  have hkinds : grantAuthority e.action = [.human] := by
    revert haction
    cases e.action <;> decide
  rw [hkinds] at hallowed
  exact List.mem_singleton.mp hallowed

end AecBench.Contracts.Authority
