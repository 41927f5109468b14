import Mathlib.Data.String.Basic
import AecBench.Lib.Sorting
import AecBench.Lib.Validation

/-!
# The documentary corpus

The versions of documents, the schedule of their availability and the policies by which actors
search and fetch them. Every model carries the content id that is computed of all its fields.

## Main definitions

* `TemporalEvidenceVersion` — one version of a document.
* `TemporalEvidenceAvailabilityEvent` — a change of the availability of a version.
* `RetrievalBudgetVector` — an allowance or a consumption.
* `TemporalEvidenceBundle` — a corpus with its policies.
-/

namespace AecBench.Worlds.PumpStation.TemporalEvidence

/-! ## Versions -/

inductive TemporalEvidenceRightsClass
  | redistributable
  | citeOnly
  | excluded
  | sealed
  deriving DecidableEq

inductive TemporalEvidenceSourceClass
  | synthetic
  | institutional
  | publicRecord
  | externalUnverified
  deriving DecidableEq

inductive TemporalEvidenceAuthorityClass
  | documentary
  | institutionalAccepted
  | advisory
  deriving DecidableEq

/-- The fields of a version that access to it reads. -/
structure VersionFields where
  versionId : String
  title : String
  contentText : Option String
  citation : String
  eventStartSeconds : ℕ
  availableAtSeconds : ℕ
  effectiveFromSeconds : ℕ
  effectiveToSeconds : Option ℤ
  supersededAtSeconds : Option ℤ
  sourceClass : TemporalEvidenceSourceClass
  rightsClass : TemporalEvidenceRightsClass
  authorityClass : TemporalEvidenceAuthorityClass
  accessRoles : List String
  scopeLabels : List String
  branchNamespace : String
  contentSha256 : String
  deriving DecidableEq

/-- The checks of a version on these fields. -/
def VersionFields.Sound (v : VersionFields) : Prop :=
  (∀ last ∈ v.effectiveToSeconds, (v.effectiveFromSeconds : ℤ) ≤ last) ∧
    (v.accessRoles ≠ [] ∧ v.accessRoles.Nodup) ∧ (v.scopeLabels ≠ [] ∧ v.scopeLabels.Nodup) ∧
    (v.rightsClass ≠ .redistributable → v.contentText = none) ∧
    (v.rightsClass = .redistributable → v.contentText.getD "" ≠ "")

instance (v : VersionFields) : Decidable v.Sound := by
  unfold VersionFields.Sound; infer_instance

/-- One immutable version of a document. -/
@[ext]
structure TemporalEvidenceVersion extends VersionFields where
  sound : toVersionFields.Sound
  deriving DecidableEq

/-! ## Availability -/

inductive TemporalEvidenceEventKind
  | published
  | ingested
  | searchable
  | accessGranted
  | accessRevoked
  | sourceUnavailable
  | superseded
  | policyChanged
  deriving DecidableEq

/-- One scheduled change of the availability or the status of a version. -/
structure TemporalEvidenceAvailabilityEvent where
  eventId : String
  kind : TemporalEvidenceEventKind
  scheduledSeconds : ℕ
  evidenceVersionId : Option String
  actorRoles : List String

/-- The events in the order of their times and ids. -/
structure TemporalEvidenceAvailabilitySchedule where
  events : List TemporalEvidenceAvailabilityEvent
  contentSha256 : String

/-! ## Policies -/

structure TemporalRetrievalPolicy where
  maximumQueryCharacters : ℕ
  maximumResults : ℕ
  maximumSnippetCharacters : ℕ
  contentSha256 : String

structure TemporalAccessPolicy where
  actorRoles : List String
  allowedScopes : List String
  contentSha256 : String

structure TemporalBranchPolicy where
  sharedNamespace : String
  contentSha256 : String

structure TemporalCostPolicy where
  simulatedDurationSeconds : ℕ
  providerSpendMicrousd : ℕ
  contentSha256 : String

/-! ## Budgets -/

/-- An allowance for retrieval, or what a retrieval consumes. -/
@[ext]
structure RetrievalBudgetVector where
  calls : ℕ
  returnedReferences : ℕ
  visibleBytes : ℕ
  visibleTokens : ℕ
  turns : ℕ
  simulatedDurationSeconds : ℕ
  providerSpendMicrousd : ℕ
  deriving DecidableEq

/-- `RetrievalBudgetVector.model_fields`. -/
def RetrievalBudgetVector.modelFields : List (String × (RetrievalBudgetVector → ℕ)) :=
  [("calls", calls), ("returned_references", returnedReferences), ("visible_bytes", visibleBytes),
    ("visible_tokens", visibleTokens), ("turns", turns),
    ("simulated_duration_seconds", simulatedDurationSeconds),
    ("provider_spend_microusd", providerSpendMicrousd)]

/-! ## The corpus -/

structure TemporalEvidenceVersionRef where
  versionId : String
  contentSha256 : String

structure TemporalCorpusManifest where
  versions : List TemporalEvidenceVersionRef
  contentSha256 : String

/-- A corpus with every policy that its use needs. -/
structure TemporalEvidenceBundle where
  corpusManifest : TemporalCorpusManifest
  availability : TemporalEvidenceAvailabilitySchedule
  retrievalPolicy : TemporalRetrievalPolicy
  accessPolicy : TemporalAccessPolicy
  branchPolicy : TemporalBranchPolicy
  costPolicy : TemporalCostPolicy
  versions : List TemporalEvidenceVersion
  /-- The ids of the manifest are distinct. -/
  distinct : Table.Keyed TemporalEvidenceVersionRef.versionId corpusManifest.versions
  /-- The manifest lists the versions. -/
  listed : corpusManifest.versions =
    (Table.sortBy (fun v : TemporalEvidenceVersion => v.versionId) versions).map fun v =>
      ⟨v.versionId, v.contentSha256⟩

lemma TemporalEvidenceBundle.keyed_versions (B : TemporalEvidenceBundle) :
    Table.Keyed (fun v : TemporalEvidenceVersion => v.versionId) B.versions := by
  have h := B.distinct
  rw [B.listed, Table.Keyed, List.map_map] at h
  exact Table.keyed_sortBy.mp h

end AecBench.Worlds.PumpStation.TemporalEvidence
