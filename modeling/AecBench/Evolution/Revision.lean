import AecBench.Evolution.Evaluation

/-!
# Revision checks

The fixed public batch on which the revisions of a call are checked, and the binding of each
trial record to the exact revision it came from.

## Main definitions

* `RevisionEvaluation` — the planned batch and the identities that a revision check must not use.
* `bindRevisionProvenance` — the records with the identity of their revision attached.
* `RevisionEvaluation.evaluate` — the evaluated candidate of one revision check.

## Main results

* `RevisionEvaluation.evaluate_eq_ok` — a revision check gives the snapshot it was asked for.
-/

namespace AecBench.Evolution

open Validation

/-- The boundary of revision checks, after its batch was planned. -/
structure RevisionEvaluation where
  batch : CandidateEvaluationBatch
  plannedExperimentId : String
  selectionExperimentId : Option String := none
  selectionTrialIds : List String := []

def RevisionEvaluationProvenance.errors (provenance : RevisionEvaluationProvenance) : Errors :=
  record
    [("experiment_id", nonEmptyStr provenance.experimentId),
      ("trial_id", nonEmptyStr provenance.trialId),
      ("candidate_id", nonEmptyStr provenance.candidateId),
      ("evaluation_case_id", nonEmptyStr provenance.evaluationCaseId)]
    (.ok ())

/-- The kind under which the identity of a revision check is attached. -/
def developmentEvaluation : String := "development_evaluation"

/-- `attach_extension`. The table of extensions is a list sorted by kind. -/
def TrialRecord.attachExtension (record : TrialRecord) (kind : String) (value : ExtensionValue) :
    Except String TrialRecord := do
  require (¬ Text.Blank kind) "extension_kind must not be blank"
  require (kind ∉ record.pendingExtensions.map Prod.fst)
    s!"trial extension already attached: {kind}"
  return { record with
    pendingExtensions :=
      record.pendingExtensions.orderedInsert (fun a b => a.1 ≤ b.1) (kind, value) }

/-- The record with the identity of its revision check, which it may have already. -/
def attachProvenance (record : TrialRecord) (provenance : RevisionEvaluationProvenance) :
    Except String TrialRecord :=
  match record.pendingExtensions.lookup developmentEvaluation with
  | none => record.attachExtension developmentEvaluation (.provenance provenance)
  | some existing => do
    require (existing = .provenance provenance)
      "revision TrialRecord provenance identity conflicts with the evaluated record"
    return record

/-- One round of `_bind_revision_provenance`. -/
def bindRecord (evaluation : RevisionEvaluation) (candidateId : String) (revision : ℕ)
    (record : TrialRecord) (caseId : String) : Except String TrialRecord := do
  require (record.isPublic = true) "revision TrialRecord visibility must be PUBLIC"
  let manifest ← record.runManifest.elim
    (.error "revision TrialRecord must be bound to a RunManifest") .ok
  require (evaluation.selectionExperimentId ≠ some manifest.experimentId)
    "revision TrialRecord must not use the selection experiment identity"
  require (manifest.experimentId = evaluation.plannedExperimentId)
    ("revision TrialRecord experiment_id must match " ++
      "the planned revision experiment identity")
  require (record.trialId ∉ evaluation.selectionTrialIds)
    "revision TrialRecord trial_id must not collide with a selection trial identity"
  let provenance ← construct RevisionEvaluationProvenance.errors "RevisionEvaluationProvenance"
    { experimentId := manifest.experimentId, trialId := record.trialId, candidateId, revision,
      evaluationCaseId := caseId }
  attachProvenance record provenance

/-- `_bind_revision_provenance`. -/
def bindRevisionProvenance (evaluation : RevisionEvaluation) (candidateId : String) (revision : ℕ)
    (records : List TrialRecord) : Except String (List TrialRecord) := do
  require (records.map (·.trialId)).Nodup "revision TrialRecord trial IDs must be unique"
  require (records.length = evaluation.batch.evaluationCaseIds.length)
    "zip() argument 2 has a different length than argument 1"
  (records.zip evaluation.batch.evaluationCaseIds).mapM fun pair =>
    bindRecord evaluation candidateId revision pair.1 pair.2

/-- `RevisionEvaluation.evaluate`, on the records the evaluator returned. -/
def RevisionEvaluation.evaluate (evaluation : RevisionEvaluation) (snapshot : WorkspaceSnapshot)
    (revision : ℕ) (records : List TrialRecord) : Except String EvaluatedCandidate := do
  validateTrialRecords records evaluation.batch
  let bound ← bindRevisionProvenance evaluation snapshot.candidateId revision records
  assessCandidate snapshot evaluation.batch bound []

/-- **A revision check gives the snapshot it was asked for**, with evidence of its own. -/
theorem RevisionEvaluation.evaluate_eq_ok {evaluation : RevisionEvaluation}
    {snapshot : WorkspaceSnapshot} {revision : ℕ} {records : List TrialRecord}
    {evaluated : EvaluatedCandidate}
    (h : evaluation.evaluate snapshot revision records = .ok evaluated) :
    evaluated.snapshot = snapshot ∧ evaluated.Sound := by
  simp only [evaluate, bind_eq_ok] at h
  obtain ⟨_, -, bound, -, h⟩ := h
  exact assessCandidate_eq_ok h

end AecBench.Evolution
