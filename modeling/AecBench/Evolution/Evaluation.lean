import AecBench.Evolution.Core

/-!
# Evaluation of candidates

Binding the trial records of a planned batch to the exact candidate they came from, and the
assessment projected from them.

## Main definitions

* `CandidateEvaluationBatch`, `CandidateChecks` — what is evaluated, and the services that do it.
* `buildCandidateAssessment` — the assessment of one candidate.
* `CandidateChecks.assess`, `assessCandidate` — the evaluated candidate.

## Main results

* `CandidateChecks.assess_eq_ok`, `assessCandidate_eq_ok` — an evaluated candidate has the
  snapshot it was asked for, a valid assessment, and an evaluation in every trial
  (`EvaluatedCandidate.Sound`).
-/

namespace AecBench.Evolution

open Validation

structure PlannedTrial where
  trialId : String
  taskId : String
  repetition : ℕ := 1

/-- The task and trial cases of one cycle; they do not depend on the candidate. -/
structure CandidateEvaluationBatch where
  taskIds : List String
  trials : List PlannedTrial
  evaluationCaseIds : List String
  cycle : ℕ := 0

/-- The services that plan a batch, run a candidate on it and enrich what it produced. -/
structure CandidateChecks where
  plan : ℕ → ℤ → Except String CandidateEvaluationBatch
  run : WorkspaceSnapshot → CandidateEvaluationBatch → Except String (List TrialRecord)
  enrich : List EvolutionObservation → Except String (List EvolutionObservation) := .ok

/-! ## Evidence -/

/-- `_extract_discipline`. -/
def extractDiscipline (taskId : String) : String :=
  String.ofList (taskId.toList.takeWhile (· ≠ '/'))

def validateTrialRecords (records : List TrialRecord) (batch : CandidateEvaluationBatch) :
    Except String Unit := do
  require (records.length = batch.trials.length)
    "trial record count must match the evaluation batch cardinality"
  let _ ← (records.zip batch.trials).mapM fun pair => do
    require (pair.1.taskId = pair.2.taskId)
      "trial record task_id must match its planned evaluation case"
    require (pair.1.attempt = pair.2.repetition)
      "trial record attempt must match its planned evaluation case"

/-- `_require_enriched_observations`. -/
def requireEnrichedObservations (observations : List EvolutionObservation) (candidateId : String)
    (batch : CandidateEvaluationBatch) : Except String Unit := do
  requireText candidateId "candidate_id"
  require (∀ obs ∈ observations, obs.candidateId = candidateId)
    "enriched observations must retain the evaluated candidate_id"
  require (observations.map (·.trial.trialId)).Nodup
    "enriched observation trial IDs must be unique"
  validateTrialRecords (observations.map (·.trial)) batch

/-- `_build_observations`, without enrichments or with one for each record. -/
def buildObservations (records : List TrialRecord) (candidateId : String)
    (batch : CandidateEvaluationBatch) (enrichments : List ObservationEnrichment) :
    Except String (List EvolutionObservation) := do
  requireText candidateId "candidate_id"
  require (enrichments = [] ∨ enrichments.length = records.length)
    "observation enrichment count must match trial record count"
  validateTrialRecords records batch
  let observations := records.mapIdx fun i trial =>
    { trial, enrichment := enrichments.getD i {}, candidateId,
      discipline := extractDiscipline trial.taskId : EvolutionObservation }
  requireEnrichedObservations observations candidateId batch
  return observations

/-! ## Assessments -/

/-- Why one trial does not count as a valid evaluation. -/
def invalidReasons (record : TrialRecord) (evaluation : EvaluationResult) : List String :=
  (if record.evaluationStatus = .completed then [] else
    [s!"trial {record.trialId}: evaluation status is {record.evaluationStatus.value}"]) ++
  (if record.executionStatus = .completed then [] else
    [s!"trial {record.trialId}: execution status is {record.executionStatus.value}"]) ++
  (let validity := evaluation.validity
    if validity.outputParseable ∧ validity.schemaValid ∧ validity.verifierCompleted then [] else
      (if validity.errors = [] then ["evaluation validity checks failed"] else validity.errors).map
        fun reason => s!"trial {record.trialId}: {reason}")

def mean (values : List ℚ) : ℚ := values.sum / values.length

/-- `_build_candidate_assessment`. -/
def buildCandidateAssessment (candidateId : String) (batch : CandidateEvaluationBatch)
    (observations : List EvolutionObservation) : Except String CandidateAssessment := do
  requireText candidateId "candidate_id"
  requireEnrichedObservations observations candidateId batch
  require (observations ≠ []) "candidate assessment evidence must not be empty"
  let evaluations ← observations.mapM (·.trial.requireEvaluation)
  let evidence := observations.zip evaluations
  let rewardsOf (discipline : String) :=
    (evidence.filter (·.1.discipline = discipline)).map (·.2.reward)
  let disciplines :=
    (observations.map (·.discipline)).eraseDups.insertionSort (· ≤ ·)
  let structuralScores := observations.filterMap (·.enrichment.structuralScore)
  let reasons := evidence.flatMap fun pair => invalidReasons pair.1.trial pair.2
  construct CandidateAssessment.errors "CandidateAssessment"
    { candidateId
      batchScore := mean (evaluations.map (·.reward))
      structuralScore := if structuralScores = [] then none else some (mean structuralScores)
      disciplineScores := disciplines.map fun discipline =>
        (discipline, mean (rewardsOf discipline))
      trialIds := observations.map (·.trial.trialId)
      evaluationCaseIds := batch.evaluationCaseIds
      valid := reasons = []
      invalidReasons := reasons.eraseDups }

/-- The constructor of an evaluated candidate. -/
def evaluatedCandidate (snapshot : WorkspaceSnapshot) (observations : List EvolutionObservation)
    (assessment : CandidateAssessment) : Except String EvaluatedCandidate := do
  let evaluated : EvaluatedCandidate := { snapshot, observations, assessment }
  evaluated.check
  return evaluated

/-- Run a candidate on a batch and bind its evidence to it. -/
def CandidateChecks.assess (checks : CandidateChecks) (snapshot : WorkspaceSnapshot)
    (batch : CandidateEvaluationBatch) : Except String EvaluatedCandidate := do
  let records ← checks.run snapshot batch
  let observations ← buildObservations records snapshot.candidateId batch []
  let enriched ← checks.enrich observations
  requireEnrichedObservations enriched snapshot.candidateId batch
  let assessment ← buildCandidateAssessment snapshot.candidateId batch enriched
  evaluatedCandidate snapshot enriched assessment

/-- Bind records that the caller has to the candidate they came from. -/
def assessCandidate (snapshot : WorkspaceSnapshot) (batch : CandidateEvaluationBatch)
    (records : List TrialRecord) (enrichments : List ObservationEnrichment) :
    Except String EvaluatedCandidate := do
  let observations ← buildObservations records snapshot.candidateId batch enrichments
  let assessment ← buildCandidateAssessment snapshot.candidateId batch observations
  evaluatedCandidate snapshot observations assessment

/-- `require_same_evaluation_cases`. -/
def requireSameEvaluationCases (parent child : EvaluatedCandidate) : Except String Unit :=
  require (parent.assessment.evaluationCaseIds = child.assessment.evaluationCaseIds)
    "parent and child must use identical evaluation_case_ids"

/-- The descriptor of an observation, when it has one. -/
def EvolutionObservation.descriptor? (obs : EvolutionObservation) : Option BehaviourDescriptor :=
  (extractBehaviourDescriptor obs).toOption

/-- The descriptors of the observations of a candidate. -/
def EvaluatedCandidate.descriptors (evaluated : EvaluatedCandidate) : List BehaviourDescriptor :=
  evaluated.observations.filterMap EvolutionObservation.descriptor?

/-! ## What an evaluation gives -/

/-- What holds of every evaluated candidate: its assessment is valid as a record, its evidence
is its own, and every trial has an evaluation. -/
structure EvaluatedCandidate.Sound (evaluated : EvaluatedCandidate) : Prop where
  checked : evaluated.check = .ok ()
  assessment : evaluated.assessment.errors = []
  evaluations : ∀ obs ∈ evaluated.observations, obs.trial.evaluation ≠ none

lemma requireEvaluation_eq_ok {record : TrialRecord} {evaluation : EvaluationResult} :
    record.requireEvaluation = .ok evaluation ↔ record.evaluation = some evaluation := by
  rw [TrialRecord.requireEvaluation]
  cases record.evaluation <;> simp

lemma exists_extractBehaviourDescriptor {obs : EvolutionObservation}
    (h : obs.trial.evaluation ≠ none) : ∃ bd, extractBehaviourDescriptor obs = .ok bd := by
  obtain ⟨evaluation, hev⟩ := Option.ne_none_iff_exists'.mp h
  simp only [extractBehaviourDescriptor, bind_eq_ok, requireEvaluation_eq_ok, hev,
    Option.some.injEq, exists_eq_left']
  cases obs.enrichment.traceDigest with
  | none => exact ⟨_, rfl⟩
  | some digest =>
    dsimp only
    by_cases hbonds : digest.bondSequence = ""
    · rw [if_pos hbonds]
      exact ⟨_, rfl⟩
    · rw [if_neg hbonds]
      exact ⟨_, rfl⟩

variable {evaluated : EvaluatedCandidate}

lemma descriptors_of_mapM {bds : List BehaviourDescriptor}
    (h : evaluated.observations.mapM extractBehaviourDescriptor = .ok bds) :
    evaluated.descriptors = bds ∧ (bds.zip evaluated.observations).map Prod.fst = bds := by
  rw [EvaluatedCandidate.descriptors]
  rw [mapM_eq_ok] at h
  generalize evaluated.observations = observations at h
  induction h with
  | nil => exact ⟨rfl, rfl⟩
  | @cons obs bd rest bds hbd _ ih =>
    have hsome : obs.descriptor? = some bd := by
      rw [EvolutionObservation.descriptor?, hbd]
      rfl
    rw [List.filterMap_cons_some hsome, List.zip_cons_cons, List.map_cons, ih.1, ih.2]
    exact ⟨rfl, rfl⟩

variable {batch : CandidateEvaluationBatch}

variable {observations : List EvolutionObservation} {assessment : CandidateAssessment}

lemma buildCandidateAssessment_eq_ok {candidateId : String}
    (h : buildCandidateAssessment candidateId batch observations = .ok assessment) :
    assessment.errors = [] ∧ ∀ obs ∈ observations, obs.trial.evaluation ≠ none := by
  simp only [buildCandidateAssessment, bind_eq_ok, construct_eq_ok] at h
  obtain ⟨_, -, _, -, _, -, evaluations, hevaluations, hvalid, rfl⟩ := h
  refine ⟨hvalid, fun obs hobs => ?_⟩
  obtain ⟨evaluation, hevaluation⟩ := exists_of_mapM_eq_ok hevaluations obs hobs
  rw [requireEvaluation_eq_ok.mp hevaluation]
  exact Option.some_ne_none _

variable {snapshot : WorkspaceSnapshot}

lemma evaluatedCandidate_eq_ok :
    evaluatedCandidate snapshot observations assessment = .ok evaluated ↔
      evaluated = ⟨snapshot, observations, assessment⟩ ∧ evaluated.check = .ok () := by
  simp only [evaluatedCandidate, unit_bind_eq_ok, pure_eq_ok]
  constructor
  · rintro ⟨hcheck, rfl⟩
    exact ⟨rfl, hcheck⟩
  · rintro ⟨rfl, hcheck⟩
    exact ⟨hcheck, rfl⟩

/-- **What running a candidate gives.** -/
theorem CandidateChecks.assess_eq_ok {checks : CandidateChecks}
    (h : checks.assess snapshot batch = .ok evaluated) :
    evaluated.snapshot = snapshot ∧ evaluated.Sound := by
  simp only [assess, bind_eq_ok] at h
  obtain ⟨_, -, _, -, _, -, _, -, _, hassessment, h⟩ := h
  obtain ⟨rfl, hcheck⟩ := evaluatedCandidate_eq_ok.mp h
  obtain ⟨hvalid, hevaluations⟩ := buildCandidateAssessment_eq_ok hassessment
  exact ⟨rfl, hcheck, hvalid, hevaluations⟩

/-- **What binding records to a candidate gives.** -/
theorem assessCandidate_eq_ok {records : List TrialRecord}
    {enrichments : List ObservationEnrichment}
    (h : assessCandidate snapshot batch records enrichments = .ok evaluated) :
    evaluated.snapshot = snapshot ∧ evaluated.Sound := by
  simp only [assessCandidate, bind_eq_ok] at h
  obtain ⟨_, -, _, hassessment, h⟩ := h
  obtain ⟨rfl, hcheck⟩ := evaluatedCandidate_eq_ok.mp h
  obtain ⟨hvalid, hevaluations⟩ := buildCandidateAssessment_eq_ok hassessment
  exact ⟨rfl, hcheck, hvalid, hevaluations⟩

end AecBench.Evolution
