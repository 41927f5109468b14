import Mathlib.Data.List.Dedup
import Mathlib.Data.List.ProdSigma
import Mathlib.Data.PNat.Basic
import AecBench.Contracts.RunPlan
import AecBench.Lib.Loops
import AecBench.Lib.Table

/-!
# Planning a run

A resolved run is expanded into one trial for each task release, agent condition and repetition,
in this nesting order. The key of a trial joins the key of the task, the key of the condition and
the repetition with separators that the keys may contain themselves.

## Main definitions

* `PlanArguments` — the arguments of `plan_run`; `PlanArguments.Matches` — what a caller owes.
* `planRun` — the expansion.
* `grid` — the combinations of a condition; `KeysApart` — no two pairs join to one key.

## Main results

* `planTrials_eq` — the trials of the expansion are those of the grid, in order.
* `errors_readyPlan_iff` — the plan is valid when the keys of its trials are different.
* `expands_iff` — a valid condition is expanded when and only when its keys are apart.
-/

namespace AecBench.Contracts

open Validation

/-! ## Arguments -/

/-- The arguments of `plan_run`. -/
structure PlanArguments where
  spec : ResolvedRunSpec
  planIdentity : EntityIdentity
  createdAt : Instant
  /-- A `dict`: its keys are different. -/
  taskProfiles : List (EntityId × TaskPlanningProfile)
  validateCombination : TaskSnapshotRef → AgentCondition → TrialTaskKind → Except String Unit
  attemptRecipe : Option AttemptRecipe := none
  /-- The identity made by the call of a number, for a key. -/
  makeTrialIdentity : ℕ → EntityKey → EntityIdentity
  extensions : List PlannedTrialExtension := []

/-- `EntityKey(value)`. -/
def entityKey (value : String) : Except String EntityKey :=
  if h : keyChars true value.toList = true then .ok ⟨value, h⟩
  else .error ("entity key must use lowercase ASCII letters, numbers, hyphens, underscores, " ++
    "and non-empty slash-separated components")

/-- The readable key of a trial. -/
def trialKeyText (release : TaskSnapshotRef) (condition : AgentCondition) (repetition : ℕ+) :
    String :=
  release.taskId ++ "__" ++ condition.identity.key.text ++ "__rep-" ++
    Text.padded 2 repetition

/-- A count that a summary takes as positive. -/
def positiveCount (n : ℕ) : Except String ℕ+ :=
  if h : 0 < n then .ok ⟨n, h⟩ else .error "Input should be greater than 0"

/-! ## The expansion -/

section Expansion

variable (args : PlanArguments)

/-- The trial of a number, for a combination whose key has the given identity. -/
def plannedTrial (ordinal : ℕ+) (identity : EntityIdentity) (profile : TaskPlanningProfile)
    (release : TaskSnapshotRef) (condition : AgentCondition) (repetition : ℕ+) : PlannedTrial where
  trialIdentity := identity
  ordinal
  runIdentity := args.spec.runIdentity
  taskRelease := release
  taskMetadata := profile.metadata
  agentCondition := condition
  compute := args.spec.compute
  repetition
  seed := args.spec.randomizationSeed
  executionFamily := profile.executionFamily
  familyRelease := profile.familyRelease
  attemptRecipe := args.attemptRecipe.getD .singleAttempt
  evaluationProfile := args.spec.evaluationRegime
  extensions := args.extensions

/-- One round of the loop over the repetitions. -/
def planRepetition (profile : TaskPlanningProfile) (release : TaskSnapshotRef)
    (condition : AgentCondition) (trials : List PlannedTrial) (repetition : ℕ+) :
    Except String (List PlannedTrial) := do
  let key ← entityKey (trialKeyText release condition repetition)
  let identity := args.makeTrialIdentity trials.length key
  require (identity.key = key) "trial identity factory must preserve the requested trial key"
  let trial ← construct PlannedTrial.errors "PlannedTrial"
    (plannedTrial args trials.length.succPNat identity profile release condition repetition)
  return trials ++ [trial]

/-- The numbers of the repetitions. -/
def repetitionsOf (repetitions : ℕ+) : List ℕ+ := (List.range repetitions).map Nat.succPNat

/-- One round of the loop over the agent conditions. -/
def planCondition (profile : TaskPlanningProfile) (release : TaskSnapshotRef)
    (trials : List PlannedTrial) (condition : AgentCondition) :
    Except String (List PlannedTrial) := do
  args.validateCombination release condition profile.executionFamily
  (repetitionsOf args.spec.repetitions).foldlM (planRepetition args profile release condition) trials

/-- One round of the loop over the task releases. -/
def planRelease (trials : List PlannedTrial) (release : TaskSnapshotRef) :
    Except String (List PlannedTrial) :=
  match Table.lookup Prod.fst release.taskIdentity.id args.taskProfiles with
  | none => .error release.taskIdentity.id.text
  | some (_, profile) => do
    require (profile.metadata.identity = release.taskIdentity)
      "task planning profile identity must match the task release"
    require (profile.metadata.visibility ∈ args.spec.visibility)
      "task planning profile visibility is outside the resolved run policy"
    args.spec.agentConditions.foldlM (planCondition args profile release) trials

/-- The counts of the trials of an expansion. -/
def summarise (trials : List PlannedTrial) : Except String RunPlanSummary := do
  let selectedTaskCount ← positiveCount args.spec.taskReleases.length
  let agentConditionCount ← positiveCount args.spec.agentConditions.length
  let totalTrials ← positiveCount trials.length
  construct RunPlanSummary.errors "RunPlanSummary"
    { selectedTaskCount
      agentConditionCount
      repetitions := args.spec.repetitions
      totalTrials
      trialsByExecutionFamily := trials.map (·.executionFamily)
      trialsByBackend := Multiset.replicate trials.length args.spec.compute.backend
      visibilityPolicy := args.spec.visibility
      tasksByVisibility := args.taskProfiles.map (·.2.metadata.visibility)
      deprecatedTaskCount := args.taskProfiles.countP (·.2.metadata.lifecycle = .deprecated) }

/-- The plan that `plan_run` constructs. -/
def readyPlan (trials : List PlannedTrial) (summary : RunPlanSummary) :
    RunPlan where
  planIdentity := args.planIdentity
  runIdentity := args.spec.runIdentity
  createdAt := args.createdAt
  state := .ready
  trials
  summary

/-- `plan_run`: expand one resolved run into an ordered, ready plan. -/
def planRun : Except String RunPlan := do
  require (args.spec.createdAt ≤ args.createdAt)
    "run plan created_at must not precede the resolved run specification"
  require ((∀ entry ∈ args.taskProfiles, entry.1 ∈ args.spec.taskReleases.map (·.taskIdentity.id)) ∧
      ∀ release ∈ args.spec.taskReleases,
        release.taskIdentity.id ∈ args.taskProfiles.map Prod.fst)
    "task planning profiles must exactly match the resolved task releases"
  let trials ← args.spec.taskReleases.foldlM (planRelease args) []
  let summary ← summarise args trials
  construct RunPlan.errors "RunPlan" (readyPlan args trials summary)

end Expansion

/-! ## Keys of trials -/

lemma isKeyInner_padded {width n : ℕ} {c : Char} (h : c ∈ (Text.padded width n).toList) :
    isKeyInner c = true := by
  simp [isKeyInner, isKeyStart, Text.isDigit_of_mem_padded h]

lemma trialKeyText_valid (release : TaskSnapshotRef) (condition : AgentCondition)
    (repetition : ℕ+) :
    keyChars true (trialKeyText release condition repetition).toList = true := by
  have hrest : keyChars false ("__rep-".toList ++ (Text.padded 2 repetition).toList) = true := by
    refine keyChars_of_inner fun c hc => ?_
    rcases List.mem_append.mp hc with hc | hc
    · have hrep : "__rep-".toList.all isKeyInner = true := by decide
      exact List.all_eq_true.mp hrep c hc
    · exact isKeyInner_padded hc
  have hcondition : keyChars false ("__".toList ++ condition.identity.key.text.toList) = true :=
    keyChars_append (by decide) (keyChars_false condition.identity.key.valid)
  have hjoin := keyChars_append release.taskIdentity.key.valid (keyChars_append hcondition hrest)
  simpa [trialKeyText, TaskSnapshotRef.taskId, String.toList_append, List.append_assoc] using hjoin

/-- The key of a trial. -/
def trialKey (release : TaskSnapshotRef) (condition : AgentCondition) (repetition : ℕ+) :
    EntityKey :=
  ⟨trialKeyText release condition repetition, trialKeyText_valid release condition repetition⟩

lemma entityKey_trialKeyText (release : TaskSnapshotRef) (condition : AgentCondition)
    (repetition : ℕ+) : entityKey (trialKeyText release condition repetition) =
      .ok (trialKey release condition repetition) := by
  rw [entityKey, dif_pos (trialKeyText_valid release condition repetition)]
  rfl

/-- The key of a trial determines its repetition, and the joined keys of its task and condition. -/
lemma trialKey_inj {release release' : TaskSnapshotRef} {condition condition' : AgentCondition}
    {repetition repetition' : ℕ+} :
    trialKey release condition repetition = trialKey release' condition' repetition' ↔
      release.taskId ++ "__" ++ condition.identity.key.text =
        release'.taskId ++ "__" ++ condition'.identity.key.text ∧ repetition = repetition' := by
  constructor
  · intro h
    have htext := congrArg (fun key => key.text.toList) h
    simp only [trialKey, trialKeyText] at htext
    generalize hs : release.taskId ++ "__" ++ condition.identity.key.text = s at htext ⊢
    generalize ht : release'.taskId ++ "__" ++ condition'.identity.key.text = t at htext ⊢
    have hsplit : (s.toList ++ "__rep".toList) ++ '-' :: (Text.padded 2 repetition).toList =
        (t.toList ++ "__rep".toList) ++ '-' :: (Text.padded 2 repetition').toList := by
      simpa [String.toList_append] using htext
    obtain ⟨hbefore, hnumber⟩ := Text.mark_padded_inj (by decide) hsplit
    exact ⟨String.toList_inj.mp (List.append_cancel_right hbefore), PNat.eq hnumber⟩
  · rintro ⟨hjoin, rfl⟩
    simp [trialKey, trialKeyText, hjoin]

/-! ## The grid -/

/-- A task release, an agent condition and the number of a repetition. -/
abbrev Combination := TaskSnapshotRef × AgentCondition × ℕ+

/-- The combination that a trial runs. -/
def PlannedTrial.combination (trial : PlannedTrial) : Combination :=
  (trial.taskRelease, trial.agentCondition, trial.repetition)

/-- Every combination of a condition, the releases in the outer loop. -/
def grid (spec : ResolvedRunSpec) : List Combination :=
  spec.taskReleases ×ˢ spec.agentConditions ×ˢ repetitionsOf spec.repetitions

/-- No two pairs of a release and a condition join to one key. -/
def KeysApart (spec : ResolvedRunSpec) : Prop :=
  ∀ release ∈ spec.taskReleases, ∀ release' ∈ spec.taskReleases,
    ∀ condition ∈ spec.agentConditions, ∀ condition' ∈ spec.agentConditions,
      release.taskId ++ "__" ++ condition.identity.key.text =
          release'.taskId ++ "__" ++ condition'.identity.key.text →
        release = release' ∧ condition = condition'

instance (spec : ResolvedRunSpec) : Decidable (KeysApart spec) :=
  inferInstanceAs (Decidable (∀ release ∈ spec.taskReleases, _))

lemma mem_repetitionsOf {repetitions k : ℕ+} : k ∈ repetitionsOf repetitions ↔ k ≤ repetitions := by
  simp only [repetitionsOf, List.mem_map, List.mem_range]
  constructor
  · rintro ⟨n, hn, rfl⟩
    exact Nat.succ_le_of_lt hn
  · intro hk
    have hpos := k.pos
    have hle : (k : ℕ) ≤ repetitions := hk
    exact ⟨k - 1, by omega, PNat.eq (by simp [Nat.succPNat_coe]; omega)⟩

lemma nodup_repetitionsOf (repetitions : ℕ+) : (repetitionsOf repetitions).Nodup :=
  List.nodup_range.map Nat.succPNat_injective

variable {spec : ResolvedRunSpec}

lemma mem_grid {c : Combination} :
    c ∈ grid spec ↔ c.1 ∈ spec.taskReleases ∧ c.2.1 ∈ spec.agentConditions ∧
      c.2.2 ≤ spec.repetitions := by
  obtain ⟨release, condition, k⟩ := c
  simp only [grid, List.mem_product, mem_repetitionsOf]

lemma nodup_grid (h : spec.Parts) : (grid spec).Nodup :=
  h.taskIds.of_map.product (h.conditionKeys.of_map.product (nodup_repetitionsOf _))

lemma length_grid (spec : ResolvedRunSpec) : (grid spec).length =
    spec.taskReleases.length * (spec.agentConditions.length * spec.repetitions) := by
  simp [grid, List.length_product, repetitionsOf]

lemma grid_eq (spec : ResolvedRunSpec) : grid spec =
    spec.taskReleases.flatMap fun release => spec.agentConditions.flatMap fun condition =>
      (repetitionsOf spec.repetitions).flatMap fun k => [(release, condition, k)] := by
  have hrow : ∀ (release : TaskSnapshotRef) (condition : AgentCondition) (ks : List ℕ+),
      (ks.flatMap fun k => [(release, condition, k)]) = ks.map fun k => (release, condition, k) := by
    intro release condition ks
    induction ks with
    | nil => rfl
    | cons k ks ih => rw [List.flatMap_cons, ih, List.map_cons, List.singleton_append]
  simp only [hrow]
  show List.product _ (List.product _ _) = _
  simp [List.product, List.map_flatMap, List.map_map, Function.comp_def]

lemma nodup_keys_iff (h : spec.Parts) :
    ((grid spec).map fun c => trialKey c.1 c.2.1 c.2.2).Nodup ↔ KeysApart spec := by
  rw [List.nodup_map_iff_inj_on (nodup_grid h)]
  constructor
  · intro hinj release hr release' hr' condition hc condition' hc' hjoin
    have hfirst : (release, condition, 1) ∈ grid spec := mem_grid.mpr ⟨hr, hc, one_le⟩
    have hsecond : (release', condition', 1) ∈ grid spec := mem_grid.mpr ⟨hr', hc', one_le⟩
    have heq := hinj _ hfirst _ hsecond (trialKey_inj.mpr ⟨hjoin, rfl⟩)
    simpa using heq
  · rintro hapart ⟨release, condition, k⟩ hx ⟨release', condition', k'⟩ hy hkey
    obtain ⟨hr, hc, -⟩ := mem_grid.mp hx
    obtain ⟨hr', hc', -⟩ := mem_grid.mp hy
    obtain ⟨hjoin, rfl⟩ := trialKey_inj.mp hkey
    obtain ⟨rfl, rfl⟩ := hapart release hr release' hr' condition hc condition' hc' hjoin
    rfl

/-! ## The trials of an expansion -/

/-- The family of a trial has its release. -/
def FamilyFits (family : TrialTaskKind) (release : Option FamilyExecutionRelease) : Prop :=
  checkFamilyRelease family release "" "" "" = .ok ()

lemma checkFamilyRelease_eq_ok {family : TrialTaskKind} {release : Option FamilyExecutionRelease}
    {artifactMessage worldMessage lifecycleMessage : String} :
    checkFamilyRelease family release artifactMessage worldMessage lifecycleMessage = .ok () ↔
      FamilyFits family release := by
  cases family <;> rcases release with _ | ⟨_⟩ | ⟨_⟩ <;> simp [FamilyFits, checkFamilyRelease]

/-- A profile is the one of a release. -/
structure ProfileOf (args : PlanArguments) (release : TaskSnapshotRef)
    (profile : TaskPlanningProfile) : Prop where
  mem : (release.taskIdentity.id, profile) ∈ args.taskProfiles
  valid : profile.errors = []
  identity : profile.metadata.identity = release.taskIdentity
  visibility : profile.metadata.visibility ∈ args.spec.visibility

/-- The arguments belong together: what a caller of `plan_run` owes. -/
structure PlanArguments.Matches (args : PlanArguments) : Prop where
  spec : args.spec.errors = []
  createdAt : args.spec.createdAt ≤ args.createdAt
  plan : args.planIdentity.id ≠ args.spec.runIdentity.id
  keyed : Table.Keyed Prod.fst args.taskProfiles
  known : ∀ entry ∈ args.taskProfiles, entry.1 ∈ args.spec.taskReleases.map (·.taskIdentity.id)
  profiles : ∀ release ∈ args.spec.taskReleases, ∃ profile, ProfileOf args release profile
  accepts : ∀ release ∈ args.spec.taskReleases, ∀ condition ∈ args.spec.agentConditions,
    ∀ profile, ProfileOf args release profile →
      args.validateCombination release condition profile.executionFamily = .ok ()
  extensions : (args.extensions.map (·.extensionKind)).Nodup ∧
    ∀ e ∈ args.extensions, e.errors = []
  /-- The identity factory keeps the key it is given. -/
  keeps : ∀ n key, (args.makeTrialIdentity n key).key = key
  /-- The calls of the identity factory for one plan make different ids. -/
  fresh : ∀ m < (grid args.spec).length, ∀ n < (grid args.spec).length, ∀ key key', m ≠ n →
    (args.makeTrialIdentity m key).id ≠ (args.makeTrialIdentity n key').id

section Trials

variable {args : PlanArguments} {profileOf : TaskSnapshotRef → TaskPlanningProfile}

/-- The trial of a combination, the trials before it counted. -/
def expandedTrial (args : PlanArguments) (profileOf : TaskSnapshotRef → TaskPlanningProfile)
    (n : ℕ) (c : Combination) : PlannedTrial :=
  plannedTrial args n.succPNat (args.makeTrialIdentity n (trialKey c.1 c.2.1 c.2.2))
    (profileOf c.1) c.1 c.2.1 c.2.2

lemma profile_parts {profile : TaskPlanningProfile} (h : profile.errors = []) :
    profile.metadata.lifecycle.Runnable ∧
      FamilyFits profile.executionFamily profile.familyRelease := by
  rw [TaskPlanningProfile.errors, record_eq_nil] at h
  have hwhole := h.2
  simp only [TaskPlanningProfile.validateRunnableLifecycle, require_bind_eq_ok] at hwhole
  exact ⟨hwhole.1, checkFamilyRelease_eq_ok.mp hwhole.2⟩

lemma plannedTrial_valid (h : args.Matches) {release : TaskSnapshotRef}
    {profile : TaskPlanningProfile} (hprofile : ProfileOf args release profile) (ordinal : ℕ+)
    (identity : EntityIdentity) (condition : AgentCondition) (k : ℕ+) :
    (plannedTrial args ordinal identity profile release condition k).errors = [] := by
  rw [PlannedTrial.errors, record_eq_nil]
  refine ⟨?_, ?_⟩
  · simpa [plannedTrial] using h.extensions.2
  · simp only [PlannedTrial.validateReferences, require_bind_eq_ok, require_eq_ok]
    exact ⟨hprofile.identity, (profile_parts hprofile.valid).1, h.extensions.1⟩

lemma planRepetition_eq (h : args.Matches) {release : TaskSnapshotRef}
    (hprofile : ProfileOf args release (profileOf release)) (condition : AgentCondition)
    (trials : List PlannedTrial) (k : ℕ+) :
    planRepetition args (profileOf release) release condition trials k =
      .ok (trials ++ Loops.numbered (expandedTrial args profileOf) trials.length
        [(release, condition, k)]) := by
  simp only [planRepetition, entityKey_trialKeyText, bind_eq_ok, pure_eq_ok, construct_eq_ok]
  exact ⟨_, rfl, (), require_eq_ok.mpr (h.keeps _ _), _,
    ⟨plannedTrial_valid h hprofile _ _ _ _, rfl⟩, rfl⟩

lemma planCondition_eq (h : args.Matches) {release : TaskSnapshotRef}
    (hrelease : release ∈ args.spec.taskReleases)
    (hprofile : ProfileOf args release (profileOf release)) {condition : AgentCondition}
    (hcondition : condition ∈ args.spec.agentConditions) (trials : List PlannedTrial) :
    planCondition args (profileOf release) release trials condition =
      .ok (trials ++ Loops.numbered (expandedTrial args profileOf) trials.length
        ((repetitionsOf args.spec.repetitions).flatMap fun k => [(release, condition, k)])) := by
  rw [planCondition, h.accepts release hrelease condition hcondition _ hprofile]
  exact Loops.foldlM_numbered
    (fun acc k _ => planRepetition_eq h hprofile condition acc k) trials

lemma planRelease_eq (h : args.Matches) {release : TaskSnapshotRef}
    (hrelease : release ∈ args.spec.taskReleases)
    (hprofile : ProfileOf args release (profileOf release)) (trials : List PlannedTrial) :
    planRelease args trials release =
      .ok (trials ++ Loops.numbered (expandedTrial args profileOf) trials.length
        (args.spec.agentConditions.flatMap fun condition =>
          (repetitionsOf args.spec.repetitions).flatMap fun k => [(release, condition, k)])) := by
  have hlookup : Table.lookup Prod.fst release.taskIdentity.id args.taskProfiles =
      some (release.taskIdentity.id, profileOf release) := h.keyed.lookup_of_mem hprofile.mem
  rw [planRelease, hlookup]
  simp only [require_bind_eq_ok]
  refine ⟨hprofile.identity, hprofile.visibility, ?_⟩
  exact Loops.foldlM_numbered
    (fun acc condition hcondition => planCondition_eq h hrelease hprofile hcondition acc) trials

variable (h : args.Matches)
  (hprofiles : ∀ release ∈ args.spec.taskReleases, ProfileOf args release (profileOf release))

include h hprofiles in
/-- **The trials** of the expansion are those of the grid, numbered in order. -/
lemma planTrials_eq :
    args.spec.taskReleases.foldlM (planRelease args) [] =
      .ok (Loops.numbered (expandedTrial args profileOf) 0 (grid args.spec)) := by
  rw [grid_eq]
  exact Loops.foldlM_numbered
    (fun acc release hrelease => planRelease_eq h hrelease (hprofiles release hrelease) acc) []

/-! ## The plan of an expansion -/

/-- The trials of the expansion. -/
def expandedTrials (args : PlanArguments) (profileOf : TaskSnapshotRef → TaskPlanningProfile) :
    List PlannedTrial :=
  Loops.numbered (expandedTrial args profileOf) 0 (grid args.spec)

lemma combinations_expanded (args : PlanArguments)
    (profileOf : TaskSnapshotRef → TaskPlanningProfile) :
    (expandedTrials args profileOf).map PlannedTrial.combination = grid args.spec := by
  have hid : (grid args.spec).map (fun c => c) = grid args.spec := List.map_id _
  rw [expandedTrials, Loops.map_numbered (h := fun c => c) (fun _ _ => rfl), hid]

lemma keys_expanded (h : args.Matches) :
    (expandedTrials args profileOf).map (·.trialIdentity.key) =
      (grid args.spec).map fun c => trialKey c.1 c.2.1 c.2.2 :=
  Loops.map_numbered (g := expandedTrial args profileOf) (fun n _ => h.keeps n _) 0 _

lemma exists_of_mem_expanded {trial : PlannedTrial} (ht : trial ∈ expandedTrials args profileOf) :
    ∃ n, ∃ c ∈ grid args.spec, trial = expandedTrial args profileOf n c := by
  obtain ⟨n, -, -, c, hc, rfl⟩ := Loops.exists_of_mem_numbered ht
  exact ⟨n, c, hc, rfl⟩

lemma exists_of_mem_grid {c : Combination} (hc : c ∈ grid args.spec) :
    ∃ n, expandedTrial args profileOf n c ∈ expandedTrials args profileOf := by
  rw [← combinations_expanded args profileOf] at hc
  obtain ⟨trial, ht, rfl⟩ := List.mem_map.mp hc
  obtain ⟨n, c, -, rfl⟩ := exists_of_mem_expanded ht
  exact ⟨n, ht⟩

lemma exists_combination {release : TaskSnapshotRef} (hspec : args.spec.Parts)
    (hrelease : release ∈ args.spec.taskReleases) : ∃ c ∈ grid args.spec, c.1 = release := by
  obtain ⟨condition, hcondition⟩ := List.exists_mem_of_ne_nil _ hspec.conditions
  exact ⟨(release, condition, 1), mem_grid.mpr ⟨hrelease, hcondition, one_le⟩, rfl⟩

include h hprofiles in
lemma mem_taskMetadataOf_iff {m : TaskMetadata} :
    m ∈ taskMetadataOf (expandedTrials args profileOf) ↔
      ∃ release ∈ args.spec.taskReleases, (profileOf release).metadata = m := by
  have hspec := ResolvedRunSpec.parts h.spec
  have hcollects := collectsMetadata (expandedTrials args profileOf)
  have hsound : ∀ m ∈ taskMetadataOf (expandedTrials args profileOf),
      ∃ release ∈ args.spec.taskReleases, (profileOf release).metadata = m := by
    intro m hm
    obtain ⟨trial, ht, rfl⟩ := hcollects.sound m hm
    obtain ⟨n, c, hc, rfl⟩ := exists_of_mem_expanded ht
    exact ⟨c.1, (mem_grid.mp hc).1, rfl⟩
  refine ⟨hsound m, ?_⟩
  rintro ⟨release, hrelease, rfl⟩
  obtain ⟨c, hc, rfl⟩ := exists_combination hspec hrelease
  obtain ⟨n, ht⟩ : ∃ n, expandedTrial args profileOf n c ∈ expandedTrials args profileOf :=
    exists_of_mem_grid hc
  obtain ⟨m, hm, hid⟩ := List.mem_map.mp (hcollects.complete _ ht)
  obtain ⟨release', hrelease', rfl⟩ := hsound m hm
  have hsame : release'.taskIdentity.id = c.1.taskIdentity.id := by
    rw [← (hprofiles release' hrelease').identity, ← (hprofiles c.1 hrelease).identity]
    exact hid
  have hkeyed : Table.Keyed (·.taskIdentity.id) args.spec.taskReleases := hspec.taskIdentities
  rw [← hkeyed.eq_of_key_eq hrelease' hrelease hsame]
  exact hm

include h hprofiles in
lemma entry_of_release {entry : EntityId × TaskPlanningProfile}
    (hentry : entry ∈ args.taskProfiles) :
    ∃ release ∈ args.spec.taskReleases, entry = (release.taskIdentity.id, profileOf release) := by
  obtain ⟨release, hrelease, hid⟩ := List.mem_map.mp (h.known entry hentry)
  exact ⟨release, hrelease, h.keyed.eq_of_key_eq hentry (hprofiles release hrelease).mem hid.symm⟩

include h hprofiles in
lemma taskMetadataOf_perm :
    (taskMetadataOf (expandedTrials args profileOf)).Perm
      (args.taskProfiles.map (·.2.metadata)) := by
  have hids : (args.taskProfiles.map (·.2.metadata)).map (·.identity.id) =
      args.taskProfiles.map Prod.fst := by
    rw [List.map_map]
    refine List.map_congr_left fun entry hentry => ?_
    obtain ⟨release, hrelease, rfl⟩ := entry_of_release h hprofiles hentry
    exact congrArg (·.id) (hprofiles release hrelease).identity
  have hnodup : (args.taskProfiles.map (·.2.metadata)).Nodup := by
    refine List.Nodup.of_map (·.identity.id) ?_
    rw [hids]
    exact h.keyed
  refine (List.perm_ext_iff_of_nodup (collectsMetadata _).nodup.of_map hnodup).mpr fun m => ?_
  rw [mem_taskMetadataOf_iff h hprofiles]
  constructor
  · rintro ⟨release, hrelease, rfl⟩
    exact List.mem_map.mpr ⟨_, (hprofiles release hrelease).mem, rfl⟩
  · intro hm
    obtain ⟨entry, hentry, rfl⟩ := List.mem_map.mp hm
    obtain ⟨release, hrelease, rfl⟩ := entry_of_release h hprofiles hentry
    exact ⟨release, hrelease, rfl⟩

/-- What the summary of an expansion says. -/
structure Summarises (args : PlanArguments) (trials : List PlannedTrial)
    (summary : RunPlanSummary) : Prop where
  tasks : (summary.selectedTaskCount : ℕ) = args.spec.taskReleases.length
  conditions : (summary.agentConditionCount : ℕ) = args.spec.agentConditions.length
  repetitions : summary.repetitions = args.spec.repetitions
  total : (summary.totalTrials : ℕ) = trials.length
  families : summary.trialsByExecutionFamily = (trials.map (·.executionFamily) : Multiset _)
  backends : summary.trialsByBackend =
    Multiset.replicate trials.length args.spec.compute.backend
  policy : summary.visibilityPolicy = args.spec.visibility
  visibilities : summary.tasksByVisibility =
    (args.taskProfiles.map (·.2.metadata.visibility) : Multiset _)
  deprecated : summary.deprecatedTaskCount =
    args.taskProfiles.countP (·.2.metadata.lifecycle = .deprecated)

lemma positiveCount_eq {n : ℕ} (h : 0 < n) : positiveCount n = .ok ⟨n, h⟩ := dif_pos h

lemma grid_pos (h : spec.Parts) : 0 < (grid spec).length := by
  rw [length_grid]
  exact Nat.mul_pos (List.length_pos_iff.mpr h.releases)
    (Nat.mul_pos (List.length_pos_iff.mpr h.conditions) spec.repetitions.pos)

lemma exists_summary (h : args.Matches) {trials : List PlannedTrial} (htrials : 0 < trials.length) :
    ∃ summary, summarise args trials = .ok summary ∧ summary.errors = [] ∧
      Summarises args trials summary := by
  have hspec := ResolvedRunSpec.parts h.spec
  have hreleases := List.length_pos_iff.mpr hspec.releases
  have hconditions := List.length_pos_iff.mpr hspec.conditions
  simp only [summarise, positiveCount_eq hreleases, positiveCount_eq hconditions,
    positiveCount_eq htrials, bind_eq_ok, construct_eq_ok]
  refine ⟨_, ⟨_, rfl, _, rfl, _, rfl, ?_, rfl⟩, ?_, ⟨rfl, rfl, rfl, rfl, rfl, rfl, rfl, rfl, rfl⟩⟩
  all_goals
    rw [RunPlanSummary.errors, record_eq_nil]
    simp [ofCheck_eq_nil, require_bind_eq_ok, hspec.visibility, hspec.visibilities]

lemma length_dedup_eq {α : Type} [DecidableEq α] {xs ys : List α} (hys : ys.Nodup)
    (h : ∀ a, a ∈ xs ↔ a ∈ ys) : xs.dedup.length = ys.length :=
  ((List.perm_ext_iff_of_nodup (List.nodup_dedup xs) hys).mpr fun a => by
    rw [List.mem_dedup, h]).length_eq

lemma mem_map_expanded {β : Type} {f : PlannedTrial → β} {p : Combination → β}
    (hf : ∀ trial, f trial = p trial.combination) {b : β} :
    b ∈ (expandedTrials args profileOf).map f ↔ ∃ c ∈ grid args.spec, p c = b := by
  have hmap : (expandedTrials args profileOf).map f = (grid args.spec).map p := by
    rw [← combinations_expanded args profileOf, List.map_map]
    exact List.map_congr_left fun trial _ => hf trial
  rw [hmap, List.mem_map]

lemma checkCounts_expanded (h : args.Matches) {plan : RunPlan}
    (htrials : plan.trials = expandedTrials args profileOf)
    (hsummary : Summarises args plan.trials plan.summary) : plan.checkCounts = .ok () := by
  have hspec := ResolvedRunSpec.parts h.spec
  simp only [RunPlan.checkCounts, require_bind_eq_ok, require_eq_ok]
  refine ⟨?_, ?_, hsummary.total, ?_, hsummary.families, ?_⟩
  · rw [hsummary.tasks, htrials, ← List.length_map (f := (·.taskId))]
    refine (length_dedup_eq hspec.taskIds fun a => ?_).symm
    rw [mem_map_expanded (f := (·.taskRelease.taskId)) (p := (·.1.taskId)) fun _ => rfl, List.mem_map]
    constructor
    · rintro ⟨c, hc, rfl⟩
      exact ⟨c.1, (mem_grid.mp hc).1, rfl⟩
    · rintro ⟨release, hrelease, rfl⟩
      obtain ⟨c, hc, rfl⟩ := exists_combination hspec hrelease
      exact ⟨c, hc, rfl⟩
  · rw [hsummary.conditions, htrials, ← List.length_map (f := (·.identity.id))]
    refine (length_dedup_eq hspec.conditionIds fun a => ?_).symm
    rw [mem_map_expanded (f := (·.agentCondition.identity.id))
      (p := (·.2.1.identity.id)) fun _ => rfl, List.mem_map]
    obtain ⟨release, hrelease⟩ := List.exists_mem_of_ne_nil _ hspec.releases
    constructor
    · rintro ⟨c, hc, rfl⟩
      exact ⟨c.2.1, (mem_grid.mp hc).2.1, rfl⟩
    · rintro ⟨condition, hcondition, rfl⟩
      exact ⟨(release, condition, 1), mem_grid.mpr ⟨hrelease, hcondition, one_le⟩, rfl⟩
  · rw [htrials, hsummary.repetitions, List.max?_eq_some_iff]
    simp only [mem_map_expanded (f := fun trial => (trial.repetition : ℕ))
      (p := fun c => (c.2.2 : ℕ)) fun _ => rfl]
    obtain ⟨release, hrelease⟩ := List.exists_mem_of_ne_nil _ hspec.releases
    obtain ⟨condition, hcondition⟩ := List.exists_mem_of_ne_nil _ hspec.conditions
    refine ⟨⟨(release, condition, args.spec.repetitions),
      mem_grid.mpr ⟨hrelease, hcondition, le_refl _⟩, rfl⟩, ?_⟩
    rintro k ⟨c, hc, rfl⟩
    exact (mem_grid.mp hc).2.2
  · rw [hsummary.backends, htrials, ← Multiset.coe_replicate, Multiset.coe_eq_coe]
    refine List.Perm.of_eq (Eq.symm (List.eq_replicate_iff.mpr ⟨List.length_map _, ?_⟩))
    intro backend hbackend
    obtain ⟨trial, ht, rfl⟩ := List.mem_map.mp hbackend
    obtain ⟨n, c, -, rfl⟩ := exists_of_mem_expanded ht
    rfl

include h hprofiles in
lemma checkMetadata_expanded {plan : RunPlan}
    (htrials : plan.trials = expandedTrials args profileOf)
    (hsummary : Summarises args plan.trials plan.summary) : plan.checkMetadata = .ok () := by
  have hperm := taskMetadataOf_perm h hprofiles
  simp only [RunPlan.checkMetadata, require_bind_eq_ok, require_eq_ok, htrials]
  refine ⟨?_, ?_, ?_, ?_⟩
  · intro trial ht
    obtain ⟨n, c, hc, rfl⟩ := exists_of_mem_expanded ht
    exact (mem_taskMetadataOf_iff h hprofiles).mpr ⟨c.1, (mem_grid.mp hc).1, rfl⟩
  · rw [hsummary.visibilities, Multiset.coe_eq_coe]
    simpa [List.map_map, Function.comp_def] using (hperm.map (·.visibility)).symm
  · rw [hsummary.deprecated, hperm.countP_eq, List.countP_map]
    rfl
  · intro m hm
    obtain ⟨release, hrelease, rfl⟩ := (mem_taskMetadataOf_iff h hprofiles).mp hm
    rw [hsummary.policy]
    exact (hprofiles release hrelease).visibility

include h hprofiles in
/-- The plan of an expansion is valid when and only when the keys of its trials are different. -/
lemma errors_readyPlan_iff {summary : RunPlanSummary} (hvalid : summary.errors = [])
    (hsummary : Summarises args (expandedTrials args profileOf) summary) :
    (readyPlan args (expandedTrials args profileOf) summary).errors = [] ↔
      KeysApart args.spec := by
  have hspec := ResolvedRunSpec.parts h.spec
  have htrials : ∀ trial ∈ expandedTrials args profileOf, trial.errors = [] := by
    intro trial ht
    obtain ⟨n, c, hc, rfl⟩ := exists_of_mem_expanded ht
    exact plannedTrial_valid h (hprofiles c.1 (mem_grid.mp hc).1) _ _ _ _
  have hne : expandedTrials args profileOf ≠ [] := by
    rw [← List.length_pos_iff, expandedTrials, Loops.length_numbered]
    exact grid_pos hspec
  have hordinals : (expandedTrials args profileOf).map (fun trial => (trial.ordinal : ℕ)) =
      List.range' 1 (expandedTrials args profileOf).length := by
    rw [expandedTrials, Loops.length_numbered]
    exact Loops.map_numbered_range (g := expandedTrial args profileOf) (k := 1) (fun _ _ => rfl) 0 _
  have hids : ((expandedTrials args profileOf).map (·.trialIdentity.id)).Nodup :=
    Loops.nodup_map_numbered fun m n _ _ hm hn hmn =>
      h.fresh m (by omega) n (by omega) _ _ hmn
  have hrun : ∀ trial ∈ expandedTrials args profileOf,
      trial.runIdentity = args.spec.runIdentity := by
    intro trial ht
    obtain ⟨n, c, -, rfl⟩ := exists_of_mem_expanded ht
    rfl
  have hfamilies : RunPlan.checkFamilies (expandedTrials args profileOf) = .ok () := by
    refine Loops.forM_eq_ok.mpr fun trial ht => checkFamilyRelease_eq_ok.mpr ?_
    obtain ⟨n, c, hc, rfl⟩ := exists_of_mem_expanded ht
    exact (profile_parts (hprofiles c.1 (mem_grid.mp hc).1).valid).2
  have hcounts : (readyPlan args (expandedTrials args profileOf) summary).checkCounts = .ok () :=
    checkCounts_expanded h rfl hsummary
  have hmetadata :
      (readyPlan args (expandedTrials args profileOf) summary).checkMetadata = .ok () :=
    checkMetadata_expanded h hprofiles rfl hsummary
  have hkeys : ((expandedTrials args profileOf).map (·.trialIdentity.key)).Nodup ↔
      KeysApart args.spec := by
    rw [keys_expanded h]
    exact nodup_keys_iff hspec
  rw [RunPlan.errors_eq_nil, RunPlan.validatePlan_eq_ok rfl, ← hkeys]
  constructor
  · rintro ⟨-, -, hparts⟩
    exact hparts.keys
  · intro hunique
    exact ⟨htrials, hvalid, ⟨h.plan, hne, hordinals, hids, hunique, hrun, hfamilies, hcounts,
      hmetadata⟩⟩

end Trials

/-! ## The main result -/

/-- The expansion returns a ready plan with the combinations of the grid in order, ordinals from
one on, and different keys. -/
def Expands (args : PlanArguments) : Prop :=
  ∃ plan, planRun args = .ok plan ∧ plan.errors = [] ∧ plan.state = .ready ∧
    plan.trials.map PlannedTrial.combination = grid args.spec ∧
    plan.trials.map (fun trial => (trial.ordinal : ℕ)) = List.range' 1 plan.trials.length ∧
    (plan.trials.map (·.trialIdentity.key)).Nodup

/-- **Expansion of a valid condition.** Given arguments that belong together, `plan_run` returns
the whole grid as a ready plan when and only when no two pairs of a task and an agent condition
join to one key. -/
theorem expands_iff {args : PlanArguments} (h : args.Matches) :
    Expands args ↔ KeysApart args.spec := by
  have hspec := ResolvedRunSpec.parts h.spec
  have hchosen : ∀ release, ∃ profile, release ∈ args.spec.taskReleases →
      ProfileOf args release profile := by
    intro release
    by_cases hrelease : release ∈ args.spec.taskReleases
    · obtain ⟨profile, hprofile⟩ := h.profiles release hrelease
      exact ⟨profile, fun _ => hprofile⟩
    · obtain ⟨other, hother⟩ := List.exists_mem_of_ne_nil _ hspec.releases
      obtain ⟨profile, -⟩ := h.profiles other hother
      exact ⟨profile, fun hmem => absurd hmem hrelease⟩
  choose profileOf hprofiles using hchosen
  have hlength : 0 < (expandedTrials args profileOf).length := by
    rw [expandedTrials, Loops.length_numbered]
    exact grid_pos hspec
  obtain ⟨summary, hsummarise, hvalid, hsummary⟩ := exists_summary h hlength
  have hcover : ∀ release ∈ args.spec.taskReleases,
      release.taskIdentity.id ∈ args.taskProfiles.map Prod.fst := fun release hrelease =>
    List.mem_map.mpr ⟨_, (hprofiles release hrelease).mem, rfl⟩
  have hrun : ∀ plan, planRun args = .ok plan ↔
      (readyPlan args (expandedTrials args profileOf) summary).errors = [] ∧
        readyPlan args (expandedTrials args profileOf) summary = plan := by
    intro plan
    rw [planRun, require_bind_eq_ok, require_bind_eq_ok]
    simp only [bind_eq_ok]
    constructor
    · rintro ⟨-, -, trials, htrials, summary', hsummary', hplan⟩
      rw [planTrials_eq h hprofiles, Except.ok.injEq] at htrials
      obtain rfl : expandedTrials args profileOf = trials := htrials
      rw [hsummarise, Except.ok.injEq] at hsummary'
      obtain rfl := hsummary'
      exact construct_eq_ok.mp hplan
    · intro hplan
      exact ⟨h.createdAt, ⟨h.known, hcover⟩, _, planTrials_eq h hprofiles, summary, hsummarise,
        construct_eq_ok.mpr hplan⟩
  rw [← errors_readyPlan_iff h hprofiles hvalid hsummary]
  constructor
  · rintro ⟨plan, hplan, -⟩
    exact ((hrun plan).mp hplan).1
  · intro hplan
    have hparts := (RunPlan.errors_eq_nil.mp hplan).2.2
    rw [RunPlan.validatePlan_eq_ok rfl] at hparts
    exact ⟨_, (hrun _).mpr ⟨hplan, rfl⟩, hplan, rfl, combinations_expanded args _, hparts.ordinals,
      hparts.keys⟩

/-! ## Two tasks and two agent conditions with one key -/

namespace Colliding

/-- Ids with two digits that differ. -/
def idText (n : ℕ) : String := "01890000-0000-7000-8000-0000000000" ++ Text.padded 2 n

lemma idText_zero_valid : isUuid7 (idText 0) = true := by decide +kernel

def idOf (n : ℕ) : EntityId :=
  if h : isUuid7 (idText n) = true then ⟨idText n, h⟩ else ⟨idText 0, idText_zero_valid⟩

/-- A key, or `a` in place of a text that is none. -/
def key (text : String) : EntityKey :=
  if h : keyChars true text.toList = true then ⟨text, h⟩ else ⟨"a", by decide⟩

def identity (n : ℕ) (text : String) : EntityIdentity := .plain (idOf n) (key text) 1

def release (n : ℕ) (task : String) : TaskSnapshotRef where
  taskIdentity := identity n task
  source := .repository "0123456789012345678901234567890123456789" ("tasks/" ++ task)

def condition (n : ℕ) (name : String) : AgentCondition where
  identity := identity n name
  adapter := "direct"
  model := "model"

def profile (release : TaskSnapshotRef) : TaskPlanningProfile where
  metadata := { identity := release.taskIdentity, lifecycle := .active, visibility := .public }
  executionFamily := .artifact
  familyRelease := none

/-- The arguments for some tasks and agent conditions, once each. -/
def arguments (releases : List TaskSnapshotRef) (conditions : List AgentCondition) :
    PlanArguments where
  spec :=
    { experimentIdentity := identity 90 "experiment"
      runIdentity := identity 91 "run"
      createdAt := 0
      taskReleases := releases
      agentConditions := conditions
      compute := { backend := "docker" }
      repetitions := 1
      visibility := [.public] }
  planIdentity := identity 92 "plan"
  createdAt := 0
  taskProfiles := releases.map fun release => (release.taskIdentity.id, profile release)
  validateCombination _ _ _ := .ok ()
  makeTrialIdentity n key := .plain (idOf n) key 1

lemma profile_valid (release : TaskSnapshotRef) : (profile release).errors = [] := by
  rw [TaskPlanningProfile.errors, record_eq_nil]
  exact ⟨by simp, rfl⟩

lemma idOf_ne : ∀ m < 4, ∀ n < 4, m ≠ n → idOf m ≠ idOf n := by decide +kernel

lemma plan_ne_run : idOf 92 ≠ idOf 91 := by decide +kernel

variable {releases : List TaskSnapshotRef} {conditions : List AgentCondition}

lemma keys_arguments : (arguments releases conditions).taskProfiles.map Prod.fst =
    releases.map (·.taskIdentity.id) := by
  simp [arguments, List.map_map, Function.comp_def]

lemma profileOf_arguments {release : TaskSnapshotRef} (hrelease : release ∈ releases) :
    ProfileOf (arguments releases conditions) release (profile release) where
  mem := List.mem_map.mpr ⟨release, hrelease, rfl⟩
  valid := profile_valid release
  identity := rfl
  visibility := List.mem_singleton.mpr rfl

lemma id_arguments (n : ℕ) (key : EntityKey) :
    ((arguments releases conditions).makeTrialIdentity n key).id = idOf n := by
  simp only [arguments, EntityIdentity.plain]

/-- Arguments of at most four trials belong together when their condition is valid. -/
lemma matches_arguments (hspec : (arguments releases conditions).spec.errors = [])
    (hsmall : (grid (arguments releases conditions).spec).length ≤ 4) :
    (arguments releases conditions).Matches where
  spec := hspec
  createdAt := le_refl _
  plan := plan_ne_run
  keyed := by
    rw [Table.Keyed, keys_arguments]
    exact (ResolvedRunSpec.parts hspec).taskIdentities
  known := by
    intro entry hentry
    obtain ⟨release, hrelease, rfl⟩ := List.mem_map.mp hentry
    exact List.mem_map.mpr ⟨release, hrelease, rfl⟩
  profiles release hrelease := ⟨profile release, profileOf_arguments hrelease⟩
  accepts _ _ _ _ _ _ := rfl
  extensions := ⟨List.nodup_nil, fun _ he => absurd he List.not_mem_nil⟩
  keeps _ _ := rfl
  fresh m hm n hn _ _ hmn := by
    rw [id_arguments, id_arguments]
    exact idOf_ne m (by omega) n (by omega) hmn

/-- One task and one agent condition. -/
def single : PlanArguments := arguments [release 1 "a"] [condition 2 "b"]

/-- Two tasks and two agent conditions of which two pairs join to `a__b__c`. -/
def colliding : PlanArguments :=
  arguments [release 1 "a", release 2 "a__b"] [condition 3 "b__c", condition 4 "c"]

end Colliding

/-- One task and one agent condition. -/
theorem expands_single : Expands Colliding.single ↔ KeysApart Colliding.single.spec :=
  expands_iff (Colliding.matches_arguments (by decide +kernel) (by decide +kernel))

/-- **A valid condition that is not expanded**: `a` with `b__c` and `a__b` with `c` have one key. -/
theorem not_expands_colliding : Colliding.colliding.Matches ∧ ¬ Expands Colliding.colliding := by
  refine ⟨Colliding.matches_arguments (by decide +kernel) (by decide +kernel), ?_⟩
  rintro ⟨plan, hplan, -⟩
  have hfails : (planRun Colliding.colliding).toOption.isNone = true := by decide +kernel
  rw [hplan] at hfails
  exact absurd hfails Bool.false_ne_true

end AecBench.Contracts
