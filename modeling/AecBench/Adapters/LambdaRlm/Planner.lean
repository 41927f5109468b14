import Mathlib.Analysis.SpecialFunctions.Log.Basic
import Mathlib.Analysis.SpecialFunctions.Sqrt
import AecBench.Templates.Report.Schema

/-!
# The execution planner of the lambda-RLM adapter

The planner orders the sections of a report by their dependencies, leaves the external ones out,
and decides for each source of a section how many leaf extractions it takes.

## Main definitions

* `SourceDocs`, `PlannerConfig` — what the planner is given.
* `computePlanParams` — the branching factor, the chunk size and the depth for a source.
* `topologicalSort`, `buildExecutionPlan` — the order of the sections and the plan.

## Main results

* `leafOps_eq_nil`, `length_leafOps` — when a source has leaf operations, and how many.
-/

namespace AecBench.LambdaRlm

open Templates.Report

/-! ### Inputs and plans -/

/-- The source documents under their labels, in the order of the dictionary. -/
structure SourceDocs where
  entries : List (String × String)
  keyed : Table.Keyed (·.1) entries

/-- A configuration that `validate_lambda_config` lets pass. -/
structure PlannerConfig where
  contextWindowChars : ℕ
  maxBranchingFactor : ℕ
  window_pos : 0 < contextWindowChars
  two_le_branching : 2 ≤ maxBranchingFactor

/-- The defaults of the configuration. -/
def PlannerConfig.default : PlannerConfig where
  contextWindowChars := 100000
  maxBranchingFactor := 20
  window_pos := by decide
  two_le_branching := by decide

inductive CompositionOp where
  | mergeExtractions
  | combineAnalysis
  | concatenate
  | skip
  deriving DecidableEq

/-- `CompositionOp.from_generation_mode`. -/
def CompositionOp.fromGenerationMode (mode : String) : CompositionOp :=
  if mode = "creative" then combineAnalysis
  else if mode = "boilerplate" then concatenate
  else if mode = "external" then skip
  else mergeExtractions

structure LeafOp where
  source : String
  chunkIndex : ℕ
  totalChunks : ℕ

structure ReduceOp where
  source : String
  inputsCount : ℕ

structure SectionPlan where
  sectionId : String
  generationMode : String
  sources : List String
  leafOps : List LeafOp
  reduceOps : List ReduceOp
  compositionOp : CompositionOp
  estimatedLeafCalls : ℕ
  estimatedReduceCalls : ℕ

structure ExecutionPlan where
  sectionOrder : List String
  sectionPlans : List (String × SectionPlan)
  skippedSections : List String

/-! ### Sources -/

/-- The document of a label. -/
def SourceDocs.get (docs : SourceDocs) (label : String) : Option (String × String) :=
  Table.lookup (·.1) label docs.entries

/-- The document a label names: the document of this label, or that of its part before a colon. -/
def SourceDocs.named (docs : SourceDocs) (label : String) : Option (String × String) :=
  (docs.get label).or
    (if ':' ∈ label.toList then docs.get (String.ofList (label.toList.takeWhile (· ≠ ':')))
    else none)

/-- The documents with `key.startswith(label) or label.startswith(key)`. -/
def SourceDocs.prefixMatches (docs : SourceDocs) (label : String) : List (String × String) :=
  docs.entries.filter fun entry =>
    label.toList <+: entry.1.toList ∨ entry.1.toList <+: label.toList

/-- `_resolve_source` of the planner: without a document that is named, the first that matches. -/
def resolveSource (docs : SourceDocs) (label : String) : String :=
  match (docs.named label).or (docs.prefixMatches label).head? with
  | some entry => entry.2
  | none => ""

/-- `compute_plan_params`: the branching factor, the largest chunk and the depth. -/
noncomputable def computePlanParams (config : PlannerConfig) (sourceSizeChars : ℕ) : ℕ × ℕ × ℕ :=
  if sourceSizeChars ≤ config.contextWindowChars then (1, config.contextWindowChars, 0)
  else
    let ratio : ℝ := sourceSizeChars / config.contextWindowChars
    let kStar := max (min ⌈√ratio⌉₊ config.maxBranchingFactor) 2
    (kStar, config.contextWindowChars, max ⌈Real.log ratio / Real.log kStar⌉₊ 1)

/-- The number of chunks that are planned for a text. -/
noncomputable def totalChunks (config : PlannerConfig) (text : String) : ℕ :=
  let (kStar, _, depth) := computePlanParams config text.length
  if depth = 0 then 1 else kStar ^ depth

/-- The leaf operations of one source. -/
noncomputable def leafOps (docs : SourceDocs) (config : PlannerConfig) (label : String) :
    List LeafOp :=
  let text := resolveSource docs label
  if text = "" then []
  else
    let total := totalChunks config text
    (List.range total).map fun index => ⟨label, index, total⟩

/-- The reduce operation of a source that is chunked. -/
noncomputable def reduceOps (docs : SourceDocs) (config : PlannerConfig) (label : String) :
    List ReduceOp :=
  let text := resolveSource docs label
  if text = "" ∨ (computePlanParams config text.length).2.2 = 0 then []
  else [⟨label, totalChunks config text⟩]

/-! ### The order of the sections -/

/-- `sec.generation_mode or "transform"`. -/
def modeOf (item : TreeSection) : String :=
  if item.generationMode.getD "" = "" then "transform" else item.generationMode.getD ""

/-- The section is not planned. -/
def Skipped (item : TreeSection) : Prop :=
  CompositionOp.fromGenerationMode (modeOf item) = .skip

instance : DecidablePred Skipped := fun _ => inferInstanceAs (Decidable (_ = _))

/-- `in_degree[id]` before the first round: a dependency counts as often as it is given. -/
def inDegree (schema : DependencyTreeSchema) (id : String) : ℕ :=
  (schema.dependencies id).countP (· ∈ schema.ids)

/-- `dependents[dep]`: a section as often as it gives the dependency. -/
def dependents (schema : DependencyTreeSchema) (dep : String) : List String :=
  schema.sections.flatMap fun item => List.replicate (item.dependsOn.count dep) item.id

/-- One dependent of the current section has one dependency less to wait for. -/
def release (waiting : (String → ℕ) × List String) (dependent : String) :
    (String → ℕ) × List String :=
  let inDegree := Function.update waiting.1 dependent (waiting.1 dependent - 1)
  (inDegree, if inDegree dependent = 0 then waiting.2 ++ [dependent] else waiting.2)

/-- The loop of `_topological_sort`; every section is taken from the queue at most once. -/
def sortLoop (schema : DependencyTreeSchema) :
    ℕ → (String → ℕ) × List String → List TreeSection → List TreeSection
  | 0, _, result => result
  | fuel + 1, (inDegree, queue), result =>
    match queue.insertionSort (· ≤ ·) with
    | [] => result
    | current :: queue =>
      sortLoop schema fuel ((dependents schema current).foldl release (inDegree, queue))
        (result ++ (schema.sectionOf current).toList)

/-- `_topological_sort`. -/
def topologicalSort (schema : DependencyTreeSchema) : List TreeSection :=
  sortLoop schema schema.sections.length
    (inDegree schema, schema.ids.filter fun id => inDegree schema id = 0) []

/-! ### The plan -/

/-- The plan of one section. -/
noncomputable def sectionPlan (docs : SourceDocs) (config : PlannerConfig) (item : TreeSection) :
    SectionPlan :=
  let leaves := item.inputMapping.flatMap (leafOps docs config)
  let reduces := item.inputMapping.flatMap (reduceOps docs config)
  { sectionId := item.id
    generationMode := modeOf item
    sources := item.inputMapping
    leafOps := leaves
    reduceOps := reduces
    compositionOp := CompositionOp.fromGenerationMode (modeOf item)
    estimatedLeafCalls := leaves.length
    estimatedReduceCalls := reduces.length }

/-- `build_execution_plan` of the sections of a schema. -/
noncomputable def buildExecutionPlan (schema : DependencyTreeSchema) (docs : SourceDocs)
    (config : PlannerConfig) : ExecutionPlan :=
  let ordered := topologicalSort schema
  let skipped := (ordered.filter fun item => Skipped item).map (·.id)
  { sectionOrder := (ordered.map (·.id)).filter (· ∉ skipped)
    sectionPlans := (ordered.filter fun item => ¬ Skipped item).map fun item =>
      (item.id, sectionPlan docs config item)
    skippedSections := skipped }

/-! ### Planned chunks -/

section Chunks

variable {docs : SourceDocs} {config : PlannerConfig} {label text : String}

lemma ratio_le_pow {ratio : ℝ} (hratio : 0 < ratio) {k depth : ℕ} (hk : 2 ≤ k)
    (hdepth : ⌈Real.log ratio / Real.log k⌉₊ ≤ depth) : ratio ≤ (k : ℝ) ^ depth := by
  have hk' : (1 : ℝ) < k := by exact_mod_cast hk
  have hlog : Real.log ratio ≤ depth * Real.log k :=
    (div_le_iff₀ (Real.log_pos hk')).mp (Nat.ceil_le.mp hdepth)
  rw [← Real.log_pow] at hlog
  exact (Real.log_le_log_iff hratio (by positivity)).mp hlog

lemma length_le_totalChunks_mul (h : config.contextWindowChars < text.length) :
    2 ≤ totalChunks config text ∧
      text.length ≤ totalChunks config text * config.contextWindowChars := by
  have hwindow : (0 : ℝ) < config.contextWindowChars := by exact_mod_cast config.window_pos
  simp only [totalChunks, computePlanParams, if_neg (not_le.mpr h)]
  set ratio : ℝ := text.length / config.contextWindowChars with hratio
  set k := max (min ⌈√ratio⌉₊ config.maxBranchingFactor) 2
  set depth := max ⌈Real.log ratio / Real.log k⌉₊ 1
  have hk : 2 ≤ k := le_max_right _ _
  have hdepth : depth ≠ 0 := (Nat.lt_of_lt_of_le Nat.one_pos (le_max_right _ _)).ne'
  have hpos : 0 < ratio := div_pos (by exact_mod_cast config.window_pos.trans h) hwindow
  have hcover : ratio ≤ (k : ℝ) ^ depth := ratio_le_pow hpos hk (le_max_left _ _)
  rw [if_neg hdepth]
  refine ⟨hk.trans (Nat.le_self_pow hdepth k), ?_⟩
  rw [hratio, div_le_iff₀ hwindow] at hcover
  exact_mod_cast hcover

lemma length_leafOps (h : resolveSource docs label ≠ "") :
    (leafOps docs config label).length = totalChunks config (resolveSource docs label) := by
  simp [leafOps, h]

lemma totalChunks_pos (config : PlannerConfig) (text : String) : 0 < totalChunks config text := by
  by_cases h : config.contextWindowChars < text.length
  · exact Nat.lt_of_lt_of_le Nat.two_pos (length_le_totalChunks_mul h).1
  · simp [totalChunks, computePlanParams, not_lt.mp h]

lemma leafOps_eq_nil : leafOps docs config label = [] ↔ resolveSource docs label = "" := by
  refine ⟨fun hnil => ?_, fun hempty => by simp [leafOps, hempty]⟩
  by_contra hne
  have hlength : (leafOps docs config label).length = _ := length_leafOps hne
  rw [hnil] at hlength
  exact (totalChunks_pos config _).ne hlength

end Chunks

end AecBench.LambdaRlm
