import Mathlib.Data.Rat.Defs
import AecBench.Lib.Dependants
import AecBench.Lib.Loops
import AecBench.Lib.Table

/-!
# Report schemas

A report is a list of sections that depend on each other. The schema is validated before a session
is opened over it: ids are unique, fields are of a known type, dependencies are sections of the
report, and they contain no cycle.

## Main definitions

* `DependencyTreeSchema`, `TreeSection`, `OutputField` — the schema.
* `validateReportSchema`, `validateRubric` — the checks of a schema and of the rubric beside it.

## Main results

* `validateReportSchema_eq_ok` — an accepted schema is `DependencyTreeSchema.WellFormed`.
-/

namespace AecBench.Templates.Report

open Validation

/-! ### The schema -/

structure OutputField where
  name : String
  dtype : String
  required : Bool := false

structure TreeSection where
  id : String
  /-- The fields under their keys. -/
  fields : List (String × OutputField) := []
  dependsOn : List String := []
  generationMode : Option String := none
  inputMapping : List String := []
  /-- The keys of `source_priority`. -/
  sourcePriority : List String := []

structure DependencyTreeSchema where
  sections : List TreeSection

/-- The keys of `FIELD_TYPES`. -/
def fieldTypes : List String := ["str", "int", "float", "bool", "list", "dict", "table"]

def generationModes : List String :=
  ["transform", "guided", "prose", "compose", "verbatim", "creative", "boilerplate", "external"]

namespace DependencyTreeSchema

variable (schema : DependencyTreeSchema)

def ids : List String := schema.sections.map (·.id)

/-- The section of an id, in `{s.id: s for s in schema.sections}`. -/
def sectionOf (sectionId : String) : Option TreeSection :=
  Table.lookup (·.id) sectionId schema.sections

/-- `sections[section_id].depends_on`. -/
def dependencies (sectionId : String) : List String :=
  (schema.sectionOf sectionId).elim [] (·.dependsOn)

end DependencyTreeSchema

/-- The checks of one section against the ids of all sections. -/
def validateSectionSchema (ids : List String) (item : TreeSection) : Except String Unit := do
  require (item.id ≠ "") "Report section ID cannot be empty"
  require (∀ mode ∈ item.generationMode, mode ∈ generationModes)
    ("Unsupported generation mode: " ++ item.generationMode.getD "None")
  item.fields.forM fun (name, spec) =>
    require (name ≠ "" ∧ name = spec.name ∧ spec.dtype ∈ fieldTypes)
      ("Invalid field definition: " ++ item.id ++ "." ++ name ++ " (" ++ spec.dtype ++ ")")
  item.dependsOn.forM fun dep =>
    require (dep ∈ ids) ("Unknown dependency: " ++ item.id ++ " -> " ++ dep)
  require (∀ source ∈ item.sourcePriority, source ∈ item.inputMapping)
    ("Source priority refers to an unmapped source in " ++ item.id)

/-- `sorted(...)` of a set of names. -/
def sortedNames (names : List String) : List String := names.insertionSort (· ≤ ·)

/-- `validate_report_schema(schema)`. -/
def validateReportSchema (schema : DependencyTreeSchema) : Except String Unit := do
  require schema.ids.Nodup "Duplicate report section IDs"
  schema.sections.forM (validateSectionSchema schema.ids)
  (Dependants.peel schema.dependencies schema.ids.length schema.ids).mapError fun pending =>
    "Cyclic report dependencies: " ++ ", ".intercalate (sortedNames pending)

/-! ### The rubric -/

structure RubricCriterion where
  text : String
  category : String

/-- A dimension of a rubric; a number that is not finite is `none`. -/
structure RubricDimension where
  id : String
  weight : Option ℚ
  maxScore : Option ℚ
  evalMethod : String
  criteria : List RubricCriterion := []
  evalSections : List String := []

structure Rubric where
  dimensions : List RubricDimension
  rollupStrategy : String := "weighted_mean"

/-- The checks of one dimension; the ids of the dimensions before it go along. -/
def validateDimension (sectionIds : List String) (ids : List String) (dim : RubricDimension) :
    Except String (List String) := do
  require (dim.id ≠ "" ∧ dim.id ∉ ids) ("Invalid or duplicate rubric dimension: " ++ dim.id)
  require ((∃ weight ∈ dim.weight, 0 ≤ weight) ∧ ∃ maxScore ∈ dim.maxScore, 0 < maxScore)
    ("Invalid rubric numeric bounds: " ++ dim.id)
  require (dim.evalMethod ∈ ["automated", "llm_judge"])
    ("Unsupported rubric method: " ++ dim.evalMethod)
  require (∀ sectionId ∈ dim.evalSections, sectionId ∈ sectionIds)
    ("Unknown rubric sections in " ++ dim.id)
  require (∀ criterion ∈ dim.criteria,
      criterion.category ∈ ["essential", "important", "optional"] ∧ ¬ Text.Blank criterion.text)
    ("Invalid rubric criterion in " ++ dim.id)
  return ids ++ [dim.id]

/-- `validate_rubric(schema, rubric)`. -/
def validateRubric (schema : DependencyTreeSchema) (rubric : Option Rubric) : Except String Unit :=
  match rubric with
  | none => .ok ()
  | some rubric => do
    require (rubric.rollupStrategy ∈ ["weighted_mean", "min"])
      ("Unsupported rubric rollup: " ++ rubric.rollupStrategy)
    let _ ← rubric.dimensions.foldlM (validateDimension schema.ids) []
    return ()

/-! ### Accepted schemas -/

/-- What the checks of a schema find out. -/
structure DependencyTreeSchema.WellFormed (schema : DependencyTreeSchema) : Prop where
  keyed : Table.Keyed (·.id) schema.sections
  known : ∀ item ∈ schema.sections, ∀ dep ∈ item.dependsOn, dep ∈ schema.ids
  ranked : ∃ rank, Dependants.Ranked schema.dependencies schema.ids rank

/-- **An accepted schema** has unique ids, known dependencies, and no cycle. -/
theorem validateReportSchema_eq_ok {schema : DependencyTreeSchema}
    (h : validateReportSchema schema = .ok ()) : schema.WellFormed := by
  simp only [validateReportSchema, unit_bind_eq_ok, require_eq_ok, Loops.forM_eq_ok,
    mapError_eq_ok] at h
  obtain ⟨hkeyed, hsections, hpeel⟩ := h
  refine ⟨hkeyed, ?_, Dependants.exists_ranked_of_peel hpeel⟩
  intro item hitem dep hdep
  have hchecks := hsections item hitem
  simp only [validateSectionSchema, unit_bind_eq_ok, Loops.forM_eq_ok, require_eq_ok] at hchecks
  exact hchecks.2.2.2.1 dep hdep

section WellFormed

variable {schema : DependencyTreeSchema}

lemma DependencyTreeSchema.WellFormed.dependencies_eq (h : schema.WellFormed) {item : TreeSection}
    (hitem : item ∈ schema.sections) : schema.dependencies item.id = item.dependsOn := by
  rw [dependencies, sectionOf, Table.Keyed.lookup_of_mem h.keyed hitem]
  rfl

lemma DependencyTreeSchema.mem_ids {sectionId : String} :
    sectionId ∈ schema.ids ↔ ∃ item ∈ schema.sections, item.id = sectionId := by
  simp [ids]

end WellFormed

end AecBench.Templates.Report
