import AecBench.Lib.Validation
import Mathlib.Data.List.Sort

/-!
# Structured memory of variation calls

The bounded facts a variation call keeps about its evaluations, and the rule that selects which
of them are retained.

## Main definitions

* `AVOMemoryEntry`, `AVOMemoryEntry.check` — one fact and what its constructor checks.
* `validateMemoryEntries` — no two facts have one source.
* `retainMemory` — the facts that are kept when there are more than the limit.
-/

namespace AecBench.Evolution

open Validation

/-- `_require_text`. -/
def requireText (value fieldName : String) : Except String Unit :=
  require (¬ Text.Blank value) s!"{fieldName} must not be blank"

@[simp] lemma requireText_eq_ok {value fieldName : String} {u : Unit} :
    requireText value fieldName = .ok u ↔ ¬ Text.Blank value := require_eq_ok

/-- The number of facts one session retains at most. -/
def avoMemoryLimit : ℕ := 24

inductive AVOMemoryOutcome
  | improved
  | notImproved
  | invalid
  | evaluationError
  deriving DecidableEq

structure AVOMemoryEntry where
  sourceVariationId : String
  sourceAttemptId : String
  hypothesis : String
  changeSummary : String
  evidenceSummary : String
  outcome : AVOMemoryOutcome
  failureCategory : Option String := none
  nextDirection : Option String := none
  deriving DecidableEq

/-- What the constructor of a memory entry checks. -/
def AVOMemoryEntry.check (entry : AVOMemoryEntry) : Except String Unit := do
  requireText entry.sourceVariationId "source_variation_id"
  requireText entry.sourceAttemptId "source_attempt_id"
  requireText entry.hypothesis "hypothesis"
  requireText entry.changeSummary "change_summary"
  requireText entry.evidenceSummary "evidence_summary"
  entry.failureCategory.elim (.ok ()) fun value => requireText value "failure_category"
  entry.nextDirection.elim (.ok ()) fun value => requireText value "next_direction"

/-- The source of a fact: two facts about one attempt have the same identity. -/
def AVOMemoryEntry.identity (entry : AVOMemoryEntry) : String × String :=
  (entry.sourceVariationId, entry.sourceAttemptId)

def validateMemoryEntries (entries : List AVOMemoryEntry) : Except String (List AVOMemoryEntry) := do
  require (entries.map AVOMemoryEntry.identity).Nodup
    "memory source variation and attempt IDs must be unique"
  return entries

lemma validateMemoryEntries_eq_ok {entries values : List AVOMemoryEntry} :
    validateMemoryEntries entries = .ok values ↔
      (entries.map AVOMemoryEntry.identity).Nodup ∧ entries = values := by
  rw [validateMemoryEntries, require_bind_eq_ok, pure_eq_ok]

/-! ## Retention -/

/-- The loop that adds, newest first, the indices whose failure category is new, until `limit`
indices are selected. -/
def selectFailureCategories (values : List AVOMemoryEntry) (limit : ℕ) :
    List ℕ → List ℕ → List String → List ℕ
  | [], selected, _ => selected
  | index :: rest, selected, categories =>
    match (values[index]?).bind AVOMemoryEntry.failureCategory with
    | none => selectFailureCategories values limit rest selected categories
    | some category =>
      if category ∈ categories then selectFailureCategories values limit rest selected categories
      else
        let selected := selected.insert index
        if limit ≤ selected.length then selected
        else selectFailureCategories values limit rest selected (category :: categories)

/-- The loop that adds, newest first, the indices not yet selected, until `limit` are. -/
def selectNewest (limit : ℕ) : List ℕ → List ℕ → List ℕ
  | [], selected => selected
  | index :: rest, selected =>
    if index ∈ selected then selectNewest limit rest selected
    else if limit ≤ selected.length + 1 then selected ++ [index]
    else selectNewest limit rest (selected ++ [index])

/-- The indices of `values` that are retained when there are more than `limit`. -/
def retainedIndices (values : List AVOMemoryEntry) (bestAttemptId : Option String) (limit : ℕ) :
    List ℕ :=
  let newestFirst := (List.range values.length).reverse
  let bestIndices := bestAttemptId.elim [] fun best =>
    (List.range values.length).filter fun i => (values[i]?).map (·.sourceAttemptId) = some best
  let selected := bestIndices.drop (bestIndices.length - limit)
  let categories := selected.filterMap fun i => (values[i]?).bind AVOMemoryEntry.failureCategory
  let selected := selectFailureCategories values limit newestFirst selected categories
  let successful := newestFirst.find? fun i =>
    i ∉ selected ∧ (values[i]?).map (·.outcome) = some .improved
  let selected :=
    if selected.length < limit then successful.elim selected fun i => selected ++ [i] else selected
  if selected.length < limit then selectNewest limit newestFirst selected else selected

/-- The facts kept, in their order, with the best attempt, the newest of each failure category
and the newest success first in line. -/
def retainMemory (entries : List AVOMemoryEntry) (bestAttemptId : Option String)
    (limit : ℕ := avoMemoryLimit) : Except String (List AVOMemoryEntry) := do
  bestAttemptId.elim (.ok ()) fun best => requireText best "best_attempt_id"
  let values ← validateMemoryEntries entries
  if values.length ≤ limit then return values
  else
    let selected := retainedIndices values bestAttemptId limit
    return ((List.range values.length).filter (· ∈ selected)).filterMap (values[·]?)

end AecBench.Evolution
