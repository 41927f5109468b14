import Mathlib.Data.Int.Log
import Mathlib.Data.Rat.Floor
import AecBench.Evolution.Variation

/-!
# Tools of a variation call

The commands a runner can give, what the tools answer, and the pure functions on candidate
material that they use.

## Main definitions

* `MutationInput`, `normaliseMutations` — the edits a command asks for.
* `AVOCommand`, `ToolResult`, `AVOResponse` — a command, its answer, and the reply of a model.
* `materialChangeCount`, `mutationSummaryForMaterial` — the difference of two materials.
* `memoryEntryForAttempt` — the fact that is remembered of an evaluation.

## Main results

* `mutationSummaryForMaterial_congr` — the difference depends on the material alone.
-/

namespace AecBench.Evolution

open Validation

/-! ## Edits -/

inductive MutationType
  | writeSkill
  | modifySkill
  | deleteSkill
  | modifyPrompt
  deriving DecidableEq

def MutationType.value : MutationType → String
  | writeSkill => "write_skill"
  | modifySkill => "modify_skill"
  | deleteSkill => "delete_skill"
  | modifyPrompt => "modify_prompt"

structure MutationInput where
  actionType : MutationType
  skillName : Option String := none
  skillDescription : Option String := none
  skillDiscipline : Option String := none
  skillBody : Option String := none
  promptContent : Option String := none

def MutationInput.validateActionFields (mutation : MutationInput) : Except String Unit :=
  if mutation.actionType = .modifyPrompt then
    require (mutation.promptContent ≠ none) "modify_prompt requires content"
  else do
    require (mutation.skillName ≠ none) s!"{mutation.actionType.value} requires name"
    require (mutation.actionType = .deleteSkill ∨ mutation.skillBody ≠ none)
      s!"{mutation.actionType.value} requires body"

def MutationInput.errors (mutation : MutationInput) : Errors :=
  record
    [("name", optional nonEmptyStr mutation.skillName),
      ("description", optional nonEmptyStr mutation.skillDescription),
      ("body", optional nonEmptyStr mutation.skillBody),
      ("content", optional nonEmptyStr mutation.promptContent)]
    mutation.validateActionFields

/-- The argument of an edit. -/
inductive MutationArgument
  /-- A mapping, or an action, that is validated when the edit starts. -/
  | fields (mutation : MutationInput)
  /-- Validated inputs, one or a sequence of them. -/
  | inputs (mutations : List (Model MutationInput.errors))
  /-- Anything else. -/
  | malformed

/-- `_normalise_mutations`. -/
def normaliseMutations : MutationArgument → Except String (List MutationInput)
  | .fields mutation => do
    let mutation ← construct MutationInput.errors "MutationInput" mutation
    return [mutation]
  | .inputs mutations => do
    require (mutations ≠ []) "at least one mutation is required"
    return mutations.map Subtype.val
  | .malformed => .error "mutation sequences must contain MutationInput values"

/-! ## Commands and answers -/

inductive AVOTool
  | inspectParentResults
  | inspectCurrentCandidate
  | inspectInspirations
  | inspectPreviousCycles
  | inspectRejectedCandidates
  | readProgramGuidance
  | editCandidate
  | testCandidate
  | restoreCandidate
  | submitCandidate
  | abstain
  | requestAdvice
  deriving DecidableEq

/-- A tool with its arguments. A text argument that is not a text is absent, and so is an
attempt or a revision that is not given. -/
inductive AVOCommand
  /-- A tool without arguments. -/
  | bare (tool : AVOTool)
  | editCandidate (mutation : MutationArgument)
  | testCandidate (hypothesis : Option String)
  | restoreCandidate (attemptId : Option String) (revision : Option ℤ)
  | submitCandidate (reasoning : Option String)
  | abstain (reasoning : Option String)
  /-- A tool with arguments it does not take. -/
  | malformed (tool : AVOTool)

def AVOCommand.tool : AVOCommand → AVOTool
  | bare tool => tool
  | editCandidate _ => .editCandidate
  | testCandidate _ => .testCandidate
  | restoreCandidate _ _ => .restoreCandidate
  | submitCandidate _ => .submitCandidate
  | abstain _ => .abstain
  | malformed tool => tool

/-- The reply of a model: a command, and the usage of the request where it is known. -/
structure AVOResponse where
  command : AVOCommand
  modelCostUsd : Option ℚ≥0 := none
  inputTokens : Option ℕ := none
  outputTokens : Option ℕ := none

structure CandidateEditResult where
  success : Bool
  revision : ℕ
  mutation : Option MutationSummary := none
  message : String := ""

structure CandidateCheckResult where
  success : Bool
  revision : ℕ
  attempt : Option RevisionAttempt := none
  message : String := ""

structure CandidateRestoreResult where
  success : Bool
  revision : ℕ
  snapshot : Option WorkspaceSnapshot := none
  message : String := ""

structure CandidateSubmissionResult where
  success : Bool
  revision : ℕ
  attempt : Option RevisionAttempt := none
  message : String := ""

structure CandidateAbstentionResult where
  terminal : Bool
  message : String

/-- What a tool returns. -/
inductive ToolResult
  | parentResults (parent : EvaluatedCandidate)
  | currentCandidate (snapshot : WorkspaceSnapshot)
  | inspirations (snapshots : List WorkspaceSnapshot)
  /-- The history or the graveyard of the request, handed on as it is. -/
  | records
  | guidance (text : String)
  | edit (result : CandidateEditResult)
  | check (result : CandidateCheckResult)
  | restore (result : CandidateRestoreResult)
  | submission (result : CandidateSubmissionResult)
  | abstention (result : CandidateAbstentionResult)
  | message (text : String)

/-! ## Differences of material -/

/-- The names of the skills of a snapshot, each once. -/
def WorkspaceSnapshot.skillNames (snapshot : WorkspaceSnapshot) : List String :=
  (snapshot.skills.map (·.name)).eraseDups

/-- The skill of a name in the table of skills by name, where a later skill replaces an earlier
one. -/
def WorkspaceSnapshot.skillNamed (snapshot : WorkspaceSnapshot) (name : String) :
    Option SkillEntry :=
  snapshot.skills.reverse.find? (·.name = name)

/-- `_material_change_count`. -/
def materialChangeCount (parent current : WorkspaceSnapshot) : ℕ :=
  let names := parent.skillNames ++ current.skillNames.filter (· ∉ parent.skillNames)
  (if parent.systemPrompt ≠ current.systemPrompt then 1 else 0) +
    (names.filter fun name => parent.skillNamed name ≠ current.skillNamed name).length

/-- `_mutation_summary_for_material`: the difference of the current material from the parent. -/
def mutationSummaryForMaterial (parent current : WorkspaceSnapshot) : MutationSummary :=
  let sorted (names : List String) := names.insertionSort (· ≤ ·)
  { promptModified := parent.systemPrompt ≠ current.systemPrompt
    skillsAdded := sorted (current.skillNames.filter (· ∉ parent.skillNames))
    skillsModified := sorted (parent.skillNames.filter fun name =>
      name ∈ current.skillNames ∧ parent.skillNamed name ≠ current.skillNamed name)
    skillsRemoved := sorted (parent.skillNames.filter (· ∉ current.skillNames)) }

/-! ## Facts about attempts -/

/-- `_change_summary`. -/
def changeSummary (mutation : MutationSummary) : String :=
  let part (label : String) (names : List String) : List String :=
    if names = [] then [] else [label ++ ": " ++ ", ".intercalate names]
  let changes := (if mutation.promptModified then ["system prompt modified"] else []) ++
    part "skills added" mutation.skillsAdded ++ part "skills modified" mutation.skillsModified ++
    part "skills removed" mutation.skillsRemoved
  if changes = [] then "no workspace material change" else "; ".intercalate changes

/-- The nearest integer, and the even one of two that are equally near. -/
def roundHalfEven (x : ℚ) : ℕ :=
  let floor := ⌊x⌋₊
  if x - floor < 1 / 2 ∨ (x - floor = 1 / 2 ∧ floor % 2 = 0) then floor else floor + 1

/-- The number as the format `.6g` writes it. -/
def formatGeneral (x : ℚ) : String :=
  if x = 0 then "0"
  else
    let exponent := Int.log 10 |x|
    let rounded := roundHalfEven (|x| * 10 ^ (5 - exponent))
    let exponent := if rounded = 1000000 then exponent + 1 else exponent
    let digits := (Nat.toDigits 10 rounded).take 6
    let fraction (ds : List Char) : List Char :=
      let kept := (ds.reverse.dropWhile (· = '0')).reverse
      if kept = [] then [] else '.' :: kept
    let body :=
      if 0 ≤ exponent ∧ exponent < 6 then
        digits.take (exponent.toNat + 1) ++ fraction (digits.drop (exponent.toNat + 1))
      else if -4 ≤ exponent ∧ exponent < 0 then
        '0' :: fraction (List.replicate (-exponent - 1).toNat '0' ++ digits)
      else
        digits.take 1 ++ fraction (digits.drop 1) ++
          ['e', if exponent < 0 then '-' else '+'] ++ (Text.padded 2 exponent.natAbs).toList
    (if x < 0 then "-" else "") ++ String.ofList body

/-- `_evidence_summary`. -/
def evidenceSummary (attempt : RevisionAttempt) : String :=
  let assessment := attempt.evaluated.assessment
  let valid := if assessment.valid then "True" else "False"
  s!"valid={valid}; batch_score={formatGeneral assessment.batchScore}; " ++
    s!"evaluation_cases={assessment.evaluationCaseIds.length}; trials={assessment.trialIds.length}"

/-- `_memory_entry_for_attempt`. -/
def memoryEntryForAttempt (variationId : String) (attempt : RevisionAttempt) (improved : Bool) :
    AVOMemoryEntry :=
  let entry (outcome : AVOMemoryOutcome) (failureCategory : Option String)
      (nextDirection : String) : AVOMemoryEntry :=
    { sourceVariationId := variationId
      sourceAttemptId := attempt.attemptId
      hypothesis := attempt.hypothesis
      changeSummary := changeSummary attempt.mutation
      evidenceSummary := evidenceSummary attempt
      outcome := outcome
      failureCategory := failureCategory
      nextDirection := some nextDirection }
  if ¬ attempt.evaluated.assessment.valid then
    entry .invalid (some "invalid_candidate")
      "Correct the invalid result before another evaluation."
  else if improved then
    entry .improved none "Preserve the successful change and test one bounded follow-up."
  else
    entry .notImproved (some "no_improvement") "Try a different bounded change direction."

end AecBench.Evolution
