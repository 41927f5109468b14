import AecBench.Evolution.Session.World

/-!
# The scratch workspace of a session

Reading and writing skills, snapshots, the edits of a command, and the sanitiser that runs after
them.

## Main definitions

* `Workspace.listSkills`, `Workspace.exportSnapshot` — what the files read back as.
* `applySnapshot`, `exportSnapshot` — replacing and exporting the material.
* `applyMutations` — the edits of a command.
* `sanitiseWorkspace` — the limits on skills and prompts.
-/

namespace AecBench.Evolution.Session

open Validation

/-! ## Reading -/

/-- The body of a skill after it is written to its file and read back. -/
def storedBody (body : String) : String :=
  String.ofList ((Text.newlines body.toList).dropWhile (· = '\n'))

namespace Workspace

variable (ws : Workspace)

/-- `list_skills`: every file in the order of the directories, validated. -/
def listSkills : Except String (List SkillEntry) :=
  ws.skills.mapM fun file => construct SkillEntry.errors "SkillEntry" file.entry

/-- `export_snapshot`. -/
def exportSnapshot (candidateId : String) : Except String WorkspaceSnapshot := do
  let skills ← ws.listSkills
  construct WorkspaceSnapshot.errors "WorkspaceSnapshot"
    { systemPrompt := ws.prompt, skills, candidateId }

/-- Write the prompt. -/
def withPrompt (content : String) : Workspace := { ws with prompt := Text.readBack content }

/-- Write the file of a skill in the directory of its name. -/
def withSkill (skill : SkillEntry) : Workspace :=
  let file : SkillFile := ⟨skill.name, { skill with body := storedBody skill.body }⟩
  { ws with
    skills := (ws.skills.filter (·.directory ≠ skill.name)).orderedInsert
      (fun a b => a.directory ≤ b.directory) file }

/-- Remove a directory. -/
def without (directory : String) : Workspace :=
  { ws with skills := ws.skills.filter (·.directory ≠ directory) }

end Workspace

/-- Change the scratch workspace. -/
def updateScratch (f : Workspace → Workspace) : Method Unit :=
  updateAttributes fun a => { a with scratch := f a.scratch }

def getScratch : Method Workspace := do
  let session ← getSession
  return session.attributes.scratch

def listSkills : Method (List SkillEntry) := do
  let ws ← getScratch
  ofExcept ws.listSkills

def readPrompt : Method String := do
  let ws ← getScratch
  return ws.prompt

def writePrompt (content : String) : Method Unit := updateScratch fun ws => ws.withPrompt content

/-- An access outside the modelled part of the file system, with its own errors. -/
def accessOutside (access : OutsideAccess) : Method (Option SkillEntry) :=
  Program.perform () (.outside access)

def readSkill (name : String) : Method (Option SkillEntry) :=
  if PlainSegment name then do
    let ws ← getScratch
    match ws.skills.find? (·.directory = name) with
    | none => return none
    | some file => do
      let entry ← ofExcept (construct SkillEntry.errors "SkillEntry" file.entry)
      return some entry
  else accessOutside (.read name)

def writeSkill (skill : SkillEntry) : Method Unit :=
  if PlainSegment skill.name then updateScratch fun ws => ws.withSkill skill
  else do
    let _ ← accessOutside (.write skill)

def deleteSkill (name : String) : Method Unit :=
  if PlainSegment name then updateScratch fun ws => ws.without name
  else do
    let _ ← accessOutside (.delete name)

/-- Run `body` on every item of a list, in order. -/
def forEach {α : Type} (body : α → Method Unit) : List α → Method Unit
  | [] => return ()
  | x :: xs => do
    body x
    forEach body xs

/-! ## Snapshots -/

def exportSnapshot (candidateId : String) : Method WorkspaceSnapshot := do
  let ws ← getScratch
  ofExcept (ws.exportSnapshot candidateId)

def applySnapshot (snapshot : WorkspaceSnapshot) : Method Unit := do
  let skills ← listSkills
  forEach (fun skill : SkillEntry => deleteSkill skill.name) skills
  writePrompt snapshot.systemPrompt
  forEach writeSkill snapshot.skills

/-! ## Edits -/

/-- Construct a skill entry and write it. -/
def constructSkill (name : String) (description : Option String) (discipline : Option String)
    (body : Option String) : Method Unit := do
  let skill ← ofExcept (construct SkillEntry.errors "SkillEntry"
    { name, description := description.getD "", discipline, body := body.getD "" })
  writeSkill skill

/-- One round of `apply_mutations`, without the summary, which sessions do not use. -/
def applyMutation (action : MutationInput) : Method Unit :=
  let name := action.skillName.getD ""
  match action.actionType with
  | .writeSkill => do
    let _ ← readSkill name
    constructSkill name action.skillDescription action.skillDiscipline action.skillBody
  | .modifySkill => do
    let existing ← readSkill name
    constructSkill name
      (action.skillDescription.or (existing.map (·.description)))
      (action.skillDiscipline.or (existing.bind (·.discipline))) action.skillBody
  | .deleteSkill => do
    let existing ← readSkill name
    if existing = none then return () else deleteSkill name
  | .modifyPrompt => writePrompt (action.promptContent.getD "")

def applyMutations (actions : List MutationInput) : Method Unit := forEach applyMutation actions

/-! ## The sanitiser -/

def compactionTargetChars : ℕ := 4000

def minSkillBodyChars : ℕ := 20

def maxPromptChars : ℕ := 4000

/-- The first characters of a text. -/
def truncated (limit : ℕ) (text : String) : String := String.ofList (text.toList.take limit)

/-- `_determine_compaction_mode`: a body of at most one and a half times the target is
preserved. -/
def determineCompactionMode (length budget : ℕ) : CompactionMode :=
  if (length : ℚ) / budget ≤ 3 / 2 then .preserve else .summarise

/-- `_jaccard_similarity` of two sets of words, as lists without repetition. -/
def jaccardSimilarity (a b : List String) : ℚ :=
  if a = [] ∧ b = [] then 1
  else ((a.filter (· ∈ b)).length : ℚ) / (a ++ b.filter (· ∉ a)).length

/-- Step 1: remove the skills with a trivially short body. -/
def removeTrivialSkills : Method Unit := do
  let skills ← listSkills
  forEach (fun skill : SkillEntry =>
    if skill.body.length < minSkillBodyChars then deleteSkill skill.name else return ()) skills

/-- `compact_skill`. -/
def compactSkill (body : String) : Method String := do
  let answer ← Program.perform ()
    (.compact (determineCompactionMode body.length compactionTargetChars) body)
  match answer with
  | .ok compacted => return compacted
  | .error message => .fail (.other message)

/-- Step 2 for one skill: compact an oversized body, or truncate it when nothing can compact
it. -/
def limitSkill (cfg : SessionConfig) (beforeCompaction : String → Method Unit)
    (skill : SkillEntry) : Method Unit :=
  if compactionTargetChars < skill.body.length then
    if cfg.compaction then do
      beforeCompaction skill.name
      let body ← compactSkill skill.body
      writeSkill { skill with body }
    else writeSkill { skill with body := truncated compactionTargetChars skill.body }
  else return ()

/-- Step 3: remove the skills whose words overlap too much with those of a skill before them. -/
def deduplicate (cfg : SessionConfig) : List (List String) → List SkillEntry → Method Unit
  | _, [] => return ()
  | seen, skill :: rest =>
    let words := (Text.words (cfg.lower skill.body)).eraseDups
    if ∃ kept ∈ seen, 3 / 5 < jaccardSimilarity words kept then do
      deleteSkill skill.name
      deduplicate cfg seen rest
    else deduplicate cfg (seen ++ [words]) rest

/-- Step 4: remove the skills over the budget, the last by name first in line. -/
def enforceSkillBudget : Method Unit := do
  let ws ← getScratch
  let skills ← listSkills
  forEach (fun skill : SkillEntry => deleteSkill skill.name)
    ((skills.insertionSort fun a b => a.name ≤ b.name).drop ws.skillBudget)

/-- Step 5: truncate an oversized prompt. -/
def limitPrompt : Method Unit := do
  let prompt ← readPrompt
  if maxPromptChars < prompt.length then writePrompt (truncated maxPromptChars prompt)
  else return ()

/-- `sanitise_workspace`. -/
def sanitiseWorkspace (cfg : SessionConfig) (beforeCompaction : String → Method Unit) :
    Method Unit := do
  removeTrivialSkills
  let skills ← listSkills
  forEach (limitSkill cfg beforeCompaction) skills
  let skills ← listSkills
  deduplicate cfg [] skills
  enforceSkillBudget
  limitPrompt

end AecBench.Evolution.Session
