import AecBench.Evolution.Advice
import AecBench.Evolution.Checkpoint
import AecBench.Evolution.Tools
import AecBench.Lib.Program

/-!
# The world of a session

What a session reads and changes, what it asks of its environment, and the record of everything
that happens, from which the checkpoint file can be read off.

## Main definitions

* `Workspace` — the files of the scratch workspace.
* `SessionConfig` — the fixed attributes of a session.
* `Attributes`, `World` — its mutable attributes, its state, and the record of what happened.
* `RunnerTurn` — the behaviour of a runner during one model request.
* `Op`, `Reply`, `semantics` — the atomic operations of a session and the answers of the
  environment.
* `Method` — the programs of a session; `World.checkpointFile` — the last document written.

## Implementation notes

* A skill whose name is not one plain path segment is read and written outside the part of the
  file system that is modelled. The environment then decides the outcome and what the workspace
  looks like afterwards.
* The clock is read in seconds, as a rational number.
-/

namespace AecBench.Evolution.Session

open Validation

/-! ## The scratch workspace -/

/-- One `SKILL.md` file: the name of its directory, and the entry it reads back as, which is
validated when it is read. -/
structure SkillFile where
  directory : String
  entry : SkillEntry

/-- The scratch workspace: the prompt, the skill files in the order of their directories, and the
budget of its manifest. -/
structure Workspace where
  prompt : String
  skills : List SkillFile := []
  skillBudget : ℕ := 10
  deriving Inhabited

/-- The name is one plain path segment. -/
def PlainSegment (name : String) : Prop :=
  name ≠ "" ∧ name ≠ "." ∧ name ≠ ".." ∧ '/' ∉ name.toList ∧ Char.ofNat 0 ∉ name.toList ∧
    name.utf8ByteSize ≤ 255

instance (name : String) : Decidable (PlainSegment name) :=
  inferInstanceAs (Decidable (_ ∧ _ ∧ _ ∧ _ ∧ _ ∧ _))

/-- What a session does with a skill whose name is not a plain segment. -/
inductive OutsideAccess
  | read (name : String)
  | write (skill : SkillEntry)
  | delete (name : String)

/-! ## Errors -/

/-- The exceptions of a session, by what catches them. -/
inductive Err
  | cancelled (reason : AVOCancellationReason)
  | incompleteExternalEffect (effect : Option AVOIncompleteExternalEffect)
  | toolBudgetExceeded (limit : String)
  /-- A `KeyError`, `TypeError` or `ValueError`, which include every validation error. -/
  | invalid (message : String)
  /-- Any other exception. -/
  | other (message : String)

/-! ## Configuration -/

/-- The knowledge a call may read. -/
inductive KnowledgeSource
  | unavailable
  | text (guidance : String)
  /-- A function of the environment. -/
  | callable

/-- The attributes of a session that never change. -/
structure SessionConfig where
  request : CandidateProposalRequest
  childCandidateId : String
  revisionEvaluation : RevisionEvaluation
  budget : AVOBudget := {}
  knowledgeSource : KnowledgeSource := .unavailable
  /-- Whether oversized skills are compacted by a language model. -/
  compaction : Bool := false
  developmentEvaluationCostUsd : Option ℚ≥0 := none
  variationId : String
  /-- The identity under which checkpoints are written, when they are. -/
  configurationIdentity : Option AVOConfigurationIdentity := none
  /-- Whether there is an advisor. -/
  advisor : Bool := false
  /-- `str.lower`. -/
  lower : String → String := fun s => s

/-- What is persisted besides the state. -/
def SessionConfig.context (cfg : SessionConfig) (identity : AVOConfigurationIdentity) :
    CheckpointContext :=
  { runId := cfg.request.runId
    selection := cfg.request.selection
    developmentCaseIds := cfg.revisionEvaluation.batch.evaluationCaseIds
    configurationIdentity := identity
    budget := cfg.budget }

/-! ## The runner -/

/-- What a runner does during one model request: it may call tools, and it answers with a
response, with something that is neither a command nor a response, or by raising. -/
inductive RunnerTurn
  | respond (response : AVOResponse)
  | untyped
  | raise
  | call (command : AVOCommand) (next : Except Err ToolResult → RunnerTurn)

/-! ## The state of a session -/

/-- The attributes of a session that change, besides its state. -/
structure Attributes where
  scratch : Workspace
  startedAt : ℚ := 0
  lastMutation : MutationSummary := {}
  lastHypothesis : String := ""
  /-- The model cost so far, when all of it is known. -/
  modelCost : Option ℚ≥0 := some 0
  parentEvidence : Option EvaluatedCandidate := none
  terminalStatus : Option ProposalStatus := none
  terminalMessage : String := ""
  cancellationReason : Option AVOCancellationReason := none
  incompleteExternalEffects : List AVOIncompleteExternalEffect := []
  /-- The result or the error of the last tool call, which the runner is shown. -/
  previousTool : Option (Except Err ToolResult) := none

/-- A session: its explicit state and its other attributes. -/
structure AVOSession where
  state : AVOState
  attributes : Attributes

/-- How an oversized skill is compacted. -/
inductive CompactionMode
  | preserve
  | summarise
  deriving DecidableEq

/-- What happened. -/
inductive Occurrence
  /-- The state was assigned. -/
  | assigned
  /-- The clock was read. -/
  | clock (now : ℚ)
  /-- The cancellation signal was looked at. -/
  | polled (reason : Option AVOCancellationReason)
  /-- A tool starts. -/
  | tool (tool : AVOTool)
  /-- A model request starts, and what the runner does with it. -/
  | model (turn : RunnerTurn)
  /-- An evaluation starts, and what the evaluator answers. -/
  | development (revision : ℕ) (snapshot : WorkspaceSnapshot)
    (records : Except String (List TrialRecord))
  /-- A call of the advisor starts, and its answer. -/
  | supervisor (request : AVOAdviceRequest) (answer : Except String AVOAdviceResult)
  /-- A compaction starts, and its answer. -/
  | compaction (mode : CompactionMode) (body : String) (answer : Except String String)
  /-- The knowledge source is called. -/
  | knowledge (answer : Except Err String)
  /-- A file outside the model is accessed. -/
  | outside (access : OutsideAccess)
  /-- A checkpoint is written. -/
  | wrote (checkpoint : AVOCheckpoint)

/-- What happened, with the state at that moment and the origin of its elapsed time. -/
structure Event where
  occurrence : Occurrence
  state : AVOState
  startedAt : ℚ

/-- A session and the record of what happened in it, newest first. -/
structure World where
  session : AVOSession
  log : List Event := []

/-- The document a call finds: the last one written. -/
def checkpointFile : List Event → Option AVOCheckpoint → Option AVOCheckpoint
  | [], file => file
  | event :: log, file =>
    match event.occurrence with
    | .wrote checkpoint => some checkpoint
    | _ => checkpointFile log file

namespace World

variable (w : World)

abbrev state : AVOState := w.session.state

abbrev attributes : Attributes := w.session.attributes

/-- Record what happens. -/
def record (occurrence : Occurrence) : World :=
  { w with log := ⟨occurrence, w.state, w.attributes.startedAt⟩ :: w.log }

/-- Assign the state. -/
def assign (state : AVOState) : World :=
  { w with session := { w.session with state } }.record .assigned

/-- Change the other attributes. -/
def update (f : Attributes → Attributes) : World :=
  { w with session := { w.session with attributes := f w.attributes } }

@[simp] lemma record_log (occurrence : Occurrence) :
    (w.record occurrence).log = ⟨occurrence, w.state, w.attributes.startedAt⟩ :: w.log := rfl

@[simp] lemma update_attributes (f : Attributes → Attributes) :
    (w.update f).attributes = f w.attributes := rfl

end World

/-! ## Operations -/

/-- The atomic operations of a session. -/
inductive Op : Type → Type
  | get : Op AVOSession
  | assign (state : AVOState) : Op Unit
  | update (f : Attributes → Attributes) : Op Unit
  | clock : Op ℚ
  | poll : Op (Option AVOCancellationReason)
  | tool (tool : AVOTool) : Op Unit
  | model : Op RunnerTurn
  | evaluate (revision : ℕ) (snapshot : WorkspaceSnapshot) : Op (Except String (List TrialRecord))
  | advise (request : AVOAdviceRequest) : Op (Except String AVOAdviceResult)
  | compact (mode : CompactionMode) (body : String) : Op (Except String String)
  | knowledge : Op String
  | outside (access : OutsideAccess) : Op (Option SkillEntry)
  | write (checkpoint : AVOCheckpoint) : Op Unit

/-- The answers of the environment to one operation, of whatever kind it is. -/
structure Reply where
  now : ℚ := 0
  cancelled : Option AVOCancellationReason := none
  turn : RunnerTurn := .raise
  records : Except String (List TrialRecord) := .error "evaluator unavailable"
  advice : Except String AVOAdviceResult := .error "advisor unavailable"
  compacted : Except String String := .error "compaction unavailable"
  guidance : Except Err String := .ok ""
  outside : Except Err (Option SkillEntry) × Workspace := (.ok none, default)

/-- What an operation does. -/
def act {β : Type} : Op β → Reply → World → Except Err β × World
  | .get, _, w => (.ok w.session, w)
  | .assign state, _, w => (.ok (), w.assign state)
  | .update f, _, w => (.ok (), w.update f)
  | .clock, reply, w => (.ok reply.now, w.record (.clock reply.now))
  | .poll, reply, w => (.ok reply.cancelled, w.record (.polled reply.cancelled))
  | .tool tool, _, w => (.ok (), w.record (.tool tool))
  | .model, reply, w => (.ok reply.turn, w.record (.model reply.turn))
  | .evaluate revision snapshot, reply, w =>
    (.ok reply.records, w.record (.development revision snapshot reply.records))
  | .advise request, reply, w => (.ok reply.advice, w.record (.supervisor request reply.advice))
  | .compact mode body, reply, w =>
    (.ok reply.compacted, w.record (.compaction mode body reply.compacted))
  | .knowledge, reply, w => (reply.guidance, w.record (.knowledge reply.guidance))
  | .outside access, reply, w =>
    (reply.outside.1,
      (w.record (.outside access)).update fun a => { a with scratch := reply.outside.2 })
  | .write checkpoint, _, w => (.ok (), w.record (.wrote checkpoint))

def semantics : Program.Semantics Op Err Reply World := ⟨act⟩

/-- The methods of a session. -/
abbrev Method (α : Type) := Program Unit Op Err α

/-! ## Basic methods -/

def getSession : Method AVOSession := Program.perform () .get

def updateAttributes (f : Attributes → Attributes) : Method Unit := Program.perform () (.update f)

/-- A step that may raise one of the errors a dispatched command catches. -/
def ofExcept {α : Type} : Except String α → Method α
  | .ok a => .done a
  | .error message => .fail (.invalid message)

/-- `self.state = replace(self.state, ...)`. -/
def replaceState (f : AVOState → AVOState) : Method Unit := do
  let session ← getSession
  ofExcept (f session.state).check
  Program.perform () (.assign (f session.state))

/-- Run `body`; when it fails, run `handler` on the error. -/
def tryCatch {α : Type} (body : Method α) (handler : Err → Method α) : Method α := do
  let r ← body.result
  match r with
  | .ok a => return a
  | .error e => handler e

/-- Run `body`, then `cleanup` whether it failed or not. -/
def tryFinally {α : Type} (body : Method α) (cleanup : Method Unit) : Method α := do
  let r ← body.result
  cleanup
  match r with
  | .ok a => return a
  | .error e => .fail e

end AecBench.Evolution.Session
