import AecBench.Lib.Machine
import AecBench.Lib.Text

/-!
# Episodes

An episode owns one live world state and the decision its actor has to answer. The actor observes
the decision and submits an action; the world's transition accepts or rejects it; an accepted step
is recorded before the live state follows. An episode ends when the world ends it or when a limit
of its host is reached.

A call evaluates each function of the world at most once. What the functions answer, the readings of
the clock and the failures of the recorder during a call are its `Surroundings`, so that they may
differ from call to call.

## Main definitions

* `EpisodeLimits`, `Decision`, `Transition`, `StepReply` — the values of an episode.
* `MemoryEpisodeRecorder` — what was recorded; `Fault`, `attempt` — a recorder that may fail.
* `Episode`, `Episode.new`, `Episode.currentDecision`, `Episode.submit` — the episode, its
  constructor and its two calls.
* `Episode.machine` — an episode driven by its calls.
-/

namespace AecBench.Worlds

open Text

/-! ## Values -/

inductive EpisodeStatus
  | active
  | terminated
  | truncated
  deriving DecidableEq

def EpisodeStatus.value : EpisodeStatus → String
  | active => "active"
  | terminated => "terminated"
  | truncated => "truncated"

/-- The limits a host puts on an episode; its clock reads values of `τ`. -/
structure EpisodeLimits (τ : Type) [Zero τ] [LE τ] where
  maxSteps : Option ℕ
  maxWallSeconds : Option τ
  maxSteps_pos : ∀ n ∈ maxSteps, ¬ n < 1
  maxWallSeconds_pos : ∀ t ∈ maxWallSeconds, ¬ t ≤ 0

/-- What an actor observes. An observation may be Python's `None`. -/
structure Decision (O K : Type) where
  decisionId : NonEmptyStr
  observation : Option O
  availableActions : Option K
  deriving DecidableEq

structure ActionSubmission (A : Type) where
  decisionId : String
  action : A

structure ActionRejected where
  code : String
  message : String
  deriving DecidableEq

structure Transition (S U : Type) where
  state : S
  output : U
  terminationReason : Option String

inductive TransitionResult (S U : Type)
  | accepted (transition : Transition S U)
  | rejected (rejection : ActionRejected)

structure StepReply (O K U : Type) where
  accepted : Bool
  decision : Option (Decision O K)
  rejection : Option ActionRejected
  output : Option U
  terminated : Bool
  truncated : Bool
  reason : Option String
  deriving DecidableEq

/-- What a call raises; `ε` are the exceptions of the world's functions and of the recorder. -/
inductive EpisodeError (ε : Type)
  | valueError (message : String)
  | runtimeError (message : String)
  | assertionError
  | finishedError (message : String)
  | raised (error : ε)
  deriving DecidableEq

/-! ## The recorder -/

structure EpisodeOpened (S O : Type) where
  episodeId : String
  actorId : String
  stepIndex : ℕ
  decisionId : String
  state : S
  observation : Option O
  deriving DecidableEq

structure EpisodeStepRecorded (S O A U : Type) where
  episodeId : String
  actorId : String
  stepIndex : ℕ
  decisionId : String
  action : A
  observation : Option O
  priorState : S
  nextState : S
  output : U
  nextDecisionId : Option String
  nextObservation : Option O
  terminated : Bool
  terminationReason : Option String
  deriving DecidableEq

structure EpisodeFinished where
  episodeId : String
  actorId : String
  stepIndex : ℕ
  status : EpisodeStatus
  reason : String
  deriving DecidableEq

structure MemoryEpisodeRecorder (S O A U : Type) where
  opened : Option (EpisodeOpened S O)
  steps : List (EpisodeStepRecorded S O A U)
  finished : Option EpisodeFinished

namespace MemoryEpisodeRecorder

variable {S O A U ε : Type} [DecidableEq S] [DecidableEq O] [DecidableEq A] [DecidableEq U]

/-- `MemoryEpisodeRecorder()`. -/
def empty : MemoryEpisodeRecorder S O A U := ⟨none, [], none⟩

def recordOpened (event : EpisodeOpened S O) (r : MemoryEpisodeRecorder S O A U) :
    Except (EpisodeError ε) (MemoryEpisodeRecorder S O A U) :=
  if r.opened ≠ none ∧ r.opened ≠ some event then
    .error (.runtimeError "episode opened record conflicts with existing content")
  else .ok { r with opened := some event }

def recordStep (event : EpisodeStepRecorded S O A U) (r : MemoryEpisodeRecorder S O A U) :
    Except (EpisodeError ε) (MemoryEpisodeRecorder S O A U) :=
  match r.steps[event.stepIndex]? with
  | some step =>
    if step ≠ event then .error (.runtimeError "episode step record conflicts with existing content")
    else .ok r
  | none =>
    if r.steps.length ≠ event.stepIndex then
      .error (.runtimeError "episode step records must be contiguous")
    else .ok { r with steps := r.steps ++ [event] }

def recordFinished (event : EpisodeFinished) (r : MemoryEpisodeRecorder S O A U) :
    Except (EpisodeError ε) (MemoryEpisodeRecorder S O A U) :=
  if r.finished ≠ none ∧ r.finished ≠ some event then
    .error (.runtimeError "episode finished record conflicts with existing content")
  else .ok { r with finished := some event }

end MemoryEpisodeRecorder

/-- An exception of a recorder: raised before it stores what it is given, or after. -/
inductive Fault (ε : Type)
  | before (error : ε)
  | after (error : ε)

/-- The recorder after one of its calls, and what the call raised. -/
def attempt {R ε : Type} (fault : Option (Fault ε)) (record : R → Except (EpisodeError ε) R)
    (r : R) : R × Except (EpisodeError ε) Unit :=
  match fault, record r with
  | some (.before e), _ => (r, .error (.raised e))
  | some (.after e), .ok r' => (r', .error (.raised e))
  | none, .ok r' => (r', .ok ())
  | _, .error e => (r, .error e)

/-! ## The episode -/

/-- What a call meets: the readings of the clock at its start and after the step, the answers of the
world's functions and of the factory of decision ids, and the faults of the recorder. -/
structure Surroundings (S O A U K τ ε : Type) where
  clock : τ
  clockAfter : τ
  observe : S → Except ε (Option O)
  transition : S → A → Except ε (TransitionResult S U)
  availableActions : Option (S → Except ε K)
  decisionIdFactory : S → ℕ → Except ε String
  openedFault : Option (Fault ε)
  stepFault : Option (Fault ε)
  finishedFault : Option (Fault ε)

structure Episode (S O A U K τ : Type) [Zero τ] [LE τ] where
  episodeId : String
  actorId : String
  limits : EpisodeLimits τ
  openedAt : τ
  state : S
  stepIndex : ℕ
  decisionId : String
  decision : Option (Decision O K)
  status : EpisodeStatus
  reason : Option String
  openedRecorded : Bool
  recorder : MemoryEpisodeRecorder S O A U
  /-- History: the arguments of the transition function, call by call. -/
  evaluated : List (S × A)

variable {S O A U K τ ε : Type} [DecidableEq S] [DecidableEq O] [DecidableEq A] [DecidableEq U]
  [Zero τ] [LE τ]

/-- `_next_decision_id`, with the factory's answer. -/
def nextDecisionId (answer : Except ε String) : Except (EpisodeError ε) NonEmptyStr :=
  match answer with
  | .error e => .error (.raised e)
  | .ok value =>
    if h : Blank value then .error (.valueError "decision ID factory returned an empty value")
    else .ok ⟨value, h⟩

/-- `self._functions.available_actions(state)`, or `None` without such a function. -/
def actionsOf (availableActions : Option (S → Except ε K)) (state : S) :
    Except (EpisodeError ε) (Option K) :=
  match availableActions with
  | none => .ok none
  | some f =>
    match f state with
    | .error e => .error (.raised e)
    | .ok actions => .ok (some actions)

namespace Episode

/-- `decision_id or self._next_decision_id(state, step_index)`. -/
def openingId (decisionId : Option String) (answer : Except ε String) :
    Except (EpisodeError ε) String :=
  match decisionId with
  | some value =>
    if value = "" then (nextDecisionId answer).map NonEmptyStr.val else .ok value
  | none => (nextDecisionId answer).map NonEmptyStr.val

/-- `Episode.__init__`. -/
def new (episodeId actorId : String) (state : S) (recorder : MemoryEpisodeRecorder S O A U)
    (limits : EpisodeLimits τ) (stepIndex : ℤ) (decisionId : Option String)
    (decisionIdFactory : S → ℕ → Except ε String) (openedAt : τ) :
    Except (EpisodeError ε) (Episode S O A U K τ) :=
  if Blank episodeId ∨ Blank actorId then
    .error (.valueError "episode and actor identities must not be empty")
  else if stepIndex < 0 then .error (.valueError "episode step_index must be non-negative")
  else
    match openingId decisionId (decisionIdFactory state stepIndex.toNat) with
    | .error e => .error e
    | .ok id =>
      .ok ⟨episodeId, actorId, limits, openedAt, state, stepIndex.toNat, id, none, .active, none,
        false, recorder, []⟩

variable [Sub τ] [DecidableLE τ]

/-- The step limit is reached at this step index. -/
def StepsExhausted (limits : EpisodeLimits τ) (stepIndex : ℕ) : Prop :=
  ∃ n ∈ limits.maxSteps, n ≤ stepIndex

instance (limits : EpisodeLimits τ) (stepIndex : ℕ) : Decidable (StepsExhausted limits stepIndex) :=
  match h : limits.maxSteps with
  | none => isFalse (by simp [StepsExhausted, h])
  | some n => decidable_of_iff (n ≤ stepIndex) (by simp [StepsExhausted, h])

/-- The wall-clock limit is reached at this reading. -/
def TimeExhausted (limits : EpisodeLimits τ) (openedAt reading : τ) : Prop :=
  ∃ t ∈ limits.maxWallSeconds, t ≤ reading - openedAt

instance (limits : EpisodeLimits τ) (openedAt reading : τ) :
    Decidable (TimeExhausted limits openedAt reading) :=
  match h : limits.maxWallSeconds with
  | none => isFalse (by simp [TimeExhausted, h])
  | some t => decidable_of_iff (t ≤ reading - openedAt) (by simp [TimeExhausted, h])

/-- `_limit_reason`. -/
def limitReason (e : Episode S O A U K τ) (stepIndex : ℕ) (reading : τ) : Option String :=
  if StepsExhausted e.limits stepIndex then some "step limit reached"
  else if TimeExhausted e.limits e.openedAt reading then some "wall-clock limit reached"
  else none

/-- `_finish`. -/
def finish (w : Surroundings S O A U K τ ε) (status : EpisodeStatus) (reason : String)
    (e : Episode S O A U K τ) : Episode S O A U K τ × Except (EpisodeError ε) Unit :=
  match attempt w.finishedFault
      (MemoryEpisodeRecorder.recordFinished ⟨e.episodeId, e.actorId, e.stepIndex, status, reason⟩)
      e.recorder with
  | (recorder, .error err) => ({ e with recorder }, .error err)
  | (recorder, .ok ()) =>
    ({ e with recorder, status, reason := some reason, decision := none }, .ok ())

/-- The message of `EpisodeFinishedError`. -/
def finishedMessage (e : Episode S O A U K τ) : String :=
  "episode is " ++ e.status.value ++ ": " ++ e.reason.getD "None"

/-- `current_decision`. -/
def currentDecision (w : Surroundings S O A U K τ ε) (e : Episode S O A U K τ) :
    Episode S O A U K τ × Except (EpisodeError ε) (Decision O K) :=
  match e.limitReason e.stepIndex w.clock with
  | some limited =>
    match e.finish w .truncated limited with
    | (e', .error err) => (e', .error err)
    | (e', .ok ()) => (e', .error (.finishedError e'.finishedMessage))
  | none =>
    if e.status ≠ .active then (e, .error (.finishedError e.finishedMessage))
    else
      match e.decision with
      | some decision => (e, .ok decision)
      | none =>
        match w.observe e.state with
        | .error err => (e, .error (.raised err))
        | .ok observation =>
          match actionsOf w.availableActions e.state with
          | .error err => (e, .error err)
          | .ok actions =>
            if h : Blank e.decisionId then (e, .error (.valueError "decision_id must not be empty"))
            else if e.openedRecorded then
              ({ e with decision := some ⟨⟨e.decisionId, h⟩, observation, actions⟩ },
                .ok ⟨⟨e.decisionId, h⟩, observation, actions⟩)
            else
              match attempt w.openedFault (MemoryEpisodeRecorder.recordOpened
                  ⟨e.episodeId, e.actorId, e.stepIndex, e.decisionId, e.state, observation⟩)
                  e.recorder with
              | (recorder, .error err) => ({ e with recorder }, .error err)
              | (recorder, .ok ()) =>
                ({ e with recorder, openedRecorded := true,
                          decision := some ⟨⟨e.decisionId, h⟩, observation, actions⟩ },
                  .ok ⟨⟨e.decisionId, h⟩, observation, actions⟩)

/-- How an accepted step ends the episode: its last status and the reason. -/
def ending (w : Surroundings S O A U K τ ε) (t : Transition S U) (e : Episode S O A U K τ) :
    Option (EpisodeStatus × String) :=
  match t.terminationReason with
  | some reason => some (.terminated, reason)
  | none => (e.limitReason (e.stepIndex + 1) w.clockAfter).map fun reason => (.truncated, reason)

/-- The reason in the finished event: `finished_reason or …`. -/
def recordedReason (status : EpisodeStatus) (reason : String) : String :=
  if reason = "" then
    if status = .terminated then "world terminated" else "runtime limit reached"
  else reason

/-- The record of an accepted step. -/
def stepEvent (decision : Decision O K) (action : A) (t : Transition S U)
    (nextId : Option String) (nextObservation : Option O) (e : Episode S O A U K τ) :
    EpisodeStepRecorded S O A U :=
  ⟨e.episodeId, e.actorId, e.stepIndex, decision.decisionId.val, action, decision.observation,
    e.state, t.state, t.output, nextId, nextObservation, t.terminationReason.isSome,
    t.terminationReason⟩

/-- `_accept`. -/
def accept (w : Surroundings S O A U K τ ε) (decision : Decision O K) (action : A)
    (t : Transition S U) (e : Episode S O A U K τ) :
    Episode S O A U K τ × Except (EpisodeError ε) (StepReply O K U) :=
  match e.ending w t with
  | some (status, reason) =>
    match attempt w.stepFault
        (MemoryEpisodeRecorder.recordStep (e.stepEvent decision action t none none))
        e.recorder with
    | (recorder, .error err) => ({ e with recorder }, .error err)
    | (recorder, .ok ()) =>
      match attempt w.finishedFault
          (MemoryEpisodeRecorder.recordFinished
            ⟨e.episodeId, e.actorId, e.stepIndex + 1, status, recordedReason status reason⟩)
          recorder with
      | (recorder, .error err) => ({ e with recorder }, .error err)
      | (recorder, .ok ()) =>
        ({ e with recorder, state := t.state, stepIndex := e.stepIndex + 1,
                  decisionId := decision.decisionId.val, status, reason := some reason,
                  decision := none },
          .ok ⟨true, none, none, some t.output, t.terminationReason.isSome,
            t.terminationReason.isNone, some reason⟩)
  | none =>
    match nextDecisionId (w.decisionIdFactory t.state (e.stepIndex + 1)) with
    | .error err => (e, .error err)
    | .ok nextId =>
      match w.observe t.state with
      | .error err => (e, .error (.raised err))
      | .ok nextObservation =>
        match attempt w.stepFault
            (MemoryEpisodeRecorder.recordStep
              (e.stepEvent decision action t (some nextId.val) nextObservation))
            e.recorder with
        | (recorder, .error err) => ({ e with recorder }, .error err)
        | (recorder, .ok ()) =>
          -- The decision of the previous step stays in place until the next one is built.
          match actionsOf w.availableActions t.state, nextObservation with
          | .error err, _ =>
            ({ e with recorder, state := t.state, stepIndex := e.stepIndex + 1,
                      decisionId := nextId.val }, .error err)
          | .ok _, none =>
            ({ e with recorder, state := t.state, stepIndex := e.stepIndex + 1,
                      decisionId := nextId.val }, .error .assertionError)
          | .ok actions, some observation =>
            ({ e with recorder, state := t.state, stepIndex := e.stepIndex + 1,
                      decisionId := nextId.val,
                      decision := some ⟨nextId, some observation, actions⟩ },
              .ok ⟨true, some ⟨nextId, some observation, actions⟩, none, some t.output, false,
                false, none⟩)

/-- `_reply`. -/
def reply (reason : Option String) (e : Episode S O A U K τ) : StepReply O K U :=
  ⟨false, none, none, none, e.status = .terminated, e.status = .truncated, reason⟩

/-- The reply to an action that is not accepted. -/
def refusal (decision : Decision O K) (rejection : ActionRejected) : StepReply O K U :=
  ⟨false, some decision, some rejection, none, false, false, none⟩

/-- `submit`. -/
def submit (w : Surroundings S O A U K τ ε) (submission : ActionSubmission A)
    (e : Episode S O A U K τ) :
    Episode S O A U K τ × Except (EpisodeError ε) (StepReply O K U) :=
  match e.limitReason e.stepIndex w.clock with
  | some limited =>
    match e.finish w .truncated limited with
    | (e', .error err) => (e', .error err)
    | (e', .ok ()) => (e', .ok (e'.reply (some limited)))
  | none =>
    if e.status ≠ .active then (e, .ok (e.reply e.reason))
    else
      match e.decision with
      | none =>
        (e, .error (.runtimeError
          "current_decision must be observed before submitting an action"))
      | some decision =>
        if submission.decisionId ≠ decision.decisionId.val then
          (e, .ok (refusal decision
            ⟨"decision-stale", "decision is unknown or no longer current"⟩))
        else
          let e' := { e with evaluated := e.evaluated ++ [(e.state, submission.action)] }
          match w.transition e.state submission.action with
          | .error err => (e', .error (.raised err))
          | .ok (.rejected rejection) => (e', .ok (refusal decision rejection))
          | .ok (.accepted t) => e'.accept w decision submission.action t

/-! ## Runs -/

inductive Call (A : Type)
  | currentDecision
  | submit (submission : ActionSubmission A)

/-- A call and what it meets. -/
structure Event (S O A U K τ ε : Type) where
  call : Call A
  surroundings : Surroundings S O A U K τ ε

/-- What a call returns or raises. -/
inductive Outcome (O K U ε : Type)
  | decision (result : Except (EpisodeError ε) (Decision O K))
  | reply (result : Except (EpisodeError ε) (StepReply O K U))
  deriving DecidableEq

/-- The episode after a call, and what the call returned or raised. -/
def handle (event : Event S O A U K τ ε) (e : Episode S O A U K τ) :
    Episode S O A U K τ × Outcome O K U ε :=
  match event.call with
  | .currentDecision => ((e.currentDecision event.surroundings).1,
      .decision (e.currentDecision event.surroundings).2)
  | .submit submission => ((e.submit event.surroundings submission).1,
      .reply (e.submit event.surroundings submission).2)

/-- An episode, a call at a time: each holds the lock of the episode. -/
def machine : Machine (Episode S O A U K τ) (Event S O A U K τ ε) := ⟨fun e event => (e.handle event).1⟩

end Episode

end AecBench.Worlds
