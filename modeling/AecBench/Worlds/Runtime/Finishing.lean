import AecBench.Worlds.Runtime.Episode

/-!
# Finished episodes

An episode finishes when a transition of its world names a reason, when a limit is reached after a
step, or when a limit is reached at the start of a call. The check at the start of a call comes
before the check of the status, so it also meets episodes that have finished: one that its host
truncated is truncated again for the same reason, one that its world terminated is not.

## Main definitions

* `Episode.Ended` — what holds of an episode that has finished.
* `Episode.AtEnd`, `Episode.lastAnswer`, `Episode.StaysFinished` — nothing changes any more, and
  what the calls answer.

## Main results

* `Episode.ended_run` — after every run the last event agrees with the live episode.
* `Episode.finished_stays_iff` — when a finished episode stays as it is.
-/

namespace AecBench.Worlds

section Attempts

variable {R ε : Type} {fault : Option (Fault ε)} {record : R → Except (EpisodeError ε) R} {r r' : R}

lemma attempt_none : attempt none record r =
    match record r with
    | .ok r' => (r', .ok ())
    | .error e => (r, .error e) := by
  unfold attempt
  split <;> simp_all

lemma record_of_attempt (h : attempt fault record r = (r', .ok ())) : record r = .ok r' := by
  unfold attempt at h
  split at h <;> simp_all

lemma attempt_stores {result : Except (EpisodeError ε) Unit}
    (h : attempt fault record r = (r', result)) : r' = r ∨ record r = .ok r' := by
  unfold attempt at h
  split at h <;> simp_all

end Attempts

namespace MemoryEpisodeRecorder

variable {S O A U ε : Type} {event : EpisodeFinished} {r r' : MemoryEpisodeRecorder S O A U}

lemma recordFinished_ok (h : recordFinished (ε := ε) event r = .ok r') :
    r'.finished = some event ∧ r'.steps = r.steps ∧ (r.finished = none ∨ r' = r) := by
  unfold recordFinished at h
  split at h
  · cases h
  · rename_i hfree
    cases h
    refine ⟨rfl, rfl, ?_⟩
    by_cases hnone : r.finished = none
    · exact .inl hnone
    · have hsame : r.finished = some event := by simpa [hnone] using hfree
      exact .inr (by rw [← hsame])

lemma recordFinished_again (h : r.finished = some event) :
    recordFinished (ε := ε) event r = .ok r := by
  unfold recordFinished
  rw [if_neg (by simp [h]), ← h]

lemma recordFinished_conflict {stored : EpisodeFinished} (h : r.finished = some stored)
    (hne : stored ≠ event) : recordFinished (ε := ε) event r =
      .error (.runtimeError "episode finished record conflicts with existing content") := by
  unfold recordFinished
  rw [if_pos (by simp [h, hne])]

end MemoryEpisodeRecorder

namespace Episode

open MemoryEpisodeRecorder

variable {S O A U K τ ε : Type} [Zero τ] [LE τ] {e : Episode S O A U K τ}
  {w : Surroundings S O A U K τ ε}

/-- The limit that truncated an episode. -/
def TruncatedBy (e : Episode S O A U K τ) (reason : String) : Prop :=
  if StepsExhausted e.limits e.stepIndex then reason = "step limit reached"
  else reason = "wall-clock limit reached"

/-- A finished episode has no decision left, the finished event agrees with it, and a truncated
episode names the limit that is reached. -/
structure Ended (e : Episode S O A U K τ) (reason : String) : Prop where
  decision : e.decision = none
  reason_eq : e.reason = some reason
  finished : e.recorder.finished =
    some ⟨e.episodeId, e.actorId, e.stepIndex, e.status, recordedReason e.status reason⟩
  truncated : e.status = .truncated → e.TruncatedBy reason

/-- The end of an episode is in order, when it has come. -/
def Orderly (e : Episode S O A U K τ) : Prop := e.status ≠ .active → ∃ reason, e.Ended reason

/-- `later` is the episode at its end: nothing the claim of a finished episode rests on has changed,
and one finished event agrees with it. -/
structure AtEnd (e later : Episode S O A U K τ) : Prop where
  status : later.status = e.status
  reason : later.reason = e.reason
  state : later.state = e.state
  stepIndex : later.stepIndex = e.stepIndex
  evaluated : later.evaluated = e.evaluated
  recorded : ∃ event, later.recorder.finished = some event ∧ event.status = e.status ∧
    some event.reason = e.reason ∧ event.stepIndex = e.stepIndex

/-! ## Limits -/

lemma TruncatedBy.unique {r r' : String} (h : e.TruncatedBy r) (h' : e.TruncatedBy r') : r = r' := by
  unfold TruncatedBy at h h'
  split at h <;> simp_all

variable {reason : String}

lemma TruncatedBy.ne_empty (h : e.TruncatedBy reason) : reason ≠ "" := by
  unfold TruncatedBy at h
  split at h <;> (subst h; decide)

lemma recordedReason_of_ne {status : EpisodeStatus} (h : reason ≠ "") :
    recordedReason status reason = reason := if_neg h

lemma new_fresh {episodeId actorId : String} {state : S} {recorder : MemoryEpisodeRecorder S O A U}
    {limits : EpisodeLimits τ} {stepIndex : ℤ} {decisionId : Option String}
    {factory : S → ℕ → Except ε String} {openedAt : τ}
    (h : Episode.new episodeId actorId state recorder limits stepIndex decisionId factory openedAt =
      .ok e) : e.status = .active ∧ e.recorder = recorder ∧ e.decision = none := by
  unfold Episode.new at h
  split at h
  · cases h
  · split at h
    · cases h
    · split at h <;> cases h
      exact ⟨rfl, rfl, rfl⟩

/-- `_finish` leaves the end of an episode in order, when the reason is the limit that is
reached. -/
lemma finish_orderly (h : e.Orderly) (hlimit : e.TruncatedBy reason) :
    (e.finish w .truncated reason).1.Orderly := by
  unfold finish
  split
  · rename_i recorder err hattempt
    intro hdone
    obtain ⟨r, hended⟩ := h hdone
    refine ⟨r, hended.decision, hended.reason_eq, ?_, hended.truncated⟩
    -- What is stored already stays, whether the call fails before or after storing.
    obtain rfl | hstored := attempt_stores hattempt
    · exact hended.finished
    · obtain ⟨-, -, hnone | rfl⟩ := recordFinished_ok hstored
      · rw [hended.finished] at hnone
        cases hnone
      · exact hended.finished
  · rename_i recorder hattempt
    rintro -
    obtain ⟨hfinished, -, -⟩ := recordFinished_ok (record_of_attempt hattempt)
    refine ⟨reason, rfl, rfl, ?_, fun _ => hlimit⟩
    rw [recordedReason_of_ne hlimit.ne_empty]
    exact hfinished

lemma atEnd_self_iff (h : e.Ended reason) (hdone : e.status ≠ .active) :
    e.AtEnd e ↔ (e.status = .terminated → e.reason ≠ some "") := by
  constructor
  · rintro ⟨-, -, -, -, -, event, hevent, -, hreason, -⟩ hterminated hempty
    rw [h.finished, Option.some.injEq] at hevent
    subst hevent
    obtain rfl : reason = "" := Option.some.inj (h.reason_eq.symm.trans hempty)
    simp [recordedReason, hterminated, hempty] at hreason
  · intro hnamed
    have hne : reason ≠ "" := by
      cases hstatus : e.status with
      | active => exact absurd hstatus hdone
      | terminated =>
        rintro rfl
        exact hnamed hstatus h.reason_eq
      | truncated => exact (h.truncated hstatus).ne_empty
    refine ⟨rfl, rfl, rfl, rfl, rfl, _, h.finished, rfl, ?_, rfl⟩
    rw [h.reason_eq]
    exact congrArg some (recordedReason_of_ne hne)

variable [Sub τ] [DecidableLE τ]

lemma truncatedBy_of_limitReason {reading : τ}
    (h : e.limitReason e.stepIndex reading = some reason) : e.TruncatedBy reason := by
  unfold limitReason at h
  unfold TruncatedBy
  split at h
  · rename_i hsteps
    rw [if_pos hsteps]
    exact (Option.some.inj h).symm
  · rename_i hsteps
    rw [if_neg hsteps]
    split at h
    · exact (Option.some.inj h).symm
    · cases h

lemma ending_eq {t : Transition S U} {status : EpisodeStatus}
    (h : e.ending w t = some (status, reason)) :
    status = .terminated ∨ (status = .truncated ∧
      e.limitReason (e.stepIndex + 1) w.clockAfter = some reason) := by
  unfold ending at h
  split at h
  · cases h
    exact .inl rfl
  · obtain ⟨r, hlimit, heq⟩ := Option.map_eq_some_iff.mp h
    cases heq
    exact .inr ⟨rfl, hlimit⟩

/-! ## Finishing -/

section Order

variable [DecidableEq S] [DecidableEq O] [DecidableEq A] [DecidableEq U]

lemma accept_orderly {decision : Decision O K} {action : A} {t : Transition S U}
    (hactive : e.status = .active) : (e.accept w decision action t).1.Orderly := by
  unfold accept
  split
  · rename_i status reason hending
    split
    · exact fun hdone => absurd hactive hdone
    · split
      · exact fun hdone => absurd hactive hdone
      · rename_i hattempt
        rintro -
        refine ⟨reason, rfl, rfl, (recordFinished_ok (record_of_attempt hattempt)).1, ?_⟩
        rintro rfl
        obtain hterminated | ⟨-, hlimit⟩ := ending_eq hending
        · cases hterminated
        · exact truncatedBy_of_limitReason (e := { e with stepIndex := e.stepIndex + 1 }) hlimit
  · split
    · exact fun hdone => absurd hactive hdone
    · split
      · exact fun hdone => absurd hactive hdone
      · split
        · exact fun hdone => absurd hactive hdone
        · split <;> exact fun hdone => absurd hactive hdone

omit [DecidableEq A] [DecidableEq U] in
lemma currentDecision_orderly (h : e.Orderly) : (e.currentDecision w).1.Orderly := by
  unfold currentDecision
  split
  · rename_i limited hlimit
    have hfinish := finish_orderly (w := w) h (truncatedBy_of_limitReason hlimit)
    split <;> (rename_i heq; rw [heq] at hfinish; exact hfinish)
  · split
    · exact h
    · rename_i hactive
      rw [not_not] at hactive
      repeat' split
      all_goals exact fun hdone => absurd hactive hdone

lemma submit_orderly {submission : ActionSubmission A} (h : e.Orderly) :
    (e.submit w submission).1.Orderly := by
  unfold submit
  split
  · rename_i limited hlimit
    have hfinish := finish_orderly (w := w) h (truncatedBy_of_limitReason hlimit)
    split <;> (rename_i heq; rw [heq] at hfinish; exact hfinish)
  · split
    · exact h
    · rename_i hactive
      rw [not_not] at hactive
      split
      · exact h
      · split
        · exact h
        · dsimp only
          split
          · exact fun hdone => absurd hactive hdone
          · exact fun hdone => absurd hactive hdone
          · exact accept_orderly hactive

lemma handle_orderly {event : Event S O A U K τ ε} (h : e.Orderly) : (e.handle event).1.Orderly := by
  unfold handle
  split
  · exact currentDecision_orderly h
  · exact submit_orderly h

/-- **The end is in order after every run**: an episode that has finished has no decision left, and
the finished event agrees with it up to the name of an empty reason. -/
theorem ended_run (hopen : e.status = .active) (events : List (Event S O A U K τ ε)) :
    (machine.run e events).Orderly :=
  Machine.run_preserves_of_forall (I := Orderly) (C := fun _ => True)
    (fun _ _ h _ => handle_orderly h) (fun hdone => absurd hopen hdone) fun _ _ => trivial

/-! ## After the end -/

/-- What a finished episode answers. -/
def lastAnswer (call : Call A) (e : Episode S O A U K τ) : Outcome O K U ε :=
  match call with
  | .currentDecision => .decision (.error (.finishedError e.finishedMessage))
  | .submit _ => .reply (.ok (e.reply e.reason))

/-- Every call finds the episode at its end and is answered so. -/
def StaysFinished (e : Episode S O A U K τ) (events : List (Event S O A U K τ ε)) : Prop :=
  machine.Along (fun later event => e.AtEnd later ∧
    (later.handle event).2 = e.lastAnswer event.call) e events ∧ e.AtEnd (machine.run e events)

lemma handle_of_undisturbed {event : Event S O A U K τ ε} (h : e.Ended reason)
    (hdone : e.status ≠ .active) (hmemory : event.surroundings.finishedFault = none)
    (hquiet : e.status = .terminated → e.limitReason e.stepIndex event.surroundings.clock = none) :
    e.handle event = (e, e.lastAnswer event.call) := by
  cases hlimit : e.limitReason e.stepIndex event.surroundings.clock with
  | none =>
    cases hcall : event.call with
    | currentDecision => simp [handle, lastAnswer, hcall, currentDecision, hlimit, hdone]
    | submit submission => simp [handle, lastAnswer, hcall, submit, hlimit, hdone]
  | some limited =>
    -- Only a truncated episode meets a limit, and it was truncated by the same one.
    have htruncated : e.status = .truncated := by
      cases hstatus : e.status with
      | active => exact absurd hstatus hdone
      | terminated => simp [hquiet hstatus] at hlimit
      | truncated => rfl
    obtain rfl : limited = reason :=
      (truncatedBy_of_limitReason hlimit).unique (h.truncated htruncated)
    have hfinished := h.finished
    rw [htruncated, recordedReason_of_ne (h.truncated htruncated).ne_empty] at hfinished
    have hfinish : e.finish event.surroundings .truncated limited = (e, .ok ()) := by
      unfold finish
      rw [hmemory, attempt_none, recordFinished_again hfinished]
      have hreason := h.reason_eq
      have hdecision := h.decision
      cases e
      simp_all
    cases hcall : event.call with
    | currentDecision => simp [handle, lastAnswer, hcall, currentDecision, hlimit, hfinish]
    | submit submission =>
      simp [handle, lastAnswer, hcall, submit, hlimit, hfinish, h.reason_eq]

lemma handle_of_disturbed {limited : String} {event : Event S O A U K τ ε} (h : e.Ended reason)
    (hterminated : e.status = .terminated) (hmemory : event.surroundings.finishedFault = none)
    (hlimit : e.limitReason e.stepIndex event.surroundings.clock = some limited) :
    (e.handle event).2 ≠ e.lastAnswer event.call := by
  have hfinish : e.finish event.surroundings .truncated limited =
      (e, .error (.runtimeError "episode finished record conflicts with existing content")) := by
    unfold finish
    rw [hmemory, attempt_none, recordFinished_conflict h.finished (by simp [hterminated])]
  cases hcall : event.call with
  | currentDecision => simp [handle, lastAnswer, hcall, currentDecision, hlimit, hfinish]
  | submit submission => simp [handle, lastAnswer, hcall, submit, hlimit, hfinish]

/-- **When a finished episode stays finished**: exactly when its world did not end it for an empty
reason, and no later call meets a limit of an episode that its world terminated. -/
theorem finished_stays_iff {episodeId actorId : String} {state : S}
    {recorder : MemoryEpisodeRecorder S O A U} {limits : EpisodeLimits τ} {stepIndex : ℤ}
    {decisionId : Option String} {factory : S → ℕ → Except ε String} {openedAt : τ}
    {opened : Episode S O A U K τ}
    (hnew : Episode.new episodeId actorId state recorder limits stepIndex decisionId factory
      openedAt = .ok opened)
    (before later : List (Event S O A U K τ ε))
    (hmemory : ∀ event ∈ later, event.surroundings.finishedFault = none)
    (hdone : (machine.run opened before).status ≠ .active) :
    (machine.run opened before).StaysFinished later ↔
      ((machine.run opened before).status = .terminated →
        (machine.run opened before).reason ≠ some "" ∧ ∀ event ∈ later,
          (machine.run opened before).limitReason (machine.run opened before).stepIndex
            event.surroundings.clock = none) := by
  obtain ⟨reason, hended⟩ := ended_run (new_fresh hnew).1 before hdone
  generalize machine.run opened before = e at hended hdone
  have hself := atEnd_self_iff hended hdone
  unfold StaysFinished
  induction later with
  | nil => simp [hself]
  | cons event later ih =>
    obtain ⟨hfault, hmemory⟩ := List.forall_mem_cons.mp hmemory
    rw [Machine.along_cons, Machine.run_cons]
    by_cases hquiet : e.status = .terminated →
        e.limitReason e.stepIndex event.surroundings.clock = none
    · have hstep : machine.step e event = e :=
        congrArg Prod.fst (handle_of_undisturbed hended hdone hfault hquiet)
      have hanswer := congrArg Prod.snd (handle_of_undisturbed hended hdone hfault hquiet)
      have hrest := ih hmemory
      rw [hstep]
      simp only [List.forall_mem_cons]
      constructor
      · rintro ⟨⟨-, halong⟩, hend⟩ hterminated
        obtain ⟨hnamed, hall⟩ := hrest.mp ⟨halong, hend⟩ hterminated
        exact ⟨hnamed, hquiet hterminated, hall⟩
      · intro hall
        obtain ⟨halong, hend⟩ := hrest.mpr fun ht => ⟨(hall ht).1, (hall ht).2.2⟩
        exact ⟨⟨⟨hself.mpr fun ht => (hall ht).1, hanswer⟩, halong⟩, hend⟩
    · rw [Classical.not_imp, ← ne_eq, Option.ne_none_iff_exists'] at hquiet
      obtain ⟨hterminated, limited, hlimit⟩ := hquiet
      have hanswer := handle_of_disturbed hended hterminated hfault hlimit
      constructor
      · rintro ⟨⟨⟨-, hreports⟩, -⟩, -⟩
        exact absurd hreports hanswer
      · intro hall
        have hnone := (hall hterminated).2 event List.mem_cons_self
        rw [hlimit] at hnone
        cases hnone

end Order

/-! ## A world that counts -/

namespace Counting

/-- A clock that stands still. -/
inductive Tick
  | start
  deriving DecidableEq

instance : Zero Tick := ⟨.start⟩

instance : Sub Tick := ⟨fun _ _ => .start⟩

instance : LE Tick := ⟨fun _ _ => True⟩

instance : DecidableLE Tick := fun _ _ => isTrue trivial

/-- A world that adds its actions up and ends once the sum is three. -/
def surroundings {ε : Type} : Surroundings ℕ ℕ ℕ ℕ Unit Tick ε where
  clock := .start
  clockAfter := .start
  observe n := .ok (some n)
  transition n a := .ok (.accepted ⟨n + a, a, if 3 ≤ n + a then some "world complete" else none⟩)
  availableActions := none
  decisionIdFactory _ step := .ok (String.ofList (List.replicate (step + 1) 'd'))
  openedFault := none
  stepFault := none
  finishedFault := none

/-- The host allows a single step. -/
def oneStep : EpisodeLimits Tick := ⟨some 1, none, by simp, by simp⟩

def unlimited : EpisodeLimits Tick := ⟨none, none, by simp, by simp⟩

def opened (limits : EpisodeLimits Tick) : Episode ℕ ℕ ℕ ℕ Unit Tick :=
  ⟨"episode", "actor", limits, .start, 0, 0, "d", none, .active, none, false, .empty, []⟩

lemma new_opened (limits : EpisodeLimits Tick) : Episode.new "episode" "actor" 0
    MemoryEpisodeRecorder.empty limits 0 none (surroundings (ε := Unit)).decisionIdFactory Tick.start =
      .ok (opened limits) := by
  have hnames : ¬ (Text.Blank "episode" ∨ Text.Blank "actor") := by decide
  rfl

def submitted : Event ℕ ℕ ℕ ℕ Unit Tick Unit := ⟨.submit ⟨"d", 3⟩, surroundings⟩

/-- The actor observes the first decision and ends the world. -/
def toTheEnd : List (Event ℕ ℕ ℕ ℕ Unit Tick Unit) := [⟨.currentDecision, surroundings⟩, submitted]

/-- Without a limit, later calls are told that the world has terminated. -/
theorem finished_stays_unlimited :
    (machine.run (opened unlimited) toTheEnd).StaysFinished [submitted] :=
  (finished_stays_iff (new_opened unlimited) toTheEnd [submitted] (by simp [submitted, surroundings])
    (by decide +kernel)).mpr fun _ => ⟨by decide +kernel, by
      intro event hevent
      rw [List.mem_singleton.mp hevent]
      decide +kernel⟩

/-- A world that ended with the last step of its host is truncated by the next call: the recorder
refuses, and the call raises. -/
theorem not_stays_oneStep : ∃ (start : Episode ℕ ℕ ℕ ℕ Unit Tick)
    (before later : List (Event ℕ ℕ ℕ ℕ Unit Tick Unit)),
    Episode.new "episode" "actor" 0 MemoryEpisodeRecorder.empty oneStep 0 none
        (surroundings (ε := Unit)).decisionIdFactory Tick.start = .ok start ∧
      (∀ event ∈ later, event.surroundings.finishedFault = none) ∧
      (machine.run start before).status = .terminated ∧
      ¬ (machine.run start before).StaysFinished later := by
  refine ⟨opened oneStep, toTheEnd, [submitted], new_opened oneStep,
    by simp [submitted, surroundings], by decide +kernel, ?_⟩
  rintro ⟨⟨⟨-, hanswer⟩, -⟩, -⟩
  revert hanswer
  decide +kernel

end Counting

end Episode

end AecBench.Worlds
