import AecBench.Lib.Trails
import AecBench.Worlds.Runtime.Finishing

/-!
# The chain of recorded steps

An accepted step is recorded before the live episode follows, so that a failure in between leaves
the record one step ahead; the next call finds that step recorded already. The decision for the
next step is built after the live episode has followed. When the world cannot say which actions are
available there, the decision that was answered stays in place, and the next step is recorded under
its id as well.

## Main definitions

* `Place` — a state, its step index and the id of its decision; `Place.before`, `Place.after` — the
  places around a recorded step.
* `Episode.NextDecisionBuilt` — an accepted step gets its next decision.
* `Episode.Recorded` — what the record says about the live episode.

## Main results

* `Episode.recorded_run` — the record is a chain, and the live episode is at its end or one step
  before.
* `Episode.decisions_used_once` — no decision is used twice.
-/

namespace AecBench.Worlds

/-- Where an episode stands between two steps. -/
structure Place (S : Type) where
  state : S
  stepIndex : ℕ
  decisionId : Option String

section Places

variable {S O A U ε : Type}

def Place.before (step : EpisodeStepRecorded S O A U) : Place S :=
  ⟨step.priorState, step.stepIndex, some step.decisionId⟩

def Place.after (step : EpisodeStepRecorded S O A U) : Place S :=
  ⟨step.nextState, step.stepIndex + 1, step.nextDecisionId⟩

/-- The recorded steps lead from one place to the next. -/
abbrev StepChain (start : Place S) (steps : List (EpisodeStepRecorded S O A U)) : Prop :=
  Trail.Leads Place.before Place.after start steps

/-- Where the recorded steps end. -/
abbrev lastPlace (start : Place S) (steps : List (EpisodeStepRecorded S O A U)) : Place S :=
  Trail.last Place.after start steps

variable [DecidableEq S] [DecidableEq O] [DecidableEq A] [DecidableEq U]

lemma recordStep_ok {event : EpisodeStepRecorded S O A U} {r r' : MemoryEpisodeRecorder S O A U}
    (h : r.recordStep (ε := ε) event = .ok r') :
    (r' = r ∧ r.steps[event.stepIndex]? = some event) ∨
      (r'.steps = r.steps ++ [event] ∧ r.steps.length = event.stepIndex) := by
  unfold MemoryEpisodeRecorder.recordStep at h
  split at h
  · rename_i step hstep
    split at h
    · cases h
    · rename_i hsame
      rw [not_not] at hsame
      cases h
      exact .inl ⟨rfl, hsame ▸ hstep⟩
  · split at h
    · cases h
    · rename_i hlength
      rw [not_not] at hlength
      cases h
      exact .inr ⟨rfl, hlength⟩

end Places

namespace Episode

open MemoryEpisodeRecorder

variable {S O A U K τ ε : Type} [Zero τ] [LE τ] {start e : Episode S O A U K τ}
  {w : Surroundings S O A U K τ ε}

/-- The place of the live episode. -/
def place (e : Episode S O A U K τ) : Place S := ⟨e.state, e.stepIndex, some e.decisionId⟩

/-- The live episode is where the record ends. -/
structure Settled (start e : Episode S O A U K τ) : Prop where
  state : (lastPlace start.place e.recorder.steps).state = e.state
  stepIndex : (lastPlace start.place e.recorder.steps).stepIndex = e.stepIndex
  decisionId : e.status = .active →
    (lastPlace start.place e.recorder.steps).decisionId = some e.decisionId

/-- The live episode is one step behind the record. -/
def Pending (e : Episode S O A U K τ) : Prop :=
  ∃ steps step, e.recorder.steps = steps ++ [step] ∧ Place.before step = e.place

/-- What the record says about the live episode. -/
structure Recorded (start e : Episode S O A U K τ) : Prop where
  chain : StepChain start.place e.recorder.steps
  origin : e.recorder.steps ≠ [] → start.stepIndex = 0
  live : start.Settled e ∨ e.Pending
  decision : ∀ decision ∈ e.decision, decision.decisionId.val = e.decisionId

lemma lastPlace_stepIndex (h : start.Recorded e) :
    (lastPlace start.place e.recorder.steps).stepIndex =
      start.stepIndex + e.recorder.steps.length :=
  Trail.last_measure (f := Place.stepIndex) (fun _ => rfl) h.chain

lemma Recorded.congr {e' : Episode S O A U K τ} (h : start.Recorded e)
    (hsteps : e'.recorder.steps = e.recorder.steps) (hstate : e'.state = e.state)
    (hindex : e'.stepIndex = e.stepIndex) (hid : e'.decisionId = e.decisionId)
    (hstatus : e'.status = .active → e.status = .active)
    (hdecision : ∀ decision ∈ e'.decision, decision.decisionId.val = e.decisionId) :
    start.Recorded e' where
  chain := by rw [hsteps]; exact h.chain
  origin hne := h.origin (hsteps ▸ hne)
  live := by
    obtain hsettled | ⟨steps, step, heq, hbefore⟩ := h.live
    · left
      constructor <;> simp only [hsteps, hstate, hindex, hid]
      · exact hsettled.state
      · exact hsettled.stepIndex
      · exact fun hactive => hsettled.decisionId (hstatus hactive)
    · right
      refine ⟨steps, step, hsteps.trans heq, ?_⟩
      rw [hbefore, place, place, hstate, hindex, hid]
  decision := by rw [hid]; exact hdecision

lemma recordOpened_steps [DecidableEq S] [DecidableEq O] {event : EpisodeOpened S O}
    {r r' : MemoryEpisodeRecorder S O A U} (h : r.recordOpened (ε := ε) event = .ok r') :
    r'.steps = r.steps := by
  unfold recordOpened at h
  split at h <;> cases h
  rfl

lemma before_stepEvent {decision : Decision O K} {action : A} {t : Transition S U}
    {nextId : Option String} {nextObservation : Option O} (h : start.Recorded e)
    (hdecision : e.decision = some decision) :
    Place.before (e.stepEvent decision action t nextId nextObservation) = e.place := by
  rw [place, ← h.decision decision hdecision]
  rfl

lemma finish_recorded {status : EpisodeStatus} (reason : String) (h : start.Recorded e)
    (hstatus : status ≠ .active) : start.Recorded (e.finish w status reason).1 := by
  unfold finish
  split
  · rename_i recorder err hattempt
    refine h.congr ?_ rfl rfl rfl id h.decision
    obtain hsame | hfinished := attempt_stores hattempt
    · exact congrArg steps hsame
    · exact (recordFinished_ok hfinished).2.1
  · rename_i recorder hattempt
    exact h.congr (recordFinished_ok (record_of_attempt hattempt)).2.1 rfl rfl rfl
      (fun hstill => absurd hstill hstatus) nofun

variable [DecidableEq S] [DecidableEq O] [DecidableEq A] [DecidableEq U]

lemma recorded_step {event : EpisodeStepRecorded S O A U} {r : MemoryEpisodeRecorder S O A U}
    (h : start.Recorded e) (hactive : e.status = .active) (hevent : Place.before event = e.place)
    (hr : e.recorder.recordStep (ε := ε) event = .ok r) :
    StepChain start.place r.steps ∧ start.stepIndex = 0 ∧
      ∃ steps, r.steps = steps ++ [event] := by
  have hindex : event.stepIndex = e.stepIndex := congrArg Place.stepIndex hevent
  have hlast := lastPlace_stepIndex h
  obtain hsettled | ⟨steps, step, heq, hbefore⟩ := h.live
  · obtain ⟨-, hstored⟩ | ⟨hsteps, hlength⟩ := recordStep_ok hr
    · -- No step is recorded at the index of a settled episode.
      have hbound := (List.getElem?_eq_some_iff.mp hstored).1
      rw [hsettled.stepIndex] at hlast
      omega
    · rw [hsettled.stepIndex] at hlast
      refine ⟨?_, by omega, _, hsteps⟩
      rw [hsteps, StepChain, Trail.leads_concat]
      refine ⟨h.chain, hevent.trans ?_⟩
      have hid := hsettled.decisionId hactive
      rw [place, ← hsettled.state, ← hsettled.stepIndex, ← hid]
  · have hzero : start.stepIndex = 0 := h.origin (by simp [heq])
    have hstep : step.stepIndex = steps.length := by
      rw [heq, lastPlace, Trail.last_concat, List.length_append, List.length_singleton] at hlast
      have : step.stepIndex + 1 = start.stepIndex + (steps.length + 1) := hlast
      omega
    have hsame : e.stepIndex = step.stepIndex := (congrArg Place.stepIndex hbefore).symm
    obtain ⟨rfl, hstored⟩ | ⟨-, hlength⟩ := recordStep_ok hr
    · rw [hindex, hsame, hstep, heq, List.getElem?_concat_length, Option.some.injEq] at hstored
      exact ⟨h.chain, hzero, steps, hstored ▸ heq⟩
    · rw [heq, List.length_append, List.length_singleton] at hlength
      omega

section Steps

variable {event : EpisodeStepRecorded S O A U} {r : MemoryEpisodeRecorder S O A U}
  {e' : Episode S O A U K τ}

lemma Recorded.pending (h : start.Recorded e) (hactive : e.status = .active)
    (hevent : Place.before event = e.place) (hr : e.recorder.recordStep (ε := ε) event = .ok r)
    (hsteps : e'.recorder.steps = r.steps) (hplace : e'.place = e.place)
    (hdecision : e'.decision = e.decision) : start.Recorded e' := by
  obtain ⟨hchain, hzero, steps, heq⟩ := recorded_step h hactive hevent hr
  refine ⟨hsteps ▸ hchain, fun _ => hzero, .inr ⟨steps, event, hsteps.trans heq, ?_⟩, ?_⟩
  · rw [hevent, hplace]
  · have hid : e'.decisionId = e.decisionId :=
      Option.some.inj (congrArg Place.decisionId hplace)
    rw [hdecision, hid]
    exact h.decision

lemma Recorded.advanced (h : start.Recorded e) (hactive : e.status = .active)
    (hevent : Place.before event = e.place) (hr : e.recorder.recordStep (ε := ε) event = .ok r)
    (hsteps : e'.recorder.steps = r.steps) (hstate : e'.state = event.nextState)
    (hindex : e'.stepIndex = e.stepIndex + 1)
    (hid : e'.status = .active → event.nextDecisionId = some e'.decisionId)
    (hdecision : ∀ decision ∈ e'.decision, decision.decisionId.val = e'.decisionId) :
    start.Recorded e' := by
  obtain ⟨hchain, hzero, steps, heq⟩ := recorded_step h hactive hevent hr
  have hlast : lastPlace start.place e'.recorder.steps = Place.after event := by
    rw [hsteps, heq, lastPlace, Trail.last_concat]
  refine ⟨hsteps ▸ hchain, fun _ => hzero, .inl ⟨?_, ?_, ?_⟩, hdecision⟩
  · rw [hlast, hstate]
    rfl
  · rw [hlast, hindex, ← show event.stepIndex = e.stepIndex from congrArg Place.stepIndex hevent]
    rfl
  · intro hstill
    rw [hlast]
    exact hid hstill

end Steps

/-- The world says what it shows and allows in the state after an accepted step. -/
def Shows (w : Surroundings S O A U K τ ε) (state : S) : Prop :=
  (∃ actions, actionsOf w.availableActions state = .ok actions) ∧ w.observe state ≠ .ok none

variable [Sub τ] [DecidableLE τ]

lemma accept_recorded {decision : Decision O K} {action : A} {t : Transition S U}
    (h : start.Recorded e) (hactive : e.status = .active) (hdecision : e.decision = some decision)
    (hshows : e.ending w t = none → Shows w t.state) :
    start.Recorded (e.accept w decision action t).1 := by
  unfold accept
  split
  · split
    · rename_i recorder err hattempt
      obtain hsame | hstored := attempt_stores hattempt
      · exact h.congr (congrArg steps hsame) rfl rfl rfl id h.decision
      · exact h.pending hactive (before_stepEvent h hdecision) hstored rfl rfl rfl
    · rename_i recorder hattempt
      have hstored := record_of_attempt hattempt
      split
      · rename_i recorder' err hattempt'
        refine h.pending hactive (before_stepEvent h hdecision) hstored ?_ rfl rfl
        obtain hsame | hfinished := attempt_stores hattempt'
        · exact congrArg steps hsame
        · exact (recordFinished_ok hfinished).2.1
      · rename_i status reason hending _ _ recorder' hattempt'
        have hended : status ≠ .active := by
          obtain rfl | ⟨rfl, -⟩ := ending_eq hending <;> decide
        exact h.advanced hactive (before_stepEvent h hdecision) hstored
          (recordFinished_ok (record_of_attempt hattempt')).2.1 rfl rfl
          (fun hstill => absurd hstill hended) nofun
  · rename_i hending
    obtain ⟨⟨actions, hactions⟩, hobserve⟩ := hshows hending
    split
    · exact h.congr rfl rfl rfl rfl id h.decision
    · rename_i nextId hnext
      split
      · exact h.congr rfl rfl rfl rfl id h.decision
      · rename_i nextObservation hobserved
        split
        · rename_i recorder err hattempt
          obtain hsame | hstored := attempt_stores hattempt
          · exact h.congr (congrArg steps hsame) rfl rfl rfl id h.decision
          · exact h.pending hactive (before_stepEvent h hdecision) hstored rfl rfl rfl
        · rename_i recorder hattempt
          have hstored := record_of_attempt hattempt
          split
          · rename_i hfails
            rw [hactions] at hfails
            cases hfails
          · exact absurd hobserved hobserve
          · refine h.advanced hactive (before_stepEvent h hdecision) hstored rfl rfl rfl
              (fun _ => rfl) ?_
            rintro _ ⟨⟩
            rfl

/-- The step that this call may accept gets its next decision. -/
def NextDecisionBuilt (e : Episode S O A U K τ) (event : Event S O A U K τ ε) : Prop :=
  ∀ submission t, event.call = .submit submission →
    (∃ decision ∈ e.decision, decision.decisionId.val = submission.decisionId) →
    event.surroundings.transition e.state submission.action = .ok (.accepted t) →
    e.ending event.surroundings t = none → Shows event.surroundings t.state

omit [DecidableEq A] [DecidableEq U] in
lemma currentDecision_recorded (h : start.Recorded e) :
    start.Recorded (e.currentDecision w).1 := by
  unfold currentDecision
  split
  · rename_i limited hlimit
    have hfinish := finish_recorded (w := w) limited h
      (show EpisodeStatus.truncated ≠ .active by decide)
    split <;> (rename_i heq; rw [heq] at hfinish; exact hfinish)
  · split
    · exact h
    · split
      · exact h
      · split
        · exact h
        · split
          · exact h
          · split
            · exact h
            · split
              · refine h.congr rfl rfl rfl rfl id ?_
                rintro _ ⟨⟩
                rfl
              · split
                · rename_i hattempt
                  refine h.congr ?_ rfl rfl rfl id h.decision
                  obtain hsame | hopened := attempt_stores hattempt
                  · exact congrArg steps hsame
                  · exact recordOpened_steps hopened
                · rename_i hattempt
                  refine h.congr (recordOpened_steps (record_of_attempt hattempt)) rfl rfl rfl id ?_
                  rintro _ ⟨⟩
                  rfl

lemma submit_recorded {submission : ActionSubmission A} (h : start.Recorded e)
    (hbuilt : e.NextDecisionBuilt ⟨.submit submission, w⟩) :
    start.Recorded (e.submit w submission).1 := by
  unfold submit
  split
  · rename_i limited hlimit
    have hfinish := finish_recorded (w := w) limited h
      (show EpisodeStatus.truncated ≠ .active by decide)
    split <;> (rename_i heq; rw [heq] at hfinish; exact hfinish)
  · split
    · exact h
    · rename_i hactive
      rw [not_not] at hactive
      split
      · exact h
      · rename_i decision hdecision
        split
        · exact h
        · rename_i hid
          rw [not_not] at hid
          split
          · exact h.congr rfl rfl rfl rfl id h.decision
          · exact h.congr rfl rfl rfl rfl id h.decision
          · rename_i t htransition
            exact accept_recorded (h.congr rfl rfl rfl rfl id h.decision) hactive hdecision
              (hbuilt submission t rfl ⟨decision, hdecision, hid.symm⟩ htransition)

lemma handle_recorded {event : Event S O A U K τ ε} (h : start.Recorded e)
    (hbuilt : e.NextDecisionBuilt event) : start.Recorded (e.handle event).1 := by
  obtain ⟨call, w⟩ := event
  cases call with
  | currentDecision => exact currentDecision_recorded h
  | submit submission => exact submit_recorded h hbuilt

/-- **The record is a chain** after every run whose accepted steps get their next decision. -/
theorem recorded_run (hsteps : start.recorder.steps = []) (hdecision : start.decision = none)
    {events : List (Event S O A U K τ ε)} (hbuilt : machine.Along NextDecisionBuilt start events) :
    start.Recorded (machine.run start events) := by
  refine Machine.run_preserves (I := start.Recorded) (fun _ _ h => handle_recorded h) ?_ hbuilt
  refine ⟨by simp [hsteps, StepChain, Trail.Leads], by simp [hsteps], .inl ?_, by simp [hdecision]⟩
  constructor <;> simp [hsteps, lastPlace, place]

/-- The state and the step index after these recorded steps. -/
def stateAfter (start : Episode S O A U K τ) (steps : List (EpisodeStepRecorded S O A U)) : S × ℕ :=
  ((lastPlace start.place steps).state, (lastPlace start.place steps).stepIndex)

/-- **Every decision is used at most once**, and the record is a chain with the live episode at its
end or one step before, as long as every accepted step gets its next decision. -/
theorem decisions_used_once {episodeId actorId : String} {state : S}
    {recorder : MemoryEpisodeRecorder S O A U} {limits : EpisodeLimits τ} {stepIndex : ℤ}
    {decisionId : Option String} {factory : S → ℕ → Except ε String} {openedAt : τ}
    (hnew : Episode.new episodeId actorId state recorder limits stepIndex decisionId factory
      openedAt = .ok start)
    (hempty : recorder.steps = []) (events : List (Event S O A U K τ ε))
    (hdistinct : (start.decisionId ::
      (machine.run start events).recorder.steps.filterMap (·.nextDecisionId)).Nodup)
    (hbuilt : machine.Along NextDecisionBuilt start events) :
    ((machine.run start events).recorder.steps.map (·.decisionId)).Nodup ∧
      StepChain start.place (machine.run start events).recorder.steps ∧
      (stateAfter start (machine.run start events).recorder.steps =
          ((machine.run start events).state, (machine.run start events).stepIndex) ∨
        stateAfter start (machine.run start events).recorder.steps.dropLast =
          ((machine.run start events).state, (machine.run start events).stepIndex)) := by
  obtain ⟨-, hrecorder, hdecision⟩ := new_fresh hnew
  have h := recorded_run (hrecorder ▸ hempty) hdecision hbuilt
  refine ⟨?_, h.chain, ?_⟩
  · exact hdistinct.sublist
      (Trail.sublist_names (·.decisionId) Place.decisionId (fun _ => rfl) h.chain)
  · obtain hsettled | ⟨steps, step, heq, hbefore⟩ := h.live
    · exact .inl (Prod.ext hsettled.state hsettled.stepIndex)
    · right
      have hchain := h.chain
      rw [heq, StepChain, Trail.leads_concat] at hchain
      rw [heq, List.dropLast_concat, stateAfter, lastPlace, ← hchain.2, hbefore]
      rfl

/-! ## The world that counts -/

namespace Counting

/-- The world cannot say which actions are available. -/
def unavailable : Surroundings ℕ ℕ ℕ ℕ Unit Tick Unit :=
  { surroundings with availableActions := some fun _ => .error () }

/-- Two steps, the first one in these surroundings, the second one on the decision with this id. -/
def twoSteps (first : Surroundings ℕ ℕ ℕ ℕ Unit Tick Unit) (second : String) :
    List (Event ℕ ℕ ℕ ℕ Unit Tick Unit) :=
  [⟨.currentDecision, surroundings⟩, ⟨.submit ⟨"d", 1⟩, first⟩, ⟨.submit ⟨second, 1⟩, surroundings⟩]

lemma nextDecisionBuilt (e : Episode ℕ ℕ ℕ ℕ Unit Tick) (call : Call ℕ) :
    e.NextDecisionBuilt (ε := Unit) ⟨call, surroundings⟩ := by
  intro submission t _ _ _ _
  exact ⟨⟨none, rfl⟩, by simp [surroundings]⟩

/-- Two steps on two decisions. -/
theorem decisions_used_once_counting :
    ((machine.run (opened unlimited) (twoSteps surroundings "dd")).recorder.steps.map
      (·.decisionId)).Nodup :=
  (decisions_used_once (new_opened unlimited) rfl (twoSteps surroundings "dd") (by decide +kernel)
    ⟨nextDecisionBuilt _ _, nextDecisionBuilt _ _, nextDecisionBuilt _ _, trivial⟩).1

/-- After a step whose available actions are unknown the same decision is used again. -/
theorem not_used_once_unavailable : ∃ (start : Episode ℕ ℕ ℕ ℕ Unit Tick)
    (events : List (Event ℕ ℕ ℕ ℕ Unit Tick Unit)),
    Episode.new "episode" "actor" 0 MemoryEpisodeRecorder.empty unlimited 0 none
        (surroundings (ε := Unit)).decisionIdFactory Tick.start = .ok start ∧
      (start.decisionId ::
        (machine.run start events).recorder.steps.filterMap (·.nextDecisionId)).Nodup ∧
      ¬ ((machine.run start events).recorder.steps.map (·.decisionId)).Nodup :=
  ⟨opened unlimited, twoSteps unavailable "d", new_opened unlimited, by decide +kernel,
    by decide +kernel⟩

end Counting

end Episode

end AecBench.Worlds
