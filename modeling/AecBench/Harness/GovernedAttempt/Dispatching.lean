import AecBench.Harness.GovernedAttempt.Stages

/-!
# A governed attempt is dispatched at most once

Whatever the calls on a repository meet, and wherever they stop, the backend of an attempt is asked
to dispatch at most once. A stored terminal record is the last word on an attempt: no call changes
anything or asks a port from then on.

## Main definitions

* `Codec.Faithful` — what is written is read back.
* `Call.Fits` — a call that asks for a replay.

## Main results

* `run_sound_once` — the attempts of a repository are sound, after any calls.
* `finished_fixed` — calls on an attempt with a terminal record.
* `dispatched_at_most_once` — at most one dispatch, and one replay.
-/

namespace AecBench.GovernedAttempt

open Text Stateful

variable {B φ R : Type} [DecidableEq B] [DecidableEq φ] [LT φ] [DecidableLT φ]

/-- What is written is read back as it was. -/
def Codec.Faithful (codec : Codec B R) : Prop :=
  ∀ record bytes, codec.encode record = some bytes → codec.decode bytes = some record

/-- The disk does not stop the loading of an attempt and the comparison with its preflight. -/
def Conditions.Quiet (c : Conditions φ) : Prop :=
  c.loadFault = none ∧ c.publishFault .preflight = none

/-- The call asks for the replay: by its identity, or by its preflight. -/
def Call.Fits (replay : Replay φ) : Call φ → Prop
  | .execute preflight => preflight = replay.preflight
  | .replay _ => True

section Runs

variable {codecs : Codecs B φ} {dispatchKey : NonEmptyStr → String → String}
  {attemptId : NonEmptyStr} {c : Conditions φ} {state : AttemptState φ}
  {preflight : Preflight φ} {attempt : Attempt B} {replay : Replay φ}

/-! ## The invariant -/

lemma empty_valid :
    Valid codecs dispatchKey attemptId (Attempt.empty : Attempt B).files
      ⟨none, none, none, none, none, none, none, none, none⟩ := by
  refine ⟨?_, rfl⟩
  constructor <;> exact loadRecord_none_iff.mpr rfl

lemma empty_sound :
    Sound codecs dispatchKey attemptId (Attempt.empty : Attempt B) ∧
      DispatchedOnce (Attempt.empty : Attempt B) := by
  refine ⟨.valid _ empty_valid, ?_, fun _ => rfl⟩
  simp [Attempt.dispatches, Attempt.empty]

lemma stateOf_of_spec {ε σ α : Type} {P E : σ → Prop} {x : EStateM ε σ α} {Q : α → σ → Prop}
    (h : Spec P x Q E) (hQ : ∀ a s, Q a s → E s) {s : σ} (hs : P s) : E (stateOf (x s)) := by
  cases hrun : x s with
  | ok a s' => exact hQ a s' (h.ok hs hrun)
  | error e s' => exact h.error hs hrun

lemma handle_sound {event : Event φ} (hsound : Sound codecs dispatchKey event.call.attemptId attempt)
    (honce : DispatchedOnce attempt) :
    Sound codecs dispatchKey event.call.attemptId (stateOf (event.handle codecs dispatchKey attempt))
      ∧ DispatchedOnce (stateOf (event.handle codecs dispatchKey attempt)) := by
  obtain ⟨call, c⟩ := event
  cases call with
  | execute preflight =>
    exact stateOf_of_spec execute_spec (fun _ _ h => ⟨.valid _ h.1, h.2⟩) ⟨hsound, honce⟩
  | replay attemptId =>
    exact stateOf_of_spec replay_spec (fun _ _ h => ⟨.valid _ h.1, h.2⟩) ⟨hsound, honce⟩

/-- After any calls on the repository, every attempt is sound. -/
theorem run_sound_once (codecs : Codecs B φ) (dispatchKey : NonEmptyStr → String → String)
    (events : List (Event φ)) (attemptId : NonEmptyStr) :
    Sound codecs dispatchKey attemptId
        ((repository codecs dispatchKey).run (fun _ => .empty) events attemptId) ∧
      DispatchedOnce ((repository codecs dispatchKey).run (fun _ => .empty) events attemptId) := by
  rw [repository_run]
  refine (attemptMachine codecs dispatchKey).run_preserves_of_forall
    (C := fun event => event.call.attemptId = attemptId)
    (I := fun attempt => Sound codecs dispatchKey attemptId attempt ∧ DispatchedOnce attempt)
    ?_ empty_sound ?_
  · rintro attempt event ⟨hsound, honce⟩ rfl
    exact handle_sound hsound honce
  · intro event hevent
    simpa using (List.mem_filter.mp hevent).2

/-! ## Finished attempts -/

omit [DecidableEq φ] [LT φ] [DecidableLT φ] in
/-- A stage with a file is not written again. -/
lemma publishRecord_stored [DecidableEq R] (c : Conditions φ) (codec : Codec B R) (record : R)
    {stage : Stage} (hfile : attempt.files stage ≠ none) :
    publishRecord c codec stage record attempt = .ok record attempt ∨
      ∃ e, publishRecord c codec stage record attempt = .error e attempt := by
  have hspec := publishRecord_spec c codec stage record attempt
  cases hrun : publishRecord c codec stage record attempt with
  | ok selected attempt' =>
    rw [hrun] at hspec
    obtain ⟨rfl, _, -, -, ⟨-, rfl⟩ | ⟨hnone, -⟩⟩ := hspec
    · exact .inl rfl
    · exact absurd hnone hfile
  | error e attempt' =>
    rw [hrun] at hspec
    obtain rfl | ⟨hnone, -⟩ := hspec
    · exact .inr ⟨e, rfl⟩
    · exact absurd hnone hfile

lemma loadValidState_valid (c : Conditions φ)
    (h : Valid codecs dispatchKey attemptId attempt.files state) :
    loadValidState codecs dispatchKey c attemptId attempt =
      match c.loadFault with
      | some e => .error e attempt
      | none => .ok state attempt := by
  unfold loadValidState
  cases c.loadFault with
  | some e => rfl
  | none => simp [loadState_eq_ok.mpr h.loads, h.accepted]

lemma completeReplay_state (h : partialStateError dispatchKey replay.state = none) :
    completeReplay dispatchKey replay.state = .ok replay := by
  obtain ⟨replay', hstate, hreplay⟩ := complete_of_terminal h (by simp [Replay.state])
  rw [hreplay]
  cases replay
  cases replay'
  obtain ⟨rfl, rfl, rfl, rfl, rfl, rfl, rfl, rfl, rfl⟩ := hstate
  rfl

lemma preflight_stored (h : Valid codecs dispatchKey attemptId attempt.files replay.state) :
    ∃ bytes, attempt.files .preflight = some bytes ∧
      codecs.preflight.encode replay.preflight = some bytes ∧
      codecs.preflight.decode bytes = some replay.preflight := by
  obtain ⟨bytes, hfile, hencode, hdecode, -⟩ := loadRecord_some_iff.mp h.loads.preflight
  exact ⟨bytes, hfile, hencode, hdecode⟩

lemma handle_finished (event : Event φ)
    (h : Valid codecs dispatchKey event.call.attemptId attempt.files replay.state) :
    event.handle codecs dispatchKey attempt = .ok replay attempt ∨
      ∃ e, event.handle codecs dispatchKey attempt = .error e attempt := by
  obtain ⟨call, c⟩ := event
  have hload := loadValidState_valid c h
  have hreplay := completeReplay_state h.accepted
  have hterminal : replay.state.terminal = some replay.terminal := rfl
  cases call with
  | execute preflight =>
    obtain ⟨bytes, hfile, -⟩ := preflight_stored h
    simp only [Event.handle, execute, selectPreflight, Bind.bind, EStateM.bind]
    obtain hselect | ⟨e, hselect⟩ := publishRecord_stored c codecs.preflight preflight
      (by simp [hfile] : attempt.files .preflight ≠ none)
    · simp only [hselect, Call.attemptId] at hload ⊢
      rw [hload]
      cases c.loadFault with
      | some e => exact .inr ⟨e, rfl⟩
      | none =>
        simp only [executeFrom, hterminal, hreplay]
        exact .inl rfl
    · exact .inr ⟨e, by simp [hselect]⟩
  | replay attemptId =>
    simp only [Event.handle, GovernedAttempt.replay, Bind.bind, EStateM.bind, Call.attemptId]
      at hload ⊢
    rw [hload]
    cases c.loadFault with
    | some e => exact .inr ⟨e, rfl⟩
    | none =>
      simp only [replayFrom, hterminal, hreplay]
      exact .inl rfl

lemma handle_fits {event : Event φ}
    (h : Valid codecs dispatchKey event.call.attemptId attempt.files replay.state)
    (hquiet : event.conditions.Quiet) (hfits : event.call.Fits replay) :
    event.handle codecs dispatchKey attempt = .ok replay attempt := by
  obtain ⟨call, c⟩ := event
  have hload := loadValidState_valid c h
  have hreplay := completeReplay_state h.accepted
  have hterminal : replay.state.terminal = some replay.terminal := rfl
  obtain ⟨hloads, hpublish⟩ := hquiet
  simp only at hloads hpublish
  rw [hloads] at hload
  cases call with
  | execute preflight =>
    cases hfits
    obtain ⟨bytes, hfile, hencode, hdecode⟩ := preflight_stored h
    have hselect : publishRecord c codecs.preflight .preflight replay.preflight attempt =
        .ok replay.preflight attempt := by
      simp [publishRecord, readBack, hencode, hdecode, hfile, hpublish]
    simp only [Event.handle, execute, selectPreflight, Bind.bind, EStateM.bind, hselect,
      Call.attemptId] at hload ⊢
    simp only [hload, executeFrom, hterminal, hreplay]
    rfl
  | replay attemptId =>
    simp only [Event.handle, GovernedAttempt.replay, Bind.bind, EStateM.bind, Call.attemptId]
      at hload ⊢
    simp only [hload, replayFrom, hterminal, hreplay]
    rfl

lemma handle_other
    (h : Valid codecs dispatchKey preflight.attemptId attempt.files replay.state)
    (hother : preflight ≠ replay.preflight) :
    ∃ e, (Event.mk (.execute preflight) c).handle codecs dispatchKey attempt =
      .error e attempt := by
  obtain ⟨bytes, hfile, -, hdecode⟩ := preflight_stored h
  have hstored : attempt.files .preflight ≠ none := by simp [hfile]
  have hspec := publishRecord_spec c codecs.preflight .preflight preflight attempt
  simp only [Event.handle, execute, selectPreflight, Bind.bind, EStateM.bind]
  obtain hselect | ⟨e, hselect⟩ := publishRecord_stored c codecs.preflight preflight hstored
  · rw [hselect] at hspec
    obtain ⟨-, _, -, hdecode', ⟨hfile', -⟩ | ⟨hnone, -⟩⟩ := hspec
    · rw [hfile] at hfile'
      cases hfile'
      rw [hdecode] at hdecode'
      cases hdecode'
      exact absurd rfl hother
    · exact absurd hnone hstored
  · exact ⟨e, by simp [hselect]⟩

lemma Sound.finished (h : Sound codecs dispatchKey attemptId attempt)
    (hfaithful : codecs.terminal.Faithful) (hterminal : attempt.files .terminal ≠ none) :
    ∃ replay : Replay φ, Valid codecs dispatchKey attemptId attempt.files replay.state := by
  have hfinal : ∃ state : AttemptState φ, Valid codecs dispatchKey attemptId attempt.files state ∧
      state.terminal ≠ none := by
    cases h with
    | valid state hvalid =>
      refine ⟨state, hvalid, fun hnone => hterminal ?_⟩
      exact loadRecord_none_iff.mp (hvalid.loads.terminal.trans (by rw [hnone]))
    | extra files state stage bytes hvalid hnext hfiles hlast =>
      have hstage : stage = .terminal := by
        by_contra hother
        rw [hfiles, Function.update_of_ne (Ne.symm hother)] at hterminal
        have hstored : state.terminal ≠ none := fun hnone =>
          hterminal (loadRecord_none_iff.mp (hvalid.loads.terminal.trans (by rw [hnone])))
        obtain ⟨replay, rfl, -⟩ := complete_of_terminal hvalid.accepted hstored
        simp [AttemptState.next, Replay.state] at hnext
      subst hstage
      obtain ⟨terminal, hencode, hid, haccepted⟩ := hlast rfl
      have hdecode := hfaithful terminal bytes hencode
      refine ⟨{ state with terminal := some terminal }, ?_, by simp⟩
      rw [hfiles]
      exact valid_terminal hvalid hencode hdecode hid haccepted
  obtain ⟨state, hvalid, hstored⟩ := hfinal
  obtain ⟨replay, rfl, -⟩ := complete_of_terminal hvalid.accepted hstored
  exact ⟨replay, hvalid⟩

/-- Calls on a finished attempt leave it as it is. -/
theorem finished_fixed (h : Valid codecs dispatchKey attemptId attempt.files replay.state)
    (events : List (Event φ)) (hevents : ∀ event ∈ events, event.call.attemptId = attemptId) :
    (attemptMachine codecs dispatchKey).run attempt events = attempt := by
  induction events with
  | nil => rfl
  | cons event events ih =>
    have hid : event.call.attemptId = attemptId := hevents event List.mem_cons_self
    subst hid
    have hsame : (attemptMachine codecs dispatchKey).step attempt event = attempt := by
      simp only [attemptMachine]
      obtain hok | ⟨e, herror⟩ := handle_finished event h
      · rw [hok, stateOf]
      · rw [herror, stateOf]
    rw [Machine.run_cons, hsame]
    exact ih fun event' hevent' => hevents event' (List.mem_cons_of_mem _ hevent')

end Runs

/-! ## At most one dispatch -/

/-- **A governed attempt is dispatched at most once.** Over every sequence of calls on a repository,
whatever the ports answer and wherever the disk or the end of a process stops a call, the backend is
asked to dispatch at most once. Once the terminal record is stored, no call changes a file or asks a
port; a call returns one and the same replay or raises; a replay, or an execute of the stored
preflight, that the disk does not stop returns it, and an execute of another preflight raises. -/
theorem dispatched_at_most_once (codecs : Codecs B φ)
    (dispatchKey : NonEmptyStr → String → String) (events : List (Event φ))
    (attemptId : NonEmptyStr) :
    let repository := repository codecs dispatchKey
    let attempt := repository.run (fun _ => .empty) events attemptId
    attempt.dispatches ≤ 1 ∧
    (codecs.terminal.Faithful → attempt.files .terminal ≠ none →
      ∃ replay : Replay φ, ∀ later : List (Event φ),
        repository.run (fun _ => .empty) (events ++ later) attemptId = attempt ∧
        ∀ event : Event φ, event.call.attemptId = attemptId →
          (event.handle codecs dispatchKey attempt = .ok replay attempt ∨
            ∃ e, event.handle codecs dispatchKey attempt = .error e attempt) ∧
          (event.conditions.Quiet → event.call.Fits replay →
            event.handle codecs dispatchKey attempt = .ok replay attempt) ∧
          ∀ preflight, event.call = .execute preflight → preflight ≠ replay.preflight →
            ∃ e, event.handle codecs dispatchKey attempt = .error e attempt) := by
  intro repository attempt
  obtain ⟨hsound, honce⟩ := run_sound_once codecs dispatchKey events attemptId
  refine ⟨honce.once, fun hfaithful hterminal => ?_⟩
  obtain ⟨replay, hvalid⟩ := hsound.finished hfaithful hterminal
  refine ⟨replay, fun later => ⟨?_, ?_⟩⟩
  · simp only [repository, attempt, Machine.run_append]
    rw [repository_run]
    exact finished_fixed hvalid _ fun event hevent => by simpa using (List.mem_filter.mp hevent).2
  · rintro event rfl
    refine ⟨handle_finished event hvalid, handle_fits hvalid, ?_⟩
    obtain ⟨call, c⟩ := event
    rintro preflight rfl hother
    exact handle_other hvalid hother

/-! ## A rehearsal -/

namespace Rehearsal

/-- A file that holds its record as it is. -/
inductive Sheet
  | preflight (record : Preflight ℕ)
  | reservation (record : BudgetReservation ℕ)
  | permit (record : MonitorPermit)
  | intent (record : DispatchIntent)
  | receipt (record : BackendReceipt ℕ)
  | imported (record : ImportReceipt ℕ)
  | budgetClosure (record : BudgetClosure ℕ)
  | monitorClosure (record : MonitorClosure ℕ)
  | terminal (record : Terminal)
  deriving DecidableEq

def sheets : Codecs Sheet ℕ where
  preflight := ⟨fun r => some (.preflight r), fun | .preflight r => some r | _ => none⟩
  reservation := ⟨fun r => some (.reservation r), fun | .reservation r => some r | _ => none⟩
  permit := ⟨fun r => some (.permit r), fun | .permit r => some r | _ => none⟩
  intent := ⟨fun r => some (.intent r), fun | .intent r => some r | _ => none⟩
  receipt := ⟨fun r => some (.receipt r), fun | .receipt r => some r | _ => none⟩
  imported := ⟨fun r => some (.imported r), fun | .imported r => some r | _ => none⟩
  budgetClosure := ⟨fun r => some (.budgetClosure r), fun | .budgetClosure r => some r | _ => none⟩
  monitorClosure :=
    ⟨fun r => some (.monitorClosure r), fun | .monitorClosure r => some r | _ => none⟩
  terminal := ⟨fun r => some (.terminal r), fun | .terminal r => some r | _ => none⟩

/-- The dispatch key, here the payload itself. -/
def payloadKey (_ : NonEmptyStr) (payload : String) : String := payload

def rehearsalId : NonEmptyStr := ⟨"governed-rehearsal", by decide⟩
def ticketId : NonEmptyStr := ⟨"rehearsal-ticket", by decide⟩

/-- One hash of evidence. -/
def sceneHash : String := "5ce4e5ce4e5ce4e5ce4e5ce4e5ce4e5ce4e5ce4e5ce4e5ce4e5ce4e5ce4e5ce4"

lemma sceneHash_digest : ∀ h ∈ [sceneHash], HexDigest h := by
  intro h hh
  rw [List.mem_singleton.mp hh]
  decide +kernel

def scene : EvidenceHashes :=
  ⟨[sceneHash], List.cons_ne_nil _ _, sceneHash_digest, List.pairwise_singleton _ _⟩

def noUsage : Usage ℕ := ⟨0, 0, 0, 0, 0, 0, 0⟩
def smallLimits : UsageLimits ℕ := ⟨4, none, none, 60⟩

def script : Preflight ℕ := ⟨rehearsalId, "workload", "payload", smallLimits, scene⟩

/-- The same attempt with another payload. -/
def otherScript : Preflight ℕ := { script with dispatchPayloadSha256 := "another payload" }

/-- Ports that give what is asked for, and a quiet disk. -/
def obliging : Conditions ℕ where
  loadFault := none
  publishFault _ := none
  reserve p := .gives ⟨p.attemptId, ticketId, p.maximumUsage⟩
  authorize p r := .gives ⟨p.attemptId, r.reservationId, ticketId⟩
  dispatch i := .gives ⟨i.attemptId, i.dispatchKeySha256, ticketId, noUsage, scene⟩
  reconcile i := .gives (some ⟨i.attemptId, i.dispatchKeySha256, ticketId, noUsage, scene⟩)
  importResult p b := .gives
    ⟨p.attemptId, b.backendReceiptId, ticketId, b.observedUsage, b.effectEvidence, scene⟩
  closeBudget r b im := .gives
    ⟨r.attemptId, r.reservationId, b.backendReceiptId, im.importId, b.observedUsage,
      b.effectEvidence⟩
  closeMonitor m b im _ := .gives
    ⟨m.attemptId, m.permitId, b.backendReceiptId, im.importId, b.observedUsage, b.effectEvidence⟩

/-- The attempt after one execute. -/
def rehearsed : Attempt Sheet :=
  (repository sheets payloadKey).run (fun _ => .empty) [⟨.execute script, obliging⟩] rehearsalId

lemma rehearsed_terminal : rehearsed.files .terminal ≠ none := by decide +kernel

/-- An execute with another preflight does not return the replay of the attempt. -/
theorem not_same_replay :
    rehearsed.files .terminal ≠ none ∧ otherScript.attemptId = rehearsalId ∧
      execute sheets payloadKey obliging otherScript rehearsed =
        .error (.collision "governed attempt preflight already contains different immutable content")
          rehearsed := by
  exact ⟨rehearsed_terminal, rfl, rfl⟩

/-- What is stored by a completed rehearsal stays, and is returned by every call that fits. -/
theorem rehearsed_dispatched_at_most_once :
    rehearsed.dispatches ≤ 1 ∧ ∃ replay : Replay ℕ, ∀ c : Conditions ℕ, c.Quiet →
      (Event.mk (.replay rehearsalId) c).handle sheets payloadKey rehearsed =
        .ok replay rehearsed := by
  obtain ⟨honce, hfinished⟩ := dispatched_at_most_once sheets payloadKey
    [⟨.execute script, obliging⟩] rehearsalId
  refine ⟨honce, ?_⟩
  obtain ⟨replay, hreplay⟩ := hfinished (by rintro record bytes ⟨⟩; rfl) rehearsed_terminal
  exact ⟨replay, fun c hquiet => ((hreplay []).2 ⟨.replay rehearsalId, c⟩ rfl).2.1 hquiet trivial⟩

end Rehearsal

end AecBench.GovernedAttempt
