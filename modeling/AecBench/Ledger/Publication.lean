import Mathlib.Data.Fintype.Basic
import AecBench.Ledger.ImmutableByteStore

/-!
# Publication

What is published at a path stays there, unless a call takes its link back after another call has
read the same bytes there. A rollback removes only the file that the call has linked itself, but the
identity of the file does not say who relies on it.

## Main definitions

* `Stage.Published`, `Stage.Settled` — when the file of a call may be at the path, and when a call
  has read its bytes there for the last time.
* `Final` — what a run of publications has to keep.
* `Undisturbed` — a step that removes no entry on which a call relies.

## Main results

* `publication_final` — runs of undisturbed steps are final.
* `collision_unchanged` — a call that collides has not changed what is stored, in any run.
* `not_final_rolledBack` — a rollback that takes back what another call has confirmed.
-/

namespace AecBench.Ledger.ImmutableByteStore

variable {ι : Type}

/-! ## Stages -/

namespace Stage

/-- The file of the call may be linked at the path. -/
def Published : Stage ι → Prop
  | opening | probing | replaying | creating | identifying | writing _ | checking | linking
  | comparing => False
  | inspecting | validating _ | rollingBack _ _ | unlinking _ | undone _ | flushing | removing _
  | closing _ | confirming | returning | returned | raised _ | crashed => True

/-- The call has read its bytes at the path, and returns if nothing fails. -/
def Settled : Stage ι → Prop
  | replaying | returning | returned => True
  | opening | probing | creating | identifying | writing _ | checking | linking | comparing
  | inspecting | validating _ | rollingBack _ _ | unlinking _ | undone _ | flushing | removing _
  | closing _ | confirming | raised _ | crashed => False

instance : ∀ stage : Stage ι, Decidable stage.Settled
  | replaying | returning | returned => isTrue trivial
  | opening | probing | creating | identifying | writing _ | checking | linking | comparing
  | inspecting | validating _ | rollingBack _ _ | unlinking _ | undone _ | flushing | removing _
  | closing _ | confirming | raised _ | crashed => isFalse id

/-- The call is about to remove the entry of the path. -/
def Unlinks : Stage ι → Prop
  | unlinking _ => True
  | _ => False

instance : ∀ stage : Stage ι, Decidable stage.Unlinks
  | unlinking _ => isTrue trivial
  | opening | probing | replaying | creating | identifying | writing _ | checking | linking
  | comparing | inspecting | validating _ | rollingBack _ _ | undone _ | flushing | removing _
  | closing _ | confirming | returning | returned | raised _ | crashed => isFalse id

/-- The error with which a rollback ends. -/
def rollback : Stage ι → Option ArtifactError
  | rollingBack _ error | unlinking error | undone error => some error
  | opening | probing | replaying | creating | identifying | writing _ | checking | linking
  | comparing | inspecting | validating _ | flushing | removing _ | closing _ | confirming
  | returning | returned | raised _ | crashed => none

/-- A collision can still be raised, or has been. -/
def MayCollide : Stage ι → Prop
  | opening | probing | creating | identifying | writing _ | checking | linking | comparing => True
  | removing pending | closing pending => ∃ error ∈ pending, error.kind = .collision
  | raised error => error.kind = .collision
  | replaying | inspecting | validating _ | rollingBack _ _ | unlinking _ | undone _ | flushing
  | confirming | returning | returned | crashed => False

end Stage

/-! ## What a step does -/

section Step

variable [DecidableEq ι] {path : RelativePath} {content : Bytes} {i : ι} {d : Directory ι}
  {stage : Stage ι} {event : StepEvent}

section Errors

variable (cause : String) (call : SystemCall)

/-! ### No failure of a system call is a collision -/

@[simp] lemma loadError_kind : (loadError path cause call).kind ≠ .collision := by
  cases call <;> simp [loadError]

@[simp] lemma parentError_kind : (parentError cause call).kind ≠ .collision := by
  cases call <;> simp [parentError]

@[simp] lemma removalError_kind : (removalError cause call).kind ≠ .collision := by
  cases call <;> simp [removalError, temporaryError]

end Errors

/-- What is being written, and that a complete file is linked. -/
def Written (content : Bytes) (i : ι) (d : Directory ι) : Stage ι → Prop
  | .identifying => d.file i = []
  | .writing remaining => d.file i ++ remaining = content
  | .checking | .linking => d.file i = content
  | .opening | .probing | .replaying | .creating | .comparing | .inspecting | .validating _
  | .rollingBack _ _ | .unlinking _ | .undone _ | .flushing | .removing _ | .closing _
  | .confirming | .returning | .returned | .raised _ | .crashed => True

/-- What a step does to the directory and to the stage of its call. -/
structure PublishStep (path : RelativePath) (content : Bytes) (i : ι) (d : Directory ι)
    (stage : Stage ι) (event : StepEvent) : Prop where
  /-- A call does not write its file any more when it may be linked. -/
  file : stage.Published → (publish path content i d stage event).1.file i = d.file i
  /-- A file that may be linked may be so after every step. -/
  published : stage.Published → (publish path content i d stage event).2.Published
  /-- A call links its file when nothing is there, and a rollback removes what is there. -/
  entry : (publish path content i d stage event).1.entry = d.entry ∨
    (stage = .linking ∧ d.entry = none ∧
      publish path content i d stage event = ({ d with entry := some i }, .inspecting)) ∨
    ∃ error, stage = .unlinking error ∧ event = .done ∧ d.entry ≠ none ∧
      publish path content i d stage event = ({ d with entry := none }, .undone error)
  /-- A call that has read its bytes for the last time has done so now or before. -/
  settled : (publish path content i d stage event).2.Settled →
    (publish path content i d stage event).1 = d ∧
      (stage.Settled ∨ ∃ k, d.entry = some k ∧ d.file k = content)
  /-- The error of a rollback is not a collision. -/
  rollback : (∀ error ∈ stage.rollback, error.kind ≠ .collision) →
    ∀ error ∈ (publish path content i d stage event).2.rollback, error.kind ≠ .collision
  /-- A call that cannot collide any more does not do so later. -/
  mayCollide : (∀ error ∈ stage.rollback, error.kind ≠ .collision) → ¬ stage.MayCollide →
    ¬ (publish path content i d stage event).2.MayCollide
  /-- The file of a call is complete when it is linked. -/
  written : Written content i d stage → Written content i (publish path content i d stage event).1
    (publish path content i d stage event).2

/-- **A step of a publication**, by the cases of its stage and of what it finds. -/
theorem publish_step (path : RelativePath) (content : Bytes) (i : ι) (d : Directory ι)
    (stage : Stage ι) (event : StepEvent) : PublishStep path content i d stage event where
  file h := by
    fun_cases publish path content i d stage event <;> first | rfl | exact False.elim h
  published h := by
    fun_cases publish path content i d stage event <;> trivial
  entry := by
    fun_cases publish path content i d stage event
    case case19 hnone => exact .inr (.inl ⟨rfl, hnone, rfl⟩)
    case case37 hsome => exact .inr (.inr ⟨_, rfl, rfl, by simp [hsome], rfl⟩)
    all_goals exact .inl rfl
  settled := by
    fun_cases publish path content i d stage event
    -- the bytes at the path are compared before the replay and after the publication
    case case5 hentry hfile => exact fun _ => ⟨rfl, .inr ⟨_, hentry, not_not.mp hfile⟩⟩
    case case52 hentry hfile => exact fun _ => ⟨rfl, .inr ⟨_, hentry, not_not.mp hfile⟩⟩
    all_goals first | exact False.elim | exact fun h => ⟨rfl, .inl h⟩
  rollback := by
    fun_cases publish path content i d stage event
    all_goals first | exact id | simp [Stage.rollback, missingError, driftError]
  mayCollide := by
    fun_cases publish path content i d stage event
    all_goals first
      | exact fun _ _ => id
      | exact fun _ => id
      | exact fun _ h => False.elim (h trivial)
      | simp [Stage.rollback, Stage.MayCollide, flushError, identityError, temporaryError,
          missingError, driftError]
  written := by
    fun_cases publish path content i d stage event
    all_goals first | exact fun _ => trivial | exact id | simp [Written]

end Step

/-! ## Assertions about calls -/

section Calls

variable [DecidableEq ι] {path : RelativePath} {content : ι → Bytes}

/-- What holds of a call in every run. -/
structure Sound (content : ι → Bytes) (i : ι) (d : Directory ι) (stage : Stage ι) : Prop where
  written : Written (content i) i d stage
  /-- What is linked at the path is a complete file of a call that has come that far. -/
  linked : d.entry = some i → d.file i = content i ∧ stage.Published
  rollback : ∀ error ∈ stage.rollback, error.kind ≠ .collision

/-- The bytes that a call has read for the last time are at the path. -/
def Relied (content : ι → Bytes) (i : ι) (d : Directory ι) (stage : Stage ι) : Prop :=
  stage.Settled → ∃ k, d.entry = some k ∧ d.file k = content i

/-- No entry is removed on which a call relies. -/
def Undisturbed (c : Interleaving.Config ι (Directory ι) (Stage ι)) (step : ι × StepEvent) : Prop :=
  (c.place step.1).Unlinks ∧ step.2 = .done ∧ c.shared.entry.isSome → ∀ j, ¬ (c.place j).Settled

instance [Fintype ι] (c : Interleaving.Config ι (Directory ι) (Stage ι)) (step : ι × StepEvent) :
    Decidable (Undisturbed c step) := inferInstanceAs (Decidable (_ → ∀ _, _))

variable {i : ι} {d : Directory ι} {stage : Stage ι}

lemma Sound.step (h : Sound content i d stage) (event : StepEvent) :
    Sound content i (publish path (content i) i d stage event).1
      (publish path (content i) i d stage event).2 where
  written := (publish_step path (content i) i d stage event).written h.written
  linked := by
    intro hentry
    obtain hsame | ⟨rfl, -, hstep⟩ | ⟨error, rfl, -, -, hstep⟩ :=
      (publish_step path (content i) i d stage event).entry
    · rw [hsame] at hentry
      obtain ⟨hfile, hpublished⟩ := h.linked hentry
      rw [(publish_step path (content i) i d stage event).file hpublished]
      exact ⟨hfile, (publish_step path (content i) i d stage event).published hpublished⟩
    · rw [hstep]
      exact ⟨h.written, trivial⟩
    · rw [hstep] at hentry
      exact absurd hentry (by simp)
  rollback := (publish_step path (content i) i d stage event).rollback h.rollback

lemma Sound.other {j : ι} (hne : j ≠ i) (h : Sound content j d stage) (stage' : Stage ι)
    (event : StepEvent) : Sound content j (publish path (content i) i d stage' event).1 stage := by
  have hfile : (publish path (content i) i d stage' event).1.file j = d.file j :=
    publish_file_of_ne hne
  refine ⟨?_, ?_, h.rollback⟩
  · have hwritten := h.written
    cases stage <;> simp_all [Written]
  · intro hentry
    rw [hfile]
    obtain hsame | ⟨rfl, -, hstep⟩ | ⟨error, rfl, -, -, hstep⟩ :=
      (publish_step path (content i) i d stage' event).entry
    · exact h.linked (hsame ▸ hentry)
    · rw [hstep, Option.some.injEq] at hentry
      exact absurd hentry.symm hne
    · rw [hstep] at hentry
      exact absurd hentry (by simp)

lemma Relied.step (h : Relied content i d stage) (event : StepEvent) :
    Relied content i (publish path (content i) i d stage event).1
      (publish path (content i) i d stage event).2 := by
  intro hsettled
  obtain ⟨hd, hbefore | hread⟩ := (publish_step _ _ _ _ _ _).settled hsettled
  · rw [hd]
    exact h hbefore
  · rw [hd]
    exact hread

lemma Sound.file_linked {k : ι} (h : Sound content i d stage) (hk : d.entry = some k)
    {event : StepEvent} : (publish path (content i) i d stage event).1.file k = d.file k := by
  by_cases hki : k = i
  · subst hki
    exact (publish_step _ _ _ _ _ _).file (h.linked hk).2
  · exact publish_file_of_ne hki

lemma Relied.other {j : ι} {stage' : Stage ι} (h : Relied content j d stage)
    (hi : Sound content i d stage') {event : StepEvent}
    (hundisturbed : stage'.Unlinks ∧ event = .done ∧ d.entry.isSome → ¬ stage.Settled) :
    Relied content j (publish path (content i) i d stage' event).1 stage := by
  intro hsettled
  obtain ⟨k, hentry, hfile⟩ := h hsettled
  obtain hsame | ⟨-, hnone, -⟩ | ⟨error, rfl, rfl, -, -⟩ :=
    (publish_step path (content i) i d stage' event).entry
  · exact ⟨k, hsame.trans hentry, (hi.file_linked hentry).trans hfile⟩
  · simp [hentry] at hnone
  · exact absurd hsettled (hundisturbed ⟨trivial, rfl, by simp [hentry]⟩)

omit [DecidableEq ι] in
lemma sound_unpublished (i : ι) : Sound content i ({} : Directory ι) .opening :=
  ⟨trivial, by simp, by simp [Stage.rollback]⟩

/-- In a run of undisturbed steps, the bytes on which calls rely are at the path. -/
lemma run_relied {events : List (ι × StepEvent)}
    (h : (publication path content).machine.Along Undisturbed unpublished events) (i : ι) :
    Relied content i ((publication path content).machine.run unpublished events).shared
      (((publication path content).machine.run unpublished events).place i) := by
  refine (Interleaving.run_asserts
    (A := fun i d stage => Sound content i d stage ∧ Relied content i d stage) ?_ ?_
    (fun i => ⟨sound_unpublished i, fun hsettled => absurd hsettled id⟩) h i).2
  · intro c i e _ h
    exact ⟨h.1.step e, h.2.step e⟩
  · intro c i e j hundisturbed hne hi hj
    exact ⟨hj.1.other hne _ e, hj.2.other hi.1 fun hunlinks => hundisturbed hunlinks j⟩

lemma run_returned {c : Interleaving.Config ι (Directory ι) (Stage ι)} (h : c.place i = .returned)
    (events : List (ι × StepEvent)) :
    ((publication path content).machine.run c events).place i = .returned := by
  refine Interleaving.run_place (Q := fun stage : Stage ι => stage = .returned) (I := fun _ => True)
    (fun _ _ _ => trivial) ?_ trivial h
  intro c event _ hc
  rw [hc]
  cases event <;> rfl

omit [DecidableEq ι] in
/-- What is read depends on the entry and its file. -/
lemma loadBytes_congr {d' : Directory ι} (hentry : d'.entry = d.entry)
    (hfile : ∀ k, d.entry = some k → d'.file k = d.file k) :
    loadBytes path d' = loadBytes path d := by
  simp only [loadBytes, hentry]
  cases h : d.entry with
  | none => rfl
  | some k => exact congrArg Except.ok (hfile k h)

/-! ## Runs -/

/-- **Publication is final** in a run: what a call has returned is read from then on, calls that
return were given equal bytes, and a call that collides has not changed what is stored. -/
structure Final (path : RelativePath) (content : ι → Bytes) (events : List (ι × StepEvent)) :
    Prop where
  stays : ∀ before later rest, events = before ++ later ++ rest → ∀ i,
    ((publication path content).machine.run unpublished before).place i = .returned →
      loadBytes path ((publication path content).machine.run unpublished
        (before ++ later)).shared = .ok (content i)
  agree : ∀ i j,
    ((publication path content).machine.run unpublished events).place i = .returned →
    ((publication path content).machine.run unpublished events).place j = .returned →
      content i = content j
  unchanged : ∀ i error,
    ((publication path content).machine.run unpublished events).place i = .raised error →
    error.kind = .collision →
      (publication path content).machine.Along
        (fun c step => step.1 = i →
          loadBytes path ((publication path content).next c step).shared = loadBytes path c.shared)
        unpublished events

/-- A call that collides has not changed what is stored, whatever the other calls do. -/
theorem collision_unchanged (events : List (ι × StepEvent)) {error : ArtifactError}
    (h : ((publication path content).machine.run unpublished events).place i = .raised error)
    (hkind : error.kind = .collision) :
    (publication path content).machine.Along
      (fun c step => step.1 = i →
        loadBytes path ((publication path content).next c step).shared = loadBytes path c.shared)
      unpublished events := by
  refine Interleaving.steps_unchanged (Q := Stage.MayCollide)
    (I := fun c => ∀ j, Sound content j c.shared (c.place j)) ?_ ?_ ?_ sound_unpublished ?_
  · rintro c ⟨j, event⟩ hc
    exact Interleaving.next_asserts (fun h => h.step event)
      (fun k hne _ hk => hk.other hne _ event) hc
  · intro c event hc hpast
    exact (publish_step _ _ i _ _ _).mayCollide (hc i).rollback hpast
  · intro c event hc hchange
    obtain hsame | ⟨-, -, hstep⟩ | ⟨error, -, -, -, hstep⟩ :=
      (publish_step path (content i) i c.shared (c.place i) event).entry
    · refine absurd ?_ hchange
      exact loadBytes_congr hsame fun k hk => (hc i).file_linked hk
    all_goals
      show ¬ (publish path (content i) i c.shared (c.place i) event).2.MayCollide
      rw [hstep]
      exact id
  · rw [h]
    exact hkind

/-- **Undisturbed publication is final**: when no rollback removes an entry that another call has
read for the last time, unless that call has failed since. -/
theorem publication_final (path : RelativePath) (content : ι → Bytes)
    {events : List (ι × StepEvent)}
    (h : (publication path content).machine.Along Undisturbed unpublished events) :
    Final path content events := by
  have hload : ∀ events,
      (publication path content).machine.Along Undisturbed unpublished events → ∀ i,
      ((publication path content).machine.run unpublished events).place i = .returned →
      loadBytes path ((publication path content).machine.run unpublished events).shared =
        .ok (content i) := by
    intro events h i hreturned
    obtain ⟨k, hentry, hfile⟩ := run_relied h i (by rw [hreturned]; trivial)
    rw [loadBytes, hentry]
    exact congrArg Except.ok hfile
  refine ⟨?_, ?_, ?_⟩
  · rintro before later rest rfl i hreturned
    refine hload _ ((Machine.along_append _ _ _ _ _).mp h).1 i ?_
    rw [Machine.run_append]
    exact run_returned hreturned later
  · intro i j hi hj
    exact Except.ok.inj ((hload events h i hi).symm.trans (hload events h j hj))
  · intro i error hraised hkind
    exact collision_unchanged events hraised hkind

end Calls

/-! ## A rollback that disturbs -/

namespace RolledBack

def path : RelativePath := ⟨"objects/a", by decide +kernel⟩

/-- The steps of a call that finds nothing at the path, up to its link. -/
def linked (i : Fin 2) (content : Bytes) : List (Fin 2 × StepEvent) :=
  [(i, .done), (i, .done), (i, .done), (i, .done), (i, .wrote content.length), (i, .done),
    (i, .done), (i, .done)]

/-- The steps after the link, when nothing fails. -/
def finished (i : Fin 2) : List (Fin 2 × StepEvent) :=
  [(i, .done), (i, .done), (i, .done), (i, .done), (i, .done), (i, .done), (i, .done)]

/-- The steps of a call that finds its bytes at the path. -/
def replayed (i : Fin 2) : List (Fin 2 × StepEvent) :=
  [(i, .done), (i, .done), (i, .done), (i, .done)]

/-- The steps of a call that cannot read back what it has linked. -/
def failed (i : Fin 2) : List (Fin 2 × StepEvent) :=
  [(i, .done), (i, .failed .read "Input/output error"), (i, .done), (i, .done), (i, .done),
    (i, .done), (i, .done)]

/-- Two calls with the same bytes, one after the other. -/
theorem publication_final_replayed :
    Final path (fun _ => [1]) (linked 0 [1] ++ finished 0 ++ replayed 1) :=
  publication_final path _ (by decide +kernel)

/-- **A rollback takes back what another call has confirmed**: the second call reads the bytes that
the first one has linked and returns; then the first one cannot read them and removes its link. -/
theorem not_final_rolledBack :
    ¬ Final path (fun _ => [1]) (linked 0 [1] ++ replayed 1 ++ failed 0) := by
  intro h
  have hstays := h.stays (linked 0 [1] ++ replayed 1) (failed 0) [] rfl 1 (by decide +kernel)
  have hgone : ((publication path fun _ => [1]).machine.run unpublished
      (linked 0 [1] ++ replayed 1 ++ failed 0)).shared.entry = none := by decide +kernel
  rw [loadBytes, hgone] at hstays
  exact absurd hstays (by simp)

end RolledBack

end AecBench.Ledger.ImmutableByteStore
