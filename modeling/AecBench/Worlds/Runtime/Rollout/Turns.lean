import AecBench.Worlds.Runtime.Rollout.Steps

/-!
# The turns of a call that creates a group

A call that is not in front of a taken lock comes closer to its end with every turn. The calls that
hold locks are never in front of one, so that some call can always go on.

## Main definitions

* `Place.InGroup`, `Place.InChild` — the call holds the lock of the group, or of a child.
* `Locked` — the locks of a call are those of its place.
* `Blocked` — the call is in front of a taken lock.
* `remaining` — how many turns a call may still need.

## Main results

* `stepCall_locked` — a step takes and gives back the locks of its places.
* `stepCall_remaining` — a step changes nothing, or leaves fewer turns.
* `advance_remaining` — a turn in front of no taken lock leaves fewer turns.
-/

namespace AecBench.Worlds.Rollout

open Text

/-- The call holds the lock of the group. -/
def Place.InGroup : Place → Prop
  | .requesting _ | .probing _ | .replaying _ | .reserving _ _ | .confirming _ _
  | .publishing _ _ _ | .checking _ _ _ _ | .concluding _ | .returning => True
  | _ => False

/-- The call holds the lock of a child. -/
def Place.InChild (childId : NonEmptyStr) : Place → Prop
  | .loading _ _ child _ | .materializing _ _ child _ => child.childId = childId
  | _ => False

section Locks

variable {ι : Type} {control : Control} {request : GroupRequest} {i j : ι} {group : Group ι}
  {place : Place}

/-- The locks that a call has taken are those of its place. -/
structure Locked (i : ι) (group : Group ι) (place : Place) : Prop where
  inGroup : group.groupLock = some i → place.InGroup
  inChild : ∀ childId, group.childLock childId = some i → place.InChild childId

/-- Who holds the lock of the group after a turn took it then, or held it before. -/
lemma advance_groupLock (h : (advance control request i group place).1.groupLock = some j) :
    (j = i ∧ (advance control request i group place).2.InGroup) ∨
      (group.groupLock = some j ∧
        (place.InGroup → (advance control request i group place).2.InGroup)) := by
  unfold advance at h ⊢
  dsimp only at h ⊢
  split at h <;> (repeat' split at h) <;>
    simp_all [Place.InGroup, Group.unlock, Group.unlockChild, eq_comm]

lemma advance_childLock {childId : NonEmptyStr}
    (h : (advance control request i group place).1.childLock childId = some j) :
    (j = i ∧ (advance control request i group place).2.InChild childId) ∨
      (group.childLock childId = some j ∧ (place.InChild childId →
        (advance control request i group place).2.InChild childId)) := by
  unfold advance at h ⊢
  dsimp only at h ⊢
  split at h <;> (repeat' split at h) <;>
    simp_all [Place.InChild, Group.unlock, Group.unlockChild, Function.update_apply, eq_comm]
  -- left is the turn that takes the lock of a child
  split_ifs at h with hid
  · exact .inl ⟨(Option.some.inj h).symm, hid⟩
  · exact .inr fun hsame => absurd hsame hid

lemma locked_advance (h : Locked i group place) :
    Locked i (advance control request i group place).1
      (advance control request i group place).2 := by
  constructor
  · intro hlock
    rcases advance_groupLock hlock with ⟨-, hin⟩ | ⟨hbefore, hstays⟩
    · exact hin
    · exact hstays (h.inGroup hbefore)
  · intro childId hlock
    rcases advance_childLock hlock with ⟨-, hin⟩ | ⟨hbefore, hstays⟩
    · exact hin
    · exact hstays (h.inChild childId hbefore)

lemma locked_advance_other (hji : j ≠ i) (h : Locked j group place) {other : Place} :
    Locked j (advance control request i group other).1 place := by
  constructor
  · intro hlock
    rcases advance_groupLock hlock with ⟨hsame, -⟩ | ⟨hbefore, -⟩
    · exact absurd hsame hji
    · exact h.inGroup hbefore
  · intro childId hlock
    rcases advance_childLock hlock with ⟨hsame, -⟩ | ⟨hbefore, -⟩
    · exact absurd hsame hji
    · exact h.inChild childId hbefore

variable [DecidableEq ι] {action : Action}

lemma locked_release {k : ι} {last : Place} (h : Locked k group last) :
    Locked k (group.release i) (if k = i then .crashed else last) := by
  by_cases hki : k = i
  · subst hki
    constructor <;> simp [Group.release]
  · rw [if_neg hki]
    constructor
    · intro hlock
      simp only [Group.release] at hlock
      split_ifs at hlock
      exact h.inGroup hlock
    · intro childId hlock
      simp only [Group.release] at hlock
      split_ifs at hlock
      exact h.inChild childId hlock

/-- **A step takes and gives back the locks of its places.** -/
lemma stepCall_locked (h : Locked i group place) :
    Locked i (stepCall control request i group place action).1
      (stepCall control request i group place action).2 := by
  cases action with
  | advance => exact locked_advance h
  | crash =>
    unfold stepCall
    split_ifs
    · exact h
    · simpa using locked_release (i := i) h

lemma stepCall_locked_other (hji : j ≠ i) (h : Locked j group place) {other : Place} :
    Locked j (stepCall control request i group other action).1 place := by
  cases action with
  | advance => exact locked_advance_other hji h
  | crash =>
    unfold stepCall
    split_ifs
    · exact h
    · simpa [hji] using locked_release (i := i) h

end Locks

/-! ## Turns that are left -/

/-- The call is in front of a lock that is taken. -/
def Blocked {ι : Type} (group : Group ι) : Place → Prop
  | .verified _ | .gathered _ _ => group.groupLock ≠ none
  | .waiting _ _ (child :: _) => group.childLock child.childId ≠ none
  | _ => False

/-- How many turns a call for `n` children may still need. -/
def remaining (n : ℕ) : Place → ℕ
  | .called => 11 + 6 * n
  | .verified _ => 10 + 6 * n
  | .requesting _ => 9 + 6 * n
  | .probing _ => 8 + 6 * n
  | .replaying _ => 1
  | .reserving _ rest => 7 + 5 * n + rest.length
  | .waiting _ _ rest => 6 + 2 * n + 3 * rest.length
  | .loading _ _ _ rest => 8 + 2 * n + 3 * rest.length
  | .materializing _ _ _ rest => 7 + 2 * n + 3 * rest.length
  | .gathered _ _ => 5 + 2 * n
  | .confirming _ _ => 4 + 2 * n
  | .publishing _ _ rest => 3 + 2 * rest.length
  | .checking _ _ _ rest => 4 + 2 * rest.length
  | .concluding _ => 2
  | .returning => 1
  | .returned _ | .raised _ | .crashed => 0

section Turns

variable {ι : Type} {control : Control} {request : GroupRequest} {i : ι} {group : Group ι}
  {place : Place}

lemma advance_blocked (h : Blocked group place) :
    advance control request i group place = (group, place) := by
  unfold advance
  cases place with
  | verified | gathered =>
    obtain ⟨holder, hholder⟩ := Option.ne_none_iff_exists'.mp h
    simp only [hholder]
  | waiting origin candidates rest =>
    cases rest with
    | nil => cases h
    | cons child rest =>
      obtain ⟨holder, hholder⟩ := Option.ne_none_iff_exists'.mp h
      simp only [hholder]
  | _ => cases h

/-- **A turn of a call that can go on leaves fewer turns.** -/
lemma advance_remaining (hended : ¬ place.Ended) (hblocked : ¬ Blocked group place) :
    remaining request.children.length (advance control request i group place).2 <
      remaining request.children.length place := by
  unfold advance
  dsimp only
  split <;> (repeat' split) <;> simp_all [remaining, Blocked, Place.Ended]
  all_goals omega

lemma stepCall_ended [DecidableEq ι] {action : Action} (h : place.Ended) :
    stepCall control request i group place action = (group, place) := by
  cases action with
  | crash => exact if_pos h
  | advance =>
    show advance control request i group place = (group, place)
    cases place with
    | returned | raised | crashed => rfl
    | _ => cases h

lemma remaining_pos {n : ℕ} (h : ¬ place.Ended) : 0 < remaining n place := by
  cases place <;> simp_all [remaining, Place.Ended]

/-- **A step changes nothing, or leaves fewer turns.** -/
lemma stepCall_remaining [DecidableEq ι] (control : Control) (request : GroupRequest) (i : ι)
    (group : Group ι) (place : Place) (action : Action) :
    stepCall control request i group place action = (group, place) ∨
      remaining request.children.length (stepCall control request i group place action).2 <
        remaining request.children.length place := by
  by_cases hended : place.Ended
  · exact .inl (stepCall_ended hended)
  · cases action with
    | crash =>
      have hcrash : stepCall control request i group place .crash = (group.release i, .crashed) :=
        if_neg hended
      rw [hcrash]
      exact .inr (remaining_pos hended)
    | advance =>
      by_cases hblocked : Blocked group place
      · exact .inl (advance_blocked hblocked)
      · exact .inr (advance_remaining hended hblocked)

lemma Place.InGroup.free (h : place.InGroup) : ¬ place.Ended ∧ ¬ Blocked group place := by
  cases place <;> simp_all [Place.InGroup, Place.Ended, Blocked]

lemma Place.InChild.free {childId : NonEmptyStr} (h : place.InChild childId) :
    ¬ place.Ended ∧ ¬ Blocked group place := by
  cases place <;> simp_all [Place.InChild, Place.Ended, Blocked]

lemma advance_not_crashed (h : place ≠ .crashed) :
    (advance control request i group place).2 ≠ .crashed := by
  unfold advance
  dsimp only
  split <;> (repeat' split) <;> simp_all

end Turns

end AecBench.Worlds.Rollout
