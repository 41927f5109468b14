import AecBench.Worlds.Runtime.Rollout.Turns

/-!
# Rollout groups are created once

Any number of calls create a group, in any order of their steps, and crash anywhere. The first
request that is published is the accepted one, for good. A call ends with what its request and the
accepted one say, whatever the other calls did: with the lineage of the group, with the first error
that the group meets, or with a conflict.

## Main definitions

* `uncreated` — no files, and no call has taken a step.
* `verdict` — what a call ends with.
* `Knows` — what holds of a call in every run.

## Main results

* `run_knows` — it does.
* `groups_created_once` — one accepted request, one verdict for each call, and an end for all.
-/

namespace AecBench.Worlds.Rollout

open Text

/-- What a call ends with, when a request is accepted. -/
def verdict (control : Control) (accepted : Option GroupRequest) (request : GroupRequest) : Place :=
  match admitRequest control request with
  | .error e => .raised e
  | .ok _ =>
    if accepted = some request then
      match groupOf control request with
      | .error e => .raised e
      | .ok lineage => .returned lineage
    else .raised (requestConflict request)

section Runs

variable {ι : Type}

/-- No files, and no call has taken a step. -/
def uncreated : Interleaving.Config ι (Group ι) Place := ⟨{}, fun _ => .called⟩

/-- What holds of a call in every run. -/
structure Knows (control : Control) (requests : ι → GroupRequest) (i : ι) (group : Group ι)
    (place : Place) : Prop where
  sound : group.files.Sound control
  asserts : place.Asserts control (requests i) group.files
  locked : Locked i group place
  called : ∀ accepted, group.files.request = some accepted → ∃ j, requests j = accepted

variable {control : Control} {requests : ι → GroupRequest} {i j : ι} {group : Group ι}
  {place other : Place} {action : Action} {c : Interleaving.Config ι (Group ι) Place}

lemma uncreated_knows (i : ι) :
    Knows control requests i (uncreated.shared : Group ι) (uncreated.place i) := by
  refine ⟨⟨?_, fun _ => rfl⟩, trivial, ⟨?_, ?_⟩, ?_⟩
  all_goals simp [uncreated]

variable [DecidableEq ι]

lemma stepCall_request {request accepted : GroupRequest}
    (h : (stepCall control request i group place action).1.files.request = some accepted) :
    group.files.request = some accepted ∨ request = accepted := by
  cases action with
  | crash =>
    unfold stepCall at h
    split_ifs at h
    · exact .inl h
    · exact .inl h
  | advance =>
    unfold stepCall advance at h
    dsimp only at h
    split at h <;> (repeat' split at h) <;> simp_all [Group.unlock, Group.unlockChild]
    -- the request is published
    all_goals
      obtain ⟨-, hrequest⟩ := publish_eq_ok.mp ‹publish _ _ _ _ = .ok _›
      exact .inr (Option.some.inj hrequest).symm

lemma knows_own (h : Knows control requests i group place) :
    Knows control requests i (stepCall control (requests i) i group place action).1
      (stepCall control (requests i) i group place action).2 := by
  have hkeeps : Keeps control (requests i) group
      (stepCall control (requests i) i group place action) := stepCall_keeps h.sound h.asserts
  obtain ⟨hsound, -, hasserts⟩ := hkeeps
  refine ⟨hsound, hasserts, stepCall_locked h.locked, ?_⟩
  intro accepted haccepted
  rcases stepCall_request haccepted with hbefore | hown
  · exact h.called accepted hbefore
  · exact ⟨i, hown⟩

lemma knows_other (hji : j ≠ i) (hi : Knows control requests i group place)
    (hj : Knows control requests j group other) :
    Knows control requests j (stepCall control (requests i) i group place action).1 other := by
  have hkeeps : Keeps control (requests i) group
      (stepCall control (requests i) i group place action) := stepCall_keeps hi.sound hi.asserts
  obtain ⟨hsound, hgrows, -⟩ := hkeeps
  exact ⟨hsound, hj.asserts.grow hgrows, stepCall_locked_other hji hj.locked,
    (knows_own hi).called⟩

/-- **What holds of every call in every run.** -/
lemma run_knows (hc : ∀ i, Knows control requests i c.shared (c.place i))
    (events : List (ι × Action)) (i : ι) :
    Knows control requests i ((createGroup control requests).machine.run c events).shared
      (((createGroup control requests).machine.run c events).place i) := by
  refine Interleaving.run_asserts (A := Knows control requests) (C := fun _ _ => True)
    ?_ ?_ hc (Machine.along_of_forall _ (fun _ _ => trivial) c events) i
  · intro c i e _ h
    exact knows_own h
  · intro c i e j _ hji hi hj
    exact knows_other hji hi hj

lemma run_grows (hc : ∀ i, Knows control requests i c.shared (c.place i))
    (events : List (ι × Action)) :
    c.shared.files.Grows ((createGroup control requests).machine.run c events).shared.files := by
  induction events generalizing c with
  | nil => exact Files.Grows.refl _
  | cons event events ih =>
    obtain ⟨i, action⟩ := event
    have hkeeps : Keeps control (requests i) c.shared
        (stepCall control (requests i) i c.shared (c.place i) action) :=
      stepCall_keeps (hc i).sound (hc i).asserts
    have hstep := hkeeps.2.1
    exact hstep.trans (ih (c := (createGroup control requests).next c (i, action))
      (run_knows hc [(i, action)]))

omit [DecidableEq ι] in
/-- A call that has ended, and not by a crash, has ended with its verdict. -/
lemma verdict_of_ended (h : Knows control requests i group place) (hended : place.Ended)
    (hcrashed : place ≠ .crashed) :
    place = verdict control group.files.request (requests i) := by
  have hasserts := h.asserts
  unfold verdict
  cases place with
  | returned lineage =>
    obtain ⟨hrequest, hgroup⟩ := hasserts
    cases hadmission : admitRequest control (requests i) with
    | error e =>
      rw [groupOf_refused hadmission] at hgroup
      cases hgroup
    | ok origin =>
      rw [if_pos hrequest, hgroup]
  | raised e =>
    rcases hasserts with hadmission | ⟨⟨origin, hadmission⟩, he, accepted, haccepted, hne⟩ |
      ⟨hrequest, hgroup⟩
    · rw [hadmission]
    · rw [hadmission]
      rw [if_neg, he]
      rw [haccepted]
      exact fun hsame => hne (Option.some.inj hsame)
    · cases hadmission : admitRequest control (requests i) with
      | error e' =>
        rw [groupOf_refused hadmission] at hgroup
        rw [Except.error.inj hgroup]
      | ok origin =>
        rw [if_pos hrequest, hgroup]
  | crashed => exact absurd rfl hcrashed
  | _ => cases hended

lemma files_of_other {accepted : GroupRequest} (h : Knows control requests i group place)
    (haccepted : group.files.request = some accepted) (hne : requests i ≠ accepted) :
    (stepCall control (requests i) i group place action).1.files = group.files := by
  have hfiles : ∀ {origin : Origin}, ¬ Owned control (requests i) group.files origin := by
    intro origin howned
    exact hne (Option.some.inj (howned.2.symm.trans haccepted))
  have hasserts := h.asserts
  cases action with
  | crash =>
    unfold stepCall
    split_ifs <;> rfl
  | advance =>
    show (advance control (requests i) i group place).1.files = group.files
    cases place with
    | called | verified =>
      unfold advance
      dsimp only
      split <;> rfl
    | requesting origin =>
      unfold advance
      dsimp only
      cases hpublish : publish group.files.request (requests i) "request-conflict"
          (requestPath (requests i).groupId) with
      | error e => rfl
      | ok stored =>
        obtain ⟨hstored, -⟩ := publish_eq_ok.mp hpublish
        rw [haccepted] at hstored
        rcases hstored with hnone | hsome
        · cases hnone
        · exact absurd (Option.some.inj hsome).symm hne
    | probing => exact absurd hasserts hfiles
    | concluding | returning =>
      obtain ⟨origin, howned, -⟩ := hasserts
      exact absurd howned hfiles
    | returned | raised | crashed => rfl
    | _ => exact absurd hasserts.1 hfiles

/-- The receipts of a group are those of its children, in the order of the request. -/
lemma groupOf_matches {request : GroupRequest} {lineage : Lineage}
    (h : groupOf control request = .ok lineage) :
    List.Forall₂ (fun receipt child => ReceiptMatchesChild receipt request child)
      lineage.children request.children := by
  unfold groupOf at h
  obtain ⟨origin, -, h⟩ := Validation.bind_eq_ok.mp h
  obtain ⟨receipts, hreceipts, h⟩ := Validation.bind_eq_ok.mp h
  obtain rfl := Validation.pure_eq_ok.mp h
  have hgathers : Gathers control request origin request.children receipts :=
    Validation.mapM_eq_ok.mp hreceipts
  exact hgathers.matches_children

section Ends

lemma next_eq_self
    (h : stepCall control (requests i) i c.shared (c.place i) action = (c.shared, c.place i)) :
    (createGroup control requests).next c (i, action) = c := by
  have hstep : (createGroup control requests).step i c.shared (c.place i) action =
      (c.shared, c.place i) := h
  unfold Interleaving.next
  rw [hstep]
  simp

lemma exists_moves (hc : ∀ i, Knows control requests i c.shared (c.place i))
    (hi : ¬ (c.place i).Ended) :
    ∃ j, ¬ (c.place j).Ended ∧ (createGroup control requests).next c (j, .advance) ≠ c := by
  have hmoves : ∀ j, ¬ (c.place j).Ended → ¬ Blocked c.shared (c.place j) →
      (createGroup control requests).next c (j, .advance) ≠ c := by
    intro j hended hblocked hsame
    have hless : remaining (requests j).children.length
        (advance control (requests j) j c.shared (c.place j)).2 <
        remaining (requests j).children.length (c.place j) := advance_remaining hended hblocked
    have hplace : ((createGroup control requests).next c (j, .advance)).place j =
        (advance control (requests j) j c.shared (c.place j)).2 :=
      Interleaving.next_place_self
    rw [← hplace, hsame] at hless
    exact lt_irrefl _ hless
  by_cases hblocked : Blocked c.shared (c.place i)
  · -- the call that holds the lock is not in front of one
    have hholder : (∃ j, c.shared.groupLock = some j) ∨
        ∃ childId j, c.shared.childLock childId = some j := by
      cases hplace : c.place i <;> rw [hplace] at hblocked
      case verified | gathered => exact .inl (Option.ne_none_iff_exists'.mp hblocked)
      case waiting origin candidates rest =>
        cases rest with
        | nil => cases hblocked
        | cons child rest => exact .inr ⟨child.childId, Option.ne_none_iff_exists'.mp hblocked⟩
      all_goals cases hblocked
    rcases hholder with ⟨j, hj⟩ | ⟨childId, j, hj⟩
    · have hfree : ¬ (c.place j).Ended ∧ ¬ Blocked c.shared (c.place j) :=
        ((hc j).locked.inGroup hj).free
      exact ⟨j, hfree.1, hmoves j hfree.1 hfree.2⟩
    · have hfree : ¬ (c.place j).Ended ∧ ¬ Blocked c.shared (c.place j) :=
        ((hc j).locked.inChild childId hj).free
      exact ⟨j, hfree.1, hmoves j hfree.1 hfree.2⟩
  · exact ⟨i, hi, hmoves i hi hblocked⟩

/-- **All calls end**: after as many rounds as turns are left. -/
lemma all_end [Fintype ι] (hc : ∀ i, Knows control requests i c.shared (c.place i))
    {rounds : List (List (ι × Action))}
    (hfair : (createGroup control requests).Fair (fun place => ¬ place.Ended) .advance c rounds)
    (hlong : ∑ i, remaining (requests i).children.length (c.place i) ≤ rounds.length) (i : ι) :
    (((createGroup control requests).machine.run c rounds.flatten).place i).Ended := by
  have hnot := @Interleaving.ended_of_fair ι (Group ι) Place Action _ (createGroup control requests)
    (fun i => remaining (requests i).children.length) ?_
    (fun c => ∀ i, Knows control requests i c.shared (c.place i)) (fun place => ¬ place.Ended)
    .advance _ ?_ ?_ ?_ c hc rounds hfair hlong i
  · exact not_not.mp hnot
  · intro c i action
    rcases stepCall_remaining control (requests i) i c.shared (c.place i) action with hsame | hless
    · exact .inl (next_eq_self hsame)
    · exact .inr hless
  · rintro c ⟨i, action⟩ hc
    exact run_knows hc [(i, action)]
  · intro c i action hended
    exact next_eq_self (stepCall_ended (not_not.mp hended))
  · intro c hc i hi
    exact exists_moves hc hi

lemma crash_of_crashed {events : List (ι × Action)} (hc : c.place i ≠ .crashed)
    (hcrash : (i, Action.crash) ∉ events) :
    ((createGroup control requests).machine.run c events).place i ≠ .crashed := by
  induction events generalizing c with
  | nil => exact hc
  | cons event events ih =>
    obtain ⟨j, action⟩ := event
    refine ih (c := (createGroup control requests).next c (j, action)) ?_
      fun hmem => hcrash (List.mem_cons_of_mem _ hmem)
    by_cases hij : i = j
    · subst hij
      rw [Interleaving.next_place_self]
      cases action with
      | advance => exact advance_not_crashed hc
      | crash => exact absurd List.mem_cons_self hcrash
    · rw [Interleaving.next_place_of_ne hij]
      exact hc

end Ends

/-- **Rollout groups are created once**, after any steps and crashes of any number of calls. The
accepted request stays, and a call with another request changes no file. A call that has ended, and
not by a crash, has ended with its verdict; a lineage that it returned has the receipts of the
children in the order of the request. And there is a number of rounds, in which every call that has
not ended has a turn, after which all have ended, those that do not crash with their verdicts. -/
theorem groups_created_once [Fintype ι] (control : Control) (requests : ι → GroupRequest)
    (events : List (ι × Action)) :
    let L := createGroup control requests
    let c := L.machine.run uncreated events
    (∀ accepted, c.shared.files.request = some accepted →
      (∃ i, requests i = accepted) ∧
      ∀ later, (L.machine.run c later).shared.files.request = some accepted) ∧
    (∀ i accepted action, c.shared.files.request = some accepted → requests i ≠ accepted →
      (L.next c (i, action)).shared.files = c.shared.files) ∧
    (∀ i, (c.place i).Ended → c.place i ≠ .crashed →
      c.place i = verdict control c.shared.files.request (requests i)) ∧
    (∀ i lineage, c.place i = .returned lineage →
      c.shared.files.request = some (requests i) ∧ groupOf control (requests i) = .ok lineage ∧
      List.Forall₂ (fun receipt child => ReceiptMatchesChild receipt (requests i) child)
        lineage.children (requests i).children) ∧
    ∃ n, ∀ rounds, L.Fair (fun place => ¬ place.Ended) .advance c rounds → n ≤ rounds.length →
      let last := L.machine.run c rounds.flatten
      ∀ i, (last.place i).Ended ∧ (c.place i ≠ .crashed → (i, .crash) ∉ rounds.flatten →
        last.place i = verdict control last.shared.files.request (requests i)) := by
  intro L c
  have hc : ∀ i, Knows control requests i c.shared (c.place i) :=
    run_knows uncreated_knows events
  refine ⟨?_, ?_, ?_, ?_, ?_⟩
  · intro accepted haccepted
    refine ⟨?_, fun later => (run_grows hc later).request _ haccepted⟩
    cases isEmpty_or_nonempty ι with
    | inl hempty =>
      have hevents : events = [] :=
        List.eq_nil_iff_forall_not_mem.mpr fun event _ => hempty.elim event.1
      subst hevents
      have hnone : (none : Option GroupRequest) = some accepted := haccepted
      cases hnone
    | inr hι => exact (hc hι.some).called accepted haccepted
  · intro i accepted action haccepted hne
    exact files_of_other (hc i) haccepted hne
  · intro i hended hcrashed
    exact verdict_of_ended (hc i) hended hcrashed
  · intro i lineage hreturned
    have hasserts := (hc i).asserts
    rw [hreturned] at hasserts
    exact ⟨hasserts.1, hasserts.2, groupOf_matches hasserts.2⟩
  · refine ⟨∑ i, remaining (requests i).children.length (c.place i), ?_⟩
    intro rounds hfair hlong last i
    have hended : (last.place i).Ended := all_end hc hfair hlong i
    refine ⟨hended, ?_⟩
    intro hcrashed hcrash
    exact verdict_of_ended (run_knows hc rounds.flatten i) hended
      (crash_of_crashed hcrashed hcrash)

end Runs

/-! ## A child that is refused -/

namespace RefusedChild

def world : NonEmptyStr := ⟨"wastewater-pump-station", by decide⟩

def host : NonEmptyStr := ⟨"rollout-host", by decide⟩

def parent : SnapshotRef where
  runId := ⟨"parent-run", by decide⟩
  episodeId := ⟨"parent-episode", by decide⟩
  worldBranchId := ⟨"parent-branch", by decide⟩
  sequence := 3
  stateId := ⟨"state-3", by decide⟩
  commitId := ⟨"commit-3", by decide⟩

def definition : WorldBuildRef where
  taskWorldId := world
  entryPoint := ⟨"pump_station:world", by decide⟩
  artifactSha256 := ""

def child : ChildRequest where
  childId := ⟨"child-1", by decide⟩
  runId := ⟨"child-run", by decide⟩
  episodeId := ⟨"child-episode", by decide⟩
  worldBranchId := ⟨"child-branch", by decide⟩
  contentSha256 := ""

/-- A request for one child. -/
def requestOf (authorityId : NonEmptyStr) : GroupRequest where
  requestId := ⟨"rollout-request", by decide⟩
  groupId := ⟨"rollout-group", by decide⟩
  taskWorldId := world
  authorityId := authorityId
  worldBuild := definition
  profileRef := ⟨world, ⟨"reference-profile", by decide⟩, ""⟩
  parentManifestContentSha256 := ""
  parentSnapshot := parent
  originVerificationContentSha256 := ""
  reason := ⟨"compare treatments", by decide⟩
  children := [child]
  contentSha256 := authorityId.val
  build_world := rfl
  profile_world := rfl
  children_ne := List.cons_ne_nil _ _
  childIds_nodup := List.nodup_singleton _
  runIds_nodup := List.nodup_singleton _
  episodeIds_nodup := List.nodup_singleton _
  worldBranchIds_nodup := List.nodup_singleton _
  apart := by
    intro other hother
    obtain rfl := List.mem_singleton.mp hother
    exact ⟨by decide, by decide, by decide⟩

/-- The port refuses the child, every time. -/
def control : Control where
  definitionRef := definition
  loadProfile _ := .ok ()
  authorisedPrincipalIds := [host]
  port :=
    { verifyOrigin := fun _ => .ok ⟨parent, "", "", [parent.worldBranchId]⟩
      materializeChild := fun _ _ _ => .error (.rollout "child-materialization" "refused")
      verifyChild := fun _ _ _ => .ok () }

/-- The third call has a request of a host that is not authorised. -/
def requests (i : Fin 3) : GroupRequest := requestOf (if i = 2 then world else host)

/-- The first call crashes once its request is accepted; then the second and the third run. -/
def events : List (Fin 3 × Action) :=
  List.replicate 4 (0, .advance) ++ [(0, .crash)] ++ List.replicate 11 (1, .advance) ++
    [(2, .advance)]

/-- A repeated call with the accepted request does not complete a group whose child is refused, and
a request that is not admitted fails with another error than a conflict. -/
theorem not_completed :
    let c := (createGroup control requests).machine.run uncreated events
    c.shared.files.request = some (requests 1) ∧ requests 0 = requests 1 ∧
      c.place 0 = .crashed ∧
      c.place 1 = .raised (.rollout "child-materialization" "refused") ∧
      requests 2 ≠ requests 1 ∧ (requests 2).groupId = (requests 1).groupId ∧
      c.place 2 = .raised (.rollout "authority" "rollout authority is not authorised") := by
  decide +kernel

end RefusedChild

end AecBench.Worlds.Rollout
