import AecBench.Worlds.Runtime.Rollout.Files

/-!
# The steps of a call that creates a group

An assertion for every place says what the call knows of the files there. It only speaks of files
that are there, so that a step of another call, which changes and removes none, does not disturb it.

## Main definitions

* `Owned` — the request of the call is the one that is accepted.
* `Refused` — why a call raises.
* `Place.Asserts` — what a call knows at its place.
* `Keeps` — a step keeps the files sound, only adds to them, and reaches what the next place asserts.

## Main results

* `Place.Asserts.grow` — files that are added do not disturb a call.
* `stepCall_keeps` — every step of a call keeps its assertion.
-/

namespace AecBench.Worlds.Rollout

open Text Validation

variable {control : Control} {request : GroupRequest} {files later : Files} {origin : Origin}

/-- The request of the call is the one that is accepted. -/
def Owned (control : Control) (request : GroupRequest) (files : Files) (origin : Origin) : Prop :=
  admitRequest control request = .ok origin ∧ files.request = some request

/-- The error of a request that comes after the accepted one. -/
def requestConflict (request : GroupRequest) : RolloutError :=
  .rollout "request-conflict" (requestPath request.groupId)

/-- Why a call raises: its request is not admitted, another one was accepted before, or the group of
its request cannot be made. -/
def Refused (control : Control) (request : GroupRequest) (files : Files) (e : RolloutError) : Prop :=
  admitRequest control request = .error e ∨
  ((∃ origin, admitRequest control request = .ok origin) ∧ e = requestConflict request ∧
    ∃ other, files.request = some other ∧ other ≠ request) ∨
  (files.request = some request ∧ groupOf control request = .error e)

/-- The receipts of the first children are gathered; the others are to come. -/
def Gathered (control : Control) (request : GroupRequest) (origin : Origin)
    (receipts : List ChildReceipt) (rest : List ChildRequest) : Prop :=
  ∃ done, done ++ rest = request.children ∧ Gathers control request origin done receipts

variable {candidates : List ChildReceipt} {child : ChildRequest} {rest : List ChildRequest}

lemma Gathered.concat {receipt : ChildReceipt}
    (h : Gathered control request origin candidates (child :: rest))
    (hok : materializeChild control request origin child = .ok receipt) :
    Gathered control request origin (candidates ++ [receipt]) rest := by
  obtain ⟨done, hchildren, hgathers⟩ := h
  exact ⟨done ++ [child], by simp [hchildren], hgathers.concat hok⟩

/-- The receipts of the first children are published; those of the others are gathered. -/
def Published (control : Control) (request : GroupRequest) (files : Files) (origin : Origin)
    (receipts : List ChildReceipt) (rest : List (ChildRequest × ChildReceipt)) : Prop :=
  (∃ done, done ++ rest.map (·.1) = request.children ∧
    Gathers control request origin done receipts ∧ List.Forall₂ files.Stores done receipts) ∧
  ∀ pair ∈ rest, materializeChild control request origin pair.1 = .ok pair.2

/-- What a call knows at its place. -/
def Place.Asserts (control : Control) (request : GroupRequest) (files : Files) : Place → Prop
  | .called | .crashed => True
  | .verified origin | .requesting origin => admitRequest control request = .ok origin
  | .probing origin => Owned control request files origin
  | .replaying origin => Owned control request files origin ∧ ∃ lineage, files.lineage = some lineage
  | .reserving origin rest => Owned control request files origin ∧
      ∃ done, done ++ rest = request.children ∧ files.Reserves done
  | .waiting origin candidates rest => Owned control request files origin ∧
      files.Reserves request.children ∧ Gathered control request origin candidates rest
  | .loading origin candidates child rest | .materializing origin candidates child rest =>
      Owned control request files origin ∧ files.Reserves request.children ∧
      Gathered control request origin candidates (child :: rest)
  | .gathered origin candidates | .confirming origin candidates =>
      Owned control request files origin ∧ files.Reserves request.children ∧
      Gathers control request origin request.children candidates
  | .publishing origin receipts rest => Owned control request files origin ∧
      files.Reserves request.children ∧ Published control request files origin receipts rest
  | .checking origin receipts child rest => Owned control request files origin ∧
      files.Reserves request.children ∧
      ∃ receipt, files.childReceipts child.childId = some receipt ∧
        Published control request files origin receipts ((child, receipt) :: rest)
  | .concluding receipts => ∃ origin, Owned control request files origin ∧
      Gathers control request origin request.children receipts ∧
      List.Forall₂ files.Stores request.children receipts
  | .returning => ∃ origin, Owned control request files origin ∧
      ∃ lineage, files.lineage = some lineage
  | .returned lineage => files.request = some request ∧ groupOf control request = .ok lineage
  | .raised e => Refused control request files e

section Grow

lemma Owned.grow (h : Owned control request files origin) (hgrows : files.Grows later) :
    Owned control request later origin :=
  ⟨h.1, hgrows.request _ h.2⟩

lemma Refused.grow {e : RolloutError} (h : Refused control request files e)
    (hgrows : files.Grows later) : Refused control request later e := by
  rcases h with h | ⟨hadmission, he, other, hother, hne⟩ | ⟨hrequest, h⟩
  · exact .inl h
  · exact .inr (.inl ⟨hadmission, he, other, hgrows.request _ hother, hne⟩)
  · exact .inr (.inr ⟨hgrows.request _ hrequest, h⟩)

variable {receipts : List ChildReceipt}

lemma stores_grow {children : List ChildRequest} (h : List.Forall₂ files.Stores children receipts)
    (hgrows : files.Grows later) : List.Forall₂ later.Stores children receipts :=
  List.Forall₂.imp (fun _ _ hstores => hstores.grow hgrows) h

lemma Published.grow {rest : List (ChildRequest × ChildReceipt)}
    (h : Published control request files origin receipts rest) (hgrows : files.Grows later) :
    Published control request later origin receipts rest := by
  obtain ⟨⟨done, hchildren, hgathers, hstores⟩, hrest⟩ := h
  exact ⟨⟨done, hchildren, hgathers, stores_grow hstores hgrows⟩, hrest⟩

/-- **Files that are added do not disturb a call.** -/
lemma Place.Asserts.grow {place : Place} (h : place.Asserts control request files)
    (hgrows : files.Grows later) : place.Asserts control request later := by
  cases place with
  | called | crashed => trivial
  | verified | requesting => exact h
  | probing => exact Owned.grow h hgrows
  | replaying =>
    obtain ⟨howned, lineage, hlineage⟩ := h
    exact ⟨howned.grow hgrows, lineage, hgrows.lineage _ hlineage⟩
  | reserving =>
    obtain ⟨howned, done, hchildren, hreserves⟩ := h
    exact ⟨howned.grow hgrows, done, hchildren, hreserves.grow hgrows⟩
  | waiting | loading | materializing | gathered | confirming =>
    exact ⟨h.1.grow hgrows, h.2.1.grow hgrows, h.2.2⟩
  | publishing => exact ⟨h.1.grow hgrows, h.2.1.grow hgrows, h.2.2.grow hgrows⟩
  | checking =>
    obtain ⟨howned, hreserves, receipt, hreceipt, hpublished⟩ := h
    exact ⟨howned.grow hgrows, hreserves.grow hgrows, receipt,
      hgrows.childReceipts _ _ hreceipt, hpublished.grow hgrows⟩
  | concluding =>
    obtain ⟨origin, howned, hgathers, hstores⟩ := h
    exact ⟨origin, howned.grow hgrows, hgathers, stores_grow hstores hgrows⟩
  | returning =>
    obtain ⟨origin, howned, lineage, hlineage⟩ := h
    exact ⟨origin, howned.grow hgrows, lineage, hgrows.lineage _ hlineage⟩
  | returned => exact ⟨hgrows.request _ h.1, h.2⟩
  | raised => exact Refused.grow h hgrows

end Grow

/-! ## Files that are written -/

section Write

lemma publish_eq_ok {α : Type} [DecidableEq α] {stored after : Option α} {value : α}
    {code path : String} :
    publish stored value code path = .ok after ↔
      (stored = none ∨ stored = some value) ∧ after = some value := by
  cases stored with
  | none => simp [publish, eq_comm]
  | some other =>
    by_cases h : other = value
    · simp [publish, h, eq_comm]
    · simp [publish, h]

lemma publish_eq_error {α : Type} [DecidableEq α] {stored : Option α} {value : α}
    {code path : String} {e : RolloutError} (h : publish stored value code path = .error e) :
    e = .rollout code path ∧ ∃ other, stored = some other ∧ other ≠ value := by
  cases stored with
  | none => simp [publish] at h
  | some other =>
    by_cases hsame : other = value
    · simp [publish, hsame] at h
    · simp only [publish, hsame, ↓reduceIte, Except.error.injEq] at h
      exact ⟨h.symm, other, rfl, hsame⟩

lemma sound_request (hsound : files.Sound control)
    (horigin : admitRequest control request = .ok origin)
    (hstored : files.request = none ∨ files.request = some request) :
    Files.Sound { files with request := some request } control ∧
      files.Grows { files with request := some request } := by
  rcases hstored with hnone | hsome
  · rw [hsound.blank hnone]
    refine ⟨⟨?_, ?_⟩, ⟨?_, ?_, ?_, ?_⟩⟩
    · rintro accepted ⟨⟩
      exact ⟨origin, horigin, by simp, by simp, by simp⟩
    all_goals simp
  · have hfiles : { files with request := some request } = files := by rw [← hsome]
    rw [hfiles]
    exact ⟨hsound, Files.Grows.refl files⟩

lemma sound_childRequest (hsound : files.Sound control)
    (howned : Owned control request files origin) (hchild : child ∈ request.children) :
    let after := { files with
      childRequests := Function.update files.childRequests child.childId (some child) }
    after.Sound control ∧ files.Grows after := by
  intro after
  have hfollows := hsound.follows howned.2 howned.1
  have hgrows : files.Grows after := by
    refine ⟨fun _ h => h, ?_, fun _ _ h => h, fun _ h => h⟩
    intro childId stored hstored
    by_cases hid : childId = child.childId
    · subst hid
      rw [hfollows.request_of_mem hchild hstored]
      exact Function.update_self ..
    · show Function.update files.childRequests child.childId (some child) childId = some stored
      rwa [Function.update_of_ne hid]
  refine ⟨⟨?_, ?_⟩, hgrows⟩
  · intro accepted haccepted
    have heq : request = accepted := Option.some.inj (howned.2.symm.trans haccepted)
    subst heq
    refine ⟨origin, howned.1, ?_, hfollows.childReceipt, ?_⟩
    · intro childId stored hstored
      by_cases hid : childId = child.childId
      · subst hid
        have hself : after.childRequests child.childId = some child := Function.update_self ..
        rw [hself] at hstored
        cases hstored
        exact ⟨hchild, rfl⟩
      · have hother : after.childRequests childId = files.childRequests childId :=
          Function.update_of_ne hid ..
        rw [hother] at hstored
        exact hfollows.childRequest childId stored hstored
    · intro lineage hlineage
      obtain ⟨receipts, hgathers, hstores, heq⟩ := hfollows.lineage lineage hlineage
      exact ⟨receipts, hgathers, stores_grow hstores hgrows, heq⟩
  · intro hnone
    have : files.request = none := hnone
    rw [howned.2] at this
    cases this

lemma sound_childReceipt {receipt : ChildReceipt} (hsound : files.Sound control)
    (howned : Owned control request files origin) (hchild : child ∈ request.children)
    (hok : materializeChild control request origin child = .ok receipt) : let after := { files with
      childReceipts := Function.update files.childReceipts child.childId (some receipt) }
    after.Sound control ∧ files.Grows after := by
  intro after
  have hfollows := hsound.follows howned.2 howned.1
  have hgrows : files.Grows after := by
    refine ⟨fun _ h => h, fun _ _ h => h, ?_, fun _ h => h⟩
    intro childId stored hstored
    by_cases hid : childId = child.childId
    · subst hid
      have hsame := hfollows.receipt_of_mem hchild hstored
      rw [hok] at hsame
      rw [← Except.ok.inj hsame]
      exact Function.update_self ..
    · show Function.update files.childReceipts child.childId (some receipt) childId = some stored
      rwa [Function.update_of_ne hid]
  refine ⟨⟨?_, ?_⟩, hgrows⟩
  · intro accepted haccepted
    have heq : request = accepted := Option.some.inj (howned.2.symm.trans haccepted)
    subst heq
    refine ⟨origin, howned.1, hfollows.childRequest, ?_, ?_⟩
    · intro childId stored hstored
      by_cases hid : childId = child.childId
      · subst hid
        have hself : after.childReceipts child.childId = some receipt := Function.update_self ..
        rw [hself] at hstored
        cases hstored
        exact ⟨child, hchild, rfl, hok⟩
      · have hother : after.childReceipts childId = files.childReceipts childId :=
          Function.update_of_ne hid ..
        rw [hother] at hstored
        exact hfollows.childReceipt childId stored hstored
    · intro lineage hlineage
      obtain ⟨receipts, hgathers, hstores, heq⟩ := hfollows.lineage lineage hlineage
      exact ⟨receipts, hgathers, stores_grow hstores hgrows, heq⟩
  · intro hnone
    have : files.request = none := hnone
    rw [howned.2] at this
    cases this

variable {receipts : List ChildReceipt}

lemma Files.Follows.lineage_eq {lineage : Lineage} (h : files.Follows control request origin)
    (hgathers : Gathers control request origin request.children receipts)
    (hlineage : files.lineage = some lineage) : lineage = lineageOf request receipts := by
  obtain ⟨others, hothers, -, rfl⟩ := h.lineage lineage hlineage
  have hsame := groupOf_eq_ok h.admitted hothers
  rw [groupOf_eq_ok h.admitted hgathers] at hsame
  exact (Except.ok.inj hsame).symm

lemma sound_lineage (hsound : files.Sound control) (howned : Owned control request files origin)
    (hgathers : Gathers control request origin request.children receipts)
    (hstores : List.Forall₂ files.Stores request.children receipts) :
    let after := { files with lineage := some (lineageOf request receipts) }
    after.Sound control ∧ files.Grows after := by
  intro after
  have hfollows := hsound.follows howned.2 howned.1
  refine ⟨⟨?_, ?_⟩, ⟨fun _ h => h, fun _ _ h => h, fun _ _ h => h, ?_⟩⟩
  · intro accepted haccepted
    have heq : request = accepted := Option.some.inj (howned.2.symm.trans haccepted)
    subst heq
    refine ⟨origin, howned.1, hfollows.childRequest, hfollows.childReceipt, ?_⟩
    intro lineage hlineage
    exact ⟨receipts, hgathers, hstores, (Option.some.inj hlineage).symm⟩
  · intro hnone
    have : files.request = none := hnone
    rw [howned.2] at this
    cases this
  · intro lineage hlineage
    rw [hfollows.lineage_eq hgathers hlineage]

end Write

/-! ## Steps -/

section Steps

variable {ι : Type} {group : Group ι}

/-- A step keeps the files sound, only adds to them, and reaches what the next place asserts. -/
def Keeps (control : Control) (request : GroupRequest) (group : Group ι)
    (after : Group ι × Place) : Prop :=
  after.1.files.Sound control ∧ group.files.Grows after.1.files ∧
    after.2.Asserts control request after.1.files

lemma keeps_of_files {after : Group ι × Place} (hsound : group.files.Sound control)
    (hfiles : after.1.files = group.files)
    (hasserts : after.2.Asserts control request group.files) :
    Keeps control request group after := by
  unfold Keeps
  rw [hfiles]
  exact ⟨hsound, Files.Grows.refl _, hasserts⟩

lemma keeps_of_written {after : Group ι × Place}
    (hwritten : after.1.files.Sound control ∧ group.files.Grows after.1.files)
    (hasserts : after.2.Asserts control request after.1.files) :
    Keeps control request group after :=
  ⟨hwritten.1, hwritten.2, hasserts⟩

variable {i : ι}

section Before

variable (hsound : group.files.Sound control)

include hsound

lemma called_keeps : Keeps control request group (advance control request i group .called) := by
  unfold advance
  cases hadmission : admitRequest control request with
  | error e =>
    have hrefused : Refused control request group.files e := .inl hadmission
    exact keeps_of_files hsound rfl hrefused
  | ok origin => exact keeps_of_files hsound rfl hadmission

lemma verified_keeps (h : admitRequest control request = .ok origin) :
    Keeps control request group (advance control request i group (.verified origin)) := by
  unfold advance
  cases group.groupLock with
  | some _ | none => exact keeps_of_files hsound rfl h

lemma requesting_keeps (h : admitRequest control request = .ok origin) :
    Keeps control request group (advance control request i group (.requesting origin)) := by
  unfold advance
  dsimp only
  cases hpublish : publish group.files.request request "request-conflict"
      (requestPath request.groupId) with
  | error e =>
    have hrefused : Refused control request group.files e :=
      .inr (.inl ⟨⟨origin, h⟩, publish_eq_error hpublish⟩)
    exact keeps_of_files hsound rfl hrefused
  | ok stored =>
    obtain ⟨hstored, rfl⟩ := publish_eq_ok.mp hpublish
    exact keeps_of_written (sound_request hsound h hstored) ⟨h, rfl⟩

lemma probing_keeps (h : Owned control request group.files origin) :
    Keeps control request group (advance control request i group (.probing origin)) := by
  unfold advance
  dsimp only
  cases hlineage : group.files.lineage with
  | some lineage => exact keeps_of_files hsound rfl ⟨h, lineage, hlineage⟩
  | none =>
    refine keeps_of_files hsound rfl ⟨h, [], rfl, ?_⟩
    exact fun child hchild => absurd hchild List.not_mem_nil

lemma replaying_keeps (h : Place.Asserts control request group.files (.replaying origin)) :
    Keeps control request group (advance control request i group (.replaying origin)) := by
  obtain ⟨howned, lineage, hlineage⟩ := h
  obtain ⟨receipts, hgathers, hstores, rfl⟩ :=
    (hsound.follows howned.2 howned.1).lineage lineage hlineage
  unfold advance
  dsimp only
  rw [replay_stored hlineage hgathers hstores]
  exact keeps_of_files hsound rfl ⟨howned.2, groupOf_eq_ok howned.1 hgathers⟩

lemma reserving_keeps (h : Place.Asserts control request group.files (.reserving origin rest)) :
    Keeps control request group (advance control request i group (.reserving origin rest)) := by
  obtain ⟨howned, done, hchildren, hreserves⟩ := h
  cases rest with
  | nil =>
    rw [List.append_nil] at hchildren
    subst hchildren
    exact keeps_of_files hsound rfl ⟨howned, hreserves, [], rfl, List.Forall₂.nil⟩
  | cons child rest =>
    have hchild : child ∈ request.children := by
      rw [← hchildren]
      simp
    unfold advance
    dsimp only
    cases hpublish : publish (group.files.childRequests child.childId) child
        "child-request-conflict" (childRequestPath request.groupId child.childId) with
    | error e =>
      -- a child that is stored under this id is this child
      obtain ⟨-, other, hother, hne⟩ := publish_eq_error hpublish
      exact absurd ((hsound.follows howned.2 howned.1).request_of_mem hchild hother) hne
    | ok stored =>
      obtain ⟨-, rfl⟩ := publish_eq_ok.mp hpublish
      have hwritten := sound_childRequest hsound howned hchild
      refine keeps_of_written hwritten ⟨howned, done ++ [child], by simp [hchildren], ?_⟩
      intro reserved hreserved
      rcases List.mem_append.mp hreserved with hdone | hlast
      · exact hwritten.2.childRequests _ _ (hreserves reserved hdone)
      · obtain rfl := List.mem_singleton.mp hlast
        exact Function.update_self ..

end Before

section Children

variable (hsound : group.files.Sound control)

include hsound

lemma waiting_keeps
    (h : Place.Asserts control request group.files (.waiting origin candidates rest)) :
    Keeps control request group
      (advance control request i group (.waiting origin candidates rest)) := by
  cases rest with
  | nil =>
    obtain ⟨howned, hreserves, done, hchildren, hgathers⟩ := h
    rw [List.append_nil] at hchildren
    subst hchildren
    exact keeps_of_files hsound rfl ⟨howned, hreserves, hgathers⟩
  | cons child rest =>
    unfold advance
    dsimp only
    cases group.childLock child.childId with
    | some _ | none => exact keeps_of_files hsound rfl h

lemma loading_keeps
    (h : Place.Asserts control request group.files (.loading origin candidates child rest)) :
    Keeps control request group
      (advance control request i group (.loading origin candidates child rest)) := by
  obtain ⟨howned, hreserves, hgathered⟩ := h
  have hchild : child ∈ request.children := by
    obtain ⟨done, hchildren, -⟩ := hgathered
    rw [← hchildren]
    simp
  unfold advance
  dsimp only
  cases hstored : group.files.childReceipts child.childId with
  | none => exact keeps_of_files hsound rfl ⟨howned, hreserves, hgathered⟩
  | some receipt =>
    have hok := (hsound.follows howned.2 howned.1).receipt_of_mem hchild hstored
    dsimp only
    rw [checkReceipt_materialized hok]
    exact keeps_of_files hsound rfl ⟨howned, hreserves, hgathered.concat hok⟩

lemma materializing_keeps
    (h : Place.Asserts control request group.files (.materializing origin candidates child rest)) :
    Keeps control request group
      (advance control request i group (.materializing origin candidates child rest)) := by
  obtain ⟨howned, hreserves, hgathered⟩ := h
  unfold advance
  dsimp only
  cases hok : materializeChild control request origin child with
  | error e =>
    obtain ⟨done, hchildren, hgathers⟩ := hgathered
    have hrefused : Refused control request group.files e :=
      .inr (.inr ⟨howned.2, groupOf_eq_error howned.1 hchildren hgathers hok⟩)
    exact keeps_of_files hsound rfl hrefused
  | ok receipt => exact keeps_of_files hsound rfl ⟨howned, hreserves, hgathered.concat hok⟩

lemma gathered_keeps (h : Place.Asserts control request group.files (.gathered origin candidates)) :
    Keeps control request group
      (advance control request i group (.gathered origin candidates)) := by
  unfold advance
  cases group.groupLock with
  | some _ | none => exact keeps_of_files hsound rfl h

end Children

section Publication

variable (hsound : group.files.Sound control)

include hsound

lemma confirming_keeps
    (h : Place.Asserts control request group.files (.confirming origin candidates)) :
    Keeps control request group
      (advance control request i group (.confirming origin candidates)) := by
  obtain ⟨howned, hreserves, hgathers⟩ := h
  have hpublish : publish group.files.request request "request-conflict"
      (requestPath request.groupId) = .ok (some request) :=
    publish_eq_ok.mpr ⟨.inr howned.2, rfl⟩
  unfold advance
  dsimp only
  rw [hpublish, requirePersistedChildRequests_reserved hreserves]
  refine keeps_of_written (sound_request hsound howned.1 (.inr howned.2)) ?_
  refine ⟨⟨howned.1, rfl⟩, hreserves, ⟨[], ?_, List.Forall₂.nil, List.Forall₂.nil⟩, ?_⟩
  · exact List.map_fst_zip (List.Forall₂.length_eq hgathers).le
  · rintro ⟨child, receipt⟩ hpair
    exact (List.forall₂_iff_zip.mp hgathers).2 hpair

variable {receipts : List ChildReceipt}

lemma publishing_keeps {rest : List (ChildRequest × ChildReceipt)}
    (h : Place.Asserts control request group.files (.publishing origin receipts rest)) :
    Keeps control request group
      (advance control request i group (.publishing origin receipts rest)) := by
  obtain ⟨howned, hreserves, hpublished⟩ := h
  cases rest with
  | nil =>
    obtain ⟨⟨done, hchildren, hgathers, hstores⟩, -⟩ := hpublished
    rw [List.map_nil, List.append_nil] at hchildren
    subst hchildren
    exact keeps_of_files hsound rfl ⟨origin, howned, hgathers, hstores⟩
  | cons pair rest =>
    obtain ⟨child, receipt⟩ := pair
    have hok : materializeChild control request origin child = .ok receipt :=
      hpublished.2 _ List.mem_cons_self
    have hchild : child ∈ request.children := by
      obtain ⟨⟨done, hchildren, -⟩, -⟩ := hpublished
      rw [← hchildren]
      simp
    unfold advance
    dsimp only
    rw [publishChildReceipt_gathered (hsound.follows howned.2 howned.1) hchild hok]
    have hwritten := sound_childReceipt hsound howned hchild hok
    refine keeps_of_written hwritten ⟨howned, hreserves, receipt, ?_, ?_⟩
    · exact Function.update_self ..
    · exact hpublished.grow hwritten.2

lemma checking_keeps {rest : List (ChildRequest × ChildReceipt)}
    (h : Place.Asserts control request group.files (.checking origin receipts child rest)) :
    Keeps control request group
      (advance control request i group (.checking origin receipts child rest)) := by
  obtain ⟨howned, hreserves, receipt, hstored, ⟨done, hchildren, hgathers, hstores⟩, hrest⟩ := h
  have hok : materializeChild control request origin child = .ok receipt :=
    hrest _ List.mem_cons_self
  have hchild : child ∈ request.children := by
    rw [← hchildren]
    simp
  unfold advance
  simp only [hstored, load, checkReceipt_materialized hok]
  refine keeps_of_files hsound rfl ⟨howned, hreserves, ⟨done ++ [child], ?_, ?_, ?_⟩, ?_⟩
  · rw [← hchildren]
    simp
  · exact hgathers.concat hok
  · exact List.rel_append hstores
      (List.Forall₂.cons ⟨hreserves child hchild, hstored⟩ List.Forall₂.nil)
  · exact fun pair hpair => hrest pair (List.mem_cons_of_mem _ hpair)

lemma concluding_keeps (h : Place.Asserts control request group.files (.concluding receipts)) :
    Keeps control request group (advance control request i group (.concluding receipts)) := by
  obtain ⟨origin, howned, hgathers, hstores⟩ := h
  have hstored : group.files.lineage = none ∨
      group.files.lineage = some (lineageOf request receipts) := by
    cases hlineage : group.files.lineage with
    | none => exact .inl rfl
    | some lineage =>
      rw [(hsound.follows howned.2 howned.1).lineage_eq hgathers hlineage]
      exact .inr rfl
  have hpublish : publish group.files.lineage (lineageOf request receipts) "lineage-conflict"
      (lineagePath request.groupId) = .ok (some (lineageOf request receipts)) :=
    publish_eq_ok.mpr ⟨hstored, rfl⟩
  unfold advance
  dsimp only
  rw [buildLineage_gathered hgathers]
  dsimp only
  rw [hpublish]
  exact keeps_of_written (sound_lineage hsound howned hgathers hstores)
    ⟨origin, howned, _, rfl⟩

lemma returning_keeps (h : Place.Asserts control request group.files .returning) :
    Keeps control request group (advance control request i group .returning) := by
  obtain ⟨origin, howned, lineage, hlineage⟩ := h
  obtain ⟨receipts, hgathers, hstores, rfl⟩ :=
    (hsound.follows howned.2 howned.1).lineage lineage hlineage
  unfold advance
  dsimp only
  rw [loadCompleteLineage_stored hlineage hgathers hstores]
  exact keeps_of_files hsound rfl ⟨howned.2, groupOf_eq_ok howned.1 hgathers⟩

end Publication

/-- **A step of a call keeps its assertion**, keeps the files sound and only adds to them. -/
lemma stepCall_keeps [DecidableEq ι] {place : Place} {action : Action} (hsound : group.files.Sound control)
    (h : place.Asserts control request group.files) :
    Keeps control request group (stepCall control request i group place action) := by
  cases action with
  | crash =>
    unfold stepCall
    by_cases hended : place.Ended
    · rw [if_pos hended]
      exact keeps_of_files hsound rfl h
    · rw [if_neg hended]
      exact keeps_of_files hsound rfl trivial
  | advance =>
    show Keeps control request group (advance control request i group place)
    cases place with
    | called => exact called_keeps hsound
    | verified => exact verified_keeps hsound h
    | requesting => exact requesting_keeps hsound h
    | probing => exact probing_keeps hsound h
    | replaying => exact replaying_keeps hsound h
    | reserving => exact reserving_keeps hsound h
    | waiting => exact waiting_keeps hsound h
    | loading => exact loading_keeps hsound h
    | materializing => exact materializing_keeps hsound h
    | gathered => exact gathered_keeps hsound h
    | confirming => exact confirming_keeps hsound h
    | publishing => exact publishing_keeps hsound h
    | checking => exact checking_keeps hsound h
    | concluding => exact concluding_keeps hsound h
    | returning => exact returning_keeps hsound h
    | returned | raised | crashed => exact keeps_of_files hsound rfl h

end Steps

end AecBench.Worlds.Rollout
