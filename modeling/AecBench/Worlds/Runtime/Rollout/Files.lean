import AecBench.Lib.Loops
import AecBench.Worlds.Runtime.Rollout.Control

/-!
# What the files of a group hold

A request says what its group is: every child is materialised from the verified origin, and the
receipts in the order of the request make up the lineage. The files of a group are sound when all
that they hold is part of the group of one request.

## Main definitions

* `groupOf` — the lineage of a request, or the error that it meets first.
* `Files.Follows`, `Files.Sound` — the files hold parts of the group of a request.
* `Files.Grows` — no file was changed or removed.

## Main results

* `buildLineage_gathered` — the receipts of all children make a valid lineage.
* `loadCompleteLineage_stored`, `replay_stored` — a stored lineage passes every check.
* `groupOf_eq_ok`, `groupOf_eq_error` — the group of a request, from its parts.
-/

namespace AecBench.Worlds.Rollout

open Text Validation

/-- The lineage of a request, or the error that it meets first. -/
def groupOf (control : Control) (request : GroupRequest) : Except RolloutError Lineage := do
  let origin ← admitRequest control request
  let receipts ← request.children.mapM (materializeChild control request origin)
  return lineageOf request receipts

section Receipts

variable {control : Control} {request : GroupRequest} {origin : Origin} {child : ChildRequest}
  {receipt : ChildReceipt} {children : List ChildRequest} {receipts : List ChildReceipt}

lemma checkReceipt_eq_ok {ancestors : List NonEmptyStr} :
    checkReceipt control request child ancestors receipt = .ok () ↔
      ReceiptMatchesChild receipt request child ∧ receipt.ancestorWorldBranchIds = ancestors ∧
        control.port.verifyChild request child receipt = .ok () := by
  unfold checkReceipt
  rw [require_bind_eq_ok, require_bind_eq_ok]

lemma checkReceipt_materialized (h : materializeChild control request origin child = .ok receipt) :
    checkReceipt control request child origin.ancestorWorldBranchIds receipt = .ok () := by
  unfold materializeChild at h
  obtain ⟨materialization, -, h⟩ := bind_eq_ok.mp h
  obtain ⟨-, h⟩ := require_bind_eq_ok.mp h
  obtain ⟨built, -, h⟩ := bind_eq_ok.mp h
  obtain ⟨hcheck, h⟩ := unit_bind_eq_ok.mp h
  rwa [← pure_eq_ok.mp h]

lemma materialized_matches (h : materializeChild control request origin child = .ok receipt) :
    ReceiptMatchesChild receipt request child :=
  (checkReceipt_eq_ok.mp (checkReceipt_materialized h)).1

/-- The receipts of children that are materialised, in their order. -/
def Gathers (control : Control) (request : GroupRequest) (origin : Origin) :
    List ChildRequest → List ChildReceipt → Prop :=
  List.Forall₂ fun child receipt => materializeChild control request origin child = .ok receipt

namespace Gathers

variable (h : Gathers control request origin children receipts)
include h

lemma concat (hchild : materializeChild control request origin child = .ok receipt) :
    Gathers control request origin (children ++ [child]) (receipts ++ [receipt]) :=
  List.rel_append h (List.Forall₂.cons hchild List.Forall₂.nil)

lemma matches_children :
    List.Forall₂ (fun receipt child => ReceiptMatchesChild receipt request child)
      receipts children :=
  List.Forall₂.flip (List.Forall₂.imp (fun _ _ => materialized_matches) h)

lemma map_childId : receipts.map (·.childId) = children.map (·.childId) := by
  induction h with
  | nil => rfl
  | cons hchild _ ih =>
    rw [List.map_cons, List.map_cons, ih, (materialized_matches hchild).2.1]

lemma exists_child :
    ∀ receipt ∈ receipts, ∃ child ∈ children,
      materializeChild control request origin child = .ok receipt := by
  induction h with
  | nil => exact fun receipt hreceipt => absurd hreceipt List.not_mem_nil
  | cons hchild _ ih =>
    intro receipt hreceipt
    rcases List.mem_cons.mp hreceipt with rfl | hreceipt
    · exact ⟨_, List.mem_cons_self, hchild⟩
    · obtain ⟨child, hmem, hok⟩ := ih receipt hreceipt
      exact ⟨child, List.mem_cons_of_mem _ hmem, hok⟩

end Gathers

/-- **The receipts of all children make a valid lineage.** -/
lemma buildLineage_gathered (h : Gathers control request origin request.children receipts) :
    buildLineage request receipts = .ok (lineageOf request receipts) := by
  have hmatch : ∀ receipt ∈ receipts, receipt.groupId = request.groupId ∧
      receipt.parentSnapshot = request.parentSnapshot := by
    intro receipt hreceipt
    obtain ⟨child, -, hok⟩ := h.exists_child receipt hreceipt
    have := materialized_matches hok
    exact ⟨this.1, this.2.2.2.1⟩
  have hne : receipts ≠ [] := by
    rintro rfl
    exact request.children_ne (List.forall₂_nil_right_iff.mp h)
  have hnodup : (receipts.map (·.childId)).Nodup := by
    rw [h.map_childId]
    exact request.childIds_nodup
  have hvalid : lineageError (lineageOf request receipts) = none := by
    unfold lineageError lineageOf
    simp only [request.build_world, request.profile_world, hne, hnodup, not_true_eq_false,
      ne_eq, ↓reduceIte]
    rw [if_neg, if_neg]
    · rintro ⟨receipt, hreceipt, hother⟩
      exact hother (hmatch receipt hreceipt).2
    · rintro ⟨receipt, hreceipt, hother⟩
      exact hother (hmatch receipt hreceipt).1
  unfold buildLineage
  rw [hvalid]

lemma mapM_eq_error {ε α β : Type} {f : α → Except ε β} {done rest : List α} {x : α} {ys : List β}
    {e : ε} (hdone : List.Forall₂ (fun x y => f x = .ok y) done ys) (hx : f x = .error e) :
    (done ++ x :: rest).mapM f = .error e := by
  induction hdone with
  | nil => simp [List.mapM_cons, hx, bind, Except.bind]
  | cons hy _ ih => simp [List.mapM_cons, hy, ih, bind, Except.bind]

lemma groupOf_eq_ok (horigin : admitRequest control request = .ok origin)
    (h : Gathers control request origin request.children receipts) :
    groupOf control request = .ok (lineageOf request receipts) := by
  unfold groupOf
  rw [horigin, ok_bind, mapM_eq_ok.mpr h, ok_bind]
  rfl

lemma groupOf_eq_error {done rest : List ChildRequest} {e : RolloutError}
    (horigin : admitRequest control request = .ok origin)
    (hchildren : done ++ child :: rest = request.children)
    (hdone : Gathers control request origin done receipts)
    (hchild : materializeChild control request origin child = .error e) :
    groupOf control request = .error e := by
  unfold groupOf
  rw [horigin, ok_bind, ← hchildren, mapM_eq_error hdone hchild]
  rfl

lemma groupOf_refused {e : RolloutError} (h : admitRequest control request = .error e) :
    groupOf control request = .error e := by
  unfold groupOf
  rw [h]
  rfl

end Receipts

/-! ## Files -/

/-- No file was changed or removed. -/
structure Files.Grows (files later : Files) : Prop where
  request : ∀ request, files.request = some request → later.request = some request
  childRequests : ∀ childId child,
    files.childRequests childId = some child → later.childRequests childId = some child
  childReceipts : ∀ childId receipt,
    files.childReceipts childId = some receipt → later.childReceipts childId = some receipt
  lineage : ∀ lineage, files.lineage = some lineage → later.lineage = some lineage

lemma Files.Grows.refl (files : Files) : files.Grows files :=
  ⟨fun _ h => h, fun _ _ h => h, fun _ _ h => h, fun _ h => h⟩

variable {files later : Files}

lemma Files.Grows.trans {last : Files} (h : files.Grows later) (hlast : later.Grows last) :
    files.Grows last where
  request request hrequest := hlast.request _ (h.request request hrequest)
  childRequests childId child hchild := hlast.childRequests _ _ (h.childRequests childId child hchild)
  childReceipts childId receipt hreceipt :=
    hlast.childReceipts _ _ (h.childReceipts childId receipt hreceipt)
  lineage lineage hlineage := hlast.lineage _ (h.lineage lineage hlineage)

/-- The request and the receipt of a child are stored. -/
def Files.Stores (files : Files) (child : ChildRequest) (receipt : ChildReceipt) : Prop :=
  files.childRequests child.childId = some child ∧ files.childReceipts child.childId = some receipt

lemma Files.Stores.grow {child : ChildRequest} {receipt : ChildReceipt}
    (h : files.Stores child receipt) (hgrows : files.Grows later) : later.Stores child receipt :=
  ⟨hgrows.childRequests _ _ h.1, hgrows.childReceipts _ _ h.2⟩

/-- The children of a request are all stored. -/
def Files.Reserves (files : Files) (children : List ChildRequest) : Prop :=
  ∀ child ∈ children, files.childRequests child.childId = some child

variable {children : List ChildRequest}

lemma Files.Reserves.grow (h : files.Reserves children) (hgrows : files.Grows later) :
    later.Reserves children :=
  fun child hchild => hgrows.childRequests _ _ (h child hchild)

/-- The files hold parts of the group of an accepted request. -/
structure Files.Follows (files : Files) (control : Control) (request : GroupRequest)
    (origin : Origin) : Prop where
  admitted : admitRequest control request = .ok origin
  childRequest : ∀ childId child, files.childRequests childId = some child →
    child ∈ request.children ∧ child.childId = childId
  childReceipt : ∀ childId receipt, files.childReceipts childId = some receipt →
    ∃ child ∈ request.children, child.childId = childId ∧
      materializeChild control request origin child = .ok receipt
  lineage : ∀ lineage, files.lineage = some lineage →
    ∃ receipts, Gathers control request origin request.children receipts ∧
      List.Forall₂ files.Stores request.children receipts ∧ lineage = lineageOf request receipts

/-- The files hold parts of the group of the request that is accepted, and nothing without one. -/
structure Files.Sound (files : Files) (control : Control) : Prop where
  accepted : ∀ request, files.request = some request → ∃ origin, files.Follows control request origin
  blank : files.request = none → files = {}

section Stored

variable {files : Files} {control : Control} {request : GroupRequest} {origin : Origin}
  {receipts : List ChildReceipt} {child : ChildRequest} {receipt : ChildReceipt}

lemma Files.Sound.follows (h : files.Sound control) (hrequest : files.request = some request)
    (horigin : admitRequest control request = .ok origin) :
    files.Follows control request origin := by
  obtain ⟨other, hother⟩ := h.accepted request hrequest
  have heq : other = origin := by
    have := hother.admitted
    rw [horigin] at this
    exact (Except.ok.inj this).symm
  rwa [← heq]

/-- The stored receipt of a child is the one that it has when it is materialised. -/
lemma Files.Follows.receipt_of_mem (h : files.Follows control request origin)
    (hchild : child ∈ request.children)
    (hreceipt : files.childReceipts child.childId = some receipt) :
    materializeChild control request origin child = .ok receipt := by
  obtain ⟨other, hother, hid, hok⟩ := h.childReceipt child.childId receipt hreceipt
  have heq : other = child :=
    List.inj_on_of_nodup_map request.childIds_nodup hother hchild hid
  rwa [heq] at hok

lemma Files.Follows.request_of_mem {stored : ChildRequest}
    (h : files.Follows control request origin) (hchild : child ∈ request.children)
    (hstored : files.childRequests child.childId = some stored) : stored = child := by
  obtain ⟨hmem, hid⟩ := h.childRequest child.childId stored hstored
  exact List.inj_on_of_nodup_map request.childIds_nodup hmem hchild hid

lemma requirePersistedChildRequests_reserved (h : files.Reserves request.children) :
    requirePersistedChildRequests request files = .ok () := by
  unfold requirePersistedChildRequests
  rw [Loops.forM_eq_ok]
  intro child hchild
  exact require_eq_ok.mpr (h child hchild)

lemma reserves_of_stores (h : List.Forall₂ files.Stores children receipts) :
    files.Reserves children := by
  induction h with
  | nil => exact fun child hchild => absurd hchild List.not_mem_nil
  | cons hchild _ ih =>
    intro child hmem
    rcases List.mem_cons.mp hmem with rfl | hmem
    · exact hchild.1
    · exact ih child hmem

/-- **A stored lineage is loaded**: every join of the lineage, its receipts and the request holds. -/
lemma loadCompleteLineage_stored (hlineage : files.lineage = some (lineageOf request receipts))
    (hgathers : Gathers control request origin request.children receipts)
    (hstores : List.Forall₂ files.Stores request.children receipts) :
    loadCompleteLineage request files = .ok (lineageOf request receipts) := by
  have hmatch : LineageMatchesRequest (lineageOf request receipts) request :=
    ⟨rfl, rfl, rfl, rfl, rfl, rfl, rfl, rfl, rfl⟩
  have hreceipts : (request.children.zip receipts).forM
      (fun pair => checkStoredReceipt request files pair.1 pair.2) = .ok () := by
    rw [Loops.forM_eq_ok]
    rintro ⟨child, receipt⟩ hpair
    have hstored := (List.forall₂_iff_zip.mp hstores).2 hpair
    have hok := (List.forall₂_iff_zip.mp hgathers).2 hpair
    unfold checkStoredReceipt
    rw [hstored.2]
    show (require _ _ >>= fun _ => _) = _
    exact require_bind_eq_ok.mpr ⟨rfl, require_eq_ok.mpr (materialized_matches hok)⟩
  unfold loadCompleteLineage
  rw [hlineage]
  refine require_bind_eq_ok.mpr ⟨hmatch, ?_⟩
  refine require_bind_eq_ok.mpr ⟨hgathers.map_childId, ?_⟩
  refine unit_bind_eq_ok.mpr ⟨requirePersistedChildRequests_reserved (reserves_of_stores hstores), ?_⟩
  exact unit_bind_eq_ok.mpr ⟨hreceipts, rfl⟩

lemma verifyPersistedChildren_gathered
    (hgathers : Gathers control request origin request.children receipts) :
    verifyPersistedChildren control request origin (lineageOf request receipts) = .ok () := by
  unfold verifyPersistedChildren
  rw [Loops.forM_eq_ok]
  rintro ⟨child, receipt⟩ hpair
  exact checkReceipt_materialized ((List.forall₂_iff_zip.mp hgathers).2 hpair)

lemma replay_stored (hlineage : files.lineage = some (lineageOf request receipts))
    (hgathers : Gathers control request origin request.children receipts)
    (hstores : List.Forall₂ files.Stores request.children receipts) :
    replay control request files origin = .ok (lineageOf request receipts) := by
  unfold replay
  rw [loadCompleteLineage_stored hlineage hgathers hstores, ok_bind,
    verifyPersistedChildren_gathered hgathers, ok_bind]
  rfl

lemma publishChildReceipt_gathered (h : files.Follows control request origin)
    (hchild : child ∈ request.children)
    (hok : materializeChild control request origin child = .ok receipt) :
    publishChildReceipt control request files origin child receipt = .ok receipt := by
  obtain ⟨hmatch, hancestors, hverify⟩ := checkReceipt_eq_ok.mp (checkReceipt_materialized hok)
  unfold publishChildReceipt checkCandidate
  rw [unit_bind_eq_ok]
  refine ⟨require_bind_eq_ok.mpr ⟨hmatch, require_eq_ok.mpr hancestors⟩, ?_⟩
  cases hstored : files.childReceipts child.childId with
  | none => exact unit_bind_eq_ok.mpr ⟨hverify, rfl⟩
  | some stored =>
    have hsame := h.receipt_of_mem hchild hstored
    rw [hok] at hsame
    rw [Except.ok.inj hsame]
    rfl

end Stored

end AecBench.Worlds.Rollout
