import AecBench.Worlds.Stewardship.PumpStation.TemporalEvidence.Gateway

/-!
# What accesses reveal

Two corpora with the same policies and the same accessible versions answer every sequence of
searches and fetches alike, whatever else they hold: matching and ranking read the accessible
versions only, and what else a decision is made of stays with the host.

## Main definitions

* `SamePolicies`, `SameFrontier` — what two corpora have in common.
* `TemporalRetrievalState.visible` — the part of a state that its actor sees.
* `access`, `session` — one request, and a sequence of them.

## Main results

* `decision_congr` — a decision shows what its visible arguments say.
* `access_congr` — one access to two corpora with one frontier.
* `session_reveals_frontier` — sequences of accesses, and references that resolve to nothing.
-/

namespace AecBench.Worlds.PumpStation.TemporalEvidence

open Validation Text

/-! ## What two corpora have in common -/

structure SamePolicies (B B' : TemporalEvidenceBundle) : Prop where
  retrieval : B.retrievalPolicy = B'.retrievalPolicy
  access : B.accessPolicy = B'.accessPolicy
  branch : B.branchPolicy = B'.branchPolicy
  cost : B.costPolicy = B'.costPolicy

/-- The accessible versions of a context are the same. -/
def SameFrontier (B B' : TemporalEvidenceBundle) (context : TemporalAccessContext) : Prop :=
  ∀ v, v ∈ accessibleVersions B context ↔ v ∈ accessibleVersions B' context

section Lookup

variable {B B' : TemporalEvidenceBundle} {context : TemporalAccessContext}

variable {v : TemporalEvidenceVersion}

lemma mem_accessibleVersions :
    v ∈ accessibleVersions B context ↔ v ∈ B.versions ∧ isAccessible B v context = true :=
  List.mem_filter

variable {state : TemporalRetrievalState}

lemma accessibleVersion_eq_some {reference : String} :
    accessibleVersion B context state reference = some v ↔
      ∃ issued, state.issuedReferences.find? (fun item => item.opaqueReference = reference) =
        some issued ∧ v ∈ accessibleVersions B context ∧
        v.versionId = issued.evidenceVersionId := by
  rw [accessibleVersion, issuedVersion, Option.filter_eq_some_iff, mem_accessibleVersions]
  simp only [Option.bind_eq_bind, Option.bind_eq_some_iff]
  constructor
  · rintro ⟨⟨issued, hissued, hv⟩, haccessible⟩
    obtain ⟨hmem, hid⟩ := Table.mem_of_lookup hv
    exact ⟨issued, hissued, ⟨hmem, haccessible⟩, hid⟩
  · rintro ⟨issued, hissued, ⟨hmem, haccessible⟩, hid⟩
    refine ⟨⟨issued, hissued, ?_⟩, haccessible⟩
    exact hid ▸ B.keyed_versions.lookup_of_mem hmem

lemma accessibleVersion_congr (h : SameFrontier B B' context) {state' : TemporalRetrievalState}
    (hissued : state.issuedReferences = state'.issuedReferences) (reference : String) :
    accessibleVersion B context state reference = accessibleVersion B' context state' reference := by
  apply Option.ext
  intro v
  rw [accessibleVersion_eq_some, accessibleVersion_eq_some, hissued, h v]

end Lookup

/-! ## Ranking -/

section Ranking

variable (U : Unicode) {B B' : TemporalEvidenceBundle} {context : TemporalAccessContext}

lemma keyed_rankKey {vs : List TemporalEvidenceVersion} (query : String)
    (h : Table.Keyed (fun v : TemporalEvidenceVersion => v.versionId) vs) :
    Table.Keyed (rankKey U query) vs := by
  refine List.Nodup.of_map (fun key => (ofLex key).2) ?_
  rw [List.map_map]
  exact h

lemma mem_matching_accessible {query scope : String} {v : TemporalEvidenceVersion} :
    v ∈ (matchingVersions U B query scope).filter (fun v => isAccessible B v context) ↔
      v ∈ accessibleVersions B context ∧ (scope = "all" ∨ scope ∈ v.scopeLabels) ∧
        (tokens U query).any (fun token =>
          (find token.toList (searchableText U v).toList).isSome) = true := by
  rw [List.mem_filter, matchingVersions, List.mem_filter, mem_accessibleVersions]
  simp only [decide_eq_true_eq]
  tauto

/-- **The ranking of a search depends on the accessible versions only.** -/
lemma rank_congr (h : SameFrontier B B' context) (query scope : String) :
    rank U ((matchingVersions U B query scope).filter fun v => isAccessible B v context) query =
      rank U ((matchingVersions U B' query scope).filter fun v => isAccessible B' v context)
        query := by
  have hkeyed : ∀ C : TemporalEvidenceBundle, Table.Keyed (rankKey U query)
      ((matchingVersions U C query scope).filter fun v => isAccessible C v context) := by
    intro C
    apply keyed_rankKey
    exact ((List.filter_sublist.trans List.filter_sublist).map _).nodup C.keyed_versions
  apply Table.sortBy_congr (hkeyed B) (hkeyed B')
  intro v
  rw [mem_matching_accessible, mem_matching_accessible, h v]

end Ranking

/-! ## What a decision shows -/

/-- The part of a state that its actor sees: the budget, the references, and the ids of what was
shown. -/
def TemporalRetrievalState.visible (s : TemporalRetrievalState) : TemporalRetrievalState :=
  { s with previousStateId := none, installedCarrierId := none }

variable {s s' : TemporalRetrievalState}

lemma eq_of_visible_eq (h : s.visible = s'.visible) :
    s.remainingBudget = s'.remainingBudget ∧ s.referenceNamespaceId = s'.referenceNamespaceId ∧
      s.issuedReferences = s'.issuedReferences := by
  simp only [TemporalRetrievalState.visible, TemporalRetrievalState.mk.injEq] at h
  obtain ⟨-, -, hnamespace, hbudget, hissued, -⟩ := h
  exact ⟨hbudget, hnamespace, hissued⟩

/-- The arguments of a decision without those that are for the host. -/
def DecisionArguments.visible (a : DecisionArguments) : DecisionArguments :=
  { a with
    requestContentId := "", privateReason := .noMatch, eligible := [], rankingVersions := [] }

/-- What an actor sees of an access. -/
structure ActorView where
  result : TemporalEvidenceAccessResult
  remainingBudget : RetrievalBudgetVector

def TemporalAccessDecision.view (d : TemporalAccessDecision) : ActorView :=
  ⟨d.result, d.nextState.remainingBudget⟩

section Decision

variable (sha256 : Payload → String) {B B' : TemporalEvidenceBundle}
  {context : TemporalAccessContext} {s s' : TemporalRetrievalState} {a a' : DecisionArguments}

lemma receipt_check_visible (after : RetrievalBudgetVector) :
    (a.visible.receipt sha256 B' context s.visible after).check =
      (a.receipt sha256 B context s after).check := rfl

lemma nextState_check_visible (after : RetrievalBudgetVector) :
    (a.visible.nextState sha256 context s.visible after).check =
      (a.nextState sha256 context s after).check := rfl

lemma decided_check (after : RetrievalBudgetVector) :
    TemporalAccessDecision.check ⟨a.result context s, a.receipt sha256 B context s after,
      a.nextState sha256 context s after⟩ = .ok ⟨⟩ := by
  simp only [TemporalAccessDecision.check, DecisionArguments.receipt, DecisionArguments.nextState,
    require, Option.isSome_some, if_true]
  rfl

lemma map_decision_congr {γ : Type} {f : TemporalAccessDecision → γ}
    (hsub : subtractBudget s.remainingBudget a.consumed =
      subtractBudget s'.remainingBudget a'.consumed)
    (hresult : a.result context s = a'.result context s')
    (hreceipt : ∀ after, (a.receipt sha256 B context s after).check =
      (a'.receipt sha256 B' context s' after).check)
    (hnext : ∀ after, (a.nextState sha256 context s after).check =
      (a'.nextState sha256 context s' after).check)
    (hread : ∀ after, f ⟨a.result context s, a.receipt sha256 B context s after,
        a.nextState sha256 context s after⟩ =
      f ⟨a'.result context s', a'.receipt sha256 B' context s' after,
        a'.nextState sha256 context s' after⟩) :
    (decision sha256 B context s a).map f = (decision sha256 B' context s' a').map f := by
  unfold decision
  simp only [hsub, decided_check]
  cases subtractBudget s'.remainingBudget a'.consumed with
  | error e => rfl
  | ok after =>
    simp only [ok_bind, hresult, hreceipt, hnext]
    cases (a'.result context s').check with
    | error e => rfl
    | ok u =>
      cases (a'.receipt sha256 B' context s' after).check with
      | error e => rfl
      | ok u =>
        cases (a'.nextState sha256 context s' after).check with
        | error e => rfl
        | ok u =>
          have h := hread after
          rw [hresult] at h
          exact congrArg Except.ok h

/-- What is left of an access for its actor: the view, and the next state as far as it shows. -/
def outcome (x : Except String TemporalAccessDecision) :
    Except String (ActorView × TemporalRetrievalState) :=
  x.map fun d => (d.view, d.nextState.visible)

lemma outcome_decision_visible :
    outcome (decision sha256 B' context s.visible a.visible) =
      outcome (decision sha256 B context s a) :=
  map_decision_congr sha256 rfl rfl (receipt_check_visible sha256)
    (nextState_check_visible sha256) fun _ => rfl

/-- **A decision shows what its visible arguments say.** -/
lemma decision_congr (ha : a.visible = a'.visible) (hs : s.visible = s'.visible) :
    outcome (decision sha256 B context s a) = outcome (decision sha256 B' context s' a') := by
  have h : outcome (decision sha256 B context s.visible a.visible) =
      outcome (decision sha256 B context s a) := outcome_decision_visible sha256
  rw [← h, ha, hs]
  exact outcome_decision_visible sha256

end Decision

/-! ## One access -/

/-- What an actor asks for. -/
inductive Request
  | search (requestId query scope : String) (limit : ℤ) (resultingInformationSetId : String)
  | fetch (requestId reference resultingInformationSetId : String)

section Access

variable (U : Unicode) (sha256 : Payload → String) {B B' : TemporalEvidenceBundle}
  {context : TemporalAccessContext} {s s' : TemporalRetrievalState}

/-- An access to a corpus. -/
def access (B : TemporalEvidenceBundle) (s : TemporalRetrievalState)
    (context : TemporalAccessContext) : Request → Except String TemporalAccessDecision
  | .search requestId query scope limit informationSetId =>
    search U sha256 B requestId query scope limit context s informationSetId
  | .fetch requestId reference informationSetId =>
    fetch U sha256 B requestId reference context s informationSetId

lemma searchArguments_congr (hpolicies : SamePolicies B B') (hfrontier : SameFrontier B B' context)
    (hs : s.visible = s'.visible) (requestId query scope : String) (limit : ℤ)
    (informationSetId : String) :
    (searchArguments U sha256 B requestId query scope limit context s informationSetId).visible =
      (searchArguments U sha256 B' requestId query scope limit context s'
        informationSetId).visible := by
  obtain ⟨hbudget, hnamespace, -⟩ := eq_of_visible_eq hs
  have hinvalid : invalidSearch U B query scope limit ↔ invalidSearch U B' query scope limit := by
    rw [invalidSearch, invalidSearch, hpolicies.retrieval, hpolicies.access]
  have hranked : rank U ((if invalidSearch U B query scope limit then []
        else matchingVersions U B (normalizeQuery U query) scope).filter fun v =>
          isAccessible B v context) (normalizeQuery U query) =
      rank U ((if invalidSearch U B' query scope limit then []
        else matchingVersions U B' (normalizeQuery U query) scope).filter fun v =>
          isAccessible B' v context) (normalizeQuery U query) := by
    by_cases h : invalidSearch U B query scope limit
    · rw [if_pos h, if_pos (hinvalid.mp h), List.filter_nil, List.filter_nil]
    · rw [if_neg h, if_neg (hinvalid.not.mp h)]
      exact rank_congr U hfrontier _ scope
  have hreference : ∀ maximum normalized v,
      visibleReference U sha256 maximum context s normalized v =
        visibleReference U sha256 maximum context s' normalized v := by
    intro maximum normalized v
    rw [visibleReference, visibleReference, hnamespace]
  have hreferences := fun maximum normalized => funext (hreference maximum normalized)
  simp only [searchArguments, DecisionArguments.visible, hranked, hreferences, hbudget,
    hpolicies.retrieval, hpolicies.cost]

lemma fetchArguments_congr (hpolicies : SamePolicies B B') (requestId reference : String)
    (informationSetId : String) (hbudget : s.remainingBudget = s'.remainingBudget)
    (haccessible : accessibleVersion B context s reference =
      accessibleVersion B' context s' reference) :
    (fetchArguments U sha256 B requestId reference context s informationSetId).visible =
      (fetchArguments U sha256 B' requestId reference context s' informationSetId).visible := by
  simp only [fetchArguments, DecisionArguments.visible, haccessible, hbudget, hpolicies.cost]

/-- **One access to two corpora with one frontier shows the same, and leaves states that show the
same.** -/
lemma access_congr (hpolicies : SamePolicies B B') (hfrontier : SameFrontier B B' context)
    (hs : s.visible = s'.visible) (request : Request) :
    outcome (access U sha256 B s context request) =
      outcome (access U sha256 B' s' context request) := by
  cases request with
  | search requestId query scope limit informationSetId =>
    exact decision_congr sha256 (searchArguments_congr U sha256 hpolicies hfrontier hs ..) hs
  | fetch requestId reference informationSetId =>
    obtain ⟨hbudget, -, hissued⟩ := eq_of_visible_eq hs
    exact decision_congr sha256 (fetchArguments_congr U sha256 hpolicies _ _ _ hbudget
      (accessibleVersion_congr hfrontier hissued reference)) hs

end Access

/-! ## References that lead nowhere -/

/-- What a state shows next to its references. -/
def TemporalRetrievalState.account (s : TemporalRetrievalState) : TemporalRetrievalState :=
  { s.visible with issuedReferences := [] }

section Unresolved

variable (U : Unicode) (sha256 : Payload → String) {B B' : TemporalEvidenceBundle}
  {context : TemporalAccessContext} {s s' : TemporalRetrievalState} {a : DecisionArguments}

lemma keyed_of_check (h : s.check = .ok ⟨⟩) :
    Table.Keyed IssuedTemporalReference.opaqueReference s.issuedReferences := by
  simp only [TemporalRetrievalState.check, require_bind_eq_ok] at h
  exact h.2.2.1

/-- The check of the next state passes on the references when nothing new is shown. -/
lemma nextState_check_withoutReferences (ha : a.references = [])
    (hs : Table.Keyed IssuedTemporalReference.opaqueReference s.issuedReferences)
    (after : RetrievalBudgetVector) :
    (a.nextState sha256 context { s with issuedReferences := [] } after).check =
      (a.nextState sha256 context s after).check := by
  have hempty : ((a.nextState sha256 context { s with issuedReferences := [] }
      after).issuedReferences.map IssuedTemporalReference.opaqueReference).Nodup := by
    simp [DecisionArguments.nextState, issue, ha, Table.sortBy]
  have hkept : ((a.nextState sha256 context s after).issuedReferences.map
      IssuedTemporalReference.opaqueReference).Nodup := by
    simp only [DecisionArguments.nextState, issue, ha, List.foldl_nil]
    exact Table.keyed_sortBy.mpr hs
  simp only [TemporalRetrievalState.check, require, if_pos hempty, if_pos hkept]
  rfl

lemma view_decision_withoutReferences (ha : a.references = [])
    (hs : Table.Keyed IssuedTemporalReference.opaqueReference s.issuedReferences) :
    (decision sha256 B context { s with issuedReferences := [] } a).map (·.view) =
      (decision sha256 B context s a).map (·.view) :=
  map_decision_congr sha256 rfl rfl (fun _ => rfl) (nextState_check_withoutReferences sha256 ha hs)
    fun _ => rfl

/-- A reference leads nowhere when it was not issued, and when its version is not accessible. -/
def Unresolved (B : TemporalEvidenceBundle) (context : TemporalAccessContext)
    (s : TemporalRetrievalState) (reference : String) : Prop :=
  ∀ issued ∈ s.issuedReferences, issued.opaqueReference = reference →
    ∀ v ∈ accessibleVersions B context, v.versionId ≠ issued.evidenceVersionId

lemma accessibleVersion_eq_none {reference : String} (h : Unresolved B context s reference) :
    accessibleVersion B context s reference = none := by
  rw [Option.eq_none_iff_forall_ne_some]
  intro v hv
  obtain ⟨issued, hfound, hmem, hid⟩ := accessibleVersion_eq_some.mp hv
  obtain ⟨hissued, hreference⟩ := Table.mem_of_lookup hfound
  exact h issued hissued hreference v hmem hid

/-- **Fetches of references that lead nowhere look the same**, whether they were issued or not. -/
lemma fetch_unresolved_congr (hpolicies : SamePolicies B B') (haccount : s.account = s'.account)
    (hs : s.check = .ok ⟨⟩) (hs' : s'.check = .ok ⟨⟩) {reference : String}
    (h : Unresolved B context s reference) (h' : Unresolved B' context s' reference)
    (requestId informationSetId : String) :
    (fetch U sha256 B requestId reference context s informationSetId).map (·.view) =
      (fetch U sha256 B' requestId reference context s' informationSetId).map (·.view) := by
  have hbudget : s.remainingBudget = s'.remainingBudget := by
    simp only [TemporalRetrievalState.account, TemporalRetrievalState.visible,
      TemporalRetrievalState.mk.injEq] at haccount
    exact haccount.2.2.2.1
  have harguments := fetchArguments_congr U sha256 hpolicies requestId reference informationSetId
    hbudget ((accessibleVersion_eq_none h).trans (accessibleVersion_eq_none h').symm)
  have hempty : TemporalRetrievalState.visible { s with issuedReferences := [] } =
    TemporalRetrievalState.visible { s' with issuedReferences := [] } := haccount
  have hview : ∀ x : Except String TemporalAccessDecision,
      x.map (·.view) = (outcome x).map Prod.fst := by
    intro x
    cases x <;> rfl
  rw [fetch, fetch, ← view_decision_withoutReferences sha256 rfl (keyed_of_check hs),
    ← view_decision_withoutReferences sha256 rfl (keyed_of_check hs'), hview, hview,
    decision_congr sha256 harguments hempty]

end Unresolved

/-! ## Sequences of accesses -/

section Session

variable (U : Unicode) (sha256 : Payload → String)

/-- What an actor sees of a sequence of requests, each with the context of its time. A request that
raises leaves the state as it was. -/
def session (B : TemporalEvidenceBundle) :
    TemporalRetrievalState → List (TemporalAccessContext × Request) →
      List (Except String ActorView)
  | _, [] => []
  | s, (context, request) :: rest =>
    match access U sha256 B s context request with
    | .ok d => .ok d.view :: session B d.nextState rest
    | .error e => .error e :: session B s rest

lemma session_congr {B B' : TemporalEvidenceBundle} (hpolicies : SamePolicies B B')
    (hs : s.visible = s'.visible) (requests : List (TemporalAccessContext × Request))
    (hfrontier : ∀ r ∈ requests, SameFrontier B B' r.1) :
    session U sha256 B s requests = session U sha256 B' s' requests := by
  induction requests generalizing s s' with
  | nil => rfl
  | cons r rest ih =>
    obtain ⟨context, request⟩ := r
    have hrest : ∀ r ∈ rest, SameFrontier B B' r.1 := fun r hr =>
      hfrontier r (List.mem_cons_of_mem _ hr)
    have h := access_congr U sha256 hpolicies (hfrontier _ List.mem_cons_self) hs request
    rw [session, session]
    cases hB : access U sha256 B s context request with
    | error e =>
      cases hB' : access U sha256 B' s' context request with
      | error e' =>
        rw [hB, hB'] at h
        cases h
        simp only [ih hs hrest]
      | ok d' => rw [hB, hB'] at h; cases h
    | ok d =>
      cases hB' : access U sha256 B' s' context request with
      | error e' => rw [hB, hB'] at h; cases h
      | ok d' =>
        rw [hB, hB'] at h
        have hpair := Except.ok.inj h
        simp only [Prod.mk.injEq] at hpair
        simp only [hpair.1, ih hpair.2 hrest]

/-- **Searches and fetches reveal the accessible frontier only.** Two corpora with one set of
policies whose accessible versions are the same at the time of every request answer the requests
alike, from states that show the same; and a fetch of a reference that was never issued looks as
the fetch of one whose version is not accessible any more. -/
theorem session_reveals_frontier {B B' : TemporalEvidenceBundle} (hpolicies : SamePolicies B B') :
    (∀ (s s' : TemporalRetrievalState) (requests : List (TemporalAccessContext × Request)),
      s.visible = s'.visible → (∀ r ∈ requests, SameFrontier B B' r.1) →
      session U sha256 B s requests = session U sha256 B' s' requests) ∧
    ∀ (s s' : TemporalRetrievalState) (context : TemporalAccessContext)
      (requestId reference informationSetId : String),
      s.account = s'.account → s.check = .ok ⟨⟩ → s'.check = .ok ⟨⟩ →
      Unresolved B context s reference → Unresolved B' context s' reference →
      (fetch U sha256 B requestId reference context s informationSetId).map (·.view) =
        (fetch U sha256 B' requestId reference context s' informationSetId).map (·.view) := by
  constructor
  · intro s s' requests hs hfrontier
    exact session_congr U sha256 hpolicies hs requests hfrontier
  · intro s s' context requestId reference informationSetId haccount hs hs' h h'
    exact fetch_unresolved_congr U sha256 hpolicies haccount hs hs' h h' requestId informationSetId

end Session

/-! ## An example -/

section Example

/-- Texts in lower case, with letters and digits as words. -/
def plainText : Unicode := ⟨id, id, Char.isAlphanum⟩

/-- Ids that tell the values apart that occur below. -/
def plainIds : Payload → String
  | .opaqueReference referenceNamespaceId contentId => referenceNamespaceId ++ "/" ++ contentId
  | .result r => r.requestId
  | .fetched f => f.versionId
  | .state s => toString s.stateSequence
  | _ => "id"

def manualVersion : TemporalEvidenceVersion where
  versionId := "manual-1"
  title := "pump manual"
  contentText := some "pump a limits"
  citation := "manual"
  eventStartSeconds := 0
  availableAtSeconds := 0
  effectiveFromSeconds := 0
  effectiveToSeconds := none
  supersededAtSeconds := none
  sourceClass := .synthetic
  rightsClass := .redistributable
  authorityClass := .documentary
  accessRoles := ["operator"]
  scopeLabels := ["pump"]
  branchNamespace := "shared"
  contentSha256 := "c1"
  sound := by decide

/-- A version that is published later. -/
def noticeVersion : TemporalEvidenceVersion :=
  { manualVersion with
    versionId := "notice-2", title := "pump notice", availableAtSeconds := 900
    contentSha256 := "c2", sound := by decide }

/-- The corpus of some versions, each searchable from the time at which it is available. -/
def corpusOf (versions : List TemporalEvidenceVersion)
    (h : (versions.map fun v => v.versionId).Nodup) :
    TemporalEvidenceBundle where
  corpusManifest :=
    { versions := (Table.sortBy (fun v : TemporalEvidenceVersion => v.versionId) versions).map
        fun v => ⟨v.versionId, v.contentSha256⟩
      contentSha256 := toString versions.length }
  availability :=
    { events := versions.map fun v =>
        ⟨v.versionId, .searchable, v.availableAtSeconds, some v.versionId, []⟩
      contentSha256 := "schedule" }
  retrievalPolicy := ⟨40, 5, 80, "retrieval"⟩
  accessPolicy := ⟨["operator"], ["all"], "access"⟩
  branchPolicy := ⟨"shared", "branch"⟩
  costPolicy := ⟨0, 0, "cost"⟩
  versions
  distinct := by
    rw [Table.Keyed, List.map_map]
    exact Table.keyed_sortBy.mpr h
  listed := rfl

def smallCorpus : TemporalEvidenceBundle := corpusOf [manualVersion] (by decide)

/-- The corpus with a version more, which nobody sees yet. -/
def largeCorpus : TemporalEvidenceBundle := corpusOf [noticeVersion, manualVersion] (by decide)

def operatorContext : TemporalAccessContext :=
  ⟨"run", "episode", "world", "root", "state", "commit", 1, 60, "actor", "operator", "tenure",
    "session", "view", "info-0", "tools", []⟩

def openingState : TemporalRetrievalState :=
  ⟨0, none, "ns", ⟨5, 5, 500, 100, 5, 0, 0⟩, [], [], [], [], [], none⟩

/-- A search, a fetch of what it found, and a fetch of nothing. -/
def operatorRequests : List (TemporalAccessContext × Request) :=
  [(operatorContext, .search "q1" "pump" "all" 5 "info-1"),
    (operatorContext, .fetch "q2" "ns/c1" "info-2"),
    (operatorContext, .fetch "q3" "ns/c2" "info-3")]

lemma frontier_largeCorpus : SameFrontier smallCorpus largeCorpus operatorContext := by
  have hsmall : accessibleVersions smallCorpus operatorContext = [manualVersion] := by decide
  have hlarge : accessibleVersions largeCorpus operatorContext = [manualVersion] := by decide
  intro v
  rw [hsmall, hlarge]

/-- The two corpora answer the requests alike, and the fetch of the reference to the notice, had it
been issued, alike too. -/
theorem operatorRequests_reveal_frontier :
    session plainText plainIds smallCorpus openingState operatorRequests =
      session plainText plainIds largeCorpus openingState operatorRequests ∧
    (fetch plainText plainIds smallCorpus "q1" "ns/c2" operatorContext openingState "info-1").map
        (·.view) =
      (fetch plainText plainIds largeCorpus "q1" "ns/c2" operatorContext
        { openingState with issuedReferences := [⟨"ns/c2", "notice-2"⟩] } "info-1").map (·.view) := by
  have h := session_reveals_frontier plainText plainIds
    (show SamePolicies smallCorpus largeCorpus from ⟨rfl, rfl, rfl, rfl⟩)
  refine ⟨h.1 _ _ _ rfl ?_, h.2 _ _ _ _ _ _ rfl (by decide) (by decide) ?_ ?_⟩
  · intro r hr
    have hcontext : r.1 = operatorContext := by
      simp only [operatorRequests, List.mem_cons, List.not_mem_nil, or_false] at hr
      rcases hr with rfl | rfl | rfl <;> rfl
    rw [hcontext]
    exact frontier_largeCorpus
  · intro issued hissued
    cases hissued
  · intro issued hissued hreference v hv
    have hlarge : accessibleVersions largeCorpus operatorContext = [manualVersion] := by decide
    rw [hlarge, List.mem_singleton] at hv
    rw [List.mem_singleton.mp hissued, hv]
    decide

end Example

end AecBench.Worlds.PumpStation.TemporalEvidence
