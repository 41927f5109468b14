import Mathlib.Logic.Equiv.Finset
import Mathlib.Tactic.DeriveEncodable
import AecBench.Experimentation.Governance.Provenance

/-!
# The authority ledger in every run

What holds of the ledger after any number of calls, in any order, each of which can end between two
of its publications: identities are lasting, origins inherit, transitions that are for humans only
rest on a human approval, and what a call leaves behind does not block the calls after it.

The approval of a granted `release_evaluation_cohort` or `retire_evaluation_cohort` is not read by
the ledger, though these actions are among those that the contract keeps for humans.

## Main definitions

* `Approved` — a matching approval, observed by the host, in the basis of an event.
* `Trustworthy` — what holds of a ledger in a state.

## Main results

* `refused_left` — a refused call leaves content-addressed objects only.
* `ledger_trustworthy` — the ledger of every run.
-/

namespace AecBench.Experimentation.Governance

open Validation Contracts.Authority WriteOnce

section Approvals

variable {σ : Type} [LinearOrder σ] (H : Hashes σ) (π : Policy σ)

/-- A matching human approval that the host has observed is in the basis of the event. -/
def Approved (es : List (Entry σ)) (event : AuthorityEvent σ) : Prop :=
  ∃ reference ∈ event.basis, ∃ item, resolveBasisContent H π es reference = .ok item ∧
    matchesApproval π event item = true

/-- The condition on a call that is about to validate: an event that grants the release or the
retirement of an evaluation cohort is approved. -/
def CohortApproved : Request σ → List (Entry σ) → Prop
  | .observe _, _ => True
  | .issue event, es => event.decision = .granted → event.action ∈ evaluationCohortActions →
    Approved H π es event

variable {H π} {es es' : List (Entry σ)} {event : AuthorityEvent σ}

lemma Approved.mono (h : Grows H es es') (hes : Table.Keyed (Entry.path H) es)
    (happroved : Approved H π es event) : Approved H π es' event := by
  obtain ⟨reference, href, item, hitem, hmatches⟩ := happroved
  exact ⟨reference, href, item, resolveBasisContent_mono h hes hitem, hmatches⟩

lemma mem_humanOnlyActions {action : AuthorityAction} :
    action ∈ humanOnlyActions ↔
      action ∈ humanTransitionActions ∨ action ∈ evaluationCohortActions := by
  cases action <;> decide

lemma approved_of_validateAuthorityEvent {basis : List (StoredBasis σ × Bytes)}
    (h : validateAuthorityEvent H π es event = .ok basis) (hgranted : event.decision = .granted)
    (haction : event.action ∈ humanTransitionActions) : Approved H π es event := by
  obtain ⟨resolved, hresolved, h⟩ := bind_eq_ok.mp h
  have hhuman : validateHumanTransitionBasis π event resolved = .ok ⟨⟩ := by
    simp only [hgranted, haction, and_self, if_true] at h
    split_ifs at h with hpromotion
    · obtain ⟨-, -, h⟩ := bind_eq_ok.mp h
      obtain ⟨hhuman, -⟩ := unit_bind_eq_ok.mp h
      exact hhuman
    · obtain ⟨hhuman, -⟩ := unit_bind_eq_ok.mp h
      exact hhuman
  rw [validateHumanTransitionBasis, require_eq_ok, List.any_eq_true] at hhuman
  obtain ⟨item, hitem, hmatches⟩ := hhuman
  obtain ⟨reference, href, hok⟩ := exists_of_mem_mapM hresolved _ hitem
  exact ⟨reference, href, item, hok, hmatches⟩

end Approvals

/-! ## What refused calls leave -/

section Left

variable {σ : Type} [LinearOrder σ] {H : Hashes σ} {π : Policy σ}
  {ι : Type} [DecidableEq ι] {request : ι → Request σ}

/-- The files whose paths are computed of all that they hold. -/
def Entry.IsObject : Entry σ → Prop
  | basisObject _ => True
  | originObject _ => True
  | eventObject _ => True
  | _ => False

omit [LinearOrder σ] in
/-- Files at the path of a content-addressed object are equal to it. -/
lemma Entry.eq_of_isObject (hH : CollisionFree H) {a b : Entry σ} (ha : a.IsObject)
    (hpath : a.path H = b.path H) : a = b := by
  cases a with
  | basisObject content =>
    cases b <;> simp only [Entry.path, reduceCtorEq, Path.basisObject.injEq] at hpath
    rw [hH.content hpath]
  | originObject origin =>
    cases b <;> simp only [Entry.path, reduceCtorEq, Path.originObject.injEq] at hpath
    rw [hH.origin hpath]
  | eventObject event =>
    cases b <;> simp only [Entry.path, reduceCtorEq, Path.eventObject.injEq] at hpath
    rw [hH.event hpath]
  | originClaim logicalId target | eventClaim logicalId target | basisClaim claim => exact ha.elim

omit [LinearOrder σ] in
/-- The claim of the artifact id stands before that of the typed basis. -/
lemma originClaim_mem {o : Observation σ} {origin : OriginStamp σ} {claim : BasisClaim σ}
    {done rest : List (Entry σ)} {d : σ}
    (h : done ++ rest = [.basisObject o.content, .originObject origin,
      .originClaim o.artifactId d, .basisClaim claim]) {claim' : BasisClaim σ}
    (hmem : Entry.basisClaim claim' ∈ done) :
    claim' = claim ∧ Entry.originClaim o.artifactId d ∈ done := by
  rcases done with _ | ⟨a, _ | ⟨b, _ | ⟨c, _ | ⟨e, done⟩⟩⟩⟩
  · cases hmem
  · simp only [List.cons_append, List.cons.injEq] at h
    simp [h.1] at hmem
  · simp only [List.cons_append, List.cons.injEq] at h
    simp [h.1, h.2.1] at hmem
  · simp only [List.cons_append, List.cons.injEq] at h
    simp [h.1, h.2.1, h.2.2.1] at hmem
  · simp only [List.cons_append, List.cons.injEq] at h
    obtain ⟨rfl, rfl, rfl, rfl, hnil⟩ := h
    obtain ⟨rfl, rfl⟩ := List.append_eq_nil_iff.mp hnil
    simpa using hmem

variable {admitted : Request σ → List (Entry σ) → Prop} {rows : List (Row ι (Entry σ))}
  {place : ι → Place (Entry σ) AuthorityLedgerError (Stored σ)}

omit [DecidableEq ι] in
/-- A typed basis is claimed for an origin that its artifact id is claimed for. -/
lemma originClaim_of_basisClaim
    (hasserts : ∀ i, Asserts (Entry.path H) (plan H π) request admitted i rows (place i))
    {claim : BasisClaim σ} (hclaim : Entry.basisClaim claim ∈ entries rows) :
    ∃ origin : OriginStamp σ, claim.originSha256 = H.origin origin ∧
      origin.artifactSha256 = claim.reference.artifactSha256 ∧
      load H (.originClaim (H.logicalId claim.reference.artifactId)) (entries rows) =
        some (.originClaim claim.reference.artifactId claim.originSha256) := by
  obtain ⟨row, hrow, hentry⟩ := List.mem_map.mp hclaim
  obtain ⟨done, hdone, hplanned⟩ := (hasserts row.owner).exists_published
  have hmem := hdone.1 row hrow rfl
  rw [hentry] at hmem
  obtain rfl | ⟨rest, result, es, -, -, -, hplan⟩ := hplanned
  · cases hmem
  cases hrequest : request row.owner with
  | observe o =>
    rw [hrequest] at hplan
    obtain ⟨parents, origin, -, -, hsha, hnew⟩ := observeBasis_eq_ok hplan
    obtain ⟨rfl, horigin⟩ := originClaim_mem (Prod.mk.inj hnew).1 hmem
    exact ⟨origin, rfl, hsha, hdone.2 _ horigin⟩
  | issue event =>
    rw [hrequest] at hplan
    obtain ⟨-, hnew⟩ := issueAuthorityEvent_eq_ok hplan
    have hmem' := List.mem_append_left rest hmem
    rw [(Prod.mk.inj hnew).1] at hmem'
    simp at hmem'

omit [DecidableEq ι] in
/-- **A refused call leaves content-addressed objects only**: the claim of a typed basis is never
refused after that of its artifact id. -/
theorem refused_left (hH : CollisionFree H)
    (hasserts : ∀ i, Asserts (Entry.path H) (plan H π) request admitted i rows (place i))
    {i : ι} {error : AuthorityLedgerError} (hi : place i = .refused error) :
    ∀ row ∈ rows, row.owner = i → row.entry.IsObject := by
  intro row hrow howner
  have hleft := hasserts i
  rw [hi] at hleft
  obtain hnone | ⟨done, e, rest, result, e', ⟨es, -, -, -, hplan⟩, hdone, hfound, hne⟩ := hleft
  · exact absurd (hnone.1 row hrow howner) List.not_mem_nil
  have hmem := hdone.1 row hrow howner
  cases hrequest : request i with
  | observe o =>
    rw [hrequest] at hplan
    obtain ⟨parents, origin, -, -, hsha, hnew⟩ := observeBasis_eq_ok hplan
    have hlist := (Prod.mk.inj hnew).1
    rcases done with _ | ⟨a, _ | ⟨b, _ | ⟨c, _ | ⟨d, done⟩⟩⟩⟩
    · cases hmem
    · simp only [List.cons_append, List.cons.injEq] at hlist
      rw [List.mem_singleton.mp hmem, hlist.1]
      trivial
    · simp only [List.cons_append, List.cons.injEq] at hlist
      rcases List.mem_pair.mp hmem with heq | heq
      · rw [heq, hlist.1]
        trivial
      · rw [heq, hlist.2.1]
        trivial
    · simp only [List.cons_append, List.nil_append, List.cons.injEq] at hlist
      obtain ⟨rfl, rfl, rfl, rfl, rfl⟩ := hlist
      exfalso
      obtain ⟨hmem', hpath⟩ := Table.mem_of_lookup hfound
      have horiginClaim := hdone.2 (.originClaim o.artifactId (H.origin origin)) (by simp)
      cases e' with
      | basisClaim claim =>
        obtain ⟨hkind, hkey⟩ := Path.basisClaim.inj hpath
        rw [hkind] at hkey
        have hid := hH.basisKey _ hkey
        obtain ⟨origin', horigin', hsha', hclaim'⟩ := originClaim_of_basisClaim hasserts hmem'
        rw [hid] at hclaim'
        have hclaims := hclaim'.symm.trans horiginClaim
        have htarget := (Entry.originClaim.inj (Option.some.inj hclaims)).2
        obtain rfl : origin' = origin := hH.origin (horigin'.symm.trans htarget)
        obtain ⟨⟨kind, artifactId, artifactSha256⟩, originSha256⟩ := claim
        subst hkind hid htarget
        rw [hsha] at hsha'
        exact hne (by rw [hsha'])
      | basisObject content | originObject origin | eventObject event | originClaim logicalId target
      | eventClaim logicalId target => simp [Entry.path] at hpath
    · simp only [List.cons_append, List.cons.injEq] at hlist
      simp at hlist
  | issue event =>
    rw [hrequest] at hplan
    obtain ⟨-, hnew⟩ := issueAuthorityEvent_eq_ok hplan
    have hlist := (Prod.mk.inj hnew).1
    rcases done with _ | ⟨a, _ | ⟨b, done⟩⟩
    · cases hmem
    · simp only [List.cons_append, List.cons.injEq] at hlist
      rw [List.mem_singleton.mp hmem, hlist.1]
      trivial
    · simp at hlist

end Left

/-! ## Runs -/

section Runs

variable {σ : Type} [LinearOrder σ] (H : Hashes σ) (π : Policy σ)
  {ι : Type} [DecidableEq ι] (request : ι → Request σ)

/-- A ledger and its calls. -/
abbrev LedgerConfig (σ ι : Type) :=
  Interleaving.Config ι (List (Row ι (Entry σ))) (Place (Entry σ) AuthorityLedgerError (Stored σ))

/-- What holds of a ledger in a state, and of the ledgers that it becomes. -/
structure Trustworthy (c : LedgerConfig σ ι) : Prop where
  /-- A typed identity resolves for ever, to one reference and one origin. -/
  basis : ∀ reference stored, resolveBasis H π (entries c.shared) reference = .ok stored →
    ∀ later, let es := entries ((ledger H π request).machine.run c later).shared
      basisForId H π es reference.kind reference.artifactId = .ok (some stored) ∧
        ∀ reference' stored', reference'.kind = reference.kind →
          reference'.artifactId = reference.artifactId →
          resolveBasis H π es reference' = .ok stored' → reference' = reference ∧ stored' = stored
  /-- The id of an event resolves for ever, to one event. -/
  event : ∀ eventId digest event,
    resolveAuthorityEvent H π (entries c.shared) eventId digest = .ok event →
    ∀ later, let es := entries ((ledger H π request).machine.run c later).shared
      resolveAuthorityEvent H π es eventId digest = .ok event ∧
        ∀ digest' event', resolveAuthorityEvent H π es eventId digest' = .ok event' →
          digest' = digest ∧ event' = event
  /-- A basis carries the labels of all its ancestors, and all of them are in the ledger. -/
  taint : ∀ reference stored, resolveBasis H π (entries c.shared) reference = .ok stored →
    ∀ ancestor, Relation.ReflTransGen (IsParent H (entries c.shared)) stored.origin ancestor →
      ancestor.taintLabels ⊆ stored.origin.taintLabels ∧
        ∀ d ∈ ancestor.parentOriginSha256s, ∃ parent,
          resolveOrigin H (entries c.shared) d = .ok parent
  /-- A granted transition that is for humans only has its human approval. -/
  approved : ∀ eventId digest event,
    resolveAuthorityEvent H π (entries c.shared) eventId digest = .ok event →
    event.decision = .granted → event.action ∈ humanOnlyActions →
    Approved H π (entries c.shared) event
  /-- What a call has left does not block the same call. -/
  again : ∀ i result es, perform (Entry.path H) (plan H π) collision (request i)
      (entries (without i c.shared)) = .ok (result, es) →
    ∃ es', perform (Entry.path H) (plan H π) collision (request i) (entries c.shared) =
      .ok (result, es')
  /-- What a refused call has left does not block any call. -/
  afterRefusal : ∀ i error, c.place i = .refused error → ∀ q result es,
    perform (Entry.path H) (plan H π) collision q (entries (without i c.shared)) =
      .ok (result, es) →
    ∃ es', perform (Entry.path H) (plan H π) collision q (entries c.shared) = .ok (result, es')

variable {H π request}

omit [DecidableEq ι] in
/-- An event in the store was issued, and its approval was read when its call was admitted. -/
lemma approved_of_issued {c : LedgerConfig σ ι}
    (hasserts : ∀ i, Asserts (Entry.path H) (plan H π) request (CohortApproved H π) i c.shared
      (c.place i))
    {event : AuthorityEvent σ} (hevent : Entry.eventObject event ∈ entries c.shared)
    (hgranted : event.decision = .granted) (haction : event.action ∈ evaluationCohortActions) :
    Approved H π (entries c.shared) event := by
  obtain ⟨row, hrow, hentry⟩ := List.mem_map.mp hevent
  obtain ⟨done, hdone, hplanned⟩ := (hasserts row.owner).exists_published
  have hmem := hdone.1 row hrow rfl
  rw [hentry] at hmem
  obtain rfl | ⟨rest, result, es, hkeyed, hextends, hadmitted, hplan⟩ := hplanned
  · cases hmem
  have hmem' := List.mem_append_left rest hmem
  cases hrequest : request row.owner with
  | observe o =>
    rw [hrequest] at hplan
    obtain ⟨parents, origin, -, -, -, hnew⟩ := observeBasis_eq_ok hplan
    rw [(Prod.mk.inj hnew).1] at hmem'
    simp at hmem'
  | issue issued =>
    rw [hrequest] at hplan hadmitted
    obtain ⟨-, hnew⟩ := issueAuthorityEvent_eq_ok hplan
    rw [(Prod.mk.inj hnew).1] at hmem'
    obtain rfl : event = issued := by simpa using hmem'
    exact (hadmitted hgranted haction).mono hextends hkeyed

/-- **The authority ledger of every run** in which every call that grants the release or the
retirement of an evaluation cohort finds its human approval. -/
theorem ledger_trustworthy (hH : CollisionFree H) (events : List (ι × Event))
    (hcohorts : (ledger H π request).machine.Along
      (AdmittedStep request (CohortApproved H π)) unpublished events) :
    Trustworthy H π request ((ledger H π request).machine.run unpublished events) := by
  have hstates := run_asserts hcohorts
  set c := (ledger H π request).machine.run unpublished events
  have hasserts := fun i => (hstates i).2
  have hgrows : ∀ later, Grows H (entries c.shared)
      (entries ((ledger H π request).machine.run c later).shared) := fun _ => run_extends
  have hkeyed : Table.Keyed (Entry.path H) (entries c.shared) := run_keyed List.nodup_nil
  constructor
  · intro reference stored hstored later
    obtain ⟨content, hr⟩ := resolveBasis_eq_ok.mp hstored
    have hlater := resolveBasisContent_mono (hgrows later) hkeyed hr
    refine ⟨basisForId_of_resolveBasis (resolveBasis_eq_ok.mpr ⟨content, hlater⟩), ?_⟩
    intro reference' stored' hkind hid hstored'
    obtain ⟨content', hr'⟩ := resolveBasis_eq_ok.mp hstored'
    have heq := resolveBasisContent_unique (hgrows later) hr hr' hkind hid
    obtain ⟨rfl, -⟩ := Prod.mk.inj heq
    obtain ⟨-, -, -, -, -, -, -, href⟩ := resolveBasisContent_eq_ok.mp hr
    obtain ⟨-, -, -, -, -, -, -, href'⟩ := resolveBasisContent_eq_ok.mp hr'
    exact ⟨href'.symm.trans href, rfl⟩
  · intro eventId digest event hevent later
    have hlater := resolveAuthorityEvent_mono (hgrows later) hkeyed hevent
    refine ⟨hlater, ?_⟩
    intro digest' event' hevent'
    exact resolveAuthorityEvent_unique (hgrows later) hevent hevent'
  · intro reference stored hstored ancestor hancestor
    obtain ⟨content, hr⟩ := resolveBasis_eq_ok.mp hstored
    obtain ⟨-, -, -, -, -, -, hclosure, -⟩ := resolveBasisContent_eq_ok.mp hr
    exact taint_of_validateOriginClosure hH hclosure hancestor
  · intro eventId digest event hevent hgranted haction
    obtain ⟨-, hobject, -, basis, hbasis⟩ := resolveAuthorityEvent_eq_ok.mp hevent
    rcases mem_humanOnlyActions.mp haction with htransition | hcohort
    · exact approved_of_validateAuthorityEvent hbasis hgranted htransition
    · exact approved_of_issued hasserts (Table.mem_of_lookup hobject).1 hgranted hcohort
  · intro i result es hperform
    exact perform_again (plan_monotone H π) (plan_distinct H π) hkeyed (hasserts i) hperform
  · intro i error hi q result es hperform
    refine perform_of_without (plan_monotone H π) (plan_distinct H π) hkeyed hperform ?_
    intro new hplan e he row hrow howner hpath
    exact Entry.eq_of_isObject hH (refused_left hH hasserts hi row hrow howner) hpath

end Runs

/-! ## A cohort that is released without approval -/

section Cohort

instance charEncodable : Encodable Char := Encodable.ofLeftInverse Char.toNat Char.ofNat Char.ofNat_toNat

instance stringEncodable : Encodable String :=
  Encodable.ofLeftInverse String.toList String.ofList fun _ => String.ofList_toList

instance uInt8Encodable : Encodable UInt8 := Encodable.ofLeftInverse UInt8.toNat UInt8.ofNat fun b => by simp

deriving instance Encodable for AuthorityPrincipalKind, AuthorityAction, AuthorityDecision,
  BasisKind, TaintLabel, AuthorityPrincipal, BasisReference, KernelRef, CriticRef, OriginFields,
  AuthorityEventFields

/-- Digests without collisions. -/
def numbering : Hashes ℕ where
  content := Encodable.encode
  origin o := Encodable.encode o.toOriginFields
  event e := Encodable.encode e.toAuthorityEventFields
  logicalId := Encodable.encode
  basisKey _ := Encodable.encode

lemma numbering_collisionFree : CollisionFree numbering where
  content := Encodable.encode_injective
  origin := by
    rintro ⟨o, ho⟩ ⟨o', ho'⟩ h
    obtain rfl : o = o' := Encodable.encode_injective h
    rfl
  event := by
    rintro ⟨e, he⟩ ⟨e', he'⟩ h
    obtain rfl : e = e' := Encodable.encode_injective h
    rfl
  basisKey _ := Encodable.encode_injective

/-- No promotion rules, and no bytes that are the canonical text of a model. -/
def textless : Policy ℕ where
  isModel _ _ := false
  configured := []
  approval _ := none
  promotion _ _ := .ok ⟨⟩

/-- The host observes a piece of evidence. -/
def evidenceObservation : Observation ℕ where
  kind := .evidence
  artifactId := "e"
  content := [1]
  producer := ⟨"h", .hostRuntime⟩
  producerProcessId := "p"
  observedBy := ⟨"h", .hostRuntime⟩
  channel := "c"
  operationId := "o"
  invocationId := "i"
  parentOriginSha256s := []
  operationTaint := [.runtimeObserved]

/-- A human grants the release of a cohort, on this evidence. -/
def cohortRelease : AuthorityEvent ℕ where
  eventId := "v"
  principal := ⟨"a", .human⟩
  action := .releaseEvaluationCohort
  decision := .granted
  subjectId := "s"
  subjectSha256 := 0
  basis := [⟨.evidence, "e", Encodable.encode ([1] : Bytes)⟩]
  kernelRef := ⟨"k", "1"⟩
  critic := none
  reasons := ["r"]
  revalidationTriggers := []
  sound := by decide

/-- The observation, then the release. -/
def cohortCalls : Bool → Request ℕ
  | false => .observe evidenceObservation
  | true => .issue cohortRelease

def cohortRun : List (Bool × Event) :=
  List.replicate 6 (false, .proceed) ++ List.replicate 4 (true, .proceed)

theorem cohortRun_not_trustworthy : ¬ Trustworthy numbering textless cohortCalls
    ((ledger numbering textless cohortCalls).machine.run unpublished cohortRun) := by
  intro h
  have hresolved : resolveAuthorityEvent numbering textless (entries
      ((ledger numbering textless cohortCalls).machine.run unpublished cohortRun).shared) "v"
      (numbering.event cohortRelease) = .ok cohortRelease := by
    decide +kernel
  obtain ⟨reference, href, item, hitem, hmatches⟩ := h.approved _ _ _ hresolved rfl (by decide)
  obtain ⟨-, -, -, -, -, -, -, heq⟩ := resolveBasisContent_eq_ok.mp hitem
  rw [List.mem_singleton.mp href] at heq
  simp [matchesApproval, heq] at hmatches

/-- The bytes of one approval, of the same release. -/
def approving : Policy ℕ where
  isModel _ _ := false
  configured := []
  approval content :=
    if content = [2] then
      some ⟨"q", ⟨"a", .human⟩, .releaseEvaluationCohort, "s", 0, true, "r", rfl⟩
    else none
  promotion _ _ := .ok ⟨⟩

def approvalStamp : OriginStamp ℕ where
  artifactId := "q"
  artifactSha256 := Encodable.encode ([2] : Bytes)
  producer := ⟨"a", .human⟩
  producerProcessId := "p"
  observedBy := ⟨"h", .hostRuntime⟩
  channel := "c"
  operationId := "o"
  invocationId := "i"
  parentOriginSha256s := []
  taintLabels := {.humanAuthority}
  sound := by decide

/-- The host observes the approval. -/
def approvalObservation : Observation ℕ :=
  { evidenceObservation with
    kind := .humanApproval
    artifactId := "q"
    content := [2]
    producer := ⟨"a", .human⟩
    operationTaint := [.humanAuthority] }

/-- The release, on the approval. -/
def approvedRelease : AuthorityEvent ℕ :=
  ⟨{ cohortRelease.toAuthorityEventFields with
      basis := [⟨.humanApproval, "q", Encodable.encode ([2] : Bytes)⟩] }, by decide⟩

def approvedCalls : Bool → Request ℕ
  | false => .observe approvalObservation
  | true => .issue approvedRelease

theorem approvedRun_trustworthy : Trustworthy numbering approving approvedCalls
    ((ledger numbering approving approvedCalls).machine.run unpublished cohortRun) := by
  refine ledger_trustworthy numbering_collisionFree cohortRun ?_
  refine (Machine.along_append _ _ _ _ _).mpr ⟨?_, ?_⟩
  · refine Machine.along_of_invariant (I := fun _ => True) (C := fun _ event => event.1 = false)
      (fun _ _ _ _ => trivial) ?_ trivial (by decide +kernel)
    rintro c ⟨i, event⟩ - rfl -
    trivial
  · refine Machine.along_of_invariant
      (I := fun c => Table.Keyed (Entry.path numbering) (entries c.shared) ∧
        Approved numbering approving (entries c.shared) approvedRelease)
      (C := fun _ event => event.1 = true) ?_ ?_ ?_ (by decide +kernel)
    · rintro c event ⟨hkeyed, happroved⟩ -
      have hextends : Extends (Entry.path numbering) (entries c.shared)
          (entries (((ledger numbering approving approvedCalls).machine.step c event).shared)) :=
        step_extends
      exact ⟨step_keyed hkeyed, happroved.mono hextends hkeyed⟩
    · rintro c ⟨i, event⟩ ⟨-, happroved⟩ rfl - - -
      exact happroved
    · refine ⟨run_keyed List.nodup_nil, _, List.mem_cons_self,
        (⟨⟨.humanApproval, "q", Encodable.encode ([2] : Bytes)⟩, approvalStamp⟩, [2]), ?_, ?_⟩
      · decide +kernel
      · decide +kernel

end Cohort

end AecBench.Experimentation.Governance
