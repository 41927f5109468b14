import AecBench.Experimentation.Governance.AuthorityLedger

/-!
# Identities and provenance in the authority ledger

What resolves in a ledger resolves for ever, to one value; a basis that resolves carries the labels
of all its ancestors; and what calls leave behind does not stand in the way of later ones.
-/

namespace AecBench.Experimentation.Governance

open Validation Contracts.Authority WriteOnce

section Monotone

variable {σ : Type} [LinearOrder σ] {H : Hashes σ} {π : Policy σ} {es es' : List (Entry σ)}

/-- The readers of a ledger find in a larger ledger what they have found before. -/
abbrev Grows (H : Hashes σ) (es es' : List (Entry σ)) : Prop := Extends (Entry.path H) es es'

lemma foldlM_eq_ok_of_forall {ε α β : Type} {f g : β → α → Except ε β}
    (h : ∀ b a b', f b a = .ok b' → g b a = .ok b') {l : List α} {b b' : β}
    (hf : l.foldlM f b = .ok b') : l.foldlM g b = .ok b' := by
  induction l generalizing b with
  | nil => exact hf
  | cons a l ih =>
    rw [List.foldlM_cons, bind_eq_ok] at hf ⊢
    obtain ⟨b₁, hb₁, hl⟩ := hf
    exact ⟨b₁, h _ _ _ hb₁, ih hl⟩

lemma mapM_eq_ok_of_forall {ε α β : Type} {f g : α → Except ε β}
    (h : ∀ a b, f a = .ok b → g a = .ok b) {l : List α} {bs : List β}
    (hf : l.mapM f = .ok bs) : l.mapM g = .ok bs := by
  rw [mapM_eq_ok] at hf ⊢
  exact hf.imp fun a b => h a b

variable {d : σ} {origin : OriginStamp σ}

lemma resolveOrigin_eq_ok :
    resolveOrigin H es d = .ok origin ↔
      load H (.originObject d) es = some (.originObject origin) := by
  unfold resolveOrigin
  split
  next o heq => rw [heq]; simp
  next hne =>
    simp only [reduceCtorEq, false_iff]
    exact hne origin

lemma origin_of_resolveOrigin (h : resolveOrigin H es d = .ok origin) : H.origin origin = d := by
  have hpath := (Table.mem_of_lookup (resolveOrigin_eq_ok.mp h)).2
  exact Path.originObject.inj hpath

lemma resolveOrigin_mono (h : Grows H es es') (ho : resolveOrigin H es d = .ok origin) :
    resolveOrigin H es' d = .ok origin :=
  resolveOrigin_eq_ok.mpr (h _ _ (resolveOrigin_eq_ok.mp ho))

lemma visit_mono (h : Grows H es es') {depth depth' : ℕ} (hdepth : depth ≤ depth')
    {active completed completed' : List σ} {current : OriginStamp σ}
    (hv : visit H es depth active completed current = .ok completed') :
    visit H es' depth' active completed current = .ok completed' := by
  induction depth generalizing depth' active completed completed' current with
  | zero => cases hv
  | succ depth ih =>
    obtain ⟨depth', rfl⟩ : ∃ n, depth' = n + 1 := ⟨depth' - 1, by omega⟩
    rw [visit] at hv ⊢
    split_ifs at hv ⊢ with hcompleted hactive
    · exact hv
    · rw [bind_eq_ok] at hv ⊢
      obtain ⟨done, hdone, hlast⟩ := hv
      refine ⟨done, foldlM_eq_ok_of_forall ?_ hdone, hlast⟩
      intro c d c' hstep
      simp only [bind_eq_ok, require_eq_ok] at hstep ⊢
      obtain ⟨parent, hparent, u, htaint, hvisit⟩ := hstep
      exact ⟨parent, resolveOrigin_mono h hparent, u, htaint, ih (by omega) hvisit⟩

lemma validateOriginClosure_mono (h : Grows H es es') (hes : Table.Keyed (Entry.path H) es)
    (ho : validateOriginClosure H es origin = .ok ⟨⟩) :
    validateOriginClosure H es' origin = .ok ⟨⟩ := by
  obtain ⟨completed, hvisit, -⟩ := bind_eq_ok.mp ho
  have hlength := h.length_le hes
  exact bind_eq_ok.mpr ⟨completed, visit_mono h (by omega) hvisit, rfl⟩

lemma readContent_eq_ok {content : Bytes} :
    readContent H es d = .ok content ↔
      load H (.basisObject d) es = some (.basisObject content) := by
  unfold readContent
  split
  next o heq => rw [heq]; simp
  next hne =>
    simp only [reduceCtorEq, false_iff]
    exact hne content

lemma loadBasisClaim_eq_some {kind : BasisKind} {artifactId : String} {claim : BasisClaim σ} :
    loadBasisClaim H es kind artifactId = some claim ↔
      load H (.basisClaim kind (H.basisKey kind artifactId)) es = some (.basisClaim claim) := by
  unfold loadBasisClaim
  split
  next o heq => rw [heq]; simp
  next hne =>
    simp only [reduceCtorEq, false_iff]
    exact hne claim

variable {r : StoredBasis σ × Bytes} {reference : BasisReference σ}

lemma resolveBasisContent_eq_ok :
    resolveBasisContent H π es reference = .ok r ↔ ∃ originSha256,
      loadBasisClaim H es reference.kind reference.artifactId = some ⟨reference, originSha256⟩ ∧
        readContent H es reference.artifactSha256 = .ok r.2 ∧
        validateTypedBasisContent π reference.kind r.2 = .ok ⟨⟩ ∧
        resolveOrigin H es originSha256 = .ok r.1.origin ∧
        (r.1.origin.artifactId = reference.artifactId ∧
          r.1.origin.artifactSha256 = reference.artifactSha256) ∧
        validateOriginClosure H es r.1.origin = .ok ⟨⟩ ∧ r.1.reference = reference := by
  unfold resolveBasisContent
  constructor
  · intro h
    split at h
    next => cases h
    next claim hclaim =>
      simp only [bind_eq_ok, require_eq_ok, pure_eq_ok] at h
      obtain ⟨-, rfl, content, hcontent, _, htyped, origin, horigin, -, hartifact, _, hclosure, rfl⟩ :=
        h
      exact ⟨claim.originSha256, hclaim, hcontent, htyped, horigin, hartifact, hclosure, rfl⟩
  · rintro ⟨originSha256, hclaim, hcontent, htyped, horigin, hartifact, hclosure, href⟩
    rw [hclaim]
    simp only [bind_eq_ok, require_eq_ok, pure_eq_ok]
    refine ⟨⟨⟩, trivial, r.2, hcontent, ⟨⟩, htyped, r.1.origin, horigin, ⟨⟩, hartifact, ⟨⟩, hclosure,
      ?_⟩
    rw [← href]

lemma resolveBasisContent_mono (h : Grows H es es') (hes : Table.Keyed (Entry.path H) es)
    (hr : resolveBasisContent H π es reference = .ok r) :
    resolveBasisContent H π es' reference = .ok r := by
  rw [resolveBasisContent_eq_ok] at hr ⊢
  obtain ⟨d, hclaim, hcontent, htyped, horigin, hartifact, hclosure, href⟩ := hr
  refine ⟨d, ?_, ?_, htyped, resolveOrigin_mono h horigin, hartifact,
    validateOriginClosure_mono h hes hclosure, href⟩
  · exact loadBasisClaim_eq_some.mpr (h _ _ (loadBasisClaim_eq_some.mp hclaim))
  · exact readContent_eq_ok.mpr (h _ _ (readContent_eq_ok.mp hcontent))

variable {event : AuthorityEvent σ}

lemma validateAuthorityEvent_mono (h : Grows H es es') (hes : Table.Keyed (Entry.path H) es)
    {basis : List (StoredBasis σ × Bytes)} (hv : validateAuthorityEvent H π es event = .ok basis) :
    validateAuthorityEvent H π es' event = .ok basis := by
  rw [validateAuthorityEvent, bind_eq_ok] at hv ⊢
  obtain ⟨resolved, hresolved, hlast⟩ := hv
  exact ⟨resolved, mapM_eq_ok_of_forall (fun _ _ => resolveBasisContent_mono h hes) hresolved,
    hlast⟩

lemma resolveAuthorityEvent_eq_ok {eventId : String} :
    resolveAuthorityEvent H π es eventId d = .ok event ↔
      load H (.eventClaim (H.logicalId eventId)) es = some (.eventClaim eventId d) ∧
        load H (.eventObject d) es = some (.eventObject event) ∧ event.eventId = eventId ∧
        ∃ basis, validateAuthorityEvent H π es event = .ok basis := by
  unfold resolveAuthorityEvent
  constructor
  · intro h
    split at h
    next logicalId target hclaim =>
      rw [require_bind_eq_ok] at h
      obtain ⟨rfl, h⟩ := h
      rw [require_bind_eq_ok] at h
      obtain ⟨rfl, h⟩ := h
      split at h
      next found hobject =>
        simp only [bind_eq_ok, require_eq_ok, pure_eq_ok] at h
        obtain ⟨-, hid, basis, hbasis, rfl⟩ := h
        exact ⟨hclaim, hobject, hid, basis, hbasis⟩
      next => cases h
    next => cases h
  · rintro ⟨hclaim, hobject, hid, basis, hbasis⟩
    rw [hclaim]
    simp only [bind_eq_ok, require_eq_ok]
    refine ⟨⟨⟩, trivial, ⟨⟩, trivial, ?_⟩
    rw [hobject]
    simp only [bind_eq_ok, require_eq_ok, pure_eq_ok]
    exact ⟨⟨⟩, hid, basis, hbasis, trivial⟩

lemma resolveAuthorityEvent_mono (h : Grows H es es') (hes : Table.Keyed (Entry.path H) es)
    {eventId : String} (he : resolveAuthorityEvent H π es eventId d = .ok event) :
    resolveAuthorityEvent H π es' eventId d = .ok event := by
  rw [resolveAuthorityEvent_eq_ok] at he ⊢
  obtain ⟨hclaim, hobject, hid, basis, hbasis⟩ := he
  exact ⟨h _ _ hclaim, h _ _ hobject, hid, basis, validateAuthorityEvent_mono h hes hbasis⟩

variable {planned : List (Entry σ) × Stored σ}

lemma observeBasis_eq_ok {o : Observation σ} (h : observeBasis H π o es = .ok planned) :
    ∃ parents origin,
      o.parentOriginSha256s.mapM (fun digest => do
        let parent ← resolveOrigin H es digest
        pure (digest, parent)) = .ok parents ∧
      origin.artifactId = o.artifactId ∧ origin.artifactSha256 = H.content o.content ∧
      planned = ([.basisObject o.content, .originObject origin,
        .originClaim o.artifactId (H.origin origin),
        .basisClaim ⟨⟨o.kind, o.artifactId, H.content o.content⟩, H.origin origin⟩],
        .basis ⟨⟨o.kind, o.artifactId, H.content o.content⟩, origin⟩) := by
  rw [observeBasis, require_bind_eq_ok, require_bind_eq_ok] at h
  obtain ⟨-, -, h⟩ := h
  obtain ⟨-, -, h⟩ := bind_eq_ok.mp h
  obtain ⟨parents, hparents, h⟩ := bind_eq_ok.mp h
  obtain ⟨origin, horigin, h⟩ := bind_eq_ok.mp h
  have hfields := OriginFields.checked_eq_ok (mapError_eq_ok.mp horigin)
  refine ⟨parents, origin, hparents, ?_, ?_, (pure_eq_ok.mp h).symm⟩
  · rw [hfields]
  · rw [hfields]

lemma observeBasis_mono (h : Grows H es es') {o : Observation σ}
    (hp : observeBasis H π o es = .ok planned) : observeBasis H π o es' = .ok planned := by
  rw [observeBasis, require_bind_eq_ok, require_bind_eq_ok] at hp ⊢
  obtain ⟨hhost, hhuman, hp⟩ := hp
  refine ⟨hhost, hhuman, ?_⟩
  obtain ⟨u, htyped, hp⟩ := bind_eq_ok.mp hp
  obtain ⟨parents, hparents, hp⟩ := bind_eq_ok.mp hp
  refine bind_eq_ok.mpr ⟨u, htyped, bind_eq_ok.mpr ⟨parents, ?_, hp⟩⟩
  refine mapM_eq_ok_of_forall ?_ hparents
  intro d b hd
  obtain ⟨parent, hparent, hlast⟩ := bind_eq_ok.mp hd
  exact bind_eq_ok.mpr ⟨parent, resolveOrigin_mono h hparent, hlast⟩

/-- **The calls find in a larger ledger what they have found before.** -/
theorem plan_monotone (H : Hashes σ) (π : Policy σ) :
    WriteOnce.Monotone (Entry.path H) (plan H π) := by
  intro q es es' planned hes h hp
  cases q with
  | observe o => exact observeBasis_mono h hp
  | issue event =>
    obtain ⟨basis, hbasis, hlast⟩ := bind_eq_ok.mp hp
    exact bind_eq_ok.mpr ⟨basis, validateAuthorityEvent_mono h hes hbasis, hlast⟩

lemma issueAuthorityEvent_eq_ok (h : issueAuthorityEvent H π event es = .ok planned) :
    (∃ basis, validateAuthorityEvent H π es event = .ok basis) ∧
      planned = ([.eventObject event, .eventClaim event.eventId (H.event event)],
        .event event) := by
  obtain ⟨basis, hbasis, hlast⟩ := bind_eq_ok.mp h
  exact ⟨⟨basis, hbasis⟩, (pure_eq_ok.mp hlast).symm⟩

/-- The files of a call have distinct paths. -/
theorem plan_distinct (H : Hashes σ) (π : Policy σ) :
    WriteOnce.Distinct (Entry.path H) (plan H π) := by
  intro q es new result hp
  cases q with
  | observe o =>
    obtain ⟨parents, origin, -, -, -, hplanned⟩ := observeBasis_eq_ok hp
    obtain ⟨rfl, -⟩ := Prod.mk.inj hplanned
    simp [Table.Keyed, Entry.path]
  | issue event =>
    obtain ⟨-, hplanned⟩ := issueAuthorityEvent_eq_ok hp
    obtain ⟨rfl, -⟩ := Prod.mk.inj hplanned
    simp [Table.Keyed, Entry.path]

end Monotone

/-! ## One identity, one basis -/

section Identity

variable {σ : Type} [LinearOrder σ] {H : Hashes σ} {π : Policy σ} {es es' : List (Entry σ)}

variable {reference : BasisReference σ}

lemma resolveBasisContent_unique (h : Grows H es es') {reference' : BasisReference σ}
    {r r' : StoredBasis σ × Bytes} (hr : resolveBasisContent H π es reference = .ok r)
    (hr' : resolveBasisContent H π es' reference' = .ok r')
    (hkind : reference'.kind = reference.kind)
    (hid : reference'.artifactId = reference.artifactId) : r' = r := by
  obtain ⟨d, hclaim, hcontent, -, horigin, -, -, href⟩ := resolveBasisContent_eq_ok.mp hr
  obtain ⟨d', hclaim', hcontent', -, horigin', -, -, href'⟩ := resolveBasisContent_eq_ok.mp hr'
  have hclaims : (⟨reference', d'⟩ : BasisClaim σ) = ⟨reference, d⟩ := by
    rw [hkind, hid, loadBasisClaim_eq_some.mpr (h _ _ (loadBasisClaim_eq_some.mp hclaim))] at hclaim'
    exact (Option.some.inj hclaim').symm
  obtain ⟨rfl, rfl⟩ := BasisClaim.mk.inj hclaims
  have hcontents : r'.2 = r.2 := by
    rw [readContent_eq_ok.mpr (h _ _ (readContent_eq_ok.mp hcontent))] at hcontent'
    exact (Except.ok.inj hcontent').symm
  have horigins : r'.1.origin = r.1.origin := by
    rw [resolveOrigin_mono h horigin] at horigin'
    exact (Except.ok.inj horigin').symm
  obtain ⟨⟨ref, origin⟩, content⟩ := r
  obtain ⟨⟨ref', origin'⟩, content'⟩ := r'
  simp only at href href' hcontents horigins
  rw [href, href', hcontents, horigins]

lemma resolveBasis_eq_ok {stored : StoredBasis σ} :
    resolveBasis H π es reference = .ok stored ↔
      ∃ content, resolveBasisContent H π es reference = .ok (stored, content) := by
  unfold resolveBasis
  cases resolveBasisContent H π es reference with
  | error e => simp [Except.map]
  | ok r => simp [Except.map, Prod.ext_iff]

lemma basisForId_of_resolveBasis {stored : StoredBasis σ}
    (h : resolveBasis H π es reference = .ok stored) :
    basisForId H π es reference.kind reference.artifactId = .ok (some stored) := by
  obtain ⟨content, hr⟩ := resolveBasis_eq_ok.mp h
  obtain ⟨d, hclaim, -⟩ := resolveBasisContent_eq_ok.mp hr
  simp only [basisForId, hclaim]
  rw [require_bind_eq_ok]
  exact ⟨⟨trivial, trivial⟩, bind_eq_ok.mpr ⟨stored, h, rfl⟩⟩

lemma resolveAuthorityEvent_unique (h : Grows H es es') {eventId : String} {d d' : σ}
    {event event' : AuthorityEvent σ} (he : resolveAuthorityEvent H π es eventId d = .ok event)
    (he' : resolveAuthorityEvent H π es' eventId d' = .ok event') :
    d' = d ∧ event' = event := by
  obtain ⟨hclaim, hobject, -⟩ := resolveAuthorityEvent_eq_ok.mp he
  obtain ⟨hclaim', hobject', -⟩ := resolveAuthorityEvent_eq_ok.mp he'
  have hclaims := (h _ _ hclaim).symm.trans hclaim'
  obtain ⟨-, rfl⟩ := Entry.eventClaim.inj (Option.some.inj hclaims)
  have hobjects := (h _ _ hobject).symm.trans hobject'
  exact ⟨rfl, (Entry.eventObject.inj (Option.some.inj hobjects)).symm⟩

end Identity

/-! ## The labels of ancestors -/

section Taint

variable {σ : Type} [LinearOrder σ] {H : Hashes σ} {es : List (Entry σ)}

/-- No two contents of one kind share a digest, and no two identities of one kind a key. -/
structure CollisionFree (H : Hashes σ) : Prop where
  content : Function.Injective H.content
  origin : Function.Injective H.origin
  event : Function.Injective H.event
  basisKey : ∀ kind, Function.Injective (H.basisKey kind)

/-- The second origin is a parent of the first. -/
def IsParent (H : Hashes σ) (es : List (Entry σ)) (origin parent : OriginStamp σ) : Prop :=
  ∃ d ∈ origin.parentOriginSha256s, resolveOrigin H es d = .ok parent

/-- The parent of this digest resolves, and its labels are inherited. -/
def Inherits (H : Hashes σ) (es : List (Entry σ)) (origin : OriginStamp σ) (d : σ) : Prop :=
  ∃ parent, resolveOrigin H es d = .ok parent ∧ parent.taintLabels ⊆ origin.taintLabels

/-- The parents of completed origins are completed, and their labels inherited. -/
def Closed (H : Hashes σ) (es : List (Entry σ)) (completed : List σ) : Prop :=
  ∀ origin, H.origin origin ∈ completed → ∀ d ∈ origin.parentOriginSha256s,
    d ∈ completed ∧ Inherits H es origin d

lemma closed_foldlM {current : OriginStamp σ}
    {f : List σ → σ → Except AuthorityLedgerError (List σ)}
    (hf : ∀ c d c', Closed H es c → f c d = .ok c' →
      Closed H es c' ∧ c ⊆ c' ∧ d ∈ c' ∧ Inherits H es current d)
    {ds c c' : List σ} (hc : Closed H es c) (h : ds.foldlM f c = .ok c') :
    Closed H es c' ∧ c ⊆ c' ∧ ∀ d ∈ ds, d ∈ c' ∧ Inherits H es current d := by
  induction ds generalizing c with
  | nil =>
    obtain rfl := pure_eq_ok.mp h
    exact ⟨hc, List.Subset.refl _, fun d hd => absurd hd List.not_mem_nil⟩
  | cons d ds ih =>
    rw [List.foldlM_cons, bind_eq_ok] at h
    obtain ⟨c₁, hc₁, h⟩ := h
    obtain ⟨hclosed₁, hsub₁, hd₁, hinherits⟩ := hf _ _ _ hc hc₁
    obtain ⟨hclosed, hsub, hds⟩ := ih hclosed₁ h
    refine ⟨hclosed, List.Subset.trans hsub₁ hsub, ?_⟩
    intro a ha
    rcases List.mem_cons.mp ha with rfl | ha
    · exact ⟨hsub hd₁, hinherits⟩
    · exact hds a ha

lemma visit_closed (hH : CollisionFree H) {depth : ℕ} {active c c' : List σ}
    {current : OriginStamp σ} (hc : Closed H es c)
    (h : visit H es depth active c current = .ok c') :
    Closed H es c' ∧ c ⊆ c' ∧ H.origin current ∈ c' := by
  induction depth generalizing active c c' current with
  | zero => cases h
  | succ depth ih =>
    rw [visit] at h
    split_ifs at h with hcompleted
    · obtain rfl := Except.ok.inj h
      exact ⟨hc, List.Subset.refl _, hcompleted⟩
    · obtain ⟨done, hdone, hlast⟩ := bind_eq_ok.mp h
      obtain rfl := pure_eq_ok.mp hlast
      have hparents := @closed_foldlM _ _ H es current _ ?_ _ _ _ hc hdone
      · obtain ⟨hclosed, hsub, hall⟩ := hparents
        refine ⟨?_, fun d hd => List.mem_cons_of_mem _ (hsub hd), List.mem_cons_self⟩
        intro origin horigin d hd
        rcases List.mem_cons.mp horigin with heq | hmem
        · obtain rfl := hH.origin heq
          exact ⟨List.mem_cons_of_mem _ (hall d hd).1, (hall d hd).2⟩
        · obtain ⟨hdmem, hinherits⟩ := hclosed origin hmem d hd
          exact ⟨List.mem_cons_of_mem _ hdmem, hinherits⟩
      · intro c₁ d c₂ hclosed hstep
        obtain ⟨parent, hparent, hstep⟩ := bind_eq_ok.mp hstep
        rw [require_bind_eq_ok] at hstep
        obtain ⟨htaint, hvisit⟩ := hstep
        obtain ⟨hclosed₂, hsub, hmem⟩ := ih hclosed hvisit
        rw [origin_of_resolveOrigin hparent] at hmem
        exact ⟨hclosed₂, hsub, hmem, parent, hparent, htaint⟩

/-- **An origin whose closure is valid carries the labels of all its ancestors**, and all of them
are in the ledger. -/
theorem taint_of_validateOriginClosure (hH : CollisionFree H) {origin ancestor : OriginStamp σ}
    (h : validateOriginClosure H es origin = .ok ⟨⟩)
    (hancestor : Relation.ReflTransGen (IsParent H es) origin ancestor) :
    ancestor.taintLabels ⊆ origin.taintLabels ∧
      ∀ d ∈ ancestor.parentOriginSha256s, ∃ parent, resolveOrigin H es d = .ok parent := by
  obtain ⟨completed, hvisit, -⟩ := bind_eq_ok.mp h
  have hempty : Closed H es [] := fun _ hmem => absurd hmem List.not_mem_nil
  obtain ⟨hclosed, -, hmem⟩ := visit_closed hH hempty hvisit
  have hall : H.origin ancestor ∈ completed ∧ ancestor.taintLabels ⊆ origin.taintLabels := by
    induction hancestor with
    | refl => exact ⟨hmem, Finset.Subset.refl _⟩
    | tail _ hparent ih =>
      obtain ⟨d, hd, hresolved⟩ := hparent
      obtain ⟨hdmem, parent, hparent', hsub⟩ := hclosed _ ih.1 d hd
      rw [hresolved] at hparent'
      obtain rfl := Except.ok.inj hparent'
      exact ⟨origin_of_resolveOrigin hresolved ▸ hdmem, hsub.trans ih.2⟩
  refine ⟨hall.2, ?_⟩
  intro d hd
  obtain ⟨-, parent, hparent, -⟩ := hclosed ancestor hall.1 d hd
  exact ⟨parent, hparent⟩

end Taint

end AecBench.Experimentation.Governance
