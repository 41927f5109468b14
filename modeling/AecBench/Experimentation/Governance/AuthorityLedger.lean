import AecBench.Lib.WriteOnce
import AecBench.Contracts.Authority

/-!
# The authority ledger

Content, origins and authority events are immutable files whose paths are computed of their
content; claims bind the readable identities to them. An observation publishes its content, its
origin, the claim of the artifact id to that origin and the claim of the typed basis; an issued
event publishes itself and the claim of its id. Both validate against the ledger first.

## Main definitions

* `Entry`, `Path` — the files of the ledger; `Hashes` — the content ids.
* `resolveBasis`, `resolveAuthorityEvent` — what readers get.
* `observeBasis`, `issueAuthorityEvent` — what the two calls read and then publish.
* `ledger` — the calls on one ledger, interleaved.
-/

namespace AecBench.Experimentation.Governance

open Validation Contracts.Authority

abbrev Bytes := List UInt8

/-! ## Errors -/

inductive AuthorityLedgerErrorKind
  | confinement
  | collision
  | integrity
  /-- A contract model refuses its fields. -/
  | validation
  /-- The interpreter's limit of recursion. -/
  | recursion
  deriving DecidableEq

structure AuthorityLedgerError where
  kind : AuthorityLedgerErrorKind
  message : String
  deriving DecidableEq

/-! ## The files -/

/-- `_BasisClaim` -/
structure BasisClaim (σ : Type) where
  reference : BasisReference σ
  originSha256 : σ
  deriving DecidableEq

/-- The files of the ledger. -/
inductive Entry (σ : Type)
  | basisObject (content : Bytes)
  | originObject (origin : OriginStamp σ)
  | eventObject (event : AuthorityEvent σ)
  /-- `_IdentityClaim` of the namespace `origin-stamp`. -/
  | originClaim (logicalId : String) (targetContentSha256 : σ)
  /-- `_IdentityClaim` of the namespace `authority-event`. -/
  | eventClaim (logicalId : String) (targetContentSha256 : σ)
  | basisClaim (claim : BasisClaim σ)
  deriving DecidableEq

/-- Where the files are. -/
inductive Path (σ : Type)
  | basisObject (artifactSha256 : σ)
  | originObject (contentSha256 : σ)
  | eventObject (contentSha256 : σ)
  | originClaim (logicalKey : σ)
  | eventClaim (logicalKey : σ)
  | basisClaim (kind : BasisKind) (logicalKey : σ)
  deriving DecidableEq

/-- A basis with its observed origin. -/
structure StoredBasis (σ : Type) where
  reference : BasisReference σ
  origin : OriginStamp σ
  deriving DecidableEq

/-- The digests of contents, of the canonical texts of models and of the keys of claims. -/
structure Hashes (σ : Type) where
  content : Bytes → σ
  origin : OriginStamp σ → σ
  event : AuthorityEvent σ → σ
  logicalId : String → σ
  basisKey : BasisKind → String → σ

/-- What a host configures next to the root of a ledger: the models of typed bases, and the causal
rules of promotions. -/
structure Policy (σ : Type) where
  /-- The bytes are the canonical text of a model that is configured for the kind. -/
  isModel : BasisKind → Bytes → Bool
  /-- The kinds whose models are configured next to the built-in ones. -/
  configured : List BasisKind
  /-- The approval that canonical bytes hold. -/
  approval : Bytes → Option (HumanAuthorityApproval σ)
  /-- `validate_promotion_basis`, of an event and its bases with their contents. -/
  promotion : AuthorityEvent σ → List (StoredBasis σ × Bytes) → Except AuthorityLedgerError PUnit

section Ledger

variable {σ : Type} [LinearOrder σ] (H : Hashes σ) (π : Policy σ)

/-- The path of a file. -/
def Entry.path : Entry σ → Path σ
  | basisObject content => .basisObject (H.content content)
  | originObject origin => .originObject (H.origin origin)
  | eventObject event => .eventObject (H.event event)
  | originClaim logicalId _ => .originClaim (H.logicalId logicalId)
  | eventClaim logicalId _ => .eventClaim (H.logicalId logicalId)
  | basisClaim claim =>
    .basisClaim claim.reference.kind (H.basisKey claim.reference.kind claim.reference.artifactId)

abbrev load (p : Path σ) (es : List (Entry σ)) : Option (Entry σ) := Table.lookup (Entry.path H) p es

/-- `_resolve_origin` -/
def resolveOrigin (es : List (Entry σ)) (contentSha256 : σ) :
    Except AuthorityLedgerError (OriginStamp σ) :=
  match load H (.originObject contentSha256) es with
  | some (.originObject origin) => .ok origin
  | _ => .error ⟨.integrity, "origin artifact is missing for content identity"⟩

/-! ### Typed bases -/

/-- The kinds of `_DEFAULT_TYPED_BASIS_MODELS`. -/
def defaultTypedBasisKinds : List BasisKind :=
  [.origin, .authorityEvent, .critic, .evaluationOutcome, .criticEvaluationOutcome,
    .promotionMonitor, .promotionLineage, .motifAssurance, .motifQualification, .humanApproval]

/-- `_REQUIRED_TYPED_BASIS_KINDS` -/
def requiredTypedBasisKinds : List BasisKind :=
  [.origin, .authorityEvent, .evaluationOutcome, .criticEvaluationOutcome, .monitorReport,
    .promotionMonitor, .promotionLineage, .motifAssurance, .motifQualification]

/-- The content holds the canonical text of a model of its kind. -/
def Policy.holdsModel (kind : BasisKind) (content : Bytes) : Bool :=
  match kind with
  | .humanApproval => (π.approval content).isSome
  | kind => π.isModel kind content

/-- `_validate_typed_basis_content` -/
def validateTypedBasisContent (kind : BasisKind) (content : Bytes) :
    Except AuthorityLedgerError PUnit :=
  if kind ∈ defaultTypedBasisKinds ∨ kind ∈ π.configured then
    require (π.holdsModel kind content = true)
      ⟨.integrity, s!"typed {kind.value} basis does not contain the required artifact"⟩
  else
    require (kind ∉ requiredTypedBasisKinds)
      ⟨.integrity, s!"typed {kind.value} basis model is not configured"⟩

/-! ### The closure of an origin -/

/-- `visit` of `_validate_origin_closure`: the origins completed so far, with those of a part of
the closure. -/
def visit (es : List (Entry σ)) : ℕ → List σ → List σ → OriginStamp σ →
    Except AuthorityLedgerError (List σ)
  | 0, _, _, _ => .error ⟨.recursion, "maximum recursion depth exceeded"⟩
  | depth + 1, active, completed, current =>
    if H.origin current ∈ completed then .ok completed
    else if H.origin current ∈ active then
      .error ⟨.integrity, "origin closure contains a cycle"⟩
    else do
      let completed ← current.parentOriginSha256s.foldlM (fun completed parentSha256 => do
        let parent ← resolveOrigin H es parentSha256
        require (parent.taintLabels ⊆ current.taintLabels)
          ⟨.integrity, "origin closure removes inherited taint labels"⟩
        visit es depth (H.origin current :: active) completed parent) completed
      pure (H.origin current :: completed)

/-- `_validate_origin_closure`; the origins that are active at a time are distinct files. -/
def validateOriginClosure (es : List (Entry σ)) (origin : OriginStamp σ) :
    Except AuthorityLedgerError PUnit := do
  let _ ← visit H es (es.length + 1) [] [] origin
  pure ⟨⟩

/-! ### What readers get -/

/-- The content of a basis. -/
def readContent (es : List (Entry σ)) (artifactSha256 : σ) : Except AuthorityLedgerError Bytes :=
  match load H (.basisObject artifactSha256) es with
  | some (.basisObject content) => .ok content
  | _ => .error ⟨.integrity, "basis artifact is missing"⟩

/-- The claim of a typed identity. -/
def loadBasisClaim (es : List (Entry σ)) (kind : BasisKind) (artifactId : String) :
    Option (BasisClaim σ) :=
  match load H (.basisClaim kind (H.basisKey kind artifactId)) es with
  | some (.basisClaim claim) => some claim
  | _ => none

/-- `resolve_basis`, with the content. -/
def resolveBasisContent (es : List (Entry σ)) (reference : BasisReference σ) :
    Except AuthorityLedgerError (StoredBasis σ × Bytes) :=
  match loadBasisClaim H es reference.kind reference.artifactId with
  | none => .error
    ⟨.integrity, s!"{reference.kind.value} basis is not registered in the authority ledger"⟩
  | some claim => do
    require (claim.reference = reference)
      ⟨.integrity, "basis claim does not match the exact typed reference"⟩
    let content ← readContent H es reference.artifactSha256
    validateTypedBasisContent π reference.kind content
    let origin ← resolveOrigin H es claim.originSha256
    require (origin.artifactId = reference.artifactId ∧
      origin.artifactSha256 = reference.artifactSha256)
      ⟨.integrity, "basis origin does not match the exact artifact identity"⟩
    validateOriginClosure H es origin
    pure (⟨reference, origin⟩, content)

/-- `resolve_basis` -/
def resolveBasis (es : List (Entry σ)) (reference : BasisReference σ) :
    Except AuthorityLedgerError (StoredBasis σ) :=
  (resolveBasisContent H π es reference).map Prod.fst

/-- `basis_for_id` -/
def basisForId (es : List (Entry σ)) (kind : BasisKind) (artifactId : String) :
    Except AuthorityLedgerError (Option (StoredBasis σ)) :=
  match loadBasisClaim H es kind artifactId with
  | none => .ok none
  | some claim => do
    require (claim.reference.kind = kind ∧ claim.reference.artifactId = artifactId)
      ⟨.integrity, "basis claim does not match its typed logical identity"⟩
    let stored ← resolveBasis H π es claim.reference
    pure (some stored)

/-! ### Authority events -/

/-- `_HUMAN_TRANSITION_ACTIONS` -/
def humanTransitionActions : List AuthorityAction :=
  [.releaseCritic, .retireCritic, .revealAcceptanceManifest, .changeKernelVersion]

/-- `_PROMOTION_ACTIONS` -/
def promotionActions : List AuthorityAction :=
  [.policyPromotion, .motifPromotion, .motifStateChange]

/-- A basis is a host-observed human approval that matches the event. -/
def matchesApproval (event : AuthorityEvent σ) (item : StoredBasis σ × Bytes) : Bool :=
  item.1.reference.kind = .humanApproval &&
    (π.approval item.2).any (fun approval => approval.approved &&
      approval.principal = event.principal && approval.action = event.action &&
      approval.subjectId = event.subjectId && approval.subjectSha256 = event.subjectSha256) &&
    item.1.origin.producer = event.principal && item.1.origin.producer.kind = .human &&
    item.1.origin.observedBy.kind ∈ hostPrincipalKinds &&
    TaintLabel.humanAuthority ∈ item.1.origin.taintLabels

/-- `_validate_human_transition_basis` -/
def validateHumanTransitionBasis (event : AuthorityEvent σ)
    (basis : List (StoredBasis σ × Bytes)) : Except AuthorityLedgerError PUnit :=
  require (basis.any (matchesApproval π event) = true)
    ⟨.integrity, "human transition requires matching host-observed human approval basis"⟩

/-- `validate_authority_event` -/
def validateAuthorityEvent (es : List (Entry σ)) (event : AuthorityEvent σ) :
    Except AuthorityLedgerError (List (StoredBasis σ × Bytes)) := do
  let basis ← event.basis.mapM (resolveBasisContent H π es)
  if event.decision = .granted ∧ event.action ∈ promotionActions then
    π.promotion event basis
  else pure ⟨⟩
  if event.decision = .granted ∧ event.action ∈ humanTransitionActions then
    validateHumanTransitionBasis π event basis
  else pure ⟨⟩
  pure basis

/-- `resolve_authority_event` -/
def resolveAuthorityEvent (es : List (Entry σ)) (eventId : String) (contentSha256 : σ) :
    Except AuthorityLedgerError (AuthorityEvent σ) :=
  match load H (.eventClaim (H.logicalId eventId)) es with
  | some (.eventClaim logicalId target) => do
    require (logicalId = eventId)
      ⟨.integrity, "authority-event identity claim does not match its lookup key"⟩
    require (target = contentSha256)
      ⟨.integrity, "authority event claim does not match the requested content identity"⟩
    match load H (.eventObject contentSha256) es with
    | some (.eventObject event) => do
      require (event.eventId = eventId)
        ⟨.integrity, "authority event content does not match its exact logical identity"⟩
      let _ ← validateAuthorityEvent H π es event
      pure event
    | _ => .error ⟨.integrity, "authority event is missing"⟩
  | _ => .error ⟨.integrity, "authority-event logical identity is not registered"⟩

/-! ## The calls -/

/-- What the two calls return. -/
inductive Stored (σ : Type)
  | basis (stored : StoredBasis σ)
  | event (event : AuthorityEvent σ)

/-- The arguments of `observe_basis`. -/
structure Observation (σ : Type) where
  kind : BasisKind
  artifactId : String
  content : Bytes
  producer : AuthorityPrincipal
  producerProcessId : String
  observedBy : AuthorityPrincipal
  channel : String
  operationId : String
  invocationId : String
  parentOriginSha256s : List σ
  operationTaint : List TaintLabel

/-- What `observe_basis` reads, and then publishes. -/
def observeBasis (o : Observation σ) (es : List (Entry σ)) :
    Except AuthorityLedgerError (List (Entry σ) × Stored σ) := do
  require (o.observedBy.kind ∈ hostPrincipalKinds)
    ⟨.integrity, "basis observation requires a host observer"⟩
  require (o.kind = .humanApproval ∧ o.producer.kind = .human →
    TaintLabel.humanAuthority ∈ o.operationTaint)
    ⟨.integrity, "host-observed human approval requires human_authority taint"⟩
  validateTypedBasisContent π o.kind o.content
  let parents ← o.parentOriginSha256s.mapM fun digest => do
    let parent ← resolveOrigin H es digest
    pure (digest, parent)
  let reference : BasisReference σ := ⟨o.kind, o.artifactId, H.content o.content⟩
  let origin ← (deriveOriginStamp o.artifactId (H.content o.content) o.producer
    o.producerProcessId o.observedBy o.channel o.operationId o.invocationId parents
    o.operationTaint).mapError fun message => ⟨.validation, message⟩
  pure ([.basisObject o.content, .originObject origin, .originClaim o.artifactId (H.origin origin),
    .basisClaim ⟨reference, H.origin origin⟩], .basis ⟨reference, origin⟩)

/-- What `issue_authority_event` reads, and then publishes. -/
def issueAuthorityEvent (event : AuthorityEvent σ) (es : List (Entry σ)) :
    Except AuthorityLedgerError (List (Entry σ) × Stored σ) := do
  let _ ← validateAuthorityEvent H π es event
  pure ([.eventObject event, .eventClaim event.eventId (H.event event)], .event event)

/-- A call on the ledger. -/
inductive Request (σ : Type)
  | observe (o : Observation σ)
  | issue (event : AuthorityEvent σ)

def plan : Request σ → List (Entry σ) → Except AuthorityLedgerError (List (Entry σ) × Stored σ)
  | .observe o, es => observeBasis H π o es
  | .issue event, es => issueAuthorityEvent H π event es

/-- The refusal of a publication. -/
def collision : Entry σ → AuthorityLedgerError
  | .originClaim _ _ =>
    ⟨.collision, "origin-stamp logical identity is already bound to different content"⟩
  | .eventClaim _ _ =>
    ⟨.collision, "authority-event logical identity is already bound to different content"⟩
  | .basisClaim _ => ⟨.collision, "basis logical identity is already bound to different content"⟩
  | _ => ⟨.collision, "content-addressed path contains different bytes"⟩

/-- Any number of calls of any processes on one ledger, each publication of a call a step. -/
def ledger {ι : Type} (request : ι → Request σ) :
    Interleaving ι (List (WriteOnce.Row ι (Entry σ)))
      (WriteOnce.Place (Entry σ) AuthorityLedgerError (Stored σ)) WriteOnce.Event :=
  WriteOnce.calls (Entry.path H) (plan H π) collision request

end Ledger

end AecBench.Experimentation.Governance
