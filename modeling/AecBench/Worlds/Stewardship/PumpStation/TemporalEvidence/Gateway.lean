import Mathlib.Algebra.Order.Ring.Int
import Mathlib.Data.Prod.Lex
import AecBench.Worlds.Stewardship.PumpStation.TemporalEvidence.Access

/-!
# The gateway to the documentary corpus

Search and fetch over one corpus: a query is normalized, the versions that it matches are filtered
by what the context may see, ranked, cut to the limit and paid for; a fetch returns the text behind
a reference that the session was given.

## Main definitions

* `isAccessible`, `accessibleVersions` — the frontier of a context.
* `search`, `fetch` — the two accesses; `decision` — what both return.
-/

namespace AecBench.Worlds.PumpStation.TemporalEvidence

open Validation Text

/-- The tables of characters that normalization, lower case and words depend on. -/
structure Unicode where
  nfkc : String → String
  lower : String → String
  isWord : Char → Bool

/-! ## Texts -/

section Texts

variable (U : Unicode)

def untrustedPrefix : String := "[UNTRUSTED DOCUMENTARY EVIDENCE] "

/-- The longest parts of a text whose characters meet `p`. -/
def runsOf (p : Char → Bool) (s : String) : List String :=
  ((s.toList.splitOnP fun c => !p c).filter (· ≠ [])).map String.ofList

/-- `[a-z0-9]` -/
def isTokenChar (c : Char) : Bool := ('a' ≤ c && c ≤ 'z') || ('0' ≤ c && c ≤ '9')

/-- Where `t` holds `s` first; nothing when it does not. -/
def find (s : List Char) : List Char → Option ℕ
  | [] => if s = [] then some 0 else none
  | c :: cs => if s.isPrefixOf (c :: cs) then some 0 else (find s cs).map (· + 1)

def normalizeQuery (query : String) : String :=
  " ".intercalate (words (U.lower (U.nfkc query)))

def tokens (value : String) : List String := runsOf isTokenChar (U.lower value)

def searchableText (v : TemporalEvidenceVersion) : String :=
  let contentText := v.contentText.getD ""
  U.lower s!"{v.title} {contentText}"

/-- `version.content_text or version.citation` -/
def contentOrCitation (v : TemporalEvidenceVersion) : String :=
  match v.contentText with
  | some text => if text = "" then v.citation else text
  | none => v.citation

def snippet (v : TemporalEvidenceVersion) (query : String) (maximum : ℕ) : String :=
  let content := s!"{v.title}. {contentOrCitation v}"
  let lowered := (U.lower content).toList
  let positions := (tokens U query).filterMap fun token => find token.toList lowered
  let start := positions.min?.getD 0 - maximum / 4
  untrustedPrefix ++ String.ofList ((content.toList.drop start).take maximum)

/-- `len(re.findall(r"\w+|[^\w\s]", text))` -/
def visibleTokens (text : String) : ℕ :=
  (runsOf U.isWord text).length + text.toList.countP fun c => !U.isWord c && !isSpace c

end Texts

def superseded (v : TemporalEvidenceVersion) (worldTimeSeconds : ℕ) : Bool :=
  v.supersededAtSeconds.any fun at_ => at_ ≤ (worldTimeSeconds : ℤ)

def applicable (v : TemporalEvidenceVersion) (worldTimeSeconds : ℕ) : Bool :=
  v.effectiveFromSeconds ≤ worldTimeSeconds &&
    v.effectiveToSeconds.all fun last => (worldTimeSeconds : ℤ) ≤ last

/-! ## Budgets -/

def zeroBudget : RetrievalBudgetVector := ⟨0, 0, 0, 0, 0, 0, 0⟩

def visibleCost (U : Unicode) (references : List TemporalEvidenceVisibleReference)
    (fetchedContent : Option TemporalFetchedEvidence) (costPolicy : TemporalCostPolicy) :
    RetrievalBudgetVector :=
  let visibleText := "".intercalate (references.map (·.snippet)) ++
    (fetchedContent.map (·.content)).getD ""
  { calls := 1
    returnedReferences := references.length
    visibleBytes := visibleText.utf8ByteSize
    visibleTokens := visibleTokens U visibleText
    turns := 1
    simulatedDurationSeconds := costPolicy.simulatedDurationSeconds
    providerSpendMicrousd := costPolicy.providerSpendMicrousd }

def budgetAllows (before consumed : RetrievalBudgetVector) : Bool :=
  RetrievalBudgetVector.modelFields.all fun field => field.2 consumed ≤ field.2 before

def subtractBudget (before consumed : RetrievalBudgetVector) :
    Except String RetrievalBudgetVector := do
  require (budgetAllows before consumed = true) "retrieval budget values must be non-negative"
  pure
    { calls := before.calls - consumed.calls
      returnedReferences := before.returnedReferences - consumed.returnedReferences
      visibleBytes := before.visibleBytes - consumed.visibleBytes
      visibleTokens := before.visibleTokens - consumed.visibleTokens
      turns := before.turns - consumed.turns
      simulatedDurationSeconds :=
        before.simulatedDurationSeconds - consumed.simulatedDurationSeconds
      providerSpendMicrousd := before.providerSpendMicrousd - consumed.providerSpendMicrousd }

/-! ## The frontier -/

section Frontier

variable (B : TemporalEvidenceBundle)

/-- The namespaces that a context sees. -/
def visibleNamespaces (context : TemporalAccessContext) : List String :=
  B.branchPolicy.sharedNamespace :: context.worldBranchId :: context.branchAncestorIds

/-- The events of a version up to the time of the context. -/
def pastEvents (v : TemporalEvidenceVersion) (context : TemporalAccessContext) :
    List TemporalEvidenceAvailabilityEvent :=
  B.availability.events.filter fun event =>
    event.evidenceVersionId = some v.versionId ∧ event.scheduledSeconds ≤ context.worldTimeSeconds

def isAccessible (v : TemporalEvidenceVersion) (context : TemporalAccessContext) : Bool :=
  if context.actorRole ∉ B.accessPolicy.actorRoles then false
  else if context.actorRole ∉ v.accessRoles then false
  else if v.branchNamespace ∉ visibleNamespaces B context then false
  else
    let events := pastEvents B v context
    let searchable := events.any fun event =>
      event.kind = .searchable ∧ (event.actorRoles = [] ∨ context.actorRole ∈ event.actorRoles)
    let unavailable := events.any fun event =>
      event.kind = .accessRevoked ∨ event.kind = .sourceUnavailable
    searchable && !unavailable

/-- `accessible_versions` -/
def accessibleVersions (context : TemporalAccessContext) : List TemporalEvidenceVersion :=
  B.versions.filter fun v => isAccessible B v context

def negativeReason (candidates : List TemporalEvidenceVersion) (context : TemporalAccessContext) :
    TemporalEvidencePrivateReason :=
  if candidates.any fun v => context.worldTimeSeconds < v.availableAtSeconds then .futureEvidence
  else if candidates.any fun v => v.branchNamespace ∉ visibleNamespaces B context then
    .branchMismatch
  else if candidates.any fun v => context.actorRole ∉ v.accessRoles then .accessDenied
  else .noMatch

end Frontier

/-! ## Matching and ranking -/

section Ranking

variable (U : Unicode)

def matchingVersions (B : TemporalEvidenceBundle) (normalizedQuery scope : String) :
    List TemporalEvidenceVersion :=
  B.versions.filter fun v =>
    (scope = "all" ∨ scope ∈ v.scopeLabels) ∧
      (tokens U normalizedQuery).any fun token =>
        (find token.toList (searchableText U v).toList).isSome

/-- How often the tokens of the query stand in a version. -/
def score (normalizedQuery : String) (v : TemporalEvidenceVersion) : ℕ :=
  ((tokens U normalizedQuery).map fun token => (tokens U (searchableText U v)).count token).sum

/-- `rank_key` -/
def rankKey (normalizedQuery : String) (v : TemporalEvidenceVersion) : ℤ ×ₗ String :=
  toLex (-(score U normalizedQuery v : ℤ), v.versionId)

def rank (eligible : List TemporalEvidenceVersion) (normalizedQuery : String) :
    List TemporalEvidenceVersion :=
  Table.sortBy (rankKey U normalizedQuery) eligible

end Ranking

/-! ## What is shown -/

section Shown

variable (U : Unicode) (sha256 : Payload → String)

def visibleReference (maximumSnippetCharacters : ℕ) (context : TemporalAccessContext)
    (state : TemporalRetrievalState) (query : String) (v : TemporalEvidenceVersion) :
    TemporalEvidenceVisibleReference where
  opaqueReference := sha256 (.opaqueReference state.referenceNamespaceId v.contentSha256)
  versionId := v.versionId
  title := v.title
  snippet := snippet U v query maximumSnippetCharacters
  citation := v.citation
  sourceClass := v.sourceClass
  authorityClass := v.authorityClass
  eventStartSeconds := v.eventStartSeconds
  effectiveFromSeconds := v.effectiveFromSeconds
  effectiveToSeconds := v.effectiveToSeconds
  superseded := superseded v context.worldTimeSeconds
  currentlyApplicable := applicable v context.worldTimeSeconds

/-- `_fetched_content`, of a version that is accessible. -/
def fetchedContent (v : TemporalEvidenceVersion) (reference : String)
    (context : TemporalAccessContext) : Option TemporalFetchedEvidence :=
  v.contentText.map fun text =>
    { opaqueReference := reference
      versionId := v.versionId
      title := v.title
      citation := v.citation
      sourceClass := v.sourceClass
      authorityClass := v.authorityClass
      content := untrustedPrefix ++ text
      superseded := superseded v context.worldTimeSeconds
      currentlyApplicable := applicable v context.worldTimeSeconds }

end Shown

/-! ## The decision -/

/-- The arguments of `_decision` next to the context and the state. -/
structure DecisionArguments where
  requestId : String
  requestContentId : String
  resultingInformationSetId : String
  operation : TemporalEvidenceAccessKind
  originalQuery : Option String
  normalizedQuery : Option String
  requestedScope : Option String
  requestedLimit : Option ℤ
  requestedReference : Option String
  references : List TemporalEvidenceVisibleReference
  fetchedContent : Option TemporalFetchedEvidence
  publicStatus : TemporalEvidenceAccessStatus
  privateReason : TemporalEvidencePrivateReason
  truncated : Bool
  consumed : RetrievalBudgetVector
  eligible : List TemporalEvidenceVersion
  rankingVersions : List TemporalEvidenceVersion

section Decision

variable (sha256 : Payload → String) (B : TemporalEvidenceBundle)

/-- The result of an access from the state of a session. -/
def DecisionArguments.result (a : DecisionArguments) (context : TemporalAccessContext)
    (state : TemporalRetrievalState) : TemporalEvidenceAccessResult where
  requestId := a.requestId
  accessSequence := state.stateSequence + 1
  operation := a.operation
  worldTimeSeconds := context.worldTimeSeconds
  normalizedQuery := a.normalizedQuery
  requestedReference := a.requestedReference
  references := a.references
  fetchedContent := a.fetchedContent
  publicStatus := a.publicStatus
  truncated := a.truncated
  visibleCost := a.consumed

def frontierFingerprint (context : TemporalAccessContext) : String :=
  sha256 (.frontier context.worldInstanceId context.worldBranchId context.worldStateId
    context.worldTimeSeconds context.actorId B.corpusManifest.contentSha256
    B.accessPolicy.contentSha256 B.availability.contentSha256 B.branchPolicy.contentSha256
    B.retrievalPolicy.contentSha256)

/-- The receipt of an access. -/
def DecisionArguments.receipt (a : DecisionArguments) (context : TemporalAccessContext)
    (state : TemporalRetrievalState) (after : RetrievalBudgetVector) :
    TemporalEvidenceAccessReceipt where
  receiptSequence := (a.result context state).accessSequence
  requestId := a.requestId
  requestContentId := a.requestContentId
  context := context
  resultingInformationSetId := a.resultingInformationSetId
  corpusSnapshotId := B.corpusManifest.contentSha256
  retrievalPolicyId := B.retrievalPolicy.contentSha256
  accessPolicyId := B.accessPolicy.contentSha256
  availabilityScheduleId := B.availability.contentSha256
  branchNamespacePolicyId := B.branchPolicy.contentSha256
  costPolicyId := B.costPolicy.contentSha256
  knowledgeFrontierFingerprint := frontierFingerprint sha256 B context
  accessContextId := sha256 (.accessContext (frontierFingerprint sha256 B context)
    context.agentTenureId context.sessionId context.toolContractId state.remainingBudget)
  originalQuery := a.originalQuery
  normalizedQuery := a.normalizedQuery
  requestedScope := a.requestedScope
  requestedLimit := a.requestedLimit
  requestedReference := a.requestedReference
  returnedVersionIds := match a.fetchedContent with
    | some fetched => [fetched.versionId]
    | none => a.references.map (·.versionId)
  eligibleFrontierFingerprint := sha256 (.eligible
    ((Table.sortBy (fun v : TemporalEvidenceVersion => v.versionId) a.eligible).map
      (·.contentSha256)))
  rankingInputFingerprint := sha256 (.ranking a.normalizedQuery
    (a.rankingVersions.map (·.contentSha256)))
  visibleResult := a.result context state
  publicStatus := a.publicStatus
  privateReason := a.privateReason
  budgetBefore := state.remainingBudget
  budgetConsumed := a.consumed
  budgetAfter := after

/-- The references of a session after a result has shown some. -/
def issue (issued : List IssuedTemporalReference)
    (references : List TemporalEvidenceVisibleReference) : List IssuedTemporalReference :=
  Table.sortBy IssuedTemporalReference.opaqueReference
    (references.foldl (fun rows item =>
      Table.upsert IssuedTemporalReference.opaqueReference ⟨item.opaqueReference, item.versionId⟩
        rows) issued)

/-- The state of the session after an access. -/
def DecisionArguments.nextState (a : DecisionArguments) (context : TemporalAccessContext)
    (state : TemporalRetrievalState) (after : RetrievalBudgetVector) : TemporalRetrievalState :=
  let resultId := sha256 (.result (a.result context state))
  { stateSequence := state.stateSequence + 1
    previousStateId := some (sha256 (.state state))
    referenceNamespaceId := state.referenceNamespaceId
    remainingBudget := after
    issuedReferences := issue state.issuedReferences a.references
    accessResultIds := state.accessResultIds ++ [resultId]
    actorEventIds := state.actorEventIds
    fetchedContentIds := match a.fetchedContent with
      | some fetched =>
        if sha256 (.fetched fetched) ∉ state.fetchedContentIds then
          state.fetchedContentIds ++ [sha256 (.fetched fetched)]
        else state.fetchedContentIds
      | none => state.fetchedContentIds
    unresolvedSearchIds :=
      if a.operation = .search ∧ a.publicStatus ≠ .ok then state.unresolvedSearchIds ++ [resultId]
      else state.unresolvedSearchIds
    installedCarrierId := state.installedCarrierId }

/-- `_decision` -/
def decision (context : TemporalAccessContext) (state : TemporalRetrievalState)
    (a : DecisionArguments) : Except String TemporalAccessDecision := do
  let after ← subtractBudget state.remainingBudget a.consumed
  let result := a.result context state
  result.check
  let receipt := a.receipt sha256 B context state after
  receipt.check
  let nextState := a.nextState sha256 context state after
  nextState.check
  let decided : TemporalAccessDecision := ⟨result, receipt, nextState⟩
  decided.check
  pure decided

end Decision

/-! ## Search and fetch -/

section Access

variable (U : Unicode) (sha256 : Payload → String) (B : TemporalEvidenceBundle)

/-- A search that the policies do not admit. -/
def invalidSearch (query scope : String) (limit : ℤ) : Prop :=
  normalizeQuery U query = "" ∨ B.retrievalPolicy.maximumQueryCharacters < query.length ∨
    scope ∉ B.accessPolicy.allowedScopes ∨ limit ≤ 0 ∨ (B.retrievalPolicy.maximumResults : ℤ) < limit

instance (query scope : String) (limit : ℤ) : Decidable (invalidSearch U B query scope limit) :=
  inferInstanceAs (Decidable (_ ∨ _ ∨ _ ∨ _ ∨ _))

/-- The arguments of the decision on a search. -/
def searchArguments (requestId query scope : String) (limit : ℤ)
    (context : TemporalAccessContext) (state : TemporalRetrievalState)
    (resultingInformationSetId : String) : DecisionArguments :=
  let normalized := normalizeQuery U query
  let invalid := invalidSearch U B query scope limit
  let candidates := if invalid then [] else matchingVersions U B normalized scope
  let eligible := candidates.filter fun v => isAccessible B v context
  let ranked := rank U eligible normalized
  let references := (ranked.take limit.toNat).map
    (visibleReference U sha256 B.retrievalPolicy.maximumSnippetCharacters context state normalized)
  let consumed := visibleCost U references none B.costPolicy
  let allowed := budgetAllows state.remainingBudget consumed
  let shown := if allowed then references else []
  { requestId
    requestContentId := sha256 (.searchRequest requestId query scope limit context
      (sha256 (.state state)))
    resultingInformationSetId
    operation := .search
    originalQuery := some query
    normalizedQuery := some normalized
    requestedScope := some scope
    requestedLimit := some limit
    requestedReference := none
    references := shown
    fetchedContent := none
    publicStatus :=
      if allowed then if references ≠ [] then .ok else .noAccessibleResult
      else .retrievalUnavailable
    privateReason :=
      if allowed then
        if invalid then .invalidRequest
        else if references ≠ [] then .matched
        else negativeReason B candidates context
      else .budgetExhausted
    truncated := shown.length < ranked.length
    consumed := if allowed then consumed else zeroBudget
    eligible := accessibleVersions B context
    rankingVersions := eligible }

def search (requestId query scope : String) (limit : ℤ) (context : TemporalAccessContext)
    (state : TemporalRetrievalState) (resultingInformationSetId : String) :
    Except String TemporalAccessDecision :=
  decision sha256 B context state
    (searchArguments U sha256 B requestId query scope limit context state
      resultingInformationSetId)

/-- The version that a reference was issued for. -/
def issuedVersion (state : TemporalRetrievalState) (reference : String) :
    Option TemporalEvidenceVersion := do
  let issued ← state.issuedReferences.find? fun item => item.opaqueReference = reference
  B.versions.find? fun v => v.versionId = issued.evidenceVersionId

/-- The accessible version behind a reference. -/
def accessibleVersion (context : TemporalAccessContext) (state : TemporalRetrievalState)
    (reference : String) : Option TemporalEvidenceVersion :=
  (issuedVersion B state reference).filter fun v => isAccessible B v context

/-- The arguments of the decision on a fetch. -/
def fetchArguments (requestId reference : String) (context : TemporalAccessContext)
    (state : TemporalRetrievalState) (resultingInformationSetId : String) : DecisionArguments :=
  let issued := state.issuedReferences.find? fun item => item.opaqueReference = reference
  let accessible := accessibleVersion B context state reference
  let fetched := accessible.bind fun v => fetchedContent v reference context
  let consumed := visibleCost U [] fetched B.costPolicy
  let allowed := budgetAllows state.remainingBudget consumed
  { requestId
    requestContentId := sha256 (.fetchRequest requestId reference context (sha256 (.state state)))
    resultingInformationSetId
    operation := .fetch
    originalQuery := none
    normalizedQuery := none
    requestedScope := none
    requestedLimit := none
    requestedReference := some reference
    references := []
    fetchedContent := if allowed then fetched else none
    publicStatus :=
      if allowed then if fetched.isSome then .ok else .noAccessibleResult
      else .retrievalUnavailable
    privateReason :=
      if allowed then
        if fetched.isSome then .matched
        else if issued.isNone then .unissuedReference
        else .sourceUnavailable
      else .budgetExhausted
    truncated := false
    consumed := if allowed then consumed else zeroBudget
    eligible := accessibleVersions B context
    rankingVersions := accessible.toList }

def fetch (requestId reference : String) (context : TemporalAccessContext)
    (state : TemporalRetrievalState) (resultingInformationSetId : String) :
    Except String TemporalAccessDecision :=
  decision sha256 B context state
    (fetchArguments U sha256 B requestId reference context state resultingInformationSetId)

end Access

end AecBench.Worlds.PumpStation.TemporalEvidence
