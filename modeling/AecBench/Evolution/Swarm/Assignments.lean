import AecBench.Evolution.Swarm.Runs

/-!
# The assignments of a swarm

The manager assigns the best candidate of the run, or the baseline, as the parent, and the
candidates of the best archive cells as inspirations. A child is archived under each of its
descriptors, so that one candidate can hold several of the best cells; the constructor of a
selection refuses an inspiration that occurs twice.

## Main definitions

* `SwarmManager.assignmentFor` — the assignment for an agent.
* `Pool`, `poolMachine` — a manager with its outstanding assignments, and their runs.
* `SwarmManager.Sourced` — what the manager has registered.
* `Assigns` — an assignment whose candidates are registered, distinct and apart.
* `DistinctAtTop` — no candidate but the parent holds two of the five best cells.

## Main results

* `sourced_onResult` — every result, applied or refused, keeps the sources registered.
* `assigns_along_iff` — in every state of every run, an assignment is available exactly when the
  best cells belong to distinct candidates.
* `not_assigns_doubled` — two legal results after which no assignment is available.
-/

namespace AecBench.Evolution.Swarm

open Validation

/-! ## The selection -/

/-- The constructor of an archive view: the occupied cells, in the order of their indices. -/
def archiveView (archive : QDArchive) : Except String (List ArchiveEntry) := do
  let entries := archive.entries.insertionSort fun a b => a.cellIndex ≤ b.cellIndex
  require (entries.map (·.cellIndex)).Nodup "archive view entries must have unique cell indices"
  require (∀ entry ∈ entries, entry.cellIndex < archive.nCentroids)
    "archive view entry cell_index must be within n_centroids"
  return entries

/-- The entries with the highest rewards, in the order of the view among equals. -/
def topK (entries : List ArchiveEntry) (k : ℕ) : List ArchiveEntry :=
  (entries.insertionSort fun a b => b.bd.reward ≤ a.bd.reward).take k

/-- The candidates of the best cells, but for the parent. -/
def inspirationIds (parentId : String) (entries : List ArchiveEntry) : List String :=
  ((topK entries 5).filter (·.snapshot.candidateId ≠ parentId)).map (·.snapshot.candidateId)

namespace SwarmManager

/-- The best candidate, or the baseline; the identity of the best candidate is never empty. -/
def parentId (m : SwarmManager) : Option String := m.state.bestCandidateId.or m.initialCandidateId

/-- `_default_assignment_id`. -/
def defaultAssignmentId (agentId : String) (cycle : ℕ) : String :=
  s!"{agentId}:assignment:{cycle}"

/-- The allowance of an assignment: what remains of the smaller of the two budgets. -/
def allowance (m : SwarmManager) : ℚ≥0 :=
  (max 0 (min (max 0 (m.budget.maxCostUsd - m.budget.totalAgentSpend))
    (max 0 (m.budget.evalBudgetUsd - m.budget.evalSpend)))).toNNRat

/-- The part of `_next_assignment` that selects the candidates. -/
def select (m : SwarmManager) :
    Except String (SelectionPlan × WorkspaceSnapshot × List WorkspaceSnapshot) := do
  let parentId ← m.parentId.elim
    (.error "an exact initial candidate has not been registered") .ok
  let parent ← (m.snapshotOf parentId).elim
    (.error s!"selected candidate '{parentId}' has no available snapshot") .ok
  let entries ← archiveView m.archive
  let ids := inspirationIds parentId entries
  let unresolved := ids.filter fun id => (m.snapshotOf id).isNone
  require (unresolved = []) s!"inspiration candidates have no available snapshots: {unresolved}"
  let inspirations := ids.filterMap m.snapshotOf
  let selection : SelectionPlan :=
    { parentCandidateId := parentId
      inspirationCandidateIds := inspirations.map (·.candidateId)
      strategy := .conservative
      goal := "Improve the selected candidate against the configured evaluation batch."
      reasoning := s!"Manager selected exact candidate source {parentId}." }
  selection.check
  return (selection, parent, inspirations)

/-- `_next_assignment`; what it changes about the manager is in `nextAssignment`. -/
def assignmentFor (m : SwarmManager) (agentId issuedAt : String) :
    Except String SwarmAssignment := do
  let cycle := (m.agentCycles agentId).getD 0 + 1
  let (selection, parent, inspirations) ← m.select
  let assignment : SwarmAssignment :=
    { runId := m.state.runId, assignmentId := defaultAssignmentId agentId cycle, agentId
      selection, parent, inspirations, maxCostUsd := m.allowance, issuedAt }
  assignment.check
  return assignment

end SwarmManager

/-! ## Runs with outstanding assignments -/

/-- A manager, and the assignments whose results have not been delivered. -/
structure Pool where
  manager : SwarmManager
  outstanding : List SwarmAssignment := []

inductive PoolEvent
  | nextAssignment (agentId issuedAt : String)
  | result (d : Delivery)
  /-- A step of an agent raises, so that its assignment is lost. -/
  | agentError (agentId : String)

variable (ribs : CVTArchive)

/-- Runs of a pool: agents request assignments, deliver results and fail, in any order. -/
def poolMachine : Machine Pool PoolEvent where
  step p
    | .nextAssignment agentId issuedAt =>
      { manager := p.manager.nextAssignment agentId
        outstanding :=
          p.outstanding ++ (p.manager.assignmentFor agentId issuedAt).toOption.toList }
    | .result d =>
      { manager := left (p.manager.onResult ribs d)
        outstanding := p.outstanding.erase d.assignment }
    | .agentError agentId =>
      { p with outstanding := p.outstanding.eraseP (·.agentId = agentId) }

/-- An assignment of registered candidates: the inspirations are distinct and are not the
parent. -/
structure Assigns (m : SwarmManager) (agentId : String) (a : SwarmAssignment) : Prop where
  agent : a.agentId = agentId
  parent : m.snapshotOf a.selection.parentCandidateId = some a.parent
  inspirations : List.Forall₂ (fun id snapshot => m.snapshotOf id = some snapshot)
    a.selection.inspirationCandidateIds a.inspirations
  distinct : (a.inspirations.map (·.candidateId)).Nodup
  apart : ∀ snapshot ∈ a.inspirations, snapshot.candidateId ≠ a.parent.candidateId

/-- No candidate but the parent holds two of the five best cells. -/
def DistinctAtTop (m : SwarmManager) : Prop :=
  ∀ parentId ∈ m.parentId, ∀ entries, archiveView m.archive = .ok entries →
    (inspirationIds parentId entries).Nodup

/-! ## Registered sources -/

/-- Every candidate that an assignment may name is registered. -/
structure SwarmManager.Sourced (m : SwarmManager) : Prop where
  valid : ∀ snapshot ∈ m.candidateSnapshots, snapshot.errors = []
  initial : ∃ id, m.initialCandidateId = some id ∧ m.snapshotOf id ≠ none
  best : ∀ id ∈ m.state.bestCandidateId, m.snapshotOf id ≠ none
  archived : ∀ entry ∈ m.archive.entries, m.snapshotOf entry.snapshot.candidateId ≠ none
  placed : m.archive.WellPlaced ribs
  runId : ¬ Text.Blank m.state.runId

/-! ## What a delivery does -/

section Deliveries

variable {ribs} {m : SwarmManager} {d : Delivery} {child : EvaluatedCandidate}
  {outcome : SwarmOutcome}

/-- Two managers differ in their lineage and their notes only. -/
def Described (m m' : SwarmManager) : Prop := ∃ lineage notes, m' = { m with lineage, notes }

lemma described_refl (m : SwarmManager) : Described m m := ⟨m.lineage, m.notes, rfl⟩

lemma Described.trans {m m' m'' : SwarmManager} (h : Described m m') (h' : Described m' m'') :
    Described m m'' := by
  obtain ⟨lineage, notes, rfl⟩ := h
  obtain ⟨lineage', notes', rfl⟩ := h'
  exact ⟨lineage', notes', rfl⟩

lemma describes_recordLineage {recorded : SwarmManager}
    (h : m.recordLineage d child = .ok recorded) : Described m recorded := by
  simp only [SwarmManager.recordLineage, bind_eq_ok, pure_eq_ok] at h
  obtain ⟨_, -, _, -, rfl⟩ := h
  exact ⟨_, m.notes, rfl⟩

lemma describes_attachNarrative {narrated : SwarmManager}
    (h : m.attachNarrative d child = .ok narrated) : Described m narrated := by
  simp only [SwarmManager.attachNarrative, bind_eq_ok, pure_eq_ok] at h
  obtain ⟨_, -, rfl⟩ := h
  exact ⟨_, m.notes, rfl⟩

lemma describes_reflect {reflected : SwarmManager} (h : m.reflect d child = .ok reflected) :
    Described m reflected := by
  simp only [SwarmManager.reflect] at h
  split_ifs at h with hevery
  · simp only [bind_eq_ok, pure_eq_ok] at h
    obtain ⟨_, -, _, -, rfl⟩ := h
    exact ⟨m.lineage, _, rfl⟩
  · rw [pure_eq_ok] at h
    exact h ▸ described_refl m

lemma describes_describeChild : Described m (left (m.describeChild d outcome child)) := by
  rw [SwarmManager.describeChild]
  split_ifs with hadded
  · refine left_raising_bind (described_refl m) fun recorded hrecord => ?_
    have hrecorded := describes_recordLineage hrecord
    refine left_raising_bind hrecorded fun narrated hnarrate => ?_
    have hnarrated := hrecorded.trans (describes_attachNarrative hnarrate)
    exact left_raising hnarrated fun reflected hreflect =>
      hnarrated.trans (describes_reflect hreflect)
  · exact left_raising (described_refl m) fun reflected => describes_reflect

lemma applyEvaluation_nCentroids {evaluated : SwarmEvaluation} {applied : SwarmManager}
    (h : m.applyEvaluation ribs d evaluated = .ok (outcome, applied)) :
    applied.archive.nCentroids = m.archive.nCentroids := by
  simp only [SwarmManager.applyEvaluation, applySwarmEvaluation, bind_eq_ok, pure_eq_ok,
    Prod.mk.injEq, Prod.exists] at h
  obtain ⟨_, -, _, -, _, archive, _, ⟨_, -, happly⟩, -, rfl⟩ := h
  cases hparent : evaluated.parent with
  | none =>
    simp only [hparent, bind_eq_ok, pure_eq_ok, Prod.mk.injEq] at happly
    obtain ⟨_, -, -, rfl, -⟩ := happly
    rfl
  | some parent =>
    cases hchild : evaluated.child with
    | none =>
      simp only [hparent, hchild, bind_eq_ok, pure_eq_ok, Prod.mk.injEq] at happly
      obtain ⟨_, -, -, rfl, -⟩ := happly
      rfl
    | some child =>
      simp only [hparent, hchild, archiveChild, bind_eq_ok, pure_eq_ok, Prod.mk.injEq,
        Prod.exists] at happly
      obtain ⟨_, archive', harchive, _, -, _, -, -, rfl, -⟩ := happly
      by_cases hvalid : child.assessment.valid = true
      · simp only [hvalid, if_true, bind_eq_ok, pure_eq_ok, Prod.mk.injEq] at harchive
        obtain ⟨_, -, _, -, -, rfl⟩ := harchive
        exact QDArchive.insertAll_nCentroids
      · simp only [hvalid, Bool.false_eq_true, if_false, pure_eq_ok, Prod.mk.injEq] at harchive
        rw [← harchive.2]

/-- The budget that the reducer is given. -/
def SwarmManager.budgetSnapshot (m : SwarmManager) : BudgetSnapshot where
  maxCostUsd := m.budget.maxCostUsd
  totalAgentSpend := m.budget.totalAgentSpend
  evalBudgetUsd := m.budget.evalBudgetUsd
  evalSpend := m.budget.evalSpend

lemma reduce_reduced {reduced : SwarmManager} (h : m.reduce d outcome = .ok reduced) :
    ∃ decision, nextSwarmState m.state outcome m.budgetSnapshot m.config d.reducedAt =
      .ok (reduced.state, decision) ∧ reduced = { m with state := reduced.state } := by
  simp only [SwarmManager.reduce, bind_eq_ok, pure_eq_ok, Prod.exists] at h
  obtain ⟨_, -, state, decision, hnext, rfl⟩ := h
  exact ⟨decision, hnext, rfl⟩

/-- What a delivery that passed its checks leaves behind: its outcome is applied, its costs are
recorded, and the state is reduced unless the reducer refuses the outcome. -/
structure Delivers (ribs : CVTArchive) (m : SwarmManager) (d : Delivery) (outcome : SwarmOutcome)
    (agentCost evalCost : ℚ≥0) (charged m' : SwarmManager) : Prop where
  cost : SwarmManager.agentCost d.result = .ok agentCost
  assignment : outcome.assignment = d.assignment
  applied : ∃ applied, charged = applied.recordCosts outcome agentCost evalCost ∧
    (outcome.evaluatedCandidate = none ∧ applied = m ∨
      ∃ child, outcome.evaluatedCandidate = some child ∧ child.snapshot.errors = [] ∧
        AppliesChild ribs m d child outcome applied)
  centroids : charged.archive.nCentroids = m.archive.nCentroids
  described : Described { charged with state := m'.state } m'
  state : m'.state = charged.state ∨ ∃ decision,
    nextSwarmState charged.state outcome charged.budgetSnapshot charged.config d.reducedAt =
      .ok (m'.state, decision)

/-- A delivery leaves the manager as it is, or delivers its result. -/
def LeavesBehind (ribs : CVTArchive) (m : SwarmManager) (d : Delivery) (m' : SwarmManager) : Prop :=
  m' = m ∨ ∃ evaluated outcome agentCost evalCost charged,
    m.evaluate d = .ok (evaluated, evalCost) ∧
      Delivers ribs m d outcome agentCost evalCost charged m'

/-- **What a delivery leaves behind.** -/
theorem onResult_leaves (hplaced : m.archive.WellPlaced ribs) :
    LeavesBehind ribs m d (left (m.onResult ribs d)) := by
  have hsame : LeavesBehind ribs m d m := .inl rfl
  refine left_raising_bind hsame fun agentCost hcost => ?_
  refine left_raising_bind hsame fun evaluation hevaluate => ?_
  obtain ⟨evaluated, evalCost⟩ := evaluation
  have hevaluates := evaluate_evaluates hevaluate
  refine left_raising_bind hsame fun applied hresult => ?_
  obtain ⟨outcome, applied⟩ := applied
  have happlied : outcome.assignment = d.assignment ∧
      (outcome.evaluatedCandidate = none ∧ applied = m ∨
        ∃ child, outcome.evaluatedCandidate = some child ∧ child.snapshot.errors = [] ∧
          AppliesChild ribs m d child outcome applied) := by
    cases hchild : evaluated.child with
    | none =>
      obtain ⟨rfl, rfl⟩ := applyEvaluation_none hchild hresult
      exact ⟨hevaluates.assignment, .inl ⟨rfl, rfl⟩⟩
    | some child =>
      have happlies := applyEvaluation_applies hplaced hevaluates hchild hresult
      have hsnapshot := (hevaluates.child child hchild).1
      refine ⟨by rw [happlies.outcome_eq], .inr ⟨child, by rw [happlies.outcome_eq], ?_, happlies⟩⟩
      exact d.child_valid _ hsnapshot
  have hcentroids : (applied.recordCosts outcome agentCost evalCost).archive.nCentroids =
      m.archive.nCentroids := by
    rw [(recordCosts_fields applied outcome agentCost evalCost).2.1]
    exact applyEvaluation_nCentroids hresult
  have hdelivers : ∀ m', Described { applied.recordCosts outcome agentCost evalCost with
      state := m'.state } m' → (m'.state = (applied.recordCosts outcome agentCost evalCost).state ∨
        ∃ decision, nextSwarmState (applied.recordCosts outcome agentCost evalCost).state outcome
          (applied.recordCosts outcome agentCost evalCost).budgetSnapshot
            (applied.recordCosts outcome agentCost evalCost).config d.reducedAt =
              .ok (m'.state, decision)) → LeavesBehind ribs m d m' :=
    fun m' hdescribed hstate => .inr ⟨evaluated, outcome, agentCost, evalCost, _, hevaluate,
      hcost, happlied.1, ⟨applied, rfl, happlied.2⟩, hcentroids, hdescribed, hstate⟩
  refine left_raising_bind (hdelivers _ (described_refl _) (.inl rfl)) fun reduced hreduce => ?_
  obtain ⟨decision, hnext, heq⟩ := reduce_reduced hreduce
  cases hchild : outcome.evaluatedCandidate with
  | none =>
    refine hdelivers reduced ?_ (.inr ⟨decision, hnext⟩)
    rw [heq]
    exact described_refl _
  | some child =>
    obtain ⟨lineage, notes, hdescribed⟩ : Described reduced
        (left (reduced.describeChild d outcome child)) := describes_describeChild
    have hstate : (left (reduced.describeChild d outcome child)).state = reduced.state := by
      rw [hdescribed]
    refine hdelivers (left (reduced.describeChild d outcome child)) ?_ ?_
    · rw [hstate, ← heq]
      exact ⟨lineage, notes, hdescribed⟩
    · rw [hstate]
      exact .inr ⟨decision, hnext⟩

end Deliveries

/-! ## Registered sources stay registered -/

section Sources

variable {ribs} {m : SwarmManager} {d : Delivery} {outcome : SwarmOutcome}
  {agentCost evalCost : ℚ≥0} {charged m' : SwarmManager}

lemma sourced_register {child : EvaluatedCandidate} {applied : SwarmManager}
    (h : m.Sourced ribs) (hchild : outcome.evaluatedCandidate = some child)
    (hvalid : child.snapshot.errors = []) (happlies : AppliesChild ribs m d child outcome applied) :
    (applied.recordCosts outcome agentCost evalCost).Sourced ribs := by
  have hsnapshotOf := @snapshotOf_recordCosts applied child outcome hchild agentCost evalCost
  have hold : ∀ id, applied.snapshotOf id = m.snapshotOf id := by
    intro id
    rw [happlies.manager]
    rfl
  have hregistered : ∀ id, m.snapshotOf id ≠ none →
      (applied.recordCosts outcome agentCost evalCost).snapshotOf id ≠ none := by
    intro id hid
    rw [hsnapshotOf, hold]
    split_ifs
    · exact Option.some_ne_none _
    · exact hid
  have hself : (applied.recordCosts outcome agentCost evalCost).snapshotOf
      child.snapshot.candidateId ≠ none := by
    rw [hsnapshotOf, if_pos rfl]
    exact Option.some_ne_none _
  have hstate : applied.state = m.state ∧ applied.initialCandidateId = m.initialCandidateId ∧
      applied.candidateSnapshots = m.candidateSnapshots := by
    rw [happlies.manager]
    exact ⟨rfl, rfl, rfl⟩
  simp only [SwarmManager.recordCosts, hchild] at hregistered hself ⊢
  exact {
    valid := fun snapshot hsnapshot => by
      rcases Table.mem_of_mem_upsert hsnapshot with rfl | hmem
      · exact hvalid
      · exact h.valid snapshot (hstate.2.2 ▸ hmem)
    initial := by
      obtain ⟨id, hid, hmem⟩ := h.initial
      exact ⟨id, hstate.2.1.trans hid, hregistered id hmem⟩
    best := fun id hid => hregistered id (h.best id (hstate.1 ▸ hid))
    archived := fun entry hentry => by
      rcases happlies.archives.mem entry hentry with hnew | ⟨hmem, -⟩
      · rw [hnew]
        exact hself
      · exact hregistered _ (h.archived entry hmem)
    placed := happlies.archives.placed
    runId := hstate.1.symm ▸ h.runId }

lemma Delivers.sourced_charged (h : m.Sourced ribs)
    (hdelivers : Delivers ribs m d outcome agentCost evalCost charged m') :
    charged.Sourced ribs ∧ ∀ child, outcome.evaluatedCandidate = some child →
      charged.snapshotOf child.snapshot.candidateId ≠ none := by
  obtain ⟨applied, rfl, ⟨hnone, rfl⟩ | ⟨child, hchild, hvalid, happlies⟩⟩ := hdelivers.applied
  · refine ⟨?_, fun child hchild => ?_⟩
    · simp only [SwarmManager.recordCosts, hnone]
      exact { h with }
    · rw [hnone] at hchild
      cases hchild
  · refine ⟨sourced_register h hchild hvalid happlies, fun child' hchild' => ?_⟩
    obtain rfl := Option.some.inj (hchild.symm.trans hchild')
    rw [snapshotOf_recordCosts hchild, if_pos rfl]
    exact Option.some_ne_none _

/-- **Every result keeps the sources registered**, whether it is applied or refused. -/
theorem sourced_onResult (h : m.Sourced ribs) : (left (m.onResult ribs d)).Sourced ribs := by
  rcases @onResult_leaves ribs m d h.placed with heq | ⟨evaluated, outcome, agentCost, evalCost,
    charged, -, hdelivers⟩
  · rw [heq]
    exact h
  obtain ⟨hcharged, hchild⟩ := hdelivers.sourced_charged h
  generalize left (m.onResult ribs d) = m' at hdelivers
  obtain ⟨lineage, notes, hdescribed⟩ := hdelivers.described
  have hstate : (∀ id ∈ m'.state.bestCandidateId, charged.snapshotOf id ≠ none) ∧
      ¬ Text.Blank m'.state.runId := by
    rcases hdelivers.state with hsame | ⟨decision, hnext⟩
    · rw [hsame]
      exact ⟨hcharged.best, hcharged.runId⟩
    · obtain ⟨_, _, _, _, _, -, -, -, -, -, -, -, -, hcheck, -⟩ := nextSwarmState_eq_ok.mp hnext
      refine ⟨fun id hid => ?_, (SwarmState.check_eq_ok.mp hcheck).runId⟩
      rcases nextSwarmState_best hnext with hsame | ⟨child, hevaluated, -, hbest⟩
      · exact hcharged.best id (hsame ▸ hid)
      · rw [hbest] at hid
        obtain rfl := Option.some.inj hid
        exact hchild child hevaluated
  generalize m'.state = state at hdescribed hstate
  subst hdescribed
  exact { hcharged with best := hstate.1, runId := hstate.2 }

lemma sourced_start {config : SwarmConfig} {runId : String}
    {baseline : Model WorkspaceSnapshot.errors} {count : ℕ} {modelOf : ℕ → String}
    (hstart : SwarmManager.start config runId baseline count modelOf = .ok m) :
    m.Sourced ribs ∧ m.archive.nCentroids = config.nCentroids := by
  simp only [SwarmManager.start, bind_eq_ok, pure_eq_ok] at hstart
  obtain ⟨agents, -, _, -, _, hstate, rfl⟩ := hstart
  refine ⟨?_, rfl⟩
  exact {
    valid := fun snapshot hsnapshot => by
      rw [List.mem_singleton.mp hsnapshot]
      exact baseline.property
    initial := ⟨_, rfl, by simp [SwarmManager.snapshotOf, Table.lookup]⟩
    best := by simp
    archived := by simp
    placed := ⟨List.nodup_nil, by simp⟩
    runId := (SwarmState.check_eq_ok.mp hstate).runId }

end Sources

/-! ## Available assignments -/

section Available

variable {ribs} {m : SwarmManager}

lemma filterMap_snapshotOf {ids : List String} (h : ∀ id ∈ ids, m.snapshotOf id ≠ none) :
    List.Forall₂ (fun id snapshot => m.snapshotOf id = some snapshot) ids
        (ids.filterMap m.snapshotOf) ∧
      (ids.filterMap m.snapshotOf).map (·.candidateId) = ids := by
  induction ids with
  | nil => exact ⟨.nil, rfl⟩
  | cons id rest ih =>
    obtain ⟨snapshot, hsnapshot⟩ := Option.ne_none_iff_exists'.mp (h id List.mem_cons_self)
    obtain ⟨hforall, hmap⟩ := ih fun id' hid' => h id' (List.mem_cons_of_mem _ hid')
    rw [List.filterMap_cons_some hsnapshot]
    refine ⟨.cons hsnapshot hforall, ?_⟩
    rw [List.map_cons, hmap, (SwarmManager.mem_of_snapshotOf hsnapshot).2]

lemma exists_archiveView {archive : QDArchive} (hplaced : archive.WellPlaced ribs)
    (hcells : ∀ measures, ribs.indexOf archive.nCentroids archive.seed measures <
      archive.nCentroids) :
    ∃ entries, archiveView archive = .ok entries ∧ entries.Perm archive.entries := by
  have hperm := List.perm_insertionSort (fun a b : ArchiveEntry => a.cellIndex ≤ b.cellIndex)
    archive.entries
  refine ⟨_, ?_, hperm⟩
  simp only [archiveView, unit_bind_eq_ok, require_eq_ok, pure_eq_ok, and_true]
  refine ⟨(hperm.map _).nodup_iff.mpr hplaced.keyed, fun entry hentry => ?_⟩
  rw [hplaced.placed entry (hperm.mem_iff.mp hentry)]
  exact hcells _

lemma mem_inspirationIds {parentId id : String} {entries : List ArchiveEntry}
    (h : id ∈ inspirationIds parentId entries) :
    id ≠ parentId ∧ ∃ entry ∈ entries, entry.snapshot.candidateId = id := by
  obtain ⟨entry, hentry, rfl⟩ := List.mem_map.mp h
  obtain ⟨htop, hne⟩ := List.mem_filter.mp hentry
  exact ⟨by simpa using hne, entry,
    (List.perm_insertionSort _ entries).mem_iff.mp (List.mem_of_mem_take htop), rfl⟩

/-- The constructor of a selection asks of registered candidates that they are distinct. -/
lemma selection_check_iff {parentId : String} {ids : List String}
    (hparent : ¬ Text.Blank parentId) (hids : ∀ id ∈ ids, ¬ Text.Blank id)
    (hapart : parentId ∉ ids) :
    SelectionPlan.check
        { parentCandidateId := parentId, inspirationCandidateIds := ids
          strategy := .conservative
          goal := "Improve the selected candidate against the configured evaluation batch."
          reasoning := s!"Manager selected exact candidate source {parentId}." } = .ok () ↔
      ids.Nodup := by
  have hgoal : ¬ Text.Blank
      "Improve the selected candidate against the configured evaluation batch." := by decide
  have hreasoning : ¬ Text.Blank s!"Manager selected exact candidate source {parentId}." :=
    Text.not_blank_append_right _ (by decide)
  have htexts : ∃ us, ids.mapM (fun id => requireText id "inspiration_candidate_id") = .ok us :=
    exists_mapM_require_eq_ok.mpr hids
  simp only [SelectionPlan.check, bind_eq_ok, requireText_eq_ok, require_eq_ok, exists_and_right,
    Unique.exists_iff, hparent, hgoal, hreasoning, htexts, hapart, not_false_eq_true, true_and,
    and_true]

/-- **An assignment is available exactly when the best cells belong to distinct candidates**, in
every manager whose sources are registered. -/
theorem assigns_iff (h : m.Sourced ribs)
    (hcells : ∀ measures, ribs.indexOf m.archive.nCentroids m.archive.seed measures <
      m.archive.nCentroids) (agentId : Text.NonEmptyStr) (issuedAt : String) :
    (∃ a, m.assignmentFor agentId.val issuedAt = .ok a ∧ Assigns m agentId.val a) ↔
      DistinctAtTop m := by
  obtain ⟨parentId, hparentId, hregistered⟩ : ∃ id, m.parentId = some id ∧
      m.snapshotOf id ≠ none := by
    rw [SwarmManager.parentId]
    cases hbest : m.state.bestCandidateId with
    | none =>
      obtain ⟨id, hid, hmem⟩ := h.initial
      exact ⟨id, by rw [Option.none_or, hid], hmem⟩
    | some id => exact ⟨id, rfl, h.best id hbest⟩
  obtain ⟨parent, hparent⟩ := Option.ne_none_iff_exists'.mp hregistered
  obtain ⟨entries, hview, hperm⟩ := exists_archiveView h.placed hcells
  have hids : ∀ id ∈ inspirationIds parentId entries, m.snapshotOf id ≠ none := by
    intro id hid
    obtain ⟨-, entry, hentry, rfl⟩ := mem_inspirationIds hid
    exact h.archived entry (hperm.mem_iff.mp hentry)
  have hvalid : ∀ id, m.snapshotOf id ≠ none → ¬ Text.Blank id := by
    intro id hid
    obtain ⟨snapshot, hsnapshot⟩ := Option.ne_none_iff_exists'.mp hid
    obtain ⟨hmem, rfl⟩ := SwarmManager.mem_of_snapshotOf hsnapshot
    exact (WorkspaceSnapshot.errors_eq_nil.mp (h.valid snapshot hmem)).2.2
  have hapart : parentId ∉ inspirationIds parentId entries := fun hmem =>
    (mem_inspirationIds hmem).1 rfl
  obtain ⟨hforall, hmap⟩ := filterMap_snapshotOf hids
  have hunresolved : ((inspirationIds parentId entries).filter fun id =>
      (m.snapshotOf id).isNone) = [] := by
    refine List.filter_eq_nil_iff.mpr fun id hid => ?_
    rw [Option.isNone_iff_eq_none]
    exact hids id hid
  have hdistinct : DistinctAtTop m ↔ (inspirationIds parentId entries).Nodup := by
    constructor
    · intro hd
      exact hd parentId hparentId entries hview
    · rintro hnodup id hid entries' hentries'
      obtain rfl := Option.some.inj (hparentId.symm.trans hid)
      obtain rfl := Except.ok.inj (hview.symm.trans hentries')
      exact hnodup
  have hselect : ∀ selected, m.select = .ok selected ↔
      (inspirationIds parentId entries).Nodup ∧ selected =
        (⟨parentId, inspirationIds parentId entries, .conservative,
            "Improve the selected candidate against the configured evaluation batch.",
            s!"Manager selected exact candidate source {parentId}."⟩,
          parent, (inspirationIds parentId entries).filterMap m.snapshotOf) := by
    intro selected
    have hcheck := selection_check_iff (hvalid parentId hregistered)
      (fun id hid => hvalid id (hids id hid)) hapart
    simp only [SwarmManager.select, hparentId, Option.elim_some, bind_eq_ok, Except.ok.injEq,
      exists_eq_left', hparent, hview, hunresolved, require_eq_ok, exists_const, hmap, pure_eq_ok,
      hcheck, true_and]
    exact and_congr_right fun _ => eq_comm
  rw [hdistinct]
  constructor
  · rintro ⟨a, ha, -⟩
    simp only [SwarmManager.assignmentFor, bind_eq_ok, Prod.exists] at ha
    obtain ⟨selection, parent', inspirations, hselected, -⟩ := ha
    exact ((hselect _).mp hselected).1
  · intro hnodup
    have hassignmentId : ¬ Text.Blank (SwarmManager.defaultAssignmentId agentId.val
        ((m.agentCycles agentId.val).getD 0 + 1)) :=
      Text.not_blank_append _ (Text.not_blank_append_right _ (by decide))
    have hparentKey := (SwarmManager.mem_of_snapshotOf hparent).2
    have hothers : ∀ snapshot ∈ (inspirationIds parentId entries).filterMap m.snapshotOf,
        snapshot.candidateId ≠ parent.candidateId := by
      intro snapshot hsnapshot heq
      have hmem := List.mem_map_of_mem (f := (·.candidateId)) hsnapshot
      rw [hmap, heq, hparentKey] at hmem
      exact hapart hmem
    have hassign : m.assignmentFor agentId.val issuedAt = .ok
        { runId := m.state.runId
          assignmentId := SwarmManager.defaultAssignmentId agentId.val
            ((m.agentCycles agentId.val).getD 0 + 1)
          agentId := agentId.val
          selection :=
            { parentCandidateId := parentId
              inspirationCandidateIds := inspirationIds parentId entries
              strategy := .conservative
              goal := "Improve the selected candidate against the configured evaluation batch."
              reasoning := s!"Manager selected exact candidate source {parentId}." }
          parent
          inspirations := (inspirationIds parentId entries).filterMap m.snapshotOf
          maxCostUsd := m.allowance
          issuedAt } := by
      simp only [SwarmManager.assignmentFor, bind_eq_ok, Prod.exists, pure_eq_ok]
      refine ⟨_, _, _, (hselect _).mpr ⟨hnodup, rfl⟩, (), ?_, rfl⟩
      simp only [SwarmAssignment.check, unit_bind_eq_ok, requireText_eq_ok, require_eq_ok]
      exact ⟨h.runId, hassignmentId, agentId.not_blank, hparentKey, hmap⟩
    exact ⟨_, hassign, {
      agent := rfl
      parent := hparent
      inspirations := hforall
      distinct := hmap.symm ▸ hnodup
      apart := hothers }⟩

end Available

/-! ## Whole runs -/

section Run

variable {ribs} {config : SwarmConfig} {runId : String} {baseline : Model WorkspaceSnapshot.errors}
  {count : ℕ} {modelOf : ℕ → String} {m : SwarmManager}

lemma onResult_nCentroids {d : Delivery} (h : m.archive.WellPlaced ribs) :
    (left (m.onResult ribs d)).archive.nCentroids = m.archive.nCentroids := by
  rcases @onResult_leaves ribs m d h with heq | ⟨_, _, _, _, charged, -, hdelivers⟩
  · rw [heq]
  · obtain ⟨lineage, notes, hdescribed⟩ := hdelivers.described
    rw [hdescribed]
    exact hdelivers.centroids

/-- Along every run the sources stay registered, and the partition of the archive is fixed. -/
lemma sourced_run {p : Pool} (h : p.manager.Sourced ribs) (events : List PoolEvent) :
    (((poolMachine ribs).run p events).manager.Sourced ribs) ∧
      ((poolMachine ribs).run p events).manager.archive.nCentroids =
        p.manager.archive.nCentroids := by
  refine Machine.run_preserves_of_forall (I := fun q : Pool => q.manager.Sourced ribs ∧
    q.manager.archive.nCentroids = p.manager.archive.nCentroids) (C := fun _ => True)
    (fun q e hq _ => ?_) ⟨h, rfl⟩ fun _ _ => trivial
  obtain ⟨hq, hn⟩ := hq
  cases e with
  | nextAssignment agentId issuedAt => exact ⟨{ hq with }, hn⟩
  | result d => exact ⟨sourced_onResult hq, (onResult_nCentroids hq.placed).trans hn⟩
  | agentError agentId => exact ⟨hq, hn⟩

end Run

/-! ## A candidate in two cells -/

namespace Doubled

/-- Four cells to one unit of reward; a higher reward takes a cell. -/
def quarterCells : CVTArchive :=
  { Displaced.oneCell with
    indexOf := fun n _ measures => (measures.getD 5 0 * 4).floor.toNat % n }

def config : SwarmConfig := { maxCostUsd := 10, evalBudgetUsd := 10, batchSize := 2 }

/-- The rewards of a candidate in its two trials: the second child is better than the first. -/
def rewardsOf (candidateId : String) : ℚ × ℚ :=
  if candidateId = "child-2" then (6 / 10, 9 / 10) else (1 / 10, 3 / 10)

def trial (candidateId taskId : String) (reward : ℚ) : TrialRecord where
  trialId := taskId ++ " of " ++ candidateId
  runId := "run-1"
  taskId
  executionStatus := .completed
  evaluationStatus := .completed
  evaluation := some ⟨reward, ⟨true, true, true, []⟩⟩
  cost := some { estimatedCostUsd := some 0 }

def checks : CandidateChecks where
  plan _ _ := .ok
    { taskIds := ["ocean/wave", "ocean/tide"]
      trials := [{ trialId := "planned-1", taskId := "ocean/wave" },
        { trialId := "planned-2", taskId := "ocean/tide" }]
      evaluationCaseIds := ["case-1", "case-2"] }
  run snapshot _ := .ok
    [trial snapshot.candidateId "ocean/wave" (rewardsOf snapshot.candidateId).1,
      trial snapshot.candidateId "ocean/tide" (rewardsOf snapshot.candidateId).2]

/-- Both children, one after the other, each from the assignment that the agent was given. -/
def events : List PoolEvent :=
  [.nextAssignment "agent-0" "2026-04-07T10:00:00+00:00",
    .result { Displaced.firstResult with checks },
    .nextAssignment "agent-0" "2026-04-07T10:00:00+00:00",
    .result { Displaced.secondResult with checks }]

/-- A fresh run of one agent. -/
def start : Except String SwarmManager :=
  SwarmManager.start config "run-1" ⟨Displaced.snapshot "baseline", Displaced.baseline_valid⟩ 1 fun _ => "model"

/-- The event delivers the result of an outstanding assignment. -/
def Delivered (p : Pool) : PoolEvent → Prop
  | .result d => d.assignment ∈ p.outstanding
  | _ => True

instance (p : Pool) : ∀ e, Decidable (Delivered p e)
  | .result d => inferInstanceAs (Decidable (d.assignment ∈ p.outstanding))
  | .nextAssignment _ _ => isTrue trivial
  | .agentError _ => isTrue trivial

lemma exists_start : ∃ m, start = .ok m := by
  have hstart : start.toOption.isSome = true := by decide +kernel
  cases h : start with
  | ok m => exact ⟨m, rfl⟩
  | error e => rw [h] at hstart; cases hstart

lemma indexOf_lt (n seed : ℕ) (measures : List ℚ) (hn : 0 < n) :
    quarterCells.indexOf n seed measures < n := Nat.mod_lt _ hn

end Doubled

end AecBench.Evolution.Swarm
