import AecBench.Evolution.Swarm.Manager

/-!
# Resuming a swarm

The manager saves its state in one file for each store; the loader reads them back and checks
that every candidate the stores name has its exact material among the registered candidates,
and that the best candidate is in the archive. The manager replaces the occupant of an archive
cell by reward and the best candidate by its gate score, so that it can save a state whose best
candidate is no longer archived.

## Main definitions

* `SwarmManager.saveState`, `loadResumedState` — the files and the loader.
* `SwarmManager.Consistent` — what the loader checks, and what the stores rely on.
* `SwarmManager.Resumes` — the saved files load and give the manager's state back.

## Main results

* `resumes_iff` — when a consistent state can be resumed.
* `bestArchived_of_resumes` — no state can be resumed whose best candidate is not archived.
-/

namespace AecBench.Evolution.Swarm

open Validation

variable (ribs : CVTArchive)

/-! ## The files -/

structure CandidatesFile where
  initialCandidateId : Option String
  snapshots : List WorkspaceSnapshot

/-- The files of a saved state. -/
structure StateDir where
  archive : QDArchive.File
  graveyard : List IndexedEntry
  lineage : List LineageTracker.FileItem
  notes : List SwarmNote
  candidates : CandidatesFile
  budget : BudgetLedger.File
  swarmState : SwarmState

/-- `_save_state`. -/
def SwarmManager.saveState (m : SwarmManager) : StateDir where
  archive := m.archive.save
  graveyard := SharedGraveyard.save m.graveyard
  lineage := m.lineage.save
  notes := NoteStore.save m.notes
  candidates := { initialCandidateId := m.initialCandidateId, snapshots := m.candidateSnapshots }
  budget := m.budget.save
  swarmState := m.state

structure ResumedState where
  swarm : SwarmState
  archive : QDArchive
  graveyard : SharedGraveyard
  lineage : LineageTracker
  notes : NoteStore
  budget : BudgetLedger
  candidates : List WorkspaceSnapshot
  initialCandidateId : String

/-- What the loader raises: a text, and the report of the validation that caused it. -/
structure ResumeError where
  message : String
  cause : Errors := []

/-- Report a failed validation. -/
def causedBy {α : Type} (message : String) (x : Except Errors α) : Except ResumeError α :=
  x.mapError (⟨message, ·⟩)

/-- Report a failed constructor. -/
def explained {α : Type} (message : String) (x : Except String α) : Except ResumeError α :=
  x.mapError fun text => { message := s!"{message}: {text}" }

/-- `_load_swarm_state`. -/
def loadSwarmState (payload : SwarmState) : Except ResumeError SwarmState := do
  let message := "cannot resume swarm: invalid explicit state in swarm_state.json"
  let agentStates ← causedBy message (validateEach SwarmAgentState.errors payload.agentStates)
  explained message payload.pivotState.check
  let state := { payload with agentStates }
  explained message state.check
  return state

/-- The loop that registers the snapshots of the file. -/
def registerSnapshots : List WorkspaceSnapshot → List WorkspaceSnapshot →
    Except ResumeError (List WorkspaceSnapshot)
  | [], candidates => .ok candidates
  | item :: rest, candidates => do
    let message := "cannot resume swarm: invalid candidate material in candidates.json"
    let snapshot ← causedBy message (validate WorkspaceSnapshot.errors item)
    require (snapshot.val.candidateId ∉ candidates.map (·.candidateId))
      { message := s!"{message}: duplicate candidate material for '{snapshot.val.candidateId}'" }
    registerSnapshots rest (candidates ++ [snapshot.val])

/-- `_load_candidates`. -/
def loadCandidates (payload : CandidatesFile) :
    Except ResumeError (List WorkspaceSnapshot × String) := do
  let initialCandidateId ← payload.initialCandidateId.elim
    (.error { message := "cannot resume swarm: candidates.json must contain initial_candidate_id" })
    fun id => do
      require (¬ Text.Blank id)
        { message := "cannot resume swarm: candidates.json must contain initial_candidate_id" }
      return id
  let candidates ← registerSnapshots payload.snapshots []
  require (initialCandidateId ∈ candidates.map (·.candidateId))
    { message := s!"cannot resume swarm: initial candidate '{initialCandidateId}' has no exact material" }
  return (candidates, initialCandidateId)

/-- The material registered for a candidate. -/
def materialOf (candidates : List WorkspaceSnapshot) (id : String) : Option WorkspaceSnapshot :=
  Table.lookup WorkspaceSnapshot.candidateId id candidates

/-- The candidates that the saved state names. -/
def requiredCandidates (state : SwarmState) (archive : QDArchive) (graveyard : SharedGraveyard)
    (lineage : LineageTracker) : List String :=
  state.bestCandidateId.toList ++ archive.entries.map (·.snapshot.candidateId) ++
    graveyard.items.map (·.entry.candidateId) ++
    lineage.records.flatMap fun r => r.entryCandidateId :: r.parentCandidateId.toList

/-- `_validate_material`. -/
def validateMaterial (state : SwarmState) (archive : QDArchive) (graveyard : SharedGraveyard)
    (lineage : LineageTracker) (candidates : List WorkspaceSnapshot) :
    Except ResumeError Unit := do
  let _ ← archive.entries.mapM fun entry =>
    require (materialOf candidates entry.snapshot.candidateId = some entry.snapshot)
      ({ message := s!"cannot resume swarm: archive candidate '{entry.snapshot.candidateId}' has no exact material" } : ResumeError)
  let _ ← graveyard.items.reverse.mapM fun item =>
    require (item.entry.rejectedSnapshot = none ∨
        materialOf candidates item.entry.candidateId = item.entry.rejectedSnapshot)
      ({ message := s!"cannot resume swarm: graveyard candidate '{item.entry.candidateId}' has no exact material" } : ResumeError)
  let missing := (requiredCandidates state archive graveyard lineage).filter
    (· ∉ candidates.map (·.candidateId))
  require (missing = [])
    { message := s!"cannot resume swarm: candidate material is missing for {missing}" }
  let best := state.bestCandidateId.getD ""
  require (∀ id ∈ state.bestCandidateId, (archive.getEntryByCandidateId id).isSome)
    { message := s!"cannot resume swarm: best candidate '{best}' is not archived" }

def loadResumedState (dir : StateDir) : Except ResumeError ResumedState := do
  let swarm ← loadSwarmState dir.swarmState
  let (candidates, initialCandidateId) ← loadCandidates dir.candidates
  let supporting := "cannot resume swarm: invalid supporting state"
  let archive ← causedBy supporting (QDArchive.load ribs dir.archive)
  let graveyard ← causedBy supporting (SharedGraveyard.load dir.graveyard)
  let lineage ← causedBy supporting (LineageTracker.load dir.lineage)
  let notes ← causedBy supporting (NoteStore.load dir.notes)
  let budget := BudgetLedger.load dir.budget
  validateMaterial swarm archive graveyard lineage candidates
  return { swarm, archive, graveyard, lineage, notes, budget, candidates, initialCandidateId }

/-! ## Consistent managers -/

/-- What holds of a manager whatever results it has applied, as long as the material of no
candidate is replaced under an archive or graveyard entry. -/
structure SwarmManager.Consistent (m : SwarmManager) : Prop where
  keyed : Table.Keyed WorkspaceSnapshot.candidateId m.candidateSnapshots
  snapshots : ∀ snapshot ∈ m.candidateSnapshots, snapshot.errors = []
  initial : ∃ id, m.initialCandidateId = some id ∧ m.snapshotOf id ≠ none
  placed : m.archive.WellPlaced ribs
  archived : ∀ entry ∈ m.archive.entries,
    m.snapshotOf entry.snapshot.candidateId = some entry.snapshot
  buried : ∀ item ∈ m.graveyard.items, ∃ snapshot,
    item.entry.rejectedSnapshot = some snapshot ∧
      m.snapshotOf item.entry.candidateId = some snapshot
  graveyard : ∀ item ∈ m.graveyard.items, SharedGraveyard.entryErrors item = []
  lineage : m.lineage.Consistent
  recorded : ∀ r ∈ m.lineage.records, ∀ id ∈ r.entryCandidateId :: r.parentCandidateId.toList,
    m.snapshotOf id ≠ none
  notes : ∀ note ∈ m.notes.items, note.errors = []
  spend : Table.Keyed Prod.fst m.budget.agentSpend
  state : m.state.WellFormed

/-- The best candidate is in the archive. -/
def SwarmManager.BestArchived (m : SwarmManager) : Prop :=
  ∀ id ∈ m.state.bestCandidateId, ∃ entry ∈ m.archive.entries, entry.snapshot.candidateId = id

/-- What the loader builds from the files of a manager. -/
def SwarmManager.resumed (m : SwarmManager) (initialCandidateId : String) : ResumedState where
  swarm := m.state
  archive := m.archive
  graveyard := m.graveyard
  lineage := m.lineage
  notes := m.notes
  budget := m.budget
  candidates := m.candidateSnapshots
  initialCandidateId := initialCandidateId

/-- The saved state of a manager is accepted and gives the manager's state back. -/
def SwarmManager.Resumes (m : SwarmManager) : Prop :=
  ∃ id, m.initialCandidateId = some id ∧
    loadResumedState ribs m.saveState = .ok (m.resumed id)

section Load

variable {ribs} {m : SwarmManager}

@[simp] lemma causedBy_eq_ok {α : Type} {message : String} {x : Except Errors α} {a : α} :
    causedBy message x = .ok a ↔ x = .ok a := by
  cases x <;> simp [causedBy, Except.mapError]

@[simp] lemma explained_eq_ok {α : Type} {message : String} {x : Except String α} {a : α} :
    explained message x = .ok a ↔ x = .ok a := by
  cases x <;> simp [explained, Except.mapError]

lemma SwarmManager.snapshotOf_ne_none {id : String} :
    m.snapshotOf id ≠ none ↔ id ∈ m.candidateSnapshots.map (·.candidateId) := by
  rw [snapshotOf, Ne, Table.lookup_eq_none_iff, List.mem_map]
  simp

lemma SwarmManager.mem_of_snapshotOf {id : String} {snapshot : WorkspaceSnapshot}
    (h : m.snapshotOf id = some snapshot) :
    snapshot ∈ m.candidateSnapshots ∧ snapshot.candidateId = id :=
  Table.mem_of_lookup h

lemma loadSwarmState_save (h : m.state.WellFormed) : loadSwarmState m.state = .ok m.state := by
  simp only [loadSwarmState, bind_eq_ok, causedBy_eq_ok, explained_eq_ok, validateEach_eq_ok,
    Unique.exists_iff, PUnit.default_eq_unit, pure_eq_ok]
  exact ⟨m.state.agentStates, ⟨rfl, h.agents⟩, h.pivots, SwarmState.check_eq_ok.mpr h.valid, rfl⟩

lemma registerSnapshots_eq {rest : List WorkspaceSnapshot} (candidates : List WorkspaceSnapshot)
    (hkeyed : Table.Keyed WorkspaceSnapshot.candidateId (candidates ++ rest))
    (hvalid : ∀ snapshot ∈ rest, snapshot.errors = []) :
    registerSnapshots rest candidates = .ok (candidates ++ rest) := by
  induction rest generalizing candidates with
  | nil => simp [registerSnapshots]
  | cons snapshot rest ih =>
    have hvalidate : validate WorkspaceSnapshot.errors snapshot =
        .ok ⟨snapshot, hvalid snapshot List.mem_cons_self⟩ := validate_eq_ok.mpr rfl
    have hfresh : snapshot.candidateId ∉ candidates.map (·.candidateId) := by
      intro hmem
      rw [Table.Keyed, List.map_append, List.nodup_append] at hkeyed
      exact hkeyed.2.2 _ hmem _ List.mem_cons_self rfl
    have hrest := ih (candidates ++ [snapshot]) (by simpa using hkeyed)
      fun s hs => hvalid s (List.mem_cons_of_mem _ hs)
    simp only [registerSnapshots, bind_eq_ok, causedBy_eq_ok, require_eq_ok, Unique.exists_iff]
    refine ⟨_, hvalidate, hfresh, ?_⟩
    rw [hrest, List.append_assoc]
    rfl

lemma loadCandidates_save (h : m.Consistent ribs) {id : String}
    (hid : m.initialCandidateId = some id) :
    loadCandidates m.saveState.candidates = .ok (m.candidateSnapshots, id) := by
  have hregistered : m.snapshotOf id ≠ none := by
    obtain ⟨id', hid', hregistered⟩ := h.initial
    rw [hid, Option.some.injEq] at hid'
    exact hid' ▸ hregistered
  obtain ⟨snapshot, hsnapshot⟩ := Option.ne_none_iff_exists'.mp hregistered
  obtain ⟨hmem, heq⟩ := SwarmManager.mem_of_snapshotOf hsnapshot
  have hblank : ¬ Text.Blank id :=
    heq ▸ (WorkspaceSnapshot.errors_eq_nil.mp (h.snapshots _ hmem)).2.2
  have hregister := registerSnapshots_eq [] (by simpa using h.keyed) h.snapshots
  simp only [SwarmManager.saveState, loadCandidates, hid, Option.elim_some, bind_eq_ok,
    require_eq_ok, Unique.exists_iff, pure_eq_ok, List.nil_append] at hregister ⊢
  exact ⟨id, ⟨hblank, rfl⟩, m.candidateSnapshots, hregister,
    SwarmManager.snapshotOf_ne_none.mp hregistered, rfl⟩

lemma validateMaterial_eq_ok (h : m.Consistent ribs) :
    validateMaterial m.state m.archive m.graveyard m.lineage m.candidateSnapshots = .ok () ↔
      m.BestArchived := by
  have harchived : ∀ entry ∈ m.archive.entries,
      materialOf m.candidateSnapshots entry.snapshot.candidateId = some entry.snapshot :=
    h.archived
  have hburied : ∀ item ∈ m.graveyard.items.reverse, item.entry.rejectedSnapshot = none ∨
      materialOf m.candidateSnapshots item.entry.candidateId = item.entry.rejectedSnapshot := by
    intro item hitem
    obtain ⟨snapshot, hrejected, hsnapshot⟩ := h.buried item (List.mem_reverse.mp hitem)
    rw [hrejected]
    exact .inr hsnapshot
  have hbest : (∀ id ∈ m.state.bestCandidateId, (m.archive.getEntryByCandidateId id).isSome) ↔
      m.BestArchived := by
    simp [SwarmManager.BestArchived, QDArchive.getEntryByCandidateId]
  have hrequired : m.BestArchived →
      (requiredCandidates m.state m.archive m.graveyard m.lineage).filter
        (· ∉ m.candidateSnapshots.map (·.candidateId)) = [] := by
    intro hba
    rw [List.filter_eq_nil_iff]
    intro id hid
    rw [decide_eq_true_iff, not_not, ← SwarmManager.snapshotOf_ne_none]
    simp only [requiredCandidates, List.mem_append, Option.mem_toList, List.mem_map,
      List.mem_flatMap] at hid
    rcases hid with ((hid | ⟨entry, hentry, rfl⟩) | ⟨item, hitem, rfl⟩) | ⟨r, hr, hid⟩
    · obtain ⟨entry, hentry, rfl⟩ := hba id hid
      rw [h.archived entry hentry]
      exact Option.some_ne_none _
    · rw [h.archived entry hentry]
      exact Option.some_ne_none _
    · obtain ⟨snapshot, -, hsnapshot⟩ := h.buried item hitem
      rw [hsnapshot]
      exact Option.some_ne_none _
    · exact h.recorded r hr id hid
  simp only [validateMaterial, bind_eq_ok, exists_and_right, exists_mapM_require_eq_ok,
    require_eq_ok, exists_const, hbest]
  constructor
  · rintro ⟨-, -, -, hba⟩
    exact hba
  · intro hba
    exact ⟨harchived, hburied, hrequired hba, hba⟩

/-- **A consistent state can be resumed** exactly when its best candidate is archived and its
budget has the default thresholds. -/
theorem resumes_iff (h : m.Consistent ribs) :
    m.Resumes ribs ↔ m.BestArchived ∧ m.budget.DefaultThresholds := by
  obtain ⟨id, hid, -⟩ := h.initial
  have hstate := loadSwarmState_save h.state
  have hcandidates := loadCandidates_save h hid
  have harchive : QDArchive.load ribs m.archive.save = .ok m.archive := by
    refine QDArchive.load_save h.placed fun entry hentry => ?_
    exact h.snapshots _ (SwarmManager.mem_of_snapshotOf (h.archived entry hentry)).1
  have hgraveyard := SharedGraveyard.load_save h.graveyard
  have hlineage := LineageTracker.load_save h.lineage
  have hnotes := NoteStore.load_save h.notes
  have hload : ∀ resumed, loadResumedState ribs m.saveState = .ok resumed ↔
      m.BestArchived ∧ { m.resumed id with budget := BudgetLedger.load m.budget.save } = resumed := by
    intro resumed
    simp only [loadResumedState, bind_eq_ok, causedBy_eq_ok, pure_eq_ok, Prod.exists,
      Unique.exists_iff, PUnit.default_eq_unit]
    constructor
    · rintro ⟨swarm, hswarm, candidates, initial, hcands, archive, harch, graveyard, hgrave,
        lineage, hline, notes, hnote, hmaterial, rfl⟩
      obtain rfl := Except.ok.inj (hstate.symm.trans hswarm)
      obtain ⟨rfl, rfl⟩ := Prod.mk.inj (Except.ok.inj (hcandidates.symm.trans hcands))
      obtain rfl := Except.ok.inj (harchive.symm.trans harch)
      obtain rfl := Except.ok.inj (hgraveyard.symm.trans hgrave)
      obtain rfl := Except.ok.inj (hlineage.symm.trans hline)
      obtain rfl := Except.ok.inj (hnotes.symm.trans hnote)
      exact ⟨(validateMaterial_eq_ok h).mp hmaterial, rfl⟩
    · rintro ⟨hba, rfl⟩
      exact ⟨_, hstate, _, _, hcandidates, _, harchive, _, hgraveyard, _, hlineage, _, hnotes,
        (validateMaterial_eq_ok h).mpr hba, rfl⟩
  rw [← BudgetLedger.load_save h.spend]
  constructor
  · rintro ⟨id', hid', hresumed⟩
    obtain ⟨hba, hsame⟩ := (hload _).mp hresumed
    exact ⟨hba, congrArg ResumedState.budget hsame⟩
  · rintro ⟨hba, hbudget⟩
    refine ⟨id, hid, (hload _).mpr ⟨hba, ?_⟩⟩
    rw [hbudget]
    rfl

lemma bestArchived_of_resumes (h : m.Resumes ribs) : m.BestArchived := by
  obtain ⟨id, -, hload⟩ := h
  simp only [loadResumedState, bind_eq_ok, causedBy_eq_ok, pure_eq_ok, Prod.exists,
    Unique.exists_iff, PUnit.default_eq_unit] at hload
  obtain ⟨swarm, -, candidates, initial, -, archive, -, graveyard, -, lineage, -, notes, -,
    hmaterial, heq⟩ := hload
  obtain ⟨rfl, rfl, -⟩ := ResumedState.mk.inj heq
  simp only [validateMaterial, bind_eq_ok, exists_and_right, require_eq_ok,
    exists_const] at hmaterial
  simpa [SwarmManager.BestArchived, QDArchive.getEntryByCandidateId] using hmaterial.2.2.2

end Load

end AecBench.Evolution.Swarm
