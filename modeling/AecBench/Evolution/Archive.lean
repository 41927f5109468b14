import AecBench.Evolution.Core
import AecBench.Lib.Table

/-!
# The quality-diversity archive

The archive keeps, for each cell of behaviour space, the candidate with the highest reward seen
there.

## Main definitions

* `CVTArchive` — the third-party archive: the cell of a descriptor and the outcome of adding an
  objective to a cell.
* `QDArchive`, `QDArchive.insert` — the archive and the insertion of one descriptor.
* `QDArchive.insertAll` — the insertion of the descriptors of one candidate.
* `QDArchive.Takes` — the descriptors of a candidate that take a cell from its occupant.
* `QDArchive.save`, `QDArchive.load` — the archive file.

## Main results

* `QDArchive.mem_insertAll`, `QDArchive.mem_insertAll_of_not_takes` — the entries after an
  insertion are those of the candidate and the old ones it does not displace.
* `QDArchive.load_save` — loading a saved archive gives it back.
-/

namespace AecBench.Evolution

open Validation

inductive ArchiveInsertionStatus
  | notAdded
  | improved
  | newCell
  deriving DecidableEq

/-- The third-party archive over the ranges of the descriptor: cells are found by a fixed
partition that the number of centroids and the seed determine, and the outcome of an addition
depends on the objective that occupies the cell. -/
structure CVTArchive where
  /-- The cell of a measure vector among `n` centroids drawn from a seed. -/
  indexOf : ℕ → ℕ → List ℚ → ℕ
  /-- The status of adding an objective to a cell with the given occupant. -/
  addStatus : Option ℚ → ℚ → ArchiveInsertionStatus
  /-- An empty cell takes any objective. -/
  addStatus_none : ∀ objective, addStatus none objective = .newCell

structure ArchiveEntry where
  snapshot : WorkspaceSnapshot
  bd : BehaviourDescriptor
  cellIndex : ℕ
  taskIds : List String := []
  discipline : String := ""
  runId : String := ""
  deriving Inhabited

structure ArchiveInsertionResult where
  status : ArchiveInsertionStatus
  candidateId : String
  cellIndex : ℕ
  displacedCandidateId : Option String

/-- Whether an insertion occupied or improved a cell. -/
def ArchiveInsertionResult.added (result : ArchiveInsertionResult) : Bool :=
  result.status ≠ .notAdded

lemma ArchiveInsertionResult.added_iff {result : ArchiveInsertionResult} :
    result.added = true ↔ result.status ≠ .notAdded :=
  decide_eq_true_iff

/-- The ranges of the descriptor's dimensions. -/
def bdRanges : List (ℚ × ℚ) := [(0, 500000), (0, 1), (0, 2), (0, 1), (0, 1), (0, 1)]

/-- `_bd_to_array`: the measures, clipped to their ranges. -/
def bdToArray (bd : BehaviourDescriptor) : List ℚ :=
  [bd.tokenCost, bd.verificationDepth, bd.toolDensity, bd.explorationRatio, bd.deliberationRatio,
    bd.reward].zipWith (fun value range => min (max value range.1) range.2) bdRanges

structure QDArchive where
  nCentroids : ℕ
  seed : ℕ := 42
  /-- The occupied cells, in the order in which they were first occupied. -/
  entries : List ArchiveEntry := []

namespace QDArchive

variable (ribs : CVTArchive)

/-- The cell of a descriptor. -/
def cellOf (archive : QDArchive) (bd : BehaviourDescriptor) : ℕ :=
  ribs.indexOf archive.nCentroids archive.seed (bdToArray bd)

/-- The entry in the cell of a descriptor. -/
def occupant (archive : QDArchive) (bd : BehaviourDescriptor) : Option ArchiveEntry :=
  Table.lookup ArchiveEntry.cellIndex (archive.cellOf ribs bd) archive.entries

/-- Add a snapshot under one descriptor. -/
def insert (archive : QDArchive) (bd : BehaviourDescriptor) (snapshot : WorkspaceSnapshot)
    (taskIds : List String) (discipline runId : String) : ArchiveInsertionResult × QDArchive :=
  let cellIndex := archive.cellOf ribs bd
  let previous := archive.occupant ribs bd
  let status := ribs.addStatus (previous.map (·.bd.reward)) bd.reward
  let entry : ArchiveEntry := { snapshot, bd, cellIndex, taskIds, discipline, runId }
  let displaced := if status = .improved then previous.map (·.snapshot.candidateId) else none
  (⟨status, snapshot.candidateId, cellIndex, displaced⟩,
    if status = .notAdded then archive
    else { archive with entries := Table.upsert ArchiveEntry.cellIndex entry archive.entries })

/-- Add a snapshot under each of its descriptors, in the order of its observations. -/
def insertAll (snapshot : WorkspaceSnapshot) (runId : String) :
    List (BehaviourDescriptor × EvolutionObservation) → QDArchive →
      List ArchiveInsertionResult × QDArchive
  | [], archive => ([], archive)
  | (bd, obs) :: rest, archive =>
    let (result, archive) :=
      archive.insert ribs bd snapshot [obs.trial.taskId] obs.discipline runId
    let (results, archive) := insertAll snapshot runId rest archive
    (result :: results, archive)

def getEntryByCandidateId (archive : QDArchive) (candidateId : String) : Option ArchiveEntry :=
  archive.entries.find? fun entry => entry.snapshot.candidateId = candidateId

/-- One of the descriptors improves on the entry in its cell. -/
def Takes (archive : QDArchive) (bds : List BehaviourDescriptor) (entry : ArchiveEntry) : Prop :=
  ∃ bd ∈ bds, archive.cellOf ribs bd = entry.cellIndex ∧
    ribs.addStatus (some entry.bd.reward) bd.reward ≠ .notAdded

instance (archive : QDArchive) (bds : List BehaviourDescriptor) (entry : ArchiveEntry) :
    Decidable (archive.Takes ribs bds entry) :=
  inferInstanceAs (Decidable (∃ bd ∈ bds, _ ∧ _))

/-- One of the descriptors enters an empty cell or improves on the entry in its cell. -/
def Enters (archive : QDArchive) (bds : List BehaviourDescriptor) : Prop :=
  ∃ bd ∈ bds, ribs.addStatus ((archive.occupant ribs bd).map (·.bd.reward)) bd.reward ≠ .notAdded

instance (archive : QDArchive) (bds : List BehaviourDescriptor) :
    Decidable (archive.Enters ribs bds) :=
  inferInstanceAs (Decidable (∃ bd ∈ bds, _))

/-! ## What an insertion does -/

variable {entry : ArchiveEntry}

section Insert

variable {ribs} {archive : QDArchive} {snapshot : WorkspaceSnapshot} {runId : String}
  {rest : List (BehaviourDescriptor × EvolutionObservation)}

@[simp] lemma insert_nCentroids (bd : BehaviourDescriptor) (taskIds : List String)
    (discipline : String) :
    (archive.insert ribs bd snapshot taskIds discipline runId).2.nCentroids =
      archive.nCentroids := by
  simp only [insert]
  split_ifs <;> rfl

@[simp] lemma insert_seed (bd : BehaviourDescriptor) (taskIds : List String)
    (discipline : String) :
    (archive.insert ribs bd snapshot taskIds discipline runId).2.seed = archive.seed := by
  simp only [insert]
  split_ifs <;> rfl

@[simp] lemma insertAll_nCentroids :
    (insertAll ribs snapshot runId rest archive).2.nCentroids = archive.nCentroids := by
  induction rest generalizing archive with
  | nil => rfl
  | cons item rest ih => rw [insertAll, ih, insert_nCentroids]

lemma cellOf_congr {other : QDArchive} (hn : other.nCentroids = archive.nCentroids)
    (hs : other.seed = archive.seed) (bd : BehaviourDescriptor) :
    other.cellOf ribs bd = archive.cellOf ribs bd := by
  rw [cellOf, hn, hs, cellOf]

/-- The occupied cells are distinct, and every entry is in the cell of its descriptor. -/
structure WellPlaced (ribs : CVTArchive) (archive : QDArchive) : Prop where
  keyed : Table.Keyed ArchiveEntry.cellIndex archive.entries
  placed : ∀ entry ∈ archive.entries, entry.cellIndex = archive.cellOf ribs entry.bd

variable {bd : BehaviourDescriptor} {taskIds : List String} {discipline : String}

lemma mem_insert
    (h : entry ∈ (archive.insert ribs bd snapshot taskIds discipline runId).2.entries) :
    entry = { snapshot, bd, cellIndex := archive.cellOf ribs bd, taskIds, discipline, runId } ∨
      entry ∈ archive.entries := by
  simp only [insert] at h
  split_ifs at h with hs
  · exact .inr h
  · exact Table.mem_of_mem_upsert h

variable (h : archive.WellPlaced ribs)
include h

lemma WellPlaced.insert (bd : BehaviourDescriptor) (taskIds : List String) (discipline : String) :
    (archive.insert ribs bd snapshot taskIds discipline runId).2.WellPlaced ribs := by
  constructor
  · simp only [QDArchive.insert]
    split_ifs with hs
    · exact h.keyed
    · exact h.keyed.upsert _
  · intro entry hentry
    rw [cellOf_congr (insert_nCentroids ..) (insert_seed ..)]
    rcases mem_insert hentry with rfl | hentry
    · rfl
    · exact h.placed entry hentry

lemma WellPlaced.insertAll :
    (QDArchive.insertAll ribs snapshot runId rest archive).2.WellPlaced ribs := by
  induction rest generalizing archive with
  | nil => exact h
  | cons item rest ih =>
    exact ih (h.insert ..)

lemma mem_insert_of_not_takes (hentry : entry ∈ archive.entries)
    (ht : ¬ archive.Takes ribs [bd] entry) :
    entry ∈ (archive.insert ribs bd snapshot taskIds discipline runId).2.entries := by
  simp only [QDArchive.insert]
  split_ifs with hs
  · exact hentry
  · refine Table.mem_upsert_of_ne hentry fun hcell => ht ⟨bd, List.mem_singleton_self _, hcell.symm, ?_⟩
    have hlookup : archive.occupant ribs bd = some entry := by
      have hcell' : archive.cellOf ribs bd = entry.cellIndex := hcell.symm
      rw [occupant, hcell']
      exact h.keyed.lookup_of_mem hentry
    rwa [hlookup] at hs

/-- An entry whose cell an insertion takes is gone, unless it is the inserted one. -/
lemma not_takes_of_mem_insert
    (hentry : entry ∈ (archive.insert ribs bd snapshot taskIds discipline runId).2.entries)
    (hne : entry.snapshot ≠ snapshot) :
    entry ∈ archive.entries ∧ ¬ archive.Takes ribs [bd] entry := by
  have hold : entry ∈ archive.entries := by
    rcases mem_insert hentry with rfl | hold
    · exact absurd rfl hne
    · exact hold
  refine ⟨hold, ?_⟩
  rintro ⟨bd', hbd, hcell, hstatus⟩
  obtain rfl := List.mem_singleton.mp hbd
  have hlookup := h.keyed.lookup_of_mem hold
  rw [← hcell] at hlookup
  have hkeyed : Table.Keyed ArchiveEntry.cellIndex
      (archive.insert ribs bd' snapshot taskIds discipline runId).2.entries :=
    (h.insert ..).keyed
  have hmem := hkeyed.lookup_of_mem hentry
  simp only [QDArchive.insert, occupant, hlookup, Option.map_some, if_neg hstatus, Table.lookup_upsert,
    ← hcell, if_true, Option.some.injEq] at hmem
  exact hne (hmem ▸ rfl)

omit h

variable {bds : List BehaviourDescriptor}

lemma takes_cons :
    archive.Takes ribs (bd :: bds) entry ↔
      archive.Takes ribs [bd] entry ∨ archive.Takes ribs bds entry := by
  simp [Takes]

lemma takes_congr {other : QDArchive} (hn : other.nCentroids = archive.nCentroids)
    (hs : other.seed = archive.seed) :
    other.Takes ribs bds entry ↔ archive.Takes ribs bds entry := by
  simp only [Takes, cellOf_congr hn hs]

lemma mem_insertAll_of_not_takes (h : archive.WellPlaced ribs) (hentry : entry ∈ archive.entries)
    (ht : ¬ archive.Takes ribs (rest.map Prod.fst) entry) :
    entry ∈ (insertAll ribs snapshot runId rest archive).2.entries := by
  induction rest generalizing archive with
  | nil => exact hentry
  | cons item rest ih =>
    rw [List.map_cons, takes_cons, not_or] at ht
    rw [insertAll]
    refine ih (h.insert ..) (mem_insert_of_not_takes h hentry ht.1) ?_
    rw [takes_congr (insert_nCentroids ..) (insert_seed ..)]
    exact ht.2

/-- The entries after the insertion of a candidate: its own, and old ones it does not take. -/
lemma mem_insertAll (h : archive.WellPlaced ribs)
    (hentry : entry ∈ (insertAll ribs snapshot runId rest archive).2.entries)
    (hne : entry.snapshot ≠ snapshot) :
    entry ∈ archive.entries ∧ ¬ archive.Takes ribs (rest.map Prod.fst) entry := by
  induction rest generalizing archive with
  | nil => exact ⟨hentry, by simp [Takes]⟩
  | cons item rest ih =>
    obtain ⟨hmem, hrest⟩ := ih (h.insert ..) hentry
    obtain ⟨hold, hfirst⟩ := not_takes_of_mem_insert h hmem hne
    rw [takes_congr (insert_nCentroids ..) (insert_seed ..)] at hrest
    refine ⟨hold, ?_⟩
    rw [List.map_cons, takes_cons, not_or]
    exact ⟨hfirst, hrest⟩

lemma exists_mem_insertAll
    (hadded : (insertAll ribs snapshot runId rest archive).1.any (·.added) = true) :
    ∃ entry ∈ (insertAll ribs snapshot runId rest archive).2.entries,
      entry.snapshot = snapshot := by
  have hkeep : ∀ (items : List (BehaviourDescriptor × EvolutionObservation)) (a : QDArchive),
      (∃ entry ∈ a.entries, entry.snapshot = snapshot) →
        ∃ entry ∈ (insertAll ribs snapshot runId items a).2.entries,
          entry.snapshot = snapshot := by
    intro items
    induction items with
    | nil => exact fun a h => h
    | cons item items ih =>
      rintro a ⟨entry, hentry, hsnap⟩
      rw [insertAll]
      refine ih _ ?_
      simp only [insert]
      split_ifs with hs
      · exact ⟨entry, hentry, hsnap⟩
      · exact ⟨_, Table.mem_upsert_self _ _, rfl⟩
  induction rest generalizing archive with
  | nil => simp [insertAll] at hadded
  | cons item rest ih =>
    rw [insertAll] at hadded ⊢
    rw [List.any_cons, Bool.or_eq_true] at hadded
    rcases hadded with hfirst | hrest
    · refine hkeep rest _ ?_
      rw [ArchiveInsertionResult.added_iff] at hfirst
      simp only [insert] at hfirst
      simp only [insert, if_neg hfirst]
      exact ⟨_, Table.mem_upsert_self _ _, rfl⟩
    · exact ih hrest

lemma insertAll_of_not_added
    (hadded : (insertAll ribs snapshot runId rest archive).1.any (·.added) = false) :
    (insertAll ribs snapshot runId rest archive).2 = archive := by
  induction rest generalizing archive with
  | nil => rfl
  | cons item rest ih =>
    rw [insertAll] at hadded ⊢
    rw [List.any_cons, Bool.or_eq_false_iff] at hadded
    rw [ih hadded.2]
    have hstatus := hadded.1
    rw [← Bool.not_eq_true, ArchiveInsertionResult.added_iff, not_not] at hstatus
    simp only [insert] at hstatus
    simp only [insert, if_pos hstatus]

lemma insertAll_added_iff :
    (insertAll ribs snapshot runId rest archive).1.any (·.added) = true ↔
      archive.Enters ribs (rest.map Prod.fst) := by
  induction rest generalizing archive with
  | nil => simp [insertAll, Enters]
  | cons item rest ih =>
    have hcons : archive.Enters ribs ((item :: rest).map Prod.fst) ↔
        ribs.addStatus ((archive.occupant ribs item.1).map (·.bd.reward)) item.1.reward ≠
            .notAdded ∨ archive.Enters ribs (rest.map Prod.fst) := by
      simp [Enters]
    rw [insertAll, List.any_cons, Bool.or_eq_true, ih, ArchiveInsertionResult.added_iff, hcons]
    simp only [insert]
    by_cases hs : ribs.addStatus ((archive.occupant ribs item.1).map (·.bd.reward))
        item.1.reward = .notAdded
    · rw [if_pos hs]
    · simp [hs]

lemma Takes.enters (h : archive.WellPlaced ribs) (hentry : entry ∈ archive.entries)
    (ht : archive.Takes ribs bds entry) : archive.Enters ribs bds := by
  obtain ⟨bd, hbd, hcell, hstatus⟩ := ht
  refine ⟨bd, hbd, ?_⟩
  rw [occupant, hcell, h.keyed.lookup_of_mem hentry]
  exact hstatus

end Insert

/-! ## The archive file -/

/-- One entry of the archive file. -/
structure FileEntry where
  cellIndex : ℕ
  bd : BehaviourDescriptor
  snapshot : WorkspaceSnapshot
  objective : ℚ
  taskIds : List String
  discipline : String
  runId : String

/-- The archive file. -/
structure File where
  nCentroids : ℕ
  seed : ℕ
  entries : List FileEntry

def save (archive : QDArchive) : File where
  nCentroids := archive.nCentroids
  seed := archive.seed
  entries := archive.entries.map fun entry =>
    { cellIndex := entry.cellIndex, bd := entry.bd, snapshot := entry.snapshot,
      objective := entry.bd.reward, taskIds := entry.taskIds, discipline := entry.discipline,
      runId := entry.runId }

/-- Insert the entries of a file one by one. -/
def loadEntries : List FileEntry → QDArchive → Except Errors QDArchive
  | [], archive => .ok archive
  | entry :: rest, archive => do
    let snapshot ← validate WorkspaceSnapshot.errors entry.snapshot
    loadEntries rest
      (archive.insert ribs entry.bd snapshot.val entry.taskIds entry.discipline entry.runId).2

def load (file : File) : Except Errors QDArchive :=
  loadEntries ribs file.entries { nCentroids := file.nCentroids, seed := file.seed }

variable {ribs}

lemma insert_of_empty (archive : QDArchive)
    (hplaced : entry.cellIndex = archive.cellOf ribs entry.bd)
    (hnone : Table.lookup ArchiveEntry.cellIndex entry.cellIndex archive.entries = none) :
    (archive.insert ribs entry.bd entry.snapshot entry.taskIds entry.discipline entry.runId).2 =
      { archive with entries := archive.entries ++ [entry] } := by
  have hstatus : ribs.addStatus none entry.bd.reward ≠ .notAdded := by
    rw [ribs.addStatus_none]
    decide
  simp only [insert, occupant, ← hplaced, hnone, Option.map_none, if_neg hstatus]
  rw [Table.upsert_of_lookup_eq_none hnone]

/-- **Loading a saved archive gives it back**: its cells are distinct, so that every entry of
the file finds its cell empty. -/
theorem load_save {archive : QDArchive} (h : archive.WellPlaced ribs)
    (hvalid : ∀ entry ∈ archive.entries, entry.snapshot.errors = []) :
    load ribs archive.save = .ok archive := by
  have hrun : ∀ (rest done : List ArchiveEntry),
      Table.Keyed ArchiveEntry.cellIndex (done ++ rest) →
      (∀ entry ∈ rest, entry.cellIndex = archive.cellOf ribs entry.bd ∧
        entry.snapshot.errors = []) →
      loadEntries ribs (({ archive with entries := rest } : QDArchive).save).entries
          { nCentroids := archive.nCentroids, seed := archive.seed, entries := done } =
        .ok { archive with entries := done ++ rest } := by
    intro rest
    induction rest with
    | nil =>
      intro done _ _
      simp [save, loadEntries]
    | cons entry rest ih =>
      intro done hkeyed hall
      have hentry := hall entry List.mem_cons_self
      have hnone : Table.lookup ArchiveEntry.cellIndex entry.cellIndex done = none := by
        rw [Table.lookup_eq_none_iff]
        intro a ha hcell
        rw [Table.Keyed, List.map_append, List.nodup_append] at hkeyed
        exact hkeyed.2.2 _ (List.mem_map_of_mem ha) _
          (List.mem_map_of_mem List.mem_cons_self) hcell
      have hvalidate : validate WorkspaceSnapshot.errors entry.snapshot =
          .ok ⟨entry.snapshot, hentry.2⟩ := validate_eq_ok.mpr rfl
      have hinsert := insert_of_empty
        { nCentroids := archive.nCentroids, seed := archive.seed, entries := done } hentry.1 hnone
      have hstep := ih (done ++ [entry]) (by simpa using hkeyed)
        fun e he => hall e (List.mem_cons_of_mem _ he)
      simp only [save, List.map_cons] at hstep ⊢
      rw [loadEntries, hvalidate]
      simp only [bind, Except.bind]
      rw [hinsert, hstep]
      simp
  have hload := hrun archive.entries [] h.keyed fun entry he =>
    ⟨h.placed entry he, hvalid entry he⟩
  exact hload

end QDArchive

end AecBench.Evolution
