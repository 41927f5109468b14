import AecBench.Evolution.Swarm.Assignments

/-!
# Runs of insertions

What is kept of an archive when candidates are inserted one after the other. The third-party
archive is taken to refuse an objective exactly when it does not exceed the one in its cell.

## Main definitions

* `QDArchive.insertions` — candidates inserted one by one.
* `QDArchive.Improves` — every cell is held at least as well as before.

## Main results

* `QDArchive.insertions_elitist` — the archive keeps the best of every cell.
* `QDArchive.load_insertions` — what was inserted is read back from the archive file.
* `Swarm.swarm_elitist` — no cell is held worse as a swarm goes on.
-/

namespace AecBench.Evolution

open Validation

namespace QDArchive

/-- What is inserted: a candidate, the id of its run, and its observations. -/
abbrev Insertion :=
  WorkspaceSnapshot × String × List (BehaviourDescriptor × EvolutionObservation)

/-- Candidates are inserted one by one. -/
def insertions (ribs : CVTArchive) (archive : QDArchive) (items : List Insertion) : QDArchive :=
  items.foldl (fun archive item => (insertAll ribs item.1 item.2.1 item.2.2 archive).2) archive

/-- A cell holds an entry with at least the given reward. -/
def Holds (archive : QDArchive) (cell : ℕ) (reward : ℚ) : Prop :=
  ∃ entry ∈ archive.entries, entry.cellIndex = cell ∧ reward ≤ entry.bd.reward

/-- What insertions do to an archive: cells stay where they are and are held as well as before. -/
structure Improves (archive later : QDArchive) : Prop where
  nCentroids : later.nCentroids = archive.nCentroids
  seed : later.seed = archive.seed
  holds : ∀ cell reward, archive.Holds cell reward → later.Holds cell reward

variable {ribs : CVTArchive} {archive later last : QDArchive}

lemma Improves.refl : Improves archive archive := ⟨rfl, rfl, fun _ _ h => h⟩

lemma Improves.trans (h : Improves archive later) (h' : Improves later last) :
    Improves archive last :=
  ⟨h'.nCentroids.trans h.nCentroids, h'.seed.trans h.seed,
    fun cell reward hold => h'.holds cell reward (h.holds cell reward hold)⟩

lemma wellPlaced_empty (nCentroids seed : ℕ) : WellPlaced ribs { nCentroids, seed } :=
  ⟨List.nodup_nil, fun _ h => nomatch h⟩

lemma WellPlaced.insertions (h : archive.WellPlaced ribs) (items : List Insertion) :
    (QDArchive.insertions ribs archive items).WellPlaced ribs := by
  induction items generalizing archive with
  | nil => exact h
  | cons item items ih => exact ih h.insertAll

section Elitism

variable (hribs : ∀ old objective, ribs.addStatus (some old) objective = .notAdded ↔ objective ≤ old)
include hribs

lemma improves_insert (h : archive.WellPlaced ribs) (bd : BehaviourDescriptor)
    (snapshot : WorkspaceSnapshot) (taskIds : List String) (discipline runId : String) :
    Improves archive (archive.insert ribs bd snapshot taskIds discipline runId).2 ∧
      (archive.insert ribs bd snapshot taskIds discipline runId).2.Holds (archive.cellOf ribs bd)
        bd.reward := by
  have hoccupant : ∀ entry ∈ archive.entries, entry.cellIndex = archive.cellOf ribs bd →
      archive.occupant ribs bd = some entry := by
    intro entry hentry hcell
    rw [occupant, ← hcell]
    exact h.keyed.lookup_of_mem hentry
  by_cases hs : ribs.addStatus ((archive.occupant ribs bd).map (·.bd.reward)) bd.reward = .notAdded
  · have hsame : (archive.insert ribs bd snapshot taskIds discipline runId).2 = archive := by
      simp only [insert, if_pos hs]
    rw [hsame]
    refine ⟨.refl, ?_⟩
    cases hprevious : archive.occupant ribs bd with
    | none =>
      rw [hprevious, Option.map_none, ribs.addStatus_none] at hs
      cases hs
    | some entry =>
      rw [hprevious, Option.map_some, hribs] at hs
      obtain ⟨hentry, hcell⟩ := Table.mem_of_lookup hprevious
      exact ⟨entry, hentry, hcell, hs⟩
  · have hnew : (archive.insert ribs bd snapshot taskIds discipline runId).2.Holds
        (archive.cellOf ribs bd) bd.reward := by
      simp only [insert, if_neg hs]
      exact ⟨_, Table.mem_upsert_self _ _, rfl, le_rfl⟩
    refine ⟨⟨insert_nCentroids .., insert_seed .., ?_⟩, hnew⟩
    rintro cell reward ⟨entry, hentry, rfl, hreward⟩
    by_cases hcell : entry.cellIndex = archive.cellOf ribs bd
    · rw [hoccupant entry hentry hcell, Option.map_some, hribs, not_le] at hs
      obtain ⟨e, he, hcell', hle⟩ := hnew
      exact ⟨e, he, hcell'.trans hcell.symm, (hreward.trans hs.le).trans hle⟩
    · refine ⟨entry, ?_, rfl, hreward⟩
      simp only [insert, if_neg hs]
      exact Table.mem_upsert_of_ne hentry hcell

lemma improves_insertAll (h : archive.WellPlaced ribs) (snapshot : WorkspaceSnapshot)
    (runId : String) (rest : List (BehaviourDescriptor × EvolutionObservation)) :
    Improves archive (insertAll ribs snapshot runId rest archive).2 ∧
      ∀ item ∈ rest, (insertAll ribs snapshot runId rest archive).2.Holds
        (archive.cellOf ribs item.1) item.1.reward := by
  induction rest generalizing archive with
  | nil => exact ⟨.refl, fun _ h => nomatch h⟩
  | cons item rest ih =>
    obtain ⟨hfirst, hheld⟩ := improves_insert hribs h item.1 snapshot [item.2.trial.taskId]
      item.2.discipline runId
    obtain ⟨hrest, hall⟩ := ih (h.insert item.1 [item.2.trial.taskId] item.2.discipline)
    refine ⟨hfirst.trans hrest, List.forall_mem_cons.mpr ⟨hrest.holds _ _ hheld, ?_⟩⟩
    intro other hother
    rw [← cellOf_congr hfirst.nCentroids hfirst.seed]
    exact hall other hother

lemma improves_insertions (h : archive.WellPlaced ribs) (items : List Insertion) :
    Improves archive (insertions ribs archive items) ∧
      ∀ item ∈ items, ∀ bd ∈ item.2.2.map Prod.fst,
        (insertions ribs archive items).Holds (archive.cellOf ribs bd) bd.reward := by
  induction items generalizing archive with
  | nil => exact ⟨.refl, fun _ h => nomatch h⟩
  | cons item items ih =>
    obtain ⟨hfirst, hheld⟩ := improves_insertAll hribs h item.1 item.2.1 item.2.2
    obtain ⟨hrest, hall⟩ := ih h.insertAll
    refine ⟨hfirst.trans hrest, List.forall_mem_cons.mpr ⟨?_, ?_⟩⟩
    · intro bd hbd
      obtain ⟨pair, hpair, rfl⟩ := List.mem_map.mp hbd
      exact hrest.holds _ _ (hheld pair hpair)
    · intro other hother bd hbd
      rw [← cellOf_congr hfirst.nCentroids hfirst.seed]
      exact hall other hother bd hbd

/-- **The archive keeps the best of every cell**: after any candidates its cells are distinct, no
cell holds less than before, and each cell holds at least what every descriptor in it had. -/
theorem insertions_elitist (h : archive.WellPlaced ribs) (items : List Insertion) :
    (insertions ribs archive items).WellPlaced ribs ∧
      Improves archive (insertions ribs archive items) ∧
        ∀ item ∈ items, ∀ bd ∈ item.2.2.map Prod.fst,
          (insertions ribs archive items).Holds (archive.cellOf ribs bd) bd.reward :=
  ⟨h.insertions items, improves_insertions hribs h items⟩

end Elitism

lemma mem_insertions (h : archive.WellPlaced ribs) {items : List Insertion}
    {entry : ArchiveEntry} (hentry : entry ∈ (insertions ribs archive items).entries) :
    entry ∈ archive.entries ∨ ∃ item ∈ items, item.1 = entry.snapshot := by
  induction items generalizing archive with
  | nil => exact .inl hentry
  | cons item items ih =>
    rcases ih h.insertAll hentry with hmem | ⟨other, hother, heq⟩
    · by_cases hnew : entry.snapshot = item.1
      · exact .inr ⟨item, List.mem_cons_self, hnew.symm⟩
      · exact .inl (mem_insertAll h hmem hnew).1
    · exact .inr ⟨other, List.mem_cons_of_mem _ hother, heq⟩

/-- **The archive of a run is read back from its file**, whatever valid candidates were inserted. -/
theorem load_insertions (nCentroids seed : ℕ) {items : List Insertion}
    (hvalid : ∀ item ∈ items, item.1.errors = []) :
    load ribs (insertions ribs { nCentroids, seed } items).save =
      .ok (insertions ribs { nCentroids, seed } items) := by
  refine load_save ((wellPlaced_empty nCentroids seed).insertions items) fun entry hentry => ?_
  obtain hmem | ⟨item, hitem, heq⟩ := mem_insertions (wellPlaced_empty nCentroids seed) hentry
  · cases hmem
  · rw [← heq]
    exact hvalid item hitem

/-- Two candidates of one cell. -/
def sampleInsertions : List Insertion :=
  [(Swarm.Displaced.snapshot "child-1", "run-1",
      [({ (default : BehaviourDescriptor) with reward := 1 },
        { trial := Swarm.Displaced.trial "child-1", candidateId := "child-1",
          discipline := "ocean" })]),
    (Swarm.Displaced.snapshot "child-2", "run-1",
      [({ (default : BehaviourDescriptor) with reward := 0 },
        { trial := Swarm.Displaced.trial "child-2", candidateId := "child-2",
          discipline := "ocean" })])]

lemma addStatus_oneCell (old objective : ℚ) :
    Swarm.Displaced.oneCell.addStatus (some old) objective = .notAdded ↔ objective ≤ old := by
  simp only [Swarm.Displaced.oneCell]
  split_ifs with h
  · simpa using h
  · simpa using not_lt.mp h

/-- The better of two candidates of one cell. -/
theorem insertions_elitist_oneCell :
    (insertions Swarm.Displaced.oneCell { nCentroids := 1 } sampleInsertions).WellPlaced
        Swarm.Displaced.oneCell ∧
      Improves { nCentroids := 1 }
          (insertions Swarm.Displaced.oneCell { nCentroids := 1 } sampleInsertions) ∧
        ∀ item ∈ sampleInsertions, ∀ bd ∈ item.2.2.map Prod.fst,
          (insertions Swarm.Displaced.oneCell { nCentroids := 1 } sampleInsertions).Holds
            (cellOf Swarm.Displaced.oneCell { nCentroids := 1 } bd) bd.reward :=
  insertions_elitist addStatus_oneCell (wellPlaced_empty 1 42) _

theorem load_insertions_oneCell :
    load Swarm.Displaced.oneCell
        (insertions Swarm.Displaced.oneCell { nCentroids := 1, seed := 42 } sampleInsertions).save =
      .ok (insertions Swarm.Displaced.oneCell { nCentroids := 1, seed := 42 } sampleInsertions) :=
  load_insertions 1 42 (by decide)

end QDArchive

/-! ## Runs of a swarm -/

namespace Swarm

open QDArchive

section Runs

variable {ribs : CVTArchive} {m : SwarmManager} {d : Delivery}

lemma applyEvaluation_insertions {evaluated : SwarmEvaluation} {outcome : SwarmOutcome}
    {applied : SwarmManager} (h : m.applyEvaluation ribs d evaluated = .ok (outcome, applied)) :
    ∃ items, applied.archive = insertions ribs m.archive items := by
  simp only [SwarmManager.applyEvaluation, applySwarmEvaluation, bind_eq_ok, pure_eq_ok,
    Prod.mk.injEq, Prod.exists] at h
  obtain ⟨_, -, _, -, _, archive, _, ⟨_, -, happly⟩, -, rfl⟩ := h
  cases hparent : evaluated.parent with
  | none =>
    simp only [hparent, bind_eq_ok, pure_eq_ok, Prod.mk.injEq] at happly
    obtain ⟨_, -, -, rfl, -⟩ := happly
    exact ⟨[], rfl⟩
  | some parent =>
    cases hchild : evaluated.child with
    | none =>
      simp only [hparent, hchild, bind_eq_ok, pure_eq_ok, Prod.mk.injEq] at happly
      obtain ⟨_, -, -, rfl, -⟩ := happly
      exact ⟨[], rfl⟩
    | some child =>
      simp only [hparent, hchild, archiveChild, bind_eq_ok, pure_eq_ok, Prod.mk.injEq,
        Prod.exists] at happly
      obtain ⟨_, archive', harchive, _, -, _, -, -, rfl, -⟩ := happly
      by_cases hvalid : child.assessment.valid = true
      · simp only [hvalid, if_true, bind_eq_ok, pure_eq_ok, Prod.mk.injEq] at harchive
        obtain ⟨bds, -, _, -, -, rfl⟩ := harchive
        exact ⟨[(child.snapshot, m.runId, bds.zip child.observations)], rfl⟩
      · simp only [hvalid, Bool.false_eq_true, if_false, pure_eq_ok, Prod.mk.injEq] at harchive
        exact ⟨[], harchive.2.symm⟩

lemma onResult_insertions :
    ∃ items, (left (m.onResult ribs d)).archive = insertions ribs m.archive items := by
  let P := fun m' : SwarmManager => ∃ items, m'.archive = insertions ribs m.archive items
  have hsame : P m := ⟨[], rfl⟩
  refine left_raising_bind (P := P) hsame fun agentCost _ => ?_
  refine left_raising_bind hsame fun evaluation _ => ?_
  refine left_raising_bind hsame fun applied hresult => ?_
  obtain ⟨items, hitems⟩ := applyEvaluation_insertions hresult
  have hcharged : (applied.2.recordCosts applied.1 agentCost evaluation.2).archive =
      insertions ribs m.archive items :=
    (recordCosts_fields applied.2 applied.1 agentCost evaluation.2).2.1.trans hitems
  refine left_raising_bind (P := P) ⟨items, hcharged⟩ fun reduced hreduce => ⟨items, ?_⟩
  obtain ⟨decision, -, heq⟩ := reduce_reduced hreduce
  rw [← hcharged]
  cases hchild : applied.1.evaluatedCandidate with
  | none =>
    rw [Option.elim_none, heq]
    rfl
  | some child =>
    obtain ⟨lineage, notes, hdescribed⟩ :
        Described reduced (left (reduced.describeChild d applied.1 child)) := describes_describeChild
    rw [Option.elim_some, hdescribed, heq]

lemma run_insertions (p : Pool) (events : List PoolEvent) :
    ∃ items, ((poolMachine ribs).run p events).manager.archive =
      insertions ribs p.manager.archive items := by
  refine Machine.run_preserves_of_forall
    (I := fun q : Pool => ∃ items, q.manager.archive = insertions ribs p.manager.archive items)
    (C := fun _ => True) (fun q e hq _ => ?_) ⟨[], rfl⟩ fun _ _ => trivial
  cases e with
  | nextAssignment agentId issuedAt => exact hq
  | agentError agentId => exact hq
  | result d =>
    obtain ⟨items, hitems⟩ := hq
    obtain ⟨more, hmore⟩ := @onResult_insertions ribs q.manager d
    refine ⟨items ++ more, hmore.trans ?_⟩
    rw [hitems, insertions, insertions, insertions, List.foldl_append]

/-- **No cell is held worse as a swarm goes on**: in every run from a start, whatever assignments,
results and errors of agents follow one another, the cells are distinct, and those of a later state
are held at least as well as those of an earlier one. -/
theorem swarm_elitist {config : SwarmConfig} {runId : String}
    {baseline : Model WorkspaceSnapshot.errors} {count : ℕ} {modelOf : ℕ → String}
    (hribs : ∀ old objective, ribs.addStatus (some old) objective = .notAdded ↔ objective ≤ old)
    (hstart : SwarmManager.start config runId baseline count modelOf = .ok m)
    (events later : List PoolEvent) :
    ((poolMachine ribs).run ⟨m, []⟩ events).manager.archive.WellPlaced ribs ∧
      Improves ((poolMachine ribs).run ⟨m, []⟩ events).manager.archive
        ((poolMachine ribs).run ⟨m, []⟩ (events ++ later)).manager.archive := by
  have hplaced : ((poolMachine ribs).run ⟨m, []⟩ events).manager.archive.WellPlaced ribs :=
    (@sourced_run ribs ⟨m, []⟩ (@sourced_start ribs m _ _ _ _ _ hstart).1 events).1.placed
  obtain ⟨items, hitems⟩ := @run_insertions ribs ((poolMachine ribs).run ⟨m, []⟩ events) later
  refine ⟨hplaced, ?_⟩
  rw [Machine.run_append, hitems]
  exact (improves_insertions hribs hplaced items).1

end Runs

/-- The first child of a run, and then the second. -/
theorem swarm_elitist_doubled :
    ∃ m, Doubled.start = .ok m ∧
      ((poolMachine Doubled.quarterCells).run ⟨m, []⟩ (Doubled.events.take 2)).manager.archive.WellPlaced
          Doubled.quarterCells ∧
        Improves
          ((poolMachine Doubled.quarterCells).run ⟨m, []⟩ (Doubled.events.take 2)).manager.archive
          ((poolMachine Doubled.quarterCells).run ⟨m, []⟩
            (Doubled.events.take 2 ++ Doubled.events.drop 2)).manager.archive := by
  obtain ⟨m, hstart⟩ := Doubled.exists_start
  exact ⟨m, hstart, @swarm_elitist Doubled.quarterCells m _ _ _ _ _ addStatus_oneCell hstart _ _⟩

end Swarm

end AecBench.Evolution
