import AecBench.Evolution.Application

/-!
# Names of candidates

Successive runs on one directory share the archive and the graveyard, while each of them exports
the workspace again under the name of the baseline. A name denotes one material as long as the
workspace is what it was when it was first exported and no child takes the name of another
candidate.

## Main definitions

* `StateDirectory`, `evolutionMachine` — the files, the run that is going on and the materials
  evaluated so far, over any number of runs.
* `StateDirectory.Identified` — every name denotes one material, and the archive resolves.
* `KeepsMaterial` — a step evaluates no other material under a name that was evaluated before.

## Main results

* `identified_of_keepsMaterial` — every state of every such history.
* `not_identified_reexported` — a run after one that accepted a child.
-/

namespace AecBench.Evolution

open Validation

/-! ## Directories -/

/-- The files of a workspace, the run that is going on with its options, and, in the order of the
evolution records, the materials that were evaluated. -/
structure StateDirectory where
  files : EvolutionFiles := {}
  run : Option (RunOptions × EvolutionRun) := none
  evaluated : List WorkspaceSnapshot := []

inductive DirectoryEvent
  /-- `run_evolution` begins; a run that was going on was stopped. -/
  | start (options : RunOptions) (checks : CandidateChecks) (exported : WorkspaceSnapshot)
  | cycle (services : CycleServices)
  /-- The loop is over and the files are written. -/
  | finish

/-- The materials that a cycle evaluates. -/
def CycleOutcome.evaluated (outcome : CycleOutcome) : List WorkspaceSnapshot :=
  outcome.parent.snapshot :: (outcome.child.map (·.snapshot)).toList

variable (ribs : CVTArchive)

/-- Histories of a directory. A run ends where it raises. -/
def evolutionMachine : Machine StateDirectory DirectoryEvent where
  step d
    | .start options checks exported =>
      match EvolutionRun.start ribs options checks d.files exported with
      | .error _ => { d with run := none }
      | .ok run =>
        { d with
          run := some (options, run)
          evaluated := d.evaluated ++ [run.baseline.snapshot] }
    | .cycle services =>
      match d.run with
      | none => d
      | some (options, run) =>
        match run.cycleWith ribs options services with
        | .error _ => { d with run := none }
        | .ok run' =>
          { d with
            run := some (options, run')
            evaluated :=
              d.evaluated ++ (run'.history.drop run.history.length).flatMap CycleOutcome.evaluated }
    | .finish =>
      match d.run with
      | none => d
      | some (_, run) => { d with files := run.save d.files, run := none }

/-! ## Names -/

/-- The materials that the files keep. -/
def EvolutionFiles.kept (files : EvolutionFiles) : List WorkspaceSnapshot :=
  files.graveyard.filterMap (·.rejectedSnapshot) ++
    files.archive.elim [] fun file => file.entries.map (·.snapshot)

/-- The materials that a run knows. -/
def EvolutionRun.known (run : EvolutionRun) : List WorkspaceSnapshot :=
  run.snapshots ++ run.graveyard.items.filterMap (·.rejectedSnapshot) ++
    run.archive.elim [] fun archive => archive.entries.map (·.snapshot)

/-- Every material in the directory: in its files, in the run and in the records. -/
def StateDirectory.materials (d : StateDirectory) : List WorkspaceSnapshot :=
  d.evaluated ++ d.files.kept ++ d.run.elim [] fun r => r.2.known

/-- Names are names of one material, and the archive of a run resolves to what was evaluated. -/
structure StateDirectory.Identified (d : StateDirectory) : Prop where
  names : ∀ s ∈ d.materials, ∀ t ∈ d.materials, s.candidateId = t.candidateId → s.SameMaterial t
  resolves : ∀ r ∈ d.run, ∀ archive ∈ r.2.archive, ∀ entry ∈ archive.entries,
    entry.snapshot ∈ d.evaluated ∧
      Table.lookup WorkspaceSnapshot.candidateId entry.snapshot.candidateId r.2.snapshots =
        some entry.snapshot

/-- A step evaluates no other material under a name that was evaluated before: the workspace is
exported as it was first, and a proposer reuses no name. -/
def KeepsMaterial (d : StateDirectory) : DirectoryEvent → Prop
  | .start _ _ exported =>
    ∀ s ∈ d.evaluated, s.candidateId = "baseline" → s.SameMaterial exported
  | .cycle services =>
    ∀ r ∈ d.run, ∀ request proposal,
      services.propose request (r.1.makeCandidateId r.1.runId (r.2.cycle + 1)) = .ok proposal →
        ∀ child ∈ proposal.child, ∀ s ∈ d.evaluated,
          s.candidateId = child.candidateId → s.SameMaterial child
  | .finish => True

/-! ## Snapshots -/

section Snapshots

variable {snapshots news : List WorkspaceSnapshot} {s t : WorkspaceSnapshot} {id : String}

/-- A candidate of that name is among the snapshots. -/
def Names (snapshots : List WorkspaceSnapshot) (id : String) : Prop :=
  ∃ s ∈ snapshots, s.candidateId = id

lemma mem_setDefault (h : s ∈ setDefault snapshots t) : s ∈ snapshots ∨ s = t := by
  unfold setDefault at h
  split_ifs at h
  · exact .inl h
  · simpa using h

lemma subset_setDefault (h : s ∈ snapshots) : s ∈ setDefault snapshots t := by
  unfold setDefault
  split_ifs
  · exact h
  · exact List.mem_append_left _ h

lemma names_setDefault : Names (setDefault snapshots t) t.candidateId := by
  unfold setDefault
  split_ifs with h
  · obtain ⟨r, hr⟩ := Option.isSome_iff_exists.mp h
    exact ⟨r, Table.mem_of_lookup hr⟩
  · exact ⟨t, List.mem_append_right _ List.mem_cons_self, rfl⟩

lemma mem_foldl_setDefault (h : s ∈ news.foldl setDefault snapshots) :
    s ∈ snapshots ∨ s ∈ news := by
  induction news generalizing snapshots with
  | nil => exact .inl h
  | cons t news ih =>
    rcases ih h with hs | hs
    · rcases mem_setDefault hs with hs | rfl
      · exact .inl hs
      · exact .inr List.mem_cons_self
    · exact .inr (List.mem_cons_of_mem _ hs)

lemma subset_foldl_setDefault (h : s ∈ snapshots) : s ∈ news.foldl setDefault snapshots := by
  induction news generalizing snapshots with
  | nil => exact h
  | cons t news ih => exact ih (subset_setDefault h)

lemma names_foldl_setDefault (h : t ∈ news) :
    Names (news.foldl setDefault snapshots) t.candidateId := by
  induction news generalizing snapshots with
  | nil => cases h
  | cons u news ih =>
    rcases List.mem_cons.mp h with rfl | h
    · obtain ⟨s, hs, hid⟩ := @names_setDefault snapshots t
      rw [List.foldl_cons]
      exact ⟨s, subset_foldl_setDefault hs, hid⟩
    · exact ih h

lemma Names.mono (h : Names snapshots id) (hsub : ∀ s ∈ snapshots, s ∈ news) : Names news id := by
  obtain ⟨s, hs, hid⟩ := h
  exact ⟨s, hsub s hs, hid⟩

lemma Names.upsert (h : Names snapshots id) :
    Names (Table.upsert WorkspaceSnapshot.candidateId t snapshots) id := by
  obtain ⟨s, hs, hid⟩ := h
  by_cases hst : s.candidateId = t.candidateId
  · exact ⟨t, Table.mem_upsert_self _ _, hst.symm.trans hid⟩
  · exact ⟨s, Table.mem_upsert_of_ne hs hst, hid⟩

end Snapshots

/-! ## Stores -/

section Stores

variable {ribs} {archive archive' : QDArchive} {snapshot : WorkspaceSnapshot} {runId : String}

variable {entry : ArchiveEntry}

lemma snapshot_of_mem_insertAll {items : List (BehaviourDescriptor × EvolutionObservation)}
    (h : entry ∈ (QDArchive.insertAll ribs snapshot runId items archive).2.entries) :
    entry.snapshot = snapshot ∨ entry ∈ archive.entries := by
  induction items generalizing archive with
  | nil => exact .inr h
  | cons item items ih =>
    rcases ih h with h | h
    · exact .inl h
    · rcases QDArchive.mem_insert h with rfl | h
      · exact .inl rfl
      · exact .inr h

lemma snapshot_of_mem_loadEntries {items : List QDArchive.FileEntry} {loaded : QDArchive}
    (hload : QDArchive.loadEntries ribs items archive = .ok loaded) (h : entry ∈ loaded.entries) :
    entry.snapshot ∈ items.map (·.snapshot) ∨ entry ∈ archive.entries := by
  induction items generalizing archive with
  | nil =>
    obtain rfl := Except.ok.inj hload
    exact .inr h
  | cons item items ih =>
    simp only [QDArchive.loadEntries, bind_eq_ok] at hload
    obtain ⟨snapshot, hsnapshot, hload⟩ := hload
    rcases ih hload with h | h
    · exact .inl (List.mem_cons_of_mem _ h)
    · rcases QDArchive.mem_insert h with rfl | h
      · rw [validate_eq_ok] at hsnapshot
        exact .inl (List.mem_cons.mpr (.inl hsnapshot.symm))
      · exact .inr h

lemma snapshot_of_mem_loadArchive {config : EvolutionConfig} {file : Option QDArchive.File}
    {loaded : QDArchive} (hload : loadArchive ribs config file = .ok loaded)
    (h : entry ∈ loaded.entries) :
    entry.snapshot ∈ file.elim [] fun file => file.entries.map (·.snapshot) := by
  cases file with
  | none =>
    obtain rfl := Except.ok.inj hload
    cases h
  | some file =>
    rcases snapshot_of_mem_loadEntries hload h with h | h
    · exact h
    · cases h

lemma snapshot_of_mem_insertCandidate {candidate : EvaluatedCandidate}
    {outcome : Swarm.ArchiveBatchOutcome}
    (h : insertCandidateDescriptors ribs archive candidate runId = .ok (outcome, archive'))
    (hentry : entry ∈ archive'.entries) :
    (outcome.added = true ∧ entry.snapshot = candidate.snapshot) ∨ entry ∈ archive.entries := by
  simp only [insertCandidateDescriptors, bind_eq_ok, pure_eq_ok, Prod.mk.injEq] at h
  obtain ⟨descriptors, -, _, -, rfl, rfl⟩ := h
  rw [Swarm.ArchiveBatchOutcome.added]
  cases hadded : (QDArchive.insertAll ribs candidate.snapshot runId
      (descriptors.zip candidate.observations) archive).1.any (·.added) with
  | false =>
    rw [QDArchive.insertAll_of_not_added hadded] at hentry
    exact .inr hentry
  | true => exact (snapshot_of_mem_insertAll hentry).imp (fun h => ⟨rfl, h⟩) id

lemma mem_extend {n : ℕ} {α : Type} {q : Deque n α} {as : List α} {a : α} (hn : 0 < n)
    (h : a ∈ (q.extend as).items) : a ∈ q.items ∨ a ∈ as := by
  induction as generalizing q with
  | nil => exact .inl h
  | cons b as ih =>
    rcases ih h with h | h
    · rcases (Deque.mem_append_iff hn).mp h with rfl | h
      · exact .inr List.mem_cons_self
      · exact .inl (List.mem_of_mem_drop h)
    · exact .inr (List.mem_cons_of_mem _ h)

lemma mem_loadGraveyard {file : List Swarm.GraveyardEntry} {graveyard : MutationGraveyard}
    (h : loadGraveyard file = .ok graveyard) {entry : Swarm.GraveyardEntry}
    (hentry : entry ∈ graveyard.items) : entry ∈ file := by
  simp only [loadGraveyard, bind_eq_ok, validateEach_eq_ok, pure_eq_ok] at h
  obtain ⟨entries, ⟨rfl, -⟩, rfl⟩ := h
  rcases mem_extend (by decide) hentry with h | h
  · cases h
  · exact h

end Stores

/-! ## What a history keeps -/

/-- What a run knows was evaluated, and the candidates of its archive have snapshots. -/
structure EvolutionRun.Follows (run : EvolutionRun) (evaluated : List WorkspaceSnapshot) :
    Prop where
  snapshots : ∀ s ∈ run.snapshots, s ∈ evaluated
  graveyard : ∀ entry ∈ run.graveyard.items, ∀ s ∈ entry.rejectedSnapshot, s ∈ evaluated
  baseline : run.baseline.snapshot ∈ evaluated
  archived : ∀ archive ∈ run.archive, ∀ entry ∈ archive.entries,
    entry.snapshot ∈ evaluated ∧ Names run.snapshots entry.snapshot.candidateId

/-- Every material in the directory was evaluated, and the evaluated ones have names of their
own. -/
structure StateDirectory.Tracked (d : StateDirectory) : Prop where
  own : ∀ s ∈ d.evaluated, ∀ t ∈ d.evaluated, s.candidateId = t.candidateId → s = t
  kept : ∀ s ∈ d.files.kept, s ∈ d.evaluated
  run : ∀ r ∈ d.run, r.2.Follows d.evaluated

section Runs

variable {ribs} {options : RunOptions} {services : CycleServices} {run run' : EvolutionRun}
  {outcome : CycleOutcome} {evaluated more : List WorkspaceSnapshot}

lemma eq_of_sameMaterial {s t : WorkspaceSnapshot} (hid : s.candidateId = t.candidateId)
    (h : s.SameMaterial t) : s = t := by
  cases s
  cases t
  obtain ⟨hprompt, hskills⟩ := h
  simp_all

lemma mem_rescuable {graveyard : MutationGraveyard} {s : WorkspaceSnapshot}
    (h : s ∈ graveyard.items.reverse.filterMap rescuable) :
    ∃ entry ∈ graveyard.items, s ∈ entry.rejectedSnapshot := by
  obtain ⟨entry, hentry, hs⟩ := List.mem_filterMap.mp h
  exact ⟨entry, List.mem_reverse.mp hentry, (Option.filter_eq_some_iff.mp hs).1⟩

lemma EvolutionRun.Follows.selectable (h : run.Follows evaluated) :
    (∀ s ∈ run.snapshots, s ∈ run.selectable) ∧ ∀ s ∈ run.selectable, s ∈ evaluated := by
  unfold EvolutionRun.selectable
  cases run.archive with
  | none => exact ⟨fun s hs => hs, h.snapshots⟩
  | some archive =>
    refine ⟨fun s hs => subset_foldl_setDefault hs, fun s hs => ?_⟩
    rcases mem_foldl_setDefault hs with hs | hs
    · exact h.snapshots s hs
    · obtain ⟨entry, hentry, hs⟩ := mem_rescuable hs
      exact h.graveyard entry hentry s hs

lemma parent_mem (h : Cycles ribs options services run outcome run')
    (hfollows : run.Follows evaluated) : outcome.parent.snapshot ∈ evaluated := by
  obtain ⟨snapshot, hlookup, ⟨hsnapshot, -⟩ | hbaseline⟩ := h.parent
  · rw [hsnapshot]
    exact hfollows.selectable.2 snapshot (Table.mem_of_lookup hlookup).1
  · rw [hbaseline]
    exact hfollows.baseline

/-- **A cycle knows only what was evaluated before it, and its child.** -/
lemma follows_of_cycles (h : Cycles ribs options services run outcome run')
    (hfollows : run.Follows evaluated) (hmore : ∀ s ∈ evaluated, s ∈ more)
    (hchild : ∀ c ∈ outcome.child, c.snapshot ∈ more) : run'.Follows more := by
  have hselectable := hfollows.selectable
  have hkeeps : ∀ id, Names run.snapshots id → Names run'.snapshots id := by
    intro id hid
    have hid' := hid.mono hselectable.1
    cases h.applied with
    | accepted hc hd hs hg =>
      rw [hs]
      exact hid'.upsert
    | rejected now hc hd hs hg | other hs hg hskipped => rwa [hs]
  refine ⟨?_, ?_, ?_, ?_⟩
  · intro s hs
    cases h.applied with
    | accepted hc hd hsnapshots hg =>
      rw [hsnapshots] at hs
      rcases Table.mem_of_mem_upsert hs with rfl | hs
      · exact hchild _ hc
      · exact hmore s (hselectable.2 s hs)
    | rejected now hc hd hsnapshots hg | other hsnapshots hg hskipped =>
      rw [hsnapshots] at hs
      exact hmore s (hselectable.2 s hs)
  · intro entry hentry s hs
    cases h.applied with
    | accepted hc hd hsnapshots hg =>
      rw [hg] at hentry
      exact hmore s (hfollows.graveyard entry hentry s hs)
    | rejected now hc hd hsnapshots hg =>
      rw [hg] at hentry
      rcases (Deque.mem_append_iff (by decide)).mp hentry with rfl | hentry
      · obtain rfl := Option.some.inj hs
        exact hchild _ hc
      · exact hmore s (hfollows.graveyard entry (List.mem_of_mem_drop hentry) s hs)
    | other hsnapshots hg hskipped =>
      rw [hg] at hentry
      exact hmore s (hfollows.graveyard entry hentry s hs)
  · rw [h.baseline]
    exact hmore _ hfollows.baseline
  · intro archive harchive entry hentry
    cases h.decided with
    | gate hgates hkept hapart =>
      rw [hkept] at harchive
      obtain ⟨hmem, hname⟩ := hfollows.archived archive harchive entry hentry
      exact ⟨hmore _ hmem, hkeeps _ hname⟩
    | @archive gate before after c inserted hgates hbefore hc hvalid hinserted hoverruled hafter =>
      obtain rfl : after = archive := Option.some.inj (hafter.symm.trans harchive)
      rcases snapshot_of_mem_insertCandidate hinserted hentry with ⟨hadded, hsnapshot⟩ | hentry
      · rw [hsnapshot]
        refine ⟨hchild c hc, ?_⟩
        rw [hadded] at hoverruled
        cases hoverruled with
        | added score hscored hdecided =>
          cases h.applied with
          | accepted hc' hd hs hg =>
            obtain rfl := Option.some.inj (hc.symm.trans hc')
            rw [hs]
            exact ⟨c.snapshot, Table.mem_upsert_self _ _, rfl⟩
          | rejected now hc' hd => rw [hdecided] at hd; cases hd
          | other hs hg hskipped =>
            have hd := hskipped c hc
            rw [hdecided] at hd
            cases hd
      · obtain ⟨hmem, hname⟩ := hfollows.archived before hbefore entry hentry
        exact ⟨hmore _ hmem, hkeeps _ hname⟩

/-- **A run begins with what its files keep and the exported baseline.** -/
lemma follows_start {checks : CandidateChecks} {files : EvolutionFiles}
    {exported : WorkspaceSnapshot}
    (h : EvolutionRun.start ribs options checks files exported = .ok run)
    (hkept : ∀ s ∈ files.kept, s ∈ more) (hbaseline : run.baseline.snapshot ∈ more) :
    run.baseline.snapshot = { exported with candidateId := "baseline" } ∧ run.Follows more := by
  simp only [EvolutionRun.start, bind_eq_ok] at h
  obtain ⟨graveyard, hgraveyard, snapshot, hsnapshot, batch, -, baseline, hassess, state, -, h⟩ := h
  obtain ⟨-, rfl⟩ := construct_eq_ok.mp hsnapshot
  have hload := mapError_eq_ok.mp hgraveyard
  have hexported := (CandidateChecks.assess_eq_ok hassess).1
  have hburied : ∀ entry ∈ graveyard.items, ∀ s ∈ entry.rejectedSnapshot, s ∈ more := by
    intro entry hentry s hs
    refine hkept s (List.mem_append_left _ (List.mem_filterMap.mpr ⟨entry, ?_, hs⟩))
    exact mem_loadGraveyard hload hentry
  cases hstrategy : options.config.strategy with
  | hillClimb =>
    rw [hstrategy] at h
    obtain rfl := pure_eq_ok.mp h
    refine ⟨hexported, ?_, hburied, hbaseline, fun archive harchive => by cases harchive⟩
    intro s hs
    rw [List.mem_singleton.mp hs, ← hexported]
    exact hbaseline
  | qd =>
    rw [hstrategy] at h
    simp only [EvolutionRun.openArchive, addArchiveSnapshots, bind_eq_ok, pure_eq_ok, Prod.exists,
      Prod.mk.injEq] at h
    obtain ⟨_, _, _, ⟨loaded, hloaded, inserted, archive, hinserted, _,
      ⟨entries, hentries, rfl⟩, rfl, rfl, rfl⟩, rfl⟩ := h
    have hentriesMem : ∀ entry, entry ∈ entries ↔ entry ∈ archive.entries := by
      simp only [Swarm.archiveView, unit_bind_eq_ok, pure_eq_ok] at hentries
      obtain ⟨-, -, rfl⟩ := hentries
      exact fun entry => List.mem_insertionSort _
    have harchived : ∀ entry ∈ archive.entries, entry.snapshot ∈ more := by
      intro entry hentry
      rcases snapshot_of_mem_insertCandidate hinserted hentry with ⟨-, heq⟩ | hentry
      · rw [heq]
        exact hbaseline
      · refine hkept _ (List.mem_append_right _ ?_)
        exact snapshot_of_mem_loadArchive (mapError_eq_ok.mp hloaded) hentry
    refine ⟨hexported, ?_, hburied, hbaseline, ?_⟩
    · intro s hs
      rcases mem_foldl_setDefault hs with hs | hs
      · rcases mem_foldl_setDefault hs with hs | hs
        · rw [List.mem_singleton.mp hs, ← hexported]
          exact hbaseline
        · obtain ⟨entry, hentry, rfl⟩ := List.mem_map.mp hs
          exact harchived entry ((hentriesMem entry).mp hentry)
      · obtain ⟨entry, hentry, hs⟩ := mem_rescuable hs
        exact hburied entry hentry s hs
    · intro a ha entry hentry
      obtain rfl := Option.some.inj ha
      refine ⟨harchived entry hentry, ?_⟩
      refine (names_foldl_setDefault (List.mem_map_of_mem ((hentriesMem entry).mpr hentry))).mono
        fun s hs => subset_foldl_setDefault hs

end Runs

section Histories

variable {ribs} {d : StateDirectory}

/-- Another material keeps the names apart when it is the one evaluated under its name. -/
lemma own_append {evaluated : List WorkspaceSnapshot} {t : WorkspaceSnapshot}
    (hown : ∀ s ∈ evaluated, ∀ t ∈ evaluated, s.candidateId = t.candidateId → s = t)
    (ht : ∀ s ∈ evaluated, s.candidateId = t.candidateId → s = t) :
    ∀ s ∈ evaluated ++ [t], ∀ u ∈ evaluated ++ [t], s.candidateId = u.candidateId → s = u := by
  intro s hs u hu hid
  rcases List.mem_append.mp hs with hs | hs <;> rcases List.mem_append.mp hu with hu | hu
  · exact hown s hs u hu hid
  · rw [List.mem_singleton.mp hu] at hid ⊢
    exact ht s hs hid
  · rw [List.mem_singleton.mp hs] at hid ⊢
    exact (ht u hu hid.symm).symm
  · rw [List.mem_singleton.mp hs, List.mem_singleton.mp hu]

lemma StateDirectory.Tracked.stop (h : d.Tracked) : { d with run := none }.Tracked :=
  ⟨h.own, h.kept, fun r hr => by cases hr⟩

lemma StateDirectory.Tracked.start (h : d.Tracked) {options : RunOptions}
    {checks : CandidateChecks} {exported : WorkspaceSnapshot}
    (he : KeepsMaterial d (.start options checks exported)) :
    ((evolutionMachine ribs).step d (.start options checks exported)).Tracked := by
  simp only [evolutionMachine]
  cases hstart : EvolutionRun.start ribs options checks d.files exported with
  | error message => exact h.stop
  | ok run =>
    have hmore : ∀ s ∈ d.evaluated, s ∈ d.evaluated ++ [run.baseline.snapshot] :=
      fun s hs => List.mem_append_left _ hs
    obtain ⟨hbaseline, hfollows⟩ := follows_start hstart (fun s hs => hmore s (h.kept s hs))
      (List.mem_append_right _ List.mem_cons_self)
    refine ⟨own_append h.own fun s hs hid => ?_, fun s hs => hmore s (h.kept s hs), fun r hr => ?_⟩
    · rw [hbaseline] at hid ⊢
      exact eq_of_sameMaterial hid (he s hs hid)
    · obtain rfl := Option.some.inj hr
      exact hfollows

lemma StateDirectory.Tracked.cycle (h : d.Tracked) {services : CycleServices}
    (he : KeepsMaterial d (.cycle services)) :
    ((evolutionMachine ribs).step d (.cycle services)).Tracked := by
  simp only [evolutionMachine]
  obtain hnone | ⟨⟨options, run⟩, hrun⟩ := Option.eq_none_or_eq_some d.run
  · rw [hnone]
    exact h
  rw [hrun]
  dsimp only
  cases hcycle : run.cycleWith ribs options services with
  | error message => exact h.stop
  | ok run' =>
    dsimp only
    have hfollows := h.run _ hrun
    obtain ⟨outcome, hcycles⟩ := cycles_of_cycleWith hcycle
    have hparent := parent_mem hcycles hfollows
    have hnew : (run'.history.drop run.history.length).flatMap CycleOutcome.evaluated =
        outcome.parent.snapshot :: (outcome.child.map (·.snapshot)).toList := by
      rw [hcycles.history, List.drop_left]
      simp [CycleOutcome.evaluated]
    rw [hnew]
    have hparentOwn := own_append h.own fun s hs hid => h.own s hs _ hparent hid
    rcases hcycles.child with ⟨hstatus, c, hc, hproposed, -⟩ | ⟨hstatus, hnone⟩
    · obtain ⟨request, hpropose⟩ := hcycles.proposed
      have hcOwn : ∀ s ∈ d.evaluated ++ [outcome.parent.snapshot],
          s.candidateId = c.snapshot.candidateId → s = c.snapshot := by
        intro s hs hid
        have hs' : s ∈ d.evaluated := by
          rcases List.mem_append.mp hs with hs | hs
          · exact hs
          · rwa [List.mem_singleton.mp hs]
        exact eq_of_sameMaterial hid (he _ hrun request _ hpropose _ hproposed s hs' hid)
      have hlist : d.evaluated ++
          outcome.parent.snapshot :: (outcome.child.map (·.snapshot)).toList =
            (d.evaluated ++ [outcome.parent.snapshot]) ++ [c.snapshot] := by
        simp [hc]
      rw [hlist]
      have hmore : ∀ s ∈ d.evaluated,
          s ∈ (d.evaluated ++ [outcome.parent.snapshot]) ++ [c.snapshot] :=
        fun s hs => List.mem_append_left _ (List.mem_append_left _ hs)
      refine ⟨own_append hparentOwn hcOwn, fun s hs => hmore s (h.kept s hs), fun r hr => ?_⟩
      obtain rfl := Option.some.inj hr
      refine follows_of_cycles hcycles hfollows hmore fun c' hc' => ?_
      obtain rfl := Option.some.inj (hc.symm.trans hc')
      exact List.mem_append_right _ List.mem_cons_self
    · rw [hnone, Option.map_none, Option.toList_none]
      have hmore : ∀ s ∈ d.evaluated, s ∈ d.evaluated ++ [outcome.parent.snapshot] :=
        fun s hs => List.mem_append_left _ hs
      refine ⟨hparentOwn, fun s hs => hmore s (h.kept s hs), fun r hr => ?_⟩
      obtain rfl := Option.some.inj hr
      refine follows_of_cycles hcycles hfollows hmore fun c hc => ?_
      rw [hnone] at hc
      cases hc

lemma StateDirectory.Tracked.finish (h : d.Tracked) :
    ((evolutionMachine ribs).step d .finish).Tracked := by
  simp only [evolutionMachine]
  obtain hnone | ⟨⟨options, run⟩, hrun⟩ := Option.eq_none_or_eq_some d.run
  · rw [hnone]
    exact h
  rw [hrun]
  have hfollows := h.run _ hrun
  refine ⟨h.own, fun s hs => ?_, fun r hr => by cases hr⟩
  rcases List.mem_append.mp hs with hs | hs
  · obtain ⟨entry, hentry, hs⟩ := List.mem_filterMap.mp hs
    exact hfollows.graveyard entry hentry s hs
  · obtain hnone | ⟨archive, harchive⟩ := Option.eq_none_or_eq_some run.archive
    · simp only [EvolutionRun.save, hnone, Option.elim_none] at hs
      exact h.kept s (List.mem_append_right _ hs)
    · simp only [EvolutionRun.save, harchive, Option.elim_some, QDArchive.save, List.map_map,
        List.mem_map] at hs
      obtain ⟨entry, hentry, rfl⟩ := hs
      exact (hfollows.archived archive harchive entry hentry).1

lemma StateDirectory.Tracked.step (h : d.Tracked) {e : DirectoryEvent} (he : KeepsMaterial d e) :
    ((evolutionMachine ribs).step d e).Tracked := by
  cases e with
  | start options checks exported => exact h.start he
  | cycle services => exact h.cycle he
  | finish => exact h.finish

lemma StateDirectory.Tracked.identified (h : d.Tracked) : d.Identified := by
  have hmem : ∀ s ∈ d.materials, s ∈ d.evaluated := by
    intro s hs
    rcases List.mem_append.mp hs with hs | hs
    · rcases List.mem_append.mp hs with hs | hs
      · exact hs
      · exact h.kept s hs
    obtain hnone | ⟨r, hr⟩ := Option.eq_none_or_eq_some d.run
    · rw [hnone] at hs
      cases hs
    rw [hr, Option.elim_some] at hs
    have hfollows := h.run r hr
    rcases List.mem_append.mp hs with hs | hs
    · rcases List.mem_append.mp hs with hs | hs
      · exact hfollows.snapshots s hs
      · obtain ⟨entry, hentry, hs⟩ := List.mem_filterMap.mp hs
        exact hfollows.graveyard entry hentry s hs
    · obtain hnone | ⟨archive, harchive⟩ := Option.eq_none_or_eq_some r.2.archive
      · rw [hnone] at hs
        cases hs
      · rw [harchive, Option.elim_some] at hs
        obtain ⟨entry, hentry, rfl⟩ := List.mem_map.mp hs
        exact (hfollows.archived archive harchive entry hentry).1
  refine ⟨fun s hs t ht hid => ?_, fun r hr archive harchive entry hentry => ?_⟩
  · rw [h.own s (hmem s hs) t (hmem t ht) hid]
    exact ⟨rfl, rfl⟩
  · obtain ⟨hentryMem, s, hs, hid⟩ := (h.run r hr).archived archive harchive entry hentry
    refine ⟨hentryMem, ?_⟩
    obtain ⟨t, ht⟩ := Table.exists_lookup_iff.mpr (List.mem_map.mpr ⟨s, hs, hid⟩)
    obtain ⟨htmem, htid⟩ := Table.mem_of_lookup ht
    rw [ht, h.own t ((h.run r hr).snapshots t htmem) _ hentryMem htid]

/-- **Candidate identity is a function** in every state of every history whose runs export the
baseline as it was first and whose proposers reuse no name: runs that are stopped or raise, in
any number, included. -/
theorem identified_of_keepsMaterial (events : List DirectoryEvent)
    (h : (evolutionMachine ribs).Along KeepsMaterial {} events) :
    ((evolutionMachine ribs).run {} events).Identified := by
  have hempty : ({} : StateDirectory).Tracked := by
    constructor <;> simp [EvolutionFiles.kept]
  exact (Machine.run_preserves (I := StateDirectory.Tracked) (fun d e hd he => hd.step he)
    hempty h).identified

end Histories

/-! ## A baseline that is exported again -/

namespace Reexported

/-- The reward of a material: the child is better than the workspace it was made from. -/
def rewardOf (snapshot : WorkspaceSnapshot) : ℚ :=
  if snapshot.systemPrompt = "prompt of child-1" then 6 / 10 else 1 / 10

def checks : CandidateChecks where
  plan _ cycle := .ok
    { taskIds := ["ocean/wave"], trials := [{ trialId := "planned-1", taskId := "ocean/wave" }],
      evaluationCaseIds := ["case-1"], cycle := cycle.toNat }
  run snapshot _ := .ok
    [{ Swarm.Displaced.trial snapshot.candidateId with
      evaluation := some ⟨rewardOf snapshot, ⟨true, true, true, []⟩⟩ }]

def options (runId : String) : RunOptions where
  config := { (default : EvolutionConfig) with strategy := .qd }
  runId

/-- The material of the child. -/
def child : WorkspaceSnapshot :=
  { Swarm.Displaced.snapshot "child-1" with candidateId := "run-1:1" }

/-- Select the first candidate, and submit the child. -/
def submits : CycleServices where
  checks := checks
  selectMutationStrategy _ := .conservative
  shortlistCells cells := cells
  archiveAgent ids strategy := .ok
    { parentCandidateId := ids.headI, inspirationCandidateIds := [], strategy
      goal := "improve", reasoning := "the first candidate" }
  propose _ _ := .ok
    { (Swarm.Displaced.result "" "child-1").proposal with child := some child }
  commit _ := .ok ()
  now := "2026-04-07T10:01:00+00:00"

/-- A run that accepts its only child. -/
def firstRun : List DirectoryEvent :=
  [.start (options "run-1") checks (Swarm.Displaced.snapshot "baseline"), .cycle submits, .finish]

/-- The next run exports the workspace, which now holds the material of the child. -/
def events : List DirectoryEvent := firstRun ++ [.start (options "run-2") checks child]

end Reexported

/-- The first run. -/
theorem identified_firstRun :
    ((evolutionMachine Swarm.Doubled.quarterCells).run {} Reexported.firstRun).Identified := by
  refine identified_of_keepsMaterial _ ⟨fun s hs => by simp at hs, ?_, trivial, trivial⟩
  intro r hr request proposal hproposal child hchild s hs hid
  have hevaluated : ∀ s ∈ ((evolutionMachine Swarm.Doubled.quarterCells).step {}
      (.start (Reexported.options "run-1") Reexported.checks
        (Swarm.Displaced.snapshot "baseline"))).evaluated, s.candidateId = "baseline" := by
    decide +kernel
  obtain rfl := Except.ok.inj hproposal
  obtain rfl := Option.some.inj hchild
  rw [hevaluated s hs] at hid
  exact absurd hid (by decide)

/-- **A run after one that accepted a child**: the workspace is exported as the baseline again,
with the material of the child, while the archive still has the first baseline under that
name. -/
theorem not_identified_reexported :
    ¬ ((evolutionMachine Swarm.Doubled.quarterCells).run {} Reexported.events).Identified := by
  intro h
  have hclash : ∃ s ∈ ((evolutionMachine Swarm.Doubled.quarterCells).run {}
        Reexported.events).materials,
      ∃ t ∈ ((evolutionMachine Swarm.Doubled.quarterCells).run {} Reexported.events).materials,
        s.candidateId = t.candidateId ∧ ¬ s.SameMaterial t := by
    decide +kernel
  obtain ⟨s, hs, t, ht, hid, hne⟩ := hclash
  exact hne (h.names s hs t ht hid)

end AecBench.Evolution
