import AecBench.Evolution.Application

/-!
# The stagnation counter

The counter of cycles without improvement is computed by the gate, overruled by the archive and
copied into the next state. It counts the cycles since the last one that recorded its child as
the best candidate, as long as the archive has refused no child that had improved on its parent.

## Main definitions

* `CycleOutcome.Records` — the cycle records its child as the best candidate.
* `stagnation` — the cycles since then that were not skipped.
* `RefusedGain` — the archive refuses a child that has improved on its parent.
* `Stagnates` — what one cycle does to the counter and to the best candidate.

## Main results

* `stagnates_of_cyclesWith` — every cycle of every run.
* `not_monotone_regression` — a hill climb whose best score decreases.
-/

namespace AecBench.Evolution

open Validation

/-! ## Counting cycles -/

/-- The cycle records its child as the best candidate. -/
def CycleOutcome.Records (outcome : CycleOutcome) : Prop :=
  outcome.decision.decision = .accepted ∧ outcome.decision.improved = true

instance (outcome : CycleOutcome) : Decidable outcome.Records :=
  inferInstanceAs (Decidable (_ ∧ _))

/-- The cycles since the last one that recorded its child, the latest first. -/
def sinceRecord (history : List CycleOutcome) : List CycleOutcome :=
  history.reverse.takeWhile fun outcome => ¬ outcome.Records

/-- The number of cycles since the last record that were not skipped. -/
def stagnation (history : List CycleOutcome) : ℕ :=
  (sinceRecord history).countP fun outcome => outcome.decision.decision ≠ .skipped

/-- A valid child whose score is above that of its parent by more than the threshold is rejected:
by the archive, since the gate accepts it. -/
def RefusedGain (config : EvolutionConfig) (outcome : CycleOutcome) : Prop :=
  outcome.decision.decision = .rejected ∧ ∃ child ∈ outcome.child, ∃ parentScore score,
    Scored config outcome.parent child parentScore score ∧
      parentScore + config.improvementThreshold < score

/-- What a cycle does to the counter and to the best candidate of a search. -/
structure Stagnates (config : EvolutionConfig) (state : EvolutionState)
    (history : List CycleOutcome) (outcome : CycleOutcome) (next : EvolutionState) : Prop where
  /-- The counter is the number of cycles since the last record. -/
  counter : (∀ o ∈ sinceRecord (history ++ [outcome]), ¬ RefusedGain config o) →
    next.cyclesWithoutImprovement = stagnation (history ++ [outcome])
  /-- A rejected child never starts the counter again. -/
  rejected : outcome.decision.decision = .rejected → ¬ RefusedGain config outcome →
    next.cyclesWithoutImprovement = state.cyclesWithoutImprovement + 1
  skipped : outcome.decision.decision = .skipped →
    next.cyclesWithoutImprovement = state.cyclesWithoutImprovement
  /-- Only a record changes the best candidate. -/
  kept : ¬ outcome.Records →
    next.bestCandidateId = state.bestCandidateId ∧ next.bestScore = state.bestScore
  /-- A record makes the child the best candidate, with its score in this cycle. -/
  recorded : outcome.Records → ∃ child ∈ outcome.child, ∃ parentScore,
    Scored config outcome.parent child parentScore next.bestScore ∧
      next.bestCandidateId = child.snapshot.candidateId ∧
      next.cyclesWithoutImprovement = 0 ∧
      (config.strategy = .hillClimb →
        outcome.parent.snapshot.candidateId = state.bestCandidateId ∧
          next.bestCandidateId ≠ state.bestCandidateId ∧
          parentScore + config.improvementThreshold < next.bestScore) ∧
      (config.strategy = .qd → state.bestScore + config.improvementThreshold < next.bestScore)
  /-- In a quality-diversity search the best score never decreases. -/
  monotone : config.strategy = .qd → 0 ≤ config.improvementThreshold →
    state.bestScore ≤ next.bestScore

/-! ## One cycle -/

section Cycle

variable {ribs : CVTArchive} {options : RunOptions} {services : CycleServices}
  {run run' : EvolutionRun} {outcome : CycleOutcome} {history : List CycleOutcome}

lemma sinceRecord_append_of_records (h : outcome.Records) :
    sinceRecord (history ++ [outcome]) = [] := by
  simp [sinceRecord, h]

lemma sinceRecord_append_of_not (h : ¬ outcome.Records) :
    sinceRecord (history ++ [outcome]) = outcome :: sinceRecord history := by
  simp [sinceRecord, h]

/-- How a cycle advances the counter. -/
inductive Advances (config : EvolutionConfig) (state : EvolutionState)
    (archive : Option QDArchive) (outcome : CycleOutcome) : Prop
  | skips (decided : outcome.decision.decision = .skipped)
      (counter : outcome.decision.stagnationCount state = state.cyclesWithoutImprovement)
  | records {child : EvaluatedCandidate} {parentScore score : ℚ} (records : outcome.Records)
      (evaluated : outcome.child = some child)
      (apart : child.snapshot.candidateId ≠ outcome.parent.snapshot.candidateId)
      (scored : Scored config outcome.parent child parentScore score)
      (effective : outcome.decision.effectiveScore = some score)
      (counter : outcome.decision.stagnationCount state = 0)
      (hillClimb : archive = none → parentScore + config.improvementThreshold < score)
      (qd : archive ≠ none → state.bestScore + config.improvementThreshold < score)
  | stagnates (decided : outcome.decision.decision ≠ .skipped) (unrecorded : ¬ outcome.Records)
      (counter : outcome.decision.stagnationCount state = state.cyclesWithoutImprovement + 1)
  | refuses (refused : RefusedGain config outcome)

variable {config : EvolutionConfig} {state : EvolutionState}

lemma advances_of_gates {archive : Option QDArchive}
    (h : Gates config state outcome.parent outcome.proposal outcome.child outcome.decision)
    (hapart : archive = none ∨ ∀ c ∈ outcome.child, c.assessment.valid = false) :
    Advances config state archive outcome := by
  have hcounter : ∀ n, outcome.decision.cyclesWithoutImprovement = some n →
      outcome.decision.stagnationCount state = n := fun n hn => by
    rw [GateResult.stagnationCount, hn, Option.getD_some]
  have hunimproved : outcome.decision.improved = false → ¬ outcome.Records := by
    rintro himproved ⟨-, hrecords⟩
    rw [himproved] at hrecords
    cases hrecords
  generalize hchild : outcome.child = child at h
  generalize hdecision : outcome.decision = decision at h
  rw [hdecision] at hcounter hunimproved
  cases h with
  | skipped hstatus hdecided himproved hn =>
    exact .skips (by rw [hdecision, hdecided]) (by rw [hdecision]; exact hcounter _ hn)
  | invalid hstatus hne hvalid hdecided himproved hn =>
    refine .stagnates (by rw [hdecision, hdecided]; decide) (hunimproved himproved) ?_
    rw [hdecision]
    exact hcounter _ hn
  | @improved c _ parentScore score hstatus hne hscored hgain hdecided heffective himproved hn =>
    have hnone : archive = none := by
      rcases hapart with hnone | hinvalid
      · exact hnone
      · have hvalid := hinvalid c hchild
        rw [hscored.valid] at hvalid
        cases hvalid
    refine .records ?_ hchild hne hscored (by rw [hdecision, heffective]) ?_ (fun _ => hgain)
      fun hsome => absurd hnone hsome
    · rw [CycleOutcome.Records, hdecision]
      exact ⟨hdecided, himproved⟩
    · rw [hdecision]
      exact hcounter _ hn
  | unimproved hstatus hne hscored hgain hdecided heffective himproved hn =>
    refine .stagnates (by rwa [hdecision]) (hunimproved himproved) ?_
    rw [hdecision]
    exact hcounter _ hn

variable {c : EvaluatedCandidate}

lemma scored_of_gates {parent : EvaluatedCandidate} {proposal : CandidateProposal}
    {gate : GateResult} (h : Gates config state parent proposal (some c) gate)
    (hstatus : proposal.status = .submitted) (hvalid : c.assessment.valid = true) :
    c.snapshot.candidateId ≠ parent.snapshot.candidateId ∧
      ∃ parentScore score, Scored config parent c parentScore score ∧
        (parentScore + config.improvementThreshold < score ∨
          (gate.improved = false ∧
            gate.cyclesWithoutImprovement = some (state.cyclesWithoutImprovement + 1))) := by
  cases h with
  | skipped hskipped => exact absurd hstatus hskipped
  | invalid _ _ hinvalid =>
    rw [hvalid] at hinvalid
    cases hinvalid
  | improved _ hne hscored hgain => exact ⟨hne, _, _, hscored, .inl hgain⟩
  | unimproved _ hne hscored _ _ _ himproved hn =>
    exact ⟨hne, _, _, hscored, .inr ⟨himproved, hn⟩⟩

lemma advances_of_overrules {archive : QDArchive} {gate : GateResult} {added : Bool}
    (hgates : Gates config state outcome.parent outcome.proposal outcome.child gate)
    (hstatus : outcome.proposal.status = .submitted) (hchild : outcome.child = some c)
    (hvalid : c.assessment.valid = true)
    (h : Overrules config state c gate outcome.decision added) :
    Advances config state (some archive) outcome := by
  rw [hchild] at hgates
  obtain ⟨hne, parentScore, score, hscored, hgate⟩ := scored_of_gates hgates hstatus hvalid
  cases h with
  | added score' hscore hdecided heffective himproved hcounter =>
    obtain rfl : score = score' := Except.ok.inj (hscored.child.symm.trans hscore)
    by_cases hgain : state.bestScore + config.improvementThreshold < score
    · have hrecords := himproved.mpr hgain
      refine .records ⟨hdecided, hrecords⟩ hchild hne hscored heffective ?_
        (fun hnone => absurd hnone (Option.some_ne_none _)) fun _ => hgain
      rw [GateResult.stagnationCount, hcounter, hrecords]
      rfl
    · have hunimproved : outcome.decision.improved = false :=
        Bool.eq_false_of_not_eq_true fun hrecords => hgain (himproved.mp hrecords)
      refine .stagnates (by rw [hdecided]; decide) (fun hrecords => ?_) ?_
      · exact hgain (himproved.mp hrecords.2)
      · rw [GateResult.stagnationCount, hcounter, hunimproved]
        rfl
  | refused hdecided heffective himproved hcounter =>
    rcases hgate with hgain | ⟨hunimproved, hn⟩
    · exact .refuses ⟨hdecided, c, hchild, parentScore, score, hscored, hgain⟩
    · refine .stagnates (by rw [hdecided]; decide) (fun hrecords => ?_) ?_
      · have hdecision := hrecords.1
        rw [hdecided] at hdecision
        cases hdecision
      · rw [GateResult.stagnationCount, hcounter, hn]
        rfl

/-- **How a cycle advances the counter**: the only cycle that does neither skip nor count nor
record is one in which the archive refuses a child that has improved on its parent. -/
theorem advances_of_cycles (h : Cycles ribs options services run outcome run') :
    Advances options.config run.state run.archive outcome := by
  cases h.decided with
  | gate hgates hkept hapart => exact advances_of_gates hgates hapart
  | archive hgates hbefore hchild hvalid hinserted hoverruled hafter =>
    rw [hbefore]
    rcases h.child with ⟨hstatus, -⟩ | ⟨-, hnone⟩
    · exact advances_of_overrules hgates hstatus hchild hvalid hoverruled
    · rw [hnone] at hchild
      cases hchild

/-- What a search remembers of its archive: it has one exactly when it is a quality-diversity
search. -/
def EvolutionRun.Searches (config : EvolutionConfig) (run : EvolutionRun) : Prop :=
  run.archive = none ↔ config.strategy = .hillClimb

lemma best_of_not_records (h : Cycles ribs options services run outcome run') (hrecords : ¬ outcome.Records) :
    run'.state.bestCandidateId = run.state.bestCandidateId ∧
      run'.state.bestScore = run.state.bestScore := by
  have hnone : outcome.decision.recorded outcome.child = none := by
    unfold GateResult.recorded
    unfold CycleOutcome.Records at hrecords
    cases outcome.child <;> cases outcome.decision.effectiveScore <;> simp [hrecords]
  have hbest := (nextEvolutionState_spec h.next).2.1
  rw [hnone, Option.getD_none, Prod.mk.injEq] at hbest
  exact hbest

lemma best_of_records (h : Cycles ribs options services run outcome run')
    (hrecords : outcome.Records) {score : ℚ} (hchild : outcome.child = some c)
    (heffective : outcome.decision.effectiveScore = some score) :
    run'.state.bestCandidateId = c.snapshot.candidateId ∧ run'.state.bestScore = score := by
  have hsome : outcome.decision.recorded outcome.child = some (c.snapshot.candidateId, score) := by
    unfold CycleOutcome.Records at hrecords
    simp [GateResult.recorded, hchild, heffective, hrecords]
  have hbest := (nextEvolutionState_spec h.next).2.1
  rw [hsome, Option.getD_some, Prod.mk.injEq] at hbest
  exact hbest

lemma not_records_of_skipped (h : outcome.decision.decision = .skipped) : ¬ outcome.Records := by
  intro hrecords
  have hdecision := hrecords.1
  rw [h] at hdecision
  cases hdecision

lemma not_records_of_rejected (h : outcome.decision.decision = .rejected) : ¬ outcome.Records := by
  intro hrecords
  have hdecision := hrecords.1
  rw [h] at hdecision
  cases hdecision

lemma stagnation_append (hunrecorded : ¬ outcome.Records) :
    stagnation (history ++ [outcome]) =
      stagnation history + if outcome.decision.decision = .skipped then 0 else 1 := by
  rw [stagnation, sinceRecord_append_of_not hunrecorded, List.countP_cons, ← stagnation]
  by_cases hskipped : outcome.decision.decision = .skipped <;> simp [hskipped]

/-- The counter counts the cycles since the last record, unless the archive has refused a gain
since then. -/
def Counts (config : EvolutionConfig) (state : EvolutionState) (history : List CycleOutcome) :
    Prop :=
  (∀ o ∈ sinceRecord history, ¬ RefusedGain config o) →
    state.cyclesWithoutImprovement = stagnation history

variable (h : Cycles ribs options services run outcome run')
include h

lemma counts_of_cycles (hcounts : Counts options.config run.state run.history) :
    Counts options.config run'.state (run.history ++ [outcome]) := by
  intro hrefused
  have hcount := (nextEvolutionState_spec h.next).1
  have hbefore : ¬ outcome.Records → ∀ o ∈ sinceRecord run.history,
      ¬ RefusedGain options.config o := by
    intro hunrecorded o ho
    rw [sinceRecord_append_of_not hunrecorded] at hrefused
    exact hrefused o (List.mem_cons_of_mem _ ho)
  cases advances_of_cycles h with
  | skips hskipped hn =>
    have hunrecorded := not_records_of_skipped hskipped
    rw [stagnation_append hunrecorded, if_pos hskipped, hcount, hn]
    exact hcounts (hbefore hunrecorded)
  | records hrecords hchild hne hscored heffective hn =>
    rw [stagnation, sinceRecord_append_of_records hrecords, hcount, hn]
    rfl
  | stagnates hdecided hunrecorded hn =>
    rw [stagnation_append hunrecorded, if_neg hdecided, hcount, hn,
      hcounts (hbefore hunrecorded)]
  | refuses hgain =>
    rw [sinceRecord_append_of_not (not_records_of_rejected hgain.1)] at hrefused
    exact absurd hgain (hrefused outcome List.mem_cons_self)

lemma recorded_of_cycles (hsearches : run.Searches options.config) (hrecords : outcome.Records) :
    ∃ child ∈ outcome.child, ∃ parentScore,
      Scored options.config outcome.parent child parentScore run'.state.bestScore ∧
        run'.state.bestCandidateId = child.snapshot.candidateId ∧
        run'.state.cyclesWithoutImprovement = 0 ∧
        (options.config.strategy = .hillClimb →
          outcome.parent.snapshot.candidateId = run.state.bestCandidateId ∧
            run'.state.bestCandidateId ≠ run.state.bestCandidateId ∧
            parentScore + options.config.improvementThreshold < run'.state.bestScore) ∧
        (options.config.strategy = .qd →
          run.state.bestScore + options.config.improvementThreshold < run'.state.bestScore) := by
  have hcount := (nextEvolutionState_spec h.next).1
  cases advances_of_cycles h with
  | skips hskipped => exact absurd hrecords (not_records_of_skipped hskipped)
  | stagnates _ hunrecorded => exact absurd hrecords hunrecorded
  | refuses hrefused => exact absurd hrecords (not_records_of_rejected hrefused.1)
  | @records c parentScore score _ hchild hne hscored heffective hn hhill hqd =>
    obtain ⟨hid, hscore⟩ := best_of_records h hrecords hchild heffective
    rw [hid, hscore, hcount, hn]
    refine ⟨c, hchild, parentScore, hscored, rfl, rfl, fun hstrategy => ?_, fun hstrategy => ?_⟩
    · have hnone := hsearches.mpr hstrategy
      have hbest : outcome.parent.snapshot.candidateId = run.state.bestCandidateId :=
        (parent_of_check h.checked).trans (h.hillClimb hnone)
      exact ⟨hbest, hbest ▸ hne, hhill hnone⟩
    · refine hqd fun hnone => ?_
      rw [hsearches.mp hnone] at hstrategy
      cases hstrategy

/-- **What one cycle does to the counter and to the best candidate.** -/
theorem stagnates_of_cycles (hsearches : run.Searches options.config)
    (hcounts : Counts options.config run.state run.history) :
    Stagnates options.config run.state run.history outcome run'.state := by
  have hcount := (nextEvolutionState_spec h.next).1
  have hkept := fun hrecords => best_of_not_records h hrecords
  have hrecorded := fun hrecords => recorded_of_cycles h hsearches hrecords
  have hadvances := advances_of_cycles h
  refine ⟨counts_of_cycles h hcounts, ?_, ?_, hkept, hrecorded, ?_⟩
  · intro hrejected hgain
    cases hadvances with
    | skips hskipped => rw [hrejected] at hskipped; cases hskipped
    | records hrecords => exact absurd hrecords (not_records_of_rejected hrejected)
    | stagnates _ _ hn => rw [hcount, hn]
    | refuses hrefused => exact absurd hrefused hgain
  · intro hskipped
    cases hadvances with
    | skips _ hn => rw [hcount, hn]
    | records hrecords => exact absurd hrecords (not_records_of_skipped hskipped)
    | stagnates hdecided => exact absurd hskipped hdecided
    | refuses hrefused => rw [hrefused.1] at hskipped; cases hskipped
  · intro hstrategy hthreshold
    by_cases hrecords : outcome.Records
    · obtain ⟨_, -, _, -, -, -, -, hgain⟩ := hrecorded hrecords
      have hlt := hgain hstrategy
      exact (le_add_of_nonneg_right hthreshold).trans hlt.le
    · exact (hkept hrecords).2.ge

lemma searches_of_cycles (hsearches : run.Searches options.config) :
    run'.Searches options.config := by
  cases h.decided with
  | gate hgates hkept hapart => rwa [EvolutionRun.Searches, hkept]
  | archive hgates hbefore hchild hvalid hinserted hoverruled hafter =>
    rw [EvolutionRun.Searches, hbefore] at hsearches
    rw [EvolutionRun.Searches, hafter, ← hsearches]
    simp

end Cycle

/-! ## Runs -/

section Runs

variable {ribs : CVTArchive} {options : RunOptions} {checks : CandidateChecks}
  {files : EvolutionFiles} {exported : WorkspaceSnapshot} {fresh run run' : EvolutionRun}

lemma searches_start (h : EvolutionRun.start ribs options checks files exported = .ok fresh) :
    fresh.Searches options.config ∧ Counts options.config fresh.state fresh.history := by
  simp only [EvolutionRun.start, bind_eq_ok] at h
  obtain ⟨graveyard, -, snapshot, -, batch, -, baseline, -, state, hstate, h⟩ := h
  simp only [EvolutionState.fromBaseline, bind_eq_ok, pure_eq_ok] at hstate
  obtain ⟨score, -, _, -, rfl⟩ := hstate
  cases hstrategy : options.config.strategy with
  | hillClimb =>
    rw [hstrategy] at h
    obtain rfl := pure_eq_ok.mp h
    exact ⟨⟨fun _ => hstrategy, fun _ => rfl⟩, fun _ => rfl⟩
  | qd =>
    rw [hstrategy] at h
    simp only [bind_eq_ok, pure_eq_ok, Prod.exists] at h
    obtain ⟨archive, snapshots, cycle, -, rfl⟩ := h
    refine ⟨⟨fun hnone => absurd hnone (Option.some_ne_none _), fun hhill => ?_⟩, fun _ => rfl⟩
    rw [hstrategy] at hhill
    cases hhill

lemma searches_of_cyclesWith {rounds : List CycleServices}
    (h : fresh.cyclesWith ribs options rounds = .ok run)
    (hfresh : fresh.Searches options.config ∧ Counts options.config fresh.state fresh.history) :
    run.Searches options.config ∧ Counts options.config run.state run.history := by
  induction rounds generalizing fresh with
  | nil =>
    obtain rfl := pure_eq_ok.mp h
    exact hfresh
  | cons services rounds ih =>
    rw [EvolutionRun.cyclesWith, List.foldlM_cons, bind_eq_ok] at h
    obtain ⟨next, hnext, hrest⟩ := h
    obtain ⟨outcome, hcycles⟩ := cycles_of_cycleWith hnext
    refine ih hrest ⟨searches_of_cycles hcycles hfresh.1, ?_⟩
    rw [hcycles.history]
    exact counts_of_cycles hcycles hfresh.2

/-- **Every cycle of every run**, in a hill climb and in a quality-diversity search, whatever the
gate and the archive decide: unless the archive has refused a gain since the last record, the
counter is the number of cycles since then that were not skipped; only a record changes the best
candidate; a rejected child whose gain was not refused never resets the counter; and the best
score of a quality-diversity search does not decrease. -/
theorem stagnates_of_cyclesWith {rounds : List CycleServices} {services : CycleServices}
    (hstart : EvolutionRun.start ribs options checks files exported = .ok fresh)
    (hrounds : fresh.cyclesWith ribs options rounds = .ok run)
    (hcycle : run.cycleWith ribs options services = .ok run') :
    ∃ outcome, run'.history = run.history ++ [outcome] ∧
      Stagnates options.config run.state run.history outcome run'.state := by
  obtain ⟨outcome, hcycles⟩ := cycles_of_cycleWith hcycle
  obtain ⟨hsearches, hcounts⟩ := searches_of_cyclesWith hrounds (searches_start hstart)
  exact ⟨outcome, hcycles.history, stagnates_of_cycles hcycles hsearches hcounts⟩

end Runs

/-! ## A best score that decreases -/

namespace Regression

/-- The reward of a candidate: the second batch is harder than the first. -/
def rewardOf (candidateId : String) (cycle : ℕ) : ℚ :=
  if cycle = 0 then 5 / 10 else if candidateId = "child-1" then 3 / 10 else 2 / 10

def checks : CandidateChecks where
  plan _ cycle := .ok
    { taskIds := ["ocean/wave"], trials := [{ trialId := "planned-1", taskId := "ocean/wave" }],
      evaluationCaseIds := ["case-1"], cycle := cycle.toNat }
  run snapshot batch := .ok
    [{ Swarm.Displaced.trial snapshot.candidateId with
      evaluation :=
        some ⟨rewardOf snapshot.candidateId batch.cycle, ⟨true, true, true, []⟩⟩ }]

def options : RunOptions where
  config := default
  runId := "run-1"

/-- A proposer that abstains. -/
def abstains : CycleServices where
  checks := checks
  selectMutationStrategy _ := .conservative
  shortlistCells cells := cells
  archiveAgent _ _ := .error "no archive"
  propose _ _ := .ok
    { status := .abstained, child := none, mutation := none, reasoning := "nothing to improve",
      usage := {} }
  commit _ := .ok ()
  now := "2026-04-07T10:01:00+00:00"

/-- A proposer that submits a child. -/
def submits : CycleServices :=
  { abstains with propose := fun _ _ => .ok (Swarm.Displaced.result "" "child-1").proposal }

def start : Except String EvolutionRun :=
  EvolutionRun.start Swarm.Displaced.oneCell options checks {} (Swarm.Displaced.snapshot "baseline")

/-- The run before and after the second cycle. -/
def runs : Except String (EvolutionRun × EvolutionRun × EvolutionRun) := do
  let fresh ← start
  let run ← fresh.cyclesWith Swarm.Displaced.oneCell options [abstains]
  let run' ← run.cycleWith Swarm.Displaced.oneCell options submits
  return (fresh, run, run')

lemma runs_eq_ok {fresh run run' : EvolutionRun} (h : runs = .ok (fresh, run, run')) :
    start = .ok fresh ∧
      fresh.cyclesWith Swarm.Displaced.oneCell options [abstains] = .ok run ∧
        run.cycleWith Swarm.Displaced.oneCell options submits = .ok run' := by
  simp only [runs, bind_eq_ok, pure_eq_ok, Prod.mk.injEq] at h
  obtain ⟨_, hstart, _, hrun, _, hcycle, rfl, rfl, rfl⟩ := h
  exact ⟨hstart, hrun, hcycle⟩

lemma exists_runs : ∃ fresh run run', runs = .ok (fresh, run, run') := by
  have hruns : runs.toOption.isSome = true := by decide +kernel
  cases h : runs with
  | ok r => exact ⟨r.1, r.2.1, r.2.2, rfl⟩
  | error e => rw [h] at hruns; cases hruns

end Regression

/-- The second cycle of a hill climb. -/
theorem stagnates_regression :
    ∃ fresh run run' outcome, Regression.runs = .ok (fresh, run, run') ∧
      run'.history = run.history ++ [outcome] ∧
        Stagnates Regression.options.config run.state run.history outcome run'.state := by
  obtain ⟨fresh, run, run', hruns⟩ := Regression.exists_runs
  obtain ⟨hstart, hrun, hcycle⟩ := Regression.runs_eq_ok hruns
  obtain ⟨outcome, hhistory, hstagnates⟩ := stagnates_of_cyclesWith hstart hrun hcycle
  exact ⟨fresh, run, run', outcome, hruns, hhistory, hstagnates⟩

/-- **A hill climb whose best score decreases**: the child improves on the baseline by the batch
of the second cycle, on which both have lower scores than the baseline had on the first. -/
theorem not_monotone_regression :
    ∃ fresh run run', Regression.start = .ok fresh ∧
      fresh.cyclesWith Swarm.Displaced.oneCell Regression.options [Regression.abstains] = .ok run ∧
        run.cycleWith Swarm.Displaced.oneCell Regression.options Regression.submits = .ok run' ∧
          run'.state.bestScore < run.state.bestScore := by
  obtain ⟨fresh, run, run', hruns⟩ := Regression.exists_runs
  obtain ⟨hstart, hrun, hcycle⟩ := Regression.runs_eq_ok hruns
  refine ⟨fresh, run, run', hstart, hrun, hcycle, ?_⟩
  have hscores : (Regression.runs.toOption.map fun r =>
      decide (r.2.2.state.bestScore < r.2.1.state.bestScore)) = some true := by decide +kernel
  rw [hruns] at hscores
  exact of_decide_eq_true (Option.some.inj hscores)

end AecBench.Evolution
