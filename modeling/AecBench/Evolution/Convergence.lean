import Mathlib.Data.List.Chain
import Mathlib.Tactic.Linarith
import AecBench.Evolution.Stagnation

/-!
# Convergence

A search stops when the best scores after its last cycles are flat. The check asks for one more
score than the window holds, and compares the scores of the window only: how far its first cycle
has raised the best score is not seen.

## Main definitions

* `Flat` — no two scores are further apart than the threshold.
* `EvolutionRun.bestScores` — the best score known at the start of a run and after every cycle.
* `Stagnated`, `LatestImproves` — none of the last cycles, or the very last one, raises it.
* `RisesWithin` — what the first cycle of a flat window and the later ones raise together.

## Main results

* `stops_stagnated_iff` — when a run that stops has stagnated.
* `not_stops_stagnated_improving` — a run that stops at an improvement.
-/

namespace AecBench.Evolution

open Validation

/-! ## Windows of scores -/

/-- No two scores are further apart than the threshold. -/
def Flat (threshold : ℚ) (scores : List ℚ) : Prop :=
  ∀ x ∈ scores, ∀ y ∈ scores, x - y ≤ threshold

/-- A list with more than `n` elements is split before its last `n`. -/
lemma exists_split_latest {α : Type} {xs : List α} {n : ℕ} (h : n + 1 ≤ xs.length) :
    ∃ earlier known, xs = earlier ++ known :: xs.drop (xs.length - n) := by
  have hlt : xs.length - (n + 1) < xs.length := by omega
  refine ⟨xs.take (xs.length - (n + 1)), xs[xs.length - (n + 1)], ?_⟩
  have hdrop := List.drop_eq_getElem_cons hlt
  rw [show xs.length - (n + 1) + 1 = xs.length - n by omega] at hdrop
  rw [← hdrop, List.take_append_drop]

lemma drop_append_cons {α : Type} (earlier : List α) (known : α) (window : List α) :
    (earlier ++ known :: window).drop ((earlier ++ known :: window).length - window.length) =
      window := by
  have hlength : (earlier ++ known :: window).length - window.length =
      (earlier ++ [known]).length := by
    simp only [List.length_append, List.length_cons, List.length_nil]
    omega
  rw [hlength]
  simp

lemma latest_of_split {earlier pre window : List ℚ} {known before latest : ℚ} (hne : window ≠ [])
    (h : earlier ++ known :: window = pre ++ [before, latest]) :
    latest ∈ window ∧ (before ∈ window ∨ before = known) := by
  induction window generalizing earlier known with
  | nil => exact absurd rfl hne
  | cons opening rest ih =>
    cases rest with
    | nil =>
      have hends := List.append_inj_right' h rfl
      simp only [List.cons.injEq, and_true] at hends
      exact ⟨by simp [hends.2], .inr hends.1.symm⟩
    | cons next rest =>
      rw [List.append_cons] at h
      obtain ⟨hlast, hbefore⟩ := ih (List.cons_ne_nil _ _) h
      refine ⟨List.mem_cons_of_mem _ hlast, .inl ?_⟩
      rcases hbefore with hbefore | rfl
      · exact List.mem_cons_of_mem _ hbefore
      · exact List.mem_cons_self

lemma spread_le_iff {threshold : ℚ} {scores : List ℚ} (h : scores ≠ []) :
    scores.max?.getD 0 - scores.min?.getD 0 ≤ threshold ↔ Flat threshold scores := by
  obtain ⟨highest, hmax⟩ := Option.isSome_iff_exists.mp (List.isSome_max?_of_ne_nil h)
  obtain ⟨lowest, hmin⟩ := Option.isSome_iff_exists.mp (List.isSome_min?_of_ne_nil h)
  obtain ⟨hhigh, habove⟩ := List.max?_eq_some_iff.mp hmax
  obtain ⟨hlow, hbelow⟩ := List.min?_eq_some_iff.mp hmin
  rw [hmax, hmin, Option.getD_some, Option.getD_some]
  constructor
  · intro hspread x hx y hy
    have hle := habove x hx
    have hge := hbelow y hy
    linarith
  · intro hflat
    exact hflat highest hhigh lowest hlow

/-- **The check**: more scores than the window holds, and a flat window. -/
theorem isConverged_iff {state : EvolutionState} {config : EvolutionConfig} :
    isConverged state config = true ↔ ∃ earlier known window,
      state.bestScoreHistory = earlier ++ known :: window ∧
        window.length = config.stagnationWindow ∧ Flat config.improvementThreshold window := by
  have hpos := config.stagnationWindow.pos
  simp only [isConverged, decide_eq_true_eq]
  constructor
  · rintro ⟨hlength, hspread⟩
    obtain ⟨earlier, known, hsplit⟩ := exists_split_latest hlength
    refine ⟨earlier, known, _, hsplit, by rw [List.length_drop]; omega, ?_⟩
    refine (spread_le_iff fun hnil => ?_).mp hspread
    have hempty := congrArg List.length hnil
    rw [List.length_drop, List.length_nil] at hempty
    omega
  · rintro ⟨earlier, known, window, hsplit, hlength, hflat⟩
    have hwindow : state.bestScoreHistory.drop
        (state.bestScoreHistory.length - config.stagnationWindow) = window := by
      rw [hsplit, ← hlength]
      exact drop_append_cons earlier known window
    rw [hwindow]
    refine ⟨?_, (spread_le_iff fun hnil => ?_).mpr hflat⟩
    · rw [hsplit, List.length_append, List.length_cons]
      omega
    · rw [hnil, List.length_nil] at hlength
      omega

/-! ## What a stop should mean -/

/-- A window of cycles lies behind, none of which has raised the best score known before them by
more than the threshold. -/
def Stagnated (config : EvolutionConfig) (scores : List ℚ) : Prop :=
  ∃ earlier known window, scores = earlier ++ known :: window ∧
    window.length = config.stagnationWindow ∧
      ∀ score ∈ window, score ≤ known + config.improvementThreshold

/-- The latest cycle raises the best score by more than the threshold. -/
def LatestImproves (config : EvolutionConfig) (scores : List ℚ) : Prop :=
  ∃ earlier before latest, scores = earlier ++ [before, latest] ∧
    before + config.improvementThreshold < latest

/-- After a flat window, what its first cycle has raised the best score by, which the window does
not show, and what later ones have raised it by since, stay within the threshold together. -/
def RisesWithin (config : EvolutionConfig) (scores : List ℚ) : Prop :=
  ∀ earlier known opening rest, scores = earlier ++ known :: opening :: rest →
    rest.length + 1 = config.stagnationWindow →
      Flat config.improvementThreshold (opening :: rest) →
        ∀ score ∈ opening :: rest,
          (opening - known) + (score - opening) ≤ config.improvementThreshold

/-- The first cycle of a flat window leaves the best score as it is. -/
def OpensFlat (config : EvolutionConfig) (scores : List ℚ) : Prop :=
  ∀ earlier known opening rest, scores = earlier ++ known :: opening :: rest →
    rest.length + 1 = config.stagnationWindow →
      Flat config.improvementThreshold (opening :: rest) → opening = known

/-- Every cycle leaves the best score or raises it by more than the threshold. -/
def Leaps (threshold : ℚ) : List ℚ → Prop := List.IsChain fun before after =>
  after = before ∨ before + threshold < after

section Scores

variable {config : EvolutionConfig} {scores : List ℚ}

lemma eq_opening_of_leaps {threshold opening : ℚ} {rest : List ℚ}
    (hleaps : Leaps threshold (opening :: rest)) (hflat : Flat threshold (opening :: rest)) :
    ∀ score ∈ opening :: rest, score = opening := by
  induction rest generalizing opening with
  | nil => simp
  | cons next rest ih =>
    obtain ⟨hstep, hrest⟩ := List.isChain_cons_cons.mp hleaps
    have hnear := hflat next (by simp) opening (by simp)
    have hnext : next = opening := by
      rcases hstep with heq | hleap
      · exact heq
      · linarith
    subst hnext
    have htail := ih hrest fun x hx y hy => hflat x (by simp [hx]) y (by simp [hy])
    intro score hscore
    rcases List.mem_cons.mp hscore with rfl | hscore
    · rfl
    · exact htail score hscore

lemma risesWithin_iff_of_leaps (hthreshold : 0 ≤ config.improvementThreshold)
    (hleaps : Leaps config.improvementThreshold scores) :
    RisesWithin config scores ↔ OpensFlat config scores := by
  constructor
  · intro hrises earlier known opening rest hsplit hlength hflat
    have hrise := hrises earlier known opening rest hsplit hlength hflat opening
      List.mem_cons_self
    rw [Leaps, hsplit] at hleaps
    rcases (List.isChain_cons_cons.mp hleaps.right_of_append).1 with heq | hleap
    · exact heq
    · linarith
  · intro hopens earlier known opening rest hsplit hlength hflat score hscore
    have hopening := hopens earlier known opening rest hsplit hlength hflat
    rw [Leaps, hsplit] at hleaps
    have hall := eq_opening_of_leaps (List.isChain_cons_cons.mp hleaps.right_of_append).2 hflat
    rw [hall score hscore, hopening]
    linarith

/-- A flat window behind a score: a stop means what it should when and only when the rises of the
window stay within the threshold. -/
lemma stagnated_iff_risesWithin :
    ((∃ earlier known window, scores = earlier ++ known :: window ∧
        window.length = config.stagnationWindow ∧ Flat config.improvementThreshold window) →
      Stagnated config scores ∧ ¬ LatestImproves config scores) ↔ RisesWithin config scores := by
  have hpos := config.stagnationWindow.pos
  constructor
  · intro hstop earlier known opening rest hsplit hlength hflat score hscore
    obtain ⟨⟨earlier', known', window', hsplit', hlength', hwithin⟩, -⟩ :=
      hstop ⟨earlier, known, opening :: rest, hsplit, hlength, hflat⟩
    have hsame : earlier.length = earlier'.length := by
      have hboth := congrArg List.length (hsplit.symm.trans hsplit')
      simp only [List.length_append, List.length_cons] at hboth
      omega
    obtain ⟨-, htail⟩ := List.append_inj (hsplit.symm.trans hsplit') hsame
    obtain ⟨rfl, rfl⟩ := List.cons.inj htail
    have hle := hwithin score hscore
    linarith
  · rintro hrises ⟨earlier, known, window, hsplit, hlength, hflat⟩
    obtain ⟨opening, rest, rfl⟩ : ∃ opening rest, window = opening :: rest := by
      cases window with
      | nil =>
        rw [List.length_nil] at hlength
        omega
      | cons opening rest => exact ⟨opening, rest, rfl⟩
    have hwithin := hrises earlier known opening rest hsplit hlength hflat
    refine ⟨⟨earlier, known, opening :: rest, hsplit, hlength, fun score hscore => ?_⟩, ?_⟩
    · have hle := hwithin score hscore
      linarith
    · rintro ⟨pre, before, latest, hlatest, hgain⟩
      obtain ⟨hlast, hbefore⟩ := latest_of_split (List.cons_ne_nil _ _) (hsplit.symm.trans hlatest)
      rcases hbefore with hbefore | rfl
      · have hle := hflat latest hlast before hbefore
        linarith
      · have hle := hwithin latest hlast
        linarith

end Scores

/-! ## Runs -/

/-- The best score known at the start of a run and after each of its cycles. -/
def EvolutionRun.bestScores (ribs : CVTArchive) (options : RunOptions) (run : EvolutionRun) :
    List CycleServices → List ℚ
  | [] => [run.state.bestScore]
  | services :: rounds =>
    run.state.bestScore :: (run.cycleWith ribs options services).toOption.elim [] fun next =>
      next.bestScores ribs options rounds

section Runs

variable {ribs : CVTArchive} {options : RunOptions} {checks : CandidateChecks}
  {files : EvolutionFiles} {exported : WorkspaceSnapshot} {fresh run run' : EvolutionRun}
  {services : CycleServices} {rounds : List CycleServices}

lemma bestScores_cons (h : run.cycleWith ribs options services = .ok run') :
    run.bestScores ribs options (services :: rounds) =
      run.state.bestScore :: run'.bestScores ribs options rounds := by
  rw [EvolutionRun.bestScores, h]
  rfl

lemma exists_bestScores_eq_cons :
    ∃ later, run.bestScores ribs options rounds = run.state.bestScore :: later := by
  cases rounds with
  | nil => exact ⟨[], rfl⟩
  | cons services rounds => exact ⟨_, rfl⟩

lemma cyclesWith_cons :
    run.cyclesWith ribs options (services :: rounds) = .ok run' ↔
      ∃ next, run.cycleWith ribs options services = .ok next ∧
        next.cyclesWith ribs options rounds = .ok run' := by
  rw [EvolutionRun.cyclesWith, List.foldlM_cons, bind_eq_ok]
  rfl

lemma bestScoreHistory_of_cyclesWith {earlier : List ℚ}
    (h : run.cyclesWith ribs options rounds = .ok run')
    (hstate : run.state.bestScoreHistory = earlier ++ [run.state.bestScore]) :
    run'.state.bestScoreHistory = earlier ++ run.bestScores ribs options rounds := by
  induction rounds generalizing run earlier with
  | nil =>
    obtain rfl := pure_eq_ok.mp h
    exact hstate
  | cons services rounds ih =>
    obtain ⟨next, hnext, hrest⟩ := cyclesWith_cons.mp h
    obtain ⟨outcome, hcycles⟩ := cycles_of_cycleWith hnext
    have hhistory := (nextEvolutionState_spec hcycles.next).2.2.2.2
    rw [ih hrest hhistory, hstate, bestScores_cons hnext, List.append_assoc]
    rfl

lemma leaps_bestScores (h : run.cyclesWith ribs options rounds = .ok run')
    (hsearches : run.Searches options.config) (hstrategy : options.config.strategy = .qd) :
    Leaps options.config.improvementThreshold (run.bestScores ribs options rounds) := by
  induction rounds generalizing run with
  | nil => exact List.isChain_singleton _
  | cons services rounds ih =>
    obtain ⟨next, hnext, hrest⟩ := cyclesWith_cons.mp h
    obtain ⟨outcome, hcycles⟩ := cycles_of_cycleWith hnext
    have hchain := ih hrest (searches_of_cycles hcycles hsearches)
    rw [bestScores_cons hnext]
    obtain ⟨later, hlater⟩ : ∃ later, next.bestScores ribs options rounds =
        next.state.bestScore :: later := exists_bestScores_eq_cons
    rw [hlater] at hchain ⊢
    refine List.isChain_cons_cons.mpr ⟨?_, hchain⟩
    by_cases hrecords : outcome.Records
    · obtain ⟨_, -, _, -, -, -, -, hgain⟩ := recorded_of_cycles hcycles hsearches hrecords
      exact .inr (hgain hstrategy)
    · exact .inl (best_of_not_records hcycles hrecords).2

lemma bestScoreHistory_start
    (h : EvolutionRun.start ribs options checks files exported = .ok fresh) :
    fresh.state.bestScoreHistory = [] ++ [fresh.state.bestScore] := by
  simp only [EvolutionRun.start, bind_eq_ok] at h
  obtain ⟨graveyard, -, snapshot, -, batch, -, baseline, -, state, hstate, h⟩ := h
  simp only [EvolutionState.fromBaseline, bind_eq_ok, pure_eq_ok] at hstate
  obtain ⟨score, -, _, -, rfl⟩ := hstate
  cases hstrategy : options.config.strategy with
  | hillClimb =>
    rw [hstrategy] at h
    obtain rfl := pure_eq_ok.mp h
    rfl
  | qd =>
    rw [hstrategy] at h
    simp only [bind_eq_ok, pure_eq_ok, Prod.exists] at h
    obtain ⟨archive, snapshots, cycle, -, rfl⟩ := h
    rfl

end Runs

/-! ## A stop at an improvement -/

namespace Improving

/-- A window of one cycle. -/
def options : RunOptions where
  config := { (default : EvolutionConfig) with stagnationWindow := ⟨1, Nat.one_pos⟩ }
  runId := "run-1"

/-- The first child is better than the baseline. -/
def checks : CandidateChecks where
  plan := Regression.checks.plan
  run snapshot _ := .ok
    [{ Swarm.Displaced.trial snapshot.candidateId with
      evaluation :=
        some ⟨if snapshot.candidateId = "child-1" then 9 / 10 else 5 / 10,
          ⟨true, true, true, []⟩⟩ }]

def submits : CycleServices := { Regression.submits with checks := checks }

/-- The run before and after its first cycle. -/
def runs : Except String (EvolutionRun × EvolutionRun) := do
  let fresh ← EvolutionRun.start Swarm.Displaced.oneCell options checks {}
    (Swarm.Displaced.snapshot "baseline")
  let run ← fresh.cyclesWith Swarm.Displaced.oneCell options [submits]
  return (fresh, run)

/-- The check passes, and the best scores before and after the cycle. -/
def outcome : Option (Bool × List ℚ) :=
  runs.toOption.map fun r => (isConverged r.2.state options.config,
    r.1.bestScores Swarm.Displaced.oneCell options [submits])

end Improving

end AecBench.Evolution
