import AecBench.Ledger.EvidenceRunStore

/-!
# Promoted plans and the full factorial design

A plan is promoted when its counts, the sets of its releases and of its conditions and its
largest repetition agree with the specification. These leave room for a plan that runs one
combination twice and another never, and for a trial whose release or condition is not the one
of the specification, since of the trials of a task only the last is compared.

## Main definitions

* `FullFactorial` — the trials run each combination of the specification once.
* `Unrepeated`, `OwnParts` — what the guards of a promotion leave open.

## Main results

* `fullFactorial_iff_of_promoted` — a promoted plan is the full factorial design when and only
  when no combination is repeated and every trial carries what the specification lists.
* `Repeated.not_fullFactorial` — a promoted plan that runs its second repetition twice.
-/

namespace AecBench.Ledger

open AecBench.Contracts
open Validation

/-! ## The design -/

/-- The trials of the plan are the combinations of the specification, each once. -/
def FullFactorial (spec : ResolvedRunSpec) (plan : RunPlan) : Prop :=
  (plan.trials.map PlannedTrial.combination).Perm (grid spec)

/-- No two trials run one combination. -/
def Unrepeated (plan : RunPlan) : Prop := (plan.trials.map PlannedTrial.combination).Nodup

/-- Every trial carries a release and a condition of the specification. -/
def OwnParts (spec : ResolvedRunSpec) (plan : RunPlan) : Prop :=
  ∀ trial ∈ plan.trials,
    trial.taskRelease ∈ spec.taskReleases ∧ trial.agentCondition ∈ spec.agentConditions

instance (spec : ResolvedRunSpec) (plan : RunPlan) : Decidable (FullFactorial spec plan) :=
  inferInstanceAs (Decidable (List.Perm _ _))

/-! ## What a promotion guarantees -/

lemma valid_of_readOptional {α : Type} {errors : α → Errors} {file : String}
    {document : Option α} {r : Option α} (h : readOptional errors file document = .ok r) :
    document = r ∧ ∀ x ∈ r, errors x = [] := by
  cases document with
  | none => exact ⟨Except.ok.inj h, by simp [← Except.ok.inj h]⟩
  | some x =>
    by_cases hx : errors x = []
    · have hr : some x = r := by simpa [readOptional, hx] using h
      subst hr
      exact ⟨rfl, by simpa using hx⟩
    · simp [readOptional, hx] at h

lemma eq_of_bothRecords {s : Option ResolvedRunSpec} {t : Option EvidenceRunState}
    {r : ResolvedRunSpec × EvidenceRunState} (h : bothRecords s t = .ok r) : s = some r.1 := by
  cases s <;> cases t <;> simp [bothRecords] at h
  rw [← h]

/-- What the guards of a promotion say of the plan. -/
structure Promoted (spec : ResolvedRunSpec) (plan : RunPlan) : Prop where
  spec_valid : spec.errors = []
  ready : plan.state = .ready
  parts : validatePlanParts plan spec = .ok ()
  complete : validatePlanComplete plan spec = .ok ()

lemma promoted_of_accepted {id : EntityIdentity} {plan : RunPlan} {d : RunDirectory}
    {spec : ResolvedRunSpec} (hspec : d.spec = some spec) {p : Prepared RunPlan}
    (h : promoteReadyPlan id plan (some d) = .ok p) : Promoted spec plan := by
  simp only [promoteReadyPlan, validatePlanIdentity, require_bind_eq_ok] at h
  obtain ⟨-, hready, h⟩ := h
  obtain ⟨⟨d', found, state⟩, hread, h⟩ := bind_eq_ok.mp h
  obtain ⟨hvalidate, -⟩ := unit_bind_eq_ok.mp h
  obtain ⟨hparts, hcomplete⟩ := unit_bind_eq_ok.mp hvalidate
  simp only [requireSpecAndState, requireDirectory, ok_bind] at hread
  obtain ⟨s, hs, hread⟩ := bind_eq_ok.mp hread
  obtain ⟨t, -, hread⟩ := bind_eq_ok.mp hread
  obtain ⟨records, hboth, hread⟩ := bind_eq_ok.mp hread
  simp only [require_bind_eq_ok, pure_eq_ok] at hread
  obtain ⟨rfl, rfl, -⟩ : d = d' ∧ records.1 = found ∧ records.2 = state := by
    simpa [Prod.ext_iff] using hread.2.2
  obtain ⟨hsame, hvalid⟩ := valid_of_readOptional hs
  have hfound : spec = records.1 := by
    rw [hspec, eq_of_bothRecords hboth] at hsame
    exact Option.some.inj hsame
  subst hfound
  exact ⟨hvalid _ (eq_of_bothRecords hboth), hready, hparts, hcomplete⟩

namespace Promoted

variable {spec : ResolvedRunSpec} {plan : RunPlan} (h : Promoted spec plan)

include h

lemma repetition_le {trial : PlannedTrial} (htrial : trial ∈ plan.trials) :
    trial.repetition ≤ spec.repetitions := by
  have hparts := h.parts
  simp only [validatePlanParts, require_bind_eq_ok] at hparts
  exact hparts.2.2.2.2.2.1 trial htrial

lemma length_trials (hplan : plan.errors = []) : plan.trials.length = (grid spec).length := by
  have hcomplete := h.complete
  simp only [validatePlanComplete, require_bind_eq_ok, require_eq_ok] at hcomplete
  have hcounts := ((RunPlan.validatePlan_eq_ok h.ready).mp (RunPlan.errors_eq_nil.mp hplan).2.2).counts
  simp only [RunPlan.checkCounts, require_bind_eq_ok, require_eq_ok] at hcounts
  rw [length_grid, ← hcounts.2.2.1, hcomplete.2.2.2, Nat.mul_assoc]

lemma combination_mem (hown : OwnParts spec plan) :
    plan.trials.map PlannedTrial.combination ⊆ grid spec := by
  intro c hc
  obtain ⟨trial, htrial, rfl⟩ := List.mem_map.mp hc
  exact mem_grid.mpr ⟨(hown trial htrial).1, (hown trial htrial).2, h.repetition_le htrial⟩

end Promoted

/-- **A promoted plan** is the full factorial design when and only when no combination is repeated
and every trial carries a release and a condition of the specification. -/
theorem fullFactorial_iff_of_promoted {id : EntityIdentity} (plan : Model RunPlan.errors)
    {d : RunDirectory} {spec : ResolvedRunSpec} (hspec : d.spec = some spec)
    (h : ∃ p, promoteReadyPlan id plan.1 (some d) = .ok p) :
    FullFactorial spec plan.1 ↔ Unrepeated plan.1 ∧ OwnParts spec plan.1 := by
  obtain ⟨p, hp⟩ := h
  have hpromoted := promoted_of_accepted hspec hp
  constructor
  · intro hfull
    refine ⟨hfull.nodup_iff.mpr (nodup_grid (ResolvedRunSpec.parts hpromoted.spec_valid)), ?_⟩
    intro trial htrial
    have hmem : trial.combination ∈ grid spec := hfull.subset (List.mem_map_of_mem htrial)
    exact ⟨(mem_grid.mp hmem).1, (mem_grid.mp hmem).2.1⟩
  · rintro ⟨hnodup, hown⟩
    have hsub := hnodup.subperm (hpromoted.combination_mem hown)
    refine hsub.perm_of_length_le ?_
    rw [List.length_map, hpromoted.length_trials plan.2]

namespace Repeated

open Contracts.Colliding

def one : ℕ+ := Nat.succPNat 0

def two : ℕ+ := Nat.succPNat 1

/-- One task and one agent condition, twice. -/
def spec : ResolvedRunSpec := { single.spec with repetitions := two }

/-- A trial of the task and the condition. -/
def trial (ordinal repetition : ℕ+) : PlannedTrial where
  trialIdentity := identity ordinal ("trial-" ++ toString (ordinal : ℕ))
  ordinal
  runIdentity := spec.runIdentity
  taskRelease := release 1 "a"
  taskMetadata := (profile (release 1 "a")).metadata
  agentCondition := condition 2 "b"
  compute := spec.compute
  repetition
  seed := none
  executionFamily := .artifact
  familyRelease := none
  attemptRecipe := .singleAttempt
  evaluationProfile := none
  extensions := []

/-- A plan of two trials with the repetitions. -/
def plan (first second : ℕ+) (state : RunPlanState) : RunPlan where
  planIdentity := identity 92 "plan"
  runIdentity := spec.runIdentity
  createdAt := 0
  state
  trials := [trial one first, trial two second]
  summary :=
    { selectedTaskCount := one
      agentConditionCount := one
      repetitions := two
      totalTrials := two
      trialsByExecutionFamily := {.artifact, .artifact}
      trialsByBackend := {"docker", "docker"}
      visibilityPolicy := [.public]
      tasksByVisibility := {.public}
      deprecatedTaskCount := 0 }

lemma spec_valid : spec.errors = [] := by decide +kernel

lemma first_valid (state : RunPlanState) : (plan 1 two state).errors = [] := by
  cases state <;> decide +kernel

lemma second_valid (state : RunPlanState) : (plan two two state).errors = [] := by
  cases state <;> decide +kernel

/-- The directory in which the plan is a draft. -/
def drafted (first second : ℕ+) : RunDirectory where
  spec := some spec
  plan := some (plan first second .draft)
  state := some
    { state := .draft
      runIdentity := spec.runIdentity
      planIdentity := some (identity 92 "plan") }

lemma accepted_of_isSome (id : EntityIdentity) {plan : RunPlan} {d : Option RunDirectory}
    (h : (promoteReadyPlan id plan d).toOption.isSome = true) :
    ∃ p, promoteReadyPlan id plan d = .ok p := by
  cases hp : promoteReadyPlan id plan d with
  | error e => simp [hp, Except.toOption] at h
  | ok p => exact ⟨p, rfl⟩

/-- The first and the second repetition, once each. -/
theorem fullFactorial_iff_once : FullFactorial spec (plan 1 two .ready) ↔
    Unrepeated (plan 1 two .ready) ∧ OwnParts spec (plan 1 two .ready) :=
  fullFactorial_iff_of_promoted ⟨plan 1 two .ready, first_valid .ready⟩ (d := drafted 1 two) rfl
    (accepted_of_isSome spec.runIdentity (by decide +kernel))

/-- **A promoted plan that is not the design**: the calls of a store promote a plan whose two
trials are both the second repetition. -/
theorem not_fullFactorial :
    runJournal.machine.run (fun _ => none)
        [(.createRun ⟨spec, spec_valid⟩, 3),
          (.writeDraftPlan spec.runIdentity ⟨plan two two .draft, second_valid .draft⟩, 2)]
        (locator spec.runIdentity) = some (drafted two two) ∧
      (∃ p, promoteReadyPlan spec.runIdentity (plan two two .ready) (some (drafted two two)) = .ok p) ∧
      ¬ FullFactorial spec (plan two two .ready) := by
  refine ⟨by decide +kernel, accepted_of_isSome _ (by decide +kernel), ?_⟩
  decide +kernel

end Repeated

end AecBench.Ledger
