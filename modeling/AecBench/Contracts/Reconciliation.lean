import AecBench.Contracts.RunAccounting

/-!
# Reconciliation

The accounting of a run is exact when the observations of each trial are judged by their content:
when what is written of them tells apart what differs. Then each planned trial is accepted, missing
or invalid, a trial is accepted when its observations are equal, have ended and match the plan, the
records of invalid and of unexpected trials are quarantined, and the order of the observations does
not count.

## Main definitions

* `Accounts` — what the observations of a planned trial can add, case by case.
* `Reconciles` — what an accounting has to say of the observations.
* `AccountsExactly` — an accounting that returns, reconciles and does not depend on the order.
* `JudgedByContent` — the condition on the observations of a trial.

## Main results

* `accountsExactly_iff` — an accounting is exact when and only when the plan is one for the
  specification and the observations of each trial are judged by content.
* `Reordered.not_accountsExactly` — two records written alike, with different manifests.
-/

namespace AecBench.Contracts

open Validation

/-! ## What one trial adds -/

section Trial

variable {spec : ResolvedRunSpec} {trial : PlannedTrial}

/-- The outcomes and what is written of the records agree. -/
def AllAgree (current : List TrialAccountingObservation) : Prop :=
  ∀ o ∈ current, ∀ o' ∈ current,
    o.outcome = o'.outcome ∧ o.record.map TrialRecord.dump = o'.record.map TrialRecord.dump

/-- The observations are equal. -/
def AllSame (current : List TrialAccountingObservation) : Prop :=
  ∀ o ∈ current, ∀ o' ∈ current,
    o.outcome = o'.outcome ∧ o.record.map (·.value) = o'.record.map (·.value)

/-- A trial has ended, with a record that matches the plan. -/
def MatchesPlan (spec : ResolvedRunSpec) (trial : PlannedTrial) (o : TrialAccountingObservation) :
    Prop :=
  o.outcome.Terminal ∧ ∃ r ∈ o.record, recordMatchesPlan r.value trial spec o.outcome

variable {o : TrialAccountingObservation} {rest : List TrialAccountingObservation}

lemma observationsEqual_iff : observationsEqual o rest ↔ AllAgree (o :: rest) := by
  constructor
  · intro h
    have hfirst : ∀ a ∈ o :: rest, a.outcome = o.outcome ∧
        a.record.map TrialRecord.dump = o.record.map TrialRecord.dump := by
      intro a ha
      rcases List.mem_cons.mp ha with rfl | ha
      · exact ⟨rfl, rfl⟩
      · exact h a ha
    intro a ha b hb
    exact ⟨(hfirst a ha).1.trans (hfirst b hb).1.symm, (hfirst a ha).2.trans (hfirst b hb).2.symm⟩
  · intro h a ha
    exact h a (List.mem_cons_of_mem _ ha) o List.mem_cons_self

lemma allAgree_singleton (o : TrialAccountingObservation) : AllAgree [o] := by
  intro a ha b hb
  rw [List.mem_singleton.mp ha, List.mem_singleton.mp hb]
  exact ⟨rfl, rfl⟩

/-- What the observations of a planned trial can add, case by case. -/
inductive Accounts (spec : ResolvedRunSpec) (trial : PlannedTrial) :
    List TrialAccountingObservation → Tally → Prop
  | absent : Accounts spec trial [] { missing := [trial.trialIdentity.id] }
  | missing {o : TrialAccountingObservation} {rest : List TrialAccountingObservation}
      {d : List EntityId} (hagree : AllAgree (o :: rest)) (ho : o.outcome = .missing)
      (hd : d.Sublist [trial.trialIdentity.id]) :
      Accounts spec trial (o :: rest) { missing := [trial.trialIdentity.id], duplicates := d }
  | accepted {o : TrialAccountingObservation} {rest : List TrialAccountingObservation}
      {d : List EntityId} {r : TrialRecord} (hagree : AllAgree (o :: rest))
      (ho : o.outcome.Terminal) (hr : o.record = some r)
      (hmatch : recordMatchesPlan r.value trial spec o.outcome)
      (hd : d.Sublist [trial.trialIdentity.id]) :
      Accounts spec trial (o :: rest)
        { accepted := [(trial.trialIdentity.id, r, o.outcome)], duplicates := d }
  | rejected {o : TrialAccountingObservation} {rest : List TrialAccountingObservation}
      {d : List EntityId} (hagree : AllAgree (o :: rest)) (ho : o.outcome ≠ .missing)
      (hmatch : ¬ MatchesPlan spec trial o) (hd : d.Sublist [trial.trialIdentity.id]) :
      Accounts spec trial (o :: rest)
        { invalid := [trial.trialIdentity.id], quarantined := o.record.toList, duplicates := d }
  | conflicting {current : List TrialAccountingObservation} (h : ¬ AllAgree current) :
      Accounts spec trial current
        { duplicates := [trial.trialIdentity.id]
          conflicting := [trial.trialIdentity.id]
          quarantined := current.filterMap (·.record)
          invalid := [trial.trialIdentity.id] }

lemma accounts_observation {d : List EntityId} (hagree : AllAgree (o :: rest))
    (hd : d.Sublist [trial.trialIdentity.id]) :
    Accounts spec trial (o :: rest) { accountObservation spec trial o with duplicates := d } := by
  by_cases hmissing : o.outcome = .missing
  · rw [accountObservation, if_pos hmissing]
    exact .missing hagree hmissing hd
  · by_cases hinvalid : o.outcome = .invalid
    · rw [accountObservation, if_neg hmissing, if_pos hinvalid]
      exact .rejected hagree hmissing (fun hmatch => hmatch.1.1 hinvalid) hd
    · rw [accountObservation, if_neg hmissing, if_neg hinvalid]
      cases hr : o.record with
      | none =>
        have hnone : ¬ MatchesPlan spec trial o := fun hmatch => by simpa [hr] using hmatch.2
        have hrejected := Accounts.rejected hagree hmissing hnone hd
        rw [hr] at hrejected
        exact hrejected
      | some r =>
        by_cases hmatch : recordMatchesPlan r.value trial spec o.outcome
        · simp only [if_pos hmatch]
          exact .accepted hagree ⟨hinvalid, hmissing⟩ hr hmatch hd
        · simp only [if_neg hmatch]
          have hplan : ¬ MatchesPlan spec trial o := by
            rintro ⟨-, r', hr', hmatch'⟩
            rw [hr, Option.mem_def, Option.some.injEq] at hr'
            exact hmatch (hr' ▸ hmatch')
          have hrejected := Accounts.rejected hagree hmissing hplan hd
          rw [hr] at hrejected
          exact hrejected

lemma accounts (spec : ResolvedRunSpec) (trial : PlannedTrial)
    (current : List TrialAccountingObservation) :
    Accounts spec trial current (accountTrial spec trial current) := by
  match current with
  | [] => exact .absent
  | [o] =>
    have hone : accountTrial spec trial [o] =
        { accountObservation spec trial o with duplicates := [] } := by
      simp only [accountTrial, accountObservation]
      split_ifs <;> try rfl
      split
      · rfl
      · split_ifs <;> rfl
    rw [hone]
    exact accounts_observation (allAgree_singleton o) (List.nil_sublist _)
  | first :: second :: rest =>
    by_cases hagree : observationsEqual first (second :: rest)
    · rw [accountTrial, if_pos hagree]
      exact accounts_observation (observationsEqual_iff.mp hagree) (List.Sublist.refl _)
    · rw [accountTrial, if_neg hagree]
      exact .conflicting fun h => hagree (observationsEqual_iff.mpr h)

end Trial

/-! ## What the trials add together -/

section Tally

variable {spec : ResolvedRunSpec} {plan : RunPlan} {observations : List TrialAccountingObservation}

/-- What the observations of a planned trial add. -/
def ownTally (spec : ResolvedRunSpec) (observations : List TrialAccountingObservation)
    (trial : PlannedTrial) : Tally :=
  accountTrial spec trial (grouped observations trial.trialIdentity.id.text)

lemma accounts_own (spec : ResolvedRunSpec) (observations : List TrialAccountingObservation)
    (trial : PlannedTrial) :
    Accounts spec trial (grouped observations trial.trialIdentity.id.text)
      (ownTally spec observations trial) := accounts _ _ _

lemma foldl_append_part {β : Type} (f : Tally → List β)
    (hf : ∀ s t, f (s.append t) = f s ++ f t) (g : PlannedTrial → Tally) (trials : List PlannedTrial)
    (s : Tally) :
    f (trials.foldl (fun tally trial => tally.append (g trial)) s) =
      f s ++ trials.flatMap fun trial => f (g trial) := by
  induction trials generalizing s with
  | nil => simp
  | cons trial trials ih => rw [List.foldl_cons, ih, hf, List.flatMap_cons, List.append_assoc]

lemma tally_accepted : (tallyOf spec plan observations).accepted =
    plan.trials.flatMap fun trial => (ownTally spec observations trial).accepted :=
  foldl_append_part Tally.accepted (fun _ _ => rfl) _ _ _

lemma tally_missing : (tallyOf spec plan observations).missing =
    plan.trials.flatMap fun trial => (ownTally spec observations trial).missing :=
  foldl_append_part Tally.missing (fun _ _ => rfl) _ _ _

lemma tally_invalid : (tallyOf spec plan observations).invalid =
    plan.trials.flatMap fun trial => (ownTally spec observations trial).invalid :=
  foldl_append_part Tally.invalid (fun _ _ => rfl) _ _ _

lemma tally_duplicates : (tallyOf spec plan observations).duplicates =
    plan.trials.flatMap fun trial => (ownTally spec observations trial).duplicates :=
  foldl_append_part Tally.duplicates (fun _ _ => rfl) _ _ _

lemma tally_conflicting : (tallyOf spec plan observations).conflicting =
    plan.trials.flatMap fun trial => (ownTally spec observations trial).conflicting :=
  foldl_append_part Tally.conflicting (fun _ _ => rfl) _ _ _

lemma tally_quarantined : (tallyOf spec plan observations).quarantined =
    ((unexpectedIds plan observations).flatMap fun trialId =>
        (grouped observations trialId).filterMap (·.record)) ++
      plan.trials.flatMap fun trial => (ownTally spec observations trial).quarantined :=
  foldl_append_part Tally.quarantined (fun _ _ => rfl) _ _ _

variable {current : List TrialAccountingObservation}

lemma Accounts.placed {trial : PlannedTrial} {t : Tally} (h : Accounts spec trial current t) :
    t.accepted.map (·.1) ++ t.missing ++ t.invalid = [trial.trialIdentity.id] := by
  cases h <;> rfl

lemma Accounts.marked {trial : PlannedTrial} {t : Tally} (h : Accounts spec trial current t) :
    t.duplicates.Sublist [trial.trialIdentity.id] ∧ t.conflicting.Sublist t.duplicates ∧
      t.conflicting ⊆ t.invalid := by
  cases h with
  | absent => exact ⟨List.nil_sublist _, List.nil_sublist _, List.nil_subset _⟩
  | missing _ _ hd | accepted _ _ _ _ hd | rejected _ _ _ hd =>
    exact ⟨hd, List.nil_sublist _, List.nil_subset _⟩
  | conflicting => exact ⟨List.Sublist.refl _, List.Sublist.refl _, List.Subset.refl _⟩

lemma Accounts.terminal {trial : PlannedTrial} {t : Tally} (h : Accounts spec trial current t) :
    ∀ outcome ∈ t.accepted.map (·.2.2), outcome.Terminal := by
  cases h with
  | accepted _ ho => simpa using ho
  | _ => simp

lemma tally_partition (spec : ResolvedRunSpec) (plan : RunPlan)
    (observations : List TrialAccountingObservation) :
    ((tallyOf spec plan observations).accepted.map (·.1) ++
      (tallyOf spec plan observations).missing ++ (tallyOf spec plan observations).invalid).Perm
      (plan.trials.map (·.trialIdentity.id)) := by
  rw [tally_accepted, tally_missing, tally_invalid, List.map_flatMap]
  have hfirst := List.flatMap_append_perm plan.trials
    (fun trial => (ownTally spec observations trial).accepted.map (·.1))
    fun trial => (ownTally spec observations trial).missing
  refine (hfirst.append_right _).trans ((List.flatMap_append_perm _ _ _).trans ?_)
  have hown : ∀ trial, (ownTally spec observations trial).accepted.map (·.1) ++
      (ownTally spec observations trial).missing ++ (ownTally spec observations trial).invalid =
      [trial.trialIdentity.id] := fun trial => (accounts_own _ _ trial).placed
  simp only [hown]
  rw [List.map_eq_flatMap]

variable {f : PlannedTrial → List EntityId}

lemma sublist_flatMap {trials : List PlannedTrial}
    (h : ∀ trial, (f trial).Sublist [trial.trialIdentity.id]) :
    (trials.flatMap f).Sublist (trials.map (·.trialIdentity.id)) := by
  induction trials with
  | nil => exact List.Sublist.refl _
  | cons trial trials ih =>
    exact (h trial).append ih

lemma mem_flatMap_own (hf : ∀ trial, f trial ⊆ [trial.trialIdentity.id])
    (hnodup : (plan.trials.map (·.trialIdentity.id)).Nodup) {trial : PlannedTrial}
    (ht : trial ∈ plan.trials) :
    trial.trialIdentity.id ∈ plan.trials.flatMap f ↔ trial.trialIdentity.id ∈ f trial := by
  rw [List.mem_flatMap]
  constructor
  · rintro ⟨other, hother, hmem⟩
    have hsame := List.mem_singleton.mp (hf other hmem)
    obtain rfl := List.inj_on_of_nodup_map hnodup ht hother hsame
    exact hmem
  · intro hmem
    exact ⟨trial, ht, hmem⟩

lemma count_terminal {outcomes : List RunTrialOutcome} (h : ∀ o ∈ outcomes, o.Terminal) :
    outcomes.length = outcomes.count .succeeded + outcomes.count .failed +
      outcomes.count .cancelled + outcomes.count .timedOut := by
  induction outcomes with
  | nil => rfl
  | cons o outcomes ih =>
    have hrest := ih fun x hx => h x (List.mem_cons_of_mem _ hx)
    have ho := h o List.mem_cons_self
    cases o with
    | invalid => exact absurd rfl ho.1
    | missing => exact absurd rfl ho.2
    | _ => simp [hrest]; omega

end Tally

/-! ## The accounting as a whole -/

section Whole

variable {spec : ResolvedRunSpec} {plan : RunPlan} {observations : List TrialAccountingObservation}
  {cancellationRequested : Bool}

/-- The plan is one for the specification. -/
def Belongs (spec : ResolvedRunSpec) (plan : RunPlan) : Prop :=
  spec.runIdentity = plan.runIdentity ∧ ∀ trial ∈ plan.trials,
    trial.taskRelease ∈ spec.taskReleases ∧ trial.agentCondition ∈ spec.agentConditions ∧
      trial.compute = spec.compute ∧ trial.evaluationProfile = spec.evaluationRegime

/-- What the accounting of a plan for the specification returns. -/
def resultOf (spec : ResolvedRunSpec) (plan : RunPlan)
    (observations : List TrialAccountingObservation) (cancellationRequested : Bool) :
    RunAccountingResult :=
  let tally := tallyOf spec plan observations
  { accounting := accountingOf plan observations cancellationRequested tally
      (countsOf plan observations tally)
    acceptedRecords := tally.accepted.map (·.2.1)
    quarantinedRecords := tally.quarantined }

lemma tally_terminal (spec : ResolvedRunSpec) (plan : RunPlan)
    (observations : List TrialAccountingObservation) :
    ∀ outcome ∈ (tallyOf spec plan observations).accepted.map (·.2.2), outcome.Terminal := by
  intro outcome houtcome
  rw [tally_accepted, List.map_flatMap] at houtcome
  obtain ⟨trial, -, houtcome⟩ := List.mem_flatMap.mp houtcome
  exact (accounts_own _ _ trial).terminal outcome houtcome

lemma countsOf_valid (spec : ResolvedRunSpec) (plan : RunPlan)
    (observations : List TrialAccountingObservation) :
    (countsOf plan observations (tallyOf spec plan observations)).errors = [] := by
  rw [RunAccountingCounts.errors, record_eq_nil]
  refine ⟨by simp, require_eq_ok.mpr ?_⟩
  have hplaced := (tally_partition spec plan observations).length_eq
  have hcount := count_terminal (tally_terminal spec plan observations)
  simp only [List.length_append, List.length_map] at hplaced hcount
  simp only [countsOf]
  omega

lemma nodup_unexpectedIds : (unexpectedIds plan observations).Nodup :=
  (List.perm_insertionSort _ _).nodup_iff.mpr ((List.nodup_dedup _).filter _)

lemma accountingOf_valid (spec : ResolvedRunSpec)
    (observations : List TrialAccountingObservation) (cancellationRequested : Bool) (hnodup : (plan.trials.map (·.trialIdentity.id)).Nodup) :
    (resultOf spec plan observations cancellationRequested).accounting.errors = [] := by
  have hplaced := (tally_partition spec plan observations).nodup_iff.mpr hnodup
  obtain ⟨hleft, hinvalid, happart⟩ := List.nodup_append'.mp hplaced
  obtain ⟨haccepted, hmissing, happart'⟩ := List.nodup_append'.mp hleft
  have hduplicates : (tallyOf spec plan observations).duplicates.Nodup := by
    rw [tally_duplicates]
    exact hnodup.sublist (sublist_flatMap fun trial => (accounts_own _ _ trial).marked.1)
  have hmarked : ∀ id ∈ (tallyOf spec plan observations).conflicting,
      id ∈ (tallyOf spec plan observations).duplicates ∧
        id ∈ (tallyOf spec plan observations).invalid := by
    intro id hid
    rw [tally_conflicting] at hid
    obtain ⟨trial, ht, hid⟩ := List.mem_flatMap.mp hid
    rw [tally_duplicates, tally_invalid]
    exact ⟨List.mem_flatMap.mpr ⟨trial, ht, (accounts_own _ _ trial).marked.2.1.subset hid⟩,
      List.mem_flatMap.mpr ⟨trial, ht, (accounts_own _ _ trial).marked.2.2 hid⟩⟩
  have hconflicting : (tallyOf spec plan observations).conflicting.Nodup := by
    rw [tally_conflicting]
    exact hnodup.sublist (sublist_flatMap fun trial =>
      (accounts_own _ _ trial).marked.2.1.trans (accounts_own _ _ trial).marked.1)
  rw [RunAccounting.errors, record_eq_nil]
  constructor
  · simp only [List.forall_mem_cons, checkPlannedIds, checkUnexpectedIds, ofCheck_eq_nil]
    refine ⟨⟨(), require_eq_ok.mpr haccepted⟩, ⟨(), require_eq_ok.mpr hmissing⟩,
      ⟨(), require_eq_ok.mpr hinvalid⟩, ⟨(), require_eq_ok.mpr hduplicates⟩,
      ⟨(), require_eq_ok.mpr hconflicting⟩, ⟨(), require_eq_ok.mpr nodup_unexpectedIds⟩,
      ⟨(), require_eq_ok.mpr (nodup_unexpectedIds.filter _)⟩, by simp⟩
  · simp only [RunAccounting.validateSummary, require_bind_eq_ok, require_eq_ok]
    refine ⟨⟨fun id hid => ⟨fun hm => happart' hid hm, fun hi =>
      happart (List.mem_append_left _ hid) hi⟩, fun id hid hi =>
        happart (List.mem_append_right _ hid) hi⟩, hmarked, ?_, ?_, rfl, rfl, rfl, rfl, rfl, rfl, rfl⟩
    · intro id hid
      exact List.mem_of_mem_filter hid
    · have hcount := count_terminal (tally_terminal spec plan observations)
      simpa [resultOf, accountingOf, countsOf] using hcount

end Whole

/-! ## Exactness -/

section Exact

variable {spec : ResolvedRunSpec} {plan : RunPlan} {observations : List TrialAccountingObservation}
  {cancellationRequested : Bool}

lemma checkPlannedTrial_eq_ok (hspec : spec.errors = []) {trial : PlannedTrial} :
    checkPlannedTrial spec trial = .ok () ↔
      trial.taskRelease ∈ spec.taskReleases ∧ trial.agentCondition ∈ spec.agentConditions ∧
        trial.compute = spec.compute ∧ trial.evaluationProfile = spec.evaluationRegime := by
  have hparts := ResolvedRunSpec.parts hspec
  simp only [checkPlannedTrial, require_bind_eq_ok, require_eq_ok]
  rw [Dict.get_eq_some hparts.taskIds, Dict.get_eq_some hparts.conditionIds]

lemma accountRun_eq_ok (hspec : spec.errors = [])
    (hnodup : (plan.trials.map (·.trialIdentity.id)).Nodup) {result : RunAccountingResult} :
    accountRun spec plan observations cancellationRequested = .ok result ↔
      Belongs spec plan ∧ resultOf spec plan observations cancellationRequested = result := by
  have htexts : (plan.trials.map (·.trialIdentity.id.text)).Nodup := by
    have hmap : plan.trials.map (·.trialIdentity.id.text) =
        (plan.trials.map (·.trialIdentity.id)).map (·.text) := by simp
    rw [hmap]
    exact hnodup.map fun a b hab => EntityId.ext hab
  have hcounts := countsOf_valid spec plan observations
  have haccounting := accountingOf_valid spec observations cancellationRequested hnodup
  rw [accountRun, require_bind_eq_ok, unit_bind_eq_ok, Loops.forM_eq_ok, require_bind_eq_ok,
    bind_eq_ok]
  simp only [checkPlannedTrial_eq_ok hspec, construct_eq_ok]
  constructor
  · rintro ⟨hrun, hchecks, -, counts, ⟨-, rfl⟩, hrest⟩
    obtain ⟨accounting, haccounting, hrest⟩ := bind_eq_ok.mp hrest
    obtain ⟨-, rfl⟩ := construct_eq_ok.mp haccounting
    exact ⟨⟨hrun, hchecks⟩, pure_eq_ok.mp hrest⟩
  · rintro ⟨⟨hrun, hchecks⟩, rfl⟩
    exact ⟨hrun, hchecks, htexts, _, ⟨hcounts, rfl⟩,
      bind_eq_ok.mpr ⟨_, construct_eq_ok.mpr ⟨haccounting, rfl⟩, rfl⟩⟩

/-- A trial that is accounted as invalid, or that is not planned. -/
def Rejected (plan : RunPlan) (result : RunAccountingResult) (trialId : String) : Prop :=
  (∀ trial ∈ plan.trials, trial.trialIdentity.id.text ≠ trialId) ∨
    ∃ trial ∈ plan.trials, trial.trialIdentity.id.text = trialId ∧
      trial.trialIdentity.id ∈ result.accounting.invalidTrialIds

/-- What an accounting has to say of the observations. -/
structure Reconciles (spec : ResolvedRunSpec) (plan : RunPlan)
    (observations : List TrialAccountingObservation) (result : RunAccountingResult) : Prop where
  /-- Every planned trial is in one of the three lists, and nothing else is. -/
  partition : (result.accounting.acceptedTrialIds ++ result.accounting.missingTrialIds ++
    result.accounting.invalidTrialIds).Perm (plan.trials.map (·.trialIdentity.id))
  /-- A trial is accepted when its observations are equal, have ended and match the plan. -/
  accepted : ∀ trial ∈ plan.trials,
    trial.trialIdentity.id ∈ result.accounting.acceptedTrialIds ↔
      AllSame (grouped observations trial.trialIdentity.id.text) ∧
        ∃ o ∈ grouped observations trial.trialIdentity.id.text, MatchesPlan spec trial o
  /-- The records of invalid and of unexpected trials are quarantined and not accepted. -/
  quarantined : ∀ o ∈ observations, ∀ r ∈ o.record, Rejected plan result o.trialId →
    (∃ q ∈ result.quarantinedRecords, q.Same r) ∧
      ∀ a ∈ result.acceptedRecords, a.value.trialId ≠ o.trialId

/-- **An exact accounting**: it returns, it reconciles the observations with the plan, and every
order of the observations gives the same summary and the same accepted records. -/
def AccountsExactly (spec : ResolvedRunSpec) (plan : RunPlan)
    (observations : List TrialAccountingObservation) (cancellationRequested : Bool) : Prop :=
  ∃ result, accountRun spec plan observations cancellationRequested = .ok result ∧
    Reconciles spec plan observations result ∧
    ∀ reordered : List TrialAccountingObservation, reordered.Perm observations →
      ∃ result', accountRun spec plan reordered cancellationRequested = .ok result' ∧
        result'.accounting = result.accounting ∧ result'.acceptedRecords = result.acceptedRecords

/-- The observations of a trial agree in what is written of them exactly when they are equal;
equal ones may be written differently when they do not match the plan. -/
def JudgedByContent (spec : ResolvedRunSpec) (trial : PlannedTrial)
    (current : List TrialAccountingObservation) : Prop :=
  (AllAgree current → AllSame current) ∧
    (AllSame current → (∃ o ∈ current, MatchesPlan spec trial o) → AllAgree current)

/-! ### One trial -/

section Own

variable {trial : PlannedTrial} {current : List TrialAccountingObservation} {t : Tally}

variable {o : TrialAccountingObservation}

variable {o' : TrialAccountingObservation}

lemma matchesPlan_congr (houtcome : o.outcome = o'.outcome)
    (hrecord : o.record.map (·.value) = o'.record.map (·.value)) (h : MatchesPlan spec trial o) :
    MatchesPlan spec trial o' := by
  obtain ⟨hterminal, r, hr, hmatch⟩ := h
  rw [Option.mem_def.mp hr, Option.map_some] at hrecord
  obtain ⟨r', hr', hvalue⟩ := Option.map_eq_some_iff.mp hrecord.symm
  exact ⟨houtcome ▸ hterminal, r', hr', by rw [hvalue, ← houtcome]; exact hmatch⟩

variable (h : Accounts spec trial current t)
include h

lemma Accounts.mem_accepted :
    trial.trialIdentity.id ∈ t.accepted.map (·.1) ↔
      AllAgree current ∧ ∃ o, current.head? = some o ∧ MatchesPlan spec trial o := by
  cases h with
  | absent => simp
  | missing hagree ho =>
    have hn : ¬ MatchesPlan spec trial _ := fun hmatch => hmatch.1.2 ho
    simpa using fun _ => hn
  | accepted hagree ho hr hmatch => simpa using ⟨hagree, ho, _, hr, hmatch⟩
  | rejected hagree ho hmatch => simpa using fun _ => hmatch
  | conflicting hn => simp [hn]

lemma Accounts.records :
    (∀ entry ∈ t.accepted, ∃ o ∈ current, o.record = some entry.2.1) ∧
      ∀ q ∈ t.quarantined, ∃ o ∈ current, o.record = some q := by
  cases h with
  | absent | missing => simp
  | accepted _ _ hr => simp [hr]
  | rejected =>
    refine ⟨by simp, fun q hq => ⟨_, List.mem_cons_self, ?_⟩⟩
    exact Option.mem_toList.mp hq
  | conflicting =>
    refine ⟨by simp, fun q hq => ?_⟩
    exact List.mem_filterMap.mp hq

/-- A trial that is invalid is not accepted, and what it quarantines are the records of its
observations, or that of the first of them when they agree. -/
lemma Accounts.invalid (hinvalid : trial.trialIdentity.id ∈ t.invalid) :
    t.accepted = [] ∧
      (¬ AllAgree current ∧ t.quarantined = current.filterMap (·.record) ∨ AllAgree current ∧
        ∃ o, current.head? = some o ∧ t.quarantined = o.record.toList) := by
  cases h with
  | absent | missing | accepted => simp at hinvalid
  | rejected hagree => exact ⟨rfl, .inr ⟨hagree, _, rfl, rfl⟩⟩
  | conflicting hn => exact ⟨rfl, .inl ⟨hn, rfl⟩⟩

lemma Accounts.rejected_of (ho : current.head? = some o) (hmissing : o.outcome ≠ .missing)
    (hn : trial.trialIdentity.id ∉ t.accepted.map (·.1)) : trial.trialIdentity.id ∈ t.invalid := by
  cases h with
  | absent => simp at ho
  | missing _ hm =>
    rw [List.head?_cons, Option.some.injEq] at ho
    exact absurd (ho ▸ hm) hmissing
  | accepted => simp at hn
  | rejected | conflicting => simp

omit h

lemma eq_of_allAgree {trialId : String} (hgroup : ∀ o ∈ current, o.trialId = trialId)
    (hagree : AllAgree current) (hsame : AllSame current) (ho : o ∈ current) (ho' : o' ∈ current) :
    o = o' := by
  obtain ⟨id, outcome, record⟩ := o
  obtain ⟨id', outcome', record'⟩ := o'
  have hid : id = id' := (hgroup _ ho).trans (hgroup _ ho').symm
  obtain ⟨houtcome, hdump⟩ := hagree _ ho _ ho'
  have hvalue := (hsame _ ho _ ho').2
  have hrecord : record = record' := by
    cases record with
    | none => cases record' <;> simp_all
    | some r =>
      cases record' with
      | none => simp at hvalue
      | some r' =>
        have hoffsets : r.offsets = r'.offsets := by
          have hd : r.dump = r'.dump := by simpa using hdump
          exact congrArg TrialDump.offsets hd
        obtain ⟨value, offsets⟩ := r
        obtain ⟨value', offsets'⟩ := r'
        simp_all
  simp_all

/-- The lists of a tally that the summary is made of. -/
def Tally.SameSummary (s t : Tally) : Prop :=
  s.accepted = t.accepted ∧ s.missing = t.missing ∧ s.invalid = t.invalid ∧
    s.duplicates = t.duplicates ∧ s.conflicting = t.conflicting

lemma sameSummary_of_perm {trialId : String} {reordered : List TrialAccountingObservation}
    (hgroup : ∀ o ∈ current, o.trialId = trialId) (hperm : reordered.Perm current)
    (hjudged : AllAgree current → AllSame current) :
    (accountTrial spec trial reordered).SameSummary (accountTrial spec trial current) := by
  by_cases hagree : AllAgree current
  · have heq : reordered = current := by
      cases hc : current with
      | nil => exact List.perm_nil.mp (hc ▸ hperm)
      | cons o rest =>
        have hall : ∀ a ∈ current, a = o := fun a ha =>
          eq_of_allAgree hgroup hagree (hjudged hagree) ha (hc ▸ List.mem_cons_self)
        have hcurrent := List.eq_replicate_of_mem hall
        rw [hcurrent] at hperm
        rw [List.perm_replicate.mp hperm, ← hcurrent, hc]
    rw [heq]
    exact ⟨rfl, rfl, rfl, rfl, rfl⟩
  · have hreordered : ¬ AllAgree reordered := fun h => hagree fun a ha b hb =>
      h a (hperm.mem_iff.mpr ha) b (hperm.mem_iff.mpr hb)
    have hconflicting : ∀ {os : List TrialAccountingObservation}, ¬ AllAgree os →
        (accountTrial spec trial os).SameSummary
          { duplicates := [trial.trialIdentity.id]
            conflicting := [trial.trialIdentity.id]
            invalid := [trial.trialIdentity.id] } := by
      intro os hn
      have h := accounts spec trial os
      generalize accountTrial spec trial os = t at h ⊢
      cases h with
      | absent => exact absurd (fun _ h => absurd h List.not_mem_nil) hn
      | missing hagree | accepted hagree | rejected hagree => exact absurd hagree hn
      | conflicting => exact ⟨rfl, rfl, rfl, rfl, rfl⟩
    obtain ⟨h1, h2, h3, h4, h5⟩ := hconflicting hreordered
    obtain ⟨g1, g2, g3, g4, g5⟩ := hconflicting hagree
    exact ⟨h1.trans g1.symm, h2.trans g2.symm, h3.trans g3.symm, h4.trans g4.symm, h5.trans g5.symm⟩

end Own

end Exact

/-! ### All trials -/

section All

variable {spec : ResolvedRunSpec} {plan : RunPlan} {observations : List TrialAccountingObservation}
  {cancellationRequested : Bool}

variable {o : TrialAccountingObservation}

lemma mem_grouped {trialId : String} :
    o ∈ grouped observations trialId ↔ o ∈ observations ∧ o.trialId = trialId := by
  simp [grouped]

lemma mem_unexpectedIds {trialId : String} :
    trialId ∈ unexpectedIds plan observations ↔
      (∃ o ∈ observations, o.trialId = trialId) ∧
        ∀ trial ∈ plan.trials, trial.trialIdentity.id.text ≠ trialId := by
  simp [unexpectedIds, List.mem_insertionSort]

lemma trialId_of_valid (h : o.errors = []) {r : TrialRecord} (hr : o.record = some r) :
    r.value.trialId = o.trialId := by
  rw [TrialAccountingObservation.errors, record_eq_nil,
    TrialAccountingObservation.validateRecordRequirement] at h
  simp only [require_bind_eq_ok, require_eq_ok] at h
  exact h.2.2.2 r hr

lemma outcome_ne_missing (h : o.errors = []) {r : TrialRecord} (hr : o.record = some r) :
    o.outcome ≠ .missing := by
  rw [TrialAccountingObservation.errors, record_eq_nil,
    TrialAccountingObservation.validateRecordRequirement] at h
  simp only [require_bind_eq_ok, require_eq_ok] at h
  exact fun hmissing => h.2.1 ⟨hmissing, by simp [hr]⟩

lemma acceptedIds_subset (trial : PlannedTrial) :
    (ownTally spec observations trial).accepted.map (·.1) ⊆ [trial.trialIdentity.id] := by
  rw [← (accounts_own spec observations trial).placed]
  exact fun _ h => List.mem_append_left _ (List.mem_append_left _ h)

lemma invalidIds_subset (trial : PlannedTrial) :
    (ownTally spec observations trial).invalid ⊆ [trial.trialIdentity.id] := by
  rw [← (accounts_own spec observations trial).placed]
  exact fun _ h => List.mem_append_right _ h

section Nodup

variable (hnodup : (plan.trials.map (·.trialIdentity.id)).Nodup)

include hnodup

lemma mem_acceptedTrialIds {trial : PlannedTrial} (ht : trial ∈ plan.trials) :
    trial.trialIdentity.id ∈
        (resultOf spec plan observations cancellationRequested).accounting.acceptedTrialIds ↔
      trial.trialIdentity.id ∈ (ownTally spec observations trial).accepted.map (·.1) := by
  show _ ∈ (tallyOf spec plan observations).accepted.map (·.1) ↔ _
  rw [tally_accepted, List.map_flatMap]
  exact mem_flatMap_own acceptedIds_subset hnodup ht

lemma mem_invalidTrialIds {trial : PlannedTrial} (ht : trial ∈ plan.trials) :
    trial.trialIdentity.id ∈
        (resultOf spec plan observations cancellationRequested).accounting.invalidTrialIds ↔
      trial.trialIdentity.id ∈ (ownTally spec observations trial).invalid := by
  show _ ∈ (tallyOf spec plan observations).invalid ↔ _
  rw [tally_invalid]
  exact mem_flatMap_own invalidIds_subset hnodup ht

lemma eq_of_text {trial other : PlannedTrial} (ht : trial ∈ plan.trials) (ho : other ∈ plan.trials)
    (h : trial.trialIdentity.id.text = other.trialIdentity.id.text) : trial = other :=
  List.inj_on_of_nodup_map hnodup ht ho (EntityId.ext h)

variable (hvalid : ∀ o ∈ observations, o.errors = [])

include hvalid

omit hnodup in
/-- An accepted record is that of a trial that adds it. -/
lemma mem_acceptedRecords {a : TrialRecord}
    (ha : a ∈ (resultOf spec plan observations cancellationRequested).acceptedRecords) :
    ∃ trial ∈ plan.trials, (ownTally spec observations trial).accepted ≠ [] ∧
      a.value.trialId = trial.trialIdentity.id.text := by
  have ha' : a ∈ (tallyOf spec plan observations).accepted.map (·.2.1) := ha
  rw [tally_accepted] at ha'
  obtain ⟨entry, hentry, rfl⟩ := List.mem_map.mp ha'
  obtain ⟨trial, ht, hentry⟩ := List.mem_flatMap.mp hentry
  obtain ⟨o, ho, hrecord⟩ := (accounts_own _ _ trial).records.1 entry hentry
  obtain ⟨hmem, hid⟩ := mem_grouped.mp ho
  exact ⟨trial, ht, List.ne_nil_of_mem hentry, (trialId_of_valid (hvalid o hmem) hrecord).trans hid⟩

/-- A quarantined record with the id of a planned trial is one that the trial adds. -/
lemma mem_quarantined_own {trial : PlannedTrial} (ht : trial ∈ plan.trials) {q : TrialRecord}
    (hq : q ∈ (resultOf spec plan observations cancellationRequested).quarantinedRecords)
    (hid : q.value.trialId = trial.trialIdentity.id.text) :
    q ∈ (ownTally spec observations trial).quarantined := by
  have hq' : q ∈ (tallyOf spec plan observations).quarantined := hq
  rw [tally_quarantined] at hq'
  rcases List.mem_append.mp hq' with hq' | hq'
  · obtain ⟨trialId, hunexpected, hq'⟩ := List.mem_flatMap.mp hq'
    obtain ⟨o, ho, hrecord⟩ := List.mem_filterMap.mp hq'
    obtain ⟨hmem, rfl⟩ := mem_grouped.mp ho
    have hother := (mem_unexpectedIds.mp hunexpected).2 trial ht
    exact absurd (hid.symm.trans (trialId_of_valid (hvalid o hmem) hrecord)) hother
  · obtain ⟨other, hother, hq'⟩ := List.mem_flatMap.mp hq'
    obtain ⟨o, ho, hrecord⟩ := (accounts_own _ _ other).records.2 q hq'
    obtain ⟨hmem, hotherId⟩ := mem_grouped.mp ho
    have htext : trial.trialIdentity.id.text = other.trialIdentity.id.text := by
      rw [← hid, trialId_of_valid (hvalid o hmem) hrecord, hotherId]
    rw [eq_of_text hnodup ht hother htext]
    exact hq'

/-- The accounting reconciles the observations when those of each trial are judged by content. -/
lemma reconciles (hjudged : ∀ trial ∈ plan.trials,
      JudgedByContent spec trial (grouped observations trial.trialIdentity.id.text)) :
    Reconciles spec plan observations (resultOf spec plan observations cancellationRequested) where
  partition := tally_partition spec plan observations
  accepted := by
    intro trial ht
    rw [mem_acceptedTrialIds hnodup ht, (accounts_own _ _ trial).mem_accepted]
    obtain ⟨hsame, hagree⟩ := hjudged trial ht
    constructor
    · rintro ⟨hall, o, ho, hmatch⟩
      exact ⟨hsame hall, o, List.mem_of_mem_head? ho, hmatch⟩
    · rintro ⟨hall, o, ho, hmatch⟩
      refine ⟨hagree hall ⟨o, ho, hmatch⟩, ?_⟩
      cases hcurrent : grouped observations trial.trialIdentity.id.text with
      | nil => simp [hcurrent] at ho
      | cons first rest =>
        have hfirst : first ∈ grouped observations trial.trialIdentity.id.text := by
          rw [hcurrent]
          exact List.mem_cons_self
        obtain ⟨houtcome, hrecord⟩ := hall o ho first hfirst
        exact ⟨first, rfl, matchesPlan_congr houtcome hrecord hmatch⟩
  quarantined := by
    intro o ho r hr hrejected
    obtain hunexpected | ⟨trial, ht, hid, hinvalid⟩ := hrejected
    · refine ⟨⟨r, ?_, rfl⟩, fun a ha hid => ?_⟩
      · show r ∈ (tallyOf spec plan observations).quarantined
        rw [tally_quarantined]
        refine List.mem_append_left _ (List.mem_flatMap.mpr ⟨o.trialId, ?_, ?_⟩)
        · exact mem_unexpectedIds.mpr ⟨⟨o, ho, rfl⟩, hunexpected⟩
        · exact List.mem_filterMap.mpr ⟨o, mem_grouped.mpr ⟨ho, rfl⟩, hr⟩
      · obtain ⟨trial, ht, -, htext⟩ := mem_acceptedRecords hvalid ha
        exact hunexpected trial ht (htext.symm.trans hid)
    · have hown := (mem_invalidTrialIds hnodup ht).mp hinvalid
      have hmem : o ∈ grouped observations trial.trialIdentity.id.text :=
        mem_grouped.mpr ⟨ho, hid.symm⟩
      obtain ⟨hnone, hquarantined⟩ := (accounts_own _ _ trial).invalid hown
      constructor
      · obtain ⟨q, hq, hsame⟩ : ∃ q ∈ (ownTally spec observations trial).quarantined, q.Same r := by
          obtain ⟨-, hall⟩ | ⟨hagree, first, hfirst, hall⟩ := hquarantined
          · rw [hall]
            exact ⟨r, List.mem_filterMap.mpr ⟨o, hmem, hr⟩, rfl⟩
          · have hvalue := ((hjudged trial ht).1 hagree first (List.mem_of_mem_head? hfirst) o hmem).2
            rw [hr, Option.map_some] at hvalue
            obtain ⟨q, hq, hsame⟩ := Option.map_eq_some_iff.mp hvalue
            rw [hall, hq]
            exact ⟨q, List.mem_singleton_self q, hsame⟩
        refine ⟨q, ?_, hsame⟩
        show q ∈ (tallyOf spec plan observations).quarantined
        rw [tally_quarantined]
        exact List.mem_append_right _ (List.mem_flatMap.mpr ⟨trial, ht, hq⟩)
      · intro a ha hid'
        obtain ⟨other, hother, hsome, htext⟩ := mem_acceptedRecords hvalid ha
        have hsame : other = trial :=
          eq_of_text hnodup hother ht (htext.symm.trans (hid'.trans hid.symm))
        rw [hsame] at hsome
        exact hsome hnone

lemma judgedByContent_of_reconciles
    (h : Reconciles spec plan observations (resultOf spec plan observations cancellationRequested))
    {trial : PlannedTrial} (ht : trial ∈ plan.trials) :
    JudgedByContent spec trial (grouped observations trial.trialIdentity.id.text) := by
  have haccepted := h.accepted trial ht
  rw [mem_acceptedTrialIds hnodup ht, (accounts_own _ _ trial).mem_accepted] at haccepted
  refine ⟨fun hagree => ?_, fun hsame hmatch => (haccepted.mpr ⟨hsame, hmatch⟩).1⟩
  by_cases hin : trial.trialIdentity.id ∈ (ownTally spec observations trial).accepted.map (·.1)
  · exact (haccepted.mp ((accounts_own _ _ trial).mem_accepted.mp hin)).1
  -- of a trial that is not accepted only the record of the first observation is quarantined
  obtain hnil | ⟨first, hfirst⟩ :=
    Option.eq_none_or_eq_some (grouped observations trial.trialIdentity.id.text).head?
  · rw [List.head?_eq_none_iff.mp hnil]
    exact fun _ ho => absurd ho List.not_mem_nil
  have hrecord : ∀ o ∈ grouped observations trial.trialIdentity.id.text,
      o.record.map (·.value) = first.record.map (·.value) := by
    intro o ho
    cases hr : o.record with
    | none =>
      have hdump := (hagree o ho first (List.mem_of_mem_head? hfirst)).2
      rw [hr] at hdump
      rw [Option.map_eq_none_iff.mp hdump.symm, Option.map_none]
    | some r =>
      obtain ⟨hmem, hid⟩ := mem_grouped.mp ho
      have hmissing : first.outcome ≠ .missing := by
        rw [← (hagree o ho first (List.mem_of_mem_head? hfirst)).1]
        exact outcome_ne_missing (hvalid o hmem) hr
      have hinvalid := (accounts_own _ _ trial).rejected_of hfirst hmissing hin
      have hrejected : Rejected plan
          (resultOf spec plan observations cancellationRequested) o.trialId :=
        .inr ⟨trial, ht, hid.symm, (mem_invalidTrialIds hnodup ht).mpr hinvalid⟩
      obtain ⟨q, hq, hsame⟩ := (h.quarantined o hmem r hr hrejected).1
      have htext : q.value.trialId = trial.trialIdentity.id.text := by
        rw [hsame, trialId_of_valid (hvalid o hmem) hr, hid]
      have hown := mem_quarantined_own hnodup hvalid ht hq htext
      obtain ⟨hn, -⟩ | ⟨-, first', hfirst', hall⟩ := ((accounts_own _ _ trial).invalid hinvalid).2
      · exact absurd hagree hn
      · obtain rfl : first = first' := Option.some.inj (hfirst.symm.trans hfirst')
        rw [hall] at hown
        rw [Option.mem_toList.mp hown, Option.map_some, Option.map_some, hsame]
  exact fun o ho o' ho' => ⟨(hagree o ho o' ho').1, (hrecord o ho).trans (hrecord o' ho').symm⟩

omit hnodup hvalid in
/-- The summary does not depend on the order of observations that are judged by content. -/
lemma resultOf_perm (hjudged : ∀ trial ∈ plan.trials,
      JudgedByContent spec trial (grouped observations trial.trialIdentity.id.text))
    {reordered : List TrialAccountingObservation} (hperm : reordered.Perm observations) :
    (resultOf spec plan reordered cancellationRequested).accounting =
        (resultOf spec plan observations cancellationRequested).accounting ∧
      (resultOf spec plan reordered cancellationRequested).acceptedRecords =
        (resultOf spec plan observations cancellationRequested).acceptedRecords := by
  have hown : ∀ trial ∈ plan.trials,
      (ownTally spec reordered trial).SameSummary (ownTally spec observations trial) := by
    intro trial ht
    exact sameSummary_of_perm (fun o ho => (mem_grouped.mp ho).2) (hperm.filter _)
      (hjudged trial ht).1
  have haccepted : (tallyOf spec plan reordered).accepted =
      (tallyOf spec plan observations).accepted := by
    rw [tally_accepted, tally_accepted]
    exact List.flatMap_congr fun trial ht => (hown trial ht).1
  have hmissing : (tallyOf spec plan reordered).missing =
      (tallyOf spec plan observations).missing := by
    rw [tally_missing, tally_missing]
    exact List.flatMap_congr fun trial ht => (hown trial ht).2.1
  have hinvalid : (tallyOf spec plan reordered).invalid =
      (tallyOf spec plan observations).invalid := by
    rw [tally_invalid, tally_invalid]
    exact List.flatMap_congr fun trial ht => (hown trial ht).2.2.1
  have hduplicates : (tallyOf spec plan reordered).duplicates =
      (tallyOf spec plan observations).duplicates := by
    rw [tally_duplicates, tally_duplicates]
    exact List.flatMap_congr fun trial ht => (hown trial ht).2.2.2.1
  have hconflicting : (tallyOf spec plan reordered).conflicting =
      (tallyOf spec plan observations).conflicting := by
    rw [tally_conflicting, tally_conflicting]
    exact List.flatMap_congr fun trial ht => (hown trial ht).2.2.2.2
  have hunexpected : unexpectedIds plan reordered = unexpectedIds plan observations := by
    have hids := ((hperm.map (·.trialId)).dedup).filter
      (fun id => decide (id ∉ plan.trials.map (·.trialIdentity.id.text)))
    exact (((List.perm_insertionSort _ _).trans hids).trans
      (List.perm_insertionSort _ _).symm).eq_of_pairwise' (List.pairwise_insertionSort _ _)
        (List.pairwise_insertionSort _ _)
  have htwice : unexpectedDuplicateIds plan reordered = unexpectedDuplicateIds plan observations := by
    have hlength : ∀ trialId, (grouped reordered trialId).length =
        (grouped observations trialId).length := fun trialId => (hperm.filter _).length_eq
    simp only [unexpectedDuplicateIds, hunexpected, hlength]
  have hcounts : countsOf plan reordered (tallyOf spec plan reordered) =
      countsOf plan observations (tallyOf spec plan observations) := by
    simp only [countsOf, haccepted, hmissing, hinvalid, hduplicates, hunexpected, htwice]
  constructor
  · simp only [resultOf, accountingOf, hcounts, haccepted, hmissing, hinvalid, hduplicates,
      hconflicting, hunexpected, htwice]
  · simp only [resultOf, haccepted]

end Nodup

end All

/-- **When the accounting of a run is exact**: when and only when the plan is one for the
specification and what is written of the observations of each trial tells apart what differs. -/
theorem accountsExactly_iff (spec : Model ResolvedRunSpec.errors) {plan : RunPlan}
    (hnodup : (plan.trials.map (·.trialIdentity.id)).Nodup)
    {observations : List TrialAccountingObservation} (hvalid : ∀ o ∈ observations, o.errors = [])
    (cancellationRequested : Bool) :
    AccountsExactly spec.1 plan observations cancellationRequested ↔
      Belongs spec.1 plan ∧ ∀ trial ∈ plan.trials,
        JudgedByContent spec.1 trial (grouped observations trial.trialIdentity.id.text) := by
  constructor
  · rintro ⟨result, hresult, hreconciles, -⟩
    obtain ⟨hbelongs, rfl⟩ := (accountRun_eq_ok spec.2 hnodup).mp hresult
    exact ⟨hbelongs, fun trial ht => judgedByContent_of_reconciles hnodup hvalid hreconciles ht⟩
  · rintro ⟨hbelongs, hjudged⟩
    refine ⟨_, (accountRun_eq_ok spec.2 hnodup).mpr ⟨hbelongs, rfl⟩,
      reconciles hnodup hvalid hjudged, fun reordered hperm => ?_⟩
    exact ⟨_, (accountRun_eq_ok spec.2 hnodup).mpr ⟨hbelongs, rfl⟩,
      resultOf_perm hjudged hperm⟩

namespace Reordered

open Colliding

def one : ℕ+ := Nat.succPNat 0

/-- The one trial of a run. -/
def trial : PlannedTrial where
  trialIdentity := identity 1 "trial"
  ordinal := one
  runIdentity := single.spec.runIdentity
  taskRelease := release 1 "a"
  taskMetadata := (profile (release 1 "a")).metadata
  agentCondition := condition 2 "b"
  compute := single.spec.compute
  repetition := one
  seed := none
  executionFamily := .artifact
  familyRelease := none
  attemptRecipe := .singleAttempt
  evaluationProfile := none
  extensions := []

def plan : RunPlan where
  planIdentity := identity 92 "plan"
  runIdentity := single.spec.runIdentity
  createdAt := 0
  state := .ready
  trials := [trial]
  summary :=
    { selectedTaskCount := one
      agentConditionCount := one
      repetitions := one
      totalTrials := one
      trialsByExecutionFamily := {.artifact}
      trialsByBackend := {"docker"}
      visibilityPolicy := [.public]
      tasksByVisibility := {.public}
      deprecatedTaskCount := 0 }

/-- The record of the trial, bound to a manifest with the model. -/
def recordOf (model : String) : TrialRecord where
  value :=
    { trialId := (idOf 1).text
      runId := (idOf 91).text
      taskId := "a"
      binding := some (expectedBinding trial single.spec)
      attempt := one
      executionStatus := .completed
      evaluationStatus := .completed
      evidenceStatus := .notRequired
      startedAt := 0
      completedAt := some 0
      input :=
        { taskRevision := "0123456789012345678901234567890123456789", visibility := some .public }
      rest := .nil
      manifest :=
        { runId := (idOf 91).text
          experimentId := "experiment"
          adapter := "direct"
          model
          computeBackend := "docker" }
      attached := .nil }
  offsets := [0, 0]

/-- The trial succeeded. -/
def observed (model : String) : TrialAccountingObservation where
  trialId := (idOf 1).text
  outcome := .succeeded
  record := some (recordOf model)

lemma spec_valid : single.spec.errors = [] := by decide +kernel

/-- One observation that matches the plan. -/
theorem accountsExactly_iff_observed :
    AccountsExactly single.spec plan [observed "model"] false ↔
      Belongs single.spec plan ∧ ∀ trial ∈ plan.trials,
        JudgedByContent single.spec trial
          (grouped [observed "model"] trial.trialIdentity.id.text) :=
  accountsExactly_iff ⟨single.spec, spec_valid⟩ (by decide +kernel) (by decide +kernel) false

/-- **An accounting that depends on the order**: what is written of two records is the same, but
the manifest of only one of them has the model that the plan asks for. -/
theorem not_accountsExactly :
    ¬ AccountsExactly single.spec plan [observed "model", observed "other"] false := by
  rintro ⟨result, hresult, -, hperm⟩
  obtain ⟨result', hresult', hsame, -⟩ :=
    hperm [observed "other", observed "model"] (List.Perm.swap _ _ _)
  have hfirst : ((accountRun single.spec plan [observed "model", observed "other"] false).toOption.map
      fun r => r.accounting.acceptedTrialIds.length) = some 1 := by decide +kernel
  have hsecond : ((accountRun single.spec plan [observed "other", observed "model"] false).toOption.map
      fun r => r.accounting.acceptedTrialIds.length) = some 0 := by decide +kernel
  rw [hresult] at hfirst
  rw [hresult'] at hsecond
  have hone : result.accounting.acceptedTrialIds.length = 1 := Option.some.inj hfirst
  have hzero : result'.accounting.acceptedTrialIds.length = 0 := Option.some.inj hsecond
  rw [hsame, hone] at hzero
  exact absurd hzero (by decide)

end Reordered

end AecBench.Contracts
