import AecBench.Evolution.Swarm.Resume

/-!
# Runs of a swarm and their saved states

A delivery is benign when the child it brings leaves no archive or graveyard entry under its
own name with other material, and does not take every cell of the best candidate unless it
becomes the best one itself.

## Main definitions

* `Benign` — a step that keeps the saved state loadable.

## Main results

* `resumable_onResult` — a benign delivery keeps a manager resumable.
* `resumes_of_benign` — every state of a run of benign steps can be resumed.
* `not_resumes_displacedBest` — two legal results after which the state cannot be resumed.
-/

namespace AecBench.Evolution.Swarm

open Validation

variable (ribs : CVTArchive)

/-! ## Benign steps -/

/-- A delivery reaches the stores, and brings an evaluated child to them. -/
def Reaches (m : SwarmManager) (d : Delivery) (child : EvaluatedCandidate) : Prop :=
  ∃ agentCost evaluated evalCost, SwarmManager.agentCost d.result = .ok agentCost ∧
    m.evaluate d = .ok (evaluated, evalCost) ∧ evaluated.child = some child ∧
    m.snapshotOf d.assignment.parent.candidateId = some d.assignment.parent

/-- The graves that remain when a child is applied. -/
def keptGraves (m : SwarmManager) (child : EvaluatedCandidate) : List IndexedEntry :=
  if EntersArchive ribs m.archive child then m.graveyard.items
  else m.graveyard.items.drop (m.graveyard.items.length + 1 - maxSize)

/-- No entry that stays under the child's name has other material than the child. -/
structure KeepsMaterial (m : SwarmManager) (child : EvaluatedCandidate) : Prop where
  archived : ∀ entry ∈ m.archive.entries,
    entry.snapshot.candidateId = child.snapshot.candidateId →
      entry.snapshot = child.snapshot ∨ Displaces ribs m.archive child entry
  buried : ∀ item ∈ keptGraves ribs m child,
    item.entry.candidateId = child.snapshot.candidateId →
      item.entry.rejectedSnapshot = some child.snapshot

/-- The child's score is above the best one, its agent is in the pool, and the budgets of the
run are not negative. -/
structure Outscores (m : SwarmManager) (d : Delivery) (child : EvaluatedCandidate) : Prop where
  score : ∃ score, assessmentScore child.assessment m.config.structuralWeight = .ok score ∧
    ∀ best ∈ m.state.bestScore, best < score
  agent : d.assignment.agentId ∈ m.state.agentStates.map (·.agentId)
  budgets : 0 ≤ m.budget.maxCostUsd ∧ 0 ≤ m.budget.evalBudgetUsd

/-- The best candidate keeps a cell, or the child takes its place. -/
def KeepsBest (m : SwarmManager) (d : Delivery) (child : EvaluatedCandidate) : Prop :=
  ∀ id ∈ m.state.bestCandidateId,
    (∃ entry ∈ m.archive.entries, entry.snapshot.candidateId = id ∧
      ¬ Displaces ribs m.archive child entry) ∨
    child.snapshot.candidateId = id ∨ Outscores m d child

/-- A step that keeps the saved state loadable. -/
def Benign (m : SwarmManager) : SwarmEvent → Prop
  | .nextAssignment _ => True
  | .result d => ∀ child, Reaches m d child → KeepsMaterial ribs m child ∧ KeepsBest ribs m d child

/-! ## Consistency along the parts of the callback -/

section Keeps

variable {ribs} {m applied : SwarmManager} {d : Delivery} {child : EvaluatedCandidate}
  {outcome : SwarmOutcome}

lemma snapshotOf_recordCosts (hchild : outcome.evaluatedCandidate = some child)
    (agentCost evalCost : ℚ≥0) (id : String) :
    (m.recordCosts outcome agentCost evalCost).snapshotOf id =
      if child.snapshot.candidateId = id then some child.snapshot else m.snapshotOf id := by
  simp only [SwarmManager.snapshotOf, SwarmManager.recordCosts, hchild]
  exact Table.lookup_upsert id child.snapshot m.candidateSnapshots

lemma recordAgentSpend_keyed {budget : BudgetLedger} (h : Table.Keyed Prod.fst budget.agentSpend)
    (agentId : String) (amount : ℚ≥0) :
    Table.Keyed Prod.fst (budget.recordAgentSpend agentId amount).agentSpend :=
  h.upsert _

lemma consistent_recordCosts_none (h : m.Consistent ribs)
    (hchild : outcome.evaluatedCandidate = none) (agentCost evalCost : ℚ≥0) :
    (m.recordCosts outcome agentCost evalCost).Consistent ribs := by
  simp only [SwarmManager.recordCosts, hchild]
  exact { h with spend := recordAgentSpend_keyed h.spend _ _ }

/-- Applying a child and registering it keeps a manager consistent, when no entry stays under
its name with other material. -/
lemma consistent_recordCosts_some (h : m.Consistent ribs)
    (happlies : AppliesChild ribs m d child outcome applied)
    (hmaterial : KeepsMaterial ribs m child) (hvalid : child.snapshot.errors = [])
    (hassessment : child.assessment.errors = []) (agentCost evalCost : ℚ≥0) :
    (applied.recordCosts outcome agentCost evalCost).Consistent ribs := by
  have hchild : outcome.evaluatedCandidate = some child := by rw [happlies.outcome_eq]
  have hsnapshotOf := snapshotOf_recordCosts (m := applied) hchild agentCost evalCost
  have hold : ∀ id, applied.snapshotOf id = m.snapshotOf id := by
    intro id
    rw [happlies.manager]
    rfl
  simp only [hold] at hsnapshotOf
  have hregistered : ∀ id, m.snapshotOf id ≠ none →
      (applied.recordCosts outcome agentCost evalCost).snapshotOf id ≠ none := by
    intro id hid
    rw [hsnapshotOf]
    split_ifs
    · exact Option.some_ne_none _
    · exact hid
  have hfields : applied.lineage = m.lineage ∧ applied.notes = m.notes ∧
      applied.budget = m.budget ∧ applied.state = m.state ∧
      applied.candidateSnapshots = m.candidateSnapshots ∧
      applied.initialCandidateId = m.initialCandidateId := by
    rw [happlies.manager]
    exact ⟨rfl, rfl, rfl, rfl, rfl, rfl⟩
  obtain ⟨hlineage, hnotes, hbudget, hstate, hcandidates, hinitial⟩ := hfields
  have hburied : ∀ item ∈ applied.graveyard.items,
      item ∈ keptGraves ribs m child ∨ BuriedAs child item ∧
        ∀ parent ∈ item.entry.parentAssessment, parent.errors = [] := by
    intro item hitem
    rcases happlies.graveyard with ⟨henters, hsame⟩ | ⟨hnot, new, hnew, hparent, hinsert⟩
    · rw [keptGraves, if_pos henters, ← hsame]
      exact .inl hitem
    · rw [keptGraves, if_neg hnot]
      rw [hinsert] at hitem
      rcases (Deque.mem_append_iff (by decide)).mp hitem with rfl | hkept
      · exact .inr ⟨hnew, hparent⟩
      · exact .inl hkept
  have hkept : ∀ item ∈ keptGraves ribs m child, item ∈ m.graveyard.items := by
    intro item hitem
    rw [keptGraves] at hitem
    split_ifs at hitem
    · exact hitem
    · exact List.mem_of_mem_drop hitem
  simp only [SwarmManager.recordCosts, hchild] at hsnapshotOf hregistered ⊢
  exact {
    keyed := hcandidates ▸ h.keyed.upsert _
    snapshots := fun snapshot hsnapshot => by
      rcases Table.mem_of_mem_upsert hsnapshot with rfl | hmem
      · exact hvalid
      · exact h.snapshots snapshot (hcandidates ▸ hmem)
    initial := by
      obtain ⟨id, hid, hmem⟩ := h.initial
      exact ⟨id, hinitial.trans hid, hregistered id hmem⟩
    placed := happlies.archives.placed
    archived := fun entry hentry => by
      rw [hsnapshotOf]
      rcases happlies.archives.mem entry hentry with hnew | ⟨hmem, hnot⟩
      · rw [if_pos (congrArg _ hnew.symm), hnew]
      · split_ifs with hid
        · rcases hmaterial.archived entry hmem hid.symm with hsame | hdisplaced
          · rw [hsame]
          · exact absurd hdisplaced hnot
        · exact h.archived entry hmem
    buried := fun item hitem => by
      rcases hburied item hitem with hkeep | ⟨⟨hid, hsnapshot, -⟩, -⟩
      · obtain ⟨snapshot, hrejected, hmem⟩ := h.buried item (hkept item hkeep)
        refine ⟨snapshot, hrejected, ?_⟩
        rw [hsnapshotOf]
        split_ifs with hid
        · exact (hmaterial.buried item hkeep hid.symm).symm.trans hrejected
        · exact hmem
      · exact ⟨_, hsnapshot, by rw [hsnapshotOf, if_pos hid.symm]⟩
    graveyard := fun item hitem => by
      rcases hburied item hitem with hkeep | ⟨⟨-, hsnapshot, hchildAssessment⟩, hparent⟩
      · exact h.graveyard item (hkept item hkeep)
      · simp only [SharedGraveyard.entryErrors, List.append_eq_nil_iff, optional_eq_nil,
          hsnapshot, hchildAssessment, Option.mem_some_iff, forall_eq']
        exact ⟨⟨hvalid, hparent⟩, hassessment⟩
    lineage := hlineage ▸ h.lineage
    recorded := fun r hr id hid => hregistered id (h.recorded r (hlineage ▸ hr) id hid)
    notes := fun note hnote => h.notes note (hnotes ▸ hnote)
    spend := recordAgentSpend_keyed (hbudget ▸ h.spend) _ _
    state := hstate ▸ h.state }

/-- What the saved state needs to be loaded as it is. -/
structure Resumable (ribs : CVTArchive) (m : SwarmManager) : Prop where
  consistent : m.Consistent ribs
  best : m.BestArchived
  thresholds : m.budget.DefaultThresholds

variable {reduced : SwarmManager}

lemma reduce_eq_ok (h : m.reduce d outcome = .ok reduced) :
    ∃ budget decision,
      nextSwarmState m.state outcome budget m.config d.reducedAt = .ok (reduced.state, decision) ∧
        reduced = { m with state := reduced.state } := by
  simp only [SwarmManager.reduce, bind_eq_ok, pure_eq_ok, Prod.exists] at h
  obtain ⟨_, -, state, decision, hnext, rfl⟩ := h
  exact ⟨_, decision, hnext, rfl⟩

lemma consistent_reduce (h : m.Consistent ribs) (hreduce : m.reduce d outcome = .ok reduced) :
    reduced.Consistent ribs := by
  obtain ⟨budget, decision, hnext, heq⟩ := reduce_eq_ok hreduce
  have hstate := nextSwarmState_wellFormed h.state hnext
  rw [heq]
  exact { h with state := hstate }

/-- Reducing an outcome keeps the best candidate archived, when an accepted candidate is. -/
lemma bestArchived_reduce (h : m.BestArchived)
    (haccepted : ∀ child, outcome.evaluatedCandidate = some child →
      outcome.accepted child = true → ∃ entry ∈ m.archive.entries, entry.snapshot = child.snapshot)
    (hreduce : m.reduce d outcome = .ok reduced) : reduced.BestArchived := by
  obtain ⟨budget, decision, hnext, heq⟩ := reduce_eq_ok hreduce
  rw [heq]
  intro id hid
  rcases nextSwarmState_best hnext with hsame | ⟨child, hchild, hacc, hbest⟩
  · exact h id (hsame ▸ hid)
  · obtain ⟨entry, hentry, hsnapshot⟩ := haccepted child hchild hacc
    refine ⟨entry, hentry, ?_⟩
    rw [hsnapshot]
    exact Option.some.inj (hbest.symm.trans hid)

lemma resumable_recordLineage {recorded : SwarmManager} (h : Resumable ribs m)
    (hchild : m.snapshotOf child.snapshot.candidateId ≠ none)
    (hparent : m.snapshotOf d.assignment.parent.candidateId ≠ none)
    (hrecord : m.recordLineage d child = .ok recorded) :
    Resumable ribs recorded ∧ child.snapshot.candidateId ∈
      recorded.lineage.records.map LineageRecord.entryCandidateId := by
  simp only [SwarmManager.recordLineage, bind_eq_ok, construct_eq_ok, pure_eq_ok] at hrecord
  obtain ⟨descriptor, -, entry, ⟨hvalid, rfl⟩, rfl⟩ := hrecord
  refine ⟨⟨{ h.consistent with
    lineage := h.consistent.lineage.record hvalid
    recorded := fun r hr id hid => ?_ }, h.best, h.thresholds⟩, ?_⟩
  · rcases List.mem_append.mp hr with hr | hr
    · exact h.consistent.recorded r hr id hid
    · obtain rfl := List.mem_singleton.mp hr
      rcases List.mem_cons.mp hid with rfl | hid
      · exact hchild
      · obtain rfl := List.mem_singleton.mp hid
        exact hparent
  · simp [LineageTracker.record]

lemma resumable_attachNarrative {narrated : SwarmManager} (h : Resumable ribs m)
    (hrecorded : child.snapshot.candidateId ∈
      m.lineage.records.map LineageRecord.entryCandidateId)
    (hnarrate : m.attachNarrative d child = .ok narrated) : Resumable ribs narrated := by
  simp only [SwarmManager.attachNarrative, bind_eq_ok, construct_eq_ok, pure_eq_ok] at hnarrate
  obtain ⟨narrative, ⟨hvalid, rfl⟩, rfl⟩ := hnarrate
  exact ⟨{ h.consistent with lineage := h.consistent.lineage.attachNarrative hrecorded hvalid },
    h.best, h.thresholds⟩

lemma resumable_reflect {reflected : SwarmManager} (h : Resumable ribs m)
    (hreflect : m.reflect d child = .ok reflected) : Resumable ribs reflected := by
  simp only [SwarmManager.reflect] at hreflect
  split_ifs at hreflect with hevery
  · simp only [bind_eq_ok, construct_eq_ok, pure_eq_ok] at hreflect
    obtain ⟨descriptor, -, note, ⟨hvalid, heq⟩, rfl⟩ := hreflect
    rw [heq] at hvalid
    have hnotes : ∀ other ∈ (NoteStore.insert m.notes note).items, other.errors = [] := by
      intro other hother
      rcases (Deque.mem_append_iff (by decide)).mp hother with hnew | hold
      · rw [hnew]
        exact hvalid
      · exact h.consistent.notes other (List.mem_of_mem_drop hold)
    generalize NoteStore.insert m.notes note = notes at hnotes
    exact ⟨{ h.consistent with notes := hnotes }, h.best, h.thresholds⟩
  · rw [pure_eq_ok] at hreflect
    exact hreflect ▸ h

lemma resumable_describeChild (h : Resumable ribs m)
    (hchild : m.snapshotOf child.snapshot.candidateId ≠ none)
    (hparent : m.snapshotOf d.assignment.parent.candidateId ≠ none) :
    Resumable ribs (left (m.describeChild d outcome child)) := by
  rw [SwarmManager.describeChild]
  split_ifs with hadded
  · refine left_raising_bind h fun recorded hrecord => ?_
    obtain ⟨hrecorded, hmem⟩ := resumable_recordLineage h hchild hparent hrecord
    refine left_raising_bind hrecorded fun narrated hnarrate => ?_
    have hnarrated := resumable_attachNarrative hrecorded hmem hnarrate
    exact left_raising hnarrated fun reflected => resumable_reflect hnarrated
  · exact left_raising h fun reflected => resumable_reflect h

/-- Recording costs changes neither the state, nor the archive, nor the limits of the budget. -/
lemma recordCosts_fields (m : SwarmManager) (outcome : SwarmOutcome) (agentCost evalCost : ℚ≥0) :
    (m.recordCosts outcome agentCost evalCost).state = m.state ∧
      (m.recordCosts outcome agentCost evalCost).archive = m.archive ∧
      (m.recordCosts outcome agentCost evalCost).config = m.config ∧
      (m.recordCosts outcome agentCost evalCost).budget.maxCostUsd = m.budget.maxCostUsd ∧
      (m.recordCosts outcome agentCost evalCost).budget.evalBudgetUsd = m.budget.evalBudgetUsd ∧
      ((m.recordCosts outcome agentCost evalCost).budget.DefaultThresholds ↔
        m.budget.DefaultThresholds) := by
  cases hchild : outcome.evaluatedCandidate <;>
    simp only [SwarmManager.recordCosts, hchild, BudgetLedger.recordAgentSpend,
      BudgetLedger.recordEvalSpend, BudgetLedger.DefaultThresholds, and_self]

lemma totalCostUsd_of_agentCost {result : SwarmAgentResult} {cost : ℚ≥0}
    (h : SwarmManager.agentCost result = .ok cost) :
    result.agentUsage.totalCostUsd = some cost := by
  rw [SwarmManager.agentCost] at h
  cases htotal : result.agentUsage.totalCostUsd with
  | none =>
    rw [htotal] at h
    cases h
  | some total =>
    rw [htotal] at h
    exact congrArg some (Except.ok.inj h)

/-- An accepted child that outscores the best candidate is reduced to the best one. -/
lemma exists_reduce_of_outscores (hstate : m.state.WellFormed) {evaluated : SwarmEvaluation}
    {agentCost : ℚ≥0} (hcost : SwarmManager.agentCost d.result = .ok agentCost)
    (hevaluates : d.Evaluates evaluated) (hchild : evaluated.child = some child)
    (houtcome : outcome = ⟨d.assignment, d.result, some child, outcome.archiveOutcome⟩)
    (haccepted : outcome.accepted child = true) (houtscores : Outscores m d child) :
    ∃ reduced, m.reduce d outcome = .ok reduced ∧
      reduced.state.bestCandidateId = some child.snapshot.candidateId := by
  obtain ⟨score, hscore, hbest⟩ := houtscores.score
  obtain ⟨hsnapshot, hsound⟩ := hevaluates.child child hchild
  have hid : ¬ Text.Blank child.snapshot.candidateId :=
    (WorkspaceSnapshot.errors_eq_nil.mp (d.child_valid _ hsnapshot)).2.2
  have hassignment : outcome.assignment = d.assignment := by rw [houtcome]
  have hresult : outcome.agentResult = d.result := by rw [houtcome]
  have hevaluated : outcome.evaluatedCandidate = some child := by rw [houtcome]
  obtain ⟨next, decision, hnext, hcrown⟩ := nextSwarmState_of_accepted
    ⟨m.budget.maxCostUsd, m.budget.totalAgentSpend, m.budget.evalBudgetUsd, m.budget.evalSpend⟩
    d.reducedAt hstate (by rw [hassignment, hresult]; exact hevaluates.identity)
    (by rw [hassignment]; exact houtscores.agent)
    (by rw [hresult, hsnapshot]; exact Option.some_ne_none _)
    (by rw [hresult]; exact totalCostUsd_of_agentCost hcost)
    hevaluated hsound hid haccepted hscore hbest
  refine ⟨{ m with state := next }, ?_, hcrown⟩
  have hbudget : BudgetSnapshot.check ⟨m.budget.maxCostUsd, m.budget.totalAgentSpend,
      m.budget.evalBudgetUsd, m.budget.evalSpend⟩ = .ok () := by
    simp only [BudgetSnapshot.check, require_bind_eq_ok, require_eq_ok]
    exact houtscores.budgets
  simp only [SwarmManager.reduce, bind_eq_ok, pure_eq_ok, Prod.exists]
  exact ⟨(), hbudget, next, decision, hnext, rfl⟩

/-- After an applied child, the best candidate is still archived, or the child takes its place:
then it is archived and the reducer makes it the best one. -/
lemma bestArchived_or_crowned (h : Resumable ribs m) {evaluated : SwarmEvaluation}
    {agentCost : ℚ≥0} (evalCost : ℚ≥0)
    (hcost : SwarmManager.agentCost d.result = .ok agentCost)
    (hevaluates : d.Evaluates evaluated) (hchild : evaluated.child = some child)
    (happlies : AppliesChild ribs m d child outcome applied) (hbest : KeepsBest ribs m d child) :
    (applied.recordCosts outcome agentCost evalCost).BestArchived ∨
      (∃ entry ∈ applied.archive.entries, entry.snapshot = child.snapshot) ∧
      ∃ reduced, (applied.recordCosts outcome agentCost evalCost).reduce d outcome = .ok reduced ∧
        reduced.state.bestCandidateId = some child.snapshot.candidateId := by
  obtain ⟨hstate, harchive, hconfig, hmax, heval, -⟩ :=
    recordCosts_fields applied outcome agentCost evalCost
  have hfields : applied.state = m.state ∧ applied.config = m.config ∧
      applied.budget = m.budget := by
    rw [happlies.manager]
    exact ⟨rfl, rfl, rfl⟩
  rw [hfields.1] at hstate
  rw [hfields.2.1] at hconfig
  rw [hfields.2.2] at hmax heval
  -- an entry of the best candidate that the child displaces shows that the child is archived
  have henters : ∀ entry ∈ m.archive.entries, Displaces ribs m.archive child entry →
      EntersArchive ribs m.archive child :=
    fun entry hentry hd => ⟨hd.1, hd.2.enters h.consistent.placed hentry⟩
  by_cases hkeeps : ∀ id ∈ m.state.bestCandidateId,
      (∃ entry ∈ m.archive.entries, entry.snapshot.candidateId = id ∧
        ¬ Displaces ribs m.archive child entry) ∨ child.snapshot.candidateId = id
  · left
    intro id hid
    rw [hstate] at hid
    rw [harchive]
    rcases hkeeps id hid with ⟨entry, hentry, heq, hnot⟩ | heq
    · exact ⟨entry, happlies.archives.keeps entry hentry hnot, heq⟩
    · obtain ⟨entry, hentry, hentryId⟩ := h.best id hid
      by_cases hd : Displaces ribs m.archive child entry
      · obtain ⟨new, hnew, hsnapshot⟩ := happlies.archives.enters (henters entry hentry hd)
        exact ⟨new, hnew, hsnapshot ▸ heq⟩
      · exact ⟨entry, happlies.archives.keeps entry hentry hd, hentryId⟩
  · right
    push Not at hkeeps
    obtain ⟨id, hid, hdisplaced, hne⟩ := hkeeps
    obtain ⟨entry, hentry, hentryId⟩ := h.best id hid
    have hin := henters entry hentry (hdisplaced entry hentry hentryId)
    refine ⟨happlies.archives.enters hin, ?_⟩
    have houtscores : Outscores m d child := by
      rcases hbest id hid with ⟨kept, hkept, hkeptId, hnot⟩ | hsame | houtscores
      · exact absurd (hdisplaced kept hkept hkeptId) hnot
      · exact absurd hsame hne
      · exact houtscores
    have haccepted : outcome.accepted child = true := by
      rw [SwarmOutcome.accepted, hin.1, Bool.true_and]
      exact happlies.archives.added.mpr hin
    refine exists_reduce_of_outscores (hstate ▸ h.consistent.state) hcost hevaluates hchild
      happlies.outcome_eq haccepted ⟨?_, ?_, ?_⟩
    · rw [hconfig, hstate]
      exact houtscores.score
    · rw [hstate]
      exact houtscores.agent
    · rw [hmax, heval]
      exact houtscores.budgets

/-- **A benign delivery keeps a manager resumable.** -/
theorem resumable_onResult (h : Resumable ribs m) (hbenign : Benign ribs m (.result d)) :
    Resumable ribs (left (m.onResult ribs d)) := by
  refine left_raising_bind h fun agentCost hcost => ?_
  refine left_raising_bind h fun evaluation hevaluate => ?_
  obtain ⟨evaluated, evalCost⟩ := evaluation
  have hevaluates := evaluate_evaluates hevaluate
  refine left_raising_bind h fun applied hresult => ?_
  obtain ⟨outcome, applied⟩ := applied
  have hfields := recordCosts_fields applied outcome agentCost evalCost
  cases hchild : evaluated.child with
  | none =>
    obtain ⟨rfl, rfl⟩ := applyEvaluation_none hchild hresult
    have hcharged : Resumable ribs (applied.recordCosts
        ⟨evaluated.assignment, evaluated.agentResult, none, none⟩ agentCost evalCost) := by
      refine ⟨consistent_recordCosts_none h.consistent rfl _ _, ?_,
        hfields.2.2.2.2.2.mpr h.thresholds⟩
      intro id hid
      exact h.best id (hfields.1 ▸ hid)
    refine left_raising_bind hcharged fun reduced hreduce => ?_
    obtain ⟨_, _, -, heq⟩ := reduce_eq_ok hreduce
    exact ⟨consistent_reduce hcharged.consistent hreduce,
      bestArchived_reduce hcharged.best (by simp) hreduce, heq ▸ hcharged.thresholds⟩
  | some child =>
    have happlies := applyEvaluation_applies h.consistent.placed hevaluates hchild hresult
    obtain ⟨hmaterial, hbest⟩ := hbenign child
      ⟨agentCost, evaluated, evalCost, hcost, hevaluate, hchild, happlies.parent⟩
    obtain ⟨hsnapshot, hsound⟩ := hevaluates.child child hchild
    have hconsistent := consistent_recordCosts_some h.consistent happlies hmaterial
      (d.child_valid _ hsnapshot) hsound.assessment agentCost evalCost
    have hevaluated : outcome.evaluatedCandidate = some child := by rw [happlies.outcome_eq]
    have hthresholds : (applied.recordCosts outcome agentCost evalCost).budget.DefaultThresholds := by
      refine hfields.2.2.2.2.2.mpr ?_
      rw [happlies.manager]
      exact h.thresholds
    have hchildKnown : (applied.recordCosts outcome agentCost evalCost).snapshotOf
        child.snapshot.candidateId ≠ none := by
      rw [snapshotOf_recordCosts hevaluated, if_pos rfl]
      exact Option.some_ne_none _
    have hparentKnown : (applied.recordCosts outcome agentCost evalCost).snapshotOf
        d.assignment.parent.candidateId ≠ none := by
      have happlied : applied.snapshotOf d.assignment.parent.candidateId ≠ none := by
        rw [happlies.manager]
        exact ne_of_eq_of_ne happlies.parent (Option.some_ne_none _)
      rw [snapshotOf_recordCosts hevaluated]
      split_ifs
      · exact Option.some_ne_none _
      · exact happlied
    -- once the outcome is reduced and the best candidate archived, only descriptions follow
    have hfinish : ∀ reduced,
        (applied.recordCosts outcome agentCost evalCost).reduce d outcome = .ok reduced →
        reduced.BestArchived → Resumable ribs (left (outcome.evaluatedCandidate.elim (.ok reduced)
          (reduced.describeChild d outcome))) := by
      intro reduced hreduce hba
      obtain ⟨_, _, -, heq⟩ := reduce_eq_ok hreduce
      rw [hevaluated, Option.elim_some]
      refine resumable_describeChild ⟨consistent_reduce hconsistent hreduce, hba, ?_⟩ ?_ ?_
      · rw [heq]
        exact hthresholds
      · rw [heq]
        exact hchildKnown
      · rw [heq]
        exact hparentKnown
    rcases bestArchived_or_crowned h evalCost hcost hevaluates hchild happlies hbest with
      hba | ⟨⟨entry, hentry, hentrySnapshot⟩, reduced, hreduce, hcrown⟩
    · refine left_raising_bind ⟨hconsistent, hba, hthresholds⟩ fun reduced hreduce => ?_
      refine hfinish reduced hreduce (bestArchived_reduce hba ?_ hreduce)
      intro child' hchild' haccepted
      obtain rfl := Option.some.inj (hevaluated.symm.trans hchild')
      rw [SwarmOutcome.accepted, Bool.and_eq_true] at haccepted
      rw [hfields.2.1]
      exact happlies.archives.enters (happlies.archives.added.mp haccepted.2)
    · have hraise := (raising_eq_ok (m := applied.recordCosts outcome agentCost evalCost)).mpr hreduce
      simp only [hraise]
      refine hfinish reduced hreduce fun id hid => ?_
      obtain ⟨_, _, -, heq⟩ := reduce_eq_ok hreduce
      refine ⟨entry, ?_, ?_⟩
      · rw [heq, hfields.2.1]
        exact hentry
      · rw [hentrySnapshot]
        exact Option.some.inj (hcrown.symm.trans hid)

end Keeps

/-! ## Whole runs -/

section Run

variable {ribs} {config : SwarmConfig} {runId : String} {baseline : Model WorkspaceSnapshot.errors}
  {count : ℕ} {modelOf : ℕ → String} {m : SwarmManager}

lemma resumable_start (hstart : SwarmManager.start config runId baseline count modelOf = .ok m)
    (hthresholds : config.windDownThreshold = 8 / 10 ∧ config.finalThreshold = 95 / 100) :
    Resumable ribs m := by
  simp only [SwarmManager.start, bind_eq_ok, pure_eq_ok, Unique.exists_iff,
    PUnit.default_eq_unit] at hstart
  obtain ⟨agents, hagents, hpivots, hstate, rfl⟩ := hstart
  have hbaseline : WorkspaceSnapshot.errors baseline.val = [] := baseline.property
  refine ⟨?_, by simp [SwarmManager.BestArchived], hthresholds⟩
  exact {
    keyed := List.nodup_singleton _
    snapshots := fun snapshot hsnapshot => by
      rw [List.mem_singleton.mp hsnapshot]
      exact hbaseline
    initial := ⟨_, rfl, by simp [SwarmManager.snapshotOf, Table.lookup]⟩
    placed := ⟨List.nodup_nil, by simp⟩
    archived := by simp
    buried := by simp [Deque.empty]
    graveyard := by simp [Deque.empty]
    lineage := LineageTracker.consistent_empty
    recorded := by simp
    notes := by simp [Deque.empty]
    spend := List.nodup_nil
    state := ⟨SwarmState.check_eq_ok.mp hstate, fun agent hagent => by
      obtain ⟨agent', -, hconstruct⟩ := exists_of_mem_mapM hagents agent hagent
      rw [construct_eq_ok] at hconstruct
      exact hconstruct.2 ▸ hconstruct.1, hpivots⟩ }

lemma start_fresh (hstart : SwarmManager.start config runId baseline count modelOf = .ok m) :
    m.archive.entries = [] ∧ m.graveyard.items = [] ∧ m.state.bestCandidateId = none := by
  simp only [SwarmManager.start, bind_eq_ok, pure_eq_ok] at hstart
  obtain ⟨_, -, _, -, _, -, rfl⟩ := hstart
  exact ⟨rfl, rfl, rfl⟩

/-- **Every state of a run of benign steps can be resumed**: after each step from a fresh run
with the default thresholds, the saved files load and give the manager's state back. -/
theorem resumes_of_benign
    (hstart : SwarmManager.start config runId baseline count modelOf = .ok m)
    (hthresholds : config.windDownThreshold = 8 / 10 ∧ config.finalThreshold = 95 / 100)
    (events : List SwarmEvent) (hbenign : (swarmMachine ribs).Along (Benign ribs) m events) :
    (swarmMachine ribs).Along (fun m e => ((swarmMachine ribs).step m e).Resumes ribs) m events := by
  have hstep : ∀ m e, Resumable ribs m → Benign ribs m e →
      Resumable ribs ((swarmMachine ribs).step m e) := by
    intro m e h hbenign
    cases e with
    | nextAssignment agentId => exact ⟨{ h.consistent with }, h.best, h.thresholds⟩
    | result d => exact resumable_onResult h hbenign
  refine Machine.along_of_invariant hstep (fun m e h hb => ?_)
    (resumable_start hstart hthresholds) hbenign
  have hnext := hstep m e h hb
  exact (resumes_iff hnext.consistent).mpr ⟨hnext.best, hnext.thresholds⟩

end Run

/-! ## A run whose state cannot be resumed -/

namespace Displaced

/-- One cell, whose occupant is replaced by a higher reward. -/
def oneCell : CVTArchive where
  indexOf _ _ _ := 0
  addStatus
    | none, _ => .newCell
    | some old, objective => if old < objective then .improved else .notAdded
  addStatus_none _ := rfl

def snapshot (candidateId : String) : WorkspaceSnapshot :=
  { systemPrompt := "prompt of " ++ candidateId, candidateId }

lemma baseline_valid : (snapshot "baseline").errors = [] := by decide

def config : SwarmConfig := { maxCostUsd := 10, evalBudgetUsd := 10 }

/-- The reward of a candidate. -/
def rewardOf (candidateId : String) : ℚ := if candidateId = "child-2" then 6 / 10 else 5 / 10

/-- The trial of a candidate. -/
def trial (candidateId : String) : TrialRecord where
  trialId := "trial of " ++ candidateId
  runId := "run-1"
  taskId := "ocean/wave"
  executionStatus := .completed
  evaluationStatus := .completed
  evaluation := some ⟨rewardOf candidateId, ⟨true, true, true, []⟩⟩
  cost := some { estimatedCostUsd := some 0 }

/-- The structural score of a candidate: full marks for the first child, none for the second. -/
def structuralScoreOf (candidateId : String) : Option ℚ :=
  if candidateId = "child-1" then some 1 else some 0

def checks : CandidateChecks where
  plan _ _ := .ok
    { taskIds := ["ocean/wave"], trials := [{ trialId := "planned-1", taskId := "ocean/wave" }],
      evaluationCaseIds := ["case-1"] }
  run snapshot _ := .ok [trial snapshot.candidateId]
  enrich observations := .ok (observations.map fun obs =>
    { obs with enrichment := { structuralScore := structuralScoreOf obs.candidateId } })

/-- The evaluated attempt behind a submitted child. -/
def attempt (candidateId : String) : RevisionAttempt where
  attemptId := "attempt-1"
  revision := 1
  evaluated :=
    { snapshot := snapshot candidateId
      observations := [{ trial := trial candidateId, candidateId, discipline := "ocean" }]
      assessment :=
        { candidateId, batchScore := rewardOf candidateId,
          disciplineScores := [("ocean", rewardOf candidateId)],
          trialIds := [(trial candidateId).trialId], evaluationCaseIds := ["case-1"],
          valid := true } }
  mutation := { promptModified := true }
  hypothesis := "a better prompt"
  usageAfter := { developmentEvaluations := 1 }

/-- The result of an agent that submits a child of a parent. -/
def result (assignmentId childId : String) : SwarmAgentResult where
  agentId := "agent-0"
  assignmentId
  proposal :=
    { status := .submitted, child := some (snapshot childId),
      mutation := some { promptModified := true }, reasoning := "the prompt was vague",
      usage := {}, attempt := some (attempt childId) }
  agentUsage := {}

def assignment (assignmentId parentId : String) : SwarmAssignment where
  runId := "run-1"
  assignmentId
  agentId := "agent-0"
  selection :=
    { parentCandidateId := parentId, inspirationCandidateIds := [], strategy := .conservative,
      goal := "Improve the selected candidate against the configured evaluation batch.",
      reasoning := "Manager selected exact candidate source " ++ parentId ++ "." }
  parent := snapshot parentId
  inspirations := []
  maxCostUsd := 10
  issuedAt := "2026-04-07T10:00:00+00:00"

/-- The first child, from the baseline. -/
def firstResult : Delivery where
  assignment := assignment "agent-0:assignment:1" "baseline"
  result := result "agent-0:assignment:1" "child-1"
  checks := checks
  appliedAt := "2026-04-07T10:01:00+00:00"
  reducedAt := "2026-04-07T10:01:00+00:00"
  recordedAt := "2026-04-07T10:01:00+00:00"
  authoredAt := "2026-04-07T10:01:00+00:00"
  assignment_checked := by decide
  result_checked := by decide
  proposal_checked := by decide +kernel
  child_valid := by decide +kernel

/-- The second child, from the first one. -/
def secondResult : Delivery where
  assignment := assignment "agent-0:assignment:2" "child-1"
  result := result "agent-0:assignment:2" "child-2"
  checks := checks
  appliedAt := "2026-04-07T10:02:00+00:00"
  reducedAt := "2026-04-07T10:02:00+00:00"
  recordedAt := "2026-04-07T10:02:00+00:00"
  authoredAt := "2026-04-07T10:02:00+00:00"
  assignment_checked := by decide
  result_checked := by decide
  proposal_checked := by decide +kernel
  child_valid := by decide +kernel

/-- Both children, one after the other. -/
def events : List SwarmEvent :=
  [.nextAssignment "agent-0", .result firstResult, .nextAssignment "agent-0", .result secondResult]

/-- A fresh run of one agent. -/
def start : Except String SwarmManager :=
  SwarmManager.start config "run-1" ⟨snapshot "baseline", baseline_valid⟩ 1 fun _ => "model"

/-- The best candidate and the archived ones after both children. -/
def outcome : Option (Option String × List String) :=
  start.toOption.map fun m =>
    let final := (swarmMachine oneCell).run m events
    (final.state.bestCandidateId, final.archive.entries.map (·.snapshot.candidateId))

end Displaced

/-- The first child alone leaves a state that can be resumed. -/
theorem resumes_firstChild :
    ∃ m, Displaced.start = .ok m ∧
      (swarmMachine Displaced.oneCell).Along
        (fun m e => ((swarmMachine Displaced.oneCell).step m e).Resumes Displaced.oneCell) m
        [.nextAssignment "agent-0", .result Displaced.firstResult] := by
  have hok : Displaced.start.toOption.isSome = true := by decide +kernel
  cases hstart : Displaced.start with
  | error message =>
    rw [hstart] at hok
    cases hok
  | ok m =>
    obtain ⟨harchive, hgraveyard, hbest⟩ := start_fresh hstart
    refine ⟨m, rfl, resumes_of_benign hstart ⟨rfl, rfl⟩ _ ⟨trivial, ?_, trivial⟩⟩
    intro child _
    have hgraves : keptGraves Displaced.oneCell (m.nextAssignment "agent-0") child = [] := by
      simp [keptGraves, SwarmManager.nextAssignment, hgraveyard]
    refine ⟨⟨?_, ?_⟩, ?_⟩
    · simp [swarmMachine, SwarmManager.nextAssignment, harchive]
    · intro item hitem
      exact absurd (hgraves ▸ hitem) List.not_mem_nil
    · simp [KeepsBest, swarmMachine, SwarmManager.nextAssignment, hbest]

/-- **Two legal results after which the state cannot be resumed**: the second child has the
higher reward, so it takes the only cell; the first has the higher gate score, so it stays the
best candidate, and the loader does not find it in the archive. -/
theorem not_resumes_displacedBest :
    ∃ m, Displaced.start = .ok m ∧
      ¬ (swarmMachine Displaced.oneCell).Along
        (fun m e => ((swarmMachine Displaced.oneCell).step m e).Resumes Displaced.oneCell) m
        Displaced.events := by
  have houtcome : Displaced.outcome = some (some "child-1", ["child-2"]) := by decide +kernel
  cases hstart : Displaced.start with
  | error message =>
    rw [Displaced.outcome, hstart] at houtcome
    cases houtcome
  | ok m =>
    refine ⟨m, rfl, fun hresumes => ?_⟩
    rw [Displaced.outcome, hstart] at houtcome
    obtain ⟨hbest, harchive⟩ := Prod.mk.inj (Option.some.inj houtcome)
    have hlast := hresumes.2.2.2.1
    obtain ⟨entry, hentry, hid⟩ := bestArchived_of_resumes hlast "child-1" hbest
    have hmem := List.mem_map_of_mem (f := (·.snapshot.candidateId)) hentry
    rw [hid] at hmem
    exact absurd (harchive ▸ hmem) (by decide)

end AecBench.Evolution.Swarm
