import AecBench.Evolution.Evaluation
import AecBench.Lib.Deque
import AecBench.Lib.Table

/-!
# The stores of a swarm

What the agents of a swarm share besides the archive: the graveyard of rejected candidates, the
lineage of inserted ones, the notes and the budget, with the files they are kept in.

## Main definitions

* `SharedGraveyard`, `NoteStore` — bounded queues of rejected candidates and of notes.
* `LineageTracker` — records of inserted candidates and the narratives attached to them.
* `BudgetLedger` — what was spent.

## Main results

* `SharedGraveyard.load_save`, `NoteStore.load_save`, `LineageTracker.load_save` — loading a
  saved store gives it back.
* `BudgetLedger.load_save` — loading a saved ledger gives it back, but for its thresholds.
-/

namespace AecBench.Evolution.Swarm

open Validation

/-! ## Graveyard -/

structure GraveyardEntry where
  cycle : ℕ
  strategy : String
  mutationDescription : String
  scoreBefore : ℚ
  scoreAfter : ℚ
  candidateId : String
  failureReason : String
  parentCandidateId : Option String := none
  rejectedSnapshot : Option WorkspaceSnapshot := none
  parentAssessment : Option CandidateAssessment := none
  childAssessment : Option CandidateAssessment := none
  mutation : Option MutationSummary := none
  runId : Option String := none
  timestamp : Option String := none

/-- `_IndexedEntry`. -/
structure IndexedEntry where
  entry : GraveyardEntry
  bd : BehaviourDescriptor
  agentId : String

/-- The size of the graveyard and of the note store. -/
def maxSize : ℕ := 200

abbrev SharedGraveyard := Deque maxSize IndexedEntry

namespace SharedGraveyard

def insert (graveyard : SharedGraveyard) (entry : GraveyardEntry) (bd : BehaviourDescriptor)
    (agentId : String) : SharedGraveyard :=
  graveyard.append { entry, bd, agentId }

def save (graveyard : SharedGraveyard) : List IndexedEntry := graveyard.items

/-- The records inside an entry. -/
def entryErrors (item : IndexedEntry) : Errors :=
  optional WorkspaceSnapshot.errors item.entry.rejectedSnapshot ++
    optional CandidateAssessment.errors item.entry.parentAssessment ++
    optional CandidateAssessment.errors item.entry.childAssessment

def load (file : List IndexedEntry) : Except Errors SharedGraveyard := do
  let items ← validateEach entryErrors file
  return (Deque.empty maxSize IndexedEntry).extend items

/-- **Loading a saved graveyard gives it back.** -/
theorem load_save {graveyard : SharedGraveyard}
    (h : ∀ item ∈ graveyard.items, entryErrors item = []) :
    load (save graveyard) = .ok graveyard := by
  have hitems : validateEach entryErrors (save graveyard) = .ok graveyard.items :=
    validateEach_eq_ok.mpr ⟨rfl, h⟩
  rw [load, hitems]
  exact congrArg Except.ok (Deque.extend_items graveyard)

end SharedGraveyard

/-! ## Notes -/

structure SwarmNote where
  noteId : String
  agentId : String
  authoredAt : String
  bdRegion : Option BehaviourDescriptor := none
  title : String
  content : String
  tags : List String := []

def SwarmNote.errors (note : SwarmNote) : Errors :=
  record
    [("note_id", nonEmptyStr note.noteId), ("agent_id", nonEmptyStr note.agentId),
      ("authored_at", nonEmptyStr note.authoredAt), ("title", nonEmptyStr note.title),
      ("content", nonEmptyStr note.content)]
    (.ok ())

abbrev NoteStore := Deque maxSize SwarmNote

namespace NoteStore

def insert (notes : NoteStore) (note : SwarmNote) : NoteStore := notes.append note

def save (notes : NoteStore) : List SwarmNote := notes.items

def load (file : List SwarmNote) : Except Errors NoteStore := do
  let items ← validateEach SwarmNote.errors file
  return (Deque.empty maxSize SwarmNote).extend items

/-- **Loading a saved note store gives it back.** -/
theorem load_save {notes : NoteStore} (h : ∀ note ∈ notes.items, note.errors = []) :
    load (save notes) = .ok notes := by
  have hitems : validateEach SwarmNote.errors (save notes) = .ok notes.items :=
    validateEach_eq_ok.mpr ⟨rfl, h⟩
  rw [load, hitems]
  exact congrArg Except.ok (Deque.extend_items notes)

end NoteStore

/-! ## Lineage -/

structure LineageRecord where
  entryCandidateId : String
  parentCandidateId : Option String := none
  sourceAgentId : String
  crossAgent : Bool := false
  crossAgentSource : Option String := none
  mutationType : String
  bdRegionTargeted : Option BehaviourDescriptor := none
  surprise : Bool := false
  recordedAt : String

def LineageRecord.errors (r : LineageRecord) : Errors :=
  record
    [("entry_candidate_id", nonEmptyStr r.entryCandidateId),
      ("source_agent_id", nonEmptyStr r.sourceAgentId),
      ("mutation_type", nonEmptyStr r.mutationType),
      ("recorded_at", nonEmptyStr r.recordedAt)]
    (.ok ())

structure LineageNarrative where
  entryCandidateId : String
  agentReasoning : String
  investigationContext : String := ""
  surpriseExplanation : Option String := none

def LineageNarrative.errors (narrative : LineageNarrative) : Errors :=
  record
    [("entry_candidate_id", nonEmptyStr narrative.entryCandidateId),
      ("agent_reasoning", nonEmptyStr narrative.agentReasoning)]
    (.ok ())

structure LineageTracker where
  records : List LineageRecord := []
  index : String → Option LineageRecord := fun _ => none
  narratives : String → Option LineageNarrative := fun _ => none

namespace LineageTracker

/-- Add a record and index it by its candidate. -/
def record (tracker : LineageTracker) (r : LineageRecord) : LineageTracker :=
  { tracker with
    records := tracker.records ++ [r]
    index := Function.update tracker.index r.entryCandidateId (some r) }

def attachNarrative (tracker : LineageTracker) (narrative : LineageNarrative) : LineageTracker :=
  { tracker with
    narratives := Function.update tracker.narratives narrative.entryCandidateId (some narrative) }

/-- The normalised squared distance of two descriptors. -/
def squaredDistance (parentBd childBd : BehaviourDescriptor) : ℚ :=
  ((childBd.tokenCost - parentBd.tokenCost) / 500000) ^ 2 +
    (childBd.verificationDepth - parentBd.verificationDepth) ^ 2 +
    ((childBd.toolDensity - parentBd.toolDensity) / 2) ^ 2 +
    (childBd.explorationRatio - parentBd.explorationRatio) ^ 2 +
    (childBd.deliberationRatio - parentBd.deliberationRatio) ^ 2 +
    (childBd.reward - parentBd.reward) ^ 2

/-- Whether the distance of two descriptors is above one half. -/
def isSurprise (parentBd childBd : BehaviourDescriptor) : Bool :=
  (1 / 2) ^ 2 < squaredDistance parentBd childBd

/-- One item of the lineage file. -/
structure FileItem where
  record : LineageRecord
  narrative : Option LineageNarrative := none

def save (tracker : LineageTracker) : List FileItem :=
  tracker.records.map fun r =>
    { record := r, narrative := tracker.narratives r.entryCandidateId }

def itemErrors (item : FileItem) : Errors :=
  item.record.errors ++ optional LineageNarrative.errors item.narrative

/-- The tracker after one item of the file. -/
def loadItem (tracker : LineageTracker) (item : FileItem) : LineageTracker :=
  item.narrative.elim (tracker.record item.record) (tracker.record item.record).attachNarrative

def load (file : List FileItem) : Except Errors LineageTracker := do
  let items ← validateEach itemErrors file
  return items.foldl loadItem {}

/-- What holds of a tracker that was built record by record: the index has the last record of
each candidate, and narratives are attached to recorded candidates under their own name. -/
structure Consistent (tracker : LineageTracker) : Prop where
  index : tracker.index = (tracker.records.foldl record {}).index
  recorded : ∀ id, tracker.narratives id ≠ none →
    id ∈ tracker.records.map LineageRecord.entryCandidateId
  named : ∀ id narrative, tracker.narratives id = some narrative →
    narrative.entryCandidateId = id
  valid : ∀ r ∈ tracker.records, r.errors = []
  narrativeValid : ∀ id narrative, tracker.narratives id = some narrative →
    narrative.errors = []

lemma consistent_empty : ({} : LineageTracker).Consistent where
  index := rfl
  recorded := by simp
  named := by simp
  valid := by simp
  narrativeValid := by simp

variable {tracker : LineageTracker}

lemma foldl_record_index {rs : List LineageRecord} {left right : LineageTracker}
    (h : left.index = right.index) :
    (rs.foldl record left).index = (rs.foldl record right).index := by
  induction rs generalizing left right with
  | nil => exact h
  | cons r rs ih =>
    refine ih ?_
    simp only [record, h]

lemma Consistent.record (h : tracker.Consistent) {r : LineageRecord} (hr : r.errors = []) :
    (tracker.record r).Consistent where
  index := by
    simp only [LineageTracker.record, List.foldl_append, List.foldl_cons, List.foldl_nil]
    rw [h.index]
  recorded id hid := by
    have hmem := h.recorded id hid
    simp only [LineageTracker.record, List.map_append, List.mem_append]
    exact .inl hmem
  named := h.named
  valid r' hr' := by
    rcases List.mem_append.mp hr' with hr' | hr'
    · exact h.valid r' hr'
    · rw [List.mem_singleton.mp hr']
      exact hr
  narrativeValid := h.narrativeValid

lemma Consistent.attachNarrative (h : tracker.Consistent) {narrative : LineageNarrative}
    (hrecorded : narrative.entryCandidateId ∈ tracker.records.map LineageRecord.entryCandidateId)
    (hvalid : narrative.errors = []) : (tracker.attachNarrative narrative).Consistent where
  index := h.index
  recorded id hid := by
    by_cases heq : id = narrative.entryCandidateId
    · rw [heq]
      exact hrecorded
    · simp only [LineageTracker.attachNarrative, Function.update_of_ne heq] at hid
      exact h.recorded id hid
  named id other hother := by
    by_cases heq : id = narrative.entryCandidateId
    · simp only [LineageTracker.attachNarrative, heq, Function.update_self,
        Option.some.injEq] at hother
      rw [heq, ← hother]
    · simp only [LineageTracker.attachNarrative, Function.update_of_ne heq] at hother
      exact h.named id other hother
  valid := h.valid
  narrativeValid id other hother := by
    by_cases heq : id = narrative.entryCandidateId
    · simp only [LineageTracker.attachNarrative, heq, Function.update_self,
        Option.some.injEq] at hother
      rw [← hother]
      exact hvalid
    · simp only [LineageTracker.attachNarrative, Function.update_of_ne heq] at hother
      exact h.narrativeValid id other hother

lemma foldl_loadItem (hnamed : ∀ id narrative, tracker.narratives id = some narrative →
    narrative.entryCandidateId = id) (rs : List LineageRecord) (start : LineageTracker) :
    let loaded := (({ tracker with records := rs }).save).foldl loadItem start
    loaded.records = start.records ++ rs ∧
      loaded.index = (rs.foldl record start).index ∧
      ∀ id, loaded.narratives id =
        if id ∈ rs.map LineageRecord.entryCandidateId ∧ tracker.narratives id ≠ none then
          tracker.narratives id
        else start.narratives id := by
  induction rs generalizing start with
  | nil => simp [save]
  | cons r rs ih =>
    obtain ⟨hrecords, hindex, hnarratives⟩ := ih (loadItem start
      { record := r, narrative := tracker.narratives r.entryCandidateId })
    simp only [save, List.map_cons, List.foldl_cons] at hrecords hindex hnarratives ⊢
    cases hn : tracker.narratives r.entryCandidateId with
    | none =>
      simp only [loadItem, hn, Option.elim_none] at hrecords hindex hnarratives ⊢
      refine ⟨?_, hindex, fun id => ?_⟩
      · rw [hrecords]
        simp [record]
      · rw [hnarratives]
        by_cases heq : id = r.entryCandidateId
        · simp [heq, hn, record]
        · simp [heq, record]
    | some narrative =>
      have hname := hnamed _ _ hn
      simp only [loadItem, hn, Option.elim_some] at hrecords hindex hnarratives ⊢
      refine ⟨?_, ?_, fun id => ?_⟩
      · rw [hrecords]
        simp [attachNarrative, record]
      · rw [hindex]
        exact foldl_record_index rfl
      · rw [hnarratives]
        by_cases heq : id = r.entryCandidateId
        · simp [heq, hn, attachNarrative, hname]
        · simp [heq, attachNarrative, hname, record]

/-- **Loading a saved tracker gives it back.** -/
theorem load_save (h : tracker.Consistent) : load tracker.save = .ok tracker := by
  have hitems : validateEach itemErrors tracker.save = .ok tracker.save := by
    refine validateEach_eq_ok.mpr ⟨rfl, fun item hitem => ?_⟩
    obtain ⟨r, hr, rfl⟩ := List.mem_map.mp hitem
    simp only [itemErrors, List.append_eq_nil_iff, optional_eq_nil]
    exact ⟨h.valid r hr, fun narrative hn => h.narrativeValid _ narrative hn⟩
  rw [load, hitems]
  refine congrArg Except.ok ?_
  obtain ⟨hrecords, hindex, hnarratives⟩ := foldl_loadItem h.named tracker.records {}
  have hnarr : (tracker.save.foldl loadItem {}).narratives = tracker.narratives := by
    funext id
    rw [hnarratives]
    by_cases hid : tracker.narratives id = none
    · simp [hid]
    · simp [hid, h.recorded id hid]
  have hidx : (tracker.save.foldl loadItem {}).index = tracker.index := hindex.trans h.index.symm
  have hrec : (tracker.save.foldl loadItem {}).records = tracker.records := hrecords
  calc tracker.save.foldl loadItem {}
      = ⟨_, _, _⟩ := rfl
    _ = tracker := by rw [hrec, hidx, hnarr]

end LineageTracker

/-! ## Budget -/

structure BudgetLedger where
  maxCostUsd : ℚ
  evalBudgetUsd : ℚ
  windDownThreshold : ℚ := 8 / 10
  finalThreshold : ℚ := 95 / 100
  agentSpend : List (String × ℚ≥0) := []
  evalSpend : ℚ≥0 := 0

namespace BudgetLedger

def totalAgentSpend (budget : BudgetLedger) : ℚ≥0 := (budget.agentSpend.map Prod.snd).sum

def recordAgentSpend (budget : BudgetLedger) (agentId : String) (amountUsd : ℚ≥0) :
    BudgetLedger :=
  let spent := ((Table.lookup Prod.fst agentId budget.agentSpend).map Prod.snd).getD 0
  { budget with
    agentSpend := Table.upsert Prod.fst (agentId, spent + amountUsd) budget.agentSpend }

def recordEvalSpend (budget : BudgetLedger) (amountUsd : ℚ≥0) : BudgetLedger :=
  { budget with evalSpend := budget.evalSpend + amountUsd }

/-- The budget file. -/
structure File where
  maxCostUsd : ℚ
  evalBudgetUsd : ℚ
  agentSpend : List (String × ℚ≥0)
  evalSpend : ℚ≥0

def save (budget : BudgetLedger) : File where
  maxCostUsd := budget.maxCostUsd
  evalBudgetUsd := budget.evalBudgetUsd
  agentSpend := budget.agentSpend
  evalSpend := budget.evalSpend

/-- The ledger of a budget file: the file has no thresholds, so these are the defaults. -/
def load (file : File) : BudgetLedger where
  maxCostUsd := file.maxCostUsd
  evalBudgetUsd := file.evalBudgetUsd
  agentSpend := file.agentSpend.foldl (fun spend entry => Table.upsert Prod.fst entry spend) []
  evalSpend := file.evalSpend

/-- The thresholds are those of a ledger that is given none. -/
def DefaultThresholds (budget : BudgetLedger) : Prop :=
  budget.windDownThreshold = 8 / 10 ∧ budget.finalThreshold = 95 / 100

instance (budget : BudgetLedger) : Decidable budget.DefaultThresholds :=
  inferInstanceAs (Decidable (_ ∧ _))

/-- **Loading a saved ledger gives it back** exactly when its thresholds are the defaults. -/
theorem load_save {budget : BudgetLedger} (h : Table.Keyed Prod.fst budget.agentSpend) :
    load budget.save = budget ↔ budget.DefaultThresholds := by
  have hspend : budget.agentSpend.foldl
      (fun spend entry => Table.upsert Prod.fst entry spend) [] = budget.agentSpend := by
    rw [Table.foldl_upsert (by simpa using h), List.nil_append]
  obtain ⟨max, eval, windDown, final, spend, spent⟩ := budget
  simp only [load, save, DefaultThresholds, mk.injEq, true_and, hspend, and_true]
  exact and_congr eq_comm eq_comm

end BudgetLedger

end AecBench.Evolution.Swarm
