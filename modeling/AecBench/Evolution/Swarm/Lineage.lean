import Mathlib.Data.List.Chain
import AecBench.Evolution.Swarm.Stores
import AecBench.Lib.Ancestry

/-!
# Lineage chains

A tracker keeps the last record of every candidate, and the chain of a candidate walks from record
to record along their parents. Nothing checks that the walk comes to an end: it does when no
candidate is its own ancestor, and a record keeps it so when it names neither its own candidate nor
a descendant of it as the parent.

## Main definitions

* `LineageTracker.getLineageChain` — the walk, for a number of rounds.
* `LineageTracker.Traces` — the chain of a candidate, from its record to a root.
* `LineageTracker.Built` — the trackers that records and files give.

## Main results

* `LineageTracker.chainsEnd_iff` — when every candidate has its chain.
* `LineageTracker.not_chainsEnd_rerecorded` — two records of a candidate, and a walk without end.
* `LineageTracker.load_save_iff` — when a tracker is read back from its file.
-/

namespace AecBench.Evolution.Swarm

open Validation

namespace LineageTracker

/-! ## The walk -/

/-- The loop of `get_lineage_chain` over the current record and the chain so far. -/
def walk (tracker : LineageTracker) :
    ℕ → Option LineageRecord → List LineageRecord → Option (List LineageRecord)
  | _, none, chain => some chain
  | 0, some _, _ => none
  | rounds + 1, some current, chain =>
    match current.parentCandidateId with
    | none => some (chain ++ [current])
    | some parent => walk tracker rounds (tracker.index parent) (chain ++ [current])

/-- `get_lineage_chain`, when its loop ends within a number of rounds. -/
def getLineageChain (tracker : LineageTracker) (rounds : ℕ) (candidateId : String) :
    Option (List LineageRecord) :=
  tracker.walk rounds (tracker.index candidateId) []

/-- The parent in the last record of a candidate. -/
def parentOf (tracker : LineageTracker) (candidateId : String) : Option String :=
  (tracker.index candidateId).bind LineageRecord.parentCandidateId

/-- The chain of a candidate: it starts with the record of the candidate, goes from every record to
that of its parent, and ends where there is none; no candidate is in it twice. -/
structure Traces (tracker : LineageTracker) (candidateId : String) (chain : List LineageRecord) :
    Prop where
  head : chain.head? = tracker.index candidateId
  named : ∀ r ∈ chain.head?, r.entryCandidateId = candidateId
  follows : chain.IsChain fun r s => r.parentCandidateId.bind tracker.index = some s
  root : ∀ r ∈ chain.getLast?, r.parentCandidateId.bind tracker.index = none
  distinct : (chain.map LineageRecord.entryCandidateId).Nodup

/-- Every candidate has its chain: the walk ends, and returns it. -/
def ChainsEnd (tracker : LineageTracker) : Prop :=
  ∀ candidateId, ∃ rounds chain, tracker.getLineageChain rounds candidateId = some chain ∧
    tracker.Traces candidateId chain

/-- The trackers that `record`, `attach_narrative` and `load` give. -/
inductive Built : LineageTracker → Prop
  | empty : Built {}
  | record {tracker : LineageTracker} (r : LineageRecord) (h : Built tracker) :
      Built (tracker.record r)
  | attachNarrative {tracker : LineageTracker} (narrative : LineageNarrative) (h : Built tracker) :
      Built (tracker.attachNarrative narrative)
  | load {tracker : LineageTracker} (file : List FileItem) (h : load file = .ok tracker) :
      Built tracker

/-- The index has records under their own names, and only of recorded candidates. -/
structure Indexed (tracker : LineageTracker) : Prop where
  named : ∀ candidateId r, tracker.index candidateId = some r → r.entryCandidateId = candidateId
  known : ∀ candidateId, tracker.index candidateId ≠ none →
    candidateId ∈ tracker.records.map LineageRecord.entryCandidateId

section Walks

variable {tracker : LineageTracker}

lemma indexed_empty : ({} : LineageTracker).Indexed := ⟨by simp, by simp⟩

lemma Indexed.record (h : tracker.Indexed) (r : LineageRecord) : (tracker.record r).Indexed := by
  constructor
  · intro candidateId s hs
    simp only [LineageTracker.record, Function.update_apply] at hs
    split_ifs at hs with heq
    · rw [heq, ← Option.some.inj hs]
    · exact h.named candidateId s hs
  · intro candidateId hsome
    simp only [LineageTracker.record, Function.update_apply] at hsome
    simp only [LineageTracker.record, List.map_append, List.mem_append]
    split_ifs at hsome with heq
    · exact .inr (by simp [heq])
    · exact .inl (h.known candidateId hsome)

lemma Indexed.attachNarrative (h : tracker.Indexed) (narrative : LineageNarrative) :
    (tracker.attachNarrative narrative).Indexed := ⟨h.named, h.known⟩

lemma Indexed.loadItem (h : tracker.Indexed) (item : FileItem) : (tracker.loadItem item).Indexed := by
  have hrecord := h.record item.record
  rw [LineageTracker.loadItem]
  cases item.narrative with
  | none => exact hrecord
  | some narrative => exact hrecord.attachNarrative narrative

/-- **Every tracker is indexed by its records.** -/
theorem Built.indexed (h : tracker.Built) : tracker.Indexed := by
  induction h with
  | empty => exact indexed_empty
  | record r _ ih => exact ih.record r
  | attachNarrative narrative _ ih => exact ih.attachNarrative narrative
  | load file hload =>
    simp only [LineageTracker.load, bind_eq_ok, pure_eq_ok] at hload
    obtain ⟨items, -, rfl⟩ := hload
    have hfold : ∀ start : LineageTracker, start.Indexed →
        (items.foldl LineageTracker.loadItem start).Indexed := by
      intro start hstart
      induction items generalizing start with
      | nil => exact hstart
      | cons item items ih => exact ih _ (hstart.loadItem item)
    exact hfold {} indexed_empty

lemma parentOf_record (r : LineageRecord) :
    (tracker.record r).parentOf =
      Function.update tracker.parentOf r.entryCandidateId r.parentCandidateId := by
  funext candidateId
  by_cases heq : candidateId = r.entryCandidateId
  · subst heq
    simp [parentOf, record]
  · simp [parentOf, record, heq]

variable {rounds : ℕ} {candidateId : String} {chain found : List LineageRecord}

variable (hwalk : tracker.walk rounds (tracker.index candidateId) chain = some found)
include hwalk

lemma walk_parent {parent : String} (hparent : tracker.parentOf candidateId = some parent) :
    ∃ m < rounds, ∃ chain', tracker.walk m (tracker.index parent) chain' = some found := by
  obtain ⟨r, hr, hp⟩ := Option.bind_eq_some_iff.mp hparent
  rw [hr] at hwalk
  cases rounds with
  | zero => cases hwalk
  | succ m =>
    rw [walk, hp] at hwalk
    exact ⟨m, Nat.lt_succ_self m, _, hwalk⟩

lemma walk_ancestor {ancestor : String}
    (h : Ancestry.Descends tracker.parentOf candidateId ancestor) :
    ∃ m < rounds, ∃ chain', tracker.walk m (tracker.index ancestor) chain' = some found := by
  induction h with
  | single hstep => exact walk_parent hwalk hstep
  | tail _ hstep ih =>
    obtain ⟨m, hm, chain', hwalk'⟩ := ih
    obtain ⟨n, hn, hrest⟩ := walk_parent hwalk' hstep
    exact ⟨n, hn.trans hm, hrest⟩

lemma not_descends_self : ¬ Ancestry.Descends tracker.parentOf candidateId candidateId := by
  intro hself
  induction rounds using Nat.strongRecOn generalizing chain with
  | _ rounds ih =>
    obtain ⟨m, hm, chain', hwalk'⟩ := walk_ancestor hwalk hself
    exact ih m hm hwalk'

omit hwalk

/-- What a walk adds to the chain: the chain of the candidate, all of it from the candidate and its
ancestors. -/
lemma exists_walk (hindexed : tracker.Indexed) (hacyclic : Ancestry.Acyclic tracker.parentOf)
    (candidateId : String) :
    ∃ rounds chain, tracker.Traces candidateId chain ∧
      (∀ r ∈ chain, r.entryCandidateId = candidateId ∨
        Ancestry.Descends tracker.parentOf candidateId r.entryCandidateId) ∧
      ∀ before, tracker.walk rounds (tracker.index candidateId) before = some (before ++ chain) := by
  have hknown : ∀ id, tracker.parentOf id ≠ none →
      id ∈ tracker.records.map LineageRecord.entryCandidateId := by
    intro id hid
    refine hindexed.known id fun hnone => hid ?_
    rw [parentOf, hnone]
    rfl
  induction candidateId using (hacyclic.wellFounded hknown).induction with
  | _ candidateId ih =>
    cases hr : tracker.index candidateId with
    | none =>
      refine ⟨0, [], ⟨hr.symm, by simp, List.isChain_nil, by simp, List.nodup_nil⟩, by simp, ?_⟩
      intro before
      rw [walk, List.append_nil]
    | some r =>
      have hname := hindexed.named candidateId r hr
      cases hp : r.parentCandidateId with
      | none =>
        refine ⟨1, [r], ⟨hr.symm, ?_, List.isChain_singleton _, ?_, List.nodup_singleton _⟩, ?_, ?_⟩
        · simpa using hname
        · simp [hp]
        · simpa using Or.inl hname
        · intro before
          rw [walk, hp]
      | some parent =>
        have hparent : tracker.parentOf candidateId = some parent := by
          rw [parentOf, hr, Option.bind_some, hp]
        obtain ⟨rounds, chain, htraces, hmembers, hwalk⟩ := ih parent hparent
        have hbelow : ∀ s ∈ chain,
            Ancestry.Descends tracker.parentOf candidateId s.entryCandidateId := by
          intro s hs
          rcases hmembers s hs with heq | hdescends
          · rw [heq]
            exact .single hparent
          · exact .head hparent hdescends
        refine ⟨rounds + 1, r :: chain, ⟨hr.symm, ?_, ?_, ?_, ?_⟩, ?_, ?_⟩
        · simpa using hname
        · rw [List.isChain_cons]
          refine ⟨fun s hs => ?_, htraces.follows⟩
          rw [hp, Option.bind_some, ← htraces.head]
          exact hs
        · cases chain with
          | nil =>
            have hnone := htraces.head
            simp [hp, ← hnone]
          | cons s chain => simpa using htraces.root
        · rw [List.map_cons, List.nodup_cons]
          refine ⟨fun hmem => ?_, htraces.distinct⟩
          obtain ⟨s, hs, heq⟩ := List.mem_map.mp hmem
          have hself := hbelow s hs
          rw [heq, hname] at hself
          exact hacyclic candidateId hself
        · intro s hs
          rcases List.mem_cons.mp hs with rfl | hs
          · exact .inl hname
          · exact .inr (hbelow s hs)
        · intro before
          rw [walk, hp]
          simpa using hwalk (before ++ [r])

/-- **When every candidate has its chain**, in whatever order records were made, repeated or
loaded: exactly when no candidate is its own ancestor by the last records. A record keeps it so
exactly when its parent is neither its candidate nor one of the candidate's descendants. -/
theorem chainsEnd_iff (h : tracker.Built) :
    (tracker.ChainsEnd ↔ Ancestry.Acyclic tracker.parentOf) ∧
      ∀ r, tracker.ChainsEnd → ((tracker.record r).ChainsEnd ↔
        ∀ parent, r.parentCandidateId = some parent → parent ≠ r.entryCandidateId ∧
          ¬ Ancestry.Descends tracker.parentOf parent r.entryCandidateId) := by
  have hiff : ∀ {t : LineageTracker}, t.Built →
      (t.ChainsEnd ↔ Ancestry.Acyclic t.parentOf) := by
    intro t ht
    constructor
    · intro hends candidateId
      obtain ⟨rounds, chain, hwalk, -⟩ := hends candidateId
      exact not_descends_self hwalk
    · intro hacyclic candidateId
      obtain ⟨rounds, chain, htraces, -, hwalk⟩ := exists_walk ht.indexed hacyclic candidateId
      exact ⟨rounds, chain, hwalk [], htraces⟩
  refine ⟨hiff h, fun r hends => ?_⟩
  rw [hiff (.record r h), parentOf_record]
  exact Ancestry.acyclic_update_iff ((hiff h).mp hends)

end Walks

/-! ## A walk without end -/

/-- The record of a candidate with a parent. -/
def recordOf (candidateId : String) (parent : Option String) : LineageRecord where
  entryCandidateId := candidateId
  parentCandidateId := parent
  sourceAgentId := "agent-0"
  mutationType := "conservative"
  recordedAt := "2026-04-07T10:00:00+00:00"

/-- A root and its child. -/
def twoGenerations : LineageTracker :=
  ({} : LineageTracker).record (recordOf "v1" none) |>.record (recordOf "v2" (some "v1"))

lemma built_twoGenerations : twoGenerations.Built := .record _ (.record _ .empty)

/-- The chains of two generations. -/
theorem chainsEnd_twoGenerations :
    twoGenerations.Built ∧ (twoGenerations.ChainsEnd ↔ Ancestry.Acyclic twoGenerations.parentOf) :=
  ⟨built_twoGenerations, (chainsEnd_iff built_twoGenerations).1⟩

/-- **Two records of a candidate, and a walk without end**: the root is recorded again, as a child
of its own child. -/
theorem not_chainsEnd_rerecorded :
    (twoGenerations.record (recordOf "v1" (some "v2"))).Built ∧
      ¬ (twoGenerations.record (recordOf "v1" (some "v2"))).ChainsEnd := by
  refine ⟨.record _ built_twoGenerations, fun hends => ?_⟩
  obtain ⟨rounds, chain, hwalk, -⟩ := hends "v1"
  refine not_descends_self hwalk (Relation.TransGen.head (b := "v2") ?_ (.single ?_))
  · decide
  · decide

/-! ## The file of a tracker -/

section Files

variable {tracker : LineageTracker}

/-- The index has the last record of each candidate, and narratives have their own names. -/
structure Replayed (tracker : LineageTracker) : Prop where
  index : tracker.index = (tracker.records.foldl LineageTracker.record {}).index
  named : ∀ id narrative, tracker.narratives id = some narrative →
    narrative.entryCandidateId = id

lemma Replayed.record (h : tracker.Replayed) (r : LineageRecord) : (tracker.record r).Replayed where
  index := by
    simp only [LineageTracker.record, List.foldl_append, List.foldl_cons, List.foldl_nil]
    rw [h.index]
  named := h.named

lemma Replayed.attachNarrative (h : tracker.Replayed) (narrative : LineageNarrative) :
    (tracker.attachNarrative narrative).Replayed where
  index := h.index
  named id other hother := by
    simp only [LineageTracker.attachNarrative, Function.update_apply] at hother
    split_ifs at hother with heq
    · rw [heq, ← Option.some.inj hother]
    · exact h.named id other hother

lemma Built.replayed (h : tracker.Built) : tracker.Replayed := by
  induction h with
  | empty => exact ⟨rfl, by simp⟩
  | record r _ ih => exact ih.record r
  | attachNarrative narrative _ ih => exact ih.attachNarrative narrative
  | load file hload =>
    simp only [LineageTracker.load, bind_eq_ok, pure_eq_ok] at hload
    obtain ⟨items, -, rfl⟩ := hload
    refine List.foldlRecOn items loadItem (b := {}) (motive := Replayed) ⟨rfl, by simp⟩ ?_
    intro tracker h item _
    have hrecord := h.record item.record
    rw [LineageTracker.loadItem]
    cases item.narrative with
    | none => exact hrecord
    | some narrative => exact hrecord.attachNarrative narrative

/-- **When a tracker is read back from its file**: exactly when every narrative is about a recorded
candidate. The file holds the records, and narratives only beside them. -/
theorem load_save_iff (h : tracker.Built) (hvalid : ∀ r ∈ tracker.records, r.errors = [])
    (hnarratives : ∀ id narrative, tracker.narratives id = some narrative → narrative.errors = []) :
    load tracker.save = .ok tracker ↔ ∀ id, tracker.narratives id ≠ none →
      id ∈ tracker.records.map LineageRecord.entryCandidateId := by
  constructor
  · intro hload id hid
    by_contra hmissing
    simp only [load, bind_eq_ok, pure_eq_ok] at hload
    obtain ⟨items, hitems, hfold⟩ := hload
    obtain ⟨rfl, -⟩ := validateEach_eq_ok.mp hitems
    have hread := (foldl_loadItem h.replayed.named tracker.records {}).2.2 id
    rw [if_neg fun hrecorded => hmissing hrecorded.1] at hread
    exact hid (congrArg (LineageTracker.narratives · id) hfold ▸ hread)
  · intro hrecorded
    exact load_save ⟨h.replayed.index, hrecorded, h.replayed.named, hvalid, hnarratives⟩

end Files

/-- Two generations, and a narrative about neither. -/
theorem load_save_iff_twoGenerations :
    load twoGenerations.save = .ok twoGenerations ↔ ∀ id, twoGenerations.narratives id ≠ none →
      id ∈ twoGenerations.records.map LineageRecord.entryCandidateId :=
  load_save_iff built_twoGenerations (by decide) fun _ _ h => nomatch h

end LineageTracker

end AecBench.Evolution.Swarm
