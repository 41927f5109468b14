import Mathlib.Data.List.Forall2
import AecBench.Evaluation.Behavioral
import AecBench.Lib.Json
import AecBench.Lib.Sorting
import AecBench.Lib.Validation

/-!
# The classification of the turns of a trace

A model is asked for the bond types of the assistant turns batch by batch, and answers in free
text. An answer that is not JSON, or that leaves out a turn of its batch, is refused. An answer may
also be JSON of another shape, name a turn twice or name a turn that it was not asked for.

## Main definitions

* `classifyTrace` — the batches of a trace.
* `OneBondEach` — the answer has every assistant turn once, in order.

## Main results

* `oneBondEach_iff` — when each turn gets one bond type.
-/

namespace AecBench.Evaluation

open Validation

/-- The value of a bond type. -/
def BondType.ofValue : String → Option BondType
  | "execution" => some .execution
  | "verification" => some .verification
  | "deliberation" => some .deliberation
  | "exploration" => some .exploration
  | _ => none

/-- The classification of a turn. -/
structure TurnClassification where
  turnIndex : ℤ
  bondType : BondType
  confidence : ℚ
  rationale : String

/-- A turn, as far as its classification depends on it. -/
structure Turn where
  turnIndex : ℤ
  role : String

/-- A `BehavioralClassificationError`, or any other exception. -/
inductive Failure
  | classification
  | other
  deriving DecidableEq

/-- The functions of the language that reading an answer rests on. -/
structure TextFunctions where
  /-- `json.loads`. Its `JSONDecodeError` is the failure of a classification. -/
  loads : String → Except Failure Json
  str : Json → String
  int : String → Option ℤ
  lower : String → String
  /-- `min(1.0, max(0.0, float(value)))`. -/
  unitFloat : String → Option ℚ

variable (text : TextFunctions)

/-! ### Reading an answer -/

/-- What stands before and behind a mark. -/
def cut (mark : List Char) : List Char → Option (List Char × List Char)
  | [] => none
  | c :: cs =>
    if mark.isPrefixOf (c :: cs) then some ([], (c :: cs).drop mark.length)
    else (cut mark cs).map fun parts => (c :: parts.1, parts.2)

/-- `_extract_json`: the first fenced block, or what stands between the outer braces. -/
def extractJson (response : String) : String :=
  let fence := "```".toList
  match (cut fence response.toList).bind fun parts => cut fence parts.2 with
  | some (block, _) =>
    Text.strip (String.ofList (if "json".toList.isPrefixOf block then block.drop 4 else block))
  | none =>
    let tail := response.toList.dropWhile (· ≠ '\x7b')
    let object := (tail.reverse.dropWhile (· ≠ '\x7d')).reverse
    if object = [] then response else String.ofList object

/-- The items of a `for` loop over a value, or nothing when it raises a `TypeError`. -/
def iterate : Json → Option (List Json)
  | .array items => some items
  | .object fields => some (fields.map fun field => .str field.1)
  | .str s => some (s.toList.map fun c => .str (String.singleton c))
  | _ => none

/-- An entry, or nothing when it is malformed. -/
def readEntry : Json → Option TurnClassification
  | .object fields => do
    let turnIndex ← text.int (text.str (← fields.lookup "turn_index"))
    let bondType ← BondType.ofValue (text.lower (text.str (← fields.lookup "bond_type")))
    let confidence ← text.unitFloat (text.str ((fields.lookup "confidence").getD (.float (1 / 2))))
    let rationale := text.str ((fields.lookup "rationale").getD (.str ""))
    pure ⟨turnIndex, bondType, confidence, rationale⟩
  | _ => none

/-- The well-formed entries of an answer. -/
def readEntries (response : String) : Except Failure (List TurnClassification) := do
  match ← text.loads (extractJson response) with
  | .object fields =>
    match iterate ((fields.lookup "classifications").getD (.array [])) with
    | some entries => pure (entries.filterMap (readEntry text))
    | none => throw .other
  | _ => throw .other

/-- No index is missing from the entries. -/
def Covers (entries : List TurnClassification) (indices : List ℤ) : Prop :=
  ∀ i ∈ indices, i ∈ entries.map (·.turnIndex)

instance decidableCovers (entries : List TurnClassification) (indices : List ℤ) :
    Decidable (Covers entries indices) := inferInstanceAs (Decidable (∀ _ ∈ _, _))

/-- `parse_classification_response`. -/
def parseClassificationResponse (response : String) (expectedIndices : List ℤ) :
    Except Failure (List TurnClassification) := do
  let classifications ← readEntries text response
  require (Covers classifications expectedIndices) .classification
  pure (Table.sortBy (·.turnIndex) classifications)

/-- The answers, with the turns that each was asked for. -/
def calls (batchSize : ℕ) (complete : ℕ → String) (indices : List ℤ) : List (String × List ℤ) :=
  (List.range ((indices.length + batchSize - 1) / batchSize)).map fun batchIndex =>
    (complete batchIndex, (indices.drop (batchIndex * batchSize)).take batchSize)

/-- The indices of the assistant turns. -/
def assistantIndices (turns : List Turn) : List ℤ :=
  (turns.filter (·.role = "assistant")).map (·.turnIndex)

/-- `classify_trace`. -/
def classifyTrace (batchSize : ℕ) (complete : ℕ → String) (turns : List Turn) :
    Except Failure (List TurnClassification) := do
  let batches ← (calls batchSize complete (assistantIndices turns)).mapM fun call =>
    parseClassificationResponse text call.1 call.2
  pure (Table.sortBy (·.turnIndex) batches.flatten)

/-- `compute_transition_counts`. -/
def computeTransitionCounts (classifications : List TurnClassification) (previous current : BondType) :
    ℕ :=
  (classifications.zip classifications.tail).countP fun pair =>
    pair.1.bondType = previous ∧ pair.2.bondType = current

/-- The sum of all entries of a table of counts. -/
def total (counts : BondType → BondType → ℕ) : ℕ :=
  let bonds : List BondType := [.execution, .verification, .deliberation, .exploration]
  (bonds.map fun previous => (bonds.map fun current => counts previous current).sum).sum

/-! ### One bond type for each turn -/

/-- Every assistant turn is classified once and nothing else is, in order; or the answers are
refused. -/
def OneBondEach (turns : List Turn) : Except Failure (List TurnClassification) → Prop
  | .error failure => failure = .classification
  | .ok classifications =>
    (classifications.map (·.turnIndex)).Perm (assistantIndices turns) ∧
      (classifications.map (·.turnIndex)).Pairwise (· < ·) ∧
      total (computeTransitionCounts classifications) = (assistantIndices turns).length - 1

/-- The answer is JSON with entries for all turns of its batch. -/
def Accepted (call : String × List ℤ) : Prop :=
  ∃ entries, readEntries text call.1 = .ok entries ∧ Covers entries call.2

/-- The answer is no JSON, or leaves out a turn of its batch. -/
def Refused (call : String × List ℤ) : Prop :=
  readEntries text call.1 = .error .classification ∨
    ∃ entries, readEntries text call.1 = .ok entries ∧ ¬ Covers entries call.2

/-- An answer is refused, and those before it are not. -/
def Stops : List (String × List ℤ) → Prop
  | [] => False
  | call :: rest => Refused text call ∨ Accepted text call ∧ Stops rest

/-- The answer has as many entries as its batch has turns. -/
def Exact (call : String × List ℤ) : Prop :=
  ∃ entries, readEntries text call.1 = .ok entries ∧ Covers entries call.2 ∧
    entries.length = call.2.length

/-! ### The answers one by one -/

variable {text} {call : String × List ℤ} {batches : List (List TurnClassification)}
  {classifications : List TurnClassification} {asked : List (String × List ℤ)}

lemma parseClassificationResponse_eq_ok :
    parseClassificationResponse text call.1 call.2 = .ok classifications ↔
      ∃ entries, readEntries text call.1 = .ok entries ∧ Covers entries call.2 ∧
        Table.sortBy (·.turnIndex) entries = classifications := by
  rw [parseClassificationResponse, bind_eq_ok]
  exact exists_congr fun entries => and_congr_right fun _ => by rw [require_bind_eq_ok, pure_eq_ok]

lemma parseClassificationResponse_eq_error :
    parseClassificationResponse text call.1 call.2 = .error .classification ↔
      Refused text call := by
  unfold parseClassificationResponse Refused
  cases readEntries text call.1 with
  | error failure => simp [Bind.bind, Except.bind]
  | ok entries =>
    by_cases hall : Covers entries call.2 <;>
      simp [require, hall, Bind.bind, Except.bind, Pure.pure, Except.pure]

lemma mapM_eq_error (asked : List (String × List ℤ)) :
    asked.mapM (fun call => parseClassificationResponse text call.1 call.2) =
      .error .classification ↔ Stops text asked := by
  induction asked with
  | nil => simp [Stops, Pure.pure, Except.pure]
  | cons call rest ih =>
    rw [List.mapM_cons, Stops, ← parseClassificationResponse_eq_error, ← ih]
    cases hparse : parseClassificationResponse text call.1 call.2 with
    | error failure =>
      have hnot : ¬ Accepted text call := by
        rintro ⟨entries, hentries, hall⟩
        have hok := parseClassificationResponse_eq_ok.mpr ⟨entries, hentries, hall, rfl⟩
        rw [hparse] at hok
        cases hok
      simp [Bind.bind, Except.bind, hnot]
    | ok classifications =>
      obtain ⟨entries, hentries, hall, -⟩ := parseClassificationResponse_eq_ok.mp hparse
      have haccepted : Accepted text call := ⟨entries, hentries, hall⟩
      cases rest.mapM fun call => parseClassificationResponse text call.1 call.2 <;>
        simp [Bind.bind, Except.bind, Pure.pure, Except.pure, haccepted]

/-! ### The batches together -/

lemma flatMap_take_drop (size k : ℕ) (indices : List ℤ) :
    ((List.range k).flatMap fun i => (indices.drop (i * size)).take size) =
      indices.take (k * size) := by
  induction k with
  | zero => simp
  | succ k ih => simp [List.range_succ, ih, Nat.succ_mul, List.take_add]

lemma flatMap_calls {batchSize : ℕ} (hbatch : 0 < batchSize) (complete : ℕ → String)
    (indices : List ℤ) : (calls batchSize complete indices).flatMap (·.2) = indices := by
  have hlength := Nat.div_add_mod (indices.length + batchSize - 1) batchSize
  have hmod := Nat.mod_lt (indices.length + batchSize - 1) hbatch
  rw [calls, List.flatMap_map, flatMap_take_drop, List.take_of_length_le]
  rw [Nat.mul_comm]
  omega

/-- Answers that leave out no turn have as many entries as turns only when each of them has. -/
lemma length_eq_iff
    (h : List.Forall₂ (fun call entries => call.2.length ≤ entries.length) asked batches) :
    (asked.flatMap (·.2)).length ≤ batches.flatten.length ∧
      ((asked.flatMap (·.2)).length = batches.flatten.length ↔
        List.Forall₂ (fun call entries => call.2.length = entries.length) asked batches) := by
  induction h with
  | nil => simp
  | cons hle _ ih =>
    obtain ⟨htotal, ih⟩ := ih
    rw [List.forall₂_cons, ← ih]
    simp only [List.flatMap_cons, List.flatten_cons, List.length_append]
    omega

lemma total_countP (pairs : List (TurnClassification × TurnClassification)) :
    total (fun previous current => pairs.countP fun pair =>
      pair.1.bondType = previous ∧ pair.2.bondType = current) = pairs.length := by
  induction pairs with
  | nil => rfl
  | cons pair pairs ih =>
    simp only [total, List.map_cons, List.map_nil, List.sum_cons, List.sum_nil, List.countP_cons,
      List.length_cons, decide_eq_true_eq] at ih ⊢
    cases pair.1.bondType <;> cases pair.2.bondType <;>
      simp only [reduceCtorEq, and_self, and_true, and_false, if_true, if_false] <;> omega

variable (h : List.Forall₂ (fun call entries =>
  parseClassificationResponse text call.1 call.2 = .ok entries) asked batches)
include h

lemma forall₂_length_iff :
    List.Forall₂ (fun call entries => call.2.length = entries.length) asked batches ↔
      ∀ call ∈ asked, Exact text call := by
  induction h with
  | nil => simp
  | cons hparse _ ih =>
    rw [List.forall₂_cons, ih, List.forall_mem_cons]
    refine and_congr_left fun _ => ?_
    obtain ⟨entries, hentries, hall, rfl⟩ := parseClassificationResponse_eq_ok.mp hparse
    rw [(Table.sortBy_perm _ entries).length_eq]
    constructor
    · exact fun hlength => ⟨entries, hentries, hall, hlength.symm⟩
    · rintro ⟨others, hothers, -, hlength⟩
      rw [hentries] at hothers
      rw [Except.ok.inj hothers, hlength]

lemma covers_batch : List.Forall₂ (fun call entries => Covers entries call.2) asked batches := by
  refine h.imp fun call entries hparse i hi => ?_
  obtain ⟨entries, -, hall, rfl⟩ := parseClassificationResponse_eq_ok.mp hparse
  exact ((Table.sortBy_perm _ entries).map _).mem_iff.mpr (hall i hi)

lemma perm_iff (hnodup : (asked.flatMap (·.2)).Nodup) :
    (batches.flatten.map (·.turnIndex)).Perm (asked.flatMap (·.2)) ↔
      ∀ call ∈ asked, Exact text call := by
  have hcovers := covers_batch h
  have hle : List.Forall₂ (fun call entries => call.2.length ≤ entries.length) asked batches := by
    refine ((List.forall₂_and_left _ _).mpr ⟨(List.nodup_flatMap.mp hnodup).1, hcovers⟩).imp ?_
    rintro call entries ⟨hdistinct, hall⟩
    exact (List.subperm_of_subset hdistinct hall).length_le.trans_eq (List.length_map _)
  rw [← forall₂_length_iff h, ← (length_eq_iff hle).2]
  constructor
  · intro hperm
    rw [← hperm.length_eq, List.length_map]
  · intro hlength
    have hsub : asked.flatMap (·.2) ⊆ batches.flatten.map (·.turnIndex) := by
      clear h hle hnodup hlength
      induction hcovers with
      | nil => simp
      | cons hall _ ih =>
        rw [List.flatMap_cons, List.flatten_cons, List.map_append]
        exact List.append_subset.mpr ⟨List.subset_append_of_subset_left _ hall,
          List.subset_append_of_subset_right _ ih⟩
    refine ((List.subperm_of_subset hnodup hsub).perm_of_length_le ?_).symm
    rw [List.length_map, hlength]

omit h

/-- **When each turn gets exactly one bond type.** Some answer is refused, and those before it are
not; or each answer has as many entries as its batch has turns, and leaves out none of them. -/
theorem oneBondEach_iff {batchSize : ℕ} (hbatch : 0 < batchSize) (complete : ℕ → String)
    (turns : List Turn) (hdistinct : (turns.map (·.turnIndex)).Nodup) :
    OneBondEach turns (classifyTrace text batchSize complete turns) ↔
      Stops text (calls batchSize complete (assistantIndices turns)) ∨
        ∀ call ∈ calls batchSize complete (assistantIndices turns), Exact text call := by
  have hindices := flatMap_calls hbatch complete (assistantIndices turns)
  have hnodup : (assistantIndices turns).Nodup :=
    hdistinct.sublist (List.filter_sublist.map _)
  unfold classifyTrace
  generalize calls batchSize complete (assistantIndices turns) = asked at *
  rw [← mapM_eq_error]
  cases hrun : asked.mapM fun call => parseClassificationResponse text call.1 call.2 with
  | error failure =>
    have hnot : ¬ ∀ call ∈ asked, Exact text call := by
      intro hexact
      obtain ⟨batches, hok⟩ := exists_mapM_eq_ok fun call hcall => by
        obtain ⟨entries, hentries, hall, -⟩ := hexact call hcall
        exact ⟨_, parseClassificationResponse_eq_ok.mpr ⟨entries, hentries, hall, rfl⟩⟩
      rw [hrun] at hok
      cases hok
    rw [or_iff_left hnot]
    exact Except.error.injEq failure _ ▸ Iff.rfl
  | ok batches =>
    rw [or_iff_right nofun, ← perm_iff (mapM_eq_ok.mp hrun) (hindices ▸ hnodup), hindices]
    have hsorted := (Table.sortBy_perm (·.turnIndex) batches.flatten).map (·.turnIndex)
    constructor
    · rintro ⟨hperm, -, -⟩
      exact hsorted.symm.trans hperm
    · intro hperm
      have hall := hsorted.trans hperm
      refine ⟨hall, ?_, ?_⟩
      · refine List.Pairwise.imp₂ (fun _ _ => lt_of_le_of_ne)
          (List.pairwise_map.mpr (Table.pairwise_sortBy _)) (hall.nodup_iff.mpr hnodup)
      · have hlength := hall.length_eq
        rw [List.length_map] at hlength
        rw [← hlength]
        refine (total_countP _).trans ?_
        simp

/-- Functions that know the answer `[]` only. -/
def emptyList : TextFunctions where
  loads s := if s = "[]" then .ok (.array []) else .error .classification
  str _ := "[]"
  int _ := none
  lower s := s
  unitFloat _ := none

theorem oneBondEach_iff_emptyList :
    OneBondEach [⟨0, "assistant"⟩] (classifyTrace emptyList 5 (fun _ => "[]") [⟨0, "assistant"⟩]) ↔
      Stops emptyList (calls 5 (fun _ => "[]") (assistantIndices [⟨0, "assistant"⟩])) ∨
        ∀ call ∈ calls 5 (fun _ => "[]") (assistantIndices [⟨0, "assistant"⟩]),
          Exact emptyList call :=
  oneBondEach_iff (by decide) _ _ (by decide)

/-- An answer that is a list raises an `AttributeError`. -/
theorem not_oneBondEach_emptyList : ¬ OneBondEach [⟨0, "assistant"⟩]
    (classifyTrace emptyList 5 (fun _ => "[]") [⟨0, "assistant"⟩]) := by
  have hraises : classifyTrace emptyList 5 (fun _ => "[]") [⟨0, "assistant"⟩] = .error .other := rfl
  rw [hraises]
  exact nofun

end AecBench.Evaluation
