import Mathlib.Algebra.Order.Field.Rat
import AecBench.Lib.EditDistance

/-!
# The edit distance between bond sequences

The structural score of a trace compares its sequence of bonds with an ideal one. The table of
prefix distances is computed with two rows, which change places after each bond of the trace.

## Main definitions

* `bondSequenceEditDistance` — the two-row table.
* `IsRow` — a row holds the distances of all prefixes of the second sequence.

## Main results

* `bondSequenceEditDistance_metric` — the score is the edit metric, and normalized at most one.
-/

namespace AecBench.Evaluation

open Edits

/-- The bond of a turn. -/
inductive BondType
  | execution
  | verification
  | deliberation
  | exploration
  deriving DecidableEq

/-! ### The table -/

/-- The inner loop: the entries of `currentRow` from `rightIndex` on. -/
def fillRow (previousRow : List ℕ) (left : BondType) : ℕ → List BondType → List ℕ → List ℕ
  | _, [], currentRow => currentRow
  | rightIndex, right :: rest, currentRow =>
    let substitutionCost := if left = right then 0 else 1
    fillRow previousRow left (rightIndex + 1) rest (currentRow.set rightIndex
      (min (min (previousRow.getD rightIndex 0 + 1) (currentRow.getD (rightIndex - 1) 0 + 1))
        (previousRow.getD (rightIndex - 1) 0 + substitutionCost)))

/-- The outer loop, whose rows change places after each bond of the first sequence. -/
def editRows (seqB : List BondType) : ℕ → List BondType → List ℕ → List ℕ → List ℕ
  | _, [], previousRow, _ => previousRow
  | leftIndex, left :: rest, previousRow, currentRow =>
    editRows seqB (leftIndex + 1) rest (fillRow previousRow left 1 seqB (currentRow.set 0 leftIndex))
      previousRow

/-- `bond_sequence_edit_distance`. -/
def bondSequenceEditDistance (seqA seqB : List BondType) : ℕ :=
  if seqA = [] then seqB.length
  else if seqB = [] then seqA.length
  else (editRows seqB 1 seqA (List.range (seqB.length + 1))
    (List.replicate (seqB.length + 1) 0)).getLastD 0

/-- The `normalized_edit_distance` of `score_trace_structural`, before it is rounded. -/
def normalizedEditDistance (traceSequence idealSequence : List BondType) : ℚ :=
  (bondSequenceEditDistance traceSequence idealSequence : ℚ) /
    ((max (max traceSequence.length idealSequence.length) 1 : ℕ) : ℚ)

/-! ### The rows hold prefix distances -/

/-- The row of the bonds `a` read so far, the last one first. -/
structure IsRow (a b : List BondType) (row : List ℕ) : Prop where
  length : row.length = b.length + 1
  entry : ∀ j ≤ b.length, row.getD j 0 = distance a (b.take j).reverse

variable {a b rest : List BondType} {previousRow currentRow : List ℕ} {left : BondType}
  {leftIndex rightIndex : ℕ}

/-- The inner loop: the entries left of `rightIndex` are those of the new row, and the stale ones
from there on are written before they are read. -/
lemma isRow_fillRow (pre : List BondType) (hp : IsRow a b previousRow) (hb : b = pre ++ rest)
    (hi : rightIndex = pre.length + 1) (hl : currentRow.length = b.length + 1)
    (hc : ∀ j ≤ pre.length, currentRow.getD j 0 = distance (left :: a) (b.take j).reverse) :
    IsRow (left :: a) b (fillRow previousRow left rightIndex rest currentRow) := by
  induction rest generalizing pre rightIndex currentRow with
  | nil =>
    refine ⟨hl, fun j hj => hc j ?_⟩
    simpa [hb] using hj
  | cons right rest ih =>
    have hlt : pre.length < b.length := by simp [hb]
    have htake : (b.take rightIndex).reverse = right :: (b.take pre.length).reverse := by
      rw [hi, List.take_add_one, hb]
      simp
    refine ih (pre ++ [right]) (by simp [hb]) (by simp [hi]) (by simpa using hl) ?_
    intro j hj
    rcases Nat.lt_or_ge j rightIndex with h | h
    · rw [List.getD_eq_getElem?_getD, List.getElem?_set_ne (by omega), ← List.getD_eq_getElem?_getD]
      exact hc j (by omega)
    · obtain rfl : j = rightIndex := by simp at hj; omega
      rw [List.getD_eq_getElem?_getD, List.getElem?_set_self (by omega), Option.getD_some, htake,
        distance_cons_cons, ← htake, hp.entry j (by omega), hi, Nat.add_sub_cancel,
        hp.entry _ (by omega), hc _ (by omega)]

lemma isRow_editRows (hp : IsRow a b previousRow) (hi : leftIndex = a.length + 1)
    (hl : currentRow.length = b.length + 1) :
    IsRow (rest.reverse ++ a) b (editRows b leftIndex rest previousRow currentRow) := by
  induction rest generalizing a leftIndex previousRow currentRow with
  | nil => exact hp
  | cons left rest ih =>
    subst hi
    have hrow : IsRow (left :: a) b
        (fillRow previousRow left 1 b (currentRow.set 0 (a.length + 1))) := by
      refine isRow_fillRow [] hp rfl rfl (by simpa using hl) fun j hj => ?_
      obtain rfl : j = 0 := by simpa using hj
      rw [List.getD_eq_getElem?_getD, List.getElem?_set_self (by omega)]
      simp
    have := ih hrow rfl hp.length
    simpa [editRows] using this

lemma isRow_range (b : List BondType) : IsRow [] b (List.range (b.length + 1)) where
  length := by simp
  entry j hj := by
    rw [List.getD_eq_getElem?_getD, List.getElem?_range (by omega)]
    simpa using hj

lemma bondSequenceEditDistance_eq (a b : List BondType) :
    bondSequenceEditDistance a b = distance a b := by
  unfold bondSequenceEditDistance
  split_ifs with ha hb
  · rw [ha, distance_nil]
  · rw [hb, distance_comm, distance_nil]
  · have hrow : IsRow (a.reverse ++ []) b (editRows b 1 a (List.range (b.length + 1))
        (List.replicate (b.length + 1) 0)) :=
      isRow_editRows (isRow_range b) rfl (by simp)
    rw [List.getLastD_eq_getLast?, List.getLast?_eq_getElem?, ← List.getD_eq_getElem?_getD,
      hrow.length, Nat.add_sub_cancel, hrow.entry _ le_rfl, List.append_nil, List.take_length,
      distance_reverse]

/-- **The score of two bond sequences is the edit metric.** It is the least number of insertions,
deletions and substitutions, and normalized it lies between zero and one. -/
theorem bondSequenceEditDistance_metric :
    (∀ a b, IsLeast {n | Edits n a b} (bondSequenceEditDistance a b)) ∧
      (∀ a b, bondSequenceEditDistance a b = bondSequenceEditDistance b a) ∧
      (∀ a b, bondSequenceEditDistance a b = 0 ↔ a = b) ∧
      (∀ a b c, bondSequenceEditDistance a c ≤
        bondSequenceEditDistance a b + bondSequenceEditDistance b c) ∧
      ∀ a b, 0 ≤ normalizedEditDistance a b ∧ normalizedEditDistance a b ≤ 1 := by
  simp only [normalizedEditDistance, bondSequenceEditDistance_eq]
  refine ⟨isLeast_distance, distance_comm, fun a b => distance_eq_zero, distance_triangle,
    fun a b => ⟨div_nonneg (Nat.cast_nonneg _) (Nat.cast_nonneg _),
      div_le_one_of_le₀ (Nat.cast_le.mpr ?_) (Nat.cast_nonneg _)⟩⟩
  exact (distance_le_max a b).trans (Nat.le_max_left _ 1)

end AecBench.Evaluation
