import Mathlib.Data.List.Perm.Basic
import Mathlib.Data.List.Sort

/-!
# Rounds of a graph

A graph is a list of items with what each depends on. A round takes the items that depend on
nothing any more and removes them from the dependencies of the others. The rounds end with all items
taken unless some items depend on each other, or on what is no item.

## Main definitions

* `Rounds.ready`, `Rounds.strip` — the items of a round, and what it leaves.
* `Rounds.Ends` — every round takes an item as long as items are left.
* `Rounds.order` — the items round by round, each round sorted.

## Main results

* `Rounds.order_isSome` — a graph whose rounds end has an order.
* `Rounds.order_perm`, `Rounds.order_idxOf_lt` — the order has every item once, after what it
  depends on.
-/

namespace Rounds

variable {α : Type} [DecidableEq α]

/-- The items that depend on nothing. -/
def ready (remaining : List (α × List α)) : List α :=
  (remaining.filter fun r => r.2.isEmpty).map Prod.fst

/-- The other items, without the dependencies on those. -/
def strip (remaining : List (α × List α)) : List (α × List α) :=
  (remaining.filter fun r => !r.2.isEmpty).map fun r => (r.1, r.2.filter (· ∉ ready remaining))

/-- Every round takes an item, until none is left; the rounds are bounded by a number. -/
def Ends : ℕ → List (α × List α) → Prop
  | 0, _ => True
  | rounds + 1, remaining =>
    remaining = [] ∨ ready remaining ≠ [] ∧ Ends rounds (strip remaining)

/-- The items round by round; `none` when a round takes nothing. -/
def order (sort : List α → List α) : ℕ → List (α × List α) → Option (List α)
  | 0, remaining => if remaining.isEmpty then some [] else none
  | rounds + 1, remaining =>
    if remaining.isEmpty then some []
    else if (ready remaining).isEmpty then none
    else (order sort rounds (strip remaining)).map (sort (ready remaining) ++ ·)

section Round

variable {remaining : List (α × List α)} {a : α} {deps : List α}

lemma mem_strip (hr : (a, deps) ∈ remaining) (hdeps : deps ≠ []) :
    (a, deps.filter (· ∉ ready remaining)) ∈ strip remaining := by
  refine List.mem_map.mpr ⟨(a, deps), List.mem_filter.mpr ⟨hr, ?_⟩, rfl⟩
  simpa [List.isEmpty_iff] using hdeps

/-- A round and what it leaves are the items. -/
lemma ready_append_strip (remaining : List (α × List α)) :
    (ready remaining ++ (strip remaining).map Prod.fst).Perm (remaining.map Prod.fst) := by
  have hstrip : (strip remaining).map Prod.fst =
      (remaining.filter fun r => !r.2.isEmpty).map Prod.fst := by
    rw [strip, List.map_map]
    rfl
  rw [hstrip, ready, ← List.map_append]
  exact (List.filter_append_perm _ _).map _

/-- A round that takes an item leaves fewer. -/
lemma length_strip (h : ready remaining ≠ []) : (strip remaining).length < remaining.length := by
  have hlength := (ready_append_strip remaining).length_eq
  rw [List.length_append, List.length_map, List.length_map] at hlength
  have hpos := List.length_pos_iff.mpr h
  omega

end Round

section Order

variable {sort : List α → List α} {rounds : ℕ} {remaining : List (α × List α)} {out : List α}

/-- A round of the order. -/
lemma order_succ_eq : order sort (rounds + 1) remaining =
    if remaining.isEmpty then some []
    else if (ready remaining).isEmpty then none
    else (order sort rounds (strip remaining)).map (sort (ready remaining) ++ ·) := rfl

/-- The rounds of the order, one at a time. -/
lemma order_succ (h : order sort (rounds + 1) remaining = some out) :
    remaining = [] ∧ out = [] ∨ ready remaining ≠ [] ∧
      ∃ rest, order sort rounds (strip remaining) = some rest ∧
        sort (ready remaining) ++ rest = out := by
  rw [order_succ_eq] at h
  split_ifs at h with hempty hready
  · exact .inl ⟨List.isEmpty_iff.mp hempty, (Option.some.inj h).symm⟩
  · obtain ⟨rest, hrest, hout⟩ := Option.map_eq_some_iff.mp h
    exact .inr ⟨by simpa [List.isEmpty_iff] using hready, rest, hrest, hout⟩

lemma order_zero (h : order sort 0 remaining = some out) : remaining = [] ∧ out = [] := by
  change (if remaining.isEmpty then some [] else none) = some out at h
  split_ifs at h with hempty
  exact ⟨List.isEmpty_iff.mp hempty, (Option.some.inj h).symm⟩

/-- **A graph whose rounds end has an order**, when there are as many rounds as items. -/
theorem order_isSome (sort : List α → List α) (hends : Ends rounds remaining)
    (hlength : remaining.length ≤ rounds) : (order sort rounds remaining).isSome := by
  induction rounds generalizing remaining with
  | zero =>
    rw [List.length_eq_zero_iff.mp (Nat.le_zero.mp hlength)]
    rfl
  | succ rounds ih =>
    rcases hends with rfl | ⟨hready, hends⟩
    · rfl
    · have hfewer := length_strip hready
      have hrest := ih hends (by omega)
      rw [order_succ_eq]
      split_ifs with hempty hnone
      · rfl
      · exact absurd (List.isEmpty_iff.mp hnone) hready
      · rw [Option.isSome_map]
        exact hrest

variable (hsort : ∀ xs, (sort xs).Perm xs)

include hsort

/-- **The order has every item once.** -/
theorem order_perm (h : order sort rounds remaining = some out) :
    out.Perm (remaining.map Prod.fst) := by
  induction rounds generalizing remaining out with
  | zero =>
    obtain ⟨rfl, rfl⟩ := order_zero h
    exact List.Perm.refl _
  | succ rounds ih =>
    obtain ⟨rfl, rfl⟩ | ⟨-, rest, hrest, rfl⟩ := order_succ h
    · exact List.Perm.refl _
    · exact ((hsort _).append (ih hrest)).trans (ready_append_strip remaining)

/-- **In the order every item comes after what it depends on.** -/
theorem order_idxOf_lt (h : order sort rounds remaining = some out)
    (hnodup : (remaining.map Prod.fst).Nodup) {a d : α} {deps : List α}
    (ha : (a, deps) ∈ remaining) (hd : d ∈ deps) (hitem : d ∈ remaining.map Prod.fst) :
    out.idxOf d < out.idxOf a := by
  induction rounds generalizing remaining out deps with
  | zero =>
    obtain ⟨rfl, -⟩ := order_zero h
    exact absurd ha List.not_mem_nil
  | succ rounds ih =>
    obtain ⟨rfl, -⟩ | ⟨-, rest, hrest, rfl⟩ := order_succ h
    · exact absurd ha List.not_mem_nil
    have hparts := (ready_append_strip remaining).nodup_iff.mpr hnodup
    obtain ⟨-, hnodup', hapart⟩ := List.nodup_append'.mp hparts
    have hstrip := mem_strip ha (List.ne_nil_of_mem hd)
    -- `a` is taken in a later round
    have hnot : a ∉ sort (ready remaining) := by
      intro hmem
      exact hapart ((hsort _).mem_iff.mp hmem) (List.mem_map_of_mem hstrip)
    rw [List.idxOf_append_of_notMem hnot]
    by_cases hready : d ∈ ready remaining
    · have hin := (hsort (ready remaining)).mem_iff.mpr hready
      rw [List.idxOf_append_of_mem hin]
      have hlt := List.idxOf_lt_length_iff.mpr hin
      omega
    · have hout : d ∉ sort (ready remaining) := fun hmem => hready ((hsort _).mem_iff.mp hmem)
      have hlater : d ∈ (strip remaining).map Prod.fst := by
        have hmem := (ready_append_strip remaining).mem_iff.mpr hitem
        exact (List.mem_append.mp hmem).resolve_left hready
      have hrest' := ih hrest hnodup' hstrip (List.mem_filter.mpr ⟨hd, by simpa using hready⟩) hlater
      rw [List.idxOf_append_of_notMem hout]
      omega

end Order

end Rounds
