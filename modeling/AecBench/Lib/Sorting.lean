import AecBench.Lib.Table

/-!
# Sorting by a key

The rows of a table sorted by a key. Rows with distinct keys have one order only, so the sorted
list depends on the set of the rows and not on the order in which they came. Rows that are ordered
by a list of columns are searched from the least one on.

## Main definitions

* `Table.sortBy` — the rows sorted by a key, rows of one key kept in their order.

## Main results

* `Table.sortBy_congr` — keyed tables with the same rows are sorted alike.
* `Table.find?_orderBy` — the first ordered row that meets a condition is a least one.
-/

namespace Table

variable {ρ κ : Type} [LinearOrder κ] (key : ρ → κ)

/-- The rows in the order of their keys. -/
def sortBy (rows : List ρ) : List ρ := rows.insertionSort fun a b => key a ≤ key b

lemma sortBy_perm (rows : List ρ) : (sortBy key rows).Perm rows := List.perm_insertionSort _ _

@[simp] lemma mem_sortBy {rows : List ρ} {r : ρ} : r ∈ sortBy key rows ↔ r ∈ rows :=
  (sortBy_perm key rows).mem_iff

variable {key}

lemma keyed_sortBy {rows : List ρ} : Keyed key (sortBy key rows) ↔ Keyed key rows :=
  ((sortBy_perm key rows).map key).nodup_iff

lemma pairwise_sortBy (rows : List ρ) : (sortBy key rows).Pairwise fun a b => key a ≤ key b :=
  haveI : Std.Total fun a b : ρ => key a ≤ key b := ⟨fun a b => le_total (key a) (key b)⟩
  haveI : IsTrans ρ fun a b => key a ≤ key b := ⟨fun _ _ _ hab hbc => le_trans hab hbc⟩
  List.pairwise_insertionSort _ _

/-- **The order of keyed rows depends on which rows there are only.** -/
theorem sortBy_congr {xs ys : List ρ} (hxs : Keyed key xs) (hys : Keyed key ys)
    (h : ∀ r, r ∈ xs ↔ r ∈ ys) : sortBy key xs = sortBy key ys := by
  have hperm : (sortBy key xs).Perm (sortBy key ys) := by
    refine ((sortBy_perm key xs).trans ?_).trans (sortBy_perm key ys).symm
    exact (List.perm_ext_iff_of_nodup hxs.of_map hys.of_map).mpr h
  refine hperm.eq_of_pairwise ?_ (pairwise_sortBy xs) (pairwise_sortBy ys)
  intro a b ha hb hab hba
  have hb' : b ∈ xs := (h b).mpr ((mem_sortBy key).mp hb)
  exact hxs.eq_of_key_eq ((mem_sortBy key).mp ha) hb' (le_antisymm hab hba)

/-! ### Ordering by columns -/

lemma lexLe_total (as bs : List ℤ) : lexLe as bs = true ∨ lexLe bs as = true := by
  induction as generalizing bs with
  | nil => exact .inl rfl
  | cons a as ih =>
    cases bs with
    | nil => exact .inr rfl
    | cons b bs =>
      simp only [lexLe, Bool.or_eq_true, Bool.and_eq_true, decide_eq_true_eq]
      rcases Int.lt_trichotomy a b with hlt | heq | hgt
      · exact .inl (.inl hlt)
      · rcases ih bs with h | h
        · exact .inl (.inr ⟨heq, h⟩)
        · exact .inr (.inr ⟨heq.symm, h⟩)
      · exact .inr (.inl hgt)

lemma lexLe_trans {as bs cs : List ℤ} (hab : lexLe as bs = true) (hbc : lexLe bs cs = true) :
    lexLe as cs = true := by
  induction as generalizing bs cs with
  | nil => rfl
  | cons a as ih =>
    cases bs with
    | nil => cases hab
    | cons b bs =>
      cases cs with
      | nil => cases hbc
      | cons c cs =>
        simp only [lexLe, Bool.or_eq_true, Bool.and_eq_true, decide_eq_true_eq] at hab hbc ⊢
        rcases hab with hab | ⟨rfl, hab⟩
        · rcases hbc with hbc | ⟨rfl, -⟩
          · exact .inl (Int.lt_trans hab hbc)
          · exact .inl hab
        · rcases hbc with hbc | ⟨rfl, hbc⟩
          · exact .inl hbc
          · exact .inr ⟨rfl, ih hab hbc⟩

lemma pairwise_orderBy (columns : ρ → List ℤ) (rows : List ρ) :
    (orderBy columns rows).Pairwise fun a b => lexLe (columns a) (columns b) = true :=
  haveI : Std.Total fun a b : ρ => lexLe (columns a) (columns b) = true :=
    ⟨fun a b => lexLe_total (columns a) (columns b)⟩
  haveI : IsTrans ρ fun a b => lexLe (columns a) (columns b) = true :=
    ⟨fun _ _ _ hab hbc => lexLe_trans hab hbc⟩
  List.pairwise_insertionSort _ _

/-- **The first ordered row** that meets a condition comes before every other one that does. -/
theorem find?_orderBy {columns : ρ → List ℤ} {p : ρ → Bool} {rows : List ρ} {r : ρ}
    (h : (orderBy columns rows).find? p = some r) :
    ∀ x ∈ rows, p x = true → x = r ∨ lexLe (columns r) (columns x) = true := by
  intro x hx hpx
  obtain ⟨-, before, after, hsplit, hbefore⟩ := List.find?_eq_some_iff_append.mp h
  have hmem : x ∈ before ++ r :: after := hsplit ▸ mem_orderBy.mpr hx
  have hordered := pairwise_orderBy columns rows
  rw [hsplit] at hordered
  rcases List.mem_append.mp hmem with hin | hin
  · have hnot := hbefore x hin
    simp [hpx] at hnot
  · rcases List.mem_cons.mp hin with rfl | hin
    · exact .inl rfl
    · exact .inr (List.rel_of_pairwise_cons (List.pairwise_append.mp hordered).2.1 hin)

end Table
