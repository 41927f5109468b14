import AecBench.Lib.Validation

/-!
# Loops that append numbered items

A loop that appends to a list, where each new item depends on how many items there are already.
When every round appends the row of its item, nested loops append the rows one after the other
under one numbering.

## Main definitions

* `Loops.numbered` — a list of items made from their numbers, from a first number on.

## Main results

* `Loops.numbered_append` — the numbering of a list goes on where that of its first part ends.
* `Loops.foldlM_invariant` — the rule for the invariant of a loop.
* `Loops.foldlM_numbered` — a loop whose rounds append numbered rows appends all rows in order.
-/

namespace Loops

variable {ε α β γ : Type}

/-- The items made from a list, numbered from `n` on. -/
def numbered (g : ℕ → γ → β) : ℕ → List γ → List β
  | _, [] => []
  | n, x :: xs => g n x :: numbered g (n + 1) xs

variable {g : ℕ → γ → β}

@[simp] lemma numbered_nil (n : ℕ) : numbered g n [] = [] := rfl

lemma numbered_cons (n : ℕ) (x : γ) (xs : List γ) :
    numbered g n (x :: xs) = g n x :: numbered g (n + 1) xs := rfl

@[simp] lemma length_numbered (n : ℕ) (xs : List γ) : (numbered g n xs).length = xs.length := by
  induction xs generalizing n with
  | nil => rfl
  | cons x xs ih => simp [numbered_cons, ih]

/-- The numbering of a list goes on where that of its first part ends. -/
lemma numbered_append (n : ℕ) (xs ys : List γ) :
    numbered g n (xs ++ ys) = numbered g n xs ++ numbered g (n + xs.length) ys := by
  induction xs generalizing n with
  | nil => rfl
  | cons x xs ih =>
    have hn : n + 1 + xs.length = n + (xs.length + 1) := by omega
    simp [numbered_cons, ih, hn]

/-- What does not depend on the number is read off the items. -/
lemma map_numbered {δ : Type} {f : β → δ} {h : γ → δ} (hf : ∀ n x, f (g n x) = h x) (n : ℕ)
    (xs : List γ) : (numbered g n xs).map f = xs.map h := by
  induction xs generalizing n with
  | nil => rfl
  | cons x xs ih => simp [numbered_cons, hf, ih]

/-- What depends on the number only counts up from the first one. -/
lemma map_numbered_range {f : β → ℕ} {k : ℕ} (hf : ∀ n x, f (g n x) = n + k) (n : ℕ)
    (xs : List γ) : (numbered g n xs).map f = List.range' (n + k) xs.length := by
  induction xs generalizing n with
  | nil => rfl
  | cons x xs ih =>
    have hn : n + 1 + k = n + k + 1 := by omega
    simp [numbered_cons, hf, ih, List.range'_succ, hn]

/-- An item comes from an element of the list, and its number is one of those given out. -/
lemma exists_of_mem_numbered {n : ℕ} {xs : List γ} {y : β} (h : y ∈ numbered g n xs) :
    ∃ i, n ≤ i ∧ i < n + xs.length ∧ ∃ x ∈ xs, y = g i x := by
  induction xs generalizing n with
  | nil => exact absurd h List.not_mem_nil
  | cons x xs ih =>
    simp only [List.length_cons]
    rcases List.mem_cons.mp h with rfl | h
    · exact ⟨n, le_refl n, by omega, x, List.mem_cons_self, rfl⟩
    · obtain ⟨i, hi, hlt, x', hx', rfl⟩ := ih h
      exact ⟨i, by omega, by omega, x', List.mem_cons_of_mem _ hx', rfl⟩

/-- Items are told apart by what tells their numbers apart. -/
lemma nodup_map_numbered {δ : Type} {f : β → δ} {n : ℕ} {xs : List γ}
    (hf : ∀ i j x y, i < n + xs.length → j < n + xs.length → i ≠ j → f (g i x) ≠ f (g j y)) :
    ((numbered g n xs).map f).Nodup := by
  induction xs generalizing n with
  | nil => exact List.nodup_nil
  | cons x xs ih =>
    simp only [List.length_cons] at hf
    rw [numbered_cons, List.map_cons, List.nodup_cons]
    constructor
    · intro hmem
      obtain ⟨y, hy, hyx⟩ := List.mem_map.mp hmem
      obtain ⟨i, hi, hlt, x', -, rfl⟩ := exists_of_mem_numbered hy
      exact hf i n x' x (by omega) (by omega) (by omega) hyx
    · refine ih fun i j x' y' hi hj => hf i j x' y' (by omega) (by omega)

variable {xs : List α}

/-- A loop of checks passes when every check does. -/
lemma forM_eq_ok {f : α → Except ε PUnit} : xs.forM f = .ok () ↔ ∀ x ∈ xs, f x = .ok () := by
  induction xs with
  | nil => simp [pure, Except.pure]
  | cons x xs ih =>
    show (f x >>= fun _ => xs.forM f) = .ok () ↔ _
    rw [Validation.unit_bind_eq_ok, List.forall_mem_cons, ih]

/-- **The invariant of a loop** says what holds after the rounds that are done. -/
theorem foldlM_invariant {σ : Type} {step : σ → α → Except ε σ} {s s' : σ} (I : List α → σ → Prop)
    (hnil : I [] s)
    (hstep : ∀ done x rest, done ++ x :: rest = xs → ∀ t t', I done t → step t x = .ok t' →
      I (done ++ [x]) t') (h : xs.foldlM step s = .ok s') : I xs s' := by
  suffices hloop : ∀ rest done t, done ++ rest = xs → I done t → rest.foldlM step t = .ok s' →
      I xs s' from hloop xs [] s rfl hnil h
  intro rest
  induction rest with
  | nil =>
    intro done t hsplit ht hrun
    rw [List.foldlM_nil, Validation.pure_eq_ok] at hrun
    rw [List.append_nil] at hsplit
    rwa [← hsplit, ← hrun]
  | cons x rest ih =>
    intro done t hsplit ht hrun
    obtain ⟨t', hx, hrest⟩ := Validation.bind_eq_ok.mp hrun
    refine ih (done ++ [x]) t' ?_ (hstep done x rest hsplit t t' ht hx) hrest
    rw [List.append_assoc, List.singleton_append, hsplit]

/-- **Nested loops.** A loop whose rounds append the numbered rows of their items appends the
rows of all items under one numbering. -/
theorem foldlM_numbered {step : List β → α → Except ε (List β)} {row : α → List γ}
    (hstep : ∀ acc, ∀ x ∈ xs, step acc x = .ok (acc ++ numbered g acc.length (row x)))
    (acc : List β) : xs.foldlM step acc = .ok (acc ++ numbered g acc.length (xs.flatMap row)) := by
  induction xs generalizing acc with
  | nil => simp [pure, Except.pure]
  | cons x xs ih =>
    rw [List.foldlM_cons, hstep acc x List.mem_cons_self]
    have hrest := ih (fun acc y hy => hstep acc y (List.mem_cons_of_mem _ hy))
      (acc ++ numbered g acc.length (row x))
    show xs.foldlM step (acc ++ numbered g acc.length (row x)) = _
    rw [hrest, List.flatMap_cons, numbered_append, List.length_append, length_numbered,
      List.append_assoc]

end Loops
