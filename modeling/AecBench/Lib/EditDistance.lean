import Mathlib.Data.List.Basic
import Mathlib.Order.Bounds.Defs

/-!
# Edits of a list and the edit distance

A single edit inserts, deletes or replaces one item of a list. The recurrence on the first items
counts the fewest edits that turn one list into another, and this count is a metric.

## Main definitions

* `Edits.Edit`, `Edits` — a single edit, and so many edits one after the other.
* `Edits.distance` — the recurrence on the first items.

## Main results

* `Edits.isLeast_distance` — the recurrence gives the least number of edits.
* `Edits.distance_comm`, `distance_eq_zero`, `distance_triangle` — the laws of a metric.
-/

variable {α : Type} {a b c : List α} {m n : ℕ}

/-- A single edit. -/
inductive Edits.Edit : List α → List α → Prop
  | insert (u v : List α) (x : α) : Edit (u ++ v) (u ++ x :: v)
  | delete (u v : List α) (x : α) : Edit (u ++ x :: v) (u ++ v)
  | replace (u v : List α) (x y : α) : Edit (u ++ x :: v) (u ++ y :: v)

/-- So many edits, one after the other, turn the first list into the second. -/
inductive Edits : ℕ → List α → List α → Prop
  | refl (a : List α) : Edits 0 a a
  | step {n : ℕ} {a b c : List α} : Edits n a b → Edits.Edit b c → Edits (n + 1) a c

namespace Edits

lemma Edit.symm (h : Edit a b) : Edit b a := by
  cases h with
  | insert u v x => exact .delete u v x
  | delete u v x => exact .insert u v x
  | replace u v x y => exact .replace u v y x

lemma Edit.reverse (h : Edit a b) : Edit a.reverse b.reverse := by
  cases h with
  | insert u v x => simpa using Edit.insert v.reverse u.reverse x
  | delete u v x => simpa using Edit.delete v.reverse u.reverse x
  | replace u v x y => simpa using Edit.replace v.reverse u.reverse x y

lemma Edit.cons (x : α) (h : Edit a b) : Edit (x :: a) (x :: b) := by
  cases h with
  | insert u v y => exact .insert (x :: u) v y
  | delete u v y => exact .delete (x :: u) v y
  | replace u v y z => exact .replace (x :: u) v y z

lemma trans (hab : Edits m a b) (hbc : Edits n b c) : Edits (m + n) a c := by
  induction hbc with
  | refl => exact hab
  | step _ he ih => exact (ih hab).step he

lemma symm (h : Edits n a b) : Edits n b a := by
  induction h with
  | refl a => exact .refl a
  | @step n a b c _ he ih =>
    have hcb : Edits 1 c b := (Edits.refl c).step he.symm
    simpa [Nat.add_comm] using hcb.trans ih

lemma reverse (h : Edits n a b) : Edits n a.reverse b.reverse := by
  induction h with
  | refl a => exact .refl _
  | step _ he ih => exact ih.step he.reverse

lemma cons (x : α) (h : Edits n a b) : Edits n (x :: a) (x :: b) := by
  induction h with
  | refl a => exact .refl _
  | step _ he ih => exact ih.step (he.cons x)

lemma insert_all (b : List α) : Edits b.length [] b := by
  induction b with
  | nil => exact .refl []
  | cons y b ih => exact ih.step (.insert [] b y)

lemma either (hm : Edits m a b) (hn : Edits n a b) : Edits (min m n) a b := by
  rcases Nat.le_total m n with h | h
  · rwa [Nat.min_eq_left h]
  · rwa [Nat.min_eq_right h]

lemma eq_of_zero (h : Edits 0 a b) : a = b := by
  cases h with
  | refl => rfl

/-! ### The recurrence -/

variable [DecidableEq α]

/-- The edit distance, by the recurrence on the first items. -/
def distance : List α → List α → ℕ
  | [], b => b.length
  | _ :: a, [] => a.length + 1
  | x :: a, y :: b =>
    min (min (distance a (y :: b) + 1) (distance (x :: a) b + 1))
      (distance a b + if x = y then 0 else 1)
termination_by a b => a.length + b.length

@[simp] lemma distance_nil (b : List α) : distance [] b = b.length := by
  rw [distance]

@[simp] lemma distance_cons_nil (x : α) (a : List α) : distance (x :: a) [] = a.length + 1 := by
  rw [distance]

lemma distance_cons_cons (x y : α) (a b : List α) :
    distance (x :: a) (y :: b) = min (min (distance a (y :: b) + 1) (distance (x :: a) b + 1))
      (distance a b + if x = y then 0 else 1) := by
  rw [distance]

/-- As many edits as the recurrence counts are enough. -/
lemma edits_distance (a b : List α) : Edits (distance a b) a b := by
  induction a, b using distance.induct with
  | case1 b => simpa using insert_all b
  | case2 x a => simpa using (insert_all (x :: a)).symm
  | case3 x a y b hd hi hr =>
    have hdelete := (hd.cons x).step (.delete [] (y :: b) x)
    have hinsert := hi.step (.insert [] b y)
    have hreplace : Edits (distance a b + if x = y then 0 else 1) (x :: a) (y :: b) := by
      split
      next h => exact h ▸ hr.cons x
      next => exact (hr.cons x).step (.replace [] b x y)
    rw [distance_cons_cons]
    exact (hdelete.either hinsert).either hreplace

/-! One edit of the second list changes the distance by at most one. -/

lemma distance_insert (a b : List α) (x : α) : distance a (x :: b) ≤ distance a b + 1 := by
  cases a with
  | nil => simp
  | cons z a => rw [distance_cons_cons]; omega

lemma distance_cons_left (z : α) (a b : List α) : distance (z :: a) b ≤ distance a b + 1 := by
  cases b with
  | nil => cases a <;> simp
  | cons y b => rw [distance_cons_cons]; omega

lemma distance_delete (a b : List α) (x : α) : distance a b ≤ distance a (x :: b) + 1 := by
  induction a with
  | nil => simp; omega
  | cons z a ih =>
    have := distance_cons_left z a b
    rw [distance_cons_cons]
    omega

lemma distance_replace (a b : List α) (x y : α) :
    distance a (y :: b) ≤ distance a (x :: b) + 1 := by
  induction a with
  | nil => simp
  | cons z a ih => rw [distance_cons_cons, distance_cons_cons]; split <;> omega

lemma distance_le_cons (x : α) (h : ∀ a, distance a c ≤ distance a b + 1) (a : List α) :
    distance a (x :: c) ≤ distance a (x :: b) + 1 := by
  induction a with
  | nil => simpa using h []
  | cons z a ih =>
    have := h (z :: a)
    have := h a
    rw [distance_cons_cons, distance_cons_cons]
    omega

lemma distance_le_append (u : List α) (h : ∀ a, distance a c ≤ distance a b + 1) (a : List α) :
    distance a (u ++ c) ≤ distance a (u ++ b) + 1 := by
  induction u generalizing a with
  | nil => exact h a
  | cons x u ih => exact distance_le_cons x ih a

lemma distance_edit (h : Edit b c) (a : List α) : distance a c ≤ distance a b + 1 := by
  cases h with
  | insert u v x => exact distance_le_append u (fun a => distance_insert a v x) a
  | delete u v x => exact distance_le_append u (fun a => distance_delete a v x) a
  | replace u v x y => exact distance_le_append u (fun a => distance_replace a v x y) a

@[simp] lemma distance_self (a : List α) : distance a a = 0 := by
  induction a with
  | nil => rw [distance_nil, List.length_nil]
  | cons x a ih => simp [distance_cons_cons, ih]

lemma distance_le (h : Edits n a b) : distance a b ≤ n := by
  induction h with
  | refl a => simp
  | @step n a b c _ he ih =>
    have := distance_edit he a
    omega

/-- **The recurrence gives the least number of edits.** -/
theorem isLeast_distance (a b : List α) : IsLeast {n | Edits n a b} (distance a b) :=
  ⟨edits_distance a b, fun _ h => distance_le h⟩

/-! ### The laws of a metric -/

lemma distance_reverse (a b : List α) : distance a.reverse b.reverse = distance a b := by
  have hle := distance_le (edits_distance a b).reverse
  have hge := distance_le (edits_distance a.reverse b.reverse).reverse
  rw [List.reverse_reverse, List.reverse_reverse] at hge
  omega

/-- **The distance is symmetric.** -/
theorem distance_comm (a b : List α) : distance a b = distance b a :=
  Nat.le_antisymm (distance_le (edits_distance b a).symm) (distance_le (edits_distance a b).symm)

/-- **The distance is zero between equal lists alone.** -/
theorem distance_eq_zero : distance a b = 0 ↔ a = b := by
  constructor
  · intro h
    have hedits := edits_distance a b
    rw [h] at hedits
    exact hedits.eq_of_zero
  · rintro rfl
    exact distance_self a

/-- **The triangle inequality.** -/
theorem distance_triangle (a b c : List α) : distance a c ≤ distance a b + distance b c :=
  distance_le ((edits_distance a b).trans (edits_distance b c))

/-- No more edits are needed than the longer list has items. -/
lemma distance_le_max (a b : List α) : distance a b ≤ max a.length b.length := by
  induction a, b using distance.induct with
  | case1 b | case2 x a => simp
  | case3 x a y b hd hi hr =>
    simp only [distance_cons_cons, List.length_cons] at *
    split <;> omega

end Edits
