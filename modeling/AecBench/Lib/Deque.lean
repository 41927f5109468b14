import Mathlib.Data.List.Basic
import Mathlib.Order.Basic

/-!
# Bounded queues

A queue of at most `n` items: appending to a full queue drops its oldest items.

## Main definitions

* `Deque`, `Deque.append` — the queue, with its bound, and the insertion of an item.
* `Deque.extend` — the insertion of the items of a list, one by one.

## Main results

* `Deque.mem_append_iff` — what a queue holds after an insertion.
* `Deque.extend_items` — inserting the items of a queue into an empty one rebuilds the queue.
-/

/-- At most `n` items, oldest first. -/
structure Deque (n : ℕ) (α : Type) where
  items : List α
  length_le : items.length ≤ n

namespace Deque

variable {n : ℕ} {α : Type}

@[ext] lemma ext {q r : Deque n α} (h : q.items = r.items) : q = r := by
  cases q
  cases r
  cases h
  rfl

def empty (n : ℕ) (α : Type) : Deque n α := ⟨[], Nat.zero_le n⟩

/-- Append an item; the oldest items of a queue that is full make room for it. -/
def append (q : Deque n α) (a : α) : Deque n α where
  items := (q.items ++ [a]).drop (q.items.length + 1 - n)
  length_le := by
    have hlen : (q.items ++ [a]).length = q.items.length + 1 := by simp
    rw [List.length_drop, hlen]
    omega

/-- Append the items of a list in their order. -/
def extend (q : Deque n α) (as : List α) : Deque n α := as.foldl append q

@[simp] lemma extend_nil (q : Deque n α) : q.extend [] = q := rfl

@[simp] lemma extend_cons (q : Deque n α) (a : α) (as : List α) :
    q.extend (a :: as) = (q.append a).extend as := rfl

/-- Where there is room, an insertion keeps every item. -/
lemma append_items_of_lt {q : Deque n α} (h : q.items.length < n) (a : α) :
    (q.append a).items = q.items ++ [a] := by
  have hzero : q.items.length + 1 - n = 0 := by omega
  change (q.items ++ [a]).drop (q.items.length + 1 - n) = _
  rw [hzero, List.drop_zero]

/-- What a queue holds after an insertion: the inserted item, and the items that were not
dropped for it. -/
lemma mem_append_iff {q : Deque n α} {a b : α} (hn : 0 < n) :
    b ∈ (q.append a).items ↔ b = a ∨ b ∈ q.items.drop (q.items.length + 1 - n) := by
  have hdrop : q.items.length + 1 - n ≤ q.items.length := by omega
  change b ∈ (q.items ++ [a]).drop (q.items.length + 1 - n) ↔ _
  rw [List.drop_append_of_le_length hdrop, List.mem_append, List.mem_singleton]
  exact or_comm

/-- Inserting items that fit keeps what was there and adds them. -/
lemma extend_items_of_le {q : Deque n α} {as : List α} (h : q.items.length + as.length ≤ n) :
    (q.extend as).items = q.items ++ as := by
  induction as generalizing q with
  | nil => simp
  | cons a as ih =>
    rw [List.length_cons] at h
    have happend := append_items_of_lt (show q.items.length < n by omega) a
    have hlen : (q.append a).items.length = q.items.length + 1 := by
      rw [happend]
      simp
    rw [extend_cons, ih (by omega), happend]
    simp

/-- **Inserting the items of a queue into an empty one rebuilds the queue.** -/
theorem extend_items (q : Deque n α) : (empty n α).extend q.items = q := by
  have hfit : (empty n α).items.length + q.items.length ≤ n := by
    change 0 + q.items.length ≤ n
    exact (Nat.zero_add _).symm ▸ q.length_le
  exact ext (extend_items_of_le hfit)

end Deque
