import Mathlib.Data.List.Basic
import Mathlib.Order.Lattice

/-!
# The leader of a list

The leader of a list of scored items is the first of those with the highest score. A program
that keeps it compares each new item with the leader so far, and replaces the leader only by
an item with a strictly higher score.

## Main definitions

* `Leads` — an item leads a list: the items before it have lower scores, the items after it no
  higher ones.
* `Leading` — the leader of a list, if it has one.

## Main results

* `Leading.append` — the leader after one more item.
* `Leads.le` — no item of the list has a higher score than its leader.
-/

namespace Leader

variable {α β : Type*} [LinearOrder β] {score : α → β} {xs : List α} {a : α}

/-- The item is the first of those with the highest score. -/
def Leads (score : α → β) (xs : List α) (a : α) : Prop :=
  ∃ before after, xs = before ++ a :: after ∧ (∀ b ∈ before, score b < score a) ∧
    ∀ b ∈ after, score b ≤ score a

/-- The leader of a list; only the empty list has none. -/
def Leading (score : α → β) (xs : List α) : Option α → Prop
  | none => xs = []
  | some a => Leads score xs a

/-- No item has a higher score than the leader. -/
lemma Leads.le (h : Leads score xs a) {b : α} (hb : b ∈ xs) : score b ≤ score a := by
  obtain ⟨before, after, rfl, hbefore, hafter⟩ := h
  rcases List.mem_append.mp hb with hb | hb
  · exact (hbefore b hb).le
  · rcases List.mem_cons.mp hb with rfl | hb
    · exact le_rfl
    · exact hafter b hb

/-- An item with a higher score than all before it leads. -/
lemma leads_append_self (h : ∀ b ∈ xs, score b < score a) : Leads score (xs ++ [a]) a :=
  ⟨xs, [], rfl, h, fun _ hb => absurd hb List.not_mem_nil⟩

/-- The leader stays when the next item has no higher score. -/
lemma Leads.append_of_le {b : α} (h : Leads score xs a) (hb : score b ≤ score a) :
    Leads score (xs ++ [b]) a := by
  obtain ⟨before, after, rfl, hbefore, hafter⟩ := h
  refine ⟨before, after ++ [b], by rw [List.append_assoc, List.cons_append], hbefore, ?_⟩
  intro c hc
  rcases List.mem_append.mp hc with hc | hc
  · exact hafter c hc
  · rw [List.mem_singleton.mp hc]
    exact hb

/-- The next item outscores the leader so far. -/
def Outscores (score : α → β) (leader : Option α) (a : α) : Prop :=
  ∀ b ∈ leader, score b < score a

instance (leader : Option α) : Decidable (Outscores score leader a) :=
  inferInstanceAs (Decidable (∀ b ∈ leader, score b < score a))

/-- **The leader after one more item** is that item when it outscores the leader before it, and
that leader otherwise. -/
theorem Leading.append {leader : Option α} (h : Leading score xs leader) (a : α) :
    Leading score (xs ++ [a]) (if Outscores score leader a then some a else leader) := by
  by_cases hout : Outscores score leader a
  · rw [if_pos hout]
    refine leads_append_self fun b hb => ?_
    cases leader with
    | none => rw [h] at hb; cases hb
    | some c => exact (Leads.le h hb).trans_lt (hout c rfl)
  · rw [if_neg hout]
    cases leader with
    | none => exact absurd (fun b hb => by cases hb) hout
    | some c =>
      refine Leads.append_of_le h (not_lt.mp fun hlt => hout fun b hb => ?_)
      obtain rfl := Option.some.inj hb
      exact hlt

end Leader
