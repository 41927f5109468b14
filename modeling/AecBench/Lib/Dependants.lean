import Mathlib.Logic.Relation
import Mathlib.Tactic.Common

/-!
# Dependants in a graph

Items that depend on each other, given by the list of what each depends on. One loop takes, round
by round, the items that depend on no item left, and finds out whether all can be taken; another
one collects, round by round, everything that depends on given items.

## Main definitions

* `Dependants.Ranked` — a rank that every dependency lowers.
* `Dependants.peel` — take the items that are ready, until none is left.
* `Dependants.Leads` — one item is a dependant of another, by a chain of items.
* `Dependants.collect` — the given items and all their dependants.

## Main results

* `Dependants.exists_ranked_of_peel` — items that can all be taken have a rank.
* `Dependants.Ranked.exists_ready` — of ranked items, some item depends on no other of them.
* `Dependants.mem_collect` — what the collection ends with.
-/

namespace Dependants

variable {α : Type} [DecidableEq α] (deps : α → List α)

/-- Among the items, every dependency has a lower rank. -/
def Ranked (items : List α) (rank : α → ℕ) : Prop :=
  ∀ a ∈ items, ∀ b ∈ deps a, b ∈ items → rank b < rank a

variable {items pending : List α} {rank : α → ℕ}

variable {deps} in
/-- **Some item is ready**: the one of least rank depends on no other item of the list. -/
theorem Ranked.exists_ready (h : Ranked deps items rank) (hsub : ∀ a ∈ pending, a ∈ items)
    (hne : pending ≠ []) : ∃ a ∈ pending, ∀ b ∈ deps a, b ∉ pending := by
  obtain ⟨n, hn⟩ : ∃ n, ∃ a ∈ pending, rank a = n := by
    obtain ⟨a, ha⟩ := List.exists_mem_of_ne_nil pending hne
    exact ⟨rank a, a, ha, rfl⟩
  induction n using Nat.strongRecOn with
  | _ n ih =>
    obtain ⟨a, ha, rfl⟩ := hn
    by_cases hready : ∀ b ∈ deps a, b ∉ pending
    · exact ⟨a, ha, hready⟩
    · push Not at hready
      obtain ⟨b, hb, hpending⟩ := hready
      exact ih (rank b) (h a (hsub a ha) b hb (hsub b hpending)) ⟨b, hpending, rfl⟩

/-! ### Taking what is ready -/

/-- The items that depend on no item of the list. -/
def ready (pending : List α) : List α := pending.filter fun a => ∀ b ∈ deps a, b ∉ pending

/-- Take the items that are ready, round by round; the items that are left when a round takes
nothing are the error. -/
def peel : ℕ → List α → Except (List α) Unit
  | 0, pending => if pending = [] then .ok () else .error pending
  | rounds + 1, pending =>
    if pending = [] then .ok ()
    else if ready deps pending = [] then .error pending
    else peel rounds (pending.filter (· ∉ ready deps pending))

variable {deps}

variable {a : α}

lemma mem_ready : a ∈ ready deps pending ↔ a ∈ pending ∧ ∀ b ∈ deps a, b ∉ pending := by
  change a ∈ pending.filter _ ↔ _
  rw [List.mem_filter, decide_eq_true_eq]

variable {rounds : ℕ}

/-- **Items that can all be taken are ranked**: a round takes items that depend on nothing left, so
they rank below what is taken later. -/
theorem exists_ranked_of_peel (h : peel deps rounds pending = .ok ()) :
    ∃ rank, Ranked deps pending rank := by
  induction rounds generalizing pending with
  | zero =>
    by_cases hnil : pending = []
    · exact ⟨fun _ => 0, by simp [Ranked, hnil]⟩
    · simp [peel, hnil] at h
  | succ rounds ih =>
    by_cases hnil : pending = []
    · exact ⟨fun _ => 0, by simp [Ranked, hnil]⟩
    by_cases hready : ready deps pending = []
    · simp [peel, hnil, hready] at h
    · simp only [peel, if_neg hnil, if_neg hready] at h
      obtain ⟨rank, hrank⟩ := ih h
      refine ⟨fun a => if a ∈ ready deps pending then 0 else rank a + 1, ?_⟩
      intro a ha b hb hpending
      have haready : a ∉ ready deps pending := by
        intro hmem
        exact (mem_ready.mp hmem).2 b hb hpending
      by_cases hbready : b ∈ ready deps pending
      · simp only [if_pos hbready, if_neg haready]
        omega
      · simp only [if_neg hbready, if_neg haready]
        have hrest := hrank a (by simp [ha, haready]) b hb (by simp [hpending, hbready])
        omega

/-! ### Collecting dependants -/

/-- An item depends on another one, directly. -/
def Depends (deps : α → List α) (items : List α) (a b : α) : Prop := b ∈ items ∧ a ∈ deps b

/-- An item is a dependant of another one, by a chain of items that each depend on the one
before. -/
def Leads (deps : α → List α) (items : List α) : α → α → Prop :=
  Relation.TransGen (Depends deps items)

omit [DecidableEq α] in
/-- A dependant ranks higher. -/
lemma Ranked.lt_of_leads (h : Ranked deps items rank) {b : α} (ha : a ∈ items)
    (hab : Leads deps items a b) : rank a < rank b := by
  have hboth : rank a < rank b ∧ b ∈ items := by
    induction hab with
    | single hstep => exact ⟨h _ hstep.1 a hstep.2 ha, hstep.1⟩
    | tail _ hstep ih =>
      exact ⟨Nat.lt_trans ih.1 (h _ hstep.1 _ hstep.2 ih.2), hstep.1⟩
  exact hboth.1

omit [DecidableEq α] in
/-- No item is its own dependant. -/
lemma Ranked.not_leads_self (h : Ranked deps items rank) (ha : a ∈ items) :
    ¬ Leads deps items a a :=
  fun hself => absurd (h.lt_of_leads ha hself) (Nat.lt_irrefl _)

variable (deps)

/-- The items, not collected yet, that depend on a collected one. -/
def newDependants (items changed : List α) : List α :=
  items.filter fun a => a ∉ changed ∧ ∃ b ∈ deps a, b ∈ changed

/-- Collect the dependants round by round, until a round finds none. -/
def collect (items : List α) : ℕ → List α → List α
  | 0, changed => changed
  | rounds + 1, changed =>
    if newDependants deps items changed = [] then changed
    else collect items rounds (changed ++ newDependants deps items changed)

variable {deps}

lemma collect_zero (items changed : List α) : collect deps items 0 changed = changed := rfl

lemma collect_succ (items : List α) (rounds : ℕ) (changed : List α) :
    collect deps items (rounds + 1) changed =
      if newDependants deps items changed = [] then changed
      else collect deps items rounds (changed ++ newDependants deps items changed) := rfl

variable {changed : List α}

lemma mem_newDependants :
    a ∈ newDependants deps items changed ↔
      a ∈ items ∧ a ∉ changed ∧ ∃ b ∈ deps a, b ∈ changed := by
  change a ∈ items.filter _ ↔ _
  rw [List.mem_filter, decide_eq_true_eq]

lemma subset_collect (h : a ∈ changed) : a ∈ collect deps items rounds changed := by
  induction rounds generalizing changed with
  | zero => exact h
  | succ rounds ih =>
    rw [collect_succ]
    split_ifs with hnil
    · exact h
    · exact ih (List.mem_append_left _ h)

/-- What is collected is one of the given items or a dependant of one. -/
lemma leads_of_mem_collect (h : a ∈ collect deps items rounds changed) :
    a ∈ changed ∨ ∃ c ∈ changed, Leads deps items c a := by
  induction rounds generalizing changed with
  | zero => exact .inl h
  | succ rounds ih =>
    rw [collect_succ] at h
    split_ifs at h with hnil
    · exact .inl h
    · rcases ih h with hmem | ⟨c, hc, hleads⟩
      · rcases List.mem_append.mp hmem with hold | hnew
        · exact .inl hold
        · obtain ⟨hitem, -, b, hb, hchanged⟩ := mem_newDependants.mp hnew
          exact .inr ⟨b, hchanged, .single ⟨hitem, hb⟩⟩
      · rcases List.mem_append.mp hc with hold | hnew
        · exact .inr ⟨c, hold, hleads⟩
        · obtain ⟨hitem, -, b, hb, hchanged⟩ := mem_newDependants.mp hnew
          exact .inr ⟨b, hchanged, .head ⟨hitem, hb⟩ hleads⟩

/-- After a round for every item that is not collected yet, no dependant is missing. -/
lemma newDependants_collect (h : (items.filter (· ∉ changed)).length ≤ rounds) :
    newDependants deps items (collect deps items rounds changed) = [] := by
  induction rounds generalizing changed with
  | zero =>
    have hnone : items.filter (· ∉ changed) = [] := List.length_eq_zero_iff.mp (by omega)
    rw [collect_zero, List.eq_nil_iff_forall_not_mem]
    intro a ha
    obtain ⟨hitem, hout, -⟩ := mem_newDependants.mp ha
    have hmem : a ∈ items.filter (· ∉ changed) := by simp [hitem, hout]
    rw [hnone] at hmem
    exact absurd hmem List.not_mem_nil
  | succ rounds ih =>
    rw [collect_succ]
    split_ifs with hnil
    · exact hnil
    · apply ih
      obtain ⟨a, ha⟩ := List.exists_mem_of_ne_nil _ hnil
      obtain ⟨hitem, hout, -⟩ := mem_newDependants.mp ha
      have hsplit : items.filter (· ∉ changed ++ newDependants deps items changed) =
          (items.filter (· ∉ changed)).filter (· ∉ newDependants deps items changed) := by
        rw [List.filter_filter]
        apply List.filter_congr
        intro b _
        by_cases hb : b ∈ changed <;> simp [hb]
      have hshorter : ((items.filter (· ∉ changed)).filter
          (· ∉ newDependants deps items changed)).length <
            (items.filter (· ∉ changed)).length := by
        refine List.length_filter_lt_length_iff_exists.mpr ⟨a, ?_, ?_⟩
        · simp [hitem, hout]
        · simp [ha]
      rw [hsplit]
      omega

/-- **The collection** of given items ends with these and all their dependants. -/
theorem mem_collect :
    a ∈ collect deps items items.length changed ↔
      a ∈ changed ∨ ∃ c ∈ changed, Leads deps items c a := by
  constructor
  · exact leads_of_mem_collect
  · rintro (h | ⟨c, hc, hleads⟩)
    · exact subset_collect h
    · have hclosed : newDependants deps items (collect deps items items.length changed) = [] :=
        newDependants_collect (List.length_filter_le _ _)
      have hstep : ∀ x y, x ∈ collect deps items items.length changed →
          Depends deps items x y → y ∈ collect deps items items.length changed := by
        intro x y hx hxy
        by_contra hy
        have hnew : y ∈ newDependants deps items (collect deps items items.length changed) :=
          mem_newDependants.mpr ⟨hxy.1, hy, x, hxy.2, hx⟩
        rw [hclosed] at hnew
        exact absurd hnew List.not_mem_nil
      induction hleads with
      | single h => exact hstep c _ (subset_collect hc) h
      | tail _ h ih => exact hstep _ _ ih h

end Dependants
