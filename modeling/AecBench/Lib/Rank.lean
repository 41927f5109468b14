import Mathlib.Algebra.Order.BigOperators.Group.Finset
import AecBench.Lib.Interleaving

/-!
# Calls that come to an end

Finitely many interleaved calls have a rank at each place, and a step that changes anything lowers
the rank of its call. In a round every pending call has a turn, among any other steps. When
some pending call can always go on, the ranks bound the rounds after which no call is pending.

## Main definitions

* `Interleaving.Fair` — rounds in which every pending call has a turn.

## Main results

* `Interleaving.ended_of_fair` — as many rounds as the sum of the ranks end every call.
-/

namespace Interleaving

variable {ι σ P ε : Type} [DecidableEq ι] (L : Interleaving ι σ P ε)

/-- Rounds from a configuration; every call that is pending when a round starts has a turn in it. -/
def Fair (pending : P → Prop) (turn : ε) : Config ι σ P → List (List (ι × ε)) → Prop
  | _, [] => True
  | c, round :: rounds =>
    (∀ i, pending (c.place i) → (i, turn) ∈ round) ∧
      Fair pending turn (L.machine.run c round) rounds

section Rank

variable {L} {rank : ι → P → ℕ} {c : Config ι σ P} {i : ι} {e : ε}

/-- A step that lowers the rank of its call lowers the sum of the ranks. -/
lemma sum_rank_next [Fintype ι]
    (h : rank i (L.step i c.shared (c.place i) e).2 < rank i (c.place i)) :
    ∑ j, rank j ((L.next c (i, e)).place j) < ∑ j, rank j (c.place j) := by
  refine Finset.sum_lt_sum ?_ ⟨i, Finset.mem_univ i, ?_⟩
  · intro j _
    by_cases hji : j = i
    · subst hji
      rw [next_place_self]
      exact h.le
    · rw [next_place_of_ne hji]
  · rw [next_place_self]
    exact h

variable (hrank : ∀ c i e, L.next c (i, e) = c ∨
  rank i (L.step i c.shared (c.place i) e).2 < rank i (c.place i))

include hrank

/-- A run lowers the sum of the ranks, or every event of it leaves the configuration as it is. -/
lemma sum_rank_run [Fintype ι] (c : Config ι σ P) (events : List (ι × ε)) :
    (∀ event ∈ events, L.next c event = c) ∧ L.machine.run c events = c ∨
      ∑ j, rank j ((L.machine.run c events).place j) < ∑ j, rank j (c.place j) := by
  induction events generalizing c with
  | nil => exact .inl ⟨by simp, rfl⟩
  | cons event events ih =>
    obtain ⟨i, e⟩ := event
    have hrun : L.machine.run c ((i, e) :: events) = L.machine.run (L.next c (i, e)) events := rfl
    rw [hrun]
    rcases hrank c i e with hsame | hless
    · rw [hsame]
      rcases ih c with ⟨hevents, hrest⟩ | hrest
      · refine .inl ⟨?_, hrest⟩
        intro event hevent
        rcases List.mem_cons.mp hevent with rfl | hevent
        · exact hsame
        · exact hevents event hevent
      · exact .inr hrest
    · have hnext := sum_rank_next hless
      rcases ih (L.next c (i, e)) with ⟨-, hrest⟩ | hrest
      · rw [hrest]
        exact .inr hnext
      · exact .inr (hrest.trans hnext)

variable {I : Config ι σ P → Prop} {pending : P → Prop} {turn : ε}

/-- **The end of all calls**: when ended calls do not move, and some pending call can go on as long
as any call is pending, as many fair rounds as the sum of the ranks leave no call pending. -/
theorem ended_of_fair [Fintype ι] (hinvariant : ∀ c event, I c → I (L.next c event))
    (hended : ∀ c i e, ¬ pending (c.place i) → L.next c (i, e) = c)
    (hprogress : ∀ c, I c → ∀ i, pending (c.place i) →
      ∃ j, pending (c.place j) ∧ L.next c (j, turn) ≠ c)
    {c : Config ι σ P} (hc : I c) {rounds : List (List (ι × ε))}
    (hfair : L.Fair pending turn c rounds)
    (hlong : ∑ i, rank i (c.place i) ≤ rounds.length) (i : ι) :
    ¬ pending ((L.machine.run c rounds.flatten).place i) := by
  induction rounds generalizing c with
  | nil =>
    intro hi
    obtain ⟨j, -, hj⟩ := hprogress c hc i hi
    have hless := sum_rank_next ((hrank c j turn).resolve_left hj)
    simp only [List.length_nil] at hlong
    omega
  | cons round rounds ih =>
    rw [List.flatten_cons, Machine.run_append]
    have hrun : I (L.machine.run c round) :=
      Machine.run_preserves_of_forall (M := L.machine) (C := fun _ => True)
        (fun c event hc _ => hinvariant c event hc) hc (fun _ _ => trivial)
    rcases sum_rank_run hrank c round with ⟨hround, hsame⟩ | hless
    · -- a round that changes nothing gave no pending call a turn, so none was pending
      have hnone : ∀ j, ¬ pending (c.place j) := by
        intro j hj
        obtain ⟨k, hk, hmoves⟩ := hprogress c hc j hj
        exact hmoves (hround _ (hfair.1 k hk))
      have hstays : ∀ events, L.machine.run c events = c := by
        intro events
        induction events with
        | nil => rfl
        | cons event events ihe =>
          obtain ⟨k, e⟩ := event
          have hrun : L.machine.run c ((k, e) :: events) =
            L.machine.run (L.next c (k, e)) events := rfl
          rw [hrun, hended c k e (hnone k), ihe]
      rw [hsame, hstays]
      exact hnone i
    · refine ih hrun hfair.2 ?_
      simp only [List.length_cons] at hlong
      omega

end Rank

end Interleaving
