import AecBench.Lib.Machine

/-!
# Interleaved calls

Any number of calls share one resource. Each call has a place in its own code; a step of a call
changes the resource and its own place. The calls run in any order, one step at a time.

An assertion about a call is proved of every run the way of Owicki and Gries: the steps of the call
keep it, and the steps of another call, taken when that call's own assertion holds, do not disturb
it.

## Main definitions

* `Interleaving` — what a step of a call does; `Interleaving.Config` — the resource and the places.
* `Interleaving.machine` — the event machine of the calls.

## Main results

* `Interleaving.run_asserts` — the rule for assertions about calls.
* `Interleaving.steps_unchanged` — what a call left unchanged up to here, when a change would have
  kept it from getting here.
-/

/-- Calls of a family `ι` at places `P` that share a resource `σ`; `ε` are the outcomes of steps. -/
structure Interleaving (ι σ P ε : Type) where
  /-- The resource and the place of the call after one of its steps. -/
  step : ι → σ → P → ε → σ × P

namespace Interleaving

variable {ι σ P ε : Type} [DecidableEq ι] (L : Interleaving ι σ P ε)

structure Config (ι σ P : Type) where
  shared : σ
  place : ι → P

/-- The step of a call, in a configuration. -/
def next (c : Config ι σ P) (event : ι × ε) : Config ι σ P :=
  let after := L.step event.1 c.shared (c.place event.1) event.2
  ⟨after.1, Function.update c.place event.1 after.2⟩

/-- The calls, a step of one of them at a time. -/
def machine : Machine (Config ι σ P) (ι × ε) := ⟨L.next⟩

variable {L} {c : Config ι σ P} {i j : ι} {e : ε}

lemma next_shared : (L.next c (i, e)).shared = (L.step i c.shared (c.place i) e).1 := rfl

lemma next_place_self : (L.next c (i, e)).place i = (L.step i c.shared (c.place i) e).2 := by
  simp [next]

lemma next_place_of_ne (h : j ≠ i) : (L.next c (i, e)).place j = c.place j := by
  simp [next, h]

/-- One step of the rule for assertions. -/
lemma next_asserts {A : ι → σ → P → Prop}
    (hown : A i c.shared (c.place i) →
      A i (L.step i c.shared (c.place i) e).1 (L.step i c.shared (c.place i) e).2)
    (hother : ∀ j, j ≠ i → A i c.shared (c.place i) → A j c.shared (c.place j) →
      A j (L.step i c.shared (c.place i) e).1 (c.place j))
    (hA : ∀ j, A j c.shared (c.place j)) (j : ι) :
    A j (L.next c (i, e)).shared ((L.next c (i, e)).place j) := by
  by_cases hji : j = i
  · subst hji
    rw [next_shared, next_place_self]
    exact hown (hA j)
  · rw [next_shared, next_place_of_ne hji]
    exact hother j hji (hA i) (hA j)

/-- **Assertions about calls**: each holds after every run of admitted steps when the steps of the
call keep it and the steps of other calls do not disturb it. -/
theorem run_asserts {A : ι → σ → P → Prop} {C : Config ι σ P → ι × ε → Prop}
    (hown : ∀ c i e, C c (i, e) → A i c.shared (c.place i) →
      A i (L.step i c.shared (c.place i) e).1 (L.step i c.shared (c.place i) e).2)
    (hother : ∀ c i e j, C c (i, e) → j ≠ i → A i c.shared (c.place i) →
      A j c.shared (c.place j) → A j (L.step i c.shared (c.place i) e).1 (c.place j))
    {events : List (ι × ε)} (hinitial : ∀ i, A i c.shared (c.place i))
    (hadmitted : L.machine.Along C c events) (i : ι) :
    A i (L.machine.run c events).shared ((L.machine.run c events).place i) := by
  refine Machine.run_preserves (M := L.machine)
    (I := fun c => ∀ i, A i c.shared (c.place i)) ?_ hinitial hadmitted i
  rintro c ⟨i, e⟩ hA hC
  exact next_asserts (hown c i e hC) (fun j => hother c i e j hC) hA

section Places

variable {Q : P → Prop} {I : Config ι σ P → Prop} {events : List (ι × ε)}

/-- A property of places that the steps of a call keep is kept by every run. -/
lemma run_place (hinvariant : ∀ c event, I c → I (L.next c event))
    (hkeeps : ∀ c e, I c → Q (c.place i) → Q (L.step i c.shared (c.place i) e).2)
    (hc : I c) (h : Q (c.place i)) : Q ((L.machine.run c events).place i) := by
  induction events generalizing c with
  | nil => exact h
  | cons event events ih =>
    obtain ⟨j, e⟩ := event
    refine ih (c := L.next c (j, e)) (hinvariant c (j, e) hc) ?_
    by_cases hij : i = j
    · subst hij
      rw [next_place_self]
      exact hkeeps c e hc h
    · rw [next_place_of_ne hij]
      exact h

/-- **What a call has left unchanged**: when a step of the call that changes the resource in view
puts it past `Q`, for good, a call that is still at `Q` has made no such step. -/
theorem steps_unchanged {β : Type} {view : σ → β}
    (hinvariant : ∀ c event, I c → I (L.next c event))
    (hkeeps : ∀ c e, I c → ¬ Q (c.place i) → ¬ Q (L.step i c.shared (c.place i) e).2)
    (hchange : ∀ c e, I c → view (L.step i c.shared (c.place i) e).1 ≠ view c.shared →
      ¬ Q (L.step i c.shared (c.place i) e).2)
    (hc : I c) (h : Q ((L.machine.run c events).place i)) :
    L.machine.Along (fun c event => event.1 = i → view (L.next c event).shared = view c.shared)
      c events := by
  induction events generalizing c with
  | nil => trivial
  | cons event events ih =>
    refine ⟨?_, ih (hinvariant c event hc) h⟩
    obtain ⟨j, e⟩ := event
    rintro rfl
    by_contra hview
    have hpast : ¬ Q ((L.next c (j, e)).place j) := by
      rw [next_place_self]
      exact hchange c e hc hview
    exact run_place (Q := fun p => ¬ Q p) hinvariant hkeeps (hinvariant c (j, e) hc) hpast h

end Places

end Interleaving
