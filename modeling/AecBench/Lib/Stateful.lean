import Mathlib.Init

/-!
# Programs with a state that survives exceptions

A program of `EStateM` leaves a state whether it returns or raises. Its specification says what
holds of both.

## Main definitions

* `Stateful.Spec` — from the states of a precondition, what a program returns and what it leaves
  behind when it raises.

## Main results

* `Stateful.Spec.bind` — a sequence of programs.
* `Stateful.Spec.ok`, `Stateful.Spec.error`, `Stateful.Spec.returns` — what a specification says of a
  run.
-/

namespace Stateful

variable {ε σ α β : Type}

/-- From a state with `P`, the program returns with `Q` or raises with `E`. -/
def Spec (P : σ → Prop) (x : EStateM ε σ α) (Q : α → σ → Prop) (E : σ → Prop) : Prop :=
  ∀ s, P s →
    match x s with
    | .ok a s' => Q a s'
    | .error _ s' => E s'

variable {P P' : σ → Prop} {Q Q' : α → σ → Prop} {E E' : σ → Prop} {x : EStateM ε σ α}

namespace Spec

theorem ok (h : Spec P x Q E) {s s' : σ} {a : α} (hs : P s) (hx : x s = .ok a s') : Q a s' := by
  have hspec := h s hs
  rw [hx] at hspec
  exact hspec

theorem error (h : Spec P x Q E) {s s' : σ} {e : ε} (hs : P s) (hx : x s = .error e s') : E s' := by
  have hspec := h s hs
  rw [hx] at hspec
  exact hspec

/-- A program that never raises returns. -/
theorem returns (h : Spec P x Q fun _ => False) {s : σ} (hs : P s) :
    ∃ a s', x s = .ok a s' ∧ Q a s' := by
  have hspec := h s hs
  cases hrun : x s with
  | ok a s' =>
    rw [hrun] at hspec
    exact ⟨a, s', rfl, hspec⟩
  | error e s' =>
    rw [hrun] at hspec
    exact hspec.elim

theorem pure {a : α} (h : ∀ s, P s → Q a s) : Spec P (Pure.pure a : EStateM ε σ α) Q E :=
  fun s hs => h s hs

theorem throw {e : ε} (h : ∀ s, P s → E s) : Spec P (throw e : EStateM ε σ α) Q E :=
  fun s hs => h s hs

/-- A specification is shown of each state of its precondition. -/
theorem pointwise (h : ∀ s, P s → Spec (· = s) x Q E) : Spec P x Q E := fun s hs => h s hs s rfl

theorem modify {f : σ → σ} {s : σ} :
    Spec (· = s) (modify f : EStateM ε σ PUnit) (fun _ s' => s' = f s) E :=
  fun _ hs => congrArg f hs

theorem get {s : σ} : Spec (· = s) (get : EStateM ε σ σ) (fun a s' => a = s ∧ s' = s) E :=
  fun _ hs => ⟨hs, hs⟩

/-- A sequence: the second program starts where the first returned. -/
theorem bind {f : α → EStateM ε σ β} {R : β → σ → Prop} (hx : Spec P x Q E)
    (hf : ∀ a, Spec (Q a) (f a) R E) : Spec P (x >>= f) R E := by
  intro s hs
  have hspec := hx s hs
  show match EStateM.bind x f s with
    | .ok b s' => R b s'
    | .error _ s' => E s'
  unfold EStateM.bind
  cases hrun : x s with
  | ok a s' =>
    rw [hrun] at hspec
    exact hf a s' hspec
  | error e s' =>
    rw [hrun] at hspec
    exact hspec

theorem mono (h : Spec P x Q E) (hP : ∀ s, P' s → P s) (hQ : ∀ a s, Q a s → Q' a s)
    (hE : ∀ s, E s → E' s) : Spec P' x Q' E' := by
  intro s hs
  have hspec := h s (hP s hs)
  cases hrun : x s with
  | ok a s' =>
    rw [hrun] at hspec
    exact hQ a s' hspec
  | error e s' =>
    rw [hrun] at hspec
    exact hE s' hspec

/-- The same returns, and more ways to raise. -/
theorem errors (h : Spec P x Q E) (hE : ∀ s, E s → E' s) : Spec P x Q E' :=
  h.mono (fun _ h => h) (fun _ _ h => h) hE

/-- A fact that does not depend on the state. -/
theorem of_pure {p : Prop} (h : p → Spec P x Q E) : Spec (fun s => p ∧ P s) x Q E :=
  fun s hs => h hs.1 s hs.2

end Spec

end Stateful
