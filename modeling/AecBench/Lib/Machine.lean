import Mathlib.Data.List.Basic

/-!
# Event machines

A machine is a total step function on states, driven by a list of events chosen by its
environment. A run is a list of events; an event that is not enabled in a state leaves the
state as it is, so every list of events is a run and quantifying over lists of events is
quantifying over every order of steps.

## Main definitions

* `Machine` — a step function; `Machine.run` — the state after a list of events.
* `Machine.Along` — a property of the pairs (state, event) met along a run.
* `Machine.Since` — an event of a run since which every step had a property.

## Main results

* `Machine.run_preserves` — an invariant kept by every admitted step holds after every run
  whose steps are admitted; `Machine.run_preserves_of_forall`, when events are admitted.
* `Machine.along_of_invariant` — what holds of every admitted step from an invariant state
  holds along every run whose steps are admitted.
* `Machine.along_iff_forall_split` — a property along a run is a property of every split of
  the run into what came before a step and what came after.
-/

universe u v

/-- A machine over states `σ` driven by events `ε`. -/
structure Machine (σ : Type u) (ε : Type v) where
  /-- The state after one event. -/
  step : σ → ε → σ

namespace Machine

variable {σ : Type u} {ε : Type v} (M : Machine σ ε)

/-- The state after a list of events, in order. -/
def run : σ → List ε → σ
  | s, [] => s
  | s, e :: es => run (M.step s e) es

/-- `P` holds of every state met along the run together with the event taken there. -/
def Along (P : σ → ε → Prop) : σ → List ε → Prop
  | _, [] => True
  | s, e :: es => P s e ∧ Along P (M.step s e) es

@[simp] lemma run_nil (s : σ) : M.run s [] = s := rfl

@[simp] lemma run_cons (s : σ) (e : ε) (es : List ε) :
    M.run s (e :: es) = M.run (M.step s e) es := rfl

@[simp] lemma along_nil (P : σ → ε → Prop) (s : σ) : M.Along P s [] := trivial

@[simp] lemma along_cons (P : σ → ε → Prop) (s : σ) (e : ε) (es : List ε) :
    M.Along P s (e :: es) ↔ P s e ∧ M.Along P (M.step s e) es := Iff.rfl

instance decidableAlong {P : σ → ε → Prop} [∀ s e, Decidable (P s e)] :
    ∀ (s : σ) (es : List ε), Decidable (M.Along P s es)
  | _, [] => isTrue trivial
  | s, e :: es => @instDecidableAnd _ _ inferInstance (decidableAlong (M.step s e) es)

/-- Running `es ++ fs` is running `es`, then `fs`. -/
lemma run_append (s : σ) (es fs : List ε) : M.run s (es ++ fs) = M.run (M.run s es) fs := by
  induction es generalizing s with
  | nil => rfl
  | cons e es ih => exact ih (M.step s e)

/-- A property along `es ++ fs` is the property along `es`, then along `fs` from there. -/
lemma along_append (P : σ → ε → Prop) (s : σ) (es fs : List ε) :
    M.Along P s (es ++ fs) ↔ M.Along P s es ∧ M.Along P (M.run s es) fs := by
  induction es generalizing s with
  | nil => simp
  | cons e es ih => simp [ih, and_assoc]

/-- A property along a run is a property of every split of the run at one step. -/
lemma along_iff_forall_split (P : σ → ε → Prop) (s : σ) (es : List ε) :
    M.Along P s es ↔ ∀ pre e post, es = pre ++ e :: post → P (M.run s pre) e := by
  induction es generalizing s with
  | nil => simp
  | cons e es ih =>
    rw [along_cons, ih]
    constructor
    · rintro ⟨h0, h⟩ pre e' post hsplit
      cases pre with
      | nil =>
        obtain ⟨rfl, -⟩ : e = e' ∧ es = post := by simpa using hsplit
        exact h0
      | cons d pre =>
        obtain ⟨rfl, hes⟩ : e = d ∧ es = pre ++ e' :: post := by simpa using hsplit
        exact h pre e' post hes
    · intro h
      refine ⟨h [] e es rfl, fun pre e' post hsplit => ?_⟩
      exact h (e :: pre) e' post (by rw [hsplit]; rfl)

variable {P : σ → ε → Prop}

/-- What holds of every step holds along every run. -/
lemma along_of_forall (h : ∀ s e, P s e) (s : σ) (es : List ε) : M.Along P s es := by
  induction es generalizing s with
  | nil => trivial
  | cons e es ih => exact ⟨h s e, ih (M.step s e)⟩

/-- `E` holds of a step of the run, and `P` of that step and of all later ones. -/
def Since (E P : σ → ε → Prop) (s : σ) (es : List ε) : Prop :=
  ∃ pre e post, es = pre ++ e :: post ∧ E (M.run s pre) e ∧ M.Along P (M.run s pre) (e :: post)

variable {M}

section Since

variable {E P : σ → ε → Prop} {s : σ} {es : List ε} {e : ε}

/-- What the last step does has been the case since then. -/
lemma since_of_last (hE : E (M.run s es) e) (hP : P (M.run s es) e) :
    M.Since E P s (es ++ [e]) :=
  ⟨es, e, [], rfl, hE, hP, trivial⟩

/-- What has been the case since some step is the case after one step more. -/
lemma Since.append_singleton (h : M.Since E P s es) (hP : P (M.run s es) e) :
    M.Since E P s (es ++ [e]) := by
  obtain ⟨pre, d, post, rfl, hE, halong⟩ := h
  refine ⟨pre, d, post ++ [e], by simp, hE, ?_⟩
  rw [← List.cons_append, along_append]
  rw [run_append] at hP
  exact ⟨halong, hP, trivial⟩

end Since

variable {es : List ε} {I : σ → Prop}

/-- An invariant kept by every step that meets `C` holds after every run whose steps do. -/
theorem run_preserves {C : σ → ε → Prop} (hstep : ∀ s e, I s → C s e → I (M.step s e)) {s : σ}
    (hs : I s) (hC : M.Along C s es) : I (M.run s es) := by
  induction es generalizing s with
  | nil => exact hs
  | cons e es ih => exact ih (hstep s e hs hC.1) hC.2

/-- An invariant kept by every step whose event meets `C` holds after every run of such
events. -/
theorem run_preserves_of_forall {C : ε → Prop} (hstep : ∀ s e, I s → C e → I (M.step s e)) {s : σ}
    (hs : I s) (hC : ∀ e ∈ es, C e) : I (M.run s es) := by
  induction es generalizing s with
  | nil => exact hs
  | cons e es ih =>
    exact ih (hstep s e hs (hC e List.mem_cons_self)) fun e' he' => hC e' (List.mem_cons_of_mem _ he')

/-- What holds of every step that meets `C`, taken from a state that meets the invariant `I`,
holds along every run whose steps meet `C`. -/
theorem along_of_invariant {C : σ → ε → Prop} (hstep : ∀ s e, I s → C s e → I (M.step s e))
    (hP : ∀ s e, I s → C s e → P s e) {s : σ} (hs : I s) (hC : M.Along C s es) :
    M.Along P s es := by
  induction es generalizing s with
  | nil => trivial
  | cons e es ih => exact ⟨hP s e hs hC.1, ih (hstep s e hs hC.1) hC.2⟩

/-- A property along a run weakens step by step. -/
theorem Along.mono {Q : σ → ε → Prop} (hPQ : ∀ s e, P s e → Q s e) {s : σ} (h : M.Along P s es) :
    M.Along Q s es :=
  along_of_invariant (I := fun _ => True) (fun _ _ _ _ => trivial) (fun s e _ => hPQ s e)
    trivial h

end Machine
