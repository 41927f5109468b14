import AecBench.Lib.Machine

/-!
# Calls that can stop between their writes

A call first reads the durable state and then replaces parts of it one after the other. Each
replacement is atomic, and the process can stop between two of them. A call can be repeated when
after its first write it prepares exactly the writes that are left and answers the same.

## Main definitions

* `Journal` — durable states, writes, and what each call prepares and answers in a state.
* `Journal.interrupted` — the state when a call stops after some of its writes.
* `Journal.machine` — calls, each with the number of writes it gets done.
* `Journal.Consumes` — a call that has made its first write has only the rest of it to do.
* `Journal.family` — a journal below every name, where a call works below its own name.

## Main results

* `Journal.prepare_interrupted` — a call that is repeated prepares the writes that were left.
* `Journal.interrupted_again` — repeating a call ends where the call would have ended.
* `Journal.answer_interrupted` — repeating a call answers what the call would have answered.
* `Journal.preserves` — an invariant kept by every first write holds after every run.
-/

universe u v w

/-- Durable states `σ`, writes `ω`, errors `ε`, answers `ρ` and calls `κ`. -/
structure Journal (σ : Type u) (ω : Type v) (ε ρ κ : Type w) where
  apply : σ → ω → σ
  /-- The writes of a call, in order, or its error. -/
  prepare : κ → σ → Except ε (List ω)
  /-- What the whole call answers. -/
  answer : κ → σ → Except ε ρ

namespace Journal

variable {σ : Type u} {ω : Type v} {ε ρ κ : Type w} (J : Journal σ ω ε ρ κ)

/-- The state after some writes. -/
def applyAll (s : σ) (ws : List ω) : σ := ws.foldl J.apply s

/-- The writes of a call; a call that fails makes none. -/
def writesOf (c : κ) (s : σ) : List ω :=
  match J.prepare c s with
  | .ok ws => ws
  | .error _ => []

/-- The state when the call stops after `k` of its writes. -/
def interrupted (c : κ) (k : ℕ) (s : σ) : σ := J.applyAll s ((J.writesOf c s).take k)

/-- The state after the whole call. -/
def completed (c : κ) (s : σ) : σ := J.applyAll s (J.writesOf c s)

/-- Calls one after the other, each with the number of writes it gets done. -/
def machine : Machine σ (κ × ℕ) where
  step s e := J.interrupted e.1 e.2 s

/-- After its first write, a call has the writes that are left to do, and the same to answer;
the invariant holds. -/
def Consumes (I : σ → Prop) (c : κ) : Prop :=
  ∀ s w ws, I s → J.prepare c s = .ok (w :: ws) →
    I (J.apply s w) ∧ J.prepare c (J.apply s w) = .ok ws ∧
      J.answer c (J.apply s w) = J.answer c s

variable {J}

@[simp] lemma applyAll_nil (s : σ) : J.applyAll s [] = s := rfl

@[simp] lemma applyAll_cons (s : σ) (w : ω) (ws : List ω) :
    J.applyAll s (w :: ws) = J.applyAll (J.apply s w) ws := rfl

variable {c : κ} {s : σ}

lemma writesOf_eq {ws : List ω} (h : J.prepare c s = .ok ws) : J.writesOf c s = ws := by
  simp [writesOf, h]

/-- A call that fails leaves the state as it is. -/
lemma interrupted_of_error {e : ε} (h : J.prepare c s = .error e) (k : ℕ) :
    J.interrupted c k s = s := by
  have hnone : J.writesOf c s = [] := by simp [writesOf, h]
  simp [interrupted, hnone]

variable {I : σ → Prop}

variable (hc : J.Consumes I c)
include hc

/-- A call that is repeated prepares the writes that were left and answers the same. -/
theorem prepare_interrupted (hs : I s) {ws : List ω} (h : J.prepare c s = .ok ws) (k : ℕ) :
    I (J.applyAll s (ws.take k)) ∧ J.prepare c (J.applyAll s (ws.take k)) = .ok (ws.drop k) ∧
      J.answer c (J.applyAll s (ws.take k)) = J.answer c s := by
  induction k generalizing s ws with
  | zero => exact ⟨hs, h, rfl⟩
  | succ k ih =>
    cases ws with
    | nil => exact ⟨hs, h, rfl⟩
    | cons w ws =>
      obtain ⟨hi, hrest, hanswer⟩ := hc s w ws hs h
      obtain ⟨hi', hrest', hanswer'⟩ := ih hi hrest
      exact ⟨hi', hrest', hanswer'.trans hanswer⟩

/-- **Repeating a call** that stopped ends where the call would have ended. -/
theorem interrupted_again (hs : I s) (k : ℕ) :
    J.completed c (J.interrupted c k s) = J.completed c s := by
  cases h : J.prepare c s with
  | error e => rw [interrupted_of_error h]
  | ok ws =>
    have hagain := (prepare_interrupted hc hs h k).2.1
    have hstopped : J.interrupted c k s = J.applyAll s (ws.take k) := by
      rw [interrupted, writesOf_eq h]
    rw [hstopped, completed, writesOf_eq hagain, completed, writesOf_eq h, applyAll, applyAll,
      applyAll, ← List.foldl_append, List.take_append_drop]

/-- **Repeating a call** that stopped answers what the call would have answered. -/
theorem answer_interrupted (hs : I s) (k : ℕ) :
    J.answer c (J.interrupted c k s) = J.answer c s := by
  cases h : J.prepare c s with
  | error e => rw [interrupted_of_error h]
  | ok ws =>
    rw [interrupted, writesOf_eq h]
    exact (prepare_interrupted hc hs h k).2.2

/-- An invariant kept by every first write is kept by every call, also one that stops. -/
lemma interrupted_preserves (hs : I s) (k : ℕ) : I (J.interrupted c k s) := by
  cases h : J.prepare c s with
  | error e => rwa [interrupted_of_error h]
  | ok ws =>
    rw [interrupted, writesOf_eq h]
    exact (prepare_interrupted hc hs h k).1

/-- The state after the whole call keeps the invariant. -/
lemma completed_preserves (hs : I s) : I (J.completed c s) := by
  have hall : J.completed c s = J.interrupted c (J.writesOf c s).length s := by
    rw [interrupted, List.take_length, completed]
  rw [hall]
  exact interrupted_preserves hc hs _

omit hc

/-- **An invariant kept by every first write** holds after every run of calls that meet `C`. -/
theorem preserves {C : κ → Prop} (hC : ∀ c, C c → J.Consumes I c) (hs : I s) {events : List (κ × ℕ)}
    (h : ∀ e ∈ events, C e.1) : I (J.machine.run s events) :=
  Machine.run_preserves_of_forall (I := I) (C := fun e : κ × ℕ => C e.1)
    (fun _ e hi he => interrupted_preserves (hC e.1 he) hi e.2) hs h

/-! ## A journal below every name -/

section Family

variable {ι : Type u} [DecidableEq ι] {τ : Type u} (D : Journal τ ω ε ρ κ) (name : κ → ι)

/-- A journal below every name: a call works below its own name. -/
def family : Journal (ι → τ) (ι × ω) ε ρ κ where
  apply s w := Function.update s w.1 (D.apply (s w.1) w.2)
  prepare c s := (D.prepare c (s (name c))).map fun ws => ws.map (Prod.mk (name c))
  answer c s := D.answer c (s (name c))

variable {D name}

lemma family_prepare_eq_ok {s : ι → τ} {ws : List (ι × ω)} :
    (D.family name).prepare c s = .ok ws ↔
      ∃ vs, D.prepare c (s (name c)) = .ok vs ∧ vs.map (Prod.mk (name c)) = ws := by
  cases h : D.prepare c (s (name c)) <;> simp [family, h, Except.map]

lemma family_applyAll (s : ι → τ) (i : ι) (vs : List ω) :
    (D.family name).applyAll s (vs.map (Prod.mk i)) = Function.update s i (D.applyAll (s i) vs) := by
  induction vs generalizing s with
  | nil => simp
  | cons v vs ih =>
    rw [List.map_cons, applyAll_cons, ih]
    simp [family]

lemma family_writesOf (c : κ) (s : ι → τ) :
    (D.family name).writesOf c s = (D.writesOf c (s (name c))).map (Prod.mk (name c)) := by
  cases h : D.prepare c (s (name c)) <;> simp [writesOf, family, h, Except.map]

lemma family_completed (c : κ) (s : ι → τ) :
    (D.family name).completed c s = Function.update s (name c) (D.completed c (s (name c))) := by
  rw [completed, family_writesOf, family_applyAll, completed]

/-- A call that consumes its writes below its name does so in the family. -/
lemma Consumes.family {I : ι → τ → Prop} (hc : D.Consumes (I (name c)) c) :
    (D.family name).Consumes (fun s => ∀ i, I i (s i)) c := by
  intro s w ws hs h
  obtain ⟨vs, hvs, hws⟩ := family_prepare_eq_ok.mp h
  cases vs with
  | nil => simp at hws
  | cons v vs =>
    obtain ⟨rfl, rfl⟩ := List.cons.inj hws
    obtain ⟨hi, hrest, hanswer⟩ := hc (s (name c)) v vs (hs _) hvs
    have hown : ((D.family name).apply s (name c, v)) (name c) = D.apply (s (name c)) v := by
      simp [Journal.family]
    refine ⟨fun i => ?_, family_prepare_eq_ok.mpr ⟨vs, ?_, rfl⟩, ?_⟩
    · by_cases hname : i = name c
      · rw [hname, hown]
        exact hi
      · have hother : ((D.family name).apply s (name c, v)) i = s i := by
          simp [Journal.family, Function.update_of_ne hname]
        rw [hother]
        exact hs i
    · rw [hown]
      exact hrest
    · show D.answer c _ = D.answer c _
      rw [hown]
      exact hanswer

end Family

end Journal
