import Mathlib.Tactic.Common

/-!
# Programs over mutable objects

Programs that allocate, copy, read and assign mutable objects and may raise. The objects are
the list of those allocated so far; a reference is a position in that list. An object owns
everything below it, so a deep copy is a new object with the same content. An exception keeps
the assignments made before it.

## Main definitions

* `Objects.Action` — the programs.
* `Objects.read`, `Objects.alloc`, `Objects.copy`, `Objects.assign`, `Objects.raiseIf` — the
  statements.
* `Objects.Returns` — what holds when a program returns.
* `Objects.Keeps` — a program that leaves the first `n` objects alone.

## Main results

* `Objects.returns_bind` and its siblings — what a program that returns has done.
* `Objects.keeps_bind` and its siblings — the frame rules.
* `Objects.Keeps.getElem?` — an object that was there before is unchanged after the program
  has returned or raised.
-/

namespace Objects

variable {ε σ α β : Type}

abbrev Ref := ℕ

/-- Programs over objects of content `σ` that raise exceptions of type `ε`. -/
abbrev Action (ε σ α : Type) := EStateM ε (List σ) α

/-- The content of an object. -/
def read [Inhabited σ] (r : Ref) : Action ε σ σ := fun os => .ok (os.getD r default) os

/-- A new object. -/
def alloc (s : σ) : Action ε σ Ref := fun os => .ok os.length (os ++ [s])

/-- A new object with the content of another. -/
def copy [Inhabited σ] (r : Ref) : Action ε σ Ref := read r >>= alloc

/-- Assign to fields of an object. -/
def assign (r : Ref) (f : σ → σ) : Action ε σ Unit := fun os => .ok () (os.modify r f)

def raise (e : ε) : Action ε σ α := fun os => .error e os

def raiseIf (c : Prop) [Decidable c] (e : ε) : Action ε σ Unit := if c then raise e else pure ()

/-- The value of a fallible expression, raising its exception. -/
def eval : Except ε α → Action ε σ α
  | .ok a => pure a
  | .error e => raise e

/-- The objects after a program has returned or raised. -/
def objectsAfter : EStateM.Result ε (List σ) α → List σ
  | .ok _ os => os
  | .error _ os => os

/-! ## What a program that returns has done -/

/-- If the program returns, what it returns and the objects it leaves satisfy `P`. -/
def Returns (x : Action ε σ α) (os : List σ) (P : α → List σ → Prop) : Prop :=
  ∀ a os', x os = .ok a os' → P a os'

section Returns

variable {os : List σ} {P : α → List σ → Prop}

lemma returns_bind {x : Action ε σ α} {f : α → Action ε σ β} {Q : β → List σ → Prop} :
    Returns (x >>= f) os Q ↔ Returns x os fun a os₁ => Returns (f a) os₁ Q := by
  have hxf : (x >>= f) os = EStateM.bind x f os := rfl
  simp only [Returns, hxf, EStateM.bind]
  cases hr : x os with
  | ok a os₁ =>
    simp only [EStateM.Result.ok.injEq]
    constructor
    · rintro h _ _ ⟨rfl, rfl⟩
      exact h
    · intro h
      exact h a os₁ ⟨rfl, rfl⟩
  | error e os₁ => simp

lemma returns_pure {a : α} : Returns (pure a : Action ε σ α) os P ↔ P a os := by
  have hp : (pure a : Action ε σ α) os = .ok a os := rfl
  simp only [Returns, hp, EStateM.Result.ok.injEq]
  constructor
  · intro h
    exact h a os ⟨rfl, rfl⟩
  · rintro h _ _ ⟨rfl, rfl⟩
    exact h

lemma returns_read [Inhabited σ] {r : Ref} {P : σ → List σ → Prop} :
    Returns (read r : Action ε σ σ) os P ↔ P (os.getD r default) os := by
  change Returns (pure (os.getD r default)) os P ↔ _
  exact returns_pure

lemma returns_alloc {s : σ} {P : Ref → List σ → Prop} :
    Returns (alloc s : Action ε σ Ref) os P ↔ P os.length (os ++ [s]) := by
  simp only [Returns, alloc, EStateM.Result.ok.injEq]
  constructor
  · intro h
    exact h _ _ ⟨rfl, rfl⟩
  · rintro h _ _ ⟨rfl, rfl⟩
    exact h

lemma returns_copy [Inhabited σ] {r : Ref} {P : Ref → List σ → Prop} :
    Returns (copy r : Action ε σ Ref) os P ↔
      P os.length (os ++ [os.getD r default]) := by
  rw [copy, returns_bind, returns_read, returns_alloc]

lemma returns_assign {r : Ref} {f : σ → σ} {P : Unit → List σ → Prop} :
    Returns (assign r f : Action ε σ Unit) os P ↔ P () (os.modify r f) := by
  simp only [Returns, assign, EStateM.Result.ok.injEq]
  constructor
  · intro h
    exact h () _ ⟨trivial, rfl⟩
  · rintro h _ _ ⟨-, rfl⟩
    exact h

lemma returns_raise {e : ε} : Returns (raise e : Action ε σ α) os P := by
  simp [Returns, raise]

lemma returns_raiseIf {c : Prop} [Decidable c] {e : ε} {P : Unit → List σ → Prop} :
    Returns (raiseIf c e : Action ε σ Unit) os P ↔ (¬ c → P () os) := by
  by_cases h : c
  · rw [raiseIf, if_pos h]
    simp [h, returns_raise]
  · rw [raiseIf, if_neg h, returns_pure]
    simp [h]

lemma returns_eval {x : Except ε α} :
    Returns (eval x : Action ε σ α) os P ↔ ∀ a, x = .ok a → P a os := by
  cases x with
  | ok b =>
    rw [eval, returns_pure]
    simp
  | error e => simp [eval, returns_raise]

/-- Assigning to the object allocated last. -/
@[simp] lemma modify_append_length (s : σ) (f : σ → σ) :
    (os ++ [s]).modify os.length f = os ++ [f s] := by
  apply List.ext_getElem?
  intro i
  rw [List.getElem?_modify]
  rcases Nat.lt_trichotomy i os.length with h | rfl | h
  · rw [List.getElem?_append_left h, List.getElem?_append_left h]
    simp [show os.length ≠ i by omega]
  · simp
  · rw [List.getElem?_eq_none (by simp; omega), List.getElem?_eq_none (by simp; omega)]
    rfl

/-- Reading the object allocated last. -/
@[simp] lemma getD_append_length (s d : σ) : (os ++ [s]).getD os.length d = s := by
  simp [List.getD]

end Returns

/-! ## Programs that leave old objects alone -/

/-- The program leaves the first `n` objects alone, and what it returns satisfies `Q`. -/
def Keeps (n : ℕ) (Q : α → Prop) (x : Action ε σ α) : Prop :=
  ∀ os, n ≤ os.length → n ≤ (objectsAfter (x os)).length ∧
    (objectsAfter (x os)).take n = os.take n ∧ Returns x os fun a _ => Q a

section Frame

variable {n : ℕ} {Q : α → Prop} {R : β → Prop}

/-- An object that was there before is unchanged. -/
lemma Keeps.getElem? {x : Action ε σ α} {os : List σ} {r : Ref} {s : σ}
    (h : Keeps os.length Q x) (hr : os[r]? = some s) : (objectsAfter (x os))[r]? = some s := by
  obtain ⟨hlen, htake, -⟩ := h os (Nat.le_refl _)
  have hlt : r < os.length := (List.getElem?_eq_some_iff.mp hr).1
  rw [← List.getElem?_take_of_lt hlt, htake, List.getElem?_take_of_lt hlt, hr]

lemma keeps_pure {a : α} (h : Q a) : Keeps n Q (pure a : Action ε σ α) := by
  intro os hn
  refine ⟨hn, rfl, ?_⟩
  exact returns_pure.mpr h

/-- **Sequences** keep what both parts keep. -/
lemma keeps_bind {x : Action ε σ α} {f : α → Action ε σ β} (hx : Keeps n Q x)
    (hf : ∀ a, Q a → Keeps n R (f a)) : Keeps n R (x >>= f) := by
  intro os hn
  obtain ⟨hlen, htake, hQ⟩ := hx os hn
  have hxf : (x >>= f) os = EStateM.bind x f os := rfl
  cases hr : x os with
  | ok a os₁ =>
    rw [hr] at hlen htake
    obtain ⟨hlen', htake', hR⟩ := hf a (hQ a os₁ hr) os₁ hlen
    have hrun : (x >>= f) os = f a os₁ := by rw [hxf, EStateM.bind, hr]
    rw [Returns, hrun]
    exact ⟨hlen', htake'.trans htake, hR⟩
  | error e os₁ =>
    rw [hr] at hlen htake
    have hrun : (x >>= f) os = .error e os₁ := by rw [hxf, EStateM.bind, hr]
    rw [Returns, hrun]
    exact ⟨hlen, htake, by simp⟩

lemma keeps_read [Inhabited σ] {r : Ref} : Keeps n (fun _ => True) (read r : Action ε σ σ) :=
  fun _ hn => ⟨hn, rfl, fun _ _ _ => trivial⟩

/-- A new object lies behind those that are kept. -/
lemma keeps_alloc {s : σ} : Keeps n (n ≤ ·) (alloc s : Action ε σ Ref) := by
  intro os hn
  refine ⟨?_, ?_, ?_⟩
  · simp only [alloc, objectsAfter, List.length_append]
    omega
  · simp [alloc, objectsAfter, List.take_append_of_le_length hn]
  · exact returns_alloc.mpr hn

lemma keeps_copy [Inhabited σ] {r : Ref} : Keeps n (n ≤ ·) (copy r : Action ε σ Ref) :=
  keeps_bind keeps_read fun _ _ => keeps_alloc

/-- Assigning to an object that is not kept. -/
lemma keeps_assign {r : Ref} {f : σ → σ} (h : n ≤ r) :
    Keeps n (fun _ => True) (assign r f : Action ε σ Unit) := by
  intro os hn
  refine ⟨?_, ?_, fun _ _ _ => trivial⟩
  · simpa [assign, objectsAfter] using hn
  · simp only [assign, objectsAfter]
    apply List.ext_getElem?
    intro i
    by_cases hi : i < n
    · rw [List.getElem?_take_of_lt hi, List.getElem?_take_of_lt hi, List.getElem?_modify]
      have hne : r ≠ i := Nat.ne_of_gt (Nat.lt_of_lt_of_le hi h)
      simp [hne]
    · rw [List.getElem?_take_eq_none (by omega), List.getElem?_take_eq_none (by omega)]

lemma keeps_raise {e : ε} : Keeps n Q (raise e : Action ε σ α) :=
  fun _ hn => ⟨hn, rfl, returns_raise⟩

lemma keeps_raiseIf {c : Prop} [Decidable c] {e : ε} :
    Keeps n (fun _ => True) (raiseIf c e : Action ε σ Unit) := by
  rw [raiseIf]
  split
  · exact keeps_raise
  · exact keeps_pure trivial

lemma keeps_eval {x : Except ε α} : Keeps n (fun _ => True) (eval x : Action ε σ α) := by
  cases x with
  | ok a => exact keeps_pure trivial
  | error e => exact keeps_raise

end Frame

end Objects
