import Mathlib.Algebra.BigOperators.Group.Multiset.Basic
import AecBench.Lib.Program

/-!
# Traces of programs

A trace of a program is a list of the operations it calls, each with the answer it gets. What a
program does under every environment is what holds of all its traces; what a shared state adds is
which answers it gives.

## Main definitions

* `Program.Step` — an operation and its answer.
* `Program.Path`, `Program.Ends` — the steps a program can take, and those that end it.
* `Program.Follows` — the answers are those of a shared state that only these steps change.
* `Program.trace` — the trace of a run.
* `Program.Runs` — a trace that ends the program, answered by a shared state.
* `Program.Meets` — every trace that ends the program, with its result, is as required.
* `Program.tally` — what the steps of a trace add up to.

## Main results

* `Program.ends_trace`, `Program.follows_trace` — a run has a trace, which its shared state
  answers.
* `Program.ends_bind`, `Program.path_bind`, `Program.runs_bind`, `Program.Meets.bind` — the traces
  of a sequence.
-/

universe u

namespace Program

variable {Site : Type} {Op : Type → Type u} {ε ι σ α β γ : Type}

/-- An operation that was called, and its answer. -/
structure Step (Op : Type → Type u) (ε : Type) : Type (max 1 u) where
  {β : Type}
  op : Op β
  answer : Except ε β

/-- The program that ends with a result. -/
def leaf : Except ε α → Program Site Op ε α
  | .ok a => .done a
  | .error e => .fail e

variable {site : Site}

lemma perform_eq {op : Op α} : (perform site op : Program Site Op ε α) = .call site op leaf := by
  exact congrArg (Program.call site op) (funext fun r => by cases r <;> rfl)

/-- The steps lead from the program to what is left of it. -/
def Path : Program Site Op ε α → List (Step Op ε) → Program Site Op ε α → Prop
  | p, [], p' => p = p'
  | .call _ op next, step :: tr, p' => ∃ r, step = ⟨op, r⟩ ∧ (next r).Path tr p'
  | _, _ :: _, _ => False

/-- The steps end the program with a result. -/
def Ends (p : Program Site Op ε α) (tr : List (Step Op ε)) (r : Except ε α) : Prop :=
  p.Path tr (leaf r)

/-! ## Paths -/

section Paths

variable {p p' : Program Site Op ε α} {tr t : List (Step Op ε)} {step : Step Op ε}
  {r : Except ε α}

@[simp] lemma path_nil : p.Path [] p' ↔ p = p' := by
  cases p <;> exact Iff.rfl

@[simp] lemma path_done_cons {a : α} :
    (Program.done a : Program Site Op ε α).Path (step :: tr) p' ↔ False := Iff.rfl

@[simp] lemma path_fail_cons {e : ε} :
    (Program.fail e : Program Site Op ε α).Path (step :: tr) p' ↔ False := Iff.rfl

@[simp] lemma path_call_cons {op : Op β} {next : Except ε β → Program Site Op ε α} :
    (Program.call site op next).Path (step :: tr) p' ↔
      ∃ r, step = ⟨op, r⟩ ∧ (next r).Path tr p' := Iff.rfl

@[simp] lemma ends_done {a : α} :
    (Program.done a : Program Site Op ε α).Ends tr r ↔ tr = [] ∧ r = .ok a := by
  cases tr with
  | nil => cases r <;> simp [Ends, leaf, eq_comm]
  | cons step tr => simp [Ends]

@[simp] lemma ends_fail {e : ε} :
    (Program.fail e : Program Site Op ε α).Ends tr r ↔ tr = [] ∧ r = .error e := by
  cases tr with
  | nil => cases r <;> simp [Ends, leaf, eq_comm]
  | cons step tr => simp [Ends]

lemma ends_leaf {r' : Except ε α} :
    (leaf r' : Program Site Op ε α).Ends tr r ↔ tr = [] ∧ r = r' := by
  cases r' with
  | ok a => exact ends_done
  | error e => exact ends_fail

lemma ends_call {op : Op β} {next : Except ε β → Program Site Op ε α} :
    (Program.call site op next).Ends tr r ↔
      ∃ answer t, tr = ⟨op, answer⟩ :: t ∧ (next answer).Ends t r := by
  cases tr with
  | nil => cases r <;> simp [Ends, leaf]
  | cons step tr =>
    simp only [Ends, path_call_cons, List.cons.injEq]
    constructor
    · rintro ⟨answer, rfl, h⟩
      exact ⟨answer, tr, ⟨rfl, rfl⟩, h⟩
    · rintro ⟨answer, t, ⟨rfl, rfl⟩, h⟩
      exact ⟨answer, rfl, h⟩

end Paths

/-! ## Sequences -/

section Sequences

variable {p : Program Site Op ε α} {f : α → Program Site Op ε γ} {tr : List (Step Op ε)}
  {r : Except ε γ} {q : Program Site Op ε γ}

/-- The steps of a sequence are those of its first part, or all of these and then those of its
second part. -/
lemma path_bind : (p >>= f).Path tr q →
    (∃ p', p.Path tr p' ∧ q = p' >>= f) ∨
      ∃ a t t', tr = t ++ t' ∧ p.Ends t (.ok a) ∧ (f a).Path t' q := by
  induction tr generalizing p with
  | nil => exact fun h => .inl ⟨p, path_nil.mpr rfl, (path_nil.mp h).symm⟩
  | cons step tr ih =>
    cases p with
    | done a => exact fun h => .inr ⟨a, [], step :: tr, rfl, by simp, h⟩
    | fail e => exact fun h => h.elim
    | call site op next =>
      rintro ⟨r, rfl, h⟩
      rcases ih h with ⟨p', hp', rfl⟩ | ⟨a, t, t', rfl, ht, ht'⟩
      · exact .inl ⟨p', ⟨r, rfl, hp'⟩, rfl⟩
      · exact .inr ⟨a, _ :: t, t', rfl, ⟨r, rfl, ht⟩, ht'⟩

lemma ends_bind : (p >>= f).Ends tr r ↔
    (∃ e, r = .error e ∧ p.Ends tr (.error e)) ∨
      ∃ a t t', tr = t ++ t' ∧ p.Ends t (.ok a) ∧ (f a).Ends t' r := by
  induction p generalizing tr with
  | done a =>
    simp only [bind_done, ends_done, Except.ok.injEq, reduceCtorEq, and_false, exists_false,
      false_or]
    constructor
    · exact fun h => ⟨a, [], tr, rfl, ⟨rfl, rfl⟩, h⟩
    · rintro ⟨b, t, t', rfl, ⟨rfl, rfl⟩, h⟩
      exact h
  | fail e =>
    simp only [bind_fail, ends_fail, reduceCtorEq, and_false, false_and, exists_false, or_false,
      Except.error.injEq]
    constructor
    · rintro ⟨rfl, rfl⟩
      exact ⟨e, rfl, rfl, rfl⟩
    · rintro ⟨-, rfl, rfl, rfl⟩
      exact ⟨rfl, rfl⟩
  | call site op next ih =>
    simp only [bind_call, ends_call, ih]
    constructor
    · rintro ⟨answer, t, rfl, ⟨e, rfl, h⟩ | ⟨a, t, t', rfl, ha, h⟩⟩
      · exact .inl ⟨e, rfl, answer, t, rfl, h⟩
      · exact .inr ⟨a, _ :: t, t', rfl, ⟨answer, t, rfl, ha⟩, h⟩
    · rintro (⟨e, rfl, answer, t, rfl, h⟩ | ⟨a, -, t', rfl, ⟨answer, t, rfl, ha⟩, h⟩)
      · exact ⟨answer, t, rfl, .inl ⟨e, rfl, h⟩⟩
      · exact ⟨answer, t ++ t', rfl, .inr ⟨a, t, t', rfl, ha, h⟩⟩

lemma ends_result {r : Except ε (Except ε α)} :
    p.result.Ends tr r ↔ ∃ r', r = .ok r' ∧ p.Ends tr r' := by
  induction p generalizing tr with
  | done a | fail e => simp [result, and_comm]
  | call site op next ih =>
    simp only [result, ends_call, ih]
    constructor
    · rintro ⟨answer, t, rfl, r', rfl, h⟩
      exact ⟨r', rfl, answer, t, rfl, h⟩
    · rintro ⟨r', rfl, answer, t, rfl, h⟩
      exact ⟨answer, t, rfl, r', rfl, h⟩

lemma path_result {q : Program Site Op ε (Except ε α)} (h : p.result.Path tr q) :
    ∃ p', p.Path tr p' ∧ q = p'.result := by
  induction tr generalizing p with
  | nil => exact ⟨p, path_nil.mpr rfl, (path_nil.mp h).symm⟩
  | cons step tr ih =>
    cases p with
    | done a | fail e => exact h.elim
    | call site op next =>
      obtain ⟨r, rfl, h⟩ := h
      obtain ⟨p', hp', rfl⟩ := ih h
      exact ⟨p', ⟨r, rfl, hp'⟩, rfl⟩

end Sequences

/-! ## What holds of all traces -/

/-- Every trace of steps as assumed that ends the program, with its result, is as required. -/
def Meets (A : Step Op ε → Prop) (p : Program Site Op ε α)
    (Q : List (Step Op ε) → Except ε α → Prop) : Prop :=
  ∀ tr r, p.Ends tr r → (∀ step ∈ tr, A step) → Q tr r

section Meets

variable {A : Step Op ε → Prop} {p : Program Site Op ε α}
  {Q Q' : List (Step Op ε) → Except ε α → Prop}

lemma Meets.done {a : α} (h : Q [] (.ok a)) :
    (Program.done a : Program Site Op ε α).Meets A Q := by
  intro tr r hends _
  obtain ⟨rfl, rfl⟩ := ends_done.mp hends
  exact h

lemma Meets.leaf {r : Except ε α} (h : Q [] r) :
    (Program.leaf r : Program Site Op ε α).Meets A Q := by
  intro tr r' hends _
  obtain ⟨rfl, rfl⟩ := ends_leaf.mp hends
  exact h

lemma Meets.call {op : Op β} {next : Except ε β → Program Site Op ε α}
    (h : ∀ r, A ⟨op, r⟩ → (next r).Meets A fun t r' => Q (⟨op, r⟩ :: t) r') :
    (Program.call site op next).Meets A Q := by
  intro tr r hends hA
  obtain ⟨answer, t, rfl, hrest⟩ := ends_call.mp hends
  exact h answer (hA _ List.mem_cons_self) t r hrest fun step hstep =>
    hA step (List.mem_cons_of_mem _ hstep)

lemma Meets.mono (h : p.Meets A Q) (hQ : ∀ tr r, Q tr r → Q' tr r) : p.Meets A Q' :=
  fun tr r hends hA => hQ tr r (h tr r hends hA)

/-- What holds under an assumption holds under a stronger one. -/
lemma Meets.weaken {A' : Step Op ε → Prop} (h : p.Meets A Q) (hA : ∀ step, A' step → A step) :
    p.Meets A' Q :=
  fun tr r hends hA' => h tr r hends fun step hstep => hA step (hA' step hstep)

/-- The second part of a sequence goes on from each trace of the first. -/
lemma Meets.bind {f : α → Program Site Op ε γ} {Q' : List (Step Op ε) → Except ε γ → Prop}
    (h : p.Meets A Q) (hok : ∀ t a, Q t (.ok a) → (f a).Meets A fun t' r => Q' (t ++ t') r)
    (herror : ∀ t e, Q t (.error e) → Q' t (.error e)) : (p >>= f).Meets A Q' := by
  intro tr r hends hA
  rcases ends_bind.mp hends with ⟨e, rfl, ht⟩ | ⟨a, t, t', rfl, ht, ht'⟩
  · exact herror tr e (h _ _ ht hA)
  · exact hok t a (h _ _ ht fun step hstep => hA step (List.mem_append_left _ hstep)) t' r ht'
      fun step hstep => hA step (List.mem_append_right _ hstep)

end Meets

/-! ## Runs -/

/-- The answers of the steps are those of the shared state, which only these steps change. -/
def Follows (S : Semantics Op ε ι σ) : List (Step Op ε) → σ → σ → Prop
  | [], s, s' => s = s'
  | step :: tr, s, s' =>
    ∃ i, (S.act step.op i s).1 = step.answer ∧ Follows S tr (S.act step.op i s).2 s'

/-- The trace of a run. -/
def trace (S : Semantics Op ε ι σ) (env : Env ι σ) :
    ℕ → Program Site Op ε α → σ → List (Step Op ε)
  | _, .done _, _ => []
  | _, .fail _, _ => []
  | n, .call _ op next, s =>
    let answer := S.act op (env.input n) (env.disturb n s)
    ⟨op, answer.1⟩ :: (next answer.1).trace S env (n + 1) answer.2

section Runs

variable {S : Semantics Op ε ι σ} {env : Env ι σ}

/-- A run ends the program with its result. -/
theorem ends_trace (env : Env ι σ) (n : ℕ) (p : Program Site Op ε α) (s : σ) :
    p.Ends (p.trace S env n s) (p.exec S env n s).1 := by
  induction p generalizing n s with
  | done a | fail e => simp [trace, exec]
  | call site op next ih => exact ends_call.mpr ⟨_, _, rfl, ih _ _ _⟩

/-- The shared state answers the trace of a run that it alone makes. -/
theorem follows_trace (henv : ∀ n s, env.disturb n s = s) (n : ℕ) (p : Program Site Op ε α)
    (s : σ) : Follows S (p.trace S env n s) s (p.exec S env n s).2.1 := by
  induction p generalizing n s with
  | done a | fail e => rfl
  | call site op next ih =>
    refine ⟨env.input n, ?_, ?_⟩
    · simp only [henv]
    · have hrest := ih (S.act op (env.input n) (env.disturb n s)).1 (n + 1)
        (S.act op (env.input n) (env.disturb n s)).2
      simpa only [exec, henv n s] using hrest

lemma follows_append {tr t : List (Step Op ε)} {s s' : σ} :
    Follows S (tr ++ t) s s' ↔ ∃ s₁, Follows S tr s s₁ ∧ Follows S t s₁ s' := by
  induction tr generalizing s with
  | nil => simp [Follows]
  | cons step tr ih =>
    simp only [List.cons_append, Follows, ih]
    constructor
    · rintro ⟨i, hi, s₁, h, h'⟩
      exact ⟨s₁, ⟨i, hi, h⟩, h'⟩
    · rintro ⟨s₁, ⟨i, hi, h⟩, h'⟩
      exact ⟨i, hi, s₁, h, h'⟩

/-- What every step keeps holds after a trace. -/
lemma Follows.invariant {I : List (Step Op ε) → σ → Prop} {tr : List (Step Op ε)} {s s' : σ}
    (h : Follows S tr s s') (hstart : I [] s)
    (hstep : ∀ t step i s, I t s → (S.act step.op i s).1 = step.answer →
      I (t ++ [step]) (S.act step.op i s).2) : I tr s' := by
  suffices hgen : ∀ t₀ s, I t₀ s → Follows S tr s s' → I (t₀ ++ tr) s' by
    exact hgen [] s hstart h
  clear h hstart
  induction tr with
  | nil =>
    rintro t₀ s hI rfl
    simpa using hI
  | cons step tr ih =>
    rintro t₀ s hI ⟨i, hi, h⟩
    have hnext := ih (t₀ ++ [step]) _ (hstep t₀ step i s hI hi) h
    rwa [List.append_assoc] at hnext

end Runs

/-! ## Runs of a shared state -/

/-- The answer is one that the shared state can give. -/
def Step.Answered (S : Semantics Op ε ι σ) (step : Step Op ε) : Prop :=
  ∃ i s, (S.act step.op i s).1 = step.answer

/-- The steps end the program, and the shared state answers them. -/
def Runs (S : Semantics Op ε ι σ) (p : Program Site Op ε α) (s : σ) (tr : List (Step Op ε))
    (r : Except ε α) (s' : σ) : Prop :=
  p.Ends tr r ∧ Follows S tr s s'

section SharedState

variable {S : Semantics Op ε ι σ} {p : Program Site Op ε α} {tr : List (Step Op ε)} {s s' : σ}

lemma Step.Answered.exists_eq {op : Op β} {r : Except ε β} (h : Step.Answered S ⟨op, r⟩) :
    ∃ i s, r = (S.act op i s).1 := by
  obtain ⟨i, s, h⟩ := h
  exact ⟨i, s, h.symm⟩

lemma Follows.answered (h : Follows S tr s s') : ∀ step ∈ tr, step.Answered S := by
  induction tr generalizing s with
  | nil => simp
  | cons step tr ih =>
    obtain ⟨i, hi, h⟩ := h
    intro step' hstep
    rcases List.mem_cons.mp hstep with rfl | hstep
    · exact ⟨i, s, hi⟩
    · exact ih h step' hstep

/-- The run of a program that no one else disturbs. -/
lemma runs_trace {env : Env ι σ} (henv : ∀ n s, env.disturb n s = s) (n : ℕ) :
    Runs S p s (p.trace S env n s) (p.exec S env n s).1 (p.exec S env n s).2.1 :=
  ⟨ends_trace env n p s, follows_trace henv n p s⟩

lemma runs_leaf {r x : Except ε α} :
    Runs S (leaf x : Program Site Op ε α) s tr r s' ↔ tr = [] ∧ r = x ∧ s' = s := by
  rw [Runs, ends_leaf]
  constructor
  · rintro ⟨⟨rfl, rfl⟩, hfollows⟩
    exact ⟨rfl, rfl, hfollows.symm⟩
  · rintro ⟨rfl, rfl, rfl⟩
    exact ⟨⟨rfl, rfl⟩, rfl⟩

lemma runs_call {op : Op β} {next : Except ε β → Program Site Op ε α} {r : Except ε α} :
    Runs S (.call site op next) s tr r s' ↔
      ∃ i t, tr = ⟨op, (S.act op i s).1⟩ :: t ∧
        Runs S (next (S.act op i s).1) (S.act op i s).2 t r s' := by
  rw [Runs, ends_call]
  constructor
  · rintro ⟨⟨answer, t, rfl, hends⟩, i, hi, hfollows⟩
    obtain rfl : (S.act op i s).1 = answer := hi
    exact ⟨i, t, rfl, hends, hfollows⟩
  · rintro ⟨i, t, rfl, hends, hfollows⟩
    exact ⟨⟨_, t, rfl, hends⟩, i, rfl, hfollows⟩

lemma runs_perform {op : Op α} {r : Except ε α} :
    Runs S (perform site op : Program Site Op ε α) s tr r s' ↔
      ∃ i, tr = [⟨op, (S.act op i s).1⟩] ∧ r = (S.act op i s).1 ∧ s' = (S.act op i s).2 := by
  rw [perform_eq, runs_call]
  constructor
  · rintro ⟨i, t, rfl, hrest⟩
    obtain ⟨rfl, rfl, rfl⟩ := runs_leaf.mp hrest
    exact ⟨i, rfl, rfl, rfl⟩
  · rintro ⟨i, rfl, rfl, rfl⟩
    exact ⟨i, [], rfl, runs_leaf.mpr ⟨rfl, rfl, rfl⟩⟩

lemma runs_bind {f : α → Program Site Op ε γ} {r : Except ε γ} :
    Runs S (p >>= f) s tr r s' ↔
      (∃ e, r = .error e ∧ Runs S p s tr (.error e) s') ∨
        ∃ a t t' s₁, tr = t ++ t' ∧ Runs S p s t (.ok a) s₁ ∧ Runs S (f a) s₁ t' r s' := by
  rw [Runs, ends_bind]
  constructor
  · rintro ⟨⟨e, rfl, h⟩ | ⟨a, t, t', rfl, h, h'⟩, hfollows⟩
    · exact .inl ⟨e, rfl, h, hfollows⟩
    · obtain ⟨s₁, ht, ht'⟩ := follows_append.mp hfollows
      exact .inr ⟨a, t, t', s₁, rfl, ⟨h, ht⟩, h', ht'⟩
  · rintro (⟨e, rfl, h, hfollows⟩ | ⟨a, t, t', s₁, rfl, ⟨h, ht⟩, h', ht'⟩)
    · exact ⟨.inl ⟨e, rfl, h⟩, hfollows⟩
    · exact ⟨.inr ⟨a, t, t', rfl, h, h'⟩, follows_append.mpr ⟨s₁, ht, ht'⟩⟩

lemma runs_result {r : Except ε (Except ε α)} :
    Runs S p.result s tr r s' ↔ ∃ r', r = .ok r' ∧ Runs S p s tr r' s' := by
  rw [Runs, ends_result]
  constructor
  · rintro ⟨⟨r', rfl, h⟩, hfollows⟩
    exact ⟨r', rfl, h, hfollows⟩
  · rintro ⟨r', rfl, h, hfollows⟩
    exact ⟨⟨r', rfl, h⟩, hfollows⟩

end SharedState

/-! ## Tallies -/

section Tally

variable {M : Type} [AddCommMonoid M] (f : Step Op ε → M)

/-- What the steps add up to. -/
def tally (steps : Multiset (Step Op ε)) : M := (steps.map f).sum

@[simp] lemma tally_zero : tally f 0 = 0 := by simp [tally]

@[simp] lemma tally_nil : tally f (([] : List (Step Op ε)) : Multiset (Step Op ε)) = 0 := by
  simp [tally]

@[simp] lemma tally_singleton (step : Step Op ε) : tally f {step} = f step := by simp [tally]

@[simp] lemma tally_add (s t : Multiset (Step Op ε)) : tally f (s + t) = tally f s + tally f t := by
  simp [tally]

@[simp] lemma tally_cons (step : Step Op ε) (tr : List (Step Op ε)) :
    tally f ((step :: tr : List (Step Op ε)) : Multiset (Step Op ε)) = f step + tally f tr := by
  simp [tally]

@[simp] lemma tally_append (tr t : List (Step Op ε)) :
    tally f ((tr ++ t : List (Step Op ε)) : Multiset (Step Op ε)) = tally f tr + tally f t := by
  simp [tally]

lemma tally_flatten (trs : List (List (Step Op ε))) :
    tally f (trs.flatten : List (Step Op ε)) =
      (trs.map fun tr : List (Step Op ε) => tally f tr).sum := by
  induction trs with
  | nil => simp
  | cons tr trs ih => simp [ih]

/-- Steps that count nothing add up to nothing. -/
lemma tally_eq_zero {s : Multiset (Step Op ε)} (h : ∀ step ∈ s, f step = 0) : tally f s = 0 :=
  Multiset.sum_eq_zero fun m hm => by
    obtain ⟨step, hstep, rfl⟩ := Multiset.mem_map.mp hm
    exact h step hstep

end Tally

/-! ## Fixed answers -/

section Oracle

variable (answer : ∀ β : Type, Op β → Except ε β)

variable {answer}

end Oracle

end Program
