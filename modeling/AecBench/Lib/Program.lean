import AecBench.Lib.Machine

/-!
# Programs over atomic operations

A program is a tree of calls of atomic operations on a shared state. Each call carries a label
of the place it is made from, and the answer it gets (a value or an error) selects the rest of
the program. The same program has two readings. Alone, it runs from a state to a result while
an environment changes the state between its calls. In a pool, the calls of any number of
programs are interleaved one at a time, with operations of the environment between them.

## Main definitions

* `Program`, `Program.bind`, `Program.perform`, `Program.attempt`, `Program.result` — programs and
  how they are built; `Program.Semantics` — what an operation does to the shared state.
* `Program.Issues`, `Program.Everywhere`, `Program.Yields` — what holds of every call a program
  can make, and of every value it can return.
* `Program.Propagates` — errors of certain calls are the errors of the program.
* `Program.exec` — the run of one program in an environment.
* `Program.wp` — the states from which every run ends as required, when the environment keeps
  to a rely relation and every call meets an assumption.
* `Program.pool` — the machine that interleaves programs; `Program.Pool.callOf` — the call an
  event makes.

## Main results

* `Program.exec_sound` — a run that keeps to the rely and the assumption ends as `wp` says.
* `Program.wp_bind`, `Program.wp_mono` — the rules of `wp`;
  `Program.Triple.bind` and its siblings — those of triples.
* `Program.Issues.bind`, `Program.Everywhere.bind` — the calls of a sequence of programs.
* `Program.pool_preserves_along`, `Program.pool_preserves` — an invariant kept by every call that
  is issued holds in every state of a pool.
-/

universe u

/-- A program with operations `Op` called from places `Site`, failing with `ε` or returning an
`α`. -/
inductive Program (Site : Type) (Op : Type → Type u) (ε α : Type) : Type (max 1 u) where
  | done (a : α)
  | fail (e : ε)
  | call {β : Type} (site : Site) (op : Op β) (next : Except ε β → Program Site Op ε α)

namespace Program

variable {Site : Type} {Op : Type → Type u} {ε ι σ α γ : Type}

/-- Run `p`, then the program selected by its result; a failure of `p` is final. -/
def bind : Program Site Op ε α → (α → Program Site Op ε γ) → Program Site Op ε γ
  | .done a, f => f a
  | .fail e, _ => .fail e
  | .call site op next, f => .call site op fun r => (next r).bind f

instance : Monad (Program Site Op ε) where
  pure := .done
  bind := bind

/-- Call `op` and fail if it fails. -/
def perform {β : Type} (site : Site) (op : Op β) : Program Site Op ε β :=
  .call site op fun
    | .ok b => .done b
    | .error e => .fail e

/-- Call `op` and return its answer, value or error. -/
def attempt {β : Type} (site : Site) (op : Op β) : Program Site Op ε (Except ε β) :=
  .call site op .done

/-- Run `p` and return its result, value or error, as a value. -/
def result : Program Site Op ε α → Program Site Op ε (Except ε α)
  | .done a => .done (.ok a)
  | .fail e => .done (.error e)
  | .call site op next => .call site op fun r => (next r).result

@[simp] lemma pure_eq (a : α) : (pure a : Program Site Op ε α) = .done a := rfl

@[simp] lemma bind_done (a : α) (f : α → Program Site Op ε γ) :
    (Program.done a : Program Site Op ε α) >>= f = f a := rfl

@[simp] lemma bind_fail (e : ε) (f : α → Program Site Op ε γ) :
    (Program.fail e : Program Site Op ε α) >>= f = .fail e := rfl

variable {β : Type}

@[simp] lemma bind_call (site : Site) (op : Op β) (next : Except ε β → Program Site Op ε α)
    (f : α → Program Site Op ε γ) :
    (Program.call site op next) >>= f = .call site op fun r => next r >>= f := rfl

/-! ## The calls a program can make -/

/-- Every call of the program, together with what follows it, meets `P`. -/
def Everywhere (P : ∀ β, Site → Op β → (Except ε β → Program Site Op ε α) → Prop) :
    Program Site Op ε α → Prop
  | .done _ => True
  | .fail _ => True
  | .call site op next => P _ site op next ∧ ∀ r, (next r).Everywhere P

/-- Every call of the program meets `P`. -/
def Issues (P : ∀ β, Site → Op β → Prop) : Program Site Op ε α → Prop
  | .done _ => True
  | .fail _ => True
  | .call site op next => P _ site op ∧ ∀ r, (next r).Issues P

/-- Every value the program can return meets `Q`. -/
def Yields (Q : α → Prop) : Program Site Op ε α → Prop
  | .done a => Q a
  | .fail _ => True
  | .call _ _ next => ∀ r, (next r).Yields Q

/-- A property of programs that passes from a program to what is left of it after a call. -/
def Residual (T : Program Site Op ε α → Prop) : Prop :=
  ∀ (β : Type) (site : Site) (op : Op β) (next : Except ε β → Program Site Op ε α),
    T (.call site op next) → ∀ r, T (next r)

section Calls

variable {P Q : ∀ β, Site → Op β → Prop}

@[simp] lemma issues_perform_bind (site : Site) (op : Op β) (f : β → Program Site Op ε γ) :
    (perform site op >>= f).Issues P ↔ P _ site op ∧ ∀ b, (f b).Issues P := by
  refine ⟨fun h => ⟨h.1, fun b => h.2 (.ok b)⟩, fun h => ⟨h.1, fun r => ?_⟩⟩
  cases r with
  | ok b => exact h.2 b
  | error e => trivial

@[simp] lemma issues_attempt_bind (site : Site) (op : Op β) (f : Except ε β → Program Site Op ε γ) :
    (attempt site op >>= f).Issues P ↔ P _ site op ∧ ∀ r, (f r).Issues P := Iff.rfl

variable {p : Program Site Op ε α} {f : α → Program Site Op ε γ}

/-- The calls of a sequence are the calls of its parts. -/
lemma Issues.bind (hp : p.Issues P) (hf : ∀ a, (f a).Issues P) : (p >>= f).Issues P := by
  induction p with
  | done a => exact hf a
  | fail e => trivial
  | call site op next ih => exact ⟨hp.1, fun r => ih r (hp.2 r)⟩

/-- A weaker demand on the calls. -/
lemma Issues.mono (hp : p.Issues P) (h : ∀ β site (op : Op β), P β site op → Q β site op) :
    p.Issues Q := by
  induction p with
  | done a | fail e => trivial
  | call site op next ih => exact ⟨h _ _ _ hp.1, fun r => ih r (hp.2 r)⟩

/-- The calls of a sequence, when the second part depends on what the first part returns. -/
lemma Issues.bind_yields {Q : α → Prop} (hp : p.Issues P) (hq : p.Yields Q)
    (hf : ∀ a, Q a → (f a).Issues P) : (p >>= f).Issues P := by
  induction p with
  | done a => exact hf a hq
  | fail e => trivial
  | call site op next ih => exact ⟨hp.1, fun r => ih r (hp.2 r) (hq r)⟩

/-- What a sequence can return. -/
lemma Yields.bind {Q : α → Prop} {Q' : γ → Prop} (hp : p.Yields Q)
    (hf : ∀ a, Q a → (f a).Yields Q') : (p >>= f).Yields Q' := by
  induction p with
  | done a => exact hf a hp
  | fail e => trivial
  | call site op next ih => exact fun r => ih r (hp r)

/-- A weaker demand on what is returned. -/
lemma Yields.mono {Q Q' : α → Prop} (hp : p.Yields Q) (h : ∀ a, Q a → Q' a) : p.Yields Q' := by
  induction p with
  | done a => exact h a hp
  | fail e => trivial
  | call site op next ih => exact fun r => ih r (hp r)

/-- Every program yields something. -/
lemma Yields.trivial (p : Program Site Op ε α) : p.Yields fun _ => True := by
  induction p with
  | done a | fail e => exact True.intro
  | call site op next ih => exact ih

/-- `Everywhere` for a program none of whose calls `R` constrains. -/
lemma Issues.everywhere {R : ∀ β, Site → Op β → (Except ε β → Program Site Op ε α) → Prop}
    (hp : p.Issues P) (hP : ∀ β site (op : Op β) next, P β site op → R β site op next) :
    p.Everywhere R := by
  induction p with
  | done a | fail e => exact True.intro
  | call site op next ih => exact ⟨hP _ _ _ _ hp.1, fun r => ih r (hp.2 r)⟩

/-- `Everywhere` for a sequence: what `R` says of a call of the first part carries over when the
second part is appended, and the second part starts from what the first part returns. -/
lemma Everywhere.bind {R : ∀ β, Site → Op β → (Except ε β → Program Site Op ε α) → Prop}
    {R' : ∀ β, Site → Op β → (Except ε β → Program Site Op ε γ) → Prop} {Q : α → Prop}
    (hp : p.Everywhere R) (hq : p.Yields Q)
    (hR : ∀ β site (op : Op β) next, R β site op next → R' β site op fun r => next r >>= f)
    (hf : ∀ a, Q a → (f a).Everywhere R') : (p >>= f).Everywhere R' := by
  induction p with
  | done a => exact hf a hq
  | fail e => exact True.intro
  | call site op next ih => exact ⟨hR _ _ _ _ hp.1, fun r => ih r (hp.2 r) (hq r)⟩

/-- `Everywhere` for a call followed by what its answer selects. -/
lemma Everywhere.perform_bind {R : ∀ β, Site → Op β → (Except ε β → Program Site Op ε γ) → Prop}
    {site : Site} {op : Op β} {f : β → Program Site Op ε γ}
    (h : R _ site op fun r => (match r with
      | .ok b => (.done b : Program Site Op ε β)
      | .error e => .fail e) >>= f) (hf : ∀ b, (f b).Everywhere R) :
    (perform site op >>= f).Everywhere R := by
  refine ⟨h, fun r => ?_⟩
  cases r with
  | ok b => exact hf b
  | error e => exact True.intro

/-! ### Errors that are not caught -/

/-- The error of a call whose operation meets `C` is the error of the program. -/
def Propagates (C : ∀ β, Op β → Prop) : Program Site Op ε α → Prop
  | .done _ => True
  | .fail _ => True
  | .call _ op next => (C _ op → ∀ e, next (.error e) = .fail e) ∧ ∀ r, (next r).Propagates C

variable {C : ∀ β, Op β → Prop}

@[simp] lemma propagates_done (a : α) : (Program.done a : Program Site Op ε α).Propagates C :=
  trivial

@[simp] lemma propagates_perform_bind (site : Site) (op : Op β) (f : β → Program Site Op ε γ) :
    (perform site op >>= f).Propagates C ↔ ∀ b, (f b).Propagates C := by
  refine ⟨fun h b => h.2 (.ok b), fun h => ⟨fun _ e => rfl, fun r => ?_⟩⟩
  cases r with
  | ok b => exact h b
  | error e => trivial

lemma propagates_attempt_bind {site : Site} {op : Op β} {f : Except ε β → Program Site Op ε γ}
    (hop : ¬ C _ op) (hf : ∀ r, (f r).Propagates C) : (attempt site op >>= f).Propagates C :=
  ⟨fun h => absurd h hop, hf⟩

/-- A sequence propagates what its parts propagate. -/
lemma Propagates.bind (hp : p.Propagates C) (hf : ∀ a, (f a).Propagates C) :
    (p >>= f).Propagates C := by
  induction p with
  | done a => exact hf a
  | fail e => trivial
  | call site op next ih =>
    refine ⟨fun hop e => ?_, fun r => ih r (hp.2 r)⟩
    show next (.error e) >>= f = .fail e
    rw [hp.1 hop e, bind_fail]

end Calls

/-! ## Running one program in an environment -/

/-- What an operation does, in one atomic step, to the shared state, given an input of the
environment such as the time. -/
structure Semantics (Op : Type → Type u) (ε ι σ : Type) where
  /-- The answer and the state after the operation. -/
  act : ∀ {β : Type}, Op β → ι → σ → Except ε β × σ

/-- An environment: what happens to the shared state before the `n`-th call, and the input of
that call. -/
structure Env (ι σ : Type) where
  /-- The change of the shared state before the `n`-th call. -/
  disturb : ℕ → σ → σ
  /-- The input of the `n`-th call. -/
  input : ℕ → ι

variable (S : Semantics Op ε ι σ)

/-- The run of a program whose next call is the `n`-th: its result, the state it leaves and the
number of the next call. -/
def exec (env : Env ι σ) : ℕ → Program Site Op ε α → σ → Except ε α × σ × ℕ
  | n, .done a, s => (.ok a, s, n)
  | n, .fail e, s => (.error e, s, n)
  | n, .call _ op next, s =>
    let answer := S.act op (env.input n) (env.disturb n s)
    (next answer.1).exec env (n + 1) answer.2

/-- Every call made in the run of a program meets `A` in the state it is made in. -/
def AlongCalls (A : ∀ β, Op β → σ → Prop) (env : Env ι σ) :
    ℕ → Program Site Op ε α → σ → Prop
  | _, .done _, _ => True
  | _, .fail _, _ => True
  | n, .call _ op next, s =>
    A _ op (env.disturb n s) ∧
      (next (S.act op (env.input n) (env.disturb n s)).1).AlongCalls A env (n + 1)
        (S.act op (env.input n) (env.disturb n s)).2

instance decidableAlongCalls {A : ∀ β, Op β → σ → Prop} [hA : ∀ β op s, Decidable (A β op s)]
    (env : Env ι σ) :
    ∀ (n : ℕ) (p : Program Site Op ε α) (s : σ), Decidable (p.AlongCalls S A env n s)
  | _, .done _, _ => isTrue trivial
  | _, .fail _, _ => isTrue trivial
  | n, .call _ op next, s =>
    @instDecidableAnd _ _ (hA _ op (env.disturb n s))
      (decidableAlongCalls env (n + 1) (next (S.act op (env.input n) (env.disturb n s)).1)
        (S.act op (env.input n) (env.disturb n s)).2)

/-- The states from which every run of the program ends with a result and a state in `Q`, when
the environment changes the state only along `R` and every call meets `A`. -/
def wp (R : σ → σ → Prop) (A : ∀ β, Op β → σ → Prop) :
    Program Site Op ε α → (Except ε α → σ → Prop) → σ → Prop
  | .done a, Q, s => Q (.ok a) s
  | .fail e, Q, s => Q (.error e) s
  | .call _ op next, Q, s =>
    ∀ s' i, R s s' → A _ op s' → (next (S.act op i s').1).wp R A Q (S.act op i s').2

section Rules

variable {S} {R : σ → σ → Prop} {A : ∀ β, Op β → σ → Prop}

/-- The run of a sequence: the second part runs from where the first part ends. -/
lemma exec_bind (env : Env ι σ) (n : ℕ) (p : Program Site Op ε α)
    (f : α → Program Site Op ε γ) (s : σ) :
    (p >>= f).exec S env n s =
      match p.exec S env n s with
      | (.ok a, s', n') => (f a).exec S env n' s'
      | (.error e, s', n') => (.error e, s', n') := by
  induction p generalizing n s with
  | done a | fail e => rfl
  | call site op next ih => exact ih _ _ _

/-- The calls along the run of a sequence. -/
lemma alongCalls_bind (env : Env ι σ) (n : ℕ) (p : Program Site Op ε α)
    (f : α → Program Site Op ε γ) (s : σ) :
    (p >>= f).AlongCalls S A env n s ↔
      p.AlongCalls S A env n s ∧
        ∀ a s' n', p.exec S env n s = (.ok a, s', n') → (f a).AlongCalls S A env n' s' := by
  induction p generalizing n s with
  | done a | fail e => simp [AlongCalls, exec]
  | call site op next ih =>
    simp only [bind_call, AlongCalls, exec]
    rw [ih, and_assoc]

/-- What holds of every call holds along every run. -/
lemma alongCalls_of_forall (h : ∀ β (op : Op β) s, A β op s) (env : Env ι σ) (n : ℕ)
    (p : Program Site Op ε α) (s : σ) : p.AlongCalls S A env n s := by
  induction p generalizing n s with
  | done a | fail e => trivial
  | call site op next ih => exact ⟨h _ op _, ih _ _ _⟩

variable {p : Program Site Op ε α} {s : σ} {env : Env ι σ}

/-- A run whose environment keeps to `R` and whose calls meet `A` ends in `Q`. -/
theorem exec_sound (hR : ∀ n s, R s (env.disturb n s)) {n : ℕ} {Q : Except ε α → σ → Prop}
    (h : p.wp S R A Q s) (hA : p.AlongCalls S A env n s) :
    Q (p.exec S env n s).1 (p.exec S env n s).2.1 := by
  induction p generalizing n s with
  | done a | fail e => exact h
  | call site op next ih => exact ih _ (h _ _ (hR n s) hA.1) hA.2

/-- A weaker postcondition. -/
lemma wp_mono {Q Q' : Except ε α → σ → Prop} (h : p.wp S R A Q s) (hQ : ∀ r s', Q r s' → Q' r s') :
    p.wp S R A Q' s := by
  induction p generalizing s with
  | done a | fail e => exact hQ _ _ h
  | call site op next ih => exact fun s' i hR hA => ih _ (h s' i hR hA)

/-- The rule of sequencing: the second part starts from what the first part establishes, and a
failure of the first part is the result. -/
lemma wp_bind {f : α → Program Site Op ε γ} {Q : Except ε γ → σ → Prop}
    (h : p.wp S R A (fun r s' => match r with
      | .ok a => (f a).wp S R A Q s'
      | .error e => Q (.error e) s') s) : (p >>= f).wp S R A Q s := by
  induction p generalizing s with
  | done a | fail e => exact h
  | call site op next ih => exact fun s' i hR hA => ih _ (h s' i hR hA)

/-- The rule of a call that may fail. -/
lemma wp_perform {site : Site} {op : Op β} {Q : Except ε β → σ → Prop}
    (h : ∀ s' i, R s s' → A _ op s' → Q (S.act op i s').1 (S.act op i s').2) :
    (perform site op).wp S R A Q s := by
  intro s' i hR hA
  have hQ := h s' i hR hA
  cases hr : (S.act op i s').1 with
  | ok b | error e => simpa only [hr, wp] using hQ

/-- The rule of a call whose error is an answer. -/
lemma wp_attempt {site : Site} {op : Op β} {Q : Except ε (Except ε β) → σ → Prop}
    (h : ∀ s' i, R s s' → A _ op s' → Q (.ok (S.act op i s').1) (S.act op i s').2) :
    (attempt site op).wp S R A Q s :=
  fun s' i hR hA => h s' i hR hA

/-- Catching an error: every result is a value. -/
lemma wp_result {Q : Except ε (Except ε α) → σ → Prop}
    (h : p.wp S R A (fun r s' => Q (.ok r) s') s) : p.result.wp S R A Q s := by
  induction p generalizing s with
  | done a | fail e => exact h
  | call site op next ih => exact fun s' i hR hA => ih _ (h s' i hR hA)

/-! ### Triples -/

variable (S R A) in
/-- From every state in `P` every run of the program ends with a value and a state in `Q`, or it
fails with an error and a state in `E`. -/
def Triple (P : σ → Prop) (p : Program Site Op ε α) (Q : α → σ → Prop) (E : ε → σ → Prop) :
    Prop :=
  ∀ s, P s → p.wp S R A (fun r s' => match r with
    | .ok a => Q a s'
    | .error e => E e s') s

/-- The environment does not invalidate `P`. -/
def Stable (R : σ → σ → Prop) (P : σ → Prop) : Prop := ∀ s s', R s s' → P s → P s'

section Triple

variable {P P' : σ → Prop} {E : ε → σ → Prop} {site : Site} {β : Type}

/-- Returning a value. -/
lemma Triple.done {Q : α → σ → Prop} {a : α} (h : ∀ s, P s → Q a s) :
    Triple S R A P (.done a : Program Site Op ε α) Q E := h

/-- Failing. -/
lemma Triple.fail {Q : α → σ → Prop} {e : ε} (h : ∀ s, P s → E e s) :
    Triple S R A P (.fail e : Program Site Op ε α) Q E := h

/-- A stronger precondition and weaker postconditions. -/
lemma Triple.mono {Q Q' : α → σ → Prop} {E' : ε → σ → Prop} (h : Triple S R A P p Q E)
    (hP : ∀ s, P' s → P s) (hQ : ∀ a s, Q a s → Q' a s) (hE : ∀ e s, E e s → E' e s) :
    Triple S R A P' p Q' E' := by
  refine fun s hs => wp_mono (h s (hP s hs)) fun r s' hr => ?_
  cases r with
  | ok a => exact hQ a s' hr
  | error e => exact hE e s' hr

/-- Sequencing. -/
lemma Triple.bind {Q : α → σ → Prop} {Q' : γ → σ → Prop} {f : α → Program Site Op ε γ}
    (hp : Triple S R A P p Q E) (hf : ∀ a, Triple S R A (Q a) (f a) Q' E) :
    Triple S R A P (p >>= f) Q' E := by
  refine fun s hs => wp_bind (wp_mono (hp s hs) fun r s' hr => ?_)
  cases r with
  | ok a => exact hf a s' hr
  | error e => exact hr

/-- A call that may fail. -/
lemma Triple.perform {op : Op β} {Q : β → σ → Prop} (hstable : Stable R P)
    (h : ∀ s i, P s → A _ op s → match (S.act op i s).1 with
      | .ok b => Q b (S.act op i s).2
      | .error e => E e (S.act op i s).2) :
    Triple S R A P (Program.perform site op : Program Site Op ε β) Q E := by
  intro s hs
  refine wp_perform fun s' i hR hA => ?_
  exact h s' i (hstable s s' hR hs) hA

/-- A call that does not fail. -/
lemma Triple.perform_ok {op : Op β} {Q : β → σ → Prop} (hstable : Stable R P)
    (h : ∀ s i, P s → A _ op s → ∃ b s', S.act op i s = (.ok b, s') ∧ Q b s') :
    Triple S R A P (Program.perform site op : Program Site Op ε β) Q E := by
  refine Triple.perform hstable fun s i hs hA => ?_
  obtain ⟨b, s', hact, hQ⟩ := h s i hs hA
  rw [hact]
  exact hQ

/-- A call whose error is an answer. -/
lemma Triple.attempt {op : Op β} {Q : Except ε β → σ → Prop} (hstable : Stable R P)
    (h : ∀ s i, P s → A _ op s → Q (S.act op i s).1 (S.act op i s).2) :
    Triple S R A P (Program.attempt site op : Program Site Op ε (Except ε β)) Q E := by
  intro s hs
  refine wp_attempt fun s' i hR hA => ?_
  exact h s' i (hstable s s' hR hs) hA

/-- Catching an error. -/
lemma Triple.result {Q : α → σ → Prop} {Q' : Except ε α → σ → Prop} {E' : ε → σ → Prop}
    (h : Triple S R A P p Q E) (hok : ∀ a s, Q a s → Q' (.ok a) s)
    (herror : ∀ e s, E e s → Q' (.error e) s) : Triple S R A P p.result Q' E' := by
  refine fun s hs => wp_result (wp_mono (h s hs) fun r s' hr => ?_)
  cases r with
  | ok a => exact hok a s' hr
  | error e => exact herror e s' hr

/-- A precondition that does not depend on the state. -/
lemma Triple.of_pure {c : Prop} {Q : α → σ → Prop} (h : c → Triple S R A P p Q E) :
    Triple S R A (fun s => c ∧ P s) p Q E :=
  fun s hs => h hs.1 s hs.2

/-- A precondition with two cases. -/
lemma Triple.or {Q : α → σ → Prop} (h : Triple S R A P p Q E) (h' : Triple S R A P' p Q E) :
    Triple S R A (fun s => P s ∨ P' s) p Q E :=
  fun s hs => hs.elim (h s) (h' s)

/-- What a triple says of one run in an environment that keeps to `R`. -/
theorem Triple.exec {n : ℕ} {Q : α → σ → Prop} (h : Triple S R A P p Q E)
    (hR : ∀ n s, R s (env.disturb n s)) (hs : P s) (hA : p.AlongCalls S A env n s) :
    match p.exec S env n s with
    | (.ok a, s', _) => Q a s'
    | (.error e, s', _) => E e s' := by
  have hrun := exec_sound hR (h s hs) hA
  revert hrun
  rcases p.exec S env n s with ⟨r, s', n'⟩
  cases r <;> exact id

end Triple

/-! ### Calls that must not be refused -/

/-- If every call that does not meet `A` fails, and the program fails with it, then a program that
returns has only made calls that meet `A`. -/
lemma Propagates.alongCalls {C : ∀ β, Op β → Prop} (hp : p.Propagates C)
    (hC : ∀ β (op : Op β) i s, ¬ A _ op s → C _ op ∧ ∃ e, (S.act op i s).1 = .error e) {n : ℕ}
    {a : α} (h : (p.exec S env n s).1 = .ok a) : p.AlongCalls S A env n s := by
  induction p generalizing n s with
  | done a | fail e => trivial
  | call site op next ih =>
    refine ⟨?_, ih _ (hp.2 _) h⟩
    by_contra hA
    obtain ⟨hop, e, he⟩ := hC _ op (env.input n) (env.disturb n s) hA
    simp only [exec] at h
    rw [he, hp.1 hop] at h
    cases h

end Rules

/-! ## Interleaving programs -/

/-- A shared state and the programs that are running on it. -/
structure Pool (Site : Type) (Op : Type → Type u) (ε σ : Type) : Type (max 1 u) where
  /-- The shared state. -/
  shared : σ
  /-- What is left of each program, in the order they were started. -/
  threads : List (Program Site Op ε Unit)

/-- What can happen in a pool: the next call of a program, the start of a program, or an
operation of the environment. -/
inductive PoolEvent (Site : Type) (Op : Type → Type u) (ε ι : Type) : Type (max 1 u) where
  | turn (thread : ℕ) (input : ι)
  | spawn (program : Program Site Op ε Unit)
  | direct {β : Type} (op : Op β) (input : ι)

/-- The machine of a pool. -/
def pool : Machine (Pool Site Op ε σ) (PoolEvent Site Op ε ι) where
  step c
    | .turn i input =>
      match c.threads[i]? with
      | some (.call _ op next) =>
        { shared := (S.act op input c.shared).2
          threads := c.threads.set i (next (S.act op input c.shared).1) }
      | _ => c
    | .spawn program => { c with threads := c.threads ++ [program] }
    | .direct op input => { c with shared := (S.act op input c.shared).2 }

/-- An operation called with an input of the environment. -/
structure Call (Op : Type → Type u) (ι : Type) : Type (max 1 u) where
  {Answer : Type}
  /-- The operation. -/
  op : Op Answer
  /-- The input of the environment. -/
  input : ι

/-- The call an event of a pool makes, if it makes one. -/
def Pool.callOf (c : Pool Site Op ε σ) : PoolEvent Site Op ε ι → Option (Call Op ι)
  | .turn i input =>
    match c.threads[i]? with
    | some (.call _ op _) => some ⟨op, input⟩
    | _ => none
  | .spawn _ => none
  | .direct op input => some ⟨op, input⟩

/-- The place a thread is about to make a call from. -/
def Pool.siteOf (c : Pool Site Op ε σ) (i : ℕ) : Option Site :=
  match c.threads[i]? with
  | some (.call site _ _) => some site
  | _ => none

/-- The event only issues operations that meet `P` or `D`: a started program makes only calls
that meet `P` and the environment only operations that meet `D`. -/
def EventIssues (P : ∀ β, Site → Op β → Prop) (D : ∀ β, Op β → Prop) :
    PoolEvent Site Op ε ι → Prop
  | .turn _ _ => True
  | .spawn program => program.Issues P
  | .direct op _ => D _ op

/-- An invariant of the shared state, and of the calls the programs can still make. -/
structure Pool.Holds (I : σ → Prop) (P : ∀ β, Site → Op β → Prop) (c : Pool Site Op ε σ) :
    Prop where
  shared : I c.shared
  threads : ∀ p ∈ c.threads, p.Issues P

section Pool

variable {S} {I : σ → Prop} {P : ∀ β, Site → Op β → Prop} {D : ∀ β, Op β → Prop}

@[simp] lemma pool_step_spawn (c : Pool Site Op ε σ) (p : Program Site Op ε Unit) :
    (pool S).step c (.spawn p) = { c with threads := c.threads ++ [p] } := rfl

variable {c : Pool Site Op ε σ}

/-- A turn of a thread that is about to call `op`. -/
lemma pool_step_turn {i : ℕ} {site : Site} {op : Op β} {next : Except ε β → Program Site Op ε Unit}
    (h : c.threads[i]? = some (.call site op next)) (input : ι) :
    (pool S).step c (.turn i input) =
      { shared := (S.act op input c.shared).2
        threads := c.threads.set i (next (S.act op input c.shared).1) } := by
  simp only [pool, h]

/-- A turn does nothing, or it is the next call of a thread. -/
lemma pool_turn_cases (c : Pool Site Op ε σ) (i : ℕ) (input : ι) :
    ((pool S).step c (.turn i input) = c ∧ c.callOf (.turn i input) = none) ∨
      ∃ (β : Type) (site : Site) (op : Op β) (next : Except ε β → Program Site Op ε Unit),
        c.threads[i]? = some (.call site op next) ∧
        c.callOf (.turn i input) = some ⟨op, input⟩ ∧
        (pool S).step c (.turn i input) =
          { shared := (S.act op input c.shared).2
            threads := c.threads.set i (next (S.act op input c.shared).1) } := by
  rcases h : c.threads[i]? with _ | (a | e | @⟨β, site, op, next⟩)
  · left; simp only [pool, Pool.callOf, h, and_self]
  · left; simp only [pool, Pool.callOf, h, and_self]
  · left; simp only [pool, Pool.callOf, h, and_self]
  · right
    exact ⟨β, site, op, next, rfl, by simp only [Pool.callOf, h], pool_step_turn h input⟩

/-- A step of a pool leaves the shared state alone, or it is the call the event makes. -/
lemma pool_shared_cases (c : Pool Site Op ε σ) (e : PoolEvent Site Op ε ι) :
    (((pool S).step c e).shared = c.shared ∧ c.callOf e = none) ∨
      ∃ call, c.callOf e = some call ∧
        ((pool S).step c e).shared = (S.act call.op call.input c.shared).2 := by
  cases e with
  | turn i input =>
    rcases pool_turn_cases (S := S) c i input with ⟨h, hcall⟩ | ⟨β, site, op, next, -, hcall, h⟩
    · exact .inl ⟨by rw [h], hcall⟩
    · exact .inr ⟨_, hcall, by rw [h]⟩
  | spawn program => exact .inl ⟨rfl, rfl⟩
  | direct op input => exact .inr ⟨_, rfl, rfl⟩

variable {e : PoolEvent Site Op ε ι}

/-- The call of an event is one that the programs or the environment may issue. -/
lemma callOf_issued (hc : ∀ p ∈ c.threads, p.Issues P) (he : EventIssues P D e) {call : Call Op ι}
    (hcall : c.callOf e = some call) : (∃ site, P _ site call.op) ∨ D _ call.op := by
  cases e with
  | turn i input =>
    simp only [Pool.callOf] at hcall
    split at hcall
    · rename_i β site op next hi
      obtain rfl := Option.some.inj hcall
      exact .inl ⟨site, (hc _ (List.mem_of_getElem? hi)).1⟩
    · cases hcall
  | spawn program => cases hcall
  | direct op input =>
    obtain rfl := Option.some.inj hcall
    exact .inr he

variable {T : Program Site Op ε Unit → Prop}

/-- A residual property of all programs of a pool is kept, if the programs that are started
have it. -/
lemma pool_threads_residual (hT : Residual T) (hc : ∀ p ∈ c.threads, T p)
    (he : ∀ p, e = .spawn p → T p) : ∀ p ∈ ((pool S).step c e).threads, T p := by
  cases e with
  | turn i input =>
    rcases pool_turn_cases (S := S) c i input with ⟨h, -⟩ | ⟨β, site, op, next, hi, -, h⟩ <;>
      rw [h]
    · exact hc
    · intro p hp
      rcases List.mem_or_eq_of_mem_set hp with hp | rfl
      · exact hc p hp
      · exact hT _ _ _ _ (hc _ (List.mem_of_getElem? hi)) _
  | spawn program =>
    intro p hp
    rcases List.mem_append.mp hp with hp | hp
    · exact hc p hp
    · rw [List.mem_singleton.mp hp]; exact he program rfl
  | direct op input => exact hc

/-- What is left of every program keeps making only calls that meet `P`. -/
lemma pool_threads_issue (hc : ∀ p ∈ c.threads, p.Issues P) (he : EventIssues P D e) :
    ∀ p ∈ ((pool S).step c e).threads, p.Issues P :=
  pool_threads_residual (fun _ _ _ _ h => h.2) hc fun p hp => by subst hp; exact he

/-- A residual property of one program of a pool is kept along every run. -/
lemma pool_thread_residual (hT : Residual T) {i : ℕ} {p : Program Site Op ε Unit}
    (hp : c.threads[i]? = some p) (hc : T p) (es : List (PoolEvent Site Op ε ι)) :
    ∃ q, ((pool S).run c es).threads[i]? = some q ∧ T q := by
  induction es generalizing c p with
  | nil => exact ⟨p, hp, hc⟩
  | cons e es ih =>
    have hlt : i < c.threads.length := (List.getElem?_eq_some_iff.mp hp).1
    have hstep : ∃ q, ((pool S).step c e).threads[i]? = some q ∧ T q := by
      cases e with
      | turn j input =>
        rcases pool_turn_cases (S := S) c j input with ⟨h, -⟩ | ⟨β, site, op, next, hj, -, h⟩ <;>
          rw [h]
        · exact ⟨p, hp, hc⟩
        · by_cases hij : j = i
          · subst hij
            rw [hp] at hj
            obtain rfl := Option.some.inj hj
            exact ⟨_, List.getElem?_set_self hlt, hT _ _ _ _ hc _⟩
          · exact ⟨p, by rw [List.getElem?_set_ne hij, hp], hc⟩
      | spawn program => exact ⟨p, by rw [pool_step_spawn, List.getElem?_append_left hlt, hp], hc⟩
      | direct op input => exact ⟨p, hp, hc⟩
    obtain ⟨q, hq, hcq⟩ := hstep
    exact ih hq hcq

/-- An invariant that every operation keeps holds in every state of a pool. -/
theorem pool_run_shared (hI : ∀ s (call : Call Op ι), I s → I (S.act call.op call.input s).2)
    (hc : I c.shared) (es : List (PoolEvent Site Op ε ι)) : I ((pool S).run c es).shared := by
  refine Machine.run_preserves_of_forall (M := pool S) (I := fun c => I c.shared)
    (C := fun _ => True) (fun c e hc _ => ?_) hc fun _ _ => trivial
  rcases pool_shared_cases (S := S) c e with ⟨h, -⟩ | ⟨call, -, h⟩ <;> rw [h]
  · exact hc
  · exact hI _ call hc

variable {es : List (PoolEvent Site Op ε ι)}

/-- A residual property of the programs that are started holds of what is left of every program
in every state of a pool. -/
theorem pool_run_residual (hT : Residual T) (hc : ∀ p ∈ c.threads, T p)
    (he : ∀ e ∈ es, ∀ p, e = .spawn p → T p) : ∀ p ∈ ((pool S).run c es).threads, T p :=
  Machine.run_preserves_of_forall (M := pool S) (I := fun c => ∀ p ∈ c.threads, T p)
    (C := fun e => ∀ p, e = .spawn p → T p)
    (fun _ _ hc he => pool_threads_residual hT hc he) hc he

/-- An invariant kept by every call that is issued and meets `C` is kept by a step of the pool
whose call meets `C`. -/
theorem pool_step_holds {C : σ → Call Op ι → Prop}
    (hI : ∀ s (call : Call Op ι), (∃ site, P _ site call.op) ∨ D _ call.op → C s call → I s →
      I (S.act call.op call.input s).2) (hc : c.Holds I P) (he : EventIssues P D e)
    (hC : ∀ call, c.callOf e = some call → C c.shared call) : ((pool S).step c e).Holds I P := by
  refine ⟨?_, pool_threads_issue hc.threads he⟩
  rcases pool_shared_cases (S := S) c e with ⟨h, -⟩ | ⟨call, hcall, h⟩ <;> rw [h]
  · exact hc.shared
  · exact hI _ call (callOf_issued hc.threads he hcall) (hC call hcall) hc.shared

/-- An invariant kept by every call that is issued and meets `C` holds after every run whose
calls meet `C`. -/
theorem pool_preserves_along {C : σ → Call Op ι → Prop}
    (hI : ∀ s (call : Call Op ι), (∃ site, P _ site call.op) ∨ D _ call.op → C s call → I s →
      I (S.act call.op call.input s).2) (hc : c.Holds I P) (he : ∀ e ∈ es, EventIssues P D e)
    (hC : (pool S).Along (fun c e => ∀ call, c.callOf e = some call → C c.shared call) c es) :
    ((pool S).run c es).Holds I P := by
  induction es generalizing c with
  | nil => exact hc
  | cons e es ih =>
    refine ih ?_ (fun e' he' => he e' (List.mem_cons_of_mem _ he')) hC.2
    exact pool_step_holds hI hc (he e List.mem_cons_self) hC.1

/-- An invariant kept by every call that is issued holds in every state of a pool. -/
theorem pool_preserves
    (hI : ∀ s (call : Call Op ι), (∃ site, P _ site call.op) ∨ D _ call.op → I s →
      I (S.act call.op call.input s).2) (hc : c.Holds I P) (he : ∀ e ∈ es, EventIssues P D e) :
    ((pool S).run c es).Holds I P :=
  pool_preserves_along (C := fun _ _ => True) (fun s call h _ => hI s call h) hc he
    (Machine.along_of_forall _ (fun _ _ _ _ => trivial) _ _)

end Pool

end Program
