import Mathlib.Tactic.Abel
import AecBench.Lib.Traces

/-!
# Thread pools

A thread pool runs a program for every item of a queue, at most a given number of them at a time.
Its workers are programs that take the next item, run its program and go on; their calls are
interleaved, and before each call the environment chooses who makes it.

## Main definitions

* `Program.par`, `Program.parAll` — programs interleaved call by call.
* `Program.worker`, `Program.threadPool` — a worker of a queue, and a pool of workers.
* `Program.Idle` — the steps of a pool that belong to no item.

## Main results

* `Program.threadPool_ends` — a trace of a pool is made of one trace of each item it ran.
-/

universe u

namespace Program

variable {Site : Type} {Op : Type → Type u} {ε α γ : Type}

/-! ## Interleaving -/

section Par

variable (site : Site) (pick : Op Bool)

/-- Interleave a call of the left program with the right one; `left` goes on after the call. -/
def parRight {β : Type} (op : Op β) (here : Site) (next : Except ε β → Program Site Op ε α)
    (left : Except ε β → Program Site Op ε γ →
      Program Site Op ε (Except ε α × Except ε γ)) :
    Program Site Op ε γ → Program Site Op ε (Except ε α × Except ε γ)
  | .done c => (Program.call here op next).result >>= fun a => .done (a, .ok c)
  | .fail e => (Program.call here op next).result >>= fun a => .done (a, .error e)
  | .call there op' next' =>
    .call site pick fun
      | .ok true => .call here op fun r => left r (.call there op' next')
      | _ => .call there op' fun r => parRight op here next left (next' r)

/-- Two programs interleaved call by call; before each call the environment chooses the program
that makes it. -/
def par : Program Site Op ε α → Program Site Op ε γ →
    Program Site Op ε (Except ε α × Except ε γ)
  | .done a, q => q.result >>= fun c => .done (.ok a, c)
  | .fail e, q => q.result >>= fun c => .done (.error e, c)
  | .call here op next, q => parRight site pick op here next (fun r => par (next r)) q

/-- Any number of programs interleaved; none of them stops the others by failing. -/
def parAll : List (Program Site Op ε α) → Program Site Op ε (List (Except ε α))
  | [] => .done []
  | p :: ps => par site pick p (parAll ps) >>= fun r => .done (r.1 :: r.2.toOption.getD [])

end Par

/-- The steps `zs` are those of `xs` and `ys`, each in their order, with choices between them. -/
inductive Interleaves (pick : Op Bool) :
    List (Step Op ε) → List (Step Op ε) → List (Step Op ε) → Prop
  | nil : Interleaves pick [] [] []
  | left {xs ys zs} (step : Step Op ε) (h : Interleaves pick xs ys zs) :
      Interleaves pick (step :: xs) ys (step :: zs)
  | right {xs ys zs} (step : Step Op ε) (h : Interleaves pick xs ys zs) :
      Interleaves pick xs (step :: ys) (step :: zs)
  | choice {xs ys zs} (r : Except ε Bool) (h : Interleaves pick xs ys zs) :
      Interleaves pick xs ys (⟨pick, r⟩ :: zs)

namespace Interleaves

variable {pick : Op Bool} {xs ys zs : List (Step Op ε)}

lemma left_nil : ∀ ys : List (Step Op ε), Interleaves pick [] ys ys
  | [] => .nil
  | step :: ys => .right step (left_nil ys)

lemma right_nil : ∀ xs : List (Step Op ε), Interleaves pick xs [] xs
  | [] => .nil
  | step :: xs => .left step (right_nil xs)

/-- Interleaved steps are the choices and the steps of both sides, in another order. -/
lemma perm (h : Interleaves pick xs ys zs) :
    ∃ choices : List (Except ε Bool), zs.Perm (choices.map (⟨pick, ·⟩) ++ (xs ++ ys)) := by
  induction h with
  | nil => exact ⟨[], .refl _⟩
  | @left xs ys zs step h ih =>
    obtain ⟨choices, ih⟩ := ih
    exact ⟨choices, (ih.cons step).trans (List.perm_middle.symm)⟩
  | @right xs ys zs step h ih =>
    obtain ⟨choices, ih⟩ := ih
    refine ⟨choices, (ih.cons step).trans ?_⟩
    rw [← List.append_assoc, ← List.append_assoc]
    exact List.perm_middle.symm
  | choice r h ih =>
    obtain ⟨choices, ih⟩ := ih
    exact ⟨r :: choices, ih.cons _⟩

end Interleaves

/-! ### The traces of interleaved programs -/

section Par

variable {site : Site} {pick : Op Bool}

variable {p : Program Site Op ε α}

lemma result_eq_leaf {r : Except ε (Except ε α)} (h : p.result = leaf r) :
    ∃ r', r = .ok r' ∧ p = leaf r' := by
  cases p with
  | done a => cases r <;> cases h; exact ⟨.ok a, rfl, rfl⟩
  | fail e => cases r <;> cases h; exact ⟨.error e, rfl, rfl⟩
  | call site op next => cases r <;> cases h

variable {tr : List (Step Op ε)}

/-- The traces of a program whose result is only packed. -/
lemma path_result_bind {f : Except ε α → γ} {w : Program Site Op ε γ}
    (h : (p.result >>= fun r => (.done (f r) : Program Site Op ε γ)).Path tr w) :
    ∃ p', p.Path tr p' ∧ ∀ r, w = leaf r → ∃ r', r = .ok (f r') ∧ p' = leaf r' := by
  rcases path_bind h with ⟨q, hq, rfl⟩ | ⟨r, t, t', rfl, ht, ht'⟩
  · obtain ⟨p', hp', rfl⟩ := path_result hq
    refine ⟨p', hp', fun r hr => ?_⟩
    cases p' with
    | done a => cases r <;> cases hr; exact ⟨.ok a, rfl, rfl⟩
    | fail e => cases r <;> cases hr; exact ⟨.error e, rfl, rfl⟩
    | call site op next => cases r <;> cases hr
  · obtain ⟨p', hp', hleaf⟩ := path_result ht
    obtain ⟨r', hr', rfl⟩ := result_eq_leaf hleaf.symm
    cases hr'
    cases t' with
    | cons step t' => exact ht'.elim
    | nil =>
      obtain rfl := path_nil.mp ht'
      refine ⟨leaf r, by rwa [List.append_nil], fun r₀ hr₀ => ⟨r, ?_, rfl⟩⟩
      cases r₀ <;> cases hr₀
      rfl

lemma path_bind_done {f : α → γ} {w : Program Site Op ε γ}
    (h : (p >>= fun a => (.done (f a) : Program Site Op ε γ)).Path tr w) :
    ∃ p', p.Path tr p' ∧ w = p' >>= fun a => .done (f a) := by
  rcases path_bind h with h | ⟨a, t, t', rfl, ht, ht'⟩
  · exact h
  · cases t' with
    | cons step t' => exact ht'.elim
    | nil =>
      obtain rfl := path_nil.mp ht'
      exact ⟨.done a, by rwa [List.append_nil], rfl⟩

/-- A sequence is still in its first part, or that has ended. -/
lemma path_bind_cases {f : α → Program Site Op ε γ} {w : Program Site Op ε γ}
    (h : (p >>= f).Path tr w) :
    (∃ p', p.Path tr p' ∧ w = p' >>= f ∧ ∀ a, p' ≠ .done a) ∨
      ∃ a t t', tr = t ++ t' ∧ p.Ends t (.ok a) ∧ (f a).Path t' w := by
  rcases path_bind h with ⟨p', hp', rfl⟩ | h
  · by_cases hdone : ∃ a, p' = .done a
    · obtain ⟨a, rfl⟩ := hdone
      exact .inr ⟨a, tr, [], by simp, hp', by simp⟩
    · exact .inl ⟨p', hp', rfl, fun a ha => hdone ⟨a, ha⟩⟩
  · exact .inr h

/-- The steps `tr` to `w` are interleaved steps of both programs, which end when `w` does. -/
def Splits (pick : Op Bool) (p : Program Site Op ε α) (q : Program Site Op ε γ)
    (tr : List (Step Op ε)) (w : Program Site Op ε (Except ε α × Except ε γ)) : Prop :=
  ∃ t t' p' q', p.Path t p' ∧ q.Path t' q' ∧ Interleaves pick t t' tr ∧
    ∀ r, w = leaf r → ∃ a c, r = .ok (a, c) ∧ p' = leaf a ∧ q' = leaf c

variable {q : Program Site Op ε γ} {w : Program Site Op ε (Except ε α × Except ε γ)}

lemma splits_nil (hw : ∀ r, w ≠ leaf r) : Splits pick p q [] w :=
  ⟨[], [], p, q, by simp, by simp, .nil, fun r hr => absurd hr (hw r)⟩

lemma splits_choice {r : Except ε Bool} (h : Splits pick p q tr w) :
    Splits pick p q (⟨pick, r⟩ :: tr) w := by
  obtain ⟨t, t', p', q', ht, ht', hmerge, hend⟩ := h
  exact ⟨t, t', p', q', ht, ht', .choice r hmerge, hend⟩

lemma parRight_path {β : Type} {op : Op β} {here : Site} {next : Except ε β → Program Site Op ε α}
    {left : Except ε β → Program Site Op ε γ → Program Site Op ε (Except ε α × Except ε γ)}
    (hleft : ∀ r q tr w, (left r q).Path tr w → Splits pick (next r) q tr w)
    (h : (parRight site pick op here next left q).Path tr w) :
    Splits pick (.call here op next) q tr w := by
  induction q generalizing tr with
  | done c =>
    obtain ⟨p', hp', hend⟩ := path_result_bind h
    refine ⟨tr, [], p', .done c, hp', by simp, .right_nil tr, fun r hr => ?_⟩
    obtain ⟨a, rfl, rfl⟩ := hend r hr
    exact ⟨a, .ok c, rfl, rfl, rfl⟩
  | fail e =>
    obtain ⟨p', hp', hend⟩ := path_result_bind h
    refine ⟨tr, [], p', .fail e, hp', by simp, .right_nil tr, fun r hr => ?_⟩
    obtain ⟨a, rfl, rfl⟩ := hend r hr
    exact ⟨a, .error e, rfl, rfl, rfl⟩
  | call there op' next' ih =>
    rw [parRight] at h
    cases tr with
    | nil =>
      obtain rfl := path_nil.mp h
      exact splits_nil fun r hr => by cases r <;> cases hr
    | cons step tr =>
      obtain ⟨choice, rfl, h⟩ := h
      refine splits_choice ?_
      -- After the choice, the chosen program makes its call.
      by_cases hchoice : choice = .ok true
      · subst hchoice
        cases tr with
        | nil =>
          obtain rfl := path_nil.mp h
          exact splits_nil fun r hr => by cases r <;> cases hr
        | cons step tr =>
          obtain ⟨r, rfl, h⟩ := h
          obtain ⟨t, t', p', q', ht, ht', hmerge, hend⟩ := hleft _ _ _ _ h
          exact ⟨_ :: t, t', p', q', ⟨r, rfl, ht⟩, ht', .left _ hmerge, hend⟩
      · have hright : (Program.call there op' fun r =>
            parRight site pick op here next left (next' r)).Path tr w := by
          revert h
          rcases choice with e | _ | _
          · exact id
          · exact id
          · exact absurd rfl hchoice
        cases tr with
        | nil =>
          obtain rfl := path_nil.mp hright
          exact splits_nil fun r hr => by cases r <;> cases hr
        | cons step tr =>
          obtain ⟨r, rfl, hrest⟩ := hright
          obtain ⟨t, t', p', q', ht, ht', hmerge, hend⟩ := ih _ hrest
          exact ⟨t, _ :: t', p', q', ht, ⟨r, rfl, ht'⟩, .right _ hmerge, hend⟩

/-- **The steps of an interleaving are interleaved steps of both programs.** -/
theorem par_path (h : (par site pick p q).Path tr w) : Splits pick p q tr w := by
  induction p generalizing q tr w with
  | done a =>
    obtain ⟨q', hq', hend⟩ := path_result_bind h
    refine ⟨[], tr, .done a, q', by simp, hq', .left_nil tr, fun r hr => ?_⟩
    obtain ⟨c, rfl, rfl⟩ := hend r hr
    exact ⟨.ok a, c, rfl, rfl, rfl⟩
  | fail e =>
    obtain ⟨q', hq', hend⟩ := path_result_bind h
    refine ⟨[], tr, .fail e, q', by simp, hq', .left_nil tr, fun r hr => ?_⟩
    obtain ⟨c, rfl, rfl⟩ := hend r hr
    exact ⟨.error e, c, rfl, rfl, rfl⟩
  | call here op next ih => exact parRight_path (fun r q tr w hw => ih r hw) h

/-- The parts of a trace of programs that are interleaved: one part of a trace of each. -/
lemma parAll_path {ps : List (Program Site Op ε α)} {w : Program Site Op ε (List (Except ε α))}
    (h : (parAll site pick ps).Path tr w) :
    ∃ (parts : List (List (Step Op ε) × Program Site Op ε α)) (choices : List (Except ε Bool)),
      List.Forall₂ (fun p part => p.Path part.1 part.2) ps parts ∧
        (tr : Multiset (Step Op ε)) =
          ((choices.map (⟨pick, ·⟩) : List (Step Op ε)) : Multiset (Step Op ε)) +
            (parts.flatMap Prod.fst : List (Step Op ε)) ∧
          ∀ r, w = leaf r → ∃ rs, r = .ok rs ∧ parts.map Prod.snd = rs.map leaf := by
  induction ps generalizing tr w with
  | nil =>
    cases tr with
    | cons step tr => exact h.elim
    | nil =>
      obtain rfl := path_nil.mp h
      refine ⟨[], [], .nil, by simp, fun r hr => ⟨[], ?_, rfl⟩⟩
      cases r <;> cases hr
      rfl
  | cons p ps ih =>
    obtain ⟨p', hp', rfl⟩ := path_bind_done h
    obtain ⟨t, t', q, q', ht, ht', hmerge, hend⟩ := par_path hp'
    obtain ⟨parts, choices, hparts, hsteps, hleaf⟩ := ih ht'
    obtain ⟨choices', hperm⟩ := hmerge.perm
    refine ⟨(t, q) :: parts, choices' ++ choices, .cons ht hparts, ?_, ?_⟩
    · rw [← Multiset.coe_eq_coe, ← Multiset.coe_add, ← Multiset.coe_add, hsteps] at hperm
      rw [hperm, List.map_append, ← Multiset.coe_add, List.flatMap_cons, ← Multiset.coe_add]
      abel
    · intro r hr
      obtain ⟨r', rfl⟩ : ∃ r', p' = .done r' := by
        cases p' with
        | done r' => exact ⟨r', rfl⟩
        | fail e =>
          obtain ⟨a, c, hac, -⟩ := hend (.error e) rfl
          cases hac
        | call site op next => cases r <;> cases hr
      obtain ⟨a, c, hac, rfl, rfl⟩ := hend (.ok r') rfl
      obtain rfl := Except.ok.inj hac
      obtain ⟨rs, rfl, hrs⟩ := hleaf c rfl
      refine ⟨a :: rs, ?_, by rw [List.map_cons, List.map_cons, hrs]⟩
      cases r <;> cases hr
      rfl

end Par

/-! ## Pools -/

section Pool

variable {ι : Type} (site : Site) (pick : Op Bool) (take : Op (Option ι))
  (item : ι → Program Site Op ε α)

/-- Take the next item, run its program and go on, until there is no item or no fuel. -/
def worker : ℕ → Program Site Op ε (List (ι × Except ε α))
  | 0 => .done []
  | fuel + 1 => .call site take fun
    | .ok (some i) =>
      (item i).result >>= fun r => worker fuel >>= fun rest => .done ((i, r) :: rest)
    | _ => .done []

/-- The results of the items, in the order in which the workers give them back. -/
def threadPool (workers fuel : ℕ) : Program Site Op ε (List (ι × Except ε α)) :=
  parAll site pick (List.replicate workers (worker site take item fuel)) >>= fun results =>
    .done (results.flatMap fun r => r.toOption.getD [])

/-- The step belongs to no item: a choice, or a look at a queue that has no item left. -/
def Idle (step : Step Op ε) : Prop :=
  (∃ r, step = ⟨pick, r⟩) ∨ ∃ r, step = ⟨take, r⟩ ∧ ∀ i, r ≠ .ok (some i)

/-- The steps are those of `finished` items, with their results, those of `running` items, one
step that takes each of these, and idle steps. -/
def Ran (steps : Multiset (Step Op ε)) (finished : List (ι × Except ε α)) (running : List ι) :
    Prop :=
  ∃ (ends paths : List (List (Step Op ε))) (idle : List (Step Op ε)),
    List.Forall₂ (fun f t => (item f.1).Ends t f.2) finished ends ∧
      List.Forall₂ (fun i t => ∃ p', (item i).Path t p') running paths ∧
        (∀ step ∈ idle, Idle pick take step) ∧
          steps = (idle : Multiset (Step Op ε)) + (ends.flatten : List (Step Op ε)) +
            (paths.flatten : List (Step Op ε)) +
              ((finished.map Prod.fst ++ running).map fun i => ⟨take, .ok (some i)⟩ :
                List (Step Op ε))

variable {pick take item}

lemma ran_zero : Ran pick take item 0 [] [] :=
  ⟨[], [], [], .nil, .nil, by simp, by simp⟩

lemma ran_idle {step : Step Op ε} (h : Idle pick take step) : Ran pick take item {step} [] [] :=
  ⟨[], [], [step], .nil, .nil, by simpa using h, by simp⟩

lemma ran_choices (choices : List (Except ε Bool)) :
    Ran pick take item (choices.map (⟨pick, ·⟩) : List (Step Op ε)) [] [] := by
  refine ⟨[], [], choices.map (⟨pick, ·⟩), .nil, .nil, ?_, by simp⟩
  intro step hstep
  obtain ⟨r, -, rfl⟩ := List.mem_map.mp hstep
  exact .inl ⟨r, rfl⟩

lemma ran_finished {i : ι} {t : List (Step Op ε)} {r : Except ε α} (h : (item i).Ends t r) :
    Ran pick take item ({⟨take, .ok (some i)⟩} + (t : Multiset (Step Op ε))) [(i, r)] [] :=
  ⟨[t], [], [], .cons h .nil, .nil, by simp, by simp [add_comm]⟩

lemma ran_running {i : ι} {t : List (Step Op ε)} {p' : Program Site Op ε α}
    (h : (item i).Path t p') :
    Ran pick take item ({⟨take, .ok (some i)⟩} + (t : Multiset (Step Op ε))) [] [i] :=
  ⟨[], [t], [], .nil, .cons ⟨p', h⟩ .nil, by simp, by simp [add_comm]⟩

variable {finished : List (ι × Except ε α)}

lemma Ran.add {s s' : Multiset (Step Op ε)} {finished' : List (ι × Except ε α)}
    {running running' : List ι} (h : Ran pick take item s finished running)
    (h' : Ran pick take item s' finished' running') :
    Ran pick take item (s + s') (finished ++ finished') (running ++ running') := by
  obtain ⟨ends, paths, idle, hends, hpaths, hidle, rfl⟩ := h
  obtain ⟨ends', paths', idle', hends', hpaths', hidle', rfl⟩ := h'
  refine ⟨ends ++ ends', paths ++ paths', idle ++ idle', List.rel_append hends hends',
    List.rel_append hpaths hpaths', ?_, ?_⟩
  · intro step hstep
    rcases List.mem_append.mp hstep with hstep | hstep
    · exact hidle step hstep
    · exact hidle' step hstep
  · simp only [List.map_append, List.flatten_append, ← Multiset.coe_add]
    abel

/-- The steps of a worker: those of finished items, and of at most one running item. -/
lemma worker_path {fuel : ℕ} {tr : List (Step Op ε)}
    {w : Program Site Op ε (List (ι × Except ε α))} (h : (worker site take item fuel).Path tr w) :
    ∃ finished running, Ran pick take item tr finished running ∧ running.length ≤ 1 ∧
      ∀ r, w = leaf r → running = [] ∧ r = .ok finished ∧
        (finished.length = fuel ∨ ∃ a, ⟨take, a⟩ ∈ tr ∧ ∀ i, a ≠ .ok (some i)) := by
  induction fuel generalizing tr w with
  | zero =>
    cases tr with
    | cons step tr => exact h.elim
    | nil =>
      obtain rfl := path_nil.mp h
      refine ⟨[], [], ran_zero, by simp, fun r hr => ⟨rfl, ?_, .inl rfl⟩⟩
      cases r <;> cases hr
      rfl
  | succ fuel ih =>
    cases tr with
    | nil =>
      obtain rfl := path_nil.mp h
      exact ⟨[], [], ran_zero, by simp, fun r hr => by cases r <;> cases hr⟩
    | cons step tr =>
      obtain ⟨a, rfl, h⟩ := h
      by_cases ha : ∀ i, a ≠ .ok (some i)
      · -- The queue has no item left: the worker ends.
        have hdone : (Program.done [] : Program Site Op ε (List (ι × Except ε α))).Path tr w := by
          revert h
          rcases a with e | _ | i
          · exact id
          · exact id
          · exact absurd rfl (ha i)
        cases tr with
        | cons step tr => exact hdone.elim
        | nil =>
          obtain rfl := path_nil.mp hdone
          refine ⟨[], [], ran_idle (.inr ⟨a, rfl, ha⟩), by simp, fun r hr => ⟨rfl, ?_, ?_⟩⟩
          · cases r <;> cases hr
            rfl
          · exact .inr ⟨a, List.mem_cons_self, ha⟩
      · obtain ⟨i, rfl⟩ : ∃ i, a = .ok (some i) := by
          by_contra hnone
          exact ha fun i hi => hnone ⟨i, hi⟩
        rcases path_bind_cases h with ⟨p', hp', rfl, hopen⟩ | ⟨r, t, t', rfl, ht, ht'⟩
        · -- The item is still running.
          obtain ⟨q, hq, rfl⟩ := path_result hp'
          refine ⟨[], [i], ran_running hq, by simp, fun r hr => ?_⟩
          cases q with
          | done b | fail e => exact absurd rfl (hopen _)
          | call site' op next => cases r <;> cases hr
        · -- The item has ended, and the worker went on.
          obtain ⟨r', hr', hitem⟩ := ends_result.mp ht
          cases hr'
          obtain ⟨q, hq, rfl⟩ := path_bind_done ht'
          obtain ⟨finished, running, hran, hone, hend⟩ := ih hq
          refine ⟨(i, r) :: finished, running, ?_, hone, fun r' hr' => ?_⟩
          · have hsum := (ran_finished hitem).add hran
            exact hsum
          · obtain ⟨rest, rfl⟩ : ∃ rest, q = leaf rest := by
              cases q with
              | done b => exact ⟨.ok b, rfl⟩
              | fail e => exact ⟨.error e, rfl⟩
              | call site' op next => cases r' <;> cases hr'
            obtain ⟨hrunning, rfl, hfuel⟩ := hend rest rfl
            refine ⟨hrunning, ?_, ?_⟩
            · cases r' <;> cases hr'
              rfl
            · rcases hfuel with hfuel | ⟨a, hmem, ha⟩
              · exact .inl (by rw [List.length_cons, hfuel])
              · exact .inr ⟨a, List.mem_cons_of_mem _ (List.mem_append_right _ hmem), ha⟩

/-- The parts of the workers together. -/
lemma workers_path {workers fuel : ℕ}
    {parts : List (List (Step Op ε) × Program Site Op ε (List (ι × Except ε α)))}
    (h : List.Forall₂ (fun p part => p.Path part.1 part.2)
      (List.replicate workers (worker site take item fuel)) parts) :
    ∃ finished running,
      Ran pick take item (parts.flatMap Prod.fst : List (Step Op ε)) finished running ∧
        running.length ≤ workers ∧
          ∀ rs : List (Except ε (List (ι × Except ε α))), parts.map Prod.snd = rs.map leaf →
            running = [] ∧ finished = rs.flatMap (fun r => r.toOption.getD []) ∧
              (0 < workers → fuel ≤ finished.length ∨
                ∃ a, ⟨take, a⟩ ∈ parts.flatMap Prod.fst ∧ ∀ i, a ≠ .ok (some i)) := by
  induction workers generalizing parts with
  | zero =>
    cases h
    refine ⟨[], [], ran_zero, by simp, fun rs hrs => ⟨rfl, ?_, fun h => absurd h (by simp)⟩⟩
    obtain rfl := List.map_eq_nil_iff.mp hrs.symm
    rfl
  | succ workers ih =>
    obtain ⟨part, parts, hpart, hparts, rfl⟩ := List.forall₂_cons_left_iff.mp h
    obtain ⟨finished, running, hran, hone, hend⟩ := worker_path site hpart
    obtain ⟨finished', running', hran', hlen, hend'⟩ := ih hparts
    refine ⟨finished ++ finished', running ++ running', ?_, ?_, fun rs hrs => ?_⟩
    · rw [List.flatMap_cons, ← Multiset.coe_add]
      exact hran.add hran'
    · rw [List.length_append]
      omega
    · obtain ⟨r, rest, rfl, hr, hrest⟩ := List.map_eq_cons_iff.mp hrs.symm
      obtain ⟨rfl, rfl, hfuel⟩ := hend r hr.symm
      obtain ⟨rfl, rfl, -⟩ := hend' rest hrest.symm
      refine ⟨rfl, rfl, fun _ => ?_⟩
      rcases hfuel with hfuel | ⟨a, hmem, ha⟩
      · exact .inl (by rw [List.length_append]; omega)
      · exact .inr ⟨a, by rw [List.flatMap_cons]; exact List.mem_append_left _ hmem, ha⟩

/-- **A trace of a pool is made of one trace of each item it ran**, with the results it gives
back; it ran as many items as its fuel allows unless it saw the queue without items. -/
theorem threadPool_ends {workers fuel : ℕ} (hworkers : 0 < workers) {tr : List (Step Op ε)}
    {r : Except ε (List (ι × Except ε α))}
    (h : (threadPool site pick take item workers fuel).Ends tr r) :
    ∃ finished, r = .ok finished ∧ Ran pick take item tr finished [] ∧
      (fuel ≤ finished.length ∨ ∃ a, ⟨take, a⟩ ∈ tr ∧ ∀ i, a ≠ .ok (some i)) := by
  obtain ⟨p', hp', hleaf⟩ := path_bind_done h
  obtain ⟨parts, choices, hparts, hsteps, hend⟩ := parAll_path hp'
  obtain ⟨finished, running, hran, hlen, hfinished⟩ := workers_path site hparts
  obtain ⟨rs', rfl⟩ : ∃ rs', p' = leaf rs' := by
    cases p' with
    | done a => exact ⟨.ok a, rfl⟩
    | fail e => exact ⟨.error e, rfl⟩
    | call site' op next => cases r <;> cases hleaf
  obtain ⟨rs, rfl, hrs⟩ := hend rs' rfl
  obtain ⟨rfl, rfl, hfuel⟩ := hfinished rs hrs
  refine ⟨rs.flatMap fun r => r.toOption.getD [], ?_, ?_, ?_⟩
  · cases r <;> cases hleaf
    rfl
  · rw [hsteps]
    exact (ran_choices choices).add hran
  · rcases hfuel hworkers with hfuel | ⟨a, hmem, ha⟩
    · exact .inl hfuel
    · refine .inr ⟨a, ?_, ha⟩
      rw [← Multiset.mem_coe, hsteps]
      exact Multiset.mem_add.mpr (.inr (Multiset.mem_coe.mpr hmem))

/-- What the steps of a pool add up to, when idle steps count nothing. -/
lemma Ran.exists_tally {M : Type} [AddCommMonoid M] (f : Step Op ε → M)
    {steps : Multiset (Step Op ε)} {running : List ι}
    (h : Ran pick take item steps finished running)
    (hidle : ∀ step, Idle pick take step → f step = 0) :
    ∃ ends paths : List (List (Step Op ε)),
      List.Forall₂ (fun f t => (item f.1).Ends t f.2) finished ends ∧
        List.Forall₂ (fun i t => ∃ p', (item i).Path t p') running paths ∧
          (∀ t ∈ ends ++ paths, ∀ step ∈ t, step ∈ steps) ∧
            tally f steps = (ends.map fun t : List (Step Op ε) => tally f t).sum +
              (paths.map fun t : List (Step Op ε) => tally f t).sum +
                ((finished.map Prod.fst ++ running).map fun i => f ⟨take, .ok (some i)⟩).sum := by
  obtain ⟨ends, paths, idle, hends, hpaths, hzero, rfl⟩ := h
  refine ⟨ends, paths, hends, hpaths, fun t ht step hstep => ?_, ?_⟩
  · have hin : step ∈ ends.flatten ∨ step ∈ paths.flatten := by
      rcases List.mem_append.mp ht with ht | ht
      · exact .inl (List.mem_flatten.mpr ⟨t, ht, hstep⟩)
      · exact .inr (List.mem_flatten.mpr ⟨t, ht, hstep⟩)
    simp only [Multiset.mem_add, Multiset.mem_coe]
    rcases hin with hin | hin
    · exact .inl (.inl (.inr hin))
    · exact .inl (.inr hin)
  · have htakes : ∀ is : List ι, tally f ((is.map fun i => ⟨take, .ok (some i)⟩ :
        List (Step Op ε)) : Multiset (Step Op ε)) =
          (is.map fun i => f ⟨take, .ok (some i)⟩).sum := by
      intro is
      simp [tally, Function.comp_def]
    rw [tally_add, tally_add, tally_add, tally_flatten, tally_flatten, htakes,
      tally_eq_zero f fun step hstep => hidle step (hzero step (Multiset.mem_coe.mp hstep)),
      zero_add]

/-- What is related to a member of the second list is a member of the first. -/
lemma exists_of_forall₂_right {A B : Type*} {R : A → B → Prop} {xs : List A} {ys : List B}
    (h : List.Forall₂ R xs ys) : ∀ y ∈ ys, ∃ x ∈ xs, R x y := by
  induction h with
  | nil => simp
  | cons hxy _ ih =>
    intro y hy
    rcases List.mem_cons.mp hy with rfl | hy
    · exact ⟨_, List.mem_cons_self, hxy⟩
    · obtain ⟨x, hx, hR⟩ := ih y hy
      exact ⟨x, List.mem_cons_of_mem _ hx, hR⟩

/-- Each finished item with its trace. -/
lemma exists_items {ends : List (List (Step Op ε))}
    (h : List.Forall₂ (fun f t => (item f.1).Ends t f.2) finished ends) :
    ∃ items : List (List (Step Op ε) × Except ε α), items.map Prod.fst = ends ∧
      List.Forall₂ (fun i x => (item i).Ends x.1 x.2 ∧ (i, x.2) ∈ finished)
        (finished.map Prod.fst) items := by
  induction h with
  | nil => exact ⟨[], rfl, .nil⟩
  | @cons f t finished ends hft _ ih =>
    obtain ⟨items, rfl, hitems⟩ := ih
    refine ⟨(t, f.2) :: items, rfl, .cons ⟨hft, List.mem_cons_self⟩ ?_⟩
    exact hitems.imp fun i x hx => ⟨hx.1, List.mem_cons_of_mem _ hx.2⟩

/-- **The items of a pool with their traces**, in any order of the items; the other steps of the
pool choose and take. -/
theorem Ran.items {steps : Multiset (Step Op ε)} {order : List ι}
    (h : Ran pick take item steps finished []) (hperm : order.Perm (finished.map Prod.fst)) :
    ∃ items : List (List (Step Op ε) × Except ε α),
      List.Forall₂ (fun i x => (item i).Ends x.1 x.2 ∧ (i, x.2) ∈ finished) order items ∧
        ∃ idle : Multiset (Step Op ε), steps = idle + (items.flatMap Prod.fst : List (Step Op ε)) ∧
          ∀ step ∈ idle, (∃ r, step = ⟨pick, r⟩) ∨ ∃ r, step = ⟨take, r⟩ := by
  obtain ⟨ends, paths, idle, hends, hpaths, hidle, rfl⟩ := h
  obtain rfl := List.forall₂_nil_left_iff.mp hpaths
  obtain ⟨items', rfl, hitems'⟩ := exists_items hends
  obtain ⟨items, hitems, hsame⟩ := List.perm_comp_forall₂ hperm hitems'
  have hsteps : ((items'.map Prod.fst).flatten : Multiset (Step Op ε)) =
      (items.flatMap Prod.fst : List (Step Op ε)) := by
    exact Multiset.coe_eq_coe.mpr (hsame.symm.flatMap_right _)
  refine ⟨items, hitems, (idle : Multiset (Step Op ε)) +
    (((finished.map Prod.fst ++ []).map fun i => ⟨take, .ok (some i)⟩ : List (Step Op ε)) :
      Multiset (Step Op ε)), ?_, ?_⟩
  · rw [hsteps, List.flatten_nil, Multiset.coe_nil]
    abel
  · intro step hstep
    rcases Multiset.mem_add.mp hstep with hstep | hstep
    · rcases hidle step hstep with hpick | ⟨r, hr, -⟩
      · exact .inl hpick
      · exact .inr ⟨r, hr⟩
    · obtain ⟨i, -, rfl⟩ := List.mem_map.mp (Multiset.mem_coe.mp hstep)
      exact .inr ⟨_, rfl⟩

end Pool

end Program
