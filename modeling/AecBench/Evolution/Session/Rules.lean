import AecBench.Evolution.Session.Run

/-!
# Rules for the methods of a session

The triples of the basic methods of a session, from which those of its other methods are put
together, and the rules for invariants.

## Main definitions

* `Spec` — from every world in `P`, the method ends with a value in `Q` or an error in `E`.
* `Keeps` — the method keeps an invariant, however it ends.

## Main results

* `Spec.bind`, `Spec.getSession`, `Spec.replaceState`, `Spec.tryCatch` — the rules of triples.
* `Keeps.bind`, `Keeps.result`, `Keeps.forEach` — those of invariants.
* `Spec.exec` — what a triple says of a run with given answers of the environment.
-/

namespace AecBench.Evolution.Session

open Validation

variable {α β : Type} {P P' I : World → Prop} {E E' : Err → World → Prop}

/-- From every world in `P` the method ends with a value and a world in `Q`, or raises an error
and leaves a world in `E`. -/
abbrev Spec (P : World → Prop) (m : Method α) (Q : α → World → Prop) (E : Err → World → Prop) :
    Prop :=
  Program.Triple semantics Eq (fun _ _ _ => True) P m Q E

/-- The method keeps `I`, however it ends. -/
abbrev Keeps (I : World → Prop) (m : Method α) : Prop := Spec I m (fun _ => I) fun _ => I

/-! ## Triples -/

variable {Q : α → World → Prop}

lemma Spec.pure {a : α} (h : ∀ w, P w → Q a w) :
    Spec P (pure a : Method α) Q E := Program.Triple.done h

lemma Spec.fail {e : Err} (h : ∀ w, P w → E e w) :
    Spec P (.fail e : Method α) Q E := Program.Triple.fail h

variable {m : Method α}

lemma Spec.bind {Q' : β → World → Prop} {f : α → Method β} (hm : Spec P m Q E)
    (hf : ∀ a, Spec (Q a) (f a) Q' E) : Spec P (m >>= f) Q' E := Program.Triple.bind hm hf

lemma Spec.mono {Q' : α → World → Prop} (h : Spec P m Q E) (hP : ∀ w, P' w → P w)
    (hQ : ∀ a w, Q a w → Q' a w) (hE : ∀ e w, E e w → E' e w) :
    Spec P' m Q' E' := Program.Triple.mono h hP hQ hE

lemma Spec.pre (h : Spec P m Q E) (hP : ∀ w, P' w → P w) :
    Spec P' m Q E := h.mono hP (fun _ _ hq => hq) fun _ _ he => he

lemma Spec.or (h : Spec P m Q E) (h' : Spec P' m Q E) :
    Spec (fun w => P w ∨ P' w) m Q E := Program.Triple.or h h'

lemma Spec.ofPure {c : Prop} (h : c → Spec P m Q E) :
    Spec (fun w => c ∧ P w) m Q E := Program.Triple.of_pure h

lemma Spec.ite {c : Prop} [Decidable c] {m' : Method α} (ht : c → Spec P m Q E)
    (he : ¬ c → Spec P m' Q E) : Spec P (if c then m else m') Q E := by
  by_cases hc : c
  · rw [if_pos hc]
    exact ht hc
  · rw [if_neg hc]
    exact he hc

lemma Spec.perform {op : Op β} {Q : β → World → Prop}
    (h : ∀ w reply, P w → ∃ b, (act op reply w).1 = .ok b ∧ Q b (act op reply w).2) :
    Spec P (Program.perform () op) Q E := by
  refine Program.Triple.perform_ok (fun s s' hs hp => hs ▸ hp) fun w reply hw _ => ?_
  obtain ⟨b, hb, hQ⟩ := h w reply hw
  exact ⟨b, (act op reply w).2, Prod.ext hb rfl, hQ⟩

lemma Spec.performRaising {op : Op β} {Q : β → World → Prop}
    (hok : ∀ w reply b, P w → (act op reply w).1 = .ok b → Q b (act op reply w).2)
    (herror : ∀ w reply e, P w → (act op reply w).1 = .error e → E e (act op reply w).2) :
    Spec P (Program.perform () op) Q E := by
  refine Program.Triple.perform (fun s s' hs hp => hs ▸ hp) fun w reply hw _ => ?_
  have hsem : semantics.act op reply w = act op reply w := rfl
  have hok := hok w reply
  have herror := herror w reply
  rw [hsem]
  generalize act op reply w = outcome at hok herror ⊢
  obtain ⟨e | b, w'⟩ := outcome
  · exact herror e hw rfl
  · exact hok b hw rfl

variable {f : AVOSession → Method β}

lemma Spec.getSession {Q : β → World → Prop}
    (h : ∀ session, Spec (fun w => w.session = session ∧ P w) (f session) Q E) :
    Spec P (getSession >>= f) Q E := by
  refine Spec.bind (Q := fun session w => w.session = session ∧ P w) ?_ h
  exact Spec.perform fun w _ hw => ⟨w.session, rfl, rfl, hw⟩

lemma Spec.updateAttributes {Q : Unit → World → Prop} {f : Attributes → Attributes}
    (h : ∀ w, P w → Q () (w.update f)) : Spec P (updateAttributes f) Q E :=
  Spec.perform fun w _ hw => ⟨(), rfl, h w hw⟩

lemma Spec.assign {Q : Unit → World → Prop} {state : AVOState}
    (h : ∀ w, P w → Q () (w.assign state)) : Spec P (Program.perform () (.assign state)) Q E :=
  Spec.perform fun w _ hw => ⟨(), rfl, h w hw⟩

lemma Spec.ofExcept {x : Except String α} (hok : ∀ a w, x = .ok a → P w → Q a w)
    (herror : ∀ message w, P w → E (.invalid message) w) : Spec P (ofExcept x) Q E := by
  cases hx : x with
  | ok a => exact Spec.pure fun w hw => hok a w hx hw
  | error message => exact Spec.fail fun w hw => herror message w hw

lemma Spec.replaceState {Q : Unit → World → Prop} {f : AVOState → AVOState}
    (h : ∀ w, P w → (f w.state).Valid → Q () (w.assign (f w.state)))
    (herror : ∀ message w, P w → E (.invalid message) w) : Spec P (replaceState f) Q E := by
  refine Spec.getSession fun session => ?_
  refine Spec.bind (Q := fun _ w => (f session.state).Valid ∧ w.session = session ∧ P w) ?_
    fun _ => Spec.assign fun w hw => ?_
  · refine Spec.ofExcept (fun _ w hcheck hw => ⟨AVOState.check_eq_ok.mp hcheck, hw⟩)
      fun message w hw => herror message w hw.2
  · obtain ⟨hvalid, rfl, hw⟩ := hw
    exact h w hw hvalid

variable {Q' : Except Err α → World → Prop}

lemma Spec.result (h : Spec P m Q E') (hok : ∀ a w, Q a w → Q' (.ok a) w)
    (herror : ∀ e w, E' e w → Q' (.error e) w) : Spec P m.result Q' E :=
  Program.Triple.result h hok herror

variable {handler : Err → Method α}

lemma Spec.tryCatch (h : Spec P m Q E') (hhandler : ∀ e, Spec (E' e) (handler e) Q E) :
    Spec P (tryCatch m handler) Q E := by
  refine Spec.bind (Q := fun r w => (∀ a, r = .ok a → Q a w) ∧ ∀ e, r = .error e → E' e w)
    (Spec.result h (fun a w hq => ⟨?_, ?_⟩) fun e w he => ⟨?_, ?_⟩) fun r => ?_
  · rintro b ⟨⟩; exact hq
  · rintro e ⟨⟩
  · rintro b ⟨⟩
  · rintro e' ⟨⟩; exact he
  · cases r with
    | ok a => exact Spec.pure fun w hw => hw.1 a rfl
    | error e => exact (hhandler e).pre fun w hw => hw.2 e rfl

lemma Spec.tryFinally {cleanup : Method Unit}
    (h : Spec P m (fun a => Q' (.ok a)) fun e => Q' (.error e))
    (hcleanup : ∀ r, Spec (Q' r) cleanup
      (fun _ w => (∀ a, r = .ok a → Q a w) ∧ ∀ e, r = .error e → E e w) E) :
    Spec P (tryFinally m cleanup) Q E := by
  refine Spec.bind (Q := Q') (Spec.result h (fun _ _ hq => hq) fun _ _ he => he) fun r => ?_
  refine (hcleanup r).bind fun _ => ?_
  cases r with
  | ok a => exact Spec.pure fun w hw => hw.1 a rfl
  | error e => exact Spec.fail fun w hw => hw.2 e rfl

lemma Spec.forEach {body : α → Method Unit} {xs : List α}
    (h : ∀ x ∈ xs, Spec P (body x) (fun _ => P) E) :
    Spec P (forEach body xs) (fun _ => P) E := by
  induction xs with
  | nil => exact Spec.pure fun _ hw => hw
  | cons x xs ih =>
    refine Spec.bind (h x List.mem_cons_self) fun _ => ?_
    exact ih fun y hy => h y (List.mem_cons_of_mem _ hy)

/-! ## Invariants -/

lemma Keeps.pure {a : α} : Keeps I (pure a : Method α) := Spec.pure fun _ hw => hw

lemma Keeps.fail {e : Err} : Keeps I (.fail e : Method α) := Spec.fail fun _ hw => hw

lemma Keeps.bind {f : α → Method β} (hm : Keeps I m) (hf : ∀ a, Keeps I (f a)) :
    Keeps I (m >>= f) := Spec.bind hm hf

lemma Keeps.ite {c : Prop} [Decidable c] {m' : Method α} (ht : Keeps I m) (he : Keeps I m') :
    Keeps I (if c then m else m') := Spec.ite (fun _ => ht) fun _ => he

lemma Keeps.getSession (h : ∀ session, Keeps I (f session)) : Keeps I (getSession >>= f) :=
  Spec.getSession fun session => (h session).pre fun _ hw => hw.2

lemma Keeps.ofExcept {x : Except String α} : Keeps I (ofExcept x) :=
  Spec.ofExcept (fun _ _ _ hw => hw) fun _ _ hw => hw

lemma Keeps.result (h : Keeps I m) : Keeps I m.result :=
  Spec.result h (fun _ _ hw => hw) fun _ _ hw => hw

lemma Keeps.tryCatch (h : Keeps I m) (hhandler : ∀ e, Keeps I (handler e)) :
    Keeps I (tryCatch m handler) :=
  Spec.tryCatch h hhandler

lemma Keeps.tryFinally {cleanup : Method Unit} (h : Keeps I m) (hcleanup : Keeps I cleanup) :
    Keeps I (tryFinally m cleanup) := by
  have hboth : ∀ r : Except Err α, Spec I cleanup
      (fun _ w => (∀ a, r = .ok a → I w) ∧ ∀ e, r = .error e → I w) fun _ => I :=
    fun _ => hcleanup.mono (fun _ hw => hw) (fun _ _ hw => ⟨fun _ _ => hw, fun _ _ => hw⟩)
      fun _ _ hw => hw
  exact Spec.tryFinally h hboth

lemma Keeps.forEach {body : α → Method Unit} {xs : List α} (h : ∀ x, Keeps I (body x)) :
    Keeps I (forEach body xs) := Spec.forEach fun x _ => h x

/-! ## Runs -/

/-- What a triple says of a run. -/
theorem Spec.exec (h : Spec P m Q E) (replies : ℕ → Reply) (n : ℕ) {w : World} (hw : P w) :
    (∀ a, (m.exec semantics (environment replies) n w).1 = .ok a →
        Q a (m.exec semantics (environment replies) n w).2.1) ∧
      ∀ e, (m.exec semantics (environment replies) n w).1 = .error e →
        E e (m.exec semantics (environment replies) n w).2.1 := by
  have hcalls : m.AlongCalls semantics (fun _ _ _ => True) (environment replies) n w :=
    Program.alongCalls_of_forall (fun _ _ _ => trivial) _ n m w
  have hrun := Program.Triple.exec h (fun _ _ => rfl) hw hcalls
  revert hrun
  obtain ⟨e | a, w', n'⟩ := m.exec semantics (environment replies) n w
  · exact fun he => ⟨fun b hb => (by cases hb), fun e hb => (by cases hb; exact he)⟩
  · exact fun hq => ⟨fun b hb => (by cases hb; exact hq), fun e hb => (by cases hb)⟩

end AecBench.Evolution.Session
