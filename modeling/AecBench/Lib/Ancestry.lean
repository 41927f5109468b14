import Mathlib.Data.Set.Finite.Basic
import Mathlib.Order.WellFounded

/-!
# Chains of ancestors

A partial function gives every element at most one parent. Where no element is its own ancestor
and only finitely many have a parent, every chain of parents ends; and one more parent keeps it so
when the parent is neither the element itself nor one of its descendants.

## Main definitions

* `Ancestry.Descends` — one element leads to another by one or more parents.
* `Ancestry.Acyclic` — no element is its own ancestor.

## Main results

* `Ancestry.Acyclic.wellFounded` — the chains of parents end.
* `Ancestry.acyclic_update_iff` — when a new parent closes no cycle.
-/

namespace Ancestry

variable {α : Type} {parent : α → Option α} {a b c e : α}

/-- An element leads to another one by one or more parents. -/
def Descends (parent : α → Option α) : α → α → Prop :=
  Relation.TransGen fun a b => parent a = some b

/-- No element is its own ancestor. -/
def Acyclic (parent : α → Option α) : Prop := ∀ a, ¬ Descends parent a a

/-- **The chains of parents end**, where no element is its own ancestor and finitely many have a
parent. -/
theorem Acyclic.wellFounded (h : Acyclic parent) {known : List α}
    (hknown : ∀ a, parent a ≠ none → a ∈ known) :
    WellFounded fun b a => parent a = some b := by
  -- among the finitely many elements with a parent descent is a finite strict order
  let r : {a // a ∈ known} → {a // a ∈ known} → Prop := fun b a => Descends parent a b
  have hfinite : Finite {a // a ∈ known} := (List.finite_toSet known).to_subtype
  have htrans : IsTrans _ r := ⟨fun _ _ _ hab hbc => Relation.TransGen.trans hbc hab⟩
  have hirrefl : Std.Irrefl r := ⟨fun a => h a⟩
  have hwf : WellFounded r := Finite.wellFounded_of_trans_of_irrefl r
  have hacc : ∀ a : {a // a ∈ known}, Acc (fun b a => parent a = some b) a.1 := by
    intro a
    induction a using hwf.induction with
    | _ a ih =>
      refine Acc.intro _ fun b hb => ?_
      by_cases hroot : parent b = none
      · refine Acc.intro _ fun c hc => ?_
        rw [hroot] at hc
        cases hc
      · exact ih ⟨b, hknown b hroot⟩ (.single hb)
  refine ⟨fun a => Acc.intro _ fun b hb => ?_⟩
  by_cases hroot : parent b = none
  · refine Acc.intro _ fun c hc => ?_
    rw [hroot] at hc
    cases hc
  · exact hacc ⟨b, hknown b hroot⟩

section Update

variable [DecidableEq α] {p : Option α}

lemma update_of_ne_eq (h : a ≠ e) : Function.update parent e p a = parent a :=
  Function.update_of_ne h _ _

/-- What leads to `e` without a cycle leads to it whatever the parent of `e` is. -/
lemma Descends.update (h : Acyclic parent) (hab : Descends parent a e) (hne : a ≠ e) :
    Descends (Function.update parent e p) a e := by
  induction hab using Relation.TransGen.head_induction_on with
  | single hstep => exact .single (by rwa [update_of_ne_eq hne])
  | @head a c hstep hrest ih =>
    have hc : c ≠ e := by
      rintro rfl
      exact h c hrest
    exact .head (by rwa [update_of_ne_eq hne]) (ih hc)

/-- From an element that does not lead to `e` nothing leads through it. -/
lemma reaches_of_update (hb : b ≠ e) (hnot : ¬ Descends parent b e)
    (h : Relation.ReflTransGen (fun a b => Function.update parent e p a = some b) b c) :
    Relation.ReflTransGen (fun a b => parent a = some b) b c ∧ c ≠ e := by
  induction h with
  | refl => exact ⟨.refl, hb⟩
  | @tail c d _ hstep ih =>
    rw [update_of_ne_eq ih.2] at hstep
    refine ⟨ih.1.tail hstep, ?_⟩
    rintro rfl
    exact hnot (Relation.TransGen.tail' ih.1 hstep)

/-- What leads to an element after the update leads to it before, or by the new parent. -/
lemma descends_or_of_update (h : Descends (Function.update parent e p) a c) :
    Descends parent a c ∨ ∃ b, p = some b ∧
      Relation.ReflTransGen (fun a b => Function.update parent e p a = some b) a e ∧
        Relation.ReflTransGen (fun a b => Function.update parent e p a = some b) b c := by
  induction h with
  | @single c hstep =>
    by_cases ha : a = e
    · subst ha
      rw [Function.update_self] at hstep
      exact .inr ⟨c, hstep, .refl, .refl⟩
    · rw [update_of_ne_eq ha] at hstep
      exact .inl (.single hstep)
  | @tail c d hac hstep ih =>
    rcases ih with hold | ⟨b, hb, hae, hbc⟩
    · by_cases hc : c = e
      · subst hc
        have hnew := hstep
        rw [Function.update_self] at hnew
        exact .inr ⟨d, hnew, hac.to_reflTransGen, .refl⟩
      · rw [update_of_ne_eq hc] at hstep
        exact .inl (.tail hold hstep)
    · exact .inr ⟨b, hb, hae, hbc.tail hstep⟩

/-- **When a new parent closes no cycle**: it is neither the element itself nor a descendant. -/
theorem acyclic_update_iff (h : Acyclic parent) :
    Acyclic (Function.update parent e p) ↔ ∀ b, p = some b → b ≠ e ∧ ¬ Descends parent b e := by
  constructor
  · rintro hupdate b rfl
    have hself : Function.update parent e (some b) e = some b := Function.update_self ..
    refine ⟨?_, fun hdescends => ?_⟩
    · rintro rfl
      exact hupdate b (.single hself)
    · have hne : b ≠ e := by
        rintro rfl
        exact h b hdescends
      exact hupdate e (.head hself (hdescends.update h hne))
  · intro hnew a ha
    rcases descends_or_of_update ha with hold | ⟨b, hb, hae, hba⟩
    · exact h a hold
    · obtain ⟨hne, hnot⟩ := hnew b hb
      exact (reaches_of_update hne hnot (hba.trans hae)).2 rfl

end Update

end Ancestry
