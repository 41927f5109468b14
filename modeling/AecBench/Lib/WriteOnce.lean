import AecBench.Lib.Interleaving
import AecBench.Lib.Table
import AecBench.Lib.Validation

/-!
# Write-once stores

A store of entries that say themselves at which path they belong. An entry is published once: a
second publication of the same entry finds it there, and another entry at its path is refused.
Calls read the store, plan the entries that they publish, and publish them one after another; they
run in any order, and each can end between any two of its steps.

## Main definitions

* `WriteOnce.publish` — one publication; `WriteOnce.Extends` — what publications do to a store.
* `WriteOnce.calls` — the calls; `WriteOnce.perform` — a call that nothing interrupts.
* `WriteOnce.Asserts` — what the store holds of a call, by the place of the call.
* `WriteOnce.without` — the store without what one call has left.

## Main results

* `WriteOnce.run_extends` — what is found stays.
* `WriteOnce.run_asserts` — the store of every run: paths are distinct, and every entry was planned.
* `WriteOnce.perform_of_without`, `WriteOnce.perform_again` — what a call has left does not stand
  in the way of a call that it does not contradict, and not in the way of the same call.
-/

namespace WriteOnce

open Validation

section Entries

variable {E P : Type} [DecidableEq P] (path : E → P)

/-- What is found in the first store is found in the second. -/
def Extends (es es' : List E) : Prop :=
  ∀ p e, Table.lookup path p es = some e → Table.lookup path p es' = some e

variable {path} {e : E} {es es' : List E}

lemma Extends.refl (es : List E) : Extends path es es := fun _ _ h => h

lemma Extends.trans {es'' : List E} (h : Extends path es es') (h' : Extends path es' es'') :
    Extends path es es'' := fun p e he => h' p e (h p e he)

lemma extends_append (es new : List E) : Extends path es (es ++ new) := by
  intro p e h
  rw [Table.lookup, List.find?_append]
  rw [Table.lookup] at h
  rw [h, Option.some_or]

/-- A part of a store with distinct paths is extended by the store. -/
lemma extends_of_subset (h : es ⊆ es') (hes' : Table.Keyed path es') : Extends path es es' := by
  intro p e he
  obtain ⟨hmem, rfl⟩ := Table.mem_of_lookup he
  exact hes'.lookup_of_mem (h hmem)

/-- A store with distinct paths is no longer than what extends it. -/
lemma Extends.length_le (h : Extends path es es') (hes : Table.Keyed path es) :
    es.length ≤ es'.length := by
  have hsub : es ⊆ es' := fun e he => (Table.mem_of_lookup (h _ e (hes.lookup_of_mem he))).1
  exact (List.Nodup.of_map _ hes).length_le_of_subset hsub

variable [DecidableEq E] (path)

/-- The store after an entry is published; nothing when another entry is at its path. -/
def publish (e : E) (es : List E) : Option (List E) :=
  match Table.lookup path (path e) es with
  | none => some (es ++ [e])
  | some e' => if e' = e then some es else none

variable {path}

variable (h : publish path e es = some es')
include h

/-- A publication that succeeds leaves the entry at its path. -/
lemma publish_eq_some :
    (es' = es ∧ Table.lookup path (path e) es = some e) ∨
      (es' = es ++ [e] ∧ Table.lookup path (path e) es = none) := by
  unfold publish at h
  split at h
  next hnone => exact .inr ⟨(Option.some.inj h).symm, hnone⟩
  next e' hsome =>
    split_ifs at h with heq
    exact .inl ⟨(Option.some.inj h).symm, heq ▸ hsome⟩

lemma publish_extends : Extends path es es' := by
  obtain ⟨rfl, -⟩ | ⟨rfl, -⟩ := publish_eq_some h
  · exact Extends.refl _
  · exact extends_append _ _

lemma publish_found : Table.lookup path (path e) es' = some e := by
  obtain ⟨rfl, hfound⟩ | ⟨rfl, hnone⟩ := publish_eq_some h
  · exact hfound
  · rw [Table.lookup, List.find?_append]
    rw [Table.lookup] at hnone
    simp [hnone]

lemma publish_keyed (hes : Table.Keyed path es) : Table.Keyed path es' := by
  obtain ⟨rfl, -⟩ | ⟨rfl, hnone⟩ := publish_eq_some h
  · exact hes
  · rw [Table.lookup_eq_none_iff] at hnone
    rw [Table.Keyed, List.map_append, List.nodup_append]
    refine ⟨hes, List.nodup_singleton _, ?_⟩
    intro a ha b hb
    obtain ⟨r, hr, rfl⟩ := List.mem_map.mp ha
    rw [List.map_singleton, List.mem_singleton] at hb
    exact hb ▸ hnone r hr

omit h

/-- A publication is refused exactly by another entry at the path. -/
lemma publish_eq_none :
    publish path e es = none ↔ ∃ e', Table.lookup path (path e) es = some e' ∧ e' ≠ e := by
  unfold publish
  cases Table.lookup path (path e) es with
  | none => simp
  | some e' => by_cases h : e' = e <;> simp [h]

end Entries

/-! ## Calls -/

/-- Where a call is. -/
inductive Place (E ε α : Type)
  | ready
  /-- The call has read the store and publishes what remains. -/
  | publishing (rest : List E) (result : α)
  | returned (result : α)
  | refused (error : ε)
  /-- The process has ended, or a system call has raised. -/
  | halted

inductive Event
  | proceed
  | halt
  deriving DecidableEq

/-- An entry, with the call that has published it first. -/
structure Row (ι E : Type) where
  owner : ι
  entry : E

section Calls

variable {ι E P Q ε α : Type} [DecidableEq E] [DecidableEq P] (path : E → P)
  (plan : Q → List E → Except ε (List E × α)) (collision : E → ε) (request : ι → Q)

def entries (rows : List (Row ι E)) : List E := rows.map Row.entry

/-- A publication by a call. -/
def publishBy (i : ι) (e : E) (rows : List (Row ι E)) : Option (List (Row ι E)) :=
  match Table.lookup path (path e) (entries rows) with
  | none => some (rows ++ [⟨i, e⟩])
  | some e' => if e' = e then some rows else none

/-- A step of a call. -/
def step (i : ι) (rows : List (Row ι E)) : Place E ε α → Event → List (Row ι E) × Place E ε α
  | .ready, .proceed =>
    match plan (request i) (entries rows) with
    | .ok (new, result) => (rows, .publishing new result)
    | .error error => (rows, .refused error)
  | .publishing rest result, .proceed =>
    match rest with
    | [] => (rows, .returned result)
    | e :: rest =>
      match publishBy path i e rows with
      | some rows' => (rows', .publishing rest result)
      | none => (rows, .refused (collision e))
  | .ready, .halt => (rows, .halted)
  | .publishing _ _, .halt => (rows, .halted)
  | place, _ => (rows, place)

def calls : Interleaving ι (List (Row ι E)) (Place E ε α) Event :=
  ⟨step path plan collision request⟩

/-- Nothing is published, and no call has begun. -/
def unpublished : Interleaving.Config ι (List (Row ι E)) (Place E ε α) := ⟨[], fun _ => .ready⟩

/-- The publications of a call, one after another. -/
def publishAll : List E → List E → Except ε (List E)
  | [], es => .ok es
  | e :: new, es =>
    match publish path e es with
    | some es' => publishAll new es'
    | none => .error (collision e)

/-- A call that nothing interrupts: what it returns, and the store that it leaves. -/
def perform (q : Q) (es : List E) : Except ε (α × List E) := do
  let planned ← plan q es
  let es' ← publishAll path collision planned.1 es
  pure (planned.2, es')

/-- The store without what a call has published. -/
def without [DecidableEq ι] (i : ι) (rows : List (Row ι E)) : List (Row ι E) :=
  rows.filter fun row => row.owner ≠ i

/-! ### What the store holds of a call -/

/-- The call has read a store that the present one extends, and plans these entries. -/
def Planned (admitted : Q → List E → Prop) (q : Q) (rows : List (Row ι E)) (new : List E)
    (result : α) : Prop :=
  ∃ es, Table.Keyed path es ∧ Extends path es (entries rows) ∧ admitted q es ∧
    plan q es = .ok (new, result)

/-- These entries of a call are in the store, and nothing else is there that it has published. -/
def Published (i : ι) (rows : List (Row ι E)) (done : List E) : Prop :=
  (∀ row ∈ rows, row.owner = i → row.entry ∈ done) ∧
    ∀ e ∈ done, Table.lookup path (path e) (entries rows) = some e

/-- What the store holds of a call at a place. -/
def Asserts (admitted : Q → List E → Prop) (i : ι) (rows : List (Row ι E)) :
    Place E ε α → Prop
  | .ready => Published path i rows []
  | .publishing rest result => ∃ done,
    Planned path plan admitted (request i) rows (done ++ rest) result ∧ Published path i rows done
  | .returned result => ∃ new,
    Planned path plan admitted (request i) rows new result ∧ Published path i rows new
  | .refused _ => Published path i rows [] ∨ ∃ done e rest result e',
    Planned path plan admitted (request i) rows (done ++ e :: rest) result ∧
      Published path i rows done ∧ Table.lookup path (path e) (entries rows) = some e' ∧ e' ≠ e
  | .halted => Published path i rows [] ∨ ∃ done rest result,
    Planned path plan admitted (request i) rows (done ++ rest) result ∧ Published path i rows done

end Calls

section Runs

variable {ι E P Q ε α : Type} [DecidableEq E] [DecidableEq P] {path : E → P}
  {plan : Q → List E → Except ε (List E × α)} {collision : E → ε} {request : ι → Q}
  {admitted : Q → List E → Prop} {i j : ι} {rows rows' : List (Row ι E)} {e : E}

/-- A publication by a call is a publication, and adds rows of the call only. -/
lemma publishBy_eq_some (h : publishBy path i e rows = some rows') :
    publish path e (entries rows) = some (entries rows') ∧
      (rows' = rows ∨ rows' = rows ++ [⟨i, e⟩]) := by
  unfold publishBy at h
  unfold publish
  split at h
  next hnone =>
    obtain rfl := Option.some.inj h
    simp [entries]
  next e' hsome =>
    split_ifs at h with heq
    obtain rfl := Option.some.inj h
    simp [heq]

lemma publishBy_eq_none :
    publishBy path i e rows = none ↔
      ∃ e', Table.lookup path (path e) (entries rows) = some e' ∧ e' ≠ e := by
  unfold publishBy
  cases Table.lookup path (path e) (entries rows) with
  | none => simp
  | some e' => by_cases h : e' = e <;> simp [h]

omit [DecidableEq E] in
lemma Planned.extends {q : Q} {new : List E} {result : α}
    (h : Planned path plan admitted q rows new result)
    (hrows : Extends path (entries rows) (entries rows')) :
    Planned path plan admitted q rows' new result := by
  obtain ⟨es, hkeyed, hes, hadmitted, hplan⟩ := h
  exact ⟨es, hkeyed, hes.trans hrows, hadmitted, hplan⟩

/-- A publication by another call leaves what a call has published. -/
lemma Published.of_other {done : List E} (h : Published path j rows done) (hij : i ≠ j)
    (hpublish : publishBy path i e rows = some rows') : Published path j rows' done := by
  obtain ⟨hpublished, hrows⟩ := publishBy_eq_some hpublish
  constructor
  · intro row hrow howner
    rcases hrows with rfl | rfl
    · exact h.1 row hrow howner
    · rcases List.mem_append.mp hrow with hrow | hrow
      · exact h.1 row hrow howner
      · rw [List.mem_singleton.mp hrow] at howner
        exact absurd howner hij
  · intro a ha
    exact publish_extends hpublished _ _ (h.2 a ha)

/-- A publication of a call is one more entry that it has published. -/
lemma Published.concat {done : List E} (h : Published path i rows done)
    (hpublish : publishBy path i e rows = some rows') : Published path i rows' (done ++ [e]) := by
  obtain ⟨hpublished, hrows⟩ := publishBy_eq_some hpublish
  constructor
  · intro row hrow howner
    rw [List.mem_append, List.mem_singleton]
    rcases hrows with rfl | rfl
    · exact .inl (h.1 row hrow howner)
    · rcases List.mem_append.mp hrow with hrow | hrow
      · exact .inl (h.1 row hrow howner)
      · exact .inr (by rw [List.mem_singleton.mp hrow])
  · intro a ha
    rcases List.mem_append.mp ha with ha | ha
    · exact publish_extends hpublished _ _ (h.2 a ha)
    · rw [List.mem_singleton.mp ha]
      exact publish_found hpublished

/-- A publication by another call leaves what is asserted of a call. -/
lemma Asserts.of_other {place : Place E ε α}
    (h : Asserts path plan request admitted j rows place) (hij : i ≠ j)
    (hpublish : publishBy path i e rows = some rows') :
    Asserts path plan request admitted j rows' place := by
  have hextends := publish_extends (publishBy_eq_some hpublish).1
  cases place with
  | ready => exact Published.of_other h hij hpublish
  | publishing rest result =>
    obtain ⟨done, hplanned, hdone⟩ := h
    exact ⟨done, hplanned.extends hextends, hdone.of_other hij hpublish⟩
  | returned result =>
    obtain ⟨new, hplanned, hnew⟩ := h
    exact ⟨new, hplanned.extends hextends, hnew.of_other hij hpublish⟩
  | refused error =>
    obtain hnone | ⟨done, a, rest, result, a', hplanned, hdone, hfound, hne⟩ := h
    · exact .inl (hnone.of_other hij hpublish)
    · exact .inr ⟨done, a, rest, result, a', hplanned.extends hextends,
        hdone.of_other hij hpublish, hextends _ _ hfound, hne⟩
  | halted =>
    obtain hnone | ⟨done, rest, result, hplanned, hdone⟩ := h
    · exact .inl (hnone.of_other hij hpublish)
    · exact .inr ⟨done, rest, result, hplanned.extends hextends, hdone.of_other hij hpublish⟩

variable {place : Place E ε α} {event : Event}

/-- A step of a call leaves the store or publishes an entry. -/
lemma step_rows (path : E → P) (plan : Q → List E → Except ε (List E × α)) (collision : E → ε)
    (request : ι → Q) (i : ι) (rows : List (Row ι E)) (place : Place E ε α) (event : Event) :
    (step path plan collision request i rows place event).1 = rows ∨
      ∃ e, publishBy path i e rows =
        some (step path plan collision request i rows place event).1 := by
  cases event with
  | halt => cases place <;> exact .inl rfl
  | proceed =>
    cases place with
    | ready =>
      left
      simp only [step]
      cases plan (request i) (entries rows) <;> rfl
    | publishing rest result =>
      cases rest with
      | nil => exact .inl rfl
      | cons e rest =>
        simp only [step]
        cases h : publishBy path i e rows with
        | none => exact .inl rfl
        | some rows' => exact .inr ⟨e, h⟩
    | returned result | refused error | halted => exact .inl rfl

lemma step_keyed (hkeyed : Table.Keyed path (entries rows)) :
    Table.Keyed path (entries (step path plan collision request i rows place event).1) := by
  obtain hrows | ⟨e, hpublish⟩ := step_rows path plan collision request i rows place event
  · rw [hrows]
    exact hkeyed
  · exact publish_keyed (publishBy_eq_some hpublish).1 hkeyed

/-- A step of a call keeps what is asserted of the call. -/
lemma Asserts.step (hkeyed : Table.Keyed path (entries rows))
    (hadmitted : place = .ready → admitted (request i) (entries rows))
    (h : Asserts path plan request admitted i rows place) :
    Asserts path plan request admitted i (step path plan collision request i rows place event).1
      (WriteOnce.step path plan collision request i rows place event).2 := by
  cases event with
  | halt =>
    cases place with
    | ready => exact .inl h
    | publishing rest result =>
      obtain ⟨done, hplanned, hdone⟩ := h
      exact .inr ⟨done, rest, result, hplanned, hdone⟩
    | returned result | refused error | halted => exact h
  | proceed =>
    cases place with
    | ready =>
      simp only [WriteOnce.step]
      cases hplan : plan (request i) (entries rows) with
      | error error => exact .inl h
      | ok planned =>
        refine ⟨[], ⟨entries rows, hkeyed, Extends.refl _, hadmitted rfl, ?_⟩, h⟩
        rw [hplan, List.nil_append]
    | publishing rest result =>
      obtain ⟨done, hplanned, hdone⟩ := h
      cases rest with
      | nil =>
        rw [List.append_nil] at hplanned
        exact ⟨done, hplanned, hdone⟩
      | cons e rest =>
        simp only [WriteOnce.step]
        cases hpublish : publishBy path i e rows with
        | none =>
          obtain ⟨e', hfound, hne⟩ := publishBy_eq_none.mp hpublish
          exact .inr ⟨done, e, rest, result, e', hplanned, hdone, hfound, hne⟩
        | some rows' =>
          refine ⟨done ++ [e], ?_, hdone.concat hpublish⟩
          rw [List.append_assoc, List.singleton_append]
          exact hplanned.extends (publish_extends (publishBy_eq_some hpublish).1)
    | returned result | refused error | halted => exact h

variable [DecidableEq ι]

/-- The steps that read the store when it is admitted. -/
def AdmittedStep (request : ι → Q) (admitted : Q → List E → Prop)
    (c : Interleaving.Config ι (List (Row ι E)) (Place E ε α)) (event : ι × Event) : Prop :=
  c.place event.1 = .ready → admitted (request event.1) (entries c.shared)

variable {c : Interleaving.Config ι (List (Row ι E)) (Place E ε α)} {events : List (ι × Event)}

/-- One step of one call publishes at most one more entry. -/
lemma step_extends {event : ι × Event} : Extends path (entries c.shared)
    (entries ((calls path plan collision request).machine.step c event).shared) := by
  obtain ⟨i, event⟩ := event
  obtain hrows | ⟨e, hpublish⟩ :=
    step_rows path plan collision request i c.shared (c.place i) event
  · change Extends path _ (entries (step path plan collision request i c.shared _ event).1)
    rw [hrows]
    exact Extends.refl _
  · exact publish_extends (publishBy_eq_some hpublish).1

/-- **What is found in the store stays there.** -/
theorem run_extends : Extends path (entries c.shared)
    (entries ((calls path plan collision request).machine.run c events).shared) := by
  induction events generalizing c with
  | nil => exact Extends.refl _
  | cons event events ih => exact step_extends.trans ih

/-- The paths of the entries stay distinct. -/
lemma run_keyed (hkeyed : Table.Keyed path (entries c.shared)) :
    Table.Keyed path
      (entries ((calls path plan collision request).machine.run c events).shared) := by
  induction events generalizing c with
  | nil => exact hkeyed
  | cons event events ih => exact ih (step_keyed hkeyed)

/-- **The store of a run**: its paths are distinct, and it holds of every call what the call has
planned and published. -/
theorem run_asserts
    (hadmitted : (calls path plan collision request).machine.Along
      (AdmittedStep request admitted) unpublished events) (i : ι) :
    Table.Keyed path
        (entries ((calls path plan collision request).machine.run unpublished events).shared) ∧
      Asserts path plan request admitted i
        ((calls path plan collision request).machine.run unpublished events).shared
        (((calls path plan collision request).machine.run unpublished events).place i) := by
  refine Interleaving.run_asserts (L := calls path plan collision request)
    (A := fun i rows place => Table.Keyed path (entries rows) ∧
      Asserts path plan request admitted i rows place)
    (C := AdmittedStep request admitted) ?_ ?_ ?_ hadmitted i
  · rintro c i event hC ⟨hkeyed, hasserts⟩
    exact ⟨step_keyed hkeyed, hasserts.step hkeyed hC⟩
  · rintro c i event j hC hji ⟨hkeyed, -⟩ ⟨-, hasserts⟩
    refine ⟨step_keyed hkeyed, ?_⟩
    obtain hrows | ⟨e, hpublish⟩ :=
      step_rows path plan collision request i c.shared (c.place i) event
    · change Asserts path plan request admitted j
        (step path plan collision request i c.shared _ event).1 _
      rw [hrows]
      exact hasserts
    · exact hasserts.of_other hji.symm hpublish
  · intro i
    exact ⟨List.nodup_nil, fun row hrow => absurd hrow List.not_mem_nil,
      fun e he => absurd he List.not_mem_nil⟩

end Runs

/-! ## Calls after calls that have ended -/

section Again

variable {ι E P Q ε α : Type} [DecidableEq E] [DecidableEq P] {path : E → P}
  {plan : Q → List E → Except ε (List E × α)} {collision : E → ε} {request : ι → Q}
  {admitted : Q → List E → Prop} {i : ι} {rows : List (Row ι E)} {new es es' : List E}

/-- Entries with distinct paths are all published when none finds another at its path. -/
lemma exists_publishAll_eq_ok (collision : E → ε) (hnew : Table.Keyed path new)
    (h : ∀ e ∈ new, ∀ e', Table.lookup path (path e) es = some e' → e' = e) :
    ∃ es', publishAll path collision new es = .ok es' := by
  induction new generalizing es with
  | nil => exact ⟨es, rfl⟩
  | cons e new ih =>
    rw [Table.Keyed, List.map_cons, List.nodup_cons] at hnew
    cases hpublish : publish path e es with
    | none =>
      obtain ⟨e', hfound, hne⟩ := publish_eq_none.mp hpublish
      exact absurd (h e List.mem_cons_self e' hfound) hne
    | some es₁ =>
      simp only [publishAll, hpublish]
      refine ih hnew.2 ?_
      intro a ha a' hfound
      refine h a (List.mem_cons_of_mem _ ha) a' ?_
      obtain ⟨rfl, -⟩ | ⟨rfl, -⟩ := publish_eq_some hpublish
      · exact hfound
      · have hpath : path e ≠ path a := fun heq => hnew.1 (heq ▸ List.mem_map_of_mem ha)
        rwa [Table.lookup_append_singleton, if_neg hpath, Option.or_none] at hfound

/-- Entries that are all published find no other entry at their paths. -/
lemma eq_of_publishAll_eq_ok (h : publishAll path collision new es = .ok es') {e e' : E}
    (he : e ∈ new) (hfound : Table.lookup path (path e) es = some e') : e' = e := by
  induction new generalizing es with
  | nil => cases he
  | cons a new ih =>
    simp only [publishAll] at h
    cases hpublish : publish path a es with
    | none => rw [hpublish] at h; cases h
    | some es₁ =>
      simp only [hpublish] at h
      rcases List.mem_cons.mp he with rfl | he
      · have hkept := publish_extends hpublish _ _ hfound
        rw [publish_found hpublish] at hkept
        exact (Option.some.inj hkept).symm
      · exact ih h he (publish_extends hpublish _ _ hfound)

/-- What a plan reads of a store it finds in a store that extends it. -/
def Monotone (path : E → P) (plan : Q → List E → Except ε (List E × α)) : Prop :=
  ∀ q es es' planned, Table.Keyed path es → Extends path es es' →
    plan q es = .ok planned → plan q es' = .ok planned

/-- The entries of a plan have distinct paths. -/
def Distinct (path : E → P) (plan : Q → List E → Except ε (List E × α)) : Prop :=
  ∀ q es new result, plan q es = .ok (new, result) → Table.Keyed path new

variable [DecidableEq ι]

omit [DecidableEq E] in
lemma entries_without_subset : entries (without i rows) ⊆ entries rows := by
  intro e he
  obtain ⟨row, hrow, rfl⟩ := List.mem_map.mp he
  exact List.mem_map_of_mem (List.mem_of_mem_filter hrow)

omit [DecidableEq E] [DecidableEq P] in
lemma keyed_without (h : Table.Keyed path (entries rows)) :
    Table.Keyed path (entries (without i rows)) :=
  ((List.filter_sublist.map Row.entry).map path).nodup h

/-- **What a call has left does not stand in the way of another** whose entries it does not
contradict: that call succeeds when it would in the store without what was left. -/
theorem perform_of_without (hmonotone : Monotone path plan) (hdistinct : Distinct path plan)
    (hrows : Table.Keyed path (entries rows)) {q : Q} {result : α}
    (h : perform path plan collision q (entries (without i rows)) = .ok (result, es))
    (hleft : ∀ new, plan q (entries rows) = .ok (new, result) → ∀ e ∈ new, ∀ row ∈ rows,
      row.owner = i → path row.entry = path e → row.entry = e) :
    ∃ es', perform path plan collision q (entries rows) = .ok (result, es') := by
  obtain ⟨⟨new, a⟩, hplan, h⟩ := bind_eq_ok.mp h
  obtain ⟨es₁, hpublished, h⟩ := bind_eq_ok.mp h
  obtain ⟨rfl, -⟩ := Prod.mk.inj (pure_eq_ok.mp h)
  have hplan' : plan q (entries rows) = .ok (new, a) :=
    hmonotone q _ _ _ (keyed_without hrows) (extends_of_subset entries_without_subset hrows) hplan
  have hfree : ∀ e ∈ new, ∀ e', Table.lookup path (path e) (entries rows) = some e' → e' = e := by
    intro e he e' hfound
    obtain ⟨hmem, hpath⟩ := Table.mem_of_lookup hfound
    obtain ⟨row, hrow, rfl⟩ := List.mem_map.mp hmem
    by_cases howner : row.owner = i
    · exact hleft new hplan' e he row hrow howner hpath
    · have hkept : row.entry ∈ entries (without i rows) :=
        List.mem_map_of_mem (List.mem_filter.mpr ⟨hrow, by simpa using howner⟩)
      refine eq_of_publishAll_eq_ok hpublished he ?_
      rw [← hpath]
      exact (keyed_without hrows).lookup_of_mem hkept
  obtain ⟨es', hes'⟩ := exists_publishAll_eq_ok collision (hdistinct _ _ _ _ hplan') hfree
  refine ⟨es', ?_⟩
  rw [perform, hplan', ok_bind, hes', ok_bind]
  rfl

omit [DecidableEq E] [DecidableEq ι] in
/-- What a call has published is a part of what it has planned. -/
lemma Asserts.exists_published {place : Place E ε α}
    (h : Asserts path plan request admitted i rows place) :
    ∃ done, Published path i rows done ∧ (done = [] ∨ ∃ rest result,
      Planned path plan admitted (request i) rows (done ++ rest) result) := by
  cases place with
  | ready => exact ⟨[], h, .inl rfl⟩
  | publishing rest result =>
    obtain ⟨done, hplanned, hdone⟩ := h
    exact ⟨done, hdone, .inr ⟨rest, result, hplanned⟩⟩
  | returned result =>
    obtain ⟨new, hplanned, hnew⟩ := h
    exact ⟨new, hnew, .inr ⟨[], result, by rwa [List.append_nil]⟩⟩
  | refused error =>
    obtain hnone | ⟨done, e, rest, result, e', hplanned, hdone, -⟩ := h
    · exact ⟨[], hnone, .inl rfl⟩
    · exact ⟨done, hdone, .inr ⟨e :: rest, result, hplanned⟩⟩
  | halted =>
    obtain hnone | ⟨done, rest, result, hplanned, hdone⟩ := h
    · exact ⟨[], hnone, .inl rfl⟩
    · exact ⟨done, hdone, .inr ⟨rest, result, hplanned⟩⟩

/-- **What a call has left does not stand in the way of the same call.** -/
theorem perform_again (hmonotone : Monotone path plan) (hdistinct : Distinct path plan)
    (hrows : Table.Keyed path (entries rows)) {place : Place E ε α}
    (hasserts : Asserts path plan request admitted i rows place) {result : α}
    (h : perform path plan collision (request i) (entries (without i rows)) = .ok (result, es)) :
    ∃ es', perform path plan collision (request i) (entries rows) = .ok (result, es') := by
  refine perform_of_without hmonotone hdistinct hrows h ?_
  intro new hplan e he row hrow howner hpath
  obtain ⟨done, hdone, hplanned⟩ := hasserts.exists_published
  have hmem := hdone.1 row hrow howner
  obtain rfl | ⟨rest, result', es₀, hkeyed, hextends, -, hplan₀⟩ := hplanned
  · cases hmem
  have heq := hmonotone _ _ _ _ hkeyed hextends hplan₀
  rw [hplan] at heq
  obtain ⟨rfl, -⟩ := Prod.mk.inj (Except.ok.inj heq)
  exact (hdistinct _ _ _ _ hplan).eq_of_key_eq (List.mem_append_left _ hmem) he hpath

end Again

end WriteOnce
