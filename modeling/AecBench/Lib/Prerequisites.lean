import AecBench.Lib.Dependants
import AecBench.Lib.Validation
import Mathlib.Data.Finset.Card

/-!
# Prerequisites in a graph

Items with prerequisites, given by the list of what each needs first. A depth-first visit finds out
whether the items can be put into an order that respects the prerequisites; a second recursion
collects all that an item needs, directly or through other items, and remembers what it collected.

## Main definitions

* `Prerequisites.visit`, `Prerequisites.visitAll` — the depth-first visit, with the items that are
  being visited and those that are done.
* `Prerequisites.closure` — everything an item needs, with a memory of earlier answers.
* `Prerequisites.Ordered` — a list in which every item comes after what it needs.
* `Prerequisites.Attains` — a sequence of at most so many items that ends with a given one.

## Main results

* `Prerequisites.visitAll_spec` — the visit succeeds exactly when no item needs itself.
* `Prerequisites.closure_spec` — the collection ends, with what the item needs.
* `Prerequisites.attains_iff` — how long a sequence to an item has to be.

## Implementation notes

* The recursions count down from a number that bounds their depth. On items whose prerequisites are
  items too, one more than the number of items is always enough.
-/

namespace Prerequisites

open Dependants

variable {α : Type} (deps : α → List α)

/-- Every item of the list comes after everything it needs. -/
def Ordered (order : List α) : Prop :=
  ∀ before a, before ++ [a] <+: order → ∀ b ∈ deps a, b ∈ before

/-- The prerequisites of the items are items. -/
def Closed (items : List α) : Prop := ∀ a ∈ items, ∀ b ∈ deps a, b ∈ items

variable {deps}

lemma ordered_nil : Ordered deps [] := by
  intro before a h
  exact absurd (List.prefix_nil.mp h) (by simp)

variable {order : List α} {a : α}

/-- An item can be put behind a list that has all it needs. -/
lemma ordered_append_singleton :
    Ordered deps (order ++ [a]) ↔ Ordered deps order ∧ ∀ b ∈ deps a, b ∈ order := by
  constructor
  · intro h
    refine ⟨fun before x hx => h before x (hx.trans (List.prefix_append _ _)), ?_⟩
    exact h order a (List.prefix_refl _)
  · rintro ⟨h, ha⟩ before x hx
    rcases List.prefix_concat_iff.mp hx with heq | hprefix
    · obtain ⟨rfl, hlast⟩ := List.append_inj' heq rfl
      obtain rfl : x = a := by simpa using hlast
      exact ha
    · exact h before x hprefix

/-- What a member of an ordered list needs stands in the list. -/
lemma Ordered.closed (h : Ordered deps order) : Closed deps order := by
  intro a ha b hb
  obtain ⟨before, after, rfl⟩ := List.append_of_mem ha
  have hmem := h before a ⟨after, by simp⟩ b hb
  exact List.mem_append_left _ hmem

variable {items : List α}

/-- What leads to a member of an ordered list stands in the list. -/
lemma Ordered.mem_of_leads (h : Ordered deps order) {b : α} (hb : b ∈ order)
    (hab : Leads deps items a b) : a ∈ order := by
  induction hab using Relation.TransGen.head_induction_on with
  | single hstep => exact h.closed _ hb _ hstep.2
  | head hstep _ ih => exact h.closed _ ih _ hstep.2

/-- What an item needs is what its prerequisites are and what these need. -/
lemma leads_iff {x : α} (ha : a ∈ items) :
    Leads deps items x a ↔ ∃ b ∈ deps a, x = b ∨ Leads deps items x b := by
  constructor
  · intro h
    obtain ⟨b, hxb, hb⟩ := (Relation.TransGen.tail'_iff).mp h
    exact ⟨b, hb.2, (Relation.reflTransGen_iff_eq_or_transGen.mp hxb).imp Eq.symm id⟩
  · rintro ⟨b, hb, rfl | hxb⟩
    · exact .single ⟨ha, hb⟩
    · exact .tail hxb ⟨ha, hb⟩

section Rank

variable [DecidableEq α]

/-- **An ordered list ranks its members** by where they stand. -/
theorem Ordered.ranked (h : Ordered deps order) : Ranked deps order (order.idxOf ·) := by
  intro a ha b hb _
  obtain ⟨before, after, rfl, hnot⟩ := List.eq_append_cons_of_mem ha
  have hmem : b ∈ before := h before a ⟨after, by simp⟩ b hb
  show (before ++ a :: after).idxOf b < (before ++ a :: after).idxOf a
  rw [List.idxOf_append_of_mem hmem, List.idxOf_append_of_notMem hnot]
  have hlt := List.idxOf_lt_length_of_mem hmem
  omega

end Rank

/-! ### The visit -/

section Visit

/-- Why a recursion over prerequisites stops without a result. -/
inductive Stop
  | cycle
  | exhausted
  deriving DecidableEq

variable [DecidableEq α]

variable (deps) in
/-- Visit an item: first everything it needs, then the item itself is done. Meeting an item that
is being visited is a cycle. -/
def visit : ℕ → List α → List α → α → Except Stop (List α)
  | 0, _, _, _ => .error .exhausted
  | depth + 1, visiting, visited, a =>
    if a ∈ visiting then .error .cycle
    else if a ∈ visited then .ok visited
    else do
      let visited ← (deps a).foldlM (visit depth (a :: visiting)) visited
      return visited ++ [a]

variable (deps) in
/-- Visit all items, one after the other. -/
def visitAll (depth : ℕ) (items : List α) : Except Stop (List α) :=
  items.foldlM (visit deps depth []) []

/-- What the visit keeps: the items that are done respect the prerequisites, and none of them is
being visited. -/
structure Progress (deps : α → List α) (items visiting visited : List α) : Prop where
  ordered : Ordered deps visited
  nodup : visited.Nodup
  subset : visited ⊆ items
  apart : ∀ a ∈ visiting, a ∉ visited

/-- What a visit ends with: more items done, or an item that needs itself. -/
def Visits (deps : α → List α) (items visiting visited goals : List α) :
    Except Stop (List α) → Prop
  | .ok visited' =>
    Progress deps items visiting visited' ∧ visited <+: visited' ∧ goals ⊆ visited'
  | .error .cycle => ∃ a ∈ items, Leads deps items a a
  | .error .exhausted => False

variable {visiting visited : List α}

omit [DecidableEq α] in
/-- A visit that stops, stops every visit that contains it. -/
lemma Visits.of_error {visiting' visited' goals goals' : List α} {stop : Stop}
    (h : Visits deps items visiting visited goals (.error stop)) :
    Visits deps items visiting' visited' goals' (.error stop) := by
  cases stop with
  | cycle | exhausted => exact h

omit [DecidableEq α] in
/-- Visits one after the other. -/
lemma visits_foldlM (step : List α → α → Except Stop (List α)) (goals : List α)
    (hstep : ∀ a ∈ goals, ∀ visited, Progress deps items visiting visited →
      Visits deps items visiting visited [a] (step visited a))
    (h : Progress deps items visiting visited) :
    Visits deps items visiting visited goals (goals.foldlM step visited) := by
  induction goals generalizing visited with
  | nil => exact ⟨h, List.prefix_refl _, List.nil_subset _⟩
  | cons a goals ih =>
    rw [List.foldlM_cons]
    have ha := hstep a List.mem_cons_self visited h
    cases hrun : step visited a with
    | error stop =>
      rw [hrun] at ha
      exact Visits.of_error ha
    | ok visited' =>
      rw [hrun] at ha
      obtain ⟨hprogress, hprefix, hgoal⟩ := ha
      have hrest := ih (fun b hb => hstep b (List.mem_cons_of_mem _ hb)) hprogress
      rw [Validation.ok_bind]
      cases hfold : goals.foldlM step visited' with
      | error stop =>
        rw [hfold] at hrest
        exact Visits.of_error hrest
      | ok visited'' =>
        rw [hfold] at hrest
        obtain ⟨hprogress', hprefix', hgoals⟩ := hrest
        refine ⟨hprogress', hprefix.trans hprefix', ?_⟩
        rw [List.cons_subset]
        exact ⟨hprefix'.subset (hgoal List.mem_cons_self), hgoals⟩

/-- **One visit**, with enough depth for the items that are not being visited. -/
lemma visits_visit (hclosed : Closed deps items) {depth : ℕ} (ha : a ∈ items)
    (hnodup : visiting.Nodup) (hsub : visiting ⊆ items)
    (hleads : ∀ v ∈ visiting, Leads deps items a v)
    (hdepth : items.length < depth + visiting.length) (h : Progress deps items visiting visited) :
    Visits deps items visiting visited [a] (visit deps depth visiting visited a) := by
  induction depth generalizing visiting visited a with
  | zero =>
    have hle := (hnodup.subperm hsub).length_le
    omega
  | succ depth ih =>
    rw [visit]
    split_ifs with hvisiting hvisited
    · exact ⟨a, ha, hleads a hvisiting⟩
    · exact ⟨h, List.prefix_refl _, by simpa using hvisited⟩
    · have hinner : Progress deps items (a :: visiting) visited := by
        refine ⟨h.ordered, h.nodup, h.subset, ?_⟩
        rw [List.forall_mem_cons]
        exact ⟨hvisited, h.apart⟩
      have hdeps := visits_foldlM (visit deps depth (a :: visiting)) (deps a)
        (fun b hb visited' h' => ?_) hinner
      · cases hfold : (deps a).foldlM (visit deps depth (a :: visiting)) visited with
        | error stop =>
          rw [hfold] at hdeps
          exact Visits.of_error hdeps
        | ok visited' =>
          rw [hfold] at hdeps
          obtain ⟨hprogress, hprefix, hgoals⟩ := hdeps
          have hnew : a ∉ visited' := hprogress.apart a List.mem_cons_self
          refine ⟨⟨?_, ?_, ?_, ?_⟩, hprefix.trans (List.prefix_append _ _), by simp⟩
          · exact ordered_append_singleton.mpr ⟨hprogress.ordered, fun b hb => hgoals hb⟩
          · rw [List.nodup_append]
            refine ⟨hprogress.nodup, List.nodup_singleton a, ?_⟩
            rintro x hx y hy rfl
            rw [List.mem_singleton] at hy
            exact hnew (hy ▸ hx)
          · exact List.append_subset.mpr ⟨hprogress.subset, by simpa using ha⟩
          · intro v hv hmem
            rcases List.mem_append.mp hmem with hmem | hmem
            · exact hprogress.apart v (List.mem_cons_of_mem _ hv) hmem
            · rw [List.mem_singleton] at hmem
              exact hvisiting (hmem ▸ hv)
      · have hstep : Depends deps items b a := ⟨ha, hb⟩
        refine ih (hclosed a ha b hb) (List.nodup_cons.mpr ⟨hvisiting, hnodup⟩)
          (List.cons_subset.mpr ⟨ha, hsub⟩) ?_ ?_ h'
        · intro v hv
          rcases List.mem_cons.mp hv with rfl | hv
          · exact .single hstep
          · exact .head hstep (hleads v hv)
        · rw [List.length_cons]
          omega

/-- **The visit of all items** succeeds exactly when no item needs itself; the items that are done
then respect the prerequisites. -/
theorem visitAll_spec (hclosed : Closed deps items) {depth : ℕ} (hdepth : items.length < depth) :
    (∃ order, visitAll deps depth items = .ok order ∧ Ordered deps order ∧ order.Nodup ∧
        ∀ a, a ∈ order ↔ a ∈ items) ∧ (∀ a ∈ items, ¬ Leads deps items a a) ∨
      visitAll deps depth items = .error .cycle ∧ ∃ a ∈ items, Leads deps items a a := by
  have hstart : Progress deps items [] [] :=
    ⟨ordered_nil, List.nodup_nil, List.nil_subset _, by simp⟩
  have hall := visits_foldlM (visit deps depth []) items
    (fun a ha visited h => visits_visit hclosed ha List.nodup_nil (List.nil_subset _) (by simp)
      (by simpa using hdepth) h) hstart
  rw [visitAll]
  cases hrun : items.foldlM (visit deps depth []) [] with
  | error stop =>
    rw [hrun] at hall
    cases stop with
    | cycle => exact .inr ⟨rfl, hall⟩
    | exhausted => exact hall.elim
  | ok order =>
    rw [hrun] at hall
    obtain ⟨hprogress, -, hgoals⟩ := hall
    have hmem : ∀ a, a ∈ order ↔ a ∈ items := fun a =>
      ⟨fun h => hprogress.subset h, fun h => hgoals h⟩
    refine .inl ⟨⟨order, rfl, hprogress.ordered, hprogress.nodup, hmem⟩, ?_⟩
    intro a ha hself
    have hranked : Ranked deps items (order.idxOf ·) := fun x hx b hb hitem =>
      hprogress.ordered.ranked x ((hmem x).mpr hx) b hb ((hmem b).mpr hitem)
    exact hranked.not_leads_self ha hself

end Visit

/-! ### Everything an item needs -/

section Closure

variable [DecidableEq α]

/-- What was collected for items, remembered. -/
abbrev Memory (α : Type) := List (α × Finset α)

/-- Add an item and everything it needs to what is collected. -/
def collectOne (closure : Memory α → α → Except Stop (Finset α × Memory α))
    (state : Finset α × Memory α) (b : α) : Except Stop (Finset α × Memory α) := do
  let (rest, memory) ← closure state.2 b
  return (insert b state.1 ∪ rest, memory)

variable (deps) in
/-- Collect everything an item needs: its prerequisites and what these need. What was collected
for an item is remembered. -/
def closure : ℕ → Memory α → α → Except Stop (Finset α × Memory α)
  | 0, _, _ => .error .exhausted
  | depth + 1, memory, a =>
    match memory.lookup a with
    | some needed => .ok (needed, memory)
    | none => do
      let (needed, memory) ← (deps a).foldlM (collectOne (closure depth)) (∅, memory)
      return (needed, (a, needed) :: memory)

/-- What is remembered for an item is what it needs. -/
def Remembers (deps : α → List α) (items : List α) (memory : Memory α) : Prop :=
  ∀ a needed, memory.lookup a = some needed → ∀ x, x ∈ needed ↔ Leads deps items x a

/-- The answer for an item: what it needs, and a memory that is right. -/
def Answers (deps : α → List α) (items : List α) (a : α)
    (result : Except Stop (Finset α × Memory α)) : Prop :=
  ∃ needed memory, result = .ok (needed, memory) ∧ Remembers deps items memory ∧
    ∀ x, x ∈ needed ↔ Leads deps items x a

/-- The loop over some prerequisites collects these and what each of them needs. -/
lemma foldlM_collectOne (closure : Memory α → α → Except Stop (Finset α × Memory α)) (bs : List α)
    (hanswers : ∀ b ∈ bs, ∀ memory, Remembers deps items memory →
      Answers deps items b (closure memory b)) (start : Finset α) {memory : Memory α}
    (h : Remembers deps items memory) :
    ∃ needed memory', bs.foldlM (collectOne closure) (start, memory) = .ok (needed, memory') ∧
      Remembers deps items memory' ∧
      ∀ x, x ∈ needed ↔ x ∈ start ∨ ∃ b ∈ bs, x = b ∨ Leads deps items x b := by
  induction bs generalizing start memory with
  | nil => exact ⟨start, memory, rfl, h, by simp⟩
  | cons b bs ih =>
    obtain ⟨rest, memory', hrun, hmemory, hrest⟩ := hanswers b List.mem_cons_self memory h
    obtain ⟨needed, memory'', hruns, hmemory', hneeded⟩ :=
      ih (fun c hc => hanswers c (List.mem_cons_of_mem _ hc)) (insert b start ∪ rest) hmemory
    have hone : collectOne closure (start, memory) b = .ok (insert b start ∪ rest, memory') := by
      simp only [collectOne, hrun]
      rfl
    refine ⟨needed, memory'', ?_, hmemory', ?_⟩
    · rw [List.foldlM_cons, hone]
      exact hruns
    · intro x
      rw [hneeded, Finset.mem_union, Finset.mem_insert, hrest, List.exists_mem_cons_iff]
      constructor
      · rintro (((rfl | hstart) | hneeds) | hlater)
        · exact .inr (.inl (.inl rfl))
        · exact .inl hstart
        · exact .inr (.inl (.inr hneeds))
        · exact .inr (.inr hlater)
      · rintro (hstart | (rfl | hneeds) | hlater)
        · exact .inl (.inl (.inr hstart))
        · exact .inl (.inl (.inl rfl))
        · exact .inl (.inr hneeds)
        · exact .inr hlater

/-- **The collection ends** when there is more depth than the item has rank, with what the item
needs. -/
theorem closure_spec (hclosed : Closed deps items) {rank : α → ℕ} (hrank : Ranked deps items rank)
    {depth : ℕ} {memory : Memory α} (ha : a ∈ items) (hdepth : rank a < depth)
    (h : Remembers deps items memory) : Answers deps items a (closure deps depth memory a) := by
  induction depth generalizing memory a with
  | zero => exact absurd hdepth (Nat.not_lt_zero _)
  | succ depth ih =>
    rw [closure]
    cases hlookup : memory.lookup a with
    | some needed => exact ⟨needed, memory, rfl, h, h a needed hlookup⟩
    | none =>
      obtain ⟨needed, memory', hrun, hmemory, hneeded⟩ :=
        foldlM_collectOne (closure deps depth) (deps a)
          (fun b hb memory h => by
            have hlt := hrank a ha b hb (hclosed a ha b hb)
            exact ih (hclosed a ha b hb) (by omega) h) ∅ h
      have hleads : ∀ x, x ∈ needed ↔ Leads deps items x a := by
        intro x
        rw [hneeded, leads_iff ha]
        simp
      refine ⟨needed, (a, needed) :: memory', ?_, ?_, hleads⟩
      · simp only [hrun]
        rfl
      · intro b needed' hb
        rw [List.lookup_cons] at hb
        cases hba : b == a with
        | true =>
          rw [hba] at hb
          obtain rfl := eq_of_beq hba
          obtain rfl := Option.some.inj hb
          exact hleads
        | false =>
          rw [hba] at hb
          exact hmemory b needed' hb

end Closure

/-! ### Sequences -/

section Sequences

/-- A sequence of at most `n` different items that respects the prerequisites and ends with the
item. -/
def Attains (deps : α → List α) (items : List α) (n : ℕ) (a : α) : Prop :=
  ∃ before, Ordered deps (before ++ [a]) ∧ (before ++ [a]).Nodup ∧ before ++ [a] ⊆ items ∧
    before.length + 1 ≤ n

/-- Members that are kept together with what they need stay in order. -/
lemma Ordered.filter (h : Ordered deps order) (p : α → Bool)
    (hp : ∀ a, p a = true → ∀ b ∈ deps a, p b = true) : Ordered deps (order.filter p) := by
  induction order using List.reverseRecOn with
  | nil => exact ordered_nil
  | append_singleton order a ih =>
    obtain ⟨horder, ha⟩ := ordered_append_singleton.mp h
    rw [List.filter_append]
    by_cases hpa : p a = true
    · rw [List.filter_singleton, hpa]
      refine ordered_append_singleton.mpr ⟨ih horder, fun b hb => ?_⟩
      exact List.mem_filter.mpr ⟨ha b hb, hp a hpa b hb⟩
    · simpa [List.filter_singleton, hpa] using ih horder

variable [DecidableEq α]

/-- **How long a sequence to an item has to be**: it takes what the item needs, and the item. -/
theorem attains_iff (horder : Ordered deps order) (hnodup : order.Nodup)
    (hmem : ∀ a, a ∈ order ↔ a ∈ items) (ha : a ∈ items) {needed : Finset α}
    (hneeded : ∀ x, x ∈ needed ↔ Leads deps items x a) {n : ℕ} :
    Attains deps items n a ↔ needed.card + 1 ≤ n := by
  have hself : a ∉ needed := by
    rw [hneeded]
    have hranked : Ranked deps items (order.idxOf ·) := fun x hx b hb hitem =>
      horder.ranked x ((hmem x).mpr hx) b hb ((hmem b).mpr hitem)
    exact hranked.not_leads_self ha
  constructor
  · rintro ⟨before, hbefore, -, -, hlength⟩
    have hsub : insert a needed ⊆ (before ++ [a]).toFinset := by
      intro x hx
      rw [List.mem_toFinset]
      rcases Finset.mem_insert.mp hx with rfl | hx
      · simp
      · exact hbefore.mem_of_leads (by simp) ((hneeded x).mp hx)
    have hcard := (Finset.card_le_card hsub).trans (List.toFinset_card_le _)
    rw [Finset.card_insert_of_notMem hself, List.length_append, List.length_singleton] at hcard
    omega
  · intro hn
    have hfilter : (order.filter (· ∈ needed)).toFinset = needed := by
      ext x
      have hitem : x ∈ needed → x ∈ order := fun hx =>
        horder.mem_of_leads ((hmem a).mpr ha) ((hneeded x).mp hx)
      simpa using hitem
    have hnodup' : (order.filter (· ∈ needed)).Nodup := hnodup.filter _
    have hlength : (order.filter (· ∈ needed)).length = needed.card := by
      rw [← hfilter, List.toFinset_card_of_nodup hnodup', hfilter]
    have hin : ∀ x ∈ needed, ∀ b ∈ deps x, b ∈ needed := by
      intro x hx b hb
      have hxa := (hneeded x).mp hx
      have hitem : x ∈ items :=
        (hmem x).mp (horder.mem_of_leads ((hmem a).mpr ha) hxa)
      exact (hneeded b).mpr (.head ⟨hitem, hb⟩ hxa)
    have hkept : Ordered deps (order.filter (· ∈ needed)) :=
      horder.filter _ (by simpa using hin)
    refine ⟨order.filter (· ∈ needed), ?_, ?_, ?_, by omega⟩
    · refine ordered_append_singleton.mpr ⟨hkept, fun b hb => ?_⟩
      have hba : b ∈ needed := (hneeded b).mpr (.single ⟨ha, hb⟩)
      have horder' : b ∈ order := horder.closed a ((hmem a).mpr ha) b hb
      simpa using ⟨horder', hba⟩
    · rw [List.nodup_append]
      refine ⟨hnodup', List.nodup_singleton a, ?_⟩
      rintro x hx y hy rfl
      rw [List.mem_singleton] at hy
      rw [hy] at hx
      exact hself (by simpa using (List.mem_filter.mp hx).2)
    · refine List.append_subset.mpr ⟨fun x hx => ?_, by simpa using ha⟩
      exact (hmem x).mp (List.mem_filter.mp hx).1

end Sequences

end Prerequisites
