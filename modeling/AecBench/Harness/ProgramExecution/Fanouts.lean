import AecBench.Harness.ProgramExecution.Invocations

/-!
# What a fan-out does

The workers of a fan-out take its items one after the other, so that every item is run exactly once
whatever the order in which the workers go on. The results of the items are then read by their
index.

## Main definitions

* `taken` — the item that a step takes.
* `ItemRuns` — the items of a fan-out with their traces and results.

## Main results

* `follows_taken` — the items are taken in order.
* `runItems_runs` — the trace of a pool is made of one trace of every item.
-/

namespace AecBench.ProgramExecution

open AecBench.Contracts
open Program (Ends Follows Idle Meets Path Ran Runs Step leaf tally tally_add tally_cons tally_eq_zero
  tally_nil)
open Text (NonEmptyStr)
open Validation

/-! ## The queue -/

/-- The item that a step takes. -/
def taken : Step Op Raised → Multiset ℕ
  | ⟨.take, .ok (some i)⟩ => {i}
  | _ => 0

/-- The step opens a queue. -/
def Opens : Step Op Raised → Prop
  | ⟨.openQueue _ _, _⟩ => True
  | _ => False

variable {limits : ProgramLimits}

lemma act_queue (step : Step Op Raised) (i : Input) (w : World) (hopens : ¬ Opens step)
    (htake : ∀ r, step ≠ ⟨.take, r⟩) : ((semantics limits).act step.op i w).2.queue = w.queue := by
  have hlocked : ∀ x : Except RuntimeFault World, (∀ w', x = .ok w' → w'.queue = w.queue) →
      (locked x w).2.queue = w.queue := by
    intro x hx
    cases x with
    | ok w' => exact hx w' rfl
    | error f => rfl
  obtain ⟨op, answer⟩ := step
  cases op with
  | execute node walk => rfl
  | openQueue nodeId size => exact absurd trivial hopens
  | take => exact absurd rfl (htake answer)
  | choose => rfl
  | claimAttempt nodeId fanoutIndex =>
    refine hlocked _ fun w' hw' => ?_
    rw [World.claimAttempt] at hw'
    split at hw'
    · cases hw'
    · cases hw'; rfl
  | enterSlot context =>
    refine hlocked _ fun w' hw' => ?_
    rw [World.enterSlot] at hw'
    split at hw'
    · cases hw'
    · cases hw'; rfl
  | handler arguments context => rfl
  | claimRecursion context depth =>
    refine hlocked _ fun w' hw' => ?_
    rw [World.claimRecursion] at hw'
    split at hw'
    · cases hw'
    · split at hw'
      · cases hw'
      · split at hw'
        · cases hw'
        · cases hw'; rfl
  | leaveSlot context outcome | sleep seconds | readBudget => rfl

variable {tr : List (Step Op Raised)}

/-- **The items are taken in order**, and all of them before a worker finds the queue empty. -/
theorem follows_taken {w w' : World} (h : Follows (semantics limits) tr w w')
    (hopens : ∀ step ∈ tr, ¬ Opens step) (hnext : w.queue.next ≤ w.queue.size) :
    w'.queue.next ≤ w.queue.size ∧
      tally taken tr =
        (List.range' w.queue.next (w'.queue.next - w.queue.next) : List ℕ) ∧
      w.queue.next ≤ w'.queue.next ∧
        ((∃ a, ⟨.take, a⟩ ∈ tr ∧ ∀ i, a ≠ .ok (some i)) → w'.queue.next = w.queue.size) := by
  induction tr generalizing w with
  | nil =>
    obtain rfl : w = w' := h
    simp [hnext]
  | cons step tr ih =>
    obtain ⟨i, hanswer, hrest⟩ := h
    have hopens' : ∀ step ∈ tr, ¬ Opens step := fun s hs => hopens s (List.mem_cons_of_mem _ hs)
    by_cases htake : ∀ r, step ≠ ⟨.take, r⟩
    · have hqueue := @act_queue limits step i w (hopens step List.mem_cons_self) htake
      have hih := ih hrest hopens' (by rw [hqueue]; exact hnext)
      rw [hqueue] at hih
      obtain ⟨hsize, htaken, hle, hempty⟩ := hih
      have hzero : taken step = 0 := by
        obtain ⟨op, answer⟩ := step
        cases op with
        | take => exact absurd rfl (htake answer)
        | _ => rfl
      refine ⟨hsize, by rw [tally_cons, hzero, zero_add, htaken], hle, ?_⟩
      rintro ⟨a, ha, hnone⟩
      rcases List.mem_cons.mp ha with rfl | ha
      · exact absurd rfl (htake a)
      · exact hempty ⟨a, ha, hnone⟩
    · obtain ⟨r, rfl⟩ : ∃ r, step = ⟨.take, r⟩ := by
        by_contra hnot
        exact htake fun r hr => hnot ⟨r, hr⟩
      obtain rfl : Except.ok w.takeItem.1 = r := hanswer
      have hrest : Follows (semantics limits) tr w.takeItem.2 w' := hrest
      by_cases hmore : w.queue.next < w.queue.size
      · have hitem : w.takeItem = (some w.queue.next,
            { w with queue := { w.queue with next := w.queue.next + 1 } }) := by
          rw [World.takeItem, if_pos hmore]
        rw [hitem] at hrest ⊢
        obtain ⟨hsize, htaken, hle, hempty⟩ := ih hrest hopens' hmore
        dsimp only at hsize htaken hle hempty
        refine ⟨hsize, ?_, by omega, ?_⟩
        · obtain ⟨k, hk⟩ := Nat.exists_eq_add_of_le hle
          have hcount : w'.queue.next - w.queue.next = k + 1 := by omega
          have hcount' : w'.queue.next - (w.queue.next + 1) = k := by omega
          rw [tally_cons, htaken, hcount, hcount', List.range'_succ]
          rfl
        · rintro ⟨a, ha, hnone⟩
          rcases List.mem_cons.mp ha with hstep | ha
          · cases hstep
            exact absurd rfl (hnone _)
          · exact hempty ⟨a, ha, hnone⟩
      · have hitem : w.takeItem = (none, w) := by rw [World.takeItem, if_neg hmore]
        rw [hitem] at hrest ⊢
        obtain ⟨hsize, htaken, hle, hempty⟩ := ih hrest hopens' hnext
        dsimp only at hsize htaken hle hempty
        refine ⟨hsize, ?_, hle, fun _ => by omega⟩
        rw [tally_cons, htaken]
        exact zero_add _

/-! ## Items -/

variable {finished : List (ℕ × Except Raised InvocationResult)}

lemma futureResult_eq {i : ℕ} {r : Except Raised InvocationResult} (hmem : (i, r) ∈ finished)
    (hnodup : (finished.map Prod.fst).Nodup) : futureResult finished i = r := by
  rw [futureResult]
  suffices hlookup : finished.lookup i = some r by rw [hlookup, Option.getD_some]
  induction finished with
  | nil => cases hmem
  | cons f finished ih =>
    obtain ⟨j, r'⟩ := f
    rw [List.map_cons, List.nodup_cons] at hnodup
    rcases List.mem_cons.mp hmem with heq | hin
    · cases heq
      simp
    · have hne : i ≠ j := by
        rintro rfl
        exact hnodup.1 (List.mem_map.mpr ⟨(i, r), hin, rfl⟩)
      rw [List.lookup_cons, beq_eq_false_iff_ne.mpr hne]
      exact ih hin hnodup.2

lemma OwnedBy.not_opens {nodeId : NonEmptyStr} {fanoutIndex : Option ℕ}
    (h : OwnedBy nodeId fanoutIndex tr) : ∀ step ∈ tr, ¬ Opens step := by
  intro step hstep hopens
  rcases h step hstep with howner | ⟨r, s, rfl⟩
  · obtain ⟨op, answer⟩ := step
    cases op with
    | openQueue nodeId' size => cases howner
    | _ => exact hopens
  · exact hopens

lemma OwnedBy.taken_eq_zero {nodeId : NonEmptyStr} {fanoutIndex : Option ℕ}
    (h : OwnedBy nodeId fanoutIndex tr) : tally taken tr = 0 := by
  refine tally_eq_zero taken fun step hstep => ?_
  rcases h step (Multiset.mem_coe.mp hstep) with howner | ⟨r, s, rfl⟩
  · obtain ⟨op, answer⟩ := step
    cases op with
    | take => cases howner
    | _ => rfl
  · rfl

lemma maxWorkers_pos (program : CompiledExecutionProgram) (n : FanoutNode)
    (registration : OperationRegistration) : 0 < maxWorkers program n registration := by
  have h₁ := n.parallelism_bounds.1
  have h₂ := registration.parallelism_bounds.1
  have h₃ := program.limits.parallelism_bounds.1
  rw [maxWorkers]
  omega

section Items

variable {digest : Json → String} {program : CompiledExecutionProgram} {node : ProgramNode}
  {n : FanoutNode} {p : PreparedFanout}

lemma ran_not_opens
    (hran : Ran .choose .take
      (fun i => invoke digest program.ref (itemInvocation node n p i)) tr finished [])
    (hanswered : ∀ step ∈ tr, step.Answered (semantics limits)) : ∀ step ∈ tr, ¬ Opens step := by
  obtain ⟨items, hitems, idle, hsteps, hidle⟩ := hran.items (List.Perm.refl _)
  intro step hstep
  rw [← Multiset.mem_coe, hsteps] at hstep
  rcases Multiset.mem_add.mp hstep with hmem | hmem
  · rcases hidle step hmem with ⟨r, rfl⟩ | ⟨r, rfl⟩
    · exact id
    · exact id
  · obtain ⟨x, hx, hmem'⟩ := List.mem_flatMap.mp (Multiset.mem_coe.mp hmem)
    obtain ⟨i, -, hends, -⟩ := Program.exists_of_forall₂_right hitems x hx
    refine (@invoke_meets limits digest program.ref _ _ _ hends ?_).owned.not_opens
      step hmem'
    intro step' hstep'
    refine hanswered step' ?_
    rw [← Multiset.mem_coe, hsteps]
    exact Multiset.mem_add.mpr (.inr (Multiset.mem_coe.mpr
      (List.mem_flatMap.mpr ⟨x, hx, hstep'⟩)))

/-- The items of a fan-out with their traces and results, in the order of their indices. -/
structure ItemRuns (limits : ProgramLimits) (digest : Json → String)
    (program : CompiledExecutionProgram) (node : ProgramNode) (n : FanoutNode)
    (p : PreparedFanout) (tr : List (Step Op Raised))
    (items : List (List (Step Op Raised) × Except Raised InvocationResult)) : Prop where
  ends : List.Forall₂
    (fun i x => (invoke digest program.ref (itemInvocation node n p i)).Ends x.1 x.2)
    (List.range p.items.length) items
  answered : ∀ x ∈ items, ∀ step ∈ x.1, step.Answered (semantics limits)
  /-- The other steps choose and take. -/
  steps : ∃ idle : Multiset (Step Op Raised),
    (tr : Multiset (Step Op Raised)) = idle + (items.flatMap Prod.fst : List (Step Op Raised)) ∧
      ∀ step ∈ idle, (∃ r, step = ⟨.choose, r⟩) ∨ ∃ r, step = ⟨.take, r⟩

lemma perm_range_of_ran {w w' : World}
    (hran : Ran .choose .take
      (fun i => invoke digest program.ref (itemInvocation node n p i)) tr finished [])
    (hfollows : Follows (semantics limits) tr w w')
    (hqueue : w.queue = { next := 0, size := p.items.length })
    (hall : p.items.length ≤ finished.length ∨ ∃ a, ⟨.take, a⟩ ∈ tr ∧ ∀ i, a ≠ .ok (some i)) :
    (List.range p.items.length).Perm (finished.map Prod.fst) := by
  obtain ⟨hsize, htaken, -, hempty⟩ := follows_taken hfollows
    (ran_not_opens hran hfollows.answered) (by rw [hqueue]; exact Nat.zero_le _)
  obtain ⟨ends, paths, hends, hpaths, hmem, htally⟩ := hran.exists_tally taken fun step hidle => by
    rcases hidle with ⟨r, rfl⟩ | ⟨r, rfl, hnone⟩
    · rfl
    · rcases r with e | _ | i
      · rfl
      · rfl
      · exact absurd rfl (hnone i)
  obtain rfl := List.forall₂_nil_left_iff.mp hpaths
  have hzero : (ends.map fun t : List (Step Op Raised) => tally taken t).sum = 0 := by
    refine List.sum_eq_zero fun m hm => ?_
    obtain ⟨t, ht, rfl⟩ := List.mem_map.mp hm
    obtain ⟨f, -, hends'⟩ := Program.exists_of_forall₂_right hends t ht
    refine (@invoke_meets limits digest program.ref _ _ _ hends' ?_).owned.taken_eq_zero
    intro step hstep
    exact hfollows.answered step
      (Multiset.mem_coe.mp (hmem t (List.mem_append_left _ ht) step hstep))
  have hsum : ∀ is : List ℕ, (is.map fun i => taken ⟨.take, .ok (some i)⟩).sum = (is : Multiset ℕ) := by
    intro is
    induction is with
    | nil => rfl
    | cons i is ih =>
      rw [List.map_cons, List.sum_cons, ih]
      rfl
  rw [hzero, List.append_nil, hsum, List.map_nil, List.sum_nil, add_zero, zero_add, htaken, hqueue,
    Nat.sub_zero, ← List.range_eq_range', Multiset.coe_eq_coe] at htally
  rw [hqueue] at hsize hempty
  dsimp only at hsize hempty
  have hlength := htally.length_eq
  rw [List.length_range, List.length_map] at hlength
  have hnext : w'.queue.next = p.items.length := by
    rcases hall with hall | hall
    · omega
    · exact hempty hall
  rwa [hnext] at htally

/-- **The trace of a pool is made of one trace of every item**, and the futures give back the
results of the items. -/
theorem runItems_runs {w w' : World} {r : Except Raised (List (ℕ × Except Raised InvocationResult))}
    (h : Runs (semantics limits) (runItems digest program node n p) w tr r w')
    (hqueue : w.queue = { next := 0, size := p.items.length }) :
    ∃ finished items, r = .ok finished ∧ ItemRuns limits digest program node n p tr items ∧
      (List.range p.items.length).map (futureResult finished) = items.map Prod.snd := by
  obtain ⟨hends, hfollows⟩ := h
  obtain ⟨finished, rfl, hran, hall⟩ :=
    Program.threadPool_ends () (maxWorkers_pos program n p.registration) hends
  have hperm := perm_range_of_ran hran hfollows hqueue hall
  obtain ⟨items, hitems, idle, hsteps, hidle⟩ := hran.items hperm
  have hnodup : (finished.map Prod.fst).Nodup := hperm.nodup_iff.mp List.nodup_range
  refine ⟨finished, items, rfl, ⟨hitems.imp fun _ _ hx => hx.1, ?_, idle, hsteps, hidle⟩, ?_⟩
  · intro x hx step hstep
    refine hfollows.answered step ?_
    rw [← Multiset.mem_coe, hsteps]
    exact Multiset.mem_add.mpr (.inr (Multiset.mem_coe.mpr (List.mem_flatMap.mpr ⟨x, hx, hstep⟩)))
  · rw [← List.forall₂_eq_eq_eq, List.forall₂_map_left_iff, List.forall₂_map_right_iff]
    exact hitems.imp fun i x hx => futureResult_eq hx.2 hnodup

end Items

end AecBench.ProgramExecution
