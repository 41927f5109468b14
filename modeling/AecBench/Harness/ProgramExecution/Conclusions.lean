import AecBench.Harness.ProgramExecution.Nodes

/-!
# How the visit of a node concludes

A visit is made of the runs of its invocations: none for a node that needs no operation, one for an
action or a verification, one for each item of a fan-out. Its evidence is put together from their
results.

## Main definitions

* `InvocationRun` — the run of one invocation.
* `Performs` — the steps of a visit are those of its invocations.
* `Concluded` — what the visit gives back, by the results of its invocations.

## Main results

* `visitNode_concludes` — how the visit of a node concludes.
* `visitNode_executes` — what the executor knows when a node is executed.
-/

namespace AecBench.ProgramExecution

open AecBench.Contracts
open Program (Follows Runs Step tally tally_add tally_cons tally_eq_zero tally_nil)
open Text (NonEmptyStr)
open Validation

/-! ## Runs of invocations -/

/-- The run of one invocation: its item, its steps and its result. -/
structure InvocationRun where
  fanoutIndex : Option ℕ
  trace : List (Step Op Raised)
  result : Except Raised InvocationResult

/-- It is a run of an invocation of the node. -/
def InvocationRun.Of (node : ProgramNode) (x : InvocationRun) : Prop :=
  ∃ inv : Invocation, inv.nodeId = node.nodeId ∧ inv.retry = node.body.retry? ∧
    inv.fanoutIndex = x.fanoutIndex ∧ Invoked inv 1 [] x.trace x.result

/-- The steps are those of the runs, and others that claim and end nothing. -/
structure Performs (node : ProgramNode) (tr : List (Step Op Raised)) (runs : List InvocationRun) :
    Prop where
  invoked : ∀ x ∈ runs, x.Of node
  distinct : (runs.map InvocationRun.fanoutIndex).Nodup
  steps : ∃ idle : Multiset (Step Op Raised),
    (tr : Multiset (Step Op Raised)) =
        idle + (runs.flatMap InvocationRun.trace : List (Step Op Raised)) ∧
      ∀ step ∈ idle, stepEnding step = none ∧ spent step = 0
  queue : ∀ nodeId size r, ⟨.openQueue nodeId size, r⟩ ∈ tr →
    nodeId = node.nodeId ∧ node.body.kind = .fanout ∧
      runs.map InvocationRun.fanoutIndex = (List.range size).map some
  opened : node.body.kind = .fanout → runs ≠ [] → opening node runs.length ∈ tr
  single : node.body.kind ≠ .fanout → ∀ x ∈ runs, runs = [x] ∧ x.fanoutIndex = none

section Runs

variable {node : ProgramNode} {tr : List (Step Op Raised)} {runs : List InvocationRun}
  {x : InvocationRun} {e : Ending} {o : Option (NonEmptyStr × Option ℕ)}

lemma InvocationRun.Of.exists_ending (h : x.Of node) :
    ∃ e, e.Concludes x.result ∧ (some (node.nodeId, x.fanoutIndex), e) ∈ endings x.trace := by
  obtain ⟨inv, hnode, -, hindex, hinvoked⟩ := h
  obtain ⟨n, e, hconcludes, hends⟩ := hinvoked.ends
  rw [hnode, hindex] at hends
  exact ⟨e, hconcludes, by rw [hends]; simp⟩

lemma InvocationRun.Of.mem_endings (h : x.Of node) (he : (o, e) ∈ endings x.trace) :
    o = some (node.nodeId, x.fanoutIndex) ∧ (e = .failed ∨ e.Concludes x.result) := by
  obtain ⟨inv, hnode, -, hindex, hinvoked⟩ := h
  obtain ⟨n, e', hconcludes, hends⟩ := hinvoked.ends
  rw [hnode, hindex] at hends
  rw [hends] at he
  rcases List.mem_append.mp he with he | he
  · obtain ⟨-, heq⟩ := List.mem_replicate.mp he
    cases heq
    exact ⟨rfl, .inl rfl⟩
  · cases List.mem_singleton.mp he
    exact ⟨rfl, .inr hconcludes⟩

lemma mem_endings {x : Option (NonEmptyStr × Option ℕ) × Ending} :
    x ∈ endings tr ↔ ∃ step ∈ tr, (stepEnding step).map (fun e => (owner step, e)) = some x :=
  List.mem_filterMap

lemma Performs.mem_endings (h : Performs node tr runs) :
    (o, e) ∈ endings tr ↔ ∃ x ∈ runs, (o, e) ∈ endings x.trace := by
  obtain ⟨idle, hsteps, hidle⟩ := h.steps
  have hmem : ∀ step, step ∈ tr ↔ step ∈ idle ∨ ∃ x ∈ runs, step ∈ x.trace := by
    intro step
    rw [← Multiset.mem_coe, hsteps, Multiset.mem_add, Multiset.mem_coe, List.mem_flatMap]
  simp only [ProgramExecution.mem_endings]
  constructor
  · rintro ⟨step, hstep, hending⟩
    rcases (hmem step).mp hstep with hin | ⟨x, hx, hin⟩
    · rw [(hidle step hin).1] at hending
      cases hending
    · exact ⟨x, hx, step, hin, hending⟩
  · rintro ⟨x, hx, step, hin, hending⟩
    exact ⟨step, (hmem step).mpr (.inr ⟨x, hx, hin⟩), hending⟩

lemma Performs.spent (h : Performs node tr runs) :
    tally spent tr =
      (runs.map fun x => tally ProgramExecution.spent x.trace).sum := by
  obtain ⟨idle, hsteps, hidle⟩ := h.steps
  rw [hsteps, tally_add, tally_eq_zero _ fun step hstep => (hidle step hstep).2, zero_add]
  clear hsteps h
  induction runs with
  | nil => simp
  | cons x runs ih =>
    rw [List.flatMap_cons, Program.tally_append, ih, List.map_cons, List.sum_cons]

lemma performs_nil (hidle : ∀ step ∈ tr, ∃ walk, step = announcement walk node) :
    Performs node tr [] where
  invoked := by simp
  distinct := by simp
  steps := by
    refine ⟨tr, by simp, fun step hstep => ?_⟩
    obtain ⟨walk, rfl⟩ := hidle step (Multiset.mem_coe.mp hstep)
    exact ⟨rfl, rfl⟩
  queue := by
    intro nodeId size r hstep
    obtain ⟨walk, hwalk⟩ := hidle _ hstep
    cases hwalk
  opened := fun _ hne => absurd rfl hne
  single := fun _ _ hx => absurd hx List.not_mem_nil

end Runs

/-! ## Conclusions -/

/-- The first result that is a failure. -/
def firstFailed (xs : List InvocationResult) : Option InvocationResult :=
  xs.find? fun x => !x.succeeded

/-- The results agree about the names of their outputs. -/
def PortsAgree (xs : List InvocationResult) : Prop :=
  ∀ x ∈ xs, ∀ y ∈ xs, outputPorts x.outputs = outputPorts y.outputs

/-- The node reports the results of all its invocations. -/
structure Reports (xs : List InvocationResult) (x : ExecutedNode) : Prop where
  attempts : x.evidence.attempts = xs.flatMap InvocationResult.attempts
  failed : ∀ y, firstFailed xs = some y → x.evidence.status = .failed ∧ x.fatal = y.fatal ∧
    ∀ code, y.errorCode = some code → x.evidence.errorCode = some code
  succeeded : firstFailed xs = none → x.evidence.status = .succeeded ∧ x.fatal = false

/-- What a visit gives back, by the results of its invocations. -/
inductive Concluded (node : ProgramNode) (runs : List InvocationRun) :
    Except Raised ExecutedNode → Prop
  /-- Nothing was invoked. -/
  | idle {x} (hruns : runs = []) (hattempts : x.evidence.attempts = []) :
      Concluded node runs (.ok x)
  | reported {x} (xs) (hresults : runs.map InvocationRun.result = xs.map .ok)
      (hreports : Reports xs x) (hkind : node.body.kind ≠ .stop)
      (hports : node.body.kind = .fanout → firstFailed xs = none → PortsAgree xs) :
      Concluded node runs (.ok x)
  /-- The items of a fan-out succeed but do not agree. -/
  | inconsistent (xs) (hresults : runs.map InvocationRun.result = xs.map .ok)
      (hkind : node.body.kind = .fanout) (hsucceeded : firstFailed xs = none)
      (hports : ¬ PortsAgree xs) : Concluded node runs (.ok (faulted node inconsistentOutputPorts))
  | raised (errors) (x) (hx : x ∈ runs) (hresult : x.result = .error (.validationError errors)) :
      Concluded node runs (.error (.validationError errors))

/-! ## The items of a fan-out -/

section Items

variable {node : ProgramNode} {xs : List InvocationResult} {retry : Option RetryPolicy}

variable {x : InvocationRun} {y : InvocationResult}

lemma InvocationRun.Of.evidence (h : x.Of node) (hy : x.result = .ok y) :
    Attempts node.nodeId x.fanoutIndex node.body.retry? 1 y.attempts ∧
      y.attempts.length ≤ maxAttempts node.body.retry? ∧
        attemptsOf (tally spent x.trace) = y.attempts.length ∧
          recursionsOf (tally spent x.trace) =
            (y.attempts.map OperationAttemptEvidence.recursiveCalls).sum := by
  obtain ⟨inv, hnode, hretry, hindex, hinvoked⟩ := h
  obtain ⟨attempts, hattempts, hshape, hbound, hcount, hrecursions⟩ := hinvoked.evidence y hy
  rw [List.nil_append] at hattempts
  rw [hnode, hretry, hindex] at hshape
  rw [hretry] at hbound
  rw [hattempts]
  exact ⟨hshape, by omega, hcount, hrecursions⟩

lemma InvocationRun.Of.raised {e : Raised} (h : x.Of node) (he : x.result = .error e) :
    ∃ errors, e = .validationError errors := by
  obtain ⟨ending, hconcludes, -⟩ := h.exists_ending
  rw [he] at hconcludes
  cases ending with
  | unreportable => exact hconcludes
  | succeeded outputs | failed | fatal code => exact hconcludes.elim

lemma InvocationRun.Of.attempts_ne_nil (h : x.Of node) (hy : x.result = .ok y)
    (hsucceeded : y.succeeded = true) : y.attempts ≠ [] := by
  obtain ⟨inv, -, -, -, hinvoked⟩ := h
  exact hinvoked.reported y hy hsucceeded

lemma InvocationRun.Of.not_fatal (h : x.Of node) (hy : x.result = .ok y)
    (hsucceeded : y.succeeded = true) : y.fatal = false := by
  obtain ⟨ending, hconcludes, -⟩ := h.exists_ending
  rw [hy] at hconcludes
  cases ending with
  | succeeded outputs => exact hconcludes.2.1
  | failed => exact hconcludes.2
  | fatal code =>
    have hnot : y.succeeded = false := hconcludes.1
    rw [hnot] at hsucceeded
    cases hsucceeded
  | unreportable => exact hconcludes.elim

lemma Attempts.pairwise {nodeId : NonEmptyStr} {fanoutIndex : Option ℕ} {first : ℕ}
    {attempts : List OperationAttemptEvidence}
    (h : Attempts nodeId fanoutIndex retry first attempts) : attempts.Pairwise attemptBefore := by
  have hindices : (attempts.map OperationAttemptEvidence.attemptIndex).Pairwise (· ≤ ·) := by
    rw [h.indices]
    exact (@List.pairwise_lt_range' _ _ 1 Nat.one_pos).imp fun h => h.le
  refine (List.pairwise_map.mp hindices).imp_of_mem fun ha hb hle => .inr ⟨?_, hle⟩
  dsimp only
  rw [(h.owned _ ha).2, (h.owned _ hb).2]

lemma pairwise_attempts {first count : ℕ}
    (h : List.Forall₂ (fun i x => Attempts node.nodeId (some i) retry 1 x.attempts)
      (List.range' first count) xs) :
    (∀ a ∈ xs.flatMap InvocationResult.attempts, ∃ i, first ≤ i ∧ a.fanoutIndex = some i) ∧
      (xs.flatMap InvocationResult.attempts).Pairwise attemptBefore := by
  induction count generalizing first xs with
  | zero =>
    obtain rfl := List.forall₂_nil_left_iff.mp h
    simp
  | succ count ih =>
    obtain ⟨x, rest, hx, hrest, rfl⟩ := List.forall₂_cons_left_iff.mp h
    obtain ⟨hmem, hpairwise⟩ := ih hrest
    refine ⟨fun a ha => ?_, List.pairwise_append.mpr ⟨hx.pairwise, hpairwise, ?_⟩⟩
    · rcases List.mem_append.mp ha with ha | ha
      · exact ⟨first, le_rfl, (hx.owned a ha).2⟩
      · obtain ⟨i, hi, hindex⟩ := hmem a ha
        exact ⟨i, by omega, hindex⟩
    · intro a ha b hb
      obtain ⟨i, hi, hindex⟩ := hmem b hb
      refine .inl ?_
      dsimp only
      rw [(hx.owned a ha).2, hindex]
      change (first : ℤ) < i
      omega

lemma sortedAttempts_eq {count : ℕ}
    (h : List.Forall₂ (fun i x => Attempts node.nodeId (some i) retry 1 x.attempts)
      (List.range count) xs) :
    sortedAttempts xs = xs.flatMap InvocationResult.attempts := by
  rw [List.range_eq_range'] at h
  exact (pairwise_attempts h).2.insertionSort_eq

lemma aggregateFanoutOutputs_cases (xs : List InvocationResult) :
    (PortsAgree xs ∧ ∃ outputs, aggregateFanoutOutputs xs = .ok outputs) ∨
      ¬ PortsAgree xs ∧ aggregateFanoutOutputs xs = .error (.fault inconsistentOutputPorts) := by
  cases xs with
  | nil => exact .inl ⟨by simp [PortsAgree], _, rfl⟩
  | cons first rest =>
    by_cases hports : ∀ x ∈ rest, outputPorts x.outputs = outputPorts first.outputs
    · refine .inl ⟨?_, _, if_neg (by simpa using hports)⟩
      have hall : ∀ x ∈ first :: rest, outputPorts x.outputs = outputPorts first.outputs := by
        simpa using hports
      exact fun x hx y hy => (hall x hx).trans (hall y hy).symm
    · refine .inr ⟨fun hagree => hports fun x hx => ?_, if_pos (by simpa using hports)⟩
      exact hagree x (List.mem_cons_of_mem _ hx) first List.mem_cons_self

lemma fanoutOutcome_cases {p : PreparedFanout}
    (hsorted : sortedAttempts xs = xs.flatMap InvocationResult.attempts) :
    (∃ x, fanoutOutcome node p xs = .ok x ∧ Reports xs x ∧ (firstFailed xs = none → PortsAgree xs)) ∨
      fanoutOutcome node p xs = .error (.fault inconsistentOutputPorts) ∧
        firstFailed xs = none ∧ ¬ PortsAgree xs := by
  rw [fanoutOutcome]
  cases hfailed : firstFailed xs with
  | some failure =>
    have hfind : xs.find? (fun invocation => !invocation.succeeded) = some failure := hfailed
    rw [hfind]
    refine .inl ⟨_, rfl, ⟨hsorted, fun y hy => ?_, fun hnone => ?_⟩, fun hnone => by cases hnone⟩
    · obtain rfl := Option.some.inj (hfailed.symm.trans hy)
      refine ⟨rfl, rfl, fun code hcode => ?_⟩
      simp only [hcode, Option.getD_some]
    · rw [hfailed] at hnone; cases hnone
  | none =>
    have hfind : xs.find? (fun invocation => !invocation.succeeded) = none := hfailed
    rw [hfind]
    rcases aggregateFanoutOutputs_cases xs with ⟨hagree, outputs, hok⟩ | ⟨hagree, herror⟩
    · rw [hok]
      refine .inl ⟨_, rfl, ⟨hsorted, fun y hy => ?_, fun _ => ⟨rfl, rfl⟩⟩, fun _ => hagree⟩
      rw [hfailed] at hy; cases hy
    · rw [herror]
      exact .inr ⟨rfl, rfl, hagree⟩

end Items

/-! ## Collecting results -/

variable {rs : List (Except Raised InvocationResult)}

lemma mapM_id_eq_ok {xs : List InvocationResult} (h : rs.mapM id = .ok xs) : rs = xs.map .ok := by
  induction rs generalizing xs with
  | nil => cases h; rfl
  | cons r rs ih =>
    rw [List.mapM_cons] at h
    obtain ⟨x, hr, h⟩ := bind_eq_ok.mp h
    obtain ⟨rest, hrest, h⟩ := bind_eq_ok.mp h
    cases h
    obtain rfl : r = .ok x := hr
    rw [ih hrest, List.map_cons]

lemma mapM_id_eq_error {e : Raised} (h : rs.mapM id = .error e) : .error e ∈ rs := by
  induction rs with
  | nil => cases h
  | cons r rs ih =>
    rw [List.mapM_cons] at h
    cases r with
    | error e' => cases h; exact List.mem_cons_self
    | ok x =>
      cases hrest : rs.mapM id with
      | error e' =>
        rw [hrest] at h
        cases h
        exact List.mem_cons_of_mem _ (ih hrest)
      | ok rest => rw [hrest] at h; cases h

variable {items : List (List (Step Op Raised) × Except Raised InvocationResult)}

lemma exists_runs {node : ProgramNode} {indices : List ℕ}
    (h : List.Forall₂ (fun i x => InvocationRun.Of node ⟨some i, x.1, x.2⟩) indices items) :
    ∃ runs : List InvocationRun, (∀ x ∈ runs, x.Of node) ∧
      runs.map InvocationRun.fanoutIndex = indices.map some ∧
        runs.map InvocationRun.result = items.map Prod.snd ∧
          runs.flatMap InvocationRun.trace = items.flatMap Prod.fst := by
  induction h with
  | nil => exact ⟨[], by simp, rfl, rfl, rfl⟩
  | @cons i x indices items hx _ ih =>
    obtain ⟨runs, hruns, hindices, hresults, htraces⟩ := ih
    refine ⟨⟨some i, x.1, x.2⟩ :: runs, ?_, ?_, ?_, ?_⟩
    · intro y hy
      rcases List.mem_cons.mp hy with rfl | hy
      · exact hx
      · exact hruns y hy
    · rw [List.map_cons, List.map_cons, hindices]
    · rw [List.map_cons, List.map_cons, hresults]
    · rw [List.flatMap_cons, List.flatMap_cons, htraces]

/-! ## Visits -/

section Visits

variable {digest : Json → String} {program : CompiledExecutionProgram}
  {registry : OperationRegistry} {limits : ProgramLimits} {walk : Walk} {node : ProgramNode}
  {tr t : List (Step Op Raised)} {w w' : World} {r : Except Raised ExecutedNode}

lemma invocationRun_of {inv : Invocation} {r₀ : Except Raised InvocationResult}
    (hnode : inv.nodeId = node.nodeId) (hretry : inv.retry = node.body.retry?)
    (hends : (invoke digest program.ref inv).Ends t r₀)
    (hanswered : ∀ step ∈ t, step.Answered (semantics limits)) :
    InvocationRun.Of node ⟨inv.fanoutIndex, t, r₀⟩ :=
  ⟨inv, hnode, hretry, rfl, invoke_meets digest program.ref inv t r₀ hends hanswered⟩

lemma InvocationRun.Of.not_opens {x : InvocationRun} (h : x.Of node) :
    ∀ step ∈ x.trace, ¬ Opens step := by
  obtain ⟨inv, -, -, -, hinvoked⟩ := h
  exact hinvoked.owned.not_opens

lemma operation_performs {x : InvocationRun} (hx : x.Of node) (hkind : node.body.kind ≠ .fanout)
    (hindex : x.fanoutIndex = none) :
    Performs node (announcement walk node :: x.trace) [x] where
  invoked := by simpa using hx
  distinct := by simp
  steps := by
    refine ⟨{announcement walk node}, by simp, fun step hstep => ?_⟩
    rw [Multiset.mem_singleton.mp hstep]
    exact ⟨rfl, rfl⟩
  queue := by
    intro nodeId size r hstep
    rcases List.mem_cons.mp hstep with hstep | hstep
    · cases hstep
    · exact absurd trivial (hx.not_opens _ hstep)
  opened := fun hfanout => absurd hfanout hkind
  single := by
    intro _ x' hx'
    obtain rfl := List.mem_singleton.mp hx'
    exact ⟨rfl, hindex⟩

variable {p : PreparedFanout} {n : FanoutNode}

lemma fanout_performs (hn : node.body = .fanout n)
    (h : ItemRuns limits digest program node n p t items) :
    ∃ runs, Performs node (announcement walk node :: opening node p.items.length :: t) runs ∧
      runs.map InvocationRun.result = items.map Prod.snd ∧
        runs.map InvocationRun.fanoutIndex = (List.range p.items.length).map some := by
  have hitems : List.Forall₂ (fun i x => InvocationRun.Of node ⟨some i, x.1, x.2⟩)
      (List.range p.items.length) items := by
    refine List.forall₂_iff_get.mpr ⟨h.ends.length_eq, fun k hk hk' => ?_⟩
    have hends := h.ends.get hk hk'
    exact @invocationRun_of _ _ _ _ _ (itemInvocation node n p _) _ rfl (by rw [hn]; rfl) hends
      (h.answered _ (List.get_mem _ _))
  obtain ⟨runs, hruns, hindices, hresults, htraces⟩ := exists_runs hitems
  obtain ⟨idle, hsteps, hidle⟩ := h.steps
  have hlength : runs.length = p.items.length := by simpa using congrArg List.length hindices
  refine ⟨runs, ⟨hruns, ?_, ?_, ?_, fun _ _ => ?_, fun hkind => absurd (by rw [hn]; rfl) hkind⟩,
    hresults, hindices⟩
  · rw [hindices]
    exact List.nodup_range.map (Option.some_injective _)
  · refine ⟨announcement walk node ::ₘ opening node p.items.length ::ₘ idle, ?_, ?_⟩
    · rw [htraces, Multiset.cons_add, Multiset.cons_add, ← hsteps]
      rfl
    · intro step hstep
      rcases Multiset.mem_cons.mp hstep with rfl | hstep
      · exact ⟨rfl, rfl⟩
      rcases Multiset.mem_cons.mp hstep with rfl | hstep
      · exact ⟨rfl, rfl⟩
      rcases hidle step hstep with ⟨r, rfl⟩ | ⟨r, rfl⟩
      · exact ⟨rfl, rfl⟩
      · exact ⟨rfl, rfl⟩
  · intro nodeId size r hstep
    rcases List.mem_cons.mp hstep with hstep | hstep
    · cases hstep
    rcases List.mem_cons.mp hstep with hstep | hstep
    · cases hstep
      exact ⟨rfl, by rw [hn]; rfl, hindices⟩
    · -- The items open no queue, and the other steps choose and take.
      rw [← Multiset.mem_coe, hsteps] at hstep
      have hopens : Opens ⟨.openQueue nodeId size, r⟩ := trivial
      rcases Multiset.mem_add.mp hstep with hstep | hstep
      · rcases hidle _ hstep with ⟨r, hr⟩ | ⟨r, hr⟩
        · rw [hr] at hopens
          exact hopens.elim
        · rw [hr] at hopens
          exact hopens.elim
      · rw [Multiset.mem_coe, ← htraces] at hstep
        obtain ⟨x, hx, hstep⟩ := List.mem_flatMap.mp hstep
        exact absurd hopens ((hruns x hx).not_opens _ hstep)
  · rw [hlength]
    exact List.mem_cons_of_mem _ List.mem_cons_self

lemma fanout_concludes {runs : List InvocationRun} (hn : node.body = .fanout n)
    (hruns : ∀ x ∈ runs, x.Of node) (hresults : runs.map InvocationRun.result = rs)
    (hindices : runs.map InvocationRun.fanoutIndex = (List.range p.items.length).map some) :
    Concluded node runs (caught node (itemsOutcome node p rs)) := by
  rw [itemsOutcome]
  cases hall : rs.mapM id with
  | error e =>
    obtain ⟨x, hx, hxe⟩ := List.mem_map.mp (hresults ▸ mapM_id_eq_error hall)
    obtain ⟨errors, rfl⟩ := (hruns x hx).raised hxe
    exact .raised errors x hx hxe
  | ok xs =>
    have hxs := mapM_id_eq_ok hall
    have hkind : node.body.kind = .fanout := by rw [hn]; rfl
    have hitems : List.Forall₂
        (fun i y => Attempts node.nodeId (some i) node.body.retry? 1 y.attempts)
        (List.range p.items.length) xs := by
      have hlength : runs.length = p.items.length := by
        simpa using congrArg List.length hindices
      have hlength' : runs.length = xs.length := by
        simpa using congrArg List.length (hresults.trans hxs)
      refine List.forall₂_iff_get.mpr ⟨by rw [List.length_range]; omega, fun k hk hk' => ?_⟩
      have hk'' : k < runs.length := by omega
      have hindex : (runs.get ⟨k, hk''⟩).fanoutIndex = some k := by
        have hget := List.getElem_of_eq hindices (by simpa using hk'')
        simpa using hget
      have hresult : (runs.get ⟨k, hk''⟩).result = .ok (xs.get ⟨k, hk'⟩) := by
        have hget := List.getElem_of_eq (hresults.trans hxs) (by simpa using hk'')
        simpa using hget
      have hevidence := (hruns _ (List.get_mem _ _)).evidence hresult
      rw [hindex] at hevidence
      simpa using hevidence.1
    rcases fanoutOutcome_cases (p := p) (sortedAttempts_eq hitems) with
      ⟨x, hok, hreports, hports⟩ | ⟨herror, hsucceeded, hports⟩
    · have hcaught : caught node (Except.ok xs >>= fanoutOutcome node p) = .ok x :=
        (congrArg (caught node) hok : _)
      rw [hcaught]
      exact .reported xs (hresults.trans hxs) hreports (by rw [hkind]; decide) fun _ => hports
    · have hcaught : caught node (Except.ok xs >>= fanoutOutcome node p) =
          .ok (faulted node inconsistentOutputPorts) := (congrArg (caught node) herror : _)
      rw [hcaught]
      exact .inconsistent xs (hresults.trans hxs) hkind hsucceeded hports

lemma operation_reports {inv : Invocation} {bindings : List InputBindingLineage}
    {y : InvocationResult} (hfatal : y.succeeded = true → y.fatal = false) :
    Reports [y] (executedOperationNode node inv.registration bindings y) where
  attempts := by simp [executedOperationNode]
  failed := by
    intro y' hy'
    cases hsucceeded : y.succeeded with
    | true => simp [firstFailed, hsucceeded] at hy'
    | false =>
      have hy : y = y' := by simpa [firstFailed, hsucceeded] using hy'
      subst hy
      exact ⟨by simp [executedOperationNode, hsucceeded], rfl, fun code hcode => hcode⟩
  succeeded := by
    intro hnone
    have hsucceeded : y.succeeded = true := by simpa [firstFailed] using hnone
    exact ⟨by simp [executedOperationNode, hsucceeded], hfatal hsucceeded⟩

/-- **How the visit of a node concludes.** -/
theorem visitNode_concludes (hmem : node ∈ program.nodes)
    (h : Runs (semantics limits) (visitNode digest program registry walk node) w tr r w') :
    ∃ runs, Performs node tr runs ∧ Concluded node runs r := by
  rcases visitNode_runs h with ⟨code, rfl, rfl, -⟩ | ⟨-, -, r₀, rfl, hrun⟩
  · exact ⟨[], performs_nil (by simp), .idle rfl rfl⟩
  have hfits : (task digest program registry walk node).Fits node := task_fits hmem
  cases htask : task digest program registry walk node with
  | settle announced outcome =>
    rw [htask] at hfits hrun
    obtain ⟨rfl, -, rfl⟩ := runTask_settle hrun
    refine ⟨[], performs_nil fun step hstep => ?_, ?_⟩
    · cases announced with
      | false => cases hstep
      | true => exact ⟨walk, List.mem_singleton.mp hstep⟩
    · cases hr₀ : r₀ with
      | ok x => exact .idle rfl (hfits.2 x hr₀).attempts
      | error e =>
        obtain ⟨f, rfl⟩ := hfits.1 e hr₀
        exact .idle rfl rfl
  | operation p =>
    rw [htask] at hfits hrun
    obtain ⟨t, r₁, rfl, ⟨hends, hfollows⟩, rfl⟩ := runTask_operation hrun
    obtain ⟨hnode, hretry, hindex, hkind⟩ := hfits
    have hof := @invocationRun_of _ _ limits _ _ _ _ hnode hretry hends hfollows.answered
    have hfanout : node.body.kind ≠ .fanout := by
      rcases hkind with hkind | hkind
      · rw [hkind]; decide
      · rw [hkind]; decide
    refine ⟨[_], operation_performs hof hfanout hindex, ?_⟩
    cases r₁ with
    | error e =>
      obtain ⟨errors, rfl⟩ := hof.raised rfl
      exact .raised errors _ List.mem_cons_self rfl
    | ok y =>
      refine .reported [y] rfl (operation_reports (hof.not_fatal rfl)) ?_
        fun hkind => absurd hkind hfanout
      rcases hkind with hkind | hkind
      · rw [hkind]; decide
      · rw [hkind]; decide
  | fanout n p =>
    rw [htask] at hfits hrun
    obtain ⟨t, items, rfl, -, hitems, rfl⟩ := runTask_fanout hrun
    obtain ⟨runs, hperforms, hresults, hindices⟩ :=
      @fanout_performs _ _ _ _ walk _ _ _ _ hfits hitems
    exact ⟨runs, hperforms, fanout_concludes hfits hperforms.invoked hresults hindices⟩

/-- The step announces a node. -/
def Announces : Step Op Raised → Prop
  | ⟨.execute _ _, _⟩ => True
  | _ => False

lemma OwnedBy.not_announces {nodeId : NonEmptyStr} {fanoutIndex : Option ℕ}
    (h : OwnedBy nodeId fanoutIndex tr) : ∀ step ∈ tr, ¬ Announces step := by
  intro step hstep hannounces
  rcases h step hstep with howner | ⟨r, s, rfl⟩
  · obtain ⟨op, answer⟩ := step
    cases op with
    | execute node walk => cases howner
    | _ => exact hannounces
  · exact hannounces

lemma itemRuns_not_announces (h : ItemRuns limits digest program node n p t items) :
    ∀ step ∈ t, ¬ Announces step := by
  intro step hstep hannounces
  obtain ⟨idle, hsteps, hidle⟩ := h.steps
  rw [← Multiset.mem_coe, hsteps] at hstep
  rcases Multiset.mem_add.mp hstep with hstep | hstep
  · rcases hidle _ hstep with ⟨r, rfl⟩ | ⟨r, rfl⟩
    · exact hannounces
    · exact hannounces
  · obtain ⟨x, hx, hstep⟩ := List.mem_flatMap.mp (Multiset.mem_coe.mp hstep)
    obtain ⟨i, -, hends⟩ := Program.exists_of_forall₂_right h.ends x hx
    exact (invoke_meets digest program.ref _ _ _ hends (h.answered x hx)).owned.not_announces
      step hstep hannounces

/-- **A node is announced when it is executed**, with what the executor knows then. -/
theorem visitNode_executes {node' : ProgramNode} {known : Walk} {answer : Except Raised Unit}
    (h : Runs (semantics limits) (visitNode digest program registry walk node) w tr r w')
    (hstep : ⟨.execute node' known, answer⟩ ∈ tr) :
    node' = node ∧ known = walk ∧ walk.terminated = false ∧
      activationError program walk node = none := by
  have hhead : ∀ {t : List (Step Op Raised)}, (∀ step ∈ t, ¬ Announces step) →
      ⟨.execute node' known, answer⟩ ∈ announcement walk node :: t → node' = node ∧ known = walk := by
    intro t ht hmem
    rcases List.mem_cons.mp hmem with heq | hmem
    · cases heq
      exact ⟨rfl, rfl⟩
    · exact absurd trivial (ht _ hmem)
  rcases visitNode_runs h with ⟨code, -, rfl, -⟩ | ⟨hterminated, hactive, r₀, -, hrun⟩
  · cases hstep
  suffices hsame : node' = node ∧ known = walk by
    exact ⟨hsame.1, hsame.2, hterminated, hactive⟩
  cases htask : task digest program registry walk node with
  | settle announced outcome =>
    rw [htask] at hrun
    obtain ⟨-, -, rfl⟩ := runTask_settle hrun
    cases announced with
    | false => cases hstep
    | true => exact hhead (t := []) (by simp) hstep
  | operation p =>
    rw [htask] at hrun
    obtain ⟨t, r₁, rfl, ⟨hends, hfollows⟩, -⟩ := runTask_operation hrun
    exact hhead (invoke_meets digest program.ref p.invocation t r₁ hends
      hfollows.answered).owned.not_announces hstep
  | fanout n p =>
    rw [htask] at hrun
    obtain ⟨t, items, rfl, -, hitems, -⟩ := runTask_fanout hrun
    refine hhead (fun step hstep => ?_) hstep
    rcases List.mem_cons.mp hstep with rfl | hstep
    · exact id
    · exact itemRuns_not_announces hitems step hstep

end Visits

end AecBench.ProgramExecution
