import AecBench.Harness.ProgramExecution.Executor

/-!
# What an invocation does

The steps of an invocation claim its attempts and its recursive calls, and each of its attempts
ends in one of four ways. The result of the invocation, and the evidence of its attempts, are
determined by these.

## Main definitions

* `spent`, `attemptsOf`, `recursionsOf` — what steps claim of the budget.
* `Ending`, `endings` — how the attempts of a trace end; `owner` — the invocation a step is of.
* `Slotted` — the steps hold at most one operation slot at a time.
* `Proper` — the answers that operations can have.
* `Attempts` — the attempts that an invocation leaves as evidence.

## Main results

* `invoke_meets` — the attempts of an invocation fail until one of them decides the result.
-/

namespace AecBench.ProgramExecution

open AecBench.Contracts
open Program (Meets Step leaf tally tally_add tally_append tally_cons tally_nil)
open Text (NonEmptyStr)
open Validation

/-! ## Spending -/

/-- What is claimed of the budget: an attempt, or a recursive call of a node. -/
inductive Spend
  | attempt
  | recursion (nodeId : NonEmptyStr) (depth : ℕ)
  deriving DecidableEq

/-- What a step claims. -/
def spent : Step Op Raised → Multiset Spend
  | ⟨.claimAttempt _ _, .ok _⟩ => {.attempt}
  | ⟨.claimRecursion context depth, .ok _⟩ => {.recursion context.nodeId depth.toNat}
  | _ => 0

def attemptsOf (s : Multiset Spend) : ℕ := s.count .attempt

def recursionsOf (s : Multiset Spend) : ℕ := s.countP (· ≠ .attempt)

@[simp] lemma attemptsOf_zero : attemptsOf 0 = 0 := rfl

@[simp] lemma attemptsOf_add (s t : Multiset Spend) :
    attemptsOf (s + t) = attemptsOf s + attemptsOf t := Multiset.count_add _ _ _

@[simp] lemma recursionsOf_zero : recursionsOf 0 = 0 := rfl

@[simp] lemma recursionsOf_add (s t : Multiset Spend) :
    recursionsOf (s + t) = recursionsOf s + recursionsOf t := Multiset.countP_add _ _ _

@[simp] lemma attemptsOf_cons_attempt (s : Multiset Spend) :
    attemptsOf (.attempt ::ₘ s) = attemptsOf s + 1 := Multiset.count_cons_self _ _

@[simp] lemma recursionsOf_cons_attempt (s : Multiset Spend) :
    recursionsOf (.attempt ::ₘ s) = recursionsOf s := by
  simp [recursionsOf]

@[simp] lemma attemptsOf_cons_recursion (nodeId : NonEmptyStr) (d : ℕ) (s : Multiset Spend) :
    attemptsOf (.recursion nodeId d ::ₘ s) = attemptsOf s :=
  Multiset.count_cons_of_ne (by simp) _

@[simp] lemma recursionsOf_cons_recursion (nodeId : NonEmptyStr) (d : ℕ) (s : Multiset Spend) :
    recursionsOf (.recursion nodeId d ::ₘ s) = recursionsOf s + 1 := by
  simp [recursionsOf]

/-! ## Endings -/

/-- The invocation a step is of: its node, and its item. -/
def owner : Step Op Raised → Option (NonEmptyStr × Option ℕ)
  | ⟨.claimAttempt nodeId fanoutIndex, _⟩ => some (nodeId, fanoutIndex)
  | ⟨.enterSlot context, _⟩ => some (context.nodeId, context.fanoutIndex)
  | ⟨.handler _ context, _⟩ => some (context.nodeId, context.fanoutIndex)
  | ⟨.claimRecursion context _, _⟩ => some (context.nodeId, context.fanoutIndex)
  | ⟨.leaveSlot context _, _⟩ => some (context.nodeId, context.fanoutIndex)
  | _ => none

/-- How an attempt ends: with a result, with an ordinary failure, with a fatal fault, or with an
exception whose text cannot be the message of a result. -/
inductive Ending
  | succeeded (outputs : JsonObject)
  | failed
  | fatal (code : NonEmptyStr)
  | unreportable

def invalidHandlerResult : NonEmptyStr := ⟨"invalid_handler_result", by decide⟩

/-- How an attempt ends when its handler does. -/
def HandlerOutcome.ending : HandlerOutcome → Ending
  | .returned (.fields result) =>
    if result.errors = [] then
      if result.status = .succeeded then .succeeded result.outputs else .failed
    else .fatal invalidHandlerResult
  | .returned .other => .fatal invalidHandlerResult
  | .fault f => .fatal f.code
  | .failure _ message => if Text.Blank message then .unreportable else .failed
  | .exception text typeName =>
    if Text.Blank text ∧ Text.Blank typeName then .unreportable else .failed

/-- How an attempt ends in a step, if it does. -/
def stepEnding : Step Op Raised → Option Ending
  | ⟨.claimAttempt _ _, .error (.fault fault)⟩ => some (.fatal fault.code)
  | ⟨.enterSlot _, .error (.fault fault)⟩ => some (.fatal fault.code)
  | ⟨.leaveSlot _ outcome, _⟩ => some outcome.ending
  | _ => none

/-- The endings of a trace, with the invocations they belong to. -/
def endings (tr : List (Step Op Raised)) : List (Option (NonEmptyStr × Option ℕ) × Ending) :=
  tr.filterMap fun step => (stepEnding step).map fun e => (owner step, e)

@[simp] lemma endings_nil : endings [] = [] := rfl

@[simp] lemma endings_cons (step : Step Op Raised) (tr : List (Step Op Raised)) :
    endings (step :: tr) =
      ((stepEnding step).map fun e => (owner step, e)).toList ++ endings tr := by
  rw [endings, List.filterMap_cons]
  cases stepEnding step <;> rfl

@[simp] lemma endings_append (tr t : List (Step Op Raised)) :
    endings (tr ++ t) = endings tr ++ endings t := List.filterMap_append

/-- The ending of an attempt agrees with what it becomes. -/
def Ending.Converts : Ending → Except Raised Attempted → Prop
  | .succeeded outputs, .ok a =>
    a.result.val.status = .succeeded ∧ a.fatal = false ∧ a.result.val.outputs = outputs
  | .failed, .ok a => a.result.val.status = .failed ∧ a.fatal = false
  | .fatal code, .ok a =>
    a.result.val.status = .failed ∧ a.fatal = true ∧ a.result.errorCode = some code
  | .unreportable, .error e => ∃ errors, e = .validationError errors
  | _, _ => False

/-! ## Handlers -/

lemma failed_eq_ok {code message : String} (hcode : ¬ Text.Blank code)
    (hmessage : ¬ Text.Blank message) :
    ∃ r, OperationResult.failed code message = .ok r ∧ r.val.status = .failed ∧
      r.errorCode = some ⟨code, hcode⟩ := by
  have herrors : OperationResultFields.errors
      { status := .failed, errorCode := some code, errorMessage := some message } = [] := by
    rw [OperationResult.errors_eq_nil]
    simp [hcode, hmessage]
  refine ⟨⟨_, herrors⟩, ?_, rfl, rfl⟩
  simp [OperationResult.failed, validate, herrors]

lemma failed_eq_error (code : String) {message : String} (hmessage : Text.Blank message) :
    ∃ errors, OperationResult.failed code message = .error errors := by
  have herrors : OperationResultFields.errors
      { status := .failed, errorCode := some code, errorMessage := some message } ≠ [] := by
    rw [Ne, OperationResult.errors_eq_nil]
    simp [hmessage]
  exact ⟨_, by simp [OperationResult.failed, validate, herrors]; rfl⟩

lemma invalidHandlerResult_eq_ok :
    ∃ r, OperationResult.failed "invalid_handler_result"
        "trusted operation handler did not return a valid OperationResult" = .ok r ∧
      r.val.status = .failed ∧ r.errorCode = some invalidHandlerResult :=
  failed_eq_ok (by decide) (by decide)

/-- **What the outcome of a handler becomes** agrees with how its attempt ends. -/
lemma converts (report : HandlerReport) : report.outcome.ending.Converts (convert report) := by
  obtain ⟨outcome, calls, depth⟩ := report
  cases outcome with
  | returned value =>
    cases value with
    | other =>
      obtain ⟨r, hr, hstatus, hcode⟩ := invalidHandlerResult_eq_ok
      simp [HandlerOutcome.ending, convert, handlerResult, handlerResult.failedResult, hr,
        Except.map, Ending.Converts, hstatus, hcode]
    | fields result =>
      by_cases herrors : result.errors = []
      · have hvalid : validate OperationResultFields.errors result = .ok ⟨result, herrors⟩ := by
          simp [validate, herrors]
        cases hstatus : result.status <;>
          simp [HandlerOutcome.ending, convert, handlerResult, hvalid, Except.map, herrors,
            hstatus, Ending.Converts]
      · have hvalid : ∃ errors, validate OperationResultFields.errors result = .error errors := by
          exact ⟨_, by simp [validate, herrors]; rfl⟩
        obtain ⟨errors, hvalid⟩ := hvalid
        obtain ⟨r, hr, hstatus, hcode⟩ := invalidHandlerResult_eq_ok
        simp [HandlerOutcome.ending, convert, handlerResult, handlerResult.failedResult, hvalid, hr,
          Except.map, Ending.Converts, hstatus, hcode, herrors]
  | fault f =>
    obtain ⟨r, hr, hstatus, hcode⟩ := failed_eq_ok f.code.not_blank f.message.not_blank
    simp [HandlerOutcome.ending, convert, handlerResult, handlerResult.failedResult, hr,
      Except.map, Ending.Converts, hstatus, hcode]
  | failure code message =>
    by_cases hblank : Text.Blank message
    · obtain ⟨errors, hr⟩ := failed_eq_error code.val hblank
      simp [HandlerOutcome.ending, convert, handlerResult, handlerResult.failedResult, hr,
        Except.map, Ending.Converts, hblank]
    · obtain ⟨r, hr, hstatus, hcode⟩ := failed_eq_ok code.not_blank hblank
      simp [HandlerOutcome.ending, convert, handlerResult, handlerResult.failedResult, hr,
        Except.map, Ending.Converts, hblank, hstatus]
  | exception text typeName =>
    have hmessage : Text.Blank (if Text.Blank text then typeName else Text.strip text) ↔
        Text.Blank text ∧ Text.Blank typeName := by
      by_cases htext : Text.Blank text
      · simp [htext]
      · simp [htext, Text.not_blank_strip htext]
    by_cases hblank : Text.Blank text ∧ Text.Blank typeName
    · obtain ⟨errors, hr⟩ := failed_eq_error "handler_exception" (hmessage.mpr hblank)
      simp only [HandlerOutcome.ending, convert, handlerResult, handlerResult.failedResult, hr,
        Except.map, if_pos hblank]
      exact ⟨errors, rfl⟩
    · obtain ⟨r, hr, hstatus, hcode⟩ := @failed_eq_ok "handler_exception" _ (by decide)
        (fun h => hblank (hmessage.mp h))
      simp only [HandlerOutcome.ending, convert, handlerResult, handlerResult.failedResult, hr,
        Except.map, if_neg hblank]
      exact ⟨hstatus, rfl⟩

/-! ## Operation slots -/

/-- What a step changes about the operation slots that are held. -/
def slot : Step Op Raised → ℤ
  | ⟨.enterSlot _, .ok _⟩ => 1
  | ⟨.leaveSlot _ _, _⟩ => -1
  | _ => 0

/-- The steps hold at most one slot at a time, and none at the end. -/
structure Slotted (tr : List (Step Op Raised)) : Prop where
  held : ∀ t, t <+: tr → tally slot (t : List (Step Op Raised)) ≤ 1
  released : tally slot tr = 0

lemma slotted_nil : Slotted [] where
  held := by
    intro t ht
    rw [List.prefix_nil.mp ht, tally_nil]
    exact zero_le_one
  released := tally_nil _

variable {tr t : List (Step Op Raised)}

lemma Slotted.append (h : Slotted tr) (h' : Slotted t) :
    Slotted (tr ++ t) where
  held := by
    intro part hpart
    obtain ⟨suffix, hsuffix⟩ := hpart
    rcases List.append_eq_append_iff.mp hsuffix with ⟨rest, htr, -⟩ | ⟨rest, rfl, ht⟩
    · exact h.held part ⟨rest, htr.symm⟩
    · rw [tally_append, h.released, zero_add]
      exact h'.held rest ⟨suffix, ht.symm⟩
  released := by rw [tally_append, h.released, h'.released, zero_add]

lemma slotted_of_forall (h : ∀ step ∈ tr, slot step = 0) : Slotted tr := by
  have hzero : ∀ t : List (Step Op Raised), (∀ step ∈ t, slot step = 0) → tally slot t = 0 :=
    fun t ht => Program.tally_eq_zero slot fun step hstep => ht step (Multiset.mem_coe.mp hstep)
  refine ⟨fun t ht => ?_, hzero tr h⟩
  rw [hzero t fun step hstep => h step (ht.subset hstep)]
  exact zero_le_one

variable {step : Step Op Raised}

lemma Slotted.cons_zero (hstep : slot step = 0) (h : Slotted tr) : Slotted (step :: tr) := by
  have hfirst : Slotted [step] :=
    slotted_of_forall fun step' hmem => by rw [List.mem_singleton.mp hmem, hstep]
  exact hfirst.append h

variable {context : OperationExecutionContext}

lemma slotted_call {outcome : HandlerOutcome} {r : Except Raised Unit}
    (h : ∀ step ∈ tr, slot step = 0) :
    Slotted (⟨.enterSlot context, .ok ()⟩ :: (tr ++ [⟨.leaveSlot context outcome, r⟩])) := by
  have henter : slot ⟨.enterSlot context, .ok ()⟩ = 1 := rfl
  have hleave : slot ⟨.leaveSlot context outcome, r⟩ = -1 := rfl
  have hslotted := slotted_of_forall h
  refine ⟨fun t ht => ?_, ?_⟩
  · cases t with
    | nil =>
      exact zero_le_one
    | cons step t =>
      obtain ⟨rfl, hrest⟩ := List.cons_prefix_cons.mp ht
      have hzero : ∀ part, part <+: tr → tally slot (part : List (Step Op Raised)) = 0 :=
        fun part hpart => (slotted_of_forall fun step hstep => h step (hpart.subset hstep)).released
      rw [tally_cons, henter]
      rcases List.prefix_concat_iff.mp hrest with rfl | hrest
      · rw [tally_append, hslotted.released, tally_cons, tally_nil, hleave]
        decide
      · rw [hzero t hrest]
        decide
  · rw [tally_cons, tally_append, hslotted.released, tally_cons, tally_nil, henter, hleave]
    decide

/-! ## Answers -/

section Answers

variable {limits : ProgramLimits}

lemma locked_cases (x : Except RuntimeFault World) (w : World) :
    (locked x w).1 = .ok () ∨ ∃ f, (locked x w).1 = .error (.fault f) := by
  cases x with
  | ok w' => exact .inl rfl
  | error f => exact .inr ⟨f, rfl⟩

/-- An operation under the lock succeeds, or raises a fault of the runtime. -/
def Granted (r : Except Raised Unit) : Prop := r = .ok () ∨ ∃ f, r = .error (.fault f)

/-- The answer is one that the operation can have. -/
def Proper : Step Op Raised → Prop
  | ⟨.claimAttempt _ _, r⟩ => Granted r
  | ⟨.enterSlot _, r⟩ => Granted r
  | ⟨.claimRecursion _ _, r⟩ => Granted r
  | ⟨.handler _ _, r⟩ => ∃ run, r = .ok run
  | ⟨.leaveSlot _ _, r⟩ => r = .ok ()
  | ⟨.sleep _, r⟩ => r = .ok ()
  | _ => True

lemma proper_of_answered (h : step.Answered (semantics limits)) : Proper step := by
  obtain ⟨op, answer⟩ := step
  obtain ⟨i, w, rfl⟩ := h.exists_eq
  cases op with
  | claimAttempt nodeId fanoutIndex | enterSlot context | claimRecursion context depth =>
    exact locked_cases _ w
  | handler arguments context => exact ⟨_, rfl⟩
  | leaveSlot context outcome | sleep seconds => rfl
  | execute node walk | openQueue nodeId size | take | choose | readBudget => trivial

end Answers

/-! ## Attempts -/

section Invocations

variable {limits : ProgramLimits}

/-- All steps are of one invocation, apart from those that are of none. -/
def OwnedBy (nodeId : NonEmptyStr) (fanoutIndex : Option ℕ) (tr : List (Step Op Raised)) : Prop :=
  ∀ step ∈ tr, owner step = some (nodeId, fanoutIndex) ∨ ∃ r s, step = ⟨.sleep s, r⟩

variable {nodeId : NonEmptyStr} {fanoutIndex : Option ℕ}

lemma OwnedBy.append (h : OwnedBy nodeId fanoutIndex tr) (h' : OwnedBy nodeId fanoutIndex t) :
    OwnedBy nodeId fanoutIndex (tr ++ t) := by
  intro step hstep
  rcases List.mem_append.mp hstep with hstep | hstep
  · exact h step hstep
  · exact h' step hstep

lemma OwnedBy.cons (hstep : owner step = some (nodeId, fanoutIndex))
    (h : OwnedBy nodeId fanoutIndex tr) : OwnedBy nodeId fanoutIndex (step :: tr) := by
  intro step' hmem
  rcases List.mem_cons.mp hmem with rfl | hmem
  · exact .inl hstep
  · exact h step' hmem

lemma ownedBy_nil : OwnedBy nodeId fanoutIndex [] := fun _ hstep => absurd hstep List.not_mem_nil

/-- All recursive calls are claimed within the same limits of a node. -/
def Claims (limits : RecursionLimits) (tr : List (Step Op Raised)) : Prop :=
  ∀ context depth r, ⟨.claimRecursion context depth, r⟩ ∈ tr → context.recursion = limits

/-- The step claims a recursive call. -/
def claimsRecursion : Step Op Raised → Bool
  | ⟨.claimRecursion _ _, _⟩ => true
  | _ => false

lemma claims_nil {limits : RecursionLimits} : Claims limits [] :=
  fun _ _ _ hstep => absurd hstep List.not_mem_nil

lemma Claims.append {limits : RecursionLimits} (h : Claims limits tr) (h' : Claims limits t) :
    Claims limits (tr ++ t) := by
  intro context depth r hstep
  rcases List.mem_append.mp hstep with hstep | hstep
  · exact h context depth r hstep
  · exact h' context depth r hstep

lemma Claims.cons_other {limits : RecursionLimits} (hstep : claimsRecursion step = false)
    (h : Claims limits tr) : Claims limits (step :: tr) := by
  intro context depth r hmem
  rcases List.mem_cons.mp hmem with rfl | hmem
  · cases hstep
  · exact h context depth r hmem

lemma Claims.cons_claim {depth : Depth} {r : Except Raised Unit} (h : Claims context.recursion tr) :
    Claims context.recursion (⟨.claimRecursion context depth, r⟩ :: tr) := by
  intro context' depth' r' hmem
  rcases List.mem_cons.mp hmem with heq | hmem
  · cases heq
    rfl
  · exact h context' depth' r' hmem

lemma runHandler_meets (context : OperationExecutionContext) (run : HandlerRun)
    (calls depth : ℕ) :
    (runHandler context run calls depth).Meets Proper fun tr r =>
      OwnedBy context.nodeId context.fanoutIndex tr ∧ Claims context.recursion tr ∧
        (∀ step ∈ tr, slot step = 0) ∧ endings tr = [] ∧ attemptsOf (tally spent tr) = 0 ∧
          ∃ report, r = .ok report ∧
            report.callsUsed = calls + recursionsOf (tally spent tr) := by
  induction run generalizing calls depth with
  | finish outcome =>
    exact Meets.done ⟨ownedBy_nil, claims_nil, by simp, rfl, by simp, ⟨outcome, calls, depth⟩, rfl,
      by simp⟩
  | claim d next ih =>
    rw [runHandler]
    refine Meets.call fun r hanswered => ?_
    rcases hanswered with rfl | ⟨f, rfl⟩
    · refine (ih none (calls + 1) (max depth d.toNat)).mono ?_
      rintro t r ⟨hown, hclaims, hslot, hend, hattempts, report, rfl, hcalls⟩
      refine ⟨.cons rfl hown, hclaims.cons_claim, List.forall_mem_cons.mpr ⟨rfl, hslot⟩,
        by simp [hend, stepEnding], ?_, report, rfl, ?_⟩
      · simp [spent, hattempts]
      · simp only [tally_cons, spent, Multiset.singleton_add, recursionsOf_cons_recursion]
        omega
    · refine (ih (some f) calls depth).mono ?_
      rintro t r ⟨hown, hclaims, hslot, hend, hattempts, report, rfl, hcalls⟩
      exact ⟨.cons rfl hown, hclaims.cons_claim, List.forall_mem_cons.mpr ⟨rfl, hslot⟩,
        by simp [hend, stepEnding], by simp [spent, hattempts], report, rfl,
        by simpa [spent] using hcalls⟩

lemma callHandler_meets (arguments : JsonObject) (context : OperationExecutionContext) :
    (callHandler arguments context).Meets Proper fun tr r =>
      OwnedBy context.nodeId context.fanoutIndex tr ∧ Claims context.recursion tr ∧ Slotted tr ∧
        attemptsOf (tally spent tr) = 0 ∧
          ∃ e, endings tr = [(some (context.nodeId, context.fanoutIndex), e)] ∧ e.Converts r ∧
            ∀ a, r = .ok a → a.callsUsed = recursionsOf (tally spent tr) := by
  refine Meets.call fun r hanswered => ?_
  rcases hanswered with rfl | ⟨f, rfl⟩
  · refine Meets.call fun r hhandler => ?_
    obtain ⟨run, rfl⟩ := hhandler
    refine (runHandler_meets context run 0 0).bind ?_ ?_
    · rintro t report ⟨hown, hclaims, hslot, hend, hattempts, report', hreport, hcalls⟩
      obtain rfl := Except.ok.inj hreport
      refine Meets.call fun r hleave => ?_
      obtain rfl : r = .ok () := hleave
      refine Meets.leaf ⟨?_, ?_, ?_, ?_, report.outcome.ending, ?_, converts report, fun a ha => ?_⟩
      · exact .cons rfl (.cons rfl (hown.append (.cons rfl ownedBy_nil)))
      · exact .cons_other rfl (.cons_other rfl (hclaims.append (.cons_other rfl claims_nil)))
      · exact slotted_call (List.forall_mem_cons.mpr ⟨rfl, hslot⟩)
      · simp [spent, hattempts]
      · simp [hend, stepEnding, owner]
      · have hused : a.callsUsed = report.callsUsed := by
          rw [convert] at ha
          cases hresult : handlerResult report.outcome with
          | error e => rw [hresult] at ha; cases ha
          | ok x => rw [hresult] at ha; cases ha; rfl
        rw [hused, hcalls]
        simp [spent]
    · rintro t e ⟨-, -, -, -, -, report, hreport, -⟩
      cases hreport
  · refine Meets.leaf ⟨.cons rfl ownedBy_nil, .cons_other rfl claims_nil,
      slotted_of_forall (by simp [slot]), by simp [spent], .fatal f.code, ?_, ?_, ?_⟩
    · simp [stepEnding, owner]
    · exact converts ⟨.fault f, 0, 0⟩
    · intro a ha
      rw [convert] at ha
      cases hresult : handlerResult (.fault f) with
      | error e => rw [hresult] at ha; cases ha
      | ok x => rw [hresult] at ha; cases ha; simp [spent]

/-- The ending of the last attempt of an invocation agrees with its result. -/
def Ending.Concludes : Ending → Except Raised InvocationResult → Prop
  | .succeeded outputs, .ok x =>
    x.succeeded = true ∧ x.fatal = false ∧ x.outputs = Json.copyObject outputs
  | .failed, .ok x => x.succeeded = false ∧ x.fatal = false
  | .fatal code, .ok x => x.succeeded = false ∧ x.fatal = true ∧ x.errorCode = some code
  | .unreportable, .error e => ∃ errors, e = .validationError errors
  | _, _ => False

/-- The attempt ended with an error on which the policy retries. -/
def Retried (retry : Option RetryPolicy) (a : OperationAttemptEvidence) : Prop :=
  ∃ policy, retry = some policy ∧ ∃ code ∈ policy.retryOn, a.errorCode = some code

/-- The attempts of one invocation from the number `first` on. -/
structure Attempts (nodeId : NonEmptyStr) (fanoutIndex : Option ℕ) (retry : Option RetryPolicy)
    (first : ℕ) (attempts : List OperationAttemptEvidence) : Prop where
  indices : attempts.map OperationAttemptEvidence.attemptIndex = List.range' first attempts.length
  owned : ∀ a ∈ attempts, a.nodeId = nodeId ∧ a.fanoutIndex = fanoutIndex
  retried : ∀ a ∈ attempts.dropLast, Retried retry a

variable {inv : Invocation} {attempts : List OperationAttemptEvidence} {attemptIndex : ℕ}
  {a : Attempted} {e : Ending}

lemma afterAttempt_inl {x : InvocationResult}
    (h : afterAttempt inv attempts attemptIndex a = .inl x) (he : e.Converts (.ok a)) :
    e.Concludes (.ok x) ∧ x.attempts = attempts := by
  have hfailed : ∀ fatal, e.Converts (.ok a) → a.result.val.status ≠ .succeeded →
      a.fatal = fatal → e.Concludes (.ok (failedInvocation attempts a.result fatal)) := by
    rintro fatal he hstatus rfl
    cases e with
    | succeeded outputs => exact absurd he.1 hstatus
    | failed => exact ⟨rfl, he.2⟩
    | fatal code => exact ⟨rfl, he.2.1, he.2.2⟩
    | unreportable => exact he.elim
  rw [afterAttempt] at h
  by_cases hstatus : a.result.val.status = .succeeded
  · rw [if_pos hstatus] at h
    cases h
    refine ⟨?_, rfl⟩
    cases e with
    | succeeded outputs => exact ⟨rfl, rfl, by rw [succeededInvocation, he.2.2]⟩
    | failed | fatal code => rw [he.1] at hstatus; cases hstatus
    | unreportable => exact he.elim
  · rw [if_neg hstatus] at h
    by_cases hfatal : a.fatal = true
    · rw [if_pos hfatal] at h
      cases h
      exact ⟨hfailed true he hstatus hfatal, rfl⟩
    · rw [if_neg hfatal] at h
      cases hretry : shouldRetry a.result.errorCode inv.retry attemptIndex with
      | none =>
        rw [hretry] at h
        cases h
        exact ⟨hfailed false he hstatus (by simpa using hfatal), rfl⟩
      | some policy => rw [hretry] at h; cases h

lemma afterAttempt_inr {policy : RetryPolicy}
    (h : afterAttempt inv attempts attemptIndex a = .inr policy) (he : e.Converts (.ok a)) :
    e = .failed ∧ inv.retry = some policy ∧ attemptIndex < policy.maxAttempts ∧
      ∃ code ∈ policy.retryOn, a.result.errorCode = some code := by
  rw [afterAttempt] at h
  by_cases hstatus : a.result.val.status = .succeeded
  · rw [if_pos hstatus] at h; cases h
  rw [if_neg hstatus] at h
  by_cases hfatal : a.fatal = true
  · rw [if_pos hfatal] at h; cases h
  rw [if_neg hfatal] at h
  cases hretry : shouldRetry a.result.errorCode inv.retry attemptIndex with
  | none => rw [hretry] at h; cases h
  | some policy' =>
    rw [hretry] at h
    cases h
    obtain ⟨hpolicy, hcode⟩ := Option.filter_eq_some_iff.mp hretry
    rw [Bool.and_eq_true, decide_eq_true_eq] at hcode
    refine ⟨?_, hpolicy, hcode.1, ?_⟩
    · cases e with
      | succeeded outputs => exact absurd he.1 hstatus
      | failed => rfl
      | fatal code => exact absurd he.2.1 hfatal
      | unreportable => exact he.elim
    · cases hc : a.result.errorCode with
      | none => rw [hc] at hcode; cases hcode.2
      | some code =>
        rw [hc, Option.any_some, List.contains_eq_mem, decide_eq_true_eq] at hcode
        exact ⟨code, hcode.2, rfl⟩

variable {retry : Option RetryPolicy}

variable {attempt : OperationAttemptEvidence}

lemma Attempts.cons {first : ℕ} {rest : List OperationAttemptEvidence}
    (hindex : attempt.attemptIndex = first) (hnode : attempt.nodeId = nodeId)
    (hfanout : attempt.fanoutIndex = fanoutIndex) (hretried : Retried retry attempt)
    (h : Attempts nodeId fanoutIndex retry (first + 1) rest) :
    Attempts nodeId fanoutIndex retry first (attempt :: rest) where
  indices := by
    rw [List.map_cons, List.length_cons, List.range'_succ, h.indices, hindex]
  owned := by
    intro a ha
    rcases List.mem_cons.mp ha with rfl | ha
    · exact ⟨hnode, hfanout⟩
    · exact h.owned a ha
  retried := by
    intro a ha
    cases rest with
    | nil => cases ha
    | cons next rest =>
      rcases List.mem_cons.mp ha with rfl | ha
      · exact hretried
      · exact h.retried a ha

/-- The steps of an invocation from the attempt `first` on, and its result. -/
structure Invoked (inv : Invocation) (first : ℕ) (before : List OperationAttemptEvidence)
    (tr : List (Step Op Raised)) (r : Except Raised InvocationResult) : Prop where
  owned : OwnedBy inv.nodeId inv.fanoutIndex tr
  claims : Claims (recursionLimits inv.recursion) tr
  slotted : Slotted tr
  /-- All attempts but the last end with an ordinary failure. -/
  ends : ∃ n e, e.Concludes r ∧
    endings tr = List.replicate n (some (inv.nodeId, inv.fanoutIndex), .failed) ++
      [(some (inv.nodeId, inv.fanoutIndex), e)]
  evidence : ∀ x, r = .ok x → ∃ attempts, x.attempts = before ++ attempts ∧
    Attempts inv.nodeId inv.fanoutIndex inv.retry first attempts ∧
      attempts.length + first ≤ maxAttempts inv.retry + 1 ∧
        attemptsOf (tally spent tr) = attempts.length ∧
          recursionsOf (tally spent tr) =
            (attempts.map OperationAttemptEvidence.recursiveCalls).sum
  reported : ∀ x, r = .ok x → x.succeeded = true → x.attempts ≠ []

lemma pause_meets (policy : RetryPolicy) :
    (pause policy).Meets Proper fun tr r =>
      r = .ok () ∧ (∀ nodeId fanoutIndex, OwnedBy nodeId fanoutIndex tr) ∧
        (∀ limits, Claims limits tr) ∧ Slotted tr ∧ endings tr = [] ∧ tally spent tr = 0 := by
  rw [pause]
  by_cases hzero : policy.backoffSeconds = 0
  · rw [if_pos hzero]
    exact Meets.done ⟨rfl, fun _ _ => ownedBy_nil, fun _ => claims_nil, slotted_nil, rfl, by simp⟩
  · rw [if_neg hzero]
    refine Meets.call fun r _ => Meets.done ⟨rfl, fun _ _ step hstep => .inr ?_,
      fun _ => .cons_other rfl claims_nil, slotted_of_forall (by simp [slot]), ?_, ?_⟩
    · exact ⟨r, _, List.mem_singleton.mp hstep⟩
    · simp [stepEnding]
    · simp [spent]

variable (digest : Json → String) (programRef : ExecutionProgramRef)

lemma attempts_nil {first : ℕ} : Attempts nodeId fanoutIndex retry first [] where
  indices := rfl
  owned := by simp
  retried := by simp

lemma attempts_singleton {first : ℕ} (hindex : attempt.attemptIndex = first)
    (hnode : attempt.nodeId = nodeId) (hfanout : attempt.fanoutIndex = fanoutIndex) :
    Attempts nodeId fanoutIndex retry first [attempt] where
  indices := by simp [hindex]
  owned := by simp [hnode, hfanout]
  retried := by simp

/-- The attempt `first` ends the invocation, or the rest of the attempts does. -/
lemma attempt_meets (rounds first : ℕ) (before : List OperationAttemptEvidence)
    (hfirst : first ≤ maxAttempts inv.retry)
    (hrest : first < maxAttempts inv.retry → ∀ before,
      (attemptsFrom digest programRef inv rounds (first + 1) before).Meets
        Proper (Invoked inv (first + 1) before)) :
    (attemptsFrom digest programRef inv (rounds + 1) first before).Meets
      Proper (Invoked inv first before) := by
  refine Meets.call fun r hanswered => ?_
  rcases hanswered with rfl | ⟨f, rfl⟩
  · refine (callHandler_meets inv.arguments (invocationContext programRef inv first)).bind ?_ ?_
    · rintro t a ⟨hown, hclaims, hslotted, hattempts, e, hends, hconverts, hcalls⟩
      have hown : OwnedBy inv.nodeId inv.fanoutIndex t := hown
      have hclaims : Claims (recursionLimits inv.recursion) t := hclaims
      have hends : endings t = [(some (inv.nodeId, inv.fanoutIndex), e)] := hends
      have hused := hcalls a rfl
      dsimp only
      generalize hev : attemptEvidence digest inv first a = attempt
      have hattempt : attempt.attemptIndex = first ∧ attempt.nodeId = inv.nodeId ∧
          attempt.fanoutIndex = inv.fanoutIndex ∧ attempt.recursiveCalls = a.callsUsed ∧
            attempt.errorCode = a.result.errorCode := by
        subst hev
        exact ⟨rfl, rfl, rfl, rfl, rfl⟩
      obtain ⟨hindex, hnode, hfanout, hrecursive, hcode⟩ := hattempt
      cases hafter : afterAttempt inv (before ++ [attempt]) first a with
      | inl x =>
        obtain ⟨hconcludes, hx⟩ := afterAttempt_inl hafter hconverts
        refine Meets.done ⟨.cons rfl (by simpa using hown), .cons_other rfl (by simpa using hclaims),
          .cons_zero rfl (by simpa using hslotted), ⟨0, e, hconcludes, ?_⟩, ?_, ?_⟩
        · simpa [stepEnding] using hends
        · rintro x' hx'
          obtain rfl := Except.ok.inj hx'
          refine ⟨[attempt], hx, attempts_singleton hindex hnode hfanout, ?_, ?_, ?_⟩
          · rw [List.length_singleton]
            omega
          · simp [spent, hattempts]
          · simp [spent, hrecursive, hused]
        · rintro x' hx' -
          obtain rfl := Except.ok.inj hx'
          rw [hx]
          simp
      | inr policy =>
        obtain ⟨rfl, hpolicy, hlt, code, hmem, hcode'⟩ := afterAttempt_inr hafter hconverts
        have hmax : maxAttempts inv.retry = policy.maxAttempts := by rw [hpolicy]; rfl
        refine (pause_meets policy).bind ?_ ?_
        · rintro t' u ⟨-, hown', hclaims', hslotted', hends', hspent'⟩
          refine (hrest (by omega) (before ++ [attempt])).mono ?_
          rintro t'' r ⟨hown'', hclaims'', hslotted'', ⟨n, e, hconcludes, hends''⟩, hevidence,
            hreported⟩
          refine ⟨.cons rfl (hown.append ((hown' _ _).append hown'')),
            .cons_other rfl (hclaims.append ((hclaims' _).append hclaims'')),
            .cons_zero rfl (hslotted.append (hslotted'.append hslotted'')),
            ⟨n + 1, e, hconcludes, ?_⟩, ?_, hreported⟩
          · simp [stepEnding, hends, hends', hends'', List.replicate_succ]
          · intro x hx
            obtain ⟨attempts, hattempts', hshape, hbound, hcount, hrecursions⟩ := hevidence x hx
            refine ⟨attempt :: attempts, ?_, ?_, ?_, ?_, ?_⟩
            · rw [hattempts', List.append_assoc, List.singleton_append]
            · exact .cons hindex hnode hfanout ⟨policy, hpolicy, code, hmem, hcode.trans hcode'⟩
                hshape
            · rw [List.length_cons]
              omega
            · simp [spent, hattempts, hspent', hcount]
            · simp [spent, hspent', hrecursions, hrecursive, hused]
        · rintro t' e ⟨hr, -⟩
          cases hr
    · rintro t e ⟨hown, hclaims, hslotted, hattempts, ending, hends, hconverts, -⟩
      have hends : endings t = [(some (inv.nodeId, inv.fanoutIndex), ending)] := hends
      refine ⟨.cons rfl hown, .cons_other rfl hclaims, .cons_zero rfl hslotted,
        ⟨0, ending, ?_, ?_⟩, (fun x hx => by cases hx),
        (fun x hx => by cases hx)⟩
      · cases ending with
        | unreportable => exact hconverts
        | succeeded outputs | failed | fatal code => exact hconverts.elim
      · simpa [stepEnding] using hends
  · refine Meets.done ⟨.cons rfl ownedBy_nil, .cons_other rfl claims_nil,
      slotted_of_forall (by simp [slot]), ⟨0, .fatal f.code, ⟨rfl, rfl, rfl⟩, ?_⟩, ?_, ?_⟩
    · simp [stepEnding, owner]
    · intro x hx
      obtain rfl := Except.ok.inj hx
      refine ⟨[], by simp [refusedInvocation], attempts_nil, ?_, by simp [spent], by simp [spent]⟩
      rw [List.length_nil]
      omega
    · rintro x hx hsucceeded
      obtain rfl := Except.ok.inj hx
      cases hsucceeded

/-- The attempts of an invocation fail until one of them decides its result. -/
theorem attemptsFrom_meets (rounds first : ℕ) (before : List OperationAttemptEvidence)
    (hrounds : first + rounds = maxAttempts inv.retry) :
    (attemptsFrom digest programRef inv (rounds + 1) first before).Meets
      Proper (Invoked inv first before) := by
  induction rounds generalizing first before with
  | zero =>
    exact attempt_meets digest programRef 0 first before (by omega) fun h => absurd h (by omega)
  | succ rounds ih =>
    exact attempt_meets digest programRef (rounds + 1) first before (by omega) fun _ before =>
      ih (first + 1) before (by omega)

lemma one_le_maxAttempts (retry : Option RetryPolicy) : 1 ≤ maxAttempts retry := by
  cases retry with
  | none => exact le_rfl
  | some policy => exact policy.attempts_bounds.1

/-- **The attempts of an invocation** and its result, whatever operations answer. -/
theorem invoke_proper (inv : Invocation) :
    (invoke digest programRef inv).Meets Proper (Invoked inv 1 []) := by
  obtain ⟨rounds, hrounds⟩ := Nat.exists_eq_add_of_le (one_le_maxAttempts inv.retry)
  rw [invoke, hrounds, Nat.add_comm]
  exact attemptsFrom_meets digest programRef rounds 1 [] (by omega)

lemma invoke_meets (inv : Invocation) :
    (invoke digest programRef inv).Meets (Step.Answered (semantics limits)) (Invoked inv 1 []) :=
  (invoke_proper digest programRef inv).weaken fun _ => proper_of_answered

end Invocations

end AecBench.ProgramExecution
