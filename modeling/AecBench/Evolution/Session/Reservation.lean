import AecBench.Evolution.Session.Budget

/-!
# Calls keep to their budget

Every effect of a session is admitted by its limits and counted before it starts, and no counter
passes its limit, in every state of every call of a variation.

## Main results

* `InBudget.runTool`, `InBudget.requestModel`, `InBudget.getAdvice` — the effects of a session.
* `InBudget.loop` — its loop.
* `call_in_budget` — the budget of every call of a variation.
-/

namespace AecBench.Evolution.Session

open Validation

/-! ## Methods that start effects -/

section Effects

variable {cfg : SessionConfig} {base : ProposalUsage} {I : World → Prop}

variable {K : AVOState → Prop}

lemma refreshElapsed_spec (h : Uncounted cfg I)
    (hK : ∀ state elapsed, K state →
      K { state with usage := { state.usage with elapsedSeconds := elapsed } }) :
    Spec (fun w => I w ∧ K w.state) refreshElapsed
      (fun _ w => I w ∧ K w.state ∧ Timely w.log w.attributes.startedAt w.state.usage)
      fun _ => I := by
  refine Spec.bind (Q := fun now w => I w ∧ K w.state ∧ clockReading w.log = some now)
    (Spec.perform fun w reply hw =>
      ⟨_, rfl, h.record w _ hw.1 rfl (by rintro _ ⟨⟩), hw.2, rfl⟩) fun now => ?_
  refine Spec.getSession fun session => Spec.replaceState (fun w hw _ => ?_)
    fun _ _ hw => hw.2.1
  obtain ⟨rfl, hI, hstate, hclock⟩ := hw
  exact ⟨h.assign w _ hI ⟨rfl, rfl, rfl, rfl⟩, hK w.state _ hstate, now, hclock, rfl⟩

lemma ensure_spec (h : Uncounted cfg I)
    (hK : ∀ state elapsed, K state →
      K { state with usage := { state.usage with elapsedSeconds := elapsed } })
    (limit : AVOState → Option String) :
    Spec (fun w => I w ∧ K w.state)
      (refreshElapsed >>= fun _ => getSession >>= fun session =>
        raiseLimit (limit session.state))
      (fun _ w => I w ∧ K w.state ∧ limit w.state = none ∧
        Timely w.log w.attributes.startedAt w.state.usage) fun _ => I := by
  refine (refreshElapsed_spec h hK).bind fun _ => Spec.getSession fun session => ?_
  cases hlimit : limit session.state with
  | none =>
    refine Spec.pure fun w hw => ?_
    obtain ⟨rfl, hI, hstate, htimely⟩ := hw
    exact ⟨hI, hstate, hlimit, htimely⟩
  | some reached => exact Spec.fail fun w hw => hw.2.1

variable {effect : Effect}

lemma Ready.marking : Marking cfg (Ready cfg base effect) where
  polled w reason h := ⟨h.toInBudget.record rfl (by rintro _ ⟨⟩), h.admitted,
    fun occurrence heffect => (h.counted occurrence heffect).insert rfl⟩
  written w checkpoint h hwritten :=
    ⟨h.toInBudget.record rfl (by rintro _ ⟨⟩; exact hwritten.usage), h.admitted,
      fun occurrence heffect => (h.counted occurrence heffect).insert rfl⟩
  effects w f h := ⟨h.toInBudget.update _, h.admitted, h.counted⟩

lemma InBudget.ready {w : World} {state : AVOState} (h : InBudget cfg base w)
    (hwithin : Within cfg.budget state.usage)
    (hcounted : ∀ event : Event, event.occurrence.effect = some effect →
      Reserved base (event :: w.log) state.usage) (hle : Reserved base w.log state.usage)
    (hadmitted : Admission cfg (w.assign state).log state w.attributes.startedAt effect) :
    Ready cfg base effect (w.assign state) :=
  ⟨h.assign hwithin hle, hadmitted,
    fun occurrence heffect => (hcounted ⟨occurrence, _, _⟩ heffect).insert rfl⟩

lemma increment_spec {P : World → Prop} {requests tools evaluations : ℕ}
    (hP : ∀ w, P w → InBudget cfg base w ∧ K w.state)
    (hK : ∀ state usage, K state → K { state with usage })
    (hwithin : ∀ w, P w →
      Within cfg.budget (incrementedUsage cfg requests tools evaluations w.state.usage))
    (hrequests : (if effect = .modelRequest ∨ effect = .advisorCall then 1 else 0) = requests)
    (htools : (if effect = .toolCall then 1 else 0) = tools)
    (hevaluations : (if effect = .evaluation then 1 else 0) = evaluations)
    (hadvisor : effect ≠ .advisorCall)
    (hadmitted : ∀ w, P w → ∀ state : AVOState,
      state = { w.state with
        usage := incrementedUsage cfg requests tools evaluations w.state.usage } →
      Admission cfg (w.assign state).log state w.attributes.startedAt effect) :
    Spec P (incrementUsage cfg requests tools evaluations)
      (fun _ w => Ready cfg base effect w ∧ K w.state) fun _ => InBudget cfg base := by
  rw [incrementUsage, setUsage]
  refine Spec.replaceState (fun w hw _ => ?_) fun _ w hw => (hP w hw).1
  obtain ⟨h, hstate⟩ := hP w hw
  refine ⟨h.ready (hwithin w hw) (fun event heffect => ?_) ?_ (hadmitted w hw _ rfl),
    hK _ _ hstate⟩
  · refine h.reserved.start heffect ?_ ?_ ?_ ?_
    · exact (congrArg (w.state.usage.modelRequests + ·) hrequests).le
    · exact (congrArg (w.state.usage.toolCalls + ·) htools).le
    · exact (congrArg (w.state.usage.developmentEvaluations + ·) hevaluations).le
    · rw [if_neg hadvisor]; exact le_rfl
  · exact h.reserved.of_le (Nat.le_add_right _ _) (Nat.le_add_right _ _) (Nat.le_add_right _ _)
      le_rfl

lemma increment_modelRequest :
    Spec (fun w => InBudget cfg base w ∧ BelowLimits cfg.budget w.state.usage ∧
        Timely w.log w.attributes.startedAt w.state.usage)
      (incrementUsage cfg 1 0 0) (fun _ w => Ready cfg base .modelRequest w ∧ True)
      fun _ => InBudget cfg base := by
  refine increment_spec (K := fun _ => True) (fun w hw => ⟨hw.1, trivial⟩)
    (fun _ _ _ => trivial) (fun w hw => ?_) rfl rfl rfl (by decide) fun w hw state hstate => ?_
  · exact ⟨hw.2.1.modelRequests, hw.1.within.toolCalls, hw.1.within.developmentEvaluations,
      hw.1.within.supervisorInterventions⟩
  · exact ⟨w.state.usage, by rw [hstate], hw.2.1, hw.2.2⟩

lemma increment_toolCall :
    Spec (fun w => InBudget cfg base w ∧ ToolBelowLimits cfg.budget w.state.usage ∧
        Timely w.log w.attributes.startedAt w.state.usage)
      (incrementUsage cfg 0 1 0) (fun _ w => Ready cfg base .toolCall w ∧ True)
      fun _ => InBudget cfg base := by
  refine increment_spec (K := fun _ => True) (fun w hw => ⟨hw.1, trivial⟩)
    (fun _ _ _ => trivial) (fun w hw => ?_) rfl rfl rfl (by decide) fun w hw state hstate => ?_
  · exact ⟨hw.1.within.modelRequests, hw.2.1.toolCalls, hw.1.within.developmentEvaluations,
      hw.1.within.supervisorInterventions⟩
  · exact ⟨w.state.usage, by rw [hstate], hw.2.1, hw.2.2⟩

lemma increment_evaluation :
    Spec (fun w => InBudget cfg base w ∧ w.state.currentRevision ≠ 0 ∧
        EvaluationBelowLimits cfg.budget w.state w.state.usage ∧
        Timely w.log w.attributes.startedAt w.state.usage)
      (incrementUsage cfg 0 0 1)
      (fun _ w => Ready cfg base .evaluation w ∧ w.state.currentRevision ≠ 0)
      fun _ => InBudget cfg base := by
  refine increment_spec (K := fun state => state.currentRevision ≠ 0)
    (fun w hw => ⟨hw.1, hw.2.1⟩) (fun _ _ h => h) (fun w hw => ?_) rfl rfl rfl (by decide)
    fun w hw state hstate => ?_
  · exact ⟨hw.1.within.modelRequests, hw.1.within.toolCalls,
      hw.2.2.1.developmentEvaluations, hw.1.within.supervisorInterventions⟩
  · obtain ⟨-, -, hbelow, htimely⟩ := hw
    refine ⟨w.state.usage, by rw [hstate], ⟨hbelow.toBelowLimits, ?_, ?_, ?_⟩, htimely⟩
    · exact hbelow.developmentEvaluations
    · rw [hstate]; exact hbelow.evaluationErrors
    · rw [hstate]; exact hbelow.stagnation

end Effects

/-! ## The effects of a session -/

namespace Ready

variable {cfg : SessionConfig} {base : ProposalUsage} {effect : Effect} {K : AVOState → Prop}
  {α : Type}

lemma keeps {m : Method α} (h : ∀ I, Marking cfg I → Keeps I m) :
    Spec (fun w => Ready cfg base effect w ∧ K w.state) m
      (fun _ w => Ready cfg base effect w ∧ K w.state) fun _ => InBudget cfg base :=
  (h _ (Ready.marking.withState K)).mono (fun _ hw => hw) (fun _ _ hw => hw)
    fun _ _ hw => hw.1.toInBudget

lemma update {w : World} {f : Attributes → Attributes} (h : Ready cfg base effect w)
    (hf : (f w.attributes).startedAt = w.attributes.startedAt) :
    Ready cfg base effect (w.update f) := by
  refine ⟨h.toInBudget.update f, ?_, fun occurrence heffect => ?_⟩
  · rw [World.update_attributes, hf]
    exact h.admitted
  · have hcounted := h.counted occurrence heffect
    rwa [World.record_log, ← hf] at hcounted

end Ready

namespace InBudget

variable {cfg : SessionConfig} {base : ProposalUsage}

lemma evaluateRevision (snapshot : WorkspaceSnapshot) :
    Spec (fun w => Ready cfg base .evaluation w ∧ w.state.currentRevision ≠ 0)
      (evaluateRevision cfg snapshot) (fun _ => InBudget cfg base)
      fun _ => InBudget cfg base := by
  refine Spec.getSession fun session => ?_
  refine Spec.bind (Q := fun _ => InBudget cfg base) ?_ fun _ => Keeps.ofExcept
  refine Spec.bind (Q := fun _ => InBudget cfg base) (Spec.perform fun w reply hw => ?_)
    fun answer => Keeps.ofExcept.bind fun _ => Keeps.ofExcept
  obtain ⟨rfl, hready, hrevision⟩ := hw
  exact ⟨_, rfl, hready.start (by rw [Occurrence.effect, if_neg hrevision])⟩

lemma evaluateCurrent (hypothesis : String) (snapshot : WorkspaceSnapshot) :
    Spec (fun w => InBudget cfg base w ∧ w.state.currentRevision ≠ 0)
      (evaluateCurrent cfg hypothesis snapshot) (fun _ => InBudget cfg base)
      fun _ => InBudget cfg base := by
  have h : Uncounted cfg (InBudget cfg base) := InBudget.uncounted
  refine Spec.bind (ensure_spec (K := fun state => state.currentRevision ≠ 0) h
    (fun _ _ hstate => hstate) (evaluationLimit cfg.budget)) fun _ => ?_
  refine Spec.bind (increment_evaluation.pre fun w hw =>
    ⟨hw.1, hw.2.1, evaluationLimit_eq_none.mp hw.2.2.1, hw.2.2.2⟩) fun _ => ?_
  refine Spec.bind (Q := fun _ w => Ready cfg base .evaluation w ∧ w.state.currentRevision ≠ 0)
    (Spec.updateAttributes fun w hw => ⟨hw.1.update rfl, hw.2⟩) fun _ => ?_
  refine Spec.getSession fun session => Spec.pre ?_ fun w hw => hw.2
  refine (Ready.keeps (K := fun state => state.currentRevision ≠ 0) fun I hI =>
    hI.checkCancellation).bind fun _ => ?_
  refine (Ready.keeps (K := fun state => state.currentRevision ≠ 0) fun I hI =>
    hI.beginExternalEffect _ _).bind fun effect => ?_
  refine Spec.bind (Spec.asExternalEffect (evaluateRevision _)) fun attempt => ?_
  refine h.steady.refreshElapsed.bind fun _ => Keeps.getSession fun session => ?_
  refine Keeps.ofExcept.bind fun attempt => (h.recordAttempt attempt).bind fun _ => ?_
  exact (h.steady.clearExternalEffect _).bind fun _ => h.steady.checkCancellation.bind
    fun _ => Keeps.pure

lemma revision_of_testRefusal {state : AVOState} {snapshot : WorkspaceSnapshot}
    (h : testRefusal cfg state snapshot = none) : state.currentRevision ≠ 0 := by
  simp only [testRefusal, ite_some_eq_none] at h
  exact h.2.1

lemma testCandidate (hypothesis : Option String) :
    Keeps (InBudget cfg base) (testCandidate cfg hypothesis) := by
  have h : Uncounted cfg (InBudget cfg base) := InBudget.uncounted
  refine h.steady.checkCancellation.bind fun _ => Spec.getSession fun session => ?_
  cases hypothesis with
  | none => exact Spec.pure fun w hw => hw.2
  | some hypothesis =>
    refine Spec.ite (fun _ => Spec.pure fun w hw => hw.2) fun _ => ?_
    refine Spec.bind (Q := fun _ w => w.session = session ∧ InBudget cfg base w)
      (Spec.exportSnapshot (fun _ _ hw _ => hw) fun _ _ hw => hw.2) fun snapshot => ?_
    cases hrefusal : testRefusal cfg session.state snapshot with
    | some message => exact Spec.pure fun w hw => hw.2
    | none =>
      refine Spec.bind ((evaluateCurrent hypothesis snapshot).pre fun w hw => ?_) fun _ =>
        Keeps.getSession fun _ => Keeps.pure
      obtain ⟨rfl, hw⟩ := hw
      exact ⟨hw, revision_of_testRefusal hrefusal⟩

lemma runTool (command : AVOCommand) : Keeps (InBudget cfg base) (runTool cfg command) := by
  have h : Uncounted cfg (InBudget cfg base) := InBudget.uncounted
  cases command with
  | bare tool => exact h.runBare tool
  | editCandidate argument => exact (h.editCandidate argument).bind fun _ => Keeps.pure
  | testCandidate hypothesis => exact (testCandidate hypothesis).bind fun _ => Keeps.pure
  | restoreCandidate attemptId revision =>
    exact (h.restoreCandidate attemptId revision).bind fun _ => Keeps.pure
  | submitCandidate reasoning => exact (h.submitCandidate reasoning).bind fun _ => Keeps.pure
  | abstain reasoning => exact (h.abstain reasoning).bind fun _ => Keeps.pure
  | malformed tool => exact Keeps.fail

lemma guardedCall (command : AVOCommand) :
    Keeps (InBudget cfg base) (guardedCall cfg command) := by
  have h : Uncounted cfg (InBudget cfg base) := InBudget.uncounted
  refine h.steady.checkCancellation.bind fun _ => ?_
  refine Spec.bind ((ensure_spec (K := fun _ => True) h (fun _ _ _ => trivial)
    fun state => toolCallLimit cfg.budget state.usage).pre fun w hw => ⟨hw, trivial⟩)
    fun _ => ?_
  refine Spec.bind (increment_toolCall.pre fun w hw =>
    ⟨hw.1, toolCallLimit_eq_none.mp hw.2.2.1, hw.2.2.2⟩) fun _ => ?_
  refine Spec.bind (Q := fun _ => InBudget cfg base) (Spec.perform fun w reply hw => ?_)
    fun _ => runTool command
  exact ⟨(), rfl, hw.1.start rfl⟩

lemma callTool (advice : Bool) (command : AVOCommand) :
    Keeps (InBudget cfg base) (callTool cfg advice command) := by
  have h : Uncounted cfg (InBudget cfg base) := InBudget.uncounted
  refine Keeps.ite Keeps.fail ((h.steady.showPrevious none).bind fun _ => ?_)
  refine (guardedCall command).result.bind fun r => (h.steady.showPrevious _).bind fun _ => ?_
  cases r with
  | ok result => exact Keeps.pure
  | error e => exact Keeps.fail

lemma dispatch (advice : Bool) (command : AVOCommand) :
    Keeps (InBudget cfg base) (dispatch cfg advice command) := by
  refine (callTool advice command).result.bind fun r => ?_
  cases r with
  | ok result => exact Keeps.pure
  | error e => cases e <;> first | exact Keeps.pure | exact Keeps.fail

lemma runTurn (advice : Bool) (turn : RunnerTurn) :
    Keeps (InBudget cfg base) (runTurn cfg advice turn) := by
  induction turn with
  | respond response | untyped => exact Keeps.pure
  | raise => exact Keeps.fail
  | call command next ih => exact (callTool advice command).result.bind ih

/-! ### Advice -/

lemma ofReservation_spec {P : World → Prop} {x : Except String ProposalUsage}
    {Q : ProposalUsage → World → Prop} {E : Err → World → Prop}
    (hok : ∀ reserved w, x = .ok reserved → P w → Q reserved w)
    (herror : ∀ e w, P w → E e w) : Spec P (ofReservation x) Q E := by
  cases hx : x with
  | ok reserved => exact Spec.pure fun w hw => hok reserved w hx hw
  | error limit => exact Spec.fail fun w hw => herror _ w hw

/-- The call of the advisor: what it reports does not change the reserved counters. -/
lemma callAdvisor (usageBefore : ProposalUsage) (request : AVOAdviceRequest)
    (effect : AVOIncompleteExternalEffect) :
    Spec (fun w => Ready cfg base .advisorCall w ∧ w.state.usage = usageBefore.withAdvisorCall)
      (callAdvisor cfg usageBefore request effect) (fun _ => InBudget cfg base)
      fun _ => InBudget cfg base := by
  have h : Uncounted cfg (InBudget cfg base) := InBudget.uncounted
  refine Spec.bind (Q := fun _ w => InBudget cfg base w ∧
      w.state.usage = usageBefore.withAdvisorCall)
    (Spec.perform fun w reply hw => ⟨_, rfl, hw.1.start rfl, hw.2⟩) fun answer => ?_
  refine Spec.bind (Spec.ofExcept (fun _ _ _ hw => hw) fun _ _ hw => hw.1) fun result => ?_
  refine Spec.bind (Spec.ofExcept (fun _ _ _ hw => hw) fun _ _ hw => hw.1) fun _ => ?_
  refine Spec.bind (Q := fun usage w => SameCounters usage w.state.usage ∧ InBudget cfg base w)
    (Spec.ofExcept (fun usage w husage hw => ⟨?_, hw.1⟩) fun _ _ hw => hw.1) fun usage => ?_
  · obtain ⟨h1, h2, h3, h4⟩ := completeAdvisorUsage_eq_ok husage
    rw [hw.2]
    exact ⟨h1, h3, h4, h2⟩
  refine Spec.bind (Q := fun _ w => SameCounters usage w.state.usage ∧ InBudget cfg base w)
    (Spec.updateAttributes fun w hw => ⟨hw.1, hw.2.update _⟩) fun _ => ?_
  refine Spec.bind (Q := fun _ => InBudget cfg base)
    (Spec.replaceState (fun w hw _ => hw.2.assign_same hw.1) fun _ _ hw => hw.2) fun _ => ?_
  exact (h.steady.dropEffect _).bind fun _ => h.steady.writeCheckpoint none

lemma ready_advisorCall {w : World} {usageBefore reserved : ProposalUsage} {budget : AVOBudget}
    (hbudget : budget = cfg.budget) (h : InBudget cfg base w)
    (husage : w.state.usage = usageBefore)
    (hreserved : reserveAdvisorBudget usageBefore budget = .ok reserved) :
    Ready cfg base .advisorCall (w.assign { w.state with usage := reserved }) := by
  subst hbudget husage
  obtain ⟨rfl, hrequests, hinterventions, helapsed, hwithin⟩ :=
    reserveAdvisorBudget_eq_ok hreserved
  obtain ⟨hinput, houtput, hcost⟩ := validateUsageWithinBudget_eq_ok hwithin
  refine h.ready ?_ (fun event heffect => ?_) ?_
    ⟨w.state.usage, rfl, hrequests, hinterventions, helapsed, hinput, houtput, hcost⟩
  · exact ⟨hrequests, h.within.toolCalls, h.within.developmentEvaluations, hinterventions⟩
  · exact h.reserved.start heffect le_rfl le_rfl le_rfl le_rfl
  · exact h.reserved.of_le (Nat.le_add_right _ _) le_rfl le_rfl (Nat.le_add_right _ _)

lemma getAdvice (trigger : AVOAdviceTrigger) :
    Keeps (InBudget cfg base) (getAdvice cfg trigger) := by
  have h : Uncounted cfg (InBudget cfg base) := InBudget.uncounted
  refine h.steady.checkCancellation.bind fun _ => Spec.getSession fun session => ?_
  refine Spec.bind (Q := fun reserved w =>
      reserveAdvisorBudget session.state.usage cfg.budget = .ok reserved ∧
        w.session = session ∧ InBudget cfg base w)
    (ofReservation_spec (fun _ _ hreserved hw => ⟨hreserved, hw⟩) fun _ _ hw => hw.2)
    fun reserved => Spec.ofPure fun hreserved => ?_
  refine Spec.bind (Spec.ofExcept (fun _ _ _ hw => hw) fun _ _ hw => hw.2) fun _ => ?_
  refine Spec.bind (Spec.ofExcept (fun _ _ _ hw => hw) fun _ _ hw => hw.2) fun _ => ?_
  refine Spec.bind (Q := fun _ w => Ready cfg base .advisorCall w ∧
      w.state.usage = session.state.usage.withAdvisorCall)
    (Spec.replaceState (fun w hw _ => ?_) fun _ _ hw => hw.2) fun _ => ?_
  · obtain ⟨rfl, hw⟩ := hw
    exact ⟨ready_advisorCall rfl hw rfl hreserved, (reserveAdvisorBudget_eq_ok hreserved).1⟩
  refine (Ready.keeps (K := fun state => state.usage = session.state.usage.withAdvisorCall)
    fun I hI => hI.beginExternalEffect _ _).bind fun effect => ?_
  exact Spec.bind (Spec.asExternalEffect (callAdvisor _ _ _)) fun _ =>
    h.steady.checkCancellation

lemma maybeGetAdvice : Keeps (InBudget cfg base) (maybeGetAdvice cfg) := by
  refine Keeps.getSession fun session => ?_
  cases adviceTrigger session.state cfg.budget with
  | none => exact Keeps.pure
  | some trigger => exact Keeps.ite (getAdvice trigger) Keeps.pure

/-! ### The loop -/

lemma requestModel (advice : Bool) :
    Spec (fun w => InBudget cfg base w ∧ w.state.usage.toolCalls < cfg.budget.maxToolCalls ∧
        BelowSpending cfg.budget w.state.usage)
      (requestModel cfg advice) (fun _ => InBudget cfg base) fun _ => InBudget cfg base := by
  have h : Uncounted cfg (InBudget cfg base) := InBudget.uncounted
  refine Spec.bind (ensure_spec
    (K := fun state => state.usage.toolCalls < cfg.budget.maxToolCalls ∧
      BelowSpending cfg.budget state.usage) h (fun _ _ hstate => ⟨hstate.1, ?_⟩)
    fun state => modelRequestLimit cfg.budget state.usage) fun _ => ?_
  · exact ⟨hstate.2.inputTokens, hstate.2.outputTokens, hstate.2.cost⟩
  refine Spec.bind (increment_modelRequest.pre fun w hw => ⟨hw.1, ?_, hw.2.2.2⟩) fun _ => ?_
  · obtain ⟨-, ⟨htools, hspending⟩, hlimit, -⟩ := hw
    obtain ⟨hrequests, helapsed⟩ := modelRequestLimit_eq_none.mp hlimit
    exact ⟨⟨htools, helapsed, hspending⟩, hrequests⟩
  refine (Ready.keeps (K := fun _ => True) fun I hI => hI.checkCancellation).bind fun _ => ?_
  refine Spec.getSession fun session => Spec.pre ?_ fun w hw => hw.2
  refine (Ready.keeps (K := fun _ => True) fun I hI => hI.beginExternalEffect _ _).bind
    fun effect => ?_
  refine Spec.bind (Q := fun _ => InBudget cfg base) (Spec.asExternalEffect ?_) fun response =>
    (h.recordResponse response).tryFinally (h.steady.clearExternalEffect _)
  exact Spec.bind (Q := fun _ => InBudget cfg base)
    (Spec.perform fun w reply hw => ⟨_, rfl, hw.1.start rfl⟩) fun turn => runTurn advice turn

lemma followCommand (advice : Bool) (command : AVOCommand) :
    Keeps (InBudget cfg base) (followCommand cfg advice command) := by
  have h : Uncounted cfg (InBudget cfg base) := InBudget.uncounted
  refine Keeps.getSession fun session => Keeps.ite Keeps.pure ?_
  refine (h.orExhausted (dispatch advice command)).bind fun result => ?_
  exact Keeps.getSession fun session => Keeps.ite Keeps.pure (h.orExhausted maybeGetAdvice)

lemma round : Keeps (InBudget cfg base) (round cfg) := by
  have h : Uncounted cfg (InBudget cfg base) := InBudget.uncounted
  refine Keeps.getSession fun session => h.steady.refreshElapsed.bind fun _ => ?_
  refine Spec.getSession fun session => ?_
  cases hlimit : loopLimitReason cfg.budget session.state.usage with
  | some limit =>
    exact Spec.bind ((h.exhausted limit).pre fun w hw => hw.2) fun _ => Keeps.pure
  | none =>
    have hbelow := loopLimitReason_eq_none.mp hlimit
    refine Spec.bind (Q := fun _ w => InBudget cfg base w ∧
        w.state.usage.toolCalls < cfg.budget.maxToolCalls ∧
        BelowSpending cfg.budget w.state.usage) ?_ fun _ => ?_
    · have hpolled := (h.steady.toMarking.withState fun state =>
        state.usage.toolCalls < cfg.budget.maxToolCalls ∧
          BelowSpending cfg.budget state.usage).checkCancellation
      refine hpolled.mono (fun w hw => ?_) (fun _ _ hw => hw) fun _ _ hw => hw.1
      obtain ⟨rfl, hw⟩ := hw
      exact ⟨hw, hbelow.toolCalls, hbelow.spending⟩
    · exact (requestModel _).bind fun command => h.steady.checkCancellation.bind
        fun _ => followCommand _ command

lemma loop (fuel : ℕ) : Keeps (InBudget cfg base) (loop cfg fuel) := by
  have h : Uncounted cfg (InBudget cfg base) := InBudget.uncounted
  induction fuel with
  | zero => exact Keeps.fail
  | succ fuel ih =>
    refine Keeps.getSession fun session => Keeps.ite h.terminalResult ?_
    refine round.bind fun result => ?_
    cases result with
    | some proposal => exact Keeps.pure
    | none => exact ih

end InBudget

/-! ## Sessions -/

section Sessions

variable {cfg : SessionConfig} {base : ProposalUsage}

/-- A session whose effects, if there are any, are counted. -/
def Budgeted (cfg : SessionConfig) (base : ProposalUsage) (w : World) : Prop :=
  InBudget cfg base w ∨ Idle cfg w

lemma Budgeted.uncounted : Uncounted cfg (Budgeted cfg base) where
  record _ _ h hquiet hwritten :=
    h.imp (·.record hquiet hwritten) (·.record hquiet hwritten)
  update _ f h := h.imp (·.update f) (·.update f)
  assign _ _ h hsame := h.imp (·.assign_same hsame) (·.assign_same hsame)

variable {w : World}

lemma Budgeted.within (h : Budgeted cfg base w) :
    Within cfg.budget w.state.usage := h.elim (·.within) fun h => idle_within h.counters

lemma Budgeted.accounted (h : Budgeted cfg base w) : Accounted cfg base w.log :=
  h.elim (·.accounted) (·.accounted base)

/-- The counters that a call starts with: those of its checkpoint, or one evaluation, that of the
parent. -/
def usageBefore (checkpoint : Option AVOCheckpoint) : ProposalUsage :=
  (checkpoint.map (·.usage)).getD { developmentEvaluations := 1 }

/-- The evaluation of the parent is admitted, though it is counted only when it is complete. -/
structure ParentReady (cfg : SessionConfig) (w : World) : Prop extends Idle cfg w where
  admitted : Admission cfg w.log w.state w.attributes.startedAt .parentEvaluation

lemma ParentReady.marking : Marking cfg (ParentReady cfg) where
  polled _ _ h := ⟨h.toIdle.record rfl (by rintro _ ⟨⟩), h.admitted⟩
  written _ _ h hwritten :=
    ⟨h.toIdle.record rfl (by rintro _ ⟨⟩; exact hwritten.usage), h.admitted⟩
  effects _ _ h := ⟨h.toIdle.update _, h.admitted⟩

lemma ParentReady.keeps {α : Type} {m : Method α} (h : ∀ I, Marking cfg I → Keeps I m) :
    Spec (ParentReady cfg) m (fun _ => ParentReady cfg) fun _ => Budgeted cfg base :=
  (h _ ParentReady.marking).mono (fun _ hw => hw) (fun _ _ hw => hw)
    fun _ _ hw => .inr hw.toIdle

lemma ParentReady.start {snapshot : WorkspaceSnapshot} {records : Except String (List TrialRecord)}
    (h : ParentReady cfg w) : Idle cfg (w.record (.development 0 snapshot records)) := by
  have heffect : (Occurrence.development 0 snapshot records).effect = some .parentEvaluation :=
    rfl
  refine ⟨h.counters, fun effect hne => ?_, fun base => ⟨⟨?_, ?_, ?_, ?_⟩, h.accounted base⟩⟩
  · exact (started_cons heffect).trans (by rw [h.unstarted effect hne, if_neg hne.symm])
  · exact idle_within h.counters
  · rintro _ ⟨⟩
    exact h.admitted
  · rintro _ ⟨⟩ hne
    exact absurd rfl hne
  · rintro _ ⟨⟩

lemma ParentReady.positive (h : ParentReady cfg w) : 0 < cfg.budget.maxDevelopmentEvaluations :=
  (Nat.zero_le _).trans_lt h.admitted.1.developmentEvaluations

lemma ensureEffectBudget_parent :
    Spec (Idle cfg) (ensureEffectBudget cfg) (fun _ => ParentReady cfg)
      fun _ => Budgeted cfg base :=
  (ensure_spec (K := fun _ => True) Idle.uncounted (fun _ _ _ => trivial)
    (evaluationLimit cfg.budget)).mono (fun _ hw => ⟨hw, trivial⟩)
    (fun _ _ hw => ⟨hw.1, evaluationLimit_eq_none.mp hw.2.2.1, hw.2.2.2⟩)
    fun _ _ hw => .inr hw

lemma evaluateSnapshot_parent (effect : AVOIncompleteExternalEffect)
    (snapshot : WorkspaceSnapshot) :
    Spec (ParentReady cfg) (asExternalEffect effect (evaluateSnapshot cfg snapshot 0))
      (fun _ w => 0 < cfg.budget.maxDevelopmentEvaluations ∧ Idle cfg w)
      fun _ => Budgeted cfg base := by
  refine Spec.asExternalEffect ?_
  refine Spec.bind (Q := fun _ w => 0 < cfg.budget.maxDevelopmentEvaluations ∧ Idle cfg w)
    (Spec.perform fun w reply hw => ⟨_, rfl, hw.positive, hw.start⟩) fun answer => ?_
  refine Spec.bind (Spec.ofExcept (fun _ _ _ hw => hw) fun _ _ hw => .inr hw.2) fun _ => ?_
  exact Spec.ofExcept (fun _ _ _ hw => hw) fun _ _ hw => .inr hw.2

lemma increment_parent :
    Spec (fun w => 0 < cfg.budget.maxDevelopmentEvaluations ∧ Idle cfg w)
      (incrementUsage cfg 0 0 1) (fun _ => InBudget cfg (usageBefore none))
      fun _ => Budgeted cfg (usageBefore none) := by
  rw [incrementUsage, setUsage]
  refine Spec.replaceState (fun w hw _ => ?_) fun _ _ hw => .inr hw.2
  obtain ⟨hpositive, hw⟩ := hw
  obtain ⟨h1, h2, h3, h4⟩ := hw.counters
  refine hw.inBudget ⟨?_, ?_, ?_, ?_⟩ ⟨?_, ?_, ?_, ?_⟩ <;>
    simp only [incrementedUsage, h1, h2, h3, h4]
  · exact Nat.zero_le _
  · exact Nat.zero_le _
  · exact hpositive
  · exact Nat.zero_le _
  all_goals exact le_rfl

lemma evaluateParent_spec :
    Spec (Idle cfg) (evaluateParent cfg) (fun _ => InBudget cfg (usageBefore none))
      fun _ => Budgeted cfg (usageBefore none) := by
  have h : Uncounted cfg (InBudget cfg (usageBefore none)) := InBudget.uncounted
  refine Spec.bind ensureEffectBudget_parent fun _ => ?_
  refine (ParentReady.keeps fun _ hI => hI.checkCancellation).bind fun _ => ?_
  refine (ParentReady.keeps fun _ hI => hI.checkCancellation).bind fun _ => ?_
  refine (ParentReady.keeps fun _ hI => hI.beginExternalEffect _ _).bind fun effect => ?_
  refine (evaluateSnapshot_parent effect _).bind fun evidence => ?_
  refine Spec.bind (Q := fun _ w => 0 < cfg.budget.maxDevelopmentEvaluations ∧ Idle cfg w)
    (Spec.updateAttributes fun w hw => ⟨hw.1, hw.2.update _⟩) fun _ => ?_
  refine increment_parent.bind fun _ => ?_
  have hrest := (h.steady.clearExternalEffect effect.effectId).bind fun _ =>
    h.steady.checkCancellation
  exact hrest.mono (fun _ hw => hw) (fun _ _ hw => hw) fun _ _ hw => .inl hw

/-- A new call counts its effects, or it has ended before its first. -/
def Started (cfg : SessionConfig) (base : ProposalUsage) (w : World) : Prop :=
  InBudget cfg base w ∨ Idle cfg w ∧ w.attributes.terminalStatus ≠ none

lemma terminate_started (status : ProposalStatus) (message : String) :
    Spec (Budgeted cfg base) (terminate status message) (fun _ => Started cfg base)
      fun _ => Budgeted cfg base :=
  Spec.updateAttributes fun _ hw =>
    hw.imp (·.update _) fun h => ⟨h.update _, Option.some_ne_none _⟩

lemma startNewCall_spec :
    Spec (Idle cfg) (startNewCall cfg) (fun _ => Started cfg (usageBefore none))
      fun _ => Budgeted cfg (usageBefore none) := by
  have h : Uncounted cfg (Idle cfg) := Idle.uncounted
  refine Spec.bind (h.steady.refreshElapsed.mono (fun _ hw => hw) (fun _ _ hw => hw)
    fun _ _ hw => .inr hw) fun _ => Spec.getSession fun session => ?_
  cases loopLimitReason cfg.budget session.state.usage with
  | some limit => exact (terminate_started _ _).pre fun w hw => .inr hw.2
  | none =>
    refine Spec.bind (Q := fun r w => (∀ a, r = .ok a → InBudget cfg (usageBefore none) w) ∧
        Budgeted cfg (usageBefore none) w)
      (Spec.result (evaluateParent_spec.pre fun w hw => hw.2) (fun a w hw => ?_)
        fun e w hw => ⟨?_, hw⟩) fun r => ?_
    · exact ⟨fun _ _ => hw, .inl hw⟩
    · rintro a ⟨⟩
    · cases r with
      | ok a => exact Spec.pure fun w hw => .inl (hw.1 a rfl)
      | error e =>
        cases e
        case toolBudgetExceeded limit => exact (terminate_started _ _).pre fun w hw => hw.2
        all_goals exact Spec.fail fun w hw => hw.2

lemma restoreCheckpoint_spec {checkpoint : AVOCheckpoint}
    (hwithin : Within cfg.budget checkpoint.usage) :
    Spec (Idle cfg) (restoreCheckpoint cfg checkpoint)
      (fun _ => InBudget cfg checkpoint.usage) fun _ => Budgeted cfg checkpoint.usage := by
  have h : Uncounted cfg (InBudget cfg checkpoint.usage) := InBudget.uncounted
  rw [restoreCheckpoint]
  cases checkpoint.parentEvidence with
  | none => exact Spec.fail fun w hw => .inr hw
  | some evidence =>
    refine Spec.bind (Spec.ofExcept (fun _ _ _ hw => hw) fun _ _ hw => .inr hw) fun evidence => ?_
    refine Spec.bind (Q := fun _ => Idle cfg) (Spec.updateAttributes fun w hw => hw.update _)
      fun _ => ?_
    refine Spec.bind (Q := fun state w => state.usage = checkpoint.usage ∧ Idle cfg w)
      (Spec.ofExcept (fun state w hstate hw => ⟨?_, hw⟩) fun _ _ hw => .inr hw) fun state => ?_
    · exact AVOCheckpoint.toState_usage hstate
    refine Spec.bind (Q := fun _ => InBudget cfg checkpoint.usage)
      (Spec.assign fun w hw => hw.2.inBudget (hw.1 ▸ hwithin) ?_) fun _ => ?_
    · rw [hw.1]
      exact ⟨le_rfl, le_rfl, le_rfl, le_rfl⟩
    refine Spec.mono (P := InBudget cfg checkpoint.usage)
      (Q := fun _ => InBudget cfg checkpoint.usage) (E := fun _ => InBudget cfg checkpoint.usage)
      ?_ (fun _ hw => hw) (fun _ _ hw => hw) fun _ _ hw => .inl hw
    refine (h.freeScratch.applySnapshot _).bind fun _ => ?_
    refine Keeps.bind (Spec.perform fun w reply hw =>
      ⟨_, rfl, h.steady.clock w reply.now hw⟩) fun now => ?_
    exact h.updateAttributes _

variable {checkpoint : Option AVOCheckpoint}

lemma startSession_spec (hwithin : ∀ document ∈ checkpoint, Within cfg.budget document.usage) :
    Spec (Idle cfg) (startSession cfg checkpoint)
      (fun r w => Started cfg (usageBefore checkpoint) w ∧
        ∀ proposal, r = some proposal → Budgeted cfg (usageBefore checkpoint) w)
      fun _ => Budgeted cfg (usageBefore checkpoint) := by
  have counted {w : World} (h : InBudget cfg (usageBefore checkpoint) w)
      (r : Option CandidateProposal) : Started cfg (usageBefore checkpoint) w ∧
        ∀ proposal, r = some proposal → Budgeted cfg (usageBefore checkpoint) w :=
    ⟨.inl h, fun _ _ => .inl h⟩
  cases checkpoint with
  | none =>
    exact startNewCall_spec.bind fun _ => Spec.pure fun w hw => ⟨hw, by rintro _ ⟨⟩⟩
  | some checkpoint =>
    have h : Uncounted cfg (InBudget cfg checkpoint.usage) := InBudget.uncounted
    refine (restoreCheckpoint_spec (hwithin checkpoint rfl)).bind fun _ => ?_
    refine Spec.getSession fun session => Spec.ite
      (fun _ => Spec.pure fun w hw => counted hw.2 _) fun _ => ?_
    exact (h.orExhausted InBudget.maybeGetAdvice).mono (fun w hw => hw.2)
      (fun r w hw => counted hw r) fun _ _ hw => .inl hw

lemma loop_spec (fuel : ℕ) :
    Spec (Started cfg base) (loop cfg fuel) (fun _ => Budgeted cfg base)
      fun _ => Budgeted cfg base := by
  refine Spec.or ((InBudget.loop fuel).mono (fun _ hw => hw) (fun _ _ hw => .inl hw)
    fun _ _ hw => .inl hw) ?_
  cases fuel with
  | zero => exact Spec.fail fun w hw => .inr hw.1
  | succ fuel =>
    have h : Uncounted cfg (Idle cfg) := Idle.uncounted
    refine Spec.getSession fun session => Spec.ite (fun _ => ?_) fun hterminal => ?_
    · exact h.terminalResult.mono (fun w hw => hw.2.1) (fun _ _ hw => .inr hw)
        fun _ _ hw => .inr hw
    · refine Spec.pre (Spec.ofPure (P := fun _ => True) fun hfalse : False => hfalse.elim)
        fun w hw => ⟨?_, trivial⟩
      obtain ⟨rfl, -, hne⟩ := hw
      exact hterminal hne

variable (hwithin : ∀ document ∈ checkpoint, Within cfg.budget document.usage)
include hwithin

lemma runUncancelled_spec :
    Spec (Idle cfg) (runUncancelled cfg checkpoint)
      (fun _ => Budgeted cfg (usageBefore checkpoint))
      fun _ => Budgeted cfg (usageBefore checkpoint) := by
  have h : Uncounted cfg (Budgeted cfg (usageBefore checkpoint)) := Budgeted.uncounted
  refine Spec.ite (fun _ => ?_) fun _ => ?_
  · have hskip := h.steady.checkCancellation.bind fun _ =>
      (h.steady.terminate .abstained "Proposal scope does not permit a mutation.").bind
        fun _ => h.terminalResult
    exact hskip.pre fun w hw => .inr hw
  · refine (startSession_spec hwithin).bind fun result => ?_
    cases result with
    | some proposal => exact Spec.pure fun w hw => hw.2 proposal rfl
    | none => exact (loop_spec _).pre fun w hw => hw.1

lemma runSession_spec :
    Spec (Idle cfg) (runSession cfg checkpoint)
      (fun _ => Budgeted cfg (usageBefore checkpoint))
      fun _ => Budgeted cfg (usageBefore checkpoint) := by
  have h : Uncounted cfg (Budgeted cfg (usageBefore checkpoint)) := Budgeted.uncounted
  refine Spec.tryCatch (runUncancelled_spec hwithin) fun error => ?_
  cases error
  case cancelled reason => exact h.finishCancellation reason
  all_goals exact Keeps.fail

lemma newSession_spec :
    Spec (Idle cfg) (newSession cfg checkpoint)
      (fun _ => Budgeted cfg (usageBefore checkpoint))
      fun _ => Budgeted cfg (usageBefore checkpoint) := by
  have h : Uncounted cfg (Idle cfg) := Idle.uncounted
  have hstart {α : Type} {m : Method α} (hm : Keeps (Idle cfg) m) :
      Spec (Idle cfg) m (fun _ => Idle cfg) fun _ => Budgeted cfg (usageBefore checkpoint) :=
    hm.mono (fun _ hw => hw) (fun _ _ hw => hw) fun _ _ hw => .inr hw
  refine (hstart h.materialiseScratch).bind fun _ => ?_
  refine Spec.bind (Q := fun _ => Idle cfg)
    (Spec.perform fun w reply hw => ⟨_, rfl, h.steady.clock w reply.now hw⟩) fun now => ?_
  refine (hstart (h.updateAttributes _)).bind fun _ => ?_
  exact (hstart Keeps.ofExcept).bind fun _ => runSession_spec hwithin

omit hwithin

/-- The counters that a call counts from. -/
def callUsage (cfg : SessionConfig) (file : Option AVOCheckpoint) : ProposalUsage :=
  usageBefore (cfg.configurationIdentity.bind fun _ => file)

lemma resumeAvo_spec {identity : AVOConfigurationIdentity} {file : AVOCheckpoint}
    (hwithin : Within cfg.budget file.usage) :
    Spec (Idle cfg) (resumeAvo cfg identity file) (fun _ => Budgeted cfg file.usage)
      fun _ => Budgeted cfg file.usage := by
  have h : Uncounted cfg (Budgeted cfg file.usage) := Budgeted.uncounted
  refine Spec.bind (Q := fun checkpoint w => checkpoint.usage = file.usage ∧ Idle cfg w) ?_
    fun checkpoint => Spec.ofPure fun husage => ?_
  · refine Spec.bind (Q := fun checkpoint w => checkpoint.usage = file.usage ∧ Idle cfg w)
      (Spec.ofExcept (fun checkpoint w hread hw => ⟨AVOCheckpoint.read_usage _ hread, hw⟩)
        fun _ _ hw => .inr hw) fun checkpoint => ?_
    refine Spec.bind (Spec.ofExcept (fun _ _ _ hw => hw) fun _ _ hw => .inr hw.2) fun _ => ?_
    cases checkpoint.incompleteExternalEffects with
    | nil => exact Spec.pure fun _ hw => hw
    | cons effect effects => exact Spec.fail fun _ hw => .inr hw.2
  · cases checkpoint.terminalResult with
    | none =>
      have hdocument : ∀ document ∈ some checkpoint, Within cfg.budget document.usage := by
        rintro document ⟨⟩
        rwa [husage]
      have hrun := newSession_spec hdocument
      rwa [show usageBefore (some checkpoint) = file.usage from husage] at hrun
    | some terminal =>
      refine Spec.pre (P := Budgeted cfg file.usage) ?_ fun w hw => .inr hw
      refine Keeps.ite (h.steady.checkCancellation.bind fun _ => ?_) Keeps.ofExcept
      by_cases hvisible : ¬ Text.Blank terminal.reasoning
      · rw [dif_pos hvisible]; exact Keeps.fail
      · rw [dif_neg hvisible]; exact Keeps.fail

lemma runAvo_spec {file : Option AVOCheckpoint}
    (hwithin : ∀ document ∈ file, Within cfg.budget document.usage) :
    Spec (Idle cfg) (runAvo cfg file) (fun _ => Budgeted cfg (callUsage cfg file))
      fun _ => Budgeted cfg (callUsage cfg file) := by
  have h : Uncounted cfg (Idle cfg) := Idle.uncounted
  have hnew : Spec (Idle cfg) (newSession cfg none) (fun _ => Budgeted cfg (usageBefore none))
      fun _ => Budgeted cfg (usageBefore none) := newSession_spec (by rintro _ ⟨⟩)
  have hpoll {α : Type} {m : Method α} (hm : Keeps (Idle cfg) m) :
      Spec (Idle cfg) m (fun _ => Idle cfg) fun _ => Budgeted cfg (usageBefore none) :=
    hm.mono (fun _ hw => hw) (fun _ _ hw => hw) fun _ _ hw => .inr hw
  rw [runAvo, callUsage]
  cases cfg.configurationIdentity with
  | none =>
    refine (hpoll h.steady.checkCancellation).bind fun _ => Spec.ite (fun _ => ?_) fun _ => hnew
    refine Spec.bind (Q := fun _ => Idle cfg) (Spec.perform fun w reply hw =>
      ⟨_, rfl, h.steady.polled w reply.cancelled hw⟩) fun reason => ?_
    refine Spec.ite (fun _ => ?_) fun _ => hnew
    exact Spec.ofExcept (fun _ _ _ hw => .inr hw) fun _ _ hw => .inr hw
  | some identity =>
    cases file with
    | none => exact hnew
    | some file => exact resumeAvo_spec (hwithin file rfl)

end Sessions

/-! ## Calls -/

section Calls

variable {cfg : SessionConfig} {skillBudget : ℕ} {file : Option AVOCheckpoint}

lemma startWorld_idle : Idle cfg (startWorld cfg skillBudget) :=
  ⟨⟨rfl, rfl, rfl, rfl⟩, fun _ _ => rfl, fun _ => trivial⟩

lemma callOf_budgeted (hwithin : ∀ document ∈ file, Within cfg.budget document.usage)
    (replies : ℕ → Reply) :
    Budgeted cfg (callUsage cfg file) (callOf cfg skillBudget file replies).2 := by
  have hidle : Idle cfg (startWorld cfg skillBudget) := startWorld_idle
  have hrun := (runAvo_spec hwithin).exec replies 0 hidle
  revert hrun
  rw [callOf]
  generalize (runAvo cfg file).exec semantics (environment replies) 0
    (startWorld cfg skillBudget) = run
  obtain ⟨e | a, w, n⟩ := run
  · exact fun hrun => hrun.2 e rfl
  · exact fun hrun => hrun.1 a rfl

lemma FileReachable.within (h : FileReachable cfg skillBudget file) :
    ∀ document ∈ file, Within cfg.budget document.usage := by
  induction h with
  | absent => rintro _ ⟨⟩
  | call h replies hlog ih =>
    exact ((callOf_budgeted ih replies).accounted.suffix hlog).checkpointFile ih

/-- A variation with an advisor and a limit on tokens. -/
def advisedConfig : SessionConfig :=
  { sampleConfig with
    advisor := true
    budget :=
      { sampleConfig.budget with maxSupervisorInterventions := 1, maxInputTokens := some 11 } }

/-- A runner that, in its second request, asks for advice and uses up the tokens. -/
def advisedReply (n : ℕ) : Reply :=
  { records := .ok [sampleTrial "evaluated" 0]
    turn :=
      if n < 80 then .respond { command := .bare .inspectParentResults, inputTokens := some 1 }
      else .call (.bare .requestAdvice) fun _ =>
        .respond { command := .bare .inspectParentResults, inputTokens := some 10 } }

end Calls

end AecBench.Evolution.Session
