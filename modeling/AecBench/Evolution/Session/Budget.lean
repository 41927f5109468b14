import AecBench.Evolution.Session.Invariants

/-!
# The budget of a session

What the limits of a session allow, when an effect is admitted and counted, and the methods that
start none.

## Main definitions

* `Effect` — the effects that limits count; `started` — how many of a kind were started.
* `Within` — the counters are within the limits; `Reserved` — the counters cover the effects.
* `BelowLimits`, `ToolBelowLimits`, `EvaluationBelowLimits`, `AdvisorBelowLimits` — what is tested
  before an effect; `Admission` — that it was tested, with the clock read since the last effect.
* `Accounted` — every event of a record keeps to the limits, and every effect was admitted and
  counted.
* `InBudget`, `Idle` — the invariants of a session with counted effects, and before the first.

## Main results

* `loopLimitReason_eq_none`, `toolCallLimit_eq_none`, `evaluationLimit_eq_none` — what it means
  that no limit is reached.
* `Ready.start` — an effect that is ready can start.
* `Uncounted.editCandidate`, `Uncounted.terminalResult` and their siblings — what starts no effect
  keeps the budget.
-/

namespace AecBench.Evolution.Session

open Validation

/-! ## Limits -/

/-- The counters are within the limits. -/
structure Within (budget : AVOBudget) (usage : ProposalUsage) : Prop where
  modelRequests : usage.modelRequests ≤ budget.maxModelRequests
  toolCalls : usage.toolCalls ≤ budget.maxToolCalls
  developmentEvaluations : usage.developmentEvaluations ≤ budget.maxDevelopmentEvaluations
  supervisorInterventions : usage.supervisorInterventions ≤ budget.maxSupervisorInterventions

/-- The tokens, once there was a model request, and the cost are known and below their limits,
where they have one. -/
structure BelowSpending (budget : AVOBudget) (usage : ProposalUsage) : Prop where
  inputTokens : usage.modelRequests ≠ 0 →
    ∀ limit ∈ budget.maxInputTokens, ∃ tokens ∈ usage.inputTokens, tokens < limit
  outputTokens : usage.modelRequests ≠ 0 →
    ∀ limit ∈ budget.maxOutputTokens, ∃ tokens ∈ usage.outputTokens, tokens < limit
  cost : ∀ limit ∈ budget.maxCostUsd, ∃ cost ∈ usage.totalCostUsd, cost < limit

/-- The limits of a tool call are not reached. -/
structure ToolBelowLimits (budget : AVOBudget) (usage : ProposalUsage) : Prop where
  toolCalls : usage.toolCalls < budget.maxToolCalls
  elapsedSeconds : usage.elapsedSeconds < budget.maxElapsedSeconds
  spending : BelowSpending budget usage

/-- The limits of a model request are not reached. -/
structure BelowLimits (budget : AVOBudget) (usage : ProposalUsage) : Prop
    extends ToolBelowLimits budget usage where
  modelRequests : usage.modelRequests < budget.maxModelRequests

/-- The limits of an evaluation are not reached. -/
structure EvaluationBelowLimits (budget : AVOBudget) (state : AVOState) (usage : ProposalUsage) :
    Prop extends BelowLimits budget usage where
  developmentEvaluations : usage.developmentEvaluations < budget.maxDevelopmentEvaluations
  evaluationErrors : state.consecutiveEvaluationErrors < budget.maxConsecutiveEvaluationErrors
  stagnation : state.consecutiveWithoutProgress < budget.maxStagnantEvaluations

/-- The limits of a call of the advisor: its counters and the recorded elapsed time are below
theirs, and the known tokens and the known cost do not exceed theirs. -/
structure AdvisorBelowLimits (budget : AVOBudget) (usage : ProposalUsage) : Prop where
  modelRequests : usage.modelRequests < budget.maxModelRequests
  supervisorInterventions : usage.supervisorInterventions < budget.maxSupervisorInterventions
  elapsedSeconds : usage.elapsedSeconds < budget.maxElapsedSeconds
  inputTokens : ∀ limit ∈ budget.maxInputTokens, ∀ tokens ∈ usage.inputTokens, tokens ≤ limit
  outputTokens : ∀ limit ∈ budget.maxOutputTokens, ∀ tokens ∈ usage.outputTokens, tokens ≤ limit
  cost : ∀ limit ∈ budget.maxCostUsd, ∀ cost ∈ usage.withAdvisorCall.totalCostUsd, cost ≤ limit

lemma tokenLimit_eq_none {name : String} {observed limit : Option ℕ} :
    tokenLimit name observed limit = none ↔
      ∀ bound ∈ limit, ∃ tokens ∈ observed, tokens < bound := by
  cases limit with
  | none => simp [tokenLimit]
  | some bound => cases observed <;> simp [tokenLimit]

variable {budget : AVOBudget}

lemma knownTokenLimit_eq_none {usage : ProposalUsage} :
    knownTokenLimit budget usage = none ↔ (usage.modelRequests ≠ 0 →
      (∀ limit ∈ budget.maxInputTokens, ∃ tokens ∈ usage.inputTokens, tokens < limit) ∧
        ∀ limit ∈ budget.maxOutputTokens, ∃ tokens ∈ usage.outputTokens, tokens < limit) := by
  by_cases hzero : usage.modelRequests = 0
  · simp [knownTokenLimit, hzero]
  · rw [knownTokenLimit, if_neg hzero, Option.or_eq_none_iff, tokenLimit_eq_none,
      tokenLimit_eq_none]
    exact ⟨fun h _ => h, fun h => h hzero⟩

lemma knownCostLimit_eq_none {usage : ProposalUsage} :
    knownCostLimit budget usage = none ↔
      ∀ limit ∈ budget.maxCostUsd, ∃ cost ∈ usage.totalCostUsd, cost < limit := by
  rw [knownCostLimit]
  cases budget.maxCostUsd with
  | none => simp
  | some limit => cases usage.totalCostUsd <;> simp

lemma knownLimit_eq_none {usage : ProposalUsage} :
    knownLimit budget usage = none ↔ BelowSpending budget usage := by
  rw [knownLimit, Option.or_eq_none_iff, knownTokenLimit_eq_none, knownCostLimit_eq_none]
  exact ⟨fun h => ⟨fun hzero => (h.1 hzero).1, fun hzero => (h.1 hzero).2, h.2⟩,
    fun h => ⟨fun hzero => ⟨h.inputTokens hzero, h.outputTokens hzero⟩, h.cost⟩⟩

lemma ite_some_eq_none {c : Prop} [Decidable c] {limit : String} {rest : Option String} :
    (if c then some limit else rest) = none ↔ ¬ c ∧ rest = none := by
  by_cases hc : c <;> simp [hc]

lemma loopLimitReason_eq_none {usage : ProposalUsage} :
    loopLimitReason budget usage = none ↔ BelowLimits budget usage := by
  simp only [loopLimitReason, ite_some_eq_none, knownLimit_eq_none, not_le]
  exact ⟨fun ⟨h1, h2, h3, h4⟩ => ⟨⟨h2, h3, h4⟩, h1⟩,
    fun h => ⟨h.modelRequests, h.toolCalls, h.elapsedSeconds, h.spending⟩⟩

lemma modelRequestLimit_eq_none {usage : ProposalUsage} :
    modelRequestLimit budget usage = none ↔
      usage.modelRequests < budget.maxModelRequests ∧
        usage.elapsedSeconds < budget.maxElapsedSeconds := by
  simp only [modelRequestLimit, ite_some_eq_none, not_le, and_true]

lemma toolCallLimit_eq_none {usage : ProposalUsage} :
    toolCallLimit budget usage = none ↔ ToolBelowLimits budget usage := by
  simp only [toolCallLimit, ite_some_eq_none, knownLimit_eq_none, not_le]
  exact ⟨fun ⟨h1, h2, h3⟩ => ⟨h1, h2, h3⟩, fun h => ⟨h.toolCalls, h.elapsedSeconds, h.spending⟩⟩

lemma evaluationLimit_eq_none {state : AVOState} :
    evaluationLimit budget state = none ↔ EvaluationBelowLimits budget state state.usage := by
  simp only [evaluationLimit, ite_some_eq_none, loopLimitReason_eq_none, not_le]
  exact ⟨fun ⟨h1, h2, h3, h4⟩ => ⟨h4, h1, h2, h3⟩,
    fun h => ⟨h.developmentEvaluations, h.evaluationErrors, h.stagnation, h.toBelowLimits⟩⟩

/-! ## Effects -/

/-- The effects that limits count. -/
inductive Effect
  | modelRequest
  | toolCall
  /-- The evaluation of the parent, with which a new call starts. -/
  | parentEvaluation
  | evaluation
  | advisorCall
  deriving DecidableEq

/-- The effect that starts with an occurrence, if one does. -/
def Occurrence.effect : Occurrence → Option Effect
  | .model _ => some .modelRequest
  | .tool _ => some .toolCall
  | .development revision _ _ => some (if revision = 0 then .parentEvaluation else .evaluation)
  | .supervisor _ _ => some .advisorCall
  | _ => none

/-- How many effects of a kind were started. -/
def started (effect : Effect) (log : List Event) : ℕ :=
  log.countP fun event => event.occurrence.effect = some effect

/-- The counters cover the effects that were started since they were those of `base`. -/
structure Reserved (base : ProposalUsage) (log : List Event) (usage : ProposalUsage) : Prop where
  modelRequests : base.modelRequests + started .modelRequest log + started .advisorCall log ≤
    usage.modelRequests
  toolCalls : base.toolCalls + started .toolCall log ≤ usage.toolCalls
  developmentEvaluations : base.developmentEvaluations + started .evaluation log ≤
    usage.developmentEvaluations
  supervisorInterventions : base.supervisorInterventions + started .advisorCall log ≤
    usage.supervisorInterventions

/-- The reading of the clock since which only the state was assigned, the cancellation signal
looked at, or a checkpoint written. -/
def clockReading : List Event → Option ℚ
  | [] => none
  | event :: log =>
    match event.occurrence with
    | .clock now => some now
    | .assigned => clockReading log
    | .polled _ => clockReading log
    | .wrote _ => clockReading log
    | _ => none

/-- The elapsed time is that of the clock, which was read since the last effect. -/
def Timely (log : List Event) (startedAt : ℚ) (usage : ProposalUsage) : Prop :=
  ∃ now, clockReading log = some now ∧ usage.elapsedSeconds = elapsedAt startedAt now

/-- An effect was admitted: its limits were not reached by the usage before it, and that usage
was increased by the effect. The evaluation of the parent is not counted yet. -/
def Admission (cfg : SessionConfig) (log : List Event) (state : AVOState) (startedAt : ℚ) :
    Effect → Prop
  | .modelRequest => ∃ before, state.usage = incrementedUsage cfg 1 0 0 before ∧
      BelowLimits cfg.budget before ∧ Timely log startedAt before
  | .toolCall => ∃ before, state.usage = incrementedUsage cfg 0 1 0 before ∧
      ToolBelowLimits cfg.budget before ∧ Timely log startedAt before
  | .parentEvaluation => EvaluationBelowLimits cfg.budget state state.usage ∧
      Timely log startedAt state.usage
  | .evaluation => ∃ before, state.usage = incrementedUsage cfg 0 0 1 before ∧
      EvaluationBelowLimits cfg.budget state before ∧ Timely log startedAt before
  | .advisorCall => ∃ before : ProposalUsage, state.usage = before.withAdvisorCall ∧
      AdvisorBelowLimits cfg.budget before

/-- What the budget demands of an event: the counters are within the limits, an effect was
admitted, its counter covers it and those before it, and a checkpoint has the usage it is written
with. -/
structure EventAccounted (cfg : SessionConfig) (base : ProposalUsage) (event : Event)
    (log : List Event) : Prop where
  within : Within cfg.budget event.state.usage
  admitted : ∀ effect ∈ event.occurrence.effect,
    Admission cfg log event.state event.startedAt effect
  counted : ∀ effect ∈ event.occurrence.effect, effect ≠ .parentEvaluation →
    Reserved base (event :: log) event.state.usage
  written : ∀ checkpoint, event.occurrence = .wrote checkpoint →
    checkpoint.usage = event.state.usage

/-- Every event of a record keeps to the budget. -/
def Accounted (cfg : SessionConfig) (base : ProposalUsage) : List Event → Prop
  | [] => True
  | event :: log => EventAccounted cfg base event log ∧ Accounted cfg base log

/-! ## Records -/

section Records

variable {cfg : SessionConfig} {base usage usage' : ProposalUsage} {log : List Event}
  {event : Event}

lemma started_cons_of_effect {effect : Effect} (h : event.occurrence.effect = none) :
    started effect (event :: log) = started effect log := by
  simp [started, h]

lemma Reserved.cons (h : Reserved base log usage) (hquiet : event.occurrence.effect = none) :
    Reserved base (event :: log) usage := by
  refine ⟨?_, ?_, ?_, ?_⟩ <;> simp only [started_cons_of_effect hquiet]
  · exact h.modelRequests
  · exact h.toolCalls
  · exact h.developmentEvaluations
  · exact h.supervisorInterventions

lemma Reserved.insert {quiet : Event} (h : Reserved base (event :: log) usage)
    (hquiet : quiet.occurrence.effect = none) : Reserved base (event :: quiet :: log) usage := by
  have hstarted : ∀ effect, started effect (event :: quiet :: log) =
      started effect (event :: log) := fun effect => by simp [started, List.countP_cons, hquiet]
  refine ⟨?_, ?_, ?_, ?_⟩ <;> simp only [hstarted]
  · exact h.modelRequests
  · exact h.toolCalls
  · exact h.developmentEvaluations
  · exact h.supervisorInterventions

lemma Reserved.of_le (h : Reserved base log usage)
    (hrequests : usage.modelRequests ≤ usage'.modelRequests)
    (htools : usage.toolCalls ≤ usage'.toolCalls)
    (hevaluations : usage.developmentEvaluations ≤ usage'.developmentEvaluations)
    (hinterventions : usage.supervisorInterventions ≤ usage'.supervisorInterventions) :
    Reserved base log usage' :=
  ⟨h.modelRequests.trans hrequests, h.toolCalls.trans htools,
    h.developmentEvaluations.trans hevaluations, h.supervisorInterventions.trans hinterventions⟩

lemma started_cons {effect started' : Effect} (h : event.occurrence.effect = some started') :
    started effect (event :: log) = started effect log + if started' = effect then 1 else 0 := by
  simp only [started, List.countP_cons, h, Option.some.injEq, decide_eq_true_eq]

lemma Reserved.start {effect : Effect} (h : Reserved base log usage)
    (heffect : event.occurrence.effect = some effect)
    (hrequests : usage.modelRequests +
      (if effect = .modelRequest ∨ effect = .advisorCall then 1 else 0) ≤ usage'.modelRequests)
    (htools : usage.toolCalls + (if effect = .toolCall then 1 else 0) ≤ usage'.toolCalls)
    (hevaluations : usage.developmentEvaluations + (if effect = .evaluation then 1 else 0) ≤
      usage'.developmentEvaluations)
    (hinterventions : usage.supervisorInterventions +
      (if effect = .advisorCall then 1 else 0) ≤ usage'.supervisorInterventions) :
    Reserved base (event :: log) usage' := by
  obtain ⟨h1, h2, h3, h4⟩ := h
  refine ⟨?_, ?_, ?_, ?_⟩ <;> simp only [started_cons heffect]
  · cases effect <;> simp at hrequests ⊢ <;> omega
  · omega
  · omega
  · omega

lemma Reserved.of_same (h : Reserved base log usage) (hsame : SameCounters usage' usage) :
    Reserved base log usage' :=
  h.of_le hsame.modelRequests.ge hsame.toolCalls.ge hsame.developmentEvaluations.ge
    hsame.supervisorInterventions.ge

lemma Within.of_same (h : Within budget usage) (hsame : SameCounters usage' usage) :
    Within budget usage' :=
  ⟨hsame.modelRequests.trans_le h.modelRequests, hsame.toolCalls.trans_le h.toolCalls,
    hsame.developmentEvaluations.trans_le h.developmentEvaluations,
    hsame.supervisorInterventions.trans_le h.supervisorInterventions⟩

lemma Accounted.suffix {log' : List Event} (h : Accounted cfg base log) (hlog : log' <:+ log) :
    Accounted cfg base log' := by
  induction log with
  | nil => rw [List.suffix_nil.mp hlog]; trivial
  | cons event log ih =>
    rcases List.suffix_cons_iff.mp hlog with rfl | hlog
    · exact h
    · exact ih h.2 hlog

lemma Accounted.checkpointFile {file : Option AVOCheckpoint} (h : Accounted cfg base log)
    (hfile : ∀ checkpoint ∈ file, Within cfg.budget checkpoint.usage) :
    ∀ checkpoint ∈ checkpointFile log file, Within cfg.budget checkpoint.usage := by
  induction log with
  | nil => exact hfile
  | cons event log ih =>
    intro checkpoint hcheckpoint
    have ih := ih h.2 checkpoint
    cases hevent : event.occurrence
    case wrote written =>
      simp only [Session.checkpointFile, hevent, Option.mem_def, Option.some.injEq] at hcheckpoint
      subst hcheckpoint
      rw [h.1.written _ hevent]
      exact h.1.within
    all_goals
      simp only [Session.checkpointFile, hevent] at hcheckpoint
      exact ih hcheckpoint

end Records

/-! ## Invariants -/

/-- The invariant of a session with counted effects: its record is accounted, and its counters
cover the effects and are within the limits. -/
structure InBudget (cfg : SessionConfig) (base : ProposalUsage) (w : World) : Prop where
  within : Within cfg.budget w.state.usage
  reserved : Reserved base w.log w.state.usage
  accounted : Accounted cfg base w.log

/-- The invariant of a session before its first counted effect. -/
structure Idle (cfg : SessionConfig) (w : World) : Prop where
  counters : SameCounters w.state.usage {}
  unstarted : ∀ effect ≠ Effect.parentEvaluation, started effect w.log = 0
  accounted : ∀ base, Accounted cfg base w.log

/-- An effect that can start now. -/
structure Ready (cfg : SessionConfig) (base : ProposalUsage) (effect : Effect) (w : World) :
    Prop extends InBudget cfg base w where
  admitted : Admission cfg w.log w.state w.attributes.startedAt effect
  counted : ∀ occurrence : Occurrence, occurrence.effect = some effect →
    Reserved base (w.record occurrence).log w.state.usage

section Invariants

variable {cfg : SessionConfig} {base : ProposalUsage} {w : World} {state : AVOState}
  {occurrence : Occurrence}

lemma EventAccounted.of_quiet {event : Event} {log : List Event}
    (hwithin : Within cfg.budget event.state.usage) (hquiet : event.occurrence.effect = none)
    (hwritten : ∀ checkpoint, event.occurrence = .wrote checkpoint →
      checkpoint.usage = event.state.usage) : EventAccounted cfg base event log :=
  ⟨hwithin, by simp [hquiet], by simp [hquiet], hwritten⟩

lemma InBudget.record (h : InBudget cfg base w) (hquiet : occurrence.effect = none)
    (hwritten : ∀ checkpoint, occurrence = .wrote checkpoint →
      checkpoint.usage = w.state.usage) : InBudget cfg base (w.record occurrence) :=
  ⟨h.within, h.reserved.cons hquiet, .of_quiet h.within hquiet hwritten, h.accounted⟩

lemma InBudget.update (h : InBudget cfg base w) (f : Attributes → Attributes) :
    InBudget cfg base (w.update f) := ⟨h.within, h.reserved, h.accounted⟩

lemma InBudget.assign (h : InBudget cfg base w) (hwithin : Within cfg.budget state.usage)
    (hreserved : Reserved base w.log state.usage) : InBudget cfg base (w.assign state) :=
  ⟨hwithin, hreserved.cons rfl, .of_quiet hwithin rfl (by rintro _ ⟨⟩), h.accounted⟩

lemma InBudget.assign_same (h : InBudget cfg base w)
    (hsame : SameCounters state.usage w.state.usage) : InBudget cfg base (w.assign state) :=
  h.assign (h.within.of_same hsame) (h.reserved.of_same hsame)

/-- **An effect that is ready can start.** -/
theorem Ready.start {effect : Effect} (h : Ready cfg base effect w)
    (heffect : occurrence.effect = some effect) : InBudget cfg base (w.record occurrence) := by
  refine ⟨h.within, h.counted _ heffect, ⟨h.within, ?_, ?_, ?_⟩, h.accounted⟩
  · intro effect' hmem
    obtain rfl : effect = effect' := Option.some.inj (heffect.symm.trans hmem)
    exact h.admitted
  · exact fun effect' _ _ => h.counted _ heffect
  · rintro checkpoint rfl
    cases heffect

lemma idle_within (h : SameCounters w.state.usage {}) : Within cfg.budget w.state.usage := by
  have hzero : Within cfg.budget ({} : ProposalUsage) := by
    refine ⟨?_, ?_, ?_, ?_⟩ <;> exact Nat.zero_le _
  exact hzero.of_same h

lemma Idle.record (h : Idle cfg w) (hquiet : occurrence.effect = none)
    (hwritten : ∀ checkpoint, occurrence = .wrote checkpoint →
      checkpoint.usage = w.state.usage) : Idle cfg (w.record occurrence) :=
  ⟨h.counters, fun effect hne => (started_cons_of_effect hquiet).trans (h.unstarted effect hne),
    fun base => ⟨.of_quiet (idle_within h.counters) hquiet hwritten, h.accounted base⟩⟩

lemma Idle.update (h : Idle cfg w) (f : Attributes → Attributes) : Idle cfg (w.update f) :=
  ⟨h.counters, h.unstarted, h.accounted⟩

lemma Idle.assign_same (h : Idle cfg w) (hsame : SameCounters state.usage w.state.usage) :
    Idle cfg (w.assign state) := by
  have hcounters : SameCounters state.usage {} :=
    ⟨hsame.modelRequests.trans h.counters.modelRequests,
      hsame.toolCalls.trans h.counters.toolCalls,
      hsame.developmentEvaluations.trans h.counters.developmentEvaluations,
      hsame.supervisorInterventions.trans h.counters.supervisorInterventions⟩
  refine ⟨hcounters, fun effect hne => ?_, fun base => ?_⟩
  · exact (started_cons_of_effect rfl).trans (h.unstarted effect hne)
  · exact ⟨.of_quiet (idle_within (w := w.assign state) hcounters) rfl (by rintro _ ⟨⟩),
      h.accounted base⟩

lemma Idle.inBudget (h : Idle cfg w) (hwithin : Within cfg.budget state.usage)
    (hbase : Reserved base [] state.usage) : InBudget cfg base (w.assign state) := by
  have hreserved : Reserved base w.log state.usage := by
    have hmodel := h.unstarted .modelRequest (by decide)
    have htool := h.unstarted .toolCall (by decide)
    have hevaluation := h.unstarted .evaluation (by decide)
    have hadvisor := h.unstarted .advisorCall (by decide)
    refine ⟨?_, ?_, ?_, ?_⟩ <;> simp only [hmodel, htool, hevaluation, hadvisor]
    · exact hbase.modelRequests
    · exact hbase.toolCalls
    · exact hbase.developmentEvaluations
    · exact hbase.supervisorInterventions
  exact ⟨hwithin, hreserved.cons rfl, .of_quiet hwithin rfl (by rintro _ ⟨⟩),
    h.accounted base⟩

lemma Written.usage {checkpoint : AVOCheckpoint} (h : Written cfg w checkpoint) :
    checkpoint.usage = w.state.usage := by
  obtain ⟨_, _, _, _, _, hdocuments⟩ := h
  exact hdocuments.usage

end Invariants

/-! ## Methods that start no effect -/

/-- The invariant tolerates everything but an effect and a change of the counters. -/
structure Uncounted (cfg : SessionConfig) (I : World → Prop) : Prop where
  record : ∀ w occurrence, I w → occurrence.effect = none →
    (∀ checkpoint, occurrence = .wrote checkpoint → checkpoint.usage = w.state.usage) →
    I (w.record occurrence)
  update : ∀ w f, I w → I (w.update f)
  assign : ∀ w state, I w → SameCounters state.usage w.state.usage → I (w.assign state)

lemma InBudget.uncounted {cfg : SessionConfig} {base : ProposalUsage} :
    Uncounted cfg (InBudget cfg base) :=
  ⟨fun _ _ h => h.record, fun _ f h => h.update f, fun _ _ h => h.assign_same⟩

lemma Idle.uncounted {cfg : SessionConfig} : Uncounted cfg (Idle cfg) :=
  ⟨fun _ _ h => h.record, fun _ f h => h.update f, fun _ _ h => h.assign_same⟩

namespace Uncounted

variable {cfg : SessionConfig} {I : World → Prop} (h : Uncounted cfg I)

include h

lemma steady : Steady cfg I where
  polled w _ hw := h.record w _ hw rfl (by rintro _ ⟨⟩)
  written w _ hw hwritten := h.record w _ hw rfl (by rintro _ ⟨⟩; exact hwritten.usage)
  effects w _ hw := h.update w _ hw
  clock w _ hw := h.record w _ hw rfl (by rintro _ ⟨⟩)
  knowledge w _ hw := h.record w _ hw rfl (by rintro _ ⟨⟩)
  previous w _ hw := h.update w _ hw
  modelCost w _ hw := h.update w _ hw
  ended w _ _ hw := h.update w _ hw
  planes w _ hsame hw := h.assign w _ hw hsame

lemma freeScratch : FreeScratch I where
  scratch w _ hw := h.update w _ hw
  outside w _ _ hw := h.update _ _ (h.record w _ hw rfl (by rintro _ ⟨⟩))
  compaction w _ _ _ hw := h.record w _ hw rfl (by rintro _ ⟨⟩)

lemma updateAttributes (f : Attributes → Attributes) : Keeps I (updateAttributes f) :=
  Spec.updateAttributes fun w hw => h.update w f hw

lemma replaceState {f : AVOState → AVOState} (hf : ∀ state, (f state).usage = state.usage) :
    Keeps I (replaceState f) :=
  Spec.replaceState (fun w hw _ => h.assign w _ hw ⟨by rw [hf], by rw [hf], by rw [hf],
    by rw [hf]⟩) fun _ _ hw => hw

/-! ### Edits -/

lemma mutateScratch (mutations : List MutationInput) (before : WorkspaceSnapshot) :
    Keeps I (mutateScratch cfg mutations before) := by
  refine (h.freeScratch.applyMutations mutations).bind fun _ => ?_
  refine (keeps_exportSnapshot _).bind fun rawAfter => Keeps.ite Keeps.pure ?_
  refine (h.replaceState fun _ => by rfl).bind fun _ => ?_
  exact (h.freeScratch.sanitiseWorkspace h.steady.beginCompactionEffect).bind
    fun _ => Keeps.pure

lemma rollback (before : WorkspaceSnapshot) (previousRevision : ℕ) :
    Keeps I (rollback before previousRevision) :=
  (h.freeScratch.applySnapshot before).bind fun _ => h.replaceState fun _ => rfl

lemma rollbackAndRaise (before : WorkspaceSnapshot) (previousRevision : ℕ) (error : Err) :
    Keeps I (rollbackAndRaise cfg before previousRevision error) := by
  refine (h.rollback before previousRevision).bind fun _ => Keeps.getSession fun session => ?_
  cases session.attributes.incompleteExternalEffects.reverse.find?
      (fun effect => effect.operation = .compaction) with
  | none => exact Keeps.fail
  | some effect =>
    refine (h.steady.writeCheckpoint none).bind fun _ => ?_
    cases error <;> exact Keeps.fail

lemma refuseEdit (before : WorkspaceSnapshot) (previousRevision : ℕ) (message : String) :
    Keeps I (refuseEdit cfg before previousRevision message) :=
  (h.rollback before previousRevision).bind fun _ => h.steady.clearCompactionEffects.bind
    fun _ => Keeps.getSession fun _ => Keeps.pure

lemma acceptEdit (after : WorkspaceSnapshot) : Keeps I (acceptEdit cfg after) := by
  refine (h.updateAttributes _).bind fun _ => h.steady.clearCompactionEffects.bind fun _ => ?_
  refine (h.steady.writeCheckpoint none).bind fun _ => h.steady.checkCancellation.bind
    fun _ => Keeps.getSession fun _ => Keeps.pure

lemma settleEdit (before : WorkspaceSnapshot) (previousRevision : ℕ) :
    Keeps I (settleEdit cfg before previousRevision) :=
  (keeps_exportSnapshot _).bind fun _ =>
    Keeps.ite (h.refuseEdit _ _ _) (Keeps.ite (h.refuseEdit _ _ _) (h.acceptEdit _))

lemma editCandidate (argument : MutationArgument) : Keeps I (editCandidate cfg argument) := by
  refine Keeps.ofExcept.bind fun mutations => Keeps.getSession fun session => ?_
  refine Keeps.ite Keeps.pure ((keeps_exportSnapshot _).bind fun before => ?_)
  refine ((h.mutateScratch mutations before).tryCatch
    (h.rollbackAndRaise before _)).bind fun changed => ?_
  exact Keeps.ite (h.settleEdit _ _) Keeps.pure

/-! ### Other tools -/

lemma remember (entry : AVOMemoryEntry) : Keeps I (remember entry) :=
  Keeps.getSession fun _ => Keeps.ofExcept.bind fun _ => h.replaceState fun _ => rfl

lemma recordAttempt (attempt : RevisionAttempt) : Keeps I (recordAttempt attempt) := by
  refine Keeps.getSession fun session => (h.replaceState fun _ => by rfl).bind fun _ => ?_
  exact Keeps.ofExcept.bind fun _ => h.remember _

lemma restoreCandidate (attemptId : Option String) (revision : Option ℤ) :
    Keeps I (restoreCandidate cfg attemptId revision) := by
  refine h.steady.checkCancellation.bind fun _ => Keeps.getSession fun session => ?_
  refine Keeps.ite Keeps.pure ?_
  cases findAttempt session.state attemptId revision with
  | none => exact Keeps.pure
  | some attempt =>
    refine (h.freeScratch.applySnapshot _).bind fun _ => ?_
    refine (h.replaceState fun _ => by rfl).bind fun _ => (h.updateAttributes _).bind fun _ => ?_
    refine (h.steady.writeCheckpoint none).bind fun _ => h.steady.checkCancellation.bind
      fun _ => (keeps_exportSnapshot _).bind fun _ => Keeps.pure

lemma submitCandidate (reasoning : Option String) : Keeps I (submitCandidate cfg reasoning) := by
  refine h.steady.checkCancellation.bind fun _ => Keeps.getSession fun session => ?_
  cases reasoning.filter fun text => ¬ Text.Blank text with
  | none => exact Keeps.pure
  | some reasoning =>
    refine (keeps_exportSnapshot _).bind fun _ => Keeps.ofExcept.bind fun valid => ?_
    exact Keeps.ite ((h.steady.terminate _ _).bind fun _ => Keeps.pure) Keeps.pure

lemma abstain (reasoning : Option String) : Keeps I (abstain reasoning) := by
  rw [Session.abstain]
  cases reasoning.filter fun text => ¬ Text.Blank text with
  | none => exact Keeps.pure
  | some reasoning => exact (h.steady.terminate _ _).bind fun _ => Keeps.pure

lemma requestAdvice : Keeps I (requestAdvice cfg) := by
  refine Keeps.getSession fun session => Keeps.ite ?_ Keeps.pure
  exact (h.replaceState fun _ => by rfl).bind fun _ =>
    (h.steady.writeCheckpoint none).bind fun _ => Keeps.pure

lemma runBare (tool : AVOTool) : Keeps I (runBare cfg tool) := by
  cases tool with
  | inspectParentResults => exact Keeps.pure
  | inspectCurrentCandidate => exact (keeps_exportSnapshot _).bind fun _ => Keeps.pure
  | inspectInspirations | inspectPreviousCycles | inspectRejectedCandidates => exact Keeps.pure
  | readProgramGuidance => exact h.steady.readProgramGuidance.bind fun _ => Keeps.pure
  | submitCandidate => exact (h.submitCandidate _).bind fun _ => Keeps.pure
  | restoreCandidate => exact (h.restoreCandidate _ _).bind fun _ => Keeps.pure
  | requestAdvice => exact h.requestAdvice.bind fun _ => Keeps.pure
  | editCandidate | testCandidate | abstain => exact Keeps.fail

/-! ### Outcomes -/

lemma terminalResult : Keeps I (terminalResult cfg) := by
  refine Keeps.bind (Keeps.getSession fun session =>
    Keeps.ite Keeps.pure h.steady.checkCancellation) fun _ => ?_
  refine h.steady.refreshElapsed.bind fun _ => Keeps.getSession fun session => ?_
  refine (h.replaceState fun _ => by rfl).bind fun _ => (keeps_proposalOf _).bind fun result => ?_
  exact (h.steady.writeCheckpoint _).bind fun _ => Keeps.pure

lemma exhausted (limit : String) : Keeps I (exhausted cfg limit) :=
  (h.steady.terminate _ _).bind fun _ => h.terminalResult

lemma finishCancellation (reason : AVOCancellationReason) :
    Keeps I (finishCancellation cfg reason) := by
  refine (h.replaceState fun _ => by rfl).bind fun _ => (h.updateAttributes _).bind fun _ => ?_
  exact (h.steady.terminate _ _).bind fun _ => h.terminalResult.bind fun _ => Keeps.fail

lemma orExhausted {body : Method Unit} (hbody : Keeps I body) :
    Keeps I (orExhausted cfg body) := by
  refine hbody.result.bind fun r => ?_
  cases r with
  | ok _ => exact Keeps.pure
  | error e =>
    cases e
    case toolBudgetExceeded limit => exact (h.exhausted limit).bind fun _ => Keeps.pure
    all_goals exact Keeps.fail

lemma recordResponse (response : Option AVOResponse) : Keeps I (recordResponse response) := by
  cases response with
  | none => exact Keeps.fail
  | some response =>
    exact (h.steady.recordModelCost _).bind fun _ =>
      (h.steady.recordModelTokens _ _).bind fun _ => Keeps.pure

lemma materialiseScratch : Keeps I (materialiseScratch cfg) :=
  Keeps.ofExcept.bind fun _ => Keeps.ofExcept.bind fun _ =>
    (h.freeScratch.writePrompt _).bind fun _ => h.freeScratch.applySnapshot _

end Uncounted

end AecBench.Evolution.Session
