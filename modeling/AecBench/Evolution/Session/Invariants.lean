import AecBench.Evolution.Session.Rules

/-!
# Invariants that the bookkeeping of a session keeps

Most methods of a session poll the cancellation signal, read the clock, count usage planes, keep
markers of effects and write checkpoints. An invariant that tolerates these steps is kept by all
of them, and one that also tolerates changes of the scratch workspace is kept by the workspace
methods.

## Main definitions

* `Written` — a checkpoint is the document of a world.
* `Marking`, `Steady` — the invariants that tolerate the marking of an external effect, and the
  whole bookkeeping of a session.
* `FreeScratch` — the invariants that tolerate changes of the scratch workspace.

## Main results

* `Marking.writeCheckpoint`, `Marking.beginExternalEffect`, `Steady.refreshElapsed` and their
  siblings — what such an invariant is kept by.
* `FreeScratch.applySnapshot`, `FreeScratch.applyMutations`, `FreeScratch.sanitiseWorkspace`.
-/

namespace AecBench.Evolution.Session

open Validation

variable {α : Type} {cfg : SessionConfig} {I : World → Prop}

/-- The checkpoint is the document of the world. -/
def Written (cfg : SessionConfig) (w : World) (checkpoint : AVOCheckpoint) : Prop :=
  ∃ identity snapshot terminal, cfg.configurationIdentity = some identity ∧
    w.attributes.scratch.exportSnapshot cfg.childCandidateId = .ok snapshot ∧
    AVOCheckpoint.Documents (cfg.context identity) w.state w.attributes.parentEvidence snapshot
      w.attributes.incompleteExternalEffects terminal checkpoint

/-- Two usages with equal counters. -/
structure SameCounters (u v : ProposalUsage) : Prop where
  modelRequests : u.modelRequests = v.modelRequests
  toolCalls : u.toolCalls = v.toolCalls
  developmentEvaluations : u.developmentEvaluations = v.developmentEvaluations
  supervisorInterventions : u.supervisorInterventions = v.supervisorInterventions

/-- The invariant tolerates what marks an external effect: a look at the cancellation signal, the
list of markers and a checkpoint. -/
structure Marking (cfg : SessionConfig) (I : World → Prop) : Prop where
  polled : ∀ w reason, I w → I (w.record (.polled reason))
  written : ∀ w checkpoint, I w → Written cfg w checkpoint → I (w.record (.wrote checkpoint))
  effects : ∀ w (f : List AVOIncompleteExternalEffect → List AVOIncompleteExternalEffect), I w →
    I (w.update fun a => { a with incompleteExternalEffects := f a.incompleteExternalEffects })

/-- The invariant tolerates the bookkeeping of a session. -/
structure Steady (cfg : SessionConfig) (I : World → Prop) : Prop extends Marking cfg I where
  clock : ∀ w now, I w → I (w.record (.clock now))
  knowledge : ∀ w answer, I w → I (w.record (.knowledge answer))
  previous : ∀ w previous, I w → I (w.update fun a => { a with previousTool := previous })
  modelCost : ∀ w cost, I w → I (w.update fun a => { a with modelCost := cost })
  ended : ∀ w status message, I w →
    I (w.update fun a => { a with terminalStatus := some status, terminalMessage := message })
  planes : ∀ w usage, SameCounters usage w.state.usage → I w →
    I (w.assign { w.state with usage := usage })

/-- The invariant tolerates every change of the scratch workspace. -/
structure FreeScratch (I : World → Prop) : Prop where
  scratch : ∀ w (f : Workspace → Workspace), I w →
    I (w.update fun a => { a with scratch := f a.scratch })
  outside : ∀ w access scratch, I w →
    I ((w.record (.outside access)).update fun a => { a with scratch })
  compaction : ∀ w mode body answer, I w → I (w.record (.compaction mode body answer))

/-! ## Reading -/

lemma keeps_getScratch : Keeps I getScratch := Keeps.getSession fun _ => Keeps.pure

lemma keeps_listSkills : Keeps I listSkills := keeps_getScratch.bind fun _ => Keeps.ofExcept

lemma keeps_readPrompt : Keeps I readPrompt := keeps_getScratch.bind fun _ => Keeps.pure

lemma keeps_exportSnapshot (candidateId : String) : Keeps I (exportSnapshot candidateId) :=
  keeps_getScratch.bind fun _ => Keeps.ofExcept

lemma Spec.asExternalEffect {P : World → Prop} {Q : α → World → Prop}
    {effect : AVOIncompleteExternalEffect} {body : Method α} (h : Spec P body Q fun _ => I) :
    Spec P (asExternalEffect effect body) Q fun _ => I := by
  rw [Session.asExternalEffect]
  exact Spec.tryCatch h fun _ => Spec.fail fun _ hw => hw

lemma keeps_proposalOf (status : ProposalStatus) : Keeps I (proposalOf cfg status) := by
  refine Keeps.getSession fun session => Keeps.ite ?_ Keeps.ofExcept
  refine (keeps_exportSnapshot _).bind fun snapshot => ?_
  cases session.state.attempts.find?
      (fun attempt => attempt.revision = session.state.currentRevision) with
  | none => exact Keeps.fail
  | some attempt => exact Keeps.ofExcept

lemma Spec.exportSnapshot {P : World → Prop} {candidateId : String}
    {Q : WorkspaceSnapshot → World → Prop} {E : Err → World → Prop}
    (h : ∀ w snapshot, P w → w.attributes.scratch.exportSnapshot candidateId = .ok snapshot →
      Q snapshot w)
    (herror : ∀ message w, P w → E (.invalid message) w) :
    Spec P (exportSnapshot candidateId) Q E := by
  refine Spec.bind (Q := fun ws w => ws = w.attributes.scratch ∧ P w)
    (Spec.getSession fun session => Spec.pure fun w hw => ⟨?_, hw.2⟩) fun ws => ?_
  · rw [World.attributes, hw.1]
  · refine Spec.ofExcept (fun snapshot w hsnapshot hw => ?_) fun message w hw =>
      herror message w hw.2
    obtain ⟨rfl, hw⟩ := hw
    exact h w snapshot hw hsnapshot

/-! ## Marking effects -/

namespace Marking

variable (h : Marking cfg I)

include h

lemma checkCancellation : Keeps I checkCancellation := by
  refine Keeps.bind (Spec.perform fun w reply hw => ⟨_, rfl, h.polled w reply.cancelled hw⟩)
    fun reason => ?_
  cases reason with
  | none => exact Keeps.pure
  | some reason => exact Keeps.fail

lemma writeCheckpoint (terminalResult : Option CandidateProposal) :
    Keeps I (writeCheckpoint cfg terminalResult) := by
  rw [Session.writeCheckpoint]
  cases hidentity : cfg.configurationIdentity with
  | none => exact Keeps.pure
  | some identity =>
    refine Spec.getSession fun session => ?_
    refine Spec.bind (Q := fun _ w => w.session = session ∧ I w)
      (Spec.ofExcept (fun _ _ _ hw => hw) fun _ _ hw => hw.2) fun terminal => ?_
    refine Spec.bind (Q := fun snapshot w =>
        w.attributes.scratch.exportSnapshot cfg.childCandidateId = .ok snapshot ∧
          w.session = session ∧ I w)
      (Spec.exportSnapshot (fun w snapshot hw hsnapshot => ⟨hsnapshot, hw⟩) fun _ _ hw => hw.2)
      fun snapshot => ?_
    refine Spec.bind (Q := fun checkpoint w => Written cfg w checkpoint ∧ I w)
      (Spec.ofExcept (fun checkpoint w hcheckpoint hw => ?_) fun _ _ hw => hw.2.2)
      fun checkpoint => Spec.perform fun w reply hw => ⟨(), rfl, h.written w _ hw.2 hw.1⟩
    obtain ⟨hsnapshot, rfl, hw⟩ := hw
    exact ⟨⟨identity, snapshot, terminal, hidentity, hsnapshot,
      AVOCheckpoint.fromState_eq_ok hcheckpoint⟩, hw⟩

lemma beginExternalEffect (operation : AVOExternalEffectOperation) (suffix : String) :
    Keeps I (beginExternalEffect cfg operation suffix) := by
  refine Keeps.getSession fun session => Keeps.ofExcept.bind fun _ => ?_
  refine Keeps.bind (Spec.updateAttributes fun w hw => ?_) fun _ =>
    (h.writeCheckpoint none).bind fun _ => Keeps.pure
  exact h.effects w (· ++ [incompleteEffect session.state.variationId operation suffix]) hw

lemma dropEffect (effectId : String) : Keeps I (dropEffect effectId) :=
  Spec.updateAttributes fun w hw =>
    h.effects w (fun effects => effects.filter (·.effectId ≠ effectId)) hw

lemma clearExternalEffect (effectId : String) : Keeps I (clearExternalEffect cfg effectId) :=
  (h.dropEffect effectId).bind fun _ => h.writeCheckpoint none

lemma beginCompactionEffect (skillName : String) :
    Keeps I (beginCompactionEffect cfg skillName) :=
  h.checkCancellation.bind fun _ =>
    (h.beginExternalEffect _ _).bind fun _ => Keeps.pure

lemma clearCompactionEffects : Keeps I (clearCompactionEffects cfg) :=
  Keeps.getSession fun _ => Keeps.forEach fun effect => h.clearExternalEffect effect.effectId

lemma withState (K : AVOState → Prop) : Marking cfg fun w => I w ∧ K w.state where
  polled w reason hw := ⟨h.polled w reason hw.1, hw.2⟩
  written w checkpoint hw hwritten := ⟨h.written w checkpoint hw.1 hwritten, hw.2⟩
  effects w f hw := ⟨h.effects w f hw.1, hw.2⟩

end Marking

/-! ## Bookkeeping -/

namespace Steady

variable (h : Steady cfg I)

include h

lemma setUsage {f : ProposalUsage → ProposalUsage} (hf : ∀ u, SameCounters (f u) u) :
    Keeps I (setUsage f) :=
  Spec.replaceState (fun w hw _ => h.planes w _ (hf w.state.usage) hw) fun _ _ hw => hw

lemma refreshElapsed : Keeps I refreshElapsed := by
  refine Keeps.bind (Spec.perform fun w reply hw => ⟨_, rfl, h.clock w reply.now hw⟩)
    fun now => Keeps.getSession fun session => ?_
  exact h.setUsage fun _ => ⟨rfl, rfl, rfl, rfl⟩

lemma recordModelCost (cost : Option ℚ≥0) : Keeps I (recordModelCost cost) := by
  cases cost with
  | none =>
    refine Keeps.bind (Spec.updateAttributes fun w hw => h.modelCost w none hw) fun _ => ?_
    exact h.setUsage fun _ => ⟨rfl, rfl, rfl, rfl⟩
  | some cost =>
    refine Keeps.getSession fun session => ?_
    cases session.attributes.modelCost with
    | none => exact Keeps.pure
    | some total =>
      refine Keeps.bind (Spec.updateAttributes fun w hw => h.modelCost w _ hw) fun _ => ?_
      exact h.setUsage fun _ => ⟨rfl, rfl, rfl, rfl⟩

lemma recordModelTokens (inputTokens outputTokens : Option ℕ) :
    Keeps I (recordModelTokens inputTokens outputTokens) :=
  h.setUsage fun _ => ⟨rfl, rfl, rfl, rfl⟩

lemma showPrevious (previous : Option (Except Err ToolResult)) :
    Keeps I (showPrevious previous) :=
  Spec.updateAttributes fun w hw => h.previous w previous hw

lemma terminate (status : ProposalStatus) (message : String) :
    Keeps I (terminate status message) :=
  Spec.updateAttributes fun w hw => h.ended w status message hw

lemma readProgramGuidance : Keeps I (readProgramGuidance cfg) := by
  rw [Session.readProgramGuidance]
  cases cfg.knowledgeSource with
  | unavailable | text guidance => exact Keeps.pure
  | callable =>
    exact Spec.performRaising (fun w reply _ hw _ => h.knowledge w reply.guidance hw)
      fun w reply _ hw _ => h.knowledge w reply.guidance hw

end Steady

/-! ## The workspace -/

namespace FreeScratch

variable (h : FreeScratch I)

include h

lemma updateScratch (f : Workspace → Workspace) : Keeps I (updateScratch f) :=
  Spec.updateAttributes fun w hw => h.scratch w f hw

lemma writePrompt (content : String) : Keeps I (writePrompt content) := h.updateScratch _

lemma accessOutside (access : OutsideAccess) : Keeps I (accessOutside access) :=
  Spec.performRaising (fun w reply _ hw _ => h.outside w access reply.outside.2 hw)
    fun w reply _ hw _ => h.outside w access reply.outside.2 hw

lemma readSkill (name : String) : Keeps I (readSkill name) := by
  refine Keeps.ite (keeps_getScratch.bind fun ws => ?_) (h.accessOutside _)
  cases ws.skills.find? (·.directory = name) with
  | none => exact Keeps.pure
  | some file => exact Keeps.ofExcept.bind fun _ => Keeps.pure

lemma writeSkill (skill : SkillEntry) : Keeps I (writeSkill skill) :=
  Keeps.ite (h.updateScratch _) ((h.accessOutside _).bind fun _ => Keeps.pure)

lemma deleteSkill (name : String) : Keeps I (deleteSkill name) :=
  Keeps.ite (h.updateScratch _) ((h.accessOutside _).bind fun _ => Keeps.pure)

lemma applySnapshot (snapshot : WorkspaceSnapshot) : Keeps I (applySnapshot snapshot) := by
  refine keeps_listSkills.bind fun skills => ?_
  refine (Keeps.forEach fun skill : SkillEntry => h.deleteSkill skill.name).bind fun _ => ?_
  exact (h.writePrompt _).bind fun _ => Keeps.forEach fun skill => h.writeSkill skill

lemma constructSkill (name : String) (description discipline body : Option String) :
    Keeps I (constructSkill name description discipline body) :=
  Keeps.ofExcept.bind fun skill => h.writeSkill skill

lemma applyMutations (actions : List MutationInput) : Keeps I (applyMutations actions) := by
  refine Keeps.forEach fun action => ?_
  rw [Session.applyMutation]
  cases action.actionType with
  | writeSkill | modifySkill => exact (h.readSkill _).bind fun _ => h.constructSkill _ _ _ _
  | deleteSkill => exact (h.readSkill _).bind fun _ => Keeps.ite Keeps.pure (h.deleteSkill _)
  | modifyPrompt => exact h.writePrompt _

lemma limitSkill {before : String → Method Unit} (hbefore : ∀ name, Keeps I (before name))
    (skill : SkillEntry) : Keeps I (limitSkill cfg before skill) := by
  refine Keeps.ite (Keeps.ite ?_ (h.writeSkill _)) Keeps.pure
  refine (hbefore skill.name).bind fun _ => Keeps.bind ?_ fun body => h.writeSkill _
  refine Keeps.bind (Spec.perform fun w reply hw =>
    ⟨_, rfl, h.compaction w _ _ reply.compacted hw⟩) fun answer => ?_
  cases answer with
  | ok compacted => exact Keeps.pure
  | error message => exact Keeps.fail

lemma deduplicate (seen : List (List String)) (skills : List SkillEntry) :
    Keeps I (deduplicate cfg seen skills) := by
  induction skills generalizing seen with
  | nil => exact Keeps.pure
  | cons skill rest ih => exact Keeps.ite ((h.deleteSkill _).bind fun _ => ih _) (ih _)

lemma sanitiseWorkspace {before : String → Method Unit}
    (hbefore : ∀ name, Keeps I (before name)) : Keeps I (sanitiseWorkspace cfg before) := by
  refine Keeps.bind (keeps_listSkills.bind fun skills =>
    Keeps.forEach fun skill => Keeps.ite (h.deleteSkill _) Keeps.pure) fun _ => ?_
  refine keeps_listSkills.bind fun skills => ?_
  refine (Keeps.forEach fun skill => h.limitSkill hbefore skill).bind fun _ => ?_
  refine keeps_listSkills.bind fun skills => (h.deduplicate _ _).bind fun _ => ?_
  refine Keeps.bind (keeps_getScratch.bind fun ws => keeps_listSkills.bind fun skills =>
    Keeps.forEach fun skill => h.deleteSkill _) fun _ => ?_
  exact keeps_readPrompt.bind fun prompt => Keeps.ite (h.writePrompt _) Keeps.pure

end FreeScratch

end AecBench.Evolution.Session
