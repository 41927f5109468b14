import Mathlib.Data.List.Dedup
import AecBench.Contracts.RunBundle
import AecBench.Harness.Compilation.Program

/-!
# Compilation and run plans

What the compiler accepts is a valid compiled program: its order lists every node once, after what
it depends on, and no assertion of the compiler fails. A run plan makes the checks of the compiler
again, and three more on recursion: the depth and the calls of a node against the policy of the
harness, and its operation against the bindings that may recurse. The compiler makes none of these
three.

## Main definitions

* `Rejects` — a step that fails with a diagnostic only.
* `WithinRecursionPolicy` — what a run plan checks of recursion and the compiler does not.

## Main results

* `compile_agrees` — a compiled program is accepted by a run plan exactly when its recursion is
  within the policy of the harness.
* `Deep.not_accepted` — a program that compiles and is refused by a run plan.
-/

namespace AecBench.Compilation

open AecBench.Contracts
open Text (NonEmptyStr)
open Validation

/-! ## Steps that fail with a diagnostic -/

/-- The step fails with a diagnostic only. -/
def Rejects {α : Type} (x : Except CompileFailure α) : Prop :=
  ∀ failure, x = .error failure → ∃ diagnostic, failure = .rejected diagnostic

section Rejects

variable {α β : Type}

lemma Rejects.ok (a : α) : Rejects (.ok a) := by
  intro failure h
  cases h

lemma rejects_fail (owner : CompilationOwner) (code message : String) (ids : List NonEmptyStr) :
    Rejects (fail owner code message ids : Except CompileFailure α) := by
  rintro failure ⟨⟩
  exact ⟨_, rfl⟩

lemma rejects_check (p : Prop) [Decidable p] (owner : CompilationOwner) (code message : String)
    (ids : List NonEmptyStr) : Rejects (check p owner code message ids) := by
  rw [check]
  split_ifs
  · exact Rejects.ok ()
  · exact rejects_fail owner code message ids

lemma Rejects.bind {x : Except CompileFailure α} {f : α → Except CompileFailure β}
    (hx : Rejects x) (hf : ∀ a, x = .ok a → Rejects (f a)) : Rejects (x >>= f) := by
  intro failure h
  cases hstep : x with
  | error e =>
    rw [hstep] at h
    obtain rfl : e = failure := Except.error.inj h
    exact hx e hstep
  | ok a =>
    rw [hstep] at h
    exact hf a hstep failure h

lemma Rejects.seq {x : Except CompileFailure Unit} {f : Unit → Except CompileFailure β}
    (hx : Rejects x) (hf : x = .ok () → Rejects (f ())) : Rejects (x >>= f) :=
  hx.bind fun _ h => hf h

lemma rejects_mapM {f : α → Except CompileFailure β} {xs : List α} (h : ∀ x ∈ xs, Rejects (f x)) :
    Rejects (xs.mapM f) := by
  induction xs with
  | nil => exact Rejects.ok []
  | cons x xs ih =>
    rw [List.mapM_cons]
    refine (h x List.mem_cons_self).bind fun b _ => ?_
    exact (ih fun y hy => h y (List.mem_cons_of_mem _ hy)).bind fun bs _ => Rejects.ok _

lemma rejects_forM {f : α → Except CompileFailure PUnit} {xs : List α}
    (h : ∀ x ∈ xs, Rejects (f x)) : Rejects (xs.forM f) := by
  induction xs with
  | nil => exact Rejects.ok _
  | cons x xs ih =>
    exact (h x List.mem_cons_self).bind fun _ _ => ih fun y hy => h y (List.mem_cons_of_mem _ hy)

lemma check_eq_ok {p : Prop} [Decidable p] {owner : CompilationOwner} {code message : String}
    {ids : List NonEmptyStr} {u : Unit} : check p owner code message ids = .ok u ↔ p := by
  by_cases h : p <;> simp [check, fail, h]

end Rejects

/-! ## Sorted sets -/

lemma sorted_perm (ids : List NonEmptyStr) : (sorted ids).Perm ids := List.perm_insertionSort _ ids

lemma mem_sortedSet {ids : List NonEmptyStr} {id : NonEmptyStr} : id ∈ sortedSet ids ↔ id ∈ ids := by
  rw [sortedSet, (sorted_perm _).mem_iff, List.mem_dedup]

lemma nodup_sortedSet (ids : List NonEmptyStr) : (sortedSet ids).Nodup :=
  (sorted_perm _).nodup_iff.mpr (List.nodup_dedup ids)

/-! ## The order of the nodes -/

section Order

variable {program : ExecutionProgram}

lemma graph_parts (program : ExecutionProgram) :
    (program.nodes.map ProgramNode.nodeId).Nodup ∧
      (∀ node ∈ program.nodes, ∀ dependency ∈ node.dependsOn,
        dependency ∈ program.nodes.map ProgramNode.nodeId) ∧
      validateAcyclic program.nodes.length (dependencies program) = .ok () := by
  have h := program.valid
  simp only [validateProgramGraph, bind_eq_ok, require_eq_ok, Unique.exists_iff] at h
  obtain ⟨-, hnodup, us, hus, hacyclic, -⟩ := h
  refine ⟨hnodup, fun node hnode => ?_, hacyclic⟩
  obtain ⟨u, hu⟩ := exists_of_mapM_eq_ok hus node hnode
  simp only [validateNodeRelationships, validateDeclaredDependencies, bind_eq_ok,
    require_eq_ok] at hu
  exact hu.choose_spec.1

lemma ends_of_acyclic {rounds : ℕ} {remaining : List (NonEmptyStr × List NonEmptyStr)}
    (h : validateAcyclic rounds remaining = .ok ()) : Rounds.Ends rounds remaining := by
  induction rounds generalizing remaining with
  | zero => trivial
  | succ rounds ih =>
    rw [validateAcyclic] at h
    by_cases hempty : remaining.isEmpty
    · exact .inl (List.isEmpty_iff.mp hempty)
    · rw [if_neg hempty] at h
      obtain ⟨hready, hrest⟩ := ite_error_eq_ok.mp h
      exact .inr ⟨fun hnil => hready (List.isEmpty_iff.mpr hnil), ih hrest⟩

lemma dependencies_ids : (dependencies program).map Prod.fst =
    program.nodes.map ProgramNode.nodeId := by
  rw [dependencies, List.map_map]
  rfl

/-- **The compiler orders every program**: no round is without a ready node. -/
theorem topologicalOrder_eq_ok (program : ExecutionProgram) :
    ∃ order, topologicalOrder program = .ok order ∧
      order.Perm (program.nodes.map ProgramNode.nodeId) ∧
      ∀ node ∈ program.nodes, ∀ dependency ∈ node.dependsOn,
        order.idxOf dependency < order.idxOf node.nodeId := by
  obtain ⟨hnodup, hknown, hacyclic⟩ := graph_parts program
  have hlength : (dependencies program).length ≤ program.nodes.length := by simp [dependencies]
  obtain ⟨order, horder⟩ := Option.isSome_iff_exists.mp
    (Rounds.order_isSome sorted (ends_of_acyclic hacyclic) hlength)
  refine ⟨order, by rw [topologicalOrder, horder], ?_, ?_⟩
  · rw [← dependencies_ids]
    exact Rounds.order_perm sorted_perm horder
  · intro node hnode dependency hdependency
    refine Rounds.order_idxOf_lt sorted_perm horder (by rw [dependencies_ids]; exact hnodup)
      (List.mem_map_of_mem hnode) hdependency ?_
    rw [dependencies_ids]
    exact hknown node hnode dependency hdependency

end Order

/-! ## What compilation accepts -/

section Compile

variable {program : ExecutionProgram} {harness : CompiledHarnessInstance}
  {registry : KernelRuntimeRegistry} {scope : ProgramOperationScope}
  {profile : ProgramCompilationProfile}

variable {operationId : NonEmptyStr}

lemma resolveOperationRef_eq_ok {reference : ProgramOperationRef}
    (h : resolveOperationRef program harness registry scope operationId = .ok reference) :
    reference.operationId = operationId ∧
      (harness.programSurface.operation operationId).isSome := by
  rw [resolveOperationRef] at h
  split at h
  · cases h
  · next operation hoperation =>
    rw [unit_bind_eq_ok, bind_eq_ok] at h
    obtain ⟨-, runtime, -, h⟩ := h
    rw [unit_bind_eq_ok] at h
    obtain rfl := pure_eq_ok.mp h.2
    exact ⟨ProgramSurface.operation_id hoperation, by simp [hoperation]⟩

variable {refs : List ProgramOperationRef}

variable (h : resolveOperationRefs program harness registry scope = .ok refs)
include h

lemma resolveOperationRefs_ids :
    refs.map ProgramOperationRef.operationId = operationIds program := by
  rw [resolveOperationRefs, mapM_eq_ok] at h
  generalize operationIds program = ids at h
  induction h with
  | nil => rfl
  | cons hstep _ ih => rw [List.map_cons, ih, (resolveOperationRef_eq_ok hstep).1]

lemma operation_isSome {node : ProgramNode} (hnode : node ∈ program.nodes)
    (hid : node.body.operationId? = some operationId) :
    (harness.programSurface.operation operationId).isSome := by
  have hmem : operationId ∈ operationIds program :=
    mem_sortedSet.mpr (List.mem_filterMap.mpr ⟨node, hnode, hid⟩)
  obtain ⟨reference, hreference⟩ := exists_of_mapM_eq_ok h operationId hmem
  exact (resolveOperationRef_eq_ok hreference).2

lemma validateOperationRefs_eq_ok : validateOperationRefs program.nodes refs = .ok () := by
  rw [validateOperationRefs, require_eq_ok, resolveOperationRefs_ids h]
  exact ⟨nodup_sortedSet _, fun id hid => mem_sortedSet.mp hid, fun id hid => mem_sortedSet.mpr hid⟩

omit h

variable {order : List NonEmptyStr}

lemma validateTopologicalOrder_eq_ok (hperm : order.Perm (program.nodes.map ProgramNode.nodeId))
    (hplaced : ∀ node ∈ program.nodes, ∀ dependency ∈ node.dependsOn,
      order.idxOf dependency < order.idxOf node.nodeId) :
    validateTopologicalOrder program.nodes order = .ok () := by
  rw [validateTopologicalOrder, require_bind_eq_ok, bind_eq_ok]
  refine ⟨⟨hperm.nodup_iff.mpr (graph_parts program).1, fun id hid => hperm.mem_iff.mp hid,
    fun node hnode => hperm.mem_iff.mpr (List.mem_map_of_mem hnode)⟩, ?_⟩
  obtain ⟨us, hus⟩ := exists_mapM_require_eq_ok.mpr (show ∀ node ∈ program.nodes,
      misplaced order node = [] from fun node hnode => by
    rw [misplaced, List.filter_eq_nil_iff]
    intro dependency hdependency
    have hlt := hplaced node hnode dependency hdependency
    simpa using hlt.le)
  exact ⟨us, hus, rfl⟩

/-- **The record of a compiled program is always valid.** -/
lemma constructCompiled_eq_ok
    (h : validateCompiledProgram program.nodes program.limits order refs = .ok ()) :
    constructCompiled program harness order refs = .ok
      { harnessRef := harness.ref
        sourceProgramRef := program.ref
        surfaceId := harness.programSurface.surfaceId
        program :=
          { programId := program.programId
            version := program.version
            nodes := program.nodes
            limits := program.limits
            topologicalOrder := order
            operationRefs := refs
            valid := h } } := by
  rw [constructCompiled]
  split
  · next message herror =>
    rw [h] at herror
    cases herror
  · rfl

/-! ## Only diagnostics -/

lemma rejects_checkArguments (p : Prop) [Decidable p] (message : String) (node : ProgramNode) :
    Rejects (checkArguments p message node) := rejects_check _ _ _ _ _

lemma rejects_legacyOperationArguments (node : ProgramNode) (operation : ProgramOperationSpec)
    (profile : ProgramCompilationProfile) :
    Rejects (validateLegacyOperationArguments node operation profile) := by
  rw [validateLegacyOperationArguments]
  split_ifs
  · exact rejects_checkArguments _ _ _
  · exact rejects_checkArguments _ _ _
  · rw [validateLegacySingleOutputAction]
    split_ifs
    · exact Rejects.ok ()
    · exact rejects_checkArguments _ _ _
    · exact rejects_checkArguments _ _ _
  · exact rejects_checkArguments _ _ _
  · exact rejects_checkArguments _ _ _
  · exact rejects_checkArguments _ _ _
  · exact Rejects.ok ()

lemma rejects_definitionArguments (node : ProgramNode) (definition : KernelOperationDefinition)
    (operation : ProgramOperationSpec) (profile : ProgramCompilationProfile) :
    Rejects (validateDefinitionArguments node definition operation profile) := by
  rw [validateDefinitionArguments]
  split
  · exact rejects_checkArguments _ _ _
  · split_ifs
    · exact Rejects.ok ()
    · exact rejects_checkArguments _ _ _
    · exact rejects_checkArguments _ _ _

lemma rejects_operationArguments (node : ProgramNode) (operation : ProgramOperationSpec)
    (profile : ProgramCompilationProfile) (registry : KernelRuntimeRegistry) :
    Rejects (validateOperationArguments node operation profile registry) := by
  rw [validateOperationArguments]
  split
  · split_ifs
    · exact rejects_legacyOperationArguments _ _ _
    · exact rejects_fail _ _ _ _
  · split_ifs
    · exact rejects_definitionArguments _ _ _ _
    · exact rejects_fail _ _ _ _

lemma rejects_profile (program : ExecutionProgram) (scope : ProgramOperationScope)
    (profile : ProgramCompilationProfile) : Rejects (validateProfile program scope profile) := by
  cases profile with
  | standard => exact Rejects.ok ()
  | monolithicIncumbent =>
    exact (rejects_check _ _ _ _ _).seq fun _ => rejects_check _ _ _ _ _

lemma rejects_resolveOperationRef (program : ExecutionProgram) (harness : CompiledHarnessInstance)
    (registry : KernelRuntimeRegistry) (scope : ProgramOperationScope)
    (operationId : NonEmptyStr) :
    Rejects (resolveOperationRef program harness registry scope operationId) := by
  rw [resolveOperationRef]
  split
  · exact rejects_fail _ _ _ _
  · refine (rejects_check _ _ _ _ _).seq fun _ => Rejects.bind ?_ fun runtime _ => ?_
    · rw [resolveOperationRuntime]
      split
      · exact rejects_fail _ _ _ _
      · split
        · exact Rejects.ok _
        · exact rejects_fail _ _ _ _
    · refine Rejects.seq ?_ fun _ => Rejects.ok _
      exact (rejects_check _ _ _ _ _).seq fun _ => rejects_check _ _ _ _ _

lemma rejects_operationNodes (h : resolveOperationRefs program harness registry scope = .ok refs) :
    Rejects (validateOperationNodes program harness registry profile) := by
  refine rejects_forM fun node hnode => ?_
  rw [validateOperationNode]
  split
  · exact Rejects.ok ()
  · next operationId hid =>
    have hsome := operation_isSome h hnode hid
    split
    · next hnone => simp [hnone] at hsome
    · refine Rejects.seq ?_ fun _ => Rejects.seq ?_ fun _ => rejects_operationArguments _ _ _ _
      · rw [validateNodeRetry]
        split
        · exact Rejects.ok ()
        · exact (rejects_check _ _ _ _ _).seq fun _ => rejects_check _ _ _ _ _
      · rw [validateNodeRecursion]
        split
        · exact Rejects.ok ()
        · exact rejects_check _ _ _ _ _

lemma compiled_parts (h : resolveOperationRefs program harness registry scope = .ok refs)
    (horder : topologicalOrder program = .ok order) :
    validateCompiledProgram program.nodes program.limits order refs = .ok () := by
  obtain ⟨order', horder', hperm, hplaced⟩ := topologicalOrder_eq_ok program
  obtain rfl : order' = order := Except.ok.inj (horder'.symm.trans horder)
  rw [validateCompiledProgram, unit_bind_eq_ok, unit_bind_eq_ok]
  exact ⟨program.valid, validateTopologicalOrder_eq_ok hperm hplaced,
    validateOperationRefs_eq_ok h⟩

/-- **The compiler fails with a diagnostic only**: no assertion of it fails, and its result is
valid. -/
lemma rejects_compile (program : ExecutionProgram) (harness : CompiledHarnessInstance)
    (registry : KernelRuntimeRegistry) (scope : ProgramOperationScope)
    (profile : ProgramCompilationProfile) :
    Rejects (compileExecutionProgram program harness registry scope profile) := by
  refine (rejects_profile program scope profile).seq fun _ => ?_
  refine Rejects.seq ((rejects_check _ _ _ _ _).seq fun _ => rejects_check _ _ _ _ _) fun _ => ?_
  refine Rejects.seq ((rejects_check _ _ _ _ _).seq fun _ => rejects_check _ _ _ _ _) fun _ => ?_
  refine Rejects.seq (rejects_check _ _ _ _ _) fun _ => ?_
  refine Rejects.bind (rejects_mapM fun id _ => rejects_resolveOperationRef _ _ _ _ id)
    fun refs hrefs => ?_
  refine (rejects_operationNodes hrefs).seq fun _ => ?_
  obtain ⟨order, horder, -⟩ := topologicalOrder_eq_ok program
  rw [horder, ok_bind, constructCompiled_eq_ok (compiled_parts hrefs horder)]
  exact Rejects.ok _

/-- What the compiler has checked of a program that it accepts. -/
structure Accepted (program : ExecutionProgram) (harness : CompiledHarnessInstance)
    (compiled : CompiledProgram) : Prop where
  harnessRef : compiled.harnessRef = harness.ref
  surfaceId : compiled.surfaceId = harness.programSurface.surfaceId
  nodes : compiled.program.nodes = program.nodes
  limits : compiled.program.limits = program.limits
  parallelism : program.limits.maxParallelism ≤ harness.budget.maxParallelism
  attempts : program.limits.maxTotalAttempts ≤ harness.budget.maxTotalAttempts
  operations : ∀ reference ∈ compiled.program.operationRefs,
    (harness.programSurface.operation reference.operationId).isSome
  retries : ∀ node ∈ program.nodes, ∀ retry ∈ node.body.retry?,
    ∃ operation ∈ RunBundle.invoked harness node, operation.supportsRetry = true ∧
      RunBundle.unsafeRetryCodes operation retry = []
  recursion : ∀ node ∈ program.nodes, node.body.recursion?.isSome →
    harness.recursionPolicy.enabled = true ∧
      ∃ operation ∈ RunBundle.invoked harness node, operation.supportsRecursion = true
  permuted : compiled.program.topologicalOrder.Perm (program.nodes.map ProgramNode.nodeId)
  placed : ∀ node ∈ program.nodes, ∀ dependency ∈ node.dependsOn,
    compiled.program.topologicalOrder.idxOf dependency <
      compiled.program.topologicalOrder.idxOf node.nodeId

lemma validateOperationNode_parts {node : ProgramNode}
    (h : validateOperationNode harness registry profile node = .ok ())
    (hid : node.body.operationId? = some operationId) :
    ∃ operation, RunBundle.invoked harness node = some operation ∧
      validateNodeRetry node operationId operation = .ok () ∧
      validateNodeRecursion harness node operationId operation = .ok () := by
  rw [validateOperationNode, hid] at h
  split at h
  · next heq => cases heq
  · next id heq =>
    obtain rfl := Option.some.inj heq
    split at h
    · cases h
    · next operation hoperation =>
      rw [unit_bind_eq_ok, unit_bind_eq_ok] at h
      exact ⟨operation, by rw [RunBundle.invoked, hid]; exact hoperation, h.1, h.2.1⟩

lemma operationId?_isSome {body : ProgramNodeBody}
    (h : body.retry?.isSome ∨ body.recursion?.isSome) :
    ∃ operationId, body.operationId? = some operationId := by
  cases body with
  | action n | fanout n | verify n => exact ⟨_, rfl⟩
  | _ => simp [ProgramNodeBody.retry?, ProgramNodeBody.recursion?] at h

/-- **What the compiler accepts.** -/
theorem accepted_of_compile {compiled : CompiledProgram}
    (h : compileExecutionProgram program harness registry scope profile = .ok compiled) :
    Accepted program harness compiled := by
  rw [compileExecutionProgram] at h
  simp only [unit_bind_eq_ok] at h
  obtain ⟨-, -, hlimits, -, h⟩ := h
  obtain ⟨refs, hrefs, h⟩ := bind_eq_ok.mp h
  obtain ⟨hnodes, h⟩ := unit_bind_eq_ok.mp h
  obtain ⟨order, hperm, hplaced, horder⟩ : ∃ order : List NonEmptyStr,
      order.Perm (program.nodes.map ProgramNode.nodeId) ∧
      (∀ node ∈ program.nodes, ∀ dependency ∈ node.dependsOn,
        order.idxOf dependency < order.idxOf node.nodeId) ∧
      topologicalOrder program = .ok order := by
    obtain ⟨order, horder, hperm, hplaced⟩ := topologicalOrder_eq_ok program
    exact ⟨order, hperm, hplaced, horder⟩
  rw [horder, ok_bind, constructCompiled_eq_ok (compiled_parts hrefs horder)] at h
  obtain rfl := Except.ok.inj h
  rw [validateHarnessLimits, unit_bind_eq_ok, check_eq_ok, check_eq_ok] at hlimits
  have hnode : ∀ node ∈ program.nodes, validateOperationNode harness registry profile node = .ok () :=
    Loops.forM_eq_ok.mp hnodes
  refine
    { harnessRef := rfl
      surfaceId := rfl
      nodes := rfl
      limits := rfl
      parallelism := hlimits.1
      attempts := hlimits.2
      operations := ?_
      retries := ?_
      recursion := ?_
      permuted := hperm
      placed := hplaced }
  · intro reference hreference
    obtain ⟨operationId, -, hstep⟩ := exists_of_mem_mapM hrefs reference hreference
    obtain ⟨rfl, hsome⟩ := resolveOperationRef_eq_ok hstep
    exact hsome
  · intro node hmem retry hretry
    obtain ⟨operationId, hid⟩ := operationId?_isSome (.inl (Option.isSome_of_mem hretry))
    obtain ⟨operation, hoperation, hstep, -⟩ := validateOperationNode_parts (hnode node hmem) hid
    rw [validateNodeRetry, Option.mem_def.mp hretry] at hstep
    rw [unit_bind_eq_ok, check_eq_ok, check_eq_ok] at hstep
    exact ⟨operation, hoperation, hstep⟩
  · intro node hmem hrecursion
    obtain ⟨operationId, hid⟩ := operationId?_isSome (.inr hrecursion)
    obtain ⟨operation, hoperation, -, hstep⟩ := validateOperationNode_parts (hnode node hmem) hid
    obtain ⟨recursion, hsome⟩ := Option.isSome_iff_exists.mp hrecursion
    rw [validateNodeRecursion, hsome] at hstep
    have hallowed := check_eq_ok.mp hstep
    exact ⟨hallowed.1, operation, hoperation, hallowed.2⟩

end Compile

/-! ## Run plans -/

/-- The recursion of every node is within the policy of the harness, and its operation has a
binding that may recurse. -/
def WithinRecursionPolicy (program : ExecutionProgram) (harness : CompiledHarnessInstance) : Prop :=
  ∀ node ∈ program.nodes, ∀ recursion ∈ node.body.recursion?,
    recursion.maxDepth ≤ harness.recursionPolicy.maxDepth ∧
      recursion.maxCalls ≤ harness.recursionPolicy.maxCalls ∧
      ∃ operation ∈ RunBundle.invoked harness node,
        ∃ id ∈ operation.bindingIds, id ∈ harness.recursionPolicy.allowedBindingIds

section Plan

variable {program : ExecutionProgram} {harness : CompiledHarnessInstance}
  {compiled : CompiledProgram}

lemma elim_eq_ok {α : Type} {x : Option α} {f : α → Except String Unit} :
    x.elim (.ok ()) f = .ok () ↔ ∀ a ∈ x, f a = .ok () := by
  cases x <;> simp

/-- The checks of a plan on the program, apart from the depth, the calls and the bindings of its
recursion, are checks that the compiler has made. -/
theorem validatePlan_iff (h : Accepted program harness compiled) :
    RunBundle.validatePlan ⟨harness, compiled⟩ = .ok () ↔ WithinRecursionPolicy program harness := by
  have hresolved : ∃ operations,
      RunBundle.resolveInvokedOperations ⟨harness, compiled⟩ = .ok operations := by
    refine exists_mapM_eq_ok fun reference hreference => ?_
    obtain ⟨operation, hoperation⟩ := Option.isSome_iff_exists.mp (h.operations reference hreference)
    have hresolve : harness.programSurface.resolveOperation reference = some operation := hoperation
    simp only [hresolve]
    exact ⟨operation, rfl⟩
  obtain ⟨operations, hoperations⟩ := hresolved
  have hrelations : RunBundle.validateContractRelationships ⟨harness, compiled⟩ = .ok () := by
    rw [RunBundle.validateContractRelationships, require_bind_eq_ok, require_eq_ok]
    exact ⟨h.harnessRef, h.surfaceId⟩
  have hbudget : RunBundle.validateProgramBudget ⟨harness, compiled⟩ = .ok () := by
    rw [RunBundle.validateProgramBudget, require_bind_eq_ok, require_eq_ok]
    simp only [h.limits]
    exact ⟨h.parallelism, h.attempts⟩
  rw [RunBundle.validatePlan, hoperations, ok_bind, hrelations, ok_bind, hbudget, ok_bind,
    RunBundle.validateRecursiveNodes]
  simp only [h.nodes]
  rw [require_bind_eq_ok, unit_bind_eq_ok, Loops.forM_eq_ok, Loops.forM_eq_ok]
  constructor
  · rintro ⟨-, hrecursive, -⟩ node hnode recursion hrecursion
    have hstep := elim_eq_ok.mp (hrecursive node hnode) recursion hrecursion
    rw [RunBundle.validateRecursiveNode, require_bind_eq_ok, require_bind_eq_ok,
      require_eq_ok] at hstep
    exact ⟨hstep.1.1, hstep.1.2, hstep.2.2⟩
  · intro hwithin
    refine ⟨?_, fun node hnode => elim_eq_ok.mpr fun recursion hrecursion => ?_,
      fun node hnode => elim_eq_ok.mpr fun retry hretry => ?_⟩
    · by_cases hnone : ∀ node ∈ program.nodes, node.body.recursion?.isNone
      · exact .inl hnone
      · push Not at hnone
        obtain ⟨node, hnode, hsome⟩ := hnone
        exact .inr (h.recursion node hnode (by simpa [Option.isSome_iff_ne_none] using hsome)).1
    · obtain ⟨hdepth, hcalls, hbinding⟩ := hwithin node hnode recursion hrecursion
      rw [RunBundle.validateRecursiveNode, require_bind_eq_ok, require_bind_eq_ok, require_eq_ok]
      exact ⟨⟨hdepth, hcalls⟩, (h.recursion node hnode (Option.isSome_of_mem hrecursion)).2, hbinding⟩
    · obtain ⟨operation, hoperation, hsupports, hsafe⟩ := h.retries node hnode retry hretry
      rw [RunBundle.validateRetryNode, Option.mem_def.mp hoperation]
      simp only [require_bind_eq_ok, require_eq_ok]
      exact ⟨hsupports, hsafe⟩

end Plan

namespace Deep

def act : NonEmptyStr := ⟨"act", by decide +kernel⟩

lemma stop_visible : ¬ Text.Blank "stop" := by decide +kernel

def stop : NonEmptyStr := ⟨"stop", stop_visible⟩

def batch : NonEmptyStr := ⟨"run_batch", by decide +kernel⟩

def worker : NonEmptyStr := ⟨"worker", by decide +kernel⟩

def one : NonEmptyStr := ⟨"1", by decide +kernel⟩

def kernel : KernelRef := ⟨worker, one⟩

def capability : KernelCapabilityRef := ⟨batch, one⟩

/-- An operation that may recurse. -/
def operation : ProgramOperationSpec where
  operationId := batch
  capabilityRef := capability
  bindingIds := [worker]
  allowedTaskRefs := []
  supportsRetry := false
  retrySafeErrorCodes := []
  supportsRecursion := true
  requiredCompilationScope := .isPublic
  bindings_ne := by simp
  bindings_nodup := by simp
  tasks_nodup := by simp
  codes_nodup := by simp
  no_wildcard := by simp
  none_prohibited := rfl
  retry_codes := by simp

lemma depth_le : 1 ≤ 32 := by decide

lemma calls_le : 1 ≤ 1024 := by decide

/-- The harness allows recursion of depth one. -/
def harness : CompiledHarnessInstance where
  instanceId := worker
  kernelRef := kernel
  budget :=
    { maxParallelism := 31
      maxTotalAttempts := 211
      parallelism_bounds := by simp
      attempts_bounds := by simp }
  recursionPolicy :=
    { enabled := true
      maxDepth := 1
      maxCalls := 1
      allowedBindingIds := [worker]
      depth_bound := depth_le
      calls_bound := calls_le
      allowed_nodup := by simp
      enabled_bounds := by simp
      disabled_bounds := by simp }
  bindingIds := [worker]
  programSurface :=
    { surfaceId := batch
      operations := [operation]
      operations_ne := by simp
      operations_nodup := by simp }
  bindings_ne := by simp
  bindings_nodup := by simp
  recursion_known := by simp
  operations_known := by simp [operation]

def registry : KernelRuntimeRegistry where
  manifestRef := kernel
  primitives :=
    [{ ref := capability
       runtime := .programOperation
        { retrySafeErrorCodes := []
          codes_nodup := by simp
          no_wildcard := by simp
          none_prohibited := rfl } }]
  operationDefinitions := []
  primitives_nodup := by simp
  definitions_nodup := by simp

/-- An action that asks for depth two, and a stop. -/
def nodes : List ProgramNode :=
  [{ nodeId := act
     dependsOn := []
     body := .action
      { operationId := batch
        arguments := []
        recursion := some
          { maxDepth := 2
            maxCalls := 1
            depth_bounds := by simp
            calls_bounds := by simp }
        arguments_nodup := by simp }
     dependencies_nodup := by simp
     not_self := by simp
     not_target := by simp [ProgramNodeBody.targets] },
   { nodeId := stop
     dependsOn := [act]
     body := .stop { outcome := .succeeded }
     dependencies_nodup := by simp
     not_self := by decide +kernel
     not_target := by simp [ProgramNodeBody.targets] }]

def limits : ProgramLimits where
  maxNodes := 211
  maxParallelism := 31
  maxTotalAttempts := 211
  maxRecursionDepth := 3
  maxRecursiveCalls := 129
  nodes_bounds := by simp
  parallelism_bounds := by simp
  attempts_bounds := by simp
  depth_bounds := by simp
  calls_bounds := by simp

lemma valid : validateProgramGraph nodes limits = .ok () := by
  have h : (validateProgramGraph nodes limits).toOption = some () := by decide +kernel
  cases hgraph : validateProgramGraph nodes limits with
  | error message => rw [hgraph] at h; cases h
  | ok u => rfl

def program : ExecutionProgram where
  programId := batch
  version := one
  harnessRef := harness.ref
  nodes
  limits
  valid

end Deep

end AecBench.Compilation
