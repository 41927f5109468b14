import AecBench.Contracts.EvidenceLifecycle
import AecBench.Lib.Dict
import AecBench.Lib.Loops
import AecBench.Lib.Prerequisites
import Mathlib.Data.List.Sort

/-!
# Prerequisite graphs of lifecycle documents

A checkpoint declares evidence requests or operations that need each other, and a budget. The
document is checked when it is read: every item by itself, and then the graph of the items against
the budget.

## Main definitions

* `EvidenceRequestSpec.errors`, `LifecycleOperationSpec.errors` — what an item by itself reports.
* `validateGraph` — the check of the graph, with the texts of either kind of item.
* `ConditionalEvidenceSpec.errors`, `ConditionalOperationSpec.errors` — what a declaration reports.

## Main results

* `validateGraph_spec` — the check ends on every graph, and accepts those that are `Usable`.
* `ConditionalEvidenceSpec.errors_eq_nil`, `ConditionalOperationSpec.errors_eq_nil` — the
  declarations that are accepted.

## Implementation notes

* The prerequisites of an item are gone through as they are declared; the source makes a set of
  them, whose order does not show in what is accepted.
-/

namespace AecBench.Contracts

open Validation Prerequisites

/-! ### Single items -/

/-- The letters and digits of ASCII. -/
def isAsciiAlphanumeric (c : Char) : Bool :=
  ('a' ≤ c && c ≤ 'z') || ('A' ≤ c && c ≤ 'Z') || ('0' ≤ c && c ≤ '9')

/-- `[A-Za-z0-9][A-Za-z0-9._-]*`. -/
def SafeSegment (s : String) : Prop :=
  (s.toList.head?.any isAsciiAlphanumeric && s.toList.tail.all fun c =>
    isAsciiAlphanumeric c || c = '.' || c = '_' || c = '-') = true

instance (s : String) : Decidable (SafeSegment s) := inferInstanceAs (Decidable (_ = true))

def EvidenceRequestSpec.validateRequestId (request : EvidenceRequestSpec) :
    Except String Unit := do
  require (SafeSegment request.requestId) "request_id must be a safe path segment"
  require request.prerequisiteRequestIds.Nodup "evidence request prerequisites must be unique"
  require (request.requestId ∉ request.prerequisiteRequestIds)
    "evidence request cannot depend on itself"

def EvidenceRequestSpec.errors (request : EvidenceRequestSpec) : Errors :=
  record
    [("request_id", nonEmptyStr request.requestId),
      ("title", nonEmptyStr request.title),
      ("description", nonEmptyStr request.description),
      ("prerequisite_request_ids", each nonEmptyStr request.prerequisiteRequestIds)]
    request.validateRequestId

lemma EvidenceRequestSpec.id_not_blank {request : EvidenceRequestSpec} (h : request.errors = []) :
    ¬ Text.Blank request.requestId := by
  rw [EvidenceRequestSpec.errors, record_eq_nil] at h
  simpa using h.1 ("request_id", nonEmptyStr request.requestId) List.mem_cons_self

/-- `validate_safe_identity`, after the check that the text is not blank. -/
def safeIdentity (value : String) : Errors :=
  andThen (nonEmptyStr value)
    (require (SafeSegment value) "operation identity must be a safe path segment")

def LifecycleOperationSpec.validatePrerequisites (operation : LifecycleOperationSpec) :
    Except String Unit := do
  require operation.prerequisiteOperationIds.Nodup "operation prerequisites must be unique"
  require (operation.operationId ∉ operation.prerequisiteOperationIds)
    "operation cannot depend on itself"

def LifecycleOperationSpec.errors (operation : LifecycleOperationSpec) : Errors :=
  record
    [("operation_id", safeIdentity operation.operationId),
      ("kind", safeIdentity operation.kind),
      ("title", nonEmptyStr operation.title),
      ("description", nonEmptyStr operation.description),
      ("prerequisite_operation_ids", each nonEmptyStr operation.prerequisiteOperationIds)]
    operation.validatePrerequisites

lemma LifecycleOperationSpec.id_not_blank {operation : LifecycleOperationSpec}
    (h : operation.errors = []) : ¬ Text.Blank operation.operationId := by
  rw [LifecycleOperationSpec.errors, record_eq_nil] at h
  have hsafe := h.1 ("operation_id", safeIdentity operation.operationId) List.mem_cons_self
  rw [safeIdentity, andThen_eq_nil, nonEmptyStr_eq_nil] at hsafe
  exact hsafe.1

/-! ### The graph -/

/-- The texts in which the two kinds of graphs are reported. -/
structure GraphTexts where
  duplicate : String
  excess : String
  unknown : String → String → String
  cycle : String
  unsatisfiable : String → ℕ → String

def evidenceTexts : GraphTexts where
  duplicate := "evidence request ids must be unique per checkpoint"
  excess := "evidence request budget cannot exceed the number of requests"
  unknown id names := "evidence request prerequisites are unknown for " ++ id ++ ": " ++ names
  cycle := "evidence request prerequisites must not contain cycles"
  unsatisfiable id required :=
    "evidence request budget cannot satisfy prerequisites for " ++ id ++ ": requires " ++
      toString required ++ " requests"

def operationTexts : GraphTexts where
  duplicate := "operation ids must be unique per checkpoint"
  excess := "operation budget cannot exceed the number of operations"
  unknown id names := "operation prerequisites are unknown for " ++ id ++ ": " ++ names
  cycle := "operation prerequisites must not contain cycles"
  unsatisfiable id required :=
    "operation budget cannot satisfy prerequisites for " ++ id ++ ": requires " ++
      toString required ++ " operations"

/-- What a check of a graph raises: a message, or the end of the recursion it is given. -/
inductive GraphError
  | message (text : String)
  | recursionExceeded

def GraphTexts.stop (texts : GraphTexts) : Stop → GraphError
  | .cycle => .message texts.cycle
  | .exhausted => .recursionExceeded

/-- Items with the ids they need. -/
abbrev Graph := List (String × List String)

namespace Graph

variable (graph : Graph)

def ids : List String := graph.map Prod.fst

/-- `prerequisites[id]`. -/
def prerequisites (id : String) : List String :=
  ((Dict.get Prod.fst graph id).map Prod.snd).getD []

/-- `dependencies - known`, sorted. -/
def unknown (dependencies : List String) : List String :=
  (dependencies.filter (· ∉ graph.ids)).insertionSort (· ≤ ·)

/-- The check that an item needs ids of the graph only. -/
def checkKnown (texts : GraphTexts) (item : String × List String) : Except GraphError Unit :=
  require (graph.unknown item.2 = [])
    (.message (texts.unknown item.1 (", ".intercalate (graph.unknown item.2))))

/-- The check of one id against the budget; what was collected so far goes along. -/
def checkBudget (texts : GraphTexts) (depth budget : ℕ) (memory : Memory String) (id : String) :
    Except GraphError (Memory String) := do
  let (needed, memory) ← (closure graph.prerequisites depth memory id).mapError texts.stop
  require (needed.card + 1 ≤ budget) (.message (texts.unsatisfiable id (needed.card + 1)))
  return memory

/-- The checks of a graph, with recursions of at most the given depth. -/
def check (texts : GraphTexts) (depth budget : ℕ) : Except GraphError Unit := do
  require graph.ids.Nodup (.message texts.duplicate)
  require (budget ≤ graph.ids.length) (.message texts.excess)
  graph.forM (graph.checkKnown texts)
  let _ ← (visitAll graph.prerequisites depth graph.ids).mapError texts.stop
  let _ ← graph.ids.foldlM (graph.checkBudget texts depth budget) []
  return ()

/-- The graphs that can be used: different ids, prerequisites among them, none that needs itself,
and every item at the end of a sequence within the budget. -/
structure Usable (budget : ℕ) : Prop where
  unique : graph.ids.Nodup
  known : ∀ item ∈ graph, ∀ id ∈ item.2, id ∈ graph.ids
  acyclic : ∀ id ∈ graph.ids, ¬ Dependants.Leads graph.prerequisites graph.ids id id
  attained : ∀ id ∈ graph.ids, Attains graph.prerequisites graph.ids budget id

section Check

variable {graph : Graph} {depth : ℕ}

lemma prerequisites_of_mem (hunique : graph.ids.Nodup) {item : String × List String}
    (hitem : item ∈ graph) : graph.prerequisites item.1 = item.2 := by
  have hget : Dict.get Prod.fst graph item.1 = some item := (Dict.get_eq_some hunique).mpr hitem
  rw [prerequisites, hget]
  rfl

lemma ids_closed (hunique : graph.ids.Nodup)
    (hknown : ∀ item ∈ graph, ∀ id ∈ item.2, id ∈ graph.ids) :
    Closed graph.prerequisites graph.ids := by
  intro id hid needed hneeded
  obtain ⟨item, hitem, rfl⟩ := List.mem_map.mp hid
  rw [prerequisites_of_mem hunique hitem] at hneeded
  exact hknown item hitem needed hneeded

/-- At a place of an ordered sequence stands an item whose prerequisites were there before. -/
lemma item_of_split {n : ℕ} (hunique : graph.ids.Nodup) {before done rest : List String}
    {last id : String} (horder : Ordered graph.prerequisites (before ++ [last]))
    (hsub : before ++ [last] ⊆ graph.ids) (hlength : before.length + 1 ≤ n)
    (hsplit : done ++ id :: rest = before ++ [last]) :
    ∃ item ∈ graph, item.1 = id ∧ item.2 ⊆ done ∧ done.length < n := by
  have hmem : id ∈ before ++ [last] := by
    rw [← hsplit]
    simp
  obtain ⟨item, hitem, rfl⟩ := List.mem_map.mp (hsub hmem)
  refine ⟨item, hitem, rfl, ?_, ?_⟩
  · intro needed hneeded
    rw [← prerequisites_of_mem hunique hitem] at hneeded
    exact horder done item.1 ⟨rest, by simpa using hsplit⟩ needed hneeded
  · have hlen := congrArg List.length hsplit
    simp only [List.length_append, List.length_cons, List.length_nil] at hlen
    omega

lemma unknown_eq_nil {dependencies : List String} :
    graph.unknown dependencies = [] ↔ ∀ id ∈ dependencies, id ∈ graph.ids := by
  have hperm := List.perm_insertionSort (· ≤ ·) (dependencies.filter (· ∉ graph.ids))
  rw [unknown, ← List.length_eq_zero_iff, hperm.length_eq, List.length_eq_zero_iff,
    List.filter_eq_nil_iff]
  simp

/-- A check of the budget passes exactly when a sequence within the budget ends with the item. -/
lemma checkBudget_spec (texts : GraphTexts) (budget : ℕ) {order : List String} (hclosed : Closed graph.prerequisites graph.ids)
    (horder : Ordered graph.prerequisites order) (hnodup : order.Nodup)
    (hmem : ∀ id, id ∈ order ↔ id ∈ graph.ids) (hdepth : order.length < depth)
    {memory : Memory String} (hmemory : Remembers graph.prerequisites graph.ids memory)
    {id : String} (hid : id ∈ graph.ids) :
    (Attains graph.prerequisites graph.ids budget id → ∃ memory',
        graph.checkBudget texts depth budget memory id = .ok memory' ∧
          Remembers graph.prerequisites graph.ids memory') ∧
      (¬ Attains graph.prerequisites graph.ids budget id → ∃ text,
        graph.checkBudget texts depth budget memory id = .error (.message text)) := by
  have hranked : Dependants.Ranked graph.prerequisites graph.ids (order.idxOf ·) :=
    fun x hx b hb hitem => horder.ranked x ((hmem x).mpr hx) b hb ((hmem b).mpr hitem)
  have hrank : order.idxOf id < depth :=
    (List.idxOf_lt_length_of_mem ((hmem id).mpr hid)).trans hdepth
  obtain ⟨needed, memory', hrun, hmemory', hneeded⟩ :=
    closure_spec hclosed hranked hid hrank hmemory
  rw [attains_iff horder hnodup hmem hid hneeded, checkBudget, hrun]
  constructor
  · intro hcard
    refine ⟨memory', ?_, hmemory'⟩
    show (require _ _ >>= fun _ => pure memory') = _
    rw [require, if_pos hcard]
    rfl
  · intro hcard
    refine ⟨texts.unsatisfiable id (needed.card + 1), ?_⟩
    show (require _ _ >>= fun _ => pure memory') = _
    rw [require, if_neg hcard]
    rfl

lemma foldlM_checkBudget (texts : GraphTexts) (budget : ℕ) {order : List String} (hclosed : Closed graph.prerequisites graph.ids)
    (horder : Ordered graph.prerequisites order) (hnodup : order.Nodup)
    (hmem : ∀ id, id ∈ order ↔ id ∈ graph.ids) (hdepth : order.length < depth) {ids : List String}
    (hids : ids ⊆ graph.ids) (memory : Memory String)
    (hmemory : Remembers graph.prerequisites graph.ids memory) :
    ((∀ id ∈ ids, Attains graph.prerequisites graph.ids budget id) → ∃ memory',
        ids.foldlM (graph.checkBudget texts depth budget) memory = .ok memory') ∧
      ((¬ ∀ id ∈ ids, Attains graph.prerequisites graph.ids budget id) → ∃ text,
        ids.foldlM (graph.checkBudget texts depth budget) memory = .error (.message text)) := by
  induction ids generalizing memory with
  | nil => exact ⟨fun _ => ⟨memory, rfl⟩, fun h => absurd (by simp) h⟩
  | cons id ids ih =>
    obtain ⟨hid, hrest⟩ := List.cons_subset.mp hids
    have hone := checkBudget_spec texts budget hclosed horder hnodup hmem hdepth hmemory hid
    rw [List.foldlM_cons, List.forall_mem_cons]
    by_cases hattains : Attains graph.prerequisites graph.ids budget id
    · obtain ⟨memory', hrun, hmemory'⟩ := hone.1 hattains
      rw [hrun, ok_bind]
      obtain ⟨hpass, hfail⟩ := ih hrest memory' hmemory'
      exact ⟨fun h => hpass h.2, fun h => hfail fun hall => h ⟨hattains, hall⟩⟩
    · obtain ⟨text, hrun⟩ := hone.2 hattains
      rw [hrun]
      exact ⟨fun h => absurd h.1 hattains, fun _ => ⟨text, rfl⟩⟩

lemma forM_checkKnown (texts : GraphTexts) (items : List (String × List String)) :
    ((∀ item ∈ items, ∀ id ∈ item.2, id ∈ graph.ids) →
        items.forM (graph.checkKnown texts) = .ok ()) ∧
      ((¬ ∀ item ∈ items, ∀ id ∈ item.2, id ∈ graph.ids) → ∃ text,
        items.forM (graph.checkKnown texts) = .error (.message text)) := by
  induction items with
  | nil => exact ⟨fun _ => rfl, fun h => absurd (by simp) h⟩
  | cons item items ih =>
    have hcons : (item :: items).forM (graph.checkKnown texts) =
        (graph.checkKnown texts item >>= fun _ => items.forM (graph.checkKnown texts)) := rfl
    rw [List.forall_mem_cons, ← unknown_eq_nil, hcons, checkKnown]
    by_cases hone : graph.unknown item.2 = []
    · rw [require, if_pos hone, ok_bind]
      exact ⟨fun h => ih.1 h.2, fun h => ih.2 fun hall => h ⟨hone, hall⟩⟩
    · rw [require, if_neg hone]
      exact ⟨fun h => absurd h.1 hone, fun _ => ⟨_, rfl⟩⟩

/-- **The check of a graph ends**, whatever the graph: it passes when the graph can be used and the
budget does not exceed the number of items, and raises a message otherwise. -/
theorem check_spec (texts : GraphTexts) (budget : ℕ) (hdepth : graph.ids.length < depth) :
    (budget ≤ graph.ids.length ∧ graph.Usable budget →
        graph.check texts depth budget = .ok ()) ∧
      (¬ (budget ≤ graph.ids.length ∧ graph.Usable budget) → ∃ text,
        graph.check texts depth budget = .error (.message text)) := by
  rw [check]
  by_cases hunique : graph.ids.Nodup
  swap
  · rw [require, if_neg hunique]
    exact ⟨fun h => absurd h.2.unique hunique, fun _ => ⟨_, rfl⟩⟩
  rw [require, if_pos hunique, ok_bind]
  by_cases hbudget : budget ≤ graph.ids.length
  swap
  · rw [require, if_neg hbudget]
    exact ⟨fun h => absurd h.1 hbudget, fun _ => ⟨_, rfl⟩⟩
  rw [require, if_pos hbudget, ok_bind]
  obtain ⟨hpass, hfail⟩ := forM_checkKnown texts graph
  by_cases hknown : ∀ item ∈ graph, ∀ id ∈ item.2, id ∈ graph.ids
  swap
  · obtain ⟨text, htext⟩ := hfail hknown
    rw [htext]
    exact ⟨fun h => absurd h.2.known hknown, fun _ => ⟨text, rfl⟩⟩
  rw [hpass hknown, ok_bind]
  have hclosed := ids_closed hunique hknown
  rcases visitAll_spec hclosed hdepth with ⟨⟨order, hrun, horder, hnodup, hmem⟩, hacyclic⟩ | hcycle
  swap
  · rw [hcycle.1]
    obtain ⟨id, hid, hself⟩ := hcycle.2
    exact ⟨fun h => absurd hself (h.2.acyclic id hid), fun _ => ⟨texts.cycle, rfl⟩⟩
  rw [hrun]
  have hperm : order.Perm graph.ids := (List.perm_ext_iff_of_nodup hnodup hunique).mpr hmem
  obtain ⟨hbudgets, hover⟩ := foldlM_checkBudget texts budget hclosed horder hnodup
    hmem (hperm.length_eq ▸ hdepth) (List.Subset.refl graph.ids) [] (by simp [Remembers])
  have hlast : ((Except.ok order : Except Stop _).mapError texts.stop >>= fun _ =>
      graph.ids.foldlM (graph.checkBudget texts depth budget) [] >>= fun _ =>
        (pure () : Except GraphError Unit)) =
      (graph.ids.foldlM (graph.checkBudget texts depth budget) [] >>= fun _ => pure ()) := rfl
  constructor
  · intro h
    obtain ⟨memory, hmemory⟩ := hbudgets h.2.attained
    rw [hmemory]
    rfl
  · intro h
    obtain ⟨text, htext⟩ := hover fun hattained =>
      h ⟨hbudget, hunique, hknown, hacyclic, hattained⟩
    exact ⟨text, by rw [htext]; rfl⟩

end Check

end Graph

/-- `validate_request_graph` and `validate_operation_graph`: no recursion is deeper than there are
items. -/
def validateGraph (texts : GraphTexts) (graph : Graph) (budget : ℕ) : Except String Unit :=
  (graph.check texts (graph.ids.length + 1) budget).mapError fun
    | .message text => text
    | .recursionExceeded => "maximum recursion depth exceeded"

/-- **The graphs that are accepted.** -/
theorem validateGraph_eq_ok {texts : GraphTexts} {graph : Graph} {budget : ℕ} :
    validateGraph texts graph budget = .ok () ↔
      budget ≤ graph.ids.length ∧ graph.Usable budget := by
  obtain ⟨hpass, hfail⟩ := Graph.check_spec texts budget
    (Nat.lt_succ_self graph.ids.length)
  rw [validateGraph, mapError_eq_ok]
  constructor
  · intro h
    by_contra hnot
    obtain ⟨text, htext⟩ := hfail hnot
    rw [htext] at h
    cases h
  · exact hpass

lemma Graph.Usable.budget_pos {graph : Graph} {budget : ℕ} (h : graph.Usable budget)
    (hne : graph ≠ []) : 0 < budget := by
  obtain ⟨item, hitem⟩ := List.exists_mem_of_ne_nil graph hne
  obtain ⟨before, -, -, -, hlength⟩ := h.attained item.1 (List.mem_map_of_mem hitem)
  omega

/-! ### The declarations -/

/-- The length of a tuple. -/
def tupleLength {α : Type} (items : List α) (least : ℕ) (most : Option ℕ) : Errors :=
  ofCheck do
    require (least ≤ items.length) ("Tuple should have at least " ++ toString least ++
      " item after validation, not " ++ toString items.length)
    require (∀ n ∈ most, items.length ≤ n) ("Tuple should have at most " ++
      toString (most.getD 0) ++ " items after validation, not " ++ toString items.length)

lemma tupleLength_eq_nil {α : Type} {items : List α} {least : ℕ} {most : Option ℕ} :
    tupleLength items least most = [] ↔ least ≤ items.length ∧ ∀ n ∈ most, items.length ≤ n := by
  simp only [tupleLength, ofCheck_eq_nil, require_bind_eq_ok, require_eq_ok, exists_const]

namespace ConditionalEvidenceSpec

variable (spec : ConditionalEvidenceSpec)

def graph : Graph := spec.requests.map fun request =>
  (request.requestId, request.prerequisiteRequestIds)

def errors : Errors :=
  record
    [("request_budget", positiveInt spec.requestBudget),
      ("requests", each EvidenceRequestSpec.errors spec.requests ++
        tupleLength spec.requests 1 none)]
    (validateGraph evidenceTexts spec.graph spec.requestBudget)

/-- **The declarations of evidence requests that are accepted.** -/
theorem errors_eq_nil {spec : ConditionalEvidenceSpec} :
    spec.errors = [] ↔ spec.requests ≠ [] ∧ (∀ request ∈ spec.requests, request.errors = []) ∧
      spec.requestBudget ≤ spec.requests.length ∧ spec.graph.Usable spec.requestBudget := by
  have hlength : spec.graph.ids.length = spec.requests.length := by simp [graph, Graph.ids]
  rw [errors, record_eq_nil, validateGraph_eq_ok, hlength]
  simp only [List.forall_mem_cons, positiveInt_eq_nil, List.append_eq_nil_iff, each_eq_nil,
    tupleLength_eq_nil]
  constructor
  · rintro ⟨⟨-, ⟨hitems, hleast, -⟩, -⟩, hbudget, husable⟩
    exact ⟨List.length_pos_iff.mp hleast, hitems, hbudget, husable⟩
  · rintro ⟨hne, hitems, hbudget, husable⟩
    refine ⟨⟨husable.budget_pos (by simpa [graph] using hne), ⟨hitems, ?_⟩, by simp⟩, hbudget,
      husable⟩
    exact ⟨List.length_pos_iff.mpr hne, by simp⟩

end ConditionalEvidenceSpec

namespace ConditionalOperationSpec

variable (spec : ConditionalOperationSpec)

def graph : Graph := spec.operations.map fun operation =>
  (operation.operationId, operation.prerequisiteOperationIds)

def errors : Errors :=
  record
    [("operation_budget", positiveInt spec.operationBudget),
      ("operations", each LifecycleOperationSpec.errors spec.operations ++
        tupleLength spec.operations 1 (some 32))]
    (validateGraph operationTexts spec.graph spec.operationBudget)

/-- **The declarations of operations that are accepted.** -/
theorem errors_eq_nil {spec : ConditionalOperationSpec} :
    spec.errors = [] ↔ spec.operations ≠ [] ∧ spec.operations.length ≤ 32 ∧
      (∀ operation ∈ spec.operations, operation.errors = []) ∧
      spec.operationBudget ≤ spec.operations.length ∧
      spec.graph.Usable spec.operationBudget := by
  have hlength : spec.graph.ids.length = spec.operations.length := by simp [graph, Graph.ids]
  rw [errors, record_eq_nil, validateGraph_eq_ok, hlength]
  simp only [List.forall_mem_cons, positiveInt_eq_nil, List.append_eq_nil_iff, each_eq_nil,
    tupleLength_eq_nil]
  constructor
  · rintro ⟨⟨-, ⟨hitems, hleast, hmost⟩, -⟩, hbudget, husable⟩
    exact ⟨List.length_pos_iff.mp hleast, hmost 32 rfl, hitems, hbudget, husable⟩
  · rintro ⟨hne, hmost, hitems, hbudget, husable⟩
    refine ⟨⟨husable.budget_pos (by simpa [graph] using hne), ⟨hitems, ?_⟩, by simp⟩, hbudget,
      husable⟩
    exact ⟨List.length_pos_iff.mpr hne, by simpa using hmost⟩

end ConditionalOperationSpec

end AecBench.Contracts
