import AecBench.Adapters.LambdaRlm.Planner
import AecBench.Templates.Report.Session

/-!
# The order of the planned sections

The planner takes a section when all its dependencies were taken, the least id first. A section
that it skips is never filled, and the session refuses a section that stands on it.

## Main definitions

* `Sorting` — the invariant of the loop.
* `PlansFillable` — every planned section can be filled in its turn.

## Main results

* `topologicalSort_spec` — all sections, each after its dependencies.
* `plansFillable_iff` — when every planned section can be filled.
-/

namespace AecBench.LambdaRlm

open Templates.Report Wire

variable {schema : DependencyTreeSchema}

/-! ### One round -/

/-- What releasing dependents does: their degrees fall to `rest`, and those that wait for nothing
more are queued. -/
lemma foldl_release (ids queue : List String) (rest : String → ℕ) :
    ∃ released, ids.foldl release (fun id => ids.count id + rest id, queue) =
        (rest, queue ++ released) ∧
      released.Nodup ∧ ∀ id, id ∈ released ↔ id ∈ ids ∧ rest id = 0 := by
  induction ids generalizing queue with
  | nil => exact ⟨[], by simp, List.nodup_nil, by simp⟩
  | cons first ids ih =>
    have hless : Function.update (fun id => (first :: ids).count id + rest id) first
        ((first :: ids).count first + rest first - 1) = fun id => ids.count id + rest id := by
      funext id
      by_cases hid : id = first
      · subst hid
        rw [Function.update_self, List.count_cons_self]
        omega
      · rw [Function.update_of_ne hid, List.count_cons_of_ne (Ne.symm hid)]
    have hzero : ids.count first + rest first = 0 ↔ first ∉ ids ∧ rest first = 0 := by
      rw [Nat.add_eq_zero_iff, List.count_eq_zero]
    rw [List.foldl_cons, release]
    simp only [hless, hzero]
    obtain ⟨released, hfold, hnodup, hmem⟩ := ih (if first ∉ ids ∧ rest first = 0 then
      queue ++ [first] else queue)
    rw [hfold]
    split_ifs with hfirst
    · refine ⟨first :: released, by simp, ?_, fun id => ?_⟩
      · exact List.nodup_cons.mpr ⟨fun hin => hfirst.1 ((hmem first).mp hin).1, hnodup⟩
      · rw [List.mem_cons, List.mem_cons, hmem]
        constructor
        · rintro (rfl | ⟨hin, hrest⟩)
          · exact ⟨.inl rfl, hfirst.2⟩
          · exact ⟨.inr hin, hrest⟩
        · rintro ⟨rfl | hin, hrest⟩
          · exact .inl rfl
          · exact .inr ⟨hin, hrest⟩
    · refine ⟨released, rfl, hnodup, fun id => ?_⟩
      rw [hmem, List.mem_cons]
      refine ⟨fun ⟨hin, hrest⟩ => ⟨.inr hin, hrest⟩, ?_⟩
      rintro ⟨rfl | hin, hrest⟩
      · exact ⟨not_not.mp fun hout => hfirst ⟨hout, hrest⟩, hrest⟩
      · exact ⟨hin, hrest⟩

/-! ### The loop -/

/-- The ids of the sections that were taken. -/
def taken (result : List TreeSection) : List String := result.map (·.id)

/-- Between two rounds: what was taken, each section after its dependencies, and what each section
still waits for. -/
structure Sorting (schema : DependencyTreeSchema) (inDegree : String → ℕ) (queue : List String)
    (result : List TreeSection) : Prop where
  sections : ∀ item ∈ result, item ∈ schema.sections
  nodup : (taken result).Nodup
  ordered : ∀ before item after, result = before ++ item :: after →
    ∀ dep ∈ item.dependsOn, dep ∈ taken before
  waits : inDegree = fun id => (schema.dependencies id).countP (· ∉ taken result)
  queue_nodup : queue.Nodup
  queued : ∀ id, id ∈ queue ↔ id ∈ schema.ids ∧ id ∉ taken result ∧
    ∀ dep ∈ schema.dependencies id, dep ∈ taken result

variable {id : String}

lemma mem_ids_of_dependencies (h : schema.WellFormed) {dep : String}
    (hdep : dep ∈ schema.dependencies id) : id ∈ schema.ids ∧ dep ∈ schema.ids := by
  rw [DependencyTreeSchema.dependencies] at hdep
  cases hitem : schema.sectionOf id with
  | none =>
    rw [hitem] at hdep
    cases hdep
  | some item =>
    rw [hitem] at hdep
    obtain ⟨hmem, rfl⟩ := Table.mem_of_lookup hitem
    exact ⟨DependencyTreeSchema.mem_ids.mpr ⟨item, hmem, rfl⟩, h.known item hmem dep hdep⟩

lemma count_dependents (h : schema.WellFormed) (dep id : String) :
    (dependents schema dep).count id = (schema.dependencies id).count dep := by
  have hkeyed := h.keyed
  rw [dependents, DependencyTreeSchema.dependencies, DependencyTreeSchema.sectionOf]
  generalize schema.sections = items at hkeyed ⊢
  induction items with
  | nil => rfl
  | cons item items ih =>
    obtain ⟨hfresh, hrest⟩ := List.nodup_cons.mp hkeyed
    rw [List.flatMap_cons, List.count_append, ih hrest, List.count_replicate, Table.lookup_cons]
    split_ifs with hsame hid hid
    · have hnone : Table.lookup (·.id) id items = none := by
        refine Table.lookup_eq_none_iff.mpr fun other hother hkey => hfresh ?_
        exact List.mem_map.mpr ⟨other, hother, hkey.trans hid.symm⟩
      rw [hnone]
      rfl
    · exact absurd (beq_iff_eq.mp hsame) hid
    · exact absurd (beq_iff_eq.mpr hid) hsame
    · exact Nat.zero_add _

lemma countP_notMem_append {done deps : List String} {current : String} (h : current ∉ done) :
    deps.countP (· ∉ done) = deps.count current + deps.countP (· ∉ done ++ [current]) := by
  induction deps with
  | nil => rfl
  | cons dep deps ih =>
    rw [List.countP_cons, List.countP_cons, List.count_cons, ih]
    by_cases hdep : dep = current
    · subst hdep
      simp [h]
      omega
    · simp [hdep]
      omega

lemma countP_notMem_eq_zero {done deps : List String} :
    deps.countP (· ∉ done) = 0 ↔ ∀ dep ∈ deps, dep ∈ done := by
  rw [List.countP_eq_zero]
  exact forall₂_congr fun dep _ => by simp

variable {result : List TreeSection} {inDegree : String → ℕ} {queue : List String}

variable (h : schema.WellFormed)
include h

lemma Sorting.grounded (hs : Sorting schema inDegree queue result) (hid : id ∈ taken result) :
    ∀ dep ∈ schema.dependencies id, dep ∈ taken result := by
  obtain ⟨item, hitem, rfl⟩ := List.mem_map.mp hid
  obtain ⟨before, after, rfl⟩ := List.append_of_mem hitem
  rw [h.dependencies_eq (hs.sections item hitem)]
  intro dep hdep
  have hbefore := hs.ordered before item after rfl dep hdep
  rw [taken, List.map_append]
  exact List.mem_append_left _ hbefore

lemma Sorting.round {rest : List String} {current : String}
    (hs : Sorting schema inDegree queue result)
    (hqueue : queue.insertionSort (· ≤ ·) = current :: rest) :
    ∃ item released, schema.sectionOf current = some item ∧
      Sorting schema released.1 released.2 (result ++ [item]) ∧
      (dependents schema current).foldl release (inDegree, rest) = released := by
  have hperm : queue.Perm (current :: rest) := hqueue ▸ (List.perm_insertionSort _ queue).symm
  obtain ⟨hnotRest, hrest⟩ := List.nodup_cons.mp (hperm.nodup_iff.mp hs.queue_nodup)
  obtain ⟨hid, hout, hready⟩ := (hs.queued current).mp (hperm.mem_iff.mpr List.mem_cons_self)
  obtain ⟨item, hitem, rfl⟩ := DependencyTreeSchema.mem_ids.mp hid
  have htaken : taken (result ++ [item]) = taken result ++ [item.id] := by simp [taken]
  have hwaits : inDegree = fun id => (dependents schema item.id).count id +
      (schema.dependencies id).countP (· ∉ taken (result ++ [item])) := by
    rw [hs.waits, htaken]
    funext id
    rw [count_dependents h, countP_notMem_append hout]
  obtain ⟨released, hfold, hnodup, hmem⟩ := foldl_release (dependents schema item.id) rest
    fun id => (schema.dependencies id).countP (· ∉ taken (result ++ [item]))
  -- a section is released when this was the last of its dependencies
  have hreleased (id : String) : id ∈ released ↔ item.id ∈ schema.dependencies id ∧
      ∀ dep ∈ schema.dependencies id, dep ∈ taken (result ++ [item]) := by
    rw [hmem, countP_notMem_eq_zero, ← List.count_pos_iff, count_dependents h, List.count_pos_iff]
  refine ⟨item, _, Table.Keyed.lookup_of_mem h.keyed hitem, ?_, hwaits ▸ hfold⟩
  refine ⟨?_, ?_, ?_, rfl, List.nodup_append.mpr ⟨hrest, hnodup, ?_⟩, fun id => ?_⟩
  · exact List.forall_mem_append.mpr ⟨hs.sections, by simpa using hitem⟩
  · rw [htaken, List.nodup_append]
    refine ⟨hs.nodup, List.nodup_singleton _, fun id hin other hother hsame => hout ?_⟩
    rwa [← List.mem_singleton.mp hother, ← hsame]
  · intro before other after hsplit
    rcases List.eq_nil_or_concat after with rfl | ⟨init, last, rfl⟩
    · obtain ⟨rfl, hsame⟩ := List.append_inj' hsplit rfl
      obtain rfl := List.singleton_inj.mp hsame
      rwa [h.dependencies_eq hitem] at hready
    · have hinit : result ++ [item] = (before ++ other :: init) ++ [last] := by simpa using hsplit
      exact hs.ordered before other init (List.append_inj' hinit rfl).1
  · rintro id hin _ hreleasedId rfl
    obtain ⟨-, -, hdeps⟩ := (hs.queued id).mp (hperm.mem_iff.mpr (List.mem_cons_of_mem _ hin))
    exact hout (hdeps _ ((hreleased id).mp hreleasedId).1)
  · rw [List.mem_append, hreleased, htaken]
    simp only [List.mem_append, List.mem_singleton, not_or]
    constructor
    · rintro (hin | ⟨hdep, hdeps⟩)
      · obtain ⟨hid', hout', hdeps⟩ := (hs.queued id).mp
          (hperm.mem_iff.mpr (List.mem_cons_of_mem _ hin))
        exact ⟨hid', ⟨hout', fun hsame => hnotRest (hsame ▸ hin)⟩, fun dep hdep =>
          .inl (hdeps dep hdep)⟩
      · refine ⟨(mem_ids_of_dependencies h hdep).1, ⟨fun hin => ?_, ?_⟩, hdeps⟩
        · exact hout (hs.grounded h hin _ hdep)
        · rintro rfl
          exact hout (hready _ hdep)
    · rintro ⟨hid', ⟨hout', hne⟩, hdeps⟩
      by_cases hdep : item.id ∈ schema.dependencies id
      · exact .inr ⟨hdep, hdeps⟩
      · have hin := (hs.queued id).mpr ⟨hid', hout', fun dep hin =>
          (hdeps dep hin).resolve_right fun hsame => hdep (hsame ▸ hin)⟩
        exact .inl ((List.mem_cons.mp (hperm.mem_iff.mp hin)).resolve_left hne)

lemma Sorting.complete (hs : Sorting schema inDegree queue result) (hqueue : queue = []) :
    ∀ id ∈ schema.ids, id ∈ taken result := by
  obtain ⟨rank, hranked⟩ := h.ranked
  by_contra hmissing
  push Not at hmissing
  obtain ⟨id, hid, hout⟩ := hmissing
  have hpending : id ∈ schema.ids.filter (· ∉ taken result) := by simp [hid, hout]
  obtain ⟨next, hnext, hready⟩ := hranked.exists_ready (fun a ha => (List.mem_filter.mp ha).1)
    (List.ne_nil_of_mem hpending)
  obtain ⟨hnext, hwaiting⟩ := List.mem_filter.mp hnext
  have hin : next ∈ queue := by
    refine (hs.queued next).mpr ⟨hnext, of_decide_eq_true hwaiting, fun dep hdep => ?_⟩
    by_contra hdepOut
    obtain ⟨item, hitem, rfl⟩ := DependencyTreeSchema.mem_ids.mp hnext
    rw [h.dependencies_eq hitem] at hdep
    refine hready dep (by rwa [h.dependencies_eq hitem]) ?_
    simp [h.known item hitem dep hdep, hdepOut]
  rw [hqueue] at hin
  cases hin

lemma sortLoop_spec {fuel : ℕ} {waiting : (String → ℕ) × List String}
    (hs : Sorting schema waiting.1 waiting.2 result)
    (hfuel : result.length + fuel = schema.sections.length) :
    (∃ inDegree queue, Sorting schema inDegree queue (sortLoop schema fuel waiting result)) ∧
      ∀ id ∈ schema.ids, id ∈ taken (sortLoop schema fuel waiting result) := by
  induction fuel generalizing waiting result with
  | zero =>
    refine ⟨⟨_, _, hs⟩, fun id hid => ?_⟩
    have hsub : taken result ⊆ schema.ids := by
      intro id hin
      obtain ⟨item, hitem, rfl⟩ := List.mem_map.mp hin
      exact List.mem_map_of_mem (hs.sections item hitem)
    have hlength : schema.ids.length ≤ (taken result).length := by
      simp [taken, DependencyTreeSchema.ids, ← hfuel]
    exact ((hs.nodup.subperm hsub).perm_of_length_le hlength).mem_iff.mpr hid
  | succ fuel ih =>
    rw [sortLoop]
    split
    · rename_i hqueue
      have hempty := (List.perm_insertionSort (· ≤ ·) waiting.2).symm
      rw [hqueue, List.perm_nil] at hempty
      exact ⟨⟨_, _, hs⟩, hs.complete h hempty⟩
    · rename_i current rest hqueue
      obtain ⟨item, released, hitem, hround, hfold⟩ := hs.round h hqueue
      rw [hitem]
      simp only [Option.toList_some, hfold]
      refine ih hround ?_
      rw [List.length_append, List.length_singleton]
      omega

/-- **The order**: all sections, each after its dependencies. -/
theorem topologicalSort_spec :
    (topologicalSort schema).Perm schema.sections ∧
      ∀ before item after, topologicalSort schema = before ++ item :: after →
        ∀ dep ∈ item.dependsOn, dep ∈ taken before := by
  have hdegree (id : String) :
      inDegree schema id = (schema.dependencies id).countP (· ∉ taken []) := by
    refine List.countP_congr fun dep hdep => ?_
    simp [taken, (mem_ids_of_dependencies h hdep).2]
  have hstart : Sorting schema (inDegree schema)
      (schema.ids.filter fun id => inDegree schema id = 0) [] := by
    refine ⟨by simp, List.nodup_nil, by simp, funext hdegree, h.keyed.filter _, fun id => ?_⟩
    rw [List.mem_filter, decide_eq_true_eq, hdegree, countP_notMem_eq_zero]
    simp [taken]
  obtain ⟨⟨_, _, hs⟩, hall⟩ :=
    @sortLoop_spec schema [] h schema.sections.length (_, _) hstart (Nat.zero_add _)
  refine ⟨(List.perm_ext_iff_of_nodup hs.nodup.of_map h.keyed.of_map).mpr fun item => ?_,
    hs.ordered⟩
  refine ⟨hs.sections item, fun hitem => ?_⟩
  obtain ⟨other, hother, hid⟩ := List.mem_map.mp (hall item.id (List.mem_map_of_mem hitem))
  rwa [← Table.Keyed.eq_of_key_eq h.keyed (hs.sections other hother) hitem hid]

omit h

/-! ### Filling the planned sections -/

/-- The session accepts the fills, one after the other. -/
def Accepts (E : TextEngine) : ReportSession → List (String × Value) → Prop
  | _, [] => True
  | session, fill :: fills => (session.fillSection E fill.1 fill.2).1.success = true ∧
    Accepts E (session.fillSection E fill.1 fill.2).2 fills

/-- The plan has a place for every section; a planned section has a plan, stands after what it
depends on, and is not refused for it when the fills before it were accepted. -/
structure PlansFillable (schema : DependencyTreeSchema) (docs : SourceDocs)
    (config : PlannerConfig) : Prop where
  placed : ((buildExecutionPlan schema docs config).sectionOrder ++
    (buildExecutionPlan schema docs config).skippedSections).Perm schema.ids
  planned : ∀ id ∈ (buildExecutionPlan schema docs config).sectionOrder,
    id ∈ (buildExecutionPlan schema docs config).sectionPlans.map (·.1)
  earlier : ∀ before id after,
    (buildExecutionPlan schema docs config).sectionOrder = before ++ id :: after →
      ∀ dep ∈ schema.dependencies id, dep ∈ before
  unrefused : ∀ before id after,
    (buildExecutionPlan schema docs config).sectionOrder = before ++ id :: after →
      ∀ E rules rubric session fills, ReportSession.create schema rules rubric = .ok session →
        fills.map (·.1) = before → Accepts E session fills →
          ∀ item, schema.sectionOf id = some item →
            ((ReportSession.calls E).run session fills).dependencyIssues item = []

lemma filled_of_accepts {E : TextEngine} {session : ReportSession} {fills : List (String × Value)}
    (h : Accepts E session fills) (hnodup : (fills.map (·.1)).Nodup)
    (hfresh : ∀ id ∈ fills.map (·.1), ¬ session.Filled id)
    (hid : session.Filled id ∨ id ∈ fills.map (·.1)) :
    ((ReportSession.calls E).run session fills).Filled id := by
  induction fills generalizing session with
  | nil => exact hid.resolve_right (by simp)
  | cons fill fills ih =>
    obtain ⟨hsuccess, hrest⟩ := h
    obtain ⟨hnew, hnodup⟩ := List.nodup_cons.mp hnodup
    obtain ⟨hempty, hfresh⟩ := List.forall_mem_cons.mp hfresh
    rcases ReportSession.fillSection_cases E session fill.1 fill.2 with
      ⟨hrefused, -⟩ | ⟨fields, -, -, -, -, hstored⟩
    · rw [hrefused] at hsuccess
      cases hsuccess
    · have hdiffers : ¬ session.Differs fill.1 fields := by
        have hnone : session.filled fill.1 = none := by simpa [ReportSession.Filled] using hempty
        simp [ReportSession.Differs, hnone]
      have hfilled (other : String) : (session.stored fill.1 fields).Filled other ↔
          other = fill.1 ∨ session.Filled other := by
        by_cases hother : other = fill.1
        · subst hother
          simp [ReportSession.Filled, ReportSession.stored_filled_self]
        · rw [ReportSession.Filled, ReportSession.stored_filled_of_ne hother,
            ReportSession.invalidatedBy, if_neg hdiffers]
          simp [hother, ReportSession.Filled]
      change ((ReportSession.calls E).run (session.fillSection E fill.1 fill.2).2 fills).Filled id
      rw [hstored] at hrest ⊢
      refine ih hrest hnodup (fun other hother => ?_) ?_
      · rw [hfilled]
        rintro (rfl | hin)
        · exact hnew hother
        · exact hfresh other hother hin
      · rw [hfilled]
        rcases hid with hid | hid
        · exact .inl (.inr hid)
        · exact (List.mem_cons.mp hid).imp .inl fun hin => hin

section Plan

variable {docs : SourceDocs} {config : PlannerConfig}

lemma sectionOrder_eq (h : schema.WellFormed) :
    (buildExecutionPlan schema docs config).sectionOrder =
      ((topologicalSort schema).filter fun item => ¬ Skipped item).map (·.id) := by
  have hkeyed : Table.Keyed (·.id) (topologicalSort schema) :=
    ((topologicalSort_spec h).1.map _).nodup_iff.mpr h.keyed
  change ((topologicalSort schema).map (·.id)).filter _ = _
  rw [List.filter_map]
  refine congrArg _ (List.filter_congr fun item hitem => ?_)
  refine decide_eq_decide.mpr (not_congr ⟨fun hin => ?_, fun hskip => ?_⟩)
  · obtain ⟨other, hother, hid⟩ := List.mem_map.mp hin
    obtain ⟨hmem, hskip⟩ := List.mem_filter.mp hother
    rw [← hkeyed.eq_of_key_eq hmem hitem hid]
    exact of_decide_eq_true hskip
  · exact List.mem_map_of_mem (List.mem_filter.mpr ⟨hitem, decide_eq_true hskip⟩)

/-- When no planned section depends on one that is skipped, each stands after what it depends
on. -/
lemma mem_before (h : schema.WellFormed)
    (hclosed : ∀ item ∈ schema.sections, ¬ Skipped item → ∀ dep ∈ item.dependsOn,
      ∀ other ∈ schema.sections, other.id = dep → ¬ Skipped other) {before after : List String}
    (horder : (buildExecutionPlan schema docs config).sectionOrder = before ++ id :: after) :
    ∀ dep ∈ schema.dependencies id, dep ∈ before := by
  obtain ⟨hperm, hordered⟩ := topologicalSort_spec h
  rw [sectionOrder_eq h, List.map_eq_append_iff] at horder
  obtain ⟨planned, rest, hsplit, rfl, hrest⟩ := horder
  obtain ⟨item, rest, rfl, rfl, -⟩ := List.map_eq_cons_iff.mp hrest
  obtain ⟨first, last, hsort, hfirst, hlast⟩ := List.filter_eq_append_iff.mp hsplit
  obtain ⟨skipped, last, rfl, hskipped, hitem, -⟩ := List.filter_eq_cons_iff.mp hlast
  have hsort : topologicalSort schema = (first ++ skipped) ++ item :: last := by simpa using hsort
  have hmem : item ∈ schema.sections := hperm.mem_iff.mp (by simp [hsort])
  rw [h.dependencies_eq hmem]
  intro dep hdep
  obtain ⟨other, hother, hid⟩ := List.mem_map.mp (hordered _ item last hsort dep hdep)
  have hactive := hclosed item hmem (of_decide_eq_true hitem) dep hdep other
    (hperm.mem_iff.mp (by rw [hsort]; exact List.mem_append_left _ hother)) hid
  rcases List.mem_append.mp hother with hother | hother
  · rw [← hid, ← hfirst]
    exact List.mem_map_of_mem (List.mem_filter.mpr ⟨hother, decide_eq_true hactive⟩)
  · exact absurd (decide_eq_true hactive) (hskipped other hother)

/-- **Every planned section can be filled** in its turn, in an accepted schema, if and only if no
planned section depends on one that is skipped. -/
theorem plansFillable_iff (schema : DependencyTreeSchema) (docs : SourceDocs)
    (config : PlannerConfig) (h : validateReportSchema schema = .ok ()) :
    PlansFillable schema docs config ↔
      ∀ item ∈ schema.sections, ¬ Skipped item → ∀ dep ∈ item.dependsOn,
        ∀ other ∈ schema.sections, other.id = dep → ¬ Skipped other := by
  have h := validateReportSchema_eq_ok h
  obtain ⟨hperm, -⟩ := topologicalSort_spec h
  have hmem {id : String} : id ∈ (buildExecutionPlan schema docs config).sectionOrder ↔
      ∃ item ∈ schema.sections, ¬ Skipped item ∧ item.id = id := by
    rw [sectionOrder_eq h, List.mem_map]
    exact exists_congr fun item => by simp [hperm.mem_iff, and_assoc]
  constructor
  · intro hplans item hitem hactive dep hdep other hother hid hskip
    obtain ⟨before, after, horder⟩ := List.append_of_mem (hmem.mpr ⟨item, hitem, hactive, rfl⟩)
    have hbefore := hplans.earlier before item.id after horder dep
      (by rwa [h.dependencies_eq hitem])
    obtain ⟨same, hsame, hactive', hkey⟩ :=
      hmem.mp (horder ▸ List.mem_append_left _ hbefore)
    obtain rfl := h.keyed.eq_of_key_eq hsame hother (hkey.trans hid.symm)
    exact hactive' hskip
  · intro hclosed
    refine ⟨?_, fun id hid => ?_, fun before id after => mem_before h hclosed, ?_⟩
    · rw [sectionOrder_eq h]
      refine List.perm_append_comm.trans (List.Perm.trans ?_ (hperm.map (·.id)))
      change (((topologicalSort schema).filter fun item => Skipped item).map (·.id) ++ _).Perm _
      rw [← List.map_append]
      refine List.Perm.map _ ?_
      simpa using List.filter_append_perm (fun item => decide (Skipped item)) (topologicalSort schema)
    · rw [sectionOrder_eq h] at hid
      simpa [buildExecutionPlan] using hid
    · rintro before id after horder E rules rubric session fills hcreate rfl haccepts item hitem
      obtain ⟨-, rfl⟩ := ReportSession.create_eq_ok hcreate
      obtain ⟨hsection, rfl⟩ := Table.mem_of_lookup hitem
      have hnodup : (buildExecutionPlan schema docs config).sectionOrder.Nodup := by
        rw [sectionOrder_eq h]
        exact ((List.filter_sublist.map _).nodup ((hperm.map _).nodup_iff.mpr h.keyed))
      rw [horder] at hnodup
      refine ReportSession.dependencyIssues_eq_nil.mpr fun dep hdep => ?_
      refine filled_of_accepts haccepts (List.nodup_append.mp hnodup).1 (fun _ _ => ?_) (.inr ?_)
      · simp [ReportSession.Filled]
      · exact mem_before h hclosed horder dep (by rwa [h.dependencies_eq hsection])

/-- The plan of a report whose conclusion stands on its summary. -/
theorem plansFillable_briefReport :
    PlansFillable briefReport ⟨[], List.nodup_nil⟩ .default :=
  (plansFillable_iff briefReport _ _ (by decide +kernel)).mpr (by decide +kernel)

end Plan

/-- A summary of fees that are filled in elsewhere. -/
def feeReport : DependencyTreeSchema where
  sections :=
    [{ id := "fees", generationMode := some "external" },
      { id := "summary", dependsOn := ["fees"] }]

/-- **A summary that is planned** and stands on an external section, which the plan skips. -/
theorem not_plansFillable_feeReport : validateReportSchema feeReport = .ok () ∧
    ¬ PlansFillable feeReport ⟨[], List.nodup_nil⟩ .default := by
  refine ⟨by decide +kernel, fun h => ?_⟩
  have hbefore := h.earlier [] "summary" [] (by decide +kernel) "fees" (by decide +kernel)
  cases hbefore

end AecBench.LambdaRlm
