import AecBench.Adapters.LambdaRlm.Planner

/-!
# The documents of the planner and of the executor

The planner and the executor each resolve the label of a source to a document. The planner takes
the first document that matches; the executor refuses a label that matches several, and with a
sandbox knows no label but those of the documents themselves.

## Main definitions

* `resolveSourceLabel`, `executorSource` — how the executor resolves a label.
* `Agrees` — the planner and the executor resolve a label to the same text.

## Main results

* `agrees_iff` — when they do.
-/

namespace AecBench.LambdaRlm

structure SourceResolution where
  requested : String
  resolved : Option String
  content : String

/-- `resolve_source_label`. -/
def resolveSourceLabel (docs : SourceDocs) (label : String) : Except String SourceResolution :=
  match docs.named label, docs.prefixMatches label with
  | some entry, _ => .ok ⟨label, some entry.1, entry.2⟩
  | none, [] => .ok ⟨label, none, ""⟩
  | none, [entry] => .ok ⟨label, some entry.1, entry.2⟩
  | none, _ => .error ("Ambiguous source label: " ++ label)

/-- The text of `slice(label, None)` of a sandbox of the documents, unless the label is unknown. -/
def sandboxText (docs : SourceDocs) (label : String) : Option String :=
  (docs.get label).map (·.2)

/-- `PlanExecutor._resolve_source`, with or without a sandbox. -/
def executorSource (docs : SourceDocs) (sandbox : Bool) (label : String) : Except String String :=
  if sandbox then .ok ((sandboxText docs label).getD "")
  else (resolveSourceLabel docs label).map (·.content)

/-- The executor extracts from the text that the planner has planned for, and from none where
the planner found none. -/
structure Agrees (docs : SourceDocs) (config : PlannerConfig) (sandbox : Bool) (label : String) :
    Prop where
  planned : leafOps docs config label ≠ [] →
    ∃ text, executorSource docs sandbox label = .ok text ∧ text ≠ "" ∧
      text = resolveSource docs label
  unplanned : leafOps docs config label = [] → executorSource docs sandbox label = .ok ""

/-- Without a sandbox: some document is named, or at most one matches. With a sandbox: the
document that the planner takes has just this label, or is empty. -/
def Unambiguous (docs : SourceDocs) (label : String) : Bool → Prop
  | false => (docs.named label).isSome ∨ (docs.prefixMatches label).length ≤ 1
  | true => ∀ entry ∈ (docs.named label).or (docs.prefixMatches label).head?,
      entry.1 = label ∨ entry.2 = ""

section Agreement

variable {docs : SourceDocs} {config : PlannerConfig} {label : String} {sandbox : Bool}

lemma agrees_iff_executorSource :
    Agrees docs config sandbox label ↔
      executorSource docs sandbox label = .ok (resolveSource docs label) := by
  constructor
  · intro h
    by_cases hnil : leafOps docs config label = []
    · rw [h.unplanned hnil, leafOps_eq_nil.mp hnil]
    · obtain ⟨text, htext, -, rfl⟩ := h.planned hnil
      exact htext
  · intro h
    refine ⟨fun hplanned => ⟨_, h, mt leafOps_eq_nil.mpr hplanned, rfl⟩, fun hnil => ?_⟩
    rw [h, leafOps_eq_nil.mp hnil]

lemma named_of_get {entry : String × String} (h : docs.get label = some entry) :
    docs.named label = some entry := by
  rw [SourceDocs.named, h, Option.some_or]

lemma mem_of_named {entry : String × String} (h : docs.named label = some entry) :
    entry ∈ docs.entries := by
  rcases Option.or_eq_some_iff.mp h with hget | ⟨-, hget⟩
  · exact (Table.mem_of_lookup hget).1
  · split_ifs at hget
    exact (Table.mem_of_lookup hget).1

lemma executorSource_false : executorSource docs false label = .ok (resolveSource docs label) ↔
    Unambiguous docs label false := by
  rw [executorSource, if_neg (by decide), resolveSourceLabel, resolveSource, Unambiguous]
  cases docs.named label with
  | some entry => simp [Except.map]
  | none =>
    cases docs.prefixMatches label with
    | nil => simp [Except.map]
    | cons entry rest => cases rest <;> simp [Except.map]

lemma executorSource_true : executorSource docs true label = .ok (resolveSource docs label) ↔
    Unambiguous docs label true := by
  rw [executorSource, if_pos rfl, sandboxText, Except.ok.injEq, Unambiguous]
  cases hget : docs.get label with
  | some entry =>
    have hkey := (Table.mem_of_lookup hget).2
    simp [resolveSource, named_of_get hget, hkey]
  | none =>
    rw [resolveSource]
    cases hfound : (docs.named label).or (docs.prefixMatches label).head? with
    | none => simp
    | some entry =>
      have hmem : entry ∈ docs.entries := by
        rcases Option.or_eq_some_iff.mp hfound with hnamed | ⟨-, hhead⟩
        · exact mem_of_named hnamed
        · exact (List.mem_filter.mp (List.mem_of_mem_head? hhead)).1
      have hne : entry.1 ≠ label := fun h => Table.lookup_eq_none_iff.mp hget entry hmem h
      constructor
      · rintro h _ ⟨⟩
        exact .inr h.symm
      · exact fun h => ((h entry rfl).resolve_left hne).symm

/-- **The planner and the executor use the same document** for a label exactly when it is
unambiguous. -/
theorem agrees_iff (docs : SourceDocs) (config : PlannerConfig) (sandbox : Bool) (label : String) :
    Agrees docs config sandbox label ↔ Unambiguous docs label sandbox := by
  rw [agrees_iff_executorSource]
  cases sandbox
  · exact executorSource_false
  · exact executorSource_true

end Agreement

/-- Two reports whose labels start alike. -/
def twoReports : SourceDocs where
  entries := [("report-a", "A"), ("report-b", "B")]
  keyed := by
    rw [Table.Keyed]
    decide

/-- **A label that two documents match** is planned with the first and refused by the executor,
and one with a part after the colon is unknown to a sandbox. -/
theorem not_agrees_report :
    ¬ Agrees twoReports .default false "report" ∧
      ¬ Agrees twoReports .default true "report-a:Scope" := by
  constructor
  all_goals
    intro h
    have htext := congrArg Except.toOption (agrees_iff_executorSource.mp h)
    exact absurd htext (by decide +kernel)

end AecBench.LambdaRlm
