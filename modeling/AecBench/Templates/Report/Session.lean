import AecBench.Lib.Machine
import AecBench.Lib.Wire
import AecBench.Templates.Report.Schema

/-!
# Report sessions

A session over an accepted schema. A section is filled with a content that passes the checks of its
fields and of the public rules, and only after the sections it depends on. A content that changes
takes the sections filled on top of it away.

## Main definitions

* `ReportSession` — the schema, the rules, the rubric and the filled sections.
* `ReportSession.validateSection`, `ReportSession.fillSection`, `ReportSession.getStatus`,
  `ReportSession.submit` — the methods of a session.
* `ReportSession.Sound` — what is filled is valid, and stands on what is filled.
* `FillsExactly`, `Partitioned`, `SubmitsValid` — what the methods promise.

## Main results

* `sound_run` — every sequence of calls keeps a session sound.
* `report_session_sound` — the promises hold after every sequence of calls.

## Implementation notes

* The regular expressions of the rules and the text of a float are outside the model: `TextEngine`
  stands for both.
-/

namespace AecBench.Templates.Report

open Validation Wire

/-! ### Rules -/

/-- What a rule checks; only a pattern rule has a pattern. -/
inductive RuleCheck where
  | requiredPattern (pattern : String)
  | forbiddenPattern (pattern : String)
  | prose

inductive RuleSeverity where
  | error
  | warning
  deriving DecidableEq

structure ReportRule where
  id : String
  check : RuleCheck
  message : String
  severity : RuleSeverity := .error
  sections : List String := []
  field : Option String := none

def RuleCheck.pattern? : RuleCheck → Option String
  | .requiredPattern pattern => some pattern
  | .forbiddenPattern pattern => some pattern
  | .prose => none

/-- What `re` and `float.__repr__` do. -/
structure TextEngine where
  search : String → CodeText → Bool
  floatText : ℚ → CodeText

/-! ### Sessions -/

structure ReportSession where
  schema : DependencyTreeSchema
  rules : List ReportRule
  rubric : Option Rubric
  /-- The content of each filled section. -/
  filled : String → Option Object

/-- A rule names sections of the report, and a field that all of them have. -/
def validateRule (schema : DependencyTreeSchema) (rule : ReportRule) : Except String Unit :=
  (if rule.sections.isEmpty then schema.ids else rule.sections).forM fun sectionId =>
    match schema.sectionOf sectionId with
    | none => .error ("Unknown rule section: " ++ sectionId)
    | some item =>
      require (∀ field ∈ rule.field, field ∈ item.fields.map Prod.fst)
        ("Unknown rule field: " ++ sectionId ++ "." ++ rule.field.getD "")

/-- `ReportSession(schema, rules=rules, rubric=rubric)`. -/
def ReportSession.create (schema : DependencyTreeSchema) (rules : List ReportRule)
    (rubric : Option Rubric) : Except String ReportSession := do
  validateReportSchema schema
  validateRubric schema rubric
  rules.forM (validateRule schema)
  return { schema, rules, rubric, filled := fun _ => none }

/-! ### Validation of a section -/

structure ValidationIssue where
  ruleId : String
  message : String
  field : Option String := none

structure ValidationResult where
  errors : List ValidationIssue := []
  warnings : List ValidationIssue := []
  unchecked : List ValidationIssue := []

/-- `result.valid`. -/
def ValidationResult.Valid (result : ValidationResult) : Prop := result.errors = []

instance decidableValid (result : ValidationResult) : Decidable result.Valid :=
  inferInstanceAs (Decidable (_ = _))

/-- `_matches_type(value, dtype)`, for a type of `FIELD_TYPES`. -/
def matchesType (value : Value) (dtype : String) : Bool :=
  match value with
  | .str _ => dtype ∈ ["str", "table"]
  | .int _ => dtype ∈ ["int", "float"]
  | .float _ | .special _ => dtype = "float"
  | .bool _ => dtype = "bool"
  | .array _ => dtype ∈ ["list", "table"]
  | .object _ => dtype = "dict"
  | .null => false

/-- A value that does not fill a required field. -/
def Missing : Value → Prop
  | .null => True
  | .str t => t.Blank
  | .array items => items = []
  | .object fields => fields = []
  | _ => False

instance decidableMissing : DecidablePred Missing
  | .null => isTrue trivial
  | .str t => inferInstanceAs (Decidable t.Blank)
  | .array [] => isTrue rfl
  | .array (_ :: _) => isFalse (List.cons_ne_nil _ _)
  | .object [] => isTrue rfl
  | .object (_ :: _) => isFalse (List.cons_ne_nil _ _)
  | .bool _ | .int _ | .float _ | .special _ => isFalse id

/-- What is wrong with one field of a content. -/
def fieldIssue (content : Object) (field : String × OutputField) : Option ValidationIssue :=
  let (name, spec) := field
  let value := Wire.get content name
  if spec.required ∧ Missing value then
    some ⟨"required", "Required field: " ++ name, some name⟩
  else if (content.lookup (text name)).isSome ∧ matchesType value spec.dtype = false then
    some ⟨"type", "Field " ++ name ++ " must have type " ++ spec.dtype, some name⟩
  else none

/-- What one rule has to say about a content. -/
inductive Finding where
  | error (issue : ValidationIssue)
  | warning (issue : ValidationIssue)
  | unchecked (issue : ValidationIssue)

/-- `self._patterns[rule.id]`: of the patterns with one id the last was kept. -/
def compiledPattern (rules : List ReportRule) (rule : ReportRule) (own : String) : String :=
  (((rules.filter (·.id = rule.id)).filterMap (·.check.pattern?)).getLast?).getD own

/-- The text a rule is checked on: a field, or the whole content. -/
def ruleText (E : TextEngine) (content : Object) (rule : ReportRule) : CodeText :=
  let target : Value :=
    match rule.field with
    | none | some "" => .object content
    | some field => (content.lookup (text field)).getD (.str [])
  match target with
  | .str t => t
  | value => value.dumps E.floatText

/-- The check of one rule on the content of a section. -/
def ruleFinding (E : TextEngine) (rules : List ReportRule) (sectionId : String) (content : Object)
    (rule : ReportRule) : Option Finding :=
  let issue : ValidationIssue := ⟨rule.id, rule.message, rule.field⟩
  let broken := match rule.severity with
    | .error => Finding.error issue
    | .warning => Finding.warning issue
  if rule.sections ≠ [] ∧ sectionId ∉ rule.sections then none
  else match rule.check with
    | .prose => some (.unchecked issue)
    | .requiredPattern own =>
      if E.search (compiledPattern rules rule own) (ruleText E content rule) then none
      else some broken
    | .forbiddenPattern own =>
      if E.search (compiledPattern rules rule own) (ruleText E content rule) then some broken
      else none

namespace ReportSession

variable (E : TextEngine) (session : ReportSession)

/-- `section_id in self._filled`. -/
def Filled (sectionId : String) : Prop := (session.filled sectionId).isSome = true

instance decidableFilled (sectionId : String) : Decidable (session.Filled sectionId) :=
  inferInstanceAs (Decidable (_ = _))

/-- The dependencies that are not filled yet. -/
def dependencyIssues (item : TreeSection) : List ValidationIssue :=
  (item.dependsOn.filter fun dep => ¬ session.Filled dep).map fun dep =>
    ⟨"dependency", "Section " ++ item.id ++ " depends on unfilled section " ++ dep, none⟩

def findings (item : TreeSection) (content : Object) : List Finding :=
  session.rules.filterMap (ruleFinding E session.rules item.id content)

/-- The errors of a content that do not depend on what is filled. -/
def contentErrors (item : TreeSection) (content : Object) : List ValidationIssue :=
  item.fields.filterMap (fieldIssue content) ++
    (session.findings E item content).filterMap fun
      | .error issue => some issue
      | _ => none

/-- `validate_section(section_id, content)`. -/
def validateSection (sectionId : String) (content : Value) : ValidationResult :=
  match session.schema.sectionOf sectionId with
  | none => { errors := [⟨"section", "Unknown section: " ++ sectionId, none⟩] }
  | some item =>
    match content with
    | .object fields =>
      if content.finite = false then
        { errors := [⟨"fields", "Section fields must be finite JSON values", none⟩] }
      else
        { errors := session.dependencyIssues item ++ session.contentErrors E item fields
          warnings := (session.findings E item fields).filterMap fun
            | .warning issue => some issue
            | _ => none
          unchecked := (session.findings E item fields).filterMap fun
            | .unchecked issue => some issue
            | _ => none }
    | _ => { errors := [⟨"fields", "Section content must be a field dictionary", none⟩] }

/-! ### Filling a section -/

structure FillResult where
  success : Bool
  error : String := ""
  validation : ValidationResult := {}
  invalidated : List String := []

/-- The section is filled, and its content is not equal to the new one. -/
def Differs (sectionId : String) (fields : Object) : Prop :=
  (session.filled sectionId).any (fun stored =>
    !(Value.object stored).eq (.object fields)) = true

instance decidableDiffers (sectionId : String) (fields : Object) :
    Decidable (session.Differs sectionId fields) :=
  inferInstanceAs (Decidable (_ = _))

/-- The sections that a new content takes away: everything filled that depends on the section. -/
def invalidatedBy (sectionId : String) (fields : Object) : List String :=
  if session.Differs sectionId fields then
    let changed := Dependants.collect session.schema.dependencies session.schema.ids
      session.schema.ids.length [sectionId]
    session.schema.ids.filter fun other =>
      other ∈ changed ∧ other ≠ sectionId ∧ session.Filled other
  else []

/-- The session after a content is accepted. -/
def stored (sectionId : String) (fields : Object) : ReportSession :=
  { session with
    filled := Function.update
      (fun other => if other ∈ session.invalidatedBy sectionId fields then none
        else session.filled other)
      sectionId (some fields) }

/-- `fill_section(section_id, content)`, with the session after it. -/
def fillSection (sectionId : String) (content : Value) : FillResult × ReportSession :=
  let validation := session.validateSection E sectionId content
  match content with
  | .object fields =>
    if validation.Valid then
      ({ success := true, validation, invalidated := session.invalidatedBy sectionId fields },
        session.stored sectionId fields)
    else
      ({ success := false, error := "; ".intercalate (validation.errors.map (·.message)),
         validation }, session)
  | _ =>
    ({ success := false, error := "; ".intercalate (validation.errors.map (·.message)),
       validation }, session)

/-! ### Status and submission -/

structure TemplateStatus where
  totalSections : ℕ
  completedSections : ℕ
  unlocked : List String
  pending : List String
  completed : List String
  blocked : List String

/-- `get_status()`. -/
def getStatus : TemplateStatus :=
  let completed := (session.schema.sections.filter fun s => session.Filled s.id).map (·.id)
  let pending := (session.schema.sections.filter fun s => ¬ session.Filled s.id).map (·.id)
  let unlocked := (session.schema.sections.filter fun s =>
    ¬ session.Filled s.id ∧ ∀ d ∈ s.dependsOn, session.Filled d).map (·.id)
  { totalSections := session.schema.sections.length
    completedSections := completed.length
    unlocked, pending, completed
    blocked := pending.filter (· ∉ unlocked) }

structure SubmissionResult where
  complete : Bool
  sections : List (String × Object)
  gaps : List String
  diagnostics : List (String × ValidationResult)

/-- The filled sections with their contents, in the order of the schema. -/
def filledSections : List (String × Object) :=
  session.schema.ids.filterMap fun sectionId =>
    (session.filled sectionId).map fun fields => (sectionId, fields)

/-- `submit()`. -/
def submit : SubmissionResult :=
  let gaps := session.schema.ids.filter fun sectionId => ¬ session.Filled sectionId
  let diagnostics := session.filledSections.map fun (sectionId, fields) =>
    (sectionId, session.validateSection E sectionId (.object fields))
  { complete := gaps = [] ∧ ∀ d ∈ diagnostics, d.2.Valid
    sections := session.filledSections
    gaps, diagnostics }

/-- The calls of `fill_section` on a session. -/
def calls : Machine ReportSession (String × Value) where
  step session call := (session.fillSection E call.1 call.2).2

/-! ### Soundness -/

/-- What is filled is a section, is valid, and stands on what is filled. -/
structure Sound : Prop where
  wellFormed : session.schema.WellFormed
  known : ∀ sectionId, session.Filled sectionId → sectionId ∈ session.schema.ids
  grounded : ∀ item ∈ session.schema.sections, session.Filled item.id →
    ∀ dep ∈ item.dependsOn, session.Filled dep
  valid : ∀ item ∈ session.schema.sections, ∀ fields, session.filled item.id = some fields →
    (Value.object fields).finite = true ∧ session.contentErrors E item fields = []

variable {E} {session} {sectionId : String} {fields : Object}

lemma dependencyIssues_eq_nil {item : TreeSection} :
    session.dependencyIssues item = [] ↔ ∀ dep ∈ item.dependsOn, session.Filled dep := by
  simp [dependencyIssues, List.filter_eq_nil_iff]

lemma sectionOf_eq_some (hkeyed : Table.Keyed (·.id) session.schema.sections)
    {item : TreeSection} :
    session.schema.sectionOf sectionId = some item ↔
      item ∈ session.schema.sections ∧ item.id = sectionId := by
  constructor
  · exact Table.mem_of_lookup
  · rintro ⟨hitem, rfl⟩
    exact hkeyed.lookup_of_mem hitem

lemma validateSection_valid (hkeyed : Table.Keyed (·.id) session.schema.sections) :
    (session.validateSection E sectionId (.object fields)).Valid ↔
      ∃ item ∈ session.schema.sections, item.id = sectionId ∧
        (∀ dep ∈ item.dependsOn, session.Filled dep) ∧
        (Value.object fields).finite = true ∧ session.contentErrors E item fields = [] := by
  cases hfound : session.schema.sectionOf sectionId with
  | none =>
    have hnone := Table.lookup_eq_none_iff.mp hfound
    constructor
    · intro h
      simp [validateSection, hfound, ValidationResult.Valid] at h
    · rintro ⟨item, hitem, hid, -⟩
      exact absurd hid (hnone item hitem)
  | some item =>
    obtain ⟨hitem, hid⟩ := (sectionOf_eq_some hkeyed).mp hfound
    have honly : ∀ other ∈ session.schema.sections, other.id = sectionId → other = item :=
      fun other hother hsame => hkeyed.eq_of_key_eq hother hitem (hsame.trans hid.symm)
    by_cases hfinite : (Value.object fields).finite = true
    · have hvalid : (session.validateSection E sectionId (.object fields)).Valid ↔
          (∀ dep ∈ item.dependsOn, session.Filled dep) ∧
            session.contentErrors E item fields = [] := by
        simp [validateSection, hfound, hfinite, ValidationResult.Valid, dependencyIssues_eq_nil]
      rw [hvalid]
      constructor
      · rintro ⟨hdeps, hcontent⟩
        exact ⟨item, hitem, hid, hdeps, hfinite, hcontent⟩
      · rintro ⟨other, hother, hsame, hdeps, -, hcontent⟩
        obtain rfl := honly other hother hsame
        exact ⟨hdeps, hcontent⟩
    · constructor
      · intro h
        simp [validateSection, hfound, hfinite, ValidationResult.Valid] at h
      · rintro ⟨other, -, -, -, hother, -⟩
        exact absurd hother hfinite

/-- What a call does: a refused call does nothing, and an accepted call stores its fields. -/
lemma fillSection_cases (E : TextEngine) (session : ReportSession) (sectionId : String)
    (content : Value) :
    ((session.fillSection E sectionId content).1.success = false ∧
        (session.fillSection E sectionId content).2 = session) ∨
      ∃ fields, content = .object fields ∧
        (session.validateSection E sectionId (.object fields)).Valid ∧
        (session.fillSection E sectionId content).1.success = true ∧
        (session.fillSection E sectionId content).1.invalidated =
          session.invalidatedBy sectionId fields ∧
        (session.fillSection E sectionId content).2 = session.stored sectionId fields := by
  cases content with
  | object fields =>
    by_cases hvalid : (session.validateSection E sectionId (.object fields)).Valid
    · exact .inr ⟨fields, rfl, hvalid, by simp [fillSection, hvalid], by simp [fillSection, hvalid],
        by simp [fillSection, hvalid]⟩
    · exact .inl ⟨by simp [fillSection, hvalid], by simp [fillSection, hvalid]⟩
  | _ => exact .inl ⟨rfl, rfl⟩

/-- A section that a new content of another one takes away. -/
def TakenAway (session : ReportSession) (sectionId : String) (fields : Object)
    (other : String) : Prop :=
  session.Differs sectionId fields ∧ session.Filled other ∧
    Dependants.Leads session.schema.dependencies session.schema.ids sectionId other

lemma mem_invalidatedBy (hformed : session.schema.WellFormed)
    (hid : sectionId ∈ session.schema.ids) {other : String} :
    other ∈ session.invalidatedBy sectionId fields ↔
      session.TakenAway sectionId fields other := by
  obtain ⟨rank, hranked⟩ := hformed.ranked
  by_cases hdiffers : session.Differs sectionId fields
  · rw [invalidatedBy, if_pos hdiffers]
    simp only [List.mem_filter, decide_eq_true_eq, Dependants.mem_collect, List.mem_singleton,
      TakenAway, hdiffers, true_and]
    constructor
    · rintro ⟨-, hchanged, hne, hfilled⟩
      obtain ⟨c, rfl, hleads⟩ := hchanged.resolve_left hne
      exact ⟨hfilled, hleads⟩
    · rintro ⟨hfilled, hleads⟩
      refine ⟨?_, .inr ⟨sectionId, rfl, hleads⟩, ?_, hfilled⟩
      · cases hleads with
        | single hstep | tail _ hstep => exact hstep.1
      · rintro rfl
        exact hranked.not_leads_self hid hleads
  · simp [invalidatedBy, TakenAway, hdiffers]

lemma stored_filled_self : (session.stored sectionId fields).filled sectionId = some fields := by
  simp [stored]

lemma stored_filled_of_ne {other : String} (hne : other ≠ sectionId) :
    (session.stored sectionId fields).filled other =
      if other ∈ session.invalidatedBy sectionId fields then none else session.filled other := by
  simp [stored, Function.update_of_ne hne]

/-- **One call** keeps a session sound: what a new content takes away takes everything that stands
on it along, and nothing else loses a dependency. -/
lemma Sound.fillSection (h : session.Sound E) (sectionId : String) (content : Value) :
    (session.fillSection E sectionId content).2.Sound E := by
  rcases fillSection_cases E session sectionId content with
    ⟨-, hsame⟩ | ⟨fields, rfl, hvalid, -, -, hstored⟩
  · rwa [hsame]
  obtain ⟨item, hitem, hid, hdeps, hfinite, hcontent⟩ :=
    (validateSection_valid h.wellFormed.keyed).mp hvalid
  have hsection : sectionId ∈ session.schema.ids := DependencyTreeSchema.mem_ids.mpr ⟨item, hitem, hid⟩
  have hinvalidated : ∀ other, other ∈ session.invalidatedBy sectionId fields ↔
      session.TakenAway sectionId fields other :=
    fun other => mem_invalidatedBy h.wellFormed hsection
  rw [hstored]
  have hfilled : ∀ other, other ≠ sectionId → ((session.stored sectionId fields).Filled other ↔
      session.Filled other ∧ other ∉ session.invalidatedBy sectionId fields) := by
    intro other hne
    unfold Filled
    rw [stored_filled_of_ne hne]
    by_cases hout : other ∈ session.invalidatedBy sectionId fields <;> simp [hout]
  have hself : (session.stored sectionId fields).Filled sectionId := by
    unfold Filled
    rw [stored_filled_self]
    rfl
  refine ⟨h.wellFormed, ?_, ?_, ?_⟩
  · intro other hother
    by_cases hne : other = sectionId
    · exact hne ▸ hsection
    · exact h.known other ((hfilled other hne).mp hother).1
  · intro other hother hin dep hdep
    by_cases hdepself : dep = sectionId
    · exact hdepself ▸ hself
    rw [hfilled dep hdepself]
    by_cases hotherself : other.id = sectionId
    · -- a dependency of the section itself is no dependant of it
      obtain rfl := h.wellFormed.keyed.eq_of_key_eq hother hitem (hotherself.trans hid.symm)
      refine ⟨hdeps dep hdep, ?_⟩
      rw [hinvalidated]
      rintro ⟨-, -, hleads⟩
      obtain ⟨rank, hranked⟩ := h.wellFormed.ranked
      refine hranked.not_leads_self hsection (hleads.tail ⟨hsection, ?_⟩)
      rw [← hotherself, h.wellFormed.dependencies_eq hother]
      exact hdep
    · obtain ⟨hbefore, hkept⟩ := (hfilled other.id hotherself).mp hin
      refine ⟨h.grounded other hother hbefore dep hdep, ?_⟩
      intro hout
      obtain ⟨hdiffers, -, hleads⟩ := (hinvalidated dep).mp hout
      refine hkept ((hinvalidated other.id).mpr ⟨hdiffers, hbefore, hleads.tail ⟨?_, ?_⟩⟩)
      · exact DependencyTreeSchema.mem_ids.mpr ⟨other, hother, rfl⟩
      · rw [h.wellFormed.dependencies_eq hother]
        exact hdep
  · intro other hother kept hkept
    by_cases hne : other.id = sectionId
    · obtain rfl := h.wellFormed.keyed.eq_of_key_eq hother hitem (hne.trans hid.symm)
      rw [hne, stored_filled_self] at hkept
      obtain rfl := Option.some.inj hkept
      exact ⟨hfinite, hcontent⟩
    · rw [stored_filled_of_ne hne] at hkept
      split_ifs at hkept with hout
      exact h.valid other hother kept hkept

lemma create_eq_ok {schema : DependencyTreeSchema} {rules : List ReportRule}
    {rubric : Option Rubric} (h : create schema rules rubric = .ok session) :
    schema.WellFormed ∧ session = { schema, rules, rubric, filled := fun _ => none } := by
  simp only [create, unit_bind_eq_ok, pure_eq_ok] at h
  exact ⟨validateReportSchema_eq_ok h.1, h.2.2.2.symm⟩

lemma sound_create (E : TextEngine) {schema : DependencyTreeSchema} {rules : List ReportRule}
    {rubric : Option Rubric} (h : create schema rules rubric = .ok session) :
    session.Sound E := by
  obtain ⟨hformed, rfl⟩ := create_eq_ok h
  refine ⟨hformed, ?_, ?_, ?_⟩
  · intro sectionId hfilled
    simp [Filled] at hfilled
  · intro item _ hfilled
    simp [Filled] at hfilled
  · intro item _ fields hfields
    simp at hfields

/-- **Every sequence of calls** keeps a session sound. -/
theorem sound_run (h : session.Sound E) (sequence : List (String × Value)) :
    ((calls E).run session sequence).Sound E :=
  (calls E).run_preserves_of_forall (C := fun _ => True)
    (fun _ call hs _ => hs.fillSection call.1 call.2) h fun _ _ => trivial

lemma schema_run (sequence : List (String × Value)) :
    ((calls E).run session sequence).schema = session.schema := by
  induction sequence generalizing session with
  | nil => rfl
  | cons call sequence ih =>
    rw [Machine.run_cons, ih]
    show (session.fillSection E call.1 call.2).2.schema = session.schema
    rcases fillSection_cases E session call.1 call.2 with ⟨-, hsame⟩ | ⟨fields, -, -, -, -, hstored⟩
    · rw [hsame]
    · rw [hstored]
      rfl

end ReportSession

/-! ### The promises of a session -/

/-- Every filled section has all its dependencies filled. -/
def Grounded (session : ReportSession) : Prop :=
  ∀ item ∈ session.schema.sections, session.Filled item.id →
    ∀ dep ∈ item.dependsOn, session.Filled dep

/-- A refused call leaves the session as it is. An accepted call stores its fields and takes away,
of the other sections, exactly those it reports: the filled dependants, in the order of the schema,
when the content differs from the stored one. -/
def FillsExactly (E : TextEngine) (session : ReportSession) : Prop :=
  ∀ sectionId content,
    let result := (session.fillSection E sectionId content).1
    let next := (session.fillSection E sectionId content).2
    (result.success = false → next = session) ∧
      (result.success = true → ∃ fields, content = .object fields ∧
        next = { session with filled := next.filled } ∧ next.filled sectionId = some fields ∧
        result.invalidated.Sublist session.schema.ids ∧
        (∀ other, other ∈ result.invalidated ↔ session.TakenAway sectionId fields other) ∧
        (∀ other ∈ result.invalidated, next.filled other = none) ∧
        ∀ other ∉ result.invalidated, other ≠ sectionId →
          next.filled other = session.filled other)

/-- Completed, unlocked and blocked sections partition the report, and some section is unlocked
while any is pending. -/
def Partitioned (session : ReportSession) : Prop :=
  let status := session.getStatus
  (status.completed ++ status.unlocked ++ status.blocked).Perm session.schema.ids ∧
    session.schema.ids.Nodup ∧ (status.pending ≠ [] → status.unlocked ≠ []) ∧
    (∀ sectionId, sectionId ∈ status.completed ↔ session.Filled sectionId) ∧
    status.pending.Perm (status.unlocked ++ status.blocked)

/-- A submission checks every filled section, finds no error, and is complete exactly when there
are no gaps. -/
def SubmitsValid (E : TextEngine) (session : ReportSession) : Prop :=
  let result := session.submit E
  (∀ sectionId, session.Filled sectionId ↔ sectionId ∈ result.diagnostics.map Prod.fst) ∧
    (∀ d ∈ result.diagnostics, d.2.errors = []) ∧ (result.complete = true ↔ result.gaps = []) ∧
    (result.gaps = [] ↔ ∀ sectionId ∈ session.schema.ids, session.Filled sectionId)

namespace ReportSession

variable {E : TextEngine} {session : ReportSession}

lemma Sound.fillsExactly (h : session.Sound E) : FillsExactly E session := by
  intro sectionId content
  rcases fillSection_cases E session sectionId content with
    ⟨hrefused, hsame⟩ | ⟨fields, rfl, hvalid, haccepted, hreported, hstored⟩
  · dsimp only
    rw [hrefused, hsame]
    exact ⟨fun _ => rfl, nofun⟩
  · obtain ⟨item, hitem, hid, -⟩ := (validateSection_valid h.wellFormed.keyed).mp hvalid
    have hsection : sectionId ∈ session.schema.ids :=
      DependencyTreeSchema.mem_ids.mpr ⟨item, hitem, hid⟩
    have hmem : ∀ other, other ∈ session.invalidatedBy sectionId fields ↔
        session.TakenAway sectionId fields other :=
      fun other => mem_invalidatedBy h.wellFormed hsection
    dsimp only
    rw [haccepted, hreported, hstored]
    refine ⟨nofun, fun _ => ⟨fields, rfl, rfl, stored_filled_self, ?_, hmem, ?_, ?_⟩⟩
    · unfold invalidatedBy
      split_ifs
      · exact List.filter_sublist
      · exact List.nil_sublist _
    · intro other hother
      have hne : other ≠ sectionId := by
        rintro rfl
        obtain ⟨rank, hranked⟩ := h.wellFormed.ranked
        exact hranked.not_leads_self hsection ((hmem other).mp hother).2.2
      rw [stored_filled_of_ne hne, if_pos hother]
    · intro other hother hne
      rw [stored_filled_of_ne hne, if_neg hother]

lemma Sound.unlocked_ne_nil (h : session.Sound E) (hpending : session.getStatus.pending ≠ []) :
    session.getStatus.unlocked ≠ [] := by
  obtain ⟨rank, hranked⟩ := h.wellFormed.ranked
  have hsub : ∀ sectionId ∈ session.getStatus.pending, sectionId ∈ session.schema.ids := by
    intro sectionId hmem
    obtain ⟨item, hitem, rfl⟩ := List.mem_map.mp hmem
    exact List.mem_map_of_mem (List.mem_filter.mp hitem).1
  obtain ⟨sectionId, hmem, hready⟩ := hranked.exists_ready hsub hpending
  obtain ⟨item, hitem, rfl⟩ := List.mem_map.mp hmem
  obtain ⟨hsection, hopen⟩ := List.mem_filter.mp hitem
  refine List.ne_nil_of_mem (a := item.id) (List.mem_map_of_mem (List.mem_filter.mpr ⟨hsection, ?_⟩))
  simp only [decide_eq_true_eq] at hopen ⊢
  refine ⟨hopen, fun dep hdep => ?_⟩
  by_contra hunfilled
  rw [h.wellFormed.dependencies_eq hsection] at hready
  obtain ⟨other, hother, rfl⟩ :=
    DependencyTreeSchema.mem_ids.mp (h.wellFormed.known item hsection dep hdep)
  exact hready other.id hdep
    (List.mem_map_of_mem (List.mem_filter.mpr ⟨hother, by simpa using hunfilled⟩))

lemma getStatus_pending : session.getStatus.pending =
    (session.schema.sections.filter fun s => ¬ session.Filled s.id).map (·.id) := rfl

lemma Sound.pending_perm (h : session.Sound E) :
    session.getStatus.pending.Perm (session.getStatus.unlocked ++ session.getStatus.blocked) := by
  have hunlocked : session.getStatus.pending.filter (· ∈ session.getStatus.unlocked) =
      session.getStatus.unlocked := by
    have hmem : ∀ item ∈ session.schema.sections,
        (item.id ∈ session.getStatus.unlocked ↔
          ¬ session.Filled item.id ∧ ∀ dep ∈ item.dependsOn, session.Filled dep) := by
      intro item hitem
      constructor
      · intro hin
        obtain ⟨other, hother, hsame⟩ := List.mem_map.mp hin
        obtain ⟨hsection, hopen⟩ := List.mem_filter.mp hother
        obtain rfl := h.wellFormed.keyed.eq_of_key_eq hsection hitem hsame
        simpa using hopen
      · intro hopen
        exact List.mem_map_of_mem (List.mem_filter.mpr ⟨hitem, by simpa using hopen⟩)
    rw [getStatus_pending, List.filter_map, List.filter_filter]
    show _ = (session.schema.sections.filter fun s =>
      ¬ session.Filled s.id ∧ ∀ d ∈ s.dependsOn, session.Filled d).map (·.id)
    congr 1
    apply List.filter_congr
    intro item hitem
    have hiff := hmem item hitem
    by_cases hin : item.id ∈ session.getStatus.unlocked
    · obtain ⟨hopen, hdeps⟩ := hiff.mp hin
      simp only [Function.comp_apply, hin, hopen, decide_true, Bool.and_true, not_false_eq_true,
        true_and]
      exact (decide_eq_true hdeps).symm
    · have hnot : ¬ (¬ session.Filled item.id ∧ ∀ dep ∈ item.dependsOn, session.Filled dep) :=
        fun hopen => hin (hiff.mpr hopen)
      simp [hin, hnot]
  have hsplit := List.filter_append_perm (fun sectionId =>
    decide (sectionId ∈ session.getStatus.unlocked)) session.getStatus.pending
  rw [hunlocked] at hsplit
  refine hsplit.symm.trans (List.Perm.append_left _ ?_)
  refine List.Perm.of_eq ?_
  show _ = session.getStatus.pending.filter (· ∉ session.getStatus.unlocked)
  apply List.filter_congr
  intro sectionId _
  simp

lemma Sound.partitioned (h : session.Sound E) : Partitioned session := by
  refine ⟨?_, h.wellFormed.keyed, h.unlocked_ne_nil, ?_, h.pending_perm⟩
  · have hsplit := (List.filter_append_perm (fun s : TreeSection => decide (session.Filled s.id))
      session.schema.sections).map (·.id)
    rw [List.map_append] at hsplit
    rw [List.append_assoc]
    refine (List.Perm.append_left _ h.pending_perm.symm).trans ?_
    refine List.Perm.trans (List.Perm.of_eq ?_) hsplit
    congr 1
    rw [getStatus_pending]
    congr 1
    apply List.filter_congr
    intro item _
    simp
  · intro sectionId
    constructor
    · intro hmem
      obtain ⟨item, hitem, rfl⟩ := List.mem_map.mp hmem
      simpa using (List.mem_filter.mp hitem).2
    · intro hfilled
      obtain ⟨item, hitem, rfl⟩ := DependencyTreeSchema.mem_ids.mp (h.known sectionId hfilled)
      exact List.mem_map_of_mem (List.mem_filter.mpr ⟨hitem, by simpa using hfilled⟩)

lemma mem_filledSections {sectionId : String} {fields : Object} :
    (sectionId, fields) ∈ session.filledSections ↔
      sectionId ∈ session.schema.ids ∧ session.filled sectionId = some fields := by
  simp only [filledSections, List.mem_filterMap, Option.map_eq_some_iff, Prod.mk.injEq]
  constructor
  · rintro ⟨other, hother, stored, hstored, rfl, rfl⟩
    exact ⟨hother, hstored⟩
  · rintro ⟨hsection, hfields⟩
    exact ⟨sectionId, hsection, fields, hfields, rfl, rfl⟩

lemma Sound.submitsValid (h : session.Sound E) : SubmitsValid E session := by
  have hvalid : ∀ d ∈ (session.submit E).diagnostics, d.2.Valid := by
    intro d hd
    obtain ⟨⟨sectionId, fields⟩, hin, rfl⟩ := List.mem_map.mp hd
    obtain ⟨hsection, hfields⟩ := mem_filledSections.mp hin
    obtain ⟨item, hitem, rfl⟩ := DependencyTreeSchema.mem_ids.mp hsection
    obtain ⟨hfinite, hcontent⟩ := h.valid item hitem fields hfields
    have hfilled : session.Filled item.id := by simp [Filled, hfields]
    exact (validateSection_valid h.wellFormed.keyed).mpr
      ⟨item, hitem, rfl, h.grounded item hitem hfilled, hfinite, hcontent⟩
  refine ⟨?_, hvalid, ?_, ?_⟩
  · intro sectionId
    have hdiagnostics : (session.submit E).diagnostics.map Prod.fst =
        session.filledSections.map Prod.fst := by
      rw [submit, List.map_map]
      rfl
    rw [hdiagnostics, List.mem_map]
    constructor
    · intro hfilled
      obtain ⟨fields, hfields⟩ := Option.isSome_iff_exists.mp hfilled
      exact ⟨(sectionId, fields),
        mem_filledSections.mpr ⟨h.known sectionId hfilled, hfields⟩, rfl⟩
    · rintro ⟨⟨other, fields⟩, hin, rfl⟩
      simp [Filled, (mem_filledSections.mp hin).2]
  · show decide ((session.submit E).gaps = [] ∧ ∀ d ∈ (session.submit E).diagnostics, d.2.Valid) =
      true ↔ _
    rw [decide_eq_true_eq, and_iff_left hvalid]
  · simp [submit, List.filter_eq_nil_iff]

end ReportSession

/-- **The promises of a session hold after every sequence of calls**, for every schema, rules and
rubric that a session can be opened with. -/
theorem report_session_sound (E : TextEngine) {schema : DependencyTreeSchema}
    {rules : List ReportRule} {rubric : Option Rubric} {session : ReportSession}
    (h : ReportSession.create schema rules rubric = .ok session)
    (sequence : List (String × Value)) :
    let reached := (ReportSession.calls E).run session sequence
    reached.schema = schema ∧ Grounded reached ∧ FillsExactly E reached ∧ Partitioned reached ∧
      SubmitsValid E reached := by
  have hsound : ((ReportSession.calls E).run session sequence).Sound E :=
    ReportSession.sound_run (ReportSession.sound_create E h) sequence
  refine ⟨?_, hsound.grounded, hsound.fillsExactly, hsound.partitioned, hsound.submitsValid⟩
  obtain ⟨-, rfl⟩ := ReportSession.create_eq_ok h
  rw [ReportSession.schema_run]

/-- A conclusion that stands on a summary, and a rule on the summary. -/
def briefReport : DependencyTreeSchema where
  sections :=
    [{ id := "summary", fields := [("text", { name := "text", dtype := "str", required := true })] },
      { id := "conclusion", dependsOn := ["summary"] }]

def briefRules : List ReportRule :=
  [{ id := "no-todo", check := .forbiddenPattern "TODO", message := "unfinished text",
     sections := ["summary"] }]

/-- The promises after a summary is filled, the conclusion is filled on it, and the summary is
filled again with another text. -/
theorem briefReport_sound :
    let E : TextEngine := ⟨fun pattern t => t.tails.any (text pattern).isPrefixOf, fun _ => []⟩
    let session : ReportSession := ⟨briefReport, briefRules, none, fun _ => none⟩
    let reached := (ReportSession.calls E).run session
      [("summary", .object [(text "text", .str (text "first"))]), ("conclusion", .object []),
        ("summary", .object [(text "text", .str (text "second"))])]
    reached.schema = briefReport ∧ Grounded reached ∧ FillsExactly E reached ∧
      Partitioned reached ∧ SubmitsValid E reached := by
  have hschema : validateReportSchema briefReport = .ok () := by decide +kernel
  have hrules : briefRules.forM (validateRule briefReport) = .ok () := by decide +kernel
  have hopened : ReportSession.create briefReport briefRules none =
      .ok ⟨briefReport, briefRules, none, fun _ => none⟩ := by
    rfl
  exact report_session_sound _ hopened _

end AecBench.Templates.Report
