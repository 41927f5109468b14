import Mathlib.Data.List.Forall2
import AecBench.Lib.Text

/-!
# Fallible steps and validated records

Inversion of fallible steps, and the way a record is validated: first every field, each error
under the path of its field, and only when no field has an error the validators of the record
as a whole.

## Main definitions

* `Validation.require` — a check that raises a message when it fails.
* `Validation.FieldError`, `Validation.Errors` — what a validation reports.
* `Validation.record` — the fields of a record, then the record as a whole.
* `Validation.each` — the items of a list.
* `Validation.Model`, `Validation.validate`, `Validation.validateEach`,
  `Validation.construct` — validated values.

## Main results

* `Validation.bind_eq_ok`, `Validation.require_eq_ok` — when a sequence of checks succeeds.
* `Validation.record_eq_nil`, `Validation.each_eq_nil` — when a record and a list are valid.
* `Validation.validate_val` — validating what was validated before gives it back.
-/

namespace Validation

section Fallible

variable {ε α β : Type}

variable {f : α → Except ε β} {x : Except ε α}

/-- A sequence of fallible steps succeeds when the first does and the rest does from there. -/
lemma bind_eq_ok {b : β} : (x >>= f) = .ok b ↔ ∃ a, x = .ok a ∧ f a = .ok b := by
  cases x <;> simp [bind, Except.bind]

/-- A step that succeeds hands its result on. -/
lemma ok_bind {a : α} : (Except.ok a >>= f) = f a := rfl

lemma pure_eq_ok {a b : α} : (pure a : Except ε α) = .ok b ↔ a = b := by
  simp [pure, Except.pure]

/-- What a step that succeeds says of its result can be decided from the result. -/
instance decidableForallOk (x : Except ε α) (p : α → Prop) [DecidablePred p] :
    Decidable (∀ a, x = .ok a → p a) :=
  match x with
  | .ok a => decidable_of_iff (p a) ⟨fun h _ hb => Except.ok.inj hb ▸ h, fun h => h a rfl⟩
  | .error _ => .isTrue nofun

/-- Renaming the error of a step does not change its result. -/
lemma mapError_eq_ok {ε' : Type} {f : ε → ε'} {a : α} : x.mapError f = .ok a ↔ x = .ok a := by
  cases x <;> simp [Except.mapError]

/-- A check that raises on `c` succeeds when `c` fails. -/
lemma ite_error_eq_ok {c : Prop} [Decidable c] {e : ε} {b : α} :
    (if c then .error e else x) = .ok b ↔ ¬ c ∧ x = .ok b := by
  by_cases h : c <;> simp [h]

/-- Raise `e` unless `p` holds. -/
def require (p : Prop) [Decidable p] (e : ε) : Except ε Unit := if p then .ok () else .error e

@[simp] lemma require_eq_ok {p : Prop} [Decidable p] {e : ε} {u : Unit} :
    require p e = .ok u ↔ p := by
  by_cases h : p <;> simp [require, h]

/-- Checks in sequence succeed when all of them do. -/
lemma require_bind_eq_ok {p : Prop} [Decidable p] {e : ε} {f : Unit → Except ε β} {b : β} :
    (require p e >>= f) = .ok b ↔ p ∧ f () = .ok b := by
  rw [bind_eq_ok]
  constructor
  · rintro ⟨u, hu, hf⟩
    exact ⟨require_eq_ok.mp hu, hf⟩
  · intro h
    exact ⟨(), require_eq_ok.mpr h.1, h.2⟩

/-- A check in front of a step. -/
lemma unit_bind_eq_ok {x : Except ε Unit} {f : Unit → Except ε β} {b : β} :
    (x >>= f) = .ok b ↔ x = .ok () ∧ f () = .ok b := by
  rw [bind_eq_ok]
  constructor
  · rintro ⟨u, hu, hf⟩
    exact ⟨hu, hf⟩
  · intro h
    exact ⟨(), h⟩

variable {xs : List α} {ys : List β}

/-- A loop over a list returns when every round does. -/
lemma mapM_eq_ok : xs.mapM f = .ok ys ↔ List.Forall₂ (fun x y => f x = .ok y) xs ys := by
  induction xs generalizing ys with
  | nil =>
    rw [List.mapM_nil, pure_eq_ok, List.forall₂_nil_left_iff]
    exact eq_comm
  | cons x xs ih =>
    simp only [List.mapM_cons, bind_eq_ok, pure_eq_ok, ih, List.forall₂_cons_left_iff]
    constructor
    · rintro ⟨y, hy, ys', hys, rfl⟩
      exact ⟨y, ys', hy, hys, rfl⟩
    · rintro ⟨y, ys', hy, hys, rfl⟩
      exact ⟨y, hy, ys', hys, rfl⟩

/-- When a loop over a list returns, the round of each item does. -/
lemma exists_of_mapM_eq_ok (h : xs.mapM f = .ok ys) : ∀ x ∈ xs, ∃ y, f x = .ok y := by
  rw [mapM_eq_ok] at h
  induction h with
  | nil => exact fun x hx => absurd hx List.not_mem_nil
  | cons hxy _ ih =>
    intro x hx
    rcases List.mem_cons.mp hx with rfl | hx
    · exact ⟨_, hxy⟩
    · exact ih x hx

/-- A loop over a list succeeds when every step does. -/
lemma exists_mapM_eq_ok (h : ∀ x ∈ xs, ∃ y, f x = .ok y) : ∃ ys, xs.mapM f = .ok ys := by
  induction xs with
  | nil => exact ⟨[], rfl⟩
  | cons x xs ih =>
    obtain ⟨y, hy⟩ := h x List.mem_cons_self
    obtain ⟨ys, hys⟩ := ih fun x' hx' => h x' (List.mem_cons_of_mem _ hx')
    rw [mapM_eq_ok] at hys
    exact ⟨y :: ys, mapM_eq_ok.mpr (List.Forall₂.cons hy hys)⟩

/-- A loop of checks succeeds when every check does. -/
lemma exists_mapM_require_eq_ok {p : α → Prop} [∀ x, Decidable (p x)] {e : α → ε} :
    (∃ us, (xs.mapM fun x => require (p x) (e x)) = .ok us) ↔ ∀ x ∈ xs, p x := by
  constructor
  · rintro ⟨us, hus⟩ x hx
    obtain ⟨u, hu⟩ := exists_of_mapM_eq_ok hus x hx
    exact require_eq_ok.mp hu
  · intro h
    refine ⟨xs.map fun _ => (), ?_⟩
    rw [mapM_eq_ok, List.forall₂_map_right_iff, List.forall₂_same]
    exact fun x hx => require_eq_ok.mpr (h x hx)

/-- What a loop over a list collects comes from its items. -/
lemma exists_of_mem_mapM (h : xs.mapM f = .ok ys) : ∀ y ∈ ys, ∃ x ∈ xs, f x = .ok y := by
  rw [mapM_eq_ok] at h
  induction h with
  | nil => exact fun y hy => absurd hy List.not_mem_nil
  | cons hxy _ ih =>
    intro y hy
    rcases List.mem_cons.mp hy with rfl | hy
    · exact ⟨_, List.mem_cons_self, hxy⟩
    · obtain ⟨x, hx, hf⟩ := ih y hy
      exact ⟨x, List.mem_cons_of_mem _ hx, hf⟩

end Fallible

/-! ## Validation reports -/

/-- A step of a field path: the name of a field or the index of an item. -/
inductive LocItem
  | field (name : String)
  | index (i : ℕ)
  deriving DecidableEq

/-- One error of a validation: where it is and what it says. -/
structure FieldError where
  loc : List LocItem
  message : String
  deriving DecidableEq

abbrev Errors := List FieldError

/-- The errors of a part, under the path of the part. -/
def Errors.at (item : LocItem) (es : Errors) : Errors :=
  es.map fun e => { e with loc := item :: e.loc }

@[simp] lemma Errors.at_eq_nil {item : LocItem} {es : Errors} : es.at item = [] ↔ es = [] := by
  simp [Errors.at]

/-- The report of a check that raises at most one message. -/
def ofCheck {α : Type} : Except String α → Errors
  | .ok _ => []
  | .error message => [⟨[], message⟩]

variable {α : Type}

lemma ofCheck_eq_nil {x : Except String α} : ofCheck x = [] ↔ ∃ a, x = .ok a := by
  cases x <;> simp [ofCheck]

/-- The errors of the named fields, each under the field's name. -/
def fieldErrors (fields : List (String × Errors)) : Errors :=
  fields.flatMap fun f => f.2.at (.field f.1)

variable {fields : List (String × Errors)}

lemma fieldErrors_eq_nil : fieldErrors fields = [] ↔ ∀ f ∈ fields, f.2 = [] := by
  simp [fieldErrors, List.flatMap_eq_nil_iff]

/-- The errors of the named fields, or, when there are none, those of the whole record. -/
def record (fields : List (String × Errors)) (whole : Except String Unit) : Errors :=
  if fieldErrors fields = [] then ofCheck whole else fieldErrors fields

/-- **A record is valid** when its fields are and its own validators pass. -/
lemma record_eq_nil {whole : Except String Unit} :
    record fields whole = [] ↔ (∀ f ∈ fields, f.2 = []) ∧ whole = .ok () := by
  have hu : (∃ u, whole = .ok u) ↔ whole = .ok () := ⟨fun ⟨_, h⟩ => h, fun h => ⟨(), h⟩⟩
  rw [record, ← fieldErrors_eq_nil]
  by_cases h : fieldErrors fields = []
  · rw [if_pos h, ofCheck_eq_nil, hu]
    simp [h]
  · rw [if_neg h]
    simp [h]

/-- The errors of a field, or, when there are none, that of a validator that runs after them. -/
def andThen (es : Errors) (check : Except String Unit) : Errors :=
  if es = [] then ofCheck check else es

@[simp] lemma andThen_eq_nil {es : Errors} {check : Except String Unit} :
    andThen es check = [] ↔ es = [] ∧ check = .ok () := by
  have hu : (∃ u, check = .ok u) ↔ check = .ok () := ⟨fun ⟨_, h⟩ => h, fun h => ⟨(), h⟩⟩
  by_cases h : es = []
  · rw [andThen, if_pos h, ofCheck_eq_nil, hu]
    simp [h]
  · rw [andThen, if_neg h]
    simp [h]

/-- The errors of the items of a list, each under its index. -/
def each {α : Type} (errors : α → Errors) (xs : List α) : Errors :=
  (xs.mapIdx fun i x => (errors x).at (.index i)).flatten

variable {errors : α → Errors}

/-- A list is valid when its items are. -/
@[simp] lemma each_eq_nil {xs : List α} : each errors xs = [] ↔ ∀ x ∈ xs, errors x = [] := by
  rw [each, List.flatten_eq_nil_iff]
  constructor
  · intro h x hx
    obtain ⟨i, hi, rfl⟩ := List.getElem_of_mem hx
    have := h ((errors xs[i]).at (.index i)) (List.mem_mapIdx.mpr ⟨i, hi, rfl⟩)
    simpa using this
  · intro h es hes
    obtain ⟨i, hi, rfl⟩ := List.mem_mapIdx.mp hes
    simpa using h _ (List.getElem_mem hi)

/-- The report on an optional value. -/
def optional {α : Type} (errors : α → Errors) (x : Option α) : Errors := x.elim [] errors

@[simp] lemma optional_eq_nil {x : Option α} : optional errors x = [] ↔ ∀ a ∈ x, errors a = [] := by
  cases x <;> simp [optional]

/-! ## Validated values -/

/-- The values that validate without an error. -/
abbrev Model {α : Type} (errors : α → Errors) : Type := {x : α // errors x = []}

/-- `model_validate`: the value, when it has no error. -/
def validate {α : Type} (errors : α → Errors) (x : α) : Except Errors (Model errors) :=
  if h : errors x = [] then .ok ⟨x, h⟩ else .error (errors x)

/-- **Validating what was validated before gives it back.** -/
@[simp] lemma validate_val (m : Model errors) : validate errors m.val = .ok m := by
  rw [validate, dif_pos m.property]

/-- A value that validates is the value that was given. -/
lemma validate_eq_ok {x : α} {m : Model errors} : validate errors x = .ok m ↔ x = m.val := by
  constructor
  · intro h
    by_cases hx : errors x = []
    · rw [validate, dif_pos hx, Except.ok.injEq] at h
      exact congrArg Subtype.val h
    · rw [validate, dif_neg hx] at h
      cases h
  · rintro rfl
    exact validate_val m

/-- Validate every item of a list. -/
def validateEach {α : Type} (errors : α → Errors) (xs : List α) : Except Errors (List α) :=
  xs.mapM fun x => (validate errors x).map Subtype.val

/-- A list that validates item by item is the list that was given. -/
lemma validateEach_eq_ok {xs ys : List α} :
    validateEach errors xs = .ok ys ↔ xs = ys ∧ ∀ x ∈ xs, errors x = [] := by
  have hitem : ∀ x y : α, (validate errors x).map Subtype.val = .ok y ↔ x = y ∧ errors x = [] := by
    intro x y
    by_cases hx : errors x = []
    · simp [validate, Except.map, hx]
    · simp [validate, Except.map, hx]
  simp only [validateEach, mapM_eq_ok, hitem]
  constructor
  · intro h
    induction h with
    | nil => simp
    | cons hxy _ ih =>
      obtain ⟨rfl, hx⟩ := hxy
      obtain ⟨rfl, hxs⟩ := ih
      simpa [hx] using hxs
  · rintro ⟨rfl, h⟩
    exact List.forall₂_same.mpr fun x hx => ⟨rfl, h x hx⟩

/-- The first line of the message of a failed validation. -/
def Errors.summary (es : Errors) (model : String) : String :=
  let noun := if es.length = 1 then "error" else "errors"
  s!"{es.length} validation {noun} for {model}"

/-- Construct a record: the record itself, when it has no error. -/
def construct {α : Type} (errors : α → Errors) (model : String) (x : α) : Except String α :=
  require (errors x = []) ((errors x).summary model) >>= fun _ => pure x

@[simp] lemma construct_eq_ok {model : String} {x y : α} :
    construct errors model x = .ok y ↔ errors x = [] ∧ x = y := by
  rw [construct, require_bind_eq_ok, pure_eq_ok]

/-! ## Checks of single fields -/

/-- A text that must not be blank. -/
def nonEmptyStr (value : String) : Errors :=
  ofCheck (require (¬ Text.Blank value) "value must not be blank")

@[simp] lemma nonEmptyStr_eq_nil {value : String} : nonEmptyStr value = [] ↔ ¬ Text.Blank value := by
  simp [nonEmptyStr, ofCheck_eq_nil]

/-- A number that must be positive. -/
def positiveInt (value : ℕ) : Errors :=
  ofCheck (require (0 < value) "Input should be greater than 0")

@[simp] lemma positiveInt_eq_nil {value : ℕ} : positiveInt value = [] ↔ 0 < value := by
  simp [positiveInt, ofCheck_eq_nil]

/-- A digest, with the message of its validator. -/
def hexDigest (message value : String) : Errors :=
  ofCheck (require (Text.HexDigest value) message)

@[simp] lemma hexDigest_eq_nil {message value : String} :
    hexDigest message value = [] ↔ Text.HexDigest value := by
  simp [hexDigest, ofCheck_eq_nil]

/-- A digest that is first checked not to be blank. -/
def nonEmptyDigest (message value : String) : Errors :=
  ofCheck do
    require (¬ Text.Blank value) "value must not be blank"
    require (Text.HexDigest value) message

end Validation
