import Mathlib.Data.List.Nodup

/-!
# Dictionaries of the items of a list

The dictionary `{key(x): x for x in xs}` of a list, read without being built: of the items with
one key it keeps the last.

## Main definitions

* `Dict.get` — the item of a key; `Dict.Includes` — one dictionary has the entries of another.

## Main results

* `Dict.get_eq_some` — with different keys, the items of a dictionary are those of the list.
-/

namespace Dict

variable {α κ : Type} [DecidableEq κ]

/-- `{key(x): x for x in xs}.get(k)`: the last item with the key. -/
def get (key : α → κ) (xs : List α) (k : κ) : Option α := xs.reverse.find? fun x => key x = k

/-- The dictionary of `ys` has the entries of the dictionary of `xs`. -/
def Includes (key : α → κ) (ys xs : List α) : Prop :=
  ∀ x ∈ xs, get key ys (key x) = get key xs (key x)

instance [DecidableEq α] (key : α → κ) (ys xs : List α) : Decidable (Includes key ys xs) :=
  inferInstanceAs (Decidable (∀ x ∈ xs, _))

lemma mem_of_get {key : α → κ} {xs : List α} {k : κ} {x : α} (h : get key xs k = some x) :
    x ∈ xs ∧ key x = k := by
  have hmem := List.mem_of_find?_eq_some h
  have hkey := List.find?_some h
  exact ⟨List.mem_reverse.mp hmem, of_decide_eq_true hkey⟩

/-- With different keys, the items of a dictionary are those of the list. -/
lemma get_eq_some {key : α → κ} {xs : List α} (h : (xs.map key).Nodup) {x : α} :
    get key xs (key x) = some x ↔ x ∈ xs := by
  refine ⟨fun hget => (mem_of_get hget).1, fun hx => ?_⟩
  have hsome : (get key xs (key x)).isSome = true := by
    rw [get, List.find?_isSome]
    exact ⟨x, List.mem_reverse.mpr hx, by simp⟩
  obtain ⟨y, hy⟩ := Option.isSome_iff_exists.mp hsome
  obtain ⟨hmem, hkey⟩ := mem_of_get hy
  rw [hy, List.inj_on_of_nodup_map h hmem hx hkey]

end Dict
