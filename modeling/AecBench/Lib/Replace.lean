import Mathlib.Algebra.Order.Ring.Int
import AecBench.Lib.Table

/-!
# One row of a keyed table replaced

The row of a key is replaced by another row of the same key, which is what an update of an
immutable record in a list does.

## Main definitions

* `Table.replace` — the table with the row of one key replaced.

## Main results

* `Table.mem_replace` — the rows afterwards.
* `Table.map_key_replace`, `Table.map_replace` — the columns that stay.
* `Table.lookup_replace` — a lookup afterwards.
-/

namespace Table

variable {ρ κ : Type} [DecidableEq κ] {key : ρ → κ} {rows : List ρ} {x z : ρ}

/-- The table with the row of the key of `x` replaced by `x`. -/
def replace (key : ρ → κ) (x : ρ) (rows : List ρ) : List ρ :=
  updateWhere (fun r => key r = key x) (fun _ => x) rows

lemma replace_cons {r : ρ} :
    replace key x (r :: rows) = (if key r = key x then x else r) :: replace key x rows := rfl

/-- The rows after a replacement: the new one, and the old ones of other keys. -/
lemma mem_replace (hx : key x ∈ rows.map key) :
    z ∈ replace key x rows ↔ z = x ∨ z ∈ rows ∧ key z ≠ key x := by
  rw [replace, mem_updateWhere]
  constructor
  · rintro ⟨r, hr, rfl⟩
    by_cases h : key r = key x
    · rw [if_pos h]
      exact .inl rfl
    · rw [if_neg h]
      exact .inr ⟨hr, h⟩
  · rintro (rfl | ⟨hz, hne⟩)
    · obtain ⟨r, hr, hkey⟩ := List.mem_map.mp hx
      exact ⟨r, hr, if_pos hkey⟩
    · exact ⟨z, hz, if_neg hne⟩

/-- A replacement keeps the keys. -/
@[simp] lemma map_key_replace : (replace key x rows).map key = rows.map key :=
  map_updateWhere (fun _ h => h.symm) rows

/-- A replacement keeps each column in which the new row agrees with the one before. -/
lemma map_replace {β : Type} {g : ρ → β} (hg : ∀ r ∈ rows, key r = key x → g r = g x) :
    (replace key x rows).map g = rows.map g := by
  induction rows with
  | nil => rfl
  | cons r rows ih =>
    rw [replace_cons, List.map_cons, List.map_cons,
      ih fun r' hr' => hg r' (List.mem_cons_of_mem _ hr')]
    by_cases h : key r = key x
    · rw [if_pos h, hg r List.mem_cons_self h]
    · rw [if_neg h]

/-- A lookup after a replacement finds the new row under its key, when there was one. -/
lemma lookup_replace (k : κ) : lookup key k (replace key x rows) =
    if k = key x then (lookup key k rows).map fun _ => x else lookup key k rows := by
  rw [replace, lookup_updateWhere fun r hr => hr.symm]
  cases h : lookup key k rows with
  | none => simp
  | some r =>
    obtain ⟨-, rfl⟩ := mem_of_lookup h
    by_cases hk : key r = key x
    · simp [hk]
    · simp [hk]

/-- Where a loop replaces one row after the other by what `f` makes of it: one round more. -/
lemma replace_map_done {f : ρ → ρ} (hf : ∀ r, key (f r) = key r) (hk : Keyed key rows)
    (hx : x ∈ rows) {done : List κ} (hdone : key x ∉ done) :
    replace key (f x) (rows.map fun r => if key r ∈ done then f r else r) =
      rows.map fun r => if key r ∈ done ++ [key x] then f r else r := by
  rw [replace, updateWhere, List.map_map]
  apply List.map_congr_left
  intro r hr
  rw [Function.comp_apply, hf x]
  by_cases hmem : key r ∈ done
  · have hne : key (f r) ≠ key x := by
      rw [hf r]
      rintro heq
      exact hdone (heq ▸ hmem)
    rw [if_pos hmem, if_neg hne, if_pos (List.mem_append_left _ hmem)]
  · rw [if_neg hmem]
    by_cases heq : key r = key x
    · obtain rfl : r = x := hk.eq_of_key_eq hr hx heq
      rw [if_pos heq, if_pos (List.mem_append_right _ (List.mem_singleton_self _))]
    · rw [if_neg heq, if_neg]
      simp [hmem, heq]

/-- One round more of such a loop, over a row that `f` leaves as it is. -/
lemma map_done_of_fixed {f : ρ → ρ} (hk : Keyed key rows) (hx : x ∈ rows) (hfixed : f x = x)
    {done : List κ} :
    (rows.map fun r => if key r ∈ done then f r else r) =
      rows.map fun r => if key r ∈ done ++ [key x] then f r else r := by
  apply List.map_congr_left
  intro r hr
  by_cases heq : key r = key x
  · obtain rfl : r = x := hk.eq_of_key_eq hr hx heq
    simp [hfixed]
  · simp [heq]

end Table
