import Mathlib.Data.List.Induction

/-!
# Trails

Records that each lead from one place to another. A list of records is a trail from a place when
every record starts where the one before it ended.

## Main definitions

* `Trail.last` — where a list of records ends.
* `Trail.Leads` — the list is a trail.

## Main results

* `Trail.leads_concat` — a trail goes on with a record that starts where it ends.
* `Trail.sublist_names` — when places name the next record, the names of the records are among the
  names of the places.
-/

namespace Trail

variable {R P : Type} (source target : R → P)

/-- Where the records end. -/
def last (p : P) (rs : List R) : P := rs.foldl (fun _ r => target r) p

/-- Each record starts where the one before it ended. -/
def Leads : P → List R → Prop
  | _, [] => True
  | p, r :: rs => source r = p ∧ Leads (target r) rs

variable {source target} {p : P} {r : R} {rs : List R}

@[simp] lemma last_nil : last target p [] = p := rfl

@[simp] lemma last_concat : last target p (rs ++ [r]) = target r := by simp [last]

lemma leads_concat : Leads source target p (rs ++ [r]) ↔
    Leads source target p rs ∧ source r = last target p rs := by
  induction rs generalizing p with
  | nil => simp [Leads]
  | cons r' rs ih =>
    simp only [List.cons_append, Leads, ih, last, List.foldl_cons, and_assoc]

/-- A measure that each record raises by one counts the records. -/
lemma last_measure {f : P → ℕ} (hf : ∀ r, f (target r) = f (source r) + 1)
    (h : Leads source target p rs) : f (last target p rs) = f p + rs.length := by
  induction rs using List.reverseRecOn with
  | nil => rfl
  | append_singleton rs r ih =>
    obtain ⟨hrs, hr⟩ := leads_concat.mp h
    rw [last_concat, hf, hr, ih hrs, List.length_append, List.length_singleton, Nat.add_assoc]

/-- Where places may name the record to come, the names of the records are those of the places, in
order. -/
lemma sublist_names {N : Type} (name : R → N) (next : P → Option N)
    (hname : ∀ r, next (source r) = some (name r)) (h : Leads source target p rs) :
    (rs.map name).Sublist ((next p).toList ++ rs.filterMap (next ∘ target)) := by
  induction rs generalizing p with
  | nil => exact List.nil_sublist _
  | cons r rs ih =>
    obtain ⟨rfl, hrs⟩ := h
    have htail : (next (target r)).toList ++ rs.filterMap (next ∘ target) =
        (r :: rs).filterMap (next ∘ target) := by
      cases hnext : next (target r) <;> simp [hnext]
    rw [hname, List.map_cons, Option.toList_some, List.singleton_append, ← htail]
    exact (ih hrs).cons_cons (name r)

end Trail
