import Mathlib.Data.List.Count
import Mathlib.Data.List.Sort

/-!
# Keyed tables

A table is the list of its rows, oldest first. Each table has a key, a function of the row;
an update changes the rows that meet a condition and keeps every key, and an insertion
appends a row. The lemmas say what these do to a lookup by key and to a count of rows.

## Main definitions

* `Table.lookup` — the first row with a given key.
* `Table.updateWhere` — the update of the rows that meet a condition.
* `Table.Keyed` — no two rows share a key.
* `Table.orderBy` — the rows in the order of a list of columns, equal rows kept in their order.
* `Table.Grows` — what updates that keep some columns, and insertions, do to a table.
* `Table.updateFirst`, `Table.updateLast` — the update of the first and of the last row that
  meets a condition.
* `Table.upsert` — the assignment of a row to its key.

## Main results

* `Table.lookup_updateWhere` — looking a key up after an update that keeps keys.
* `Table.lookup_append_singleton` — looking a key up after an insertion.
* `Table.Keyed.append_singleton` — an insertion of a new key keeps keys distinct.
* `Table.Grows.lookup` — a row that is found is still found when the table has grown.
* `Table.foldl_upsert` — assigning the rows of a keyed table one by one rebuilds the table.
-/

namespace Table

variable {ρ κ : Type} [DecidableEq κ] (key : ρ → κ)

/-- The first row whose key is `k`. -/
def lookup (k : κ) (rows : List ρ) : Option ρ := rows.find? fun r => key r = k

/-- Apply `f` to the rows that meet `p` and keep the others. -/
def updateWhere (p : ρ → Prop) [DecidablePred p] (f : ρ → ρ) (rows : List ρ) : List ρ :=
  rows.map fun r => if p r then f r else r

/-- No two rows share a key. -/
def Keyed (rows : List ρ) : Prop := (rows.map key).Nodup

/-- Lexicographic comparison of two lists of numbers, a prefix coming first. -/
def lexLe : List ℤ → List ℤ → Bool
  | [], _ => true
  | _ :: _, [] => false
  | a :: as, b :: bs => a < b || (a = b && lexLe as bs)

/-- The rows sorted by their columns. -/
def orderBy (columns : ρ → List ℤ) (rows : List ρ) : List ρ :=
  rows.insertionSort fun a b => lexLe (columns a) (columns b)

/-- Sorting only rearranges the rows. -/
lemma orderBy_perm (columns : ρ → List ℤ) (rows : List ρ) : (orderBy columns rows).Perm rows :=
  List.perm_insertionSort _ _

variable {rows : List ρ} {r : ρ}

/-- Sorting keeps the rows. -/
@[simp] lemma mem_orderBy {columns : ρ → List ℤ} : r ∈ orderBy columns rows ↔ r ∈ rows :=
  (orderBy_perm columns rows).mem_iff

section Lookup

variable {key}

/-- A row found under `k` is a row of the table with key `k`. -/
lemma mem_of_lookup {k : κ} (h : lookup key k rows = some r) : r ∈ rows ∧ key r = k := by
  have hk := List.find?_some h
  exact ⟨List.mem_of_find?_eq_some h, by simpa using hk⟩

/-- A table with distinct keys finds each of its rows under the row's key. -/
lemma Keyed.lookup_of_mem (hk : Keyed key rows) (hr : r ∈ rows) :
    lookup key (key r) rows = some r := by
  induction rows with
  | nil => simp at hr
  | cons a rows ih =>
    simp only [Keyed, List.map_cons, List.nodup_cons, List.mem_map, not_exists, not_and] at hk
    rcases List.mem_cons.mp hr with rfl | hr
    · simp [lookup]
    · have hne : key a ≠ key r := fun h => hk.1 r hr h.symm
      simpa [lookup, hne] using ih hk.2 hr

/-- In a table with distinct keys, two rows with one key are one row. -/
lemma Keyed.eq_of_key_eq (hk : Keyed key rows) {a b : ρ} (ha : a ∈ rows) (hb : b ∈ rows)
    (h : key a = key b) : a = b := by
  have h1 := hk.lookup_of_mem ha
  rw [h, hk.lookup_of_mem hb] at h1
  exact (Option.some.inj h1).symm

/-- A key is found exactly when some row has it. -/
lemma lookup_eq_none_iff {k : κ} : lookup key k rows = none ↔ ∀ r ∈ rows, key r ≠ k := by
  simp [lookup]

/-- Some row has the key `k` exactly when looking `k` up finds a row. -/
lemma exists_lookup_iff {k : κ} : (∃ r, lookup key k rows = some r) ↔ k ∈ rows.map key := by
  rw [← Option.isSome_iff_exists, Option.isSome_iff_ne_none, ne_eq, lookup_eq_none_iff]
  simp

lemma lookup_cons (k : κ) (a : ρ) (rows : List ρ) :
    lookup key k (a :: rows) = if key a = k then some a else lookup key k rows := by
  by_cases h : key a = k <;> simp [lookup, h]

/-- After inserting `r`, an old key is found as before and the key of `r` is found if it was
new. -/
lemma lookup_append_singleton (k : κ) (rows : List ρ) (r : ρ) :
    lookup key k (rows ++ [r]) = (lookup key k rows).or (if key r = k then some r else none) := by
  by_cases h : key r = k <;> simp [lookup, List.find?_append, h]

end Lookup

section Update

variable {key} {p : ρ → Prop} [DecidablePred p] {f : ρ → ρ}

/-- The rows of an updated table. -/
lemma mem_updateWhere : r ∈ updateWhere p f rows ↔ ∃ a ∈ rows, (if p a then f a else a) = r := by
  simp [updateWhere]

/-- An update keeps every column that `f` keeps. -/
lemma map_updateWhere {β : Type} {g : ρ → β} (hg : ∀ r, p r → g (f r) = g r) (rows : List ρ) :
    (updateWhere p f rows).map g = rows.map g := by
  simp only [updateWhere, List.map_map]
  refine List.map_congr_left fun r _ => ?_
  simp only [Function.comp_apply]
  split_ifs with h
  · exact hg r h
  · rfl

/-- Looking a key up after an update that keeps keys. -/
lemma lookup_updateWhere (hf : ∀ r, p r → key (f r) = key r) (k : κ) (rows : List ρ) :
    lookup key k (updateWhere p f rows) =
      (lookup key k rows).map fun r => if p r then f r else r := by
  have hkey : ∀ r, key (if p r then f r else r) = key r := fun r => by
    split_ifs with h
    · exact hf r h
    · rfl
  simp only [lookup, updateWhere, List.find?_map]
  congr 2
  funext r
  simp [hkey]

/-- Inserting a row under a new key keeps keys distinct. -/
lemma Keyed.append_singleton (hk : Keyed key rows) (hr : lookup key (key r) rows = none) :
    Keyed key (rows ++ [r]) := by
  rw [lookup_eq_none_iff] at hr
  simp only [Keyed, List.map_append, List.map_cons, List.map_nil]
  refine List.Nodup.append hk (List.nodup_singleton _) ?_
  simpa using hr

end Update

section Join

variable {key} {μ : Type}

/-- Counting the rows of a join: each row `r` is repeated for the rows of another table that
refer to it and meet `p`, so the count is one over the referring rows. -/
lemma countP_join (hk : Keyed key rows) (refs : List μ) (fk : μ → κ) (p : μ → Prop)
    [DecidablePred p] (q : ρ → Bool) :
    (rows.flatMap fun r => (refs.filter fun l => fk l = key r ∧ p l).map fun _ => r).countP q =
      refs.countP fun l => decide (p l) && (lookup key (fk l) rows).any q := by
  induction rows with
  | nil => simp [lookup]
  | cons a rows ih =>
    simp only [Keyed, List.map_cons, List.nodup_cons] at hk
    have hnone : lookup key (key a) rows = none := by
      rw [lookup_eq_none_iff]
      exact fun r hr h => hk.1 (h ▸ List.mem_map_of_mem hr)
    have hfirst : ((refs.filter fun l => fk l = key a ∧ p l).map fun _ => a).countP q =
        refs.countP fun l => decide (fk l = key a ∧ p l) && q a := by
      rw [List.countP_map, List.countP_filter]
      refine List.countP_congr fun l _ => ?_
      simp [and_comm]
    have hsplit : ∀ ls : List μ,
        (ls.countP fun l => decide (p l) && (lookup key (fk l) (a :: rows)).any q) =
          (ls.countP fun l => decide (fk l = key a ∧ p l) && q a) +
            ls.countP fun l => decide (p l) && (lookup key (fk l) rows).any q := by
      intro ls
      induction ls with
      | nil => rfl
      | cons l ls ihl =>
        simp only [List.countP_cons, ihl]
        by_cases h : fk l = key a
        · simp only [lookup_cons, h, hnone, if_true, true_and, Option.any_some, Option.any_none,
            Bool.and_false, Bool.false_eq_true, if_false]
          omega
        · have h' : ¬ key a = fk l := fun e => h e.symm
          simp only [lookup_cons, h, h', if_false, false_and, decide_false, Bool.false_and,
            Bool.false_eq_true]
          omega
    rw [List.flatMap_cons, List.countP_append, ih hk.2, hfirst, hsplit]

end Join

section Grows

variable {key}

/-- The rows of the first table are the first rows of the second, up to the columns that `g`
erases. -/
def Grows (g : ρ → ρ) (rows rows' : List ρ) : Prop := rows.map g <+: rows'.map g

lemma Grows.refl (g : ρ → ρ) (rows : List ρ) : Grows g rows rows := List.prefix_rfl

variable {g : ρ → ρ} {rows' : List ρ}

lemma Grows.trans {rows'' : List ρ} (h : Grows g rows rows') (h' : Grows g rows' rows'') :
    Grows g rows rows'' := List.IsPrefix.trans h h'

lemma Grows.of_map_eq (h : rows'.map g = rows.map g) : Grows g rows rows' :=
  ⟨[], by rw [List.append_nil, h]⟩

lemma Grows.append (g : ρ → ρ) (rows : List ρ) (r : ρ) : Grows g rows (rows ++ [r]) := by
  rw [Grows, List.map_append]
  exact List.prefix_append _ _

/-- Looking a key up does not depend on the erased columns. -/
lemma lookup_map (hg : ∀ r, key (g r) = key r) (k : κ) (rows : List ρ) :
    lookup key k (rows.map g) = (lookup key k rows).map g := by
  simp only [lookup, List.find?_map]
  congr 2
  funext r
  simp [hg]

/-- A row that is found is still found, with the same fixed columns. -/
lemma Grows.lookup (hg : ∀ r, key (g r) = key r) (h : Grows g rows rows') {k : κ}
    (hr : lookup key k rows = some r) : ∃ r', Table.lookup key k rows' = some r' ∧ g r' = g r := by
  obtain ⟨tail, htail⟩ := h
  have hfound : Table.lookup key k (rows'.map g) = some (g r) := by
    rw [← htail, Table.lookup, List.find?_append, ← Table.lookup, lookup_map hg, hr]
    rfl
  rw [lookup_map hg] at hfound
  simpa using hfound

omit [DecidableEq κ] in
/-- A row of one table has its counterpart in another with the same fixed columns. -/
lemma mem_of_map_eq (h : rows'.map g = rows.map g) {r' : ρ} (hr : r' ∈ rows') :
    ∃ r ∈ rows, g r = g r' := by
  have hmem : g r' ∈ rows'.map g := List.mem_map_of_mem hr
  rw [h] at hmem
  simpa using hmem

omit [DecidableEq κ] in
/-- A column that `g` keeps is the same in tables that agree up to `g`. -/
lemma map_eq_of_map_eq {β : Type} {c : ρ → β} (hc : ∀ r, c (g r) = c r)
    (h : rows'.map g = rows.map g) : rows'.map c = rows.map c := by
  have hcomp : c ∘ g = c := funext hc
  rw [← hcomp, ← List.map_map, h, List.map_map]

end Grows

/-! ## Updating one row -/

section UpdateOne

variable {p : ρ → Bool} {f : ρ → ρ} {rows : List ρ} {r : ρ}

/-- Apply `f` to the first row that meets `p`. -/
def updateFirst (p : ρ → Bool) (f : ρ → ρ) : List ρ → List ρ
  | [] => []
  | r :: rows => if p r then f r :: rows else r :: updateFirst p f rows

/-- Apply `f` to the last row that meets `p`. -/
def updateLast (p : ρ → Bool) (f : ρ → ρ) (rows : List ρ) : List ρ :=
  (updateFirst p f rows.reverse).reverse

lemma updateFirst_cons_of_pos {a : ρ} (h : p a = true) :
    updateFirst p f (a :: rows) = f a :: rows := if_pos h

lemma updateFirst_cons_of_neg {a : ρ} (h : ¬ p a = true) :
    updateFirst p f (a :: rows) = a :: updateFirst p f rows := if_neg h

/-- The first row that meets `p` is replaced, and everything around it stays. -/
lemma updateFirst_of_find? (f : ρ → ρ) (h : rows.find? p = some r) :
    ∃ before after, rows = before ++ r :: after ∧ (∀ b ∈ before, p b = false) ∧
      updateFirst p f rows = before ++ f r :: after := by
  induction rows with
  | nil => simp at h
  | cons a rows ih =>
    by_cases ha : p a = true
    · rw [List.find?_cons_of_pos ha] at h
      obtain rfl := Option.some.inj h
      refine ⟨[], rows, rfl, by simp, ?_⟩
      rw [updateFirst_cons_of_pos ha]
      rfl
    · rw [List.find?_cons_of_neg ha] at h
      obtain ⟨before, after, hrows, hbefore, hupdate⟩ := ih h
      refine ⟨a :: before, after, by rw [hrows]; rfl, ?_, ?_⟩
      · intro b hb
        rcases List.mem_cons.mp hb with rfl | hb
        · simpa using ha
        · exact hbefore b hb
      · rw [updateFirst_cons_of_neg ha, hupdate]
        rfl

/-- After an update that keeps the condition, the updated row is found. -/
lemma find?_updateFirst (h : rows.find? p = some r) (hf : p (f r) = true) :
    (updateFirst p f rows).find? p = some (f r) := by
  obtain ⟨before, after, -, hbefore, hupdate⟩ := updateFirst_of_find? f h
  rw [hupdate, List.find?_append, List.find?_cons_of_pos hf,
    List.find?_eq_none.mpr fun b hb => by simp [hbefore b hb]]
  rfl

/-- Only what an update does to the first row that meets `p` matters. -/
lemma updateFirst_congr {g : ρ → ρ} (h : ∀ a, rows.find? p = some a → f a = g a) :
    updateFirst p f rows = updateFirst p g rows := by
  induction rows with
  | nil => rfl
  | cons a rows ih =>
    by_cases ha : p a = true
    · rw [updateFirst_cons_of_pos ha, updateFirst_cons_of_pos ha, h a (List.find?_cons_of_pos ha)]
    · rw [updateFirst_cons_of_neg ha, updateFirst_cons_of_neg ha,
        ih fun b hb => h b ((List.find?_cons_of_neg ha).trans hb)]

/-- Two updates of the first row are one, when the first update keeps the condition. -/
lemma updateFirst_updateFirst {g : ρ → ρ} (hf : ∀ a, p (f a) = p a) (rows : List ρ) :
    updateFirst p g (updateFirst p f rows) = updateFirst p (g ∘ f) rows := by
  induction rows with
  | nil => rfl
  | cons a rows ih =>
    by_cases ha : p a = true
    · rw [updateFirst_cons_of_pos ha, updateFirst_cons_of_pos ((hf a).trans ha), updateFirst_cons_of_pos ha]
      rfl
    · rw [updateFirst_cons_of_neg ha, updateFirst_cons_of_neg ha, ih, updateFirst_cons_of_neg ha]

/-- The last row that meets `p` is replaced, and everything around it stays. -/
lemma updateLast_of_find? (f : ρ → ρ) (h : rows.reverse.find? p = some r) :
    ∃ before after, rows = before ++ r :: after ∧ (∀ b ∈ after, p b = false) ∧
      updateLast p f rows = before ++ f r :: after := by
  obtain ⟨before, after, hrows, hbefore, hupdate⟩ := updateFirst_of_find? f h
  refine ⟨after.reverse, before.reverse, ?_, ?_, ?_⟩
  · rw [← List.reverse_reverse rows, hrows]
    simp
  · simpa using hbefore
  · rw [updateLast, hupdate]
    simp

/-- Where no row meets `p` nothing changes. -/
lemma updateFirst_of_find?_eq_none (h : rows.find? p = none) : updateFirst p f rows = rows := by
  induction rows with
  | nil => rfl
  | cons a rows ih =>
    simp only [List.find?_eq_none, List.forall_mem_cons] at h ih
    rw [updateFirst_cons_of_neg h.1, ih h.2]

end UpdateOne

/-! ## Tables as dictionaries -/

section Upsert

/-- Replace the row with the key of `r`, in its place, or append `r` when there is none: the
assignment `d[key] = value` of a dictionary that keeps its insertion order. -/
def upsert (r : ρ) : List ρ → List ρ
  | [] => [r]
  | a :: rows => if key a = key r then r :: rows else a :: upsert r rows

variable {key}

lemma upsert_cons_of_eq {a : ρ} (h : key a = key r) :
    upsert key r (a :: rows) = r :: rows := if_pos h

lemma upsert_cons_of_ne {a : ρ} (h : key a ≠ key r) :
    upsert key r (a :: rows) = a :: upsert key r rows := if_neg h

/-- The assigned key is found with its row, every other key as before. -/
lemma lookup_upsert (k : κ) (r : ρ) (rows : List ρ) :
    lookup key k (upsert key r rows) = if key r = k then some r else lookup key k rows := by
  induction rows with
  | nil => by_cases h : key r = k <;> simp [upsert, lookup, h]
  | cons a rows ih =>
    by_cases ha : key a = key r
    · rw [upsert_cons_of_eq ha, lookup_cons, lookup_cons, ha]
      by_cases h : key r = k <;> simp [h]
    · rw [upsert_cons_of_ne ha, lookup_cons, lookup_cons, ih]
      by_cases h : key r = k
      · subst h
        simp [ha]
      · simp [h]

/-- A new key is appended. -/
lemma upsert_of_lookup_eq_none (h : lookup key (key r) rows = none) :
    upsert key r rows = rows ++ [r] := by
  induction rows with
  | nil => rfl
  | cons a rows ih =>
    by_cases ha : key a = key r
    · rw [lookup_cons, if_pos ha] at h
      cases h
    · rw [lookup_cons, if_neg ha] at h
      rw [upsert_cons_of_ne ha, ih h]
      rfl

/-- The rows after an assignment are its row and rows that were there before. -/
lemma mem_of_mem_upsert {a : ρ} (h : a ∈ upsert key r rows) : a = r ∨ a ∈ rows := by
  induction rows with
  | nil => exact .inl (List.mem_singleton.mp h)
  | cons b rows ih =>
    by_cases hb : key b = key r
    · rw [upsert_cons_of_eq hb] at h
      rcases List.mem_cons.mp h with rfl | h
      · exact .inl rfl
      · exact .inr (List.mem_cons_of_mem _ h)
    · rw [upsert_cons_of_ne hb] at h
      rcases List.mem_cons.mp h with rfl | h
      · exact .inr List.mem_cons_self
      · exact (ih h).imp id (List.mem_cons_of_mem _)

/-- The assigned row is in the table. -/
lemma mem_upsert_self (r : ρ) (rows : List ρ) : r ∈ upsert key r rows :=
  (mem_of_lookup ((lookup_upsert (key r) r rows).trans (if_pos rfl))).1

/-- A row under another key stays. -/
lemma mem_upsert_of_ne {a : ρ} (ha : a ∈ rows) (h : key a ≠ key r) : a ∈ upsert key r rows := by
  induction rows with
  | nil => cases ha
  | cons b rows ih =>
    by_cases hb : key b = key r
    · rw [upsert_cons_of_eq hb]
      rcases List.mem_cons.mp ha with rfl | ha
      · exact absurd hb h
      · exact List.mem_cons_of_mem _ ha
    · rw [upsert_cons_of_ne hb]
      rcases List.mem_cons.mp ha with rfl | ha
      · exact List.mem_cons_self
      · exact List.mem_cons_of_mem _ (ih ha)

/-- Assignments keep keys distinct. -/
lemma Keyed.upsert (hk : Keyed key rows) (r : ρ) : Keyed key (upsert key r rows) := by
  induction rows with
  | nil => exact List.nodup_singleton _
  | cons b rows ih =>
    have hk' := List.nodup_cons.mp (show (key b :: rows.map key).Nodup from hk)
    by_cases hb : key b = key r
    · rw [upsert_cons_of_eq hb]
      refine List.nodup_cons.mpr ⟨?_, hk'.2⟩
      rw [← hb]
      exact hk'.1
    · rw [upsert_cons_of_ne hb]
      refine List.nodup_cons.mpr ⟨fun hmem => ?_, ih hk'.2⟩
      obtain ⟨a, ha, hab⟩ := List.mem_map.mp hmem
      rcases mem_of_mem_upsert ha with rfl | ha
      · exact hb hab.symm
      · exact hk'.1 (hab ▸ List.mem_map_of_mem ha)

/-- **Assigning the rows of a keyed table one by one rebuilds the table.** -/
theorem foldl_upsert {acc : List ρ} (hk : Keyed key (acc ++ rows)) :
    rows.foldl (fun acc r => Table.upsert key r acc) acc = acc ++ rows := by
  induction rows generalizing acc with
  | nil => simp
  | cons r rows ih =>
    have hnone : lookup key (key r) acc = none := by
      rw [lookup_eq_none_iff]
      intro a ha hab
      rw [Keyed, List.map_append, List.nodup_append] at hk
      exact hk.2.2 _ (List.mem_map_of_mem ha) _ (List.mem_map_of_mem List.mem_cons_self) hab
    rw [List.foldl_cons, upsert_of_lookup_eq_none hnone, ih (by simpa using hk)]
    simp

end Upsert

end Table
