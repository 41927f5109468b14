import Mathlib.Data.List.Perm.Subperm
import AecBench.Evolution.Memory

/-!
# What the memory of a variation retains

The passes that select facts for the memory go through one list of priorities: the newest facts of
the best attempt, the newest fact of every other failure category, the newest success, and the
rest, newest first. The memory keeps as many of them as it may, in their order in time.

## Main definitions

* `keptBest`, `newestByCategory` — the facts of the first two passes.
* `priorities` — the facts in the order in which they are kept.
* `Overfull` — the best attempt fills the memory, and a failure category is left.

## Main results

* `retainMemory_spec` — what is retained when the memory is not overfull.
* `not_fillsNewest_success` — an older success is kept in the place of a newer fact.
-/

namespace AecBench.Evolution

open Validation

/-! ## Priorities -/

section Priorities

variable (values : List AVOMemoryEntry) (best : Option String) (limit : ℕ)

/-- The positions of the facts, the newest first. -/
def newestFirst : List ℕ := (List.range values.length).reverse

def attemptAt (i : ℕ) : Option String := (values[i]?).map AVOMemoryEntry.sourceAttemptId

def categoryAt (i : ℕ) : Option String := (values[i]?).bind AVOMemoryEntry.failureCategory

/-- The positions of the newest facts of the best attempt. -/
def keptBest : List ℕ :=
  let positions := best.elim [] fun best =>
    (List.range values.length).filter fun i => attemptAt values i = some best
  positions.drop (positions.length - limit)

/-- The first position of every failure category that is not one of `categories`. -/
def newestByCategory : List ℕ → List String → List ℕ
  | [], _ => []
  | i :: rest, categories =>
    match categoryAt values i with
    | none => newestByCategory rest categories
    | some category =>
      if category ∈ categories then newestByCategory rest categories
      else i :: newestByCategory rest (category :: categories)

/-- The failures to keep: the newest one of every category that the best attempt does not show. -/
def keptFailures : List ℕ :=
  newestByCategory values (newestFirst values)
    ((keptBest values best limit).filterMap (categoryAt values))

/-- The newest success that is not kept yet. -/
def keptSuccess (kept : List ℕ) : Option ℕ :=
  (newestFirst values).find? fun i =>
    i ∉ kept ∧ (values[i]?).map (·.outcome) = some .improved

/-- The positions in the order in which they are kept. -/
def priorities : List ℕ :=
  let failures := keptBest values best limit ++ keptFailures values best limit
  let first := failures ++ (keptSuccess values failures).toList
  first ++ (newestFirst values).filter (· ∉ first)

/-- The best attempt alone fills the memory, and a failure category is left. -/
def Overfull : Prop :=
  limit ≤ (keptBest values best limit).length ∧ keptFailures values best limit ≠ []

instance : Decidable (Overfull values best limit) := inferInstanceAs (Decidable (_ ∧ _))

/-- The facts at some positions, in their order in time. -/
def entriesAt (kept : List ℕ) : List AVOMemoryEntry :=
  ((List.range values.length).filter (· ∈ kept)).filterMap (values[·]?)

end Priorities

/-! ## The passes -/

section Passes

variable {values : List AVOMemoryEntry} {best : Option String} {limit : ℕ}

variable {i : ℕ} {categories : List String} {rest : List ℕ}

lemma newestByCategory_of_none (h : categoryAt values i = none) :
    newestByCategory values (i :: rest) categories = newestByCategory values rest categories := by
  rw [newestByCategory, h]

lemma newestByCategory_of_mem {c : String} (h : categoryAt values i = some c)
    (hc : c ∈ categories) :
    newestByCategory values (i :: rest) categories = newestByCategory values rest categories := by
  rw [newestByCategory, h]
  exact if_pos hc

lemma newestByCategory_of_not_mem {c : String} (h : categoryAt values i = some c)
    (hc : c ∉ categories) :
    newestByCategory values (i :: rest) categories =
      i :: newestByCategory values rest (c :: categories) := by
  rw [newestByCategory, h]
  exact if_neg hc

lemma newestByCategory_sublist (l : List ℕ) (categories : List String) :
    (newestByCategory values l categories).Sublist l := by
  induction l generalizing categories with
  | nil => exact List.Sublist.refl _
  | cons i rest ih =>
    cases hi : categoryAt values i with
    | none =>
      rw [newestByCategory_of_none hi]
      exact (ih categories).cons i
    | some c =>
      by_cases hc : c ∈ categories
      · rw [newestByCategory_of_mem hi hc]
        exact (ih categories).cons i
      · rw [newestByCategory_of_not_mem hi hc]
        exact (ih _).cons_cons i

variable {l : List ℕ}

lemma category_of_mem (h : i ∈ newestByCategory values l categories) :
    ∃ c, categoryAt values i = some c ∧ c ∉ categories := by
  induction l generalizing categories with
  | nil => cases h
  | cons j rest ih =>
    cases hj : categoryAt values j with
    | none =>
      rw [newestByCategory_of_none hj] at h
      exact ih h
    | some c =>
      by_cases hc : c ∈ categories
      · rw [newestByCategory_of_mem hj hc] at h
        exact ih h
      · rw [newestByCategory_of_not_mem hj hc] at h
        rcases List.mem_cons.mp h with rfl | h
        · exact ⟨c, hj, hc⟩
        · obtain ⟨d, hd, hout⟩ := ih h
          exact ⟨d, hd, fun hmem => hout (List.mem_cons_of_mem _ hmem)⟩

/-- The pass over the failure categories; it looks at the room only after it has added one. -/
lemma selectFailureCategories_perm {selected : List ℕ} (hl : l.Nodup)
    (hseen : ∀ i ∈ selected, ∀ c, categoryAt values i = some c → c ∈ categories) :
    (selectFailureCategories values limit l selected categories).Perm
      (selected ++ (newestByCategory values l categories).take
        (max 1 (limit - selected.length))) := by
  induction l generalizing selected categories with
  | nil => simp [selectFailureCategories, newestByCategory]
  | cons i rest ih =>
    obtain ⟨hi, hrest⟩ := List.nodup_cons.mp hl
    rw [selectFailureCategories]
    cases hcat : categoryAt values i with
    | none =>
      rw [newestByCategory_of_none hcat, show (values[i]?).bind _ = none from hcat]
      exact ih hrest hseen
    | some c =>
      rw [show (values[i]?).bind _ = some c from hcat]
      by_cases hc : c ∈ categories
      · rw [newestByCategory_of_mem hcat hc]
        simp only [if_pos hc]
        exact ih hrest hseen
      · have hnew : i ∉ selected := fun hmem => hc (hseen i hmem c hcat)
        rw [newestByCategory_of_not_mem hcat hc]
        simp only [if_neg hc, List.insert_of_not_mem hnew, List.length_cons]
        have hmove : ∀ more : List ℕ, ((i :: selected) ++ more).Perm (selected ++ i :: more) :=
          fun more => List.perm_middle.symm
        by_cases hfull : limit ≤ selected.length + 1
        · rw [if_pos hfull, show max 1 (limit - selected.length) = 1 by omega]
          simpa using hmove []
        · rw [if_neg hfull]
          have hroom : max 1 (limit - selected.length) =
              max 1 (limit - (selected.length + 1)) + 1 := by omega
          rw [hroom, List.take_succ_cons]
          refine (@ih (c :: categories) (i :: selected) hrest fun j hj d hd => ?_).trans (hmove _)
          rcases List.mem_cons.mp hj with rfl | hj
          · rw [hcat] at hd
            exact List.mem_cons.mpr (.inl (Option.some.inj hd).symm)
          · exact List.mem_cons_of_mem _ (hseen j hj d hd)

lemma selectNewest_eq {selected : List ℕ} (hl : l.Nodup) (hroom : selected.length < limit) :
    selectNewest limit l selected =
      selected ++ (l.filter (· ∉ selected)).take (limit - selected.length) := by
  induction l generalizing selected with
  | nil => simp [selectNewest]
  | cons i rest ih =>
    obtain ⟨hi, hrest⟩ := List.nodup_cons.mp hl
    rw [selectNewest]
    by_cases hmem : i ∈ selected
    · rw [if_pos hmem, List.filter_cons_of_neg (by simp [hmem])]
      exact ih hrest hroom
    · rw [if_neg hmem, List.filter_cons_of_pos (by simp [hmem])]
      by_cases hfull : limit ≤ selected.length + 1
      · rw [if_pos hfull, show limit - selected.length = 1 by omega]
        rfl
      · rw [if_neg hfull, ih hrest (by simp; omega)]
        have hsame : rest.filter (· ∉ selected ++ [i]) = rest.filter (· ∉ selected) := by
          apply List.filter_congr
          intro j hj
          have hne : j ≠ i := fun heq => hi (heq ▸ hj)
          simp [hne]
        have hcount : limit - selected.length = limit - (selected ++ [i]).length + 1 := by
          simp
          omega
        rw [hsame, hcount, List.take_succ_cons, List.append_assoc]
        rfl

lemma nodup_newestFirst : (newestFirst values).Nodup :=
  List.nodup_reverse.mpr List.nodup_range

lemma mem_newestFirst : i ∈ newestFirst values ↔ i < values.length := by
  rw [newestFirst, List.mem_reverse, List.mem_range]

lemma length_keptBest_le : (keptBest values best limit).length ≤ limit := by
  simp only [keptBest, List.length_drop]
  omega

/-- The kept entries of the best attempt and the failures, as the two passes leave them. -/
lemma failures_perm (hroom : ¬ Overfull values best limit) :
    (selectFailureCategories values limit (newestFirst values) (keptBest values best limit)
        ((keptBest values best limit).filterMap (categoryAt values))).Perm
      ((keptBest values best limit ++ keptFailures values best limit).take limit) := by
  have hle : (keptBest values best limit).length ≤ limit := length_keptBest_le
  refine (selectFailureCategories_perm nodup_newestFirst fun i hi c hc =>
    List.mem_filterMap.mpr ⟨i, hi, hc⟩).trans (List.Perm.of_eq ?_)
  rw [List.take_append, List.take_of_length_le hle]
  congr 1
  by_cases hfull : limit ≤ (keptBest values best limit).length
  · have hnone : keptFailures values best limit = [] := by
      by_contra hsome
      exact hroom ⟨hfull, hsome⟩
    rw [show newestByCategory _ _ _ = [] from hnone, hnone]
    simp
  · rw [show max 1 (limit - (keptBest values best limit).length) =
      limit - (keptBest values best limit).length by omega]
    rfl

lemma keptSuccess_congr {kept kept' : List ℕ} (h : kept.Perm kept') :
    keptSuccess values kept = keptSuccess values kept' := by
  simp only [keptSuccess, h.mem_iff]

lemma success_perm {kept kept' : List ℕ} (h : kept.Perm kept') :
    ((keptSuccess values kept).elim kept fun i => kept ++ [i]).Perm
      (kept' ++ (keptSuccess values kept').toList) := by
  rw [keptSuccess_congr h]
  cases keptSuccess values kept' with
  | none => simpa using h
  | some i => exact h.append_right [i]

/-- **The passes keep what comes first among the priorities.** -/
theorem retainedIndices_perm (hroom : ¬ Overfull values best limit) :
    (retainedIndices values best limit).Perm ((priorities values best limit).take limit) := by
  have hfailures := failures_perm hroom
  have hunfold : retainedIndices values best limit =
      let kept := selectFailureCategories values limit (newestFirst values)
        (keptBest values best limit) ((keptBest values best limit).filterMap (categoryAt values))
      let kept := if kept.length < limit then
        (keptSuccess values kept).elim kept fun i => kept ++ [i] else kept
      if kept.length < limit then selectNewest limit (newestFirst values) kept else kept := rfl
  rw [hunfold]
  generalize selectFailureCategories values limit (newestFirst values)
    (keptBest values best limit) _ = kept at hfailures ⊢
  simp only [priorities]
  generalize keptBest values best limit ++ keptFailures values best limit = failures at hfailures ⊢
  have hlength := hfailures.length_eq
  rw [List.length_take] at hlength
  by_cases hfull : limit ≤ failures.length
  · -- no room is left for a success
    have hnot : ¬ kept.length < limit := by omega
    rw [if_neg hnot, if_neg hnot]
    rw [List.append_assoc, List.take_append_of_le_length hfull]
    exact hfailures
  · rw [List.take_of_length_le (by omega)] at hfailures
    have hopen : kept.length < limit := by omega
    simp only [if_pos hopen]
    have hsuccess := @success_perm values _ _ hfailures
    generalize (keptSuccess values kept).elim kept (fun i => kept ++ [i]) = kept' at hsuccess ⊢
    have hcount : (keptSuccess values failures).toList.length ≤ 1 := by
      cases keptSuccess values failures <;> simp
    have hfirst : (failures ++ (keptSuccess values failures).toList).length ≤ limit := by
      rw [List.length_append]
      omega
    generalize failures ++ (keptSuccess values failures).toList = first at hsuccess hfirst ⊢
    rw [List.take_append, List.take_of_length_le hfirst]
    have hsame := hsuccess.length_eq
    by_cases hleft : kept'.length < limit
    · rw [if_pos hleft, selectNewest_eq nodup_newestFirst hleft, hsame]
      simp only [hsuccess.mem_iff]
      exact hsuccess.append_right _
    · rw [if_neg hleft, show limit - first.length = 0 by omega]
      simpa using hsuccess

end Passes

/-! ## What is retained -/

section Retained

variable {values entries result : List AVOMemoryEntry} {best : Option String} {limit : ℕ}

lemma keptBest_sublist : (keptBest values best limit).Sublist (List.range values.length) := by
  refine (List.drop_sublist _ _).trans ?_
  cases best with
  | none => exact List.nil_sublist _
  | some best => exact List.filter_sublist

lemma disjoint_keptFailures :
    List.Disjoint (keptBest values best limit) (keptFailures values best limit) := by
  intro i hbest hfailure
  obtain ⟨c, hc, hout⟩ := category_of_mem hfailure
  exact hout (List.mem_filterMap.mpr ⟨i, hbest, hc⟩)

/-- **Every position has one priority.** -/
theorem priorities_perm : (priorities values best limit).Perm (List.range values.length) := by
  have hfailures : (keptBest values best limit ++ keptFailures values best limit).Nodup :=
    List.Nodup.append (List.nodup_range.sublist keptBest_sublist)
      (nodup_newestFirst.sublist (newestByCategory_sublist _ _)) disjoint_keptFailures
  have hbound : ∀ i ∈ keptBest values best limit ++ keptFailures values best limit,
      i < values.length := by
    intro i hi
    rcases List.mem_append.mp hi with hi | hi
    · exact List.mem_range.mp (keptBest_sublist.subset hi)
    · exact mem_newestFirst.mp ((newestByCategory_sublist _ _).subset hi)
  simp only [priorities]
  generalize keptBest values best limit ++ keptFailures values best limit = failures
    at hfailures hbound ⊢
  have hfirst : (failures ++ (keptSuccess values failures).toList).Nodup ∧
      ∀ i ∈ failures ++ (keptSuccess values failures).toList, i < values.length := by
    cases hsuccess : keptSuccess values failures with
    | none => simpa using ⟨hfailures, hbound⟩
    | some i =>
      have hnew := List.find?_some hsuccess
      have hmem := mem_newestFirst.mp (List.mem_of_find?_eq_some hsuccess)
      simp only [decide_eq_true_eq] at hnew
      constructor
      · refine List.Nodup.append hfailures (List.nodup_singleton i) fun j hj hji => ?_
        rw [Option.toList_some, List.mem_singleton] at hji
        exact hnew.1 (hji ▸ hj)
      · intro j hj
        rcases List.mem_append.mp hj with hj | hj
        · exact hbound j hj
        · rw [Option.toList_some, List.mem_singleton] at hj
          rwa [hj]
  generalize failures ++ (keptSuccess values failures).toList = first at hfirst ⊢
  have hnodup : (first ++ (newestFirst values).filter (· ∉ first)).Nodup := by
    refine List.Nodup.append hfirst.1 (nodup_newestFirst.filter _) fun i hi hrest => ?_
    simpa [hi] using (List.mem_filter.mp hrest).2
  refine (List.perm_ext_iff_of_nodup hnodup List.nodup_range).mpr fun i => ?_
  rw [List.mem_append, List.mem_filter, mem_newestFirst, List.mem_range]
  constructor
  · rintro (hi | ⟨hi, -⟩)
    · exact hfirst.2 i hi
    · exact hi
  · intro hi
    by_cases hmem : i ∈ first
    · exact .inl hmem
    · exact .inr ⟨hi, by simpa using hmem⟩

lemma entriesAt_congr {kept kept' : List ℕ} (h : kept.Perm kept') :
    entriesAt values kept = entriesAt values kept' := by
  simp only [entriesAt, h.mem_iff]

lemma filterMap_getElem?_range : (List.range values.length).filterMap (values[·]?) = values := by
  induction values with
  | nil => rfl
  | cons e values ih =>
    rw [List.length_cons, List.range_succ_eq_map, List.filterMap_cons, List.filterMap_map]
    exact congrArg (e :: ·) ih

lemma entriesAt_sublist (kept : List ℕ) : (entriesAt values kept).Sublist values := by
  have hsub := (List.filter_sublist (l := List.range values.length)
    (p := (· ∈ kept))).filterMap (values[·]?)
  rwa [filterMap_getElem?_range] at hsub

lemma length_entriesAt {kept : List ℕ} (hnodup : kept.Nodup)
    (hbound : ∀ i ∈ kept, i < values.length) : (entriesAt values kept).length = kept.length := by
  have hperm : ((List.range values.length).filter (· ∈ kept)).Perm kept := by
    refine (List.perm_ext_iff_of_nodup (List.nodup_range.filter _) hnodup).mpr fun i => ?_
    simp only [List.mem_filter, List.mem_range, decide_eq_true_eq]
    exact ⟨fun h => h.2, fun h => ⟨hbound i h, h⟩⟩
  have hall : ∀ l : List ℕ, (∀ i ∈ l, i < values.length) →
      (l.filterMap (values[·]?)).length = l.length := by
    intro l hl
    induction l with
    | nil => rfl
    | cons i l ih =>
      rw [List.filterMap_cons_some (List.getElem?_eq_getElem (hl i List.mem_cons_self)),
        List.length_cons, List.length_cons, ih fun j hj => hl j (List.mem_cons_of_mem _ hj)]
  rw [entriesAt, hall _ fun i hi => List.mem_range.mp (List.mem_of_mem_filter hi)]
  exact hperm.length_eq

lemma retainMemory_eq (h : retainMemory entries best limit = .ok result)
    (hroom : ¬ Overfull entries best limit) :
    result = entriesAt entries ((priorities entries best limit).take limit) := by
  rw [retainMemory, unit_bind_eq_ok] at h
  obtain ⟨-, h⟩ := h
  obtain ⟨values, hvalues, h⟩ := bind_eq_ok.mp h
  obtain ⟨-, rfl⟩ := validateMemoryEntries_eq_ok.mp hvalues
  have hperm : (priorities entries best limit).Perm (List.range entries.length) := priorities_perm
  by_cases hfits : entries.length ≤ limit
  · rw [if_pos hfits] at h
    obtain rfl := pure_eq_ok.mp h
    have hlength : (priorities entries best limit).length ≤ limit := by
      rwa [hperm.length_eq, List.length_range]
    rw [List.take_of_length_le hlength, entriesAt_congr hperm, entriesAt,
      List.filter_eq_self.mpr fun i hi => decide_eq_true hi, filterMap_getElem?_range]
  · rw [if_neg hfits] at h
    obtain rfl := pure_eq_ok.mp h
    exact entriesAt_congr (retainedIndices_perm hroom)

lemma mem_newestByCategory {l : List ℕ} {categories : List String} {i : ℕ} :
    i ∈ newestByCategory values l categories ↔ ∃ c pre post, l = pre ++ i :: post ∧
      categoryAt values i = some c ∧ c ∉ categories ∧ ∀ j ∈ pre, categoryAt values j ≠ some c := by
  induction l generalizing categories with
  | nil => simp [newestByCategory]
  | cons k rest ih =>
    -- passing over `k` changes nothing for a category that `k` does not have
    have hpass : (∀ c, categoryAt values k = some c → c ∈ categories) →
        ((∃ c pre post, rest = pre ++ i :: post ∧ categoryAt values i = some c ∧
            c ∉ categories ∧ ∀ j ∈ pre, categoryAt values j ≠ some c) ↔
          ∃ c pre post, k :: rest = pre ++ i :: post ∧ categoryAt values i = some c ∧
            c ∉ categories ∧ ∀ j ∈ pre, categoryAt values j ≠ some c) := by
      intro hk
      constructor
      · rintro ⟨c, pre, post, rfl, hc, hout, hpre⟩
        refine ⟨c, k :: pre, post, rfl, hc, hout, fun j hj heq => ?_⟩
        rcases List.mem_cons.mp hj with rfl | hj
        · exact hout (hk c heq)
        · exact hpre j hj heq
      · rintro ⟨c, pre, post, hsplit, hc, hout, hpre⟩
        cases pre with
        | nil =>
          obtain ⟨rfl, -⟩ := List.cons.inj hsplit
          exact absurd (hk c hc) hout
        | cons k' pre =>
          obtain ⟨rfl, hrest⟩ := List.cons.inj hsplit
          exact ⟨c, pre, post, hrest, hc, hout, fun j hj => hpre j (List.mem_cons_of_mem _ hj)⟩
    cases hk : categoryAt values k with
    | none =>
      rw [newestByCategory_of_none hk, ih]
      exact hpass fun c hc => by rw [hk] at hc; cases hc
    | some d =>
      by_cases hd : d ∈ categories
      · rw [newestByCategory_of_mem hk hd, ih]
        exact hpass fun c hc => by rwa [← Option.some.inj (hk.symm.trans hc)]
      · rw [newestByCategory_of_not_mem hk hd, List.mem_cons, ih]
        constructor
        · rintro (rfl | ⟨c, pre, post, rfl, hc, hout, hpre⟩)
          · exact ⟨d, [], rest, rfl, hk, hd, by simp⟩
          · refine ⟨c, k :: pre, post, rfl, hc, fun h => hout (List.mem_cons_of_mem _ h), ?_⟩
            intro j hj heq
            rcases List.mem_cons.mp hj with rfl | hj
            · exact hout (Option.some.inj (hk.symm.trans heq) ▸ List.mem_cons_self)
            · exact hpre j hj heq
        · rintro ⟨c, pre, post, hsplit, hc, hout, hpre⟩
          cases pre with
          | nil => exact .inl (List.cons.inj hsplit).1.symm
          | cons k' pre =>
            obtain ⟨rfl, hrest⟩ := List.cons.inj hsplit
            refine .inr ⟨c, pre, post, hrest, hc, fun hmem => ?_, fun j hj =>
              hpre j (List.mem_cons_of_mem _ hj)⟩
            rcases List.mem_cons.mp hmem with rfl | hmem
            · exact hpre k List.mem_cons_self hk
            · exact hout hmem

lemma newestFirst_pairwise : (newestFirst values).Pairwise (· > ·) :=
  List.pairwise_reverse.mpr List.pairwise_lt_range

/-- **The failures that are kept**: the newest of every category that no kept fact of the best
attempt has. -/
lemma mem_keptFailures {i : ℕ} :
    i ∈ keptFailures values best limit ↔ ∃ c, categoryAt values i = some c ∧
      (∀ j, i < j → categoryAt values j ≠ some c) ∧
        ∀ j ∈ keptBest values best limit, categoryAt values j ≠ some c := by
  have hseen : ∀ c, c ∉ (keptBest values best limit).filterMap (categoryAt values) ↔
      ∀ j ∈ keptBest values best limit, categoryAt values j ≠ some c := by
    intro c
    simp [List.mem_filterMap]
  have hsome : ∀ j c, categoryAt values j = some c → j < values.length := by
    intro j c hj
    by_contra hout
    rw [categoryAt, List.getElem?_eq_none (by omega)] at hj
    cases hj
  rw [keptFailures, mem_newestByCategory]
  constructor
  · rintro ⟨c, pre, post, hsplit, hc, hout, hpre⟩
    refine ⟨c, hc, fun j hij hj => ?_, (hseen c).mp hout⟩
    have hpairwise : (newestFirst values).Pairwise (· > ·) := newestFirst_pairwise
    have hmem := mem_newestFirst.mpr (hsome j c hj)
    rw [hsplit] at hpairwise hmem
    rcases List.mem_append.mp hmem with hmem | hmem
    · exact hpre j hmem hj
    · rcases List.mem_cons.mp hmem with rfl | hmem
      · omega
      · have hlt := (List.pairwise_cons.mp (List.pairwise_append.mp hpairwise).2.1).1 j hmem
        omega
  · rintro ⟨c, hc, hlast, hout⟩
    obtain ⟨pre, post, hsplit⟩ := List.append_of_mem (mem_newestFirst.mpr (hsome i c hc))
    refine ⟨c, pre, post, hsplit, hc, (hseen c).mpr hout, fun j hj => hlast j ?_⟩
    have hpairwise : (newestFirst values).Pairwise (· > ·) := newestFirst_pairwise
    rw [hsplit] at hpairwise
    exact (List.pairwise_append.mp hpairwise).2.2 j hj i List.mem_cons_self

lemma mem_keptBest {i : ℕ} {attempt : String} (hlimit : 0 < limit)
    (hi : attemptAt values i = some attempt)
    (hlast : ∀ j, i < j → attemptAt values j ≠ some attempt) :
    i ∈ keptBest values (some attempt) limit := by
  have hbound : i < values.length := by
    by_contra hout
    rw [attemptAt, List.getElem?_eq_none (by omega)] at hi
    cases hi
  obtain ⟨pre, post, hsplit⟩ := List.append_of_mem (List.mem_range.mpr hbound)
  have hpairwise := List.pairwise_lt_range (n := values.length)
  rw [hsplit] at hpairwise
  have hnone : post.filter (fun i => attemptAt values i = some attempt) = [] := by
    refine List.filter_eq_nil_iff.mpr fun j hj => ?_
    have hlt := (List.pairwise_cons.mp (List.pairwise_append.mp hpairwise).2.1).1 j hj
    simpa using hlast j hlt
  have hpositions : (List.range values.length).filter (fun i => attemptAt values i = some attempt) =
      pre.filter (fun i => attemptAt values i = some attempt) ++ [i] := by
    rw [hsplit, List.filter_append, List.filter_cons_of_pos (by simpa using hi), hnone]
  simp only [keptBest, Option.elim_some, hpositions]
  rw [List.drop_append_of_le_length (by simp; omega)]
  simp

/-- **What is retained**, as long as the best attempt does not fill the memory while a failure
category is left: as many facts as there is room for, in their order, and the first ones among the
priorities. So the newest fact of the best attempt is retained, and the newest fact of every
category that its kept facts do not show is, unless what is retained are these facts and newer
failures. -/
theorem retainMemory_spec (hlimit : 0 < limit)
    (h : retainMemory entries best limit = .ok result) (hroom : ¬ Overfull entries best limit) :
    result.Sublist entries ∧ result.length = min limit entries.length ∧
      ∃ kept, kept = (priorities entries best limit).take limit ∧
        result = entriesAt entries kept ∧
        (∀ i, best ≠ none → attemptAt entries i = best →
          (∀ j, i < j → attemptAt entries j ≠ best) → i ∈ kept) ∧
        (∀ i c, categoryAt entries i = some c → (∀ j, i < j → categoryAt entries j ≠ some c) →
          (∀ j ∈ keptBest entries best limit, categoryAt entries j ≠ some c) →
            i ∈ kept ∨ ∀ j ∈ kept, j ∈ keptBest entries best limit ∨
              (i < j ∧ j ∈ keptFailures entries best limit)) := by
  have hperm : (priorities entries best limit).Perm (List.range entries.length) := priorities_perm
  have hresult := retainMemory_eq h hroom
  refine ⟨?_, ?_, _, rfl, hresult, ?_, ?_⟩
  · rw [hresult]
    exact entriesAt_sublist _
  · rw [hresult, length_entriesAt, List.length_take, hperm.length_eq, List.length_range]
    · exact (hperm.nodup_iff.mpr List.nodup_range).sublist (List.take_sublist _ _)
    · exact fun i hi => List.mem_range.mp (hperm.subset (List.mem_of_mem_take hi))
  · intro i hbest hi hlast
    obtain ⟨attempt, rfl⟩ := Option.ne_none_iff_exists'.mp hbest
    have hmem := mem_keptBest hlimit hi hlast
    simp only [priorities, List.append_assoc]
    rw [List.take_append, List.take_of_length_le length_keptBest_le]
    exact List.mem_append_left _ hmem
  · intro i c hc hlast hout
    have hmem : i ∈ keptFailures entries best limit := mem_keptFailures.mpr ⟨c, hc, hlast, hout⟩
    obtain ⟨newer, older, hsplit⟩ := List.append_of_mem hmem
    have hsub : (keptFailures entries best limit).Sublist (newestFirst entries) :=
      newestByCategory_sublist _ _
    have hpairwise := newestFirst_pairwise.sublist hsub
    rw [hsplit] at hpairwise
    have hnewer : ∀ j ∈ newer, i < j := fun j hj =>
      (List.pairwise_append.mp hpairwise).2.2 j hj i List.mem_cons_self
    obtain ⟨rest, hshape⟩ : ∃ rest, priorities entries best limit =
        (keptBest entries best limit ++ newer) ++ i :: rest := by
      simp only [priorities, hsplit, List.append_assoc, List.cons_append]
      exact ⟨_, rfl⟩
    rw [hshape]
    by_cases hfits : (keptBest entries best limit ++ newer).length < limit
    · left
      obtain ⟨n, hn⟩ : ∃ n, limit - (keptBest entries best limit ++ newer).length = n + 1 :=
        ⟨limit - (keptBest entries best limit ++ newer).length - 1, by omega⟩
      rw [List.take_append, hn]
      simp
    · right
      intro j hj
      rw [List.take_append_of_le_length (by omega)] at hj
      rcases List.mem_append.mp (List.mem_of_mem_take hj) with hbest | hnew
      · exact .inl hbest
      · refine .inr ⟨hnewer j hnew, ?_⟩
        rw [hsplit]
        exact List.mem_append_left _ hnew

end Retained

/-! ## A success before newer facts -/

/-- The rest of the memory is filled with the newest other facts: a fact that is neither of the
best attempt nor of a failure category is retained only with every newer fact of that kind. -/
def FillsNewest (entries : List AVOMemoryEntry) (best : Option String)
    (result : List AVOMemoryEntry) : Prop :=
  ∀ (i j : ℕ) (e f : AVOMemoryEntry), i < j → entries[i]? = some e → entries[j]? = some f →
    (e.failureCategory = none ∧ some e.sourceAttemptId ≠ best) →
      (f.failureCategory = none ∧ some f.sourceAttemptId ≠ best) → e ∈ result → f ∈ result

/-- A fact about an attempt. -/
def plainFact (attemptId : String) (outcome : AVOMemoryOutcome)
    (failureCategory : Option String) : AVOMemoryEntry where
  sourceVariationId := "variation-1"
  sourceAttemptId := attemptId
  hypothesis := "a better prompt"
  changeSummary := "prompt"
  evidenceSummary := "evaluated"
  outcome
  failureCategory

/-- A success and two other facts. -/
def oldSuccess : List AVOMemoryEntry :=
  [plainFact "a-1" .improved none, plainFact "a-2" .notImproved none,
    plainFact "a-3" .notImproved none]

/-- Two failures of two categories before the best attempt. -/
def mixedFacts : List AVOMemoryEntry :=
  [plainFact "a-1" .invalid (some "format"), plainFact "a-2" .notImproved (some "units"),
    plainFact "a-3" .improved none]

/-- The best attempt and the newest failure. -/
theorem retainMemory_mixedFacts :
    0 < 2 ∧ retainMemory mixedFacts (some "a-3") 2 = .ok
        [plainFact "a-2" .notImproved (some "units"), plainFact "a-3" .improved none] ∧
      ¬ Overfull mixedFacts (some "a-3") 2 ∧
      [plainFact "a-2" .notImproved (some "units"), plainFact "a-3" .improved none].Sublist
        mixedFacts :=
  ⟨by decide, by decide +kernel, by decide +kernel,
    (retainMemory_spec (by decide) (by decide +kernel : retainMemory mixedFacts (some "a-3") 2 =
      .ok [plainFact "a-2" .notImproved (some "units"), plainFact "a-3" .improved none])
      (by decide +kernel)).1⟩

/-- **An older success is retained in the place of a newer fact.** -/
theorem not_fillsNewest_success :
    ∃ result, retainMemory oldSuccess none 2 = .ok result ∧
      ¬ FillsNewest oldSuccess none result := by
  have hresult : retainMemory oldSuccess none 2 =
      .ok [plainFact "a-1" .improved none, plainFact "a-3" .notImproved none] := by decide +kernel
  refine ⟨_, hresult, fun hfills => ?_⟩
  have hmem := hfills 0 1 (plainFact "a-1" .improved none) (plainFact "a-2" .notImproved none)
    (by decide) rfl rfl ⟨rfl, nofun⟩ ⟨rfl, nofun⟩ List.mem_cons_self
  revert hmem
  decide +kernel

end AecBench.Evolution
