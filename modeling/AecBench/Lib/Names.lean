import Mathlib.Data.List.Basic

/-!
# Composite names

Names put together from parts with a hyphen between them: what Python's string functions take off
them, and when the name determines its parts.

## Main definitions

* `Names.removePrefix`, `Names.lastPart`, `Names.splitLast`, `Names.lower`, `Names.replace` —
  `str.removeprefix`, the last part of `str.split`, `str.rsplit` with one split, `str.lower` of
  ASCII, `str.replace`.

## Main results

* `Names.numbered_injective` — a name that ends in a number determines the number.
* `Names.coded_injective` — a name that ends in one of several codes determines the code, when no
  code is a suffix of another.
-/

namespace Names

/-- `s.removeprefix(first)`. -/
def removePrefix (first s : String) : String :=
  if first.toList.isPrefixOf s.toList then String.ofList (s.toList.drop first.toList.length) else s

/-- `s.split("-")[-1]`. -/
def lastPart (s : String) : String := String.ofList ((s.toList.splitOn '-').getLastD [])

/-- `s.rsplit(sep, 1)`, when `sep` stands in the text. -/
def splitLast (sep : Char) (s : String) : Option (String × String) :=
  let last := s.toList.reverse.takeWhile (· ≠ sep)
  match s.toList.reverse.dropWhile (· ≠ sep) with
  | [] => none
  | _ :: before => some (String.ofList before.reverse, String.ofList last.reverse)

/-- `s.lower()`, for a text in ASCII. -/
def lower (s : String) : String := String.ofList (s.toList.map Char.toLower)

/-- A text with a part replaced; the first characters of a part found already are skipped. -/
def replaceFrom (old new : List Char) : ℕ → List Char → List Char
  | _, [] => []
  | skip + 1, _ :: rest => replaceFrom old new skip rest
  | 0, c :: rest =>
    if old.isPrefixOf (c :: rest) then new ++ replaceFrom old new (old.length - 1) rest
    else c :: replaceFrom old new 0 rest

/-- `s.replace(old, new)`, for `old` not empty. -/
def replace (old new s : String) : String :=
  String.ofList (replaceFrom old.toList new.toList 0 s.toList)

/-- The digits of a number hold no hyphen. -/
lemma hyphen_notMem_toString (n : ℕ) : '-' ∉ (toString n).toList := by
  rw [Nat.toString_eq_repr, Nat.toList_repr]
  intro hmem
  have hdigit := Nat.isDigit_of_mem_toDigits (by omega) (by omega) hmem
  exact absurd hdigit (by decide)

/-- What follows the last hyphen, and what stands before it. -/
lemma append_hyphen_injective {s t : List Char} {a b : List Char} (ha : '-' ∉ a) (hb : '-' ∉ b)
    (h : s ++ '-' :: a = t ++ '-' :: b) : s = t ∧ a = b := by
  have hsplit := (List.append_eq_append_iff.mp h)
  rcases hsplit with ⟨rest, ht, hs⟩ | ⟨rest, hs, ht⟩
  · cases rest with
    | nil =>
      rw [List.append_nil] at ht
      rw [List.nil_append, List.cons.injEq] at hs
      exact ⟨ht.symm, hs.2⟩
    | cons c rest =>
      rw [List.cons_append, List.cons.injEq] at hs
      have hmem : '-' ∈ a := by
        rw [hs.2]
        simp
      exact absurd hmem ha
  · cases rest with
    | nil =>
      rw [List.append_nil] at hs
      rw [List.nil_append, List.cons.injEq] at ht
      exact ⟨hs, ht.2.symm⟩
    | cons c rest =>
      rw [List.cons_append, List.cons.injEq] at ht
      have hmem : '-' ∈ b := by
        rw [ht.2]
        simp
      exact absurd hmem hb

/-- **A name that ends in a number** determines the number, and what stands before it. -/
lemma numbered_injective {s t : String} {n m : ℕ}
    (h : s ++ "-" ++ toString n = t ++ "-" ++ toString m) : s = t ∧ n = m := by
  have hlist := congrArg String.toList h
  simp only [String.toList_append, List.append_assoc] at hlist
  obtain ⟨hs, hn⟩ := append_hyphen_injective (hyphen_notMem_toString n) (hyphen_notMem_toString m)
    hlist
  refine ⟨String.toList_inj.mp hs, ?_⟩
  have hvalue := congrArg (fun digits => Nat.ofDigitChars 10 digits 0) hn
  simpa using hvalue

/-- No code is a suffix of another. -/
def SuffixFree (codes : List String) : Prop :=
  ∀ c ∈ codes, ∀ d ∈ codes, c.toList <:+ d.toList → c = d

instance (codes : List String) : Decidable (SuffixFree codes) :=
  inferInstanceAs (Decidable (∀ c ∈ codes, ∀ d ∈ codes, _ → _))

/-- **A name that ends in a code** determines the code, and what stands before it. -/
lemma coded_injective {codes : List String} (hfree : SuffixFree codes) {s t c d : String}
    (hc : c ∈ codes) (hd : d ∈ codes) (h : s ++ c = t ++ d) : s = t ∧ c = d := by
  have hlist := congrArg String.toList h
  simp only [String.toList_append] at hlist
  have hcd : c = d := by
    have hsuffix : c.toList <:+ t.toList ++ d.toList := ⟨s.toList, hlist⟩
    rcases Nat.le_total c.toList.length d.toList.length with hle | hle
    · exact hfree c hc d hd
        (List.suffix_of_suffix_length_le hsuffix (List.suffix_append _ _) hle)
    · exact (hfree d hd c hc
        (List.suffix_of_suffix_length_le (List.suffix_append _ _) hsuffix hle)).symm
  subst hcd
  exact ⟨String.toList_inj.mp (List.append_cancel_right hlist), rfl⟩

end Names
