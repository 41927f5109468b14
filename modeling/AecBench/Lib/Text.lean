import Mathlib.Data.List.TakeWhile
import Mathlib.Tactic.Common

/-!
# Texts as Python sees them

The few string functions that record validators rely on: white space as `str.strip` removes
it, hexadecimal digests, and numbers padded with zeros to a width.

## Main definitions

* `Text.Blank` — `not value.strip()`; `Text.NonEmptyStr` — a text that is not blank.
* `Text.strip`, `Text.words`, `Text.readBack` — `str.strip`, `str.split` and the line ends of text
  files; `Text.repr` — the `repr` of a text.
* `Text.HexDigest` — 64 lowercase hexadecimal characters.
* `Text.padded` — the format `{n:0{width}d}`.

## Main results

* `Text.not_blank_append`, `Text.not_blank_append_right` — a text that starts or ends with a
  visible text is not blank.
* `Text.words_intercalate` — words that are joined by a space are split again.
* `Text.padded_injective` — the padding determines the number; `Text.mark_padded_inj` — also after
  a text and a mark.
-/

namespace Text

/-- The code points `str.strip` removes, as ranges. -/
def whiteSpace : List (ℕ × ℕ) :=
  [(0x09, 0x0D), (0x1C, 0x20), (0x85, 0x85), (0xA0, 0xA0), (0x1680, 0x1680), (0x2000, 0x200A),
    (0x2028, 0x2029), (0x202F, 0x202F), (0x205F, 0x205F), (0x3000, 0x3000)]

def isSpace (c : Char) : Bool := whiteSpace.any fun r => r.1 ≤ c.toNat && c.toNat ≤ r.2

/-- `not value.strip()`. -/
def Blank (s : String) : Prop := s.toList.all isSpace = true

instance (s : String) : Decidable (Blank s) := inferInstanceAs (Decidable (_ = true))

/-- A text that starts with a visible text is not blank. -/
lemma not_blank_append {s : String} (t : String) (h : ¬ Blank s) : ¬ Blank (s ++ t) := by
  intro ht
  rw [Blank, String.toList_append, List.all_append, Bool.and_eq_true] at ht
  exact h ht.1

/-- A text that ends with a visible text is not blank. -/
lemma not_blank_append_right {t : String} (s : String) (h : ¬ Blank t) : ¬ Blank (s ++ t) := by
  intro ht
  rw [Blank, String.toList_append, List.all_append, Bool.and_eq_true] at ht
  exact h ht.2

/-- A text with at least one visible character. -/
@[ext]
structure NonEmptyStr where
  val : String
  not_blank : ¬ Blank val

instance : DecidableEq NonEmptyStr := fun s t =>
  decidable_of_iff (s.val = t.val) NonEmptyStr.ext_iff.symm

instance : Inhabited NonEmptyStr := ⟨⟨"x", by decide⟩⟩

/-- A text that starts with a visible text. -/
def NonEmptyStr.append (s : NonEmptyStr) (t : String) : NonEmptyStr :=
  ⟨s.val ++ t, not_blank_append t s.not_blank⟩

/-- `s.strip()`. -/
def strip (s : String) : String :=
  String.ofList ((s.toList.dropWhile isSpace).reverse.dropWhile isSpace).reverse

/-- Stripping a visible text leaves a visible text. -/
lemma not_blank_strip {s : String} (h : ¬ Blank s) : ¬ Blank (strip s) := by
  rw [Blank, Bool.not_eq_true, List.all_eq_false] at h
  obtain ⟨c, hc, hspace⟩ := h
  have hdrop : ∀ cs : List Char, c ∈ cs → c ∈ cs.dropWhile isSpace := by
    intro cs hcs
    rw [← List.takeWhile_append_dropWhile (p := isSpace) (l := cs)] at hcs
    rcases List.mem_append.mp hcs with htake | hdrop
    · exact absurd (List.mem_takeWhile_imp htake) hspace
    · exact hdrop
  have hmem : c ∈ ((s.toList.dropWhile isSpace).reverse.dropWhile isSpace).reverse :=
    List.mem_reverse.mpr (hdrop _ (List.mem_reverse.mpr (hdrop _ hc)))
  rw [Blank, strip, String.toList_ofList, Bool.not_eq_true, List.all_eq_false]
  exact ⟨c, hmem, hspace⟩

/-- The words of `s.split()`. -/
def words (s : String) : List String :=
  ((s.toList.splitOnP isSpace).filter (· ≠ [])).map String.ofList

/-- A text without white space, and not empty. -/
structure Word (s : String) : Prop where
  ne_nil : s.toList ≠ []
  visible : ∀ c ∈ s.toList, isSpace c = false

lemma eq_false_of_mem_splitOnP {p : Char → Bool} {cs piece : List Char}
    (h : piece ∈ cs.splitOnP p) : ∀ c ∈ piece, p c = false := by
  induction cs generalizing piece with
  | nil =>
    rw [List.splitOnP_nil, List.mem_singleton] at h
    simp [h]
  | cons c cs ih =>
    obtain ⟨first, rest, hsplit⟩ := List.exists_cons_of_ne_nil (List.splitOnP_ne_nil p cs)
    rw [hsplit] at ih
    rw [List.splitOnP_cons_eq_if_modifyHead, hsplit] at h
    split_ifs at h with hc
    · rcases List.mem_cons.mp h with rfl | h
      · simp
      · exact ih h
    · rcases List.mem_cons.mp h with rfl | h
      · exact List.forall_mem_cons.mpr ⟨Bool.eq_false_iff.mpr hc, ih List.mem_cons_self⟩
      · exact ih (List.mem_cons_of_mem _ h)

lemma word_of_mem_words {s word : String} (h : word ∈ words s) : Word word := by
  obtain ⟨piece, hpiece, rfl⟩ := List.mem_map.mp h
  obtain ⟨hmem, hne⟩ := List.mem_filter.mp hpiece
  constructor
  · simpa using hne
  · rw [String.toList_ofList]
    exact eq_false_of_mem_splitOnP hmem

/-- Words that are joined by a space are split again. -/
lemma words_intercalate {ws : List String} (h : ∀ word ∈ ws, Word word) :
    words (" ".intercalate ws) = ws := by
  induction ws with
  | nil => rfl
  | cons word rest ih =>
    obtain ⟨hword, hrest⟩ := List.forall_mem_cons.mp h
    cases rest with
    | nil =>
      have hsplit := List.splitOnP_eq_singleton hword.visible
      simp [words, hsplit, hword.ne_nil]
    | cons next rest =>
      have hsplit := List.splitOnP_append_cons_of_forall_mem hword.visible ' ' (by decide)
        (" ".intercalate (next :: rest)).toList
      have htail := ih hrest
      rw [words] at htail
      have hjoin : (" ".intercalate (word :: next :: rest)).toList =
          word.toList ++ ' ' :: (" ".intercalate (next :: rest)).toList := by
        rw [String.intercalate_cons_cons, String.toList_append, String.toList_append,
          List.append_assoc]
        rfl
      rw [words, hjoin, hsplit, List.filter_cons_of_pos (by simpa using hword.ne_nil),
        List.map_cons, htail, String.ofList_toList]

/-- Line ends as text files are read: each of CR LF and CR is one LF. -/
def newlines : List Char → List Char
  | '\r' :: '\n' :: rest => '\n' :: newlines rest
  | '\r' :: rest => '\n' :: newlines rest
  | c :: rest => c :: newlines rest
  | [] => []

/-- A text after it is written to a file and read back. -/
def readBack (s : String) : String := String.ofList (newlines s.toList)

/-- The escape of a character in a `repr` with the quote `q`. -/
def reprChar (q c : Char) : List Char :=
  if c = q ∨ c.toNat = 92 then [Char.ofNat 92, c]
  else if c = '\n' then [Char.ofNat 92, 'n']
  else if c = '\r' then [Char.ofNat 92, 'r']
  else if c = '\t' then [Char.ofNat 92, 't']
  else if c.toNat < 32 ∨ c.toNat = 127 then
    [Char.ofNat 92, 'x', Nat.digitChar (c.toNat / 16), Nat.digitChar (c.toNat % 16)]
  else [c]

/-- `repr(s)`; characters beyond ASCII stand as they are. -/
def repr (s : String) : String :=
  let single := Char.ofNat 39
  let double := Char.ofNat 34
  let q := if single ∈ s.toList ∧ double ∉ s.toList then double else single
  String.ofList (q :: s.toList.flatMap (reprChar q) ++ [q])

/-- 64 lowercase hexadecimal characters. -/
def HexDigest (s : String) : Prop :=
  s.toList.length = 64 ∧ s.toList.all (fun c => "0123456789abcdef".toList.contains c) = true

instance (s : String) : Decidable (HexDigest s) := inferInstanceAs (Decidable (_ ∧ _))

/-- The decimal digits of `n`, padded with zeros to `width`. -/
def padded (width n : ℕ) : String :=
  String.ofList (List.replicate (width - (Nat.toDigits 10 n).length) '0' ++ Nat.toDigits 10 n)

/-- Leading zeros do not change the number a list of digits stands for. -/
lemma ofDigitChars_replicate_zero (k : ℕ) (ds : List Char) :
    Nat.ofDigitChars 10 (List.replicate k '0' ++ ds) 0 = Nat.ofDigitChars 10 ds 0 := by
  induction k with
  | zero => rfl
  | succ k ih =>
    exact ih

/-- The padding determines the number. -/
lemma padded_injective (width : ℕ) : Function.Injective (padded width) := by
  intro n m h
  have hl := congrArg String.toList h
  rw [padded, padded, String.toList_ofList, String.toList_ofList] at hl
  have hv := congrArg (fun ds => Nat.ofDigitChars 10 ds 0) hl
  simp only [ofDigitChars_replicate_zero] at hv
  rwa [Nat.ofDigitChars_ten_toDigits, Nat.ofDigitChars_ten_toDigits] at hv

/-- A padded number is made of digits. -/
lemma isDigit_of_mem_padded {width n : ℕ} {c : Char} (h : c ∈ (padded width n).toList) :
    c.isDigit = true := by
  rw [padded, String.toList_ofList] at h
  rcases List.mem_append.mp h with h | h
  · rw [List.eq_of_mem_replicate h]
    decide
  · exact Nat.isDigit_of_mem_toDigits (by decide) (by decide) h

/-- The lists before and after a last mark are determined. -/
lemma append_cons_inj {α : Type} {a : α} {xs ys ds es : List α} (hds : a ∉ ds) (hes : a ∉ es)
    (h : xs ++ a :: ds = ys ++ a :: es) : xs = ys ∧ ds = es := by
  rcases List.append_eq_append_iff.mp h with ⟨t, rfl, ht⟩ | ⟨t, rfl, ht⟩
  · cases t with
    | nil => simpa using ht
    | cons b t =>
      obtain ⟨-, rfl⟩ : a = b ∧ ds = t ++ a :: es := by simpa using ht
      exact absurd (by simp) hds
  · cases t with
    | nil => simpa [eq_comm] using ht
    | cons b t =>
      obtain ⟨-, rfl⟩ : a = b ∧ es = t ++ a :: ds := by simpa using ht
      exact absurd (by simp) hes

/-- What stands before a padded number and a mark that is no digit is determined, and the number. -/
lemma mark_padded_inj {mark : Char} (hmark : mark.isDigit = false) {width n m : ℕ}
    {xs ys : List Char} (h : xs ++ mark :: (padded width n).toList =
      ys ++ mark :: (padded width m).toList) : xs = ys ∧ n = m := by
  have hfree (k : ℕ) : mark ∉ (padded width k).toList := fun hmem => by
    rw [isDigit_of_mem_padded hmem] at hmark
    cases hmark
  obtain ⟨hbefore, hnumber⟩ := append_cons_inj (hfree n) (hfree m) h
  exact ⟨hbefore, padded_injective width (String.toList_inj.mp hnumber)⟩

end Text
