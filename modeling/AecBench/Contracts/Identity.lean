import Mathlib.Data.PNat.Defs
import Mathlib.Data.List.Nodup
import AecBench.Lib.Text

/-!
# Identities of durable entities

A durable entity has a UUIDv7, a readable key and a positive version. A key is made of
components between slashes; a component starts with a lowercase letter or a digit and goes on
with these, hyphens and underscores.

## Main definitions

* `EntityId` — a UUIDv7, in the form `str` gives it.
* `EntityKey` — a valid key.
* `EntityIdentity` — id, key, version and aliases.

## Main results

* `keyChars_append` — a valid key goes on with anything that can follow inside a component.
-/

namespace AecBench.Contracts

/-! ## Ids -/

/-- A lowercase hexadecimal digit. -/
def isHexChar (c : Char) : Bool := "0123456789abcdef".toList.contains c

/-- The canonical text of a UUID of version 7 and the RFC 4122 variant. -/
def isUuid7 (text : String) : Bool :=
  match text.toList.splitOn '-' with
  | [timeHigh, timeLow, version, variant, node] =>
    [timeHigh, timeLow, version, variant, node].map List.length == [8, 4, 4, 4, 12] &&
      text.toList.all (fun c => c == '-' || isHexChar c) &&
      version.head? == some '7' && (variant.head?.any fun c => "89ab".toList.contains c)
  | _ => false

/-- A UUIDv7. Two ids are equal when their canonical texts are. -/
@[ext]
structure EntityId where
  text : String
  valid : isUuid7 text = true

instance : DecidableEq EntityId := fun a b =>
  decidable_of_iff (a.text = b.text) EntityId.ext_iff.symm

/-! ## Keys -/

/-- A lowercase ASCII letter or a digit. -/
def isKeyStart (c : Char) : Bool := c.isDigit || ('a' ≤ c && c ≤ 'z')

/-- A character that can follow inside a component. -/
def isKeyInner (c : Char) : Bool := isKeyStart c || c == '_' || c == '-'

/-- The pattern of a key, read from the start of a component or from inside one. -/
def keyChars (atStart : Bool) : List Char → Bool
  | [] => !atStart
  | c :: cs =>
    if atStart then isKeyStart c && keyChars false cs
    else if c = '/' then keyChars true cs
    else isKeyInner c && keyChars false cs

/-- A validated human-readable key. -/
@[ext]
structure EntityKey where
  text : String
  valid : keyChars true text.toList = true

instance : DecidableEq EntityKey := fun a b =>
  decidable_of_iff (a.text = b.text) EntityKey.ext_iff.symm

lemma isKeyStart_ne_slash {c : Char} (h : isKeyStart c = true) : c ≠ '/' := by
  rintro rfl
  exact absurd h (by decide)

lemma keyChars_false {cs : List Char} (h : keyChars true cs = true) : keyChars false cs = true := by
  cases cs with
  | nil => exact absurd h (by decide)
  | cons c cs =>
    simp only [keyChars, if_true, Bool.and_eq_true] at h
    simp [keyChars, isKeyStart_ne_slash h.1, isKeyInner, h.1, h.2]

lemma keyChars_append {b : Bool} {cs ds : List Char} (hcs : keyChars b cs = true)
    (hds : keyChars false ds = true) : keyChars b (cs ++ ds) = true := by
  induction cs generalizing b with
  | nil =>
    cases b with
    | true => exact absurd hcs (by decide)
    | false => exact hds
  | cons c cs ih =>
    cases b with
    | true =>
      simp only [List.cons_append, keyChars, if_true, Bool.and_eq_true] at hcs ⊢
      exact ⟨hcs.1, ih hcs.2⟩
    | false =>
      by_cases hslash : c = '/'
      · have htail : keyChars true cs = true := by simpa [keyChars, hslash] using hcs
        simpa [keyChars, hslash] using ih htail
      · have hinner : isKeyInner c = true ∧ keyChars false cs = true := by
          simpa [keyChars, hslash] using hcs
        simpa [keyChars, hslash, hinner.1] using ih hinner.2

lemma keyChars_of_inner {cs : List Char} (h : ∀ c ∈ cs, isKeyInner c = true) :
    keyChars false cs = true := by
  induction cs with
  | nil => rfl
  | cons c cs ih =>
    have hc := h c List.mem_cons_self
    have hslash : c ≠ '/' := by
      rintro rfl
      exact absurd hc (by decide)
    simp [keyChars, hslash, hc, ih fun d hd => h d (List.mem_cons_of_mem _ hd)]

/-! ## Identities -/

/-- Stable identity, readable key and positive version. -/
structure EntityIdentity where
  id : EntityId
  key : EntityKey
  version : ℕ+
  aliases : List EntityKey
  key_not_mem : key ∉ aliases
  aliases_nodup : aliases.Nodup
  deriving DecidableEq

/-- An identity without aliases. -/
def EntityIdentity.plain (id : EntityId) (key : EntityKey) (version : ℕ+) : EntityIdentity where
  id
  key
  version
  aliases := []
  key_not_mem := List.not_mem_nil
  aliases_nodup := List.nodup_nil

end AecBench.Contracts
