import Mathlib.Algebra.Order.Ring.Int

/-!
# Byte frames

A text of unknown length is written after its length, a number of fixed width. A reader then finds
where the text ends, whatever follows it.

## Main definitions

* `Framing.bigEndian` — a number in a fixed count of bytes, the most significant first.
* `Framing.frame` — a text after its length in eight bytes.

## Main results

* `Framing.bigEndian_injective` — the bytes determine a number that fits in them.
* `Framing.frame_append_injective` — a frame at the head of a stream determines its text and the
  rest of the stream.
-/

namespace Framing

/-- `n.to_bytes(width, "big")`, for a number that fits. -/
def bigEndian : ℕ → ℕ → List UInt8
  | 0, _ => []
  | width + 1, n => bigEndian width (n / 256) ++ [UInt8.ofNat (n % 256)]

@[simp]
lemma length_bigEndian (width n : ℕ) : (bigEndian width n).length = width := by
  induction width generalizing n with
  | zero => rfl
  | succ width ih => simp [bigEndian, ih]

/-- **Bytes determine the number**, when it fits in them. -/
theorem bigEndian_injective {width m n : ℕ} (hm : m < 256 ^ width) (hn : n < 256 ^ width)
    (h : bigEndian width m = bigEndian width n) : m = n := by
  induction width generalizing m n with
  | zero =>
    omega
  | succ width ih =>
    obtain ⟨hhigh, hlow⟩ := List.append_inj h (by simp)
    have hdiv : m / 256 = n / 256 :=
      ih (Nat.div_lt_of_lt_mul (by rwa [Nat.pow_succ, Nat.mul_comm] at hm))
        (Nat.div_lt_of_lt_mul (by rwa [Nat.pow_succ, Nat.mul_comm] at hn)) hhigh
    have hmod : m % 256 = n % 256 := by
      have := congrArg UInt8.toNat (List.singleton_inj.mp hlow)
      simpa using this
    omega

/-- A text after its length. -/
def frame (text : List UInt8) : List UInt8 := bigEndian 8 text.length ++ text

lemma frame_ne_nil (text : List UInt8) : frame text ≠ [] := by
  intro h
  have := congrArg List.length h
  simp [frame] at this

/-- **A frame ends where its text ends**: at the head of a stream it determines its text and what
follows. -/
theorem frame_append_injective {a b x y : List UInt8} (ha : a.length < 2 ^ 64)
    (hb : b.length < 2 ^ 64) (h : frame a ++ x = frame b ++ y) : a = b ∧ x = y := by
  simp only [frame, List.append_assoc] at h
  obtain ⟨hsize, hrest⟩ := List.append_inj h (by simp)
  have hlength : a.length = b.length := bigEndian_injective ha hb hsize
  exact List.append_inj hrest hlength

end Framing
