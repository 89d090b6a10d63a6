import Mathlib
import StoryMend.Number.Binary

/-!
Binary numbers as rationals.  Two finite ones are compared by their values (`atMost_iff_le`), so
a number within two others is finite and its value lies between theirs.
-/

namespace StoryMend.Number

theorem scaled_two_pos (n : ℕ) (e : ℤ) : 0 < (scaled n 2 e).2 := by
  rw [scaled]
  split
  · exact Nat.pow_pos Nat.zero_lt_two
  · exact Nat.one_pos

/-- The numerator and the denominator of a multiple of a power of two. -/
theorem scaled_two_div (n : ℕ) (e : ℤ) :
    ((scaled n 2 e).1 / (scaled n 2 e).2 : ℚ) = n * 2 ^ e := by
  rw [scaled]
  split
  next hneg =>
    obtain ⟨k, hk⟩ := Int.eq_ofNat_of_zero_le (Int.neg_nonneg.2 hneg.le)
    obtain rfl : e = -k := by omega
    simp [div_eq_mul_inv]
  next hpos =>
    obtain ⟨k, rfl⟩ := Int.eq_ofNat_of_zero_le (Int.not_lt.1 hpos)
    simp

/-- Multiples of powers of two are compared crosswise. -/
theorem scaled_two_le_iff (m n : ℕ) (d e : ℤ) :
    (scaled m 2 d).1 * (scaled n 2 e).2 ≤ (scaled n 2 e).1 * (scaled m 2 d).2 ↔
      (m * 2 ^ d : ℚ) ≤ n * 2 ^ e := by
  have hm : (0 : ℚ) < (scaled m 2 d).2 := Nat.cast_pos.2 (scaled_two_pos m d)
  have hn : (0 : ℚ) < (scaled n 2 e).2 := Nat.cast_pos.2 (scaled_two_pos n e)
  rw [← scaled_two_div, ← scaled_two_div, div_le_div_iff₀ hm hn]
  exact_mod_cast Iff.rfl

theorem scaled_two_eq_zero_iff (n : ℕ) (e : ℤ) :
    (scaled n 2 e).1 = 0 ↔ (n * 2 ^ e : ℚ) = 0 := by
  have hpos : ((scaled n 2 e).2 : ℚ) ≠ 0 := Nat.cast_ne_zero.2 (scaled_two_pos n e).ne'
  rw [← scaled_two_div, div_eq_zero_iff, or_iff_left hpos, Nat.cast_eq_zero]

namespace Binary

/-- The value of a finite number. -/
def value? : Binary → Option ℚ
  | finite negative mantissa exponent =>
    some (if negative then -(mantissa * 2 ^ exponent) else mantissa * 2 ^ exponent)
  | _ => none

/-- Finite numbers are compared by their values. -/
theorem atMost_iff_le {x y : Binary} {a b : ℚ} (hx : x.value? = some a) (hy : y.value? = some b) :
    x.atMost y = true ↔ a ≤ b := by
  cases x with
  | infinite | nan => cases hx
  | finite s m d =>
    cases y with
    | infinite | nan => cases hy
    | finite t n e =>
      obtain rfl := Option.some.inj hx
      obtain rfl := Option.some.inj hy
      have hm : (0 : ℚ) ≤ m * 2 ^ d := by positivity
      have hn : (0 : ℚ) ≤ n * 2 ^ e := by positivity
      have hle := scaled_two_le_iff m n d e
      have hge := scaled_two_le_iff n m e d
      have hmzero := scaled_two_eq_zero_iff m d
      have hnzero := scaled_two_eq_zero_iff n e
      cases s <;> cases t
      · simpa [atMost] using hle
      · have hnone : (m * 2 ^ d : ℚ) ≤ -(n * 2 ^ e) ↔ (m * 2 ^ d : ℚ) = 0 ∧ (n * 2 ^ e : ℚ) = 0 :=
          ⟨fun h => ⟨by linarith, by linarith⟩, fun h => by linarith [h.1, h.2]⟩
        simp [atMost, hnone, hmzero, hnzero]
      · have hsigns : -(m * 2 ^ d : ℚ) ≤ n * 2 ^ e := by linarith
        simp [atMost, hsigns]
      · simpa [atMost] using hge

theorem exists_value?_iff {x : Binary} : (∃ a, x.value? = some a) ↔ x.isFinite = true := by
  cases x <;> simp [value?, isFinite]

/-- A number within two finite ones is finite, and its value is between theirs. -/
theorem isWithin_iff {x least most : Binary} {a b : ℚ} (hleast : least.value? = some a)
    (hmost : most.value? = some b) :
    x.isWithin least most = true ↔ ∃ v, x.value? = some v ∧ a ≤ v ∧ v ≤ b := by
  rw [isWithin, Bool.and_eq_true, Bool.and_eq_true, ← exists_value?_iff]
  constructor
  · rintro ⟨⟨⟨v, hv⟩, hlow⟩, hhigh⟩
    exact ⟨v, hv, (atMost_iff_le hleast hv).1 hlow, (atMost_iff_le hv hmost).1 hhigh⟩
  · rintro ⟨v, hv, hlow, hhigh⟩
    exact ⟨⟨⟨v, hv⟩, (atMost_iff_le hleast hv).2 hlow⟩, (atMost_iff_le hv hmost).2 hhigh⟩

end Binary

end StoryMend.Number
