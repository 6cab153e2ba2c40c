import Mathlib.Init

/-!
# Sums and products that fit

The sum, the difference and the product of two `Int64`s wrap around: their value
is the one that the numbers have by the laws of `Int` only if that is the value
of an `Int64`, which `Fits` says of a number.

A difference of two non-negative ints always fits, and a sum of two exactly if
it is not negative.
-/

namespace CollegeCanteens.FixedWidth

/-- The number is the value of an `Int64`: it is at least -2^63 and below 2^63. -/
def Fits (n : Int) : Prop := -9223372036854775808 ≤ n ∧ n < 9223372036854775808

instance : DecidablePred Fits := fun n ↦
  inferInstanceAs (Decidable (-9223372036854775808 ≤ n ∧ n < 9223372036854775808))

variable {a b : Int64} {n m : Int}

theorem fits_toInt (a : Int64) : Fits a.toInt := ⟨a.le_toInt, a.toInt_lt⟩

theorem toInt_ofInt_iff : (Int64.ofInt n).toInt = n ↔ Fits n := by
  constructor
  · intro h
    exact h ▸ fits_toInt (Int64.ofInt n)
  · rintro ⟨hle, hlt⟩
    exact Int64.toInt_ofInt_of_le hle hlt

/-! ## Sums -/

theorem ofInt_add_toInt : Int64.ofInt (n + a.toInt) = Int64.ofInt n + a := by
  rw [Int64.ofInt_add, Int64.ofInt_toInt]

theorem ofInt_sub_toInt : Int64.ofInt (n - a.toInt) = Int64.ofInt n - a := by
  rw [Int64.ofInt_sub, Int64.ofInt_toInt]

theorem toInt_add_iff : (a + b).toInt = a.toInt + b.toInt ↔ Fits (a.toInt + b.toInt) := by
  rw [← toInt_ofInt_iff, ofInt_add_toInt, Int64.ofInt_toInt]

theorem toInt_sub_iff : (a - b).toInt = a.toInt - b.toInt ↔ Fits (a.toInt - b.toInt) := by
  rw [← toInt_ofInt_iff, ofInt_sub_toInt, Int64.ofInt_toInt]

theorem nonneg_iff : 0 ≤ a ↔ 0 ≤ a.toInt := by rw [Int64.le_iff_toInt_le, Int64.toInt_zero]

theorem eq_zero_iff : a = 0 ↔ a.toInt = 0 := by rw [← Int64.toInt_inj, Int64.toInt_zero]

/-- The difference of two non-negative ints does not wrap around. -/
theorem toInt_sub (ha : 0 ≤ a) (hb : 0 ≤ b) : (a - b).toInt = a.toInt - b.toInt := by
  rw [nonneg_iff] at ha hb
  obtain ⟨-, hlt⟩ := fits_toInt a
  obtain ⟨-, hlt'⟩ := fits_toInt b
  exact toInt_sub_iff.mpr ⟨by omega, by omega⟩

/-- The sum of two non-negative ints that do not fit is below their true sum by
all of the width. -/
theorem toInt_add (ha : 0 ≤ a) (hb : 0 ≤ b) :
    (a + b).toInt =
      a.toInt + b.toInt - if Fits (a.toInt + b.toInt) then 0 else 18446744073709551616 := by
  rw [nonneg_iff] at ha hb
  obtain ⟨-, hlt⟩ := fits_toInt a
  obtain ⟨-, hlt'⟩ := fits_toInt b
  split
  · next hfits => rw [toInt_add_iff.mpr hfits, Int.sub_zero]
  · next hnot =>
      have hwide : 9223372036854775808 ≤ a.toInt + b.toInt :=
        Int.not_lt.mp fun hlt ↦ hnot ⟨by omega, hlt⟩
      rw [Int64.toInt_add, Int.bmod_eq_iff (by decide)]
      omega

/-- The sum of two non-negative ints is negative if it does not fit. -/
theorem nonneg_add_iff (ha : 0 ≤ a) (hb : 0 ≤ b) : 0 ≤ a + b ↔ Fits (a.toInt + b.toInt) := by
  have hsum := toInt_add ha hb
  rw [nonneg_iff] at ha hb ⊢
  obtain ⟨-, hlt⟩ := fits_toInt a
  obtain ⟨-, hlt'⟩ := fits_toInt b
  split at hsum
  · next hfits => exact iff_of_true (by omega) hfits
  · next hnot => exact iff_of_false (by omega) hnot

/-! ## Products -/

theorem ofInt_mul_toInt : Int64.ofInt (n * a.toInt) = Int64.ofInt n * a := by
  rw [Int64.ofInt_mul, Int64.ofInt_toInt]

theorem toInt_ofInt_mul_iff : (Int64.ofInt n * a).toInt = n * a.toInt ↔ Fits (n * a.toInt) := by
  rw [← toInt_ofInt_iff, ofInt_mul_toInt]

/-- A product is what another one comes to if that one fits and the two differ by
a multiple of the width. -/
theorem toInt_ofInt_mul_eq_iff :
    (Int64.ofInt n * a).toInt = m ↔ Fits m ∧ 18446744073709551616 ∣ m - n * a.toInt := by
  rw [← ofInt_mul_toInt, Int64.toInt_ofInt, Int.bmod_eq_iff (by decide), Fits, and_assoc]
  rfl

end CollegeCanteens.FixedWidth
