import Mathlib.Algebra.Group.Nat.Defs
import Mathlib.Tactic.Common

/-! # Conversion of units by a product and a quotient

A quantity is converted by a ratio `num / den`, rounding down. In words of a fixed width
the product is formed first, and wraps. -/

namespace Lorawan.UnitConversion

/-! ## Ratios -/

/-- A ratio below one shrinks every positive quantity. -/
theorem mul_div_eq_self_iff {quantity num den : Nat} (positive : 0 < quantity)
    (numPositive : 0 < num) (ratio : num ≤ den) :
    quantity * num / den = quantity ↔ num = den := by
  constructor
  · intro same
    have covered := Nat.div_mul_le_self (quantity * num) den
    rw [same] at covered
    exact Nat.le_antisymm ratio (Nat.le_of_mul_le_mul_left covered positive)
  · intro same
    rw [same]
    exact Nat.mul_div_cancel quantity (same ▸ numPositive)

/-- A ratio above one keeps the quantities that it does not carry to the next one. -/
theorem mul_div_eq_self_iff_lt {quantity num den : Nat} (denPositive : 0 < den)
    (ratio : den ≤ num) :
    quantity * num / den = quantity ↔ quantity * num < (quantity + 1) * den := by
  have least : quantity ≤ quantity * num / den :=
    (Nat.le_div_iff_mul_le denPositive).mpr (Nat.mul_le_mul_left quantity ratio)
  rw [← Nat.div_lt_iff_lt_mul denPositive]
  omega

/-! ## Words -/

/-- A remainder loses at least one unit of the quotient, unless nothing was dropped. -/
theorem mod_div_eq_div_iff {number modulus divisor : Nat} (positive : 0 < divisor)
    (small : divisor ≤ modulus) :
    number % modulus / divisor = number / divisor ↔ number < modulus := by
  constructor
  · intro same
    rcases Nat.lt_or_ge number modulus with fits | wraps
    · exact fits
    · have dropped : number % modulus + divisor ≤ number := by
        have whole := Nat.mod_add_div number modulus
        have once : modulus ≤ modulus * (number / modulus) :=
          Nat.le_mul_of_pos_right modulus (Nat.div_pos wraps (Nat.lt_of_lt_of_le positive small))
        omega
      have fewer := Nat.div_le_div_right dropped (c := divisor)
      rw [Nat.add_div_right _ positive, same] at fewer
      exact absurd fewer (Nat.not_succ_le_self _)
  · intro fits
    rw [Nat.mod_eq_of_lt fits]

/-- The last quantity whose product fits, and the next one, whose product just wraps. -/
theorem last_fit {modulus num : Nat} (modulusPositive : 0 < modulus) (numPositive : 0 < num) :
    ∃ last, last * num < modulus ∧ modulus ≤ last * num + num := by
  refine ⟨(modulus - 1) / num, ?_, ?_⟩
  · have below := Nat.div_mul_le_self (modulus - 1) num
    omega
  · have above := Nat.lt_div_mul_add (a := modulus - 1) numPositive
    omega

variable {w : Nat}

theorem toNat_mul_div (quantity num den : BitVec w) :
    (quantity * num / den).toNat = quantity.toNat * num.toNat % 2 ^ w / den.toNat := by
  rw [BitVec.toNat_udiv, BitVec.toNat_mul]

/-- The conversion in words is exact just when the product fits. -/
theorem toNat_mul_div_eq_iff (quantity num : BitVec w) {den : BitVec w}
    (positive : 0 < den.toNat) :
    (quantity * num / den).toNat = quantity.toNat * num.toNat / den.toNat ↔
      quantity.toNat * num.toNat < 2 ^ w := by
  rw [toNat_mul_div]
  exact mod_div_eq_div_iff positive (Nat.le_of_lt den.isLt)

/-- No conversion in words exceeds that of the largest product. -/
theorem toNat_mul_div_le (quantity num den : BitVec w) :
    (quantity * num / den).toNat ≤ (2 ^ w - 1) / den.toNat := by
  rw [toNat_mul_div]
  have below := Nat.mod_lt (quantity.toNat * num.toNat) (Nat.two_pow_pos w)
  exact Nat.div_le_div_right (Nat.le_sub_one_of_lt below)

end Lorawan.UnitConversion
