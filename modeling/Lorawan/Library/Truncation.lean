import Mathlib.Algebra.Order.Floor.Ring

/-! # Truncation toward zero

The whole number that is left of a value when its fraction is dropped, whatever the
sign. -/

namespace Lorawan

variable {Value : Type u} [Ring Value] [LinearOrder Value] [FloorRing Value]

def truncate (value : Value) : Int :=
  if 0 ≤ value then ⌊value⌋ else ⌈value⌉

def Whole (value : Value) : Prop :=
  ∃ whole : Int, value = whole

theorem truncate_of_nonneg {value : Value} (nonnegative : 0 ≤ value) :
    truncate value = ⌊value⌋ :=
  if_pos nonnegative

theorem truncate_of_neg {value : Value} (negative : value < 0) :
    truncate value = ⌈value⌉ :=
  if_neg (not_le_of_gt negative)

theorem truncate_le_of_nonneg {value : Value} (nonnegative : 0 ≤ value) :
    (truncate value : Value) ≤ value := by
  rw [truncate_of_nonneg nonnegative]
  exact Int.floor_le value

theorem lt_truncate_add_one_of_nonneg {value : Value} (nonnegative : 0 ≤ value) :
    value < truncate value + 1 := by
  rw [truncate_of_nonneg nonnegative]
  exact Int.lt_floor_add_one value

theorem le_truncate_of_neg {value : Value} (negative : value < 0) :
    value ≤ (truncate value : Value) := by
  rw [truncate_of_neg negative]
  exact Int.le_ceil value

theorem truncate_le_truncate {lower upper : Value} (ordered : lower ≤ upper) :
    truncate lower ≤ truncate upper := by
  rcases le_or_gt 0 lower with lowerSign | lowerSign
  · rw [truncate_of_nonneg lowerSign, truncate_of_nonneg (lowerSign.trans ordered)]
    exact Int.floor_le_floor ordered
  · rw [truncate_of_neg lowerSign]
    rcases le_or_gt 0 upper with upperSign | upperSign
    · rw [truncate_of_nonneg upperSign]
      have below : ⌈lower⌉ ≤ 0 := Int.ceil_le.mpr (by simpa using lowerSign.le)
      exact below.trans (Int.floor_nonneg.mpr upperSign)
    · rw [truncate_of_neg upperSign]
      exact Int.ceil_le_ceil ordered

variable [IsStrictOrderedRing Value]

@[simp] theorem truncate_intCast (whole : Int) : truncate (whole : Value) = whole := by
  unfold truncate
  split
  · exact Int.floor_intCast whole
  · exact Int.ceil_intCast whole

theorem whole_iff {value : Value} : Whole value ↔ value = truncate value := by
  constructor
  · intro whole
    rcases whole with ⟨whole, rfl⟩
    rw [truncate_intCast]
  · intro equal
    exact ⟨truncate value, equal⟩

theorem truncate_neg (value : Value) : truncate (-value) = -truncate value := by
  rcases lt_trichotomy value 0 with negative | zero | positive
  · rw [truncate_of_neg negative, truncate_of_nonneg (neg_nonneg.mpr negative.le),
      Int.floor_neg]
  · have nothing : truncate (0 : Value) = 0 := by
      rw [truncate_of_nonneg le_rfl, Int.floor_zero]
    rw [zero, neg_zero, nothing, neg_zero]
  · rw [truncate_of_nonneg positive.le, truncate_of_neg (neg_neg_of_pos positive),
      Int.ceil_neg]

theorem abs_truncate_le {value : Value} {bound : Int} (bounded : |value| ≤ bound) :
    |truncate value| ≤ bound := by
  rcases abs_le.mp bounded with ⟨lower, upper⟩
  have fromBelow := truncate_le_truncate lower
  have fromAbove := truncate_le_truncate upper
  rw [truncate_neg, truncate_intCast] at fromBelow
  rw [truncate_intCast] at fromAbove
  exact abs_le.mpr ⟨fromBelow, fromAbove⟩

end Lorawan
