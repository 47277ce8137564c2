import Lorawan.Library.Execution
import Lorawan.Library.LinearCongruential

/-! # The pseudo random generator of `utilities.c`

All arithmetic is on 32-bit two's complement words: `int32_t` and, on the
microcontrollers this board code is for, the `long` of the constants. -/

namespace Lorawan.Utilities

open scoped List

/-- The static variable `rand_value`. -/
abbrev RandValue := BitVec 32

/-- The arguments of `randr`. -/
structure Range where
  min : BitVec 32
  max : BitVec 32

def srand1 (seed : BitVec 32) : RandValue := seed

/-- There is no result where the remainder divides by zero. By then `rand_value` has
been overwritten. -/
def randr (randValue : RandValue) (range : Range) : RandValue × Option (BitVec 32) :=
  let randValue := randValue * 1103515245#32 + 12345#32
  let randValue := randValue &&& 0x7FFFFFFF#32
  let divisor := range.max - range.min + 1#32
  if divisor = 0#32 then
    (randValue, none)
  else
    (randValue, some (randValue.srem divisor + range.min))

def generator : Machine RandValue Range (Option (BitVec 32)) where
  step := randr

/-- What a call makes of `rand_value`, whatever the range. -/
def advance (randValue : RandValue) : RandValue :=
  (randValue * 1103515245#32 + 12345#32) &&& 0x7FFFFFFF#32

/-- What a call returns once `rand_value` is overwritten. -/
def draw (randValue : RandValue) (range : Range) : Option (BitVec 32) :=
  if range.max - range.min + 1#32 = 0#32 then none
  else some (randValue.srem (range.max - range.min + 1#32) + range.min)

theorem randr_eq (randValue : RandValue) (range : Range) :
    randr randValue range = (advance randValue, draw (advance randValue) range) := by
  unfold randr draw
  by_cases zero : range.max - range.min + 1#32 = 0#32
  · simp only [if_pos zero, advance]
  · simp only [if_neg zero, advance]

theorem generator_next (randValue : RandValue) (range : Range) :
    generator.next randValue range = advance randValue := by
  exact congrArg Prod.fst (randr_eq randValue range)

theorem generator_reply (randValue : RandValue) (range : Range) :
    generator.reply randValue range = draw (advance randValue) range := by
  exact congrArg Prod.snd (randr_eq randValue range)

/-! ## The successive values -/

/-- The mask keeps 31 of the 32 bits that the wrapped sum has. -/
theorem toNat_masked_affine (value multiplier increment : BitVec 32) :
    ((value * multiplier + increment) &&& 0x7FFFFFFF#32).toNat =
      (multiplier.toNat * value.toNat + increment.toNat) % 2 ^ 31 := by
  have mask : (0x7FFFFFFF#32).toNat = 2 ^ 31 - 1 := by simp
  have fewer : 2 ^ 31 ∣ 2 ^ 32 := Nat.pow_dvd_pow 2 (by omega)
  rw [BitVec.toNat_and, mask, Nat.and_two_pow_sub_one_eq_mod, BitVec.toNat_add,
    BitVec.toNat_mul, Nat.mod_mod_of_dvd _ fewer, Nat.add_mod, Nat.mod_mod_of_dvd _ fewer,
    ← Nat.add_mod, Nat.mul_comm]

theorem toNat_advance (randValue : RandValue) :
    (advance randValue).toNat = (1103515245 * randValue.toNat + 12345) % 2 ^ 31 :=
  toNat_masked_affine randValue 1103515245#32 12345#32

theorem advance_lt (randValue : RandValue) : (advance randValue).toNat < 2 ^ 31 := by
  rw [toNat_advance]
  exact Nat.mod_lt _ (Nat.two_pow_pos 31)

theorem advance_linearCongruential {k : Nat} (bound : k ≤ 31) (start : RandValue) :
    LinearCongruential 1103515245 12345 (2 ^ k) (fun index => (advance^[index] start).toNat) := by
  apply LinearCongruential.of_dvd (Nat.pow_dvd_pow 2 bound)
  intro index
  simp only [Function.iterate_succ_apply', toNat_advance]
  exact Nat.mod_modEq _ _

theorem visited_low_bits {k : Nat} (bound : k ≤ 31) (randValue : RandValue)
    {calls : List Range} (count : calls.length = 2 ^ k) :
    (generator.visited randValue calls).map (fun value => value.toNat % 2 ^ k) ~
      List.range (2 ^ k) := by
  have equidistributed := LinearCongruential.consecutive_perm (by decide) (by decide)
    (advance_linearCongruential bound randValue) 1
  rw [Machine.visited_eq_iterate generator_next, count, List.map_map]
  simpa only [Function.comp_def, Nat.add_comm 1] using equidistributed

theorem mem_visited_lt {randValue value : RandValue} {calls : List Range}
    (member : value ∈ generator.visited randValue calls) : value.toNat < 2 ^ 31 := by
  rw [Machine.visited_eq_iterate generator_next] at member
  rcases List.mem_map.mp member with ⟨offset, _, rfl⟩
  rw [Function.iterate_succ_apply']
  exact advance_lt _

/-- After the mask of the first call, equal values are a multiple of `2 ^ 31` calls
apart. -/
theorem iterate_advance_eq_iff (start : RandValue) {first second : Nat}
    (firstPositive : 0 < first) (secondPositive : 0 < second) :
    advance^[first] start = advance^[second] start ↔ first ≡ second [MOD 2 ^ 31] := by
  have masked : ∀ {count : Nat}, 0 < count →
      (advance^[count] start).toNat % 2 ^ 31 = (advance^[count] start).toNat := by
    intro count positive
    obtain ⟨previous, rfl⟩ := Nat.exists_eq_succ_of_ne_zero (Nat.pos_iff_ne_zero.mp positive)
    rw [Function.iterate_succ_apply']
    exact Nat.mod_eq_of_lt (advance_lt _)
  rw [← LinearCongruential.modEq_iff (by decide) (by decide)
    (advance_linearCongruential (Nat.le_refl 31) start) first second, Nat.ModEq,
    masked firstPositive, masked secondPositive, BitVec.toNat_inj]

/-! ## The results -/

theorem replies_replicate (range : Range) (count : Nat) (randValue : RandValue) :
    (generator.trace randValue (List.replicate count range)).map Prod.snd =
      (generator.visited randValue (List.replicate count range)).map
        (fun value => draw value range) := by
  induction count generalizing randValue with
  | zero => rfl
  | succ count induction =>
      simp only [List.replicate_succ, Machine.trace_cons, Machine.visited, List.map_cons,
        induction, generator_reply, generator_next]

/-- A range of `2 ^ k` values from zero keeps the low `k` bits. -/
theorem draw_low_bits {k : Nat} (bound : k ≤ 30) {value : RandValue}
    (small : value.toNat < 2 ^ 31) :
    draw value ⟨0#32, BitVec.ofNat 32 (2 ^ k - 1)⟩ =
      some (BitVec.ofNat 32 (value.toNat % 2 ^ k)) := by
  have positive : 0 < 2 ^ k := Nat.two_pow_pos k
  have largest : 2 ^ k ≤ 2 ^ 30 := Nat.pow_le_pow_right (by omega) bound
  have width : (BitVec.ofNat 32 (2 ^ k - 1) - 0#32 + 1#32).toNat = 2 ^ k := by
    simp only [BitVec.sub_zero, BitVec.toNat_add, BitVec.toNat_ofNat]
    omega
  have nonzero : BitVec.ofNat 32 (2 ^ k - 1) - 0#32 + 1#32 ≠ 0#32 := by
    intro zero
    rw [zero, BitVec.toNat_ofNat] at width
    omega
  have valueSign : value.msb = false := BitVec.msb_eq_false_iff_two_mul_lt.mpr (by omega)
  have widthSign : (BitVec.ofNat 32 (2 ^ k - 1) - 0#32 + 1#32).msb = false :=
    BitVec.msb_eq_false_iff_two_mul_lt.mpr (by omega)
  rw [draw, if_neg nonzero, BitVec.srem_eq, valueSign, widthSign]
  apply congrArg some
  apply BitVec.eq_of_toNat_eq
  simp only [BitVec.add_zero, BitVec.toNat_umod, width, BitVec.toNat_ofNat]
  have small : value.toNat % 2 ^ k < 2 ^ 32 := by
    have below := Nat.mod_lt value.toNat positive
    omega
  exact (Nat.mod_eq_of_lt small).symm

/-- Results from a range of `2 ^ k` values, over `2 ^ k` calls. -/
theorem replies_low_bits {k : Nat} (bound : k ≤ 30) (state : RandValue) :
    (generator.trace state
      (List.replicate (2 ^ k) ⟨0#32, BitVec.ofNat 32 (2 ^ k - 1)⟩)).map Prod.snd ~
      (List.range (2 ^ k)).map (fun value => some (BitVec.ofNat 32 value)) := by
  have count : (List.replicate (2 ^ k)
      (⟨0#32, BitVec.ofNat 32 (2 ^ k - 1)⟩ : Range)).length = 2 ^ k :=
    List.length_replicate
  have low := visited_low_bits (Nat.le_succ_of_le bound) state count
  have drawn := low.map (fun residue => some (BitVec.ofNat 32 residue))
  rw [List.map_map] at drawn
  have results : ∀ value ∈ generator.visited state
      (List.replicate (2 ^ k) ⟨0#32, BitVec.ofNat 32 (2 ^ k - 1)⟩),
      draw value ⟨0#32, BitVec.ofNat 32 (2 ^ k - 1)⟩ =
        some (BitVec.ofNat 32 (value.toNat % 2 ^ k)) := by
    intro value member
    exact draw_low_bits bound (mem_visited_lt member)
  rw [replies_replicate, List.map_congr_left results]
  exact drawn

/-- Whatever was asked before, the low `k` bits of `2 ^ k` values in a row are all
different, the values themselves come back after `2 ^ 31` calls and not before, and
`2 ^ k` draws from a range of that size give each of its values once. -/
theorem randr_full_period (seed : BitVec 32) (previous : List Range) :
    (∀ k ≤ 31, ∀ calls : List Range, calls.length = 2 ^ k →
      (generator.visited (generator.run (srand1 seed) previous) calls).map
        (fun value => value.toNat % 2 ^ k) ~ List.range (2 ^ k)) ∧
    (∀ calls : List Range, calls.length = 2 ^ 31 →
      (generator.visited (generator.run (srand1 seed) previous) calls).map BitVec.toNat ~
        List.range (2 ^ 31)) ∧
    (∀ first second : List Range, first ≠ [] → second ≠ [] →
      (generator.run (generator.run (srand1 seed) previous) first =
        generator.run (generator.run (srand1 seed) previous) second ↔
          first.length ≡ second.length [MOD 2 ^ 31])) ∧
    (∀ k ≤ 30,
      (generator.trace (generator.run (srand1 seed) previous)
        (List.replicate (2 ^ k) ⟨0#32, BitVec.ofNat 32 (2 ^ k - 1)⟩)).map Prod.snd ~
        (List.range (2 ^ k)).map (fun value => some (BitVec.ofNat 32 value))) := by
  generalize generator.run (srand1 seed) previous = state
  refine ⟨?_, ?_, ?_, ?_⟩
  · intro k bound calls count
    exact visited_low_bits bound state count
  · intro calls count
    have low := visited_low_bits (Nat.le_refl 31) state count
    have whole : (generator.visited state calls).map BitVec.toNat =
        (generator.visited state calls).map (fun value => value.toNat % 2 ^ 31) := by
      apply List.map_congr_left
      intro value member
      exact (Nat.mod_eq_of_lt (mem_visited_lt member)).symm
    rw [whole]
    exact low
  · intro first second firstCalls secondCalls
    rw [Machine.run_eq_iterate generator_next, Machine.run_eq_iterate generator_next]
    exact iterate_advance_eq_iff state (List.length_pos_iff.mpr firstCalls)
      (List.length_pos_iff.mpr secondCalls)
  · intro k bound
    exact replies_low_bits bound state

/-- Two draws of a bit give both bits. -/
theorem randr_full_period_coin :
    (generator.trace (generator.run (srand1 7#32) [⟨3#32, 9#32⟩])
      (List.replicate 2 ⟨0#32, 1#32⟩)).map Prod.snd ~ [some 0#32, some 1#32] :=
  (randr_full_period 7#32 [⟨3#32, 9#32⟩]).2.2.2 1 (by decide)

/-! ## The bounds of the results -/

theorem divisor_eq_ofInt (range : Range) :
    range.max - range.min + 1#32 =
      BitVec.ofInt 32 (range.max.toInt - range.min.toInt + 1) := by
  have one : (1#32).toInt = 1 := by decide
  apply BitVec.eq_of_toInt_eq
  rw [BitVec.toInt_add, BitVec.toInt_sub, BitVec.toInt_ofInt, one, Int.bmod_add_bmod]

theorem draw_eq_none_iff (value : RandValue) (range : Range) :
    draw value range = none ↔
      (2 ^ 32 : Int) ∣ range.max.toInt - range.min.toInt + 1 := by
  have zero : range.max - range.min + 1#32 = 0#32 ↔
      (2 ^ 32 : Int) ∣ range.max.toInt - range.min.toInt + 1 := by
    rw [divisor_eq_ofInt, ← BitVec.toNat_inj, BitVec.toNat_ofInt, BitVec.toNat_ofNat]
    omega
  rw [← zero]
  unfold draw
  by_cases wraps : range.max - range.min + 1#32 = 0#32
  · simp [wraps]
  · simp [wraps]

/-- A width that does not fit is a negative divisor, whose magnitude is no more than
the width. -/
theorem remainder_bounds {value : RandValue} {range : Range}
    (small : value.toNat < 2 ^ 31) (ordered : range.min.toInt ≤ range.max.toInt)
    (nonzero : ¬(2 ^ 32 : Int) ∣ range.max.toInt - range.min.toInt + 1) :
    0 ≤ (value.srem (range.max - range.min + 1#32)).toInt ∧
      (value.srem (range.max - range.min + 1#32)).toInt ≤
        range.max.toInt - range.min.toInt := by
  have lower := BitVec.le_toInt range.min
  have upper := BitVec.toInt_lt (x := range.max)
  have nonnegative : 0 ≤ value.toInt := by
    rw [BitVec.toInt_eq_toNat_of_lt (by omega)]
    exact Int.natCast_nonneg _
  rw [BitVec.toInt_srem, divisor_eq_ofInt, BitVec.toInt_ofInt]
  have magnitude : 0 < ((range.max.toInt - range.min.toInt + 1).bmod (2 ^ 32)).natAbs ∧
      ((range.max.toInt - range.min.toInt + 1).bmod (2 ^ 32)).natAbs ≤
        range.max.toInt - range.min.toInt + 1 := by
    rw [Int.bmod_def]
    split
    · omega
    · omega
  have sign := Int.tmod_nonneg
    ((range.max.toInt - range.min.toInt + 1).bmod (2 ^ 32)) nonnegative
  have smaller := Nat.mod_lt value.toInt.natAbs magnitude.1
  rw [← Int.natAbs_tmod] at smaller
  omega

theorem draw_bounds {value : RandValue} {range : Range}
    (small : value.toNat < 2 ^ 31) (ordered : range.min.toInt ≤ range.max.toInt)
    (nonzero : ¬(2 ^ 32 : Int) ∣ range.max.toInt - range.min.toInt + 1) :
    ∃ result, draw value range = some result ∧
      range.min.toInt ≤ result.toInt ∧ result.toInt ≤ range.max.toInt ∧
      result.toInt =
        (value.srem (range.max - range.min + 1#32)).toInt + range.min.toInt := by
  have inside := remainder_bounds small ordered nonzero
  have lower := BitVec.le_toInt range.min
  have upper := BitVec.toInt_lt (x := range.max)
  have exact_sum : (value.srem (range.max - range.min + 1#32) + range.min).toInt =
      (value.srem (range.max - range.min + 1#32)).toInt + range.min.toInt := by
    rw [BitVec.toInt_add]
    apply Int.bmod_eq_of_le
    · omega
    · omega
  have divides : ¬(range.max - range.min + 1#32 = 0#32) := by
    intro zero
    apply nonzero
    apply (draw_eq_none_iff value range).mp
    rw [draw, if_pos zero]
  refine ⟨_, if_neg divides, ?_, ?_, exact_sum⟩
  · omega
  · omega

/-- The remainder is undefined for a width of `2 ^ 32` or zero only; otherwise the
result lies between the bounds, however wide they are apart. -/
theorem randr_in_range (seed : BitVec 32) (previous : List Range) (range : Range) :
    (generator.reply (generator.run (srand1 seed) previous) range = none ↔
      (2 ^ 32 : Int) ∣ range.max.toInt - range.min.toInt + 1) ∧
    (range.min.toInt ≤ range.max.toInt →
      ¬(2 ^ 32 : Int) ∣ range.max.toInt - range.min.toInt + 1 →
      ∃ result, generator.reply (generator.run (srand1 seed) previous) range = some result ∧
        range.min.toInt ≤ result.toInt ∧ result.toInt ≤ range.max.toInt ∧
        result.toInt =
          ((generator.next (generator.run (srand1 seed) previous) range).srem
            (range.max - range.min + 1#32)).toInt + range.min.toInt) := by
  rw [generator_reply, generator_next]
  refine ⟨draw_eq_none_iff _ range, ?_⟩
  intro ordered nonzero
  exact draw_bounds (advance_lt _) ordered nonzero

/-- The widest range but one, from `-2 ^ 31` to `2 ^ 31 - 2`, has divisor `-1`. -/
theorem randr_in_range_wide :
    ∃ result, generator.reply (generator.run (srand1 0xFFFFFFFF#32) [])
      ⟨0x80000000#32, 0x7FFFFFFE#32⟩ = some result ∧ result.toInt ≤ 2147483646 := by
  rcases (randr_in_range 0xFFFFFFFF#32 [] ⟨0x80000000#32, 0x7FFFFFFE#32⟩).2 (by decide)
    (by decide) with ⟨result, replied, _, upper, _⟩
  exact ⟨result, replied, upper⟩

end Lorawan.Utilities
