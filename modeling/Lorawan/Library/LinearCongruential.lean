import Mathlib.Data.List.Nodup
import Mathlib.Data.List.Perm.Subperm
import Mathlib.Data.Nat.ModEq
import Mathlib.Tactic.Ring

/-! # Linear congruential sequences

Sequences in which each value is an affine function of the one before, up to
multiples of a power of two. When the multiplier is one more than a multiple of
four and the increment is odd, `2 ^ k` steps change bit `k` and none below it, so
that the low `k` bits go through all their values before any of them repeats. -/

namespace Lorawan

/-- Each value follows from the one before, up to multiples of the modulus. -/
def LinearCongruential (multiplier increment modulus : Nat) (values : Nat → Nat) : Prop :=
  ∀ index, values (index + 1) ≡ multiplier * values index + increment [MOD modulus]

namespace LinearCongruential

open scoped List

variable {multiplier increment modulus : Nat} {values : Nat → Nat}

theorem of_dvd {divisor : Nat} (divides : divisor ∣ modulus)
    (follows : LinearCongruential multiplier increment modulus values) :
    LinearCongruential multiplier increment divisor values := by
  intro index
  exact (follows index).of_dvd divides

/-! ## Jumping ahead -/

/-- The factor and the summand of the affine map that `2 ^ k` steps amount to. -/
def jump (multiplier increment : Nat) : Nat → Nat × Nat
  | 0 => (multiplier, increment)
  | k + 1 =>
      let half := jump multiplier increment k
      (half.1 * half.1, half.1 * half.2 + half.2)

theorem add_two_pow (follows : LinearCongruential multiplier increment modulus values)
    (k index : Nat) :
    values (index + 2 ^ k) ≡
      (jump multiplier increment k).1 * values index + (jump multiplier increment k).2
        [MOD modulus] := by
  induction k generalizing index with
  | zero => exact follows index
  | succ k induction =>
      have twice : index + 2 ^ (k + 1) = index + 2 ^ k + 2 ^ k := by ring
      have substituted :=
        ((induction index).mul_left (jump multiplier increment k).1).add_right
          (jump multiplier increment k).2
      have expanded : (jump multiplier increment k).1 *
            ((jump multiplier increment k).1 * values index + (jump multiplier increment k).2) +
            (jump multiplier increment k).2 =
          (jump multiplier increment (k + 1)).1 * values index +
            (jump multiplier increment (k + 1)).2 := by
        simp only [jump]
        ring
      rw [twice, ← expanded]
      exact (induction (index + 2 ^ k)).trans substituted

section FullPeriod

variable (multiplierForm : multiplier % 4 = 1) (incrementOdd : increment % 2 = 1)

include multiplierForm incrementOdd

theorem jump_form (k : Nat) :
    ∃ excess half : Nat,
      (jump multiplier increment k).1 = 1 + 2 ^ (k + 2) * excess ∧
      (jump multiplier increment k).2 = 2 ^ k * (2 * half + 1) := by
  induction k with
  | zero =>
      refine ⟨multiplier / 4, increment / 2, ?_, ?_⟩
      · simp only [jump]
        omega
      · simp only [jump]
        omega
  | succ k induction =>
      rcases induction with ⟨excess, half, factor, summand⟩
      refine ⟨excess + 2 ^ (k + 1) * excess * excess,
        half + 2 ^ k * excess * (2 * half + 1), ?_, ?_⟩
      · simp only [jump, factor]
        ring
      · simp only [jump, factor, summand]
        ring

/-- The low `k` bits come back after `2 ^ k` steps. -/
theorem add_two_pow_modEq {k : Nat}
    (follows : LinearCongruential multiplier increment (2 ^ k) values) (index : Nat) :
    values (index + 2 ^ k) ≡ values index [MOD 2 ^ k] := by
  rcases jump_form multiplierForm incrementOdd k with ⟨excess, half, factor, summand⟩
  have gathered : (1 + 2 ^ (k + 2) * excess) * values index + 2 ^ k * (2 * half + 1) =
      values index + 2 ^ k * (4 * excess * values index + (2 * half + 1)) := by ring
  have ahead := follows.add_two_pow k index
  rw [factor, summand, gathered] at ahead
  exact ahead.trans (Nat.add_modulus_mul_modEq_iff.mpr rfl)

/-- The bit above them is flipped. -/
theorem add_two_pow_modEq_succ {k : Nat}
    (follows : LinearCongruential multiplier increment (2 ^ (k + 1)) values) (index : Nat) :
    values (index + 2 ^ k) ≡ values index + 2 ^ k [MOD 2 ^ (k + 1)] := by
  rcases jump_form multiplierForm incrementOdd k with ⟨excess, half, factor, summand⟩
  have gathered : (1 + 2 ^ (k + 2) * excess) * values index + 2 ^ k * (2 * half + 1) =
      values index + 2 ^ k + 2 ^ (k + 1) * (2 * excess * values index + half) := by ring
  have ahead := follows.add_two_pow k index
  rw [factor, summand, gathered] at ahead
  exact ahead.trans (Nat.add_modulus_mul_modEq_iff.mpr rfl)

theorem modEq_of_modEq_of_le {k first second : Nat}
    (follows : LinearCongruential multiplier increment (2 ^ k) values)
    (ordered : first ≤ second) (agree : first ≡ second [MOD 2 ^ k]) :
    values first ≡ values second [MOD 2 ^ k] := by
  rcases (Nat.modEq_iff_exists_eq_add ordered).mp agree with ⟨rounds, distance⟩
  rw [distance]
  clear distance
  induction rounds with
  | zero => rfl
  | succ rounds induction =>
      have further : first + 2 ^ k * (rounds + 1) = first + 2 ^ k * rounds + 2 ^ k := by ring
      rw [further]
      exact induction.trans
        (add_two_pow_modEq multiplierForm incrementOdd follows (first + 2 ^ k * rounds)).symm

theorem modEq_of_modEq {k first second : Nat}
    (follows : LinearCongruential multiplier increment (2 ^ k) values)
    (agree : first ≡ second [MOD 2 ^ k]) :
    values first ≡ values second [MOD 2 ^ k] := by
  rcases Nat.le_total first second with ordered | ordered
  · exact modEq_of_modEq_of_le multiplierForm incrementOdd follows ordered agree
  · exact (modEq_of_modEq_of_le multiplierForm incrementOdd follows ordered agree.symm).symm

omit multiplierForm incrementOdd in
/-- Numbers with the same low `k` bits differ in the next bit or not at all. -/
theorem modEq_succ_or {k first second : Nat} (agree : first ≡ second [MOD 2 ^ k]) :
    first ≡ second [MOD 2 ^ (k + 1)] ∨ first ≡ second + 2 ^ k [MOD 2 ^ (k + 1)] := by
  have double : 2 ^ (k + 1) = 2 ^ k * 2 := by ring
  unfold Nat.ModEq at agree ⊢
  rw [double, Nat.mod_mul, Nat.mod_mul, Nat.mod_mul, Nat.add_mod_right,
    Nat.add_div_right second (Nat.two_pow_pos k), agree]
  rcases Nat.mod_two_eq_zero_or_one (first / 2 ^ k) with even | odd
  · rcases Nat.mod_two_eq_zero_or_one (second / 2 ^ k) with other | other
    · exact Or.inl (by rw [even, other])
    · exact Or.inr (by rw [even, Nat.add_mod, other])
  · rcases Nat.mod_two_eq_zero_or_one (second / 2 ^ k) with other | other
    · exact Or.inr (by rw [odd, Nat.add_mod, other])
    · exact Or.inl (by rw [odd, other])

/-- The low `k` bits of two values agree exactly when their places do, modulo `2 ^ k`. -/
theorem modEq_iff {k : Nat} (follows : LinearCongruential multiplier increment (2 ^ k) values)
    (first second : Nat) :
    values first ≡ values second [MOD 2 ^ k] ↔ first ≡ second [MOD 2 ^ k] := by
  constructor
  · induction k with
    | zero =>
        intro _
        exact Nat.modEq_one
    | succ k induction =>
        intro same
        have fewer : 2 ^ k ∣ 2 ^ (k + 1) := Nat.pow_dvd_pow 2 (Nat.le_succ k)
        have low := induction (follows.of_dvd fewer) (same.of_dvd fewer)
        rcases modEq_succ_or low with agree | apart
        · exact agree
        · exfalso
          have moved := modEq_of_modEq multiplierForm incrementOdd follows apart
          have flipped := add_two_pow_modEq_succ multiplierForm incrementOdd follows second
          have zero : values second + 2 ^ k ≡ values second + 0 [MOD 2 ^ (k + 1)] :=
            (moved.trans flipped).symm.trans same
          have divides : 2 ^ (k + 1) ∣ 2 ^ k :=
            Nat.modEq_zero_iff_dvd.mp (Nat.ModEq.add_left_cancel' (values second) zero)
          have larger : 2 ^ k < 2 ^ (k + 1) := Nat.pow_lt_pow_succ (by omega)
          exact Nat.not_le_of_lt larger (Nat.le_of_dvd (Nat.two_pow_pos k) divides)
  · exact modEq_of_modEq multiplierForm incrementOdd follows

/-- Among `2 ^ k` values in a row, each pattern of the low `k` bits occurs once. -/
theorem consecutive_perm {k : Nat}
    (follows : LinearCongruential multiplier increment (2 ^ k) values) (start : Nat) :
    (List.range (2 ^ k)).map (fun offset => values (start + offset) % 2 ^ k) ~
      List.range (2 ^ k) := by
  have distinct :
      ((List.range (2 ^ k)).map (fun offset => values (start + offset) % 2 ^ k)).Nodup := by
    apply List.Nodup.map_on _ List.nodup_range
    intro first firstMember second secondMember same
    have places :=
      (modEq_iff multiplierForm incrementOdd follows (start + first) (start + second)).mp same
    exact (Nat.ModEq.add_left_cancel' start places).eq_of_lt_of_lt
      (List.mem_range.mp firstMember) (List.mem_range.mp secondMember)
  have bounded : ((List.range (2 ^ k)).map
      (fun offset => values (start + offset) % 2 ^ k)) ⊆ List.range (2 ^ k) := by
    intro residue member
    rcases List.mem_map.mp member with ⟨offset, _, rfl⟩
    exact List.mem_range.mpr (Nat.mod_lt _ (Nat.two_pow_pos k))
  apply (distinct.subperm bounded).perm_of_length_le
  simp

end FullPeriod

end LinearCongruential

end Lorawan
