import Mathlib.Algebra.Group.Nat.Defs
import Mathlib.Data.Nat.Find
import Mathlib.Tactic.Common

/-! # Clocks that wrap

A clock counts ticks in words, and wraps. It is read again and again; the true counts at
the readings are natural numbers that the program does not see. -/

namespace Lorawan

/-- The true counts at the successive readings: they never go back, and leave every bound
behind. -/
structure Clock where
  ticks : Nat → Nat
  forward : ∀ index, ticks index ≤ ticks (index + 1)
  unbounded : ∀ bound, ∃ index, bound ≤ ticks index

namespace Clock

theorem ticks_le (clock : Clock) {first later : Nat} (ordered : first ≤ later) :
    clock.ticks first ≤ clock.ticks later := by
  induction ordered with
  | refl => exact Nat.le_refl _
  | step _ induction => exact Nat.le_trans induction (clock.forward _)

/-- The ticks since the first reading. -/
def age (clock : Clock) (index : Nat) : Nat :=
  clock.ticks index - clock.ticks 0

/-- The first reading, other than the one that starts the count, with a given age. -/
theorem exists_first (clock : Clock) (duration : Nat) :
    ∃ stop, 1 ≤ stop ∧ duration ≤ clock.age stop ∧
      ∀ index, 1 ≤ index → index < stop → clock.age index < duration := by
  have reached : ∃ index, 1 ≤ index ∧ duration ≤ clock.age index := by
    obtain ⟨index, far⟩ := clock.unbounded (clock.ticks 0 + duration)
    have further := clock.forward index
    refine ⟨index + 1, Nat.succ_pos index, ?_⟩
    unfold age
    omega
  classical
  obtain ⟨later, old⟩ := Nat.find_spec reached
  refine ⟨Nat.find reached, later, old, ?_⟩
  intro index started earlier
  have missed := Nat.find_min reached earlier
  omega

/-- The first reading of an age comes no more than one gap between readings after the
last younger one. -/
theorem age_le_of_first (clock : Clock) {duration gap stop : Nat} (later : 1 ≤ stop)
    (first : ∀ index, 1 ≤ index → index < stop → clock.age index < duration)
    (close : ∀ index, clock.ticks (index + 1) - clock.ticks index ≤ gap) :
    clock.age stop ≤ duration - 1 + gap := by
  obtain ⟨previous, rfl⟩ := Nat.exists_eq_add_of_le' later
  have step := close previous
  have start := clock.ticks_le (Nat.zero_le previous)
  unfold age
  cases previous with
  | zero => omega
  | succ previous =>
      have before := first (previous + 1) (Nat.succ_pos previous) (Nat.lt_succ_self _)
      unfold age at before
      omega

end Clock

/-- The difference of two wrapped counts is the true one while that fits in a word,
wherever the clock stood. -/
theorem toNat_ofNat_sub {w earlier later : Nat} (ordered : earlier ≤ later)
    (young : later - earlier < 2 ^ w) :
    (BitVec.ofNat w later - BitVec.ofNat w earlier).toNat = later - earlier := by
  have sum : BitVec.ofNat w later =
      BitVec.ofNat w (later - earlier) + BitVec.ofNat w earlier := by
    rw [← BitVec.ofNat_add, Nat.sub_add_cancel ordered]
  rw [sum, BitVec.add_sub_cancel, BitVec.toNat_ofNat, Nat.mod_eq_of_lt young]

/-! ## Polling -/

/-- The number of the first reading, from `index` on, that is not busy, if it is among the
next `fuel` ones. -/
def poll (busy : Nat → Bool) : Nat → Nat → Option Nat
  | 0, _ => none
  | fuel + 1, index => if busy index then poll busy fuel (index + 1) else some index

/-- A loop ends at the reading that frees it, given the readings to get there. -/
theorem poll_eq {busy : Nat → Bool} {start stop : Nat} (ordered : start ≤ stop)
    (before : ∀ index, start ≤ index → index < stop → busy index = true)
    (idle : busy stop = false) (fuel : Nat) :
    poll busy fuel start = if stop - start < fuel then some stop else none := by
  induction fuel generalizing start with
  | zero => rfl
  | succ fuel induction =>
      rcases Nat.eq_or_lt_of_le ordered with same | earlier
      · rw [same, poll, idle, if_neg Bool.false_ne_true, if_pos (by omega)]
      · have later : ∀ index, start + 1 ≤ index → index < stop → busy index = true := by
          intro index started
          exact before index (by omega)
        have shorter : stop - start < fuel + 1 ↔ stop - (start + 1) < fuel := by omega
        rw [poll, before start (Nat.le_refl start) earlier, if_pos rfl, induction earlier later]
        simp only [shorter]

end Lorawan
