import Lorawan.Library.WrappingClock
import Lorawan.Mac

/-! # Reading the clock

`TimerGetCurrentTime` and `TimerGetElapsedTime` of `timer.c`, and the polling loop of
`DelayMs` in `delay-board.c`. All compare wrapped 32-bit tick counts by their difference. -/

namespace Lorawan.Timers

/-- `TimerTime_t`. -/
abbrev TimerTime := BitVec 32

/-- What `os_time_get` returns at a true tick count. -/
def osTimeGet (ticks : Nat) : OsTime :=
  BitVec.ofNat 32 ticks

/-- The argument is what `os_time_get` returns in the call. -/
def timerGetCurrentTime (now : OsTime) : TimerTime := now

def timerGetElapsedTime (now : OsTime) (savedTime : TimerTime) : TimerTime :=
  now - savedTime

/-- `current` is the first reading of the clock, and the readings from the second on are
those of the loop. The result is the number of the reading that ends it, if `fuel`
readings are enough for that. -/
def delayMs (readings : Nat → OsTime) (ms : BitVec 32) (fuel : Nat) : Option Nat :=
  let current := readings 0
  poll (fun index => decide (readings index - current < ms)) fuel 1

variable (clock : Clock)

/-- What the successive calls of `os_time_get` return. -/
def readings (index : Nat) : OsTime :=
  osTimeGet (clock.ticks index)

theorem timerGetElapsedTime_eq {saved now : Nat} (ordered : saved ≤ now)
    (young : now - saved < 2 ^ 32) :
    (timerGetElapsedTime (osTimeGet now) (timerGetCurrentTime (osTimeGet saved))).toNat =
      now - saved :=
  toNat_ofNat_sub ordered young

/-- The loop compares the age itself while that fits in 32 bits. -/
theorem readings_sub_lt_iff {index : Nat} (ms : BitVec 32) (young : clock.age index < 2 ^ 32) :
    readings clock index - readings clock 0 < ms ↔ clock.age index < ms.toNat := by
  have difference : (readings clock index - readings clock 0).toNat = clock.age index :=
    toNat_ofNat_sub (clock.ticks_le (Nat.zero_le index)) young
  rw [BitVec.lt_def, difference]

/-- The loop ends at the first reading that is old enough, provided that this one is not
so late as to look young again. -/
theorem delayMs_eq {ms : BitVec 32} {stop : Nat} (later : 1 ≤ stop)
    (old : ms.toNat ≤ clock.age stop) (young : clock.age stop < 2 ^ 32)
    (first : ∀ index, 1 ≤ index → index < stop → clock.age index < ms.toNat) (fuel : Nat) :
    delayMs (readings clock) ms fuel = if stop ≤ fuel then some stop else none := by
  have before : ∀ index, 1 ≤ index → index < stop →
      decide (readings clock index - readings clock 0 < ms) = true := by
    intro index started earlier
    have age := first index started earlier
    apply decide_eq_true
    exact (readings_sub_lt_iff clock ms (Nat.lt_trans age ms.isLt)).mpr age
  have idle : decide (readings clock stop - readings clock 0 < ms) = false := by
    apply decide_eq_false
    rw [readings_sub_lt_iff clock ms young]
    exact Nat.not_lt_of_le old
  have enough : stop - 1 < fuel ↔ stop ≤ fuel := by omega
  simp only [delayMs, poll_eq later before idle fuel, enough]

/-- Whatever the clock shows at first, and however often it wraps: while it is read often
enough, the loop of `DelayMs` ends at the first reading that is old enough, and the elapsed
time of anything younger than a whole turn of the clock is its age. -/
theorem delays_survive_wrap :
    (∀ ms : BitVec 32,
      (∀ index, clock.ticks (index + 1) - clock.ticks index < 2 ^ 32 - ms.toNat) →
      ∃ stop, 1 ≤ stop ∧ ms.toNat ≤ clock.ticks stop - clock.ticks 0 ∧
        (∀ index, 1 ≤ index → index < stop →
          clock.ticks index - clock.ticks 0 < ms.toNat) ∧
        ∀ fuel, delayMs (readings clock) ms fuel = if stop ≤ fuel then some stop else none) ∧
    ∀ saved now, saved ≤ now → now - saved < 2 ^ 32 →
      (timerGetElapsedTime (osTimeGet now) (timerGetCurrentTime (osTimeGet saved))).toNat =
        now - saved := by
  constructor
  · intro ms close
    obtain ⟨stop, later, old, first⟩ := clock.exists_first ms.toNat
    have late := clock.age_le_of_first later first fun index =>
      Nat.le_sub_one_of_lt (close index)
    have bound := ms.isLt
    exact ⟨stop, later, old, first,
      delayMs_eq clock later old (by omega) first⟩
  · intro saved now
    exact timerGetElapsedTime_eq

/-- A clock that is read at every tick. -/
def steadyClock (start : Nat) : Clock where
  ticks index := start + index
  forward index := Nat.le_succ (start + index)
  unbounded bound := ⟨bound, Nat.le_add_left bound start⟩

theorem steadyClock_ticks_sub (start index earlier : Nat) :
    (steadyClock start).ticks index - (steadyClock start).ticks earlier = index - earlier :=
  Nat.add_sub_add_left start index earlier

/-- A delay of five ticks that begins two ticks before the clock wraps. -/
theorem delays_survive_wrap_five_ticks :
    delayMs (readings (steadyClock (2 ^ 32 - 2))) 5#32 9 = some 5 := by
  have five : (5#32).toNat = 5 := by decide
  have close : ∀ index, (steadyClock (2 ^ 32 - 2)).ticks (index + 1) -
      (steadyClock (2 ^ 32 - 2)).ticks index < 2 ^ 32 - (5#32).toNat := by
    intro index
    rw [steadyClock_ticks_sub, five]
    omega
  obtain ⟨stop, later, old, first, ends⟩ :=
    (delays_survive_wrap (steadyClock (2 ^ 32 - 2))).1 5#32 close
  have missed := first 5 (by decide)
  simp only [steadyClock_ticks_sub, five] at old missed
  have exactly : stop = 5 := by omega
  rw [ends, exactly]
  rfl

end Lorawan.Timers
