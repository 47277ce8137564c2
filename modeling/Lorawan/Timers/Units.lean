import Lorawan.Sockets.ReceiveTimeout
import Lorawan.Timers.Delays
import Lorawan.Timers.Independent

/-! # Milliseconds and ticks

Timers, `DelayMs` and `lorawan_recv` are all given milliseconds, and the OS counts ticks.
Only `lorawan_recv` converts them. -/

namespace Lorawan.Timers

/-- The ticks that milliseconds amount to, rounded down. -/
def ticksOf (osTicksPerSec : OsTime) (ms : Nat) : Nat :=
  ms * osTicksPerSec.toNat / 1000

/-- The milliseconds that ticks amount to, rounded down. -/
def millisecondsOf (osTicksPerSec : OsTime) (ticks : Nat) : Nat :=
  ticks * 1000 / osTicksPerSec.toNat

/-! ## Timers -/

/-- A proper run ends with a start of the object, whose delay was last set to `value`. -/
structure Started (objects : Nat → TimerEvent) (calls : List Call) (obj : Nat)
    (value : BitVec 32) : Prop where
  proper : timers.Along State.Proper (State.initial objects) (calls ++ [.start obj])
  set : latest (reloadOn obj) (timers.trace (State.initial objects) calls) = some value

theorem Started.armed {objects : Nat → TimerEvent} {calls : List Call} {obj : Nat}
    {value : BitVec 32} (started : Started objects calls obj value) :
    (timers.run (State.initial objects) (calls ++ [.start obj])).armed obj =
      some value.toNat := by
  rcases (timers.along_append _ _ _ _).mp started.proper with ⟨earlier, now, _⟩
  rcases recorded_run objects calls earlier with ⟨sound, recorded⟩
  have laws := stepLaws_of_recorded sound recorded (.start obj) now
  rcases laws.delay obj (.inl rfl) with ⟨reload, last, armed, _⟩
  rcases Option.some.inj (started.set.symm.trans last) with rfl
  rw [timers.run_append]
  exact armed

/-! ## Delays -/

/-- The loop of `DelayMs` ends, at a reading `ticks` after the first. -/
def DelaysFor (clock : Clock) (ms : BitVec 32) (ticks : Nat) : Prop :=
  ∃ stop, clock.age stop = ticks ∧
    ∀ fuel, delayMs (readings clock) ms fuel = if stop ≤ fuel then some stop else none

/-- No tick passes between two readings without a third. -/
def EveryTick (clock : Clock) : Prop :=
  ∀ index, clock.ticks (index + 1) - clock.ticks index ≤ 1

theorem DelaysFor.unique {clock : Clock} {ms : BitVec 32} {first second : Nat}
    (firstDelay : DelaysFor clock ms first) (secondDelay : DelaysFor clock ms second) :
    first = second := by
  rcases firstDelay with ⟨stop, rfl, ends⟩
  rcases secondDelay with ⟨other, rfl, otherEnds⟩
  have both := (ends (max stop other)).symm.trans (otherEnds (max stop other))
  rw [if_pos (Nat.le_max_left stop other), if_pos (Nat.le_max_right stop other)] at both
  rw [Option.some.inj both]

theorem delaysFor_iff {clock : Clock} (polled : EveryTick clock) {ms : BitVec 32}
    (positive : 1 ≤ ms.toNat) (ticks : Nat) :
    DelaysFor clock ms ticks ↔ ticks = ms.toNat := by
  obtain ⟨stop, later, old, first⟩ := clock.exists_first ms.toNat
  have late := clock.age_le_of_first later first polled
  have age : clock.age stop = ms.toNat := by omega
  have delays : DelaysFor clock ms ms.toNat :=
    ⟨stop, age, delayMs_eq clock later old (age ▸ ms.isLt) first⟩
  constructor
  · intro others
    exact others.unique delays
  · intro same
    rw [same]
    exact delays

theorem steadyClock_everyTick (start : Nat) : EveryTick (steadyClock start) := by
  intro index
  rw [steadyClock_ticks_sub]
  omega

/-! ## All durations -/

/-- All four functions take milliseconds for what they amount to in ticks. -/
structure SameUnits (osTicksPerSec : OsTime) (value : BitVec 32) (elapsed : Nat) : Prop where
  timer : ∀ objects calls obj, Started objects calls obj value →
    (timers.run (State.initial objects) (calls ++ [.start obj])).armed obj =
      some (ticksOf osTicksPerSec value.toNat)
  delay : ∀ clock, EveryTick clock →
    DelaysFor clock value (ticksOf osTicksPerSec value.toNat)
  recv : (Sockets.recvTimo osTicksPerSec value).toNat = ticksOf osTicksPerSec value.toNat
  reported : ∀ saved,
    (timerGetElapsedTime (osTimeGet (saved + elapsed))
      (timerGetCurrentTime (osTimeGet saved))).toNat = millisecondsOf osTicksPerSec elapsed

section Units

variable {osTicksPerSec : OsTime} {value : BitVec 32} {elapsed : Nat}

/-- Below a thousand ticks per second no duration is the same number of both. -/
theorem ticksOf_eq_self_iff (least : 1 ≤ osTicksPerSec.toNat)
    (most : osTicksPerSec.toNat ≤ 1000) {ms : Nat} (positive : 1 ≤ ms) :
    ticksOf osTicksPerSec ms = ms ↔ osTicksPerSec.toNat = 1000 :=
  UnitConversion.mul_div_eq_self_iff positive least most

theorem Started.armed_eq_ticksOf_iff {objects : Nat → TimerEvent} {calls : List Call}
    {obj : Nat} (started : Started objects calls obj value) (least : 1 ≤ osTicksPerSec.toNat)
    (most : osTicksPerSec.toNat ≤ 1000) (positive : 1 ≤ value.toNat) :
    (timers.run (State.initial objects) (calls ++ [.start obj])).armed obj =
        some (ticksOf osTicksPerSec value.toNat) ↔ osTicksPerSec.toNat = 1000 := by
  rw [started.armed, Option.some_inj, eq_comm]
  exact ticksOf_eq_self_iff least most positive

theorem delaysFor_ticksOf_iff {clock : Clock} (polled : EveryTick clock)
    (least : 1 ≤ osTicksPerSec.toNat) (most : osTicksPerSec.toNat ≤ 1000)
    (positive : 1 ≤ value.toNat) :
    DelaysFor clock value (ticksOf osTicksPerSec value.toNat) ↔ osTicksPerSec.toNat = 1000 := by
  rw [delaysFor_iff polled positive]
  exact ticksOf_eq_self_iff least most positive

theorem recvTimo_eq_ticksOf (positive : 1 ≤ value.toNat) (small : value.toNat < 2 ^ 31)
    (fits : value.toNat * osTicksPerSec.toNat < 2 ^ 32) :
    (Sockets.recvTimo osTicksPerSec value).toNat = ticksOf osTicksPerSec value.toNat := by
  have timed : Sockets.Timed value := ⟨positive, by omega⟩
  exact (Sockets.recvTimo_ticks_iff osTicksPerSec timed).mpr fits

theorem elapsed_eq_iff (least : 1 ≤ osTicksPerSec.toNat) (most : osTicksPerSec.toNat ≤ 1000)
    (elapsedFits : elapsed * 1000 < 2 ^ 32) (saved : Nat) :
    (timerGetElapsedTime (osTimeGet (saved + elapsed))
        (timerGetCurrentTime (osTimeGet saved))).toNat = millisecondsOf osTicksPerSec elapsed ↔
      elapsed * 1000 < (elapsed + 1) * osTicksPerSec.toNat := by
  have young : saved + elapsed - saved < 2 ^ 32 := by omega
  rw [timerGetElapsedTime_eq (Nat.le_add_right saved elapsed) young,
    Nat.add_sub_cancel_left, eq_comm]
  exact UnitConversion.mul_div_eq_self_iff_lt least most

end Units

/-- For the tick rates up to 1000, the durations whose product fits and the counts of
ticks whose milliseconds fit: `lorawan_recv` converts them, timers and `DelayMs` are right
at a thousand ticks per second only, and `TimerGetElapsedTime` as long as the rounded
milliseconds are as many as the ticks. -/
theorem same_units_iff (osTicksPerSec : OsTime) (value : BitVec 32) (elapsed : Nat)
    (least : 1 ≤ osTicksPerSec.toNat) (most : osTicksPerSec.toNat ≤ 1000)
    (positive : 1 ≤ value.toNat) (small : value.toNat < 2 ^ 31)
    (fits : value.toNat * osTicksPerSec.toNat < 2 ^ 32)
    (elapsedFits : elapsed * 1000 < 2 ^ 32) :
    (SameUnits osTicksPerSec value elapsed ↔ osTicksPerSec.toNat = 1000) ∧
    (∀ objects calls obj, Started objects calls obj value →
      ((timers.run (State.initial objects) (calls ++ [.start obj])).armed obj =
          some (ticksOf osTicksPerSec value.toNat) ↔ osTicksPerSec.toNat = 1000)) ∧
    (∀ clock, EveryTick clock →
      (DelaysFor clock value (ticksOf osTicksPerSec value.toNat) ↔
        osTicksPerSec.toNat = 1000)) ∧
    (Sockets.recvTimo osTicksPerSec value).toNat = ticksOf osTicksPerSec value.toNat ∧
    ∀ saved, (timerGetElapsedTime (osTimeGet (saved + elapsed))
        (timerGetCurrentTime (osTimeGet saved))).toNat = millisecondsOf osTicksPerSec elapsed ↔
      elapsed * 1000 < (elapsed + 1) * osTicksPerSec.toNat := by
  have timer := fun objects calls obj (started : Started objects calls obj value) =>
    started.armed_eq_ticksOf_iff least most positive
  have delay := fun clock (polled : EveryTick clock) =>
    delaysFor_ticksOf_iff polled least most positive
  have recv := recvTimo_eq_ticksOf positive small fits
  have reported := elapsed_eq_iff least most elapsedFits
  refine ⟨?_, timer, delay, recv, reported⟩
  constructor
  · intro units
    have polled := steadyClock_everyTick 0
    exact (delay (steadyClock 0) polled).mp (units.delay (steadyClock 0) polled)
  · intro thousand
    constructor
    case timer =>
      intro objects calls obj started
      exact (timer objects calls obj started).mpr thousand
    case delay =>
      intro clock polled
      exact (delay clock polled).mpr thousand
    case recv => exact recv
    case reported =>
      intro saved
      apply (reported saved).mpr
      rw [thousand, Nat.succ_mul]
      omega

/-- A thousand ticks per second, and five seconds. -/
theorem same_units_iff_five_seconds : SameUnits 1000#32 5000#32 7 :=
  (same_units_iff 1000#32 5000#32 7 (by decide) (by decide) (by decide) (by decide) (by decide)
    (by decide)).1.mpr (by decide)

/-- At 128 ticks per second, a second is 128 ticks to `lorawan_recv`, and 1000 ticks to a
timer and to `DelayMs`; 128 ticks are a second, and are reported as 128 ms. -/
theorem units_differ :
    let objects : Nat → TimerEvent := fun _ => ⟨0, 0, false, 0⟩
    let calls : List Call := [.init 3 9 true, .setValue 3 1000#32]
    Started objects calls 3 1000#32 ∧
      (timers.run (State.initial objects) (calls ++ [.start 3])).armed 3 = some 1000 ∧
      DelaysFor (steadyClock 0) 1000#32 1000 ∧
      Sockets.recvTimo 128#32 1000#32 = 128#32 ∧
      (timerGetElapsedTime (osTimeGet 128) (timerGetCurrentTime (osTimeGet 0))).toNat = 128 ∧
      millisecondsOf 128#32 128 = 1000 ∧ ¬SameUnits 128#32 1000#32 128 := by
  intro objects calls
  have started : Started objects calls 3 1000#32 :=
    { proper := ⟨⟨rfl, rfl⟩, ⟨rfl, by decide⟩, rfl, trivial⟩, set := rfl }
  refine ⟨started, started.armed, ?_, by decide, by decide, by decide, ?_⟩
  · exact (delaysFor_iff (steadyClock_everyTick 0) (by decide) 1000).mpr (by decide)
  · intro units
    have armed := units.timer objects calls 3 started
    rw [started.armed] at armed
    exact absurd armed (by decide)

end Lorawan.Timers
