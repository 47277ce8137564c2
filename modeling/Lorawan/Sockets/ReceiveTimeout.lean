import Lorawan.Library.UnitConversion
import Lorawan.Sockets.Api

/-! # The timeout of `lorawan_recv`

The product of the milliseconds and the tick rate is formed in 32 bits, and wraps before
the division. -/

namespace Lorawan.Sockets

/-- The poll waits for the ticks that the milliseconds amount to, and not forever. -/
structure ExactTimeout (osTicksPerSec : OsTime) (timeoutMs : BitVec 32) : Prop where
  ticks : (recvTimo osTicksPerSec timeoutMs).toNat =
    timeoutMs.toNat * osTicksPerSec.toNat / 1000
  bounded : recvTimo osTicksPerSec timeoutMs ≠ osWaitForever

/-- Neither of the two values that select an infinite wait. -/
def Timed (timeoutMs : BitVec 32) : Prop :=
  1 ≤ timeoutMs.toNat ∧ timeoutMs.toNat ≤ 2 ^ 32 - 2

instance (timeoutMs : BitVec 32) : Decidable (Timed timeoutMs) :=
  inferInstanceAs (Decidable (_ ∧ _))

variable {osTicksPerSec : OsTime} {timeoutMs : BitVec 32}

theorem recvTimo_of_timed (osTicksPerSec : OsTime) (timed : Timed timeoutMs) :
    recvTimo osTicksPerSec timeoutMs = timeoutMs * osTicksPerSec / 1000#32 := by
  rcases timed with ⟨least, most⟩
  have notZero : timeoutMs ≠ 0#32 := by
    intro zero
    rw [zero] at least
    contradiction
  have notForever : timeoutMs ≠ osWaitForever := by
    intro forever
    rw [forever] at most
    contradiction
  rw [recvTimo, if_neg (not_or.mpr ⟨notZero, notForever⟩)]

theorem recvTimo_ticks_iff (osTicksPerSec : OsTime) (timed : Timed timeoutMs) :
    (recvTimo osTicksPerSec timeoutMs).toNat = timeoutMs.toNat * osTicksPerSec.toNat / 1000 ↔
      timeoutMs.toNat * osTicksPerSec.toNat < 2 ^ 32 := by
  have second : (1000#32).toNat = 1000 := by decide
  have converted := UnitConversion.toNat_mul_div_eq_iff timeoutMs osTicksPerSec
    (show 0 < (1000#32).toNat by decide)
  rw [second] at converted
  rw [recvTimo_of_timed osTicksPerSec timed]
  exact converted

/-- The quotient is far below the value that means forever, whether or not the product
wrapped. -/
theorem recvTimo_ne_osWaitForever (osTicksPerSec : OsTime) (timed : Timed timeoutMs) :
    recvTimo osTicksPerSec timeoutMs ≠ osWaitForever := by
  intro forever
  have small := UnitConversion.toNat_mul_div_le timeoutMs osTicksPerSec 1000#32
  rw [← recvTimo_of_timed osTicksPerSec timed, forever] at small
  contradiction

theorem exactTimeout_iff (osTicksPerSec : OsTime) (timed : Timed timeoutMs) :
    ExactTimeout osTicksPerSec timeoutMs ↔ timeoutMs.toNat * osTicksPerSec.toNat < 2 ^ 32 := by
  rw [← recvTimo_ticks_iff osTicksPerSec timed]
  constructor
  · intro exactly
    exact exactly.ticks
  · intro ticks
    exact { ticks, bounded := recvTimo_ne_osWaitForever osTicksPerSec timed }

/-- A receive whose poll has a deadline returns, in whatever state it is called. -/
theorem lorawanRecv_returns (bounded : recvTimo osTicksPerSec timeoutMs ≠ osWaitForever)
    (state : State) (sock : LorawanSock) (buffers : RecvBuffers) (payloadMaxLen : Byte) :
    (lorawanRecv osTicksPerSec state sock buffers payloadMaxLen timeoutMs).2.returned ≠
      none := by
  unfold lorawanRecv
  cases lorawanFindEl state sock with
  | none => exact Option.some_ne_none _
  | some el =>
      by_cases unpinned : el.devAddr = 0#32
      · simp [unpinned]
      by_cases noPort : el.ports.firstUsed = 8
      · simp [unpinned, noPort]
      cases queue : el.sockEventq with
      | nil => simp [unpinned, noPort, queue, osEventqPoll, bounded]
      | cons ev rest => simp [unpinned, noPort, queue, osEventqPoll]

/-! ## Longer timeouts -/

/-- As long as the longer product does not wrap, a longer timeout waits no less. -/
theorem recvTimo_le_recvTimo {shorter longer : BitVec 32} (shorterTimed : Timed shorter)
    (longerTimed : Timed longer) (ordered : shorter.toNat ≤ longer.toNat)
    (fits : longer.toNat * osTicksPerSec.toNat < 2 ^ 32) :
    (recvTimo osTicksPerSec shorter).toNat ≤ (recvTimo osTicksPerSec longer).toNat := by
  have products := Nat.mul_le_mul_right osTicksPerSec.toNat ordered
  rw [(recvTimo_ticks_iff osTicksPerSec shorterTimed).mpr (Nat.lt_of_le_of_lt products fits),
    (recvTimo_ticks_iff osTicksPerSec longerTimed).mpr fits]
  exact Nat.div_le_div_right products

theorem toNat_recvTimo (osTicksPerSec : OsTime) (timed : Timed timeoutMs) :
    (recvTimo osTicksPerSec timeoutMs).toNat =
      timeoutMs.toNat * osTicksPerSec.toNat % 2 ^ 32 / 1000 := by
  rw [recvTimo_of_timed osTicksPerSec timed, UnitConversion.toNat_mul_div]
  rfl

/-- From two ticks per second on, the last timeout whose product fits waits almost as
long as is possible, and the next one not at all. -/
theorem recvTimo_drops (two : 2 ≤ osTicksPerSec.toNat) (most : osTicksPerSec.toNat ≤ 1000) :
    ∃ shorter longer : BitVec 32, Timed shorter ∧ Timed longer ∧
      shorter.toNat ≤ longer.toNat ∧
      (recvTimo osTicksPerSec longer).toNat < (recvTimo osTicksPerSec shorter).toNat := by
  obtain ⟨last, fits, wraps⟩ := UnitConversion.last_fit (Nat.two_pow_pos 32)
    (show 0 < osTicksPerSec.toNat by omega)
  have half : last * 2 ≤ last * osTicksPerSec.toNat := Nat.mul_le_mul_left last two
  have many : last * osTicksPerSec.toNat ≤ last * 1000 := Nat.mul_le_mul_left last most
  have shorterNat : (BitVec.ofNat 32 last).toNat = last := by
    rw [BitVec.toNat_ofNat]
    exact Nat.mod_eq_of_lt (by omega)
  have longerNat : (BitVec.ofNat 32 (last + 1)).toNat = last + 1 := by
    rw [BitVec.toNat_ofNat]
    exact Nat.mod_eq_of_lt (by omega)
  have shorterTimed : Timed (BitVec.ofNat 32 last) := by
    rw [Timed, shorterNat]
    omega
  have longerTimed : Timed (BitVec.ofNat 32 (last + 1)) := by
    rw [Timed, longerNat]
    omega
  refine ⟨_, _, shorterTimed, longerTimed, ?_, ?_⟩
  · omega
  · rw [toNat_recvTimo osTicksPerSec shorterTimed, toNat_recvTimo osTicksPerSec longerTimed,
      shorterNat, longerNat, Nat.succ_mul]
    omega

/-- For tick rates up to 1000: the conversion of a timeout is exact just when its product
fits in 32 bits, two timeouts are converted and ordered rightly just when the longer one
is, and the order of all timeouts is kept at one tick per second only. No deadline is the
infinite one, so that every such call returns. -/
theorem recv_timeout_exact_iff (osTicksPerSec : OsTime) (least : 1 ≤ osTicksPerSec.toNat)
    (most : osTicksPerSec.toNat ≤ 1000) :
    (∀ timeoutMs, Timed timeoutMs →
      (ExactTimeout osTicksPerSec timeoutMs ↔
        timeoutMs.toNat * osTicksPerSec.toNat < 2 ^ 32) ∧
      recvTimo osTicksPerSec timeoutMs ≠ osWaitForever ∧
      ∀ state sock buffers payloadMaxLen,
        (lorawanRecv osTicksPerSec state sock buffers payloadMaxLen timeoutMs).2.returned ≠
          none) ∧
    (∀ shorter longer, Timed shorter → Timed longer → shorter.toNat ≤ longer.toNat →
      (ExactTimeout osTicksPerSec shorter ∧ ExactTimeout osTicksPerSec longer ∧
          (recvTimo osTicksPerSec shorter).toNat ≤ (recvTimo osTicksPerSec longer).toNat ↔
        longer.toNat * osTicksPerSec.toNat < 2 ^ 32)) ∧
    ((∀ shorter longer, Timed shorter → Timed longer → shorter.toNat ≤ longer.toNat →
        (recvTimo osTicksPerSec shorter).toNat ≤ (recvTimo osTicksPerSec longer).toNat) ↔
      osTicksPerSec.toNat = 1) := by
  refine ⟨?_, ?_, ?_⟩
  · intro timeoutMs timed
    have bounded := recvTimo_ne_osWaitForever osTicksPerSec timed
    exact ⟨exactTimeout_iff osTicksPerSec timed, bounded, lorawanRecv_returns bounded⟩
  · intro shorter longer shorterTimed longerTimed ordered
    constructor
    · intro exactly
      exact (exactTimeout_iff osTicksPerSec longerTimed).mp exactly.2.1
    · intro fits
      have products := Nat.mul_le_mul_right osTicksPerSec.toNat ordered
      have shorterFits := Nat.lt_of_le_of_lt products fits
      exact ⟨(exactTimeout_iff osTicksPerSec shorterTimed).mpr shorterFits,
        (exactTimeout_iff osTicksPerSec longerTimed).mpr fits,
        recvTimo_le_recvTimo shorterTimed longerTimed ordered fits⟩
  · constructor
    · intro monotone
      by_contra different
      obtain ⟨shorter, longer, shorterTimed, longerTimed, ordered, drops⟩ :=
        recvTimo_drops (show 2 ≤ osTicksPerSec.toNat by omega) most
      exact absurd (monotone shorter longer shorterTimed longerTimed ordered)
        (Nat.not_le_of_lt drops)
    · intro one shorter longer shorterTimed longerTimed ordered
      apply recvTimo_le_recvTimo shorterTimed longerTimed ordered
      rw [one, Nat.mul_one]
      exact longer.isLt

/-- A thousand ticks per second, and five seconds. -/
theorem recv_timeout_exact_five_seconds : ExactTimeout 1000#32 5000#32 :=
  ((recv_timeout_exact_iff 1000#32 (by decide) (by decide)).1 5000#32 (by decide)).1.mpr
    (by decide)

/-- A receive with a timeout of 4294968 ms, over 71 minutes, does not wait at all. -/
theorem recv_timeout_wraps :
    Timed 4294967#32 ∧ Timed 4294968#32 ∧ recvTimo 1000#32 4294967#32 = 4294967#32 ∧
      recvTimo 1000#32 4294968#32 = 0#32 ∧ ¬ExactTimeout 1000#32 4294968#32 := by
  have nothing : recvTimo 1000#32 4294968#32 = 0#32 := by decide
  refine ⟨by decide, by decide, by decide, nothing, ?_⟩
  intro exactly
  have ticks := exactly.ticks
  rw [nothing] at ticks
  contradiction

end Lorawan.Sockets
