import Lorawan.Library.BitFields
import Lorawan.Library.Execution
import Lorawan.Mac

/-! # The power amplifier of the SX1276

`SX1276SetRfTxPower` of `sx1276-board.c` reads two registers, changes some of their
bits and writes them back. The masks and values are those of `sx1276Regs-LoRa.h`; the
threshold `RF_MID_BAND_THRESH` is a parameter. -/

namespace Lorawan.Radio.Sx1276

/-- The channel of the driver's settings, and the two registers. -/
structure State where
  channel : BitVec 32
  paConfig : Byte
  paDac : Byte
  deriving DecidableEq, Repr

def rfPaconfigPaselectMask : Byte := 0x7F#8
def rfPaconfigPaselectPaboost : Byte := 0x80#8
def rfPaconfigPaselectRfo : Byte := 0x00#8
def rfPaconfigMaxPowerMask : Byte := 0x8F#8
def rfPaconfigOutputpowerMask : Byte := 0xF0#8
def rfPadac20dbmMask : Byte := 0xF8#8
def rfPadac20dbmOn : Byte := 0x07#8
def rfPadac20dbmOff : Byte := 0x04#8

def sx1276GetPaSelect (rfMidBandThresh channel : BitVec 32) : Byte :=
  if rfMidBandThresh < channel then rfPaconfigPaselectPaboost else rfPaconfigPaselectRfo

/-- `if( power < low ) power = low; if( power > high ) power = high;` -/
def limit (low high power : BitVec 8) : BitVec 8 :=
  let power := if power.toInt < low.toInt then low else power
  if high.toInt < power.toInt then high else power

/-- `( uint8_t )( ( uint16_t )( power + offset ) & 0x0F )`, where `int8_t` is promoted. -/
def outputPower (power : BitVec 8) (offset : Int) : Byte :=
  (BitVec.ofInt 16 (power.toInt + offset) &&& 0x000F#16).setWidth 8

def sx1276SetRfTxPower (rfMidBandThresh : BitVec 32) (state : State) (power : BitVec 8) :
    State :=
  let paConfig := state.paConfig
  let paDac := state.paDac
  let paConfig := (paConfig &&& rfPaconfigPaselectMask) |||
    sx1276GetPaSelect rfMidBandThresh state.channel
  let paConfig := (paConfig &&& rfPaconfigMaxPowerMask) ||| 0x70#8
  let (paConfig, paDac) :=
    if paConfig &&& rfPaconfigPaselectPaboost = rfPaconfigPaselectPaboost then
      let paDac :=
        if 17 < power.toInt then (paDac &&& rfPadac20dbmMask) ||| rfPadac20dbmOn
        else (paDac &&& rfPadac20dbmMask) ||| rfPadac20dbmOff
      if paDac &&& rfPadac20dbmOn = rfPadac20dbmOn then
        let power := limit 5#8 20#8 power
        ((paConfig &&& rfPaconfigOutputpowerMask) ||| outputPower power (-5), paDac)
      else
        let power := limit 2#8 17#8 power
        ((paConfig &&& rfPaconfigOutputpowerMask) ||| outputPower power (-2), paDac)
    else
      let power := limit (-1#8) 14#8 power
      ((paConfig &&& rfPaconfigOutputpowerMask) ||| outputPower power 1, paDac)
  { state with paConfig := paConfig, paDac := paDac }

inductive Call
  | setChannel (channel : BitVec 32)
  | setRfTxPower (power : BitVec 8)
  deriving DecidableEq

def amplifier (rfMidBandThresh : BitVec 32) : Machine State Call Unit where
  step state
    | .setChannel channel => ({ state with channel := channel }, ())
    | .setRfTxPower power => (sx1276SetRfTxPower rfMidBandThresh state power, ())

/-! ## The settings -/

/-- The fields of the two registers that make up the power setting. -/
structure Settings where
  paSelect : Byte
  maxPower : Byte
  outputPower : Int
  padac20dbm : Byte
  deriving DecidableEq, Repr

def State.settings (state : State) : Settings where
  paSelect := state.paConfig &&& rfPaconfigPaselectPaboost
  maxPower := state.paConfig &&& 0x70#8
  outputPower := (state.paConfig &&& 0x0F#8).toNat
  padac20dbm := state.paDac &&& rfPadac20dbmOn

/-- The settings that belong to a channel and a power. -/
def settingsFor (rfMidBandThresh channel : BitVec 32) (power : BitVec 8) : Settings :=
  if rfMidBandThresh < channel then
    if 17 < power.toInt then
      { paSelect := rfPaconfigPaselectPaboost
        maxPower := 0x70#8
        outputPower := max 5 (min 20 power.toInt) - 5
        padac20dbm := rfPadac20dbmOn }
    else
      { paSelect := rfPaconfigPaselectPaboost
        maxPower := 0x70#8
        outputPower := max 2 (min 17 power.toInt) - 2
        padac20dbm := rfPadac20dbmOff }
  else
    { paSelect := rfPaconfigPaselectRfo
      maxPower := 0x70#8
      outputPower := max (-1) (min 14 power.toInt) + 1
      padac20dbm := rfPadac20dbmOff }

/-! ## What a call writes -/

/-- The new content of the first register. -/
def configured (paConfig select output : Byte) : Byte :=
  (((((paConfig &&& rfPaconfigPaselectMask) ||| select) &&& rfPaconfigMaxPowerMask) |||
    0x70#8) &&& rfPaconfigOutputpowerMask) ||| output

/-- The bit that the code tests is the one it has just written. -/
theorem select_bit (paConfig select : Byte)
    (bit : select &&& rfPaconfigPaselectPaboost = select) :
    ((((paConfig &&& rfPaconfigPaselectMask) ||| select) &&& rfPaconfigMaxPowerMask) |||
      0x70#8) &&& rfPaconfigPaselectPaboost = select := by
  rw [BitFields.and_field_of_kept _ (by decide) (by decide),
    BitFields.and_field_of_cleared _ _ (by decide), bit]

theorem paDac_on (paDac : Byte) :
    ((paDac &&& rfPadac20dbmMask) ||| rfPadac20dbmOn) &&& rfPadac20dbmOn = rfPadac20dbmOn :=
  BitFields.and_field_of_cleared _ _ (by decide)

theorem paDac_off (paDac : Byte) :
    ((paDac &&& rfPadac20dbmMask) ||| rfPadac20dbmOff) &&& rfPadac20dbmOn = rfPadac20dbmOff :=
  BitFields.and_field_of_cleared _ _ (by decide)

section Calls

variable (rfMidBandThresh : BitVec 32) (state : State) (power : BitVec 8)

theorem setRfTxPower_boost_20dbm (boost : rfMidBandThresh < state.channel)
    (above : 17 < power.toInt) :
    sx1276SetRfTxPower rfMidBandThresh state power = { state with
      paConfig := configured state.paConfig rfPaconfigPaselectPaboost
        (outputPower (limit 5#8 20#8 power) (-5))
      paDac := (state.paDac &&& rfPadac20dbmMask) ||| rfPadac20dbmOn } := by
  have bit := select_bit state.paConfig rfPaconfigPaselectPaboost (by decide)
  have on := paDac_on state.paDac
  simp only [sx1276SetRfTxPower, sx1276GetPaSelect, if_pos boost, if_pos above, if_pos bit,
    if_pos on]
  rfl

theorem setRfTxPower_boost (boost : rfMidBandThresh < state.channel)
    (below : ¬17 < power.toInt) :
    sx1276SetRfTxPower rfMidBandThresh state power = { state with
      paConfig := configured state.paConfig rfPaconfigPaselectPaboost
        (outputPower (limit 2#8 17#8 power) (-2))
      paDac := (state.paDac &&& rfPadac20dbmMask) ||| rfPadac20dbmOff } := by
  have bit := select_bit state.paConfig rfPaconfigPaselectPaboost (by decide)
  have off : ((state.paDac &&& rfPadac20dbmMask) ||| rfPadac20dbmOff) &&& rfPadac20dbmOn ≠
      rfPadac20dbmOn := by
    intro on
    have bits := (paDac_off state.paDac).symm.trans on
    exact absurd bits (by decide)
  simp only [sx1276SetRfTxPower, sx1276GetPaSelect, if_pos boost, if_neg below, if_pos bit,
    if_neg off]
  rfl

/-- On RFO the second register is written back as it was read. -/
theorem setRfTxPower_rfo (rfo : ¬rfMidBandThresh < state.channel) :
    sx1276SetRfTxPower rfMidBandThresh state power = { state with
      paConfig := configured state.paConfig rfPaconfigPaselectRfo
        (outputPower (limit (-1#8) 14#8 power) 1) } := by
  have bit := select_bit state.paConfig rfPaconfigPaselectRfo (by decide)
  have notBoost : ((((state.paConfig &&& rfPaconfigPaselectMask) ||| rfPaconfigPaselectRfo) &&&
      rfPaconfigMaxPowerMask) ||| 0x70#8) &&& rfPaconfigPaselectPaboost ≠
        rfPaconfigPaselectPaboost := by
    intro boost
    exact absurd (bit.symm.trans boost) (by decide)
  simp only [sx1276SetRfTxPower, sx1276GetPaSelect, if_neg rfo, if_neg notBoost]
  rfl

end Calls

/-! ## The fields after a call -/

theorem toInt_limit {low high : BitVec 8} (ordered : low.toInt ≤ high.toInt)
    (power : BitVec 8) :
    (limit low high power).toInt = max low.toInt (min high.toInt power.toInt) := by
  unfold limit
  by_cases under : power.toInt < low.toInt
  · simp only [if_pos under]
    rw [if_neg (by omega)]
    omega
  · simp only [if_neg under]
    by_cases above : high.toInt < power.toInt
    · rw [if_pos above]
      omega
    · rw [if_neg above]
      omega

/-- The four low bits hold any value that fits, and nothing else is set. -/
theorem outputPower_spec {power : BitVec 8} {offset : Int} (lower : 0 ≤ power.toInt + offset)
    (upper : power.toInt + offset ≤ 15) :
    outputPower power offset &&& 0x0F#8 = outputPower power offset ∧
      (outputPower power offset).toNat = power.toInt + offset := by
  have nibble : (BitVec.ofInt 16 (power.toInt + offset) &&& 0x000F#16).toNat =
      (power.toInt + offset).toNat := by
    have mask : (0x000F#16).toNat = 2 ^ 4 - 1 := by decide
    rw [BitVec.toNat_and, mask, Nat.and_two_pow_sub_one_eq_mod, BitVec.toNat_ofInt]
    omega
  constructor
  · rw [outputPower, BitVec.setWidth_and, BitVec.and_assoc]
    rfl
  · rw [outputPower, BitVec.toNat_setWidth, nibble]
    omega

/-- After the limits the value fits. -/
theorem outputPower_limit (low high : BitVec 8) (offset : Int)
    (ordered : low.toInt ≤ high.toInt) (lower : 0 ≤ low.toInt + offset)
    (upper : high.toInt + offset ≤ 15) (power : BitVec 8) :
    outputPower (limit low high power) offset &&& 0x0F#8 =
        outputPower (limit low high power) offset ∧
      (outputPower (limit low high power) offset).toNat =
        max low.toInt (min high.toInt power.toInt) + offset := by
  have limited := toInt_limit ordered power
  rw [← limited]
  exact outputPower_spec (by omega) (by omega)

theorem settings_configured {paConfig select output paDac : Byte} (channel : BitVec 32)
    (bit : select &&& rfPaconfigPaselectPaboost = select) (nibble : output &&& 0x0F#8 = output) :
    ({ channel := channel
       paConfig := configured paConfig select output
       paDac := paDac } : State).settings =
      { paSelect := select
        maxPower := 0x70#8
        outputPower := output.toNat
        padac20dbm := paDac &&& rfPadac20dbmOn } := by
  have untouched : ∀ field : Byte, 0x0F#8 &&& field = 0#8 → output &&& field = 0#8 := by
    intro field apart
    rw [← nibble, BitVec.and_assoc, apart, BitVec.and_zero]
  have paSelect : configured paConfig select output &&& rfPaconfigPaselectPaboost = select := by
    rw [configured, BitFields.and_field_of_kept _ (by decide) (untouched _ (by decide)),
      select_bit paConfig select bit]
  have maxPower : configured paConfig select output &&& 0x70#8 = 0x70#8 := by
    rw [configured, BitFields.and_field_of_kept _ (by decide) (untouched _ (by decide))]
    exact BitFields.and_field_of_cleared _ _ (by decide)
  have output : configured paConfig select output &&& 0x0F#8 = output := by
    rw [configured, BitFields.and_field_of_cleared _ _ (by decide), nibble]
  simp only [State.settings, paSelect, maxPower, output]

/-- A call makes the settings that belong to the channel and the power, except that RFO
leaves the 20 dBm bits as they are. -/
theorem settings_setRfTxPower (rfMidBandThresh : BitVec 32) (state : State)
    (power : BitVec 8) :
    (sx1276SetRfTxPower rfMidBandThresh state power).settings =
      { settingsFor rfMidBandThresh state.channel power with
        padac20dbm :=
          if rfMidBandThresh < state.channel then
            (settingsFor rfMidBandThresh state.channel power).padac20dbm
          else state.paDac &&& rfPadac20dbmOn } := by
  by_cases boost : rfMidBandThresh < state.channel
  · by_cases above : 17 < power.toInt
    · rcases outputPower_limit (5#8) (20#8) (-5) (by decide) (by decide) (by decide) power with
        ⟨nibble, value⟩
      rw [setRfTxPower_boost_20dbm rfMidBandThresh state power boost above,
        settings_configured state.channel (by decide) nibble, settingsFor, if_pos boost,
        if_pos boost, if_pos above, paDac_on, value]
      rfl
    · rcases outputPower_limit (2#8) (17#8) (-2) (by decide) (by decide) (by decide) power with
        ⟨nibble, value⟩
      rw [setRfTxPower_boost rfMidBandThresh state power boost above,
        settings_configured state.channel (by decide) nibble, settingsFor, if_pos boost,
        if_pos boost, if_neg above, paDac_off, value]
      rfl
  · rcases outputPower_limit (-1#8) (14#8) 1 (by decide) (by decide) (by decide) power with
      ⟨nibble, value⟩
    rw [setRfTxPower_rfo rfMidBandThresh state power boost,
      settings_configured state.channel (by decide) nibble, settingsFor, if_neg boost,
      if_neg boost, value]
    rfl

/-! ## Runs -/

/-- The call makes the settings that belong to the channel and the power. -/
def State.Settles (rfMidBandThresh : BitVec 32) (state : State) : Call → Prop
  | .setRfTxPower power =>
      ((amplifier rfMidBandThresh).next state (.setRfTxPower power)).settings =
        settingsFor rfMidBandThresh state.channel power
  | .setChannel _ => True

/-- A call that selects RFO finds the 20 dBm mode off. -/
def State.FindsOff (rfMidBandThresh : BitVec 32) (state : State) : Call → Prop
  | .setRfTxPower _ =>
      ¬rfMidBandThresh < state.channel → state.paDac &&& rfPadac20dbmOn = rfPadac20dbmOff
  | .setChannel _ => True

theorem settles_iff (rfMidBandThresh : BitVec 32) (state : State) (call : Call) :
    state.Settles rfMidBandThresh call ↔ state.FindsOff rfMidBandThresh call := by
  cases call with
  | setChannel channel => exact Iff.rfl
  | setRfTxPower power =>
      have made := settings_setRfTxPower rfMidBandThresh state power
      change (sx1276SetRfTxPower rfMidBandThresh state power).settings = _ ↔ _
      unfold State.FindsOff
      rw [made]
      by_cases boost : rfMidBandThresh < state.channel
      · simp [boost]
      · simp [settingsFor, boost]

/-- Over whole runs from any register contents: the power settings after each call are
those of the channel and the power exactly as long as RFO is selected with the 20 dBm
mode off, and only the bits of that mode can differ. Two runs that end alike then agree. -/
theorem power_settings_exact (rfMidBandThresh : BitVec 32) :
    (∀ (initial : State) (calls : List Call),
      (amplifier rfMidBandThresh).Along (State.Settles rfMidBandThresh) initial calls ↔
        (amplifier rfMidBandThresh).Along (State.FindsOff rfMidBandThresh) initial calls) ∧
    (∀ (first second : State) (firstCalls secondCalls : List Call) (power : BitVec 8),
      (amplifier rfMidBandThresh).Along (State.FindsOff rfMidBandThresh) first
        (firstCalls ++ [.setRfTxPower power]) →
      (amplifier rfMidBandThresh).Along (State.FindsOff rfMidBandThresh) second
        (secondCalls ++ [.setRfTxPower power]) →
      ((amplifier rfMidBandThresh).run first firstCalls).channel =
        ((amplifier rfMidBandThresh).run second secondCalls).channel →
      ((amplifier rfMidBandThresh).run first (firstCalls ++ [.setRfTxPower power])).settings =
        ((amplifier rfMidBandThresh).run second
          (secondCalls ++ [.setRfTxPower power])).settings) ∧
    ∀ (state : State) (power : BitVec 8),
      { (sx1276SetRfTxPower rfMidBandThresh state power).settings with
        padac20dbm := (settingsFor rfMidBandThresh state.channel power).padac20dbm } =
      settingsFor rfMidBandThresh state.channel power := by
  refine ⟨?_, ?_, ?_⟩
  · intro initial calls
    apply Machine.along_congr
    exact Machine.along_of_forall _ (settles_iff rfMidBandThresh) calls initial
  · intro first second firstCalls secondCalls power firstOff secondOff sameChannel
    have settled : ∀ (initial : State) (calls : List Call),
        (amplifier rfMidBandThresh).Along (State.FindsOff rfMidBandThresh) initial
          (calls ++ [.setRfTxPower power]) →
        ((amplifier rfMidBandThresh).run initial (calls ++ [.setRfTxPower power])).settings =
          settingsFor rfMidBandThresh
            ((amplifier rfMidBandThresh).run initial calls).channel power := by
      intro initial calls off
      have last := ((Machine.along_append _ _ initial calls _).mp off).2.1
      rw [Machine.run_append]
      exact (settles_iff rfMidBandThresh _ _).mpr last
    rw [settled first firstCalls firstOff, settled second secondCalls secondOff, sameChannel]
  · intro state power
    rw [settings_setRfTxPower]

/-- Full power above the threshold, then a low channel: the second call leaves the
amplifier of the first one in its 20 dBm mode. -/
theorem power_settings_stale :
    let reset : State := { channel := 868000000#32, paConfig := 0x4F#8, paDac := 0x84#8 }
    let calls := [Call.setRfTxPower 20#8, .setChannel 433000000#32, .setRfTxPower 14#8]
    ((amplifier 525000000#32).run reset calls).settings.padac20dbm = rfPadac20dbmOn ∧
      ((amplifier 525000000#32).run reset calls.tail).settings.padac20dbm = rfPadac20dbmOff ∧
      ¬(amplifier 525000000#32).Along (State.Settles 525000000#32) reset calls := by
  intro reset calls
  have stale : ((amplifier 525000000#32).run reset calls).settings.padac20dbm =
      rfPadac20dbmOn := by decide
  refine ⟨stale, by decide, ?_⟩
  intro settles
  have last : ((amplifier 525000000#32).run reset calls).settings =
      settingsFor 525000000#32 433000000#32 14#8 := settles.2.2.1
  rw [last] at stale
  exact absurd stale (by decide)

end Lorawan.Radio.Sx1276
