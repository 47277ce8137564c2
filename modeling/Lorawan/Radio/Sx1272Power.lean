import Lorawan.Library.Registers
import Lorawan.Radio.Sx1276Power

/-! # The power amplifier of the SX1272

`SX1272SetRfTxPower` of `sx1272-board.c` has the branches of its sibling for the SX1276, but
the board always selects RFO, and the bits of the maximal power do not exist. -/

namespace Lorawan.Radio.Sx1272

open Sx1276

def rflrPaconfigOutputpowerMask : Byte := 0xF0#8

def sx1272GetPaSelect (_channel : BitVec 32) : Byte := rfPaconfigPaselectRfo

def sx1272SetRfTxPower (state : Sx1276.State) (power : BitVec 8) : Sx1276.State :=
  let paConfig := state.paConfig
  let paDac := state.paDac
  let paConfig := (paConfig &&& rfPaconfigPaselectMask) ||| sx1272GetPaSelect state.channel
  let (paConfig, paDac) :=
    if paConfig &&& rfPaconfigPaselectPaboost = rfPaconfigPaselectPaboost then
      let paDac :=
        if 17 < power.toInt then (paDac &&& rfPadac20dbmMask) ||| rfPadac20dbmOn
        else (paDac &&& rfPadac20dbmMask) ||| rfPadac20dbmOff
      if paDac &&& rfPadac20dbmOn = rfPadac20dbmOn then
        let power := limit 5#8 20#8 power
        ((paConfig &&& rflrPaconfigOutputpowerMask) ||| outputPower power (-5), paDac)
      else
        let power := limit 2#8 17#8 power
        ((paConfig &&& rflrPaconfigOutputpowerMask) ||| outputPower power (-2), paDac)
    else
      let power := limit (-1#8) 14#8 power
      ((paConfig &&& rflrPaconfigOutputpowerMask) ||| outputPower power 1, paDac)
  { state with paConfig := paConfig, paDac := paDac }

def amplifier : Machine Sx1276.State Sx1276.Call Unit where
  step state
    | .setChannel channel => ({ state with channel := channel }, ())
    | .setRfTxPower power => (sx1272SetRfTxPower state power, ())

/-! ## One call -/

/-- The new content of the first register; the second is written back as it was read. -/
def configured (paConfig output : Byte) : Byte :=
  (((paConfig &&& rfPaconfigPaselectMask) ||| rfPaconfigPaselectRfo) &&&
    rflrPaconfigOutputpowerMask) ||| output

theorem sx1272SetRfTxPower_eq (state : Sx1276.State) (power : BitVec 8) :
    sx1272SetRfTxPower state power =
      { state with
        paConfig := configured state.paConfig (outputPower (limit (-1#8) 14#8 power) 1) } := by
  have rfo : ((state.paConfig &&& rfPaconfigPaselectMask) ||| sx1272GetPaSelect state.channel) &&&
      rfPaconfigPaselectPaboost ≠ rfPaconfigPaselectPaboost := by
    rw [BitFields.and_field_of_cleared _ _ (by decide)]
    change rfPaconfigPaselectRfo &&& rfPaconfigPaselectPaboost ≠ rfPaconfigPaselectPaboost
    decide
  simp only [sx1272SetRfTxPower, if_neg rfo]
  rfl

theorem settings_configured (state : Sx1276.State) {output : Byte}
    (nibble : output &&& 0x0F#8 = output) :
    ({ state with paConfig := configured state.paConfig output } : Sx1276.State).settings =
      { state.settings with
        paSelect := rfPaconfigPaselectRfo
        outputPower := output.toNat } := by
  have untouched : ∀ field : Byte, 0x0F#8 &&& field = 0#8 → output &&& field = 0#8 := by
    intro field apart
    rw [← nibble, BitVec.and_assoc, apart, BitVec.and_zero]
  have paSelect : configured state.paConfig output &&& rfPaconfigPaselectPaboost =
      rfPaconfigPaselectRfo := by
    rw [configured, BitFields.and_field_of_kept _ (by decide) (untouched _ (by decide))]
    exact BitFields.and_field_of_cleared _ _ (by decide)
  have maxPower : configured state.paConfig output &&& 0x70#8 = state.paConfig &&& 0x70#8 := by
    rw [configured, BitFields.and_field_of_kept _ (by decide) (untouched _ (by decide))]
    exact BitFields.and_field_of_kept _ (by decide) (by decide)
  have output : configured state.paConfig output &&& 0x0F#8 = output := by
    rw [configured, BitFields.and_field_of_cleared _ _ (by decide), nibble]
  simp only [State.settings, paSelect, maxPower, output]

theorem settings_setRfTxPower (state : Sx1276.State) (power : BitVec 8) :
    (sx1272SetRfTxPower state power).settings =
      { state.settings with
        paSelect := rfPaconfigPaselectRfo
        outputPower := max (-1) (min 14 power.toInt) + 1 } := by
  rcases outputPower_limit (-1#8) (14#8) 1 (by decide) (by decide) (by decide) power with
    ⟨nibble, value⟩
  rw [sx1272SetRfTxPower_eq, settings_configured state nibble, value]
  rfl

/-! ## Runs -/

def powerSet : Sx1276.Call × Unit → Option (BitVec 8)
  | (.setRfTxPower power, _) => some power
  | _ => none

/-- What no call changes. -/
def untouched : amplifier.Register (Byte × Byte) where
  value state := (state.paDac, state.settings.maxPower)
  written _ := none
  invariant _ := True
  preserved _ _ _ := trivial
  value_next state call _ := by
    cases call with
    | setChannel channel => rfl
    | setRfTxPower power =>
        change ((sx1272SetRfTxPower state power).paDac,
          (sx1272SetRfTxPower state power).settings.maxPower) = _
        rw [settings_setRfTxPower, sx1272SetRfTxPower_eq]
        rfl

/-- The choice of the amplifier and its power. -/
def chosen : amplifier.Register (Byte × Int) where
  value state := (state.settings.paSelect, state.settings.outputPower)
  written answered := (powerSet answered).map fun power =>
    (rfPaconfigPaselectRfo, max (-1) (min 14 power.toInt) + 1)
  invariant _ := True
  preserved _ _ _ := trivial
  value_next state call _ := by
    cases call with
    | setChannel channel => rfl
    | setRfTxPower power =>
        change ((sx1272SetRfTxPower state power).settings.paSelect,
          (sx1272SetRfTxPower state power).settings.outputPower) = _
        rw [settings_setRfTxPower]
        rfl

/-- Over whole runs from any register contents: the amplifier's second register and the bits
that the SX1272 does not have stay as they were, PA_BOOST is never selected by a call, and
only the last power counts, limited to what RFO can do, on whatever channel. -/
theorem sx1272_power_settings (initial : Sx1276.State) (calls : List Sx1276.Call) :
    let final := amplifier.run initial calls
    final.paDac = initial.paDac ∧
      final.settings =
        match latest powerSet (amplifier.trace initial calls) with
        | none => initial.settings
        | some power =>
            { paSelect := rfPaconfigPaselectRfo
              maxPower := initial.settings.maxPower
              outputPower := max (-1) (min 14 power.toInt) + 1
              padac20dbm := initial.settings.padac20dbm } := by
  intro final
  have kept : (final.paDac, final.settings.maxPower) =
      (initial.paDac, initial.settings.maxPower) := by
    have value := untouched.value_run calls initial trivial
    rwa [untouched, latest_none] at value
  have choice : (final.settings.paSelect, final.settings.outputPower) =
      ((latest powerSet (amplifier.trace initial calls)).map fun power =>
        (rfPaconfigPaselectRfo, max (-1) (min 14 power.toInt) + 1)).getD
        (initial.settings.paSelect, initial.settings.outputPower) := by
    have value := chosen.value_run calls initial trivial
    rwa [chosen, latest_map] at value
  rcases Prod.mk.inj kept with ⟨paDac, maxPower⟩
  have fields : final.settings =
      { paSelect := final.settings.paSelect
        maxPower := final.settings.maxPower
        outputPower := final.settings.outputPower
        padac20dbm := final.paDac &&& rfPadac20dbmOn } := rfl
  refine ⟨paDac, ?_⟩
  cases set : latest powerSet (amplifier.trace initial calls) with
  | none =>
      rw [set] at choice
      rcases Prod.mk.inj choice with ⟨paSelect, outputPower⟩
      rw [fields, paSelect, maxPower, outputPower, paDac]
      rfl
  | some power =>
      rw [set] at choice
      rcases Prod.mk.inj choice with ⟨paSelect, outputPower⟩
      rw [fields, paSelect, maxPower, outputPower, paDac]
      rfl

end Lorawan.Radio.Sx1272
