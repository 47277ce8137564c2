import Lorawan.Gpio.Objects
import Lorawan.Library.Components

/-! # The antenna switch of the SX1272 and the SX1276

The drivers tell the board when the radio sleeps and when it changes its mode. Both boards
use one `Gpio_t`, which has static storage and is initialised only where `RadioIsActive`
changes. -/

namespace Lorawan.Radio.AntennaSwitch

open Gpio
open Interrupts (Pins)

def rflrOpmodeTransmitter : Byte := 0x03#8

/-- The static variables of the file. -/
structure State where
  radioIsActive : Bool
  antSwitch : GpioObj
  stopped : Bool

def State.initial : State where
  radioIsActive := false
  antSwitch := .zero
  stopped := false

/-- What differs between the two boards, and the pin that the board package names. -/
structure Board where
  pins : Pins
  radioAntSwitch : Nat
  deInitMode : PinModes

inductive Call
  | antSwInit
  | antSwDeInit
  | setAntSwLowPower (status : Bool)
  | setAntSw (opMode : Byte)
  deriving DecidableEq, Repr

inductive Reply
  | done (halCalls : List HalCall)
  | assertFailed
  | stopped
  deriving DecidableEq, Repr

variable (board : Board) (state : State)

/-- A `GpioInit` of the switch. -/
def initSwitch (mode : PinModes) (type : Nat) : State × Reply :=
  match gpioInit board.pins state.antSwitch board.radioAntSwitch mode pinPushPull type 0#32 with
  | some (antSwitch, halCalls) => ({ state with antSwitch }, .done halCalls)
  | none => ({ state with stopped := true }, .assertFailed)

/-- `SX1272AntSwInit` and `SX1276AntSwInit`. -/
def antSwInit : State × Reply := initSwitch board state .pinOutput pinPullUp

/-- `SX1272AntSwDeInit` and `SX1276AntSwDeInit`. -/
def antSwDeInit : State × Reply := initSwitch board state board.deInitMode pinNoPull

/-- `SX1272SetAntSwLowPower` and `SX1276SetAntSwLowPower`; there is no TCXO to switch. -/
def setAntSwLowPower (status : Bool) : State × Reply :=
  if state.radioIsActive ≠ status then
    let state := { state with radioIsActive := status }
    if status = false then antSwInit board state else antSwDeInit board state
  else (state, .done [])

/-- `SX1272SetAntSw` and `SX1276SetAntSw`: every mode but the transmitter is treated alike. -/
def setAntSw (opMode : Byte) : State × Reply :=
  if opMode = rflrOpmodeTransmitter then
    (state, .done (gpioWrite board.pins state.antSwitch 1#32))
  else (state, .done (gpioWrite board.pins state.antSwitch 0#32))

/-- The SX1272 leaves the pin of a sleeping radio undriven, -/
def sx1272 (pins : Pins) (radioAntSwitch : Nat) : Board :=
  { pins, radioAntSwitch, deInitMode := .pinAnalogic }

/-- the SX1276 drives it low. -/
def sx1276 (pins : Pins) (radioAntSwitch : Nat) : Board :=
  { pins, radioAntSwitch, deInitMode := .pinOutput }

def antennaSwitch : Machine State Call Reply where
  step state call :=
    if state.stopped then (state, .stopped)
    else
      match call with
      | .antSwInit => antSwInit board state
      | .antSwDeInit => antSwDeInit board state
      | .setAntSwLowPower status => setAntSwLowPower board state status
      | .setAntSw opMode => setAntSw board state opMode

/-! ## What the calls before decide -/

def lowPower : Call → Option Bool
  | .setAntSwLowPower status => some status
  | _ => none

/-- A call after which the switch has been initialised, whatever came before. -/
def initialises : Call → Bool
  | .antSwInit => true
  | .antSwDeInit => true
  | .setAntSwLowPower status => status
  | .setAntSw _ => false

/-- The pin that the object of the switch stands for after these calls. -/
def pinAfter (calls : List Call) : Nat :=
  if calls.any initialises = true ∧ Manages board.pins board.radioAntSwitch then
    board.radioAntSwitch
  else 0

/-- The pin is internal, and `gpio_struct_init` has no port for it. -/
def Portless : Prop :=
  board.pins.Internal board.radioAntSwitch ∧ 4 ≤ board.radioAntSwitch / 16 % 16

instance : Decidable (Portless board) := inferInstanceAs (Decidable (_ ∧ _))

/-- What an initialisation of the switch does. -/
def initReply (mode : PinModes) (type : Nat) : Reply :=
  if Portless board then .assertFailed
  else if board.pins.Internal board.radioAntSwitch then
    .done [initCall board.radioAntSwitch mode pinPushPull type 0#32]
  else .done []

/-- What a call does after these calls. -/
def replyAfter (calls : List Call) : Call → Reply
  | .antSwInit => initReply board .pinOutput pinPullUp
  | .antSwDeInit => initReply board board.deInitMode pinNoPull
  | .setAntSwLowPower status =>
      if status = (latest lowPower calls).getD false then .done []
      else if status = true then initReply board board.deInitMode pinNoPull
      else initReply board .pinOutput pinPullUp
  | .setAntSw opMode =>
      .done
        (if board.pins.Internal (pinAfter board calls) then
          [.write (pinAfter board calls) (if opMode = rflrOpmodeTransmitter then 1#32 else 0#32)]
        else [])

/-! ## One call -/

theorem setAntSw_eq (opMode : Byte) :
    setAntSw board state opMode =
      (state, .done (gpioWrite board.pins state.antSwitch
        (if opMode = rflrOpmodeTransmitter then 1#32 else 0#32))) := by
  unfold setAntSw
  split <;> rfl

/-- What the calls before say of the state. -/
structure Known (calls : List Call) (state : State) : Prop where
  stopped : state.stopped = true ↔ calls.any initialises = true ∧ Portless board
  radioIsActive : state.stopped = false →
    state.radioIsActive = (latest lowPower calls).getD false
  pin : state.stopped = false → state.antSwitch.pin = pinAfter board calls
  initialised : state.stopped = false → state.radioIsActive = true →
    calls.any initialises = true

theorem initSwitch_spec (mode : PinModes) (type : Nat) :
    (initSwitch board state mode type).2 = initReply board mode type ∧
      (Portless board → (initSwitch board state mode type).1 = { state with stopped := true }) ∧
      (¬Portless board → ∃ antSwitch,
        (initSwitch board state mode type).1 = { state with antSwitch } ∧
          antSwitch.pin = if Manages board.pins board.radioAntSwitch then board.radioAntSwitch
            else state.antSwitch.pin) := by
  unfold initSwitch initReply Portless
  rcases gpioInit_cases board.pins state.antSwitch board.radioAntSwitch mode pinPushPull type
    0#32 with ⟨unconnected, result⟩ | ⟨unmanaged, result⟩ | ⟨internal, noPort, result⟩ |
    ⟨internal, hasPort, initialised, result, samePin, _⟩
  · have external : ¬board.pins.Internal board.radioAntSwitch := fun internal =>
      internal.1 unconnected
    have managed : Manages board.pins board.radioAntSwitch := .inl unconnected
    rw [result]
    refine ⟨by simp [external], by simp [external], fun _ => ⟨_, rfl, ?_⟩⟩
    rw [if_pos managed]
    exact unconnected.symm
  · have external : ¬board.pins.Internal board.radioAntSwitch := fun internal =>
      unmanaged (.inr internal.2)
    rw [result]
    simp [external, unmanaged]
  · rw [portAt_eq_none_iff] at noPort
    rw [result]
    simp [internal, noPort]
  · have port : ¬4 ≤ board.radioAntSwitch / 16 % 16 := by
      rw [← portAt_eq_none_iff]
      intro none
      simp [none] at hasPort
    rw [result]
    simp [internal, port, samePin, Manages, internal.2]

namespace Known

variable {board : Board} {state : State} {calls : List Call}

theorem initial : Known board [] .initial where
  stopped := by simp [State.initial]
  radioIsActive _ := rfl
  pin _ := by simp [State.initial, GpioObj.zero, pinAfter]
  initialised _ active := by cases active

/-- A step that leaves the switch as it is. -/
theorem keep (known : Known board calls state) (call : Call)
    (sameStatus : (latest lowPower (calls ++ [call])).getD false =
      (latest lowPower calls).getD false)
    (quiet : initialises call = true → calls.any initialises = true) :
    Known board (calls ++ [call]) state := by
  have any : (calls ++ [call]).any initialises = calls.any initialises := by
    cases old : calls.any initialises <;> simp_all
  constructor
  case stopped => rw [any]; exact known.stopped
  case radioIsActive =>
    intro running
    rw [sameStatus]
    exact known.radioIsActive running
  case pin =>
    intro running
    rw [pinAfter, any]
    exact known.pin running
  case initialised =>
    intro running active
    rw [any]
    exact known.initialised running active

/-- A step that initialises the switch. -/
theorem init (known : Known board calls state) (call : Call) (radioIsActive : Bool)
    (mode : PinModes) (type : Nat) (running : state.stopped = false)
    (status : (latest lowPower (calls ++ [call])).getD false = radioIsActive)
    (any : (calls ++ [call]).any initialises = true) :
    Known board (calls ++ [call])
      (initSwitch board { state with radioIsActive } mode type).1 := by
  have spec := initSwitch_spec board { state with radioIsActive } mode type
  by_cases portless : Portless board
  · rw [spec.2.1 portless]
    constructor
    case stopped => simp [any, portless]
    case radioIsActive => intro now; cases now
    case pin => intro now; cases now
    case initialised => intro now; cases now
  · rcases spec.2.2 portless with ⟨antSwitch, next, pin⟩
    rw [next]
    constructor
    case stopped => simp [running, portless]
    case radioIsActive =>
      intro _
      exact status.symm
    case pin =>
      intro _
      by_cases managed : Manages board.pins board.radioAntSwitch
      · rw [pinAfter, if_pos ⟨any, managed⟩]
        exact pin.trans (if_pos managed)
      · have before : state.antSwitch.pin = 0 := by
          rw [known.pin running, pinAfter, if_neg (fun both => managed both.2)]
        rw [pinAfter, if_neg (fun both => managed both.2)]
        exact (pin.trans (if_neg managed)).trans before
    case initialised =>
      intro _ _
      exact any

theorem next (known : Known board calls state) (call : Call) :
    Known board (calls ++ [call]) ((antennaSwitch board).next state call) := by
  cases running : state.stopped with
  | true =>
      have step : (antennaSwitch board).step state call = (state, .stopped) := by
        simp [antennaSwitch, running]
      have both := known.stopped.mp running
      rw [Machine.next, step]
      constructor
      case stopped => simp [running, both.1, both.2]
      case radioIsActive => intro now; simp [running] at now
      case pin => intro now; simp [running] at now
      case initialised => intro now; simp [running] at now
  | false =>
      have status := known.radioIsActive running
      cases call with
      | antSwInit =>
          have step : (antennaSwitch board).step state .antSwInit =
              initSwitch board state .pinOutput pinPullUp := by
            simp [antennaSwitch, running, antSwInit]
          rw [Machine.next, step]
          exact known.init .antSwInit state.radioIsActive _ _ running
            (by simpa [lowPower] using status.symm) (by simp [initialises])
      | antSwDeInit =>
          have step : (antennaSwitch board).step state .antSwDeInit =
              initSwitch board state board.deInitMode pinNoPull := by
            simp [antennaSwitch, running, antSwDeInit]
          rw [Machine.next, step]
          exact known.init .antSwDeInit state.radioIsActive _ _ running
            (by simpa [lowPower] using status.symm) (by simp [initialises])
      | setAntSwLowPower low =>
          have step : (antennaSwitch board).step state (.setAntSwLowPower low) =
              setAntSwLowPower board state low := by
            simp [antennaSwitch, running]
          rw [Machine.next, step, setAntSwLowPower]
          by_cases same : state.radioIsActive = low
          · rw [if_neg (not_not_intro same)]
            apply known.keep
            · rw [← status, same]
              simp [lowPower]
            · intro isLow
              exact known.initialised running (same.trans isLow)
          · rw [if_pos same]
            cases low with
            | true =>
                exact known.init (.setAntSwLowPower true) true _ _ running (by simp [lowPower])
                  (by simp [initialises])
            | false =>
                have active : state.radioIsActive = true := by simpa using same
                have before := known.initialised running active
                exact known.init (.setAntSwLowPower false) false _ _ running (by simp [lowPower])
                  (by simp [before])
      | setAntSw opMode =>
          have step : ((antennaSwitch board).step state (.setAntSw opMode)).1 = state := by
            simp [antennaSwitch, running, setAntSw_eq]
          rw [Machine.next, step]
          exact known.keep (.setAntSw opMode) (by simp [lowPower]) (by simp [initialises])

end Known

/-- After a reset the driver wakes the radio and transmits: pin 0 is written, not the switch. -/
example :
    ((antennaSwitch (sx1276 ⟨0xFF, 0x50⟩ 0x21)).trace .initial
      [.setAntSwLowPower false, .setAntSw rflrOpmodeTransmitter]).map Prod.snd =
      [.done [], .done [.write 0 1]] := by
  decide

end Lorawan.Radio.AntennaSwitch
