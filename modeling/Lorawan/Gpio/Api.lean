import Lorawan.Interrupts.Api
import Lorawan.Mac

/-! # Pins of `gpio-board.c`

A `Gpio_t` holds a pin and what `gpio_struct_init` of `board-utils.c` derives from it. What
the functions do to the board is the calls that they make to the HAL. -/

namespace Lorawan.Gpio

open Interrupts (Pins)

inductive PinModes
  | pinInput
  | pinOutput
  | pinAlternateFct
  | pinAnalogic
  deriving DecidableEq, Repr

inductive Port
  | gpioA
  | gpioB
  | gpioC
  | gpioD
  deriving DecidableEq, Repr

def pinNoPull : Nat := 0
def pinPullUp : Nat := 1
def pinPushPull : Nat := 0

/-- `Gpio_t` with all its fields; `port` is `NULL` before the first initialisation. -/
structure GpioObj extends Interrupts.Gpio where
  pinIndex : Nat
  portIndex : Nat
  port : Option Port
  deriving DecidableEq, Repr

/-- A `Gpio_t` with static storage. -/
def GpioObj.zero : GpioObj where
  pin := 0
  pull := 0
  pinIndex := 0
  portIndex := 0
  port := none

inductive HalCall
  | initIn (pin pull : Nat)
  | initOut (pin : Nat) (value : BitVec 32)
  | initAf (pin : Nat) (value : Byte) (type : Nat) (config : Byte)
  | write (pin : Nat) (value : BitVec 32)
  | toggle (pin : Nat)
  | read (pin : Nat)
  deriving DecidableEq, Repr

/-- `none` where the assertion on the port fails. -/
def gpioStructInit (pin type : Nat) : Option GpioObj :=
  let pinIndex := 0x01 <<< (pin &&& 0x0F)
  let portIndex := 0x01 <<< ((pin &&& 0xF0) >>> 4)
  let initialised (port : Port) : Option GpioObj :=
    some { pin, pull := type, pinIndex, portIndex, port := some port }
  if portIndex = 1 then initialised .gpioA
  else if portIndex = 2 then initialised .gpioB
  else if portIndex = 4 then initialised .gpioC
  else if portIndex = 8 then initialised .gpioD
  else none

/-- The `switch( mode )` of `GpioInit`. -/
def initCall (pin : Nat) (mode : PinModes) (config type : Nat) (value : BitVec 32) : HalCall :=
  match mode with
  | .pinInput | .pinAnalogic => .initIn pin type
  | .pinOutput => .initOut pin value
  | .pinAlternateFct => .initAf pin (value.setWidth 8) type (BitVec.ofNat 8 config)

/-- The object afterwards and the calls to the HAL. -/
def gpioInit (pins : Pins) (obj : GpioObj) (pin : Nat) (mode : PinModes) (config type : Nat)
    (value : BitVec 32) : Option (GpioObj × List HalCall) :=
  if pin = pins.nc then some ({ obj with pin := pins.nc }, [])
  else if pin < pins.ioe0 then
    (gpioStructInit pin type).map fun obj => (obj, [initCall obj.pin mode config type value])
  else some (obj, [])

def gpioWrite (pins : Pins) (obj : GpioObj) (value : BitVec 32) : List HalCall :=
  if obj.pin = pins.nc then []
  else if obj.pin < pins.ioe0 then [.write obj.pin value]
  else []

def gpioToggle (pins : Pins) (obj : GpioObj) : List HalCall :=
  if obj.pin = pins.nc then []
  else if obj.pin < pins.ioe0 then [.toggle obj.pin]
  else []

/-- The value read; `level` is what the HAL would read. -/
def gpioRead (pins : Pins) (obj : GpioObj) (level : BitVec 32) : BitVec 32 × List HalCall :=
  if obj.pin = pins.nc then (0, [])
  else if obj.pin < pins.ioe0 then (level, [.read obj.pin])
  else (0, [])

end Lorawan.Gpio
