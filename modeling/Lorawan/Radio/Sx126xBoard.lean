import Lorawan.Library.Execution
import Lorawan.Radio.Sx126xBus

/-! # The bus functions of `sx126x-board.c`

The functions follow the source step by step; a buffer is the bytes that begin at
the pointer the caller passes. -/

namespace Lorawan.Radio

/-- The bytes in memory from a pointer on. -/
abbrev Buffer := Nat → Byte

/-- The polls of BUSY, as often as it is read as 1. -/
def waitOnBusy : Nat → Bus → Bus
  | 0, bus => bus
  | busy + 1, bus => waitOnBusy busy { bus with busy }

/-- `while( GpioRead( &SX126x.BUSY ) == 1 );` -/
def sx126xWaitOnBusy (bus : Bus) : Bus :=
  waitOnBusy bus.busy bus

namespace Chip

variable (chip : Chip)

/-- `GpioWrite` of `gpio-board.c`. -/
def gpioWrite (bus : Bus) (pin : Nat) (value : Level) : Bus :=
  if pin = chip.nc then bus
  else if pin < chip.ioe0 then chip.halGpioWrite bus pin value
  else bus

def spiInOut (bus : Bus) (outData : BitVec 16) : Bus × Byte :=
  chip.halSpiTxVal bus outData

/-- A call of `SpiInOut` whose result is not used. -/
def spiOut (bus : Bus) (outData : BitVec 16) : Bus :=
  (chip.spiInOut bus outData).1

/-- The bytes `buffer[0] .. buffer[size - 1]`, sent in this order. -/
def sendBytes (buffer : Buffer) : Nat → Bus → Bus
  | 0, bus => bus
  | size + 1, bus => chip.spiOut (sendBytes buffer size bus) ((buffer size).setWidth 16)

/-- `buffer[i] = SpiInOut( &SX126x.Spi, 0 )` for each `i` below `size`. -/
def receiveBytes : Nat → Bus × Buffer → Bus × Buffer
  | 0, start => start
  | size + 1, start =>
      let (bus, buffer) := receiveBytes size start
      let (bus, inData) := chip.spiInOut bus 0#16
      (bus, Function.update buffer size inData)

def sx126xWakeup (radioGetStatus : Byte) (bus : Bus) : Bus :=
  let bus := chip.gpioWrite bus chip.nss .low
  let bus := chip.spiOut bus (radioGetStatus.setWidth 16)
  let bus := chip.spiOut bus 0#16
  let bus := chip.gpioWrite bus chip.nss .high
  sx126xWaitOnBusy bus

end Chip

/-- A chip with `SX126xCheckDeviceReady`, which is outside the repository. It may wake
the radio, with bytes sent in a frame of their own. -/
structure Board extends Chip where
  sx126xCheckDeviceReady : Bus → Bus
  ready_nss : ∀ bus, bus.nss = .high → (sx126xCheckDeviceReady bus).nss = .high
  ready_memories : ∀ bus, bus.nss = .high →
    (sx126xCheckDeviceReady bus).memories = bus.memories
  ready_exchanges : ∀ bus, bus.nss = .high → ∃ count,
    (sx126xCheckDeviceReady bus).exchanges = bus.exchanges ++ List.replicate count .low

namespace Board

variable (board : Board)

def sx126xWriteRegisters (bus : Bus) (address : BitVec 16) (buffer : Buffer)
    (size : BitVec 16) : Bus :=
  let bus := board.sx126xCheckDeviceReady bus
  let bus := board.gpioWrite bus board.nss .low
  let bus := board.spiOut bus (board.radioWriteRegister.setWidth 16)
  let bus := board.spiOut bus ((address &&& 0xFF00#16) >>> 8)
  let bus := board.spiOut bus (address &&& 0x00FF#16)
  let bus := board.sendBytes buffer size.toNat bus
  let bus := board.gpioWrite bus board.nss .high
  sx126xWaitOnBusy bus

def sx126xWriteRegister (bus : Bus) (address : BitVec 16) (value : Byte) : Bus :=
  board.sx126xWriteRegisters bus address (fun _ => value) 1#16

def sx126xReadRegisters (bus : Bus) (address : BitVec 16) (buffer : Buffer)
    (size : BitVec 16) : Bus × Buffer :=
  let bus := board.sx126xCheckDeviceReady bus
  let bus := board.gpioWrite bus board.nss .low
  let bus := board.spiOut bus (board.radioReadRegister.setWidth 16)
  let bus := board.spiOut bus ((address &&& 0xFF00#16) >>> 8)
  let bus := board.spiOut bus (address &&& 0x00FF#16)
  let bus := board.spiOut bus 0#16
  let (bus, buffer) := board.receiveBytes size.toNat (bus, buffer)
  let bus := board.gpioWrite bus board.nss .high
  (sx126xWaitOnBusy bus, buffer)

/-- `data` is uninitialised before the call. -/
def sx126xReadRegister (bus : Bus) (address : BitVec 16) (data : Byte) : Bus × Byte :=
  let (bus, buffer) := board.sx126xReadRegisters bus address (fun _ => data) 1#16
  (bus, buffer 0)

def sx126xWriteBuffer (bus : Bus) (offset : BitVec 8) (buffer : Buffer) (size : BitVec 8) :
    Bus :=
  let bus := board.sx126xCheckDeviceReady bus
  let bus := board.gpioWrite bus board.nss .low
  let bus := board.spiOut bus (board.radioWriteBuffer.setWidth 16)
  let bus := board.spiOut bus (offset.setWidth 16)
  let bus := board.sendBytes buffer size.toNat bus
  let bus := board.gpioWrite bus board.nss .high
  sx126xWaitOnBusy bus

def sx126xReadBuffer (bus : Bus) (offset : BitVec 8) (buffer : Buffer) (size : BitVec 8) :
    Bus × Buffer :=
  let bus := board.sx126xCheckDeviceReady bus
  let bus := board.gpioWrite bus board.nss .low
  let bus := board.spiOut bus (board.radioReadBuffer.setWidth 16)
  let bus := board.spiOut bus (offset.setWidth 16)
  let bus := board.spiOut bus 0#16
  let (bus, buffer) := board.receiveBytes size.toNat (bus, buffer)
  let bus := board.gpioWrite bus board.nss .high
  (sx126xWaitOnBusy bus, buffer)

end Board

/-- A call of the driver. A buffer to read into comes with what it holds before. -/
inductive Command
  | writeRegisters (address : BitVec 16) (buffer : Buffer) (size : BitVec 16)
  | writeRegister (address : BitVec 16) (value : Byte)
  | readRegisters (address : BitVec 16) (buffer : Buffer) (size : BitVec 16)
  | readRegister (address : BitVec 16) (data : Byte)
  | writeBuffer (offset : BitVec 8) (buffer : Buffer) (size : BitVec 8)
  | readBuffer (offset : BitVec 8) (buffer : Buffer) (size : BitVec 8)

inductive Answer
  | written
  /-- The caller's buffer after a read. -/
  | bytes (buffer : Buffer)
  | byte (data : Byte)

def driver (board : Board) : Machine Bus Command Answer where
  step bus
    | .writeRegisters address buffer size =>
        (board.sx126xWriteRegisters bus address buffer size, .written)
    | .writeRegister address value => (board.sx126xWriteRegister bus address value, .written)
    | .readRegisters address buffer size =>
        (board.sx126xReadRegisters bus address buffer size).map id .bytes
    | .readRegister address data => (board.sx126xReadRegister bus address data).map id .byte
    | .writeBuffer offset buffer size =>
        (board.sx126xWriteBuffer bus offset buffer size, .written)
    | .readBuffer offset buffer size =>
        (board.sx126xReadBuffer bus offset buffer size).map id .bytes

end Lorawan.Radio
