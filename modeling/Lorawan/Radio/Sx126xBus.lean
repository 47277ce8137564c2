import Mathlib.Logic.Function.Basic
import Lorawan.Mac

/-! # The SX126x on its SPI bus

The radio decodes each frame, from NSS low to NSS high: an opcode, an address or an
offset, a dummy byte when it is read from, and data at consecutive addresses. -/

namespace Lorawan.Radio

inductive Level
  | low
  | high
  deriving DecidableEq, Repr

inductive Access
  | write
  | read
  deriving DecidableEq, Repr

/-- Where the radio is in a frame. -/
inductive Decoder
  | opcode
  | addressHigh (access : Access)
  | addressLow (access : Access) (high : Byte)
  | registerDummy (address : BitVec 16)
  | registers (access : Access) (address : BitVec 16)
  | offset (access : Access)
  | bufferDummy (offset : BitVec 8)
  | buffer (access : Access) (offset : BitVec 8)
  /-- Another command, which leaves the memories alone. -/
  | ignored
  deriving DecidableEq, Repr

structure Memories where
  registers : BitVec 16 → Byte
  buffer : BitVec 8 → Byte

/-- The bus as the driver finds it. -/
structure Bus where
  nss : Level
  memories : Memories
  decoder : Decoder
  /-- How often BUSY will still be read as 1. -/
  busy : Nat
  /-- The frames ended so far. -/
  frames : Nat
  /-- The level of NSS at each byte exchanged so far. -/
  exchanges : List Level

/-- What the board fixes: the pins, the opcodes, and what the radio does where its
memories do not say. -/
structure Chip where
  nc : Nat
  ioe0 : Nat
  nss : Nat
  /-- NSS is an internal pin. -/
  nss_internal : nss ≠ nc ∧ nss < ioe0
  radioWriteRegister : Byte
  radioReadRegister : Byte
  radioWriteBuffer : Byte
  radioReadBuffer : Byte
  opcodes_nodup :
    [radioWriteRegister, radioReadRegister, radioWriteBuffer, radioReadBuffer].Nodup
  /-- The byte that the radio sends while it has no data to send. -/
  filler : Decoder → Byte → Byte
  /-- How often BUSY is read as 1 after a frame, by the number of the frame. -/
  busyAfter : Nat → Nat

namespace Chip

variable (chip : Chip)

def decodeOpcode (opcode : Byte) : Decoder :=
  if opcode = chip.radioWriteRegister then .addressHigh .write
  else if opcode = chip.radioReadRegister then .addressHigh .read
  else if opcode = chip.radioWriteBuffer then .offset .write
  else if opcode = chip.radioReadBuffer then .offset .read
  else .ignored

/-- One byte each way within a frame. -/
def exchange (memories : Memories) (decoder : Decoder) (mosi : Byte) :
    Memories × Decoder × Byte :=
  match decoder with
  | .opcode => (memories, chip.decodeOpcode mosi, chip.filler decoder mosi)
  | .addressHigh access => (memories, .addressLow access mosi, chip.filler decoder mosi)
  | .addressLow .write high =>
      (memories, .registers .write (high ++ mosi), chip.filler decoder mosi)
  | .addressLow .read high => (memories, .registerDummy (high ++ mosi), chip.filler decoder mosi)
  | .registerDummy address => (memories, .registers .read address, chip.filler decoder mosi)
  | .registers .write address =>
      ({ memories with registers := Function.update memories.registers address mosi },
        .registers .write (address + 1), chip.filler decoder mosi)
  | .registers .read address =>
      (memories, .registers .read (address + 1), memories.registers address)
  | .offset .write => (memories, .buffer .write mosi, chip.filler decoder mosi)
  | .offset .read => (memories, .bufferDummy mosi, chip.filler decoder mosi)
  | .bufferDummy offset => (memories, .buffer .read offset, chip.filler decoder mosi)
  | .buffer .write offset =>
      ({ memories with buffer := Function.update memories.buffer offset mosi },
        .buffer .write (offset + 1), chip.filler decoder mosi)
  | .buffer .read offset =>
      (memories, .buffer .read (offset + 1), memories.buffer offset)
  | .ignored => (memories, .ignored, chip.filler decoder mosi)

/-- `hal_gpio_write`; no other pin than NSS leads to the radio. A falling edge begins
a frame, and after a rising edge the radio is busy. -/
def halGpioWrite (bus : Bus) (pin : Nat) (value : Level) : Bus :=
  if pin = chip.nss then
    match bus.nss, value with
    | .high, .low => { bus with nss := .low, decoder := .opcode }
    | .low, .high =>
        { bus with nss := .high, busy := chip.busyAfter bus.frames, frames := bus.frames + 1 }
    | _, _ => bus
  else bus

/-- `hal_spi_tx_val` with 8-bit words. Without NSS the radio does not listen. -/
def halSpiTxVal (bus : Bus) (val : BitVec 16) : Bus × Byte :=
  let mosi : Byte := val.setWidth 8
  match bus.nss with
  | .low =>
      let (memories, decoder, miso) := chip.exchange bus.memories bus.decoder mosi
      ({ bus with memories, decoder, exchanges := bus.exchanges ++ [.low] }, miso)
  | .high => ({ bus with exchanges := bus.exchanges ++ [.high] }, chip.filler bus.decoder mosi)

end Chip

end Lorawan.Radio
