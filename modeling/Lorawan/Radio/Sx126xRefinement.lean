import Lorawan.Radio.Sx126xFrames

/-! # The SX126x driver refines plain memory

Whatever the sequence of calls, the radio's memories are read and written as arrays
with wrap-around are, and the bus is left as it was found. -/

namespace Lorawan.Radio

/-- The commands on the two memories, without a bus. -/
def plainMemory : Machine Memories Command Answer where
  step memories
    | .writeRegisters address buffer size =>
        ({ memories with
          registers := writeArray memories.registers address buffer size.toNat }, .written)
    | .writeRegister address value =>
        ({ memories with registers := Function.update memories.registers address value }, .written)
    | .readRegisters address buffer size =>
        (memories, .bytes (readArray memories.registers address buffer size.toNat))
    | .readRegister address _ => (memories, .byte (memories.registers address))
    | .writeBuffer offset buffer size =>
        ({ memories with
          buffer := writeArray memories.buffer offset buffer size.toNat }, .written)
    | .readBuffer offset buffer size =>
        (memories, .bytes (readArray memories.buffer offset buffer size.toNat))

/-! ## One call -/

/-- A call took the bus from `before` to `after` and the memories to `memories`. -/
structure Completed (before after : Bus) (memories : Memories) : Prop where
  nss : after.nss = .high
  memories_eq : after.memories = memories
  exchanges : ∃ count, after.exchanges = before.exchanges ++ List.replicate count .low

namespace Board

variable (board : Board) (bus : Bus)

theorem completed_ended (idle : bus.nss = .high) (memories : Memories) (decoder : Decoder)
    (count : Nat) :
    Completed bus ((board.sx126xCheckDeviceReady bus).ended memories decoder count) memories := by
  rcases board.ready_exchanges bus idle with ⟨waking, exchanges⟩
  have all : ((board.sx126xCheckDeviceReady bus).ended memories decoder count).exchanges =
      bus.exchanges ++ List.replicate (waking + count) .low := by
    rw [List.replicate_add, ← List.append_assoc, ← exchanges]
    rfl
  exact ⟨rfl, rfl, waking + count, all⟩

theorem writeRegisters_completed (idle : bus.nss = .high) (address : BitVec 16)
    (buffer : Buffer) (size : BitVec 16) :
    Completed bus (board.sx126xWriteRegisters bus address buffer size)
      { bus.memories with
        registers := writeArray bus.memories.registers address buffer size.toNat } := by
  have ready := board.ready_nss bus idle
  have memories := board.ready_memories bus idle
  have opened := board.registerFrame_eq _ ready _ .write board.decode_writeRegister address
  simp only [sx126xWriteRegisters, opened, Chip.sendBytes_registers, Chip.endFrame_eq, memories]
  exact board.completed_ended bus idle _ _ _

theorem readRegisters_completed (idle : bus.nss = .high) (address : BitVec 16)
    (buffer : Buffer) (size : BitVec 16) :
    Completed bus (board.sx126xReadRegisters bus address buffer size).1 bus.memories ∧
      (board.sx126xReadRegisters bus address buffer size).2 =
        readArray bus.memories.registers address buffer size.toNat := by
  have ready := board.ready_nss bus idle
  have memories := board.ready_memories bus idle
  have opened := board.registerFrame_eq _ ready _ .read board.decode_readRegister address
  simp only [sx126xReadRegisters, opened, Chip.spiOut_framed, Chip.exchange,
    Chip.receiveBytes_registers, Chip.endFrame_eq, memories]
  exact ⟨board.completed_ended bus idle _ _ _, trivial⟩

theorem writeBuffer_completed (idle : bus.nss = .high) (offset : BitVec 8)
    (buffer : Buffer) (size : BitVec 8) :
    Completed bus (board.sx126xWriteBuffer bus offset buffer size)
      { bus.memories with
        buffer := writeArray bus.memories.buffer offset buffer size.toNat } := by
  have ready := board.ready_nss bus idle
  have memories := board.ready_memories bus idle
  have opened := board.bufferFrame_eq _ ready _ .write board.decode_writeBuffer offset
  simp only [sx126xWriteBuffer, opened, Chip.sendBytes_buffer, Chip.endFrame_eq, memories]
  exact board.completed_ended bus idle _ _ _

theorem readBuffer_completed (idle : bus.nss = .high) (offset : BitVec 8)
    (buffer : Buffer) (size : BitVec 8) :
    Completed bus (board.sx126xReadBuffer bus offset buffer size).1 bus.memories ∧
      (board.sx126xReadBuffer bus offset buffer size).2 =
        readArray bus.memories.buffer offset buffer size.toNat := by
  have ready := board.ready_nss bus idle
  have memories := board.ready_memories bus idle
  have opened := board.bufferFrame_eq _ ready _ .read board.decode_readBuffer offset
  simp only [sx126xReadBuffer, opened, Chip.spiOut_framed, Chip.exchange,
    Chip.receiveBytes_buffer, Chip.endFrame_eq, memories]
  exact ⟨board.completed_ended bus idle _ _ _, trivial⟩

/-! The single-register variants are arrays of size 1. -/

theorem writeRegister_completed (idle : bus.nss = .high) (address : BitVec 16) (value : Byte) :
    Completed bus (board.sx126xWriteRegister bus address value)
      { bus.memories with
        registers := Function.update bus.memories.registers address value } := by
  have written := board.writeRegisters_completed bus idle address (fun _ => value) 1#16
  simpa [sx126xWriteRegister, writeArray] using written

theorem readRegister_completed (idle : bus.nss = .high) (address : BitVec 16) (data : Byte) :
    Completed bus (board.sx126xReadRegister bus address data).1 bus.memories ∧
      (board.sx126xReadRegister bus address data).2 = bus.memories.registers address := by
  rcases board.readRegisters_completed bus idle address (fun _ => data) 1#16 with ⟨after, bytes⟩
  have byte := congrFun bytes 0
  exact ⟨after, by simpa [sx126xReadRegister, readArray] using byte⟩

/-! ## Sequences of calls -/

theorem driver_step (idle : bus.nss = .high) (command : Command) :
    Completed bus ((driver board).next bus command) (plainMemory.next bus.memories command) ∧
      (driver board).reply bus command = plainMemory.reply bus.memories command := by
  cases command with
  | writeRegisters address buffer size =>
      exact ⟨board.writeRegisters_completed bus idle address buffer size, rfl⟩
  | writeRegister address value =>
      exact ⟨board.writeRegister_completed bus idle address value, rfl⟩
  | readRegisters address buffer size =>
      rcases board.readRegisters_completed bus idle address buffer size with ⟨after, bytes⟩
      exact ⟨after, congrArg Answer.bytes bytes⟩
  | readRegister address data =>
      rcases board.readRegister_completed bus idle address data with ⟨after, byte⟩
      exact ⟨after, congrArg Answer.byte byte⟩
  | writeBuffer offset buffer size =>
      exact ⟨board.writeBuffer_completed bus idle offset buffer size, rfl⟩
  | readBuffer offset buffer size =>
      rcases board.readBuffer_completed bus idle offset buffer size with ⟨after, bytes⟩
      exact ⟨after, congrArg Answer.bytes bytes⟩

def refinement : (driver board).Refinement plainMemory where
  view := Bus.memories
  invariant bus := bus.nss = .high
  preserved bus command idle := (board.driver_step bus idle command).1.nss
  view_next bus command idle := (board.driver_step bus idle command).1.memories_eq
  reply_eq bus command idle := (board.driver_step bus idle command).2

theorem exchanges_run (commands : List Command) (idle : bus.nss = .high) :
    ∃ count, ((driver board).run bus commands).exchanges =
      bus.exchanges ++ List.replicate count .low := by
  induction commands generalizing bus with
  | nil => exact ⟨0, by simp⟩
  | cons command commands induction =>
      rcases (board.driver_step bus idle command).1.exchanges with ⟨first, firstExchanges⟩
      rcases induction _ (board.driver_step bus idle command).1.nss with ⟨rest, restExchanges⟩
      refine ⟨first + rest, ?_⟩
      rw [Machine.run_cons, restExchanges, firstExchanges, List.append_assoc,
        List.replicate_add]

end Board

/-- The driver reads and writes the radio's memories as plain arrays, keeps NSS high
between calls, and exchanges each byte while NSS is low. -/
theorem sx126x_refines_plain_memory (board : Board) (commands : List Command) (bus : Bus)
    (idle : bus.nss = .high) :
    (driver board).trace bus commands = plainMemory.trace bus.memories commands ∧
      ((driver board).run bus commands).memories = plainMemory.run bus.memories commands ∧
      (driver board).Throughout (fun bus => bus.nss = .high) bus commands ∧
      ∃ count, ((driver board).run bus commands).exchanges =
        bus.exchanges ++ List.replicate count .low := by
  have idleThroughout := (driver board).throughout_of_preserved (fun bus => bus.nss = .high)
    board.refinement.preserved commands bus idle
  exact ⟨board.refinement.trace_eq commands bus idle, board.refinement.view_run commands bus idle,
    idleThroughout, board.exchanges_run bus commands idle⟩

/-! ## A board that wakes the radio -/

theorem Chip.sx126xWakeup_eq (chip : Chip) (bus : Bus) (idle : bus.nss = .high)
    (radioGetStatus : Byte) (other : chip.decodeOpcode radioGetStatus = .ignored) :
    chip.sx126xWakeup radioGetStatus bus = bus.ended bus.memories .ignored 2 := by
  simp only [sx126xWakeup, chip.gpioWrite_low bus idle, chip.spiOut_framed]
  simp [exchange, other, endFrame_eq]

/-- `SX126xCheckDeviceReady` as the driver of the radio has it: it wakes the radio
that is asleep. -/
def Chip.wakingBoard (chip : Chip) (radioGetStatus : Byte)
    (other : chip.decodeOpcode radioGetStatus = .ignored) (asleep : Bus → Bool) : Board where
  toChip := chip
  sx126xCheckDeviceReady bus := if asleep bus then chip.sx126xWakeup radioGetStatus bus else bus
  ready_nss bus idle := by
    simp only [chip.sx126xWakeup_eq bus idle radioGetStatus other]
    split
    · rfl
    · exact idle
  ready_memories bus idle := by
    simp only [chip.sx126xWakeup_eq bus idle radioGetStatus other]
    split <;> rfl
  ready_exchanges bus idle := by
    simp only [chip.sx126xWakeup_eq bus idle radioGetStatus other]
    split
    · exact ⟨2, rfl⟩
    · exact ⟨0, by simp⟩

/-- The opcodes of the SX126x, NSS on pin 8, and BUSY read as 1 twice after each frame. -/
def sx1262 : Chip where
  nc := 0xFFFFFFFF
  ioe0 := 0x100
  nss := 8
  nss_internal := by decide
  radioWriteRegister := 0x0D
  radioReadRegister := 0x1D
  radioWriteBuffer := 0x0E
  radioReadBuffer := 0x1E
  opcodes_nodup := by decide
  filler _ _ := 0
  busyAfter _ := 2

/-- An SX1262 that falls asleep after each frame. -/
def sleepyBoard : Board :=
  sx1262.wakingBoard 0xC0 (by decide) (fun _ => true)

def clearedBus : Bus where
  nss := .high
  memories := ⟨fun _ => 0, fun _ => 0⟩
  decoder := .opcode
  busy := 0
  frames := 0
  exchanges := []

/-- Two registers are written across the end of the address space, and one is read. -/
theorem sx126x_refines_plain_memory_wrapping_write :
    let commands := [.writeRegisters 0xFFFF (fun i => BitVec.ofNat 8 (i + 1)) 2,
      .readRegister 0 0]
    (driver sleepyBoard).trace clearedBus commands =
        plainMemory.trace clearedBus.memories commands ∧
      ((driver sleepyBoard).run clearedBus commands).memories =
        plainMemory.run clearedBus.memories commands ∧
      (driver sleepyBoard).Throughout (fun bus => bus.nss = .high) clearedBus commands ∧
      ∃ count, ((driver sleepyBoard).run clearedBus commands).exchanges =
        clearedBus.exchanges ++ List.replicate count .low :=
  sx126x_refines_plain_memory sleepyBoard _ clearedBus rfl

end Lorawan.Radio
