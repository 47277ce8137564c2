import Lorawan.Radio.Sx126xBoard

/-! # Frames of the SX126x driver

What the bytes of one frame do to the radio: the opcode and the address or offset
bring its decoder to the data, and the data are an array with wrap-around. -/

namespace Lorawan.Radio

/-! ## Arrays with wrap-around -/

/-- `memory[start + i] = buffer[i]` for each `i` below the size. -/
def writeArray {width : Nat} (memory : BitVec width → Byte) (start : BitVec width)
    (buffer : Buffer) : Nat → BitVec width → Byte
  | 0 => memory
  | size + 1 =>
      Function.update (writeArray memory start buffer size) (start + BitVec.ofNat width size)
        (buffer size)

/-- `buffer[i] = memory[start + i]` for each `i` below the size. -/
def readArray {width : Nat} (memory : BitVec width → Byte) (start : BitVec width)
    (buffer : Buffer) (size : Nat) : Buffer :=
  fun i => if i < size then memory (start + BitVec.ofNat width i) else buffer i

@[simp] theorem readArray_zero {width : Nat} (memory : BitVec width → Byte)
    (start : BitVec width) (buffer : Buffer) : readArray memory start buffer 0 = buffer := by
  funext i
  simp [readArray]

theorem readArray_succ {width : Nat} (memory : BitVec width → Byte) (start : BitVec width)
    (buffer : Buffer) (size : Nat) :
    readArray memory start buffer (size + 1) =
      Function.update (readArray memory start buffer size) size
        (memory (start + BitVec.ofNat width size)) := by
  funext i
  by_cases last : i = size
  · subst last
    simp [readArray]
  · have bound : i < size + 1 ↔ i < size := by omega
    simp [readArray, last, bound]

/-! ## Inside a frame -/

/-- The bus after `count` bytes of a frame that began on `bus`. -/
def Bus.framed (bus : Bus) (memories : Memories) (decoder : Decoder) (count : Nat) : Bus :=
  { bus with
    nss := .low
    memories
    decoder
    exchanges := bus.exchanges ++ List.replicate count .low }

namespace Chip

variable (chip : Chip) (bus : Bus) (memories : Memories)

theorem gpioWrite_nss (value : Level) :
    chip.gpioWrite bus chip.nss value = chip.halGpioWrite bus chip.nss value := by
  simp [gpioWrite, chip.nss_internal.1, chip.nss_internal.2]

theorem gpioWrite_low (idle : bus.nss = .high) :
    chip.gpioWrite bus chip.nss .low = bus.framed bus.memories .opcode 0 := by
  rw [gpioWrite_nss]
  simp [halGpioWrite, idle, Bus.framed]

theorem spiInOut_framed (decoder : Decoder) (count : Nat) (outData : BitVec 16) :
    chip.spiInOut (bus.framed memories decoder count) outData =
      (bus.framed (chip.exchange memories decoder (outData.setWidth 8)).1
        (chip.exchange memories decoder (outData.setWidth 8)).2.1 (count + 1),
        (chip.exchange memories decoder (outData.setWidth 8)).2.2) := by
  simp [spiInOut, halSpiTxVal, Bus.framed, List.replicate_succ']

theorem spiOut_framed (decoder : Decoder) (count : Nat) (outData : BitVec 16) :
    chip.spiOut (bus.framed memories decoder count) outData =
      bus.framed (chip.exchange memories decoder (outData.setWidth 8)).1
        (chip.exchange memories decoder (outData.setWidth 8)).2.1 (count + 1) := by
  rw [spiOut, spiInOut_framed]

/-! ### Opcodes and addresses -/

@[simp] theorem decode_writeRegister :
    chip.decodeOpcode chip.radioWriteRegister = .addressHigh .write := by
  simp [decodeOpcode]

theorem decode_readRegister :
    chip.decodeOpcode chip.radioReadRegister = .addressHigh .read := by
  have nodup := chip.opcodes_nodup
  simp only [List.nodup_cons, List.mem_cons, not_or] at nodup
  simp [decodeOpcode, Ne.symm nodup.1.1]

theorem decode_writeBuffer :
    chip.decodeOpcode chip.radioWriteBuffer = .offset .write := by
  have nodup := chip.opcodes_nodup
  simp only [List.nodup_cons, List.mem_cons, not_or] at nodup
  simp [decodeOpcode, Ne.symm nodup.1.2.1, Ne.symm nodup.2.1.1]

theorem decode_readBuffer :
    chip.decodeOpcode chip.radioReadBuffer = .offset .read := by
  have nodup := chip.opcodes_nodup
  simp only [List.nodup_cons, List.mem_cons, not_or] at nodup
  simp [decodeOpcode, Ne.symm nodup.1.2.2.1, Ne.symm nodup.2.1.2.1, Ne.symm nodup.2.2.1.1]

/-- The two halves of an address, as they are sent and put together again. -/
theorem address_bytes (address : BitVec 16) :
    ((address &&& 0xFF00#16) >>> 8).setWidth 8 ++ (address &&& 0x00FF#16).setWidth 8 =
      address := by
  have lowMask : ∀ i : Fin 8, (0x00FF#16).getLsbD i = true := by decide
  have highMask : ∀ i : Fin 8, (0xFF00#16).getLsbD (8 + i) = true := by decide
  apply BitVec.eq_of_getLsbD_eq
  intro i bound
  rw [BitVec.getLsbD_append]
  by_cases low : i < 8
  · have mask := lowMask ⟨i, low⟩
    simp [low, bound, mask, -BitVec.setWidth_and]
  · have position : 8 + (i - 8) = i := by omega
    have inHigh : i - 8 < 8 := by omega
    have mask := highMask ⟨i - 8, by omega⟩
    simp only [position] at mask
    simp [low, position, inHigh, mask, -BitVec.setWidth_and]

/-- A register frame up to its address. -/
theorem registerFrame_eq (idle : bus.nss = .high) (opcode : Byte) (access : Access)
    (decodes : chip.decodeOpcode opcode = .addressHigh access) (address : BitVec 16) :
    chip.spiOut
        (chip.spiOut
          (chip.spiOut (chip.gpioWrite bus chip.nss .low) (opcode.setWidth 16))
          ((address &&& 0xFF00#16) >>> 8))
        (address &&& 0x00FF#16) =
      bus.framed bus.memories
        (match access with
          | .write => .registers .write address
          | .read => .registerDummy address) 3 := by
  have opcodeSent : (opcode.setWidth 16).setWidth 8 = opcode := by simp
  rw [chip.gpioWrite_low bus idle, spiOut_framed, spiOut_framed, spiOut_framed]
  cases access <;> simp only [exchange, opcodeSent, decodes, address_bytes]

/-- A buffer frame up to its offset. -/
theorem bufferFrame_eq (idle : bus.nss = .high) (opcode : Byte) (access : Access)
    (decodes : chip.decodeOpcode opcode = .offset access) (offset : BitVec 8) :
    chip.spiOut
        (chip.spiOut (chip.gpioWrite bus chip.nss .low) (opcode.setWidth 16))
        (offset.setWidth 16) =
      bus.framed bus.memories
        (match access with
          | .write => .buffer .write offset
          | .read => .bufferDummy offset) 2 := by
  rw [chip.gpioWrite_low bus idle, spiOut_framed, spiOut_framed]
  cases access <;> simp [exchange, decodes]

/-! ### Data

Registers and buffer differ in the width of a position, in where they lie among the
memories and in the decoder's state. -/

section Data

variable {width : Nat} (decoder : BitVec width → Decoder) (start : BitVec width) (count : Nat)
  (buffer : Buffer) (size : Nat)

/-- Bytes sent to a decoder that writes one memory, position by position. -/
theorem sendBytes_framed (place : (BitVec width → Byte) → Memories)
    (writes : ∀ memory position mosi,
      (chip.exchange (place memory) (decoder position) mosi).1 =
          place (Function.update memory position mosi) ∧
        (chip.exchange (place memory) (decoder position) mosi).2.1 = decoder (position + 1))
    (memory : BitVec width → Byte) :
    chip.sendBytes buffer size (bus.framed (place memory) (decoder start) count) =
      bus.framed (place (writeArray memory start buffer size))
        (decoder (start + BitVec.ofNat width size)) (count + size) := by
  induction size with
  | zero => simp [sendBytes, writeArray]
  | succ size induction =>
      have sent : ((buffer size).setWidth 16).setWidth 8 = buffer size := by simp
      have next : start + BitVec.ofNat width size + 1 =
          start + BitVec.ofNat width (size + 1) := by
        rw [BitVec.ofNat_add, BitVec.add_assoc]
        rfl
      rw [sendBytes, induction, spiOut_framed, sent, (writes _ _ _).1, (writes _ _ _).2, next]
      rfl

/-- Bytes received from a decoder that reads one memory, position by position. -/
theorem receiveBytes_framed (memory : BitVec width → Byte)
    (reads : ∀ position mosi, chip.exchange memories (decoder position) mosi =
      (memories, decoder (position + 1), memory position)) :
    chip.receiveBytes size (bus.framed memories (decoder start) count, buffer) =
      (bus.framed memories (decoder (start + BitVec.ofNat width size)) (count + size),
        readArray memory start buffer size) := by
  induction size with
  | zero => simp [receiveBytes]
  | succ size induction =>
      have next : start + BitVec.ofNat width size + 1 =
          start + BitVec.ofNat width (size + 1) := by
        rw [BitVec.ofNat_add, BitVec.add_assoc]
        rfl
      simp only [receiveBytes, induction, spiInOut_framed, reads, next, readArray_succ]
      rfl

end Data

theorem sendBytes_registers (address : BitVec 16) (count : Nat) (buffer : Buffer) (size : Nat) :
    chip.sendBytes buffer size (bus.framed memories (.registers .write address) count) =
      bus.framed
        { memories with registers := writeArray memories.registers address buffer size }
        (.registers .write (address + BitVec.ofNat 16 size)) (count + size) :=
  chip.sendBytes_framed bus (.registers .write) address count buffer size
    (fun registers => { memories with registers }) (fun _ _ _ => ⟨rfl, rfl⟩) memories.registers

theorem sendBytes_buffer (offset : BitVec 8) (count : Nat) (buffer : Buffer) (size : Nat) :
    chip.sendBytes buffer size (bus.framed memories (.buffer .write offset) count) =
      bus.framed { memories with buffer := writeArray memories.buffer offset buffer size }
        (.buffer .write (offset + BitVec.ofNat 8 size)) (count + size) :=
  chip.sendBytes_framed bus (.buffer .write) offset count buffer size
    (fun buffer => { memories with buffer }) (fun _ _ _ => ⟨rfl, rfl⟩) memories.buffer

theorem receiveBytes_registers (address : BitVec 16) (count : Nat) (buffer : Buffer)
    (size : Nat) :
    chip.receiveBytes size (bus.framed memories (.registers .read address) count, buffer) =
      (bus.framed memories (.registers .read (address + BitVec.ofNat 16 size)) (count + size),
        readArray memories.registers address buffer size) :=
  chip.receiveBytes_framed bus memories (.registers .read) address count buffer size
    memories.registers (fun _ _ => rfl)

theorem receiveBytes_buffer (offset : BitVec 8) (count : Nat) (buffer : Buffer)
    (size : Nat) :
    chip.receiveBytes size (bus.framed memories (.buffer .read offset) count, buffer) =
      (bus.framed memories (.buffer .read (offset + BitVec.ofNat 8 size)) (count + size),
        readArray memories.buffer offset buffer size) :=
  chip.receiveBytes_framed bus memories (.buffer .read) offset count buffer size
    memories.buffer (fun _ _ => rfl)

end Chip

/-! ## The end of a frame -/

/-- The bus after a frame that began on `bus`, once the radio is no longer busy. -/
def Bus.ended (bus : Bus) (memories : Memories) (decoder : Decoder) (count : Nat) : Bus :=
  { bus with
    nss := .high
    memories
    decoder
    busy := 0
    frames := bus.frames + 1
    exchanges := bus.exchanges ++ List.replicate count .low }

theorem waitOnBusy_eq (busy : Nat) (bus : Bus) (polls : bus.busy = busy) :
    waitOnBusy busy bus = { bus with busy := 0 } := by
  induction busy generalizing bus with
  | zero =>
      rw [waitOnBusy, ← polls]
  | succ busy induction => exact induction { bus with busy } rfl

theorem Chip.endFrame_eq (chip : Chip) (bus : Bus) (memories : Memories) (decoder : Decoder)
    (count : Nat) :
    sx126xWaitOnBusy (chip.gpioWrite (bus.framed memories decoder count) chip.nss .high) =
      bus.ended memories decoder count := by
  rw [sx126xWaitOnBusy, waitOnBusy_eq _ _ rfl, chip.gpioWrite_nss]
  simp [halGpioWrite, Bus.framed, Bus.ended]

end Lorawan.Radio
