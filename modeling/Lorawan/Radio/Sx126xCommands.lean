import Lorawan.Radio.Sx126xRefinement

/-! # The SX126x driver on the wire

Besides the functions for registers and buffer the driver has two for any command of the
radio, and one that wakes it. Whichever is called, the radio hears one frame; the call does
what the bytes of this frame do, and answers from the bytes the radio sent in it. -/

namespace Lorawan.Radio

/-! ## The other bus functions of `sx126x-board.c` -/

namespace Board

variable (board : Board)

/-- A radio that is put to sleep is not waited for. -/
def sx126xWriteCommand (radioSetSleep : Byte) (bus : Bus) (command : Byte) (buffer : Buffer)
    (size : BitVec 16) : Bus :=
  let bus := board.sx126xCheckDeviceReady bus
  let bus := board.gpioWrite bus board.nss .low
  let bus := board.spiOut bus (command.setWidth 16)
  let bus := board.sendBytes buffer size.toNat bus
  let bus := board.gpioWrite bus board.nss .high
  if command ≠ radioSetSleep then sx126xWaitOnBusy bus else bus

def sx126xReadCommand (bus : Bus) (command : Byte) (buffer : Buffer) (size : BitVec 16) :
    Bus × Buffer :=
  let bus := board.sx126xCheckDeviceReady bus
  let bus := board.gpioWrite bus board.nss .low
  let bus := board.spiOut bus (command.setWidth 16)
  let bus := board.spiOut bus 0#16
  let (bus, buffer) := board.receiveBytes size.toNat (bus, buffer)
  let bus := board.gpioWrite bus board.nss .high
  (sx126xWaitOnBusy bus, buffer)

end Board

inductive Request
  | memory (command : Command)
  | writeCommand (command : Byte) (buffer : Buffer) (size : BitVec 16)
  | readCommand (command : Byte) (buffer : Buffer) (size : BitVec 16)
  | wakeup

/-- The two opcodes that the functions name themselves. -/
structure Opcodes where
  radioSetSleep : Byte
  radioGetStatus : Byte

def wholeDriver (board : Board) (opcodes : Opcodes) : Machine Bus Request Answer where
  step bus
    | .memory command => (driver board).step bus command
    | .writeCommand command buffer size =>
        (board.sx126xWriteCommand opcodes.radioSetSleep bus command buffer size, .written)
    | .readCommand command buffer size =>
        (board.sx126xReadCommand bus command buffer size).map id .bytes
    | .wakeup => (board.sx126xWakeup opcodes.radioGetStatus bus, .written)

/-! ## Frames without a bus -/

/-- The bytes `buffer[0] .. buffer[size - 1]`. -/
def Buffer.bytes (buffer : Buffer) (size : Nat) : List Byte :=
  (List.range size).map buffer

/-- The buffer once bytes were received into it. -/
def Buffer.filled (buffer : Buffer) (received : List Byte) : Buffer :=
  fun i => received.getD i (buffer i)

theorem Buffer.bytes_succ (buffer : Buffer) (size : Nat) :
    buffer.bytes (size + 1) = buffer.bytes size ++ [buffer size] := by
  simp [Buffer.bytes, List.range_succ]

theorem Buffer.filled_concat (buffer : Buffer) (received : List Byte) (last : Byte) :
    Function.update (buffer.filled received) received.length last =
      buffer.filled (received ++ [last]) := by
  funext i
  by_cases here : i = received.length
  · subst here
    simp [Buffer.filled]
  · rw [Function.update_of_ne here]
    rcases Nat.lt_or_gt_of_ne here with before | after
    · simp [Buffer.filled, List.getElem?_append_left before]
    · have beyond : (received ++ [last]).length ≤ i := by
        rw [List.length_append, List.length_singleton]
        omega
      simp only [Buffer.filled, List.getD_eq_getElem?_getD, List.getElem?_eq_none beyond,
        List.getElem?_eq_none (Nat.le_of_lt after)]

def highByte (address : BitVec 16) : Byte := address.extractLsb' 8 8
def lowByte (address : BitVec 16) : Byte := address.extractLsb' 0 8

/-- The bytes that a call sends, from the falling to the rising edge of NSS. -/
def Request.mosi (chip : Chip) (opcodes : Opcodes) : Request → List Byte
  | .memory (.writeRegisters address buffer size) =>
      chip.radioWriteRegister :: highByte address :: lowByte address :: buffer.bytes size.toNat
  | .memory (.writeRegister address value) =>
      [chip.radioWriteRegister, highByte address, lowByte address, value]
  | .memory (.readRegisters address _ size) =>
      chip.radioReadRegister :: highByte address :: lowByte address :: 0 ::
        List.replicate size.toNat 0
  | .memory (.readRegister address _) =>
      [chip.radioReadRegister, highByte address, lowByte address, 0, 0]
  | .memory (.writeBuffer offset buffer size) =>
      chip.radioWriteBuffer :: offset :: buffer.bytes size.toNat
  | .memory (.readBuffer offset _ size) =>
      chip.radioReadBuffer :: offset :: 0 :: List.replicate size.toNat 0
  | .writeCommand command buffer size => command :: buffer.bytes size.toNat
  | .readCommand command _ size => command :: 0 :: List.replicate size.toNat 0
  | .wakeup => [opcodes.radioGetStatus, 0]

/-- What a call answers when the radio has sent these bytes in its frame. -/
def Request.answer (miso : List Byte) : Request → Answer
  | .memory (.readRegisters _ buffer _) => .bytes (buffer.filled (miso.drop 4))
  | .memory (.readRegister _ data) => .byte ((miso.drop 4).getD 0 data)
  | .memory (.readBuffer _ buffer _) => .bytes (buffer.filled (miso.drop 3))
  | .readCommand _ buffer _ => .bytes (buffer.filled (miso.drop 2))
  | _ => .written

/-- Whether a call puts the radio to sleep. -/
def Request.sleeps (opcodes : Opcodes) : Request → Bool
  | .writeCommand command _ _ => command == opcodes.radioSetSleep
  | _ => false

namespace Chip

variable (chip : Chip)

/-- Byte for byte: the memories and the decoder afterwards, and what the radio has sent. -/
def exchangeAll (memories : Memories) (decoder : Decoder) :
    List Byte → Memories × Decoder × List Byte
  | [] => (memories, decoder, [])
  | mosi :: rest =>
      let (memories, decoder, miso) := chip.exchange memories decoder mosi
      let (memories, decoder, received) := exchangeAll memories decoder rest
      (memories, decoder, miso :: received)

/-- The radio as it answers whole frames. -/
def frames (opcodes : Opcodes) : Machine Memories Request Answer where
  step memories request :=
    let (memories, _, miso) := chip.exchangeAll memories .opcode (request.mosi chip opcodes)
    (memories, request.answer miso)

variable (bus : Bus) (memories : Memories) (decoder : Decoder)

theorem exchangeAll_append (first second : List Byte) :
    chip.exchangeAll memories decoder (first ++ second) =
      let (memories, decoder, received) := chip.exchangeAll memories decoder first
      let (memories, decoder, later) := chip.exchangeAll memories decoder second
      (memories, decoder, received ++ later) := by
  induction first generalizing memories decoder with
  | nil => rfl
  | cons mosi rest induction =>
      simp only [List.cons_append, exchangeAll, induction]

theorem length_exchangeAll (bytes : List Byte) :
    (chip.exchangeAll memories decoder bytes).2.2.length = bytes.length := by
  induction bytes generalizing memories decoder with
  | nil => rfl
  | cons mosi rest induction => simp [exchangeAll, induction]

theorem exchangeAll_concat (bytes : List Byte) (mosi : Byte) :
    chip.exchangeAll memories decoder (bytes ++ [mosi]) =
      let (memories, decoder, received) := chip.exchangeAll memories decoder bytes
      let (memories, decoder, miso) := chip.exchange memories decoder mosi
      (memories, decoder, received ++ [miso]) := by
  rw [exchangeAll_append]
  rfl

/-! ## From the bus to the frames -/

theorem highByte_eq (address : BitVec 16) :
    ((address &&& 0xFF00#16) >>> 8).setWidth 8 = highByte address := by
  have mask : ∀ i : Fin 8, (0xFF00#16).getLsbD (8 + i) = true := by decide
  apply BitVec.eq_of_getLsbD_eq
  intro i bound
  have bit := mask ⟨i, bound⟩
  simp only at bit
  simp [highByte, bound, bit, -BitVec.setWidth_and]

theorem lowByte_eq (address : BitVec 16) :
    (address &&& 0x00FF#16).setWidth 8 = lowByte address := by
  have mask : ∀ i : Fin 8, (0x00FF#16).getLsbD i = true := by decide
  apply BitVec.eq_of_getLsbD_eq
  intro i bound
  have bit := mask ⟨i, bound⟩
  simp only at bit
  simp [lowByte, bound, bit, -BitVec.setWidth_and]

/-- The bus once a frame that began on it has these bytes. -/
def heard (bytes : List Byte) : Bus :=
  bus.framed (chip.exchangeAll bus.memories .opcode bytes).1
    (chip.exchangeAll bus.memories .opcode bytes).2.1 bytes.length

/-- The bytes that the radio sends in such a frame. -/
def sent (bytes : List Byte) : List Byte :=
  (chip.exchangeAll bus.memories .opcode bytes).2.2

theorem spiInOut_heard (bytes : List Byte) (outData : BitVec 16) :
    ∃ miso, chip.spiInOut (chip.heard bus bytes) outData =
        (chip.heard bus (bytes ++ [outData.setWidth 8]), miso) ∧
      chip.sent bus (bytes ++ [outData.setWidth 8]) = chip.sent bus bytes ++ [miso] := by
  rw [heard, spiInOut_framed]
  refine ⟨_, Prod.ext ?_ rfl, ?_⟩
  · simp only [heard, exchangeAll_concat, List.length_append, List.length_singleton]
  · simp only [sent, exchangeAll_concat]

theorem spiOut_heard (bytes : List Byte) (outData : BitVec 16) :
    chip.spiOut (chip.heard bus bytes) outData =
      chip.heard bus (bytes ++ [outData.setWidth 8]) := by
  rcases chip.spiInOut_heard bus bytes outData with ⟨miso, step, _⟩
  rw [spiOut, step]

theorem sendBytes_heard (bytes : List Byte) (buffer : Buffer) (size : Nat) :
    chip.sendBytes buffer size (chip.heard bus bytes) =
      chip.heard bus (bytes ++ buffer.bytes size) := by
  induction size with
  | zero => simp [sendBytes, Buffer.bytes]
  | succ size induction =>
      have outData : ((buffer size).setWidth 16).setWidth 8 = buffer size := by simp
      rw [sendBytes, induction, spiOut_heard, outData, Buffer.bytes_succ, List.append_assoc]

theorem receiveBytes_heard (bytes : List Byte) (buffer : Buffer) (size : Nat) :
    chip.receiveBytes size (chip.heard bus bytes, buffer) =
      (chip.heard bus (bytes ++ List.replicate size 0),
        buffer.filled ((chip.sent bus (bytes ++ List.replicate size 0)).drop bytes.length)) := by
  induction size with
  | zero =>
      have length := chip.length_exchangeAll bus.memories .opcode bytes
      have none : (chip.sent bus bytes).drop bytes.length = [] :=
        List.drop_eq_nil_of_le (Nat.le_of_eq length)
      rw [List.replicate_zero, List.append_nil, none]
      rfl
  | succ size induction =>
      let sofar := bytes ++ List.replicate size 0
      rcases chip.spiInOut_heard bus sofar 0#16 with ⟨miso, step, grown⟩
      have next : bytes ++ List.replicate (size + 1) 0 = sofar ++ [(0#16).setWidth 8] := by
        rw [List.replicate_succ', ← List.append_assoc]
        rfl
      have length : (chip.sent bus sofar).length = bytes.length + size := by
        rw [sent, length_exchangeAll]
        simp [sofar]
      have position : ((chip.sent bus sofar).drop bytes.length).length = size := by
        rw [List.length_drop, length, Nat.add_sub_cancel_left]
      simp only [receiveBytes, induction]
      rw [step, next, grown, List.drop_append_of_le_length (by omega), ← Buffer.filled_concat,
        position]

/-! ## A whole call -/

/-- The bus after a frame of these bytes, once the radio is no longer busy. -/
def afterFrame (bytes : List Byte) : Bus :=
  bus.ended (chip.exchangeAll bus.memories .opcode bytes).1
    (chip.exchangeAll bus.memories .opcode bytes).2.1 bytes.length

theorem endFrame_heard (bytes : List Byte) :
    sx126xWaitOnBusy (chip.gpioWrite (chip.heard bus bytes) chip.nss .high) =
      chip.afterFrame bus bytes :=
  chip.endFrame_eq bus _ _ _

theorem gpioWrite_heard (idle : bus.nss = .high) :
    chip.gpioWrite bus chip.nss .low = chip.heard bus [] :=
  chip.gpioWrite_low bus idle

end Chip

namespace Board

variable (board : Board) (opcodes : Opcodes) (bus : Bus)

/-- The bus on which the frame of a call begins. -/
def opened : Request → Bus
  | .wakeup => bus
  | _ => board.sx126xCheckDeviceReady bus

/-- The bus after a call. -/
def afterCall (request : Request) : Bus :=
  { board.afterFrame (board.opened bus request) (request.mosi board.toChip opcodes) with
    busy := if request.sleeps opcodes then board.busyAfter (board.opened bus request).frames
      else 0 }

def answered (request : Request) : Answer :=
  request.answer (board.sent (board.opened bus request) (request.mosi board.toChip opcodes))

theorem memories_opened (idle : bus.nss = .high) (request : Request) :
    (board.opened bus request).memories = bus.memories := by
  cases request with
  | wakeup => rfl
  | memory _ => exact board.ready_memories bus idle
  | writeCommand _ _ _ => exact board.ready_memories bus idle
  | readCommand _ _ _ => exact board.ready_memories bus idle

theorem exchanges_opened (idle : bus.nss = .high) (request : Request) :
    ∃ count, (board.opened bus request).exchanges =
      bus.exchanges ++ List.replicate count .low := by
  cases request with
  | wakeup => exact ⟨0, by simp [opened]⟩
  | memory _ => exact board.ready_exchanges bus idle
  | writeCommand _ _ _ => exact board.ready_exchanges bus idle
  | readCommand _ _ _ => exact board.ready_exchanges bus idle

theorem writeRegisters_frame (idle : bus.nss = .high) (address : BitVec 16) (buffer : Buffer)
    (size : BitVec 16) :
    board.sx126xWriteRegisters bus address buffer size =
      board.afterCall opcodes bus (.memory (.writeRegisters address buffer size)) := by
  have ready := board.ready_nss bus idle
  simp only [sx126xWriteRegisters, board.gpioWrite_heard _ ready, Chip.spiOut_heard,
    Chip.sendBytes_heard, Chip.endFrame_heard, Chip.highByte_eq, Chip.lowByte_eq]
  simp [afterCall, opened, Request.mosi, Request.sleeps, Chip.afterFrame, Bus.ended]

theorem readRegisters_frame (idle : bus.nss = .high) (address : BitVec 16) (buffer : Buffer)
    (size : BitVec 16) :
    board.sx126xReadRegisters bus address buffer size =
      let request := Request.memory (.readRegisters address buffer size)
      (board.afterCall opcodes bus request,
        buffer.filled ((board.sent (board.opened bus request)
          (request.mosi board.toChip opcodes)).drop 4)) := by
  have ready := board.ready_nss bus idle
  simp only [sx126xReadRegisters, board.gpioWrite_heard _ ready, Chip.spiOut_heard,
    Chip.receiveBytes_heard, Chip.endFrame_heard, Chip.highByte_eq, Chip.lowByte_eq]
  simp [afterCall, opened, Request.mosi, Request.sleeps, Chip.afterFrame, Bus.ended]

theorem writeBuffer_frame (idle : bus.nss = .high) (offset : BitVec 8) (buffer : Buffer)
    (size : BitVec 8) :
    board.sx126xWriteBuffer bus offset buffer size =
      board.afterCall opcodes bus (.memory (.writeBuffer offset buffer size)) := by
  have ready := board.ready_nss bus idle
  simp only [sx126xWriteBuffer, board.gpioWrite_heard _ ready, Chip.spiOut_heard,
    Chip.sendBytes_heard, Chip.endFrame_heard]
  simp [afterCall, opened, Request.mosi, Request.sleeps, Chip.afterFrame, Bus.ended]

theorem readBuffer_frame (idle : bus.nss = .high) (offset : BitVec 8) (buffer : Buffer)
    (size : BitVec 8) :
    board.sx126xReadBuffer bus offset buffer size =
      let request := Request.memory (.readBuffer offset buffer size)
      (board.afterCall opcodes bus request,
        buffer.filled ((board.sent (board.opened bus request)
          (request.mosi board.toChip opcodes)).drop 3)) := by
  have ready := board.ready_nss bus idle
  simp only [sx126xReadBuffer, board.gpioWrite_heard _ ready, Chip.spiOut_heard,
    Chip.receiveBytes_heard, Chip.endFrame_heard]
  simp [afterCall, opened, Request.mosi, Request.sleeps, Chip.afterFrame, Bus.ended]

theorem writeCommand_frame (idle : bus.nss = .high) (command : Byte) (buffer : Buffer)
    (size : BitVec 16) :
    board.sx126xWriteCommand opcodes.radioSetSleep bus command buffer size =
      board.afterCall opcodes bus (.writeCommand command buffer size) := by
  have ready := board.ready_nss bus idle
  simp only [sx126xWriteCommand, board.gpioWrite_heard _ ready, Chip.spiOut_heard,
    Chip.sendBytes_heard, Chip.endFrame_heard]
  by_cases sleeps : command = opcodes.radioSetSleep
  · rw [if_neg (by simp [sleeps]), Chip.gpioWrite_nss]
    simp [afterCall, opened, Request.mosi, Request.sleeps, sleeps, Chip.halGpioWrite,
      Chip.heard, Bus.framed, Chip.afterFrame, Bus.ended]
  · rw [if_pos sleeps]
    simp [afterCall, opened, Request.mosi, Request.sleeps, sleeps, Chip.afterFrame, Bus.ended]

theorem readCommand_frame (idle : bus.nss = .high) (command : Byte) (buffer : Buffer)
    (size : BitVec 16) :
    board.sx126xReadCommand bus command buffer size =
      let request := Request.readCommand command buffer size
      (board.afterCall opcodes bus request,
        buffer.filled ((board.sent (board.opened bus request)
          (request.mosi board.toChip opcodes)).drop 2)) := by
  have ready := board.ready_nss bus idle
  simp only [sx126xReadCommand, board.gpioWrite_heard _ ready, Chip.spiOut_heard,
    Chip.receiveBytes_heard, Chip.endFrame_heard]
  simp [afterCall, opened, Request.mosi, Request.sleeps, Chip.afterFrame, Bus.ended]

theorem wakeup_frame (idle : bus.nss = .high) :
    board.sx126xWakeup opcodes.radioGetStatus bus = board.afterCall opcodes bus .wakeup := by
  simp only [Chip.sx126xWakeup, board.gpioWrite_heard bus idle, Chip.spiOut_heard,
    Chip.endFrame_heard]
  simp [afterCall, opened, Request.mosi, Request.sleeps, Chip.afterFrame, Bus.ended]

/-- What a call does and answers, in terms of its frame. -/
theorem wholeDriver_step (idle : bus.nss = .high) (request : Request) :
    (wholeDriver board opcodes).step bus request =
      (board.afterCall opcodes bus request, board.answered opcodes bus request) := by
  cases request with
  | memory command =>
      cases command with
      | writeRegisters address buffer size =>
          exact Prod.ext (board.writeRegisters_frame opcodes bus idle address buffer size) rfl
      | writeRegister address value =>
          have frame := board.writeRegisters_frame opcodes bus idle address (fun _ => value) 1#16
          exact Prod.ext frame rfl
      | readRegisters address buffer size =>
          have frame := board.readRegisters_frame opcodes bus idle address buffer size
          simp only [wholeDriver, driver, frame]
          rfl
      | readRegister address data =>
          have frame := board.readRegisters_frame opcodes bus idle address (fun _ => data) 1#16
          simp only [wholeDriver, driver, sx126xReadRegister, frame]
          rfl
      | writeBuffer offset buffer size =>
          exact Prod.ext (board.writeBuffer_frame opcodes bus idle offset buffer size) rfl
      | readBuffer offset buffer size =>
          have frame := board.readBuffer_frame opcodes bus idle offset buffer size
          simp only [wholeDriver, driver, frame]
          rfl
  | writeCommand command buffer size =>
      exact Prod.ext (board.writeCommand_frame opcodes bus idle command buffer size) rfl
  | readCommand command buffer size =>
      have frame := board.readCommand_frame opcodes bus idle command buffer size
      simp only [wholeDriver, frame]
      rfl
  | wakeup => exact Prod.ext (board.wakeup_frame opcodes bus idle) rfl

/-! ## Sequences of calls -/

theorem afterCall_completed (idle : bus.nss = .high) (request : Request) :
    Completed bus (board.afterCall opcodes bus request)
      ((board.frames opcodes).next bus.memories request) := by
  have memories := board.memories_opened bus idle request
  rcases board.exchanges_opened bus idle request with ⟨waking, exchanges⟩
  refine ⟨rfl, ?_, waking + (request.mosi board.toChip opcodes).length, ?_⟩
  · simp only [afterCall, Chip.afterFrame, Bus.ended, memories]
    rfl
  · rw [List.replicate_add, ← List.append_assoc, ← exchanges]
    rfl

theorem answered_eq (idle : bus.nss = .high) (request : Request) :
    board.answered opcodes bus request = (board.frames opcodes).reply bus.memories request := by
  simp only [answered, Chip.sent, board.memories_opened bus idle request]
  rfl

def framesRefinement : (wholeDriver board opcodes).Refinement (board.frames opcodes) where
  view := Bus.memories
  invariant bus := bus.nss = .high
  preserved bus request idle := by
    rw [Machine.next, board.wholeDriver_step opcodes bus idle request]
    rfl
  view_next bus request idle := by
    rw [Machine.next, board.wholeDriver_step opcodes bus idle request]
    exact (board.afterCall_completed opcodes bus idle request).memories_eq
  reply_eq bus request idle := by
    rw [Machine.reply, board.wholeDriver_step opcodes bus idle request]
    exact board.answered_eq opcodes bus idle request

theorem exchanges_wholeDriver (requests : List Request) (idle : bus.nss = .high) :
    ∃ count, ((wholeDriver board opcodes).run bus requests).exchanges =
      bus.exchanges ++ List.replicate count .low := by
  induction requests generalizing bus with
  | nil => exact ⟨0, by simp⟩
  | cons request requests induction =>
      have step := board.wholeDriver_step opcodes bus idle request
      have completed := board.afterCall_completed opcodes bus idle request
      rcases completed.exchanges with ⟨first, firstExchanges⟩
      rcases induction _ completed.nss with ⟨rest, restExchanges⟩
      refine ⟨first + rest, ?_⟩
      rw [Machine.run_cons, Machine.next, step, restExchanges, firstExchanges,
        List.append_assoc, List.replicate_add]

end Board

/-- Calls that begin on the same bus and send the same bytes leave the same bus. -/
theorem Board.next_eq_of_mosi_eq (board : Board) (opcodes : Opcodes) (bus : Bus)
    (idle : bus.nss = .high) {first second : Request}
    (opened : board.opened bus first = board.opened bus second)
    (sleeps : first.sleeps opcodes = second.sleeps opcodes)
    (mosi : first.mosi board.toChip opcodes = second.mosi board.toChip opcodes) :
    (wholeDriver board opcodes).next bus first = (wholeDriver board opcodes).next bus second := by
  simp only [Machine.next, board.wholeDriver_step opcodes bus idle, afterCall, opened, sleeps,
    mosi]

/-- The bytes of a buffer behind others. -/
def Buffer.after (buffer : Buffer) (front : List Byte) : Buffer :=
  fun i => front.getD i (buffer (i - front.length))

theorem Buffer.bytes_after (buffer : Buffer) (front : List Byte) (size : Nat) :
    (buffer.after front).bytes (front.length + size) = front ++ buffer.bytes size := by
  simp only [Buffer.bytes, List.range_add, List.map_append, List.map_map]
  congr 1
  · apply List.ext_getElem
    · simp
    · intro i _ bound
      simp [Buffer.after, bound]
  · apply List.map_congr_left
    intro i _
    simp [Buffer.after]

theorem Buffer.filled_drop (buffer : Buffer) (received : List Byte) (count i : Nat) :
    buffer.filled received (i + count) =
      Buffer.filled (fun i => buffer (i + count)) (received.drop count) i := by
  simp [Buffer.filled, Nat.add_comm]

namespace Board

variable (board : Board) (opcodes : Opcodes) (bus : Bus)

/-- A read command that sends what a read from a memory sends gets its bytes, behind those
that the radio sends while it is told the position. -/
theorem readCommand_reply (idle : bus.nss = .high) (command : Byte) (buffer : Buffer)
    (size : BitVec 16) (memory : Command) (shift : Nat) (bytes : Buffer)
    (same : Request.mosi board.toChip opcodes (.readCommand command buffer size) =
      Request.mosi board.toChip opcodes (.memory memory))
    (answers : ∀ miso, Request.answer miso (.memory memory) =
      .bytes (Buffer.filled (fun i => buffer (i + shift)) (miso.drop (2 + shift))))
    (plain : plainMemory.reply bus.memories memory = .bytes bytes) :
    ∃ received, (wholeDriver board opcodes).reply bus (.readCommand command buffer size) =
        .bytes received ∧ (fun i => received (i + shift)) = bytes := by
  have step := board.wholeDriver_step opcodes bus idle (.readCommand command buffer size)
  have memoryStep := board.wholeDriver_step opcodes bus idle (.memory memory)
  have memoryReply : board.answered opcodes bus (.memory memory) = .bytes bytes := by
    rw [← plain, ← (board.driver_step bus idle memory).2]
    exact (congrArg Prod.snd memoryStep).symm
  refine ⟨_, congrArg Prod.snd step, ?_⟩
  rw [answered, answers, ← same] at memoryReply
  rw [← Answer.bytes.inj memoryReply]
  funext i
  rw [Buffer.filled_drop, List.drop_drop]
  rfl

end Board

/-- With the opcode and the position in front, the command functions are the functions for
registers and buffer, if the radio is not put to sleep by these opcodes. A command that is
read with such an opcode reads from position 0, behind one or two bytes without data. -/
theorem sx126x_commands_reach_memories (board : Board) (opcodes : Opcodes) (bus : Bus)
    (idle : bus.nss = .high)
    (awake : opcodes.radioSetSleep ∉ [board.radioWriteRegister, board.radioWriteBuffer])
    (address : BitVec 16) (offset : BitVec 8) (buffer : Buffer) (size : BitVec 16)
    (fits : size.toNat + 2 < 2 ^ 16) (length : BitVec 8) :
    let driver := wholeDriver board opcodes
    let readRegister := Request.readCommand board.radioReadRegister buffer (size + 2#16)
    let readBuffer := Request.readCommand board.radioReadBuffer buffer (length.setWidth 16 + 1#16)
    driver.next bus (.writeCommand board.radioWriteRegister
        (buffer.after [highByte address, lowByte address]) (size + 2#16)) =
      driver.next bus (.memory (.writeRegisters address buffer size)) ∧
    driver.next bus (.writeCommand board.radioWriteBuffer (buffer.after [offset])
        (length.setWidth 16 + 1#16)) =
      driver.next bus (.memory (.writeBuffer offset buffer length)) ∧
    driver.next bus readRegister = driver.next bus (.memory (.readRegisters 0 buffer size)) ∧
    (∃ received, driver.reply bus readRegister = .bytes received ∧
      (fun i => received (i + 2)) =
        readArray bus.memories.registers 0 (fun i => buffer (i + 2)) size.toNat) ∧
    driver.next bus readBuffer = driver.next bus (.memory (.readBuffer 0 buffer length)) ∧
    ∃ received, driver.reply bus readBuffer = .bytes received ∧
      (fun i => received (i + 1)) =
        readArray bus.memories.buffer 0 (fun i => buffer (i + 1)) length.toNat := by
  have sizeNat : (size + 2#16).toNat = 2 + size.toNat := by
    rw [BitVec.toNat_add, BitVec.toNat_ofNat]
    omega
  have lengthNat : (length.setWidth 16 + 1#16).toNat = 1 + length.toNat := by
    rw [BitVec.toNat_add, BitVec.toNat_ofNat, BitVec.toNat_setWidth]
    omega
  have awakeRegister : board.radioWriteRegister ≠ opcodes.radioSetSleep := by
    intro same
    simp [same] at awake
  have awakeBuffer : board.radioWriteBuffer ≠ opcodes.radioSetSleep := by
    intro same
    simp [same] at awake
  have registerFrame : ∀ into : Buffer,
      Request.mosi board.toChip opcodes
          (.readCommand board.radioReadRegister buffer (size + 2#16)) =
        Request.mosi board.toChip opcodes (.memory (.readRegisters 0 into size)) := by
    intro into
    simp only [Request.mosi, sizeNat, Nat.add_comm 2, List.replicate_succ]
    rfl
  have bufferFrame : ∀ into : Buffer,
      Request.mosi board.toChip opcodes
          (.readCommand board.radioReadBuffer buffer (length.setWidth 16 + 1#16)) =
        Request.mosi board.toChip opcodes (.memory (.readBuffer 0 into length)) := by
    intro into
    simp only [Request.mosi, lengthNat, Nat.add_comm 1, List.replicate_succ]
  refine ⟨?_, ?_, ?_, ?_, ?_, ?_⟩
  · apply board.next_eq_of_mosi_eq opcodes bus idle
    · rfl
    · simp [Request.sleeps, awakeRegister]
    · simp only [Request.mosi, sizeNat]
      exact congrArg _ (buffer.bytes_after [highByte address, lowByte address] size.toNat)
  · apply board.next_eq_of_mosi_eq opcodes bus idle
    · rfl
    · simp [Request.sleeps, awakeBuffer]
    · simp only [Request.mosi, lengthNat]
      exact congrArg _ (buffer.bytes_after [offset] length.toNat)
  · apply board.next_eq_of_mosi_eq opcodes bus idle
    · rfl
    · rfl
    · exact registerFrame buffer
  · apply board.readCommand_reply opcodes bus idle _ buffer _
      (.readRegisters 0 (fun i => buffer (i + 2)) size) 2
    · exact registerFrame _
    · intro miso
      rfl
    · rfl
  · apply board.next_eq_of_mosi_eq opcodes bus idle
    · rfl
    · rfl
    · exact bufferFrame buffer
  · apply board.readCommand_reply opcodes bus idle _ buffer _
      (.readBuffer 0 (fun i => buffer (i + 1)) length) 1
    · exact bufferFrame _
    · intro miso
      rfl
    · rfl

/-- Two registers by way of commands, on a radio whose opcode for sleep is 0x84. -/
theorem sx126x_commands_reach_memories_two_registers :
    let driver := wholeDriver sleepyBoard ⟨0x84, 0xC0⟩
    let buffer : Buffer := fun i => BitVec.ofNat 8 (i + 1)
    driver.next clearedBus (.writeCommand 0x0D
        (buffer.after [highByte 0xFFFF, lowByte 0xFFFF]) (2#16 + 2#16)) =
      driver.next clearedBus (.memory (.writeRegisters 0xFFFF buffer 2)) :=
  (sx126x_commands_reach_memories sleepyBoard ⟨0x84, 0xC0⟩ clearedBus rfl (by decide) 0xFFFF 0
    (fun i => BitVec.ofNat 8 (i + 1)) 2 (by decide) 0).1

end Lorawan.Radio
