import Mathlib.Data.List.Forall2
import Lorawan.Sockets.Events

/-! # What the packets carry from arrival to consumption

An event holds a pointer to the MAC's one `McpsIndication_t`, not a copy of it
("TODO: memcpy data to allow multiple treatments"), and `lorawan_recv` reads the
object as it is by then. The packets come out as they went in when no frame
changes the object while an event is queued. -/

namespace Lorawan.Sockets

/-- What a caller of `lorawan_recv` is to learn of a frame. -/
structure Packet where
  devAddr : DevAddr
  port : Port
  payload : List Byte
  deriving DecidableEq, Repr

def packet (indication : McpsIndication) : Packet :=
  { devAddr := indication.devAddr, port := indication.port, payload := indication.payload }

/-- What a call of `lorawan_recv` handed out, and the bound it was given. -/
structure Receipt where
  devAddr : DevAddr
  port : Port
  /-- The bytes that the returned size covers. -/
  payload : List Byte
  size : Byte
  payloadMaxLen : Byte
  deriving DecidableEq, Repr

/-- The receipt tells the packet, its payload truncated to `payload_max_len`. -/
def Receipt.Yields (receipt : Receipt) (packet : Packet) : Prop :=
  receipt.devAddr = packet.devAddr ∧ receipt.port = packet.port ∧
    receipt.payload = packet.payload.take receipt.payloadMaxLen.toNat ∧
    receipt.size.toNat = receipt.payload.length

instance (receipt : Receipt) (packet : Packet) : Decidable (receipt.Yields packet) :=
  inferInstanceAs (Decidable (_ ∧ _ ∧ _ ∧ _))

/-- The packet that a step queued for the socket at the block. -/
def packetOn (block : Nat) : Call × Reply → Option Packet
  | (.indication frame _, .indication (some delivery)) =>
      if delivery.block = block then some (packet frame) else none
  | _ => none

/-- What a step handed out from the socket at the block. -/
def receiptOn (block : Nat) : Call × Reply → Option Receipt
  | (.recv _ _ payloadMaxLen _,
      .recv { returned := some size, buffers, taken := some (source, _) }) =>
      if source = block then
        some
          { devAddr := buffers.devAddr
            port := buffers.port
            payload := buffers.payload.take size.toNat
            size
            payloadMaxLen }
      else none
  | _ => none

def packetsOn (block : Nat) (past : List (Call × Reply)) : List Packet :=
  past.filterMap (packetOn block)

def receiptsOn (block : Nat) (past : List (Call × Reply)) : List Receipt :=
  past.filterMap (receiptOn block)

/-- On each socket the `k`-th packet handed out is the `k`-th packet accepted. -/
def InOrder (past : List (Call × Reply)) : Prop :=
  ∀ (block k : Nat) (receipt : Receipt), (receiptsOn block past)[k]? = some receipt →
    ∃ sent : Packet, (packetsOn block past)[k]? = some sent ∧ receipt.Yields sent

/-- A frame finds all queues empty, or repeats the packet that the MAC's object
already carries. -/
def State.FrameClear (state : State) : Call → Prop
  | .indication frame _ =>
      state.queuedEvents = [] ∨ packet frame = packet state.macIndication
  | _ => True

/-! ## The packets in the queues -/

/-- The queues with the packet that each event leads to. -/
def State.mail (state : State) : Mailbox.Boxes Nat Packet :=
  Mailbox.Boxes.mapItems (fun _ => packet state.macIndication) state.queues

/-- The traffic of a step in packets, given the object as the step leaves it. -/
def mailTraffic (state : State) (reply : Reply) : Option (Mailbox.Traffic Nat Packet) :=
  reply.traffic.map (Mailbox.Traffic.map fun _ => packet state.macIndication)

theorem macIndication_next (osTicksPerSec : OsTime) (state : State) (call : Call) :
    ((sockets osTicksPerSec).next state call).macIndication =
      match call with
      | .indication frame _ => frame
      | _ => state.macIndication := by
  cases call with
  | socket allocated => cases allocated <;> rfl
  | close sock =>
      rcases lorawanClose_frame state sock with ⟨table, result⟩
      rw [next_close, result]
  | bind sock devAddr port =>
      rcases lorawanBind_frame state sock devAddr port with ⟨table, result⟩
      rw [next_bind, result]
  | send sock port payload payloadSize answer =>
      rcases lorawanSend_frame state sock port payload payloadSize answer with ⟨table, result⟩
      rw [next_send, result]
  | recv sock buffers payloadMaxLen timeoutMs =>
      rcases lorawanRecv_frame osTicksPerSec state sock buffers payloadMaxLen timeoutMs with
        ⟨table, freed, result⟩
      rw [next_recv, result]
  | indication frame allocated =>
      rcases macReceive_frame state frame allocated with ⟨table, eventBlocks, result⟩
      rw [next_indication, result]

/-- Queues without events carry no packets, whatever the object holds. -/
theorem mapItems_of_queuedEvents_nil {state : State} (empty : state.queuedEvents = [])
    (left right : Packet) :
    Mailbox.Boxes.mapItems (fun _ => left) state.queues =
      Mailbox.Boxes.mapItems (fun _ => right) state.queues := by
  apply List.map_congr_left
  intro box boxMem
  rcases List.mem_map.mp boxMem with ⟨el, member, rfl⟩
  have noEvents := List.flatMap_eq_nil_iff.mp empty el member
  simp [Mailbox.mapEntry, SockEl.box, noEvents]

/-- A clear step moves whole packets, and leaves those in the queues alone. -/
theorem State.WellFormed.step_mail {state : State} (wellFormed : state.WellFormed)
    (osTicksPerSec : OsTime) (call : Call) (clear : state.FrameClear call) :
    Mailbox.Step state.mail
      (mailTraffic ((sockets osTicksPerSec).next state call)
        ((sockets osTicksPerSec).reply state call))
      ((sockets osTicksPerSec).next state call).mail := by
  have moved := (wellFormed.step_queues osTicksPerSec call).mapItems fun _ =>
    packet ((sockets osTicksPerSec).next state call).macIndication
  have untouched : Mailbox.Boxes.mapItems (fun _ =>
      packet ((sockets osTicksPerSec).next state call).macIndication) state.queues =
      state.mail := by
    rw [macIndication_next]
    cases call with
    | indication frame allocated =>
        rcases clear with empty | same
        · exact mapItems_of_queuedEvents_nil empty _ _
        · simp only [same]
          rfl
    | socket _ => rfl
    | close _ => rfl
    | bind _ _ _ => rfl
    | send _ _ _ _ _ => rfl
    | recv _ _ _ _ => rfl
  rw [untouched] at moved
  exact moved

/-! ## From the traffic to the logs of packets and receipts -/

/-- The logs of a step show its traffic in packets. -/
inductive Logged (answered : Call × Reply) : Option (Mailbox.Traffic Nat Packet) → Prop
  | quiet (noPacket : ∀ block, packetOn block answered = none)
      (noReceipt : ∀ block, receiptOn block answered = none) : Logged answered none
  | put (box : Nat) (sent : Packet)
      (packets : ∀ block, packetOn block answered = if box = block then some sent else none)
      (noReceipt : ∀ block, receiptOn block answered = none) :
      Logged answered (some (.put box sent))
  | take (box : Nat) (sent : Packet) (receipt : Receipt)
      (noPacket : ∀ block, packetOn block answered = none)
      (receipts : ∀ block, receiptOn block answered = if box = block then some receipt else none)
      (yields : receipt.Yields sent) : Logged answered (some (.take box sent))

/-- The bytes that `lorawan_recv` copies are the packet's. -/
theorem yields_of_recv (indication : McpsIndication) (buffers : RecvBuffers)
    (payloadMaxLen : Byte) {size : Nat}
    (bound : size = min payloadMaxLen.toNat indication.bufferSize.toNat) :
    Receipt.Yields
      { devAddr := indication.devAddr
        port := indication.port
        payload := (memcpy buffers.payload indication.buffer size).take (BitVec.ofNat 8 size).toNat
        size := BitVec.ofNat 8 size
        payloadMaxLen }
      (packet indication) := by
  have small : (BitVec.ofNat 8 size).toNat = size := by
    rw [BitVec.toNat_ofNat]
    exact Nat.mod_eq_of_lt (by omega)
  have held : size ≤ indication.buffer.length := by
    have roomy := indication.buffer_holds
    omega
  have whole : (indication.buffer.take size).length = size := by
    rw [List.length_take]
    exact Nat.min_eq_left held
  have copied : (memcpy buffers.payload indication.buffer size).take size =
      indication.buffer.take size := List.take_left' whole
  refine ⟨rfl, rfl, ?_, ?_⟩
  · rw [small, copied, packet, McpsIndication.payload, List.take_take, bound]
  · rw [small, copied, whole]

theorem logged (osTicksPerSec : OsTime) (state : State) (call : Call) :
    Logged (call, (sockets osTicksPerSec).reply state call)
      (mailTraffic ((sockets osTicksPerSec).next state call)
        ((sockets osTicksPerSec).reply state call)) := by
  cases call with
  | socket allocated => exact .quiet (fun _ => rfl) (fun _ => rfl)
  | close sock => exact .quiet (fun _ => rfl) (fun _ => rfl)
  | bind sock devAddr port => exact .quiet (fun _ => rfl) (fun _ => rfl)
  | send sock port payload payloadSize answer => exact .quiet (fun _ => rfl) (fun _ => rfl)
  | recv sock buffers payloadMaxLen timeoutMs =>
      change Logged (_, .recv (lorawanRecv osTicksPerSec state sock buffers payloadMaxLen
          timeoutMs).2) (mailTraffic (lorawanRecv osTicksPerSec state sock buffers payloadMaxLen
          timeoutMs).1 (.recv (lorawanRecv osTicksPerSec state sock buffers payloadMaxLen
          timeoutMs).2))
      rcases lorawanRecv_cases osTicksPerSec state sock buffers payloadMaxLen timeoutMs with
        ⟨returned, result⟩ | ⟨el, ev, rest, size, _, _, _, _, bound, result⟩
      · rw [result]
        refine .quiet (fun _ => rfl) (fun _ => ?_)
        cases returned <;> rfl
      · rw [result]
        have shown := yields_of_recv state.macIndication buffers payloadMaxLen bound
        exact .take el.block (packet state.macIndication) _ (fun _ => rfl) (fun _ => rfl) shown
  | indication frame allocated =>
      change Logged (_, .indication (macReceive state frame allocated).2)
        (mailTraffic (macReceive state frame allocated).1
          (.indication (macReceive state frame allocated).2))
      rcases macReceive_cases state frame allocated with ⟨_, result⟩ | ⟨el, _, _, result⟩
      · rw [result]
        exact .quiet (fun _ => rfl) (fun _ => rfl)
      · rw [result]
        exact .put el.block (packet frame) (fun _ => rfl) (fun _ => rfl)

/-! ## Whole runs -/

/-- The logs so far are those of conserved traffic that left the packets of the
queued events behind. -/
structure Carries (past : List (Call × Reply)) (state : State) : Prop where
  wellFormed : state.WellFormed
  logs : ∃ traffic : List (Option (Mailbox.Traffic Nat Packet)),
    Mailbox.Conserved traffic state.mail ∧
      (∀ block, packetsOn block past = Mailbox.putInto block traffic) ∧
      ∀ block, List.Forall₂ Receipt.Yields (receiptsOn block past)
        (Mailbox.takenFrom block traffic)

namespace Carries

theorem initial : Carries [] State.initial where
  wellFormed := .initial
  logs := ⟨[], .empty, fun _ => rfl, fun _ => .nil⟩

theorem packetsOn_append (block : Nat) (past : List (Call × Reply)) (answered : Call × Reply) :
    packetsOn block (past ++ [answered]) =
      packetsOn block past ++ (packetOn block answered).toList := by
  cases logged : packetOn block answered <;> simp [packetsOn, logged]

theorem receiptsOn_append (block : Nat) (past : List (Call × Reply)) (answered : Call × Reply) :
    receiptsOn block (past ++ [answered]) =
      receiptsOn block past ++ (receiptOn block answered).toList := by
  cases logged : receiptOn block answered <;> simp [receiptsOn, logged]

theorem next (osTicksPerSec : OsTime) {past : List (Call × Reply)} {state : State}
    (carries : Carries past state) (call : Call) (clear : state.FrameClear call) :
    Carries (past ++ [(call, (sockets osTicksPerSec).reply state call)])
      ((sockets osTicksPerSec).next state call) := by
  refine ⟨carries.wellFormed.next osTicksPerSec call, ?_⟩
  rcases carries.logs with ⟨traffic, conserved, packets, receipts⟩
  have moved := conserved.step (carries.wellFormed.step_mail osTicksPerSec call clear)
  have shown := logged osTicksPerSec state call
  generalize mailTraffic ((sockets osTicksPerSec).next state call)
    ((sockets osTicksPerSec).reply state call) = label at moved shown
  refine ⟨_, moved, fun block => ?_, fun block => ?_⟩
  · rw [packetsOn_append, packets]
    cases shown with
    | quiet noPacket _ => simp [noPacket]
    | put box sent sentOn _ => by_cases same : box = block <;> simp [sentOn, same]
    | take box sent receipt noPacket _ _ => simp [noPacket]
  · rw [receiptsOn_append]
    cases shown with
    | quiet _ noReceipt => simpa [noReceipt] using receipts block
    | put box sent _ noReceipt => simpa [noReceipt] using receipts block
    | take box sent receipt _ received yields =>
        rw [Mailbox.takenFrom_take, received]
        by_cases same : box = block
        · simpa [same] using List.rel_append (receipts block) (.cons yields .nil)
        · simpa [same] using receipts block

/-- What has been taken is the beginning of what has been put. -/
theorem inOrder {past : List (Call × Reply)} {state : State} (carries : Carries past state) :
    InOrder past := by
  rcases carries.logs with ⟨traffic, conserved, packets, receipts⟩
  intro block k receipt received
  have begins : ∃ rest, packetsOn block past = Mailbox.takenFrom block traffic ++ rest := by
    rw [packets]
    exact conserved.exists_putInto_eq block
  rcases begins with ⟨rest, split⟩
  rcases List.getElem?_eq_some_iff.mp received with ⟨inReceipts, receiptAt⟩
  have inTaken : k < (Mailbox.takenFrom block traffic).length := by
    rw [← (receipts block).length_eq]
    exact inReceipts
  refine ⟨(Mailbox.takenFrom block traffic)[k], ?_, ?_⟩
  · rw [split, List.getElem?_append_left inTaken, List.getElem?_eq_getElem inTaken]
  · rw [← receiptAt]
    exact (receipts block).get inReceipts inTaken

end Carries

/-- In every run in which a frame finds the queues empty or repeats the packet in
the MAC's object, each socket gets its packets in order and unaltered, in every
state reached. -/
theorem packets_received_in_order (osTicksPerSec : OsTime) (calls : List Call)
    (clear : (sockets osTicksPerSec).Along State.FrameClear State.initial calls)
    (before after : List Call) (split : calls = before ++ after) :
    InOrder ((sockets osTicksPerSec).trace State.initial before) := by
  rw [split, Machine.along_append] at clear
  have carries := (sockets osTicksPerSec).history_along Carries
    (fun past state call carries clear => carries.next osTicksPerSec call clear)
    before [] State.initial clear.1 Carries.initial
  exact carries.inOrder

def oneByteFrame (port : Port) (value : Byte) : McpsIndication where
  status := 0#32
  devAddr := 7#32
  port := port
  buffer := [value]
  bufferSize := 1#8
  buffer_holds := by simp

def recvOne (sock : LorawanSock) : Call :=
  .recv sock { devAddr := 0, port := 0, payload := [0] } 1 0

/-- Frames that are each read before the next one arrives. -/
theorem packets_received_in_order_two_frames :
    InOrder ((sockets 1000).trace State.initial
      [.socket true, .bind 1 7 5, .indication (oneByteFrame 5 10) true, recvOne 1,
        .indication (oneByteFrame 5 20) true, recvOne 1]) := by
  refine packets_received_in_order 1000 _ ?_ _ [] (List.append_nil _).symm
  exact ⟨trivial, trivial, .inl (by decide), trivial, .inl (by decide), trivial, trivial⟩

def packetRun : List Call :=
  [.socket true, .socket true, .bind 1 7 5, .bind 2 7 6,
    .indication (oneByteFrame 5 10) true, .indication (oneByteFrame 6 20) true, recvOne 1]

/-- A frame for port 6 arrives before the one for port 5 is read: the reader of port
5 gets port 6 and its payload. -/
theorem packetRun_not_inOrder :
    ¬InOrder ((sockets 1000).trace State.initial packetRun) := by
  intro inOrder
  rcases inOrder 0 0
    { devAddr := 7, port := 6, payload := [20], size := 1, payloadMaxLen := 1 } (by decide) with
    ⟨sent, sentFirst, _, samePort, _⟩
  have first : (packetsOn 0 ((sockets 1000).trace State.initial packetRun))[0]? =
      some { devAddr := 7, port := 5, payload := [10] } := by decide
  rw [first] at sentFirst
  rcases Option.some.inj sentFirst with rfl
  simp at samePort

end Lorawan.Sockets
