import Lorawan.Library.Mailbox
import Lorawan.Sockets.Owned

/-! # Receive events

The event queues of the sockets are a system of mailboxes: `_mcps_indication` puts
events in, `lorawan_recv` takes them out, and `lorawan_socket` and `lorawan_close`
open and close the boxes. -/

namespace Lorawan.Sockets

open scoped List

/-- The event queue of a socket, known by the block of its record. -/
def SockEl.box (el : SockEl) : Nat × List OsEvent :=
  (el.block, el.sockEventq)

@[simp] theorem SockEl.fst_box (el : SockEl) : el.box.fst = el.block := rfl

def State.queues (state : State) : Mailbox.Boxes Nat OsEvent :=
  state.lSockList.map SockEl.box

/-- What a step moved in or out of a queue, as its reply tells. -/
def Reply.traffic : Reply → Option (Mailbox.Traffic Nat OsEvent)
  | .indication (some delivery) => some (.put delivery.block delivery.ev)
  | .recv result => result.taken.map fun taken => .take taken.1 taken.2
  | _ => none

def traffic (past : List (Call × Reply)) : List (Option (Mailbox.Traffic Nat OsEvent)) :=
  past.map fun answered => answered.2.traffic

/-- The events queued for the socket at the block, oldest first. -/
def acceptedOn (block : Nat) (past : List (Call × Reply)) : List OsEvent :=
  Mailbox.putInto block (traffic past)

/-- The events that `lorawan_recv` took from the socket at the block, oldest first. -/
def consumedOn (block : Nat) (past : List (Call × Reply)) : List OsEvent :=
  Mailbox.takenFrom block (traffic past)

/-- The events that `lorawan_recv` took from any socket, oldest first. -/
def consumed (past : List (Call × Reply)) : List OsEvent :=
  Mailbox.allTaken (traffic past)

/-- All queued events. -/
def State.queuedEvents (state : State) : List OsEvent :=
  state.lSockList.flatMap SockEl.sockEventq

namespace State

variable {state : State}

theorem queues_fst (state : State) :
    state.queues.map Prod.fst = state.lSockList.map SockEl.block := by
  simp [queues, Function.comp_def]

theorem contents_queues (state : State) :
    Mailbox.contents state.queues = state.queuedEvents := by
  simp [Mailbox.contents, queues, queuedEvents, List.flatMap_map, SockEl.box]

theorem mem_queues {el : SockEl} (member : el ∈ state.lSockList) :
    (el.block, el.sockEventq) ∈ state.queues :=
  List.mem_map_of_mem (f := SockEl.box) member

theorem queues_store (state : State) (el : SockEl) : (state.store el).queues =
    RecordTable.store Prod.fst (el.block, el.sockEventq) state.queues :=
  RecordTable.map_store_comm SockEl.box SockEl.fst_box el _

theorem queues_discard (state : State) (block : Nat) :
    (state.discard block).queues = RecordTable.discard Prod.fst block state.queues :=
  RecordTable.map_discard_comm SockEl.box SockEl.fst_box block _

/-- Writing back a record with the queue it had. -/
theorem WellFormed.queues_store_eq (wellFormed : state.WellFormed) (old new : SockEl)
    (oldMem : old ∈ state.lSockList) (sameBlock : new.block = old.block)
    (sameQueue : new.sockEventq = old.sockEventq) :
    (state.store new).queues = state.queues :=
  RecordTable.map_store wellFormed.blocks_nodup oldMem sameBlock
    (Prod.ext sameBlock sameQueue)

end State

/-! ## One step -/

/-- A bind leaves the queues alone. -/
theorem State.WellFormed.queues_lorawanBind {state : State} (wellFormed : state.WellFormed)
    (sock : LorawanSock) (devAddr : DevAddr) (port : Port) :
    (lorawanBind state sock devAddr port).1.queues = state.queues := by
  rcases lorawanBind_cases state sock devAddr port with ⟨_, result⟩ | ⟨el, found, cases⟩
  · rw [result]
  · have member := mem_of_lorawanFindEl found
    rcases cases with ⟨_, result⟩ | ⟨_, _, result⟩ | ⟨_, _, _, result⟩
    all_goals rw [result]; exact wellFormed.queues_store_eq el _ member rfl rfl

/-- So does a request to send. -/
theorem State.WellFormed.queues_lorawanSend {state : State} (wellFormed : state.WellFormed)
    (sock : LorawanSock) (port : Port) (payload : Nat) (payloadSize : Byte)
    (answer : LoRaMacStatus) :
    (lorawanSend state sock port payload payloadSize answer).1.queues = state.queues := by
  rcases lorawanSend_cases state sock port payload payloadSize answer with
    result | ⟨el, request, found, result⟩
  · rw [result]
  · rw [result, wellFormed.queues_store_eq el { el with mcpsReq := request }
      (mem_of_lorawanFindEl found) rfl rfl]

/-- Every step of the socket layer is a step of the mailboxes. -/
theorem State.WellFormed.step_queues {state : State} (wellFormed : state.WellFormed)
    (osTicksPerSec : OsTime) (call : Call) :
    Mailbox.Step state.queues ((sockets osTicksPerSec).reply state call).traffic
      ((sockets osTicksPerSec).next state call).queues := by
  cases call with
  | socket allocated =>
      cases allocated with
      | false => exact .quiet _
      | true =>
          apply Mailbox.Step.opens
          intro member
          rw [State.queues_fst] at member
          rcases List.mem_map.mp member with ⟨el, elMem, equal⟩
          exact Nat.lt_irrefl _ (equal ▸ wellFormed.block_lt el elMem)
  | close sock =>
      change Mailbox.Step _ none (lorawanClose state sock).1.queues
      rcases lorawanClose_cases state sock with ⟨code, _, result⟩ | ⟨el, found, empty, result⟩
      · rw [result]
        exact .quiet _
      · rw [result, State.queues_discard]
        have member := State.mem_queues (mem_of_lorawanFindEl found)
        rw [empty] at member
        exact .closes el.block member
  | bind sock devAddr port =>
      change Mailbox.Step _ none (lorawanBind state sock devAddr port).1.queues
      rw [wellFormed.queues_lorawanBind]
      exact .quiet _
  | send sock port payload payloadSize answer =>
      change Mailbox.Step _ none (lorawanSend state sock port payload payloadSize answer).1.queues
      rw [wellFormed.queues_lorawanSend]
      exact .quiet _
  | recv sock buffers payloadMaxLen timeoutMs =>
      change Mailbox.Step _ (Reply.traffic (.recv (lorawanRecv osTicksPerSec state sock buffers
          payloadMaxLen timeoutMs).2))
        (lorawanRecv osTicksPerSec state sock buffers payloadMaxLen timeoutMs).1.queues
      rcases lorawanRecv_cases osTicksPerSec state sock buffers payloadMaxLen timeoutMs with
        ⟨_, result⟩ | ⟨el, ev, rest, size, found, _, _, queue, _, result⟩
      · rw [result]
        exact .quiet _
      · have member := State.mem_queues (mem_of_lorawanFindEl found)
        rw [queue] at member
        rw [result]
        change Mailbox.Step _ (some (.take el.block ev)) (state.store { el with
          sockEventq := rest, mcpsInd := state.macIndication }).queues
        rw [State.queues_store]
        exact .take el.block rest ev member
  | indication frame allocated =>
      change Mailbox.Step _ (Reply.traffic (.indication (macReceive state frame allocated).2))
        (macReceive state frame allocated).1.queues
      rcases macReceive_cases state frame allocated with ⟨_, result⟩ | ⟨el, _, target, result⟩
      · rw [result]
        exact .quiet _
      · have member := State.mem_queues (mem_of_lorawanFindEl target.2)
        rw [result]
        change Mailbox.Step _ (some (.put el.block ⟨state.eventBlocks, .macIndication⟩))
          (state.store { el with sockEventq :=
            el.sockEventq ++ [⟨state.eventBlocks, .macIndication⟩] }).queues
        rw [State.queues_store]
        exact .put el.block el.sockEventq _ member

/-- Events are allocated in order, for the queues only, and freed when taken. -/
theorem event_blocks_next (osTicksPerSec : OsTime) (state : State) (call : Call) :
    match ((sockets osTicksPerSec).reply state call).traffic with
    | none =>
        ((sockets osTicksPerSec).next state call).eventBlocks = state.eventBlocks ∧
          ((sockets osTicksPerSec).next state call).freedEvents = state.freedEvents
    | some (.put _ ev) =>
        ev.block = state.eventBlocks ∧
          ((sockets osTicksPerSec).next state call).eventBlocks = state.eventBlocks + 1 ∧
          ((sockets osTicksPerSec).next state call).freedEvents = state.freedEvents
    | some (.take _ ev) =>
        ((sockets osTicksPerSec).next state call).eventBlocks = state.eventBlocks ∧
          ((sockets osTicksPerSec).next state call).freedEvents =
            state.freedEvents ++ [ev.block] := by
  cases call with
  | socket allocated => cases allocated <;> exact ⟨rfl, rfl⟩
  | close sock =>
      change (lorawanClose state sock).1.eventBlocks = _ ∧
        (lorawanClose state sock).1.freedEvents = _
      rcases lorawanClose_frame state sock with ⟨table, result⟩
      rw [result]
      exact ⟨rfl, rfl⟩
  | bind sock devAddr port =>
      change (lorawanBind state sock devAddr port).1.eventBlocks = _ ∧
        (lorawanBind state sock devAddr port).1.freedEvents = _
      rcases lorawanBind_frame state sock devAddr port with ⟨table, result⟩
      rw [result]
      exact ⟨rfl, rfl⟩
  | send sock port payload payloadSize answer =>
      change (lorawanSend state sock port payload payloadSize answer).1.eventBlocks = _ ∧
        (lorawanSend state sock port payload payloadSize answer).1.freedEvents = _
      rcases lorawanSend_frame state sock port payload payloadSize answer with ⟨table, result⟩
      rw [result]
      exact ⟨rfl, rfl⟩
  | recv sock buffers payloadMaxLen timeoutMs =>
      simp only [Machine.reply, Machine.next, sockets, Prod.map, id, Reply.traffic]
      rcases lorawanRecv_cases osTicksPerSec state sock buffers payloadMaxLen timeoutMs with
        ⟨_, result⟩ | ⟨el, ev, rest, size, _, _, _, _, _, result⟩
      all_goals rw [result]; exact ⟨rfl, rfl⟩
  | indication frame allocated =>
      simp only [Machine.reply, Machine.next, sockets, Prod.map, id]
      rcases macReceive_cases state frame allocated with ⟨_, result⟩ | ⟨el, _, _, result⟩
      · rw [result]
        exact ⟨rfl, rfl⟩
      · rw [result]
        exact ⟨rfl, rfl, rfl⟩

end Lorawan.Sockets
