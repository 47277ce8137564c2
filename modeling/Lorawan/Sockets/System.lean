import Lorawan.Library.Execution
import Lorawan.Sockets.Api

/-! # The socket layer as a state machine

Calls of the API and frames from the MAC come in any order, each one atomic. For
every function one lemma says all it can do to the state; the invariants are
derived from these lemmas. -/

namespace Lorawan.Sockets

/-- One step: a call with its arguments and the answers of its environment. -/
inductive Call
  | socket (allocated : Bool)
  | close (sock : LorawanSock)
  | bind (sock : LorawanSock) (devAddr : DevAddr) (port : Port)
  | send (sock : LorawanSock) (port : Port) (payload : Nat) (payloadSize : Byte)
      (answer : LoRaMacStatus)
  | recv (sock : LorawanSock) (buffers : RecvBuffers) (payloadMaxLen : Byte)
      (timeoutMs : BitVec 32)
  | indication (frame : McpsIndication) (allocated : Bool)
  deriving DecidableEq

inductive Reply
  | socket (sock : LorawanSock)
  | close (code : Int)
  | bind (status : LorawanStatus)
  | send (result : SendResult)
  | recv (result : RecvResult)
  | indication (delivery : Option Delivery)
  deriving DecidableEq

/-- The machine of a build with the given tick rate. -/
def sockets (osTicksPerSec : OsTime) : Machine State Call Reply where
  step state
    | .socket allocated => (lorawanSocket state allocated).map id .socket
    | .close sock => (lorawanClose state sock).map id .close
    | .bind sock devAddr port => (lorawanBind state sock devAddr port).map id .bind
    | .send sock port payload payloadSize answer =>
        (lorawanSend state sock port payload payloadSize answer).map id .send
    | .recv sock buffers payloadMaxLen timeoutMs =>
        (lorawanRecv osTicksPerSec state sock buffers payloadMaxLen timeoutMs).map id .recv
    | .indication frame allocated => (macReceive state frame allocated).map id .indication

section Next

variable (osTicksPerSec : OsTime) (state : State)

@[simp] theorem next_socket (allocated : Bool) :
    (sockets osTicksPerSec).next state (.socket allocated) =
      (lorawanSocket state allocated).1 := rfl

@[simp] theorem next_close (sock : LorawanSock) :
    (sockets osTicksPerSec).next state (.close sock) = (lorawanClose state sock).1 := rfl

@[simp] theorem next_bind (sock : LorawanSock) (devAddr : DevAddr) (port : Port) :
    (sockets osTicksPerSec).next state (.bind sock devAddr port) =
      (lorawanBind state sock devAddr port).1 := rfl

@[simp] theorem next_send (sock : LorawanSock) (port : Port) (payload : Nat)
    (payloadSize : Byte) (answer : LoRaMacStatus) :
    (sockets osTicksPerSec).next state (.send sock port payload payloadSize answer) =
      (lorawanSend state sock port payload payloadSize answer).1 := rfl

@[simp] theorem next_recv (sock : LorawanSock) (buffers : RecvBuffers)
    (payloadMaxLen : Byte) (timeoutMs : BitVec 32) :
    (sockets osTicksPerSec).next state (.recv sock buffers payloadMaxLen timeoutMs) =
      (lorawanRecv osTicksPerSec state sock buffers payloadMaxLen timeoutMs).1 := rfl

@[simp] theorem next_indication (frame : McpsIndication) (allocated : Bool) :
    (sockets osTicksPerSec).next state (.indication frame allocated) =
      (macReceive state frame allocated).1 := rfl

end Next

/-! ## Fields after a write -/

namespace State

variable (state : State) (el : SockEl) (block : Nat) (ev : OsEvent)

@[simp] theorem lSockList_store : (state.store el).lSockList =
    RecordTable.store SockEl.block el state.lSockList := rfl

@[simp] theorem lSockList_discard : (state.discard block).lSockList =
    RecordTable.discard SockEl.block block state.lSockList := rfl

@[simp] theorem lSockList_freeEvent : (state.freeEvent ev).lSockList = state.lSockList := rfl

theorem store_store {first second : SockEl} (sameBlock : first.block = second.block) :
    (state.store first).store second = state.store second := by
  simp [store, RecordTable.store_store sameBlock]

@[simp] theorem deref_eq (pointer : IndicationPointer) :
    state.deref pointer = state.macIndication := rfl

end State

/-! ## What each function can do -/

theorem mem_of_lorawanFindEl {state : State} {sock : LorawanSock} {el : SockEl}
    (found : lorawanFindEl state sock = some el) : el ∈ state.lSockList :=
  List.mem_of_find?_eq_some found

theorem sock_of_lorawanFindEl {state : State} {sock : LorawanSock} {el : SockEl}
    (found : lorawanFindEl state sock = some el) : el.sock = sock := by
  simpa using List.find?_some found

theorem lorawanFindSockByParams_eq (state : State) (devAddr : DevAddr) (port : Port) :
    lorawanFindSockByParams state devAddr port =
      ((state.lSockList.find? fun el =>
        el.devAddr == devAddr && el.ports.contains port).map SockEl.sock).getD 0#32 := by
  cases elements : state.lSockList with
  | nil => simp [lorawanFindSockByParams, elements]
  | cons head tail =>
      simp only [lorawanFindSockByParams, elements, List.isEmpty_cons, Bool.false_eq_true,
        if_false]
      split <;> rename_i search <;> simp [search]

theorem lorawanClose_cases (state : State) (sock : LorawanSock) :
    (∃ code, code ≠ 0 ∧ lorawanClose state sock = (state, code)) ∨
    ∃ el, lorawanFindEl state sock = some el ∧ el.sockEventq = [] ∧
      lorawanClose state sock = (state.discard el.block, 0) := by
  unfold lorawanClose
  split
  next => exact .inl ⟨-1, by decide, rfl⟩
  next el found =>
    by_cases empty : el.sockEventq = []
    · exact .inr ⟨el, found, empty, by simp [empty]⟩
    · exact .inl ⟨-2, by decide, by simp [empty]⟩

theorem lorawanSend_cases (state : State) (sock : LorawanSock) (port : Port)
    (payload : Nat) (payloadSize : Byte) (answer : LoRaMacStatus) :
    (lorawanSend state sock port payload payloadSize answer).1 = state ∨
    ∃ el request, lorawanFindEl state sock = some el ∧
      (lorawanSend state sock port payload payloadSize answer).1 =
        state.store { el with mcpsReq := request } := by
  unfold lorawanSend
  split
  next => exact .inl rfl
  next el found =>
    refine .inr ⟨el, ?_⟩
    dsimp only
    split
    · exact ⟨_, found, rfl⟩
    · split
      · exact ⟨_, found, rfl⟩
      · exact ⟨el.mcpsReq, found, rfl⟩

/-- Past the address check a socket is pinned to the requested address, be it by
this call or by an earlier one. -/
theorem lorawanBind_cases (state : State) (sock : LorawanSock) (devAddr : DevAddr)
    (port : Port) :
    (lorawanFindEl state sock = none ∧
      lorawanBind state sock devAddr port = (state, .invalidSock)) ∨
    ∃ el, lorawanFindEl state sock = some el ∧
      ((¬(el.devAddr = 0#32 ∨ el.devAddr = devAddr) ∧
          lorawanBind state sock devAddr port = (state.store el, .error)) ∨
        ((el.devAddr = 0#32 ∨ el.devAddr = devAddr) ∧
          (port = 0#8 ∨
            lorawanFindSockByParams (state.store { el with devAddr }) devAddr port ≠ 0#32) ∧
          lorawanBind state sock devAddr port =
            (state.store { el with devAddr }, .portAlreadyUsed)) ∨
        ((el.devAddr = 0#32 ∨ el.devAddr = devAddr) ∧ port ≠ 0#8 ∧
          lorawanFindSockByParams (state.store { el with devAddr }) devAddr port = 0#32 ∧
          lorawanBind state sock devAddr port =
            (state.store { el with devAddr, ports := el.ports.add port }, .ok))) := by
  cases found : lorawanFindEl state sock with
  | none => exact .inl ⟨rfl, by simp [lorawanBind, found]⟩
  | some el =>
      refine .inr ⟨el, rfl, ?_⟩
      by_cases unpinnedOrSame : el.devAddr = 0#32 ∨ el.devAddr = devAddr
      · have pinned : (if el.devAddr = 0#32 then { el with devAddr } else el) =
            { el with devAddr } := by
          rcases unpinnedOrSame with zero | same
          · simp [zero]
          · subst same; simp
        have pastAddress : lorawanBind state sock devAddr port =
            if port = 0#8 then (state.store { el with devAddr }, .portAlreadyUsed)
            else if lorawanFindSockByParams (state.store { el with devAddr }) devAddr port ≠ 0#32
            then (state.store { el with devAddr }, .portAlreadyUsed)
            else (state.store { el with devAddr, ports := el.ports.add port }, .ok) := by
          simp only [lorawanBind, found, pinned, ne_eq, not_true_eq_false, if_false]
          rw [State.store_store]
          rfl
        refine .inr ?_
        by_cases portZero : port = 0#8
        · exact .inl ⟨unpinnedOrSame, .inl portZero, by rw [pastAddress, if_pos portZero]⟩
        · rw [if_neg portZero] at pastAddress
          by_cases free :
              lorawanFindSockByParams (state.store { el with devAddr }) devAddr port = 0#32
          · exact .inr ⟨unpinnedOrSame, portZero, free, by
              rw [pastAddress, if_neg (not_not.mpr free)]⟩
          · exact .inl ⟨unpinnedOrSame, .inr free, by rw [pastAddress, if_pos free]⟩
      · refine .inl ⟨unpinnedOrSame, ?_⟩
        rw [not_or] at unpinnedOrSame
        simp only [lorawanBind, found, if_neg unpinnedOrSame.1, ne_eq, unpinnedOrSame.2,
          not_false_eq_true, if_true]

/-- Either nothing is taken and nothing changes, or the oldest event of the
socket's queue is taken and freed, and the MAC's object is copied out. -/
theorem lorawanRecv_cases (osTicksPerSec : OsTime) (state : State) (sock : LorawanSock)
    (buffers : RecvBuffers) (payloadMaxLen : Byte) (timeoutMs : BitVec 32) :
    (∃ returned, lorawanRecv osTicksPerSec state sock buffers payloadMaxLen timeoutMs =
        (state, { returned, buffers, taken := none })) ∨
    ∃ el ev rest size, lorawanFindEl state sock = some el ∧ el.devAddr ≠ 0#32 ∧
      el.ports.firstUsed ≠ 8 ∧ el.sockEventq = ev :: rest ∧
      size = min payloadMaxLen.toNat state.macIndication.bufferSize.toNat ∧
      lorawanRecv osTicksPerSec state sock buffers payloadMaxLen timeoutMs =
        ((state.store { el with
            sockEventq := rest, mcpsInd := state.macIndication }).freeEvent ev,
          { returned := some (BitVec.ofNat 8 size)
            buffers :=
              { devAddr := state.macIndication.devAddr
                port := state.macIndication.port
                payload := memcpy buffers.payload state.macIndication.buffer size }
            taken := some (el.block, ev) }) := by
  cases found : lorawanFindEl state sock with
  | none => exact .inl ⟨some 0#8, by simp [lorawanRecv, found]⟩
  | some el =>
      by_cases unpinned : el.devAddr = 0#32
      · exact .inl ⟨some 0#8, by simp [lorawanRecv, found, unpinned]⟩
      by_cases noPort : el.ports.firstUsed = 8
      · exact .inl ⟨some 0#8, by simp [lorawanRecv, found, unpinned, noPort]⟩
      cases queue : el.sockEventq with
      | nil =>
          refine .inl ?_
          by_cases forever : recvTimo osTicksPerSec timeoutMs = osWaitForever
          · exact ⟨none, by
              simp [lorawanRecv, found, unpinned, noPort, queue, osEventqPoll, forever]⟩
          · exact ⟨some 0#8, by
              simp [lorawanRecv, found, unpinned, noPort, queue, osEventqPoll, forever]⟩
      | cons ev rest =>
          refine .inr ⟨el, ev, rest, _, rfl, unpinned, noPort, queue, rfl, ?_⟩
          by_cases shorter :
              payloadMaxLen.toNat < state.macIndication.bufferSize.toNat
          · simp [lorawanRecv, found, unpinned, noPort, queue, osEventqPoll, shorter,
              Nat.min_eq_left (Nat.le_of_lt shorter)]
          · simp [lorawanRecv, found, unpinned, noPort, queue, osEventqPoll, shorter,
              Nat.min_eq_right (Nat.le_of_not_lt shorter)]

/-- A frame is dispatched when its status is right and the two lookups, couple to
identifier and identifier to record, end at a socket. -/
def State.dispatchesTo (state : State) (frame : McpsIndication) (el : SockEl) : Prop :=
  frame.status = loRaMacEventInfoStatusOk ∧
    lorawanFindEl state (lorawanFindSockByParams state frame.devAddr frame.port) = some el

theorem macReceive_cases (state : State) (frame : McpsIndication) (allocated : Bool) :
    ((allocated = false ∨ ∀ el, ¬state.dispatchesTo frame el) ∧
      macReceive state frame allocated = ({ state with macIndication := frame }, none)) ∨
    ∃ el, allocated = true ∧ state.dispatchesTo frame el ∧
      macReceive state frame allocated =
        ({ state.store { el with
              sockEventq := el.sockEventq ++ [⟨state.eventBlocks, .macIndication⟩] } with
            macIndication := frame
            eventBlocks := state.eventBlocks + 1 },
          some ⟨el.block, ⟨state.eventBlocks, .macIndication⟩⟩) := by
  by_cases statusOk : frame.status = loRaMacEventInfoStatusOk
  · cases found :
        lorawanFindEl state (lorawanFindSockByParams state frame.devAddr frame.port) with
    | none =>
        refine .inl ⟨.inr fun el target => ?_, ?_⟩
        · simpa [found] using target.2
        · change lorawanFindEl { state with macIndication := frame }
            (lorawanFindSockByParams { state with macIndication := frame }
              frame.devAddr frame.port) = none at found
          simp [macReceive, mcpsIndication, statusOk, found]
    | some el =>
        have target : state.dispatchesTo frame el := ⟨statusOk, found⟩
        change lorawanFindEl { state with macIndication := frame }
          (lorawanFindSockByParams { state with macIndication := frame }
            frame.devAddr frame.port) = some el at found
        cases allocated with
        | false =>
            exact .inl ⟨.inl rfl, by simp [macReceive, mcpsIndication, statusOk, found]⟩
        | true =>
            refine .inr ⟨el, rfl, target, ?_⟩
            simp [macReceive, mcpsIndication, statusOk, found, osEventqPut, State.store]
  · refine .inl ⟨.inr fun el target => statusOk target.1, ?_⟩
    simp [macReceive, mcpsIndication, statusOk]

/-! ## What no function writes -/

theorem lorawanClose_frame (state : State) (sock : LorawanSock) :
    ∃ table, (lorawanClose state sock).1 = { state with lSockList := table } := by
  rcases lorawanClose_cases state sock with ⟨code, _, result⟩ | ⟨el, _, _, result⟩
  · exact ⟨state.lSockList, by rw [result]⟩
  · exact ⟨_, by rw [result]; rfl⟩

theorem lorawanBind_frame (state : State) (sock : LorawanSock) (devAddr : DevAddr)
    (port : Port) :
    ∃ table, (lorawanBind state sock devAddr port).1 = { state with lSockList := table } := by
  rcases lorawanBind_cases state sock devAddr port with ⟨_, result⟩ | ⟨el, _, cases⟩
  · exact ⟨state.lSockList, by rw [result]⟩
  · rcases cases with ⟨_, result⟩ | ⟨_, _, result⟩ | ⟨_, _, _, result⟩
    all_goals exact ⟨_, by rw [result]; rfl⟩

theorem lorawanSend_frame (state : State) (sock : LorawanSock) (port : Port)
    (payload : Nat) (payloadSize : Byte) (answer : LoRaMacStatus) :
    ∃ table, (lorawanSend state sock port payload payloadSize answer).1 =
      { state with lSockList := table } := by
  rcases lorawanSend_cases state sock port payload payloadSize answer with
    result | ⟨el, request, _, result⟩
  · exact ⟨state.lSockList, by rw [result]⟩
  · exact ⟨_, by rw [result]; rfl⟩

theorem lorawanRecv_frame (osTicksPerSec : OsTime) (state : State) (sock : LorawanSock)
    (buffers : RecvBuffers) (payloadMaxLen : Byte) (timeoutMs : BitVec 32) :
    ∃ table freed,
      (lorawanRecv osTicksPerSec state sock buffers payloadMaxLen timeoutMs).1 =
        { state with lSockList := table, freedEvents := freed } := by
  rcases lorawanRecv_cases osTicksPerSec state sock buffers payloadMaxLen timeoutMs with
    ⟨_, result⟩ | ⟨el, ev, rest, size, _, _, _, _, _, result⟩
  · exact ⟨state.lSockList, state.freedEvents, by rw [result]⟩
  · exact ⟨_, _, by rw [result]; rfl⟩

theorem macReceive_frame (state : State) (frame : McpsIndication) (allocated : Bool) :
    ∃ table eventBlocks, (macReceive state frame allocated).1 =
      { state with lSockList := table, macIndication := frame, eventBlocks } := by
  rcases macReceive_cases state frame allocated with ⟨_, result⟩ | ⟨el, _, _, result⟩
  · exact ⟨state.lSockList, state.eventBlocks, by rw [result]⟩
  · exact ⟨_, _, by rw [result]; rfl⟩

end Lorawan.Sockets
