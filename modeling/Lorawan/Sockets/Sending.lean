import Lorawan.Library.Concealment
import Lorawan.Sockets.Table

/-! # Sending

`lorawan_send` fills in the request of its socket, which `lorawan_socket` has prepared, and
passes it to the MAC. Nothing else reads a request, and nothing changes its type. -/

namespace Lorawan.Sockets

/-- Every socket's request is for an unconfirmed frame at `DR_5`. -/
def State.Prepared (state : State) : Prop :=
  ∀ el ∈ state.lSockList, el.mcpsReq.type = .unconfirmed ∧ el.mcpsReq.datarate = 5#8

namespace State.Prepared

variable {state : State}

theorem initial : State.initial.Prepared := by
  intro el member
  simp [State.initial] at member

theorem store (prepared : state.Prepared) {old new : SockEl} (oldMem : old ∈ state.lSockList)
    (sameBlock : new.block = old.block)
    (keeps : new.mcpsReq.type = .unconfirmed ∧ new.mcpsReq.datarate = 5#8) :
    (state.store new).Prepared := by
  intro el member
  rcases (State.WellFormed.mem_store old new el oldMem sameBlock).mp member with
    rfl | ⟨member, _⟩
  · exact keeps
  · exact prepared el member

/-- The request as the MAC gets it. -/
def request (port : Port) (payload : Nat) (payloadSize : Byte) : McpsReq where
  type := .unconfirmed
  fPort := port
  fBuffer := payload
  fBufferSize := payloadSize
  datarate := 5#8

/-- On a prepared socket the branch for confirmed frames is never taken, and the MAC is
always asked. -/
theorem lorawanSend_cases (prepared : state.Prepared) (sock : LorawanSock) (port : Port)
    (payload : Nat) (payloadSize : Byte) (answer : LoRaMacStatus) :
    (lorawanFindEl state sock = none ∧
        lorawanSend state sock port payload payloadSize answer =
          (state, { status := .invalidSock, requests := [] })) ∨
      ∃ el, lorawanFindEl state sock = some el ∧
        lorawanSend state sock port payload payloadSize answer =
          (state.store { el with mcpsReq := request port payload payloadSize },
            { status := if answer = LoRaMacStatus.ok then .ok else .error
              requests := [request port payload payloadSize] }) := by
  cases found : lorawanFindEl state sock with
  | none => exact .inl ⟨rfl, by simp [lorawanSend, found]⟩
  | some el =>
      rcases prepared el (mem_of_lorawanFindEl found) with ⟨unconfirmed, rate⟩
      refine .inr ⟨el, rfl, ?_⟩
      simp [lorawanSend, found, unconfirmed, request, rate]

theorem next (prepared : state.Prepared) (osTicksPerSec : OsTime) (call : Call) :
    ((sockets osTicksPerSec).next state call).Prepared := by
  cases call with
  | socket allocated =>
      cases allocated with
      | false => exact prepared
      | true =>
          intro el member
          rcases List.mem_cons.mp member with rfl | member
          · exact ⟨rfl, rfl⟩
          · exact prepared el member
  | close sock =>
      rw [next_close]
      rcases lorawanClose_cases state sock with ⟨_, _, result⟩ | ⟨el, _, _, result⟩
      · rw [result]
        exact prepared
      · rw [result]
        exact fun other member => prepared other (RecordTable.mem_discard.mp member).1
  | bind sock devAddr port =>
      rw [next_bind]
      rcases lorawanBind_cases state sock devAddr port with ⟨_, result⟩ | ⟨el, found, cases⟩
      · rw [result]
        exact prepared
      · have member := mem_of_lorawanFindEl found
        have keeps := prepared el member
        rcases cases with ⟨_, result⟩ | ⟨_, _, result⟩ | ⟨_, _, _, result⟩
        all_goals rw [result]
        · exact prepared.store member rfl keeps
        · exact prepared.store member rfl keeps
        · exact prepared.store member rfl keeps
  | send sock port payload payloadSize answer =>
      rw [next_send]
      rcases prepared.lorawanSend_cases sock port payload payloadSize answer with
        ⟨_, result⟩ | ⟨el, found, result⟩
      · rw [result]
        exact prepared
      · rw [result]
        exact prepared.store (mem_of_lorawanFindEl found) rfl ⟨rfl, rfl⟩
  | recv sock buffers payloadMaxLen timeoutMs =>
      rw [next_recv]
      rcases lorawanRecv_cases osTicksPerSec state sock buffers payloadMaxLen timeoutMs with
        ⟨_, result⟩ | ⟨el, ev, rest, size, found, _, _, _, _, result⟩
      · rw [result]
        exact prepared
      · have member := mem_of_lorawanFindEl found
        have stored : (state.store { el with
            sockEventq := rest, mcpsInd := state.macIndication }).Prepared :=
          prepared.store member rfl (prepared el member)
        rw [result]
        exact stored
  | indication frame allocated =>
      rw [next_indication]
      rcases macReceive_cases state frame allocated with ⟨_, result⟩ | ⟨el, _, target, result⟩
      · rw [result]
        exact prepared
      · have member := mem_of_lorawanFindEl target.2
        have stored : (state.store { el with
            sockEventq := el.sockEventq ++ [⟨state.eventBlocks, .macIndication⟩] }).Prepared :=
          prepared.store member rfl (prepared el member)
        rw [result]
        exact stored

end State.Prepared

/-- In every reachable state a send on a socket that is open hands the MAC one request, for an
unconfirmed frame at `DR_5` with the given arguments, whatever the socket sent before, and its
status says whether the MAC accepted it. Only the socket's own request changes. On any other
identifier nothing is asked and nothing changes. -/
theorem send_asks_unconfirmed (osTicksPerSec : OsTime) (calls : List Call) (sock : LorawanSock)
    (port : Port) (payload : Nat) (payloadSize : Byte) (answer : LoRaMacStatus) :
    let state := (sockets osTicksPerSec).run State.initial calls
    let request : McpsReq :=
      { type := .unconfirmed
        fPort := port
        fBuffer := payload
        fBufferSize := payloadSize
        datarate := 5#8 }
    (lorawanFindEl state sock = none ∧
        lorawanSend state sock port payload payloadSize answer =
          (state, { status := .invalidSock, requests := [] })) ∨
      ∃ el, lorawanFindEl state sock = some el ∧
        lorawanSend state sock port payload payloadSize answer =
          (state.store { el with mcpsReq := request },
            { status := if answer = LoRaMacStatus.ok then .ok else .error
              requests := [request] }) := by
  intro state request
  have prepared : state.Prepared :=
    (sockets osTicksPerSec).run_invariant State.Prepared
      (fun _ call prepared => prepared.next osTicksPerSec call) calls State.initial
      State.Prepared.initial
  exact prepared.lorawanSend_cases sock port payload payloadSize answer

/-! ## What the other functions see of the requests -/

def SockEl.withoutRequest (el : SockEl) : SockEl := { el with mcpsReq := lorawanInitMcps }

def State.withoutRequests (state : State) : State :=
  { state with lSockList := state.lSockList.map SockEl.withoutRequest }

theorem SockEl.block_withoutRequest (el : SockEl) : el.withoutRequest.block = el.block := rfl

section WithoutRequests

variable (state : State)

theorem lorawanFindEl_withoutRequests (sock : LorawanSock) :
    lorawanFindEl state.withoutRequests sock =
      (lorawanFindEl state sock).map SockEl.withoutRequest :=
  List.find?_map

theorem lorawanFindSockByParams_withoutRequests (devAddr : DevAddr) (port : Port) :
    lorawanFindSockByParams state.withoutRequests devAddr port =
      lorawanFindSockByParams state devAddr port := by
  have searched : state.withoutRequests.lSockList.find?
        (fun el => el.devAddr == devAddr && el.ports.contains port) =
      (state.lSockList.find? fun el =>
        el.devAddr == devAddr && el.ports.contains port).map SockEl.withoutRequest :=
    List.find?_map
  rw [lorawanFindSockByParams_eq, lorawanFindSockByParams_eq, searched, Option.map_map]
  rfl

theorem store_withoutRequests (el : SockEl) :
    (state.store el).withoutRequests = state.withoutRequests.store el.withoutRequest := by
  have carried : (RecordTable.store SockEl.block el state.lSockList).map SockEl.withoutRequest =
      RecordTable.store SockEl.block el.withoutRequest
        (state.lSockList.map SockEl.withoutRequest) :=
    RecordTable.map_store_comm SockEl.withoutRequest SockEl.block_withoutRequest el _
  simp only [State.withoutRequests, State.store, carried]

theorem discard_withoutRequests (block : Nat) :
    (state.discard block).withoutRequests = state.withoutRequests.discard block := by
  have carried : (RecordTable.discard SockEl.block block state.lSockList).map
        SockEl.withoutRequest =
      RecordTable.discard SockEl.block block (state.lSockList.map SockEl.withoutRequest) :=
    RecordTable.map_discard_comm SockEl.withoutRequest SockEl.block_withoutRequest block _
  simp only [State.withoutRequests, State.discard, carried]

theorem lorawanSocket_withoutRequests (allocated : Bool) :
    lorawanSocket state.withoutRequests allocated =
      (lorawanSocket state allocated).map State.withoutRequests id := by
  cases allocated <;> rfl

theorem lorawanClose_withoutRequests (sock : LorawanSock) :
    lorawanClose state.withoutRequests sock =
      (lorawanClose state sock).map State.withoutRequests id := by
  unfold lorawanClose
  rw [lorawanFindEl_withoutRequests]
  cases lorawanFindEl state sock with
  | none => rfl
  | some el =>
      by_cases empty : el.sockEventq = []
      · simp [SockEl.withoutRequest, empty, discard_withoutRequests]
      · simp [SockEl.withoutRequest, empty]

theorem lorawanBind_withoutRequests (sock : LorawanSock) (devAddr : DevAddr) (port : Port) :
    lorawanBind state.withoutRequests sock devAddr port =
      (lorawanBind state sock devAddr port).map State.withoutRequests id := by
  unfold lorawanBind
  rw [lorawanFindEl_withoutRequests]
  cases lorawanFindEl state sock with
  | none => rfl
  | some el =>
      dsimp only [Option.map_some]
      have pinned : (if el.withoutRequest.devAddr = 0#32 then
            { el.withoutRequest with devAddr } else el.withoutRequest) =
          (if el.devAddr = 0#32 then { el with devAddr } else el).withoutRequest := by
        by_cases zero : el.devAddr = 0#32 <;> simp [SockEl.withoutRequest, zero]
      rw [pinned]
      generalize (if el.devAddr = 0#32 then { el with devAddr } else el) = el
      have added : { el.withoutRequest with ports := el.withoutRequest.ports.add port } =
          ({ el with ports := el.ports.add port } : SockEl).withoutRequest := rfl
      rw [← store_withoutRequests, lorawanFindSockByParams_withoutRequests, added,
        ← store_withoutRequests]
      change (if el.devAddr ≠ devAddr then _ else _) = _
      split
      · rfl
      · split
        · rfl
        · split <;> rfl

theorem lorawanRecv_withoutRequests (osTicksPerSec : OsTime) (sock : LorawanSock)
    (buffers : RecvBuffers) (payloadMaxLen : Byte) (timeoutMs : BitVec 32) :
    lorawanRecv osTicksPerSec state.withoutRequests sock buffers payloadMaxLen timeoutMs =
      (lorawanRecv osTicksPerSec state sock buffers payloadMaxLen timeoutMs).map
        State.withoutRequests id := by
  unfold lorawanRecv
  rw [lorawanFindEl_withoutRequests]
  cases lorawanFindEl state sock with
  | none => rfl
  | some el =>
      dsimp only [Option.map_some, SockEl.withoutRequest]
      split
      · rfl
      · split
        · rfl
        · cases osEventqPoll el.sockEventq (recvTimo osTicksPerSec timeoutMs) with
          | waiting => rfl
          | timeout => rfl
          | event ev rest =>
              have stored := store_withoutRequests state
                { el with sockEventq := rest, mcpsInd := state.deref ev.evArg }
              exact Prod.ext (congrArg (fun state => state.freeEvent ev) stored.symm) rfl

theorem macReceive_withoutRequests (frame : McpsIndication) (allocated : Bool) :
    macReceive state.withoutRequests frame allocated =
      (macReceive state frame allocated).map State.withoutRequests id := by
  unfold macReceive mcpsIndication
  have received : { state.withoutRequests with macIndication := frame } =
      { state with macIndication := frame }.withoutRequests := rfl
  rw [received]
  generalize ({ state with macIndication := frame } : State) = state
  have sameObject : state.withoutRequests.macIndication = state.macIndication := rfl
  simp only [State.deref_eq]
  rw [sameObject, lorawanFindSockByParams_withoutRequests, lorawanFindEl_withoutRequests]
  split
  · rfl
  · cases lorawanFindEl state (lorawanFindSockByParams state state.macIndication.devAddr
      state.macIndication.port) with
    | none => rfl
    | some el =>
        cases allocated with
        | false => rfl
        | true =>
            let ev : OsEvent := ⟨state.eventBlocks, .macIndication⟩
            have stored := store_withoutRequests state
              { el with sockEventq := osEventqPut el.sockEventq ev }
            exact Prod.ext (congrArg (fun stored : State =>
              { stored with eventBlocks := state.eventBlocks + 1 }) stored.symm) rfl

end WithoutRequests

/-- A send is hidden from all other calls. -/
def Call.isSend : Call → Bool
  | .send _ _ _ _ _ => true
  | _ => false

theorem State.WellFormed.lorawanSend_withoutRequests {state : State}
    (wellFormed : state.WellFormed) (sock : LorawanSock) (port : Port) (payload : Nat)
    (payloadSize : Byte) (answer : LoRaMacStatus) :
    (lorawanSend state sock port payload payloadSize answer).1.withoutRequests =
      state.withoutRequests := by
  rcases lorawanSend_cases state sock port payload payloadSize answer with
    result | ⟨el, request, found, result⟩
  · rw [result]
  · have kept : (RecordTable.store SockEl.block { el with mcpsReq := request }
          state.lSockList).map SockEl.withoutRequest =
        state.lSockList.map SockEl.withoutRequest :=
      RecordTable.map_store wellFormed.blocks_nodup (mem_of_lorawanFindEl found) rfl rfl
    rw [result]
    simp only [State.withoutRequests, State.store, kept]

theorem step_withoutRequests (osTicksPerSec : OsTime) (state : State) {call : Call}
    (other : call.isSend = false) :
    (sockets osTicksPerSec).step state.withoutRequests call =
      ((sockets osTicksPerSec).step state call).map State.withoutRequests id := by
  cases call with
  | socket allocated =>
      change Prod.map _ _ (lorawanSocket state.withoutRequests allocated) = _
      rw [lorawanSocket_withoutRequests]
      rfl
  | close sock =>
      change Prod.map _ _ (lorawanClose state.withoutRequests sock) = _
      rw [lorawanClose_withoutRequests]
      rfl
  | bind sock devAddr port =>
      change Prod.map _ _ (lorawanBind state.withoutRequests sock devAddr port) = _
      rw [lorawanBind_withoutRequests]
      rfl
  | send _ _ _ _ _ => exact absurd other (by simp [Call.isSend])
  | recv sock buffers payloadMaxLen timeoutMs =>
      change Prod.map _ _ (lorawanRecv osTicksPerSec state.withoutRequests sock buffers
        payloadMaxLen timeoutMs) = _
      rw [lorawanRecv_withoutRequests]
      rfl
  | indication frame allocated =>
      change Prod.map _ _ (macReceive state.withoutRequests frame allocated) = _
      rw [macReceive_withoutRequests]
      rfl

def sendsHidden (osTicksPerSec : OsTime) : (sockets osTicksPerSec).Concealment where
  hidden := Call.isSend
  forget := State.withoutRequests
  invariant := State.WellFormed
  preserved := fun _ call wellFormed => wellFormed.next osTicksPerSec call
  forget_hidden := by
    intro state call wellFormed isSend
    cases call with
    | send sock port payload payloadSize answer =>
        exact wellFormed.lorawanSend_withoutRequests sock port payload payloadSize answer
    | _ => exact absurd isSend (by simp [Call.isSend])
  forget_visible := by
    intro state call _ other
    exact (congrArg Prod.fst (step_withoutRequests osTicksPerSec state other)).symm
  reply_forget := by
    intro state call _ other
    exact (congrArg Prod.snd (step_withoutRequests osTicksPerSec state other)).symm

/-- Sending never shows in what the other functions answer: they answer in any run as they do
in the run without its sends. -/
theorem sends_invisible (osTicksPerSec : OsTime) (calls : List Call) :
    ((sockets osTicksPerSec).trace State.initial calls).filter (fun event => !event.1.isSend) =
      (sockets osTicksPerSec).trace State.initial (calls.filter fun call => !call.isSend) :=
  (sendsHidden osTicksPerSec).trace_filter calls State.initial State.WellFormed.initial

end Lorawan.Sockets
