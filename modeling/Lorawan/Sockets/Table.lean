import Lorawan.Sockets.System

/-! # Invariants of the socket table

Every run keeps the records in distinct blocks, and `sock_cpt` counts the
successful creations, so that the identifier of a record is its creation number
modulo `2 ^ 32`. Nothing is assumed about the number of sockets created. -/

namespace Lorawan.Sockets

structure State.WellFormed (state : State) : Prop where
  blocks_nodup : (state.lSockList.map SockEl.block).Nodup
  block_lt : ∀ el ∈ state.lSockList, el.block < state.sockBlocks
  sockCpt_eq : state.sockCpt = BitVec.ofNat 32 (state.sockBlocks + 1)
  sock_eq : ∀ el ∈ state.lSockList, el.sock = BitVec.ofNat 32 (el.block + 1)

namespace State.WellFormed

theorem initial : State.initial.WellFormed where
  blocks_nodup := by simp [State.initial]
  block_lt := by simp [State.initial]
  sockCpt_eq := by simp [State.initial]
  sock_eq := by simp [State.initial]

variable {state : State}

theorem mem_blocks {el : SockEl} (member : el ∈ state.lSockList) :
    el.block ∈ state.lSockList.map SockEl.block :=
  List.mem_map_of_mem member

theorem mem_store (old new other : SockEl) (oldMem : old ∈ state.lSockList)
    (sameBlock : new.block = old.block) :
    other ∈ (state.store new).lSockList ↔
      other = new ∨ other ∈ state.lSockList ∧ other.block ≠ old.block := by
  rw [← sameBlock]
  exact RecordTable.mem_store (sameBlock ▸ mem_blocks oldMem)

theorem eq_of_block_eq (wellFormed : state.WellFormed) {left right : SockEl}
    (leftMem : left ∈ state.lSockList) (rightMem : right ∈ state.lSockList)
    (sameBlock : left.block = right.block) : left = right :=
  RecordTable.eq_of_key_eq wellFormed.blocks_nodup leftMem rightMem sameBlock

theorem store_self (wellFormed : state.WellFormed) {el : SockEl}
    (member : el ∈ state.lSockList) : state.store el = state := by
  rw [State.store, RecordTable.store_self wellFormed.blocks_nodup member]

/-- Writing back a record that keeps its block and its identifier. -/
theorem store (wellFormed : state.WellFormed) {old new : SockEl}
    (oldMem : old ∈ state.lSockList) (sameBlock : new.block = old.block)
    (sameSock : new.sock = old.sock) : (state.store new).WellFormed where
  blocks_nodup := by simpa using wellFormed.blocks_nodup
  block_lt := by
    intro other otherMem
    rcases (mem_store old new other oldMem sameBlock).mp otherMem with rfl | ⟨member, _⟩
    · rw [sameBlock]
      exact wellFormed.block_lt old oldMem
    · exact wellFormed.block_lt other member
  sockCpt_eq := wellFormed.sockCpt_eq
  sock_eq := by
    intro other otherMem
    rcases (mem_store old new other oldMem sameBlock).mp otherMem with rfl | ⟨member, _⟩
    · rw [sameBlock, sameSock]
      exact wellFormed.sock_eq old oldMem
    · exact wellFormed.sock_eq other member

/-- The other fields do not matter. -/
theorem congr {other : State} (wellFormed : state.WellFormed)
    (sameList : other.lSockList = state.lSockList) (sameCpt : other.sockCpt = state.sockCpt)
    (sameBlocks : other.sockBlocks = state.sockBlocks) : other.WellFormed where
  blocks_nodup := by rw [sameList]; exact wellFormed.blocks_nodup
  block_lt := by rw [sameList, sameBlocks]; exact wellFormed.block_lt
  sockCpt_eq := by rw [sameCpt, sameBlocks]; exact wellFormed.sockCpt_eq
  sock_eq := by rw [sameList]; exact wellFormed.sock_eq

theorem discard (wellFormed : state.WellFormed) (block : Nat) :
    (state.discard block).WellFormed where
  blocks_nodup := RecordTable.nodup_discard wellFormed.blocks_nodup
  block_lt := fun el member => wellFormed.block_lt el (RecordTable.mem_discard.mp member).1
  sockCpt_eq := wellFormed.sockCpt_eq
  sock_eq := fun el member => wellFormed.sock_eq el (RecordTable.mem_discard.mp member).1

theorem lorawanSocket (wellFormed : state.WellFormed) (allocated : Bool) :
    (lorawanSocket state allocated).1.WellFormed := by
  cases allocated with
  | false => exact wellFormed
  | true =>
      have fresh : state.sockBlocks ∉ state.lSockList.map SockEl.block := by
        intro member
        rcases List.mem_map.mp member with ⟨el, elMem, equal⟩
        exact Nat.lt_irrefl _ (equal ▸ wellFormed.block_lt el elMem)
      constructor
      case blocks_nodup => exact List.nodup_cons.mpr ⟨fresh, wellFormed.blocks_nodup⟩
      case block_lt =>
        intro el member
        rcases List.mem_cons.mp member with rfl | member
        · exact Nat.lt_succ_self _
        · exact Nat.lt_succ_of_lt (wellFormed.block_lt el member)
      case sockCpt_eq =>
        change state.sockCpt + 1#32 = BitVec.ofNat 32 (state.sockBlocks + 1 + 1)
        rw [wellFormed.sockCpt_eq, BitVec.ofNat_add (state.sockBlocks + 1) 1]
      case sock_eq =>
        intro el member
        rcases List.mem_cons.mp member with rfl | member
        · exact wellFormed.sockCpt_eq
        · exact wellFormed.sock_eq el member

/-- Every step keeps the table well formed. -/
theorem next (osTicksPerSec : OsTime) (wellFormed : state.WellFormed) (call : Call) :
    ((sockets osTicksPerSec).next state call).WellFormed := by
  cases call with
  | socket allocated => exact wellFormed.lorawanSocket allocated
  | close sock =>
      rw [next_close]
      rcases lorawanClose_cases state sock with ⟨code, _, result⟩ | ⟨el, _, _, result⟩
      · simpa [result] using wellFormed
      · simpa [result] using wellFormed.discard el.block
  | bind sock devAddr port =>
      rw [next_bind]
      rcases lorawanBind_cases state sock devAddr port with ⟨_, result⟩ | ⟨el, found, cases⟩
      · simpa [result] using wellFormed
      · have member := mem_of_lorawanFindEl found
        rcases cases with ⟨_, result⟩ | ⟨_, _, result⟩ | ⟨_, _, _, result⟩
        all_goals rw [result]
        · exact wellFormed.store member rfl rfl
        · exact wellFormed.store member rfl rfl
        · exact wellFormed.store member rfl rfl
  | send sock port payload payloadSize answer =>
      rw [next_send]
      rcases lorawanSend_cases state sock port payload payloadSize answer with
        result | ⟨el, request, found, result⟩
      · simpa [result] using wellFormed
      · rw [result]
        exact wellFormed.store (mem_of_lorawanFindEl found) rfl rfl
  | recv sock buffers payloadMaxLen timeoutMs =>
      rw [next_recv]
      rcases lorawanRecv_cases osTicksPerSec state sock buffers payloadMaxLen timeoutMs with
        ⟨_, result⟩ | ⟨el, ev, rest, size, found, _, _, _, _, result⟩
      · simpa [result] using wellFormed
      · have stored : (state.store { el with
            sockEventq := rest, mcpsInd := state.macIndication }).WellFormed :=
          wellFormed.store (mem_of_lorawanFindEl found) rfl rfl
        rw [result]
        exact stored.congr rfl rfl rfl
  | indication frame allocated =>
      rw [next_indication]
      rcases macReceive_cases state frame allocated with ⟨_, result⟩ | ⟨el, _, target, result⟩
      · rw [result]
        exact wellFormed.congr rfl rfl rfl
      · have stored : (state.store { el with
            sockEventq := el.sockEventq ++ [⟨state.eventBlocks, .macIndication⟩] }).WellFormed :=
          wellFormed.store (mem_of_lorawanFindEl target.2) rfl rfl
        rw [result]
        exact stored.congr rfl rfl rfl

theorem run (osTicksPerSec : OsTime) (calls : List Call) :
    ((sockets osTicksPerSec).run State.initial calls).WellFormed :=
  (sockets osTicksPerSec).run_invariant State.WellFormed
    (fun _ call wellFormed => wellFormed.next osTicksPerSec call) calls State.initial initial

end State.WellFormed

/-! ## Bindings

`lorawan_socket`, `lorawan_close` and `lorawan_bind` are the only functions that
change which couples the sockets hold. -/

/-- The part of a record that decides which packets it gets. -/
structure Binding where
  block : Nat
  sock : LorawanSock
  devAddr : DevAddr
  ports : Ports

def SockEl.binding (el : SockEl) : Binding :=
  { block := el.block, sock := el.sock, devAddr := el.devAddr, ports := el.ports }

def State.bindings (state : State) : List Binding :=
  state.lSockList.map SockEl.binding

variable {state : State}

theorem State.WellFormed.bindings_store (wellFormed : state.WellFormed) (old new : SockEl)
    (oldMem : old ∈ state.lSockList) (same : new.binding = old.binding) :
    (state.store new).bindings = state.bindings :=
  RecordTable.map_store wellFormed.blocks_nodup oldMem (congrArg Binding.block same) same

theorem State.WellFormed.bindings_send (wellFormed : state.WellFormed) (sock : LorawanSock)
    (port : Port) (payload : Nat) (payloadSize : Byte) (answer : LoRaMacStatus) :
    (lorawanSend state sock port payload payloadSize answer).1.bindings = state.bindings := by
  rcases lorawanSend_cases state sock port payload payloadSize answer with
    result | ⟨el, request, found, result⟩
  · rw [result]
  · rw [result]
    exact wellFormed.bindings_store el _ (mem_of_lorawanFindEl found) rfl

theorem State.WellFormed.bindings_recv (wellFormed : state.WellFormed)
    (osTicksPerSec : OsTime) (sock : LorawanSock) (buffers : RecvBuffers)
    (payloadMaxLen : Byte) (timeoutMs : BitVec 32) :
    (lorawanRecv osTicksPerSec state sock buffers payloadMaxLen timeoutMs).1.bindings =
      state.bindings := by
  rcases lorawanRecv_cases osTicksPerSec state sock buffers payloadMaxLen timeoutMs with
    ⟨_, result⟩ | ⟨el, ev, rest, size, found, _, _, _, _, result⟩
  · rw [result]
  · rw [result]
    exact wellFormed.bindings_store el { el with
      sockEventq := rest, mcpsInd := state.macIndication } (mem_of_lorawanFindEl found) rfl

theorem State.WellFormed.bindings_indication (wellFormed : state.WellFormed)
    (frame : McpsIndication) (allocated : Bool) :
    (macReceive state frame allocated).1.bindings = state.bindings := by
  rcases macReceive_cases state frame allocated with ⟨_, result⟩ | ⟨el, _, target, result⟩
  · rw [result]
    rfl
  · rw [result]
    exact wellFormed.bindings_store el { el with
      sockEventq := el.sockEventq ++ [⟨state.eventBlocks, .macIndication⟩] }
      (mem_of_lorawanFindEl target.2) rfl

/-- A lookup by couple ends at a holder of the couple, or nobody holds it. -/
theorem lorawanFindSockByParams_cases (state : State) (devAddr : DevAddr) (port : Port) :
    (∃ el ∈ state.lSockList, el.devAddr = devAddr ∧ el.ports.contains port = true ∧
      lorawanFindSockByParams state devAddr port = el.sock) ∨
    (∀ el ∈ state.lSockList, el.devAddr = devAddr → el.ports.contains port = false) ∧
      lorawanFindSockByParams state devAddr port = 0#32 := by
  rw [lorawanFindSockByParams_eq]
  cases search : state.lSockList.find? fun el =>
      el.devAddr == devAddr && el.ports.contains port with
  | none =>
      refine .inr ⟨fun el member sameAddr => ?_, rfl⟩
      simpa [sameAddr] using List.find?_eq_none.mp search el member
  | some el =>
      have holds : el.devAddr = devAddr ∧ el.ports.contains port = true := by
        simpa using List.find?_some search
      exact .inl ⟨el, List.mem_of_find?_eq_some search, holds.1, holds.2, rfl⟩

end Lorawan.Sockets
