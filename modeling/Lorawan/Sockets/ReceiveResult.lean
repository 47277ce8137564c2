import Lorawan.Sockets.Events

/-! # What the result of `lorawan_recv` tells

The header promises the "size of data received. 0 if timeout occurs". A frame without
payload is received like any other, and its size is 0 as well. -/

namespace Lorawan.Sockets

/-- The call took no event and wrote nowhere. -/
structure NothingConsumed (state : State) (buffers : RecvBuffers)
    (outcome : State × RecvResult) : Prop where
  noEvent : outcome.2.taken = none
  buffersKept : outcome.2.buffers = buffers
  queuesKept : outcome.1.queues = state.queues

/-- The call took the oldest event `ev` of `el`, and wrote its address, its port and `n`
bytes of its payload. -/
structure Consumed (state : State) (buffers : RecvBuffers) (payloadMaxLen : Byte)
    (outcome : State × RecvResult) (n : Nat) (el : SockEl) (ev : OsEvent)
    (rest : List OsEvent) : Prop where
  oldest : el.sockEventq = ev :: rest
  taken : outcome.2.taken = some (el.block, ev)
  count : n = min payloadMaxLen.toNat (state.deref ev.evArg).bufferSize.toNat
  devAddrWritten : outcome.2.buffers.devAddr = (state.deref ev.evArg).devAddr
  portWritten : outcome.2.buffers.port = (state.deref ev.evArg).port
  payloadWritten :
    outcome.2.buffers.payload.take n = (state.deref ev.evArg).buffer.take n
  payloadKept : ∀ index, n ≤ index → outcome.2.buffers.payload[index]? = buffers.payload[index]?
  queuesElse : outcome.1.queues = RecordTable.store Prod.fst (el.block, rest) state.queues
  socketsKept : ∀ other, other.block ≠ el.block →
    (other ∈ outcome.1.lSockList ↔ other ∈ state.lSockList)

/-- A call that returns 0 has consumed nothing, and only such a call does; any other
result is the size of what was consumed. A call that sleeps has not returned. -/
def Reports (state : State) (sock : LorawanSock) (buffers : RecvBuffers) (payloadMaxLen : Byte)
    (outcome : State × RecvResult) : Prop :=
  ∀ n, outcome.2.returned = some n →
    (n = 0#8 ↔ NothingConsumed state buffers outcome) ∧
    (n ≠ 0#8 → ∃ el ev rest, lorawanFindEl state sock = some el ∧
      Consumed state buffers payloadMaxLen outcome n.toNat el ev rest)

/-- The call passes its guards, and the oldest event is that of a frame without
payload. -/
def State.EmptyFrameQueued (state : State) (sock : LorawanSock) : Prop :=
  ∃ el ev rest, lorawanFindEl state sock = some el ∧ el.devAddr ≠ 0#32 ∧
    el.ports.firstUsed ≠ 8 ∧ el.sockEventq = ev :: rest ∧
    (state.deref ev.evArg).bufferSize = 0#8

/-- A call that takes nothing returns 0, if it returns, and had nothing to take. -/
theorem lorawanRecv_of_not_taken (osTicksPerSec : OsTime) (state : State) (sock : LorawanSock)
    (buffers : RecvBuffers) (payloadMaxLen : Byte) (timeoutMs : BitVec 32)
    (noEvent : (lorawanRecv osTicksPerSec state sock buffers payloadMaxLen timeoutMs).2.taken =
      none) :
    ((lorawanRecv osTicksPerSec state sock buffers payloadMaxLen timeoutMs).2.returned = none ∨
      (lorawanRecv osTicksPerSec state sock buffers payloadMaxLen timeoutMs).2.returned =
        some 0#8) ∧
      ¬state.EmptyFrameQueued sock := by
  cases found : lorawanFindEl state sock with
  | none =>
      refine ⟨by simp [lorawanRecv, found], ?_⟩
      intro queued
      rcases queued with ⟨el, _, _, otherFound, _⟩
      rw [found] at otherFound
      contradiction
  | some el =>
      have same : ∀ other, lorawanFindEl state sock = some other → other = el := by
        intro other otherFound
        exact Option.some.inj (otherFound.symm.trans found)
      by_cases unpinned : el.devAddr = 0#32
      · refine ⟨by simp [lorawanRecv, found, unpinned], ?_⟩
        intro queued
        rcases queued with ⟨other, _, _, otherFound, pinned, _⟩
        rw [same other otherFound] at pinned
        exact pinned unpinned
      by_cases noPort : el.ports.firstUsed = 8
      · refine ⟨by simp [lorawanRecv, found, unpinned, noPort], ?_⟩
        intro queued
        rcases queued with ⟨other, _, _, otherFound, _, ported, _⟩
        rw [same other otherFound] at ported
        exact ported noPort
      cases queue : el.sockEventq with
      | nil =>
          constructor
          · by_cases forever : recvTimo osTicksPerSec timeoutMs = osWaitForever
            · simp [lorawanRecv, found, unpinned, noPort, queue, osEventqPoll, forever]
            · simp [lorawanRecv, found, unpinned, noPort, queue, osEventqPoll, forever]
          · intro queued
            rcases queued with ⟨other, ev, rest, otherFound, _, _, otherQueue, _⟩
            rw [same other otherFound, queue] at otherQueue
            contradiction
      | cons ev rest =>
          simp [lorawanRecv, found, unpinned, noPort, queue, osEventqPoll] at noEvent

/-- The bytes that the copy writes, and those that it leaves. -/
theorem memcpy_payload (indication : McpsIndication) (payload : List Byte) {size : Nat}
    (bound : size ≤ indication.bufferSize.toNat) :
    (memcpy payload indication.buffer size).take size = indication.buffer.take size ∧
      ∀ index, size ≤ index →
        (memcpy payload indication.buffer size)[index]? = payload[index]? := by
  have held := indication.buffer_holds
  have whole : (indication.buffer.take size).length = size := by
    rw [List.length_take]
    omega
  refine ⟨List.take_left' whole, ?_⟩
  intro index beyond
  rw [memcpy, List.getElem?_append_right (by omega), List.getElem?_drop, whole,
    Nat.add_sub_cancel' beyond]

theorem consumed_of_event {state : State} {el : SockEl} (member : el ∈ state.lSockList)
    {ev : OsEvent} {rest : List OsEvent} (queue : el.sockEventq = ev :: rest)
    (buffers : RecvBuffers) (payloadMaxLen : Byte) {size : Nat}
    (bound : size = min payloadMaxLen.toNat state.macIndication.bufferSize.toNat)
    (returned : Option Byte) :
    Consumed state buffers payloadMaxLen
      ((state.store { el with sockEventq := rest, mcpsInd := state.macIndication }).freeEvent ev,
        { returned
          buffers :=
            { devAddr := state.macIndication.devAddr
              port := state.macIndication.port
              payload := memcpy buffers.payload state.macIndication.buffer size }
          taken := some (el.block, ev) })
      size el ev rest := by
  have copied := memcpy_payload state.macIndication buffers.payload
    (bound ▸ Nat.min_le_right _ _ : size ≤ state.macIndication.bufferSize.toNat)
  exact {
    oldest := queue
    taken := rfl
    count := bound
    devAddrWritten := rfl
    portWritten := rfl
    payloadWritten := copied.1
    payloadKept := copied.2
    queuesElse := State.queues_store state _
    socketsKept := by
      intro other different
      have stored := State.WellFormed.mem_store el
        { el with sockEventq := rest, mcpsInd := state.macIndication } other member rfl
      constructor
      · intro otherMem
        rcases stored.mp otherMem with rfl | ⟨otherMem, _⟩
        · exact absurd rfl different
        · exact otherMem
      · intro otherMem
        exact stored.mpr (Or.inr ⟨otherMem, different⟩)
  }

theorem reports_iff (osTicksPerSec : OsTime) (state : State) (sock : LorawanSock)
    (buffers : RecvBuffers) (payloadMaxLen : Byte) (timeoutMs : BitVec 32)
    (room : payloadMaxLen ≠ 0#8) :
    Reports state sock buffers payloadMaxLen
        (lorawanRecv osTicksPerSec state sock buffers payloadMaxLen timeoutMs) ↔
      ¬state.EmptyFrameQueued sock := by
  rcases lorawanRecv_cases osTicksPerSec state sock buffers payloadMaxLen timeoutMs with
    ⟨returned, result⟩ | ⟨el, ev, rest, size, found, pinned, ported, queue, bound, result⟩
  · have quiet := lorawanRecv_of_not_taken osTicksPerSec state sock buffers payloadMaxLen timeoutMs
      (by rw [result])
    rw [result] at quiet ⊢
    rcases quiet with ⟨zero, noFrame⟩
    refine ⟨fun _ => noFrame, fun _ => ?_⟩
    intro n returns
    have isZero : n = 0#8 := by
      rcases zero with sleeps | zero
      · exact absurd (sleeps.symm.trans returns) (by simp)
      · exact Option.some.inj (returns.symm.trans zero)
    refine ⟨⟨fun _ => ?_, fun _ => isZero⟩, fun nonzero => absurd isZero nonzero⟩
    exact { noEvent := rfl, buffersKept := rfl, queuesKept := rfl }
  · have small : (BitVec.ofNat 8 size).toNat = size := by
      rw [BitVec.toNat_ofNat]
      exact Nat.mod_eq_of_lt (by omega)
    have positive : payloadMaxLen.toNat ≠ 0 := fun zero => room (BitVec.eq_of_toNat_eq zero)
    have consumed := consumed_of_event (mem_of_lorawanFindEl found) queue buffers payloadMaxLen
      bound (some (BitVec.ofNat 8 size))
    rw [result]
    constructor
    · intro reports frame
      rcases frame with ⟨other, otherEv, otherRest, _, _, _, _, empty⟩
      have empty : state.macIndication.bufferSize.toNat = 0 := congrArg BitVec.toNat empty
      have sizeZero : size = 0 := by omega
      have nothing := (reports 0#8 (by rw [sizeZero])).1.mp rfl
      exact absurd nothing.noEvent (by simp)
    · intro noFrame n returns
      rcases Option.some.inj returns with rfl
      have payload : state.macIndication.bufferSize.toNat ≠ 0 := fun empty =>
        noFrame ⟨el, ev, rest, found, pinned, ported, queue, BitVec.eq_of_toNat_eq empty⟩
      have nonzero : BitVec.ofNat 8 size ≠ 0#8 := by
        intro zero
        have sizeZero := congrArg BitVec.toNat zero
        rw [small, BitVec.toNat_ofNat] at sizeZero
        omega
      rw [small]
      refine ⟨⟨fun zero => absurd zero nonzero, fun nothing => ?_⟩, fun _ => ?_⟩
      · exact absurd nothing.noEvent (by simp)
      · exact ⟨el, ev, rest, found, consumed⟩

/-- In every reachable state the result of `lorawan_recv` tells whether something was
received, exactly when it does not receive a frame without payload. -/
theorem recv_reports_iff (osTicksPerSec : OsTime) (calls : List Call) (sock : LorawanSock)
    (buffers : RecvBuffers) (payloadMaxLen : Byte) (timeoutMs : BitVec 32)
    (room : payloadMaxLen ≠ 0#8) :
    let state := (sockets osTicksPerSec).run State.initial calls
    Reports state sock buffers payloadMaxLen
        (lorawanRecv osTicksPerSec state sock buffers payloadMaxLen timeoutMs) ↔
      ¬state.EmptyFrameQueued sock := by
  intro state
  exact reports_iff osTicksPerSec state sock buffers payloadMaxLen timeoutMs room

/-! ## A frame with a port and no payload -/

def frameOf (payload : List Byte) (bufferSize : Byte)
    (holds : bufferSize.toNat ≤ payload.length) : McpsIndication where
  status := 0#32
  devAddr := 7#32
  port := 5#8
  buffer := payload
  bufferSize := bufferSize
  buffer_holds := holds

def receiving (frame : McpsIndication) : List Call :=
  [.socket true, .bind 1#32 7#32 5#8, .indication frame true]

def callerBuffers : RecvBuffers where
  devAddr := 0#32
  port := 0#8
  payload := [9#8, 9#8, 9#8]

/-- One byte of payload is reported as such. -/
theorem recv_reports_one_byte :
    Reports ((sockets 1000#32).run State.initial (receiving (frameOf [42#8] 1#8 (by decide))))
      1#32 callerBuffers 3#8
      (lorawanRecv 1000#32
        ((sockets 1000#32).run State.initial (receiving (frameOf [42#8] 1#8 (by decide))))
        1#32 callerBuffers 3#8 100#32) := by
  apply (recv_reports_iff 1000#32 (receiving (frameOf [42#8] 1#8 (by decide))) 1#32 callerBuffers
    3#8 100#32 (by decide)).mpr
  intro queued
  rcases queued with ⟨_, _, _, _, _, _, _, empty⟩
  rw [State.deref_eq] at empty
  exact absurd empty (by decide)

/-- The frame without payload is taken from the queue, its address and its port are
written, and the result is that of a timeout. -/
theorem recv_empty_frame_reports_timeout :
    let state := (sockets 1000#32).run State.initial (receiving (frameOf [] 0#8 (by decide)))
    let outcome := lorawanRecv 1000#32 state 1#32 callerBuffers 3#8 100#32
    outcome.2.returned = some 0#8 ∧ outcome.2.taken = some (0, ⟨0, .macIndication⟩) ∧
      outcome.2.buffers.devAddr = 7#32 ∧ outcome.2.buffers.port = 5#8 ∧
      ¬Reports state 1#32 callerBuffers 3#8 outcome := by
  intro state outcome
  have returned : outcome.2.returned = some 0#8 := by decide
  have taken : outcome.2.taken = some (0, ⟨0, .macIndication⟩) := by decide
  refine ⟨returned, taken, by decide, by decide, ?_⟩
  intro reports
  have nothing := (reports 0#8 returned).1.mp rfl
  rw [nothing.noEvent] at taken
  contradiction

end Lorawan.Sockets
