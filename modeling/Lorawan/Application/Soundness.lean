import Lorawan.Application.Threads
import Lorawan.Sockets.Table

/-! # The sockets of the application

In any order of the threads, the receiving thread's socket holds the ports that the thread
has bound, at the first address that was not 0, and the sending thread's socket holds
none. -/

namespace Lorawan.Application

open Lorawan.Configuration Sockets

abbrev History := List (Step × Output)

/-- The addresses that the receiving thread has bound, oldest first. -/
def boundAddresses (past : History) : List DevAddr :=
  past.filterMap fun event =>
    match event.2 with
    | .bound devAddr => some devAddr
    | _ => none

/-- The first of them that is not 0, or 0. -/
def pinned (past : History) : DevAddr :=
  ((boundAddresses past).find? fun devAddr => devAddr ≠ 0#32).getD 0#32

theorem pinned_append_bound (past : History) (step : Step) (devAddr : DevAddr) :
    pinned (past ++ [(step, .bound devAddr)]) =
      if pinned past = 0#32 then devAddr else pinned past := by
  have appended : boundAddresses (past ++ [(step, .bound devAddr)]) =
      boundAddresses past ++ [devAddr] := by
    simp [boundAddresses]
  unfold pinned
  rw [appended, List.find?_append]
  cases first : (boundAddresses past).find? fun devAddr => decide (devAddr ≠ 0#32) with
  | none => by_cases zero : devAddr = 0#32 <;> simp [zero]
  | some other =>
      have nonzero : other ≠ 0#32 := by simpa using List.find?_some first
      simp [nonzero]

theorem pinned_append_of_unbound (past : History) (step : Step) {output : Output}
    (unbound : ∀ devAddr, output ≠ .bound devAddr) :
    pinned (past ++ [(step, output)]) = pinned past := by
  have appended : boundAddresses (past ++ [(step, output)]) = boundAddresses past := by
    cases output with
    | bound devAddr => exact absurd rfl (unbound devAddr)
    | _ => simp [boundAddresses]
  unfold pinned
  rw [appended]

namespace RxThread

/-- The socket that the thread has created. -/
def sock : RxThread → Option LorawanSock
  | .absent => none
  | .start => none
  | .bind sock _ => some sock
  | .receive sock _ => some sock

/-- Whether the thread has bound the port. -/
def binds (port : Port) : RxThread → Bool
  | .absent => false
  | .start => false
  | .bind _ i => decide (port ≠ 0#8 ∧ port.toNat < i.toNat)
  | .receive _ _ => decide (port ≠ 0#8)

end RxThread

def TxThread.sock : TxThread → Option LorawanSock
  | .absent => none
  | .start => none
  | .send sock => some sock

/-! ## The calls of the socket functions -/

/-- What a step asks of the socket functions. -/
def State.socketCalls (setup : Setup) (state : State) (step : Step) : List Call :=
  if state.stopped then []
  else
    match step with
    | .main _ _ => []
    | .rx allocated status =>
        match state.rx with
        | .absent => []
        | .start => [.socket allocated]
        | .bind sock i =>
            [.bind sock (lorawanGetDevAddrUnicast state.mib status) (i.setWidth 8)]
        | .receive sock buffers => [.recv sock buffers 255#8 0#32]
    | .tx allocated answer _ =>
        match state.tx with
        | .absent => []
        | .start => [.socket allocated]
        | .send sock => [.send sock 25#8 setup.txPayload 6#8 answer]
    | .frame frame allocated => [.indication frame allocated]
    | .mac _ => []

@[simp] theorem State.assert_sockets (state : State) (condition : Prop) [Decidable condition]
    (continued : State × Output) (same : continued.1.sockets = state.sockets) :
    (state.assert condition continued).1.sockets = state.sockets := by
  unfold State.assert
  split
  · exact same
  · rfl

/-- A receive call that sleeps changes nothing. -/
theorem lorawanRecv_fst_of_waiting {osTicksPerSec : OsTime} {state : Sockets.State}
    {sock : LorawanSock} {buffers : RecvBuffers} {payloadMaxLen : Byte}
    {timeoutMs : BitVec 32}
    (waiting : (lorawanRecv osTicksPerSec state sock buffers payloadMaxLen timeoutMs).2.returned =
      none) :
    (lorawanRecv osTicksPerSec state sock buffers payloadMaxLen timeoutMs).1 = state := by
  rcases lorawanRecv_cases osTicksPerSec state sock buffers payloadMaxLen timeoutMs with
    ⟨_, result⟩ | ⟨el, ev, rest, size, _, _, _, _, _, result⟩
  · rw [result]
  · rw [result] at waiting
    simp at waiting

/-- The socket functions see a run of their own. -/
def socketLayer (setup : Setup) :
    (application setup).Component (sockets setup.osTicksPerSec) where
  view := State.sockets
  calls := State.socketCalls setup
  view_next := by
    intro state step
    unfold State.socketCalls
    cases running : state.stopped with
    | true => simp [Machine.next, application, running]
    | false =>
        simp only [Machine.next, application, running, Bool.false_eq_true, if_false]
        cases step with
        | main answers created =>
            cases point : state.main with
            | configure =>
                simp only [mainThread, point, Machine.run_nil]
                rw [State.assert_sockets]
                rfl
            | startTx => simp [mainThread, point]
            | startRx => simp [mainThread, point]
            | idle => simp [mainThread, point]
        | rx allocated status =>
            cases thread : state.rx with
            | absent => simp [rxThread, thread]
            | start =>
                simp only [rxThread, thread, Machine.run_cons, Machine.run_nil, next_socket]
                rw [State.assert_sockets]
                rfl
            | bind sock i =>
                simp only [rxThread, thread, Machine.run_cons, Machine.run_nil, next_bind]
                rw [State.assert_sockets]
                rfl
            | receive sock buffers =>
                simp only [rxThread, thread, Machine.run_cons, Machine.run_nil, next_recv]
                split
                next waiting => exact (lorawanRecv_fst_of_waiting waiting).symm
                next size returned => split <;> rfl
        | tx allocated answer status =>
            cases thread : state.tx with
            | absent => simp [txThread, thread]
            | start =>
                simp only [txThread, thread, Machine.run_cons, Machine.run_nil, next_socket]
                rw [State.assert_sockets]
                rfl
            | send sock => simp [txThread, thread]
        | frame frame allocated => rfl
        | mac mibReq => rfl

/-! ## The sockets of the two threads -/

def RxThread.created (rx : RxThread) : Nat := if rx.sock.isSome then 1 else 0

def TxThread.created (tx : TxThread) : Nat := if tx.sock.isSome then 1 else 0

/-- The receiving thread's socket has the ports bound so far at the pinned address, and the
other socket has none. -/
structure Sound (past : History) (state : State) : Prop where
  wellFormed : state.sockets.WellFormed
  created : state.sockets.sockBlocks = state.rx.created + state.tx.created
  rxBinding : ∀ sock, state.rx.sock = some sock → ∃ binding ∈ state.sockets.bindings,
    binding.sock = sock ∧ binding.devAddr = pinned past ∧
      ∀ port, binding.ports.contains port = state.rx.binds port
  txBinding : ∀ sock, state.tx.sock = some sock →
    state.rx.sock ≠ some sock ∧ ∃ binding ∈ state.sockets.bindings, binding.sock = sock
  others : ∀ el ∈ state.sockets.lSockList, state.rx.sock ≠ some el.sock →
    el.devAddr = 0#32 ∧ el.ports = Ports.empty ∧ el.sockEventq = []
  range : ∀ sock i, state.rx = .bind sock i → 1 ≤ i.toNat ∧ i.toNat ≤ 255
  unpinned : state.rx.sock = none → pinned past = 0#32

namespace Sound

variable {past : History} {state : State}

theorem initial (mib : Mib Unit) : Sound [] (.initial mib) where
  wellFormed := Sockets.State.WellFormed.initial
  created := rfl
  rxBinding _ known := by cases known
  txBinding _ known := by cases known
  others _ member := by cases member
  range _ _ known := by cases known
  unpinned := fun _ => rfl

theorem few (sound : Sound past state) : state.sockets.sockBlocks ≤ 2 := by
  have created := sound.created
  unfold RxThread.created TxThread.created at created
  split at created <;> split at created <;> omega

/-- Two sockets at most: their identifiers tell them apart. -/
theorem eq_of_sock (sound : Sound past state) {left right : SockEl}
    (leftMem : left ∈ state.sockets.lSockList) (rightMem : right ∈ state.sockets.lSockList)
    (same : left.sock = right.sock) : left = right := by
  apply sound.wellFormed.eq_of_block_eq leftMem rightMem
  have few := sound.few
  have leftLt := sound.wellFormed.block_lt left leftMem
  have rightLt := sound.wellFormed.block_lt right rightMem
  rw [sound.wellFormed.sock_eq left leftMem, sound.wellFormed.sock_eq right rightMem] at same
  have values := congrArg BitVec.toNat same
  simp only [BitVec.toNat_ofNat] at values
  omega

theorem sock_ne_zero (sound : Sound past state) {el : SockEl}
    (member : el ∈ state.sockets.lSockList) : el.sock ≠ 0#32 := by
  intro zero
  have few := sound.few
  have below := sound.wellFormed.block_lt el member
  rw [sound.wellFormed.sock_eq el member] at zero
  have value := congrArg BitVec.toNat zero
  simp only [BitVec.toNat_ofNat] at value
  omega

theorem find_eq (sound : Sound past state) {el : SockEl}
    (member : el ∈ state.sockets.lSockList) :
    lorawanFindEl state.sockets el.sock = some el := by
  apply RecordTable.find?_eq_some_of_unique member (by simp)
  intro other otherMem same
  exact sound.eq_of_sock otherMem member (by simpa using same)

/-- The record of the receiving thread's socket. -/
theorem exists_rxEl (sound : Sound past state) {sock : LorawanSock}
    (created : state.rx.sock = some sock) :
    ∃ el ∈ state.sockets.lSockList, el.sock = sock ∧ el.devAddr = pinned past ∧
      ∀ port, el.ports.contains port = state.rx.binds port := by
  rcases sound.rxBinding sock created with ⟨binding, member, facts⟩
  rcases List.mem_map.mp member with ⟨el, elMem, rfl⟩
  exact ⟨el, elMem, facts⟩

/-- A step that changes no binding. -/
theorem congr (sound : Sound past state) {past' : History} {next : State}
    (wellFormed : next.sockets.WellFormed)
    (sameBlocks : next.sockets.sockBlocks = state.sockets.sockBlocks)
    (sameBindings : next.sockets.bindings = state.sockets.bindings)
    (sameRxSock : next.rx.sock = state.rx.sock)
    (sameBinds : ∀ port, next.rx.binds port = state.rx.binds port)
    (sameLoop : ∀ sock i, next.rx = .bind sock i → state.rx = .bind sock i)
    (sameTxSock : next.tx.sock = state.tx.sock) (samePinned : pinned past' = pinned past)
    (unqueued : ∀ el ∈ next.sockets.lSockList, state.rx.sock ≠ some el.sock →
      el.sockEventq = []) : Sound past' next where
  wellFormed := wellFormed
  created := by
    rw [sameBlocks, sound.created, RxThread.created, RxThread.created, TxThread.created,
      TxThread.created, sameRxSock, sameTxSock]
  rxBinding := by
    intro sock created
    rw [sameRxSock] at created
    rcases sound.rxBinding sock created with ⟨binding, member, sameSock, address, ports⟩
    refine ⟨binding, sameBindings ▸ member, sameSock, address.trans samePinned.symm, ?_⟩
    intro port
    rw [sameBinds, ports]
  txBinding := by
    intro sock created
    rw [sameRxSock, sameBindings]
    exact sound.txBinding sock (sameTxSock ▸ created)
  others := by
    intro el member other
    rw [sameRxSock] at other
    have bound : el.binding ∈ state.sockets.bindings :=
      sameBindings ▸ List.mem_map_of_mem member
    rcases List.mem_map.mp bound with ⟨before, beforeMem, same⟩
    have sameSock : before.sock = el.sock := congrArg Binding.sock same
    rcases sound.others before beforeMem (sameSock ▸ other) with ⟨unpinned, empty, _⟩
    have sameAddr : before.devAddr = el.devAddr := congrArg Binding.devAddr same
    have samePorts : before.ports = el.ports := congrArg Binding.ports same
    exact ⟨sameAddr ▸ unpinned, samePorts ▸ empty, unqueued el member other⟩
  range := fun sock i loop => sound.range sock i (sameLoop sock i loop)
  unpinned := by
    intro absent
    rw [samePinned]
    exact sound.unpinned (sameRxSock ▸ absent)

/-- The sockets stay as they are. -/
theorem congr_sockets (sound : Sound past state) {past' : History} {next : State}
    (sameSockets : next.sockets = state.sockets) (sameRx : next.rx.sock = state.rx.sock)
    (sameBinds : ∀ port, next.rx.binds port = state.rx.binds port)
    (sameLoop : ∀ sock i, next.rx = .bind sock i → state.rx = .bind sock i)
    (sameTx : next.tx.sock = state.tx.sock) (samePinned : pinned past' = pinned past) :
    Sound past' next := by
  apply sound.congr (sameSockets ▸ sound.wellFormed) (by rw [sameSockets])
    (by rw [sameSockets]) sameRx sameBinds sameLoop sameTx samePinned
  intro el member other
  rw [sameSockets] at member
  exact (sound.others el member other).2.2

/-- A write to one record that leaves its binding alone, and does not fill the queue of the
sending thread's socket. -/
theorem queues_store (sound : Sound past state) (old new : SockEl)
    (oldMem : old ∈ state.sockets.lSockList) (sameBlock : new.block = old.block)
    (sameSock : new.sock = old.sock)
    (unqueued : state.rx.sock ≠ some old.sock → new.sockEventq = []) :
    ∀ el ∈ (state.sockets.store new).lSockList, state.rx.sock ≠ some el.sock →
      el.sockEventq = [] := by
  intro el member other
  rcases (Sockets.State.WellFormed.mem_store old new el oldMem sameBlock).mp member with
    rfl | ⟨member, _⟩
  · exact unqueued (sameSock ▸ other)
  · exact (sound.others el member other).2.2

theorem send (sound : Sound past state) {past' : History} {next : State} {sock : LorawanSock}
    {payload : Nat} {answer : LoRaMacStatus}
    (sent : next.sockets = (lorawanSend state.sockets sock 25#8 payload 6#8 answer).1)
    (sameRx : next.rx = state.rx) (sameTx : next.tx = state.tx)
    (samePinned : pinned past' = pinned past) : Sound past' next := by
  have kept := sound.wellFormed.bindings_send sock 25#8 payload 6#8 answer
  have wellFormed := sound.wellFormed.next 0#32 (.send sock 25#8 payload 6#8 answer)
  rw [next_send] at wellFormed
  rw [← sent] at kept wellFormed
  have frame := lorawanSend_frame state.sockets sock 25#8 payload 6#8 answer
  rw [← sent] at frame
  rcases frame with ⟨table, framed⟩
  apply sound.congr wellFormed (by rw [framed]) kept (by rw [sameRx]) (by simp [sameRx])
    (by simp [sameRx]) (by rw [sameTx]) samePinned
  rw [sent]
  rcases lorawanSend_cases state.sockets sock 25#8 payload 6#8 answer with
    result | ⟨el, request, found, result⟩
  · rw [result]
    exact fun el member other => (sound.others el member other).2.2
  · rw [result]
    have member := mem_of_lorawanFindEl found
    exact sound.queues_store el _ member rfl rfl fun other =>
      (sound.others el member other).2.2

theorem recv (sound : Sound past state) {past' : History} {next : State} {sock : LorawanSock}
    {buffers : RecvBuffers} {osTicksPerSec : OsTime}
    (received : next.sockets = (lorawanRecv osTicksPerSec state.sockets sock buffers 255#8 0#32).1)
    (sameRxSock : next.rx.sock = state.rx.sock)
    (sameBinds : ∀ port, next.rx.binds port = state.rx.binds port)
    (noLoop : ∀ sock i, next.rx ≠ .bind sock i) (sameTx : next.tx = state.tx)
    (samePinned : pinned past' = pinned past) : Sound past' next := by
  have kept := sound.wellFormed.bindings_recv osTicksPerSec sock buffers 255#8 0#32
  have wellFormed := sound.wellFormed.next osTicksPerSec (.recv sock buffers 255#8 0#32)
  rw [next_recv] at wellFormed
  rw [← received] at kept wellFormed
  have frame := lorawanRecv_frame osTicksPerSec state.sockets sock buffers 255#8 0#32
  rw [← received] at frame
  rcases frame with ⟨table, freed, framed⟩
  apply sound.congr wellFormed (by rw [framed]) kept sameRxSock sameBinds
    (fun sock i loop => absurd loop (noLoop sock i)) (by rw [sameTx]) samePinned
  rw [received]
  rcases lorawanRecv_cases osTicksPerSec state.sockets sock buffers 255#8 0#32 with
    ⟨_, result⟩ | ⟨el, ev, rest, size, found, _, _, queue, _, result⟩
  · rw [result]
    exact fun el member other => (sound.others el member other).2.2
  · rw [result]
    have member := mem_of_lorawanFindEl found
    have read : state.rx.sock ≠ some el.sock → rest = [] := by
      intro other
      have unqueued := (sound.others el member other).2.2
      rw [queue] at unqueued
      exact absurd unqueued (by simp)
    exact sound.queues_store el
      { el with sockEventq := rest, mcpsInd := state.sockets.macIndication } member rfl rfl read

/-- Only the receiving thread's socket gets frames. -/
theorem rx_of_dispatchesTo (sound : Sound past state) {frame : McpsIndication} {el : SockEl}
    (target : state.sockets.dispatchesTo frame el) :
    state.rx.sock = some el.sock ∧ el.devAddr = frame.devAddr ∧
      el.ports.contains frame.port = true := by
  have member := mem_of_lorawanFindEl target.2
  have sameSock := sock_of_lorawanFindEl target.2
  rcases lorawanFindSockByParams_cases state.sockets frame.devAddr frame.port with
    ⟨holder, holderMem, address, port, found⟩ | ⟨_, none⟩
  · have same : holder = el :=
      sound.eq_of_sock holderMem member (found.symm.trans sameSock.symm)
    subst same
    refine ⟨?_, address, port⟩
    by_contra other
    rw [(sound.others holder member other).2.1, Ports.contains_empty] at port
    exact absurd port (by simp)
  · rw [none] at sameSock
    exact absurd sameSock (sound.sock_ne_zero member)

theorem indication (sound : Sound past state) {past' : History} {next : State}
    {frame : McpsIndication} {allocated : Bool}
    (indicated : next.sockets = (macReceive state.sockets frame allocated).1)
    (sameRx : next.rx = state.rx) (sameTx : next.tx = state.tx)
    (samePinned : pinned past' = pinned past) : Sound past' next := by
  have kept := sound.wellFormed.bindings_indication frame allocated
  have wellFormed := sound.wellFormed.next 0#32 (.indication frame allocated)
  rw [next_indication] at wellFormed
  rw [← indicated] at kept wellFormed
  have framed := macReceive_frame state.sockets frame allocated
  rw [← indicated] at framed
  rcases framed with ⟨table, eventBlocks, framed⟩
  apply sound.congr wellFormed (by rw [framed]) kept (by rw [sameRx]) (by simp [sameRx])
    (by simp [sameRx]) (by rw [sameTx]) samePinned
  rw [indicated]
  rcases macReceive_cases state.sockets frame allocated with
    ⟨_, result⟩ | ⟨el, _, target, result⟩
  · rw [result]
    exact fun el member other => (sound.others el member other).2.2
  · rw [result]
    exact sound.queues_store el
      { el with sockEventq := el.sockEventq ++ [⟨state.sockets.eventBlocks, .macIndication⟩] }
      (mem_of_lorawanFindEl target.2) rfl rfl
      fun other => absurd (sound.rx_of_dispatchesTo target).1 other

/-! ### Creating the sockets -/

theorem sockCpt_fresh (sound : Sound past state) (room : state.sockets.sockBlocks ≤ 1) :
    state.sockets.sockCpt ≠ 0#32 ∧
      ∀ binding ∈ state.sockets.bindings, binding.sock ≠ state.sockets.sockCpt := by
  rw [sound.wellFormed.sockCpt_eq]
  constructor
  · intro zero
    have value := congrArg BitVec.toNat zero
    simp only [BitVec.toNat_ofNat] at value
    omega
  · intro binding member same
    rcases List.mem_map.mp member with ⟨el, elMem, rfl⟩
    have below := sound.wellFormed.block_lt el elMem
    have numbered : el.binding.sock = BitVec.ofNat 32 (el.block + 1) :=
      sound.wellFormed.sock_eq el elMem
    rw [numbered] at same
    have values := congrArg BitVec.toNat same
    simp only [BitVec.toNat_ofNat] at values
    omega

theorem room_of_rx (sound : Sound past state) (absent : state.rx.sock = none) :
    state.sockets.sockBlocks ≤ 1 := by
  have created := sound.created
  have fewTx : state.tx.created ≤ 1 := by
    unfold TxThread.created
    split <;> omega
  have noRx : state.rx.created = 0 := by simp [RxThread.created, absent]
  omega

theorem room_of_tx (sound : Sound past state) (absent : state.tx.sock = none) :
    state.sockets.sockBlocks ≤ 1 := by
  have created := sound.created
  have fewRx : state.rx.created ≤ 1 := by
    unfold RxThread.created
    split <;> omega
  have noTx : state.tx.created = 0 := by simp [TxThread.created, absent]
  omega

theorem createRx (sound : Sound past state) {past' : History} {next : State}
    (start : state.rx = .start) (created : next.sockets = (lorawanSocket state.sockets true).1)
    (rx : next.rx = .bind state.sockets.sockCpt 1#16) (sameTx : next.tx = state.tx)
    (samePinned : pinned past' = pinned past) : Sound past' next := by
  have absent : state.rx.sock = none := by rw [start]; rfl
  have room := sound.room_of_rx absent
  have fresh := (sound.sockCpt_fresh room).2
  have unpinned := sound.unpinned absent
  have rxSock : next.rx.sock = some state.sockets.sockCpt := by rw [rx]; rfl
  have wellFormed := sound.wellFormed.lorawanSocket true
  rw [← created] at wellFormed
  constructor
  case wellFormed => exact wellFormed
  case created =>
    have before := sound.created
    simp only [RxThread.created, absent] at before
    rw [created, sameTx]
    simp only [RxThread.created, rxSock, lorawanSocket, if_true]
    simp at before ⊢
    omega
  case rxBinding =>
    intro sock same
    rw [rxSock] at same
    cases same
    rw [created]
    refine ⟨_, List.mem_cons_self, rfl, ?_, ?_⟩
    · rw [samePinned, unpinned]
      rfl
    · intro port
      rw [rx]
      change Ports.empty.contains port = _
      rw [Ports.contains_empty]
      have none : ¬(port ≠ 0#8 ∧ port.toNat < (1#16).toNat) := by
        intro below
        apply below.1
        apply BitVec.eq_of_toNat_eq
        have small : port.toNat < 1 := below.2
        simp
        omega
      exact (decide_eq_false none).symm
  case txBinding =>
    intro sock same
    rw [sameTx] at same
    rcases sound.txBinding sock same with ⟨_, binding, member, sameSock⟩
    constructor
    · intro equal
      rw [rxSock] at equal
      apply fresh binding member
      rw [sameSock]
      exact (Option.some.inj equal).symm
    · rw [created]
      exact ⟨binding, List.mem_cons_of_mem _ member, sameSock⟩
  case others =>
    intro el member other
    rw [rxSock] at other
    rw [created] at member
    rcases List.mem_cons.mp member with rfl | member
    · exact absurd rfl other
    · exact sound.others el member (by rw [absent]; simp)
  case range =>
    intro sock i loop
    rw [rx] at loop
    cases loop
    decide
  case unpinned =>
    intro none
    rw [rxSock] at none
    simp at none

theorem createTx (sound : Sound past state) {past' : History} {next : State}
    (start : state.tx = .start) (created : next.sockets = (lorawanSocket state.sockets true).1)
    (tx : next.tx = .send state.sockets.sockCpt) (sameRx : next.rx = state.rx)
    (samePinned : pinned past' = pinned past) : Sound past' next := by
  have absent : state.tx.sock = none := by rw [start]; rfl
  have room := sound.room_of_tx absent
  have fresh := (sound.sockCpt_fresh room).2
  have txSock : next.tx.sock = some state.sockets.sockCpt := by rw [tx]; rfl
  have wellFormed := sound.wellFormed.lorawanSocket true
  rw [← created] at wellFormed
  constructor
  case wellFormed => exact wellFormed
  case created =>
    have before := sound.created
    simp only [TxThread.created, absent] at before
    rw [created, sameRx]
    simp only [TxThread.created, txSock, lorawanSocket, if_true]
    simp at before ⊢
    omega
  case rxBinding =>
    intro sock same
    rw [sameRx] at same ⊢
    rcases sound.rxBinding sock same with ⟨binding, member, sameSock, address, ports⟩
    rw [created]
    exact ⟨binding, List.mem_cons_of_mem _ member, sameSock, address.trans samePinned.symm, ports⟩
  case txBinding =>
    intro sock same
    rw [txSock] at same
    cases same
    constructor
    · intro equal
      rw [sameRx] at equal
      rcases sound.rxBinding _ equal with ⟨binding, member, sameSock, _, _⟩
      exact fresh binding member sameSock
    · rw [created]
      exact ⟨_, List.mem_cons_self, rfl⟩
  case others =>
    intro el member other
    rw [sameRx] at other
    rw [created] at member
    rcases List.mem_cons.mp member with rfl | member
    · exact ⟨rfl, rfl, rfl⟩
    · exact sound.others el member other
  case range =>
    intro sock i loop
    exact sound.range sock i (sameRx ▸ loop)
  case unpinned =>
    intro none
    rw [samePinned]
    exact sound.unpinned (sameRx ▸ none)

/-! ### Binding the ports -/

/-- No port of the loop is taken: a bind fails on its address only. -/
theorem bind_cases (sound : Sound past state) {sock : LorawanSock} {i : BitVec 16}
    (loop : state.rx = .bind sock i) (devAddr : DevAddr) :
    (pinned past ≠ 0#32 ∧ devAddr ≠ pinned past ∧
        lorawanBind state.sockets sock devAddr (i.setWidth 8) = (state.sockets, .error)) ∨
      ∃ el ∈ state.sockets.lSockList, el.sock = sock ∧
        (∀ port, el.ports.contains port = state.rx.binds port) ∧
        (pinned past = 0#32 ∨ devAddr = pinned past) ∧
        lorawanBind state.sockets sock devAddr (i.setWidth 8) =
          (state.sockets.store { el with devAddr, ports := el.ports.add (i.setWidth 8) }, .ok) := by
  have rxSock : state.rx.sock = some sock := by rw [loop]; rfl
  rcases sound.exists_rxEl rxSock with ⟨el, member, sameSock, address, ports⟩
  have range := sound.range sock i loop
  have portValue : (i.setWidth 8 : Port).toNat = i.toNat := by
    rw [BitVec.toNat_setWidth]
    omega
  have portNonzero : (i.setWidth 8 : Port) ≠ 0#8 := by
    intro zero
    rw [zero] at portValue
    simp at portValue
    omega
  have found : lorawanFindEl state.sockets sock = some el := sameSock ▸ sound.find_eq member
  -- The ports from `i` on are free at every address.
  have free : lorawanFindSockByParams (state.sockets.store { el with devAddr }) devAddr
      (i.setWidth 8) = 0#32 := by
    rcases lorawanFindSockByParams_cases (state.sockets.store { el with devAddr }) devAddr
      (i.setWidth 8) with ⟨holder, holderMem, _, holds, _⟩ | ⟨_, none⟩
    · exfalso
      rcases (Sockets.State.WellFormed.mem_store el { el with devAddr } holder member rfl).mp
        holderMem with rfl | ⟨holderMem, different⟩
      · have bound : el.ports.contains (i.setWidth 8) = true := holds
        rw [ports, loop] at bound
        have below := (of_decide_eq_true bound).2
        omega
      · have other : state.rx.sock ≠ some holder.sock := by
          intro same
          rw [rxSock, ← sameSock] at same
          have equal := sound.eq_of_sock member holderMem (Option.some.inj same)
          exact different (by rw [equal])
        rw [(sound.others holder holderMem other).2.1, Ports.contains_empty] at holds
        exact absurd holds (by simp)
    · exact none
  rcases lorawanBind_cases state.sockets sock devAddr (i.setWidth 8) with
    ⟨missing, _⟩ | ⟨other, otherFound, cases⟩
  · rw [found] at missing
    simp at missing
  · have same : other = el := by
      rw [found] at otherFound
      exact (Option.some.inj otherFound).symm
    subst same
    rcases cases with ⟨refused, result⟩ | ⟨_, taken, _⟩ | ⟨accepted, _, _, result⟩
    · rw [address, not_or] at refused
      refine .inl ⟨refused.1, fun equal => refused.2 equal.symm, ?_⟩
      rw [result, sound.wellFormed.store_self member]
    · rcases taken with zero | taken
      · exact absurd zero portNonzero
      · exact absurd free taken
    · refine .inr ⟨other, member, sameSock, ports, ?_, result⟩
      rw [address] at accepted
      exact accepted.imp_right Eq.symm

/-- The loop counter does not wrap. -/
theorem counter_succ {i : BitVec 16} (range : i.toNat ≤ 255) :
    (i + 1#16).toNat = i.toNat + 1 ∧ (i + 1#16 ≤ 255#16 ↔ i.toNat < 255) := by
  have advanced : (i + 1#16).toNat = i.toNat + 1 := by
    rw [BitVec.toNat_add, BitVec.toNat_ofNat]
    omega
  refine ⟨advanced, ?_⟩
  rw [BitVec.le_def, advanced, BitVec.toNat_ofNat]
  omega

/-- Each turn of the loop binds the port of its counter. -/
theorem binds_succ {sock : LorawanSock} {i : BitVec 16} (range : 1 ≤ i.toNat ∧ i.toNat ≤ 255)
    (buffers : RecvBuffers) (port : Port) :
    (if i + 1#16 ≤ 255#16 then RxThread.bind sock (i + 1#16) else .receive sock buffers).binds
        port =
      ((RxThread.bind sock i).binds port || decide (port = i.setWidth 8)) := by
  have equal : port = i.setWidth 8 ↔ port.toNat = i.toNat := by
    rw [← BitVec.toNat_inj, BitVec.toNat_setWidth]
    omega
  have zero : port = 0#8 ↔ port.toNat = 0 := by
    rw [← BitVec.toNat_inj]
    simp
  have small := port.isLt
  rcases counter_succ range.2 with ⟨advanced, last⟩
  split
  · simp only [RxThread.binds, advanced, equal, Ne, zero, ← Bool.decide_or, decide_eq_decide]
    omega
  · next atEnd =>
    rw [last] at atEnd
    simp only [RxThread.binds, equal, Ne, zero, ← Bool.decide_or, decide_eq_decide]
    omega

theorem bindRx (sound : Sound past state) {next : State} {step : Step} {sock : LorawanSock}
    {i : BitVec 16} {devAddr : DevAddr} (loop : state.rx = .bind sock i) {el : SockEl}
    (member : el ∈ state.sockets.lSockList) (sameSock : el.sock = sock)
    (ports : ∀ port, el.ports.contains port = state.rx.binds port)
    (accepted : pinned past = 0#32 ∨ devAddr = pinned past)
    (bound : next.sockets =
      state.sockets.store { el with devAddr, ports := el.ports.add (i.setWidth 8) })
    {buffers : RecvBuffers}
    (rx : next.rx = if i + 1#16 ≤ 255#16 then .bind sock (i + 1#16) else .receive sock buffers)
    (sameTx : next.tx = state.tx) : Sound (past ++ [(step, .bound devAddr)]) next := by
  have range := sound.range sock i loop
  have rxSock : state.rx.sock = some sock := by rw [loop]; rfl
  have nextSock : next.rx.sock = some sock := by
    rw [rx]
    split <;> rfl
  have repinned : pinned (past ++ [(step, .bound devAddr)]) = devAddr := by
    rw [pinned_append_bound]
    rcases accepted with zero | same
    · rw [if_pos zero]
    · split
      · rfl
      · exact same.symm
  have members := fun other => Sockets.State.WellFormed.mem_store el
    { el with devAddr, ports := el.ports.add (i.setWidth 8) } other member rfl
  constructor
  case wellFormed =>
    rw [bound]
    exact sound.wellFormed.store member rfl rfl
  case created =>
    have before := sound.created
    simp only [RxThread.created, rxSock] at before
    rw [bound, sameTx]
    simp only [RxThread.created, nextSock]
    exact before
  case rxBinding =>
    intro other created
    rw [nextSock] at created
    cases created
    rw [bound, repinned]
    refine ⟨_, List.mem_map_of_mem ((members _).mpr (.inl rfl)), sameSock, rfl, ?_⟩
    intro port
    change (el.ports.add (i.setWidth 8)).contains port = _
    rw [Ports.contains_add, ports, loop, rx]
    exact (binds_succ range buffers port).symm
  case txBinding =>
    intro other created
    rw [sameTx] at created
    rcases sound.txBinding other created with ⟨different, binding, bindingMem, same⟩
    refine ⟨by rw [nextSock, ← rxSock]; exact different, ?_⟩
    rcases List.mem_map.mp bindingMem with ⟨holder, holderMem, rfl⟩
    refine ⟨holder.binding, ?_, same⟩
    rw [bound]
    apply List.mem_map_of_mem
    apply (members holder).mpr
    refine .inr ⟨holderMem, fun sameBlock => different ?_⟩
    rw [← same, sound.wellFormed.eq_of_block_eq holderMem member sameBlock, rxSock, ← sameSock]
    rfl
  case others =>
    intro other otherMem different
    rw [nextSock] at different
    rw [bound] at otherMem
    rcases (members other).mp otherMem with rfl | ⟨otherMem, _⟩
    · exact absurd (congrArg some sameSock).symm different
    · exact sound.others other otherMem (by rw [rxSock]; exact different)
  case range =>
    intro other j again
    rw [rx] at again
    split at again
    · next more =>
      cases again
      rcases counter_succ range.2 with ⟨advanced, last⟩
      rw [last] at more
      omega
    · cases again
  case unpinned =>
    intro none
    rw [nextSock] at none
    simp at none

end Sound

/-! ## One step -/

/-- `main` creates the sending thread first, and each thread once. -/
structure Started (state : State) : Prop where
  tx : state.main = .configure ∨ state.main = .startTx → state.tx = .absent
  rx : state.main ≠ .idle → state.rx = .absent

namespace Started

variable {state : State}

theorem initial (mib : Mib Unit) : Started (.initial mib) where
  tx := fun _ => rfl
  rx := fun _ => rfl

/-- A step of a thread that is there already. -/
theorem congr (started : Started state) {next : State} (sameMain : next.main = state.main)
    (tx : state.tx = .absent → next.tx = .absent)
    (rx : state.rx = .absent → next.rx = .absent) : Started next where
  tx := fun early => tx (started.tx (sameMain ▸ early))
  rx := fun early => rx (started.rx (sameMain ▸ early))

theorem mainThread (setup : Setup) (started : Started state) (answers : MibType → LoRaMacStatus)
    (created : Bool) : Started (mainThread setup state answers created).1 := by
  unfold Application.mainThread State.assert
  split
  next point =>
    have noTx := started.tx (.inl point)
    have noRx := started.rx (by simp [point])
    dsimp only
    split
    · exact ⟨fun _ => noTx, fun _ => noRx⟩
    · exact started.congr rfl id id
  next point =>
    have noRx := started.rx (by simp [point])
    split
    · exact ⟨by simp, fun _ => noRx⟩
    · exact started.congr rfl id id
  next =>
    split
    · exact ⟨by simp, by simp⟩
    · exact started.congr rfl id id
  next => exact started

theorem rxThread (setup : Setup) (started : Started state) (allocated : Bool)
    (status : LoRaMacStatus) : Started (rxThread setup state allocated status).1 := by
  unfold Application.rxThread State.assert
  split
  next => exact started
  next thread =>
    dsimp only
    split
    · exact started.congr rfl id (by simp [thread])
    · exact started.congr rfl id id
  next sock i thread =>
    dsimp only
    split
    · exact started.congr rfl id (by simp [thread])
    · exact started.congr rfl id id
  next sock buffers thread =>
    dsimp only
    split
    · exact started
    · split
      · exact started.congr rfl id (by simp [thread])
      · exact started.congr rfl id (by simp [thread])

theorem txThread (setup : Setup) (started : Started state) (allocated : Bool)
    (answer status : LoRaMacStatus) :
    Started (txThread setup state allocated answer status).1 := by
  unfold Application.txThread State.assert
  split
  next => exact started
  next thread =>
    dsimp only
    split
    · exact started.congr rfl (by simp [thread]) id
    · exact started.congr rfl id id
  next => exact started.congr rfl id id

theorem next (setup : Setup) (started : Started state) (step : Step) :
    Started ((application setup).next state step) := by
  cases running : state.stopped with
  | true => simpa [Machine.next, application, running] using started
  | false =>
      simp only [Machine.next, application, running, Bool.false_eq_true, if_false]
      cases step with
      | main answers created => exact started.mainThread setup answers created
      | rx allocated status => exact started.rxThread setup allocated status
      | tx allocated answer status => exact started.txThread setup allocated answer status
      | frame frame allocated => exact started.congr rfl id id
      | mac mibReq => exact started.congr rfl id id

end Started

namespace Sound

variable {past : History} {state : State}

/-- A step that leaves the sockets and the threads alone. -/
theorem idle (sound : Sound past state) {next : State} {step : Step} {output : Output}
    (sameSockets : next.sockets = state.sockets) (sameRx : next.rx = state.rx)
    (sameTx : next.tx = state.tx) (unbound : ∀ devAddr, output ≠ .bound devAddr) :
    Sound (past ++ [(step, output)]) next :=
  sound.congr_sockets sameSockets (by rw [sameRx]) (by simp [sameRx]) (by simp [sameRx])
    (by rw [sameTx]) (pinned_append_of_unbound past step unbound)

theorem mainThread (setup : Setup) (sound : Sound past state) (started : Started state)
    (step : Step) (answers : MibType → LoRaMacStatus) (created : Bool) :
    Sound (past ++ [(step, (mainThread setup state answers created).2)])
      (mainThread setup state answers created).1 := by
  unfold Application.mainThread State.assert
  split
  next =>
    dsimp only
    split
    · exact sound.idle rfl rfl rfl (by simp)
    · exact sound.idle rfl rfl rfl (by simp)
  next point =>
    have noTx := started.tx (.inr point)
    split
    · exact sound.congr_sockets rfl rfl (fun _ => rfl) (fun _ _ => id) (by rw [noTx]; rfl)
        (pinned_append_of_unbound past step (by simp))
    · exact sound.idle rfl rfl rfl (by simp)
  next point =>
    have noRx := started.rx (by simp [point])
    split
    · exact sound.congr_sockets rfl (by rw [noRx]; rfl) (by rw [noRx]; exact fun _ => rfl)
        (by simp) rfl (pinned_append_of_unbound past step (by simp))
    · exact sound.idle rfl rfl rfl (by simp)
  next => exact sound.idle rfl rfl rfl (by simp)

theorem rxThread (setup : Setup) (sound : Sound past state) (step : Step) (allocated : Bool)
    (status : LoRaMacStatus) :
    Sound (past ++ [(step, (rxThread setup state allocated status).2)])
      (rxThread setup state allocated status).1 := by
  unfold Application.rxThread State.assert
  split
  next => exact sound.idle rfl rfl rfl (by simp)
  next thread =>
    have room := sound.room_of_rx (by rw [thread]; rfl)
    cases allocated with
    | false => exact sound.idle rfl rfl rfl (by simp [lorawanSocket])
    | true =>
        have created : (lorawanSocket state.sockets true).2 ≠ 0#32 :=
          (sound.sockCpt_fresh room).1
        dsimp only
        rw [if_pos created]
        exact sound.createRx thread rfl rfl rfl (pinned_append_of_unbound past step (by simp))
  next sock i thread =>
    dsimp only
    rcases sound.bind_cases thread (lorawanGetDevAddrUnicast state.mib status) with
      ⟨_, _, result⟩ | ⟨el, member, sameSock, ports, accepted, result⟩
    · rw [result]
      exact sound.idle rfl rfl rfl (by simp)
    · rw [result]
      exact sound.bindRx thread member sameSock ports accepted rfl rfl rfl
  next sock buffers thread =>
    have sameSock : RxThread.sock (.receive sock buffers) = state.rx.sock := by rw [thread]
    have sameBinds : ∀ port, RxThread.binds port (.receive sock buffers) =
        state.rx.binds port := by
      rw [thread]
      exact fun _ => rfl
    dsimp only
    split
    · exact sound.idle rfl rfl rfl (by simp)
    · split
      · exact sound.recv rfl sameSock sameBinds (by simp) rfl
          (pinned_append_of_unbound past step (by simp))
      · exact sound.recv rfl sameSock sameBinds (by simp) rfl
          (pinned_append_of_unbound past step (by simp))

theorem txThread (setup : Setup) (sound : Sound past state) (step : Step) (allocated : Bool)
    (answer status : LoRaMacStatus) :
    Sound (past ++ [(step, (txThread setup state allocated answer status).2)])
      (txThread setup state allocated answer status).1 := by
  unfold Application.txThread State.assert
  split
  next => exact sound.idle rfl rfl rfl (by simp)
  next thread =>
    have room := sound.room_of_tx (by rw [thread]; rfl)
    cases allocated with
    | false => exact sound.idle rfl rfl rfl (by simp [lorawanSocket])
    | true =>
        have created : (lorawanSocket state.sockets true).2 ≠ 0#32 :=
          (sound.sockCpt_fresh room).1
        dsimp only
        rw [if_pos created]
        exact sound.createTx thread rfl rfl rfl (pinned_append_of_unbound past step (by simp))
  next => exact sound.send rfl rfl rfl (pinned_append_of_unbound past step (by simp))

theorem next (setup : Setup) (sound : Sound past state) (started : Started state) (step : Step) :
    Sound (past ++ [(step, (application setup).reply state step)])
      ((application setup).next state step) := by
  cases running : state.stopped with
  | true =>
      have halted : (application setup).step state step = (state, .quiet) := by
        simp [application, running]
      rw [Machine.next, Machine.reply, halted]
      exact sound.idle rfl rfl rfl (by simp)
  | false =>
      simp only [Machine.next, Machine.reply, application, running, Bool.false_eq_true, if_false]
      cases step with
      | main answers created => exact sound.mainThread setup started _ answers created
      | rx allocated status => exact sound.rxThread setup _ allocated status
      | tx allocated answer status => exact sound.txThread setup _ allocated answer status
      | frame frame allocated =>
          exact sound.indication rfl rfl rfl (pinned_append_of_unbound past _ (by simp))
      | mac mibReq => exact sound.idle rfl rfl rfl (by simp)

end Sound

/-- What the history says about the state. -/
structure Told (past : History) (state : State) : Prop where
  sound : Sound past state
  started : Started state

theorem Told.run (setup : Setup) (mib : Mib Unit) (steps : List Step) :
    Told ((application setup).trace (.initial mib) steps)
      ((application setup).run (.initial mib) steps) :=
  (application setup).history Told
    (fun _ _ step told =>
      ⟨told.sound.next setup told.started step, told.started.next setup step⟩)
    steps (.initial mib) ⟨Sound.initial mib, Started.initial mib⟩

end Lorawan.Application
