import Lorawan.Sockets.Events

/-! # Reading a socket empty

A socket whose queue is not empty should be readable until the queue is empty, and
then be closable. `lorawan_recv` guards on the record's address and ports, the
dispatcher on neither. -/

namespace Lorawan.Sockets

/-- The arguments of `lorawan_recv` besides the socket. -/
structure RecvArgs where
  buffers : RecvBuffers
  payloadMaxLen : Byte
  timeoutMs : BitVec 32

def RecvArgs.call (sock : LorawanSock) (args : RecvArgs) : Call :=
  .recv sock args.buffers args.payloadMaxLen args.timeoutMs

/-- Every socket can be read empty and then closed. -/
structure State.NoStuck (osTicksPerSec : OsTime) (state : State) : Prop where
  /-- `lorawan_recv` passes its guards and takes the oldest event. -/
  reads : ∀ el ∈ state.lSockList, ∀ ev rest, el.sockEventq = ev :: rest →
    ∀ buffers payloadMaxLen timeoutMs,
      (lorawanRecv osTicksPerSec state el.sock buffers payloadMaxLen timeoutMs).2.taken =
        some (el.block, ev)
  /-- As many calls as there are events empty the queue, and the socket closes. -/
  drains : ∀ el ∈ state.lSockList, ∀ args : List RecvArgs,
    args.length = el.sockEventq.length →
      let drained := (sockets osTicksPerSec).run state (args.map (RecvArgs.call el.sock))
      (el.block, []) ∈ drained.queues ∧ (lorawanClose drained el.sock).2 = 0

/-- No other socket has the identifier. -/
def State.Alone (state : State) (el : SockEl) : Prop :=
  ∀ other ∈ state.lSockList, other.sock = el.sock → other.block = el.block

/-- A creation does not give a socket the identifier of one with queued events,
and events are queued only for sockets that have an address other than 0, a port,
and an identifier of their own. -/
def State.EventClear (state : State) : Call → Prop
  | .socket true => ∀ el ∈ state.lSockList, el.sockEventq ≠ [] → el.sock ≠ state.sockCpt
  | .indication frame true => ∀ el, state.dispatchesTo frame el →
      el.devAddr ≠ 0#32 ∧ el.ports.firstUsed ≠ 8 ∧ state.Alone el
  | _ => True

/-! ## The guards of `lorawan_recv` -/

/-- Sockets with queued events pass the guards and are found by their identifiers. -/
def State.Readable (state : State) : Prop :=
  ∀ el ∈ state.lSockList, el.sockEventq ≠ [] →
    el.devAddr ≠ 0#32 ∧ el.ports.firstUsed ≠ 8 ∧ state.Alone el

namespace State

variable {state : State}

theorem Readable.lorawanFindEl_eq (readable : state.Readable) (wellFormed : state.WellFormed)
    {el : SockEl} (member : el ∈ state.lSockList) (queued : el.sockEventq ≠ []) :
    lorawanFindEl state el.sock = some el := by
  apply RecordTable.find?_eq_some_of_unique member (by simp)
  intro other otherMem sameSock
  have sameBlock := (readable el member queued).2.2 other otherMem (by simpa using sameSock)
  exact wellFormed.eq_of_block_eq otherMem member sameBlock

theorem Readable.lorawanRecv_eq (readable : state.Readable) (wellFormed : state.WellFormed)
    (osTicksPerSec : OsTime) {el : SockEl} (member : el ∈ state.lSockList) {ev : OsEvent}
    {rest : List OsEvent} (queue : el.sockEventq = ev :: rest) (buffers : RecvBuffers)
    (payloadMaxLen : Byte) (timeoutMs : BitVec 32) :
    (lorawanRecv osTicksPerSec state el.sock buffers payloadMaxLen timeoutMs).1.lSockList =
        (state.store { el with
          sockEventq := rest, mcpsInd := state.macIndication }).lSockList ∧
      (lorawanRecv osTicksPerSec state el.sock buffers payloadMaxLen timeoutMs).2.taken =
        some (el.block, ev) := by
  have queued : el.sockEventq ≠ [] := by simp [queue]
  have found := readable.lorawanFindEl_eq wellFormed member queued
  rcases readable el member queued with ⟨addressed, ported, _⟩
  simp [lorawanRecv, found, addressed, ported, queue, osEventqPoll]

/-- A socket whose identifier belongs to no queued events closes. -/
theorem Readable.lorawanClose_empty (readable : state.Readable) (wellFormed : state.WellFormed)
    {el : SockEl} (member : el ∈ state.lSockList) (empty : el.sockEventq = []) :
    (lorawanClose state el.sock).2 = 0 := by
  cases found : lorawanFindEl state el.sock with
  | none =>
      have missed := List.find?_eq_none.mp found el member
      simp at missed
  | some first =>
      have firstEmpty : first.sockEventq = [] := by
        by_contra queued
        have sameBlock := (readable first (mem_of_lorawanFindEl found) queued).2.2 el member
          (sock_of_lorawanFindEl found).symm
        have same := wellFormed.eq_of_block_eq member (mem_of_lorawanFindEl found) sameBlock
        rw [same] at empty
        exact queued empty
      simp [lorawanClose, found, firstEmpty]

end State

/-! ## One step -/

namespace State.Readable

variable {state : State}

theorem initial : State.initial.Readable := by
  intro el member
  simp [State.initial] at member

/-- Readability depends on the records alone. -/
theorem of_lSockList {other : State} (same : other.lSockList = state.lSockList) :
    other.Readable ↔ state.Readable := by
  unfold Readable Alone
  rw [same]

theorem alone_store (wellFormed : state.WellFormed) (old new : SockEl)
    (oldMem : old ∈ state.lSockList) (sameBlock : new.block = old.block)
    (sameSock : new.sock = old.sock) (el : SockEl) :
    (state.store new).Alone el ↔ state.Alone el := by
  have members := fun other => WellFormed.mem_store old new other oldMem sameBlock
  constructor
  · intro alone other otherMem sameAsEl
    by_cases same : other.block = old.block
    · have isOld := wellFormed.eq_of_block_eq otherMem oldMem same
      have newAlone := alone new ((members new).mpr (.inl rfl))
        (by rw [sameSock, ← isOld]; exact sameAsEl)
      rw [same, ← sameBlock]
      exact newAlone
    · exact alone other ((members other).mpr (.inr ⟨otherMem, same⟩)) sameAsEl
  · intro alone other otherMem sameAsEl
    rcases (members other).mp otherMem with rfl | ⟨otherMem, _⟩
    · rw [sameBlock]
      exact alone old oldMem (sameSock ▸ sameAsEl)
    · exact alone other otherMem sameAsEl

/-- Writing back a record that keeps its identifier. -/
theorem store_iff (wellFormed : state.WellFormed) (readable : state.Readable)
    (old new : SockEl) (oldMem : old ∈ state.lSockList) (sameBlock : new.block = old.block)
    (sameSock : new.sock = old.sock) :
    (state.store new).Readable ↔
      (new.sockEventq ≠ [] →
        new.devAddr ≠ 0#32 ∧ new.ports.firstUsed ≠ 8 ∧ state.Alone old) := by
  have members := fun other => WellFormed.mem_store old new other oldMem sameBlock
  have alone := alone_store wellFormed old new oldMem sameBlock sameSock
  have aloneNew : state.Alone new ↔ state.Alone old := by
    unfold Alone
    rw [sameBlock, sameSock]
  constructor
  · intro stored queued
    rcases stored new ((members new).mpr (.inl rfl)) queued with ⟨addressed, ported, newAlone⟩
    exact ⟨addressed, ported, aloneNew.mp ((alone new).mp newAlone)⟩
  · intro newReadable el member queued
    rcases (members el).mp member with rfl | ⟨member, _⟩
    · rcases newReadable queued with ⟨addressed, ported, oldAlone⟩
      exact ⟨addressed, ported, (alone el).mpr (aloneNew.mpr oldAlone)⟩
    · rcases readable el member queued with ⟨addressed, ported, elAlone⟩
      exact ⟨addressed, ported, (alone el).mpr elAlone⟩

theorem discard (readable : state.Readable) (block : Nat) : (state.discard block).Readable := by
  intro el member queued
  have kept := fun {other} (member : other ∈ (state.discard block).lSockList) =>
    (RecordTable.mem_discard.mp member).1
  rcases readable el (kept member) queued with ⟨addressed, ported, alone⟩
  exact ⟨addressed, ported, fun other otherMem => alone other (kept otherMem)⟩

theorem socket_iff (wellFormed : state.WellFormed) (readable : state.Readable)
    (allocated : Bool) :
    (lorawanSocket state allocated).1.Readable ↔ state.EventClear (.socket allocated) := by
  cases allocated with
  | false => exact ⟨fun _ => trivial, fun _ => readable⟩
  | true =>
      constructor
      · intro stored el member queued taken
        rcases stored el (List.mem_cons_of_mem _ member) queued with ⟨_, _, alone⟩
        have sameBlock := alone _ (List.mem_cons_self ..) taken.symm
        have older := wellFormed.block_lt el member
        exact absurd sameBlock (Nat.ne_of_gt older)
      · intro clear el member queued
        rcases List.mem_cons.mp member with rfl | member
        · simp at queued
        · rcases readable el member queued with ⟨addressed, ported, alone⟩
          refine ⟨addressed, ported, fun other otherMem sameSock => ?_⟩
          rcases List.mem_cons.mp otherMem with rfl | otherMem
          · exact absurd sameSock.symm (clear el member queued)
          · exact alone other otherMem sameSock

/-- A bind leaves a socket with queued events readable. -/
theorem bind (wellFormed : state.WellFormed) (readable : state.Readable) (sock : LorawanSock)
    (devAddr : DevAddr) (port : Port) :
    (lorawanBind state sock devAddr port).1.Readable := by
  rcases lorawanBind_cases state sock devAddr port with ⟨_, result⟩ | ⟨el, found, cases⟩
  · rw [result]
    exact readable
  have member := mem_of_lorawanFindEl found
  have moreUsed : el.ports.firstUsed ≠ 8 → (el.ports.add port).firstUsed ≠ 8 := by
    rw [Ne, Ports.firstUsed_eq_eight, Ne, Ports.firstUsed_eq_eight]
    intro some none
    apply some
    intro held
    have absent := none held
    rw [Ports.contains_add, Bool.or_eq_false_iff] at absent
    exact absent.1
  rcases cases with ⟨_, result⟩ | ⟨accepts, _, result⟩ | ⟨accepts, _, _, result⟩
  · rw [result, wellFormed.store_self member]
    exact readable
  · rw [result, store_iff wellFormed readable el { el with devAddr } member rfl rfl]
    intro queued
    rcases readable el member queued with ⟨addressed, ported, alone⟩
    exact ⟨(accepts.resolve_left addressed) ▸ addressed, ported, alone⟩
  · rw [result, store_iff wellFormed readable el
      { el with devAddr, ports := el.ports.add port } member rfl rfl]
    intro queued
    rcases readable el member queued with ⟨addressed, ported, alone⟩
    exact ⟨(accepts.resolve_left addressed) ▸ addressed, moreUsed ported, alone⟩

theorem indication_iff (wellFormed : state.WellFormed) (readable : state.Readable)
    (frame : McpsIndication) (allocated : Bool) :
    (macReceive state frame allocated).1.Readable ↔
      state.EventClear (.indication frame allocated) := by
  rcases macReceive_cases state frame allocated with
    ⟨refused, result⟩ | ⟨el, rfl, target, result⟩
  · rw [result]
    refine ⟨fun _ => ?_, fun _ => readable⟩
    cases allocated with
    | false => trivial
    | true =>
        intro el target
        rcases refused with failed | nobody
        · simp at failed
        · exact absurd target (nobody el)
  · have member := mem_of_lorawanFindEl target.2
    have onlyTarget : state.EventClear (.indication frame true) ↔
        el.devAddr ≠ 0#32 ∧ el.ports.firstUsed ≠ 8 ∧ state.Alone el := by
      constructor
      · exact fun clear => clear el target
      · intro clear other otherTarget
        rcases Option.some.inj (otherTarget.2.symm.trans target.2) with rfl
        exact clear
    let new : SockEl :=
      { el with sockEventq := el.sockEventq ++ [⟨state.eventBlocks, .macIndication⟩] }
    have stored := store_iff wellFormed readable el new member rfl rfl
    have queued : new.sockEventq ≠ [] := by simp [new]
    have sameList : (macReceive state frame true).1.Readable ↔ (state.store new).Readable := by
      rw [result]
      exact of_lSockList rfl
    rw [sameList, stored, onlyTarget]
    exact ⟨fun clear => clear queued, fun clear _ => clear⟩

/-- One step keeps readability exactly when it is clear. -/
theorem next_iff (osTicksPerSec : OsTime) (wellFormed : state.WellFormed)
    (readable : state.Readable) (call : Call) :
    ((sockets osTicksPerSec).next state call).Readable ↔ state.EventClear call := by
  cases call with
  | socket allocated => exact socket_iff wellFormed readable allocated
  | close sock =>
      refine ⟨fun _ => trivial, fun _ => ?_⟩
      rw [next_close]
      rcases lorawanClose_cases state sock with ⟨code, _, result⟩ | ⟨el, _, _, result⟩
      · rw [result]
        exact readable
      · rw [result]
        exact readable.discard el.block
  | bind sock devAddr port =>
      exact ⟨fun _ => trivial, fun _ => readable.bind wellFormed sock devAddr port⟩
  | send sock port payload payloadSize answer =>
      refine ⟨fun _ => trivial, fun _ => ?_⟩
      rw [next_send]
      rcases lorawanSend_cases state sock port payload payloadSize answer with
        result | ⟨el, request, found, result⟩
      · rw [result]
        exact readable
      · have member := mem_of_lorawanFindEl found
        rw [result, store_iff wellFormed readable el { el with mcpsReq := request } member rfl rfl]
        exact readable el member
  | recv sock buffers payloadMaxLen timeoutMs =>
      refine ⟨fun _ => trivial, fun _ => ?_⟩
      rw [next_recv]
      rcases lorawanRecv_cases osTicksPerSec state sock buffers payloadMaxLen timeoutMs with
        ⟨_, result⟩ | ⟨el, ev, rest, size, found, _, _, queue, _, result⟩
      · rw [result]
        exact readable
      · have member := mem_of_lorawanFindEl found
        have stored := (store_iff wellFormed readable el { el with
          sockEventq := rest, mcpsInd := state.macIndication } member rfl rfl).mpr
            fun _ => readable el member (by simp [queue])
        rw [result]
        exact (of_lSockList rfl).mpr stored
  | indication frame allocated => exact indication_iff wellFormed readable frame allocated

/-! ## Readable sockets are not stuck -/

/-- Reads take the events one by one, and the socket stays readable. -/
theorem drain (osTicksPerSec : OsTime) (args : List RecvArgs) (el : SockEl) (state : State)
    (wellFormed : state.WellFormed) (readable : state.Readable) (member : el ∈ state.lSockList)
    (enough : args.length = el.sockEventq.length) :
    let drained := (sockets osTicksPerSec).run state (args.map (RecvArgs.call el.sock))
    (el.block, []) ∈ drained.queues ∧ (lorawanClose drained el.sock).2 = 0 := by
  induction args generalizing el state with
  | nil =>
      have empty : el.sockEventq = [] := List.eq_nil_of_length_eq_zero enough.symm
      have listed := State.mem_queues member
      rw [empty] at listed
      exact ⟨listed, readable.lorawanClose_empty wellFormed member empty⟩
  | cons first args induction =>
      cases queue : el.sockEventq with
      | nil => simp [queue] at enough
      | cons ev rest =>
          let read : SockEl := { el with sockEventq := rest, mcpsInd := state.macIndication }
          let next := (sockets osTicksPerSec).next state (first.call el.sock)
          have taken := (readable.lorawanRecv_eq wellFormed osTicksPerSec member queue
            first.buffers first.payloadMaxLen first.timeoutMs).1
          have listed : read ∈ next.lSockList := by
            change read ∈ (lorawanRecv osTicksPerSec state el.sock first.buffers
              first.payloadMaxLen first.timeoutMs).1.lSockList
            rw [taken]
            exact (WellFormed.mem_store el read read member rfl).mpr (.inl rfl)
          have nextReadable : next.Readable :=
            (next_iff osTicksPerSec wellFormed readable (first.call el.sock)).mpr trivial
          have fewer : args.length = read.sockEventq.length := by
            simpa [queue, read] using enough
          exact induction read next (wellFormed.next osTicksPerSec _) nextReadable listed fewer

theorem noStuck_iff (wellFormed : state.WellFormed) (osTicksPerSec : OsTime) :
    state.NoStuck osTicksPerSec ↔ state.Readable := by
  constructor
  · intro noStuck el member queued
    rcases List.exists_cons_of_ne_nil queued with ⟨ev, rest, queue⟩
    have found : lorawanFindEl state el.sock = some el ∧ el.devAddr ≠ 0#32 ∧
        el.ports.firstUsed ≠ 8 := by
      have reads := noStuck.reads el member ev rest queue ⟨0#32, 0#8, []⟩ 0#8 0#32
      rcases lorawanRecv_cases osTicksPerSec state el.sock ⟨0#32, 0#8, []⟩ 0#8 0#32 with
        ⟨_, result⟩ | ⟨source, _, _, _, found, addressed, ported, _, _, result⟩
      · simp [result] at reads
      · rw [result] at reads
        have sameBlock : source.block = el.block := by
          have same := Option.some.inj reads
          exact congrArg Prod.fst same
        rcases wellFormed.eq_of_block_eq (mem_of_lorawanFindEl found) member sameBlock with rfl
        exact ⟨found, addressed, ported⟩
    refine ⟨found.2.1, found.2.2, fun other otherMem sameSock => ?_⟩
    cases otherQueue : other.sockEventq with
    | nil =>
        -- The identifier leads to `el`, whose queue is not empty.
        have closes := (noStuck.drains other otherMem [] (by simp [otherQueue])).2
        simp [sameSock, lorawanClose, found.1, queued] at closes
    | cons otherEv otherRest =>
        have otherReads := noStuck.reads other otherMem otherEv otherRest otherQueue
          ⟨0#32, 0#8, []⟩ 0#8 0#32
        have reads := noStuck.reads el member ev rest queue ⟨0#32, 0#8, []⟩ 0#8 0#32
        rw [sameSock, reads] at otherReads
        exact (congrArg Prod.fst (Option.some.inj otherReads)).symm
  · intro readable
    constructor
    · intro el member ev rest queue buffers payloadMaxLen timeoutMs
      exact (readable.lorawanRecv_eq wellFormed osTicksPerSec member queue buffers
        payloadMaxLen timeoutMs).2
    · intro el member args enough
      exact drain osTicksPerSec args el state wellFormed readable member enough

end State.Readable

/-- Along every run, no socket is stuck in any state exactly when each creation and
each queued event is clear. -/
theorem no_stuck_socket_iff (osTicksPerSec : OsTime) (calls : List Call) :
    (sockets osTicksPerSec).Throughout (State.NoStuck osTicksPerSec) State.initial calls ↔
      (sockets osTicksPerSec).Along State.EventClear State.initial calls := by
  apply (sockets osTicksPerSec).throughout_iff_along State.WellFormed
  · exact fun _ call wellFormed => wellFormed.next osTicksPerSec call
  · intro state call wellFormed noStuck
    have readable := (State.Readable.noStuck_iff wellFormed osTicksPerSec).mp noStuck
    rw [State.Readable.noStuck_iff (wellFormed.next osTicksPerSec call) osTicksPerSec]
    exact readable.next_iff osTicksPerSec wellFormed call
  · exact State.WellFormed.initial
  · exact (State.Readable.noStuck_iff .initial osTicksPerSec).mpr State.Readable.initial

/-- A socket bound at address 0 gets a frame for address 0. -/
def stuckRun : List Call :=
  [.socket true, .bind 1 0 5, .indication { McpsIndication.zero with port := 5 } true]

/-- Its one event cannot be read, and the socket cannot be closed. -/
theorem stuckRun_stuck : ¬((sockets 1000).run State.initial stuckRun).NoStuck 1000 := by
  intro noStuck
  have readable := (State.Readable.noStuck_iff (.run 1000 stuckRun) 1000).mp noStuck
  have stuck : ∃ el ∈ ((sockets 1000).run State.initial stuckRun).lSockList,
      el.sockEventq ≠ [] ∧ el.devAddr = 0#32 := by decide
  rcases stuck with ⟨el, member, queued, unaddressed⟩
  exact (readable el member queued).1 unaddressed

end Lorawan.Sockets
