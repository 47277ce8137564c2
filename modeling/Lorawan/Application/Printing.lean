import Lorawan.Application.Soundness
import Lorawan.Sockets.ReceiveResult

/-! # What the application prints

From the radio to the console: a frame is queued for the receiving thread when its address
and port are bound, and the thread prints each one once. Since the MAC has one object for
all frames, this needs every frame to be read before the next one comes. -/

namespace Lorawan.Application

open Sockets

/-! ## Frames and lines -/

/-- What the receiving thread prints of a packet. -/
structure Line where
  size : Byte
  devAddr : DevAddr
  port : Port
  payload : List Byte
  deriving DecidableEq, Repr

/-- A frame without payload is not printed. -/
def lineOf (frame : McpsIndication) : Option Line :=
  if frame.bufferSize ≠ 0#8 then
    some ⟨frame.bufferSize, frame.devAddr, frame.port, frame.payload⟩
  else none

def printedBy : Output → Option Line
  | .received size devAddr port payload => some ⟨size, devAddr, port, payload⟩
  | _ => none

/-- The lines printed, oldest first. -/
def printed (past : History) : List Line :=
  past.filterMap fun event => printedBy event.2

def acceptedBy : Step × Output → Option McpsIndication
  | (.frame frame _, .indicated (some _)) => some frame
  | _ => none

/-- The frames queued for a socket, oldest first. -/
def accepted (past : History) : List McpsIndication :=
  past.filterMap acceptedBy

/-- What the queued events point to. -/
def State.unread (state : State) : List McpsIndication :=
  state.sockets.queuedEvents.map fun ev => state.sockets.deref ev.evArg

/-- A frame comes when nothing is queued. -/
def State.Prompt (state : State) : Step → Prop
  | .frame _ _ => state.sockets.queuedEvents = []
  | _ => True

/-! ## Which frames are accepted -/

/-- A frame is dispatched exactly when the receiving thread has bound its port, at the
address that it has. -/
theorem Sound.exists_dispatchesTo_iff {past : History} {state : State}
    (sound : Sound past state) (frame : McpsIndication) :
    (∃ el, state.sockets.dispatchesTo frame el) ↔
      frame.status = loRaMacEventInfoStatusOk ∧ frame.devAddr = pinned past ∧
        state.rx.binds frame.port = true := by
  constructor
  · intro dispatched
    rcases dispatched with ⟨el, target⟩
    rcases sound.rx_of_dispatchesTo target with ⟨rxSock, address, port⟩
    rcases sound.exists_rxEl rxSock with ⟨rxEl, member, sameSock, pinnedAddr, ports⟩
    have same : rxEl = el := sound.eq_of_sock member (mem_of_lorawanFindEl target.2) sameSock
    subst same
    exact ⟨target.1, address.symm.trans pinnedAddr, (ports frame.port).symm.trans port⟩
  · intro bound
    rcases bound with ⟨statusOk, address, port⟩
    have created : ∃ sock, state.rx.sock = some sock := by
      cases thread : state.rx with
      | absent => rw [thread] at port; exact absurd port (by simp [RxThread.binds])
      | start => rw [thread] at port; exact absurd port (by simp [RxThread.binds])
      | bind sock i => exact ⟨sock, rfl⟩
      | receive sock buffers => exact ⟨sock, rfl⟩
    rcases created with ⟨sock, rxSock⟩
    rcases sound.exists_rxEl rxSock with ⟨rxEl, member, sameSock, pinnedAddr, ports⟩
    refine ⟨rxEl, statusOk, ?_⟩
    rcases lorawanFindSockByParams_cases state.sockets frame.devAddr frame.port with
      ⟨holder, holderMem, _, holds, found⟩ | ⟨unheld, _⟩
    · have isRx : state.rx.sock = some holder.sock := by
        by_contra other
        rw [(sound.others holder holderMem other).2.1, Ports.contains_empty] at holds
        exact absurd holds (by simp)
      have same : holder = rxEl := by
        rw [rxSock, ← sameSock] at isRx
        exact (sound.eq_of_sock member holderMem (Option.some.inj isRx)).symm
      rw [found, same]
      exact sound.find_eq member
    · have unbound := unheld rxEl member (pinnedAddr.trans address.symm)
      rw [ports, port] at unbound
      exact absurd unbound (by simp)

theorem Sound.accepted_iff (setup : Setup) {past : History} {state : State}
    (sound : Sound past state) (frame : McpsIndication) (allocated : Bool) :
    acceptedBy (.frame frame allocated,
        (application setup).reply state (.frame frame allocated)) = some frame ↔
      state.stopped = false ∧ allocated = true ∧ frame.status = loRaMacEventInfoStatusOk ∧
        frame.devAddr = pinned past ∧ state.rx.binds frame.port = true := by
  rw [← sound.exists_dispatchesTo_iff frame]
  cases running : state.stopped with
  | true => simp [Machine.reply, application, running, acceptedBy]
  | false =>
      simp only [Machine.reply, application, running, Bool.false_eq_true, if_false, true_and]
      rcases macReceive_cases state.sockets frame allocated with
        ⟨unsent, result⟩ | ⟨el, isAllocated, target, result⟩
      · rw [result]
        have none : ¬(allocated = true ∧ ∃ el, state.sockets.dispatchesTo frame el) := by
          intro both
          rcases both with ⟨isAllocated, el, target⟩
          rcases unsent with notAllocated | noTarget
          · rw [notAllocated] at isAllocated
            exact absurd isAllocated (by simp)
          · exact noTarget el target
        constructor
        · intro accepted
          simp [acceptedBy] at accepted
        · intro both
          exact absurd both none
      · rw [result]
        exact ⟨fun _ => ⟨isAllocated, el, target⟩, fun _ => rfl⟩

/-- After any run, a frame reaches a socket exactly when its status is OK, memory is left,
and the receiving thread has bound its port at the pinned address. Nothing is queued for
the sending thread. -/
theorem frame_accepted_iff (setup : Setup) (mib : Configuration.Mib Unit) (steps : List Step)
    (frame : McpsIndication) (allocated : Bool) :
    let past := (application setup).trace (.initial mib) steps
    let state := (application setup).run (.initial mib) steps
    (acceptedBy (.frame frame allocated,
        (application setup).reply state (.frame frame allocated)) = some frame ↔
      state.stopped = false ∧ allocated = true ∧ frame.status = loRaMacEventInfoStatusOk ∧
        frame.devAddr = pinned past ∧ state.rx.binds frame.port = true) ∧
      ∀ el ∈ state.sockets.lSockList, state.tx.sock = some el.sock → el.sockEventq = [] := by
  intro past state
  have sound : Sound past state := (Told.run setup mib steps).sound
  refine ⟨sound.accepted_iff setup frame allocated, ?_⟩
  intro el member txSock
  have apart := (sound.txBinding el.sock txSock).1
  exact (sound.others el member apart).2.2

/-! ## Every frame is printed once -/

/-- Every accepted frame has been printed, or is the one that is still unread. -/
structure Printed (past : History) (state : State) : Prop where
  few : state.sockets.queuedEvents.length ≤ 1
  balance : printed past ++ state.unread.filterMap lineOf = (accepted past).filterMap lineOf

namespace Printed

variable {past : History} {state : State}

theorem initial (mib : Configuration.Mib Unit) : Printed [] (.initial mib) where
  few := Nat.zero_le 1
  balance := rfl

/-- A step that neither moves an event nor prints a line. -/
theorem quiet (printed : Printed past state) {next : State} {event : Step × Output}
    (sameQueued : next.sockets.queuedEvents = state.sockets.queuedEvents)
    (sameObject : next.sockets.macIndication = state.sockets.macIndication)
    (unprinted : printedBy event.2 = none) (unaccepted : acceptedBy event = none) :
    Printed (past ++ [event]) next where
  few := sameQueued ▸ printed.few
  balance := by
    have sameUnread : next.unread = state.unread := by
      simp only [State.unread, sameQueued, Sockets.State.deref_eq, sameObject]
    simpa [Application.printed, accepted, unprinted, unaccepted, sameUnread] using printed.balance

theorem lorawanSocket (printed : Printed past state) {next : State} {event : Step × Output}
    {allocated : Bool} (created : next.sockets = (lorawanSocket state.sockets allocated).1)
    (unprinted : printedBy event.2 = none) (unaccepted : acceptedBy event = none) :
    Printed (past ++ [event]) next := by
  apply printed.quiet _ _ unprinted unaccepted
  · rw [created]
    cases allocated <;> rfl
  · rw [created]
    cases allocated <;> rfl

theorem lorawanBind (printed : Printed past state) (wellFormed : state.sockets.WellFormed)
    {next : State} {event : Step × Output} {sock : LorawanSock} {devAddr : DevAddr} {port : Port}
    (bound : next.sockets = (lorawanBind state.sockets sock devAddr port).1)
    (unprinted : printedBy event.2 = none) (unaccepted : acceptedBy event = none) :
    Printed (past ++ [event]) next := by
  apply printed.quiet _ _ unprinted unaccepted
  · rw [bound, ← Sockets.State.contents_queues, wellFormed.queues_lorawanBind,
      Sockets.State.contents_queues]
  · rcases lorawanBind_frame state.sockets sock devAddr port with ⟨table, result⟩
    rw [bound, result]

theorem lorawanSend (printed : Printed past state) (wellFormed : state.sockets.WellFormed)
    {next : State} {event : Step × Output} {sock : LorawanSock} {port : Port} {payload : Nat}
    {payloadSize : Byte} {answer : LoRaMacStatus}
    (sent : next.sockets = (lorawanSend state.sockets sock port payload payloadSize answer).1)
    (unprinted : printedBy event.2 = none) (unaccepted : acceptedBy event = none) :
    Printed (past ++ [event]) next := by
  apply printed.quiet _ _ unprinted unaccepted
  · rw [sent, ← Sockets.State.contents_queues, wellFormed.queues_lorawanSend,
      Sockets.State.contents_queues]
  · rcases lorawanSend_frame state.sockets sock port payload payloadSize answer with
      ⟨table, result⟩
    rw [sent, result]

theorem mainThread (setup : Setup) (printed : Printed past state)
    (answers : Configuration.MibType → LoRaMacStatus) (created : Bool) :
    Printed (past ++ [(.main answers created, (mainThread setup state answers created).2)])
      (mainThread setup state answers created).1 := by
  unfold Application.mainThread State.assert
  split
  next =>
    dsimp only
    split
    · exact printed.quiet rfl rfl rfl rfl
    · exact printed.quiet rfl rfl rfl rfl
  next => split <;> exact printed.quiet rfl rfl rfl rfl
  next => split <;> exact printed.quiet rfl rfl rfl rfl
  next => exact printed.quiet rfl rfl rfl rfl

theorem txThread (setup : Setup) (printed : Printed past state)
    (wellFormed : state.sockets.WellFormed) (allocated : Bool) (answer status : LoRaMacStatus) :
    Printed (past ++ [(.tx allocated answer status,
        (txThread setup state allocated answer status).2)])
      (txThread setup state allocated answer status).1 := by
  unfold Application.txThread State.assert
  split
  next => exact printed.quiet rfl rfl rfl rfl
  next =>
    dsimp only
    split
    · exact printed.lorawanSocket rfl rfl rfl
    · exact printed.lorawanSocket rfl rfl rfl
  next => exact printed.lorawanSend wellFormed rfl rfl rfl

/-- One event is queued at most, so that a call that takes one leaves none. -/
theorem queuedEvents_of_taken (printed : Printed past state)
    (wellFormed : state.sockets.WellFormed) (osTicksPerSec : OsTime) (sock : LorawanSock)
    (buffers : RecvBuffers) (payloadMaxLen : Byte) (timeoutMs : BitVec 32) (block : Nat)
    (ev : OsEvent)
    (taken : (lorawanRecv osTicksPerSec state.sockets sock buffers payloadMaxLen
      timeoutMs).2.taken = some (block, ev)) :
    state.sockets.queuedEvents = [ev] ∧
      (lorawanRecv osTicksPerSec state.sockets sock buffers payloadMaxLen
        timeoutMs).1.queuedEvents = [] := by
  have step := wellFormed.step_queues osTicksPerSec (.recv sock buffers payloadMaxLen timeoutMs)
  have traffic : ((sockets osTicksPerSec).reply state.sockets
      (.recv sock buffers payloadMaxLen timeoutMs)).traffic = some (.take block ev) := by
    simp only [Machine.reply, sockets, Prod.map, Reply.traffic, taken]
    rfl
  rw [traffic, next_recv] at step
  have nodup : (state.sockets.queues.map Prod.fst).Nodup := by
    rw [Sockets.State.queues_fst]
    exact wellFormed.blocks_nodup
  rcases step.contents_of_take nodup with ⟨before, after, whole, rest⟩
  rw [Sockets.State.contents_queues] at whole rest
  have few := printed.few
  rw [whole, List.length_append, List.length_cons] at few
  have noBefore : before = [] := List.eq_nil_of_length_eq_zero (by omega)
  have noAfter : after = [] := List.eq_nil_of_length_eq_zero (by omega)
  subst noBefore noAfter
  exact ⟨whole, rest⟩

/-- A step that takes the only event and prints its frame. -/
theorem consume (printed : Printed past state) {next : State} {event : Step × Output}
    {ev : OsEvent} (queued : state.sockets.queuedEvents = [ev])
    (emptied : next.sockets.queuedEvents = [])
    (line : printedBy event.2 = lineOf state.sockets.macIndication)
    (unaccepted : acceptedBy event = none) : Printed (past ++ [event]) next where
  few := by
    rw [emptied]
    exact Nat.zero_le 1
  balance := by
    have before := printed.balance
    have unread : state.unread = [state.sockets.macIndication] := by
      simp [State.unread, queued]
    have allRead : next.unread = [] := by simp [State.unread, emptied]
    rw [unread] at before
    cases observed : lineOf state.sockets.macIndication with
    | none =>
        rw [observed] at line
        simpa [Application.printed, accepted, unaccepted, allRead, line, observed] using before
    | some _ =>
        rw [observed] at line
        simpa [Application.printed, accepted, unaccepted, allRead, line, observed] using before

theorem rxThread (setup : Setup) (printed : Printed past state)
    (wellFormed : state.sockets.WellFormed) (allocated : Bool) (status : LoRaMacStatus) :
    Printed (past ++ [(.rx allocated status, (rxThread setup state allocated status).2)])
      (rxThread setup state allocated status).1 := by
  unfold Application.rxThread State.assert
  split
  next => exact printed.quiet rfl rfl rfl rfl
  next =>
    dsimp only
    split
    · exact printed.lorawanSocket rfl rfl rfl
    · exact printed.lorawanSocket rfl rfl rfl
  next =>
    dsimp only
    split
    · exact printed.lorawanBind wellFormed rfl rfl rfl
    · exact printed.lorawanBind wellFormed rfl rfl rfl
  next sock buffers _ =>
    have noEvent := lorawanRecv_of_not_taken setup.osTicksPerSec state.sockets sock buffers
      255#8 0#32
    have oneEvent := printed.queuedEvents_of_taken wellFormed setup.osTicksPerSec sock buffers
      255#8 0#32
    dsimp only
    rcases lorawanRecv_cases setup.osTicksPerSec state.sockets sock buffers 255#8 0#32 with
      ⟨returned, result⟩ | ⟨el, ev, rest, size, _, _, _, _, bound, result⟩
    · rw [result] at noEvent ⊢
      rcases (noEvent rfl).1 with waiting | zero
      · rw [show returned = none from waiting]
        exact printed.quiet rfl rfl rfl rfl
      · rw [show returned = some 0#8 from zero]
        exact printed.quiet rfl rfl rfl rfl
    · rw [result] at oneEvent ⊢
      rcases oneEvent el.block ev rfl with ⟨queued, rest⟩
      have whole : BitVec.ofNat 8 size = state.sockets.macIndication.bufferSize := by
        apply BitVec.eq_of_toNat_eq
        have small := state.sockets.macIndication.bufferSize.isLt
        simp only [BitVec.toNat_ofNat] at bound ⊢
        omega
      have value : size = state.sockets.macIndication.bufferSize.toNat := by
        have small := state.sockets.macIndication.bufferSize.isLt
        simp only [BitVec.toNat_ofNat] at bound
        omega
      have copied := (memcpy_payload state.sockets.macIndication buffers.payload
        (Nat.le_of_eq value)).1
      dsimp only
      rw [whole]
      split
      · next nonempty =>
        apply printed.consume queued rest _ rfl
        rw [lineOf, if_pos nonempty, printedBy, ← value, copied, value]
        rfl
      · next empty =>
        apply printed.consume queued rest _ rfl
        rw [lineOf, if_neg empty]
        rfl

/-- A frame that comes when nothing is queued. -/
theorem frame (printed : Printed past state) (wellFormed : state.sockets.WellFormed)
    {next : State} (frame : McpsIndication) (allocated : Bool)
    (prompt : state.sockets.queuedEvents = [])
    (indicated : next.sockets = (macReceive state.sockets frame allocated).1) :
    Printed (past ++ [(.frame frame allocated,
      .indicated (macReceive state.sockets frame allocated).2)]) next := by
  have nodup : (state.sockets.queues.map Prod.fst).Nodup := by
    rw [Sockets.State.queues_fst]
    exact wellFormed.blocks_nodup
  have step := wellFormed.step_queues 0#32 (.indication frame allocated)
  have before := printed.balance
  have read : state.unread = [] := by simp [State.unread, prompt]
  rw [read] at before
  rw [next_indication, ← indicated] at step
  rcases macReceive_cases state.sockets frame allocated with
    ⟨_, result⟩ | ⟨el, _, _, result⟩
  · have traffic : ((sockets 0#32).reply state.sockets (.indication frame allocated)).traffic =
        none := by
      simp [Machine.reply, sockets, result, Reply.traffic]
    rw [traffic] at step
    have emptied : next.sockets.queuedEvents = [] := by
      rw [← Sockets.State.contents_queues, step.contents_of_none nodup,
        Sockets.State.contents_queues, prompt]
    have refused : acceptedBy (.frame frame allocated, .indicated none) = none := rfl
    rw [result]
    constructor
    case few => simp [emptied]
    case balance =>
      simpa [Application.printed, accepted, printedBy, refused, State.unread, emptied]
        using before
  · have traffic : ((sockets 0#32).reply state.sockets (.indication frame allocated)).traffic =
        some (.put el.block ⟨state.sockets.eventBlocks, .macIndication⟩) := by
      simp [Machine.reply, sockets, result, Reply.traffic]
    rw [traffic] at step
    rcases step.contents_of_put nodup with ⟨front, back, whole, filled⟩
    rw [Sockets.State.contents_queues] at whole filled
    rw [prompt] at whole
    rcases List.append_eq_nil_iff.mp whole.symm with ⟨rfl, rfl⟩
    have object : next.sockets.macIndication = frame := by
      rw [indicated, result]
    have unread : next.unread = [frame] := by
      simp [State.unread, filled, object]
    rw [result]
    constructor
    case few => simp [filled]
    case balance =>
      rw [unread]
      simp [Application.printed, accepted, printedBy, acceptedBy] at before ⊢
      rw [before]

theorem next (setup : Setup) (printed : Printed past state)
    (wellFormed : state.sockets.WellFormed) (step : Step) (prompt : state.Prompt step) :
    Printed (past ++ [(step, (application setup).reply state step)])
      ((application setup).next state step) := by
  cases running : state.stopped with
  | true =>
      have halted : (application setup).step state step = (state, .quiet) := by
        simp [application, running]
      rw [Machine.next, Machine.reply, halted]
      apply printed.quiet rfl rfl rfl
      cases step <;> rfl
  | false =>
      simp only [Machine.next, Machine.reply, application, running, Bool.false_eq_true, if_false]
      cases step with
      | main answers created => exact printed.mainThread setup answers created
      | rx allocated status => exact printed.rxThread setup wellFormed allocated status
      | tx allocated answer status =>
          exact printed.txThread setup wellFormed allocated answer status
      | frame frame allocated => exact printed.frame wellFormed frame allocated prompt rfl
      | mac mibReq => exact printed.quiet rfl rfl rfl rfl

end Printed

/-- At an address other than 0 the receiving thread takes the event that is queued, if there
is one. -/
theorem Printed.read {past : History} {state : State} (printed : Printed past state)
    (sound : Sound past state) (setup : Setup) (running : state.stopped = false)
    {sock : LorawanSock} {buffers : RecvBuffers} (thread : state.rx = .receive sock buffers)
    (addressed : pinned past ≠ 0#32) (allocated : Bool) (status : LoRaMacStatus) :
    printedBy ((application setup).reply state (.rx allocated status)) =
        state.unread.head?.bind lineOf ∧
      ((application setup).next state (.rx allocated status)).unread = [] := by
  have rxSock : state.rx.sock = some sock := by
    rw [thread]
    rfl
  rcases sound.exists_rxEl rxSock with ⟨el, member, sameSock, address, ports⟩
  have found : lorawanFindEl state.sockets sock = some el := sameSock ▸ sound.find_eq member
  have pinnedEl : el.devAddr ≠ 0#32 := address ▸ addressed
  have ported : el.ports.firstUsed ≠ 8 := by
    intro unported
    have unbound := (Ports.firstUsed_eq_eight el.ports).mp unported 1#8
    rw [ports, thread] at unbound
    exact absurd unbound (by simp [RxThread.binds])
  cases queue : el.sockEventq with
  | nil =>
      have unqueued : state.sockets.queuedEvents = [] := by
        apply List.flatMap_eq_nil_iff.mpr
        intro other otherMem
        by_cases isRx : state.rx.sock = some other.sock
        · rw [rxSock, ← sameSock] at isRx
          rw [← sound.eq_of_sock member otherMem (Option.some.inj isRx), queue]
        · exact (sound.others other otherMem isRx).2.2
      have waiting : lorawanRecv setup.osTicksPerSec state.sockets sock buffers 255#8 0#32 =
          (state.sockets, { returned := none, buffers, taken := none }) := by
        simp [lorawanRecv, found, pinnedEl, ported, queue, osEventqPoll, recvTimo]
      have sleeps : (application setup).step state (.rx allocated status) = (state, .quiet) := by
        simp [application, running, Application.rxThread, thread, waiting]
      rw [Machine.reply, Machine.next, sleeps]
      simp [State.unread, unqueued, printedBy]
  | cons ev rest =>
      have taken : (lorawanRecv setup.osTicksPerSec state.sockets sock buffers 255#8
          0#32).2.taken = some (el.block, ev) := by
        simp [lorawanRecv, found, pinnedEl, ported, queue, osEventqPoll]
      have received : ((application setup).next state (.rx allocated status)).sockets =
          (lorawanRecv setup.osTicksPerSec state.sockets sock buffers 255#8 0#32).1 := by
        simpa [socketLayer, State.socketCalls, running, thread] using
          (socketLayer setup).view_next state (.rx allocated status)
      rcases printed.queuedEvents_of_taken sound.wellFormed setup.osTicksPerSec sock buffers
        255#8 0#32 el.block ev taken with ⟨queued, emptied⟩
      have allRead : ((application setup).next state (.rx allocated status)).unread = [] := by
        simp [State.unread, received, emptied]
      refine ⟨?_, allRead⟩
      -- What is printed makes up for what is no longer unread.
      have before := printed.balance
      have after := (printed.next setup sound.wellFormed (.rx allocated status) trivial).balance
      have noFrame : acceptedBy (.rx allocated status,
          (application setup).reply state (.rx allocated status)) = none := rfl
      have unread : state.unread = [state.sockets.macIndication] := by
        simp [State.unread, queued]
      rw [allRead, List.filterMap_nil, List.append_nil, accepted, List.filterMap_append,
        List.filterMap_cons_none noFrame, List.filterMap_nil, List.append_nil, ← accepted,
        ← before, unread, Application.printed, List.filterMap_append] at after
      have same := List.append_cancel_left after
      rw [unread, List.head?_cons, Option.bind_some]
      exact eq_of_filterMap_singleton same

/-- While every frame comes after the frame before it was read, each accepted frame that has a
payload is printed once, in order, with its own bytes; the last one may be still unread, and
then the receiving thread reads it next, provided its address is not 0. -/
theorem application_prints (setup : Setup) (mib : Configuration.Mib Unit) (steps : List Step)
    (prompt : (application setup).Along State.Prompt (.initial mib) steps) :
    let past := (application setup).trace (.initial mib) steps
    let state := (application setup).run (.initial mib) steps
    printed past ++ state.unread.filterMap lineOf = (accepted past).filterMap lineOf ∧
      state.unread.length ≤ 1 ∧
      (state.stopped = false → (∃ sock buffers, state.rx = .receive sock buffers) →
        pinned past ≠ 0#32 → ∀ allocated status,
          printedBy ((application setup).reply state (.rx allocated status)) =
              state.unread.head?.bind lineOf ∧
            ((application setup).next state (.rx allocated status)).unread = []) := by
  intro past state
  have sound : Sound past state := (Told.run setup mib steps).sound
  have balanced : Told past state ∧ Printed past state :=
    (application setup).history_along (fun past state => Told past state ∧ Printed past state)
      (fun past state step kept prompt =>
        ⟨⟨kept.1.sound.next setup kept.1.started step, kept.1.started.next setup step⟩,
          kept.2.next setup kept.1.sound.wellFormed step prompt⟩)
      steps [] (.initial mib) prompt
      ⟨⟨Sound.initial mib, Started.initial mib⟩, Printed.initial mib⟩
  refine ⟨balanced.2.balance, ?_, ?_⟩
  · rw [State.unread, List.length_map]
    exact balanced.2.few
  · intro running receiving addressed allocated status
    rcases receiving with ⟨sock, buffers, thread⟩
    exact balanced.2.read sound setup running thread addressed allocated status

/-- Two frames for port 1 once all ports are bound: the first has been printed before the second
comes, and the receiving thread's next turn prints the second. -/
theorem application_prints_two_frames :
    let setup : Setup := ⟨1000#32, #v[0#32, 0#32, 5#32], Vector.replicate 255 0#8, 0⟩
    let frame (byte : Byte) : McpsIndication := ⟨0#32, 5#32, 1#8, [byte], 1#8, Nat.le_refl 1⟩
    let line (byte : Byte) : Line := ⟨1#8, 5#32, 1#8, [byte]⟩
    let start : List Step :=
      List.replicate 3 (.main (fun _ => 0#32) true) ++ List.replicate 256 (.rx true 0#32)
    let steps : List Step :=
      start ++ [.frame (frame 7#8) true, .rx true 0#32, .frame (frame 8#8) true]
    let past := (application setup).trace (.initial Configuration.blankMib) steps
    let state := (application setup).run (.initial Configuration.blankMib) steps
    printed past = [line 7#8] ∧
      printed past ++ state.unread.filterMap lineOf = [line 7#8, line 8#8] ∧
      printedBy ((application setup).reply state (.rx true 0#32)) = some (line 8#8) := by
  intro setup frame line start steps past state
  have turns : ∀ step ∈ start, step = .main (fun _ => 0#32) true ∨ step = .rx true 0#32 := by
    intro step member
    rcases List.mem_append.mp member with main | rx
    · exact .inl (List.eq_of_mem_replicate main)
    · exact .inr (List.eq_of_mem_replicate rx)
  have quiet : (application setup).Along State.Prompt (.initial Configuration.blankMib) start := by
    apply Machine.Along.mono _ ((application setup).along_of_mem turns _)
    rintro state step (rfl | rfl)
    · trivial
    · trivial
  have empty : ((application setup).run (.initial Configuration.blankMib)
        start).sockets.queuedEvents = [] ∧
      ((application setup).run (.initial Configuration.blankMib)
        (start ++ [.frame (frame 7#8) true, .rx true 0#32])).sockets.queuedEvents = [] := by
    decide +kernel
  rcases empty with ⟨before, between⟩
  have prompt : (application setup).Along State.Prompt (.initial Configuration.blankMib) steps := by
    rw [Machine.run_append] at between
    exact ((application setup).along_append _ _ _ _).mpr ⟨quiet, before, trivial, between, trivial⟩
  have laws := application_prints setup Configuration.blankMib steps prompt
  have evaluated : printed past = [line 7#8] ∧ accepted past = [frame 7#8, frame 8#8] ∧
      state.unread.head? = some (frame 8#8) ∧ state.stopped = false ∧ pinned past ≠ 0#32 ∧
      state.rx = .receive 1#32 ⟨5#32, 1#8, 7#8 :: List.replicate 254 0#8⟩ := by
    decide +kernel
  rcases evaluated with ⟨first, taken, unread, running, addressed, receives⟩
  have next := (laws.2.2 running ⟨_, _, receives⟩ addressed true 0#32).1
  refine ⟨first, ?_, ?_⟩
  · rw [laws.1, taken]
    rfl
  · rw [next, unread]
    rfl

end Lorawan.Application
