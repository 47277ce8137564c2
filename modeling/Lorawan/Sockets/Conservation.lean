import Lorawan.Sockets.Events

/-! # Routing and conservation of receive events

Whatever the order of calls and frames, and whichever allocations fail, an event
goes to the tail of the queue of a socket that holds the frame's couple, stays
there, and leaves it once, through `lorawan_recv`. -/

namespace Lorawan.Sockets

open scoped List

/-- The record holds the couple of the frame. -/
def SockEl.Holds (el : SockEl) (frame : McpsIndication) : Prop :=
  el.devAddr = frame.devAddr ∧ el.ports.contains frame.port = true

/-- What the history of a run says about the queues in its last state. -/
structure Accounted (past : List (Call × Reply)) (state : State) : Prop where
  wellFormed : state.WellFormed
  conserved : Mailbox.Conserved (traffic past) state.queues
  allocated : (Mailbox.allPut (traffic past)).map OsEvent.block = List.range state.eventBlocks
  freed : state.freedEvents = (consumed past).map OsEvent.block

namespace Accounted

theorem initial : Accounted [] State.initial where
  wellFormed := .initial
  conserved := .empty
  allocated := rfl
  freed := rfl

variable {past : List (Call × Reply)} {state : State}

theorem traffic_next (osTicksPerSec : OsTime) (past : List (Call × Reply)) (state : State)
    (call : Call) :
    traffic (past ++ [(call, (sockets osTicksPerSec).reply state call)]) =
      traffic past ++ [((sockets osTicksPerSec).reply state call).traffic] := by
  simp [traffic]

/-- The blocks of the events are used in order, and freed in the order of the takes. -/
theorem blocks_next (osTicksPerSec : OsTime) (accounted : Accounted past state) (call : Call) :
    (Mailbox.allPut
        (traffic (past ++ [(call, (sockets osTicksPerSec).reply state call)]))).map OsEvent.block =
      List.range ((sockets osTicksPerSec).next state call).eventBlocks ∧
    ((sockets osTicksPerSec).next state call).freedEvents =
      (consumed (past ++ [(call, (sockets osTicksPerSec).reply state call)])).map
        OsEvent.block := by
  have blocks := event_blocks_next osTicksPerSec state call
  have allocated := accounted.allocated
  have freed := accounted.freed
  unfold consumed at freed ⊢
  rw [traffic_next]
  cases label : ((sockets osTicksPerSec).reply state call).traffic with
  | none =>
      simp only [label] at blocks
      simp [blocks, allocated, freed]
  | some moved =>
      cases moved with
      | put block ev =>
          simp only [label] at blocks
          simp [blocks, allocated, freed, List.range_succ]
      | take block ev =>
          simp only [label] at blocks
          simp [blocks, allocated, freed]

theorem next (osTicksPerSec : OsTime) (accounted : Accounted past state) (call : Call) :
    Accounted (past ++ [(call, (sockets osTicksPerSec).reply state call)])
      ((sockets osTicksPerSec).next state call) where
  wellFormed := accounted.wellFormed.next osTicksPerSec call
  conserved := by
    rw [traffic_next]
    exact accounted.conserved.step (accounted.wellFormed.step_queues osTicksPerSec call)
  allocated := (accounted.blocks_next osTicksPerSec call).1
  freed := (accounted.blocks_next osTicksPerSec call).2

theorem run (osTicksPerSec : OsTime) (calls : List Call) :
    Accounted ((sockets osTicksPerSec).trace State.initial calls)
      ((sockets osTicksPerSec).run State.initial calls) :=
  (sockets osTicksPerSec).history Accounted
    (fun _ _ call accounted => accounted.next osTicksPerSec call) calls State.initial initial

/-- Each event allocated so far is in one queue, once, or was freed, once. -/
theorem events_perm (accounted : Accounted past state) :
    List.range state.eventBlocks ~
      state.queuedEvents.map OsEvent.block ++ state.freedEvents := by
  have total := accounted.conserved.total.map OsEvent.block
  rw [accounted.allocated, State.contents_queues, List.map_append] at total
  rw [accounted.freed]
  exact total

end Accounted

/-! ## Routing -/

namespace State.LiveIds

variable {state : State}

/-- A frame is dispatched to the first record that holds its couple. -/
theorem dispatchesTo_holds (live : state.LiveIds) {frame : McpsIndication} {el : SockEl}
    (target : state.dispatchesTo frame el) : el ∈ state.lSockList ∧ el.Holds frame := by
  have member := mem_of_lorawanFindEl target.2
  have sameSock := sock_of_lorawanFindEl target.2
  refine ⟨member, ?_⟩
  rcases lorawanFindSockByParams_cases state frame.devAddr frame.port with
    ⟨holder, holderMem, sameAddr, holds, result⟩ | ⟨_, zero⟩
  · rw [result] at sameSock
    have same : el = holder := List.inj_on_of_nodup_map live.2 member holderMem sameSock
    rw [same]
    exact ⟨sameAddr, holds⟩
  · rw [zero] at sameSock
    exact absurd sameSock (live.1 el member)

theorem exists_dispatchesTo_iff (live : state.LiveIds) (frame : McpsIndication) :
    (∃ el, state.dispatchesTo frame el) ↔
      frame.status = loRaMacEventInfoStatusOk ∧ ∃ el ∈ state.lSockList, el.Holds frame := by
  constructor
  · intro queued
    rcases queued with ⟨el, target⟩
    exact ⟨target.1, el, live.dispatchesTo_holds target⟩
  · intro accepted
    rcases accepted with ⟨statusOk, el, member, sameAddr, holds⟩
    rcases lorawanFindSockByParams_cases state frame.devAddr frame.port with
      ⟨holder, holderMem, _, _, result⟩ | ⟨nobody, _⟩
    · refine ⟨holder, statusOk, ?_⟩
      rw [result]
      exact live.lorawanFindEl_eq holderMem
    · have unheld := nobody el member sameAddr
      simp [holds] at unheld

end State.LiveIds

/-- What an indication does in a state. -/
structure RoutingLaws (state : State) (frame : McpsIndication) (allocated : Bool) : Prop where
  /-- An event is queued exactly when the status is right, some live socket holds
  the couple, and `malloc` succeeds. -/
  queued_iff : (macReceive state frame allocated).2.isSome = true ↔
    frame.status = loRaMacEventInfoStatusOk ∧
      (∃ el ∈ state.lSockList, el.Holds frame) ∧ allocated = true
  /-- The event is a fresh one, and it goes to the tail of one queue of a holder,
  every other record being as before. -/
  queued_at : ∀ delivery, (macReceive state frame allocated).2 = some delivery →
    ∃ before el after, state.lSockList = before ++ el :: after ∧ el.Holds frame ∧
      delivery.block = el.block ∧ delivery.ev.block = state.eventBlocks ∧
      (macReceive state frame allocated).1.eventBlocks = state.eventBlocks + 1 ∧
      (macReceive state frame allocated).1.lSockList =
        before ++ { el with sockEventq := el.sockEventq ++ [delivery.ev] } :: after
  /-- Without an event all queues stay as they are, and nothing is allocated. -/
  not_queued : (macReceive state frame allocated).2 = none →
    (macReceive state frame allocated).1.lSockList = state.lSockList ∧
      (macReceive state frame allocated).1.eventBlocks = state.eventBlocks

theorem State.WellFormed.routingLaws {state : State} (wellFormed : state.WellFormed)
    (live : state.LiveIds) (frame : McpsIndication) (allocated : Bool) :
    RoutingLaws state frame allocated := by
  have targets := live.exists_dispatchesTo_iff frame
  rcases macReceive_cases state frame allocated with
    ⟨refused, result⟩ | ⟨el, isAllocated, target, result⟩
  · constructor
    case queued_iff =>
      rw [result]
      constructor
      · intro impossible
        simp at impossible
      · intro accepted
        rcases accepted with ⟨statusOk, holder, isAllocated⟩
        rcases refused with failed | nobody
        · simp [isAllocated] at failed
        · rcases targets.mpr ⟨statusOk, holder⟩ with ⟨el, target⟩
          exact absurd target (nobody el)
    case queued_at =>
      intro delivery queued
      simp [result] at queued
    case not_queued =>
      intro _
      rw [result]
      exact ⟨rfl, rfl⟩
  · have holds := live.dispatchesTo_holds target
    constructor
    case queued_iff =>
      rw [result]
      constructor
      · intro _
        exact ⟨target.1, ⟨el, holds⟩, isAllocated⟩
      · intro _
        rfl
    case queued_at =>
      intro delivery queued
      rw [result] at queued
      rcases Option.some.inj queued with rfl
      rcases RecordTable.exists_split wellFormed.blocks_nodup holds.1 with
        ⟨before, after, split, stored, _⟩
      refine ⟨before, el, after, split, holds.2, rfl, rfl, ?_, ?_⟩
      · rw [result]
      · rw [result]
        exact stored { el with
          sockEventq := el.sockEventq ++ [⟨state.eventBlocks, .macIndication⟩] } rfl
    case not_queued =>
      intro none
      simp [result] at none

/-! ## The whole run -/

/-- The laws of the events in the last state of a run with history `past`. -/
structure EventLaws (osTicksPerSec : OsTime) (past : List (Call × Reply)) (state : State) :
    Prop where
  routing : ∀ frame allocated, RoutingLaws state frame allocated
  /-- Whatever comes next puts one event in, takes the oldest event of one queue
  out, opens an empty queue, closes an empty queue, or moves nothing. -/
  moves : ∀ call, Mailbox.Step state.queues
    ((sockets osTicksPerSec).reply state call).traffic
    ((sockets osTicksPerSec).next state call).queues
  /-- The events allocated are those in the queues of the live sockets together
  with those freed, each of them once. -/
  allocated : List.range state.eventBlocks ~
    state.queuedEvents.map OsEvent.block ++ state.freedEvents
  /-- Events are freed by the `lorawan_recv` that took them. -/
  freed : state.freedEvents = (consumed past).map OsEvent.block
  /-- What was accepted for a live socket is what it consumed, then its queue. -/
  live : ∀ el ∈ state.lSockList,
    acceptedOn el.block past = consumedOn el.block past ++ el.sockEventq
  /-- A socket that is gone had consumed all that was accepted for it. -/
  closed : ∀ block, block ∉ state.lSockList.map SockEl.block →
    acceptedOn block past = consumedOn block past
  /-- `lorawan_close` discards no event. -/
  close_keeps : ∀ sock, (lorawanClose state sock).1.queuedEvents = state.queuedEvents

theorem State.WellFormed.queuedEvents_close {state : State} (wellFormed : state.WellFormed)
    (sock : LorawanSock) : (lorawanClose state sock).1.queuedEvents = state.queuedEvents := by
  rcases lorawanClose_cases state sock with ⟨code, _, result⟩ | ⟨el, found, empty, result⟩
  · rw [result]
  · rw [result]
    have nodup : (state.queues.map Prod.fst).Nodup := by
      rw [State.queues_fst]
      exact wellFormed.blocks_nodup
    have member := State.mem_queues (mem_of_lorawanFindEl found)
    rw [empty] at member
    rcases Mailbox.exists_contents_split nodup member with ⟨before, after, whole, _, dropped⟩
    rw [← State.contents_queues, ← State.contents_queues, State.queues_discard, dropped, whole]
    simp

theorem Accounted.eventLaws {past : List (Call × Reply)} {state : State}
    (accounted : Accounted past state) (live : state.LiveIds) (osTicksPerSec : OsTime) :
    EventLaws osTicksPerSec past state where
  routing := accounted.wellFormed.routingLaws live
  moves := accounted.wellFormed.step_queues osTicksPerSec
  allocated := accounted.events_perm
  freed := accounted.freed
  live el member := accounted.conserved.open_box el.block el.sockEventq (State.mem_queues member)
  closed block gone :=
    accounted.conserved.closed_box block (by rw [State.queues_fst]; exact gone)
  close_keeps := accounted.wellFormed.queuedEvents_close

/-- In every run with fewer than `2 ^ 32 - 1` creations. -/
theorem receive_events_conserved (osTicksPerSec : OsTime) (calls : List Call)
    (few : creations calls < 2 ^ 32 - 1) :
    EventLaws osTicksPerSec ((sockets osTicksPerSec).trace State.initial calls)
      ((sockets osTicksPerSec).run State.initial calls) :=
  (Accounted.run osTicksPerSec calls).eventLaws
    (State.LiveIds.run osTicksPerSec calls few) osTicksPerSec

/-- Two sockets, and a frame for one of them. -/
theorem receive_events_conserved_one_frame :
    EventLaws 1000
      ((sockets 1000).trace State.initial
        [.socket true, .socket true, .bind 1 7 5, .indication { McpsIndication.zero with
          devAddr := 7, port := 5 } true])
      ((sockets 1000).run State.initial
        [.socket true, .socket true, .bind 1 7 5, .indication { McpsIndication.zero with
          devAddr := 7, port := 5 } true]) :=
  receive_events_conserved 1000 _ (by decide)

end Lorawan.Sockets
