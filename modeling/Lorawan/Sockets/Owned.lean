import Lorawan.Sockets.Exclusivity
import Lorawan.Sockets.Identifiers

/-! # Runs whose binds name an address

While every bind names a nonzero address and the identifiers have not wrapped,
one invariant joins the others: identifiers resolve, ownership is exclusive, and
a socket without an address holds no port. -/

namespace Lorawan.Sockets

/-- Every `lorawan_bind` passes a nonzero address. -/
def Call.BindsNonzero : Call → Prop
  | .bind _ devAddr _ => devAddr ≠ 0#32
  | _ => True

instance : DecidablePred Call.BindsNonzero
  | .bind _ devAddr _ => inferInstanceAs (Decidable (devAddr ≠ 0#32))
  | .socket _ => inferInstanceAs (Decidable True)
  | .close _ => inferInstanceAs (Decidable True)
  | .send .. => inferInstanceAs (Decidable True)
  | .recv .. => inferInstanceAs (Decidable True)
  | .indication .. => inferInstanceAs (Decidable True)

/-- The number of sockets that a run creates. -/
def creations (calls : List Call) : Nat :=
  calls.count (.socket true)

/-- A socket without an address has no ports, and port 0 is never bound. -/
def Binding.Proper (binding : Binding) : Prop :=
  (binding.devAddr = 0#32 → ∀ port, binding.ports.contains port = false) ∧
    binding.ports.contains 0#8 = false

/-- The combined invariant of runs with nonzero binds and fresh identifiers. -/
structure State.Owned (state : State) : Prop where
  wellFormed : state.WellFormed
  liveIds : state.LiveIds
  exclusive : state.Exclusive
  proper : ∀ binding ∈ state.bindings, binding.Proper

/-! ## Counting creations -/

theorem sockBlocks_next (osTicksPerSec : OsTime) (state : State) (call : Call) :
    ((sockets osTicksPerSec).next state call).sockBlocks =
      state.sockBlocks + creations [call] := by
  cases call with
  | socket allocated => cases allocated <;> rfl
  | close sock =>
      rcases lorawanClose_frame state sock with ⟨table, result⟩
      rw [next_close, result]
      rfl
  | bind sock devAddr port =>
      rcases lorawanBind_frame state sock devAddr port with ⟨table, result⟩
      rw [next_bind, result]
      rfl
  | send sock port payload payloadSize answer =>
      rcases lorawanSend_frame state sock port payload payloadSize answer with ⟨table, result⟩
      rw [next_send, result]
      rfl
  | recv sock buffers payloadMaxLen timeoutMs =>
      rcases lorawanRecv_frame osTicksPerSec state sock buffers payloadMaxLen timeoutMs with
        ⟨table, freed, result⟩
      rw [next_recv, result]
      rfl
  | indication frame allocated =>
      rcases macReceive_frame state frame allocated with ⟨table, eventBlocks, result⟩
      rw [next_indication, result]
      rfl

/-- Until `2 ^ 32 - 1` sockets have been created every creation is fresh. -/
theorem along_idFresh_of_creations (osTicksPerSec : OsTime) :
    ∀ (calls : List Call) (state : State), state.WellFormed →
      state.sockBlocks + creations calls < 2 ^ 32 - 1 →
      (sockets osTicksPerSec).Along State.IdFresh state calls
  | [], _, _, _ => trivial
  | call :: calls, state, wellFormed, few => by
      have split : creations (call :: calls) = creations [call] + creations calls := by
        unfold creations
        rw [← List.count_append]
        rfl
      have counted := sockBlocks_next osTicksPerSec state call
      refine ⟨?_, along_idFresh_of_creations osTicksPerSec calls _
        (wellFormed.next osTicksPerSec call) (by omega)⟩
      cases call with
      | socket allocated =>
          cases allocated with
          | false => trivial
          | true =>
              have one : creations [.socket true] = 1 := rfl
              refine ⟨by omega, fun el member => ?_⟩
              have older : el.block < state.sockBlocks := wellFormed.block_lt el member
              omega
      | close _ => trivial
      | bind _ _ _ => trivial
      | send _ _ _ _ _ => trivial
      | recv _ _ _ _ => trivial
      | indication _ _ => trivial

/-- With fewer than `2 ^ 32 - 1` creations the identifiers stay sound, whatever the
other calls are. -/
theorem State.LiveIds.run (osTicksPerSec : OsTime) (calls : List Call)
    (few : creations calls < 2 ^ 32 - 1) :
    ((sockets osTicksPerSec).run State.initial calls).LiveIds := by
  have fresh := along_idFresh_of_creations osTicksPerSec calls State.initial
    WellFormed.initial (by simpa [State.initial] using few)
  have invariant := (sockets osTicksPerSec).run_invariant_along
    (fun state => state.WellFormed ∧ state.LiveIds)
    (fun state call holds idFresh => ⟨holds.1.next osTicksPerSec call,
      (LiveIds.next_iff osTicksPerSec state call holds.1 holds.2).mpr idFresh⟩)
    calls State.initial fresh ⟨.initial, .initial⟩
  exact invariant.2

/-! ## The combined invariant -/

namespace State.Owned

theorem initial : State.initial.Owned where
  wellFormed := .initial
  liveIds := .initial
  exclusive := .initial
  proper := by simp [State.bindings, State.initial]

variable {state : State}

theorem proper_of_mem (owned : state.Owned) {el : SockEl} (member : el ∈ state.lSockList) :
    el.binding.Proper :=
  owned.proper el.binding (List.mem_map_of_mem member)

/-- A socket that holds a port at an address that a bind may name is pinned to it. -/
theorem devAddr_eq_of_contains (owned : state.Owned) {el : SockEl}
    (member : el ∈ state.lSockList) {devAddr : DevAddr} {port : Port}
    (accepts : el.devAddr = 0#32 ∨ el.devAddr = devAddr)
    (holds : el.ports.contains port = true) : el.devAddr = devAddr := by
  rcases accepts with zero | same
  · have none := (owned.proper_of_mem member).1 zero port
    exact absurd holds (by simpa [SockEl.binding] using none)
  · exact same

theorem bindClear (owned : state.Owned) (call : Call) : state.BindClear call := by
  cases call with
  | bind sock devAddr port =>
      intro el found accepts other otherMem different sameAddr
      have member := mem_of_lorawanFindEl found
      refine ⟨fun held both => ?_, fun _ _ => owned.liveIds.1 other otherMem⟩
      have pinned := owned.devAddr_eq_of_contains member accepts both.1
      exact owned.exclusive el member other otherMem different.symm
        (pinned.trans sameAddr.symm) held both
  | socket _ => trivial
  | close _ => trivial
  | send _ _ _ _ _ => trivial
  | recv _ _ _ _ => trivial
  | indication _ _ => trivial

/-- Writing back a record whose binding is proper. -/
theorem proper_store (owned : state.Owned) {old new : SockEl}
    (oldMem : old ∈ state.lSockList) (sameBlock : new.block = old.block)
    (proper : new.binding.Proper) :
    ∀ binding ∈ (state.store new).bindings, binding.Proper := by
  intro binding bound
  rcases List.mem_map.mp bound with ⟨el, member, rfl⟩
  rcases (WellFormed.mem_store old new el oldMem sameBlock).mp member with rfl | ⟨member, _⟩
  · exact proper
  · exact owned.proper_of_mem member

theorem proper_bind (owned : state.Owned) (sock : LorawanSock) (devAddr : DevAddr)
    (port : Port) (nonzero : devAddr ≠ 0#32) :
    ∀ binding ∈ (lorawanBind state sock devAddr port).1.bindings, binding.Proper := by
  rcases lorawanBind_cases state sock devAddr port with ⟨_, result⟩ | ⟨el, found, cases⟩
  · rw [result]
    exact owned.proper
  have member := mem_of_lorawanFindEl found
  have noZero := (owned.proper_of_mem member).2
  rcases cases with ⟨_, result⟩ | ⟨_, _, result⟩ | ⟨_, portSet, _, result⟩
  all_goals rw [result]
  · exact owned.proper_store member rfl (owned.proper_of_mem member)
  · exact owned.proper_store member rfl ⟨fun zero => absurd zero nonzero, noZero⟩
  · refine owned.proper_store member rfl ⟨fun zero => absurd zero nonzero, ?_⟩
    have noZero : el.ports.contains 0#8 = false := noZero
    simp [SockEl.binding, noZero, portSet.symm]

theorem next (osTicksPerSec : OsTime) (owned : state.Owned) (call : Call)
    (nonzero : call.BindsNonzero) (fresh : state.IdFresh call) :
    ((sockets osTicksPerSec).next state call).Owned where
  wellFormed := owned.wellFormed.next osTicksPerSec call
  liveIds := (LiveIds.next_iff osTicksPerSec state call owned.wellFormed owned.liveIds).mpr fresh
  exclusive := (Exclusive.next_iff osTicksPerSec state call owned.wellFormed
    owned.exclusive).mpr (owned.bindClear call)
  proper := by
    cases call with
    | socket allocated =>
        cases allocated with
        | false => exact owned.proper
        | true =>
            intro binding bound
            rcases List.mem_cons.mp bound with rfl | bound
            · exact ⟨fun _ port => Ports.contains_empty port, Ports.contains_empty 0#8⟩
            · exact owned.proper binding bound
    | close sock =>
        rw [next_close]
        rcases lorawanClose_cases state sock with ⟨code, _, result⟩ | ⟨el, _, _, result⟩
        · rw [result]
          exact owned.proper
        · rw [result]
          intro binding bound
          rcases List.mem_map.mp bound with ⟨kept, member, rfl⟩
          exact owned.proper_of_mem (RecordTable.mem_discard.mp member).1
    | bind sock devAddr port => exact owned.proper_bind sock devAddr port nonzero
    | send sock port payload payloadSize answer =>
        rw [next_send, owned.wellFormed.bindings_send]
        exact owned.proper
    | recv sock buffers payloadMaxLen timeoutMs =>
        rw [next_recv, owned.wellFormed.bindings_recv]
        exact owned.proper
    | indication frame allocated =>
        rw [next_indication, owned.wellFormed.bindings_indication]
        exact owned.proper

/-- The invariant holds after every run with nonzero binds and few creations. -/
theorem run (osTicksPerSec : OsTime) (calls : List Call)
    (nonzero : ∀ call ∈ calls, call.BindsNonzero) (few : creations calls < 2 ^ 32 - 1) :
    ((sockets osTicksPerSec).run State.initial calls).Owned := by
  have fresh := along_idFresh_of_creations osTicksPerSec calls State.initial
    WellFormed.initial (by simpa [State.initial] using few)
  have binds := (sockets osTicksPerSec).along_of_mem nonzero State.initial
  exact (sockets osTicksPerSec).run_invariant_along State.Owned
    (fun state call owned guard => owned.next osTicksPerSec call guard.1 guard.2)
    calls State.initial (Machine.Along.and binds fresh) initial

end State.Owned

end Lorawan.Sockets
