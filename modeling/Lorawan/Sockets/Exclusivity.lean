import Lorawan.Sockets.Table

/-! # Exclusive ownership of couples

The header promises that a devAddr/port couple is bound to at most one socket.
`lorawan_bind` checks only the couple it adds. Two things escape the check: ports
collected while the socket's address is 0 move to the address that pins it, and
an owner whose identifier has wrapped to 0 reads as no owner. -/

namespace Lorawan.Sockets

/-- No port is set in two sockets of one address. -/
def State.Exclusive (state : State) : Prop :=
  ∀ left ∈ state.lSockList, ∀ right ∈ state.lSockList, left.block ≠ right.block →
    left.devAddr = right.devAddr →
      ∀ port, ¬(left.ports.contains port = true ∧ right.ports.contains port = true)

/-- What a `lorawan_bind` that gets past the address check needs of every other
socket at the requested address: it holds no port that the bound socket holds
already, and if it holds the requested port then its identifier is not 0. -/
def State.BindClear (state : State) : Call → Prop
  | .bind sock devAddr port =>
      ∀ el, lorawanFindEl state sock = some el →
        (el.devAddr = 0#32 ∨ el.devAddr = devAddr) →
          ∀ other ∈ state.lSockList, other.block ≠ el.block → other.devAddr = devAddr →
            (∀ held, ¬(el.ports.contains held = true ∧ other.ports.contains held = true)) ∧
              (port ≠ 0#8 → other.ports.contains port = true → other.sock ≠ 0#32)
  | _ => True

/-- What every other socket at an address has to be for a socket that moves there. -/
def State.ClearFor (state : State) (el : SockEl) (devAddr : DevAddr) (port : Port) : Prop :=
  ∀ other ∈ state.lSockList, other.block ≠ el.block → other.devAddr = devAddr →
    (∀ held, ¬(el.ports.contains held = true ∧ other.ports.contains held = true)) ∧
      (port ≠ 0#8 → other.ports.contains port = true → other.sock ≠ 0#32)

theorem State.bindClear_iff {state : State} {sock : LorawanSock} {el : SockEl}
    (found : lorawanFindEl state sock = some el) (devAddr : DevAddr) (port : Port) :
    state.BindClear (.bind sock devAddr port) ↔
      (el.devAddr = 0#32 ∨ el.devAddr = devAddr → state.ClearFor el devAddr port) := by
  simp [State.BindClear, State.ClearFor, found]

namespace State.Exclusive

theorem initial : State.initial.Exclusive := by
  simp [State.Exclusive, State.initial]

variable {state : State}

/-- Exclusivity is a property of the bindings. -/
theorem of_bindings {other : State} (exclusive : state.Exclusive)
    (same : other.bindings = state.bindings) : other.Exclusive := by
  have source : ∀ el ∈ other.lSockList, ∃ old ∈ state.lSockList, old.binding = el.binding := by
    intro el member
    have bound : el.binding ∈ state.bindings := same ▸ List.mem_map_of_mem member
    simpa [State.bindings] using bound
  intro left leftMem right rightMem different sameAddr port both
  rcases source left leftMem with ⟨oldLeft, oldLeftMem, leftEqual⟩
  rcases source right rightMem with ⟨oldRight, oldRightMem, rightEqual⟩
  simp only [SockEl.binding, Binding.mk.injEq] at leftEqual rightEqual
  rcases leftEqual with ⟨leftBlock, _, leftAddr, leftPorts⟩
  rcases rightEqual with ⟨rightBlock, _, rightAddr, rightPorts⟩
  rw [← leftPorts, ← rightPorts] at both
  rw [← leftBlock, ← rightBlock] at different
  rw [← leftAddr, ← rightAddr] at sameAddr
  exact exclusive oldLeft oldLeftMem oldRight oldRightMem different sameAddr port both

theorem subset {other : State} (exclusive : state.Exclusive)
    (subset : ∀ el ∈ other.lSockList, el ∈ state.lSockList) : other.Exclusive :=
  fun left leftMem right rightMem =>
    exclusive left (subset left leftMem) right (subset right rightMem)

theorem lorawanSocket (exclusive : state.Exclusive) (allocated : Bool) :
    (lorawanSocket state allocated).1.Exclusive := by
  cases allocated with
  | false => exact exclusive
  | true =>
      intro left leftMem right rightMem different sameAddr port both
      rcases List.mem_cons.mp leftMem with rfl | leftMem
      · simp at both
      · rcases List.mem_cons.mp rightMem with rfl | rightMem
        · simp at both
        · exact exclusive left leftMem right rightMem different sameAddr port both

/-- Writing back one record keeps exclusivity exactly when the record holds no
port that another socket of its address holds. -/
theorem store_iff (exclusive : state.Exclusive) (old new : SockEl)
    (oldMem : old ∈ state.lSockList) (sameBlock : new.block = old.block) :
    (state.store new).Exclusive ↔
      ∀ other ∈ state.lSockList, other.block ≠ old.block → other.devAddr = new.devAddr →
        ∀ port, ¬(new.ports.contains port = true ∧ other.ports.contains port = true) := by
  have members := fun other => WellFormed.mem_store old new other oldMem sameBlock
  constructor
  · intro stored other otherMem different sameAddr
    exact stored new ((members new).mpr (.inl rfl)) other
      ((members other).mpr (.inr ⟨otherMem, different⟩))
      (by rw [sameBlock]; exact different.symm) sameAddr.symm
  · intro clear left leftMem right rightMem different sameAddr port both
    rcases (members left).mp leftMem with leftNew | ⟨leftOld, leftOther⟩
    · subst leftNew
      rcases (members right).mp rightMem with rightNew | ⟨rightOld, rightOther⟩
      · exact different (congrArg SockEl.block rightNew.symm)
      · exact clear right rightOld rightOther sameAddr.symm port both
    · rcases (members right).mp rightMem with rightNew | ⟨rightOld, rightOther⟩
      · subst rightNew
        exact clear left leftOld leftOther sameAddr port both.symm
      · exact exclusive left leftOld right rightOld different sameAddr port both

/-- The lookup sees the table in which the socket is pinned already. It came back with
an identifier other than 0, or no port was asked for. -/
theorem pin_iff (wellFormed : state.WellFormed) (exclusive : state.Exclusive) {el : SockEl}
    (member : el ∈ state.lSockList) {devAddr : DevAddr} {port : Port}
    (taken : port = 0#8 ∨
      lorawanFindSockByParams (state.store { el with devAddr }) devAddr port ≠ 0#32) :
    (state.store { el with devAddr }).Exclusive ↔ state.ClearFor el devAddr port := by
  rw [store_iff exclusive el { el with devAddr } member rfl]
  constructor
  · intro disjoint other otherMem different sameAddr
    refine ⟨disjoint other otherMem different sameAddr, fun portSet holds zero => ?_⟩
    -- The couple was found, so its first holder has an identifier other than 0.
    rcases lorawanFindSockByParams_cases (state.store { el with devAddr }) devAddr port with
      ⟨first, firstMem, firstAddr, firstHolds, firstSock⟩ | ⟨_, none⟩
    · have firstIsOther : first = other := by
        rcases (WellFormed.mem_store el { el with devAddr } first member rfl).mp firstMem with
          rfl | ⟨firstMem, _⟩
        · exact absurd ⟨firstHolds, holds⟩ (disjoint other otherMem different sameAddr port)
        · by_contra apart
          exact exclusive first firstMem other otherMem
            (fun sameBlock => apart (wellFormed.eq_of_block_eq firstMem otherMem sameBlock))
            (firstAddr.trans sameAddr.symm) port ⟨firstHolds, holds⟩
      rw [firstSock, firstIsOther, zero] at taken
      simp [portSet] at taken
    · simp [none, portSet] at taken
  · intro clear other otherMem different sameAddr
    exact (clear other otherMem different sameAddr).1

/-- The lookup came back with 0. -/
theorem add_iff (exclusive : state.Exclusive) {el : SockEl} (member : el ∈ state.lSockList)
    {devAddr : DevAddr} {port : Port} (portSet : port ≠ 0#8)
    (free : lorawanFindSockByParams (state.store { el with devAddr }) devAddr port = 0#32) :
    (state.store { el with devAddr, ports := el.ports.add port }).Exclusive ↔
      state.ClearFor el devAddr port := by
  have pinnedMem := fun other => WellFormed.mem_store el { el with devAddr } other member rfl
  rw [store_iff exclusive el { el with devAddr, ports := el.ports.add port } member rfl]
  constructor
  · intro disjoint other otherMem different sameAddr
    refine ⟨fun held both => ?_, fun _ holds => ?_⟩
    · exact disjoint other otherMem different sameAddr held ⟨by simp [both.1], both.2⟩
    · exact absurd ⟨by simp, holds⟩ (disjoint other otherMem different sameAddr port)
  · intro clear other otherMem different sameAddr held both
    have otherClear := clear other otherMem different sameAddr
    rcases both with ⟨newHolds, otherHolds⟩
    rcases (by simpa using newHolds : el.ports.contains held = true ∨ held = port) with
      elHolds | rfl
    · exact otherClear.1 held ⟨elHolds, otherHolds⟩
    · -- It did so although `other` holds the couple.
      rcases lorawanFindSockByParams_cases (state.store { el with devAddr }) devAddr held with
        ⟨first, firstMem, firstAddr, firstHolds, firstSock⟩ | ⟨noHolder, _⟩
      · rcases (pinnedMem first).mp firstMem with rfl | ⟨firstMem, firstOther⟩
        · exact otherClear.1 held ⟨firstHolds, otherHolds⟩
        · exact (clear first firstMem firstOther firstAddr).2 portSet firstHolds
            (firstSock.symm.trans free)
      · have unheld := noHolder other ((pinnedMem other).mpr (.inr ⟨otherMem, different⟩)) sameAddr
        simp [otherHolds] at unheld

/-- A bind keeps exclusivity exactly when it is clear. -/
theorem bind_iff (wellFormed : state.WellFormed) (exclusive : state.Exclusive)
    (sock : LorawanSock) (devAddr : DevAddr) (port : Port) :
    (lorawanBind state sock devAddr port).1.Exclusive ↔
      state.BindClear (.bind sock devAddr port) := by
  rcases lorawanBind_cases state sock devAddr port with ⟨unknown, result⟩ | ⟨el, found, cases⟩
  · simp [result, State.BindClear, unknown, exclusive]
  have member := mem_of_lorawanFindEl found
  rw [State.bindClear_iff found]
  rcases cases with ⟨refused, result⟩ | ⟨accepts, taken, result⟩ | ⟨accepts, portSet, free, result⟩
  · rw [result, wellFormed.store_self member]
    exact ⟨fun _ accepts => absurd accepts refused, fun _ => exclusive⟩
  · rw [result, forall_prop_of_true accepts]
    exact pin_iff wellFormed exclusive member taken
  · rw [result, forall_prop_of_true accepts]
    exact add_iff exclusive member portSet free

theorem next_iff (osTicksPerSec : OsTime) (state : State) (call : Call)
    (wellFormed : state.WellFormed) (exclusive : state.Exclusive) :
    ((sockets osTicksPerSec).next state call).Exclusive ↔ state.BindClear call := by
  cases call with
  | socket allocated => exact ⟨fun _ => trivial, fun _ => exclusive.lorawanSocket allocated⟩
  | close sock =>
      refine ⟨fun _ => trivial, fun _ => ?_⟩
      rw [next_close]
      rcases lorawanClose_cases state sock with ⟨code, _, result⟩ | ⟨el, _, _, result⟩
      · rw [result]
        exact exclusive
      · rw [result]
        exact exclusive.subset fun el member => (RecordTable.mem_discard.mp member).1
  | bind sock devAddr port => exact bind_iff wellFormed exclusive sock devAddr port
  | send sock port payload payloadSize answer =>
      exact ⟨fun _ => trivial, fun _ => exclusive.of_bindings
        (wellFormed.bindings_send sock port payload payloadSize answer)⟩
  | recv sock buffers payloadMaxLen timeoutMs =>
      exact ⟨fun _ => trivial, fun _ => exclusive.of_bindings
        (wellFormed.bindings_recv osTicksPerSec sock buffers payloadMaxLen timeoutMs)⟩
  | indication frame allocated =>
      exact ⟨fun _ => trivial, fun _ => exclusive.of_bindings
        (wellFormed.bindings_indication frame allocated)⟩

end State.Exclusive

/-- Along every run, ownership is exclusive in all states exactly when every bind
of the run is clear. -/
theorem exclusive_throughout_iff (osTicksPerSec : OsTime) (calls : List Call) :
    (sockets osTicksPerSec).Throughout State.Exclusive State.initial calls ↔
      (sockets osTicksPerSec).Along State.BindClear State.initial calls :=
  (sockets osTicksPerSec).throughout_iff_along State.WellFormed
    (fun _ call wellFormed => wellFormed.next osTicksPerSec call)
    (State.Exclusive.next_iff osTicksPerSec) calls State.initial
    State.WellFormed.initial State.Exclusive.initial

/-- Port 5 of socket 1, bound at address 0, follows the socket to the address at
which socket 2 holds port 5. -/
def rekeyRun : List Call :=
  [.socket true, .socket true, .bind 1 0 5, .bind 2 7 5, .bind 1 7 6]

theorem rekeyRun_not_exclusive :
    ¬((sockets 1000).run State.initial rekeyRun).Exclusive := by
  let final := (sockets 1000).run State.initial rekeyRun
  intro exclusive
  have shared : ∃ left ∈ final.lSockList, ∃ right ∈ final.lSockList,
      left.block ≠ right.block ∧ left.devAddr = right.devAddr ∧
        left.ports.contains 5 = true ∧ right.ports.contains 5 = true := by decide
  rcases shared with ⟨left, leftMem, right, rightMem, different, sameAddr, both⟩
  exact exclusive left leftMem right rightMem different sameAddr 5 both

end Lorawan.Sockets
