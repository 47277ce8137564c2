import Lorawan.Sockets.Table

/-! # Binds that fail

`lorawan_bind` pins an unpinned socket to the address before it checks the port. A
refusal by one of the later checks leaves the pin behind. -/

namespace Lorawan.Sockets

variable {state : State}

/-- The first socket in the list that is `el` or has the address, and has the port,
has an identifier. -/
def State.Taken (state : State) (el : SockEl) (devAddr : DevAddr) (port : Port) : Prop :=
  ∃ holder, state.lSockList.find? (fun other =>
      (other.block == el.block || other.devAddr == devAddr) && other.ports.contains port) =
    some holder ∧ holder.sock ≠ 0#32

/-- The socket is not pinned yet, and the port is refused. -/
def State.HalfBinds (state : State) (sock : LorawanSock) (devAddr : DevAddr) (port : Port) :
    Prop :=
  ∃ el, lorawanFindEl state sock = some el ∧ el.devAddr = 0#32 ∧ devAddr ≠ 0#32 ∧
    (port = 0#8 ∨ state.Taken el devAddr port)

/-- A bind that does not return OK leaves the address and the ports of every socket as
they were. -/
def State.FailedBindKeepsBindings (state : State) (sock : LorawanSock) (devAddr : DevAddr)
    (port : Port) : Prop :=
  (lorawanBind state sock devAddr port).2 ≠ .ok →
    (lorawanBind state sock devAddr port).1.bindings = state.bindings

/-- A bind that does not return OK makes no difference to any later bind. -/
def State.FailedBindKeepsLater (osTicksPerSec : OsTime) (state : State) (sock : LorawanSock)
    (devAddr : DevAddr) (port : Port) : Prop :=
  (lorawanBind state sock devAddr port).2 ≠ .ok →
    ∀ (calls : List Call) (laterSock : LorawanSock) (laterAddr : DevAddr) (laterPort : Port),
      (lorawanBind ((sockets osTicksPerSec).run (lorawanBind state sock devAddr port).1 calls)
        laterSock laterAddr laterPort).2 =
      (lorawanBind ((sockets osTicksPerSec).run state calls) laterSock laterAddr laterPort).2

namespace State.WellFormed

/-- The lookup by couple that follows the pin. -/
theorem lorawanFindSockByParams_pinned (wellFormed : state.WellFormed) {el : SockEl}
    (member : el ∈ state.lSockList) (devAddr : DevAddr) (port : Port) :
    lorawanFindSockByParams (state.store { el with devAddr }) devAddr port ≠ 0#32 ↔
      state.Taken el devAddr port := by
  have search : (state.store { el with devAddr }).lSockList.find?
        (fun other => other.devAddr == devAddr && other.ports.contains port) =
      (state.lSockList.find? fun other =>
        (other.block == el.block || other.devAddr == devAddr) && other.ports.contains port).map
        fun other => if other.block = el.block then { el with devAddr } else other := by
    rw [State.lSockList_store, RecordTable.find?_store]
    congr 1
    apply List.find?_congr
    intro other otherMem
    by_cases same : other.block = el.block
    · rw [wellFormed.eq_of_block_eq otherMem member same]
      simp
    · have apart : (other.block == el.block) = false := beq_eq_false_iff_ne.mpr same
      rw [if_neg same, apart, Bool.false_or]
  rw [lorawanFindSockByParams_eq, search, State.Taken]
  cases found : state.lSockList.find? (fun other =>
      (other.block == el.block || other.devAddr == devAddr) && other.ports.contains port) with
  | none => simp
  | some holder =>
      have holderMem := List.mem_of_find?_eq_some found
      by_cases same : holder.block = el.block
      · have holderEq := wellFormed.eq_of_block_eq holderMem member same
        subst holderEq
        simp
      · simp [same]

/-- A refused port at an unpinned socket leaves the pin. -/
theorem lorawanBind_of_halfBinds (wellFormed : state.WellFormed) {sock : LorawanSock}
    {devAddr : DevAddr} {port : Port} {el : SockEl}
    (found : lorawanFindEl state sock = some el) (unpinned : el.devAddr = 0#32)
    (refused : port = 0#8 ∨ state.Taken el devAddr port) :
    lorawanBind state sock devAddr port =
      (state.store { el with devAddr }, .portAlreadyUsed) := by
  have member := mem_of_lorawanFindEl found
  rw [← wellFormed.lorawanFindSockByParams_pinned member] at refused
  rcases lorawanBind_cases state sock devAddr port with ⟨unknown, _⟩ | ⟨other, otherFound, cases⟩
  · rw [found] at unknown
    contradiction
  · rw [found] at otherFound
    cases otherFound
    rcases cases with ⟨pinnedElsewhere, _⟩ | ⟨_, _, result⟩ | ⟨_, portSet, free, _⟩
    · exact absurd (Or.inl unpinned) pinnedElsewhere
    · exact result
    · rcases refused with zero | taken
      · exact absurd zero portSet
      · exact absurd free taken

/-- Every other refusal changes nothing. -/
theorem lorawanBind_of_failed (wellFormed : state.WellFormed) {sock : LorawanSock}
    {devAddr : DevAddr} {port : Port} (failed : (lorawanBind state sock devAddr port).2 ≠ .ok)
    (whole : ¬state.HalfBinds sock devAddr port) :
    (lorawanBind state sock devAddr port).1 = state := by
  rcases lorawanBind_cases state sock devAddr port with ⟨_, result⟩ | ⟨el, found, cases⟩
  · rw [result]
  · have member := mem_of_lorawanFindEl found
    rcases cases with ⟨_, result⟩ | ⟨accepts, refused, result⟩ | ⟨_, _, _, result⟩
    · rw [result]
      exact wellFormed.store_self member
    · rw [wellFormed.lorawanFindSockByParams_pinned member] at refused
      have pinned : el.devAddr = devAddr := by
        rcases accepts with unpinned | pinned
        · by_cases zero : devAddr = 0#32
          · rw [unpinned, zero]
          · exact absurd ⟨el, found, unpinned, zero, refused⟩ whole
        · exact pinned
      subst pinned
      rw [result]
      exact wellFormed.store_self member
    · rw [result] at failed
      exact absurd rfl failed

/-- The pin is visible in the table. -/
theorem bindings_ne_of_halfBinds (wellFormed : state.WellFormed) {sock : LorawanSock}
    {devAddr : DevAddr} {port : Port} (half : state.HalfBinds sock devAddr port) :
    (lorawanBind state sock devAddr port).2 ≠ .ok ∧
      (lorawanBind state sock devAddr port).1.bindings ≠ state.bindings := by
  rcases half with ⟨el, found, unpinned, nonzero, refused⟩
  have member := mem_of_lorawanFindEl found
  rw [wellFormed.lorawanBind_of_halfBinds found unpinned refused]
  refine ⟨by simp, ?_⟩
  intro same
  have before : el.binding ∈ state.bindings := List.mem_map_of_mem member
  rw [← same] at before
  rcases List.mem_map.mp before with ⟨other, otherMem, equal⟩
  rcases (mem_store el { el with devAddr } other member rfl).mp otherMem with
    rfl | ⟨_, different⟩
  · have zero : devAddr = 0#32 := (congrArg Binding.devAddr equal).trans unpinned
    exact nonzero zero
  · exact different (congrArg Binding.block equal)

/-- A later bind to another address, which would have failed by its port, now fails by
its address. -/
theorem laterBind_of_halfBinds (wellFormed : state.WellFormed) {sock : LorawanSock}
    {devAddr : DevAddr} {port : Port} (half : state.HalfBinds sock devAddr port) :
    (lorawanBind state sock (devAddr + 1#32) 0#8).2 = .portAlreadyUsed ∧
      (lorawanBind (lorawanBind state sock devAddr port).1 sock (devAddr + 1#32) 0#8).2 =
        .error := by
  rcases half with ⟨el, found, unpinned, nonzero, refused⟩
  have member := mem_of_lorawanFindEl found
  constructor
  · rw [wellFormed.lorawanBind_of_halfBinds found unpinned (Or.inl rfl)]
  · have stillFound : lorawanFindEl (state.store { el with devAddr }) sock =
        some { el with devAddr } := by
      have search : (RecordTable.store SockEl.block { el with devAddr } state.lSockList).find?
            (fun other => other.sock == sock) =
          (state.lSockList.find? fun other => other.sock == sock).map
            fun other => if other.block = el.block then { el with devAddr } else other :=
        RecordTable.find?_store_of_eq wellFormed.blocks_nodup member rfl rfl
      unfold lorawanFindEl at found
      rw [lorawanFindEl, State.lSockList_store, search, found]
      simp
    rw [wellFormed.lorawanBind_of_halfBinds found unpinned refused, lorawanBind]
    simp [stillFound, nonzero]

end State.WellFormed

/-- In every reachable state a failed bind keeps the table, and the results of all
later binds, exactly when it does not stop between pinning the socket and adding the
port. -/
theorem failed_bind_clean_iff (osTicksPerSec : OsTime) (calls : List Call) (sock : LorawanSock)
    (devAddr : DevAddr) (port : Port) :
    let state := (sockets osTicksPerSec).run State.initial calls
    (state.FailedBindKeepsBindings sock devAddr port ↔ ¬state.HalfBinds sock devAddr port) ∧
      (state.FailedBindKeepsLater osTicksPerSec sock devAddr port ↔
        ¬state.HalfBinds sock devAddr port) := by
  intro state
  have wellFormed : state.WellFormed := State.WellFormed.run osTicksPerSec calls
  constructor
  · constructor
    · intro keeps half
      rcases wellFormed.bindings_ne_of_halfBinds half with ⟨failed, changed⟩
      exact changed (keeps failed)
    · intro whole failed
      rw [wellFormed.lorawanBind_of_failed failed whole]
  · constructor
    · intro keeps half
      have failed := (wellFormed.bindings_ne_of_halfBinds half).1
      rcases wellFormed.laterBind_of_halfBinds half with ⟨without, after⟩
      have same := keeps failed [] sock (devAddr + 1#32) 0#8
      rw [Machine.run_nil, Machine.run_nil, without, after] at same
      contradiction
    · intro whole failed later laterSock laterAddr laterPort
      rw [wellFormed.lorawanBind_of_failed failed whole]

/-- Port 0 is refused, and the socket cannot be bound to its real address any more. -/
theorem failed_bind_pins :
    let state := (sockets 1000#32).run State.initial [.socket true]
    (lorawanBind state 1#32 7#32 0#8).2 = .portAlreadyUsed ∧
      (lorawanBind state 1#32 7#32 0#8).1.bindings ≠ state.bindings ∧
      (lorawanBind state 1#32 8#32 5#8).2 = .ok ∧
      (lorawanBind (lorawanBind state 1#32 7#32 0#8).1 1#32 8#32 5#8).2 = .error ∧
      ¬state.FailedBindKeepsBindings 1#32 7#32 0#8 ∧
      ¬state.FailedBindKeepsLater 1000#32 1#32 7#32 0#8 := by
  intro state
  have refused : (lorawanBind state 1#32 7#32 0#8).2 = .portAlreadyUsed := by decide
  have changed : (lorawanBind state 1#32 7#32 0#8).1.bindings ≠ state.bindings := by
    intro same
    have addresses := congrArg (List.map Binding.devAddr) same
    exact absurd addresses (by decide)
  have without : (lorawanBind state 1#32 8#32 5#8).2 = .ok := by decide
  have after : (lorawanBind (lorawanBind state 1#32 7#32 0#8).1 1#32 8#32 5#8).2 = .error := by
    decide
  refine ⟨refused, changed, without, after, ?_, ?_⟩
  · intro keeps
    exact changed (keeps (by rw [refused]; decide))
  · intro keeps
    have same := keeps (by rw [refused]; decide) [] 1#32 8#32 5#8
    rw [Machine.run_nil, Machine.run_nil, without, after] at same
    contradiction

end Lorawan.Sockets
