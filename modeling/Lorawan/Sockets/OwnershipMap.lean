import Lorawan.Library.Registry
import Lorawan.Sockets.Owned

/-! # The socket table as an ownership map

In the runs of `Lorawan.Sockets.Owned` the table is a partial map from
devAddr/port couples to sockets, and the lookup, bind and close functions are the
operations of that map. -/

namespace Lorawan.Sockets

/-- The live socket `sock` has the address and the bit of the port. -/
def State.Owner (state : State) (devAddr : DevAddr) (port : Port) (sock : LorawanSock) :
    Prop :=
  ∃ el ∈ state.lSockList, el.sock = sock ∧ el.devAddr = devAddr ∧
    el.ports.contains port = true

/-- The socket is live, and its address is unset or the given one. -/
def State.Admits (state : State) (sock : LorawanSock) (devAddr : DevAddr) : Prop :=
  ∃ el ∈ state.lSockList, el.sock = sock ∧ (el.devAddr = 0#32 ∨ el.devAddr = devAddr)

namespace State

variable {state : State}

/-- Ownership is a property of the bindings. -/
theorem owner_of_bindings {other : State} (same : other.bindings = state.bindings)
    (devAddr : DevAddr) (port : Port) (sock : LorawanSock) :
    other.Owner devAddr port sock ↔ state.Owner devAddr port sock := by
  have reads : ∀ table : State, table.Owner devAddr port sock ↔
      ∃ binding ∈ table.bindings, binding.sock = sock ∧ binding.devAddr = devAddr ∧
        binding.ports.contains port = true := by
    intro table
    simp [State.Owner, State.bindings, SockEl.binding]
  rw [reads, reads, same]

/-- What the owners are after a record is written back. -/
theorem owner_store (old new : SockEl) (oldMem : old ∈ state.lSockList)
    (sameBlock : new.block = old.block) (devAddr : DevAddr) (port : Port)
    (sock : LorawanSock) :
    (state.store new).Owner devAddr port sock ↔
      (new.sock = sock ∧ new.devAddr = devAddr ∧ new.ports.contains port = true) ∨
      ∃ other ∈ state.lSockList, other.block ≠ old.block ∧ other.sock = sock ∧
        other.devAddr = devAddr ∧ other.ports.contains port = true := by
  constructor
  · intro owns
    rcases owns with ⟨el, member, facts⟩
    rcases (WellFormed.mem_store old new el oldMem sameBlock).mp member with
      rfl | ⟨member, different⟩
    · exact .inl facts
    · exact .inr ⟨el, member, different, facts⟩
  · intro owns
    rcases owns with facts | ⟨el, member, different, facts⟩
    · exact ⟨new, (WellFormed.mem_store old new new oldMem sameBlock).mpr (.inl rfl), facts⟩
    · exact ⟨el, (WellFormed.mem_store old new el oldMem sameBlock).mpr
        (.inr ⟨member, different⟩), facts⟩

namespace Owned

/-- A couple has at most one holder in the table. -/
theorem holder_unique (owned : state.Owned) {left right : SockEl}
    (leftMem : left ∈ state.lSockList) (rightMem : right ∈ state.lSockList)
    (sameAddr : left.devAddr = right.devAddr) {port : Port}
    (leftHolds : left.ports.contains port = true)
    (rightHolds : right.ports.contains port = true) : left = right := by
  by_contra different
  exact owned.exclusive left leftMem right rightMem
    (fun sameBlock => different (owned.wellFormed.eq_of_block_eq leftMem rightMem sameBlock))
    sameAddr port ⟨leftHolds, rightHolds⟩

theorem owner_unique (owned : state.Owned) {devAddr : DevAddr} {port : Port}
    {left right : LorawanSock} (leftOwns : state.Owner devAddr port left)
    (rightOwns : state.Owner devAddr port right) : left = right := by
  rcases leftOwns with ⟨leftEl, leftMem, rfl, leftAddr, leftHolds⟩
  rcases rightOwns with ⟨rightEl, rightMem, rfl, rightAddr, rightHolds⟩
  rw [owned.holder_unique leftMem rightMem (leftAddr.trans rightAddr.symm) leftHolds rightHolds]

/-- A live socket is known by its identifier. -/
theorem eq_of_sock_eq (owned : state.Owned) {left right : SockEl}
    (leftMem : left ∈ state.lSockList) (rightMem : right ∈ state.lSockList)
    (sameSock : left.sock = right.sock) : left = right :=
  List.inj_on_of_nodup_map owned.liveIds.2 leftMem rightMem sameSock

theorem lorawanFindSockByParams_of_owner (owned : state.Owned) {devAddr : DevAddr}
    {port : Port} {sock : LorawanSock} (owns : state.Owner devAddr port sock) :
    lorawanFindSockByParams state devAddr port = sock := by
  rcases owns with ⟨el, member, rfl, sameAddr, holds⟩
  rcases lorawanFindSockByParams_cases state devAddr port with
    ⟨found, foundMem, foundAddr, foundHolds, result⟩ | ⟨none, _⟩
  · rw [result, owned.holder_unique foundMem member (foundAddr.trans sameAddr.symm)
      foundHolds holds]
  · have unheld := none el member sameAddr
    simp [holds] at unheld

theorem lorawanFindSockByParams_eq_zero (owned : state.Owned) (devAddr : DevAddr)
    (port : Port) :
    lorawanFindSockByParams state devAddr port = 0#32 ↔
      ∀ sock, ¬state.Owner devAddr port sock := by
  constructor
  · intro zero sock owns
    have result := owned.lorawanFindSockByParams_of_owner owns
    rcases owns with ⟨el, member, rfl, _⟩
    exact owned.liveIds.1 el member (result.symm.trans zero)
  · intro nobody
    rcases lorawanFindSockByParams_cases state devAddr port with
      ⟨found, foundMem, foundAddr, foundHolds, _⟩ | ⟨_, zero⟩
    · exact absurd ⟨found, foundMem, rfl, foundAddr, foundHolds⟩ (nobody found.sock)
    · exact zero

/-- Pinning a socket without ports does not move a couple. -/
theorem owner_pin (owned : state.Owned) {el : SockEl} (member : el ∈ state.lSockList)
    {devAddr : DevAddr} (accepts : el.devAddr = 0#32 ∨ el.devAddr = devAddr)
    (otherAddr : DevAddr) (otherPort : Port) (otherSock : LorawanSock) :
    (state.store { el with devAddr }).Owner otherAddr otherPort otherSock ↔
      state.Owner otherAddr otherPort otherSock := by
  rw [owner_store el { el with devAddr } member rfl]
  constructor
  · intro owns
    rcases owns with ⟨sameSock, sameAddr, holds⟩ | ⟨other, otherMem, _, facts⟩
    · have pinned := owned.devAddr_eq_of_contains member accepts holds
      exact ⟨el, member, sameSock, pinned.trans sameAddr, holds⟩
    · exact ⟨other, otherMem, facts⟩
  · intro owns
    rcases owns with ⟨other, otherMem, sameSock, sameAddr, holds⟩
    by_cases same : other.block = el.block
    · have equal := owned.wellFormed.eq_of_block_eq otherMem member same
      subst equal
      have pinned := owned.devAddr_eq_of_contains otherMem accepts holds
      exact .inl ⟨sameSock, pinned.symm.trans sameAddr, holds⟩
    · exact .inr ⟨other, otherMem, same, sameSock, sameAddr, holds⟩

/-- Adding a port at the address of its socket gives the socket one couple more. -/
theorem owner_add (owned : state.Owned) {el : SockEl} (member : el ∈ state.lSockList)
    {devAddr : DevAddr} {port : Port}
    (accepts : el.devAddr = 0#32 ∨ el.devAddr = devAddr)
    (free : ∀ sock, ¬state.Owner devAddr port sock)
    (otherAddr : DevAddr) (otherPort : Port) (otherSock : LorawanSock) :
    (state.store { el with devAddr, ports := el.ports.add port }).Owner
        otherAddr otherPort otherSock ↔
      if otherAddr = devAddr ∧ otherPort = port then otherSock = el.sock
      else state.Owner otherAddr otherPort otherSock := by
  have pinned := owned.owner_pin member accepts otherAddr otherPort otherSock
  rw [owner_store el { el with devAddr } member rfl] at pinned
  rw [owner_store el { el with devAddr, ports := el.ports.add port } member rfl]
  by_cases same : otherAddr = devAddr ∧ otherPort = port
  · rcases same with ⟨rfl, rfl⟩
    rw [if_pos ⟨rfl, rfl⟩]
    constructor
    · intro owns
      rcases owns with ⟨sameSock, _⟩ | ⟨other, otherMem, _, facts⟩
      · exact sameSock.symm
      · exact absurd ⟨other, otherMem, facts⟩ (free otherSock)
    · intro same
      subst same
      exact .inl ⟨rfl, rfl, by simp⟩
  · rw [if_neg same, ← pinned]
    apply or_congr_left
    constructor
    · intro owns
      rcases owns with ⟨sameSock, sameAddr, holds⟩
      have apart : otherPort ≠ port := fun equal => same ⟨sameAddr.symm, equal⟩
      exact ⟨sameSock, sameAddr, by simpa [apart] using holds⟩
    · intro owns
      rcases owns with ⟨sameSock, sameAddr, holds⟩
      refine ⟨sameSock, sameAddr, ?_⟩
      have holds : el.ports.contains otherPort = true := holds
      simp [holds]

/-- Pinning a socket keeps the invariant. -/
theorem pin (owned : state.Owned) {el : SockEl} (member : el ∈ state.lSockList)
    {devAddr : DevAddr} (nonzero : devAddr ≠ 0#32)
    (accepts : el.devAddr = 0#32 ∨ el.devAddr = devAddr) :
    (state.store { el with devAddr }).Owned where
  wellFormed := owned.wellFormed.store member rfl rfl
  liveIds := owned.liveIds.of_socks
    (RecordTable.map_store owned.wellFormed.blocks_nodup member rfl rfl)
  exclusive := by
    rw [owned.exclusive.store_iff el { el with devAddr } member rfl]
    intro other otherMem different sameAddr port both
    have pinned := owned.devAddr_eq_of_contains member accepts both.1
    exact owned.exclusive el member other otherMem different.symm
      (pinned.trans sameAddr.symm) port both
  proper := owned.proper_store member rfl
    ⟨fun zero => absurd zero nonzero, (owned.proper_of_mem member).2⟩

/-- What a bind to a nonzero address does, in terms of the map alone. -/
theorem bind_spec (owned : state.Owned) (sock : LorawanSock) {devAddr : DevAddr}
    (port : Port) (nonzero : devAddr ≠ 0#32) :
    ((lorawanBind state sock devAddr port).2 = .ok ∧
        state.Admits sock devAddr ∧ port ≠ 0#8 ∧
        (∀ owner, ¬state.Owner devAddr port owner) ∧
        ∀ otherAddr otherPort owner,
          (lorawanBind state sock devAddr port).1.Owner otherAddr otherPort owner ↔
            if otherAddr = devAddr ∧ otherPort = port then owner = sock
            else state.Owner otherAddr otherPort owner) ∨
    ((lorawanBind state sock devAddr port).2 ≠ .ok ∧
        ¬(state.Admits sock devAddr ∧ port ≠ 0#8 ∧
          ∀ owner, ¬state.Owner devAddr port owner) ∧
        ∀ otherAddr otherPort owner,
          (lorawanBind state sock devAddr port).1.Owner otherAddr otherPort owner ↔
            state.Owner otherAddr otherPort owner) := by
  rcases lorawanBind_cases state sock devAddr port with ⟨unknown, result⟩ | ⟨el, found, cases⟩
  · refine .inr ⟨by simp [result], ?_, by simp [result]⟩
    intro admits
    rcases admits with ⟨⟨el, member, sameSock, _⟩, _⟩
    have missed := List.find?_eq_none.mp unknown el member
    simp [sameSock] at missed
  have member := mem_of_lorawanFindEl found
  have sameSock := sock_of_lorawanFindEl found
  rcases cases with ⟨refused, result⟩ | ⟨accepts, taken, result⟩ | ⟨accepts, portSet, free, result⟩
  all_goals rw [result]
  · refine .inr ⟨by simp, ?_, ?_⟩
    · intro admits
      rcases admits with ⟨⟨other, otherMem, otherSock, otherAccepts⟩, _⟩
      have equal := owned.eq_of_sock_eq otherMem member (otherSock.trans sameSock.symm)
      exact refused (equal ▸ otherAccepts)
    · rw [owned.wellFormed.store_self member]
      exact fun _ _ _ => Iff.rfl
  · refine .inr ⟨by simp, ?_, owned.owner_pin member accepts⟩
    intro granted
    rcases granted with ⟨_, portSet, nobody⟩
    rcases taken with portZero | taken
    · exact portSet portZero
    · apply taken
      rw [(owned.pin member nonzero accepts).lorawanFindSockByParams_eq_zero]
      intro owner owns
      exact nobody owner ((owned.owner_pin member accepts devAddr port owner).mp owns)
  · have nobody : ∀ owner, ¬state.Owner devAddr port owner := by
      rw [(owned.pin member nonzero accepts).lorawanFindSockByParams_eq_zero] at free
      intro owner owns
      exact free owner ((owned.owner_pin member accepts devAddr port owner).mpr owns)
    refine .inl ⟨rfl, ⟨el, member, sameSock, accepts⟩, portSet, nobody, ?_⟩
    rw [← sameSock]
    exact owned.owner_add member accepts nobody

/-- Closing a socket takes its couples, and only them, out of the map. -/
theorem close_spec (owned : state.Owned) (sock : LorawanSock) :
    ((lorawanClose state sock).2 = 0 ∧ ∀ devAddr port owner,
        (lorawanClose state sock).1.Owner devAddr port owner ↔
          state.Owner devAddr port owner ∧ owner ≠ sock) ∨
    ((lorawanClose state sock).2 ≠ 0 ∧ ∀ devAddr port owner,
        (lorawanClose state sock).1.Owner devAddr port owner ↔
          state.Owner devAddr port owner) := by
  rcases lorawanClose_cases state sock with ⟨code, failed, result⟩ | ⟨el, found, _, result⟩
  · rw [result]
    exact .inr ⟨failed, fun _ _ _ => Iff.rfl⟩
  have member := mem_of_lorawanFindEl found
  have sameSock := sock_of_lorawanFindEl found
  rw [result]
  refine .inl ⟨rfl, fun devAddr port owner => ?_⟩
  constructor
  · intro owns
    rcases owns with ⟨other, otherMem, rfl, facts⟩
    have kept := RecordTable.mem_discard.mp otherMem
    refine ⟨⟨other, kept.1, rfl, facts⟩, fun same => kept.2 ?_⟩
    exact congrArg SockEl.block
      (owned.eq_of_sock_eq kept.1 member (same.trans sameSock.symm))
  · intro owns
    rcases owns with ⟨⟨other, otherMem, rfl, facts⟩, different⟩
    refine ⟨other, RecordTable.mem_discard.mpr ⟨otherMem, fun sameBlock => ?_⟩, rfl, facts⟩
    have equal := owned.wellFormed.eq_of_block_eq otherMem member sameBlock
    exact different (equal ▸ sameSock)

theorem owner_socket (allocated : Bool) (devAddr : DevAddr) (port : Port)
    (owner : LorawanSock) :
    (lorawanSocket state allocated).1.Owner devAddr port owner ↔
      state.Owner devAddr port owner := by
  cases allocated with
  | false => exact Iff.rfl
  | true =>
      constructor
      · intro owns
        rcases owns with ⟨el, member, facts⟩
        rcases List.mem_cons.mp member with rfl | member
        · simp at facts
        · exact ⟨el, member, facts⟩
      · intro owns
        rcases owns with ⟨el, member, facts⟩
        exact ⟨el, List.mem_cons_of_mem _ member, facts⟩

end Owned

end State

/-! ## The map and its operations -/

/-- The ownership relation of `before` is the one of `after`. -/
def SameOwners (before after : State) : Prop :=
  ∀ devAddr port owner, after.Owner devAddr port owner ↔ before.Owner devAddr port owner

/-- The laws of the ownership map, for the calls that may come next. -/
structure OwnershipLaws (osTicksPerSec : OsTime) (state : State) : Prop where
  functional : ∀ devAddr port left right, state.Owner devAddr port left →
    state.Owner devAddr port right → left = right
  find_owner : ∀ devAddr port owner, state.Owner devAddr port owner →
    lorawanFindSockByParams state devAddr port = owner
  find_zero : ∀ devAddr port, lorawanFindSockByParams state devAddr port = 0#32 ↔
    ∀ owner, ¬state.Owner devAddr port owner
  bind_ok : ∀ sock devAddr port, devAddr ≠ 0#32 →
    ((lorawanBind state sock devAddr port).2 = .ok ↔
      state.Admits sock devAddr ∧ port ≠ 0#8 ∧ ∀ owner, ¬state.Owner devAddr port owner)
  bind_adds : ∀ sock devAddr port, devAddr ≠ 0#32 →
    (lorawanBind state sock devAddr port).2 = .ok →
      ∀ otherAddr otherPort owner,
        (lorawanBind state sock devAddr port).1.Owner otherAddr otherPort owner ↔
          if otherAddr = devAddr ∧ otherPort = port then owner = sock
          else state.Owner otherAddr otherPort owner
  bind_refused : ∀ sock devAddr port, devAddr ≠ 0#32 →
    (lorawanBind state sock devAddr port).2 ≠ .ok →
      SameOwners state (lorawanBind state sock devAddr port).1
  close_removes : ∀ sock, (lorawanClose state sock).2 = 0 → ∀ devAddr port owner,
    (lorawanClose state sock).1.Owner devAddr port owner ↔
      state.Owner devAddr port owner ∧ owner ≠ sock
  close_refused : ∀ sock, (lorawanClose state sock).2 ≠ 0 →
    SameOwners state (lorawanClose state sock).1
  socket_keeps : ∀ allocated, SameOwners state (lorawanSocket state allocated).1
  send_keeps : ∀ sock port payload payloadSize answer,
    SameOwners state (lorawanSend state sock port payload payloadSize answer).1
  recv_keeps : ∀ sock buffers payloadMaxLen timeoutMs, SameOwners state
    (lorawanRecv osTicksPerSec state sock buffers payloadMaxLen timeoutMs).1
  indication_keeps : ∀ frame allocated,
    SameOwners state (macReceive state frame allocated).1

theorem State.Owned.ownershipLaws (osTicksPerSec : OsTime) {state : State}
    (owned : state.Owned) : OwnershipLaws osTicksPerSec state where
  functional _ _ _ _ := owned.owner_unique
  find_owner _ _ _ := owned.lorawanFindSockByParams_of_owner
  find_zero := owned.lorawanFindSockByParams_eq_zero
  bind_ok sock devAddr port nonzero := by
    rcases owned.bind_spec sock port nonzero with
      ⟨ok, admits, portSet, free, _⟩ | ⟨notOk, refused, _⟩
    · exact ⟨fun _ => ⟨admits, portSet, free⟩, fun _ => ok⟩
    · exact ⟨fun ok => absurd ok notOk, fun granted => absurd granted refused⟩
  bind_adds sock devAddr port nonzero ok := by
    rcases owned.bind_spec sock port nonzero with ⟨_, _, _, _, adds⟩ | ⟨notOk, _, _⟩
    · exact adds
    · exact absurd ok notOk
  bind_refused sock devAddr port nonzero notOk := by
    rcases owned.bind_spec sock port nonzero with ⟨ok, _⟩ | ⟨_, _, keeps⟩
    · exact absurd ok notOk
    · exact keeps
  close_removes sock closed := by
    rcases owned.close_spec sock with ⟨_, removes⟩ | ⟨failed, _⟩
    · exact removes
    · exact absurd closed failed
  close_refused sock failed := by
    rcases owned.close_spec sock with ⟨closed, _⟩ | ⟨_, keeps⟩
    · exact absurd closed failed
    · exact keeps
  socket_keeps := State.Owned.owner_socket
  send_keeps sock port payload payloadSize answer :=
    State.owner_of_bindings
      (owned.wellFormed.bindings_send sock port payload payloadSize answer)
  recv_keeps sock buffers payloadMaxLen timeoutMs :=
    State.owner_of_bindings
      (owned.wellFormed.bindings_recv osTicksPerSec sock buffers payloadMaxLen timeoutMs)
  indication_keeps frame allocated :=
    State.owner_of_bindings (owned.wellFormed.bindings_indication frame allocated)

/-- After every run with nonzero binds and fewer than `2 ^ 32 - 1` creations, the
socket table is an ownership map. -/
theorem socket_table_is_ownership_map (osTicksPerSec : OsTime) (calls : List Call)
    (nonzero : ∀ call ∈ calls, call.BindsNonzero) (few : creations calls < 2 ^ 32 - 1) :
    OwnershipLaws osTicksPerSec ((sockets osTicksPerSec).run State.initial calls) :=
  (State.Owned.run osTicksPerSec calls nonzero few).ownershipLaws osTicksPerSec

/-- Two sockets ask for one couple, and the second is refused. -/
theorem socket_table_is_ownership_map_one_couple :
    let calls : List Call := [.socket true, .socket true, .bind 1 7 5, .bind 2 7 5, .bind 2 7 6]
    ((sockets 1000).trace State.initial calls).map Prod.snd =
        [.socket 1, .socket 2, .bind .ok, .bind .portAlreadyUsed, .bind .ok] ∧
      OwnershipLaws 1000 ((sockets 1000).run State.initial calls) := by
  intro calls
  exact ⟨by decide, socket_table_is_ownership_map 1000 calls (by decide) (by decide)⟩

end Lorawan.Sockets
