import Lorawan.Library.Registry
import Lorawan.Sockets.OwnershipMap

/-! # The socket table refines a registry

What the socket layer is for, without records, blocks or counters: sockets are
opened, pinned to an address by their first bind, given the couples that are free,
and closed. The registry at the end of a run follows from the answered calls alone. -/

namespace Lorawan.Sockets

/-- The address a socket is pinned to. -/
def SockEl.pinned (el : SockEl) : Option DevAddr :=
  if el.devAddr = 0#32 then none else some el.devAddr

/-- The registry that the table stands for. -/
def State.registry (state : State) : Registry LorawanSock DevAddr Port where
  pin sock := (lorawanFindEl state sock).map SockEl.pinned
  owner devAddr port :=
    (state.lSockList.find? fun el => el.devAddr == devAddr && el.ports.contains port).map
      SockEl.sock

/-- What an answered call does to the registry. -/
def follow (registry : Registry LorawanSock DevAddr Port) :
    Call × Reply → Registry LorawanSock DevAddr Port
  | (.socket true, .socket sock) => registry.opens sock
  | (.close sock, .close code) => if code = 0 then registry.close sock else registry
  | (.bind sock devAddr port, _) => registry.bind (· ≠ 0#8) sock devAddr port
  | _ => registry

namespace State

variable {state : State}

theorem registry_of_bindings {other : State} (same : other.bindings = state.bindings) :
    other.registry = state.registry := by
  have pins : ∀ (table : State) (sock : LorawanSock), table.registry.pin sock =
      (table.bindings.find? fun binding => binding.sock == sock).map fun binding =>
        if binding.devAddr = 0#32 then none else some binding.devAddr := by
    intro table sock
    simp only [State.registry, lorawanFindEl, State.bindings, List.find?_map, Option.map_map]
    rfl
  have owners : ∀ (table : State) (devAddr : DevAddr) (port : Port),
      table.registry.owner devAddr port =
        (table.bindings.find? fun binding =>
          binding.devAddr == devAddr && binding.ports.contains port).map Binding.sock := by
    intro table devAddr port
    simp [State.registry, State.bindings, List.find?_map, Function.comp_def, SockEl.binding]
  apply Registry.ext
  · intro sock
    rw [pins, pins, same]
  · intro devAddr port
    rw [owners, owners, same]

namespace Owned

theorem registry_owner (owned : state.Owned) (devAddr : DevAddr) (port : Port)
    (sock : LorawanSock) :
    state.registry.owner devAddr port = some sock ↔ state.Owner devAddr port sock := by
  cases search : state.lSockList.find? fun el =>
      el.devAddr == devAddr && el.ports.contains port with
  | none =>
      have nobody := List.find?_eq_none.mp search
      simp only [State.registry, search, Option.map_none, reduceCtorEq, false_iff]
      intro owns
      rcases owns with ⟨el, member, _, sameAddr, holds⟩
      exact nobody el member (by simp [sameAddr, holds])
  | some found =>
      have holds : found.devAddr = devAddr ∧ found.ports.contains port = true := by
        simpa using List.find?_some search
      have foundOwns : state.Owner devAddr port found.sock :=
        ⟨found, List.mem_of_find?_eq_some search, rfl, holds⟩
      simp only [State.registry, search, Option.map_some, Option.some.injEq]
      constructor
      · intro same
        subst same
        exact foundOwns
      · exact owned.owner_unique foundOwns

theorem registry_owner_none (owned : state.Owned) (devAddr : DevAddr) (port : Port) :
    state.registry.owner devAddr port = none ↔ ∀ sock, ¬state.Owner devAddr port sock := by
  rw [Option.eq_none_iff_forall_ne_some]
  exact forall_congr' fun sock => not_congr (owned.registry_owner devAddr port sock)

theorem registry_pin (owned : state.Owned) {el : SockEl} (member : el ∈ state.lSockList) :
    state.registry.pin el.sock = some el.pinned := by
  simp [State.registry, owned.liveIds.lorawanFindEl_eq member]

/-- A lookup by identifier decides whether an address is admitted. -/
theorem registry_admits_of_found (sock : LorawanSock) {el : SockEl}
    (found : lorawanFindEl state sock = some el) (devAddr : DevAddr) :
    state.registry.Admits sock devAddr ↔ el.devAddr = 0#32 ∨ el.devAddr = devAddr := by
  by_cases unpinned : el.devAddr = 0#32
  · simp [Registry.Admits, State.registry, found, SockEl.pinned, unpinned]
  · simp [Registry.Admits, State.registry, found, SockEl.pinned, unpinned]

theorem registry_not_admits (sock : LorawanSock) (unknown : lorawanFindEl state sock = none)
    (devAddr : DevAddr) : ¬state.registry.Admits sock devAddr := by
  simp [Registry.Admits, State.registry, unknown]

theorem registry_admits (owned : state.Owned) (sock : LorawanSock) (devAddr : DevAddr) :
    state.registry.Admits sock devAddr ↔ state.Admits sock devAddr := by
  cases found : lorawanFindEl state sock with
  | none =>
      have unknown := List.find?_eq_none.mp found
      refine iff_of_false (registry_not_admits sock found devAddr) ?_
      intro admits
      rcases admits with ⟨el, member, sameSock, _⟩
      exact unknown el member (by simp [sameSock])
  | some el =>
      rw [registry_admits_of_found sock found]
      have member := mem_of_lorawanFindEl found
      have sameSock := sock_of_lorawanFindEl found
      constructor
      · intro accepts
        exact ⟨el, member, sameSock, accepts⟩
      · intro admits
        rcases admits with ⟨other, otherMem, otherSock, accepts⟩
        rwa [owned.eq_of_sock_eq otherMem member (otherSock.trans sameSock.symm)] at accepts

theorem registry_grants (owned : state.Owned) (sock : LorawanSock) (devAddr : DevAddr)
    (port : Port) :
    state.registry.Grants (· ≠ 0#8) sock devAddr port ↔
      state.Admits sock devAddr ∧ port ≠ 0#8 ∧ ∀ owner, ¬state.Owner devAddr port owner := by
  rw [Registry.Grants, owned.registry_admits, owned.registry_owner_none]

/-! ## One step -/

theorem pin_eq_some (owned : state.Owned) (sock : LorawanSock) (pin : Option DevAddr) :
    state.registry.pin sock = some pin ↔
      ∃ el ∈ state.lSockList, el.sock = sock ∧ el.pinned = pin := by
  constructor
  · intro opened
    rcases Option.map_eq_some_iff.mp opened with ⟨el, found, pinned⟩
    exact ⟨el, mem_of_lorawanFindEl found, sock_of_lorawanFindEl found, pinned⟩
  · intro opened
    rcases opened with ⟨el, member, rfl, rfl⟩
    exact owned.registry_pin member

/-- Writing back a record under its block and its identifier. -/
theorem pin_store (owned : state.Owned) {old new : SockEl} (oldMem : old ∈ state.lSockList)
    (after : (state.store new).Owned) (sameBlock : new.block = old.block)
    (sameSock : new.sock = old.sock) :
    (state.store new).registry.pin =
      Function.update state.registry.pin old.sock (some new.pinned) := by
  funext sock
  by_cases same : sock = old.sock
  · have newMem := (WellFormed.mem_store old new new oldMem sameBlock).mpr (.inl rfl)
    rw [same, Function.update_self, ← sameSock]
    exact after.registry_pin newMem
  · rw [Function.update_of_ne same]
    ext pin
    rw [after.pin_eq_some, owned.pin_eq_some]
    constructor
    · intro opened
      rcases opened with ⟨el, member, rfl, facts⟩
      rcases (WellFormed.mem_store old new el oldMem sameBlock).mp member with
        rfl | ⟨member, _⟩
      · exact absurd sameSock same
      · exact ⟨el, member, rfl, facts⟩
    · intro opened
      rcases opened with ⟨el, member, rfl, facts⟩
      have different : el.block ≠ old.block := fun equal =>
        same (congrArg SockEl.sock (owned.wellFormed.eq_of_block_eq member oldMem equal))
      exact ⟨el, (WellFormed.mem_store old new el oldMem sameBlock).mpr
        (.inr ⟨member, different⟩), rfl, facts⟩

theorem registry_socket (state : State) :
    (lorawanSocket state true).1.registry =
      state.registry.opens (lorawanSocket state true).2 := by
  apply Registry.ext
  · intro sock
    by_cases same : sock = state.sockCpt
    · subst same
      simp [State.registry, lorawanFindEl, lorawanSocket, Registry.opens, SockEl.pinned]
    · have apart : state.sockCpt ≠ sock := fun equal => same equal.symm
      simp [State.registry, lorawanFindEl, lorawanSocket, Registry.opens, same, apart]
  · intro devAddr port
    simp [State.registry, lorawanSocket, Registry.opens]

theorem pin_bind (owned : state.Owned) (sock : LorawanSock) {devAddr : DevAddr} (port : Port)
    (nonzero : devAddr ≠ 0#32) (after : (lorawanBind state sock devAddr port).1.Owned) :
    (lorawanBind state sock devAddr port).1.registry.pin =
      (state.registry.bind (· ≠ 0#8) sock devAddr port).pin := by
  rcases lorawanBind_cases state sock devAddr port with ⟨unknown, result⟩ | ⟨el, found, cases⟩
  · rw [result, Registry.pin_bind_of_not_admits _ _ _ _ _
      (registry_not_admits sock unknown devAddr)]
  have member := mem_of_lorawanFindEl found
  have sameSock := sock_of_lorawanFindEl found
  have admitted := registry_admits_of_found sock found devAddr
  rcases cases with ⟨refused, result⟩ | ⟨accepts, _, result⟩ | ⟨accepts, _, _, result⟩
  · rw [result, owned.wellFormed.store_self member,
      Registry.pin_bind_of_not_admits _ _ _ _ _ fun admits => refused (admitted.mp admits)]
  all_goals
    rw [result] at after ⊢
    rw [owned.pin_store member after rfl rfl, sameSock,
      Registry.pin_bind_of_admits _ _ _ _ _ (admitted.mpr accepts)]
    simp [SockEl.pinned, nonzero]

theorem registry_bind (owned : state.Owned) (sock : LorawanSock) {devAddr : DevAddr}
    (port : Port) (nonzero : devAddr ≠ 0#32)
    (after : (lorawanBind state sock devAddr port).1.Owned) :
    (lorawanBind state sock devAddr port).1.registry =
      state.registry.bind (· ≠ 0#8) sock devAddr port := by
  apply Registry.ext
  · intro other
    rw [owned.pin_bind sock port nonzero after]
  · intro otherAddr otherPort
    have grants := owned.registry_grants sock devAddr port
    rcases owned.bind_spec sock port nonzero with
      ⟨_, admits, portSet, free, adds⟩ | ⟨_, refused, keeps⟩
    · rw [Registry.owner_bind_of_grants _ _ _ _ _ (grants.mpr ⟨admits, portSet, free⟩)]
      ext owner
      rw [after.registry_owner, adds]
      by_cases same : otherAddr = devAddr ∧ otherPort = port
      · simp [same, eq_comm]
      · simp [same, owned.registry_owner]
    · rw [Registry.owner_bind_of_not_grants _ _ _ _ _ (fun granted => refused (grants.mp granted))]
      ext owner
      rw [after.registry_owner, owned.registry_owner, keeps]

theorem pin_close (owned : state.Owned) (sock : LorawanSock)
    (after : (lorawanClose state sock).1.Owned) (closed : (lorawanClose state sock).2 = 0) :
    (lorawanClose state sock).1.registry.pin = (state.registry.close sock).pin := by
  rcases lorawanClose_cases state sock with ⟨code, failed, result⟩ | ⟨el, found, _, result⟩
  · rw [result] at closed
    exact absurd closed failed
  have member := mem_of_lorawanFindEl found
  have sameSock := sock_of_lorawanFindEl found
  have kept_iff : ∀ other ∈ state.lSockList, other.block ≠ el.block ↔ other.sock ≠ sock := by
    intro other otherMem
    rw [← sameSock]
    constructor
    · exact fun different same =>
        different (congrArg SockEl.block (owned.eq_of_sock_eq otherMem member same))
    · exact fun different same =>
        different (congrArg SockEl.sock (owned.wellFormed.eq_of_block_eq otherMem member same))
  rw [result] at after ⊢
  funext other
  ext pin
  rw [after.pin_eq_some]
  by_cases same : other = sock
  · have closed : (state.registry.close sock).pin other = none := by
      simp [Registry.close, same]
    rw [closed]
    refine iff_of_false ?_ (by simp)
    intro opened
    rcases opened with ⟨kept, keptMem, keptSock, _⟩
    have survives := RecordTable.mem_discard.mp keptMem
    exact (kept_iff kept survives.1).mp survives.2 (keptSock.trans same)
  · have unchanged : (state.registry.close sock).pin other = state.registry.pin other := by
      simp [Registry.close, same]
    rw [unchanged, owned.pin_eq_some]
    constructor
    · intro opened
      rcases opened with ⟨kept, keptMem, facts⟩
      exact ⟨kept, (RecordTable.mem_discard.mp keptMem).1, facts⟩
    · intro opened
      rcases opened with ⟨kept, keptMem, keptSock, pinned⟩
      have survives := (kept_iff kept keptMem).mpr fun equal => same (keptSock.symm.trans equal)
      exact ⟨kept, RecordTable.mem_discard.mpr ⟨keptMem, survives⟩, keptSock, pinned⟩

theorem registry_close (owned : state.Owned) (sock : LorawanSock)
    (after : (lorawanClose state sock).1.Owned) (closed : (lorawanClose state sock).2 = 0) :
    (lorawanClose state sock).1.registry = state.registry.close sock := by
  apply Registry.ext
  · intro other
    rw [owned.pin_close sock after closed]
  · intro devAddr port
    rcases owned.close_spec sock with ⟨_, removes⟩ | ⟨failed, _⟩
    · ext owner
      rw [after.registry_owner, removes, Registry.owner_close_eq_some, owned.registry_owner]
    · exact absurd closed failed

/-- The answered call tells what becomes of the registry. -/
theorem registry_next (osTicksPerSec : OsTime) (owned : state.Owned) (call : Call)
    (nonzero : call.BindsNonzero) (fresh : state.IdFresh call) :
    ((sockets osTicksPerSec).next state call).registry =
      follow state.registry (call, (sockets osTicksPerSec).reply state call) := by
  have after := owned.next osTicksPerSec call nonzero fresh
  cases call with
  | socket allocated =>
      cases allocated with
      | false => rfl
      | true => exact registry_socket state
  | close sock =>
      have answered : (sockets osTicksPerSec).reply state (.close sock) =
          .close (lorawanClose state sock).2 := rfl
      rw [answered]
      by_cases closed : (lorawanClose state sock).2 = 0
      · simpa [follow, closed] using owned.registry_close sock after closed
      · rcases lorawanClose_cases state sock with ⟨code, failed, result⟩ | ⟨el, _, _, result⟩
        · simp [follow, failed, result]
        · exact absurd (by rw [result]) closed
  | bind sock devAddr port => exact owned.registry_bind sock port nonzero after
  | send sock port payload payloadSize answer =>
      exact registry_of_bindings
        (owned.wellFormed.bindings_send sock port payload payloadSize answer)
  | recv sock buffers payloadMaxLen timeoutMs =>
      exact registry_of_bindings
        (owned.wellFormed.bindings_recv osTicksPerSec sock buffers payloadMaxLen timeoutMs)
  | indication frame allocated =>
      exact registry_of_bindings (owned.wellFormed.bindings_indication frame allocated)

end Owned

end State

/-! ## Whole runs -/

/-- After every run with nonzero binds and few creations, the table stands for the
registry that the answered calls build up, and a bind is granted as the registry
would. -/
theorem run_refines_registry (osTicksPerSec : OsTime) (calls : List Call)
    (nonzero : ∀ call ∈ calls, call.BindsNonzero) (few : creations calls < 2 ^ 32 - 1) :
    ((sockets osTicksPerSec).run State.initial calls).registry =
      ((sockets osTicksPerSec).trace State.initial calls).foldl follow Registry.empty := by
  have fresh := along_idFresh_of_creations osTicksPerSec calls State.initial
    State.WellFormed.initial (by simpa [State.initial] using few)
  have binds := (sockets osTicksPerSec).along_of_mem nonzero State.initial
  have built := (sockets osTicksPerSec).history_along
    (fun past state => state.Owned ∧ state.registry = past.foldl follow Registry.empty)
    (fun past state call holds guard => by
      rcases holds with ⟨owned, registry⟩
      refine ⟨owned.next osTicksPerSec call guard.1 guard.2, ?_⟩
      rw [owned.registry_next osTicksPerSec call guard.1 guard.2, registry, List.foldl_concat])
    calls [] State.initial (Machine.Along.and binds fresh) ⟨State.Owned.initial, rfl⟩
  exact built.2

/-- A bind succeeds exactly when the registry that the answered calls build up grants the
couple. -/
theorem bind_ok_iff_granted (osTicksPerSec : OsTime) (calls : List Call)
    (nonzero : ∀ call ∈ calls, call.BindsNonzero) (few : creations calls < 2 ^ 32 - 1)
    (sock : LorawanSock) (devAddr : DevAddr) (port : Port) (named : devAddr ≠ 0#32) :
    let past := (sockets osTicksPerSec).trace State.initial calls
    let state := (sockets osTicksPerSec).run State.initial calls
    (lorawanBind state sock devAddr port).2 = .ok ↔
      (past.foldl follow Registry.empty).Grants (· ≠ 0#8) sock devAddr port := by
  intro past state
  have owned := State.Owned.run osTicksPerSec calls nonzero few
  rw [← run_refines_registry osTicksPerSec calls nonzero few, owned.registry_grants]
  exact (owned.ownershipLaws osTicksPerSec).bind_ok sock devAddr port named

/-- A couple is free again once its socket is closed. -/
theorem bind_ok_iff_granted_after_close :
    let calls : List Call := [.socket true, .socket true, .bind 1 7 5, .bind 2 7 5, .close 1]
    (lorawanBind ((sockets 1000).run State.initial calls) 2 7 5).2 = .ok := by
  intro calls
  exact (bind_ok_iff_granted 1000 calls (by decide) (by decide) 2 7 5 (by decide)).mpr
    (by decide)

end Lorawan.Sockets
