import Lorawan.Sockets.Table

/-! # Socket identifiers

`lorawan_socket` numbers sockets with a 32-bit counter, to "create a unique sock
id". The counter wraps while sockets of any age may still be open, so the
numbering is unique for a while only; this file says exactly for how long. -/

namespace Lorawan.Sockets

/-- The identifiers in the table are nonzero and pairwise distinct. -/
def State.LiveIds (state : State) : Prop :=
  (∀ el ∈ state.lSockList, el.sock ≠ 0#32) ∧ (state.lSockList.map SockEl.sock).Nodup

/-- A creation that succeeds returns a nonzero identifier that no live socket has. -/
def State.CreationSound (state : State) : Call → Prop
  | .socket true =>
      (lorawanSocket state true).2 ≠ 0#32 ∧
        ∀ el ∈ state.lSockList, el.sock ≠ (lorawanSocket state true).2
  | _ => True

/-- The creation about to happen is not number `2 ^ 32`, `2 * 2 ^ 32`, ..., and no
live socket was created a multiple of `2 ^ 32` creations before it. -/
def State.IdFresh (state : State) : Call → Prop
  | .socket true =>
      (state.sockBlocks + 1) % 2 ^ 32 ≠ 0 ∧
        ∀ el ∈ state.lSockList, (state.sockBlocks - el.block) % 2 ^ 32 ≠ 0
  | _ => True

/-! ## One step -/

theorem ofNat_eq_zero_iff (number : Nat) :
    BitVec.ofNat 32 number = 0#32 ↔ number % 2 ^ 32 = 0 := by
  rw [← BitVec.toNat_inj]
  simp

theorem ofNat_eq_iff_sub {earlier later : Nat} (ordered : earlier ≤ later) :
    BitVec.ofNat 32 (earlier + 1) = BitVec.ofNat 32 (later + 1) ↔
      (later - earlier) % 2 ^ 32 = 0 := by
  rw [← BitVec.toNat_inj, BitVec.toNat_ofNat, BitVec.toNat_ofNat]
  omega

variable {state : State}

theorem creationSound_iff_idFresh (wellFormed : state.WellFormed) (call : Call) :
    state.CreationSound call ↔ state.IdFresh call := by
  cases call with
  | socket allocated =>
      cases allocated with
      | false => exact Iff.rfl
      | true =>
          change state.sockCpt ≠ 0#32 ∧ (∀ el ∈ state.lSockList, el.sock ≠ state.sockCpt) ↔ _
          rw [wellFormed.sockCpt_eq, Ne, ofNat_eq_zero_iff]
          apply and_congr Iff.rfl
          apply forall₂_congr
          intro el member
          rw [wellFormed.sock_eq el member, Ne,
            ofNat_eq_iff_sub (Nat.le_of_lt (wellFormed.block_lt el member))]
  | close _ => exact Iff.rfl
  | bind _ _ _ => exact Iff.rfl
  | send _ _ _ _ _ => exact Iff.rfl
  | recv _ _ _ _ => exact Iff.rfl
  | indication _ _ => exact Iff.rfl

theorem socks_of_bindings {other : State} (same : other.bindings = state.bindings) :
    other.lSockList.map SockEl.sock = state.lSockList.map SockEl.sock := by
  have mapped := congrArg (List.map Binding.sock) same
  simpa [State.bindings, SockEl.binding, Function.comp_def] using mapped

theorem State.WellFormed.socks_bind (wellFormed : state.WellFormed) (sock : LorawanSock)
    (devAddr : DevAddr) (port : Port) :
    (lorawanBind state sock devAddr port).1.lSockList.map SockEl.sock =
      state.lSockList.map SockEl.sock := by
  rcases lorawanBind_cases state sock devAddr port with ⟨_, result⟩ | ⟨el, found, cases⟩
  · rw [result]
  · have member := mem_of_lorawanFindEl found
    rcases cases with ⟨_, result⟩ | ⟨_, _, result⟩ | ⟨_, _, _, result⟩
    all_goals
      rw [result]
      exact RecordTable.map_store wellFormed.blocks_nodup member rfl rfl

theorem State.LiveIds.of_socks {other : State} (live : state.LiveIds)
    (same : other.lSockList.map SockEl.sock = state.lSockList.map SockEl.sock) :
    other.LiveIds := by
  have nonzero : ∀ sock ∈ state.lSockList.map SockEl.sock, sock ≠ 0#32 := by
    intro sock member
    rcases List.mem_map.mp member with ⟨el, elMem, rfl⟩
    exact live.1 el elMem
  constructor
  · intro el member
    exact nonzero el.sock (same ▸ List.mem_map_of_mem member)
  · rw [same]
    exact live.2

/-- One step keeps the identifiers apart exactly when its creation is fresh. -/
theorem State.LiveIds.next_iff (osTicksPerSec : OsTime) (state : State) (call : Call)
    (wellFormed : state.WellFormed) (live : state.LiveIds) :
    ((sockets osTicksPerSec).next state call).LiveIds ↔ state.IdFresh call := by
  cases call with
  | socket allocated =>
      cases allocated with
      | false => exact ⟨fun _ => trivial, fun _ => live⟩
      | true =>
          rw [← creationSound_iff_idFresh wellFormed]
          constructor
          · intro after
            refine ⟨after.1 _ (List.mem_cons_self ..), fun el member same => ?_⟩
            have fresh := (List.nodup_cons.mp after.2).1
            exact fresh (List.mem_map.mpr ⟨el, member, same⟩)
          · intro sound
            constructor
            · intro el member
              rcases List.mem_cons.mp member with rfl | member
              · exact sound.1
              · exact live.1 el member
            · apply List.nodup_cons.mpr
              refine ⟨fun member => ?_, live.2⟩
              rcases List.mem_map.mp member with ⟨el, elMem, same⟩
              exact sound.2 el elMem same
  | close sock =>
      refine ⟨fun _ => trivial, fun _ => ?_⟩
      rw [next_close]
      rcases lorawanClose_cases state sock with ⟨code, _, result⟩ | ⟨el, _, _, result⟩
      · rw [result]
        exact live
      · rw [result]
        refine ⟨fun el member => live.1 el (RecordTable.mem_discard.mp member).1, ?_⟩
        exact live.2.sublist (List.filter_sublist.map SockEl.sock)
  | bind sock devAddr port =>
      exact ⟨fun _ => trivial, fun _ =>
        live.of_socks (wellFormed.socks_bind sock devAddr port)⟩
  | send sock port payload payloadSize answer =>
      exact ⟨fun _ => trivial, fun _ => live.of_socks (socks_of_bindings
        (wellFormed.bindings_send sock port payload payloadSize answer))⟩
  | recv sock buffers payloadMaxLen timeoutMs =>
      exact ⟨fun _ => trivial, fun _ => live.of_socks (socks_of_bindings
        (wellFormed.bindings_recv osTicksPerSec sock buffers payloadMaxLen timeoutMs))⟩
  | indication frame allocated =>
      exact ⟨fun _ => trivial, fun _ => live.of_socks (socks_of_bindings
        (wellFormed.bindings_indication frame allocated))⟩

/-- The identifier 0 resolves to no socket. -/
theorem State.LiveIds.lorawanFindEl_zero (live : state.LiveIds) :
    lorawanFindEl state 0#32 = none := by
  apply List.find?_eq_none.mpr
  intro el member
  simpa using live.1 el member

/-- A live socket is the one that its identifier resolves to. -/
theorem State.LiveIds.lorawanFindEl_eq (live : state.LiveIds) {el : SockEl}
    (member : el ∈ state.lSockList) : lorawanFindEl state el.sock = some el := by
  apply RecordTable.find?_eq_some_of_unique member (by simp)
  intro other otherMem same
  exact List.inj_on_of_nodup_map live.2 otherMem member (by simpa using same)

/-! ## Whole runs -/

theorem State.LiveIds.initial : State.initial.LiveIds := by
  simp [State.LiveIds, State.initial]

theorem throughout_liveIds_iff (osTicksPerSec : OsTime) (calls : List Call) :
    (sockets osTicksPerSec).Throughout State.LiveIds State.initial calls ↔
      (sockets osTicksPerSec).Along State.IdFresh State.initial calls :=
  (sockets osTicksPerSec).throughout_iff_along State.WellFormed
    (fun _ call wellFormed => wellFormed.next osTicksPerSec call)
    (State.LiveIds.next_iff osTicksPerSec) calls State.initial
    State.WellFormed.initial State.LiveIds.initial

theorem along_creationSound_iff (osTicksPerSec : OsTime) (calls : List Call) :
    (sockets osTicksPerSec).Along State.CreationSound State.initial calls ↔
      (sockets osTicksPerSec).Along State.IdFresh State.initial calls := by
  have unguarded : (sockets osTicksPerSec).Along (fun _ _ => True) State.initial calls :=
    (sockets osTicksPerSec).along_of_forall (fun _ _ => trivial) calls State.initial
  have agree := (sockets osTicksPerSec).along_of_invariant State.WellFormed
    (fun _ call wellFormed _ => wellFormed.next osTicksPerSec call)
    (fun _ call wellFormed _ => creationSound_iff_idFresh wellFormed call)
    calls State.initial unguarded State.WellFormed.initial
  exact (sockets osTicksPerSec).along_congr agree

/-- In every run the identifiers are sound exactly when every creation is fresh;
then 0 never resolves, and 0 is returned only by a call that inserts nothing. -/
theorem live_socket_identifiers (osTicksPerSec : OsTime) (calls : List Call) :
    ((sockets osTicksPerSec).Along State.CreationSound State.initial calls ↔
        (sockets osTicksPerSec).Along State.IdFresh State.initial calls) ∧
      ((sockets osTicksPerSec).Throughout State.LiveIds State.initial calls ↔
        (sockets osTicksPerSec).Along State.IdFresh State.initial calls) ∧
      ((sockets osTicksPerSec).Along State.IdFresh State.initial calls →
        (sockets osTicksPerSec).Throughout (fun state => lorawanFindEl state 0#32 = none)
            State.initial calls ∧
          (sockets osTicksPerSec).Along
            (fun state call => ∀ allocated, call = .socket allocated →
              (lorawanSocket state allocated).2 = 0#32 →
                (lorawanSocket state allocated).1 = state) State.initial calls) := by
  refine ⟨along_creationSound_iff osTicksPerSec calls,
    throughout_liveIds_iff osTicksPerSec calls, fun fresh => ⟨?_, ?_⟩⟩
  · exact (sockets osTicksPerSec).throughout_mono
      (fun state => State.LiveIds.lorawanFindEl_zero)
      ((throughout_liveIds_iff osTicksPerSec calls).mpr fresh)
  · apply Machine.Along.mono _ ((along_creationSound_iff osTicksPerSec calls).mpr fresh)
    intro state call sound allocated isSocket zero
    subst isSocket
    cases allocated with
    | false => rfl
    | true => exact absurd zero sound.1

/-! ## The wrap -/

/-- Sockets opened and closed again, one after the other. -/
def churn (count : Nat) : List Call :=
  (List.range count).flatMap fun index =>
    [.socket true, .close (BitVec.ofNat 32 (index + 1))]

theorem run_churn (osTicksPerSec : OsTime) (count : Nat) :
    (sockets osTicksPerSec).run State.initial (churn count) =
      { State.initial with sockCpt := BitVec.ofNat 32 (count + 1), sockBlocks := count } := by
  induction count with
  | zero => rfl
  | succ count induction =>
      have last : churn (count + 1) =
          churn count ++ [.socket true, .close (BitVec.ofNat 32 (count + 1))] := by
        simp [churn, List.range_succ]
      rw [last, Machine.run_append, induction]
      simp only [Machine.run_cons, Machine.run_nil, next_socket, next_close]
      simp [lorawanSocket, lorawanClose, lorawanFindEl, State.initial, State.discard,
        RecordTable.discard, BitVec.ofNat_add]

/-- After `2 ^ 32 - 1` sockets, all closed, the next one gets the identifier 0,
which reads as a failed allocation although the socket is in the table. -/
theorem churn_not_sound :
    ¬(sockets 1000).Along State.CreationSound State.initial
      (churn (2 ^ 32 - 1) ++ [.socket true]) := by
  rw [along_creationSound_iff, Machine.along_append, run_churn]
  intro along
  rcases along with ⟨_, fresh, _⟩
  exact fresh.1 (by simp)

end Lorawan.Sockets
