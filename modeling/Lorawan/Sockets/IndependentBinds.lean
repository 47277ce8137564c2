import Lorawan.Sockets.Registration
import Mathlib.Data.List.Perm.Basic

/-! # Independent binds

Requests for different couples that agree on the address of each socket do not
interfere: each is answered from the registry that all of them found, and each writes
its own part of its record. -/

namespace Lorawan.Sockets

open scoped List

/-- The arguments of `lorawan_bind`. -/
structure BindRequest where
  sock : LorawanSock
  devAddr : DevAddr
  port : Port
  deriving DecidableEq

structure Independent (requests : List BindRequest) : Prop where
  named : ∀ request ∈ requests, request.devAddr ≠ 0#32
  oneAddress : ∀ first ∈ requests, ∀ second ∈ requests,
    first.sock = second.sock → first.devAddr = second.devAddr
  distinct : (requests.map fun request => (request.devAddr, request.port)).Nodup

namespace BindRequest

def call (request : BindRequest) : Call :=
  .bind request.sock request.devAddr request.port

/-- What the registry answers to a request. -/
def answer (request : BindRequest) (registry : Registry LorawanSock DevAddr Port) :
    LorawanStatus :=
  if registry.pin request.sock = none then .invalidSock
  else if ¬registry.Admits request.sock request.devAddr then .error
  else if registry.Grants (· ≠ 0#8) request.sock request.devAddr request.port then .ok
  else .portAlreadyUsed

/-- What a request that is answered in this way makes of a record. -/
def effect (request : BindRequest) (status : LorawanStatus) (el : SockEl) : SockEl :=
  if el.sock = request.sock then
    match status with
    | .ok => { el with devAddr := request.devAddr, ports := el.ports.add request.port }
    | .portAlreadyUsed => { el with devAddr := request.devAddr }
    | _ => el
  else el

@[simp] theorem sock_effect (request : BindRequest) (status : LorawanStatus) (el : SockEl) :
    (request.effect status el).sock = el.sock := by
  unfold effect
  split
  · cases status <;> rfl
  · rfl

theorem effect_of_ne {request : BindRequest} {el : SockEl} (apart : el.sock ≠ request.sock)
    (status : LorawanStatus) : request.effect status el = el :=
  if_neg apart

theorem effect_comm {first second : BindRequest}
    (agree : first.sock = second.sock → first.devAddr = second.devAddr)
    (firstStatus secondStatus : LorawanStatus) (el : SockEl) :
    second.effect secondStatus (first.effect firstStatus el) =
      first.effect firstStatus (second.effect secondStatus el) := by
  by_cases ofFirst : el.sock = first.sock
  · by_cases ofSecond : el.sock = second.sock
    · have sameSock := ofFirst.symm.trans ofSecond
      cases firstStatus <;> cases secondStatus <;>
        simp [effect, ofFirst, sameSock, agree sameSock,
          Ports.add_right_comm el.ports first.port second.port]
    · have afterFirst : (first.effect firstStatus el).sock ≠ second.sock := by
        rwa [sock_effect]
      rw [effect_of_ne ofSecond, effect_of_ne afterFirst]
  · have afterSecond : (second.effect secondStatus el).sock ≠ first.sock := by
      rwa [sock_effect]
    rw [effect_of_ne ofFirst, effect_of_ne afterSecond]

/-- An independent bind does not change the answer. -/
theorem answer_bind (registry : Registry LorawanSock DevAddr Port) {first second : BindRequest}
    (agree : second.sock = first.sock → second.devAddr = first.devAddr)
    (apart : ¬(second.devAddr = first.devAddr ∧ second.port = first.port)) :
    second.answer (registry.bind (· ≠ 0#8) first.sock first.devAddr first.port) =
      second.answer registry := by
  simp only [answer, Registry.pin_bind_eq_none, Registry.admits_bind _ _ _ _ _ agree,
    Registry.grants_bind _ _ _ _ _ agree apart]

end BindRequest

namespace Independent

variable {requests : List BindRequest}

theorem perm (independent : Independent requests) {permuted : List BindRequest}
    (permutes : permuted ~ requests) : Independent permuted where
  named request member := independent.named request (permutes.mem_iff.mp member)
  oneAddress first firstMem second secondMem :=
    independent.oneAddress first (permutes.mem_iff.mp firstMem) second
      (permutes.mem_iff.mp secondMem)
  distinct := (permutes.map _).nodup_iff.mpr independent.distinct

theorem tail {request : BindRequest} (independent : Independent (request :: requests)) :
    Independent requests where
  named other member := independent.named other (List.mem_cons_of_mem request member)
  oneAddress first firstMem second secondMem :=
    independent.oneAddress first (List.mem_cons_of_mem request firstMem) second
      (List.mem_cons_of_mem request secondMem)
  distinct := (List.nodup_cons.mp independent.distinct).2

/-- The first request does not change the answers to the others. -/
theorem answer_eq {request : BindRequest} (independent : Independent (request :: requests))
    (registry : Registry LorawanSock DevAddr Port) {other : BindRequest}
    (member : other ∈ requests) :
    other.answer (registry.bind (· ≠ 0#8) request.sock request.devAddr request.port) =
      other.answer registry := by
  apply BindRequest.answer_bind
  · exact independent.oneAddress other (List.mem_cons_of_mem request member) request
      List.mem_cons_self
  · intro same
    apply (List.nodup_cons.mp independent.distinct).1
    exact List.mem_map.mpr ⟨other, member, Prod.ext same.1 same.2⟩

/-- The effects on a record add up to the same in any order. -/
theorem foldl_effect_perm (independent : Independent requests) {permuted : List BindRequest}
    (permutes : permuted ~ requests) (answer : BindRequest → LorawanStatus) (el : SockEl) :
    permuted.foldl (fun el request => request.effect (answer request) el) el =
      requests.foldl (fun el request => request.effect (answer request) el) el := by
  apply permutes.foldl_eq'
  intro first firstMem second secondMem el
  apply BindRequest.effect_comm
  exact independent.oneAddress first (permutes.mem_iff.mp firstMem) second
    (permutes.mem_iff.mp secondMem)

end Independent

/-! ## One bind -/

namespace State.Owned

variable {state : State}

/-- Writing back the record of a socket is an update by identifier. -/
theorem store_eq_map (owned : state.Owned) {el : SockEl} (member : el ∈ state.lSockList)
    (update : SockEl → SockEl) (sameBlock : (update el).block = el.block) :
    state.store (update el) = { state with
      lSockList := state.lSockList.map fun other =>
        if other.sock = el.sock then update other else other } := by
  unfold State.store RecordTable.store
  congr 1
  apply List.map_congr_left
  intro other otherMem
  by_cases same : other = el
  · subst same
    simp [sameBlock]
  · have blocks : other.block ≠ (update el).block := by
      intro equal
      exact same (owned.wellFormed.eq_of_block_eq otherMem member (equal.trans sameBlock))
    have socks : other.sock ≠ el.sock := fun equal =>
      same (owned.eq_of_sock_eq otherMem member equal)
    rw [if_neg blocks, if_neg socks]

theorem map_effect_quiet (state : State) (request : BindRequest) {status : LorawanStatus}
    (quiet : ∀ el, request.effect status el = el) :
    { state with lSockList := state.lSockList.map (request.effect status) } = state := by
  have same : request.effect status = id := funext quiet
  rw [same, List.map_id]

/-- A bind is answered by the registry, and affects its record as it was answered. -/
theorem lorawanBind_eq (owned : state.Owned) (request : BindRequest)
    (named : request.devAddr ≠ 0#32) :
    lorawanBind state request.sock request.devAddr request.port =
      ({ state with
          lSockList := state.lSockList.map (request.effect (request.answer state.registry)) },
        request.answer state.registry) := by
  have grants := owned.registry_grants request.sock request.devAddr request.port
  have decided := owned.bind_spec request.sock request.port named
  rcases lorawanBind_cases state request.sock request.devAddr request.port with
    ⟨unknown, result⟩ | ⟨el, found, cases⟩
  · have answered : request.answer state.registry = .invalidSock := by
      simp [BindRequest.answer, State.registry, unknown]
    rw [answered, map_effect_quiet state request (by simp [BindRequest.effect])]
    exact result
  have member := mem_of_lorawanFindEl found
  have sameSock := sock_of_lorawanFindEl found
  have opened : state.registry.pin request.sock ≠ none := by simp [State.registry, found]
  have admits := registry_admits_of_found request.sock found request.devAddr
  rcases cases with ⟨refused, result⟩ | ⟨accepts, _, result⟩ | ⟨accepts, _, _, result⟩
  · have answered : request.answer state.registry = .error := by
      rw [BindRequest.answer, if_neg opened, if_pos (fun admitted => refused (admits.mp admitted))]
    rw [answered, map_effect_quiet state request (by simp [BindRequest.effect]), result,
      owned.wellFormed.store_self member]
  · have answered : request.answer state.registry = .portAlreadyUsed := by
      rw [result] at decided
      have notGranted := decided.resolve_left (fun granted => by simp at granted)
      rw [BindRequest.answer, if_neg opened, if_neg (not_not.mpr (admits.mpr accepts)),
        if_neg (fun granted => notGranted.2.1 (grants.mp granted))]
    rw [answered, result, owned.store_eq_map member
      (fun other => { other with devAddr := request.devAddr }) rfl, sameSock]
    rfl
  · have answered : request.answer state.registry = .ok := by
      rw [result] at decided
      have granted := decided.resolve_right (fun refused => refused.1 rfl)
      rw [BindRequest.answer, if_neg opened, if_neg (not_not.mpr (admits.mpr accepts)),
        if_pos (grants.mpr ⟨granted.2.1, granted.2.2.1, granted.2.2.2.1⟩)]
    rw [answered, result, owned.store_eq_map member
      (fun other => { other with
        devAddr := request.devAddr, ports := other.ports.add request.port }) rfl, sameSock]
    rfl

/-- A bind is OK when its socket is live and can have the address, the port is not 0, and
the couple is free. -/
theorem answer_eq_ok (owned : state.Owned) (request : BindRequest)
    (named : request.devAddr ≠ 0#32) :
    request.answer state.registry = .ok ↔
      state.Admits request.sock request.devAddr ∧ request.port ≠ 0#8 ∧
        ∀ owner, ¬state.Owner request.devAddr request.port owner := by
  have decided := owned.bind_spec request.sock request.port named
  rw [owned.lorawanBind_eq request named] at decided
  constructor
  · intro ok
    have granted := decided.resolve_right (fun refused => refused.1 ok)
    exact ⟨granted.2.1, granted.2.2.1, granted.2.2.2.1⟩
  · intro granted
    exact (decided.resolve_right (fun refused => refused.2.1 granted)).1

/-! ## Lists of binds -/

theorem run_independent (osTicksPerSec : OsTime) (owned : state.Owned)
    {requests : List BindRequest} (independent : Independent requests) :
    (sockets osTicksPerSec).run state (requests.map BindRequest.call) =
        { state with
          lSockList := state.lSockList.map fun el =>
            requests.foldl (fun el request => request.effect (request.answer state.registry) el)
              el } ∧
      (sockets osTicksPerSec).trace state (requests.map BindRequest.call) =
        requests.map fun request => (request.call, .bind (request.answer state.registry)) := by
  induction requests generalizing state with
  | nil => simp
  | cons request requests induction =>
      have named := independent.named request List.mem_cons_self
      have result := owned.lorawanBind_eq request named
      have after : (lorawanBind state request.sock request.devAddr request.port).1.Owned :=
        owned.next osTicksPerSec request.call named trivial
      have sameAnswer : ∀ other ∈ requests,
          other.answer (lorawanBind state request.sock request.devAddr
            request.port).1.registry = other.answer state.registry := by
        intro other member
        rw [owned.registry_bind request.sock request.port named after]
        exact independent.answer_eq state.registry member
      rcases induction after independent.tail with ⟨ran, traced⟩
      have stepped : (sockets osTicksPerSec).next state request.call =
          (lorawanBind state request.sock request.devAddr request.port).1 := rfl
      have replied : (sockets osTicksPerSec).reply state request.call =
          .bind (lorawanBind state request.sock request.devAddr request.port).2 := rfl
      constructor
      · have folded : ∀ el : SockEl,
            requests.foldl (fun el other => other.effect (other.answer
              (lorawanBind state request.sock request.devAddr request.port).1.registry) el) el =
            requests.foldl (fun el other => other.effect (other.answer state.registry) el)
              el := by
          intro el
          apply List.foldl_ext
          intro el other member
          rw [sameAnswer other member]
        rw [List.map_cons, Machine.run_cons, stepped, ran]
        simp only [folded]
        rw [result]
        simp [Function.comp_def]
      · have answers : (requests.map fun other => (other.call, Reply.bind (other.answer
              (lorawanBind state request.sock request.devAddr request.port).1.registry))) =
            requests.map fun other => (other.call, .bind (other.answer state.registry)) := by
          apply List.map_congr_left
          intro other member
          rw [sameAnswer other member]
        rw [List.map_cons, Machine.trace_cons, stepped, traced, answers, replied, result]
        rfl

end State.Owned

/-- In whatever order independent requests are made, each is answered as it would be
answered at once, and the table ends up the same. At once a request is granted when its
socket is live and can have the address, the port is not 0, and the couple is free. -/
theorem independent_binds_commute (osTicksPerSec : OsTime) (calls : List Call)
    (nonzero : ∀ call ∈ calls, call.BindsNonzero) (few : creations calls < 2 ^ 32 - 1)
    (requests : List BindRequest) (independent : Independent requests) :
    let state := (sockets osTicksPerSec).run State.initial calls
    (∀ permuted, permuted ~ requests →
      (sockets osTicksPerSec).run state (permuted.map BindRequest.call) =
        (sockets osTicksPerSec).run state (requests.map BindRequest.call) ∧
      (sockets osTicksPerSec).trace state (permuted.map BindRequest.call) =
        permuted.map fun request =>
          (request.call, (sockets osTicksPerSec).reply state request.call)) ∧
    ∀ request ∈ requests,
      (sockets osTicksPerSec).reply state request.call = .bind .ok ↔
        state.Admits request.sock request.devAddr ∧ request.port ≠ 0#8 ∧
          ∀ owner, ¬state.Owner request.devAddr request.port owner := by
  intro state
  have owned : state.Owned := State.Owned.run osTicksPerSec calls nonzero few
  have replied : ∀ request ∈ requests,
      (sockets osTicksPerSec).reply state request.call =
        .bind (request.answer state.registry) := by
    intro request member
    exact congrArg (fun result => Reply.bind result.2)
      (owned.lorawanBind_eq request (independent.named request member))
  constructor
  · intro permuted permutes
    rcases owned.run_independent osTicksPerSec independent with ⟨ran, _⟩
    rcases owned.run_independent osTicksPerSec (independent.perm permutes) with
      ⟨permutedRan, permutedTraced⟩
    constructor
    · rw [ran, permutedRan]
      simp only [independent.foldl_effect_perm permutes]
    · rw [permutedTraced]
      apply List.map_congr_left
      intro request member
      rw [replied request (permutes.mem_iff.mp member)]
  · intro request member
    rw [replied request member, Reply.bind.injEq]
    exact owned.answer_eq_ok request (independent.named request member)

/-- Two ports of one socket, in either order. -/
theorem independent_binds_commute_two_ports :
    let state := (sockets 1000#32).run State.initial [.socket true]
    (sockets 1000#32).run state [.bind 1#32 7#32 6#8, .bind 1#32 7#32 5#8] =
      (sockets 1000#32).run state [.bind 1#32 7#32 5#8, .bind 1#32 7#32 6#8] :=
  ((independent_binds_commute 1000#32 [.socket true] (by decide) (by decide)
    [⟨1#32, 7#32, 5#8⟩, ⟨1#32, 7#32, 6#8⟩]
    { named := by decide, oneAddress := by decide, distinct := by decide }).1
    [⟨1#32, 7#32, 6#8⟩, ⟨1#32, 7#32, 5#8⟩] (List.Perm.swap _ _ [])).1

end Lorawan.Sockets
