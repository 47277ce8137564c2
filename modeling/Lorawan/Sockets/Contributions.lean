import Lorawan.Sockets.Preemption

/-! # What a task makes of the records

By the calls that it has returned from, and by the current one. -/

namespace Lorawan.Sockets

/-! ## What a request makes of a record -/

section Answers

variable {start : State}

theorem answer_unknown (request : BindRequest)
    (unknown : ∀ el ∈ start.lSockList, el.sock ≠ request.sock) :
    request.answer start.registry = .invalidSock := by
  have missing : lorawanFindEl start request.sock = none := by
    apply List.find?_eq_none.mpr
    intro el member
    simpa using unknown el member
  simp [BindRequest.answer, State.registry, missing]

variable (owned : start.Owned) (request : BindRequest) {el : SockEl}
  (member : el ∈ start.lSockList) (sameSock : el.sock = request.sock)

include owned member sameSock

theorem answer_refused (refused : ¬(el.devAddr = 0#32 ∨ el.devAddr = request.devAddr)) :
    request.answer start.registry = .error := by
  have found : lorawanFindEl start request.sock = some el :=
    sameSock ▸ owned.liveIds.lorawanFindEl_eq member
  have opened : start.registry.pin request.sock ≠ none := by simp [State.registry, found]
  have admits := State.Owned.registry_admits_of_found request.sock found request.devAddr
  rw [BindRequest.answer, if_neg opened, if_pos fun admitted => refused (admits.mp admitted)]

theorem answer_accepted (accepts : el.devAddr = 0#32 ∨ el.devAddr = request.devAddr) :
    (request.port ≠ 0#8 ∧ ∀ owner, ¬start.Owner request.devAddr request.port owner) ∧
        request.answer start.registry = .ok ∨
      ¬(request.port ≠ 0#8 ∧ ∀ owner, ¬start.Owner request.devAddr request.port owner) ∧
        request.answer start.registry = .portAlreadyUsed := by
  have found : lorawanFindEl start request.sock = some el :=
    sameSock ▸ owned.liveIds.lorawanFindEl_eq member
  have opened : start.registry.pin request.sock ≠ none := by simp [State.registry, found]
  have grants : start.registry.Grants (· ≠ 0#8) request.sock request.devAddr request.port ↔
      request.port ≠ 0#8 ∧ ∀ owner, ¬start.Owner request.devAddr request.port owner := by
    rw [owned.registry_grants]
    exact and_iff_right ⟨el, member, sameSock, accepts⟩
  have admits := State.Owned.registry_admits_of_found request.sock found request.devAddr
  rw [BindRequest.answer, if_neg opened, if_neg (not_not_intro (admits.mpr accepts)), ← grants]
  by_cases granted : start.registry.Grants (· ≠ 0#8) request.sock request.devAddr request.port
  · exact .inl ⟨granted, if_pos granted⟩
  · exact .inr ⟨granted, if_neg granted⟩

theorem admitted_of_answer
    (answered : request.answer start.registry = .ok ∨
      request.answer start.registry = .portAlreadyUsed) :
    el.devAddr = 0#32 ∨ el.devAddr = request.devAddr := by
  by_contra refused
  rw [answer_refused owned request member sameSock refused] at answered
  simp at answered

end Answers

/-- What may have become of a record by some of the requests of a program, of which those
answered may have been granted. -/
structure Grown (program answered : List BindRequest) (el now : SockEl) : Prop where
  sock : now.sock = el.sock
  pinned : el.devAddr ≠ 0#32 → now.devAddr = el.devAddr
  named : now.devAddr = el.devAddr ∨
    ∃ request ∈ program, request.sock = el.sock ∧ now.devAddr = request.devAddr
  kept : ∀ port, el.ports.contains port = true → now.ports.contains port = true
  granted : ∀ port, now.ports.contains port = true → el.ports.contains port = true ∨
    ∃ request ∈ answered, request.sock = el.sock ∧ request.port = port ∧
      request.devAddr = now.devAddr

/-- All requests for a socket name one address. -/
def OneAddress (program : List BindRequest) : Prop :=
  ∀ first ∈ program, ∀ second ∈ program, first.sock = second.sock → first.devAddr = second.devAddr

namespace Grown

variable {program answered : List BindRequest} {el now : SockEl}

theorem refl (program : List BindRequest) (el : SockEl) : Grown program [] el el where
  sock := rfl
  pinned := fun _ => rfl
  named := .inl rfl
  kept := fun _ holds => holds
  granted := fun _ holds => .inl holds

theorem effect {start : State} (owned : start.Owned) (member : el ∈ start.lSockList)
    (grown : Grown program answered el now) (oneAddress : OneAddress program)
    (sub : ∀ request ∈ answered, request ∈ program) {request : BindRequest}
    (listed : request ∈ program) :
    Grown program (answered ++ [request]) el
      (request.effect (request.answer start.registry) now) := by
  have wider : Grown program (answered ++ [request]) el now :=
    { grown with
      granted := fun port holds => (grown.granted port holds).imp_right
        fun ⟨other, otherMem, facts⟩ => ⟨other, List.mem_append_left _ otherMem, facts⟩ }
  by_cases apart : now.sock = request.sock
  case neg =>
    rw [BindRequest.effect_of_ne apart]
    exact wider
  have sameSock : el.sock = request.sock := grown.sock.symm.trans apart
  have granted : ∀ port, now.ports.contains port = true → el.ports.contains port = true ∨
      ∃ other ∈ answered ++ [request], other.sock = el.sock ∧ other.port = port ∧
        other.devAddr = request.devAddr := by
    intro port holds
    rcases grown.granted port holds with before | ⟨other, otherMem, otherSock, otherPort, _⟩
    · exact .inl before
    · exact .inr ⟨other, List.mem_append_left _ otherMem, otherSock, otherPort,
        oneAddress other (sub other otherMem) request listed (otherSock.trans sameSock)⟩
  have accepted := admitted_of_answer owned request member sameSock
  have repinned : (el.devAddr = 0#32 ∨ el.devAddr = request.devAddr) → el.devAddr ≠ 0#32 →
      request.devAddr = el.devAddr := by
    intro accepts nonzero
    exact (accepts.resolve_left nonzero).symm
  unfold BindRequest.effect
  rw [if_pos apart]
  cases status : request.answer start.registry with
  | ok =>
      have accepts := accepted (.inl status)
      constructor
      case sock => exact grown.sock
      case pinned => exact repinned accepts
      case named => exact .inr ⟨request, listed, sameSock.symm, rfl⟩
      case kept =>
        intro port holds
        simp [grown.kept port holds]
      case granted =>
        intro port holds
        rw [Ports.contains_add, Bool.or_eq_true, decide_eq_true_eq] at holds
        rcases holds with before | added
        · exact granted port before
        · exact .inr ⟨request, by simp, sameSock.symm, added.symm, rfl⟩
  | portAlreadyUsed =>
      have accepts := accepted (.inr status)
      constructor
      case sock => exact grown.sock
      case pinned => exact repinned accepts
      case named => exact .inr ⟨request, listed, sameSock.symm, rfl⟩
      case kept => exact grown.kept
      case granted => exact granted
  | error => exact wider
  | invalidSock => exact wider
  | portBusy => exact wider

end Grown

/-! ## What a task has made of a record -/

/-- In `lorawan_bind`, the address of the socket has been set if it was not before. -/
def BindPoint.pinned : BindPoint → Bool
  | .findEl => false
  | .readDevAddr _ => false
  | .writeDevAddr _ => false
  | .compareDevAddr _ => true
  | .searchDevAddr _ _ => true
  | .searchPorts _ _ => true
  | .readPorts _ => true
  | .writePorts _ _ => true

namespace BindTask

/-- By the calls that have returned. -/
def settled (task : BindTask) (el : SockEl) : SockEl :=
  task.answered.foldl (fun el answered => answered.1.effect answered.2 el) el

/-- By the current call, too. -/
def written (task : BindTask) (el : SockEl) : SockEl :=
  match task.requests with
  | [] => task.settled el
  | request :: _ =>
      if task.point.pinned = true ∧ el.sock = request.sock ∧ (task.settled el).devAddr = 0#32 then
        { task.settled el with devAddr := request.devAddr }
      else task.settled el

/-- The task has answered the first calls of its program, each as it would be answered at the
start. -/
structure Follows (task : BindTask) (start : State) (program : List BindRequest) : Prop where
  program : program = task.answered.map Prod.fst ++ task.requests
  status : ∀ answered ∈ task.answered, answered.2 = answered.1.answer start.registry

variable {task : BindTask} {start : State} {program : List BindRequest}

theorem settled_grown (owned : start.Owned) (oneAddress : OneAddress program) {el : SockEl}
    (member : el ∈ start.lSockList) (answers : List (BindRequest × LorawanStatus))
    (sub : ∀ answered ∈ answers, answered.1 ∈ program)
    (status : ∀ answered ∈ answers, answered.2 = answered.1.answer start.registry) :
    Grown program (answers.map Prod.fst) el
      (answers.foldl (fun el answered => answered.1.effect answered.2 el) el) := by
  induction answers using List.reverseRecOn with
  | nil => exact .refl program el
  | append_singleton answers answered induction =>
      have before := induction
        (fun other otherMem => sub other (List.mem_append_left _ otherMem))
        (fun other otherMem => status other (List.mem_append_left _ otherMem))
      have earlier : ∀ request ∈ answers.map Prod.fst, request ∈ program := by
        intro request listed
        rcases List.mem_map.mp listed with ⟨other, otherMem, rfl⟩
        exact sub other (List.mem_append_left _ otherMem)
      rw [List.foldl_append, List.foldl_cons, List.foldl_nil, List.map_append,
        List.map_singleton, status answered (by simp)]
      exact before.effect owned member oneAddress earlier (sub answered (by simp))

namespace Follows

theorem answered_mem (follows : task.Follows start program)
    {answered : BindRequest × LorawanStatus} (member : answered ∈ task.answered) :
    answered.1 ∈ program := by
  rw [follows.program]
  exact List.mem_append_left _ (List.mem_map_of_mem member)

theorem current_mem (follows : task.Follows start program) {request : BindRequest}
    {rest : List BindRequest} (current : task.requests = request :: rest) :
    request ∈ program := by
  rw [follows.program, current]
  simp

variable (follows : task.Follows start program) (owned : start.Owned)
  (oneAddress : OneAddress program) {el : SockEl} (member : el ∈ start.lSockList)

include follows owned oneAddress member

theorem grown : Grown program (task.answered.map Prod.fst) el (task.settled el) :=
  settled_grown owned oneAddress member task.answered (fun _ => follows.answered_mem)
    follows.status

/-- The current call may have set the address of a record that had none, and so had no
ports. -/
theorem written_grown (named : ∀ request ∈ program, request.devAddr ≠ 0#32) :
    Grown program (task.answered.map Prod.fst) el (task.written el) := by
  have grown := follows.grown owned oneAddress member
  unfold written
  split
  · exact grown
  next request rest current =>
    split
    next sets =>
      rcases sets with ⟨_, sameSock, unpinned⟩
      have unpinnedBefore : el.devAddr = 0#32 := by
        by_contra nonzero
        exact nonzero ((grown.pinned nonzero).symm.trans unpinned)
      have noPorts : ∀ port, (task.settled el).ports.contains port = false := by
        intro port
        by_contra holds
        rcases grown.granted port (by simpa using holds) with
          before | ⟨other, otherMem, _, _, sameAddr⟩
        · have none := (owned.proper_of_mem member).1 unpinnedBefore port
          exact absurd before (by simpa [SockEl.binding] using none)
        · rcases List.mem_map.mp otherMem with ⟨answered, answeredMem, rfl⟩
          exact named _ (follows.answered_mem answeredMem) (sameAddr.trans unpinned)
      constructor
      case sock => exact grown.sock
      case pinned => exact fun nonzero => absurd unpinnedBefore nonzero
      case named => exact .inr ⟨request, follows.current_mem current, sameSock.symm, rfl⟩
      case kept => exact grown.kept
      case granted =>
        intro port holds
        exact absurd holds (by simp [noPorts port])
    · exact grown

/-- The address of the socket that is bound, when it can have it. -/
theorem settled_devAddr {request : BindRequest} {rest : List BindRequest}
    (current : task.requests = request :: rest) (sameSock : el.sock = request.sock)
    (accepts : el.devAddr = 0#32 ∨ el.devAddr = request.devAddr) :
    (task.settled el).devAddr = 0#32 ∨ (task.settled el).devAddr = request.devAddr := by
  rcases (follows.grown owned oneAddress member).named with same | ⟨other, otherMem, otherSock, set⟩
  · rw [same]
    exact accepts
  · refine .inr (set.trans ?_)
    exact oneAddress other otherMem request (follows.current_mem current)
      (otherSock.trans sameSock)

/-- Past the check of its address, a socket that can have the address has it. -/
theorem written_own {request : BindRequest} {rest : List BindRequest}
    (current : task.requests = request :: rest) (pinned : task.point.pinned = true)
    (sameSock : el.sock = request.sock)
    (accepts : el.devAddr = 0#32 ∨ el.devAddr = request.devAddr) :
    task.written el = { task.settled el with devAddr := request.devAddr } := by
  have address := follows.settled_devAddr owned oneAddress member current sameSock accepts
  unfold written
  rw [current]
  dsimp only
  split
  · rfl
  next unset =>
    have set := address.resolve_left fun zero => unset ⟨pinned, sameSock, zero⟩
    rw [← set]

end Follows

/-- The task has not touched the records of other sockets in its current call. -/
theorem written_of_ne {request : BindRequest} {rest : List BindRequest} {el : SockEl}
    (current : task.requests = request :: rest) (apart : el.sock ≠ request.sock) :
    task.written el = task.settled el := by
  unfold written
  rw [current]
  exact if_neg fun sets => apart sets.2.1

theorem written_of_unpinned {el : SockEl} (unpinned : task.point.pinned = false) :
    task.written el = task.settled el := by
  unfold written
  split
  · rfl
  · exact if_neg fun sets => by simp [unpinned] at sets

theorem written_goTo {point : BindPoint} (samePinned : point.pinned = task.point.pinned)
    (el : SockEl) : (task.goTo point).written el = task.written el := by
  unfold written
  rw [show (task.goTo point).requests = task.requests from rfl,
    show (task.goTo point).point = point from rfl, samePinned]
  rfl

theorem Follows.goTo (follows : task.Follows start program) (point : BindPoint) :
    (task.goTo point).Follows start program :=
  ⟨follows.program, follows.status⟩

section Returns

variable {request : BindRequest} {rest : List BindRequest}
  (current : task.requests = request :: rest)

include current

theorem returns_eq (status : LorawanStatus) :
    task.returns status =
      { requests := rest, point := .findEl, answered := task.answered ++ [(request, status)] } := by
  unfold returns
  rw [current]

theorem Follows.returns (follows : task.Follows start program) {status : LorawanStatus}
    (answers : request.answer start.registry = status) :
    (task.returns status).Follows start program where
  program := by
    rw [returns_eq current, follows.program, current]
    simp
  status := by
    rw [returns_eq current]
    intro answered member
    rcases List.mem_append.mp member with before | now
    · exact follows.status answered before
    · rw [List.mem_singleton.mp now]
      exact answers.symm

theorem written_returns (status : LorawanStatus) (el : SockEl) :
    (task.returns status).written el = request.effect status (task.settled el) := by
  rw [returns_eq current, written_of_unpinned rfl]
  simp [settled]

end Returns

end BindTask

end Lorawan.Sockets
