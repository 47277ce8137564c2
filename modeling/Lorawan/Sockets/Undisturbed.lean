import Lorawan.Sockets.Preemption

/-! # A bind that is not preempted

A task that has the records to itself does what `lorawan_bind` does as a whole. -/

namespace Lorawan.Sockets

open Tasks (Alone)

/-- In a well-formed table a record is written in its place. -/
theorem State.WellFormed.write_eq_store {shared : State} (wellFormed : shared.WellFormed)
    {place : Nat} {el : SockEl} (found : shared.lSockList[place]? = some el)
    {update : SockEl → SockEl} (sameBlock : (update el).block = el.block) :
    shared.write place update = shared.store (update el) := by
  have records : shared.lSockList.modify place update =
      RecordTable.store SockEl.block (update el) shared.lSockList := by
    apply List.ext_getElem?
    intro other
    unfold RecordTable.store
    rw [List.getElem?_modify, List.getElem?_map]
    by_cases same : place = other
    · subst same
      simp [found, sameBlock]
    · cases foundOther : shared.lSockList[other]? with
      | none => simp
      | some record =>
          have blocks : record.block ≠ el.block := by
            intro equal
            exact same (wellFormed.place_unique found foundOther equal.symm)
          simp [same, sameBlock, blocks]
  exact congrArg (fun records => { shared with lSockList := records }) records

namespace BindTask

variable {task : BindTask} {request : BindRequest} {rest : List BindRequest}

section Alone

variable (current : task.requests = request :: rest)

include current

/-- The search through the records from some place on. -/
theorem search_alone (shared : State) (own : Nat) (records : List SockEl) (place : Nat)
    (remaining : shared.lSockList.drop place = records) :
    Relation.ReflTransGen (Alone bindAccess) (shared, task.goTo (.searchDevAddr own place))
      (shared,
        if ((records.find? fun el =>
            el.devAddr == request.devAddr && el.ports.contains request.port).map
              SockEl.sock).getD 0#32 ≠ 0#32 then task.returns .portAlreadyUsed
        else task.goTo (.readPorts own)) := by
  induction records generalizing place with
  | nil =>
      have ended : shared.lSockList[place]? = none :=
        List.getElem?_eq_none (List.drop_eq_nil_iff.mp remaining)
      refine .single ?_
      simp [Alone, bindAccess, goTo, current, ended]
  | cons el records induction =>
      have found : shared.lSockList[place]? = some el := by
        have first := congrArg (fun records : List SockEl => records[0]?) remaining
        simpa using first
      have later : shared.lSockList.drop (place + 1) = records := by
        rw [← List.drop_drop, remaining]
        rfl
      have goesOn := induction (place + 1) later
      by_cases address : el.devAddr = request.devAddr
      case neg =>
        rw [List.find?_cons_of_neg (by simp [address])]
        refine .head ?_ goesOn
        simp [Alone, bindAccess, goTo, current, found, address]
      have reads : Alone bindAccess (shared, task.goTo (.searchDevAddr own place))
          (shared, task.goTo (.searchPorts own place)) := by
        simp [Alone, bindAccess, goTo, current, found, address]
      refine .head reads ?_
      cases port : el.ports.contains request.port with
      | false =>
          rw [List.find?_cons_of_neg (by simp [port])]
          refine .head ?_ goesOn
          simp [Alone, bindAccess, goTo, current, found, port]
      | true =>
          rw [List.find?_cons_of_pos (by simp [port, address])]
          refine .single ?_
          by_cases sock : el.sock = 0#32
          · simp [Alone, bindAccess, goTo, current, found, port, sock]
          · simp [Alone, bindAccess, goTo, returns, current, found, port, sock]

end Alone

end BindTask

/-- After the first check the socket has an address. -/
theorem pin_alone {shared : State} (wellFormed : shared.WellFormed) {task : BindTask}
    {request : BindRequest} {rest : List BindRequest} (current : task.requests = request :: rest)
    {own : Nat} {el : SockEl} (found : shared.lSockList[own]? = some el) :
    Relation.ReflTransGen (Alone bindAccess) (shared, task.goTo (.readDevAddr own))
      (shared.store (if el.devAddr = 0#32 then { el with devAddr := request.devAddr } else el),
        task.goTo (.compareDevAddr own)) := by
  by_cases unset : el.devAddr = 0#32
  case neg =>
    rw [if_neg unset, wellFormed.store_self (List.mem_of_getElem? found)]
    refine .single ?_
    simp [Alone, bindAccess, BindTask.goTo, current, found, unset]
  have reads : Alone bindAccess (shared, task.goTo (.readDevAddr own))
      (shared, task.goTo (.writeDevAddr own)) := by
    simp [Alone, bindAccess, BindTask.goTo, current, found, unset]
  refine .head reads (.single ?_)
  have stored : shared.write own (fun el => { el with devAddr := request.devAddr }) =
      shared.store { el with devAddr := request.devAddr } :=
    wellFormed.write_eq_store found rfl
  rw [if_pos unset]
  simp [Alone, bindAccess, BindTask.goTo, current, ← stored]

theorem getElem?_store {shared : State} {place : Nat} {el : SockEl}
    (found : shared.lSockList[place]? = some el) {new : SockEl} (sameBlock : new.block = el.block) :
    (shared.store new).lSockList[place]? = some new := by
  rw [State.lSockList_store, RecordTable.store, List.getElem?_map, found]
  simp [sameBlock]

/-- From the second check on, with the record as the first check has left it. -/
theorem compare_alone {shared : State} (wellFormed : shared.WellFormed) {task : BindTask}
    {request : BindRequest} {rest : List BindRequest} (current : task.requests = request :: rest)
    {own : Nat} {el : SockEl} (found : shared.lSockList[own]? = some el) :
    Relation.ReflTransGen (Alone bindAccess) (shared, task.goTo (.compareDevAddr own))
      (if el.devAddr ≠ request.devAddr then (shared, task.returns .error)
      else if request.port = 0#8 then (shared, task.returns .portAlreadyUsed)
      else if lorawanFindSockByParams shared request.devAddr request.port ≠ 0#32 then
        (shared, task.returns .portAlreadyUsed)
      else
        (shared.store { el with ports := el.ports.add request.port }, task.returns .ok)) := by
  by_cases address : el.devAddr = request.devAddr
  case neg =>
    rw [if_pos address]
    refine .single ?_
    simp [Alone, bindAccess, BindTask.goTo, BindTask.returns, current, found, address]
  rw [if_neg (not_not_intro address)]
  by_cases portSet : request.port = 0#8
  case pos =>
    rw [if_pos portSet]
    refine .single ?_
    simp [Alone, bindAccess, BindTask.goTo, BindTask.returns, current, found, address, portSet]
  have compares : Alone bindAccess (shared, task.goTo (.compareDevAddr own))
      (shared, task.goTo (.searchDevAddr own 0)) := by
    simp [Alone, bindAccess, BindTask.goTo, current, found, address, portSet]
  have searches := BindTask.search_alone current shared own shared.lSockList 0 rfl
  rw [← lorawanFindSockByParams_eq] at searches
  rw [if_neg portSet]
  refine .head compares (searches.trans ?_)
  by_cases used : lorawanFindSockByParams shared request.devAddr request.port ≠ 0#32
  · rw [if_pos used, if_pos used]
  rw [if_neg used, if_neg used]
  have reads : Alone bindAccess (shared, task.goTo (.readPorts own))
      (shared, task.goTo (.writePorts own (el.ports.word request.port))) := by
    simp [Alone, bindAccess, BindTask.goTo, current, found]
  refine .head reads (.single ?_)
  have stored : shared.write own (fun now => { now with
        ports := now.ports.writeBack request.port (el.ports.word request.port) }) =
      shared.store { el with ports := el.ports.add request.port } := by
    rw [← Ports.writeBack_word]
    exact wellFormed.write_eq_store found rfl
  simp [Alone, bindAccess, BindTask.goTo, BindTask.returns, current, ← stored]

/-- A task that is not disturbed makes its call as a whole. -/
theorem bind_alone {shared : State} (wellFormed : shared.WellFormed) {task : BindTask}
    {request : BindRequest} {rest : List BindRequest} (current : task.requests = request :: rest)
    (point : task.point = .findEl) :
    Relation.ReflTransGen (Alone bindAccess) (shared, task)
      ((lorawanBind shared request.sock request.devAddr request.port).1,
        task.returns (lorawanBind shared request.sock request.devAddr request.port).2) := by
  cases found : lorawanFindEl shared request.sock with
  | none =>
      have absent : (shared.lSockList.findIdx? fun el => el.sock == request.sock) = none :=
        List.findIdx?_eq_none_iff.mpr fun el member => by
          simpa using List.find?_eq_none.mp found el member
      refine .single ?_
      simp [Alone, bindAccess, lorawanBind, current, point, found, absent]
  | some el =>
      rcases List.find?_eq_some_iff_getElem.mp found with ⟨sameSock, own, inside, atOwn, first⟩
      have place : shared.lSockList[own]? = some el := by
        rw [List.getElem?_eq_getElem inside, atOwn]
      have search : (shared.lSockList.findIdx? fun el => el.sock == request.sock) = some own := by
        refine List.findIdx?_eq_some_iff_getElem.mpr ⟨inside, by rwa [atOwn], ?_⟩
        intro earlier below
        simpa using first earlier below
      have finds : Alone bindAccess (shared, task) (shared, task.goTo (.readDevAddr own)) := by
        simp [Alone, bindAccess, current, point, search]
      have pins := pin_alone wellFormed current place
      generalize pinned : (if el.devAddr = 0#32 then { el with devAddr := request.devAddr }
        else el) = now at pins
      have sameBlock : now.block = el.block := by
        rw [← pinned]
        split <;> rfl
      have keepsSock : now.sock = el.sock := by
        rw [← pinned]
        split <;> rfl
      have compares := compare_alone
        (wellFormed.store (List.mem_of_getElem? place) sameBlock keepsSock) current
        (getElem?_store place sameBlock)
      refine .head finds (pins.trans ?_)
      unfold lorawanBind
      rw [found]
      dsimp only
      rw [pinned]
      by_cases address : now.devAddr ≠ request.devAddr
      · rw [if_pos address] at compares ⊢
        exact compares
      rw [if_neg address] at compares ⊢
      by_cases portZero : request.port = 0#8
      · rw [if_pos portZero] at compares ⊢
        exact compares
      rw [if_neg portZero] at compares ⊢
      by_cases used : lorawanFindSockByParams (shared.store now) request.devAddr request.port ≠
          0#32
      · rw [if_pos used] at compares ⊢
        exact compares
      rw [if_neg used] at compares ⊢
      exact compares

/-- A task whose turns are not interrupted does what `lorawan_bind` does as a whole. -/
theorem preemptedBinds_undisturbed {TaskId : Type} [DecidableEq TaskId]
    (state : Tasks TaskId State BindTask) (wellFormed : state.shared.WellFormed) (task : TaskId)
    {request : BindRequest} {rest : List BindRequest}
    (current : (state.own task).requests = request :: rest)
    (point : (state.own task).point = .findEl) :
    ∃ turns, (preemptedBinds TaskId).run state (List.replicate turns task) =
      { shared := (lorawanBind state.shared request.sock request.devAddr request.port).1
        own := Function.update state.own task ((state.own task).returns
          (lorawanBind state.shared request.sock request.devAddr request.port).2) } :=
  Tasks.run_alone bindAccess state task (bind_alone wellFormed current point)

end Lorawan.Sockets
