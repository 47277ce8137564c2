import Lorawan.Sockets.Contributions

/-! # Preempted binds keep to their records

When the requests of all tasks are independent, and no two tasks bind the same socket, the
accesses of the tasks can come in any order: each record is what its own task has made of it,
and each task has the answers that it would have had at the start. -/

namespace Lorawan.Sockets

/-! ## The invariant -/

/-- The socket of the request has this place in the list. -/
def OwnPlace (start : State) (request : BindRequest) (own : Nat) (el : SockEl) : Prop :=
  start.lSockList[own]? = some el ∧ el.sock = request.sock

/-- The socket can have the address, and the port can be bound. -/
def Searching (start : State) (request : BindRequest) (own : Nat) : Prop :=
  ∃ el, OwnPlace start request own el ∧ (el.devAddr = 0#32 ∨ el.devAddr = request.devAddr) ∧
    request.port ≠ 0#8

/-- At the start none of the first records holds the couple. -/
def FreeBelow (start : State) (request : BindRequest) (place : Nat) : Prop :=
  ∀ earlier < place, ∀ el, start.lSockList[earlier]? = some el →
    ¬(el.devAddr = request.devAddr ∧ el.ports.contains request.port = true)

/-- What a task knows at a point of its current call. -/
def Knows (start shared : State) (task : BindTask) (request : BindRequest) : BindPoint → Prop
  | .findEl => True
  | .readDevAddr own => ∃ el, OwnPlace start request own el
  | .writeDevAddr own => ∃ el, OwnPlace start request own el ∧ (task.settled el).devAddr = 0#32
  | .compareDevAddr own => ∃ el, OwnPlace start request own el
  | .searchDevAddr own place => Searching start request own ∧ FreeBelow start request place
  | .searchPorts own place =>
      Searching start request own ∧ FreeBelow start request place ∧
        ∃ now, shared.lSockList[place]? = some now ∧ now.devAddr = request.devAddr
  | .readPorts own =>
      Searching start request own ∧ FreeBelow start request start.lSockList.length
  | .writePorts own word =>
      Searching start request own ∧ FreeBelow start request start.lSockList.length ∧
        ∀ el, start.lSockList[own]? = some el → word = (task.settled el).ports.word request.port

variable {TaskId : Type}

/-- The tasks do not get in each other's way: no socket and no couple is asked for by two of
them, and no task asks for a couple twice. -/
structure Preemptible (programs : TaskId → List BindRequest) : Prop where
  named : ∀ task, ∀ request ∈ programs task, request.devAddr ≠ 0#32
  oneAddress : ∀ task, OneAddress (programs task)
  distinct : ∀ task,
    ((programs task).map fun request => (request.devAddr, request.port)).Nodup
  ownCouples : ∀ first second, ∀ request ∈ programs first, ∀ other ∈ programs second,
    (request.devAddr, request.port) = (other.devAddr, other.port) → first = second
  ownSockets : ∀ first second, ∀ request ∈ programs first, ∀ other ∈ programs second,
    request.sock = other.sock → first = second

/-- The task binds the socket. -/
def Binds (programs : TaskId → List BindRequest) (task : TaskId) (sock : LorawanSock) : Prop :=
  ∃ request ∈ programs task, request.sock = sock

/-- Each record is what its own task has made of it. -/
structure Kept (start : State) (programs : TaskId → List BindRequest)
    (state : Tasks TaskId State BindTask) : Prop where
  frame : { state.shared with lSockList := start.lSockList } = start
  length : state.shared.lSockList.length = start.lSockList.length
  bound : ∀ (place : Nat) el task, start.lSockList[place]? = some el → Binds programs task el.sock →
    state.shared.lSockList[place]? = some ((state.own task).written el)
  unbound : ∀ (place : Nat) el, start.lSockList[place]? = some el →
    (∀ task, ¬Binds programs task el.sock) → state.shared.lSockList[place]? = some el
  follows : ∀ task, (state.own task).Follows start (programs task)
  knows : ∀ task request rest, (state.own task).requests = request :: rest →
    Knows start state.shared (state.own task) request (state.own task).point

/-- The records have different identifiers. -/
theorem State.Owned.place_unique {start : State} (owned : start.Owned) {first second : Nat}
    {left right : SockEl} (foundLeft : start.lSockList[first]? = some left)
    (foundRight : start.lSockList[second]? = some right) (sameSock : left.sock = right.sock) :
    first = second := by
  have same : left = right :=
    owned.eq_of_sock_eq (List.mem_of_getElem? foundLeft) (List.mem_of_getElem? foundRight) sameSock
  exact owned.wellFormed.place_unique foundLeft foundRight (congrArg SockEl.block same)

/-- No other record is of the socket that is bound. -/
theorem OwnPlace.unique {start : State} {request : BindRequest} {own otherPlace : Nat}
    {el other : SockEl} (place : OwnPlace start request own el) (owned : start.Owned)
    (found : start.lSockList[otherPlace]? = some other) (sameSock : other.sock = request.sock) :
    otherPlace = own ∧ other = el := by
  obtain rfl := owned.place_unique place.1 found (place.2.trans sameSock.symm)
  exact ⟨rfl, Option.some.inj (found.symm.trans place.1)⟩

namespace Kept

variable {start : State} {programs : TaskId → List BindRequest}
  {state : Tasks TaskId State BindTask}

theorem initial (start : State) (programs : TaskId → List BindRequest) :
    Kept start programs (preemptedFrom start programs) where
  frame := rfl
  length := rfl
  bound := by
    intro place el task found _
    rw [BindTask.written_of_unpinned rfl]
    exact found
  unbound := fun _ _ found _ => found
  follows := fun task => ⟨rfl, fun _ member => by cases member⟩
  knows := fun _ _ _ _ => trivial

/-- What any record may have become. -/
theorem exists_grown (kept : Kept start programs state) (owned : start.Owned)
    (preemptible : Preemptible programs) {place : Nat} {el : SockEl}
    (found : start.lSockList[place]? = some el) :
    ∃ now program answered, state.shared.lSockList[place]? = some now ∧
      Grown program answered el now ∧
      ∀ request ∈ answered, ∃ task, request ∈ (state.own task).answered.map Prod.fst := by
  have member := List.mem_of_getElem? found
  by_cases binder : ∃ task, Binds programs task el.sock
  · rcases binder with ⟨task, binds⟩
    exact ⟨_, _, _, kept.bound place el task found binds,
      (kept.follows task).written_grown owned (preemptible.oneAddress task) member
        (preemptible.named task),
      fun request listed => ⟨task, listed⟩⟩
  · exact ⟨el, [], [], kept.unbound place el found (not_exists.mp binder), .refl [] el,
      fun request listed => by cases listed⟩

/-- A couple that is still asked for has not been granted since the start. -/
theorem couple_of_now (kept : Kept start programs state) (owned : start.Owned)
    (preemptible : Preemptible programs) {task : TaskId} {request : BindRequest}
    {rest : List BindRequest} (current : (state.own task).requests = request :: rest)
    {place : Nat} {el now : SockEl} (found : start.lSockList[place]? = some el)
    (foundNow : state.shared.lSockList[place]? = some now)
    (address : now.devAddr = request.devAddr) (port : now.ports.contains request.port = true) :
    el.devAddr = request.devAddr ∧ el.ports.contains request.port = true := by
  have member := List.mem_of_getElem? found
  rcases kept.exists_grown owned preemptible found with
    ⟨same, program, answered, foundSame, grown, granted⟩
  obtain rfl : same = now := Option.some.inj (foundSame.symm.trans foundNow)
  rcases grown.granted request.port port with before | ⟨other, otherMem, _, samePort, sameAddr⟩
  · have nonzero : el.devAddr ≠ 0#32 := by
      intro zero
      have none := (owned.proper_of_mem member).1 zero request.port
      exact absurd before (by simpa [SockEl.binding] using none)
    exact ⟨(grown.pinned nonzero).symm.trans address, before⟩
  · exfalso
    rcases granted other otherMem with ⟨holder, listed⟩
    have programHolder := (kept.follows holder).program
    have programTask := (kept.follows task).program
    rw [current] at programTask
    have couple : (other.devAddr, other.port) = (request.devAddr, request.port) := by
      rw [sameAddr, address, samePort]
    have sameTask : holder = task := by
      apply preemptible.ownCouples holder task other _ request _ couple
      · rw [programHolder]
        exact List.mem_append_left _ listed
      · rw [programTask]
        simp
    subst sameTask
    have distinct := preemptible.distinct holder
    rw [programTask, List.map_append, List.nodup_append] at distinct
    exact distinct.2.2 _ (List.mem_map_of_mem listed) _ (List.mem_map_of_mem List.mem_cons_self)
      couple

/-- A couple that was held at the start is held. -/
theorem now_of_couple (kept : Kept start programs state) (owned : start.Owned)
    (preemptible : Preemptible programs) {place : Nat} {el now : SockEl}
    (found : start.lSockList[place]? = some el)
    (foundNow : state.shared.lSockList[place]? = some now) {devAddr : DevAddr} {port : Port}
    (nonzero : devAddr ≠ 0#32) (address : el.devAddr = devAddr)
    (holds : el.ports.contains port = true) :
    now.devAddr = devAddr ∧ now.ports.contains port = true := by
  rcases kept.exists_grown owned preemptible found with ⟨same, _, _, foundSame, grown, _⟩
  obtain rfl : same = now := Option.some.inj (foundSame.symm.trans foundNow)
  subst address
  exact ⟨grown.pinned nonzero, grown.kept port holds⟩

theorem knows_at (kept : Kept start programs state) {task : TaskId} {request : BindRequest}
    {rest : List BindRequest} (current : (state.own task).requests = request :: rest)
    {reached : BindPoint} (point : (state.own task).point = reached) :
    Knows start state.shared (state.own task) request reached :=
  point ▸ kept.knows task request rest current

/-- The record of the socket that is bound is what the task has made of it. -/
theorem own_record (kept : Kept start programs state) {task : TaskId} {request : BindRequest}
    {rest : List BindRequest} (current : (state.own task).requests = request :: rest) {own : Nat}
    {el : SockEl} (place : OwnPlace start request own el) :
    state.shared.lSockList[own]? = some ((state.own task).written el) :=
  kept.bound own el task place.1
    ⟨request, (kept.follows task).current_mem current, place.2.symm⟩

/-- A refused port leaves the socket as the check of its address did. -/
theorem effect_used (kept : Kept start programs state) (preemptible : Preemptible programs)
    (owned : start.Owned) {task : TaskId} {request : BindRequest} {rest : List BindRequest}
    (current : (state.own task).requests = request :: rest) {own otherPlace : Nat}
    {el other : SockEl} (pinned : (state.own task).point.pinned = true)
    (place : OwnPlace start request own el)
    (accepts : el.devAddr = 0#32 ∨ el.devAddr = request.devAddr)
    (found : start.lSockList[otherPlace]? = some other) :
    request.effect .portAlreadyUsed ((state.own task).settled other) =
      (state.own task).written other := by
  have follows := kept.follows task
  have oneAddress := preemptible.oneAddress task
  have grown := follows.grown owned oneAddress (List.mem_of_getElem? found)
  by_cases apart : other.sock = request.sock
  · obtain ⟨rfl, rfl⟩ := place.unique owned found apart
    rw [follows.written_own owned oneAddress (List.mem_of_getElem? found) current pinned apart
      accepts]
    exact if_pos (grown.sock.trans apart)
  · rw [BindTask.written_of_ne current apart]
    exact BindRequest.effect_of_ne (by rwa [grown.sock]) _

theorem exists_start (kept : Kept start programs state) {place : Nat} {now : SockEl}
    (foundNow : state.shared.lSockList[place]? = some now) :
    ∃ el, start.lSockList[place]? = some el := by
  have inside : place < state.shared.lSockList.length :=
    (List.getElem?_eq_some_iff.mp foundNow).1
  rw [kept.length] at inside
  exact ⟨_, List.getElem?_eq_getElem inside⟩

end Kept

theorem Knows.later {start shared later : State} {task : BindTask} {request : BindRequest}
    {point : BindPoint} (knows : Knows start shared task request point)
    (named : request.devAddr ≠ 0#32)
    (addresses : ∀ (place : Nat) now, shared.lSockList[place]? = some now →
      now.devAddr ≠ 0#32 →
      ∃ next, later.lSockList[place]? = some next ∧ next.devAddr = now.devAddr) :
    Knows start later task request point := by
  cases point with
  | searchPorts own place =>
      rcases knows with ⟨searching, free, now, found, address⟩
      rcases addresses place now found (address ▸ named) with ⟨next, foundNext, same⟩
      exact ⟨searching, free, next, foundNext, same.trans address⟩
  | findEl => exact knows
  | readDevAddr own => exact knows
  | writeDevAddr own => exact knows
  | compareDevAddr own => exact knows
  | searchDevAddr own place => exact knows
  | readPorts own => exact knows
  | writePorts own word => exact knows

namespace Kept

variable {start : State} {programs : TaskId → List BindRequest}
  {state : Tasks TaskId State BindTask} [DecidableEq TaskId]

/-- A turn of one task, which keeps what the others have written and know. -/
theorem turn (kept : Kept start programs state) (preemptible : Preemptible programs)
    {task : TaskId} {shared : State} {own : BindTask}
    (frame : { shared with lSockList := start.lSockList } = start)
    (length : shared.lSockList.length = start.lSockList.length)
    (bound : ∀ (place : Nat) el, start.lSockList[place]? = some el →
      Binds programs task el.sock → shared.lSockList[place]? = some (own.written el))
    (others : ∀ (place : Nat) el, start.lSockList[place]? = some el →
      ¬Binds programs task el.sock →
      shared.lSockList[place]? = state.shared.lSockList[place]?)
    (addresses : ∀ (place : Nat) now, state.shared.lSockList[place]? = some now →
      now.devAddr ≠ 0#32 →
      ∃ next, shared.lSockList[place]? = some next ∧ next.devAddr = now.devAddr)
    (follows : own.Follows start (programs task))
    (knows : ∀ request rest, own.requests = request :: rest →
      Knows start shared own request own.point) :
    Kept start programs { shared, own := Function.update state.own task own } where
  frame := frame
  length := length
  bound := by
    intro place el other found binds
    by_cases same : other = task
    · subst same
      simpa using bound place el found binds
    · have notOwn : ¬Binds programs task el.sock := by
        rintro ⟨request, listed, sameSock⟩
        rcases binds with ⟨otherRequest, otherListed, otherSock⟩
        exact same (preemptible.ownSockets other task otherRequest otherListed request listed
          (otherSock.trans sameSock.symm))
      dsimp only
      rw [others place el found notOwn, Function.update_of_ne same]
      exact kept.bound place el other found binds
  unbound := by
    intro place el found nobody
    exact (others place el found (nobody task)).trans (kept.unbound place el found nobody)
  follows := by
    intro other
    by_cases same : other = task
    · subst same
      simpa using follows
    · dsimp only
      rw [Function.update_of_ne same]
      exact kept.follows other
  knows := by
    intro other request rest current
    by_cases same : other = task
    · subst same
      dsimp only at current ⊢
      rw [Function.update_self] at current ⊢
      exact knows request rest current
    · dsimp only at current ⊢
      rw [Function.update_of_ne same] at current ⊢
      have named := preemptible.named other request ((kept.follows other).current_mem current)
      exact (kept.knows other request rest current).later named addresses

/-- A turn that only reads. -/
theorem read (kept : Kept start programs state) (preemptible : Preemptible programs)
    {task : TaskId} {own : BindTask}
    (same : ∀ (place : Nat) el, start.lSockList[place]? = some el →
      own.written el = (state.own task).written el)
    (follows : own.Follows start (programs task))
    (knows : ∀ request rest, own.requests = request :: rest →
      Knows start state.shared own request own.point) :
    Kept start programs { shared := state.shared, own := Function.update state.own task own } := by
  apply kept.turn preemptible kept.frame kept.length _ (fun _ _ _ _ => rfl)
    (fun _ now found _ => ⟨now, found, rfl⟩) follows knows
  intro place el found binds
  rw [same place el found]
  exact kept.bound place el task found binds

/-- A task that goes on to its next point. -/
theorem goTo (kept : Kept start programs state) (preemptible : Preemptible programs)
    {task : TaskId} {point : BindPoint} {request : BindRequest} {rest : List BindRequest}
    (current : (state.own task).requests = request :: rest)
    (same : ∀ (place : Nat) el, start.lSockList[place]? = some el →
      ((state.own task).goTo point).written el = (state.own task).written el)
    (knows : Knows start state.shared (state.own task) request point) :
    Kept start programs
      { shared := state.shared
        own := Function.update state.own task ((state.own task).goTo point) } := by
  apply kept.read preemptible same ((kept.follows task).goTo point)
  intro other otherRest currentNext
  have sameRequest : request = other := by
    have same := current.symm.trans currentNext
    exact (List.cons.inj same).1
  subst sameRequest
  exact knows

/-- A task that goes on without having set an address. -/
theorem goOn (kept : Kept start programs state) (preemptible : Preemptible programs)
    {task : TaskId} {point : BindPoint} {request : BindRequest} {rest : List BindRequest}
    (current : (state.own task).requests = request :: rest)
    (samePinned : point.pinned = (state.own task).point.pinned)
    (knows : Knows start state.shared (state.own task) request point) :
    Kept start programs
      { shared := state.shared
        own := Function.update state.own task ((state.own task).goTo point) } :=
  kept.goTo preemptible current
    (fun _ el _ => BindTask.written_goTo samePinned el) knows

/-- A task that returns without having written since it set the address. -/
theorem returns (kept : Kept start programs state) (preemptible : Preemptible programs)
    {task : TaskId} {status : LorawanStatus} {request : BindRequest} {rest : List BindRequest}
    (current : (state.own task).requests = request :: rest)
    (same : ∀ (place : Nat) el, start.lSockList[place]? = some el →
      request.effect status ((state.own task).settled el) = (state.own task).written el)
    (answers : request.answer start.registry = status) :
    Kept start programs
      { shared := state.shared
        own := Function.update state.own task ((state.own task).returns status) } := by
  apply kept.read preemptible _ ((kept.follows task).returns current answers)
  · intro next nextRest _
    rw [BindTask.returns_eq current]
    trivial
  · intro place el found
    rw [BindTask.written_returns current]
    exact same place el found

/-- A task that writes to the record of the socket that is bound. -/
theorem write (kept : Kept start programs state) (preemptible : Preemptible programs)
    (owned : start.Owned) {task : TaskId} {request : BindRequest} {rest : List BindRequest}
    (current : (state.own task).requests = request :: rest) {own : Nat} {el : SockEl}
    (place : OwnPlace start request own el) {update : SockEl → SockEl} {next : BindTask}
    (record : update ((state.own task).written el) = next.written el)
    (others : ∀ (otherPlace : Nat) other, start.lSockList[otherPlace]? = some other →
      other.sock ≠ request.sock → (state.own task).written other = next.written other)
    (address : ((state.own task).written el).devAddr ≠ 0#32 →
      (update ((state.own task).written el)).devAddr = ((state.own task).written el).devAddr)
    (follows : next.Follows start (programs task))
    (knows : ∀ request rest, next.requests = request :: rest →
      Knows start (state.shared.write own update) next request next.point) :
    Kept start programs
      { shared := state.shared.write own update
        own := Function.update state.own task next } := by
  have before := kept.own_record current place
  apply kept.turn preemptible
  case frame => exact kept.frame
  case length => rw [State.length_write, kept.length]
  case bound =>
    intro otherPlace other found binds
    by_cases same : own = otherPlace
    · subst same
      obtain rfl := Option.some.inj (place.1.symm.trans found)
      rw [State.write_self, before, ← record]
      rfl
    · have different : other.sock ≠ request.sock := fun sameSock =>
        same (place.unique owned found sameSock).1.symm
      rw [State.write_of_ne _ same, kept.bound otherPlace other task found binds,
        others otherPlace other found different]
  case others =>
    intro otherPlace other found unbound
    apply State.write_of_ne
    intro same
    subst same
    obtain rfl := Option.some.inj (place.1.symm.trans found)
    exact unbound ⟨request, (kept.follows task).current_mem current, place.2.symm⟩
  case addresses =>
    intro otherPlace now found nonzero
    by_cases same : own = otherPlace
    · subst same
      obtain rfl := Option.some.inj (before.symm.trans found)
      refine ⟨update ((state.own task).written el), ?_, address nonzero⟩
      rw [State.write_self, before]
      rfl
    · exact ⟨now, by rw [State.write_of_ne _ same, found], rfl⟩
  case follows => exact follows
  case knows => exact knows

/-! ### The points one by one -/

section Points

variable (kept : Kept start programs state) (preemptible : Preemptible programs)
  (owned : start.Owned) {task : TaskId} {request : BindRequest} {rest : List BindRequest}
  (current : (state.own task).requests = request :: rest)

include kept preemptible owned current

theorem findEl (point : (state.own task).point = .findEl) :
    Kept start programs ((preemptedBinds TaskId).next state task) := by
  have unpinned : (state.own task).point.pinned = false := by rw [point]; rfl
  rw [preemptedBinds, Tasks.next_eq]
  simp only [bindAccess, current, point]
  cases search : state.shared.lSockList.findIdx? fun el => el.sock == request.sock with
  | none =>
      have absent := List.findIdx?_eq_none_iff.mp search
      apply kept.returns preemptible current
      · intro place el _
        rw [BindTask.written_of_unpinned unpinned]
        unfold BindRequest.effect
        split <;> rfl
      · apply answer_unknown
        intro el member same
        rcases List.getElem?_of_mem member with ⟨place, found⟩
        rcases kept.exists_grown owned preemptible found with ⟨now, _, _, foundNow, grown, _⟩
        have different := absent now (List.mem_of_getElem? foundNow)
        simp [grown.sock, same] at different
  | some own =>
      rcases List.findIdx?_eq_some_iff_getElem.mp search with ⟨inside, sameSock, _⟩
      have foundNow := List.getElem?_eq_getElem inside
      rcases kept.exists_start foundNow with ⟨el, found⟩
      rcases kept.exists_grown owned preemptible found with ⟨now, _, _, foundSame, grown, _⟩
      obtain rfl := Option.some.inj (foundSame.symm.trans foundNow)
      apply kept.goOn preemptible current (by rw [unpinned]; rfl)
      exact ⟨el, found, grown.sock.symm.trans (by simpa using sameSock)⟩

theorem readDevAddr {own : Nat} (point : (state.own task).point = .readDevAddr own) :
    Kept start programs ((preemptedBinds TaskId).next state task) := by
  have unpinned : (state.own task).point.pinned = false := by rw [point]; rfl
  rcases kept.knows_at current point with ⟨el, place⟩
  have record := kept.own_record current place
  rw [BindTask.written_of_unpinned unpinned] at record
  rw [preemptedBinds, Tasks.next_eq]
  simp only [bindAccess, current, point, record]
  split
  next unset =>
    apply kept.goOn preemptible current (by rw [unpinned]; rfl)
    exact ⟨el, place, unset⟩
  next set =>
    apply kept.goTo preemptible current
    · intro otherPlace other found
      rw [BindTask.written_of_unpinned unpinned]
      by_cases apart : other.sock = request.sock
      · obtain ⟨rfl, rfl⟩ := place.unique owned found apart
        unfold BindTask.written
        rw [show ((state.own task).goTo (.compareDevAddr otherPlace)).requests = request :: rest
          from current]
        exact if_neg fun sets => set sets.2.2
      · exact BindTask.written_of_ne current apart
    · exact ⟨el, place⟩

theorem writeDevAddr {own : Nat} (point : (state.own task).point = .writeDevAddr own) :
    Kept start programs ((preemptedBinds TaskId).next state task) := by
  have unpinned : (state.own task).point.pinned = false := by rw [point]; rfl
  rcases kept.knows_at current point with ⟨el, place, unset⟩
  rw [preemptedBinds, Tasks.next_eq]
  simp only [bindAccess, current, point]
  have current' : ((state.own task).goTo (.compareDevAddr own)).requests = request :: rest :=
    current
  apply kept.write preemptible owned current place
  case record =>
    rw [BindTask.written_of_unpinned unpinned]
    unfold BindTask.written
    rw [current']
    exact (if_pos ⟨rfl, place.2, unset⟩).symm
  case others =>
    intro otherPlace other _ apart
    rw [BindTask.written_of_ne current apart, BindTask.written_of_ne current' apart]
    rfl
  case address =>
    intro nonzero
    rw [BindTask.written_of_unpinned unpinned] at nonzero
    exact absurd unset nonzero
  case follows => exact (kept.follows task).goTo _
  case knows =>
    intro next nextRest currentNext
    have sameRequest := (List.cons.inj (current.symm.trans currentNext)).1
    subst sameRequest
    exact ⟨el, place⟩

theorem compareDevAddr {own : Nat} (point : (state.own task).point = .compareDevAddr own) :
    Kept start programs ((preemptedBinds TaskId).next state task) := by
  have pinned : (state.own task).point.pinned = true := by rw [point]; rfl
  rcases kept.knows_at current point with ⟨el, place⟩
  have member := List.mem_of_getElem? place.1
  have follows := kept.follows task
  have oneAddress := preemptible.oneAddress task
  have record := kept.own_record current place
  have address : ((state.own task).written el).devAddr = request.devAddr ↔
      (el.devAddr = 0#32 ∨ el.devAddr = request.devAddr) := by
    constructor
    · intro same
      by_contra refused
      rw [not_or] at refused
      have grown := follows.written_grown owned oneAddress member (preemptible.named task)
      exact refused.2 ((grown.pinned refused.1).symm.trans same)
    · intro accepts
      rw [follows.written_own owned oneAddress member current pinned place.2 accepts]
  rw [preemptedBinds, Tasks.next_eq]
  simp only [bindAccess, current, point, record]
  split
  next refused =>
    have refusedBefore := (not_congr address).mp refused
    apply kept.returns preemptible current
    · intro otherPlace other found
      have unwritten : (state.own task).written other = (state.own task).settled other := by
        by_cases apart : other.sock = request.sock
        · obtain ⟨rfl, rfl⟩ := place.unique owned found apart
          unfold BindTask.written
          rw [current]
          apply if_neg
          intro sets
          have grown := follows.grown owned oneAddress member
          rw [not_or] at refusedBefore
          exact refusedBefore.1 ((grown.pinned refusedBefore.1).symm.trans sets.2.2)
        · exact BindTask.written_of_ne current apart
      rw [unwritten]
      unfold BindRequest.effect
      split <;> rfl
    · exact answer_refused owned request member place.2 refusedBefore
  next accepted =>
    have accepts := address.mp (not_not.mp accepted)
    split
    next portZero =>
      apply kept.returns preemptible current
      · intro otherPlace other found
        exact kept.effect_used preemptible owned current pinned place accepts found
      · rcases answer_accepted owned request member place.2 accepts with ⟨granted, _⟩ | ⟨_, used⟩
        · exact absurd portZero granted.1
        · exact used
    next portSet =>
      apply kept.goOn preemptible current (by rw [pinned]; rfl)
      refine ⟨⟨el, place, accepts, portSet⟩, ?_⟩
      intro earlier below
      exact absurd below (Nat.not_lt_zero earlier)

theorem searchDevAddr {own place : Nat}
    (point : (state.own task).point = .searchDevAddr own place) :
    Kept start programs ((preemptedBinds TaskId).next state task) := by
  have pinned : (state.own task).point.pinned = true := by rw [point]; rfl
  have named := preemptible.named task request ((kept.follows task).current_mem current)
  rcases kept.knows_at current point with ⟨searching, free⟩
  rw [preemptedBinds, Tasks.next_eq]
  simp only [bindAccess, current, point]
  cases found : state.shared.lSockList[place]? with
  | none =>
      dsimp only
      apply kept.goOn preemptible current (by rw [pinned]; rfl)
      have beyond : start.lSockList.length ≤ place := by
        rw [← kept.length]
        exact List.getElem?_eq_none_iff.mp found
      exact ⟨searching, fun earlier below => free earlier (Nat.lt_of_lt_of_le below beyond)⟩
  | some now =>
      dsimp only
      split
      next same =>
        apply kept.goOn preemptible current (by rw [pinned]; rfl)
        exact ⟨searching, free, now, found, same⟩
      next different =>
        apply kept.goOn preemptible current (by rw [pinned]; rfl)
        refine ⟨searching, ?_⟩
        intro earlier below el foundEl holds
        rcases Nat.lt_succ_iff_lt_or_eq.mp below with before | rfl
        · exact free earlier before el foundEl holds
        · exact different
            (kept.now_of_couple owned preemptible foundEl found named holds.1 holds.2).1

theorem searchPorts {own place : Nat}
    (point : (state.own task).point = .searchPorts own place) :
    Kept start programs ((preemptedBinds TaskId).next state task) := by
  have pinned : (state.own task).point.pinned = true := by rw [point]; rfl
  have named := preemptible.named task request ((kept.follows task).current_mem current)
  rcases kept.knows_at current point with ⟨searching, free, now, found, address⟩
  rcases kept.exists_start found with ⟨el, foundEl⟩
  have member := List.mem_of_getElem? foundEl
  rw [preemptedBinds, Tasks.next_eq]
  simp only [bindAccess, current, point, found]
  split
  next holds =>
    have couple := kept.couple_of_now owned preemptible current foundEl found address holds
    have nonzero : now.sock ≠ 0#32 := by
      rcases kept.exists_grown owned preemptible foundEl with ⟨same, _, _, foundSame, grown, _⟩
      obtain rfl := Option.some.inj (foundSame.symm.trans found)
      rw [grown.sock]
      exact owned.liveIds.1 el member
    rcases searching with ⟨ownEl, ownPlace, accepts, _⟩
    rw [if_pos nonzero]
    apply kept.returns preemptible current
    · intro otherPlace other foundOther
      exact kept.effect_used preemptible owned current pinned ownPlace accepts foundOther
    · rcases answer_accepted owned request (List.mem_of_getElem? ownPlace.1) ownPlace.2 accepts with
        ⟨granted, _⟩ | ⟨_, used⟩
      · exact absurd ⟨el, member, rfl, couple⟩ (granted.2 el.sock)
      · exact used
  next free' =>
    apply kept.goOn preemptible current (by rw [pinned]; rfl)
    refine ⟨searching, ?_⟩
    intro earlier below other foundOther holds
    rcases Nat.lt_succ_iff_lt_or_eq.mp below with before | rfl
    · exact free earlier before other foundOther holds
    · exact free'
        (kept.now_of_couple owned preemptible foundOther found named holds.1 holds.2).2

theorem readPorts {own : Nat} (point : (state.own task).point = .readPorts own) :
    Kept start programs ((preemptedBinds TaskId).next state task) := by
  have pinned : (state.own task).point.pinned = true := by rw [point]; rfl
  rcases kept.knows_at current point with ⟨searching, free⟩
  rcases searching with ⟨el, place, accepts, portSet⟩
  have record := kept.own_record current place
  have written := (kept.follows task).written_own owned (preemptible.oneAddress task)
    (List.mem_of_getElem? place.1) current pinned place.2 accepts
  rw [preemptedBinds, Tasks.next_eq]
  simp only [bindAccess, current, point, record]
  apply kept.goOn preemptible current (by rw [pinned]; rfl)
  refine ⟨⟨el, place, accepts, portSet⟩, free, ?_⟩
  intro other found
  obtain rfl := Option.some.inj (place.1.symm.trans found)
  rw [written]

theorem writePorts {own : Nat} {word : BitVec 32}
    (point : (state.own task).point = .writePorts own word) :
    Kept start programs ((preemptedBinds TaskId).next state task) := by
  have pinned : (state.own task).point.pinned = true := by rw [point]; rfl
  rcases kept.knows_at current point with ⟨⟨el, place, accepts, portSet⟩, free, word_eq⟩
  have member := List.mem_of_getElem? place.1
  have follows := kept.follows task
  have oneAddress := preemptible.oneAddress task
  have grown := follows.grown owned oneAddress member
  have written := follows.written_own owned oneAddress member current pinned place.2 accepts
  have ok : request.answer start.registry = .ok := by
    rcases answer_accepted owned request member place.2 accepts with ⟨_, granted⟩ | ⟨refused, _⟩
    · exact granted
    · exfalso
      apply refused
      refine ⟨portSet, ?_⟩
      rintro owner ⟨holder, holderMem, _, sameAddr, holds⟩
      rcases List.getElem?_of_mem holderMem with ⟨holderPlace, found⟩
      exact free holderPlace (List.getElem?_eq_some_iff.mp found).1 holder found ⟨sameAddr, holds⟩
  rw [preemptedBinds, Tasks.next_eq]
  simp only [bindAccess, current, point]
  apply kept.write preemptible owned current place
  case record =>
    rw [BindTask.written_returns current, written, word_eq el place.1]
    exact (if_pos (grown.sock.trans place.2)).symm
  case others =>
    intro otherPlace other found apart
    have sameSock := (follows.grown owned oneAddress (List.mem_of_getElem? found)).sock
    rw [BindTask.written_returns current, BindTask.written_of_ne current apart]
    exact (BindRequest.effect_of_ne (by rwa [sameSock]) _).symm
  case address => exact fun _ => rfl
  case follows => exact follows.returns current ok
  case knows =>
    intro next nextRest _
    rw [BindTask.returns_eq current]
    trivial

end Points

/-- Whichever task has its turn. -/
theorem next (kept : Kept start programs state) (preemptible : Preemptible programs)
    (owned : start.Owned) (task : TaskId) :
    Kept start programs ((preemptedBinds TaskId).next state task) := by
  cases current : (state.own task).requests with
  | nil =>
      have idle : (preemptedBinds TaskId).next state task = state := by
        rw [preemptedBinds, Tasks.next_eq]
        simp [bindAccess, current]
      rw [idle]
      exact kept
  | cons request rest =>
      cases point : (state.own task).point with
      | findEl => exact kept.findEl preemptible owned current point
      | readDevAddr own => exact kept.readDevAddr preemptible owned current point
      | writeDevAddr own => exact kept.writeDevAddr preemptible owned current point
      | compareDevAddr own => exact kept.compareDevAddr preemptible owned current point
      | searchDevAddr own place => exact kept.searchDevAddr preemptible owned current point
      | searchPorts own place => exact kept.searchPorts preemptible owned current point
      | readPorts own => exact kept.readPorts preemptible owned current point
      | writePorts own word => exact kept.writePorts preemptible owned current point

end Kept

end Lorawan.Sockets
