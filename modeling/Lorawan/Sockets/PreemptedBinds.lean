import Lorawan.Sockets.Atomicity
import Mathlib.Data.Fin.VecNotation

/-! # Preempted binds are atomic

Binds that keep to their records return, and leave, what they would return and leave one
after the other. Each call needs a number of turns that depends only on the number of
sockets. -/

namespace Lorawan.Sockets

open scoped List

/-! ## How much is left to do -/

/-- The accesses of a call from this point on, at most. -/
def BindPoint.left (records : Nat) : BindPoint → Nat
  | .findEl => 2 * records + 7
  | .readDevAddr _ => 2 * records + 6
  | .writeDevAddr _ => 2 * records + 5
  | .compareDevAddr _ => 2 * records + 4
  | .searchDevAddr _ place => 2 * (records - place) + 3
  | .searchPorts _ place => 2 * (records - place) + 2
  | .readPorts _ => 2
  | .writePorts _ _ => 1

theorem BindPoint.left_pos (records : Nat) (point : BindPoint) : 0 < point.left records := by
  cases point <;> simp [BindPoint.left]

namespace BindTask

/-- The accesses that the task still makes, at most. -/
def left (records : Nat) (task : BindTask) : Nat :=
  match task.requests with
  | [] => 0
  | _ :: rest => task.point.left records + rest.length * (2 * records + 7)

variable {task : BindTask} {request : BindRequest} {rest : List BindRequest}

theorem left_eq (records : Nat) (current : task.requests = request :: rest) :
    task.left records = task.point.left records + rest.length * (2 * records + 7) := by
  unfold left
  rw [current]

/-- A task that is about to make its calls. -/
theorem left_of_findEl (records : Nat) (point : task.point = .findEl) :
    task.left records = task.requests.length * (2 * records + 7) := by
  unfold left
  cases task.requests with
  | nil => simp
  | cons request rest =>
      simp only [point, BindPoint.left, List.length_cons]
      exact (Nat.add_comm ..).trans (Nat.add_one_mul ..).symm

theorem left_goTo (records : Nat) (current : task.requests = request :: rest)
    (point : BindPoint) :
    (task.goTo point).left records = point.left records + rest.length * (2 * records + 7) := by
  have sameRequests : (task.goTo point).requests = request :: rest := current
  exact left_eq records sameRequests

/-- The next call starts from the beginning. -/
theorem left_returns (records : Nat) (current : task.requests = request :: rest)
    (status : LorawanStatus) :
    (task.returns status).left records = rest.length * (2 * records + 7) := by
  rw [returns_eq current, left_of_findEl records rfl]

theorem requests_of_left_eq_zero {records : Nat} (done : task.left records = 0) :
    task.requests = [] := by
  cases current : task.requests with
  | nil => rfl
  | cons request rest =>
      have positive := task.point.left_pos records
      rw [left_eq records current] at done
      omega

end BindTask

namespace Kept

variable {start : State} {programs : TaskId → List BindRequest}
  {state : Tasks TaskId State BindTask}

theorem exists_now (kept : Kept start programs state) {place : Nat} {el : SockEl}
    (found : start.lSockList[place]? = some el) :
    ∃ now, state.shared.lSockList[place]? = some now := by
  have inside : place < start.lSockList.length := (List.getElem?_eq_some_iff.mp found).1
  rw [← kept.length] at inside
  exact ⟨_, List.getElem?_eq_getElem inside⟩

/-- Each turn brings its task nearer to its end. -/
theorem left_bindAccess (kept : Kept start programs state) (task : TaskId) :
    (bindAccess state.shared (state.own task)).2.left start.lSockList.length ≤
      (state.own task).left start.lSockList.length - 1 := by
  cases current : (state.own task).requests with
  | nil => simp [bindAccess, BindTask.left, current]
  | cons request rest =>
      have positive := (state.own task).point.left_pos start.lSockList.length
      have returns : ∀ status,
          ((state.own task).returns status).left start.lSockList.length ≤
            (state.own task).left start.lSockList.length - 1 := by
        intro status
        rw [BindTask.left_returns _ current, BindTask.left_eq _ current]
        omega
      have goTo : ∀ point : BindPoint,
          point.left start.lSockList.length <
            (state.own task).point.left start.lSockList.length →
          ((state.own task).goTo point).left start.lSockList.length ≤
            (state.own task).left start.lSockList.length - 1 := by
        intro point nearer
        rw [BindTask.left_goTo _ current, BindTask.left_eq _ current]
        omega
      cases point : (state.own task).point with
      | findEl =>
          simp only [bindAccess, current, point]
          split
          · exact returns _
          · exact goTo _ (by simp [BindPoint.left, point])
      | readDevAddr own =>
          rcases kept.knows_at current point with ⟨el, place, _⟩
          rcases kept.exists_now place with ⟨now, found⟩
          simp only [bindAccess, current, point, found]
          split
          · exact goTo _ (by simp [BindPoint.left, point])
          · exact goTo _ (by simp [BindPoint.left, point])
      | writeDevAddr own =>
          simp only [bindAccess, current, point]
          exact goTo _ (by simp [BindPoint.left, point])
      | compareDevAddr own =>
          rcases kept.knows_at current point with ⟨el, place, _⟩
          rcases kept.exists_now place with ⟨now, found⟩
          simp only [bindAccess, current, point, found]
          split
          · exact returns _
          · split
            · exact returns _
            · exact goTo _ (by simp [BindPoint.left, point])
      | searchDevAddr own place =>
          simp only [bindAccess, current, point]
          cases found : state.shared.lSockList[place]? with
          | none => exact goTo _ (by simp [BindPoint.left, point])
          | some now =>
              have inside : place < start.lSockList.length := by
                rw [← kept.length]
                exact (List.getElem?_eq_some_iff.mp found).1
              dsimp only
              split
              · exact goTo _ (by simp [BindPoint.left, point])
              · exact goTo _ (by simp only [BindPoint.left, point]; omega)
      | searchPorts own place =>
          rcases kept.knows_at current point with ⟨_, _, now, found, _⟩
          have inside : place < start.lSockList.length := by
            rw [← kept.length]
            exact (List.getElem?_eq_some_iff.mp found).1
          simp only [bindAccess, current, point, found]
          split
          · split
            · exact returns _
            · exact goTo _ (by simp only [BindPoint.left, point]; omega)
          · exact goTo _ (by simp only [BindPoint.left, point]; omega)
      | readPorts own =>
          rcases kept.knows_at current point with ⟨⟨el, place, _⟩, _⟩
          rcases kept.exists_now place.1 with ⟨now, found⟩
          simp only [bindAccess, current, point, found]
          exact goTo _ (by simp [BindPoint.left, point])
      | writePorts own word =>
          simp only [bindAccess, current, point]
          exact returns _

variable [DecidableEq TaskId]

theorem run (owned : start.Owned) (preemptible : Preemptible programs) (schedule : List TaskId) :
    Kept start programs
      ((preemptedBinds TaskId).run (preemptedFrom start programs) schedule) :=
  (preemptedBinds TaskId).run_invariant (Kept start programs)
    (fun _ task kept => kept.next preemptible owned task) schedule _ (.initial start programs)

/-- A task that has had its turns has returned from all its calls. -/
theorem requests_of_turns (owned : start.Owned) (preemptible : Preemptible programs)
    (schedule : List TaskId) (task : TaskId)
    (turns : (programs task).length * (2 * start.lSockList.length + 7) ≤ schedule.count task) :
    (((preemptedBinds TaskId).run (preemptedFrom start programs) schedule).own task).requests =
      [] := by
  apply @BindTask.requests_of_left_eq_zero _ start.lSockList.length
  apply Tasks.done_of_turns bindAccess (Kept start programs)
    (BindTask.left start.lSockList.length) (fun _ turn kept => kept.next preemptible owned turn)
    (fun _ turn kept => kept.left_bindAccess turn) schedule _ (.initial start programs)
  rw [BindTask.left_of_findEl start.lSockList.length rfl]
  exact turns

end Kept

/-! ## The requests of all tasks -/

/-- Requests for other sockets do nothing to a record. -/
theorem foldl_effect_of_unbound (answer : BindRequest → LorawanStatus)
    (requests : List BindRequest) (el : SockEl)
    (unbound : ∀ request ∈ requests, request.sock ≠ el.sock) :
    requests.foldl (fun el request => request.effect (answer request) el) el = el := by
  induction requests with
  | nil => rfl
  | cons request requests induction =>
      have apart : el.sock ≠ request.sock := (unbound request List.mem_cons_self).symm
      rw [List.foldl_cons, BindRequest.effect_of_ne apart]
      exact induction fun other member => unbound other (List.mem_cons_of_mem request member)

theorem sock_foldl_effect (answer : BindRequest → LorawanStatus) (requests : List BindRequest)
    (el : SockEl) :
    (requests.foldl (fun el request => request.effect (answer request) el) el).sock =
      el.sock := by
  induction requests generalizing el with
  | nil => rfl
  | cons request requests induction =>
      rw [List.foldl_cons, induction, BindRequest.sock_effect]

section Programs

variable {count : Nat} {programs : Fin count → List BindRequest}

variable (independent : Independent ((List.finRange count).flatMap programs))
  (ownSockets : ∀ first second, ∀ request ∈ programs first, ∀ other ∈ programs second,
    request.sock = other.sock → first = second)

include independent

theorem Independent.preemptible (ownSockets : ∀ first second, ∀ request ∈ programs first,
    ∀ other ∈ programs second, request.sock = other.sock → first = second) :
    Preemptible programs where
  named task request listed := independent.named request (mem_gathered listed)
  oneAddress task first firstMem second secondMem :=
    independent.oneAddress first (mem_gathered firstMem) second
      (mem_gathered secondMem)
  distinct task := by
    have distinct := (independent.perm (gathered_perm programs task).symm).distinct
    rw [List.map_append] at distinct
    exact (List.nodup_append.mp distinct).1
  ownCouples first second request listed other otherListed couple := by
    by_contra different
    have distinct := (independent.perm (gathered_perm programs first).symm).distinct
    rw [List.map_append] at distinct
    have elsewhere : other ∈ ((List.finRange count).erase first).flatMap programs := by
      refine List.mem_flatMap.mpr ⟨second, ?_, otherListed⟩
      exact (List.mem_erase_of_ne (Ne.symm different)).mpr (List.mem_finRange second)
    exact (List.nodup_append.mp distinct).2.2 _ (List.mem_map_of_mem listed) _
      (List.mem_map_of_mem elsewhere) couple
  ownSockets := ownSockets

include ownSockets

/-- The task that binds a socket makes of it what all tasks make of it. -/
theorem foldl_effect_programs (answer : BindRequest → LorawanStatus) {task : Fin count}
    {el : SockEl} (binds : Binds programs task el.sock) :
    ((List.finRange count).flatMap programs).foldl
        (fun el request => request.effect (answer request) el) el =
      (programs task).foldl (fun el request => request.effect (answer request) el) el := by
  rw [← independent.foldl_effect_perm (gathered_perm programs task).symm answer el,
    List.foldl_append]
  apply foldl_effect_of_unbound
  intro other otherMem
  rw [sock_foldl_effect]
  intro sameSock
  rcases List.mem_flatMap.mp otherMem with ⟨second, secondMem, listed⟩
  rcases binds with ⟨request, requestMem, bindsSock⟩
  have same : second = task :=
    ownSockets second task other listed request requestMem (sameSock.trans bindsSock.symm)
  subst same
  exact (List.nodup_finRange count).not_mem_erase secondMem

end Programs

/-- The answers of a task that has returned from all its calls. -/
theorem BindTask.Follows.answered_eq {task : BindTask} {start : State}
    {program : List BindRequest} (follows : task.Follows start program)
    (done : task.requests = []) :
    task.answered = program.map fun request => (request, request.answer start.registry) := by
  have program := follows.program
  rw [done, List.append_nil] at program
  rw [program, List.map_map]
  refine (List.map_id _).symm.trans (List.map_congr_left ?_)
  intro answered member
  exact Prod.ext rfl (follows.status answered member)

/-- What all tasks together leave of the records. -/
theorem Kept.shared_eq {start : State} {count : Nat} {programs : Fin count → List BindRequest}
    {state : Tasks (Fin count) State BindTask} (kept : Kept start programs state)
    (independent : Independent ((List.finRange count).flatMap programs))
    (ownSockets : ∀ first second, ∀ request ∈ programs first, ∀ other ∈ programs second,
      request.sock = other.sock → first = second)
    (done : ∀ task, (state.own task).requests = []) :
    state.shared = { start with
      lSockList := start.lSockList.map fun el =>
        ((List.finRange count).flatMap programs).foldl
          (fun el request => request.effect (request.answer start.registry) el) el } := by
  have records : state.shared.lSockList = start.lSockList.map fun el =>
      ((List.finRange count).flatMap programs).foldl
        (fun el request => request.effect (request.answer start.registry) el) el := by
    apply List.ext_getElem?
    intro place
    rw [List.getElem?_map]
    cases found : start.lSockList[place]? with
    | none =>
        have beyond := List.getElem?_eq_none_iff.mp found
        rw [← kept.length] at beyond
        exact List.getElem?_eq_none beyond
    | some el =>
        by_cases binder : ∃ task, Binds programs task el.sock
        · rcases binder with ⟨task, binds⟩
          have follows := kept.follows task
          have settled : (state.own task).written el = (state.own task).settled el := by
            unfold BindTask.written
            rw [done task]
          rw [kept.bound place el task found binds, settled, BindTask.settled,
            follows.answered_eq (done task), List.foldl_map]
          exact congrArg some (foldl_effect_programs independent ownSockets
            (fun request => request.answer start.registry) binds).symm
        · rw [kept.unbound place el found (not_exists.mp binder)]
          refine congrArg some (foldl_effect_of_unbound _ _ el ?_).symm
          intro request listed sameSock
          rcases List.mem_flatMap.mp listed with ⟨task, _, taskListed⟩
          exact binder ⟨task, request, taskListed, sameSock⟩
  rw [← records]
  conv_rhs => rw [← kept.frame]

-- One couple for two sockets: a task that searches before the other has written gets it, too.
example :
    let start := (sockets 1000#32).run State.initial [.socket true, .socket true]
    let final := (preemptedBinds (Fin 2)).run
      (preemptedFrom start ![[⟨1#32, 7#32, 5#8⟩], [⟨2#32, 7#32, 5#8⟩]])
      (List.replicate 9 0 ++ List.replicate 11 1 ++ List.replicate 2 0)
    (final.own 0).answered.map Prod.snd = [.ok] ∧
      (final.own 1).answered.map Prod.snd = [.ok] := by
  decide

-- One socket for two tasks: the word that is written back loses the port of the other.
example :
    let start := (sockets 1000#32).run State.initial [.socket true]
    let final := (preemptedBinds (Fin 2)).run
      (preemptedFrom start ![[⟨1#32, 7#32, 5#8⟩], [⟨1#32, 7#32, 6#8⟩]])
      (List.replicate 8 0 ++ List.replicate 9 1 ++ List.replicate 1 0)
    (final.own 1).answered.map Prod.snd = [.ok] ∧
      lorawanFindSockByParams final.shared 7#32 6#8 = 0#32 := by
  decide

end Lorawan.Sockets
