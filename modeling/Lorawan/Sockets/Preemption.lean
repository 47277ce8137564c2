import Lorawan.Library.Interleaving
import Lorawan.Sockets.IndependentBinds

/-! # Binds that preempt one another

`lorawan_bind` takes no lock. Here several tasks call it at once, and between any two
accesses of one task to the records the others may make theirs. No socket is created or
closed meanwhile, so that the links and the identifiers stay as they are. -/

namespace Lorawan.Sockets

/-- What a task accesses next in `lorawan_bind`. A record is known by its place in the list;
`own` is that of the socket that is bound. -/
inductive BindPoint
  /-- `_lorawan_find_el(sock)` reads only what no task writes. -/
  | findEl
  /-- `if( sock_el->devAddr == 0)` -/
  | readDevAddr (own : Nat)
  /-- `sock_el->devAddr = devAddr` -/
  | writeDevAddr (own : Nat)
  /-- `if( sock_el->devAddr != devAddr)` -/
  | compareDevAddr (own : Nat)
  /-- In `lorawan_find_sock_by_params`, `if( i_list->devAddr == devAddr)`. -/
  | searchDevAddr (own place : Nat)
  /-- `if( ( i_list->ports[slot] & (1<<position) ) != 0 )` -/
  | searchPorts (own place : Nat)
  /-- `sock_el->ports[slot] |= (1<<position)` reads the word and writes it back. -/
  | readPorts (own : Nat)
  | writePorts (own : Nat) (word : BitVec 32)
  deriving DecidableEq, Repr

structure BindTask where
  /-- The calls that the task has not returned from, the current one first. -/
  requests : List BindRequest
  point : BindPoint
  /-- The calls that have returned, oldest first. -/
  answered : List (BindRequest × LorawanStatus)

namespace BindTask

def goTo (task : BindTask) (point : BindPoint) : BindTask :=
  { task with point }

def returns (task : BindTask) (status : LorawanStatus) : BindTask :=
  match task.requests with
  | [] => task
  | request :: requests =>
      { requests, point := .findEl, answered := task.answered ++ [(request, status)] }

end BindTask

def State.write (shared : State) (place : Nat) (update : SockEl → SockEl) : State :=
  { shared with lSockList := shared.lSockList.modify place update }

@[simp] theorem State.length_write (shared : State) (place : Nat) (update : SockEl → SockEl) :
    (shared.write place update).lSockList.length = shared.lSockList.length :=
  List.length_modify ..

theorem State.write_self (shared : State) (place : Nat) (update : SockEl → SockEl) :
    (shared.write place update).lSockList[place]? = (shared.lSockList[place]?).map update :=
  List.getElem?_modify_eq ..

theorem State.write_of_ne (shared : State) {place other : Nat} (different : place ≠ other)
    (update : SockEl → SockEl) :
    (shared.write place update).lSockList[other]? = shared.lSockList[other]? := by
  simp [State.write, different]

/-- The records are in different blocks. -/
theorem State.WellFormed.place_unique {shared : State} (wellFormed : shared.WellFormed)
    {first second : Nat} {left right : SockEl}
    (foundLeft : shared.lSockList[first]? = some left)
    (foundRight : shared.lSockList[second]? = some right) (sameBlock : left.block = right.block) :
    first = second := by
  have blocks : ∀ (place : Nat) el, shared.lSockList[place]? = some el →
      (shared.lSockList.map SockEl.block)[place]? = some el.block := by
    intro place el found
    rw [List.getElem?_map, found]
    rfl
  have atFirst := blocks first left foundLeft
  have inside : first < (shared.lSockList.map SockEl.block).length :=
    (List.getElem?_eq_some_iff.mp atFirst).1
  refine (List.getElem?_inj inside wellFormed.blocks_nodup).mp ?_
  rw [atFirst, blocks second right foundRight, sameBlock]

/-- One access, and what the task does until the next one. -/
def bindAccess (shared : State) (task : BindTask) : State × BindTask :=
  match task.requests with
  | [] => (shared, task)
  | request :: _ =>
      match task.point with
      | .findEl =>
          match shared.lSockList.findIdx? fun el => el.sock == request.sock with
          | none => (shared, task.returns .invalidSock)
          | some own => (shared, task.goTo (.readDevAddr own))
      | .readDevAddr own =>
          match shared.lSockList[own]? with
          | none => (shared, task)
          | some el =>
              if el.devAddr = 0#32 then (shared, task.goTo (.writeDevAddr own))
              else (shared, task.goTo (.compareDevAddr own))
      | .writeDevAddr own =>
          (shared.write own fun el => { el with devAddr := request.devAddr },
            task.goTo (.compareDevAddr own))
      | .compareDevAddr own =>
          match shared.lSockList[own]? with
          | none => (shared, task)
          | some el =>
              if el.devAddr ≠ request.devAddr then (shared, task.returns .error)
              else if request.port = 0#8 then (shared, task.returns .portAlreadyUsed)
              else (shared, task.goTo (.searchDevAddr own 0))
      | .searchDevAddr own place =>
          match shared.lSockList[place]? with
          | none => (shared, task.goTo (.readPorts own))
          | some el =>
              if el.devAddr = request.devAddr then (shared, task.goTo (.searchPorts own place))
              else (shared, task.goTo (.searchDevAddr own (place + 1)))
      | .searchPorts own place =>
          match shared.lSockList[place]? with
          | none => (shared, task)
          | some el =>
              if el.ports.contains request.port then
                if el.sock ≠ 0#32 then (shared, task.returns .portAlreadyUsed)
                else (shared, task.goTo (.readPorts own))
              else (shared, task.goTo (.searchDevAddr own (place + 1)))
      | .readPorts own =>
          match shared.lSockList[own]? with
          | none => (shared, task)
          | some el => (shared, task.goTo (.writePorts own (el.ports.word request.port)))
      | .writePorts own word =>
          (shared.write own fun el => { el with ports := el.ports.writeBack request.port word },
            task.returns .ok)

def preemptedBinds (TaskId : Type) [DecidableEq TaskId] :
    Machine (Tasks TaskId State BindTask) TaskId Unit :=
  Tasks.interleaving bindAccess

/-- Each task is about to make the calls of its program. -/
def preemptedFrom {TaskId : Type} (shared : State) (programs : TaskId → List BindRequest) :
    Tasks TaskId State BindTask where
  shared := shared
  own task := { requests := programs task, point := .findEl, answered := [] }

end Lorawan.Sockets
