import Lorawan.Library.Interleaving
import Lorawan.Library.LinkedList
import Lorawan.Sockets.System

/-! # Creations that preempt one another

`lorawan_socket` takes no lock either. Between any two accesses of one task to `sock_cpt` and
`l_sock_list` other tasks that create sockets may make theirs. -/

namespace Lorawan.Sockets

open LinkedList

/-- A record with its link. -/
structure LinkedEl where
  el : SockEl
  scNext : Option Nat
  deriving DecidableEq

/-- What the tasks share. -/
structure SocketMemory where
  sockCpt : LorawanSock
  /-- `SLIST_FIRST(&l_sock_list)`. -/
  first : Option Nat
  records : Nat → Option LinkedEl
  /-- Blocks handed out so far. -/
  blocks : Nat

/-- The record that `lorawan_socket` clears and fills in. -/
def newSock (block : Nat) (sock : LorawanSock) : SockEl where
  block := block
  sock := sock
  mcpsReq := lorawanInitMcps
  mcpsInd := .zero
  devAddr := 0#32
  ports := Ports.empty
  sockEventq := []

/-- What a task accesses next in `lorawan_socket`. Until the last access nobody else has a
pointer to its record. -/
inductive SocketPoint
  | malloc
  /-- `sock_el->sock = sock_cpt` -/
  | readSock (block : Nat)
  /-- `sock_cpt++` reads the counter and writes it back. -/
  | readCpt (el : SockEl)
  | writeCpt (el : SockEl) (sockCpt : LorawanSock)
  /-- `SLIST_INSERT_HEAD` reads the first record into the link, and becomes the first. -/
  | readFirst (el : SockEl)
  | writeFirst (el : SockEl) (scNext : Option Nat)
  deriving DecidableEq

structure SocketTask where
  /-- The calls that have not begun: whether `malloc` succeeds. -/
  requests : List Bool
  point : SocketPoint
  /-- The records of the calls that have returned a socket, oldest first. -/
  created : List SockEl

/-- One access. Without memory the call returns 0. -/
def socketAccess (memory : SocketMemory) (task : SocketTask) : SocketMemory × SocketTask :=
  match task.point with
  | .malloc =>
      match task.requests with
      | [] => (memory, task)
      | true :: requests =>
          ({ memory with blocks := memory.blocks + 1 },
            { task with requests, point := .readSock memory.blocks })
      | false :: requests => (memory, { task with requests })
  | .readSock block => (memory, { task with point := .readCpt (newSock block memory.sockCpt) })
  | .readCpt el => (memory, { task with point := .writeCpt el memory.sockCpt })
  | .writeCpt el sockCpt =>
      ({ memory with sockCpt := sockCpt + 1#32 }, { task with point := .readFirst el })
  | .readFirst el => (memory, { task with point := .writeFirst el memory.first })
  | .writeFirst el scNext =>
      ({ memory with
          first := some el.block
          records := Function.update memory.records el.block (some { el, scNext }) },
        { task with point := .malloc, created := task.created ++ [el] })

def preemptedSockets (TaskId : Type) [DecidableEq TaskId] :
    Machine (Tasks TaskId SocketMemory SocketTask) TaskId Unit :=
  Tasks.interleaving socketAccess

/-! ## The records of a state, linked -/

def linked : List SockEl → Nat → Option LinkedEl
  | [] => fun _ => none
  | el :: rest =>
      Function.update (linked rest) el.block
        (some { el, scNext := rest.head?.map SockEl.block })

def State.memory (state : State) : SocketMemory where
  sockCpt := state.sockCpt
  first := state.lSockList.head?.map SockEl.block
  records := linked state.lSockList
  blocks := state.sockBlocks

/-- Each task is about to create the sockets of its program. -/
def creatingFrom {TaskId : Type} (start : State) (programs : TaskId → List Bool) :
    Tasks TaskId SocketMemory SocketTask where
  shared := start.memory
  own task := { requests := programs task, point := .malloc, created := [] }

theorem linked_chain {els : List SockEl} (nodup : (els.map SockEl.block).Nodup) :
    Chain (linked els) LinkedEl.scNext (els.head?.map SockEl.block) (els.map SockEl.block) := by
  induction els with
  | nil => exact .nil none
  | cons el rest induction =>
      rcases List.nodup_cons.mp nodup with ⟨fresh, restNodup⟩
      exact Chain.push (induction restNodup) fresh

/-- A task that is not disturbed makes its call as a whole. -/
theorem socket_alone (state : State) (requests : List Bool) (created : List SockEl) :
    Relation.ReflTransGen (Tasks.Alone socketAccess)
      (state.memory, { requests := true :: requests, point := .malloc, created })
      ((lorawanSocket state true).1.memory,
        { requests, point := .malloc,
          created := created ++ [newSock state.sockBlocks (lorawanSocket state true).2] }) :=
  -- One step for each access.
  .head rfl (.head rfl (.head rfl (.head rfl (.head rfl (.single rfl)))))

theorem preemptedSockets_undisturbed {TaskId : Type} [DecidableEq TaskId] (state : State)
    (own : TaskId → SocketTask) (task : TaskId) {requests : List Bool} {created : List SockEl}
    (ready : own task = { requests := true :: requests, point := .malloc, created }) :
    ∃ turns, (preemptedSockets TaskId).run { shared := state.memory, own }
        (List.replicate turns task) =
      { shared := (lorawanSocket state true).1.memory
        own := Function.update own task
          { requests, point := .malloc
            created := created ++
              [newSock state.sockBlocks (lorawanSocket state true).2] } } := by
  have steps := socket_alone state requests created
  rw [← ready] at steps
  exact Tasks.run_alone socketAccess { shared := state.memory, own } task steps

end Lorawan.Sockets
