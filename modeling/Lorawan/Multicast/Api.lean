import Lorawan.Library.Execution
import Lorawan.Library.LinkedList
import Lorawan.Mac

/-! # The multicast functions of `lorawan_api.c`

`lorawan_multicast_add` hands the MAC an entry to link into its list, and
`lorawan_multicast_remove` walks that list through the `Next` pointers. The MAC
itself is outside the repository: it is a parameter, with what the functions rely
on as its laws. -/

namespace Lorawan.Multicast

open LinkedList

/-- `MulticastParams_t`. -/
structure MulticastParams where
  address : DevAddr
  nwkSKey : Key
  appSKey : Key
  downLinkCounter : BitVec 32
  next : Option Nat
  deriving DecidableEq, Repr

/-- An entry without its link. -/
structure Entry where
  address : DevAddr
  nwkSKey : Key
  appSKey : Key
  downLinkCounter : BitVec 32
  deriving DecidableEq, Repr

def MulticastParams.entry (params : MulticastParams) : Entry where
  address := params.address
  nwkSKey := params.nwkSKey
  appSKey := params.appSKey
  downLinkCounter := params.downLinkCounter

def Entry.withCounter (change : BitVec 32 → BitVec 32) (entry : Entry) : Entry :=
  { entry with downLinkCounter := change entry.downLinkCounter }

/-- The memory of the entries, and the MAC's pointer to the first. -/
structure Pool where
  cells : Heap MulticastParams
  head : Option Nat
  deriving DecidableEq, Repr

namespace Pool

/-- The list consists of the entries at the pointers, in this order. -/
def Holds (pool : Pool) (pointers : List Nat) : Prop :=
  Chain pool.cells.read MulticastParams.next pool.head pointers

def entryAt (pool : Pool) (block : Nat) : Option Entry :=
  (pool.cells.read block).map MulticastParams.entry

def pointers (pool : Pool) : List Nat :=
  (walk pool.cells.read MulticastParams.next pool.cells.length pool.head).getD []

/-- What a reader of the list finds. -/
def entries (pool : Pool) : List Entry :=
  pool.pointers.filterMap pool.entryAt

end Pool

/-- What the MAC does when it accepts a request. `LoRaMacMulticastChannelLink`
appends the entry, `LoRaMacMulticastChannelUnlink` takes it out; a request that is
refused does nothing, and needs no field. -/
structure MulticastMac where
  link : Pool → Nat → Pool
  unlink : Pool → Nat → Pool
  /-- The counter with which an entry is linked, given the one that was asked for. -/
  linkedCounter : BitVec 32 → BitVec 32
  link_appends : ∀ (pool : Pool) (pointers : List Nat) (block : Nat)
    (params : MulticastParams), pool.Holds pointers → pool.cells.read block = some params →
    params.next = none → block ∉ pointers →
      (link pool block).Holds (pointers ++ [block]) ∧
        ∀ other, (link pool block).entryAt other =
          if other = block then some (params.entry.withCounter linkedCounter)
          else pool.entryAt other
  unlink_removes : ∀ (pool : Pool) (pointers : List Nat) (block : Nat), pool.Holds pointers →
    block ∈ pointers →
      (unlink pool block).Holds (pointers.erase block) ∧
        (∀ other, (unlink pool block).entryAt other = pool.entryAt other) ∧
        ∀ other, other ∉ pointers → (unlink pool block).cells.read other = pool.cells.read other

structure State where
  pool : Pool
  /-- Blocks given to `free`, oldest first. -/
  freed : List Nat
  deriving DecidableEq, Repr

namespace State

def initial : State where
  pool := { cells := [], head := none }
  freed := []

def alloc (state : State) (params : MulticastParams) : State :=
  { state with pool.cells := state.pool.cells.alloc params }

def free (state : State) (block : Nat) : State where
  pool := { state.pool with cells := state.pool.cells.free block }
  freed := state.freed ++ [block]

end State

/-- The result is `none` if the search loop does not end. The answers are those of
`LoRaMacMibGetRequestConfirm` and `LoRaMacMulticastChannelUnlink`. -/
def lorawanMulticastRemove (mac : MulticastMac) (state : State) (devAddr : DevAddr)
    (headAnswer unlinkAnswer : LoRaMacStatus) : Option (State × LorawanStatus) :=
  if headAnswer ≠ LoRaMacStatus.ok then some (state, .error)
  else
    match search state.pool.cells.read MulticastParams.next
        (fun params => params.address == devAddr) state.pool.cells.length state.pool.head with
    | none => none
    | some none => some (state, .error)
    | some (some mcastElCur) =>
        if unlinkAnswer ≠ LoRaMacStatus.ok then some (state, .error)
        else
          let state := { state with pool := mac.unlink state.pool mcastElCur }
          some (state.free mcastElCur, .ok)

def lorawanMulticastAdd (mac : MulticastMac) (state : State) (devAddr : DevAddr)
    (nwkSkey appSkey : Key) (downlinkCounter : BitVec 32) (allocated : Bool)
    (headAnswer unlinkAnswer linkAnswer : LoRaMacStatus) : Option (State × LorawanStatus) :=
  if allocated then
    let mcastParam := state.pool.cells.length
    let state := state.alloc
      { address := devAddr
        nwkSKey := nwkSkey
        appSKey := appSkey
        downLinkCounter := downlinkCounter
        next := none }
    match lorawanMulticastRemove mac state devAddr headAnswer unlinkAnswer with
    | none => none
    | some (state, _) =>
        if linkAnswer ≠ LoRaMacStatus.ok then some (state.free mcastParam, .error)
        else some ({ state with pool := mac.link state.pool mcastParam }, .ok)
  else some (state, .error)

/-- A call with the answers of its environment. -/
inductive Call
  | add (entry : Entry) (allocated : Bool) (headAnswer unlinkAnswer linkAnswer : LoRaMacStatus)
  | remove (devAddr : DevAddr) (headAnswer unlinkAnswer : LoRaMacStatus)
  deriving DecidableEq, Repr

def perform (mac : MulticastMac) (state : State) : Call → Option (State × LorawanStatus)
  | .add entry allocated headAnswer unlinkAnswer linkAnswer =>
      lorawanMulticastAdd mac state entry.address entry.nwkSKey entry.appSKey
        entry.downLinkCounter allocated headAnswer unlinkAnswer linkAnswer
  | .remove devAddr headAnswer unlinkAnswer =>
      lorawanMulticastRemove mac state devAddr headAnswer unlinkAnswer

/-- A call that never returns leaves its caller waiting in the state it began in. -/
def pools (mac : MulticastMac) : Machine State Call (Option LorawanStatus) where
  step state call :=
    match perform mac state call with
    | none => (state, none)
    | some (next, status) => (next, some status)

end Lorawan.Multicast
