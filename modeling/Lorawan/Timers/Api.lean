import Mathlib.Algebra.Group.Nat.Defs
import Mathlib.Data.List.Find
import Mathlib.Logic.Function.Basic
import Lorawan.Library.Execution
import Lorawan.Mac

/-! # The timer functions of `timer.c`

A timer object owns an OS callout, found through the list `l_tim_list`. Objects and
callouts are known by their addresses. Of the OS the model keeps what the functions
rely on: which callouts are armed, for how long, and which have their event queued.

A call ends with a fault where the source stops for good, and where it would use an
OS object in a way that the OS does not allow. -/

namespace Lorawan.Timers

/-- A function pointer of type `void (*)(void)`. -/
abbrev Callback := Nat

/-- `TimerEvent_t`. Its `Next` is not used. -/
structure TimerEvent where
  timestamp : BitVec 32
  reloadValue : BitVec 32
  isRunning : Bool
  callback : Callback
  deriving DecidableEq, Repr

/-- `struct tim_list`. -/
structure TimList where
  osTim : Nat
  obj : Nat
  deriving DecidableEq, Repr

/-- `struct os_callout`. -/
structure Callout where
  /-- `os_callout_init` has been applied. -/
  initialised : Bool
  evArg : Callback
  /-- The ticks left, while the OS has the callout in its list. -/
  armed : Option Nat
  deriving DecidableEq, Repr

/-- Memory from `malloc`, before `os_callout_init`. -/
def Callout.unused : Callout where
  initialised := false
  evArg := 0
  armed := none

/-- The events of a queue that may hold others too: the one that a callout contains. -/
class CalloutEvent (Event : Type) where
  ofCallout : Nat → Event

structure TimerState (Event : Type) where
  lTimList : List TimList
  objects : Nat → TimerEvent
  callouts : Nat → Callout
  /-- Callouts allocated so far. -/
  calloutBlocks : Nat
  /-- `os_eventq_lorawan`, oldest first. -/
  evq : List Event

variable {Event : Type}

inductive Fault
  /-- An assertion fails. -/
  | assertFailed
  /-- The `while(1)` of `TimerInit`. -/
  | hang
  /-- `os_callout_init` on a callout that is armed or whose event is queued. -/
  | initWhileLinked
  /-- `os_callout_stop` on a callout that was never initialised. -/
  | stopUninitialised
  deriving DecidableEq, Repr

/-! ## The OS -/

section Functions

variable [DecidableEq Event] [CalloutEvent Event]

def osCalloutInit (state : TimerState Event) (osTim : Nat) (evArg : Callback) :
    Except Fault (TimerState Event) :=
  if (state.callouts osTim).armed.isSome ∨ CalloutEvent.ofCallout osTim ∈ state.evq then
    .error .initWhileLinked
  else .ok
    { state with
      callouts :=
        Function.update state.callouts osTim { initialised := true, evArg, armed := none } }

/-- The ticks are an `int32_t`, and negative ones are refused. -/
def osCalloutReset (state : TimerState Event) (osTim : Nat) (ticks : BitVec 32) :
    TimerState Event :=
  if ticks.toNat < 2 ^ 31 then
    { state with
      callouts :=
        Function.update state.callouts osTim
          { state.callouts osTim with armed := some ticks.toNat } }
  else state

/-- The callout is disarmed, and its event taken from the queue. -/
def osCalloutStop (state : TimerState Event) (osTim : Nat) : Except Fault (TimerState Event) :=
  if (state.callouts osTim).initialised then .ok
    { state with
      callouts :=
        Function.update state.callouts osTim { state.callouts osTim with armed := none }
      evq := state.evq.filter (· ≠ CalloutEvent.ofCallout osTim) }
  else .error .stopUninitialised

/-! ## `timer.c` -/

def TimerState.setObject (state : TimerState Event) (obj : Nat) (event : TimerEvent) :
    TimerState Event :=
  { state with objects := Function.update state.objects obj event }

def findTimerEl (state : TimerState Event) (obj : Nat) : Except Fault TimList :=
  match state.lTimList.find? fun el => el.obj == obj with
  | none => .error .assertFailed
  | some el => .ok el

/-- The two `malloc` calls succeed, or an assertion fails. -/
def timerInit (state : TimerState Event) (obj : Nat) (callback : Callback) (allocated : Bool) :
    Except Fault (TimerState Event) :=
  if state.lTimList.any fun sc => sc.obj == obj then .error .hang
  else if allocated then .ok
    { state with
      lTimList := { osTim := state.calloutBlocks, obj } :: state.lTimList
      objects :=
        Function.update state.objects obj
          { timestamp := 0#32, reloadValue := 0#32, isRunning := false, callback }
      callouts := Function.update state.callouts state.calloutBlocks .unused
      calloutBlocks := state.calloutBlocks + 1 }
  else .error .assertFailed

def timerStop (state : TimerState Event) (obj : Nat) : Except Fault (TimerState Event) := do
  let el ← findTimerEl state obj
  if (state.objects obj).isRunning then
    let state ← osCalloutStop state el.osTim
    return state.setObject obj { state.objects obj with isRunning := false }
  else
    return state

/-- `if(obj->IsRunning == true) TimerStop(obj);` -/
def stopIfRunning (state : TimerState Event) (obj : Nat) : Except Fault (TimerState Event) :=
  if (state.objects obj).isRunning then timerStop state obj else .ok state

def timerStart (state : TimerState Event) (obj : Nat) : Except Fault (TimerState Event) := do
  let state ← stopIfRunning state obj
  let el ← findTimerEl state obj
  let state ← osCalloutInit state el.osTim (state.objects el.obj).callback
  let state := osCalloutReset state el.osTim (state.objects el.obj).reloadValue
  return state.setObject obj { state.objects obj with isRunning := true }

def timerSetValue (state : TimerState Event) (obj : Nat) (value : BitVec 32) :
    Except Fault (TimerState Event) := do
  let el ← findTimerEl state obj
  let state ← stopIfRunning state obj
  return state.setObject el.obj { state.objects el.obj with reloadValue := value }

def timerReset (state : TimerState Event) (obj : Nat) : Except Fault (TimerState Event) := do
  let state ← timerStop state obj
  timerStart state obj

/-- The object with this callout. -/
def TimerState.owner (state : TimerState Event) (osTim : Nat) : Option Nat :=
  (state.lTimList.find? fun el => el.osTim == osTim).map TimList.obj

/-! ## What the OS does by itself -/

def clockTick (state : TimerState Event) : TimerState Event :=
  { state with
    callouts := fun osTim =>
      { state.callouts osTim with armed := (state.callouts osTim).armed.map (· - 1) } }

/-- The callout of the object, if its time is up. -/
def TimerState.due (state : TimerState Event) (obj : Nat) : Option TimList :=
  match state.lTimList.find? fun el => el.obj == obj with
  | none => none
  | some el => if (state.callouts el.osTim).armed = some 0 then some el else none

/-- Expiry moves the event of the callout to the queue. -/
def expire (state : TimerState Event) (obj : Nat) : TimerState Event :=
  match state.due obj with
  | none => state
  | some el =>
      { state with
        callouts :=
          Function.update state.callouts el.osTim { state.callouts el.osTim with armed := none }
        evq := state.evq ++ [CalloutEvent.ofCallout el.osTim] }

end Functions

/-! ## Steps -/

/-- With a queue of their own, the timers have callouts for events. -/
abbrev State := TimerState Nat

/-- The objects hold anything before `TimerInit`. -/
def State.initial (objects : Nat → TimerEvent) : State where
  lTimList := []
  objects := objects
  callouts _ := .unused
  calloutBlocks := 0
  evq := []

instance : CalloutEvent Nat := ⟨id⟩

@[simp] theorem ofCallout_eq (osTim : Nat) : CalloutEvent.ofCallout osTim = osTim := rfl

/-- A call, or a step of the OS. A callback runs after the dispatch that invokes it;
the calls that it makes are the steps that follow. -/
inductive Call
  | init (obj : Nat) (callback : Callback) (allocated : Bool)
  | start (obj : Nat)
  | stop (obj : Nat)
  | setValue (obj : Nat) (value : BitVec 32)
  | reset (obj : Nat)
  /-- The clock advances. -/
  | tick
  /-- The OS finds that the time of the object's callout is up. -/
  | expire (obj : Nat)
  /-- The oldest event is taken from the queue and handled. -/
  | dispatch
  deriving DecidableEq, Repr

inductive Reply
  | done
  | fault (fault : Fault)
  /-- `wrapper` runs the callback of the callout's object. -/
  | invoked (owner : Option Nat) (callback : Callback)
  deriving DecidableEq, Repr

def dispatch (state : State) : State × Reply :=
  match state.evq with
  | [] => (state, .done)
  | osTim :: rest =>
      ({ state with evq := rest }, .invoked (state.owner osTim) (state.callouts osTim).evArg)

def answer (state : State) : Except Fault State → State × Reply
  | .ok next => (next, .done)
  | .error fault => (state, .fault fault)

def timers : Machine State Call Reply where
  step state
    | .init obj callback allocated => answer state (timerInit state obj callback allocated)
    | .start obj => answer state (timerStart state obj)
    | .stop obj => answer state (timerStop state obj)
    | .setValue obj value => answer state (timerSetValue state obj value)
    | .reset obj => answer state (timerReset state obj)
    | .tick => (clockTick state, .done)
    | .expire obj => (expire state obj, .done)
    | .dispatch => dispatch state

end Lorawan.Timers
