import Lorawan.Interrupts.Api
import Lorawan.Timers.Api

/-! # The event queue of the LoRaWAN task

`queue-board.c` has one queue for everything that the LoRaWAN task does: the callouts of
`timer.c` expire into it, and the pin interrupts of `gpio-board.c` post into it.
`lorawan_eventq_thread` takes the events one by one. Here the functions of both files work
on that one queue. -/

namespace Lorawan.Board

open Timers (Callback CalloutEvent Fault TimerEvent TimerState)
open Interrupts (Gpio Hal Lines PinEvent Pins postToken)

/-- What an event in `os_eventq_lorawan` is for: the callout that contains it, or the pin
interrupt that allocated it. -/
inductive Event
  | callout (osTim : Nat)
  | pin (irqn : Fin 16)
  deriving DecidableEq, Repr

instance : CalloutEvent Event := ⟨.callout⟩

instance : PinEvent Event := ⟨.pin⟩

/-- The data of `timer.c`, with the queue, and those of `gpio-board.c`. -/
structure State (Handler : Type) (HalState : Type) extends
  TimerState Event, Lines Handler HalState

variable {Handler HalState : Type} (hal : Hal HalState)

def State.initial (objects : Nat → TimerEvent) : State Handler HalState where
  lTimList := []
  objects := objects
  callouts _ := .unused
  calloutBlocks := 0
  evq := []
  toLines := .initial hal

/-! ## Steps -/

inductive Call (Handler : Type)
  | timerInit (obj : Nat) (callback : Callback) (allocated : Bool)
  | timerStart (obj : Nat)
  | timerStop (obj : Nat)
  | timerSetValue (obj : Nat) (value : BitVec 32)
  | timerReset (obj : Nat)
  | gpioSetInterrupt (obj : Gpio) (irqMode : Nat) (irqHandler : Option Handler)
  | gpioRemoveInterrupt (obj : Gpio)
  /-- The clock advances. -/
  | tick
  /-- The OS finds that the time of the object's callout is up. -/
  | expire (obj : Nat)
  /-- The trigger condition of a pin is met. -/
  | fire (pin : Nat) (allocated : Bool)
  /-- `lorawan_eventq_thread` takes the oldest event and runs it. -/
  | dispatch
  deriving DecidableEq, Repr

inductive Reply (Handler : Type)
  | done
  | fault (fault : Fault)
  | posted (ev : Event)
  /-- The callback of a timer runs. -/
  | invoked (osTim : Nat) (owner : Option Nat) (callback : Callback)
  /-- The handler of a pin runs, if there is one. -/
  | dispatched (irqn : Fin 16) (handler : Option Handler)
  deriving DecidableEq, Repr

def expire (state : State Handler HalState) (obj : Nat) :
    State Handler HalState × Reply Handler :=
  ({ state with toTimerState := Timers.expire state.toTimerState obj },
    match state.due obj with
    | none => .done
    | some el => .posted (.callout el.osTim))

/-- Where the HAL hears the pin, an event is allocated, or an assertion of `post_token`
fails. -/
def fire (state : State Handler HalState) (pin : Nat) (allocated : Bool) :
    State Handler HalState × Reply Handler :=
  let lines := state.toLines.halCall hal (.edge pin)
  match hal.machine.reply state.hal (.edge pin) with
  | none => ({ state with toLines := lines }, .done)
  | some arg =>
      if allocated then
        ({ state with toLines := lines, evq := postToken state.evq arg }, .posted (.pin arg))
      else (state, .fault .assertFailed)

/-- The `wrapper` of `timer.c`, or that of `gpio-board.c`. -/
def wrapper (state : State Handler HalState) : Event → Reply Handler
  | .callout osTim => .invoked osTim (state.owner osTim) (state.callouts osTim).evArg
  | .pin irqn => .dispatched irqn (state.handlerWrapper irqn)

def lorawanEventqThread (state : State Handler HalState) :
    State Handler HalState × Reply Handler :=
  match state.evq with
  | [] => (state, .done)
  | ev :: rest => ({ state with evq := rest }, wrapper state ev)

/-- After a function of `timer.c`. -/
def answer (state : State Handler HalState) :
    Except Fault (TimerState Event) → State Handler HalState × Reply Handler
  | .ok next => ({ state with toTimerState := next }, .done)
  | .error fault => (state, .fault fault)

def board (pins : Pins) : Machine (State Handler HalState) (Call Handler) (Reply Handler) where
  step state
    | .timerInit obj callback allocated =>
        answer state (Timers.timerInit state.toTimerState obj callback allocated)
    | .timerStart obj => answer state (Timers.timerStart state.toTimerState obj)
    | .timerStop obj => answer state (Timers.timerStop state.toTimerState obj)
    | .timerSetValue obj value => answer state (Timers.timerSetValue state.toTimerState obj value)
    | .timerReset obj => answer state (Timers.timerReset state.toTimerState obj)
    | .gpioSetInterrupt obj irqMode irqHandler =>
        ({ state with toLines := state.toLines.gpioSetInterrupt hal pins obj irqMode irqHandler },
          .done)
    | .gpioRemoveInterrupt obj =>
        ({ state with toLines := state.toLines.gpioRemoveInterrupt hal pins obj }, .done)
    | .tick => ({ state with toTimerState := Timers.clockTick state.toTimerState }, .done)
    | .expire obj => expire state obj
    | .fire pin allocated => fire hal state pin allocated
    | .dispatch => lorawanEventqThread state

end Lorawan.Board
