import Mathlib.Logic.Function.Basic
import Lorawan.Library.Execution

/-! # Pin interrupts of `gpio-board.c`

Registering a handler, an interrupt and its dispatch happen at three different times:
the interrupt only queues an event, and the table `GpioIrq` is read when the event
is dispatched.

The HAL comes with the board package. Which pins it hears is its own affair; the code
relies on the argument that it hands to `post_token`. -/

namespace Lorawan.Interrupts

/-- The interrupt line of a pin. -/
def irqn (pin : Nat) : Fin 16 :=
  ⟨pin &&& 0x0F, Nat.lt_succ_of_le Nat.and_le_right⟩

/-- The pin numbers that a board fixes. -/
structure Pins where
  nc : Nat
  ioe0 : Nat

/-- `Gpio_t`. -/
structure Gpio where
  pin : Nat
  pull : Nat
  deriving DecidableEq, Repr

/-! ## The HAL -/

/-- What happens to the HAL: the functions that the code calls, and the pins. -/
inductive HalCall
  /-- With `post_token` as the handler. -/
  | gpioIrqInit (pin : Nat) (arg : Fin 16) (trig pull : Nat)
  | gpioIrqEnable (pin : Nat)
  | gpioIrqDisable (pin : Nat)
  | gpioIrqRelease (pin : Nat)
  /-- The trigger condition of a pin is met. -/
  | edge (pin : Nat)
  deriving DecidableEq, Repr

/-- The argument that is registered for the pin. -/
def HalCall.argFor (pin : Nat) : HalCall → Option (Fin 16)
  | .gpioIrqInit other arg _ _ => if other = pin then some arg else none
  | _ => none

/-- A HAL. Its answer to an edge is the argument with which it calls `post_token`, if it
hears the pin. -/
structure Hal (HalState : Type v) where
  initial : HalState
  machine : Machine HalState HalCall (Option (Fin 16))
  hands_registered : ∀ calls pin arg,
    machine.reply (machine.run initial calls) (.edge pin) = some arg →
      latest (HalCall.argFor pin) calls = some arg

/-! ## `gpio-board.c` -/

/-- The table and the HAL. `Handler` stands for what a function pointer points to, `none`
for `NULL`. -/
structure Lines (Handler : Type u) (HalState : Type v) where
  gpioIrq : Fin 16 → Option Handler
  hal : HalState

variable {Handler : Type u} {HalState : Type v}

namespace Lines

variable (hal : Hal HalState) (lines : Lines Handler HalState)

def initial : Lines Handler HalState where
  gpioIrq _ := none
  hal := hal.initial

def halCall (call : HalCall) : Lines Handler HalState :=
  { lines with hal := hal.machine.next lines.hal call }

/-- The handler that `handler_wrapper` calls. -/
def handlerWrapper (irqn : Fin 16) : Option Handler :=
  lines.gpioIrq irqn

def gpioSetInterrupt (pins : Pins) (obj : Gpio) (irqMode : Nat) (irqHandler : Option Handler) :
    Lines Handler HalState :=
  if obj.pin = pins.nc then lines
  else if obj.pin < pins.ioe0 then
    let irqn := irqn obj.pin
    let lines := { lines with gpioIrq := Function.update lines.gpioIrq irqn irqHandler }
    let lines := lines.halCall hal (.gpioIrqInit obj.pin irqn irqMode obj.pull)
    lines.halCall hal (.gpioIrqEnable obj.pin)
  else lines

def gpioRemoveInterrupt (pins : Pins) (obj : Gpio) : Lines Handler HalState :=
  if obj.pin = pins.nc then lines
  else if obj.pin < pins.ioe0 then
    let lines := lines.halCall hal (.gpioIrqRelease obj.pin)
    { lines with gpioIrq := Function.update lines.gpioIrq (irqn obj.pin) none }
  else lines

end Lines

/-- The events of a queue that may hold others too, by their `ev_arg`. -/
class PinEvent (Event : Type w) where
  ofArg : Fin 16 → Event

/-- `malloc` has returned the event. -/
def postToken {Event : Type w} [PinEvent Event] (queue : List Event) (arg : Fin 16) :
    List Event :=
  queue ++ [PinEvent.ofArg arg]

/-! ## The machine -/

instance : PinEvent (Fin 16) := ⟨id⟩

/-- The interrupts with a queue of their own. -/
structure State (Handler : Type u) (HalState : Type v) extends Lines Handler HalState where
  /-- `ev_arg` of the events in `os_eventq_lorawan`, oldest first. -/
  queue : List (Fin 16)

inductive Call (Handler : Type u)
  | setInterrupt (obj : Gpio) (irqMode : Nat) (irqHandler : Option Handler)
  | removeInterrupt (obj : Gpio)
  /-- The trigger condition of a pin is met. -/
  | fire (pin : Nat)
  /-- The next event of the queue is taken and its `wrapper` run. -/
  | dispatch
  deriving DecidableEq, Repr

inductive Reply (Handler : Type u)
  | done
  | posted
  /-- The HAL does not hear the pin. -/
  | unheard
  /-- An event with this `ev_arg` was taken, and the handler, if any, called. -/
  | dispatched (irqn : Fin 16) (invoked : Option Handler)
  | empty
  deriving DecidableEq, Repr

namespace State

variable (hal : Hal HalState) (state : State Handler HalState)

def initial : State Handler HalState where
  toLines := .initial hal
  queue := []

def fire (pin : Nat) : State Handler HalState × Reply Handler :=
  let heard := hal.machine.reply state.hal (.edge pin)
  let lines := state.toLines.halCall hal (.edge pin)
  match heard with
  | some arg => ({ toLines := lines, queue := postToken state.queue arg }, .posted)
  | none => ({ state with toLines := lines }, .unheard)

def dispatch : State Handler HalState × Reply Handler :=
  match state.queue with
  | [] => (state, .empty)
  | irqn :: rest => ({ state with queue := rest }, .dispatched irqn (state.handlerWrapper irqn))

end State

def interrupts (hal : Hal HalState) (pins : Pins) :
    Machine (State Handler HalState) (Call Handler) (Reply Handler) where
  step state
    | .setInterrupt obj irqMode irqHandler =>
        ({ state with toLines := state.toLines.gpioSetInterrupt hal pins obj irqMode irqHandler },
          .done)
    | .removeInterrupt obj =>
        ({ state with toLines := state.toLines.gpioRemoveInterrupt hal pins obj }, .done)
    | .fire pin => state.fire hal pin
    | .dispatch => state.dispatch

end Lorawan.Interrupts
