import Mathlib.Logic.Function.Basic
import Lorawan.Gpio.Api
import Lorawan.Interrupts.Routing

/-! # Which pin an object stands for

The callers keep one object for each pin they use. Whatever they do with the others, an
object stands for the pin of its last initialisation. -/

namespace Lorawan.Gpio

open Interrupts (Pins)

/-! ## What `gpio_struct_init` computes -/

def portAt : Nat → Option Port
  | 0 => some .gpioA
  | 1 => some .gpioB
  | 2 => some .gpioC
  | 3 => some .gpioD
  | _ => none

theorem portAt_eq_none_iff (index : Nat) : portAt index = none ↔ 4 ≤ index := by
  rcases index with _ | _ | _ | _ | index <;> simp [portAt]

/-- The fields agree with the pin: 16 pins to a port, and one bit for each. -/
structure GpioObj.Derived (obj : GpioObj) : Prop where
  pinIndex : obj.pinIndex = 2 ^ (obj.pin % 16)
  portIndex : obj.portIndex = 2 ^ (obj.pin / 16 % 16)
  port : obj.port = portAt (obj.pin / 16 % 16)
  port_isSome : obj.port.isSome = true

theorem gpioStructInit_eq (pin type : Nat) :
    gpioStructInit pin type =
      (portAt (pin / 16 % 16)).map fun port =>
        { pin
          pull := type
          pinIndex := 2 ^ (pin % 16)
          portIndex := 2 ^ (pin / 16 % 16)
          port := some port } := by
  have low : pin &&& 0x0F = pin % 16 := Nat.and_two_pow_sub_one_eq_mod pin 4
  have high : (pin &&& 0xF0) >>> 4 = pin / 16 % 16 := by
    rw [Nat.shiftRight_and_distrib, Nat.shiftRight_eq_div_pow]
    exact Nat.and_two_pow_sub_one_eq_mod (pin / 16) 4
  simp only [gpioStructInit, low, high, Nat.shiftLeft_eq, Nat.one_mul]
  generalize pin / 16 % 16 = index
  rcases index with _ | _ | _ | _ | index
  · rfl
  · rfl
  · rfl
  · rfl
  · have large : 2 ^ 4 ≤ 2 ^ (index + 4) := Nat.pow_le_pow_right (by omega) (by omega)
    rw [if_neg (by omega), if_neg (by omega), if_neg (by omega), if_neg (by omega)]
    rfl

/-! ## Any number of objects -/

inductive Call
  | init (obj pin : Nat) (mode : PinModes) (config type : Nat) (value : BitVec 32)
  | write (obj : Nat) (value : BitVec 32)
  | toggle (obj : Nat)
  | read (obj : Nat) (level : BitVec 32)
  deriving DecidableEq, Repr

inductive Reply
  | done (halCalls : List HalCall)
  | value (value : BitVec 32) (halCalls : List HalCall)
  | assertFailed
  | stopped
  deriving DecidableEq, Repr

structure State where
  objects : Nat → GpioObj
  stopped : Bool

def State.initial (objects : Nat → GpioObj) : State where
  objects
  stopped := false

def gpio (pins : Pins) : Machine State Call Reply where
  step state call :=
    if state.stopped then (state, .stopped)
    else
      match call with
      | .init obj pin mode config type value =>
          match gpioInit pins (state.objects obj) pin mode config type value with
          | some (initialised, halCalls) =>
              ({ state with objects := Function.update state.objects obj initialised },
                .done halCalls)
          | none => ({ state with stopped := true }, .assertFailed)
      | .write obj value => (state, .done (gpioWrite pins (state.objects obj) value))
      | .toggle obj => (state, .done (gpioToggle pins (state.objects obj)))
      | .read obj level =>
          let (value, halCalls) := gpioRead pins (state.objects obj) level
          (state, .value value halCalls)

/-! ## The last initialisation -/

/-- A pin for which `GpioInit` does something. -/
def Manages (pins : Pins) (pin : Nat) : Prop := pin = pins.nc ∨ pin < pins.ioe0

instance (pins : Pins) (pin : Nat) : Decidable (Manages pins pin) :=
  inferInstanceAs (Decidable (_ ∨ _))

/-- The pin that an answered call gives to an object. -/
def pinGiven (pins : Pins) (obj : Nat) (answered : Call × Reply) : Option Nat :=
  match answered with
  | (.init other pin _ _ _ _, .done _) =>
      if other = obj ∧ Manages pins pin then some pin else none
  | _ => none

def HalCall.pin : HalCall → Nat
  | .initIn pin _ => pin
  | .initOut pin _ => pin
  | .initAf pin _ _ _ => pin
  | .write pin _ => pin
  | .toggle pin => pin
  | .read pin => pin

@[simp] theorem initCall_pin (pin : Nat) (mode : PinModes) (config type : Nat)
    (value : BitVec 32) : (initCall pin mode config type value).pin = pin := by
  cases mode <;> rfl

def Reply.halCalls : Reply → List HalCall
  | .done halCalls => halCalls
  | .value _ halCalls => halCalls
  | _ => []

theorem gpioInit_cases (pins : Pins) (obj : GpioObj) (pin : Nat) (mode : PinModes)
    (config type : Nat) (value : BitVec 32) :
    (pin = pins.nc ∧ gpioInit pins obj pin mode config type value =
        some ({ obj with pin := pins.nc }, [])) ∨
      (¬Manages pins pin ∧ gpioInit pins obj pin mode config type value = some (obj, [])) ∨
      (pins.Internal pin ∧ portAt (pin / 16 % 16) = none ∧
        gpioInit pins obj pin mode config type value = none) ∨
      pins.Internal pin ∧ (portAt (pin / 16 % 16)).isSome ∧ ∃ initialised,
        gpioInit pins obj pin mode config type value =
            some (initialised, [initCall pin mode config type value]) ∧
          initialised.pin = pin ∧ initialised.Derived := by
  unfold gpioInit
  by_cases unconnected : pin = pins.nc
  · exact .inl ⟨unconnected, if_pos unconnected⟩
  rw [if_neg unconnected]
  by_cases internal : pin < pins.ioe0
  · rw [if_pos internal, gpioStructInit_eq]
    cases port : portAt (pin / 16 % 16) with
    | none => exact .inr (.inr (.inl ⟨⟨unconnected, internal⟩, rfl, rfl⟩))
    | some found =>
        exact .inr (.inr (.inr
          ⟨⟨unconnected, internal⟩, rfl, _, rfl, rfl, rfl, rfl, port.symm, rfl⟩))
  · refine .inr (.inl ⟨?_, if_neg internal⟩)
    intro manages
    exact manages.elim unconnected internal

theorem gpioWrite_eq (pins : Pins) (obj : GpioObj) (value : BitVec 32) :
    gpioWrite pins obj value =
      if pins.Internal obj.pin then [.write obj.pin value] else [] := by
  unfold gpioWrite Pins.Internal
  split <;> simp [*]

theorem gpioToggle_eq (pins : Pins) (obj : GpioObj) :
    gpioToggle pins obj = if pins.Internal obj.pin then [.toggle obj.pin] else [] := by
  unfold gpioToggle Pins.Internal
  split <;> simp [*]

theorem gpioRead_eq (pins : Pins) (obj : GpioObj) (level : BitVec 32) :
    gpioRead pins obj level =
      (if pins.Internal obj.pin then level else 0,
        if pins.Internal obj.pin then [.read obj.pin] else []) := by
  unfold gpioRead Pins.Internal
  split <;> simp [*]
  split <;> rfl

theorem internal_of_mem {pins : Pins} {pin : Nat} {halCall : HalCall} (made : HalCall)
    (named : made.pin = pin) (member : halCall ∈ if pins.Internal pin then [made] else []) :
    pins.Internal halCall.pin := by
  split at member
  next internal =>
    rw [List.mem_singleton.mp member, named]
    exact internal
  next => cases member

/-- What is known of an object, its pin and the HAL after a history. -/
structure Known (pins : Pins) (objects : Nat → GpioObj) (past : List (Call × Reply))
    (state : State) : Prop where
  pin : ∀ obj, (state.objects obj).pin =
    (latest (pinGiven pins obj) past).getD (objects obj).pin
  derived : ∀ obj pin, latest (pinGiven pins obj) past = some pin → pin ≠ pins.nc →
    (state.objects obj).Derived
  internal : ∀ answered ∈ past, ∀ halCall ∈ answered.2.halCalls, pins.Internal halCall.pin

namespace Known

variable {pins : Pins} {objects : Nat → GpioObj} {past : List (Call × Reply)} {state : State}

theorem initial (pins : Pins) (objects : Nat → GpioObj) :
    Known pins objects [] (.initial objects) where
  pin _ := rfl
  derived _ _ given := by cases given
  internal _ member := by cases member

/-- A step that gives no object a pin. -/
theorem keep (known : Known pins objects past state) (answered : Call × Reply)
    (stopped : Bool) (nothing : ∀ obj, pinGiven pins obj answered = none)
    (internal : ∀ halCall ∈ answered.2.halCalls, pins.Internal halCall.pin) :
    Known pins objects (past ++ [answered]) { state with stopped } where
  pin obj := by
    rw [latest_append, nothing, Option.none_or]
    exact known.pin obj
  derived obj pin given := by
    rw [latest_append, nothing, Option.none_or] at given
    exact known.derived obj pin given
  internal other member := by
    rcases List.mem_append.mp member with old | new
    · exact known.internal other old
    · rw [List.mem_singleton.mp new]
      exact internal

/-- An initialisation that gives `obj` its pin. -/
theorem give (known : Known pins objects past state) (answered : Call × Reply) (obj : Nat)
    (initialised : GpioObj)
    (given : ∀ other, pinGiven pins other answered =
      if obj = other then some initialised.pin else none)
    (derived : initialised.pin ≠ pins.nc → initialised.Derived)
    (internal : ∀ halCall ∈ answered.2.halCalls, pins.Internal halCall.pin) :
    Known pins objects (past ++ [answered])
      { state with objects := Function.update state.objects obj initialised } where
  pin other := by
    rw [latest_append, given]
    by_cases same : other = obj
    · subst same
      simp
    · simpa [same, Ne.symm same] using known.pin other
  derived other pin latest connected := by
    rw [latest_append, given] at latest
    by_cases same : other = obj
    · subst same
      have pinEq : initialised.pin = pin := by simpa using latest
      simpa using derived (pinEq ▸ connected)
    · have before := known.derived other pin (by simpa [Ne.symm same] using latest) connected
      simpa [same] using before
  internal other member := by
    rcases List.mem_append.mp member with old | new
    · exact known.internal other old
    · rw [List.mem_singleton.mp new]
      exact internal

theorem next (known : Known pins objects past state) (call : Call) :
    Known pins objects (past ++ [(call, (gpio pins).reply state call)])
      ((gpio pins).next state call) := by
  cases stopped : state.stopped with
  | true =>
      have step : (gpio pins).step state call = (state, .stopped) := by simp [gpio, stopped]
      rw [Machine.reply, Machine.next, step]
      apply known.keep
      · intro obj
        cases call <;> rfl
      · intro halCall member
        cases member
  | false =>
      cases call with
      | init obj pin mode config type value =>
          have step : (gpio pins).step state (.init obj pin mode config type value) =
              match gpioInit pins (state.objects obj) pin mode config type value with
              | some (initialised, halCalls) =>
                  ({ state with objects := Function.update state.objects obj initialised },
                    .done halCalls)
              | none => ({ state with stopped := true }, .assertFailed) := by
            simp [gpio, stopped]
          rw [Machine.reply, Machine.next, step]
          rcases gpioInit_cases pins (state.objects obj) pin mode config type value with
            ⟨unconnected, result⟩ | ⟨unmanaged, result⟩ | ⟨_, _, result⟩ |
            ⟨internal, _, initialised, result, samePin, derived⟩
          · rw [result]
            apply known.give _ obj
            · intro other
              simp [pinGiven, Manages, unconnected]
            · intro connected
              exact absurd rfl connected
            · intro halCall member
              cases member
          · rw [result]
            have kept := known.keep
              (.init obj pin mode config type value, .done []) state.stopped
              (by simp [pinGiven, unmanaged]) (by simp [Reply.halCalls])
            simpa [Function.update_eq_self] using kept
          · rw [result]
            apply known.keep
            · intro other
              rfl
            · intro halCall member
              cases member
          · rw [result]
            apply known.give _ obj
            · intro other
              simp [pinGiven, Manages, internal.2, samePin]
            · intro _
              exact derived
            · intro other member
              rw [List.mem_singleton.mp member, initCall_pin]
              exact internal
      | write obj value =>
          have step : (gpio pins).step state (.write obj value) =
              (state, .done (gpioWrite pins (state.objects obj) value)) := by
            simp [gpio, stopped]
          rw [Machine.reply, Machine.next, step, gpioWrite_eq]
          apply known.keep
          · intro other
            rfl
          · intro halCall member
            exact internal_of_mem (.write _ value) rfl member
      | toggle obj =>
          have step : (gpio pins).step state (.toggle obj) =
              (state, .done (gpioToggle pins (state.objects obj))) := by
            simp [gpio, stopped]
          rw [Machine.reply, Machine.next, step, gpioToggle_eq]
          apply known.keep
          · intro other
            rfl
          · intro halCall member
            exact internal_of_mem (.toggle _) rfl member
      | read obj level =>
          have step : (gpio pins).step state (.read obj level) =
              (state, .value (gpioRead pins (state.objects obj) level).1
                (gpioRead pins (state.objects obj) level).2) := by
            simp [gpio, stopped]
          rw [Machine.reply, Machine.next, step, gpioRead_eq]
          apply known.keep
          · intro other
            rfl
          · intro halCall member
            exact internal_of_mem (.read _) rfl member

end Known

/-- After any calls on any objects, an object stands for the pin of its own last
initialisation, and its calls reach the HAL for this pin only, and only if it is internal; an
initialisation stops the program exactly when its pin is internal and has no port. -/
theorem objects_reach_their_pins (pins : Pins) (objects : Nat → GpioObj) (calls : List Call)
    (obj : Nat) :
    let past := (gpio pins).trace (.initial objects) calls
    let state := (gpio pins).run (.initial objects) calls
    let pin := (latest (pinGiven pins obj) past).getD (objects obj).pin
    (∀ answered ∈ past, ∀ halCall ∈ answered.2.halCalls, pins.Internal halCall.pin) ∧
      (latest (pinGiven pins obj) past ≠ none → pin ≠ pins.nc → (state.objects obj).Derived) ∧
      (state.stopped = false →
        (∀ value, (gpio pins).reply state (.write obj value) =
          .done (if pins.Internal pin then [.write pin value] else [])) ∧
        (gpio pins).reply state (.toggle obj) =
          .done (if pins.Internal pin then [.toggle pin] else []) ∧
        (∀ level, (gpio pins).reply state (.read obj level) =
          .value (if pins.Internal pin then level else 0)
            (if pins.Internal pin then [.read pin] else [])) ∧
        ∀ newPin mode config type value,
          (gpio pins).reply state (.init obj newPin mode config type value) = .assertFailed ↔
            pins.Internal newPin ∧ 4 ≤ newPin / 16 % 16) := by
  intro past state pin
  have known : Known pins objects past state :=
    (gpio pins).history (Known pins objects) (fun past state call known => known.next call)
      calls (.initial objects) (Known.initial pins objects)
  have standsFor : (state.objects obj).pin = pin := known.pin obj
  refine ⟨known.internal, ?_, ?_⟩
  · intro given connected
    rcases Option.ne_none_iff_exists'.mp given with ⟨last, found⟩
    have pinEq : pin = last := by
      change (latest (pinGiven pins obj) past).getD (objects obj).pin = last
      rw [found]
      rfl
    exact known.derived obj last found (pinEq ▸ connected)
  · intro running
    refine ⟨?_, ?_, ?_, ?_⟩
    · intro value
      simp [Machine.reply, gpio, running, gpioWrite_eq, standsFor]
    · simp [Machine.reply, gpio, running, gpioToggle_eq, standsFor]
    · intro level
      simp [Machine.reply, gpio, running, gpioRead_eq, standsFor]
    · intro newPin mode config type value
      rw [← portAt_eq_none_iff]
      rcases gpioInit_cases pins (state.objects obj) newPin mode config type value with
        ⟨rfl, result⟩ | ⟨unmanaged, result⟩ | ⟨internal, noPort, result⟩ |
        ⟨internal, hasPort, initialised, result, _⟩
      · simp [Machine.reply, gpio, running, result, Pins.Internal]
      · have external : ¬pins.Internal newPin := fun internal => unmanaged (.inr internal.2)
        simp [Machine.reply, gpio, running, result, external]
      · simp [Machine.reply, gpio, running, result, internal, noPort]
      · have port : portAt (newPin / 16 % 16) ≠ none := by
          intro none
          simp [none] at hasPort
        simp [Machine.reply, gpio, running, result, port]

end Lorawan.Gpio
