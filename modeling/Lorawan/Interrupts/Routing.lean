import Lorawan.Interrupts.Api

/-! # Interrupts are routed by line

The table has one entry for each interrupt line, which all pins with the same low four
bits share. What a dispatch runs is settled by the latest registration or removal on
the line, and on the pin itself while no other pin of the line is used. -/

namespace Lorawan.Interrupts

/-! ## Histories -/

/-- The answered calls so far, oldest first. -/
abbrev History (Handler : Type u) := List (Call Handler × Reply Handler)

/-- What a call does to an interrupt. -/
inductive Setting (Handler : Type u)
  | registered (irqHandler : Option Handler)
  | removed
  deriving DecidableEq, Repr

def Setting.handler {Handler : Type u} : Setting Handler → Option Handler
  | .registered irqHandler => irqHandler
  | .removed => none

/-- A pin for which the functions do something. -/
def Pins.Internal (pins : Pins) (pin : Nat) : Prop :=
  pin ≠ pins.nc ∧ pin < pins.ioe0

instance (pins : Pins) (pin : Nat) : Decidable (pins.Internal pin) :=
  inferInstanceAs (Decidable (pin ≠ pins.nc ∧ pin < pins.ioe0))

variable {Handler : Type u} {HalState : Type v} (pins : Pins)

/-- The internal pin that a call sets, and how. -/
def settingOf : Call Handler × Reply Handler → Option (Nat × Setting Handler)
  | (.setInterrupt obj _ irqHandler, _) =>
      if pins.Internal obj.pin then some (obj.pin, .registered irqHandler) else none
  | (.removeInterrupt obj, _) =>
      if pins.Internal obj.pin then some (obj.pin, .removed) else none
  | _ => none

/-- The setting, where it is one of a chosen pin. -/
def settingOn (chosen : Nat → Bool) (answered : Call Handler × Reply Handler) :
    Option (Setting Handler) :=
  (settingOf pins answered).bind fun (pin, setting) => if chosen pin then some setting else none

def onLine (line : Fin 16) (pin : Nat) : Bool :=
  irqn pin = line

def onPin (pin other : Nat) : Bool :=
  other = pin

/-- The handler registered last for the chosen pins, unless it was removed since. -/
def registered (chosen : Nat → Bool) (past : History Handler) : Option Handler :=
  (latest (settingOn pins chosen) past).bind Setting.handler

def firedBy : Call Handler × Reply Handler → Option Nat
  | (.fire pin, .posted) => some pin
  | _ => none

def dispatchedBy : Call Handler × Reply Handler → Option (Fin 16)
  | (_, .dispatched irqn _) => some irqn
  | _ => none

/-- The pins whose interrupts queued an event, in order. -/
def fired (past : History Handler) : List Nat :=
  past.filterMap firedBy

/-- The lines of the events taken from the queue, in order. -/
def dispatched (past : History Handler) : List (Fin 16) :=
  past.filterMap dispatchedBy

@[simp] theorem fired_append (past : History Handler) (answered : Call Handler × Reply Handler) :
    fired (past ++ [answered]) = fired past ++ (firedBy answered).toList := by
  cases fires : firedBy answered <;> simp [fired, fires]

@[simp] theorem dispatched_append (past : History Handler)
    (answered : Call Handler × Reply Handler) :
    dispatched (past ++ [answered]) = dispatched past ++ (dispatchedBy answered).toList := by
  cases dispatches : dispatchedBy answered <;> simp [dispatched, dispatches]

/-- No pin that was set shares the line of this one. -/
def Unshared (past : History Handler) (pin : Nat) : Prop :=
  ∀ answered ∈ past, ∀ other setting, settingOf pins answered = some (other, setting) →
    irqn other = irqn pin → other = pin

/-- The earliest fire that was not dispatched yet. -/
def nextFire (past : History Handler) : Option Nat :=
  (fired past)[(dispatched past).length]?

/-! ## The HAL -/

namespace Hal

variable (hal : Hal HalState)

/-- Every pin was registered with its line. -/
def Numbered (state : HalState) : Prop :=
  ∃ calls, state = hal.machine.run hal.initial calls ∧
    ∀ pin arg, ∀ call ∈ calls, HalCall.argFor pin call = some arg → arg = irqn pin

variable {hal}

theorem numbered_initial : hal.Numbered hal.initial :=
  ⟨[], rfl, by simp⟩

theorem Numbered.next {state : HalState} (numbered : hal.Numbered state) {call : HalCall}
    (line : ∀ pin arg, HalCall.argFor pin call = some arg → arg = irqn pin) :
    hal.Numbered (hal.machine.next state call) := by
  rcases numbered with ⟨calls, reached, lines⟩
  refine ⟨calls ++ [call], ?_, ?_⟩
  · rw [Machine.run_append, ← reached]
    rfl
  · intro pin arg other member
    rcases List.mem_append.mp member with before | last
    · exact lines pin arg other before
    · rw [List.mem_singleton.mp last]
      exact line pin arg

/-- An edge that is heard is answered with the line of its pin. -/
theorem Numbered.reply_edge {state : HalState} (numbered : hal.Numbered state) {pin : Nat}
    {arg : Fin 16} (heard : hal.machine.reply state (.edge pin) = some arg) :
    arg = irqn pin := by
  rcases numbered with ⟨calls, reached, lines⟩
  rw [reached] at heard
  have given := List.mem_of_getLast? (hal.hands_registered calls pin arg heard)
  rcases List.mem_filterMap.mp given with ⟨call, member, registers⟩
  exact lines pin arg call member registers

end Hal

/-! ## What the functions do -/

namespace Lines

variable (hal : Hal HalState) (lines : Lines Handler HalState) (obj : Gpio)

theorem gpioSetInterrupt_internal (internal : pins.Internal obj.pin) (irqMode : Nat)
    (irqHandler : Option Handler) :
    lines.gpioSetInterrupt hal pins obj irqMode irqHandler =
      { gpioIrq := Function.update lines.gpioIrq (irqn obj.pin) irqHandler
        hal := hal.machine.run lines.hal
          [.gpioIrqInit obj.pin (irqn obj.pin) irqMode obj.pull, .gpioIrqEnable obj.pin] } := by
  simp [gpioSetInterrupt, internal.1, internal.2, halCall]

theorem gpioSetInterrupt_external (external : ¬pins.Internal obj.pin) (irqMode : Nat)
    (irqHandler : Option Handler) :
    lines.gpioSetInterrupt hal pins obj irqMode irqHandler = lines := by
  by_cases nc : obj.pin = pins.nc
  · simp [gpioSetInterrupt, nc]
  · have outside : ¬obj.pin < pins.ioe0 := fun below => external ⟨nc, below⟩
    simp [gpioSetInterrupt, nc, outside]

theorem gpioRemoveInterrupt_internal (internal : pins.Internal obj.pin) :
    lines.gpioRemoveInterrupt hal pins obj =
      { gpioIrq := Function.update lines.gpioIrq (irqn obj.pin) none
        hal := hal.machine.next lines.hal (.gpioIrqRelease obj.pin) } := by
  simp [gpioRemoveInterrupt, internal.1, internal.2, halCall]

theorem gpioRemoveInterrupt_external (external : ¬pins.Internal obj.pin) :
    lines.gpioRemoveInterrupt hal pins obj = lines := by
  by_cases nc : obj.pin = pins.nc
  · simp [gpioRemoveInterrupt, nc]
  · have outside : ¬obj.pin < pins.ioe0 := fun below => external ⟨nc, below⟩
    simp [gpioRemoveInterrupt, nc, outside]

end Lines

theorem Hal.Numbered.gpioSetInterrupt {hal : Hal HalState} {lines : Lines Handler HalState}
    (numbered : hal.Numbered lines.hal) (obj : Gpio) (irqMode : Nat)
    (irqHandler : Option Handler) :
    hal.Numbered (lines.gpioSetInterrupt hal pins obj irqMode irqHandler).hal := by
  by_cases internal : pins.Internal obj.pin
  · rw [Lines.gpioSetInterrupt_internal pins hal lines obj internal]
    have registered : hal.Numbered (hal.machine.next lines.hal
        (.gpioIrqInit obj.pin (irqn obj.pin) irqMode obj.pull)) := by
      apply numbered.next
      intro pin arg given
      simp only [HalCall.argFor, Option.ite_none_right_eq_some, Option.some.injEq] at given
      rw [← given.1, given.2]
    apply registered.next
    intro pin arg given
    simp [HalCall.argFor] at given
  · rw [Lines.gpioSetInterrupt_external pins hal lines obj internal]
    exact numbered

theorem Hal.Numbered.gpioRemoveInterrupt {hal : Hal HalState} {lines : Lines Handler HalState}
    (numbered : hal.Numbered lines.hal) (obj : Gpio) :
    hal.Numbered (lines.gpioRemoveInterrupt hal pins obj).hal := by
  by_cases internal : pins.Internal obj.pin
  · rw [Lines.gpioRemoveInterrupt_internal pins hal lines obj internal]
    apply numbered.next
    intro pin arg given
    simp [HalCall.argFor] at given
  · rw [Lines.gpioRemoveInterrupt_external pins hal lines obj internal]
    exact numbered

/-- An edge adds the event of its pin to the queue, where the HAL hears it. -/
theorem Hal.Numbered.fire_cases {hal : Hal HalState} {state : State Handler HalState}
    (numbered : hal.Numbered state.hal) (pin : Nat) :
    hal.Numbered (state.fire hal pin).1.hal ∧
      (state.fire hal pin).1.gpioIrq = state.gpioIrq ∧
      (((state.fire hal pin).1.queue = state.queue ∧ (state.fire hal pin).2 = .unheard) ∨
        ((state.fire hal pin).1.queue = state.queue ++ [irqn pin] ∧
          (state.fire hal pin).2 = .posted)) := by
  have next : hal.Numbered (hal.machine.next state.hal (.edge pin)) := by
    apply numbered.next
    intro other arg given
    simp [HalCall.argFor] at given
  unfold State.fire
  cases heard : hal.machine.reply state.hal (.edge pin) with
  | none => exact ⟨next, rfl, .inl ⟨rfl, rfl⟩⟩
  | some arg =>
      rw [← numbered.reply_edge heard]
      exact ⟨next, rfl, .inr ⟨rfl, rfl⟩⟩

/-! ## What the history says about the state -/

/-- The table holds what was registered last on each line, and the queue the fires not
dispatched yet. -/
structure Recorded (hal : Hal HalState) (past : History Handler) (state : State Handler HalState) :
    Prop where
  table : ∀ line, state.gpioIrq line = registered pins (onLine line) past
  numbered : hal.Numbered state.hal
  queue : (fired past).map irqn = dispatched past ++ state.queue

namespace Recorded

variable {pins} {hal : Hal HalState} {past : History Handler} {state : State Handler HalState}

theorem initial : Recorded pins hal ([] : History Handler) (.initial hal) where
  table _ := rfl
  numbered := Hal.numbered_initial
  queue := rfl

/-- A step that sets no pin and leaves the queue as the history says. -/
theorem keep (recorded : Recorded pins hal past state) {next : State Handler HalState}
    {answered : Call Handler × Reply Handler} (unset : settingOf pins answered = none)
    (table : next.gpioIrq = state.gpioIrq) (numbered : hal.Numbered next.hal)
    (queued : (fired (past ++ [answered])).map irqn =
      dispatched (past ++ [answered]) ++ next.queue) :
    Recorded pins hal (past ++ [answered]) next where
  table line := by
    have none_chosen : settingOn pins (onLine line) answered = none := by
      simp [settingOn, unset]
    rw [table, recorded.table, registered, registered, latest_append, none_chosen,
      Option.none_or]
  numbered := numbered
  queue := queued

/-- A step that sets a pin. -/
theorem settle (recorded : Recorded pins hal past state) {next : State Handler HalState}
    {answered : Call Handler × Reply Handler} {pin : Nat} {setting : Setting Handler}
    (set : settingOf pins answered = some (pin, setting)) (silent : answered.2 = .done)
    (table : next.gpioIrq = Function.update state.gpioIrq (irqn pin) setting.handler)
    (numbered : hal.Numbered next.hal) (queue : next.queue = state.queue) :
    Recorded pins hal (past ++ [answered]) next where
  table line := by
    have chosen_setting : settingOn pins (onLine line) answered =
        if irqn pin = line then some setting else none := by
      simp [settingOn, set, onLine]
    rw [table, registered, latest_append, chosen_setting]
    by_cases same : irqn pin = line
    · subst same
      simp
    · rw [Function.update_of_ne (Ne.symm same), if_neg same, Option.none_or]
      exact recorded.table line
  numbered := numbered
  queue := by
    rcases answered with ⟨call, reply⟩
    have reply_done : reply = .done := silent
    subst reply_done
    have unfired : firedBy (call, (.done : Reply Handler)) = none := by
      cases call <;> rfl
    rw [queue]
    simpa [unfired, dispatchedBy] using recorded.queue

/-- What holds of the next step, whatever it is. -/
theorem next (recorded : Recorded pins hal past state) (call : Call Handler) :
    Recorded pins hal (past ++ [(call, (interrupts hal pins).reply state call)])
      ((interrupts hal pins).next state call) := by
  cases call with
  | setInterrupt obj irqMode irqHandler =>
      simp only [Machine.reply, Machine.next, interrupts]
      have numbered := recorded.numbered.gpioSetInterrupt pins obj irqMode irqHandler
      by_cases internal : pins.Internal obj.pin
      · have set : settingOf pins (.setInterrupt obj irqMode irqHandler, .done) =
            some (obj.pin, .registered irqHandler) := by
          simp [settingOf, internal]
        refine recorded.settle set rfl ?_ numbered rfl
        rw [Lines.gpioSetInterrupt_internal pins hal state.toLines obj internal]
        rfl
      · refine recorded.keep ?_ ?_ numbered ?_
        · simp [settingOf, internal]
        · rw [Lines.gpioSetInterrupt_external pins hal state.toLines obj internal]
        · simpa [firedBy, dispatchedBy] using recorded.queue
  | removeInterrupt obj =>
      simp only [Machine.reply, Machine.next, interrupts]
      have numbered := recorded.numbered.gpioRemoveInterrupt pins obj
      by_cases internal : pins.Internal obj.pin
      · have set : settingOf pins ((.removeInterrupt obj : Call Handler), .done) =
            some (obj.pin, .removed) := by
          simp [settingOf, internal]
        refine recorded.settle set rfl ?_ numbered rfl
        rw [Lines.gpioRemoveInterrupt_internal pins hal state.toLines obj internal]
        rfl
      · refine recorded.keep ?_ ?_ numbered ?_
        · simp [settingOf, internal]
        · rw [Lines.gpioRemoveInterrupt_external pins hal state.toLines obj internal]
        · simpa [firedBy, dispatchedBy] using recorded.queue
  | fire pin =>
      simp only [Machine.reply, Machine.next, interrupts]
      rcases recorded.numbered.fire_cases pin with
        ⟨numbered, table, ⟨queue, reply⟩ | ⟨queue, reply⟩⟩
      · refine recorded.keep rfl table numbered ?_
        rw [queue, reply]
        simpa [firedBy, dispatchedBy] using recorded.queue
      · refine recorded.keep rfl table numbered ?_
        rw [queue, reply]
        simp [firedBy, dispatchedBy, recorded.queue]
  | dispatch =>
      simp only [Machine.reply, Machine.next, interrupts, State.dispatch]
      cases queued : state.queue with
      | nil =>
          refine recorded.keep rfl rfl recorded.numbered ?_
          simpa [firedBy, dispatchedBy] using recorded.queue
      | cons irqn rest =>
          refine recorded.keep rfl rfl recorded.numbered ?_
          simp [firedBy, dispatchedBy, recorded.queue, queued]

theorem run (calls : List (Call Handler)) :
    Recorded pins hal ((interrupts hal pins).trace (.initial hal) calls)
      ((interrupts hal pins).run (.initial hal) calls) := by
  apply (interrupts hal pins).history (Recorded pins hal)
  · intro past state call recorded
    exact recorded.next call
  · exact initial

/-! ## What the next step does -/

/-- The next dispatch takes the event of the earliest fire still waiting. -/
theorem queue_of_nextFire (recorded : Recorded pins hal past state) {pin : Nat}
    (waiting : nextFire past = some pin) : ∃ rest, state.queue = irqn pin :: rest := by
  have atEnd : ((fired past).map irqn)[(dispatched past).length]? = some (irqn pin) := by
    simpa [nextFire] using ⟨pin, waiting, rfl⟩
  rw [recorded.queue, List.getElem?_append_right (Nat.le_refl _), Nat.sub_self] at atEnd
  cases queued : state.queue with
  | nil => simp [queued] at atEnd
  | cons line rest =>
      have same : line = irqn pin := by simpa [queued] using atEnd
      exact ⟨rest, by rw [same]⟩

theorem queue_of_noFire (recorded : Recorded pins hal past state)
    (waiting : nextFire past = none) : state.queue = [] := by
  have lengths := congrArg List.length recorded.queue
  have all : (fired past).length ≤ (dispatched past).length := by
    simpa [nextFire] using waiting
  apply List.eq_nil_of_length_eq_zero
  simp only [List.length_map, List.length_append] at lengths
  omega

theorem dispatch_reply (recorded : Recorded pins hal past state) {pin : Nat}
    (waiting : nextFire past = some pin) :
    (interrupts hal pins).reply state .dispatch =
      .dispatched (irqn pin) (registered pins (onLine (irqn pin)) past) := by
  rcases recorded.queue_of_nextFire waiting with ⟨rest, queued⟩
  simp [Machine.reply, interrupts, State.dispatch, queued, Lines.handlerWrapper, recorded.table]

theorem empty_reply (recorded : Recorded pins hal past state)
    (waiting : nextFire past = none) :
    (interrupts hal pins).reply state .dispatch = .empty := by
  have queued := recorded.queue_of_noFire waiting
  simp [Machine.reply, interrupts, State.dispatch, queued]

end Recorded

/-- While no other pin of the line is set, the pin has the line to itself. -/
theorem registered_eq_of_unshared {past : History Handler} {pin : Nat}
    (unshared : Unshared pins past pin) :
    registered pins (onLine (irqn pin)) past = registered pins (onPin pin) past := by
  have agree : ∀ answered ∈ past, settingOn pins (onLine (irqn pin)) answered =
      settingOn pins (onPin pin) answered := by
    intro answered member
    cases set : settingOf pins answered with
    | none => simp [settingOn, set]
    | some found =>
        rcases found with ⟨other, setting⟩
        by_cases same : other = pin
        · simp [settingOn, set, onLine, onPin, same]
        · have apart : irqn other ≠ irqn pin := fun equal =>
            same (unshared answered member other setting set equal)
          simp [settingOn, set, onLine, onPin, same, apart]
  rw [registered, registered, latest_congr agree]

/-! ## The laws -/

section Laws

variable (hal : Hal HalState)

/-- The next dispatch runs what was registered last for the pins chosen for the pin
that fired. -/
def RunsRegistered (chosen : Nat → Nat → Bool) (past : History Handler)
    (state : State Handler HalState) : Prop :=
  ∀ pin, nextFire past = some pin →
    (interrupts hal pins).reply state .dispatch =
      .dispatched (irqn pin) (registered pins (chosen pin) past)

/-- What the interrupts promise of each state and of the call made in it. -/
structure RoutingLaws (past : History Handler) (state : State Handler HalState)
    (call : Call Handler) : Prop where
  /-- Each fire is dispatched once, in order, or still waits. -/
  in_order : (fired past).map irqn = dispatched past ++ state.queue
  nothing_waiting : nextFire past = none → (interrupts hal pins).reply state .dispatch = .empty
  runs_for_line : RunsRegistered pins hal (fun pin => onLine (irqn pin)) past state
  /-- A removal on the line silences its fires until the next registration. -/
  silent : ∀ pin, nextFire past = some pin →
    latest (settingOn pins (onLine (irqn pin))) past = some .removed →
    (interrupts hal pins).reply state .dispatch = .dispatched (irqn pin) none
  /-- A call changes what runs for the line of the pin it sets only. -/
  other_lines : ∀ line, (∀ other setting,
      settingOf pins (call, (interrupts hal pins).reply state call) = some (other, setting) →
      irqn other ≠ line) →
    ((interrupts hal pins).next state call).handlerWrapper line = state.handlerWrapper line
  runs_for_pin : (∀ pin, nextFire past = some pin → Unshared pins past pin) →
    RunsRegistered pins hal onPin past state

end Laws

theorem Recorded.runs_for_line {pins : Pins} {hal : Hal HalState} {past : History Handler}
    {state : State Handler HalState} (recorded : Recorded pins hal past state) :
    RunsRegistered pins hal (fun pin => onLine (irqn pin)) past state := by
  intro pin waiting
  exact recorded.dispatch_reply waiting

/-- The latest setting of a line is kept by a call that sets no pin of the line. -/
theorem Recorded.other_lines {pins : Pins} {hal : Hal HalState} {past : History Handler}
    {state : State Handler HalState} (recorded : Recorded pins hal past state)
    (call : Call Handler) (line : Fin 16)
    (elsewhere : ∀ other setting,
      settingOf pins (call, (interrupts hal pins).reply state call) = some (other, setting) →
      irqn other ≠ line) :
    ((interrupts hal pins).next state call).handlerWrapper line = state.handlerWrapper line := by
  have unset : settingOn pins (onLine line) (call, (interrupts hal pins).reply state call) =
      none := by
    cases set : settingOf pins (call, (interrupts hal pins).reply state call) with
    | none => simp [settingOn, set]
    | some found => simp [settingOn, set, onLine, elsewhere found.1 found.2 set]
  have after := (recorded.next call).table line
  rw [registered, latest_append, unset] at after
  simpa [Lines.handlerWrapper, recorded.table line, registered] using after

/-- Whatever the order of registrations, removals, fires and dispatches, and whatever pins
the HAL hears, interrupts are routed by line, and by pin where no other pin of the line was
set. -/
theorem interrupts_routed_by_line (hal : Hal HalState) (calls : List (Call Handler))
    (call : Call Handler) :
    RoutingLaws pins hal ((interrupts hal pins).trace (.initial hal) calls)
      ((interrupts hal pins).run (.initial hal) calls) call := by
  have recorded : Recorded pins hal ((interrupts hal pins).trace (.initial hal) calls)
      ((interrupts hal pins).run (.initial hal) calls) := Recorded.run calls
  constructor
  case in_order => exact recorded.queue
  case nothing_waiting => exact recorded.empty_reply
  case runs_for_line => exact recorded.runs_for_line
  case silent =>
    intro pin waiting removed
    rw [recorded.runs_for_line pin waiting, registered, removed]
    rfl
  case other_lines => exact recorded.other_lines call
  case runs_for_pin =>
    intro unshared pin waiting
    rw [recorded.runs_for_line pin waiting,
      registered_eq_of_unshared pins (unshared pin waiting)]

/-! ## Two pins on one line -/

/-- What a HAL with one interrupt for each line knows of the line. -/
structure LineIrq where
  pin : Nat
  arg : Fin 16
  enabled : Bool
  deriving DecidableEq, Repr

def switchLine (irqs : Fin 16 → Option LineIrq) (pin : Nat) (enabled : Bool) :
    Fin 16 → Option LineIrq :=
  Function.update irqs (irqn pin) ((irqs (irqn pin)).map fun irq => { irq with enabled })

def lineStep (irqs : Fin 16 → Option LineIrq) :
    HalCall → (Fin 16 → Option LineIrq) × Option (Fin 16)
  | .gpioIrqInit pin arg _ _ =>
      (Function.update irqs (irqn pin) (some { pin, arg, enabled := false }), none)
  | .gpioIrqEnable pin => (switchLine irqs pin true, none)
  | .gpioIrqDisable pin => (switchLine irqs pin false, none)
  | .gpioIrqRelease pin => (Function.update irqs (irqn pin) none, none)
  | .edge pin =>
      (irqs, (irqs (irqn pin)).bind fun irq =>
        if irq.pin = pin ∧ irq.enabled = true then some irq.arg else none)

/-- What is known of a line is the last registration of its pin. -/
theorem lineStep_argFor {irqs : Fin 16 → Option LineIrq} {calls : List HalCall}
    (known : ∀ line irq, irqs line = some irq →
      irqn irq.pin = line ∧ latest (HalCall.argFor irq.pin) calls = some irq.arg)
    (call : HalCall) (line : Fin 16) (irq : LineIrq)
    (found : (lineStep irqs call).1 line = some irq) :
    irqn irq.pin = line ∧ latest (HalCall.argFor irq.pin) (calls ++ [call]) = some irq.arg := by
  rw [latest_append]
  have switched : ∀ pin enabled, (∀ other, HalCall.argFor other call = none) →
      switchLine irqs pin enabled line = some irq →
      irqn irq.pin = line ∧
        (HalCall.argFor irq.pin call).or (latest (HalCall.argFor irq.pin) calls) =
          some irq.arg := by
    intro pin enabled silent after
    rw [silent, Option.none_or]
    unfold switchLine at after
    by_cases same : line = irqn pin
    · subst same
      rw [Function.update_self, Option.map_eq_some_iff] at after
      rcases after with ⟨before, present, rfl⟩
      exact known _ before present
    · rw [Function.update_of_ne same] at after
      exact known line irq after
  cases call with
  | gpioIrqInit pin arg trig pull =>
      by_cases same : line = irqn pin
      · subst same
        simp only [lineStep, Function.update_self, Option.some.injEq] at found
        subst found
        simp [HalCall.argFor]
      · simp only [lineStep, Function.update_of_ne same] at found
        have before := known line irq found
        have other : pin ≠ irq.pin := by
          rintro rfl
          exact same before.1.symm
        simpa [HalCall.argFor, other] using before
  | gpioIrqEnable pin => exact switched pin true (fun _ => rfl) found
  | gpioIrqDisable pin => exact switched pin false (fun _ => rfl) found
  | gpioIrqRelease pin =>
      by_cases same : line = irqn pin
      · subst same
        simp [lineStep] at found
      · simp only [lineStep, Function.update_of_ne same] at found
        simpa [HalCall.argFor] using known line irq found
  | edge pin => simpa [HalCall.argFor] using known line irq found

/-- It hears the pin that was registered last on the line, while the line is enabled. -/
def lineHal : Hal (Fin 16 → Option LineIrq) where
  initial _ := none
  machine := ⟨lineStep⟩
  hands_registered := by
    intro calls pin arg heard
    have known : ∀ line irq,
        (Machine.mk lineStep).run (fun _ => none) calls line = some irq →
          irqn irq.pin = line ∧ latest (HalCall.argFor irq.pin) calls = some irq.arg := by
      clear heard
      induction calls using List.reverseRecOn with
      | nil =>
          intro line irq found
          cases found
      | append_singleton calls call induction =>
          intro line irq found
          rw [Machine.run_append] at found
          exact lineStep_argFor induction call line irq found
    simp only [Machine.reply, lineStep, Option.bind_eq_some_iff, Option.ite_none_right_eq_some,
      Option.some.injEq] at heard
    rcases heard with ⟨irq, found, ⟨rfl, _⟩, rfl⟩
    exact (known _ irq found).2

def boardPins : Pins where
  nc := 0xFFFFFFFF
  ioe0 := 0x100

/-- Pin 0x01 fires, and pin 0x11 is registered before the dispatch. -/
def sharedLineRun : List (Call Nat) :=
  [.setInterrupt ⟨0x01, 0⟩ 0 (some 1), .fire 0x01, .setInterrupt ⟨0x11, 0⟩ 0 (some 2)]

/-- The dispatch runs the handler of the line, which is the one of pin 0x11. -/
theorem interrupts_routed_by_line_shared :
    (interrupts lineHal boardPins).reply
        ((interrupts lineHal boardPins).run (.initial lineHal) sharedLineRun) .dispatch =
      .dispatched 1 (some 2) :=
  (interrupts_routed_by_line boardPins lineHal sharedLineRun .dispatch).runs_for_line 0x01
    (by decide)

/-- The fire of pin 0x01 runs the handler of pin 0x11. -/
theorem sharedLineRun_runs_other_handler :
    ¬RunsRegistered boardPins lineHal onPin
      ((interrupts lineHal boardPins).trace (.initial lineHal) sharedLineRun)
      ((interrupts lineHal boardPins).run (.initial lineHal) sharedLineRun) := by
  intro routed
  have ran := routed 0x01 (by decide)
  revert ran
  decide

end Lorawan.Interrupts
