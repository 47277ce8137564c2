import Lorawan.Interrupts.Routing
import Lorawan.Library.Registers

/-! # The interrupt lines of the radios

The board files register one handler for each DIO of the radio, and `board.c` switches the
interrupts of the radio's pins off and on again. The pins are those that the board package
gives; two of them may have one line. -/

namespace Lorawan.Interrupts

variable {Handler : Type u} {HalState : Type v} (pins : Pins) (hal : Hal HalState)

/-! ## `board.c` -/

namespace Lines

variable (lines : Lines Handler HalState)

/-- `GPIO_IRQ_ENABLE` -/
def gpioIrqEnable (pin : Nat) : Lines Handler HalState :=
  if pin ≠ pins.nc then lines.halCall hal (.gpioIrqEnable pin) else lines

/-- `GPIO_IRQ_DISABLE` -/
def gpioIrqDisable (pin : Nat) : Lines Handler HalState :=
  if pin ≠ pins.nc then lines.halCall hal (.gpioIrqDisable pin) else lines

/-- `BoardEnableIrq` for the objects that the radio in use has, in the order of the source. -/
def boardEnableIrq (objects : List Gpio) : Lines Handler HalState :=
  objects.foldl (fun lines obj => lines.gpioIrqEnable pins hal obj.pin) lines

def boardDisableIrq (objects : List Gpio) : Lines Handler HalState :=
  objects.foldl (fun lines obj => lines.gpioIrqDisable pins hal obj.pin) lines

end Lines

/-! ## The board files -/

def irqRisingEdge : Nat := 1

/-- The objects of a radio: those that `BoardEnableIrq` names, and those that get a handler
from `IoIrqInit`, with the handler. -/
structure Radio (Handler : Type u) where
  objects : List Gpio
  lines : List (Gpio × Option Handler)

/-- The SX1272 and the SX1276. -/
def sx127x (dio : Fin 6 → Gpio) (irqHandlers : Fin 6 → Option Handler) : Radio Handler where
  objects := List.ofFn dio
  lines := List.ofFn fun i => (dio i, irqHandlers i)

/-- The SX126x, with a handler for `DIO1` only. -/
def sx126x (busy dio1 dio2 dio3 : Gpio) (dioIrq : Option Handler) : Radio Handler where
  objects := [busy, dio1, dio2, dio3]
  lines := [(dio1, dioIrq)]

/-- `SX1272IoIrqInit`, `SX1276IoIrqInit` and `SX126xIoIrqInit`. -/
def Radio.ioIrqInit (radio : Radio Handler) (lines : Lines Handler HalState) :
    Lines Handler HalState :=
  radio.lines.foldl
    (fun lines line => lines.gpioSetInterrupt hal pins line.1 irqRisingEdge line.2) lines

/-! ## The machine -/

inductive RadioCall
  /-- A rising edge on a pin. -/
  | fire (pin : Nat)
  | dispatch
  | boardEnableIrq
  | boardDisableIrq
  deriving DecidableEq, Repr

def Radio.interrupts (radio : Radio Handler) :
    Machine (State Handler HalState) RadioCall (Reply Handler) where
  step state
    | .fire pin => state.fire hal pin
    | .dispatch => state.dispatch
    | .boardEnableIrq =>
        ({ state with toLines := state.toLines.boardEnableIrq pins hal radio.objects }, .done)
    | .boardDisableIrq =>
        ({ state with toLines := state.toLines.boardDisableIrq pins hal radio.objects }, .done)

/-- After `IoIrqInit`. -/
def Radio.ready (radio : Radio Handler) : State Handler HalState where
  toLines := radio.ioIrqInit pins hal (.initial hal)
  queue := []

/-! ## What is registered -/

namespace Radio

variable (radio : Radio Handler)

/-- The line's entry that a registration leaves in the table. -/
def entryOn (irq : Fin 16) (line : Gpio × Option Handler) : Option (Option Handler) :=
  if pins.Internal line.1.pin ∧ irqn line.1.pin = irq then some line.2 else none

/-- The last registration on a line is the one that counts. -/
def handlerOn (irq : Fin 16) : Option Handler :=
  (latest (entryOn pins irq) radio.lines).getD none

def Armed (pin : Nat) : Prop :=
  pins.Internal pin ∧ ∃ line ∈ radio.lines, line.1.pin = pin

instance (pin : Nat) : Decidable (radio.Armed pins pin) :=
  inferInstanceAs (Decidable (pins.Internal pin ∧ ∃ line ∈ radio.lines, line.1.pin = pin))

def switched (pin : Nat) (answered : RadioCall × Reply Handler) : Option Bool :=
  if pin ≠ pins.nc ∧ ∃ obj ∈ radio.objects, obj.pin = pin then
    match answered.1 with
    | .boardEnableIrq => some true
    | .boardDisableIrq => some false
    | _ => none
  else none

def heardOn : RadioCall × Reply Handler → Option Nat
  | (.fire pin, .posted) => some pin
  | _ => none

def invokedBy : RadioCall × Reply Handler → Option (Option Handler)
  | (_, .dispatched _ invoked) => some invoked
  | _ => none

/-- A line whose registration no later one replaces. -/
theorem handlerOn_of_last {before after : List (Gpio × Option Handler)}
    {line : Gpio × Option Handler} (split : radio.lines = before ++ line :: after)
    (internal : pins.Internal line.1.pin)
    (unshared : ∀ other ∈ after, pins.Internal other.1.pin →
      irqn other.1.pin ≠ irqn line.1.pin) :
    radio.handlerOn pins (irqn line.1.pin) = line.2 := by
  have silent : after.filterMap (entryOn pins (irqn line.1.pin)) = [] := by
    rw [List.filterMap_eq_nil_iff]
    intro other member
    apply if_neg
    intro both
    exact unshared other member both.1 both.2
  have entry : entryOn pins (irqn line.1.pin) line = some line.2 := if_pos ⟨internal, rfl⟩
  rw [handlerOn, latest, split, List.filterMap_append, List.filterMap_cons_some entry, silent]
  simp

theorem gpioIrq_ioIrqInit (lines : Lines Handler HalState) (irq : Fin 16) :
    (radio.ioIrqInit pins hal lines).gpioIrq irq =
      (latest (entryOn pins irq) radio.lines).getD (lines.gpioIrq irq) := by
  rw [ioIrqInit]
  induction radio.lines using List.reverseRecOn with
  | nil => rfl
  | append_singleton before line induction =>
      rw [List.foldl_append, latest_append]
      by_cases internal : pins.Internal line.1.pin
      · rw [List.foldl_cons, List.foldl_nil,
          Lines.gpioSetInterrupt_internal pins hal _ _ internal]
        by_cases same : irqn line.1.pin = irq
        · simp [entryOn, internal, same]
        · simp [entryOn, internal, same, Ne.symm same, induction]
      · rw [List.foldl_cons, List.foldl_nil,
          Lines.gpioSetInterrupt_external pins hal _ _ internal]
        simp [entryOn, internal, induction]

/-! ## What the HAL is asked -/

/-- By one registration. -/
def registers (line : Gpio × Option Handler) : List HalCall :=
  if pins.Internal line.1.pin then
    [.gpioIrqInit line.1.pin (irqn line.1.pin) irqRisingEdge line.1.pull,
      .gpioIrqEnable line.1.pin]
  else []

/-- By a switch of all objects. -/
def switches (call : Nat → HalCall) : List HalCall :=
  (radio.objects.filter fun obj => obj.pin ≠ pins.nc).map fun obj => call obj.pin

def asks : RadioCall × Reply Handler → List HalCall
  | (.fire pin, _) => [.edge pin]
  | (.boardEnableIrq, _) => radio.switches pins .gpioIrqEnable
  | (.boardDisableIrq, _) => radio.switches pins .gpioIrqDisable
  | (.dispatch, _) => []

/-- All that happens to the HAL, the registrations first. -/
def asked (past : List (RadioCall × Reply Handler)) : List HalCall :=
  radio.lines.flatMap (registers pins) ++ past.flatMap (radio.asks pins)

theorem hal_ioIrqInit (lines : Lines Handler HalState) :
    (radio.ioIrqInit pins hal lines).hal =
      hal.machine.run lines.hal (radio.lines.flatMap (registers pins)) := by
  rw [ioIrqInit]
  induction radio.lines using List.reverseRecOn with
  | nil => rfl
  | append_singleton before line induction =>
      rw [List.foldl_append, List.foldl_cons, List.foldl_nil, List.flatMap_append,
        Machine.run_append, ← induction, List.flatMap_singleton, registers]
      by_cases internal : pins.Internal line.1.pin
      · rw [Lines.gpioSetInterrupt_internal pins hal _ _ internal, if_pos internal]
      · rw [Lines.gpioSetInterrupt_external pins hal _ _ internal, if_neg internal]
        rfl

/-- Either switch goes through the objects one by one. -/
theorem foldl_switch (call : Nat → HalCall)
    {switch : Lines Handler HalState → Nat → Lines Handler HalState}
    (switch_eq : ∀ lines pin, switch lines pin =
      if pin ≠ pins.nc then lines.halCall hal (call pin) else lines)
    (lines : Lines Handler HalState) :
    radio.objects.foldl (fun lines obj => switch lines obj.pin) lines =
      { lines with hal := hal.machine.run lines.hal (radio.switches pins call) } := by
  rw [switches]
  induction radio.objects using List.reverseRecOn with
  | nil => rfl
  | append_singleton before obj induction =>
      rw [List.foldl_append, List.foldl_cons, List.foldl_nil, induction, switch_eq,
        List.filter_append, List.map_append, Machine.run_append]
      by_cases connected : obj.pin ≠ pins.nc
      · simp [connected, Lines.halCall]
      · simp [connected]

end Radio

/-- The switch of a pin, where a call is one. -/
def HalCall.switchOf (pin : Nat) : HalCall → Option Bool
  | .gpioIrqEnable other => if other = pin then some true else none
  | .gpioIrqDisable other | .gpioIrqRelease other => if other = pin then some false else none
  | _ => none

namespace Radio

variable (radio : Radio Handler)

theorem mem_registers {line : Gpio × Option Handler} {call : HalCall} :
    call ∈ registers pins line ↔ pins.Internal line.1.pin ∧
      (call = .gpioIrqInit line.1.pin (irqn line.1.pin) irqRisingEdge line.1.pull ∨
        call = .gpioIrqEnable line.1.pin) := by
  unfold registers
  split <;> simp [*]

/-- The registrations leave one value for each armed pin, and none for the others. -/
theorem latest_registrations {Value : Type} (observe : HalCall → Option Value) (value : Value)
    (pin : Nat)
    (only : ∀ line : Gpio × Option Handler, ∀ call ∈ registers pins line,
      ∀ other, observe call = some other → line.1.pin = pin ∧ other = value)
    (observed : ∀ line : Gpio × Option Handler, pins.Internal line.1.pin → line.1.pin = pin →
      ∃ call ∈ registers pins line, observe call = some value) :
    latest observe (radio.lines.flatMap (registers pins)) =
      if radio.Armed pins pin then some value else none := by
  by_cases armed : radio.Armed pins pin
  · rw [if_pos armed]
    apply latest_eq_of_only
    · intro call member other found
      rcases List.mem_flatMap.mp member with ⟨line, _, given⟩
      exact (only line call given other found).2
    · rcases armed with ⟨internal, line, member, same⟩
      rcases observed line (same ▸ internal) same with ⟨call, given, found⟩
      exact ⟨call, List.mem_flatMap.mpr ⟨line, member, given⟩, found⟩
  · rw [if_neg armed]
    apply latest_eq_none
    intro call member
    rcases List.mem_flatMap.mp member with ⟨line, lineMem, given⟩
    cases found : observe call with
    | none => rfl
    | some other =>
        have same := (only line call given other found).1
        exact absurd ⟨same ▸ ((mem_registers pins).mp given).1, line, lineMem, same⟩ armed

theorem latest_switches (call : Nat → HalCall) (enabled : Bool) (pin : Nat)
    (switchOf : ∀ other, HalCall.switchOf pin (call other) =
      if other = pin then some enabled else none) :
    latest (HalCall.switchOf pin) (radio.switches pins call) =
      if pin ≠ pins.nc ∧ ∃ obj ∈ radio.objects, obj.pin = pin then some enabled else none := by
  rw [switches]
  by_cases named : pin ≠ pins.nc ∧ ∃ obj ∈ radio.objects, obj.pin = pin
  · rw [if_pos named]
    rcases named with ⟨connected, obj, member, rfl⟩
    apply latest_eq_of_only
    · intro asked askedMem other found
      rcases List.mem_map.mp askedMem with ⟨other, _, rfl⟩
      rw [switchOf] at found
      simp only [Option.ite_none_right_eq_some, Option.some.injEq] at found
      exact found.2.symm
    · refine ⟨call obj.pin, List.mem_map_of_mem ?_, by rw [switchOf, if_pos rfl]⟩
      simp [member, connected]
  · rw [if_neg named]
    apply latest_eq_none
    intro asked askedMem
    rcases List.mem_map.mp askedMem with ⟨obj, member, rfl⟩
    have given := List.mem_filter.mp member
    rw [switchOf, if_neg]
    rintro rfl
    exact named ⟨by simpa using given.2, obj, given.1, rfl⟩

theorem argFor_of_mem_registers {line : Gpio × Option Handler} {call : HalCall}
    (given : call ∈ registers pins line) {pin : Nat} {arg : Fin 16}
    (found : HalCall.argFor pin call = some arg) : line.1.pin = pin ∧ arg = irqn pin := by
  rcases (mem_registers pins).mp given with ⟨_, rfl | rfl⟩
  · simp only [HalCall.argFor, Option.ite_none_right_eq_some, Option.some.injEq] at found
    exact ⟨found.1, by rw [← found.2, found.1]⟩
  · cases found

theorem argFor_of_mem_asks {answered : RadioCall × Reply Handler} {call : HalCall}
    (given : call ∈ radio.asks pins answered) (pin : Nat) :
    HalCall.argFor pin call = none := by
  rcases answered with ⟨step, reply⟩
  cases step with
  | fire other =>
      rw [List.mem_singleton.mp given]
      rfl
  | dispatch => cases given
  | boardEnableIrq =>
      rcases List.mem_map.mp given with ⟨obj, _, rfl⟩
      rfl
  | boardDisableIrq =>
      rcases List.mem_map.mp given with ⟨obj, _, rfl⟩
      rfl

theorem numbered_asked (past : List (RadioCall × Reply Handler)) :
    hal.Numbered (hal.machine.run hal.initial (radio.asked pins past)) := by
  refine ⟨radio.asked pins past, rfl, ?_⟩
  intro pin arg call member found
  rcases List.mem_append.mp member with registration | later
  · rcases List.mem_flatMap.mp registration with ⟨line, _, given⟩
    exact (argFor_of_mem_registers pins given found).2
  · rcases List.mem_flatMap.mp later with ⟨answered, _, given⟩
    rw [radio.argFor_of_mem_asks pins given] at found
    cases found

/-- The HAL is asked to register the armed pins, and later neither to register nor to release
one. -/
theorem argFor_asked (past : List (RadioCall × Reply Handler)) (pin : Nat) :
    latest (HalCall.argFor pin) (radio.asked pins past) =
      if radio.Armed pins pin then some (irqn pin) else none := by
  have quiet : latest (HalCall.argFor pin) (past.flatMap (radio.asks pins)) = none := by
    apply latest_eq_none
    intro call member
    rcases List.mem_flatMap.mp member with ⟨answered, _, given⟩
    exact radio.argFor_of_mem_asks pins given pin
  rw [asked, latest_of_append, quiet, Option.none_or]
  apply latest_registrations
  · intro line call given other found
    exact argFor_of_mem_registers pins given found
  · intro line internal same
    refine ⟨_, (mem_registers pins).mpr ⟨internal, .inl rfl⟩, ?_⟩
    simp [HalCall.argFor, same]

/-- The last switch of a pin: by `board.c`, or before that by its registration. -/
theorem switchOf_asked (past : List (RadioCall × Reply Handler)) (pin : Nat) :
    latest (HalCall.switchOf pin) (radio.asked pins past) =
      (latest (radio.switched pins pin) past).or
        (if radio.Armed pins pin then some true else none) := by
  have board : latest (HalCall.switchOf pin) (past.flatMap (radio.asks pins)) =
      latest (radio.switched pins pin) past := by
    apply latest_flatMap
    intro answered
    rcases answered with ⟨step, reply⟩
    cases step with
    | fire other => simp [asks, switched, HalCall.switchOf, latest]
    | dispatch => simp [asks, switched]
    | boardEnableIrq => exact radio.latest_switches pins .gpioIrqEnable true pin fun _ => rfl
    | boardDisableIrq => exact radio.latest_switches pins .gpioIrqDisable false pin fun _ => rfl
  rw [asked, latest_of_append, board]
  congr 1
  apply latest_registrations
  · intro line call given other found
    rcases (mem_registers pins).mp given with ⟨_, rfl | rfl⟩
    · cases found
    · simp only [HalCall.switchOf, Option.ite_none_right_eq_some, Option.some.injEq] at found
      exact ⟨found.1, found.2.symm⟩
  · intro line internal same
    refine ⟨_, (mem_registers pins).mpr ⟨internal, .inr rfl⟩, ?_⟩
    simp [HalCall.switchOf, same]

end Radio

/-! ## Any run after the registration -/

/-- The table is as the registrations left it, the HAL has been asked what the history says,
and the handlers that were run, with those of the queue, are those of the edges heard. -/
structure Routed (radio : Radio Handler) (past : List (RadioCall × Reply Handler))
    (state : State Handler HalState) : Prop where
  table : ∀ irq, state.gpioIrq irq = radio.handlerOn pins irq
  hal : state.hal = hal.machine.run hal.initial (radio.asked pins past)
  order : past.filterMap Radio.invokedBy ++ state.queue.map (radio.handlerOn pins) =
    (past.filterMap Radio.heardOn).map fun pin => radio.handlerOn pins (irqn pin)

namespace Routed

variable {pins : Pins} {hal : Hal HalState} {radio : Radio Handler}
  {past : List (RadioCall × Reply Handler)} {state : State Handler HalState}

theorem initial (pins : Pins) (hal : Hal HalState) (radio : Radio Handler) :
    Routed pins hal radio [] (radio.ready pins hal) where
  table irq := radio.gpioIrq_ioIrqInit pins hal (.initial hal) irq
  hal := by
    rw [Radio.asked, List.flatMap_nil, List.append_nil]
    exact radio.hal_ioIrqInit pins hal (.initial hal)
  order := rfl

theorem filterMap_one {Item Value : Type*} (select : Item → Option Value) (item : Item) :
    [item].filterMap select = (select item).toList := by
  cases selected : select item <;> simp [selected]

/-- A step that leaves the table alone. -/
theorem keep (routed : Routed pins hal radio past state) {next : State Handler HalState}
    {answered : RadioCall × Reply Handler} (table : next.gpioIrq = state.gpioIrq)
    (asked : next.hal = hal.machine.run state.hal (radio.asks pins answered))
    (order : past.filterMap Radio.invokedBy ++
        ((Radio.invokedBy answered).toList ++ next.queue.map (radio.handlerOn pins)) =
      (past.filterMap Radio.heardOn ++ (Radio.heardOn answered).toList).map
        fun pin => radio.handlerOn pins (irqn pin)) :
    Routed pins hal radio (past ++ [answered]) next where
  table irq := by
    rw [table]
    exact routed.table irq
  hal := by
    rw [asked, routed.hal, ← Machine.run_append, Radio.asked, Radio.asked, List.flatMap_append,
      List.flatMap_singleton, List.append_assoc]
  order := by
    rw [List.filterMap_append, List.filterMap_append, filterMap_one, filterMap_one,
      List.append_assoc]
    exact order

/-- A step that neither hears an edge nor runs a handler. -/
theorem quiet (routed : Routed pins hal radio past state) {next : State Handler HalState}
    {answered : RadioCall × Reply Handler} (table : next.gpioIrq = state.gpioIrq)
    (asked : next.hal = hal.machine.run state.hal (radio.asks pins answered))
    (queue : next.queue = state.queue) (unheard : Radio.heardOn answered = none)
    (idle : Radio.invokedBy answered = none) :
    Routed pins hal radio (past ++ [answered]) next := by
  apply routed.keep table asked
  rw [queue, unheard, idle, Option.toList_none, List.nil_append, Option.toList_none,
    List.append_nil]
  exact routed.order

theorem next (routed : Routed pins hal radio past state) (call : RadioCall) :
    Routed pins hal radio (past ++ [(call, (radio.interrupts pins hal).reply state call)])
      ((radio.interrupts pins hal).next state call) := by
  cases call with
  | fire pin =>
      have numbered : hal.Numbered state.hal := by
        rw [routed.hal]
        exact radio.numbered_asked pins hal past
      have step : (radio.interrupts pins hal).step state (.fire pin) = state.fire hal pin := rfl
      have asked : (state.fire hal pin).1.hal = hal.machine.next state.hal (.edge pin) := by
        unfold State.fire
        cases hal.machine.reply state.hal (.edge pin) <;> rfl
      rw [Machine.reply, Machine.next, step]
      rcases numbered.fire_cases pin with ⟨_, table, ⟨queue, reply⟩ | ⟨queue, reply⟩⟩
      · rw [reply]
        exact routed.quiet table asked queue rfl rfl
      · refine routed.keep table asked ?_
        rw [queue, reply, List.map_append, List.map_append, ← routed.order]
        simp [Radio.invokedBy, Radio.heardOn]
  | dispatch =>
      have step : (radio.interrupts pins hal).step state .dispatch = state.dispatch := rfl
      rw [Machine.reply, Machine.next, step]
      unfold State.dispatch
      split
      next empty =>
        exact routed.quiet rfl rfl rfl rfl rfl
      next irq rest queue =>
        have order := routed.order
        rw [queue, List.map_cons] at order
        refine routed.keep rfl rfl ?_
        simpa [Radio.invokedBy, Radio.heardOn, Lines.handlerWrapper, routed.table] using order
  | boardEnableIrq =>
      have switched : state.toLines.boardEnableIrq pins hal radio.objects =
          { state.toLines with
            hal := hal.machine.run state.hal (radio.switches pins .gpioIrqEnable) } :=
        radio.foldl_switch pins hal .gpioIrqEnable (fun _ _ => rfl) state.toLines
      simp only [Machine.reply, Machine.next, Radio.interrupts, switched]
      exact routed.quiet rfl rfl rfl rfl rfl
  | boardDisableIrq =>
      have switched : state.toLines.boardDisableIrq pins hal radio.objects =
          { state.toLines with
            hal := hal.machine.run state.hal (radio.switches pins .gpioIrqDisable) } :=
        radio.foldl_switch pins hal .gpioIrqDisable (fun _ _ => rfl) state.toLines
      simp only [Machine.reply, Machine.next, Radio.interrupts, switched]
      exact routed.quiet rfl rfl rfl rfl rfl

end Routed

/-- A radio whose first two DIOs have one line, on a HAL that knows one pin for each line. -/
example :
    let dio : Fin 6 → Gpio := fun i => ⟨[0x05, 0x15, 0x02, 0x03, 0x04, 0xFF].get i, 1⟩
    let radio := sx127x dio fun i => some i.val
    ((radio.interrupts ⟨0xFF, 0x50⟩ lineHal).trace (radio.ready ⟨0xFF, 0x50⟩ lineHal)
        [.fire 0x05, .boardDisableIrq, .fire 0x15, .boardEnableIrq, .fire 0x15, .dispatch,
          .dispatch]).map Prod.snd =
      [.unheard, .done, .unheard, .done, .posted, .dispatched 5 (some 1), .empty] := by
  decide

end Lorawan.Interrupts
