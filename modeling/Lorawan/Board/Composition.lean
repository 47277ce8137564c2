import Lorawan.Board.EventQueue
import Lorawan.Library.Components

/-! # Timers and interrupts on one queue

The timers and the interrupts were each described with an event queue of their own. They
share the queue of the LoRaWAN task, and the descriptions stay right: cancelling a timer
removes its own event only, and the events of either kind are handled in the order in which
they were queued. -/

namespace Lorawan.Board

open Timers (CalloutEvent Fault TimerState)
open Interrupts (Hal Pins)

variable {Handler HalState : Type}

def Event.osTim? : Event → Option Nat
  | .callout osTim => some osTim
  | .pin _ => none

def Event.irqn? : Event → Option (Fin 16)
  | .callout _ => none
  | .pin irqn => some irqn

/-- The same timers with the events of callouts alone. -/
def calloutsOnly (state : TimerState Event) : Timers.State where
  lTimList := state.lTimList
  objects := state.objects
  callouts := state.callouts
  calloutBlocks := state.calloutBlocks
  evq := state.evq.filterMap Event.osTim?

/-- The timers alone, with their events. -/
def State.timers (state : State Handler HalState) : Timers.State :=
  calloutsOnly state.toTimerState

/-- The interrupts alone, with their events. -/
def State.interrupts (state : State Handler HalState) : Interrupts.State Handler HalState where
  toLines := state.toLines
  queue := state.evq.filterMap Event.irqn?

/-! ## What a function of `timer.c` does to the shared queue -/

/-- On the timers the function does what it does with a queue of their own, and it takes at
most events of callouts out of the queue. -/
inductive Follows (state : TimerState Event) :
    Except Fault (TimerState Event) → Except Fault Timers.State → Prop
  | ok {next : TimerState Event} {viewed : Timers.State} (sameTimers : calloutsOnly next = viewed)
      (samePins : next.evq.filterMap Event.irqn? = state.evq.filterMap Event.irqn?)
      (fewer : next.evq.Sublist state.evq) : Follows state (.ok next) (.ok viewed)
  | error (fault : Fault) : Follows state (.error fault) (.error fault)

namespace Follows

variable {state : TimerState Event} {result : Except Fault (TimerState Event)}
  {viewed : Except Fault Timers.State}

theorem refl (state : TimerState Event) : Follows state (.ok state) (.ok (calloutsOnly state)) :=
  .ok rfl rfl (List.Sublist.refl _)

/-- A function that continues after another one. -/
theorem bind (first : Follows state result viewed)
    {second : TimerState Event → Except Fault (TimerState Event)}
    {viewedSecond : Timers.State → Except Fault Timers.State}
    (continues : ∀ next, Follows next (second next) (viewedSecond (calloutsOnly next))) :
    Follows state (result >>= second) (viewed >>= viewedSecond) := by
  cases first with
  | error fault => exact .error fault
  | @ok next _ sameTimers samePins fewer =>
      subst sameTimers
      change Follows state (second next) (viewedSecond (calloutsOnly next))
      have rest := continues next
      generalize second next = result, viewedSecond (calloutsOnly next) = viewed at rest ⊢
      cases rest with
      | error fault => exact .error fault
      | ok sameTimers again fewerAgain =>
          exact .ok sameTimers (again.trans samePins) (fewerAgain.trans fewer)

/-- A function that looks something up first. -/
theorem bindLookup {Found : Type} (lookup : Except Fault Found)
    {second : Found → Except Fault (TimerState Event)}
    {viewedSecond : Found → Except Fault Timers.State}
    (continues : ∀ found, Follows state (second found) (viewedSecond found)) :
    Follows state (lookup >>= second) (lookup >>= viewedSecond) := by
  cases lookup with
  | error fault => exact .error fault
  | ok found => exact continues found

end Follows

section Functions

variable (state : TimerState Event) (obj osTim : Nat)

theorem mem_evq_calloutsOnly :
    osTim ∈ (calloutsOnly state).evq ↔ CalloutEvent.ofCallout osTim ∈ state.evq := by
  change osTim ∈ state.evq.filterMap Event.osTim? ↔ Event.callout osTim ∈ state.evq
  rw [List.mem_filterMap]
  constructor
  · intro found
    rcases found with ⟨ev, member, same⟩
    cases ev with
    | callout other =>
        cases same
        exact member
    | pin _ => cases same
  · intro member
    exact ⟨.callout osTim, member, rfl⟩

theorem osCalloutInit_follows (evArg : Timers.Callback) :
    Follows state (Timers.osCalloutInit state osTim evArg)
      (Timers.osCalloutInit (calloutsOnly state) osTim evArg) := by
  have sameLinked : (((calloutsOnly state).callouts osTim).armed.isSome ∨
        osTim ∈ (calloutsOnly state).evq) ↔
      ((state.callouts osTim).armed.isSome ∨ CalloutEvent.ofCallout osTim ∈ state.evq) :=
    or_congr Iff.rfl (mem_evq_calloutsOnly state osTim)
  unfold Timers.osCalloutInit
  rw [Timers.ofCallout_eq]
  by_cases linked : (state.callouts osTim).armed.isSome ∨
      CalloutEvent.ofCallout osTim ∈ state.evq
  · rw [if_pos linked, if_pos (sameLinked.mpr linked)]
    exact .error _
  · rw [if_neg linked, if_neg fun viewed => linked (sameLinked.mp viewed)]
    exact .ok rfl rfl (List.Sublist.refl _)

theorem osCalloutReset_follows (ticks : BitVec 32) :
    Follows state (.ok (Timers.osCalloutReset state osTim ticks))
      (.ok (Timers.osCalloutReset (calloutsOnly state) osTim ticks)) := by
  unfold Timers.osCalloutReset
  split
  · exact .ok rfl rfl (List.Sublist.refl _)
  · exact .refl state

theorem setObject_follows (event : Timers.TimerEvent) :
    Follows state (.ok (state.setObject obj event))
      (.ok ((calloutsOnly state).setObject obj event)) :=
  .ok rfl rfl (List.Sublist.refl _)

theorem filterMap_osTim_filter (queue : List Event) :
    (queue.filter (· ≠ .callout osTim)).filterMap Event.osTim? =
      (queue.filterMap Event.osTim?).filter (· ≠ osTim) := by
  induction queue with
  | nil => rfl
  | cons ev rest induction =>
      cases ev with
      | callout other =>
          by_cases same : other = osTim
          · simp [same, Event.osTim?] at induction ⊢
            exact induction
          · simp [same, Event.osTim?] at induction ⊢
            exact induction
      | pin irqn =>
          simp [Event.osTim?] at induction ⊢
          exact induction

theorem filterMap_irqn_filter (queue : List Event) :
    (queue.filter (· ≠ .callout osTim)).filterMap Event.irqn? =
      queue.filterMap Event.irqn? := by
  induction queue with
  | nil => rfl
  | cons ev rest induction =>
      cases ev with
      | callout other =>
          by_cases same : other = osTim
          · simp [same, Event.irqn?] at induction ⊢
            exact induction
          · simp [same, Event.irqn?] at induction ⊢
            exact induction
      | pin irqn =>
          simp [Event.irqn?] at induction ⊢
          exact induction

theorem osCalloutStop_follows :
    Follows state (Timers.osCalloutStop state osTim)
      (Timers.osCalloutStop (calloutsOnly state) osTim) := by
  unfold Timers.osCalloutStop
  change Follows state _ (if (state.callouts osTim).initialised then _ else _)
  split
  · apply Follows.ok
    · let stopped (evq : List Nat) : Timers.State :=
        { calloutsOnly state with
          callouts :=
            Function.update state.callouts osTim { state.callouts osTim with armed := none }
          evq }
      exact congrArg stopped (filterMap_osTim_filter osTim state.evq)
    · exact filterMap_irqn_filter osTim state.evq
    · exact List.filter_sublist
  · exact .error _

/-! ## The functions of `timer.c` -/

theorem timerInit_follows (callback : Timers.Callback) (allocated : Bool) :
    Follows state (Timers.timerInit state obj callback allocated)
      (Timers.timerInit (calloutsOnly state) obj callback allocated) := by
  unfold Timers.timerInit
  change Follows state _ (if (state.lTimList.any fun sc => sc.obj == obj) = true then _ else _)
  split
  · exact .error _
  · split
    · exact .ok rfl rfl (List.Sublist.refl _)
    · exact .error _

theorem timerStop_follows :
    Follows state (Timers.timerStop state obj) (Timers.timerStop (calloutsOnly state) obj) := by
  apply Follows.bindLookup (Timers.findTimerEl state obj)
  intro el
  change Follows state _ (if (state.objects obj).isRunning = true then _ else _)
  split
  · apply (osCalloutStop_follows state el.osTim).bind
    intro next
    exact setObject_follows next obj _
  · exact .refl state

theorem stopIfRunning_follows :
    Follows state (Timers.stopIfRunning state obj)
      (Timers.stopIfRunning (calloutsOnly state) obj) := by
  unfold Timers.stopIfRunning
  change Follows state _ (if (state.objects obj).isRunning = true then _ else _)
  split
  · exact timerStop_follows state obj
  · exact .refl state

theorem timerStart_follows :
    Follows state (Timers.timerStart state obj) (Timers.timerStart (calloutsOnly state) obj) := by
  apply (stopIfRunning_follows state obj).bind
  intro stopped
  apply Follows.bindLookup (Timers.findTimerEl stopped obj)
  intro el
  apply (osCalloutInit_follows stopped el.osTim _).bind
  intro ready
  let started (event : Timers.TimerEvent) : Timers.TimerEvent := { event with isRunning := true }
  change Follows ready
    (.ok (Timers.osCalloutReset ready el.osTim (ready.objects el.obj).reloadValue) >>=
      fun state => .ok (state.setObject obj (started (state.objects obj))))
    (.ok (Timers.osCalloutReset (calloutsOnly ready) el.osTim
        (ready.objects el.obj).reloadValue) >>=
      fun state => .ok (state.setObject obj (started (state.objects obj))))
  apply (osCalloutReset_follows ready el.osTim _).bind
  intro armed
  exact setObject_follows armed obj _

theorem timerSetValue_follows (value : BitVec 32) :
    Follows state (Timers.timerSetValue state obj value)
      (Timers.timerSetValue (calloutsOnly state) obj value) := by
  apply Follows.bindLookup (Timers.findTimerEl state obj)
  intro el
  apply (stopIfRunning_follows state obj).bind
  intro stopped
  exact setObject_follows stopped el.obj _

theorem timerReset_follows :
    Follows state (Timers.timerReset state obj) (Timers.timerReset (calloutsOnly state) obj) := by
  apply (timerStop_follows state obj).bind
  intro stopped
  exact timerStart_follows stopped obj

end Functions

/-! ## One step -/

/-- The reply of a timer function alone. -/
def Reply.ofTimers : Reply Handler → Timers.Reply
  | .fault failure => .fault failure
  | _ => .done

/-- What the timers do in a step of the board. -/
def timerEvents : Call Handler × Reply Handler → List (Timers.Call × Timers.Reply)
  | (.timerInit obj callback allocated, reply) =>
      [(.init obj callback allocated, reply.ofTimers)]
  | (.timerStart obj, reply) => [(.start obj, reply.ofTimers)]
  | (.timerStop obj, reply) => [(.stop obj, reply.ofTimers)]
  | (.timerSetValue obj value, reply) => [(.setValue obj value, reply.ofTimers)]
  | (.timerReset obj, reply) => [(.reset obj, reply.ofTimers)]
  | (.tick, _) => [(.tick, .done)]
  | (.expire obj, _) => [(.expire obj, .done)]
  | (.dispatch, .invoked _ owner callback) => [(.dispatch, .invoked owner callback)]
  | _ => []

/-- What the interrupts do in it. A `post_token` that fails its assertion does not return. -/
def interruptEvents :
    Call Handler × Reply Handler → List (Interrupts.Call Handler × Interrupts.Reply Handler)
  | (.gpioSetInterrupt obj irqMode irqHandler, _) =>
      [(.setInterrupt obj irqMode irqHandler, .done)]
  | (.gpioRemoveInterrupt obj, _) => [(.removeInterrupt obj, .done)]
  | (.fire pin _, .posted _) => [(.fire pin, .posted)]
  | (.fire pin _, .done) => [(.fire pin, .unheard)]
  | (.dispatch, .dispatched irqn handler) => [(.dispatch, .dispatched irqn handler)]
  | _ => []

theorem Follows.answer {state : State Handler HalState}
    {result : Except Fault (TimerState Event)} {viewed : Except Fault Timers.State}
    (follows : Follows state.toTimerState result viewed) :
    Timers.answer state.timers viewed =
        ((answer state result).1.timers, (answer state result).2.ofTimers) ∧
      (answer state result).1.interrupts = state.interrupts ∧
      (answer state result).1.evq.Sublist state.evq := by
  cases follows with
  | error fault => exact ⟨rfl, rfl, List.Sublist.refl _⟩
  | ok sameTimers samePins fewer =>
      refine ⟨by rw [← sameTimers]; rfl, ?_, fewer⟩
      exact congrArg (Interrupts.State.mk state.toLines) samePins

section Steps

variable (hal : Hal HalState) (pins : Pins) (state : State Handler HalState)

/-- An interrupt is unheard, or fails to allocate its event, or posts it. -/
theorem fire_cases (pin : Nat) (allocated : Bool) :
    (hal.machine.reply state.hal (.edge pin) = none ∧
        fire hal state pin allocated =
          ({ state with toLines := state.toLines.halCall hal (.edge pin) }, .done)) ∨
      fire hal state pin allocated = (state, .fault .assertFailed) ∨
      ∃ arg, hal.machine.reply state.hal (.edge pin) = some arg ∧
        fire hal state pin allocated =
          ({ state with
              toLines := state.toLines.halCall hal (.edge pin)
              evq := state.evq ++ [.pin arg] }, .posted (.pin arg)) := by
  unfold fire
  cases hal.machine.reply state.hal (.edge pin) with
  | none => exact .inl ⟨rfl, rfl⟩
  | some arg =>
      cases allocated with
      | false => exact .inr (.inl rfl)
      | true => exact .inr (.inr ⟨arg, rfl, rfl⟩)

/-- Nothing is due, or the event of one callout is added to the queue. -/
theorem expire_cases (obj : Nat) :
    ((expire state obj).1.evq = state.evq ∧ (expire state obj).2 = .done) ∨
      ∃ osTim, (expire state obj).1.evq = state.evq ++ [.callout osTim] ∧
        (expire state obj).2 = .posted (.callout osTim) := by
  unfold expire Timers.expire
  cases state.due obj with
  | none => exact .inl ⟨rfl, rfl⟩
  | some el => exact .inr ⟨el.osTim, rfl, rfl⟩

theorem dispatch_cases :
    (state.evq = [] ∧ (board hal pins).step state .dispatch = (state, .done)) ∨
      ∃ ev rest, state.evq = ev :: rest ∧
        (board hal pins).step state .dispatch =
          ({ state with evq := rest }, wrapper state ev) := by
  cases queue : state.evq with
  | nil => exact .inl ⟨rfl, by simp [board, lorawanEventqThread, queue]⟩
  | cons ev rest => exact .inr ⟨ev, rest, rfl, by simp [board, lorawanEventqThread, queue]⟩

theorem timers_expire (obj : Nat) :
    (expire state obj).1.timers = Timers.expire state.timers obj := by
  have sameDue : state.timers.due obj = state.due obj := rfl
  unfold expire Timers.expire
  rw [sameDue]
  cases state.due obj with
  | none => rfl
  | some el =>
      simp only [State.timers, calloutsOnly, List.filterMap_append]
      rfl

theorem timers_performs (call : Call Handler) :
    Timers.timers.Performs state.timers (timerEvents (call, (board hal pins).reply state call))
      ((board hal pins).next state call).timers := by
  cases call with
  | timerInit obj callback allocated =>
      exact .one (timerInit_follows _ obj callback allocated).answer.1
  | timerStart obj => exact .one (timerStart_follows _ obj).answer.1
  | timerStop obj => exact .one (timerStop_follows _ obj).answer.1
  | timerSetValue obj value => exact .one (timerSetValue_follows _ obj value).answer.1
  | timerReset obj => exact .one (timerReset_follows _ obj).answer.1
  | gpioSetInterrupt obj irqMode irqHandler => exact .nil rfl
  | gpioRemoveInterrupt obj => exact .nil rfl
  | tick => exact .one rfl
  | expire obj =>
      apply Machine.Performs.one
      exact Prod.ext (timers_expire state obj).symm rfl
  | fire pin allocated =>
      apply Machine.Performs.nil
      change _ = (fire hal state pin allocated).1.timers
      rcases fire_cases hal state pin allocated with ⟨_, fired⟩ | fired | ⟨arg, _, fired⟩
      · rw [fired]
        rfl
      · rw [fired]
      · rw [fired]
        simp [State.timers, calloutsOnly, Event.osTim?]
  | dispatch =>
      rcases dispatch_cases hal pins state with ⟨_, idle⟩ | ⟨ev, rest, queue, taken⟩
      · rw [Machine.reply, Machine.next, idle]
        exact .nil rfl
      · rw [Machine.reply, Machine.next, taken]
        cases ev with
        | callout osTim =>
            apply Machine.Performs.one
            change Timers.dispatch state.timers = _
            simp [Timers.dispatch, State.timers, calloutsOnly, queue, Event.osTim?,
              TimerState.owner]
        | pin irqn =>
            apply Machine.Performs.nil
            simp only [State.timers, calloutsOnly, queue]
            rfl

theorem interrupts_performs (call : Call Handler) :
    (Interrupts.interrupts hal pins).Performs state.interrupts
      (interruptEvents (call, (board hal pins).reply state call))
      ((board hal pins).next state call).interrupts := by
  cases call with
  | timerInit obj callback allocated =>
      exact .nil (timerInit_follows _ obj callback allocated).answer.2.1.symm
  | timerStart obj => exact .nil (timerStart_follows _ obj).answer.2.1.symm
  | timerStop obj => exact .nil (timerStop_follows _ obj).answer.2.1.symm
  | timerSetValue obj value => exact .nil (timerSetValue_follows _ obj value).answer.2.1.symm
  | timerReset obj => exact .nil (timerReset_follows _ obj).answer.2.1.symm
  | gpioSetInterrupt obj irqMode irqHandler => exact .one rfl
  | gpioRemoveInterrupt obj => exact .one rfl
  | tick => exact .nil rfl
  | expire obj =>
      apply Machine.Performs.nil
      apply congrArg (Interrupts.State.mk state.toLines)
      change _ = (expire state obj).1.evq.filterMap Event.irqn?
      rcases expire_cases state obj with ⟨unchanged, _⟩ | ⟨osTim, added, _⟩
      · rw [unchanged]
      · rw [added]
        simp [Event.irqn?]
  | fire pin allocated =>
      change (Interrupts.interrupts hal pins).Performs _
        (interruptEvents (.fire pin allocated, (fire hal state pin allocated).2))
        (fire hal state pin allocated).1.interrupts
      rcases fire_cases hal state pin allocated with ⟨unheard, fired⟩ | fired | ⟨arg, heard, fired⟩
      · rw [fired]
        apply Machine.Performs.one
        change state.interrupts.fire hal pin = _
        have same : hal.machine.reply state.interrupts.hal (.edge pin) = none := unheard
        simp only [Interrupts.State.fire, same]
        rfl
      · rw [fired]
        exact .nil rfl
      · rw [fired]
        apply Machine.Performs.one
        change state.interrupts.fire hal pin = _
        have same : hal.machine.reply state.interrupts.hal (.edge pin) = some arg := heard
        simp only [Interrupts.State.fire, same]
        simp only [State.interrupts, List.filterMap_append]
        rfl
  | dispatch =>
      rcases dispatch_cases hal pins state with ⟨_, idle⟩ | ⟨ev, rest, queue, taken⟩
      · rw [Machine.reply, Machine.next, idle]
        exact .nil rfl
      · rw [Machine.reply, Machine.next, taken]
        cases ev with
        | callout osTim =>
            apply Machine.Performs.nil
            simp only [State.interrupts, queue]
            rfl
        | pin irqn =>
            apply Machine.Performs.one
            change state.interrupts.dispatch = _
            simp [Interrupts.State.dispatch, State.interrupts, queue, Event.irqn?]

end Steps

/-! ## Whole runs -/

section Runs

variable (hal : Hal HalState) (pins : Pins)

def timersPart (Handler : Type) :
    Machine.Component
      (board hal pins : Machine (State Handler HalState) (Call Handler) (Reply Handler))
      Timers.timers :=
  .ofEvents State.timers timerEvents (timers_performs hal pins)

def interruptsPart (Handler : Type) :
    Machine.Component
      (board hal pins : Machine (State Handler HalState) (Call Handler) (Reply Handler))
      (Interrupts.interrupts hal pins :
        Machine (Interrupts.State Handler HalState) (Interrupts.Call Handler)
          (Interrupts.Reply Handler)) :=
  .ofEvents State.interrupts interruptEvents (interrupts_performs hal pins)

/-- The history of the board is made of a history of the timers and one of the interrupts,
each as if it had a queue of its own. -/
theorem board_composes (objects : Nat → Timers.TimerEvent) (calls : List (Call Handler)) :
    let past := (board hal pins).trace (.initial hal objects) calls
    let state := (board hal pins).run (.initial hal objects) calls
    Timers.timers.Performs (.initial objects) (past.flatMap timerEvents) state.timers ∧
      (Interrupts.interrupts hal pins).Performs (.initial hal) (past.flatMap interruptEvents)
        state.interrupts := by
  intro past state
  have timersObserved : (timersPart hal pins Handler).Observes timerEvents :=
    fun state call => (timers_performs hal pins state call).1
  have interruptsObserved : (interruptsPart hal pins Handler).Observes interruptEvents :=
    fun state call => (interrupts_performs hal pins state call).1
  exact ⟨(timersPart hal pins Handler).performs_run timersObserved calls (.initial hal objects),
    (interruptsPart hal pins Handler).performs_run interruptsObserved calls
      (.initial hal objects)⟩

end Runs

/-! ## The order of the events -/

def postedBy (event : Call Handler × Reply Handler) : Option Event :=
  match event.2 with
  | .posted ev => some ev
  | _ => none

def handledBy (event : Call Handler × Reply Handler) : Option Event :=
  match event.2 with
  | .invoked osTim _ _ => some (.callout osTim)
  | .dispatched irqn _ => some (.pin irqn)
  | _ => none

/-- The events that were put into the queue, oldest first. -/
def posted (past : List (Call Handler × Reply Handler)) : List Event :=
  past.filterMap postedBy

/-- The events that the task has run, oldest first. -/
def handled (past : List (Call Handler × Reply Handler)) : List Event :=
  past.filterMap handledBy

/-- Nothing overtakes, and only callouts are taken out before they are handled. -/
structure InOrder (put : List Event) (taken : List Event) : Prop where
  sublist : taken.Sublist put
  pins : taken.filterMap Event.irqn? = put.filterMap Event.irqn?

namespace InOrder

theorem refl (events : List Event) : InOrder events events := ⟨List.Sublist.refl _, rfl⟩

/-- A step that neither posts nor handles anything. -/
theorem quiet {before after : List Event} (same : after = before) :
    InOrder (before ++ []) ([] ++ after) := by
  rw [List.append_nil, List.nil_append, same]
  exact refl before

theorem append {put taken : List Event} (order : InOrder put taken) (before after : List Event) :
    InOrder (before ++ put ++ after) (before ++ taken ++ after) where
  sublist := ((List.Sublist.refl before).append order.sublist).append (List.Sublist.refl after)
  pins := by simp only [List.filterMap_append, order.pins]

theorem trans {put middle taken : List Event} (first : InOrder put middle)
    (second : InOrder middle taken) : InOrder put taken :=
  ⟨second.sublist.trans first.sublist, second.pins.trans first.pins⟩

end InOrder

theorem Follows.inOrder {state : State Handler HalState}
    {result : Except Fault (TimerState Event)} {viewed : Except Fault Timers.State}
    (follows : Follows state.toTimerState result viewed) (call : Call Handler) :
    InOrder (state.evq ++ posted [(call, (Board.answer state result).2)])
      (handled [(call, (Board.answer state result).2)] ++ (Board.answer state result).1.evq) := by
  have answered := follows.answer
  have nothing : posted [(call, (Board.answer state result).2)] = [] ∧
      handled [(call, (Board.answer state result).2)] = [] := by
    cases result <;> exact ⟨rfl, rfl⟩
  rw [nothing.1, nothing.2, List.append_nil, List.nil_append]
  exact ⟨answered.2.2, congrArg Interrupts.State.queue answered.2.1⟩

theorem evq_next (hal : Hal HalState) (pins : Pins) (state : State Handler HalState)
    (call : Call Handler) :
    InOrder (state.evq ++ posted [(call, (board hal pins).reply state call)])
      (handled [(call, (board hal pins).reply state call)] ++
        ((board hal pins).next state call).evq) := by
  cases call with
  | timerInit obj callback allocated =>
      exact (timerInit_follows _ obj callback allocated).inOrder _
  | timerStart obj => exact (timerStart_follows _ obj).inOrder _
  | timerStop obj => exact (timerStop_follows _ obj).inOrder _
  | timerSetValue obj value => exact (timerSetValue_follows _ obj value).inOrder _
  | timerReset obj => exact (timerReset_follows _ obj).inOrder _
  | gpioSetInterrupt obj irqMode irqHandler => exact .quiet rfl
  | gpioRemoveInterrupt obj => exact .quiet rfl
  | tick => exact .quiet rfl
  | expire obj =>
      change InOrder (_ ++ posted [(_, (expire state obj).2)])
        (handled [(_, (expire state obj).2)] ++ (expire state obj).1.evq)
      rcases expire_cases state obj with ⟨unchanged, reply⟩ | ⟨osTim, added, reply⟩
      · rw [unchanged, reply]
        exact .quiet rfl
      · rw [added, reply]
        exact .refl _
  | fire pin allocated =>
      change InOrder (_ ++ posted [(_, (fire hal state pin allocated).2)])
        (handled [(_, (fire hal state pin allocated).2)] ++
          (fire hal state pin allocated).1.evq)
      rcases fire_cases hal state pin allocated with ⟨_, fired⟩ | fired | ⟨arg, _, fired⟩
      · rw [fired]
        exact .quiet rfl
      · rw [fired]
        exact .quiet rfl
      · rw [fired]
        exact .refl _
  | dispatch =>
      rcases dispatch_cases hal pins state with ⟨_, idle⟩ | ⟨ev, rest, queue, taken⟩
      · rw [Machine.reply, Machine.next, idle]
        exact .quiet rfl
      · rw [Machine.reply, Machine.next, taken, queue]
        cases ev with
        | callout osTim =>
            change InOrder (Event.callout osTim :: rest ++ []) (Event.callout osTim :: rest)
            rw [List.append_nil]
            exact .refl _
        | pin irqn =>
            change InOrder (Event.pin irqn :: rest ++ []) (Event.pin irqn :: rest)
            rw [List.append_nil]
            exact .refl _

end Lorawan.Board
