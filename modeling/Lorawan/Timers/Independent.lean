import Lorawan.Timers.Refinement

/-! # Runs of the timer module

The laws of one-shot timers, stated of the timer objects and the OS callouts
themselves. -/

namespace Lorawan.Timers

/-- The ticks left of the object's callout, while it is armed. -/
def State.armed (state : State) (obj : Nat) : Option Nat :=
  (state.el obj).bind fun el => (state.callouts el.osTim).armed

/-- The event of the object's callout is in the queue. -/
def State.Pending (state : State) (obj : Nat) : Prop :=
  ∃ el, state.el obj = some el ∧ el.osTim ∈ state.evq

/-- `TimerInit` comes once for each object and before its other calls, it gets its
memory, and delays fit an `int32_t`. -/
def State.Proper (state : State) : Call → Prop
  | .init obj _ allocated => state.el obj = none ∧ allocated = true
  | .start obj => (state.el obj).isSome = true
  | .stop obj => (state.el obj).isSome = true
  | .setValue obj value => (state.el obj).isSome = true ∧ value.toNat < 2 ^ 31
  | .reset obj => (state.el obj).isSome = true
  | .tick => True
  | .expire _ => True
  | .dispatch => True

/-- The object that a call of `timer.c` is about. -/
def Call.object : Call → Option Nat
  | .init obj _ _ => some obj
  | .start obj => some obj
  | .stop obj => some obj
  | .setValue obj _ => some obj
  | .reset obj => some obj
  | .tick => none
  | .expire _ => none
  | .dispatch => none

/-- What holds of a step from a state with the given history. -/
structure StepLaws (past : History) (state : State) (call : Call) : Prop where
  /-- No assertion fails, nothing hangs, and no callout is initialised while it is
  linked or stopped before it is initialised. -/
  no_fault : ∀ fault, timers.reply state call ≠ .fault fault
  /-- The callback invoked is the object's, and the last that happened to the object
  is a start: since then it was not stopped, set, reset, started again or invoked. -/
  invocation : ∀ owner callback, timers.reply state call = .invoked owner callback →
    ∃ obj, owner = some obj ∧ latest (touchOn obj) past = some .started ∧
      latest (callbackOn obj) past = some callback
  /-- A start arms the callout for the delay set last, and leaves no event queued. -/
  delay : ∀ obj, call = .start obj ∨ call = .reset obj →
    ∃ reload, latest (reloadOn obj) past = some reload ∧
      (timers.next state call).armed obj = some reload.toNat ∧
        ¬(timers.next state call).Pending obj
  /-- A call on one object leaves the others armed, pending or idle. -/
  independent : ∀ obj other, call.object = some obj → other ≠ obj →
    (timers.next state call).armed other = state.armed other ∧
      ((timers.next state call).Pending other ↔ state.Pending other)

/-! ## On one-shot timers -/

section OneShots

variable {past : History} {shots : OneShots}

theorem OneShots.no_fault (call : Call) (proper : shots.Proper call) (fault : Fault) :
    oneShots.reply shots call ≠ .fault fault := by
  have changeDone : ∀ obj (setting : OneShot → OneShot), (shots.timer obj).isSome = true →
      (shots.change obj setting).2 ≠ .fault fault := by
    intro obj setting known
    rcases Option.isSome_iff_exists.mp known with ⟨timer, found⟩
    simp [OneShots.change, found]
  cases call with
  | init obj callback allocated =>
      rcases proper with ⟨absent, rfl⟩
      change (shots.init obj callback true).2 ≠ _
      simp [OneShots.init, absent]
  | start obj => exact changeDone obj _ proper
  | stop obj => exact changeDone obj _ proper
  | setValue obj value => exact changeDone obj _ proper.1
  | reset obj => exact changeDone obj _ proper
  | tick => exact Reply.noConfusion
  | expire obj => exact Reply.noConfusion
  | dispatch =>
      change shots.dispatch.2 ≠ _
      unfold OneShots.dispatch
      split <;> simp

theorem Recorded.invocation (recorded : Recorded past shots) (call : Call)
    {owner : Option Nat} {callback : Callback}
    (invoked : oneShots.reply shots call = .invoked owner callback) :
    ∃ obj, owner = some obj ∧ latest (touchOn obj) past = some .started ∧
      latest (callbackOn obj) past = some callback := by
  have changeQuiet : ∀ obj (setting : OneShot → OneShot),
      (shots.change obj setting).2 ≠ .invoked owner callback := by
    intro obj setting
    unfold OneShots.change
    split <;> simp
  cases call with
  | init obj callback' allocated =>
      have quiet : (shots.init obj callback' allocated).2 ≠ .invoked owner callback := by
        unfold OneShots.init
        split
        · simp
        · split <;> simp
      exact absurd invoked quiet
  | start obj => exact absurd invoked (changeQuiet obj _)
  | stop obj => exact absurd invoked (changeQuiet obj _)
  | setValue obj value => exact absurd invoked (changeQuiet obj _)
  | reset obj => exact absurd invoked (changeQuiet obj _)
  | tick => exact Reply.noConfusion invoked
  | expire obj => exact Reply.noConfusion invoked
  | dispatch =>
      change shots.dispatch.2 = _ at invoked
      cases queue : shots.queue with
      | nil => simp [OneShots.dispatch, queue] at invoked
      | cons obj rest =>
          have member : obj ∈ shots.queue := by simp [queue]
          rcases Option.isSome_iff_exists.mp (recorded.queued_known obj member) with
            ⟨timer, found⟩
          have registered := recorded.callback obj
          simp only [OneShots.dispatch, queue, found, Option.elim_some, Reply.invoked.injEq]
            at invoked
          refine ⟨obj, invoked.1.symm, recorded.queued_started obj member, ?_⟩
          rw [← registered, found, ← invoked.2]
          rfl

theorem Recorded.delay (recorded : Recorded past shots) (call : Call) (proper : shots.Proper call)
    (obj : Nat) (starts : call = .start obj ∨ call = .reset obj) :
    ∃ reload, latest (reloadOn obj) past = some reload ∧
      ((oneShots.next shots call).timer obj).bind OneShot.armed = some reload.toNat ∧
        obj ∉ (oneShots.next shots call).queue := by
  have known : (shots.timer obj).isSome = true := by
    rcases starts with rfl | rfl
    · exact proper
    · exact proper
  rcases Option.isSome_iff_exists.mp known with ⟨timer, found⟩
  have next : oneShots.next shots call =
      shots.settle obj { timer with armed := timer.delay } := by
    have changed : (shots.change obj fun timer => { timer with armed := timer.delay }).1 =
        shots.settle obj { timer with armed := timer.delay } := by
      simp [OneShots.change, found]
    rcases starts with rfl | rfl
    · exact changed
    · exact changed
  refine ⟨timer.reload, ?_, ?_, ?_⟩
  · rw [← recorded.reload obj, found]
    rfl
  · have armed : timer.delay = some timer.reload.toNat :=
      if_pos (recorded.small obj timer found)
    rw [next]
    simp [OneShots.settle, armed]
  · rw [next]
    simp [OneShots.settle]

theorem OneShots.independent (shots : OneShots) (call : Call) {obj other : Nat}
    (about : call.object = some obj) (different : other ≠ obj) :
    (oneShots.next shots call).timer other = shots.timer other ∧
      (other ∈ (oneShots.next shots call).queue ↔ other ∈ shots.queue) := by
  have settled : ∀ timer, (shots.settle obj timer).timer other = shots.timer other ∧
      (other ∈ (shots.settle obj timer).queue ↔ other ∈ shots.queue) := by
    intro timer
    simp [OneShots.settle, different]
  have changed : ∀ setting : OneShot → OneShot,
      (shots.change obj setting).1.timer other = shots.timer other ∧
        (other ∈ (shots.change obj setting).1.queue ↔ other ∈ shots.queue) := by
    intro setting
    unfold OneShots.change
    split
    · exact ⟨rfl, Iff.rfl⟩
    · exact settled _
  cases call with
  | init obj' callback allocated =>
      rcases Option.some.inj about with rfl
      change (shots.init obj' callback allocated).1.timer other = _ ∧
        (_ ∈ (shots.init obj' callback allocated).1.queue ↔ _)
      unfold OneShots.init
      split
      · exact ⟨rfl, Iff.rfl⟩
      · split
        · exact settled _
        · exact ⟨rfl, Iff.rfl⟩
  | start obj' =>
      rcases Option.some.inj about with rfl
      exact changed _
  | stop obj' =>
      rcases Option.some.inj about with rfl
      exact changed _
  | setValue obj' value =>
      rcases Option.some.inj about with rfl
      exact changed _
  | reset obj' =>
      rcases Option.some.inj about with rfl
      exact changed _
  | tick => exact absurd about (by simp [Call.object])
  | expire _ => exact absurd about (by simp [Call.object])
  | dispatch => exact absurd about (by simp [Call.object])

end OneShots

/-! ## On timer objects -/

namespace State

variable {state : State}

theorem armed_eq (state : State) (obj : Nat) :
    state.armed obj = (state.view.timer obj).bind OneShot.armed := by
  cases found : state.el obj with
  | none => simp [armed, view, found]
  | some el =>
      simp only [armed, view, found]
      rfl

theorem Sound.pending_iff (sound : state.Sound) (obj : Nat) :
    state.Pending obj ↔ obj ∈ state.view.queue := by
  constructor
  · intro pending
    rcases pending with ⟨el, found, queued⟩
    rcases mem_of_el found with ⟨member, rfl⟩
    exact List.mem_filterMap.mpr ⟨el.osTim, queued, sound.owner_eq member⟩
  · intro queued
    rcases List.mem_filterMap.mp queued with ⟨osTim, held, owned⟩
    rcases Option.map_eq_some_iff.mp owned with ⟨el, found, rfl⟩
    have sameTim : el.osTim = osTim := by simpa using List.find?_some found
    exact ⟨el, sound.el_eq (List.mem_of_find?_eq_some found), sameTim ▸ held⟩

theorem proper_iff (state : State) (call : Call) :
    state.Proper call ↔ state.view.Proper call := by
  cases call <;> simp [State.Proper, OneShots.Proper, view]

end State

/-- The laws of one-shot timers hold of the objects they are the view of. -/
theorem stepLaws_of_recorded {past : History} {state : State} (sound : state.Sound)
    (recorded : Recorded past state.view) (call : Call) (proper : state.Proper call) :
    StepLaws past state call := by
  have viewProper := (state.proper_iff call).mp proper
  have reply := timerRefinement.reply_eq state call sound
  have next : (timers.next state call).view = oneShots.next state.view call :=
    timerRefinement.view_next state call sound
  have nextSound : (timers.next state call).Sound := timerRefinement.preserved state call sound
  change timers.reply state call = oneShots.reply state.view call at reply
  constructor
  case no_fault =>
    intro fault
    rw [reply]
    exact OneShots.no_fault call viewProper fault
  case invocation =>
    intro owner callback invoked
    rw [reply] at invoked
    exact recorded.invocation call invoked
  case delay =>
    intro obj starts
    rw [State.armed_eq, nextSound.pending_iff, next]
    exact recorded.delay call viewProper obj starts
  case independent =>
    intro obj other about different
    have kept := state.view.independent call about different
    rw [State.armed_eq, State.armed_eq, nextSound.pending_iff, sound.pending_iff, next, kept.1]
    exact ⟨rfl, kept.2⟩

/-- What the history of a proper run says about its last state. -/
theorem recorded_run (objects : Nat → TimerEvent) (calls : List Call)
    (proper : timers.Along State.Proper (State.initial objects) calls) :
    (timers.run (State.initial objects) calls).Sound ∧
      Recorded (timers.trace (State.initial objects) calls)
        (timers.run (State.initial objects) calls).view := by
  have start := State.Sound.initial objects
  have viewed : (timers.run (State.initial objects) calls).view =
      oneShots.run OneShots.initial calls :=
    timerRefinement.view_run calls (State.initial objects) start
  have traced : timers.trace (State.initial objects) calls =
      oneShots.trace OneShots.initial calls :=
    timerRefinement.trace_eq calls (State.initial objects) start
  have viewProper : oneShots.Along OneShots.Proper OneShots.initial calls :=
    (timerRefinement.along_iff (fun state call _ => state.proper_iff call) calls
      (State.initial objects) start).mp proper
  have recorded := oneShots.history_along Recorded
    (fun past shots call recorded proper => recorded.next call proper)
    calls [] OneShots.initial viewProper Recorded.initial
  have sound := timerRefinement.invariant_run calls (State.initial objects) start
  rw [viewed, traced]
  exact ⟨sound, recorded⟩

/-- At every step of every proper run. -/
theorem independent_one_shot_timers (objects : Nat → TimerEvent) (calls : List Call)
    (proper : timers.Along State.Proper (State.initial objects) calls)
    (before after : List Call) (call : Call) (split : calls = before ++ call :: after) :
    StepLaws (timers.trace (State.initial objects) before)
      (timers.run (State.initial objects) before) call := by
  rw [split, Machine.along_append] at proper
  rcases proper with ⟨earlier, now, _⟩
  rcases recorded_run objects before earlier with ⟨sound, recorded⟩
  exact stepLaws_of_recorded sound recorded call now

/-- Two timers, of which one is due and the other has a tick left, at the dispatch that runs
the callback of the first. -/
theorem independent_one_shot_timers_two_timers :
    let objects : Nat → TimerEvent := fun _ => ⟨0, 0, false, 0⟩
    let before : List Call :=
      [.init 3 9 true, .init 4 8 true, .setValue 3 2, .setValue 4 3, .start 3, .start 4, .tick,
        .tick, .expire 3]
    timers.reply (timers.run (State.initial objects) before) .dispatch = .invoked (some 3) 9 ∧
      StepLaws (timers.trace (State.initial objects) before)
        (timers.run (State.initial objects) before) .dispatch := by
  intro objects before
  refine ⟨by decide, independent_one_shot_timers objects
    (before ++ [.dispatch, .tick, .expire 4]) ?_ before [.tick, .expire 4] .dispatch rfl⟩
  exact ⟨⟨rfl, rfl⟩, ⟨rfl, rfl⟩, ⟨rfl, by decide⟩, ⟨rfl, by decide⟩, rfl, rfl, trivial, trivial,
    trivial, trivial, trivial, trivial, trivial⟩

end Lorawan.Timers
