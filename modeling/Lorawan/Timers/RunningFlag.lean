import Lorawan.Timers.Independent

/-! # What `IsRunning` tells

`TimerStart` puts the flag up, and `TimerStop` puts it down. When the time is up the
callback runs, and the timer has nothing left to run; the flag stays up. -/

namespace Lorawan.Timers

/-! ## What a step touches -/

theorem touchOn_eq_invoked_iff (obj : Nat) (call : Call) (reply : Reply) :
    touchOn obj (call, reply) = some .invoked ↔
      call = .dispatch ∧ ∃ callback, reply = .invoked (some obj) callback := by
  cases call with
  | dispatch =>
      cases reply with
      | invoked owner callback => cases owner <;> simp [touchOn]
      | done => simp [touchOn]
      | fault _ => simp [touchOn]
  | tick => cases reply <;> simp [touchOn]
  | expire _ => cases reply <;> simp [touchOn]
  | init _ _ _ => cases reply <;> simp [touchOn]
  | start _ => cases reply <;> simp [touchOn]
  | stop _ => cases reply <;> simp [touchOn]
  | setValue _ _ => cases reply <;> simp [touchOn]
  | reset _ => cases reply <;> simp [touchOn]

/-- Only calls that touch a timer set its delay. -/
theorem reloadOn_of_untouched {obj : Nat} {answered : Call × Reply}
    (untouched : touchOn obj answered = none) : reloadOn obj answered = none := by
  rcases answered with ⟨call, reply⟩
  cases call with
  | init other _ _ =>
      cases reply <;> simp_all [touchOn, reloadOn]
  | setValue other _ =>
      cases reply <;> simp_all [touchOn, reloadOn]
  | start _ => rfl
  | stop _ => rfl
  | reset _ => rfl
  | tick => rfl
  | expire _ => rfl
  | dispatch => rfl

/-! ## Timers whose callback is still to run -/

/-- The timer is armed, or its callback is queued. -/
def OneShots.Busy (shots : OneShots) (obj : Nat) : Prop :=
  (shots.timer obj).bind OneShot.armed ≠ none ∨ obj ∈ shots.queue

/-- What a step leaves of it, by what the step does to the timer. -/
def busyAfter (touch : Option Touch) (busy : Prop) : Prop :=
  match touch with
  | some touch => touch = .started
  | none => busy

section OneShots

variable {past : History} {shots : OneShots}

theorem OneShots.busy_settle (shots : OneShots) (obj other : Nat) (timer : OneShot) :
    (shots.settle obj timer).Busy other ↔
      if obj = other then timer.armed ≠ none else shots.Busy other := by
  by_cases same : obj = other
  · subst same
    simp [OneShots.Busy, OneShots.settle]
  · have apart : other ≠ obj := fun equal => same equal.symm
    simp [OneShots.Busy, OneShots.settle, same, apart]

/-- A call that settles one timer. -/
theorem OneShots.busy_of_settle {call : Call} {obj : Nat} {timer : OneShot} {touch : Touch}
    (step : oneShots.step shots call = (shots.settle obj timer, .done))
    (touched : ∀ other, touchOn other (call, .done) = if obj = other then some touch else none)
    (armed : timer.armed ≠ none ↔ touch = .started) (other : Nat) :
    (oneShots.next shots call).Busy other ↔
      busyAfter (touchOn other (call, oneShots.reply shots call)) (shots.Busy other) := by
  rw [Machine.next, Machine.reply, step, touched, OneShots.busy_settle]
  by_cases same : obj = other
  · rw [if_pos same, if_pos same]
    exact armed
  · rw [if_neg same, if_neg same]
    exact Iff.rfl

theorem OneShots.busy_tick (shots : OneShots) (obj : Nat) :
    shots.tick.Busy obj ↔ shots.Busy obj := by
  unfold OneShots.Busy OneShots.tick
  cases found : shots.timer obj with
  | none => simp [found]
  | some timer => simp [found]

/-- Expiry only moves a callback from the one place to the other. -/
theorem OneShots.busy_expire (shots : OneShots) (obj other : Nat) :
    (shots.expire obj).Busy other ↔ shots.Busy other := by
  unfold OneShots.expire
  cases found : shots.timer obj with
  | none => rfl
  | some timer =>
      by_cases due : timer.armed = some 0
      · simp only [due, if_true]
        by_cases same : other = obj
        · subst same
          simp [OneShots.Busy, OneShots.moveToQueue, found, due]
        · simp [OneShots.Busy, OneShots.moveToQueue, same]
      · simp only [due, if_false]

theorem Recorded.busy_dispatch (recorded : Recorded past shots) (obj : Nat) :
    shots.dispatch.1.Busy obj ↔
      busyAfter (touchOn obj (.dispatch, shots.dispatch.2)) (shots.Busy obj) := by
  cases queue : shots.queue with
  | nil =>
      have idle : shots.dispatch = (shots, .done) := by simp [OneShots.dispatch, queue]
      rw [idle]
      exact Iff.rfl
  | cons first rest =>
      have taken : shots.dispatch = ({ shots with queue := rest },
          .invoked (some first) ((shots.timer first).elim 0 OneShot.callback)) := by
        simp [OneShots.dispatch, queue]
      have nodup := recorded.queue_nodup
      rw [queue] at nodup
      rw [taken]
      by_cases same : first = obj
      · subst same
        -- It was queued once, and not armed again.
        have unarmed : (shots.timer first).bind OneShot.armed = none := by
          cases found : shots.timer first with
          | none => rfl
          | some timer =>
              by_contra armed
              exact recorded.armed_unqueued first timer found armed (by simp [queue])
        simp [OneShots.Busy, busyAfter, touchOn, unarmed, (List.nodup_cons.mp nodup).1]
      · have apart : ¬obj = first := fun equal => same equal.symm
        simp [OneShots.Busy, busyAfter, touchOn, queue, same, apart]

/-- A call that changes the setting of one timer. -/
theorem OneShots.busy_of_change {call : Call} {obj : Nat} {setting : OneShot → OneShot}
    {touch : Touch} (known : (shots.timer obj).isSome = true)
    (step : oneShots.step shots call = shots.change obj setting)
    (touched : ∀ other, touchOn other (call, .done) = if obj = other then some touch else none)
    (armed : ∀ timer, shots.timer obj = some timer →
      ((setting timer).armed ≠ none ↔ touch = .started)) (other : Nat) :
    (oneShots.next shots call).Busy other ↔
      busyAfter (touchOn other (call, oneShots.reply shots call)) (shots.Busy other) := by
  rcases Option.isSome_iff_exists.mp known with ⟨timer, found⟩
  have changed : shots.change obj setting = (shots.settle obj (setting timer), .done) := by
    simp [OneShots.change, found]
  exact OneShots.busy_of_settle (step.trans changed) touched (armed timer found) other

/-- A start makes a timer busy; a call that settles it and the run of its callback end
that; nothing else matters. -/
theorem Recorded.busy_next (recorded : Recorded past shots) (call : Call)
    (proper : shots.Proper call) (obj : Nat) :
    (oneShots.next shots call).Busy obj ↔
      busyAfter (touchOn obj (call, oneShots.reply shots call)) (shots.Busy obj) := by
  have delayed : ∀ other timer, shots.timer other = some timer →
      (timer.delay ≠ none ↔ Touch.started = .started) := by
    intro other timer found
    rw [OneShot.delay, if_pos (recorded.small other timer found)]
    exact iff_of_true (Option.some_ne_none _) rfl
  have disarmed : (none : Option Nat) ≠ none ↔ Touch.settled = .started := by simp
  cases call with
  | init other callback allocated =>
      rcases proper with ⟨absent, rfl⟩
      have step : oneShots.step shots (.init other callback true) =
          (shots.settle other { callback, reload := 0#32, armed := none }, .done) := by
        simp [oneShots, OneShots.init, absent]
      exact OneShots.busy_of_settle step (fun _ => rfl) disarmed obj
  | start other =>
      exact OneShots.busy_of_change proper rfl (fun _ => rfl) (delayed other) obj
  | stop other =>
      exact OneShots.busy_of_change proper rfl (fun _ => rfl) (fun _ _ => disarmed) obj
  | setValue other value =>
      exact OneShots.busy_of_change proper.1 rfl (fun _ => rfl) (fun _ _ => disarmed) obj
  | reset other =>
      exact OneShots.busy_of_change proper rfl (fun _ => rfl) (delayed other) obj
  | tick => exact shots.busy_tick obj
  | expire other => exact shots.busy_expire other obj
  | dispatch => exact recorded.busy_dispatch obj

end OneShots

/-! ## The flag -/

/-- What a step leaves of the flag. -/
def flagAfter : Option Touch → Bool → Bool
  | some .started, _ => true
  | some .settled, _ => false
  | some .invoked, flag => flag
  | none, flag => flag

section Flag

variable {past : History} {state : State}

/-- A call that settles one timer. -/
theorem isRunning_of_settle (call : Call) {el : TimList} {event : TimerEvent}
    {callout : Callout} {touch : Touch}
    (step : timers.step state call = answer state (.ok (state.settle el event callout)))
    (touched : ∀ obj, touchOn obj (call, .done) = if el.obj = obj then some touch else none)
    (flag : event.isRunning = flagAfter (some touch) (state.objects el.obj).isRunning)
    (obj : Nat) :
    ((timers.next state call).objects obj).isRunning =
      flagAfter (touchOn obj (call, timers.reply state call)) (state.objects obj).isRunning := by
  rw [Machine.next, Machine.reply, step, answer, touched]
  by_cases same : el.obj = obj
  · subst same
    simp [State.settle, flag]
  · have apart : obj ≠ el.obj := fun equal => same equal.symm
    simp [State.settle, same, apart, flagAfter]

theorem State.mem_of_isSome {obj : Nat} (known : (state.el obj).isSome = true) :
    ∃ el ∈ state.lTimList, el.obj = obj := by
  rcases Option.isSome_iff_exists.mp known with ⟨el, found⟩
  exact ⟨el, State.mem_of_el found⟩

/-- `TimerInit` puts the flag down. -/
theorem isRunning_init {other : Nat} (absent : state.el other = none) (callback : Callback)
    (obj : Nat) :
    ((timers.next state (.init other callback true)).objects obj).isRunning =
      flagAfter (touchOn obj (.init other callback true,
        timers.reply state (.init other callback true))) (state.objects obj).isRunning := by
  have step : timers.step state (.init other callback true) =
      (state.enlist other callback, .done) :=
    congrArg (answer state) (timerInit_eq absent callback)
  rw [Machine.next, Machine.reply, step]
  by_cases same : other = obj
  · subst same
    simp [State.enlist, touchOn, flagAfter]
  · have apart : obj ≠ other := fun equal => same equal.symm
    simp [State.enlist, touchOn, flagAfter, same, apart]

theorem isRunning_expire (state : State) (other obj : Nat) :
    ((expire state other).objects obj).isRunning = (state.objects obj).isRunning := by
  unfold expire
  split
  · rfl
  · rfl

/-- Nothing in the handling of an event writes the object. -/
theorem isRunning_dispatch (state : State) (obj : Nat) :
    ((dispatch state).1.objects obj).isRunning =
      flagAfter (touchOn obj (.dispatch, (dispatch state).2))
        (state.objects obj).isRunning := by
  cases queue : state.evq with
  | nil => simp [dispatch, queue, touchOn, flagAfter]
  | cons osTim rest =>
      cases owned : state.owner osTim with
      | none => simp [dispatch, queue, owned, touchOn, flagAfter]
      | some other =>
          by_cases same : other = obj
          · simp [dispatch, queue, owned, touchOn, flagAfter, same]
          · simp [dispatch, queue, owned, touchOn, flagAfter, same]

/-- `TimerStart` and `TimerReset` put the flag up, `TimerInit`, `TimerStop` and
`TimerSetValue` put it down, and the OS does not know it. -/
theorem State.Sound.isRunning_next (sound : state.Sound) (call : Call)
    (proper : state.Proper call) (obj : Nat) :
    ((timers.next state call).objects obj).isRunning =
      flagAfter (touchOn obj (call, timers.reply state call)) (state.objects obj).isRunning := by
  cases call with
  | init other callback allocated =>
      rcases proper with ⟨absent, rfl⟩
      exact isRunning_init absent callback obj
  | start other =>
      rcases State.mem_of_isSome proper with ⟨el, member, rfl⟩
      have step := congrArg (answer state) (sound.timerStart_eq member)
      exact isRunning_of_settle (.start el.obj) step (fun _ => rfl) rfl obj
  | stop other =>
      rcases State.mem_of_isSome proper with ⟨el, member, rfl⟩
      have step := congrArg (answer state) (sound.timerStop_eq member)
      exact isRunning_of_settle (.stop el.obj) step (fun _ => rfl) rfl obj
  | setValue other value =>
      rcases State.mem_of_isSome proper.1 with ⟨el, member, rfl⟩
      have step := congrArg (answer state) (sound.timerSetValue_eq member value)
      exact isRunning_of_settle (.setValue el.obj value) step (fun _ => rfl) rfl obj
  | reset other =>
      rcases State.mem_of_isSome proper with ⟨el, member, rfl⟩
      have step := congrArg (answer state) (sound.timerReset_eq member)
      exact isRunning_of_settle (.reset el.obj) step (fun _ => rfl) rfl obj
  | tick => rfl
  | expire other => exact isRunning_expire state other obj
  | dispatch => exact isRunning_dispatch state obj

/-- `TimerInit` has been called on the object. -/
def State.Known (state : State) (obj : Nat) : Prop :=
  (state.el obj).isSome = true

/-- The callback of the object is still to be run. -/
def State.Busy (state : State) (obj : Nat) : Prop :=
  state.armed obj ≠ none ∨ state.Pending obj

theorem State.Sound.busy_iff (sound : state.Sound) (obj : Nat) :
    state.Busy obj ↔ state.view.Busy obj := by
  rw [State.Busy, OneShots.Busy, State.armed_eq, sound.pending_iff]

/-- The flag says whether the callback is still to be run. -/
def State.Truthful (state : State) (obj : Nat) : Prop :=
  (state.objects obj).isRunning = true ↔ state.Busy obj

def State.TellsTruth (state : State) : Prop :=
  ∀ obj, state.Known obj → state.Truthful obj

/-- The oldest event in the queue is that of a timer. -/
theorem State.Sound.invoked_of_queued (sound : state.Sound) (queued : state.evq ≠ []) :
    ∃ obj callback, timers.reply state .dispatch = .invoked (some obj) callback ∧
      (timers.next state .dispatch).Known obj := by
  cases queue : state.evq with
  | nil => exact absurd queue queued
  | cons osTim rest =>
      have held := sound.queued_known osTim (by simp [queue])
      rcases List.mem_map.mp held with ⟨el, member, rfl⟩
      have owner := sound.owner_eq member
      have listed := sound.el_eq member
      unfold State.el at listed
      refine ⟨el.obj, (state.callouts el.osTim).evArg, ?_, ?_⟩
      · simp [Machine.reply, timers, dispatch, queue, owner]
      · simp [Machine.next, timers, dispatch, queue, State.Known, State.el, listed]

/-- A timer whose callback is still to be run has its flag up. -/
theorem State.Sound.isRunning_of_busy (sound : state.Sound) {obj : Nat}
    (busy : state.Busy obj) : (state.objects obj).isRunning = true := by
  rcases busy with armed | ⟨el, found, queued⟩
  · rcases Option.ne_none_iff_exists'.mp armed with ⟨ticks, ticksLeft⟩
    rcases Option.bind_eq_some_iff.mp ticksLeft with ⟨el, found, held⟩
    rcases State.mem_of_el found with ⟨member, rfl⟩
    have live : (state.callouts el.osTim).armed ≠ none := by simp [held]
    exact sound.isRunning_of_live member (.inl live)
  · rcases State.mem_of_el found with ⟨member, rfl⟩
    exact sound.isRunning_of_live member (.inr queued)

theorem State.known_iff (recorded : Recorded past state.view) (obj : Nat) :
    state.Known obj ↔ latest (reloadOn obj) past ≠ none := by
  rw [← recorded.reload obj, State.Known]
  cases found : state.el obj with
  | none => simp [State.view, found]
  | some el => simp [State.view, found]

/-- No other call initialises a timer than one that touches it. -/
theorem State.known_of_untouched {next : State} {answered : Call × Reply} {obj : Nat}
    (before : Recorded past state.view) (after : Recorded (past ++ [answered]) next.view)
    (untouched : touchOn obj answered = none) (known : next.Known obj) : state.Known obj := by
  rw [State.known_iff after, latest_append, reloadOn_of_untouched untouched,
    Option.none_or] at known
  exact (State.known_iff before obj).mpr known

/-- What the history of a proper run says about flags and callbacks. -/
structure Told (past : History) (state : State) : Prop where
  sound : state.Sound
  recorded : Recorded past state.view
  busy : ∀ obj, state.Busy obj ↔ latest (touchOn obj) past = some .started
  flag : ∀ obj, state.Known obj → ((state.objects obj).isRunning = true ↔
    latest (touchOn obj) past = some .started ∨ latest (touchOn obj) past = some .invoked)

namespace Told

theorem initial (objects : Nat → TimerEvent) : Told [] (State.initial objects) where
  sound := State.Sound.initial objects
  recorded := Recorded.initial
  busy obj := by simp [State.Busy, State.armed, State.Pending, State.el, State.initial]
  flag obj known := by simp [State.Known, State.el, State.initial] at known

/-- A callback is invoked while the flag of its timer is up. -/
theorem isRunning_of_invoked (told : Told past state) {obj : Nat} {callback : Callback}
    (invoked : timers.reply state .dispatch = .invoked (some obj) callback) :
    (state.objects obj).isRunning = true := by
  have replied := timerRefinement.reply_eq state .dispatch told.sound
  rw [invoked] at replied
  rcases told.recorded.invocation .dispatch replied.symm with ⟨owner, same, started, _⟩
  rcases Option.some.inj same with rfl
  exact told.sound.isRunning_of_busy ((told.busy obj).mpr started)

theorem next (told : Told past state) (call : Call) (proper : state.Proper call) :
    Told (past ++ [(call, timers.reply state call)]) (timers.next state call) := by
  have viewProper := (state.proper_iff call).mp proper
  have sound : (timers.next state call).Sound := timerRefinement.preserved state call told.sound
  have viewed : (timers.next state call).view = oneShots.next state.view call :=
    timerRefinement.view_next state call told.sound
  have replied : timers.reply state call = oneShots.reply state.view call :=
    timerRefinement.reply_eq state call told.sound
  have recorded : Recorded (past ++ [(call, timers.reply state call)])
      (timers.next state call).view := by
    rw [viewed, replied]
    exact told.recorded.next call viewProper
  constructor
  case sound => exact sound
  case recorded => exact recorded
  case busy =>
    intro obj
    rw [sound.busy_iff, viewed, told.recorded.busy_next call viewProper, ← replied,
      latest_append, ← told.sound.busy_iff, told.busy]
    cases touchOn obj (call, timers.reply state call) with
    | none => rfl
    | some touch => simp [busyAfter]
  case flag =>
    intro obj known
    rw [told.sound.isRunning_next call proper, latest_append]
    cases touched : touchOn obj (call, timers.reply state call) with
    | none =>
        exact told.flag obj (State.known_of_untouched told.recorded recorded touched known)
    | some touch =>
        cases touch with
        | started => simp [flagAfter]
        | settled => simp [flagAfter]
        | invoked =>
            rcases (touchOn_eq_invoked_iff obj call _).mp touched with ⟨rfl, callback, invoked⟩
            simp [flagAfter, told.isRunning_of_invoked invoked]

/-- The flag of a timer is right until its callback is invoked, and again once the timer
is started, stopped or set. -/
theorem truthful_iff (told : Told past state) {obj : Nat} (known : state.Known obj) :
    state.Truthful obj ↔ latest (touchOn obj) past ≠ some .invoked := by
  rw [State.Truthful, told.flag obj known, told.busy obj]
  cases latest (touchOn obj) past with
  | none => simp
  | some touch => cases touch <;> simp

/-- One step keeps all flags right exactly if it invokes no callback. -/
theorem tellsTruth_next (told : Told past state) (call : Call) (proper : state.Proper call)
    (right : state.TellsTruth) :
    (timers.next state call).TellsTruth ↔ (call = .dispatch → state.evq = []) := by
  have after := told.next call proper
  constructor
  · intro rightNext dispatched
    subst dispatched
    by_contra queued
    rcases told.sound.invoked_of_queued queued with ⟨obj, callback, invoked, known⟩
    have flag := (after.truthful_iff known).mp (rightNext obj known)
    simp [invoked, touchOn] at flag
  · intro idle obj known
    rw [after.truthful_iff known, latest_append]
    cases touched : touchOn obj (call, timers.reply state call) with
    | none =>
        have before := State.known_of_untouched told.recorded after.recorded touched known
        exact (told.truthful_iff before).mp (right obj before)
    | some touch =>
        intro invoked
        rcases Option.some.inj invoked with rfl
        rcases (touchOn_eq_invoked_iff obj call _).mp touched with ⟨rfl, callback, replied⟩
        have quiet : timers.reply state .dispatch = .done := by
          simp [Machine.reply, timers, dispatch, idle rfl]
        exact Reply.noConfusion (quiet.symm.trans replied)

end Told

end Flag

/-- The flags are right throughout a run exactly if no expiry is dispatched in it. The
flag of one timer is right exactly if the invocation of its callback is not the last that
touched it. -/
theorem running_flag_exact (objects : Nat → TimerEvent) (calls : List Call)
    (proper : timers.Along State.Proper (State.initial objects) calls) :
    (timers.Throughout State.TellsTruth (State.initial objects) calls ↔
      timers.Along (fun state call => call = .dispatch → state.evq = [])
        (State.initial objects) calls) ∧
    ∀ obj, (timers.run (State.initial objects) calls).Known obj →
      ((timers.run (State.initial objects) calls).Busy obj ↔
        latest (touchOn obj) (timers.trace (State.initial objects) calls) = some .started) ∧
      ((timers.run (State.initial objects) calls).Truthful obj ↔
        latest (touchOn obj) (timers.trace (State.initial objects) calls) ≠
          some .invoked) := by
  have start := Told.initial objects
  constructor
  · apply timers.throughout_iff_along_of_safe (fun state => ∃ past, Told past state)
    · intro state call known proper
      rcases known with ⟨past, told⟩
      exact ⟨_, told.next call proper⟩
    · intro state call known proper right
      rcases known with ⟨past, told⟩
      exact told.tellsTruth_next call proper right
    · exact proper
    · exact ⟨[], start⟩
    · intro obj known
      exact (start.truthful_iff known).mpr (by simp)
  · intro obj known
    have told := timers.history_along Told
      (fun past state call told proper => told.next call proper) calls [] _ proper start
    exact ⟨told.busy obj, told.truthful_iff known⟩

/-- A timer that is started and then stopped. -/
theorem running_flag_exact_stopped :
    let objects : Nat → TimerEvent := fun _ => ⟨0, 0, false, 0⟩
    let calls : List Call :=
      [.init 3 9 true, .setValue 3 2, .start 3, .tick, .tick, .expire 3, .stop 3, .dispatch]
    timers.Throughout State.TellsTruth (State.initial objects) calls := by
  intro objects calls
  apply (running_flag_exact objects calls _).1.mpr
  · exact ⟨nofun, nofun, nofun, nofun, nofun, nofun, nofun, fun _ => rfl, trivial⟩
  · exact ⟨⟨rfl, rfl⟩, ⟨rfl, by decide⟩, rfl, trivial, trivial, trivial, rfl, trivial, trivial⟩

/-- A timer whose callback has run: nothing is armed or queued, and the flag is up. -/
theorem running_flag_stays_up :
    let objects : Nat → TimerEvent := fun _ => ⟨0, 0, false, 0⟩
    let calls : List Call :=
      [.init 3 9 true, .setValue 3 2, .start 3, .tick, .tick, .expire 3, .dispatch]
    timers.Along State.Proper (State.initial objects) calls ∧
      ((timers.run (State.initial objects) calls).objects 3).isRunning = true ∧
        (timers.run (State.initial objects) calls).armed 3 = none ∧
          (timers.run (State.initial objects) calls).evq = [] ∧
            ¬timers.Throughout State.TellsTruth (State.initial objects) calls := by
  intro objects calls
  refine ⟨⟨⟨rfl, rfl⟩, ⟨rfl, by decide⟩, rfl, trivial, trivial, trivial, trivial, trivial⟩,
    rfl, rfl, rfl, ?_⟩
  intro right
  have last : (timers.run (State.initial objects) calls).TellsTruth := right.2.2.2.2.2.2.2
  rcases (last 3 rfl).mp rfl with armed | ⟨el, _, queued⟩
  · exact armed rfl
  · exact List.not_mem_nil queued

end Lorawan.Timers
