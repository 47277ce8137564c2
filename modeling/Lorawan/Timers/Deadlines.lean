import Lorawan.Timers.RunningFlag

/-! # Timers and the ticks

How many ticks pass between a start and the callback. The OS may find an expired callout
late; if it looks before every tick, timers expire on the tick. -/

namespace Lorawan.Timers

/-- The ticks since the object was last started. -/
def ticksSinceStart (obj : Nat) (past : History) : Nat :=
  countSince (fun answered => touchOn obj answered = some .started)
    (fun answered => answered.1 = .tick) past

theorem ticksSinceStart_append (obj : Nat) (past : History) (answered : Call × Reply) :
    ticksSinceStart obj (past ++ [answered]) =
      if touchOn obj answered = some .started then 0
      else ticksSinceStart obj past + if answered.1 = .tick then 1 else 0 := by
  simp [ticksSinceStart, countSince_append]

/-- A step that is no tick leaves the count, unless it starts the timer. -/
theorem ticksSinceStart_of_quiet {obj : Nat} (past : History) {answered : Call × Reply}
    (notStarted : touchOn obj answered ≠ some .started) (notTick : answered.1 ≠ .tick) :
    ticksSinceStart obj (past ++ [answered]) = ticksSinceStart obj past := by
  simp [ticksSinceStart_append, notStarted, notTick]

/-! ## On one-shot timers -/

/-- An armed timer has left what its delay exceeds the ticks by, and is not overdue where
the OS is `punctual`; for a queued one the delay is over. -/
structure Clocked (punctual : Prop) (past : History) (shots : OneShots) : Prop where
  armed : ∀ obj timer left, shots.timer obj = some timer → timer.armed = some left →
    left = timer.reload.toNat - ticksSinceStart obj past ∧
      (punctual → ticksSinceStart obj past ≤ timer.reload.toNat)
  queued : ∀ obj timer, shots.timer obj = some timer → obj ∈ shots.queue →
    timer.reload.toNat ≤ ticksSinceStart obj past

/-- When a tick comes, the OS has dealt with the callouts whose time was up. -/
def OneShots.Punctual (shots : OneShots) (call : Call) : Prop :=
  call = .tick → ∀ obj timer, shots.timer obj = some timer → timer.armed ≠ some 0

namespace Clocked

variable {punctual : Prop} {past : History} {shots : OneShots}

theorem initial : Clocked punctual [] OneShots.initial := by
  constructor <;> simp [OneShots.initial]

/-- A step that settles one timer. -/
theorem settle (clocked : Clocked punctual past shots) {obj : Nat} {timer : OneShot}
    {answered : Call × Reply} {touch : Touch}
    (touched : ∀ other, touchOn other answered = if obj = other then some touch else none)
    (notTick : answered.1 ≠ .tick)
    (armed : ∀ left, timer.armed = some left → touch = .started ∧ left = timer.reload.toNat) :
    Clocked punctual (past ++ [answered]) (shots.settle obj timer) := by
  have elsewhere : ∀ other, other ≠ obj →
      ticksSinceStart other (past ++ [answered]) = ticksSinceStart other past := by
    intro other different
    apply ticksSinceStart_of_quiet past _ notTick
    rw [touched, if_neg fun equal => different equal.symm]
    simp
  constructor
  case armed =>
    intro other otherTimer left atOther otherArmed
    rcases Recorded.update_cases atOther with ⟨rfl, rfl⟩ | ⟨different, atOther⟩
    · rcases armed left otherArmed with ⟨rfl, whole⟩
      rw [ticksSinceStart_append, touched, if_pos rfl, if_pos rfl]
      exact ⟨whole, fun _ => Nat.zero_le _⟩
    · rw [elsewhere other different]
      exact clocked.armed other otherTimer left atOther otherArmed
  case queued =>
    intro other otherTimer atOther member
    have queued : other ∈ shots.queue ∧ other ≠ obj := by
      simpa [OneShots.settle] using member
    rcases Recorded.update_cases atOther with ⟨same, _⟩ | ⟨different, atOther⟩
    · exact absurd same queued.2
    · rw [elsewhere other different]
      exact clocked.queued other otherTimer atOther queued.1

theorem tick (clocked : Clocked punctual past shots) (onTime : punctual → shots.Punctual .tick) :
    Clocked punctual (past ++ [(.tick, .done)]) shots.tick := by
  have counted : ∀ obj, ticksSinceStart obj (past ++ [(.tick, .done)]) =
      ticksSinceStart obj past + 1 := by
    intro obj
    simp [ticksSinceStart_append, touchOn]
  constructor
  case armed =>
    intro obj timer left atObj armed
    rcases Option.map_eq_some_iff.mp atObj with ⟨before, found, rfl⟩
    rcases Option.map_eq_some_iff.mp armed with ⟨leftBefore, armedBefore, rfl⟩
    have was := clocked.armed obj before leftBefore found armedBefore
    rw [counted]
    refine ⟨?_, fun isPunctual => ?_⟩
    · dsimp only
      omega
    · have undue := onTime isPunctual rfl obj before found
      have notZero : leftBefore ≠ 0 := fun zero => undue (zero ▸ armedBefore)
      dsimp only
      omega
  case queued =>
    intro obj timer atObj member
    rcases Option.map_eq_some_iff.mp atObj with ⟨before, found, rfl⟩
    have expired := clocked.queued obj before found member
    rw [counted]
    dsimp only
    omega

theorem moveToQueue (clocked : Clocked punctual past shots) {obj : Nat} {timer : OneShot}
    (found : shots.timer obj = some timer) (due : timer.armed = some 0) :
    Clocked punctual past (shots.moveToQueue obj timer) := by
  have expired := clocked.armed obj timer 0 found due
  constructor
  case armed =>
    intro other otherTimer left atOther armed
    rcases Recorded.update_cases atOther with ⟨_, rfl⟩ | ⟨_, atOther⟩
    · simp at armed
    · exact clocked.armed other otherTimer left atOther armed
  case queued =>
    intro other otherTimer atOther member
    rcases Recorded.update_cases atOther with ⟨rfl, rfl⟩ | ⟨different, atOther⟩
    · dsimp only
      omega
    · have before : other ∈ shots.queue := by
        simpa [OneShots.moveToQueue, different] using member
      exact clocked.queued other otherTimer atOther before

/-- A step that starts nothing and is no tick. -/
theorem quiet (clocked : Clocked punctual past shots) {answered : Call × Reply}
    (notStarted : ∀ obj, touchOn obj answered ≠ some .started) (notTick : answered.1 ≠ .tick) :
    Clocked punctual (past ++ [answered]) shots where
  armed obj timer left := by
    rw [ticksSinceStart_of_quiet past (notStarted obj) notTick]
    exact clocked.armed obj timer left
  queued obj timer := by
    rw [ticksSinceStart_of_quiet past (notStarted obj) notTick]
    exact clocked.queued obj timer

theorem expire (clocked : Clocked punctual past shots) (obj : Nat) :
    Clocked punctual past (shots.expire obj) := by
  unfold OneShots.expire
  cases found : shots.timer obj with
  | none => exact clocked
  | some timer =>
      by_cases due : timer.armed = some 0
      · simp only [due, if_true]
        exact clocked.moveToQueue found due
      · simp only [due, if_false]
        exact clocked

theorem dispatch (clocked : Clocked punctual past shots) :
    Clocked punctual (past ++ [(.dispatch, shots.dispatch.2)]) shots.dispatch.1 := by
  have unstarted : ∀ obj, touchOn obj (.dispatch, shots.dispatch.2) ≠ some .started := by
    intro obj started
    cases reply : shots.dispatch.2 with
    | invoked owner _ =>
        cases owner with
        | none => simp [reply, touchOn] at started
        | some other =>
            by_cases same : other = obj <;> simp [reply, touchOn, same] at started
    | done => simp [reply, touchOn] at started
    | fault _ => simp [reply, touchOn] at started
  apply Clocked.quiet _ unstarted (by simp)
  cases queue : shots.queue with
  | nil => simpa [OneShots.dispatch, queue] using clocked
  | cons first rest =>
      have taken : shots.dispatch.1 = { shots with queue := rest } := by
        simp [OneShots.dispatch, queue]
      rw [taken]
      constructor
      case armed => exact clocked.armed
      case queued =>
        intro obj timer found member
        exact clocked.queued obj timer found (by simp [queue, member])

/-- A call other than `TimerInit`, on a timer that is known. -/
theorem change (clocked : Clocked punctual past shots) {obj : Nat} {timer : OneShot}
    (found : shots.timer obj = some timer) (setting : OneShot → OneShot) {call : Call}
    {touch : Touch}
    (touched : ∀ other, touchOn other (call, .done) = if obj = other then some touch else none)
    (notTick : call ≠ .tick)
    (armed : ∀ left, (setting timer).armed = some left →
      touch = .started ∧ left = (setting timer).reload.toNat) :
    Clocked punctual (past ++ [(call, (shots.change obj setting).2)])
      (shots.change obj setting).1 := by
  have changed : shots.change obj setting = (shots.settle obj (setting timer), .done) := by
    simp [OneShots.change, found]
  rw [changed]
  exact clocked.settle touched notTick armed

theorem next (clocked : Clocked punctual past shots) (recorded : Recorded past shots)
    (call : Call) (proper : shots.Proper call) (onTime : punctual → shots.Punctual call) :
    Clocked punctual (past ++ [(call, oneShots.reply shots call)]) (oneShots.next shots call) := by
  have delayed : ∀ obj timer left, shots.timer obj = some timer → timer.delay = some left →
      Touch.started = .started ∧ left = timer.reload.toNat := by
    intro obj timer left found delay
    rw [OneShot.delay, if_pos (recorded.small obj timer found)] at delay
    exact ⟨rfl, (Option.some.inj delay).symm⟩
  cases call with
  | init obj callback allocated =>
      rcases proper with ⟨absent, rfl⟩
      have done : shots.init obj callback true =
          (shots.settle obj { callback, reload := 0#32, armed := none }, .done) := by
        simp [OneShots.init, absent]
      change Clocked punctual (past ++ [(_, (shots.init obj callback true).2)])
        (shots.init obj callback true).1
      have touched : ∀ other, touchOn other (.init obj callback true, .done) =
          if obj = other then some .settled else none := fun _ => rfl
      rw [done]
      exact clocked.settle touched (by simp) (by simp)
  | start obj =>
      rcases Option.isSome_iff_exists.mp proper with ⟨timer, found⟩
      exact clocked.change found _ (fun _ => rfl) (by simp)
        (fun left => delayed obj timer left found)
  | stop obj =>
      rcases Option.isSome_iff_exists.mp proper with ⟨timer, found⟩
      exact clocked.change found _ (fun _ => rfl) (by simp) (by simp)
  | setValue obj value =>
      rcases Option.isSome_iff_exists.mp proper.1 with ⟨timer, found⟩
      exact clocked.change found _ (fun _ => rfl) (by simp) (by simp)
  | reset obj =>
      rcases Option.isSome_iff_exists.mp proper with ⟨timer, found⟩
      exact clocked.change found _ (fun _ => rfl) (by simp)
        (fun left => delayed obj timer left found)
  | tick => exact clocked.tick onTime
  | expire obj => exact (clocked.expire obj).quiet (fun _ => by simp [touchOn]) (by simp)
  | dispatch => exact clocked.dispatch

end Clocked

/-! ## On timer objects -/

/-- When a tick comes, no callout is armed whose time is up. -/
def State.Punctual (state : State) (call : Call) : Prop :=
  call = .tick → ∀ obj, state.armed obj ≠ some 0

theorem State.Punctual.view {state : State} {call : Call} (onTime : state.Punctual call) :
    state.view.Punctual call := by
  intro isTick obj timer found due
  apply onTime isTick obj
  rw [State.armed_eq, found]
  exact due

/-- What the history of a proper run says about ticks and callbacks. -/
structure Dated (punctual : Prop) (past : History) (state : State) : Prop where
  told : Told past state
  clocked : Clocked punctual past state.view

namespace Dated

variable {punctual : Prop} {past : History} {state : State}

theorem initial (objects : Nat → TimerEvent) : Dated punctual [] (State.initial objects) where
  told := Told.initial objects
  clocked := Clocked.initial

theorem next (dated : Dated punctual past state) (call : Call) (proper : state.Proper call)
    (onTime : punctual → state.Punctual call) :
    Dated punctual (past ++ [(call, timers.reply state call)]) (timers.next state call) where
  told := dated.told.next call proper
  clocked := by
    have viewed : (timers.next state call).view = oneShots.next state.view call :=
      timerRefinement.view_next state call dated.told.sound
    have replied : timers.reply state call = oneShots.reply state.view call :=
      timerRefinement.reply_eq state call dated.told.sound
    rw [viewed, replied]
    exact dated.clocked.next dated.told.recorded call ((state.proper_iff call).mp proper)
      fun isPunctual => (onTime isPunctual).view

/-- Where a timer that was started last is, by the ticks since then. -/
theorem cases_of_started (dated : Dated punctual past state) {obj : Nat} {value : BitVec 32}
    (started : latest (touchOn obj) past = some .started)
    (set : latest (reloadOn obj) past = some value) :
    (state.armed obj = some (value.toNat - ticksSinceStart obj past) ∧ ¬state.Pending obj ∧
        (punctual → ticksSinceStart obj past ≤ value.toNat)) ∨
      (state.armed obj = none ∧ state.Pending obj ∧
        value.toNat ≤ ticksSinceStart obj past) := by
  rw [← dated.told.recorded.reload obj] at set
  rcases Option.map_eq_some_iff.mp set with ⟨timer, found, rfl⟩
  have armed : state.armed obj = timer.armed := by
    rw [State.armed_eq, found]
    rfl
  have pending := dated.told.sound.pending_iff obj
  cases held : timer.armed with
  | some left =>
      rcases dated.clocked.armed obj timer left found held with ⟨rest, soon⟩
      have unqueued := dated.told.recorded.armed_unqueued obj timer found (by simp [held])
      refine .inl ⟨?_, fun queued => unqueued (pending.mp queued), soon⟩
      rw [armed, held, rest]
  | none =>
      have busy := (dated.told.busy obj).mpr started
      have queued : state.Pending obj := by
        rcases busy with isArmed | queued
        · rw [armed, held] at isArmed
          exact absurd rfl isArmed
        · exact queued
      exact .inr ⟨armed.trans held, queued,
        dated.clocked.queued obj timer found (pending.mp queued)⟩

end Dated

theorem State.Sound.pending_of_invoked {state : State} (sound : state.Sound) {obj : Nat}
    {callback : Callback}
    (invoked : timers.reply state .dispatch = .invoked (some obj) callback) :
    state.Pending obj := by
  change (dispatch state).2 = _ at invoked
  cases queue : state.evq with
  | nil => simp [dispatch, queue] at invoked
  | cons osTim rest =>
      have owned : state.owner osTim = some obj := by
        simp only [dispatch, queue, Reply.invoked.injEq] at invoked
        exact invoked.1
      rcases Option.map_eq_some_iff.mp owned with ⟨el, found, rfl⟩
      have sameTim : el.osTim = osTim := by simpa using List.find?_some found
      exact ⟨el, sound.el_eq (List.mem_of_find?_eq_some found), by simp [queue, sameTim]⟩

end Lorawan.Timers
