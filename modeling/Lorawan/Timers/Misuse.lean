import Lorawan.Timers.RunningFlag

/-! # Calls in any order

Nothing is asked here of the calls: objects may be initialised twice or never, memory may
run out, and delays may be too long for the OS. -/

namespace Lorawan.Timers

/-- `TimerInit` has succeeded on the object. -/
def Initialised (past : History) (obj : Nat) : Prop :=
  ∃ callback, (Call.init obj callback true, Reply.done) ∈ past

/-- The calls on an object that was initialised before. -/
def Call.Uses (call : Call) (obj : Nat) : Prop :=
  call = .start obj ∨ call = .stop obj ∨ (∃ value, call = .setValue obj value) ∨
    call = .reset obj

theorem initialised_append (past : History) (answered : Call × Reply) (obj : Nat) :
    Initialised (past ++ [answered]) obj ↔
      Initialised past obj ∨ ∃ callback, answered = (.init obj callback true, .done) := by
  simp only [Initialised, List.mem_append, List.mem_singleton, exists_or]
  constructor
  · intro listed
    rcases listed with earlier | ⟨callback, now⟩
    · exact .inl earlier
    · exact .inr ⟨callback, now.symm⟩
  · intro listed
    rcases listed with earlier | ⟨callback, now⟩
    · exact .inl earlier
    · exact .inr ⟨callback, now.symm⟩

/-- What any history says about the timers: which there are, and their delays. -/
structure Registered (past : History) (shots : OneShots) : Prop where
  known : ∀ obj, (shots.timer obj).isSome = true ↔ Initialised past obj
  reload : ∀ obj, (shots.timer obj).map OneShot.reload = latest (reloadOn obj) past

namespace Registered

variable {past : History} {shots : OneShots}

theorem initial : Registered [] OneShots.initial := by
  constructor <;> simp [OneShots.initial, Initialised]

/-- A step that settles one timer, which was known or is initialised by it. -/
theorem settle (registered : Registered past shots) {obj : Nat} {timer : OneShot}
    {answered : Call × Reply}
    (reloaded : (reloadOn obj answered).or (latest (reloadOn obj) past) = some timer.reload)
    (elsewhere : ∀ other, obj ≠ other → reloadOn other answered = none)
    (inits : ∀ other callback, answered = (.init other callback true, .done) → other = obj)
    (known : Initialised (past ++ [answered]) obj) :
    Registered (past ++ [answered]) (shots.settle obj timer) where
  known other := by
    by_cases same : other = obj
    · subst same
      simpa [OneShots.settle] using known
    · have unsaid : ¬∃ callback, answered = (.init other callback true, .done) := by
        rintro ⟨callback, now⟩
        exact same (inits other callback now)
      rw [initialised_append, or_iff_left unsaid, ← registered.known]
      simp [OneShots.settle, same]
  reload := Recorded.map_settle registered.reload reloaded elsewhere

/-- A step that changes no timer's delay. -/
theorem keep (registered : Registered past shots) {next : OneShots} {answered : Call × Reply}
    (same : ∀ obj, (next.timer obj).map OneShot.reload = (shots.timer obj).map OneShot.reload)
    (reloaded : ∀ obj, reloadOn obj answered = none)
    (inits : ∀ obj callback, answered ≠ (.init obj callback true, .done)) :
    Registered (past ++ [answered]) next where
  known obj := by
    have unsaid : ¬∃ callback, answered = (.init obj callback true, .done) := by
      rintro ⟨callback, now⟩
      exact inits obj callback now
    have alike := congrArg Option.isSome (same obj)
    rw [initialised_append, or_iff_left unsaid, ← registered.known]
    simp only [Option.isSome_map] at alike
    rw [alike]
  reload obj := by
    rw [same, latest_append, reloaded, Option.none_or]
    exact registered.reload obj

/-- A call other than `TimerInit` is refused, or settles its timer. -/
theorem change (registered : Registered past shots) (obj : Nat) (setting : OneShot → OneShot)
    {call : Call}
    (reloaded : ∀ timer, shots.timer obj = some timer →
      (reloadOn obj (call, .done)).getD timer.reload = (setting timer).reload)
    (elsewhere : ∀ other, obj ≠ other → reloadOn other (call, .done) = none)
    (refused : ∀ other fault, reloadOn other (call, .fault fault) = none)
    (inits : ∀ other callback, call ≠ .init other callback true) :
    Registered (past ++ [(call, (shots.change obj setting).2)])
      (shots.change obj setting).1 := by
  cases found : shots.timer obj with
  | none =>
      have failed : shots.change obj setting = (shots, .fault .assertFailed) := by
        simp [OneShots.change, found]
      rw [failed]
      exact registered.keep (fun _ => rfl) (fun other => refused other _)
        (fun other callback now => inits other callback (congrArg Prod.fst now))
  | some timer =>
      have done : shots.change obj setting = (shots.settle obj (setting timer), .done) := by
        simp [OneShots.change, found]
      have before := registered.reload obj
      have known := (registered.known obj).mp (by simp [found])
      rw [done]
      apply registered.settle
      · rw [← reloaded timer found, ← before, found]
        cases reloadOn obj (call, .done) <;> rfl
      · exact elsewhere
      · intro other callback now
        exact absurd (congrArg Prod.fst now) (inits other callback)
      · exact (initialised_append past _ obj).mpr (.inl known)

theorem init (registered : Registered past shots) (obj : Nat) (callback : Callback)
    (allocated : Bool) :
    Registered (past ++ [(.init obj callback allocated, (shots.init obj callback allocated).2)])
      (shots.init obj callback allocated).1 := by
  have refused : ∀ fault,
      Registered (past ++ [(.init obj callback allocated, .fault fault)]) shots := fun fault =>
    registered.keep (fun _ => rfl) (fun _ => rfl) (by simp)
  unfold OneShots.init
  split
  · exact refused .hang
  · split
    · next isAllocated =>
        subst isAllocated
        apply registered.settle
        · simp [reloadOn]
        · exact fun other different => if_neg different
        · rintro other callback' now
          cases now
          rfl
        · exact (initialised_append past _ obj).mpr (.inr ⟨callback, rfl⟩)
    · exact refused .assertFailed

/-- Every step, proper or not. -/
theorem next (registered : Registered past shots) (call : Call) :
    Registered (past ++ [(call, oneShots.reply shots call)]) (oneShots.next shots call) := by
  cases call with
  | init obj callback allocated => exact registered.init obj callback allocated
  | start obj =>
      exact registered.change obj _ (fun _ _ => rfl) (fun _ _ => rfl) (fun _ _ => rfl) (by simp)
  | stop obj =>
      exact registered.change obj _ (fun _ _ => rfl) (fun _ _ => rfl) (fun _ _ => rfl) (by simp)
  | setValue obj value =>
      exact registered.change obj _ (fun _ _ => by simp [reloadOn])
        (fun other different => if_neg different) (fun _ _ => rfl) (by simp)
  | reset obj =>
      exact registered.change obj _ (fun _ _ => rfl) (fun _ _ => rfl) (fun _ _ => rfl) (by simp)
  | tick =>
      refine registered.keep ?_ (fun _ => rfl) (by simp)
      intro obj
      change (shots.tick.timer obj).map _ = _
      simp [OneShots.tick, Function.comp_def]
  | expire obj =>
      refine registered.keep ?_ (fun _ => rfl) (by simp)
      intro other
      change ((shots.expire obj).timer other).map _ = _
      unfold OneShots.expire
      cases found : shots.timer obj with
      | none => rfl
      | some timer =>
          dsimp only
          split
          · exact Recorded.map_moveToQueue found rfl other
          · rfl
  | dispatch =>
      change Registered (past ++ [(_, shots.dispatch.2)]) shots.dispatch.1
      cases queue : shots.queue with
      | nil =>
          have idle : shots.dispatch = (shots, .done) := by simp [OneShots.dispatch, queue]
          rw [idle]
          exact registered.keep (fun _ => rfl) (fun _ => rfl) (by simp)
      | cons obj rest =>
          have taken : shots.dispatch = ({ shots with queue := rest },
              .invoked (some obj) ((shots.timer obj).elim 0 OneShot.callback)) := by
            simp [OneShots.dispatch, queue]
          rw [taken]
          exact registered.keep (fun _ => rfl) (fun _ => rfl) (by simp)

end Registered

/-! ## Replies -/

section Replies

variable (shots : OneShots)

theorem reply_init (obj : Nat) (callback : Callback) (allocated : Bool) :
    oneShots.reply shots (.init obj callback allocated) =
      if (shots.timer obj).isSome then .fault .hang
      else if allocated then .done
      else .fault .assertFailed := by
  change (shots.init obj callback allocated).2 = _
  unfold OneShots.init
  split
  · rfl
  · split
    · rfl
    · rfl

theorem reply_uses {call : Call} {obj : Nat} (uses : call.Uses obj) :
    oneShots.reply shots call =
      if (shots.timer obj).isSome then .done else .fault .assertFailed := by
  have changed : ∀ setting : OneShot → OneShot, (shots.change obj setting).2 =
      if (shots.timer obj).isSome then .done else .fault .assertFailed := by
    intro setting
    unfold OneShots.change
    cases shots.timer obj with
    | none => rfl
    | some timer => rfl
  rcases uses with rfl | rfl | ⟨value, rfl⟩ | rfl
  · exact changed _
  · exact changed _
  · exact changed _
  · exact changed _

/-- The OS steps never fault. -/
theorem reply_fault_cases {call : Call} {fault : Fault}
    (failed : oneShots.reply shots call = .fault fault) :
    (∃ obj callback allocated, call = .init obj callback allocated) ∨ ∃ obj, call.Uses obj := by
  cases call with
  | init obj callback allocated => exact .inl ⟨obj, callback, allocated, rfl⟩
  | start obj => exact .inr ⟨obj, .inl rfl⟩
  | stop obj => exact .inr ⟨obj, .inr (.inl rfl)⟩
  | setValue obj value => exact .inr ⟨obj, .inr (.inr (.inl ⟨value, rfl⟩))⟩
  | reset obj => exact .inr ⟨obj, .inr (.inr (.inr rfl))⟩
  | tick => exact Reply.noConfusion failed
  | expire obj => exact Reply.noConfusion failed
  | dispatch =>
      change shots.dispatch.2 = _ at failed
      unfold OneShots.dispatch at failed
      split at failed
      · exact Reply.noConfusion failed
      · exact Reply.noConfusion failed

end Replies

/-- What holds of any step from a state with the given history. -/
structure MisuseLaws (past : History) (state : State) (call : Call) : Prop where
  /-- `TimerInit` hangs on an object that it was called on before. -/
  hang_iff : timers.reply state call = .fault .hang ↔
    ∃ obj callback allocated, call = .init obj callback allocated ∧ Initialised past obj
  /-- An assertion fails for lack of memory, or on an object never initialised. -/
  assert_iff : timers.reply state call = .fault .assertFailed ↔
    (∃ obj callback, call = .init obj callback false ∧ ¬Initialised past obj) ∨
      ∃ obj, call.Uses obj ∧ ¬Initialised past obj
  /-- No callout is initialised while it is linked, or stopped before it is initialised. -/
  callouts : ∀ fault, timers.reply state call = .fault fault →
    fault = .hang ∨ fault = .assertFailed
  /-- A start forgets what the timer was doing. It arms the timer only with a delay that
  the OS takes, and puts the flag up in any case. -/
  start : ∀ obj value, call = .start obj ∨ call = .reset obj →
    latest (reloadOn obj) past = some value →
      (timers.next state call).armed obj =
          (if value.toNat < 2 ^ 31 then some value.toNat else none) ∧
        ¬(timers.next state call).Pending obj ∧
        ((timers.next state call).objects obj).isRunning = true

section Laws

variable {past : History} {state : State}

theorem isRunning_of_start (sound : state.Sound) {call : Call} {obj : Nat}
    (known : (state.el obj).isSome = true) (starts : call = .start obj ∨ call = .reset obj) :
    ((timers.next state call).objects obj).isRunning = true := by
  rcases State.mem_of_isSome known with ⟨el, member, rfl⟩
  rcases starts with rfl | rfl
  · change ((answer state (timerStart state el.obj)).1.objects el.obj).isRunning = true
    rw [sound.timerStart_eq member]
    simp [answer, State.settle]
  · change ((answer state (timerReset state el.obj)).1.objects el.obj).isRunning = true
    rw [sound.timerReset_eq member]
    simp [answer, State.settle]

theorem OneShots.next_start {shots : OneShots} {call : Call} {obj : Nat} {timer : OneShot}
    (found : shots.timer obj = some timer) (starts : call = .start obj ∨ call = .reset obj) :
    oneShots.next shots call = shots.settle obj { timer with armed := timer.delay } := by
  have changed : (shots.change obj fun timer => { timer with armed := timer.delay }).1 =
      shots.settle obj { timer with armed := timer.delay } := by
    simp [OneShots.change, found]
  rcases starts with rfl | rfl
  · exact changed
  · exact changed

theorem misuseLaws_of_registered (sound : state.Sound)
    (registered : Registered past state.view) (call : Call) : MisuseLaws past state call := by
  have reply : timers.reply state call = oneShots.reply state.view call :=
    timerRefinement.reply_eq state call sound
  have next : (timers.next state call).view = oneShots.next state.view call :=
    timerRefinement.view_next state call sound
  have nextSound : (timers.next state call).Sound := timerRefinement.preserved state call sound
  constructor
  case hang_iff =>
    rw [reply]
    constructor
    · intro hangs
      rcases reply_fault_cases state.view hangs with ⟨obj, callback, allocated, rfl⟩ | ⟨obj, uses⟩
      · refine ⟨obj, callback, allocated, rfl, ?_⟩
        rw [reply_init] at hangs
        by_contra absent
        rw [← registered.known] at absent
        cases allocated <;> simp [absent] at hangs
      · rw [reply_uses state.view uses] at hangs
        split at hangs <;> simp at hangs
    · intro again
      rcases again with ⟨obj, callback, allocated, rfl, initialised⟩
      rw [reply_init, if_pos ((registered.known obj).mpr initialised)]
  case assert_iff =>
    rw [reply]
    constructor
    · intro fails
      rcases reply_fault_cases state.view fails with ⟨obj, callback, allocated, rfl⟩ | ⟨obj, uses⟩
      · rw [reply_init] at fails
        by_cases initialised : Initialised past obj
        · simp [(registered.known obj).mpr initialised] at fails
        · cases allocated with
          | false => exact .inl ⟨obj, callback, rfl, initialised⟩
          | true =>
              rw [if_neg ((registered.known obj).not.mpr initialised)] at fails
              simp at fails
      · refine .inr ⟨obj, uses, fun initialised => ?_⟩
        rw [reply_uses state.view uses, if_pos ((registered.known obj).mpr initialised)] at fails
        simp at fails
    · intro wrong
      rcases wrong with ⟨obj, callback, rfl, absent⟩ | ⟨obj, uses, absent⟩
      · rw [reply_init, if_neg ((registered.known obj).not.mpr absent)]
        rfl
      · rw [reply_uses state.view uses, if_neg ((registered.known obj).not.mpr absent)]
  case callouts =>
    intro fault failed
    rw [reply] at failed
    rcases reply_fault_cases state.view failed with ⟨obj, callback, allocated, rfl⟩ | ⟨obj, uses⟩
    · rw [reply_init] at failed
      split at failed
      · exact .inl (Reply.fault.inj failed).symm
      · split at failed
        · exact Reply.noConfusion failed
        · exact .inr (Reply.fault.inj failed).symm
    · rw [reply_uses state.view uses] at failed
      split at failed
      · exact Reply.noConfusion failed
      · exact .inr (Reply.fault.inj failed).symm
  case start =>
    intro obj value starts set
    rw [← registered.reload obj] at set
    rcases Option.map_eq_some_iff.mp set with ⟨timer, found, rfl⟩
    have known : (state.el obj).isSome = true := by
      simpa [State.view] using congrArg Option.isSome found
    have settled := OneShots.next_start found starts
    refine ⟨?_, ?_, isRunning_of_start sound known starts⟩
    · rw [State.armed_eq, next, settled]
      simp [OneShots.settle, OneShot.delay]
    · rw [nextSound.pending_iff, next, settled]
      simp [OneShots.settle]

end Laws

/-- At every step of every run, whatever the calls. -/
theorem timer_misuse (objects : Nat → TimerEvent) (calls : List Call) (call : Call) :
    MisuseLaws (timers.trace (State.initial objects) calls)
      (timers.run (State.initial objects) calls) call := by
  have start := State.Sound.initial objects
  have viewed : (timers.run (State.initial objects) calls).view =
      oneShots.run OneShots.initial calls :=
    timerRefinement.view_run calls (State.initial objects) start
  have traced : timers.trace (State.initial objects) calls =
      oneShots.trace OneShots.initial calls :=
    timerRefinement.trace_eq calls (State.initial objects) start
  have registered := oneShots.history Registered
    (fun past shots call registered => registered.next call) calls OneShots.initial
    Registered.initial
  apply misuseLaws_of_registered (timerRefinement.invariant_run calls _ start)
  rw [viewed, traced]
  exact registered

end Lorawan.Timers
