import Lorawan.Timers.Api

/-! # Independent one-shot timers

What the timer module is for, with neither flags nor callouts: each timer is idle,
armed, or has its callback queued, and starting it forgets what it was doing. -/

namespace Lorawan.Timers

structure OneShot where
  callback : Callback
  reload : BitVec 32
  armed : Option Nat
  deriving DecidableEq, Repr

/-- The delay for which a start arms the timer, if the OS takes it. -/
def OneShot.delay (timer : OneShot) : Option Nat :=
  if timer.reload.toNat < 2 ^ 31 then some timer.reload.toNat else none

structure OneShots where
  timer : Nat → Option OneShot
  /-- The timers whose callbacks are queued, oldest first. -/
  queue : List Nat

namespace OneShots

def initial : OneShots where
  timer _ := none
  queue := []

/-- Give a timer a new setting, and drop its queued callback. -/
def settle (shots : OneShots) (obj : Nat) (timer : OneShot) : OneShots where
  timer := Function.update shots.timer obj (some timer)
  queue := shots.queue.filter (· ≠ obj)

theorem timer_settle (shots : OneShots) (obj : Nat) (timer : OneShot) :
    (shots.settle obj timer).timer = Function.update shots.timer obj (some timer) :=
  rfl

/-- A call on a timer that was initialised. -/
def change (shots : OneShots) (obj : Nat) (setting : OneShot → OneShot) : OneShots × Reply :=
  match shots.timer obj with
  | none => (shots, .fault .assertFailed)
  | some timer => (shots.settle obj (setting timer), .done)

def init (shots : OneShots) (obj : Nat) (callback : Callback) (allocated : Bool) :
    OneShots × Reply :=
  if (shots.timer obj).isSome then (shots, .fault .hang)
  else if allocated then
    (shots.settle obj { callback, reload := 0#32, armed := none }, .done)
  else (shots, .fault .assertFailed)

/-- The time of a timer is up. -/
def moveToQueue (shots : OneShots) (obj : Nat) (timer : OneShot) : OneShots where
  timer := Function.update shots.timer obj (some { timer with armed := none })
  queue := shots.queue ++ [obj]

theorem timer_moveToQueue (shots : OneShots) (obj : Nat) (timer : OneShot) :
    (shots.moveToQueue obj timer).timer =
      Function.update shots.timer obj (some { timer with armed := none }) :=
  rfl

def expire (shots : OneShots) (obj : Nat) : OneShots :=
  match shots.timer obj with
  | none => shots
  | some timer => if timer.armed = some 0 then shots.moveToQueue obj timer else shots

def dispatch (shots : OneShots) : OneShots × Reply :=
  match shots.queue with
  | [] => (shots, .done)
  | obj :: rest =>
      ({ shots with queue := rest },
        .invoked (some obj) ((shots.timer obj).elim 0 OneShot.callback))

def tick (shots : OneShots) : OneShots :=
  { shots with
    timer := fun obj => (shots.timer obj).map fun timer =>
      { timer with armed := timer.armed.map (· - 1) } }

end OneShots

def oneShots : Machine OneShots Call Reply where
  step shots
    | .init obj callback allocated => shots.init obj callback allocated
    | .start obj => shots.change obj fun timer => { timer with armed := timer.delay }
    | .stop obj => shots.change obj fun timer => { timer with armed := none }
    | .setValue obj value =>
        shots.change obj fun timer => { timer with reload := value, armed := none }
    | .reset obj => shots.change obj fun timer => { timer with armed := timer.delay }
    | .tick => (shots.tick, .done)
    | .expire obj => (shots.expire obj, .done)
    | .dispatch => shots.dispatch

/-! ## Histories -/

/-- The answered calls so far, oldest first. -/
abbrev History := List (Call × Reply)

/-- What can happen to a timer that its callback depends on. -/
inductive Touch
  | started
  /-- `TimerInit`, `TimerStop` or `TimerSetValue`. -/
  | settled
  | invoked
  deriving DecidableEq, Repr

def touchOn (obj : Nat) : Call × Reply → Option Touch
  | (.start other, .done) => if other = obj then some .started else none
  | (.reset other, .done) => if other = obj then some .started else none
  | (.init other _ _, .done) => if other = obj then some .settled else none
  | (.stop other, .done) => if other = obj then some .settled else none
  | (.setValue other _, .done) => if other = obj then some .settled else none
  | (.dispatch, .invoked (some other) _) => if other = obj then some .invoked else none
  | _ => none

/-- The value that a step gives to `ReloadValue`. -/
def reloadOn (obj : Nat) : Call × Reply → Option (BitVec 32)
  | (.init other _ _, .done) => if other = obj then some 0#32 else none
  | (.setValue other value, .done) => if other = obj then some value else none
  | _ => none

/-- The callback that a step registers. -/
def callbackOn (obj : Nat) : Call × Reply → Option Callback
  | (.init other callback _, .done) => if other = obj then some callback else none
  | _ => none

/-- `TimerInit` comes once for each object and before its other calls, it gets its
memory, and delays fit an `int32_t`. -/
def OneShots.Proper (shots : OneShots) : Call → Prop
  | .init obj _ allocated => shots.timer obj = none ∧ allocated = true
  | .start obj => (shots.timer obj).isSome = true
  | .stop obj => (shots.timer obj).isSome = true
  | .setValue obj value => (shots.timer obj).isSome = true ∧ value.toNat < 2 ^ 31
  | .reset obj => (shots.timer obj).isSome = true
  | .tick => True
  | .expire _ => True
  | .dispatch => True

/-- What the history says about each timer. A timer that is armed or has its
callback queued was started, and nothing has happened to it since. -/
structure Recorded (past : History) (shots : OneShots) : Prop where
  queue_nodup : shots.queue.Nodup
  queued_known : ∀ obj ∈ shots.queue, (shots.timer obj).isSome = true
  armed_unqueued : ∀ obj timer, shots.timer obj = some timer → timer.armed ≠ none →
    obj ∉ shots.queue
  armed_started : ∀ obj timer, shots.timer obj = some timer → timer.armed ≠ none →
    latest (touchOn obj) past = some .started
  queued_started : ∀ obj ∈ shots.queue, latest (touchOn obj) past = some .started
  reload : ∀ obj, (shots.timer obj).map OneShot.reload = latest (reloadOn obj) past
  callback : ∀ obj, (shots.timer obj).map OneShot.callback = latest (callbackOn obj) past
  small : ∀ obj timer, shots.timer obj = some timer → timer.reload.toNat < 2 ^ 31

namespace Recorded

theorem initial : Recorded [] OneShots.initial := by
  constructor <;> simp [OneShots.initial]

variable {past : History} {shots : OneShots}

/-- After one timer is written, a timer is that one or an old one. -/
theorem update_cases {timers : Nat → Option OneShot} {obj other : Nat}
    {written timer : OneShot}
    (atOther : Function.update timers obj (some written) other = some timer) :
    other = obj ∧ timer = written ∨ other ≠ obj ∧ timers other = some timer := by
  by_cases same : other = obj
  · subst same
    rw [Function.update_self] at atOther
    exact .inl ⟨rfl, (Option.some.inj atOther).symm⟩
  · rw [Function.update_of_ne same] at atOther
    exact .inr ⟨same, atOther⟩

/-- What the history says about a field, after a step that gives it to one timer. -/
theorem map_settle {Value : Type} {field : OneShot → Value}
    {observe : Nat → Call × Reply → Option Value} {obj : Nat} {timer : OneShot}
    {answered : Call × Reply}
    (before : ∀ other, (shots.timer other).map field = latest (observe other) past)
    (atObj : (observe obj answered).or (latest (observe obj) past) = some (field timer))
    (elsewhere : ∀ other, obj ≠ other → observe other answered = none) (other : Nat) :
    ((shots.settle obj timer).timer other).map field =
      latest (observe other) (past ++ [answered]) := by
  rw [latest_append, OneShots.timer_settle]
  by_cases same : other = obj
  · subst same
    rw [Function.update_self, atObj]
    rfl
  · rw [Function.update_of_ne same, elsewhere other fun equal => same equal.symm,
      Option.none_or]
    exact before other

/-- A step that settles one timer: the history shows how. -/
theorem settle (recorded : Recorded past shots) {obj : Nat} {timer : OneShot}
    {answered : Call × Reply} {touch : Touch}
    (touched : ∀ other, touchOn other answered = if obj = other then some touch else none)
    (reloaded : (reloadOn obj answered).or (latest (reloadOn obj) past) = some timer.reload)
    (reloadedOther : ∀ other, obj ≠ other → reloadOn other answered = none)
    (registered : (callbackOn obj answered).or (latest (callbackOn obj) past) =
      some timer.callback)
    (registeredOther : ∀ other, obj ≠ other → callbackOn other answered = none)
    (armedStarted : timer.armed ≠ none → touch = .started)
    (small : timer.reload.toNat < 2 ^ 31) :
    Recorded (past ++ [answered]) (shots.settle obj timer) := by
  have queued : ∀ other, other ∈ (shots.settle obj timer).queue ↔
      other ∈ shots.queue ∧ other ≠ obj := by
    intro other
    simp [OneShots.settle]
  have touchedElsewhere : ∀ other, other ≠ obj →
      latest (touchOn other) (past ++ [answered]) = latest (touchOn other) past := by
    intro other different
    rw [latest_append, touched, if_neg fun equal => different equal.symm]
    rfl
  constructor
  case queue_nodup => exact recorded.queue_nodup.filter _
  case queued_known =>
    intro other member
    rcases (queued other).mp member with ⟨member, different⟩
    rw [OneShots.timer_settle, Function.update_of_ne different]
    exact recorded.queued_known other member
  case armed_unqueued =>
    intro other otherTimer atOther armed member
    rcases (queued other).mp member with ⟨member, different⟩
    rcases update_cases atOther with ⟨same, _⟩ | ⟨_, atOther⟩
    · exact different same
    · exact recorded.armed_unqueued other otherTimer atOther armed member
  case armed_started =>
    intro other otherTimer atOther armed
    rcases update_cases atOther with ⟨rfl, rfl⟩ | ⟨different, atOther⟩
    · rw [latest_append, touched, if_pos rfl, armedStarted armed]
      rfl
    · rw [touchedElsewhere other different]
      exact recorded.armed_started other otherTimer atOther armed
  case queued_started =>
    intro other member
    rcases (queued other).mp member with ⟨member, different⟩
    rw [touchedElsewhere other different]
    exact recorded.queued_started other member
  case reload => exact map_settle recorded.reload reloaded reloadedOther
  case callback => exact map_settle recorded.callback registered registeredOther
  case small =>
    intro other otherTimer atOther
    rcases update_cases atOther with ⟨_, rfl⟩ | ⟨_, atOther⟩
    · exact small
    · exact recorded.small other otherTimer atOther

/-- A step of the OS that no timer's history mentions. -/
theorem unobserved (recorded : Recorded past shots) (call : Call) (reply : Reply)
    (touched : ∀ obj, touchOn obj (call, reply) = none)
    (reloaded : ∀ obj, reloadOn obj (call, reply) = none)
    (registered : ∀ obj, callbackOn obj (call, reply) = none) :
    Recorded (past ++ [(call, reply)]) shots := by
  constructor
  case queue_nodup => exact recorded.queue_nodup
  case queued_known => exact recorded.queued_known
  case armed_unqueued => exact recorded.armed_unqueued
  case armed_started => simpa [touched] using recorded.armed_started
  case queued_started => simpa [touched] using recorded.queued_started
  case reload => simpa [reloaded] using recorded.reload
  case callback => simpa [registered] using recorded.callback
  case small => exact recorded.small

theorem tick (recorded : Recorded past shots) : Recorded past shots.tick := by
  have source : ∀ obj timer, shots.tick.timer obj = some timer → ∃ before,
      shots.timer obj = some before ∧
        timer = { before with armed := before.armed.map (· - 1) } := by
    intro obj timer atObj
    rcases Option.map_eq_some_iff.mp atObj with ⟨before, found, rfl⟩
    exact ⟨before, found, rfl⟩
  constructor
  case queue_nodup => exact recorded.queue_nodup
  case queued_known =>
    intro obj member
    have known := recorded.queued_known obj member
    simpa [OneShots.tick] using known
  case armed_unqueued =>
    intro obj timer atObj armed
    rcases source obj timer atObj with ⟨before, found, rfl⟩
    exact recorded.armed_unqueued obj before found fun unarmed => armed (by simp [unarmed])
  case armed_started =>
    intro obj timer atObj armed
    rcases source obj timer atObj with ⟨before, found, rfl⟩
    exact recorded.armed_started obj before found fun unarmed => armed (by simp [unarmed])
  case queued_started => exact recorded.queued_started
  case reload =>
    intro obj
    rw [← recorded.reload obj]
    simp [OneShots.tick, Function.comp_def]
  case callback =>
    intro obj
    rw [← recorded.callback obj]
    simp [OneShots.tick, Function.comp_def]
  case small =>
    intro obj timer atObj
    rcases source obj timer atObj with ⟨before, found, rfl⟩
    exact recorded.small obj before found

/-- Moving a timer to the queue changes no field that the history shows. -/
theorem map_moveToQueue {Value : Type} {field : OneShot → Value} {obj : Nat}
    {timer : OneShot} (found : shots.timer obj = some timer)
    (same : field { timer with armed := none } = field timer) (other : Nat) :
    ((shots.moveToQueue obj timer).timer other).map field = (shots.timer other).map field := by
  rw [OneShots.timer_moveToQueue]
  by_cases atObj : other = obj
  · subst atObj
    rw [Function.update_self, found, Option.map_some, Option.map_some, same]
  · rw [Function.update_of_ne atObj]

theorem moveToQueue (recorded : Recorded past shots) {obj : Nat} {timer : OneShot}
    (found : shots.timer obj = some timer) (armed : timer.armed ≠ none) :
    Recorded past (shots.moveToQueue obj timer) := by
  have unqueued := recorded.armed_unqueued obj timer found armed
  have started := recorded.armed_started obj timer found armed
  have queued : ∀ other, other ∈ (shots.moveToQueue obj timer).queue ↔
      other ∈ shots.queue ∨ other = obj := by
    intro other
    simp [OneShots.moveToQueue]
  constructor
  case queue_nodup =>
    refine List.nodup_append.mpr ⟨recorded.queue_nodup, by simp, ?_⟩
    intro other member last lastMem equal
    rcases List.mem_singleton.mp lastMem with rfl
    exact unqueued (equal ▸ member)
  case queued_known =>
    intro other member
    rw [OneShots.timer_moveToQueue]
    by_cases same : other = obj
    · rw [same, Function.update_self]
      rfl
    · rw [Function.update_of_ne same]
      exact recorded.queued_known other (((queued other).mp member).resolve_right same)
  case armed_unqueued =>
    intro other otherTimer atOther otherArmed member
    rcases update_cases atOther with ⟨_, rfl⟩ | ⟨different, atOther⟩
    · exact otherArmed rfl
    · exact recorded.armed_unqueued other otherTimer atOther otherArmed
        (((queued other).mp member).resolve_right different)
  case armed_started =>
    intro other otherTimer atOther otherArmed
    rcases update_cases atOther with ⟨rfl, _⟩ | ⟨_, atOther⟩
    · exact started
    · exact recorded.armed_started other otherTimer atOther otherArmed
  case queued_started =>
    intro other member
    rcases (queued other).mp member with member | rfl
    · exact recorded.queued_started other member
    · exact started
  case reload => exact fun other => (map_moveToQueue found rfl other).trans (recorded.reload other)
  case callback =>
    exact fun other => (map_moveToQueue found rfl other).trans (recorded.callback other)
  case small =>
    intro other otherTimer atOther
    rcases update_cases atOther with ⟨_, rfl⟩ | ⟨_, atOther⟩
    · exact recorded.small obj timer found
    · exact recorded.small other otherTimer atOther

theorem expire (recorded : Recorded past shots) (obj : Nat) :
    Recorded past (shots.expire obj) := by
  unfold OneShots.expire
  cases found : shots.timer obj with
  | none => exact recorded
  | some timer =>
      by_cases due : timer.armed = some 0
      · simp only [due, if_true]
        exact recorded.moveToQueue found (by simp [due])
      · simp only [due, if_false]
        exact recorded

/-- The callback that is invoked was started last, and is forgotten. -/
theorem dispatch (recorded : Recorded past shots) {obj : Nat} {rest : List Nat}
    (queue : shots.queue = obj :: rest) (callback : Callback) :
    Recorded (past ++ [(.dispatch, .invoked (some obj) callback)])
      { shots with queue := rest } := by
  have nodup := recorded.queue_nodup
  rw [queue] at nodup
  rcases List.nodup_cons.mp nodup with ⟨gone, restNodup⟩
  have inQueue : ∀ other ∈ rest, other ∈ shots.queue := fun other member => by
    simp [queue, member]
  have touchedElsewhere : ∀ other, other ≠ obj →
      latest (touchOn other) (past ++ [(.dispatch, .invoked (some obj) callback)]) =
        latest (touchOn other) past := by
    intro other different
    have apart : ¬obj = other := fun equal => different equal.symm
    simp [touchOn, apart]
  constructor
  case queue_nodup => exact restNodup
  case queued_known => exact fun other member => recorded.queued_known other (inQueue other member)
  case armed_unqueued =>
    intro other timer atOther armed member
    exact recorded.armed_unqueued other timer atOther armed (inQueue other member)
  case armed_started =>
    intro other timer atOther armed
    have different : other ≠ obj := fun equal =>
      recorded.armed_unqueued other timer atOther armed (by simp [queue, equal])
    rw [touchedElsewhere other different]
    exact recorded.armed_started other timer atOther armed
  case queued_started =>
    intro other member
    have different : other ≠ obj := fun equal => gone (equal ▸ member)
    rw [touchedElsewhere other different]
    exact recorded.queued_started other (inQueue other member)
  case reload => simpa [reloadOn] using recorded.reload
  case callback => simpa [callbackOn] using recorded.callback
  case small => exact recorded.small

/-- A call that leaves the timer's callback, and perhaps its delay, as they were. -/
theorem change (recorded : Recorded past shots) {obj : Nat} {timer : OneShot}
    (found : shots.timer obj = some timer) (setting : OneShot → OneShot) (call : Call)
    (touch : Touch)
    (touched : ∀ other, touchOn other (call, .done) = if obj = other then some touch else none)
    (reloaded : (reloadOn obj (call, .done)).getD timer.reload = (setting timer).reload)
    (reloadedOther : ∀ other, obj ≠ other → reloadOn other (call, .done) = none)
    (registered : ∀ other, callbackOn other (call, .done) = none)
    (sameCallback : (setting timer).callback = timer.callback)
    (armedStarted : (setting timer).armed ≠ none → touch = .started)
    (small : (setting timer).reload.toNat < 2 ^ 31) :
    Recorded (past ++ [(call, (shots.change obj setting).2)]) (shots.change obj setting).1 := by
  have changed : shots.change obj setting = (shots.settle obj (setting timer), .done) := by
    simp [OneShots.change, found]
  have reloadBefore := recorded.reload obj
  have callbackBefore := recorded.callback obj
  rw [found] at reloadBefore callbackBefore
  rw [changed]
  apply recorded.settle touched _ reloadedOther _ (fun other _ => registered other) armedStarted
    small
  · rw [← reloadBefore]
    cases value : reloadOn obj (call, .done) with
    | none => simpa [value] using reloaded
    | some value' => simpa [value] using reloaded
  · rw [← callbackBefore, registered, sameCallback]
    rfl

/-- Every proper step keeps the record. -/
theorem next (recorded : Recorded past shots) (call : Call) (proper : shots.Proper call) :
    Recorded (past ++ [(call, oneShots.reply shots call)]) (oneShots.next shots call) := by
  cases call with
  | init obj callback allocated =>
      rcases proper with ⟨absent, rfl⟩
      have done : shots.init obj callback true =
          (shots.settle obj { callback, reload := 0#32, armed := none }, .done) := by
        simp [OneShots.init, absent]
      change Recorded (past ++ [(_, (shots.init obj callback true).2)])
        (shots.init obj callback true).1
      rw [done]
      have touched : ∀ other, touchOn other (.init obj callback true, .done) =
          if obj = other then some .settled else none := fun _ => rfl
      apply recorded.settle touched
      · simp [reloadOn]
      · exact fun other different => if_neg different
      · simp [callbackOn]
      · exact fun other different => if_neg different
      · exact fun armed => absurd rfl armed
      · simp
  | start obj =>
      rcases Option.isSome_iff_exists.mp proper with ⟨timer, found⟩
      exact recorded.change found (fun timer => { timer with armed := timer.delay }) (.start obj)
        .started (fun _ => rfl) rfl (fun _ _ => rfl) (fun _ => rfl) rfl (fun _ => rfl)
        (recorded.small obj timer found)
  | stop obj =>
      rcases Option.isSome_iff_exists.mp proper with ⟨timer, found⟩
      exact recorded.change found (fun timer => { timer with armed := none }) (.stop obj)
        .settled (fun _ => rfl) rfl (fun _ _ => rfl) (fun _ => rfl) rfl
        (fun armed => absurd rfl armed) (recorded.small obj timer found)
  | setValue obj value =>
      rcases proper with ⟨known, small⟩
      rcases Option.isSome_iff_exists.mp known with ⟨timer, found⟩
      exact recorded.change found (fun timer => { timer with reload := value, armed := none })
        (.setValue obj value) .settled (fun _ => rfl) (by simp [reloadOn])
        (fun other different => if_neg different) (fun _ => rfl) rfl
        (fun armed => absurd rfl armed) small
  | reset obj =>
      rcases Option.isSome_iff_exists.mp proper with ⟨timer, found⟩
      exact recorded.change found (fun timer => { timer with armed := timer.delay }) (.reset obj)
        .started (fun _ => rfl) rfl (fun _ _ => rfl) (fun _ => rfl) rfl (fun _ => rfl)
        (recorded.small obj timer found)
  | tick => exact recorded.tick.unobserved .tick .done (fun _ => rfl) (fun _ => rfl) (fun _ => rfl)
  | expire obj =>
      exact (recorded.expire obj).unobserved (.expire obj) .done (fun _ => rfl) (fun _ => rfl)
        (fun _ => rfl)
  | dispatch =>
      change Recorded (past ++ [(_, shots.dispatch.2)]) shots.dispatch.1
      cases queue : shots.queue with
      | nil =>
          have idle : shots.dispatch = (shots, .done) := by simp [OneShots.dispatch, queue]
          rw [idle]
          exact recorded.unobserved .dispatch .done (fun _ => rfl) (fun _ => rfl) (fun _ => rfl)
      | cons obj rest =>
          have taken : shots.dispatch = ({ shots with queue := rest },
              .invoked (some obj) ((shots.timer obj).elim 0 OneShot.callback)) := by
            simp [OneShots.dispatch, queue]
          rw [taken]
          exact recorded.dispatch queue _

end Recorded

end Lorawan.Timers
