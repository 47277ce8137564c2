import Mathlib.Data.List.Nodup
import Lorawan.Timers.OneShot

/-! # `timer.c` refines one-shot timers

The only guard of the source is the flag `IsRunning`, which expiry does not clear.
The invariant that makes it enough: a timer whose flag is down has a callout that is
neither armed nor queued. -/

namespace Lorawan.Timers

namespace State

/-- The element of an object in `l_tim_list`. -/
def el (state : State) (obj : Nat) : Option TimList :=
  state.lTimList.find? fun el => el.obj == obj

structure Sound (state : State) : Prop where
  objs_nodup : (state.lTimList.map TimList.obj).Nodup
  tims_nodup : (state.lTimList.map TimList.osTim).Nodup
  tim_lt : ∀ el ∈ state.lTimList, el.osTim < state.calloutBlocks
  queued_known : ∀ osTim ∈ state.evq, osTim ∈ state.lTimList.map TimList.osTim
  /-- A timer whose flag is down is idle. -/
  idle : ∀ el ∈ state.lTimList, (state.objects el.obj).isRunning = false →
    (state.callouts el.osTim).armed = none ∧ el.osTim ∉ state.evq
  running : ∀ el ∈ state.lTimList, (state.objects el.obj).isRunning = true →
    (state.callouts el.osTim).initialised = true
  callback : ∀ el ∈ state.lTimList, (state.callouts el.osTim).initialised = true →
    (state.callouts el.osTim).evArg = (state.objects el.obj).callback

/-- Give the object of an element and its callout new contents, and take the event
of the callout from the queue. -/
def settle (state : State) (el : TimList) (event : TimerEvent) (callout : Callout) : State :=
  { state with
    objects := Function.update state.objects el.obj event
    callouts := Function.update state.callouts el.osTim callout
    evq := state.evq.filter (· ≠ el.osTim) }

theorem Sound.initial (objects : Nat → TimerEvent) : (State.initial objects).Sound := by
  constructor <;> simp [State.initial]

variable {state : State}

theorem mem_of_el {obj : Nat} {el : TimList} (found : state.el obj = some el) :
    el ∈ state.lTimList ∧ el.obj = obj :=
  ⟨List.mem_of_find?_eq_some found, by simpa using List.find?_some found⟩

theorem findTimerEl_eq {obj : Nat} {el : TimList} (found : state.el obj = some el) :
    findTimerEl state obj = .ok el := by
  unfold State.el at found
  simp [findTimerEl, found]

namespace Sound

theorem eq_of_obj_eq (sound : state.Sound) {left right : TimList}
    (leftMem : left ∈ state.lTimList) (rightMem : right ∈ state.lTimList)
    (same : left.obj = right.obj) : left = right :=
  List.inj_on_of_nodup_map sound.objs_nodup leftMem rightMem same

theorem eq_of_osTim_eq (sound : state.Sound) {left right : TimList}
    (leftMem : left ∈ state.lTimList) (rightMem : right ∈ state.lTimList)
    (same : left.osTim = right.osTim) : left = right :=
  List.inj_on_of_nodup_map sound.tims_nodup leftMem rightMem same

theorem el_eq (sound : state.Sound) {el : TimList} (member : el ∈ state.lTimList) :
    state.el el.obj = some el := by
  cases found : state.el el.obj with
  | none =>
      have missed := List.find?_eq_none.mp found el member
      simp at missed
  | some other =>
      rcases mem_of_el found with ⟨otherMem, same⟩
      rw [sound.eq_of_obj_eq otherMem member same]

theorem owner_eq (sound : state.Sound) {el : TimList} (member : el ∈ state.lTimList) :
    state.owner el.osTim = some el.obj := by
  cases found : state.lTimList.find? fun other => other.osTim == el.osTim with
  | none =>
      have missed := List.find?_eq_none.mp found el member
      simp at missed
  | some other =>
      have same : other.osTim = el.osTim := by simpa using List.find?_some found
      rw [TimerState.owner, found,
        sound.eq_of_osTim_eq (List.mem_of_find?_eq_some found) member same]
      rfl

theorem owner_eq_some_iff (sound : state.Sound) {el : TimList} (member : el ∈ state.lTimList)
    (osTim : Nat) : state.owner osTim = some el.obj ↔ osTim = el.osTim := by
  constructor
  · intro owned
    rcases Option.map_eq_some_iff.mp owned with ⟨other, found, sameObj⟩
    have sameTim : other.osTim = osTim := by simpa using List.find?_some found
    rw [← sameTim, sound.eq_of_obj_eq (List.mem_of_find?_eq_some found) member sameObj]
  · intro same
    rw [same]
    exact sound.owner_eq member

/-- A timer that is armed or queued has its flag up. -/
theorem isRunning_of_live (sound : state.Sound) {el : TimList} (member : el ∈ state.lTimList)
    (live : (state.callouts el.osTim).armed ≠ none ∨ el.osTim ∈ state.evq) :
    (state.objects el.obj).isRunning = true := by
  cases flag : (state.objects el.obj).isRunning with
  | true => rfl
  | false =>
      rcases sound.idle el member flag with ⟨unarmed, unqueued⟩
      rcases live with armed | queued
      · exact absurd unarmed armed
      · exact absurd queued unqueued

/-! ## The calls -/

/-- Stopping, whether or not the flag is up. -/
theorem settle_of_idle (sound : state.Sound) {el : TimList} (member : el ∈ state.lTimList)
    (flag : (state.objects el.obj).isRunning = false) :
    state.settle el { state.objects el.obj with isRunning := false }
      { state.callouts el.osTim with armed := none } = state := by
  rcases sound.idle el member flag with ⟨unarmed, unqueued⟩
  have sameEvent : { state.objects el.obj with isRunning := false } = state.objects el.obj := by
    rw [← flag]
  have sameCallout : { state.callouts el.osTim with armed := none } =
      state.callouts el.osTim := by
    rw [← unarmed]
  have sameQueue : state.evq.filter (· ≠ el.osTim) = state.evq := by
    apply List.filter_eq_self.mpr
    intro osTim queued
    have apart : osTim ≠ el.osTim := fun same => unqueued (same ▸ queued)
    simpa using apart
  rw [settle, sameEvent, sameCallout, sameQueue, Function.update_eq_self,
    Function.update_eq_self]

theorem timerStop_eq (sound : state.Sound) {el : TimList} (member : el ∈ state.lTimList) :
    timerStop state el.obj =
      .ok (state.settle el { state.objects el.obj with isRunning := false }
        { state.callouts el.osTim with armed := none }) := by
  cases flag : (state.objects el.obj).isRunning with
  | false =>
      rw [sound.settle_of_idle member flag]
      simp only [timerStop, findTimerEl_eq (sound.el_eq member), flag]
      rfl
  | true =>
      have stopped : osCalloutStop state el.osTim = .ok
          { state with
            callouts :=
              Function.update state.callouts el.osTim
                { state.callouts el.osTim with armed := none }
            evq := state.evq.filter (· ≠ el.osTim) } := if_pos (sound.running el member flag)
      simp only [timerStop, findTimerEl_eq (sound.el_eq member), flag, bind, Except.bind, stopped]
      rfl

/-- The first lines of `TimerStart` and `TimerSetValue`. -/
theorem stopIfRunning_eq (sound : state.Sound) {el : TimList} (member : el ∈ state.lTimList) :
    stopIfRunning state el.obj =
      .ok (state.settle el { state.objects el.obj with isRunning := false }
        { state.callouts el.osTim with armed := none }) := by
  cases flag : (state.objects el.obj).isRunning with
  | false =>
      rw [sound.settle_of_idle member flag]
      simp [stopIfRunning, flag]
  | true =>
      rw [stopIfRunning, if_pos flag]
      exact sound.timerStop_eq member

end Sound

theorem settle_settle (state : State) (el : TimList) (first second : TimerEvent)
    (firstCallout secondCallout : Callout) :
    (state.settle el first firstCallout).settle el second secondCallout =
      state.settle el second secondCallout := by
  simp [settle, List.filter_filter]

theorem el_settle (state : State) (el : TimList) (event : TimerEvent) (callout : Callout) :
    (state.settle el event callout).el = state.el := rfl

/-- The delay for which `os_callout_reset` arms a callout. -/
def delay (ticks : BitVec 32) : Option Nat :=
  if ticks.toNat < 2 ^ 31 then some ticks.toNat else none

theorem osCalloutInit_settle (state : State) (el : TimList) (event : TimerEvent)
    (callout : Callout) (unarmed : callout.armed = none) (evArg : Callback) :
    osCalloutInit (state.settle el event callout) el.osTim evArg =
      .ok (state.settle el event { initialised := true, evArg, armed := none }) := by
  have unlinked : ¬(((state.settle el event callout).callouts el.osTim).armed.isSome ∨
      el.osTim ∈ (state.settle el event callout).evq) := by
    simp [settle, unarmed]
  rw [osCalloutInit, ofCallout_eq, if_neg unlinked]
  simp [settle]

theorem osCalloutReset_settle (state : State) (el : TimList) (event : TimerEvent)
    (callout : Callout) (unarmed : callout.armed = none) (ticks : BitVec 32) :
    osCalloutReset (state.settle el event callout) el.osTim ticks =
      state.settle el event { callout with armed := delay ticks } := by
  by_cases positive : ticks.toNat < 2 ^ 31
  · rw [osCalloutReset, if_pos positive, delay, if_pos positive]
    simp [settle]
  · have same : { callout with armed := none } = callout := by rw [← unarmed]
    rw [osCalloutReset, if_neg positive, delay, if_neg positive, same]

theorem setObject_settle (state : State) (el : TimList) (first second : TimerEvent)
    (callout : Callout) :
    (state.settle el first callout).setObject el.obj second = state.settle el second callout := by
  simp [settle, TimerState.setObject]

theorem object_settle (state : State) (el : TimList) (event : TimerEvent) (callout : Callout) :
    (state.settle el event callout).objects el.obj = event := by
  simp [settle]

namespace Sound

theorem timerStart_eq (sound : state.Sound) {el : TimList} (member : el ∈ state.lTimList) :
    timerStart state el.obj =
      .ok (state.settle el { state.objects el.obj with isRunning := true }
        { initialised := true
          evArg := (state.objects el.obj).callback
          armed := delay (state.objects el.obj).reloadValue }) := by
  have stopped := sound.stopIfRunning_eq member
  let event : TimerEvent := { state.objects el.obj with isRunning := false }
  let callout : Callout := { state.callouts el.osTim with armed := none }
  have found : findTimerEl (state.settle el event callout) el.obj = .ok el :=
    findTimerEl_eq (sound.el_eq member)
  unfold timerStart
  rw [stopped]
  simp only [bind, Except.bind]
  rw [found]
  simp only [object_settle]
  rw [osCalloutInit_settle _ _ _ _ rfl]
  simp only [object_settle]
  rw [osCalloutReset_settle _ _ _ _ rfl, object_settle, setObject_settle]
  rfl

theorem timerSetValue_eq (sound : state.Sound) {el : TimList} (member : el ∈ state.lTimList)
    (value : BitVec 32) :
    timerSetValue state el.obj value =
      .ok (state.settle el
        { state.objects el.obj with isRunning := false, reloadValue := value }
        { state.callouts el.osTim with armed := none }) := by
  have stopped := sound.stopIfRunning_eq member
  unfold timerSetValue
  rw [findTimerEl_eq (sound.el_eq member)]
  simp only [bind, Except.bind]
  rw [stopped]
  simp only [object_settle, setObject_settle]
  rfl

/-- New contents for one object and its callout. -/
theorem settle (sound : state.Sound) {el : TimList} (member : el ∈ state.lTimList)
    {event : TimerEvent} {callout : Callout}
    (down : event.isRunning = false → callout.armed = none)
    (up : event.isRunning = true → callout.initialised = true)
    (callback : callout.initialised = true → callout.evArg = event.callback) :
    (state.settle el event callout).Sound := by
  have apart : ∀ other ∈ state.lTimList, other ≠ el →
      other.obj ≠ el.obj ∧ other.osTim ≠ el.osTim := fun other otherMem different =>
    ⟨fun same => different (sound.eq_of_obj_eq otherMem member same),
      fun same => different (sound.eq_of_osTim_eq otherMem member same)⟩
  constructor
  case objs_nodup => exact sound.objs_nodup
  case tims_nodup => exact sound.tims_nodup
  case tim_lt => exact sound.tim_lt
  case queued_known =>
    intro osTim queued
    exact sound.queued_known osTim (List.mem_filter.mp queued).1
  case idle =>
    intro other otherMem flag
    by_cases same : other = el
    · subst same
      simp only [State.settle, Function.update_self] at flag ⊢
      exact ⟨down flag, by simp⟩
    · rcases apart other otherMem same with ⟨otherObj, otherTim⟩
      simp only [State.settle, Function.update_of_ne otherObj, Function.update_of_ne otherTim]
        at flag ⊢
      rcases sound.idle other otherMem flag with ⟨unarmed, unqueued⟩
      exact ⟨unarmed, fun queued => unqueued (List.mem_filter.mp queued).1⟩
  case running =>
    intro other otherMem flag
    by_cases same : other = el
    · subst same
      simp only [State.settle, Function.update_self] at flag ⊢
      exact up flag
    · rcases apart other otherMem same with ⟨otherObj, otherTim⟩
      simp only [State.settle, Function.update_of_ne otherObj, Function.update_of_ne otherTim]
        at flag ⊢
      exact sound.running other otherMem flag
  case callback =>
    intro other otherMem ready
    by_cases same : other = el
    · subst same
      simp only [State.settle, Function.update_self] at ready ⊢
      exact callback ready
    · rcases apart other otherMem same with ⟨otherObj, otherTim⟩
      simp only [State.settle, Function.update_of_ne otherObj, Function.update_of_ne otherTim]
        at ready ⊢
      exact sound.callback other otherMem ready

theorem settle_stopped (sound : state.Sound) {el : TimList} (member : el ∈ state.lTimList)
    (reloadValue : BitVec 32) :
    (state.settle el { state.objects el.obj with isRunning := false, reloadValue }
      { state.callouts el.osTim with armed := none }).Sound :=
  sound.settle member (fun _ => rfl) (fun flag => by simp at flag)
    (sound.callback el member)

theorem settle_started (sound : state.Sound) {el : TimList} (member : el ∈ state.lTimList)
    (armed : Option Nat) :
    (state.settle el { state.objects el.obj with isRunning := true }
      { initialised := true, evArg := (state.objects el.obj).callback, armed }).Sound :=
  sound.settle member (fun flag => by simp at flag) (fun _ => rfl) (fun _ => rfl)

theorem timerReset_eq (sound : state.Sound) {el : TimList} (member : el ∈ state.lTimList) :
    timerReset state el.obj =
      .ok (state.settle el { state.objects el.obj with isRunning := true }
        { initialised := true
          evArg := (state.objects el.obj).callback
          armed := delay (state.objects el.obj).reloadValue }) := by
  have stopped := sound.settle_stopped member (state.objects el.obj).reloadValue
  have started := stopped.timerStart_eq member
  unfold timerReset
  rw [sound.timerStop_eq member]
  simp only [bind, Except.bind]
  rw [started]
  simp only [object_settle, settle_settle]

end Sound

/-! ## The view -/

def shot (state : State) (el : TimList) : OneShot where
  callback := (state.objects el.obj).callback
  reload := (state.objects el.obj).reloadValue
  armed := (state.callouts el.osTim).armed

/-- The timers as one-shot timers: flags and callouts are forgotten. -/
def view (state : State) : OneShots where
  timer obj := (state.el obj).map state.shot
  queue := state.evq.filterMap state.owner

theorem view_timer_none {obj : Nat} (absent : state.el obj = none) :
    state.view.timer obj = none := by
  simp [view, absent]

theorem Sound.view_timer (sound : state.Sound) {el : TimList} (member : el ∈ state.lTimList) :
    state.view.timer el.obj = some (state.shot el) := by
  simp [view, sound.el_eq member]

/-- Taking a callout's event from the queue is taking its owner's. -/
theorem Sound.queue_filter (sound : state.Sound) {el : TimList} (member : el ∈ state.lTimList)
    (evq : List Nat) :
    (evq.filter (· ≠ el.osTim)).filterMap state.owner =
      (evq.filterMap state.owner).filter (· ≠ el.obj) := by
  induction evq with
  | nil => rfl
  | cons osTim evq induction =>
      have owned := sound.owner_eq_some_iff member osTim
      by_cases same : osTim = el.osTim
      · have owner := owned.mpr same
        simp only [same, ne_eq, not_true_eq_false, decide_false, Bool.false_eq_true,
          not_false_eq_true, List.filter_cons_of_neg] at induction ⊢
        rw [same] at owner
        rw [List.filterMap_cons_some owner]
        simpa using induction
      · cases owner : state.owner osTim with
        | none => simpa [same, owner] using induction
        | some obj =>
            have different : obj ≠ el.obj := fun equal => same (owned.mp (equal ▸ owner))
            simpa [same, owner, different] using induction

theorem Sound.view_settle (sound : state.Sound) {el : TimList} (member : el ∈ state.lTimList)
    (event : TimerEvent) (callout : Callout) :
    (state.settle el event callout).view = state.view.settle el.obj
      { callback := event.callback, reload := event.reloadValue, armed := callout.armed } := by
  have timers : (state.settle el event callout).view.timer =
      Function.update state.view.timer el.obj (some
        { callback := event.callback, reload := event.reloadValue, armed := callout.armed }) := by
    funext obj
    by_cases same : obj = el.obj
    · subst same
      simp only [view, el_settle, sound.el_eq member]
      simp [shot, State.settle]
    · rw [Function.update_of_ne same]
      cases found : state.el obj with
      | none => simp [view, el_settle, found]
      | some other =>
          rcases mem_of_el found with ⟨otherMem, rfl⟩
          have otherTim : other.osTim ≠ el.osTim := fun equal =>
            same (congrArg TimList.obj (sound.eq_of_osTim_eq otherMem member equal))
          simp only [view, el_settle, found]
          simp [shot, State.settle, same, otherTim]
  have queue : (state.settle el event callout).view.queue =
      state.view.queue.filter (· ≠ el.obj) := sound.queue_filter member state.evq
  simp only [OneShots.settle, ← timers, ← queue]

end State

/-! ## One step -/

variable {state : State}

/-- The abstract step that a concrete one amounts to, and the invariant after it. -/
def Matches (step : State × Reply) (abstract : OneShots × Reply) : Prop :=
  step.1.Sound ∧ (step.1.view, step.2) = abstract

/-- A call that fails changes nothing. -/
theorem matches_of_fault (sound : state.Sound) {result : Except Fault State} {fault : Fault}
    (failed : result = .error fault) :
    Matches (answer state result) (state.view, .fault fault) := by
  rw [failed]
  exact ⟨sound, rfl⟩

theorem matches_of_settle (sound : state.Sound) {el : TimList} (member : el ∈ state.lTimList)
    {result : Except Fault State} {event : TimerEvent} {callout : Callout}
    (done : result = .ok (state.settle el event callout))
    (settled : (state.settle el event callout).Sound) {setting : OneShot → OneShot}
    (same : setting (state.shot el) =
      { callback := event.callback, reload := event.reloadValue, armed := callout.armed }) :
    Matches (answer state result) (state.view.change el.obj setting) := by
  rw [done]
  refine ⟨settled, ?_⟩
  simp only [answer, OneShots.change, sound.view_timer member, same]
  rw [sound.view_settle member]

/-- Calls on an object that is not in the list run into the assertion. -/
theorem findTimerEl_absent {obj : Nat} (absent : state.el obj = none) :
    findTimerEl state obj = .error .assertFailed := by
  unfold State.el at absent
  simp [findTimerEl, absent]

theorem timerStop_absent {obj : Nat} (absent : state.el obj = none) :
    timerStop state obj = .error .assertFailed := by
  simp [timerStop, findTimerEl_absent absent, bind, Except.bind]

theorem timerStart_absent {obj : Nat} (absent : state.el obj = none) :
    timerStart state obj = .error .assertFailed := by
  cases flag : (state.objects obj).isRunning with
  | false =>
      simp [timerStart, stopIfRunning, flag, findTimerEl_absent absent, bind, Except.bind]
  | true => simp [timerStart, stopIfRunning, flag, timerStop_absent absent, bind, Except.bind]

theorem change_absent {obj : Nat} (absent : state.el obj = none) (setting : OneShot → OneShot) :
    state.view.change obj setting = (state.view, .fault .assertFailed) := by
  simp [OneShots.change, State.view_timer_none absent]

theorem matches_start (sound : state.Sound) (obj : Nat) :
    Matches (timers.step state (.start obj)) (oneShots.step state.view (.start obj)) := by
  cases found : state.el obj with
  | none =>
      have abstract := change_absent found fun timer => { timer with armed := timer.delay }
      change Matches (answer state (timerStart state obj)) (state.view.change obj _)
      rw [abstract]
      exact matches_of_fault sound (timerStart_absent found)
  | some el =>
      rcases State.mem_of_el found with ⟨member, rfl⟩
      exact matches_of_settle sound member (sound.timerStart_eq member)
        (sound.settle_started member _) rfl

theorem matches_stop (sound : state.Sound) (obj : Nat) :
    Matches (timers.step state (.stop obj)) (oneShots.step state.view (.stop obj)) := by
  cases found : state.el obj with
  | none =>
      have abstract := change_absent found fun timer => { timer with armed := none }
      change Matches (answer state (timerStop state obj)) (state.view.change obj _)
      rw [abstract]
      exact matches_of_fault sound (timerStop_absent found)
  | some el =>
      rcases State.mem_of_el found with ⟨member, rfl⟩
      exact matches_of_settle sound member (sound.timerStop_eq member)
        (sound.settle_stopped member (state.objects el.obj).reloadValue) rfl

theorem matches_setValue (sound : state.Sound) (obj : Nat) (value : BitVec 32) :
    Matches (timers.step state (.setValue obj value))
      (oneShots.step state.view (.setValue obj value)) := by
  cases found : state.el obj with
  | none =>
      have abstract := change_absent found fun timer =>
        { timer with reload := value, armed := none }
      change Matches (answer state (timerSetValue state obj value)) (state.view.change obj _)
      rw [abstract]
      apply matches_of_fault sound
      simp [timerSetValue, findTimerEl_absent found, bind, Except.bind]
  | some el =>
      rcases State.mem_of_el found with ⟨member, rfl⟩
      exact matches_of_settle sound member (sound.timerSetValue_eq member value)
        (sound.settle_stopped member value) rfl

theorem matches_reset (sound : state.Sound) (obj : Nat) :
    Matches (timers.step state (.reset obj)) (oneShots.step state.view (.reset obj)) := by
  cases found : state.el obj with
  | none =>
      have abstract := change_absent found fun timer => { timer with armed := timer.delay }
      change Matches (answer state (timerReset state obj)) (state.view.change obj _)
      rw [abstract]
      apply matches_of_fault sound
      simp [timerReset, timerStop_absent found, bind, Except.bind]
  | some el =>
      rcases State.mem_of_el found with ⟨member, rfl⟩
      exact matches_of_settle sound member (sound.timerReset_eq member)
        (sound.settle_started member _) rfl

/-- The callouts of a sound state are older than the next one. -/
theorem State.Sound.fresh_notQueued (sound : state.Sound) : state.calloutBlocks ∉ state.evq := by
  intro queued
  rcases List.mem_map.mp (sound.queued_known _ queued) with ⟨el, member, same⟩
  exact Nat.lt_irrefl _ (same ▸ sound.tim_lt el member)

/-- The state after a successful `TimerInit`. -/
def State.enlist (state : State) (obj : Nat) (callback : Callback) : State :=
  { state with
    lTimList := { osTim := state.calloutBlocks, obj } :: state.lTimList
    objects :=
      Function.update state.objects obj
        { timestamp := 0#32, reloadValue := 0#32, isRunning := false, callback }
    callouts := Function.update state.callouts state.calloutBlocks .unused
    calloutBlocks := state.calloutBlocks + 1 }

section Enlist

variable {obj : Nat} (callback : Callback)

theorem State.obj_ne_of_absent (absent : state.el obj = none) :
    ∀ el ∈ state.lTimList, el.obj ≠ obj := by
  intro el member same
  have missed := List.find?_eq_none.mp absent el member
  simp [same] at missed

theorem State.Sound.enlist (sound : state.Sound) (absent : state.el obj = none) :
    (state.enlist obj callback).Sound := by
  have otherObj := State.obj_ne_of_absent absent
  have otherTim : ∀ el ∈ state.lTimList, el.osTim ≠ state.calloutBlocks := fun el member =>
    Nat.ne_of_lt (sound.tim_lt el member)
  constructor
  case objs_nodup =>
    refine List.nodup_cons.mpr ⟨fun listed => ?_, sound.objs_nodup⟩
    rcases List.mem_map.mp listed with ⟨el, member, same⟩
    exact otherObj el member same
  case tims_nodup =>
    refine List.nodup_cons.mpr ⟨fun listed => ?_, sound.tims_nodup⟩
    rcases List.mem_map.mp listed with ⟨el, member, same⟩
    exact otherTim el member same
  case tim_lt =>
    intro el member
    rcases List.mem_cons.mp member with rfl | member
    · exact Nat.lt_succ_self _
    · exact Nat.lt_succ_of_lt (sound.tim_lt el member)
  case queued_known =>
    intro osTim queued
    exact List.mem_cons_of_mem _ (sound.queued_known osTim queued)
  case idle =>
    intro el member flag
    rcases List.mem_cons.mp member with rfl | member
    · simp only [State.enlist, Function.update_self]
      exact ⟨rfl, sound.fresh_notQueued⟩
    · simp only [State.enlist, Function.update_of_ne (otherObj el member),
        Function.update_of_ne (otherTim el member)] at flag ⊢
      exact sound.idle el member flag
  case running =>
    intro el member flag
    rcases List.mem_cons.mp member with rfl | member
    · simp [State.enlist] at flag
    · simp only [State.enlist, Function.update_of_ne (otherObj el member),
        Function.update_of_ne (otherTim el member)] at flag ⊢
      exact sound.running el member flag
  case callback =>
    intro el member ready
    rcases List.mem_cons.mp member with rfl | member
    · simp [State.enlist, Callout.unused] at ready
    · simp only [State.enlist, Function.update_of_ne (otherObj el member),
        Function.update_of_ne (otherTim el member)] at ready ⊢
      exact sound.callback el member ready

theorem State.Sound.view_enlist (sound : state.Sound) (absent : state.el obj = none) :
    (state.enlist obj callback).view =
      state.view.settle obj { callback, reload := 0#32, armed := none } := by
  have timers : (state.enlist obj callback).view.timer =
      Function.update state.view.timer obj
        (some { callback, reload := 0#32, armed := none }) := by
    funext other
    by_cases same : other = obj
    · subst same
      simp [view, State.el, State.enlist, shot, Callout.unused]
    · have apart : ¬obj = other := fun equal => same equal.symm
      have sameEl : (state.enlist obj callback).el other = state.el other := by
        simp [State.el, State.enlist, apart]
      rw [Function.update_of_ne same]
      cases found : state.el other with
      | none => simp [view, sameEl, found]
      | some el =>
          rcases mem_of_el found with ⟨member, rfl⟩
          have otherTim : el.osTim ≠ state.calloutBlocks := Nat.ne_of_lt (sound.tim_lt el member)
          simp only [view, sameEl, found]
          simp [shot, State.enlist, same, otherTim]
  have owners : ∀ osTim ∈ state.evq,
      (state.enlist obj callback).owner osTim = state.owner osTim := by
    intro osTim queued
    have apart : ¬state.calloutBlocks = osTim := fun equal =>
      sound.fresh_notQueued (equal ▸ queued)
    simp [TimerState.owner, State.enlist, apart]
  have queue : (state.enlist obj callback).view.queue =
      state.view.queue.filter (· ≠ obj) := by
    have unlisted : ∀ other ∈ state.view.queue, other ≠ obj := by
      intro other queued
      rcases List.mem_filterMap.mp queued with ⟨osTim, _, owned⟩
      rcases Option.map_eq_some_iff.mp owned with ⟨el, found, rfl⟩
      exact State.obj_ne_of_absent absent el (List.mem_of_find?_eq_some found)
    rw [List.filter_eq_self.mpr fun other queued => by simpa using unlisted other queued]
    exact List.filterMap_congr owners
  simp only [OneShots.settle, ← timers, ← queue]

end Enlist

theorem timerInit_eq {obj : Nat} (absent : state.el obj = none) (callback : Callback) :
    timerInit state obj callback true = .ok (state.enlist obj callback) := by
  have unlisted : (state.lTimList.any fun sc => sc.obj == obj) = false := by
    rw [List.any_eq_false]
    exact List.find?_eq_none.mp absent
  simp [timerInit, unlisted, State.enlist]

theorem matches_init (sound : state.Sound) (obj : Nat) (callback : Callback) (allocated : Bool) :
    Matches (timers.step state (.init obj callback allocated))
      (oneShots.step state.view (.init obj callback allocated)) := by
  change Matches (answer state (timerInit state obj callback allocated))
    (state.view.init obj callback allocated)
  cases found : state.el obj with
  | some el =>
      rcases State.mem_of_el found with ⟨member, rfl⟩
      have listed : (state.lTimList.any fun sc => sc.obj == el.obj) = true :=
        List.any_eq_true.mpr ⟨el, member, by simp⟩
      have known : (state.view.timer el.obj).isSome = true := by
        simp [sound.view_timer member]
      rw [OneShots.init, if_pos known]
      exact matches_of_fault sound (if_pos listed)
  | none =>
      have unlisted : (state.lTimList.any fun sc => sc.obj == obj) = false := by
        rw [List.any_eq_false]
        exact List.find?_eq_none.mp found
      have unknown : state.view.timer obj = none := State.view_timer_none found
      cases allocated with
      | false =>
          have abstract : state.view.init obj callback false =
              (state.view, .fault .assertFailed) := by
            simp [OneShots.init, unknown]
          rw [abstract]
          exact matches_of_fault sound (by simp [timerInit, unlisted])
      | true =>
          have abstract : state.view.init obj callback true =
              (state.view.settle obj { callback, reload := 0#32, armed := none }, .done) := by
            simp [OneShots.init, unknown]
          rw [timerInit_eq found, abstract, ← sound.view_enlist callback found]
          exact ⟨sound.enlist callback found, rfl⟩

/-! ## The steps of the OS -/

theorem matches_tick (sound : state.Sound) :
    Matches (timers.step state .tick) (oneShots.step state.view .tick) := by
  constructor
  · refine ⟨sound.objs_nodup, sound.tims_nodup, sound.tim_lt, sound.queued_known, ?_,
      sound.running, sound.callback⟩
    intro el member flag
    rcases sound.idle el member flag with ⟨unarmed, unqueued⟩
    exact ⟨by simp [timers, clockTick, unarmed], unqueued⟩
  · have timersTick : (State.view (clockTick state)).timer = state.view.tick.timer := by
      funext obj
      have sameEl : State.el (clockTick state) obj = state.el obj := rfl
      cases found : state.el obj with
      | none => simp [State.view, OneShots.tick, sameEl, found]
      | some el =>
          simp only [State.view, OneShots.tick, sameEl, found]
          rfl
    have whole : State.view (clockTick state) = state.view.tick := by
      change OneShots.mk (State.view (clockTick state)).timer _ = _
      rw [timersTick]
      rfl
    exact Prod.ext whole rfl

/-- The state after the callout of an element expires. -/
def State.moveToQueue (state : State) (el : TimList) : State :=
  { state with
    callouts :=
      Function.update state.callouts el.osTim { state.callouts el.osTim with armed := none }
    evq := state.evq ++ [el.osTim] }

theorem State.Sound.moveToQueue (sound : state.Sound) {el : TimList}
    (member : el ∈ state.lTimList) (flag : (state.objects el.obj).isRunning = true) :
    (state.moveToQueue el).Sound := by
  have unchanged : ∀ osTim,
      ((state.moveToQueue el).callouts osTim).initialised =
          (state.callouts osTim).initialised ∧
        ((state.moveToQueue el).callouts osTim).evArg = (state.callouts osTim).evArg := by
    intro osTim
    by_cases same : osTim = el.osTim
    · subst same
      simp [State.moveToQueue]
    · simp [State.moveToQueue, same]
  constructor
  case objs_nodup => exact sound.objs_nodup
  case tims_nodup => exact sound.tims_nodup
  case tim_lt => exact sound.tim_lt
  case queued_known =>
    intro osTim queued
    rcases List.mem_append.mp queued with queued | new
    · exact sound.queued_known osTim queued
    · rcases List.mem_singleton.mp new with rfl
      exact List.mem_map_of_mem member
  case idle =>
    intro other otherMem otherFlag
    have apart : other.osTim ≠ el.osTim := by
      intro same
      rw [sound.eq_of_osTim_eq otherMem member same] at otherFlag
      exact absurd (flag.symm.trans otherFlag) (by decide)
    rcases sound.idle other otherMem otherFlag with ⟨unarmed, unqueued⟩
    exact ⟨by simp [State.moveToQueue, apart, unarmed], by
      simp [State.moveToQueue, apart, unqueued]⟩
  case running =>
    intro other otherMem otherFlag
    rw [(unchanged other.osTim).1]
    exact sound.running other otherMem otherFlag
  case callback =>
    intro other otherMem ready
    rw [(unchanged other.osTim).1] at ready
    rw [(unchanged other.osTim).2]
    exact sound.callback other otherMem ready

theorem State.Sound.view_moveToQueue (sound : state.Sound) {el : TimList}
    (member : el ∈ state.lTimList) :
    (state.moveToQueue el).view = state.view.moveToQueue el.obj (state.shot el) := by
  have timersMoved : (state.moveToQueue el).view.timer =
      Function.update state.view.timer el.obj (some { state.shot el with armed := none }) := by
    funext obj
    have sameEl : (state.moveToQueue el).el obj = state.el obj := rfl
    by_cases same : obj = el.obj
    · subst same
      simp only [State.view, sameEl, sound.el_eq member]
      simp [State.shot, State.moveToQueue]
    · rw [Function.update_of_ne same]
      cases found : state.el obj with
      | none => simp [State.view, sameEl, found]
      | some other =>
          rcases State.mem_of_el found with ⟨otherMem, rfl⟩
          have otherTim : other.osTim ≠ el.osTim := fun equal =>
            same (congrArg TimList.obj (sound.eq_of_osTim_eq otherMem member equal))
          simp only [State.view, sameEl, found]
          simp [State.shot, State.moveToQueue, otherTim]
  have queueMoved : (state.moveToQueue el).view.queue = state.view.queue ++ [el.obj] := by
    change (state.evq ++ [el.osTim]).filterMap state.owner = _
    simp [State.view, sound.owner_eq member]
  simp only [OneShots.moveToQueue, ← timersMoved, ← queueMoved]

theorem matches_expire (sound : state.Sound) (obj : Nat) :
    Matches (timers.step state (.expire obj)) (oneShots.step state.view (.expire obj)) := by
  change Matches (expire state obj, .done) (state.view.expire obj, .done)
  cases found : state.el obj with
  | none =>
      have concrete : expire state obj = state := by
        unfold State.el at found
        simp [expire, TimerState.due, found]
      rw [concrete, OneShots.expire, State.view_timer_none found]
      exact ⟨sound, rfl⟩
  | some el =>
      rcases State.mem_of_el found with ⟨member, rfl⟩
      have listed : state.lTimList.find? (fun other => other.obj == el.obj) = some el := found
      by_cases due : (state.callouts el.osTim).armed = some 0
      · have concrete : expire state el.obj = state.moveToQueue el := by
          simp [expire, TimerState.due, listed, due, State.moveToQueue]
        have abstract : state.view.expire el.obj =
            state.view.moveToQueue el.obj (state.shot el) := by
          have dueShot : (state.shot el).armed = some 0 := due
          simp [OneShots.expire, sound.view_timer member, dueShot]
        have flag := sound.isRunning_of_live member (.inl (by simp [due]))
        rw [concrete, abstract, ← sound.view_moveToQueue member]
        exact ⟨sound.moveToQueue member flag, rfl⟩
      · have concrete : expire state el.obj = state := by
          simp [expire, TimerState.due, listed, due]
        have abstract : state.view.expire el.obj = state.view := by
          have notDue : ¬(state.shot el).armed = some 0 := due
          simp [OneShots.expire, sound.view_timer member, notDue]
        rw [concrete, abstract]
        exact ⟨sound, rfl⟩

theorem matches_dispatch (sound : state.Sound) :
    Matches (timers.step state .dispatch) (oneShots.step state.view .dispatch) := by
  change Matches (dispatch state) state.view.dispatch
  cases queue : state.evq with
  | nil =>
      have concrete : dispatch state = (state, .done) := by simp [dispatch, queue]
      have abstract : state.view.dispatch = (state.view, .done) := by
        simp [OneShots.dispatch, State.view, queue]
      rw [concrete, abstract]
      exact ⟨sound, rfl⟩
  | cons osTim rest =>
      rcases List.mem_map.mp (sound.queued_known osTim (by simp [queue])) with
        ⟨el, member, rfl⟩
      have owner := sound.owner_eq member
      have flag := sound.isRunning_of_live member (.inr (by simp [queue]))
      have argument := sound.callback el member (sound.running el member flag)
      have concrete : dispatch state = ({ state with evq := rest },
          .invoked (some el.obj) (state.objects el.obj).callback) := by
        simp [dispatch, queue, owner, argument]
      have abstractQueue : state.view.queue = el.obj :: rest.filterMap state.owner := by
        simp [State.view, queue, owner]
      have abstract : state.view.dispatch =
          ({ state.view with queue := rest.filterMap state.owner },
            .invoked (some el.obj) (state.objects el.obj).callback) := by
        simp only [OneShots.dispatch, abstractQueue, sound.view_timer member]
        rfl
      rw [concrete, abstract]
      refine ⟨⟨sound.objs_nodup, sound.tims_nodup, sound.tim_lt, ?_, ?_, sound.running,
        sound.callback⟩, rfl⟩
      · intro other queued
        exact sound.queued_known other (by simp [queue, queued])
      · intro other otherMem otherFlag
        rcases sound.idle other otherMem otherFlag with ⟨unarmed, unqueued⟩
        exact ⟨unarmed, fun queued => unqueued (by simp [queue, queued])⟩

/-! ## The refinement -/

theorem matches_step (sound : state.Sound) (call : Call) :
    Matches (timers.step state call) (oneShots.step state.view call) := by
  cases call with
  | init obj callback allocated => exact matches_init sound obj callback allocated
  | start obj => exact matches_start sound obj
  | stop obj => exact matches_stop sound obj
  | setValue obj value => exact matches_setValue sound obj value
  | reset obj => exact matches_reset sound obj
  | tick => exact matches_tick sound
  | expire obj => exact matches_expire sound obj
  | dispatch => exact matches_dispatch sound

def timerRefinement : timers.Refinement oneShots where
  view := State.view
  invariant := State.Sound
  preserved _ call sound := (matches_step sound call).1
  view_next _ call sound := congrArg Prod.fst (matches_step sound call).2
  reply_eq _ call sound := congrArg Prod.snd (matches_step sound call).2

end Lorawan.Timers
