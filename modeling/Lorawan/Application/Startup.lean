import Lorawan.Application.Printing

/-! # Turns

How far each thread is depends only on its own turns: no order of the others holds it up. -/

namespace Lorawan.Application

open Lorawan.Configuration

/-- The turns that `main` has had, and each thread since `main` created it. -/
structure Turns where
  main : Nat
  rx : Nat
  tx : Nat

def Turns.next (turns : Turns) : Step → Turns
  | .main _ _ => { turns with main := turns.main + 1 }
  | .rx _ _ => { turns with rx := if 3 ≤ turns.main then turns.rx + 1 else 0 }
  | .tx _ _ _ => { turns with tx := if 2 ≤ turns.main then turns.tx + 1 else 0 }
  | .frame _ _ => turns
  | .mac _ => turns

def turnsOf (steps : List Step) : Turns :=
  steps.foldl Turns.next ⟨0, 0, 0⟩

theorem turnsOf_append (steps : List Step) (step : Step) :
    turnsOf (steps ++ [step]) = (turnsOf steps).next step := by
  simp [turnsOf]

/-- Where `main` is after some turns. -/
def MainPoint.after : Nat → MainPoint
  | 0 => .configure
  | 1 => .startTx
  | 2 => .startRx
  | _ + 3 => .idle

/-- The thread is where this number of turns takes it. -/
def RxThread.HasHad (turns : Nat) : RxThread → Prop
  | .absent => turns = 0
  | .start => turns = 0
  | .bind _ i => i.toNat = turns
  | .receive _ _ => 256 ≤ turns

def TxThread.HasHad (turns : Nat) : TxThread → Prop
  | .absent => turns = 0
  | .start => turns = 0
  | .send _ => 1 ≤ turns

/-- No thread is ahead of its turns or behind them. -/
structure OnSchedule (turns : Turns) (state : State) : Prop where
  main : state.main = .after turns.main
  rxCreated : state.rx = .absent ↔ turns.main < 3
  txCreated : state.tx = .absent ↔ turns.main < 2
  rx : state.rx.HasHad turns.rx
  tx : state.tx.HasHad turns.tx

theorem MainPoint.after_eq_iff (turns : Nat) :
    (MainPoint.after turns = .configure ↔ turns = 0) ∧
      (MainPoint.after turns = .startTx ↔ turns = 1) ∧
      (MainPoint.after turns = .startRx ↔ turns = 2) ∧
      (MainPoint.after turns = .idle ↔ 3 ≤ turns) := by
  match turns with
  | 0 => simp [MainPoint.after]
  | 1 => simp [MainPoint.after]
  | 2 => simp [MainPoint.after]
  | turns + 3 => simp [MainPoint.after]

/-- An assertion that does not stop the application lets it continue. -/
theorem State.assert_of_running {state : State} {condition : Prop} [Decidable condition]
    {continued : State × Output} (running : (state.assert condition continued).1.stopped = false) :
    condition ∧ state.assert condition continued = continued := by
  unfold State.assert at running ⊢
  split at running
  · next holds => exact ⟨holds, if_pos holds⟩
  · simp at running

namespace OnSchedule

variable {turns : Turns} {state : State}

theorem initial (mib : Mib Unit) : OnSchedule (turnsOf []) (.initial mib) := by
  constructor <;> simp [turnsOf, State.initial, MainPoint.after, RxThread.HasHad, TxThread.HasHad]

theorem mainThread (setup : Setup) (scheduled : OnSchedule turns state)
    (answers : MibType → LoRaMacStatus) (created : Bool)
    (running : (mainThread setup state answers created).1.stopped = false) :
    OnSchedule { turns with main := turns.main + 1 }
      (mainThread setup state answers created).1 := by
  have places := MainPoint.after_eq_iff turns.main
  have main := scheduled.main
  have rxCreated := scheduled.rxCreated
  have txCreated := scheduled.txCreated
  unfold Application.mainThread at running ⊢
  split at running
  next point =>
    have first : turns.main = 0 := places.1.mp (main.symm.trans point)
    dsimp only at running ⊢
    rw [(State.assert_of_running running).2]
    constructor
    · rw [first]
      rfl
    · rw [first] at rxCreated ⊢
      simpa using rxCreated
    · rw [first] at txCreated ⊢
      simpa using txCreated
    · exact scheduled.rx
    · exact scheduled.tx
  next point =>
    have second : turns.main = 1 := places.2.1.mp (main.symm.trans point)
    have absent := txCreated.mpr (by omega)
    have none := scheduled.tx
    rw [absent] at none
    rw [(State.assert_of_running running).2]
    constructor
    · rw [second]
      rfl
    · rw [second] at rxCreated ⊢
      simpa using rxCreated
    · rw [second]
      simp
    · exact scheduled.rx
    · exact none
  next point =>
    have third : turns.main = 2 := places.2.2.1.mp (main.symm.trans point)
    have absent := rxCreated.mpr (by omega)
    have none := scheduled.rx
    rw [absent] at none
    rw [(State.assert_of_running running).2]
    constructor
    · rw [third]
      rfl
    · rw [third]
      simp
    · rw [third] at txCreated ⊢
      simpa using txCreated
    · exact none
    · exact scheduled.tx
  next point =>
    have idle : 3 ≤ turns.main := places.2.2.2.mp (main.symm.trans point)
    constructor
    · exact point.trans ((MainPoint.after_eq_iff _).2.2.2.mpr (Nat.le_succ_of_le idle)).symm
    · rw [rxCreated]
      dsimp only
      omega
    · rw [txCreated]
      dsimp only
      omega
    · exact scheduled.rx
    · exact scheduled.tx

/-- A step of a thread that leaves `main` and the other thread alone. -/
theorem advance (scheduled : OnSchedule turns state) {next : State} {rxTurns txTurns : Nat}
    (sameMain : next.main = state.main) (rxCreated : next.rx = .absent ↔ state.rx = .absent)
    (txCreated : next.tx = .absent ↔ state.tx = .absent) (rx : next.rx.HasHad rxTurns)
    (tx : next.tx.HasHad txTurns) :
    OnSchedule { turns with rx := rxTurns, tx := txTurns } next where
  main := sameMain.trans scheduled.main
  rxCreated := rxCreated.trans scheduled.rxCreated
  txCreated := txCreated.trans scheduled.txCreated
  rx := rx
  tx := tx

theorem rxThread (setup : Setup) (scheduled : OnSchedule turns state)
    (range : ∀ sock i, state.rx = .bind sock i → 1 ≤ i.toNat ∧ i.toNat ≤ 255)
    (allocated : Bool) (status : LoRaMacStatus)
    (running : (rxThread setup state allocated status).1.stopped = false) :
    OnSchedule (turns.next (.rx allocated status)) (rxThread setup state allocated status).1 := by
  have created := scheduled.rxCreated
  have place := scheduled.rx
  unfold Application.rxThread at running ⊢
  unfold Turns.next
  split at running
  next thread =>
    have early : ¬3 ≤ turns.main := Nat.not_le_of_lt (created.mp thread)
    rw [if_neg early]
    exact scheduled.advance rfl Iff.rfl Iff.rfl (by rw [thread]; rfl) scheduled.tx
  next thread =>
    rw [thread] at created place
    have late : 3 ≤ turns.main := Nat.le_of_not_lt fun early => by simpa using created.mpr early
    have none : turns.rx = 0 := place
    dsimp only at running ⊢
    rw [(State.assert_of_running running).2, if_pos late, none]
    exact scheduled.advance rfl (by simp [thread]) Iff.rfl rfl scheduled.tx
  next sock i thread =>
    rw [thread] at created place
    have late : 3 ≤ turns.main := Nat.le_of_not_lt fun early => by simpa using created.mpr early
    have had : i.toNat = turns.rx := place
    have bounds := range sock i thread
    have advanced : (i + 1#16).toNat = i.toNat + 1 := by
      rw [BitVec.toNat_add, BitVec.toNat_ofNat]
      omega
    dsimp only at running ⊢
    rw [(State.assert_of_running running).2, if_pos late]
    dsimp only
    split
    · exact scheduled.advance rfl (by simp [thread]) Iff.rfl (advanced.trans (by rw [had]))
        scheduled.tx
    · next atEnd =>
      have last : 256 ≤ turns.rx + 1 := by
        rw [BitVec.le_def, advanced, BitVec.toNat_ofNat] at atEnd
        omega
      exact scheduled.advance rfl (by simp [thread]) Iff.rfl last scheduled.tx
  next sock buffers thread =>
    rw [thread] at created place
    have late : 3 ≤ turns.main := Nat.le_of_not_lt fun early => by simpa using created.mpr early
    have last : 256 ≤ turns.rx + 1 := Nat.le_succ_of_le place
    rw [if_pos late]
    dsimp only
    split
    · exact scheduled.advance rfl Iff.rfl Iff.rfl (by rw [thread]; exact last) scheduled.tx
    · split
      · exact scheduled.advance rfl (by simp [thread]) Iff.rfl last scheduled.tx
      · exact scheduled.advance rfl (by simp [thread]) Iff.rfl last scheduled.tx

theorem txThread (setup : Setup) (scheduled : OnSchedule turns state) (allocated : Bool)
    (answer status : LoRaMacStatus)
    (running : (txThread setup state allocated answer status).1.stopped = false) :
    OnSchedule (turns.next (.tx allocated answer status))
      (txThread setup state allocated answer status).1 := by
  have created := scheduled.txCreated
  have place := scheduled.tx
  unfold Application.txThread at running ⊢
  unfold Turns.next
  split at running
  next thread =>
    have early : ¬2 ≤ turns.main := Nat.not_le_of_lt (created.mp thread)
    rw [if_neg early]
    exact scheduled.advance rfl Iff.rfl Iff.rfl scheduled.rx (by rw [thread]; rfl)
  next thread =>
    rw [thread] at created
    have late : 2 ≤ turns.main := Nat.le_of_not_lt fun early => by simpa using created.mpr early
    dsimp only at running ⊢
    rw [(State.assert_of_running running).2, if_pos late]
    exact scheduled.advance rfl Iff.rfl (by simp [thread]) scheduled.rx (Nat.le_add_left 1 _)
  next sock thread =>
    rw [thread] at created
    have late : 2 ≤ turns.main := Nat.le_of_not_lt fun early => by simpa using created.mpr early
    rw [if_pos late]
    dsimp only
    exact scheduled.advance rfl Iff.rfl Iff.rfl scheduled.rx
      (by rw [thread]; exact Nat.le_add_left 1 _)

theorem next (setup : Setup) {past : History} (sound : Sound past state)
    (scheduled : OnSchedule turns state) (step : Step) (isRunning : state.stopped = false)
    (running : ((application setup).next state step).stopped = false) :
    OnSchedule (turns.next step) ((application setup).next state step) := by
  simp only [Machine.next, application, isRunning, Bool.false_eq_true, if_false] at running ⊢
  cases step with
  | main answers created => exact scheduled.mainThread setup answers created running
  | rx allocated status => exact scheduled.rxThread setup sound.range allocated status running
  | tx allocated answer status => exact scheduled.txThread setup allocated answer status running
  | frame frame allocated =>
      exact scheduled.advance rfl Iff.rfl Iff.rfl scheduled.rx scheduled.tx
  | mac mibReq => exact scheduled.advance rfl Iff.rfl Iff.rfl scheduled.rx scheduled.tx

end OnSchedule

/-- What stops stays stopped. -/
theorem running_of_next (setup : Setup) {state : State} {step : Step}
    (running : ((application setup).next state step).stopped = false) :
    state.stopped = false := by
  cases stopped : state.stopped with
  | false => rfl
  | true => simp [Machine.next, application, stopped] at running

/-- While no assertion has failed, each thread is where its own turns take it. -/
theorem onSchedule_run (setup : Setup) (mib : Mib Unit) (steps : List Step)
    (running : ((application setup).run (.initial mib) steps).stopped = false) :
    OnSchedule (turnsOf steps) ((application setup).run (.initial mib) steps) := by
  have kept := (application setup).history
    (fun past state => Told past state ∧
      (state.stopped = false → OnSchedule (turnsOf (past.map Prod.fst)) state))
    (fun past state step kept => by
      refine ⟨⟨kept.1.sound.next setup kept.1.started step, kept.1.started.next setup step⟩, ?_⟩
      intro running
      have isRunning := running_of_next setup running
      rw [List.map_append, List.map_singleton, turnsOf_append]
      exact (kept.2 isRunning).next setup kept.1.sound step isRunning running)
    steps (.initial mib)
    ⟨⟨Sound.initial mib, Started.initial mib⟩, fun _ => OnSchedule.initial mib⟩
  rw [Machine.map_fst_trace] at kept
  exact kept.2 running

theorem OnSchedule.binds_iff {turns : Turns} {state : State} (scheduled : OnSchedule turns state)
    (port : Port) : state.rx.binds port = true ↔ 0 < port.toNat ∧ port.toNat < turns.rx := by
  have place := scheduled.rx
  have small := port.isLt
  have zero : port = 0#8 ↔ port.toNat = 0 := by
    rw [← BitVec.toNat_inj]
    simp
  cases thread : state.rx with
  | absent =>
      rw [thread] at place
      have none : turns.rx = 0 := place
      simp [RxThread.binds, none]
  | start =>
      rw [thread] at place
      have none : turns.rx = 0 := place
      simp [RxThread.binds, none]
  | bind sock i =>
      rw [thread] at place
      have had : i.toNat = turns.rx := place
      simp only [RxThread.binds, decide_eq_true_eq, ne_eq, zero, had]
      omega
  | receive sock buffers =>
      rw [thread] at place
      have had : 256 ≤ turns.rx := place
      simp only [RxThread.binds, decide_eq_true_eq, ne_eq, zero]
      omega

/-- While no assertion has failed, `main` idles once it has had three turns, the sending thread
sends once it has had one, and the receiving thread receives once it has had 256; a frame is
accepted once the receiving thread has had more turns than the number of its port. What the
other threads, the MAC and the frames did before makes no difference. -/
theorem threads_keep_pace (setup : Setup) (mib : Mib Unit) (steps : List Step)
    (running : ((application setup).run (.initial mib) steps).stopped = false) :
    let past := (application setup).trace (.initial mib) steps
    let state := (application setup).run (.initial mib) steps
    let turns := turnsOf steps
    (state.main = .idle ↔ 3 ≤ turns.main) ∧
      ((∃ sock, state.tx = .send sock) ↔ 1 ≤ turns.tx) ∧
      ((∃ sock buffers, state.rx = .receive sock buffers) ↔ 256 ≤ turns.rx) ∧
      ∀ (frame : McpsIndication) (allocated : Bool),
        acceptedBy (.frame frame allocated,
            (application setup).reply state (.frame frame allocated)) = some frame ↔
          allocated = true ∧ frame.status = loRaMacEventInfoStatusOk ∧
            frame.devAddr = pinned past ∧ 0 < frame.port.toNat ∧
              frame.port.toNat < turns.rx := by
  intro past state turns
  have sound : Sound past state := (Told.run setup mib steps).sound
  have scheduled : OnSchedule turns state := onSchedule_run setup mib steps running
  refine ⟨?_, ?_, ?_, ?_⟩
  · rw [scheduled.main]
    exact (MainPoint.after_eq_iff _).2.2.2
  · have place := scheduled.tx
    cases thread : state.tx with
    | absent =>
        rw [thread] at place
        have none : turns.tx = 0 := place
        simp [none]
    | start =>
        rw [thread] at place
        have none : turns.tx = 0 := place
        simp [none]
    | send sock =>
        rw [thread] at place
        have had : 1 ≤ turns.tx := place
        simp [had]
  · have place := scheduled.rx
    cases thread : state.rx with
    | absent =>
        rw [thread] at place
        have none : turns.rx = 0 := place
        simp [none]
    | start =>
        rw [thread] at place
        have none : turns.rx = 0 := place
        simp [none]
    | bind sock i =>
        rw [thread] at place
        have had : i.toNat = turns.rx := place
        have last := (sound.range sock i thread).2
        have early : ¬256 ≤ turns.rx := by omega
        simp [early]
    | receive sock buffers =>
        rw [thread] at place
        have had : 256 ≤ turns.rx := place
        simp [had]
  · intro frame allocated
    rw [sound.accepted_iff setup frame allocated, scheduled.binds_iff]
    exact and_iff_right running

/-- Two turns of the receiving thread, one of them before the sending thread's first. -/
theorem threads_keep_pace_one_port :
    let setup : Setup := ⟨1000#32, #v[0#32, 0#32, 5#32], Vector.replicate 255 0#8, 0⟩
    let steps : List Step :=
      [.main (fun _ => 0#32) true, .main (fun _ => 0#32) true, .main (fun _ => 0#32) true,
        .rx true 0#32, .tx true 0#32 0#32, .rx true 0#32]
    ∃ sock, ((application setup).run (.initial blankMib) steps).tx = .send sock := by
  intro setup steps
  have running : ((application setup).run (.initial blankMib) steps).stopped = false := by
    decide
  have pace := (threads_keep_pace setup blankMib steps running).2.1
  exact pace.mpr (by decide)

/-! ## Where nothing is refused -/

/-- The address that `main` gives to the device. -/
def Setup.devAddr (setup : Setup) : DevAddr := setup.hwId.get 2

/-- The environment gives the step what it may ask for, and the MAC keeps its address. -/
def Step.Granted : Step → Prop
  | .main answers created => (∀ type, answers type = LoRaMacStatus.ok) ∧ created = true
  | .rx allocated status => allocated = true ∧ status = LoRaMacStatus.ok
  | .tx allocated _ _ => allocated = true
  | .frame _ _ => True
  | .mac mibReq => mibReq.1 ≠ .devAddr

/-- The device has the address that `main` gave it, and its ports are bound at it. -/
structure Addressed (setup : Setup) (past : History) (state : State) : Prop where
  running : state.stopped = false
  address : state.main ≠ .configure → state.mib.param .devAddr = setup.devAddr
  pinned : pinned past = 0#32 ∨ pinned past = setup.devAddr
  bound : ∀ port, state.rx.binds port = true → Application.pinned past = setup.devAddr

namespace Addressed

variable {setup : Setup} {past : History} {state : State}

theorem initial (mib : Mib Unit) : Addressed setup [] (.initial mib) where
  running := rfl
  address := fun configured => absurd rfl configured
  pinned := .inl rfl
  bound := by simp [State.initial, RxThread.binds]

/-- A step that binds nothing. -/
theorem keep (addressed : Addressed setup past state) {next : State} {step : Step}
    {output : Output} (running : next.stopped = false)
    (address : next.main ≠ .configure → next.mib.param .devAddr = setup.devAddr)
    (sameBinds : ∀ port, next.rx.binds port = state.rx.binds port)
    (unbound : ∀ devAddr, output ≠ .bound devAddr) :
    Addressed setup (past ++ [(step, output)]) next where
  running := running
  address := address
  pinned := by
    rw [pinned_append_of_unbound past step unbound]
    exact addressed.pinned
  bound := by
    intro port binds
    rw [pinned_append_of_unbound past step unbound]
    exact addressed.bound port (sameBinds port ▸ binds)

theorem mainThread (addressed : Addressed setup past state) (started : Started state) (step : Step)
    {answers : MibType → LoRaMacStatus} {created : Bool}
    (granted : (∀ type, answers type = LoRaMacStatus.ok) ∧ created = true) :
    Addressed setup (past ++ [(step, (mainThread setup state answers created).2)])
      (mainThread setup state answers created).1 := by
  unfold Application.mainThread
  split
  next point =>
    let mac : MibService Unit := .ofAnswers Mib.store fun mibReq => answers mibReq.1
    let key : Key := Vector.replicate 16 0#8
    have every : ∀ type, type ∈ acceptedTypes mac state.mib
        (abpRequests setup.hwId[2] key key 1#8 2#8) := by
      intro type
      rw [mem_acceptedTypes_ofAnswers]
      exact granted.1 type
    have ok := (lorawanConfigureABP_ok_iff setup.hwId[2] key key 1#8 2#8 mac state.mib).mpr every
    have configured := lorawanConfigureABP_mib setup.hwId[2] key key 1#8 2#8 mac state.mib
    have address : (lorawanConfigureABP mac state.mib setup.hwId[2] key key 1#8 2#8).1.param
        .devAddr = setup.devAddr := by
      rw [configured]
      exact if_pos (every .devAddr)
    dsimp only
    rw [State.assert, if_pos ok]
    exact addressed.keep addressed.running (fun _ => address) (fun _ => rfl) (by simp)
  next point =>
    rw [State.assert, if_pos granted.2]
    exact addressed.keep addressed.running (fun _ => addressed.address (by simp [point]))
      (fun _ => rfl) (by simp)
  next point =>
    have noRx := started.rx (by simp [point])
    rw [State.assert, if_pos granted.2]
    exact addressed.keep addressed.running (fun _ => addressed.address (by simp [point]))
      (by rw [noRx]; exact fun _ => rfl) (by simp)
  next => exact addressed.keep addressed.running addressed.address (fun _ => rfl) (by simp)

theorem rxThread (addressed : Addressed setup past state) (sound : Sound past state)
    (started : Started state) (step : Step) :
    Addressed setup (past ++ [(step, (rxThread setup state true LoRaMacStatus.ok).2)])
      (rxThread setup state true LoRaMacStatus.ok).1 := by
  unfold Application.rxThread
  split
  next => exact addressed.keep addressed.running addressed.address (fun _ => rfl) (by simp)
  next thread =>
    have room := sound.room_of_rx (by rw [thread]; rfl)
    have created : (Sockets.lorawanSocket state.sockets true).2 ≠ 0#32 :=
      (sound.sockCpt_fresh room).1
    dsimp only
    rw [State.assert, if_pos created]
    refine addressed.keep addressed.running addressed.address ?_ (by simp)
    intro port
    rw [thread]
    simp only [RxThread.binds, decide_eq_false_iff_not, not_and]
    intro nonzero below
    apply nonzero
    rw [← BitVec.toNat_inj]
    exact Nat.lt_one_iff.mp below
  next sock i thread =>
    have configured : state.main ≠ .configure := by
      intro point
      have absent := started.rx (by simp [point])
      rw [thread] at absent
      cases absent
    have read : lorawanGetDevAddrUnicast state.mib LoRaMacStatus.ok = setup.devAddr := by
      rw [lorawanGetDevAddrUnicast, if_pos rfl]
      exact addressed.address configured
    dsimp only
    rw [read]
    rcases sound.bind_cases thread setup.devAddr with
      ⟨nonzero, different, _⟩ | ⟨el, _, _, _, _, result⟩
    · rcases addressed.pinned with zero | same
      · exact absurd zero nonzero
      · exact absurd same.symm different
    · rw [result, State.assert, if_pos rfl]
      have repinned : Application.pinned (past ++ [(step, .bound setup.devAddr)]) =
          setup.devAddr := by
        rw [pinned_append_bound]
        rcases addressed.pinned with zero | same
        · rw [if_pos zero]
        · rw [same]
          split
          · rfl
          · rfl
      exact ⟨addressed.running, addressed.address, .inr repinned, fun _ _ => repinned⟩
  next sock buffers thread =>
    dsimp only
    split
    · exact addressed.keep addressed.running addressed.address (fun _ => rfl) (by simp)
    · split
      · exact addressed.keep addressed.running addressed.address
          (by rw [thread]; exact fun _ => rfl) (by simp)
      · exact addressed.keep addressed.running addressed.address
          (by rw [thread]; exact fun _ => rfl) (by simp)

theorem txThread (addressed : Addressed setup past state) (sound : Sound past state) (step : Step)
    (answer status : LoRaMacStatus) :
    Addressed setup (past ++ [(step, (txThread setup state true answer status).2)])
      (txThread setup state true answer status).1 := by
  unfold Application.txThread
  split
  next => exact addressed.keep addressed.running addressed.address (fun _ => rfl) (by simp)
  next thread =>
    have room := sound.room_of_tx (by rw [thread]; rfl)
    have created : (Sockets.lorawanSocket state.sockets true).2 ≠ 0#32 :=
      (sound.sockCpt_fresh room).1
    dsimp only
    rw [State.assert, if_pos created]
    exact addressed.keep addressed.running addressed.address (fun _ => rfl) (by simp)
  next => exact addressed.keep addressed.running addressed.address (fun _ => rfl) (by simp)

theorem next (addressed : Addressed setup past state) (told : Told past state) (step : Step)
    (granted : step.Granted) :
    Addressed setup (past ++ [(step, (application setup).reply state step)])
      ((application setup).next state step) := by
  have isRunning := addressed.running
  simp only [Machine.next, Machine.reply, application, isRunning, Bool.false_eq_true, if_false]
  cases step with
  | main answers created => exact addressed.mainThread told.started _ granted
  | rx allocated status =>
      rcases granted with ⟨rfl, rfl⟩
      exact addressed.rxThread told.sound told.started _
  | tx allocated answer status =>
      have isAllocated : allocated = true := granted
      subst isAllocated
      exact addressed.txThread told.sound _ answer status
  | frame frame allocated =>
      exact addressed.keep rfl addressed.address (fun _ => rfl) (by simp)
  | mac mibReq =>
      refine addressed.keep rfl (fun configured => ?_) (fun _ => rfl) (by simp)
      rw [← addressed.address configured]
      rcases mibReq with ⟨type, value⟩
      exact Function.update_of_ne (Ne.symm granted) _ _

end Addressed

/-- Where nothing is refused, the application runs on in any order of its threads, and accepts
just the frames for the device's own address, on each port from the turn on in which the
receiving thread has bound it. -/
theorem granted_application_serves (setup : Setup) (mib : Mib Unit) (steps : List Step)
    (granted : ∀ step ∈ steps, step.Granted) :
    let state := (application setup).run (.initial mib) steps
    let turns := turnsOf steps
    state.stopped = false ∧
      ∀ (frame : McpsIndication) (allocated : Bool),
        acceptedBy (.frame frame allocated,
            (application setup).reply state (.frame frame allocated)) = some frame ↔
          allocated = true ∧ frame.status = loRaMacEventInfoStatusOk ∧
            frame.devAddr = setup.devAddr ∧ 0 < frame.port.toNat ∧
              frame.port.toNat < turns.rx := by
  intro state turns
  have kept : Told ((application setup).trace (.initial mib) steps) state ∧
      Addressed setup ((application setup).trace (.initial mib) steps) state :=
    (application setup).history_along
      (fun past state => Told past state ∧ Addressed setup past state)
      (fun past state step kept granted =>
        ⟨⟨kept.1.sound.next setup kept.1.started step, kept.1.started.next setup step⟩,
          kept.2.next kept.1 step granted⟩)
      steps [] (.initial mib)
      ((application setup).along_of_mem granted (.initial mib))
      ⟨⟨Sound.initial mib, Started.initial mib⟩, Addressed.initial mib⟩
  have running := kept.2.running
  have scheduled : OnSchedule turns state := onSchedule_run setup mib steps running
  refine ⟨running, ?_⟩
  intro frame allocated
  rw [kept.1.sound.accepted_iff setup frame allocated, scheduled.binds_iff]
  constructor
  · rintro ⟨_, isAllocated, statusOk, address, port⟩
    have own := kept.2.bound frame.port ((scheduled.binds_iff frame.port).mpr port)
    exact ⟨isAllocated, statusOk, address.trans own, port⟩
  · rintro ⟨isAllocated, statusOk, address, port⟩
    have own := kept.2.bound frame.port ((scheduled.binds_iff frame.port).mpr port)
    exact ⟨running, isAllocated, statusOk, address.trans own.symm, port⟩

/-- Once the receiving thread has had two turns, a frame for the device's port 1 is accepted. -/
theorem granted_application_serves_first_port :
    let setup : Setup := ⟨1000#32, #v[0#32, 0#32, 5#32], Vector.replicate 255 0#8, 0⟩
    let frame : McpsIndication := ⟨0#32, 5#32, 1#8, [7#8], 1#8, by decide⟩
    let steps : List Step :=
      [.main (fun _ => 0#32) true, .main (fun _ => 0#32) true, .rx true 0#32,
        .main (fun _ => 0#32) true, .rx true 0#32, .rx true 0#32]
    acceptedBy (.frame frame true, (application setup).reply
      ((application setup).run (.initial blankMib) steps) (.frame frame true)) = some frame := by
  intro setup frame steps
  have granted : ∀ step ∈ steps, step.Granted := by
    simp [steps, Step.Granted, LoRaMacStatus.ok]
  have serves := (granted_application_serves setup blankMib steps granted).2 frame true
  exact serves.mpr ⟨rfl, rfl, rfl, by decide, by decide⟩

end Lorawan.Application
