import Lorawan.Application.Soundness

/-! # The assertions of the application

Nearly every call of the API is followed by an assertion. This file says when one fails, in
any order of the threads. -/

namespace Lorawan.Application

open Lorawan.Configuration Sockets

variable {past : History} {state : State}

/-- The environment refuses what the step needs: the MAC a parameter, the OS a thread or
memory. An address read for a bind is refused when it is not the address that was pinned
before, be it that the MAC has another one now or that it could not be read. -/
def State.Refused (pinned : DevAddr) (state : State) : Step → Prop
  | .main answers created =>
      state.main = .configure ∧ (∃ type, answers type ≠ LoRaMacStatus.ok) ∨
        (state.main = .startTx ∨ state.main = .startRx) ∧ created = false
  | .rx allocated status =>
      state.rx = .start ∧ allocated = false ∨
        (∃ sock i, state.rx = .bind sock i) ∧ pinned ≠ 0#32 ∧
          lorawanGetDevAddrUnicast state.mib status ≠ pinned
  | .tx allocated _ _ => state.tx = .start ∧ allocated = false
  | .frame _ _ => False
  | .mac _ => False

theorem State.snd_assert (state : State) (condition : Prop) [Decidable condition]
    (continued : State × Output) (passes : continued.2 ≠ .assertFailed) :
    (state.assert condition continued).2 = .assertFailed ↔ ¬condition := by
  unfold State.assert
  split
  · next holds => exact ⟨fun failed => absurd failed passes, fun fails => absurd holds fails⟩
  · next fails => exact ⟨fun _ => fails, fun _ => rfl⟩

theorem mainThread_fails_iff (setup : Setup) (state : State) (answers : MibType → LoRaMacStatus)
    (created : Bool) :
    (mainThread setup state answers created).2 = .assertFailed ↔
      state.main = .configure ∧ (∃ type, answers type ≠ LoRaMacStatus.ok) ∨
        (state.main = .startTx ∨ state.main = .startRx) ∧ created = false := by
  unfold mainThread
  split
  next point =>
    have accepted := lorawanConfigureABP_ok_iff setup.hwId[2] (Vector.replicate 16 0#8)
      (Vector.replicate 16 0#8) 1#8 2#8
      (.ofAnswers Mib.store fun mibReq => answers mibReq.1) state.mib
    simp only [mem_acceptedTypes_ofAnswers] at accepted
    rw [State.snd_assert, accepted, not_forall]
    · simp [point]
    · simp
  next point =>
    rw [State.snd_assert]
    · simp [point]
    · simp
  next point =>
    rw [State.snd_assert]
    · simp [point]
    · simp
  next point => simp [point]

namespace Sound

theorem lorawanSocket_eq_zero_iff (sound : Sound past state)
    (room : state.sockets.sockBlocks ≤ 1) (allocated : Bool) :
    (lorawanSocket state.sockets allocated).2 = 0#32 ↔ allocated = false := by
  cases allocated with
  | false => simp [lorawanSocket]
  | true => simpa [lorawanSocket] using (sound.sockCpt_fresh room).1

theorem rxThread_fails_iff (setup : Setup) (sound : Sound past state) (allocated : Bool)
    (status : LoRaMacStatus) :
    (Application.rxThread setup state allocated status).2 = .assertFailed ↔
      state.Refused (pinned past) (.rx allocated status) := by
  unfold Application.rxThread State.Refused
  split
  next thread => simp [thread]
  next thread =>
    have room := sound.room_of_rx (by rw [thread]; rfl)
    dsimp only
    rw [State.snd_assert, not_not, sound.lorawanSocket_eq_zero_iff room]
    · simp [thread]
    · simp
  next sock i thread =>
    dsimp only
    rw [State.snd_assert]
    case passes => simp
    rcases sound.bind_cases thread (lorawanGetDevAddrUnicast state.mib status) with
      ⟨pinned, different, result⟩ | ⟨el, _, _, _, accepted, result⟩
    · rw [result]
      simp [thread, pinned, different]
    · rw [result]
      have unrefused : ¬(pinned past ≠ 0#32 ∧
          lorawanGetDevAddrUnicast state.mib status ≠ pinned past) := by
        intro refused
        rcases accepted with zero | same
        · exact refused.1 zero
        · exact refused.2 same
      simp [thread, unrefused]
  next sock buffers thread =>
    dsimp only
    split
    · simp [thread]
    · split <;> simp [thread]

theorem txThread_fails_iff (setup : Setup) (sound : Sound past state) (allocated : Bool)
    (answer status : LoRaMacStatus) :
    (Application.txThread setup state allocated answer status).2 = .assertFailed ↔
      state.tx = .start ∧ allocated = false := by
  unfold Application.txThread
  split
  next thread => simp [thread]
  next thread =>
    have room := sound.room_of_tx (by rw [thread]; rfl)
    dsimp only
    rw [State.snd_assert, not_not, sound.lorawanSocket_eq_zero_iff room]
    · simp [thread]
    · simp
  next sock thread => simp [thread]

end Sound

/-- After any run an assertion fails exactly when the environment refuses the step: no
order of the threads and the frames makes a port, a socket or an identifier unavailable. -/
theorem assertion_fails_iff (setup : Setup) (mib : Mib Unit) (steps : List Step) (step : Step) :
    let past := (application setup).trace (.initial mib) steps
    let state := (application setup).run (.initial mib) steps
    (application setup).reply state step = .assertFailed ↔
      state.stopped = false ∧ state.Refused (pinned past) step := by
  intro past state
  have sound : Sound past state := (Told.run setup mib steps).sound
  cases running : state.stopped with
  | true => simp [Machine.reply, application, running]
  | false =>
      simp only [Machine.reply, application, running, Bool.false_eq_true, if_false, true_and]
      cases step with
      | main answers created => exact mainThread_fails_iff setup state answers created
      | rx allocated status => exact sound.rxThread_fails_iff setup allocated status
      | tx allocated answer status => exact sound.txThread_fails_iff setup allocated answer status
      | frame frame allocated => simp [State.Refused]
      | mac mibReq => simp [State.Refused]

end Lorawan.Application
