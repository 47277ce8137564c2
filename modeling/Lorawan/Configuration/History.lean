import Lorawan.Configuration.Activation
import Lorawan.Library.Registers

/-! # What the MIB holds after any activations

A device may be activated again and again, by either function and with any answers of the
MAC, which also sets parameters by itself. Each parameter holds what was accepted last. -/

namespace Lorawan.Configuration

variable {Rest : Type}

/-- `status` is what `LoRaMacMibGetRequestConfirm` returns. -/
def lorawanGetDevAddrUnicast (mib : Mib Rest) (status : LoRaMacStatus) : DevAddr :=
  if status = LoRaMacStatus.ok then mib.param .devAddr else 0#32

/-- `answers` are those of the MAC to the requests of the call. -/
inductive ActivationCall
  | configureABP (devAddr : DevAddr) (nwkSkey appSkey : Key) (nbRep : Byte) (txPow : BitVec 8)
      (answers : MibType → LoRaMacStatus)
  | configureOTAA (devEUI appEUI : Vector Byte 8) (appkey : Key) (nbRep : Byte)
      (txPow : BitVec 8) (answers : MibType → LoRaMacStatus)
  | getDevAddrUnicast (status : LoRaMacStatus)
  /-- The MAC sets a parameter by itself. -/
  | macSet (mibReq : MibRequestConfirm)

inductive ActivationReply
  | configured (status : LorawanStatus)
  | devAddr (devAddr : DevAddr)
  | done
  deriving DecidableEq, Repr

def answering (answers : MibType → LoRaMacStatus) : MibService Rest :=
  .ofAnswers Mib.store fun mibReq => answers mibReq.1

def configuration : Machine (Mib Rest) ActivationCall ActivationReply where
  step mib
    | .configureABP devAddr nwkSkey appSkey nbRep txPow answers =>
        (lorawanConfigureABP (answering answers) mib devAddr nwkSkey appSkey nbRep txPow).map
          id .configured
    | .configureOTAA devEUI appEUI appkey nbRep txPow answers =>
        (lorawanConfigureOTAA (answering answers) mib devEUI appEUI appkey nbRep txPow).map
          id .configured
    | .getDevAddrUnicast status => (mib, .devAddr (lorawanGetDevAddrUnicast mib status))
    | .macSet mibReq => (mib.store mibReq, .done)

/-! ## One call -/

/-- What a call asks the MAC to set a parameter to. -/
def ActivationCall.asks (type : MibType) : ActivationCall → Option type.Param
  | .configureABP devAddr nwkSkey appSkey nbRep txPow _ =>
      some (abpParams devAddr nwkSkey appSkey nbRep txPow type)
  | .configureOTAA _ _ _ nbRep txPow _ =>
      match type with
      | .networkJoined => some false
      | .channelsTxPower => some txPow
      | .channelsNbRep => some nbRep
      | _ => none
  | _ => none

/-- What the MAC answers to the request for a parameter. -/
def ActivationCall.answer (type : MibType) : ActivationCall → LoRaMacStatus
  | .configureABP _ _ _ _ _ answers => answers type
  | .configureOTAA _ _ _ _ _ answers => answers type
  | _ => LoRaMacStatus.ok

/-- What a call sets a parameter to. -/
def accepted (type : MibType) (answered : ActivationCall × ActivationReply) : Option type.Param :=
  match answered.1 with
  | .macSet ⟨other, value⟩ => if same : other = type then some (same ▸ value) else none
  | call => if call.answer type = LoRaMacStatus.ok then call.asks type else none

theorem mem_acceptedTypes_answering (answers : MibType → LoRaMacStatus) (mib : Mib Rest)
    (mibReqs : List MibRequestConfirm) (type : MibType) :
    type ∈ acceptedTypes (answering answers) mib mibReqs ↔
      type ∈ mibReqs.map Sigma.fst ∧ answers type = LoRaMacStatus.ok := by
  rw [acceptedTypes, answering, Service.accepted_ofAnswers]
  constructor
  · intro member
    rcases List.mem_map.mp member with ⟨mibReq, kept, rfl⟩
    rcases List.mem_filter.mp kept with ⟨asked, answered⟩
    exact ⟨List.mem_map_of_mem asked, of_decide_eq_true answered⟩
  · rintro ⟨member, answered⟩
    rcases List.mem_map.mp member with ⟨mibReq, asked, rfl⟩
    exact List.mem_map_of_mem (List.mem_filter.mpr ⟨asked, decide_eq_true answered⟩)

/-- Each parameter of the MIB. -/
def parameter (type : MibType) :
    (configuration : Machine (Mib Rest) ActivationCall ActivationReply).Register type.Param where
  value mib := mib.param type
  written := accepted type
  invariant _ := True
  preserved _ _ _ := trivial
  value_next mib call _ := by
    cases call with
    | configureABP devAddr nwkSkey appSkey nbRep txPow answers =>
        have member := mem_acceptedTypes_answering answers mib
          (abpRequests devAddr nwkSkey appSkey nbRep txPow) type
        have asked := mem_map_fst_abpRequests devAddr nwkSkey appSkey nbRep txPow type
        change (lorawanConfigureABP (answering answers) mib devAddr nwkSkey appSkey nbRep
          txPow).1.param type = _
        rw [lorawanConfigureABP_mib]
        by_cases answered : answers type = LoRaMacStatus.ok
        · simp [member, asked, answered, accepted, ActivationCall.answer, ActivationCall.asks]
        · simp [member, answered, accepted, ActivationCall.answer]
    | configureOTAA devEUI appEUI appkey nbRep txPow answers =>
        have member := mem_acceptedTypes_answering answers mib (otaaRequests nbRep txPow) type
        change (lorawanConfigureOTAA (answering answers) mib devEUI appEUI appkey nbRep
          txPow).1.param type = _
        rw [lorawanConfigureOTAA_mib]
        by_cases set : type ∈ acceptedTypes (answering answers) mib (otaaRequests nbRep txPow)
        · rcases member.mp set with ⟨asked, answered⟩
          refine (if_pos set).trans ?_
          cases type <;>
            simp_all [accepted, ActivationCall.answer, ActivationCall.asks, otaaRequests,
              otaaParams]
        · have refused := mt member.mpr set
          refine (if_neg set).trans ?_
          by_cases answered : answers type = LoRaMacStatus.ok
          · cases type <;>
              simp_all [accepted, ActivationCall.answer, ActivationCall.asks, otaaRequests]
          · simp [accepted, ActivationCall.answer, answered]
    | getDevAddrUnicast status => simp [accepted, ActivationCall.asks]; rfl
    | macSet mibReq =>
        rcases mibReq with ⟨other, value⟩
        change Function.update mib.param other value type = _
        by_cases same : other = type
        · subst same
          simp [accepted]
        · rw [Function.update_of_ne (Ne.symm same)]
          simp [accepted, same]

/-- The two functions that activate the device. -/
def ActivationCall.activates : ActivationCall → Bool
  | .configureABP _ _ _ _ _ _ => true
  | .configureOTAA _ _ _ _ _ _ => true
  | _ => false

/-- The status tells whether everything was accepted. -/
theorem reply_ok_iff (mib : Mib Rest) (call : ActivationCall) (activates : call.activates = true) :
    configuration.reply mib call = .configured .ok ↔
      ∀ type, (call.asks type).isSome = true → call.answer type = LoRaMacStatus.ok := by
  cases call with
  | configureABP devAddr nwkSkey appSkey nbRep txPow answers =>
      have reply : configuration.reply mib
          (.configureABP devAddr nwkSkey appSkey nbRep txPow answers) =
          .configured (lorawanConfigureABP (answering answers) mib devAddr nwkSkey appSkey nbRep
            txPow).2 := rfl
      rw [reply, ActivationReply.configured.injEq, lorawanConfigureABP_ok_iff]
      constructor
      · intro every type _
        exact ((mem_acceptedTypes_answering answers mib _ type).mp (every type)).2
      · intro answered type
        exact (mem_acceptedTypes_answering answers mib _ type).mpr
          ⟨mem_map_fst_abpRequests devAddr nwkSkey appSkey nbRep txPow type, answered type rfl⟩
  | configureOTAA devEUI appEUI appkey nbRep txPow answers =>
      have reply : configuration.reply mib
          (.configureOTAA devEUI appEUI appkey nbRep txPow answers) =
          .configured (lorawanConfigureOTAA (answering answers) mib devEUI appEUI appkey nbRep
            txPow).2 := rfl
      have distinct : ((otaaRequests nbRep txPow).map Sigma.fst).Nodup := by
        simp [otaaRequests]
      rw [reply, ActivationReply.configured.injEq, lorawanConfigureOTAA, configure_ok_iff distinct]
      constructor
      · intro every type asked
        have listed : type ∈ (otaaRequests nbRep txPow).map Sigma.fst := by
          cases type <;> simp_all [ActivationCall.asks, otaaRequests]
        exact ((mem_acceptedTypes_answering answers mib _ type).mp (every type listed)).2
      · intro answered type listed
        have asked : (ActivationCall.asks type
            (.configureOTAA devEUI appEUI appkey nbRep txPow answers)).isSome = true := by
          cases type <;> simp_all [ActivationCall.asks, otaaRequests]
        exact (mem_acceptedTypes_answering answers mib _ type).mpr ⟨listed, answered type asked⟩
  | getDevAddrUnicast status => cases activates
  | macSet mibReq => cases activates

/-! ## Sessions -/

/-- An address and the two session keys that belong to it. -/
abbrev Session := DevAddr × Key × Key

def Mib.session (mib : Mib Rest) : Session :=
  (mib.param .devAddr, mib.param .nwkSKey, mib.param .appSKey)

def sessionGiven : ActivationCall × ActivationReply → Option Session
  | (.configureABP devAddr nwkSkey appSkey _ _ _, _) => some (devAddr, nwkSkey, appSkey)
  | _ => none

/-- An activation by personalization that succeeds, or a step that is none and in which the
MAC leaves the session alone. -/
def KeepsSessions : ActivationCall × ActivationReply → Prop
  | (.configureABP _ _ _ _ _ _, reply) => reply = .configured .ok
  | (.macSet mibReq, _) => mibReq.1 ∉ [.devAddr, .nwkSKey, .appSKey]
  | _ => True

theorem accepted_session {mib : Mib Rest} {answered : ActivationCall × ActivationReply}
    (reply : answered.2 = configuration.reply mib answered.1) (keeps : KeepsSessions answered) :
    accepted .devAddr answered = (sessionGiven answered).map Prod.fst ∧
      accepted .nwkSKey answered = (sessionGiven answered).map (fun session => session.2.1) ∧
      accepted .appSKey answered = (sessionGiven answered).map (fun session => session.2.2) := by
  rcases answered with ⟨call, answer⟩
  cases call with
  | configureABP devAddr nwkSkey appSkey nbRep txPow answers =>
      have ok := reply.symm.trans keeps
      have every := (reply_ok_iff mib _ rfl).mp ok
      have answered : ∀ type, answers type = LoRaMacStatus.ok := fun type => every type rfl
      simp [accepted, ActivationCall.answer, ActivationCall.asks, sessionGiven, answered, abpParams]
  | configureOTAA devEUI appEUI appkey nbRep txPow answers =>
      simp [accepted, ActivationCall.asks, sessionGiven]
  | getDevAddrUnicast status => simp [accepted, ActivationCall.asks, sessionGiven]
  | macSet mibReq =>
      rcases mibReq with ⟨type, value⟩
      have apart : type ≠ .devAddr ∧ type ≠ .nwkSKey ∧ type ≠ .appSKey := by
        simpa [KeepsSessions] using keeps
      simp [accepted, sessionGiven, apart]

/-- Each parameter holds what the MAC accepted last for it, whichever function asked; the
address that the API reports is that value; a status is OK exactly when every request of its
call was accepted. While no activation by personalization fails and the MAC leaves them alone,
the address and the keys are those of one call, the last. -/
theorem configuration_history (mib : Mib Rest) (calls : List ActivationCall) :
    let past := configuration.trace mib calls
    let now := configuration.run mib calls
    (∀ type, now.param type = (latest (accepted type) past).getD (mib.param type)) ∧
      (∀ status, configuration.reply now (.getDevAddrUnicast status) =
        .devAddr
          (if status = LoRaMacStatus.ok then
            (latest (accepted .devAddr) past).getD (mib.param .devAddr)
          else 0#32)) ∧
      (∀ call, call.activates = true → (configuration.reply now call = .configured .ok ↔
        ∀ type, (call.asks type).isSome = true → call.answer type = LoRaMacStatus.ok)) ∧
      ((∀ answered ∈ past, KeepsSessions answered) →
        now.session = (latest sessionGiven past).getD mib.session) := by
  intro past now
  have holds : ∀ type, now.param type = (latest (accepted type) past).getD (mib.param type) :=
    fun type => (parameter type).value_run calls mib trivial
  refine ⟨holds, ?_, fun call => reply_ok_iff now call, ?_⟩
  · intro status
    rw [← holds .devAddr]
    rfl
  · intro keeps
    have agree : ∀ answered ∈ past,
        accepted .devAddr answered = (sessionGiven answered).map Prod.fst ∧
          accepted .nwkSKey answered = (sessionGiven answered).map (fun session => session.2.1) ∧
          accepted .appSKey answered =
            (sessionGiven answered).map (fun session => session.2.2) := by
      intro answered member
      rcases Machine.reply_of_mem_trace member with ⟨state, reply⟩
      exact accepted_session reply (keeps answered member)
    have devAddr := latest_congr fun answered member => (agree answered member).1
    have nwkSKey := latest_congr fun answered member => (agree answered member).2.1
    have appSKey := latest_congr fun answered member => (agree answered member).2.2
    rw [latest_map] at devAddr nwkSKey appSKey
    rw [Mib.session, holds .devAddr, holds .nwkSKey, holds .appSKey, devAddr, nwkSKey, appSKey]
    cases latest sessionGiven past <;> rfl

end Lorawan.Configuration
