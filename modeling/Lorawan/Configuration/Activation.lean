import Lorawan.Library.RequestBatch
import Lorawan.Mac

/-! # Activation of the device

`lorawan_configure_ABP` and `lorawan_configure_OTAA` write parameters of the MIB, the
MAC's information base, one request at a time. Neither looks at an answer before the next
request, and neither takes a request back.

`CLASS_C_ENABLE` is defined nowhere, so that the request for class C is not compiled. -/

namespace Lorawan.Configuration

/-- The members of `Mib_t` that the API sets. -/
inductive MibType
  | devAddr
  | nwkSKey
  | appSKey
  | networkJoined
  | channelsTxPower
  | channelsNbRep
  deriving DecidableEq, Repr

/-- The member of the union `MibParam_t` that belongs to the type. -/
abbrev MibType.Param : MibType → Type
  | .devAddr => DevAddr
  | .nwkSKey => Key
  | .appSKey => Key
  | .networkJoined => Bool
  | .channelsTxPower => BitVec 8
  | .channelsNbRep => Byte

/-- `MibRequestConfirm_t`. -/
abbrev MibRequestConfirm := Sigma MibType.Param

/-- The MIB, with its other parameters and the MAC's own state as `rest`. -/
structure Mib (Rest : Type) where
  param : (type : MibType) → type.Param
  rest : Rest

variable {Rest : Type}

def Mib.store (mib : Mib Rest) (mibReq : MibRequestConfirm) : Mib Rest :=
  { mib with param := Function.update mib.param mibReq.1 mibReq.2 }

/-- `LoRaMacMibSetRequestConfirm`. Whether it accepts a request may depend on the request
and on all of the MAC's state. -/
abbrev MibService (Rest : Type) := Service (@Mib.store Rest) 32

/-- Setting parameters leaves the MIB as it is when it had the values already. -/
theorem Mib.set_eq_self_iff (mib : Mib Rest) (wanted : (type : MibType) → type.Param)
    (types : List MibType) :
    { mib with param := fun type => if type ∈ types then wanted type else mib.param type } = mib ↔
      ∀ type ∈ types, mib.param type = wanted type := by
  constructor
  · intro same type member
    have value := congrArg (fun mib => mib.param type) same
    simpa [member] using value.symm
  · intro holds
    cases mib
    congr 1
    funext type
    split
    · next member => exact (holds type member).symm
    · rfl

/-! ## The functions -/

/-- The common part: `mibReqs` is what the function puts into `mibReq` before each call. -/
def configure (mac : MibService Rest) (mib : Mib Rest) (mibReqs : List MibRequestConfirm) :
    Mib Rest × LorawanStatus :=
  let done := mibReqs.foldl mac.issue (LoRaMacStatus.ok, mib)
  if done.1 = LoRaMacStatus.ok then
    (done.2, .ok)
  else
    (done.2, .error)

def abpRequests (devAddr : DevAddr) (nwkSkey appSkey : Key) (nbRep : Byte)
    (txPow : BitVec 8) : List MibRequestConfirm :=
  [⟨.devAddr, devAddr⟩, ⟨.nwkSKey, nwkSkey⟩, ⟨.appSKey, appSkey⟩, ⟨.networkJoined, true⟩,
    ⟨.channelsTxPower, txPow⟩, ⟨.channelsNbRep, nbRep⟩]

def lorawanConfigureABP (mac : MibService Rest) (mib : Mib Rest) (devAddr : DevAddr)
    (nwkSkey appSkey : Key) (nbRep : Byte) (txPow : BitVec 8) : Mib Rest × LorawanStatus :=
  configure mac mib (abpRequests devAddr nwkSkey appSkey nbRep txPow)

def otaaRequests (nbRep : Byte) (txPow : BitVec 8) : List MibRequestConfirm :=
  [⟨.networkJoined, false⟩, ⟨.channelsTxPower, txPow⟩, ⟨.channelsNbRep, nbRep⟩]

/-- The join request that the function fills in from `devEUI`, `appEUI` and `appkey` is
dropped without being sent. -/
def lorawanConfigureOTAA (mac : MibService Rest) (mib : Mib Rest) (_devEUI _appEUI : Vector Byte 8)
    (_appkey : Key) (nbRep : Byte) (txPow : BitVec 8) : Mib Rest × LorawanStatus :=
  configure mac mib (otaaRequests nbRep txPow)

/-! ## What a batch of requests does to the MIB -/

variable {mac : MibService Rest} {mib : Mib Rest} {mibReqs : List MibRequestConfirm}

/-- The types of the requests that the MAC accepts. -/
def acceptedTypes (mac : MibService Rest) (mib : Mib Rest) (mibReqs : List MibRequestConfirm) :
    List MibType :=
  (mac.accepted mib mibReqs).map Sigma.fst

theorem foldl_store (mib : Mib Rest) (mibReqs : List MibRequestConfirm) :
    mibReqs.foldl Mib.store mib =
      { mib with
        param := mibReqs.foldl (fun param mibReq => Function.update param mibReq.1 mibReq.2)
          mib.param } := by
  induction mibReqs generalizing mib with
  | nil => rfl
  | cons mibReq mibReqs induction =>
      rw [List.foldl_cons, induction]
      rfl

theorem configure_fst (mac : MibService Rest) (mib : Mib Rest)
    (mibReqs : List MibRequestConfirm) :
    (configure mac mib mibReqs).1 = (mac.accepted mib mibReqs).foldl Mib.store mib := by
  rw [← mac.foldl_issue_snd LoRaMacStatus.ok]
  simp only [configure]
  split
  · rfl
  · rfl

theorem configure_snd_eq_ok (mac : MibService Rest) (mib : Mib Rest)
    (mibReqs : List MibRequestConfirm) :
    (configure mac mib mibReqs).2 = .ok ↔ mac.accepted mib mibReqs = mibReqs := by
  have merged := mac.foldl_issue_fst_eq_zero LoRaMacStatus.ok mib mibReqs
  simp only [configure]
  split
  · next every => simpa using (merged.mp every).2
  · next some_refused =>
    have different : mac.accepted mib mibReqs ≠ mibReqs :=
      fun same => some_refused (merged.mpr ⟨rfl, same⟩)
    simp [different]

theorem configure_ok_iff (distinct : (mibReqs.map Sigma.fst).Nodup) :
    (configure mac mib mibReqs).2 = .ok ↔
      ∀ type ∈ mibReqs.map Sigma.fst, type ∈ acceptedTypes mac mib mibReqs := by
  rw [configure_snd_eq_ok]
  exact eq_iff_of_sublist (mac.accepted_sublist mib mibReqs) distinct

/-- Whatever the status, the accepted parameters are set and all others are kept. -/
theorem configure_mib {wanted : (type : MibType) → type.Param}
    (agree : ∀ mibReq ∈ mibReqs, mibReq.2 = wanted mibReq.1) :
    (configure mac mib mibReqs).1 =
      { mib with
        param := fun type =>
          if type ∈ acceptedTypes mac mib mibReqs then wanted type else mib.param type } := by
  rw [configure_fst, foldl_store]
  congr 1
  funext type
  exact foldl_update_apply wanted mib.param _
    (fun mibReq member => agree mibReq ((mac.accepted_sublist mib mibReqs).subset member)) type

/-! ## Activation by personalization -/

/-- The MIB parameters as the arguments of `lorawan_configure_ABP` have them. -/
def abpParams (devAddr : DevAddr) (nwkSkey appSkey : Key) (nbRep : Byte) (txPow : BitVec 8) :
    (type : MibType) → type.Param
  | .devAddr => devAddr
  | .nwkSKey => nwkSkey
  | .appSKey => appSkey
  | .networkJoined => true
  | .channelsTxPower => txPow
  | .channelsNbRep => nbRep

section Abp

variable (devAddr : DevAddr) (nwkSkey appSkey : Key) (nbRep : Byte) (txPow : BitVec 8)

theorem abpRequests_agree :
    ∀ mibReq ∈ abpRequests devAddr nwkSkey appSkey nbRep txPow,
      mibReq.2 = abpParams devAddr nwkSkey appSkey nbRep txPow mibReq.1 := by
  simp [abpRequests, abpParams]

theorem map_fst_abpRequests :
    (abpRequests devAddr nwkSkey appSkey nbRep txPow).map Sigma.fst =
      [.devAddr, .nwkSKey, .appSKey, .networkJoined, .channelsTxPower, .channelsNbRep] :=
  rfl

theorem mem_map_fst_abpRequests (type : MibType) :
    type ∈ (abpRequests devAddr nwkSkey appSkey nbRep txPow).map Sigma.fst := by
  rw [map_fst_abpRequests]
  cases type <;> decide

theorem lorawanConfigureABP_ok_iff (mac : MibService Rest) (mib : Mib Rest) :
    (lorawanConfigureABP mac mib devAddr nwkSkey appSkey nbRep txPow).2 = .ok ↔
      ∀ type, type ∈ acceptedTypes mac mib (abpRequests devAddr nwkSkey appSkey nbRep txPow) := by
  have distinct : ((abpRequests devAddr nwkSkey appSkey nbRep txPow).map Sigma.fst).Nodup := by
    rw [map_fst_abpRequests]
    decide
  rw [lorawanConfigureABP, configure_ok_iff distinct]
  constructor
  · intro covered type
    exact covered type (mem_map_fst_abpRequests devAddr nwkSkey appSkey nbRep txPow type)
  · intro covered type _
    exact covered type

theorem lorawanConfigureABP_mib (mac : MibService Rest) (mib : Mib Rest) :
    (lorawanConfigureABP mac mib devAddr nwkSkey appSkey nbRep txPow).1 =
      { mib with
        param := fun type =>
          if type ∈ acceptedTypes mac mib (abpRequests devAddr nwkSkey appSkey nbRep txPow) then
            abpParams devAddr nwkSkey appSkey nbRep txPow type
          else
            mib.param type } :=
  configure_mib (abpRequests_agree devAddr nwkSkey appSkey nbRep txPow)

/-- Every pattern of answers to the six requests is that of some MAC. -/
theorem mem_acceptedTypes_ofAnswers (answers : MibType → LoRaMacStatus) (mib : Mib Rest)
    (type : MibType) :
    type ∈ acceptedTypes (.ofAnswers Mib.store fun mibReq => answers mibReq.1) mib
        (abpRequests devAddr nwkSkey appSkey nbRep txPow) ↔
      answers type = LoRaMacStatus.ok := by
  have asked := mem_map_fst_abpRequests devAddr nwkSkey appSkey nbRep txPow type
  rcases List.mem_map.mp asked with ⟨mibReq, member, rfl⟩
  rw [acceptedTypes, Service.accepted_ofAnswers, List.mem_map]
  constructor
  · intro accepted
    rcases accepted with ⟨other, otherMem, sameType⟩
    have answered := (List.mem_filter.mp otherMem).2
    rw [← sameType]
    exact of_decide_eq_true answered
  · intro answered
    exact ⟨mibReq, List.mem_filter.mpr ⟨member, decide_eq_true answered⟩, rfl⟩

/-- The call reports what was accepted, and has no effect unless it succeeds. -/
structure AllOrNothing (mac : MibService Rest) (mib : Mib Rest) : Prop where
  reports : (lorawanConfigureABP mac mib devAddr nwkSkey appSkey nbRep txPow).2 = .ok ↔
    ∀ type, type ∈ acceptedTypes mac mib (abpRequests devAddr nwkSkey appSkey nbRep txPow)
  all : (lorawanConfigureABP mac mib devAddr nwkSkey appSkey nbRep txPow).2 = .ok →
    (lorawanConfigureABP mac mib devAddr nwkSkey appSkey nbRep txPow).1 =
      { mib with param := abpParams devAddr nwkSkey appSkey nbRep txPow }
  nothing : (lorawanConfigureABP mac mib devAddr nwkSkey appSkey nbRep txPow).2 = .error →
    (lorawanConfigureABP mac mib devAddr nwkSkey appSkey nbRep txPow).1 = mib

/-- The status is OK exactly when all requests were accepted, and then the MIB holds the
arguments. After an error it holds those whose requests were accepted, and is as before
only if it had them already. -/
theorem configureABP_sets_accepted (mac : MibService Rest) (mib : Mib Rest) :
    let accepted :=
      acceptedTypes mac mib (abpRequests devAddr nwkSkey appSkey nbRep txPow)
    let wanted := abpParams devAddr nwkSkey appSkey nbRep txPow
    let result := lorawanConfigureABP mac mib devAddr nwkSkey appSkey nbRep txPow
    (result.2 = .ok ↔ ∀ type, type ∈ accepted) ∧
      (result.2 = .ok → result.1 = { mib with param := wanted }) ∧
      (result.2 = .error →
        result.1 =
          { mib with
            param := fun type => if type ∈ accepted then wanted type else mib.param type } ∧
        (result.1 = mib ↔ ∀ type ∈ accepted, mib.param type = wanted type)) := by
  intro accepted wanted result
  have status : result.2 = .ok ↔ ∀ type, type ∈ accepted :=
    lorawanConfigureABP_ok_iff devAddr nwkSkey appSkey nbRep txPow mac mib
  have effect := lorawanConfigureABP_mib devAddr nwkSkey appSkey nbRep txPow mac mib
  refine ⟨status, ?_, ?_⟩
  · intro ok
    have every := status.mp ok
    rw [effect]
    congr 1
    funext type
    exact if_pos (every type)
  · intro _
    refine ⟨effect, ?_⟩
    rw [effect]
    exact Mib.set_eq_self_iff mib wanted accepted

end Abp

/-- The MIB of a device that never joined. -/
def blankMib : Mib Unit where
  param
    | .devAddr => 0#32
    | .nwkSKey => Vector.replicate 16 0#8
    | .appSKey => Vector.replicate 16 0#8
    | .networkJoined => false
    | .channelsTxPower => 0#8
    | .channelsNbRep => 1#8
  rest := ()

/-- The MAC refuses the network session key, with `LORAMAC_STATUS_PARAMETER_INVALID`, and
accepts everything else. -/
def refusesNwkSKey : MibService Unit :=
  .ofAnswers Mib.store fun mibReq =>
    if mibReq.1 = .nwkSKey then LoRaMacStatus.parameterInvalid else LoRaMacStatus.ok

/-- The device is marked joined with its new address and without its network session key. -/
theorem configureABP_joins_without_key :
    let key := Vector.replicate 16 1#8
    let result := lorawanConfigureABP refusesNwkSKey blankMib 5#32 key key 1#8 2#8
    (result.2 = .error ∧ result.1.param .networkJoined = true ∧
      result.1.param .nwkSKey = Vector.replicate 16 0#8) ∧
    ¬AllOrNothing 5#32 key key 1#8 2#8 refusesNwkSKey blankMib := by
  intro key result
  have error : result.2 = .error := by decide
  have joined : result.1.param .networkJoined = true := by decide
  refine ⟨⟨error, joined, by decide⟩, ?_⟩
  intro atomic
  have kept : result.1 = blankMib := atomic.nothing error
  rw [kept] at joined
  exact absurd joined (by decide)

/-! ## Activation over the air -/

/-- The parameters that `lorawan_configure_OTAA` asks for, among those of the MIB. -/
def otaaParams (mib : Mib Rest) (nbRep : Byte) (txPow : BitVec 8) :
    (type : MibType) → type.Param
  | .networkJoined => false
  | .channelsTxPower => txPow
  | .channelsNbRep => nbRep
  | type => mib.param type

section Otaa

variable (devEUI appEUI : Vector Byte 8) (appkey : Key) (nbRep : Byte) (txPow : BitVec 8)

theorem otaaRequests_agree (mib : Mib Rest) :
    ∀ mibReq ∈ otaaRequests nbRep txPow, mibReq.2 = otaaParams mib nbRep txPow mibReq.1 := by
  simp [otaaRequests, otaaParams]

theorem lorawanConfigureOTAA_mib (mac : MibService Rest) (mib : Mib Rest) :
    (lorawanConfigureOTAA mac mib devEUI appEUI appkey nbRep txPow).1 =
      { mib with
        param := fun type =>
          if type ∈ acceptedTypes mac mib (otaaRequests nbRep txPow) then
            otaaParams mib nbRep txPow type
          else
            mib.param type } :=
  configure_mib (otaaRequests_agree nbRep txPow mib)

end Otaa

end Lorawan.Configuration
