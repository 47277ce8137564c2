import Lorawan.Library.RecordTable
import Lorawan.Sockets.Ports

/-! # The socket functions of `lorawan_api.c` and `lorawan_api_private.c`

Each definition follows the C function of its name. What the environment decides
within a call (whether `malloc` succeeds, what the MAC answers) is an argument. -/

namespace Lorawan.Sockets

/-- `lorawan_sock_t`. -/
abbrev LorawanSock := BitVec 32

/-- `struct sock_el`, at the block that `malloc` returned for it. `sc_next` is
the order of the list. -/
structure SockEl where
  block : Nat
  sock : LorawanSock
  mcpsReq : McpsReq
  mcpsInd : McpsIndication
  devAddr : DevAddr
  ports : Ports
  sockEventq : List OsEvent
  deriving DecidableEq

structure State where
  /-- The counter `sock_cpt` of `lorawan_socket`. -/
  sockCpt : LorawanSock
  lSockList : List SockEl
  /-- The object that the MAC hands to its callback, as it stands now. -/
  macIndication : McpsIndication
  /-- Blocks handed out so far, for sockets and for events. -/
  sockBlocks : Nat
  eventBlocks : Nat
  /-- Event blocks given to `free`, oldest first. -/
  freedEvents : List Nat
  deriving DecidableEq

namespace State

def initial : State where
  sockCpt := 1#32
  lSockList := []
  macIndication := .zero
  sockBlocks := 0
  eventBlocks := 0
  freedEvents := []

/-- Write a record back through its pointer. -/
def store (state : State) (el : SockEl) : State :=
  { state with lSockList := RecordTable.store SockEl.block el state.lSockList }

/-- `SLIST_REMOVE` and `free` of a record. -/
def discard (state : State) (block : Nat) : State :=
  { state with lSockList := RecordTable.discard SockEl.block block state.lSockList }

def freeEvent (state : State) (ev : OsEvent) : State :=
  { state with freedEvents := state.freedEvents ++ [ev.block] }

def deref (state : State) : IndicationPointer → McpsIndication
  | .macIndication => state.macIndication

end State

def lorawanFindEl (state : State) (sock : LorawanSock) : Option SockEl :=
  state.lSockList.find? fun el => el.sock == sock

def lorawanFindSockByParams (state : State) (devAddr : DevAddr) (port : Port) :
    LorawanSock :=
  if state.lSockList.isEmpty then 0#32
  else
    match state.lSockList.find? fun el => el.devAddr == devAddr && el.ports.contains port with
    | none => 0#32
    | some el => el.sock

/-- `_lorawan_init_mcps` on a record cleared by `memset`. -/
def lorawanInitMcps : McpsReq where
  type := .unconfirmed
  fPort := 0#8
  fBuffer := 0
  fBufferSize := 0#8
  datarate := 5#8

def lorawanSocket (state : State) (allocated : Bool) : State × LorawanSock :=
  if allocated then
    let el : SockEl :=
      { block := state.sockBlocks
        sock := state.sockCpt
        mcpsReq := lorawanInitMcps
        mcpsInd := .zero
        devAddr := 0#32
        ports := Ports.empty
        sockEventq := [] }
    ({ state with
        sockCpt := state.sockCpt + 1#32
        lSockList := el :: state.lSockList
        sockBlocks := state.sockBlocks + 1 }, el.sock)
  else (state, 0#32)

def lorawanClose (state : State) (sock : LorawanSock) : State × Int :=
  match lorawanFindEl state sock with
  | none => (state, -1)
  | some el =>
      if el.sockEventq ≠ [] then (state, -2)
      else (state.discard el.block, 0)

structure SendResult where
  status : LorawanStatus
  /-- What `LoRaMacMcpsRequest` was called with, as the request stood at each call. -/
  requests : List McpsReq
  deriving DecidableEq

/-- `answer` is what `LoRaMacMcpsRequest` returns. -/
def lorawanSend (state : State) (sock : LorawanSock) (port : Port) (payload : Nat)
    (payloadSize : Byte) (answer : LoRaMacStatus) : State × SendResult :=
  match lorawanFindEl state sock with
  | none => (state, { status := .invalidSock, requests := [] })
  | some el =>
      let mcpsReq : McpsReq :=
        { el.mcpsReq with fBuffer := payload, fBufferSize := payloadSize, fPort := port }
      let (el, status, requests) :=
        if el.mcpsReq.type = .unconfirmed then ({ el with mcpsReq }, answer, [mcpsReq])
        else if el.mcpsReq.type = .confirmed then ({ el with mcpsReq }, answer, [mcpsReq])
        else (el, LoRaMacStatus.parameterInvalid, [])
      (state.store el,
        { status := if status = LoRaMacStatus.ok then .ok else .error, requests })

def lorawanBind (state : State) (sock : LorawanSock) (devAddr : DevAddr) (port : Port) :
    State × LorawanStatus :=
  match lorawanFindEl state sock with
  | none => (state, .invalidSock)
  | some el =>
      let el := if el.devAddr = 0#32 then { el with devAddr := devAddr } else el
      let state := state.store el
      if el.devAddr ≠ devAddr then (state, .error)
      else if port = 0#8 then (state, .portAlreadyUsed)
      else if lorawanFindSockByParams state devAddr port ≠ 0#32 then (state, .portAlreadyUsed)
      else (state.store { el with ports := el.ports.add port }, .ok)

/-- The three buffers that a caller of `lorawan_recv` passes by pointer. -/
structure RecvBuffers where
  devAddr : DevAddr
  port : Port
  payload : List Byte
  deriving DecidableEq, Repr

structure RecvResult where
  /-- The return value; `none` while the call sleeps in `os_eventq_poll`. -/
  returned : Option Byte
  buffers : RecvBuffers
  /-- The socket record and the event that `os_eventq_poll` took from its queue. -/
  taken : Option (Nat × OsEvent)
  deriving DecidableEq, Repr

/-- The deadline passed to `os_eventq_poll`, in 32-bit arithmetic. -/
def recvTimo (osTicksPerSec : OsTime) (timeoutMs : BitVec 32) : OsTime :=
  if timeoutMs = 0#32 ∨ timeoutMs = osWaitForever then osWaitForever
  else timeoutMs * osTicksPerSec / 1000#32

/-- A call is taken up when it need not sleep, so that the record it looked up is
still the one it reads after the poll. -/
def lorawanRecv (osTicksPerSec : OsTime) (state : State) (sock : LorawanSock)
    (buffers : RecvBuffers) (payloadMaxLen : Byte) (timeoutMs : BitVec 32) :
    State × RecvResult :=
  match lorawanFindEl state sock with
  | none => (state, { returned := some 0#8, buffers, taken := none })
  | some el =>
      if el.devAddr = 0#32 then (state, { returned := some 0#8, buffers, taken := none })
      else if el.ports.firstUsed = 8 then
        (state, { returned := some 0#8, buffers, taken := none })
      else
        match osEventqPoll el.sockEventq (recvTimo osTicksPerSec timeoutMs) with
        | .waiting => (state, { returned := none, buffers, taken := none })
        | .timeout => (state, { returned := some 0#8, buffers, taken := none })
        | .event ev rest =>
            let rxData := state.deref ev.evArg
            let size :=
              if payloadMaxLen.toNat < rxData.bufferSize.toNat then payloadMaxLen
              else rxData.bufferSize
            let filled : RecvBuffers :=
              { devAddr := rxData.devAddr
                port := rxData.port
                payload := memcpy buffers.payload rxData.buffer size.toNat }
            let el := { el with sockEventq := rest, mcpsInd := rxData }
            ((state.store el).freeEvent ev,
              { returned := some size, buffers := filled, taken := some (el.block, ev) })

/-- An `os_eventq_put` made by `_mcps_indication`: the socket record and the
event appended to its queue. -/
structure Delivery where
  block : Nat
  ev : OsEvent
  deriving DecidableEq, Repr

def mcpsIndication (state : State) (indication : IndicationPointer) (allocated : Bool) :
    State × Option Delivery :=
  if (state.deref indication).status ≠ loRaMacEventInfoStatusOk then (state, none)
  else
    match lorawanFindEl state (lorawanFindSockByParams state
        (state.deref indication).devAddr (state.deref indication).port) with
    | none => (state, none)
    | some el =>
        if allocated then
          let ev : OsEvent := { block := state.eventBlocks, evArg := indication }
          let el := { el with sockEventq := osEventqPut el.sockEventq ev }
          ({ state.store el with eventBlocks := state.eventBlocks + 1 },
            some { block := el.block, ev })
        else (state, none)

/-- The MAC receives a frame: it overwrites its object and calls back. -/
def macReceive (state : State) (frame : McpsIndication) (allocated : Bool) :
    State × Option Delivery :=
  mcpsIndication { state with macIndication := frame } .macIndication allocated

end Lorawan.Sockets
