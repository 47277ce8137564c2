import Lorawan.Configuration.History
import Lorawan.Library.Components
import Lorawan.Sockets.System

/-! # The application of `test_lorawan_api`

`main` configures the device and creates two threads. One binds every port and prints what
it receives; the other sends the same bytes again and again. The threads run in any order,
with frames of the MAC in between; a step is a thread's next call of the API, together with
what the thread does until the call after it.

Waiting is not modelled: a thread that sleeps in `os_time_delay` takes its next step at any
later time. -/

namespace Lorawan.Application

open Lorawan.Configuration

/-- What the board and the linker fix. -/
structure Setup where
  osTicksPerSec : OsTime
  /-- The words of the CPU's identifier, from `hal_bsp_hw_id`. -/
  hwId : Vector (BitVec 32) 3
  /-- What the stack of the receiving thread holds where `rx_payload` is. -/
  rxPayload : Vector Byte 255
  /-- Where the sending thread has its `payload`. -/
  txPayload : Nat

/-! ## The threads -/

/-- What is left of `main`. -/
inductive MainPoint
  | configure
  | startTx
  | startRx
  | idle
  deriving DecidableEq, Repr

inductive RxThread
  | absent
  | start
  /-- At the loop over the ports, about to bind `i`. -/
  | bind (sock : Sockets.LorawanSock) (i : BitVec 16)
  | receive (sock : Sockets.LorawanSock) (buffers : Sockets.RecvBuffers)
  deriving DecidableEq, Repr

inductive TxThread
  | absent
  | start
  | send (sock : Sockets.LorawanSock)
  deriving DecidableEq, Repr

structure State where
  mib : Mib Unit
  sockets : Sockets.State
  main : MainPoint
  rx : RxThread
  tx : TxThread
  /-- An assertion failed: the OS has stopped. -/
  stopped : Bool

def State.initial (mib : Mib Unit) : State where
  mib := mib
  sockets := .initial
  main := .configure
  rx := .absent
  tx := .absent
  stopped := false

inductive Output
  | quiet
  | assertFailed
  /-- The receiving thread calls `lorawan_bind` with this address, and gets OK. -/
  | bound (devAddr : DevAddr)
  /-- It prints a packet. -/
  | received (size : Byte) (devAddr : DevAddr) (port : Port) (payload : List Byte)
  /-- The sending thread prints the status and the address. -/
  | sent (status : LorawanStatus) (devAddr : DevAddr)
  | indicated (delivery : Option Sockets.Delivery)
  deriving DecidableEq, Repr

def State.assert (state : State) (condition : Prop) [Decidable condition]
    (continued : State × Output) : State × Output :=
  if condition then continued else ({ state with stopped := true }, .assertFailed)

/-- `answers` are those of the MAC to the six requests, and `created` says whether
`os_task_init` succeeds. -/
def mainThread (setup : Setup) (state : State) (answers : MibType → LoRaMacStatus)
    (created : Bool) : State × Output :=
  match state.main with
  | .configure =>
      let key : Key := Vector.replicate 16 0#8
      let devAddr := setup.hwId[2]
      let (mib, status) :=
        lorawanConfigureABP (.ofAnswers Mib.store fun mibReq => answers mibReq.1) state.mib
          devAddr key key 1#8 2#8
      let state := { state with mib }
      state.assert (status = .ok) ({ state with main := .startTx }, .quiet)
  | .startTx =>
      state.assert (created = true) ({ state with main := .startRx, tx := .start }, .quiet)
  | .startRx =>
      state.assert (created = true) ({ state with main := .idle, rx := .start }, .quiet)
  | .idle => (state, .quiet)

def rxThread (setup : Setup) (state : State) (allocated : Bool) (status : LoRaMacStatus) :
    State × Output :=
  match state.rx with
  | .absent => (state, .quiet)
  | .start =>
      let (sockets, sockRx) := Sockets.lorawanSocket state.sockets allocated
      let state := { state with sockets }
      state.assert (sockRx ≠ 0#32) ({ state with rx := .bind sockRx 1#16 }, .quiet)
  | .bind sockRx i =>
      let devAddr := lorawanGetDevAddrUnicast state.mib status
      let (sockets, lorawanStatus) :=
        Sockets.lorawanBind state.sockets sockRx devAddr (i.setWidth 8)
      let state := { state with sockets }
      let buffers : Sockets.RecvBuffers :=
        { devAddr := 0#32, port := 0#8, payload := setup.rxPayload.toList }
      let i := i + 1#16
      state.assert (lorawanStatus = .ok)
        ({ state with rx := if i ≤ 255#16 then .bind sockRx i else .receive sockRx buffers },
          .bound devAddr)
  | .receive sockRx buffers =>
      let (sockets, result) :=
        Sockets.lorawanRecv setup.osTicksPerSec state.sockets sockRx buffers 255#8 0#32
      match result.returned with
      | none => (state, .quiet)
      | some size =>
          let state := { state with sockets, rx := .receive sockRx result.buffers }
          if size ≠ 0#8 then
            (state, .received size result.buffers.devAddr result.buffers.port
              (result.buffers.payload.take size.toNat))
          else (state, .quiet)

/-- `answer` is what `LoRaMacMcpsRequest` returns. -/
def txThread (setup : Setup) (state : State) (allocated : Bool) (answer status : LoRaMacStatus) :
    State × Output :=
  match state.tx with
  | .absent => (state, .quiet)
  | .start =>
      let (sockets, sockTx) := Sockets.lorawanSocket state.sockets allocated
      let state := { state with sockets }
      state.assert (sockTx ≠ 0#32) ({ state with tx := .send sockTx }, .quiet)
  | .send sockTx =>
      let (sockets, result) :=
        Sockets.lorawanSend state.sockets sockTx 25#8 setup.txPayload 6#8 answer
      ({ state with sockets }, .sent result.status (lorawanGetDevAddrUnicast state.mib status))

/-! ## The system -/

inductive Step
  | main (answers : MibType → LoRaMacStatus) (created : Bool)
  | rx (allocated : Bool) (status : LoRaMacStatus)
  | tx (allocated : Bool) (answer status : LoRaMacStatus)
  /-- A frame comes. -/
  | frame (frame : McpsIndication) (allocated : Bool)
  /-- The MAC sets one of its parameters by itself. -/
  | mac (mibReq : MibRequestConfirm)

def application (setup : Setup) : Machine State Step Output where
  step state step :=
    if state.stopped then (state, .quiet)
    else
      match step with
      | .main answers created => mainThread setup state answers created
      | .rx allocated status => rxThread setup state allocated status
      | .tx allocated answer status => txThread setup state allocated answer status
      | .frame frame allocated =>
          let (sockets, delivery) := Sockets.macReceive state.sockets frame allocated
          ({ state with sockets }, .indicated delivery)
      | .mac mibReq => ({ state with mib := state.mib.store mibReq }, .quiet)

end Lorawan.Application
