import Mathlib.Algebra.Group.Nat.Defs
import Mathlib.Data.List.Basic

/-! # What the API shares with LoRaMac-node and the OS

Apart from `lorawan_status_t` the types below are declared outside the repository,
in `LoRaMac.h` and in the Mynewt kernel. Only the fields that the API reads or
writes are kept.

A pointer to memory from `malloc` is the number of its block. Blocks are numbered
in the order of allocation, so that a number names one allocation for good.
-/

namespace Lorawan

abbrev Byte := BitVec 8

abbrev DevAddr := BitVec 32

/-- A frame port, `uint8_t` everywhere. -/
abbrev Port := BitVec 8

/-- A key, 16 bytes. -/
abbrev Key := Vector Byte 16

/-- `lorawan_status_t`. -/
inductive LorawanStatus
  | ok
  | invalidSock
  | portAlreadyUsed
  | error
  | portBusy
  deriving DecidableEq, Repr

/-- `LoRaMacStatus_t`, by its numeric code. -/
abbrev LoRaMacStatus := BitVec 32

namespace LoRaMacStatus

def ok : LoRaMacStatus := 0#32
def parameterInvalid : LoRaMacStatus := 3#32

end LoRaMacStatus

/-- `LoRaMacEventInfoStatus_t`, by its numeric code. -/
abbrev LoRaMacEventInfoStatus := BitVec 32

def loRaMacEventInfoStatusOk : LoRaMacEventInfoStatus := 0#32

/-- `McpsIndication_t` together with the bytes its `Buffer` field points to,
since the MAC overwrites both for each frame. -/
structure McpsIndication where
  status : LoRaMacEventInfoStatus
  devAddr : DevAddr
  port : Port
  buffer : List Byte
  bufferSize : Byte
  buffer_holds : bufferSize.toNat ≤ buffer.length
  deriving DecidableEq, Repr

namespace McpsIndication

/-- The object before the first frame. -/
def zero : McpsIndication where
  status := 0#32
  devAddr := 0#32
  port := 0#8
  buffer := []
  bufferSize := 0#8
  buffer_holds := by simp

/-- The received bytes proper, `Buffer[0 .. BufferSize)`. -/
def payload (indication : McpsIndication) : List Byte :=
  indication.buffer.take indication.bufferSize.toNat

end McpsIndication

/-- `Mcps_t`. -/
inductive McpsType
  | unconfirmed
  | confirmed
  | multicast
  | proprietary
  deriving DecidableEq, Repr

/-- `McpsReq_t`. The members `Req.Unconfirmed` and `Req.Confirmed` of its union
have these fields in common, and the API uses no others. -/
structure McpsReq where
  type : McpsType
  fPort : Port
  fBuffer : Nat
  fBufferSize : Byte
  datarate : Byte
  deriving DecidableEq, Repr

/-- A pointer to the `McpsIndication_t` object that the MAC passes to its
callback; the MAC owns one such object. -/
inductive IndicationPointer
  | macIndication
  deriving DecidableEq, Repr

/-- `struct os_event`, at the block that `malloc` returned for it. -/
structure OsEvent where
  block : Nat
  evArg : IndicationPointer
  deriving DecidableEq, Repr

abbrev OsTime := BitVec 32

/-- `OS_WAIT_FOREVER`, which is -1. -/
def osWaitForever : OsTime := -1#32

/-- What `os_eventq_poll` on one queue comes to when the call is taken up. -/
inductive PollResult
  | event (ev : OsEvent) (rest : List OsEvent)
  | timeout
  /-- Nothing is queued and no deadline was given: the caller stays asleep. -/
  | waiting
  deriving DecidableEq, Repr

/-- Queues are first in, first out. -/
def osEventqPoll (evq : List OsEvent) (timo : OsTime) : PollResult :=
  match evq with
  | ev :: rest => .event ev rest
  | [] => if timo = osWaitForever then .waiting else .timeout

def osEventqPut (evq : List OsEvent) (ev : OsEvent) : List OsEvent :=
  evq ++ [ev]

/-- `memcpy(dst, src, n)` into a buffer that begins with `dst`. -/
def memcpy (dst src : List Byte) (n : Nat) : List Byte :=
  src.take n ++ dst.drop n

end Lorawan
