import Skyuv.Socket.Runtime

/-!
# The socket server interface

`socket_server_compat.c` offers the runtime under the interface that skynet
expects.  This is its part for messages and datagrams: what
`socket_server_poll` makes of an event, where `socket_server_udp_address` finds
the sender of a datagram, and how `socket_server_udp_send` hands an address back.
-/

set_option autoImplicit false

namespace Skyuv.Socket

/-! ## Polling -/

/-- `message->data`: no pointer, a block of memory, or the text of an error. -/
inductive MessageData where
  | null
  | block (bytes : List UInt8)
  | strerror (code : Int)
  deriving DecidableEq, Repr

structure SocketMessage where
  id : Int
  opaqueVal : Nat
  ud : Int
  data : MessageData
  deriving DecidableEq, Repr

/-- The cast of a `size_t` to `int`. -/
def castInt (size : Nat) : Int := (size : Int).bmod 4294967296

/-- `event.data`, which only `DATA` and `UDP` events set, and never to an empty block. -/
def Event.pointer (event : Event) : MessageData :=
  if event.data.isEmpty then .null else .block event.data

def Event.message (event : Event) : SocketMessage where
  id := event.id
  opaqueVal := event.opaqueVal
  ud := if event.type = .data ∨ event.type = .udp then castInt event.size else event.value
  data := if event.type = .error then .strerror event.value else event.pointer

/-- What `socket_server_poll` returns. -/
inductive Served where
  | err
  | message (type : EventType) (message : SocketMessage)
  deriving DecidableEq, Repr

/-- The body of the loop in `socket_server_poll`; `none` is another round. -/
def PollResult.served : PollResult → Option Served
  | .failed _ => some .err
  | .exit => some (.message .exit ⟨0, 0, 0, .null⟩)
  | .event told =>
      if told.type = .reopenLog ∨ told.type = .processShutdown then none
      else some (.message told.type told.message)

/-- `socket_server_poll` over the results that the runtime's polls will give, with
the results that it leaves to the next call. -/
def socketServerPoll : List PollResult → Option (Served × List PollResult)
  | [] => none
  | result :: rest =>
      match result.served with
      | none => socketServerPoll rest
      | some served => some (served, rest)

/-! ## Datagram addresses -/

/-- How many bytes of address follow a tag, the tag included. -/
def taggedSize (tag : UInt8) : Nat :=
  if tag = 1 then 7 else if tag = 2 then 19 else 0

/-- `socket_server_udp_address`: the size it stores and the bytes its result points
to.  Reading the tag past the end of the block is undefined. -/
def socketServerUdpAddress (message : SocketMessage) : Option (Nat × Option (List UInt8)) :=
  match message.data with
  | .block bytes =>
      if message.ud < 0 then some (0, none)
      else
        match bytes.drop message.ud.toNat with
        | [] => none
        | tag :: rest =>
            if taggedSize tag = 0 then some (0, none)
            else some (taggedSize tag, some ((tag :: rest).take (taggedSize tag)))
  | .null => some (0, none)
  | .strerror _ => none

inductive SendBufferType where
  | memory
  | object
  | rawPointer
  deriving DecidableEq, Repr

/-- `struct socket_sendbuffer`; `size` is what `object_interface.size` tells for an
object. -/
structure SendBuffer where
  id : Int
  type : SendBufferType
  null : Bool
  size : Nat

/-- Which functions of the object interface are set. -/
structure ObjectInterface where
  buffer : Bool
  size : Bool
  free : Bool

/-- `release_sendbuffer` frees the buffer. -/
def SendBuffer.releases (objects : ObjectInterface) (buffer : SendBuffer) : Bool :=
  match buffer.type with
  | .memory => true
  | .object => objects.free
  | .rawPointer => false

/-- The result of `socket_server_udp_send`, and whether the caller's buffer was
released by it. -/
structure UdpSent where
  result : Int
  released : Bool
  state : State

namespace State

/-- `skyuv_socket_runtime_udp_send` with data, and without a release function. -/
def udpSend (env : Env) (id : Int) (address : List UInt8) (size : Nat) (ownership : Ownership)
    (state : State) : Status × State :=
  let next := state.api (.udpSend id address false size ownership false) env
  ((next.sends.getLast?.map SendRecord.status).getD .ok, next)

/-- `socket_server_udp_send` for the bytes that `address` points to.  Reading past
their end is undefined. -/
def socketServerUdpSend (objects : ObjectInterface) (address : Option (List UInt8))
    (buffer : SendBuffer) (env : Env) (state : State) : Option UdpSent :=
  if buffer.null then some ⟨-1, false, state⟩
  else
    match address with
    | none => some ⟨-1, false, state⟩
    | some [] => none
    | some (tag :: rest) =>
        let size := taggedSize tag
        let encoded := (tag :: rest).take size
        if size = 0 then some ⟨-1, buffer.releases objects, state⟩
        else if encoded.length < size then none
        else if buffer.type = .object then
          if !objects.buffer || !objects.size || !objects.free then some ⟨-1, false, state⟩
          else if !env.data then some ⟨-1, true, state⟩
          else
            let (status, state) := state.udpSend env buffer.id encoded buffer.size .owned
            some ⟨if status = .ok then 0 else -1, true, state⟩
        else
          let ownership := if buffer.type = .memory then Ownership.owned else .borrowed
          let (status, state) := state.udpSend env buffer.id encoded buffer.size ownership
          some ⟨if status = .ok then 0 else -1,
            decide (status ≠ .ok) && decide (buffer.type = .memory),
            state⟩

end State

end Skyuv.Socket
