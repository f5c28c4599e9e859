import Mathlib.Algebra.Group.Nat.Defs
import Mathlib.Data.List.Basic

/-!
# Data model of the socket runtime

The enumerations, commands and events of `socket_internal.h`, and `Env`, the
answers that a step gets from outside the file: `calloc`, the address parsers
and the libuv calls.  Each step calls every one of them at most once, so one
record of answers per step is enough.

A socket is named in two ways.  Its `id` is the packed `int` that callers see.
Its key is the number of its reservation, which stands for the pointer to the
entry: keys are never reused, so a stale pointer is recognisable.
-/

set_option autoImplicit false

namespace Skyuv.Socket

/-- Compile-time choices.  The header rejects slot widths outside `1..16`. -/
structure Config where
  slotBits : Nat
  externalFd : Bool
  windows : Bool
  slotBits_pos : 1 ≤ slotBits
  slotBits_le : slotBits ≤ 16

def Config.slotCount (cfg : Config) : Nat := 2 ^ cfg.slotBits

def generationMax : Nat := 0x7fff

def warningSize : Nat := 1024 * 1024

def intMax : Int := 2147483647

def uintMax : Nat := 4294967295

/-- `uint64_t` counts modulo this. -/
def uint64Size : Nat := 18446744073709551616

/-! ## libuv status codes (the values of a POSIX build) -/

def uvEof : Int := -4095
def uvEinval : Int := -22
def uvEnotconn : Int := -107
def uvEcanceled : Int := -125
def uvEnomem : Int := -12
def uvEdestaddrreq : Int := -89

inductive Status where
  | ok
  | invalidArgument
  | invalidState
  | outOfMemory
  | system
  | notSupported
  deriving DecidableEq, Repr

inductive SocketState where
  | invalid
  | reserved
  | listenPending
  | listening
  | connecting
  | acceptedPaused
  | connected
  | connectedPaused
  | halfcloseRead
  | udp
  | closing
  deriving DecidableEq, Repr

inductive EventType where
  | data
  | close
  | open
  | accept
  | error
  | exit
  | udp
  | warning
  | reopenLog
  | processShutdown
  deriving DecidableEq, Repr

structure Event where
  type : EventType
  id : Int
  opaqueVal : Nat
  value : Int
  data : List UInt8
  size : Nat
  deriving DecidableEq, Repr

inductive Ownership where
  | borrowed
  | owned
  deriving DecidableEq, Repr

/-- A buffer handed to a send call.  `token` stands for its address and
`callback` says whether it came with a release function of its own. -/
structure Buffer where
  token : Nat
  size : Nat
  callback : Bool
  deriving DecidableEq, Repr

inductive SockAddr where
  | ipv4 (port : Vector UInt8 2) (ip : Vector UInt8 4)
  | ipv6 (port : Vector UInt8 2) (ip : Vector UInt8 16)
  deriving DecidableEq

structure SendPayload where
  buffer : Buffer
  ownership : Ownership
  address : List UInt8

/-- `enum skyuv_socket_command_type` together with the payload each type uses. -/
inductive CommandBody where
  | listen (host : String) (port backlog : Int)
  | connect (host : String) (port : Int)
  | start
  | pause
  | nodelay
  | send (payload : SendPayload)
  | sendLow (payload : SendPayload)
  | close
  | shutdown
  | udp (host : String) (port : Int)
  | udpConnect (host : String) (port : Int)
  | udpSend (payload : SendPayload)
  | bind (fd : Int)
  | exit

structure Command where
  id : Int
  opaqueVal : Nat
  body : CommandBody

/-! ## Answers from outside -/

inductive Signal where
  | hangup
  | interrupt
  | termination
  deriving DecidableEq, Repr

/-- The libuv calls whose result the runtime looks at. -/
inductive UvCall where
  | tcpInit
  | udpInit
  | tcpBind
  | listen
  | tcpConnect
  | tcpOpen
  | readStart
  | readStop
  | write
  | udpBind
  | udpRecvStart
  | udpSend
  | accept
  | signalInit (signal : Signal)
  | signalStart (signal : Signal)
  deriving DecidableEq, Repr

/-- A printable TCP address as `uv_ip4_name` or `uv_ip6_name` gives it. -/
inductive TcpName where
  | ipv4 (ip : String) (port : Nat)
  | ipv6 (ip : String) (port : Nat)
  deriving DecidableEq

def TcpName.text : TcpName → String
  | .ipv4 ip port => ip ++ ":" ++ toString port
  | .ipv6 ip port => "[" ++ ip ++ "]:" ++ toString port

structure Env where
  /-- `calloc` of an event node of this type succeeds. -/
  event : EventType → Bool
  /-- `calloc` of an entry or of a write request succeeds. -/
  node : Bool
  /-- `malloc` of a copied or encoded payload succeeds. -/
  data : Bool
  /-- `calloc` of a command node succeeds. -/
  command : Bool
  uv : UvCall → Int
  ip4Addr : String → Int → Except Int SockAddr
  ip6Addr : String → Int → Except Int SockAddr
  peerName : Option TcpName
  sockName : Option TcpName
  sockPort : Option Int

/-- `uv_ip4_addr`, and `uv_ip6_addr` when that fails. -/
def Env.parseAddress (env : Env) (host : String) (port : Int) : Except Int SockAddr :=
  match env.ip4Addr host port with
  | .ok address => .ok address
  | .error _ => env.ip6Addr host port

/-! ## What is recorded of a socket's life -/

/-- The function an event was pushed from.  `discard` is an `ERROR` pushed
together with `discard_uninitialized_entry`, `eof` the branch for `UV_EOF` of
`read_completed`. -/
inductive Site where
  | rejectEntry
  | finishEntry
  | discard
  | processClose
  | eof
  | other
  deriving DecidableEq, Repr

/-- One observable act on an entry, in the order of execution.  The history is
not part of the program state; nothing the program does depends on it. -/
inductive Obs where
  | event (site : Site) (event : Event)
  | closeCommand (opaqueVal : Nat)
  | queued (low : Bool) (buffer : Buffer)
  | uvWrite (low : Bool) (buffer : Buffer) (result : Int)
  | completed (buffer : Buffer) (status : Int)
  | uvAccept
  | uvClose
  | free
  deriving DecidableEq, Repr

end Skyuv.Socket
