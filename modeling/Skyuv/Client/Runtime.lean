import Skyuv.Lib.TransitionSystem
import Skyuv.Socket.Types

/-!
# The client runtime

`client_runtime.c` as a transition system.  A connection is named by a key, the
number of its allocation: keys are never reused, so a stale pointer is
recognisable, and a freed connection stays in the table with `frees = 1`.  The
linked list of the runtime is the list of the keys on it.  A request is the
`client_request` of one call of the interface, numbered in call order.

Calls are serial, as the header demands: a call starts when every earlier one
has returned.  Its command runs in one piece on the I/O thread.  Everything else
is a callback, which libuv may deliver whenever `Callback.deliverable` allows it.
-/

set_option autoImplicit false

namespace Skyuv.Client

open TransitionSystem
open Socket (uvEof uvEinval uvEnomem uvEcanceled)

def uvEagain : Int := -11
def uvEbadf : Int := -9
def uvEnospc : Int := -28
def uvEpipe : Int := -32
def uvEtimedout : Int := -110

def receiveLimit : Nat := 65536

def int64Max : Int := 9223372036854775807

/-! ## Data -/

/-- The arguments of the interface functions.  A `send` is one part of at most
`UINT_MAX` bytes, which is one request. -/
inductive Call where
  | connect (port timeout : Int)
  | close (id : Int)
  | send (id : Int) (size : Nat)
  | recv (id : Int) (capacity : Nat)
  | shutdown (id : Int) (read write : Bool)
  | ready (id : Int)
  deriving DecidableEq, Repr

/-- What a call is answered by the allocator, the address parser and libuv.
`submit` stands for the mutex, the condition variable and the async handle of
`submit_request` and `skyuv_client_runtime_call`. -/
structure Env where
  address : Int := 0
  submit : Int := 0
  memory : Bool := true
  tcpInit : Int := 0
  timerInit : Int := 0
  timerStart : Int := 0
  tcpConnect : Int := 0
  readStart : Int := 0
  write : Int := 0
  shutdown : Int := 0
  shutdownRead : Int := 0
  deriving DecidableEq, Repr

/-- What happens to a connect request: the call itself, with the answers it gets
and whether the ids are used up, and the callbacks that concern it. -/
inductive Event where
  | submitted (env : Env) (exhausted : Bool)
  | expired
  | connected (status readStart : Int)
  deriving DecidableEq, Repr

/-- One request.  `answers` holds every value its caller is told, by `complete`
or as the result of the call; `events` is history that no function reads. -/
structure Request where
  call : Call
  id : Int := 0
  result : Int := 0
  bytes : List UInt8 := []
  read : Bool := false
  writeEnabled : Bool := false
  answers : List Int := []
  events : List Event := []
  deriving DecidableEq, Repr

/-- The life of a libuv handle. -/
inductive Handle where
  | unused
  | open
  | closing
  | closed
  deriving DecidableEq, Repr

/-- `uv_is_closing`. -/
def Handle.isClosing : Handle → Bool
  | .closing | .closed => true
  | .unused | .open => false

/-- What one read callback hands over: `count ≥ 0` bytes or a negative status. -/
inductive Delivery where
  | data (bytes : List UInt8)
  | failure (status : Int)
  deriving DecidableEq, Repr

namespace Delivery

def count : Delivery → Int
  | data bytes => bytes.length
  | failure status => status

def bytes : Delivery → List UInt8
  | data bytes => bytes
  | failure _ => []

end Delivery

/-- The history of the receiving side of a connection. -/
inductive Obs where
  | delivered (delivery : Delivery)
  | recv (result : Int) (bytes : List UInt8)
  | ready (read : Bool)
  | shutRead
  deriving DecidableEq, Repr

/-- `received` holds the first `received_size` bytes of the buffer.  The fields
from `tcp` on are libuv's: the two handles, whether the timer is armed, whether
the stream is reading, and the requests it still has to call back.  `creator` is
the request that made the connection; with `frees` and `log` it is history. -/
structure Connection where
  id : Int
  request : Option Nat
  received : List UInt8 := []
  readStatus : Int := 0
  paused : Bool := false
  handles : Int := 1
  timerInitialized : Bool := false
  timedOut : Bool := false
  writeClosed : Bool := false
  readClosed : Bool := false
  tcp : Handle := .open
  timer : Handle := .unused
  timerActive : Bool := false
  reading : Bool := false
  connecting : Bool := false
  writing : Option Nat := none
  shutting : Option Nat := none
  creator : Nat
  frees : Nat := 0
  log : List Obs := []
  deriving DecidableEq, Repr

/-- Undefined behaviour: `request` dereferenced although it is `NULL`, a request
whose caller has returned already, a search of the list that runs off its end,
and a callback on a freed connection. -/
inductive Fault where
  | nullRequest
  | staleRequest
  | notLinked
  | useAfterFree
  deriving DecidableEq, Repr

structure Runtime where
  connections : List Connection := []
  linked : List Nat := []
  nextId : Int := 0
  revision : Nat := 0
  requests : List Request := []
  faults : List Fault := []
  deriving DecidableEq, Repr

namespace Runtime

def faulty (runtime : Runtime) (fault : Fault) : Runtime :=
  { runtime with faults := runtime.faults ++ [fault] }

def amend (runtime : Runtime) (request : Nat) (change : Request → Request) : Runtime :=
  { runtime with requests := runtime.requests.modify request change }

/-- A request lives on the stack of its caller until it is answered. -/
def touch (runtime : Runtime) (request : Nat) : Runtime :=
  if runtime.requests[request]?.any fun record => record.answers.isEmpty then runtime
  else runtime.faulty .staleRequest

def answer (runtime : Runtime) (request : Nat) (result : Int) : Runtime :=
  runtime.amend request fun record => { record with answers := record.answers ++ [result] }

def setResult (runtime : Runtime) (request : Nat) (result : Int) : Runtime :=
  (runtime.touch request).amend request fun record => { record with result := result }

def complete (runtime : Runtime) (request : Nat) (result : Int) : Runtime :=
  (runtime.setResult request result).answer request result

def assignId (runtime : Runtime) (request : Nat) (id : Int) : Runtime :=
  { runtime.amend request fun record => { record with id := id } with nextId := id }

def notify (runtime : Runtime) : Runtime :=
  { runtime with revision := (runtime.revision + 1) % 2 ^ 64 }

end Runtime

/-! ## Callbacks -/

namespace Connection

def closeTcp (connection : Connection) : Connection :=
  if connection.tcp.isClosing then connection
  else { connection with tcp := .closing, reading := false }

def closeTimer (connection : Connection) : Connection :=
  if connection.timerInitialized && !connection.timer.isClosing then
    { connection with timer := .closing, timerActive := false }
  else connection

/-- `close_connection`. -/
def close (connection : Connection) : Connection := connection.closeTcp.closeTimer

/-- The room that `allocate_read` offers to libuv. -/
def allocateRead (connection : Connection) : Nat := receiveLimit - connection.received.length

/-- `received` up to the notification. -/
def take (connection : Connection) : Delivery → Connection
  | .data bytes =>
      if bytes.isEmpty then connection
      else if connection.received.length + bytes.length = receiveLimit then
        { connection with
          received := connection.received ++ bytes, reading := false, paused := true }
      else { connection with received := connection.received ++ bytes }
  | .failure status => { connection with readStatus := status, reading := false }

def note (connection : Connection) (obs : Obs) : Connection :=
  { connection with log := connection.log ++ [obs] }

end Connection

/-- A connection at work, with the rest of the runtime. -/
structure Frame where
  key : Nat
  connection : Connection
  runtime : Runtime

namespace Frame

def commit (frame : Frame) : Runtime :=
  { frame.runtime with connections := frame.runtime.connections.set frame.key frame.connection }

/-- `connection->request->result = result`, then `close_connection`. -/
def fail (frame : Frame) (result : Int) : Frame :=
  { frame with
    connection := frame.connection.close
    runtime := match frame.connection.request with
      | none => frame.runtime.faulty .nullRequest
      | some request => frame.runtime.setResult request result }

def connectionTimeout (frame : Frame) : Frame :=
  { frame with connection := { frame.connection with timedOut := true } }.fail uvEtimedout

def connected (frame : Frame) (status readStart : Int) : Frame :=
  if frame.connection.timedOut then frame
  else
    let connection := frame.connection.closeTimer
    if status ≠ 0 then { frame with connection := connection }.fail status
    else if readStart ≠ 0 then { frame with connection := connection }.fail readStart
    else
      let connection := { connection with reading := true }
      match connection.request with
      | none =>
          { frame with connection := connection, runtime := frame.runtime.faulty .nullRequest }
      | some request =>
          { frame with
            connection := { connection with request := none }
            runtime := (frame.runtime.assignId request connection.id).complete request 0 }

def connectionClosed (frame : Frame) : Frame :=
  let connection := { frame.connection with handles := frame.connection.handles - 1 }
  if connection.handles ≠ 0 then { frame with connection := connection }
  else if frame.key ∈ frame.runtime.linked then
    let runtime := { frame.runtime with linked := frame.runtime.linked.erase frame.key }
    { frame with
      connection := { connection with frees := connection.frees + 1 }
      runtime := match connection.request with
        | none => runtime
        | some request => runtime.complete request
            ((runtime.requests[request]?.map fun record => record.result).getD 0) }
  else { frame with connection := connection, runtime := frame.runtime.faulty .notLinked }

def received (frame : Frame) (delivery : Delivery) : Frame :=
  { frame with
    connection := (frame.connection.take delivery).note (.delivered delivery)
    runtime := if delivery.count ≠ 0 then frame.runtime.notify else frame.runtime }

def written (frame : Frame) (status : Int) : Frame :=
  { frame with
    connection := { frame.connection with writing := none }
    runtime := match frame.connection.writing with
      | none => frame.runtime.faulty .nullRequest
      | some request => frame.runtime.complete request status }

def shutdownDone (frame : Frame) (status : Int) : Frame :=
  { frame with
    connection := { frame.connection with shutting := none }
    runtime := match frame.connection.shutting with
      | none => frame.runtime.faulty .nullRequest
      | some request => frame.runtime.complete request status }

/-- The event is kept with the request that made the connection. -/
def record (frame : Frame) (event : Event) : Frame :=
  { frame with
    runtime := frame.runtime.amend frame.connection.creator fun record =>
      { record with events := record.events ++ [event] } }

end Frame

inductive Callback where
  | timeout
  | connected (status readStart : Int)
  | received (delivery : Delivery)
  | written (status : Int)
  | shutdownDone (status : Int)
  | tcpClosed
  | timerClosed
  deriving DecidableEq, Repr

namespace Callback

/-- When libuv may run the callback.  A handle that is closing has its requests
cancelled first.  A read never exceeds the room it was offered, and one that
would block is reported as a count of zero, not as an error. -/
def deliverable (connection : Connection) : Callback → Bool
  | timeout => connection.timer = .open && connection.timerActive
  | connected status _ =>
      connection.connecting && (connection.tcp = .open || status = uvEcanceled)
  | received (.data bytes) => connection.reading && bytes.length ≤ connection.allocateRead
  | received (.failure status) =>
      connection.reading && status < 0 && status ≠ uvEagain
  | written status =>
      connection.writing.isSome && (connection.tcp = .open || status = uvEcanceled)
  | shutdownDone status =>
      connection.shutting.isSome && (connection.tcp = .open || status = uvEcanceled)
  | tcpClosed =>
      connection.tcp = .closing && !connection.connecting && connection.writing.isNone &&
        connection.shutting.isNone
  | timerClosed => connection.timer = .closing

def run (frame : Frame) : Callback → Frame
  | timeout =>
      { frame.record .expired with
        connection := { frame.connection with timerActive := false } }.connectionTimeout
  | connected status readStart =>
      { frame.record (.connected status readStart) with
        connection := { frame.connection with connecting := false } }.connected status readStart
  | received delivery => frame.received delivery
  | written status => frame.written status
  | shutdownDone status => frame.shutdownDone status
  | tcpClosed =>
      { frame with connection := { frame.connection with tcp := .closed } }.connectionClosed
  | timerClosed =>
      { frame with connection := { frame.connection with timer := .closed } }.connectionClosed

end Callback

/-! ## Commands -/

namespace Frame

/-- The timer of `start_connect`; the second component is the C `result`. -/
def startTimer (frame : Frame) (env : Env) : Frame × Int :=
  if env.timerInit ≠ 0 then (frame, env.timerInit)
  else
    ({ frame with
        connection := { frame.connection with
          timerInitialized := true
          handles := frame.connection.handles + 1
          timer := .open
          timerActive := env.timerStart = 0 } },
      env.timerStart)

def tcpConnect (frame : Frame) (env : Env) : Frame :=
  if env.tcpConnect ≠ 0 then frame.fail env.tcpConnect
  else { frame with connection := { frame.connection with connecting := true } }

/-- `start_connect` from the linked connection on. -/
def launch (frame : Frame) (timeout : Int) (env : Env) : Frame :=
  if timeout = 0 then frame.fail uvEtimedout
  else if timeout ≥ 0 then
    let (frame, result) := frame.startTimer env
    if result ≠ 0 then frame.fail result else frame.tcpConnect env
  else frame.tcpConnect env

end Frame

namespace Runtime

/-- `find_connection`, and the same loop in `start_close`. -/
def findConnection (runtime : Runtime) (id : Int) : Option Frame :=
  runtime.linked.findSome? fun key =>
    match runtime.connections[key]? with
    | none => none
    | some connection => if connection.id = id then some ⟨key, connection, runtime⟩ else none

def startConnect (runtime : Runtime) (request : Nat) (timeout : Int) (env : Env) : Runtime × Int :=
  if runtime.nextId = int64Max then (runtime, uvEnospc)
  else if !env.memory then (runtime, uvEnomem)
  else if env.tcpInit ≠ 0 then (runtime, env.tcpInit)
  else
    let key := runtime.connections.length
    let connection : Connection :=
      { id := runtime.nextId + 1, request := some request, creator := request }
    let runtime := { runtime with
      connections := runtime.connections ++ [connection], linked := key :: runtime.linked }
    ((Frame.launch ⟨key, connection, runtime⟩ timeout env).commit, 0)

def startClose (runtime : Runtime) (request : Nat) (id : Int) : Runtime × Int :=
  match runtime.findConnection id with
  | none =>
      if id > 0 ∧ id ≤ runtime.nextId then (runtime.complete request 0, 0) else (runtime, uvEbadf)
  | some frame =>
      ({ frame with
          connection := { frame.connection with request := some request }.close }.commit, 0)

def startSend (runtime : Runtime) (request : Nat) (id : Int) (size : Nat) (env : Env) :
    Runtime × Int :=
  match runtime.findConnection id with
  | none => (runtime, uvEbadf)
  | some frame =>
      if frame.connection.writeClosed then (runtime, uvEpipe)
      else if size = 0 then (runtime.complete request 0, 0)
      else if env.write ≠ 0 then (runtime, env.write)
      else
        ({ frame with connection := { frame.connection with writing := some request } }.commit, 0)

end Runtime

namespace Connection

/-- The bytes that `receive_data` copies out. -/
def front (connection : Connection) (capacity : Nat) : List UInt8 :=
  connection.received.take capacity

def receiveResult (connection : Connection) : Int :=
  if connection.received ≠ [] then 0
  else if connection.readStatus ≠ 0 then connection.readStatus
  else uvEagain

/-- What `receive_data` leaves of the connection. -/
def drain (connection : Connection) (capacity : Nat) (readStart : Int) : Connection :=
  if connection.received = [] then connection
  else
    let connection := { connection with received := connection.received.drop capacity }
    if connection.paused ∧ connection.readStatus = 0 then
      if readStart ≠ 0 then { connection with readStatus := readStart, paused := false }
      else { connection with reading := true, paused := false }
    else connection

/-- The read direction in `check_ready`. -/
def readReady (connection : Connection) : Bool :=
  connection.received ≠ [] || connection.readStatus ≠ 0

end Connection

namespace Runtime

def receiveData (runtime : Runtime) (request : Nat) (id : Int) (capacity : Nat) (env : Env) :
    Runtime × Int :=
  match runtime.findConnection id with
  | none => (runtime, uvEbadf)
  | some frame =>
      let bytes := frame.connection.front capacity
      let result := frame.connection.receiveResult
      ({ frame with
          connection :=
            (frame.connection.drain capacity env.readStart).note (.recv result bytes)
          runtime := runtime.amend request fun record => { record with bytes := bytes } }.commit,
        result)

/-- The read half of `start_shutdown`. -/
def shutdownRead (frame : Frame) (env : Env) : Frame × Int :=
  if frame.connection.readClosed then (frame, 0)
  else if env.shutdownRead ≠ 0 then (frame, env.shutdownRead)
  else
    ({ frame with
        connection := { frame.connection with
          reading := false, readStatus := uvEof, readClosed := true }.note .shutRead }, 0)

/-- The write half of `start_shutdown`. -/
def shutdownWrite (frame : Frame) (request : Nat) (write : Bool) (env : Env) : Runtime × Int :=
  if write ∧ !frame.connection.writeClosed then
    ({ frame with
        connection := { frame.connection with
          writeClosed := true
          shutting := if env.shutdown = 0 then some request else none } }.commit,
      env.shutdown)
  else (frame.commit.complete request 0, 0)

def startShutdown (runtime : Runtime) (request : Nat) (id : Int) (read write : Bool) (env : Env) :
    Runtime × Int :=
  match runtime.findConnection id with
  | none => (runtime, uvEbadf)
  | some frame =>
      let (frame, result) := if read then shutdownRead frame env else (frame, 0)
      if result ≠ 0 then (runtime, result) else shutdownWrite frame request write env

def checkReady (runtime : Runtime) (request : Nat) (id : Int) : Runtime × Int :=
  match runtime.findConnection id with
  | none => (runtime, uvEbadf)
  | some frame =>
      let read := frame.connection.readReady
      ({ frame with
          connection := frame.connection.note (.ready read)
          runtime := runtime.amend request fun record =>
            { record with read := read, writeEnabled := !frame.connection.writeClosed } }.commit,
        0)

/-- The command of a request, run on the I/O thread. -/
def execute (runtime : Runtime) (request : Nat) (env : Env) : Call → Runtime × Int
  | .connect _ timeout => runtime.startConnect request timeout env
  | .close id => runtime.startClose request id
  | .send id size => runtime.startSend request id size env
  | .recv id capacity => runtime.receiveData request id capacity env
  | .shutdown id read write => runtime.startShutdown request id read write env
  | .ready id => runtime.checkReady request id

end Runtime

namespace Call

/-- The checks made before anything is handed to the I/O thread. -/
def rejection (env : Env) : Call → Int
  | connect port _ => if port < 0 ∨ port > 65535 then uvEinval else env.address
  | close id => if id ≤ 0 then uvEbadf else 0
  | recv _ capacity => if capacity = 0 then uvEinval else 0
  | shutdown _ read write => if !read && !write then uvEinval else 0
  | send _ _ | ready _ => 0

/-- The functions that go through `submit_request` and wait for `complete`. -/
def awaits : Call → Bool
  | connect _ _ | close _ | send _ _ | shutdown _ _ _ => true
  | recv _ _ | ready _ => false

/-- What is known of the call before it starts. -/
def events (call : Call) (env : Env) (runtime : Runtime) : List Event :=
  match call with
  | connect _ _ => [.submitted env (runtime.nextId = int64Max)]
  | _ => []

end Call

namespace Runtime

def newRequest (runtime : Runtime) (call : Call) (env : Env) : Runtime :=
  { runtime with
    requests := runtime.requests ++ [{ call := call, events := call.events env runtime }] }

/-- One call of the interface.  A command that reports an error ends the call at
once; otherwise `submit_request` waits for `complete`. -/
def call (runtime : Runtime) (call : Call) (env : Env) : Runtime :=
  let request := runtime.requests.length
  let opened := runtime.newRequest call env
  if call.rejection env ≠ 0 then opened.answer request (call.rejection env)
  else if env.submit ≠ 0 then opened.answer request env.submit
  else
    let (runtime, result) := opened.execute request env call
    if result = 0 && call.awaits then runtime else runtime.answer request result

/-- Every call made so far has returned. -/
def idle (runtime : Runtime) : Bool :=
  runtime.requests.all fun record => !record.answers.isEmpty

def callback (runtime : Runtime) (key : Nat) (callback : Callback) : Option Runtime :=
  match runtime.connections[key]? with
  | none => none
  | some connection =>
      if callback.deliverable connection then
        if connection.frees = 0 then some (callback.run ⟨key, connection, runtime⟩).commit
        else some (runtime.faulty .useAfterFree)
      else none

end Runtime

inductive Label where
  | call (call : Call) (env : Env)
  | callback (key : Nat) (callback : Callback)
  deriving DecidableEq, Repr

/-- A call may start.  `uv_read_start` reads nothing, so it never answers that it
would block. -/
def Runtime.accepts (runtime : Runtime) (env : Env) : Bool :=
  runtime.idle && env.readStart ≠ uvEagain

def step (runtime : Runtime) : Label → Option Runtime
  | .call call env => if runtime.accepts env then some (runtime.call call env) else none
  | .callback key callback => runtime.callback key callback

def clientSystem : System Runtime Label where
  init := {}
  step := step

end Skyuv.Client
