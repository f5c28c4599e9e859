import Skyuv.Socket.SlotTable

/-!
# Socket entries and the runtime they live in

`Entry` is `struct skyuv_socket_entry` together with what libuv knows about its
handle: whether `uv_close` was called, which callbacks can still come, and the
requests it has accepted but not yet completed.  `Shared` holds the fields of
`struct skyuv_socket_runtime`.  A `Frame` is what a handler works on, one entry
and the runtime.

`queuedBytes` is a natural number: the pending buffers are live objects of one address
space, so their sizes never add up to a wrapped `size_t`.  The three counters that only
grow are kept modulo `uint64Size`, and times are those that `updatetime` was given.
-/

set_option autoImplicit false

namespace Skyuv.Socket

structure Entry where
  state : SocketState
  id : Int
  externalFd : Int
  opaqueVal : Nat
  initialized : Bool
  isUdp : Bool
  udpTarget : Option SockAddr
  high : List Buffer
  low : List Buffer
  writing : Bool
  queuedBytes : Nat
  warnSize : Nat
  pumpPending : Bool
  readBytes : Nat
  writeBytes : Nat
  readTime : Nat
  writeTime : Nat
  acceptCount : Nat
  reading : Bool
  closeRequested : Bool
  name : String
  /-- `uv_close` was called on the handle (`uv_is_closing`). -/
  uvClosing : Bool
  uvReading : Bool
  uvConnecting : Bool
  /-- The listener is armed: libuv will deliver the next connection. -/
  uvListening : Bool
  uvReceiving : Bool
  /-- Writes that `uv_write` accepted and whose callback has not run. -/
  uvWrites : List Buffer
  uvUdpSends : List Buffer
  /-- `free` was called on the entry; its contents stay readable here. -/
  freed : Bool
  log : List Obs

/-- The entry that `reserve_entry` fills in after `calloc`. -/
def Entry.fresh (id : Int) (opaqueVal : Nat) : Entry where
  state := .reserved
  id := id
  externalFd := -1
  opaqueVal := opaqueVal
  initialized := false
  isUdp := false
  udpTarget := none
  high := []
  low := []
  writing := false
  queuedBytes := 0
  warnSize := 0
  pumpPending := false
  readBytes := 0
  writeBytes := 0
  readTime := 0
  writeTime := 0
  acceptCount := 0
  reading := false
  closeRequested := false
  name := ""
  uvClosing := false
  uvReading := false
  uvConnecting := false
  uvListening := false
  uvReceiving := false
  uvWrites := []
  uvUdpSends := []
  freed := false
  log := []

structure SignalHandle where
  initialized : Bool
  closing : Bool

structure Shared where
  table : SlotTable
  events : List Event
  /-- `pump_head .. pump_tail`, linked through `pump_next`. -/
  pumpList : List Nat
  exiting : Bool
  exitReady : Bool
  currentTime : Nat
  hangup : SignalHandle
  interrupt : SignalHandle
  termination : SignalHandle
  signalsInitialized : Bool
  signalsFailed : Bool
  asyncClosing : Bool
  processShutdownRequested : Bool
  /-- The buffers whose release function or `free` has been called, in order. -/
  released : List Buffer

structure Frame where
  key : Nat
  entry : Entry
  runtime : Shared

/-! ## Runtime operations without an entry -/

namespace Shared

def updateExitReady (runtime : Shared) : Shared :=
  if runtime.exiting && runtime.table.entryCount == 0 then { runtime with exitReady := true }
  else runtime

/-- The event nodes that one `push_event` call appends. -/
def eventNodes (env : Env) (event : Event) : List Event :=
  if env.event event.type then [event] else []

/-- `push_event` for an id that names no entry. -/
def pushEvent (env : Env) (type : EventType) (id : Int) (opaqueVal : Nat) (value : Int)
    (runtime : Shared) : Shared :=
  { runtime with
    events := runtime.events ++ eventNodes env ⟨type, id, opaqueVal, value, [], 0⟩ }

def release (buffer : Buffer) (runtime : Shared) : Shared :=
  { runtime with released := runtime.released ++ [buffer] }

def releaseAll : List Buffer → Shared → Shared
  | [], runtime => runtime
  | buffer :: rest, runtime => releaseAll rest (runtime.release buffer)

/-- `skyuv_socket_command_destroy`; only a send command owns anything that is
followed here. -/
def destroyCommand (command : Command) (runtime : Shared) : Shared :=
  match command.body with
  | .send payload | .sendLow payload | .udpSend payload =>
      if payload.ownership = .owned then runtime.release payload.buffer else runtime
  | _ => runtime

end Shared

/-! ## Operations on an entry -/

namespace Frame

/-- Assigns to fields of the entry. -/
def modify (change : Entry → Entry) (frame : Frame) : Frame :=
  { frame with entry := change frame.entry }

@[simp]
theorem modify_entry (change : Entry → Entry) (frame : Frame) :
    (frame.modify change).entry = change frame.entry := rfl

@[simp]
theorem modify_runtime (change : Entry → Entry) (frame : Frame) :
    (frame.modify change).runtime = frame.runtime := rfl

/-- Appends to the history of the entry. -/
def note (observations : List Obs) (frame : Frame) : Frame :=
  frame.modify fun entry => { entry with log := entry.log ++ observations }

def eventObs (env : Env) (site : Site) (event : Event) : List Obs :=
  if env.event event.type then [.event site event] else []

def pushEvent (env : Env) (site : Site) (type : EventType) (id : Int) (opaqueVal : Nat)
    (value : Int) (frame : Frame) : Frame :=
  { frame with
    entry := { frame.entry with
      log := frame.entry.log ++ eventObs env site ⟨type, id, opaqueVal, value, [], 0⟩ }
    runtime := frame.runtime.pushEvent env type id opaqueVal value }

def setEntryState (state : SocketState) (frame : Frame) : Frame :=
  frame.modify fun entry => { entry with state := state }

def setOpaque (opaqueVal : Nat) (frame : Frame) : Frame :=
  frame.modify fun entry => { entry with opaqueVal := opaqueVal }

/-- `uv_close(entry_handle(entry), close_entry)`.  No read, receive or
connection callback follows it; pending requests complete first. -/
def uvClose (frame : Frame) : Frame :=
  frame.modify fun entry =>
    { entry with
      uvClosing := true
      uvReading := false
      uvListening := false
      uvReceiving := false
      log := entry.log ++ [.uvClose] }

/-- `uv_read_stop`; a failing call leaves the stream reading. -/
def uvReadStop (env : Env) (frame : Frame) : Frame :=
  frame.modify fun entry =>
    { entry with uvReading := if env.uv .readStop = 0 then false else entry.uvReading }

def unlinkEntry (cfg : Config) (frame : Frame) : Frame :=
  { frame with
    runtime := { frame.runtime with
      table := frame.runtime.table.unlink cfg frame.key frame.entry.id } }

def freeEntry (frame : Frame) : Frame :=
  frame.modify fun entry => { entry with freed := true, log := entry.log ++ [.free] }

def updateExitReady (frame : Frame) : Frame :=
  { frame with runtime := frame.runtime.updateExitReady }

def releaseWrite (buffer : Buffer) (frame : Frame) : Frame :=
  { frame with runtime := frame.runtime.release buffer }

def discardUninitializedEntry (cfg : Config) (frame : Frame) : Frame :=
  ((frame.unlinkEntry cfg).freeEntry).updateExitReady

/-- The close callback.  The two loops release the nodes that were never handed
to libuv. -/
def closeEntry (cfg : Config) (frame : Frame) : Frame :=
  let frame := { frame with
    entry := { frame.entry with high := [], low := [] }
    runtime := (frame.runtime.releaseAll frame.entry.high).releaseAll frame.entry.low }
  ((frame.unlinkEntry cfg).freeEntry).updateExitReady

def closeAfterWrites (frame : Frame) : Frame :=
  if !frame.entry.closeRequested || frame.entry.writing || !frame.entry.high.isEmpty ||
      !frame.entry.low.isEmpty then frame
  else (frame.setEntryState .closing).uvClose

def rejectEntry (env : Env) (error : Int) (frame : Frame) : Frame :=
  ((frame.pushEvent env .rejectEntry .error frame.entry.id frame.entry.opaqueVal
    error).setEntryState .closing).uvClose

def finishEntry (env : Env) (type : EventType) (value : Int) (frame : Frame) : Frame :=
  if frame.entry.state = .closing then frame
  else ((frame.pushEvent env .finishEntry type frame.entry.id frame.entry.opaqueVal
    value).setEntryState .closing).uvClose

def cacheTcpName (name : Option TcpName) (frame : Frame) : Frame :=
  match name with
  | none => frame
  | some name => frame.modify fun entry => { entry with name := name.text }

/-- `start_reading`; its return value is `env.uv .readStart`. -/
def startReading (env : Env) (frame : Frame) : Frame :=
  if env.uv .readStart = 0 then
    frame.modify fun entry => { entry with uvReading := true, reading := true }
  else frame

end Frame

end Skyuv.Socket
