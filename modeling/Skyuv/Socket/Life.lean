import Mathlib.Tactic.Simps.Basic
import Skyuv.Socket.Runtime

/-!
# The life of one socket

`Life` is the part of an entry that decides what can happen to it next,
together with its history.  `Move` says once, act by act, what an act can do to
it; the names, counters, times and the opaque of the entry are left open.  Every
invariant of a single socket is proved over `Move` and never over the handlers.
-/

set_option autoImplicit false

namespace Skyuv.Socket

structure Life where
  state : SocketState
  initialized : Bool
  isUdp : Bool
  high : List Buffer
  low : List Buffer
  writing : Bool
  queuedBytes : Nat
  pumpPending : Bool
  closeRequested : Bool
  reading : Bool
  uvClosing : Bool
  uvReading : Bool
  uvConnecting : Bool
  uvListening : Bool
  uvReceiving : Bool
  uvWrites : List Buffer
  uvUdpSends : List Buffer
  freed : Bool
  log : List Obs

@[simps]
def Entry.life (entry : Entry) : Life where
  state := entry.state
  initialized := entry.initialized
  isUdp := entry.isUdp
  high := entry.high
  low := entry.low
  writing := entry.writing
  queuedBytes := entry.queuedBytes
  pumpPending := entry.pumpPending
  closeRequested := entry.closeRequested
  reading := entry.reading
  uvClosing := entry.uvClosing
  uvReading := entry.uvReading
  uvConnecting := entry.uvConnecting
  uvListening := entry.uvListening
  uvReceiving := entry.uvReceiving
  uvWrites := entry.uvWrites
  uvUdpSends := entry.uvUdpSends
  freed := entry.freed
  log := entry.log

def CommandBody.opens : CommandBody → Bool
  | .listen _ _ _ | .connect _ _ | .bind _ | .udp _ _ => true
  | _ => false

def CommandBody.closes : CommandBody → Bool
  | .close | .shutdown => true
  | _ => false

def CommandBody.payload : CommandBody → Option SendPayload
  | .send payload | .sendLow payload | .udpSend payload => some payload
  | _ => none

namespace Life

open Skyuv.Socket.Frame (eventObs)

def emit (observations : List Obs) (life : Life) : Life :=
  { life with log := life.log ++ observations }

@[simp]
theorem emit_nil (life : Life) : life.emit [] = life := by
  simp [emit]

/-- `set_entry_state(entry, CLOSING)` and `uv_close`. -/
def shut (life : Life) : Life :=
  { life with
    state := .closing
    uvClosing := true
    uvReading := false
    uvListening := false
    uvReceiving := false
    log := life.log ++ [.uvClose] }

def drop (life : Life) : Life := { life with freed := true, log := life.log ++ [.free] }

/-- What a failed write tells the owner: nothing once the peer has closed. -/
def failureObs (env : Env) (event : Event) (life : Life) : List Obs :=
  if life.state = .halfcloseRead then [] else eventObs env .finishEntry event

theorem failureObs_of_half {env : Env} {event : Event} {life : Life}
    (half : life.state = .halfcloseRead) : life.failureObs env event = [] :=
  if_pos half

theorem failureObs_of_not_half {env : Env} {event : Event} {life : Life}
    (notHalf : life.state ≠ .halfcloseRead) :
    life.failureObs env event = eventObs env .finishEntry event :=
  if_neg notHalf

/-- What a close command tells the owner: nothing new once the peer has closed. -/
def closeObs (env : Env) (event : Event) (life : Life) : List Obs :=
  if life.state = .halfcloseRead then [] else eventObs env .processClose event

/-- Nothing but events for the owner. -/
def OnlyEvents (observations : List Obs) : Prop :=
  ∀ obs ∈ observations, ∃ site event, obs = .event site event

theorem OnlyEvents.count {observations : List Obs} (events : OnlyEvents observations) {obs : Obs}
    (other : ∀ site event, obs ≠ .event site event) : observations.count obs = 0 := by
  rw [List.count_eq_zero]
  intro member
  obtain ⟨site, event, isEvent⟩ := events obs member
  exact other site event isEvent

theorem onlyEvents_eventObs (env : Env) (site : Site) (event : Event) :
    OnlyEvents (eventObs env site event) := by
  intro obs member
  unfold eventObs at member
  split at member
  · exact ⟨site, event, List.mem_singleton.mp member⟩
  · cases member

theorem onlyEvents_failureObs (env : Env) (event : Event) (life : Life) :
    OnlyEvents (life.failureObs env event) := by
  unfold failureObs
  split
  · exact fun _ member => nomatch member
  · exact onlyEvents_eventObs env .finishEntry event

theorem onlyEvents_closeObs (env : Env) (event : Event) (life : Life) :
    OnlyEvents (life.closeObs env event) := by
  unfold closeObs
  split
  · exact fun _ member => nomatch member
  · exact onlyEvents_eventObs env .processClose event

theorem onlyEvents_plain {observations : List Obs} {type : EventType}
    (plain : ∀ obs ∈ observations, ∃ event, obs = .event .other event ∧ event.type = type) :
    OnlyEvents observations := by
  intro obs member
  obtain ⟨event, isEvent, -⟩ := plain obs member
  exact ⟨.other, event, isEvent⟩

/-- `pump_write`, called while the entry is not `CLOSING`. -/
inductive Pumped (env : Env) (life : Life) : Life → Prop
  | busy (writing : life.writing = true) : Pumped env life life
  | empty (high : life.high = []) (low : life.low = []) : Pumped env life life
  | high (buffer : Buffer) (rest : List Buffer) (idle : life.writing = false)
      (high : life.high = buffer :: rest) (accepted : env.uv .write = 0) :
      Pumped env life
        ({ life with
          high := rest, uvWrites := life.uvWrites ++ [buffer], writing := true }.emit
          [.uvWrite false buffer (env.uv .write)])
  | low (buffer : Buffer) (rest : List Buffer) (idle : life.writing = false)
      (high : life.high = []) (low : life.low = buffer :: rest)
      (accepted : env.uv .write = 0) :
      Pumped env life
        ({ life with
          low := rest, uvWrites := life.uvWrites ++ [buffer], writing := true }.emit
          [.uvWrite true buffer (env.uv .write)])
  | highFailed (buffer : Buffer) (rest : List Buffer) (event : Event)
      (idle : life.writing = false) (high : life.high = buffer :: rest)
      (refused : env.uv .write ≠ 0) (type : event.type = .error) :
      Pumped env life
        ((({ life with high := rest, queuedBytes := life.queuedBytes - buffer.size }.emit
          [.uvWrite false buffer (env.uv .write)]).emit (life.failureObs env event)).shut)
  | lowFailed (buffer : Buffer) (rest : List Buffer) (event : Event)
      (idle : life.writing = false) (high : life.high = []) (low : life.low = buffer :: rest)
      (refused : env.uv .write ≠ 0) (type : event.type = .error) :
      Pumped env life
        ((({ life with low := rest, queuedBytes := life.queuedBytes - buffer.size }.emit
          [.uvWrite true buffer (env.uv .write)]).emit (life.failureObs env event)).shut)

/-- The end of `write_completed`, once the request was accounted for. -/
inductive Resumed (env : Env) (life : Life) : Life → Prop
  | drained (asked : life.closeRequested = true) (high : life.high = []) (low : life.low = []) :
      Resumed env life life.shut
  | waiting (asked : life.closeRequested = true) (more : life.high ≠ [] ∨ life.low ≠ []) :
      Resumed env life life
  | closing (asked : life.closeRequested = false) (state : life.state = .closing) :
      Resumed env life life
  | pumped {after : Life} (asked : life.closeRequested = false) (state : life.state ≠ .closing)
      (pumped : Pumped env life after) : Resumed env life after

section Writing

variable {env : Env} {life after : Life}

theorem Pumped.initialized (pumped : Pumped env life after) :
    after.initialized = life.initialized := by
  cases pumped <;> rfl

theorem Resumed.initialized (resumed : Resumed env life after) :
    after.initialized = life.initialized := by
  cases resumed with
  | pumped _ _ pumped => exact pumped.initialized
  | _ => rfl

theorem Pumped.state (pumped : Pumped env life after) :
    after.state = life.state ∨ after.state = .closing := by
  cases pumped with
  | busy | empty | high | low => exact .inl rfl
  | highFailed | lowFailed => exact .inr rfl

theorem Resumed.state (resumed : Resumed env life after) :
    after.state = life.state ∨ after.state = .closing := by
  cases resumed with
  | drained => exact .inr rfl
  | waiting | closing => exact .inl rfl
  | pumped _ _ pumped => exact pumped.state

end Writing

/-- The request in flight leaves libuv. -/
def complete (buffer : Buffer) (rest : List Buffer) (status : Int) (life : Life) : Life :=
  { life with
    uvWrites := rest, writing := false, queuedBytes := life.queuedBytes - buffer.size }.emit
    [.completed buffer status]

inductive Move : Act → Life → Life → Prop
  -- commands that leave the life as it is, or only report an error
  | ignored (command : Command) (env : Env) {life : Life}
      (already : command.body.closes = true → life.state = .closing) :
      Move (.command command env) life life
  | refused (command : Command) (env : Env) {life : Life} (event : Event)
      (other : command.body.closes = false) (type : event.type = .error) :
      Move (.command command env) life (life.emit (eventObs env .other event))
  -- the first command of an entry
  | aborted (command : Command) (env : Env) {life : Life} (event : Event) (state : SocketState)
      (isUdp : Bool) (opens : command.body.opens = true) (bare : life.initialized = false)
      (early : state = .reserved ∨ state = .listenPending) (type : event.type = .error) :
      Move (.command command env) life
        (({ life with state := state, isUdp := isUdp }.emit (eventObs env .discard event)).drop)
  | rejected (command : Command) (env : Env) {life : Life} (event : Event) (isUdp : Bool)
      (opens : command.body.opens = true) (bare : life.initialized = false)
      (type : event.type = .error) :
      Move (.command command env) life
        (({ life with initialized := true, isUdp := isUdp }.emit
          (eventObs env .rejectEntry event)).shut)
  | listening (command : Command) (env : Env) {life : Life} (event : Event)
      (opens : command.body.opens = true) (bare : life.initialized = false)
      (type : event.type = .open) :
      Move (.command command env) life
        ({ life with initialized := true, state := .listening, uvListening := true }.emit
          (eventObs env .other event))
  | connecting (command : Command) (env : Env) {life : Life}
      (opens : command.body.opens = true) (bare : life.initialized = false) :
      Move (.command command env) life
        { life with initialized := true, state := .connecting, uvConnecting := true }
  | bound (command : Command) (env : Env) {life : Life} (event : Event)
      (opens : command.body.opens = true) (bare : life.initialized = false)
      (type : event.type = .open) :
      Move (.command command env) life
        ({ life with
          initialized := true, state := .connected, uvReading := true, reading := true }.emit
          (eventObs env .other event))
  | udpOpened (command : Command) (env : Env) {life : Life}
      (opens : command.body.opens = true) (bare : life.initialized = false) :
      Move (.command command env) life
        { life with initialized := true, isUdp := true, state := .udp, uvReceiving := true }
  -- `start` and `pause`
  | reported (command : Command) (env : Env) {life : Life} (event : Event)
      (start : command.body = .start)
      (state : life.state = .listening ∨ life.state = .connected) (type : event.type = .open) :
      Move (.command command env) life (life.emit (eventObs env .other event))
  | started (command : Command) (env : Env) {life : Life} (event : Event)
      (start : command.body = .start)
      (state : life.state = .acceptedPaused ∨ life.state = .connectedPaused)
      (reads : env.uv .readStart = 0) (type : event.type = .open) :
      Move (.command command env) life
        ({ life with state := .connected, uvReading := true, reading := true }.emit
          (eventObs env .other event))
  | startFailed (command : Command) (env : Env) {life : Life} (event : Event)
      (start : command.body = .start)
      (state : life.state = .acceptedPaused ∨ life.state = .connectedPaused)
      (fails : env.uv .readStart ≠ 0) (type : event.type = .error) :
      Move (.command command env) life ((life.emit (eventObs env .rejectEntry event)).shut)
  | paused (command : Command) (env : Env) {life : Life} (pause : command.body = .pause)
      (state : life.state = .connected) (stops : env.uv .readStop = 0) :
      Move (.command command env) life
        { life with state := .connectedPaused, uvReading := false, reading := false }
  -- sends
  | queuedHigh (command : Command) (env : Env) {life : Life} (payload : SendPayload)
      (warnings : List Obs) (send : command.body = .send payload)
      (state : life.state = .connected ∨ life.state = .connectedPaused ∨
        life.state = .halfcloseRead)
      (accepts : life.closeRequested = false)
      (plain : ∀ obs ∈ warnings, ∃ event, obs = .event .other event ∧ event.type = .warning) :
      Move (.command command env) life
        (({ life with
          high := life.high ++ [payload.buffer]
          queuedBytes := life.queuedBytes + payload.buffer.size
          pumpPending := life.pumpPending || !life.writing }.emit
          [.queued false payload.buffer]).emit warnings)
  | queuedLow (command : Command) (env : Env) {life : Life} (payload : SendPayload)
      (warnings : List Obs) (send : command.body = .sendLow payload)
      (state : life.state = .connected ∨ life.state = .connectedPaused ∨
        life.state = .halfcloseRead)
      (accepts : life.closeRequested = false)
      (plain : ∀ obs ∈ warnings, ∃ event, obs = .event .other event ∧ event.type = .warning) :
      Move (.command command env) life
        (({ life with
          low := life.low ++ [payload.buffer]
          queuedBytes := life.queuedBytes + payload.buffer.size
          pumpPending := life.pumpPending || !life.writing }.emit
          [.queued true payload.buffer]).emit warnings)
  | datagram (command : Command) (env : Env) {life : Life} (payload : SendPayload)
      (send : command.body.payload = some payload) (state : life.state = .udp) :
      Move (.command command env) life
        { life with uvUdpSends := life.uvUdpSends ++ [payload.buffer] }
  -- `close` and `shutdown`
  | closedBare (command : Command) (env : Env) {life : Life} (event : Event)
      (closes : command.body.closes = true) (bare : life.initialized = false)
      (type : event.type = .close) (carries : event.opaqueVal = command.opaqueVal) :
      Move (.command command env) life
        (((life.emit [.closeCommand command.opaqueVal]).emit (life.closeObs env event)).drop)
  | closedNow (command : Command) (env : Env) {life : Life} (event : Event)
      (closes : command.body.closes = true) (opened : life.initialized = true)
      (state : life.state ≠ .closing)
      (now : command.body = .shutdown ∨ life.isUdp = true ∨ life.queuedBytes = 0)
      (type : event.type = .close) (carries : event.opaqueVal = command.opaqueVal) :
      Move (.command command env) life
        (((life.emit [.closeCommand command.opaqueVal]).emit (life.closeObs env event)).shut)
  | draining (command : Command) (env : Env) {life : Life} (event : Event)
      (close : command.body = .close) (opened : life.initialized = true)
      (state : life.state ≠ .closing) (stream : life.isUdp = false)
      (pending : 0 < life.queuedBytes)
      (type : event.type = .close) (carries : event.opaqueVal = command.opaqueVal) :
      Move (.command command env) life
        (({ life with
          closeRequested := true, reading := false
          uvReading := if env.uv .readStop = 0 then false else life.uvReading }.emit
          [.closeCommand command.opaqueVal]).emit (life.closeObs env event))
  -- the pump loop and the scans over the slots
  | pumpSkipped (env : Env) {life : Life} (state : life.state = .closing) :
      Move (.pump env) life { life with pumpPending := false }
  | pumped (env : Env) {life after : Life} (state : life.state ≠ .closing)
      (pumped : Pumped env { life with pumpPending := false } after) :
      Move (.pump env) life after
  | scanned {act : Act} {life : Life} (closing : life.uvClosing = true)
      (scan : act = .exitScan ∨ ∃ slot, act = .releaseScan slot) : Move act life life
  | scanDropped {act : Act} {life : Life} (bare : life.initialized = false)
      (scan : act = .exitScan ∨ ∃ slot, act = .releaseScan slot) : Move act life life.drop
  | scanShut {act : Act} {life : Life} (opened : life.initialized = true)
      (closing : life.uvClosing = false)
      (scan : act = .exitScan ∨ ∃ slot, act = .releaseScan slot) : Move act life life.shut
  -- reading
  | readNothing (nread : Int) (data : List UInt8) (env : Env) {life : Life} (none : nread = 0) :
      Move (.readCompleted nread data env) life life
  | readData (nread : Int) (data : List UInt8) (env : Env) {life : Life} (event : Event)
      (reading : life.uvReading = true) (some : 0 < nread) (type : event.type = .data) :
      Move (.readCompleted nread data env) life (life.emit (eventObs env .other event))
  | readEof (nread : Int) (data : List UInt8) (env : Env) {life : Life} (event : Event)
      (reading : life.uvReading = true) (state : life.state = .connected) (eof : nread = uvEof)
      (type : event.type = .close) :
      Move (.readCompleted nread data env) life
        ({ life with uvReading := false, reading := false, state := .halfcloseRead }.emit
          (eventObs env .eof event))
  | readFailed (nread : Int) (data : List UInt8) (env : Env) {life : Life} (event : Event)
      (reading : life.uvReading = true) (state : life.state = .connected) (fails : nread < 0)
      (notEof : nread ≠ uvEof) (type : event.type = .error) :
      Move (.readCompleted nread data env) life
        ((life.emit (eventObs env .finishEntry event)).shut)
  | udpNothing (nread : Int) (data : List UInt8) (address : Option SockAddr) (env : Env)
      {life : Life} : Move (.udpReceived nread data address env) life life
  | udpData (nread : Int) (data : List UInt8) (address : Option SockAddr) (env : Env)
      {life : Life} (event : Event) (type : event.type = .udp) :
      Move (.udpReceived nread data address env) life (life.emit [.event .other event])
  | udpFailed (nread : Int) (data : List UInt8) (address : Option SockAddr) (env : Env)
      {life : Life} (event : Event) (state : life.state = .udp) (type : event.type = .error) :
      Move (.udpReceived nread data address env) life
        ((life.emit (eventObs env .finishEntry event)).shut)
  -- completions
  | written (status : Int) (env : Env) {life after : Life} (buffer : Buffer)
      (rest : List Buffer) (warnings : List Obs) (head : life.uvWrites = buffer :: rest)
      (fine : status = 0 ∨ life.state = .closing)
      (plain : ∀ obs ∈ warnings, ∃ event, obs = .event .other event ∧ event.type = .warning)
      (resumed : Resumed env ((life.complete buffer rest status).emit warnings) after) :
      Move (.writeCompleted status env) life after
  | writeFailed (status : Int) (env : Env) {life after : Life} (buffer : Buffer)
      (rest : List Buffer) (event : Event) (head : life.uvWrites = buffer :: rest)
      (fails : status ≠ 0) (state : life.state ≠ .closing) (type : event.type = .error)
      (resumed : Resumed env
        (((life.complete buffer rest status).emit (life.failureObs env event)).shut) after) :
      Move (.writeCompleted status env) life after
  | datagramSent (index : Nat) (status : Int) (env : Env) {life : Life} (errors : List Obs)
      (plain : ∀ obs ∈ errors, ∃ event, obs = .event .other event ∧ event.type = .error) :
      Move (.udpWriteCompleted index status env) life
        ({ life with uvUdpSends := life.uvUdpSends.eraseIdx index }.emit errors)
  | connectLate (status : Int) (env : Env) {life : Life} (state : life.state = .closing) :
      Move (.connectCompleted status env) life { life with uvConnecting := false }
  | connectFailed (status : Int) (env : Env) {life : Life} (event : Event)
      (state : life.state = .connecting) (type : event.type = .error) :
      Move (.connectCompleted status env) life
        (({ life with uvConnecting := false }.emit (eventObs env .rejectEntry event)).shut)
  | connected (status : Int) (env : Env) {life : Life} (event : Event)
      (state : life.state = .connecting) (type : event.type = .open) :
      Move (.connectCompleted status env) life
        ({ life with
          uvConnecting := false, uvReading := true, reading := true, state := .connected }.emit
          (eventObs env .other event))
  -- accepting, seen from the listener and from the accepted entry
  | acceptError (status : Int) (env : Env) {life : Life} (event : Event)
      (type : event.type = .error) :
      Move (.acceptError status env) life (life.emit (eventObs env .other event))
  | acceptStalled {life : Life} : Move .acceptStalled life { life with uvListening := false }
  | acceptTaken {life : Life} : Move .acceptTaken life (life.emit [.uvAccept])
  | acceptDone (accepted : Int) (env : Env) {life : Life} (event : Event)
      (listening : life.uvListening = true) (type : event.type = .accept) :
      Move (.acceptDone accepted env) life
        ((life.emit [.uvAccept]).emit (eventObs env .other event))
  | acceptDropped (env : Env) {life : Life} (bare : life.initialized = false) :
      Move (.acceptInto env) life life.drop
  | acceptRejected (env : Env) {life : Life} (event : Event) (bare : life.initialized = false)
      (type : event.type = .error) :
      Move (.acceptInto env) life
        (({ life with initialized := true }.emit (eventObs env .rejectEntry event)).shut)
  | accepted (env : Env) {life : Life} (bare : life.initialized = false) :
      Move (.acceptInto env) life { life with initialized := true, state := .acceptedPaused }
  -- the end
  | closed {life : Life} (closing : life.uvClosing = true) (alive : life.freed = false)
      (writes : life.uvWrites = []) (udpSends : life.uvUdpSends = [])
      (connecting : life.uvConnecting = false) :
      Move .closeEntry life { life with high := [], low := [] }.drop
  | tagged (fd : Int) {life : Life} : Move (.setExternalFd fd) life life
  | discarded {life : Life} (bare : life.initialized = false) : Move .freeEntry life life.drop

/-- A handle stays open for the life of its entry. -/
theorem Move.keeps_open {act : Act} {life after : Life} (move : Move act life after)
    (opened : life.initialized = true) : after.initialized = true := by
  cases move with
  | rejected | listening | connecting | bound | udpOpened | acceptRejected | accepted => rfl
  | pumped env state pumped => exact pumped.initialized.trans opened
  | written status env buffer rest warnings head fine plain resumed =>
      exact resumed.initialized.trans opened
  | writeFailed status env buffer rest event head fails state type resumed =>
      exact resumed.initialized.trans opened
  | _ => exact opened

end Life

/-! ## Sound lives -/

/-- What is known of an entry when an act reaches it. -/
def Act.Enabled : Act → Life → Prop
  | .command cmd _, life => life.freed = false ∧
      ∀ payload, cmd.body = .send payload ∨ cmd.body = .sendLow payload →
        0 < payload.buffer.size
  | .pump _, life => life.pumpPending = true
  | .exitScan, life | .releaseScan _, life | .setExternalFd _, life => life.freed = false
  | .readCompleted _ _ _, life => life.uvReading = true
  | .udpReceived _ _ _ _, life => life.uvReceiving = true
  | .writeCompleted _ _, life => life.uvWrites ≠ []
  | .udpWriteCompleted index _ _, life => index < life.uvUdpSends.length
  | .connectCompleted _ _, life => life.uvConnecting = true
  | .acceptError _ _, life | .acceptStalled, life | .acceptTaken, life
  | .acceptDone _ _, life => life.uvListening = true
  | .acceptInto _, life | .freeEntry, life => life.freed = false ∧ life.initialized = false
  | .closeEntry, life => life.uvClosing = true ∧ life.freed = false ∧ life.uvWrites = [] ∧
      life.uvUdpSends = [] ∧ life.uvConnecting = false ∧ life.pumpPending = false

namespace Life

def totalSize (buffers : List Buffer) : Nat := (buffers.map Buffer.size).sum

@[simp, grind =]
theorem totalSize_nil : totalSize [] = 0 := rfl

@[simp, grind =]
theorem totalSize_cons (buffer : Buffer) (rest : List Buffer) :
    totalSize (buffer :: rest) = buffer.size + totalSize rest := by
  simp [totalSize]

@[simp, grind =]
theorem totalSize_append (first second : List Buffer) :
    totalSize (first ++ second) = totalSize first + totalSize second := by
  simp [totalSize]

/-- libuv and the runtime hold nothing of the entry. -/
def Quiet (life : Life) : Prop :=
  life.uvReading = false ∧ life.uvConnecting = false ∧ life.uvListening = false ∧
    life.uvReceiving = false ∧ life.uvWrites = [] ∧ life.uvUdpSends = [] ∧ life.high = [] ∧
    life.low = [] ∧ life.pumpPending = false

/-- The entry has been used as a stream. -/
def Streamed (life : Life) : Prop :=
  life.high ≠ [] ∨ life.low ≠ [] ∨ life.uvWrites ≠ [] ∨ life.closeRequested = true ∨
    life.pumpPending = true

/-- What holds of an entry at every moment of a loop step that is between two
changes of its queues. -/
structure Steady (life : Life) : Prop where
  dead : life.freed = true → life.Quiet ∧ (life.initialized = true → life.uvClosing = true)
  bare : life.initialized = false → life.Quiet ∧ life.uvClosing = false ∧
    life.closeRequested = false ∧ (life.freed = false → life.state = .reserved ∧ life.isUdp = false)
  opened : life.initialized = true →
    life.state ≠ .invalid ∧ life.state ≠ .reserved ∧ life.state ≠ .listenPending
  closing : life.uvClosing = true ↔ life.state = .closing
  reading : life.uvReading = true → life.state = .connected
  listening : life.uvListening = true → life.state = .listening
  receiving : life.uvReceiving = true → life.state = .udp
  connecting : life.uvConnecting = true → life.state = .connecting ∨ life.state = .closing
  writing : life.writing = true ↔ life.uvWrites ≠ []
  single : life.uvWrites.length ≤ 1
  unpumped : life.pumpPending = true → life.writing = false
  bytes : life.freed = false →
    life.queuedBytes = totalSize life.high + totalSize life.low + totalSize life.uvWrites
  positive : ∀ buffer, buffer ∈ life.high ∨ buffer ∈ life.low ∨ buffer ∈ life.uvWrites →
    0 < buffer.size
  stream : life.Streamed → life.isUdp = false ∧ (life.state = .connected ∨
    life.state = .connectedPaused ∨ life.state = .halfcloseRead ∨ life.state = .closing)
  udp : life.state = .udp → life.isUdp = true
  tcp : life.initialized = true → life.isUdp = true → life.state = .udp ∨ life.state = .closing
  datagrams : life.uvUdpSends ≠ [] → life.isUdp = true

/-- The state between two steps: nothing that was queued is forgotten. -/
structure Sound (life : Life) : Prop extends Steady life where
  progress : life.high ≠ [] ∨ life.low ≠ [] → life.state ≠ .closing →
    life.closeRequested = false → life.writing = true ∨ life.pumpPending = true

variable {life after : Life}

theorem Steady.emit (steady : life.Steady) (observations : List Obs) :
    (life.emit observations).Steady :=
  ⟨steady.dead, steady.bare, steady.opened, steady.closing, steady.reading, steady.listening,
    steady.receiving, steady.connecting, steady.writing, steady.single, steady.unpumped,
    steady.bytes, steady.positive, steady.stream, steady.udp, steady.tcp, steady.datagrams⟩

theorem Sound.emit (sound : life.Sound) (observations : List Obs) :
    (life.emit observations).Sound :=
  ⟨sound.toSteady.emit observations, sound.progress⟩

theorem Steady.shut (steady : life.Steady) (opened : life.initialized = true) :
    life.shut.Sound := by
  obtain ⟨dead, bare, -, closing, reading, listening, receiving, connecting, writing, single,
    unpumped, bytes, positive, stream, udp, tcp, datagrams⟩ := steady
  constructor
  · constructor <;> grind -ring -linarith [Life.shut, Quiet, Streamed]
  · simp [Life.shut]

theorem Steady.drop (steady : life.Steady) (quiet : life.Quiet)
    (done : life.initialized = true → life.uvClosing = true) : life.drop.Sound := by
  obtain ⟨-, bare, opened, closing, reading, listening, receiving, connecting, writing, single,
    unpumped, bytes, positive, stream, udp, tcp, datagrams⟩ := steady
  constructor
  · constructor <;> grind -ring -linarith [Life.drop, Quiet, Streamed]
  · grind -ring -linarith [Life.drop, Quiet]

theorem Steady.drop_bare (steady : life.Steady) (bare : life.initialized = false) :
    life.drop.Sound :=
  steady.drop (steady.bare bare).1 (by simp [bare])

/-- A handle that was just opened, in a state that goes with its flags. -/
theorem Steady.open (steady : life.Steady) (bare : life.initialized = false)
    (alive : life.freed = false) {state : SocketState} {isUdp flag closing reading connecting
      listening receiving : Bool} {observations : List Obs}
    (fits : (state ≠ .invalid ∧ state ≠ .reserved ∧ state ≠ .listenPending) ∧
      (closing = true ↔ state = .closing) ∧ (reading = true → state = .connected) ∧
      (connecting = true → state = .connecting) ∧ (listening = true → state = .listening) ∧
      (receiving = true → state = .udp) ∧ (state = .udp → isUdp = true) ∧
      (isUdp = true → state = .udp ∨ state = .closing)) :
    Sound { life with
      initialized := true, state := state, isUdp := isUdp, reading := flag, uvClosing := closing,
      uvReading := reading, uvConnecting := connecting, uvListening := listening,
      uvReceiving := receiving, log := observations } := by
  obtain ⟨⟨-, -, -, -, writes, sends, high, low, unlisted⟩, -, calm, -⟩ := steady.bare bare
  have idle := steady.writing
  have bytes := steady.bytes alive
  rw [high, low, writes] at bytes
  constructor
  · constructor <;> grind -ring -linarith [Quiet, Streamed]
  · grind -ring -linarith

theorem Steady.opened_of (steady : life.Steady) (alive : life.freed = false)
    (state : life.state ≠ .reserved) : life.initialized = true := by
  by_contra bare
  exact state ((steady.bare (by simpa using bare)).2.2.2 alive).1

theorem Steady.alive_of (steady : life.Steady) (opened : life.initialized = true)
    (state : life.state ≠ .closing) : life.freed = false := by
  by_contra dead
  exact state (steady.closing.mp ((steady.dead (by simpa using dead)).2 opened))

theorem Steady.no_writes (steady : life.Steady) (idle : life.writing = false) :
    life.uvWrites = [] := by
  by_contra pending
  simp [steady.writing.mpr pending] at idle

theorem Steady.pending_of_bytes (steady : life.Steady) (alive : life.freed = false)
    (bytes : 0 < life.queuedBytes) : life.writing = true ∨ life.high ≠ [] ∨ life.low ≠ [] := by
  have total := steady.bytes alive
  by_contra none
  simp only [not_or, ne_eq, not_not, Bool.not_eq_true] at none
  obtain ⟨idle, high, low⟩ := none
  rw [high, low, steady.no_writes idle] at total
  simp [total] at bytes

theorem Steady.streamed_of_bytes (steady : life.Steady) (alive : life.freed = false)
    (bytes : 0 < life.queuedBytes) : life.Streamed := by
  rcases steady.pending_of_bytes alive bytes with writing | high | low
  · exact .inr (.inr (.inl (steady.writing.mp writing)))
  · exact .inl high
  · exact .inr (.inl low)

/-- One buffer leaves the head of a list for libuv. -/
theorem Steady.hand (steady : life.Steady) (opened : life.initialized = true)
    (alive : life.freed = false) (state : life.state ≠ .closing) (idle : life.writing = false)
    (unlisted : life.pumpPending = false) {buffer : Buffer} {high low : List Buffer}
    (taken : (life.high = buffer :: high ∧ life.low = low) ∨
      (life.high = high ∧ life.low = buffer :: low)) :
    Sound { life with
      high := high, low := low, uvWrites := life.uvWrites ++ [buffer], writing := true } := by
  have none := steady.no_writes idle
  obtain ⟨-, bare, -, closing, reading, listening, receiving, connecting, writing, single,
    unpumped, bytes, positive, stream, udp, tcp, datagrams⟩ := steady
  simp only [none, List.nil_append] at bytes positive stream ⊢
  obtain ⟨highEq, lowEq⟩ | ⟨highEq, lowEq⟩ := taken
  all_goals
    simp only [Streamed, highEq, lowEq] at bytes positive stream
    constructor
    · constructor <;> grind -ring -linarith [Quiet, Streamed]
    · simp

/-- One buffer leaves the head of a list and is released. -/
theorem Steady.lose (steady : life.Steady) (opened : life.initialized = true)
    (alive : life.freed = false) {buffer : Buffer} {high low : List Buffer}
    (taken : (life.high = buffer :: high ∧ life.low = low) ∨
      (life.high = high ∧ life.low = buffer :: low)) :
    Steady { life with
      high := high, low := low, queuedBytes := life.queuedBytes - buffer.size } := by
  obtain ⟨-, bare, -, closing, reading, listening, receiving, connecting, writing, single,
    unpumped, bytes, positive, stream, udp, tcp, datagrams⟩ := steady
  obtain ⟨highEq, lowEq⟩ | ⟨highEq, lowEq⟩ := taken
  all_goals
    simp only [Streamed, highEq, lowEq] at bytes positive stream
    constructor <;> grind -ring -linarith [Quiet, Streamed]

theorem Pumped.sound {env : Env} (steady : life.Steady) (opened : life.initialized = true)
    (alive : life.freed = false) (state : life.state ≠ .closing)
    (unlisted : life.pumpPending = false) (pumped : Pumped env life after) : after.Sound := by
  cases pumped with
  | busy writing => exact ⟨steady, fun _ _ _ => .inl writing⟩
  | empty high low => exact ⟨steady, by simp [high, low]⟩
  | high buffer rest idle high accepted =>
      exact (steady.hand opened alive state idle unlisted (.inl ⟨high, rfl⟩)).emit _
  | low buffer rest idle high low accepted =>
      exact (steady.hand opened alive state idle unlisted (.inr ⟨rfl, low⟩)).emit _
  | highFailed buffer rest event idle high refused type =>
      exact (((steady.lose opened alive (.inl ⟨high, rfl⟩)).emit _).emit _).shut opened
  | lowFailed buffer rest event idle high low refused type =>
      exact (((steady.lose opened alive (.inr ⟨rfl, low⟩)).emit _).emit _).shut opened

theorem Resumed.sound {env : Env} (steady : life.Steady) (opened : life.initialized = true)
    (alive : life.freed = false) (unlisted : life.pumpPending = false)
    (resumed : Resumed env life after) : after.Sound := by
  cases resumed with
  | drained asked high low => exact steady.shut opened
  | waiting asked more => exact ⟨steady, by simp [asked]⟩
  | closing asked state => exact ⟨steady, by simp [state]⟩
  | pumped asked state pumped => exact pumped.sound steady opened alive state unlisted

theorem Steady.complete (steady : life.Steady) {buffer : Buffer} {rest : List Buffer}
    (head : life.uvWrites = buffer :: rest) (status : Int) :
    (life.complete buffer rest status).Steady := by
  have last : rest = [] := by
    have single := steady.single
    rw [head, List.length_cons] at single
    exact List.eq_nil_of_length_eq_zero (by omega)
  obtain ⟨dead, bare, opened, closing, reading, listening, receiving, connecting, writing, single,
    unpumped, bytes, positive, stream, udp, tcp, datagrams⟩ := steady
  subst last
  simp only [Quiet, Streamed, head] at dead bare bytes positive stream writing
  constructor <;> grind -ring -linarith [Life.complete, Life.emit, Quiet, Streamed]

/-- A buffer joins one of the lists, and the entry the pump list. -/
theorem Sound.queue (sound : life.Sound) (opened : life.initialized = true)
    (alive : life.freed = false) (stream : life.isUdp = false)
    (state : life.state = .connected ∨ life.state = .connectedPaused ∨
      life.state = .halfcloseRead) {buffer : Buffer} {high low : List Buffer}
    (positive : 0 < buffer.size)
    (added : (high = life.high ++ [buffer] ∧ low = life.low) ∨
      (high = life.high ∧ low = life.low ++ [buffer])) :
    Sound { life with
      high := high, low := low, queuedBytes := life.queuedBytes + buffer.size,
      pumpPending := life.pumpPending || !life.writing } := by
  obtain ⟨⟨dead, bare, -, closing, reading, listening, receiving, connecting, writing, single,
    unpumped, bytes, sizes, streamed, udp, tcp, datagrams⟩, progress⟩ := sound
  obtain ⟨rfl, rfl⟩ | ⟨rfl, rfl⟩ := added
  all_goals
    constructor
    · constructor <;> grind -ring -linarith [Quiet, Streamed]
    · grind -ring -linarith

theorem Sound.steady_unlisted (sound : life.Sound) :
    Steady { life with pumpPending := false } := by
  obtain ⟨⟨dead, bare, opened, closing, reading, listening, receiving, connecting, writing, single,
    unpumped, bytes, positive, stream, udp, tcp, datagrams⟩, -⟩ := sound
  constructor <;> grind -ring -linarith [Quiet, Streamed]

theorem Steady.busy (steady : life.Steady) (busy : ¬life.Quiet) :
    life.initialized = true ∧ life.freed = false := by
  constructor
  · by_contra bare
    exact busy (steady.bare (by simpa using bare)).1
  · by_contra dead
    exact busy (steady.dead (by simpa using dead)).1

theorem Steady.unlisted (steady : life.Steady) (pending : life.uvWrites ≠ []) :
    life.pumpPending = false := by
  by_contra listed
  have idle := steady.unpumped (by simpa using listed)
  simp [steady.writing.mpr pending] at idle

/-- An open handle changes its state and what it waits for. -/
theorem Sound.retune (sound : life.Sound) (opened : life.initialized = true)
    (before : life.state ≠ .closing) {state : SocketState}
    {asked flag reading connecting listening : Bool}
    (fits : (state ≠ .invalid ∧ state ≠ .reserved ∧ state ≠ .listenPending ∧ state ≠ .closing) ∧
      (reading = true → state = .connected) ∧ (connecting = true → state = .connecting) ∧
      (listening = true → state = .listening) ∧ (life.uvReceiving = true → state = .udp) ∧
      (life.isUdp = true ↔ state = .udp))
    (kept : asked = false → life.closeRequested = false)
    (stream : asked = true ∨ life.Streamed →
      state = .connected ∨ state = .connectedPaused ∨ state = .halfcloseRead) :
    Sound { life with
      state := state, closeRequested := asked, reading := flag, uvReading := reading,
      uvConnecting := connecting, uvListening := listening } := by
  have alive := sound.alive_of opened before
  obtain ⟨⟨-, -, -, closing, -, -, -, -, writing, single, unpumped, bytes, positive, -, udp, tcp,
    datagrams⟩, progress⟩ := sound
  constructor
  · constructor <;> grind -ring -linarith [Quiet, Streamed]
  · grind -ring -linarith

/-- libuv owes the entry less than before. -/
theorem Sound.relax (sound : life.Sound) {connecting listening : Bool} {sends : List Buffer}
    (fewer : (connecting = true → life.uvConnecting = true) ∧
      (listening = true → life.uvListening = true) ∧ (life.uvUdpSends = [] → sends = [])) :
    Sound { life with
      uvConnecting := connecting, uvListening := listening, uvUdpSends := sends } := by
  obtain ⟨⟨dead, bare, opened, closing, reading, isListening, receiving, isConnecting, writing,
    single, unpumped, bytes, positive, stream, udp, tcp, datagrams⟩, progress⟩ := sound
  constructor
  · constructor <;> grind -ring -linarith [Quiet, Streamed]
  · exact progress

/-- A datagram is handed to libuv at once. -/
theorem Sound.send (sound : life.Sound) (alive : life.freed = false) (state : life.state = .udp)
    (buffer : Buffer) : Sound { life with uvUdpSends := life.uvUdpSends ++ [buffer] } := by
  have opened : life.initialized = true := by
    by_contra bare
    have reserved := ((sound.bare (by simpa using bare)).2.2.2 alive).1
    cases reserved.symm.trans state
  refine ⟨⟨fun dead => ?_, fun bare => ?_, sound.opened, sound.closing, sound.reading,
    sound.listening, sound.receiving, sound.connecting, sound.writing, sound.single,
    sound.unpumped, sound.bytes, sound.positive, sound.stream, sound.udp, sound.tcp,
    fun _ => sound.udp state⟩, sound.progress⟩
  · cases alive.symm.trans dead
  · cases opened.symm.trans bare

/-- The close callback drops what was never handed to libuv. -/
theorem Steady.close (steady : life.Steady) (closing : life.uvClosing = true)
    (writes : life.uvWrites = []) (udpSends : life.uvUdpSends = [])
    (connecting : life.uvConnecting = false) (unlisted : life.pumpPending = false) :
    (Life.drop { life with high := [], low := [] }).Sound := by
  obtain ⟨dead, bare, opened, closingIff, reading, listening, receiving, -, writing, single,
    unpumped, -, positive, stream, udp, tcp, datagrams⟩ := steady
  constructor
  · constructor <;> grind -ring -linarith [Life.drop, Quiet, Streamed]
  · simp [Life.drop]

/-- Nothing happens to an entry that was freed. -/
theorem Sound.alive {act : Act} (sound : life.Sound) (enabled : act.Enabled life) :
    life.freed = false := by
  by_contra freed
  obtain ⟨⟨reading, connecting, listening, receiving, writes, sends, -, -, pending⟩, -⟩ :=
    sound.dead (by simpa using freed)
  cases act <;> simp_all [Act.Enabled]

/-- Every act keeps a sound life sound. -/
theorem Move.sound {act : Act} (move : Move act life after) (enabled : act.Enabled life)
    (sound : life.Sound) : after.Sound := by
  have ⟨steady, progress⟩ := sound
  have alive := sound.alive enabled
  cases move with
  | ignored | scanned | readNothing | udpNothing | tagged => exact sound
  | refused | reported | readData | udpData | acceptError | acceptTaken => exact sound.emit _
  | acceptDone => exact (sound.emit _).emit _
  | aborted command env event state isUdp opens bare early type =>
      have steady : Steady { life with state := state, isUdp := isUdp, freed := true } := by
        obtain ⟨dead, bare, opened, closing, reading, listening, receiving, connecting, writing,
          single, unpumped, bytes, positive, stream, udp, tcp, datagrams⟩ := steady
        constructor <;> grind -ring -linarith [Quiet, Streamed]
      exact (steady.emit _).drop_bare bare
  | rejected command env event isUdp opens bare type | acceptRejected env event bare type =>
      obtain ⟨⟨-, connecting, -⟩, -⟩ := sound.bare bare
      exact sound.open bare enabled.1 (by simp [Life.emit, connecting])
  | listening command env event opens bare type | connecting command env opens bare
  | bound command env event opens bare type
  | udpOpened command env opens bare | accepted env bare =>
      obtain ⟨⟨reading, connecting, listening, receiving, -⟩, closing, -, fresh⟩ := sound.bare bare
      exact sound.open bare alive
        (by simp [connecting, closing, listening, reading, receiving, fresh alive])
  | started command env event start state reads type
  | readEof nread data env event reading state eof type =>
      have opened := steady.opened_of alive (by grind -ring -linarith)
      have fits := And.intro steady.listening <| And.intro steady.receiving <|
        And.intro steady.connecting (steady.tcp opened)
      exact (sound.retune opened (by grind -ring -linarith) (by grind -ring -linarith) id
        (by simp)).emit _
  | startFailed command env event start state fails type =>
      exact (steady.emit _).shut (steady.opened_of alive (by grind -ring -linarith))
  | paused command env pause state stops =>
      have opened := steady.opened_of alive (by grind -ring -linarith)
      have fits := And.intro steady.listening <| And.intro steady.receiving <|
        And.intro steady.connecting (steady.tcp opened)
      exact sound.retune opened (by grind -ring -linarith) (by grind -ring -linarith) id (by simp)
  | queuedHigh command env payload warnings send state accepts plain =>
      have opened := steady.opened_of alive (by grind -ring -linarith)
      have stream : life.isUdp = false := by grind -ring -linarith [steady.tcp opened]
      exact (sound.queue opened alive stream state (enabled.2 payload (.inl send))
        (.inl ⟨rfl, rfl⟩)).emit _ |>.emit _
  | queuedLow command env payload warnings send state accepts plain =>
      have opened := steady.opened_of alive (by grind -ring -linarith)
      have stream : life.isUdp = false := by grind -ring -linarith [steady.tcp opened]
      exact (sound.queue opened alive stream state (enabled.2 payload (.inr send))
        (.inr ⟨rfl, rfl⟩)).emit _ |>.emit _
  | datagram command env payload send state =>
      exact sound.send alive state payload.buffer
  | closedBare command env event closes bare type carries =>
      exact ((steady.emit _).emit _).drop_bare bare
  | closedNow command env event closes opened state now type carries =>
      exact ((steady.emit _).emit _).shut opened
  | draining command env event close opened state stream pending type carries =>
      have streamed := (steady.stream (steady.streamed_of_bytes alive pending)).2
      have fits := And.intro steady.listening <| And.intro steady.receiving <|
        And.intro steady.connecting <| And.intro steady.reading steady.udp
      exact ((sound.retune opened state (by grind -ring -linarith) (by simp)
        (by grind -ring -linarith)).emit _).emit _
  | pumpSkipped env state => exact ⟨sound.steady_unlisted, by simp [state]⟩
  | pumped env state pumped =>
      have listed : life.pumpPending = true := enabled
      have opened := (steady.busy (by simp [Quiet, listed])).1
      exact pumped.sound sound.steady_unlisted opened alive state rfl
  | scanDropped bare scan => exact steady.drop_bare bare
  | scanShut opened closing scan => exact steady.shut opened
  | readFailed nread data env event reading state | udpFailed nread data address env event state =>
      exact (steady.emit _).shut (steady.opened_of alive (by simp [state]))
  | written status env buffer rest warnings head fine plain resumed =>
      obtain ⟨opened, alive⟩ := steady.busy (by simp [Quiet, head])
      exact resumed.sound ((steady.complete head status).emit _) opened alive
        (steady.unlisted (by simp [head]))
  | writeFailed status env buffer rest event head fails state type resumed =>
      obtain ⟨opened, alive⟩ := steady.busy (by simp [Quiet, head])
      exact resumed.sound (((steady.complete head status).emit _).shut opened).toSteady opened alive
        (steady.unlisted (by simp [head]))
  | datagramSent index status env errors plain =>
      exact (sound.relax ⟨id, id, by simp +contextual⟩).emit _
  | connectLate status env state => exact sound.relax ⟨by simp, id, id⟩
  | connectFailed status env event state type =>
      have relaxed : Sound { life with uvConnecting := false } := sound.relax ⟨by simp, id, id⟩
      exact (relaxed.toSteady.emit _).shut (steady.opened_of alive (by simp [state]))
  | connected status env event state type =>
      have opened := steady.opened_of alive (by simp [state])
      have fits := And.intro steady.listening <| And.intro steady.receiving (steady.tcp opened)
      exact (sound.retune opened (by grind -ring -linarith) (by grind -ring -linarith) id
        (by simp)).emit _
  | acceptStalled => exact sound.relax ⟨id, by simp, id⟩
  | acceptDropped env bare => exact steady.drop_bare bare
  | closed closing alive writes udpSends connecting =>
      exact steady.close closing writes udpSends connecting enabled.2.2.2.2.2
  | discarded bare => exact steady.drop_bare bare

end Life

end Skyuv.Socket
