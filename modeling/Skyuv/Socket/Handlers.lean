import Skyuv.Socket.Entry

/-!
# Callbacks and command handlers

The libuv callbacks and the `process_*` functions of `socket_internal.c`, for
an entry that `find_entry` or `handle->data` has produced.  What a command does
when its id names no entry is `processUnknown`.
-/

set_option autoImplicit false

namespace Skyuv.Socket

namespace Frame

/-! ## Reading -/

def pushDataEvent (env : Env) (data : List UInt8) (size : Nat) (frame : Frame) : Frame :=
  if env.event .data then
    let event : Event := ⟨.data, frame.entry.id, frame.entry.opaqueVal, 0, data, size⟩
    { frame with
      entry := { frame.entry with
        readBytes := (frame.entry.readBytes + size) % uint64Size
        readTime := frame.runtime.currentTime
        log := frame.entry.log ++ [.event .other event] }
      runtime := { frame.runtime with events := frame.runtime.events ++ [event] } }
  else frame

/-- `read_completed`.  libuv stops reading before it reports `UV_EOF`. -/
def readCompleted (env : Env) (nread : Int) (data : List UInt8) (frame : Frame) : Frame :=
  if nread > 0 then frame.pushDataEvent env data nread.toNat
  else if nread = 0 then frame
  else if nread = uvEof then
    let frame := frame.modify fun entry => { entry with uvReading := false }
    if frame.entry.state ≠ .halfcloseRead then
      let frame := frame.modify fun entry => { entry with reading := false }
      (frame.pushEvent env .eof .close frame.entry.id frame.entry.opaqueVal 0).setEntryState
        .halfcloseRead
    else frame
  else frame.finishEntry env .error nread

/-- The seven or nineteen bytes that `udp_received` appends to a datagram. -/
def encodeUdpAddress : SockAddr → List UInt8
  | .ipv4 port ip => 1 :: (port.toList ++ ip.toList)
  | .ipv6 port ip => 2 :: (port.toList ++ ip.toList)

def addressSize : SockAddr → Nat
  | .ipv4 _ _ => 7
  | .ipv6 _ _ => 19

def udpReceived (env : Env) (nread : Int) (data : List UInt8) (address : Option SockAddr)
    (frame : Frame) : Frame :=
  if nread < 0 then frame.finishEntry env .error nread
  else
    match address with
    | none => frame
    | some address =>
        if env.data && env.event .udp then
          let event : Event := ⟨.udp, frame.entry.id, frame.entry.opaqueVal, addressSize address,
            data.take nread.toNat ++ encodeUdpAddress address, nread.toNat⟩
          { frame with
            entry := { frame.entry with
              readBytes := (frame.entry.readBytes + nread.toNat) % uint64Size
              readTime := frame.runtime.currentTime
              log := frame.entry.log ++ [.event .other event] }
            runtime := { frame.runtime with events := frame.runtime.events ++ [event] } }
        else frame

def decodeUdpAddress : List UInt8 → Except Int SockAddr
  | [tag, p0, p1, a0, a1, a2, a3] =>
      if tag = 1 then .ok (.ipv4 #v[p0, p1] #v[a0, a1, a2, a3]) else .error uvEinval
  | [tag, p0, p1, a0, a1, a2, a3, a4, a5, a6, a7, a8, a9, a10, a11, a12, a13, a14, a15] =>
      if tag = 2 then
        .ok (.ipv6 #v[p0, p1]
          #v[a0, a1, a2, a3, a4, a5, a6, a7, a8, a9, a10, a11, a12, a13, a14, a15])
      else .error uvEinval
  | _ => .error uvEinval

/-! ## Writing -/

/-- The tail of `pump_write`: one node, already taken off its list, goes to
`uv_write`. -/
def submitWrite (env : Env) (low : Bool) (buffer : Buffer) (frame : Frame) : Frame :=
  let frame := frame.note [.uvWrite low buffer (env.uv .write)]
  if env.uv .write = 0 then
    frame.modify fun entry =>
      { entry with uvWrites := entry.uvWrites ++ [buffer], writing := true }
  else
    let frame := frame.modify fun entry =>
      { entry with queuedBytes := entry.queuedBytes - buffer.size }
    let frame := frame.releaseWrite buffer
    if frame.entry.state = .halfcloseRead then (frame.setEntryState .closing).uvClose
    else frame.finishEntry env .error (env.uv .write)

def pumpWrite (env : Env) (frame : Frame) : Frame :=
  if frame.entry.writing then frame
  else
    match frame.entry.high, frame.entry.low with
    | buffer :: rest, _ =>
        (frame.modify fun entry => { entry with high := rest }).submitWrite env false buffer
    | [], buffer :: rest =>
        (frame.modify fun entry => { entry with low := rest }).submitWrite env true buffer
    | [], [] => frame

/-- The error branch at the head of `write_completed`. -/
def writeFailed (env : Env) (status : Int) (frame : Frame) : Frame :=
  if status ≠ 0 ∧ frame.entry.state ≠ .closing then
    if frame.entry.state = .halfcloseRead then (frame.setEntryState .closing).uvClose
    else frame.finishEntry env .error status
  else frame

/-- The recovery warning of `write_completed`. -/
def writeRecovered (env : Env) (frame : Frame) : Frame :=
  if frame.entry.queuedBytes = 0 ∧ frame.entry.warnSize > 0 ∧ frame.entry.state ≠ .closing then
    let frame := frame.modify fun entry => { entry with warnSize := 0 }
    frame.pushEvent env .other .warning frame.entry.id frame.entry.opaqueVal 0
  else frame

/-- The counters of `write_completed`, and the release of the buffer. -/
def accountWrite (buffer : Buffer) (frame : Frame) : Frame :=
  let frame := frame.modify fun entry =>
    { entry with
      queuedBytes := entry.queuedBytes - buffer.size
      writeBytes := (entry.writeBytes + buffer.size) % uint64Size
      writeTime := frame.runtime.currentTime
      writing := false }
  frame.releaseWrite buffer

/-- The last lines of `write_completed`. -/
def resumeWrites (env : Env) (frame : Frame) : Frame :=
  if frame.entry.closeRequested then frame.closeAfterWrites
  else if frame.entry.state ≠ .closing then frame.pumpWrite env
  else frame

/-- `write_completed` for the oldest request in flight. -/
def writeCompleted (env : Env) (status : Int) (frame : Frame) : Frame :=
  match frame.entry.uvWrites with
  | [] => frame
  | buffer :: rest =>
      let frame := frame.modify fun entry => { entry with uvWrites := rest }
      let frame := (frame.note [.completed buffer status]).writeFailed env status
      ((frame.accountWrite buffer).writeRecovered env).resumeWrites env

/-- `udp_write_completed` for the request at `index`. -/
def udpWriteCompleted (env : Env) (index : Nat) (status : Int) (frame : Frame) : Frame :=
  match frame.entry.uvUdpSends[index]? with
  | none => frame
  | some buffer =>
      let frame := frame.modify fun entry =>
        { entry with uvUdpSends := entry.uvUdpSends.eraseIdx index }
      let frame := if status ≠ 0 ∧ frame.entry.state ≠ .closing then
          frame.pushEvent env .other .error frame.entry.id frame.entry.opaqueVal status
        else frame
      let frame := frame.modify fun entry =>
        { entry with
          writeBytes := (entry.writeBytes + buffer.size) % uint64Size
          writeTime := frame.runtime.currentTime }
      frame.releaseWrite buffer

/-! ## Connecting and accepting -/

def connectCompleted (env : Env) (status : Int) (frame : Frame) : Frame :=
  let frame := frame.modify fun entry => { entry with uvConnecting := false }
  if frame.entry.state = .closing then frame
  else if status ≠ 0 then frame.rejectEntry env status
  else
    let frame := frame.startReading env
    if env.uv .readStart ≠ 0 then frame.rejectEntry env (env.uv .readStart)
    else
      let frame := (frame.setEntryState .connected).cacheTcpName env.peerName
      frame.pushEvent env .other .open frame.entry.id frame.entry.opaqueVal 0

/-- `accept_connection` with `status < 0`. -/
def acceptError (env : Env) (status : Int) (frame : Frame) : Frame :=
  frame.pushEvent env .other .error frame.entry.id frame.entry.opaqueVal status

/-- The callback returns without `uv_accept`: libuv stops watching the listener. -/
def acceptStalled (frame : Frame) : Frame :=
  frame.modify fun entry => { entry with uvListening := false }

/-- `uv_accept(server, client)` seen from the listener, which stays armed. -/
def acceptTaken (frame : Frame) : Frame := frame.note [.uvAccept]

/-- The accepted entry between `uv_tcp_init` and `cache_tcp_name`. -/
def acceptInto (cfg : Config) (env : Env) (frame : Frame) : Frame :=
  if env.uv .tcpInit ≠ 0 then frame.discardUninitializedEntry cfg
  else
    let frame := frame.modify fun entry => { entry with initialized := true }
    if env.uv .accept ≠ 0 then frame.rejectEntry env (env.uv .accept)
    else (frame.setEntryState .acceptedPaused).cacheTcpName env.peerName

/-- The listener's share of a successful accept. -/
def acceptDone (env : Env) (accepted : Int) (frame : Frame) : Frame :=
  let frame := frame.modify fun entry =>
    { entry with
      acceptCount := (entry.acceptCount + 1) % uint64Size
      readTime := frame.runtime.currentTime }
  frame.pushEvent env .other .accept frame.entry.id frame.entry.opaqueVal accepted

/-! ## Commands -/

/-- The `ERROR` event and `discard_uninitialized_entry` that end a command whose
address or handle could not be set up. -/
def failUninitialized (cfg : Config) (env : Env) (error : Int) (frame : Frame) : Frame :=
  (frame.pushEvent env .discard .error frame.entry.id frame.entry.opaqueVal
    error).discardUninitializedEntry cfg

def processListen (cfg : Config) (env : Env) (host : String) (port : Int) (frame : Frame) :
    Frame :=
  if frame.entry.state ≠ .reserved then frame
  else
    let frame := frame.setEntryState .listenPending
    match env.parseAddress host port with
    | .error error => frame.failUninitialized cfg env error
    | .ok _ =>
        if env.uv .tcpInit ≠ 0 then frame.failUninitialized cfg env (env.uv .tcpInit)
        else
          let frame := frame.modify fun entry => { entry with initialized := true }
          if env.uv .tcpBind ≠ 0 then frame.rejectEntry env (env.uv .tcpBind)
          else if env.uv .listen ≠ 0 then frame.rejectEntry env (env.uv .listen)
          else
            let frame := frame.modify fun entry => { entry with uvListening := true }
            let frame := (frame.setEntryState .listening).cacheTcpName env.sockName
            frame.pushEvent env .other .open frame.entry.id frame.entry.opaqueVal
              (env.sockPort.getD port)

def processStart (env : Env) (command : Command) (frame : Frame) : Frame :=
  if frame.entry.state = .listening ∨ frame.entry.state = .connected then
    let frame := frame.setOpaque command.opaqueVal
    frame.pushEvent env .other .open frame.entry.id frame.entry.opaqueVal 0
  else if frame.entry.state ≠ .acceptedPaused ∧ frame.entry.state ≠ .connectedPaused then
    frame.pushEvent env .other .error command.id command.opaqueVal uvEinval
  else
    let frame := (frame.setOpaque command.opaqueVal).startReading env
    if env.uv .readStart ≠ 0 then frame.rejectEntry env (env.uv .readStart)
    else
      let frame := frame.setEntryState .connected
      frame.pushEvent env .other .open frame.entry.id frame.entry.opaqueVal 0

def processPause (env : Env) (frame : Frame) : Frame :=
  if frame.entry.state ≠ .connected then frame
  else
    let frame := frame.uvReadStop env
    if env.uv .readStop ≠ 0 then
      frame.pushEvent env .other .error frame.entry.id frame.entry.opaqueVal (env.uv .readStop)
    else
      let frame := frame.modify fun entry => { entry with reading := false }
      frame.setEntryState .connectedPaused

/-- `process_nodelay` changes nothing the runtime looks at again. -/
def processNodelay (frame : Frame) : Frame := frame

def processConnect (cfg : Config) (env : Env) (host : String) (port : Int) (frame : Frame) :
    Frame :=
  if frame.entry.state ≠ .reserved then frame
  else
    match env.parseAddress host port with
    | .error error => frame.failUninitialized cfg env error
    | .ok _ =>
        if env.uv .tcpInit ≠ 0 then frame.failUninitialized cfg env (env.uv .tcpInit)
        else
          let frame := frame.modify fun entry => { entry with initialized := true }
          let frame := frame.setEntryState .connecting
          if env.uv .tcpConnect ≠ 0 then frame.rejectEntry env (env.uv .tcpConnect)
          else frame.modify fun entry => { entry with uvConnecting := true }

def processBind (cfg : Config) (env : Env) (frame : Frame) : Frame :=
  if !cfg.externalFd then frame
  else if frame.entry.state ≠ .reserved then frame
  else if env.uv .tcpInit ≠ 0 then frame.failUninitialized cfg env (env.uv .tcpInit)
  else
    let frame := frame.modify fun entry => { entry with initialized := true }
    if env.uv .tcpOpen ≠ 0 then frame.rejectEntry env (env.uv .tcpOpen)
    else
      let frame := frame.startReading env
      if env.uv .readStart ≠ 0 then frame.rejectEntry env (env.uv .readStart)
      else
        let frame := (frame.setEntryState .connected).cacheTcpName env.peerName
        frame.pushEvent env .other .open frame.entry.id frame.entry.opaqueVal 0

def processUdp (cfg : Config) (env : Env) (host : String) (port : Int) (frame : Frame) : Frame :=
  if frame.entry.state ≠ .reserved then frame
  else
    match env.parseAddress host port with
    | .error error => frame.failUninitialized cfg env error
    | .ok _ =>
        let frame := frame.modify fun entry => { entry with isUdp := true }
        if env.uv .udpInit ≠ 0 then frame.failUninitialized cfg env (env.uv .udpInit)
        else
          let frame := frame.modify fun entry => { entry with initialized := true }
          if env.uv .udpBind ≠ 0 then frame.rejectEntry env (env.uv .udpBind)
          else if env.uv .udpRecvStart ≠ 0 then frame.rejectEntry env (env.uv .udpRecvStart)
          else
            let frame := frame.modify fun entry => { entry with uvReceiving := true }
            frame.setEntryState .udp

def processUdpConnect (env : Env) (host : String) (port : Int) (frame : Frame) : Frame :=
  if frame.entry.state ≠ .udp then frame
  else
    match env.parseAddress host port with
    | .error _ => frame
    | .ok address => frame.modify fun entry => { entry with udpTarget := some address }

/-- The target of a datagram: the explicit address, or the default one. -/
def udpTargetOf (address : List UInt8) (entry : Entry) : Except Int SockAddr :=
  if address.length > 0 then decodeUdpAddress address
  else
    match entry.udpTarget with
    | some target => .ok target
    | none => .error uvEdestaddrreq

/-- `process_udp_send`; the second result is the command's ownership flag. -/
def processUdpSend (env : Env) (command : Command) (payload : SendPayload) (frame : Frame) :
    Frame × Ownership :=
  if frame.entry.state ≠ .udp then
    (frame.pushEvent env .other .error command.id command.opaqueVal uvEnotconn, payload.ownership)
  else
    match udpTargetOf payload.address frame.entry with
    | .error error =>
        (frame.pushEvent env .other .error frame.entry.id frame.entry.opaqueVal error,
          payload.ownership)
    | .ok _ =>
        if !env.node then
          (frame.pushEvent env .other .error frame.entry.id frame.entry.opaqueVal uvEnomem,
            payload.ownership)
        else if env.uv .udpSend ≠ 0 then
          (frame.pushEvent env .other .error frame.entry.id frame.entry.opaqueVal
            (env.uv .udpSend), payload.ownership)
        else
          (frame.modify fun entry =>
            { entry with uvUdpSends := entry.uvUdpSends ++ [payload.buffer] }, .borrowed)

/-- Appending the node to the list of its priority. -/
def queueWrite (low : Bool) (buffer : Buffer) (frame : Frame) : Frame :=
  let frame := frame.note [.queued low buffer]
  if low then frame.modify fun entry => { entry with low := entry.low ++ [buffer] }
  else frame.modify fun entry => { entry with high := entry.high ++ [buffer] }

/-- The byte counter and the backpressure warning of `process_send`. -/
def countQueued (env : Env) (buffer : Buffer) (frame : Frame) : Frame :=
  let frame := frame.modify fun entry =>
    { entry with queuedBytes := entry.queuedBytes + buffer.size }
  if frame.entry.queuedBytes ≥ warningSize ∧ frame.entry.queuedBytes ≥ frame.entry.warnSize then
    let warningKb : Int := ((frame.entry.queuedBytes + 1023) / 1024 : Nat)
    let frame := frame.modify fun entry =>
      { entry with
        warnSize := if entry.warnSize = 0 then warningSize * 2
          else entry.warnSize * 2 % 18446744073709551616 }
    frame.pushEvent env .other .warning frame.entry.id frame.entry.opaqueVal
      (if warningKb > intMax then intMax else warningKb)
  else frame

/-- The tail of `process_send` that puts the entry on the pump list. -/
def listForPump (frame : Frame) : Frame :=
  if !frame.entry.writing && !frame.entry.pumpPending then
    { frame with
      entry := { frame.entry with pumpPending := true }
      runtime := { frame.runtime with pumpList := frame.runtime.pumpList ++ [frame.key] } }
  else frame

def processSend (env : Env) (command : Command) (low : Bool) (payload : SendPayload)
    (frame : Frame) : Frame × Ownership :=
  if frame.entry.state = .udp then frame.processUdpSend env command payload
  else if frame.entry.state ≠ .connected ∧ frame.entry.state ≠ .connectedPaused ∧
      frame.entry.state ≠ .halfcloseRead then
    (frame.pushEvent env .other .error command.id command.opaqueVal uvEnotconn, payload.ownership)
  else if frame.entry.closeRequested then
    (frame.pushEvent env .other .error command.id command.opaqueVal uvEcanceled,
      payload.ownership)
  else if !env.node then
    (frame.pushEvent env .other .error frame.entry.id frame.entry.opaqueVal uvEnomem,
      payload.ownership)
  else
    (((frame.queueWrite low payload.buffer).countQueued env payload.buffer).listForPump, .borrowed)

/-- The new opaque and the `CLOSE` event of `process_close`. -/
def announceClose (env : Env) (command : Command) (frame : Frame) : Frame :=
  let frame := (frame.note [.closeCommand command.opaqueVal]).setOpaque command.opaqueVal
  if frame.entry.state ≠ .halfcloseRead then
    frame.pushEvent env .processClose .close frame.entry.id frame.entry.opaqueVal 0
  else frame

/-- Reading stops and the close waits for the queued writes. -/
def requestClose (env : Env) (frame : Frame) : Frame :=
  let frame := frame.uvReadStop env
  frame.modify fun entry => { entry with reading := false, closeRequested := true }

def processClose (cfg : Config) (env : Env) (command : Command) (isClose : Bool)
    (frame : Frame) : Frame :=
  if frame.entry.state = .closing then frame
  else
    let frame := frame.announceClose env command
    if !frame.entry.initialized then frame.discardUninitializedEntry cfg
    else if isClose && !frame.entry.isUdp && frame.entry.queuedBytes > 0 then
      (frame.requestClose env).closeAfterWrites
    else (frame.setEntryState .closing).uvClose

/-- The dispatch of `consume_commands` for a found entry, with
`skyuv_socket_command_destroy` after it.  The send handlers clear the ownership
flag of a command whose buffer they have taken over. -/
def runCommand (cfg : Config) (env : Env) (command : Command) (frame : Frame) : Frame :=
  let finish (frame : Frame) (body : CommandBody) : Frame :=
    { frame with runtime := frame.runtime.destroyCommand { command with body := body } }
  match command.body with
  | .listen host port backlog =>
      finish (frame.processListen cfg env host port) (.listen host port backlog)
  | .connect host port => finish (frame.processConnect cfg env host port) (.connect host port)
  | .bind fd => finish (frame.processBind cfg env) (.bind fd)
  | .udp host port => finish (frame.processUdp cfg env host port) (.udp host port)
  | .udpConnect host port =>
      finish (frame.processUdpConnect env host port) (.udpConnect host port)
  | .udpSend payload =>
      let (frame, ownership) := frame.processUdpSend env command payload
      finish frame (.udpSend { payload with ownership := ownership })
  | .start => finish (frame.processStart env command) .start
  | .pause => finish (frame.processPause env) .pause
  | .nodelay => finish frame.processNodelay .nodelay
  | .send payload =>
      let (frame, ownership) := frame.processSend env command false payload
      finish frame (.send { payload with ownership := ownership })
  | .sendLow payload =>
      let (frame, ownership) := frame.processSend env command true payload
      finish frame (.sendLow { payload with ownership := ownership })
  | .close => finish (frame.processClose cfg env command true) .close
  | .shutdown => finish (frame.processClose cfg env command false) .shutdown
  | .exit => frame

/-- One slot of the loop in `process_exit`. -/
def exitScan (cfg : Config) (frame : Frame) : Frame :=
  if !frame.entry.initialized then frame.discardUninitializedEntry cfg
  else if !frame.entry.uvClosing then (frame.setEntryState .closing).uvClose
  else frame

/-- One slot of the loop in `skyuv_socket_runtime_release`; here an
uninitialized entry leaves the table without touching `entry_count`. -/
def releaseScan (slot : Nat) (frame : Frame) : Frame :=
  if frame.entry.initialized && !frame.entry.uvClosing then
    (frame.setEntryState .closing).uvClose
  else if !frame.entry.initialized then
    { frame with
      runtime := { frame.runtime with
        table := { frame.runtime.table with
          slots := Function.update frame.runtime.table.slots slot none } } }.freeEntry
  else frame

/-- One round of the pump loop at the end of `consume_commands`, after the
entry was taken off the list. -/
def pumpRound (env : Env) (frame : Frame) : Frame :=
  let frame := frame.modify fun entry => { entry with pumpPending := false }
  if frame.entry.state ≠ .closing then frame.pumpWrite env else frame

end Frame

/-- The branches for `find_entry(...) == NULL`, with the command destroyed. -/
def processUnknown (env : Env) (command : Command) (runtime : Shared) : Shared :=
  let runtime := match command.body with
    | .start => runtime.pushEvent env .error command.id command.opaqueVal uvEinval
    | .send _ | .sendLow _ | .udpSend _ =>
        runtime.pushEvent env .error command.id command.opaqueVal uvEnotconn
    | _ => runtime
  runtime.destroyCommand command

end Skyuv.Socket
