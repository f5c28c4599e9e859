import Skyuv.Socket.Handlers

/-!
# The runtime as a transition system

Worker threads and the loop thread share the slot table and the command queue.
A worker step is one critical section or one access to the entry that the call
reserved.  A loop step is one libuv callback, one command, one slot of the scans
in `process_exit` and `skyuv_socket_runtime_release`, or one round of the pump
loop.  `skyuv_socket_runtime_poll` is split where it calls `uv_run`.

The guards of the callback labels are what libuv promises: no read, receive or
connection callback unless it was asked for, one completion per accepted
request, and the close callback once, after all of them.
-/

set_option autoImplicit false

namespace Skyuv.Socket

open TransitionSystem

/-- Where the loop thread is. -/
inductive LoopPc where
  | outside
  | running
  | consuming
  | exitScan (slot : Nat)
  | pumping
  | releaseScan (slot : Nat)
  | releaseRunning
  | released
  deriving DecidableEq, Repr

/-- Worker threads may still call into the runtime. -/
def LoopPc.live : LoopPc → Bool
  | .releaseScan _ | .releaseRunning | .released => false
  | _ => true

/-- libuv may deliver callbacks. -/
def LoopPc.inRun : LoopPc → Bool
  | .running | .releaseRunning => true
  | _ => false

/-- The four calls that allocate an id. -/
inductive OpenCall where
  | listen (host : Option String) (port backlog : Int)
  | connect (host : Option String) (port : Int)
  | bind (fd : Int)
  | udp (host : Option String) (port : Int)

/-- Where an id-allocating call is.  `discarding` to `deciding` are the parts of
`discard_uninitialized_entry`, ending in `update_exit_ready`. -/
inductive WorkerPc where
  | reserved
  | checked
  | built (command : Command)
  | submitted
  | discarding (result : Status)
  | unlinked (result : Status)
  | freed (result : Status)
  | deciding (result : Status) (ready : Bool)
  | done (result : Status) (id : Option Int)

def WorkerPc.isDone : WorkerPc → Bool
  | .done _ _ => true
  | _ => false

structure Worker where
  call : OpenCall
  opaqueVal : Nat
  key : Nat
  reservedId : Int
  pc : WorkerPc

inductive PollResult where
  | event (event : Event)
  | exit
  | failed (status : Status)
  deriving DecidableEq, Repr

/-- A send call that has returned. -/
structure SendRecord where
  token : Nat
  ownership : Ownership
  status : Status
  deriving DecidableEq, Repr

/-- Undefined behaviour of a worker thread: reading, discarding or freeing an
entry that was freed before, or freeing one whose handle the loop has opened. -/
inductive Fault where
  | read (key : Nat)
  | discard (key : Nat)
  | free (key : Nat)
  | freeOpen (key : Nat)
  deriving DecidableEq, Repr

structure State where
  runtime : Shared
  entries : List Entry
  commands : List Command
  accepting : Bool
  pc : LoopPc
  workers : List Worker
  nextToken : Nat
  sends : List SendRecord
  polled : List PollResult
  faults : List Fault

def State.init : State where
  runtime :=
    { table := .empty
      events := []
      pumpList := []
      exiting := false
      exitReady := false
      currentTime := 0
      hangup := ⟨false, false⟩
      interrupt := ⟨false, false⟩
      termination := ⟨false, false⟩
      signalsInitialized := false
      signalsFailed := false
      asyncClosing := false
      processShutdownRequested := false
      released := [] }
  entries := []
  commands := []
  accepting := true
  pc := .outside
  workers := []
  nextToken := 0
  sends := []
  polled := []
  faults := []

/-! ## Acting on one entry -/

/-- Everything that can happen to an entry that is in memory. -/
inductive Act where
  | command (command : Command) (env : Env)
  | pump (env : Env)
  | exitScan
  | releaseScan (slot : Nat)
  | readCompleted (nread : Int) (data : List UInt8) (env : Env)
  | udpReceived (nread : Int) (data : List UInt8) (address : Option SockAddr) (env : Env)
  | writeCompleted (status : Int) (env : Env)
  | udpWriteCompleted (index : Nat) (status : Int) (env : Env)
  | connectCompleted (status : Int) (env : Env)
  | acceptError (status : Int) (env : Env)
  | acceptStalled
  | acceptTaken
  | acceptDone (accepted : Int) (env : Env)
  | acceptInto (env : Env)
  | closeEntry
  | setExternalFd (fd : Int)
  | freeEntry

def Act.run (cfg : Config) : Act → Frame → Frame
  | .command cmd env, frame => frame.runCommand cfg env cmd
  | .pump env, frame => frame.pumpRound env
  | .exitScan, frame => frame.exitScan cfg
  | .releaseScan slot, frame => frame.releaseScan slot
  | .readCompleted nread data env, frame => frame.readCompleted env nread data
  | .udpReceived nread data address env, frame => frame.udpReceived env nread data address
  | .writeCompleted status env, frame => frame.writeCompleted env status
  | .udpWriteCompleted index status env, frame => frame.udpWriteCompleted env index status
  | .connectCompleted status env, frame => frame.connectCompleted env status
  | .acceptError status env, frame => frame.acceptError env status
  | .acceptStalled, frame => frame.acceptStalled
  | .acceptTaken, frame => frame.acceptTaken
  | .acceptDone accepted env, frame => frame.acceptTaken.acceptDone env accepted
  | .acceptInto env, frame => frame.acceptInto cfg env
  | .closeEntry, frame => frame.closeEntry cfg
  | .setExternalFd fd, frame => frame.modify fun entry => { entry with externalFd := fd }
  | .freeEntry, frame => frame.freeEntry

namespace State

/-- Runs an act on the entry at `key` and stores the result. -/
def focus (cfg : Config) (key : Nat) (act : Act) (state : State) : State :=
  match state.entries[key]? with
  | none => state
  | some entry =>
      let frame := act.run cfg ⟨key, entry, state.runtime⟩
      { state with runtime := frame.runtime, entries := state.entries.set key frame.entry }

def idOf (state : State) (key : Nat) : Option Int := state.entries[key]?.map Entry.id

def findEntry (cfg : Config) (id : Int) (state : State) : Option Nat :=
  state.runtime.table.find cfg state.idOf id

/-- `reserve_entry`: the key of the new entry. -/
def reserveEntry (cfg : Config) (env : Env) (opaqueVal : Nat) (state : State) :
    Option Int × State :=
  let (id, table) := state.runtime.table.reserve cfg env.node state.entries.length
  let state := { state with runtime := { state.runtime with table := table } }
  match id with
  | none => (none, state)
  | some id => (some id, { state with entries := state.entries ++ [Entry.fresh id opaqueVal] })

/-! ## Worker threads -/

/-- `skyuv_socket_command_queue_push`; the flag tells whether it was accepted. -/
def push (command : Command) (state : State) : Bool × State :=
  if state.accepting then (true, { state with commands := state.commands ++ [command] })
  else (false, state)

end State

def validPort (port : Int) : Bool := decide (0 ≤ port) && decide (port ≤ 65535)

def OpenCall.check (cfg : Config) : OpenCall → Status
  | .listen host port backlog =>
      if host.isNone || !validPort port || decide (backlog ≤ 0) then .invalidArgument else .ok
  | .connect host port => if host.isNone || !validPort port then .invalidArgument else .ok
  | .bind fd =>
      if !cfg.externalFd then .notSupported
      else if fd < 0 then .invalidArgument
      else .ok
  | .udp _ port => if !validPort port then .invalidArgument else .ok

def OpenCall.body : OpenCall → CommandBody
  | .listen host port backlog => .listen (host.getD "") port backlog
  | .connect host port => .connect (host.getD "") port
  | .bind fd => .bind fd
  | .udp host port => .udp (host.getD "0.0.0.0") port

/-- `copy_string` is needed for every call but `bind`. -/
def OpenCall.allocates (env : Env) : OpenCall → Bool
  | .bind _ => env.command
  | _ => env.command && env.data

namespace State

/-- The first part of an id-allocating call, up to the return of
`reserve_entry`.  A call that fails here has touched nothing but `next_slot`. -/
def openCall (cfg : Config) (call : OpenCall) (opaqueVal : Nat) (env : Env) (state : State) :
    State :=
  if call.check cfg ≠ .ok then state
  else
    match state.reserveEntry cfg env opaqueVal with
    | (none, state) => state
    | (some id, state) =>
        let pc := match call with
          | .bind _ => WorkerPc.reserved
          | _ => WorkerPc.checked
        { state with
          workers := state.workers ++ [⟨call, opaqueVal, state.entries.length - 1, id, pc⟩] }

/-- Another entry in the table already carries the descriptor. -/
def fdTaken (cfg : Config) (key : Nat) (fd : Int) (state : State) : Bool :=
  (List.range cfg.slotCount).any fun slot =>
    match state.runtime.table.slots slot with
    | none => false
    | some other =>
        other != key && (state.entries[other]?.map fun entry => entry.externalFd) == some fd

/-- A worker dereferences the entry it reserved.  After `free` this is
undefined behaviour, and the run ends there. -/
def access (key : Nat) (fault : Fault) (next : Entry → State) (state : State) : Option State :=
  state.entries[key]?.map fun entry =>
    if entry.freed then { state with faults := state.faults ++ [fault] } else next entry

def setWorker (index : Nat) (worker : Worker) (pc : WorkerPc) (state : State) : State :=
  { state with workers := state.workers.set index { worker with pc := pc } }

/-- The next step of an id-allocating call. -/
def workerStep (cfg : Config) (index : Nat) (worker : Worker) (env : Env) (state : State) :
    Option State :=
  match worker.pc with
  | .reserved =>
      match worker.call with
      | .bind fd =>
          if state.fdTaken cfg worker.key fd then
            some (state.setWorker index worker (.discarding .invalidState))
          else
            state.access worker.key (.read worker.key) fun _ =>
              (state.focus cfg worker.key (.setExternalFd fd)).setWorker index worker .checked
      | _ => some (state.setWorker index worker .checked)
  | .checked =>
      if worker.call.allocates env then
        state.access worker.key (.read worker.key) fun entry =>
          state.setWorker index worker (.built ⟨entry.id, worker.opaqueVal, worker.call.body⟩)
      else some (state.setWorker index worker (.discarding .outOfMemory))
  | .built command =>
      match state.push command with
      | (true, state) => some (state.setWorker index worker .submitted)
      | (false, state) => some (state.setWorker index worker (.discarding .invalidState))
  | .submitted =>
      state.access worker.key (.read worker.key) fun entry =>
        state.setWorker index worker (.done .ok (some entry.id))
  | .discarding result =>
      state.access worker.key (.discard worker.key) fun entry =>
        { state with
          runtime := { state.runtime with
            table := state.runtime.table.unlink cfg worker.key entry.id } }.setWorker
          index worker (.unlinked result)
  | .unlinked result =>
      state.access worker.key (.free worker.key) fun entry =>
        if entry.initialized then
          { state with faults := state.faults ++ [.freeOpen worker.key] }
        else (state.focus cfg worker.key .freeEntry).setWorker index worker (.freed result)
  | .freed result =>
      some (state.setWorker index worker (.deciding result
        (state.runtime.exiting && state.runtime.table.entryCount == 0)))
  | .deciding result ready =>
      let state := if ready then
          { state with runtime := { state.runtime with exitReady := true } }
        else state
      some (state.setWorker index worker (.done result none))
  | .done _ _ => none

end State

/-- The calls that only build a command and push it. -/
inductive ApiCall where
  | start (id : Int) (opaqueVal : Nat)
  | pause (id : Int) (opaqueVal : Nat)
  | nodelay (id : Int)
  | close (id : Int) (opaqueVal : Nat)
  | shutdown (id : Int) (opaqueVal : Nat)
  | udpConnect (id : Int) (host : Option String) (port : Int)
  | send (id : Int) (dataNull : Bool) (size : Nat) (ownership : Ownership) (callback : Bool)
      (low : Bool)
  | udpSend (id : Int) (address : List UInt8) (dataNull : Bool) (size : Nat)
      (ownership : Ownership) (callback : Bool)
  | exit
  | updatetime (time : Nat)

namespace State

/-- `start`, `pause`, `nodelay`, `close`, `shutdown`: check the id, allocate the
command, push it, free it when the queue is stopped. -/
def submitPlain (env : Env) (command : Command) (state : State) : State :=
  if command.id ≤ 0 then state
  else if !env.command then state
  else (state.push command).2

/-- `runtime_send` and `skyuv_socket_runtime_udp_send` after their argument
checks.  A borrowed buffer is copied, so the token then stands for the copy,
which the runtime frees itself when the call fails. -/
def submitSend (env : Env) (id : Int) (size : Nat) (ownership : Ownership) (callback : Bool)
    (address : List UInt8) (body : SendPayload → CommandBody) (state : State) : State :=
  let token := state.nextToken
  let buffer : Buffer := ⟨token, size, decide (ownership = .owned) && callback⟩
  let returned (status : Status) (state : State) : State :=
    { state with nextToken := token + 1, sends := state.sends ++ [⟨token, ownership, status⟩] }
  let freeCopy (state : State) : State :=
    if ownership = .borrowed then { state with runtime := state.runtime.release buffer }
    else state
  if ownership = .borrowed ∧ env.data = false then returned .outOfMemory state
  else if !env.command then returned .outOfMemory (freeCopy state)
  else
    match state.push ⟨id, 0, body ⟨buffer, .owned, address⟩⟩ with
    | (true, state) => returned .ok state
    | (false, state) => returned .invalidState (freeCopy state)

def api (call : ApiCall) (env : Env) (state : State) : State :=
  match call with
  | .start id opaqueVal => state.submitPlain env ⟨id, opaqueVal, .start⟩
  | .pause id opaqueVal => state.submitPlain env ⟨id, opaqueVal, .pause⟩
  | .nodelay id => state.submitPlain env ⟨id, 0, .nodelay⟩
  | .close id opaqueVal => state.submitPlain env ⟨id, opaqueVal, .close⟩
  | .shutdown id opaqueVal => state.submitPlain env ⟨id, opaqueVal, .shutdown⟩
  | .udpConnect id host port =>
      match host with
      | none => state
      | some host =>
          if !validPort port || !env.data then state
          else state.submitPlain env ⟨id, 0, .udpConnect host port⟩
  | .send id dataNull size ownership callback low =>
      if id ≤ 0 ∨ dataNull ∨ size = 0 ∨ size > uintMax then
        { state with
          nextToken := state.nextToken + 1
          sends := state.sends ++ [⟨state.nextToken, ownership, .invalidArgument⟩] }
      else
        state.submitSend env id size ownership callback []
          (if low then CommandBody.sendLow else CommandBody.send)
  | .udpSend id address dataNull size ownership callback =>
      if id ≤ 0 ∨ (dataNull ∧ size > 0) ∨ size > uintMax ∨
          (address.length ≠ 0 ∧ address.length ≠ 7 ∧ address.length ≠ 19) then
        { state with
          nextToken := state.nextToken + 1
          sends := state.sends ++ [⟨state.nextToken, ownership, .invalidArgument⟩] }
      else state.submitSend env id size ownership callback address .udpSend
  | .exit =>
      if !env.command || !state.accepting then state
      else { state with accepting := false, commands := state.commands ++ [⟨0, 0, .exit⟩] }
  | .updatetime time => { state with runtime := { state.runtime with currentTime := time } }

/-! ## The loop thread -/

/-- Some handle keeps `uv_run` going: the async handle, a signal handle, or an
entry whose close callback has not run. -/
def loopAlive (state : State) : Bool :=
  !state.runtime.asyncClosing ||
    (state.runtime.hangup.initialized && !state.runtime.hangup.closing) ||
    (state.runtime.interrupt.initialized && !state.runtime.interrupt.closing) ||
    (state.runtime.termination.initialized && !state.runtime.termination.closing) ||
    state.entries.any fun entry => entry.initialized && !entry.freed

end State

/-- `close_process_signal`. -/
def closeProcessSignal (handle : SignalHandle) : SignalHandle :=
  if handle.initialized && !handle.closing then { handle with closing := true } else handle

namespace Shared

def closeProcessSignals (runtime : Shared) : Shared :=
  { runtime with
    termination := closeProcessSignal runtime.termination
    interrupt := closeProcessSignal runtime.interrupt
    hangup := closeProcessSignal runtime.hangup }

def signalHandle (signal : Signal) (runtime : Shared) : SignalHandle :=
  match signal with
  | .hangup => runtime.hangup
  | .interrupt => runtime.interrupt
  | .termination => runtime.termination

def setInitialized (signal : Signal) (runtime : Shared) : Shared :=
  match signal with
  | .hangup => { runtime with hangup := { runtime.hangup with initialized := true } }
  | .interrupt => { runtime with interrupt := { runtime.interrupt with initialized := true } }
  | .termination =>
      { runtime with termination := { runtime.termination with initialized := true } }

/-- `initialize_process_signal`; `true` when it returned `0`. -/
def initializeProcessSignal (env : Env) (signal : Signal) (runtime : Shared) : Bool × Shared :=
  if env.uv (.signalInit signal) ≠ 0 then (false, runtime)
  else (decide (env.uv (.signalStart signal) = 0), runtime.setInitialized signal)

def initializeProcessSignals (env : Env) (runtime : Shared) : Shared :=
  if runtime.signalsInitialized then runtime
  else
    let runtime := { runtime with signalsInitialized := true }
    let failed (runtime : Shared) : Shared :=
      { runtime.closeProcessSignals with signalsFailed := true }
    match runtime.initializeProcessSignal env .hangup with
    | (false, runtime) => failed runtime
    | (true, runtime) =>
        match runtime.initializeProcessSignal env .interrupt with
        | (false, runtime) => failed runtime
        | (true, runtime) =>
            match runtime.initializeProcessSignal env .termination with
            | (false, runtime) => failed runtime
            | (true, runtime) => runtime

/-- `on_hangup_signal` and `on_termination_signal`. -/
def onSignal (cfg : Config) (env : Env) (signal : Signal) (runtime : Shared) : Shared :=
  if signal = .hangup ∧ cfg.windows = false then runtime.pushEvent env .reopenLog 0 0 0
  else { runtime with processShutdownRequested := true }.pushEvent env .processShutdown 0 0 0

end Shared

namespace State

/-- `skyuv_socket_runtime_poll` where it looks at the event queue and at
`exit_ready`; with neither, `otherwise`. -/
def pollReady (state otherwise : State) : State :=
  match state.runtime.events with
  | event :: rest =>
      { state with
        runtime := { state.runtime with events := rest }
        polled := state.polled ++ [.event event]
        pc := .outside }
  | [] =>
      if state.runtime.exitReady then
        { state with
          runtime := { state.runtime with exitReady := false }
          polled := state.polled ++ [.exit]
          pc := .outside }
      else otherwise

/-- Entering `skyuv_socket_runtime_poll`. -/
def poll (env : Env) (state : State) : State :=
  let state := { state with runtime := state.runtime.initializeProcessSignals env }
  if state.runtime.signalsFailed then
    { state with polled := state.polled ++ [.failed .system] }
  else state.pollReady { state with pc := .running }

/-- `uv_run(UV_RUN_ONCE)` has returned, with `0` when `idle`. -/
def runReturned (idle : Bool) (state : State) : State :=
  state.pollReady
    (if idle then { state with polled := state.polled ++ [.failed .invalidState], pc := .outside }
    else state)

/-- One iteration of the command loop in `consume_commands`. -/
def consumeCommand (cfg : Config) (env : Env) (command : Command) (rest : List Command)
    (state : State) : State :=
  let state := { state with commands := rest }
  match command.body with
  | .exit => { state with runtime := { state.runtime with exiting := true }, pc := .exitScan 0 }
  | _ =>
      match state.findEntry cfg command.id with
      | none => { state with runtime := processUnknown env command state.runtime }
      | some key => state.focus cfg key (.command command env)

/-- One slot of `process_exit`, or its tail once every slot was visited. -/
def exitStep (cfg : Config) (slot : Nat) (state : State) : State :=
  if slot < cfg.slotCount then
    let state := { state with pc := .exitScan (slot + 1) }
    match state.runtime.table.slots slot with
    | none => state
    | some key => state.focus cfg key .exitScan
  else
    { state with
      runtime :=
        ({ state.runtime.closeProcessSignals with asyncClosing := true }).updateExitReady
      pc := .consuming }

def pumpStep (cfg : Config) (env : Env) (key : Nat) (rest : List Nat) (state : State) : State :=
  { state with runtime := { state.runtime with pumpList := rest } }.focus cfg key (.pump env)

/-- `accept_connection`. -/
def acceptConnection (cfg : Config) (key : Nat) (listener : Entry) (status : Int) (env : Env)
    (state : State) : State :=
  if status < 0 then state.focus cfg key (.acceptError status env)
  else
    match state.reserveEntry cfg env listener.opaqueVal with
    | (none, state) => state.focus cfg key .acceptStalled
    | (some id, reserved) =>
        let state := reserved.focus cfg state.entries.length (.acceptInto env)
        if env.uv .tcpInit ≠ 0 then state.focus cfg key .acceptStalled
        else if env.uv .accept ≠ 0 then state.focus cfg key .acceptTaken
        else state.focus cfg key (.acceptDone id env)

/-- One slot of `skyuv_socket_runtime_release`, or the closing of the runtime's
own handles once every slot was visited. -/
def releaseStep (cfg : Config) (slot : Nat) (state : State) : State :=
  if slot < cfg.slotCount then
    let state := { state with pc := .releaseScan (slot + 1) }
    match state.runtime.table.slots slot with
    | none => state
    | some key => state.focus cfg key (.releaseScan slot)
  else
    { state with
      runtime := { state.runtime with asyncClosing := true }.closeProcessSignals
      pc := .releaseRunning }

/-- The end of `skyuv_socket_runtime_release`: the queue and the events go. -/
def releaseDone (state : State) : State :=
  { state with
    runtime := { state.commands.foldl (fun runtime command => runtime.destroyCommand command)
      state.runtime with events := [] }
    commands := []
    accepting := false
    pc := .released }

end State

inductive Label where
  | api (call : ApiCall) (env : Env)
  | openCall (call : OpenCall) (opaqueVal : Nat) (env : Env)
  | worker (index : Nat) (env : Env)
  | poll (env : Env)
  | runReturned (idle : Bool)
  | wakeup
  | command (env : Env)
  | commandsDone
  | exitStep
  | pump (env : Env)
  | pumpDone
  | readCompleted (key : Nat) (nread : Int) (data : List UInt8) (env : Env)
  | udpReceived (key : Nat) (nread : Int) (data : List UInt8) (address : Option SockAddr)
      (env : Env)
  | writeCompleted (key : Nat) (status : Int) (env : Env)
  | udpWriteCompleted (key index : Nat) (status : Int) (env : Env)
  | connectCompleted (key : Nat) (status : Int) (env : Env)
  | acceptConnection (key : Nat) (status : Int) (env : Env)
  | closeEntry (key : Nat)
  | signal (signal : Signal) (env : Env)
  | release
  | releaseStep
  | releaseDone

/-- What libuv guarantees of the entry when it runs a callback. -/
def Act.deliverable : Act → Entry → Bool
  | .readCompleted nread data _, entry =>
      entry.uvReading && decide (nread > 0 → data.length = nread.toNat)
  | .udpReceived nread data _ _, entry =>
      entry.uvReceiving && decide (nread ≥ 0 → data.length = nread.toNat)
  | .writeCompleted _ _, entry => !entry.uvWrites.isEmpty
  | .udpWriteCompleted index _ _, entry => decide (index < entry.uvUdpSends.length)
  | .connectCompleted _ _, entry => entry.uvConnecting
  | .closeEntry, entry =>
      entry.uvClosing && !entry.freed && entry.uvWrites.isEmpty && entry.uvUdpSends.isEmpty &&
        !entry.uvConnecting
  | _, _ => false

namespace State

/-- A callback on the handle of the entry at `key`. -/
def callback (cfg : Config) (key : Nat) (act : Act) (state : State) : Option State :=
  match state.entries[key]? with
  | none => none
  | some entry =>
      if state.pc.inRun && act.deliverable entry then some (state.focus cfg key act) else none

end State

/-- A step of a run that is still defined. -/
def liveStep (cfg : Config) (state : State) : Label → Option State
  | .api call env => if state.pc.live then some (state.api call env) else none
  | .openCall call opaqueVal env =>
      if state.pc.live then some (state.openCall cfg call opaqueVal env) else none
  | .worker index env =>
      if state.pc.live then
        state.workers[index]?.bind fun worker => state.workerStep cfg index worker env
      else none
  | .poll env => if state.pc = .outside then some (state.poll env) else none
  | .runReturned idle =>
      if state.pc = .running && !(idle && state.loopAlive) then some (state.runReturned idle)
      else none
  | .wakeup =>
      if state.pc = .running && !state.runtime.asyncClosing then
        some { state with pc := .consuming }
      else none
  | .command env =>
      if state.pc = .consuming then
        match state.commands with
        | [] => none
        | command :: rest => some (state.consumeCommand cfg env command rest)
      else none
  | .commandsDone =>
      if state.pc = .consuming && state.commands.isEmpty then some { state with pc := .pumping }
      else none
  | .exitStep =>
      match state.pc with
      | .exitScan slot => some (state.exitStep cfg slot)
      | _ => none
  | .pump env =>
      if state.pc = .pumping then
        match state.runtime.pumpList with
        | [] => none
        | key :: rest => some (state.pumpStep cfg env key rest)
      else none
  | .pumpDone =>
      if state.pc = .pumping && state.runtime.pumpList.isEmpty then
        some { state with pc := .running }
      else none
  | .readCompleted key nread data env => state.callback cfg key (.readCompleted nread data env)
  | .udpReceived key nread data address env =>
      state.callback cfg key (.udpReceived nread data address env)
  | .writeCompleted key status env => state.callback cfg key (.writeCompleted status env)
  | .udpWriteCompleted key index status env =>
      state.callback cfg key (.udpWriteCompleted index status env)
  | .connectCompleted key status env => state.callback cfg key (.connectCompleted status env)
  | .closeEntry key => state.callback cfg key .closeEntry
  | .acceptConnection key status env =>
      match state.entries[key]? with
      | none => none
      | some listener =>
          if state.pc.inRun && listener.uvListening then
            some (state.acceptConnection cfg key listener status env)
          else none
  | .signal signal env =>
      if state.pc = .running && (state.runtime.signalHandle signal).initialized &&
          !(state.runtime.signalHandle signal).closing then
        some { state with runtime := state.runtime.onSignal cfg env signal }
      else none
  | .release =>
      if state.pc = .outside && state.workers.all fun worker => worker.pc.isDone then
        some { state with pc := .releaseScan 0 }
      else none
  | .releaseStep =>
      match state.pc with
      | .releaseScan slot => some (state.releaseStep cfg slot)
      | _ => none
  | .releaseDone =>
      if state.pc = .releaseRunning && !state.loopAlive then some state.releaseDone else none

/-- A run ends at the first undefined behaviour. -/
def step (cfg : Config) (state : State) (label : Label) : Option State :=
  if state.faults.isEmpty then liveStep cfg state label else none

def socketSystem (cfg : Config) : System State Label where
  init := State.init
  step := step cfg

end Skyuv.Socket
