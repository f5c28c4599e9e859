import Skyuv.Socket.Accept
import Skyuv.Socket.Calls

/-!
# Dialling a UDP peer

`socket_server_udp_dial` is two calls, one that reserves a socket and one that
queues the default target for it.  When the second fails, the first stays done.

To say what a leak is, the commands in the queue are run to the end by
`processQueue`.  Two states with the same sockets keep them the same there, whatever
else the loop finds in the runtime.
-/

set_option autoImplicit false

namespace Skyuv.Socket

open TransitionSystem

/-! ## The calls -/

namespace State

/-- `skyuv_socket_runtime_udp_connect`. -/
def runtimeUdpConnect (id : Int) (host : Option String) (port : Int) (env : Env) (state : State) :
    Status × State :=
  match host with
  | none => (.invalidArgument, state)
  | some host =>
      if decide (id ≤ 0) || !validPort port then (.invalidArgument, state)
      else if !(env.command && env.data) then (.outOfMemory, state)
      else
        match state.push ⟨id, 0, .udpConnect host port⟩ with
        | (true, state) => (.ok, state)
        | (false, state) => (.invalidState, state)

/-- `socket_server_udp`. -/
def socketServerUdp (cfg : Config) (opaqueVal : Nat) (address : Option String) (port : Int)
    (env : Env) (state : State) : Int × State :=
  match state.runtimeUdp cfg address port opaqueVal false env with
  | ⟨.ok, some id, state⟩ => (id, state)
  | ⟨_, _, state⟩ => (-1, state)

/-- `socket_server_udp_connect`. -/
def socketServerUdpConnect (id : Int) (address : Option String) (port : Int) (env : Env)
    (state : State) : Int × State :=
  match state.runtimeUdpConnect id address port env with
  | (.ok, state) => (0, state)
  | (_, state) => (-1, state)

/-- `socket_server_udp_dial`; each of its two calls finds its own answers. -/
def socketServerUdpDial (cfg : Config) (opaqueVal : Nat) (address : Option String) (port : Int)
    (first second : Env) (state : State) : Int × State :=
  let bindHost := if address.any fun text => text.toList.contains ':' then some "::" else none
  match state.socketServerUdp cfg opaqueVal bindHost 0 first with
  | (id, state) =>
      if id < 0 then (-1, state)
      else
        match state.socketServerUdpConnect id address port second with
        | (connected, state) => if connected ≠ 0 then (-1, state) else (id, state)

theorem runtimeUdpConnect_api (id : Int) (host : Option String) (port : Int) (env : Env)
    (state : State) : (state.runtimeUdpConnect id host port env).2 =
      state.api (.udpConnect id host port) env := by
  cases host with
  | none => rfl
  | some host =>
      simp only [runtimeUdpConnect, api, submitPlain, push]
      by_cases positive : id ≤ 0 <;> cases validPort port <;> cases env.command <;>
        cases env.data <;> cases state.accepting <;> simp [positive]

/-! ## The queue is processed -/

/-- `process_exit`, every slot and the tail. -/
def processExit (cfg : Config) (state : State) : State :=
  (List.range (cfg.slotCount + 1)).foldl (fun state slot => state.exitStep cfg slot) state

/-- The command loop of `consume_commands`, with an answer for every command. -/
def processCommands (cfg : Config) (env : Nat → Env) : List Command → State → State
  | [], state => state
  | command :: rest, state =>
      let state := state.consumeCommand cfg (env rest.length) command rest
      processCommands cfg env rest
        (match command.body with
        | .exit => state.processExit cfg
        | _ => state)

def processQueue (cfg : Config) (env : Nat → Env) (state : State) : State :=
  state.processCommands cfg env state.commands

/-- The steps of the loop thread that this takes. -/
def queueLabels (cfg : Config) (env : Nat → Env) : List Command → List Label
  | [] => []
  | command :: rest =>
      .command (env rest.length) ::
        ((match command.body with
          | .exit => List.replicate (cfg.slotCount + 1) .exitStep
          | _ => []) ++ queueLabels cfg env rest)

/-- Between two commands of the loop. -/
structure Consuming (state : State) (commands : List Command) : Prop where
  defined : state.faults = []
  pc : state.pc = .consuming
  commands : state.commands = commands

theorem exitStep_run {cfg : Config} {commands : List Command} (count : Nat) {slot : Nat}
    {state : State} (defined : state.faults = []) (scanning : state.pc = .exitScan slot)
    (queued : state.commands = commands) (left : slot + count = cfg.slotCount) :
    ∃ final, (socketSystem cfg).exec state (List.replicate (count + 1) .exitStep) = some final ∧
      final = (List.range' slot (count + 1)).foldl
        (fun state slot => state.exitStep cfg slot) state ∧
      final.Consuming commands := by
  have first : step cfg state .exitStep = some (state.exitStep cfg slot) := by
    simp [step, liveStep, defined, scanning]
  induction count generalizing slot state with
  | zero =>
      have last : ¬ slot < cfg.slotCount := by omega
      refine ⟨state.exitStep cfg slot, Option.bind_eq_some_iff.mpr ⟨_, first, rfl⟩, rfl, ?_⟩
      simp only [exitStep, last, if_false]
      exact ⟨defined, rfl, queued⟩
  | succ count ih =>
      have inside : slot < cfg.slotCount := by omega
      have moved : (state.exitStep cfg slot).faults = [] ∧
          (state.exitStep cfg slot).pc = .exitScan (slot + 1) ∧
          (state.exitStep cfg slot).commands = commands := by
        simp only [exitStep, inside, if_true]
        split
        · exact ⟨defined, rfl, queued⟩
        · simp [defined, queued]
      obtain ⟨final, run, result, consuming⟩ := ih moved.1 moved.2.1 moved.2.2 (by omega)
        (by simp [step, liveStep, moved])
      exact ⟨final, Option.bind_eq_some_iff.mpr ⟨_, first, run⟩, result, consuming⟩

/-- `processCommands` is a run of the loop thread. -/
theorem processCommands_run {cfg : Config} (env : Nat → Env) {commands : List Command}
    {state : State} (consuming : state.Consuming commands) :
    (socketSystem cfg).exec state (queueLabels cfg env commands) =
        some (state.processCommands cfg env commands) ∧
      (state.processCommands cfg env commands).Consuming [] := by
  induction commands generalizing state with
  | nil => exact ⟨rfl, consuming⟩
  | cons command rest ih =>
      have first : step cfg state (.command (env rest.length)) =
          some (state.consumeCommand cfg (env rest.length) command rest) := by
        simp [step, liveStep, consuming.defined, consuming.pc, consuming.commands]
      by_cases exit : command.body = .exit
      · have begun : state.consumeCommand cfg (env rest.length) command rest =
            { state with
              commands := rest
              runtime := { state.runtime with exiting := true }
              pc := .exitScan 0 } := by simp [consumeCommand, exit]
        have defined : (state.consumeCommand cfg (env rest.length) command rest).faults = [] := by
          rw [begun]
          exact consuming.defined
        have scanning : (state.consumeCommand cfg (env rest.length) command rest).pc =
            .exitScan 0 := by rw [begun]
        have popped : (state.consumeCommand cfg (env rest.length) command rest).commands =
            rest := by rw [begun]
        obtain ⟨final, scan, rfl, settled⟩ :=
          exitStep_run cfg.slotCount defined scanning popped (Nat.zero_add _)
        rw [← List.range_eq_range'] at scan settled
        obtain ⟨tail, ended⟩ := ih settled
        simp only [queueLabels, processCommands, exit]
        refine ⟨Option.bind_eq_some_iff.mpr ⟨_, first, ?_⟩, ended⟩
        rw [System.exec_append, scan]
        exact tail
      · have settled : (state.consumeCommand cfg (env rest.length) command rest).Consuming
            rest := by
          rw [consumeCommand_other cfg (env rest.length) rest state exit]
          split
          · exact ⟨consuming.defined, consuming.pc, rfl⟩
          · exact ⟨by simp [consuming.defined], by simp [consuming.pc], by simp⟩
        obtain ⟨tail, ended⟩ := ih settled
        simp only [queueLabels, processCommands]
        exact ⟨Option.bind_eq_some_iff.mpr ⟨_, first, tail⟩, ended⟩

theorem processCommands_run_exit : ∃ state : State, state.commands = [⟨0, 0, .exit⟩] ∧
    (socketSystem fourSlots).exec state (queueLabels fourSlots (fun _ => .fine) state.commands) =
      some (state.processCommands fourSlots (fun _ => .fine) state.commands) :=
  ⟨{ State.init with pc := .consuming, commands := [⟨0, 0, .exit⟩] }, rfl,
    (processCommands_run _ ⟨rfl, rfl, rfl⟩).1⟩

/-- The socket in each slot. -/
def sockets (state : State) (slot : Nat) : Option Entry :=
  (state.runtime.table.slots slot).bind fun key => state.entries[key]?

end State

/-! ## Handlers look at the entry only -/

namespace Frame

/-- Two frames that differ in the runtime around the entry, but not in the slots. -/
structure Alike (left right : Frame) : Prop where
  key : right.key = left.key
  entry : right.entry = left.entry
  slots : right.runtime.table.slots = left.runtime.table.slots

namespace Alike

variable {cfg : Config} {env : Env} {left right : Frame}

theorem modify (alike : Alike left right) (change : Entry → Entry) :
    Alike (left.modify change) (right.modify change) :=
  ⟨alike.key, congrArg change alike.entry, alike.slots⟩

theorem pushEvent (alike : Alike left right) (site : Site) (type : EventType) (id : Int)
    (opaqueVal : Nat) (value : Int) :
    Alike (left.pushEvent env site type id opaqueVal value)
      (right.pushEvent env site type id opaqueVal value) :=
  ⟨alike.key, by simp only [Frame.pushEvent, alike.entry], alike.slots⟩

theorem uvClose (alike : Alike left right) : Alike left.uvClose right.uvClose :=
  alike.modify _

/-- An event that names the entry. -/
theorem tell (alike : Alike left right) (site : Site) (type : EventType) (value : Int) :
    Alike (left.pushEvent env site type left.entry.id left.entry.opaqueVal value)
      (right.pushEvent env site type right.entry.id right.entry.opaqueVal value) := by
  rw [alike.entry]
  exact alike.pushEvent site type _ _ value

theorem cacheTcpName (alike : Alike left right) (name : Option TcpName) :
    Alike (left.cacheTcpName name) (right.cacheTcpName name) := by
  cases name with
  | none => exact alike
  | some name =>
      simp only [Frame.cacheTcpName]
      exact alike.modify _

theorem startReading (alike : Alike left right) :
    Alike (left.startReading env) (right.startReading env) := by
  unfold Frame.startReading
  split
  · exact alike.modify _
  · exact alike

theorem rejectEntry (alike : Alike left right) (error : Int) :
    Alike (left.rejectEntry env error) (right.rejectEntry env error) :=
  ((alike.tell _ _ _).modify _).uvClose

/-- Unlinking looks at the slots, and at nothing else in the table. -/
theorem discardUninitializedEntry (alike : Alike left right) :
    Alike (left.discardUninitializedEntry cfg) (right.discardUninitializedEntry cfg) := by
  have settled (runtime : Shared) :
      runtime.updateExitReady.table.slots = runtime.table.slots := by
    obtain ⟨ready, same⟩ := updateExitReady_eq runtime
    rw [same]
  refine ⟨alike.key, ?_, ?_⟩
  · simp only [Frame.discardUninitializedEntry, Frame.updateExitReady, Frame.freeEntry,
      Frame.unlinkEntry, modify_entry, alike.entry]
  · simp only [Frame.discardUninitializedEntry, Frame.updateExitReady, Frame.freeEntry,
      Frame.unlinkEntry, modify_runtime, settled, alike.key, alike.entry, SlotTable.unlink,
      alike.slots]
    split
    · rfl
    · exact alike.slots

theorem failUninitialized (alike : Alike left right) (error : Int) :
    Alike (left.failUninitialized cfg env error) (right.failUninitialized cfg env error) :=
  (alike.tell _ _ _).discardUninitializedEntry

theorem closeAfterWrites (alike : Alike left right) :
    Alike left.closeAfterWrites right.closeAfterWrites := by
  unfold Frame.closeAfterWrites
  rw [alike.entry]
  split
  · exact alike
  · exact (alike.modify _).uvClose

theorem processListen (alike : Alike left right) (host : String) (port : Int) :
    Alike (left.processListen cfg env host port) (right.processListen cfg env host port) := by
  unfold Frame.processListen
  rw [alike.entry]
  split
  · exact alike
  · have pending : Alike (left.setEntryState .listenPending) (right.setEntryState .listenPending) :=
      alike.modify _
    cases env.parseAddress host port with
    | error error => exact pending.failUninitialized error
    | ok address =>
        dsimp only
        split
        · exact pending.failUninitialized _
        · split
          · exact (pending.modify _).rejectEntry _
          · split
            · exact (pending.modify _).rejectEntry _
            · exact ((((pending.modify _).modify _).modify _).cacheTcpName _).tell _ _ _

theorem processConnect (alike : Alike left right) (host : String) (port : Int) :
    Alike (left.processConnect cfg env host port) (right.processConnect cfg env host port) := by
  unfold Frame.processConnect
  rw [alike.entry]
  split
  · exact alike
  · cases env.parseAddress host port with
    | error error => exact alike.failUninitialized error
    | ok address =>
        dsimp only
        split
        · exact alike.failUninitialized _
        · split
          · exact ((alike.modify _).modify _).rejectEntry _
          · exact ((alike.modify _).modify _).modify _

theorem processBind (alike : Alike left right) :
    Alike (left.processBind cfg env) (right.processBind cfg env) := by
  unfold Frame.processBind
  rw [alike.entry]
  split
  · exact alike
  · split
    · exact alike
    · split
      · exact alike.failUninitialized _
      · dsimp only
        split
        · exact (alike.modify _).rejectEntry _
        · split
          · exact (alike.modify _).startReading.rejectEntry _
          · exact (((alike.modify _).startReading.modify _).cacheTcpName _).tell _ _ _

theorem processUdp (alike : Alike left right) (host : String) (port : Int) :
    Alike (left.processUdp cfg env host port) (right.processUdp cfg env host port) := by
  unfold Frame.processUdp
  rw [alike.entry]
  split
  · exact alike
  · cases env.parseAddress host port with
    | error error => exact alike.failUninitialized error
    | ok address =>
        dsimp only
        split
        · exact (alike.modify _).failUninitialized _
        · split
          · exact ((alike.modify _).modify _).rejectEntry _
          · split
            · exact ((alike.modify _).modify _).rejectEntry _
            · exact (((alike.modify _).modify _).modify _).modify _

theorem processUdpConnect (alike : Alike left right) (host : String) (port : Int) :
    Alike (left.processUdpConnect env host port) (right.processUdpConnect env host port) := by
  unfold Frame.processUdpConnect
  rw [alike.entry]
  split
  · exact alike
  · cases env.parseAddress host port with
    | error error => exact alike
    | ok address => exact alike.modify _

theorem processStart (alike : Alike left right) (command : Command) :
    Alike (left.processStart env command) (right.processStart env command) := by
  have owned : Alike (left.setOpaque command.opaqueVal) (right.setOpaque command.opaqueVal) :=
    alike.modify _
  unfold Frame.processStart
  rw [alike.entry]
  split
  · exact owned.tell _ _ _
  · split
    · exact alike.pushEvent _ _ _ _ _
    · dsimp only
      split
      · exact owned.startReading.rejectEntry _
      · exact (owned.startReading.modify _).tell _ _ _

theorem processPause (alike : Alike left right) :
    Alike (left.processPause env) (right.processPause env) := by
  have stopped : Alike (left.uvReadStop env) (right.uvReadStop env) := alike.modify _
  unfold Frame.processPause
  rw [alike.entry]
  split
  · exact alike
  · dsimp only
    split
    · exact stopped.tell _ _ _
    · exact (stopped.modify _).modify _

theorem processUdpSend (alike : Alike left right) (command : Command) (payload : SendPayload) :
    Alike (left.processUdpSend env command payload).1 (right.processUdpSend env command payload).1 ∧
      (right.processUdpSend env command payload).2 =
        (left.processUdpSend env command payload).2 := by
  unfold Frame.processUdpSend
  rw [alike.entry]
  split
  · exact ⟨alike.pushEvent _ _ _ _ _, rfl⟩
  · cases udpTargetOf payload.address left.entry with
    | error error => exact ⟨alike.pushEvent _ _ _ _ _, rfl⟩
    | ok target =>
        dsimp only
        split
        · exact ⟨alike.pushEvent _ _ _ _ _, rfl⟩
        · split
          · exact ⟨alike.pushEvent _ _ _ _ _, rfl⟩
          · refine ⟨?_, rfl⟩
            dsimp only
            exact alike.modify _

theorem countQueued (alike : Alike left right) (buffer : Buffer) :
    Alike (left.countQueued env buffer) (right.countQueued env buffer) := by
  have counted := alike.modify fun entry =>
    { entry with queuedBytes := entry.queuedBytes + buffer.size }
  unfold Frame.countQueued
  dsimp only
  rw [counted.entry]
  split
  · exact (counted.modify _).tell _ _ _
  · exact counted

theorem listForPump (alike : Alike left right) : Alike left.listForPump right.listForPump := by
  unfold Frame.listForPump
  rw [alike.entry]
  split
  · exact ⟨alike.key, rfl, alike.slots⟩
  · exact alike

theorem queueWrite (alike : Alike left right) (low : Bool) (buffer : Buffer) :
    Alike (left.queueWrite low buffer) (right.queueWrite low buffer) := by
  unfold Frame.queueWrite
  dsimp only
  split
  · exact (alike.modify _).modify _
  · exact (alike.modify _).modify _

theorem processSend (alike : Alike left right) (command : Command) (low : Bool)
    (payload : SendPayload) :
    Alike (left.processSend env command low payload).1
        (right.processSend env command low payload).1 ∧
      (right.processSend env command low payload).2 =
        (left.processSend env command low payload).2 := by
  unfold Frame.processSend
  rw [alike.entry]
  split
  · exact alike.processUdpSend command payload
  · split
    · exact ⟨alike.pushEvent _ _ _ _ _, rfl⟩
    · split
      · exact ⟨alike.pushEvent _ _ _ _ _, rfl⟩
      · split
        · exact ⟨alike.pushEvent _ _ _ _ _, rfl⟩
        · exact ⟨((alike.queueWrite low payload.buffer).countQueued payload.buffer).listForPump,
            rfl⟩

theorem announceClose (alike : Alike left right) (command : Command) :
    Alike (left.announceClose env command) (right.announceClose env command) := by
  have told : Alike ((left.note [.closeCommand command.opaqueVal]).setOpaque command.opaqueVal)
      ((right.note [.closeCommand command.opaqueVal]).setOpaque command.opaqueVal) :=
    (alike.modify _).modify _
  unfold Frame.announceClose
  dsimp only
  rw [told.entry]
  split
  · exact told.pushEvent _ _ _ _ _
  · exact told

theorem processClose (alike : Alike left right) (command : Command) (isClose : Bool) :
    Alike (left.processClose cfg env command isClose)
      (right.processClose cfg env command isClose) := by
  have told : Alike (left.announceClose env command) (right.announceClose env command) :=
    alike.announceClose command
  unfold Frame.processClose
  dsimp only
  rw [alike.entry, told.entry]
  split
  · exact alike
  · split
    · exact told.discardUninitializedEntry
    · split
      · exact ((told.modify _).modify _).closeAfterWrites
      · exact (told.modify _).uvClose

theorem destroyCommand (alike : Alike left right) (command : Command) :
    Alike { left with runtime := left.runtime.destroyCommand command }
      { right with runtime := right.runtime.destroyCommand command } := by
  refine ⟨alike.key, alike.entry, ?_⟩
  simp only [Shared.destroyCommand_eq, alike.slots]

theorem runCommand (alike : Alike left right) (command : Command) :
    Alike (left.runCommand cfg env command) (right.runCommand cfg env command) := by
  unfold Frame.runCommand
  cases command.body with
  | listen host port backlog => exact (alike.processListen host port).destroyCommand _
  | connect host port => exact (alike.processConnect host port).destroyCommand _
  | bind fd => exact alike.processBind.destroyCommand _
  | udp host port => exact (alike.processUdp host port).destroyCommand _
  | udpConnect host port => exact (alike.processUdpConnect host port).destroyCommand _
  | udpSend payload =>
      obtain ⟨sent, owned⟩ := alike.processUdpSend command payload
      dsimp only
      rw [owned]
      exact sent.destroyCommand _
  | start => exact (alike.processStart command).destroyCommand _
  | pause => exact alike.processPause.destroyCommand _
  | nodelay => exact alike.destroyCommand _
  | send payload =>
      obtain ⟨sent, owned⟩ := alike.processSend command false payload
      dsimp only
      rw [owned]
      exact sent.destroyCommand _
  | sendLow payload =>
      obtain ⟨sent, owned⟩ := alike.processSend command true payload
      dsimp only
      rw [owned]
      exact sent.destroyCommand _
  | close => exact (alike.processClose command true).destroyCommand _
  | shutdown => exact (alike.processClose command false).destroyCommand _
  | exit => exact alike

theorem exitScan (alike : Alike left right) : Alike (left.exitScan cfg) (right.exitScan cfg) := by
  unfold Frame.exitScan
  rw [alike.entry]
  split
  · exact alike.discardUninitializedEntry
  · split
    · exact (alike.modify _).uvClose
    · exact alike

end Alike

end Frame

namespace State

/-- The same sockets in the same slots, in runtimes that may differ elsewhere. -/
structure Alike (left right : State) : Prop where
  slots : right.runtime.table.slots = left.runtime.table.slots
  kept : ∀ slot key, left.runtime.table.slots slot = some key →
    right.entries[key]? = left.entries[key]?

namespace Alike

variable {cfg : Config} {env : Env} {left right : State} {key : Nat}

theorem sockets (alike : Alike left right) : right.sockets = left.sockets := by
  funext slot
  rw [State.sockets, State.sockets, alike.slots]
  cases occupied : left.runtime.table.slots slot with
  | none => rfl
  | some key => exact alike.kept slot key occupied

theorem focus {act : Act} (alike : Alike left right)
    (acts : ∀ {left right : Frame}, left.Alike right → (act.run cfg left).Alike (act.run cfg right))
    {slot : Nat} (occupied : left.runtime.table.slots slot = some key) :
    Alike (left.focus cfg key act) (right.focus cfg key act) := by
  have here := alike.kept slot key occupied
  cases at_key : left.entries[key]? with
  | none =>
      rw [at_key] at here
      simpa only [State.focus, at_key, here] using alike
  | some entry =>
      rw [at_key] at here
      have acted : Frame.Alike (act.run cfg ⟨key, entry, left.runtime⟩)
          (act.run cfg ⟨key, entry, right.runtime⟩) := acts ⟨rfl, rfl, alike.slots⟩
      have shrinks (slot other : Nat)
          (later : (left.focus cfg key act).runtime.table.slots slot = some other) :
          right.entries[other]? = left.entries[other]? :=
        alike.kept slot other (focus_shrinks at_key act later)
      rw [focus_eq left at_key] at shrinks ⊢
      rw [focus_eq right here]
      refine ⟨acted.slots, fun slot other later => ?_⟩
      dsimp only
      rcases eq_or_ne other key with rfl | distinct
      · rw [getElem?_set_here at_key, getElem?_set_here here, acted.entry]
      · rw [List.getElem?_set_ne distinct.symm, List.getElem?_set_ne distinct.symm]
        exact shrinks slot other later

theorem findEntry (alike : Alike left right) (id : Int) :
    right.findEntry cfg id = left.findEntry cfg id := by
  unfold State.findEntry SlotTable.find
  rw [alike.slots]
  split
  · rename_i key occupied
    rw [State.idOf, State.idOf, alike.kept _ key occupied]
  · rfl

theorem consumeCommand (alike : Alike left right) (command : Command) (rest : List Command) :
    Alike (left.consumeCommand cfg env command rest)
      (right.consumeCommand cfg env command rest) := by
  unfold State.consumeCommand
  have popped : Alike { left with commands := rest } { right with commands := rest } :=
    ⟨alike.slots, alike.kept⟩
  dsimp only
  split
  · exact ⟨alike.slots, alike.kept⟩
  · rw [popped.findEntry]
    split
    · obtain ⟨_, same⟩ := processUnknown_eq env command left.runtime
      obtain ⟨_, other⟩ := processUnknown_eq env command right.runtime
      rw [same, other]
      exact ⟨alike.slots, alike.kept⟩
    · rename_i key found
      exact popped.focus (fun frames => frames.runCommand command)
        (SlotTable.find_eq_some.mp found).1

theorem exitStep (alike : Alike left right) (slot : Nat) :
    Alike (left.exitStep cfg slot) (right.exitStep cfg slot) := by
  unfold State.exitStep
  split
  · have moved : Alike { left with pc := .exitScan (slot + 1) }
        { right with pc := .exitScan (slot + 1) } := ⟨alike.slots, alike.kept⟩
    dsimp only
    rw [alike.slots]
    split
    · exact moved
    · rename_i key occupied
      exact moved.focus (fun frames => frames.exitScan) occupied
  · obtain ⟨_, same⟩ :=
      updateExitReady_eq { left.runtime.closeProcessSignals with asyncClosing := true }
    obtain ⟨_, other⟩ :=
      updateExitReady_eq { right.runtime.closeProcessSignals with asyncClosing := true }
    rw [same, other]
    exact ⟨alike.slots, alike.kept⟩

theorem processExit (alike : Alike left right) :
    Alike (left.processExit cfg) (right.processExit cfg) := by
  unfold State.processExit
  generalize List.range (cfg.slotCount + 1) = slots
  induction slots generalizing left right with
  | nil => exact alike
  | cons slot rest ih => exact ih (alike.exitStep slot)

theorem processCommands (alike : Alike left right) (answers : Nat → Env)
    (commands : List Command) :
    Alike (left.processCommands cfg answers commands)
      (right.processCommands cfg answers commands) := by
  induction commands generalizing left right with
  | nil => exact alike
  | cons command rest ih =>
      have consumed : Alike (left.consumeCommand cfg (answers rest.length) command rest)
          (right.consumeCommand cfg (answers rest.length) command rest) :=
        alike.consumeCommand command rest
      unfold State.processCommands
      dsimp only
      apply ih
      split
      · exact consumed.processExit
      · exact consumed

end Alike

end State

/-! ## A failed dial -/

/-- The answers with which the second call of a dial succeeds. -/
structure Connectable (address : Option String) (port : Int) (env : Env) : Prop where
  address : address ≠ none
  port : validPort port = true
  command : env.command = true
  data : env.data = true

namespace State

variable {cfg : Config} {state after : State} {opaqueVal : Nat} {env : Env}

theorem SameSockets.alike (same : state.SameSockets after) (wf : state.Wf cfg) :
    state.Alike after := by
  refine ⟨same.slots, fun slot key occupied => ?_⟩
  obtain ⟨entry, at_key, -⟩ := wf.occupant occupied
  rw [same.kept key entry at_key, at_key]

/-- Every entry that the call reserved is out of the table again, or the call has
queued a `CLOSE` for it. -/
def Undone (before after : State) : Prop :=
  ∀ (key : Nat) (entry : Entry), before.entries.length ≤ key → after.entries[key]? = some entry →
    (∀ slot, after.runtime.table.slots slot ≠ some key) ∨
      ∃ command ∈ after.commands.drop before.commands.length,
        command.body = .close ∧ command.id = entry.id

theorem SameSockets.undone (same : state.SameSockets after) (wf : state.Wf cfg) :
    state.Undone after := by
  intro key entry isNew _
  refine .inl fun slot occupied => ?_
  rw [same.slots] at occupied
  obtain ⟨_, at_key, -⟩ := wf.occupant occupied
  exact absurd (List.getElem?_eq_some_iff.mp at_key).1 (Nat.not_lt.mpr isNew)

/-- A reservation with nothing but its own command in the queue is not undone. -/
theorem Added.not_undone {body : CommandBody} {id : Int}
    (added : state.Added opaqueVal body id after)
    (plain : body ≠ .close) : ¬ state.Undone after := by
  intro undone
  obtain ⟨slot, -, slots⟩ := added.placed
  obtain ⟨entry, entries, -⟩ := added.entry
  have last : after.entries[state.entries.length]? = some entry := by
    rw [entries]
    exact List.getElem?_concat_length
  rcases undone state.entries.length entry (Nat.le_refl _) last with
    gone | ⟨command, queued, closes, -⟩
  · exact gone slot (by rw [slots, Function.update_self])
  · rw [added.commands, List.drop_left, List.mem_singleton] at queued
    subst queued
    exact plain closes

/-- A slot, memory and an open queue for the first call of a dial. -/
structure OpensUdp (cfg : Config) (env : Env) (state : State) : Prop where
  room : ∃ slot < cfg.slotCount, state.runtime.table.slots slot = none
  node : env.node = true
  command : env.command = true
  data : env.data = true
  accepting : state.accepting = true

theorem nextId_pos (state : State) {slot : Nat} (slotBound : slot < cfg.slotCount) :
    0 < state.nextId cfg slot := by
  have bounds := idNextGeneration_bounds (state.runtime.table.generations slot)
  exact idMake_pos slotBound bounds.1 bounds.2

theorem openHost_of_opens (opens : state.OpensUdp cfg env) (body : CommandBody) :
    ∃ id after, state.openHost cfg true body opaqueVal env = ⟨.ok, some id, after⟩ ∧ 0 < id ∧
      after.accepting = true ∧ state.Added opaqueVal body id after := by
  have atomic : Returned.Atomic state opaqueVal body (state.openHost cfg true body opaqueVal env) :=
    openHost_atomic true env
  rcases state.reserveEntry_cases cfg env opaqueVal with
    ⟨cursor, result, full⟩ | ⟨slot, cursor, slotBound, free, node, result⟩
  · exact absurd ⟨opens.room, opens.node⟩ full
  · have submitted : state.openHost cfg true body opaqueVal env =
        ⟨.ok, some (state.nextId cfg slot), { state.reserved cfg opaqueVal slot cursor with
          commands := state.commands ++ [⟨state.nextId cfg slot, opaqueVal, body⟩] }⟩ := by
      simp [openHost, result, submitOpen, push, State.reserved, opens.command, opens.data,
        opens.accepting]
    rw [submitted] at atomic
    cases atomic with
    | added added =>
        exact ⟨_, _, submitted, state.nextId_pos slotBound, opens.accepting, added⟩

theorem openHost_of_refused (refused : ¬ state.OpensUdp cfg env) (body : CommandBody) :
    (state.openHost cfg true body opaqueVal env).status ≠ .ok ∧
      state.SameSockets (state.openHost cfg true body opaqueVal env).state := by
  have failed : (state.openHost cfg true body opaqueVal env).status ≠ .ok := by
    intro ok
    obtain ⟨-, ⟨room, node⟩, built, accepting⟩ := (openHost_ok_iff true env).mp ok
    obtain ⟨command, data⟩ := Bool.and_eq_true_iff.mp built
    exact refused ⟨room, node, command, data, accepting⟩
  exact ⟨failed, ((openHost_atomic true env).cases.1 failed).1⟩

theorem socketServerUdp_of_opens (opens : state.OpensUdp cfg env) (opaqueVal : Nat)
    (address : Option String) :
    ∃ id after, state.socketServerUdp cfg opaqueVal address 0 env = (id, after) ∧ 0 < id ∧
      after.accepting = true ∧
        state.Added opaqueVal (.udp (address.getD "0.0.0.0") 0) id after := by
  obtain ⟨id, after, opened, onward⟩ := openHost_of_opens opens (.udp (address.getD "0.0.0.0") 0)
  have called : state.runtimeUdp cfg address 0 opaqueVal false env = ⟨.ok, some id, after⟩ := opened
  exact ⟨id, after, by rw [socketServerUdp, called], onward⟩

theorem socketServerUdp_of_refused (refused : ¬ state.OpensUdp cfg env) (opaqueVal : Nat)
    (address : Option String) :
    ∃ after, state.socketServerUdp cfg opaqueVal address 0 env = (-1, after) ∧
      state.SameSockets after := by
  obtain ⟨failed, same⟩ := openHost_of_refused refused (.udp (address.getD "0.0.0.0") 0)
  have called : state.runtimeUdp cfg address 0 opaqueVal false env =
      state.openHost cfg true (.udp (address.getD "0.0.0.0") 0) opaqueVal env := rfl
  refine ⟨_, ?_, same⟩
  rw [socketServerUdp, called]
  split
  · rename_i ok
    rw [ok] at failed
    exact absurd rfl failed
  · rename_i other
    rw [other]

theorem socketServerUdpConnect_of_connectable {address : Option String} {port id : Int}
    (connectable : Connectable address port env) (positive : 0 < id)
    (accepting : state.accepting = true) :
    (state.socketServerUdpConnect id address port env).1 = 0 := by
  obtain ⟨host, rfl⟩ := Option.ne_none_iff_exists'.mp connectable.address
  have positive : ¬ id ≤ 0 := by omega
  simp [socketServerUdpConnect, runtimeUdpConnect, push, positive, connectable.port,
    connectable.command, connectable.data, accepting]

theorem socketServerUdpConnect_of_not {address : Option String} {port : Int} (id : Int)
    (refused : ¬ Connectable address port env) :
    state.socketServerUdpConnect id address port env = (-1, state) := by
  cases address with
  | none => rfl
  | some host =>
      by_cases invalid : (decide (id ≤ 0) || !validPort port) = true
      · simp only [socketServerUdpConnect, runtimeUdpConnect, invalid, if_true]
      · have ranged : validPort port = true := by simp_all
        have unbuilt : (env.command && env.data) = false := by
          rw [← Bool.not_eq_true, Bool.and_eq_true]
          exact fun built => refused ⟨by simp, ranged, built.1, built.2⟩
        simp only [socketServerUdpConnect, runtimeUdpConnect, invalid, unbuilt, if_true,
          Bool.false_eq_true, if_false, Bool.not_false]

end State

/-- A dial that returned `-1` leaves no socket behind, at once or once the queue is
processed, if and only if its first call failed, or its second had a host, a port in
range and memory.  Otherwise the socket stays, and the caller never learns its id. -/
theorem udp_dial_undone_iff {cfg : Config} {state : State}
    (reached : (socketSystem cfg).Reachable state) (opaqueVal : Nat) (address : Option String)
    (port : Int) (first second : Env) :
    ((state.socketServerUdpDial cfg opaqueVal address port first second).1 = -1 →
        state.Undone (state.socketServerUdpDial cfg opaqueVal address port first second).2 ∧
          ∀ answers, ((state.socketServerUdpDial cfg opaqueVal address port first
            second).2.processQueue cfg answers).sockets =
              (state.processQueue cfg answers).sockets) ↔
      ¬ state.OpensUdp cfg first ∨ Connectable address port second := by
  have wf := State.wf_reachable reached
  unfold State.socketServerUdpDial
  dsimp only
  generalize (if address.any fun text => text.toList.contains ':' then some "::" else none) = host
  by_cases opens : state.OpensUdp cfg first
  · -- the socket is there, and the second call decides
    obtain ⟨id, after, opened, positive, accepting, added⟩ :=
      State.socketServerUdp_of_opens opens opaqueVal host
    have valid : ¬ id < 0 := by omega
    rw [opened]
    by_cases connectable : Connectable address port second
    · have connected := State.socketServerUdpConnect_of_connectable connectable positive accepting
      simp only [valid, if_false, connected, ne_eq, not_true_eq_false]
      exact ⟨fun _ => .inr connectable, fun _ returned => by omega⟩
    · simp only [valid, if_false, State.socketServerUdpConnect_of_not id connectable]
      constructor
      · intro undone
        exact absurd (undone rfl).1 (added.not_undone (by simp))
      · rintro (closed | connects)
        · exact absurd opens closed
        · exact absurd connects connectable
  · obtain ⟨after, refused, same⟩ := State.socketServerUdp_of_refused opens opaqueVal host
    have negative : (-1 : Int) < 0 := by decide
    simp only [refused, negative, if_true]
    refine ⟨fun _ => .inl opens, fun _ _ => ⟨same.undone wf, fun answers => ?_⟩⟩
    rw [State.processQueue, State.processQueue, same.commands]
    exact ((same.alike wf).processCommands answers state.commands).sockets

/-- Without memory for its first command, a dial of the empty runtime is undone. -/
theorem udp_dial_undone_iff_no_command :
    (State.init.socketServerUdpDial fourSlots 7 (some "127.0.0.1") 80
        { Env.fine with command := false } .fine).1 = -1 ∧
      State.init.Undone (State.init.socketServerUdpDial fourSlots 7 (some "127.0.0.1") 80
        { Env.fine with command := false } .fine).2 := by
  have failed : (State.init.socketServerUdpDial fourSlots 7 (some "127.0.0.1") 80
      { Env.fine with command := false } .fine).1 = -1 := rfl
  have refused : ¬ State.init.OpensUdp fourSlots { Env.fine with command := false } :=
    fun opens => nomatch opens.command
  exact ⟨failed, ((udp_dial_undone_iff System.Reachable.start 7 (some "127.0.0.1") 80
    { Env.fine with command := false } .fine).mpr (.inl refused) failed).1⟩

/-- Dialling `NULL` fails after the socket was reserved.  Once the queue is processed,
the socket is bound and sits in its slot, where there was none. -/
theorem udp_dial_leaks_socket :
    (State.init.socketServerUdpDial fourSlots 7 none 80 .fine .fine).1 = -1 ∧
      ¬ State.init.Undone (State.init.socketServerUdpDial fourSlots 7 none 80 .fine .fine).2 ∧
      (((State.init.socketServerUdpDial fourSlots 7 none 80 .fine .fine).2.processQueue fourSlots
        fun _ => .fine).sockets 0).map Entry.state = some .udp ∧
      ((State.init.processQueue fourSlots fun _ => .fine).sockets 0).isNone = true := by
  refine ⟨rfl, fun undone => ?_, rfl, rfl⟩
  rcases undone 0 _ (Nat.le_refl 0) rfl with gone | ⟨command, queued, closes, -⟩
  · exact gone 0 rfl
  · have only : command = ⟨4, 7, .udp "0.0.0.0" 0⟩ := List.mem_singleton.mp queued
    subst only
    cases closes

end Skyuv.Socket
