import Skyuv.Socket.Shutdown

/-!
# What the loop reports about a command

The design asks that no command fails in silence.  The five commands that carry an
address or a descriptor either take effect or push one `ERROR` event, with the one
exception of a default UDP target that does not parse.

A send call has no opaque of its own, and its command carries zero.  The branches of
`process_send` and `process_udp_send` that take the opaque from the command report
to service zero and not to the owner of the socket.
-/

set_option autoImplicit false

namespace Skyuv.Socket

open TransitionSystem

/-! ## Commands as they are queued -/

/-- What every queued command owes to the call that issued it. -/
structure Command.Issued (cfg : Config) (command : Command) : Prop where
  supported : ∀ fd, command.body = .bind fd → cfg.externalFd = true
  ownerless : ∀ payload, command.body.payload = some payload → command.opaqueVal = 0

theorem OpenCall.body_issued {cfg : Config} {call : OpenCall} (checked : call.check cfg = .ok)
    (id : Int) (opaqueVal : Nat) : Command.Issued cfg ⟨id, opaqueVal, call.body⟩ := by
  cases call with
  | bind fd =>
      refine ⟨fun _ _ => ?_, by simp [OpenCall.body, CommandBody.payload]⟩
      cases supported : cfg.externalFd with
      | true => rfl
      | false => simp [OpenCall.check, supported] at checked
  | _ => exact ⟨by simp [OpenCall.body], by simp [OpenCall.body, CommandBody.payload]⟩

namespace State

variable {cfg : Config} {state next : State} {label : Label}

theorem Stepped.issued (stepped : state.Stepped cfg label next) (wf : state.Wf cfg)
    (checked : state.Checked cfg) (issued : ∀ command ∈ state.commands, command.Issued cfg) :
    ∀ command ∈ next.commands, command.Issued cfg := by
  intro command member
  have same (kept : next.commands = state.commands) : command.Issued cfg :=
    issued command (kept ▸ member)
  have popped {head : Command} {rest : List Command} (queue : state.commands = head :: rest)
      (kept : next.commands = rest) : command.Issued cfg :=
    issued command (by rw [queue]; exact List.mem_cons_of_mem _ (kept ▸ member))
  have pushed {new : Command} (kept : next.commands = state.commands ++ [new])
      (sound : new.Issued cfg) : command.Issued cfg := by
    rw [kept] at member
    rcases List.mem_append.mp member with before | isNew
    · exact issued command before
    · exact List.mem_singleton.mp isNew ▸ sound
  cases stepped with
  | called call env live called =>
      cases called with
      | unchanged | refused | copyFreed | timed => exact same rfl
      | pushed new accepting plain notExit unbound =>
          exact pushed rfl ⟨fun fd bound => absurd bound (unbound fd), by simp [plain]⟩
      | sent new payload ownership accepting carries token owned sized ownerless =>
          refine pushed rfl ⟨fun fd bound => ?_, fun _ _ => ownerless⟩
          simp [bound, CommandBody.payload] at carries
      | exit => exact pushed rfl ⟨by simp, by simp [CommandBody.payload]⟩
  | opened call opaqueVal env live opened => cases opened <;> exact same rfl
  | @worker index env worker _ live at_index worked =>
      cases worked with
      | submitted built pc accepting =>
          have owner := List.mem_of_getElem? at_index
          refine pushed rfl ?_
          rw [(wf.workers worker owner).named built pc]
          exact OpenCall.body_issued (checked worker owner) _ _
      | progressed | faulted | unlinked | decided => exact same rfl
      | tagged | freed => exact same (by simp [setWorker])
  | polled polled => exact same polled.kept.2.2.1
  | moved | exitEnded | signal | releaseEnded => exact same rfl
  | unknown cmd rest env consuming head | exitBegun cmd rest env consuming head =>
      exact popped head rfl
  | acted target at_key enabled ready =>
      rw [focus_commands] at member
      cases ready with
      | command cmd rest env consuming head =>
          exact issued command (head ▸ List.mem_cons_of_mem _ member)
      | exitScan | releaseScan | pump | callback => exact issued command member
  | @accept key status env listener =>
      obtain ⟨_, _, shape⟩ := state.accept_shape cfg key listener status env
      exact same (by rw [shape])
  | releaseDone => simp [State.releaseDone] at member

/-- Every queued command is one that a call may issue. -/
theorem issued_reachable (reached : (socketSystem cfg).Reachable state) :
    ∀ command ∈ state.commands, command.Issued cfg := by
  refine (reached.invariant (fun state => state.Wf cfg ∧ state.Checked cfg ∧
    ∀ command ∈ state.commands, command.Issued cfg) ?_ ?_).2.2
  · exact ⟨Wf.init cfg, by simp [Checked, socketSystem, State.init],
      by simp [socketSystem, State.init]⟩
  · rintro state label next ⟨wf, checked, issued⟩ run
    obtain ⟨stepped, nextWf⟩ := wf.of_step run
    exact ⟨nextWf, stepped.checked checked, stepped.issued wf checked issued⟩

end State

/-! ## Commands that carry an address -/

/-- The first error among the libuv calls that a handler makes in turn. -/
def Env.failure (env : Env) (calls : List UvCall) : Option Int :=
  (calls.map env.uv).find? fun result => decide (result ≠ 0)

@[simp]
theorem Env.failure_nil (env : Env) : env.failure [] = none := rfl

theorem Env.failure_cons (env : Env) (call : UvCall) (rest : List UvCall) :
    env.failure (call :: rest) =
      if env.uv call ≠ 0 then some (env.uv call) else env.failure rest := by
  rw [Env.failure, List.map_cons, List.find?_cons]
  by_cases fine : env.uv call = 0
  · simp [fine, Env.failure]
  · simp [fine]

/-- The same, after the address was parsed. -/
def Env.addressFailure (env : Env) (host : String) (port : Int) (calls : List UvCall) :
    Option Int :=
  match env.parseAddress host port with
  | .error error => some error
  | .ok _ => env.failure calls

/-- What goes wrong when the command is processed. -/
def CommandBody.failure (env : Env) : CommandBody → Option Int
  | .listen host port _ => env.addressFailure host port [.tcpInit, .tcpBind, .listen]
  | .connect host port => env.addressFailure host port [.tcpInit, .tcpConnect]
  | .bind _ => env.failure [.tcpInit, .tcpOpen, .readStart]
  | .udp host port => env.addressFailure host port [.udpInit, .udpBind, .udpRecvStart]
  | .udpConnect host port => env.addressFailure host port []
  | _ => none

/-- The state that a command with an address expects of its entry. -/
def CommandBody.expects : CommandBody → Option SocketState
  | .listen _ _ _ | .connect _ _ | .bind _ | .udp _ _ => some .reserved
  | .udpConnect _ _ => some .udp
  | _ => none

/-- The command has done to the entry what it is for. -/
def CommandBody.TookEffect (env : Env) (entry : Entry) : CommandBody → Prop
  | .listen _ _ _ => entry.state = .listening
  | .connect _ _ => entry.state = .connecting
  | .bind _ => entry.state = .connected
  | .udp _ _ => entry.state = .udp
  | .udpConnect host port =>
      ∃ address, env.parseAddress host port = .ok address ∧ entry.udpTarget = some address
  | _ => False

namespace Frame

variable {cfg : Config} {env : Env} {frame middle after : Frame} {done : Entry → Prop}
  {failure : Option Int}

/-- A handler has done its work, or has told the owner why not. -/
def Answers (env : Env) (done : Entry → Prop) (failure : Option Int) (before after : Frame) :
    Prop :=
  match failure with
  | none => done after.entry
  | some error => ¬ done after.entry ∧ after.runtime.events = before.runtime.events ++
      Shared.eventNodes env ⟨.error, before.entry.id, before.entry.opaqueVal, error, [], 0⟩

/-- Nothing was told yet, and the entry still has its name and its owner. -/
structure Untold (before after : Frame) : Prop where
  id : after.entry.id = before.entry.id
  owner : after.entry.opaqueVal = before.entry.opaqueVal
  events : after.runtime.events = before.runtime.events

theorem Untold.refl (frame : Frame) : Untold frame frame := ⟨rfl, rfl, rfl⟩

theorem Untold.modify {change : Entry → Entry} (untold : Untold frame middle)
    (id : (change middle.entry).id = middle.entry.id)
    (owner : (change middle.entry).opaqueVal = middle.entry.opaqueVal) :
    Untold frame (middle.modify change) :=
  ⟨id.trans untold.id, owner.trans untold.owner, untold.events⟩

theorem Untold.startReading (untold : Untold frame middle) :
    Untold frame (middle.startReading env) := by
  unfold Frame.startReading
  split
  · exact untold.modify rfl rfl
  · exact untold

/-- Both ways to give up tell the owner once. -/
theorem Untold.failUninitialized (untold : Untold frame middle) {error : Int}
    (failed : failure = some error)
    (undone : ∀ entry, entry.state = middle.entry.state → ¬ done entry) :
    Answers env done failure frame (middle.failUninitialized cfg env error) := by
  subst failed
  refine ⟨undone _ rfl, (Frame.updateExitReady_events _).trans ?_⟩
  simp only [Frame.freeEntry, Frame.unlinkEntry, Frame.pushEvent, modify_runtime, Shared.pushEvent,
    untold.events, untold.id, untold.owner]

theorem Untold.rejectEntry (untold : Untold frame middle) {error : Int}
    (failed : failure = some error) (undone : ∀ entry, entry.state = .closing → ¬ done entry) :
    Answers env done failure frame (middle.rejectEntry env error) := by
  subst failed
  refine ⟨undone _ rfl, ?_⟩
  simp only [Frame.rejectEntry, Frame.setEntryState, Frame.uvClose, Frame.pushEvent,
    modify_runtime, Shared.pushEvent, untold.events, untold.id, untold.owner]

theorem answered (fine : failure = none) (effect : done after.entry) :
    Answers env done failure frame after := by
  subst fine
  exact effect

@[simp]
theorem state_cacheTcpName (name : Option TcpName) (frame : Frame) :
    (frame.cacheTcpName name).entry.state = frame.entry.state := by
  unfold Frame.cacheTcpName
  split
  · rfl
  · rfl

theorem state_ne {state target : SocketState} (other : state ≠ target) (entry : Entry)
    (same : entry.state = state) : entry.state ≠ target := by
  rw [same]
  exact other

theorem processListen_answers (host : String) (port backlog : Int)
    (reserved : frame.entry.state = .reserved) :
    Answers env (fun entry => (CommandBody.listen host port backlog).TookEffect env entry)
      ((CommandBody.listen host port backlog).failure env) frame
      (frame.processListen cfg env host port) := by
  have pending : Untold frame (frame.setEntryState .listenPending) :=
    (Untold.refl frame).modify rfl rfl
  rw [processListen, if_neg (not_not.mpr reserved)]
  simp only [CommandBody.failure, Env.addressFailure]
  cases env.parseAddress host port with
  | error error => exact pending.failUninitialized rfl (state_ne (by simp [Frame.setEntryState]))
  | ok address =>
      have opened : Untold frame ((frame.setEntryState .listenPending).modify fun entry =>
          { entry with initialized := true }) := pending.modify rfl rfl
      simp only [Env.failure_cons, Env.failure_nil]
      split
      · exact pending.failUninitialized rfl (state_ne (by simp [Frame.setEntryState]))
      · split
        · exact opened.rejectEntry rfl (state_ne (by simp))
        · split
          · exact opened.rejectEntry rfl (state_ne (by simp))
          · refine answered rfl ?_
            simp [CommandBody.TookEffect, Frame.pushEvent, Frame.setEntryState]

theorem processConnect_answers (host : String) (port : Int)
    (reserved : frame.entry.state = .reserved) :
    Answers env (fun entry => (CommandBody.connect host port).TookEffect env entry)
      ((CommandBody.connect host port).failure env) frame
      (frame.processConnect cfg env host port) := by
  rw [processConnect, if_neg (not_not.mpr reserved)]
  simp only [CommandBody.failure, Env.addressFailure]
  cases env.parseAddress host port with
  | error error => exact (Untold.refl frame).failUninitialized rfl (state_ne (by simp [reserved]))
  | ok address =>
      simp only [Env.failure_cons, Env.failure_nil]
      split
      · exact (Untold.refl frame).failUninitialized rfl (state_ne (by simp [reserved]))
      · split
        · refine Untold.rejectEntry ?_ rfl (state_ne (by simp))
          exact ((Untold.refl frame).modify rfl rfl).modify rfl rfl
        · exact answered rfl rfl

theorem processBind_answers (fd : Int) (supported : cfg.externalFd = true)
    (reserved : frame.entry.state = .reserved) :
    Answers env (fun entry => (CommandBody.bind fd).TookEffect env entry)
      ((CommandBody.bind fd).failure env) frame (frame.processBind cfg env) := by
  have opened : Untold frame (frame.modify fun entry => { entry with initialized := true }) :=
    (Untold.refl frame).modify rfl rfl
  rw [processBind, if_neg (by simp [supported]), if_neg (not_not.mpr reserved)]
  simp only [CommandBody.failure, Env.failure_cons, Env.failure_nil]
  split
  · exact (Untold.refl frame).failUninitialized rfl (state_ne (by simp [reserved]))
  · split
    · exact opened.rejectEntry rfl (state_ne (by simp))
    · split
      · exact opened.startReading.rejectEntry rfl (state_ne (by simp))
      · refine answered rfl ?_
        simp [CommandBody.TookEffect, Frame.pushEvent, Frame.setEntryState]

theorem processUdp_answers (host : String) (port : Int) (reserved : frame.entry.state = .reserved) :
    Answers env (fun entry => (CommandBody.udp host port).TookEffect env entry)
      ((CommandBody.udp host port).failure env) frame (frame.processUdp cfg env host port) := by
  have marked : Untold frame (frame.modify fun entry => { entry with isUdp := true }) :=
    (Untold.refl frame).modify rfl rfl
  rw [processUdp, if_neg (not_not.mpr reserved)]
  simp only [CommandBody.failure, Env.addressFailure]
  cases env.parseAddress host port with
  | error error => exact (Untold.refl frame).failUninitialized rfl (state_ne (by simp [reserved]))
  | ok address =>
      simp only [Env.failure_cons, Env.failure_nil]
      split
      · exact marked.failUninitialized rfl (state_ne (by simp [reserved]))
      · split
        · exact Untold.rejectEntry (marked.modify rfl rfl) rfl (state_ne (by simp))
        · split
          · exact Untold.rejectEntry (marked.modify rfl rfl) rfl (state_ne (by simp))
          · exact answered rfl rfl

/-- The one handler that says nothing when its address does not parse. -/
theorem processUdpConnect_silent (env : Env) (frame : Frame) (host : String) (port : Int)
    (bound : frame.entry.state = .udp) :
    (frame.processUdpConnect env host port).runtime.events = frame.runtime.events ∧
      ((CommandBody.udpConnect host port).TookEffect env
          (frame.processUdpConnect env host port).entry ↔
        (CommandBody.udpConnect host port).failure env = none) := by
  rw [processUdpConnect, if_neg (not_not.mpr bound)]
  simp only [CommandBody.failure, Env.addressFailure, CommandBody.TookEffect]
  cases env.parseAddress host port with
  | error error => exact ⟨rfl, by simp⟩
  | ok address => exact ⟨rfl, by simp⟩

theorem runCommand_answers {command : Command} (issued : command.Issued cfg)
    (expected : command.body.expects = some frame.entry.state)
    (other : ∀ host port, command.body ≠ .udpConnect host port) :
    Answers env (fun entry => command.body.TookEffect env entry) (command.body.failure env) frame
      (frame.runCommand cfg env command) := by
  -- destroying the command afterwards pushes nothing
  have finished {after : Frame} {done : Entry → Prop} {failure : Option Int} (command : Command)
      (answers : Answers env done failure frame after) : Answers env done failure frame
        { after with runtime := after.runtime.destroyCommand command } := by
    rw [Shared.destroyCommand_eq]
    cases failure with
    | none => exact answers
    | some error => exact answers
  unfold Frame.runCommand
  cases body : command.body with
  | listen host port backlog =>
      rw [body] at expected
      exact finished _ (processListen_answers host port backlog (Option.some.inj expected).symm)
  | connect host port =>
      rw [body] at expected
      exact finished _ (processConnect_answers host port (Option.some.inj expected).symm)
  | bind fd =>
      rw [body] at expected
      exact finished _
        (processBind_answers fd (issued.supported fd body) (Option.some.inj expected).symm)
  | udp host port =>
      rw [body] at expected
      exact finished _ (processUdp_answers host port (Option.some.inj expected).symm)
  | udpConnect host port => exact absurd body (other host port)
  | _ =>
      rw [body] at expected
      cases expected

end Frame

/-- How many `ERROR` events name the socket. -/
def errorsNaming (id : Int) (events : List Event) : Nat :=
  events.countP fun event => decide (event.type = .error) && decide (event.id = id)

theorem errorsNaming_node (env : Env) (id : Int) (opaqueVal : Nat) (error : Int) :
    errorsNaming id (Shared.eventNodes env ⟨.error, id, opaqueVal, error, [], 0⟩) = 1 ↔
      env.event .error = true := by
  unfold errorsNaming Shared.eventNodes
  cases env.event .error <;> simp

theorem Frame.runCommand_answered_iff {cfg : Config} {env : Env} {command : Command} (frame : Frame)
    (issued : command.Issued cfg) (expected : command.body.expects = some frame.entry.state) :
    (command.body.TookEffect env (frame.runCommand cfg env command).entry ∨
        errorsNaming frame.entry.id ((frame.runCommand cfg env command).runtime.events.drop
          frame.runtime.events.length) = 1) ↔
      command.body.failure env = none ∨
        (env.event .error = true ∧ ∀ host port, command.body ≠ .udpConnect host port) := by
  by_cases silent : ∃ host port, command.body = .udpConnect host port
  · obtain ⟨host, port, body⟩ := silent
    have bound : frame.entry.state = .udp := by
      rw [body] at expected
      exact (Option.some.inj expected).symm
    obtain ⟨quiet, effect⟩ := frame.processUdpConnect_silent env host port bound
    have ran : frame.runCommand cfg env command = frame.processUdpConnect env host port := by
      simp only [Frame.runCommand, body, Shared.destroyCommand]
    have untold : errorsNaming frame.entry.id
        ((frame.processUdpConnect env host port).runtime.events.drop
          frame.runtime.events.length) ≠ 1 := by
      simp [quiet, errorsNaming]
    rw [ran, body, effect]
    constructor
    · exact fun answered => .inl (answered.resolve_right untold)
    · rintro (fine | ⟨-, other⟩)
      · exact .inl fine
      · exact absurd rfl (other host port)
  · have other : ∀ host port, command.body ≠ .udpConnect host port := fun host port body =>
      silent ⟨host, port, body⟩
    have answers : Answers env (fun entry => command.body.TookEffect env entry)
        (command.body.failure env) frame (frame.runCommand cfg env command) :=
      runCommand_answers issued expected other
    cases failure : command.body.failure env with
    | none =>
        rw [failure] at answers
        exact ⟨fun _ => .inl rfl, fun _ => .inl answers⟩
    | some error =>
        rw [failure] at answers
        obtain ⟨undone, told⟩ := answers
        rw [told, List.drop_left, errorsNaming_node]
        simp [undone, other]

namespace State

variable {cfg : Config} {state next : State} {command : Command} {rest : List Command} {env : Env}
  {key : Nat} {entry : Entry}

/-- One round of the command loop, for a command whose entry was found. -/
theorem consumed (head : state.commands = command :: rest)
    (found : state.findEntry cfg command.id = some key) (plain : command.body ≠ .exit)
    (run : step cfg state (.command env) = some next) :
    next = { state with commands := rest }.focus cfg key (.command command env) := by
  obtain ⟨-, run⟩ := Option.ite_none_right_eq_some.mp run
  obtain ⟨-, run⟩ := Option.ite_none_right_eq_some.mp run
  rw [head] at run
  cases run
  rw [State.consumeCommand_other cfg env rest state plain, found]

theorem found_id (found : state.findEntry cfg command.id = some key)
    (at_key : state.entries[key]? = some entry) : entry.id = command.id := by
  have named := (SlotTable.find_eq_some.mp found).2
  rw [State.idOf, at_key] at named
  exact Option.some.inj named

end State

/-- A consumed `LISTEN`, `CONNECT`, `BIND`, `UDP` or `UDP_CONNECT` command, whose
entry is in the state that it expects, takes effect or has pushed exactly one
`ERROR` event for the socket, if and only if nothing failed, or there was memory for
the event and the command was not a `UDP_CONNECT`. -/
theorem address_command_answered_iff {cfg : Config} {state next : State} {command : Command}
    {rest : List Command} {env : Env} {key : Nat} {entry : Entry}
    (reached : (socketSystem cfg).Reachable state) (head : state.commands = command :: rest)
    (found : state.findEntry cfg command.id = some key)
    (at_key : state.entries[key]? = some entry)
    (expected : command.body.expects = some entry.state)
    (run : step cfg state (.command env) = some next) :
    ((∃ after, next.entries[key]? = some after ∧ command.body.TookEffect env after) ∨
        errorsNaming command.id (next.runtime.events.drop state.runtime.events.length) = 1) ↔
      command.body.failure env = none ∨
        (env.event .error = true ∧ ∀ host port, command.body ≠ .udpConnect host port) := by
  have plain : command.body ≠ .exit := by
    intro exit
    rw [exit] at expected
    cases expected
  have issued := State.issued_reachable reached command (by simp [head])
  have result : next = { state with
      commands := rest
      runtime := (Frame.runCommand cfg env command ⟨key, entry, state.runtime⟩).runtime
      entries := state.entries.set key
        (Frame.runCommand cfg env command ⟨key, entry, state.runtime⟩).entry } :=
    (State.consumed head found plain run).trans
    (State.focus_eq { state with commands := rest } at_key _)
  have effect : (∃ after, next.entries[key]? = some after ∧ command.body.TookEffect env after) ↔
      command.body.TookEffect env
        (Frame.runCommand cfg env command ⟨key, entry, state.runtime⟩).entry := by
    rw [result, getElem?_set_here at_key]
    simp
  rw [effect, result, ← State.found_id found at_key]
  exact Frame.runCommand_answered_iff ⟨key, entry, state.runtime⟩ issued expected

/-- A worker opens a UDP socket, which has id 4, and sets its default target.  The loop
has processed the first of the two commands. -/
def udpTargetRun : List Label :=
  [.openCall (.udp none 0) 7 .fine, .worker 0 .fine, .worker 0 .fine, .worker 0 .fine,
    .api (.udpConnect 4 (some "peer") 80) .fine, .poll .fine, .wakeup, .command .fine]

def udpTargetState : State :=
  ((socketSystem fourSlots).exec State.init udpTargetRun).get (by decide)

def udpTargetEntry : Entry := (udpTargetState.entries[0]?).get (by decide)

/-- No host is a valid address. -/
def Env.noAddress : Env := { Env.fine with ip4Addr := fun _ _ => .error uvEinval }

theorem udpTargetState_reachable : (socketSystem fourSlots).Reachable udpTargetState :=
  ⟨udpTargetRun, (Option.some_get _).symm⟩

/-- The target parses, and is set. -/
theorem address_command_answered_udp_target :
    ∃ next, step fourSlots udpTargetState (.command .fine) = some next ∧
      ((∃ after, next.entries[0]? = some after ∧
          (CommandBody.udpConnect "peer" 80).TookEffect .fine after) ∨
        errorsNaming 4 (next.runtime.events.drop udpTargetState.runtime.events.length) = 1) := by
  refine ⟨_, (Option.some_get (by decide)).symm, ?_⟩
  have head : udpTargetState.commands = [⟨4, 0, .udpConnect "peer" 80⟩] := rfl
  have expected : (CommandBody.udpConnect "peer" 80).expects = some udpTargetEntry.state := rfl
  exact (address_command_answered_iff udpTargetState_reachable head (by decide)
    (Option.some_get _).symm expected (Option.some_get _).symm).mpr (.inl rfl)

/-- The target does not parse: the command is consumed, the socket has no target, and
nobody is told. -/
theorem udp_target_lost_in_silence :
    ∃ next after, (socketSystem fourSlots).exec State.init
        (udpTargetRun ++ ([.command .noAddress] : List Label)) = some next ∧
      udpTargetState.commands = [⟨4, 0, .udpConnect "peer" 80⟩] ∧ udpTargetEntry.state = .udp ∧
      next.commands.length = 0 ∧ next.entries[0]? = some after ∧ after.state = .udp ∧
      after.udpTarget = none ∧
      next.runtime.events = udpTargetState.runtime.events := by
  refine ⟨_, _, (Option.some_get (by decide)).symm, rfl, by decide, by decide,
    (Option.some_get (by decide)).symm, by decide, by decide, by decide⟩

/-! ## The events of a send -/

/-- The acts that carry a send further: its command, the pump and the completions. -/
def Act.servesSend : Act → Bool
  | .command cmd _ => cmd.body.payload.isSome
  | .pump _ | .writeCompleted _ _ | .udpWriteCompleted _ _ _ => true
  | _ => false

/-- The branches of the send handlers that take the opaque from the command. -/
def CommandBody.rejectedBy (entry : Entry) : CommandBody → Bool
  | .send _ | .sendLow _ =>
      decide (entry.state ≠ .udp) &&
        (decide (entry.state ≠ .connected ∧ entry.state ≠ .connectedPaused ∧
          entry.state ≠ .halfcloseRead) || entry.closeRequested)
  | .udpSend _ => decide (entry.state ≠ .udp)
  | _ => false

/-- An `ERROR` event goes out with the opaque of the command. -/
def Act.misreports : Act → Entry → Bool
  | .command cmd env, entry => env.event .error && cmd.body.rejectedBy entry
  | _, _ => false

namespace Frame

/-- Every event that was pushed carries the opaque of the entry. -/
structure Faithful (before after : Frame) : Prop where
  owner : after.entry.opaqueVal = before.entry.opaqueVal
  told : ∃ pushed, after.runtime.events = before.runtime.events ++ pushed ∧
    ∀ event ∈ pushed, event.opaqueVal = before.entry.opaqueVal

namespace Faithful

variable {env : Env} {before after : Frame}

theorem refl (frame : Frame) : Faithful frame frame := ⟨rfl, [], by simp, by simp⟩

theorem same {final : Frame} (faithful : Faithful before after)
    (owner : final.entry.opaqueVal = after.entry.opaqueVal)
    (events : final.runtime.events = after.runtime.events) : Faithful before final := by
  obtain ⟨kept, pushed, told, owned⟩ := faithful
  exact ⟨owner.trans kept, pushed, events.trans told, owned⟩

theorem modify (faithful : Faithful before after) {change : Entry → Entry}
    (owner : (change after.entry).opaqueVal = after.entry.opaqueVal) :
    Faithful before (after.modify change) :=
  faithful.same owner rfl

theorem tell (faithful : Faithful before after) (site : Site) (type : EventType) (id : Int)
    (value : Int) :
    Faithful before (after.pushEvent env site type id after.entry.opaqueVal value) := by
  obtain ⟨kept, pushed, told, owned⟩ := faithful
  refine ⟨kept, pushed ++ Shared.eventNodes env ⟨type, id, after.entry.opaqueVal, value,
    [], 0⟩, ?_, ?_⟩
  · simp only [Frame.pushEvent, Shared.pushEvent, told, List.append_assoc]
  · intro event member
    rcases List.mem_append.mp member with before | isNew
    · exact owned event before
    · rw [Shared.eventNodes, List.mem_ite_nil_right, List.mem_singleton] at isNew
      rw [isNew.2]
      exact kept

theorem finishEntry (faithful : Faithful before after) (type : EventType) (value : Int) :
    Faithful before (after.finishEntry env type value) := by
  unfold Frame.finishEntry
  split
  · exact faithful
  · exact ((faithful.tell _ _ _ _).modify rfl).modify rfl

theorem closeAfterWrites (faithful : Faithful before after) :
    Faithful before after.closeAfterWrites := by
  unfold Frame.closeAfterWrites
  split
  · exact faithful
  · exact (faithful.modify rfl).modify rfl

theorem releaseWrite (faithful : Faithful before after) (buffer : Buffer) :
    Faithful before (after.releaseWrite buffer) :=
  faithful.same rfl rfl

theorem submitWrite (faithful : Faithful before after) (low : Bool) (buffer : Buffer) :
    Faithful before (after.submitWrite env low buffer) := by
  unfold Frame.submitWrite
  have noted : Faithful before (after.note [.uvWrite low buffer (env.uv .write)]) :=
    faithful.modify rfl
  dsimp only
  split
  · exact noted.modify rfl
  · have dropped : Faithful before (((after.note [.uvWrite low buffer (env.uv .write)]).modify
        fun entry => { entry with queuedBytes := entry.queuedBytes - buffer.size }).releaseWrite
          buffer) := releaseWrite (noted.modify rfl) buffer
    split
    · exact (dropped.modify rfl).modify rfl
    · exact dropped.finishEntry _ _

theorem pumpWrite (faithful : Faithful before after) : Faithful before (after.pumpWrite env) := by
  unfold Frame.pumpWrite
  split
  · exact faithful
  · split
    · exact submitWrite (faithful.modify rfl) _ _
    · exact submitWrite (faithful.modify rfl) _ _
    · exact faithful

theorem pumpRound (faithful : Faithful before after) : Faithful before (after.pumpRound env) := by
  unfold Frame.pumpRound
  dsimp only
  split
  · exact pumpWrite (faithful.modify rfl)
  · exact faithful.modify rfl

theorem writeFailed (faithful : Faithful before after) (status : Int) :
    Faithful before (after.writeFailed env status) := by
  unfold Frame.writeFailed
  split
  · split
    · exact (faithful.modify rfl).modify rfl
    · exact faithful.finishEntry _ _
  · exact faithful

theorem writeRecovered (faithful : Faithful before after) :
    Faithful before (after.writeRecovered env) := by
  unfold Frame.writeRecovered
  split
  · exact (faithful.modify rfl).tell _ _ _ _
  · exact faithful

theorem resumeWrites (faithful : Faithful before after) :
    Faithful before (after.resumeWrites env) := by
  unfold Frame.resumeWrites
  split
  · exact faithful.closeAfterWrites
  · split
    · exact faithful.pumpWrite
    · exact faithful

theorem writeCompleted (faithful : Faithful before after) (status : Int) :
    Faithful before (after.writeCompleted env status) := by
  unfold Frame.writeCompleted
  split
  · exact faithful
  · rename_i buffer rest writes
    have failed : Faithful before (((after.modify fun entry =>
        { entry with uvWrites := rest }).note [.completed buffer status]).writeFailed env status) :=
      writeFailed ((faithful.modify rfl).modify rfl) status
    exact resumeWrites (writeRecovered (releaseWrite (failed.modify rfl) buffer))

theorem udpWriteCompleted (faithful : Faithful before after) (index : Nat) (status : Int) :
    Faithful before (after.udpWriteCompleted env index status) := by
  unfold Frame.udpWriteCompleted
  split
  · exact faithful
  · dsimp only
    refine releaseWrite (modify ?_ rfl) _
    split
    · exact (faithful.modify rfl).tell _ _ _ _
    · exact faithful.modify rfl

/-- A datagram on a UDP socket: every branch takes the opaque from the entry. -/
theorem processUdpSend (faithful : Faithful before after) (bound : after.entry.state = .udp)
    (command : Command) (payload : SendPayload) :
    Faithful before (after.processUdpSend env command payload).1 := by
  rw [Frame.processUdpSend, if_neg (not_not.mpr bound)]
  split
  · exact faithful.tell _ _ _ _
  · split
    · exact faithful.tell _ _ _ _
    · split
      · exact faithful.tell _ _ _ _
      · dsimp only
        exact faithful.modify rfl

theorem countQueued (faithful : Faithful before after) (buffer : Buffer) :
    Faithful before (after.countQueued env buffer) := by
  have counted : Faithful before (after.modify fun entry =>
      { entry with queuedBytes := entry.queuedBytes + buffer.size }) := faithful.modify rfl
  unfold Frame.countQueued
  dsimp only
  split
  · exact (counted.modify rfl).tell _ _ _ _
  · exact counted

theorem queueWrite (faithful : Faithful before after) (low : Bool) (buffer : Buffer) :
    Faithful before (after.queueWrite low buffer) := by
  have noted : Faithful before (after.note [.queued low buffer]) := faithful.modify rfl
  unfold Frame.queueWrite
  dsimp only
  split
  · exact noted.modify rfl
  · exact noted.modify rfl

theorem listForPump (faithful : Faithful before after) : Faithful before after.listForPump := by
  unfold Frame.listForPump
  split
  · exact faithful.same rfl rfl
  · exact faithful

theorem processSend {command : Command} {payload : SendPayload} (faithful : Faithful before after)
    (low : Bool) (accepted : (CommandBody.send payload).rejectedBy after.entry = false) :
    Faithful before (after.processSend env command low payload).1 := by
  unfold Frame.processSend
  split
  · exact faithful.processUdpSend ‹_› command payload
  · rename_i stream
    simp only [CommandBody.rejectedBy, stream, ne_eq, not_false_eq_true, decide_true,
      Bool.true_and, Bool.or_eq_false_iff, decide_eq_false_iff_not] at accepted
    rw [if_neg accepted.1, if_neg (by simp [accepted.2])]
    split
    · exact faithful.tell _ _ _ _
    · exact ((faithful.queueWrite low payload.buffer).countQueued payload.buffer).listForPump

theorem destroyCommand (faithful : Faithful before after) (command : Command) :
    Faithful before { after with runtime := after.runtime.destroyCommand command } := by
  rw [Shared.destroyCommand_eq]
  exact faithful.same rfl rfl

end Faithful

/-- A send that the handlers do not reject. -/
theorem runCommand_faithful {cfg : Config} {env : Env} (frame : Frame) {command : Command}
    (sends : command.body.payload.isSome = true)
    (accepted : command.body.rejectedBy frame.entry = false) :
    Faithful frame (frame.runCommand cfg env command) := by
  unfold Frame.runCommand
  cases body : command.body with
  | send payload | sendLow payload =>
      rw [body] at accepted
      exact ((Faithful.refl frame).processSend _ accepted).destroyCommand _
  | udpSend payload =>
      rw [body] at accepted
      have bound : frame.entry.state = .udp := by simpa [CommandBody.rejectedBy] using accepted
      exact ((Faithful.refl frame).processUdpSend bound command payload).destroyCommand _
  | _ =>
      rw [body] at sends
      cases sends

/-- A rejected send pushes one event, with the opaque of the command. -/
theorem processSend_rejected {env : Env} {frame : Frame} {payload : SendPayload}
    (command : Command) (low : Bool)
    (rejected : (CommandBody.send payload).rejectedBy frame.entry = true) :
    ∃ error, (frame.processSend env command low payload).1 =
      frame.pushEvent env .other .error command.id command.opaqueVal error := by
  simp only [CommandBody.rejectedBy, Bool.and_eq_true, Bool.or_eq_true, decide_eq_true_eq]
    at rejected
  obtain ⟨stream, unready | closing⟩ := rejected
  · exact ⟨uvEnotconn, by rw [processSend, if_neg stream, if_pos unready]⟩
  · rw [processSend, if_neg stream]
    split
    · exact ⟨uvEnotconn, rfl⟩
    · exact ⟨uvEcanceled, rfl⟩

theorem runCommand_misreports {cfg : Config} {env : Env} (frame : Frame) {command : Command}
    (rejected : command.body.rejectedBy frame.entry = true) :
    ∃ error, (frame.runCommand cfg env command).runtime.events = frame.runtime.events ++
      Shared.eventNodes env ⟨.error, command.id, command.opaqueVal, error, [], 0⟩ := by
  unfold Frame.runCommand
  cases body : command.body with
  | send payload | sendLow payload =>
      rw [body] at rejected
      simp only [Shared.destroyCommand_eq]
      obtain ⟨error, pushed⟩ := processSend_rejected command _ rejected
      exact ⟨error, by rw [pushed]; rfl⟩
  | udpSend payload =>
      rw [body] at rejected
      have unbound : frame.entry.state ≠ .udp := by simpa [CommandBody.rejectedBy] using rejected
      simp only [Shared.destroyCommand_eq, processUdpSend, if_pos unbound]
      exact ⟨uvEnotconn, rfl⟩
  | _ =>
      rw [body] at rejected
      cases rejected

end Frame

theorem Act.faithful {cfg : Config} (act : Act) (frame : Frame) (serves : act.servesSend = true)
    (accepted : ∀ cmd env, act = .command cmd env → cmd.body.rejectedBy frame.entry = false) :
    frame.Faithful (act.run cfg frame) := by
  cases act with
  | command cmd env => exact frame.runCommand_faithful serves (accepted cmd env rfl)
  | pump env => exact (Frame.Faithful.refl frame).pumpRound
  | writeCompleted status env => exact (Frame.Faithful.refl frame).writeCompleted status
  | udpWriteCompleted index status env =>
      exact (Frame.Faithful.refl frame).udpWriteCompleted index status
  | _ => cases serves

/-- Whenever the loop serves a send on a socket, by its command, by the pump or by a
completion, all events that it pushes carry the opaque of the socket, if and only if
the command was not rejected for the state of the socket, or the `ERROR` event found
no memory, or the socket belongs to service zero. -/
theorem send_events_reach_owner_iff {cfg : Config} {state next : State} {label : Label} {key : Nat}
    {act : Act} {entry : Entry} (reached : (socketSystem cfg).Reachable state)
    (target : state.target cfg label = some (key, act)) (serves : act.servesSend = true)
    (at_key : state.entries[key]? = some entry) (run : step cfg state label = some next) :
    (∀ event ∈ next.runtime.events.drop state.runtime.events.length,
        event.opaqueVal = entry.opaqueVal) ↔
      act.misreports entry = false ∨ entry.opaqueVal = 0 := by
  have wf := State.wf_reachable reached
  have ofLoop : act.ofLoop = true := by
    cases act with
    | command | pump | writeCompleted | udpWriteCompleted => rfl
    | _ => cases serves
  obtain ⟨-, prepared, ready, rfl⟩ := (wf.of_step run).1.acts wf target ofLoop at_key
  have at_prepared := ready.entries ▸ at_key
  have unheard : prepared.runtime.events = state.runtime.events := by cases ready <;> rfl
  rw [State.focus_eq prepared at_prepared, ← unheard]
  by_cases rejected : ∃ cmd env, act = .command cmd env ∧ cmd.body.rejectedBy entry = true
  · obtain ⟨cmd, env, rfl, rejected⟩ := rejected
    obtain ⟨error, events⟩ : ∃ error, (Frame.runCommand cfg env cmd
        ⟨key, entry, prepared.runtime⟩).runtime.events = prepared.runtime.events ++
          Shared.eventNodes env ⟨.error, cmd.id, cmd.opaqueVal, error, [], 0⟩ :=
      Frame.runCommand_misreports _ rejected
    have queued : cmd ∈ state.commands := by
      cases ready with
      | command cmd rest env consuming head => simp [head]
      | callback running delivered => cases delivered
    obtain ⟨payload, carries⟩ := Option.isSome_iff_exists.mp serves
    have ownerless := (State.issued_reachable reached cmd queued).ownerless payload carries
    simp only [Act.run, events, List.drop_left, ownerless, Shared.eventNodes, Act.misreports,
      rejected]
    cases env.event .error with
    | false => simp
    | true => simp [eq_comm]
  · have faithful : Frame.Faithful ⟨key, entry, prepared.runtime⟩
        (act.run cfg ⟨key, entry, prepared.runtime⟩) := by
      refine act.faithful _ serves fun cmd env isCommand => ?_
      rw [← Bool.not_eq_true]
      exact fun isRejected => rejected ⟨cmd, env, isCommand, isRejected⟩
    have reports : act.misreports entry = false := by
      cases act with
      | command cmd env =>
          rw [Act.misreports, Bool.and_eq_false_iff, ← Bool.not_eq_true (cmd.body.rejectedBy entry)]
          exact .inr fun isRejected => rejected ⟨cmd, env, rfl, isRejected⟩
      | _ => rfl
    obtain ⟨-, pushed, events, owned⟩ := faithful
    rw [events, List.drop_left]
    exact ⟨fun _ => .inl reports, fun _ => owned⟩

/-- A send for a connected socket is next in the queue. -/
def sendQueuedState : State :=
  ((socketSystem fourSlots).exec State.init (connectRun ++
    ([.api (.send 4 false 3 .owned true false) .fine, .poll .fine, .wakeup] : List Label))).get
      (by decide)

def sendQueuedEntry : Entry := (sendQueuedState.entries[0]?).get (by decide)

def queuedSend : Command := ⟨4, 0, .send ⟨⟨0, 3, true⟩, .owned, []⟩⟩

/-- The connected socket accepts the send. -/
theorem send_events_reach_owner_connected :
    ∃ next, step fourSlots sendQueuedState (.command .fine) = some next ∧
      ∀ event ∈ next.runtime.events.drop sendQueuedState.runtime.events.length,
        event.opaqueVal = sendQueuedEntry.opaqueVal := by
  refine ⟨_, (Option.some_get (by decide)).symm, ?_⟩
  have reached : (socketSystem fourSlots).Reachable sendQueuedState :=
    ⟨_, (Option.some_get _).symm⟩
  have target : sendQueuedState.target fourSlots (.command .fine) =
      some (0, .command queuedSend .fine) := rfl
  exact (send_events_reach_owner_iff reached target rfl (Option.some_get _).symm
    (Option.some_get _).symm).mpr (.inl (by decide))

/-- A send while the socket is still connecting: the socket belongs to service 7, and
the error goes to service 0. -/
theorem early_send_error_lost :
    ∃ final entry, (socketSystem fourSlots).exec State.init
        [.openCall (.connect (some "127.0.0.1") 80) 7 .fine, .worker 0 .fine, .worker 0 .fine,
          .worker 0 .fine, .api (.send 4 false 3 .owned true false) .fine, .poll .fine, .wakeup,
          .command .fine, .command .fine] = some final ∧
      final.entries[0]? = some entry ∧ entry.state = .connecting ∧ entry.opaqueVal = 7 ∧
      final.runtime.events = [⟨.error, 4, 0, uvEnotconn, [], 0⟩] :=
  ⟨_, _, (Option.some_get (by decide)).symm, (Option.some_get (by decide)).symm, by decide,
    by decide, by decide⟩

end Skyuv.Socket
