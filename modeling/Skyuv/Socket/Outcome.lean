import Skyuv.Socket.Runtime

/-!
# What an act does to the shared runtime

Almost every handler is local: it changes its own entry, appends events to the
event queue and releases buffers.  The exceptions are few, and `Frame.Outcome`
lists them: an entry joins or leaves the pump list, leaves the slot table, or is
freed.  `told` ties the history of an entry to the event queue: what a handler
appends to the one it also appends to the other.
-/

set_option autoImplicit false

namespace Skyuv.Socket

/-- The event that an observation put on the event queue. -/
def Obs.pushed : Obs → Option Event
  | .event _ pushed => some pushed
  | _ => none

/-- The runtime without the two queues that handlers only append to. -/
def Shared.still (runtime : Shared) : Shared := { runtime with events := [], released := [] }

/-- The buffer that goes when the command is destroyed. -/
def Command.owned (command : Command) : List Buffer :=
  match command.body with
  | .send payload | .sendLow payload | .udpSend payload =>
      if payload.ownership = .owned then [payload.buffer] else []
  | _ => []

theorem Shared.destroyCommand_eq (runtime : Shared) (command : Command) :
    runtime.destroyCommand command =
      { runtime with released := runtime.released ++ command.owned } := by
  unfold Shared.destroyCommand Command.owned
  cases command.body
  case send payload | sendLow payload | udpSend payload =>
    dsimp only
    split
    · rfl
    · rw [List.append_nil]
  all_goals simp only [List.append_nil]

namespace Frame

/-- What `after` looks like from outside the entry. -/
structure Yields (before after : Frame) (runtime : Shared) (freed listed : Bool) : Prop where
  key : after.key = before.key
  id : after.entry.id = before.entry.id
  still : after.runtime.still = runtime.still
  freed : after.entry.freed = freed
  listed : after.entry.pumpPending = listed
  told : ∃ observations, after.entry.log = before.entry.log ++ observations ∧
    after.runtime.events = before.runtime.events ++ observations.filterMap Obs.pushed

def Local (before after : Frame) : Prop :=
  Yields before after before.runtime before.entry.freed before.entry.pumpPending

/-- The slot table without the entry, and `update_exit_ready`. -/
def unlinkedRuntime (cfg : Config) (frame : Frame) : Shared :=
  { frame.runtime with
    table := frame.runtime.table.unlink cfg frame.key frame.entry.id }.updateExitReady

inductive Outcome (cfg : Config) (before : Frame) : Act → Frame → Prop
  | kept {act : Act} {after : Frame} (pump : ∀ env, act ≠ .pump env)
      (kept : Local before after) : Outcome cfg before act after
  | unpumped {after : Frame} (env : Env)
      (yields : Yields before after before.runtime before.entry.freed false) :
      Outcome cfg before (.pump env) after
  | listed {after : Frame} (command : Command) (env : Env)
      (unlisted : before.entry.pumpPending = false)
      (yields : Yields before after
        { before.runtime with pumpList := before.runtime.pumpList ++ [before.key] }
        before.entry.freed true) :
      Outcome cfg before (.command command env) after
  | unlinked {act : Act} {after : Frame}
      (unlinks : (∃ command env, act = .command command env) ∨ act = .exitScan ∨
        (∃ env, act = .acceptInto env) ∨ act = .closeEntry)
      (yields : Yields before after (before.unlinkedRuntime cfg) true before.entry.pumpPending) :
      Outcome cfg before act after
  | cleared {after : Frame} (slot : Nat)
      (yields : Yields before after
        { before.runtime with
          table := { before.runtime.table with
            slots := Function.update before.runtime.table.slots slot none } }
        true before.entry.pumpPending) :
      Outcome cfg before (.releaseScan slot) after
  | freed {after : Frame}
      (yields : Yields before after before.runtime true before.entry.pumpPending) :
      Outcome cfg before .freeEntry after

variable {cfg : Config} {env : Env} {before middle after frame : Frame}

theorem Local.refl (frame : Frame) : Local frame frame :=
  ⟨rfl, rfl, rfl, rfl, rfl, [], by simp, by simp⟩

theorem Yields.after_local {runtime : Shared} {freed listed : Bool}
    (first : Yields before middle runtime freed listed) (second : Local middle after) :
    Yields before after runtime freed listed := by
  obtain ⟨firstObs, firstLog, firstEvents⟩ := first.told
  obtain ⟨secondObs, secondLog, secondEvents⟩ := second.told
  refine ⟨second.key.trans first.key, second.id.trans first.id, second.still.trans first.still,
    second.freed.trans first.freed, second.listed.trans first.listed, firstObs ++ secondObs, ?_, ?_⟩
  · rw [secondLog, firstLog, List.append_assoc]
  · rw [secondEvents, firstEvents, List.append_assoc, List.filterMap_append]

theorem Yields.table {runtime : Shared} {freed listed : Bool}
    (yields : Yields before after runtime freed listed) : after.runtime.table = runtime.table := by
  have same : after.runtime.still.table = runtime.still.table := by rw [yields.still]
  exact same

theorem Yields.pumpList {runtime : Shared} {freed listed : Bool}
    (yields : Yields before after runtime freed listed) :
    after.runtime.pumpList = runtime.pumpList := by
  have same : after.runtime.still.pumpList = runtime.still.pumpList := by rw [yields.still]
  exact same

theorem Local.trans (first : Local before middle) (second : Local middle after) :
    Local before after :=
  Yields.after_local first second

/-! ## Local operations -/

section Operations

variable (kept : Local before after)

include kept

/-- A change of fields that nobody outside the entry looks at. -/
theorem Local.modify {change : Entry → Entry} (id : (change after.entry).id = after.entry.id)
    (freed : (change after.entry).freed = after.entry.freed)
    (listed : (change after.entry).pumpPending = after.entry.pumpPending)
    (log : (change after.entry).log = after.entry.log) : Local before (after.modify change) :=
  kept.trans ⟨rfl, id, rfl, freed, listed, [], by simp [log], by simp⟩

theorem Local.note {observations : List Obs} (silent : observations.filterMap Obs.pushed = []) :
    Local before (after.note observations) :=
  kept.trans ⟨rfl, rfl, rfl, rfl, rfl, observations, rfl, by simp [Frame.note, silent]⟩

theorem Local.pushEvent (site : Site) (type : EventType) (id : Int) (opaqueVal : Nat)
    (value : Int) : Local before (after.pushEvent env site type id opaqueVal value) := by
  have pushed (event : Event) :
      (eventObs env site event).filterMap Obs.pushed = Shared.eventNodes env event := by
    unfold eventObs Shared.eventNodes
    split <;> simp [Obs.pushed]
  exact kept.trans ⟨rfl, rfl, rfl, rfl, rfl, _, rfl, by rw [pushed]; rfl⟩

theorem Local.setEntryState (state : SocketState) : Local before (after.setEntryState state) :=
  kept.modify rfl rfl rfl rfl

theorem Local.setOpaque (opaqueVal : Nat) : Local before (after.setOpaque opaqueVal) :=
  kept.modify rfl rfl rfl rfl

theorem Local.uvReadStop : Local before (after.uvReadStop env) :=
  kept.modify rfl rfl rfl rfl

theorem Local.uvClose : Local before after.uvClose :=
  kept.trans ⟨rfl, rfl, rfl, rfl, rfl, [.uvClose], rfl, by simp [Frame.uvClose, Obs.pushed]⟩

theorem Local.releaseWrite (buffer : Buffer) : Local before (after.releaseWrite buffer) :=
  kept.trans ⟨rfl, rfl, rfl, rfl, rfl, [], by simp [Frame.releaseWrite],
    by simp [Frame.releaseWrite, Shared.release]⟩

theorem Local.cacheTcpName (name : Option TcpName) : Local before (after.cacheTcpName name) := by
  unfold Frame.cacheTcpName
  split
  · exact kept
  · exact kept.modify rfl rfl rfl rfl

theorem Local.startReading : Local before (after.startReading env) := by
  unfold Frame.startReading
  split
  · exact kept.modify rfl rfl rfl rfl
  · exact kept

theorem Local.rejectEntry (error : Int) : Local before (after.rejectEntry env error) :=
  ((kept.pushEvent _ _ _ _ _).setEntryState _).uvClose

theorem Local.finishEntry (type : EventType) (value : Int) :
    Local before (after.finishEntry env type value) := by
  unfold Frame.finishEntry
  split
  · exact kept
  · exact ((kept.pushEvent _ _ _ _ _).setEntryState _).uvClose

theorem Local.closeAfterWrites : Local before after.closeAfterWrites := by
  unfold Frame.closeAfterWrites
  split
  · exact kept
  · exact (kept.setEntryState _).uvClose

end Operations

theorem destroyCommand_local (frame : Frame) (command : Command) :
    Local frame { frame with runtime := frame.runtime.destroyCommand command } := by
  rw [Shared.destroyCommand_eq]
  exact ⟨rfl, rfl, rfl, rfl, rfl, [], by simp, by simp⟩

/-! ## Leaving the table -/

theorem updateExitReady_still (runtime : Shared) :
    runtime.updateExitReady.still = runtime.still.updateExitReady := by
  unfold Shared.updateExitReady Shared.still
  split <;> rfl

theorem updateExitReady_events (runtime : Shared) :
    runtime.updateExitReady.events = runtime.events := by
  unfold Shared.updateExitReady
  split <;> rfl

theorem unlinkedRuntime_table (frame : Frame) : (frame.unlinkedRuntime cfg).table =
    frame.runtime.table.unlink cfg frame.key frame.entry.id := by
  unfold unlinkedRuntime Shared.updateExitReady
  split <;> rfl

theorem unlinkedRuntime_pumpList (frame : Frame) :
    (frame.unlinkedRuntime cfg).pumpList = frame.runtime.pumpList := by
  unfold unlinkedRuntime Shared.updateExitReady
  split <;> rfl

theorem unlinkedRuntime_still (kept : Local before after) :
    (after.unlinkedRuntime cfg).still = (before.unlinkedRuntime cfg).still := by
  have seen (frame : Frame) : (frame.unlinkedRuntime cfg).still =
      { frame.runtime.still with
        table := frame.runtime.still.table.unlink cfg frame.key frame.entry.id }.updateExitReady :=
    updateExitReady_still _
  rw [seen, seen, kept.still, kept.key, kept.id]

theorem unlink_yields (kept : Local before middle) (key : after.key = middle.key)
    (id : after.entry.id = middle.entry.id) (freed : after.entry.freed = true)
    (listed : after.entry.pumpPending = middle.entry.pumpPending)
    (log : after.entry.log = middle.entry.log ++ [.free])
    (still : after.runtime.still = (middle.unlinkedRuntime cfg).still)
    (events : after.runtime.events = middle.runtime.events) :
    Yields before after (before.unlinkedRuntime cfg) true before.entry.pumpPending := by
  obtain ⟨observations, told, pushed⟩ := kept.told
  refine ⟨key.trans kept.key, id.trans kept.id, still.trans (unlinkedRuntime_still kept), freed,
    listed.trans kept.listed, observations ++ [.free], ?_, ?_⟩
  · rw [log, told, List.append_assoc]
  · rw [events, pushed]
    simp [Obs.pushed]

theorem discardUninitializedEntry_yields (kept : Local before after) :
    Yields before (after.discardUninitializedEntry cfg) (before.unlinkedRuntime cfg) true
      before.entry.pumpPending :=
  unlink_yields kept rfl rfl rfl rfl rfl rfl (updateExitReady_events _)

theorem releaseAll_still (buffers : List Buffer) (runtime : Shared) :
    (runtime.releaseAll buffers).still = runtime.still ∧
      (runtime.releaseAll buffers).events = runtime.events := by
  induction buffers generalizing runtime with
  | nil => exact ⟨rfl, rfl⟩
  | cons buffer rest ih => exact ih (runtime.release buffer)

theorem closeEntry_yields (frame : Frame) :
    Yields frame (frame.closeEntry cfg) (frame.unlinkedRuntime cfg) true
      frame.entry.pumpPending := by
  let middle : Frame := { frame with
    entry := { frame.entry with high := [], low := [] }
    runtime := (frame.runtime.releaseAll frame.entry.high).releaseAll frame.entry.low }
  have released : middle.runtime.still = frame.runtime.still ∧
      middle.runtime.events = frame.runtime.events :=
    ⟨((releaseAll_still _ _).1).trans (releaseAll_still _ _).1,
      ((releaseAll_still _ _).2).trans (releaseAll_still _ _).2⟩
  have kept : Local frame middle :=
    ⟨rfl, rfl, released.1, rfl, rfl, [], by simp [middle], by simp [released.2]⟩
  exact unlink_yields kept rfl rfl rfl rfl rfl rfl (updateExitReady_events _)

/-! ## Callbacks -/

theorem Local.pushDataEvent (kept : Local before after) (data : List UInt8) (size : Nat) :
    Local before (after.pushDataEvent env data size) := by
  unfold Frame.pushDataEvent
  split
  · exact kept.trans ⟨rfl, rfl, rfl, rfl, rfl, _, rfl, by simp [Obs.pushed]⟩
  · exact kept

theorem readCompleted_local (frame : Frame) (nread : Int) (data : List UInt8) :
    Local frame (frame.readCompleted env nread data) := by
  have kept := Local.refl frame
  unfold readCompleted
  split
  · exact kept.pushDataEvent _ _
  · split
    · exact kept
    · split
      · have stopped : Local frame (frame.modify fun entry => { entry with uvReading := false }) :=
          kept.modify rfl rfl rfl rfl
        dsimp only
        split
        · exact ((stopped.modify rfl rfl rfl rfl).pushEvent _ _ _ _ _).setEntryState _
        · exact stopped
      · exact kept.finishEntry _ _

theorem udpReceived_local (frame : Frame) (nread : Int) (data : List UInt8)
    (address : Option SockAddr) : Local frame (frame.udpReceived env nread data address) := by
  have kept := Local.refl frame
  unfold udpReceived
  split
  · exact kept.finishEntry _ _
  · cases address with
    | none => exact kept
    | some address =>
        dsimp only
        split
        · exact ⟨rfl, rfl, rfl, rfl, rfl, _, rfl, by simp [Obs.pushed]⟩
        · exact kept

theorem Local.submitWrite (kept : Local before after) (low : Bool) (buffer : Buffer) :
    Local before (after.submitWrite env low buffer) := by
  have noted : Local before (after.note [.uvWrite low buffer (env.uv .write)]) :=
    kept.note (by simp [Obs.pushed])
  unfold Frame.submitWrite
  dsimp only
  split
  · exact noted.modify rfl rfl rfl rfl
  · split
    · exact (((noted.modify rfl rfl rfl rfl).releaseWrite _).setEntryState _).uvClose
    · exact ((noted.modify rfl rfl rfl rfl).releaseWrite _).finishEntry _ _

theorem Local.pumpWrite (kept : Local before after) : Local before (after.pumpWrite env) := by
  unfold Frame.pumpWrite
  split
  · exact kept
  · split
    · exact (kept.modify rfl rfl rfl rfl).submitWrite _ _
    · exact (kept.modify rfl rfl rfl rfl).submitWrite _ _
    · exact kept

theorem Local.writeFailed (kept : Local before after) (status : Int) :
    Local before (after.writeFailed env status) := by
  unfold Frame.writeFailed
  split
  · split
    · exact (kept.setEntryState _).uvClose
    · exact kept.finishEntry _ _
  · exact kept

theorem Local.accountWrite (kept : Local before after) (buffer : Buffer) :
    Local before (after.accountWrite buffer) :=
  (kept.modify rfl rfl rfl rfl).releaseWrite _

theorem Local.writeRecovered (kept : Local before after) :
    Local before (after.writeRecovered env) := by
  unfold Frame.writeRecovered
  split
  · exact (kept.modify rfl rfl rfl rfl).pushEvent _ _ _ _ _
  · exact kept

theorem Local.resumeWrites (kept : Local before after) : Local before (after.resumeWrites env) := by
  unfold Frame.resumeWrites
  split
  · exact kept.closeAfterWrites
  · split
    · exact kept.pumpWrite
    · exact kept

theorem writeCompleted_local (frame : Frame) (status : Int) :
    Local frame (frame.writeCompleted env status) := by
  have kept := Local.refl frame
  unfold writeCompleted
  split
  · exact kept
  · exact (((((kept.modify rfl rfl rfl rfl).note (by simp [Obs.pushed])).writeFailed _).accountWrite
      _).writeRecovered).resumeWrites

theorem udpWriteCompleted_local (frame : Frame) (index : Nat) (status : Int) :
    Local frame (frame.udpWriteCompleted env index status) := by
  have kept := Local.refl frame
  unfold udpWriteCompleted
  split
  · exact kept
  · dsimp only
    split
    · exact (((kept.modify rfl rfl rfl rfl).pushEvent _ _ _ _ _).modify rfl rfl rfl
        rfl).releaseWrite _
    · exact ((kept.modify rfl rfl rfl rfl).modify rfl rfl rfl rfl).releaseWrite _

theorem connectCompleted_local (frame : Frame) (status : Int) :
    Local frame (frame.connectCompleted env status) := by
  have done : Local frame (frame.modify fun entry => { entry with uvConnecting := false }) :=
    (Local.refl frame).modify rfl rfl rfl rfl
  unfold connectCompleted
  dsimp only
  split
  · exact done
  · split
    · exact done.rejectEntry _
    · split
      · exact done.startReading.rejectEntry _
      · exact ((done.startReading.setEntryState _).cacheTcpName _).pushEvent _ _ _ _ _

theorem acceptInto_outcome (frame : Frame) :
    Outcome cfg frame (.acceptInto env) (frame.acceptInto cfg env) := by
  have kept := Local.refl frame
  unfold acceptInto
  split
  · exact .unlinked (.inr (.inr (.inl ⟨env, rfl⟩))) (discardUninitializedEntry_yields kept)
  · dsimp only
    split
    · exact .kept (by simp) ((kept.modify rfl rfl rfl rfl).rejectEntry _)
    · exact .kept (by simp) (((kept.modify rfl rfl rfl rfl).setEntryState _).cacheTcpName _)

/-! ## Commands -/

/-- What a command handler does, before the command is destroyed. -/
inductive Handled (cfg : Config) (before : Frame) : Frame → Prop
  | kept {after : Frame} (kept : Local before after) : Handled cfg before after
  | discarded {after : Frame} (kept : Local before after) :
      Handled cfg before (after.discardUninitializedEntry cfg)
  | listed {after : Frame} (kept : Local before after) : Handled cfg before after.listForPump

variable {command : Command}

theorem failUninitialized_handled (kept : Local before after) (error : Int) :
    Handled cfg before (after.failUninitialized cfg env error) :=
  .discarded (kept.pushEvent _ _ _ _ _)

theorem processListen_handled (frame : Frame) (host : String) (port : Int) :
    Handled cfg frame (frame.processListen cfg env host port) := by
  have kept := Local.refl frame
  unfold processListen
  split
  · exact .kept kept
  · cases env.parseAddress host port with
    | error error => exact failUninitialized_handled (kept.setEntryState _) _
    | ok address =>
        dsimp only
        split
        · exact failUninitialized_handled (kept.setEntryState _) _
        · split
          · exact .kept (((kept.setEntryState _).modify rfl rfl rfl rfl).rejectEntry _)
          · split
            · exact .kept (((kept.setEntryState _).modify rfl rfl rfl rfl).rejectEntry _)
            · refine .kept (.pushEvent (.cacheTcpName (.setEntryState ?_ _) _) _ _ _ _ _)
              exact ((kept.setEntryState _).modify rfl rfl rfl rfl).modify rfl rfl rfl rfl

theorem processConnect_handled (frame : Frame) (host : String) (port : Int) :
    Handled cfg frame (frame.processConnect cfg env host port) := by
  have kept := Local.refl frame
  unfold processConnect
  split
  · exact .kept kept
  · cases env.parseAddress host port with
    | error error => exact failUninitialized_handled kept _
    | ok address =>
        dsimp only
        split
        · exact failUninitialized_handled kept _
        · split
          · exact .kept (((kept.modify rfl rfl rfl rfl).setEntryState _).rejectEntry _)
          · exact .kept (((kept.modify rfl rfl rfl rfl).setEntryState _).modify rfl rfl rfl rfl)

theorem processBind_handled (frame : Frame) : Handled cfg frame (frame.processBind cfg env) := by
  have kept := Local.refl frame
  unfold processBind
  split
  · exact .kept kept
  · split
    · exact .kept kept
    · split
      · exact failUninitialized_handled kept _
      · dsimp only
        split
        · exact .kept ((kept.modify rfl rfl rfl rfl).rejectEntry _)
        · split
          · exact .kept ((kept.modify rfl rfl rfl rfl).startReading.rejectEntry _)
          · exact .kept ((((kept.modify rfl rfl rfl rfl).startReading.setEntryState
              _).cacheTcpName _).pushEvent _ _ _ _ _)

theorem processUdp_handled (frame : Frame) (host : String) (port : Int) :
    Handled cfg frame (frame.processUdp cfg env host port) := by
  have kept := Local.refl frame
  unfold processUdp
  split
  · exact .kept kept
  · cases env.parseAddress host port with
    | error error => exact failUninitialized_handled kept _
    | ok address =>
        dsimp only
        split
        · exact failUninitialized_handled (kept.modify rfl rfl rfl rfl) _
        · split
          · exact .kept (((kept.modify rfl rfl rfl rfl).modify rfl rfl rfl rfl).rejectEntry _)
          · split
            · exact .kept (((kept.modify rfl rfl rfl rfl).modify rfl rfl rfl rfl).rejectEntry _)
            · exact .kept ((((kept.modify rfl rfl rfl rfl).modify rfl rfl rfl rfl).modify
                rfl rfl rfl rfl).setEntryState _)

theorem processUdpConnect_local (frame : Frame) (host : String) (port : Int) :
    Local frame (frame.processUdpConnect env host port) := by
  have kept := Local.refl frame
  unfold processUdpConnect
  split
  · exact kept
  · cases env.parseAddress host port with
    | error error => exact kept
    | ok address => exact kept.modify rfl rfl rfl rfl

theorem processStart_local (frame : Frame) : Local frame (frame.processStart env command) := by
  have kept := Local.refl frame
  unfold processStart
  split
  · exact (kept.setOpaque _).pushEvent _ _ _ _ _
  · split
    · exact kept.pushEvent _ _ _ _ _
    · dsimp only
      split
      · exact (kept.setOpaque _).startReading.rejectEntry _
      · exact ((kept.setOpaque _).startReading.setEntryState _).pushEvent _ _ _ _ _

theorem processPause_local (frame : Frame) : Local frame (frame.processPause env) := by
  have kept := Local.refl frame
  unfold processPause
  split
  · exact kept
  · dsimp only
    split
    · exact kept.uvReadStop.pushEvent _ _ _ _ _
    · exact (kept.uvReadStop.modify rfl rfl rfl rfl).setEntryState _

theorem processUdpSend_local (frame : Frame) (payload : SendPayload) :
    Local frame (frame.processUdpSend env command payload).1 := by
  have kept := Local.refl frame
  unfold processUdpSend
  split
  · exact kept.pushEvent _ _ _ _ _
  · cases udpTargetOf payload.address frame.entry with
    | error error => exact kept.pushEvent _ _ _ _ _
    | ok target =>
        dsimp only
        split
        · exact kept.pushEvent _ _ _ _ _
        · split
          · exact kept.pushEvent _ _ _ _ _
          · dsimp only
            exact kept.modify rfl rfl rfl rfl

theorem Local.queueWrite (kept : Local before after) (low : Bool) (buffer : Buffer) :
    Local before (after.queueWrite low buffer) := by
  have noted : Local before (after.note [.queued low buffer]) := kept.note (by simp [Obs.pushed])
  unfold Frame.queueWrite
  dsimp only
  split <;> exact noted.modify rfl rfl rfl rfl

theorem Local.countQueued (kept : Local before after) (buffer : Buffer) :
    Local before (after.countQueued env buffer) := by
  unfold Frame.countQueued
  dsimp only
  split
  · exact ((kept.modify rfl rfl rfl rfl).modify rfl rfl rfl rfl).pushEvent _ _ _ _ _
  · exact kept.modify rfl rfl rfl rfl

theorem processSend_handled (frame : Frame) (low : Bool) (payload : SendPayload) :
    Handled cfg frame (frame.processSend env command low payload).1 := by
  have kept := Local.refl frame
  unfold processSend
  split
  · exact .kept (processUdpSend_local frame payload)
  · split
    · exact .kept (kept.pushEvent _ _ _ _ _)
    · split
      · exact .kept (kept.pushEvent _ _ _ _ _)
      · split
        · exact .kept (kept.pushEvent _ _ _ _ _)
        · exact .listed ((kept.queueWrite _ _).countQueued _)

theorem announceClose_local (env : Env) (command : Command) (frame : Frame) :
    Local frame (frame.announceClose env command) := by
  have noted : Local frame (frame.note [.closeCommand command.opaqueVal]) :=
    (Local.refl frame).note (by simp [Obs.pushed])
  unfold announceClose
  dsimp only
  split
  · exact (noted.setOpaque _).pushEvent _ _ _ _ _
  · exact noted.setOpaque _

theorem Local.requestClose (kept : Local before after) : Local before (after.requestClose env) := by
  unfold Frame.requestClose
  exact kept.uvReadStop.modify rfl rfl rfl rfl

theorem processClose_handled (frame : Frame) (isClose : Bool) :
    Handled cfg frame (frame.processClose cfg env command isClose) := by
  have told := announceClose_local env command frame
  unfold processClose
  split
  · exact .kept (.refl frame)
  · dsimp only
    split
    · exact .discarded told
    · split
      · exact .kept told.requestClose.closeAfterWrites
      · exact .kept ((told.setEntryState _).uvClose)

theorem Handled.outcome (handled : Handled cfg before after) (env : Env)
    (command destroyed : Command) :
    Outcome cfg before (.command command env)
      { after with runtime := after.runtime.destroyCommand destroyed } := by
  have destroys (frame : Frame) := destroyCommand_local frame destroyed
  cases handled with
  | kept kept => exact .kept (by simp) (kept.trans (destroys _))
  | discarded kept =>
      exact .unlinked (.inl ⟨command, env, rfl⟩)
        ((discardUninitializedEntry_yields kept).after_local (destroys _))
  | @listed listed kept =>
      by_cases joins : (!listed.entry.writing && !listed.entry.pumpPending) = true
      · have unlisted : before.entry.pumpPending = false := by
          rw [← kept.listed]
          simp at joins
          exact joins.2
        have added : listed.listForPump = { listed with
            entry := { listed.entry with pumpPending := true }
            runtime := { listed.runtime with
              pumpList := listed.runtime.pumpList ++ [listed.key] } } := if_pos joins
        obtain ⟨observations, log, events⟩ := kept.told
        have grown (runtime : Shared) (key : Nat) :
            ({ runtime with pumpList := runtime.pumpList ++ [key] } : Shared).still =
              { runtime.still with pumpList := runtime.still.pumpList ++ [key] } := rfl
        have yields : Yields before listed.listForPump
            { before.runtime with pumpList := before.runtime.pumpList ++ [before.key] }
            before.entry.freed true := by
          rw [added]
          refine ⟨kept.key, kept.id, ?_, kept.freed, rfl, observations, log, events⟩
          rw [grown, grown, kept.still, kept.key]
        exact .listed _ _ unlisted (yields.after_local (destroys _))
      · have same : listed.listForPump = listed := if_neg joins
        rw [same]
        exact .kept (by simp) (kept.trans (destroys _))

theorem runCommand_outcome (frame : Frame) :
    Outcome cfg frame (.command command env) (frame.runCommand cfg env command) := by
  unfold runCommand
  cases command.body with
  | listen host port backlog => exact (processListen_handled frame host port).outcome _ _ _
  | connect host port => exact (processConnect_handled frame host port).outcome _ _ _
  | bind fd => exact (processBind_handled frame).outcome _ _ _
  | udp host port => exact (processUdp_handled frame host port).outcome _ _ _
  | udpConnect host port =>
      exact (Handled.kept (processUdpConnect_local frame host port)).outcome _ _ _
  | udpSend payload => exact (Handled.kept (processUdpSend_local frame payload)).outcome _ _ _
  | start => exact (Handled.kept (processStart_local frame)).outcome _ _ _
  | pause => exact (Handled.kept (processPause_local frame)).outcome _ _ _
  | nodelay => exact (Handled.kept (.refl frame)).outcome _ _ _
  | send payload => exact (processSend_handled frame false payload).outcome _ _ _
  | sendLow payload => exact (processSend_handled frame true payload).outcome _ _ _
  | close => exact (processClose_handled frame true).outcome _ _ _
  | shutdown => exact (processClose_handled frame false).outcome _ _ _
  | exit => exact .kept (by simp) (.refl frame)

theorem exitScan_outcome (frame : Frame) : Outcome cfg frame .exitScan (frame.exitScan cfg) := by
  have kept := Local.refl frame
  unfold exitScan
  split
  · exact .unlinked (.inr (.inl rfl)) (discardUninitializedEntry_yields kept)
  · split
    · exact .kept (by simp) (kept.setEntryState _).uvClose
    · exact .kept (by simp) kept

theorem releaseScan_outcome (frame : Frame) (slot : Nat) :
    Outcome cfg frame (.releaseScan slot) (frame.releaseScan slot) := by
  have kept := Local.refl frame
  unfold releaseScan
  split
  · exact .kept (by simp) (kept.setEntryState _).uvClose
  · split
    · exact .cleared slot ⟨rfl, rfl, rfl, rfl, rfl, [.free], rfl, by simp [freeEntry, Obs.pushed]⟩
    · exact .kept (by simp) kept

theorem pumpRound_outcome (frame : Frame) :
    Outcome cfg frame (.pump env) (frame.pumpRound env) := by
  have taken : Yields frame (frame.modify fun entry => { entry with pumpPending := false })
      frame.runtime frame.entry.freed false :=
    ⟨rfl, rfl, rfl, rfl, rfl, [], by simp, by simp⟩
  unfold pumpRound
  dsimp only
  split
  · exact .unpumped env (taken.after_local (Local.refl _).pumpWrite)
  · exact .unpumped env taken

end Frame

theorem Act.run_outcome (cfg : Config) (act : Act) (frame : Frame) :
    Frame.Outcome cfg frame act (act.run cfg frame) := by
  have kept := Frame.Local.refl frame
  cases act with
  | command cmd env => exact Frame.runCommand_outcome frame
  | pump env => exact Frame.pumpRound_outcome frame
  | exitScan => exact Frame.exitScan_outcome frame
  | releaseScan slot => exact Frame.releaseScan_outcome frame slot
  | readCompleted nread data env => exact .kept (by simp) (Frame.readCompleted_local frame _ _)
  | udpReceived nread data address env =>
      exact .kept (by simp) (Frame.udpReceived_local frame _ _ _)
  | writeCompleted status env => exact .kept (by simp) (Frame.writeCompleted_local frame _)
  | udpWriteCompleted index status env =>
      exact .kept (by simp) (Frame.udpWriteCompleted_local frame _ _)
  | connectCompleted status env => exact .kept (by simp) (Frame.connectCompleted_local frame _)
  | acceptError status env => exact .kept (by simp) (kept.pushEvent _ _ _ _ _)
  | acceptStalled | setExternalFd fd =>
      exact .kept (by simp) ⟨rfl, rfl, rfl, rfl, rfl, [], (List.append_nil _).symm,
        (List.append_nil _).symm⟩
  | acceptTaken => exact .kept (by simp) (kept.note (by simp [Obs.pushed]))
  | acceptDone accepted env =>
      refine .kept (by simp) (.pushEvent (.modify (.note kept ?_) rfl rfl rfl rfl) _ _ _ _ _)
      simp [Obs.pushed]
  | acceptInto env => exact Frame.acceptInto_outcome frame
  | closeEntry => exact .unlinked (.inr (.inr (.inr rfl))) (Frame.closeEntry_yields frame)
  | freeEntry =>
      exact .freed ⟨rfl, rfl, rfl, rfl, rfl, [.free], rfl, (List.append_nil _).symm⟩

theorem Frame.Outcome.told {cfg : Config} {before after : Frame} {act : Act}
    (outcome : Frame.Outcome cfg before act after) :
    ∃ observations, after.entry.log = before.entry.log ++ observations ∧
      after.runtime.events = before.runtime.events ++ observations.filterMap Obs.pushed := by
  cases outcome with
  | kept pump kept => exact kept.told
  | unpumped env yields | listed command env unlisted yields | unlinked unlinks yields
  | cleared slot yields | freed yields => exact yields.told

end Skyuv.Socket
