import Skyuv.Lib.Ledger
import Skyuv.Socket.Steps

/-!
# Who owns a send buffer

A buffer that a send call hands over goes from the queued command to a node of
the entry, to libuv, and is released when the request completes; every early
return on the way releases it as well.  `holders` counts the places that own it
and the times it was released.  No step changes this count but the send call
itself, so it stays one for an accepted send, and zero for a refused one.
-/

set_option autoImplicit false

namespace Skyuv.Socket

open TransitionSystem Ledger

/-- The buffers of the nodes on the two lists, of the TCP write in flight and of
the UDP sends in flight. -/
def Entry.buffers (entry : Entry) : List Buffer :=
  entry.high ++ entry.low ++ entry.uvWrites ++ entry.uvUdpSends

/-- How often the buffer is in the entry or was released. -/
def Frame.holds (token : Nat) (frame : Frame) : Nat :=
  copies Buffer.token token frame.entry.buffers +
    copies Buffer.token token frame.runtime.released

/-- The buffer that comes with the act: the one of its command. -/
def Act.brings : Act → List Buffer
  | .command cmd _ => cmd.owned
  | _ => []

/-- A command that carries a buffer owns it. -/
def Command.Owns (command : Command) : Prop :=
  ∀ payload, command.body.payload = some payload → payload.ownership = .owned

theorem Command.owned_of_plain {command : Command} (plain : command.body.payload = none) :
    command.owned = [] := by
  cases body : command.body <;> simp_all [Command.owned, CommandBody.payload]

theorem Command.owned_of_payload {command : Command} {payload : SendPayload}
    (carries : command.body.payload = some payload) (owned : payload.ownership = .owned) :
    command.owned = [payload.buffer] := by
  cases body : command.body <;> simp_all [Command.owned, CommandBody.payload]

theorem Command.owns_of_plain {command : Command} (plain : command.body.payload = none) :
    command.Owns := by
  intro payload carries
  simp [plain] at carries

namespace Frame

variable {cfg : Config} {env : Env} {token : Nat}

/-! ## Operations that leave the buffers alone -/

section Plain

variable (frame : Frame)

@[simp]
theorem holds_note (observations : List Obs) :
    (frame.note observations).holds token = frame.holds token := rfl

@[simp]
theorem holds_pushEvent (site : Site) (type : EventType) (id : Int) (opaqueVal : Nat)
    (value : Int) :
    (frame.pushEvent env site type id opaqueVal value).holds token = frame.holds token := rfl

@[simp]
theorem holds_setEntryState (state : SocketState) :
    (frame.setEntryState state).holds token = frame.holds token := rfl

@[simp]
theorem holds_setOpaque (opaqueVal : Nat) :
    (frame.setOpaque opaqueVal).holds token = frame.holds token := rfl

@[simp]
theorem holds_uvClose : frame.uvClose.holds token = frame.holds token := rfl

@[simp]
theorem holds_uvReadStop : (frame.uvReadStop env).holds token = frame.holds token := rfl

@[simp]
theorem holds_unlinkEntry : (frame.unlinkEntry cfg).holds token = frame.holds token := rfl

@[simp]
theorem holds_freeEntry : frame.freeEntry.holds token = frame.holds token := rfl

@[simp]
theorem holds_updateExitReady : frame.updateExitReady.holds token = frame.holds token := by
  obtain ⟨ready, same⟩ := Skyuv.Socket.updateExitReady_eq frame.runtime
  rw [updateExitReady, same]
  rfl

@[simp]
theorem holds_modify {change : Entry → Entry}
    (same : (change frame.entry).buffers = frame.entry.buffers) :
    (frame.modify change).holds token = frame.holds token := by
  rw [holds, modify_entry, same, modify_runtime, holds]

@[simp]
theorem holds_cacheTcpName (name : Option TcpName) :
    (frame.cacheTcpName name).holds token = frame.holds token := by
  unfold cacheTcpName
  split <;> rfl

@[simp]
theorem holds_startReading : (frame.startReading env).holds token = frame.holds token := by
  unfold startReading
  split <;> rfl

@[simp]
theorem holds_rejectEntry (error : Int) :
    (frame.rejectEntry env error).holds token = frame.holds token := rfl

@[simp]
theorem holds_finishEntry (type : EventType) (value : Int) :
    (frame.finishEntry env type value).holds token = frame.holds token := by
  unfold finishEntry
  split <;> rfl

@[simp]
theorem holds_closeAfterWrites : frame.closeAfterWrites.holds token = frame.holds token := by
  unfold closeAfterWrites
  split <;> rfl

@[simp]
theorem holds_discardUninitializedEntry :
    (frame.discardUninitializedEntry cfg).holds token = frame.holds token := by
  simp [discardUninitializedEntry]

@[simp]
theorem holds_failUninitialized (error : Int) :
    (frame.failUninitialized cfg env error).holds token = frame.holds token := by
  simp [failUninitialized]

@[simp]
theorem holds_pushDataEvent (data : List UInt8) (size : Nat) :
    (frame.pushDataEvent env data size).holds token = frame.holds token := by
  unfold pushDataEvent
  split <;> rfl

theorem holds_readCompleted (nread : Int) (data : List UInt8) :
    (frame.readCompleted env nread data).holds token = frame.holds token := by
  unfold readCompleted
  dsimp only
  repeat' split
  all_goals simp [Entry.buffers]

theorem holds_udpReceived (nread : Int) (data : List UInt8) (address : Option SockAddr) :
    (frame.udpReceived env nread data address).holds token = frame.holds token := by
  unfold udpReceived
  split
  · exact holds_finishEntry frame .error nread
  · split
    · rfl
    · split <;> rfl

theorem holds_connectCompleted (status : Int) :
    (frame.connectCompleted env status).holds token = frame.holds token := by
  unfold connectCompleted
  dsimp only
  repeat' split
  all_goals simp [Entry.buffers]

theorem holds_acceptInto : (frame.acceptInto cfg env).holds token = frame.holds token := by
  unfold acceptInto
  dsimp only
  repeat' split
  all_goals simp [Entry.buffers]

theorem holds_processListen (host : String) (port : Int) :
    (frame.processListen cfg env host port).holds token = frame.holds token := by
  unfold processListen
  dsimp only
  repeat' split
  all_goals simp [Entry.buffers]

theorem holds_processConnect (host : String) (port : Int) :
    (frame.processConnect cfg env host port).holds token = frame.holds token := by
  unfold processConnect
  dsimp only
  repeat' split
  all_goals simp [Entry.buffers]

theorem holds_processBind : (frame.processBind cfg env).holds token = frame.holds token := by
  unfold processBind
  dsimp only
  repeat' split
  all_goals simp [Entry.buffers]

theorem holds_processUdp (host : String) (port : Int) :
    (frame.processUdp cfg env host port).holds token = frame.holds token := by
  unfold processUdp
  dsimp only
  repeat' split
  all_goals simp [Entry.buffers]

theorem holds_processUdpConnect (host : String) (port : Int) :
    (frame.processUdpConnect env host port).holds token = frame.holds token := by
  unfold processUdpConnect
  repeat' split
  all_goals simp [Entry.buffers]

theorem holds_processStart (command : Command) :
    (frame.processStart env command).holds token = frame.holds token := by
  unfold processStart
  dsimp only
  repeat' split
  all_goals simp

theorem holds_processPause : (frame.processPause env).holds token = frame.holds token := by
  unfold processPause
  dsimp only
  repeat' split
  all_goals simp [Entry.buffers]

theorem holds_processClose (command : Command) (isClose : Bool) :
    (frame.processClose cfg env command isClose).holds token = frame.holds token := by
  have announced : (frame.announceClose env command).holds token = frame.holds token := by
    unfold announceClose
    dsimp only
    split <;> simp
  have requested : ((frame.announceClose env command).requestClose env).holds token =
      frame.holds token := by
    rw [requestClose, holds_modify _ rfl, holds_uvReadStop, announced]
  unfold processClose
  dsimp only
  repeat' split
  all_goals simp [announced, requested]

theorem holds_exitScan : (frame.exitScan cfg).holds token = frame.holds token := by
  unfold exitScan
  repeat' split
  all_goals simp

theorem holds_releaseScan (slot : Nat) : (frame.releaseScan slot).holds token =
    frame.holds token := by
  unfold releaseScan
  repeat' split
  all_goals rfl

end Plain

/-! ## Operations that move a buffer -/

section Moving

variable (frame : Frame)

@[simp]
theorem holds_releaseWrite (buffer : Buffer) : (frame.releaseWrite buffer).holds token =
    frame.holds token + copies Buffer.token token [buffer] := by
  simp [holds, releaseWrite, Shared.release, Nat.add_assoc]

theorem holds_submitWrite (low : Bool) (buffer : Buffer) :
    (frame.submitWrite env low buffer).holds token =
      frame.holds token + copies Buffer.token token [buffer] := by
  unfold submitWrite
  dsimp only
  split
  · simp only [holds, modify, note, Entry.buffers, copies_append]
    omega
  · split
    · simp [Entry.buffers]
    · simp [Entry.buffers]

theorem holds_pumpWrite : (frame.pumpWrite env).holds token = frame.holds token := by
  unfold pumpWrite
  split
  · rfl
  · split
    · rename_i buffer rest high
      rw [holds_submitWrite]
      simp only [holds, modify, Entry.buffers, copies_append, high, copies_cons buffer rest]
      omega
    · rename_i buffer rest high low
      rw [holds_submitWrite]
      simp only [holds, modify, Entry.buffers, copies_append, low, copies_cons buffer rest]
      omega
    · rfl

theorem holds_writeCompleted (status : Int) :
    (frame.writeCompleted env status).holds token = frame.holds token := by
  have failed (frame : Frame) : (frame.writeFailed env status).holds token = frame.holds token := by
    unfold writeFailed
    repeat' split
    all_goals simp
  have recovered (frame : Frame) : (frame.writeRecovered env).holds token = frame.holds token := by
    unfold writeRecovered
    split <;> simp [Entry.buffers]
  have resumed (frame : Frame) : (frame.resumeWrites env).holds token = frame.holds token := by
    unfold resumeWrites
    repeat' split
    all_goals simp [holds_pumpWrite]
  have accounted (frame : Frame) (buffer : Buffer) : (frame.accountWrite buffer).holds token =
      frame.holds token + copies Buffer.token token [buffer] := by
    simp [accountWrite, Entry.buffers]
  unfold writeCompleted
  split
  · rfl
  · rename_i buffer rest head
    rw [resumed, recovered, accounted, failed, holds_note]
    simp only [holds, modify, Entry.buffers, copies_append, head, copies_cons buffer rest]
    omega

theorem holds_udpWriteCompleted (index : Nat) (status : Int) :
    (frame.udpWriteCompleted env index status).holds token = frame.holds token := by
  unfold udpWriteCompleted
  split
  · rfl
  · rename_i buffer at_index
    have erased : (frame.modify fun entry =>
        { entry with uvUdpSends := entry.uvUdpSends.eraseIdx index }).holds token +
          copies Buffer.token token [buffer] = frame.holds token := by
      have taken : copies Buffer.token token (frame.entry.uvUdpSends.eraseIdx index) + _ = _ :=
        copies_eraseIdx at_index
      simp only [holds, modify, Entry.buffers, copies_append]
      omega
    dsimp only
    split
    all_goals simpa [Entry.buffers] using erased

theorem holds_pumpRound : (frame.pumpRound env).holds token = frame.holds token := by
  unfold pumpRound
  dsimp only
  split
  · rw [holds_pumpWrite]
    rfl
  · rfl

theorem released_releaseAll (buffers : List Buffer) (runtime : Shared) :
    (runtime.releaseAll buffers).released = runtime.released ++ buffers := by
  induction buffers generalizing runtime with
  | nil => simp [Shared.releaseAll]
  | cons buffer rest ih => simp [Shared.releaseAll, ih, Shared.release]

theorem holds_closeEntry : (frame.closeEntry cfg).holds token = frame.holds token := by
  unfold closeEntry
  simp only [holds_updateExitReady, holds_freeEntry, holds_unlinkEntry]
  simp only [holds, Entry.buffers, released_releaseAll, copies_append, copies_nil]
  omega

/-! ## Commands -/

/-- The buffer is left to the command, or the handler has taken it over. -/
def Settles (frame : Frame) (payload : SendPayload) (result : Frame × Ownership) : Prop :=
  ∀ token, result.1.holds token +
      copies Buffer.token token (if result.2 = .owned then [payload.buffer] else []) =
    frame.holds token + copies Buffer.token token [payload.buffer]

variable {frame} {payload : SendPayload}

theorem Settles.left {after : Frame} (owned : payload.ownership = .owned)
    (same : ∀ token, after.holds token = frame.holds token) :
    frame.Settles payload (after, payload.ownership) := by
  intro token
  simp only [same, owned, if_true]

theorem Settles.taken {after : Frame} (more : ∀ token,
    after.holds token = frame.holds token + copies Buffer.token token [payload.buffer]) :
    frame.Settles payload (after, .borrowed) := by
  intro token
  simp [more]

theorem processUdpSend_settles (command : Command) (owned : payload.ownership = .owned) :
    frame.Settles payload (frame.processUdpSend env command payload) := by
  unfold processUdpSend
  split
  · exact .left owned fun _ => rfl
  · split
    · exact .left owned fun _ => rfl
    · split
      · exact .left owned fun _ => rfl
      · split
        · exact .left owned fun _ => rfl
        · refine .taken fun token => ?_
          simp only [holds, modify, Entry.buffers, copies_append]
          omega

theorem processSend_settles (command : Command) (low : Bool) (owned : payload.ownership = .owned) :
    frame.Settles payload (frame.processSend env command low payload) := by
  unfold processSend
  split
  · exact processUdpSend_settles command owned
  · split
    · exact .left owned fun _ => rfl
    · split
      · exact .left owned fun _ => rfl
      · split
        · exact .left owned fun _ => rfl
        · refine .taken fun token => ?_
          have counted (frame : Frame) :
              (frame.countQueued env payload.buffer).holds token = frame.holds token := by
            unfold countQueued
            dsimp only
            split <;> simp [Entry.buffers]
          have listed (frame : Frame) : frame.listForPump.holds token = frame.holds token := by
            unfold listForPump
            split <;> rfl
          rw [listed, counted]
          unfold queueWrite
          dsimp only
          split
          all_goals
            simp only [holds, modify, note, Entry.buffers, copies_append]
            omega

theorem holds_destroyCommand (frame : Frame) (command : Command) :
    Frame.holds token { frame with runtime := frame.runtime.destroyCommand command } =
      frame.holds token + copies Buffer.token token command.owned := by
  rw [Shared.destroyCommand_eq]
  simp [holds, Nat.add_assoc]

theorem holds_runCommand (frame : Frame) (command : Command) (owns : command.Owns) :
    (frame.runCommand cfg env command).holds token =
      frame.holds token + copies Buffer.token token command.owned := by
  have sent (payload : SendPayload) {result : Frame × Ownership}
      (carries : command.body.payload = some payload) (settles : frame.Settles payload result) :
      result.1.holds token +
        copies Buffer.token token (if result.2 = .owned then [payload.buffer] else []) =
      frame.holds token + copies Buffer.token token command.owned := by
    rw [settles token, Command.owned_of_payload carries (owns payload carries)]
  have plain {after : Frame} {body : CommandBody} (same : after.holds token = frame.holds token)
      (is : command.body = body) :
      Frame.holds token { after with
          runtime := after.runtime.destroyCommand { command with body := body } } =
        frame.holds token + copies Buffer.token token command.owned := by
    have same_command : command = { command with body := body } := by rw [← is]
    rw [holds_destroyCommand, same, ← same_command]
  unfold runCommand
  cases body : command.body with
  | listen host port backlog => exact plain (holds_processListen frame host port) body
  | connect host port => exact plain (holds_processConnect frame host port) body
  | bind fd => exact plain (holds_processBind frame) body
  | udp host port => exact plain (holds_processUdp frame host port) body
  | udpConnect host port => exact plain (holds_processUdpConnect frame host port) body
  | udpSend payload =>
      have carries : command.body.payload = some payload := by rw [body]; rfl
      simp only [holds_destroyCommand]
      exact sent payload carries (processUdpSend_settles command (owns payload carries))
  | start => exact plain (holds_processStart frame command) body
  | pause => exact plain (holds_processPause frame) body
  | nodelay => exact plain rfl body
  | send payload | sendLow payload =>
      have carries : command.body.payload = some payload := by rw [body]; rfl
      simp only [holds_destroyCommand]
      exact sent payload carries (processSend_settles command _ (owns payload carries))
  | close | shutdown => exact plain (holds_processClose frame command _) body
  | exit => simp [Command.owned, body]

end Moving

end Frame

/-- An act brings the buffer of its command and keeps every other one. -/
theorem Act.holds_run (cfg : Config) (act : Act) (frame : Frame) (token : Nat)
    (owns : ∀ command env, act = .command command env → command.Owns) :
    (act.run cfg frame).holds token =
      frame.holds token + copies Buffer.token token act.brings := by
  cases act with
  | command cmd env => exact frame.holds_runCommand cmd (owns cmd env rfl)
  | pump env => exact frame.holds_pumpRound
  | exitScan => exact frame.holds_exitScan
  | releaseScan slot => exact frame.holds_releaseScan slot
  | readCompleted nread data env => exact frame.holds_readCompleted nread data
  | udpReceived nread data address env => exact frame.holds_udpReceived nread data address
  | writeCompleted status env => exact frame.holds_writeCompleted status
  | udpWriteCompleted index status env => exact frame.holds_udpWriteCompleted index status
  | connectCompleted status env => exact frame.holds_connectCompleted status
  | acceptInto env => exact frame.holds_acceptInto
  | closeEntry => exact frame.holds_closeEntry
  | acceptError | acceptStalled | acceptTaken | acceptDone | setExternalFd | freeEntry => rfl

namespace State

variable {cfg : Config} {state next : State} {label : Label} {key token : Nat} {entry : Entry}

/-- How many owners the buffer has: queued commands, entries, and calls of its
release function. -/
def holders (token : Nat) (state : State) : Nat :=
  copies Buffer.token token (state.commands.flatMap Command.owned) +
    copies Buffer.token token (state.entries.flatMap Entry.buffers) +
    copies Buffer.token token state.runtime.released

theorem holders_focus {act : Act} (at_key : state.entries[key]? = some entry)
    (owns : ∀ command env, act = .command command env → command.Owns) :
    (state.focus cfg key act).holders token =
      state.holders token + copies Buffer.token token act.brings := by
  have acted := act.holds_run cfg ⟨key, entry, state.runtime⟩ token owns
  rw [focus_eq state at_key]
  have replaced : copies Buffer.token token
      ((state.entries.set key (act.run cfg ⟨key, entry, state.runtime⟩).entry).flatMap
        Entry.buffers) + _ = _ := copies_flatMap_set at_key
  simp only [Frame.holds] at acted
  simp only [holders]
  omega

/-- The books of the sends: a queued command owns its buffer, tokens are used
once, and each accepted one has one owner. -/
structure Books (state : State) : Prop where
  owned : ∀ command ∈ state.commands, command.Owns
  issued : ∀ record ∈ state.sends, record.token < state.nextToken
  unissued : ∀ token, state.nextToken ≤ token → state.holders token = 0
  accepted : ∀ record ∈ state.sends, record.status = .ok → state.holders record.token = 1
  refused : ∀ record ∈ state.sends, record.status ≠ .ok → record.ownership = .owned →
    state.holders record.token = 0

/-- A step that is no send call. -/
theorem Books.same (books : state.Books) (commands : ∀ command ∈ next.commands, command.Owns)
    (tokens : next.nextToken = state.nextToken) (sends : next.sends = state.sends)
    (holders : ∀ token, next.holders token = state.holders token) : next.Books := by
  refine ⟨commands, ?_, ?_, ?_, ?_⟩
  · rw [sends, tokens]
    exact books.issued
  · intro token unissued
    rw [holders, books.unissued token (tokens ▸ unissued)]
  · intro record member
    rw [holders]
    exact books.accepted record (sends ▸ member)
  · intro record member
    rw [holders]
    exact books.refused record (sends ▸ member)

/-- A send call returns: its token is new. -/
theorem Books.returned (books : state.Books) {record : SendRecord}
    (commands : ∀ command ∈ next.commands, command.Owns) (token : record.token = state.nextToken)
    (tokens : next.nextToken = state.nextToken + 1) (sends : next.sends = state.sends ++ [record])
    (others : ∀ token, token ≠ state.nextToken → next.holders token = state.holders token)
    (accepted : record.status = .ok → next.holders state.nextToken = 1)
    (refused : record.status ≠ .ok → record.ownership = .owned →
      next.holders state.nextToken = 0) : next.Books := by
  have cases_ {found : SendRecord} (member : found ∈ next.sends) :
      (found ∈ state.sends ∧ next.holders found.token = state.holders found.token) ∨
        found = record := by
    rw [sends] at member
    rcases List.mem_append.mp member with before | added
    · exact .inl ⟨before, others _ (Nat.ne_of_lt (books.issued found before))⟩
    · exact .inr (List.mem_singleton.mp added)
  refine ⟨commands, ?_, ?_, ?_, ?_⟩
  · intro found member
    rw [tokens]
    rcases cases_ member with ⟨before, -⟩ | rfl
    · exact Nat.lt_succ_of_lt (books.issued found before)
    · omega
  · intro token unissued
    rw [others token (by omega)]
    exact books.unissued token (by omega)
  · intro found member ok
    rcases cases_ member with ⟨before, same⟩ | rfl
    · rw [same]
      exact books.accepted found before ok
    · rw [token]
      exact accepted ok
  · intro found member failed owned
    rcases cases_ member with ⟨before, same⟩ | rfl
    · rw [same]
      exact books.refused found before failed owned
    · rw [token]
      exact refused failed owned

theorem holders_push (command : Command) :
    holders token { state with commands := state.commands ++ [command] } =
      state.holders token + copies Buffer.token token command.owned := by
  simp only [holders, List.flatMap_append, List.flatMap_singleton, copies_append]
  omega

theorem owns_push {command : Command} (books : state.Books) (owns : command.Owns) :
    ∀ found ∈ state.commands ++ [command], found.Owns :=
  List.forall_mem_append.mpr ⟨books.owned, List.forall_mem_singleton.mpr owns⟩

theorem Called.books {call : ApiCall} (called : state.Called call next) (books : state.Books) :
    next.Books := by
  have unissued := books.unissued state.nextToken le_rfl
  cases called with
  | unchanged => exact books
  | pushed command accepting plain notExit =>
      refine books.same (owns_push books (Command.owns_of_plain plain)) rfl rfl fun token => ?_
      rw [holders_push, Command.owned_of_plain plain, copies_nil, Nat.add_zero]
  | sent command payload ownership accepting carries token owned sized =>
      have owns : command.Owns := by
        intro other carriesOther
        cases carries.symm.trans carriesOther
        exact owned
      have holders (found : Nat) : State.holders found { state with
          commands := state.commands ++ [command]
          nextToken := state.nextToken + 1
          sends := state.sends ++ [⟨state.nextToken, ownership, .ok⟩] } =
            state.holders found + if state.nextToken = found then 1 else 0 := by
        refine (holders_push command).trans ?_
        rw [Command.owned_of_payload carries owned, copies_singleton, token]
      refine books.returned (owns_push books owns) rfl rfl rfl (fun found other => ?_) (fun _ => ?_)
        fun failed => absurd rfl failed
      · rw [holders, if_neg (Ne.symm other), Nat.add_zero]
      · rw [holders, if_pos rfl, unissued]
  | refused ownership status failed =>
      exact books.returned books.owned rfl rfl rfl (fun _ _ => rfl) (fun ok => absurd ok failed)
        fun _ _ => unissued
  | copyFreed buffer status failed token =>
      refine books.returned books.owned rfl rfl rfl (fun found other => ?_)
        (fun ok => absurd ok failed) fun _ owned => nomatch owned
      simp [holders, Shared.release, copies_singleton, token, Ne.symm other]
  | exit accepting =>
      have owns : Command.Owns ⟨0, 0, .exit⟩ := Command.owns_of_plain rfl
      refine books.same (owns_push books owns) rfl rfl fun token => ?_
      exact (holders_push _).trans (Nat.add_zero _)
  | timed time => exact books.same books.owned rfl rfl fun _ => rfl

theorem Books.focus (books : state.Books) {act : Act} (at_key : state.entries[key]? = some entry)
    (quiet : ∀ command env, act ≠ .command command env) : (state.focus cfg key act).Books := by
  have none : act.brings = [] := by
    cases act with
    | command cmd env => exact absurd rfl (quiet cmd env)
    | _ => rfl
  refine books.same ?_ ?_ ?_ fun token => ?_
  · rw [focus_eq state at_key]
    exact books.owned
  · rw [focus_eq state at_key]
  · rw [focus_eq state at_key]
  · rw [holders_focus at_key fun command env is => absurd is (quiet command env), none, copies_nil,
      Nat.add_zero]

theorem Books.reserved (books : state.Books) (opaqueVal slot cursor : Nat) :
    (state.reserved cfg opaqueVal slot cursor).Books := by
  refine books.same books.owned rfl rfl fun token => ?_
  simp [holders, State.reserved, Entry.fresh, Entry.buffers]

theorem Worked.books {index : Nat} {worker : Worker} (worked : state.Worked cfg index worker next)
    (wf : state.Wf cfg) (at_index : state.workers[index]? = some worker) (books : state.Books) :
    next.Books := by
  cases worked with
  | progressed | faulted | unlinked | decided => exact books.same books.owned rfl rfl fun _ => rfl
  | tagged fd entry pc call free at_key alive =>
      have tagged : (state.focus cfg worker.key (.setExternalFd fd)).Books :=
        books.focus at_key (by simp)
      exact tagged.same tagged.owned rfl rfl fun _ => rfl
  | submitted command pc accepting =>
      have plain : command.body.payload = none := by
        rw [(wf.workers worker (List.mem_of_getElem? at_index)).named command pc]
        cases worker.call <;> rfl
      refine books.same (owns_push books (Command.owns_of_plain plain)) rfl rfl fun token => ?_
      refine (holders_push command).trans ?_
      rw [Command.owned_of_plain plain, copies_nil, Nat.add_zero]
  | freed result entry pc at_key alive bare =>
      have freed : (state.focus cfg worker.key .freeEntry).Books := books.focus at_key (by simp)
      exact freed.same freed.owned rfl rfl fun _ => rfl

theorem Polled.books (polled : state.Polled label next) (books : state.Books) : next.Books := by
  cases polled with
  | broken env signals | entered env signals | event signals | exit signals =>
      obtain ⟨_, _, _, _, _, rfl⟩ := signals
      exact books.same books.owned rfl rfl fun _ => rfl
  | waits => exact books
  | idle => exact books.same books.owned rfl rfl fun _ => rfl

/-- A command leaves the queue. -/
theorem holders_pop {command : Command} {rest : List Command}
    (head : state.commands = command :: rest) :
    holders token { state with commands := rest } + copies Buffer.token token command.owned =
      state.holders token := by
  simp only [holders, head, List.flatMap_cons, copies_append]
  omega

theorem Books.owned_pop (books : state.Books) {command : Command} {rest : List Command}
    (head : state.commands = command :: rest) :
    command.Owns ∧ ∀ other ∈ rest, other.Owns := by
  have all := books.owned
  rw [head] at all
  exact List.forall_mem_cons.mp all

theorem Books.acted {act : Act} {prepared : State} (books : state.Books)
    (at_key : state.entries[key]? = some entry)
    (ready : state.Prepared cfg key entry act prepared) : (prepared.focus cfg key act).Books := by
  have at_prepared : prepared.entries[key]? = some entry := ready.entries ▸ at_key
  cases ready with
  | command cmd rest env consuming head plain found =>
      obtain ⟨owns, others⟩ := books.owned_pop head
      refine books.same ?_ ?_ ?_ fun token => ?_
      · rw [focus_eq _ at_prepared]
        exact others
      · rw [focus_eq _ at_prepared]
      · rw [focus_eq _ at_prepared]
      · rw [holders_focus at_prepared fun command env is => by cases is; exact owns]
        exact holders_pop head
  | exitScan | releaseScan | pump =>
      refine Books.focus ?_ at_prepared (by simp)
      exact books.same books.owned rfl rfl fun _ => rfl
  | callback running delivered =>
      refine books.focus at_key fun command env is => ?_
      rw [is] at delivered
      cases delivered

theorem Stepped.books (stepped : state.Stepped cfg label next) (wf : state.Wf cfg)
    (books : state.Books) : next.Books := by
  cases stepped with
  | called call env live called => exact called.books books
  | opened call opaqueVal env live opened =>
      cases opened with
      | failed => exact books.same books.owned rfl rfl fun _ => rfl
      | reserved slot cursor =>
          have reserved : (state.reserved cfg opaqueVal slot cursor).Books := books.reserved _ _ _
          exact reserved.same reserved.owned rfl rfl fun _ => rfl
  | worker index env live at_index worked => exact worked.books wf at_index books
  | polled polled => exact polled.books books
  | moved => exact books.same books.owned rfl rfl fun _ => rfl
  | unknown cmd rest env consuming head plain missing =>
      obtain ⟨_, same⟩ := processUnknown_eq env cmd state.runtime
      rw [same]
      refine books.same (books.owned_pop head).2 rfl rfl fun token => ?_
      rw [← holders_pop head]
      simp only [holders, copies_append]
      omega
  | exitBegun cmd rest env consuming head exit =>
      refine books.same (books.owned_pop head).2 rfl rfl fun token => ?_
      have none : cmd.owned = [] := Command.owned_of_plain (by rw [exit]; rfl)
      rw [← holders_pop head, none]
      rfl
  | exitEnded slot scanning visited =>
      obtain ⟨ready, same⟩ := updateExitReady_eq
        { state.runtime.closeProcessSignals with asyncClosing := true }
      rw [same]
      exact books.same books.owned rfl rfl fun _ => rfl
  | acted target at_key enabled ready => exact books.acted at_key ready
  | @accept key status env listener running at_key listening =>
      obtain ⟨base, result, from_⟩ := state.acceptConnection_cases cfg key listener status env
      have quiet (command : Command) (commandEnv : Env) :
          state.acceptAct cfg listener status env ≠ .command command commandEnv := by
        unfold acceptAct
        repeat' split
        all_goals simp
      rw [result]
      rcases from_ with ⟨-, rfl⟩ | ⟨cursor, rfl⟩ | ⟨slot, cursor, -, -, -, rfl⟩
      · exact books.focus at_key quiet
      · refine Books.focus ?_ at_key quiet
        exact books.same books.owned rfl rfl fun _ => rfl
      · have taken : ((state.reserved cfg listener.opaqueVal slot cursor).focus cfg
            state.entries.length (.acceptInto env)).Books :=
          (books.reserved _ _ _).focus (state.reserved_last cfg _ slot cursor) (by simp)
        exact taken.focus (accepted_kept at_key _ _ _ _) quiet
  | signal signal env running =>
      obtain ⟨_, _, same⟩ := onSignal_eq cfg env signal state.runtime
      rw [same]
      exact books.same books.owned rfl rfl fun _ => rfl
  | releaseEnded slot scanning visited => exact books.same books.owned rfl rfl fun _ => rfl
  | releaseDone running dead =>
      unfold State.releaseDone
      rw [destroyAll_eq]
      refine books.same (by simp) rfl rfl fun token => ?_
      simp only [holders, List.flatMap_nil, copies_nil, copies_append]
      omega

theorem books_reachable (reached : (socketSystem cfg).Reachable state) : state.Books := by
  refine (reached.invariant (fun state => state.Wf cfg ∧ state.Books) ?_ ?_).2
  · exact ⟨Wf.init cfg, by simp [socketSystem, State.init], by simp [socketSystem, State.init],
      fun _ _ => rfl, by simp [socketSystem, State.init], by simp [socketSystem, State.init]⟩
  · rintro state label next ⟨wf, books⟩ run
    exact ⟨(wf.of_step run).2, (wf.of_step run).1.books wf books⟩

/-! ## After the release -/

/-- Once the loop is dead, no entry holds a buffer. -/
theorem Wf.buffers_of_dead (wf : state.Wf cfg) (dead : state.loopAlive = false) :
    state.entries.flatMap Entry.buffers = [] := by
  rw [List.flatMap_eq_nil_iff]
  intro entry member
  obtain ⟨key, at_key⟩ := List.mem_iff_getElem?.mp member
  have sound := wf.sound key entry at_key
  have gone : entry.initialized = true → entry.freed = true := by
    simp only [loopAlive, Bool.or_eq_false_iff, List.any_eq_false] at dead
    simpa using dead.2 entry member
  have quiet : entry.life.Quiet := by
    by_cases opened : entry.initialized = true
    · exact (sound.dead (gone opened)).1
    · exact (sound.bare (by simpa using opened)).1
  obtain ⟨-, -, -, -, writes, sends, high, low, -⟩ := quiet
  have lists : entry.high = [] ∧ entry.low = [] ∧ entry.uvWrites = [] ∧ entry.uvUdpSends = [] :=
    ⟨high, low, writes, sends⟩
  simp [Entry.buffers, lists]

/-- At the end nothing is left but the record of the releases. -/
theorem released_empty (reached : (socketSystem cfg).Reachable state)
    (done : state.pc = .released) :
    state.commands = [] ∧ state.entries.flatMap Entry.buffers = [] := by
  refine (reached.invariant (fun state => state.Wf cfg ∧ (state.pc = .released →
    state.commands = [] ∧ state.entries.flatMap Entry.buffers = [])) ?_ ?_).2 done
  · exact ⟨Wf.init cfg, fun done => nomatch done⟩
  · rintro state label next ⟨wf, -⟩ run
    refine ⟨(wf.of_step run).2, fun done => ?_⟩
    obtain ⟨rfl, dead⟩ := (wf.of_step run).1.released done
    exact ⟨rfl, wf.buffers_of_dead dead⟩

end State

/-- In every reachable state, each accepted buffer has one owner: a queued
command, a node or request of an entry, or one call of its release function; at
the end the release it is.  A refused buffer that the caller owned has none. -/
theorem send_buffers_released_once (cfg : Config) (state : State)
    (reached : (socketSystem cfg).Reachable state) (record : SendRecord)
    (member : record ∈ state.sends) :
    (record.status = .ok → state.holders record.token = 1) ∧
    (record.status = .ok → state.pc = .released →
      copies Buffer.token record.token state.runtime.released = 1) ∧
    (record.status ≠ .ok → record.ownership = .owned → state.holders record.token = 0) := by
  have books := State.books_reachable reached
  have once := books.accepted record member
  refine ⟨once, fun ok done => ?_, books.refused record member⟩
  obtain ⟨commands, entries⟩ := State.released_empty reached done
  simpa [State.holders, commands, entries] using once ok

/-- A runtime is released with a send still in the command queue; an empty send
was refused before. -/
theorem send_buffers_released_once_queued :
    ∃ final, (socketSystem fourSlots).exec State.init (connectRun ++
        ([.api (.send 4 false 0 .owned true false) .fine,
          .api (.send 4 false 3 .owned true false) .fine,
          .release, .releaseStep, .releaseStep, .releaseStep, .releaseStep, .releaseStep,
          .closeEntry 0, .releaseDone] : List Label)) = some final ∧
      final.sends = [⟨0, .owned, .invalidArgument⟩, ⟨1, .owned, .ok⟩] ∧
      final.holders 0 = 0 ∧ copies Buffer.token 1 final.runtime.released = 1 := by
  refine ⟨_, (Option.some_get (by decide)).symm, by decide, ?_, ?_⟩
  · exact (send_buffers_released_once fourSlots _ ⟨_, (Option.some_get (by decide)).symm⟩
      ⟨0, .owned, .invalidArgument⟩ (by decide)).2.2 (by decide) rfl
  · exact (send_buffers_released_once fourSlots _ ⟨_, (Option.some_get (by decide)).symm⟩
      ⟨1, .owned, .ok⟩ (by decide)).2.1 rfl (by decide)

end Skyuv.Socket
