import Skyuv.Socket.Invariant

/-!
# What a step does

A step performs at most one act on an entry that was there before it: `target`
names the entry and the act.  `Stepped` lists what a step can be once its guards
are resolved, and everything proved of whole runs goes through it: that `Wf`
holds in every reachable state, and that an entry only ever changes by a move of
its life.
-/

set_option autoImplicit false

namespace Skyuv.Socket

open TransitionSystem

/-- Acts of the loop thread on an entry that it looks up or that libuv hands it,
other than those of `accept_connection`. -/
def Act.ofLoop : Act → Bool
  | .acceptError _ _ | .acceptStalled | .acceptTaken | .acceptDone _ _ | .acceptInto _
  | .setExternalFd _ | .freeEntry => false
  | _ => true

/-- The steps of `skyuv_socket_runtime_poll`: its entry, and a return of `uv_run`. -/
def Label.polls : Label → Bool
  | .poll _ | .runReturned _ => true
  | _ => false

/-- Only the process signals change. -/
def Resignalled (before after : Shared) : Prop :=
  ∃ hangup interrupt termination initialized failed, after =
    { before with
      hangup := hangup, interrupt := interrupt, termination := termination,
      signalsInitialized := initialized, signalsFailed := failed }

theorem initializeProcessSignals_resignalled (env : Env) (runtime : Shared) :
    Resignalled runtime (runtime.initializeProcessSignals env) := by
  have one {signal : Signal} {runtime after : Shared} {fine : Bool}
      (result : runtime.initializeProcessSignal env signal = (fine, after)) :
      ∃ hangup interrupt termination, after =
        { runtime with hangup := hangup, interrupt := interrupt, termination := termination } := by
    unfold Shared.initializeProcessSignal Shared.setInitialized at result
    split at result
    · cases result
      exact ⟨_, _, _, rfl⟩
    · cases signal <;> cases result <;> exact ⟨_, _, _, rfl⟩
  unfold Shared.initializeProcessSignals
  split
  · exact ⟨_, _, _, _, _, rfl⟩
  · dsimp only
    split
    · obtain ⟨_, _, _, rfl⟩ := one ‹_›
      exact ⟨_, _, _, _, _, rfl⟩
    · obtain ⟨_, _, _, rfl⟩ := one ‹_›
      split
      · obtain ⟨_, _, _, rfl⟩ := one ‹_›
        exact ⟨_, _, _, _, _, rfl⟩
      · obtain ⟨_, _, _, rfl⟩ := one ‹_›
        split
        · obtain ⟨_, _, _, rfl⟩ := one ‹_›
          exact ⟨_, _, _, _, _, rfl⟩
        · obtain ⟨_, _, _, rfl⟩ := one ‹_›
          exact ⟨_, _, _, _, _, rfl⟩

namespace State

/-- The act of `accept_connection` on the listener. -/
def acceptAct (cfg : Config) (listener : Entry) (status : Int) (env : Env) (state : State) : Act :=
  if status < 0 then .acceptError status env
  else
    match (state.reserveEntry cfg env listener.opaqueVal).1 with
    | none => .acceptStalled
    | some id =>
        if env.uv .tcpInit ≠ 0 then .acceptStalled
        else if env.uv .accept ≠ 0 then .acceptTaken
        else .acceptDone id env

/-- The act of an id-allocating call on the entry it reserved. -/
def workerAct (cfg : Config) (worker : Worker) (state : State) : Option Act :=
  match worker.pc with
  | .reserved =>
      match worker.call with
      | .bind fd =>
          if state.fdTaken cfg worker.key fd then none else some (.setExternalFd fd)
      | _ => none
  | .unlinked _ => some .freeEntry
  | _ => none

/-- The entry that a step works on, and what it does to it. -/
def target (cfg : Config) (state : State) : Label → Option (Nat × Act)
  | .worker index _ =>
      state.workers[index]?.bind fun worker =>
        (state.workerAct cfg worker).map fun act => (worker.key, act)
  | .command env =>
      match state.commands with
      | [] => none
      | command :: _ =>
          match command.body with
          | .exit => none
          | _ => (state.findEntry cfg command.id).map fun key => (key, .command command env)
  | .exitStep =>
      match state.pc with
      | .exitScan slot => (state.runtime.table.slots slot).map fun key => (key, .exitScan)
      | _ => none
  | .pump env => state.runtime.pumpList.head?.map fun key => (key, .pump env)
  | .readCompleted key nread data env => some (key, .readCompleted nread data env)
  | .udpReceived key nread data address env => some (key, .udpReceived nread data address env)
  | .writeCompleted key status env => some (key, .writeCompleted status env)
  | .udpWriteCompleted key index status env => some (key, .udpWriteCompleted index status env)
  | .connectCompleted key status env => some (key, .connectCompleted status env)
  | .acceptConnection key status env =>
      state.entries[key]?.map fun listener => (key, state.acceptAct cfg listener status env)
  | .closeEntry key => some (key, .closeEntry)
  | .releaseStep =>
      match state.pc with
      | .releaseScan slot =>
          (state.runtime.table.slots slot).map fun key => (key, .releaseScan slot)
      | _ => none
  | _ => none

/-- What the loop does before it acts on the entry at `key`. -/
inductive Prepared (cfg : Config) (state : State) (key : Nat) (entry : Entry) : Act → State → Prop
  | command (cmd : Command) (rest : List Command) (env : Env) (consuming : state.pc = .consuming)
      (head : state.commands = cmd :: rest) (plain : cmd.body ≠ .exit)
      (found : state.findEntry cfg cmd.id = some key) :
      Prepared cfg state key entry (.command cmd env) { state with commands := rest }
  | exitScan (slot : Nat) (scanning : state.pc = .exitScan slot)
      (occupied : state.runtime.table.slots slot = some key) :
      Prepared cfg state key entry .exitScan { state with pc := .exitScan (slot + 1) }
  | releaseScan (slot : Nat) (scanning : state.pc = .releaseScan slot)
      (occupied : state.runtime.table.slots slot = some key) :
      Prepared cfg state key entry (.releaseScan slot) { state with pc := .releaseScan (slot + 1) }
  | pump (env : Env) (rest : List Nat) (pumping : state.pc = .pumping)
      (head : state.runtime.pumpList = key :: rest) :
      Prepared cfg state key entry (.pump env)
        { state with runtime := { state.runtime with pumpList := rest } }
  | callback {act : Act} (running : state.pc.inRun = true)
      (delivered : act.deliverable entry = true) : Prepared cfg state key entry act state

/-- Steps of the loop that only move its program counter. -/
inductive Moved (cfg : Config) (state : State) : Label → LoopPc → Prop
  | wakeup (running : state.pc = .running) (open_ : state.runtime.asyncClosing = false) :
      Moved cfg state .wakeup .consuming
  | commandsDone (consuming : state.pc = .consuming) (empty : state.commands = []) :
      Moved cfg state .commandsDone .pumping
  | pumpDone (pumping : state.pc = .pumping) (empty : state.runtime.pumpList = []) :
      Moved cfg state .pumpDone .running
  | exitSkipped (slot : Nat) (scanning : state.pc = .exitScan slot) (inside : slot < cfg.slotCount)
      (free : state.runtime.table.slots slot = none) :
      Moved cfg state .exitStep (.exitScan (slot + 1))
  | release (outside : state.pc = .outside)
      (done : ∀ worker ∈ state.workers, worker.pc.isDone = true) :
      Moved cfg state .release (.releaseScan 0)
  | releaseSkipped (slot : Nat) (scanning : state.pc = .releaseScan slot)
      (inside : slot < cfg.slotCount) (free : state.runtime.table.slots slot = none) :
      Moved cfg state .releaseStep (.releaseScan (slot + 1))

/-- What a call that only submits a command can do. -/
inductive Called (state : State) : ApiCall → State → Prop
  | unchanged {call : ApiCall} : Called state call state
  | pushed {call : ApiCall} (command : Command) (accepting : state.accepting = true)
      (plain : command.body.payload = none) (notExit : command.body ≠ .exit)
      (unbound : ∀ fd, command.body ≠ .bind fd) :
      Called state call { state with commands := state.commands ++ [command] }
  | sent {call : ApiCall} (command : Command) (payload : SendPayload) (ownership : Ownership)
      (accepting : state.accepting = true) (carries : command.body.payload = some payload)
      (token : payload.buffer.token = state.nextToken) (owned : payload.ownership = .owned)
      (sized : command.Sized) (ownerless : command.opaqueVal = 0) :
      Called state call { state with
        commands := state.commands ++ [command]
        nextToken := state.nextToken + 1
        sends := state.sends ++ [⟨state.nextToken, ownership, .ok⟩] }
  | refused {call : ApiCall} (ownership : Ownership) (status : Status) (failed : status ≠ .ok) :
      Called state call { state with
        nextToken := state.nextToken + 1
        sends := state.sends ++ [⟨state.nextToken, ownership, status⟩] }
  -- the copy of a borrowed buffer goes with the failed call
  | copyFreed {call : ApiCall} (buffer : Buffer) (status : Status) (failed : status ≠ .ok)
      (token : buffer.token = state.nextToken) :
      Called state call { state with
        runtime := state.runtime.release buffer
        nextToken := state.nextToken + 1
        sends := state.sends ++ [⟨state.nextToken, .borrowed, status⟩] }
  | exit {call : ApiCall} (accepting : state.accepting = true) :
      Called state call { state with
        accepting := false, commands := state.commands ++ [⟨0, 0, .exit⟩] }
  | timed (time : Nat) :
      Called state (.updatetime time)
        { state with runtime := { state.runtime with currentTime := time } }

/-- What a send call needs besides valid arguments. -/
def Admits (env : Env) (ownership : Ownership) (state : State) : Prop :=
  state.accepting = true ∧ env.command = true ∧ (ownership = .borrowed → env.data = true)

section Submitting

variable {state : State} {env : Env} {id : Int} {size : Nat} {ownership : Ownership}
  {callback : Bool}
  {address : List UInt8} {body : SendPayload → CommandBody}

theorem submitSend_admitted (admits : state.Admits env ownership) :
    state.submitSend env id size ownership callback address body =
      { state with
        commands := state.commands ++ [⟨id, 0, body
          ⟨⟨state.nextToken, size, decide (ownership = .owned) && callback⟩, .owned, address⟩⟩]
        nextToken := state.nextToken + 1
        sends := state.sends ++ [⟨state.nextToken, ownership, .ok⟩] } := by
  obtain ⟨accepting, command, copied⟩ := admits
  have allocated : ¬ (ownership = .borrowed ∧ env.data = false) := by
    rintro ⟨borrowed, failed⟩
    rw [copied borrowed] at failed
    cases failed
  simp only [submitSend, push, if_neg allocated, command, accepting, if_true, Bool.not_true,
    Bool.false_eq_true, if_false]

variable (id size callback address body) in
theorem submitSend_rejected (rejects : ¬ state.Admits env ownership) :
    (state.submitSend env id size ownership callback address body).commands = state.commands ∧
      ∃ status, status ≠ .ok ∧
        (state.submitSend env id size ownership callback address body).sends =
          state.sends ++ [⟨state.nextToken, ownership, status⟩] := by
  unfold submitSend
  dsimp only
  split
  · exact ⟨rfl, .outOfMemory, by simp, rfl⟩
  · rename_i allocated
    split
    · refine ⟨?_, .outOfMemory, by simp, ?_⟩ <;> split <;> rfl
    · rename_i command
      have stopped : state.accepting = false := by
        by_contra accepting
        apply rejects
        refine ⟨by simpa using accepting, by simpa using command, fun borrowed => ?_⟩
        by_contra failed
        exact allocated ⟨borrowed, by simpa using failed⟩
      simp only [push, stopped, Bool.false_eq_true, if_false]
      refine ⟨?_, .invalidState, by simp, ?_⟩ <;> split <;> rfl

end Submitting

theorem Called.submitPlain (state : State) (call : ApiCall) (env : Env) {command : Command}
    (plain : command.body.payload = none) (notExit : command.body ≠ .exit)
    (unbound : ∀ fd, command.body ≠ .bind fd) :
    state.Called call (state.submitPlain env command) := by
  unfold State.submitPlain State.push
  split
  · exact .unchanged
  · split
    · exact .unchanged
    · split
      · rename_i accepting
        exact .pushed command accepting plain notExit unbound
      · exact .unchanged

theorem Called.submitSend (state : State) (call : ApiCall) (env : Env) {id : Int} {size : Nat}
    (ownership : Ownership) (callback : Bool) {address : List UInt8}
    {body : SendPayload → CommandBody} (carries : ∀ payload, (body payload).payload = some payload)
    (sized : ∀ buffer : Buffer, buffer.size = size →
      Command.Sized ⟨id, 0, body ⟨buffer, .owned, address⟩⟩) :
    state.Called call (state.submitSend env id size ownership callback address body) := by
  by_cases accepting : state.accepting = true
  · simp only [State.submitSend, State.push, if_pos accepting]
    split
    · exact .refused ownership .outOfMemory (by simp)
    · split
      · cases ownership with
        | borrowed => exact .copyFreed _ .outOfMemory (by simp) rfl
        | owned => exact .refused .owned .outOfMemory (by simp)
      · exact .sent _ ⟨_, .owned, address⟩ ownership accepting (carries _) rfl rfl (sized _ rfl) rfl
  · simp only [State.submitSend, State.push, if_neg accepting]
    split
    · exact .refused ownership .outOfMemory (by simp)
    · split
      all_goals
        cases ownership with
        | borrowed => exact .copyFreed _ _ (by simp) rfl
        | owned => exact .refused .owned _ (by simp)

theorem api_called (state : State) (call : ApiCall) (env : Env) :
    state.Called call (state.api call env) := by
  cases call with
  | start | pause | nodelay | close | shutdown =>
      exact .submitPlain state _ env rfl (by simp) (by simp)
  | udpConnect id host port =>
      dsimp only [State.api]
      split
      · exact .unchanged
      · split
        · exact .unchanged
        · exact .submitPlain state _ env rfl (by simp) (by simp)
  | send id dataNull size ownership callback low =>
      dsimp only [State.api]
      split
      · exact .refused ownership .invalidArgument (by simp)
      · rename_i valid
        have positive : 0 < size := by omega
        cases low with
        | false | true =>
            exact .submitSend state _ env ownership callback (fun _ => rfl)
              (by rintro buffer rfl payload (⟨⟨⟩⟩ | ⟨⟨⟩⟩); exact positive)
  | udpSend id address dataNull size ownership callback =>
      dsimp only [State.api]
      split
      · exact .refused ownership .invalidArgument (by simp)
      · exact .submitSend state _ env ownership callback (fun _ => rfl) (by simp [Command.Sized])
  | exit =>
      dsimp only [State.api]
      split
      · exact .unchanged
      · rename_i guard
        simp only [Bool.or_eq_true, Bool.not_eq_true', not_or, Bool.not_eq_false] at guard
        exact .exit guard.2
  | updatetime time => exact .timed time

inductive Polled (state : State) : Label → State → Prop
  | broken (env : Env) {runtime : Shared} (signals : Resignalled state.runtime runtime)
      (outside : state.pc = .outside) :
      Polled state (.poll env)
        { state with runtime := runtime, polled := state.polled ++ [.failed .system] }
  | entered (env : Env) {runtime : Shared} (signals : Resignalled state.runtime runtime)
      (outside : state.pc = .outside) (empty : state.runtime.events = [])
      (unready : state.runtime.exitReady = false) :
      Polled state (.poll env) { state with runtime := runtime, pc := .running }
  | event {label : Label} {runtime : Shared} (signals : Resignalled state.runtime runtime)
      (polls : label.polls = true) (place : state.pc = .outside ∨ state.pc = .running)
      (event : Event) (rest : List Event) (head : state.runtime.events = event :: rest) :
      Polled state label
        { state with
          runtime := { runtime with events := rest }
          polled := state.polled ++ [.event event]
          pc := .outside }
  | exit {label : Label} {runtime : Shared} (signals : Resignalled state.runtime runtime)
      (polls : label.polls = true) (place : state.pc = .outside ∨ state.pc = .running)
      (empty : state.runtime.events = []) (ready : state.runtime.exitReady = true) :
      Polled state label
        { state with
          runtime := { runtime with exitReady := false }
          polled := state.polled ++ [.exit]
          pc := .outside }
  | waits (running : state.pc = .running) (empty : state.runtime.events = [])
      (unready : state.runtime.exitReady = false) : Polled state (.runReturned false) state
  | idle (running : state.pc = .running) (dead : state.loopAlive = false)
      (empty : state.runtime.events = []) (unready : state.runtime.exitReady = false) :
      Polled state (.runReturned true)
        { state with polled := state.polled ++ [.failed .invalidState], pc := .outside }

inductive Stepped (cfg : Config) (state : State) : Label → State → Prop
  | called (call : ApiCall) (env : Env) {next : State} (live : state.pc.live = true)
      (called : state.Called call next) : Stepped cfg state (.api call env) next
  | opened (call : OpenCall) (opaqueVal : Nat) (env : Env) {next : State}
      (live : state.pc.live = true) (opened : state.Opened cfg call opaqueVal next) :
      Stepped cfg state (.openCall call opaqueVal env) next
  | worker (index : Nat) (env : Env) {worker : Worker} {next : State}
      (live : state.pc.live = true) (at_index : state.workers[index]? = some worker)
      (worked : state.Worked cfg index worker next) :
      Stepped cfg state (.worker index env) next
  | polled {label : Label} {next : State} (polled : state.Polled label next) :
      Stepped cfg state label next
  | moved {label : Label} {pc : LoopPc} (moved : state.Moved cfg label pc) :
      Stepped cfg state label { state with pc := pc }
  | unknown (cmd : Command) (rest : List Command) (env : Env) (consuming : state.pc = .consuming)
      (head : state.commands = cmd :: rest) (plain : cmd.body ≠ .exit)
      (missing : state.findEntry cfg cmd.id = none) :
      Stepped cfg state (.command env)
        { state with commands := rest, runtime := processUnknown env cmd state.runtime }
  | exitBegun (cmd : Command) (rest : List Command) (env : Env) (consuming : state.pc = .consuming)
      (head : state.commands = cmd :: rest) (exit : cmd.body = .exit) :
      Stepped cfg state (.command env)
        { state with
          commands := rest, runtime := { state.runtime with exiting := true }, pc := .exitScan 0 }
  | exitEnded (slot : Nat) (scanning : state.pc = .exitScan slot) (visited : cfg.slotCount ≤ slot) :
      Stepped cfg state .exitStep
        { state with
          runtime :=
            ({ state.runtime.closeProcessSignals with asyncClosing := true }).updateExitReady
          pc := .consuming }
  | acted {label : Label} {key : Nat} {entry : Entry} {act : Act} {prepared : State}
      (target : state.target cfg label = some (key, act))
      (at_key : state.entries[key]? = some entry) (enabled : act.Enabled entry.life)
      (ready : state.Prepared cfg key entry act prepared) :
      Stepped cfg state label (prepared.focus cfg key act)
  | accept (key : Nat) (status : Int) (env : Env) {listener : Entry}
      (running : state.pc.inRun = true) (at_key : state.entries[key]? = some listener)
      (listening : listener.uvListening = true) :
      Stepped cfg state (.acceptConnection key status env)
        (state.acceptConnection cfg key listener status env)
  | signal (signal : Signal) (env : Env) (running : state.pc = .running) :
      Stepped cfg state (.signal signal env)
        { state with runtime := state.runtime.onSignal cfg env signal }
  | releaseEnded (slot : Nat) (scanning : state.pc = .releaseScan slot)
      (visited : cfg.slotCount ≤ slot) :
      Stepped cfg state .releaseStep
        { state with
          runtime := { state.runtime with asyncClosing := true }.closeProcessSignals
          pc := .releaseRunning }
  | releaseDone (running : state.pc = .releaseRunning) (dead : state.loopAlive = false) :
      Stepped cfg state .releaseDone state.releaseDone

/-! ## Resolving the guards -/

variable {cfg : Config} {state next : State} {label : Label} {key : Nat} {entry : Entry}

/-- The acts that a step may perform by its label. -/
def issues : Label → Act → Bool
  | .worker _ _, .setExternalFd _ | .worker _ _, .freeEntry | .command _, .command _ _
  | .exitStep, .exitScan | .pump _, .pump _ | .readCompleted _ _ _ _, .readCompleted _ _ _
  | .udpReceived _ _ _ _ _, .udpReceived _ _ _ _ | .writeCompleted _ _ _, .writeCompleted _ _
  | .udpWriteCompleted _ _ _ _, .udpWriteCompleted _ _ _
  | .connectCompleted _ _ _, .connectCompleted _ _
  | .acceptConnection _ _ _, .acceptError _ _ | .acceptConnection _ _ _, .acceptStalled
  | .acceptConnection _ _ _, .acceptTaken | .acceptConnection _ _ _, .acceptDone _ _
  | .closeEntry _, .closeEntry | .releaseStep, .releaseScan _ => true
  | _, _ => false

theorem target_issues {act : Act} (target : state.target cfg label = some (key, act)) :
    issues label act = true := by
  cases label with
  | api | openCall | poll | runReturned | wakeup | commandsDone | pumpDone | signal | release
  | releaseDone => cases target
  | worker index env =>
      obtain ⟨worker, -, acts⟩ := Option.bind_eq_some_iff.mp target
      obtain ⟨_, acts, same⟩ := Option.map_eq_some_iff.mp acts
      cases same
      unfold State.workerAct at acts
      repeat' split at acts
      all_goals cases acts
      all_goals rfl
  | command env =>
      dsimp only [State.target] at target
      repeat' split at target
      · cases target
      · cases target
      · obtain ⟨_, -, same⟩ := Option.map_eq_some_iff.mp target
        cases same
        rfl
  | exitStep | releaseStep =>
      dsimp only [State.target] at target
      split at target
      · obtain ⟨_, -, same⟩ := Option.map_eq_some_iff.mp target
        cases same
        rfl
      · cases target
  | pump env =>
      obtain ⟨_, -, same⟩ := Option.map_eq_some_iff.mp target
      cases same
      rfl
  | acceptConnection listens status env =>
      obtain ⟨listener, -, same⟩ := Option.map_eq_some_iff.mp target
      cases same
      unfold State.acceptAct
      repeat' split
      all_goals rfl
  | _ =>
      cases target
      rfl

theorem poll_polled (env : Env) (outside : state.pc = .outside) :
    state.Polled (.poll env) (state.poll env) := by
  have signals := initializeProcessSignals_resignalled env state.runtime
  have same : (state.runtime.initializeProcessSignals env).events = state.runtime.events ∧
      (state.runtime.initializeProcessSignals env).exitReady = state.runtime.exitReady := by
    obtain ⟨_, _, _, _, _, same⟩ := signals
    rw [same]
    exact ⟨rfl, rfl⟩
  unfold State.poll State.pollReady
  dsimp only
  split
  · exact .broken env signals outside
  · split
    · rename_i event rest head
      exact .event signals rfl (.inl outside) event rest (same.1.symm.trans head)
    · rename_i empty
      split
      · rename_i ready
        exact .exit signals rfl (.inl outside) (same.1.symm.trans empty) (same.2.symm.trans ready)
      · rename_i unready
        exact .entered env signals outside (same.1.symm.trans empty)
          (same.2.symm.trans (by simpa using unready))

theorem runReturned_polled (idle : Bool) (running : state.pc = .running)
    (dead : idle = true → state.loopAlive = false) :
    state.Polled (.runReturned idle) (state.runReturned idle) := by
  have signals : Resignalled state.runtime state.runtime := ⟨_, _, _, _, _, rfl⟩
  unfold State.runReturned State.pollReady
  split
  · rename_i event rest head
    exact .event signals rfl (.inr running) event rest head
  · rename_i empty
    split
    · rename_i ready
      exact .exit signals rfl (.inr running) empty ready
    · rename_i unready
      cases idle with
      | false => exact .waits running empty (by simpa using unready)
      | true => exact .idle running (dead rfl) empty (by simpa using unready)

/-- A slot holds an entry that is in memory. -/
theorem Wf.occupant (wf : state.Wf cfg) {slot : Nat}
    (occupied : state.runtime.table.slots slot = some key) :
    ∃ entry, state.entries[key]? = some entry ∧ entry.freed = false := by
  obtain ⟨-, entry, at_key, alive, -⟩ := wf.linked slot key occupied
  exact ⟨entry, at_key, alive⟩

theorem Wf.found (wf : state.Wf cfg) {id : Int} (found : state.findEntry cfg id = some key) :
    ∃ entry, state.entries[key]? = some entry ∧ entry.freed = false :=
  wf.occupant (SlotTable.find_eq_some.mp found).1

/-- The guard of a callback, and the empty pump list, make its act possible. -/
theorem Wf.deliverable (wf : state.Wf cfg) (at_key : state.entries[key]? = some entry)
    (running : state.pc.inRun = true) {act : Act} (delivered : act.deliverable entry = true) :
    act.Enabled entry.life := by
  have idle : state.runtime.pumpList = [] := by
    apply wf.idle
    revert running
    cases state.pc <;> simp [LoopPc.inRun, LoopPc.consumes]
  have unlisted : entry.pumpPending = false := by
    by_contra listed
    have member := (wf.listed.marked key).mpr ⟨entry, at_key, by simpa using listed⟩
    simp [idle] at member
  cases act <;> simp_all [Act.deliverable, Act.Enabled]

theorem Wf.callback_stepped (wf : state.Wf cfg) {act : Act}
    (run : state.callback cfg key act = some next)
    (target : state.target cfg label = some (key, act)) : state.Stepped cfg label next := by
  unfold State.callback at run
  split at run
  · cases run
  · rename_i entry at_key
    split at run
    · rename_i guard
      cases run
      rw [Bool.and_eq_true] at guard
      exact .acted target at_key (wf.deliverable at_key guard.1 guard.2)
        (.callback guard.1 guard.2)
    · cases run

/-- Every command but `EXIT` is for an entry. -/
theorem consumeCommand_other (cfg : Config) (env : Env) {cmd : Command} (rest : List Command)
    (state : State) (other : cmd.body ≠ .exit) :
    state.consumeCommand cfg env cmd rest =
      match state.findEntry cfg cmd.id with
      | none => { state with commands := rest, runtime := processUnknown env cmd state.runtime }
      | some key => { state with commands := rest }.focus cfg key (.command cmd env) := by
  unfold consumeCommand
  split
  · exact absurd ‹_› other
  · rfl

theorem Wf.command_stepped (wf : state.Wf cfg) {cmd : Command} {rest : List Command} {env : Env}
    (consuming : state.pc = .consuming) (head : state.commands = cmd :: rest) :
    state.Stepped cfg (.command env) (state.consumeCommand cfg env cmd rest) := by
  by_cases exit : cmd.body = .exit
  · simp only [consumeCommand, exit]
    exact .exitBegun cmd rest env consuming head exit
  · rw [consumeCommand_other cfg env rest state exit]
    cases found : state.findEntry cfg cmd.id with
    | none => exact .unknown cmd rest env consuming head exit found
    | some key =>
        obtain ⟨entry, at_key, alive⟩ := wf.found found
        have target : state.target cfg (.command env) = some (key, .command cmd env) := by
          unfold State.target
          rw [head]
          dsimp only
          split
          · exact absurd ‹_› exit
          · rw [found]; rfl
        exact .acted target at_key ⟨alive, wf.sized cmd (by simp [head])⟩
          (.command cmd rest env consuming head exit found)

theorem Wf.stepped (wf : state.Wf cfg) (run : liveStep cfg state label = some next) :
    state.Stepped cfg label next := by
  cases label with
  | api call env =>
      obtain ⟨live, ⟨⟩⟩ := Option.ite_none_right_eq_some.mp run
      exact .called call env live (state.api_called call env)
  | openCall call opaqueVal env =>
      obtain ⟨live, ⟨⟩⟩ := Option.ite_none_right_eq_some.mp run
      exact .opened call opaqueVal env live (openCall_opened cfg call opaqueVal env state)
  | worker index env =>
      obtain ⟨live, run⟩ := Option.ite_none_right_eq_some.mp run
      obtain ⟨worker, at_index, run⟩ := Option.bind_eq_some_iff.mp run
      exact .worker index env live at_index (workerStep_worked run)
  | poll env =>
      obtain ⟨outside, ⟨⟩⟩ := Option.ite_none_right_eq_some.mp run
      exact .polled (poll_polled env outside)
  | runReturned idle =>
      obtain ⟨guard, ⟨⟩⟩ := Option.ite_none_right_eq_some.mp run
      simp only [Bool.and_eq_true, decide_eq_true_eq, Bool.not_eq_true', Bool.and_eq_false_iff]
        at guard
      exact .polled (runReturned_polled idle guard.1 fun isIdle =>
        guard.2.resolve_left (by simp [isIdle]))
  | wakeup =>
      obtain ⟨guard, ⟨⟩⟩ := Option.ite_none_right_eq_some.mp run
      simp only [Bool.and_eq_true, decide_eq_true_eq, Bool.not_eq_true'] at guard
      exact .moved (.wakeup guard.1 guard.2)
  | command env =>
      obtain ⟨consuming, run⟩ := Option.ite_none_right_eq_some.mp run
      split at run
      · cases run
      · rename_i cmd rest head
        cases run
        exact wf.command_stepped consuming head
  | commandsDone =>
      obtain ⟨guard, ⟨⟩⟩ := Option.ite_none_right_eq_some.mp run
      simp only [Bool.and_eq_true, decide_eq_true_eq, List.isEmpty_iff] at guard
      exact .moved (.commandsDone guard.1 guard.2)
  | exitStep =>
      dsimp only [liveStep] at run
      split at run
      · rename_i slot scanning
        cases run
        unfold State.exitStep
        split
        · rename_i inside
          dsimp only
          split
          · rename_i free
            exact .moved (.exitSkipped slot scanning inside free)
          · rename_i key occupied
            obtain ⟨entry, at_key, alive⟩ := wf.occupant occupied
            exact .acted (by simp only [target, scanning, occupied, Option.map_some]) at_key alive
              (.exitScan slot scanning occupied)
        · rename_i outside
          exact .exitEnded slot scanning (Nat.le_of_not_lt outside)
      · cases run
  | pump env =>
      obtain ⟨pumping, run⟩ := Option.ite_none_right_eq_some.mp run
      split at run
      · cases run
      · rename_i key rest head
        cases run
        obtain ⟨entry, at_key, marked⟩ := (wf.listed.marked key).mp (by simp [head])
        exact .acted (by simp only [target, head, List.head?_cons, Option.map_some]) at_key marked
          (.pump env rest pumping head)
  | pumpDone =>
      obtain ⟨guard, ⟨⟩⟩ := Option.ite_none_right_eq_some.mp run
      simp only [Bool.and_eq_true, decide_eq_true_eq, List.isEmpty_iff] at guard
      exact .moved (.pumpDone guard.1 guard.2)
  | readCompleted | udpReceived | writeCompleted | udpWriteCompleted | connectCompleted
  | closeEntry => exact wf.callback_stepped run rfl
  | acceptConnection key status env =>
      dsimp only [liveStep] at run
      split at run
      · cases run
      · rename_i listener at_key
        obtain ⟨guard, ⟨⟩⟩ := Option.ite_none_right_eq_some.mp run
        rw [Bool.and_eq_true] at guard
        exact .accept key status env guard.1 at_key guard.2
  | signal signal env =>
      obtain ⟨guard, ⟨⟩⟩ := Option.ite_none_right_eq_some.mp run
      simp only [Bool.and_eq_true, decide_eq_true_eq] at guard
      exact .signal signal env guard.1.1
  | release =>
      obtain ⟨guard, ⟨⟩⟩ := Option.ite_none_right_eq_some.mp run
      simp only [Bool.and_eq_true, decide_eq_true_eq, List.all_eq_true] at guard
      exact .moved (.release guard.1 guard.2)
  | releaseStep =>
      dsimp only [liveStep] at run
      split at run
      · rename_i slot scanning
        cases run
        unfold State.releaseStep
        split
        · rename_i inside
          dsimp only
          split
          · rename_i free
            exact .moved (.releaseSkipped slot scanning inside free)
          · rename_i key occupied
            obtain ⟨entry, at_key, alive⟩ := wf.occupant occupied
            exact .acted (by simp only [target, scanning, occupied, Option.map_some]) at_key alive
              (.releaseScan slot scanning occupied)
        · rename_i outside
          exact .releaseEnded slot scanning (Nat.le_of_not_lt outside)
      · cases run
  | releaseDone =>
      obtain ⟨guard, ⟨⟩⟩ := Option.ite_none_right_eq_some.mp run
      simp only [Bool.and_eq_true, decide_eq_true_eq, Bool.not_eq_true'] at guard
      exact .releaseDone guard.1 guard.2

/-! ## Every reachable state is well formed -/

end State

theorem processUnknown_eq (env : Env) (command : Command) (runtime : Shared) :
    ∃ events, processUnknown env command runtime =
      { runtime with
        events := runtime.events ++ events, released := runtime.released ++ command.owned } := by
  unfold processUnknown
  simp only [Shared.destroyCommand_eq]
  split
  · exact ⟨_, rfl⟩
  · exact ⟨_, rfl⟩
  · exact ⟨_, rfl⟩
  · exact ⟨_, rfl⟩
  · exact ⟨[], by rw [List.append_nil]⟩

theorem onSignal_eq (cfg : Config) (env : Env) (signal : Signal) (runtime : Shared) :
    ∃ events requested, runtime.onSignal cfg env signal =
      { runtime with
        events := runtime.events ++ events, processShutdownRequested := requested } := by
  unfold Shared.onSignal
  split
  · exact ⟨_, _, rfl⟩
  · exact ⟨_, _, rfl⟩

theorem updateExitReady_eq (runtime : Shared) :
    ∃ ready, runtime.updateExitReady = { runtime with exitReady := ready } := by
  unfold Shared.updateExitReady
  split
  · exact ⟨_, rfl⟩
  · exact ⟨_, rfl⟩

theorem destroyAll_eq (commands : List Command) (runtime : Shared) :
    commands.foldl (fun runtime command => runtime.destroyCommand command) runtime =
      { runtime with released := runtime.released ++ commands.flatMap Command.owned } := by
  induction commands generalizing runtime with
  | nil => simp
  | cons command rest ih =>
      rw [List.foldl_cons, ih, Shared.destroyCommand_eq, List.flatMap_cons, List.append_assoc]

namespace State

variable {cfg : Config} {state next : State} {label : Label} {key : Nat} {entry : Entry}

theorem Wf.init (cfg : Config) : State.init.Wf cfg where
  sound key entry at_key := by simp [State.init] at at_key
  chronicle := (SlotTable.inv_empty).toChronicle
  count _ := (SlotTable.inv_empty).count
  linked slot key occupied := by simp [State.init, SlotTable.empty] at occupied
  listed := ⟨by simp [State.init], by simp [State.init]⟩
  idle _ := rfl
  sized := by simp [State.init]
  workers := by simp [State.init]
  owners := by simp [State.init]

theorem Called.wf {call : ApiCall} (called : state.Called call next) (wf : state.Wf cfg) :
    next.Wf cfg := by
  have kept (command : Command) (member : command ∈ state.commands) :
      command ∈ state.commands ∨ command.Sized := .inl member
  cases called with
  | unchanged => exact wf
  | pushed command accepting plain notExit =>
      have sized : command.Sized := by
        rintro payload (send | send) <;> simp [send, CommandBody.payload] at plain
      exact wf.append sized
  | sent command payload ownership accepting carries token owned sized =>
      exact (wf.append sized).same rfl rfl rfl rfl (fun _ member => .inl member) id .inl
  | refused | copyFreed | timed => exact wf.same rfl rfl rfl rfl kept id .inl
  | exit accepting =>
      have sized : Command.Sized ⟨0, 0, .exit⟩ := by simp [Command.Sized]
      exact (wf.append sized).same rfl rfl rfl rfl (fun _ member => .inl member) id .inl

theorem Polled.wf (polled : state.Polled label next) (wf : state.Wf cfg) : next.Wf cfg := by
  have kept (command : Command) (member : command ∈ state.commands) :
      command ∈ state.commands ∨ command.Sized := .inl member
  cases polled with
  | broken env signals | entered env signals =>
      obtain ⟨_, _, _, _, _, rfl⟩ := signals
      refine wf.same rfl rfl rfl rfl kept ?_ ?_ <;> simp_all [LoopPc.live, LoopPc.consumes]
  | event signals polls place | exit signals polls place =>
      obtain ⟨_, _, _, _, _, rfl⟩ := signals
      refine wf.same rfl rfl rfl rfl kept ?_ ?_ <;>
        rcases place with place | place <;> simp [place, LoopPc.live, LoopPc.consumes]
  | waits => exact wf
  | idle running =>
      refine wf.same rfl rfl rfl rfl kept ?_ ?_ <;> simp [running, LoopPc.live, LoopPc.consumes]

theorem Wf.moved {pc : LoopPc} (wf : state.Wf cfg) (moved : state.Moved cfg label pc) :
    Wf cfg { state with pc := pc } := by
  refine wf.same rfl rfl rfl rfl (fun _ member => .inl member) ?_ ?_
  · cases moved <;> simp_all [LoopPc.live]
  · cases moved <;> simp_all [LoopPc.consumes]

theorem Wf.acted {act : Act} {prepared : State} (wf : state.Wf cfg)
    (at_key : state.entries[key]? = some entry) (enabled : act.Enabled entry.life)
    (ready : state.Prepared cfg key entry act prepared) : (prepared.focus cfg key act).Wf cfg := by
  cases ready with
  | command cmd rest env consuming head plain found =>
      have popped : Wf cfg { state with commands := rest } := by
        refine wf.same rfl rfl rfl rfl (fun other member => .inl ?_) id .inl
        rw [head]
        exact List.mem_cons_of_mem _ member
      exact popped.focus at_key enabled (by simp [Placed, consuming, LoopPc.consumes])
  | exitScan slot scanning occupied =>
      have moved : Wf cfg { state with pc := .exitScan (slot + 1) } :=
        wf.same rfl rfl rfl rfl (fun _ member => .inl member) (by simp [scanning, LoopPc.live])
          (by simp [LoopPc.consumes])
      exact moved.focus at_key enabled trivial
  | releaseScan slot scanning occupied =>
      have moved : Wf cfg { state with pc := .releaseScan (slot + 1) } :=
        wf.same rfl rfl rfl rfl (fun _ member => .inl member) (by simp [LoopPc.live])
          (by simp [scanning, LoopPc.consumes])
      exact moved.focus at_key enabled ⟨rfl, occupied⟩
  | pump env rest pumping head =>
      exact wf.pumpStep (by simp [pumping, LoopPc.consumes]) head env
  | callback running delivered =>
      refine wf.focus at_key enabled ?_
      cases act <;> trivial

/-- `accept_connection` acts on the listener after a failed reservation, or after
a reservation whose entry took the connection. -/
theorem acceptConnection_cases (cfg : Config) (key : Nat) (listener : Entry) (status : Int)
    (env : Env) (state : State) :
    ∃ base : State, state.acceptConnection cfg key listener status env =
        base.focus cfg key (state.acceptAct cfg listener status env) ∧
      ((status < 0 ∧ base = state) ∨
        (∃ cursor, base = { state with
          runtime := { state.runtime with
            table := { state.runtime.table with nextSlot := cursor } } }) ∨
        (∃ slot cursor, slot < cfg.slotCount ∧ state.runtime.table.slots slot = none ∧
          env.node = true ∧
          base = (state.reserved cfg listener.opaqueVal slot cursor).focus cfg
            state.entries.length (.acceptInto env))) := by
  unfold acceptConnection acceptAct
  split
  · exact ⟨state, rfl, .inl ⟨‹_›, rfl⟩⟩
  · rcases state.reserveEntry_cases cfg env listener.opaqueVal with
      ⟨cursor, result, -⟩ | ⟨slot, cursor, slotBound, free, alloc, result⟩
    · rw [result]
      exact ⟨_, rfl, .inr (.inl ⟨cursor, rfl⟩)⟩
    · rw [result]
      refine ⟨_, ?_, .inr (.inr ⟨slot, cursor, slotBound, free, alloc, rfl⟩)⟩
      dsimp only
      split
      · rfl
      · split <;> rfl

/-- The entry that takes a connection is a new one. -/
theorem accepted_kept (at_key : state.entries[key]? = some entry) (opaqueVal slot cursor : Nat)
    (env : Env) :
    ((state.reserved cfg opaqueVal slot cursor).focus cfg state.entries.length
      (.acceptInto env)).entries[key]? = some entry := by
  rw [focus_eq _ (state.reserved_last cfg opaqueVal slot cursor)]
  dsimp only
  rw [List.getElem?_set_ne (Nat.ne_of_gt (List.getElem?_eq_some_iff.mp at_key).1)]
  exact getElem?_append_kept at_key

theorem acceptAct_enabled {listener : Entry} (listening : listener.uvListening = true)
    (status : Int) (env : Env) :
    (state.acceptAct cfg listener status env).Enabled listener.life := by
  unfold acceptAct
  repeat' split
  all_goals exact listening

theorem Wf.accept {listener : Entry} (wf : state.Wf cfg)
    (at_key : state.entries[key]? = some listener) (listening : listener.uvListening = true)
    (status : Int) (env : Env) :
    (state.acceptConnection cfg key listener status env).Wf cfg := by
  obtain ⟨base, result, from_⟩ := state.acceptConnection_cases cfg key listener status env
  rw [result]
  have placed : base.Placed key (state.acceptAct cfg listener status env) := by
    unfold acceptAct
    repeat' split
    all_goals trivial
  rcases from_ with ⟨-, rfl⟩ | ⟨cursor, rfl⟩ | ⟨slot, cursor, slotBound, free, -, rfl⟩
  · exact wf.focus at_key (acceptAct_enabled listening status env) placed
  · exact (wf.cursor cursor).focus at_key (acceptAct_enabled listening status env) placed
  · have taken := (wf.reserved listener.opaqueVal cursor slotBound free).focus
      (state.reserved_last cfg listener.opaqueVal slot cursor)
      (show Act.Enabled (.acceptInto env) _ from ⟨rfl, rfl⟩) trivial
    exact taken.focus (accepted_kept at_key _ _ _ _) (acceptAct_enabled listening status env) placed

theorem Stepped.wf (stepped : state.Stepped cfg label next) (wf : state.Wf cfg) : next.Wf cfg := by
  cases stepped with
  | called call env live called => exact called.wf wf
  | opened call opaqueVal env live opened => exact opened.wf wf
  | worker index env live at_index worked => exact worked.wf wf at_index
  | polled polled => exact polled.wf wf
  | moved moved => exact wf.moved moved
  | unknown cmd rest env consuming head plain missing =>
      obtain ⟨_, same⟩ := processUnknown_eq env cmd state.runtime
      rw [same]
      refine wf.same rfl rfl rfl rfl (fun other member => .inl ?_) id .inl
      rw [head]
      exact List.mem_cons_of_mem _ member
  | exitBegun cmd rest env consuming head exit =>
      refine wf.same rfl rfl rfl rfl (fun other member => .inl ?_)
        (by simp [consuming, LoopPc.live]) (by simp [LoopPc.consumes])
      rw [head]
      exact List.mem_cons_of_mem _ member
  | exitEnded slot scanning visited =>
      obtain ⟨ready, same⟩ := updateExitReady_eq
        { state.runtime.closeProcessSignals with asyncClosing := true }
      rw [same]
      exact wf.same rfl rfl rfl rfl (fun _ member => .inl member) (by simp [scanning, LoopPc.live])
        (by simp [LoopPc.consumes])
  | acted target at_key enabled ready => exact wf.acted at_key enabled ready
  | accept key status env running at_key listening => exact wf.accept at_key listening status env
  | signal signal env running =>
      obtain ⟨_, _, same⟩ := onSignal_eq cfg env signal state.runtime
      rw [same]
      exact wf.same rfl rfl rfl rfl (fun _ member => .inl member) id .inl
  | releaseEnded slot scanning visited =>
      exact wf.same rfl rfl rfl rfl (fun _ member => .inl member) (by simp [LoopPc.live])
        (by simp [scanning, LoopPc.consumes])
  | releaseDone running dead =>
      unfold State.releaseDone
      rw [destroyAll_eq]
      exact wf.same rfl rfl rfl rfl (by simp) (by simp [LoopPc.live])
        (by simp [running, LoopPc.consumes])

theorem Wf.of_step (wf : state.Wf cfg) (run : step cfg state label = some next) :
    state.Stepped cfg label next ∧ next.Wf cfg := by
  obtain ⟨-, run⟩ := Option.ite_none_right_eq_some.mp run
  have stepped := wf.stepped run
  exact ⟨stepped, stepped.wf wf⟩

theorem wf_reachable (reached : (socketSystem cfg).Reachable state) : state.Wf cfg :=
  reached.invariant (Wf cfg) (Wf.init cfg) fun _ _ _ wf run => (wf.of_step run).2

/-! ## The life of an entry in a run -/

/-- The entry that a step leaves at `key`, as the step computes it. -/
inductive Ran (cfg : Config) (state : State) (label : Label) (key : Nat) : Entry → Prop
  | unchanged {entry : Entry} (at_key : state.entries[key]? = some entry) :
      Ran cfg state label key entry
  | acted {before : Entry} (act : Act) (runtime : Shared)
      (at_key : state.entries[key]? = some before)
      (target : state.target cfg label = some (key, act)) (enabled : act.Enabled before.life) :
      Ran cfg state label key (act.run cfg ⟨key, before, runtime⟩).entry
  | reserved (id : Int) (opaqueVal : Nat) (isNew : key = state.entries.length) :
      Ran cfg state label key (Entry.fresh id opaqueVal)
  | accepted (id : Int) (opaqueVal : Nat) (env : Env) (runtime : Shared)
      (isNew : key = state.entries.length) :
      Ran cfg state label key
        ((Act.acceptInto env).run cfg ⟨key, Entry.fresh id opaqueVal, runtime⟩).entry

/-- What a step leaves at `key`, as far as the life of the entry goes. -/
inductive Evolved (cfg : Config) (state : State) (label : Label) (key : Nat) : Entry → Prop
  | unchanged {entry : Entry} (at_key : state.entries[key]? = some entry) :
      Evolved cfg state label key entry
  | acted {before after : Entry} (act : Act) (at_key : state.entries[key]? = some before)
      (target : state.target cfg label = some (key, act)) (enabled : act.Enabled before.life)
      (move : Life.Move act before.life after.life) (told : before.log <+: after.log) :
      Evolved cfg state label key after
  | reserved (id : Int) (opaqueVal : Nat) (isNew : key = state.entries.length) :
      Evolved cfg state label key (Entry.fresh id opaqueVal)
  | accepted {after : Entry} (id : Int) (opaqueVal : Nat) (env : Env)
      (isNew : key = state.entries.length)
      (move : Life.Move (.acceptInto env) (Entry.fresh id opaqueVal).life after.life) :
      Evolved cfg state label key after

theorem Ran.evolved {after : Entry} (ran : state.Ran cfg label key after) (wf : state.Wf cfg) :
    state.Evolved cfg label key after := by
  cases ran with
  | unchanged at_key => exact .unchanged at_key
  | @acted before act runtime at_key target enabled =>
      obtain ⟨observations, told, -⟩ := (act.run_outcome cfg ⟨key, before, runtime⟩).told
      exact .acted act at_key target enabled
        (act.run_move cfg ⟨key, before, runtime⟩ enabled (wf.sound key before at_key))
        ⟨observations, told.symm⟩
  | reserved id opaqueVal isNew => exact .reserved id opaqueVal isNew
  | accepted id opaqueVal env runtime isNew =>
      exact .accepted id opaqueVal env isNew ((Act.acceptInto env).run_move cfg
        ⟨key, Entry.fresh id opaqueVal, runtime⟩ ⟨rfl, rfl⟩ (Entry.fresh_sound id opaqueVal))

theorem entries_focus {act : Act} {other : Nat} {found : Entry}
    (at_key : state.entries[key]? = some entry)
    (at_other : (state.focus cfg key act).entries[other]? = some found) :
    (other = key ∧ found = (act.run cfg ⟨key, entry, state.runtime⟩).entry) ∨
      (other ≠ key ∧ state.entries[other]? = some found) := by
  rw [focus_eq state at_key] at at_other
  exact getElem?_set_of at_key at_other

theorem Ran.focus {act : Act} {base : State} {other : Nat} {found : Entry}
    (at_key : state.entries[key]? = some entry) (at_base : base.entries[key]? = some entry)
    (target : state.target cfg label = some (key, act)) (enabled : act.Enabled entry.life)
    (elsewhere : ∀ found, other ≠ key → base.entries[other]? = some found →
      Ran cfg state label other found)
    (at_other : (base.focus cfg key act).entries[other]? = some found) :
    Ran cfg state label other found := by
  rcases entries_focus at_base at_other with ⟨rfl, rfl⟩ | ⟨distinct, before⟩
  · exact .acted act base.runtime at_key target enabled
  · exact elsewhere found distinct before

theorem Worked.entries {index : Nat} {worker : Worker}
    (worked : state.Worked cfg index worker next) :
    next.entries = state.entries ∨
      ∃ act entry, state.workerAct cfg worker = some act ∧
        state.entries[worker.key]? = some entry ∧ act.Enabled entry.life ∧
        next.entries = (state.focus cfg worker.key act).entries := by
  cases worked with
  | progressed | faulted | submitted | unlinked | decided => exact .inl rfl
  | tagged fd entry pc call free at_key alive =>
      exact .inr ⟨.setExternalFd fd, entry, by simp [workerAct, pc, call, free], at_key, alive, rfl⟩
  | freed result entry pc at_key alive bare =>
      exact .inr ⟨.freeEntry, entry, by simp [workerAct, pc], at_key, ⟨alive, bare⟩, rfl⟩

theorem Prepared.entries {act : Act} {prepared : State}
    (ready : state.Prepared cfg key entry act prepared) : prepared.entries = state.entries := by
  cases ready <;> rfl

theorem Called.entries {call : ApiCall} (called : state.Called call next) :
    next.entries = state.entries := by
  cases called <;> rfl

theorem Called.workers {call : ApiCall} (called : state.Called call next) :
    next.workers = state.workers ∧ next.faults = state.faults := by
  cases called <;> exact ⟨rfl, rfl⟩

theorem Called.pc {call : ApiCall} (called : state.Called call next) : next.pc = state.pc := by
  cases called <;> rfl

theorem Opened.pc {call : OpenCall} {opaqueVal : Nat}
    (opened : state.Opened cfg call opaqueVal next) : next.pc = state.pc := by
  cases opened <;> rfl

theorem Polled.kept (polled : state.Polled label next) :
    next.entries = state.entries ∧ next.workers = state.workers ∧ next.commands = state.commands ∧
      next.faults = state.faults := by
  cases polled <;> exact ⟨rfl, rfl, rfl, rfl⟩

theorem Polled.pc (polled : state.Polled label next) :
    next.pc = .outside ∨ next.pc = .running := by
  cases polled with
  | broken env signals outside => exact .inl outside
  | entered => exact .inr rfl
  | event | exit | idle => exact .inl rfl
  | waits running => exact .inr running

theorem Polled.target (polled : state.Polled label next) : state.target cfg label = none := by
  have none_of_polls (polls : label.polls = true) : state.target cfg label = none := by
    cases label with
    | poll | runReturned => rfl
    | _ => cases polls
  cases polled with
  | broken | entered | waits | idle => rfl
  | event signals polls | exit signals polls => exact none_of_polls polls

theorem Worked.pc {index : Nat} {worker : Worker}
    (worked : state.Worked cfg index worker next) : next.pc = state.pc := by
  cases worked with
  | progressed | faulted | submitted | unlinked | decided => rfl
  | tagged fd =>
      obtain ⟨_, _, same⟩ := focus_shape cfg worker.key (.setExternalFd fd) state
      rw [same]
      rfl
  | freed =>
      obtain ⟨_, _, same⟩ := focus_shape cfg worker.key .freeEntry state
      rw [same]
      rfl

theorem Prepared.workers {act : Act} {prepared : State}
    (ready : state.Prepared cfg key entry act prepared) :
    prepared.workers = state.workers ∧ prepared.faults = state.faults := by
  cases ready <;> exact ⟨rfl, rfl⟩

/-- `accept_connection` changes the entries and the shared runtime only. -/
theorem accept_shape (state : State) (cfg : Config) (key : Nat) (listener : Entry) (status : Int)
    (env : Env) :
    ∃ runtime entries, state.acceptConnection cfg key listener status env =
      { state with runtime := runtime, entries := entries } := by
  obtain ⟨base, result, from_⟩ := state.acceptConnection_cases cfg key listener status env
  obtain ⟨_, _, same⟩ := focus_shape cfg key (state.acceptAct cfg listener status env) base
  rw [result, same]
  rcases from_ with ⟨-, rfl⟩ | ⟨cursor, rfl⟩ | ⟨slot, cursor, -, -, -, rfl⟩
  · exact ⟨_, _, rfl⟩
  · exact ⟨_, _, rfl⟩
  · obtain ⟨_, _, taken⟩ := focus_shape cfg state.entries.length (.acceptInto env)
      (state.reserved cfg listener.opaqueVal slot cursor)
    rw [taken]
    exact ⟨_, _, rfl⟩

/-- The entries, the table, the pump list and the calls in progress are the same. -/
structure Still (state next : State) : Prop where
  entries : next.entries = state.entries
  table : next.runtime.table = state.runtime.table
  pumpList : next.runtime.pumpList = state.runtime.pumpList
  workers : next.workers = state.workers

/-- The four kinds of steps that do something to an entry or to a call, and the rest. -/
inductive Touched (cfg : Config) (state : State) : Label → State → Prop
  | still {label : Label} {next : State} (still : state.Still next) : Touched cfg state label next
  | opened (call : OpenCall) (opaqueVal : Nat) (env : Env) {next : State}
      (opened : state.Opened cfg call opaqueVal next) :
      Touched cfg state (.openCall call opaqueVal env) next
  | worker (index : Nat) (env : Env) {worker : Worker} {next : State}
      (at_index : state.workers[index]? = some worker)
      (worked : state.Worked cfg index worker next) :
      Touched cfg state (.worker index env) next
  | acted {label : Label} {key : Nat} {entry : Entry} {act : Act} {prepared : State}
      (target : state.target cfg label = some (key, act))
      (at_key : state.entries[key]? = some entry) (enabled : act.Enabled entry.life)
      (ready : state.Prepared cfg key entry act prepared) :
      Touched cfg state label (prepared.focus cfg key act)
  | accept (key : Nat) (status : Int) (env : Env) {listener : Entry}
      (running : state.pc.inRun = true) (at_key : state.entries[key]? = some listener)
      (listening : listener.uvListening = true) :
      Touched cfg state (.acceptConnection key status env)
        (state.acceptConnection cfg key listener status env)

theorem Stepped.touched (stepped : state.Stepped cfg label next) :
    state.Touched cfg label next := by
  cases stepped with
  | called call env live called => cases called <;> exact .still ⟨rfl, rfl, rfl, rfl⟩
  | opened call opaqueVal env live opened => exact .opened call opaqueVal env opened
  | worker index env live at_index worked => exact .worker index env at_index worked
  | polled polled =>
      cases polled with
      | broken env signals | entered env signals | event signals | exit signals =>
          obtain ⟨_, _, _, _, _, rfl⟩ := signals
          exact .still ⟨rfl, rfl, rfl, rfl⟩
      | waits | idle => exact .still ⟨rfl, rfl, rfl, rfl⟩
  | moved | exitBegun | releaseEnded => exact .still ⟨rfl, rfl, rfl, rfl⟩
  | unknown cmd rest env =>
      obtain ⟨_, same⟩ := processUnknown_eq env cmd state.runtime
      exact .still ⟨rfl, by rw [same], by rw [same], rfl⟩
  | exitEnded =>
      obtain ⟨_, same⟩ := updateExitReady_eq
        { state.runtime.closeProcessSignals with asyncClosing := true }
      exact .still ⟨rfl, by rw [same]; rfl, by rw [same]; rfl, rfl⟩
  | acted target at_key enabled ready => exact .acted target at_key enabled ready
  | accept key status env running at_key listening =>
      exact .accept key status env running at_key listening
  | signal signal env =>
      obtain ⟨_, _, same⟩ := onSignal_eq cfg env signal state.runtime
      exact .still ⟨rfl, by rw [same], by rw [same], rfl⟩
  | releaseDone =>
      refine .still ⟨rfl, ?_, ?_, rfl⟩
      · rw [State.releaseDone, destroyAll_eq]
      · rw [State.releaseDone, destroyAll_eq]

/-- The calls in progress: one more, one a step further, or the same. -/
theorem Stepped.workers_cases (stepped : state.Stepped cfg label next) :
    next.workers = state.workers ∨
      (∃ added, next.workers = state.workers ++ [added] ∧ added.call.check cfg = .ok ∧
        (added.pc = .reserved ∨ added.pc = .checked)) ∨
      ∃ index worker, state.workers[index]? = some worker ∧ state.Worked cfg index worker next := by
  cases stepped.touched with
  | still still => exact .inl still.workers
  | opened call opaqueVal env opened =>
      cases opened with
      | failed => exact .inl rfl
      | reserved slot cursor pc slotBound free valid early =>
          exact .inr (.inl ⟨_, rfl, valid, early⟩)
  | worker index env at_index worked => exact .inr (.inr ⟨index, _, at_index, worked⟩)
  | @acted label key entry act prepared target at_key enabled ready =>
      obtain ⟨_, _, same⟩ := focus_shape cfg key act prepared
      rw [same]
      exact .inl ready.workers.1
  | @accept key status env listener running at_key listening =>
      obtain ⟨_, _, same⟩ := state.accept_shape cfg key listener status env
      exact .inl (by rw [same])

/-- Only the last step of the release ends a run. -/
theorem Stepped.released (stepped : state.Stepped cfg label next) (done : next.pc = .released) :
    next = state.releaseDone ∧ state.loopAlive = false := by
  have live_ne (live : state.pc.live = true) (same : next.pc = state.pc) : False := by
    rw [← same, done] at live
    cases live
  cases stepped with
  | releaseDone running dead => exact ⟨rfl, dead⟩
  | called call env live called => exact (live_ne live called.pc).elim
  | opened call opaqueVal env live opened => exact (live_ne live opened.pc).elim
  | worker index env live at_index worked => exact (live_ne live worked.pc).elim
  | polled polled => rcases polled.pc with pc | pc <;> cases pc.symm.trans done
  | moved moved => cases moved <;> cases done
  | unknown cmd rest env consuming => simp [consuming] at done
  | exitBegun | exitEnded | releaseEnded => cases done
  | @acted label key entry act prepared target at_key enabled ready =>
      obtain ⟨_, _, same⟩ := focus_shape cfg key act prepared
      rw [same] at done
      cases ready with
      | command cmd rest env consuming => simp [consuming] at done
      | exitScan | releaseScan => cases done
      | pump env rest pumping => simp [pumping] at done
      | callback running =>
          simp only at done
          simp [done, LoopPc.inRun] at running
  | @accept key status env listener running at_key listening =>
      obtain ⟨_, _, same⟩ := state.accept_shape cfg key listener status env
      rw [same] at done
      simp only at done
      simp [done, LoopPc.inRun] at running
  | signal signal env running => simp [running] at done

theorem Stepped.ran (stepped : state.Stepped cfg label next) {after : Entry}
    (at_key : next.entries[key]? = some after) : state.Ran cfg label key after := by
  cases stepped.touched with
  | still still => exact .unchanged (still.entries ▸ at_key)
  | opened call opaqueVal env opened =>
      cases opened with
      | failed => exact .unchanged at_key
      | reserved slot cursor pc =>
          rcases getElem?_append_of at_key with before | ⟨isNew, rfl⟩
          · exact .unchanged before
          · exact .reserved _ _ isNew
  | worker index env at_index worked =>
      rcases worked.entries with kept | ⟨act, entry, acts, at_worker, enabled, result⟩
      · exact .unchanged (kept ▸ at_key)
      · rw [result] at at_key
        refine .focus at_worker at_worker ?_ enabled (fun _ _ before => .unchanged before) at_key
        simp only [State.target, at_index, acts, Option.bind_some, Option.map_some]
  | acted target at_act enabled ready =>
      refine .focus at_act (ready.entries ▸ at_act) target enabled (fun _ _ before => ?_) at_key
      exact .unchanged (ready.entries ▸ before)
  | @accept listens status env listener running at_listener listening =>
      obtain ⟨base, result, from_⟩ := state.acceptConnection_cases cfg listens listener status env
      rw [result] at at_key
      have target : state.target cfg (.acceptConnection listens status env) =
          some (listens, state.acceptAct cfg listener status env) := by
        simp only [State.target, at_listener, Option.map_some]
      have enabled : (state.acceptAct cfg listener status env).Enabled listener.life :=
        acceptAct_enabled listening status env
      rcases from_ with ⟨-, rfl⟩ | ⟨cursor, rfl⟩ | ⟨slot, cursor, -, -, -, rfl⟩
      · exact .focus at_listener at_listener target enabled (fun _ _ before => .unchanged before)
          at_key
      · refine .focus at_listener ?_ target enabled (fun _ _ before => ?_) at_key
        · exact at_listener
        · exact .unchanged before
      · refine .focus at_listener (accepted_kept at_listener _ _ _ _) target enabled
          (fun found distinct at_found => ?_) at_key
        rcases entries_focus (state.reserved_last cfg _ slot cursor) at_found with
          ⟨isNew, rfl⟩ | ⟨old, before⟩
        · rw [isNew]
          exact .accepted (state.nextId cfg slot) listener.opaqueVal env _ rfl
        · rcases getElem?_append_of before with before | ⟨isNew, -⟩
          · exact .unchanged before
          · exact absurd isNew old

theorem Stepped.evolved (stepped : state.Stepped cfg label next) (wf : state.Wf cfg)
    {after : Entry} (at_key : next.entries[key]? = some after) :
    state.Evolved cfg label key after :=
  (stepped.ran at_key).evolved wf

theorem length_focus (state : State) (key : Nat) (act : Act) :
    (state.focus cfg key act).entries.length = state.entries.length := by
  unfold State.focus
  split
  · rfl
  · exact List.length_set

/-- No act links an entry. -/
theorem focus_shrinks (at_key : state.entries[key]? = some entry) (act : Act) {slot other : Nat}
    (occupied : (state.focus cfg key act).runtime.table.slots slot = some other) :
    state.runtime.table.slots slot = some other := by
  have outcome := act.run_outcome cfg ⟨key, entry, state.runtime⟩
  rw [focus_eq state at_key] at occupied
  dsimp only at occupied
  revert outcome occupied
  generalize act.run cfg ⟨key, entry, state.runtime⟩ = after
  intro occupied outcome
  cases outcome with
  | kept pump yields | unpumped env yields | listed command env unlisted yields | freed yields =>
      rwa [yields.table] at occupied
  | unlinked unlinks yields =>
      rw [yields.table, Frame.unlinkedRuntime_table] at occupied
      exact (SlotTable.slots_of_unlink occupied).1
  | cleared slot yields =>
      rw [yields.table] at occupied
      exact (vacated occupied).2

/-- Entries are never removed. -/
theorem Stepped.grows (stepped : state.Stepped cfg label next) :
    state.entries.length ≤ next.entries.length := by
  cases stepped.touched with
  | still still => exact (congrArg _ still.entries).ge
  | opened call opaqueVal env opened =>
      cases opened with
      | failed => exact le_rfl
      | reserved => simp [State.reserved]
  | worker index env at_index worked =>
      rcases worked.entries with kept | ⟨act, entry, -, -, -, result⟩
      · exact (congrArg _ kept).ge
      · rw [result, length_focus]
  | acted target at_act enabled ready =>
      rw [length_focus]
      cases ready <;> exact le_rfl
  | @accept listens status env listener running at_listener listening =>
      obtain ⟨base, result, from_⟩ := state.acceptConnection_cases cfg listens listener status env
      rw [result, length_focus]
      rcases from_ with ⟨-, rfl⟩ | ⟨cursor, rfl⟩ | ⟨slot, cursor, -, -, -, rfl⟩
      · exact le_rfl
      · exact le_rfl
      · rw [length_focus]
        simp [State.reserved]

theorem Moved.target {pc : LoopPc} (moved : state.Moved cfg label pc) :
    state.target cfg label = none := by
  cases moved with
  | wakeup | commandsDone | pumpDone | release => rfl
  | exitSkipped slot scanning inside free | releaseSkipped slot scanning inside free =>
      simp [State.target, scanning, free]

theorem Wf.slots_beyond (wf : state.Wf cfg) {slot : Nat} (visited : cfg.slotCount ≤ slot) :
    state.runtime.table.slots slot = none := by
  cases occupied : state.runtime.table.slots slot with
  | none => rfl
  | some other => exact absurd (wf.linked slot other occupied).1 (Nat.not_lt.mpr visited)

theorem workerAct_cases {worker : Worker} {act : Act}
    (acts : state.workerAct cfg worker = some act) :
    (∃ fd, act = .setExternalFd fd) ∨ act = .freeEntry := by
  unfold State.workerAct at acts
  repeat' split at acts
  all_goals cases acts
  · exact .inl ⟨_, rfl⟩
  · exact .inr rfl

/-- The act that `target` names is performed. -/
theorem Stepped.acts {act : Act} (stepped : state.Stepped cfg label next) (wf : state.Wf cfg)
    (target : state.target cfg label = some (key, act)) (ofLoop : act.ofLoop = true)
    (at_key : state.entries[key]? = some entry) :
    act.Enabled entry.life ∧
      ∃ prepared, state.Prepared cfg key entry act prepared ∧
        next = prepared.focus cfg key act := by
  cases stepped with
  | called | opened | signal | releaseDone => cases target
  | polled polled => cases polled.target.symm.trans target
  | worker index env live at_index worked =>
      simp only [State.target, at_index, Option.bind_some, Option.map_eq_some_iff, Prod.mk.injEq]
        at target
      obtain ⟨_, acts, -, rfl⟩ := target
      rcases workerAct_cases acts with ⟨_, rfl⟩ | rfl
      · cases ofLoop
      · cases ofLoop
  | moved moved => cases moved.target.symm.trans target
  | unknown cmd rest env consuming head plain missing =>
      simp [State.target, head, missing] at target
  | exitBegun cmd rest env consuming head exit => simp [State.target, head, exit] at target
  | exitEnded slot scanning visited | releaseEnded slot scanning visited =>
      simp [State.target, scanning, wf.slots_beyond visited] at target
  | acted target' at_act enabled ready =>
      cases target.symm.trans target'
      cases at_key.symm.trans at_act
      exact ⟨enabled, _, ready, rfl⟩
  | accept listens status env running at_listener listening =>
      simp only [State.target, at_listener, Option.map_some, Option.some.injEq, Prod.mk.injEq]
        at target
      obtain ⟨-, rfl⟩ := target
      unfold State.acceptAct at ofLoop
      repeat' split at ofLoop
      all_goals cases ofLoop

theorem Stepped.performs {act : Act} (stepped : state.Stepped cfg label next) (wf : state.Wf cfg)
    (target : state.target cfg label = some (key, act)) (ofLoop : act.ofLoop = true)
    (at_key : state.entries[key]? = some entry) :
    act.Enabled entry.life ∧ ∃ runtime,
      next.entries[key]? = some (act.run cfg ⟨key, entry, runtime⟩).entry := by
  obtain ⟨enabled, prepared, ready, rfl⟩ := stepped.acts wf target ofLoop at_key
  have at_prepared := ready.entries ▸ at_key
  rw [focus_eq _ at_prepared]
  exact ⟨enabled, _, getElem?_set_here at_prepared⟩

theorem Stepped.performed {act : Act} (stepped : state.Stepped cfg label next) (wf : state.Wf cfg)
    (target : state.target cfg label = some (key, act)) (ofLoop : act.ofLoop = true)
    (at_key : state.entries[key]? = some entry) :
    ∃ after, next.entries[key]? = some after ∧ act.Enabled entry.life ∧
      Life.Move act entry.life after.life := by
  obtain ⟨enabled, runtime, at_next⟩ := stepped.performs wf target ofLoop at_key
  exact ⟨_, at_next, enabled,
    act.run_move cfg ⟨key, entry, runtime⟩ enabled (wf.sound key entry at_key)⟩

/-- The step does not perform an act that `bad` names. -/
def spares (cfg : Config) (bad : Act → Life → Bool) (state : State) (label : Label) : Bool :=
  match state.target cfg label with
  | none => true
  | some (key, act) => state.entries[key]?.all fun entry => !bad act entry.life

theorem spared {bad : Act → Life → Bool} {act : Act} (spares : state.spares cfg bad label = true)
    (target : state.target cfg label = some (key, act))
    (at_key : state.entries[key]? = some entry) : bad act entry.life = false := by
  simpa [State.spares, target, at_key] using spares

end State

/-- A property of entries that holds of a fresh one, and that every act keeps which
`bad` does not name. -/
structure Entry.Kept (cfg : Config) (bad : Act → Life → Bool) (holds : Entry → Prop) : Prop where
  fresh : ∀ id opaqueVal, holds (Entry.fresh id opaqueVal)
  accept : ∀ env life, bad (.acceptInto env) life = false
  run : ∀ {act : Act} {frame : Frame}, frame.entry.life.Sound → act.Enabled frame.entry.life →
    bad act frame.entry.life = false → holds frame.entry → holds (act.run cfg frame).entry

/-- The same for a property of lives. -/
structure Life.Kept (bad : Act → Life → Bool) (holds : Life → Prop) : Prop where
  fresh : ∀ id opaqueVal, holds (Entry.fresh id opaqueVal).life
  accept : ∀ env life, bad (.acceptInto env) life = false
  move : ∀ {act : Act} {life after : Life}, life.Sound → act.Enabled life →
    bad act life = false → Life.Move act life after → holds life → holds after

theorem Life.Kept.entries {bad : Act → Life → Bool} {holds : Life → Prop}
    (kept : Life.Kept bad holds) (cfg : Config) :
    Entry.Kept cfg bad fun entry => holds entry.life where
  fresh := kept.fresh
  accept := kept.accept
  run := by
    intro act frame sound enabled spared before
    exact kept.move sound enabled spared (act.run_move cfg frame enabled sound) before

namespace State

variable {cfg : Config} {state next final : State} {label : Label} {key : Nat} {entry : Entry}
  {bad : Act → Life → Bool} {every : Entry → Prop} {holds : Life → Prop}

def Everywhere (every : Entry → Prop) (state : State) : Prop :=
  ∀ (key : Nat) (entry : Entry), state.entries[key]? = some entry → every entry

/-- Every entry has the property. -/
def Throughout (holds : Life → Prop) (state : State) : Prop :=
  ∀ (key : Nat) (entry : Entry), state.entries[key]? = some entry → holds entry.life

theorem Wf.everywhere_step (wf : state.Wf cfg) (kept : Entry.Kept cfg bad every)
    (before : state.Everywhere every) (spares : state.spares cfg bad label = true)
    (run : step cfg state label = some next) : next.Everywhere every := by
  intro key after at_key
  cases (wf.of_step run).1.ran at_key with
  | unchanged at_key => exact before key after at_key
  | @acted entry act runtime at_before target enabled =>
      exact kept.run (wf.sound key entry at_before) enabled (spared spares target at_before)
        (before key entry at_before)
  | reserved id opaqueVal isNew => exact kept.fresh id opaqueVal
  | accepted id opaqueVal env runtime isNew =>
      have enabled : Act.Enabled (.acceptInto env) (Entry.fresh id opaqueVal).life := ⟨rfl, rfl⟩
      exact kept.run (Entry.fresh_sound id opaqueVal) enabled (kept.accept env _)
        (kept.fresh id opaqueVal)

theorem Wf.throughout_step (wf : state.Wf cfg) (kept : Life.Kept bad holds)
    (before : state.Throughout holds) (spares : state.spares cfg bad label = true)
    (run : step cfg state label = some next) : next.Throughout holds :=
  wf.everywhere_step (kept.entries cfg) before spares run

theorem spares_nothing (cfg : Config) (state : State) (label : Label) :
    state.spares cfg (fun _ _ => false) label = true := by
  unfold State.spares
  split
  · rfl
  · simp

/-- The invariant rule for properties of single entries that every act keeps. -/
theorem everywhere_reachable (kept : Entry.Kept cfg (fun _ _ => false) every)
    (reached : (socketSystem cfg).Reachable state) : state.Everywhere every := by
  refine (reached.invariant (fun state => state.Wf cfg ∧ state.Everywhere every) ?_ ?_).2
  · exact ⟨Wf.init cfg, by simp [Everywhere, socketSystem, State.init]⟩
  · rintro state label next ⟨wf, before⟩ run
    exact ⟨(wf.of_step run).2,
      wf.everywhere_step kept before (spares_nothing cfg state label) run⟩

theorem throughout_reachable (kept : Life.Kept (fun _ _ => false) holds)
    (reached : (socketSystem cfg).Reachable state) : state.Throughout holds :=
  everywhere_reachable (kept.entries cfg) reached

/-- The invariant rule for runs without the acts that `bad` names. -/
theorem everywhere_run (kept : Entry.Kept cfg bad every) {labels : List Label}
    (along : (socketSystem cfg).Along (fun state label => state.spares cfg bad label = true)
      State.init labels)
    (run : (socketSystem cfg).exec State.init labels = some final) : final.Everywhere every :=
  System.exec_guarded (Wf cfg) (Everywhere every) (fun _ _ _ wf run => (wf.of_step run).2)
    (fun _ _ _ wf before spares run => wf.everywhere_step kept before spares run)
    labels State.init final (Wf.init cfg) (by simp [Everywhere, State.init]) along run

theorem throughout_run (kept : Life.Kept bad holds) {labels : List Label}
    (along : (socketSystem cfg).Along (fun state label => state.spares cfg bad label = true)
      State.init labels)
    (run : (socketSystem cfg).exec State.init labels = some final) : final.Throughout holds :=
  everywhere_run (kept.entries cfg) along run

/-! ## Which runs keep a property -/

theorem Wf.log_step (wf : state.Wf cfg) (run : step cfg state label = some next)
    (at_key : state.entries[key]? = some entry) :
    ∃ after, next.entries[key]? = some after ∧ entry.log <+: after.log := by
  have bound := (List.getElem?_eq_some_iff.mp at_key).1
  have stepped := (wf.of_step run).1
  obtain ⟨after, at_next⟩ : ∃ after, next.entries[key]? = some after :=
    ⟨_, List.getElem?_eq_getElem (Nat.lt_of_lt_of_le bound stepped.grows)⟩
  refine ⟨after, at_next, ?_⟩
  cases stepped.evolved wf at_next with
  | unchanged at_same =>
      cases at_key.symm.trans at_same
      exact List.prefix_rfl
  | acted act at_before target enabled move told =>
      cases at_key.symm.trans at_before
      exact told
  | reserved id opaqueVal isNew => exact absurd isNew (Nat.ne_of_lt bound)
  | accepted id opaqueVal env isNew move => exact absurd isNew (Nat.ne_of_lt bound)

/-- The history of an entry only grows. -/
theorem Wf.log_run {labels : List Label} (wf : state.Wf cfg)
    (run : (socketSystem cfg).exec state labels = some final)
    (at_key : state.entries[key]? = some entry) :
    ∃ after, final.entries[key]? = some after ∧ entry.log <+: after.log := by
  induction labels generalizing state entry with
  | nil =>
      cases Option.some.inj run
      exact ⟨entry, at_key, List.prefix_rfl⟩
  | cons label rest ih =>
      obtain ⟨next, first, tail⟩ := System.exec_cons run
      obtain ⟨middle, at_middle, grown⟩ := wf.log_step first at_key
      obtain ⟨after, at_after, later⟩ := ih (wf.of_step first).2 tail at_middle
      exact ⟨after, at_after, grown.trans later⟩

end State

/-- The acts that `bad` names break a property of histories for good, given what
`known` says of every life. -/
structure Life.Breaks (bad : Act → Life → Bool) (known : Life → Prop) (broken : List Obs → Prop) :
    Prop where
  kept : Life.Kept (fun _ _ => false) known
  ofLoop : ∀ {act : Act} {life : Life}, bad act life = true → act.ofLoop = true
  lasts : ∀ {before after : List Obs}, before <+: after → broken before → broken after
  breaks : ∀ {act : Act} {life after : Life}, life.Sound → act.Enabled life → known life →
    bad act life = true → Life.Move act life after → broken after.log

namespace State

variable {cfg : Config} {state next final : State} {label : Label} {key : Nat} {entry : Entry}
  {bad : Act → Life → Bool} {known : Life → Prop} {broken : List Obs → Prop}

theorem not_spared (spoils : state.spares cfg bad label ≠ true) :
    ∃ key act entry, state.target cfg label = some (key, act) ∧
      state.entries[key]? = some entry ∧ bad act entry.life = true := by
  unfold State.spares at spoils
  split at spoils
  · exact absurd rfl spoils
  · rename_i key act target
    cases at_key : state.entries[key]? with
    | none => simp [at_key] at spoils
    | some entry => exact ⟨key, act, entry, target, at_key, by simpa [at_key] using spoils⟩

/-- A run that ends without a broken history has performed no bad act. -/
theorem Wf.along_of_unbroken (breaks : Life.Breaks bad known broken) {labels : List Label}
    (wf : state.Wf cfg) (knows : state.Throughout known)
    (run : (socketSystem cfg).exec state labels = some final)
    (unbroken : ∀ (key : Nat) (entry : Entry), final.entries[key]? = some entry →
      ¬broken entry.log) :
    (socketSystem cfg).Along (fun state label => state.spares cfg bad label = true) state
      labels := by
  induction labels generalizing state with
  | nil => trivial
  | cons label rest ih =>
      obtain ⟨next, first, tail⟩ := System.exec_cons run
      have stepped := (wf.of_step first).1
      have wfNext := (wf.of_step first).2
      constructor
      · by_contra spoils
        obtain ⟨key, act, entry, target, at_key, isBad⟩ := not_spared spoils
        obtain ⟨after, at_after, enabled, move⟩ :=
          stepped.performed wf target (breaks.ofLoop isBad) at_key
        obtain ⟨last, at_last, grown⟩ := wfNext.log_run tail at_after
        exact unbroken key last at_last (breaks.lasts grown
          (breaks.breaks (wf.sound key entry at_key) enabled (knows key entry at_key) isBad move))
      · intro other same
        cases Option.some.inj (first.symm.trans same)
        exact ih wfNext
          (wf.throughout_step breaks.kept knows (spares_nothing cfg state label) first) tail

end State

/-! ## A connected socket -/

/-- Memory is available and every libuv call succeeds. -/
def Env.fine : Env where
  event _ := true
  node := true
  data := true
  command := true
  uv _ := 0
  ip4Addr _ _ := .ok (.ipv4 #v[0, 80] #v[127, 0, 0, 1])
  ip6Addr _ _ := .error uvEinval
  peerName := none
  sockName := none
  sockPort := none

/-- A worker connects, the loop processes the command, the connection comes up
and `OPEN` is polled.  In a table of four slots the socket has id 4. -/
def connectRun : List Label :=
  [.openCall (.connect (some "127.0.0.1") 80) 7 .fine, .worker 0 .fine, .worker 0 .fine,
    .worker 0 .fine, .poll .fine, .wakeup, .command .fine, .commandsDone, .pumpDone,
    .connectCompleted 0 0 .fine, .runReturned false]

def connectedState : State :=
  ((socketSystem fourSlots).exec State.init connectRun).get (by decide)

end Skyuv.Socket
