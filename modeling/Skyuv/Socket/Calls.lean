import Skyuv.Socket.Steps

/-!
# Id-allocating calls in one piece

`skyuv_socket_runtime_listen`, `_connect`, `_bind` and `_udp` reserve an entry,
build a command for it and submit the command, and each step that fails undoes the
reservation.  Here a call is one function of the state.  `runtimeOpen_run` ties it
to the steps of `workerStep`, taken without another thread in between.
-/

set_option autoImplicit false

namespace Skyuv.Socket

open TransitionSystem

/-- What an id-allocating call returns, and what it writes to `*id`. -/
structure Returned where
  status : Status
  id : Option Int
  state : State

namespace State

/-- `discard_uninitialized_entry`, called by a worker. -/
def discardEntry (cfg : Config) (key : Nat) (state : State) : State :=
  match state.entries[key]? with
  | none => state
  | some entry =>
      let frame := Frame.discardUninitializedEntry cfg ⟨key, entry, state.runtime⟩
      { state with runtime := frame.runtime, entries := state.entries.set key frame.entry }

/-- The end of the four calls.  `built` tells whether the command and the copy of
its host found memory. -/
def submitOpen (cfg : Config) (key : Nat) (built : Bool) (command : Command) (state : State) :
    Returned :=
  if !built then ⟨.outOfMemory, none, state.discardEntry cfg key⟩
  else
    match state.push command with
    | (true, state) => ⟨.ok, some command.id, state⟩
    | (false, state) => ⟨.invalidState, none, state.discardEntry cfg key⟩

/-- The calls that carry a host, once it is known to be there. -/
def openHost (cfg : Config) (valid : Bool) (body : CommandBody) (opaqueVal : Nat) (env : Env)
    (state : State) : Returned :=
  if !valid then ⟨.invalidArgument, none, state⟩
  else
    match state.reserveEntry cfg env opaqueVal with
    | (none, state) => ⟨.outOfMemory, none, state⟩
    | (some id, state) =>
        state.submitOpen cfg (state.entries.length - 1) (env.command && env.data)
          ⟨id, opaqueVal, body⟩

/-- `skyuv_socket_runtime_listen`; `idNull` stands for `id == NULL`. -/
def runtimeListen (cfg : Config) (host : Option String) (port backlog : Int) (opaqueVal : Nat)
    (idNull : Bool) (env : Env) (state : State) : Returned :=
  match host with
  | none => ⟨.invalidArgument, none, state⟩
  | some host =>
      state.openHost cfg (validPort port && decide (0 < backlog) && !idNull)
        (.listen host port backlog) opaqueVal env

def runtimeConnect (cfg : Config) (host : Option String) (port : Int) (opaqueVal : Nat)
    (idNull : Bool) (env : Env) (state : State) : Returned :=
  match host with
  | none => ⟨.invalidArgument, none, state⟩
  | some host =>
      state.openHost cfg (validPort port && !idNull) (.connect host port) opaqueVal env

def runtimeUdp (cfg : Config) (host : Option String) (port : Int) (opaqueVal : Nat)
    (idNull : Bool) (env : Env) (state : State) : Returned :=
  let bindHost := host.getD "0.0.0.0"
  state.openHost cfg (validPort port && !idNull) (.udp bindHost port) opaqueVal env

/-- `skyuv_socket_runtime_bind`, which looks for the descriptor in the other entries
before it builds the command. -/
def runtimeBind (cfg : Config) (fd : Int) (opaqueVal : Nat) (idNull : Bool) (env : Env)
    (state : State) : Returned :=
  if !cfg.externalFd then ⟨.notSupported, none, state⟩
  else if decide (fd < 0) || idNull then ⟨.invalidArgument, none, state⟩
  else
    match state.reserveEntry cfg env opaqueVal with
    | (none, state) => ⟨.outOfMemory, none, state⟩
    | (some id, state) =>
        let key := state.entries.length - 1
        if state.fdTaken cfg key fd then ⟨.invalidState, none, state.discardEntry cfg key⟩
        else
          (state.focus cfg key (.setExternalFd fd)).submitOpen cfg key env.command
            ⟨id, opaqueVal, .bind fd⟩

def runtimeOpen (cfg : Config) (call : OpenCall) (opaqueVal : Nat) (idNull : Bool) (env : Env)
    (state : State) : Returned :=
  match call with
  | .listen host port backlog =>
      state.runtimeListen cfg host port backlog opaqueVal idNull env
  | .connect host port => state.runtimeConnect cfg host port opaqueVal idNull env
  | .bind fd => state.runtimeBind cfg fd opaqueVal idNull env
  | .udp host port => state.runtimeUdp cfg host port opaqueVal idNull env

end State

/-! ## Undoing a reservation -/

theorem idNextGeneration_bounds (generation : Nat) :
    1 ≤ idNextGeneration generation ∧ idNextGeneration generation ≤ generationMax := by
  rw [idNextGeneration, generationMax]
  by_cases wraps : (generation + 1) % 65536 = 0 ∨ (generation + 1) % 65536 > 0x7fff
  · rw [if_pos wraps]
    decide
  · rw [if_neg wraps]
    omega

namespace SlotTable

variable {cfg : Config} {table : SlotTable} {slot key cursor : Nat}

/-- The slot that a reservation took is free again, with its next generation used up. -/
theorem unlink_install (slotBound : slot < cfg.slotCount) (free : table.slots slot = none) :
    (table.install key slot cursor).unlink cfg key
        (idMake cfg slot (idNextGeneration (table.generations slot))) =
      { table with
        generations := (table.install key slot cursor).generations
        nextSlot := cursor } := by
  have bounds := idNextGeneration_bounds (table.generations slot)
  have here := idSlot_idMake slotBound bounds.1 bounds.2
  have taken : (table.install key slot cursor).slots slot = some key :=
    Function.update_self slot _ _
  have restored : Function.update (table.install key slot cursor).slots slot none =
      table.slots := by
    rw [install_slots, Function.update_idem, ← free, Function.update_eq_self]
  rw [unlink, here, if_pos taken, restored]
  rfl

end SlotTable

namespace State

variable {cfg : Config} {state : State} {opaqueVal slot cursor : Nat} {entry : Entry}

theorem discardEntry_eq {key : Nat} (at_key : state.entries[key]? = some entry) :
    state.discardEntry cfg key =
      { state with
        runtime := Frame.unlinkedRuntime cfg ⟨key, entry, state.runtime⟩
        entries := state.entries.set key
          { entry with freed := true, log := entry.log ++ [.free] } } := by
  rw [discardEntry, at_key]
  rfl

/-- The sockets of two states are the same: the slots hold the same entries, which
are unchanged, and as many of them are counted. -/
structure SameSockets (before after : State) : Prop where
  slots : after.runtime.table.slots = before.runtime.table.slots
  count : after.runtime.table.entryCount = before.runtime.table.entryCount
  kept : ∀ (key : Nat) (entry : Entry), before.entries[key]? = some entry →
    after.entries[key]? = some entry
  commands : after.commands = before.commands

theorem SameSockets.refl (state : State) : SameSockets state state :=
  ⟨rfl, rfl, fun _ _ found => found, rfl⟩

/-- The reserved entry after the calls' own changes to it, and before the command. -/
def reservedAs (cfg : Config) (opaqueVal slot cursor : Nat) (state : State) (entry : Entry) :
    State :=
  { state.reserved cfg opaqueVal slot cursor with entries := state.entries ++ [entry] }

theorem reservedAs_discarded (slotBound : slot < cfg.slotCount)
    (free : state.runtime.table.slots slot = none) (named : entry.id = state.nextId cfg slot) :
    SameSockets state
      ((state.reservedAs cfg opaqueVal slot cursor entry).discardEntry cfg
        state.entries.length) := by
  have at_key : (state.reservedAs cfg opaqueVal slot cursor entry).entries[state.entries.length]? =
      some entry := List.getElem?_concat_length
  have table : ((state.reservedAs cfg opaqueVal slot cursor entry).discardEntry cfg
      state.entries.length).runtime.table =
        { state.runtime.table with
          generations := (state.runtime.table.install state.entries.length slot cursor).generations
          nextSlot := cursor } := by
    rw [discardEntry_eq at_key]
    refine (Frame.unlinkedRuntime_table _).trans ?_
    rw [named]
    exact SlotTable.unlink_install slotBound free
  refine ⟨?_, ?_, ?_, ?_⟩
  · rw [table]
  · rw [table]
  · intro key found at_found
    have old := Nat.ne_of_gt (List.getElem?_eq_some_iff.mp at_found).1
    rw [discardEntry_eq at_key]
    dsimp only
    rw [List.getElem?_set_ne old]
    exact getElem?_append_kept at_found
  · rw [discardEntry_eq at_key]
    rfl

/-! ## What a call can do -/

/-- One reserved entry more, and one command for it at the end of the queue. -/
structure Added (before : State) (opaqueVal : Nat) (body : CommandBody) (id : Int)
    (after : State) : Prop where
  placed : ∃ slot, before.runtime.table.slots slot = none ∧
    after.runtime.table.slots =
      Function.update before.runtime.table.slots slot (some before.entries.length)
  count : after.runtime.table.entryCount = before.runtime.table.entryCount + 1
  entry : ∃ entry, after.entries = before.entries ++ [entry] ∧ entry.state = .reserved ∧
    entry.id = id ∧ entry.opaqueVal = opaqueVal
  commands : after.commands = before.commands ++ [⟨id, opaqueVal, body⟩]

end State

/-- All or nothing. -/
inductive Returned.Atomic (before : State) (opaqueVal : Nat) (body : CommandBody) : Returned → Prop
  | failed {status : Status} {after : State} (error : status ≠ .ok)
      (same : before.SameSockets after) : Atomic before opaqueVal body ⟨status, none, after⟩
  | added {id : Int} {after : State} (added : before.Added opaqueVal body id after) :
      Atomic before opaqueVal body ⟨.ok, some id, after⟩

namespace State

variable {cfg : Config} {state : State} {opaqueVal slot cursor : Nat} {entry : Entry}
  {body : CommandBody}

theorem cursor_same (state : State) (cursor : Nat) : state.SameSockets { state with
    runtime := { state.runtime with table := { state.runtime.table with nextSlot := cursor } } } :=
  ⟨rfl, rfl, fun _ _ found => found, rfl⟩

/-- Both ways out of the common end that fail discard the entry. -/
theorem reservedAs_submitted (built : Bool) (slotBound : slot < cfg.slotCount)
    (free : state.runtime.table.slots slot = none) (named : entry.id = state.nextId cfg slot)
    (fresh : entry.state = .reserved) (owner : entry.opaqueVal = opaqueVal) :
    Returned.Atomic state opaqueVal body
      ((state.reservedAs cfg opaqueVal slot cursor entry).submitOpen cfg state.entries.length built
        ⟨state.nextId cfg slot, opaqueVal, body⟩) := by
  have discarded : SameSockets state
      ((state.reservedAs cfg opaqueVal slot cursor entry).discardEntry cfg state.entries.length) :=
    reservedAs_discarded slotBound free named
  cases built with
  | false =>
      simp only [submitOpen, Bool.not_false, if_true]
      exact .failed (by simp) discarded
  | true =>
      by_cases accepting : state.accepting = true
      · have pushed : (state.reservedAs cfg opaqueVal slot cursor entry).accepting = true :=
          accepting
        simp only [submitOpen, push, pushed, Bool.not_true, Bool.false_eq_true, if_false, if_true]
        exact .added ⟨⟨slot, free, rfl⟩, rfl, ⟨entry, rfl, fresh, named, owner⟩, rfl⟩
      · have stopped : (state.reservedAs cfg opaqueVal slot cursor entry).accepting = false := by
          rw [← Bool.not_eq_true]
          exact accepting
        simp only [submitOpen, push, stopped, Bool.not_true, Bool.false_eq_true, if_false]
        exact .failed (by simp) discarded

theorem reserved_eq_reservedAs (state : State) (cfg : Config) (opaqueVal slot cursor : Nat) :
    state.reserved cfg opaqueVal slot cursor =
      state.reservedAs cfg opaqueVal slot cursor (Entry.fresh (state.nextId cfg slot) opaqueVal) :=
  rfl

theorem reserved_key (state : State) (cfg : Config) (opaqueVal slot cursor : Nat) :
    (state.reserved cfg opaqueVal slot cursor).entries.length - 1 = state.entries.length := by
  simp [State.reserved]

/-- The descriptor is all that `bind` writes into the entry it reserved. -/
theorem reserved_tagged (state : State) (cfg : Config) (opaqueVal slot cursor : Nat) (fd : Int) :
    (state.reserved cfg opaqueVal slot cursor).focus cfg state.entries.length (.setExternalFd fd) =
      state.reservedAs cfg opaqueVal slot cursor
        { Entry.fresh (state.nextId cfg slot) opaqueVal with externalFd := fd } := by
  rw [focus_eq _ (state.reserved_last cfg opaqueVal slot cursor)]
  simp [reservedAs, State.reserved, Act.run, Frame.modify]

theorem openHost_atomic (valid : Bool) (env : Env) :
    Returned.Atomic state opaqueVal body (state.openHost cfg valid body opaqueVal env) := by
  cases valid with
  | false => exact .failed (by simp) (.refl state)
  | true =>
      simp only [openHost, Bool.not_true, Bool.false_eq_true, if_false]
      rcases state.reserveEntry_cases cfg env opaqueVal with
        ⟨cursor, result, -⟩ | ⟨slot, cursor, slotBound, free, -, result⟩
      · rw [result]
        exact .failed (by simp) (state.cursor_same cursor)
      · rw [result]
        dsimp only
        rw [reserved_key, reserved_eq_reservedAs]
        exact reservedAs_submitted _ slotBound free rfl rfl rfl

theorem runtimeBind_atomic (fd : Int) (idNull : Bool) (env : Env) :
    Returned.Atomic state opaqueVal (.bind fd)
      (state.runtimeBind cfg fd opaqueVal idNull env) := by
  unfold runtimeBind
  split
  · exact .failed (by simp) (.refl state)
  · split
    · exact .failed (by simp) (.refl state)
    · rcases state.reserveEntry_cases cfg env opaqueVal with
        ⟨cursor, result, -⟩ | ⟨slot, cursor, slotBound, free, -, result⟩
      · rw [result]
        exact .failed (by simp) (state.cursor_same cursor)
      · rw [result]
        dsimp only
        rw [reserved_key]
        split
        · rw [reserved_eq_reservedAs]
          exact .failed (by simp) (reservedAs_discarded slotBound free rfl)
        · rw [reserved_tagged]
          exact reservedAs_submitted _ slotBound free rfl rfl rfl

/-! ## When a call succeeds -/

/-- What a call needs: arguments that pass its checks, an entry, for `bind` a descriptor
that no entry has, memory for the command, and an open queue. -/
@[mk_iff]
structure Opens (cfg : Config) (call : OpenCall) (idNull : Bool) (env : Env) (state : State) :
    Prop where
  valid : call.check cfg = .ok
  written : idNull = false
  reserves : state.Reserves cfg env
  unbound : ∀ fd, call = .bind fd → state.fdTaken cfg state.entries.length fd = false
  built : call.allocates env = true
  accepting : state.accepting = true

theorem submitOpen_ok_iff (key : Nat) (built : Bool) (command : Command) :
    (state.submitOpen cfg key built command).status = .ok ↔
      built = true ∧ state.accepting = true := by
  cases built <;> cases accepting : state.accepting <;> simp [submitOpen, push, accepting]

/-- The entry just reserved is not one of the others that `bind` searches. -/
theorem fdTaken_reserved (free : state.runtime.table.slots slot = none) (fd : Int) :
    (state.reserved cfg opaqueVal slot cursor).fdTaken cfg state.entries.length fd =
      state.fdTaken cfg state.entries.length fd := by
  refine congrArg (List.any _) (funext fun other => ?_)
  rcases eq_or_ne other slot with rfl | elsewhere
  · simp [State.reserved, SlotTable.install, free]
  · simp only [State.reserved, SlotTable.install_slots, Function.update_of_ne elsewhere]
    cases state.runtime.table.slots other with
    | none => rfl
    | some key =>
        rcases eq_or_ne key state.entries.length with rfl | old
        · simp
        · have same (entry : Entry) : (state.entries ++ [entry])[key]? = state.entries[key]? := by
            grind
          simp only [same]

theorem openHost_ok_iff (valid : Bool) (env : Env) :
    (state.openHost cfg valid body opaqueVal env).status = .ok ↔ valid = true ∧
      state.Reserves cfg env ∧ (env.command && env.data) = true ∧ state.accepting = true := by
  cases valid with
  | false => simp [openHost]
  | true =>
      rcases state.reserveEntry_cases cfg env opaqueVal with
        ⟨cursor, result, full⟩ | ⟨slot, cursor, slotBound, free, node, result⟩
      · simp [openHost, result, full]
      · have reserves : state.Reserves cfg env := ⟨⟨slot, slotBound, free⟩, node⟩
        simp [openHost, result, reserves, submitOpen_ok_iff, State.reserved]

theorem runtimeBind_ok_iff (fd : Int) (idNull : Bool) (env : Env) :
    (state.runtimeBind cfg fd opaqueVal idNull env).status = .ok ↔
      state.Opens cfg (.bind fd) idNull env := by
  rw [opens_iff, runtimeBind]
  by_cases supported : cfg.externalFd = true
  · by_cases invalid : (decide (fd < 0) || idNull) = true
    · rw [if_neg (by simp [supported]), if_pos invalid]
      simp only [OpenCall.check, supported]
      grind
    · obtain ⟨valid, written⟩ : ¬ fd < 0 ∧ idNull = false := by simpa using invalid
      have accepting (entry : Entry) (cursor slot : Nat) :
          (state.reservedAs cfg opaqueVal slot cursor entry).accepting = state.accepting := rfl
      rcases state.reserveEntry_cases cfg env opaqueVal with
        ⟨cursor, result, full⟩ | ⟨slot, cursor, slotBound, free, node, result⟩
      · simp [supported, valid, written, result, full]
      · have reserves : state.Reserves cfg env := ⟨⟨slot, slotBound, free⟩, node⟩
        -- the search runs after the reservation, and sees what it would have seen before
        cases taken : state.fdTaken cfg state.entries.length fd with
        | true =>
            simp [supported, valid, written, result, reserved_key, fdTaken_reserved free, taken]
        | false =>
            simp [supported, valid, written, result, reserves, reserved_key, fdTaken_reserved free,
              taken, reserved_tagged, submitOpen_ok_iff, accepting, OpenCall.check,
              OpenCall.allocates]
  · simp [supported, OpenCall.check]

end State

/-! ## The same call, step by step -/

namespace State

variable {cfg : Config} {state before middle after : State} {label : Label} {env : Env}
  {worker : Worker} {entry : Entry}

/-- The same label again and again, until `after` is reached. -/
def Repeats (cfg : Config) (label : Label) (before after : State) : Prop :=
  ∃ count, (socketSystem cfg).exec before (List.replicate count label) = some after

theorem Repeats.refl (state : State) : Repeats cfg label state state := ⟨0, rfl⟩

theorem Repeats.step (first : step cfg before label = some middle)
    (rest : Repeats cfg label middle after) : Repeats cfg label before after := by
  obtain ⟨count, run⟩ := rest
  refine ⟨count + 1, ?_⟩
  rw [List.replicate_succ]
  exact (Option.bind_eq_some_iff).mpr ⟨middle, first, run⟩

/-- One more call in progress. -/
def calling (worker : Worker) (state : State) : State :=
  { state with workers := state.workers ++ [worker] }

/-- No undefined behaviour so far, and worker threads may call. -/
def Open (state : State) : Prop := state.faults = [] ∧ state.pc.live = true

theorem calling_step (isOpen : state.Open)
    (next : (state.calling worker).workerStep cfg state.workers.length worker env = some after) :
    step cfg (state.calling worker) (.worker state.workers.length env) = some after := by
  have undisturbed : (state.calling worker).faults.isEmpty = true := by
    simp [calling, isOpen.1]
  have live : (state.calling worker).pc.live = true := isOpen.2
  have here : (state.calling worker).workers[state.workers.length]? = some worker :=
    List.getElem?_concat_length
  rw [step, if_pos undisturbed]
  simp only [liveStep, live, here, if_true, Option.bind_some]
  exact next

@[simp]
theorem calling_setWorker (state : State) (worker : Worker) (pc : WorkerPc) :
    (state.calling worker).setWorker state.workers.length worker pc =
      state.calling { worker with pc := pc } := by
  simp [setWorker, calling]

/-- `bind` searches the table for the descriptor before anything else. -/
theorem calling_checks (state : State) (cfg : Config) (env : Env) (worker : Worker) {fd : Int}
    (here : worker.pc = .reserved) (isBind : worker.call = .bind fd)
    (at_key : state.entries[worker.key]? = some entry)
    (alive : entry.freed = false) :
    (state.calling worker).workerStep cfg state.workers.length worker env =
      some (if state.fdTaken cfg worker.key fd then
          state.calling { worker with pc := .discarding .invalidState }
        else (state.focus cfg worker.key (.setExternalFd fd)).calling
          { worker with pc := .checked }) := by
  have searched : (state.calling worker).fdTaken cfg worker.key fd =
      state.fdTaken cfg worker.key fd := rfl
  have called : (state.calling worker).entries[worker.key]? = some entry := at_key
  simp only [workerStep, here, isBind, searched, calling_setWorker, access, called,
    Option.map_some, alive, Bool.false_eq_true, if_false]
  split
  · rfl
  · rw [focus_eq _ called, focus_eq _ at_key]
    simp [calling, setWorker, isBind]

/-- The four steps of `discard_uninitialized_entry`. -/
theorem calling_discards (state : State) (worker : Worker) (result : Status) (isOpen : state.Open)
    (at_key : state.entries[worker.key]? = some entry) (alive : entry.freed = false)
    (bare : entry.initialized = false) :
    Repeats cfg (.worker state.workers.length env)
      (state.calling { worker with pc := .discarding result })
      ((state.discardEntry cfg worker.key).calling { worker with pc := .done result none }) := by
  let unlinked : State := { state with
    runtime := { state.runtime with
      table := state.runtime.table.unlink cfg worker.key entry.id } }
  let freed : State := { unlinked with
    entries := state.entries.set worker.key
      { entry with freed := true, log := entry.log ++ [.free] } }
  let ready := freed.runtime.exiting && freed.runtime.table.entryCount == 0
  have unlinks : step cfg (state.calling { worker with pc := .discarding result })
      (.worker state.workers.length env) =
        some (unlinked.calling { worker with pc := .unlinked result }) := by
    refine calling_step isOpen ?_
    simp [workerStep, access, setWorker, calling, at_key, alive, unlinked]
  have frees : step cfg (unlinked.calling { worker with pc := .unlinked result })
      (.worker unlinked.workers.length env) =
        some (freed.calling { worker with pc := .freed result }) := by
    refine calling_step isOpen ?_
    simp [workerStep, access, setWorker, calling, focus, Act.run, Frame.freeEntry, Frame.modify,
      at_key, alive, bare, unlinked, freed]
  have counts : step cfg (freed.calling { worker with pc := .freed result })
      (.worker freed.workers.length env) =
        some (freed.calling { worker with pc := .deciding result ready }) := by
    refine calling_step isOpen ?_
    simp [workerStep, setWorker, calling, ready]
  have decides : step cfg (freed.calling { worker with pc := .deciding result ready })
      (.worker freed.workers.length env) =
        some ((state.discardEntry cfg worker.key).calling
          { worker with pc := .done result none }) := by
    refine calling_step isOpen ?_
    have settled : Frame.unlinkedRuntime cfg ⟨worker.key, entry, state.runtime⟩ =
        if ready then { freed.runtime with exitReady := true } else freed.runtime := rfl
    rw [discardEntry_eq at_key, settled]
    clear_value ready
    cases ready with
    | true => simp [workerStep, setWorker, calling, freed, unlinked]
    | false => simp [workerStep, setWorker, calling, freed, unlinked]
  exact .step unlinks (.step frees (.step counts (.step decides (.refl _))))

/-- From the command on, the worker steps are those of `submitOpen`. -/
theorem calling_submits (state : State) (worker : Worker) (isOpen : state.Open)
    (at_key : state.entries[worker.key]? = some entry) (alive : entry.freed = false)
    (bare : entry.initialized = false) {result : Returned}
    (submits : state.submitOpen cfg worker.key (worker.call.allocates env)
      ⟨entry.id, worker.opaqueVal, worker.call.body⟩ = result) :
    Repeats cfg (.worker state.workers.length env)
      (state.calling { worker with pc := .checked })
      (result.state.calling { worker with pc := .done result.status result.id }) := by
  subst submits
  have discards (status : Status) : Repeats cfg (.worker state.workers.length env)
      (state.calling { worker with pc := .discarding status })
      ((state.discardEntry cfg worker.key).calling { worker with pc := .done status none }) :=
    calling_discards state worker status isOpen at_key alive bare
  cases built : worker.call.allocates env with
  | false =>
      refine .step (calling_step isOpen ?_) (discards .outOfMemory)
      simp [workerStep, calling, setWorker, built]
  | true =>
      have builds : step cfg (state.calling { worker with pc := .checked })
          (.worker state.workers.length env) = some (state.calling { worker with
            pc := .built ⟨entry.id, worker.opaqueVal, worker.call.body⟩ }) := by
        refine calling_step isOpen ?_
        simp [workerStep, calling, setWorker, built, access, at_key, alive]
      cases accepting : state.accepting with
      | false =>
          have refused : step cfg (state.calling { worker with
              pc := .built ⟨entry.id, worker.opaqueVal, worker.call.body⟩ })
              (.worker state.workers.length env) =
                some (state.calling { worker with pc := .discarding .invalidState }) := by
            refine calling_step isOpen ?_
            simp [workerStep, calling, setWorker, push, accepting]
          refine .step builds (.step refused ?_)
          simpa [submitOpen, push, accepting] using discards .invalidState
      | true =>
          let submitted : State := { state with
            commands := state.commands ++ [⟨entry.id, worker.opaqueVal, worker.call.body⟩] }
          have submits : step cfg (state.calling { worker with
              pc := .built ⟨entry.id, worker.opaqueVal, worker.call.body⟩ })
              (.worker state.workers.length env) =
                some (submitted.calling { worker with pc := .submitted }) := by
            refine calling_step isOpen ?_
            simp [workerStep, calling, setWorker, push, accepting, submitted]
          have returns : step cfg (submitted.calling { worker with pc := .submitted })
              (.worker submitted.workers.length env) =
                some (submitted.calling { worker with pc := .done .ok (some entry.id) }) := by
            refine calling_step isOpen ?_
            simp [workerStep, calling, setWorker, access, at_key, alive, submitted]
          refine .step builds (.step submits (.step returns ?_))
          have returned : state.submitOpen cfg worker.key true
              ⟨entry.id, worker.opaqueVal, worker.call.body⟩ =
                ⟨.ok, some entry.id, submitted⟩ := by
            simp [submitOpen, push, accepting, submitted]
          rw [returned]
          exact .refl _

theorem reservedAs_submits {call : OpenCall} {opaqueVal slot cursor : Nat} (isOpen : state.Open)
    (named : entry.id = state.nextId cfg slot) (alive : entry.freed = false)
    (bare : entry.initialized = false) {result : Returned}
    (submits : (state.reservedAs cfg opaqueVal slot cursor entry).submitOpen cfg
      state.entries.length
      (call.allocates env) ⟨state.nextId cfg slot, opaqueVal, call.body⟩ = result) :
    Repeats cfg (.worker state.workers.length env)
      ((state.reservedAs cfg opaqueVal slot cursor entry).calling
        ⟨call, opaqueVal, state.entries.length, state.nextId cfg slot, .checked⟩)
      (result.state.calling ⟨call, opaqueVal, state.entries.length, state.nextId cfg slot,
        .done result.status result.id⟩) := by
  rw [← named] at submits
  exact calling_submits (state.reservedAs cfg opaqueVal slot cursor entry)
    ⟨call, opaqueVal, state.entries.length, state.nextId cfg slot, .checked⟩ isOpen
    List.getElem?_concat_length alive bare submits

/-- The steps of a call end in what it returns.  A call that fails before it has an
entry is over at once. -/
def Returns (cfg : Config) (call : OpenCall) (opaqueVal : Nat) (env : Env) (state : State)
    (result : Returned) : Prop :=
  ∃ middle, step cfg state (.openCall call opaqueVal env) = some middle ∧
    (middle = result.state ∧ result.status ≠ .ok ∧ result.id = none ∨
      ∃ worker : Worker, worker.pc = .done result.status result.id ∧
        Repeats cfg (.worker state.workers.length env) middle (result.state.calling worker))

theorem openCall_step (isOpen : state.Open) (call : OpenCall) (opaqueVal : Nat) :
    step cfg state (.openCall call opaqueVal env) =
      some (state.openCall cfg call opaqueVal env) := by
  simp [step, liveStep, isOpen.1, isOpen.2]

theorem openHost_returns {call : OpenCall} {opaqueVal : Nat} {valid : Bool} (isOpen : state.Open)
    (hosted : ∀ fd, call ≠ .bind fd) (checks : valid = true ↔ call.check cfg = .ok) :
    Returns cfg call opaqueVal env state
      (state.openHost cfg valid call.body opaqueVal env) := by
  refine ⟨_, openCall_step isOpen call opaqueVal, ?_⟩
  cases valid with
  | false =>
      have refused : call.check cfg ≠ .ok := by simpa using checks
      simp [openCall, openHost, refused]
  | true =>
      have passed : call.check cfg = .ok := checks.mp rfl
      rcases state.reserveEntry_cases cfg env opaqueVal with
        ⟨cursor, result, -⟩ | ⟨slot, cursor, -, -, -, result⟩
      · simp [openCall, openHost, passed, result]
      · have allocates : call.allocates env = (env.command && env.data) := by
          cases call with
          | bind fd => exact absurd rfl (hosted fd)
          | _ => rfl
        have opened : state.openCall cfg call opaqueVal env =
            (state.reserved cfg opaqueVal slot cursor).calling
              ⟨call, opaqueVal, state.entries.length, state.nextId cfg slot, .checked⟩ := by
          simp only [openCall, passed, result, ne_eq, not_true_eq_false, if_false, calling,
            reserved_key]
        have returned : state.openHost cfg true call.body opaqueVal env =
            (state.reserved cfg opaqueVal slot cursor).submitOpen cfg state.entries.length
              (call.allocates env) ⟨state.nextId cfg slot, opaqueVal, call.body⟩ := by
          simp [openHost, result, reserved_key, allocates]
        rw [opened, returned, reserved_eq_reservedAs]
        exact .inr ⟨_, rfl, reservedAs_submits isOpen rfl rfl rfl rfl⟩

theorem runtimeBind_returns (fd : Int) {opaqueVal : Nat} (isOpen : state.Open) :
    Returns cfg (.bind fd) opaqueVal env state
      (state.runtimeBind cfg fd opaqueVal false env) := by
  refine ⟨_, openCall_step isOpen (.bind fd) opaqueVal, ?_⟩
  by_cases supported : cfg.externalFd = true ∧ ¬ fd < 0
  · have passed : (OpenCall.bind fd).check cfg = .ok := by
      simp [OpenCall.check, supported]
    rcases state.reserveEntry_cases cfg env opaqueVal with
      ⟨cursor, result, -⟩ | ⟨slot, cursor, -, -, -, result⟩
    · simp [openCall, passed, runtimeBind, supported, result]
    · have opened : state.openCall cfg (.bind fd) opaqueVal env =
          (state.reserved cfg opaqueVal slot cursor).calling
            ⟨.bind fd, opaqueVal, state.entries.length, state.nextId cfg slot, .reserved⟩ := by
        simp only [openCall, passed, result, ne_eq, not_true_eq_false, if_false, calling,
          reserved_key]
      have checks := (state.reserved cfg opaqueVal slot cursor).calling_checks cfg env
        ⟨.bind fd, opaqueVal, state.entries.length, state.nextId cfg slot, .reserved⟩ rfl rfl
        (state.reserved_last cfg opaqueVal slot cursor) rfl
      rw [opened]
      cases taken : (state.reserved cfg opaqueVal slot cursor).fdTaken cfg
          state.entries.length fd with
      | true =>
          have returned : state.runtimeBind cfg fd opaqueVal false env = ⟨.invalidState, none,
              (state.reserved cfg opaqueVal slot cursor).discardEntry cfg
                state.entries.length⟩ := by
            simp [runtimeBind, supported, result, reserved_key, taken]
          rw [returned]
          refine .inr ⟨_, rfl, .step (calling_step isOpen ?_) (calling_discards
            (state.reserved cfg opaqueVal slot cursor)
            ⟨.bind fd, opaqueVal, state.entries.length, state.nextId cfg slot, .reserved⟩
            .invalidState isOpen (state.reserved_last cfg opaqueVal slot cursor) rfl rfl)⟩
          exact checks.trans (by rw [taken]; rfl)
      | false =>
          have returned : state.runtimeBind cfg fd opaqueVal false env =
              (state.reservedAs cfg opaqueVal slot cursor
                { Entry.fresh (state.nextId cfg slot) opaqueVal with externalFd := fd }).submitOpen
                cfg state.entries.length ((OpenCall.bind fd).allocates env)
                ⟨state.nextId cfg slot, opaqueVal, (OpenCall.bind fd).body⟩ := by
            simp [runtimeBind, supported, result, reserved_key, taken, reserved_tagged,
              OpenCall.allocates, OpenCall.body]
          rw [returned]
          refine .inr ⟨_, rfl, .step (calling_step isOpen ?_)
            (reservedAs_submits isOpen rfl rfl rfl rfl)⟩
          rw [← reserved_tagged]
          exact checks.trans (by rw [taken]; rfl)
  · cases offered : cfg.externalFd with
    | false => simp [openCall, runtimeBind, OpenCall.check, offered]
    | true =>
        have negative : fd < 0 := by simpa [offered] using supported
        simp [openCall, runtimeBind, OpenCall.check, offered, negative]

theorem runtimeOpen_run (call : OpenCall) (opaqueVal : Nat) (isOpen : state.Open) :
    Returns cfg call opaqueVal env state (state.runtimeOpen cfg call opaqueVal false env) := by
  have refused {call : OpenCall} (failed : call.check cfg = .invalidArgument) :
      Returns cfg call opaqueVal env state ⟨.invalidArgument, none, state⟩ :=
    ⟨_, openCall_step isOpen call opaqueVal, .inl (by simp [openCall, failed])⟩
  cases call with
  | listen host port backlog | connect host port =>
      cases host with
      | none => exact refused rfl
      | some host =>
          refine openHost_returns isOpen (by simp) ?_
          simp [OpenCall.check]
  | bind fd => exact runtimeBind_returns fd isOpen
  | udp host port =>
      refine openHost_returns isOpen (by simp) ?_
      simp [OpenCall.check]

end State

theorem runtimeOpen_run_udp : State.Returns fourSlots (.udp none 0) 7 .fine .init
    (State.init.runtimeOpen fourSlots (.udp none 0) 7 false .fine) :=
  State.runtimeOpen_run (.udp none 0) 7 ⟨rfl, rfl⟩

/-- The payload of the command that a call submits, if its host is not `NULL`. -/
def OpenCall.payload : OpenCall → Option CommandBody
  | .listen host port backlog => host.map fun host => .listen host port backlog
  | .connect host port => host.map fun host => .connect host port
  | .bind fd => some (.bind fd)
  | .udp host port => some (.udp (host.getD "0.0.0.0") port)

theorem Returned.Atomic.cases {before : State} {opaqueVal : Nat} {body : CommandBody}
    {result : Returned} (atomic : Returned.Atomic before opaqueVal body result) :
    (result.status ≠ .ok → before.SameSockets result.state ∧ result.id = none) ∧
      (result.status = .ok → ∃ id, result.id = some id ∧
        before.Added opaqueVal body id result.state) := by
  cases atomic with
  | failed error same => exact ⟨fun _ => ⟨same, rfl⟩, fun ok => absurd ok error⟩
  | added added => exact ⟨fun error => absurd rfl error, fun _ => ⟨_, rfl, added⟩⟩

theorem State.runtimeOpen_cases (cfg : Config) (state : State) (call : OpenCall) (opaqueVal : Nat)
    (idNull : Bool) (env : Env) :
    state.runtimeOpen cfg call opaqueVal idNull env = ⟨.invalidArgument, none, state⟩ ∨
      ∃ body, call.payload = some body ∧ Returned.Atomic state opaqueVal body
        (state.runtimeOpen cfg call opaqueVal idNull env) := by
  cases call with
  | listen host port backlog | connect host port =>
      cases host with
      | none => exact .inl rfl
      | some host => exact .inr ⟨_, rfl, openHost_atomic _ env⟩
  | bind fd => exact .inr ⟨_, rfl, runtimeBind_atomic fd idNull env⟩
  | udp host port => exact .inr ⟨_, rfl, openHost_atomic _ env⟩

theorem State.runtimeOpen_ok_iff (cfg : Config) (state : State) (call : OpenCall) (opaqueVal : Nat)
    (idNull : Bool) (env : Env) :
    (state.runtimeOpen cfg call opaqueVal idNull env).status = .ok ↔
      state.Opens cfg call idNull env := by
  cases call with
  | bind fd => exact runtimeBind_ok_iff fd idNull env
  | udp host port =>
      refine (openHost_ok_iff _ env).trans ?_
      simp [opens_iff, OpenCall.check, OpenCall.allocates, and_assoc]
  | listen host port backlog | connect host port =>
      cases host with
      | none => simp [runtimeOpen, runtimeListen, runtimeConnect, opens_iff, OpenCall.check]
      | some host =>
          refine (openHost_ok_iff _ env).trans ?_
          simp [opens_iff, OpenCall.check, OpenCall.allocates, and_assoc]

/-- An id-allocating call is atomic, in every state and for all arguments.  If it
returns anything but `SKYUV_OK`, the slots, their entries, their number and the
command queue are those of before, and `*id` is not written.  If it returns
`SKYUV_OK`, one `RESERVED` entry was added, its id was written, and one command for
it with the given opaque and payload was appended.  It does so exactly if it finds
what it needs. -/
theorem open_call_atomic (cfg : Config) (state : State) (call : OpenCall) (opaqueVal : Nat)
    (idNull : Bool) (env : Env) :
    let result := state.runtimeOpen cfg call opaqueVal idNull env
    (result.status ≠ .ok → state.SameSockets result.state ∧ result.id = none) ∧
      (result.status = .ok → ∃ id body, result.id = some id ∧ call.payload = some body ∧
        state.Added opaqueVal body id result.state) ∧
      (result.status = .ok ↔ state.Opens cfg call idNull env) := by
  refine and_assoc.mp ⟨?_, state.runtimeOpen_ok_iff cfg call opaqueVal idNull env⟩
  rcases state.runtimeOpen_cases cfg call opaqueVal idNull env with refused |
    ⟨body, carries, atomic⟩
  · rw [refused]
    exact ⟨fun _ => ⟨.refl state, rfl⟩, fun ok => by cases ok⟩
  · refine ⟨atomic.cases.1, fun ok => ?_⟩
    obtain ⟨id, written, added⟩ := atomic.cases.2 ok
    exact ⟨id, body, written, carries, added⟩

theorem open_call_atomic_udp :
    let result := State.init.runtimeOpen fourSlots (.udp none 0) 7 false .fine
    result.status = .ok ∧ result.id = some 4 ∧
      State.init.Added 7 (.udp "0.0.0.0" 0) 4 result.state := by
  obtain ⟨-, succeeds, opens⟩ := open_call_atomic fourSlots .init (.udp none 0) 7 false .fine
  have ok := opens.mpr ⟨rfl, rfl, ⟨⟨0, by decide, rfl⟩, rfl⟩, by simp, rfl, rfl⟩
  obtain ⟨id, body, written, ⟨⟩, added⟩ := succeeds ok
  cases written
  exact ⟨ok, rfl, added⟩

end Skyuv.Socket
