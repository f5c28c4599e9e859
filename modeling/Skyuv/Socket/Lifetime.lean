import Skyuv.Socket.Steps

/-!
# Entries shared by a worker and the loop

An id-allocating call publishes its entry in the slot table before it is done
with it: it reads `entry->id` after it has submitted the command, and it discards
the entry when the submission fails.  The loop does not know of the call and may
free the entry in between.  `considerate` names the steps that do not: as long as
the loop takes only such steps, no call touches a freed entry.
-/

set_option autoImplicit false

namespace Skyuv.Socket

open TransitionSystem

/-- Whether an opening command gets its handle; `none` when it does not try. -/
def CommandBody.setUp (cfg : Config) (env : Env) : CommandBody → Option Bool
  | .listen host port _ | .connect host port =>
      some ((env.parseAddress host port).isOk && decide (env.uv .tcpInit = 0))
  | .bind _ => if cfg.externalFd then some (decide (env.uv .tcpInit = 0)) else none
  | .udp host port => some ((env.parseAddress host port).isOk && decide (env.uv .udpInit = 0))
  | _ => none

/-- The loop frees the entry that it found. -/
def Act.frees (cfg : Config) : Act → Entry → Bool
  | .command cmd env, entry =>
      (cmd.body.closes && decide (entry.state ≠ .closing) && !entry.initialized) ||
        (decide (entry.state = .reserved) && decide (cmd.body.setUp cfg env = some false))
  | .exitScan, entry | .releaseScan _, entry => !entry.initialized
  | .closeEntry, _ => true
  | _, _ => false

/-- The loop opens the handle of the entry that it found. -/
def Act.opens (cfg : Config) : Act → Entry → Bool
  | .command cmd env, entry =>
      decide (entry.state = .reserved) && decide (cmd.body.setUp cfg env = some true)
  | _, _ => false

namespace Frame

variable {cfg : Config} {env : Env} {frame : Frame}

/-- Whether the entry was freed, and whether its handle was opened. -/
def fate (frame : Frame) : Bool × Bool := (frame.entry.freed, frame.entry.initialized)

/-- The fate of an entry after an opening command. -/
def fateOf (setUp : Option Bool) (frame : Frame) : Bool × Bool :=
  if frame.entry.state = .reserved then
    match setUp with
    | none => frame.fate
    | some false => (true, frame.entry.initialized)
    | some true => (frame.entry.freed, true)
  else frame.fate

@[simp]
theorem fate_cacheTcpName (name : Option TcpName) :
    (frame.cacheTcpName name).fate = frame.fate := by
  unfold cacheTcpName
  split <;> rfl

@[simp]
theorem fate_startReading : (frame.startReading env).fate = frame.fate := by
  unfold startReading
  split <;> rfl

/-- An opening command does something to a reserved entry only. -/
theorem fateOf_other (other : frame.entry.state ≠ .reserved) (setUp : Option Bool) :
    frame.fate = frame.fateOf setUp :=
  (if_neg other).symm

theorem fateOf_failed (reserved : ¬frame.entry.state ≠ .reserved) {setUp : Option Bool}
    (failed : setUp = some false) : (true, frame.entry.initialized) = frame.fateOf setUp := by
  subst failed
  exact (if_pos (not_not.mp reserved)).symm

theorem fateOf_opened (reserved : ¬frame.entry.state ≠ .reserved) {setUp : Option Bool}
    (opened : setUp = some true) : (frame.entry.freed, true) = frame.fateOf setUp := by
  subst opened
  exact (if_pos (not_not.mp reserved)).symm

/-- The opening commands that name a host: the entry is freed when the address does not
parse or the handle cannot be made. -/
theorem fate_addressed {host : String} {port made : Int} {unparsed : Int → Frame}
    {unmade onward : Frame} (refused : ∀ error,
      (unparsed error).fate = (true, frame.entry.initialized))
    (failed : unmade.fate = (true, frame.entry.initialized))
    (opened : onward.fate = (frame.entry.freed, true)) :
    (if frame.entry.state ≠ .reserved then frame
      else
        match env.parseAddress host port with
        | .error error => unparsed error
        | .ok _ => if made ≠ 0 then unmade else onward).fate =
      frame.fateOf (some ((env.parseAddress host port).isOk && decide (made = 0))) := by
  split
  · exact fateOf_other ‹_› _
  · rename_i reserved
    cases env.parseAddress host port with
    | error error => exact (refused error).trans (fateOf_failed reserved rfl)
    | ok address =>
        by_cases fine : made = 0
        · simp only [ne_eq, fine, not_true_eq_false, if_false]
          exact opened.trans (fateOf_opened reserved (by simp [Except.isOk, Except.toBool]))
        · simp only [ne_eq, fine, not_false_eq_true, if_true]
          exact failed.trans (fateOf_failed reserved (by simp))

theorem fate_processListen (host : String) (port backlog : Int) :
    (frame.processListen cfg env host port).fate =
      frame.fateOf ((CommandBody.listen host port backlog).setUp cfg env) := by
  refine fate_addressed (fun _ => rfl) rfl ?_
  split
  · rfl
  · split
    · rfl
    · exact fate_cacheTcpName _

theorem fate_processConnect (host : String) (port : Int) :
    (frame.processConnect cfg env host port).fate =
      frame.fateOf ((CommandBody.connect host port).setUp cfg env) := by
  refine fate_addressed (fun _ => rfl) rfl ?_
  split <;> rfl

theorem fate_processBind (fd : Int) :
    (frame.processBind cfg env).fate =
      frame.fateOf ((CommandBody.bind fd).setUp cfg env) := by
  unfold processBind
  split
  · rename_i unsupported
    have untried : (CommandBody.bind fd).setUp cfg env = none := by
      simpa [CommandBody.setUp] using unsupported
    rw [untried]
    exact (ite_self _).symm
  · rename_i supported
    split
    · exact fateOf_other ‹_› _
    · rename_i reserved
      split
      · rename_i failed
        exact fateOf_failed reserved (by simp_all [CommandBody.setUp])
      · rename_i fine
        have opened : (CommandBody.bind fd).setUp cfg env = some true := by
          simp_all [CommandBody.setUp]
        dsimp only
        split
        · exact fateOf_opened reserved opened
        · split
          · refine Eq.trans ?_ (fateOf_opened reserved opened)
            exact fate_startReading
          · refine Eq.trans ?_ (fateOf_opened reserved opened)
            exact (fate_cacheTcpName _).trans fate_startReading

theorem fate_processUdp (host : String) (port : Int) :
    (frame.processUdp cfg env host port).fate =
      frame.fateOf ((CommandBody.udp host port).setUp cfg env) := by
  refine fate_addressed (fun _ => rfl) rfl ?_
  split
  · rfl
  · split <;> rfl

theorem fate_runCommand (frame : Frame) (command : Command) (opens : command.body.opens = true) :
    (frame.runCommand cfg env command).fate = frame.fateOf (command.body.setUp cfg env) := by
  unfold runCommand
  cases body : command.body with
  | listen host port backlog => exact fate_processListen host port backlog
  | connect host port => exact fate_processConnect host port
  | bind fd => exact fate_processBind fd
  | udp host port => exact fate_processUdp host port
  | _ => simp [body, CommandBody.opens] at opens

end Frame

namespace Life

variable {life after : Life} {act : Act}

/-- The acts that free an entry. -/
inductive Freeing (life : Life) : Act → Prop
  | command (command : Command) (env : Env) (bare : life.initialized = false)
      (ends : command.body.opens = true ∨ command.body.closes = true) :
      Freeing life (.command command env)
  | scan {act : Act} (scan : act = .exitScan ∨ ∃ slot, act = .releaseScan slot)
      (bare : life.initialized = false) : Freeing life act
  | accept (env : Env) : Freeing life (.acceptInto env)
  | closed : Freeing life .closeEntry
  | discarded : Freeing life .freeEntry

def frees (life : Life) : Nat := life.log.count .free

/-- The entry is not freed, or it is, and recorded as such. -/
def FreeStep (act : Act) (life after : Life) : Prop :=
  (after.freed = life.freed ∧ after.frees = life.frees) ∨
    (after.freed = true ∧ after.frees = life.frees + 1 ∧ Freeing life act)

theorem frees_emit {observations : List Obs} (events : OnlyEvents observations) :
    (life.emit observations).frees = life.frees := by
  simp [frees, emit, events.count]

theorem frees_shut (life : Life) : life.shut.frees = life.frees := by
  simp [frees, shut]

theorem frees_drop (life : Life) : life.drop.frees = life.frees + 1 := by
  simp [frees, drop]

theorem Pumped.freed {env : Env} (pumped : Pumped env life after) :
    after.freed = life.freed ∧ after.frees = life.frees := by
  cases pumped with
  | busy | empty => exact ⟨rfl, rfl⟩
  | high | low => exact ⟨rfl, by simp [frees, emit]⟩
  | highFailed | lowFailed =>
      refine ⟨rfl, ?_⟩
      rw [frees_shut, frees_emit (onlyEvents_failureObs _ _ _)]
      simp [frees, emit]

theorem Resumed.freed {env : Env} (resumed : Resumed env life after) :
    after.freed = life.freed ∧ after.frees = life.frees := by
  cases resumed with
  | drained => exact ⟨rfl, frees_shut life⟩
  | waiting | closing => exact ⟨rfl, rfl⟩
  | pumped _ _ pumped => exact pumped.freed

theorem Move.freeStep (move : Move act life after) : FreeStep act life after := by
  cases move with
  | ignored | connecting | udpOpened | paused | datagram | pumpSkipped | scanned | readNothing
  | udpNothing | connectLate | acceptStalled | accepted | tagged => exact .inl ⟨rfl, rfl⟩
  | refused | listening | bound | reported | started | readData | readEof | connected
  | acceptError => exact .inl ⟨rfl, frees_emit (onlyEvents_eventObs _ _ _)⟩
  | rejected | startFailed | readFailed | udpFailed | connectFailed | acceptRejected =>
      exact .inl ⟨rfl, (frees_shut _).trans (frees_emit (onlyEvents_eventObs _ _ _))⟩
  | acceptTaken | udpData => exact .inl ⟨rfl, by simp [frees, emit]⟩
  | queuedHigh _ _ _ warnings _ _ _ plain | queuedLow _ _ _ warnings _ _ _ plain =>
      exact .inl ⟨rfl, (frees_emit (onlyEvents_plain plain)).trans (by simp [frees, emit])⟩
  | datagramSent _ _ _ errors plain => exact .inl ⟨rfl, frees_emit (onlyEvents_plain plain)⟩
  | draining =>
      exact .inl ⟨rfl, (frees_emit (onlyEvents_closeObs _ _ _)).trans (by simp [frees, emit])⟩
  | closedNow =>
      refine .inl ⟨rfl, (frees_shut _).trans ?_⟩
      exact (frees_emit (onlyEvents_closeObs _ _ _)).trans (by simp [frees, emit])
  | acceptDone =>
      exact .inl ⟨rfl, (frees_emit (onlyEvents_eventObs _ _ _)).trans (by simp [frees, emit])⟩
  | scanShut => exact .inl ⟨rfl, frees_shut life⟩
  | pumped env state pumped => exact .inl pumped.freed
  | written status env buffer rest warnings head fine plain resumed =>
      refine .inl ⟨resumed.freed.1, resumed.freed.2.trans ?_⟩
      exact (frees_emit (onlyEvents_plain plain)).trans (by simp [frees, complete, emit])
  | writeFailed status env buffer rest event head fails state type resumed =>
      refine .inl ⟨resumed.freed.1, resumed.freed.2.trans ((frees_shut _).trans ?_)⟩
      exact (frees_emit (onlyEvents_failureObs _ _ _)).trans (by simp [frees, complete, emit])
  | aborted command env event state isUdp opens bare =>
      refine .inr ⟨rfl, (frees_drop _).trans ?_, .command command env bare (.inl opens)⟩
      rw [frees_emit (onlyEvents_eventObs _ _ _)]
      rfl
  | closedBare command env event closes bare =>
      refine .inr ⟨rfl, (frees_drop _).trans ?_, .command command env bare (.inr closes)⟩
      rw [frees_emit (onlyEvents_closeObs _ _ _)]
      simp [frees, emit]
  | scanDropped bare scan => exact .inr ⟨rfl, frees_drop life, .scan scan bare⟩
  | acceptDropped env => exact .inr ⟨rfl, frees_drop life, .accept env⟩
  | closed => exact .inr ⟨rfl, frees_drop _, .closed⟩
  | discarded => exact .inr ⟨rfl, frees_drop life, .discarded⟩

/-- The acts that open a handle. -/
theorem Move.opened_by (move : Move act life after) :
    after.initialized = life.initialized ∨
      (∃ command env, act = .command command env ∧ command.body.opens = true) ∨
      ∃ env, act = .acceptInto env := by
  cases move with
  | rejected command env _ _ opens | listening command env _ opens | connecting command env opens
  | bound command env _ opens | udpOpened command env opens =>
      exact .inr (.inl ⟨command, env, rfl, opens⟩)
  | acceptDropped env | acceptRejected env | accepted env => exact .inr (.inr ⟨env, rfl⟩)
  | pumped env state pumped => exact .inl pumped.initialized
  | written status env buffer rest warnings head fine plain resumed =>
      exact .inl resumed.initialized
  | writeFailed status env buffer rest event head fails state type resumed =>
      exact .inl resumed.initialized
  | _ => exact .inl rfl

end Life

/-- An opening command frees or opens its entry exactly as `setUp` says. -/
theorem Act.command_fate {cfg : Config} {frame : Frame} {cmd : Command} {env : Env}
    (opens : cmd.body.opens = true) :
    ((Act.command cmd env).frees cfg frame.entry = false →
      (frame.runCommand cfg env cmd).entry.freed = frame.entry.freed) ∧
    ((Act.command cmd env).opens cfg frame.entry = false →
      (frame.runCommand cfg env cmd).entry.initialized = frame.entry.initialized) := by
  have fate : (frame.runCommand cfg env cmd).fate = frame.fateOf (cmd.body.setUp cfg env) :=
    frame.fate_runCommand cmd opens
  have freed : (frame.runCommand cfg env cmd).entry.freed = _ := congrArg Prod.fst fate
  have opened : (frame.runCommand cfg env cmd).entry.initialized = _ := congrArg Prod.snd fate
  rw [freed, opened]
  by_cases reserved : frame.entry.state = .reserved
  · cases setUp : cmd.body.setUp cfg env with
    | none => simp [Frame.fateOf, Frame.fate]
    | some fine =>
        cases fine <;> simp [Act.frees, Act.opens, Frame.fateOf, reserved, setUp]
  · simp [Frame.fateOf, Frame.fate, reserved]

/-- What `frees` and `opens` do not name leaves the entry in memory, and its
handle as it is. -/
theorem Act.run_fate (cfg : Config) (act : Act) (frame : Frame)
    (enabled : act.Enabled frame.entry.life) (sound : frame.entry.life.Sound)
    (alive : frame.entry.freed = false) (found : ∀ env, act ≠ .acceptInto env)
    (kept : act ≠ .freeEntry) :
    (act.frees cfg frame.entry = false → (act.run cfg frame).entry.freed = false) ∧
      (act.opens cfg frame.entry = false →
        (act.run cfg frame).entry.initialized = frame.entry.initialized) := by
  by_cases opening : ∃ cmd env, act = .command cmd env ∧ cmd.body.opens = true
  · obtain ⟨cmd, env, rfl, opens⟩ := opening
    refine ⟨fun spared => ?_, (Act.command_fate opens).2⟩
    exact ((Act.command_fate opens).1 spared).trans alive
  · have move := act.run_move cfg frame enabled sound
    constructor
    · intro spared
      rcases move.freeStep with ⟨same, -⟩ | ⟨-, -, freeing⟩
      · exact same.trans alive
      · cases freeing with
        | command command env bare ends =>
            rcases ends with opens | closes
            · exact absurd ⟨command, env, rfl, opens⟩ opening
            · have reserved : frame.entry.state = .reserved := ((sound.bare bare).2.2.2 alive).1
              have bare : frame.entry.initialized = false := bare
              simp [Act.frees, closes, reserved, bare] at spared
        | scan scan bare =>
            have bare : frame.entry.initialized = false := bare
            rcases scan with rfl | ⟨slot, rfl⟩
            · simp [Act.frees, bare] at spared
            · simp [Act.frees, bare] at spared
        | accept env => exact absurd rfl (found env)
        | closed => cases spared
        | discarded => exact absurd rfl kept
    · intro _
      rcases move.opened_by with same | opens | ⟨env, isAccept⟩
      · exact same
      · exact absurd opens opening
      · exact absurd isAccept (found env)

/-- The call has not handed its command to the loop. -/
def WorkerPc.unsubmitted : WorkerPc → Bool
  | .reserved | .checked | .built _ | .discarding _ | .unlinked _ => true
  | _ => false

theorem WorkerPc.uses_of_unsubmitted {pc : WorkerPc} (early : pc.unsubmitted = true) :
    pc.uses = true := by
  cases pc <;> first | rfl | cases early

namespace State

variable {cfg : Config} {state next : State} {label : Label} {key : Nat} {entry : Entry}

/-- The loop does not free an entry that an id-allocating call will still look
at, and does not open one whose call has not submitted its command.  It frees by an
opening command whose address does not parse or whose `uv_tcp_init` or `uv_udp_init`
fails, by a close or shutdown before the handle is open, by the exit and release scans
and by the close callback. -/
def considerate (cfg : Config) (state : State) (label : Label) : Bool :=
  match state.target cfg label with
  | none => true
  | some (key, act) => state.entries[key]?.all fun entry => state.workers.all fun worker =>
      decide (worker.key ≠ key) ||
        (!(worker.pc.uses && act.frees cfg entry) &&
          !(worker.pc.unsubmitted && act.opens cfg entry))

/-- Every call in progress finds its entry in memory, and the handle closed until
it has submitted its command. -/
def Attended (state : State) : Prop :=
  ∀ worker ∈ state.workers, ∀ (entry : Entry), state.entries[worker.key]? = some entry →
    (worker.pc.uses = true → entry.freed = false) ∧
      (worker.pc.unsubmitted = true → entry.initialized = false)

theorem Attended.same (attended : state.Attended) (workers : next.workers = state.workers)
    (entries : next.entries = state.entries) : next.Attended := by
  intro worker member entry at_key
  rw [workers] at member
  rw [entries] at at_key
  exact attended worker member entry at_key

/-- A call moves on without a wider claim on its entry. -/
theorem Attended.progress (attended : state.Attended) {index : Nat} {worker : Worker}
    (at_index : state.workers[index]? = some worker) {pc : WorkerPc}
    (uses : pc.uses = true → worker.pc.uses = true)
    (unsubmitted : pc.unsubmitted = true → worker.pc.unsubmitted = true) :
    (state.setWorker index worker pc).Attended := by
  intro found member entry at_key
  rcases List.mem_or_eq_of_mem_set member with before | rfl
  · exact attended found before entry at_key
  · have known := attended worker (List.mem_of_getElem? at_index) entry at_key
    exact ⟨known.1 ∘ uses, known.2 ∘ unsubmitted⟩

/-- An act that leaves the entries of all calls in progress alone. -/
theorem Attended.focus {act : Act} (attended : state.Attended)
    (at_key : state.entries[key]? = some entry) (sound : entry.life.Sound)
    (enabled : act.Enabled entry.life) (found : ∀ env, act ≠ .acceptInto env)
    (kept : act ≠ .freeEntry)
    (spares : ∀ worker ∈ state.workers, worker.key = key →
      (worker.pc.uses = true → act.frees cfg entry = false) ∧
        (worker.pc.unsubmitted = true → act.opens cfg entry = false)) :
    (state.focus cfg key act).Attended := by
  intro worker member after at_worker
  rw [focus_eq state at_key] at member at_worker
  rcases getElem?_set_of at_key at_worker with ⟨same, rfl⟩ | ⟨other, before⟩
  · have known := attended worker member entry (same ▸ at_key)
    have spared := spares worker member same
    have fate (uses : worker.pc.uses = true) :=
      act.run_fate cfg ⟨key, entry, state.runtime⟩ enabled sound (known.1 uses) found kept
    refine ⟨fun uses => (fate uses).1 (spared.1 uses), fun early => ?_⟩
    have uses := WorkerPc.uses_of_unsubmitted early
    exact ((fate uses).2 (spared.2 early)).trans (known.2 early)
  · exact attended worker member after before

/-- Every entry was reserved by one call. -/
theorem Wf.owned_once (wf : state.Wf cfg) {index : Nat} {worker found : Worker} {pc : WorkerPc}
    (at_index : state.workers[index]? = some worker)
    (member : found ∈ state.workers.set index { worker with pc := pc }) :
    found = { worker with pc := pc } ∨ (found ∈ state.workers ∧ found.key ≠ worker.key) := by
  obtain ⟨other, at_other⟩ := List.mem_iff_getElem?.mp member
  have bound := (List.getElem?_eq_some_iff.mp at_index).1
  rcases eq_or_ne index other with rfl | distinct
  · rw [List.getElem?_set_self bound] at at_other
    exact .inl (Option.some.inj at_other).symm
  · rw [List.getElem?_set_ne distinct] at at_other
    refine .inr ⟨List.mem_of_getElem? at_other, fun same => distinct ?_⟩
    refine (List.getElem?_inj (by simpa using bound) wf.owners).mp ?_
    rw [List.getElem?_map, List.getElem?_map, at_index, at_other, Option.map_some, Option.map_some,
      same]

theorem Worked.attended {index : Nat} {worker : Worker}
    (worked : state.Worked cfg index worker next) (wf : state.Wf cfg)
    (at_index : state.workers[index]? = some worker) (attended : state.Attended)
    (sane : state.faults = []) : next.Attended ∧ next.faults = [] := by
  have member := List.mem_of_getElem? at_index
  cases worked with
  | progressed progress =>
      refine ⟨attended.progress at_index ?_ ?_, sane⟩
      · cases progress <;> simp_all [WorkerPc.uses]
      · cases progress <;> simp_all [WorkerPc.unsubmitted]
  | faulted fault entry uses at_key bad =>
      have known := attended worker member entry at_key
      rcases bad with freed | ⟨opened, result, pc⟩
      · simp [known.1 uses] at freed
      · simp [known.2 (by simp [pc, WorkerPc.unsubmitted])] at opened
  | tagged fd entry pc call free at_key alive =>
      have tagged : (state.focus cfg worker.key (.setExternalFd fd)).Attended :=
        attended.focus at_key (wf.sound _ entry at_key) alive (by simp) (by simp)
          fun _ _ _ => ⟨fun _ => rfl, fun _ => rfl⟩
      obtain ⟨_, _, same⟩ := focus_shape cfg worker.key (.setExternalFd fd) state
      rw [same] at tagged ⊢
      exact ⟨tagged.progress at_index (by simp [pc, WorkerPc.uses])
        (by simp [pc, WorkerPc.unsubmitted]), sane⟩
  | submitted command pc accepting =>
      have pushed : Attended { state with commands := state.commands ++ [command] } :=
        attended.same rfl rfl
      exact ⟨pushed.progress at_index (by simp [pc, WorkerPc.uses])
        (by simp [WorkerPc.unsubmitted]), sane⟩
  | unlinked result entry pc at_key alive =>
      refine ⟨Attended.progress ?_ at_index (by simp [pc, WorkerPc.uses])
        (by simp [pc, WorkerPc.unsubmitted]), sane⟩
      exact attended.same rfl rfl
  | freed result entry pc at_key alive bare =>
      rw [focus_eq state at_key]
      refine ⟨?_, sane⟩
      intro found found_in after at_found
      rcases wf.owned_once at_index found_in with rfl | ⟨before, other⟩
      · simp [WorkerPc.uses, WorkerPc.unsubmitted]
      · rcases getElem?_set_of at_key at_found with ⟨same, -⟩ | ⟨-, at_before⟩
        · exact absurd same other
        · exact attended found before after at_before
  | decided result pc =>
      refine ⟨Attended.progress ?_ at_index (by simp [WorkerPc.uses])
        (by simp [WorkerPc.unsubmitted]), sane⟩
      exact attended.same rfl rfl

/-- New entries do not matter to the calls in progress. -/
theorem Attended.grow (attended : state.Attended) (wf : state.Wf cfg)
    (workers : next.workers = state.workers)
    (kept : ∀ {key : Nat} {entry : Entry}, state.entries[key]? = some entry →
      next.entries[key]? = some entry) : next.Attended := by
  intro worker member entry at_key
  rw [workers] at member
  obtain ⟨known, at_known, -⟩ := (wf.workers worker member).known
  cases at_key.symm.trans (kept at_known)
  exact attended worker member entry at_known

theorem Opened.attended {call : OpenCall} {opaqueVal : Nat}
    (opened : state.Opened cfg call opaqueVal next) (wf : state.Wf cfg)
    (attended : state.Attended) : next.Attended ∧ next.faults = state.faults := by
  cases opened with
  | failed => exact ⟨attended.same rfl rfl, rfl⟩
  | reserved slot cursor pc =>
      refine ⟨?_, rfl⟩
      have reserved : (state.reserved cfg opaqueVal slot cursor).Attended :=
        attended.grow wf rfl fun at_key => getElem?_append_kept at_key
      intro worker member entry at_key
      rcases List.mem_append.mp member with before | added
      · exact reserved worker before entry at_key
      · rw [List.mem_singleton.mp added] at at_key ⊢
        cases at_key.symm.trans (state.reserved_last cfg opaqueVal slot cursor)
        exact ⟨fun _ => rfl, fun _ => rfl⟩

theorem Prepared.found {act : Act} {prepared : State}
    (ready : state.Prepared cfg key entry act prepared) :
    (∀ env, act ≠ .acceptInto env) ∧ act ≠ .freeEntry := by
  cases ready with
  | callback running delivered => cases act <;> first | cases delivered | simp
  | _ => simp

theorem Stepped.attended (stepped : state.Stepped cfg label next) (wf : state.Wf cfg)
    (calm : state.considerate cfg label = true) (attended : state.Attended)
    (sane : state.faults = []) : next.Attended ∧ next.faults = [] := by
  cases stepped with
  | called call env live called =>
      exact ⟨attended.same called.workers.1 called.entries, called.workers.2.trans sane⟩
  | opened call opaqueVal env live opened =>
      have reserved := opened.attended wf attended
      exact ⟨reserved.1, reserved.2.trans sane⟩
  | worker index env live at_index worked => exact worked.attended wf at_index attended sane
  | polled polled =>
      obtain ⟨entries, workers, -, faults⟩ := polled.kept
      exact ⟨attended.same workers entries, faults.trans sane⟩
  | moved | unknown | exitBegun | exitEnded | signal | releaseEnded | releaseDone =>
      exact ⟨attended.same rfl rfl, sane⟩
  | @acted label key entry act prepared target at_key enabled ready =>
      have spares : ∀ worker ∈ state.workers, worker.key = key →
          (worker.pc.uses = true → act.frees cfg entry = false) ∧
            (worker.pc.unsubmitted = true → act.opens cfg entry = false) := by
        intro worker member same
        simp only [considerate, target, at_key, Option.all_some, List.all_eq_true] at calm
        have spared := calm worker member
        simp only [same, ne_eq, not_true_eq_false, decide_false, Bool.false_or, Bool.and_eq_true,
          Bool.not_eq_true', Bool.and_eq_false_iff] at spared
        exact ⟨fun uses => spared.1.resolve_left (by simp [uses]),
          fun early => spared.2.resolve_left (by simp [early])⟩
      have before : prepared.Attended := attended.same ready.workers.1 ready.entries
      have acted : (prepared.focus cfg key act).Attended :=
        before.focus (ready.entries ▸ at_key) (wf.sound key entry at_key) enabled ready.found.1
          ready.found.2 (ready.workers.1 ▸ spares)
      refine ⟨acted, ?_⟩
      obtain ⟨_, _, same⟩ := focus_shape cfg key act prepared
      rw [same]
      exact ready.workers.2.trans sane
  | @accept key status env listener running at_key listening =>
      obtain ⟨base, result, from_⟩ := state.acceptConnection_cases cfg key listener status env
      have harmless : (∀ other, state.acceptAct cfg listener status env ≠ .acceptInto other) ∧
          state.acceptAct cfg listener status env ≠ .freeEntry ∧
          (state.acceptAct cfg listener status env).frees cfg listener = false ∧
          (state.acceptAct cfg listener status env).opens cfg listener = false := by
        unfold acceptAct
        repeat' split
        all_goals simp [Act.frees, Act.opens]
      have before : base.Attended ∧ base.faults = [] ∧ base.entries[key]? = some listener := by
        rcases from_ with ⟨-, rfl⟩ | ⟨cursor, rfl⟩ | ⟨slot, cursor, -, -, -, rfl⟩
        · exact ⟨attended, sane, at_key⟩
        · exact ⟨attended.same rfl rfl, sane, at_key⟩
        · obtain ⟨_, _, same⟩ := focus_shape cfg state.entries.length (.acceptInto env)
            (state.reserved cfg listener.opaqueVal slot cursor)
          refine ⟨attended.grow wf ?_ fun kept => accepted_kept kept _ _ _ _, ?_,
            accepted_kept at_key _ _ _ _⟩
          · rw [same]
            rfl
          · rw [same]
            exact sane
      rw [result]
      refine ⟨before.1.focus before.2.2 (wf.sound key listener at_key)
        (acceptAct_enabled listening status env) harmless.1 harmless.2.1
        fun _ _ _ => ⟨fun _ => harmless.2.2.1, fun _ => harmless.2.2.2⟩, ?_⟩
      obtain ⟨_, _, same⟩ := focus_shape cfg key (state.acceptAct cfg listener status env) base
      rw [same]
      exact before.2.1

end State

/-! ## What a call returns -/

/-- A call that failed says so, and one that succeeded returns the reserved id. -/
def Worker.Honest (worker : Worker) : Prop :=
  match worker.pc with
  | .discarding result | .unlinked result | .freed result | .deciding result _ => result ≠ .ok
  | .done result id => result = .ok → id = some worker.reservedId
  | _ => True

namespace State

variable {cfg : Config} {state next : State} {label : Label} {key : Nat} {entry : Entry}

def Honest (state : State) : Prop := ∀ worker ∈ state.workers, worker.Honest

theorem Honest.set (honest : state.Honest) {index : Nat} {worker : Worker} {pc : WorkerPc}
    (now : Worker.Honest { worker with pc := pc }) :
    ∀ found ∈ state.workers.set index { worker with pc := pc }, found.Honest := by
  intro found member
  rcases List.mem_or_eq_of_mem_set member with before | rfl
  · exact honest found before
  · exact now

theorem Worked.honest {index : Nat} {worker : Worker}
    (worked : state.Worked cfg index worker next) (wf : state.Wf cfg)
    (at_index : state.workers[index]? = some worker) (honest : state.Honest) : next.Honest := by
  have member := List.mem_of_getElem? at_index
  have before := honest worker member
  unfold Worker.Honest at before
  cases worked with
  | progressed progress =>
      refine honest.set ?_
      cases progress with
      | skipped | built => trivial
      | taken | unbuilt | stopped => exact fun impossible => nomatch impossible
      | returned entry pc at_key alive =>
          obtain ⟨known, at_known, isId⟩ := (wf.workers worker member).known
          cases at_key.symm.trans at_known
          exact fun _ => congrArg some isId
      | counted result pc =>
          rw [pc] at before
          exact before
      | ended result pc =>
          rw [pc] at before
          exact fun ok => absurd ok before
  | faulted => exact honest
  | tagged fd =>
      obtain ⟨_, _, same⟩ := focus_shape cfg worker.key (.setExternalFd fd) state
      rw [same]
      exact honest.set trivial
  | submitted => exact honest.set trivial
  | unlinked result entry pc =>
      rw [pc] at before
      exact honest.set before
  | freed result entry pc =>
      rw [pc] at before
      obtain ⟨_, _, same⟩ := focus_shape cfg worker.key .freeEntry state
      rw [same]
      exact honest.set before
  | decided result pc =>
      rw [pc] at before
      exact honest.set fun ok => absurd ok before

theorem Stepped.honest (stepped : state.Stepped cfg label next) (wf : state.Wf cfg)
    (honest : state.Honest) : next.Honest := by
  rcases stepped.workers_cases with
    same | ⟨added, grown, -, early⟩ | ⟨index, worker, at_index, worked⟩
  · intro worker member
    exact honest worker (same ▸ member)
  · intro worker member
    rw [grown] at member
    rcases List.mem_append.mp member with before | isNew
    · exact honest worker before
    · rw [List.mem_singleton.mp isNew]
      rcases early with pc | pc <;> simp [Worker.Honest, pc]
  · exact worked.honest wf at_index honest

end State

theorem State.attended_run {cfg : Config} {labels : List Label} {final : State}
    (along : (socketSystem cfg).Along
      (fun state label => state.considerate cfg label = true) State.init labels)
    (run : (socketSystem cfg).exec State.init labels = some final) :
    final.Attended ∧ final.faults = [] :=
  System.exec_guarded (State.Wf cfg)
    (fun state => state.Attended ∧ state.faults = []) (fun _ _ _ wf run => (wf.of_step run).2)
    (fun _ _ _ wf kept calm run => (wf.of_step run).1.attended wf calm kept.1 kept.2)
    labels State.init final (State.Wf.init cfg) (by simp [State.Attended, State.init]) along run

end Skyuv.Socket
