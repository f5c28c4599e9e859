import Skyuv.Socket.Lifetime

/-!
# What is left after the exit command

Three facts hold of every run and carry the exit protocol.  The exit command
stops the queue, so it is the last one, and nothing is queued once it was
processed.  An entry that is in memory is in the slot table, or a failing call
has taken it out and is about to free it.  And an entry without a handle belongs
to a call that has not submitted its command, or the command is still queued.
-/

set_option autoImplicit false

namespace Skyuv.Socket

open TransitionSystem

/-- The failing call has taken its entry out of the table and not freed it. -/
def WorkerPc.isUnlinked : WorkerPc → Bool
  | .unlinked _ => true
  | _ => false

theorem WorkerPc.not_isUnlinked_of_isDone {pc : WorkerPc} (done : pc.isDone = true) :
    pc.isUnlinked ≠ true := by
  cases pc with
  | done => simp [isUnlinked]
  | _ => cases done

/-- The call has seen the last entry go, and will set `exit_ready`. -/
def WorkerPc.announces : WorkerPc → Bool
  | .deciding _ ready => ready
  | _ => false

/-- The loop is inside `process_exit`. -/
def LoopPc.scans : LoopPc → Bool
  | .exitScan _ => true
  | _ => false

/-- The command that the call submits. -/
def Worker.command (worker : Worker) : Command :=
  ⟨worker.reservedId, worker.opaqueVal, worker.call.body⟩

theorem OpenCall.body_opens (call : OpenCall) : call.body.opens = true := by
  cases call <;> rfl

/-- The loop tries to open the handle of every call whose arguments were
accepted. -/
theorem OpenCall.body_setUp {cfg : Config} (call : OpenCall) (env : Env)
    (checked : call.check cfg = .ok) : ∃ fine, call.body.setUp cfg env = some fine := by
  cases call with
  | listen | connect | udp => exact ⟨_, rfl⟩
  | bind fd =>
      cases supported : cfg.externalFd with
      | false => simp [OpenCall.check, supported] at checked
      | true => exact ⟨_, if_pos supported⟩

namespace Frame

variable {before after : Frame} {runtime : Shared} {freed listed : Bool}

/-- Fields of the runtime that no handler changes on its own. -/
theorem Yields.exits (yields : Yields before after runtime freed listed) :
    after.runtime.exiting = runtime.exiting ∧ after.runtime.exitReady = runtime.exitReady := by
  have exiting : after.runtime.still.exiting = runtime.still.exiting := by rw [yields.still]
  have ready : after.runtime.still.exitReady = runtime.still.exitReady := by rw [yields.still]
  exact ⟨exiting, ready⟩

/-- `update_exit_ready` after the entry has left the table. -/
theorem unlinkedRuntime_exits (cfg : Config) (frame : Frame) :
    (frame.unlinkedRuntime cfg).exiting = frame.runtime.exiting ∧
      (frame.unlinkedRuntime cfg).exitReady =
        if frame.runtime.exiting = true ∧
            (frame.runtime.table.unlink cfg frame.key frame.entry.id).entryCount = 0 then true
        else frame.runtime.exitReady := by
  unfold unlinkedRuntime Shared.updateExitReady
  by_cases drained : frame.runtime.exiting = true ∧
      (frame.runtime.table.unlink cfg frame.key frame.entry.id).entryCount = 0
  · simp [drained]
  · rw [if_neg drained, if_neg (by simpa using drained)]
    exact ⟨rfl, rfl⟩

end Frame

namespace State

variable {cfg : Config} {state next : State} {label : Label} {key : Nat} {entry : Entry}

/-! ## The queue -/

/-- The exit command is the last of the queue. -/
structure Queue (state : State) : Prop where
  quiet : state.accepting = true → ∀ command ∈ state.commands, command.body ≠ .exit
  last : ∀ before command rest, state.commands = before ++ command :: rest →
    command.body = .exit → rest = []
  stopped : state.runtime.exiting = true → state.commands = [] ∧ state.accepting = false

theorem Queue.same (queue : state.Queue) (commands : next.commands = state.commands)
    (accepting : next.accepting = state.accepting)
    (exiting : next.runtime.exiting = state.runtime.exiting) : next.Queue := by
  obtain ⟨quiet, last, stopped⟩ := queue
  constructor
  · rwa [accepting, commands]
  · rwa [commands]
  · rwa [exiting, commands, accepting]

/-- A command joins an open queue. -/
theorem Queue.push (queue : state.Queue) (accepting : state.accepting = true) {command : Command}
    (commands : next.commands = state.commands ++ [command])
    (open_ : command.body = .exit → next.accepting = false)
    (exiting : next.runtime.exiting = state.runtime.exiting) : next.Queue := by
  have quiet := queue.quiet accepting
  constructor
  · intro nextAccepting found member
    rw [commands] at member
    rcases List.mem_append.mp member with before | added
    · exact quiet found before
    · rw [List.mem_singleton.mp added]
      intro isExit
      simp [open_ isExit] at nextAccepting
  · intro before found rest split isExit
    rw [commands] at split
    rcases List.eq_nil_or_concat rest with rfl | ⟨front, last, rfl⟩
    · rfl
    · rw [List.concat_eq_append, ← List.cons_append, ← List.append_assoc] at split
      have member : found ∈ state.commands := by
        rw [(List.append_inj' split rfl).1]
        simp
      exact absurd isExit (quiet found member)
  · intro isExiting
    rw [exiting] at isExiting
    exact absurd (queue.stopped isExiting).2 (by simp [accepting])

theorem Queue.pop (queue : state.Queue) {command : Command} {rest : List Command}
    (head : state.commands = command :: rest) (commands : next.commands = rest)
    (accepting : next.accepting = state.accepting)
    (exiting : next.runtime.exiting = state.runtime.exiting) : next.Queue := by
  constructor
  · intro nextAccepting found member
    rw [commands] at member
    refine queue.quiet (accepting ▸ nextAccepting) found ?_
    rw [head]
    exact List.mem_cons_of_mem _ member
  · intro before found later split
    refine queue.last (command :: before) found later ?_
    rw [head, ← commands, split, List.cons_append]
  · intro isExiting
    have empty := (queue.stopped (exiting ▸ isExiting)).1
    rw [head] at empty
    cases empty

/-! ## The exit flags -/

/-- `exit_ready` follows `entry_count` while the runtime is exiting. -/
structure Flags (state next : State) : Prop where
  exiting : next.runtime.exiting = state.runtime.exiting
  ready : next.runtime.exitReady = state.runtime.exitReady ∨
    (next.runtime.exitReady = true ∧ next.runtime.exiting = true ∧
      next.runtime.table.entryCount = 0)
  due : next.runtime.exiting = true → next.runtime.table.entryCount = 0 →
    state.runtime.table.entryCount = 0 ∨ next.runtime.exitReady = true

theorem Flags.same (exiting : next.runtime.exiting = state.runtime.exiting)
    (table : next.runtime.table.entryCount = state.runtime.table.entryCount)
    (ready : next.runtime.exitReady = state.runtime.exitReady) : state.Flags next :=
  ⟨exiting, .inl ready, fun _ empty => .inl (table ▸ empty)⟩

theorem focus_flags (cfg : Config) (at_key : state.entries[key]? = some entry) (act : Act) :
    state.Flags (state.focus cfg key act) := by
  have outcome := act.run_outcome cfg ⟨key, entry, state.runtime⟩
  rw [focus_eq state at_key]
  revert outcome
  generalize act.run cfg ⟨key, entry, state.runtime⟩ = after
  intro outcome
  cases outcome with
  | kept pump yields | unpumped env yields | listed command env unlisted yields | freed yields
  | cleared slot yields => exact .same yields.exits.1 (by rw [yields.table]) yields.exits.2
  | unlinked unlinks yields =>
      have table : after.runtime.table = state.runtime.table.unlink cfg key entry.id :=
        yields.table.trans (Frame.unlinkedRuntime_table _)
      obtain ⟨exiting, ready⟩ := yields.exits
      obtain ⟨sameExiting, flag⟩ := Frame.unlinkedRuntime_exits cfg ⟨key, entry, state.runtime⟩
      have exiting := exiting.trans sameExiting
      refine ⟨exiting, ?_, fun isExiting empty => .inr ?_⟩
      · dsimp only
        rw [table, ready, flag]
        split
        · rename_i drained
          exact .inr ⟨rfl, exiting.trans drained.1, drained.2⟩
        · exact .inl rfl
      · dsimp only at isExiting empty ⊢
        rw [table] at empty
        rw [ready, flag, if_pos ⟨exiting ▸ isExiting, empty⟩]

/-! ## The calls in progress -/

/-- A call in progress on the entry at `key`, at one of the places that `place`
names. -/
def Held (state : State) (key : Nat) (place : WorkerPc → Bool) : Prop :=
  ∃ worker ∈ state.workers, worker.key = key ∧ place worker.pc = true

theorem Worked.workers {index : Nat} {worker : Worker}
    (worked : state.Worked cfg index worker next) :
    next.workers = state.workers ∨
      ∃ pc, next.workers = state.workers.set index { worker with pc := pc } := by
  cases worked with
  | progressed | submitted | unlinked | decided => exact .inr ⟨_, rfl⟩
  | faulted => exact .inl rfl
  | tagged | freed => exact .inr ⟨_, by rw [State.setWorker, focus_workers]⟩

theorem mem_setWorker {index : Nat} {worker : Worker}
    (at_index : state.workers[index]? = some worker) (pc : WorkerPc) :
    { worker with pc := pc } ∈ (state.setWorker index worker pc).workers :=
  List.mem_of_getElem? (List.getElem?_set_self (List.getElem?_eq_some_iff.mp at_index).1)

/-- A call stays where it is, or takes its next step. -/
theorem Stepped.worker_next (stepped : state.Stepped cfg label next) {worker : Worker}
    (member : worker ∈ state.workers) :
    worker ∈ next.workers ∨
      ∃ index, state.workers[index]? = some worker ∧ state.Worked cfg index worker next := by
  rcases stepped.workers_cases with same | ⟨added, grown, -⟩ | ⟨index, other, at_index, worked⟩
  · exact .inl (same ▸ member)
  · exact .inl (grown ▸ List.mem_append_left _ member)
  · obtain ⟨place, at_place⟩ := List.mem_iff_getElem?.mp member
    rcases eq_or_ne place index with rfl | distinct
    · cases at_place.symm.trans at_index
      exact .inr ⟨place, at_index, worked⟩
    · rcases worked.workers with same | ⟨pc, changed⟩
      · exact .inl (same ▸ member)
      · refine .inl (List.mem_iff_getElem?.mpr ⟨place, ?_⟩)
        rw [changed, List.getElem?_set_ne distinct.symm, at_place]

/-! ## The slots -/

/-- How the slots change.  A slot is vacated when its entry is freed, or by a
failing call that is about to free it; a new entry is in a slot and is opened at
once, or held by the call that reserved it. -/
structure Relinked (state next : State) : Prop where
  kept : ∀ slot key, state.runtime.table.slots slot = some key →
    next.runtime.table.slots slot = some key ∨
      (∃ entry, next.entries[key]? = some entry ∧ entry.freed = true) ∨
      next.Held key WorkerPc.isUnlinked
  fresh : ∀ entry, next.entries[state.entries.length]? = some entry → entry.freed = false →
    (∃ slot, next.runtime.table.slots slot = some state.entries.length) ∧
      (entry.initialized = true ∨ next.Held state.entries.length WorkerPc.unsubmitted)
  grown : ∀ slot key, next.runtime.table.slots slot = some key →
    state.runtime.table.slots slot = some key ∨
      (∃ entry, next.entries[key]? = some entry ∧ entry.initialized = false) ∨
      ∃ (other : Nat) (listener : Entry),
        state.entries[other]? = some listener ∧ listener.uvListening = true

theorem Relinked.stable (slots : next.runtime.table.slots = state.runtime.table.slots)
    (length : next.entries.length = state.entries.length) : state.Relinked next where
  kept _ _ occupied := .inl (slots ▸ occupied)
  fresh entry at_new := by
    rw [List.getElem?_eq_none length.le] at at_new
    cases at_new
  grown _ _ occupied := .inl (slots ▸ occupied)

/-- An act takes no entry but its own out of the table, and frees it. -/
theorem focus_slots (cfg : Config) {act : Act} (at_key : state.entries[key]? = some entry)
    (placed : ∀ slot, act = .releaseScan slot → state.runtime.table.slots slot = some key)
    {slot other : Nat} (occupied : state.runtime.table.slots slot = some other) :
    (state.focus cfg key act).runtime.table.slots slot = some other ∨
      (other = key ∧ ∃ after, (state.focus cfg key act).entries[key]? = some after ∧
        after.freed = true) := by
  have outcome := act.run_outcome cfg ⟨key, entry, state.runtime⟩
  rw [focus_eq state at_key]
  revert outcome
  generalize act.run cfg ⟨key, entry, state.runtime⟩ = after
  intro outcome
  cases outcome with
  | kept pump yields | unpumped env yields | listed command env unlisted yields | freed yields =>
      exact .inl (by rw [yields.table]; exact occupied)
  | unlinked unlinks yields =>
      rcases eq_or_ne other key with rfl | distinct
      · exact .inr ⟨rfl, _, getElem?_set_here at_key, yields.freed⟩
      · refine .inl ?_
        dsimp only
        rw [yields.table, Frame.unlinkedRuntime_table]
        exact SlotTable.slots_unlink_other occupied distinct
  | cleared place yields =>
      rcases eq_or_ne slot place with rfl | distinct
      · cases occupied.symm.trans (placed slot rfl)
        exact .inr ⟨rfl, _, getElem?_set_here at_key, yields.freed⟩
      · refine .inl ?_
        dsimp only
        rw [yields.table]
        exact (Function.update_of_ne distinct _ _).trans occupied

theorem Relinked.focus {act : Act} (at_key : state.entries[key]? = some entry)
    (placed : ∀ slot, act = .releaseScan slot → state.runtime.table.slots slot = some key) :
    state.Relinked (state.focus cfg key act) where
  kept slot other occupied := by
    rcases focus_slots cfg at_key placed occupied with kept | ⟨rfl, gone⟩
    · exact .inl kept
    · exact .inr (.inl gone)
  fresh entry at_new := by
    rw [List.getElem?_eq_none (length_focus state key act).le] at at_new
    cases at_new
  grown _ _ occupied := .inl (focus_shrinks at_key act occupied)

theorem Worked.relinked {index : Nat} {worker : Worker}
    (worked : state.Worked cfg index worker next)
    (at_index : state.workers[index]? = some worker) : state.Relinked next := by
  cases worked with
  | progressed | faulted | submitted | decided => exact .stable rfl rfl
  | tagged fd entry pc call free at_key alive =>
      rw [focus_eq state at_key]
      exact .stable rfl List.length_set
  | freed result entry pc at_key alive bare =>
      rw [focus_eq state at_key]
      exact .stable rfl List.length_set
  | unlinked result entry pc at_key alive =>
      refine ⟨fun slot other occupied => ?_, fun entry at_new => ?_, fun slot other occupied => ?_⟩
      · rcases eq_or_ne other worker.key with rfl | distinct
        · exact .inr (.inr ⟨_, mem_setWorker at_index _, rfl, rfl⟩)
        · exact .inl (SlotTable.slots_unlink_other occupied distinct)
      · cases (List.getElem?_eq_none le_rfl).symm.trans at_new
      · exact .inl (SlotTable.slots_of_unlink occupied).1

theorem Opened.relinked {call : OpenCall} {opaqueVal : Nat}
    (opened : state.Opened cfg call opaqueVal next) : state.Relinked next := by
  cases opened with
  | failed => exact .stable rfl rfl
  | reserved slot cursor pc slotBound free valid early =>
      have last := state.reserved_last cfg opaqueVal slot cursor
      refine ⟨fun place other occupied => ?_, fun entry at_new alive => ⟨⟨slot, ?_⟩, .inr ?_⟩,
        fun place other occupied => ?_⟩
      · exact .inl (SlotTable.slots_install_other free occupied)
      · exact Function.update_self slot _ _
      · refine ⟨_, List.mem_append_right _ (List.mem_singleton_self _), rfl, ?_⟩
        rcases early with rfl | rfl <;> rfl
      · rcases SlotTable.slots_of_install occupied with before | rfl
        · exact .inl before
        · exact .inr (.inl ⟨_, last, rfl⟩)

/-- The listener stays in the table. -/
theorem acceptAct_local (state : State) (cfg : Config) (listener : Entry) (status : Int) (env : Env)
    (frame : Frame) : frame.Local ((state.acceptAct cfg listener status env).run cfg frame) := by
  have quiet : ∀ act : Act, (∃ status env, act = .acceptError status env) ∨ act = .acceptStalled ∨
      act = .acceptTaken ∨ (∃ id env, act = .acceptDone id env) →
        frame.Local (act.run cfg frame) := by
    intro act which
    have outcome := act.run_outcome cfg frame
    revert outcome
    generalize act.run cfg frame = after
    intro outcome
    cases outcome with
    | kept pump kept => exact kept
    | unpumped | listed | cleared | freed => simp at which
    | unlinked unlinks yields =>
        rcases which with ⟨_, _, rfl⟩ | rfl | rfl | ⟨_, _, rfl⟩ <;> simp at unlinks
  apply quiet
  unfold acceptAct
  repeat' split
  all_goals simp

/-- An accepted connection is in the table, and its handle is open. -/
theorem acceptInto_fresh {opaqueVal slot cursor : Nat} {env : Env} {entry : Entry}
    (at_new : ((state.reserved cfg opaqueVal slot cursor).focus cfg state.entries.length
      (.acceptInto env)).entries[state.entries.length]? = some entry)
    (alive : entry.freed = false) :
    ((state.reserved cfg opaqueVal slot cursor).focus cfg state.entries.length
      (.acceptInto env)).runtime.table.slots slot = some state.entries.length ∧
      entry.initialized = true := by
  have last := state.reserved_last cfg opaqueVal slot cursor
  have isRun := (entries_focus last at_new).resolve_right fun other => other.1 rfl
  have fresh := Entry.fresh_sound (state.nextId cfg slot) opaqueVal
  have move := (Act.acceptInto env).run_move cfg
    ⟨state.entries.length, Entry.fresh (state.nextId cfg slot) opaqueVal,
      (state.reserved cfg opaqueVal slot cursor).runtime⟩ ⟨rfl, rfl⟩ fresh
  have outcome := (Act.acceptInto env).run_outcome cfg
    ⟨state.entries.length, Entry.fresh (state.nextId cfg slot) opaqueVal,
      (state.reserved cfg opaqueVal slot cursor).runtime⟩
  rw [focus_eq _ last]
  rw [isRun.2] at alive ⊢
  revert alive move outcome
  generalize (Act.acceptInto env).run cfg _ = after
  intro alive move outcome
  constructor
  · cases outcome with
    | kept pump kept =>
        dsimp only
        rw [kept.table]
        exact Function.update_self slot _ _
    | unlinked unlinks yields => cases yields.freed.symm.trans alive
  · have alive : after.entry.life.freed = false := alive
    change after.entry.life.initialized = true
    generalize after.entry.life = life at move alive
    cases move with
    | acceptDropped => cases alive
    | acceptRejected | accepted => rfl
    | scanned _ scan | scanDropped _ scan | scanShut _ _ scan => simp at scan

/-- What `accept_connection` does to the listener does not show in the runtime. -/
theorem accept_base (cfg : Config) (at_key : state.entries[key]? = some entry)
    (status : Int) (env : Env) :
    ∃ base : State, base.entries[key]? = some entry ∧
      state.acceptConnection cfg key entry status env =
        base.focus cfg key (state.acceptAct cfg entry status env) ∧
      (state.acceptConnection cfg key entry status env).runtime.table = base.runtime.table ∧
      (state.acceptConnection cfg key entry status env).runtime.exiting = base.runtime.exiting ∧
      (state.acceptConnection cfg key entry status env).runtime.exitReady =
        base.runtime.exitReady ∧
      ((∃ cursor, base = { state with
          runtime := { state.runtime with
            table := { state.runtime.table with nextSlot := cursor } } }) ∨
        (∃ slot cursor, state.runtime.table.slots slot = none ∧
          base = (state.reserved cfg entry.opaqueVal slot cursor).focus cfg
            state.entries.length (.acceptInto env))) := by
  obtain ⟨base, result, from_⟩ := state.acceptConnection_cases cfg key entry status env
  have quiet := state.acceptAct_local cfg entry status env ⟨key, entry, base.runtime⟩
  have at_base : base.entries[key]? = some entry := by
    rcases from_ with ⟨-, rfl⟩ | ⟨cursor, rfl⟩ | ⟨slot, cursor, -, -, -, rfl⟩
    · exact at_key
    · exact at_key
    · exact accepted_kept at_key _ _ _ _
  refine ⟨base, at_base, result, ?_, ?_, ?_, ?_⟩
  · rw [result, focus_eq base at_base]
    exact quiet.table
  · rw [result, focus_eq base at_base]
    exact quiet.exits.1
  · rw [result, focus_eq base at_base]
    exact quiet.exits.2
  · rcases from_ with ⟨-, rfl⟩ | reserved | ⟨slot, cursor, -, free, -, rfl⟩
    · exact .inl ⟨base.runtime.table.nextSlot, rfl⟩
    · exact .inl reserved
    · exact .inr ⟨slot, cursor, free, rfl⟩

theorem Wf.accept_relinked (wf : state.Wf cfg) {listener : Entry}
    (at_key : state.entries[key]? = some listener) (listening : listener.uvListening = true)
    (status : Int) (env : Env) :
    state.Relinked (state.acceptConnection cfg key listener status env) := by
  obtain ⟨base, at_base, result, table, -, -, from_⟩ := accept_base cfg at_key status env
  rw [result] at table ⊢
  rcases from_ with ⟨cursor, rfl⟩ | ⟨slot, cursor, free, rfl⟩
  · exact .stable (by rw [table]) (length_focus ..)
  · have last := state.reserved_last cfg listener.opaqueVal slot cursor
    have bound := (List.getElem?_eq_some_iff.mp at_key).1
    refine ⟨fun place other occupied => .inl ?_, fun entry at_new alive => ?_,
      fun place other occupied => ?_⟩
    · rw [table]
      obtain ⟨-, found, at_other, -⟩ := wf.linked place other occupied
      refine (focus_slots cfg last (by simp)
        (SlotTable.slots_install_other free occupied)).resolve_right ?_
      rintro ⟨rfl, -⟩
      exact Nat.lt_irrefl _ (List.getElem?_eq_some_iff.mp at_other).1
    · rw [table]
      rcases entries_focus at_base at_new with ⟨same, -⟩ | ⟨-, at_new⟩
      · exact absurd same bound.ne'
      · obtain ⟨linked, opened⟩ := acceptInto_fresh at_new alive
        exact ⟨⟨slot, linked⟩, .inl opened⟩
    · rw [table] at occupied
      have before := focus_shrinks last (.acceptInto env) occupied
      rcases SlotTable.slots_of_install before with before | rfl
      · exact .inl before
      · exact .inr (.inr ⟨key, listener, at_key, listening⟩)

theorem Relinked.of_same {middle : State} (relinked : middle.Relinked next)
    (table : middle.runtime.table = state.runtime.table)
    (entries : middle.entries = state.entries) : state.Relinked next := by
  obtain ⟨kept, fresh, grown⟩ := relinked
  rw [table] at kept grown
  rw [entries] at fresh grown
  exact ⟨kept, fresh, grown⟩

theorem Prepared.table {act : Act} {prepared : State}
    (ready : state.Prepared cfg key entry act prepared) :
    prepared.runtime.table = state.runtime.table := by
  cases ready <;> rfl

theorem Prepared.scan {slot : Nat} {prepared : State}
    (ready : state.Prepared cfg key entry (.releaseScan slot) prepared) :
    state.runtime.table.slots slot = some key := by
  cases ready with
  | releaseScan _ scanning occupied => exact occupied
  | callback running delivered => cases delivered

theorem Stepped.relinked (stepped : state.Stepped cfg label next) (wf : state.Wf cfg) :
    state.Relinked next := by
  cases stepped.touched with
  | still still =>
      exact .stable (congrArg SlotTable.slots still.table) (congrArg List.length still.entries)
  | opened call opaqueVal env opened => exact opened.relinked
  | worker index env at_index worked => exact worked.relinked at_index
  | @acted label key entry act prepared target at_key enabled ready =>
      refine (Relinked.focus (ready.entries ▸ at_key) ?_).of_same ready.table ready.entries
      rintro slot rfl
      rw [ready.table]
      exact ready.scan
  | accept key status env running at_key listening =>
      exact wf.accept_relinked at_key listening status env

theorem accept_flags (cfg : Config) (at_key : state.entries[key]? = some entry)
    (status : Int) (env : Env) :
    state.Flags (state.acceptConnection cfg key entry status env) := by
  obtain ⟨base, -, -, table, exiting, exitReady, from_⟩ := accept_base cfg at_key status env
  have flags : state.Flags base := by
    rcases from_ with ⟨cursor, rfl⟩ | ⟨slot, cursor, -, rfl⟩
    · exact .same rfl rfl rfl
    · obtain ⟨same, ready, due⟩ := focus_flags cfg
        (state.reserved_last cfg entry.opaqueVal slot cursor) (.acceptInto env)
      refine ⟨same, ready, fun isExiting empty => ?_⟩
      rcases due isExiting empty with counted | ready
      · cases counted
      · exact .inr ready
  obtain ⟨same, ready, due⟩ := flags
  rw [← exiting] at same ready due
  rw [← exitReady] at ready due
  rw [← table] at ready due
  exact ⟨same, ready, due⟩

/-! ## What a step does to the flags -/

structure Flagged (state next : State) : Prop where
  exiting : state.runtime.exiting = true → next.runtime.exiting = true
  ready : next.runtime.exitReady = true → state.runtime.exitReady = true ∨
    (next.runtime.exiting = true ∧ next.runtime.table.entryCount = 0) ∨
    ∃ worker ∈ state.workers, worker.pc.announces = true
  lowered : state.runtime.exitReady = true → next.runtime.exitReady = true ∨ .exit ∈ next.polled
  due : next.runtime.exiting = true → next.runtime.table.entryCount = 0 →
    (state.runtime.exiting = true ∧ state.runtime.table.entryCount = 0 ∧
      state.pc.scans = false) ∨
    next.runtime.exitReady = true ∨ (∃ worker ∈ next.workers, worker.pc.isUnlinked = true) ∨
    next.pc.scans = true

theorem Flags.flagged (flags : state.Flags next)
    (scans : state.pc.scans = true → next.pc.scans = true) : state.Flagged next where
  exiting isExiting := flags.exiting.trans isExiting
  ready isReady := by
    rcases flags.ready with same | ⟨-, exiting, empty⟩
    · exact .inl (same ▸ isReady)
    · exact .inr (.inl ⟨exiting, empty⟩)
  lowered isReady := by
    rcases flags.ready with same | ⟨ready, -⟩
    · exact .inl (same.trans isReady)
    · exact .inl ready
  due isExiting empty := by
    cases scanning : state.pc.scans with
    | true => exact .inr (.inr (.inr (scans scanning)))
    | false =>
        rcases flags.due isExiting empty with before | ready
        · exact .inl ⟨flags.exiting ▸ isExiting, before, rfl⟩
        · exact .inr (.inl ready)

theorem Flagged.same (exiting : next.runtime.exiting = state.runtime.exiting)
    (table : next.runtime.table.entryCount = state.runtime.table.entryCount)
    (ready : next.runtime.exitReady = state.runtime.exitReady)
    (scans : state.pc.scans = true → next.pc.scans = true) : state.Flagged next :=
  (Flags.same exiting table ready).flagged scans

theorem Worked.flagged {index : Nat} {worker : Worker}
    (worked : state.Worked cfg index worker next)
    (at_index : state.workers[index]? = some worker) : state.Flagged next := by
  cases worked with
  | progressed | faulted | submitted => exact Flagged.same rfl rfl rfl id
  | tagged fd entry pc call free at_key alive =>
      rw [focus_eq state at_key]
      exact Flagged.same rfl rfl rfl id
  | freed result entry pc at_key alive bare =>
      rw [focus_eq state at_key]
      exact Flagged.same rfl rfl rfl id
  | unlinked result entry pc at_key alive =>
      refine ⟨id, .inl, .inl, fun _ _ => .inr (.inr (.inl ⟨_, mem_setWorker ?_ _, rfl⟩))⟩
      exact at_index
  | decided result pc =>
      refine ⟨id, fun _ => .inr (.inr ⟨worker, List.mem_of_getElem? at_index, ?_⟩),
        fun _ => .inl rfl,
        fun _ _ => .inr (.inl rfl)⟩
      rw [pc]
      rfl

theorem Polled.flagged (polled : state.Polled label next) : state.Flagged next := by
  cases polled with
  | broken env signals outside | entered env signals outside =>
      obtain ⟨_, _, _, _, _, rfl⟩ := signals
      exact Flagged.same rfl rfl rfl (by simp [outside, LoopPc.scans])
  | event signals polls place =>
      obtain ⟨_, _, _, _, _, rfl⟩ := signals
      exact Flagged.same rfl rfl rfl
        (by rcases place with place | place <;> simp [place, LoopPc.scans])
  | exit signals polls place =>
      obtain ⟨_, _, _, _, _, rfl⟩ := signals
      refine ⟨id, fun ready => (nomatch ready), fun _ => .inr (by simp),
        fun isExiting empty => .inl ⟨isExiting, empty, ?_⟩⟩
      rcases place with place | place <;> simp [place, LoopPc.scans]
  | waits | idle => exact Flagged.same rfl rfl rfl (by simp [*, LoopPc.scans])

theorem Prepared.flags {act : Act} {prepared : State}
    (ready : state.Prepared cfg key entry act prepared) :
    prepared.Flags next → state.Flags next := by
  rintro ⟨exiting, isReady, due⟩
  cases ready <;> exact ⟨exiting, isReady, due⟩

theorem Prepared.scans {act : Act} {prepared : State}
    (ready : state.Prepared cfg key entry act prepared) (scanning : state.pc.scans = true) :
    prepared.pc.scans = true := by
  cases ready with
  | command cmd rest env place | releaseScan slot place | pump env rest place =>
      simp [place, LoopPc.scans] at scanning
  | exitScan => rfl
  | callback running delivered => exact scanning

theorem Stepped.flagged (stepped : state.Stepped cfg label next) : state.Flagged next := by
  cases stepped with
  | called call env live called => cases called <;> exact Flagged.same rfl rfl rfl id
  | opened call opaqueVal env live opened =>
      cases opened with
      | failed => exact Flagged.same rfl rfl rfl id
      | reserved => exact Flags.flagged ⟨rfl, .inl rfl, fun _ empty => nomatch empty⟩ id
  | worker index env live at_index worked => exact worked.flagged at_index
  | polled polled => exact polled.flagged
  | moved moved =>
      refine Flagged.same rfl rfl rfl fun scanning => ?_
      cases moved with
      | exitSkipped => rfl
      | _ => simp [*, LoopPc.scans] at scanning
  | unknown cmd rest env consuming head plain missing =>
      obtain ⟨_, same⟩ := processUnknown_eq env cmd state.runtime
      rw [same]
      exact Flagged.same rfl rfl rfl id
  | exitBegun => exact ⟨fun _ => rfl, .inl, .inl, fun _ _ => .inr (.inr (.inr rfl))⟩
  | exitEnded slot scanning visited =>
      unfold Shared.updateExitReady
      split
      · rename_i drained
        simp only [Bool.and_eq_true, beq_iff_eq] at drained
        exact ⟨id, fun _ => .inr (.inl drained), fun _ => .inl rfl, fun _ _ => .inr (.inl rfl)⟩
      · rename_i pending
        refine ⟨id, .inl, .inl, fun isExiting empty => absurd ?_ pending⟩
        simpa using ⟨isExiting, empty⟩
  | @acted label key entry act prepared target at_key enabled ready =>
      refine (ready.flags (focus_flags cfg (ready.entries ▸ at_key) act)).flagged fun scanning => ?_
      rw [focus_pc]
      exact ready.scans scanning
  | @accept key status env listener running at_key listening =>
      refine (accept_flags cfg at_key status env).flagged fun scanning => ?_
      obtain ⟨_, _, same⟩ := state.accept_shape cfg key listener status env
      rw [same]
      exact scanning
  | signal signal env running =>
      obtain ⟨_, _, same⟩ := onSignal_eq cfg env signal state.runtime
      rw [same]
      exact Flagged.same rfl rfl rfl id
  | releaseEnded slot scanning visited =>
      exact Flagged.same rfl rfl rfl (by simp [scanning, LoopPc.scans])
  | releaseDone running dead =>
      unfold State.releaseDone
      rw [destroyAll_eq]
      exact Flagged.same rfl rfl rfl (by simp [running, LoopPc.scans])

theorem Stepped.queue (stepped : state.Stepped cfg label next) (wf : state.Wf cfg)
    (queue : state.Queue) : next.Queue := by
  cases stepped with
  | called call env live called =>
      cases called with
      | unchanged | refused | copyFreed | timed => exact queue.same rfl rfl rfl
      | pushed command accepting plain notExit =>
          exact queue.push accepting rfl (fun isExit => absurd isExit notExit) rfl
      | sent command payload ownership accepting carries =>
          refine queue.push accepting rfl (fun isExit => ?_) rfl
          simp [isExit, CommandBody.payload] at carries
      | exit accepting => exact queue.push accepting rfl (fun _ => rfl) rfl
  | opened call opaqueVal env live opened => cases opened <;> exact queue.same rfl rfl rfl
  | @worker index env worker _ live at_index worked =>
      cases worked with
      | progressed | faulted | unlinked | decided => exact queue.same rfl rfl rfl
      | tagged fd entry pc call free at_key alive =>
          rw [focus_eq state at_key]
          exact queue.same rfl rfl rfl
      | freed result entry pc at_key alive bare =>
          rw [focus_eq state at_key]
          exact queue.same rfl rfl rfl
      | submitted command pc accepting =>
          refine queue.push accepting rfl (fun isExit => ?_) rfl
          rw [(wf.workers worker (List.mem_of_getElem? at_index)).named command pc] at isExit
          cases called : worker.call <;> simp [called, OpenCall.body] at isExit
  | polled polled =>
      cases polled with
      | broken env signals | entered env signals | event signals | exit signals =>
          obtain ⟨_, _, _, _, _, rfl⟩ := signals
          exact queue.same rfl rfl rfl
      | waits | idle => exact queue.same rfl rfl rfl
  | moved | releaseEnded => exact queue.same rfl rfl rfl
  | unknown cmd rest env consuming head plain missing =>
      obtain ⟨_, same⟩ := processUnknown_eq env cmd state.runtime
      exact queue.pop head rfl rfl (by rw [same])
  | exitBegun cmd rest env consuming head exit =>
      have last : rest = [] := queue.last [] cmd rest head exit
      have closed : state.accepting = false := by
        by_contra accepting
        exact queue.quiet (by simpa using accepting) cmd (by simp [head]) exit
      exact ⟨by simp [closed], by simp [last], fun _ => ⟨last, closed⟩⟩
  | exitEnded slot scanning visited =>
      obtain ⟨_, same⟩ := updateExitReady_eq
        { state.runtime.closeProcessSignals with asyncClosing := true }
      exact queue.same rfl rfl (by rw [same]; rfl)
  | @acted label key entry act prepared target at_key enabled ready =>
      have exiting := (ready.flags (focus_flags cfg (ready.entries ▸ at_key) act)).exiting
      obtain ⟨_, _, same⟩ := focus_shape cfg key act prepared
      rw [same] at exiting ⊢
      cases ready with
      | command cmd rest env consuming head => exact queue.pop head rfl rfl exiting
      | exitScan | releaseScan | pump | callback => exact queue.same rfl rfl exiting
  | @accept key status env listener running at_key listening =>
      have exiting := (accept_flags cfg at_key status env).exiting
      obtain ⟨_, _, same⟩ := state.accept_shape cfg key listener status env
      rw [same] at exiting ⊢
      exact queue.same rfl rfl exiting
  | signal signal env running =>
      obtain ⟨_, _, same⟩ := onSignal_eq cfg env signal state.runtime
      exact queue.same rfl rfl (by rw [same])
  | releaseDone running dead => exact ⟨by simp [State.releaseDone], by simp [State.releaseDone],
      fun _ => ⟨rfl, rfl⟩⟩

/-! ## Entries in memory -/

/-- What an entry that is in memory after a step was before it. -/
theorem Evolved.before {after : Entry} (evolved : state.Evolved cfg label key after)
    (alive : after.freed = false) :
    (∃ before, state.entries[key]? = some before ∧ before.freed = false ∧
      (before.initialized = true → after.initialized = true)) ∨ key = state.entries.length := by
  cases evolved with
  | unchanged at_key => exact .inl ⟨after, at_key, alive, id⟩
  | @acted before _ act at_key target enabled move told =>
      refine .inl ⟨before, at_key, ?_, move.keeps_open⟩
      rcases move.freeStep with ⟨same, -⟩ | ⟨freed, -⟩
      · exact same.symm.trans alive
      · cases freed.symm.trans alive
  | reserved id opaqueVal isNew => exact .inr isNew
  | accepted id opaqueVal env isNew => exact .inr isNew

theorem Worked.of_unlinked {index : Nat} {worker : Worker}
    (worked : state.Worked cfg index worker next) (unlinked : worker.pc.isUnlinked = true) :
    next.workers = state.workers ∨
      ∃ after, next.entries[worker.key]? = some after ∧ after.freed = true := by
  cases worked with
  | faulted => exact .inl rfl
  | progressed progress => cases progress <;> simp_all [WorkerPc.isUnlinked]
  | tagged | submitted | unlinked | decided => simp_all [WorkerPc.isUnlinked]
  | freed result entry pc at_key alive bare =>
      rw [focus_eq state at_key]
      exact .inr ⟨_, getElem?_set_here at_key, rfl⟩

/-- Every entry in memory is in a slot, or taken out by a call that will free it. -/
def Anchored (state : State) : Prop :=
  ∀ (key : Nat) (entry : Entry), state.entries[key]? = some entry → entry.freed = false →
    (∃ slot, state.runtime.table.slots slot = some key) ∨ state.Held key WorkerPc.isUnlinked

theorem Stepped.anchored (stepped : state.Stepped cfg label next) (wf : state.Wf cfg)
    (anchored : state.Anchored) : next.Anchored := by
  intro key after at_key alive
  have relinked := stepped.relinked wf
  have gone (freed : ∃ found, next.entries[key]? = some found ∧ found.freed = true) : False := by
    obtain ⟨found, at_found, freed⟩ := freed
    cases at_key.symm.trans at_found
    cases freed.symm.trans alive
  rcases (stepped.evolved wf at_key).before alive with ⟨before, at_before, was, -⟩ | rfl
  · rcases anchored key before at_before was with ⟨slot, linked⟩ | ⟨worker, member, same, unlinked⟩
    · rcases relinked.kept slot key linked with kept | freed | held
      · exact .inl ⟨slot, kept⟩
      · exact (gone freed).elim
      · exact .inr held
    · rcases stepped.worker_next member with stays | ⟨index, at_index, worked⟩
      · exact .inr ⟨worker, stays, same, unlinked⟩
      · rcases worked.of_unlinked unlinked with workers | freed
        · exact .inr ⟨worker, workers ▸ member, same, unlinked⟩
        · exact (gone (same ▸ freed)).elim
  · exact .inl (relinked.fresh after at_key alive).1

/-- The end of a call that has not submitted its command. -/
theorem Worked.of_unsubmitted {index : Nat} {worker : Worker}
    (worked : state.Worked cfg index worker next) (wf : state.Wf cfg)
    (at_index : state.workers[index]? = some worker) (early : worker.pc.unsubmitted = true) :
    next.Held worker.key WorkerPc.unsubmitted ∨
      (worker.command ∈ next.commands ∧ { worker with pc := .submitted } ∈ next.workers) ∨
      ∃ after, next.entries[worker.key]? = some after ∧ after.freed = true := by
  have member := List.mem_of_getElem? at_index
  cases worked with
  | faulted => exact .inl ⟨worker, member, rfl, early⟩
  | progressed progress =>
      cases progress with
      | skipped | taken | built | unbuilt | stopped =>
          exact .inl ⟨_, mem_setWorker at_index _, rfl, rfl⟩
      | returned entry pc | counted result pc | ended result pc =>
          rw [pc] at early
          cases early
  | tagged fd entry pc call free at_key alive =>
      refine .inl ⟨_, mem_setWorker ?_ _, rfl, rfl⟩
      rw [focus_workers]
      exact at_index
  | submitted command pc accepting =>
      refine .inr (.inl ⟨?_, mem_setWorker ?_ _⟩)
      · rw [(wf.workers worker member).named command pc]
        exact List.mem_append_right _ (List.mem_singleton_self _)
      · exact at_index
  | unlinked result entry pc at_key alive =>
      refine .inl ⟨_, mem_setWorker ?_ _, rfl, rfl⟩
      exact at_index
  | freed result entry pc at_key alive bare =>
      rw [focus_eq state at_key]
      exact .inr (.inr ⟨_, getElem?_set_here at_key, rfl⟩)
  | decided result pc =>
      rw [pc] at early
      cases early

theorem Worked.stays {index : Nat} {worker : Worker} (worked : state.Worked cfg index worker next)
    (at_index : state.workers[index]? = some worker) :
    ∃ pc, { worker with pc := pc } ∈ next.workers := by
  rcases worked.workers with same | ⟨pc, changed⟩
  · exact ⟨worker.pc, same ▸ List.mem_of_getElem? at_index⟩
  · exact ⟨pc, changed ▸ mem_setWorker at_index pc⟩

theorem Stepped.worker_stays (stepped : state.Stepped cfg label next) {worker : Worker}
    (member : worker ∈ state.workers) : ∃ pc, { worker with pc := pc } ∈ next.workers := by
  rcases stepped.worker_next member with stays | ⟨index, at_index, worked⟩
  · exact ⟨worker.pc, stays⟩
  · exact worked.stays at_index

/-- The runtime is not taken down and set up again. -/
theorem Stepped.live (stepped : state.Stepped cfg label next) (live : next.pc.live = true) :
    state.pc.live = true := by
  cases stepped with
  | called call env isLive | opened call opaqueVal env isLive | worker index env isLive =>
      exact isLive
  | polled polled =>
      cases polled with
      | broken | waits => exact live
      | entered env signals place | idle place => rw [place]; rfl
      | event signals polls place | exit signals polls place =>
          rcases place with place | place <;> (rw [place]; rfl)
  | moved moved => cases moved <;> simp_all [LoopPc.live]
  | unknown cmd rest env place | exitBegun cmd rest env place | exitEnded slot place
  | signal signal env place => rw [place]; rfl
  | acted target at_key enabled ready =>
      rw [focus_pc] at live
      cases ready with
      | command cmd rest env place | exitScan slot place | pump env rest place => rw [place]; rfl
      | releaseScan => cases live
      | callback => exact live
  | @accept key status env listener running at_key listening =>
      obtain ⟨_, _, same⟩ := state.accept_shape cfg key listener status env
      rw [same] at live
      exact live
  | releaseEnded | releaseDone => cases live

/-- A command stays in the queue until the loop carries it out. -/
theorem Stepped.command_next (stepped : state.Stepped cfg label next)
    (live : next.pc.live = true) {command : Command} (member : command ∈ state.commands) :
    command ∈ next.commands ∨ command.body = .exit ∨
      (state.findEntry cfg command.id = none ∧ next.workers = state.workers) ∨
      ∃ key entry rest env, state.findEntry cfg command.id = some key ∧
        state.entries[key]? = some entry ∧
        next = { state with commands := rest }.focus cfg key (.command command env) := by
  have popped {head : Command} {rest : List Command} (queue : state.commands = head :: rest) :
      command = head ∨ command ∈ rest := by
    rw [queue] at member
    exact List.mem_cons.mp member
  cases stepped with
  | called call env live called =>
      cases called with
      | unchanged | refused | copyFreed | timed => exact .inl member
      | pushed | sent | exit => exact .inl (List.mem_append_left _ member)
  | opened call opaqueVal env live opened => cases opened <;> exact .inl member
  | @worker index env worker _ live at_index worked =>
      cases worked with
      | progressed | faulted | unlinked | decided => exact .inl member
      | tagged | freed => exact .inl (by simpa [State.setWorker] using member)
      | submitted => exact .inl (List.mem_append_left _ member)
  | polled polled => exact .inl (polled.kept.2.2.1 ▸ member)
  | moved | exitEnded | signal | releaseEnded => exact .inl member
  | unknown cmd rest env consuming head plain missing =>
      rcases popped head with rfl | later
      · exact .inr (.inr (.inl ⟨missing, rfl⟩))
      · exact .inl later
  | exitBegun cmd rest env consuming head exit =>
      rcases popped head with rfl | later
      · exact .inr (.inl exit)
      · exact .inl later
  | @acted label key entry act prepared target at_key enabled ready =>
      cases ready with
      | command cmd rest env consuming head plain found =>
          rcases popped head with rfl | later
          · exact .inr (.inr (.inr ⟨key, entry, rest, env, found, at_key, rfl⟩))
          · exact .inl (by simpa using later)
      | exitScan | releaseScan | pump | callback => exact .inl (by simpa using member)
  | @accept key status env listener running at_key listening =>
      obtain ⟨_, _, same⟩ := state.accept_shape cfg key listener status env
      rw [same]
      exact .inl member
  | releaseDone => cases live

/-- The arguments of every call in progress were accepted. -/
def Checked (cfg : Config) (state : State) : Prop :=
  ∀ worker ∈ state.workers, worker.call.check cfg = .ok

theorem Stepped.checked (stepped : state.Stepped cfg label next) (checked : state.Checked cfg) :
    next.Checked cfg := by
  intro worker member
  rcases stepped.workers_cases with same | ⟨added, grown, valid, -⟩ |
    ⟨index, other, at_index, worked⟩
  · exact checked worker (same ▸ member)
  · rw [grown] at member
    rcases List.mem_append.mp member with before | isNew
    · exact checked worker before
    · rw [List.mem_singleton.mp isNew]
      exact valid
  · rcases worked.workers with same | ⟨pc, changed⟩
    · exact checked worker (same ▸ member)
    · rw [changed] at member
      rcases List.mem_or_eq_of_mem_set member with before | rfl
      · exact checked worker before
      · exact checked other (List.mem_of_getElem? at_index)

/-- An entry without a handle belongs to a call that has not submitted its
command, or the command is still queued. -/
def Claimed (state : State) : Prop :=
  ∀ (key : Nat) (entry : Entry), state.entries[key]? = some entry → entry.freed = false →
    entry.initialized = false → state.Held key WorkerPc.unsubmitted ∨
      ∃ worker ∈ state.workers, worker.key = key ∧ worker.command ∈ state.commands

theorem Held.unsubmitted_of_unlinked (held : state.Held key WorkerPc.isUnlinked) :
    state.Held key WorkerPc.unsubmitted := by
  obtain ⟨worker, member, same, unlinked⟩ := held
  refine ⟨worker, member, same, ?_⟩
  cases pc : worker.pc <;> simp_all [WorkerPc.isUnlinked, WorkerPc.unsubmitted]

/-- The command of a call opens or frees the entry that the call reserved. -/
theorem focus_opening {worker : Worker} {env : Env} {after : Entry}
    (checked : worker.call.check cfg = .ok) (at_key : state.entries[key]? = some entry)
    (sound : entry.life.Sound) (alive : entry.freed = false) (bare : entry.initialized = false)
    (at_after : (state.focus cfg key (.command worker.command env)).entries[key]? = some after) :
    after.freed = true ∨ after.initialized = true := by
  have reserved : entry.state = .reserved := ((sound.bare bare).2.2.2 alive).1
  have isRun := ((entries_focus at_key at_after).resolve_right fun other => other.1 rfl).2
  have fate : (Frame.runCommand cfg env worker.command ⟨key, entry, state.runtime⟩).fate =
      Frame.fateOf (worker.call.body.setUp cfg env) ⟨key, entry, state.runtime⟩ :=
    Frame.fate_runCommand _ _ worker.call.body_opens
  obtain ⟨fine, tried⟩ := worker.call.body_setUp env checked
  rw [tried] at fate
  rw [isRun]
  cases fine with
  | false =>
      left
      refine (congrArg Prod.fst fate).trans ?_
      simp [Frame.fateOf, reserved]
  | true =>
      right
      refine (congrArg Prod.snd fate).trans ?_
      simp [Frame.fateOf, reserved]

theorem Stepped.claimed (stepped : state.Stepped cfg label next) (wf : state.Wf cfg)
    (checked : state.Checked cfg) (anchored : state.Anchored) (claimed : state.Claimed)
    (live : next.pc.live = true) : next.Claimed := by
  intro key after at_key alive bare
  have gone (freed : ∃ found, next.entries[key]? = some found ∧ found.freed = true) : False := by
    obtain ⟨found, at_found, freed⟩ := freed
    cases at_key.symm.trans at_found
    cases freed.symm.trans alive
  rcases (stepped.evolved wf at_key).before alive with ⟨before, at_before, was, opened⟩ | rfl
  · have bareBefore : before.initialized = false := by
      by_contra isOpen
      cases (opened (by simpa using isOpen)).symm.trans bare
    rcases claimed key before at_before was bareBefore with
      ⟨worker, member, same, early⟩ | ⟨worker, member, same, queued⟩
    · rcases stepped.worker_next member with stays | ⟨index, at_index, worked⟩
      · exact .inl ⟨worker, stays, same, early⟩
      · rcases worked.of_unsubmitted wf at_index early with held | ⟨queued, stays⟩ | freed
        · exact .inl (same ▸ held)
        · exact .inr ⟨_, stays, same, queued⟩
        · exact (gone (same ▸ freed)).elim
    · obtain ⟨pc, stays⟩ := stepped.worker_stays member
      obtain ⟨known, at_known, idOf⟩ := (wf.workers worker member).known
      rw [same, at_before] at at_known
      cases at_known
      -- while a slot has the entry, the loop finds it under the id of the command
      have finds {slot : Nat} (linked : state.runtime.table.slots slot = some key) :
          state.findEntry cfg worker.command.id = some key := by
        obtain ⟨-, found, at_found, -, slotOf⟩ := wf.linked slot key linked
        cases at_before.symm.trans at_found
        refine SlotTable.find_eq_some.mpr ⟨?_, ?_⟩
        · rw [show worker.command.id = before.id from idOf.symm, slotOf, linked]
        · rw [State.idOf, at_before]
          exact congrArg some idOf
      rcases stepped.command_next live queued with
        later | isExit | ⟨missing, workers⟩ | ⟨other, entry, rest, env, found, at_other, rfl⟩
      · exact .inr ⟨_, stays, same, later⟩
      · cases called : worker.call <;> simp [Worker.command, called, OpenCall.body] at isExit
      · rcases anchored key before at_before was with ⟨slot, linked⟩ | held
        · cases missing.symm.trans (finds linked)
        · have held := held.unsubmitted_of_unlinked
          unfold Held at held ⊢
          rw [workers]
          exact .inl held
      · rcases anchored key before at_before was with ⟨slot, linked⟩ | held
        · cases found.symm.trans (finds linked)
          rcases focus_opening (checked worker member) (by exact at_before)
            (wf.sound key before at_before) was bareBefore at_key with freed | opened
          · cases freed.symm.trans alive
          · cases opened.symm.trans bare
        · have held := held.unsubmitted_of_unlinked
          unfold Held at held ⊢
          rw [focus_workers]
          exact .inl held
  · rcases ((stepped.relinked wf).fresh after at_key alive).2 with opened | held
    · cases opened.symm.trans bare
    · exact .inl held

/-- What holds between any two steps of a run. -/
structure Orderly (cfg : Config) (state : State) : Prop where
  wf : state.Wf cfg
  queue : state.Queue
  checked : state.Checked cfg
  anchored : state.Anchored
  claimed : state.pc.live = true → state.Claimed

theorem Orderly.init (cfg : Config) : State.init.Orderly cfg where
  wf := Wf.init cfg
  queue := ⟨by simp [State.init], by simp [State.init], fun exiting => nomatch exiting⟩
  checked := by simp [Checked, State.init]
  anchored := by simp [Anchored, State.init]
  claimed _ := by simp [Claimed, State.init]

theorem Orderly.of_step (orderly : state.Orderly cfg) (run : step cfg state label = some next) :
    state.Stepped cfg label next ∧ next.Orderly cfg := by
  obtain ⟨wf, queue, checked, anchored, claimed⟩ := orderly
  obtain ⟨stepped, nextWf⟩ := wf.of_step run
  exact ⟨stepped, nextWf, stepped.queue wf queue, stepped.checked checked,
    stepped.anchored wf anchored, fun live =>
      stepped.claimed wf checked anchored (claimed (stepped.live live)) live⟩

end State

/-- No entry is lost: one in memory is in its slot, or a failing call is about to free it; one
without a handle belongs to a call or to a queued command; and `EXIT` is the last command. -/
theorem entries_accounted (cfg : Config) (state : State)
    (reached : (socketSystem cfg).Reachable state) :
    state.Anchored ∧ (state.pc.live = true → state.Claimed) ∧ state.Queue := by
  have orderly : state.Orderly cfg := reached.invariant (State.Orderly cfg) (.init cfg)
    fun _ _ _ orderly run => (orderly.of_step run).2
  exact ⟨orderly.anchored, orderly.claimed, orderly.queue⟩

theorem entries_accounted_connected : connectedState.Anchored :=
  (entries_accounted fourSlots connectedState ⟨connectRun, (Option.some_get _).symm⟩).1

end Skyuv.Socket
