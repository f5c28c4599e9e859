import Skyuv.Socket.Shutdown

/-!
# The exit protocol

`process_exit` closes every entry, and whoever removes the last one sets
`exit_ready`, which the next poll turns into the exit event.  An id-allocating
call that is still in progress can put an entry back into the table after that,
and sets `exit_ready` again when it discards the entry.  `timely` names the steps
that leave no call in progress when a poll returns without an event, and start
none after the exit event; in a run of such steps the protocol holds.
-/

set_option autoImplicit false

namespace Skyuv.Socket

open TransitionSystem

/-- The call will still find that the last entry is gone. -/
def WorkerPc.retires : WorkerPc → Bool
  | .unlinked _ | .freed _ => true
  | .deciding _ ready => ready
  | _ => false

theorem WorkerPc.not_done_of_retires {pc : WorkerPc} (retires : pc.retires = true) :
    pc.isDone = false := by
  cases pc <;> first | rfl | cases retires

theorem WorkerPc.not_done_of_unsubmitted {pc : WorkerPc} (early : pc.unsubmitted = true) :
    pc.isDone = false := by
  cases pc <;> first | rfl | cases early

namespace State

variable {cfg : Config} {state next : State} {label : Label} {key : Nat} {entry : Entry}

theorem Wf.vacant (wf : state.Wf cfg) (live : state.pc.live = true)
    (empty : state.runtime.table.entryCount = 0) (slot : Nat) :
    state.runtime.table.slots slot = none := by
  by_contra occupied
  obtain ⟨key, occupied⟩ := Option.ne_none_iff_exists'.mp occupied
  have member : slot ∈ state.runtime.table.occupied cfg := by
    simp [SlotTable.occupied, (wf.linked slot key occupied).1, occupied]
  rw [wf.count live] at empty
  exact Finset.notMem_empty slot (Finset.card_eq_zero.mp empty ▸ member)

/-! ## When the exit event is due -/

/-- Only polls return anything. -/
theorem Stepped.polled_cases (stepped : state.Stepped cfg label next) :
    next.polled = state.polled ∨ state.Polled label next := by
  cases stepped with
  | polled polled => exact .inr polled
  | called call env live called => exact .inl (by cases called <;> rfl)
  | opened call opaqueVal env live opened => exact .inl (by cases opened <;> rfl)
  | worker index env live at_index worked =>
      cases worked with
      | tagged | freed => exact .inl (by rw [State.setWorker, focus_polled])
      | _ => exact .inl rfl
  | acted target at_key enabled ready =>
      refine .inl ?_
      rw [focus_polled]
      cases ready <;> rfl
  | @accept key status env listener running at_key listening =>
      obtain ⟨_, _, shape⟩ := state.accept_shape cfg key listener status env
      exact .inl (by rw [shape])
  | _ => exact .inl rfl

theorem Polled.grows (polled : state.Polled label next) :
    ∃ results, next.polled = state.polled ++ results := by
  cases polled with
  | entered | waits => exact ⟨[], (List.append_nil _).symm⟩
  | broken | event | exit | idle => exact ⟨_, rfl⟩

/-- The table is empty: the exit event is queued, returned, or a call on its way
out will queue it. -/
def Due (state : State) : Prop :=
  state.runtime.exiting = true → state.pc.scans = false → state.runtime.table.entryCount = 0 →
    state.runtime.exitReady = true ∨ .exit ∈ state.polled ∨
      ∃ worker ∈ state.workers, worker.pc.retires = true

theorem Worked.of_retiring {index : Nat} {worker : Worker}
    (worked : state.Worked cfg index worker next)
    (at_index : state.workers[index]? = some worker) (retires : worker.pc.retires = true)
    (exiting : state.runtime.exiting = true) (empty : state.runtime.table.entryCount = 0) :
    next.runtime.exitReady = true ∨ ∃ other ∈ next.workers, other.pc.retires = true := by
  cases worked with
  | faulted => exact .inr ⟨worker, List.mem_of_getElem? at_index, retires⟩
  | progressed progress =>
      cases progress with
      | counted result pc =>
          refine .inr ⟨_, mem_setWorker at_index _, ?_⟩
          simp [WorkerPc.retires, exiting, empty]
      | _ => simp_all [WorkerPc.retires]
  | tagged | submitted | unlinked => simp_all [WorkerPc.retires]
  | freed result entry pc at_key alive bare =>
      refine .inr ⟨_, mem_setWorker ?_ _, rfl⟩
      rw [focus_workers]
      exact at_index
  | decided result pc => exact .inl rfl

theorem Stepped.due (stepped : state.Stepped cfg label next) (due : state.Due) : next.Due := by
  intro exiting unscanned empty
  have flagged := stepped.flagged
  have grows (returned : .exit ∈ state.polled) : .exit ∈ next.polled := by
    rcases stepped.polled_cases with same | polled
    · rwa [same]
    · obtain ⟨results, grown⟩ := polled.grows
      exact grown ▸ List.mem_append_left _ returned
  rcases flagged.due exiting empty with
    ⟨before, count, scans⟩ | ready | ⟨worker, member, unlinked⟩ | scanning
  · rcases due before scans count with ready | returned | ⟨worker, member, retires⟩
    · exact (flagged.lowered ready).imp_right .inl
    · exact .inr (.inl (grows returned))
    · rcases stepped.worker_next member with stays | ⟨index, at_index, worked⟩
      · exact .inr (.inr ⟨worker, stays, retires⟩)
      · exact (worked.of_retiring at_index retires before count).imp_right .inr
  · exact .inl ready
  · refine .inr (.inr ⟨worker, member, ?_⟩)
    cases pc : worker.pc <;> simp_all [WorkerPc.isUnlinked, WorkerPc.retires]
  · cases unscanned.symm.trans scanning

/-! ## When it is queued -/

/-- A failing call took an entry out of the table whose handle the loop had
opened; its next step is undefined. -/
def Doomed (state : State) : Prop :=
  ∃ worker ∈ state.workers, worker.pc.isUnlinked = true ∧
    ∃ entry, state.entries[worker.key]? = some entry ∧ entry.initialized = true

def Announced (state : State) : Prop :=
  state.runtime.exitReady = true ∨ ∃ worker ∈ state.workers, worker.pc.announces = true

/-- Once `exit_ready` is set, or about to be, the table holds at most entries that
calls in progress have reserved. -/
def Ready (state : State) : Prop :=
  state.Announced → state.runtime.exiting = true ∧
    (state.Doomed ∨ ∀ slot key entry, state.runtime.table.slots slot = some key →
      state.entries[key]? = some entry → entry.initialized = false)

/-- Entries keep their place, and a handle stays open. -/
theorem Stepped.keeps_open (stepped : state.Stepped cfg label next) (wf : state.Wf cfg)
    (at_key : state.entries[key]? = some entry) (opened : entry.initialized = true) :
    ∃ after, next.entries[key]? = some after ∧ after.initialized = true := by
  have bound := (List.getElem?_eq_some_iff.mp at_key).1
  obtain ⟨after, at_after⟩ : ∃ after, next.entries[key]? = some after :=
    ⟨_, List.getElem?_eq_getElem (bound.trans_le stepped.grows)⟩
  refine ⟨after, at_after, ?_⟩
  cases stepped.evolved wf at_after with
  | unchanged same =>
      cases at_key.symm.trans same
      exact opened
  | acted act at_before target enabled move told =>
      cases at_key.symm.trans at_before
      exact move.keeps_open opened
  | reserved id opaqueVal isNew => exact absurd isNew bound.ne
  | accepted id opaqueVal env isNew => exact absurd isNew bound.ne

theorem Stepped.doomed (stepped : state.Stepped cfg label next) (wf : state.Wf cfg)
    (doomed : state.Doomed) : next.Doomed := by
  obtain ⟨worker, member, unlinked, entry, at_key, opened⟩ := doomed
  have still := stepped.keeps_open wf at_key opened
  rcases stepped.worker_next member with stays | ⟨index, at_index, worked⟩
  · exact ⟨worker, stays, unlinked, still⟩
  · cases worked with
    | faulted => exact ⟨worker, member, unlinked, still⟩
    | progressed progress => cases progress <;> simp_all [WorkerPc.isUnlinked]
    | tagged | submitted | unlinked | decided => simp_all [WorkerPc.isUnlinked]
    | freed result found pc at_found alive bare =>
        cases at_key.symm.trans at_found
        cases opened.symm.trans bare

/-- A call decides to set `exit_ready` when it sees the empty table. -/
theorem Stepped.announces (stepped : state.Stepped cfg label next) {worker : Worker}
    (member : worker ∈ next.workers) (announces : worker.pc.announces = true) :
    worker ∈ state.workers ∨
      (next.runtime.exiting = true ∧ next.runtime.table.entryCount = 0) := by
  rcases stepped.workers_cases with same | ⟨added, grown, -, early⟩ |
    ⟨index, other, at_index, worked⟩
  · exact .inl (same ▸ member)
  · rw [grown] at member
    rcases List.mem_append.mp member with before | isNew
    · exact .inl before
    · rw [List.mem_singleton.mp isNew] at announces
      rcases early with pc | pc <;> (rw [pc] at announces; cases announces)
  · have changed {pc : WorkerPc} (quiet : pc.announces = false)
        (inside : worker ∈ state.workers.set index { other with pc := pc }) :
        worker ∈ state.workers := by
      refine (List.mem_or_eq_of_mem_set inside).resolve_right ?_
      rintro rfl
      cases quiet.symm.trans announces
    cases worked with
    | faulted => exact .inl member
    | progressed progress =>
        cases progress with
        | counted result pc =>
            rcases List.mem_or_eq_of_mem_set member with before | rfl
            · exact .inl before
            · refine .inr ?_
              simpa [WorkerPc.announces, State.setWorker] using announces
        | _ => exact .inl (changed rfl member)
    | tagged | freed =>
        rw [State.setWorker, focus_workers] at member
        exact .inl (changed rfl member)
    | submitted | unlinked | decided => exact .inl (changed rfl member)

/-- A step opens the handle of an entry that was there before only by carrying
out a command. -/
theorem target_opening {act : Act} (target : state.target cfg label = some (key, act))
    (empty : state.commands = []) :
    (∀ command env, act ≠ .command command env) ∧ ∀ env, act ≠ .acceptInto env := by
  have issued := target_issues target
  cases label with
  | command env => simp [State.target, empty] at target
  | _ =>
      refine ⟨?_, ?_⟩
      · rintro command env rfl
        cases issued
      · rintro env rfl
        cases issued

/-- While the queue is empty, an entry that was there before keeps its handle as
it is. -/
theorem Stepped.still_bare (stepped : state.Stepped cfg label next) (wf : state.Wf cfg)
    (empty : state.commands = []) (at_key : state.entries[key]? = some entry)
    (bare : entry.initialized = false) {after : Entry}
    (at_after : next.entries[key]? = some after) :
    after.initialized = false := by
  have bound := (List.getElem?_eq_some_iff.mp at_key).1
  cases stepped.evolved wf at_after with
  | unchanged same =>
      cases at_key.symm.trans same
      exact bare
  | acted act at_before target enabled move told =>
      cases at_key.symm.trans at_before
      obtain ⟨notCommand, notAccept⟩ := target_opening target empty
      rcases move.opened_by with same | ⟨command, env, isCommand, -⟩ | ⟨env, isAccept⟩
      · exact same.trans bare
      · exact absurd isCommand (notCommand command env)
      · exact absurd isAccept (notAccept env)
  | reserved id opaqueVal isNew => exact absurd isNew bound.ne
  | accepted id opaqueVal env isNew => exact absurd isNew bound.ne

/-- A listener has a handle, so it is in the table or a failing call has taken it
out. -/
theorem Orderly.listener (orderly : state.Orderly cfg) (at_key : state.entries[key]? = some entry)
    (listening : entry.uvListening = true) :
    entry.initialized = true ∧
      ((∃ slot, state.runtime.table.slots slot = some key) ∨ state.Doomed) := by
  have sound := orderly.wf.sound key entry at_key
  have opened : entry.initialized = true := by
    by_contra bare
    have quiet := (sound.bare (by simpa using bare)).1.2.2.1
    cases quiet.symm.trans listening
  have alive : entry.freed = false := by
    by_contra freed
    have quiet := (sound.dead (by simpa using freed)).1.2.2.1
    cases quiet.symm.trans listening
  refine ⟨opened, (orderly.anchored key entry at_key alive).imp_right ?_⟩
  rintro ⟨worker, member, rfl, unlinked⟩
  exact ⟨worker, member, unlinked, entry, at_key, opened⟩

theorem Stepped.ready (stepped : state.Stepped cfg label next) (orderly : state.Orderly cfg)
    (nextWf : next.Wf cfg) (live : next.pc.live = true) (ready : state.Ready) : next.Ready := by
  have wf := orderly.wf
  have vacant (empty : next.runtime.table.entryCount = 0) (slot key : Nat) (entry : Entry)
      (occupied : next.runtime.table.slots slot = some key) : entry.initialized = false := by
    cases (nextWf.vacant live empty slot).symm.trans occupied
  intro announced
  have before : state.Announced ∨
      (next.runtime.exiting = true ∧ next.runtime.table.entryCount = 0) := by
    rcases announced with isReady | ⟨worker, member, announces⟩
    · rcases stepped.flagged.ready isReady with was | fresh | announces
      · exact .inl (.inl was)
      · exact .inr fresh
      · exact .inl (.inr announces)
    · rcases stepped.announces member announces with was | fresh
      · exact .inl (.inr ⟨worker, was, announces⟩)
      · exact .inr fresh
  rcases before with was | ⟨exiting, empty⟩
  · obtain ⟨exiting, reserved⟩ := ready was
    refine ⟨stepped.flagged.exiting exiting, ?_⟩
    by_cases doomed : state.Doomed
    · exact .inl (stepped.doomed wf doomed)
    · have bare := reserved.resolve_left doomed
      refine .inr fun slot key entry occupied at_key => ?_
      rcases (stepped.relinked wf).grown slot key occupied with
        linked | ⟨found, at_found, isBare⟩ | ⟨other, listener, at_other, listening⟩
      · obtain ⟨-, found, at_found, -⟩ := wf.linked slot key linked
        exact stepped.still_bare wf (orderly.queue.stopped exiting).1 at_found
          (bare slot key found linked at_found) at_key
      · cases at_key.symm.trans at_found
        exact isBare
      · obtain ⟨opened, ⟨place, linked⟩ | isDoomed⟩ := orderly.listener at_other listening
        · cases (bare place other listener linked at_other).symm.trans opened
        · exact absurd isDoomed doomed
  · exact ⟨exiting, .inr fun slot key entry occupied _ => vacant empty slot key entry occupied⟩

/-! ## After the exit event -/

/-- The event comes from a signal and not from a socket. -/
def ofSignal (event : Event) : Prop := event.type = .reopenLog ∨ event.type = .processShutdown

structure Over (state : State) : Prop where
  exiting : state.runtime.exiting = true
  unready : state.runtime.exitReady = false
  unscanned : state.pc.scans = false
  workers : ∀ worker ∈ state.workers, worker.pc.isDone = true
  entries : ∀ (key : Nat) (entry : Entry), state.entries[key]? = some entry → entry.freed = true
  events : ∀ event ∈ state.runtime.events, ofSignal event

theorem Over.same (finished : state.Over) (exiting : next.runtime.exiting = state.runtime.exiting)
    (ready : next.runtime.exitReady = state.runtime.exitReady)
    (workers : next.workers = state.workers) (entries : next.entries = state.entries)
    (unscanned : next.pc.scans = false) (events : ∀ event ∈ next.runtime.events, ofSignal event) :
    next.Over where
  exiting := exiting.trans finished.exiting
  unready := ready.trans finished.unready
  unscanned := unscanned
  workers := workers ▸ finished.workers
  entries := entries ▸ finished.entries
  events := events

theorem Worked.not_done {index : Nat} {worker : Worker}
    (worked : state.Worked cfg index worker next) : worker.pc.isDone = false := by
  cases worked with
  | progressed progress => cases progress <;> simp_all [WorkerPc.isDone]
  | faulted fault entry uses =>
      cases pc : worker.pc with
      | done => simp [pc, WorkerPc.uses] at uses
      | _ => rfl
  | tagged | submitted | unlinked | freed | decided => simp_all [WorkerPc.isDone]

theorem onSignal_events (cfg : Config) (env : Env) (signal : Signal) (runtime : Shared)
    (event : Event) (member : event ∈ (runtime.onSignal cfg env signal).events) :
    event ∈ runtime.events ∨ ofSignal event := by
  unfold Shared.onSignal Shared.pushEvent Shared.eventNodes at member
  split at member
  all_goals
    dsimp only at member
    rcases List.mem_append.mp member with before | added
    · exact .inl before
    · split at added
      · rw [List.mem_singleton.mp added]
        simp [ofSignal]
      · cases added

/-- Nothing but a signal wakes the runtime once every call has returned and every
entry is gone. -/
theorem Stepped.finished (stepped : state.Stepped cfg label next) (orderly : state.Orderly cfg)
    (finished : state.Over) (quiet : ∀ call opaqueVal env, label ≠ .openCall call opaqueVal env) :
    next.Over := by
  obtain ⟨empty, stopped⟩ := orderly.queue.stopped finished.exiting
  have unscanned := finished.unscanned
  have gone {act : Act} {key : Nat} {entry : Entry} (at_key : state.entries[key]? = some entry)
      (enabled : act.Enabled entry.life) : False := by
    have alive := (orderly.wf.sound key entry at_key).alive enabled
    cases alive.symm.trans (finished.entries key entry at_key)
  cases stepped with
  | called call env live called =>
      cases called with
      | unchanged => exact finished
      | refused | copyFreed | timed => exact finished.same rfl rfl rfl rfl unscanned finished.events
      | pushed _ accepting | sent _ _ _ accepting | exit accepting =>
          cases accepting.symm.trans stopped
  | opened call opaqueVal env live opened => exact absurd rfl (quiet call opaqueVal env)
  | @worker index env worker _ live at_index worked =>
      have returned := finished.workers worker (List.mem_of_getElem? at_index)
      cases worked.not_done.symm.trans returned
  | polled polled =>
      cases polled with
      | broken env signals outside =>
          obtain ⟨_, _, _, _, _, rfl⟩ := signals
          exact finished.same rfl rfl rfl rfl unscanned finished.events
      | entered env signals outside =>
          obtain ⟨_, _, _, _, _, rfl⟩ := signals
          exact finished.same rfl rfl rfl rfl rfl finished.events
      | event signals polls place event rest head =>
          obtain ⟨_, _, _, _, _, rfl⟩ := signals
          refine finished.same rfl rfl rfl rfl rfl fun other member => finished.events other ?_
          rw [head]
          exact List.mem_cons_of_mem _ member
      | exit signals polls place noEvents ready => cases ready.symm.trans finished.unready
      | waits => exact finished
      | idle => exact finished.same rfl rfl rfl rfl rfl finished.events
  | moved moved =>
      refine finished.same rfl rfl rfl rfl ?_ finished.events
      cases moved with
      | exitSkipped slot scanning => simp [scanning, LoopPc.scans] at unscanned
      | _ => rfl
  | unknown cmd rest env consuming head | exitBegun cmd rest env consuming head =>
      cases empty.symm.trans head
  | exitEnded slot scanning => simp [scanning, LoopPc.scans] at unscanned
  | acted target at_key enabled ready => exact (gone at_key enabled).elim
  | @accept key status env listener running at_key listening =>
      have enabled : Act.acceptStalled.Enabled listener.life := listening
      exact (gone at_key enabled).elim
  | signal signal env running =>
      have events := onSignal_events cfg env signal state.runtime
      obtain ⟨_, _, same⟩ := onSignal_eq cfg env signal state.runtime
      rw [same] at events ⊢
      refine finished.same rfl rfl rfl rfl unscanned fun event member => ?_
      exact (events event member).elim (finished.events event) id
  | releaseEnded => exact finished.same rfl rfl rfl rfl rfl finished.events
  | releaseDone running dead =>
      unfold State.releaseDone
      rw [destroyAll_eq]
      exact finished.same rfl rfl rfl rfl rfl fun _ member => absurd member List.not_mem_nil

/-! ## The protocol -/

/-- A poll that is about to look at the flags returns without an event. -/
def settles (state : State) (idle : Bool) : Bool :=
  state.runtime.exiting && state.runtime.events.isEmpty && (state.runtime.exitReady || idle)

/-- No id-allocating call starts after the exit event, and none is in progress
when a poll of the exiting runtime returns without an event. -/
def timely (state : State) : Label → Bool
  | .openCall _ _ _ => decide (.exit ∉ state.polled)
  | .poll _ => !state.settles false || state.workers.all fun worker => worker.pc.isDone
  | .runReturned idle => !state.settles idle || state.workers.all fun worker => worker.pc.isDone
  | _ => true

/-- Entries without a handle do not outlast the calls that reserved them. -/
theorem Orderly.vacant (orderly : state.Orderly cfg) (live : state.pc.live = true)
    (exiting : state.runtime.exiting = true)
    (returned : ∀ worker ∈ state.workers, worker.pc.isDone = true)
    (bare : ∀ slot key entry, state.runtime.table.slots slot = some key →
      state.entries[key]? = some entry → entry.initialized = false) (slot : Nat) :
    state.runtime.table.slots slot = none := by
  by_contra occupied
  obtain ⟨key, occupied⟩ := Option.ne_none_iff_exists'.mp occupied
  obtain ⟨-, entry, at_key, alive, -⟩ := orderly.wf.linked slot key occupied
  rcases orderly.claimed live key entry at_key alive (bare slot key entry occupied at_key) with
    ⟨worker, member, -, early⟩ | ⟨worker, -, -, queued⟩
  · cases (WorkerPc.not_done_of_unsubmitted early).symm.trans (returned worker member)
  · rw [(orderly.queue.stopped exiting).1] at queued
    cases queued

theorem Orderly.all_freed (orderly : state.Orderly cfg)
    (returned : ∀ worker ∈ state.workers, worker.pc.isDone = true)
    (vacant : ∀ slot, state.runtime.table.slots slot = none)
    (at_key : state.entries[key]? = some entry) : entry.freed = true := by
  by_contra alive
  rcases orderly.anchored key entry at_key (by simpa using alive) with
    ⟨slot, linked⟩ | ⟨worker, member, -, unlinked⟩
  · cases (vacant slot).symm.trans linked
  · exact absurd unlinked (WorkerPc.not_isUnlinked_of_isDone (returned worker member))

/-- `exit_ready` with no call in progress: the table is empty. -/
theorem Ready.vacant (ready : state.Ready) (orderly : state.Orderly cfg)
    (live : state.pc.live = true) (isReady : state.runtime.exitReady = true)
    (returned : ∀ worker ∈ state.workers, worker.pc.isDone = true) (slot : Nat) :
    state.runtime.table.slots slot = none := by
  obtain ⟨exiting, ⟨worker, member, unlinked, -⟩ | bare⟩ := ready (.inl isReady)
  · exact absurd unlinked (WorkerPc.not_isUnlinked_of_isDone (returned worker member))
  · exact orderly.vacant live exiting returned bare slot

/-- Nothing keeps `uv_run` going and no call is in progress: the exit event was
returned, or is queued. -/
theorem Due.settled (due : state.Due) (orderly : state.Orderly cfg) (running : state.pc = .running)
    (exiting : state.runtime.exiting = true) (dead : state.loopAlive = false)
    (returned : ∀ worker ∈ state.workers, worker.pc.isDone = true) :
    state.runtime.exitReady = true ∨ .exit ∈ state.polled := by
  have live : state.pc.live = true := by rw [running]; rfl
  have bare (slot key : Nat) (entry : Entry) (linked : state.runtime.table.slots slot = some key)
      (at_key : state.entries[key]? = some entry) : entry.initialized = false := by
    obtain ⟨-, found, at_found, alive, -⟩ := orderly.wf.linked slot key linked
    cases at_key.symm.trans at_found
    have idle : state.entries.any (fun entry => entry.initialized && !entry.freed) = false := by
      simp only [loopAlive, Bool.or_eq_false_iff] at dead
      exact dead.2
    simpa [alive] using List.any_eq_false.mp idle entry (List.mem_of_getElem? at_key)
  have vacant := orderly.vacant live exiting returned bare
  have empty : state.runtime.table.entryCount = 0 := by
    rw [orderly.wf.count live]
    simp [SlotTable.occupied, vacant]
  rcases due exiting (by rw [running]; rfl) empty with ready | polled | ⟨worker, member, retires⟩
  · exact .inl ready
  · exact .inr polled
  · cases (WorkerPc.not_done_of_retires retires).symm.trans (returned worker member)

/-- What every state of a run knows about the exit event. -/
structure Exits (cfg : Config) (state : State) : Prop where
  orderly : state.Orderly cfg
  ready : state.pc.live = true → state.Ready
  due : state.Due

theorem Exits.init (cfg : Config) : State.init.Exits cfg where
  orderly := .init cfg
  ready _ announced := by simp [Announced, State.init] at announced
  due exiting := nomatch exiting

theorem Exits.of_step (exits : state.Exits cfg) (run : step cfg state label = some next) :
    state.Stepped cfg label next ∧ next.Exits cfg := by
  obtain ⟨stepped, orderly⟩ := exits.orderly.of_step run
  exact ⟨stepped, orderly, fun live =>
    stepped.ready exits.orderly orderly.wf live (exits.ready (stepped.live live)),
    stepped.due exits.due⟩

theorem timely_returned {idle : Bool} (settles : state.settles idle = true)
    (label : Label) (polls : label = .runReturned idle ∨ (∃ env, label = .poll env ∧ idle = false))
    (timely : state.timely label = true) : ∀ worker ∈ state.workers, worker.pc.isDone = true := by
  rcases polls with rfl | ⟨env, rfl, rfl⟩
  all_goals
    simp only [State.timely, settles, Bool.not_true, Bool.false_or, List.all_eq_true] at timely
    exact timely

/-- The poll that returns the exit event. -/
theorem Exits.exit_settled (exits : state.Exits cfg) (timely : state.timely label = true)
    (polls : label.polls = true) (place : state.pc = .outside ∨ state.pc = .running)
    (empty : state.runtime.events = []) (ready : state.runtime.exitReady = true) :
    state.runtime.exiting = true ∧ (∀ worker ∈ state.workers, worker.pc.isDone = true) ∧
      ∀ slot, state.runtime.table.slots slot = none := by
  have live : state.pc.live = true := by rcases place with place | place <;> (rw [place]; rfl)
  obtain ⟨exiting, -⟩ := exits.ready live (.inl ready)
  have returned : ∀ worker ∈ state.workers, worker.pc.isDone = true := by
    have settles (idle : Bool) : state.settles idle = true := by
      simp [State.settles, exiting, empty, ready]
    cases label with
    | poll env => exact timely_returned (settles false) _ (.inr ⟨env, rfl, rfl⟩) timely
    | runReturned idle => exact timely_returned (settles idle) _ (.inl rfl) timely
    | _ => cases polls
  exact ⟨exiting, returned, (exits.ready live).vacant exits.orderly live ready returned⟩

/-- The exit event was returned at most once, and the runtime is over since. -/
structure Exited (state : State) : Prop where
  once : state.polled.count .exit ≤ 1
  finished : .exit ∈ state.polled → state.Over

theorem Exited.same (exited : state.Exited) (stepped : state.Stepped cfg label next)
    (orderly : state.Orderly cfg) (timely : state.timely label = true)
    (results : List PollResult) (polled : next.polled = state.polled ++ results)
    (other : .exit ∉ results) : next.Exited where
  once := by
    rw [polled, List.count_append, List.count_eq_zero.mpr other]
    exact exited.once
  finished returned := by
    rw [polled] at returned
    have before := (List.mem_append.mp returned).resolve_right other
    refine stepped.finished orderly (exited.finished before) ?_
    rintro call opaqueVal env rfl
    simp [State.timely, before] at timely

theorem Stepped.exited (stepped : state.Stepped cfg label next) (exits : state.Exits cfg)
    (timely : state.timely label = true) (exited : state.Exited) : next.Exited := by
  have kept := exited.same stepped exits.orderly timely
  rcases stepped.polled_cases with same | polled
  · exact kept [] (by rw [same, List.append_nil]) (by simp)
  · cases polled with
    | entered | waits => exact kept [] (List.append_nil _).symm (by simp)
    | broken | event | idle => exact kept _ rfl (by simp)
    | exit signals polls place empty ready =>
        obtain ⟨exiting, returned, vacant⟩ := exits.exit_settled timely polls place empty ready
        have first : .exit ∉ state.polled := fun before => by
          cases (exited.finished before).unready.symm.trans ready
        obtain ⟨_, _, _, _, _, rfl⟩ := signals
        refine ⟨?_, fun _ => ⟨exiting, rfl, rfl, returned, ?_, ?_⟩⟩
        · simp [List.count_append, List.count_eq_zero.mpr first]
        · exact fun key entry at_key => exits.orderly.all_freed returned vacant at_key
        · simp [empty]

/-- A step that returns something is a poll that returns it. -/
theorem Stepped.polled_of_result (stepped : state.Stepped cfg label next) {result : PollResult}
    (returned : next.polled = state.polled ++ [result]) : state.Polled label next := by
  refine stepped.polled_cases.resolve_left fun same => ?_
  rw [same] at returned
  simpa using congrArg List.length returned

end State

/-- In every run of timely steps a poll returns the exit event at most once, and
only when the table and the event queue are empty; it does not report an idle
loop between the exit command and the exit event; and after the exit event it
returns events of signals only. -/
theorem exit_protocol (cfg : Config) (labels : List Label) (label : Label) (state next : State)
    (run : (socketSystem cfg).exec State.init labels = some state)
    (last : step cfg state label = some next)
    (along : (socketSystem cfg).Along (fun state label => state.timely label = true) State.init
      (labels ++ [label])) :
    next.polled.count .exit ≤ 1 ∧
    (next.polled = state.polled ++ [.exit] →
      state.runtime.events = [] ∧ ∀ slot, state.runtime.table.slots slot = none) ∧
    (next.polled = state.polled ++ [.failed .invalidState] → state.runtime.exiting = true →
      .exit ∈ state.polled) ∧
    (∀ event, next.polled = state.polled ++ [.event event] → .exit ∈ state.polled →
      event.type = .reopenLog ∨ event.type = .processShutdown) := by
  obtain ⟨before, timely⟩ := along.snoc run
  have exits : state.Exits cfg := System.exec_invariant (State.Exits cfg)
    (fun _ _ _ exits run => (exits.of_step run).2) (State.Exits.init cfg) run
  have exited : state.Exited := System.exec_guarded (State.Exits cfg) State.Exited
    (fun _ _ _ exits run => (exits.of_step run).2)
    (fun _ _ _ exits exited timely run => (exits.of_step run).1.exited exits timely exited)
    labels State.init state (State.Exits.init cfg) ⟨by simp [State.init], by simp [State.init]⟩
    before run
  obtain ⟨stepped, -⟩ := exits.of_step last
  refine ⟨(stepped.exited exits timely exited).once, fun returned => ?_, fun returned exiting => ?_,
    fun event returned after => ?_⟩
  · cases stepped.polled_of_result returned with
    | exit signals polls place empty ready =>
        exact ⟨empty, (exits.exit_settled timely polls place empty ready).2.2⟩
    | _ => simp at returned
  · cases stepped.polled_of_result returned with
    | idle running dead empty unready =>
        have settles : state.settles true = true := by simp [State.settles, exiting, empty]
        have done := State.timely_returned settles _ (.inl rfl) timely
        refine (exits.due.settled exits.orderly running exiting dead done).resolve_left ?_
        simp [unready]
    | _ => simp at returned
  · cases stepped.polled_of_result returned with
    | event signals polls place found rest head =>
        have same : found = event := by simpa using returned
        exact same ▸ (exited.finished after).events found (by simp [head])
    | _ => simp at returned

/-- The runtime exits with one connection open. -/
def exitRun : List Label :=
  connectRun ++ ([.api .exit .fine, .poll .fine, .wakeup, .command .fine, .exitStep, .exitStep,
    .exitStep, .exitStep, .exitStep, .commandsDone, .pumpDone, .closeEntry 0] : List Label)

def exitState : State := ((socketSystem fourSlots).exec State.init exitRun).get (by decide)

def exitedState : State := (step fourSlots exitState (.runReturned false)).get (by decide)

theorem exit_protocol_connected :
    (socketSystem fourSlots).exec State.init exitRun = some exitState ∧
      step fourSlots exitState (.runReturned false) = some exitedState ∧
      exitedState.polled = exitState.polled ++ [.exit] ∧ exitState.runtime.events = [] ∧
      ∀ slot, exitState.runtime.table.slots slot = none := by
  have run : (socketSystem fourSlots).exec State.init exitRun = some exitState :=
    (Option.some_get _).symm
  have polls : step fourSlots exitState (.runReturned false) = some exitedState :=
    (Option.some_get _).symm
  have returned : exitedState.polled = exitState.polled ++ [.exit] := by decide
  refine ⟨run, polls, returned, ?_⟩
  exact (exit_protocol fourSlots exitRun (.runReturned false) exitState exitedState run polls
    (by decide)).2.1 returned

/-- A call that starts after the exit event fails, and the entry that it discards
is again the last one: the poll returns the exit event a second time. -/
theorem exit_returned_twice :
    ∃ final, (socketSystem fourSlots).exec State.init
        [.api .exit .fine, .poll .fine, .wakeup, .command .fine, .exitStep, .exitStep, .exitStep,
          .exitStep, .exitStep, .commandsDone, .pumpDone, .runReturned false,
          .openCall (.connect (some "127.0.0.1") 80) 7 .fine, .worker 0 .fine, .worker 0 .fine,
          .worker 0 .fine, .worker 0 .fine, .worker 0 .fine, .worker 0 .fine, .poll .fine] =
        some final ∧
      final.polled = [.exit, .exit] :=
  ⟨_, (Option.some_get (by decide)).symm, by decide⟩

end Skyuv.Socket
