import Mathlib.Algebra.Order.BigOperators.Group.List
import Skyuv.Socket.Ending
import Skyuv.Socket.Info

/-!
# Following one entry

A run is followed from the point of view of one entry: every step either leaves it
alone or performs the act that `target` names, and what the acts emit adds up along
the run.  The counters of an entry, its warning threshold and its external descriptor
are the first thing that is followed: `Act.run_charged` says for every act what it does
to them.
-/

set_option autoImplicit false

namespace Skyuv.Socket

open TransitionSystem

/-! ## One step, seen from an entry -/

/-- The acts of a worker thread, which a freed entry can prevent. -/
def Act.ofWorker : Act → Bool
  | .setExternalFd _ | .freeEntry => true
  | _ => false

theorem Frame.Yields.clock {before after : Frame} {runtime : Shared} {freed listed : Bool}
    (yields : Frame.Yields before after runtime freed listed) :
    after.runtime.currentTime = runtime.currentTime := by
  have same : after.runtime.still.currentTime = runtime.still.currentTime := by rw [yields.still]
  exact same

/-- No act sets the clock. -/
theorem Act.run_currentTime (cfg : Config) (act : Act) (frame : Frame) :
    (act.run cfg frame).runtime.currentTime = frame.runtime.currentTime := by
  cases act.run_outcome cfg frame with
  | kept pump yields | unpumped env yields | listed command env unlisted yields
  | cleared slot yields | freed yields => exact yields.clock
  | unlinked unlinks yields =>
      obtain ⟨ready, same⟩ := updateExitReady_eq { frame.runtime with
        table := frame.runtime.table.unlink cfg frame.key frame.entry.id }
      rw [yields.clock, Frame.unlinkedRuntime, same]

namespace State

variable {cfg : Config} {state next final : State} {label : Label} {key : Nat} {entry : Entry}

/-- What a step does to the entry at `key`: nothing, or the act that `target` names. -/
inductive Follows (cfg : Config) (state : State) (label : Label) (key : Nat) (entry : Entry) :
    Entry → Prop
  | idle (untargeted : ∀ act, state.target cfg label = some (key, act) → act.ofWorker = true) :
      Follows cfg state label key entry entry
  | acted (act : Act) (runtime : Shared) (target : state.target cfg label = some (key, act))
      (enabled : act.Enabled entry.life)
      (clock : runtime.currentTime = state.runtime.currentTime) :
      Follows cfg state label key entry (act.run cfg ⟨key, entry, runtime⟩).entry

/-- An act at `place`, seen from the entry at `key`. -/
theorem Follows.focus {act : Act} {base : State} {place : Nat} {found : Entry}
    (at_key : base.entries[key]? = some entry) (at_place : base.entries[place]? = some found)
    (target : state.target cfg label = some (place, act)) (enabled : act.Enabled found.life)
    (clock : base.runtime.currentTime = state.runtime.currentTime) :
    ∃ after, (base.focus cfg place act).entries[key]? = some after ∧
      Follows cfg state label key entry after := by
  rw [focus_eq base at_place]
  rcases eq_or_ne key place with rfl | distinct
  · cases at_key.symm.trans at_place
    exact ⟨_, getElem?_set_here at_key, .acted act base.runtime target enabled clock⟩
  · refine ⟨entry, by rw [List.getElem?_set_ne distinct.symm]; exact at_key,
      .idle fun other same => ?_⟩
    cases target.symm.trans same
    exact absurd rfl distinct

theorem Stepped.follows (stepped : state.Stepped cfg label next) (wf : state.Wf cfg)
    (at_key : state.entries[key]? = some entry) :
    ∃ after, next.entries[key]? = some after ∧ Follows cfg state label key entry after := by
  have untargeted (kept : next.entries = state.entries) (none : state.target cfg label = none) :
      ∃ after, next.entries[key]? = some after ∧ Follows cfg state label key entry after := by
    refine ⟨entry, by rw [kept]; exact at_key, .idle fun act target => ?_⟩
    cases none.symm.trans target
  cases stepped with
  | called call env live called => exact untargeted called.entries rfl
  | opened call opaqueVal env live opened =>
      cases opened with
      | failed => exact untargeted rfl rfl
      | reserved slot cursor pc =>
          exact ⟨entry, getElem?_append_kept at_key, .idle fun act target => nomatch target⟩
  | @worker index env worker _ live at_index worked =>
      have target : state.target cfg (.worker index env) =
          (state.workerAct cfg worker).map fun act => (worker.key, act) := by
        simp only [State.target, at_index, Option.bind_some]
      rcases worked.entries with kept | ⟨act, found, acts, at_worker, enabled, result⟩
      · refine ⟨entry, by rw [kept]; exact at_key, .idle fun act isTarget => ?_⟩
        obtain ⟨_, acts, same⟩ := Option.map_eq_some_iff.mp (target.symm.trans isTarget)
        cases same
        rcases workerAct_cases acts with ⟨_, rfl⟩ | rfl
        · rfl
        · rfl
      · rw [result]
        exact Follows.focus at_key at_worker (by rw [target, acts, Option.map_some]) enabled rfl
  | polled polled => exact untargeted polled.kept.1 polled.target
  | moved moved => exact untargeted rfl moved.target
  | unknown cmd rest env consuming head plain missing =>
      exact untargeted rfl (by simp [State.target, head, missing])
  | exitBegun cmd rest env consuming head exit =>
      exact untargeted rfl (by simp [State.target, head, exit])
  | exitEnded slot scanning visited | releaseEnded slot scanning visited =>
      exact untargeted rfl (by simp [State.target, scanning, wf.slots_beyond visited])
  | signal | releaseDone => exact untargeted rfl rfl
  | acted target at_act enabled ready =>
      refine Follows.focus (ready.entries ▸ at_key) (ready.entries ▸ at_act) target enabled ?_
      cases ready <;> rfl
  | @accept listens status env listener running at_listener listening =>
      have target : state.target cfg (.acceptConnection listens status env) =
          some (listens, state.acceptAct cfg listener status env) := by
        simp only [State.target, at_listener, Option.map_some]
      have enabled : (state.acceptAct cfg listener status env).Enabled listener.life :=
        acceptAct_enabled listening status env
      obtain ⟨base, result, from_⟩ := state.acceptConnection_cases cfg listens listener status env
      rw [result]
      rcases from_ with ⟨-, rfl⟩ | ⟨cursor, rfl⟩ | ⟨slot, cursor, -, -, -, rfl⟩
      · exact Follows.focus at_key at_listener target enabled rfl
      · exact @Follows.focus cfg state _ key entry _ { state with runtime := { state.runtime with
          table := { state.runtime.table with nextSlot := cursor } } } _ _ at_key at_listener target
          enabled rfl
      · refine Follows.focus (accepted_kept at_key _ _ _ _) (accepted_kept at_listener _ _ _ _)
          target enabled ?_
        rw [focus_eq _ (state.reserved_last cfg listener.opaqueVal slot cursor)]
        exact Act.run_currentTime cfg _ _

/-- What every act of a guarded run keeps of one entry, the run keeps. -/
theorem follow_acts {good : State → Label → Prop} {holds : Entry → Prop}
    (keeps : ∀ {state : State} {label : Label} {act : Act} {frame : Frame},
      (socketSystem cfg).Reachable state → state.entries[key]? = some frame.entry →
      state.target cfg label = some (key, act) → good state label →
      act.Enabled frame.entry.life → holds frame.entry → holds (act.run cfg frame).entry)
    {labels : List Label} (reached : (socketSystem cfg).Reachable state)
    (at_key : state.entries[key]? = some entry) (before : holds entry)
    (along : (socketSystem cfg).Along good state labels)
    (run : (socketSystem cfg).exec state labels = some final) :
    ∃ after, final.entries[key]? = some after ∧ holds after := by
  induction labels generalizing state entry with
  | nil =>
      cases Option.some.inj run
      exact ⟨entry, at_key, before⟩
  | cons label rest ih =>
      obtain ⟨next, first, tail⟩ := System.exec_cons run
      have wf := wf_reachable reached
      obtain ⟨middle, at_middle, follows⟩ := (wf.of_step first).1.follows wf at_key
      refine ih (reached.next first) at_middle ?_ (along.2 next first) tail
      cases follows with
      | idle => exact before
      | acted act runtime target enabled => exact keeps reached at_key target along.1 enabled before

/-! ## What a run emits for an entry -/

/-- What the act of a step emits, if it works on the entry at `key`. -/
def emits {Output : Type} (emit : Act → Entry → List Output) (cfg : Config) (key : Nat)
    (state : State) (label : Label) : List Output :=
  match state.target cfg label with
  | none => []
  | some (found, act) => if found = key then (state.entries[key]?.map (emit act)).getD [] else []

variable {Output : Type} {emit : Act → Entry → List Output} {act : Act}

theorem emits_of_target (target : state.target cfg label = some (key, act))
    (at_key : state.entries[key]? = some entry) :
    state.emits emit cfg key label = emit act entry := by
  simp [emits, target, at_key]

theorem emits_of_absent (absent : state.entries[key]? = none) :
    state.emits emit cfg key label = [] := by
  unfold emits
  split
  · rfl
  · simp [absent]

/-- A step that leaves the entry alone emits nothing for it. -/
theorem emits_of_idle (quiet : ∀ act entry, act.ofWorker = true → emit act entry = [])
    (at_key : state.entries[key]? = some entry)
    (untargeted : ∀ act, state.target cfg label = some (key, act) → act.ofWorker = true) :
    state.emits emit cfg key label = [] := by
  by_cases acts : ∃ act, state.target cfg label = some (key, act)
  · obtain ⟨act, target⟩ := acts
    rw [emits_of_target target at_key]
    exact quiet act entry (untargeted act target)
  · unfold emits
    split
    · rfl
    · rename_i found act target
      rw [if_neg]
      rintro rfl
      exact acts ⟨act, target⟩

/-- A property of the entry at `key` and of what was emitted for it. -/
def Carries (inv : List Output → Entry → Prop) (key : Nat) (told : List Output) (state : State) :
    Prop :=
  (state.entries[key]? = none → told = []) ∧
    ∀ entry, state.entries[key]? = some entry → inv told entry

section

variable {inv : List Output → Entry → Prop}
  (quiet : ∀ act entry, act.ofWorker = true → emit act entry = [])
  (start : ∀ id opaqueVal, inv [] (Entry.fresh id opaqueVal))
  (silent : ∀ env entry, emit (.acceptInto env) entry = [])
  (acts : ∀ told act frame, frame.entry.life.Sound → act.Enabled frame.entry.life →
    inv told frame.entry → inv (told ++ emit act frame.entry) (act.run cfg frame).entry)

include quiet start silent acts

theorem Carries.of_step {told : List Output} (wf : state.Wf cfg)
    (carries : state.Carries inv key told) (run : step cfg state label = some next) :
    next.Carries inv key (told ++ state.emits emit cfg key label) := by
  have stepped := (wf.of_step run).1
  cases at_key : state.entries[key]? with
  | none =>
      rw [carries.1 at_key, emits_of_absent at_key]
      refine ⟨fun _ => rfl, fun after at_next => ?_⟩
      cases stepped.ran at_next with
      | unchanged at_same => cases at_key.symm.trans at_same
      | acted act runtime at_before => cases at_key.symm.trans at_before
      | reserved id opaqueVal isNew => exact start id opaqueVal
      | accepted id opaqueVal env runtime isNew =>
          have kept := acts [] (.acceptInto env) ⟨key, Entry.fresh id opaqueVal, runtime⟩
            (Entry.fresh_sound id opaqueVal) ⟨rfl, rfl⟩ (start id opaqueVal)
          rwa [silent] at kept
  | some entry =>
      obtain ⟨after, at_next, follows⟩ := stepped.follows wf at_key
      refine ⟨fun missing => (by cases missing.symm.trans at_next), fun found at_found => ?_⟩
      cases at_next.symm.trans at_found
      cases follows with
      | idle untargeted =>
          rw [emits_of_idle quiet at_key untargeted, List.append_nil]
          exact carries.2 entry at_key
      | acted act runtime target enabled =>
          rw [emits_of_target target at_key]
          exact acts told act ⟨key, entry, runtime⟩ (wf.sound key entry at_key) enabled
            (carries.2 entry at_key)

variable (emit inv)

/-- The rule for a property that ties an entry to what was emitted for it: a new
entry has it, and every act keeps it. -/
theorem emits_run {labels : List Label}
    (run : (socketSystem cfg).exec State.init labels = some final)
    (at_key : final.entries[key]? = some entry) :
    inv ((socketSystem cfg).outputs (emits emit cfg key) State.init labels) entry := by
  have along : (socketSystem cfg).Along (fun _ _ => True) State.init labels :=
    System.Along.of_forall (fun _ _ => trivial) _ _
  have whole : final.Carries inv key
      ((socketSystem cfg).outputs (emits emit cfg key) State.init labels) :=
    System.exec_outputs (emits emit cfg key) (fun told state => state.Carries inv key told)
      (fun told state label next reached carries _ step =>
        carries.of_step quiet start silent acts (wf_reachable reached) step)
      .start ⟨fun _ => rfl, by simp [socketSystem, State.init]⟩ along run
  exact whole.2 entry at_key

end

end State

/-! ## The counters of an entry -/

/-- The payload of a `DATA` or `UDP` event. -/
def Obs.received : Obs → Nat
  | .event _ told => if told.type = .data ∨ told.type = .udp then told.size else 0
  | _ => 0

def Obs.isAccept : Obs → Bool
  | .event _ told => decide (told.type = .accept)
  | _ => false

/-- About no bytes, no connection and no backlog. -/
def Obs.uncounted : Obs → Bool
  | .event _ told => decide (told.type ≠ .data ∧ told.type ≠ .udp ∧ told.type ≠ .accept ∧
      told.type ≠ .warning)
  | _ => true

def receivedBytes (log : List Obs) : Nat := (log.map Obs.received).sum

def acceptEvents (log : List Obs) : Nat := log.countP Obs.isAccept

/-- The events of one type in a history. -/
def eventsOf (type : EventType) (log : List Obs) : List Event :=
  log.filterMap fun
    | .event _ told => if told.type = type then some told else none
    | _ => none

/-- The values of the `WARNING` events in a history. -/
def warningsOf (log : List Obs) : List Int := (eventsOf .warning log).map Event.value

@[simp]
theorem receivedBytes_append (first second : List Obs) :
    receivedBytes (first ++ second) = receivedBytes first + receivedBytes second := by
  simp [receivedBytes]

@[simp]
theorem acceptEvents_append (first second : List Obs) :
    acceptEvents (first ++ second) = acceptEvents first + acceptEvents second :=
  List.countP_append

@[simp]
theorem eventsOf_append (type : EventType) (first second : List Obs) :
    eventsOf type (first ++ second) = eventsOf type first ++ eventsOf type second :=
  List.filterMap_append

/-- The counters of an entry beside what its history says about them, with its threshold
and the descriptor that it was bound to. -/
structure Tally where
  externalFd : Int
  readBytes : Nat
  writeBytes : Nat
  readTime : Nat
  writeTime : Nat
  acceptCount : Nat
  received : Nat
  accepts : Nat
  data : List Event
  warnSize : Nat
  warnings : List Int

def Entry.tally (entry : Entry) : Tally where
  externalFd := entry.externalFd
  readBytes := entry.readBytes
  writeBytes := entry.writeBytes
  readTime := entry.readTime
  writeTime := entry.writeTime
  acceptCount := entry.acceptCount
  received := receivedBytes entry.log
  accepts := acceptEvents entry.log
  data := eventsOf .data entry.log
  warnSize := entry.warnSize
  warnings := warningsOf entry.log

/-! ### Which act warns -/

/-- `process_send` reaches the line that counts the bytes. -/
def Entry.takesSend (env : Env) (entry : Entry) : Bool :=
  (entry.state = .connected || entry.state = .connectedPaused || entry.state = .halfcloseRead) &&
    !entry.closeRequested && env.node

/-- `INT_MAX` or the backlog in units of 1024 bytes, rounded up. -/
def warningValue (queued : Nat) : Int := min ((queued + 1023) / 1024 : Nat) intMax

def Entry.sendWarning (size : Nat) (entry : Entry) : List Int :=
  if entry.queuedBytes + size ≥ warningSize ∧ entry.queuedBytes + size ≥ entry.warnSize then
    [warningValue (entry.queuedBytes + size)]
  else []

/-- The warning of `write_completed`, whose first lines close the entry when the
write has failed. -/
def Entry.recoveryWarning (status : Int) (entry : Entry) : List Int :=
  match entry.uvWrites with
  | [] => []
  | buffer :: _ =>
      if entry.queuedBytes - buffer.size = 0 ∧ entry.warnSize > 0 ∧ entry.state ≠ .closing ∧
          status = 0 then [0]
      else []

/-- The values for which an act calls `push_event` with `WARNING`. -/
def Act.warns : Act → Entry → List Int
  | .command cmd env, entry =>
      match cmd.body with
      | .send payload | .sendLow payload =>
          if entry.takesSend env then entry.sendWarning payload.buffer.size else []
      | _ => []
  | .writeCompleted status _, entry => entry.recoveryWarning status
  | _, _ => []

/-- `calloc` of a `WARNING` event succeeds in the act. -/
def Act.delivers : Act → Bool
  | .command _ env | .writeCompleted _ env => env.event .warning
  | _ => true

/-- `warn_size` after an act that has warned so. -/
def rethreshold (warnSize : Nat) : List Int → Nat
  | [] => warnSize
  | value :: _ =>
      if value = 0 then 0
      else if warnSize = 0 then warningSize * 2
      else warnSize * 2 % 18446744073709551616

theorem warningValue_pos {queued : Nat} (enough : queued ≥ warningSize) :
    0 < warningValue queued := by
  unfold warningValue intMax
  unfold warningSize at enough
  omega

theorem warningValue_eq (queued : Nat) :
    (if (((queued + 1023) / 1024 : Nat) : Int) > intMax then intMax
      else (((queued + 1023) / 1024 : Nat) : Int)) = warningValue queued := by
  unfold warningValue
  split <;> omega

namespace Tally

/-- `told` is the `DATA` event of a stream. -/
def receive (told : List Event) (size clock : Nat) (tally : Tally) : Tally :=
  { tally with
    readBytes := (tally.readBytes + size) % uint64Size
    readTime := clock
    received := tally.received + size
    data := tally.data ++ told }

def write (size clock : Nat) (tally : Tally) : Tally :=
  { tally with writeBytes := (tally.writeBytes + size) % uint64Size, writeTime := clock }

/-- `told` says whether the `ACCEPT` event found memory. -/
def accept (told : Bool) (clock : Nat) (tally : Tally) : Tally :=
  { tally with
    acceptCount := (tally.acceptCount + 1) % uint64Size
    readTime := clock
    accepts := tally.accepts + told.toNat }

/-- `delivered` says whether the `WARNING` events found memory. -/
def warn (delivered : Bool) (told : List Int) (tally : Tally) : Tally :=
  { tally with
    warnSize := rethreshold tally.warnSize told
    warnings := tally.warnings ++ if delivered then told else [] }

@[simp]
theorem warn_nil (delivered : Bool) (tally : Tally) : tally.warn delivered [] = tally := by
  simp [warn, rethreshold]

end Tally

namespace Frame

variable {cfg : Config} {env : Env} {frame : Frame}

theorem tally_log (entry : Entry) {observations : List Obs}
    (quiet : ∀ obs ∈ observations, obs.uncounted = true) :
    { entry with log := entry.log ++ observations }.tally = entry.tally := by
  have bytes : receivedBytes observations = 0 := by
    rw [receivedBytes, List.sum_eq_zero_iff]
    intro size member
    obtain ⟨obs, found, rfl⟩ := List.mem_map.mp member
    have silent := quiet obs found
    cases obs <;> simp_all [Obs.uncounted, Obs.received]
  have accepts : acceptEvents observations = 0 := by
    rw [acceptEvents, List.countP_eq_zero]
    intro obs found
    have silent := quiet obs found
    cases obs <;> simp_all [Obs.uncounted, Obs.isAccept]
  have none (type : EventType) (counted : type = .data ∨ type = .warning) :
      eventsOf type observations = [] := by
    rw [eventsOf, List.filterMap_eq_nil_iff]
    intro obs found
    have silent := quiet obs found
    cases obs <;> rcases counted with rfl | rfl <;> simp_all [Obs.uncounted]
  simp only [Entry.tally, warningsOf, receivedBytes_append, acceptEvents_append, eventsOf_append,
    bytes, accepts, none .data (.inl rfl), none .warning (.inr rfl), Nat.add_zero, List.append_nil]

theorem tally_pushEvent {type : EventType}
    (other : type ≠ .data ∧ type ≠ .udp ∧ type ≠ .accept ∧ type ≠ .warning) (site : Site) (id : Int)
    (opaqueVal : Nat) (value : Int) :
    (frame.pushEvent env site type id opaqueVal value).entry.tally = frame.entry.tally := by
  refine tally_log _ fun obs member => ?_
  cases Life.mem_eventObs member
  simpa [Obs.uncounted] using other

theorem tally_setEntryState (state : SocketState) :
    (frame.setEntryState state).entry.tally = frame.entry.tally := rfl

theorem tally_uvClose : frame.uvClose.entry.tally = frame.entry.tally :=
  tally_log frame.entry (by simp [Obs.uncounted])

theorem tally_discardUninitializedEntry :
    (frame.discardUninitializedEntry cfg).entry.tally = frame.entry.tally :=
  tally_log frame.entry (by simp [Obs.uncounted])

theorem tally_closeEntry : (frame.closeEntry cfg).entry.tally = frame.entry.tally :=
  tally_log frame.entry (by simp [Obs.uncounted])

theorem tally_shut : (frame.setEntryState .closing).uvClose.entry.tally = frame.entry.tally :=
  tally_uvClose

theorem tally_rejectEntry (error : Int) :
    (frame.rejectEntry env error).entry.tally = frame.entry.tally :=
  tally_shut.trans (tally_pushEvent (by decide) _ _ _ _)

theorem tally_failUninitialized (error : Int) :
    (frame.failUninitialized cfg env error).entry.tally = frame.entry.tally :=
  tally_discardUninitializedEntry.trans (tally_pushEvent (by decide) _ _ _ _)

theorem tally_cacheTcpName (name : Option TcpName) :
    (frame.cacheTcpName name).entry.tally = frame.entry.tally := by
  cases name <;> rfl

theorem tally_startReading : (frame.startReading env).entry.tally = frame.entry.tally := by
  unfold startReading
  split <;> rfl

theorem tally_finishEntry (value : Int) :
    (frame.finishEntry env .error value).entry.tally = frame.entry.tally := by
  unfold finishEntry
  split
  · rfl
  · exact tally_shut.trans (tally_pushEvent (by decide) _ _ _ _)

theorem tally_closeAfterWrites : frame.closeAfterWrites.entry.tally = frame.entry.tally := by
  unfold closeAfterWrites
  split
  · rfl
  · exact tally_shut

theorem tally_submitWrite (low : Bool) (buffer : Buffer) :
    (frame.submitWrite env low buffer).entry.tally = frame.entry.tally := by
  have noted : (frame.note [.uvWrite low buffer (env.uv .write)]).entry.tally = frame.entry.tally :=
    tally_log frame.entry (by simp [Obs.uncounted])
  unfold submitWrite
  dsimp only
  repeat' split
  · exact noted
  · exact tally_shut.trans noted
  · exact (tally_finishEntry _).trans noted

theorem tally_pumpWrite : (frame.pumpWrite env).entry.tally = frame.entry.tally := by
  unfold pumpWrite
  repeat' split
  · rfl
  · exact tally_submitWrite _ _
  · exact tally_submitWrite _ _
  · rfl

/-- A `WARNING` event, apart from the threshold. -/
theorem tally_warned (id : Int) (opaqueVal : Nat) (value : Int) :
    (frame.pushEvent env .other .warning id opaqueVal value).entry.tally =
      { frame.entry.tally with
        warnings := frame.entry.tally.warnings ++ if env.event .warning then [value] else [] } := by
  cases told : env.event .warning <;>
    simp [pushEvent, eventObs, told, Entry.tally, receivedBytes, acceptEvents, warningsOf, eventsOf,
      Obs.received, Obs.isAccept]

theorem tally_writeFailed (status : Int) :
    (frame.writeFailed env status).entry.tally = frame.entry.tally := by
  unfold writeFailed
  repeat' split
  · exact tally_shut
  · exact tally_finishEntry _
  · rfl

theorem tally_writeRecovered :
    (frame.writeRecovered env).entry.tally = frame.entry.tally.warn (env.event .warning)
      (if frame.entry.queuedBytes = 0 ∧ frame.entry.warnSize > 0 ∧ frame.entry.state ≠ .closing
        then [0] else []) := by
  unfold writeRecovered
  split
  · rw [tally_warned]
    rfl
  · exact (Tally.warn_nil _ _).symm

theorem tally_resumeWrites : (frame.resumeWrites env).entry.tally = frame.entry.tally := by
  unfold resumeWrites
  repeat' split
  · exact tally_closeAfterWrites
  · exact tally_pumpWrite
  · rfl

theorem tally_connectCompleted (status : Int) :
    (frame.connectCompleted env status).entry.tally = frame.entry.tally := by
  unfold connectCompleted
  dsimp only
  repeat' split
  · rfl
  · exact tally_rejectEntry _
  · exact (tally_rejectEntry _).trans tally_startReading
  · exact (tally_pushEvent (by decide) _ _ _ _).trans
      ((tally_cacheTcpName _).trans tally_startReading)

theorem tally_acceptInto : (frame.acceptInto cfg env).entry.tally = frame.entry.tally := by
  unfold acceptInto
  dsimp only
  repeat' split
  · exact tally_discardUninitializedEntry
  · exact tally_rejectEntry _
  · exact tally_cacheTcpName _

theorem tally_processListen (host : String) (port : Int) :
    (frame.processListen cfg env host port).entry.tally = frame.entry.tally := by
  unfold processListen
  repeat' split
  · rfl
  · exact tally_failUninitialized _
  · exact tally_failUninitialized _
  · exact tally_rejectEntry _
  · exact tally_rejectEntry _
  · exact (tally_pushEvent (by decide) _ _ _ _).trans (tally_cacheTcpName _)

theorem tally_processConnect (host : String) (port : Int) :
    (frame.processConnect cfg env host port).entry.tally = frame.entry.tally := by
  unfold processConnect
  repeat' split
  · rfl
  · exact tally_failUninitialized _
  · exact tally_failUninitialized _
  · exact tally_rejectEntry _
  · rfl

theorem tally_processBind : (frame.processBind cfg env).entry.tally = frame.entry.tally := by
  unfold processBind
  repeat' split
  · rfl
  · rfl
  · exact tally_failUninitialized _
  · exact tally_rejectEntry _
  · exact (tally_rejectEntry _).trans tally_startReading
  · exact (tally_pushEvent (by decide) _ _ _ _).trans
      ((tally_cacheTcpName _).trans tally_startReading)

theorem tally_processUdp (host : String) (port : Int) :
    (frame.processUdp cfg env host port).entry.tally = frame.entry.tally := by
  unfold processUdp
  repeat' split
  · rfl
  · exact tally_failUninitialized _
  · exact tally_failUninitialized _
  · exact tally_rejectEntry _
  · exact tally_rejectEntry _
  · rfl

theorem tally_processUdpConnect (host : String) (port : Int) :
    (frame.processUdpConnect env host port).entry.tally = frame.entry.tally := by
  unfold processUdpConnect
  repeat' split
  all_goals rfl

theorem tally_processStart (command : Command) :
    (frame.processStart env command).entry.tally = frame.entry.tally := by
  unfold processStart
  repeat' split
  · exact tally_pushEvent (by decide) _ _ _ _
  · exact tally_pushEvent (by decide) _ _ _ _
  · exact (tally_rejectEntry _).trans tally_startReading
  · exact (tally_pushEvent (by decide) _ _ _ _).trans tally_startReading

theorem tally_processPause : (frame.processPause env).entry.tally = frame.entry.tally := by
  unfold processPause
  dsimp only
  repeat' split
  · rfl
  · exact tally_pushEvent (by decide) _ _ _ _
  · rfl

theorem tally_processUdpSend (command : Command) (payload : SendPayload) :
    (frame.processUdpSend env command payload).1.entry.tally = frame.entry.tally := by
  unfold processUdpSend
  repeat' split
  · exact tally_pushEvent (by decide) _ _ _ _
  · exact tally_pushEvent (by decide) _ _ _ _
  · exact tally_pushEvent (by decide) _ _ _ _
  · exact tally_pushEvent (by decide) _ _ _ _
  · rfl

theorem tally_countQueued (buffer : Buffer) :
    (frame.countQueued env buffer).entry.tally =
      frame.entry.tally.warn (env.event .warning) (frame.entry.sendWarning buffer.size) := by
  unfold countQueued
  dsimp only
  split
  · rename_i enough
    simp only [modify_entry] at enough
    have raised := warningValue_pos enough.1
    rw [tally_warned, Entry.sendWarning, if_pos enough]
    simp only [modify_entry, Entry.tally, Tally.warn, rethreshold, raised.ne', if_false]
    rw [← warningValue_eq]
    rfl
  · rename_i below
    simp only [modify_entry] at below
    rw [Entry.sendWarning, if_neg below, Tally.warn_nil]
    rfl

theorem tally_processSend (command : Command) (low : Bool) (payload : SendPayload) :
    (frame.processSend env command low payload).1.entry.tally =
      frame.entry.tally.warn (env.event .warning)
        (if frame.entry.takesSend env then
          frame.entry.sendWarning payload.buffer.size else []) := by
  have refused {after : Frame} (unable : frame.entry.takesSend env = false)
      (same : after.entry.tally = frame.entry.tally) : after.entry.tally =
        frame.entry.tally.warn (env.event .warning)
          (if frame.entry.takesSend env then
            frame.entry.sendWarning payload.buffer.size else []) := by
    simpa [unable] using same
  have listed (queued : Frame) : queued.listForPump.entry.tally = queued.entry.tally := by
    unfold listForPump
    split <;> rfl
  have written : (frame.queueWrite low payload.buffer).entry.tally = frame.entry.tally ∧
      (frame.queueWrite low payload.buffer).entry.sendWarning payload.buffer.size =
        frame.entry.sendWarning payload.buffer.size := by
    have noted : (frame.note [.queued low payload.buffer]).entry.tally = frame.entry.tally :=
      tally_log frame.entry (by simp [Obs.uncounted])
    cases low <;> exact ⟨noted, rfl⟩
  unfold processSend
  split
  · rename_i datagram
    exact refused (by simp [Entry.takesSend, datagram]) (tally_processUdpSend command payload)
  · split
    · rename_i unconnected
      exact refused (by simp [Entry.takesSend, unconnected]) (tally_pushEvent (by decide) _ _ _ _)
    · rename_i connected
      split
      · rename_i asked
        exact refused (by simp [Entry.takesSend, asked]) (tally_pushEvent (by decide) _ _ _ _)
      · rename_i unasked
        split
        · rename_i noMemory
          have unable : env.node = false := by simpa using noMemory
          exact refused (by simp [Entry.takesSend, unable]) (tally_pushEvent (by decide) _ _ _ _)
        · rename_i memory
          have takes : frame.entry.takesSend env = true := by
            simp only [Entry.takesSend, Bool.and_eq_true, Bool.or_eq_true, decide_eq_true_eq]
            exact ⟨⟨by grind -ring -linarith, by simpa using unasked⟩, by simpa using memory⟩
          rw [if_pos takes, listed, tally_countQueued, written.1, written.2]

theorem tally_requestClose : (frame.requestClose env).entry.tally = frame.entry.tally := rfl

theorem tally_processClose (command : Command) (isClose : Bool) :
    (frame.processClose cfg env command isClose).entry.tally = frame.entry.tally := by
  have announced : (frame.announceClose env command).entry.tally = frame.entry.tally := by
    have noted : (frame.note [.closeCommand command.opaqueVal]).entry.tally = frame.entry.tally :=
      tally_log frame.entry (by simp [Obs.uncounted])
    unfold announceClose
    dsimp only
    split
    · exact (tally_pushEvent (by decide) _ _ _ _).trans noted
    · exact noted
  unfold processClose
  dsimp only
  repeat' split
  · rfl
  · exact tally_discardUninitializedEntry.trans announced
  · exact tally_closeAfterWrites.trans (tally_requestClose.trans announced)
  · exact tally_shut.trans announced

theorem tally_runCommand (command : Command) :
    (frame.runCommand cfg env command).entry.tally =
      frame.entry.tally.warn (env.event .warning)
        ((Act.command command env).warns frame.entry) := by
  have calm : frame.entry.tally = frame.entry.tally.warn (env.event .warning) [] :=
    (Tally.warn_nil _ _).symm
  unfold runCommand
  dsimp only [Act.warns]
  cases command.body with
  | listen host port backlog => exact (tally_processListen host port).trans calm
  | connect host port => exact (tally_processConnect host port).trans calm
  | bind fd => exact tally_processBind.trans calm
  | udp host port => exact (tally_processUdp host port).trans calm
  | udpConnect host port => exact (tally_processUdpConnect host port).trans calm
  | udpSend payload => exact (tally_processUdpSend command payload).trans calm
  | start => exact (tally_processStart command).trans calm
  | pause => exact tally_processPause.trans calm
  | nodelay | exit => exact calm
  | send payload | sendLow payload => exact tally_processSend command _ payload
  | close | shutdown => exact (tally_processClose command _).trans calm

theorem tally_pumpRound : (frame.pumpRound env).entry.tally = frame.entry.tally := by
  unfold pumpRound
  dsimp only
  split
  · exact tally_pumpWrite
  · rfl

theorem tally_exitScan : (frame.exitScan cfg).entry.tally = frame.entry.tally := by
  unfold exitScan
  repeat' split
  · exact tally_discardUninitializedEntry
  · exact tally_shut
  · rfl

theorem tally_releaseScan (slot : Nat) :
    (frame.releaseScan slot).entry.tally = frame.entry.tally := by
  unfold releaseScan
  repeat' split
  · exact tally_shut
  · exact tally_log frame.entry (by simp [Obs.uncounted])
  · rfl

/-! The callbacks that count. -/

theorem tally_readCompleted (nread : Int) (data : List UInt8) :
    (frame.readCompleted env nread data).entry.tally = frame.entry.tally ∨
      ∃ told, (frame.readCompleted env nread data).entry.tally =
        frame.entry.tally.receive told nread.toNat frame.runtime.currentTime := by
  unfold readCompleted pushDataEvent
  dsimp only
  repeat' split
  · refine .inr ⟨[⟨.data, frame.entry.id, frame.entry.opaqueVal, 0, data, nread.toNat⟩], ?_⟩
    simp [Entry.tally, Tally.receive, receivedBytes, acceptEvents, warningsOf, eventsOf,
      Obs.received, Obs.isAccept]
  · exact .inl rfl
  · exact .inl rfl
  · exact .inl ((tally_setEntryState _).trans (tally_pushEvent (by decide) _ _ _ _))
  · exact .inl rfl
  · exact .inl (tally_finishEntry _)

theorem tally_udpReceived (nread : Int) (data : List UInt8) (address : Option SockAddr) :
    (frame.udpReceived env nread data address).entry.tally = frame.entry.tally ∨
      (frame.udpReceived env nread data address).entry.tally =
        frame.entry.tally.receive [] nread.toNat frame.runtime.currentTime := by
  unfold udpReceived
  repeat' split
  · exact .inl (tally_finishEntry _)
  · exact .inl rfl
  · right
    simp [Entry.tally, Tally.receive, receivedBytes, acceptEvents, warningsOf, eventsOf,
      Obs.received, Obs.isAccept]
  · exact .inl rfl

theorem tally_accountWrite (buffer : Buffer) :
    (frame.accountWrite buffer).entry.tally =
      frame.entry.tally.write buffer.size frame.runtime.currentTime := rfl

theorem currentTime_writeFailed (status : Int) :
    (frame.writeFailed env status).runtime.currentTime = frame.runtime.currentTime := by
  unfold writeFailed finishEntry
  repeat' split
  all_goals rfl

/-- A failed write closes the entry before its completion is accounted for. -/
theorem writeFailed_open_iff (status : Int) :
    (frame.writeFailed env status).entry.state ≠ .closing ↔
      frame.entry.state ≠ .closing ∧ status = 0 := by
  unfold writeFailed
  split
  · rename_i failed
    have closes : (if frame.entry.state = .halfcloseRead then (frame.setEntryState .closing).uvClose
        else frame.finishEntry env .error status).entry.state = .closing := by
      split
      · rfl
      · rw [finishEntry, if_neg failed.2]
        rfl
    simp [closes, failed.1]
  · rename_i fine
    constructor
    · intro open_
      exact ⟨open_, by_contra fun fails => fine ⟨fails, open_⟩⟩
    · exact And.left

theorem tally_writeCompleted (status : Int) {buffer : Buffer} {rest : List Buffer}
    (inFlight : frame.entry.uvWrites = buffer :: rest) :
    (frame.writeCompleted env status).entry.tally =
      (frame.entry.tally.write buffer.size frame.runtime.currentTime).warn (env.event .warning)
        (frame.entry.recoveryWarning status) := by
  simp only [writeCompleted, inFlight]
  generalize noted : (frame.modify fun entry => { entry with uvWrites := rest }).note
    [.completed buffer status] = start
  have same : start.entry.tally = frame.entry.tally := by
    rw [← noted]
    exact tally_log frame.entry (by simp [Obs.uncounted])
  have kept : start.entry.queuedBytes = frame.entry.queuedBytes ∧
      start.entry.state = frame.entry.state ∧ start.runtime = frame.runtime := by
    rw [← noted]
    exact ⟨rfl, rfl, rfl⟩
  have failed : (start.writeFailed env status).entry.tally = frame.entry.tally :=
    (tally_writeFailed status).trans same
  have warnSize : (start.writeFailed env status).entry.warnSize = frame.entry.warnSize :=
    congrArg Tally.warnSize failed
  rw [tally_resumeWrites, tally_writeRecovered, tally_accountWrite, failed,
    currentTime_writeFailed, kept.2.2]
  simp only [accountWrite, releaseWrite, modify_entry, warnSize, writeFailed_queuedBytes, kept.1,
    writeFailed_open_iff, kept.2.1, Entry.recoveryWarning, inFlight]

theorem tally_udpWriteCompleted (index : Nat) (status : Int) {buffer : Buffer}
    (inFlight : frame.entry.uvUdpSends[index]? = some buffer) :
    (frame.udpWriteCompleted env index status).entry.tally =
      frame.entry.tally.write buffer.size frame.runtime.currentTime := by
  simp only [udpWriteCompleted, inFlight]
  split
  · exact congrArg (Tally.write buffer.size frame.runtime.currentTime)
      (tally_pushEvent (by decide) _ _ _ _)
  · rfl

theorem tally_acceptDone (accepted : Int) :
    (frame.acceptTaken.acceptDone env accepted).entry.tally =
      frame.entry.tally.accept (env.event .accept) frame.runtime.currentTime := by
  cases told : env.event .accept with
  | false | true =>
      simp [acceptDone, acceptTaken, note, pushEvent, eventObs, told, Entry.tally, Tally.accept,
        receivedBytes, acceptEvents, warningsOf, eventsOf, Obs.received, Obs.isAccept]

end Frame

/-- What was settled for an entry: the completion of a write or a datagram, or a
connection that a listener took, with whether its `ACCEPT` event found memory. -/
inductive Traffic where
  | written (size : Nat) (status : Int)
  | accepted (told : Bool)
  deriving DecidableEq, Repr

def Act.traffic (entry : Entry) : Act → List Traffic
  | .writeCompleted status _ => (entry.uvWrites.head?.map fun buffer =>
      Traffic.written buffer.size status).toList
  | .udpWriteCompleted index status _ => (entry.uvUdpSends[index]?.map fun buffer =>
      Traffic.written buffer.size status).toList
  | .acceptDone _ env => [.accepted (env.event .accept)]
  | _ => []

/-- What an act enters into the counters of its entry. -/
inductive Tally.Charged (clock : Nat) (entry : Entry) : Act → Tally → Prop
  | kept (act : Act) (silent : act.traffic entry = []) (untagged : ∀ fd, act ≠ .setExternalFd fd) :
      Charged clock entry act entry.tally
  | read (nread : Int) (data : List UInt8) (env : Env) (told : List Event) :
      Charged clock entry (.readCompleted nread data env)
        (entry.tally.receive told nread.toNat clock)
  | datagram (nread : Int) (data : List UInt8) (address : Option SockAddr) (env : Env) :
      Charged clock entry (.udpReceived nread data address env)
        (entry.tally.receive [] nread.toNat clock)
  | written (act : Act) (size : Nat) (status : Int)
      (settled : act.traffic entry = [.written size status])
      (untagged : ∀ fd, act ≠ .setExternalFd fd) :
      Charged clock entry act (entry.tally.write size clock)
  | accepted (accepted : Int) (env : Env) :
      Charged clock entry (.acceptDone accepted env)
        (entry.tally.accept (env.event .accept) clock)
  | tagged (fd : Int) :
      Charged clock entry (.setExternalFd fd) { entry.tally with externalFd := fd }

/-- Warnings are no traffic. -/
theorem Tally.Charged.calm {clock : Nat} {entry : Entry} {act : Act} {after : Tally}
    (charged : Charged clock entry act after) :
    after.warnSize = entry.warnSize ∧ after.warnings = warningsOf entry.log := by
  cases charged <;> exact ⟨rfl, rfl⟩

theorem Act.run_charged (cfg : Config) (act : Act) (frame : Frame) :
    ∃ tally, Tally.Charged frame.runtime.currentTime frame.entry act tally ∧
      (act.run cfg frame).entry.tally = tally.warn act.delivers (act.warns frame.entry) := by
  have keeps {other : Act} (silent : other.traffic frame.entry = [])
      (untagged : ∀ fd, other ≠ .setExternalFd fd) (calm : other.warns frame.entry = [])
      (same : (other.run cfg frame).entry.tally = frame.entry.tally) :
      ∃ tally, Tally.Charged frame.runtime.currentTime frame.entry other tally ∧
        (other.run cfg frame).entry.tally = tally.warn other.delivers
          (other.warns frame.entry) := by
    rw [same, calm]
    exact ⟨_, .kept other silent untagged, (Tally.warn_nil _ _).symm⟩
  cases act with
  | command cmd env => exact ⟨_, .kept _ rfl nofun, Frame.tally_runCommand cmd⟩
  | pump env => exact keeps rfl nofun rfl Frame.tally_pumpRound
  | exitScan => exact keeps rfl nofun rfl Frame.tally_exitScan
  | releaseScan slot => exact keeps rfl nofun rfl (Frame.tally_releaseScan slot)
  | connectCompleted status env => exact keeps rfl nofun rfl (Frame.tally_connectCompleted status)
  | acceptError status env =>
      exact keeps rfl nofun rfl (Frame.tally_pushEvent (by decide) _ _ _ _)
  | acceptStalled => exact keeps rfl nofun rfl rfl
  | acceptTaken | freeEntry =>
      exact keeps rfl nofun rfl (Frame.tally_log frame.entry (by simp [Obs.uncounted]))
  | acceptInto env => exact keeps rfl nofun rfl Frame.tally_acceptInto
  | closeEntry => exact keeps rfl nofun rfl Frame.tally_closeEntry
  | readCompleted nread data env =>
      rcases frame.tally_readCompleted nread data with same | ⟨told, received⟩
      · exact keeps rfl nofun rfl same
      · exact ⟨_, .read nread data env told, received.trans (Tally.warn_nil _ _).symm⟩
  | udpReceived nread data address env =>
      rcases frame.tally_udpReceived nread data address with same | received
      · exact keeps rfl nofun rfl same
      · exact ⟨_, .datagram nread data address env, received.trans (Tally.warn_nil _ _).symm⟩
  | writeCompleted status env =>
      cases inFlight : frame.entry.uvWrites with
      | nil =>
          refine keeps (by simp [Act.traffic, inFlight]) nofun ?_ ?_
          · simp [Act.warns, Entry.recoveryWarning, inFlight]
          · simp only [Act.run, Frame.writeCompleted, inFlight]
      | cons buffer rest =>
          exact ⟨_, .written _ _ status (by simp [Act.traffic, inFlight]) nofun,
            Frame.tally_writeCompleted status inFlight⟩
  | udpWriteCompleted index status env =>
      cases inFlight : frame.entry.uvUdpSends[index]? with
      | none =>
          refine keeps (by simp [Act.traffic, inFlight]) nofun rfl ?_
          simp only [Act.run, Frame.udpWriteCompleted, inFlight]
      | some buffer =>
          exact ⟨_, .written _ _ status (by simp [Act.traffic, inFlight]) nofun,
            (Frame.tally_udpWriteCompleted index status inFlight).trans (Tally.warn_nil _ _).symm⟩
  | acceptDone accepted env =>
      exact ⟨_, .accepted accepted env,
        (Frame.tally_acceptDone accepted).trans (Tally.warn_nil _ _).symm⟩
  | setExternalFd fd => exact ⟨_, .tagged fd, (Tally.warn_nil _ _).symm⟩

end Skyuv.Socket
