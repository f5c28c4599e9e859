import Skyuv.Socket.Tally

/-!
# When a socket reads

Reading is switched on by `connect_completed`, `process_bind` and
`process_start`, and off by `process_pause`, `process_close`, the end of the
stream and `uv_close`.  Each of them changes what libuv does, the flag `reading`
and the state one after the other; here the three are shown to agree.

`process_close` ignores the result of `uv_read_stop`.  The agreement therefore
rests on libuv's promise that this call stops the stream.
-/

set_option autoImplicit false

namespace Skyuv.Socket

open TransitionSystem

/-- A close command whose `uv_read_stop` does not stop the stream. -/
def unstopped (act : Act) (_ : Life) : Bool :=
  match act with
  | .command cmd env =>
      match cmd.body with
      | .close => env.uv .readStop ≠ 0
      | _ => false
  | _ => false

/-! ## The flag -/

namespace Life

variable {life after : Life} {act : Act} {env : Env}

/-- Until `uv_close`, the flag says whether libuv reads. -/
def Aligned (life : Life) : Prop := life.uvClosing = false → life.reading = life.uvReading

theorem aligned_shut (life : Life) : life.shut.Aligned := nofun

theorem Pumped.aligned (pumped : Pumped env life after) (aligned : life.Aligned) :
    after.Aligned := by
  cases pumped with
  | busy | empty | high | low => exact aligned
  | highFailed | lowFailed => exact aligned_shut _

theorem Resumed.aligned (resumed : Resumed env life after) (aligned : life.Aligned) :
    after.Aligned := by
  cases resumed with
  | drained => exact aligned_shut _
  | waiting | closing => exact aligned
  | pumped _ _ pumped => exact pumped.aligned aligned

theorem Move.aligned (move : Move act life after) (stops : unstopped act life = false)
    (aligned : life.Aligned) : after.Aligned := by
  cases move with
  | ignored | refused | aborted | listening | connecting | udpOpened | reported | queuedHigh
  | queuedLow | datagram | closedBare | pumpSkipped | scanned | scanDropped | readNothing | readData
  | udpNothing | udpData | datagramSent | connectLate | acceptError | acceptStalled | acceptTaken
  | acceptDone | accepted | acceptDropped | closed | tagged | discarded => exact aligned
  | rejected | startFailed | closedNow | scanShut | readFailed | udpFailed | connectFailed
  | acceptRejected => exact aligned_shut _
  | bound | started | paused | readEof | connected => exact fun _ => rfl
  | draining command env event close =>
      -- the one place where `uv_read_stop` is not asked for its result
      have stopped : env.uv .readStop = 0 := by simpa [unstopped, close] using stops
      intro _
      simp [emit, stopped]
  | pumped env state pumped => exact pumped.aligned aligned
  | written status env buffer rest warnings head fine plain resumed =>
      exact resumed.aligned aligned
  | writeFailed status env buffer rest event head fails state type resumed =>
      exact resumed.aligned (aligned_shut _)

theorem aligned_kept : Kept unstopped Aligned where
  fresh _ _ := fun _ => rfl
  accept _ _ := rfl
  move _ _ stops move aligned := move.aligned stops aligned

end Life

/-! ## `DATA` events -/

/-- The `DATA` events in a history. -/
def dataOf (log : List Obs) : List Event := eventsOf .data log

/-- Only a read callback pushes `DATA`. -/
theorem Act.run_dataOf {cfg : Config} {act : Act} {frame : Frame}
    (enabled : act.Enabled frame.entry.life) (unread : frame.entry.uvReading = false) :
    dataOf (act.run cfg frame).entry.log = dataOf frame.entry.log := by
  obtain ⟨tally, charged, result⟩ := act.run_charged cfg frame
  have told : (act.run cfg frame).entry.tally.data = tally.data := by
    rw [result]
    rfl
  refine told.trans ?_
  cases charged with
  | kept | written | accepted | tagged => rfl
  | datagram => exact List.append_nil _
  | read nread data env => cases unread.symm.trans enabled

namespace Life

variable {life after : Life} {act : Act} {env : Env}

/-- Nothing is read, and neither opening the handle nor a connection in progress
will change that. -/
def Hushed (life : Life) : Prop :=
  (life.freed = false → life.initialized = true) ∧ life.uvReading = false ∧
    life.state ≠ .connecting

theorem Pumped.hushed (pumped : Pumped env life after) (hushed : life.Hushed) : after.Hushed := by
  cases pumped with
  | busy | empty | high | low => exact hushed
  | highFailed | lowFailed => exact ⟨hushed.1, rfl, by simp [shut]⟩

theorem Resumed.hushed (resumed : Resumed env life after) (hushed : life.Hushed) :
    after.Hushed := by
  cases resumed with
  | drained => exact ⟨hushed.1, rfl, by simp [shut]⟩
  | waiting | closing => exact hushed
  | pumped _ _ pumped => exact pumped.hushed hushed

end Life

def Act.isStart : Act → Bool
  | .command cmd _ =>
      match cmd.body with
      | .start => true
      | _ => false
  | _ => false

namespace Life

variable {life after : Life} {act : Act}

theorem Sound.hushed_of_paused (sound : life.Sound)
    (paused : life.state = .acceptedPaused ∨ life.state = .connectedPaused) : life.Hushed := by
  refine ⟨fun alive => sound.opened_of alive (by grind -ring -linarith), ?_,
    by grind -ring -linarith⟩
  by_contra reading
  have connected := sound.reading (by simpa using reading)
  grind -ring -linarith

/-- Only `start` makes a hushed socket read. -/
theorem Move.hushed (move : Move act life after) (enabled : act.Enabled life)
    (notStart : act.isStart = false) (hushed : life.Hushed) : after.Hushed := by
  obtain ⟨opened, unread, settled⟩ := hushed
  cases move with
  | ignored | refused | reported | queuedHigh | queuedLow | datagram | pumpSkipped | scanned
  | readNothing | readData | udpNothing | udpData | datagramSent | connectLate | acceptError
  | acceptStalled | acceptTaken | acceptDone | tagged => exact ⟨opened, unread, settled⟩
  | closed | scanDropped | discarded | acceptDropped | closedBare => exact ⟨nofun, unread, settled⟩
  | aborted _ _ _ _ _ _ bare | listening _ _ _ _ bare | connecting _ _ _ bare
  | bound _ _ _ _ bare | udpOpened _ _ _ bare | accepted _ bare =>
      cases bare.symm.trans (opened enabled.1)
  | rejected | acceptRejected => exact ⟨fun _ => rfl, rfl, by simp [shut]⟩
  | startFailed | closedNow | scanShut | readFailed | udpFailed | connectFailed =>
      exact ⟨opened, rfl, by simp [shut]⟩
  | started command env event start => simp [Act.isStart, start] at notStart
  | paused => exact ⟨opened, rfl, by simp⟩
  | draining => exact ⟨opened, by simp [emit, unread], settled⟩
  | readEof => exact ⟨opened, rfl, by simp [emit]⟩
  | connected status env event state => exact absurd state settled
  | pumped env state pumped => exact pumped.hushed ⟨opened, unread, settled⟩
  | written status env buffer rest warnings head fine plain resumed =>
      exact resumed.hushed ⟨opened, unread, settled⟩
  | writeFailed status env buffer rest event head fails state type resumed =>
      exact resumed.hushed ⟨opened, rfl, by simp [shut]⟩

/-- The socket has not been opened, or it was accepted and not yet started. -/
def Unstarted (life : Life) : Prop := life.initialized = false ∨ life.state = .acceptedPaused

theorem Move.unstarted (move : Move act life after) (unstarted : after.Unstarted) :
    life.Unstarted := by
  unfold Unstarted at unstarted ⊢
  cases move with
  | pumped env state pumped =>
      have same := pumped.state
      have opened := pumped.initialized
      grind -ring -linarith
  | written status env buffer rest warnings head fine plain resumed =>
      have same := resumed.state
      have opened := resumed.initialized
      grind -ring -linarith [emit, complete]
  | writeFailed status env buffer rest event head fails state type resumed =>
      have same := resumed.state
      have opened := resumed.initialized
      grind -ring -linarith [emit, complete, shut]
  | _ => grind -ring -linarith [emit, shut, drop]

end Life

theorem undelivered_kept (cfg : Config) : Entry.Kept cfg (fun _ _ => false) fun entry =>
    entry.life.Unstarted → dataOf entry.log = [] where
  fresh _ _ := fun _ => rfl
  accept _ _ := rfl
  run := by
    intro act frame sound enabled _ undelivered unstarted
    have before := (act.run_move cfg frame enabled sound).unstarted unstarted
    have silent : frame.entry.uvReading = false := by
      rcases before with bare | paused
      · exact (sound.bare bare).1.1
      · by_contra reading
        have connected := sound.reading (by simpa using reading)
        cases connected.symm.trans paused
    exact (Act.run_dataOf enabled silent).trans (undelivered before)

namespace State

/-- The step processes a `start` command for the entry at `key`. -/
def starts (cfg : Config) (key : Nat) (state : State) (label : Label) : Bool :=
  match state.target cfg label with
  | some (found, act) => found == key && act.isStart
  | none => false

variable {cfg : Config} {state final : State} {key : Nat} {entry : Entry}

theorem hushed_until_start {labels : List Label} {origin : List Event}
    (reached : (socketSystem cfg).Reachable state) (at_key : state.entries[key]? = some entry)
    (before : entry.life.Hushed ∧ dataOf entry.log = origin)
    (along : (socketSystem cfg).Along (fun state label => state.starts cfg key label = false) state
      labels)
    (run : (socketSystem cfg).exec state labels = some final) :
    ∃ after, final.entries[key]? = some after ∧ after.life.Hushed ∧ dataOf after.log = origin := by
  refine follow_acts ?_ reached at_key before along run
  intro state label act frame reached at_key target notStart enabled before
  have other : act.isStart = false := by simpa [starts, target] using notStart
  have move := act.run_move cfg frame enabled ((wf_reachable reached).sound key _ at_key)
  exact ⟨move.hushed enabled other before.1,
    (Act.run_dataOf enabled before.1.2.1).trans before.2⟩

end State

/-- In every run: libuv reads from a socket only while it is `CONNECTED`; an
accepted socket that was not started has no `DATA` event; a `pause` that stops
the stream leaves the socket paused; a socket that is paused, or accepted and not
started, gets no further `DATA` event until a `start` command for it is
processed; and if `uv_read_stop` has stopped the stream in every close command,
the flag in a snapshot says whether libuv reads. -/
theorem reading_gated (cfg : Config) (labels : List Label) (final : State)
    (run : (socketSystem cfg).exec State.init labels = some final) :
    (∀ (key : Nat) (entry : Entry), final.entries[key]? = some entry →
      (entry.uvReading = true → entry.state = .connected) ∧
      (entry.state = .acceptedPaused → dataOf entry.log = [])) ∧
    (∀ label next (key : Nat) (entry : Entry) cmd env, step cfg final label = some next →
      final.target cfg label = some (key, .command cmd env) →
      final.entries[key]? = some entry → cmd.body = .pause → entry.state = .connected →
      env.uv .readStop = 0 →
      ∃ after, next.entries[key]? = some after ∧ after.state = .connectedPaused) ∧
    (∀ (key : Nat) (entry : Entry) more last, final.entries[key]? = some entry →
      entry.state = .acceptedPaused ∨ entry.state = .connectedPaused →
      (socketSystem cfg).Along (fun state label => state.starts cfg key label = false) final more →
      (socketSystem cfg).exec final more = some last →
      ∃ after, last.entries[key]? = some after ∧ dataOf after.log = dataOf entry.log) ∧
    ((socketSystem cfg).Along (fun state label => state.spares cfg unstopped label = true)
        State.init labels →
      ∀ alloc, ∀ info ∈ final.info cfg alloc, ∃ key entry, final.InTable key entry ∧
        info = entry.info ∧ (entry.state ≠ .closing → info.reading = entry.uvReading)) := by
  have reached : (socketSystem cfg).Reachable final := ⟨labels, run⟩
  have wf := State.wf_reachable reached
  refine ⟨?_, ?_, ?_, ?_⟩
  · intro key entry at_key
    have undelivered := State.everywhere_reachable (undelivered_kept cfg) reached key entry at_key
    exact ⟨(wf.sound key entry at_key).reading, fun accepted => undelivered (.inr accepted)⟩
  · intro label next key entry cmd env first target at_key pause connected stops
    obtain ⟨-, runtime, at_next⟩ := (wf.of_step first).1.performs wf target rfl at_key
    exact ⟨_, at_next, by simp [Act.run, Frame.runCommand, pause, Frame.processPause, connected,
      stops, Frame.setEntryState]⟩
  · intro key entry more last at_key paused notStarted onward
    have hushed := (wf.sound key entry at_key).hushed_of_paused paused
    obtain ⟨after, at_after, -, same⟩ :=
      State.hushed_until_start reached at_key ⟨hushed, rfl⟩ notStarted onward
    exact ⟨after, at_after, same⟩
  · intro stops alloc info found
    obtain ⟨key, entry, inTable, -, rfl⟩ := State.mem_info found
    have aligned : entry.life.Aligned :=
      State.throughout_run Life.aligned_kept stops run key entry inTable.1
    refine ⟨key, entry, inTable, rfl, fun open_ => aligned ?_⟩
    by_contra closing
    exact open_ ((wf.sound key entry inTable.1).closing.mp (by simpa using closing))

/-- A connected socket receives three bytes and is paused. -/
def pauseRun : List Label :=
  connectRun ++ ([.api (.pause 4 7) .fine, .poll .fine, .readCompleted 0 3 [1, 2, 3] .fine, .wakeup,
    .command .fine, .commandsDone, .pumpDone] : List Label)

def pausedState : State := ((socketSystem fourSlots).exec State.init pauseRun).get (by decide)

def pausedEntry : Entry := pausedState.entries[0]?.get (by decide)

/-- A close of the paused socket, up to its close callback. -/
def closePausedRun : List Label :=
  [.runReturned false, .api (.close 4 7) .fine, .poll .fine, .wakeup, .command .fine,
    .commandsDone, .pumpDone, .closeEntry 0]

theorem reading_gated_pause :
    pausedEntry.state = .connectedPaused ∧
      dataOf pausedEntry.log = [⟨.data, 4, 7, 0, [1, 2, 3], 3⟩] ∧
      (∃ last after, (socketSystem fourSlots).exec pausedState closePausedRun = some last ∧
        last.entries[0]? = some after ∧ dataOf after.log = dataOf pausedEntry.log) ∧
      ∀ info ∈ pausedState.info fourSlots fun _ => true, ∃ key entry,
        pausedState.InTable key entry ∧ info = entry.info ∧
          (entry.state ≠ .closing → info.reading = entry.uvReading) := by
  obtain ⟨-, -, calm, flags⟩ := reading_gated fourSlots pauseRun pausedState
    (Option.some_get _).symm
  refine ⟨by decide, by decide, ?_, flags (by decide) _⟩
  obtain ⟨last, onward⟩ :
      ∃ last, (socketSystem fourSlots).exec pausedState closePausedRun = some last :=
    Option.isSome_iff_exists.mp (by decide)
  obtain ⟨after, at_after, same⟩ := calm 0 pausedEntry closePausedRun last (Option.some_get _).symm
    (.inr (by decide)) (by decide) onward
  exact ⟨last, after, onward, at_after, same⟩

end Skyuv.Socket
