import Mathlib.Algebra.Order.BigOperators.Group.List
import Skyuv.Socket.CloseOnce
import Skyuv.Socket.Tally
import Skyuv.Socket.WriteOrder

/-!
# Draining the writes of a socket that closes

A close of a socket with pending writes sets `close_requested` and leaves the
handle open until they are done.  The pump loop hands the first of them to libuv.
When it completes, `write_completed` closes the handle if nothing is left; if
something is left it returns, and nobody hands over the rest: `pump_write` is not
called for such an entry, and no send can put it on the pump list again.  So a
close drains one pending write, and any further ones are stuck.
-/

set_option autoImplicit false

namespace Skyuv.Socket

open TransitionSystem

/-- Neither a completion nor `uv_close`. -/
def Obs.isQuiet : Obs → Bool
  | .completed _ _ | .uvClose => false
  | _ => true

theorem isQuiet_of_events {observations : List Obs} (events : Life.OnlyEvents observations) :
    ∀ obs ∈ observations, obs.isQuiet = true := by
  intro obs member
  obtain ⟨site, event, rfl⟩ := events obs member
  rfl

/-- No `shutdown`, no exit scan and no release scan, no `start` whose `uv_read_start`
fails, no failing read, and every write is accepted and completes well. -/
def Act.peaceful : Act → Bool
  | .command cmd env =>
      match cmd.body with
      | .shutdown => false
      | .start => env.uv .readStart = 0
      | _ => true
  | .pump env => env.uv .write = 0
  | .writeCompleted status _ => status = 0
  | .readCompleted nread _ _ => 0 ≤ nread || nread = uvEof
  | .exitScan | .releaseScan _ => false
  | _ => true

namespace Life

open Skyuv.Socket.Frame (eventObs)

/-- The accepted writes that have not completed. -/
def pending (life : Life) : List Buffer := life.high ++ life.low ++ life.uvWrites

variable {origin life after : Life}

/-- The entry waits for its writes and its handle is open. -/
def Waits (life : Life) : Prop := life.closeRequested = true ∧ life.state ≠ .closing

/-- What an act can do to a socket that waits for its writes. -/
inductive DrainStep (life after : Life) : Prop
  | idle {observations : List Obs} (waits : after.Waits)
      (lists : after.high = life.high ∧ after.low = life.low ∧ after.uvWrites = life.uvWrites)
      (flags : after.writing = life.writing ∧ after.pumpPending = life.pumpPending)
      (log : after.log = life.log ++ observations)
      (quiet : ∀ obs ∈ observations, obs.isQuiet = true)
  | handed {observations : List Obs} (waits : after.Waits) (listed : life.pumpPending = true)
      (writing : after.writing = true) (perm : after.pending.Perm life.pending)
      (log : after.log = life.log ++ observations)
      (quiet : ∀ obs ∈ observations, obs.isQuiet = true)
  | completedLast (buffer : Buffer) (warnings : List Obs) (head : life.uvWrites = [buffer])
      (high : life.high = []) (low : life.low = []) (events : OnlyEvents warnings)
      (log : after.log = life.log ++ (.completed buffer 0 :: warnings ++ [.uvClose]))
  | completedMore (buffer : Buffer) (warnings : List Obs) (head : life.uvWrites = [buffer])
      (more : life.high ≠ [] ∨ life.low ≠ []) (waits : after.Waits)
      (lists : after.high = life.high ∧ after.low = life.low)
      (flags : after.writing = false ∧ after.pumpPending = false) (events : OnlyEvents warnings)
      (log : after.log = life.log ++ .completed buffer 0 :: warnings)

theorem Steady.bytes_pos (steady : life.Steady) (alive : life.freed = false)
    (loaded : life.pending ≠ []) : 0 < life.queuedBytes := by
  obtain ⟨buffer, member⟩ := List.exists_mem_of_ne_nil _ loaded
  have where_ : buffer ∈ life.high ∨ buffer ∈ life.low ∨ buffer ∈ life.uvWrites := by
    simpa [pending, or_assoc] using member
  have total : life.queuedBytes = totalSize life.pending := by
    rw [steady.bytes alive, pending, totalSize_append, totalSize_append]
  calc 0 < buffer.size := steady.positive buffer where_
    _ ≤ totalSize life.pending := List.le_sum_of_mem (List.mem_map_of_mem member)
    _ = life.queuedBytes := total.symm

/-- The pump loop hands over one of the pending writes. -/
theorem Pumped.drainStep {env : Env} (waits : life.Waits) (listed : life.pumpPending = true)
    (steady : life.Steady) (loaded : life.pending ≠ []) (accepted : env.uv .write = 0)
    (pumped : Pumped env { life with pumpPending := false } after) : DrainStep life after := by
  have idle := steady.unpumped listed
  have none := steady.no_writes idle
  cases pumped with
  | busy writing => simp [idle] at writing
  | empty high low =>
      simp only at high low
      simp [pending, high, low, none] at loaded
  | high buffer rest idle high accepted =>
      simp only at high
      refine .handed waits listed rfl ?_ rfl (by simp [Obs.isQuiet])
      simp only [pending, emit, high, none, List.nil_append, List.append_nil]
      exact List.perm_append_singleton buffer (rest ++ life.low)
  | low buffer rest idle high low accepted =>
      simp only at high low
      refine .handed waits listed rfl ?_ rfl (by simp [Obs.isQuiet])
      simp only [pending, emit, high, low, none, List.nil_append, List.append_nil]
      exact List.perm_append_singleton buffer rest
  | highFailed buffer rest event idle high refused => exact absurd accepted refused
  | lowFailed buffer rest event idle high low refused => exact absurd accepted refused

/-- A write completes well: the last one closes the handle, any other leaves the
entry with nothing in flight. -/
theorem Resumed.drainStep {env : Env} {status : Int} {buffer : Buffer} {rest : List Buffer}
    {warnings : List Obs} (waits : life.Waits) (steady : life.Steady)
    (head : life.uvWrites = buffer :: rest) (fine : status = 0) (events : OnlyEvents warnings)
    (resumed : Resumed env ((life.complete buffer rest status).emit warnings) after) :
    DrainStep life after := by
  obtain ⟨asked, open_⟩ := waits
  have last : life.uvWrites = [buffer] := by
    have single := steady.single
    rw [head, List.length_cons] at single
    have rest_nil : rest = [] := List.eq_nil_of_length_eq_zero (by omega)
    rw [head, rest_nil]
  subst fine
  cases resumed with
  | drained _ high low =>
      exact .completedLast buffer warnings last high low events (by simp [complete, emit, shut])
  | waiting _ more =>
      exact .completedMore buffer warnings last more ⟨asked, open_⟩ ⟨rfl, rfl⟩
        ⟨rfl, steady.unlisted (by simp [last])⟩ events (by simp [complete, emit])
  | closing unasked | pumped unasked => simp [complete, emit, asked] at unasked

/-- What an act can do that leaves the queues alone. -/
theorem DrainStep.told {changed : Life} {observations : List Obs} (waits : changed.Waits)
    (lists : changed.high = life.high ∧ changed.low = life.low ∧
      changed.uvWrites = life.uvWrites)
    (flags : changed.writing = life.writing ∧ changed.pumpPending = life.pumpPending)
    (log : changed.log = life.log) (events : OnlyEvents observations) :
    DrainStep life (changed.emit observations) :=
  .idle waits lists flags (congrArg (· ++ observations) log) (isQuiet_of_events events)

theorem quiet_of_close {env : Env} {event : Event} {opaqueVal : Nat} :
    ∀ obs ∈ [.closeCommand opaqueVal] ++ life.closeObs env event, obs.isQuiet = true :=
  List.forall_mem_append.mpr
    ⟨by simp [Obs.isQuiet], isQuiet_of_events (onlyEvents_closeObs env event life)⟩

theorem Move.drainStep {act : Act} (move : Move act life after) (enabled : act.Enabled life)
    (sound : life.Sound) (peaceful : act.peaceful = true) (waits : life.Waits)
    (loaded : life.pending ≠ []) : DrainStep life after := by
  obtain ⟨asked, open_⟩ := waits
  obtain ⟨stream, states⟩ := sound.stream (.inr (.inr (.inr (.inl asked))))
  have opened : life.initialized = true := by
    by_contra bare
    have unasked := (sound.bare (by simpa using bare)).2.2.1
    simp [asked] at unasked
  have same : DrainStep life life :=
    .idle ⟨asked, open_⟩ ⟨rfl, rfl, rfl⟩ ⟨rfl, rfl⟩ (List.append_nil _).symm (by simp)
  cases move with
  | ignored | scanned | readNothing | udpNothing | tagged => exact same
  | refused | reported | readData | acceptError =>
      exact .told ⟨asked, open_⟩ ⟨rfl, rfl, rfl⟩ ⟨rfl, rfl⟩ rfl (onlyEvents_eventObs _ _ _)
  | udpData | acceptTaken =>
      exact .idle ⟨asked, open_⟩ ⟨rfl, rfl, rfl⟩ ⟨rfl, rfl⟩ rfl (by simp [Obs.isQuiet])
  -- the handle is open already
  | aborted _ _ _ _ _ _ bare | rejected _ _ _ _ _ bare | listening _ _ _ _ bare
  | connecting _ _ _ bare | bound _ _ _ _ bare | udpOpened _ _ _ bare | closedBare _ _ _ _ bare
  | acceptDropped _ bare | acceptRejected _ _ bare | accepted _ bare | discarded bare
  | scanDropped bare => simp [opened] at bare
  | scanShut opened closing scan =>
      rcases scan with rfl | ⟨slot, rfl⟩
      · cases peaceful
      · cases peaceful
  | started | readEof =>
      exact .told ⟨asked, by simp⟩ ⟨rfl, rfl, rfl⟩ ⟨rfl, rfl⟩ rfl (onlyEvents_eventObs _ _ _)
  | startFailed command env event start state fails type =>
      simp [Act.peaceful, start, fails] at peaceful
  | paused command env pause state stops =>
      exact .idle ⟨asked, by simp⟩ ⟨rfl, rfl, rfl⟩ ⟨rfl, rfl⟩ (List.append_nil _).symm (by simp)
  | queuedHigh _ _ _ _ _ _ accepts | queuedLow _ _ _ _ _ _ accepts => simp [asked] at accepts
  | datagram _ _ _ _ state | udpFailed _ _ _ _ _ state | connectFailed _ _ _ state
  | connected _ _ _ state => simp [state] at states
  | closedNow command env event closes opened state now type carries =>
      have bytes := sound.bytes_pos (sound.alive_of opened open_) loaded
      rcases now with shutdown | isUdp | none
      · simp [Act.peaceful, shutdown] at peaceful
      · simp [stream] at isUdp
      · exact absurd none (Nat.ne_of_gt bytes)
  | draining command env event close opened state stream pending type carries =>
      exact .idle ⟨rfl, open_⟩ ⟨rfl, rfl, rfl⟩ ⟨rfl, rfl⟩ (List.append_assoc _ _ _) quiet_of_close
  | pumpSkipped env state => exact absurd state open_
  | pumped env state pumped =>
      exact pumped.drainStep ⟨asked, open_⟩ enabled sound.toSteady loaded
        (by simpa [Act.peaceful] using peaceful)
  | readFailed nread data env event reading state fails notEof type =>
      simp [Act.peaceful, notEof, Int.not_le.mpr fails] at peaceful
  | written status env buffer rest warnings head fine plain resumed =>
      exact resumed.drainStep ⟨asked, open_⟩ sound.toSteady head
        (by simpa [Act.peaceful] using peaceful) (onlyEvents_plain plain)
  | writeFailed status env buffer rest event head fails state type resumed =>
      simp [Act.peaceful, fails] at peaceful
  | datagramSent index status env errors plain =>
      exact .told ⟨asked, open_⟩ ⟨rfl, rfl, rfl⟩ ⟨rfl, rfl⟩ rfl (onlyEvents_plain plain)
  | connectLate status env state => exact absurd state open_
  | acceptStalled =>
      exact .idle ⟨asked, open_⟩ ⟨rfl, rfl, rfl⟩ ⟨rfl, rfl⟩ (List.append_nil _).symm (by simp)
  | acceptDone accepted env event listening type =>
      simp [sound.listening listening] at states
  | closed closing => exact absurd (sound.closing.mp closing) open_

/-! ## The three phases of a draining socket

`origin` is the life when the close is processed. -/

/-- None of the writes has completed, and one is in flight or will be. -/
def Waiting (origin life : Life) : Prop :=
  life.Waits ∧ life.pending.Perm origin.pending ∧
    (life.writing = true ∨ life.pumpPending = true) ∧
    ∃ since, life.log = origin.log ++ since ∧ ∀ obs ∈ since, obs.isQuiet = true

/-- A write has completed, more are queued, and nobody will hand them over. -/
def Stuck (origin life : Life) : Prop :=
  life.Waits ∧ (life.high ≠ [] ∨ life.low ≠ []) ∧ life.writing = false ∧
    life.pumpPending = false ∧ origin.pending.length ≠ 1 ∧
    ∃ since, life.log = origin.log ++ since ∧ (∃ buffer, .completed buffer 0 ∈ since) ∧
      .uvClose ∉ since

/-- The history of a socket whose only write was completed before `uv_close`. -/
def Drained (origin : Life) (log : List Obs) : Prop :=
  ∃ first last, log = origin.log ++ (first ++ .uvClose :: last) ∧ .uvClose ∉ first ∧
    origin.pending.length = 1 ∧ (∀ buffer ∈ origin.pending, .completed buffer 0 ∈ first) ∧
    ∀ low, handedWrites low (origin.log ++ first) = queuedWrites low (origin.log ++ first)

theorem Drained.grow {before after : List Obs} (drained : Drained origin before)
    (grown : before <+: after) : Drained origin after := by
  obtain ⟨first, last, rfl, rest⟩ := drained
  obtain ⟨more, rfl⟩ := grown
  exact ⟨first, last ++ more, by simp, rest⟩

theorem not_uvClose_of_quiet {observations : List Obs}
    (quiet : ∀ obs ∈ observations, obs.isQuiet = true) : .uvClose ∉ observations :=
  fun member => nomatch quiet _ member

theorem not_uvClose_of_completed {warnings : List Obs} (events : OnlyEvents warnings)
    (buffer : Buffer) : .uvClose ∉ .completed buffer 0 :: warnings := by
  intro member
  rcases List.mem_cons.mp member with impossible | member
  · cases impossible
  · exact not_uvClose_of_quiet (isQuiet_of_events events) member

theorem Waiting.step (waiting : Waiting origin life) (sound : life.Sound) (ordered : life.Ordered)
    (step : DrainStep life after) :
    Waiting origin after ∨ Stuck origin after ∨ Drained origin after.log := by
  obtain ⟨⟨asked, open_⟩, perm, busy, since, log, quiet⟩ := waiting
  have noClose := not_uvClose_of_quiet quiet
  cases step with
  | @idle observations waits lists flags told quietNow =>
      refine .inl ⟨waits, ?_, by rwa [flags.1, flags.2], since ++ observations, ?_, ?_⟩
      · rwa [pending, lists.1, lists.2.1, lists.2.2]
      · rw [told, log, List.append_assoc]
      · exact List.forall_mem_append.mpr ⟨quiet, quietNow⟩
  | @handed observations waits listed writing permNow told quietNow =>
      refine .inl ⟨waits, permNow.trans perm, .inl writing, since ++ observations, ?_, ?_⟩
      · rw [told, log, List.append_assoc]
      · exact List.forall_mem_append.mpr ⟨quiet, quietNow⟩
  | completedLast buffer warnings head high low events told =>
      have only : origin.pending = [buffer] := by
        rw [pending, high, low, head] at perm
        exact List.perm_singleton.mp perm.symm
      have alive := (sound.busy (by simp [Quiet, head])).2
      -- with both lists empty, what was queued is what was handed over
      have done : (life.emit (.completed buffer 0 :: warnings)).Ordered :=
        ordered.emit _ (List.forall_mem_cons.mpr ⟨rfl, isWrite_of_events events⟩)
      refine .inr (.inr ⟨since ++ .completed buffer 0 :: warnings, [], ?_, ?_, ?_, ?_, ?_⟩)
      · rw [told, log]
        simp
      · exact fun member => (List.mem_append.mp member).elim noClose
          (not_uvClose_of_completed events buffer)
      · rw [only, List.length_singleton]
      · rw [only]
        simp
      · intro low'
        have lists := done.2.1 alive low'
        rw [← List.append_assoc, ← log]
        cases low' <;> simpa [emit, list, high, low] using lists.symm
  | completedMore buffer warnings head more waits lists flags events told =>
      refine .inr (.inl ⟨waits, by rwa [lists.1, lists.2], flags.1, flags.2, ?_,
        since ++ .completed buffer 0 :: warnings, ?_, ⟨buffer, by simp⟩, ?_⟩)
      · rw [← perm.length_eq, pending, head]
        have longer : 0 < life.high.length + life.low.length := by
          rcases more with high | low
          · exact Nat.add_pos_left (List.length_pos_of_ne_nil high) _
          · exact Nat.add_pos_right _ (List.length_pos_of_ne_nil low)
        simp only [List.length_append, List.length_singleton]
        omega
      · rw [told, log, List.append_assoc]
      · exact fun member => (List.mem_append.mp member).elim noClose
          (not_uvClose_of_completed events buffer)

theorem Stuck.step (stuck : Stuck origin life) (sound : life.Sound)
    (step : DrainStep life after) : Stuck origin after := by
  obtain ⟨waits, more, idle, unlisted, several, since, log, completed, noClose⟩ := stuck
  cases step with
  | @idle observations waits lists flags told quietNow =>
      refine ⟨waits, by rwa [lists.1, lists.2.1], by rwa [flags.1], by rwa [flags.2], several,
        since ++ observations, ?_, ?_, ?_⟩
      · rw [told, log, List.append_assoc]
      · obtain ⟨buffer, member⟩ := completed
        exact ⟨buffer, List.mem_append_left _ member⟩
      · exact fun member => (List.mem_append.mp member).elim noClose
          (not_uvClose_of_quiet quietNow)
  | handed waits listed => simp [unlisted] at listed
  | completedLast buffer warnings head | completedMore buffer warnings head =>
      simp [sound.no_writes idle] at head

/-- The phase of a socket that drains. -/
def Draining (origin life : Life) : Prop :=
  Waiting origin life ∨ Stuck origin life ∨ Drained origin life.log

theorem Move.draining_kept {act : Act} (move : Move act life after) (enabled : act.Enabled life)
    (sound : life.Sound) (ordered : life.Ordered) (peaceful : act.peaceful = true)
    (grown : life.log <+: after.log) (loaded : origin.pending ≠ [])
    (phase : Draining origin life) : Draining origin after := by
  rcases phase with waiting | stuck | drained
  · have still : life.pending ≠ [] := by
      intro none
      exact loaded (none ▸ waiting.2.1).nil_eq.symm
    exact waiting.step sound ordered (move.drainStep enabled sound peaceful waiting.1 still)
  · have still : life.pending ≠ [] := by
      rcases stuck.2.1 with high | low
      · simp [pending, high]
      · simp [pending, low]
    exact .inr (.inl (stuck.step sound (move.drainStep enabled sound peaceful stuck.1 still)))
  · exact .inr (.inr (drained.grow grown))

/-- The close of a socket with pending writes. -/
theorem Move.closes_gracefully {command : Command} {env : Env}
    (move : Move (.command command env) life after) (sound : life.Sound)
    (close : command.body = .close) (open_ : life.state ≠ .closing)
    (unasked : life.closeRequested = false) (loaded : life.pending ≠ []) : Waiting life after := by
  have opened : life.initialized = true := by
    by_contra bare
    obtain ⟨⟨-, -, -, -, writes, -, high, low, -⟩, -⟩ := sound.bare (by simpa using bare)
    simp [pending, writes, high, low] at loaded
  have alive := sound.alive_of opened open_
  have bytes := sound.bytes_pos alive loaded
  have stream := (sound.stream (sound.streamed_of_bytes alive bytes)).1
  cases move with
  | ignored _ _ already => exact absurd (already (by simp [close, CommandBody.closes])) open_
  | refused _ _ _ other => simp [close, CommandBody.closes] at other
  | aborted _ _ _ _ _ opens | rejected _ _ _ _ opens | listening _ _ _ opens
  | connecting _ _ opens | bound _ _ _ opens | udpOpened _ _ opens =>
      simp [close, CommandBody.opens] at opens
  | reported _ _ _ start | started _ _ _ start | startFailed _ _ _ start | paused _ _ start
  | queuedHigh _ _ _ _ start | queuedLow _ _ _ _ start => simp [close] at start
  | datagram _ _ _ send => simp [close, CommandBody.payload] at send
  | closedBare _ _ _ _ bare => simp [opened] at bare
  | closedNow _ _ _ _ _ _ now =>
      rcases now with shutdown | isUdp | none
      · simp [close] at shutdown
      · simp [stream] at isUdp
      · exact absurd none (Nat.ne_of_gt bytes)
  | scanned _ scan | scanDropped _ scan | scanShut _ _ scan => simp at scan
  | draining _ _ event _ _ _ _ _ type carries =>
      refine ⟨⟨rfl, open_⟩, List.Perm.refl _, ?_, _, List.append_assoc _ _ _, quiet_of_close⟩
      rcases sound.pending_of_bytes alive bytes with writing | queued
      · exact .inl writing
      · exact sound.progress queued open_ unasked

/-- What a phase says of the socket. -/
theorem Draining.verdict (phase : Draining origin life) (sound : life.Sound)
    (recorded : life.CloseRecorded) :
    ∃ since, life.log = origin.log ++ since ∧
      (life.uvClosing = false →
        (life.writing = true ∨ life.pumpPending = true ↔
          origin.pending.length = 1 ∨ ∀ buffer status, .completed buffer status ∉ since)) ∧
      (life.uvClosing = true →
        origin.pending.length = 1 ∧
        ∃ earlier later, since = earlier ++ .uvClose :: later ∧ .uvClose ∉ earlier ∧
          (∀ buffer ∈ origin.pending, .completed buffer 0 ∈ earlier) ∧
          ∀ low, handedWrites low (origin.log ++ earlier) =
            queuedWrites low (origin.log ++ earlier)) := by
  rcases phase with waiting | stuck | drained
  · obtain ⟨⟨-, open_⟩, -, busy, since, log, quiet⟩ := waiting
    refine ⟨since, log, fun _ => iff_of_true busy (.inr ?_), ?_⟩
    · exact fun buffer status member => nomatch quiet _ member
    · simp [sound.not_closing open_]
  · obtain ⟨⟨-, open_⟩, -, idle, unlisted, several, since, log, ⟨buffer, completed⟩, -⟩ := stuck
    refine ⟨since, log, fun _ => iff_of_false (by simp [idle, unlisted]) ?_, ?_⟩
    · exact not_or.mpr ⟨several, fun never => never buffer 0 completed⟩
    · simp [sound.not_closing open_]
  · obtain ⟨first, last, log, noClose, one, completed, handed⟩ := drained
    have closing : life.uvClosing = true := by
      refine recorded.mpr (List.one_le_count_iff.mpr ?_)
      simp [log]
    exact ⟨_, log, by simp [closing], fun _ => ⟨one, first, last, rfl, noClose, completed, handed⟩⟩

end Life

namespace State

variable {cfg : Config} {state final : State} {label : Label} {key : Nat} {entry : Entry}

/-- The step does nothing to the entry that is not peaceful. -/
def undisturbed (cfg : Config) (key : Nat) (state : State) (label : Label) : Bool :=
  match state.target cfg label with
  | none => true
  | some (other, act) => decide (other ≠ key) || act.peaceful

theorem peaceful_of_undisturbed {act : Act} (calm : state.undisturbed cfg key label = true)
    (target : state.target cfg label = some (key, act)) : act.peaceful = true := by
  simpa [undisturbed, target] using calm

/-- A run that does not disturb a draining socket keeps it in one of its phases. -/
theorem draining_run {origin : Life} {labels : List Label} (loaded : origin.pending ≠ [])
    (reached : (socketSystem cfg).Reachable state) (at_key : state.entries[key]? = some entry)
    (phase : Life.Draining origin entry.life)
    (along : (socketSystem cfg).Along
      (fun state label => state.undisturbed cfg key label = true) state labels)
    (run : (socketSystem cfg).exec state labels = some final) :
    ∃ after, final.entries[key]? = some after ∧ Life.Draining origin after.life := by
  refine follow_acts ?_ reached at_key phase along run
  intro state label act frame reached at_key target calm enabled phase
  have sound := (wf_reachable reached).sound key frame.entry at_key
  have ordered : frame.entry.life.Ordered :=
    throughout_reachable Life.ordered_kept reached key frame.entry at_key
  obtain ⟨observations, told, -⟩ := (act.run_outcome cfg frame).told
  exact (act.run_move cfg frame enabled sound).draining_kept enabled sound ordered
    (peaceful_of_undisturbed calm target) ⟨observations, told.symm⟩ loaded phase

end State

/-- A close finds pending writes.  At every later moment of a run in which
`uv_write` accepts and completes every write of the entry, and no shutdown, exit,
release, read error or failing start reaches it: as long as its handle is open, a write
is in flight or the entry is on the pump list exactly if there was one pending write, or
none has completed yet; and once the handle is closed there was one pending write, which
was handed to libuv and completed before `uv_close`. -/
theorem close_drains_one_write (cfg : Config) (start final : State) (key : Nat)
    (before entry : Entry) (command : Command) (env : Env) (labels : List Label)
    (reached : (socketSystem cfg).Reachable start)
    (at_start : start.entries[key]? = some before)
    (target : start.target cfg (.command env) = some (key, .command command env))
    (close : command.body = .close) (open_ : before.state ≠ .closing)
    (first : before.closeRequested = false) (loaded : before.life.pending ≠ [])
    (run : (socketSystem cfg).exec start (.command env :: labels) = some final)
    (along : (socketSystem cfg).Along
      (fun state label => state.undisturbed cfg key label = true) start (.command env :: labels))
    (at_final : final.entries[key]? = some entry) :
    ∃ since, entry.log = before.log ++ since ∧
      (entry.uvClosing = false →
        (entry.writing = true ∨ key ∈ final.runtime.pumpList ↔
          before.life.pending.length = 1 ∨ ∀ buffer status, .completed buffer status ∉ since)) ∧
      (entry.uvClosing = true →
        before.life.pending.length = 1 ∧
        ∃ earlier later, since = earlier ++ .uvClose :: later ∧ .uvClose ∉ earlier ∧
          (∀ buffer ∈ before.life.pending, .completed buffer 0 ∈ earlier) ∧
          ∀ low, handedWrites low (before.log ++ earlier) =
            queuedWrites low (before.log ++ earlier)) := by
  have wf := State.wf_reachable reached
  obtain ⟨next, firstStep, rest⟩ := System.exec_cons run
  -- the first step is the close itself
  obtain ⟨middle, at_next, enabled, move⟩ :=
    (wf.of_step firstStep).1.performed wf target rfl at_start
  have waiting := move.closes_gracefully (wf.sound key before at_start) close open_ first loaded
  -- and every later one keeps the phase
  have reachedNext := reached.next firstStep
  have reachedFinal := reachedNext.steps rest
  have wfFinal := State.wf_reachable reachedFinal
  obtain ⟨after, at_after, phase⟩ := State.draining_run loaded reachedNext at_next (.inl waiting)
    (along.2 next firstStep) rest
  cases at_after.symm.trans at_final
  have recorded : entry.life.CloseRecorded :=
    State.throughout_reachable Life.closeRecorded_kept reachedFinal key entry at_final
  have listed : key ∈ final.runtime.pumpList ↔ entry.pumpPending = true := by
    rw [wfFinal.listed.marked key, at_final]
    simp
  rw [listed]
  exact phase.verdict (wfFinal.sound key entry at_final) recorded

/-- A connected socket with one queued write; its close is the next command. -/
def closeAfterSend : List Label := connectRun ++
  ([.api (.send 4 false 3 .owned true false) .fine, .api (.close 4 7) .fine, .poll .fine, .wakeup,
    .command .fine] : List Label)

/-- What follows the close. -/
def drainSteps : List Label := [.commandsDone, .pump .fine, .pumpDone, .writeCompleted 0 0 .fine]

/-- The pump loop hands the write over, it completes, and the handle is closed. -/
theorem close_drains_one_write_single :
    ∃ start final before entry,
      (socketSystem fourSlots).exec State.init closeAfterSend = some start ∧
      start.entries[0]? = some before ∧
      (socketSystem fourSlots).exec start (.command .fine :: drainSteps) = some final ∧
      final.entries[0]? = some entry ∧ entry.uvClosing = true ∧
      ∃ since, entry.log = before.log ++ since ∧
        ∃ earlier later, since = earlier ++ .uvClose :: later ∧
          ∀ buffer ∈ before.life.pending, .completed buffer 0 ∈ earlier := by
  refine ⟨_, _, _, _, (Option.some_get (by decide)).symm, (Option.some_get (by decide)).symm,
    (Option.some_get (by decide)).symm, (Option.some_get (by decide)).symm, by decide, ?_⟩
  obtain ⟨since, log, -, closed⟩ := close_drains_one_write fourSlots _ _ 0 _ _
    ⟨4, 7, .close⟩ .fine drainSteps ⟨closeAfterSend, (Option.some_get (by decide)).symm⟩
    (Option.some_get (by decide)).symm rfl rfl (by decide) (by decide) (by decide)
    (Option.some_get (by decide)).symm (by decide) (Option.some_get (by decide)).symm
  obtain ⟨-, earlier, later, split, -, completed, -⟩ := closed (by decide)
  exact ⟨since, log, earlier, later, split, completed⟩

/-- Two pending writes: the first one completes well, and the second one is
neither in flight nor on the pump list while the handle stays open. -/
theorem close_leaves_second_write :
    ∃ final entry, (socketSystem fourSlots).exec State.init (connectRun ++
        ([.api (.send 4 false 3 .owned true false) .fine,
          .api (.send 4 false 5 .owned true false) .fine,
          .api (.close 4 7) .fine, .poll .fine, .wakeup, .command .fine, .command .fine,
          .command .fine, .commandsDone, .pump .fine, .pumpDone,
          .writeCompleted 0 0 .fine] : List Label)) =
        some final ∧
      final.entries[0]? = some entry ∧ entry.closeRequested = true ∧ entry.uvClosing = false ∧
      entry.high = [⟨1, 5, true⟩] ∧ entry.writing = false ∧ final.runtime.pumpList = [] :=
  ⟨_, _, (Option.some_get (by decide)).symm, (Option.some_get (by decide)).symm, by decide,
    by decide, by decide, by decide, by decide⟩

end Skyuv.Socket
