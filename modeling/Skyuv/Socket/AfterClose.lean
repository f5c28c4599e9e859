import Skyuv.Lib.Trace
import Skyuv.Socket.Ending

/-!
# Nothing follows `CLOSE`

A socket that has told its owner `CLOSE` neither reads nor accepts, unless a
`start` command reaches it while its close waits for pending writes.
-/

set_option autoImplicit false

namespace Skyuv.Socket

open TransitionSystem Trace

/-- `OPEN`, `ACCEPT` and `DATA` come before `CLOSE`. -/
def BeforeClose (before : List Obs) (obs : Obs) : Prop :=
  obs.isTraffic = true → ∀ earlier ∈ before, earlier.isClose = false

theorem not_traffic_of_plain {obs : Obs} (plain : obs.isPlain = true) :
    obs.isTraffic = false ∧ obs.isClose = false := by
  unfold Obs.isPlain at plain
  split at plain <;> simp_all [Obs.isTraffic, Obs.isClose]

namespace Life

open Skyuv.Socket.Frame (eventObs)

variable {life after : Life}

theorem Pumped.stays_quiet {env : Env} (pumped : Pumped env life after)
    (quiet : life.uvReading = false ∧ life.uvListening = false) :
    after.uvReading = false ∧ after.uvListening = false := by
  cases pumped with
  | busy | empty | high | low => exact quiet
  | highFailed | lowFailed => exact ⟨rfl, rfl⟩

theorem Resumed.stays_quiet {env : Env} (resumed : Resumed env life after)
    (quiet : life.uvReading = false ∧ life.uvListening = false) :
    after.uvReading = false ∧ after.uvListening = false := by
  cases resumed with
  | drained => exact ⟨rfl, rfl⟩
  | waiting | closing => exact quiet
  | pumped asked state pumped => exact pumped.stays_quiet quiet

/-- A socket that has ended neither reads nor accepts again. -/
theorem Move.stays_quiet {act : Act} (move : Move act life after) (enabled : act.Enabled life)
    (sound : life.Sound) (ended : life.Ended) (spared : resumes act life = false)
    (quiet : life.uvReading = false ∧ life.uvListening = false) :
    after.uvReading = false ∧ after.uvListening = false := by
  cases move with
  | ignored | refused | aborted | connecting | udpOpened | reported | queuedHigh | queuedLow
  | datagram | closedBare | pumpSkipped | scanned | scanDropped | readNothing | readData
  | udpNothing | udpData | datagramSent | connectLate | acceptError | acceptTaken | acceptDone
  | acceptDropped | accepted | closed | tagged | discarded => exact quiet
  | rejected | startFailed | closedNow | scanShut | readFailed | udpFailed | connectFailed
  | acceptRejected => exact ⟨rfl, rfl⟩
  | paused | readEof => exact ⟨rfl, quiet.2⟩
  | acceptStalled => exact ⟨quiet.1, rfl⟩
  | draining => exact ⟨by simp [emit, quiet.1], quiet.2⟩
  | listening command env event opens bare type | bound command env event opens bare type =>
      exact absurd ended (sound.bare_open bare enabled.1)
  | started command env event start state reads type =>
      have waits :=
        sound.waits ended enabled.1 (by grind -ring -linarith) (by grind -ring -linarith)
      simp [resumes, start, waits.1, reads] at spared
      grind -ring -linarith
  | connected status env event state type =>
      exact (sound.untouched ended (sound.alive enabled) (by simp [state])).elim
  | pumped env state pumped => exact pumped.stays_quiet quiet
  | written status env buffer rest warnings head fine plain resumed =>
      exact resumed.stays_quiet quiet
  | writeFailed status env buffer rest event head fails state type resumed =>
      exact resumed.stays_quiet ⟨rfl, rfl⟩

def Silenced (life : Life) : Prop :=
  Always BeforeClose life.log ∧
    ((∃ obs ∈ life.log, obs.isClose = true) →
      life.Ended ∧ life.uvReading = false ∧ life.uvListening = false)

/-- Observations that are no traffic, with `CLOSE` events only if the socket is quiet. -/
theorem Silenced.extend (silenced : life.Silenced) {observations : List Obs}
    (log : after.log = life.log ++ observations)
    (harmless : ∀ obs ∈ observations, obs.isTraffic = false)
    (closed : (∃ obs ∈ life.log ++ observations, obs.isClose = true) →
      after.Ended ∧ after.uvReading = false ∧ after.uvListening = false) : after.Silenced := by
  rw [Silenced, log]
  refine ⟨silenced.1.append fun obs member before isTraffic => ?_, closed⟩
  simp [harmless obs member] at isTraffic

theorem Silenced.step {act : Act} (silenced : life.Silenced) (move : Move act life after)
    (enabled : act.Enabled life) (sound : life.Sound) (spared : resumes act life = false) :
    after.Silenced := by
  have lasts (closed : ∃ obs ∈ life.log, obs.isClose = true) :
      after.Ended ∧ after.uvReading = false ∧ after.uvListening = false := by
    obtain ⟨ended, quiet⟩ := silenced.2 closed
    exact ⟨move.ended enabled sound ended, move.stays_quiet enabled sound ended spared quiet⟩
  have older {observations : List Obs} (open_ : ∀ obs ∈ observations, obs.isClose = false)
      (closed : ∃ obs ∈ life.log ++ observations, obs.isClose = true) :
      ∃ obs ∈ life.log, obs.isClose = true := by
    obtain ⟨obs, member, isClose⟩ := closed
    rcases List.mem_append.mp member with before | isNew
    · exact ⟨obs, before, isClose⟩
    · simp [open_ obs isNew] at isClose
  cases move.telling enabled sound with
  | plain log plain =>
      exact silenced.extend log (fun obs member => (not_traffic_of_plain (plain obs member)).1)
        fun closed => lasts (older (fun obs member => (not_traffic_of_plain (plain obs member)).2)
          closed)
  | traffic first env event log plain type open_ =>
      -- had `CLOSE` been told before, nothing but a `start` could bring this event
      have unclosed : ∀ obs ∈ life.log, obs.isClose = false := by
        intro obs member
        by_contra isClose
        obtain ⟨ended, quiet⟩ := silenced.2 ⟨obs, member, by simpa using isClose⟩
        simpa [quiet, spared] using open_ ended
      have started : ∀ obs ∈ life.log ++ first, obs.isClose = false :=
        List.forall_mem_append.mpr
          ⟨unclosed, fun obs member => (not_traffic_of_plain (plain obs member)).2⟩
      have told : ∀ obs ∈ eventObs env .other event, obs.isClose = false := by
        intro obs member
        rw [mem_eventObs member]
        rcases type with type | type | type <;> simp [Obs.isClose, type]
      rw [Silenced, log, ← List.append_assoc]
      constructor
      · have before : Always BeforeClose (life.log ++ first) :=
          silenced.1.append fun obs member _ isTraffic => by
            simp [(not_traffic_of_plain (plain obs member)).1] at isTraffic
        unfold eventObs
        split
        · exact before.concat fun _ => started
        · rwa [List.append_nil]
      · rintro ⟨obs, member, isClose⟩
        rcases List.mem_append.mp member with before | isNew
        · simp [started obs before] at isClose
        · simp [told obs isNew] at isClose
  | failed first last env site event log plain type again ended =>
      have harmless : ∀ obs ∈ first ++ eventObs env site event ++ last,
          obs.isTraffic = false ∧ obs.isClose = false := by
        intro obs member
        rcases List.mem_append.mp member with member | member
        · rcases List.mem_append.mp member with member | member
          · exact not_traffic_of_plain (plain obs (List.mem_append_left _ member))
          · rw [mem_eventObs member]
            simp [Obs.isTraffic, Obs.isClose, type]
        · exact not_traffic_of_plain (plain obs (List.mem_append_right _ member))
      exact silenced.extend log (fun obs member => (harmless obs member).1)
        fun closed => lasts (older (fun obs member => (harmless obs member).2) closed)
  | eof env event log type again half hushed =>
      refine silenced.extend log (fun obs member => ?_)
        fun _ => ⟨.inr (.inr (.inl half)), hushed⟩
      rw [mem_eventObs member]
      simp [Obs.isTraffic, type]
  | closed last command env event isClose closes log plain type carries again ended hushed =>
      refine silenced.extend log (fun obs member => ?_)
        fun _ => ⟨ended, hushed.resolve_right (by simp [spared])⟩
      rcases List.mem_append.mp member with member | member
      · rcases List.mem_cons.mp member with rfl | member
        · rfl
        · unfold closeObs at member
          split at member
          · cases member
          · rw [mem_eventObs member]
            simp [Obs.isTraffic, type]
      · exact (not_traffic_of_plain (plain obs member)).1

theorem silenced_kept : Kept resumes Silenced where
  fresh _ _ := ⟨always_nil, by simp [Entry.life, Entry.fresh]⟩
  accept _ _ := rfl
  move sound enabled spared move silenced := silenced.step move enabled sound spared

end Life

/-- In a run without `start` commands for a socket whose close waits for pending
writes, no `OPEN`, `ACCEPT` or `DATA` event of a socket follows its `CLOSE`. -/
theorem nothing_after_close (cfg : Config) (labels : List Label) (final : State)
    (along : (socketSystem cfg).Along (fun state label => state.spares cfg resumes label = true)
      State.init labels)
    (run : (socketSystem cfg).exec State.init labels = some final) (key : Nat) (entry : Entry)
    (at_key : final.entries[key]? = some entry) (before after : List Obs) (obs : Obs)
    (split : entry.log = before ++ obs :: after) (traffic : obs.isTraffic = true) :
    ∀ earlier ∈ before, earlier.isClose = false := by
  have silenced : entry.life.Silenced :=
    State.throughout_run Life.silenced_kept along run key entry at_key
  exact silenced.1 before obs after split traffic

/-- A `start` before the close of a socket that has a write pending. -/
def startThenClose : List Label :=
  connectRun ++ ([.api (.send 4 false 3 .owned true false) .fine, .api (.start 4 7) .fine,
    .api (.close 4 7) .fine, .poll .fine, .wakeup, .command .fine, .command .fine,
    .command .fine] : List Label)

theorem nothing_after_close_start_then_close :
    ∃ final entry, (socketSystem fourSlots).exec State.init startThenClose = some final ∧
      final.entries[0]? = some entry ∧
      entry.log = [.event .other ⟨.open, 4, 7, 0, [], 0⟩, .queued false ⟨0, 3, true⟩] ++
        .event .other ⟨.open, 4, 7, 0, [], 0⟩ ::
          [.closeCommand 7, .event .processClose ⟨.close, 4, 7, 0, [], 0⟩] ∧
      ∀ earlier ∈ [.event .other ⟨.open, 4, 7, 0, [], 0⟩, .queued false ⟨0, 3, true⟩],
        Obs.isClose earlier = false := by
  refine ⟨_, _, (Option.some_get (by decide)).symm, (Option.some_get (by decide)).symm,
    by decide, ?_⟩
  exact nothing_after_close fourSlots startThenClose _ (by decide)
    (Option.some_get (by decide)).symm 0 _ (Option.some_get (by decide)).symm _
    [.closeCommand 7, .event .processClose ⟨.close, 4, 7, 0, [], 0⟩]
    (.event .other ⟨.open, 4, 7, 0, [], 0⟩) (by decide) rfl

/-- A `start` while the close waits for a pending write: `OPEN` follows `CLOSE`. -/
theorem open_after_close :
    ∃ final, (socketSystem fourSlots).exec State.init (connectRun ++
        ([.api (.send 4 false 3 .owned true false) .fine, .api (.close 4 7) .fine,
          .api (.start 4 7) .fine, .poll .fine, .wakeup, .command .fine, .command .fine,
          .command .fine] : List Label)) = some final ∧
      final.entries.map (fun entry => (entry.log.filterMap Obs.pushed).map Event.type) =
        [[.open, .close, .open]] :=
  ⟨_, (Option.some_get (by decide)).symm, by decide⟩

end Skyuv.Socket
