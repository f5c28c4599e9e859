import Skyuv.Socket.Steps

/-!
# How often `uv_close` is called

libuv asserts that a handle is closed once.  Most callers of `uv_close` look at
the state of the entry first; `close_after_writes` does not, and
`write_completed` calls it for every completion of an entry whose close was
requested, also when the handle is closing already.  `recloses` names these
completions.  They are the only ones: a run calls `uv_close` at most once per
handle exactly when it has none of them.
-/

set_option autoImplicit false

namespace Skyuv.Socket

open TransitionSystem

/-- A write completes on an entry that waits to be closed, with nothing queued,
and `uv_close` was called before: by an earlier step, or by the error branch of
this completion. -/
def recloses : Act → Life → Bool
  | .writeCompleted status _, life =>
      life.closeRequested && life.high.isEmpty && life.low.isEmpty &&
        (decide (status ≠ 0) || decide (life.state = .closing))
  | _, _ => false

namespace Life

open Skyuv.Socket.Frame (eventObs)

def uvCloses (life : Life) : Nat := life.log.count .uvClose

variable {life after : Life}

@[simp]
theorem uvCloses_emit (life : Life) (observations : List Obs) :
    (life.emit observations).uvCloses = life.uvCloses + observations.count .uvClose := by
  simp [uvCloses, emit]

@[simp]
theorem uvCloses_shut (life : Life) : life.shut.uvCloses = life.uvCloses + 1 := by
  simp [uvCloses, shut]

theorem count_uvClose {observations : List Obs} (events : OnlyEvents observations) :
    observations.count .uvClose = 0 :=
  events.count (by simp)

@[simp]
theorem count_uvClose_eventObs (env : Env) (site : Site) (event : Event) :
    (eventObs env site event).count .uvClose = 0 :=
  count_uvClose (onlyEvents_eventObs env site event)

@[simp]
theorem count_uvClose_failureObs (env : Env) (event : Event) (life : Life) :
    (life.failureObs env event).count .uvClose = 0 :=
  count_uvClose (onlyEvents_failureObs env event life)

@[simp]
theorem count_uvClose_closeObs (env : Env) (event : Event) (life : Life) :
    (life.closeObs env event).count .uvClose = 0 :=
  count_uvClose (onlyEvents_closeObs env event life)

/-- No call of `uv_close`, or the first one. -/
def CloseStep (life after : Life) : Prop :=
  (after.uvClosing = life.uvClosing ∧ after.uvCloses = life.uvCloses) ∨
    (life.uvClosing = false ∧ after.uvClosing = true ∧ after.uvCloses = life.uvCloses + 1)

theorem Steady.not_closing (steady : life.Steady) (state : life.state ≠ .closing) :
    life.uvClosing = false := by
  by_contra closing
  exact state (steady.closing.mp (by simpa using closing))

theorem Pumped.close_step {env : Env} (steady : life.Steady) (state : life.state ≠ .closing)
    (pumped : Pumped env life after) : CloseStep life after := by
  cases pumped with
  | busy | empty => exact .inl ⟨rfl, rfl⟩
  | high | low => exact .inl ⟨rfl, by simp [uvCloses, emit]⟩
  | highFailed | lowFailed =>
      exact .inr ⟨steady.not_closing state, rfl, by simp [uvCloses, emit, shut]⟩

/-- The end of `write_completed`, when it does not close the handle again. -/
theorem Resumed.close_step {env : Env} (steady : life.Steady)
    (spared : life.closeRequested = true → life.high = [] → life.low = [] →
      life.state ≠ .closing) (resumed : Resumed env life after) : CloseStep life after := by
  cases resumed with
  | drained asked high low =>
      exact .inr ⟨steady.not_closing (spared asked high low), rfl, uvCloses_shut life⟩
  | waiting | closing => exact .inl ⟨rfl, rfl⟩
  | pumped asked state pumped => exact pumped.close_step steady state

theorem CloseStep.after_same {middle : Life} (step : CloseStep middle after)
    (closing : middle.uvClosing = life.uvClosing) (closes : middle.uvCloses = life.uvCloses) :
    CloseStep life after := by
  unfold CloseStep at step ⊢
  rwa [closing, closes] at step

theorem Move.close_step {act : Act} (move : Move act life after) (enabled : act.Enabled life)
    (sound : life.Sound) (spared : recloses act life = false) : CloseStep life after := by
  have steady := sound.toSteady
  cases move with
  | ignored | connecting | udpOpened | paused | datagram | pumpSkipped | scanned | readNothing
  | udpNothing | connectLate | acceptStalled | accepted | tagged => exact .inl ⟨rfl, rfl⟩
  | refused | listening | bound | reported | started | draining | readData | readEof | udpData
  | connected | acceptError | acceptTaken | acceptDone =>
      exact .inl ⟨rfl, by simp [uvCloses, emit]⟩
  | queuedHigh command env payload warnings send state accepts plain
  | queuedLow command env payload warnings send state accepts plain
  | datagramSent index status env errors plain =>
      exact .inl ⟨rfl, by simp [uvCloses, emit, count_uvClose (onlyEvents_plain plain)]⟩
  | aborted | closedBare | scanDropped | acceptDropped | closed | discarded =>
      exact .inl ⟨rfl, by simp [uvCloses, emit, drop]⟩
  | rejected command env event isUdp opens bare type | acceptRejected env event bare type =>
      exact .inr ⟨(steady.bare bare).2.1, rfl, by simp [uvCloses, emit, shut]⟩
  | startFailed command env event start state fails type =>
      exact .inr ⟨steady.not_closing (by grind -ring -linarith), rfl, by simp⟩
  | closedNow command env event closes opened state now type carries =>
      exact .inr ⟨steady.not_closing state, rfl, by simp⟩
  | readFailed nread data env event reading state | udpFailed nread data address env event state =>
      exact .inr ⟨steady.not_closing (by simp [state]), rfl, by simp⟩
  | connectFailed status env event state type =>
      exact .inr ⟨steady.not_closing (by simp [state]), rfl, by simp [uvCloses, emit, shut]⟩
  | scanShut opened closing scan => exact .inr ⟨closing, rfl, uvCloses_shut life⟩
  | pumped env state pumped =>
      exact (pumped.close_step sound.steady_unlisted state).after_same rfl rfl
  | written status env buffer rest warnings head fine plain resumed =>
      have calm (asked : life.closeRequested = true) (high : life.high = [])
          (low : life.low = []) : life.state ≠ .closing := by
        intro state
        simp [recloses, asked, high, low, state] at spared
      refine (resumed.close_step ((steady.complete head status).emit _) calm).after_same rfl ?_
      simp [uvCloses, complete, emit, count_uvClose (onlyEvents_plain plain)]
  | writeFailed status env buffer rest event head fails state type resumed =>
      -- the error branch has closed the handle; what follows must leave it alone
      have waits (asked : life.closeRequested = true) (high : life.high = [])
          (low : life.low = []) : False := by
        simp [recloses, asked, high, low, fails] at spared
      refine .inr ⟨steady.not_closing state, ?_⟩
      cases resumed with
      | drained asked high low => exact (waits asked high low).elim
      | waiting | closing => exact ⟨rfl, by simp [uvCloses, complete, emit, shut]⟩
      | pumped asked state => exact absurd rfl state

/-- A call of `uv_close` is recorded. -/
def ClosedOnce (life : Life) : Prop := life.uvCloses = if life.uvClosing = true then 1 else 0

theorem ClosedOnce.step (once : life.ClosedOnce) (step : CloseStep life after) :
    after.ClosedOnce := by
  unfold ClosedOnce at once ⊢
  rcases step with ⟨closing, closes⟩ | ⟨before, closing, closes⟩
  · rw [closing, closes]
    exact once
  · simp [closing, closes, once, before]

theorem closedOnce_kept : Kept recloses ClosedOnce where
  fresh _ _ := rfl
  accept _ _ := rfl
  move sound enabled spared move once := once.step (move.close_step enabled sound spared)

theorem recloses_iff {act : Act} : recloses act life = true ↔
    ∃ status env, act = .writeCompleted status env ∧ life.closeRequested = true ∧
      life.high = [] ∧ life.low = [] ∧ (status ≠ 0 ∨ life.state = .closing) := by
  cases act <;> simp [recloses, and_assoc]

/-- A completion that `recloses` names brings the number of calls to two. -/
theorem Move.closes_again {act : Act} (move : Move act life after) (recl : recloses act life = true)
    (sound : life.Sound) (recorded : life.uvClosing = true → 1 ≤ life.uvCloses) :
    after.uvClosing = true ∧ 2 ≤ after.uvCloses := by
  obtain ⟨status, env, rfl, asked, high, low, late⟩ := recloses_iff.mp recl
  cases move with
  | scanned closing scan => simp at scan
  | scanDropped bare scan => simp at scan
  | scanShut opened closing scan => simp at scan
  | written status env buffer rest warnings head fine plain resumed =>
      have closing : life.state = .closing := by tauto
      have once := recorded (sound.closing.mpr closing)
      cases resumed with
      | drained =>
          refine ⟨rfl, ?_⟩
          simpa [complete, uvCloses, emit, shut, count_uvClose (onlyEvents_plain plain)] using once
      | waiting asked more => simp [complete, emit, high, low] at more
      | closing unasked | pumped unasked => simp [complete, emit, asked] at unasked
  | writeFailed status env buffer rest event head fails state type resumed =>
      cases resumed with
      | drained => exact ⟨rfl, by simp⟩
      | waiting asked more => simp [complete, emit, shut, high, low] at more
      | closing unasked | pumped unasked => simp [complete, emit, shut, asked] at unasked

/-- A handle is closing exactly when a call of `uv_close` was recorded. -/
def CloseRecorded (life : Life) : Prop := life.uvClosing = true ↔ 1 ≤ life.uvCloses

theorem closeRecorded_kept : Kept (fun _ _ => false) CloseRecorded where
  fresh _ _ := by simp [CloseRecorded, uvCloses, Entry.life, Entry.fresh]
  accept _ _ := rfl
  move := by
    intro act life after sound enabled _ move recorded
    by_cases recl : recloses act life = true
    · obtain ⟨closing, twice⟩ := move.closes_again recl sound recorded.mp
      exact iff_of_true closing (Nat.le_of_succ_le twice)
    · rcases move.close_step enabled sound (by simpa using recl) with
        ⟨same, closes⟩ | ⟨-, closing, closes⟩
      · rw [CloseRecorded, same, closes]
        exact recorded
      · exact iff_of_true closing (closes ▸ Nat.le_add_left 1 _)

theorem reclosing_breaks : Breaks recloses CloseRecorded (fun log => 2 ≤ log.count .uvClose) where
  kept := closeRecorded_kept
  ofLoop := by
    intro act life recl
    obtain ⟨status, env, rfl, -⟩ := recloses_iff.mp recl
    rfl
  lasts := fun grown twice => twice.trans (grown.sublist.count_le _)
  breaks := fun sound _ recorded recl move => (move.closes_again recl sound recorded.mp).2

end Life

/-- A run calls `uv_close` at most once on every handle exactly when none of its
write completions reaches an entry that waits to be closed, has nothing queued,
and is closing already or gets closed by the error of that completion. -/
theorem uv_close_at_most_once (cfg : Config) (labels : List Label) (final : State)
    (run : (socketSystem cfg).exec State.init labels = some final) :
    (∀ (key : Nat) (entry : Entry), final.entries[key]? = some entry →
      entry.log.count .uvClose ≤ 1) ↔
      (socketSystem cfg).Along (fun state label => state.spares cfg recloses label = true)
        State.init labels := by
  constructor
  · intro once
    refine (State.Wf.init cfg).along_of_unbroken Life.reclosing_breaks ?_ run ?_
    · simp [State.Throughout, State.init]
    · intro key entry at_key
      exact Nat.not_le.mpr (Nat.lt_succ_of_le (once key entry at_key))
  · intro along key entry at_key
    have once : entry.life.ClosedOnce :=
      State.throughout_run Life.closedOnce_kept along run key entry at_key
    have closes : entry.log.count .uvClose = if entry.uvClosing = true then 1 else 0 := once
    rw [closes]
    split <;> decide

/-- The close waits for a write in flight, which then completes well. -/
theorem uv_close_at_most_once_drained :
    ∃ final, (socketSystem fourSlots).exec State.init (connectRun ++
        ([.api (.send 4 false 3 .owned true false) .fine, .api (.close 4 7) .fine, .poll .fine,
          .wakeup, .command .fine, .command .fine, .commandsDone, .pump .fine, .pumpDone,
          .writeCompleted 0 0 .fine] : List Label)) = some final ∧
      final.entries.map (fun entry => entry.log.count .uvClose) = [1] ∧
      ∀ (key : Nat) (entry : Entry), final.entries[key]? = some entry →
        entry.log.count .uvClose ≤ 1 := by
  refine ⟨_, (Option.some_get (by decide)).symm, by decide, ?_⟩
  exact (uv_close_at_most_once fourSlots _ _ (Option.some_get _).symm).mpr (by decide)

/-- A shutdown closes the handle while the close still waits for a write in
flight; libuv cancels the write and `close_after_writes` closes the handle again. -/
theorem uv_close_twice_after_cancelled_write :
    ∃ final, (socketSystem fourSlots).exec State.init (connectRun ++
        ([.api (.send 4 false 3 .owned true false) .fine, .api (.close 4 7) .fine, .poll .fine,
          .wakeup, .command .fine, .command .fine, .commandsDone, .pump .fine, .pumpDone,
          .api (.shutdown 4 7) .fine, .wakeup, .command .fine, .commandsDone, .pumpDone,
          .writeCompleted 0 uvEcanceled .fine] : List Label)) = some final ∧
      final.entries.map (fun entry => entry.log.count .uvClose) = [2] :=
  ⟨_, (Option.some_get (by decide)).symm, by decide⟩

end Skyuv.Socket
