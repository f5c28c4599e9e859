import Skyuv.Socket.Ending

/-!
# One terminal event per socket

The owner of a socket learns of its end once, as long as no act falls into the
gap that `endsAgain` describes.  A close or shutdown command then has exactly one
`CLOSE` event, with the opaque of the first such command, unless `closesUnheard`
keeps that event from being pushed.
-/

set_option autoImplicit false

namespace Skyuv.Socket

open TransitionSystem

def terminals (log : List Obs) : List Obs := log.filter Obs.isTerminal

/-- The opaques of the close and shutdown commands, in the order they were processed. -/
def closeCommands (log : List Obs) : List Nat :=
  log.filterMap fun
    | .closeCommand opaqueVal => some opaqueVal
    | _ => none

theorem terminals_append (first second : List Obs) :
    terminals (first ++ second) = terminals first ++ terminals second :=
  List.filter_append ..

theorem closeCommands_append (first second : List Obs) :
    closeCommands (first ++ second) = closeCommands first ++ closeCommands second :=
  List.filterMap_append

theorem terminals_plain {observations : List Obs}
    (plain : ∀ obs ∈ observations, obs.isPlain = true) : terminals observations = [] := by
  refine List.filter_eq_nil_iff.mpr fun obs member terminal => ?_
  have silent := plain obs member
  unfold Obs.isPlain at silent
  split at silent <;> simp_all [Obs.isTerminal]

theorem closeCommands_plain {observations : List Obs}
    (plain : ∀ obs ∈ observations, obs.isPlain = true) : closeCommands observations = [] := by
  refine List.filterMap_eq_nil_iff.mpr fun obs member => ?_
  have silent := plain obs member
  cases obs <;> first | rfl | cases silent

namespace Life

open Skyuv.Socket.Frame (eventObs)

variable {life after : Life}

theorem terminals_other (env : Env) (event : Event) :
    terminals (eventObs env .other event) = [] := by
  unfold eventObs
  split <;> rfl

theorem terminals_one (env : Env) (site : Site) (event : Event) :
    (terminals (eventObs env site event)).length ≤ 1 := by
  unfold eventObs
  split
  · exact List.length_filter_le _ _
  · simp [terminals]

theorem closeCommands_events {observations : List Obs} (events : OnlyEvents observations) :
    closeCommands observations = [] := by
  refine List.filterMap_eq_nil_iff.mpr fun obs member => ?_
  obtain ⟨site, event, rfl⟩ := events obs member
  rfl

theorem terminals_closed {command : Command} {env : Env} {event : Event} {last : List Obs}
    (plain : ∀ obs ∈ last, obs.isPlain = true) : terminals
      (life.log ++ (.closeCommand command.opaqueVal :: life.closeObs env event ++ last)) =
        terminals life.log ++ terminals (life.closeObs env event) := by
  rw [terminals_append, List.cons_append, ← List.singleton_append, terminals_append,
    terminals_append, terminals_plain plain, List.append_nil]
  rfl

/-- An act on an ended socket tells of no second end. -/
theorem Telling.same {act : Act} (telling : Telling act life after) (ended : life.Ended)
    (spared : endsAgain act life = false) : terminals after.log = terminals life.log := by
  cases telling with
  | plain log plain => rw [log, terminals_append, terminals_plain plain, List.append_nil]
  | traffic first env event log plain type open_ =>
      rw [log, terminals_append, terminals_append, terminals_plain plain, terminals_other]
      simp
  | failed first last env site event log plain type again =>
      simp [again ended] at spared
  | eof env event log type again => simp [again ended] at spared
  | closed last command env event isClose closes log plain type carries again =>
      have half : life.state = .halfcloseRead :=
        (again ended).resolve_right (by simp [spared])
      rw [log, terminals_closed plain, closeObs, if_pos half]
      simp [terminals]

def EndedOnce (life : Life) : Prop :=
  (terminals life.log).length ≤ 1 ∧ (terminals life.log ≠ [] → life.Ended)

theorem EndedOnce.step {act : Act} (once : life.EndedOnce) (telling : Telling act life after)
    (lasts : life.Ended → after.Ended) (spared : endsAgain act life = false) :
    after.EndedOnce := by
  by_cases ended : life.Ended
  · rw [EndedOnce, telling.same ended spared]
    exact ⟨once.1, fun _ => lasts ended⟩
  · have none : terminals life.log = [] := by
      by_contra some
      exact ended (once.2 some)
    cases telling with
    | plain log plain =>
        simp [EndedOnce, log, terminals_append, none, terminals_plain plain]
    | traffic first env event log plain type open_ =>
        simp [EndedOnce, log, terminals_append, none, terminals_plain plain, terminals_other]
    | failed first last env site event log plain type again ends =>
        obtain ⟨plainFirst, plainLast⟩ := List.forall_mem_append.mp plain
        refine ⟨?_, fun _ => ends⟩
        simpa [log, terminals_append, none, terminals_plain plainFirst, terminals_plain plainLast]
          using terminals_one env site event
    | eof env event log type again half hushed =>
        refine ⟨?_, fun _ => .inr (.inr (.inl half))⟩
        simpa [log, terminals_append, none] using terminals_one env .eof event
    | closed last command env event isClose closes log plain type carries again ends hushed =>
        refine ⟨?_, fun _ => ends⟩
        rw [log, terminals_closed plain, none, List.nil_append, closeObs]
        split
        · exact Nat.zero_le 1
        · exact terminals_one env .processClose event

theorem endedOnce_kept : Kept endsAgain EndedOnce where
  fresh _ _ := ⟨Nat.zero_le 1, by simp [terminals, Entry.life, Entry.fresh]⟩
  accept _ _ := by simp [endsAgain]
  move sound enabled spared move once :=
    once.step (move.telling enabled sound) (move.ended enabled sound) spared

/-! ### The opaque of the `CLOSE` event -/

end Life

/-- A close or shutdown that pushes no `CLOSE` although the socket is not closing yet:
the peer has closed first, or there is no memory for the event. -/
def closesUnheard (act : Act) (life : Life) : Bool :=
  match act with
  | .command cmd env => cmd.body.closes &&
      (life.state = .halfcloseRead || life.state ≠ .closing && !env.event .close)
  | _ => false

namespace Life

open Skyuv.Socket.Frame (eventObs)

variable {life after : Life}

/-- The `CLOSE` event of a close command with this opaque is the only terminal event. -/
def ClosedBy (opaqueVal : Nat) (life : Life) : Prop :=
  ∃ event, terminals life.log = [.event .processClose event] ∧ event.type = .close ∧
    event.opaqueVal = opaqueVal

structure Announced (life : Life) : Prop where
  once : life.EndedOnce
  first : ∀ opaqueVal, (closeCommands life.log).head? = some opaqueVal →
    life.Ended ∧ life.ClosedBy opaqueVal

theorem terminals_of_event {env : Env} {site : Site} {event : Event}
    (heard : env.event event.type = true) (ends : site ≠ .other) :
    terminals (eventObs env site event) = [.event site event] := by
  unfold eventObs
  rw [if_pos heard]
  cases site <;> first | rfl | exact absurd rfl ends

theorem Telling.closeCommands_eq {act : Act} (telling : Telling act life after) :
    closeCommands after.log = closeCommands life.log ∨
      ∃ command env event last, act = .command command env ∧ command.body.closes = true ∧
        after.log =
          life.log ++ (.closeCommand command.opaqueVal :: life.closeObs env event ++ last) ∧
        (∀ obs ∈ last, obs.isPlain = true) ∧ event.type = .close ∧
        event.opaqueVal = command.opaqueVal ∧ after.Ended ∧
        (life.Ended → life.state = .halfcloseRead ∨ endsAgain act life = true) ∧
        closeCommands after.log = closeCommands life.log ++ [command.opaqueVal] := by
  cases telling with
  | plain log plain =>
      exact .inl (by rw [log, closeCommands_append, closeCommands_plain plain, List.append_nil])
  | traffic first env event log plain type open_ =>
      left
      rw [log, closeCommands_append, closeCommands_append, closeCommands_plain plain,
        closeCommands_events (onlyEvents_eventObs _ _ _)]
      simp
  | failed first last env site event log plain type again =>
      obtain ⟨plainFirst, plainLast⟩ := List.forall_mem_append.mp plain
      left
      rw [log, closeCommands_append, closeCommands_append, closeCommands_append,
        closeCommands_plain plainFirst, closeCommands_plain plainLast,
        closeCommands_events (onlyEvents_eventObs _ _ _)]
      simp
  | eof env event log type again =>
      left
      rw [log, closeCommands_append, closeCommands_events (onlyEvents_eventObs _ _ _),
        List.append_nil]
  | closed last command env event isClose closes log plain type carries again ended =>
      refine .inr ⟨command, env, event, last, isClose, closes, log, plain, type, carries, ended,
        again, ?_⟩
      rw [log, closeCommands_append, List.cons_append, ← List.singleton_append,
        closeCommands_append, closeCommands_append, closeCommands_plain plain,
        closeCommands_events (onlyEvents_closeObs _ _ _)]
      rfl

theorem Announced.step {act : Act} (announced : life.Announced) (move : Move act life after)
    (enabled : act.Enabled life) (sound : life.Sound) (spared : endsAgain act life = false)
    (heard : closesUnheard act life = false) : after.Announced := by
  obtain ⟨once, first⟩ := announced
  have telling := move.telling enabled sound
  have lasts := move.ended enabled sound
  refine ⟨once.step telling lasts spared, fun opaqueVal isFirst => ?_⟩
  have kept (ended : life.Ended) (known : life.ClosedBy opaqueVal) : after.ClosedBy opaqueVal := by
    rw [ClosedBy, telling.same ended spared]
    exact known
  rcases telling.closeCommands_eq with
    same | ⟨command, env, event, last, rfl, closes, log, plain, type, carries, ended, again,
      commands⟩
  · rw [same] at isFirst
    obtain ⟨ended, known⟩ := first opaqueVal isFirst
    exact ⟨lasts ended, kept ended known⟩
  · refine ⟨ended, ?_⟩
    rw [commands] at isFirst
    cases earlier : closeCommands life.log with
    | cons before rest =>
        rw [earlier] at isFirst first
        obtain ⟨ended, known⟩ := first opaqueVal isFirst
        exact kept ended known
    | nil =>
        rw [earlier] at isFirst
        cases isFirst
        obtain ⟨notHalf, memory⟩ : life.state ≠ .halfcloseRead ∧
            (life.state ≠ .closing → env.event .close = true) := by
          simpa [closesUnheard, closes] using heard
        have open_ : ¬life.Ended := fun ended => by
          simpa [spared] using (again ended).resolve_left notHalf
        have unended : terminals life.log = [] := by
          by_contra some
          exact open_ (once.2 some)
        refine ⟨event, ?_, type, carries⟩
        rw [log, terminals_closed plain, unended, closeObs, if_neg notHalf,
          terminals_of_event ?_ (by simp)]
        · rfl
        · rw [type]
          exact memory fun closing => open_ (.inr (.inl closing))

theorem announced_kept :
    Kept (fun act life => endsAgain act life || closesUnheard act life) Announced where
  fresh id opaqueVal :=
    ⟨endedOnce_kept.fresh id opaqueVal, by simp [closeCommands, Entry.life, Entry.fresh]⟩
  accept _ _ := by simp [endsAgain, closesUnheard]
  move sound enabled spared move announced :=
    have spared := Bool.or_eq_false_iff.mp spared
    announced.step move enabled sound spared.1 spared.2

end Life

/-- In a run without acts that end a socket whose close waits for pending writes,
every socket has at most one terminal event.  If also no close or shutdown comes after
the peer has closed, and each finds memory for its `CLOSE` event, a socket that got such
a command has exactly one: the `CLOSE` of the first, with its opaque. -/
theorem one_terminal_event (cfg : Config) (labels : List Label) (final : State)
    (run : (socketSystem cfg).exec State.init labels = some final) (key : Nat) (entry : Entry)
    (at_key : final.entries[key]? = some entry) :
    ((socketSystem cfg).Along (fun state label => state.spares cfg endsAgain label = true)
      State.init labels → (terminals entry.log).length ≤ 1) ∧
    ((socketSystem cfg).Along (fun state label =>
        state.spares cfg
          (fun act life => endsAgain act life || closesUnheard act life) label = true)
      State.init labels →
      ∀ opaqueVal, (closeCommands entry.log).head? = some opaqueVal →
        ∃ event, terminals entry.log = [.event .processClose event] ∧ event.type = .close ∧
          event.opaqueVal = opaqueVal) := by
  constructor
  · intro along
    have once : entry.life.EndedOnce :=
      State.throughout_run Life.endedOnce_kept along run key entry at_key
    exact once.1
  · intro along opaqueVal isFirst
    have announced : entry.life.Announced :=
      State.throughout_run Life.announced_kept along run key entry at_key
    exact (announced.first opaqueVal isFirst).2

/-- A close while a write is pending, and another one after the handle closed. -/
theorem one_terminal_event_drained :
    ∃ final entry, (socketSystem fourSlots).exec State.init (connectRun ++
        ([.api (.send 4 false 3 .owned true false) .fine, .api (.close 4 7) .fine, .poll .fine,
          .wakeup, .command .fine, .command .fine, .commandsDone, .pump .fine, .pumpDone,
          .writeCompleted 0 0 .fine, .api (.close 4 9) .fine,
          .wakeup, .command .fine] : List Label)) =
        some final ∧
      final.entries[0]? = some entry ∧ closeCommands entry.log = [7] ∧
      ∃ event, terminals entry.log = [.event .processClose event] ∧ event.type = .close ∧
        event.opaqueVal = 7 := by
  refine ⟨_, _, (Option.some_get (by decide)).symm, (Option.some_get (by decide)).symm,
    by decide, ?_⟩
  exact (one_terminal_event fourSlots _ _ (Option.some_get _).symm 0 _
    (Option.some_get _).symm).2 (by decide) 7 (by decide)

/-- Two close commands while a write is pending: two `CLOSE` events, the second
with the opaque of the second command. -/
theorem two_closes_while_draining :
    ∃ final, (socketSystem fourSlots).exec State.init (connectRun ++
        ([.api (.send 4 false 3 .owned true false) .fine, .api (.close 4 7) .fine,
          .api (.close 4 9) .fine, .poll .fine, .wakeup, .command .fine, .command .fine,
          .command .fine] : List Label)) = some final ∧
      final.entries.map (fun entry => (terminals entry.log).filterMap Obs.pushed) =
        [[⟨.close, 4, 7, 0, [], 0⟩, ⟨.close, 4, 9, 0, [], 0⟩]] :=
  ⟨_, (Option.some_get (by decide)).symm, by decide⟩

end Skyuv.Socket
