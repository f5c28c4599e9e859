import Skyuv.Lib.LinkedQueue
import Skyuv.Socket.Steps

/-!
# The event queue

Handlers push events, and `skyuv_socket_runtime_poll` takes the first one.  A step of
the runtime pushes, or polls, or is the end of the release, which drops what is queued.
From this follow the order in which events are polled and, in the second part, that the
pointers `event_head`, `event_tail` and `next` stand for the list of the runtime.
-/

set_option autoImplicit false

namespace Skyuv.Socket

open TransitionSystem LinkedQueue

def PollResult.dequeued : PollResult → Option Event
  | .event told => some told
  | _ => none

namespace State

variable {cfg : Config} {state next final : State} {label : Label}

/-- The events that have been polled. -/
def dequeued (state : State) : List Event := state.polled.filterMap PollResult.dequeued

/-- Every event of the run, in the order in which it was pushed. -/
def history (state : State) : List Event := state.dequeued ++ state.runtime.events

theorem history_pushed {told : List Event} (polled : next.polled = state.polled)
    (events : next.runtime.events = state.runtime.events ++ told) :
    next.history = state.history ++ told := by
  rw [history, history, dequeued, dequeued, polled, events, List.append_assoc]

/-- The step leaves the polls alone and adds events, if anything, to the queue. -/
structure Pushes (state next : State) : Prop where
  polled : next.polled = state.polled
  events : state.runtime.events <+: next.runtime.events

theorem Pushes.same (polled : next.polled = state.polled)
    (events : next.runtime.events = state.runtime.events) : state.Pushes next :=
  ⟨polled, events ▸ List.prefix_refl _⟩

theorem Pushes.trans {middle : State} (first : state.Pushes middle) (second : middle.Pushes next) :
    state.Pushes next :=
  ⟨second.polled.trans first.polled, first.events.trans second.events⟩

theorem pushes_focus (cfg : Config) (key : Nat) (act : Act) (state : State) :
    state.Pushes (state.focus cfg key act) := by
  cases at_key : state.entries[key]? with
  | none =>
      rw [focus, at_key]
      exact .same rfl rfl
  | some entry =>
      obtain ⟨_, -, events⟩ := (act.run_outcome cfg ⟨key, entry, state.runtime⟩).told
      rw [focus_eq state at_key]
      exact ⟨rfl, _, events.symm⟩

/-- What a step makes of the event queue. -/
inductive Requeued (state next : State) : Prop
  | pushed (pushes : state.Pushes next)
  | idle {result : PollResult} (none : result.dequeued = none)
      (polled : next.polled = state.polled ++ [result])
      (events : next.runtime.events = state.runtime.events)
  | taken (event : Event) (polled : next.polled = state.polled ++ [.event event])
      (events : state.runtime.events = event :: next.runtime.events)
  | dropped (released : next = state.releaseDone)

theorem Worked.pushes {index : Nat} {worker : Worker}
    (worked : state.Worked cfg index worker next) : state.Pushes next := by
  cases worked with
  | progressed | faulted | submitted | unlinked | decided => exact .same rfl rfl
  | tagged fd => exact (pushes_focus cfg worker.key (.setExternalFd fd) state).trans (.same rfl rfl)
  | freed => exact (pushes_focus cfg worker.key .freeEntry state).trans (.same rfl rfl)

theorem Polled.requeued (polled : state.Polled label next) : Requeued state next := by
  cases polled with
  | broken env signals =>
      obtain ⟨_, _, _, _, _, rfl⟩ := signals
      exact .idle rfl rfl rfl
  | entered env signals =>
      obtain ⟨_, _, _, _, _, rfl⟩ := signals
      exact .pushed (.same rfl rfl)
  | event signals polls place event rest head => exact .taken event rfl head
  | exit signals polls place empty =>
      obtain ⟨_, _, _, _, _, rfl⟩ := signals
      exact .idle rfl rfl rfl
  | waits => exact .pushed (.same rfl rfl)
  | idle => exact .idle rfl rfl rfl

theorem Stepped.requeued (stepped : state.Stepped cfg label next) : Requeued state next := by
  cases stepped with
  | called call env live called => exact .pushed (by cases called <;> exact .same rfl rfl)
  | opened call opaqueVal env live opened =>
      exact .pushed (by cases opened <;> exact .same rfl rfl)
  | worker index env live at_index worked => exact .pushed worked.pushes
  | polled polled => exact polled.requeued
  | moved | exitBegun | releaseEnded => exact .pushed (.same rfl rfl)
  | unknown cmd rest env =>
      obtain ⟨events, same⟩ := processUnknown_eq env cmd state.runtime
      exact .pushed ⟨rfl, events, by rw [same]⟩
  | exitEnded =>
      obtain ⟨ready, same⟩ := updateExitReady_eq
        { state.runtime.closeProcessSignals with asyncClosing := true }
      exact .pushed (.same rfl (by rw [same]; rfl))
  | @acted label key entry act prepared target at_key enabled ready =>
      have same : state.Pushes prepared := by cases ready <;> exact .same rfl rfl
      exact .pushed (same.trans (pushes_focus cfg key act prepared))
  | @accept key status env listener running at_key listening =>
      obtain ⟨base, result, from_⟩ := state.acceptConnection_cases cfg key listener status env
      have same : state.Pushes base := by
        rcases from_ with ⟨-, rfl⟩ | ⟨cursor, rfl⟩ | ⟨slot, cursor, -, -, -, rfl⟩
        · exact .same rfl rfl
        · exact .same rfl rfl
        · have reserved : state.Pushes (state.reserved cfg listener.opaqueVal slot cursor) :=
            .same rfl rfl
          exact reserved.trans (pushes_focus ..)
      rw [result]
      exact .pushed (same.trans (pushes_focus cfg key _ base))
  | signal signal env =>
      obtain ⟨events, _, same⟩ := onSignal_eq cfg env signal state.runtime
      exact .pushed ⟨rfl, events, by rw [same]⟩
  | releaseDone => exact .dropped rfl

/-! ## The order of the events -/

/-- Events are only appended and taken from the head, until the release drops the
rest. -/
theorem Requeued.history (requeued : Requeued state next) :
    state.history <+: next.history ∨ next = state.releaseDone := by
  cases requeued with
  | pushed pushes =>
      obtain ⟨told, events⟩ := pushes.events
      rw [history_pushed pushes.polled events.symm]
      exact .inl (List.prefix_append _ _)
  | idle none polled events =>
      rw [State.history, State.history, dequeued, dequeued, polled, events]
      simp [none]
  | taken event polled events =>
      rw [State.history, State.history, dequeued, dequeued, polled, events]
      simp [PollResult.dequeued]
  | dropped released => exact .inr released

/-- `events` came first, unless the release dropped some of them unpolled. -/
def Remembers (events : List Event) (state : State) : Prop :=
  events <+: state.history ∨ (state.pc = .released ∧ state.dequeued <+: events)

theorem liveStep_released (label : Label) (released : state.pc = .released) :
    liveStep cfg state label = none := by
  cases label with
  | readCompleted | udpReceived | writeCompleted | udpWriteCompleted | connectCompleted
  | closeEntry | acceptConnection =>
      simp only [liveStep, callback, released, LoopPc.inRun, Bool.false_and, Bool.false_eq_true,
        if_false]
      split <;> rfl
  | _ => simp [liveStep, released, LoopPc.live]

theorem Remembers.step {events : List Event} (wf : state.Wf cfg)
    (remembers : state.Remembers events)
    (run : step cfg state label = some next) : next.Remembers events := by
  rcases remembers with first | ⟨released, -⟩
  · rcases (wf.of_step run).1.requeued.history with grown | rfl
    · exact .inl (first.trans grown)
    · -- the queue is dropped: of two prefixes of one history, one is a prefix of the other
      have polled : state.dequeued <+: state.history := List.prefix_append _ _
      rcases List.prefix_or_prefix_of_prefix first polled with early | late
      · exact .inl (early.trans (List.prefix_append _ _))
      · exact .inr ⟨rfl, late⟩
  · rw [Socket.step, liveStep_released label released] at run
    simp at run

theorem Remembers.run {events : List Event} {labels : List Label}
    (reached : (socketSystem cfg).Reachable state) (remembers : state.Remembers events)
    (run : (socketSystem cfg).exec state labels = some final) : final.Remembers events := by
  have kept := (socketSystem cfg).exec_invariant
    (fun state => state.Wf cfg ∧ state.Remembers events)
    (fun _ _ _ known step => ⟨(known.1.of_step step).2, known.2.step known.1 step⟩)
    ⟨wf_reachable reached, remembers⟩ run
  exact kept.2

theorem getElem?_of_initial {events whole : List Event} {position : Nat} {event : Event}
    (first : events <+: whole) (found : events[position]? = some event) :
    whole[position]? = some event := by
  obtain ⟨rest, rfl⟩ := first
  rw [List.getElem?_append_left (List.getElem?_eq_some_iff.mp found).1, found]

/-- The event at a position of the history is the one polled there. -/
theorem Remembers.polled {events : List Event} {event told : Event}
    (remembers : state.Remembers (events ++ [event])) {earlier later : List PollResult}
    (polled : state.polled = earlier ++ .event told :: later)
    (position : (earlier.filterMap PollResult.dequeued).length = events.length) : told = event := by
  have taken : state.dequeued[events.length]? = some told := by
    rw [dequeued, polled, List.filterMap_append, ← position]
    simp [PollResult.dequeued]
  have expected : (events ++ [event])[events.length]? = some event := by simp
  rcases remembers with first | ⟨-, fewer⟩
  · have polledAt := getElem?_of_initial (List.prefix_append _ state.runtime.events) taken
    exact Option.some.inj (polledAt.symm.trans (getElem?_of_initial first expected))
  · exact Option.some.inj ((getElem?_of_initial fewer taken).symm.trans expected)

/-- Events are polled in the order in which they were pushed, none is lost and none comes
twice, until the release drops those that are queued. -/
theorem events_in_order (cfg : Config) (labels : List Label)
    (reached : (socketSystem cfg).Reachable state)
    (run : (socketSystem cfg).exec state labels = some final) :
    state.history <+: final.history ∨ (final.pc = .released ∧ final.dequeued <+: state.history) :=
  Remembers.run reached (.inl (List.prefix_refl _)) run

end State

/-- The connection is up, and its `OPEN` is queued. -/
def openState : State :=
  ((socketSystem fourSlots).exec State.init connectRun.dropLast).get (by decide)

def polledState : State := (step fourSlots openState (.runReturned false)).get (by decide)

theorem events_in_order_open :
    (openState.runtime.events.length = 1 ∧ polledState.dequeued.length = 1) ∧
      (openState.history <+: polledState.history ∨
        (polledState.pc = .released ∧ polledState.dequeued <+: openState.history)) :=
  ⟨by decide, State.events_in_order fourSlots [.runReturned false]
    ⟨connectRun.dropLast, (Option.some_get _).symm⟩
    (Option.bind_eq_some_iff.mpr ⟨polledState, (Option.some_get _).symm, rfl⟩)⟩

/-! ## The pointers -/

/-- The runtime with `event_head`, `event_tail` and the event nodes. -/
structure EventState where
  state : State
  queue : Cells Event

namespace EventState

/-- The runtime as a poll sees it, which goes by `event_head`. -/
def seen (linked : EventState) : State :=
  { linked.state with
    runtime := { linked.state.runtime with
      events := linked.queue.pop.1.toList ++ linked.state.runtime.events.tail } }

/-- A poll that returns an event unlinks its node; any other step appends a node for
each event that it pushes. -/
def relink (before after : State) (queue : Cells Event) : Cells Event :=
  if before.dequeued.length < after.dequeued.length then queue.pop.2
  else (after.runtime.events.drop before.runtime.events.length).foldl Cells.push queue

def step (cfg : Config) (linked : EventState) (label : Label) : Option EventState :=
  (Socket.step cfg linked.seen label).map fun next =>
    ⟨next, relink linked.state next linked.queue⟩

/-- The pointers stand for the list of the runtime, until the release frees both. -/
structure Sound (cfg : Config) (linked : EventState) : Prop where
  wf : linked.state.Wf cfg
  stores : linked.state.pc ≠ .released → linked.queue.Stores linked.state.runtime.events

variable {cfg : Config} {linked next : EventState} {label : Label}

theorem seen_eq (stores : linked.queue.Stores linked.state.runtime.events) :
    linked.seen = linked.state := by
  have whole : linked.state.runtime.events.head?.toList ++ linked.state.runtime.events.tail =
      linked.state.runtime.events := by
    cases linked.state.runtime.events <;> rfl
  rw [seen, stores.pop.1, whole]

/-- Going by the pointers the runtime does what it does going by the list. -/
theorem Sound.step_state (sound : linked.Sound cfg) (label : Label) :
    (step cfg linked label).map EventState.state = Socket.step cfg linked.state label := by
  have same : Socket.step cfg linked.seen label = Socket.step cfg linked.state label := by
    by_cases released : linked.state.pc = .released
    · have gone : linked.seen.pc = .released := released
      rw [Socket.step, Socket.step, State.liveStep_released label released,
        State.liveStep_released label gone]
      rfl
    · rw [seen_eq (sound.stores released)]
  rw [step, same, Option.map_map]
  exact Option.map_id'

theorem stores_relink {state next : State} (requeued : State.Requeued state next)
    (live : next.pc ≠ .released) {queue : Cells Event}
    (stores : queue.Stores state.runtime.events) :
    (relink state next queue).Stores next.runtime.events := by
  cases requeued with
  | pushed pushes =>
      obtain ⟨told, events⟩ := pushes.events
      rw [relink, if_neg (by simp [State.dequeued, pushes.polled]), ← events, List.drop_left]
      exact stores.pushAll told
  | idle none polled events =>
      rw [relink, if_neg (by simp [State.dequeued, polled, none]), events, List.drop_length]
      exact stores
  | taken event polled events =>
      rw [relink, if_pos (by simp [State.dequeued, polled, PollResult.dequeued])]
      have rest := stores.pop.2
      rwa [events] at rest
  | dropped released => exact absurd (congrArg State.pc released) live

theorem Sound.kept (sound : linked.Sound cfg) (run : step cfg linked label = some next) :
    next.Sound cfg := by
  have runs : Socket.step cfg linked.state label = some next.state :=
    (sound.step_state label).symm.trans (congrArg (Option.map EventState.state) run)
  obtain ⟨stepped, wf⟩ := sound.wf.of_step runs
  have before : linked.state.pc ≠ .released := by
    intro released
    rw [Socket.step, State.liveStep_released label released] at runs
    simp at runs
  obtain ⟨_, -, rfl⟩ := Option.map_eq_some_iff.mp run
  exact ⟨wf, fun live => stores_relink stepped.requeued live (sound.stores before)⟩

end EventState

def eventSystem (cfg : Config) : System EventState Label where
  init := ⟨State.init, .empty⟩
  step := EventState.step cfg

/-- The runs with pointers are the runs of the runtime, and in each of their states the
pointers lead from `event_head` through the queued events. -/
theorem event_pointers_refine (cfg : Config) (labels : List Label) :
    ((eventSystem cfg).exec (eventSystem cfg).init labels).map EventState.state =
        (socketSystem cfg).exec State.init labels ∧
      ∀ linked, (eventSystem cfg).exec (eventSystem cfg).init labels = some linked →
        linked.state.pc ≠ .released → linked.queue.Stores linked.state.runtime.events := by
  have start : (eventSystem cfg).init.Sound cfg := ⟨.init cfg, fun _ => Cells.stores_empty⟩
  have kept (linked : EventState) (label : Label) (next : EventState) (sound : linked.Sound cfg)
      (run : (eventSystem cfg).step linked label = some next) : next.Sound cfg := sound.kept run
  refine ⟨System.exec_project EventState.state (EventState.Sound cfg)
    (fun _ label sound => sound.step_state label) kept start labels, fun linked run => ?_⟩
  exact (System.exec_invariant (EventState.Sound cfg) kept start run).stores

end Skyuv.Socket
