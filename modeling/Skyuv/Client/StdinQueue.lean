import Skyuv.Client.Stdin

/-!
# What the stdin queue promises

The history of a run has an event for every critical section and every return.
Each event is judged by what came before it: which lines were accepted, which were
taken, and what went wrong.  The state of the queue is read off the history, so one
invariant ties the two and every promise is kept event by event.
-/

set_option autoImplicit false

namespace Skyuv.Client.Stdin

open TransitionSystem

/-! ## Histories -/

/-- `arrived` is a call of `queue_line`, `finished` the last critical section of the
thread, `uncreated` a failed `uv_thread_create`, `entered` the critical section of a
`readstdin` call and `returned` its end; `joins` says that the call has joined the
thread. -/
inductive Event where
  | arrived (line : Line) (memory : Bool) (fate : Fate)
  | finished (result : Int)
  | uncreated
  | entered (ticket : Ticket)
  | returned (call : Nat) (joins : Bool) (answer : Answer)
  | raised (error : Int)
  deriving DecidableEq, Repr

namespace Event

def accepted? : Event → Option Line
  | arrived line _ .accepted => some line
  | _ => none

def ticket? : Event → Option Ticket
  | entered ticket => some ticket
  | _ => none

def taken? (event : Event) : Option Line := event.ticket?.bind Ticket.line

def isDrop : Event → Bool
  | arrived _ _ .dropped => true
  | _ => false

def isFailure : Event → Bool
  | arrived _ _ .lost | uncreated => true
  | finished result => result < 0
  | _ => false

def isFinish : Event → Bool
  | finished _ => true
  | _ => false

def isEof : Event → Bool
  | finished result => result = 0
  | _ => false

end Event

/-- The lines that were queued, and those that calls have taken. -/
def accepted (history : List Event) : List Line := history.filterMap Event.accepted?

def taken (history : List Event) : List Line := history.filterMap Event.taken?

def tickets (history : List Event) : List Ticket := history.filterMap Event.ticket?

/-- The event of a thread that cannot be created. -/
def creation (input : Input) (env : Env) : List Event :=
  if !input.started && env.threadCreate ≠ 0 then [.uncreated] else []

namespace State

/-- The event of a line that is queued. -/
def arrival (state : State) (bytes : Option (List UInt8)) (memory : Bool) : List Event :=
  match bytes with
  | none => []
  | some bytes => [.arrived (strip bytes) memory (state.input.queueLine bytes memory).2]

def events (state : State) : Label → List Event
  | .call env =>
      if state.initialized env ≠ 0 then [.raised (state.initialized env)]
      else
        creation state.input env ++ [.entered (state.input.start state.reader env).1.take.2]
  | .leave call memory =>
      match state.tickets[call]? with
      | none => []
      | some ticket => [.returned call ticket.join (ticket.returns memory)]
  | .read _ | .stop _ => []
  | .scan memory =>
      match state.reader with
      | .scanning line (byte :: _) => state.arrival (pushByte line byte).2 memory
      | _ => []
  | .flush memory =>
      match state.reader with
      | .drained line _ => state.arrival (remainder line) memory
      | _ => []
  | .finish =>
      match state.reader with
      | .closing result => [.finished result]
      | _ => []

end State

/-! ## The judgement -/

/-- When a status is the one to report. -/
def Status.Holds (before : List Event) : Status → Prop
  | overflow => before.any Event.isDrop = true
  | error => before.any Event.isDrop = false ∧ before.any Event.isFailure = true
  | eof => before.any Event.isDrop = false ∧ before.any Event.isFailure = false ∧
      before.any Event.isEof = true

/-- The oldest unread line is taken if there is one, and returned up to its first
NUL; a status is reported only when nothing is unread. -/
def Answer.Right (before : List Event) (line : Option Line) : Answer → Prop
  | .line bytes => ∃ oldest unread, accepted before = taken before ++ oldest :: unread ∧
      line = some oldest ∧ bytes = cString oldest
  | .status told => accepted before = taken before ∧ line = none ∧ told.Holds before
  | .nothing => accepted before = taken before ∧ line = none ∧
      before.any Event.isDrop = false ∧ before.any Event.isFailure = false ∧
      before.any Event.isEof = false
  | .exhausted => False

def Event.Right (before : List Event) : Event → Prop
  | arrived _ memory fate => before.any Event.isFinish = false ∧
      fate = if !memory then .lost
        else if (accepted before).length = (taken before).length + 1023 then .dropped
        else .accepted
  | finished _ => before.any Event.isFinish = false
  | entered ticket => ticket.answer.Right before ticket.line
  | returned call joins answer =>
      (∀ joins other, .returned call joins other ∉ before) ∧
      (joins = true → before.any Event.isFinish = true ∧
        ∀ other answer, .returned other true answer ∉ before) ∧
      ∃ ticket, (tickets before)[call]? = some ticket ∧
        (answer = ticket.answer ∨ answer = .exhausted)
  | uncreated | raised _ => True

/-! ## The queue and its flags -/

/-- The static `input` is what the history says. -/
structure Recorded (history : List Event) (input : Input) : Prop where
  unread : ∃ unread, input.lines.Holds unread ∧ accepted history = taken history ++ unread
  overflow : input.overflow = history.any Event.isDrop
  failed : input.failed = history.any Event.isFailure
  eof : input.eof = history.any Event.isEof
  finished : input.finished = history.any Event.isFinish

section Recorded

variable {history : List Event} {input : Input} {event : Event}

theorem accepted_concat : accepted (history ++ [event]) =
    accepted history ++ event.accepted?.toList := by
  rw [accepted, List.filterMap_append]
  cases shown : event.accepted? <;> simp [shown, accepted]

theorem taken_concat : taken (history ++ [event]) = taken history ++ event.taken?.toList := by
  rw [taken, List.filterMap_append]
  cases shown : event.taken? <;> simp [shown, taken]

theorem tickets_concat : tickets (history ++ [event]) =
    tickets history ++ event.ticket?.toList := by
  rw [tickets, List.filterMap_append]
  cases shown : event.ticket? <;> simp [shown, tickets]

theorem recorded_start : Recorded [] {} :=
  ⟨⟨[], CircularBuffer.holds_empty, rfl⟩, rfl, rfl, rfl, rfl⟩

/-- One more event, with what it does to the flags. -/
theorem Recorded.next (recorded : Recorded history input) {after : Input} {unread : List Line}
    (holds : after.lines.Holds unread)
    (balance : accepted (history ++ [event]) = taken (history ++ [event]) ++ unread)
    (overflow : after.overflow = (input.overflow || event.isDrop))
    (failed : after.failed = (input.failed || event.isFailure))
    (eof : after.eof = (input.eof || event.isEof))
    (finished : after.finished = (input.finished || event.isFinish)) :
    Recorded (history ++ [event]) after where
  unread := ⟨unread, holds, balance⟩
  overflow := by simp [overflow, recorded.overflow]
  failed := by simp [failed, recorded.failed]
  eof := by simp [eof, recorded.eof]
  finished := by simp [finished, recorded.finished]

/-- An event that leaves the lines alone. -/
theorem Recorded.balance (recorded : Recorded history input) (line : event.accepted? = none)
    (took : event.taken? = none) : ∃ unread, input.lines.Holds unread ∧
      accepted (history ++ [event]) = taken (history ++ [event]) ++ unread := by
  obtain ⟨unread, holds, balance⟩ := recorded.unread
  refine ⟨unread, holds, ?_⟩
  rw [accepted_concat, taken_concat, line, took]
  simpa using balance

/-- An event that the queue does not know of. -/
theorem Recorded.silent (recorded : Recorded history input) (line : event.accepted? = none)
    (took : event.taken? = none) (drop : event.isDrop = false) (failure : event.isFailure = false)
    (eof : event.isEof = false) (finish : event.isFinish = false) :
    Recorded (history ++ [event]) input := by
  obtain ⟨unread, holds, balance⟩ := recorded.balance line took
  refine recorded.next holds balance ?_ ?_ ?_ ?_
  · rw [drop, Bool.or_false]
  · rw [failure, Bool.or_false]
  · rw [eof, Bool.or_false]
  · rw [finish, Bool.or_false]

/-- The count that decides over a line is that of the buffer. -/
theorem Recorded.full_iff (recorded : Recorded history input) :
    input.lines.isFull = true ↔ (accepted history).length = (taken history).length + 1023 := by
  obtain ⟨unread, holds, balance⟩ := recorded.unread
  rw [holds.isFull_iff, balance, List.length_append]
  omega

theorem Recorded.arrived (recorded : Recorded history input)
    (running : history.any Event.isFinish = false) (bytes : List UInt8) (memory : Bool) :
    Event.Right history (.arrived (strip bytes) memory (input.queueLine bytes memory).2) ∧
      Recorded (history ++ [.arrived (strip bytes) memory (input.queueLine bytes memory).2])
        (input.queueLine bytes memory).1 := by
  have full := recorded.full_iff
  cases memory with
  | false =>
      obtain ⟨unread, holds, balance⟩ := recorded.balance
        (show (Event.arrived (strip bytes) false .lost).accepted? = none from rfl) rfl
      refine ⟨⟨running, rfl⟩, recorded.next holds balance ?_ ?_ ?_ ?_⟩ <;>
        simp [Input.queueLine, Event.isDrop, Event.isFailure, Event.isEof, Event.isFinish]
  | true =>
      by_cases crowded : input.lines.isFull = true
      · have drops : input.queueLine bytes true = ({ input with overflow := true }, .dropped) := by
          simp [Input.queueLine, crowded]
        obtain ⟨unread, holds, balance⟩ := recorded.balance
          (show (Event.arrived (strip bytes) true .dropped).accepted? = none from rfl) rfl
        rw [drops]
        refine ⟨⟨running, by simp [full.mp crowded]⟩, recorded.next holds balance ?_ ?_ ?_ ?_⟩ <;>
          simp [Event.isDrop, Event.isFailure, Event.isEof, Event.isFinish]
      · have accepts : input.queueLine bytes true =
            ({ input with lines := input.lines.push (strip bytes) }, .accepted) := by
          simp [Input.queueLine, crowded]
        obtain ⟨unread, holds, balance⟩ := recorded.unread
        have room : unread.length + 1 < 1024 := by
          have fits := holds.fits
          rw [holds.isFull_iff] at crowded
          omega
        have longer : accepted (history ++ [.arrived (strip bytes) true .accepted]) =
            taken (history ++ [.arrived (strip bytes) true .accepted]) ++
              (unread ++ [strip bytes]) := by
          rw [accepted_concat, taken_concat, balance]
          simp [Event.accepted?, Event.taken?, Event.ticket?]
        rw [accepts]
        refine ⟨⟨running, by simp [mt full.mpr crowded]⟩,
          recorded.next (holds.push room) longer ?_ ?_ ?_ ?_⟩ <;>
            simp [Event.isDrop, Event.isFailure, Event.isEof, Event.isFinish]

/-- Without a line the answer follows the flags. -/
theorem Recorded.answer_right (recorded : Recorded history input)
    (nothing : accepted history = taken history) (join : Bool) :
    Ticket.answer ⟨none, input.eof, input.failed, input.overflow, join⟩ |>.Right history none := by
  have overflow := recorded.overflow
  have failed := recorded.failed
  have eof := recorded.eof
  cases one : input.overflow with
  | true => exact ⟨nothing, rfl, overflow.symm.trans one⟩
  | false =>
      have intact : history.any Event.isDrop = false := overflow.symm.trans one
      cases two : input.failed with
      | true => exact ⟨nothing, rfl, intact, failed.symm.trans two⟩
      | false =>
          have sound : history.any Event.isFailure = false := failed.symm.trans two
          cases three : input.eof with
          | true => exact ⟨nothing, rfl, intact, sound, eof.symm.trans three⟩
          | false => exact ⟨nothing, rfl, intact, sound, eof.symm.trans three⟩

theorem Recorded.entered (recorded : Recorded history input) :
    Event.Right history (.entered input.take.2) ∧
      Recorded (history ++ [.entered input.take.2]) input.take.1 := by
  obtain ⟨unread, holds, balance⟩ := recorded.unread
  cases unread with
  | nil =>
      have empty := holds.isEmpty_iff.mpr rfl
      have ticket : input.take.2 = ⟨none, input.eof, input.failed, input.overflow,
          !input.joined && input.finished⟩ := by
        simp [Input.take, empty]
      rw [List.append_nil] at balance
      have kept : input.take.1.lines.Holds [] := by simpa [Input.take, empty] using holds
      rw [ticket]
      refine ⟨recorded.answer_right balance _, recorded.next kept ?_ ?_ ?_ ?_ ?_⟩
      · rw [accepted_concat, taken_concat, balance]
        simp [Event.accepted?, Event.taken?, Event.ticket?]
      all_goals simp [Input.take, Event.isDrop, Event.isFailure, Event.isEof, Event.isFinish]
  | cons oldest unread =>
      have nonempty : input.lines.isEmpty = false := by
        simpa using mt holds.isEmpty_iff.mp (by simp)
      have ticket : input.take.2 = ⟨some oldest, input.eof, input.failed, input.overflow,
          !input.joined && input.finished⟩ := by
        simp [Input.take, nonempty, holds.head]
      have fewer : input.take.1.lines.Holds unread := by
        simpa [Input.take, nonempty] using holds.pop
      rw [ticket]
      refine ⟨⟨oldest, unread, balance, rfl, rfl⟩, recorded.next fewer ?_ ?_ ?_ ?_ ?_⟩
      · rw [accepted_concat, taken_concat, balance]
        simp [Event.accepted?, Event.taken?, Event.ticket?]
      all_goals simp [Input.take, Event.isDrop, Event.isFailure, Event.isEof, Event.isFinish]

theorem Recorded.start (recorded : Recorded history input) (reader : Reader) (env : Env) :
    Recorded (history ++ creation input env) (input.start reader env).1 := by
  unfold Input.start creation
  cases started : input.started with
  | true => simpa using recorded
  | false =>
      by_cases created : env.threadCreate = 0
      · simp only [created, ne_eq, not_true_eq_false, decide_false, Bool.and_false,
          Bool.false_eq_true, if_false, List.append_nil]
        exact ⟨recorded.unread, recorded.overflow, recorded.failed, recorded.eof,
          recorded.finished⟩
      · obtain ⟨unread, holds, balance⟩ := recorded.balance
          (show Event.uncreated.accepted? = none from rfl) rfl
        simp only [ne_eq, created, not_false_eq_true, decide_true, Bool.not_false, Bool.and_self,
          if_true, Bool.false_eq_true, if_false]
        refine recorded.next holds balance ?_ ?_ ?_ ?_ <;>
          simp [Event.isDrop, Event.isFailure, Event.isEof, Event.isFinish]

theorem Event.isFinish_of_isEof (eof : event.isEof = true) : event.isFinish = true := by
  cases event with
  | finished result => rfl
  | _ => cases eof

theorem Recorded.finish (recorded : Recorded history input)
    (running : history.any Event.isFinish = false) (result : Int) :
    Recorded (history ++ [.finished result])
      { input with eof := result = 0, failed := input.failed || result < 0, finished := true } := by
  obtain ⟨unread, holds, balance⟩ := recorded.balance
    (show (Event.finished result).accepted? = none from rfl) rfl
  have unended : input.eof = false := by
    rw [recorded.eof, List.any_eq_false]
    rw [List.any_eq_false] at running
    intro event member eof
    exact running event member (Event.isFinish_of_isEof eof)
  refine recorded.next holds balance ?_ ?_ ?_ ?_ <;>
    simp [Event.isDrop, Event.isFailure, Event.isEof, Event.isFinish, unended]

end Recorded

/-! ## The thread and the calls -/

/-- Where the thread is. -/
structure Threaded (input : Input) (reader : Reader) : Prop where
  done : input.finished = true ↔ reader = .done
  absent : input.started = false → reader = .absent

/-- The calls that have held the mutex, and who joins the thread. -/
structure Counted (history : List Event) (state : State) : Prop where
  tickets : tickets history = state.tickets
  joining : ∀ (call : Nat) ticket, state.tickets[call]? = some ticket → ticket.join = true →
    state.input.joined = true ∧ state.input.finished = true
  once : ∀ (call other : Nat) one two, state.tickets[call]? = some one →
    state.tickets[other]? = some two → one.join = true → two.join = true → call = other
  joined : ∀ call answer, .returned call true answer ∈ history →
    ∃ ticket, state.tickets[call]? = some ticket ∧ ticket.join = true
  nodup : state.inside.Nodup
  inside : ∀ call ∈ state.inside, call < state.tickets.length
  returned : ∀ call joins answer, .returned call joins answer ∈ history →
    call ∉ state.inside ∧ call < state.tickets.length

structure Tied (history : List Event) (state : State) : Prop where
  recorded : Recorded history state.input
  threaded : Threaded state.input state.reader
  counted : Counted history state

section Tied

variable {history : List Event} {state : State}

theorem tied_start : Tied [] {} where
  recorded := recorded_start
  threaded := ⟨by simp, fun _ => rfl⟩
  counted := ⟨rfl, by simp, by simp, by simp, List.nodup_nil, by simp, by simp⟩

/-- The calls read only two flags of the input, and nothing unsets them. -/
theorem Counted.kept (counted : Counted history state) {next : State}
    (same : next.tickets = state.tickets ∧ next.inside = state.inside)
    (joined : state.input.joined = true → next.input.joined = true)
    (finished : state.input.finished = true → next.input.finished = true) :
    Counted history next := by
  obtain ⟨tickets, joining, once, taken, nodup, inside, returned⟩ := counted
  rw [← same.1] at tickets joining once taken inside returned
  rw [← same.2] at nodup inside returned
  refine ⟨tickets, fun call ticket get join => ?_, once, taken, nodup, inside, returned⟩
  obtain ⟨before, done⟩ := joining call ticket get join
  exact ⟨joined before, finished done⟩

/-- A step of the thread does not concern the calls. -/
theorem Counted.reader (counted : Counted history state) {event : Event} {input : Input}
    {reader : Reader} (joined : state.input.joined = true → input.joined = true)
    (finished : state.input.finished = true → input.finished = true)
    (ticket : event.ticket? = none)
    (other : ∀ call joins answer, event ≠ .returned call joins answer) :
    Counted (history ++ [event]) { state with input := input, reader := reader } where
  tickets := by
    rw [tickets_concat, ticket]
    simpa using counted.tickets
  joining := by
    intro call found get join
    obtain ⟨one, two⟩ := counted.joining call found get join
    exact ⟨joined one, finished two⟩
  once := counted.once
  joined := by
    intro call answer member
    rcases List.mem_append.mp member with older | own
    · exact counted.joined call answer older
    · exact absurd (List.mem_singleton.mp own).symm (other call true answer)
  nodup := counted.nodup
  inside := counted.inside
  returned := by
    intro call joins answer member
    rcases List.mem_append.mp member with older | own
    · exact counted.returned call joins answer older
    · exact absurd (List.mem_singleton.mp own).symm (other call joins answer)

/-- While the thread runs, the history has no end of it. -/
theorem Tied.running (tied : Tied history state) (running : state.reader ≠ .done) :
    history.any Event.isFinish = false := by
  rw [← tied.recorded.finished]
  simpa using mt tied.threaded.done.mp running

theorem queueLine_keeps (input : Input) (bytes : List UInt8) (memory : Bool) :
    (input.queueLine bytes memory).1.started = input.started ∧
      (input.queueLine bytes memory).1.joined = input.joined ∧
      (input.queueLine bytes memory).1.finished = input.finished := by
  unfold Input.queueLine
  split
  · exact ⟨rfl, rfl, rfl⟩
  · split <;> exact ⟨rfl, rfl, rfl⟩

/-- A step of the running thread that may queue a line. -/
theorem Tied.queue (tied : Tied history state) (right : Trace.Always Event.Right history)
    (present : state.reader ≠ .absent) (running : state.reader ≠ .done) {reader : Reader}
    (onward : reader ≠ .done) (bytes : Option (List UInt8)) (memory : Bool) :
    Trace.Always Event.Right (history ++ state.arrival bytes memory) ∧
      Tied (history ++ state.arrival bytes memory) (state.queue bytes memory reader) := by
  have started : ∀ input : Input, input.started = state.input.started →
      input.started = false → reader = .absent := by
    intro input same no
    exact absurd (tied.threaded.absent (same ▸ no)) present
  have unfinished : ∀ input : Input, input.finished = state.input.finished →
      (input.finished = true ↔ reader = .done) := by
    intro input same
    rw [same]
    exact ⟨fun done => absurd (tied.threaded.done.mp done) running, fun done => absurd done onward⟩
  cases bytes with
  | none =>
      simp only [State.arrival, State.queue, List.append_nil]
      exact ⟨right, tied.recorded, ⟨unfinished _ rfl, started _ rfl⟩,
        tied.counted.kept ⟨rfl, rfl⟩ id id⟩
  | some bytes =>
      obtain ⟨starts, joins, ends⟩ := queueLine_keeps state.input bytes memory
      obtain ⟨arrival, recorded⟩ := tied.recorded.arrived (tied.running running) bytes memory
      refine ⟨right.concat arrival, recorded, ⟨unfinished _ ends, started _ starts⟩, ?_⟩
      exact tied.counted.reader joins.trans ends.trans rfl (by simp)

theorem Tied.finish (tied : Tied history state) (right : Trace.Always Event.Right history)
    (present : state.reader ≠ .absent) (running : state.reader ≠ .done) (result : Int) :
    Trace.Always Event.Right (history ++ [.finished result]) ∧
      Tied (history ++ [.finished result]) (state.finish result) := by
  have unended := tied.running running
  refine ⟨right.concat unended, tied.recorded.finish unended result,
    ⟨by simp [State.finish], ?_⟩, ?_⟩
  · intro no
    exact absurd (tied.threaded.absent no) present
  · exact tied.counted.reader id (fun _ => rfl) rfl (by simp)

theorem Tied.initError (tied : Tied history state) (error : Option Int) :
    Tied history { state with initError := error } where
  recorded := tied.recorded
  threaded := tied.threaded
  counted := tied.counted.kept ⟨rfl, rfl⟩ id id

theorem Tied.raise (tied : Tied history state) (right : Trace.Always Event.Right history)
    (error : Int) :
    Trace.Always Event.Right (history ++ [.raised error]) ∧
      Tied (history ++ [.raised error]) { state with initError := some error } := by
  have raised : Tied (history ++ [.raised error]) state :=
    ⟨tied.recorded.silent rfl rfl rfl rfl rfl rfl, tied.threaded,
      tied.counted.reader id id rfl (by simp)⟩
  exact ⟨right.concat trivial, raised.initError (some error)⟩

theorem Tied.start (tied : Tied history state) (right : Trace.Always Event.Right history)
    (env : Env) :
    Trace.Always Event.Right (history ++ creation state.input env) ∧
      Tied (history ++ creation state.input env)
        { state with
          input := (state.input.start state.reader env).1
          reader := (state.input.start state.reader env).2 } := by
  have recorded := tied.recorded.start state.reader env
  unfold Input.start creation at *
  cases started : state.input.started with
  | true => simpa [started] using ⟨right, tied⟩
  | false =>
      have absent := tied.threaded.absent started
      have unfinished : ¬ state.input.finished = true := by
        rw [tied.threaded.done, absent]
        simp
      by_cases created : env.threadCreate = 0
      · simp only [started, created, ne_eq, not_true_eq_false, decide_false, Bool.and_false,
          Bool.false_eq_true, if_false, List.append_nil] at recorded ⊢
        refine ⟨right, recorded, ⟨?_, by simp⟩, tied.counted.kept ⟨rfl, rfl⟩ id id⟩
        simpa using unfinished
      · simp only [started, ne_eq, created, not_false_eq_true, decide_true, Bool.not_false,
          Bool.and_self, if_true, Bool.false_eq_true, if_false] at recorded ⊢
        refine ⟨right.concat trivial, recorded, ⟨tied.threaded.done, by simp⟩, ?_⟩
        exact tied.counted.reader (fun _ => rfl) id rfl (by simp)

/-- A new call: whoever joins the thread keeps later calls from it. -/
theorem Counted.enter (counted : Counted history state) :
    Counted (history ++ [.entered state.input.take.2])
      { state with
        input := state.input.take.1
        tickets := state.tickets ++ [state.input.take.2]
        inside := state.inside ++ [state.tickets.length] } := by
  have older : ∀ (call : Nat) ticket, state.tickets[call]? = some ticket → ticket.join = true →
      state.input.take.2.join = false := by
    intro call ticket get join
    simp [Input.take, (counted.joining call ticket get join).1]
  constructor
  case tickets =>
    rw [tickets_concat, counted.tickets]
    rfl
  case joining =>
    intro call ticket get join
    obtain get | ⟨-, rfl⟩ := Trace.concat_entry get
    · obtain ⟨joined, finished⟩ := counted.joining call ticket get join
      exact ⟨by simp [Input.take, joined], finished⟩
    · simp only [Input.take, Bool.and_eq_true] at join
      exact ⟨by simp [Input.take, join.1, join.2], join.2⟩
  case once =>
    intro call other one two get get' join join'
    obtain get | ⟨place, rfl⟩ := Trace.concat_entry get
    · obtain get' | ⟨-, rfl⟩ := Trace.concat_entry get'
      · exact counted.once call other one two get get' join join'
      · exact absurd join' (by simp [older call one get join])
    · obtain get' | ⟨place', -⟩ := Trace.concat_entry get'
      · exact absurd join (by simp [older other two get' join'])
      · exact place.trans place'.symm
  case joined =>
    intro call answer member
    rcases List.mem_append.mp member with past | own
    · obtain ⟨ticket, get, join⟩ := counted.joined call answer past
      refine ⟨ticket, ?_, join⟩
      rw [List.getElem?_append_left (List.getElem?_eq_some_iff.mp get).1]
      exact get
    · simp at own
  case nodup =>
    refine List.nodup_append.mpr ⟨counted.nodup, by simp, ?_⟩
    intro call member other new same
    have bound := counted.inside call member
    rw [List.mem_singleton] at new
    omega
  case inside =>
    intro call member
    rw [List.length_append, List.length_singleton]
    rcases List.mem_append.mp member with past | own
    · exact Nat.lt_succ_of_lt (counted.inside call past)
    · rw [List.mem_singleton.mp own]
      exact Nat.lt_succ_self _
  case returned =>
    intro call joins answer member
    rcases List.mem_append.mp member with past | own
    · obtain ⟨left, bound⟩ := counted.returned call joins answer past
      rw [List.length_append, List.length_singleton, List.mem_append, List.mem_singleton]
      refine ⟨?_, Nat.lt_succ_of_lt bound⟩
      rintro (again | rfl)
      · exact left again
      · exact absurd bound (Nat.lt_irrefl _)
    · simp at own

theorem Tied.enter (tied : Tied history state) (right : Trace.Always Event.Right history) :
    Trace.Always Event.Right (history ++ [.entered state.input.take.2]) ∧
      Tied (history ++ [.entered state.input.take.2])
        { state with
          input := state.input.take.1
          tickets := state.tickets ++ [state.input.take.2]
          inside := state.inside ++ [state.tickets.length] } := by
  obtain ⟨entered, recorded⟩ := tied.recorded.entered
  exact ⟨right.concat entered, recorded, ⟨tied.threaded.done, tied.threaded.absent⟩,
    tied.counted.enter⟩

theorem Ticket.returns_cases (ticket : Ticket) (memory : Bool) :
    ticket.returns memory = ticket.answer ∨ ticket.returns memory = .exhausted := by
  unfold Ticket.returns
  split
  · exact .inl rfl
  · exact .inr rfl

/-- The thread is joined by the one call that has claimed it. -/
theorem Tied.join (tied : Tied history state) {call : Nat} {ticket : Ticket}
    (member : call ∈ state.inside) (found : state.tickets[call]? = some ticket)
    (join : ticket.join = true) : history.any Event.isFinish = true ∧
      ∀ other answer, .returned other true answer ∉ history := by
  refine ⟨?_, fun other answer again => ?_⟩
  · rw [← tied.recorded.finished]
    exact (tied.counted.joining call ticket found join).2
  · obtain ⟨earlier, get, join'⟩ := tied.counted.joined other answer again
    have same := tied.counted.once other call earlier ticket get found join' join
    exact (tied.counted.returned other true answer again).1 (same ▸ member)

theorem Tied.leave (tied : Tied history state) (right : Trace.Always Event.Right history)
    {call : Nat} {ticket : Ticket} (member : call ∈ state.inside)
    (found : state.tickets[call]? = some ticket) (memory : Bool) :
    Trace.Always Event.Right
        (history ++ [.returned call ticket.join (ticket.returns memory)]) ∧
      Tied (history ++ [.returned call ticket.join (ticket.returns memory)])
        { state with inside := state.inside.erase call } := by
  have counted := tied.counted
  have first : ∀ joins other, .returned call joins other ∉ history := by
    intro joins other again
    exact (counted.returned call joins other again).1 member
  refine ⟨right.concat ⟨first, tied.join member found, ticket, counted.tickets ▸ found,
      ticket.returns_cases memory⟩,
    tied.recorded.silent rfl rfl rfl rfl rfl rfl, tied.threaded, ?_⟩
  refine ⟨?_, counted.joining, counted.once, ?_, counted.nodup.erase call, ?_, ?_⟩
  · rw [tickets_concat, counted.tickets]
    exact List.append_nil _
  · intro other answer again
    rcases List.mem_append.mp again with past | own
    · exact counted.joined other answer past
    · obtain ⟨rfl, join, -⟩ := Event.returned.inj (List.mem_singleton.mp own)
      exact ⟨ticket, found, join.symm⟩
  · intro other still
    exact counted.inside other (List.mem_of_mem_erase still)
  · intro other joins answer again
    rcases List.mem_append.mp again with past | own
    · obtain ⟨left, bound⟩ := counted.returned other joins answer past
      exact ⟨fun still => left (List.mem_of_mem_erase still), bound⟩
    · obtain ⟨rfl, -, -⟩ := Event.returned.inj (List.mem_singleton.mp own)
      exact ⟨fun still => counted.nodup.not_mem_erase still, counted.inside other member⟩

theorem Tied.step (tied : Tied history state) (right : Trace.Always Event.Right history)
    {label : Label} {next : State} (run : stdinSystem.step state label = some next) :
    Trace.Always Event.Right (history ++ state.events label) ∧
      Tied (history ++ state.events label) next := by
  cases State.stepped run with
  | failed env failure =>
      simp only [State.events, failure, ne_eq, not_false_eq_true, if_true]
      exact tied.raise right _
  | entered env fine =>
      simp only [State.events, fine, ne_eq, not_true_eq_false, if_false]
      obtain ⟨right, started⟩ := tied.start right env
      obtain ⟨right, entered⟩ := started.enter right
      rw [← List.append_assoc]
      exact ⟨right, entered.initError (some 0)⟩
  | left call memory may =>
      simp only [mayLeave, Bool.and_eq_true, decide_eq_true_eq] at may
      obtain ⟨member, passes⟩ := may
      cases found : state.tickets[call]? with
      | none => simp [found] at passes
      | some ticket =>
          simp only [State.events, found]
          exact tied.leave right member found memory
  | read bytes line place | stopped result line place =>
      exact tied.queue right (by simp [place]) (by simp [place]) (by simp) none true
  | scanned memory line byte rest place =>
      have onward : afterScan (pushByte line byte).1 rest ≠ .done := by
        unfold afterScan
        split <;> simp
      simp only [State.events, place]
      exact tied.queue right (by simp [place]) (by simp [place]) onward _ memory
  | flushed memory line result place =>
      simp only [State.events, place]
      exact tied.queue right (by simp [place]) (by simp [place]) (by simp) _ memory
  | finished result place =>
      simp only [State.events, place]
      exact tied.finish right (by simp [place]) (by simp [place]) result

end Tied

/-! ## Whole runs -/

theorem tied_run {labels : List Label} {final : State}
    (run : stdinSystem.exec {} labels = some final) :
    Trace.Always Event.Right (stdinSystem.outputs State.events {} labels) ∧
      Tied (stdinSystem.outputs State.events {} labels) final := by
  have always : stdinSystem.Along (fun _ _ => True) {} labels := .of_forall (fun _ _ => trivial) _ _
  have tied : Trace.Always Event.Right ([] ++ stdinSystem.outputs State.events {} labels) ∧
      Tied ([] ++ stdinSystem.outputs State.events {} labels) final :=
    System.exec_outputs State.events
      (fun history state => Trace.Always Event.Right history ∧ Tied history state)
      (fun history state label next _ holds _ step => holds.2.step holds.1 step)
      System.Reachable.start ⟨Trace.always_nil, tied_start⟩ always run
  rwa [List.nil_append] at tied

/-- Nothing arrives after the thread has finished. -/
theorem accepted_of_finished {before after : List Event}
    (right : Trace.Always Event.Right (before ++ after))
    (finished : before.any Event.isFinish = true) :
    accepted (before ++ after) = accepted before := by
  induction after generalizing before with
  | nil => rw [List.append_nil]
  | cons event rest ih =>
      have silent : event.accepted? = none := by
        have judged : Event.Right before event := right before event rest rfl
        cases event with
        | arrived line memory fate =>
            rw [judged.1] at finished
            cases finished
        | _ => rfl
      rw [List.append_cons] at right ⊢
      rw [ih right (by simp [finished]), accepted_concat, silent]
      exact List.append_nil _

/-- What a call has returned is what its ticket says. -/
theorem returned_answer {history : List Event} (right : Trace.Always Event.Right history)
    {call : Nat} {joins : Bool} {answer : Answer} (member : .returned call joins answer ∈ history) :
    ∃ ticket, (tickets history)[call]? = some ticket ∧
      (answer = ticket.answer ∨ answer = .exhausted) := by
  obtain ⟨before, after, split⟩ := List.append_of_mem member
  obtain ⟨-, -, ticket, found, answers⟩ := right before _ after split
  refine ⟨ticket, ?_, answers⟩
  have longer : tickets history =
      tickets before ++ tickets (.returned call joins answer :: after) := by
    rw [split]
    exact List.filterMap_append
  rw [longer, List.getElem?_append_left (List.getElem?_eq_some_iff.mp found).1]
  exact found

theorem cString_eq_iff {text : Line} : cString text = text ↔ 0 ∉ text := by
  unfold cString
  rw [List.takeWhile_eq_self_iff]
  constructor
  · intro all member
    have := all 0 member
    simp at this
  · intro none byte member
    simp only [decide_eq_true_eq]
    rintro rfl
    exact none member

/-- For every run: each event is as it should be; the lines taken are the accepted
lines in order, up to those still in the buffer; a call that took a line and returns
gives all of it just when there is no NUL in it; overflow is set exactly when a line
was dropped; and once a call is to report the end of the input, every line that will
ever be accepted has been taken. -/
theorem stdin_queue {labels : List Label} {final : State}
    (run : stdinSystem.exec {} labels = some final) :
    Trace.Always Event.Right (stdinSystem.outputs State.events {} labels) ∧
      (∃ unread, final.input.lines.Holds unread ∧
        accepted (stdinSystem.outputs State.events {} labels) =
          taken (stdinSystem.outputs State.events {} labels) ++ unread) ∧
      (∀ call joins answer,
        .returned call joins answer ∈ stdinSystem.outputs State.events {} labels →
        answer ≠ .exhausted →
        ∃ ticket, (tickets (stdinSystem.outputs State.events {} labels))[call]? = some ticket ∧
          ∀ line, ticket.line = some line → (answer = .line line ↔ 0 ∉ line)) ∧
      final.input.overflow = (stdinSystem.outputs State.events {} labels).any Event.isDrop ∧
      ∀ before ticket after,
        stdinSystem.outputs State.events {} labels = before ++ .entered ticket :: after →
        ticket.answer = .status .eof →
        accepted (stdinSystem.outputs State.events {} labels) = taken before := by
  obtain ⟨right, tied⟩ := tied_run run
  refine ⟨right, tied.recorded.unread, ?_, tied.recorded.overflow, ?_⟩
  · intro call joins answer member told
    obtain ⟨ticket, found, same⟩ := returned_answer right member
    refine ⟨ticket, found, fun line took => ?_⟩
    rw [same.resolve_right told, Ticket.answer, took]
    simp only [Answer.line.injEq]
    exact cString_eq_iff
  · intro before ticket after split ended
    have entered : Answer.Right before ticket.line ticket.answer := right before _ after split
    rw [ended] at entered
    obtain ⟨nothing, -, -, -, eof⟩ := entered
    have finished : before.any Event.isFinish = true := by
      obtain ⟨event, member, ends⟩ := List.any_eq_true.mp eof
      exact List.any_eq_true.mpr ⟨event, member, Event.isFinish_of_isEof ends⟩
    rw [split] at right ⊢
    rw [accepted_of_finished right finished, nothing]

/-- One line is read and returned, then the input ends. -/
def lineRun : List Label :=
  [.call {}, .leave 0 true, .read [104, 105, 10], .scan true, .scan true, .scan true, .call {},
    .leave 1 true, .stop 0, .flush true, .finish, .call {}, .leave 2 true]

theorem stdin_queue_line :
    stdinSystem.outputs State.events {} lineRun =
        [.entered ⟨none, false, false, false, false⟩, .returned 0 false .nothing,
          .arrived [104, 105] true .accepted,
          .entered ⟨some [104, 105], false, false, false, false⟩,
          .returned 1 false (.line [104, 105]), .finished 0,
          .entered ⟨none, true, false, false, true⟩, .returned 2 true (.status .eof)] ∧
      Trace.Always Event.Right (stdinSystem.outputs State.events {} lineRun) := by
  have ran : (stdinSystem.exec {} lineRun).isSome = true := by decide
  obtain ⟨final, run⟩ := Option.isSome_iff_exists.mp ran
  exact ⟨by decide, (stdin_queue run).1⟩

/-- What the calls have returned, in the order of the returns. -/
def answers (history : List Event) : List Answer :=
  history.filterMap fun event =>
    match event with
    | .returned _ _ answer => some answer
    | _ => none

/-- A line with a NUL in it. -/
def nulRun : List Label :=
  [.call {}, .leave 0 true, .read [97, 0, 98, 10], .scan true, .scan true, .scan true,
    .scan true, .call {}, .leave 1 true]

/-- The string that is returned is shorter than the line. -/
theorem stdin_queue_nul :
    accepted (stdinSystem.outputs State.events {} nulRun) = [[97, 0, 98]] ∧
      answers (stdinSystem.outputs State.events {} nulRun) = [.nothing, .line [97]] := by
  decide

end Skyuv.Client.Stdin
