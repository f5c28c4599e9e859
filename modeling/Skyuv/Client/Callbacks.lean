import Skyuv.Client.Protocol

/-!
# Callbacks keep the protocol

What each libuv callback does to the holder of the open request, and that the
callbacks on quiet connections disturb nothing.
-/

set_option autoImplicit false

namespace Skyuv.Client

open TransitionSystem
open Socket (uvEof uvEinval uvEnomem uvEcanceled)

/-! ## Failing and connecting -/

section Frames

variable {runtime : Runtime} {key request : Nat} {connection : Connection} {record : Request}

theorem Frame.fail_eq (sound : connection.Sound) (held : connection.request = some request)
    (found : runtime.requests[request]? = some record) (unanswered : record.answers = [])
    (result : Int) :
    Frame.fail ⟨key, connection, runtime⟩ result =
      ⟨key, connection.shut, { runtime with
        requests := runtime.requests.set request { record with result := result } }⟩ := by
  rw [fail, sound.close_eq, held]
  simp only [Runtime.setResult_of_open found unanswered]

theorem Frame.record_eq (creator : connection.creator = request)
    (found : runtime.requests[request]? = some record) (event : Event) :
    Frame.record ⟨key, connection, runtime⟩ event =
      ⟨key, connection, { runtime with
        requests := runtime.requests.set request
          { record with events := record.events ++ [event] } }⟩ := by
  rw [Frame.record, creator, Runtime.amend_of_found found]

end Frames

namespace Runtime

variable {runtime : Runtime} {key request : Nat} {connection : Connection} {record : Request}

/-- A dialing connection that gives up for `result`; `before` and `amended` are
the connection and its request at that point. -/
theorem Focus.fail (focus : runtime.Focus key request connection record) (base : runtime.Base)
    (live : connection.frees = 0) {before : Connection} {amended : Request} {result : Int}
    (sound : before.Sound) (same : before.frees = connection.frees)
    (creator : before.creator = connection.creator)
    (own : connection.creator = request) (held : before.request = some request)
    (tcp : before.tcp = .open) (cancelled : before.connecting = true → before.timedOut = true)
    (writing : before.writing = none) (shutting : before.shutting = none)
    (call : amended.call = record.call) (unanswered : amended.answers = [])
    (connects : record.connects = true) (decided : amended.verdict = some result)
    (failure : result ≠ 0) :
    (Frame.fail ⟨key, before, { runtime with
      requests := runtime.requests.set request amended }⟩ result).commit.Wf := by
  obtain ⟨bound, -⟩ := List.getElem?_eq_some_iff.mp focus.opened.found
  have ending : before.shut.Ending request := {
    held := held
    tcp := by simp [Connection.shut, tcp, Handle.shut, Handle.isClosing]
    timer := by cases timer : before.timer <;> simp [Connection.shut, timer, Handle.shut]
    cancelled := fun connecting =>
      ⟨cancelled connecting, by simp [Connection.shut, tcp, Handle.shut]⟩
    writing := writing
    shutting := shutting
    live := same.trans live }
  have update : runtime.Update key request before.shut { amended with result := result }
      (Frame.fail ⟨key, before, { runtime with
        requests := runtime.requests.set request amended }⟩ result).commit := by
    rw [Frame.fail_eq sound held (List.getElem?_set_self bound) unanswered]
    refine ⟨rfl, List.set_set .., ?_, base.faults⟩
    rw [if_pos ending.live]
    rfl
  have holds : before.shut.Holds request { amended with result := result } :=
    .failing ending (creator.trans own)
      ((Request.connects_of_call (by exact call)).trans connects) decided failure
  exact focus.proceed base live update sound.shut creator call unanswered holds

theorem Focus.timeout (focus : runtime.Focus key request connection record)
    (base : runtime.Base) (dialing : connection.Dialing request)
    (connects : record.connects = true) (undecided : record.verdict = none) :
    (Callback.run ⟨key, connection, runtime⟩ .timeout).commit.Wf := by
  have sound := base.sound key connection focus.found
  obtain ⟨port, timeout, call⟩ := Request.connect_of_connects connects
  have decided : { record with events := record.events ++ [Event.expired] }.verdict =
      some uvEtimedout :=
    Request.verdict_of_undecided .expired call rfl rfl undecided
  rw [Callback.run, Frame.record_eq dialing.creator focus.opened.found]
  exact focus.fail base (sound.live_of_open dialing.tcp)
    ⟨sound.tcp, sound.timer, sound.handles, by simp, sound.reading, sound.frees⟩ rfl rfl
    dialing.creator dialing.held dialing.tcp (fun _ => rfl) dialing.writing dialing.shutting rfl
    focus.opened.unanswered connects decided (by decide)

theorem Focus.connected (focus : runtime.Focus key request connection record)
    (base : runtime.Base) (dialing : connection.Dialing request)
    (connects : record.connects = true) (undecided : record.verdict = none)
    (status readStart : Int) :
    (Callback.run ⟨key, connection, runtime⟩ (.connected status readStart)).commit.Wf := by
  have sound := base.sound key connection focus.found
  have live := sound.live_of_open dialing.tcp
  obtain ⟨port, timeout, call⟩ := Request.connect_of_connects connects
  obtain ⟨bound, -⟩ := List.getElem?_eq_some_iff.mp focus.opened.found
  let answered : Connection := { connection with connecting := false }
  let told : Request := { record with events := record.events ++ [.connected status readStart] }
  have answeredSound : answered.Sound :=
    ⟨sound.tcp, sound.timer, sound.handles, sound.armed, sound.reading, sound.frees⟩
  have decided : told.verdict = some ((firstFailure [status, readStart]).getD 0) :=
    Request.verdict_of_undecided (.connected status readStart) call rfl rfl undecided
  have untimed : ¬ connection.timedOut = true := by simp [dialing.timedOut]
  rw [Callback.run, Frame.record_eq dialing.creator focus.opened.found]
  unfold Frame.connected
  dsimp only
  rw [if_neg untimed]
  have fails : ∀ result, told.verdict = some result → result ≠ 0 →
      (Frame.fail ⟨key, answered.closeTimer, { runtime with
        requests := runtime.requests.set request told }⟩ result).commit.Wf := by
    intro result verdict failure
    have timerSound := answeredSound.closeTimer
    rw [answeredSound.closeTimer_eq] at timerSound ⊢
    exact focus.fail base live timerSound rfl rfl dialing.creator dialing.held dialing.tcp
      (by simp [answered]) dialing.writing dialing.shutting rfl focus.opened.unanswered connects
      verdict failure
  by_cases refused : status ≠ 0
  · rw [if_pos refused]
    exact fails status (by rw [decided]; simp [firstFailure, refused]) refused
  · rw [if_neg refused]
    by_cases unread : readStart ≠ 0
    · rw [if_pos unread]
      exact fails readStart (by rw [decided]; simp_all [firstFailure]) unread
    · rw [if_neg unread]
      have held : answered.closeTimer.request = some request := by
        rw [answeredSound.closeTimer_eq]
        exact dialing.held
      have succeeded : told.verdict = some 0 := by
        rw [decided]
        simp_all [firstFailure]
      let after : Connection := { answered with
        timer := answered.timer.shut, timerActive := false, reading := true, request := none }
      let done : Request := { told with id := connection.id, result := 0, answers := [0] }
      have closed := answeredSound.closeTimer
      rw [answeredSound.closeTimer_eq] at closed
      have sound' : after.Sound :=
        ⟨closed.tcp, closed.timer, closed.handles, closed.armed, fun _ => dialing.tcp, closed.frees⟩
      have established : after.Established :=
        ⟨rfl, dialing.tcp,
          by cases timer : connection.timer <;> simp [after, answered, timer, Handle.shut],
          rfl⟩
      generalize result : Frame.commit _ = next
      have update : runtime.Update key request after done next := by
        rw [show ({ connection with connecting := false } : Connection) = answered from rfl,
          answeredSound.closeTimer_eq] at result
        simp only [show answered.request = some request from dialing.held] at result
        rw [assignId_complete (List.getElem?_set_self bound) (by exact focus.opened.unanswered)]
          at result
        subst result
        refine ⟨rfl, List.set_set .., ?_, base.faults⟩
        rw [if_pos live]
        rfl
      exact focus.finish base live update sound' rfl rfl (fun _ _ => rfl)
        ⟨0, rfl, fun _ => succeeded⟩ ⟨.inl established, dialing.writing, dialing.shutting⟩

end Runtime

/-! ### The close callbacks -/

namespace Connection

variable {connection : Connection} {request : Nat}

/-- The connection after `connection_closed`. -/
def released (connection : Connection) : Connection :=
  { connection with
    handles := connection.handles - 1
    frees := if connection.handles - 1 = 0 then connection.frees + 1 else connection.frees }

theorem Sound.released {closed : Connection} (sound : connection.Sound)
    (live : connection.frees = 0) (tcp : closed.tcp ≠ .unused)
    (timer : closed.timerInitialized = true ↔ closed.timer ≠ .unused)
    (armed : closed.timerActive = true → closed.timer = .open)
    (reading : closed.reading = true → closed.tcp = .open)
    (handles : closed.handles = connection.handles) (frees : closed.frees = connection.frees)
    (fewer : closed.openHandles = connection.openHandles - 1) : closed.released.Sound where
  tcp := tcp
  timer := timer
  handles := by
    change closed.handles - 1 = closed.openHandles
    rw [handles, sound.handles, fewer]
  armed := armed
  reading := reading
  frees := by
    change (if closed.handles - 1 = 0 then closed.frees + 1 else closed.frees) =
      if closed.openHandles = 0 then 1 else 0
    rw [handles, frees, live, sound.handles, fewer]

theorem Sound.tcpClosed (sound : connection.Sound) (tcp : connection.tcp = .closing)
    (live : connection.frees = 0) : { connection with tcp := .closed }.released.Sound := by
  have silent := sound.silent (by simp [tcp])
  refine sound.released live (by simp) sound.timer sound.armed (by simp [silent]) rfl rfl ?_
  simp only [openHandles, tcp, reduceCtorEq, if_true, if_false]
  omega

theorem Sound.timerClosed (sound : connection.Sound) (timer : connection.timer = .closing)
    (live : connection.frees = 0) : { connection with timer := .closed }.released.Sound := by
  have inactive := sound.inactive (by simp [timer])
  have initialized : connection.timerInitialized = true := sound.timer.mpr (by simp [timer])
  refine sound.released live sound.tcp (by simp [initialized]) (by simp [inactive]) sound.reading
    rfl rfl ?_
  simp only [openHandles, timer]
  simp

theorem openHandles_eq_zero : connection.openHandles = 0 ↔
    connection.tcp = .closed ∧ connection.timer ≠ .open ∧ connection.timer ≠ .closing := by
  unfold openHandles
  cases connection.tcp <;> cases connection.timer <;> simp

/-- A connection is freed exactly when its handles are closed. -/
theorem Sound.freed_iff (sound : connection.Sound) :
    connection.frees ≠ 0 ↔
      connection.tcp = .closed ∧ connection.timer ≠ .open ∧ connection.timer ≠ .closing := by
  rw [← openHandles_eq_zero, sound.frees]
  split <;> simp_all

theorem Sound.frees_le_one (sound : connection.Sound) : connection.frees ≤ 1 := by
  rw [sound.frees]
  split <;> decide

/-- What is left when the last handle is closed. -/
theorem Sound.gone (sound : connection.Sound) (freed : connection.frees ≠ 0)
    (cancelled : connection.connecting = true → connection.tcp = .closing) :
    connection.Gone := by
  have once := sound.frees_le_one
  refine ⟨by omega, ?_⟩
  cases connecting : connection.connecting with
  | false => rfl
  | true =>
      have tcp := (sound.freed_iff.mp freed).1
      rw [cancelled connecting] at tcp
      cases tcp

theorem Ending.notOpen {request : Nat} (ending : connection.Ending request) :
    connection.tcp ≠ .open := by
  intro tcp
  simpa [tcp, Handle.isClosing] using ending.tcp

/-- A connection that is ending holds its request until it has ended. -/
theorem Ending.holds {after : Connection} {request : Nat} {record : Request}
    (ending : connection.Ending request) (holds : connection.Holds request record)
    (still : after.Ending request) (creator : after.creator = connection.creator)
    (idle : after.connecting = connection.connecting) : after.Holds request record := by
  cases holds with
  | failing _ own connects decided failure =>
      exact .failing still (creator.trans own) connects decided failure
  | closing _ connecting other => exact .closing still (idle.trans connecting) other
  | dialing dialing => exact absurd dialing.tcp ending.notOpen
  | writing established => exact absurd established.tcp ending.notOpen
  | shutting established => exact absurd established.tcp ending.notOpen

end Connection

namespace Runtime

variable {runtime : Runtime} {key request : Nat} {connection : Connection} {record : Request}

theorem Focus.connectionClosed (focus : runtime.Focus key request connection record)
    (base : runtime.Base) (live : connection.frees = 0) {closed : Connection}
    (sound : closed.released.Sound) (creator : closed.creator = connection.creator)
    (frees : closed.frees = 0) (held : closed.request = some request)
    (ending : closed.released.frees = 0 → closed.released.Holds request record)
    (quiet : closed.released.frees ≠ 0 → closed.released.Quiet)
    (decided : record.connects = true → record.verdict = some record.result) :
    (Frame.connectionClosed ⟨key, closed, runtime⟩).commit.Wf := by
  generalize result : Frame.commit _ = next
  have present := focus.mem_linked base live
  have unanswered := focus.opened.unanswered
  simp only [Frame.connectionClosed] at result
  by_cases last : closed.handles - 1 = 0
  · have freed : closed.released.frees = 1 := by simp [Connection.released, last, frees]
    have update : runtime.Update key request closed.released
        { record with answers := [record.result] } next := by
      rw [if_neg (by simpa using last), if_pos present] at result
      simp only [held, focus.opened.found, Option.map_some, Option.getD_some] at result
      rw [complete_of_open (by exact focus.opened.found) unanswered] at result
      subst result
      refine ⟨?_, rfl, ?_, base.faults⟩
      · simp [Frame.commit, Connection.released, last, frees, held]
      · simp [Frame.commit, freed]
    exact focus.finish base live update sound creator rfl (fun _ free => by simp [freed] at free)
      ⟨record.result, rfl, decided⟩ (quiet (by simp [freed]))
  · have kept : closed.released.frees = 0 := by simp [Connection.released, last, frees]
    have update : runtime.Update key request closed.released record next := by
      rw [if_pos (by simpa using last)] at result
      subst result
      refine ⟨?_, focus.opened.set_self.symm, ?_, base.faults⟩
      · simp [Frame.commit, Connection.released, last]
      · rw [if_pos kept]
        rfl
    exact focus.proceed base live update sound creator rfl unanswered (ending kept)

theorem Focus.tcpClosed (focus : runtime.Focus key request connection record)
    (base : runtime.Base) (ending : connection.Ending request) (tcp : connection.tcp = .closing)
    (connecting : connection.connecting = false)
    (holds : connection.Holds request record)
    (decided : record.connects = true → record.verdict = some record.result) :
    (Callback.run ⟨key, connection, runtime⟩ .tcpClosed).commit.Wf := by
  have closedSound := (base.sound key connection focus.found).tcpClosed tcp ending.live
  refine focus.connectionClosed base ending.live closedSound rfl ending.live
    ending.held ?_ ?_ decided
  · intro live
    exact ending.holds holds ⟨ending.held, rfl, ending.timer,
      by simp [Connection.released, connecting], ending.writing, ending.shutting, live⟩ rfl rfl
  · intro freed
    exact ⟨.inr (closedSound.gone freed (by simp [Connection.released, connecting])),
      ending.writing, ending.shutting⟩

theorem Focus.timerClosed (focus : runtime.Focus key request connection record)
    (base : runtime.Base) (ending : connection.Ending request)
    (timer : connection.timer = .closing) (holds : connection.Holds request record)
    (decided : record.connects = true → record.verdict = some record.result) :
    (Callback.run ⟨key, connection, runtime⟩ .timerClosed).commit.Wf := by
  have closedSound := (base.sound key connection focus.found).timerClosed timer ending.live
  refine focus.connectionClosed base ending.live closedSound rfl ending.live
    ending.held ?_ ?_ decided
  · intro live
    exact ending.holds holds ⟨ending.held, ending.tcp, by simp [Connection.released],
      ending.cancelled, ending.writing, ending.shutting, live⟩ rfl rfl
  · intro freed
    exact ⟨.inr (closedSound.gone freed fun connecting => (ending.cancelled connecting).2),
      ending.writing, ending.shutting⟩

/-- The connect callback of a connection that has timed out changes nothing. -/
theorem Focus.cancelled (focus : runtime.Focus key request connection record)
    (base : runtime.Base) (ending : connection.Ending request)
    (creator : connection.creator = request) (connects : record.connects = true)
    (decided : record.verdict = some record.result) (failure : record.result ≠ 0)
    (connecting : connection.connecting = true) (status readStart : Int) :
    (Callback.run ⟨key, connection, runtime⟩ (.connected status readStart)).commit.Wf := by
  have sound := base.sound key connection focus.found
  obtain ⟨timedOut, tcp⟩ := ending.cancelled connecting
  let after : Connection := { connection with connecting := false }
  let told : Request := { record with events := record.events ++ [.connected status readStart] }
  have update : runtime.Update key request after told
      (Callback.run ⟨key, connection, runtime⟩ (.connected status readStart)).commit := by
    rw [Callback.run, Frame.record_eq creator focus.opened.found]
    unfold Frame.connected
    dsimp only
    rw [if_pos timedOut]
    refine ⟨rfl, rfl, ?_, base.faults⟩
    rw [if_pos ending.live]
    rfl
  have still : after.Ending request :=
    ⟨ending.held, ending.tcp, ending.timer, by simp [after], ending.writing, ending.shutting,
      ending.live⟩
  have verdict : told.verdict = some told.result :=
    Request.verdict_of_decided (.connected status readStart) decided rfl rfl
  exact focus.proceed base ending.live update
    ⟨sound.tcp, sound.timer, sound.handles, sound.armed, sound.reading, sound.frees⟩ rfl rfl
    focus.opened.unanswered (.failing still creator connects verdict failure)

end Runtime

/-! ### Callbacks that no request waits for -/

namespace Connection

variable {connection after : Connection} {request : Nat} {record : Request}

/-- A step that leaves an established connection established. -/
structure Kept (connection after : Connection) : Prop where
  before : connection.Established
  established : after.Established
  sound : after.Sound
  creator : after.creator = connection.creator
  writing : after.writing = connection.writing
  shutting : after.shutting = connection.shutting

/-- The connection without its receiving side. -/
def outline (connection : Connection) : Connection :=
  { connection with
    received := [], readStatus := 0, paused := false, reading := false, readClosed := false,
    log := [] }

theorem outline_take (delivery : Delivery) :
    (connection.take delivery).outline = connection.outline := by
  cases delivery with
  | data bytes =>
      rw [take]
      split
      · rfl
      · split <;> rfl
  | failure status => rfl

theorem outline_note (obs : Obs) : (connection.note obs).outline = connection.outline := rfl

theorem outline_drain (capacity : Nat) (readStart : Int) :
    (connection.drain capacity readStart).outline = connection.outline := by
  unfold drain
  split
  · rfl
  · dsimp only
    split
    · split <;> rfl
    · rfl

/-- The receiving side of an established connection is free to change. -/
theorem Kept.of_outline (sound : connection.Sound) (established : connection.Established)
    (same : after.outline = connection.outline) : connection.Kept after := by
  simp only [outline, Connection.mk.injEq, true_and] at same
  obtain ⟨-, request, handles, initialized, -, -, tcp, timer, active, connecting, writing, shutting,
    creator, frees, -⟩ := same
  have left : after.openHandles = connection.openHandles := by
    rw [openHandles, openHandles, tcp, timer]
  refine ⟨established, ⟨?_, ?_, ?_, ?_⟩, ⟨?_, ?_, ?_, ?_, ?_, ?_⟩, creator, writing, shutting⟩
  · exact request.trans established.request
  · exact tcp.trans established.tcp
  · exact timer ▸ established.timer
  · exact connecting.trans established.connecting
  · exact tcp ▸ sound.tcp
  · rw [initialized, timer]
    exact sound.timer
  · rw [handles, left]
    exact sound.handles
  · rw [active, timer]
    exact sound.armed
  · intro
    exact tcp.trans established.tcp
  · rw [frees, left]
    exact sound.frees

/-- All that libuv has left to report on an established connection. -/
theorem Established.deliverable (established : connection.Established) {callback : Callback}
    (deliverable : callback.deliverable connection = true) :
    (∃ delivery, callback = .received delivery) ∨
      callback = .timerClosed ∧ connection.timer = .closing ∨
      (∃ status, callback = .written status ∧ connection.writing ≠ none) ∨
      ∃ status, callback = .shutdownDone status ∧ connection.shutting ≠ none := by
  cases callback with
  | received delivery => exact .inl ⟨delivery, rfl⟩
  | timerClosed => exact .inr (.inl ⟨rfl, by simpa [Callback.deliverable] using deliverable⟩)
  | written status =>
      refine .inr (.inr (.inl ⟨status, rfl, fun none => ?_⟩))
      simp [Callback.deliverable, none] at deliverable
  | shutdownDone status =>
      refine .inr (.inr (.inr ⟨status, rfl, fun none => ?_⟩))
      simp [Callback.deliverable, none] at deliverable
  | timeout => simp [Callback.deliverable, established.timer] at deliverable
  | connected => simp [Callback.deliverable, established.connecting] at deliverable
  | tcpClosed => simp [Callback.deliverable, established.tcp] at deliverable

theorem Ending.deliverable (ending : connection.Ending request) (sound : connection.Sound)
    {callback : Callback} (deliverable : callback.deliverable connection = true) :
    callback = .timerClosed ∧ connection.timer = .closing ∨
      callback = .tcpClosed ∧ connection.tcp = .closing ∧ connection.connecting = false ∨
      ∃ status readStart, callback = .connected status readStart ∧
        connection.connecting = true := by
  have silent := sound.silent ending.notOpen
  cases callback with
  | timerClosed => exact .inl ⟨rfl, by simpa [Callback.deliverable] using deliverable⟩
  | tcpClosed =>
      simp only [Callback.deliverable, Bool.and_eq_true, decide_eq_true_eq, Bool.not_eq_true']
        at deliverable
      exact .inr (.inl ⟨rfl, deliverable.1.1⟩)
  | connected status readStart =>
      simp only [Callback.deliverable, Bool.and_eq_true] at deliverable
      exact .inr (.inr ⟨status, readStart, rfl, deliverable.1⟩)
  | received delivery => cases delivery <;> simp [Callback.deliverable, silent] at deliverable
  | timeout => simp [Callback.deliverable, ending.timer] at deliverable
  | written => simp [Callback.deliverable, ending.writing] at deliverable
  | shutdownDone => simp [Callback.deliverable, ending.shutting] at deliverable

/-- All that libuv has left to report on a quiet connection. -/
theorem Quiet.deliverable (quiet : connection.Quiet) (sound : connection.Sound)
    {callback : Callback} (deliverable : callback.deliverable connection = true) :
    connection.Established ∧ ((∃ delivery, callback = .received delivery) ∨
      callback = .timerClosed ∧ connection.timer = .closing) := by
  rcases quiet.stage with established | gone
  · refine ⟨established, ?_⟩
    rcases established.deliverable deliverable with
      received | closed | ⟨_, -, writing⟩ | ⟨_, -, shutting⟩
    · exact .inl received
    · exact .inr closed
    · exact absurd quiet.writing writing
    · exact absurd quiet.shutting shutting
  · obtain ⟨tcp, notOpen, notClosing⟩ := sound.freed_iff.mp (by simp [gone.frees])
    have silent := sound.silent (by simp [tcp])
    cases callback with
    | received delivery =>
        cases delivery <;> simp [Callback.deliverable, silent] at deliverable
    | timerClosed => simp [Callback.deliverable, notClosing] at deliverable
    | timeout => simp [Callback.deliverable, notOpen] at deliverable
    | connected => simp [Callback.deliverable, gone.connecting] at deliverable
    | written => simp [Callback.deliverable, quiet.writing] at deliverable
    | shutdownDone => simp [Callback.deliverable, quiet.shutting] at deliverable
    | tcpClosed => simp [Callback.deliverable, tcp] at deliverable

/-- The callbacks that libuv may make on the connection that the open request waits for. -/
inductive Due (request : Nat) (record : Request) (connection : Connection) : Callback → Prop
  | timeout (dialing : connection.Dialing request) (connects : record.connects = true)
      (undecided : record.verdict = none) : Due request record connection .timeout
  | connected (status readStart : Int) (dialing : connection.Dialing request)
      (connects : record.connects = true) (undecided : record.verdict = none) :
      Due request record connection (.connected status readStart)
  | cancelled (status readStart : Int) (ending : connection.Ending request)
      (creator : connection.creator = request) (connects : record.connects = true)
      (decided : record.verdict = some record.result) (failure : record.result ≠ 0)
      (connecting : connection.connecting = true) :
      Due request record connection (.connected status readStart)
  | received (delivery : Delivery) (established : connection.Established) :
      Due request record connection (.received delivery)
  | timerClosed (established : connection.Established) (timer : connection.timer = .closing) :
      Due request record connection .timerClosed
  | timerEnded (ending : connection.Ending request)
      (decided : record.connects = true →
        record.verdict = some record.result ∧ record.result ≠ 0)
      (timer : connection.timer = .closing) : Due request record connection .timerClosed
  | tcpEnded (ending : connection.Ending request)
      (decided : record.connects = true →
        record.verdict = some record.result ∧ record.result ≠ 0)
      (tcp : connection.tcp = .closing) (connecting : connection.connecting = false) :
      Due request record connection .tcpClosed
  | written (status : Int) (established : connection.Established)
      (writing : connection.writing = some request) (shutting : connection.shutting = none)
      (other : record.connects = false) : Due request record connection (.written status)
  | shutdownDone (status : Int) (established : connection.Established)
      (shutting : connection.shutting = some request) (writing : connection.writing = none)
      (other : record.connects = false) : Due request record connection (.shutdownDone status)

theorem Holds.due (holds : connection.Holds request record) (sound : connection.Sound)
    {callback : Callback} (deliverable : callback.deliverable connection = true) :
    connection.Due request record callback := by
  cases holds with
  | dialing dialing connects undecided =>
      cases callback with
      | timeout => exact .timeout dialing connects undecided
      | connected status readStart => exact .connected status readStart dialing connects undecided
      | received delivery =>
          cases delivery <;> simp [Callback.deliverable, dialing.reading] at deliverable
      | timerClosed =>
          rcases dialing.timer with timer | timer <;>
            simp [Callback.deliverable, timer] at deliverable
      | written => simp [Callback.deliverable, dialing.writing] at deliverable
      | shutdownDone => simp [Callback.deliverable, dialing.shutting] at deliverable
      | tcpClosed => simp [Callback.deliverable, dialing.tcp] at deliverable
  | failing ending creator connects decided failure =>
      rcases ending.deliverable sound deliverable with
        ⟨rfl, timer⟩ | ⟨rfl, tcp, idle⟩ | ⟨status, readStart, rfl, connecting⟩
      · exact .timerEnded ending (fun _ => ⟨decided, failure⟩) timer
      · exact .tcpEnded ending (fun _ => ⟨decided, failure⟩) tcp idle
      · exact .cancelled status readStart ending creator connects decided failure connecting
  | closing ending idle other =>
      rcases ending.deliverable sound deliverable with
        ⟨rfl, timer⟩ | ⟨rfl, tcp, -⟩ | ⟨status, readStart, rfl, connecting⟩
      · exact .timerEnded ending (by simp [other]) timer
      · exact .tcpEnded ending (by simp [other]) tcp idle
      · cases idle.symm.trans connecting
  | writing established writing shutting other =>
      rcases established.deliverable deliverable with
        ⟨delivery, rfl⟩ | ⟨rfl, timer⟩ | ⟨status, rfl, -⟩ | ⟨status, rfl, waiting⟩
      · exact .received delivery established
      · exact .timerClosed established timer
      · exact .written status established writing shutting other
      · exact absurd shutting waiting
  | shutting established shutting writing other =>
      rcases established.deliverable deliverable with
        ⟨delivery, rfl⟩ | ⟨rfl, timer⟩ | ⟨status, rfl, waiting⟩ | ⟨status, rfl, -⟩
      · exact .received delivery established
      · exact .timerClosed established timer
      · exact absurd writing waiting
      · exact .shutdownDone status established shutting writing other

theorem Kept.quiet (kept : connection.Kept after) (quiet : connection.Quiet) : after.Quiet :=
  ⟨.inl kept.established, kept.writing.trans quiet.writing, kept.shutting.trans quiet.shutting⟩

theorem Kept.holds (kept : connection.Kept after) (holds : connection.Holds request record) :
    after.Holds request record := by
  have notHeld : connection.request ≠ some request := by simp [kept.before.request]
  cases holds with
  | dialing dialing => exact absurd dialing.held notHeld
  | failing ending => exact absurd ending.held notHeld
  | closing ending => exact absurd ending.held notHeld
  | writing _ writing shutting other =>
      exact .writing kept.established (kept.writing.trans writing) (kept.shutting.trans shutting)
        other
  | shutting _ shutting writing other =>
      exact .shutting kept.established (kept.shutting.trans shutting) (kept.writing.trans writing)
        other

end Connection

namespace Runtime

variable {runtime next : Runtime} {key : Nat} {connection after : Connection}

theorem Wf.keep (wf : runtime.Wf) (found : runtime.connections[key]? = some connection)
    (kept : connection.Kept after)
    (connections : next.connections = runtime.connections.set key after)
    (requests : next.requests = runtime.requests) (linked : next.linked = runtime.linked)
    (faults : next.faults = runtime.faults) : next.Wf := by
  obtain ⟨bound, -⟩ := List.getElem?_eq_some_iff.mp found
  have same : next.connections[key]? = some after := by simp [connections, bound]
  have other : ∀ index : Nat, index ≠ key →
      next.connections[index]? = runtime.connections[index]? := by
    intro index distinct
    simp [connections, distinct.symm]
  have live := (wf.sound key connection found).live_of_open kept.before.tcp
  have afterLive := kept.sound.live_of_open kept.established.tcp
  refine ⟨⟨faults.trans wf.faults, linked ▸ wf.nodup, ?_, ?_, ?_⟩, ?_⟩
  · intro index
    rw [linked, wf.linked]
    by_cases at_key : index = key
    · subst at_key
      simp [found, same, live, afterLive]
    · rw [other index at_key]
  · intro index value get
    by_cases at_key : index = key
    · subst at_key
      cases same.symm.trans get
      exact kept.sound
    · exact wf.sound index value (other index at_key ▸ get)
  · intro index value get free
    by_cases at_key : index = key
    · subst at_key
      cases same.symm.trans get
      obtain ⟨record, maker, rest⟩ := wf.made index connection found live
      exact ⟨record, by rw [requests, kept.creator]; exact maker, rest⟩
    · obtain ⟨record, maker, rest⟩ := wf.made index value (other index at_key ▸ get) free
      exact ⟨record, by rw [requests]; exact maker, rest⟩
  · rcases wf.phase with idle | ⟨place, request, holder, record, busy⟩
    · refine .inl ⟨by rw [requests]; exact idle.settled, ?_⟩
      intro index value get
      by_cases at_key : index = key
      · subst at_key
        cases same.symm.trans get
        exact kept.quiet (idle.quiet index connection found)
      · exact idle.quiet index value (other index at_key ▸ get)
    · refine .inr ⟨place, request, ?_⟩
      have opened : next.Open request record := by
        obtain ⟨get, last, unanswered, earlier⟩ := busy.opened
        rw [← requests] at get last earlier
        exact ⟨get, last, unanswered, earlier⟩
      have foreign : ∀ (index : Nat) value, index ≠ place →
          next.connections[index]? = some value → value.frees = 0 → value.creator ≠ request := by
        intro index value distinct get free
        by_cases at_key : index = key
        · subst at_key
          cases same.symm.trans get
          rw [kept.creator]
          exact busy.foreign index connection distinct found live
        · exact busy.foreign index value distinct (other index at_key ▸ get) free
      have others : ∀ (index : Nat) value, index ≠ place →
          next.connections[index]? = some value → value.Quiet := by
        intro index value distinct get
        by_cases at_key : index = key
        · subst at_key
          cases same.symm.trans get
          exact kept.quiet (busy.others index connection distinct found)
        · exact busy.others index value distinct (other index at_key ▸ get)
      by_cases at_key : place = key
      · subst at_key
        cases busy.found.symm.trans found
        exact ⟨after, record, ⟨opened, same, others, foreign⟩, kept.holds busy.holds⟩
      · exact ⟨holder, record, ⟨opened, (other place at_key).trans busy.found, others, foreign⟩,
          busy.holds⟩

/-- `received` touches nothing that a request depends on. -/
theorem Wf.received (wf : runtime.Wf) (found : runtime.connections[key]? = some connection)
    (established : connection.Established) (delivery : Delivery) :
    (Callback.run ⟨key, connection, runtime⟩ (.received delivery)).commit.Wf := by
  have kept : connection.Kept ((connection.take delivery).note (.delivered delivery)) :=
    .of_outline (wf.sound key connection found) established (Connection.outline_take delivery)
  refine wf.keep found kept ?_ ?_ ?_ ?_ <;>
    simp only [Callback.run, Frame.received, Frame.commit] <;> split <;> rfl

theorem Wf.timerClosed (wf : runtime.Wf) (found : runtime.connections[key]? = some connection)
    (established : connection.Established) (timer : connection.timer = .closing) :
    (Callback.run ⟨key, connection, runtime⟩ .timerClosed).commit.Wf := by
  have sound := wf.sound key connection found
  have live := sound.live_of_open established.tcp
  have more : connection.handles - 1 ≠ 0 := by
    simp [sound.handles, Connection.openHandles, established.tcp, timer]
  have released : { connection with timer := .closed }.released =
      { connection with timer := .closed, handles := connection.handles - 1 } := by
    simp [Connection.released, more]
  have kept : connection.Kept
      { connection with timer := .closed, handles := connection.handles - 1 } :=
    ⟨established, ⟨established.request, established.tcp, by simp, established.connecting⟩,
      released ▸ sound.timerClosed timer live, rfl, rfl, rfl⟩
  refine wf.keep found kept ?_ ?_ ?_ ?_ <;>
    simp [Callback.run, Frame.connectionClosed, Frame.commit, more]

variable {request : Nat} {record : Request}

theorem Focus.creator_ne (focus : runtime.Focus key request connection record)
    (base : runtime.Base) (live : connection.frees = 0) (other : record.connects = false) :
    connection.creator ≠ request := by
  intro own
  obtain ⟨maker, found, connects, -⟩ := base.made key connection focus.found live
  rw [own, focus.opened.found] at found
  cases found
  rw [other] at connects
  cases connects

/-- The callback of a write or of a shutdown answers its request. -/
theorem Focus.completed (focus : runtime.Focus key request connection record)
    (base : runtime.Base) (live : connection.frees = 0) (other : record.connects = false)
    (sound : after.Sound) (creator : after.creator = connection.creator)
    (established : after.Established) (writing : after.writing = none)
    (shutting : after.shutting = none) (status : Int) :
    (Frame.commit ⟨key, after, runtime.complete request status⟩).Wf := by
  have own := focus.creator_ne base live other
  have update : runtime.Update key request after
      { record with result := status, answers := [status] }
      (Frame.commit ⟨key, after, runtime.complete request status⟩) := by
    rw [complete_of_open focus.opened.found focus.opened.unanswered]
    refine ⟨rfl, rfl, ?_, base.faults⟩
    rw [if_pos (sound.live_of_open established.tcp)]
    rfl
  exact focus.finish base live update sound creator rfl (fun same _ => absurd same own)
    (Request.settled_of_other other rfl rfl) ⟨.inl established, writing, shutting⟩

/-! ### All callbacks -/

/-- Every connection holds the open request or is quiet. -/
theorem Wf.role (wf : runtime.Wf) (found : runtime.connections[key]? = some connection) :
    (∃ request record, runtime.Busy key request connection record) ∨ connection.Quiet := by
  rcases wf.phase with idle | ⟨place, request, holder, record, busy⟩
  · exact .inr (idle.quiet key connection found)
  · by_cases same : key = place
    · subst same
      cases busy.found.symm.trans found
      exact .inl ⟨request, record, busy⟩
    · exact .inr (busy.others key connection same found)

theorem Wf.delivered (wf : runtime.Wf) (found : runtime.connections[key]? = some connection)
    {callback : Callback} (deliverable : callback.deliverable connection = true) :
    connection.frees = 0 ∧ (callback.run ⟨key, connection, runtime⟩).commit.Wf := by
  have base := wf.toBase
  have sound := wf.sound key connection found
  have live (established : connection.Established) : connection.frees = 0 :=
    sound.live_of_open established.tcp
  rcases wf.role found with ⟨request, record, busy⟩ | quiet
  · cases busy.holds.due sound deliverable with
    | timeout dialing connects undecided =>
        exact ⟨sound.live_of_open dialing.tcp, busy.timeout base dialing connects undecided⟩
    | connected status readStart dialing connects undecided =>
        exact ⟨sound.live_of_open dialing.tcp,
          busy.connected base dialing connects undecided status readStart⟩
    | cancelled status readStart ending creator connects decided failure connecting =>
        exact ⟨ending.live, busy.cancelled base ending creator connects decided failure connecting
          status readStart⟩
    | received delivery established =>
        exact ⟨live established, wf.received found established delivery⟩
    | timerClosed established timer =>
        exact ⟨live established, wf.timerClosed found established timer⟩
    | timerEnded ending decided timer =>
        exact ⟨ending.live, busy.timerClosed base ending timer busy.holds fun connects =>
          (decided connects).1⟩
    | tcpEnded ending decided tcp connecting =>
        exact ⟨ending.live, busy.tcpClosed base ending tcp connecting busy.holds fun connects =>
          (decided connects).1⟩
    | written status established writing shutting other =>
        have cleared : Connection.Sound { connection with writing := none } :=
          ⟨sound.tcp, sound.timer, sound.handles, sound.armed, sound.reading, sound.frees⟩
        refine ⟨live established, ?_⟩
        simp only [Callback.run, Frame.written, writing]
        exact busy.completed base (live established) other cleared rfl
          ⟨established.request, established.tcp, established.timer, established.connecting⟩ rfl
          shutting status
    | shutdownDone status established shutting writing other =>
        have cleared : Connection.Sound { connection with shutting := none } :=
          ⟨sound.tcp, sound.timer, sound.handles, sound.armed, sound.reading, sound.frees⟩
        refine ⟨live established, ?_⟩
        simp only [Callback.run, Frame.shutdownDone, shutting]
        exact busy.completed base (live established) other cleared rfl
          ⟨established.request, established.tcp, established.timer, established.connecting⟩
          writing rfl status
  · obtain ⟨established, ⟨delivery, rfl⟩ | ⟨rfl, timer⟩⟩ := quiet.deliverable sound deliverable
    · exact ⟨live established, wf.received found established delivery⟩
    · exact ⟨live established, wf.timerClosed found established timer⟩

/-- A callback is never made on a freed connection. -/
theorem Wf.of_callback (wf : runtime.Wf) {callback : Callback}
    (run : runtime.callback key callback = some next) :
    ∃ connection, runtime.connections[key]? = some connection ∧
      callback.deliverable connection = true ∧ connection.frees = 0 ∧
      next = (callback.run ⟨key, connection, runtime⟩).commit := by
  unfold Runtime.callback at run
  cases found : runtime.connections[key]? with
  | none => simp [found] at run
  | some connection =>
      simp only [found] at run
      obtain ⟨deliverable, run⟩ := Option.ite_none_right_eq_some.mp run
      have live := (wf.delivered found deliverable).1
      rw [if_pos live] at run
      cases run
      exact ⟨connection, rfl, deliverable, live, rfl⟩

theorem Wf.callback (wf : runtime.Wf) {callback : Callback}
    (run : runtime.callback key callback = some next) : next.Wf := by
  obtain ⟨connection, found, deliverable, -, rfl⟩ := wf.of_callback run
  exact (wf.delivered found deliverable).2

end Runtime

/-! ## What a callback leaves alone -/

/-- No request is lost or loses an answer. -/
structure Runtime.Grows (runtime after : Runtime) : Prop where
  length : after.requests.length = runtime.requests.length
  answers : ∀ (request : Nat) record, runtime.requests[request]? = some record →
    ∃ later, after.requests[request]? = some later ∧ record.answers <+: later.answers

structure Runtime.Untouched (runtime after : Runtime) : Prop extends runtime.Grows after where
  connections : after.connections = runtime.connections

namespace Runtime

variable {runtime middle after : Runtime}

theorem Grows.of_requests (requests : after.requests = runtime.requests) :
    runtime.Grows after where
  length := by rw [requests]
  answers := fun _ record found => ⟨record, by rw [requests]; exact found, List.prefix_refl _⟩

theorem Grows.trans (first : runtime.Grows middle) (second : middle.Grows after) :
    runtime.Grows after where
  length := second.length.trans first.length
  answers := by
    intro request record found
    obtain ⟨between, found, grown⟩ := first.answers request record found
    obtain ⟨later, found, more⟩ := second.answers request between found
    exact ⟨later, found, grown.trans more⟩

theorem Untouched.of_requests (connections : after.connections = runtime.connections)
    (requests : after.requests = runtime.requests) : runtime.Untouched after :=
  ⟨.of_requests requests, connections⟩

theorem Untouched.trans (first : runtime.Untouched middle) (second : middle.Untouched after) :
    runtime.Untouched after :=
  ⟨first.toGrows.trans second.toGrows, second.connections.trans first.connections⟩

theorem untouched_amend (request : Nat) {change : Request → Request}
    (grown : ∀ record, record.answers <+: (change record).answers) :
    runtime.Untouched (runtime.amend request change) where
  connections := rfl
  length := List.length_modify ..
  answers := by
    intro index record found
    by_cases same : request = index
    · exact ⟨change record, by simp [amend, same, found], grown record⟩
    · exact ⟨record, by simp [amend, same, found], List.prefix_refl _⟩

theorem untouched_setResult (request : Nat) (result : Int) :
    runtime.Untouched (runtime.setResult request result) := by
  have touched : runtime.Untouched (runtime.touch request) := by
    unfold touch
    split <;> exact .of_requests rfl rfl
  exact touched.trans (untouched_amend request fun _ => List.prefix_refl _)

theorem untouched_answer (request : Nat) (result : Int) :
    runtime.Untouched (runtime.answer request result) :=
  untouched_amend request fun _ => List.prefix_append ..

theorem untouched_complete (request : Nat) (result : Int) :
    runtime.Untouched (runtime.complete request result) :=
  (untouched_setResult request result).trans (untouched_answer request result)

theorem untouched_assignId (request : Nat) (id : Int) :
    runtime.Untouched (runtime.assignId request id) := by
  have amended := @untouched_amend runtime request (fun record => { record with id := id })
    fun _ => List.prefix_refl _
  exact ⟨⟨amended.length, amended.answers⟩, amended.connections⟩

end Runtime

section Untouched

variable {frame : Frame}

theorem Frame.untouched_fail (result : Int) :
    frame.runtime.Untouched (frame.fail result).runtime := by
  unfold Frame.fail
  cases frame.connection.request with
  | none => exact .of_requests rfl rfl
  | some request => exact Runtime.untouched_setResult request result

theorem Frame.untouched_record (event : Event) :
    frame.runtime.Untouched (frame.record event).runtime :=
  Runtime.untouched_amend _ fun _ => List.prefix_refl _

theorem Frame.untouched_connected (status readStart : Int) :
    (frame.connected status readStart).key = frame.key ∧
      frame.runtime.Untouched (frame.connected status readStart).runtime := by
  have failed := @Frame.untouched_fail { frame with connection := frame.connection.closeTimer }
  unfold Frame.connected
  dsimp only
  split
  · exact ⟨rfl, .of_requests rfl rfl⟩
  · split
    · exact ⟨rfl, failed status⟩
    · split
      · exact ⟨rfl, failed readStart⟩
      · split
        · exact ⟨rfl, .of_requests rfl rfl⟩
        · exact ⟨rfl, (Runtime.untouched_assignId ..).trans (Runtime.untouched_complete ..)⟩

theorem Frame.untouched_connectionClosed :
    frame.connectionClosed.key = frame.key ∧
      frame.runtime.Untouched frame.connectionClosed.runtime := by
  have unlinked : frame.runtime.Untouched
      { frame.runtime with linked := frame.runtime.linked.erase frame.key } :=
    .of_requests rfl rfl
  unfold Frame.connectionClosed
  dsimp only
  split
  · exact ⟨rfl, .of_requests rfl rfl⟩
  · split
    · split
      · exact ⟨rfl, unlinked⟩
      · exact ⟨rfl, unlinked.trans (Runtime.untouched_complete ..)⟩
    · exact ⟨rfl, .of_requests rfl rfl⟩

theorem Callback.untouched_run (callback : Callback) :
    (callback.run frame).key = frame.key ∧
      frame.runtime.Untouched (callback.run frame).runtime := by
  cases callback with
  | timeout =>
      exact ⟨rfl, (Frame.untouched_record .expired).trans (@Frame.untouched_fail
        { frame.record .expired with
          connection := { frame.connection with timerActive := false, timedOut := true } } _)⟩
  | connected status readStart =>
      obtain ⟨key, rest⟩ := @Frame.untouched_connected
        { frame.record (.connected status readStart) with
          connection := { frame.connection with connecting := false } } status readStart
      exact ⟨key, (Frame.untouched_record (.connected status readStart)).trans rest⟩
  | received delivery =>
      refine ⟨rfl, ?_⟩
      unfold Callback.run Frame.received
      dsimp only
      split <;> exact .of_requests rfl rfl
  | written status =>
      refine ⟨rfl, ?_⟩
      unfold Callback.run Frame.written
      dsimp only
      split
      · exact .of_requests rfl rfl
      · exact Runtime.untouched_complete ..
  | shutdownDone status =>
      refine ⟨rfl, ?_⟩
      unfold Callback.run Frame.shutdownDone
      dsimp only
      split
      · exact .of_requests rfl rfl
      · exact Runtime.untouched_complete ..
  | tcpClosed => exact Frame.untouched_connectionClosed
  | timerClosed => exact Frame.untouched_connectionClosed

theorem Callback.commit_connections (callback : Callback) :
    (callback.run frame).commit.connections =
      frame.runtime.connections.set frame.key (callback.run frame).connection := by
  obtain ⟨key, rest⟩ := @Callback.untouched_run frame callback
  rw [Frame.commit, key, rest.connections]

end Untouched

end Skyuv.Client
