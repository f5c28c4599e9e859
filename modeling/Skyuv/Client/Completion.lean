import Skyuv.Client.Commands

/-!
# Connect and close requests are completed exactly once

`Wf` gives the safety half: at most one answer, the right one, one free per
connection and only after its handles are closed.  For the other half, the
connection that holds an unanswered request always has a callback to come, and
`remaining` counts down with each of them.
-/

set_option autoImplicit false

namespace Skyuv.Client

open TransitionSystem
open Socket (uvEof uvEinval uvEnomem uvEcanceled)

/-! ## The event that decides a connect request -/

namespace Request

variable {record : Request}

/-- What the event means for the request. -/
def outcome (record : Request) (event : Event) : Option Int :=
  match record.call with
  | .connect port timeout => event.outcome port timeout
  | _ => none

end Request

namespace Callback

/-- Every callback but a read. -/
def progresses : Callback → Bool
  | received _ => false
  | _ => true

end Callback

namespace Connection

variable {connection : Connection}

/-- The callbacks that libuv still owes: the timer, the connect request, the two
close callbacks, a write and a shutdown. -/
def remaining (connection : Connection) : Nat :=
  connection.timerActive.toNat + connection.connecting.toNat +
    (if connection.tcp = .closed then 0 else 1) +
    (if connection.timer = .open ∨ connection.timer = .closing then 1 else 0) +
    connection.writing.isSome.toNat + connection.shutting.isSome.toNat

theorem remaining_closeTimer (sound : connection.Sound) :
    connection.closeTimer.remaining ≤ connection.remaining := by
  rw [sound.closeTimer_eq]
  cases timer : connection.timer <;> simp [remaining, Handle.shut, timer]

theorem remaining_close (sound : connection.Sound) :
    connection.close.remaining ≤ connection.remaining := by
  rw [sound.close_eq]
  cases tcp : connection.tcp <;> cases timer : connection.timer <;>
    simp [remaining, Connection.shut, Handle.shut, tcp, timer]

theorem remaining_take (delivery : Delivery) :
    (connection.take delivery).remaining = connection.remaining := by
  have same := congrArg remaining (@outline_take connection delivery)
  exact same

end Connection

section Runs

variable {frame : Frame}

theorem Frame.connected_remaining (sound : frame.connection.Sound) (status readStart : Int) :
    (frame.connected status readStart).connection.remaining ≤ frame.connection.remaining := by
  have timer := Connection.remaining_closeTimer sound
  have both := Nat.le_trans (Connection.remaining_close sound.closeTimer) timer
  unfold Frame.connected
  dsimp only
  split
  · exact Nat.le_refl _
  · split
    · exact both
    · split
      · exact both
      · split <;> exact timer

theorem Frame.connectionClosed_remaining :
    frame.connectionClosed.connection.remaining = frame.connection.remaining := by
  unfold Frame.connectionClosed
  dsimp only
  split
  · rfl
  · split <;> rfl

/-- Every callback but a read brings the connection nearer to its end. -/
theorem Callback.run_remaining (sound : frame.connection.Sound) {callback : Callback}
    (deliverable : callback.deliverable frame.connection = true) :
    (callback.run frame).connection.remaining + callback.progresses.toNat ≤
      frame.connection.remaining := by
  obtain ⟨key, connection, runtime⟩ := frame
  dsimp only at sound deliverable ⊢
  cases callback with
  | timeout =>
      let fired : Connection := { connection with timerActive := false, timedOut := true }
      have firedSound : fired.Sound :=
        ⟨sound.tcp, sound.timer, sound.handles, by simp [fired], sound.reading, sound.frees⟩
      have closed := Connection.remaining_close firedSound
      have one : fired.remaining + 1 = connection.remaining := by
        simp only [Callback.deliverable, Bool.and_eq_true] at deliverable
        simp [fired, Connection.remaining, deliverable.2]
        omega
      change fired.close.remaining + 1 ≤ connection.remaining
      omega
  | connected status readStart =>
      let answered : Connection := { connection with connecting := false }
      have answeredSound : answered.Sound :=
        ⟨sound.tcp, sound.timer, sound.handles, sound.armed, sound.reading, sound.frees⟩
      have one : answered.remaining + 1 = connection.remaining := by
        simp only [Callback.deliverable, Bool.and_eq_true] at deliverable
        simp [answered, Connection.remaining, deliverable.1]
        omega
      have rest := Frame.connected_remaining
        (show (Frame.mk key answered (Frame.record ⟨key, connection, runtime⟩
          (.connected status readStart)).runtime).connection.Sound from answeredSound)
            status readStart
      rw [← one]
      exact Nat.add_le_add_right rest 1
  | received delivery => exact Nat.le_of_eq (Connection.remaining_take delivery)
  | written status =>
      simp only [Callback.deliverable, Bool.and_eq_true] at deliverable
      have one : Connection.remaining { connection with writing := none } + 1 =
          connection.remaining := by
        simp only [Connection.remaining, deliverable.1, Option.isSome_none, Bool.toNat_true,
          Bool.toNat_false]
        omega
      exact Nat.le_of_eq one
  | shutdownDone status =>
      simp only [Callback.deliverable, Bool.and_eq_true] at deliverable
      have one : Connection.remaining { connection with shutting := none } + 1 =
          connection.remaining := by
        simp only [Connection.remaining, deliverable.1, Option.isSome_none, Bool.toNat_true,
          Bool.toNat_false]
      exact Nat.le_of_eq one
  | tcpClosed =>
      simp only [Callback.deliverable, Bool.and_eq_true, decide_eq_true_eq] at deliverable
      have one : Connection.remaining { connection with tcp := .closed } + 1 =
          connection.remaining := by
        simp only [Connection.remaining, deliverable.1.1.1, reduceCtorEq, if_true, if_false]
        omega
      rw [Callback.run, Frame.connectionClosed_remaining]
      exact Nat.le_of_eq one
  | timerClosed =>
      simp only [Callback.deliverable, decide_eq_true_eq] at deliverable
      have one : Connection.remaining { connection with timer := .closed } + 1 =
          connection.remaining := by
        simp only [Connection.remaining, deliverable, reduceCtorEq, or_self, or_true, if_true,
          if_false]
        omega
      rw [Callback.run, Frame.connectionClosed_remaining]
      exact Nat.le_of_eq one

end Runs

/-! ## A request that waits -/

theorem Connection.Quiet.not_holds {connection : Connection} (quiet : connection.Quiet)
    (sound : connection.Sound) {request : Nat} {record : Request} :
    ¬ connection.Holds request record := by
  have written := quiet.writing
  have shut := quiet.shutting
  intro holds
  rcases quiet.stage with established | gone
  · have request := established.request
    cases holds with
    | dialing dialing => simp [dialing.held] at request
    | failing ending => simp [ending.held] at request
    | closing ending => simp [ending.held] at request
    | writing _ writing => simp [writing] at written
    | shutting _ shutting => simp [shutting] at shut
  · have freed := gone.frees
    cases holds with
    | dialing dialing => simp [sound.live_of_open dialing.tcp] at freed
    | failing ending => simp [ending.live] at freed
    | closing ending => simp [ending.live] at freed
    | writing _ writing => simp [writing] at written
    | shutting _ shutting => simp [shutting] at shut

namespace Runtime

variable {runtime next : Runtime} {key request : Nat} {connection : Connection} {record : Request}

/-- libuv owes the ending connection a callback. -/
theorem Busy.ending_deliverable (busy : runtime.Busy key request connection record)
    (base : runtime.Base) (ending : connection.Ending request) :
    ∃ callback : Callback, callback.progresses = true ∧
      callback.deliverable connection = true := by
  have sound := base.sound key connection busy.found
  have writing := ending.writing
  have shutting := ending.shutting
  by_cases closing : connection.tcp = .closing
  · cases connecting : connection.connecting with
    | true =>
        exact ⟨.connected uvEcanceled 0, rfl, by simp [Callback.deliverable, connecting]⟩
    | false =>
        exact ⟨.tcpClosed, rfl,
          by simp [Callback.deliverable, closing, connecting, writing, shutting]⟩
  · have closed : connection.tcp = .closed := by
      have tcp := ending.tcp
      cases handle : connection.tcp <;> simp_all [Handle.isClosing]
    have timer : connection.timer = .closing := by
      by_contra other
      exact absurd ending.live (sound.freed_iff.mpr ⟨closed, ending.timer, other⟩)
    exact ⟨.timerClosed, rfl, by simp [Callback.deliverable, timer]⟩

/-- An unanswered request always has a callback to come. -/
theorem Busy.deliverable (busy : runtime.Busy key request connection record)
    (base : runtime.Base) :
    ∃ callback : Callback, callback.progresses = true ∧
      callback.deliverable connection = true := by
  cases busy.holds with
  | dialing dialing =>
      exact ⟨.connected 0 0, rfl, by simp [Callback.deliverable, dialing.connecting, dialing.tcp]⟩
  | failing ending => exact busy.ending_deliverable base ending
  | closing ending => exact busy.ending_deliverable base ending
  | writing established writing =>
      exact ⟨.written 0, rfl, by simp [Callback.deliverable, writing, established.tcp]⟩
  | shutting established shutting =>
      exact ⟨.shutdownDone 0, rfl, by simp [Callback.deliverable, shutting, established.tcp]⟩

end Runtime

/-- The caller of the request has its answer. -/
def Runtime.Answered (runtime : Runtime) (request : Nat) : Prop :=
  ∃ record, runtime.requests[request]? = some record ∧ record.answers ≠ []

/-- The label is a callback that brings the connection at `key` nearer to its end. -/
def Label.progresses (key : Nat) : Label → Bool
  | .callback place made => place = key && made.progresses
  | .call _ _ => false

namespace Runtime

variable {runtime next : Runtime} {key request : Nat} {connection : Connection} {record : Request}

/-- While the request is open its connection keeps it and counts down. -/
theorem Busy.step (busy : runtime.Busy key request connection record) (wf : runtime.Wf)
    {label : Label} (run : Client.step runtime label = some next) :
    next.Answered request ∨ ∃ after amended, next.Busy key request after amended ∧
      after.remaining + (label.progresses key).toNat ≤ connection.remaining := by
  have nextWf := wf.step run
  cases label with
  | call call env =>
      obtain ⟨accepts, -⟩ := Option.ite_none_right_eq_some.mp run
      exact absurd busy.opened.unanswered
        (answered_of_idle (idle_of_accepts accepts) busy.opened.found)
  | callback place callback =>
      obtain ⟨target, found, deliverable, live, rfl⟩ := wf.of_callback run
      have connections := @Callback.commit_connections ⟨place, target, runtime⟩ callback
      have untouched := (@Callback.untouched_run ⟨place, target, runtime⟩ callback).2
      rcases nextWf.phase with idle | ⟨holder, open_request, after, amended, nextBusy⟩
      · obtain ⟨later, get, -⟩ := untouched.answers request record busy.opened.found
        obtain ⟨result, answers, -⟩ := idle.settled request later get
        exact .inl ⟨later, get, by simp [answers]⟩
      · right
        have same : open_request = request := by
          have before := busy.opened.last
          have later : (callback.run ⟨place, target, runtime⟩).runtime.requests.length =
              open_request + 1 := nextBusy.opened.last
          have length : (callback.run ⟨place, target, runtime⟩).runtime.requests.length =
              runtime.requests.length := untouched.length
          omega
        subst same
        by_cases at_key : place = key
        · subst at_key
          cases found.symm.trans busy.found
          have moved : (callback.run ⟨place, connection, runtime⟩).commit.connections[place]? =
              some (callback.run ⟨place, connection, runtime⟩).connection := by
            obtain ⟨bound, -⟩ := List.getElem?_eq_some_iff.mp found
            rw [connections]
            simp [bound]
          have own : holder = place := by
            by_contra distinct
            have unmoved : runtime.connections[holder]? = some after := by
              have get := nextBusy.found
              rw [connections] at get
              simpa [Ne.symm distinct] using get
            exact (busy.others holder after distinct unmoved).not_holds
              (wf.sound holder after unmoved) nextBusy.holds
          subst own
          cases nextBusy.found.symm.trans moved
          have fewer := Callback.run_remaining
            (show (Frame.mk holder connection runtime).connection.Sound from
              wf.sound holder connection found) deliverable
          exact ⟨_, amended, nextBusy, by simpa [Label.progresses] using fewer⟩
        · have kept : (callback.run ⟨place, target, runtime⟩).commit.connections[key]? =
              some connection := by
            rw [connections]
            simpa [at_key] using busy.found
          have own : key = holder := by
            by_contra distinct
            exact (nextBusy.others key connection distinct kept).not_holds
              (wf.sound key connection busy.found) busy.holds
          subst own
          cases nextBusy.found.symm.trans kept
          exact ⟨connection, amended, nextBusy, by simp [Label.progresses, at_key]⟩

theorem Answered.exec {labels : List Label} {final : Runtime} (answered : runtime.Answered request)
    (wf : runtime.Wf) (run : clientSystem.exec runtime labels = some final) :
    final.Answered request := by
  have kept := System.exec_invariant (fun state : Runtime => state.Wf ∧ state.Answered request)
    (fun state label next ⟨wf, record, found, answers⟩ run =>
      ⟨wf.step run, wf.step_answered run found answers⟩) ⟨wf, answered⟩ run
  exact kept.2

/-- The callbacks of the connection, `remaining` of them, answer the request. -/
theorem Busy.answered {labels : List Label} {final : Runtime}
    (run : clientSystem.exec runtime labels = some final) (wf : runtime.Wf)
    (busy : runtime.Busy key request connection record)
    (enough : connection.remaining ≤ labels.countP (Label.progresses key)) :
    final.Answered request := by
  induction labels generalizing runtime connection record with
  | nil =>
      obtain ⟨callback, progresses, deliverable⟩ := busy.deliverable wf.toBase
      have fewer := Callback.run_remaining
        (show (Frame.mk key connection runtime).connection.Sound from
          wf.sound key connection busy.found) deliverable
      simp only [progresses, Bool.toNat_true, List.countP_nil] at fewer enough
      omega
  | cons label rest ih =>
      obtain ⟨next, first, tail⟩ := System.exec_cons run
      have nextWf := wf.step first
      rcases busy.step wf first with answered | ⟨after, amended, nextBusy, fewer⟩
      · exact answered.exec nextWf tail
      · refine ih tail nextWf nextBusy ?_
        rw [List.countP_cons] at enough
        cases counted : label.progresses key <;> simp [counted] at fewer enough <;> omega

theorem Busy.remaining_le (busy : runtime.Busy key request connection record) :
    connection.remaining ≤ 4 := by
  have armed := Bool.toNat_le connection.timerActive
  have dialing := Bool.toNat_le connection.connecting
  have pending : connection.connecting.toNat + connection.writing.isSome.toNat +
      connection.shutting.isSome.toNat ≤ 1 := by
    cases busy.holds with
    | dialing dialing => simp [dialing.writing, dialing.shutting, dialing.connecting]
    | failing ending => simp [ending.writing, ending.shutting]; omega
    | closing ending => simp [ending.writing, ending.shutting]; omega
    | writing established writing shutting =>
        simp [established.connecting, writing, shutting]
    | shutting established shutting writing =>
        simp [established.connecting, writing, shutting]
  unfold Connection.remaining
  split <;> split <;> omega

/-- The request will be answered: its connection is linked, libuv has a callback
to make on it, and no more than four of these are needed, whatever else happens
in between. -/
def WillAnswer (runtime : Runtime) (request : Nat) : Prop :=
  ∃ key ∈ runtime.linked, ∃ needed ≤ 4,
    (∃ callback : Callback, callback.progresses = true ∧
      (Client.step runtime (.callback key callback)).isSome = true) ∧
    ∀ labels final, clientSystem.exec runtime labels = some final →
      needed ≤ labels.countP (Label.progresses key) → final.Answered request

theorem Busy.willAnswer (busy : runtime.Busy key request connection record) (wf : runtime.Wf) :
    runtime.WillAnswer request := by
  obtain ⟨callback, progresses, deliverable⟩ := busy.deliverable wf.toBase
  have live := (wf.delivered busy.found deliverable).1
  have enabled : (Client.step runtime (.callback key callback)).isSome = true := by
    simp [Client.step, Runtime.callback, busy.found, deliverable, live]
  exact ⟨key, (wf.linked key).mpr ⟨connection, busy.found, live⟩, connection.remaining,
    busy.remaining_le, ⟨callback, progresses, enabled⟩,
    fun labels final run enough => busy.answered run wf enough⟩

theorem Wf.settled_or_willAnswer (wf : runtime.Wf)
    (found : runtime.requests[request]? = some record) :
    record.Settled ∨ record.answers = [] ∧ runtime.WillAnswer request := by
  rcases wf.phase with idle | ⟨key, opened, connection, current, busy⟩
  · exact .inl (idle.settled request record found)
  · by_cases same : request = opened
    · subst same
      cases busy.opened.found.symm.trans found
      exact .inr ⟨busy.opened.unanswered, busy.willAnswer wf⟩
    · exact .inl (busy.opened.earlier request record same found)

end Runtime

namespace Connection

end Connection

end Skyuv.Client
