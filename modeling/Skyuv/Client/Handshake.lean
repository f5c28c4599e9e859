import Skyuv.Lib.TransitionSystem

/-!
# The caller and the I/O thread

`create`, `call` and `destroy` of `client_runtime.c` against `run` and `execute`, at the grain
of critical sections.  The calls are serial, and a command is a number.
-/

set_option autoImplicit false

namespace Skyuv.Client.Handshake

open TransitionSystem

/-- `joining` is in `uv_thread_join`, of `destroy` or of a failed `create`. -/
inductive Caller where
  | outside | creating | idle | calling (command : Nat) | joining
  deriving DecidableEq

inductive Io where
  | absent | starting | running | executing (command : Nat)
    | replying (result : Int) | closing | ended
  deriving DecidableEq

/-- `asleep` is the caller in `uv_cond_wait`, `wakeup` an `uv_async_send` before its callback,
`alive` the allocation with its mutex and condition variable. -/
structure State where
  caller : Caller := .outside
  io : Io := .absent
  asleep : Bool := false
  alive : Bool := false
  ready : Bool := false
  pending : Bool := false
  stopping : Bool := false
  wakeup : Bool := false
  command : Nat := 0
  result : Int := 0
  executed : List (Nat × Int) := []
  answered : List (Nat × Int) := []

inductive Label where
  | create (started : Bool) | call (command : Nat) (sent : Int) | destroy | check | join | wake
  | start (result : Int) | execute | ran (result : Int) | reply | closed

def Label.ofIo : Label → Bool
  | .start _ | .execute | .ran _ | .reply | .closed => true
  | _ => false

def step (state : State) : Label → Option State
  | .create started =>
      if state.caller ≠ .outside then none
      -- a failure up to `uv_thread_create` gives back what was acquired before it
      else if !started then some state
      else some { caller := .creating, io := .starting, alive := true
                  executed := state.executed, answered := state.answered }
  | .call command sent =>
      if state.caller ≠ .idle then none
      else if sent ≠ 0 then some { state with command := command, pending := false }
      -- the mutex is held from `pending = 1` to the wait
      else some { state with
        command := command, pending := true, wakeup := true, asleep := true
        caller := .calling command }
  | .destroy =>
      if state.caller ≠ .idle then none
      else some { state with stopping := true, wakeup := true, caller := .joining }
  | .check =>
      match state.asleep, state.caller with
      | false, .creating =>
          if !state.ready then some { state with asleep := true }
          else some { state with caller := if state.result = 0 then .idle else .joining }
      | false, .calling command =>
          if state.pending then some { state with asleep := true }
          else some { state with
            caller := .idle, answered := state.answered ++ [(command, state.result)] }
      | _, _ => none
  | .join =>
      if state.caller ≠ .joining ∨ state.io ≠ .ended then none
      else some { state with caller := .outside, io := .absent, alive := false }
  | .wake => some { state with asleep := false }
  | .start result =>
      if state.io ≠ .starting then none
      else some { state with
        result := result, ready := true, asleep := false
        io := if result = 0 then .running else .ended }
  | .execute =>
      if state.io ≠ .running ∨ state.wakeup = false then none
      else some { state with
        wakeup := false, io := if state.stopping then .closing else .executing state.command }
  | .ran result =>
      match state.io with
      | .executing command =>
          some { state with
            executed := state.executed ++ [(command, result)], io := .replying result }
      | _ => none
  | .reply =>
      match state.io with
      | .replying result =>
          some { state with result := result, pending := false, asleep := false, io := .running }
      | _ => none
  | .closed => if state.io = .closing then some { state with io := .ended } else none

def handshakeSystem : System State Label := ⟨{}, step⟩

namespace State

variable {state next : State} {label : Label}

/-- The flags, by the places of the two threads. -/
def fits (state : State) : Caller → Io → Bool
  | .outside, .absent | .joining, .closing | .joining, .ended => !state.asleep
  | .creating, .starting =>
      !state.ready && !state.wakeup && !state.pending && !state.stopping
  | .creating, .running => state.ready && state.result = 0 && !state.asleep && !state.wakeup &&
      !state.pending && !state.stopping
  | .creating, .ended => state.ready && state.result ≠ 0 && !state.asleep
  | .idle, .running => !state.asleep && !state.wakeup && !state.pending && !state.stopping
  | .calling command, .running => !state.stopping &&
      if state.pending then state.wakeup && state.command = command
      else !state.wakeup && !state.asleep
  | .calling command, .executing fetched =>
      !state.stopping && state.pending && !state.wakeup && fetched = command
  | .calling _, .replying _ => !state.stopping && state.pending && !state.wakeup
  | .joining, .running => !state.asleep && state.stopping && state.wakeup
  | _, _ => false

/-- The command that ran and whose call has not returned. -/
def owed (state : State) : List (Nat × Int) :=
  match state.caller, state.io, state.pending with
  | .calling command, .replying result, _ => [(command, result)]
  | .calling command, .running, false => [(command, state.result)]
  | _, _, _ => []

structure Inv (state : State) : Prop where
  alive : state.alive = true ↔ state.caller ≠ .outside
  fits : state.fits state.caller state.io = true
  books : state.executed = state.answered ++ state.owed

/-- An idle caller finds the loop waiting, with no request in its way. -/
theorem Inv.of_idle (inv : state.Inv) (idle : state.caller = .idle) :
    state.io = .running ∧ state.asleep = false ∧ state.wakeup = false ∧ state.pending = false ∧
      state.stopping = false := by
  have fits := inv.fits
  rw [idle] at fits
  cases io : state.io with
  | running => simpa [State.fits, io, and_assoc] using fits
  | _ => simp [State.fits, io] at fits

/-- Whoever woke the loop is the caller, by a request or to stop it. -/
theorem Inv.of_woken (inv : state.Inv) (running : state.io = .running)
    (woken : state.wakeup = true) :
    (state.stopping = false ∧ state.pending = true ∧ state.caller = .calling state.command) ∨
      (state.stopping = true ∧ state.asleep = false ∧ state.caller = .joining) := by
  have fits := inv.fits
  rw [running] at fits
  cases caller : state.caller with
  | calling command => cases pending : state.pending <;> simp_all [State.fits]
  | joining => simp_all [State.fits]
  | _ => simp_all [State.fits]

theorem Inv.step (inv : state.Inv) (run : step state label = some next) : next.Inv := by
  obtain ⟨alive, fits, books⟩ := inv
  cases label with
  | create started =>
      obtain ⟨outside, run⟩ := Option.ite_none_left_eq_some.mp run
      cases started with
      | false =>
          cases Option.some.inj run
          exact ⟨alive, fits, books⟩
      | true =>
          cases Option.some.inj run
          exact ⟨by simp, rfl, by simpa [owed, not_not.mp outside] using books⟩
  | call command sent =>
      obtain ⟨other, run⟩ := Option.ite_none_left_eq_some.mp run
      have idle := not_not.mp other
      obtain ⟨io, awake, fetched, done, live⟩ := Inv.of_idle ⟨alive, fits, books⟩ idle
      split at run
      · cases Option.some.inj run
        exact ⟨alive, by simp [State.fits, idle, io, awake, fetched, live],
          by simpa [owed, idle] using books⟩
      · cases Option.some.inj run
        exact ⟨by simpa [idle] using alive, by simp [State.fits, io, live],
          by simpa [owed, idle, io] using books⟩
  | destroy =>
      obtain ⟨other, run⟩ := Option.ite_none_left_eq_some.mp run
      have idle := not_not.mp other
      obtain ⟨io, awake, -⟩ := Inv.of_idle ⟨alive, fits, books⟩ idle
      cases Option.some.inj run
      exact ⟨by simpa [idle] using alive, by simp [State.fits, io, awake],
        by simpa [owed, idle] using books⟩
  | check =>
      simp only [Handshake.step] at run
      split at run
      · -- `create` looks at `ready`, which comes with the result of the start
        rename_i awake creating
        rw [creating] at fits
        cases io : state.io with
        | starting | running | ended =>
            rw [io] at fits
            split at run <;> cases run <;> constructor <;> simp_all [State.fits, owed]
        | _ => simp [State.fits, io] at fits
      · -- `call` looks at `pending`, which goes with the reply
        rename_i command awake calling
        rw [calling] at fits
        cases io : state.io with
        | running | executing | replying =>
            rw [io] at fits
            split at run <;> cases run <;> constructor <;> simp_all [State.fits, owed]
        | _ => simp [State.fits, io] at fits
      · cases run
  | join =>
      obtain ⟨other, run⟩ := Option.ite_none_left_eq_some.mp run
      obtain ⟨joining, ended⟩ : state.caller = .joining ∧ state.io = .ended := by
        simpa [not_or] using other
      cases Option.some.inj run
      exact ⟨by simp, by simpa [State.fits, joining, ended] using fits,
        by simpa [owed, joining] using books⟩
  | wake =>
      cases Option.some.inj run
      -- no place asks for a sleeping caller
      refine ⟨alive, ?_, books⟩
      cases caller : state.caller <;> cases io : state.io <;> cases pending : state.pending <;>
        simp_all [State.fits]
  | start result =>
      obtain ⟨other, run⟩ := Option.ite_none_left_eq_some.mp run
      rw [not_not.mp other] at fits
      cases Option.some.inj run
      cases caller : state.caller with
      | creating =>
          by_cases fine : result = 0 <;>
            exact ⟨by simp_all, by simp_all [State.fits], by simp_all [owed]⟩
      | _ => simp [State.fits, caller] at fits
  | execute =>
      obtain ⟨other, run⟩ := Option.ite_none_left_eq_some.mp run
      obtain ⟨running, woken⟩ : state.io = .running ∧ state.wakeup = true := by
        simpa [not_or] using other
      cases Option.some.inj run
      rcases Inv.of_woken ⟨alive, fits, books⟩ running woken with
        ⟨live, pending, calling⟩ | ⟨stops, awake, joining⟩
      · exact ⟨alive, by simp [State.fits, calling, live, pending],
          by simpa [owed, calling, running, pending, live] using books⟩
      · exact ⟨alive, by simp [State.fits, joining, stops, awake],
          by simpa [owed, joining] using books⟩
  | ran result =>
      simp only [Handshake.step] at run
      split at run
      · rename_i fetched executing
        rw [executing] at fits
        cases run
        cases caller : state.caller with
        | calling command =>
            exact ⟨by simp_all, by simp_all [State.fits], by simp_all [State.fits, owed]⟩
        | _ => simp [State.fits, caller] at fits
      · cases run
  | reply =>
      simp only [Handshake.step] at run
      split at run
      · rename_i result replying
        rw [replying] at fits
        cases run
        cases caller : state.caller with
        | calling command => exact ⟨by simp_all, by simp_all [State.fits], by simp_all [owed]⟩
        | _ => simp [State.fits, caller] at fits
      · cases run
  | closed =>
      obtain ⟨closing, run⟩ := Option.ite_none_right_eq_some.mp run
      rw [closing] at fits
      cases Option.some.inj run
      cases caller : state.caller with
      | joining => exact ⟨by simp_all, by simp_all [State.fits], by simp_all [owed]⟩
      | _ => simp [State.fits, caller] at fits

theorem Inv.place (inv : state.Inv)
    (waits : state.asleep = true ∨ state.caller = .joining ∧ state.io ≠ .ended) :
    state.io = .starting ∨ (state.io = .running ∧ state.wakeup = true) ∨
      (∃ command, state.io = .executing command) ∨ (∃ result, state.io = .replying result) ∨
      state.io = .closing := by
  have fits := inv.fits
  cases caller : state.caller <;> cases io : state.io <;> simp_all [State.fits]

end State

/-- The runtime is in memory exactly while the caller is inside, and then only there is an I/O
thread.  The calls return in order, each with the result of its own command, which has run
once.  A caller that sleeps or joins is not forgotten: the I/O thread has a step to take. -/
theorem client_handshake {state : State} (reached : handshakeSystem.Reachable state) :
    (state.alive = true ↔ state.caller ≠ .outside) ∧ (state.io ≠ .absent → state.alive = true) ∧
    (∃ owed, state.executed = state.answered ++ owed ∧ owed.length ≤ 1 ∧
      ((∀ command, state.caller ≠ .calling command) → owed = [])) ∧
    (state.asleep = true ∨ state.caller = .joining ∧ state.io ≠ .ended →
      ∃ label, label.ofIo = true ∧ (step state label).isSome = true) := by
  have inv : state.Inv :=
    reached.invariant State.Inv ⟨by simp [handshakeSystem], rfl, rfl⟩
      fun _ _ _ inv run => inv.step run
  refine ⟨inv.alive, ?_, ⟨_, inv.books, ?_⟩, fun waits => ?_⟩
  · rw [inv.alive]
    rintro present outside
    have fits := inv.fits
    cases io : state.io <;> simp_all [State.fits]
  · unfold State.owed
    split <;> simp_all
  · rcases inv.place waits with io | ⟨io, wakeup⟩ | ⟨command, io⟩ | ⟨result, io⟩ | io
    · exact ⟨.start 0, rfl, by simp [step, io]⟩
    · exact ⟨.execute, rfl, by simp [step, io, wakeup]⟩
    · exact ⟨.ran 0, rfl, by simp [step, io]⟩
    · exact ⟨.reply, rfl, by simp [step, io]⟩
    · exact ⟨.closed, rfl, by simp [step, io]⟩

/-- A runtime is created, and its caller waits for command 7. -/
def waitingRun : List Label := [.create true, .check, .start 0, .check, .call 7 0]

theorem client_handshake_waiting : ∃ state, handshakeSystem.exec {} waitingRun = some state ∧
    state.asleep = true ∧ ∃ label, label.ofIo = true ∧ (step state label).isSome = true :=
  ⟨_, rfl, rfl, (client_handshake ⟨waitingRun, rfl⟩).2.2.2 (.inl rfl)⟩

end Skyuv.Client.Handshake
