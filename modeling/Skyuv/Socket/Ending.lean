import Skyuv.Socket.Steps

/-!
# The end of a socket

A socket ends with a `CLOSE` event or with an `ERROR` that closes its handle.
`Ended` says what the entry remembers of that: it is closing, half closed by the
peer, asked to close, or gone.  While a close waits for pending writes the state
is still `CONNECTED` or `CONNECTED_PAUSED` and only `close_requested` remembers
it, which `process_start`, `process_close` and the error paths do not look at.
The acts that fall into this gap are `endsAgain`, which tells the owner of the
end a second time, and `resumes`, which tells of a life after `CLOSE`.  Runs
without them keep the promises.
-/

set_option autoImplicit false

namespace Skyuv.Socket

open TransitionSystem

/-- `CLOSE`, or an `ERROR` that ends the socket. -/
def Obs.isTerminal : Obs → Bool
  | .event .other _ => false
  | .event _ _ => true
  | _ => false

def Obs.isClose : Obs → Bool
  | .event _ told => decide (told.type = .close)
  | _ => false

/-- `OPEN`, `ACCEPT` or `DATA`. -/
def Obs.isTraffic : Obs → Bool
  | .event _ told => decide (told.type = .open ∨ told.type = .accept ∨ told.type = .data)
  | _ => false

/-- Neither about the end of the socket nor `OPEN`, `ACCEPT` or `DATA`. -/
def Obs.isPlain : Obs → Bool
  | .event .other told => !(Obs.event .other told).isTraffic && !(Obs.event .other told).isClose
  | .event _ _ | .closeCommand _ => false
  | _ => true

namespace Life

open Skyuv.Socket.Frame (eventObs)

def Ended (life : Life) : Prop :=
  life.freed = true ∨ life.state = .closing ∨ life.state = .halfcloseRead ∨
    life.closeRequested = true

variable {life after : Life}

/-- An entry that has ended and can still be used waits for its pending writes. -/
theorem Sound.waits (sound : life.Sound) (ended : life.Ended) (alive : life.freed = false)
    (notClosing : life.state ≠ .closing) (notHalf : life.state ≠ .halfcloseRead) :
    life.closeRequested = true ∧ (life.state = .connected ∨ life.state = .connectedPaused) := by
  have asked : life.closeRequested = true := by
    rcases ended with freed | closing | half | asked
    · simp [alive] at freed
    · exact absurd closing notClosing
    · exact absurd half notHalf
    · exact asked
  have streamed := (sound.stream (.inr (.inr (.inr (.inl asked))))).2
  exact ⟨asked, by tauto⟩

theorem Sound.bare_open (sound : life.Sound) (bare : life.initialized = false)
    (alive : life.freed = false) : ¬life.Ended := by
  intro ended
  obtain ⟨-, -, unasked, fresh⟩ := sound.bare bare
  have state := (fresh alive).1
  have asked := (sound.waits ended alive (by simp [state]) (by simp [state])).1
  simp [unasked] at asked

theorem Pumped.ended {env : Env} (pumped : Pumped env life after) (ended : life.Ended) :
    after.Ended := by
  cases pumped with
  | busy | empty | high | low => exact ended
  | highFailed | lowFailed => exact .inr (.inl rfl)

theorem Resumed.ended {env : Env} (resumed : Resumed env life after) (ended : life.Ended) :
    after.Ended := by
  cases resumed with
  | drained => exact .inr (.inl rfl)
  | waiting | closing => exact ended
  | pumped asked state pumped => exact pumped.ended ended

/-- What has ended stays ended. -/
theorem Move.ended {act : Act} (move : Move act life after) (enabled : act.Enabled life)
    (sound : life.Sound) (ended : life.Ended) : after.Ended := by
  have alive := sound.alive enabled
  cases move with
  | ignored | refused | reported | datagram | pumpSkipped | scanned | readNothing | readData
  | udpNothing | udpData | datagramSent | connectLate | acceptError | acceptStalled | acceptTaken
  | acceptDone | tagged | queuedHigh | queuedLow => exact ended
  | aborted | closedBare | scanDropped | acceptDropped | closed | discarded => exact .inl rfl
  | rejected | startFailed | closedNow | scanShut | readFailed | udpFailed | connectFailed
  | acceptRejected => exact .inr (.inl rfl)
  | listening command env event opens bare type | connecting command env opens bare
  | bound command env event opens bare type | udpOpened command env opens bare
  | accepted env bare => exact absurd ended (sound.bare_open bare alive)
  | started command env event start state reads type | paused command env pause state stops =>
      have waits := sound.waits ended alive (by grind -ring -linarith) (by grind -ring -linarith)
      exact .inr (.inr (.inr waits.1))
  | draining => exact .inr (.inr (.inr rfl))
  | pumped env state pumped => exact pumped.ended ended
  | readEof => exact .inr (.inr (.inl rfl))
  | written status env buffer rest warnings head fine plain resumed => exact resumed.ended ended
  | writeFailed status env buffer rest event head fails state type resumed =>
      exact resumed.ended (.inr (.inl rfl))
  | connected status env event state type =>
      have waits := (sound.waits ended alive (by simp [state]) (by simp [state])).2
      simp [state] at waits

end Life

/-! ## What an act tells the owner -/

/-- An act that ends the socket although a close is waiting for pending writes. -/
def endsAgain (act : Act) (life : Life) : Bool :=
  life.closeRequested && (life.state = .connected || life.state = .connectedPaused) &&
    match act with
    | .command cmd env =>
        match cmd.body with
        | .close | .shutdown => true
        | .start => life.state = .connectedPaused && env.uv .readStart ≠ 0
        | _ => false
    | .pump env => env.uv .write ≠ 0
    | .writeCompleted status _ => status ≠ 0
    | .readCompleted nread _ _ => nread < 0
    | _ => false

/-- A `start` that goes through although a close is waiting for pending writes.
The other case does not occur: `uv_read_stop` always succeeds. -/
def resumes (act : Act) (life : Life) : Bool :=
  match act with
  | .command cmd env =>
      match cmd.body with
      | .start => life.closeRequested &&
          (life.state = .connected || life.state = .connectedPaused && env.uv .readStart = 0)
      | .close => env.uv .readStop ≠ 0
      | _ => false
  | _ => false

namespace Life

open Skyuv.Socket.Frame (eventObs)

inductive Telling (act : Act) (life after : Life) : Prop
  | plain {observations : List Obs} (log : after.log = life.log ++ observations)
      (plain : ∀ obs ∈ observations, obs.isPlain = true)
  | traffic (first : List Obs) (env : Env) (event : Event)
      (log : after.log = life.log ++ (first ++ eventObs env .other event))
      (plain : ∀ obs ∈ first, obs.isPlain = true)
      (type : event.type = .open ∨ event.type = .accept ∨ event.type = .data)
      (open_ : life.Ended → life.uvReading = true ∨ life.uvListening = true ∨
        resumes act life = true)
  | failed (first last : List Obs) (env : Env) (site : Site) (event : Event)
      (log : after.log = life.log ++ (first ++ eventObs env site event ++ last))
      (plain : ∀ obs ∈ first ++ last, obs.isPlain = true) (type : event.type = .error)
      (again : life.Ended → endsAgain act life = true) (ended : after.Ended)
  | eof (env : Env) (event : Event) (log : after.log = life.log ++ eventObs env .eof event)
      (type : event.type = .close) (again : life.Ended → endsAgain act life = true)
      (half : after.state = .halfcloseRead)
      (hushed : after.uvReading = false ∧ after.uvListening = false)
  | closed (last : List Obs) (command : Command) (env : Env) (event : Event)
      (isClose : act = .command command env) (closes : command.body.closes = true)
      (log : after.log =
        life.log ++ (.closeCommand command.opaqueVal :: life.closeObs env event ++ last))
      (plain : ∀ obs ∈ last, obs.isPlain = true)
      (type : event.type = .close) (carries : event.opaqueVal = command.opaqueVal)
      (again : life.Ended → life.state = .halfcloseRead ∨ endsAgain act life = true)
      (ended : after.Ended)
      (hushed : (after.uvReading = false ∧ after.uvListening = false) ∨ resumes act life = true)

variable {life after : Life}

theorem plain_of_type {observations : List Obs} {type : EventType}
    (events : ∀ obs ∈ observations, ∃ event, obs = .event .other event ∧ event.type = type)
    (other : type ≠ .open ∧ type ≠ .accept ∧ type ≠ .data ∧ type ≠ .close) :
    ∀ obs ∈ observations, obs.isPlain = true := by
  intro obs member
  obtain ⟨event, rfl, rfl⟩ := events obs member
  simp [Obs.isPlain, Obs.isTraffic, Obs.isClose, other]

theorem mem_eventObs {env : Env} {site : Site} {event : Event} {obs : Obs}
    (member : obs ∈ eventObs env site event) : obs = .event site event := by
  unfold eventObs at member
  split at member
  · exact List.mem_singleton.mp member
  · cases member

theorem plain_eventObs (env : Env) {event : Event}
    (other : event.type ≠ .open ∧ event.type ≠ .accept ∧ event.type ≠ .data ∧
      event.type ≠ .close) : ∀ obs ∈ eventObs env .other event, obs.isPlain = true :=
  plain_of_type (fun _ member => ⟨event, mem_eventObs member, rfl⟩) other

/-- `pump_write` after what `first` records. -/
theorem Pumped.telling {act : Act} {env : Env} {start : Life} {first : List Obs}
    (pumped : Pumped env life after) (log : life.log = start.log ++ first)
    (plain : ∀ obs ∈ first, obs.isPlain = true)
    (again : start.Ended → life.state ≠ .halfcloseRead → env.uv .write ≠ 0 →
      endsAgain act start = true) : Telling act start after := by
  have handed {low : Bool} {buffer : Buffer} :
      ∀ obs ∈ first ++ [.uvWrite low buffer (env.uv .write)], obs.isPlain = true :=
    List.forall_mem_append.mpr ⟨plain, by simp [Obs.isPlain]⟩
  have lost {low : Bool} {buffer : Buffer} {event : Event} {final : Life}
      (refused : env.uv .write ≠ 0) (type : event.type = .error) (ended : final.Ended)
      (told : final.log = life.log ++ [.uvWrite low buffer (env.uv .write)] ++
        life.failureObs env event ++ [.uvClose]) : Telling act start final := by
    rw [log, List.append_assoc start.log] at told
    by_cases half : life.state = .halfcloseRead
    · rw [failureObs_of_half half, List.append_nil, List.append_assoc] at told
      exact .plain told (List.forall_mem_append.mpr ⟨handed, by simp [Obs.isPlain]⟩)
    · rw [failureObs_of_not_half half, List.append_assoc start.log, List.append_assoc start.log]
        at told
      exact .failed _ _ env .finishEntry event told
        (List.forall_mem_append.mpr ⟨handed, by simp [Obs.isPlain]⟩) type
        (fun ended => again ended half refused) ended
  cases pumped with
  | busy | empty => exact .plain log plain
  | high | low => exact .plain (by rw [emit, log, List.append_assoc]) handed
  | highFailed buffer rest event idle high refused type =>
      exact lost refused type (.inr (.inl rfl)) rfl
  | lowFailed buffer rest event idle high low refused type =>
      exact lost refused type (.inr (.inl rfl)) rfl

/-- The end of `write_completed` after what `first` records. -/
theorem Resumed.telling {act : Act} {env : Env} {start : Life} {first : List Obs}
    (resumed : Resumed env life after) (log : life.log = start.log ++ first)
    (plain : ∀ obs ∈ first, obs.isPlain = true)
    (again : start.Ended → life.closeRequested = false → life.state ≠ .closing →
      life.state ≠ .halfcloseRead → endsAgain act start = true) : Telling act start after := by
  cases resumed with
  | drained asked high low =>
      exact .plain (by rw [shut, log, List.append_assoc])
        (List.forall_mem_append.mpr ⟨plain, by simp [Obs.isPlain]⟩)
  | waiting | closing => exact .plain log plain
  | pumped asked state pumped =>
      exact pumped.telling log plain fun ended half _ => again ended asked state half

/-- An entry that waits for pending writes when an act ends it. -/
theorem Sound.again {act : Act} (sound : life.Sound) (ended : life.Ended)
    (alive : life.freed = false) (notClosing : life.state ≠ .closing)
    (notHalf : life.state ≠ .halfcloseRead)
    (ends : life.state = .connected ∨ life.state = .connectedPaused → life.closeRequested = true →
      endsAgain act life = true) : endsAgain act life = true :=
  have waits := sound.waits ended alive notClosing notHalf
  ends waits.2 waits.1

theorem Sound.closes_again {command : Command} {env : Env} (sound : life.Sound)
    (closes : command.body.closes = true) (ended : life.Ended) (alive : life.freed = false)
    (notClosing : life.state ≠ .closing) :
    life.state = .halfcloseRead ∨ endsAgain (.command command env) life = true := by
  by_cases half : life.state = .halfcloseRead
  · exact .inl half
  · refine .inr (sound.again ended alive notClosing half fun waits asked => ?_)
    cases body : command.body <;> simp [CommandBody.closes, body] at closes
    all_goals simp [endsAgain, asked, waits, body]

theorem Sound.read_again {nread : Int} {data : List UInt8} {env : Env} (sound : life.Sound)
    (reading : life.uvReading = true) (fails : nread < 0) (ended : life.Ended) :
    endsAgain (.readCompleted nread data env) life = true := by
  have alive := (sound.busy (by simp [Quiet, reading])).2
  have state := sound.reading reading
  refine sound.again ended alive (by simp [state]) (by simp [state]) fun waits asked => ?_
  simp [endsAgain, asked, waits, fails]

/-- Sockets that are not streams yet end only by closing. -/
theorem Sound.untouched (sound : life.Sound) (ended : life.Ended) (alive : life.freed = false)
    (state : life.state ≠ .closing ∧ life.state ≠ .halfcloseRead ∧ life.state ≠ .connected ∧
      life.state ≠ .connectedPaused) : False := by
  have waits := (sound.waits ended alive state.1 state.2.1).2
  tauto

theorem Steady.not_listening (steady : life.Steady) (state : life.state ≠ .listening) :
    life.uvListening = false := by
  by_contra listening
  exact state (steady.listening (by simpa using listening))

/-- A handler that reports an error and closes the handle. -/
theorem Telling.reject {act : Act} {env : Env} {site : Site} {event : Event}
    (type : event.type = .error)
    (log : after.log = life.log ++ eventObs env site event ++ [.uvClose])
    (state : after.state = .closing) (again : life.Ended → endsAgain act life = true) :
    Telling act life after := by
  rw [List.append_assoc] at log
  exact .failed [] _ env site event log (by simp [Obs.isPlain]) type again
    (.inr (.inl state))

/-- A failed write ends the entry, unless the end of the stream was told before. -/
theorem Telling.write_failed (sound : life.Sound) {status : Int} {env : Env} {buffer : Buffer}
    {rest : List Buffer} {event : Event} (head : life.uvWrites = buffer :: rest)
    (fails : status ≠ 0) (state : life.state ≠ .closing) (type : event.type = .error)
    (resumed : Resumed env
      (((life.complete buffer rest status).emit (life.failureObs env event)).shut) after) :
    Telling (.writeCompleted status env) life after := by
  have alive := (sound.busy (by simp [Quiet, head])).2
  have told {final : Life} (last : List Obs) (closes : ∀ obs ∈ last, obs = .uvClose)
      (ended : final.Ended) (log : final.log =
        life.log ++ ([.completed buffer status] ++ life.failureObs env event ++ last)) :
      Telling (.writeCompleted status env) life final := by
    have plain : ∀ obs ∈ [.completed buffer status] ++ last, obs.isPlain = true := by
      refine List.forall_mem_append.mpr ⟨by simp [Obs.isPlain], fun obs member => ?_⟩
      rw [closes obs member]
      rfl
    by_cases half : life.state = .halfcloseRead
    · rw [failureObs_of_half half, List.append_nil] at log
      exact .plain log plain
    · rw [failureObs_of_not_half half] at log
      refine .failed _ _ env .finishEntry event log plain type (fun ended => ?_) ended
      exact sound.again ended alive state half fun waits asked => by
        simp [endsAgain, asked, waits, fails]
  -- the handle may be closed once more when nothing is left to write
  cases resumed with
  | drained =>
      exact told [.uvClose, .uvClose] (by simp) (.inr (.inl rfl))
        (by simp [shut, emit, complete])
  | waiting | closing =>
      exact told [.uvClose] (by simp) (.inr (.inl rfl)) (by simp [shut, emit, complete])
  | pumped asked open_ => exact absurd rfl open_

theorem Move.telling {act : Act} (move : Move act life after) (enabled : act.Enabled life)
    (sound : life.Sound) : Telling act life after := by
  have alive := sound.alive enabled
  have fresh (bare : life.initialized = false) := sound.bare_open bare alive
  cases move with
  | ignored | connecting | udpOpened | paused | datagram | pumpSkipped | scanned | readNothing
  | udpNothing | connectLate | acceptStalled | accepted | tagged =>
      exact .plain (List.append_nil _).symm (by simp)
  | refused command env event other type | acceptError status env event type =>
      exact .plain rfl (plain_eventObs env (by simp [type]))
  | udpData nread data address env event type =>
      exact .plain rfl (by simp [Obs.isPlain, Obs.isTraffic, Obs.isClose, type])
  | acceptTaken | scanDropped | scanShut | acceptDropped | closed | discarded =>
      exact .plain rfl (by simp [Obs.isPlain])
  | datagramSent index status env errors plain => exact .plain rfl (plain_of_type plain (by simp))
  | queuedHigh command env payload warnings send state accepts plain
  | queuedLow command env payload warnings send state accepts plain =>
      exact .plain (List.append_assoc _ _ _)
        (List.forall_mem_append.mpr ⟨by simp [Obs.isPlain], plain_of_type plain (by simp)⟩)
  | aborted command env event state isUdp opens bare early type =>
      exact .failed [] _ env .discard event (List.append_assoc _ _ _)
        (by simp [Obs.isPlain]) type (fun ended => absurd ended (fresh bare)) (.inl rfl)
  | rejected command env event isUdp opens bare type | acceptRejected env event bare type =>
      exact .reject type rfl rfl fun ended => absurd ended (fresh bare)
  | listening command env event opens bare type | bound command env event opens bare type =>
      exact .traffic [] env event rfl (by simp) (.inl type)
        fun ended => absurd ended (fresh bare)
  | reported command env event start state type
  | started command env event start state reads type =>
      refine .traffic [] env event rfl (by simp) (.inl type) fun ended => ?_
      have waits := sound.waits ended alive (by grind -ring -linarith) (by grind -ring -linarith)
      exact .inr (.inr (by simp [resumes, start, waits.1]; grind -ring -linarith))
  | startFailed command env event start state fails type =>
      refine .reject type rfl rfl fun ended => ?_
      have waits := sound.waits ended alive (by grind -ring -linarith) (by grind -ring -linarith)
      simp [endsAgain, start, waits.1, fails]
      grind -ring -linarith
  | closedBare command env event closes bare type carries =>
      have quiet := (sound.bare bare).1
      exact .closed [.free] command env event rfl closes (by simp [drop, emit])
        (by simp [Obs.isPlain]) type
        carries (fun ended => absurd ended (fresh bare)) (.inl rfl)
        (.inl ⟨quiet.1, quiet.2.2.1⟩)
  | closedNow command env event closes opened state now type carries =>
      exact .closed [.uvClose] command env event rfl closes (by simp [shut, emit])
        (by simp [Obs.isPlain]) type
        carries (fun ended => sound.closes_again closes ended alive state) (.inr (.inl rfl))
        (.inl ⟨rfl, rfl⟩)
  | draining command env event close opened state stream pending type carries =>
      have closes : command.body.closes = true := by simp [close, CommandBody.closes]
      refine .closed [] command env event rfl closes (by simp [emit]) (by simp) type carries
        (fun ended => sound.closes_again closes ended alive state) (.inr (.inr (.inr rfl))) ?_
      by_cases stops : env.uv .readStop = 0
      · have streamed := (sound.stream (sound.streamed_of_bytes enabled.1 pending)).2
        exact .inl ⟨if_pos stops, sound.not_listening (by grind -ring -linarith)⟩
      · exact .inr (by simp [resumes, close, stops])
  | pumped env state pumped =>
      refine pumped.telling (List.append_nil _).symm (by simp) fun ended half refused => ?_
      exact sound.again ended alive state half fun waits asked => by
        simp [endsAgain, asked, waits, refused]
  | readData nread data env event reading some type =>
      exact .traffic [] env event rfl (by simp) (.inr (.inr type))
        fun _ => .inl reading
  | readEof nread data env event reading state eof type =>
      exact .eof env event rfl type
        (fun ended => sound.read_again reading (by simp [eof, uvEof]) ended)
        rfl ⟨rfl, sound.not_listening (by simp [state])⟩
  | readFailed nread data env event reading state fails notEof type =>
      exact .reject type rfl rfl fun ended => sound.read_again reading fails ended
  | udpFailed nread data address env event state type | connectFailed status env event state type =>
      exact .reject type rfl rfl fun ended => (sound.untouched ended alive (by simp [state])).elim
  | written status env buffer rest warnings head fine plain resumed =>
      refine resumed.telling (List.append_assoc _ _ _) (List.forall_mem_append.mpr
        ⟨by simp [Obs.isPlain], plain_of_type plain (by simp)⟩) fun ended unasked state half => ?_
      have asked := (sound.waits ended alive state half).1
      have unasked : life.closeRequested = false := unasked
      simp [unasked] at asked
  | writeFailed status env buffer rest event head fails state type resumed =>
      exact .write_failed sound head fails state type resumed
  | connected status env event state type =>
      exact .traffic [] env event rfl (by simp) (.inl type)
        fun ended => (sound.untouched ended alive (by simp [state])).elim
  | acceptDone accepted env event listening type =>
      exact .traffic [.uvAccept] env event (List.append_assoc _ _ _)
        (by simp [Obs.isPlain]) (.inr (.inl type))
        fun _ => .inr (.inl listening)

end Life

end Skyuv.Socket
