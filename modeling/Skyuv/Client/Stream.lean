import Skyuv.Lib.Trace
import Skyuv.Client.Commands

/-!
# The receive stream under backpressure

Each connection has a buffer of 64 KiB that read callbacks fill at its end and
`receive_data` drains from its front.  `StreamStep` says all that can happen to the
receiving side of one connection; the integrity of the stream follows from it by
induction over the run.
-/

set_option autoImplicit false

namespace Skyuv.Client

open TransitionSystem
open Socket (uvEof uvEinval uvEnomem uvEcanceled)

/-! ## What can happen to the receiving side -/

/-- The receiving side of a connection. -/
structure Stream where
  received : List UInt8
  readStatus : Int
  paused : Bool
  reading : Bool
  log : List Obs

namespace Connection

variable {connection before after : Connection}

def stream (connection : Connection) : Stream :=
  ⟨connection.received, connection.readStatus, connection.paused, connection.reading,
    connection.log⟩

/-- What one step of the runtime can do to the receiving side of a connection. -/
inductive StreamStep (before after : Connection) : Prop where
  | still (same : after.stream = before.stream)
  | stopped (same : after.stream = { before.stream with reading := false })
  | started (fresh : before.Fresh) (same : after.stream = { before.stream with reading := true })
  | delivered (delivery : Delivery) (reading : before.reading = true)
      (fits : delivery.bytes.length ≤ before.allocateRead)
      (honest : ∀ status, delivery = .failure status → status ≠ 0 ∧ status ≠ uvEagain)
      (same : after.stream = ((before.take delivery).note (.delivered delivery)).stream)
  | recv (capacity : Nat) (readStart : Int) (positive : 0 < capacity)
      (honest : readStart ≠ uvEagain)
      (same : after.stream = ((before.drain capacity readStart).note
        (.recv before.receiveResult (before.front capacity))).stream)
  | ready (same : after.stream = (before.note (.ready before.readReady)).stream)
  | shut (same : after.stream = ({ before with
      reading := false, readStatus := uvEof }.note .shutRead).stream)

theorem stream_closeTimer : connection.closeTimer.stream = connection.stream := by
  unfold closeTimer
  split <;> rfl

theorem StreamStep.congr {other : Connection} (step : before.StreamStep after)
    (same : other.stream = after.stream) : before.StreamStep other := by
  cases step with
  | still same' => exact .still (same.trans same')
  | stopped same' => exact .stopped (same.trans same')
  | started fresh same' => exact .started fresh (same.trans same')
  | delivered delivery reading fits honest same' =>
      exact .delivered delivery reading fits honest (same.trans same')
  | recv capacity readStart positive honest same' =>
      exact .recv capacity readStart positive honest (same.trans same')
  | ready same' => exact .ready (same.trans same')
  | shut same' => exact .shut (same.trans same')

theorem stream_close (silent : connection.reading = false) :
    connection.close.stream = connection.stream := by
  have timer := @stream_closeTimer connection.closeTcp
  rw [close, timer]
  unfold closeTcp
  split
  · rfl
  · rw [stream, stream, silent]

/-- `close_connection` stops a read at most. -/
theorem StreamStep.of_close (same : before.stream = connection.stream) :
    StreamStep connection before.close := by
  have timer := @stream_closeTimer before.closeTcp
  by_cases closing : before.tcp.isClosing = true
  · have skipped : before.closeTcp = before := by simp [closeTcp, closing]
    refine .still ?_
    rw [close, timer, skipped, same]
  · have stopped : before.closeTcp.stream = { before.stream with reading := false } := by
      simp [closeTcp, closing, stream]
    refine .stopped ?_
    rw [close, timer, stopped, same]

end Connection

/-! ## Callbacks -/

section Callbacks

variable {frame : Frame} {runtime : Runtime} {key : Nat} {connection : Connection}

theorem Frame.connected_stream (same : frame.connection.stream = connection.stream)
    (fresh : frame.connection.timedOut = false → connection.Fresh) (status readStart : Int) :
    connection.StreamStep (frame.connected status readStart).connection := by
  have timer : frame.connection.closeTimer.stream = connection.stream :=
    Connection.stream_closeTimer.trans same
  unfold Frame.connected
  dsimp only
  split
  · exact .still same
  · rename_i waiting
    split
    · exact .of_close timer
    · split
      · exact .of_close timer
      · have started : Connection.stream { frame.connection.closeTimer with reading := true } =
            { connection.stream with reading := true } := by
          rw [← timer]
          rfl
        have untimed : frame.connection.timedOut = false := by simpa using waiting
        split <;> exact .started (fresh untimed) started

theorem Frame.connectionClosed_stream :
    frame.connectionClosed.connection.stream = frame.connection.stream := by
  unfold Frame.connectionClosed
  dsimp only
  split
  · rfl
  · split <;> rfl

/-- A connection that waits for its connect callback has received nothing. -/
theorem Runtime.Wf.connecting_fresh (wf : runtime.Wf)
    (found : runtime.connections[key]? = some connection)
    (connecting : connection.connecting = true) (untimed : connection.timedOut = false) :
    connection.Fresh := by
  rcases wf.role found with ⟨request, record, busy⟩ | quiet
  · cases busy.holds with
    | dialing dialing => exact dialing.fresh
    | failing ending => simp [(ending.cancelled connecting).1] at untimed
    | closing _ idle => simp [idle] at connecting
    | writing established => simp [established.connecting] at connecting
    | shutting established => simp [established.connecting] at connecting
  · rcases quiet.stage with established | gone
    · simp [established.connecting] at connecting
    · simp [gone.connecting] at connecting

theorem Runtime.Wf.run_stream (wf : runtime.Wf)
    (found : runtime.connections[key]? = some connection) {callback : Callback}
    (deliverable : callback.deliverable connection = true) :
    connection.StreamStep (callback.run ⟨key, connection, runtime⟩).connection := by
  cases callback with
  | timeout => exact .of_close rfl
  | connected status readStart =>
      simp only [Callback.deliverable, Bool.and_eq_true] at deliverable
      exact @Frame.connected_stream
        { Frame.record ⟨key, connection, runtime⟩ (.connected status readStart) with
          connection := { connection with connecting := false } } connection rfl
        (wf.connecting_fresh found deliverable.1) status readStart
  | received delivery =>
      cases delivery with
      | data bytes =>
          simp only [Callback.deliverable, Bool.and_eq_true, decide_eq_true_eq] at deliverable
          exact .delivered (.data bytes) deliverable.1 deliverable.2 (by simp) rfl
      | failure status =>
          simp only [Callback.deliverable, Bool.and_eq_true, decide_eq_true_eq] at deliverable
          obtain ⟨⟨reading, negative⟩, honest⟩ := deliverable
          refine .delivered (.failure status) reading (Nat.zero_le _) ?_ rfl
          rintro _ ⟨⟩
          exact ⟨by omega, honest⟩
  | written status => exact .still rfl
  | shutdownDone status => exact .still rfl
  | tcpClosed => exact .still Frame.connectionClosed_stream
  | timerClosed => exact .still Frame.connectionClosed_stream

end Callbacks

/-! ## Calls -/

namespace Runtime

variable {runtime next : Runtime} {key : Nat} {connection after : Connection}

/-- Every connection has made a step of its stream or is new. -/
def Streams (runtime next : Runtime) : Prop :=
  ∀ (key : Nat) after, next.connections[key]? = some after →
    (∃ connection, runtime.connections[key]? = some connection ∧ connection.StreamStep after) ∨
      runtime.connections[key]? = none ∧ after.Fresh ∧ after.reading = false

theorem Streams.of_same (same : next.connections = runtime.connections) :
    runtime.Streams next := by
  intro key after found
  exact .inl ⟨after, by rw [← same]; exact found, .still rfl⟩

theorem Streams.of_set (found : runtime.connections[key]? = some connection)
    (step : connection.StreamStep after)
    (set : next.connections = runtime.connections.set key after) : runtime.Streams next := by
  intro other moved get
  obtain ⟨bound, -⟩ := List.getElem?_eq_some_iff.mp found
  by_cases same : key = other
  · subst same
    rw [set, List.getElem?_set_self bound] at get
    cases get
    exact .inl ⟨connection, found, step⟩
  · rw [set, List.getElem?_set_ne same] at get
    exact .inl ⟨moved, get, .still rfl⟩

theorem Streams.of_append (fresh : after.Fresh) (silent : after.reading = false)
    (append : next.connections = runtime.connections ++ [after]) : runtime.Streams next := by
  intro key moved get
  rw [append] at get
  rcases Nat.lt_trichotomy key runtime.connections.length with inside | last | beyond
  · rw [List.getElem?_append_left inside] at get
    exact .inl ⟨moved, get, .still rfl⟩
  · subst last
    obtain rfl : after = moved := by simpa using get
    exact .inr ⟨by simp, fresh, silent⟩
  · rw [List.getElem?_eq_none (by simp; omega)] at get
    cases get

/-- Nothing is received before the connect callback. -/
theorem launch_stream {frame : Frame} {stream : Stream} (same : frame.connection.stream = stream)
    (silent : stream.reading = false) (timeout : Int) (env : Env) :
    (frame.launch timeout env).key = frame.key ∧
      frame.runtime.Untouched (frame.launch timeout env).runtime ∧
      (frame.launch timeout env).connection.stream = stream := by
  have failed : ∀ (frame : Frame) result, frame.connection.stream = stream →
      (frame.fail result).connection.stream = stream := by
    intro frame result same
    have quiet : frame.connection.reading = false := (congrArg Stream.reading same).trans silent
    exact (Connection.stream_close quiet).trans same
  have dialed : ∀ frame : Frame, frame.connection.stream = stream →
      (frame.tcpConnect env).key = frame.key ∧
        frame.runtime.Untouched (frame.tcpConnect env).runtime ∧
        (frame.tcpConnect env).connection.stream = stream := by
    intro frame same
    unfold Frame.tcpConnect
    split
    · exact ⟨rfl, Frame.untouched_fail _, failed frame _ same⟩
    · exact ⟨rfl, .of_requests rfl rfl, same⟩
  have timed : (frame.startTimer env).1.key = frame.key ∧
      (frame.startTimer env).1.runtime = frame.runtime ∧
      (frame.startTimer env).1.connection.stream = stream := by
    unfold Frame.startTimer
    split <;> exact ⟨rfl, rfl, same⟩
  unfold Frame.launch
  dsimp only
  split
  · exact ⟨rfl, Frame.untouched_fail _, failed frame _ same⟩
  · split
    · obtain ⟨key, runtime, stream⟩ := timed
      rw [← key, ← runtime]
      split
      · exact ⟨rfl, Frame.untouched_fail _, failed _ _ stream⟩
      · exact dialed _ stream
    · exact dialed frame same

theorem streams_startConnect (request : Nat) (timeout : Int) (env : Env) :
    runtime.Streams (runtime.startConnect request timeout env).1 := by
  unfold startConnect
  split
  · exact .of_same rfl
  · split
    · exact .of_same rfl
    · split
      · exact .of_same rfl
      · let connection : Connection :=
          { id := runtime.nextId + 1, request := some request, creator := request }
        let linked := { runtime with
          connections := runtime.connections ++ [connection]
          linked := runtime.connections.length :: runtime.linked }
        obtain ⟨key, untouched, stream⟩ := @launch_stream
          ⟨runtime.connections.length, connection, linked⟩ connection.stream rfl rfl timeout env
        have fresh : (Frame.launch ⟨runtime.connections.length, connection, linked⟩ timeout
            env).connection.Fresh := by
          simp only [Connection.stream, Stream.mk.injEq] at stream
          exact ⟨stream.1, stream.2.1, stream.2.2.1, stream.2.2.2.2⟩
        have last : ∀ (older : List Connection) first second,
            (older ++ [first]).set older.length second = older ++ [second] := by simp
        refine .of_append fresh (congrArg Stream.reading stream) ?_
        change (Frame.launch ⟨runtime.connections.length, connection, linked⟩ timeout
          env).commit.connections = _
        rw [Frame.commit, key, untouched.connections]
        exact last _ _ _

theorem streams_startClose (request : Nat) (id : Int) :
    runtime.Streams (runtime.startClose request id).1 := by
  unfold startClose
  split
  · split
    · exact .of_same (untouched_complete request 0).connections
    · exact .of_same rfl
  · rename_i frame found
    obtain ⟨key, connection, rfl, -, get, -⟩ := findConnection_spec found
    refine .of_set get ?_ rfl
    exact .of_close rfl

theorem streams_startSend (request : Nat) (id : Int) (size : Nat) (env : Env) :
    runtime.Streams (runtime.startSend request id size env).1 := by
  unfold startSend
  split
  · exact .of_same rfl
  · rename_i frame found
    obtain ⟨key, connection, rfl, -, get, -⟩ := findConnection_spec found
    split
    · exact .of_same rfl
    · split
      · exact .of_same (untouched_complete request 0).connections
      · split
        · exact .of_same rfl
        · refine .of_set get ?_ rfl
          exact .still rfl

theorem streams_receiveData (request : Nat) (id : Int) {capacity : Nat} (positive : 0 < capacity)
    {env : Env} (honest : env.readStart ≠ uvEagain) :
    runtime.Streams (runtime.receiveData request id capacity env).1 := by
  unfold receiveData
  split
  · exact .of_same rfl
  · rename_i frame found
    obtain ⟨key, connection, rfl, -, get, -⟩ := findConnection_spec found
    exact .of_set get (.recv capacity env.readStart positive honest rfl) rfl

theorem streams_checkReady (request : Nat) (id : Int) :
    runtime.Streams (runtime.checkReady request id).1 := by
  unfold checkReady
  split
  · exact .of_same rfl
  · rename_i frame found
    obtain ⟨key, connection, rfl, -, get, -⟩ := findConnection_spec found
    exact .of_set get (.ready rfl) rfl

theorem streams_startShutdown (request : Nat) (id : Int) (read write : Bool) (env : Env) :
    runtime.Streams (runtime.startShutdown request id read write env).1 := by
  unfold startShutdown
  split
  · exact .of_same rfl
  · rename_i frame found
    obtain ⟨key, connection, rfl, -, get, -⟩ := findConnection_spec found
    have half : ∀ after : Connection, connection.StreamStep after →
        runtime.Streams (shutdownWrite ⟨key, after, runtime⟩ request write env).1 := by
      intro after step
      unfold shutdownWrite
      split
      · refine .of_set get (step.congr ?_) rfl
        rfl
      · refine .of_set get step ?_
        rw [(untouched_complete request 0).connections]
        rfl
    cases read with
    | false => exact half connection (.still rfl)
    | true =>
        simp only [if_true, shutdownRead]
        by_cases closed : connection.readClosed = true
        · rw [if_pos closed]
          exact half connection (.still rfl)
        · rw [if_neg closed]
          by_cases failure : env.shutdownRead = 0
          · rw [if_neg (not_not_intro failure)]
            exact half _ (.shut rfl)
          · rw [if_pos failure]
            simp only [ne_eq, failure, not_false_eq_true, if_true]
            exact .of_same rfl

theorem streams_call {call : Call} {env : Env} (honest : env.readStart ≠ uvEagain) :
    runtime.Streams (runtime.call call env) := by
  let opened := runtime.newRequest call env
  have streams : call.rejection env = 0 →
      opened.Streams (opened.execute runtime.requests.length env call).1 := by
    intro accepted
    cases call with
    | connect port timeout => exact streams_startConnect _ timeout env
    | close id => exact streams_startClose _ id
    | send id size => exact streams_startSend _ id size env
    | recv id capacity =>
        refine streams_receiveData _ id ?_ honest
        rw [Call.rejection] at accepted
        split at accepted
        · simp [Socket.uvEinval] at accepted
        · omega
    | shutdown id read write => exact streams_startShutdown _ id read write env
    | ready id => exact streams_checkReady _ id
  by_cases accepted : call.rejection env = 0
  · by_cases submitted : env.submit = 0
    · rw [call_accepted accepted submitted, concluded]
      split
      · exact streams accepted
      · exact streams accepted
    · rw [call_unsubmitted accepted submitted]
      exact .of_same rfl
  · rw [call_rejected accepted]
    exact .of_same rfl

theorem Wf.streams (wf : runtime.Wf) {label : Label} (run : Client.step runtime label = some next) :
    runtime.Streams next := by
  cases label with
  | call call env =>
      obtain ⟨accepts, ⟨⟩⟩ := Option.ite_none_right_eq_some.mp run
      simp only [Runtime.accepts, Bool.and_eq_true, decide_eq_true_eq] at accepts
      exact streams_call accepts.2
  | callback key callback =>
      obtain ⟨connection, found, deliverable, -, rfl⟩ := wf.of_callback run
      exact .of_set found (wf.run_stream found deliverable) (Callback.commit_connections callback)

end Runtime

/-! ## The invariant of a stream -/

def Obs.delivers : Obs → List UInt8
  | .delivered delivery => delivery.bytes
  | _ => []

def Obs.returns : Obs → List UInt8
  | .recv _ bytes => bytes
  | _ => []

def deliveredBytes (log : List Obs) : List UInt8 := log.flatMap Obs.delivers

def returnedBytes (log : List Obs) : List UInt8 := log.flatMap Obs.returns

/-- End of file or an error, as opposed to data and to `UV_EAGAIN`. -/
def Failure (result : Int) : Prop := result ≠ 0 ∧ result ≠ uvEagain

theorem deliveredBytes_concat (log : List Obs) (obs : Obs) :
    deliveredBytes (log ++ [obs]) = deliveredBytes log ++ obs.delivers := by
  simp [deliveredBytes]

theorem returnedBytes_concat (log : List Obs) (obs : Obs) :
    returnedBytes (log ++ [obs]) = returnedBytes log ++ obs.returns := by
  simp [returnedBytes]

/-- What is true of an event of the stream, given what came before it. -/
def Judged (before : List Obs) : Obs → Prop
  | .recv result bytes =>
      (Failure result → returnedBytes before = deliveredBytes before ∧ bytes = []) ∧
        ∀ first failure none between, before = first ++ .recv failure none :: between →
          Failure failure → Failure result ∧
            (result = failure ∨ result = uvEof ∧ .shutRead ∈ between)
  | .delivered _ =>
      ∀ first failure none between, before = first ++ .recv failure none :: between →
        ¬ Failure failure
  | _ => True

namespace Stream

variable {stream : Stream}

/-- Once a failure has been returned there is nothing left but a failure. -/
def Ended (stream : Stream) : Prop :=
  ∀ before result bytes after, stream.log = before ++ .recv result bytes :: after →
    Failure result → stream.received = [] ∧ stream.reading = false ∧
      (stream.readStatus = result ∨ stream.readStatus = uvEof ∧ .shutRead ∈ after)

structure Sound (stream : Stream) : Prop where
  balance : returnedBytes stream.log ++ stream.received = deliveredBytes stream.log
  bound : stream.received.length ≤ receiveLimit
  reading : stream.reading = true →
    stream.received.length < receiveLimit ∧ stream.readStatus = 0 ∧ stream.paused = false
  status : stream.readStatus ≠ uvEagain
  ended : stream.Ended
  history : Trace.Always Judged stream.log

theorem Sound.stopped (sound : stream.Sound) : Sound { stream with reading := false } where
  balance := sound.balance
  bound := sound.bound
  reading := by simp
  status := sound.status
  ended := by
    intro before result bytes after split failure
    obtain ⟨empty, -, status⟩ := sound.ended before result bytes after split failure
    exact ⟨empty, rfl, status⟩
  history := sound.history

/-- A failure that has been returned already, seen from a log with one event more. -/
theorem Ended.concat (ended : stream.Ended) {obs : Obs} {received : List UInt8} {status : Int}
    {reading paused : Bool}
    (kept : ∀ before result bytes after, stream.log = before ++ .recv result bytes :: after →
      Failure result → received = [] ∧ reading = false ∧
        (status = stream.readStatus ∨ status = uvEof ∧ obs = .shutRead))
    (last : ∀ result bytes, obs = .recv result bytes → Failure result →
      received = [] ∧ reading = false ∧ status = result) :
    Ended ⟨received, status, paused, reading, stream.log ++ [obs]⟩ := by
  intro before result bytes after split failure
  rcases Trace.concat_split split with ⟨-, same, -⟩ | ⟨rest, rfl, older⟩
  · obtain ⟨empty, silent, same⟩ := last result bytes same.symm failure
    exact ⟨empty, silent, .inl same⟩
  · obtain ⟨empty, silent, status⟩ := kept before result bytes rest older failure
    refine ⟨empty, silent, ?_⟩
    rcases status with same | ⟨eof, rfl⟩
    · rw [same]
      refine (ended before result bytes rest older failure).2.2.imp_right fun eof => ?_
      exact ⟨eof.1, List.mem_append_left _ eof.2⟩
    · exact .inr ⟨eof, by simp⟩

end Stream

namespace Connection

variable {connection after : Connection}

theorem sound_delivered (sound : connection.stream.Sound) {delivery : Delivery}
    (reading : connection.reading = true)
    (fits : delivery.bytes.length ≤ connection.allocateRead)
    (honest : ∀ status, delivery = .failure status → status ≠ 0 ∧ status ≠ uvEagain) :
    ((connection.take delivery).note (.delivered delivery)).stream.Sound := by
  -- the stream is reading, so no failure has been returned
  have open_ : ∀ before result bytes after,
      connection.log = before ++ .recv result bytes :: after → ¬ Failure result := by
    intro before result bytes after split failure
    obtain ⟨-, silent, -⟩ := sound.ended before result bytes after split failure
    simp [stream, reading] at silent
  have judged : Trace.Always Judged (connection.log ++ [.delivered delivery]) :=
    sound.history.concat open_
  have room : delivery.bytes.length + connection.received.length ≤ receiveLimit := by
    have bound := sound.bound
    simp only [allocateRead, stream] at fits bound
    omega
  have ended : ∀ {received : List UInt8} {status : Int} {reading paused : Bool}, Stream.Ended
      ⟨received, status, paused, reading, connection.log ++ [.delivered delivery]⟩ := by
    intro received status reading paused
    exact sound.ended.concat
      (fun before result bytes after split failure =>
        absurd failure (open_ before result bytes after split))
      (by simp)
  have balance : returnedBytes connection.log ++ connection.received =
      deliveredBytes connection.log := sound.balance
  cases delivery with
  | data bytes =>
      have grown : returnedBytes (connection.log ++ [.delivered (.data bytes)]) ++
          (connection.received ++ bytes) =
            deliveredBytes (connection.log ++ [.delivered (.data bytes)]) := by
        rw [deliveredBytes_concat, returnedBytes_concat, ← balance]
        simp [Obs.returns, Obs.delivers, Delivery.bytes]
      simp only [Delivery.bytes] at room
      rw [take]
      split
      · rename_i empty
        obtain rfl := List.isEmpty_iff.mp empty
        rw [List.append_nil] at grown
        exact ⟨grown, sound.bound, sound.reading, sound.status, ended, judged⟩
      · split
        · rename_i full
          exact ⟨grown, by simp [stream, note]; omega, by simp [stream, note], sound.status, ended,
            judged⟩
        · rename_i partly
          refine ⟨grown, by simp [stream, note]; omega, fun _ => ⟨?_, (sound.reading reading).2⟩,
            sound.status, ended, judged⟩
          simp only [stream, note, List.length_append]
          omega
  | failure code =>
      refine ⟨?_, sound.bound, by simp [stream, note, take], (honest code rfl).2, ended, judged⟩
      simpa [stream, note, take, deliveredBytes_concat, returnedBytes_concat, Obs.returns,
        Obs.delivers, Delivery.bytes] using balance

/-- A call that finds no byte returns the status of the connection. -/
theorem sound_recv_empty (sound : connection.stream.Sound) (empty : connection.received = []) :
    (connection.note (.recv connection.receiveResult [])).stream.Sound := by
  have balance : returnedBytes connection.log ++ connection.received =
      deliveredBytes connection.log := sound.balance
  have history : Trace.Always Judged connection.log := sound.history
  have status : Failure connection.receiveResult →
      connection.readStatus = connection.receiveResult := by
    intro failure
    by_cases clear : connection.readStatus = 0
    · simp [receiveResult, empty, clear, Failure] at failure
    · simp [receiveResult, empty, clear]
  have failed : ∀ first result bytes between,
      connection.log = first ++ .recv result bytes :: between → Failure result →
        Failure connection.receiveResult ∧ (connection.receiveResult = result ∨
          connection.receiveResult = uvEof ∧ .shutRead ∈ between) := by
    intro first result bytes between split failure
    obtain ⟨-, -, kept⟩ := sound.ended first result bytes between split failure
    have broken : Failure connection.readStatus := by
      rcases kept with same | ⟨eof, -⟩
      · exact (show connection.readStatus = result from same) ▸ failure
      · exact (show connection.readStatus = uvEof from eof) ▸ ⟨by decide, by decide⟩
    have told : connection.receiveResult = connection.readStatus := by
      simp [receiveResult, empty, broken.1]
    rw [told]
    exact ⟨broken, kept⟩
  rw [empty, List.append_nil] at balance
  refine ⟨?_, sound.bound, sound.reading, sound.status, ?_, history.concat ⟨?_, failed⟩⟩
  · simpa [stream, note, deliveredBytes_concat, returnedBytes_concat, Obs.returns, Obs.delivers,
      empty] using balance
  · refine sound.ended.concat ?_ ?_
    · intro before result bytes after split failure
      obtain ⟨nil, silent, -⟩ := sound.ended before result bytes after split failure
      exact ⟨nil, silent, .inl rfl⟩
    · rintro result bytes ⟨⟩ failure
      have same := status failure
      refine ⟨empty, ?_, same⟩
      cases reading : connection.reading with
      | false => exact reading
      | true => exact absurd (same.symm.trans (sound.reading reading).2.1) failure.1
  · exact fun _ => ⟨balance, rfl⟩

/-- A call that finds bytes: no failure has been returned, and none is now. -/
theorem sound_recv_bytes (sound : connection.stream.Sound) {capacity : Nat} {readStart : Int}
    (positive : 0 < capacity) (honest : readStart ≠ uvEagain) (left : connection.received ≠ []) :
    ((connection.drain capacity readStart).note
      (.recv 0 (connection.front capacity))).stream.Sound := by
  have balance : returnedBytes connection.log ++ connection.received =
      deliveredBytes connection.log := sound.balance
  have history : Trace.Always Judged connection.log := sound.history
  have open_ : ∀ before result bytes after,
      connection.log = before ++ .recv result bytes :: after → ¬ Failure result := by
    intro before result bytes after split failure
    exact left (sound.ended before result bytes after split failure).1
  have notFailed : ¬ Failure 0 := fun failure => failure.1 rfl
  have judged : Trace.Always Judged
      (connection.log ++ [.recv 0 (connection.front capacity)]) :=
    history.concat ⟨fun failure => absurd failure notFailed,
      fun first result bytes between split failure =>
        absurd failure (open_ first result bytes between split)⟩
  have ended : ∀ {received : List UInt8} {status : Int} {reading paused : Bool}, Stream.Ended
      ⟨received, status, paused, reading,
        connection.log ++ [.recv 0 (connection.front capacity)]⟩ := by
    intro received status reading paused
    refine sound.ended.concat ?_ ?_
    · intro before result bytes after split failure
      exact absurd failure (open_ before result bytes after split)
    · rintro result bytes ⟨⟩ failure
      exact absurd failure notFailed
  have grown : returnedBytes (connection.log ++ [.recv 0 (connection.front capacity)]) ++
      connection.received.drop capacity =
        deliveredBytes (connection.log ++ [.recv 0 (connection.front capacity)]) := by
    rw [deliveredBytes_concat, returnedBytes_concat, ← balance]
    simp [Obs.returns, Obs.delivers, front, List.append_assoc]
  have shorter : (connection.received.drop capacity).length < receiveLimit := by
    have some_ := List.length_pos_iff.mpr left
    have bound : connection.received.length ≤ receiveLimit := sound.bound
    rw [List.length_drop]
    omega
  unfold drain
  rw [if_neg left]
  dsimp only
  split
  · rename_i resume
    split
    · have stuck : connection.reading = true → False := by
        intro reading
        have unpaused : connection.paused = false := (sound.reading reading).2.2
        simp [unpaused] at resume
      exact ⟨grown, Nat.le_of_lt shorter, fun reading => (stuck reading).elim, honest, ended,
        judged⟩
    · exact ⟨grown, Nat.le_of_lt shorter, fun _ => ⟨shorter, resume.2, rfl⟩, sound.status, ended,
        judged⟩
  · exact ⟨grown, Nat.le_of_lt shorter, fun reading => ⟨shorter, (sound.reading reading).2⟩,
      sound.status, ended, judged⟩

theorem sound_recv (sound : connection.stream.Sound) {capacity : Nat} {readStart : Int}
    (positive : 0 < capacity) (honest : readStart ≠ uvEagain) :
    ((connection.drain capacity readStart).note
      (.recv connection.receiveResult (connection.front capacity))).stream.Sound := by
  by_cases empty : connection.received = []
  · have drained : connection.drain capacity readStart = connection := by simp [drain, empty]
    have nothing : connection.front capacity = [] := by simp [front, empty]
    rw [drained, nothing]
    exact sound_recv_empty sound empty
  · have told : connection.receiveResult = 0 := by simp [receiveResult, empty]
    rw [told]
    exact sound_recv_bytes sound positive honest empty

/-- An event that neither delivers nor returns a byte. -/
theorem sound_note (sound : connection.stream.Sound) {obs : Obs} (nothing : obs.delivers = [])
    (none : obs.returns = []) (judged : Judged connection.log obs)
    (silent : ∀ result bytes, obs ≠ .recv result bytes) :
    (connection.note obs).stream.Sound where
  balance := by
    simpa [stream, note, deliveredBytes_concat, returnedBytes_concat, nothing, none]
      using sound.balance
  bound := sound.bound
  reading := sound.reading
  status := sound.status
  ended := by
    refine sound.ended.concat ?_ fun result bytes same => absurd same (silent result bytes)
    intro before result bytes after split failure
    obtain ⟨empty, stopped, -⟩ := sound.ended before result bytes after split failure
    exact ⟨empty, stopped, .inl rfl⟩
  history := sound.history.concat judged

theorem sound_shut (sound : connection.stream.Sound) :
    ({ connection with reading := false, readStatus := uvEof }.note .shutRead).stream.Sound where
  balance := by
    simpa [stream, note, deliveredBytes_concat, returnedBytes_concat, Obs.delivers, Obs.returns]
      using sound.balance
  bound := sound.bound
  reading := by simp [stream, note]
  status := show uvEof ≠ uvEagain by decide
  ended := by
    refine sound.ended.concat ?_ (by simp)
    intro before result bytes after split failure
    obtain ⟨empty, -, -⟩ := sound.ended before result bytes after split failure
    exact ⟨empty, rfl, .inr ⟨rfl, rfl⟩⟩
  history := sound.history.concat trivial

theorem Fresh.sound (fresh : connection.Fresh) : connection.stream.Sound := by
  have status : connection.readStatus ≠ uvEagain := by simp [fresh.readStatus, uvEagain]
  refine ⟨?_, ?_, fun _ => ⟨?_, fresh.readStatus, fresh.paused⟩, status, ?_, ?_⟩
  · simp [stream, fresh.received, fresh.log, returnedBytes, deliveredBytes]
  · simp [stream, fresh.received]
  · simp [stream, fresh.received, receiveLimit]
  · intro before result bytes after split
    simp [stream, fresh.log] at split
  · rw [show connection.stream.log = [] from fresh.log]
    exact Trace.always_nil

theorem StreamStep.sound (step : connection.StreamStep after) (sound : connection.stream.Sound) :
    after.stream.Sound := by
  cases step with
  | still same => exact same ▸ sound
  | stopped same => exact same ▸ sound.stopped
  | started fresh same =>
      have begun : Fresh { connection with reading := true } :=
        ⟨fresh.received, fresh.readStatus, fresh.paused, fresh.log⟩
      exact same ▸ begun.sound
  | delivered delivery reading fits honest same =>
      exact same ▸ sound_delivered sound reading fits honest
  | recv capacity readStart positive honest same =>
      exact same ▸ sound_recv sound positive honest
  | ready same => exact same ▸ sound_note sound rfl rfl trivial (by simp)
  | shut same => exact same ▸ sound_shut sound

end Connection

theorem Runtime.stream_sound {runtime : Runtime} (reached : clientSystem.Reachable runtime) :
    ∀ (key : Nat) connection, runtime.connections[key]? = some connection →
      connection.stream.Sound := by
  have both := reached.invariant
    (fun state : Runtime => state.Wf ∧ ∀ (key : Nat) connection,
      state.connections[key]? = some connection → connection.stream.Sound)
    ⟨wf_init, by simp [clientSystem]⟩ ?_
  · exact both.2
  · rintro state label next ⟨wf, sound⟩ run
    refine ⟨wf.step run, fun key after found => ?_⟩
    rcases wf.streams run key after found with ⟨connection, get, step⟩ | ⟨-, fresh, -⟩
    · exact step.sound (sound key connection get)
    · exact fresh.sound

/-! ## What the calls report -/

namespace Runtime

variable {runtime : Runtime} {id : Int} {key : Nat} {connection : Connection}

theorem findConnection_of_same {other : Runtime} (linked : other.linked = runtime.linked)
    (connections : other.connections = runtime.connections)
    (found : runtime.findConnection id = some ⟨key, connection, runtime⟩) :
    other.findConnection id = some ⟨key, connection, other⟩ := by
  rw [findConnection_eq] at found ⊢
  rw [linked, connections]
  obtain ⟨place, first, hit⟩ := Option.bind_eq_some_iff.mp found
  obtain ⟨value, get, same⟩ := Option.map_eq_some_iff.mp hit
  cases same
  rw [first, Option.bind_some, get]
  rfl

theorem ready_reports {env : Env} (submitted : env.submit = 0)
    (found : runtime.findConnection id = some ⟨key, connection, runtime⟩) :
    ∃ record, (runtime.call (.ready id) env).requests = runtime.requests ++ [record] ∧
      record.answers = [0] ∧ record.read = connection.readReady := by
  let opened := runtime.newRequest (.ready id) env
  have found' : opened.findConnection id = some ⟨key, connection, opened⟩ :=
    @findConnection_of_same runtime id key connection opened rfl rfl found
  have last : opened.requests[runtime.requests.length]? =
      some { call := .ready id, events := [] } := by
    simp [opened, newRequest, Call.events]
  rw [call_accepted rfl submitted]
  change ∃ record,
    (concluded _ false (opened.checkReady runtime.requests.length id)).requests = _ ∧ _
  simp only [checkReady, found', concluded, Bool.and_false, Bool.false_eq_true, if_false]
  rw [commit_answer, amend_answer last rfl]
  let record : Request := {
    call := .ready id
    read := connection.readReady
    writeEnabled := !connection.writeClosed
    answers := [0] }
  exact ⟨record, by simp [Frame.commit, opened, newRequest, record], rfl, rfl⟩

theorem recv_reports {env : Env} {capacity : Nat} (positive : 0 < capacity)
    (submitted : env.submit = 0)
    (found : runtime.findConnection id = some ⟨key, connection, runtime⟩) :
    ∃ record, (runtime.call (.recv id capacity) env).requests = runtime.requests ++ [record] ∧
      record.answers = [connection.receiveResult] ∧ record.bytes = connection.front capacity := by
  let opened := runtime.newRequest (.recv id capacity) env
  have found' : opened.findConnection id = some ⟨key, connection, opened⟩ :=
    @findConnection_of_same runtime id key connection opened rfl rfl found
  have last : opened.requests[runtime.requests.length]? =
      some { call := .recv id capacity, events := [] } := by
    simp [opened, newRequest, Call.events]
  have accepted : (Call.recv id capacity).rejection env = 0 := by
    rw [Call.rejection, if_neg (by omega)]
  rw [call_accepted accepted submitted]
  change ∃ record, (concluded _ false
    (opened.receiveData runtime.requests.length id capacity env)).requests = _ ∧ _
  simp only [receiveData, found', concluded, Bool.and_false, Bool.false_eq_true, if_false]
  rw [commit_answer, amend_answer last rfl]
  let record : Request := {
    call := .recv id capacity
    bytes := connection.front capacity
    answers := [connection.receiveResult] }
  exact ⟨record, by simp [Frame.commit, opened, newRequest, record], rfl, rfl⟩

end Runtime

/-! ## The stream of every connection -/

theorem Stream.Sound.drained {stream : Stream} (sound : stream.Sound) {before after : List Obs}
    {result : Int} {bytes : List UInt8}
    (split : stream.log = before ++ .recv result bytes :: after) (failure : Failure result) :
    returnedBytes before = deliveredBytes stream.log := by
  have judged := sound.history before (.recv result bytes) after split
  have nothing : ∀ obs ∈ after, obs.delivers = [] := by
    intro obs member
    obtain ⟨between, rest, rfl⟩ := List.append_of_mem member
    cases obs with
    | delivered delivery =>
        have later := sound.history (before ++ .recv result bytes :: between) (.delivered delivery)
          rest (by rw [split]; simp)
        exact absurd failure (later before result bytes between rfl)
    | recv result bytes => rfl
    | ready read => rfl
    | shutRead => rfl
  have rest : deliveredBytes after = [] := List.flatMap_eq_nil_iff.mpr nothing
  rw [(judged.1 failure).1, split]
  simp only [deliveredBytes, List.flatMap_append, List.flatMap_cons] at rest ⊢
  rw [rest]
  simp [Obs.delivers]

theorem Stream.Sound.later {stream : Stream} (sound : stream.Sound)
    {before between rest : List Obs} {result later : Int} {bytes more : List UInt8}
    (split : stream.log = before ++ .recv result bytes :: (between ++ .recv later more :: rest))
    (failure : Failure result) :
    Failure later ∧ (later = result ∨ later = uvEof ∧ .shutRead ∈ between) := by
  have judged := sound.history (before ++ .recv result bytes :: between) (.recv later more) rest
    (by rw [split]; simp)
  exact judged.2 before result bytes between rfl failure

/-- The receive stream, for every connection in every reachable state.  The bytes
returned so far followed by the buffered ones are the bytes delivered.  The buffer
never overflows, and room is left in it whenever the stream is reading.  A failure
is returned only after every byte, and from then on there are only failures: the
same, or the end of file that a read shutdown leaves.  What `ready` reports is
whether `recv` would answer something other than `UV_EAGAIN`. -/
theorem receive_stream_integrity {runtime : Runtime} (reached : clientSystem.Reachable runtime) :
    (∀ (key : Nat) connection, runtime.connections[key]? = some connection →
      returnedBytes connection.log ++ connection.received = deliveredBytes connection.log ∧
      connection.received.length ≤ receiveLimit ∧
      (connection.reading = true →
        connection.received.length < receiveLimit ∧ 0 < connection.allocateRead) ∧
      ∀ before result bytes after, connection.log = before ++ .recv result bytes :: after →
        Failure result → returnedBytes before = deliveredBytes connection.log ∧
          ∀ between later more rest, after = between ++ .recv later more :: rest →
            Failure later ∧ (later = result ∨ later = uvEof ∧ .shutRead ∈ between)) ∧
      ∀ id capacity env frame, runtime.findConnection id = some frame → 0 < capacity →
        env.submit = 0 →
          ∃ checked taken,
            (runtime.call (.ready id) env).requests = runtime.requests ++ [checked] ∧
            (runtime.call (.recv id capacity) env).requests = runtime.requests ++ [taken] ∧
            checked.answers = [0] ∧ (checked.read = true ↔ taken.answers ≠ [uvEagain]) := by
  have sound := Runtime.stream_sound reached
  refine ⟨?_, ?_⟩
  · intro key connection found
    have stream := sound key connection found
    refine ⟨stream.balance, stream.bound, fun reading => ?_, ?_⟩
    · have room : connection.received.length < receiveLimit := (stream.reading reading).1
      exact ⟨room, Nat.sub_pos_of_lt room⟩
    · intro before result bytes after split failure
      refine ⟨stream.drained split failure, ?_⟩
      rintro between later more rest rfl
      exact stream.later split failure
  · intro id capacity env frame found positive submitted
    obtain ⟨key, connection, rfl, -, get, -⟩ := Runtime.findConnection_spec found
    obtain ⟨checked, ready, zero, read⟩ := Runtime.ready_reports submitted found
    obtain ⟨taken, recv, answers, -⟩ := Runtime.recv_reports positive submitted found
    refine ⟨checked, taken, ready, recv, zero, ?_⟩
    have status : connection.readStatus ≠ uvEagain := (sound key connection get).status
    rw [read, answers]
    by_cases empty : connection.received = []
    · by_cases clear : connection.readStatus = 0
      · simp [Connection.readReady, Connection.receiveResult, empty, clear]
      · simp [Connection.readReady, Connection.receiveResult, empty, clear, status]
    · simp [Connection.readReady, Connection.receiveResult, empty, uvEagain]

/-- One read, a partial `recv`, end of file, and two more calls. -/
def drainedRun : List Label :=
  [.call (.connect 80 (-1)) {}, .callback 0 (.connected 0 0),
    .callback 0 (.received (.data [1, 2, 3])), .call (.recv 1 2) {},
    .callback 0 (.received (.failure uvEof)), .call (.recv 1 2) {}, .call (.recv 1 2) {}]

def drainedState : Runtime := (clientSystem.exec {} drainedRun).get (by decide)

theorem receive_stream_integrity_drained :
    drainedState.requests.map (fun record => (record.answers, record.bytes)) =
        [([0], []), ([0], [1, 2]), ([0], [3]), ([uvEof], [])] ∧
      ∀ (key : Nat) connection, drainedState.connections[key]? = some connection →
        returnedBytes connection.log ++ connection.received = deliveredBytes connection.log :=
  ⟨by decide, fun key connection found =>
    ((receive_stream_integrity ⟨drainedRun, (Option.some_get _).symm⟩).1 key connection found).1⟩

end Skyuv.Client
