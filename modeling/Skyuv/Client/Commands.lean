import Skyuv.Client.Callbacks

/-!
# Commands keep the protocol

A call finds the runtime idle.  Its command answers the request at once or leaves
it with one connection.  Together with the callbacks this makes `Wf` an invariant.
-/

set_option autoImplicit false

namespace Skyuv.Client

open TransitionSystem
open Socket (uvEof uvEinval uvEnomem uvEcanceled)

namespace Runtime

variable {runtime next : Runtime} {key request : Nat} {connection after : Connection}
  {record : Request}

/-! ## A request that is open -/

/-- A request that has just been made. -/
structure Pending (runtime : Runtime) (request : Nat) (record : Request) : Prop where
  opened : runtime.Open request record
  quiet : ∀ (key : Nat) connection, runtime.connections[key]? = some connection →
    connection.Quiet
  foreign : ∀ (key : Nat) connection, runtime.connections[key]? = some connection →
    connection.frees = 0 → connection.creator ≠ request

theorem Pending.focus (pending : runtime.Pending request record)
    (found : runtime.connections[key]? = some connection) :
    runtime.Focus key request connection record where
  opened := pending.opened
  found := found
  others := fun other value _ => pending.quiet other value
  foreign := fun other value _ => pending.foreign other value

/-- The request of a call made while the runtime is idle. -/
theorem Idle.pending (idle : runtime.Idle) (base : runtime.Base)
    (unanswered : record.answers = []) :
    { runtime with requests := runtime.requests ++ [record] }.Base ∧
      { runtime with requests := runtime.requests ++ [record] }.Pending runtime.requests.length
        record := by
  have earlier : ∀ (other : Nat) found, runtime.requests[other]? = some found →
      (runtime.requests ++ [record])[other]? = some found := by
    intro other found get
    obtain ⟨bound, -⟩ := List.getElem?_eq_some_iff.mp get
    rw [List.getElem?_append_left bound, get]
  refine ⟨⟨base.faults, base.nodup, base.linked, base.sound, ?_⟩,
    ⟨by simp, by simp, unanswered, ?_⟩,
    idle.quiet, ?_⟩
  · intro key connection found live
    obtain ⟨maker, get, rest⟩ := base.made key connection found live
    exact ⟨maker, earlier _ _ get, rest⟩
  · intro other found distinct get
    have bound : other < runtime.requests.length := by
      have total := (List.getElem?_eq_some_iff.mp get).1
      simp only [List.length_append, List.length_singleton] at total
      omega
    rw [List.getElem?_append_left bound] at get
    exact idle.settled other found get
  · intro key connection found live own
    obtain ⟨maker, get, -⟩ := base.made key connection found live
    have bound := (List.getElem?_eq_some_iff.mp get).1
    omega

/-- A command that answers without touching a connection. -/
theorem Pending.settle (pending : runtime.Pending request record) (base : runtime.Base)
    {amended : Request} (settled : amended.Settled) :
    { runtime with requests := runtime.requests.set request amended }.Wf := by
  obtain ⟨bound, -⟩ := List.getElem?_eq_some_iff.mp pending.opened.found
  refine ⟨⟨base.faults, base.nodup, base.linked, base.sound, ?_⟩, .inl ⟨?_, pending.quiet⟩⟩
  · intro key connection found live
    obtain ⟨maker, get, rest⟩ := base.made key connection found live
    have distinct := pending.foreign key connection found live
    exact ⟨maker, by simpa [distinct.symm] using get, rest⟩
  · intro other found get
    by_cases same : other = request
    · subst same
      rw [List.getElem?_set_self bound] at get
      cases get
      exact settled
    · rw [List.getElem?_set_ne (Ne.symm same)] at get
      exact pending.opened.earlier other found same get

theorem Pending.answer (pending : runtime.Pending request record) (base : runtime.Base)
    {result : Int} (decided : record.connects = true → record.verdict = some result) :
    (runtime.answer request result).Wf := by
  rw [answer_of_open pending.opened.found pending.opened.unanswered]
  exact pending.settle base ⟨result, rfl, decided⟩

theorem Pending.complete (pending : runtime.Pending request record) (base : runtime.Base)
    (other : record.connects = false) (result : Int) : (runtime.complete request result).Wf := by
  rw [complete_of_open pending.opened.found pending.opened.unanswered]
  exact pending.settle base (Request.settled_of_other other rfl rfl)

/-- The connection that is found depends on the list and the ids alone. -/
theorem findConnection_eq (id : Int) : runtime.findConnection id =
    (runtime.linked.find? fun key => runtime.connections[key]?.map Connection.id = some id).bind
      fun key => runtime.connections[key]?.map fun connection => ⟨key, connection, runtime⟩ := by
  unfold findConnection
  induction runtime.linked with
  | nil => rfl
  | cons first rest ih =>
      rw [List.findSome?_cons, List.find?_cons]
      cases get : runtime.connections[first]? with
      | none => simpa using ih
      | some candidate =>
          by_cases same : candidate.id = id
          · simp [same, get]
          · simpa [same] using ih

theorem findConnection_spec {id : Int} {frame : Frame}
    (found : runtime.findConnection id = some frame) :
    ∃ key connection, frame = ⟨key, connection, runtime⟩ ∧ key ∈ runtime.linked ∧
      runtime.connections[key]? = some connection ∧ connection.id = id := by
  obtain ⟨key, member, hit⟩ := List.exists_of_findSome?_eq_some found
  cases get : runtime.connections[key]? with
  | none => simp [get] at hit
  | some connection =>
      simp only [get] at hit
      obtain ⟨same, ⟨⟩⟩ := Option.ite_none_right_eq_some.mp hit
      exact ⟨key, connection, rfl, member, get, same⟩

/-- While no request is under way, only established connections are found. -/
theorem Pending.found (pending : runtime.Pending request record) (base : runtime.Base) {id : Int}
    {frame : Frame} (found : runtime.findConnection id = some frame) :
    ∃ key connection, frame = ⟨key, connection, runtime⟩ ∧
      runtime.Focus key request connection record ∧ connection.Established ∧ connection.Quiet ∧
      connection.Sound ∧ connection.frees = 0 := by
  obtain ⟨key, connection, same, member, get, -⟩ := findConnection_spec found
  have quiet := pending.quiet key connection get
  obtain ⟨value, get', live⟩ := (base.linked key).mp member
  cases get.symm.trans get'
  refine ⟨key, connection, same, pending.focus get, ?_, quiet, base.sound key connection get, live⟩
  rcases quiet.stage with established | gone
  · exact established
  · simp [gone.frees] at live

/-- What a command leaves once its caller has acted on its result. -/
def concluded (request : Nat) (awaits : Bool) (outcome : Runtime × Int) : Runtime :=
  if outcome.2 = 0 && awaits then outcome.1 else outcome.1.answer request outcome.2

theorem concluded_error {result : Int} (failure : result ≠ 0) (awaits : Bool) :
    concluded request awaits (runtime, result) = runtime.answer request result := by
  simp [concluded, failure]

theorem concluded_wait : concluded request true (runtime, 0) = runtime := by
  simp [concluded]

theorem Pending.refuse (pending : runtime.Pending request record) (base : runtime.Base)
    (other : record.connects = false) {result : Int} (failure : result ≠ 0) (awaits : Bool) :
    (concluded request awaits (runtime, result)).Wf := by
  rw [concluded_error failure]
  exact pending.answer base (by simp [other])

theorem Pending.startClose (pending : runtime.Pending request record) (base : runtime.Base)
    (other : record.connects = false) (id : Int) :
    (concluded request true (runtime.startClose request id)).Wf := by
  unfold Runtime.startClose
  split
  · split
    · rw [concluded_wait]
      exact pending.complete base other 0
    · exact pending.refuse base other (by decide) _
  · rename_i frame found
    obtain ⟨key, connection, rfl, focus, established, quiet, sound, live⟩ :=
      pending.found base found
    let held : Connection := { connection with request := some request }
    have heldSound : held.Sound :=
      ⟨sound.tcp, sound.timer, sound.handles, sound.armed, sound.reading, sound.frees⟩
    have ending : held.shut.Ending request := {
      held := rfl
      tcp := by simp [held, Connection.shut, established.tcp, Handle.shut, Handle.isClosing]
      timer := by
        have timer := established.timer
        cases handle : connection.timer <;> simp_all [held, Connection.shut, Handle.shut]
      cancelled := by simp [held, Connection.shut, established.connecting]
      writing := quiet.writing
      shutting := quiet.shutting
      live := live }
    rw [concluded_wait, show Connection.close { connection with request := some request } =
      held.shut from heldSound.close_eq]
    exact focus.proceed base live (focus.update base ending.live) heldSound.shut rfl rfl
      pending.opened.unanswered (.closing ending established.connecting other)

theorem Pending.startSend (pending : runtime.Pending request record) (base : runtime.Base)
    (other : record.connects = false) (id : Int) (size : Nat) (env : Env) :
    (concluded request true (runtime.startSend request id size env)).Wf := by
  unfold Runtime.startSend
  split
  · exact pending.refuse base other (by decide) _
  · rename_i frame found
    obtain ⟨key, connection, rfl, focus, established, quiet, sound, live⟩ :=
      pending.found base found
    split
    · exact pending.refuse base other (by decide) _
    · split
      · rw [concluded_wait]
        exact pending.complete base other 0
      · split
        · exact pending.refuse base other ‹_› _
        · rw [concluded_wait]
          exact focus.proceed base live (focus.update base (by exact live))
            ⟨sound.tcp, sound.timer, sound.handles, sound.armed, sound.reading, sound.frees⟩ rfl rfl
            pending.opened.unanswered
            (.writing ⟨established.request, established.tcp, established.timer,
              established.connecting⟩ rfl quiet.shutting other)

/-- A command that answers at once and changes at most the receiving side. -/
theorem Pending.observe (pending : runtime.Pending request record) (base : runtime.Base)
    (other : record.connects = false)
    (found : runtime.connections[key]? = some connection) (quiet : connection.Quiet)
    (kept : connection.Kept after) {amended : Request} {result : Int}
    (update : runtime.Update key request after amended next) (call : amended.call = record.call)
    (answers : amended.answers = [result]) : next.Wf := by
  have focus := pending.focus found
  have live := (base.sound key connection found).live_of_open kept.before.tcp
  exact focus.finish base live update kept.sound kept.creator call
    (fun own _ => absurd own (pending.foreign key connection found live))
    (Request.settled_of_other other call answers) (kept.quiet quiet)

theorem commit_answer (frame : Frame) (result : Int) :
    frame.commit.answer request result =
      { frame with runtime := frame.runtime.answer request result }.commit := rfl

/-- The record is amended by the command and answered by its caller. -/
theorem amend_answer (found : runtime.requests[request]? = some record)
    {change : Request → Request} (unanswered : (change record).answers = []) (result : Int) :
    (runtime.amend request change).answer request result =
      { runtime with
        requests := runtime.requests.set request { change record with answers := [result] } } := by
  have amended : (runtime.amend request change).requests[request]? = some (change record) := by
    simp [amend, found]
  rw [answer_of_open amended unanswered, amend_of_found found]
  simp

theorem Pending.receiveData (pending : runtime.Pending request record) (base : runtime.Base)
    (other : record.connects = false) (id : Int) (capacity : Nat) (env : Env) :
    (concluded request false (runtime.receiveData request id capacity env)).Wf := by
  unfold Runtime.receiveData
  split
  · exact pending.refuse base other (by decide) _
  · rename_i frame found
    obtain ⟨key, connection, rfl, focus, established, quiet, sound, live⟩ :=
      pending.found base found
    have kept : connection.Kept ((connection.drain capacity env.readStart).note
        (.recv connection.receiveResult (connection.front capacity))) :=
      .of_outline sound established (Connection.outline_drain capacity env.readStart)
    simp only [concluded, Bool.and_false, Bool.false_eq_true, if_false]
    rw [commit_answer, amend_answer pending.opened.found (by exact pending.opened.unanswered)]
    exact pending.observe base other focus.found quiet kept
      (base.update (kept.sound.live_of_open kept.established.tcp)) rfl rfl

theorem Pending.checkReady (pending : runtime.Pending request record) (base : runtime.Base)
    (other : record.connects = false) (id : Int) :
    (concluded request false (runtime.checkReady request id)).Wf := by
  unfold Runtime.checkReady
  split
  · exact pending.refuse base other (by decide) _
  · rename_i frame found
    obtain ⟨key, connection, rfl, focus, established, quiet, sound, live⟩ :=
      pending.found base found
    have kept : connection.Kept (connection.note (.ready connection.readReady)) :=
      .of_outline sound established (Connection.outline_note _)
    simp only [concluded, Bool.and_false, Bool.false_eq_true, if_false]
    rw [commit_answer, amend_answer pending.opened.found (by exact pending.opened.unanswered)]
    exact pending.observe base other focus.found quiet kept
      (base.update (kept.sound.live_of_open kept.established.tcp)) rfl rfl

/-- The write half, on a connection whose receiving side may have changed. -/
theorem Pending.shutdownWrite (pending : runtime.Pending request record) (base : runtime.Base)
    (other : record.connects = false) (found : runtime.connections[key]? = some connection)
    (kept : connection.Kept after) (quiet : connection.Quiet) (write : Bool) (env : Env) :
    (concluded request true
      (Runtime.shutdownWrite ⟨key, after, runtime⟩ request write env)).Wf := by
  have focus := pending.focus found
  have live := (base.sound key connection found).live_of_open kept.before.tcp
  have afterLive := kept.sound.live_of_open kept.established.tcp
  have own := pending.foreign key connection found live
  have unanswered := pending.opened.unanswered
  unfold Runtime.shutdownWrite
  split
  · by_cases failure : env.shutdown = 0
    · rw [failure, concluded_wait, if_pos rfl]
      exact focus.proceed base live (focus.update base (by exact afterLive))
        ⟨kept.sound.tcp, kept.sound.timer, kept.sound.handles, kept.sound.armed,
          kept.sound.reading, kept.sound.frees⟩ kept.creator rfl unanswered
        (.shutting ⟨kept.established.request, kept.established.tcp, kept.established.timer,
          kept.established.connecting⟩ rfl (kept.writing.trans quiet.writing) other)
    · rw [concluded_error failure, if_neg failure, commit_answer,
        answer_of_open pending.opened.found unanswered]
      have shut : connection.Kept { after with writeClosed := true, shutting := none } :=
        ⟨kept.before, ⟨kept.established.request, kept.established.tcp, kept.established.timer,
          kept.established.connecting⟩, ⟨kept.sound.tcp, kept.sound.timer, kept.sound.handles,
          kept.sound.armed, kept.sound.reading, kept.sound.frees⟩, kept.creator, kept.writing,
          quiet.shutting.symm⟩
      exact pending.observe base other found quiet shut (base.update (by exact afterLive)) rfl rfl
  · have get : (Frame.commit ⟨key, after, runtime⟩).requests[request]? = some record :=
      pending.opened.found
    rw [concluded_wait, complete_of_open get unanswered]
    exact pending.observe base other found quiet kept
      (base.update (by exact afterLive)) rfl rfl

theorem Pending.startShutdown (pending : runtime.Pending request record) (base : runtime.Base)
    (other : record.connects = false) (id : Int) (read write : Bool) (env : Env) :
    (concluded request true (runtime.startShutdown request id read write env)).Wf := by
  unfold Runtime.startShutdown
  split
  · exact pending.refuse base other (by decide) _
  · rename_i frame found
    obtain ⟨key, connection, rfl, focus, established, quiet, sound, live⟩ :=
      pending.found base found
    have unchanged : connection.Kept connection := .of_outline sound established rfl
    have proceed := pending.shutdownWrite base other focus.found unchanged quiet write env
    cases read with
    | false => exact proceed
    | true =>
        simp only [if_true, Runtime.shutdownRead]
        by_cases closed : connection.readClosed = true
        · rw [if_pos closed]
          exact proceed
        · rw [if_neg closed]
          by_cases failure : env.shutdownRead = 0
          · have shut : connection.Kept ({ connection with
                reading := false, readStatus := uvEof, readClosed := true }.note .shutRead) :=
              .of_outline sound established rfl
            rw [if_neg (not_not_intro failure)]
            exact pending.shutdownWrite base other focus.found shut quiet write env
          · rw [if_pos failure]
            simp only [ne_eq, failure, not_false_eq_true, if_true]
            exact pending.refuse base other failure _

/-! ### Connecting -/

/-- A linked connection that has not been dialed yet. -/
structure Launching (request : Nat) (connection : Connection) : Prop where
  sound : connection.Sound
  held : connection.request = some request
  creator : connection.creator = request
  tcp : connection.tcp = .open
  timer : connection.timer = .unused ∨ connection.timer = .open
  connecting : connection.connecting = false
  timedOut : connection.timedOut = false
  reading : connection.reading = false
  writing : connection.writing = none
  shutting : connection.shutting = none
  fresh : connection.Fresh

theorem Launching.live {launching : Connection} (ready : Launching request launching) :
    launching.frees = 0 := ready.sound.live_of_open ready.tcp

theorem Focus.launch_fail (focus : runtime.Focus key request connection record)
    (base : runtime.Base) (start : Launching request connection) (ready : Launching request after)
    (connects : record.connects = true) {result : Int} (decided : record.verdict = some result)
    (failure : result ≠ 0) : (Frame.fail ⟨key, after, runtime⟩ result).commit.Wf := by
  have failed := focus.fail base start.live ready.sound (ready.live.trans start.live.symm)
    (ready.creator.trans start.creator.symm) start.creator ready.held ready.tcp
    (by simp [ready.connecting]) ready.writing ready.shutting rfl focus.opened.unanswered connects
    decided failure
  rwa [focus.opened.set_self] at failed

theorem Focus.tcpConnect (focus : runtime.Focus key request connection record)
    (base : runtime.Base) (start : Launching request connection) (ready : Launching request after)
    (connects : record.connects = true) (env : Env)
    (decided : record.verdict = firstFailure [env.tcpConnect]) :
    (Frame.tcpConnect ⟨key, after, runtime⟩ env).commit.Wf := by
  unfold Frame.tcpConnect
  split
  · rename_i failure
    exact focus.launch_fail base start ready connects
      (decided.trans (by simpa [firstFailure] using failure)) failure
  · rename_i success
    have undecided : record.verdict = none := by
      rw [decided]
      simpa [firstFailure] using success
    have dialing : Connection.Dialing request { after with connecting := true } :=
      ⟨ready.held, ready.creator, ready.tcp, ready.timer, rfl, ready.timedOut, ready.reading,
        ready.writing, ready.shutting,
        ⟨ready.fresh.received, ready.fresh.readStatus, ready.fresh.paused, ready.fresh.log⟩⟩
    exact focus.proceed base start.live (focus.update base (by exact ready.live))
      ⟨ready.sound.tcp, ready.sound.timer, ready.sound.handles, ready.sound.armed,
        ready.sound.reading, ready.sound.frees⟩
      (ready.creator.trans start.creator.symm) rfl focus.opened.unanswered
      (.dialing dialing connects undecided)

theorem Focus.launch (focus : runtime.Focus key request connection record)
    (base : runtime.Base) (start : Launching request connection) (handles : connection.handles = 1)
    (connects : record.connects = true) (timeout : Int) (env : Env)
    (decided : record.verdict = firstFailure
      [if timeout = 0 then uvEtimedout else 0, if timeout > 0 then env.timerInit else 0,
        if timeout > 0 then env.timerStart else 0, env.tcpConnect]) :
    (Frame.launch ⟨key, connection, runtime⟩ timeout env).commit.Wf := by
  have fails : ∀ {launching result}, Launching request launching →
      record.verdict = some result → result ≠ 0 →
        (Frame.fail ⟨key, launching, runtime⟩ result).commit.Wf := fun ready decided failure =>
    focus.launch_fail base start ready connects decided failure
  unfold Frame.launch
  split
  · rename_i zero
    exact fails start (by rw [decided]; simp [firstFailure, zero, uvEtimedout]) (by decide)
  · rename_i nonzero
    split
    · rename_i nonneg
      have positive : timeout > 0 := by omega
      simp only [nonzero, positive, if_true, if_false] at decided
      unfold Frame.startTimer
      by_cases init : env.timerInit = 0
      · rw [if_neg (not_not_intro init)]
        have timed : Launching request { connection with
            timerInitialized := true, handles := connection.handles + 1, timer := .open,
            timerActive := env.timerStart = 0 } := {
          sound := ⟨start.sound.tcp, by simp, by simp [handles, Connection.openHandles, start.tcp],
            by simp, start.sound.reading, by simp [Connection.openHandles, start.tcp, start.live]⟩
          held := start.held
          creator := start.creator
          tcp := start.tcp
          timer := .inr rfl
          connecting := start.connecting
          timedOut := start.timedOut
          reading := start.reading
          writing := start.writing
          shutting := start.shutting
          fresh := ⟨start.fresh.received, start.fresh.readStatus, start.fresh.paused,
            start.fresh.log⟩ }
        by_cases begun : env.timerStart = 0
        · simp only [ne_eq, begun, not_true_eq_false, if_false] at timed ⊢
          exact focus.tcpConnect base start timed connects env
            (by rw [decided]; simp [firstFailure, init, begun])
        · simp only [ne_eq, begun, not_false_eq_true, if_true] at timed ⊢
          exact fails timed (by rw [decided]; simp [firstFailure, init, begun]) begun
      · rw [if_pos init]
        simp only [ne_eq, init, not_false_eq_true, if_true]
        exact fails start (by rw [decided]; simp [firstFailure, init]) init
    · rename_i negative
      have notPositive : ¬ timeout > 0 := by omega
      simp only [nonzero, notPositive, if_false] at decided
      exact focus.tcpConnect base start start connects env (by rw [decided]; simp [firstFailure])

/-- A connection is made and linked for the request. -/
theorem Pending.link (pending : runtime.Pending request record) (base : runtime.Base)
    (connects : record.connects = true) (fresh : Launching request connection) :
    let linked := { runtime with
      connections := runtime.connections ++ [connection]
      linked := runtime.connections.length :: runtime.linked }
    linked.Base ∧ linked.Focus runtime.connections.length request connection record := by
  intro linked
  have own : linked.connections[runtime.connections.length]? = some connection := by simp [linked]
  have older : ∀ (key : Nat) value, key ≠ runtime.connections.length →
      linked.connections[key]? = some value → runtime.connections[key]? = some value := by
    intro key value distinct get
    have bound := (List.getElem?_eq_some_iff.mp get).1
    simp only [linked, List.length_append, List.length_singleton] at bound
    rwa [List.getElem?_append_left (by omega)] at get
  have isNew : runtime.connections.length ∉ runtime.linked := by
    intro member
    obtain ⟨value, get, -⟩ := (base.linked _).mp member
    simp at get
  refine ⟨⟨base.faults, List.nodup_cons.mpr ⟨isNew, base.nodup⟩, ?_, ?_, ?_⟩,
    ⟨pending.opened.found, pending.opened.last, pending.opened.unanswered, pending.opened.earlier⟩,
    own, fun other value distinct get => pending.quiet other value (older other value distinct get),
    fun other value distinct get => pending.foreign other value (older other value distinct get)⟩
  · intro key
    by_cases same : key = runtime.connections.length
    · subst same
      simp [linked, fresh.live]
    · have before : linked.connections[key]? = runtime.connections[key]? := by
        rcases Nat.lt_or_ge key runtime.connections.length with bound | bound
        · exact List.getElem?_append_left bound
        · have beyond : (runtime.connections ++ [connection]).length ≤ key := by
            simp only [List.length_append, List.length_singleton]
            omega
          rw [List.getElem?_eq_none bound]
          exact List.getElem?_eq_none beyond
      rw [before, ← base.linked key]
      simp [linked, same]
  · intro key value get
    by_cases same : key = runtime.connections.length
    · subst same
      cases own.symm.trans get
      exact fresh.sound
    · exact base.sound key value (older key value same get)
  · intro key value get live
    by_cases same : key = runtime.connections.length
    · subst same
      cases own.symm.trans get
      exact ⟨record, by rw [fresh.creator]; exact pending.opened.found, connects,
        .inl pending.opened.unanswered⟩
    · exact base.made key value (older key value same get) live

theorem Pending.startConnect (pending : runtime.Pending request record) (base : runtime.Base)
    (connects : record.connects = true) (timeout : Int) (env : Env)
    (decided : record.verdict = firstFailure
      [if runtime.nextId = int64Max then uvEnospc else 0, if env.memory then 0 else uvEnomem,
        env.tcpInit, if timeout = 0 then uvEtimedout else 0,
        if timeout > 0 then env.timerInit else 0, if timeout > 0 then env.timerStart else 0,
        env.tcpConnect]) :
    (concluded request true (runtime.startConnect request timeout env)).Wf := by
  have refused : ∀ result, result ≠ 0 → record.verdict = some result →
      (concluded request true (runtime, result)).Wf := by
    intro result failure verdict
    rw [concluded_error failure]
    exact pending.answer base fun _ => verdict
  unfold Runtime.startConnect
  by_cases exhausted : runtime.nextId = int64Max
  · rw [if_pos exhausted]
    exact refused uvEnospc (by decide) (by rw [decided]; simp [firstFailure, exhausted, uvEnospc])
  · rw [if_neg exhausted]
    simp only [exhausted, if_false] at decided
    by_cases memory : env.memory = true
    · simp only [memory, Bool.not_true, Bool.false_eq_true, if_false, if_true] at decided ⊢
      by_cases init : env.tcpInit = 0
      · rw [if_neg (not_not_intro init), concluded_wait]
        have fresh : Launching request
            { id := runtime.nextId + 1, request := some request, creator := request } :=
          ⟨⟨by simp, by simp, rfl, by simp, by simp, rfl⟩, rfl, rfl, rfl, .inl rfl, rfl, rfl, rfl,
            rfl, rfl, ⟨rfl, rfl, rfl, rfl⟩⟩
        obtain ⟨linkedBase, focus⟩ := pending.link base connects fresh
        exact focus.launch linkedBase fresh rfl connects timeout env
          (by rw [decided]; simp [firstFailure, init])
      · rw [if_pos init]
        exact refused env.tcpInit init (by rw [decided]; simp [firstFailure, init])
    · have absent : env.memory = false := by simpa using memory
      simp only [absent, Bool.not_false, if_true]
      exact refused uvEnomem (by decide)
        (by rw [decided]; simp [firstFailure, absent, Socket.uvEnomem])

/-! ## Every step -/

theorem answered_of_idle (idle : runtime.idle = true)
    (found : runtime.requests[request]? = some record) : record.answers ≠ [] := by
  have all := List.all_eq_true.mp idle record (List.mem_of_getElem? found)
  simpa using all

theorem Wf.idle (wf : runtime.Wf) (idle : runtime.idle = true) : runtime.Idle := by
  rcases wf.phase with settled | ⟨key, request, connection, record, busy⟩
  · exact settled
  · exact absurd busy.opened.unanswered (answered_of_idle idle busy.opened.found)

theorem call_rejected {call : Call} {env : Env} (rejected : call.rejection env ≠ 0) :
    runtime.call call env =
      (runtime.newRequest call env).answer runtime.requests.length (call.rejection env) :=
  if_pos rejected

theorem call_unsubmitted {call : Call} {env : Env} (accepted : call.rejection env = 0)
    (failure : env.submit ≠ 0) :
    runtime.call call env =
      (runtime.newRequest call env).answer runtime.requests.length env.submit := by
  unfold Runtime.call
  dsimp only
  rw [if_neg (not_not_intro accepted), if_pos failure]

theorem call_accepted {call : Call} {env : Env} (accepted : call.rejection env = 0)
    (submitted : env.submit = 0) :
    runtime.call call env = concluded runtime.requests.length call.awaits
      ((runtime.newRequest call env).execute runtime.requests.length env call) := by
  unfold Runtime.call concluded
  dsimp only
  rw [if_neg (not_not_intro accepted), if_neg (not_not_intro submitted)]

theorem Wf.call (wf : runtime.Wf) (idle : runtime.idle = true) (call : Call) (env : Env) :
    (runtime.call call env).Wf := by
  let record : Request := { call := call, events := call.events env runtime }
  obtain ⟨base, pending⟩ := (wf.idle idle).pending wf.toBase (show record.answers = [] from rfl)
  have verdict : ∀ port timeout, call = .connect port timeout →
      record.verdict = firstFailure (Call.trials port timeout env (runtime.nextId = int64Max)) := by
    intro port timeout same
    subst same
    simp [Request.verdict, record, Call.events, Event.outcome]
  by_cases accepted : call.rejection env = 0
  · by_cases submitted : env.submit = 0
    · rw [call_accepted accepted submitted]
      cases call with
      | connect port timeout =>
          refine pending.startConnect base rfl timeout env ?_
          obtain ⟨valid, parsed⟩ := Call.rejection_connect accepted
          rw [verdict port timeout rfl]
          simp only [Call.trials, valid, parsed, submitted, if_false, firstFailure_zero,
            decide_eq_true_eq]
      | close id => exact pending.startClose base rfl id
      | send id size => exact pending.startSend base rfl id size env
      | recv id capacity => exact pending.receiveData base rfl id capacity env
      | shutdown id read write => exact pending.startShutdown base rfl id read write env
      | ready id => exact pending.checkReady base rfl id
    · rw [call_unsubmitted accepted submitted]
      refine pending.answer base fun connects => ?_
      obtain ⟨port, timeout, rfl : call = .connect port timeout⟩ :=
        Request.connect_of_connects connects
      obtain ⟨valid, parsed⟩ := Call.rejection_connect accepted
      rw [verdict port timeout rfl]
      simp [Call.trials, valid, parsed, firstFailure_error submitted]
  · rw [call_rejected accepted]
    refine pending.answer base fun connects => ?_
    obtain ⟨port, timeout, rfl : call = .connect port timeout⟩ :=
      Request.connect_of_connects connects
    rw [verdict port timeout rfl, Call.trials]
    by_cases valid : port < 0 ∨ port > 65535
    · simp only [Call.rejection, if_pos valid]
      exact firstFailure_error (by decide) _
    · simp only [Call.rejection, if_neg valid] at accepted ⊢
      rw [firstFailure_zero, firstFailure_error accepted]

end Runtime

theorem Runtime.idle_of_accepts {runtime : Runtime} {env : Env}
    (accepts : runtime.accepts env = true) : runtime.idle = true := by
  rw [Runtime.accepts, Bool.and_eq_true] at accepts
  exact accepts.1

theorem Runtime.Wf.step {runtime next : Runtime} (wf : runtime.Wf) {label : Label}
    (run : step runtime label = some next) : next.Wf := by
  cases label with
  | call call env =>
      obtain ⟨accepts, ⟨⟩⟩ := Option.ite_none_right_eq_some.mp run
      exact wf.call (Runtime.idle_of_accepts accepts) call env
  | callback key callback => exact wf.callback run

/-! ## Answers are final -/

section Grows

variable {frame : Frame} {runtime : Runtime}

theorem Frame.grows_commit : frame.runtime.Grows frame.commit := .of_requests rfl

theorem Frame.grows_tcpConnect (env : Env) :
    frame.runtime.Grows (frame.tcpConnect env).runtime := by
  unfold Frame.tcpConnect
  split
  · exact (Frame.untouched_fail _).toGrows
  · exact .of_requests rfl

theorem Frame.grows_launch (timeout : Int) (env : Env) :
    frame.runtime.Grows (frame.launch timeout env).runtime := by
  have timer : (frame.startTimer env).1.runtime = frame.runtime := by
    unfold Frame.startTimer
    split <;> rfl
  unfold Frame.launch
  dsimp only
  split
  · exact (Frame.untouched_fail _).toGrows
  · split
    · rw [← timer]
      split
      · exact (Frame.untouched_fail _).toGrows
      · exact Frame.grows_tcpConnect env
    · exact Frame.grows_tcpConnect env

namespace Runtime

variable {request : Nat} {env : Env}

theorem grows_complete (result : Int) : runtime.Grows (runtime.complete request result) :=
  (untouched_complete request result).toGrows

theorem grows_startConnect (timeout : Int) :
    runtime.Grows (runtime.startConnect request timeout env).1 := by
  unfold startConnect
  split
  · exact .of_requests rfl
  · split
    · exact .of_requests rfl
    · split
      · exact .of_requests rfl
      · dsimp only
        refine Grows.trans ?_ ((Frame.grows_launch timeout env).trans Frame.grows_commit)
        exact .of_requests rfl

theorem grows_startClose (id : Int) : runtime.Grows (runtime.startClose request id).1 := by
  unfold startClose
  split
  · split
    · exact grows_complete 0
    · exact .of_requests rfl
  · rename_i frame found
    obtain ⟨key, connection, rfl, -⟩ := findConnection_spec found
    exact .of_requests rfl

theorem grows_startSend (id : Int) (size : Nat) :
    runtime.Grows (runtime.startSend request id size env).1 := by
  unfold startSend
  split
  · exact .of_requests rfl
  · rename_i frame found
    obtain ⟨key, connection, rfl, -⟩ := findConnection_spec found
    split
    · exact .of_requests rfl
    · split
      · exact grows_complete 0
      · split <;> exact .of_requests rfl

theorem grows_receiveData (id : Int) (capacity : Nat) :
    runtime.Grows (runtime.receiveData request id capacity env).1 := by
  unfold receiveData
  split
  · exact .of_requests rfl
  · refine Grows.trans (Untouched.toGrows ?_) Frame.grows_commit
    exact untouched_amend request fun _ => List.prefix_refl _

theorem grows_checkReady (id : Int) : runtime.Grows (runtime.checkReady request id).1 := by
  unfold checkReady
  split
  · exact .of_requests rfl
  · refine Grows.trans (Untouched.toGrows ?_) Frame.grows_commit
    exact untouched_amend request fun _ => List.prefix_refl _

theorem grows_startShutdown (id : Int) (read write : Bool) :
    runtime.Grows (runtime.startShutdown request id read write env).1 := by
  unfold startShutdown
  split
  · exact .of_requests rfl
  · rename_i frame found
    obtain ⟨key, connection, rfl, -⟩ := findConnection_spec found
    have half : ∀ frame : Frame, frame.runtime = runtime →
        runtime.Grows (shutdownWrite frame request write env).1 := by
      intro frame same
      subst same
      unfold shutdownWrite
      split
      · exact .of_requests rfl
      · exact Frame.grows_commit.trans (grows_complete 0)
    have kept : ∀ frame : Frame, (shutdownRead frame env).1.runtime = frame.runtime := by
      intro frame
      unfold shutdownRead
      split
      · rfl
      · split <;> rfl
    cases read with
    | false => exact half _ rfl
    | true =>
        simp only [if_true]
        split
        · exact .of_requests rfl
        · exact half _ (kept _)

theorem grows_execute (call : Call) : runtime.Grows (runtime.execute request env call).1 := by
  cases call with
  | connect port timeout => exact grows_startConnect timeout
  | close id => exact grows_startClose id
  | send id size => exact grows_startSend id size
  | recv id capacity => exact grows_receiveData id capacity
  | shutdown id read write => exact grows_startShutdown id read write
  | ready id => exact grows_checkReady id

/-- A call adds one request. -/
theorem call_requests_length (call : Call) :
    (runtime.call call env).requests.length = runtime.requests.length + 1 := by
  have answered : ∀ (runtime : Runtime) request result,
      (runtime.answer request result).requests.length = runtime.requests.length :=
    fun _ request result => (untouched_answer request result).length
  by_cases accepted : call.rejection env = 0
  · by_cases submitted : env.submit = 0
    · rw [call_accepted accepted submitted, concluded]
      split
      · exact (grows_execute call).length.trans List.length_append
      · rw [answered]
        exact (grows_execute call).length.trans List.length_append
    · rw [call_unsubmitted accepted submitted, answered]
      exact List.length_append
  · rw [call_rejected accepted, answered]
    exact List.length_append

end Runtime

/-- An answered request stays answered. -/
theorem Runtime.Wf.step_answered {next : Runtime} (wf : runtime.Wf) {label : Label}
    (run : Client.step runtime label = some next) {request : Nat} {record : Request}
    (found : runtime.requests[request]? = some record) (answered : record.answers ≠ []) :
    ∃ later, next.requests[request]? = some later ∧ later.answers ≠ [] := by
  have nextWf := wf.step run
  cases label with
  | call call env =>
      obtain ⟨-, ⟨⟩⟩ := Option.ite_none_right_eq_some.mp run
      have length := @Runtime.call_requests_length runtime env call
      have bound := (List.getElem?_eq_some_iff.mp found).1
      have inside : request < (runtime.call call env).requests.length := by omega
      have get := List.getElem?_eq_getElem inside
      refine ⟨_, get, ?_⟩
      -- only the new request can be open
      have settled : Request.Settled (runtime.call call env).requests[request] := by
        rcases nextWf.phase with quiet | ⟨key, opened, connection, current, busy⟩
        · exact quiet.settled request _ get
        · have last := busy.opened.last
          exact busy.opened.earlier request _ (by omega) get
      obtain ⟨result, answers, -⟩ := settled
      simp [answers]
  | callback key callback =>
      obtain ⟨connection, -, -, -, rfl⟩ := wf.of_callback run
      have untouched := (@Callback.untouched_run ⟨key, connection, runtime⟩ callback).2
      obtain ⟨later, get, grown⟩ := untouched.answers request record found
      refine ⟨later, get, fun empty => answered ?_⟩
      rw [empty] at grown
      exact List.prefix_nil.mp grown

end Grows

theorem wf_init : ({} : Runtime).Wf :=
  ⟨⟨rfl, List.nodup_nil, by simp, by simp, by simp⟩, .inl ⟨by simp, by simp⟩⟩

theorem wf_of_reachable {runtime : Runtime} (reached : clientSystem.Reachable runtime) :
    runtime.Wf :=
  reached.invariant Runtime.Wf wf_init fun _ _ _ wf run => Runtime.Wf.step wf run

end Skyuv.Client
