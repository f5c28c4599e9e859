import Skyuv.Client.Runtime

/-!
# Who holds the request of a client call

Calls are serial, so at most one request is unanswered, and it is the last.  From
the command on until the answer exactly one connection holds it: the one that is
dialing for it, ending for it, or writing or shutting down for it.  Every other
connection is quiet, that is established with nothing under way, or freed.  This
is `Wf`; every reachable state of the runtime has it.
-/

set_option autoImplicit false

namespace Skyuv.Client

open TransitionSystem
open Socket (uvEof uvEinval uvEnomem uvEcanceled)

/-! ## What a connect request should be told -/

/-- The first of a list of C results that is an error. -/
def firstFailure (results : List Int) : Option Int := results.find? fun result => result ≠ 0

@[simp]
theorem firstFailure_zero (results : List Int) :
    firstFailure (0 :: results) = firstFailure results := by
  simp [firstFailure]

theorem firstFailure_error {result : Int} (failure : result ≠ 0) (results : List Int) :
    firstFailure (result :: results) = some result := by
  simp [firstFailure, failure]

/-- The results that a connect call can meet before it waits for a callback, in
the order in which they come up. -/
def Call.trials (port timeout : Int) (env : Env) (exhausted : Bool) : List Int :=
  [if port < 0 ∨ port > 65535 then uvEinval else 0, env.address, env.submit,
    if exhausted then uvEnospc else 0, if env.memory then 0 else uvEnomem, env.tcpInit,
    if timeout = 0 then uvEtimedout else 0, if timeout > 0 then env.timerInit else 0,
    if timeout > 0 then env.timerStart else 0, env.tcpConnect]

theorem Call.rejection_connect {port timeout : Int} {env : Env}
    (accepted : (Call.connect port timeout).rejection env = 0) :
    ¬ (port < 0 ∨ port > 65535) ∧ env.address = 0 := by
  rw [Call.rejection] at accepted
  split at accepted
  · simp [Socket.uvEinval] at accepted
  · exact ⟨‹_›, accepted⟩

/-- What an event means for the connect request, if it decides it. -/
def Event.outcome (port timeout : Int) : Event → Option Int
  | .submitted env exhausted => firstFailure (Call.trials port timeout env exhausted)
  | .expired => some uvEtimedout
  | .connected status readStart => some ((firstFailure [status, readStart]).getD 0)

namespace Request

def connects (record : Request) : Bool :=
  match record.call with
  | .connect _ _ => true
  | _ => false

/-- The outcome of the first event that decides a connect request. -/
def verdict (record : Request) : Option Int :=
  match record.call with
  | .connect port timeout => record.events.findSome? (Event.outcome port timeout)
  | _ => none

/-- Answered once, and a connect request with its verdict. -/
def Settled (record : Request) : Prop :=
  ∃ result, record.answers = [result] ∧ (record.connects = true → record.verdict = some result)

end Request

/-! ## The connections -/

namespace Connection

variable {connection : Connection}

/-- The initialised handles whose close callback has not run. -/
def openHandles (connection : Connection) : Int :=
  (if connection.tcp = .closed then 0 else 1) +
    if connection.timer = .open ∨ connection.timer = .closing then 1 else 0

/-- The fields of the C struct agree with the handles. -/
structure Sound (connection : Connection) : Prop where
  tcp : connection.tcp ≠ .unused
  timer : connection.timerInitialized = true ↔ connection.timer ≠ .unused
  handles : connection.handles = connection.openHandles
  armed : connection.timerActive = true → connection.timer = .open
  reading : connection.reading = true → connection.tcp = .open
  frees : connection.frees = if connection.openHandles = 0 then 1 else 0

/-- Nothing has been received yet. -/
structure Fresh (connection : Connection) : Prop where
  received : connection.received = []
  readStatus : connection.readStatus = 0
  paused : connection.paused = false
  log : connection.log = []

structure Dialing (request : Nat) (connection : Connection) : Prop where
  held : connection.request = some request
  creator : connection.creator = request
  tcp : connection.tcp = .open
  timer : connection.timer = .unused ∨ connection.timer = .open
  connecting : connection.connecting = true
  timedOut : connection.timedOut = false
  reading : connection.reading = false
  writing : connection.writing = none
  shutting : connection.shutting = none
  fresh : connection.Fresh

/-- Both handles are on their way out and the last of them answers the request. -/
structure Ending (request : Nat) (connection : Connection) : Prop where
  held : connection.request = some request
  tcp : connection.tcp.isClosing = true
  timer : connection.timer ≠ .open
  cancelled : connection.connecting = true → connection.timedOut = true ∧ connection.tcp = .closing
  writing : connection.writing = none
  shutting : connection.shutting = none
  live : connection.frees = 0

structure Established (connection : Connection) : Prop where
  request : connection.request = none
  tcp : connection.tcp = .open
  timer : connection.timer ≠ .open
  connecting : connection.connecting = false

structure Gone (connection : Connection) : Prop where
  frees : connection.frees = 1
  connecting : connection.connecting = false

/-- No request depends on the connection. -/
structure Quiet (connection : Connection) : Prop where
  stage : connection.Established ∨ connection.Gone
  writing : connection.writing = none
  shutting : connection.shutting = none

/-- How a connection comes to answer the request. -/
inductive Holds (request : Nat) (record : Request) (connection : Connection) : Prop where
  | dialing (dialing : connection.Dialing request) (connects : record.connects = true)
      (undecided : record.verdict = none)
  | failing (ending : connection.Ending request) (creator : connection.creator = request)
      (connects : record.connects = true) (decided : record.verdict = some record.result)
      (failure : record.result ≠ 0)
  | closing (ending : connection.Ending request) (connecting : connection.connecting = false)
      (other : record.connects = false)
  | writing (established : connection.Established) (writing : connection.writing = some request)
      (shutting : connection.shutting = none) (other : record.connects = false)
  | shutting (established : connection.Established) (shutting : connection.shutting = some request)
      (writing : connection.writing = none) (other : record.connects = false)

end Connection

/-! ## The runtime -/

namespace Runtime

variable {runtime : Runtime}

/-- A live connection was made by a connect request that has not failed. -/
def Made (runtime : Runtime) (connection : Connection) : Prop :=
  ∃ record, runtime.requests[connection.creator]? = some record ∧ record.connects = true ∧
    (record.answers = [] ∨ record.answers = [0])

structure Base (runtime : Runtime) : Prop where
  faults : runtime.faults = []
  nodup : runtime.linked.Nodup
  linked : ∀ key, key ∈ runtime.linked ↔
    ∃ connection, runtime.connections[key]? = some connection ∧ connection.frees = 0
  sound : ∀ (key : Nat) connection, runtime.connections[key]? = some connection →
    connection.Sound
  made : ∀ (key : Nat) connection, runtime.connections[key]? = some connection →
    connection.frees = 0 → runtime.Made connection

/-- The request is the only unanswered one. -/
structure Open (runtime : Runtime) (request : Nat) (record : Request) : Prop where
  found : runtime.requests[request]? = some record
  last : runtime.requests.length = request + 1
  unanswered : record.answers = []
  earlier : ∀ (other : Nat) found, other ≠ request → runtime.requests[other]? = some found →
    found.Settled

structure Idle (runtime : Runtime) : Prop where
  settled : ∀ (request : Nat) record, runtime.requests[request]? = some record → record.Settled
  quiet : ∀ (key : Nat) connection, runtime.connections[key]? = some connection →
    connection.Quiet

/-- One request is open, and every connection but the one at `key` is quiet. -/
structure Focus (runtime : Runtime) (key request : Nat) (connection : Connection)
    (record : Request) : Prop where
  opened : runtime.Open request record
  found : runtime.connections[key]? = some connection
  others : ∀ (other : Nat) found, other ≠ key → runtime.connections[other]? = some found →
    found.Quiet
  foreign : ∀ (other : Nat) found, other ≠ key → runtime.connections[other]? = some found →
    found.frees = 0 → found.creator ≠ request

structure Busy (runtime : Runtime) (key request : Nat) (connection : Connection)
    (record : Request) : Prop extends runtime.Focus key request connection record where
  holds : connection.Holds request record

structure Wf (runtime : Runtime) : Prop extends runtime.Base where
  phase : runtime.Idle ∨ ∃ key request connection record,
    runtime.Busy key request connection record

/-- What a callback or a command may change: one connection, one request, the
link of a freed connection, and the counters. -/
structure Update (runtime : Runtime) (key request : Nat) (connection : Connection)
    (record : Request) (next : Runtime) : Prop where
  connections : next.connections = runtime.connections.set key connection
  requests : next.requests = runtime.requests.set request record
  linked : next.linked =
    if connection.frees = 0 then runtime.linked else runtime.linked.erase key
  faults : next.faults = []

section Update

variable {key request : Nat} {connection after : Connection} {record amended : Request}

/-- A record update that leaves the open request as it is. -/
theorem Open.set_self (opened : runtime.Open request record) :
    runtime.requests.set request record = runtime.requests := by
  obtain ⟨bound, rfl⟩ := List.getElem?_eq_some_iff.mp opened.found
  exact List.set_getElem_self bound

theorem Base.update (base : runtime.Base) (live : after.frees = 0) :
    runtime.Update key request after amended (Frame.commit ⟨key, after, { runtime with
      requests := runtime.requests.set request amended }⟩) :=
  ⟨rfl, rfl, by rw [if_pos live]; rfl, base.faults⟩

theorem Focus.update (focus : runtime.Focus key request connection record) (base : runtime.Base)
    (live : after.frees = 0) :
    runtime.Update key request after record (Frame.commit ⟨key, after, runtime⟩) :=
  ⟨rfl, focus.opened.set_self.symm, by rw [if_pos live]; rfl, base.faults⟩

end Update

namespace Focus

variable {key request : Nat} {connection after : Connection} {record amended : Request}
  {next : Runtime}

theorem mem_linked (focus : runtime.Focus key request connection record) (base : runtime.Base)
    (live : connection.frees = 0) : key ∈ runtime.linked :=
  (base.linked key).mpr ⟨connection, focus.found, live⟩

theorem get_set (focus : runtime.Focus key request connection record)
    (update : runtime.Update key request after amended next) :
    next.connections[key]? = some after := by
  obtain ⟨bound, -⟩ := List.getElem?_eq_some_iff.mp focus.found
  simp [update.connections, bound]

theorem get_other (update : runtime.Update key request after amended next) {other : Nat}
    (distinct : other ≠ key) : next.connections[other]? = runtime.connections[other]? := by
  simp [update.connections, distinct.symm]

theorem request_set (focus : runtime.Focus key request connection record)
    (update : runtime.Update key request after amended next) :
    next.requests[request]? = some amended := by
  obtain ⟨bound, -⟩ := List.getElem?_eq_some_iff.mp focus.opened.found
  simp [update.requests, bound]

theorem request_other (update : runtime.Update key request after amended next) {other : Nat}
    (distinct : other ≠ request) : next.requests[other]? = runtime.requests[other]? := by
  simp [update.requests, distinct.symm]

theorem linked_set (focus : runtime.Focus key request connection record) (base : runtime.Base)
    (live : connection.frees = 0) (update : runtime.Update key request after amended next)
    (other : Nat) : other ∈ next.linked ↔
      ∃ found, next.connections[other]? = some found ∧ found.frees = 0 := by
  have present := focus.mem_linked base live
  by_cases same : other = key
  · subst same
    simp only [focus.get_set update, Option.some.injEq, exists_eq_left']
    rw [update.linked]
    split
    · simp_all
    · simp_all [base.nodup.mem_erase_iff]
  · rw [get_other update same, ← base.linked other, update.linked]
    split
    · rfl
    · rw [base.nodup.mem_erase_iff]
      exact ⟨fun member => member.2, fun member => ⟨same, member⟩⟩

/-- The shared part of the two rules below. -/
theorem base (focus : runtime.Focus key request connection record) (base : runtime.Base)
    (live : connection.frees = 0) (update : runtime.Update key request after amended next)
    (sound : after.Sound) (creator : after.creator = connection.creator)
    (call : amended.call = record.call)
    (kept : connection.creator = request → after.frees = 0 →
      amended.answers = [] ∨ amended.answers = [0]) : next.Base where
  faults := update.faults
  nodup := by
    rw [update.linked]
    split
    · exact base.nodup
    · exact base.nodup.erase key
  linked := focus.linked_set base live update
  sound := by
    intro other found get
    by_cases same : other = key
    · subst same
      rw [focus.get_set update] at get
      cases get
      exact sound
    · rw [get_other update same] at get
      exact base.sound other found get
  made := by
    intro other found get free
    -- only the record of the open request has changed, and a live connection elsewhere
    -- has an answered creator
    by_cases same : other = key
    · subst same
      rw [focus.get_set update] at get
      cases get
      obtain ⟨maker, get, connects, answers⟩ := base.made other connection focus.found live
      by_cases own : connection.creator = request
      · refine ⟨amended, ?_, ?_, kept own free⟩
        · rw [creator, own]
          exact focus.request_set update
        · rw [own, focus.opened.found] at get
          cases get
          simpa [Request.connects, call] using connects
      · exact ⟨maker, by rw [creator, request_other update own]; exact get, connects, answers⟩
    · rw [get_other update same] at get
      obtain ⟨maker, maker_get, connects, answers⟩ := base.made other found get free
      have distinct := focus.foreign other found same get free
      exact ⟨maker, by rw [request_other update distinct]; exact maker_get, connects, answers⟩

/-- The request stays open. -/
theorem busy (focus : runtime.Focus key request connection record)
    (update : runtime.Update key request after amended next) (unanswered : amended.answers = [])
    (holds : after.Holds request amended) : next.Busy key request after amended where
  opened := by
    refine ⟨focus.request_set update, ?_, unanswered, ?_⟩
    · rw [update.requests, List.length_set, focus.opened.last]
    · intro other found distinct get
      rw [request_other update distinct] at get
      exact focus.opened.earlier other found distinct get
  found := focus.get_set update
  others := by
    intro other found distinct get
    rw [get_other update distinct] at get
    exact focus.others other found distinct get
  foreign := by
    intro other found distinct get
    rw [get_other update distinct] at get
    exact focus.foreign other found distinct get
  holds := holds

/-- The request is answered. -/
theorem idle (focus : runtime.Focus key request connection record)
    (update : runtime.Update key request after amended next) (settled : amended.Settled)
    (quiet : after.Quiet) : next.Idle where
  settled := by
    intro other found get
    by_cases same : other = request
    · subst same
      rw [focus.request_set update] at get
      cases get
      exact settled
    · rw [request_other update same] at get
      exact focus.opened.earlier other found same get
  quiet := by
    intro other found get
    by_cases same : other = key
    · subst same
      rw [focus.get_set update] at get
      cases get
      exact quiet
    · rw [get_other update same] at get
      exact focus.others other found same get

theorem proceed (focus : runtime.Focus key request connection record) (base : runtime.Base)
    (live : connection.frees = 0) (update : runtime.Update key request after amended next)
    (sound : after.Sound) (creator : after.creator = connection.creator)
    (call : amended.call = record.call) (unanswered : amended.answers = [])
    (holds : after.Holds request amended) : next.Wf :=
  ⟨focus.base base live update sound creator call fun _ _ => .inl unanswered,
    .inr ⟨_, _, _, _, focus.busy update unanswered holds⟩⟩

theorem finish (focus : runtime.Focus key request connection record) (base : runtime.Base)
    (live : connection.frees = 0) (update : runtime.Update key request after amended next)
    (sound : after.Sound) (creator : after.creator = connection.creator)
    (call : amended.call = record.call)
    (kept : connection.creator = request → after.frees = 0 → amended.answers = [0])
    (settled : amended.Settled) (quiet : after.Quiet) : next.Wf :=
  ⟨focus.base base live update sound creator call fun own free => .inr (kept own free),
    .inl (focus.idle update settled quiet)⟩

end Focus

/-! ### Requests -/

section Requests

variable {request : Nat} {record : Request}

theorem touch_of_open (found : runtime.requests[request]? = some record)
    (unanswered : record.answers = []) : runtime.touch request = runtime := by
  simp [touch, found, unanswered]

theorem amend_of_found (found : runtime.requests[request]? = some record)
    (change : Request → Request) :
    runtime.amend request change =
      { runtime with requests := runtime.requests.set request (change record) } := by
  obtain ⟨bound, get⟩ := List.getElem?_eq_some_iff.mp found
  simp [amend, List.modify_eq_set_getElem?, found]

theorem setResult_of_open (found : runtime.requests[request]? = some record)
    (unanswered : record.answers = []) (result : Int) :
    runtime.setResult request result =
      { runtime with
        requests := runtime.requests.set request { record with result := result } } := by
  rw [setResult, touch_of_open found unanswered, amend_of_found found]

theorem answer_of_open (found : runtime.requests[request]? = some record)
    (unanswered : record.answers = []) (result : Int) :
    runtime.answer request result =
      { runtime with
        requests := runtime.requests.set request { record with answers := [result] } } := by
  rw [answer, amend_of_found found, unanswered, List.nil_append]

theorem complete_of_open (found : runtime.requests[request]? = some record)
    (unanswered : record.answers = []) (result : Int) :
    runtime.complete request result =
      { runtime with
        requests := runtime.requests.set request
          { record with result := result, answers := [result] } } := by
  obtain ⟨bound, -⟩ := List.getElem?_eq_some_iff.mp found
  rw [complete, setResult_of_open found unanswered, answer, amend,
    List.modify_eq_set_getElem?]
  simp [bound, unanswered]

theorem assignId_complete (found : runtime.requests[request]? = some record)
    (unanswered : record.answers = []) (id result : Int) :
    (runtime.assignId request id).complete request result =
      { runtime with
        nextId := id
        requests := runtime.requests.set request
          { record with id := id, result := result, answers := [result] } } := by
  obtain ⟨bound, -⟩ := List.getElem?_eq_some_iff.mp found
  have assigned : (runtime.assignId request id).requests[request]? =
      some { record with id := id } := by
    simp [assignId, amend, found]
  rw [complete_of_open assigned unanswered, assignId, amend_of_found found]
  simp

end Requests

end Runtime

/-! ### Connections -/

/-- The effect of `uv_close` on a handle. -/
def Handle.shut : Handle → Handle
  | .open => .closing
  | other => other

namespace Connection

variable {connection : Connection}

/-- Nothing to undo: the timer is not armed and the stream does not read. -/
theorem Sound.inactive (sound : connection.Sound) (timer : connection.timer ≠ .open) :
    connection.timerActive = false := by
  cases active : connection.timerActive with
  | false => rfl
  | true => exact absurd (sound.armed active) timer

theorem Sound.silent (sound : connection.Sound) (tcp : connection.tcp ≠ .open) :
    connection.reading = false := by
  cases reading : connection.reading with
  | false => rfl
  | true => exact absurd (sound.reading reading) tcp

theorem Sound.closeTimer_eq (sound : connection.Sound) :
    connection.closeTimer =
      { connection with timer := connection.timer.shut, timerActive := false } := by
  by_cases opened : connection.timer = .open
  · have initialized : connection.timerInitialized = true := sound.timer.mpr (by simp [opened])
    simp [closeTimer, initialized, opened, Handle.shut, Handle.isClosing]
  · have same : connection.timer.shut = connection.timer := by
      cases handle : connection.timer <;> simp_all [Handle.shut]
    have skipped : connection.closeTimer = connection := by
      have timer := sound.timer
      cases handle : connection.timer <;> simp_all [closeTimer, Handle.isClosing]
    rw [skipped, same, ← sound.inactive opened]

theorem Sound.closeTcp_eq (sound : connection.Sound) :
    connection.closeTcp = { connection with tcp := connection.tcp.shut, reading := false } := by
  by_cases opened : connection.tcp = .open
  · simp [closeTcp, opened, Handle.shut, Handle.isClosing]
  · have same : connection.tcp.shut = connection.tcp := by
      cases handle : connection.tcp <;> simp_all [Handle.shut]
    have skipped : connection.closeTcp = connection := by
      have tcp := sound.tcp
      cases handle : connection.tcp <;> simp_all [closeTcp, Handle.isClosing]
    rw [skipped, same, ← sound.silent opened]

/-- The connection after `close_connection`. -/
def shut (connection : Connection) : Connection :=
  { connection with
    tcp := connection.tcp.shut, timer := connection.timer.shut, reading := false,
    timerActive := false }

theorem Sound.closeTimer (sound : connection.Sound) : connection.closeTimer.Sound := by
  rw [sound.closeTimer_eq]
  have same : openHandles
      { connection with timer := connection.timer.shut, timerActive := false } =
        connection.openHandles := by
    unfold openHandles
    cases connection.timer <;> rfl
  refine ⟨sound.tcp, ?_, sound.handles.trans same.symm, by simp, sound.reading, ?_⟩
  · refine sound.timer.trans ?_
    cases connection.timer <;> simp [Handle.shut]
  · rw [same]
    exact sound.frees

theorem Sound.closeTcp (sound : connection.Sound) : connection.closeTcp.Sound := by
  rw [sound.closeTcp_eq]
  have same : openHandles { connection with tcp := connection.tcp.shut, reading := false } =
      connection.openHandles := by
    unfold openHandles
    cases connection.tcp <;> rfl
  refine ⟨?_, sound.timer, sound.handles.trans same.symm, sound.armed, by simp, ?_⟩
  · have tcp := sound.tcp
    cases handle : connection.tcp <;> simp_all [Handle.shut]
  · rw [same]
    exact sound.frees

theorem Sound.close_eq (sound : connection.Sound) : connection.close = connection.shut := by
  rw [close, sound.closeTcp.closeTimer_eq, sound.closeTcp_eq]
  rfl

theorem Sound.shut (sound : connection.Sound) : connection.shut.Sound := by
  rw [← sound.close_eq]
  exact sound.closeTcp.closeTimer

theorem Sound.live_of_open (sound : connection.Sound) (tcp : connection.tcp = .open) :
    connection.frees = 0 := by
  have positive : connection.openHandles ≠ 0 := by
    simp only [openHandles, tcp, reduceCtorEq, if_false]
    split <;> decide
  rw [sound.frees, if_neg positive]

end Connection

/-! ### Verdicts -/

namespace Request

variable {record amended : Request}

theorem connects_of_call (call : amended.call = record.call) :
    amended.connects = record.connects := by
  rw [connects, connects, call]

/-- The event that comes first decides. -/
theorem verdict_of_undecided (event : Event) {port timeout : Int}
    (call : record.call = .connect port timeout)
    (same : amended.call = record.call) (events : amended.events = record.events ++ [event])
    (undecided : record.verdict = none) : amended.verdict = event.outcome port timeout := by
  rw [verdict, call] at undecided
  rw [verdict, same, call, events]
  simp only at undecided ⊢
  rw [List.findSome?_append, undecided]
  simp

theorem verdict_of_decided (event : Event) {result : Int} (decided : record.verdict = some result)
    (same : amended.call = record.call) (events : amended.events = record.events ++ [event]) :
    amended.verdict = some result := by
  rw [verdict] at decided ⊢
  rw [same, events]
  split at decided
  · rw [List.findSome?_append, decided]
    rfl
  · cases decided

theorem connect_of_connects (connects : record.connects = true) :
    ∃ port timeout, record.call = .connect port timeout := by
  rw [Request.connects] at connects
  split at connects
  · exact ⟨_, _, ‹_›⟩
  · cases connects

theorem settled_of_other {result : Int} (other : record.connects = false)
    (call : amended.call = record.call) (answers : amended.answers = [result]) :
    amended.Settled := by
  refine ⟨result, answers, fun connects => ?_⟩
  rw [connects_of_call call, other] at connects
  cases connects

end Request

end Skyuv.Client
