import Skyuv.Client.Commands

/-!
# The client runtime as its callers see it

A registry keeps what ids and answers depend on: of each connection its id, who
waits for it and whether its write side is marked closed; of each call its
arguments and its answers.  `Registry.Step` says what one call or one callback may
do to it.  `Runtime.Wf.registry_step` shows that the runtime does nothing else, so
properties of ids and of shutdowns are proved on registries.
-/

set_option autoImplicit false

namespace Skyuv.Client

open TransitionSystem
open Socket (uvEof uvEinval uvEnomem uvEcanceled)

/-! ## Registries -/

/-- A connection without its handles and its receiving side. -/
structure Badge where
  id : Int
  creator : Nat
  request : Option Nat
  live : Bool := true
  writeClosed : Bool := false
  writing : Option Nat := none
  shutting : Option Nat := none
  deriving DecidableEq, Repr

/-- A call and what its caller was told.  `result` is what the close callback will
report; that of a connect is not kept, and an answered request has none. -/
structure Slip where
  call : Call
  id : Int := 0
  result : Int := 0
  answers : List Int := []
  deriving DecidableEq, Repr

structure Registry where
  badges : List Badge
  slips : List Slip
  nextId : Int
  deriving DecidableEq, Repr

def Call.connects : Call → Bool
  | connect _ _ => true
  | _ => false

def Connection.badge (connection : Connection) : Badge where
  id := connection.id
  creator := connection.creator
  request := connection.request
  live := connection.frees = 0
  writeClosed := connection.writeClosed
  writing := connection.writing
  shutting := connection.shutting

def Request.slip (record : Request) : Slip where
  call := record.call
  id := record.id
  result := if record.call.connects || !record.answers.isEmpty then 0 else record.result
  answers := record.answers

def Runtime.registry (runtime : Runtime) : Registry where
  badges := runtime.connections.map Connection.badge
  slips := runtime.requests.map Request.slip
  nextId := runtime.nextId

namespace Registry

variable (registry : Registry)

/-- A live connection with the id. -/
structure Finds (id : Int) (key : Nat) (badge : Badge) : Prop where
  found : registry.badges[key]? = some badge
  live : badge.live = true
  same : badge.id = id

def Absent (id : Int) : Prop := ∀ key badge, ¬ registry.Finds id key badge

/-- No call is under way. -/
structure Idle : Prop where
  answered : ∀ slip ∈ registry.slips, slip.answers ≠ []
  request : ∀ (key : Nat) badge, registry.badges[key]? = some badge → badge.live = true →
    badge.request = none
  shutting : ∀ (key : Nat) badge, registry.badges[key]? = some badge → badge.live = true →
    badge.shutting = none
  creator : ∀ (key : Nat) badge, registry.badges[key]? = some badge → badge.live = true →
    badge.creator < registry.slips.length

/-- The last call waits for the connection at `key`. -/
structure Awaits (key : Nat) (badge : Badge) (earlier : List Slip) (slip : Slip) : Prop where
  found : registry.badges[key]? = some badge
  live : badge.live = true
  slips : registry.slips = earlier ++ [slip]
  unanswered : slip.answers = []
  others : ∀ (other : Nat) badge, other ≠ key → registry.badges[other]? = some badge →
    badge.live = true → badge.request = none

/-- What a command may answer at once, if it leaves the connections as they are. -/
def Served (result : Int) : Call → Prop
  | .connect _ _ => result ≠ 0
  | .close id => registry.Absent id ∧
      result = if id > 0 ∧ id ≤ registry.nextId then 0 else uvEbadf
  | .send id _ | .recv id _ | .ready id => registry.Absent id → result = uvEbadf
  | .shutdown id _ write => (registry.Absent id → result = uvEbadf) ∧
      (write = true → result = 0 →
        ∃ key badge, registry.Finds id key badge ∧ badge.writeClosed = true)

/-- What a call that leaves the connections as they are may answer at once. -/
def Reply (env : Env) (result : Int) (call : Call) : Prop :=
  if call.rejection env ≠ 0 then result = call.rejection env
  else if env.submit ≠ 0 then result = env.submit
  else registry.Served result call

/-- What a call or a callback may do. -/
inductive Step : Label → Registry → Prop where
  | answered {call : Call} {env : Env} {result : Int} (idle : registry.Idle)
      (reply : registry.Reply env result call) :
      Step (.call call env)
        { registry with slips := registry.slips ++ [{ call := call, answers := [result] }] }
  | launched {port timeout : Int} {env : Env} (idle : registry.Idle) :
      Step (.call (.connect port timeout) env)
        { registry with
          badges := registry.badges ++
            [{ id := registry.nextId + 1, creator := registry.slips.length,
               request := some registry.slips.length }]
          slips := registry.slips ++ [{ call := .connect port timeout }] }
  | closing {id : Int} {env : Env} {key : Nat} {badge : Badge} (idle : registry.Idle)
      (found : registry.Finds id key badge) (submitted : env.submit = 0) :
      Step (.call (.close id) env)
        { registry with
          badges := registry.badges.set key { badge with request := some registry.slips.length }
          slips := registry.slips ++ [{ call := .close id }] }
  | writing {id : Int} {size : Nat} {env : Env} {key : Nat} {badge : Badge}
      (idle : registry.Idle) (found : registry.Finds id key badge) :
      Step (.call (.send id size) env)
        { registry with
          badges := registry.badges.set key { badge with writing := some registry.slips.length }
          slips := registry.slips ++ [{ call := .send id size }] }
  | shutting {id : Int} {read : Bool} {env : Env} {key : Nat} {badge : Badge}
      (idle : registry.Idle) (found : registry.Finds id key badge)
      (unclosed : badge.writeClosed = false) (issued : env.shutdown = 0) :
      Step (.call (.shutdown id read true) env)
        { registry with
          badges := registry.badges.set key
            { badge with writeClosed := true, shutting := some registry.slips.length }
          slips := registry.slips ++ [{ call := .shutdown id read true }] }
  | unshut {id : Int} {read : Bool} {env : Env} {key : Nat} {badge : Badge}
      (idle : registry.Idle) (found : registry.Finds id key badge)
      (unclosed : badge.writeClosed = false) (failure : env.shutdown ≠ 0) :
      Step (.call (.shutdown id read true) env)
        { registry with
          badges := registry.badges.set key { badge with writeClosed := true }
          slips := registry.slips ++
            [{ call := .shutdown id read true, answers := [env.shutdown] }] }
  | kept {key : Nat} {callback : Callback}
      (silent : ∀ status, callback ≠ .shutdownDone status) :
      Step (.callback key callback) registry
  | granted {key : Nat} {badge : Badge} {earlier : List Slip} {slip : Slip}
      (awaits : registry.Awaits key badge earlier slip)
      (held : badge.request = some earlier.length) (own : badge.creator = earlier.length)
      (connects : slip.call.connects = true) :
      Step (.callback key (.connected 0 0))
        { badges := registry.badges.set key { badge with request := none }
          slips := earlier ++ [{ slip with id := badge.id, answers := [0] }]
          nextId := badge.id }
  | failed {key : Nat} {callback : Callback} {badge : Badge} {earlier : List Slip} {slip : Slip}
      {result : Int} (silent : ∀ status, callback ≠ .shutdownDone status)
      (awaits : registry.Awaits key badge earlier slip)
      (connects : slip.call.connects = true) (failure : result ≠ 0) :
      Step (.callback key callback)
        { registry with
          badges := registry.badges.set key { badge with live := false }
          slips := earlier ++ [{ slip with answers := [result] }] }
  | closed {key : Nat} {callback : Callback} {badge : Badge} {earlier : List Slip} {slip : Slip}
      (silent : ∀ status, callback ≠ .shutdownDone status)
      (awaits : registry.Awaits key badge earlier slip)
      (held : badge.request = some earlier.length) (other : slip.call.connects = false) :
      Step (.callback key callback)
        { registry with
          badges := registry.badges.set key { badge with live := false }
          slips := earlier ++ [{ slip with result := 0, answers := [slip.result] }] }
  | written {key : Nat} {status : Int} {badge : Badge} {earlier : List Slip} {slip : Slip}
      (awaits : registry.Awaits key badge earlier slip)
      (held : badge.writing = some earlier.length) :
      Step (.callback key (.written status))
        { registry with
          badges := registry.badges.set key { badge with writing := none }
          slips := earlier ++ [{ slip with result := 0, answers := [status] }] }
  | shut {key : Nat} {status : Int} {badge : Badge} {earlier : List Slip} {slip : Slip}
      (awaits : registry.Awaits key badge earlier slip)
      (held : badge.shutting = some earlier.length) :
      Step (.callback key (.shutdownDone status))
        { registry with
          badges := registry.badges.set key { badge with shutting := none }
          slips := earlier ++ [{ slip with result := 0, answers := [status] }] }

end Registry

/-! ## What the runtime shows of itself -/

section Views

variable {connection : Connection} {record : Request} {runtime next : Runtime} {key request : Nat}

theorem Request.connects_eq : record.connects = record.call.connects := by
  cases record with
  | mk call id result bytes read writeEnabled answers events => cases call <;> rfl

theorem Request.slip_of_answered (answered : record.answers ≠ []) :
    record.slip = { call := record.call, id := record.id, answers := record.answers } := by
  simp [Request.slip, answered]

/-- The error of a connect request is not shown before its answer. -/
theorem Request.slip_of_connects {amended : Request} (connects : record.connects = true)
    (call : amended.call = record.call) (id : amended.id = record.id)
    (answers : amended.answers = record.answers) : amended.slip = record.slip := by
  rw [Request.connects_eq] at connects
  simp [Request.slip, call, id, answers, connects]

theorem Connection.badge_closeTimer : connection.closeTimer.badge = connection.badge := by
  unfold closeTimer
  split <;> rfl

theorem Connection.badge_close : connection.close.badge = connection.badge := by
  rw [close, badge_closeTimer]
  unfold closeTcp
  split <;> rfl

theorem Connection.badge_of_outline {after : Connection}
    (same : after.outline = connection.outline) : after.badge = connection.badge := by
  have badges := congrArg Connection.badge same
  exact badges

theorem Runtime.registry_found (found : runtime.connections[key]? = some connection) :
    runtime.registry.badges[key]? = some connection.badge := by
  simp [Runtime.registry, found]

/-- A badge belongs to a connection. -/
theorem Runtime.of_registry_found {badge : Badge}
    (found : runtime.registry.badges[key]? = some badge) :
    ∃ connection, runtime.connections[key]? = some connection ∧ connection.badge = badge := by
  simpa [Runtime.registry] using found

theorem Connection.live_badge : connection.badge.live = true ↔ connection.frees = 0 := by
  simp [badge]

/-- One connection and one request have changed. -/
theorem Runtime.registry_set {after : Connection} {amended : Request}
    (connections : next.connections = runtime.connections.set key after)
    (requests : next.requests = runtime.requests.set request amended) :
    next.registry =
      { badges := runtime.registry.badges.set key after.badge
        slips := runtime.registry.slips.set request amended.slip
        nextId := next.nextId } := by
  simp [Runtime.registry, connections, requests, List.map_set]

theorem Registry.set_badge {registry : Registry} {badge : Badge}
    (found : registry.badges[key]? = some badge) :
    registry.badges.set key badge = registry.badges := by
  obtain ⟨bound, rfl⟩ := List.getElem?_eq_some_iff.mp found
  exact List.set_getElem_self bound

end Views

namespace Runtime

variable {runtime next : Runtime} {key request : Nat} {connection after : Connection}
  {record amended : Request}

/-- The open request is the last slip. -/
theorem Open.slips (opened : runtime.Open request record) :
    ∃ earlier : List Slip, runtime.registry.slips = earlier ++ [record.slip] ∧
      earlier.length = request := by
  obtain ⟨bound, get⟩ := List.getElem?_eq_some_iff.mp opened.found
  have last := opened.last
  refine ⟨(runtime.requests.take request).map Request.slip, ?_, by simp; omega⟩
  have whole : runtime.requests = runtime.requests.take request ++ [record] := by
    rw [← get, List.take_append_getElem, List.take_of_length_le (by omega)]
  have shown := congrArg (List.map Request.slip) whole
  rwa [List.map_append] at shown

/-- What a step that touches the holder of the open request shows. -/
theorem Focus.registry (focus : runtime.Focus key request connection record)
    (live : connection.frees = 0)
    (connections : next.connections = runtime.connections.set key after)
    (requests : next.requests = runtime.requests.set request amended) :
    ∃ earlier, runtime.registry.Awaits key connection.badge earlier record.slip ∧
      earlier.length = request ∧
      next.registry =
        { badges := runtime.registry.badges.set key after.badge
          slips := earlier ++ [amended.slip]
          nextId := next.nextId } := by
  obtain ⟨earlier, slips, length⟩ := focus.opened.slips
  refine ⟨earlier, ⟨registry_found focus.found, Connection.live_badge.mpr live, slips,
    focus.opened.unanswered, ?_⟩, length, ?_⟩
  · intro other badge distinct found alive
    obtain ⟨value, get, rfl⟩ := of_registry_found found
    rcases (focus.others other value distinct get).stage with established | gone
    · exact established.request
    · rw [Connection.live_badge] at alive
      simp [gone.frees] at alive
  · rw [registry_set connections requests, slips, ← length]
    simp

/-- A step that shows nothing. -/
theorem registry_kept (found : runtime.connections[key]? = some connection)
    (connections : next.connections = runtime.connections.set key after)
    (badge : after.badge = connection.badge) (requests : next.requests = runtime.requests)
    (nextId : next.nextId = runtime.nextId) : next.registry = runtime.registry := by
  have badges : next.registry.badges = runtime.registry.badges.set key after.badge := by
    simp [Runtime.registry, connections, List.map_set]
  rw [badge, Registry.set_badge (registry_found found)] at badges
  simp only [Runtime.registry, Registry.mk.injEq] at badges ⊢
  exact ⟨badges, by rw [requests], nextId⟩

theorem Focus.registry_kept (focus : runtime.Focus key request connection record)
    (live : connection.frees = 0)
    (connections : next.connections = runtime.connections.set key after)
    (requests : next.requests = runtime.requests.set request amended)
    (badge : after.badge = connection.badge) (slip : amended.slip = record.slip)
    (nextId : next.nextId = runtime.nextId) : next.registry = runtime.registry := by
  obtain ⟨earlier, awaits, -, shown⟩ := focus.registry live connections requests
  rw [shown, badge, slip, nextId, Registry.set_badge awaits.found, ← awaits.slips]
  rfl

end Runtime

/-! ## Callbacks -/

namespace Runtime

variable {runtime : Runtime} {key request : Nat} {connection after : Connection}
  {record amended : Request}

theorem received_registry (found : runtime.connections[key]? = some connection)
    (delivery : Delivery) :
    (Callback.run ⟨key, connection, runtime⟩ (.received delivery)).commit.registry =
      runtime.registry := by
  refine registry_kept found (Callback.commit_connections (.received delivery)) ?_ ?_ ?_
  · exact Connection.badge_of_outline (Connection.outline_take delivery)
  · simp only [Callback.run, Frame.received, Frame.commit]
    split <;> rfl
  · simp only [Callback.run, Frame.received, Frame.commit]
    split <;> rfl

/-- A close callback that leaves a handle open. -/
theorem connectionClosed_registry {closed : Connection}
    (found : runtime.connections[key]? = some connection)
    (badge : closed.badge = connection.badge) (more : closed.handles - 1 ≠ 0) :
    (Frame.connectionClosed ⟨key, closed, runtime⟩).commit.registry = runtime.registry := by
  have stays : Frame.connectionClosed ⟨key, closed, runtime⟩ =
      ⟨key, { closed with handles := closed.handles - 1 }, runtime⟩ := if_pos more
  rw [stays]
  exact registry_kept found rfl badge rfl rfl

/-- The last close callback answers the request with its result. -/
theorem Focus.connectionClosed_step (focus : runtime.Focus key request connection record)
    (base : runtime.Base) (ending : connection.Ending request) {closed : Connection}
    (badge : closed.badge = connection.badge)
    (failure : record.connects = true → record.result ≠ 0) {callback : Callback}
    (silent : ∀ status, callback ≠ .shutdownDone status) :
    runtime.registry.Step (.callback key callback)
      (Frame.connectionClosed ⟨key, closed, runtime⟩).commit.registry := by
  by_cases last : closed.handles - 1 = 0
  · have held : closed.request = some request := (congrArg Badge.request badge).trans ending.held
    have present := focus.mem_linked base ending.live
    let freed : Connection :=
      { closed with handles := 0, request := some request, frees := closed.frees + 1 }
    let told : Request := { record with answers := [record.result] }
    have frees : Frame.connectionClosed ⟨key, closed, runtime⟩ =
        ⟨key, freed, { runtime with
          linked := runtime.linked.erase key
          requests := runtime.requests.set request told }⟩ := by
      simp only [Frame.connectionClosed, last, ne_eq, not_true_eq_false, if_false, present,
        if_true, held, focus.opened.found, Option.map_some, Option.getD_some]
      rw [complete_of_open (by exact focus.opened.found) focus.opened.unanswered]
    have gone : freed.badge = { connection.badge with live := false } := by
      rw [← badge]
      simp [freed, Connection.badge, held]
    generalize result : Frame.commit _ = next
    rw [frees] at result
    obtain ⟨earlier, awaits, length, shown⟩ := focus.registry ending.live
      (show next.connections = runtime.connections.set key freed by rw [← result]; rfl)
      (show next.requests = runtime.requests.set request told by rw [← result]; rfl)
    have nextId : next.nextId = runtime.registry.nextId := by rw [← result]; rfl
    rw [shown, gone, nextId, Request.slip_of_answered (by simp [told])]
    cases connects : record.call.connects with
    | true =>
        have own : { record.slip with answers := [record.result] } =
            ({ call := record.call, id := record.id, answers := [record.result] } : Slip) := by
          simp [Request.slip, connects]
        exact own ▸ .failed silent awaits connects (failure (Request.connects_eq.trans connects))
    | false =>
        have own : { record.slip with result := 0, answers := [record.slip.result] } =
            ({ call := record.call, id := record.id, answers := [record.result] } : Slip) := by
          simp [Request.slip, connects, focus.opened.unanswered]
        have waits : connection.badge.request = some earlier.length := by
          rw [length]
          exact ending.held
        exact own ▸ .closed silent awaits waits connects
  · rw [connectionClosed_registry focus.found badge last]
    exact .kept silent

/-- The callback of a write or of a shutdown. -/
theorem Focus.complete_registry (focus : runtime.Focus key request connection record)
    (live : connection.frees = 0) (after : Connection) (status : Int) :
    ∃ earlier, runtime.registry.Awaits key connection.badge earlier record.slip ∧
      earlier.length = request ∧
      (Frame.commit ⟨key, after, runtime.complete request status⟩).registry =
        { runtime.registry with
          badges := runtime.registry.badges.set key after.badge
          slips := earlier ++ [{ record.slip with result := 0, answers := [status] }] } := by
  let told : Request := { record with result := status, answers := [status] }
  rw [complete_of_open focus.opened.found focus.opened.unanswered]
  obtain ⟨earlier, awaits, length, shown⟩ := focus.registry live
    (show (Frame.commit ⟨key, after, { runtime with
      requests := runtime.requests.set request told }⟩).connections = _ from rfl)
    (show _ = runtime.requests.set request told from rfl)
  refine ⟨earlier, awaits, length, shown.trans ?_⟩
  rw [Request.slip_of_answered (by simp [told])]
  rfl

/-- Giving up on a connect shows nothing until the close callbacks are made. -/
theorem Focus.fail_registry (focus : runtime.Focus key request connection record)
    (live : connection.frees = 0) (connects : record.connects = true) {before : Connection}
    {amended : Request} {result : Int}
    (badge : before.badge = connection.badge) (held : connection.request = some request)
    (call : amended.call = record.call) (id : amended.id = record.id)
    (answers : amended.answers = record.answers) :
    (Frame.fail ⟨key, before, { runtime with
      requests := runtime.requests.set request amended }⟩ result).commit.registry =
        runtime.registry := by
  obtain ⟨bound, -⟩ := List.getElem?_eq_some_iff.mp focus.opened.found
  have waits : before.request = some request := (congrArg Badge.request badge).trans held
  simp only [Frame.fail, waits]
  rw [setResult_of_open (List.getElem?_set_self bound)
    (answers.trans focus.opened.unanswered)]
  exact focus.registry_kept live rfl (List.set_set ..) (Connection.badge_close.trans badge)
    (Request.slip_of_connects connects call id answers) rfl

theorem Focus.timeout_registry (focus : runtime.Focus key request connection record)
    (base : runtime.Base) (dialing : connection.Dialing request)
    (connects : record.connects = true) :
    (Callback.run ⟨key, connection, runtime⟩ .timeout).commit.registry = runtime.registry := by
  have live := (base.sound key connection focus.found).live_of_open dialing.tcp
  rw [Callback.run, Frame.record_eq dialing.creator focus.opened.found]
  exact focus.fail_registry live connects rfl dialing.held rfl rfl rfl

theorem Focus.connected_step (focus : runtime.Focus key request connection record)
    (base : runtime.Base) (dialing : connection.Dialing request)
    (connects : record.connects = true) (status readStart : Int) :
    runtime.registry.Step (.callback key (.connected status readStart))
      (Callback.run ⟨key, connection, runtime⟩ (.connected status readStart)).commit.registry := by
  have live := (base.sound key connection focus.found).live_of_open dialing.tcp
  obtain ⟨bound, -⟩ := List.getElem?_eq_some_iff.mp focus.opened.found
  let answered : Connection := { connection with connecting := false }
  let told : Request := { record with events := record.events ++ [.connected status readStart] }
  have untimed : ¬ connection.timedOut = true := by simp [dialing.timedOut]
  have badge : answered.closeTimer.badge = connection.badge := Connection.badge_closeTimer
  have fails : ∀ result, (Frame.fail ⟨key, answered.closeTimer, { runtime with
      requests := runtime.requests.set request told }⟩ result).commit.registry =
        runtime.registry := fun result =>
    focus.fail_registry live connects badge dialing.held rfl rfl rfl
  rw [Callback.run, Frame.record_eq dialing.creator focus.opened.found]
  unfold Frame.connected
  dsimp only
  rw [if_neg untimed]
  by_cases refused : status ≠ 0
  · rw [if_pos refused, show _ = runtime.registry from fails status]
    exact .kept (by simp)
  · rw [if_neg refused]
    by_cases unread : readStart ≠ 0
    · rw [if_pos unread, show _ = runtime.registry from fails readStart]
      exact .kept (by simp)
    · rw [if_neg unread]
      obtain rfl : status = 0 := not_not.mp refused
      obtain rfl : readStart = 0 := not_not.mp unread
      have held : answered.closeTimer.request = some request :=
        (congrArg Badge.request badge).trans dialing.held
      have id : answered.closeTimer.id = connection.id := congrArg Badge.id badge
      simp only [show ({ connection with connecting := false } : Connection) = answered from rfl,
        held, id]
      rw [assignId_complete (List.getElem?_set_self bound) (by exact focus.opened.unanswered)]
      let after : Connection :=
        { answered.closeTimer with id := connection.id, reading := true, request := none }
      let done : Request := { told with id := connection.id, result := 0, answers := [0] }
      have open_badge : after.badge = { connection.badge with request := none } :=
        congrArg (fun badge : Badge => { badge with id := connection.id, request := none }) badge
      have granted : done.slip = { record.slip with id := connection.id, answers := [0] } := by
        rw [Request.connects_eq] at connects
        simp [done, told, Request.slip, connects]
      generalize result : Frame.commit _ = next
      obtain ⟨earlier, awaits, length, shown⟩ := focus.registry live
        (show next.connections = runtime.connections.set key after by rw [← result]; rfl)
        (show next.requests = runtime.requests.set request done by
          rw [← result]; exact List.set_set ..)
      have nextId : next.nextId = connection.badge.id := by rw [← result]; rfl
      rw [shown, open_badge, granted, nextId]
      exact .granted awaits (by rw [length]; exact dialing.held)
        (by rw [length]; exact dialing.creator) (Request.connects_eq.symm.trans connects)

/-- The connect callback of a connection that has timed out. -/
theorem Focus.cancelled_registry (focus : runtime.Focus key request connection record)
    (ending : connection.Ending request) (creator : connection.creator = request)
    (connects : record.connects = true) (timedOut : connection.timedOut = true)
    (status readStart : Int) :
    (Callback.run ⟨key, connection, runtime⟩ (.connected status readStart)).commit.registry =
      runtime.registry := by
  let told : Request := { record with events := record.events ++ [.connected status readStart] }
  have stays : Callback.run ⟨key, connection, runtime⟩ (.connected status readStart) =
      ⟨key, { connection with connecting := false },
        { runtime with requests := runtime.requests.set request told }⟩ := by
    rw [Callback.run, Frame.record_eq creator focus.opened.found]
    exact if_pos timedOut
  have slip : told.slip = record.slip := Request.slip_of_connects connects rfl rfl rfl
  rw [stays]
  exact focus.registry_kept ending.live rfl rfl rfl slip rfl

theorem Wf.established_step (wf : runtime.Wf) (found : runtime.connections[key]? = some connection)
    (established : connection.Established) {callback : Callback}
    (report : (∃ delivery, callback = .received delivery) ∨
      callback = .timerClosed ∧ connection.timer = .closing) :
    runtime.registry.Step (.callback key callback)
      (callback.run ⟨key, connection, runtime⟩).commit.registry := by
  obtain ⟨delivery, rfl⟩ | ⟨rfl, timer⟩ := report
  · rw [received_registry found delivery]
    exact .kept (by simp)
  · have more : connection.handles - 1 ≠ 0 := by
      simp [(wf.sound key connection found).handles, Connection.openHandles, established.tcp, timer]
    have same : (Callback.run ⟨key, connection, runtime⟩ .timerClosed).commit.registry =
        runtime.registry := connectionClosed_registry found rfl more
    rw [same]
    exact .kept (by simp)

theorem Wf.callback_step (wf : runtime.Wf) (found : runtime.connections[key]? = some connection)
    {callback : Callback} (deliverable : callback.deliverable connection = true) :
    runtime.registry.Step (.callback key callback)
      (callback.run ⟨key, connection, runtime⟩).commit.registry := by
  have base := wf.toBase
  have sound := wf.sound key connection found
  rcases wf.role found with ⟨request, record, busy⟩ | quiet
  · cases busy.holds.due sound deliverable with
    | timeout dialing connects =>
        rw [busy.timeout_registry base dialing connects]
        exact .kept (by simp)
    | connected status readStart dialing connects =>
        exact busy.connected_step base dialing connects status readStart
    | cancelled status readStart ending creator connects _ _ connecting =>
        rw [busy.cancelled_registry ending creator connects (ending.cancelled connecting).1]
        exact .kept (by simp)
    | received delivery established =>
        exact wf.established_step found established (.inl ⟨delivery, rfl⟩)
    | timerClosed established timer =>
        exact wf.established_step found established (.inr ⟨rfl, timer⟩)
    | timerEnded ending decided =>
        have badge : Connection.badge { connection with timer := .closed } = connection.badge := rfl
        exact busy.connectionClosed_step base ending badge (fun connects => (decided connects).2)
          (by simp)
    | tcpEnded ending decided =>
        have badge : Connection.badge { connection with tcp := .closed } = connection.badge := rfl
        exact busy.connectionClosed_step base ending badge (fun connects => (decided connects).2)
          (by simp)
    | written status established writing =>
        obtain ⟨earlier, awaits, length, shown⟩ := busy.complete_registry
          (sound.live_of_open established.tcp) { connection with writing := none } status
        simp only [Callback.run, Frame.written, writing]
        rw [shown]
        exact .written awaits (by rw [length]; exact writing)
    | shutdownDone status established shutting =>
        obtain ⟨earlier, awaits, length, shown⟩ := busy.complete_registry
          (sound.live_of_open established.tcp) { connection with shutting := none } status
        simp only [Callback.run, Frame.shutdownDone, shutting]
        rw [shown]
        exact .shut awaits (by rw [length]; exact shutting)
  · obtain ⟨established, report⟩ := quiet.deliverable sound deliverable
    exact wf.established_step found established report

end Runtime

/-! ## Calls -/

namespace Runtime

variable {runtime current : Runtime} {key : Nat} {connection after : Connection}
  {record : Request} {call : Call} {env : Env} {id : Int}

theorem Idle.registry (idle : runtime.Idle) (base : runtime.Base) : runtime.registry.Idle where
  answered := by
    intro slip member
    obtain ⟨record, known, rfl⟩ := List.mem_map.mp member
    obtain ⟨request, found⟩ := List.mem_iff_getElem?.mp known
    obtain ⟨result, answers, -⟩ := idle.settled request record found
    simp [Request.slip, answers]
  request := by
    intro key badge found live
    obtain ⟨connection, get, rfl⟩ := of_registry_found found
    rcases (idle.quiet key connection get).stage with established | gone
    · exact established.request
    · simp [Connection.live_badge, gone.frees] at live
  shutting := by
    intro key badge found live
    obtain ⟨connection, get, rfl⟩ := of_registry_found found
    exact (idle.quiet key connection get).shutting
  creator := by
    intro key badge found live
    obtain ⟨connection, get, rfl⟩ := of_registry_found found
    obtain ⟨maker, made, -⟩ := base.made key connection get (Connection.live_badge.mp live)
    have bound := (List.getElem?_eq_some_iff.mp made).1
    simpa [Runtime.registry, Connection.badge] using bound

theorem absent_of_findConnection (base : runtime.Base)
    (missing : runtime.findConnection id = none) : runtime.registry.Absent id := by
  intro key badge finds
  obtain ⟨connection, get, rfl⟩ := of_registry_found finds.found
  have linked := (base.linked key).mpr ⟨connection, get, Connection.live_badge.mp finds.live⟩
  have skipped := List.findSome?_eq_none_iff.mp missing key linked
  simp [get, show connection.id = id from finds.same] at skipped

theorem finds_of_findConnection (base : runtime.Base) {frame : Frame}
    (found : runtime.findConnection id = some frame) :
    runtime.registry.Finds id frame.key frame.connection.badge := by
  obtain ⟨key, connection, rfl, linked, get, same⟩ := findConnection_spec found
  obtain ⟨value, get', live⟩ := (base.linked key).mp linked
  cases get.symm.trans get'
  exact ⟨registry_found get, Connection.live_badge.mpr live, same⟩

/-- The last request is answered. -/
theorem registry_answer (requests : current.requests = runtime.requests ++ [record])
    (unanswered : record.answers = []) (unassigned : record.id = 0) (result : Int) :
    (current.answer runtime.requests.length result).registry =
      { badges := current.registry.badges
        slips := runtime.registry.slips ++ [{ call := record.call, answers := [result] }]
        nextId := current.nextId } := by
  have found : current.requests[runtime.requests.length]? = some record := by simp [requests]
  rw [answer_of_open found unanswered]
  simp [Runtime.registry, requests, Request.slip, unassigned]

theorem registry_complete (requests : current.requests = runtime.requests ++ [record])
    (unanswered : record.answers = []) (unassigned : record.id = 0) (result : Int) :
    (current.complete runtime.requests.length result).registry =
      { badges := current.registry.badges
        slips := runtime.registry.slips ++ [{ call := record.call, answers := [result] }]
        nextId := current.nextId } := by
  have found : current.requests[runtime.requests.length]? = some record := by simp [requests]
  rw [complete_of_open found unanswered]
  simp [Runtime.registry, requests, Request.slip, unassigned]

theorem newRequest_requests : (runtime.newRequest call env).requests =
    runtime.requests ++ [{ call := call, events := call.events env runtime }] := rfl

/-- A command that works on one connection and leaves the request open. -/
theorem commit_registry : (Frame.commit ⟨key, after, runtime.newRequest call env⟩).registry =
    { runtime.registry with
      badges := runtime.registry.badges.set key after.badge
      slips := runtime.registry.slips ++ [{ call := call }] } := by
  simp [Runtime.registry, Frame.commit, newRequest, List.map_set, Request.slip]

/-- The search that a command makes. -/
theorem Idle.find (idle : runtime.Idle) (base : runtime.Base) (call : Call) (env : Env) (id : Int) :
    (runtime.newRequest call env).findConnection id = none ∧ runtime.registry.Absent id ∨
      ∃ key connection, (runtime.newRequest call env).findConnection id =
          some ⟨key, connection, runtime.newRequest call env⟩ ∧
        runtime.registry.Finds id key connection.badge := by
  have opened : (runtime.newRequest call env).Base := (idle.pending base rfl).1
  cases search : (runtime.newRequest call env).findConnection id with
  | none =>
      have absent := absent_of_findConnection opened search
      exact .inl ⟨rfl, fun key badge finds => absent key badge
        ⟨finds.found, finds.live, finds.same⟩⟩
  | some frame =>
      have finds := finds_of_findConnection opened search
      obtain ⟨key, connection, rfl, -⟩ := findConnection_spec search
      exact .inr ⟨key, connection, rfl, ⟨finds.found, finds.live, finds.same⟩⟩

theorem Idle.answer (idle : runtime.Idle) (base : runtime.Base) {result : Int}
    (reply : runtime.registry.Reply env result call) :
    runtime.registry.Step (.call call env)
      ((runtime.newRequest call env).answer runtime.requests.length result).registry := by
  rw [registry_answer newRequest_requests rfl rfl]
  exact .answered (idle.registry base) reply

theorem Idle.complete (idle : runtime.Idle) (base : runtime.Base) {result : Int}
    (reply : runtime.registry.Reply env result call) :
    runtime.registry.Step (.call call env)
      ((runtime.newRequest call env).complete runtime.requests.length result).registry := by
  rw [registry_complete newRequest_requests rfl rfl]
  exact .answered (idle.registry base) reply

end Runtime

/-- The call has passed its checks and reaches the I/O thread. -/
structure Call.Submitted (call : Call) (env : Env) : Prop where
  accepted : call.rejection env = 0
  submitted : env.submit = 0

theorem Call.Submitted.reply {registry : Registry} {call : Call} {env : Env} {result : Int}
    (reaches : call.Submitted env) (served : registry.Served result call) :
    registry.Reply env result call := by
  rw [Registry.Reply, if_neg (not_not_intro reaches.accepted),
    if_neg (not_not_intro reaches.submitted)]
  exact served

namespace Runtime

variable {runtime current : Runtime} {key : Nat} {connection after : Connection}
  {record : Request} {call : Call} {env : Env} {id : Int}

theorem Idle.startClose_step (idle : runtime.Idle) (base : runtime.Base)
    (reaches : (Call.close id).Submitted env) :
    runtime.registry.Step (.call (.close id) env)
      (concluded runtime.requests.length true
        ((runtime.newRequest (.close id) env).startClose runtime.requests.length id)).registry := by
  obtain ⟨search, absent⟩ | ⟨key, connection, search, finds⟩ :=
    idle.find base (.close id) env id
  · by_cases issued : id > 0 ∧ id ≤ runtime.nextId
    · simp only [startClose, search]
      rw [if_pos (by exact issued), concluded_wait]
      exact idle.complete base (reaches.reply ⟨absent, (if_pos issued).symm⟩)
    · simp only [startClose, search]
      rw [if_neg (by exact issued), concluded_error (by decide)]
      exact idle.answer base (reaches.reply ⟨absent, (if_neg issued).symm⟩)
  · have badge : (Connection.close
        { connection with request := some runtime.requests.length }).badge =
          { connection.badge with request := some runtime.registry.slips.length } := by
      rw [Connection.badge_close]
      simp [Connection.badge, Runtime.registry]
    simp only [startClose, search]
    rw [concluded_wait, commit_registry, badge]
    exact .closing (idle.registry base) finds reaches.submitted

theorem Idle.startSend_step (idle : runtime.Idle) (base : runtime.Base) {size : Nat}
    (reaches : (Call.send id size).Submitted env) :
    runtime.registry.Step (.call (.send id size) env)
      (concluded runtime.requests.length true ((runtime.newRequest (.send id size) env).startSend
        runtime.requests.length id size env)).registry := by
  obtain ⟨search, absent⟩ | ⟨key, connection, search, finds⟩ :=
    idle.find base (.send id size) env id
  · simp only [startSend, search]
    rw [concluded_error (by decide)]
    exact idle.answer base (reaches.reply fun _ => rfl)
  · have served : ∀ result, runtime.registry.Served result (.send id size) := fun result absent =>
      absurd finds (absent key connection.badge)
    simp only [startSend, search]
    split
    · rw [concluded_error (by decide)]
      exact idle.answer base (reaches.reply (served _))
    · split
      · rw [concluded_wait]
        exact idle.complete base (reaches.reply (served _))
      · split
        · rename_i failure
          rw [concluded_error failure]
          exact idle.answer base (reaches.reply (served _))
        · have badge : Connection.badge
              { connection with writing := some runtime.requests.length } =
                { connection.badge with writing := some runtime.registry.slips.length } := by
            simp [Connection.badge, Runtime.registry]
          rw [concluded_wait, commit_registry, badge]
          exact .writing (idle.registry base) finds

/-- A command that notes something on the receiving side and answers at once. -/
theorem Idle.observe_step (idle : runtime.Idle) (base : runtime.Base) {result : Int}
    (finds : runtime.registry.Finds id key connection.badge)
    (same : after.outline = connection.outline) {change : Request → Request}
    (call_kept : ∀ record, (change record).call = record.call)
    (id_kept : ∀ record, (change record).id = record.id)
    (answers_kept : ∀ record, (change record).answers = record.answers)
    (reply : runtime.registry.Reply env result call) :
    runtime.registry.Step (.call call env)
      (concluded runtime.requests.length false
        ((Frame.commit ⟨key, after, (runtime.newRequest call env).amend runtime.requests.length
          change⟩), result)).registry := by
  let fresh : Request := { call := call, events := call.events env runtime }
  let current := Frame.commit ⟨key, after, (runtime.newRequest call env).amend
    runtime.requests.length change⟩
  have requests : current.requests = runtime.requests ++ [change fresh] := by
    simp [current, Frame.commit, amend, newRequest_requests, List.modify_eq_set_getElem?, fresh]
  have badges : current.registry.badges = runtime.registry.badges := by
    have kept := Registry.set_badge finds.found
    rw [← Connection.badge_of_outline same] at kept
    refine Eq.trans ?_ kept
    simp [current, Runtime.registry, Frame.commit, amend, newRequest, List.map_set]
  have concludes : concluded runtime.requests.length false (current, result) =
      current.answer runtime.requests.length result := by
    simp [concluded]
  rw [concludes, registry_answer requests (answers_kept fresh) (id_kept fresh), call_kept fresh,
    badges]
  exact .answered (idle.registry base) reply

theorem Idle.receiveData_step (idle : runtime.Idle) (base : runtime.Base) {capacity : Nat}
    (reaches : (Call.recv id capacity).Submitted env) :
    runtime.registry.Step (.call (.recv id capacity) env)
      (concluded runtime.requests.length false ((runtime.newRequest (.recv id capacity)
        env).receiveData runtime.requests.length id capacity env)).registry := by
  obtain ⟨search, absent⟩ | ⟨key, connection, search, finds⟩ :=
    idle.find base (.recv id capacity) env id
  · simp only [receiveData, search]
    rw [concluded_error (by decide)]
    exact idle.answer base (reaches.reply fun _ => rfl)
  · simp only [receiveData, search]
    refine idle.observe_step base finds ?_ (fun _ => rfl) (fun _ => rfl) (fun _ => rfl)
      (reaches.reply fun absent => absurd finds (absent key connection.badge))
    exact Connection.outline_drain capacity env.readStart

theorem Idle.checkReady_step (idle : runtime.Idle) (base : runtime.Base)
    (reaches : (Call.ready id).Submitted env) :
    runtime.registry.Step (.call (.ready id) env)
      (concluded runtime.requests.length false ((runtime.newRequest (.ready id) env).checkReady
        runtime.requests.length id)).registry := by
  obtain ⟨search, absent⟩ | ⟨key, connection, search, finds⟩ :=
    idle.find base (.ready id) env id
  · simp only [checkReady, search]
    rw [concluded_error (by decide)]
    exact idle.answer base (reaches.reply fun _ => rfl)
  · simp only [checkReady, search]
    exact idle.observe_step base finds (Connection.outline_note _) (fun _ => rfl) (fun _ => rfl)
      (fun _ => rfl) (reaches.reply fun absent => absurd finds (absent key connection.badge))

/-- The write half, on a connection whose receiving side may have changed. -/
theorem Idle.shutdownWrite_step (idle : runtime.Idle) (base : runtime.Base) {read write : Bool}
    (reaches : (Call.shutdown id read write).Submitted env)
    (finds : runtime.registry.Finds id key connection.badge)
    (same : after.outline = connection.outline) :
    runtime.registry.Step (.call (.shutdown id read write) env)
      (concluded runtime.requests.length true (shutdownWrite
        ⟨key, after, runtime.newRequest (.shutdown id read write) env⟩ runtime.requests.length
        write env)).registry := by
  have badge := Connection.badge_of_outline same
  have mark : after.writeClosed = connection.badge.writeClosed := congrArg Badge.writeClosed badge
  have requests : ∀ shut, (Frame.commit
      ⟨key, shut, runtime.newRequest (.shutdown id read write) env⟩).requests =
        runtime.requests ++ [{ call := .shutdown id read write, events := [] }] := fun _ => rfl
  unfold shutdownWrite
  by_cases fresh : write = true ∧ after.writeClosed = false
  · obtain ⟨rfl, unclosed⟩ := fresh
    rw [if_pos (by simp [unclosed])]
    by_cases issued : env.shutdown = 0
    · have shutting : Connection.badge { after with
            writeClosed := true, shutting := some runtime.requests.length } =
          { connection.badge with
            writeClosed := true, shutting := some runtime.registry.slips.length } := by
        rw [← badge]
        simp [Connection.badge, Runtime.registry]
      rw [issued, concluded_wait, if_pos rfl, commit_registry, shutting]
      exact .shutting (idle.registry base) finds (mark ▸ unclosed) issued
    · have unshut : Connection.badge { after with writeClosed := true, shutting := none } =
          { connection.badge with writeClosed := true } := by
        have quiet := (idle.registry base).shutting key _ finds.found finds.live
        rw [← badge] at quiet ⊢
        simpa [Connection.badge] using quiet.symm
      rw [concluded_error issued, if_neg issued, registry_answer (requests _) rfl rfl,
        commit_registry, unshut]
      exact .unshut (idle.registry base) finds (mark ▸ unclosed) issued
  · have done : write = true → connection.badge.writeClosed = true := by
      intro direction
      rw [← mark]
      simpa [direction] using fresh
    have served : runtime.registry.Served 0 (.shutdown id read write) :=
      ⟨fun absent => absurd finds (absent key connection.badge),
        fun direction _ => ⟨key, connection.badge, finds, done direction⟩⟩
    rw [if_neg (by simpa using fresh), concluded_wait, registry_complete (requests _) rfl rfl,
      commit_registry, badge, Registry.set_badge finds.found]
    exact .answered (idle.registry base) (reaches.reply served)

theorem Idle.startShutdown_step (idle : runtime.Idle) (base : runtime.Base) {read write : Bool}
    (reaches : (Call.shutdown id read write).Submitted env) :
    runtime.registry.Step (.call (.shutdown id read write) env)
      (concluded runtime.requests.length true ((runtime.newRequest (.shutdown id read write)
        env).startShutdown runtime.requests.length id read write env)).registry := by
  obtain ⟨search, absent⟩ | ⟨key, connection, search, finds⟩ :=
    idle.find base (.shutdown id read write) env id
  · simp only [startShutdown, search]
    rw [concluded_error (by decide)]
    exact idle.answer base (reaches.reply ⟨fun _ => rfl, fun _ zero => absurd zero (by decide)⟩)
  · have proceed := idle.shutdownWrite_step base reaches finds rfl
    simp only [startShutdown, search]
    cases read with
    | false => exact proceed
    | true =>
        simp only [if_true, Runtime.shutdownRead]
        by_cases closed : connection.readClosed = true
        · rw [if_pos closed]
          exact proceed
        · rw [if_neg closed]
          by_cases failure : env.shutdownRead = 0
          · rw [if_neg (not_not_intro failure)]
            exact idle.shutdownWrite_step base reaches finds rfl
          · rw [if_pos failure]
            simp only [ne_eq, failure, not_false_eq_true, if_true]
            rw [concluded_error failure]
            exact idle.answer base (reaches.reply
              ⟨fun absent => absurd finds (absent key connection.badge),
                fun _ zero => absurd zero failure⟩)

/-- Dialing, or giving up on it, shows nothing. -/
theorem Focus.launch_registry {request : Nat}
    (focus : runtime.Focus key request connection record) (live : connection.frees = 0)
    (connects : record.connects = true) (held : connection.request = some request)
    (timeout : Int) (env : Env) :
    (Frame.launch ⟨key, connection, runtime⟩ timeout env).commit.registry = runtime.registry := by
  have fails : ∀ before : Connection, before.badge = connection.badge → ∀ result,
      (Frame.fail ⟨key, before, runtime⟩ result).commit.registry = runtime.registry := by
    intro before badge result
    have failed :=
      @Focus.fail_registry _ _ _ _ _ focus live connects before record result badge held
      rfl rfl rfl
    rwa [focus.opened.set_self] at failed
  have dials : ∀ before : Connection, before.badge = connection.badge →
      (Frame.tcpConnect ⟨key, before, runtime⟩ env).commit.registry = runtime.registry := by
    intro before badge
    unfold Frame.tcpConnect
    split
    · exact fails before badge env.tcpConnect
    · exact Runtime.registry_kept focus.found rfl badge rfl rfl
  unfold Frame.launch
  split
  · exact fails connection rfl uvEtimedout
  · split
    · unfold Frame.startTimer
      by_cases init : env.timerInit = 0
      · rw [if_neg (not_not_intro init)]
        dsimp only
        split
        · refine fails _ ?_ env.timerStart
          rfl
        · refine dials _ ?_
          rfl
      · rw [if_pos init]
        simp only [ne_eq, init, not_false_eq_true, if_true]
        exact fails connection rfl env.timerInit
    · exact dials connection rfl

theorem Idle.startConnect_step (idle : runtime.Idle) (base : runtime.Base) {port timeout : Int}
    (reaches : (Call.connect port timeout).Submitted env) :
    runtime.registry.Step (.call (.connect port timeout) env)
      (concluded runtime.requests.length true ((runtime.newRequest (.connect port timeout)
        env).startConnect runtime.requests.length timeout env)).registry := by
  have refused : ∀ result, result ≠ 0 → runtime.registry.Step (.call (.connect port timeout) env)
      (concluded runtime.requests.length true
        (runtime.newRequest (.connect port timeout) env, result)).registry := by
    intro result failure
    rw [concluded_error failure]
    exact idle.answer base (reaches.reply failure)
  unfold startConnect
  split
  · exact refused uvEnospc (by decide)
  · split
    · exact refused uvEnomem (by decide)
    · split
      · exact refused env.tcpInit ‹_›
      · have fresh : Launching runtime.requests.length
            { id := runtime.nextId + 1, request := some runtime.requests.length,
              creator := runtime.requests.length } :=
          ⟨⟨by simp, by simp, rfl, by simp, by simp, rfl⟩, rfl, rfl, rfl, .inl rfl, rfl, rfl, rfl,
            rfl, rfl, ⟨rfl, rfl, rfl, rfl⟩⟩
        obtain ⟨opened, pending⟩ := idle.pending base (show Request.answers
          { call := .connect port timeout
            events := (Call.connect port timeout).events env runtime } = [] from rfl)
        obtain ⟨-, focus⟩ := pending.link opened rfl fresh
        rw [concluded_wait]
        have launched := focus.launch_registry rfl rfl rfl timeout env
        have shown := launched.trans (show _ = Registry.mk
          (runtime.registry.badges ++ [{ id := runtime.nextId + 1
                                         creator := runtime.registry.slips.length
                                         request := some runtime.registry.slips.length }])
          (runtime.registry.slips ++ [{ call := .connect port timeout }]) runtime.nextId by
            simp [Runtime.registry, Connection.badge, Request.slip])
        exact shown ▸ .launched (idle.registry base)

end Runtime

theorem Runtime.Wf.registry_step {runtime next : Runtime} (wf : runtime.Wf) {label : Label}
    (run : Client.step runtime label = some next) :
    runtime.registry.Step label next.registry := by
  cases label with
  | call call env =>
      obtain ⟨accepts, ⟨⟩⟩ := Option.ite_none_right_eq_some.mp run
      have idle := wf.idle (Runtime.idle_of_accepts accepts)
      have base := wf.toBase
      by_cases accepted : call.rejection env = 0
      · by_cases submitted : env.submit = 0
        · have reaches : call.Submitted env := ⟨accepted, submitted⟩
          rw [call_accepted accepted submitted]
          cases call with
          | connect port timeout => exact idle.startConnect_step base reaches
          | close id => exact idle.startClose_step base reaches
          | send id size => exact idle.startSend_step base reaches
          | recv id capacity => exact idle.receiveData_step base reaches
          | shutdown id read write => exact idle.startShutdown_step base reaches
          | ready id => exact idle.checkReady_step base reaches
        · rw [call_unsubmitted accepted submitted]
          exact idle.answer base (by simp [Registry.Reply, accepted, submitted])
      · rw [call_rejected accepted]
        exact idle.answer base (by simp [Registry.Reply, accepted])
  | callback key callback =>
      obtain ⟨connection, found, deliverable, -, rfl⟩ := wf.of_callback run
      exact wf.callback_step found deliverable

end Skyuv.Client
