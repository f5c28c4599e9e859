import Skyuv.Client.Stream
import Mathlib.Algebra.Order.BigOperators.Group.List
import Mathlib.Algebra.Order.Ring.Nat

/-!
# Readiness and the revision

What the runtime shows to a caller that waits for readable connections, and which
steps change it.  A callback that makes a connection readable is one that notifies.
Between two calls nobody drains a buffer, so a connection can notify at most once
for every byte of room it has left, and once more for its end: this is its budget.
-/

set_option autoImplicit false

namespace Skyuv.Client

/-- The id is the one of a connection, and `check_ready` finds it readable. -/
def Runtime.readable (runtime : Runtime) (id : Int) : Bool :=
  (runtime.findConnection id).any fun frame => frame.connection.readReady

/-- The read callback is the one that notifies, unless nothing was read. -/
def Callback.notifies : Callback → Bool
  | received delivery => delivery.count ≠ 0
  | _ => false

/-- The bytes that one `client_connection` takes at least: its buffer and its id. -/
def connectionSize : Nat := receiveLimit + 8

/-! ## The revision of the runtime -/

section Revision

variable {frame : Frame} {runtime next : Runtime} {key : Nat}

theorem Runtime.revision_complete (request : Nat) (result : Int) :
    (runtime.complete request result).revision = runtime.revision := by
  unfold Runtime.complete Runtime.setResult Runtime.touch
  split <;> rfl

theorem Frame.revision_fail (result : Int) :
    (frame.fail result).runtime.revision = frame.runtime.revision := by
  unfold Frame.fail Runtime.setResult Runtime.touch
  dsimp only
  split
  · rfl
  · split <;> rfl

theorem Frame.revision_connected (status readStart : Int) :
    (frame.connected status readStart).runtime.revision = frame.runtime.revision := by
  unfold Frame.connected
  dsimp only
  split
  · rfl
  · split
    · exact Frame.revision_fail status
    · split
      · exact Frame.revision_fail readStart
      · split
        · rfl
        · exact Runtime.revision_complete _ 0

theorem Frame.revision_connectionClosed :
    frame.connectionClosed.runtime.revision = frame.runtime.revision := by
  unfold Frame.connectionClosed
  dsimp only
  split
  · rfl
  · split
    · split
      · rfl
      · exact Runtime.revision_complete ..
    · rfl

theorem Frame.revision_tcpConnect (env : Env) :
    (frame.tcpConnect env).runtime.revision = frame.runtime.revision := by
  unfold Frame.tcpConnect
  split
  · exact Frame.revision_fail _
  · rfl

theorem Frame.revision_launch (timeout : Int) (env : Env) :
    (frame.launch timeout env).runtime.revision = frame.runtime.revision := by
  have timer : (frame.startTimer env).1.runtime = frame.runtime := by
    unfold Frame.startTimer
    split <;> rfl
  unfold Frame.launch
  dsimp only
  split
  · exact Frame.revision_fail _
  · split
    · rw [← timer]
      split
      · exact Frame.revision_fail _
      · exact Frame.revision_tcpConnect env
    · exact Frame.revision_tcpConnect env

theorem Runtime.revision_shutdown {request : Nat} {id : Int} {read write : Bool} {env : Env} :
    (runtime.startShutdown request id read write env).1.revision = runtime.revision := by
  have half : ∀ frame : Frame, (shutdownWrite frame request write env).1.revision =
      frame.runtime.revision := by
    intro frame
    unfold shutdownWrite
    split
    · rfl
    · exact Runtime.revision_complete ..
  have kept : ∀ frame : Frame, (shutdownRead frame env).1.runtime = frame.runtime := by
    intro frame
    unfold shutdownRead
    split
    · rfl
    · split <;> rfl
  unfold startShutdown
  split
  · rfl
  · rename_i frame found
    obtain ⟨key, connection, rfl, -⟩ := findConnection_spec found
    cases read with
    | false => exact half _
    | true =>
        simp only [if_true]
        split
        · rfl
        · rw [half, kept]

theorem Runtime.revision_execute (request : Nat) (env : Env) (call : Call) :
    (runtime.execute request env call).1.revision = runtime.revision := by
  cases call with
  | connect port timeout =>
      rw [execute, startConnect]
      split
      · rfl
      · split
        · rfl
        · split
          · rfl
          · exact Frame.revision_launch timeout env
  | close id =>
      rw [execute, startClose]
      split
      · split
        · exact Runtime.revision_complete ..
        · rfl
      · rename_i frame found
        obtain ⟨key, connection, rfl, -⟩ := findConnection_spec found
        rfl
  | send id size =>
      rw [execute, startSend]
      split
      · rfl
      · rename_i frame found
        obtain ⟨key, connection, rfl, -⟩ := findConnection_spec found
        split
        · rfl
        · split
          · exact Runtime.revision_complete ..
          · split <;> rfl
  | recv id capacity =>
      rw [execute, receiveData]
      split <;> rfl
  | shutdown id read write => exact Runtime.revision_shutdown
  | ready id =>
      rw [execute, checkReady]
      split <;> rfl

theorem Runtime.revision_call (call : Call) (env : Env) :
    (runtime.call call env).revision = runtime.revision := by
  unfold Runtime.call
  dsimp only
  split
  · rfl
  · split
    · rfl
    · split
      · exact Runtime.revision_execute _ env call
      · exact Runtime.revision_execute _ env call

theorem Callback.revision_run (callback : Callback) :
    (callback.run frame).runtime.revision =
      if callback.notifies then (frame.runtime.revision + 1) % 2 ^ 64
      else frame.runtime.revision := by
  cases callback with
  | timeout => exact Frame.revision_fail _
  | connected status readStart => exact Frame.revision_connected status readStart
  | received delivery =>
      simp only [Callback.run, Frame.received, Callback.notifies, decide_eq_true_eq]
      split <;> rfl
  | written status =>
      simp only [Callback.run, Frame.written, Callback.notifies]
      split
      · rfl
      · exact Runtime.revision_complete ..
  | shutdownDone status =>
      simp only [Callback.run, Frame.shutdownDone, Callback.notifies]
      split
      · rfl
      · exact Runtime.revision_complete ..
  | tcpClosed => exact Frame.revision_connectionClosed
  | timerClosed => exact Frame.revision_connectionClosed

theorem Runtime.Wf.revision_callback (wf : runtime.Wf) {callback : Callback}
    (run : runtime.callback key callback = some next) :
    next.revision =
      if callback.notifies then (runtime.revision + 1) % 2 ^ 64 else runtime.revision := by
  obtain ⟨connection, -, -, -, rfl⟩ := wf.of_callback run
  exact Callback.revision_run callback

/-- No part of the protocol depends on the revision. -/
theorem Runtime.Wf.of_revision {revision : Nat} (wf : { runtime with revision := revision }.Wf) :
    runtime.Wf := by
  refine ⟨⟨wf.faults, wf.nodup, wf.linked, wf.sound, wf.made⟩, ?_⟩
  rcases wf.phase with idle | ⟨key, request, connection, record, busy⟩
  · exact .inl ⟨idle.settled, idle.quiet⟩
  · obtain ⟨found, last, unanswered, earlier⟩ := busy.opened
    exact .inr ⟨key, request, connection, record,
      ⟨⟨found, last, unanswered, earlier⟩, busy.found, busy.others, busy.foreign⟩, busy.holds⟩

end Revision

/-! ## What select looks at -/

namespace Connection

/-- The fields that decide what is found, what is readable and what can still come. -/
def gist (connection : Connection) : Int × List UInt8 × Int × Bool :=
  (connection.id, connection.received, connection.readStatus, connection.reading)

/-- How often the connection can still notify if nobody drains it. -/
def budget (connection : Connection) : Nat :=
  if connection.reading then connection.allocateRead + 1 else 0

variable {connection other : Connection}

theorem readReady_of_gist (same : other.gist = connection.gist) :
    other.readReady = connection.readReady := by
  simp only [gist, Prod.mk.injEq] at same
  simp only [readReady, same.2.1, same.2.2.1]

theorem budget_of_gist (same : other.gist = connection.gist) :
    other.budget = connection.budget := by
  simp only [gist, Prod.mk.injEq] at same
  simp only [budget, allocateRead, same.2.1, same.2.2.2]

theorem budget_le : connection.budget ≤ receiveLimit + 1 := by
  unfold budget allocateRead
  split <;> omega

theorem gist_take {delivery : Delivery} (nothing : delivery.count = 0)
    (deliverable : (Callback.received delivery).deliverable connection = true) :
    ((connection.take delivery).note (.delivered delivery)).gist = connection.gist := by
  cases delivery with
  | data bytes =>
      have empty : bytes = [] := by simpa [Delivery.count] using nothing
      subst empty
      rfl
  | failure status =>
      simp only [Delivery.count] at nothing
      simp [Callback.deliverable, nothing] at deliverable

/-- Every notification costs some of the budget. -/
theorem budget_take {delivery : Delivery} (something : delivery.count ≠ 0)
    (deliverable : (Callback.received delivery).deliverable connection = true) :
    ((connection.take delivery).note (.delivered delivery)).budget < connection.budget := by
  cases delivery with
  | data bytes =>
      have nonempty : bytes ≠ [] := by
        rintro rfl
        exact something rfl
      have positive := List.length_pos_iff.mpr nonempty
      simp only [Callback.deliverable, Bool.and_eq_true, decide_eq_true_eq] at deliverable
      obtain ⟨reading, fits⟩ := deliverable
      rw [take, if_neg (by simpa using nonempty)]
      split
      · simp [budget, note, reading]
      · simp only [budget, note, reading, if_true, allocateRead, List.length_append] at fits ⊢
        omega
  | failure status =>
      simp only [Callback.deliverable, Bool.and_eq_true] at deliverable
      simp [take, note, budget, deliverable.1.1]

end Connection

namespace Runtime

variable {runtime next : Runtime} {key : Nat} {connection after : Connection}

/-- How often the runtime can still notify if nobody drains a buffer. -/
def budget (runtime : Runtime) : Nat :=
  (runtime.linked.map fun key => (runtime.connections[key]?.map Connection.budget).getD 0).sum

/-- Nothing that select looks at has changed. -/
structure Still (runtime next : Runtime) : Prop where
  linked : next.linked = runtime.linked
  gist : ∀ key : Nat, next.connections[key]?.map Connection.gist =
    runtime.connections[key]?.map Connection.gist

theorem budget_lt (fits : runtime.linked.length * connectionSize ≤ 2 ^ 64) :
    runtime.budget + 1 < 2 ^ 64 := by
  have bounded : runtime.budget ≤ runtime.linked.length * (receiveLimit + 1) := by
    have each := List.sum_le_card_nsmul
      (runtime.linked.map fun key => (runtime.connections[key]?.map Connection.budget).getD 0)
      (receiveLimit + 1) (by
        intro amount member
        obtain ⟨key, -, rfl⟩ := List.mem_map.mp member
        cases runtime.connections[key]? with
        | none => exact Nat.zero_le _
        | some connection => exact Connection.budget_le)
    simpa [budget] using each
  simp only [connectionSize, receiveLimit] at *
  omega

theorem Still.of_set (found : runtime.connections[key]? = some connection)
    (linked : next.linked = runtime.linked)
    (connections : next.connections = runtime.connections.set key after)
    (gist : after.gist = connection.gist) : runtime.Still next where
  linked := linked
  gist := by
    intro index
    obtain ⟨bound, -⟩ := List.getElem?_eq_some_iff.mp found
    by_cases same : key = index
    · subst same
      rw [connections, List.getElem?_set_self bound, found, Option.map_some, Option.map_some, gist]
    · rw [connections, List.getElem?_set_ne same]

theorem Still.lookup (still : runtime.Still next) (id : Int) (key : Nat) :
    next.connections[key]?.map Connection.id = some id ↔
      runtime.connections[key]?.map Connection.id = some id := by
  have same := congrArg (Option.map Prod.fst) (still.gist key)
  simp only [Option.map_map] at same
  exact same ▸ Iff.rfl

theorem Still.readable (still : runtime.Still next) (id : Int) :
    next.readable id = runtime.readable id := by
  have place : (next.linked.find? fun key =>
      next.connections[key]?.map Connection.id = some id) =
      runtime.linked.find? fun key => runtime.connections[key]?.map Connection.id = some id := by
    rw [still.linked]
    simp only [still.lookup id]
  unfold Runtime.readable
  rw [findConnection_eq, findConnection_eq, place]
  cases runtime.linked.find? fun key => runtime.connections[key]?.map Connection.id = some id with
  | none => rfl
  | some key =>
      have gist := still.gist key
      rw [Option.bind_some, Option.bind_some]
      cases before : runtime.connections[key]? with
      | none =>
          rw [before, Option.map_none, Option.map_eq_none_iff] at gist
          rw [gist]
          rfl
      | some connection =>
          rw [before] at gist
          obtain ⟨value, get, same⟩ := Option.map_eq_some_iff.mp gist
          rw [get]
          exact Connection.readReady_of_gist same

theorem Still.budget (still : runtime.Still next) : next.budget = runtime.budget := by
  have each : ∀ key : Nat, (next.connections[key]?.map Connection.budget).getD 0 =
      (runtime.connections[key]?.map Connection.budget).getD 0 := by
    intro key
    have gist := still.gist key
    cases before : runtime.connections[key]? with
    | none =>
        rw [before, Option.map_none, Option.map_eq_none_iff] at gist
        rw [gist]
    | some connection =>
        rw [before] at gist
        obtain ⟨value, get, same⟩ := Option.map_eq_some_iff.mp gist
        rw [get]
        exact Connection.budget_of_gist same
  unfold Runtime.budget
  rw [still.linked]
  exact congrArg List.sum (List.map_congr_left fun key _ => each key)

theorem budget_set_lt (member : key ∈ runtime.linked)
    (found : runtime.connections[key]? = some connection)
    (spent : after.budget < connection.budget) (linked : next.linked = runtime.linked)
    (connections : next.connections = runtime.connections.set key after) :
    next.budget < runtime.budget := by
  obtain ⟨bound, -⟩ := List.getElem?_eq_some_iff.mp found
  unfold budget
  rw [linked, connections]
  refine List.sum_lt_sum _ _ (fun index _ => ?_) ⟨key, member, ?_⟩
  · by_cases same : key = index
    · subst same
      rw [List.getElem?_set_self bound, found]
      exact spent.le
    · rw [List.getElem?_set_ne same]
  · rw [List.getElem?_set_self bound, found]
    exact spent

/-- Between two calls a callback either spends some of the budget and notifies, or
changes nothing that select looks at. -/
theorem Wf.idle_callback (wf : runtime.Wf) (idle : runtime.Idle) {callback : Callback}
    (run : runtime.callback key callback = some next) :
    next.requests = runtime.requests ∧
      (callback.notifies = true → next.budget < runtime.budget) ∧
      (callback.notifies = false → runtime.Still next) := by
  obtain ⟨connection, found, deliverable, live, rfl⟩ := wf.of_callback run
  have sound := wf.sound key connection found
  have member := (wf.linked key).mpr ⟨connection, found, live⟩
  obtain ⟨established, ⟨delivery, rfl⟩ | ⟨rfl, timer⟩⟩ :=
    (idle.quiet key connection found).deliverable sound deliverable
  · simp only [Callback.run, Frame.received, Callback.notifies, decide_eq_true_eq,
      decide_eq_false_iff_not, not_not]
    refine ⟨by split <;> rfl, fun something => ?_, fun nothing => ?_⟩
    · rw [if_pos something]
      exact budget_set_lt member found (Connection.budget_take something deliverable) rfl rfl
    · rw [if_neg (not_not_intro nothing)]
      exact .of_set found rfl rfl (Connection.gist_take nothing deliverable)
  · have more : connection.handles - 1 ≠ 0 := by
      simp [sound.handles, Connection.openHandles, established.tcp, timer]
    have closed : Callback.run ⟨key, connection, runtime⟩ .timerClosed =
        ⟨key,
          { connection with timer := .closed, handles := connection.handles - 1 }, runtime⟩ := by
      simp [Callback.run, Frame.connectionClosed, more]
    rw [closed]
    exact ⟨rfl, fun notifies => (by cases notifies), fun _ => .of_set found rfl rfl rfl⟩

/-! ### The readiness call -/

theorem ready_still (id : Int) : runtime.Still (runtime.call (.ready id) {}) := by
  rw [call_accepted rfl rfl]
  simp only [execute, checkReady, concluded, Call.awaits, Bool.and_false, Bool.false_eq_true,
    if_false]
  split
  · exact ⟨rfl, fun _ => rfl⟩
  · rename_i frame found
    obtain ⟨key, connection, rfl, -, get, -⟩ := findConnection_spec found
    exact .of_set (show runtime.connections[key]? = some connection from get) rfl rfl rfl

/-- What the caller of a readiness call is told. -/
theorem ready_last (id : Int) : ∃ record,
    (runtime.call (.ready id) {}).requests = runtime.requests ++ [record] ∧
      record.answers ≠ [] ∧ (record.answers = [0] → record.read = runtime.readable id) := by
  cases found : runtime.findConnection id with
  | some frame =>
      obtain ⟨key, connection, rfl, -⟩ := findConnection_spec found
      obtain ⟨record, requests, answers, read⟩ :=
        @ready_reports runtime id key connection {} rfl found
      exact ⟨record, requests, by simp [answers], fun _ => by simp [read, readable, found]⟩
  | none =>
      have missing : (runtime.newRequest (.ready id) {}).findConnection id = none := by
        rw [findConnection_eq] at found ⊢
        cases place : (runtime.newRequest (.ready id) {}).linked.find? fun key =>
            (runtime.newRequest (.ready id) {}).connections[key]?.map Connection.id = some id with
        | none => rfl
        | some key =>
            have first : (runtime.linked.find? fun key =>
                runtime.connections[key]?.map Connection.id = some id) = some key := place
            rw [first, Option.bind_some, Option.map_eq_none_iff] at found
            have named := List.find?_some first
            simp [found] at named
      rw [call_accepted rfl rfl]
      simp only [execute, checkReady, missing, concluded, Call.awaits, Bool.and_false,
        Bool.false_eq_true, if_false]
      have last : (runtime.newRequest (.ready id) {}).requests[runtime.requests.length]? =
          some { call := .ready id, events := [] } := by
        simp [newRequest, Call.events]
      rw [answer_of_open last rfl]
      refine ⟨{ call := .ready id, answers := [uvEbadf] }, ?_, by simp, by simp [uvEbadf]⟩
      simp [newRequest]

end Runtime

end Skyuv.Client
