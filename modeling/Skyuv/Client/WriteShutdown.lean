import Skyuv.Client.Ids

/-!
# The answers of write shutdowns

`start_shutdown` marks the write side as closed before it calls `uv_shutdown`, and
nothing takes the mark back.  The history of one connection shows what follows: a
write shutdown that fails leaves the mark, and later ones return 0.  As long as no
`uv_shutdown` fails, every answer is true.
-/

set_option autoImplicit false

namespace Skyuv.Client

open TransitionSystem
open Socket (uvEof uvEinval uvEnomem uvEcanceled)

/-! ## The history of a connection -/

/-- `issued` is a call of `uv_shutdown` with its result, `completed` its callback.
`returned` is the return of a call that shuts down the write direction; `marked`
says that the call has marked the connection. -/
inductive ShutEvent where
  | issued (result : Int)
  | completed (status : Int)
  | returned (result : Int) (marked : Bool)
  deriving DecidableEq, Repr

namespace ShutEvent

/-- Success is reported only after a `uv_shutdown` has completed with status 0, and
a call that reports an error has not marked the connection. -/
def Honest (before : List ShutEvent) : ShutEvent → Prop
  | returned result marked =>
      (result = 0 → completed 0 ∈ before) ∧ (result ≠ 0 → marked = false)
  | issued _ | completed _ => True

/-- `uv_shutdown` has not failed. -/
def Clean : ShutEvent → Prop
  | issued result => result = 0
  | completed status => status = 0
  | returned _ _ => True

end ShutEvent

namespace Runtime

/-- `write_closed` of the connection at `key`. -/
def writeClosedAt (runtime : Runtime) (key : Nat) : Bool :=
  runtime.connections[key]?.any Connection.writeClosed

/-- The live connection at `key` has the id. -/
def hasId (runtime : Runtime) (key : Nat) (id : Int) : Bool :=
  runtime.connections[key]?.any fun connection => connection.frees = 0 && connection.id = id

/-- What a step adds to the history of the connection at `key`.  The mark is set
right before `uv_shutdown` is called, and nowhere else. -/
def shutEvents (key : Nat) (runtime : Runtime) : Label → List ShutEvent
  | .call (.shutdown id read true) env =>
      if runtime.hasId key id then
        let next := runtime.call (.shutdown id read true) env
        let marked := next.writeClosedAt key && !runtime.writeClosedAt key
        let answers := (next.requests[runtime.requests.length]?.map Request.answers).getD []
        (if marked then [.issued env.shutdown] else []) ++ answers.map (.returned · marked)
      else []
  | .callback place (.shutdownDone status) =>
      if place = key then [.completed status, .returned status (runtime.writeClosedAt key)] else []
  | _ => []

end Runtime

/-! ## One step -/

namespace Registry

variable {registry next : Registry} {label : Label} {key : Nat} {after : Badge}

def writeClosedAt (registry : Registry) (key : Nat) : Bool :=
  registry.badges[key]?.any Badge.writeClosed

/-- A `uv_shutdown` of the connection at `key` has not completed. -/
def shuttingAt (registry : Registry) (key : Nat) : Bool :=
  registry.badges[key]?.any fun badge => badge.shutting.isSome

/-- The step leaves the write side of the connection at `key` alone. -/
structure SameSide (registry next : Registry) (key : Nat) : Prop where
  marked : next.writeClosedAt key = registry.writeClosedAt key
  shutting : next.shuttingAt key = registry.shuttingAt key

theorem SameSide.of_badges (badges : next.badges[key]? = registry.badges[key]?) :
    registry.SameSide next key := by
  constructor
  · rw [writeClosedAt, badges, writeClosedAt]
  · rw [shuttingAt, badges, shuttingAt]

/-- Another connection is changed, or another field. -/
theorem SameSide.set {place : Nat} {badge : Badge} (found : registry.badges[place]? = some badge)
    (badges : next.badges = registry.badges.set place after)
    (same : place = key → after.writeClosed = badge.writeClosed ∧ after.shutting = badge.shutting) :
    registry.SameSide next key := by
  by_cases own : place = key
  · subst own
    obtain ⟨marked, shutting⟩ := same rfl
    obtain ⟨bound, -⟩ := List.getElem?_eq_some_iff.mp found
    have get : next.badges[place]? = some after := by simp [badges, bound]
    constructor
    · simp [writeClosedAt, get, found, marked]
    · simp [shuttingAt, get, found, shutting]
  · exact .of_badges (by rw [badges, List.getElem?_set_ne own])

/-- A connection that has just been made is not marked. -/
theorem SameSide.of_new (missing : registry.badges[key]? = none)
    (badges : next.badges = registry.badges ++
      [{ id := registry.nextId + 1, creator := registry.slips.length,
         request := some registry.slips.length }]) : registry.SameSide next key := by
  cases get : next.badges[key]? with
  | none => exact .of_badges (get.trans missing.symm)
  | some found =>
      rw [badges] at get
      obtain older | ⟨-, rfl⟩ := Trace.concat_entry get
      · simp [missing] at older
      · rw [← badges] at get
        constructor
        · simp [writeClosedAt, get, missing]
        · simp [shuttingAt, get, missing]

/-- What a step does to the write side of the connection at `key`, with the events
that it adds to its history. -/
inductive Shuts (registry next : Registry) (key : Nat) : List ShutEvent → Prop where
  | silent (same : registry.SameSide next key) : Shuts registry next key []
  | replied (result : Int) (same : registry.SameSide next key)
      (done : result = 0 → registry.writeClosedAt key = true ∧ registry.shuttingAt key = false) :
      Shuts registry next key [.returned result false]
  | issued (marked : next.writeClosedAt key = true) (shutting : next.shuttingAt key = true) :
      Shuts registry next key [.issued 0]
  | failed (result : Int) (failure : result ≠ 0) :
      Shuts registry next key [.issued result, .returned result true]
  | completed (status : Int) (shutting : registry.shuttingAt key = true)
      (marked : next.writeClosedAt key = registry.writeClosedAt key)
      (ended : next.shuttingAt key = false) :
      Shuts registry next key
        [.completed status, .returned status (registry.writeClosedAt key)]

theorem writeClosedAt_of_found {badge : Badge} (found : registry.badges[key]? = some badge) :
    registry.writeClosedAt key = badge.writeClosed := by
  simp [writeClosedAt, found]

theorem shuttingAt_of_found {badge : Badge} (found : registry.badges[key]? = some badge) :
    registry.shuttingAt key = badge.shutting.isSome := by
  simp [shuttingAt, found]

theorem writeClosedAt_set {badge : Badge} {slips : List Slip} {nextId : Int}
    (found : registry.badges[key]? = some badge) :
    writeClosedAt ⟨registry.badges.set key after, slips, nextId⟩ key = after.writeClosed := by
  have bound := (List.getElem?_eq_some_iff.mp found).1
  simp [writeClosedAt, bound]

theorem shuttingAt_set {badge : Badge} {slips : List Slip} {nextId : Int}
    (found : registry.badges[key]? = some badge) :
    shuttingAt ⟨registry.badges.set key after, slips, nextId⟩ key = after.shutting.isSome := by
  have bound := (List.getElem?_eq_some_iff.mp found).1
  simp [shuttingAt, bound]

/-- A step that is no write shutdown and no callback of one. -/
theorem Step.sameSide (step : registry.Step label next)
    (call : ∀ id read env, label ≠ .call (.shutdown id read true) env)
    (callback : ∀ place status, label ≠ .callback place (.shutdownDone status)) (key : Nat) :
    registry.SameSide next key := by
  cases step with
  | answered => exact ⟨rfl, rfl⟩
  | kept => exact ⟨rfl, rfl⟩
  | launched =>
      by_cases inside : key < registry.badges.length
      · exact .of_badges (List.getElem?_append_left inside)
      · exact .of_new (List.getElem?_eq_none (Nat.le_of_not_lt inside)) rfl
  | closing _ finds => exact .set finds.found rfl fun _ => ⟨rfl, rfl⟩
  | writing _ finds => exact .set finds.found rfl fun _ => ⟨rfl, rfl⟩
  | shutting => exact absurd rfl (call _ _ _)
  | unshut => exact absurd rfl (call _ _ _)
  | granted awaits => exact .set awaits.found rfl fun _ => ⟨rfl, rfl⟩
  | failed _ awaits => exact .set awaits.found rfl fun _ => ⟨rfl, rfl⟩
  | closed _ awaits => exact .set awaits.found rfl fun _ => ⟨rfl, rfl⟩
  | written awaits => exact .set awaits.found rfl fun _ => ⟨rfl, rfl⟩
  | shut => exact absurd rfl (callback _ _)

theorem Numbered.finds_unique (numbered : registry.Numbered) {id : Int} {place : Nat}
    {badge found : Badge} (finds : registry.Finds id key badge)
    (other : registry.Finds id place found) : place = key ∧ found = badge := by
  have same := numbered.unique place key found badge other.found finds.found other.live finds.live
    (other.same.trans finds.same.symm)
  subst same
  exact ⟨rfl, Option.some.inj (other.found.symm.trans finds.found)⟩

/-- Only a command answers a call with 0. -/
theorem Reply.served {env : Env} {call : Call} (reply : registry.Reply env 0 call) :
    registry.Served 0 call := by
  unfold Reply at reply
  split at reply
  · exact absurd reply.symm ‹_›
  · split at reply
    · exact absurd reply.symm ‹_›
    · exact reply

/-- A write shutdown of the connection at `key`. -/
theorem Numbered.shutdown_shuts (numbered : registry.Numbered) {id : Int} {read : Bool}
    {env : Env} {badge : Badge} (finds : registry.Finds id key badge)
    (step : registry.Step (.call (.shutdown id read true) env) next) {marked : Bool}
    (flag : marked = (next.writeClosedAt key && !registry.writeClosedAt key)) :
    registry.Shuts next key ((if marked then [.issued env.shutdown] else []) ++
      ((next.slips[registry.slips.length]?.map Slip.answers).getD []).map
        (ShutEvent.returned · marked)) := by
  have before := writeClosedAt_of_found finds.found
  cases step with
  | @answered _ _ result idle reply =>
      have unmarked : marked = false := by
        rw [flag]
        exact Bool.and_not_self _
      rw [unmarked, List.getElem?_concat_length]
      refine .replied result ⟨rfl, rfl⟩ ?_
      rintro rfl
      obtain ⟨place, found, other, closed⟩ := reply.served.2 rfl rfl
      obtain ⟨rfl, rfl⟩ := numbered.finds_unique finds other
      refine ⟨before.trans closed, ?_⟩
      rw [shuttingAt_of_found finds.found, idle.shutting place found finds.found finds.live]
      rfl
  | shutting idle other unclosed issued =>
      obtain ⟨rfl, rfl⟩ := numbered.finds_unique finds other
      rw [before, unclosed, writeClosedAt_set finds.found] at flag
      rw [flag, List.getElem?_concat_length, issued]
      exact .issued (writeClosedAt_set finds.found) (shuttingAt_set finds.found)
  | unshut idle other unclosed failure =>
      obtain ⟨rfl, rfl⟩ := numbered.finds_unique finds other
      rw [before, unclosed, writeClosedAt_set finds.found] at flag
      rw [flag, List.getElem?_concat_length]
      exact .failed env.shutdown failure

/-- A write shutdown of another connection. -/
theorem Step.other_side {id : Int} {read : Bool} {env : Env}
    (step : registry.Step (.call (.shutdown id read true) env) next)
    (foreign : ∀ badge, ¬ registry.Finds id key badge) : registry.SameSide next key := by
  cases step with
  | answered => exact ⟨rfl, rfl⟩
  | shutting _ finds | unshut _ finds =>
      refine .set finds.found rfl fun own => ?_
      exact absurd (own ▸ finds) (foreign _)

/-- The callback of a `uv_shutdown`. -/
theorem Step.shutdownDone {place : Nat} {status : Int}
    (step : registry.Step (.callback place (.shutdownDone status)) next) (key : Nat) :
    registry.Shuts next key (if place = key then
      [.completed status, .returned status (registry.writeClosedAt key)] else []) := by
  cases step with
  | kept silent => exact absurd rfl (silent status)
  | failed silent => exact absurd rfl (silent status)
  | closed silent => exact absurd rfl (silent status)
  | shut awaits held =>
      by_cases own : place = key
      · subst own
        rw [if_pos rfl]
        refine .completed status ?_ ?_ (shuttingAt_set awaits.found)
        · rw [shuttingAt_of_found awaits.found, held]
          rfl
        · rw [writeClosedAt_set awaits.found, writeClosedAt_of_found awaits.found]
      · rw [if_neg own]
        exact .silent (.set awaits.found rfl fun same => absurd same own)

end Registry

section Bridge

variable {runtime next : Runtime} {label : Label}

theorem Runtime.writeClosedAt_eq (key : Nat) :
    runtime.writeClosedAt key = runtime.registry.writeClosedAt key := by
  simp only [Runtime.writeClosedAt, Registry.writeClosedAt, Runtime.registry, List.getElem?_map]
  cases runtime.connections[key]? <;> rfl

theorem Runtime.answers_eq (request : Nat) :
    runtime.requests[request]?.map Request.answers =
      runtime.registry.slips[request]?.map Slip.answers := by
  rw [Runtime.registry, List.getElem?_map, Option.map_map]
  rfl

theorem Runtime.hasId_iff {key : Nat} {id : Int} :
    runtime.hasId key id = true ↔ ∃ badge, runtime.registry.Finds id key badge := by
  constructor
  · intro has
    cases found : runtime.connections[key]? with
    | none => simp [hasId, found] at has
    | some connection =>
        simp only [hasId, found, Option.any_some, Bool.and_eq_true, decide_eq_true_eq] at has
        exact ⟨_, registry_found found, Connection.live_badge.mpr has.1, has.2⟩
  · rintro ⟨badge, finds⟩
    obtain ⟨connection, found, rfl⟩ := of_registry_found finds.found
    have live := Connection.live_badge.mp finds.live
    have same : connection.id = id := finds.same
    simp [hasId, found, live, same]

/-- The events of a step and what it does to the connection. -/
theorem shuts_of_step (reached : clientSystem.Reachable runtime)
    (run : clientSystem.step runtime label = some next) (key : Nat) :
    runtime.registry.Shuts next.registry key (runtime.shutEvents key label) := by
  have step := (wf_of_reachable reached).registry_step run
  by_cases call : ∃ id read env, label = .call (.shutdown id read true) env
  · obtain ⟨id, read, env, rfl⟩ := call
    obtain ⟨-, ⟨⟩⟩ := Option.ite_none_right_eq_some.mp run
    by_cases has : runtime.hasId key id = true
    · obtain ⟨badge, finds⟩ := Runtime.hasId_iff.mp has
      simp only [Runtime.shutEvents, has, if_true, Runtime.writeClosedAt_eq, Runtime.answers_eq,
        ← Runtime.registry_slips_length]
      exact (numbered_of_reachable reached).shutdown_shuts finds step rfl
    · simp only [Runtime.shutEvents, has, Bool.false_eq_true, if_false]
      refine .silent (step.other_side fun badge finds => has ?_)
      exact Runtime.hasId_iff.mpr ⟨badge, finds⟩
  · by_cases callback : ∃ place status, label = .callback place (.shutdownDone status)
    · obtain ⟨place, status, rfl⟩ := callback
      simp only [Runtime.shutEvents, Runtime.writeClosedAt_eq]
      exact step.shutdownDone key
    · have none : runtime.shutEvents key label = [] := by
        unfold Runtime.shutEvents
        split
        · exact absurd ⟨_, _, _, rfl⟩ call
        · exact absurd ⟨_, _, rfl⟩ callback
        · rfl
      rw [none]
      exact .silent (step.sameSide (fun id read env same => call ⟨id, read, env, same⟩)
        (fun place status same => callback ⟨place, status, same⟩) key)

end Bridge

/-! ## Whole histories -/

/-- What is known of the connection while no `uv_shutdown` has failed. -/
structure Unbroken (key : Nat) (history : List ShutEvent) (runtime : Runtime) : Prop where
  clean : ∀ event ∈ history, event.Clean
  honest : Trace.Always ShutEvent.Honest history
  marked : runtime.registry.writeClosedAt key = true →
    .completed 0 ∈ history ∨ runtime.registry.shuttingAt key = true
  shutting : runtime.registry.shuttingAt key = true → runtime.registry.writeClosedAt key = true

/-- A failed `uv_shutdown` shows in an answer at once. -/
def Tracked (key : Nat) (history : List ShutEvent) (runtime : Runtime) : Prop :=
  Unbroken key history runtime ∨
    (∃ event ∈ history, ¬ event.Clean) ∧ ¬ Trace.Always ShutEvent.Honest history

section Step

variable {key : Nat} {history events : List ShutEvent} {runtime next : Runtime}

/-- An answer that hides the failure of a `uv_shutdown` among the events. -/
theorem Tracked.broken {event : ShutEvent} {result : Int} (failure : result ≠ 0)
    (failed : ¬ event.Clean) :
    Tracked key (history ++ [event, .returned result true]) next := by
  refine .inr ⟨⟨event, by simp, failed⟩, fun honest => ?_⟩
  rw [List.append_cons] at honest
  exact absurd (honest.last.2 failure) (by simp)

theorem Unbroken.step (unbroken : Unbroken key history runtime)
    (shuts : runtime.registry.Shuts next.registry key events) :
    Tracked key (history ++ events) next := by
  have clean : ∀ {event : ShutEvent}, event.Clean → ∀ found ∈ history ++ [event], found.Clean := by
    intro event own found member
    rw [List.mem_append, List.mem_singleton] at member
    obtain older | rfl := member
    · exact unbroken.clean found older
    · exact own
  cases shuts with
  | silent same =>
      rw [List.append_nil]
      refine .inl ⟨unbroken.clean, unbroken.honest, ?_, ?_⟩
      · rw [same.marked, same.shutting]
        exact unbroken.marked
      · rw [same.marked, same.shutting]
        exact unbroken.shutting
  | replied result same done =>
      refine .inl ⟨clean trivial, unbroken.honest.concat ⟨fun zero => ?_, fun _ => rfl⟩, ?_, ?_⟩
      · obtain ⟨marked, ended⟩ := done zero
        rcases unbroken.marked marked with completed | pending
        · exact completed
        · simp [ended] at pending
      · rw [same.marked, same.shutting]
        intro marked
        exact (unbroken.marked marked).imp_left (List.mem_append_left _)
      · rw [same.marked, same.shutting]
        exact unbroken.shutting
  | issued marked shutting =>
      exact .inl ⟨clean rfl, unbroken.honest.concat trivial, fun _ => .inr shutting,
        fun _ => marked⟩
  | failed result failure => exact .broken failure failure
  | completed status shutting marked ended =>
      have was := unbroken.shutting shutting
      rw [was] at marked ⊢
      by_cases success : status = 0
      · subst success
        have completed : ShutEvent.completed 0 ∈ history ++ [ShutEvent.completed 0] := by simp
        have honest : Trace.Always ShutEvent.Honest (history ++ [ShutEvent.completed 0]) :=
          unbroken.honest.concat trivial
        have success : (ShutEvent.completed 0).Clean := rfl
        rw [List.append_cons]
        refine .inl ⟨?_, honest.concat ⟨fun _ => completed, ?_⟩, ?_, ?_⟩
        · intro found member
          rw [List.mem_append, List.mem_singleton] at member
          obtain older | rfl := member
          · exact clean success found older
          · trivial
        · intro failure
          exact absurd rfl failure
        · intro _
          exact .inl (List.mem_append_left _ completed)
        · intro pending
          simp [ended] at pending
      · exact .broken success success

theorem Tracked.step (tracked : Tracked key history runtime)
    (shuts : runtime.registry.Shuts next.registry key events) :
    Tracked key (history ++ events) next := by
  rcases tracked with unbroken | ⟨⟨event, member, failed⟩, broken⟩
  · exact unbroken.step shuts
  · exact .inr ⟨⟨event, List.mem_append_left _ member, failed⟩, fun honest => broken honest.left⟩

theorem Tracked.start : Tracked key [] {} := by
  refine .inl ⟨by simp, Trace.always_nil, ?_, ?_⟩
  · simp [Registry.writeClosedAt, Runtime.registry]
  · simp [Registry.shuttingAt, Runtime.registry]

end Step

/-- The answers of the write shutdowns of a connection are true exactly as long as
every `uv_shutdown` for it is accepted and completes with status 0. -/
theorem write_shutdown_truthful_iff (key : Nat) {labels : List Label} {final : Runtime}
    (run : clientSystem.exec {} labels = some final) :
    Trace.Always ShutEvent.Honest (clientSystem.outputs (Runtime.shutEvents key) {} labels) ↔
      ∀ event ∈ clientSystem.outputs (Runtime.shutEvents key) {} labels, event.Clean := by
  have always : clientSystem.Along (fun _ _ => True) {} labels :=
    .of_forall (fun _ _ => trivial) _ _
  have tracked :
      Tracked key ([] ++ clientSystem.outputs (Runtime.shutEvents key) {} labels) final :=
    System.exec_outputs (Runtime.shutEvents key) (Tracked key)
      (fun history state label next reached holds _ step =>
        holds.step (shuts_of_step reached step key))
      System.Reachable.start Tracked.start always run
  rw [List.nil_append] at tracked
  rcases tracked with unbroken | ⟨⟨event, member, failed⟩, broken⟩
  · exact ⟨fun _ => unbroken.clean, fun _ => unbroken.honest⟩
  · exact ⟨fun honest => absurd honest broken, fun clean => absurd (clean event member) failed⟩

/-- A write shutdown that succeeds and is repeated. -/
def shutRun : List Label :=
  [.call (.connect 80 (-1)) {}, .callback 0 (.connected 0 0),
    .call (.shutdown 1 false true) {}, .callback 0 (.shutdownDone 0),
    .call (.shutdown 1 true true) {}]

def shutState : Runtime := (clientSystem.exec {} shutRun).get (by decide)

theorem write_shutdown_truthful_repeated :
    clientSystem.outputs (Runtime.shutEvents 0) {} shutRun =
        [.issued 0, .completed 0, .returned 0 true, .returned 0 false] ∧
      Trace.Always ShutEvent.Honest (clientSystem.outputs (Runtime.shutEvents 0) {} shutRun) := by
  have events : clientSystem.outputs (Runtime.shutEvents 0) {} shutRun =
      [.issued 0, .completed 0, .returned 0 true, .returned 0 false] := by decide
  have run : clientSystem.exec {} shutRun = some shutState := (Option.some_get _).symm
  refine ⟨events, (write_shutdown_truthful_iff 0 run).mpr ?_⟩
  rw [events]
  simp [ShutEvent.Clean]

/-- `UV_ENOTCONN`: the peer has gone before the shutdown is carried out. -/
def uvEnotconn : Int := -107

def unshutRun : List Label :=
  [.call (.connect 80 (-1)) {}, .callback 0 (.connected 0 0),
    .call (.shutdown 1 false true) {}, .callback 0 (.shutdownDone uvEnotconn),
    .call (.shutdown 1 false true) {}, .call (.send 1 1) {}]

def unshutState : Runtime := (clientSystem.exec {} unshutRun).get (by decide)

/-- The failed shutdown is reported, the next one returns 0 although none has
completed with status 0, and a send is refused. -/
theorem write_shutdown_untruthful :
    unshutState.requests.map Request.answers = [[0], [uvEnotconn], [0], [uvEpipe]] ∧
      clientSystem.outputs (Runtime.shutEvents 0) {} unshutRun =
        [.issued 0, .completed uvEnotconn, .returned uvEnotconn true, .returned 0 false] ∧
      ¬ Trace.Always ShutEvent.Honest
        (clientSystem.outputs (Runtime.shutEvents 0) {} unshutRun) := by
  have events : clientSystem.outputs (Runtime.shutEvents 0) {} unshutRun =
      [.issued 0, .completed uvEnotconn, .returned uvEnotconn true, .returned 0 false] := by decide
  refine ⟨by decide, events, fun honest => ?_⟩
  rw [events] at honest
  have first := honest [.issued 0, .completed uvEnotconn] (.returned uvEnotconn true)
    [.returned 0 false] rfl
  exact absurd (first.2 (by decide)) (by decide)

end Skyuv.Client
