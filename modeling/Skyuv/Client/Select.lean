import Skyuv.Client.Readiness

/-!
# Select and its wakeups

`select_socket` against the I/O thread, at the grain of critical sections.  The
loop reads the revision, asks for the readiness of every listed connection, and
sleeps only if the revision is still the one it read.  A read callback changes the
connection first and notifies in a later step; both threads can be anywhere in
between.  The condition variable is the one of the command hand-off too, and it
may wake without a reason.

The revision is a 64-bit counter.  It cannot come round during one pass, because
the budget of all connections together is less than that.
-/

set_option autoImplicit false

namespace Skyuv.Client

open TransitionSystem

/-! ## The two threads -/

namespace Select

/-- The two tables, and whether `seconds ≥ 0`. -/
structure Args where
  reads : Option (List Int)
  writes : Option (List Int)
  timed : Bool
  deriving DecidableEq, Repr

/-- One `skyuv_client_runtime_ready` of `ready_table`. -/
structure Query where
  id : Int
  writing : Bool
  deriving DecidableEq, Repr

/-- The queries of `ready_table`; negative ids are passed over. -/
def readyTable (ids : List Int) (writing : Bool) : List Query :=
  (ids.filter fun id => 0 ≤ id).map fun id => ⟨id, writing⟩

def Args.queries (args : Args) : List Query :=
  readyTable (args.reads.getD []) false ++ readyTable (args.writes.getD []) true

/-- The ids that are watched for reading. -/
def Args.listed (args : Args) : List Int := (args.reads.getD []).filter fun id => 0 ≤ id

/-- Where the caller is in `select_socket`.  `calling` is inside
`skyuv_client_runtime_call`, with `asleep` while it is in `uv_cond_wait`; `waiting`
is before the critical section of `skyuv_client_runtime_wait` and `blocked` in its
`uv_cond_wait`. -/
inductive Caller where
  | outside
  | top (args : Args)
  | checking (args : Args) (revision : Nat) (rest : List Query) (ready : Nat)
  | calling (args : Args) (revision : Nat) (query : Query) (rest : List Query) (ready : Nat)
      (asleep : Bool)
  | waiting (args : Args) (revision : Nat)
  | blocked (args : Args) (revision : Nat)
  deriving DecidableEq, Repr

/-- The I/O thread between two critical sections: `notifying` has changed a
connection and not run `notify` yet, `replying` has run a command and not cleared
`pending` yet. -/
inductive Io where
  | idle
  | notifying
  | replying
  deriving DecidableEq, Repr

/-- `notified` counts the runs of `notify`; no function reads it. -/
structure Threads where
  runtime : Runtime := {}
  io : Io := .idle
  pending : Bool := false
  caller : Caller := .outside
  notified : Nat := 0
  deriving DecidableEq, Repr

/-- What a signal or a broadcast does to the caller. -/
def Caller.wake : Caller → Caller
  | calling args revision query rest ready _ => calling args revision query rest ready false
  | blocked args _ => top args
  | caller => caller

/-- `ready_table` after a call: an error leaves the loop. -/
def Threads.replied (threads : Threads) (args : Args) (revision : Nat) (query : Query)
    (rest : List Query) (ready : Nat) : Caller :=
  match threads.runtime.requests.getLast? with
  | none => .outside
  | some record =>
      if record.answers ≠ [0] then .outside
      else if if query.writing then record.writeEnabled else record.read then
        .checking args revision rest (ready + 1)
      else .checking args revision rest ready

/-- The end of a pass. -/
def Args.decide (args : Args) (revision ready : Nat) (expired : Bool) : Caller :=
  if ready ≠ 0 then .outside
  else if args.queries.isEmpty && !args.timed then .outside
  else if args.timed && expired then .outside
  else .waiting args revision

/-- The next critical section of `select_socket`; a sleeper has none. -/
def Threads.selectSocket (threads : Threads) (expired : Bool) : Option Threads :=
  match threads.caller with
  | .outside | .blocked _ _ | .calling _ _ _ _ _ true => none
  | .top args =>
      some { threads with
        caller := .checking args threads.runtime.revision args.queries 0 }
  | .checking args revision [] ready =>
      some { threads with caller := args.decide revision ready expired }
  | .checking args revision (query :: rest) ready =>
      -- the mutex is held from `pending = 1` to the wait
      some { threads with pending := true, caller := .calling args revision query rest ready true }
  | .calling args revision query rest ready false =>
      if threads.pending then
        some { threads with caller := .calling args revision query rest ready true }
      else some { threads with caller := threads.replied args revision query rest ready }
  | .waiting args revision =>
      if threads.runtime.revision = revision then
        some { threads with caller := .blocked args revision }
      else some { threads with caller := .top args }

/-- A callback without its `notify`, which is a step of its own. -/
def Threads.callback (threads : Threads) (key : Nat) (callback : Callback) : Option Threads :=
  if threads.io = .idle then
    (threads.runtime.callback key callback).map fun next =>
      { threads with
        runtime := { next with revision := threads.runtime.revision }
        io := if callback.notifies then .notifying else .idle }
  else none

def Threads.notify (threads : Threads) : Option Threads :=
  if threads.io = .notifying then
    some { threads with
      runtime := threads.runtime.notify
      io := .idle
      caller := threads.caller.wake
      notified := threads.notified + 1 }
  else none

/-- `execute` up to the result of the command. -/
def Threads.execute (threads : Threads) : Option Threads :=
  match threads.caller with
  | .calling _ _ query _ _ _ =>
      if threads.io = .idle ∧ threads.pending then
        some { threads with
          runtime := threads.runtime.call (.ready query.id) {}
          io := .replying }
      else none
  | _ => none

/-- The rest of `execute`. -/
def Threads.reply (threads : Threads) : Option Threads :=
  if threads.io = .replying then
    some { threads with pending := false, io := .idle, caller := threads.caller.wake }
  else none

/-- `call` is any call outside select.  `raise` is an error out of `ready_table`
before its call is under way, `wake` a timeout or a spurious wakeup. -/
inductive Label where
  | call (call : Call) (env : Env)
  | enter (args : Args)
  | advance (expired : Bool)
  | raise
  | wake
  | callback (key : Nat) (callback : Callback)
  | notify
  | execute
  | reply
  deriving DecidableEq, Repr

def Threads.move (threads : Threads) : Label → Option Threads
  | .call call env =>
      if threads.caller = .outside ∧ threads.io = .idle ∧ threads.runtime.accepts env then
        some { threads with runtime := threads.runtime.call call env }
      else none
  | .enter args =>
      if threads.caller = .outside ∧ threads.runtime.idle then
        some { threads with caller := .top args }
      else none
  | .advance expired => threads.selectSocket expired
  | .raise =>
      match threads.caller with
      | .checking _ _ _ _ => some { threads with caller := .outside }
      | _ => none
  | .wake => some { threads with caller := threads.caller.wake }
  | .callback key callback => threads.callback key callback
  | .notify => threads.notify
  | .execute => threads.execute
  | .reply => threads.reply

/-- The allocated connections lie side by side in an address space of 2^64 bytes. -/
def Threads.fits (threads : Threads) : Bool :=
  threads.runtime.linked.length * connectionSize ≤ 2 ^ 64

def step (threads : Threads) (label : Label) : Option Threads :=
  (threads.move label).filter Threads.fits

def selectSystem : System Threads Label where
  init := {}
  step := step

/-! ## The invariant -/

namespace Threads

variable {before after threads next : Threads} {since revision ready : Nat} {args : Args}
  {query : Query} {rest : List Query}

/-- The runtime once a pending `notify` has run. -/
def settled (threads : Threads) : Runtime :=
  if threads.io = .notifying then threads.runtime.notify else threads.runtime

/-- A `notify` that is still to come. -/
def due (threads : Threads) : Nat := if threads.io = .notifying then 1 else 0

/-- If the connection can be read, that has been notified since, or soon will be. -/
def Seen (threads : Threads) (since : Nat) (id : Int) : Prop :=
  threads.runtime.readable id = true → since < threads.notified + threads.due

/-- The revision was read after `since` notifications, and cannot have come round. -/
structure Pass (threads : Threads) (since revision : Nat) : Prop where
  read : revision = since % 2 ^ 64
  early : since ≤ threads.notified
  budget : threads.notified + threads.due + threads.runtime.budget < since + 2 ^ 64

def Checked (threads : Threads) (since : Nat) (args : Args) (rest : List Query) : Prop :=
  ∀ query ∈ args.queries, query.writing = false → query ∈ rest ∨ threads.Seen since query.id

/-- The answer to the query is there. -/
def Replied (threads : Threads) (since : Nat) (query : Query) : Prop :=
  ∃ record, threads.runtime.requests.getLast? = some record ∧
    (record.answers = [0] → record.read = false → threads.Seen since query.id)

def Phase (threads : Threads) : Caller → Prop
  | .outside | .top _ => True
  | .checking args revision rest ready =>
      ∃ since, threads.Pass since revision ∧ (ready = 0 → threads.Checked since args rest)
  | .calling args revision query rest ready _ =>
      ∃ since, threads.Pass since revision ∧
        (ready = 0 → threads.Checked since args (query :: rest)) ∧
        (threads.pending = true ∧ threads.io ≠ .replying ∨ threads.Replied since query)
  | .waiting args revision =>
      ∃ since, threads.Pass since revision ∧ threads.Checked since args []
  | .blocked args _ => threads.Checked threads.notified args []

structure Inv (threads : Threads) : Prop where
  fits : threads.fits = true
  reached : clientSystem.Reachable threads.settled
  revision : threads.runtime.revision = threads.notified % 2 ^ 64
  idle : threads.caller ≠ .outside → threads.runtime.idle = true
  handoff : threads.io = .replying → threads.pending = true ∧
    ∃ args revision query rest ready asleep,
      threads.caller = .calling args revision query rest ready asleep
  phase : threads.Phase threads.caller

theorem Inv.wf (inv : threads.Inv) : threads.runtime.Wf := by
  have wf := wf_of_reachable inv.reached
  unfold settled at wf
  split at wf
  · exact wf.of_revision
  · exact wf

/-! ### What carries over to a later state -/

structure Later (before after : Threads) : Prop where
  notified : before.notified ≤ after.notified
  budget : after.notified + after.due + after.runtime.budget ≤
    before.notified + before.due + before.runtime.budget
  seen : ∀ since id, since ≤ before.notified → before.Seen since id → after.Seen since id

theorem Later.pass (later : before.Later after) (pass : before.Pass since revision) :
    after.Pass since revision where
  read := pass.read
  early := pass.early.trans later.notified
  budget := later.budget.trans_lt pass.budget

theorem Later.checked (later : before.Later after) (early : since ≤ before.notified)
    (checked : before.Checked since args rest) : after.Checked since args rest := by
  intro query member reading
  rcases checked query member reading with rest | seen
  · exact .inl rest
  · exact .inr (later.seen since query.id early seen)

theorem Later.replied (later : before.Later after) (early : since ≤ before.notified)
    (requests : after.runtime.requests = before.runtime.requests)
    (replied : before.Replied since query) : after.Replied since query := by
  obtain ⟨record, last, judged⟩ := replied
  exact ⟨record, by rw [requests]; exact last,
    fun answers silent => later.seen since query.id early (judged answers silent)⟩

/-- A step that leaves the caller where it is. -/
theorem Phase.later {caller : Caller} (phase : before.Phase caller) (later : before.Later after)
    (requests : after.runtime.requests = before.runtime.requests)
    (pending : before.pending = true ∧ before.io ≠ .replying →
      after.pending = true ∧ after.io ≠ .replying)
    (awake : after.notified = before.notified ∨ ∀ args revision, caller ≠ .blocked args revision) :
    after.Phase caller := by
  cases caller with
  | outside => trivial
  | top args => trivial
  | checking args revision rest ready =>
      obtain ⟨since, pass, checked⟩ := phase
      exact ⟨since, later.pass pass, fun none => later.checked pass.early (checked none)⟩
  | calling args revision query rest ready asleep =>
      obtain ⟨since, pass, checked, answer⟩ := phase
      refine ⟨since, later.pass pass, fun none => later.checked pass.early (checked none), ?_⟩
      exact answer.imp pending (later.replied pass.early requests)
  | waiting args revision =>
      obtain ⟨since, pass, checked⟩ := phase
      exact ⟨since, later.pass pass, later.checked pass.early checked⟩
  | blocked args revision =>
      rcases awake with same | awake
      · have checked : before.Checked before.notified args [] := phase
        show after.Checked after.notified args []
        rw [same]
        exact later.checked le_rfl checked
      · exact absurd rfl (awake args revision)

theorem Phase.wake {caller : Caller} (phase : threads.Phase caller) :
    threads.Phase caller.wake := by
  cases caller with
  | blocked args revision => trivial
  | outside => trivial
  | top args => trivial
  | checking args revision rest ready => exact phase
  | calling args revision query rest ready asleep => exact phase
  | waiting args revision => exact phase

theorem Later.of_still (still : before.runtime.Still after.runtime)
    (notified : after.notified = before.notified) (due : after.due = before.due) :
    before.Later after where
  notified := notified.ge
  budget := by rw [notified, due, still.budget]
  seen := by
    intro since id _ seen readable
    rw [notified, due]
    exact seen (still.readable id ▸ readable)

theorem Later.of_same (runtime : after.runtime = before.runtime)
    (notified : after.notified = before.notified) (due : after.due = before.due) :
    before.Later after :=
  .of_still (by rw [runtime]; exact ⟨rfl, fun _ => rfl⟩) notified due

/-- A change that brings a notification with it, made or due. -/
theorem Later.of_lt (notified : before.notified ≤ after.notified)
    (more : before.notified < after.notified + after.due)
    (budget : after.notified + after.due + after.runtime.budget ≤
      before.notified + before.due + before.runtime.budget) : before.Later after where
  notified := notified
  budget := budget
  seen := fun _ _ early _ _ => early.trans_lt more

/-! ### The steps -/

theorem due_of_ne (quiet : threads.io ≠ .notifying) : threads.due = 0 := if_neg quiet

theorem settled_of_ne (quiet : threads.io ≠ .notifying) : threads.settled = threads.runtime :=
  if_neg quiet

/-- The start of a pass. -/
theorem Inv.pass (inv : threads.Inv) : threads.Pass threads.notified threads.runtime.revision where
  read := inv.revision
  early := le_rfl
  budget := by
    have fits := inv.fits
    rw [Threads.fits, decide_eq_true_eq] at fits
    have room := Runtime.budget_lt fits
    unfold due
    split <;> omega

/-- The revision tells whether anything was notified since it was read. -/
theorem Pass.eq_iff (pass : threads.Pass since revision)
    (current : threads.runtime.revision = threads.notified % 2 ^ 64) :
    threads.runtime.revision = revision ↔ threads.notified = since := by
  obtain ⟨read, early, budget⟩ := pass
  rw [current, read]
  constructor
  · intro same
    omega
  · intro same
    rw [same]

theorem replied_phase (pass : threads.Pass since revision)
    (checked : ready = 0 → threads.Checked since args (query :: rest))
    (answer : threads.Replied since query) :
    threads.Phase (threads.replied args revision query rest ready) := by
  obtain ⟨record, last, judged⟩ := answer
  unfold replied
  simp only [last]
  by_cases answers : record.answers = [0]
  · rw [if_neg (not_not_intro answers)]
    by_cases hit : (if query.writing then record.writeEnabled else record.read) = true
    · rw [if_pos hit]
      exact ⟨since, pass, fun none => by omega⟩
    · rw [if_neg hit]
      refine ⟨since, pass, fun none other member reading => ?_⟩
      rcases checked none other member reading with listed | seen
      · rcases List.mem_cons.mp listed with rfl | later
        · have silent : record.read = false := by simpa [reading] using hit
          exact .inr (judged answers silent)
        · exact .inl later
      · exact .inr seen
  · rw [if_pos answers]
    trivial

theorem decide_phase (expired : Bool) (pass : threads.Pass since revision)
    (checked : ready = 0 → threads.Checked since args []) :
    threads.Phase (args.decide revision ready expired) := by
  unfold Args.decide
  split
  · trivial
  · rename_i none
    split
    · trivial
    · split
      · trivial
      · exact ⟨since, pass, checked (by omega)⟩

theorem checked_queries (threads : Threads) (since : Nat) (args : Args) :
    threads.Checked since args args.queries :=
  fun _ member _ => .inl member

/-- The caller moves on. -/
theorem Inv.place (inv : threads.Inv) {caller : Caller} {pending : Bool}
    (inside : threads.caller ≠ .outside)
    (handoff : threads.io = .replying → pending = true ∧
      ∃ args revision query rest ready asleep,
        caller = .calling args revision query rest ready asleep)
    (phase : Phase { threads with caller := caller, pending := pending } caller) :
    Inv { threads with caller := caller, pending := pending } where
  fits := inv.fits
  reached := inv.reached
  revision := inv.revision
  idle := fun _ => inv.idle inside
  handoff := handoff
  phase := phase

theorem Inv.not_replying (inv : threads.Inv)
    (elsewhere : ∀ args revision query rest ready asleep,
      threads.caller ≠ .calling args revision query rest ready asleep) :
    threads.io ≠ .replying := by
  intro replying
  obtain ⟨-, args, revision, query, rest, ready, asleep, place⟩ := inv.handoff replying
  exact elsewhere args revision query rest ready asleep place

theorem Inv.selectSocket (inv : threads.Inv) {expired : Bool}
    (run : threads.selectSocket expired = some next) : next.Inv := by
  have later : ∀ caller pending,
      threads.Later { threads with caller := caller, pending := pending } :=
    fun _ _ => .of_same rfl rfl rfl
  have phase := inv.phase
  unfold Threads.selectSocket at run
  cases place : threads.caller with
  | outside => simp [place] at run
  | blocked args revision => simp [place] at run
  | top args =>
      simp only [place, Option.some.injEq] at run
      subst run
      have quiet := inv.not_replying (by simp [place])
      refine inv.place (by simp [place]) (fun replying => absurd replying quiet) ?_
      exact ⟨threads.notified, (later _ _).pass inv.pass, fun _ => checked_queries _ _ args⟩
  | checking args revision rest ready =>
      rw [place] at phase
      obtain ⟨since, pass, checked⟩ := phase
      have quiet := inv.not_replying (by simp [place])
      cases rest with
      | nil =>
          simp only [place, Option.some.injEq] at run
          subst run
          refine inv.place (by simp [place]) (fun replying => absurd replying quiet) ?_
          exact decide_phase expired ((later _ _).pass pass)
            fun none => (later _ _).checked pass.early (checked none)
      | cons query rest =>
          simp only [place, Option.some.injEq] at run
          subst run
          refine inv.place (by simp [place]) (fun replying => absurd replying quiet) ?_
          exact ⟨since, (later _ _).pass pass,
            fun none => (later _ _).checked pass.early (checked none), .inl ⟨rfl, quiet⟩⟩
  | calling args revision query rest ready asleep =>
      rw [place] at phase
      cases asleep with
      | true => simp [place] at run
      | false =>
          simp only [place] at run
          by_cases pending : threads.pending = true
          · rw [if_pos pending, Option.some.injEq] at run
            subst run
            exact inv.place (by simp [place]) (fun _ => ⟨pending, _, _, _, _, _, _, rfl⟩)
              (phase.later (later _ _) rfl id (.inl rfl))
          · rw [if_neg pending, Option.some.injEq] at run
            subst run
            have quiet : threads.io ≠ .replying := fun replying => pending (inv.handoff replying).1
            obtain ⟨since, pass, checked, answer⟩ := phase
            refine inv.place (by simp [place]) (fun replying => absurd replying quiet) ?_
            rcases answer with ⟨waiting, -⟩ | answer
            · exact absurd waiting pending
            · exact replied_phase ((later _ _).pass pass)
                (fun none => (later _ _).checked pass.early (checked none))
                ((later _ _).replied pass.early rfl answer)
  | waiting args revision =>
      rw [place] at phase
      obtain ⟨since, pass, checked⟩ := phase
      have quiet := inv.not_replying (by simp [place])
      simp only [place] at run
      split at run
      · rename_i same
        -- the revision is the one that was read, so nothing was notified in between
        have current := (pass.eq_iff inv.revision).mp same
        cases run
        refine inv.place (by simp [place]) (fun replying => absurd replying quiet) ?_
        exact (later _ _).checked le_rfl (current ▸ checked)
      · cases run
        exact inv.place (by simp [place]) (fun replying => absurd replying quiet) trivial

theorem Inv.callback (inv : threads.Inv) {key : Nat} {callback : Callback}
    (run : threads.callback key callback = some next) (fits : next.fits = true) : next.Inv := by
  have wf := inv.wf
  obtain ⟨free, run⟩ := Option.ite_none_right_eq_some.mp run
  obtain ⟨after, made, rfl⟩ := Option.map_eq_some_iff.mp run
  have revision := wf.revision_callback made
  have quiet : threads.io ≠ .notifying := by simp [free]
  have reached := (settled_of_ne quiet ▸ inv.reached).next
    (show clientSystem.step threads.runtime (.callback key callback) = some after from made)
  refine ⟨fits, ?_, inv.revision, ?_, ?_, ?_⟩
  · -- the callback and its notification together are one step of the client
    cases notifies : callback.notifies with
    | true =>
        rw [notifies, if_pos rfl] at revision
        simp only [settled, if_true, Runtime.notify, ← revision]
        exact reached
    | false =>
        rw [notifies, if_neg Bool.false_ne_true] at revision
        simp only [settled, Bool.false_eq_true, if_false, reduceCtorEq, ← revision]
        exact reached
  · intro inside
    have idle := inv.idle inside
    obtain ⟨requests, -⟩ := wf.idle_callback (wf.idle idle) made
    simpa [Runtime.idle, requests] using idle
  · intro replying
    simp only at replying
    split at replying <;> cases replying
  · by_cases outside : threads.caller = .outside
    · simp only [outside]
      trivial
    · obtain ⟨requests, spent, still⟩ :=
        wf.idle_callback (wf.idle (inv.idle outside)) made
      refine inv.phase.later ?_ requests (fun waits => ⟨waits.1, ?_⟩) (.inl rfl)
      · have due := due_of_ne quiet
        cases notifies : callback.notifies with
        | true =>
            have less : after.budget < threads.runtime.budget := spent notifies
            refine .of_lt le_rfl ?_ ?_
            · simp [Threads.due]
            · simp only [Threads.due, if_true] at due ⊢
              change threads.notified + 1 + after.budget ≤ _
              omega
        | false =>
            obtain ⟨linked, gist⟩ := still notifies
            exact .of_still ⟨linked, gist⟩ rfl (by simp [Threads.due, quiet])
      · dsimp only
        split <;> simp

theorem Inv.notify (inv : threads.Inv) (run : threads.notify = some next) : next.Inv := by
  obtain ⟨notifying, ⟨⟩⟩ := Option.ite_none_right_eq_some.mp run
  have reached := inv.reached
  rw [settled, if_pos notifying] at reached
  refine ⟨inv.fits, ?_, ?_, ?_, by simp, ?_⟩
  · rw [settled_of_ne (by simp)]
    exact reached
  · simp only [Runtime.notify, inv.revision]
    omega
  · intro inside
    exact inv.idle fun outside => inside (by simp [outside, Caller.wake])
  · refine inv.phase.wake.later ?_ rfl (fun waits => ⟨waits.1, by simp⟩) (.inr ?_)
    · refine .of_lt (Nat.le_succ _) ?_ ?_
      · simp only
        omega
      · simp only [due, notifying, if_true]
        exact le_rfl
    · cases threads.caller <;> simp [Caller.wake]

theorem Inv.execute (inv : threads.Inv) (run : threads.execute = some next)
    (fits : next.fits = true) : next.Inv := by
  unfold Threads.execute at run
  split at run
  · rename_i args revision query rest ready asleep place
    obtain ⟨⟨free, pending⟩, ⟨⟩⟩ := Option.ite_none_right_eq_some.mp run
    have quiet : threads.io ≠ .notifying := by simp [free]
    have idle := inv.idle (by simp [place])
    obtain ⟨record, requests, answered, read⟩ := @Runtime.ready_last threads.runtime query.id
    have still := @Runtime.ready_still threads.runtime query.id
    have accepts : threads.runtime.accepts {} = true := by
      simp [Runtime.accepts, idle, uvEagain]
    have reached := (settled_of_ne quiet ▸ inv.reached).next
      (show clientSystem.step threads.runtime (.call (.ready query.id) {}) = some _ from
        if_pos accepts)
    refine ⟨fits, ?_, ?_, fun _ => ?_, fun _ => ⟨pending, _, _, _, _, _, _, place⟩, ?_⟩
    · rw [settled_of_ne (by simp)]
      exact reached
    · exact (Runtime.revision_call (.ready query.id) {}).trans inv.revision
    · simp only [Runtime.idle, requests, List.all_append, Bool.and_eq_true]
      exact ⟨idle, by simpa using answered⟩
    · have phase := inv.phase
      rw [place] at phase
      obtain ⟨since, pass, checked, -⟩ := phase
      have later : threads.Later { threads with
          runtime := threads.runtime.call (.ready query.id) {}, io := .replying } :=
        .of_still still rfl (by simp [due, free])
      refine (congrArg (Phase _) place).mpr ?_
      refine ⟨since, later.pass pass, fun none => later.checked pass.early (checked none), .inr ?_⟩
      refine ⟨record, by simp [requests], fun answers silent readable => ?_⟩
      rw [still.readable, ← read answers, silent] at readable
      cases readable
  · cases run

theorem Inv.reply (inv : threads.Inv) (run : threads.reply = some next) : next.Inv := by
  obtain ⟨replying, ⟨⟩⟩ := Option.ite_none_right_eq_some.mp run
  obtain ⟨-, args, revision, query, rest, ready, asleep, place⟩ := inv.handoff replying
  have quiet : threads.io ≠ .notifying := by simp [replying]
  have phase := inv.phase
  rw [place] at phase
  obtain ⟨since, pass, checked, answer⟩ := phase
  have later : threads.Later { threads with
      pending := false, io := .idle, caller := threads.caller.wake } :=
    .of_same rfl rfl (by simp [due, replying])
  refine ⟨inv.fits, ?_, inv.revision, fun _ => inv.idle (by simp [place]), by simp, ?_⟩
  · rw [settled_of_ne (by simp)]
    exact settled_of_ne quiet ▸ inv.reached
  · have answer : threads.Replied since query := answer.resolve_left fun waits => waits.2 replying
    simp only [place, Caller.wake] at later ⊢
    exact ⟨since, later.pass pass, fun none => later.checked pass.early (checked none),
      .inr (later.replied pass.early rfl answer)⟩

theorem Inv.wake (inv : threads.Inv) : Inv { threads with caller := threads.caller.wake } where
  fits := inv.fits
  reached := inv.reached
  revision := inv.revision
  idle := fun inside => inv.idle fun outside => inside (by simp [outside, Caller.wake])
  handoff := by
    intro replying
    obtain ⟨pending, args, revision, query, rest, ready, asleep, place⟩ := inv.handoff replying
    exact ⟨pending, args, revision, query, rest, ready, false, by simp [place, Caller.wake]⟩
  phase := inv.phase.wake.later (.of_same rfl rfl rfl) rfl id (.inl rfl)

theorem Inv.step (inv : threads.Inv) {label : Label}
    (run : Select.step threads label = some next) : next.Inv := by
  obtain ⟨run, fits⟩ := Option.filter_eq_some_iff.mp run
  cases label with
  | call call env =>
      obtain ⟨⟨outside, free, accepts⟩, ⟨⟩⟩ := Option.ite_none_right_eq_some.mp run
      have quiet : threads.io ≠ .notifying := by simp [free]
      have reached := (settled_of_ne quiet ▸ inv.reached).next
        (show clientSystem.step threads.runtime (.call call env) = some _ from if_pos accepts)
      have same : settled { threads with runtime := threads.runtime.call call env } =
          threads.runtime.call call env := settled_of_ne quiet
      refine ⟨fits, by rw [same]; exact reached, ?_,
        fun inside => absurd outside inside, by simp [free], ?_⟩
      · exact (Runtime.revision_call call env).trans inv.revision
      · simp only [outside]
        trivial
  | enter args =>
      obtain ⟨⟨outside, idle⟩, ⟨⟩⟩ := Option.ite_none_right_eq_some.mp run
      have quiet := inv.not_replying (by simp [outside])
      exact ⟨fits, inv.reached, inv.revision, fun _ => idle,
        fun replying => absurd replying quiet, trivial⟩
  | advance expired => exact inv.selectSocket run
  | raise =>
      simp only [move] at run
      split at run
      · rename_i place
        cases run
        have quiet := inv.not_replying (by simp [place])
        exact ⟨fits, inv.reached, inv.revision, fun inside => absurd rfl inside,
          fun replying => absurd replying quiet, trivial⟩
      · cases run
  | wake =>
      cases run
      exact inv.wake
  | callback key callback => exact inv.callback run fits
  | notify => exact inv.notify run
  | execute => exact inv.execute run fits
  | reply => exact inv.reply run

theorem inv_init : Inv {} where
  fits := by decide
  reached := .start
  revision := rfl
  idle := fun inside => absurd rfl inside
  handoff := by simp
  phase := trivial

theorem inv_of_reachable (reached : selectSystem.Reachable threads) : threads.Inv :=
  reached.invariant Inv inv_init fun _ _ _ inv run => Inv.step inv run

/-- The client system and the two threads agree: what the runtime will be once a
pending `notify` has run is a state of the client. -/
theorem settled_reachable (reached : selectSystem.Reachable threads) :
    clientSystem.Reachable threads.settled :=
  (inv_of_reachable reached).reached

theorem Checked.seen (checked : threads.Checked since args []) {id : Int}
    (listed : id ∈ args.listed) : threads.Seen since id := by
  have member : (⟨id, false⟩ : Query) ∈ args.queries :=
    List.mem_append_left _ (List.mem_map_of_mem listed)
  exact (checked ⟨id, false⟩ member rfl).resolve_left List.not_mem_nil

end Threads

/-- No wakeup is lost.  The caller never sleeps in `skyuv_client_runtime_wait` on a
readable connection with no `notify` to come; if a connection is readable and
notified when the wait begins, the wait returns at once; and a `notify` ends the
sleep. -/
theorem select_no_lost_wakeup {threads : Threads} (reached : selectSystem.Reachable threads) :
    (∀ args revision, threads.caller = .blocked args revision → threads.io ≠ .notifying →
      ∀ id ∈ args.listed, threads.runtime.readable id = false) ∧
    (∀ args revision, threads.caller = .waiting args revision → threads.io ≠ .notifying →
      ∀ id ∈ args.listed, threads.runtime.readable id = true → ∀ expired,
        ∃ next, step threads (.advance expired) = some next ∧ next.caller = .top args) ∧
    (∀ args revision, threads.caller = .blocked args revision → threads.io = .notifying →
      ∃ next, step threads .notify = some next ∧ next.caller = .top args) := by
  have inv := Threads.inv_of_reachable reached
  have phase := inv.phase
  refine ⟨?_, ?_, ?_⟩
  · intro args revision place quiet id listed
    rw [place] at phase
    have seen := Threads.Checked.seen phase listed
    rw [Threads.Seen, Threads.due_of_ne quiet] at seen
    simpa using seen
  · intro args revision place quiet id listed readable expired
    rw [place] at phase
    obtain ⟨since, pass, checked⟩ := phase
    have later := checked.seen listed readable
    rw [Threads.due_of_ne quiet] at later
    have moved : threads.runtime.revision ≠ revision := by
      intro same
      have := (pass.eq_iff inv.revision).mp same
      omega
    refine ⟨{ threads with caller := .top args }, Option.filter_eq_some_iff.mpr ⟨?_, inv.fits⟩, rfl⟩
    simp [Threads.move, Threads.selectSocket, place, moved]
  · intro args revision place notifying
    refine ⟨_, Option.filter_eq_some_iff.mpr ⟨if_pos notifying, inv.fits⟩, ?_⟩
    simp [place, Caller.wake]

/-- A connection is opened, select finds it unreadable and goes to sleep, and data
arrives. -/
def sleepRun : List Label :=
  [.call (.connect 80 (-1)) {}, .callback 0 (.connected 0 0), .enter ⟨some [1], none, false⟩,
    .advance false, .advance false, .execute, .reply, .advance false, .advance false,
    .advance false]

def sleepState : Threads := (selectSystem.exec {} sleepRun).get (by decide)

theorem select_no_lost_wakeup_sleeping :
    sleepState.caller = .blocked ⟨some [1], none, false⟩ 0 ∧ sleepState.io = .idle ∧
      sleepState.runtime.readable 1 = false :=
  ⟨by decide, by decide,
    (select_no_lost_wakeup ⟨sleepRun, (Option.some_get _).symm⟩).1 ⟨some [1], none, false⟩ 0
      (by decide) (by decide) 1 (by decide)⟩

theorem settled_reachable_sleeping : clientSystem.Reachable sleepState.settled :=
  Threads.settled_reachable ⟨sleepRun, (Option.some_get _).symm⟩

end Select

end Skyuv.Client
