import Mathlib.Data.List.Induction
import Skyuv.Platform.PidFile

/-!
# The PID variables are set together

Whatever fails, `guard_fd`, `pid_fd`, `pid_path` and `owns_pid` are set together or
not at all when no call is in progress, a failed acquire leaves them as they were,
no descriptor is lost or closed twice, and only a file that the process owns is
unlinked.
-/

set_option autoImplicit false

namespace Skyuv.Platform

open TransitionSystem

/-! ## The path -/

namespace Process

/-- `guard_fd`, `pid_fd`, `pid_path` and `owns_pid`. -/
def globals (process : Process) : Option Nat × Option Nat × Bool × Bool :=
  (process.guardFd, process.pidFd, process.pidPath, process.ownsPid)

/-- When `pid_path` is allocated. -/
def Pathed (process : Process) : Prop :=
  process.pidPath =
    match process.place with
    | .idle => process.ownsPid
    | .closeGuard => false
    | _ => true

/-- All variables are set. -/
structure Complete (process : Process) : Prop where
  guardFd : process.guardFd ≠ none
  pidFd : process.pidFd ≠ none
  pidPath : process.pidPath = true
  ownsPid : process.ownsPid = true

/-- All variables are reset. -/
def Vacant (process : Process) : Prop := process.globals = (none, none, false, false)

variable {process : Process} {pid : Nat} {world : World} {outcome : Outcome}
  {result : Process × World}

theorem Pathed.busy (pathed : process.Pathed) (busy : process.place ≠ .idle)
    (early : process.place ≠ .closeGuard) : process.pidPath = true := by
  unfold Pathed at pathed
  split at pathed
  · rename_i idle
    exact absurd idle busy
  · rename_i last
    exact absurd last early
  · exact pathed

theorem pathed_busy (busy : process.place ≠ .idle) (early : process.place ≠ .closeGuard)
    (path : process.pidPath = true) : process.Pathed := by
  unfold Pathed
  split
  · rename_i idle
    exact absurd idle busy
  · rename_i last
    exact absurd last early
  · exact path

theorem pathed_finish (process : Process) : process.finish.Pathed := by
  unfold Pathed finish
  cases process.guardFd <;> rfl

theorem pathed_release (path : process.pidFd.isSome = true → process.pidPath = true) :
    process.release.Pathed := by
  unfold release
  split
  · rename_i attached
    cases process.ownsPid
    · exact path attached
    · exact path attached
  · exact pathed_finish _

theorem pathed_own (path : process.pidPath = true) : process.own.Pathed := by
  unfold own
  cases process.exitRegistered
  · exact path
  · exact path

theorem Pathed.moves (pathed : process.Pathed) (shape : process.Shape)
    (moves : process.Moves pid world outcome result) : result.1.Pathed := by
  cases moves with
  | opens place made => exact pathed.busy (by simp [place]) (by simp [place])
  | unopened place | abandons place =>
      exact pathed_release fun _ => pathed.busy (by simp [place]) (by simp [place])
  | checks place destination =>
      have path : process.pidPath = true := by
        rcases place with place | place | place <;>
          exact pathed.busy (by simp [place]) (by simp [place])
      rcases destination with rfl | rfl | rfl <;> exact path
  | @locks _ role _ _ place taken =>
      have path := pathed.busy (by simp [place]) (by simp [place])
      cases role
      · exact path
      · exact path
  | waits place => exact pathed
  | fails pidFd place =>
      refine pathed_release fun _ => pathed.busy ?_ ?_
      · intro idle
        simp [idle, Place.working] at place
      · intro last
        simp [last, Place.working] at place
  | reads pidFd place =>
      have path := pathed.busy (by simp [place]) (by simp [place])
      unfold judge
      split
      · exact pathed_own path
      · exact path
  | owns pidFd place => exact pathed_own (pathed.busy (by simp [place]) (by simp [place]))
  | registers pidFd place | syncs pidFd place =>
      have path := pathed.busy (by simp [place]) (by simp [place])
      have flags := flags_eq shape (by rw [place]; rfl)
      exact path.trans (congrArg (fun flags => flags.2.2) flags).symm
  | truncates pidFd place | seeks pidFd place | stats pidFd place | finds pidFd place
  | unlinks pidFd place => exact pathed.busy (by simp [place]) (by simp [place])
  | writes pidFd place room =>
      have path := pathed.busy (by simp [place]) (by simp [place])
      refine pathed_busy ?_ ?_ path
      · dsimp only
        split <;> simp
      · dsimp only
        split <;> simp
  | spares pidFd place =>
      rcases place with place | place | place <;>
        exact pathed.busy (by simp [place]) (by simp [place])
  | closesPid pidFd place => exact pathed_finish _
  | closesGuard guardFd place =>
      have flags := flags_eq shape (by rw [place]; rfl)
      have owns : process.ownsPid = false := congrArg (fun flags => flags.2.2) flags
      unfold Pathed at pathed ⊢
      simp only [place] at pathed
      exact pathed.trans owns.symm

/-- Between two calls. -/
theorem Pathed.idle (pathed : process.Pathed) (shape : process.Shape)
    (idle : process.place = .idle) : process.Complete ∨ process.Vacant := by
  have flags := shape.flags
  unfold Pathed at pathed
  simp only [idle] at pathed
  simp only [idle, Place.flags, Process.flags, List.mem_cons, Prod.mk.injEq, List.not_mem_nil,
    or_false, Option.isSome_eq_false_iff, Option.isNone_iff_eq_none] at flags
  rcases flags with ⟨guardFd, pidFd, owns⟩ | ⟨guardFd, pidFd, owns⟩
  · right
    unfold Vacant globals
    rw [guardFd, pidFd, pathed, owns]
  · left
    exact ⟨Option.isSome_iff_ne_none.mp guardFd, Option.isSome_iff_ne_none.mp pidFd,
      pathed.trans owns, owns⟩

theorem Pathed.start_release (pathed : process.Pathed) (shape : process.Shape)
    (idle : process.place = .idle) : process.release.Pathed := by
  refine pathed_release fun attached => ?_
  rcases pathed.idle shape idle with complete | vacant
  · exact complete.pidPath
  · have pidFd : process.pidFd = none := congrArg (fun all => all.2.1) vacant
    simp [pidFd] at attached

theorem Pathed.start_acquire (pathed : process.Pathed) (shape : process.Shape)
    (idle : process.place = .idle) (valid memory : Bool) :
    (process.acquire valid memory).Pathed := by
  unfold acquire
  split
  · exact pathed
  · split
    · exact pathed.start_release shape idle
    · exact rfl

theorem Pathed.start_publish (pathed : process.Pathed) (shape : process.Shape)
    (idle : process.place = .idle) : (process.publish pid).Pathed := by
  unfold publish
  split
  · exact pathed
  · rename_i allowed
    split
    · exact pathed.start_release shape idle
    · simp only [Bool.or_eq_true, not_or, Bool.not_eq_true, Bool.not_eq_false'] at allowed
      unfold Pathed at pathed ⊢
      simp only [idle] at pathed
      exact pathed.trans allowed.2

end Process

/-! ## Steps of the system, seen from one process -/

/-- What a step does to one process. -/
inductive State.Sees (pid : Nat) (state : State) : Label → Process → Prop where
  | other {label : Label} (foreign : label.actor ≠ some pid) :
      Sees pid state label (state.processes pid)
  | acquire {valid memory : Bool} (idle : (state.processes pid).place = .idle) :
      Sees pid state (.acquire pid valid memory) ((state.processes pid).acquire valid memory)
  | publish (idle : (state.processes pid).place = .idle) :
      Sees pid state (.publish pid) ((state.processes pid).publish pid)
  | release (idle : (state.processes pid).place = .idle) :
      Sees pid state (.release pid) (state.processes pid).release
  | system {outcome : Outcome} {result : Process × World}
      (made : state.world.systemCall pid (state.processes pid) outcome = some result) :
      Sees pid state (.system pid outcome) result.1
  | crash : Sees pid state (.crash pid) {}

namespace State

variable {state next : State} {label : Label}

theorem start_sees {actor : Nat} {begin : Process → Process}
    (run : state.start actor begin = some next) (pid : Nat) :
    (actor ≠ pid ∧ next.processes pid = state.processes pid) ∨
      (actor = pid ∧ (state.processes pid).place = .idle ∧
        next.processes pid = begin (state.processes pid)) := by
  obtain ⟨idle, ⟨⟩⟩ := Option.ite_none_right_eq_some.mp run
  by_cases same : actor = pid
  · subst same
    exact .inr ⟨rfl, idle, Function.update_self ..⟩
  · exact .inl ⟨same, Function.update_of_ne (fun equal => same equal.symm) ..⟩

theorem sees (run : step state label = some next) (pid : Nat) :
    state.Sees pid label (next.processes pid) := by
  have foreign {actor : Nat} (distinct : actor ≠ pid) (named : label.actor = some actor) :
      label.actor ≠ some pid := by
    intro same
    exact distinct (Option.some.inj (named.symm.trans same))
  cases label with
  | acquire actor valid memory =>
      simp only [step] at run
      rcases start_sees run pid with ⟨distinct, same⟩ | ⟨rfl, idle, same⟩
      · rw [same]
        exact .other (foreign distinct rfl)
      · rw [same]
        exact .acquire idle
  | publish actor =>
      simp only [step] at run
      rcases start_sees run pid with ⟨distinct, same⟩ | ⟨rfl, idle, same⟩
      · rw [same]
        exact .other (foreign distinct rfl)
      · rw [same]
        exact .publish idle
  | release actor =>
      simp only [step] at run
      rcases start_sees run pid with ⟨distinct, same⟩ | ⟨rfl, idle, same⟩
      · rw [same]
        exact .other (foreign distinct rfl)
      · rw [same]
        exact .release idle
  | system actor outcome =>
      obtain ⟨result, made, rfl⟩ := Option.map_eq_some_iff.mp run
      by_cases same : actor = pid
      · subst same
        simpa [set] using Sees.system made
      · simpa [set, Function.update_of_ne (fun equal => same equal.symm)] using
          Sees.other (foreign same rfl)
  | crash actor =>
      cases run
      by_cases same : actor = pid
      · subst same
        simpa [State.crash, set] using Sees.crash
      · simpa [State.crash, set, Function.update_of_ne (fun equal => same equal.symm)] using
          Sees.other (foreign same rfl)
  | outside outsider =>
      obtain ⟨disk, made, rfl⟩ := Option.map_eq_some_iff.mp run
      exact .other (by simp [Label.actor])

theorem pathed_of_reachable {disk : Disk} (reached : (pidSystem disk).Reachable state) (pid : Nat) :
    (state.processes pid).Pathed := by
  refine (reached.invariant (fun state => state.Inv ∧ (state.processes pid).Pathed)
    ⟨inv_of_reachable .start, rfl⟩ ?_).2
  rintro state label next ⟨inv, pathed⟩ run
  refine ⟨Inv.step inv run, ?_⟩
  have seen := sees run pid
  generalize next.processes pid = process at seen ⊢
  cases seen with
  | other foreign => exact pathed
  | acquire idle => exact pathed.start_acquire (inv pid).shape idle _ _
  | publish idle => exact pathed.start_publish (inv pid).shape idle
  | release idle => exact pathed.start_release (inv pid).shape idle
  | system made => exact pathed.moves (inv pid).shape (systemCall_moves made)
  | crash => exact rfl

end State

/-! ## A failed acquire -/

/-- What a call returns that ends with this system call; `idle` stands for a call
without system calls, and the result of `skyuv_pid_release` is `void`. -/
def Place.result : Place → Nat
  | .read | .probe _ | .register | .sync => 0
  | _ => 1

/-- The rest of a call of the process, in which others go on.  `last` is the last
system call the process has made in it, and `final` the last one of all. -/
inductive Returns (pid : Nat) : State → Place → State → Place → Prop where
  | done {state : State} {last : Place} (idle : (state.processes pid).place = .idle) :
      Returns pid state last state last
  | other {state next after : State} {last final : Place} {label : Label}
      (busy : (state.processes pid).place ≠ .idle) (foreign : label.actor ≠ some pid)
      (run : step state label = some next) (rest : Returns pid next last after final) :
      Returns pid state last after final
  | system {state next after : State} {last final : Place} {outcome : Outcome}
      (busy : (state.processes pid).place ≠ .idle)
      (run : step state (.system pid outcome) = some next)
      (rest : Returns pid next (state.processes pid).place after final) :
      Returns pid state last after final

/-- A whole call of `skyuv_pid_acquire`. -/
def Acquires (pid : Nat) (before : State) (result : Nat) (after : State) : Prop :=
  ∃ valid memory entered final, step before (.acquire pid valid memory) = some entered ∧
    Returns pid entered .idle after final ∧ result = final.result

namespace Process

variable {process : Process} {pid : Nat} {world : World} {outcome : Outcome}
  {result : Process × World}

theorem release_idle (process : Process) (idle : process.release.place = .idle) :
    process.release.ownsPid = false := by
  unfold release at idle ⊢
  split
  · rename_i attached
    rw [if_pos attached] at idle
    cases owns : process.ownsPid <;> simp [owns] at idle
  · rfl

/-- A call that ends and returns 1 leaves no PID file behind. -/
theorem Moves.foreign (moves : process.Moves pid world outcome result) (shape : process.Shape)
    (idle : result.1.place = .idle) (failed : process.place.result ≠ 0) :
    result.1.ownsPid = false := by
  cases moves with
  | opens place made => cases idle
  | unopened place => exact release_idle process idle
  | checks place destination => rcases destination with rfl | rfl | rfl <;> cases idle
  | @locks _ role _ _ place taken => cases role <;> cases idle
  | abandons place => exact release_idle process idle
  | waits place =>
      rw [idle] at place
      cases place
  | fails pidFd place => exact release_idle process idle
  | reads pidFd place => exact absurd (by rw [place]; rfl) failed
  | owns pidFd place => exact absurd (by rw [place]; rfl) failed
  | registers pidFd place => exact absurd (by rw [place]; rfl) failed
  | truncates pidFd place => cases idle
  | seeks pidFd place => cases idle
  | writes pidFd place room =>
      dsimp only at idle
      split at idle <;> cases idle
  | syncs pidFd place => exact absurd (by rw [place]; rfl) failed
  | stats pidFd place => cases idle
  | finds pidFd place named => cases idle
  | spares pidFd place => cases idle
  | unlinks pidFd place => cases idle
  | closesPid pidFd place => rfl
  | closesGuard guardFd place =>
      exact congrArg (fun flags => flags.2.2) (flags_eq shape (by rw [place]; rfl))

end Process

namespace State

variable {disk : Disk} {state : State} {pid : Nat}

theorem reachable_next {next : State} {label : Label} (reached : (pidSystem disk).Reachable state)
    (run : step state label = some next) : (pidSystem disk).Reachable next := reached.next run

theorem complete_or_vacant (reached : (pidSystem disk).Reachable state)
    (idle : (state.processes pid).place = .idle) :
    (state.processes pid).Complete ∨ (state.processes pid).Vacant :=
  (pathed_of_reachable reached pid).idle (inv_of_reachable reached pid).shape idle

theorem vacant_of_foreign (reached : (pidSystem disk).Reachable state)
    (idle : (state.processes pid).place = .idle) (foreign : (state.processes pid).ownsPid = false) :
    (state.processes pid).Vacant := by
  rcases complete_or_vacant reached idle with complete | vacant
  · cases foreign.symm.trans complete.ownsPid
  · exact vacant

end State

theorem State.sees_other {state next : State} {label : Label} {pid : Nat}
    (foreign : label.actor ≠ some pid) (run : step state label = some next) :
    next.processes pid = state.processes pid := by
  have seen := State.sees run pid
  generalize next.processes pid = process at seen ⊢
  cases seen with
  | other foreign => rfl
  | _ => exact absurd rfl foreign

theorem State.sees_system {state next : State} {outcome : Outcome} {pid : Nat}
    (run : step state (.system pid outcome) = some next) :
    (state.processes pid).Moves pid state.world outcome (next.processes pid, next.world) := by
  obtain ⟨result, made, rfl⟩ := Option.map_eq_some_iff.mp run
  simpa [State.set] using systemCall_moves made

/-- A call that has made a system call and returns 1 ends with nothing held. -/
theorem Returns.vacant {disk : Disk} {state after : State} {pid : Nat} {last final : Place}
    (returns : Returns pid state last after final) (reached : (pidSystem disk).Reachable state)
    (known : (state.processes pid).place = .idle → last.result ≠ 0 →
      (state.processes pid).ownsPid = false)
    (failed : final.result ≠ 0) : (after.processes pid).Vacant := by
  induction returns with
  | done idle => exact State.vacant_of_foreign reached idle (known idle failed)
  | @other state next after last final label busy foreign run rest ih =>
      refine ih (State.reachable_next reached run) (fun idle => ?_) failed
      rw [State.sees_other foreign run] at idle
      exact absurd idle busy
  | @system state next after last final outcome busy run rest ih =>
      refine ih (State.reachable_next reached run) (fun idle wrong => ?_) failed
      exact (State.sees_system run).foreign (State.inv_of_reachable reached pid).shape idle wrong

/-- `skyuv_pid_acquire` refuses at once if there is something to lose. -/
theorem Process.Complete.acquire {process : Process} (complete : process.Complete)
    (valid memory : Bool) : process.acquire valid memory = process := by
  unfold Process.acquire
  rw [if_pos]
  simp [Option.isSome_iff_ne_none, complete.pidFd]

theorem Process.Vacant.acquire {process : Process} (vacant : process.Vacant) (valid memory : Bool)
    (ended : (process.acquire valid memory).place = .idle) :
    (process.acquire valid memory).Vacant := by
  simp only [Process.Vacant, Process.globals, Prod.mk.injEq] at vacant
  obtain ⟨guardFd, pidFd, path, owns⟩ := vacant
  unfold Process.acquire at ended ⊢
  cases valid <;> cases memory <;>
    simp_all [Process.Vacant, Process.globals, Process.release, Process.finish]

theorem Acquires.keeps {disk : Disk} {before after : State} {pid result : Nat}
    (acquires : Acquires pid before result after) (reached : (pidSystem disk).Reachable before)
    (failed : result ≠ 0) :
    (after.processes pid).globals = (before.processes pid).globals := by
  obtain ⟨valid, memory, entered, final, run, returns, rfl⟩ := acquires
  have start := run
  simp only [step] at start
  obtain ⟨other, -⟩ | ⟨-, idle, entering⟩ := State.start_sees start pid
  · exact absurd rfl other
  rcases State.complete_or_vacant reached idle with complete | vacant
  · rw [complete.acquire] at entering
    cases returns with
    | done => rw [entering]
    | other busy => exact absurd (entering ▸ idle) busy
    | system busy => exact absurd (entering ▸ idle) busy
  · have onward := State.reachable_next reached run
    have ends : (after.processes pid).Vacant := by
      refine returns.vacant onward (fun ended _ => ?_) failed
      rw [entering] at ended ⊢
      have empty := vacant.acquire valid memory ended
      exact congrArg (fun all => all.2.2.2) empty
    exact ends.trans vacant.symm

/-! ## Descriptors -/

/-- What happens to the descriptors that are opened for a role. -/
inductive DescriptorEvent where
  | opened (inode : Nat)
  | closed (inode : Nat)
  deriving DecidableEq, Repr

/-- The calls of `open` and `close` that succeed, read off the system call. -/
def Process.descriptorEvents (process : Process) (disk : Disk) (role : Role) (outcome : Outcome) :
    List DescriptorEvent :=
  match process.place with
  | .open place =>
      if place = role ∧ outcome = .ok then
        ((disk.openFile role).map fun result => DescriptorEvent.opened result.1).toList
      else []
  | .abandon place fd => if place = role then [.closed fd] else []
  | .closePid => if role = .pid then (process.pidFd.map .closed).toList else []
  | .closeGuard => if role = .guard then (process.guardFd.map .closed).toList else []
  | _ => []

def descriptorEvents (pid : Nat) (role : Role) (state : State) : Label → List DescriptorEvent
  | .system actor outcome =>
      if actor = pid then (state.processes pid).descriptorEvents state.world.disk role outcome
      else []
  | _ => []

namespace Process

/-- `guard_fd` and `pid_fd`. -/
def variableOf (process : Process) : Role → Option Nat
  | .guard => process.guardFd
  | .pid => process.pidFd

/-- The descriptor that is open for a role; in `lock_file` it is not in its variable yet. -/
def holds (process : Process) (role : Role) : Option Nat :=
  match process.place with
  | .stat place fd | .cloexec place fd | .lock place fd | .abandon place fd =>
      if place = role then some fd else process.variableOf role
  | _ => process.variableOf role

end Process

/-- Everything that was opened has been closed, once, and after it was opened, except
for what is held. -/
def Settled (history : List DescriptorEvent) (held : Option Nat) : Prop :=
  ∃ past : List Nat, history =
    past.flatMap (fun inode => [.opened inode, .closed inode]) ++ (held.map .opened).toList

theorem Settled.opens {history : List DescriptorEvent} (settled : Settled history none)
    (inode : Nat) : Settled (history ++ [.opened inode]) (some inode) := by
  obtain ⟨past, rfl⟩ := settled
  exact ⟨past, by simp⟩

theorem Settled.closes {history : List DescriptorEvent} {inode : Nat}
    (settled : Settled history (some inode)) : Settled (history ++ [.closed inode]) none := by
  obtain ⟨past, rfl⟩ := settled
  exact ⟨past ++ [inode], by simp⟩

/-- A system call that neither opens nor closes. -/
theorem Settled.still {history events : List DescriptorEvent} {held after : Option Nat}
    (settled : Settled history held) (silent : events = []) (same : after = held) :
    Settled (history ++ events) after := by
  rw [silent, List.append_nil, same]
  exact settled

namespace Process

variable {process : Process} {pid : Nat} {world : World} {role : Role} {outcome : Outcome}
  {result : Process × World} {history : List DescriptorEvent}

theorem variableOf_release (process : Process) (role : Role) :
    process.release.variableOf role = process.variableOf role := by
  obtain ⟨guardFd, pidFd, -⟩ := release_fields process
  cases role
  · exact guardFd
  · exact pidFd

theorem holds_release (process : Process) (role : Role) :
    process.release.holds role = process.variableOf role := by
  rw [← variableOf_release]
  unfold holds
  rcases release_place process with place | place | place | place <;> rw [place]

theorem holds_idle (idle : process.place = .idle) (role : Role) :
    process.holds role = process.variableOf role := by
  unfold holds
  rw [idle]

theorem holds_own (process : Process) (role : Role) :
    process.own.holds role = process.variableOf role := by
  unfold holds own
  cases process.exitRegistered <;> cases role <;> rfl

theorem holds_working (working : process.place.working = true) (role : Role) :
    process.holds role = process.variableOf role := by
  unfold holds
  cases place : process.place <;> simp_all [Place.working]

theorem silent_working (working : process.place.working = true) (disk : Disk) :
    process.descriptorEvents disk role outcome = [] := by
  unfold descriptorEvents
  cases place : process.place <;> simp_all [Place.working]

/-- Inside `lock_file` the variable is not set yet. -/
theorem Shape.unset (shape : process.Shape)
    (place : process.place = .open role ∨ ∃ fd, process.place = .abandon role fd) :
    process.variableOf role = none := by
  cases role with
  | guard =>
      refine (shape.empty ?_).1
      rcases place with place | ⟨fd, place⟩ <;> rw [place] <;> rfl
  | pid =>
      refine (shape.guarded ?_).2.1
      rcases place with place | ⟨fd, place⟩ <;> rw [place] <;> rfl

/-- A system call on the file itself. -/
theorem settled_working {after : Process} (settled : Settled history (process.holds role))
    (working : process.place.working = true) (kept : after.holds role = process.variableOf role) :
    Settled (history ++ process.descriptorEvents world.disk role outcome) (after.holds role) :=
  settled.still (silent_working working _) (by rw [holds_working working, kept])

theorem settled_closing (fd : Nat) (settled : Settled history (process.holds role))
    (held : process.holds role = some fd)
    (event : process.descriptorEvents world.disk role outcome = [.closed fd]) :
    Settled (history ++ process.descriptorEvents world.disk role outcome) none := by
  rw [held] at settled
  rw [event]
  exact settled.closes

theorem Moves.settles (moves : process.Moves pid world outcome result) (shape : process.Shape)
    (settled : Settled history (process.holds role)) :
    Settled (history ++ process.descriptorEvents world.disk role outcome)
      (result.1.holds role) := by
  cases moves with
  | @opens opening opened place made =>
      by_cases same : opening = role
      · subst same
        have empty : process.holds opening = none := by
          simp only [holds, place]
          exact shape.unset (.inl place)
        have event : process.descriptorEvents world.disk opening .ok = [.opened opened.1] := by
          simp [descriptorEvents, place, made]
        rw [empty] at settled
        rw [event]
        simpa [holds] using settled.opens opened.1
      · refine settled.still ?_ ?_
        · simp [descriptorEvents, place, same]
        · simp only [holds, place, if_neg same]
          cases role <;> rfl
  | unopened place =>
      refine settled.still ?_ ?_
      · simp [descriptorEvents, place]
      · rw [holds_release]
        simp only [holds, place]
  | checks place destination =>
      refine settled.still ?_ ?_
      · rcases place with place | place | place <;> simp [descriptorEvents, place]
      · rcases place with place | place | place <;> rcases destination with rfl | rfl | rfl <;>
          cases role <;> simp only [holds, place, variableOf]
  | @locks outcome opening fd locks place taken =>
      refine settled.still ?_ ?_
      · simp [descriptorEvents, place]
      · cases opening <;> cases role <;> simp [holds, place, locked, variableOf]
  | @abandons outcome opening fd place =>
      by_cases same : opening = role
      · subst same
        rw [holds_release, shape.unset (.inr ⟨fd, place⟩)]
        exact settled_closing fd settled (by simp [holds, place])
          (by simp [descriptorEvents, place])
      · refine settled.still ?_ ?_
        · simp [descriptorEvents, place, same]
        · rw [holds_release]
          simp [holds, place, same]
  | waits place => exact settled.still (silent_working place _) rfl
  | fails pidFd place => exact settled_working settled place (holds_release _ _)
  | reads pidFd place =>
      refine settled_working settled (by rw [place]; rfl) ?_
      unfold judge
      split
      · rw [holds_own]
        cases role <;> rfl
      · cases role <;> rfl
  | owns pidFd place => exact settled_working settled (by rw [place]; rfl) (holds_own _ _)
  | registers pidFd place | truncates pidFd place | seeks pidFd place | syncs pidFd place =>
      refine settled_working settled (by rw [place]; rfl) ?_
      cases role <;> rfl
  | @writes _ fd offset count pidFd place room =>
      refine settled_working settled (by rw [place]; rfl) ?_
      unfold holds
      dsimp only
      by_cases last : offset + count = (pidText pid).length
      · rw [if_pos last]
        cases role <;> rfl
      · rw [if_neg last]
        cases role <;> rfl
  | stats pidFd place | finds pidFd place | unlinks pidFd place =>
      refine settled.still ?_ ?_
      · simp [descriptorEvents, place]
      · cases role <;> simp [holds, place, variableOf]
  | spares pidFd place =>
      refine settled.still ?_ ?_
      · rcases place with place | place | place <;> simp [descriptorEvents, place]
      · rcases place with place | place | place <;> cases role <;> simp [holds, place, variableOf]
  | @closesPid outcome fd pidFd place =>
      have kept : ∀ role, ({ process with pidFd := none }.finish).holds role =
          { process with pidFd := none }.variableOf role := by
        intro role
        unfold holds finish
        cases process.guardFd <;> cases role <;> rfl
      rw [kept]
      cases role with
      | guard =>
          exact settled.still (by simp [descriptorEvents, place])
            (by simp [holds, place, variableOf])
      | pid =>
          exact settled_closing fd settled (by simp [holds, place, variableOf, pidFd])
            (by simp [descriptorEvents, place, pidFd])
  | @closesGuard outcome fd guardFd place =>
      cases role with
      | guard =>
          exact settled_closing fd settled (by simp [holds, place, variableOf, guardFd])
            (by simp [descriptorEvents, place, guardFd])
      | pid =>
          exact settled.still (by simp [descriptorEvents, place])
            (by simp [holds, place, variableOf])

end Process

theorem settled_step {pid : Nat} {role : Role} {state next : State} {label : Label}
    {history : List DescriptorEvent} (shape : (state.processes pid).Shape)
    (settled : Settled history ((state.processes pid).holds role)) (alive : label ≠ .crash pid)
    (run : step state label = some next) :
    Settled (history ++ descriptorEvents pid role state label)
      ((next.processes pid).holds role) := by
  have seen := State.sees run pid
  generalize next.processes pid = process at seen ⊢
  cases seen with
  | other foreign =>
      refine settled.still ?_ rfl
      cases label with
      | system actor outcome =>
          have distinct : actor ≠ pid := fun same => foreign (congrArg some same)
          simp [descriptorEvents, distinct]
      | _ => rfl
  | @acquire valid memory idle =>
      refine settled.still rfl ?_
      rw [Process.holds_idle idle]
      unfold Process.acquire
      split
      · exact Process.holds_idle idle role
      · split
        · exact Process.holds_release ..
        · cases role <;> rfl
  | publish idle =>
      refine settled.still rfl ?_
      rw [Process.holds_idle idle]
      unfold Process.publish
      split
      · exact Process.holds_idle idle role
      · split
        · exact Process.holds_release ..
        · cases role <;> rfl
  | release idle =>
      refine settled.still rfl ?_
      rw [Process.holds_idle idle, Process.holds_release]
  | system made =>
      rw [descriptorEvents, if_pos rfl]
      exact (systemCall_moves made).settles shape settled
  | crash => exact absurd rfl alive

/-- In a run in which the process is not killed. -/
theorem settled_run {disk : Disk} {labels : List Label} {state : State}
    (run : (pidSystem disk).exec (pidSystem disk).init labels = some state) {pid : Nat}
    (alive : .crash pid ∉ labels) (role : Role) :
    Settled ((pidSystem disk).outputs (descriptorEvents pid role) (pidSystem disk).init labels)
      ((state.processes pid).holds role) := by
  have along : (pidSystem disk).Along (fun _ label => label ≠ .crash pid) (pidSystem disk).init
      labels := by
    refine System.Along.of_mem fun label member _ same => ?_
    exact alive (same ▸ member)
  rw [← List.nil_append ((pidSystem disk).outputs ..)]
  refine System.exec_outputs (descriptorEvents pid role)
    (fun told state => Settled told ((state.processes pid).holds role)) ?_ .start ?_ along run
  · intro told state label next reached settled living step
    exact settled_step (State.inv_of_reachable reached pid).shape settled living step
  · exact ⟨[], by cases role <;> rfl⟩

/-! ## The PID file -/

/-- The process has found with `lstat` that the path names its descriptor, and then
only the system calls `after` of others have been made. -/
structure Confirmed (disk : Disk) (labels : List Label) (state : State) (pid fd : Nat)
    (before after : List Label) (checked : State) : Prop where
  history : labels = before ++ .system pid .ok :: after
  run : (pidSystem disk).exec (pidSystem disk).init before = some checked
  place : (checked.processes pid).place = .current
  pidFd : (checked.processes pid).pidFd = some fd
  named : checked.world.disk.path = some fd
  foreign : ∀ label ∈ after, label.actor ≠ some pid
  still : (∀ label ∈ after, label.actor ≠ none) → state.world.disk.path = some fd

theorem State.path_step {disk : Disk} {state next : State} {label : Label} {pid : Nat}
    (reached : (pidSystem disk).Reachable state) (held : (state.processes pid).guardFd ≠ none)
    (foreign : label.actor ≠ some pid) (inside : label.actor ≠ none)
    (run : step state label = some next) : next.world.disk.path = state.world.disk.path := by
  have inv := State.inv_of_reachable reached
  cases label with
  | acquire actor valid memory | publish actor | release actor =>
      obtain ⟨-, ⟨⟩⟩ := Option.ite_none_right_eq_some.mp run
      rfl
  | system actor outcome =>
      obtain ⟨result, made, rfl⟩ := Option.map_eq_some_iff.mp run
      refine (((inv actor).systemCall made).spares.files ?_).1
      by_contra also
      exact foreign (congrArg some (inv.alone also held))
  | crash actor =>
      cases run
      rfl
  | outside outsider => exact absurd rfl inside

namespace Process

variable {process : Process} {pid : Nat} {world : World} {outcome : Outcome}
  {result : Process × World}

theorem release_not_unlink (process : Process) : process.release.place ≠ .unlink := by
  rcases release_place process with place | place | place | place <;> simp [place]

theorem own_not_unlink (process : Process) : process.own.place ≠ .unlink := by
  unfold own
  cases process.exitRegistered <;> simp

/-- The call of `unlink` comes right after an `lstat` that has found the file. -/
theorem Moves.unlink (moves : process.Moves pid world outcome result)
    (place : result.1.place = .unlink) :
    outcome = .ok ∧ process.place = .current ∧ ∃ fd, process.pidFd = some fd ∧
      result.1.pidFd = some fd ∧ result.2 = world ∧ world.disk.path = some fd := by
  cases moves with
  | @finds fd pidFd before named => exact ⟨rfl, before, fd, pidFd, pidFd, rfl, named⟩
  | unopened | abandons | fails => exact absurd place (release_not_unlink process)
  | checks before destination => rcases destination with rfl | rfl | rfl <;> cases place
  | @locks _ role => cases role <;> cases place
  | waits before =>
      rw [place] at before
      cases before
  | @reads _ fd =>
      unfold judge at place
      dsimp only at place
      split at place
      · exact absurd place (own_not_unlink _)
      · cases place
  | owns => exact absurd place (own_not_unlink process)
  | writes =>
      dsimp only at place
      split at place <;> cases place
  | closesPid =>
      unfold finish at place
      dsimp only at place
      split at place <;> cases place
  | _ => cases place

/-- Only the call of `unlink` takes the path away. -/
theorem Moves.path (moves : process.Moves pid world outcome result) {inode : Nat}
    (named : world.disk.path = some inode) (gone : result.2.disk.path ≠ some inode) :
    process.place = .unlink ∧ outcome = .ok := by
  cases moves with
  | unlinks pidFd place => exact ⟨place, rfl⟩
  | @opens role opened place made =>
      cases role with
      | guard => exact absurd ((openFile_path made).1.trans named) gone
      | pid =>
          rcases openFile_cases made with ⟨missing, -⟩ | ⟨_, -, rfl⟩
          · cases missing.symm.trans named
          · exact absurd named gone
  | _ => exact absurd named gone

end Process

theorem exists_confirmed {disk : Disk} {labels : List Label} {state : State}
    (run : (pidSystem disk).exec (pidSystem disk).init labels = some state) {pid : Nat}
    (place : (state.processes pid).place = .unlink) :
    ∃ fd before after checked, (state.processes pid).pidFd = some fd ∧
      Confirmed disk labels state pid fd before after checked := by
  -- along the run; the last step of the process itself must be its `lstat`
  induction labels using List.reverseRecOn generalizing state with
  | nil =>
      cases Option.some.inj run
      cases place
  | append_singleton labels label ih =>
      rw [System.exec_append] at run
      obtain ⟨middle, earlier, last⟩ := Option.bind_eq_some_iff.mp run
      obtain ⟨_, made, ⟨⟩⟩ := System.exec_cons last
      have reached : (pidSystem disk).Reachable middle := ⟨labels, earlier⟩
      have seen := State.sees made pid
      generalize shown : state.processes pid = process at seen place ⊢
      cases seen with
      | other foreign =>
          obtain ⟨fd, before, after, checked, pidFd, confirmed⟩ := ih earlier place
          have guarded : (middle.processes pid).guardFd ≠ none := by
            have flags := Process.flags_eq (State.inv_of_reachable reached pid).shape
              (by rw [place]; rfl)
            exact Option.isSome_iff_ne_none.mp (congrArg (fun flags => flags.1) flags)
          refine ⟨fd, before, after ++ [label], checked, pidFd, ?_, confirmed.run,
            confirmed.place, confirmed.pidFd, confirmed.named, ?_, ?_⟩
          · rw [confirmed.history, List.append_assoc, List.cons_append]
          · intro other member
            rcases List.mem_append.mp member with member | member
            · exact confirmed.foreign other member
            · rw [List.mem_singleton.mp member]
              exact foreign
          · intro inside
            have here := inside label (by simp)
            rw [State.path_step reached guarded foreign here made]
            exact confirmed.still fun other member => inside other (by simp [member])
      | acquire idle =>
          unfold Process.acquire at place
          split at place
          · cases idle.symm.trans place
          · split at place
            · exact absurd place (Process.release_not_unlink _)
            · cases place
      | publish idle =>
          unfold Process.publish at place
          split at place
          · cases idle.symm.trans place
          · split at place
            · exact absurd place (Process.release_not_unlink _)
            · cases place
      | release idle => exact absurd place (Process.release_not_unlink _)
      | system called =>
          obtain ⟨rfl, before, fd, pidFd, still, same, named⟩ :=
            (systemCall_moves called).unlink place
          refine ⟨fd, labels, [], middle, still, rfl, earlier, before, pidFd, named, by simp, ?_⟩
          intro _
          obtain ⟨result, again, rfl⟩ := Option.map_eq_some_iff.mp made
          cases again.symm.trans called
          exact (congrArg (fun world => world.disk.path) same).trans named
      | crash => cases place

/-- For every run of any processes and outsiders, with any failures.  Between two calls
all four variables are set or all are reset.  A call of acquire that fails leaves
them as they were.  Everything opened for a variable has been closed once, or is what
the variable holds.  The path is taken away only by a call of `unlink` in a process
that owns it, after an `lstat` that has found it, and the path names the held file
still unless an outsider has acted since. -/
theorem pid_all_or_nothing {disk : Disk} {labels : List Label} {state : State}
    (run : (pidSystem disk).exec (pidSystem disk).init labels = some state) (pid : Nat) :
    ((state.processes pid).place = .idle →
      (state.processes pid).Complete ∨ (state.processes pid).Vacant) ∧
    (∀ result after, Acquires pid state result after → result ≠ 0 →
      (after.processes pid).globals = (state.processes pid).globals) ∧
    (.crash pid ∉ labels → (state.processes pid).place = .idle → ∀ role,
      Settled ((pidSystem disk).outputs (descriptorEvents pid role) (pidSystem disk).init labels)
        ((state.processes pid).variableOf role)) ∧
    (∀ label next inode, label.actor = some pid → step state label = some next →
      state.world.disk.path = some inode → next.world.disk.path ≠ some inode →
        label = .system pid .ok ∧ (state.processes pid).ownsPid = true ∧
        ∃ fd before after checked, (state.processes pid).pidFd = some fd ∧
          Confirmed disk labels state pid fd before after checked) := by
  have reached : (pidSystem disk).Reachable state := ⟨labels, run⟩
  refine ⟨State.complete_or_vacant reached, ?_, ?_, ?_⟩
  · intro result after acquires failed
    exact acquires.keeps reached failed
  · intro alive idle role
    rw [← Process.holds_idle idle]
    exact settled_run run alive role
  · intro label next inode actor made named gone
    cases label with
    | acquire other valid memory | publish other | release other =>
        obtain ⟨-, ⟨⟩⟩ := Option.ite_none_right_eq_some.mp made
        exact absurd named gone
    | system other outcome =>
        cases Option.some.inj actor
        obtain ⟨place, rfl⟩ := (State.sees_system made).path named gone
        have flags := Process.flags_eq (State.inv_of_reachable reached pid).shape
          (by rw [place]; rfl)
        exact ⟨rfl, congrArg (fun flags => flags.2.2) flags, exists_confirmed run place⟩
    | crash other =>
        cases made
        exact absurd named gone
    | outside outsider => cases actor

theorem pid_all_or_nothing_published :
    (publishState.processes 7).Complete ∧
      Settled ((pidSystem emptyDisk).outputs (descriptorEvents 7 .pid) (pidSystem emptyDisk).init
        publishRun) (some 1) := by
  obtain ⟨together, -, settled, -⟩ := pid_all_or_nothing
    (show (pidSystem emptyDisk).exec (pidSystem emptyDisk).init publishRun = some publishState from
      (Option.some_get _).symm) 7
  refine ⟨(together (by decide)).resolve_right ?_, settled (by decide) (by decide) .pid⟩
  unfold Process.Vacant
  decide

end Skyuv.Platform
