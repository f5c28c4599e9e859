import Skyuv.Platform.Daemon

/-!
# The system calls of one process on the PID file

At each place in `daemon.c` it is known which descriptors a process has, that its
`guard_fd` is locked and open on the one `.lock` file, and, if no outsider has been
at the files, that the path names `pid_fd` and what the file holds.  Every system
call keeps this (`Good`) and spares what belongs to other processes (`Spares`).
-/

set_option autoImplicit false

namespace Skyuv.Platform

open TransitionSystem

/-! ## What a system call does -/

/-- The system calls of `skyuv_pid_acquire` and `skyuv_pid_publish` on `pid_fd`. -/
def Place.working : Place → Bool
  | .read | .probe _ | .register | .truncate | .seek | .write _ | .sync => true
  | _ => false

/-- What a system call can do, one constructor for each way on. -/
inductive Process.Moves (pid : Nat) (process : Process) (world : World) :
    Outcome → Process × World → Prop where
  | opens {role : Role} {result : Nat × Disk} (place : process.place = .open role)
      (made : world.disk.openFile role = some result) :
      Moves pid process world .ok
        ({ process with place := .stat role result.1 }, { world with disk := result.2 })
  | unopened {role : Role} (place : process.place = .open role) :
      Moves pid process world .error (process.release, world)
  | checks {outcome : Outcome} {role : Role} {fd : Nat} {after : Place}
      (place : process.place = .stat role fd ∨ process.place = .cloexec role fd ∨
        process.place = .lock role fd)
      (destination : after = .cloexec role fd ∨ after = .lock role fd ∨ after = .abandon role fd) :
      Moves pid process world outcome ({ process with place := after }, world)
  | locks {outcome : Outcome} {role : Role} {fd : Nat} {locks : Nat → Option (Nat × Role)}
      (place : process.place = .lock role fd)
      (taken : LockTable.acquire world.locks fd (pid, role) = some locks) :
      Moves pid process world outcome (process.locked fd role, { world with locks := locks })
  | abandons {outcome : Outcome} {role : Role} {fd : Nat}
      (place : process.place = .abandon role fd) :
      Moves pid process world outcome (process.release, world.close pid fd role)
  | waits {outcome : Outcome} (place : process.place.working = true) :
      Moves pid process world outcome (process, world)
  | fails {outcome : Outcome} {fd : Nat} (pidFd : process.pidFd = some fd)
      (place : process.place.working = true) :
      Moves pid process world outcome (process.release, world)
  | reads {outcome : Outcome} {fd : Nat} (pidFd : process.pidFd = some fd)
      (place : process.place = .read) :
      Moves pid process world outcome (process.judge (world.disk.content fd), world)
  | owns {outcome : Outcome} {fd : Nat} {previous : Int} (pidFd : process.pidFd = some fd)
      (place : process.place = .probe previous) :
      Moves pid process world outcome (process.own, world)
  | registers {outcome : Outcome} {fd : Nat} (pidFd : process.pidFd = some fd)
      (place : process.place = .register) :
      Moves pid process world outcome
        ({ process with exitRegistered := true, place := .idle }, world)
  | truncates {outcome : Outcome} {fd : Nat} (pidFd : process.pidFd = some fd)
      (place : process.place = .truncate) :
      Moves pid process world outcome
        ({ process with place := .seek }, { world with disk := world.disk.store fd [] })
  | seeks {outcome : Outcome} {fd : Nat} (pidFd : process.pidFd = some fd)
      (place : process.place = .seek) :
      Moves pid process world outcome ({ process with position := 0, place := .write 0 }, world)
  | writes {outcome : Outcome} {fd offset count : Nat} (pidFd : process.pidFd = some fd)
      (place : process.place = .write offset) (room : offset + count ≤ (pidText pid).length) :
      Moves pid process world outcome (
        { process with
          position := process.position + count
          place := if offset + count = (pidText pid).length then .sync
            else .write (offset + count) },
        { world with
          disk := world.disk.store fd (writeAt (world.disk.content fd) process.position
            (((pidText pid).drop offset).take count)) })
  | syncs {outcome : Outcome} {fd : Nat} (pidFd : process.pidFd = some fd)
      (place : process.place = .sync) :
      Moves pid process world outcome ({ process with published := true, place := .idle }, world)
  | stats {outcome : Outcome} {fd : Nat} (pidFd : process.pidFd = some fd)
      (place : process.place = .held) :
      Moves pid process world outcome ({ process with place := .current }, world)
  | finds {fd : Nat} (pidFd : process.pidFd = some fd) (place : process.place = .current)
      (named : world.disk.path = some fd) :
      Moves pid process world .ok ({ process with place := .unlink }, world)
  | spares {outcome : Outcome} {fd : Nat} (pidFd : process.pidFd = some fd)
      (place : process.place = .held ∨ process.place = .current ∨ process.place = .unlink) :
      Moves pid process world outcome ({ process with place := .closePid }, world)
  | unlinks {fd : Nat} (pidFd : process.pidFd = some fd) (place : process.place = .unlink) :
      Moves pid process world .ok
        ({ process with place := .closePid }, { world with disk := world.disk.unlink })
  | closesPid {outcome : Outcome} {fd : Nat} (pidFd : process.pidFd = some fd)
      (place : process.place = .closePid) :
      Moves pid process world outcome
        ({ process with pidFd := none }.finish, world.close pid fd .pid)
  | closesGuard {outcome : Outcome} {fd : Nat} (guardFd : process.guardFd = some fd)
      (place : process.place = .closeGuard) :
      Moves pid process world outcome
        ({ process with guardFd := none, place := .idle }, world.close pid fd .guard)

section Moves

variable {pid fd : Nat} {process : Process} {world : World} {outcome : Outcome}
  {result : Process × World}

theorem branch_world {success failure : Process}
    (run : (outcome.branch success failure).map (fun next => (next, world)) = some result) :
    result = (success, world) ∨ result = (failure, world) := by
  obtain ⟨after, chosen, rfl⟩ := Option.map_eq_some_iff.mp run
  cases outcome with
  | ok =>
      cases Option.some.inj chosen
      exact .inl rfl
  | error =>
      cases Option.some.inj chosen
      exact .inr rfl
  | denied => cases chosen
  | interrupted => cases chosen
  | wrote count => cases chosen

theorem lockFile_moves (run : world.lockFile pid process outcome = some result) :
    process.Moves pid world outcome result := by
  unfold World.lockFile at run
  cases place : process.place with
  | «open» role =>
      simp only [place] at run
      cases outcome with
      | ok =>
          obtain ⟨opened, made, rfl⟩ := Option.map_eq_some_iff.mp run
          exact .opens place made
      | error =>
          cases run
          exact .unopened place
      | denied => cases run
      | interrupted => cases run
      | wrote count => cases run
  | stat role fd =>
      simp only [place] at run
      rcases branch_world run with rfl | rfl
      · refine .checks (.inl place) ?_
        split
        · exact .inl rfl
        · exact .inr (.inr rfl)
      · exact .checks (.inl place) (.inr (.inr rfl))
  | cloexec role fd =>
      simp only [place] at run
      rcases branch_world run with rfl | rfl
      · exact .checks (.inr (.inl place)) (.inr (.inl rfl))
      · exact .checks (.inr (.inl place)) (.inr (.inr rfl))
  | lock role fd =>
      simp only [place] at run
      cases outcome with
      | ok =>
          obtain ⟨locks, taken, rfl⟩ := Option.map_eq_some_iff.mp run
          exact .locks place taken
      | error =>
          cases run
          exact .checks (.inr (.inr place)) (.inr (.inr rfl))
      | denied => cases run
      | interrupted => cases run
      | wrote count => cases run
  | abandon role fd =>
      simp only [place] at run
      cases run
      exact .abandons place
  | _ => simp [place] at run

theorem writeLoop_moves {offset : Nat} (pidFd : process.pidFd = some fd)
    (place : process.place = .write offset)
    (run : world.writeLoop pid process fd offset outcome = some result) :
    process.Moves pid world outcome result := by
  have working : process.place.working = true := by rw [place]; rfl
  unfold World.writeLoop at run
  split at run
  · cases run
    exact .waits working
  · cases run
    exact .fails pidFd working
  · cases run
    exact .fails pidFd working
  · obtain ⟨room, ⟨⟩⟩ := Option.ite_none_right_eq_some.mp run
    exact .writes pidFd place room
  · cases run

theorem pidFile_moves (pidFd : process.pidFd = some fd)
    (run : world.pidFile pid process fd outcome = some result) :
    process.Moves pid world outcome result := by
  unfold World.pidFile at run
  cases place : process.place with
  | read =>
      have working : process.place.working = true := by rw [place]; rfl
      simp only [place] at run
      cases outcome with
      | ok =>
          cases run
          exact .reads pidFd place
      | interrupted =>
          cases run
          exact .waits working
      | error =>
          cases run
          exact .fails pidFd working
      | denied => cases run
      | wrote count => cases run
  | probe previous =>
      have working : process.place.working = true := by rw [place]; rfl
      simp only [place] at run
      cases outcome with
      | ok =>
          cases run
          exact .fails pidFd working
      | denied =>
          cases run
          exact .fails pidFd working
      | error =>
          cases run
          exact .owns pidFd place
      | interrupted => cases run
      | wrote count => cases run
  | register =>
      simp only [place] at run
      rcases branch_world run with rfl | rfl
      · exact .registers pidFd place
      · exact .fails pidFd (by rw [place]; rfl)
  | truncate =>
      simp only [place] at run
      cases outcome with
      | ok =>
          cases run
          exact .truncates pidFd place
      | error =>
          cases run
          exact .fails pidFd (by rw [place]; rfl)
      | denied => cases run
      | interrupted => cases run
      | wrote count => cases run
  | seek =>
      simp only [place] at run
      rcases branch_world run with rfl | rfl
      · exact .seeks pidFd place
      · exact .fails pidFd (by rw [place]; rfl)
  | write offset =>
      simp only [place] at run
      exact writeLoop_moves pidFd place run
  | sync =>
      simp only [place] at run
      rcases branch_world run with rfl | rfl
      · exact .syncs pidFd place
      · exact .fails pidFd (by rw [place]; rfl)
  | held =>
      simp only [place] at run
      rcases branch_world run with rfl | rfl
      · exact .stats pidFd place
      · exact .spares pidFd (.inl place)
  | current =>
      simp only [place] at run
      cases outcome with
      | ok =>
          cases run
          split
          · rename_i named
            exact .finds pidFd place named
          · exact .spares pidFd (.inr (.inl place))
      | error =>
          cases run
          exact .spares pidFd (.inr (.inl place))
      | denied => cases run
      | interrupted => cases run
      | wrote count => cases run
  | unlink =>
      simp only [place] at run
      cases outcome with
      | ok =>
          cases run
          exact .unlinks pidFd place
      | error =>
          cases run
          exact .spares pidFd (.inr (.inr place))
      | denied => cases run
      | interrupted => cases run
      | wrote count => cases run
  | closePid =>
      simp only [place] at run
      cases run
      exact .closesPid pidFd place
  | _ => simp [place] at run

/-- Every system call is one of the moves. -/
theorem systemCall_moves (run : world.systemCall pid process outcome = some result) :
    process.Moves pid world outcome result := by
  unfold World.systemCall at run
  cases place : process.place with
  | idle => simp [place] at run
  | «open» | stat | cloexec | lock | abandon =>
      simp only [place] at run
      exact lockFile_moves run
  | closeGuard =>
      simp only [place] at run
      split at run
      · cases run
      · rename_i fd guardFd
        cases run
        exact .closesGuard guardFd place
  | _ =>
      simp only [place] at run
      split at run
      · cases run
      · rename_i fd pidFd
        exact pidFile_moves pidFd run

end Moves

/-! ## What a process has at each place -/

namespace Place

/-- Whether `guard_fd` and `pid_fd` are open and `owns_pid` is set. -/
def flags : Place → List (Bool × Bool × Bool)
  | .idle => [(false, false, false), (true, true, true)]
  | .open .guard | .stat .guard _ | .cloexec .guard _ | .lock .guard _ | .abandon .guard _ =>
      [(false, false, false)]
  | .open .pid | .stat .pid _ | .cloexec .pid _ | .lock .pid _ | .abandon .pid _ =>
      [(true, false, false)]
  | .read | .probe _ => [(true, true, false)]
  | .register | .truncate | .seek | .write _ | .sync | .held | .current | .unlink =>
      [(true, true, true)]
  | .closePid => [(true, true, false), (true, true, true)]
  | .closeGuard => [(true, false, false)]

/-- The system calls that change the PID file. -/
def mutates : Place → Bool
  | .truncate | .write _ | .unlink => true
  | _ => false

/-- Inside `skyuv_pid_publish`. -/
def publishing : Place → Bool
  | .truncate | .seek | .write _ | .sync => true
  | _ => false

/-- The inode that `lock_file` has opened for `guard_fd`. -/
def opening : Place → Option Nat
  | .stat .guard fd | .cloexec .guard fd | .lock .guard fd => some fd
  | _ => none

/-- What the PID file contains, as far as the process knows. -/
def expected (pid : Nat) (published : Bool) : Place → Option (List UInt8)
  | .seek => some []
  | .write offset => some ((pidText pid).take offset)
  | .sync => some (pidText pid)
  | .idle => if published then some (pidText pid) else none
  | _ => none

end Place

namespace Process

def flags (process : Process) : Bool × Bool × Bool :=
  (process.guardFd.isSome, process.pidFd.isSome, process.ownsPid)

/-- The inode that the path names unless an outsider has been at it. -/
def descriptor (process : Process) : Option Nat :=
  match process.place with
  | .stat .pid fd | .cloexec .pid fd | .lock .pid fd => some fd
  | .idle | .read | .probe _ | .register | .truncate | .seek | .write _ | .sync | .held
  | .current | .unlink => process.pidFd
  | _ => none

structure Shape (process : Process) : Prop where
  flags : process.flags ∈ process.place.flags
  published : process.published = true →
    process.ownsPid = true ∧ (process.place = .idle ∨ process.place.publishing = true)

structure Standing (pid : Nat) (process : Process) (disk : Disk) : Prop where
  named : ∀ fd, process.descriptor = some fd → disk.path = some fd
  content : ∀ fd text, process.descriptor = some fd →
    process.place.expected pid process.published = some text → disk.content fd = text
  position : ∀ offset, process.place = .write offset →
    process.position = offset ∧ offset ≤ (pidText pid).length

/-- `clean` says that no outsider has been at the files. -/
structure Good (clean : Bool) (pid : Nat) (process : Process) (world : World) : Prop where
  shape : process.Shape
  guard : ∀ fd, process.guardFd = some fd →
    world.disk.guard = some fd ∧ world.locks fd = some (pid, .guard)
  opening : ∀ fd, process.place.opening = some fd → world.disk.guard = some fd
  standing : clean = true → process.Standing pid world.disk

end Process

/-- What a system call of the process leaves alone.  Without `guard_fd` it does not
touch the PID file. -/
structure World.Spares (process : Process) (pid : Nat) (before after : World) : Prop where
  guard : ∀ inode, before.disk.guard = some inode → after.disk.guard = some inode
  locks : ∀ inode owner, owner.1 ≠ pid → before.locks inode = some owner →
    after.locks inode = some owner
  files : process.guardFd = none → after.disk.path = before.disk.path ∧
    ∀ inode, before.disk.path = some inode → after.disk.content inode = before.disk.content inode

namespace Process

variable {clean : Bool} {pid : Nat} {process : Process} {world next : World}

/-- The other processes do not notice. -/
theorem Good.other (good : process.Good clean pid world) {other : Nat} {actor : Process}
    (spares : world.Spares actor other next) (distinct : pid ≠ other)
    (alone : process.guardFd ≠ none → actor.guardFd = none) : process.Good clean pid next where
  shape := good.shape
  guard := by
    intro fd held
    obtain ⟨named, locked⟩ := good.guard fd held
    exact ⟨spares.guard fd named, spares.locks fd (pid, .guard) distinct locked⟩
  opening := fun fd opening => spares.guard fd (good.opening fd opening)
  standing := by
    intro untouched
    obtain ⟨named, content, position⟩ := good.standing untouched
    -- a process that the path matters to holds the lock of the guard
    have holds : ∀ fd, process.descriptor = some fd → process.guardFd ≠ none := by
      intro fd described free
      have flags := good.shape.flags
      unfold descriptor at described
      unfold Process.flags Place.flags at flags
      split at described <;> simp_all
    refine ⟨fun fd described => ?_, fun fd text described expected => ?_, position⟩
    · rw [(spares.files (alone (holds fd described))).1]
      exact named fd described
    · rw [(spares.files (alone (holds fd described))).2 fd (named fd described)]
      exact content fd text described expected

theorem spares_refl : world.Spares process pid world :=
  ⟨fun _ named => named, fun _ _ _ held => held, fun _ => ⟨rfl, fun _ _ => rfl⟩⟩

/-- Closing a descriptor drops no lock of another owner. -/
theorem spares_close (fd : Nat) (role : Role) :
    world.Spares process pid (world.close pid fd role) where
  guard := fun _ named => named
  locks := by
    intro inode owner foreign held
    exact LockTable.release_keeps (fun same => foreign (by rw [same])) held
  files := fun _ => ⟨rfl, fun _ _ => rfl⟩

/-- A process with `guard_fd` may do anything to the PID file. -/
theorem spares_disk {disk : Disk} (held : process.guardFd ≠ none)
    (guard : disk.guard = world.disk.guard) :
    world.Spares process pid { world with disk := disk } where
  guard := fun _ named => guard.trans named
  locks := fun _ _ _ held => held
  files := fun free => absurd free held

theorem Good.guard_close (good : process.Good clean pid world) (fd : Nat) (role : Role)
    (other : role = .guard → process.guardFd = none) :
    ∀ held, process.guardFd = some held → (world.close pid fd role).disk.guard = some held ∧
      (world.close pid fd role).locks held = some (pid, .guard) := by
  intro held guard
  obtain ⟨named, locked⟩ := good.guard held guard
  refine ⟨named, LockTable.release_keeps ?_ locked⟩
  intro same
  have role : role = .guard := by simpa using (congrArg Prod.snd same).symm
  rw [other role] at guard
  cases guard

/-! ## Release -/

theorem Shape.releasable (shape : process.Shape) :
    process.flags ∈ [(false, false, false), (true, false, false), (true, true, false),
      (true, true, true)] := by
  have flags := shape.flags
  unfold Place.flags at flags
  split at flags <;> simp only [List.mem_cons, List.not_mem_nil, or_false] at flags ⊢ <;> tauto

/-- The first system call of `skyuv_pid_release`. -/
theorem release_place (process : Process) :
    process.release.place = .held ∨ process.release.place = .closePid ∨
      process.release.place = .closeGuard ∨ process.release.place = .idle := by
  unfold Process.release finish
  dsimp only
  repeat' split
  all_goals simp

theorem release_fields (process : Process) :
    process.release.guardFd = process.guardFd ∧ process.release.pidFd = process.pidFd ∧
      process.release.published = false := by
  unfold Process.release finish
  split <;> simp

theorem release_shape
    (releasable : process.flags ∈ [(false, false, false), (true, false, false),
      (true, true, false), (true, true, true)]) : process.release.Shape := by
  unfold Process.flags at releasable
  constructor
  · cases guard : process.guardFd <;> cases pid : process.pidFd <;>
      cases owns : process.ownsPid <;>
      simp_all [release, finish, Process.flags, Place.flags]
  · unfold release finish
    split <;> simp

/-- `skyuv_pid_release` from wherever it is called. -/
theorem Good.release (good : process.Good clean pid world) {left : World}
    (disk : left.disk = world.disk)
    (guard : ∀ fd, process.guardFd = some fd →
      left.disk.guard = some fd ∧ left.locks fd = some (pid, .guard))
    (named : clean = true → ∀ fd, process.pidFd = some fd → world.disk.path = some fd) :
    process.release.Good clean pid left := by
  obtain ⟨guardFd, pidFd, unpublished⟩ := release_fields process
  refine ⟨release_shape good.shape.releasable, guardFd ▸ guard, ?_, fun untouched => ?_⟩
  · intro fd opening
    rcases release_place process with place | place | place | place <;>
      simp [place, Place.opening] at opening
  · rw [disk]
    refine ⟨fun fd described => named untouched fd ?_, fun fd text _ expected => ?_,
      fun offset writing => ?_⟩
    · unfold descriptor at described
      rcases release_place process with place | place | place | place <;>
        simp_all
    · rcases release_place process with place | place | place | place <;>
        simp [place, Place.expected, unpublished] at expected
    · rcases release_place process with place | place | place | place <;>
        simp [place] at writing

/-! ## System calls -/

/-- A system call of the process and what it leaves of the world. -/
structure Keeps (clean : Bool) (pid : Nat) (process : Process) (world : World)
    (next : Process × World) : Prop where
  good : next.1.Good clean pid next.2
  spares : world.Spares process pid next.2

/-- A system call that only moves the process on. -/
theorem Good.moves (good : process.Good clean pid world) {after : Process} (shape : after.Shape)
    (guardFd : after.guardFd = process.guardFd)
    (opening : ∀ fd, after.place.opening = some fd → process.place.opening = some fd)
    (standing : clean = true → after.Standing pid world.disk) :
    Keeps clean pid process world (after, world) where
  good := ⟨shape, guardFd ▸ good.guard,
    fun fd found => good.opening fd (opening fd found), standing⟩
  spares := spares_refl

/-- A system call that fails, so that everything is released. -/
theorem Good.fails (good : process.Good clean pid world)
    (named : clean = true → ∀ fd, process.pidFd = some fd → world.disk.path = some fd) :
    Keeps clean pid process world (process.release, world) :=
  ⟨good.release rfl good.guard named, spares_refl⟩

theorem Shape.unpublished (shape : process.Shape) (busy : process.place ≠ .idle)
    (elsewhere : process.place.publishing = false) : process.published = false := by
  cases published : process.published with
  | false => rfl
  | true =>
      rcases (shape.published published).2 with idle | inside
      · exact absurd idle busy
      · rw [elsewhere] at inside
        cases inside

/-! ### Opening and locking -/

theorem openFile_cases {disk : Disk} {role : Role} {result : Nat × Disk}
    (run : disk.openFile role = some result) :
    disk.entry role = none ∧ result = (disk.next, disk.create role) ∨
      ∃ inode, disk.entry role = some inode ∧ result = (inode, disk) := by
  unfold Disk.openFile at run
  split at run
  · rename_i missing
    exact .inl ⟨missing, (Option.some.inj run).symm⟩
  · rename_i inode found
    obtain ⟨-, same⟩ := Option.ite_none_left_eq_some.mp run
    exact .inr ⟨inode, found, (Option.some.inj same).symm⟩

theorem openFile_entry {disk : Disk} {role : Role} {result : Nat × Disk}
    (run : disk.openFile role = some result) : result.2.entry role = some result.1 := by
  rcases openFile_cases run with ⟨-, rfl⟩ | ⟨inode, found, rfl⟩
  · cases role <;> rfl
  · exact found

theorem openFile_guard {disk : Disk} {role : Role} {result : Nat × Disk}
    (run : disk.openFile role = some result) {inode : Nat} (named : disk.guard = some inode) :
    result.2.guard = some inode := by
  rcases openFile_cases run with ⟨missing, rfl⟩ | ⟨_, -, rfl⟩
  · cases role with
    | guard => cases missing.symm.trans named
    | pid => exact named
  · exact named

/-- Making the `.lock` file leaves the PID file alone. -/
theorem openFile_path {disk : Disk} {result : Nat × Disk}
    (run : disk.openFile .guard = some result) : result.2.path = disk.path ∧
      ∀ inode, disk.path = some inode → result.2.content inode = disk.content inode := by
  rcases openFile_cases run with ⟨-, rfl⟩ | ⟨_, -, rfl⟩
  · refine ⟨rfl, fun inode named => ?_⟩
    have old := disk.pathOld inode named
    exact Function.update_of_ne (Nat.ne_of_lt old) ..
  · exact ⟨rfl, fun _ _ => rfl⟩

theorem flags_eq {flags : Bool × Bool × Bool} (shape : process.Shape)
    (place : process.place.flags = [flags]) : process.flags = flags := by
  have found := shape.flags
  rw [place] at found
  exact List.mem_singleton.mp found

/-- A process that is still locking the guard has nothing yet. -/
theorem Shape.empty (shape : process.Shape)
    (place : process.place.flags = [(false, false, false)]) :
    process.guardFd = none ∧ process.pidFd = none ∧ process.ownsPid = false := by
  have flags := flags_eq shape place
  simpa [Process.flags] using flags

/-- A process that is still locking the PID file has the guard alone. -/
theorem Shape.guarded (shape : process.Shape)
    (place : process.place.flags = [(true, false, false)]) :
    process.guardFd ≠ none ∧ process.pidFd = none ∧ process.ownsPid = false := by
  have flags := flags_eq shape place
  simpa [Process.flags, Option.isSome_iff_ne_none] using flags

theorem Good.open (good : process.Good clean pid world) {role : Role}
    (place : process.place = .open role) {result : Nat × Disk}
    (run : world.disk.openFile role = some result) :
    Keeps clean pid process world
      ({ process with place := .stat role result.1 }, { world with disk := result.2 }) := by
  have entry := openFile_entry run
  have unpublished := good.shape.unpublished (by simp [place]) (by simp [place, Place.publishing])
  have flags := good.shape.flags
  rw [place] at flags
  cases role with
  | guard =>
      obtain ⟨guardFd, -⟩ := good.shape.empty (by rw [place]; rfl)
      refine ⟨⟨⟨flags, by simp [unpublished]⟩, ?_, ?_, fun _ => ?_⟩, ?_⟩
      · simp [guardFd]
      · intro fd opening
        cases Option.some.inj opening
        exact entry
      · exact ⟨by simp [descriptor], by simp [descriptor], by simp⟩
      · exact ⟨fun inode named => openFile_guard run named, fun _ _ _ held => held,
          fun _ => openFile_path run⟩
  | pid =>
      obtain ⟨guardFd, -⟩ := good.shape.guarded (by rw [place]; rfl)
      refine ⟨⟨⟨flags, by simp [unpublished]⟩, ?_, ?_, fun _ => ?_⟩, ?_⟩
      · intro fd held
        obtain ⟨named, locked⟩ := good.guard fd held
        exact ⟨openFile_guard run named, locked⟩
      · intro fd opening
        cases opening
      · refine ⟨fun fd described => ?_, by simp [Place.expected], by simp⟩
        cases Option.some.inj described
        exact entry
      · exact ⟨fun inode named => openFile_guard run named, fun _ _ _ held => held,
          fun free => absurd free guardFd⟩

/-- A system call that only moves the process on, to a place where nothing is known of
the content. -/
theorem Good.turns (good : process.Good clean pid world) {after : Place}
    (unpublished : process.published = false) (flags : process.flags ∈ after.flags)
    (opening : ∀ fd, after.opening = some fd → process.place.opening = some fd)
    (described : ∀ fd, { process with place := after }.descriptor = some fd →
      process.descriptor = some fd)
    (silent : after.expected pid false = none) (calm : ∀ offset, after ≠ .write offset) :
    Keeps clean pid process world ({ process with place := after }, world) := by
  refine good.moves ⟨flags, by simp [unpublished]⟩ rfl opening fun untouched => ?_
  refine ⟨fun fd found => (good.standing untouched).named fd (described fd found), ?_, ?_⟩
  · intro fd text _ expected
    simp only [unpublished, silent] at expected
    cases expected
  · intro offset writing
    exact absurd writing (calm offset)

theorem Good.locks (good : process.Good clean pid world) {role : Role} {fd : Nat}
    (place : process.place = .lock role fd) {locks : Nat → Option (Nat × Role)}
    (run : LockTable.acquire world.locks fd (pid, role) = some locks) :
    Keeps clean pid process world (process.locked fd role, { world with locks := locks }) := by
  have spares : world.Spares process pid { world with locks := locks } :=
    ⟨fun _ named => named, fun _ _ _ held => LockTable.acquire_keeps run held,
      fun _ => ⟨rfl, fun _ _ => rfl⟩⟩
  have unpublished := good.shape.unpublished (by simp [place]) (by simp [place, Place.publishing])
  have flags := good.shape.flags
  rw [place] at flags
  refine ⟨?_, spares⟩
  cases role with
  | guard =>
      obtain ⟨guardFd, pidFd, owns⟩ := good.shape.empty (by rw [place]; rfl)
      refine ⟨⟨by simp [Process.flags, locked, Place.flags, pidFd, owns],
        by simp [locked, unpublished]⟩,
        ?_, by simp [locked, Place.opening], fun _ => ?_⟩
      · intro held same
        cases Option.some.inj same
        exact ⟨good.opening fd (by rw [place]; rfl), LockTable.acquire_held run⟩
      · exact ⟨by simp [locked, descriptor], by simp [locked, descriptor], by simp [locked]⟩
  | pid =>
      obtain ⟨guardFd, pidFd, owns⟩ := good.shape.guarded (by rw [place]; rfl)
      refine ⟨⟨?_, by simp [locked, unpublished]⟩, ?_, by simp [locked, Place.opening],
        fun untouched => ?_⟩
      · simp [Process.flags, locked, Place.flags, owns, Option.isSome_iff_ne_none, guardFd]
      · intro held same
        obtain ⟨named, kept⟩ := good.guard held same
        exact ⟨named, LockTable.acquire_keeps run kept⟩
      · refine ⟨fun inode described => ?_, by simp [locked, Place.expected], by simp [locked]⟩
        cases Option.some.inj described
        exact (good.standing untouched).named fd (by simp [descriptor, place])

theorem Good.abandons (good : process.Good clean pid world) {role : Role} {fd : Nat}
    (place : process.place = .abandon role fd) :
    Keeps clean pid process world (process.release, world.close pid fd role) := by
  have pidFd : process.pidFd = none := by
    cases role with
    | guard => exact (good.shape.empty (by rw [place]; rfl)).2.1
    | pid => exact (good.shape.guarded (by rw [place]; rfl)).2.1
  refine ⟨good.release rfl ?_ (by simp [pidFd]), spares_close fd role⟩
  refine good.guard_close fd role ?_
  rintro rfl
  exact (good.shape.empty (by rw [place]; rfl)).1

/-- The checks of `lock_file` between `open` and `flock`. -/
theorem Good.checks (good : process.Good clean pid world) {role : Role} {fd : Nat} {after : Place}
    (before : process.place = .stat role fd ∨ process.place = .cloexec role fd ∨
      process.place = .lock role fd)
    (destination : after = .cloexec role fd ∨ after = .lock role fd ∨ after = .abandon role fd) :
    Keeps clean pid process world ({ process with place := after }, world) := by
  have flags := good.shape.flags
  refine good.turns ?_ ?_ ?_ ?_ ?_ ?_
  · apply good.shape.unpublished <;>
      rcases before with place | place | place <;> simp [place, Place.publishing]
  · cases role <;> rcases before with place | place | place <;>
      rcases destination with rfl | rfl | rfl <;> simpa [place, Place.flags] using flags
  · cases role <;> rcases before with place | place | place <;>
      rcases destination with rfl | rfl | rfl <;> simp [place, Place.opening]
  · cases role <;> rcases before with place | place | place <;>
      rcases destination with rfl | rfl | rfl <;> simp [place, descriptor]
  · rcases destination with rfl | rfl | rfl <;> rfl
  · rcases destination with rfl | rfl | rfl <;> simp

theorem Good.unopened (good : process.Good clean pid world) {role : Role}
    (place : process.place = .open role) :
    Keeps clean pid process world (process.release, world) := by
  have pidFd : process.pidFd = none := by
    cases role with
    | guard => exact (good.shape.empty (by rw [place]; rfl)).2.1
    | pid => exact (good.shape.guarded (by rw [place]; rfl)).2.1
  exact good.fails (by simp [pidFd])

/-! ### The PID file -/

/-- Writing on where the last write stopped. -/
theorem writeAt_take (text : List UInt8) {offset count : Nat} (short : offset ≤ text.length) :
    writeAt (text.take offset) offset ((text.drop offset).take count) =
      text.take (offset + count) := by
  have length : (text.take offset).length = offset := List.length_take_of_le short
  have past : (text.take offset).drop (offset + ((text.drop offset).take count).length) = [] :=
    List.drop_eq_nil_of_le (by omega)
  unfold writeAt
  rw [past, length, Nat.sub_self, List.replicate_zero, List.append_nil, List.append_nil,
    List.take_take, Nat.min_self, List.take_add]

/-- Inside the calls that work on `pid_fd`. -/
structure Working (clean : Bool) (pid : Nat) (process : Process) (world : World) (fd : Nat) :
    Prop extends process.Good clean pid world where
  pidFd : process.pidFd = some fd
  guardFd : process.guardFd ≠ none
  named : clean = true → world.disk.path = some fd

theorem Working.fails {fd : Nat} (working : process.Working clean pid world fd) :
    Keeps clean pid process world (process.release, world) := by
  refine working.toGood.fails fun untouched held same => ?_
  cases working.pidFd.symm.trans same
  exact working.named untouched

/-- A system call on `pid_fd`: `disk` is what it leaves of the files. -/
theorem Working.becomes {fd : Nat} (working : process.Working clean pid world fd)
    {after : Process} {disk : Disk} (shape : after.Shape)
    (guardFd : after.guardFd = process.guardFd) (pidFd : after.pidFd = process.pidFd)
    (opening : after.place.opening = none) (guard : disk.guard = world.disk.guard)
    (described : ∀ inode, after.descriptor = some inode →
      after.pidFd = some inode ∧ disk.path = world.disk.path)
    (content : clean = true → ∀ text, after.place.expected pid after.published = some text →
      disk.content fd = text)
    (position : clean = true → ∀ offset, after.place = .write offset →
      after.position = offset ∧ offset ≤ (pidText pid).length) :
    Keeps clean pid process world (after, { world with disk := disk }) := by
  have same : ∀ inode, after.descriptor = some inode → inode = fd := by
    intro inode found
    have held := (described inode found).1
    rw [pidFd, working.pidFd] at held
    exact (Option.some.inj held).symm
  refine ⟨⟨shape, ?_, by simp [opening], fun untouched => ⟨?_, ?_, position untouched⟩⟩,
    spares_disk working.guardFd guard⟩
  · intro held found
    obtain ⟨named, locked⟩ := working.guard held (guardFd ▸ found)
    exact ⟨guard.trans named, locked⟩
  · intro inode found
    rw [(described inode found).2, same inode found]
    exact working.named untouched
  · intro inode text found expected
    rw [same inode found]
    exact content untouched text expected

section Working

variable {fd : Nat}

theorem Working.flags_owned (working : process.Working clean pid world fd)
    (place : process.place.flags = [(true, true, true)]) {after : Place}
    (owned : (true, true, true) ∈ after.flags) : process.flags ∈ after.flags := by
  rw [flags_eq working.shape place]
  exact owned

theorem Working.owns (working : process.Working clean pid world fd)
    (place : process.place.flags = [(true, true, false)])
    (unpublished : process.published = false) (position : Nat) :
    Keeps clean pid process world ({ process with position := position }.own, world) := by
  have flags := flags_eq working.shape place
  simp only [Process.flags, Prod.mk.injEq] at flags
  have shape : ({ process with position := position }.own).Shape := by
    refine ⟨?_, by simp [own, unpublished]⟩
    cases process.exitRegistered <;>
      simp [own, Process.flags, flags, Place.flags]
  refine working.becomes shape rfl rfl ?_ rfl ?_ ?_ ?_
  · cases process.exitRegistered <;> simp [own, Place.opening]
  · cases process.exitRegistered <;> simp [own, descriptor]
  · cases process.exitRegistered <;>
      simp [own, Place.expected, unpublished]
  · cases process.exitRegistered <;> simp [own]

theorem Working.judges (working : process.Working clean pid world fd)
    (place : process.place = .read) (content : List UInt8) :
    Keeps clean pid process world (process.judge content, world) := by
  have unpublished :=
    working.shape.unpublished (by simp [place]) (by simp [place, Place.publishing])
  have flags := working.shape.flags
  rw [place] at flags
  unfold judge
  dsimp only
  split
  · exact working.owns (by rw [place]; rfl) unpublished _
  · exact working.becomes ⟨flags, by simp [unpublished]⟩ rfl rfl rfl rfl (by simp [descriptor])
      (by simp [Place.expected]) (by simp)

theorem Working.writes (working : process.Working clean pid world fd) {offset count : Nat}
    (place : process.place = .write offset) (room : offset + count ≤ (pidText pid).length) :
    Keeps clean pid process world (
      { process with
        position := process.position + count
        place := if offset + count = (pidText pid).length then .sync
          else .write (offset + count) },
      { world with
        disk := world.disk.store fd (writeAt (world.disk.content fd) process.position
          (((pidText pid).drop offset).take count)) }) := by
  have owns : process.ownsPid = true := by
    have flags := flags_eq working.shape (by rw [place]; rfl)
    exact congrArg (fun flags => flags.2.2) flags
  -- the file holds the beginning of the text, up to the file offset
  have written : clean = true → (world.disk.store fd (writeAt (world.disk.content fd)
      process.position (((pidText pid).drop offset).take count))).content fd =
      (pidText pid).take (offset + count) := by
    intro untouched
    obtain ⟨-, content, position⟩ := working.standing untouched
    obtain ⟨position, short⟩ := position offset place
    have begun := content fd ((pidText pid).take offset)
      (by simp [descriptor, place, working.pidFd]) (by simp [place, Place.expected])
    rw [Disk.store, begun, position, writeAt_take _ short]
    exact Function.update_self ..
  by_cases last : offset + count = (pidText pid).length
  · simp only [if_pos last]
    refine working.becomes ⟨working.flags_owned (by rw [place]; rfl) (by simp [Place.flags]), ?_⟩
      rfl rfl rfl rfl ?_ ?_ (by simp)
    · exact fun _ => ⟨owns, .inr rfl⟩
    · exact fun inode found => ⟨found, rfl⟩
    · intro untouched text expected
      cases Option.some.inj expected
      rw [written untouched, last, List.take_length]
  · simp only [if_neg last]
    refine working.becomes ⟨working.flags_owned (by rw [place]; rfl) (by simp [Place.flags]), ?_⟩
      rfl rfl rfl rfl ?_ ?_ ?_
    · exact fun _ => ⟨owns, .inr rfl⟩
    · exact fun inode found => ⟨found, rfl⟩
    · intro untouched text expected
      cases Option.some.inj expected
      exact written untouched
    · intro untouched other same
      obtain ⟨position, -⟩ := (working.standing untouched).position offset place
      cases same
      exact ⟨by rw [position], room⟩

theorem Good.working (good : process.Good clean pid world) (pidFd : process.pidFd = some fd)
    (attached : process.descriptor = process.pidFd) : process.Working clean pid world fd := by
  refine ⟨good, pidFd, ?_, fun untouched => ?_⟩
  · have flags := good.shape.releasable
    intro free
    simp [Process.flags, pidFd, free] at flags
  · exact (good.standing untouched).named fd (attached.trans pidFd)

theorem Good.closes (good : process.Good clean pid world) (place : process.place = .closePid)
    (fd : Nat) :
    Keeps clean pid process world ({ process with pidFd := none }.finish,
      world.close pid fd .pid) := by
  have unpublished := good.shape.unpublished (by simp [place]) (by simp [place, Place.publishing])
  have guarded : process.guardFd.isSome = true := by
    have flags := good.shape.flags
    rw [place] at flags
    simp only [Process.flags, Place.flags, List.mem_cons, Prod.mk.injEq, List.not_mem_nil,
      or_false] at flags
    rcases flags with flags | flags <;> exact flags.1
  have next : { process with pidFd := none }.finish =
      { process with pidFd := none, pidPath := false, ownsPid := false, place := .closeGuard } := by
    simp [finish, guarded]
  rw [next]
  refine ⟨⟨⟨by simp [Process.flags, guarded, Place.flags], by simp [unpublished]⟩, ?_,
    by simp [Place.opening], fun _ => ?_⟩, spares_close fd .pid⟩
  · exact good.guard_close fd .pid (by simp)
  · exact ⟨by simp [descriptor], by simp [descriptor], by simp⟩

theorem Good.leaves (good : process.Good clean pid world) (place : process.place = .closeGuard)
    (fd : Nat) :
    Keeps clean pid process world ({ process with guardFd := none, place := .idle },
      world.close pid fd .guard) := by
  have unpublished := good.shape.unpublished (by simp [place]) (by simp [place, Place.publishing])
  obtain ⟨-, pidFd, owns⟩ := good.shape.guarded (by rw [place]; rfl)
  refine ⟨⟨⟨by simp [Process.flags, Place.flags, pidFd, owns], by simp [unpublished]⟩, by simp,
    by simp [Place.opening], fun _ => ?_⟩, spares_close fd .guard⟩
  exact ⟨by simp [descriptor, pidFd], by simp [descriptor, pidFd], by simp⟩

theorem Working.truncates (working : process.Working clean pid world fd)
    (place : process.place = .truncate) :
    Keeps clean pid process world
      ({ process with place := .seek }, { world with disk := world.disk.store fd [] }) := by
  refine working.becomes ⟨working.flags_owned (by rw [place]; rfl) (by simp [Place.flags]), ?_⟩
    rfl rfl rfl rfl (fun inode found => ⟨found, rfl⟩) ?_ (by simp)
  · intro published
    exact ⟨(working.shape.published published).1, .inr rfl⟩
  · intro _ text expected
    cases Option.some.inj expected
    exact Function.update_self ..

theorem Working.seeks (working : process.Working clean pid world fd)
    (place : process.place = .seek) :
    Keeps clean pid process world ({ process with position := 0, place := .write 0 }, world) := by
  refine working.becomes ⟨working.flags_owned (by rw [place]; rfl) (by simp [Place.flags]), ?_⟩
    rfl rfl rfl rfl (fun inode found => ⟨found, rfl⟩) ?_ ?_
  · intro published
    exact ⟨(working.shape.published published).1, .inr rfl⟩
  · intro untouched text expected
    cases Option.some.inj expected
    exact (working.standing untouched).content fd []
      (by simp [descriptor, place, working.pidFd]) (by simp [place, Place.expected])
  · intro _ offset writing
    cases writing
    exact ⟨rfl, Nat.zero_le _⟩

theorem Working.syncs (working : process.Working clean pid world fd)
    (place : process.place = .sync) :
    Keeps clean pid process world ({ process with published := true, place := .idle }, world) := by
  have owns : process.ownsPid = true := by
    have flags := flags_eq working.shape (by rw [place]; rfl)
    exact congrArg (fun flags => flags.2.2) flags
  refine working.becomes ⟨working.flags_owned (by rw [place]; rfl) (by simp [Place.flags]), ?_⟩
    rfl rfl rfl rfl (fun inode found => ⟨found, rfl⟩) ?_ (by simp)
  · exact fun _ => ⟨owns, .inl rfl⟩
  · intro untouched text expected
    have text_eq : pidText pid = text := by simpa [Place.expected] using expected
    exact (working.standing untouched).content fd text
      (by simp [descriptor, place, working.pidFd]) (by simp [place, Place.expected, text_eq])

/-- Between the system calls of `skyuv_pid_release`. -/
theorem Working.releases (working : process.Working clean pid world fd)
    (place : process.place = .held ∨ process.place = .current ∨ process.place = .unlink)
    {after : Place} (destination : after = .current ∨ after = .unlink ∨ after = .closePid)
    {disk : Disk} (guard : disk.guard = world.disk.guard)
    (path : after = .closePid ∨ disk.path = world.disk.path) :
    Keeps clean pid process world ({ process with place := after },
      { world with disk := disk }) := by
  have unpublished : process.published = false := by
    apply working.shape.unpublished <;>
      rcases place with place | place | place <;> simp [place, Place.publishing]
  have owned : process.place.flags = [(true, true, true)] := by
    rcases place with place | place | place <;> rw [place] <;> rfl
  refine working.becomes ⟨working.flags_owned owned ?_, by simp [unpublished]⟩ rfl rfl ?_ guard
    ?_ ?_ ?_
  · rcases destination with rfl | rfl | rfl <;> simp [Place.flags]
  · rcases destination with rfl | rfl | rfl <;> rfl
  · intro inode found
    rcases destination with rfl | rfl | rfl
    · exact ⟨found, path.resolve_left (by simp)⟩
    · exact ⟨found, path.resolve_left (by simp)⟩
    · cases found
  · rcases destination with rfl | rfl | rfl <;> simp [Place.expected]
  · rcases destination with rfl | rfl | rfl <;> simp

theorem Working.registers (working : process.Working clean pid world fd)
    (place : process.place = .register) :
    Keeps clean pid process world
      ({ process with exitRegistered := true, place := .idle }, world) := by
  have unpublished :=
    working.shape.unpublished (by simp [place]) (by simp [place, Place.publishing])
  exact working.becomes
    ⟨working.flags_owned (by rw [place]; rfl) (by simp [Place.flags]), by simp [unpublished]⟩
    rfl rfl rfl rfl (fun inode found => ⟨found, rfl⟩) (by simp [Place.expected, unpublished])
    (by simp)

/-- Inside the calls that work on `pid_fd`, the path names it. -/
theorem descriptor_working (place : process.place.working = true) :
    process.descriptor = process.pidFd := by
  unfold descriptor
  cases shown : process.place <;> simp_all [Place.working]

end Working

/-- Every system call keeps what is known of its process. -/
theorem Good.systemCall (good : process.Good clean pid world) {outcome : Outcome}
    {result : Process × World} (run : world.systemCall pid process outcome = some result) :
    Keeps clean pid process world result := by
  cases systemCall_moves run with
  | opens place made => exact good.open place made
  | unopened place => exact good.unopened place
  | checks place destination => exact good.checks place destination
  | locks place taken => exact good.locks place taken
  | abandons place => exact good.abandons place
  | waits place => exact ⟨good, spares_refl⟩
  | fails pidFd place => exact (good.working pidFd (descriptor_working place)).fails
  | reads pidFd place =>
      exact (good.working pidFd (descriptor_working (by rw [place]; rfl))).judges place _
  | owns pidFd place =>
      have unpublished :=
        good.shape.unpublished (by simp [place]) (by simp [place, Place.publishing])
      exact (good.working pidFd (descriptor_working (by rw [place]; rfl))).owns
        (by rw [place]; rfl) unpublished process.position
  | registers pidFd place =>
      exact (good.working pidFd (descriptor_working (by rw [place]; rfl))).registers place
  | truncates pidFd place =>
      exact (good.working pidFd (descriptor_working (by rw [place]; rfl))).truncates place
  | seeks pidFd place =>
      exact (good.working pidFd (descriptor_working (by rw [place]; rfl))).seeks place
  | writes pidFd place room =>
      exact (good.working pidFd (descriptor_working (by rw [place]; rfl))).writes place room
  | syncs pidFd place =>
      exact (good.working pidFd (descriptor_working (by rw [place]; rfl))).syncs place
  | stats pidFd place =>
      exact (good.working pidFd (by simp [descriptor, place])).releases (.inl place) (.inl rfl) rfl
        (.inr rfl)
  | finds pidFd place named =>
      exact (good.working pidFd (by simp [descriptor, place])).releases (.inr (.inl place))
        (.inr (.inl rfl)) rfl (.inr rfl)
  | spares pidFd place =>
      have attached : process.descriptor = process.pidFd := by
        rcases place with place | place | place <;> simp [descriptor, place]
      exact (good.working pidFd attached).releases place (.inr (.inr rfl)) rfl (.inr rfl)
  | unlinks pidFd place =>
      exact (good.working pidFd (by simp [descriptor, place])).releases (.inr (.inr place))
        (.inr (.inr rfl)) rfl (.inl rfl)
  | closesPid pidFd place => exact good.closes place _
  | closesGuard guardFd place => exact good.leaves place _

/-! ## Calls of the interface -/

theorem Good.start_release (good : process.Good clean pid world) (idle : process.place = .idle) :
    process.release.Good clean pid world := by
  refine good.release rfl good.guard fun untouched fd pidFd => ?_
  exact (good.standing untouched).named fd (by simp [descriptor, idle, pidFd])

theorem Good.start_acquire (good : process.Good clean pid world) (idle : process.place = .idle)
    (valid memory : Bool) : (process.acquire valid memory).Good clean pid world := by
  unfold Process.acquire
  split
  · exact good
  · rename_i refused
    split
    · exact good.start_release idle
    · simp only [Bool.or_eq_true, not_or] at refused
      have pidFd := Option.not_isSome_iff_eq_none.mp refused.1.1
      have guardFd := Option.not_isSome_iff_eq_none.mp refused.1.2
      have flags := good.shape.flags
      simp only [Process.flags, idle, Place.flags, pidFd, guardFd, Option.isSome_none,
        List.mem_cons, Prod.mk.injEq, true_and, Bool.false_eq_true, false_and, or_false,
        List.not_mem_nil] at flags
      have unpublished : process.published = false := by
        cases published : process.published with
        | false => rfl
        | true => cases flags.symm.trans (good.shape.published published).1
      refine ⟨⟨by simp [Process.flags, Place.flags, pidFd, guardFd, flags], by simp [unpublished]⟩,
        by simp [guardFd], by simp [Place.opening], fun _ => ?_⟩
      exact ⟨by simp [descriptor], by simp [descriptor], by simp⟩

theorem Good.start_publish (good : process.Good clean pid world) (idle : process.place = .idle) :
    (process.publish pid).Good clean pid world := by
  unfold Process.publish
  split
  · exact good
  · rename_i allowed
    split
    · exact good.start_release idle
    · simp only [Bool.or_eq_true, not_or, Bool.not_eq_true, Option.isNone_eq_false_iff,
        Bool.not_eq_false'] at allowed
      obtain ⟨pidFd, owns⟩ := allowed
      have flags := good.shape.flags
      have owned : process.flags = (true, true, true) := by
        simpa [idle, Place.flags, Process.flags, owns] using flags
      refine ⟨⟨List.mem_singleton.mpr owned, fun _ => ⟨owns, .inr rfl⟩⟩, good.guard,
        by simp [Place.opening],
          fun untouched => ⟨fun fd found => ?_, by simp [Place.expected], by simp⟩⟩
      exact (good.standing untouched).named fd (by simpa [descriptor, idle] using found)

end Process

end Skyuv.Platform
