import Skyuv.Platform.PidCalls

/-!
# At most one process owns the PID file

A process that owns the PID file holds the lock of the `.lock` file, and the
`.lock` file is always the same inode, so there is one owner at most.  Whatever
changes the PID file is done by the holder of that lock; the others never get past
their first `flock`.
-/

set_option autoImplicit false

namespace Skyuv.Platform

open TransitionSystem

/-! ## All processes -/

namespace State

variable {state next : State}

def Inv (state : State) : Prop :=
  ∀ pid, (state.processes pid).Good (!state.tampered) pid state.world

/-- One process at most has `guard_fd`. -/
theorem Inv.alone (inv : state.Inv) {pid other : Nat}
    (held : (state.processes pid).guardFd ≠ none)
    (also : (state.processes other).guardFd ≠ none) : pid = other := by
  obtain ⟨fd, held⟩ := Option.ne_none_iff_exists'.mp held
  obtain ⟨inode, also⟩ := Option.ne_none_iff_exists'.mp also
  obtain ⟨named, locked⟩ := (inv pid).guard fd held
  obtain ⟨same, taken⟩ := (inv other).guard inode also
  cases named.symm.trans same
  cases locked.symm.trans taken
  rfl

theorem Inv.keeps (inv : state.Inv) {pid : Nat} {result : Process × World}
    (keeps : Process.Keeps (!state.tampered) pid (state.processes pid) state.world result) :
    Inv { state.set pid result.1 with world := result.2 } := by
  intro other
  by_cases same : other = pid
  · subst same
    simpa [set] using keeps.good
  · simp only [set, Function.update_of_ne same]
    refine (inv other).other keeps.spares same fun held => ?_
    by_contra also
    exact same (inv.alone held also)

theorem Inv.start (inv : state.Inv) {pid : Nat} {begin : Process → Process}
    (run : state.start pid begin = some next)
    (good : (state.processes pid).place = .idle →
      (begin (state.processes pid)).Good (!state.tampered) pid state.world) : next.Inv := by
  obtain ⟨idle, ⟨⟩⟩ := Option.ite_none_right_eq_some.mp run
  exact @Inv.keeps state inv pid (begin (state.processes pid), state.world)
    ⟨good idle, Process.spares_refl⟩

theorem Inv.crash (inv : state.Inv) (pid : Nat) : (state.crash pid).Inv := by
  refine @Inv.keeps state inv pid ({}, _) ⟨?_, ?_⟩
  · exact ⟨⟨by simp [Process.flags, Place.flags], by simp⟩, by simp, by simp [Place.opening],
      fun _ => ⟨by simp [Process.descriptor], by simp [Process.descriptor], by simp⟩⟩
  · refine ⟨fun _ named => named, fun inode owner foreign held => ?_,
      fun _ => ⟨rfl, fun _ _ => rfl⟩⟩
    exact LockTable.reclaim_keeps (by simpa using foreign) held

theorem tamper_guard {disk after : Disk} {outsider : Outsider}
    (run : disk.tamper outsider = some after) : after.guard = disk.guard := by
  cases outsider with
  | create kind content =>
      cases run
      rfl
  | link inode =>
      obtain ⟨-, ⟨⟩⟩ := Option.dite_none_right_eq_some.mp run
      rfl
  | unlink =>
      cases run
      rfl
  | write inode content =>
      cases run
      rfl

theorem Inv.step (inv : state.Inv) {label : Label} (run : Platform.step state label = some next) :
    next.Inv := by
  cases label with
  | acquire pid valid memory =>
      simp only [Platform.step] at run
      exact inv.start run fun idle => (inv pid).start_acquire idle valid memory
  | publish pid =>
      simp only [Platform.step] at run
      exact inv.start run fun idle => (inv pid).start_publish idle
  | release pid =>
      simp only [Platform.step] at run
      exact inv.start run fun idle => (inv pid).start_release idle
  | system pid outcome =>
      obtain ⟨result, made, rfl⟩ := Option.map_eq_some_iff.mp run
      exact inv.keeps ((inv pid).systemCall made)
  | crash pid =>
      cases run
      exact inv.crash pid
  | outside outsider =>
      obtain ⟨disk, made, rfl⟩ := Option.map_eq_some_iff.mp run
      have guard := tamper_guard made
      intro pid
      obtain ⟨shape, held, opening, -⟩ := inv pid
      refine ⟨shape, fun fd found => ?_, fun fd found => guard.trans (opening fd found), by simp⟩
      exact ⟨guard.trans (held fd found).1, (held fd found).2⟩

theorem inv_of_reachable {disk : Disk} (reached : (pidSystem disk).Reachable state) :
    state.Inv := by
  refine reached.invariant Inv (fun pid => ?_) fun _ _ _ inv run => Inv.step inv run
  exact ⟨⟨by simp [pidSystem, Process.flags, Place.flags], by simp [pidSystem]⟩,
    by simp [pidSystem], by simp [pidSystem, Place.opening],
    fun _ => ⟨by simp [pidSystem, Process.descriptor], by simp [pidSystem, Process.descriptor],
      by simp [pidSystem]⟩⟩

theorem Inv.guarded (inv : state.Inv) {pid : Nat}
    (owns : (state.processes pid).ownsPid = true) : (state.processes pid).guardFd ≠ none := by
  have flags := (inv pid).shape.releasable
  intro free
  simp [Process.flags, owns, free] at flags

end State

/-- The process that takes the step. -/
def Label.actor : Label → Option Nat
  | .acquire pid _ _ | .publish pid | .release pid | .system pid _ | .crash pid => some pid
  | .outside _ => none

/-- The system calls before `owns_pid` is set leave a PID file that is there alone. -/
theorem Process.spares_file {process : Process} (shape : process.Shape)
    (foreign : process.ownsPid = false) {world : World} {pid : Nat} {outcome : Outcome}
    {result : Process × World} (run : world.systemCall pid process outcome = some result)
    {inode : Nat} (named : world.disk.path = some inode) :
    result.2.disk.path = some inode ∧
      result.2.disk.content inode = world.disk.content inode := by
  have owned : (true, true, true) = process.flags → False := by
    intro same
    cases (congrArg (fun flags => flags.2.2) same).trans foreign
  have busy : process.place.flags ≠ [(true, true, true)] := fun place =>
    owned (Process.flags_eq shape place).symm
  cases systemCall_moves run with
  | @opens role result place made =>
      cases role with
      | guard =>
          obtain ⟨path, content⟩ := Process.openFile_path made
          exact ⟨path.trans named, content inode named⟩
      | pid =>
          rcases Process.openFile_cases made with ⟨missing, -⟩ | ⟨_, -, rfl⟩
          · cases missing.symm.trans named
          · exact ⟨named, rfl⟩
  | truncates pidFd place => exact absurd (by rw [place]; rfl) busy
  | writes pidFd place room => exact absurd (by rw [place]; rfl) busy
  | unlinks pidFd place => exact absurd (by rw [place]; rfl) busy
  | _ => exact ⟨named, rfl⟩

theorem State.spares_file {state next : State} {label : Label} {pid : Nat}
    (shape : (state.processes pid).Shape) (actor : label.actor = some pid)
    (foreign : (state.processes pid).ownsPid = false) (run : step state label = some next)
    {inode : Nat} (named : state.world.disk.path = some inode) :
    next.world.disk.path = some inode ∧
      next.world.disk.content inode = state.world.disk.content inode := by
  have started : ∀ begin : Process → Process, state.start pid begin = some next →
      next.world = state.world := by
    intro begin run
    obtain ⟨-, ⟨⟩⟩ := Option.ite_none_right_eq_some.mp run
    rfl
  cases label with
  | acquire other valid memory | publish other | release other =>
      cases actor
      simp only [step] at run
      rw [started _ run]
      exact ⟨named, rfl⟩
  | system other outcome =>
      cases actor
      obtain ⟨result, made, rfl⟩ := Option.map_eq_some_iff.mp run
      exact Process.spares_file shape foreign made named
  | crash other =>
      cases run
      exact ⟨named, rfl⟩
  | outside outsider => cases actor

/-- At most one process owns the PID file.  A process that does not own it is at no
system call that changes it, and what it does leaves the path and the content
alone, except that it may make the file.  If no outsider has been at the files, a
process that has published and has not begun to release finds its PID in the file,
except while it is inside a further publish. -/
theorem pid_mutual_exclusion {disk : Disk} {state : State}
    (reached : (pidSystem disk).Reachable state) :
    (∀ pid other, (state.processes pid).ownsPid = true →
      (state.processes other).ownsPid = true → pid = other) ∧
    (∀ pid, (state.processes pid).place.mutates = true → (state.processes pid).ownsPid = true) ∧
    (∀ pid label next, label.actor = some pid → (state.processes pid).ownsPid = false →
      step state label = some next → ∀ inode, state.world.disk.path = some inode →
        next.world.disk.path = some inode ∧
          next.world.disk.content inode = state.world.disk.content inode) ∧
    (state.tampered = false → ∀ pid, (state.processes pid).published = true →
      (state.processes pid).place.publishing = false → ∃ inode,
        state.world.disk.path = some inode ∧ state.world.disk.content inode = pidText pid) := by
  have inv := State.inv_of_reachable reached
  refine ⟨?_, ?_, ?_, ?_⟩
  · intro pid other owns also
    exact inv.alone (inv.guarded owns) (inv.guarded also)
  · intro pid mutates
    have flags := (inv pid).shape.flags
    cases place : (state.processes pid).place <;>
      simp_all [Place.mutates, Place.flags, Process.flags]
  · intro pid label next actor foreign run inode named
    exact State.spares_file (inv pid).shape actor foreign run named
  · intro clean pid published resting
    obtain ⟨owns, idle⟩ := (inv pid).shape.published published
    have idle : (state.processes pid).place = .idle := idle.resolve_right (by simp [resting])
    have flags := (inv pid).shape.flags
    have attached : (state.processes pid).pidFd.isSome = true := by
      have both : (state.processes pid).guardFd.isSome = true ∧
          (state.processes pid).pidFd.isSome = true := by
        simpa [idle, Place.flags, Process.flags, owns] using flags
      exact both.2
    obtain ⟨fd, pidFd⟩ := Option.isSome_iff_exists.mp attached
    have described : (state.processes pid).descriptor = some fd := by
      simp [Process.descriptor, idle, pidFd]
    obtain ⟨named, content, -⟩ := (inv pid).standing (by simp [clean])
    exact ⟨fd, named fd described,
      content fd (pidText pid) described (by simp [idle, published, Place.expected])⟩

/-- A directory with neither file. -/
def emptyDisk : Disk := ⟨none, none, fun _ => [], fun _ => .regular, 0, nofun, nofun⟩

/-- Process 7 acquires and publishes; process 8 tries in between. -/
def publishRun : List Label :=
  ([.acquire 7 true true] : List Label) ++ List.replicate 10 (Label.system 7 .ok) ++
    ([.acquire 8 true true] : List Label) ++ List.replicate 3 (Label.system 8 .ok) ++
    ([.system 8 .error, .system 8 .ok] : List Label) ++
    ([.publish 7, .system 7 .ok, .system 7 .ok, .system 7 (.wrote 1), .system 7 .interrupted,
      .system 7 (.wrote 1), .system 7 .ok] : List Label)

def publishState : State := ((pidSystem emptyDisk).exec (pidSystem emptyDisk).init publishRun).get
  (by decide)

theorem pid_mutual_exclusion_published :
    (publishState.processes 7).published = true ∧ (publishState.processes 8).ownsPid = false ∧
      ∃ inode, publishState.world.disk.path = some inode ∧
        publishState.world.disk.content inode = pidText 7 :=
  ⟨by decide, by decide,
    (pid_mutual_exclusion ⟨publishRun, (Option.some_get _).symm⟩).2.2.2 (by decide) 7 (by decide)
      (by decide)⟩

/-- A second publish empties the file before it writes it again. -/
def republishRun : List Label := publishRun ++ ([.publish 7, .system 7 .ok] : List Label)

def republishState : State :=
  ((pidSystem emptyDisk).exec (pidSystem emptyDisk).init republishRun).get (by decide)

theorem published_file_empty :
    ∃ state, (pidSystem emptyDisk).Reachable state ∧ state.tampered = false ∧
      (state.processes 7).published = true ∧ state.world.disk.path = some 1 ∧
      state.world.disk.content 1 ≠ pidText 7 :=
  ⟨republishState, ⟨republishRun, (Option.some_get _).symm⟩, by decide, by decide, by decide,
    by decide⟩

end Skyuv.Platform
