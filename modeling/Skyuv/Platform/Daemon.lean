import Mathlib.Algebra.Group.Int.Defs
import Skyuv.Lib.LockTable
import Skyuv.Lib.TransitionSystem

/-!
# PID files

The PID functions of `daemon.c`, run by any number of processes on one path, one
system call at a time.  Between two calls of the interface a process is `idle`;
otherwise its `Place` is the system call it makes next.  Every system call may
fail, and a process may die at any point.

A descriptor is the inode it was opened on.  The kernel drops a `flock` with the
descriptor, so the owner of a lock is a process together with the variable that
holds the descriptor.  Outsiders may do what they like to the path of the PID
file, but the `.lock` file stays.
-/

set_option autoImplicit false

namespace Skyuv.Platform

open TransitionSystem

/-! ## The recorded PID -/

/-- `isspace` of the C locale. -/
def isSpace (byte : UInt8) : Bool := byte = 32 || (9 ≤ byte && byte ≤ 13)

def isDigit (byte : UInt8) : Bool := 48 ≤ byte && byte ≤ 57

def digitsValue (digits : List UInt8) : Nat :=
  digits.foldl (fun value digit => value * 10 + (digit.toNat - 48)) 0

/-- The optional sign of a number, and what follows it. -/
def takeSign : List UInt8 → Bool × List UInt8
  | 45 :: rest => (true, rest)
  | 43 :: rest => (false, rest)
  | bytes => (false, bytes)

/-- `strtol` to base 10 before its range check; `none` is `end == buffer`. -/
def strtol (buffer : List UInt8) : Option Int :=
  let (negative, rest) := takeSign (buffer.dropWhile isSpace)
  let digits := rest.takeWhile isDigit
  if digits = [] then none
  else if negative then some (-(digitsValue digits : Int))
  else some (digitsValue digits)

/-- The process that `skyuv_pid_acquire` asks `kill` about.  A number outside
`long` sets `errno`, and one outside `pid_t` does not survive the cast. -/
def previousPid (content : List UInt8) : Option Int :=
  match strtol (content.take 63) with
  | none => none
  | some previous =>
      if -2 ^ 63 ≤ previous ∧ previous < 2 ^ 63 ∧ previous > 0 ∧
          (-2 ^ 31 ≤ previous ∧ previous < 2 ^ 31) then
        some previous
      else none

/-- What `skyuv_pid_publish` prints: `"%ld\n"`. -/
def pidText (pid : Nat) : List UInt8 :=
  (Nat.toDigits 10 pid).map (fun digit => digit.toNat.toUInt8) ++ [10]

/-! ## Files -/

/-- The two files that are locked; also the variable a descriptor ends up in. -/
inductive Role where
  | guard
  | pid
  deriving DecidableEq, Repr

/-- `special` files can be opened and fail `S_ISREG`; the rest, symbolic links and
directories among them, cannot be opened with these flags. -/
inductive Kind where
  | regular
  | special
  | unopenable
  deriving DecidableEq, Repr

/-- The two directory entries and the inodes, used ones below `next`. -/
structure Disk where
  path : Option Nat
  guard : Option Nat
  content : Nat → List UInt8
  kind : Nat → Kind
  next : Nat
  pathOld : ∀ inode, path = some inode → inode < next
  guardOld : ∀ inode, guard = some inode → inode < next

namespace Disk

def entry (disk : Disk) : Role → Option Nat
  | .guard => disk.guard
  | .pid => disk.path

/-- A new inode that no entry names yet. -/
def grow (disk : Disk) (kind : Kind) (content : List UInt8) : Disk :=
  { disk with
    content := Function.update disk.content disk.next content
    kind := Function.update disk.kind disk.next kind
    next := disk.next + 1
    pathOld := fun inode named => Nat.lt_succ_of_lt (disk.pathOld inode named)
    guardOld := fun inode named => Nat.lt_succ_of_lt (disk.guardOld inode named) }

/-- The file that `O_CREAT` makes. -/
def create (disk : Disk) (role : Role) : Disk :=
  let grown := disk.grow .regular []
  match role with
  | .guard =>
      { grown with
        guard := some disk.next
        guardOld := fun _ named => Option.some.inj named ▸ Nat.lt_succ_self disk.next }
  | .pid =>
      { grown with
        path := some disk.next
        pathOld := fun _ named => Option.some.inj named ▸ Nat.lt_succ_self disk.next }

/-- `open` with `O_RDWR | O_CREAT | O_NOFOLLOW`. -/
def openFile (disk : Disk) (role : Role) : Option (Nat × Disk) :=
  match disk.entry role with
  | none => some (disk.next, disk.create role)
  | some inode => if disk.kind inode = .unopenable then none else some (inode, disk)

def store (disk : Disk) (inode : Nat) (content : List UInt8) : Disk :=
  { disk with content := Function.update disk.content inode content }

def unlink (disk : Disk) : Disk :=
  { disk with path := none, pathOld := fun _ named => by cases named }

end Disk

/-- `write` at a file offset; a gap is filled with zeros. -/
def writeAt (content : List UInt8) (offset : Nat) (bytes : List UInt8) : List UInt8 :=
  (content ++ List.replicate (offset - content.length) 0).take offset ++ bytes ++
    content.drop (offset + bytes.length)

/-! ## Processes -/

/-- The next system call.  `open` to `abandon` are `lock_file`, up to `register` is
`skyuv_pid_acquire`, up to `sync` is `skyuv_pid_publish`; `held` and `current` are
the `fstat` and the `lstat` of `skyuv_pid_release`. -/
inductive Place where
  | idle
  | open (role : Role)
  | stat (role : Role) (fd : Nat)
  | cloexec (role : Role) (fd : Nat)
  | lock (role : Role) (fd : Nat)
  | abandon (role : Role) (fd : Nat)
  | read
  | probe (previous : Int)
  | register
  | truncate
  | seek
  | write (offset : Nat)
  | sync
  | held
  | current
  | unlink
  | closePid
  | closeGuard
  deriving DecidableEq, Repr

/-- The static variables of `daemon.c` and the offset of `pid_fd`.  `published` is
history: a publish has succeeded and no release has begun since. -/
structure Process where
  guardFd : Option Nat := none
  pidFd : Option Nat := none
  pidPath : Bool := false
  ownsPid : Bool := false
  exitRegistered : Bool := false
  position : Nat := 0
  place : Place := .idle
  published : Bool := false
  deriving DecidableEq, Repr

namespace Process

/-- The end of `skyuv_pid_release`, once `pid_fd` is closed. -/
def finish (process : Process) : Process :=
  { process with
    pidPath := false
    ownsPid := false
    place := if process.guardFd.isSome then .closeGuard else .idle }

/-- `skyuv_pid_release` up to its first system call. -/
def release (process : Process) : Process :=
  if process.pidFd.isSome then
    { process with
      published := false
      place := if process.ownsPid then .held else .closePid }
  else { process with published := false }.finish

/-- `skyuv_pid_acquire` up to its first system call; `valid` is the check of the
argument. -/
def acquire (process : Process) (valid memory : Bool) : Process :=
  if process.pidFd.isSome || process.guardFd.isSome || !valid then process
  else if !memory then process.release
  else { process with pidPath := true, place := .open .guard }

/-- What `skyuv_pid_acquire` does with a locked descriptor. -/
def locked (process : Process) (fd : Nat) : Role → Process
  | .guard => { process with guardFd := some fd, place := .open .pid }
  | .pid => { process with pidFd := some fd, position := 0, place := .read }

/-- `owns_pid = 1` and what follows. -/
def own (process : Process) : Process :=
  { process with
    ownsPid := true, place := if process.exitRegistered then .idle else .register }

/-- `skyuv_pid_acquire` after the file was read. -/
def judge (process : Process) (content : List UInt8) : Process :=
  let process := { process with position := (content.take 63).length }
  match previousPid content with
  | none => process.own
  | some previous => { process with place := .probe previous }

/-- `skyuv_pid_publish` up to its first system call. -/
def publish (process : Process) (pid : Nat) : Process :=
  if process.pidFd.isNone || !process.ownsPid then process
  else if (pidText pid).length ≥ 64 then process.release
  else { process with place := .truncate }

end Process

/-! ## System calls -/

structure World where
  disk : Disk
  locks : Nat → Option (Nat × Role)

/-- How a system call ends: `error` is `ESRCH` for `kill`, and `denied` any other
error of it; `wrote` is for `write` alone. -/
inductive Outcome where
  | ok
  | error
  | denied
  | interrupted
  | wrote (count : Nat)
  deriving DecidableEq, Repr

/-- A call that succeeds or fails without touching a file. -/
def Outcome.branch (outcome : Outcome) (success failure : Process) : Option Process :=
  match outcome with
  | ok => some success
  | error => some failure
  | _ => none

namespace World

def close (world : World) (pid fd : Nat) (role : Role) : World :=
  { world with locks := LockTable.release world.locks fd (pid, role) }

/-- The write loop of `skyuv_pid_publish`. -/
def writeLoop (world : World) (pid : Nat) (process : Process) (fd offset : Nat) :
    Outcome → Option (Process × World)
  | .interrupted => some (process, world)
  | .error | .wrote 0 => some (process.release, world)
  | .wrote count =>
      if offset + count ≤ (pidText pid).length then
        let bytes := ((pidText pid).drop offset).take count
        some (
          { process with
            position := process.position + count
            place := if offset + count = (pidText pid).length then .sync
              else .write (offset + count) },
          { world with
            disk := world.disk.store fd (writeAt (world.disk.content fd) process.position bytes) })
      else none
  | _ => none

/-- The next system call of `lock_file`. -/
def lockFile (world : World) (pid : Nat) (process : Process) (outcome : Outcome) :
    Option (Process × World) :=
  match process.place with
  | .open role =>
      match outcome with
      | .ok => (world.disk.openFile role).map fun result =>
          ({ process with place := .stat role result.1 }, { world with disk := result.2 })
      | .error => some (process.release, world)
      | _ => none
  | .stat role fd =>
      (outcome.branch
        { process with
          place := if world.disk.kind fd = .regular then .cloexec role fd else .abandon role fd }
        { process with place := .abandon role fd }).map fun next => (next, world)
  | .cloexec role fd =>
      (outcome.branch { process with place := .lock role fd }
        { process with place := .abandon role fd }).map fun next => (next, world)
  | .lock role fd =>
      match outcome with
      | .ok => (LockTable.acquire world.locks fd (pid, role)).map fun locks =>
          (process.locked fd role, { world with locks := locks })
      | .error => some ({ process with place := .abandon role fd }, world)
      | _ => none
  | .abandon role fd => some (process.release, world.close pid fd role)
  | _ => none

/-- The next system call on `pid_fd`, which is open on inode `fd`. -/
def pidFile (world : World) (pid : Nat) (process : Process) (fd : Nat) (outcome : Outcome) :
    Option (Process × World) :=
  match process.place with
  | .read =>
      match outcome with
      | .ok => some (process.judge (world.disk.content fd), world)
      | .interrupted => some (process, world)
      | .error => some (process.release, world)
      | _ => none
  | .probe _ =>
      match outcome with
      | .ok | .denied => some (process.release, world)
      | .error => some (process.own, world)
      | _ => none
  | .register =>
      (outcome.branch { process with exitRegistered := true, place := .idle }
        process.release).map fun next => (next, world)
  | .truncate =>
      match outcome with
      | .ok => some ({ process with place := .seek },
          { world with disk := world.disk.store fd [] })
      | .error => some (process.release, world)
      | _ => none
  | .seek =>
      (outcome.branch { process with position := 0, place := .write 0 }
        process.release).map fun next => (next, world)
  | .write offset => world.writeLoop pid process fd offset outcome
  | .sync =>
      (outcome.branch { process with published := true, place := .idle }
        process.release).map fun next => (next, world)
  | .held =>
      (outcome.branch { process with place := .current }
        { process with place := .closePid }).map fun next => (next, world)
  | .current =>
      (outcome.branch
        { process with place := if world.disk.path = some fd then .unlink else .closePid }
        { process with place := .closePid }).map fun next => (next, world)
  | .unlink =>
      match outcome with
      | .ok => some ({ process with place := .closePid },
          { world with disk := world.disk.unlink })
      | .error => some ({ process with place := .closePid }, world)
      | _ => none
  | .closePid =>
      some ({ process with pidFd := none }.finish, world.close pid fd .pid)
  | _ => none

/-- The next system call of a process. -/
def systemCall (world : World) (pid : Nat) (process : Process) (outcome : Outcome) :
    Option (Process × World) :=
  match process.place with
  | .idle => none
  | .open _ | .stat _ _ | .cloexec _ _ | .lock _ _ | .abandon _ _ =>
      world.lockFile pid process outcome
  | .closeGuard =>
      match process.guardFd with
      | none => none
      | some fd =>
          some ({ process with guardFd := none, place := .idle }, world.close pid fd .guard)
  | _ =>
      match process.pidFd with
      | none => none
      | some fd => world.pidFile pid process fd outcome

end World

/-! ## The system -/

/-- What outsiders do to the files: make one, let the path name another or none, and
write into one. -/
inductive Outsider where
  | create (kind : Kind) (content : List UInt8)
  | link (inode : Nat)
  | unlink
  | write (inode : Nat) (content : List UInt8)
  deriving DecidableEq, Repr

def Disk.tamper (disk : Disk) : Outsider → Option Disk
  | .create kind content => some (disk.grow kind content)
  | .link inode =>
      if old : inode < disk.next then
        some { disk with
          path := some inode, pathOld := fun _ named => Option.some.inj named ▸ old }
      else none
  | .unlink => some disk.unlink
  | .write inode content => some (disk.store inode content)

/-- `tampered` is history: an outsider has been at the files. -/
structure State where
  world : World
  processes : Nat → Process
  tampered : Bool

inductive Label where
  | acquire (pid : Nat) (valid memory : Bool)
  | publish (pid : Nat)
  | release (pid : Nat)
  | system (pid : Nat) (outcome : Outcome)
  | crash (pid : Nat)
  | outside (outsider : Outsider)
  deriving DecidableEq, Repr

namespace State

def set (state : State) (pid : Nat) (process : Process) : State :=
  { state with processes := Function.update state.processes pid process }

/-- A call of the interface. -/
def start (state : State) (pid : Nat) (begin : Process → Process) : Option State :=
  if (state.processes pid).place = .idle then
    some (state.set pid (begin (state.processes pid)))
  else none

/-- The kernel closes what the process had open. -/
def crash (state : State) (pid : Nat) : State :=
  { state.set pid {} with
    world := { state.world with
      locks := LockTable.reclaim state.world.locks fun owner => owner.1 = pid } }

end State

def step (state : State) : Label → Option State
  | .acquire pid valid memory => state.start pid fun process => process.acquire valid memory
  | .publish pid => state.start pid fun process => process.publish pid
  | .release pid => state.start pid Process.release
  | .system pid outcome =>
      (state.world.systemCall pid (state.processes pid) outcome).map fun result =>
        { state.set pid result.1 with world := result.2 }
  | .crash pid => some (state.crash pid)
  | .outside outsider => (state.world.disk.tamper outsider).map fun disk =>
      { state with world := { state.world with disk := disk }, tampered := true }

/-- Processes that have just started, on any files. -/
def pidSystem (disk : Disk) : System State Label where
  init := ⟨⟨disk, fun _ => none⟩, fun _ => {}, false⟩
  step := step

end Skyuv.Platform
