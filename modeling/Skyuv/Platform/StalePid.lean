import Mathlib.Data.List.TakeWhile
import Skyuv.Platform.PidFile

/-!
# The recorded PID

Once both files are locked, `skyuv_pid_acquire` reads the PID file and asks `kill`
about the number at its beginning.  `Names` says which number that is, without the
parser; `Resolves` is the way from the read to the decision, in which other
processes may act between the two system calls.
-/

set_option autoImplicit false

namespace Skyuv.Platform

open TransitionSystem

/-! ## The number at the beginning of a file -/

/-- The first 63 bytes start with white space, an optional plus sign and the digits
of a number that is positive and fits into `pid_t`. -/
structure Names (content : List UInt8) (pid : Int) : Prop where
  spelt : ∃ spaces sign digits rest : List UInt8,
    content.take 63 = spaces ++ sign ++ digits ++ rest ∧ (∀ byte ∈ spaces, isSpace byte = true) ∧
      (sign = [] ∨ sign = [43]) ∧ digits ≠ [] ∧ (∀ byte ∈ digits, isDigit byte = true) ∧
      (∀ byte ∈ rest.head?, isDigit byte = false) ∧ pid = digitsValue digits
  positive : 0 < pid
  fits : pid < 2 ^ 31

section Parser

variable {byte : UInt8} {bytes rest digits spaces : List UInt8}

theorem isDigit_not_space (digit : isDigit byte = true) : isSpace byte = false := by
  simp only [isDigit, Bool.and_eq_true, decide_eq_true_eq] at digit
  obtain ⟨low, high⟩ := digit
  simp only [isSpace, Bool.or_eq_false_iff, decide_eq_false_iff_not, Bool.and_eq_false_iff]
  rw [UInt8.le_iff_toNat_le] at low
  constructor
  · rintro rfl
    simp at low
  · right
    rw [UInt8.le_iff_toNat_le]
    simp at low ⊢
    omega

theorem takeSign_digit (digit : isDigit byte = true) :
    takeSign (byte :: rest) = (false, byte :: rest) := by
  unfold takeSign
  split
  · rename_i same
    cases same
    cases digit
  · rename_i same
    cases same
    cases digit
  · rfl

/-- The three ways a number may start. -/
theorem takeSign_cases (bytes : List UInt8) :
    (∃ rest, bytes = 45 :: rest ∧ takeSign bytes = (true, rest)) ∨
      (∃ rest, bytes = 43 :: rest ∧ takeSign bytes = (false, rest)) ∨
      takeSign bytes = (false, bytes) := by
  unfold takeSign
  split
  · exact .inl ⟨_, rfl, rfl⟩
  · exact .inr (.inl ⟨_, rfl, rfl⟩)
  · exact .inr (.inr rfl)

theorem dropWhile_spaces (blank : ∀ byte ∈ spaces, isSpace byte = true)
    (stops : ∀ byte ∈ rest.head?, isSpace byte = false) :
    (spaces ++ rest).dropWhile isSpace = rest := by
  rw [List.dropWhile_append_of_pos blank]
  cases rest with
  | nil => rfl
  | cons byte rest =>
      have visible := stops byte rfl
      simp [List.dropWhile, visible]

theorem takeWhile_digits (all : ∀ byte ∈ digits, isDigit byte = true)
    (stops : ∀ byte ∈ rest.head?, isDigit byte = false) :
    (digits ++ rest).takeWhile isDigit = digits := by
  rw [List.takeWhile_append_of_pos all]
  cases rest with
  | nil => simp
  | cons byte rest =>
      have ends := stops byte rfl
      simp [List.takeWhile, ends]

theorem strtol_spelt {sign : List UInt8} (blank : ∀ byte ∈ spaces, isSpace byte = true)
    (signed : sign = [] ∨ sign = [43]) (some : digits ≠ [])
    (all : ∀ byte ∈ digits, isDigit byte = true)
    (stops : ∀ byte ∈ rest.head?, isDigit byte = false) :
    strtol (spaces ++ sign ++ digits ++ rest) = .some (digitsValue digits : Int) := by
  obtain ⟨first, more, rfl⟩ := List.exists_cons_of_ne_nil some
  have digit := all first List.mem_cons_self
  have signs : takeSign (sign ++ (first :: more ++ rest)) = (false, first :: more ++ rest) := by
    rcases signed with rfl | rfl
    · exact takeSign_digit digit
    · rfl
  have visible : ∀ byte ∈ (sign ++ (first :: more ++ rest)).head?, isSpace byte = false := by
    rcases signed with rfl | rfl
    · intro byte head
      cases Option.some.inj head
      exact isDigit_not_space digit
    · intro byte head
      cases Option.some.inj head
      decide
  have skipped : (spaces ++ sign ++ (first :: more) ++ rest).dropWhile isSpace =
      sign ++ (first :: more ++ rest) := by
    rw [List.append_assoc, List.append_assoc]
    exact dropWhile_spaces blank visible
  unfold strtol
  rw [skipped, signs]
  simp only
  rw [takeWhile_digits all stops, if_neg some]
  rfl

/-- A positive result of `strtol` is spelt at the beginning of the buffer. -/
theorem spelt_of_strtol {buffer : List UInt8} {value : Int} (result : strtol buffer = some value)
    (positive : 0 < value) : ∃ spaces sign digits rest : List UInt8,
      buffer = spaces ++ sign ++ digits ++ rest ∧ (∀ byte ∈ spaces, isSpace byte = true) ∧
        (sign = [] ∨ sign = [43]) ∧ digits ≠ [] ∧ (∀ byte ∈ digits, isDigit byte = true) ∧
        (∀ byte ∈ rest.head?, isDigit byte = false) ∧ value = digitsValue digits := by
  have parts (rest : List UInt8) : rest = rest.takeWhile isDigit ++ rest.dropWhile isDigit :=
    List.takeWhile_append_dropWhile.symm
  have blank : ∀ byte ∈ buffer.takeWhile isSpace, isSpace byte = true := fun byte member =>
    List.mem_takeWhile_imp member
  have whole : buffer = buffer.takeWhile isSpace ++ buffer.dropWhile isSpace :=
    List.takeWhile_append_dropWhile.symm
  have stops (rest : List UInt8) : ∀ byte ∈ (rest.dropWhile isDigit).head?,
      isDigit byte = false := by
    intro byte head
    have ends := List.head?_dropWhile_not isDigit rest
    rw [Option.mem_def.mp head] at ends
    exact ends
  unfold strtol at result
  rcases takeSign_cases (buffer.dropWhile isSpace) with ⟨rest, shown, signs⟩ |
    ⟨rest, shown, signs⟩ | signs
  · rw [signs] at result
    simp only at result
    split at result
    · cases result
    · rw [if_pos trivial, Option.some.injEq] at result
      omega
  · rw [signs] at result
    simp only at result
    split at result
    · cases result
    · rename_i some
      rw [if_neg (by simp), Option.some.injEq] at result
      refine ⟨_, [43], rest.takeWhile isDigit, rest.dropWhile isDigit, ?_, blank, .inr rfl, some,
        fun byte member => List.mem_takeWhile_imp member, stops rest, result.symm⟩
      rw [List.append_assoc, ← parts rest, List.append_assoc]
      rw [shown] at whole
      exact whole
  · rw [signs] at result
    simp only at result
    split at result
    · cases result
    · rename_i some
      rw [if_neg (by simp), Option.some.injEq] at result
      refine ⟨_, [], _, (buffer.dropWhile isSpace).dropWhile isDigit, ?_, blank, .inl rfl, some,
        fun byte member => List.mem_takeWhile_imp member, stops _, result.symm⟩
      rw [List.append_assoc, ← parts, List.append_nil]
      exact whole

end Parser

/-- `skyuv_pid_acquire` asks `kill` about the number that the file names. -/
theorem previousPid_eq_some_iff {content : List UInt8} {pid : Int} :
    previousPid content = some pid ↔ Names content pid := by
  unfold previousPid
  constructor
  · intro result
    split at result
    · cases result
    · rename_i previous parsed
      obtain ⟨⟨-, -, positive, -, fits⟩, ⟨⟩⟩ := Option.ite_none_right_eq_some.mp result
      exact ⟨spelt_of_strtol parsed positive, positive, fits⟩
  · rintro ⟨⟨spaces, sign, digits, rest, shown, blank, signed, some, all, stops, value⟩, positive,
      fits⟩
    rw [shown, strtol_spelt blank signed some all stops, ← value]
    simp only
    rw [if_pos]
    omega

/-! ## The decision -/

/-- What `kill` with signal 0 answers: 0 or an error other than `ESRCH` for a process
that lives. -/
def Kills (live : Int → Bool) (previous : Int) (answer : Outcome) : Prop :=
  if live previous then answer = .ok ∨ answer = .denied else answer = .error

/-- From the successful read of `skyuv_pid_acquire` to `owns_pid = 1` or to the
release.  `later` is the world when `kill` is called. -/
inductive Resolves (live : Int → Bool) (pid : Nat) (world : World) (process : Process) :
    Process → Prop where
  | unprobed {after : Process} (read : world.systemCall pid process .ok = some (after, world))
      (silent : ∀ previous, after.place ≠ .probe previous) : Resolves live pid world process after
  | probed {judged after : Process} {later : World} {previous : Int} {answer : Outcome}
      (read : world.systemCall pid process .ok = some (judged, world))
      (probe : judged.place = .probe previous) (answers : Kills live previous answer)
      (asked : later.systemCall pid judged answer = some (after, later)) :
      Resolves live pid world process after

namespace Process

/-- The way to `return 1` begins. -/
def Refused (process : Process) : Prop := process.ownsPid = false ∧ process.place = .closePid

/-- All that is left is `atexit`, if it was not called before. -/
def Owning (process : Process) : Prop :=
  process.ownsPid = true ∧ process.place = if process.exitRegistered then .idle else .register

theorem owning_own (process : Process) : process.own.Owning := ⟨rfl, rfl⟩

end Process

section Decision

variable {world later : World} {pid fd : Nat} {process : Process}

theorem read_judges (place : process.place = .read) (pidFd : process.pidFd = some fd) :
    world.systemCall pid process .ok = some (process.judge (world.disk.content fd), world) := by
  unfold World.systemCall World.pidFile
  simp only [place, pidFd]

theorem probe_asks {previous : Int} (place : process.place = .probe previous)
    (pidFd : process.pidFd = some fd) {live : Int → Bool} {answer : Outcome}
    (answers : Kills live previous answer) :
    later.systemCall pid process answer =
      some (if live previous then process.release else process.own, later) := by
  unfold Kills at answers
  unfold World.systemCall World.pidFile
  simp only [place, pidFd]
  split at answers
  · rename_i alive
    rw [if_pos alive]
    rcases answers with rfl | rfl
    · rfl
    · rfl
  · rename_i dead
    rw [if_neg dead, answers]

/-- A file that names a process is followed by the call of `kill`. -/
theorem judge_of_names {content : List UInt8} {previous : Int}
    (names : previousPid content = some previous) :
    (process.judge content).place = .probe previous ∧
      (process.judge content).pidFd = process.pidFd ∧
      (process.judge content).ownsPid = process.ownsPid := by
  simp [Process.judge, names]

/-- Any other content makes the process the owner. -/
theorem judge_of_nameless {content : List UInt8} (names : previousPid content = none) :
    (process.judge content).Owning := by
  simp only [Process.judge, names]
  exact Process.owning_own _

theorem Process.Owning.not_probe (owning : process.Owning) (previous : Int) :
    process.place ≠ .probe previous := by
  rw [owning.2]
  split <;> simp

/-- The number in the file and the processes that live decide. -/
theorem Resolves.decides {live : Int → Bool} {after : Process} (place : process.place = .read)
    (pidFd : process.pidFd = some fd) (foreign : process.ownsPid = false)
    (resolves : Resolves live pid world process after) :
    (∃ previous, previousPid (world.disk.content fd) = some previous ∧ live previous = true) ∧
        after.Refused ∨
      (∀ previous, previousPid (world.disk.content fd) = some previous → live previous = false) ∧
        after.Owning := by
  have judges := @read_judges world pid fd process place pidFd
  cases resolves with
  | unprobed read silent =>
      obtain ⟨rfl, -⟩ := Prod.mk.inj (Option.some.inj (judges.symm.trans read))
      cases names : previousPid (world.disk.content fd) with
      | none => exact .inr ⟨nofun, judge_of_nameless names⟩
      | some previous => exact absurd (judge_of_names names).1 (silent previous)
  | @probed judged _ later previous answer read probe answers asked =>
      obtain ⟨rfl, -⟩ := Prod.mk.inj (Option.some.inj (judges.symm.trans read))
      cases names : previousPid (world.disk.content fd) with
      | none => exact absurd probe ((judge_of_nameless names).not_probe previous)
      | some found =>
          obtain ⟨asks, same, owns⟩ := @judge_of_names process _ _ names
          cases asks.symm.trans probe
          rw [probe_asks probe (same.trans pidFd) answers, Option.some.injEq,
            Prod.mk.injEq] at asked
          obtain ⟨rfl, -⟩ := asked
          cases alive : live previous with
          | true =>
              refine .inl ⟨⟨previous, rfl, alive⟩, ?_⟩
              simp [Process.Refused, Process.release, same, pidFd, owns, foreign]
          | false =>
              rw [if_neg Bool.false_ne_true]
              refine .inr ⟨fun other named => ?_, Process.owning_own _⟩
              cases Option.some.inj named
              exact alive

/-- There is always a decision. -/
theorem exists_resolves (live : Int → Bool) (place : process.place = .read)
    (pidFd : process.pidFd = some fd) : ∃ after, Resolves live pid world process after := by
  have judges := @read_judges world pid fd process place pidFd
  cases names : previousPid (world.disk.content fd) with
  | none => exact ⟨_, .unprobed judges (judge_of_nameless names).not_probe⟩
  | some previous =>
      obtain ⟨asks, same, -⟩ := @judge_of_names process _ _ names
      have answers : Kills live previous (if live previous then .ok else .error) := by
        unfold Kills
        split
        · exact .inl rfl
        · rfl
      exact ⟨_, .probed judges asks answers
        (@probe_asks world pid fd _ _ asks (same.trans pidFd) live _ answers)⟩

end Decision

/-- For every content of the PID file and every set of live processes with the caller
in it: there is a decision, and it is to refuse or to own the file.  It refuses just
when the file names a live process other than the caller, if and only if the file
does not name the caller. -/
theorem stale_pid_iff {disk : Disk} {state : State} (reached : (pidSystem disk).Reachable state)
    {pid fd : Nat} (place : (state.processes pid).place = .read)
    (pidFd : (state.processes pid).pidFd = some fd) (live : Int → Bool) (self : live pid = true) :
    (∃ after, Resolves live pid state.world (state.processes pid) after) ∧
    ∀ after, Resolves live pid state.world (state.processes pid) after →
      (after.Refused ∨ after.Owning) ∧
      ((after.Refused ↔ ∃ previous, Names (state.world.disk.content fd) previous ∧
          live previous = true ∧ previous ≠ pid) ↔
        ¬ Names (state.world.disk.content fd) pid) := by
  have foreign : (state.processes pid).ownsPid = false := by
    have flags := (State.inv_of_reachable reached pid).shape.flags
    simp only [place, Place.flags, List.mem_singleton, Process.flags, Prod.mk.injEq] at flags
    exact flags.2.2
  refine ⟨exists_resolves live place pidFd, fun after resolves => ?_⟩
  simp only [← previousPid_eq_some_iff]
  rcases resolves.decides place pidFd foreign with ⟨⟨previous, names, alive⟩, refused⟩ |
    ⟨dead, owning⟩
  · refine ⟨.inl refused, ?_⟩
    simp only [refused, true_iff]
    constructor
    · rintro ⟨other, same, -, distinct⟩ own
      exact distinct (Option.some.inj (same.symm.trans own))
    · intro elsewhere
      refine ⟨previous, names, alive, ?_⟩
      rintro rfl
      exact elsewhere names
  · have kept : ¬ after.Refused := fun refused => by
      cases refused.1.symm.trans owning.1
    refine ⟨.inr owning, ?_⟩
    simp only [kept, false_iff]
    constructor
    · intro _ own
      cases self.symm.trans (dead pid own)
    · rintro - ⟨previous, names, alive, -⟩
      cases alive.symm.trans (dead previous names)

/-- The file of a process 1 that is gone. -/
def leftoverDisk : Disk :=
  ⟨some 0, none, Function.update (fun _ => []) 0 (pidText 1), fun _ => .regular, 1,
    fun _ named => Option.some.inj named ▸ Nat.zero_lt_one, nofun⟩

/-- `skyuv_pid_acquire` up to its call of `read`. -/
def readingRun (pid : Nat) : List Label :=
  Label.acquire pid true true :: List.replicate 8 (Label.system pid .ok)

def staleState : State :=
  ((pidSystem leftoverDisk).exec (pidSystem leftoverDisk).init (readingRun 2)).get (by decide)

theorem stale_pid_iff_other :
    (∃ after, Resolves (· == 2) 2 staleState.world (staleState.processes 2) after) ∧
      ∀ after, Resolves (· == 2) 2 staleState.world (staleState.processes 2) after →
        after.Owning := by
  have decision := @stale_pid_iff leftoverDisk staleState ⟨readingRun 2, (Option.some_get _).symm⟩
    2 0 (by decide) (by decide) (· == 2) (by decide)
  refine ⟨decision.1, fun after resolves => ?_⟩
  obtain ⟨refused | owning, agrees⟩ := decision.2 after resolves
  · have foreign : ¬ Names (staleState.world.disk.content 0) (2 : Nat) := by
      rw [← previousPid_eq_some_iff]
      decide
    obtain ⟨previous, -, alive, distinct⟩ := (agrees.mpr foreign).mp refused
    exact absurd (beq_iff_eq.mp alive) distinct
  · exact owning

def reusedState : State :=
  ((pidSystem leftoverDisk).exec (pidSystem leftoverDisk).init (readingRun 1)).get (by decide)

/-- The new process has the number of the one that is gone, as the first process of a
container does after a restart: `kill` finds the caller itself, and the file is taken
for that of another process. -/
theorem reused_pid_refused :
    ∃ after, (pidSystem leftoverDisk).Reachable reusedState ∧
      (reusedState.processes 1).place = .read ∧ (reusedState.processes 1).pidFd = some 0 ∧
      Resolves (· == 1) 1 reusedState.world (reusedState.processes 1) after ∧ after.Refused ∧
      ∀ previous, Names (reusedState.world.disk.content 0) previous → previous = (1 : Nat) := by
  obtain ⟨after, resolves⟩ := @exists_resolves reusedState.world 1 0 (reusedState.processes 1)
    (· == 1) (by decide) (by decide)
  refine ⟨after, ⟨readingRun 1, (Option.some_get _).symm⟩, by decide, by decide, resolves, ?_, ?_⟩
  · rcases resolves.decides (by decide) (show _ = some 0 from by decide) (by decide) with
      ⟨-, refused⟩ | ⟨dead, -⟩
    · exact refused
    · cases dead 1 (by decide)
  · intro previous names
    rw [← previousPid_eq_some_iff] at names
    exact (Option.some.inj ((show some (1 : Int) = _ from by decide).trans names)).symm

end Skyuv.Platform
