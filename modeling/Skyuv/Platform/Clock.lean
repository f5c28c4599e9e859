import Mathlib.Algebra.Group.Int.Defs
import Mathlib.Algebra.Group.Nat.Defs

/-!
# Clocks

`src/platform/time.c` turns the seconds and fractions that libuv reports into
one `uint64_t` of nanoseconds, and `skyuv_time.h` turns the nanoseconds back
into a `struct timespec`.  Signed C types are bit vectors that are compared
through `toInt`; `uint64_t` arithmetic wraps as the source's does.

The seconds are checked against `UINT64_MAX / 10^9` and the sum of user and
system time against `UINT64_MAX`, but the fraction is added unchecked.  `Fits`
says for which answers of libuv that does not matter.
-/

set_option autoImplicit false

namespace Skyuv.Platform.Clock

/-- The widths of `long` and `time_t`. -/
structure Abi where
  longBits : Nat
  timeBits : Nat
  long : longBits = 32 ∨ longBits = 64
  time : timeBits = 32 ∨ timeBits = 64

abbrev Uint64 := BitVec 64

def uint64Max : Uint64 := BitVec.allOnes 64

def nanosecondsPerSecond : Uint64 := 1000000000#64

def nanosecondsPerMicrosecond : Uint64 := 1000#64

/-- `uv_timespec64_t`. -/
structure Timespec64 where
  sec : BitVec 64
  nsec : BitVec 32

/-- `uv_timeval_t`. -/
structure Timeval (abi : Abi) where
  sec : BitVec abi.longBits
  usec : BitVec abi.longBits

structure Rusage (abi : Abi) where
  utime : Timeval abi
  stime : Timeval abi

inductive UvError where
  | notSupported
  | other
  deriving DecidableEq, Repr

/-- What libuv answers when a clock is read. -/
structure Libuv (abi : Abi) where
  hrtime : Uint64
  clockGettime : Except UvError Timespec64
  getrusageThread : Except UvError (Rusage abi)

inductive Status where
  | ok
  | invalidArgument
  | system
  | notSupported
  deriving DecidableEq, Repr

variable {abi : Abi}

/-! ## The functions of the source -/

def timevalToNanoseconds (time : Timeval abi) : Except Status Uint64 :=
  if time.sec.toInt < 0 ∨ time.usec.toInt < 0 then .error .system
  else
    let seconds : Uint64 := time.sec.signExtend 64
    let microseconds : Uint64 := time.usec.signExtend 64
    if seconds > uint64Max / nanosecondsPerSecond then .error .system
    else .ok (seconds * nanosecondsPerSecond + microseconds * nanosecondsPerMicrosecond)

/-- `skyuv_time_monotonic`; the argument is what `*time_ns` holds, nothing when `time_ns` is
`NULL`. -/
def timeMonotonic (uv : Libuv abi) : Option Uint64 → Status × Option Uint64
  | none => (.invalidArgument, none)
  | some _ => (.ok, some uv.hrtime)

def timeRealtime (uv : Libuv abi) : Option Uint64 → Status × Option Uint64
  | none => (.invalidArgument, none)
  | some old =>
      match uv.clockGettime with
      | .error _ => (.system, some old)
      | .ok time =>
          if time.sec.toInt < 0 ∨ time.nsec.toInt < 0 ∨ time.nsec.toInt ≥ 1000000000 then
            (.system, some old)
          else if time.sec.signExtend 64 > uint64Max / nanosecondsPerSecond then
            (.system, some old)
          else
            (.ok, some (time.sec.signExtend 64 * nanosecondsPerSecond + time.nsec.signExtend 64))

def timeThreadCpu (uv : Libuv abi) : Option Uint64 → Status × Option Uint64
  | none => (.invalidArgument, none)
  | some old =>
      match uv.getrusageThread with
      | .error .notSupported => (.notSupported, some old)
      | .error .other => (.system, some old)
      | .ok usage =>
          match timevalToNanoseconds usage.utime, timevalToNanoseconds usage.stime with
          | .ok user, .ok system =>
              if user > uint64Max - system then (.system, some old)
              else (.ok, some (user + system))
          | _, _ => (.system, some old)

inductive ClockId where
  | realtime
  | monotonic
  | threadCputime
  | unknown
  deriving DecidableEq, Repr

/-- `struct timespec`. -/
structure Timespec (abi : Abi) where
  sec : BitVec abi.timeBits
  nsec : BitVec abi.longBits

/-- `skyuv_compat_clock_gettime`, whose local `time_ns` starts with any contents. -/
def compatClockGettime (uv : Libuv abi) (clock : ClockId) (scratch : Uint64)
    (time : Timespec abi) : Int × Timespec abi :=
  let read : Option (Status × Option Uint64) :=
    match clock with
    | .realtime => some (timeRealtime uv (some scratch))
    | .monotonic => some (timeMonotonic uv (some scratch))
    | .threadCputime => some (timeThreadCpu uv (some scratch))
    | .unknown => none
  match read with
  | some (.ok, some ns) =>
      (0, { sec := (ns / nanosecondsPerSecond).setWidth abi.timeBits
            nsec := (ns % nanosecondsPerSecond).setWidth abi.longBits })
  | _ => (-1, time)

/-! ## The values that are meant -/

def Timespec64.total (time : Timespec64) : Int :=
  time.sec.toInt * 1000000000 + time.nsec.toInt

def Timeval.total (time : Timeval abi) : Int :=
  time.sec.toInt * 1000000000 + time.usec.toInt * 1000

/-- `UINT64_MAX / 10^9`. -/
def lastSecond : Int := 18446744073

/-- The answers of `uv_clock_gettime` that `skyuv_time_realtime` lets through. -/
structure Timespec64.Accepted (time : Timespec64) : Prop where
  sec : 0 ≤ time.sec.toInt ∧ time.sec.toInt ≤ lastSecond
  nsec : 0 ≤ time.nsec.toInt ∧ time.nsec.toInt < 1000000000

structure Timeval.Accepted (time : Timeval abi) : Prop where
  sec : 0 ≤ time.sec.toInt ∧ time.sec.toInt ≤ lastSecond
  usec : 0 ≤ time.usec.toInt

/-- What the three functions return when they succeed is what libuv reported. -/
structure Exact (uv : Libuv abi) : Prop where
  realtime : ∀ old value, timeRealtime uv (some old) = (.ok, some value) →
    ∃ time, uv.clockGettime = .ok time ∧ (value.toNat : Int) = time.total
  threadCpu : ∀ old value, timeThreadCpu uv (some old) = (.ok, some value) →
    ∃ usage, uv.getrusageThread = .ok usage ∧
      (value.toNat : Int) = usage.utime.total + usage.stime.total
  compat : ∀ scratch old new, compatClockGettime uv .realtime scratch old = (0, new) →
    ∃ time, uv.clockGettime = .ok time ∧ new.sec.toInt = time.sec.toInt ∧
      new.nsec.toInt = time.nsec.toInt

/-- No sum that is formed leaves `uint64_t`, and `time_t` can hold the seconds. -/
structure Fits (uv : Libuv abi) : Prop where
  realtime : ∀ time, uv.clockGettime = .ok time → time.sec.toInt = lastSecond →
    0 ≤ time.nsec.toInt → time.nsec.toInt < 1000000000 → time.nsec.toInt ≤ 709551615
  threadCpu : ∀ usage, uv.getrusageThread = .ok usage → usage.utime.Accepted →
    usage.stime.Accepted →
    usage.utime.total % 18446744073709551616 + usage.stime.total % 18446744073709551616 <
      18446744073709551616 →
    usage.utime.total < 18446744073709551616 ∧ usage.stime.total < 18446744073709551616
  calendar : abi.timeBits = 32 → ∀ time, uv.clockGettime = .ok time → time.Accepted →
    time.sec.toInt < 2147483648

/-! ## Conversions -/

theorem toNat_of_nonneg {value : Uint64} (nonneg : 0 ≤ value.toInt) :
    (value.toNat : Int) = value.toInt := by
  rw [BitVec.toInt_eq_toNat_cond] at nonneg ⊢
  split at nonneg
  · rw [if_pos ‹_›]
  · have below := value.isLt
    omega

/-- A signed value that is not negative keeps its value as a `uint64_t`. -/
theorem toNat_signExtend {bits : Nat} (narrow : bits ≤ 64) {value : BitVec bits}
    (nonneg : 0 ≤ value.toInt) : ((value.signExtend 64).toNat : Int) = value.toInt := by
  have same : (value.signExtend 64).toInt = value.toInt := BitVec.toInt_signExtend_of_le narrow
  rw [toNat_of_nonneg (same ▸ nonneg), same]

theorem Abi.longBits_le (abi : Abi) : abi.longBits ≤ 64 := by
  have width := abi.long
  omega

theorem toNat_limit : (uint64Max / nanosecondsPerSecond).toNat = 18446744073 := by decide

theorem toNat_nanoseconds (seconds fraction : Uint64) :
    (seconds * nanosecondsPerSecond + fraction).toNat =
      (seconds.toNat * 1000000000 + fraction.toNat) % 18446744073709551616 := by
  rw [BitVec.toNat_add, BitVec.toNat_mul, nanosecondsPerSecond, BitVec.toNat_ofNat]
  omega

theorem toNat_microseconds (microseconds : Uint64) :
    (microseconds * nanosecondsPerMicrosecond).toNat =
      microseconds.toNat * 1000 % 18446744073709551616 := by
  rw [BitVec.toNat_mul, nanosecondsPerMicrosecond, BitVec.toNat_ofNat]

/-- The guard on the seconds, read as a number. -/
theorem guard_iff {bits : Nat} (narrow : bits ≤ 64) {value : BitVec bits}
    (nonneg : 0 ≤ value.toInt) :
    value.signExtend 64 > uint64Max / nanosecondsPerSecond ↔ lastSecond < value.toInt := by
  have extended := toNat_signExtend narrow nonneg
  rw [gt_iff_lt, BitVec.lt_def, toNat_limit, lastSecond]
  omega

theorem timevalToNanoseconds_eq_ok {time : Timeval abi} {value : Uint64} :
    timevalToNanoseconds time = .ok value ↔
      time.Accepted ∧ (value.toNat : Int) = time.total % 18446744073709551616 := by
  have narrow := abi.longBits_le
  rw [timevalToNanoseconds]
  split
  next negative =>
    constructor
    · intro result
      cases result
    · rintro ⟨⟨⟨sec, -⟩, usec⟩, -⟩
      omega
  next nonneg =>
    have sec : 0 ≤ time.sec.toInt := by omega
    have usec : 0 ≤ time.usec.toInt := by omega
    have seconds := toNat_signExtend narrow sec
    have microseconds := toNat_signExtend narrow usec
    dsimp only
    split
    next above =>
      have beyond := (guard_iff narrow sec).mp above
      constructor
      · intro result
        cases result
      · rintro ⟨⟨⟨-, below⟩, -⟩, -⟩
        omega
    next within =>
      have below := mt (guard_iff narrow sec).mpr within
      have sum := toNat_nanoseconds (time.sec.signExtend 64)
        (time.usec.signExtend 64 * nanosecondsPerMicrosecond)
      rw [toNat_microseconds] at sum
      rw [Except.ok.injEq, ← BitVec.toNat_inj, sum, Timeval.total]
      constructor
      · intro result
        exact ⟨⟨⟨sec, by omega⟩, usec⟩, by omega⟩
      · rintro ⟨-, result⟩
        omega

theorem timeRealtime_eq_ok {uv : Libuv abi} {old value : Uint64} :
    timeRealtime uv (some old) = (.ok, some value) ↔
      ∃ time, uv.clockGettime = .ok time ∧ time.Accepted ∧
        (value.toNat : Int) = time.total % 18446744073709551616 := by
  rw [timeRealtime]
  cases answer : uv.clockGettime with
  | error code => simp
  | ok time =>
      simp only [Except.ok.injEq, exists_eq_left']
      split
      next refused =>
        simp only [Prod.mk.injEq, reduceCtorEq, false_and, false_iff]
        rintro ⟨⟨⟨sec, -⟩, nsec, small⟩, -⟩
        omega
      next nonneg =>
        have sec : 0 ≤ time.sec.toInt := by omega
        have nsec : 0 ≤ time.nsec.toInt := by omega
        have seconds := toNat_signExtend (Nat.le_refl 64) sec
        have nanoseconds := toNat_signExtend (by decide) nsec
        split
        next above =>
          have beyond := (guard_iff (Nat.le_refl 64) sec).mp above
          simp only [Prod.mk.injEq, reduceCtorEq, false_and, false_iff]
          rintro ⟨⟨⟨-, below⟩, -⟩, -⟩
          omega
        next within =>
          have below := mt (guard_iff (Nat.le_refl 64) sec).mpr within
          have sum := toNat_nanoseconds (time.sec.signExtend 64) (time.nsec.signExtend 64)
          rw [Prod.mk.injEq, Option.some.injEq, ← BitVec.toNat_inj, sum, Timespec64.total]
          constructor
          · rintro ⟨-, result⟩
            exact ⟨⟨⟨sec, by omega⟩, nsec, by omega⟩, by omega⟩
          · rintro ⟨-, result⟩
            exact ⟨rfl, by omega⟩

theorem timeThreadCpu_eq_ok {uv : Libuv abi} {old value : Uint64} :
    timeThreadCpu uv (some old) = (.ok, some value) ↔
      ∃ usage, uv.getrusageThread = .ok usage ∧ usage.utime.Accepted ∧ usage.stime.Accepted ∧
        usage.utime.total % 18446744073709551616 + usage.stime.total % 18446744073709551616 <
          18446744073709551616 ∧
        (value.toNat : Int) = usage.utime.total % 18446744073709551616 +
          usage.stime.total % 18446744073709551616 := by
  rw [timeThreadCpu]
  cases answer : uv.getrusageThread with
  | error code => cases code <;> simp
  | ok usage =>
      simp only [Except.ok.injEq, exists_eq_left']
      split
      next user system userOk systemOk =>
        obtain ⟨userAccepted, userValue⟩ := timevalToNanoseconds_eq_ok.mp userOk
        obtain ⟨systemAccepted, systemValue⟩ := timevalToNanoseconds_eq_ok.mp systemOk
        have userBound := user.isLt
        have room : (uint64Max - system).toNat = 18446744073709551615 - system.toNat := by
          have systemBound := system.isLt
          rw [BitVec.toNat_sub, uint64Max, BitVec.toNat_allOnes]
          omega
        simp only [userAccepted, systemAccepted, true_and, gt_iff_lt, BitVec.lt_def, room]
        split
        next above =>
          simp only [Prod.mk.injEq, reduceCtorEq, false_and, false_iff]
          rintro ⟨fits, -⟩
          omega
        next within =>
          rw [Prod.mk.injEq, Option.some.injEq, ← BitVec.toNat_inj,
            BitVec.toNat_add_of_lt (by omega)]
          constructor
          · rintro ⟨-, result⟩
            exact ⟨by omega, by omega⟩
          · rintro ⟨-, result⟩
            exact ⟨rfl, by omega⟩
      next failed =>
        simp only [Prod.mk.injEq, reduceCtorEq, false_and, false_iff]
        rintro ⟨userAccepted, systemAccepted, -⟩
        have accepted {time : Timeval abi} (accepted : time.Accepted) :
            ∃ value, timevalToNanoseconds time = .ok value := by
          refine ⟨BitVec.ofNat 64 (time.total % 18446744073709551616).toNat,
            timevalToNanoseconds_eq_ok.mpr ⟨accepted, ?_⟩⟩
          rw [BitVec.toNat_ofNat]
          omega
        obtain ⟨user, userOk⟩ := accepted userAccepted
        obtain ⟨system, systemOk⟩ := accepted systemAccepted
        exact failed user system userOk systemOk

/-! ## Back to seconds and nanoseconds -/

theorem compatClockGettime_realtime {uv : Libuv abi} {scratch : Uint64} {old new : Timespec abi} :
    compatClockGettime uv .realtime scratch old = (0, new) ↔
      ∃ ns, timeRealtime uv (some scratch) = (.ok, some ns) ∧
        new = { sec := (ns / nanosecondsPerSecond).setWidth abi.timeBits
                nsec := (ns % nanosecondsPerSecond).setWidth abi.longBits } := by
  rw [compatClockGettime]
  split
  next ns read =>
    rw [Option.some.injEq] at read
    rw [Prod.mk.injEq, read]
    constructor
    · rintro ⟨-, rfl⟩
      exact ⟨ns, rfl, rfl⟩
    · rintro ⟨other, same, rfl⟩
      cases same
      exact ⟨rfl, rfl⟩
  next failed =>
    constructor
    · intro result
      cases result
    · rintro ⟨ns, read, -⟩
      exact absurd (congrArg some read) (failed ns)

/-- A value below the sign bit survives the conversion to a signed type. -/
theorem toInt_setWidth_of_lt {bits : Nat} {value : Uint64} (small : 2 * value.toNat < 2 ^ bits) :
    (value.setWidth bits).toInt = value.toNat := by
  rw [BitVec.toInt_setWidth]
  apply Int.bmod_eq_of_le <;> omega

theorem Abi.longBits_ge (abi : Abi) : (4294967296 : Nat) ≤ 2 ^ abi.longBits := by
  obtain width | width := abi.long <;> rw [width] <;> decide

theorem toNat_seconds (ns : Uint64) :
    (ns / nanosecondsPerSecond).toNat = ns.toNat / 1000000000 := by
  rw [BitVec.toNat_udiv, nanosecondsPerSecond, BitVec.toNat_ofNat]

theorem toInt_remainder (ns : Uint64) :
    ((ns % nanosecondsPerSecond).setWidth abi.longBits).toInt = ns.toNat % 1000000000 := by
  have wide := abi.longBits_ge
  have rest : (ns % nanosecondsPerSecond).toNat = ns.toNat % 1000000000 := by
    rw [BitVec.toNat_umod, nanosecondsPerSecond, BitVec.toNat_ofNat]
  rw [toInt_setWidth_of_lt (by omega), rest]
  omega

/-! ## When the clocks are exact -/

theorem Timespec64.Accepted.total_nonneg {time : Timespec64} (accepted : time.Accepted) :
    0 ≤ time.total := by
  obtain ⟨⟨sec, -⟩, nsec, -⟩ := accepted
  rw [Timespec64.total]
  omega

theorem Timeval.Accepted.total_nonneg {time : Timeval abi} (accepted : time.Accepted) :
    0 ≤ time.total := by
  obtain ⟨⟨sec, -⟩, usec⟩ := accepted
  rw [Timeval.total]
  omega

variable {uv : Libuv abi}

/-- An accepted answer is returned, reduced to 64 bits. -/
theorem timeRealtime_returns {time : Timespec64} (answer : uv.clockGettime = .ok time)
    (accepted : time.Accepted) (old : Uint64) :
    ∃ value : Uint64, timeRealtime uv (some old) = (.ok, some value) ∧
      (value.toNat : Int) = time.total % 18446744073709551616 := by
  refine ⟨BitVec.ofNat 64 (time.total % 18446744073709551616).toNat, ?_, ?_⟩
  · refine timeRealtime_eq_ok.mpr ⟨time, answer, accepted, ?_⟩
    rw [BitVec.toNat_ofNat]
    omega
  · rw [BitVec.toNat_ofNat]
    omega

theorem Fits.total_lt (fits : Fits uv) {time : Timespec64} (answer : uv.clockGettime = .ok time)
    (accepted : time.Accepted) : time.total < 18446744073709551616 := by
  have edge := fits.realtime time answer
  obtain ⟨⟨-, below⟩, nsec, small⟩ := accepted
  rw [lastSecond] at edge below
  rw [Timespec64.total]
  by_cases last : time.sec.toInt = 18446744073
  · have room := edge last nsec small
    omega
  · omega

theorem Fits.exact (fits : Fits uv) : Exact uv where
  realtime old value result := by
    obtain ⟨time, answer, accepted, wrapped⟩ := timeRealtime_eq_ok.mp result
    have below := fits.total_lt answer accepted
    have nonneg := accepted.total_nonneg
    exact ⟨time, answer, by omega⟩
  threadCpu old value result := by
    obtain ⟨usage, answer, user, system, room, wrapped⟩ := timeThreadCpu_eq_ok.mp result
    obtain ⟨userBelow, systemBelow⟩ := fits.threadCpu usage answer user system room
    have userNonneg := user.total_nonneg
    have systemNonneg := system.total_nonneg
    exact ⟨usage, answer, by omega⟩
  compat scratch old new result := by
    obtain ⟨ns, read, rfl⟩ := compatClockGettime_realtime.mp result
    obtain ⟨time, answer, accepted, wrapped⟩ := timeRealtime_eq_ok.mp read
    have below := fits.total_lt answer accepted
    have calendar := fun narrow => fits.calendar narrow time answer accepted
    obtain ⟨⟨sec, last⟩, nsec, small⟩ := accepted
    rw [Timespec64.total] at below wrapped
    have value : (ns.toNat : Int) = time.sec.toInt * 1000000000 + time.nsec.toInt := by omega
    clear wrapped below
    have seconds : ((ns.toNat / 1000000000 : Nat) : Int) = time.sec.toInt := by omega
    have room : 2 * (ns / nanosecondsPerSecond).toNat < 2 ^ abi.timeBits := by
      rw [toNat_seconds]
      obtain narrow | wide := abi.time
      · have early := calendar narrow
        rw [narrow]
        omega
      · rw [wide]
        omega
    refine ⟨time, answer, ?_, ?_⟩
    · rw [toInt_setWidth_of_lt room, toNat_seconds, seconds]
    · rw [toInt_remainder]
      omega

theorem Exact.fits (correct : Exact uv) : Fits uv where
  realtime time answer last nsec small := by
    rw [lastSecond] at last
    have accepted : time.Accepted := ⟨by rw [lastSecond]; omega, nsec, small⟩
    obtain ⟨value, result, wrapped⟩ := timeRealtime_returns answer accepted 0#64
    obtain ⟨same, answer', meant⟩ := correct.realtime 0#64 value result
    cases answer.symm.trans answer'
    rw [Timespec64.total] at wrapped meant
    omega
  threadCpu usage answer user system room := by
    have userNonneg := user.total_nonneg
    have systemNonneg := system.total_nonneg
    let value : Uint64 := BitVec.ofNat 64 (usage.utime.total % 18446744073709551616 +
      usage.stime.total % 18446744073709551616).toNat
    have wrapped : (value.toNat : Int) = usage.utime.total % 18446744073709551616 +
        usage.stime.total % 18446744073709551616 := by
      rw [BitVec.toNat_ofNat]
      omega
    have result : timeThreadCpu uv (some 0#64) = (.ok, some value) :=
      timeThreadCpu_eq_ok.mpr ⟨usage, answer, user, system, room, wrapped⟩
    obtain ⟨same, answer', meant⟩ := correct.threadCpu 0#64 value result
    cases answer.symm.trans answer'
    omega
  calendar narrow time answer accepted := by
    obtain ⟨value, result, -⟩ := timeRealtime_returns answer accepted 0#64
    obtain ⟨same, answer', seconds, -⟩ := correct.compat 0#64 ⟨0#_, 0#_⟩ _
      (compatClockGettime_realtime.mpr ⟨value, result, rfl⟩)
    cases answer.symm.trans answer'
    have signed := BitVec.toInt_lt (x := (value / nanosecondsPerSecond).setWidth abi.timeBits)
    rw [seconds, narrow] at signed
    exact signed

/-- The clocks are exact for exactly the answers of libuv whose nanoseconds are a `uint64_t` and
whose seconds are a `time_t`. -/
theorem clocks_exact_iff (uv : Libuv abi) : Exact uv ↔ Fits uv :=
  ⟨Exact.fits, Fits.exact⟩

/-- `long` and `time_t` of 64 bits. -/
def lp64 : Abi := ⟨64, 64, .inr rfl, .inr rfl⟩

/-- An afternoon of the year 2026, in a thread that has run for three seconds. -/
def afternoon : Libuv lp64 where
  hrtime := 5000#64
  clockGettime := .ok ⟨1794844800#64, 250000000#32⟩
  getrusageThread := .ok ⟨⟨2#64, 600000#64⟩, ⟨0#64, 400000#64⟩⟩

theorem clocks_exact_iff_afternoon : Exact afternoon := by
  refine (clocks_exact_iff afternoon).mpr ⟨?_, ?_, ?_⟩
  · rintro time ⟨⟩ last
    exact absurd last (by decide)
  · rintro usage ⟨⟩ - - -
    decide
  · intro narrow
    exact absurd narrow (by decide)

/-- `2^64` nanoseconds after the epoch, and a user time whose microseconds alone are more. -/
def year2554 : Libuv lp64 where
  hrtime := 5000#64
  clockGettime := .ok ⟨18446744073#64, 709551616#32⟩
  getrusageThread := .ok ⟨⟨0#64, 18446744073709552#64⟩, ⟨0#64, 0#64⟩⟩

/-- Both clocks succeed and have started again from zero. -/
theorem clocks_wrap :
    timeRealtime year2554 (some 1#64) = (.ok, some 0#64) ∧
      compatClockGettime year2554 .realtime 1#64 ⟨1#64, 1#64⟩ = (0, ⟨0#64, 0#64⟩) ∧
      timeThreadCpu year2554 (some 1#64) = (.ok, some 384#64) ∧ ¬ Exact year2554 := by
  have realtime : timeRealtime year2554 (some 1#64) = (.ok, some 0#64) := by decide +kernel
  refine ⟨realtime, rfl, by decide +kernel, fun correct => ?_⟩
  obtain ⟨time, answer, value⟩ := correct.realtime 1#64 0#64 realtime
  cases answer
  exact absurd value (by decide)

end Skyuv.Platform.Clock
