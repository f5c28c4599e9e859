import Mathlib.Data.List.TakeWhile
import Skyuv.Platform.Paths
import Skyuv.Runtime.Launcher

/-!
# Loading the configuration

`skyuv_config_load` in `config.c`, in the mode with runtime paths, after the script has
filled its table.  Each root comes from the command line, the environment, the table or
the default, whichever is there first, and is resolved from the configuration root; the
logger file and the PID file are resolved from the roots.  Creating directories is left
open: it may answer anything.
-/

set_option autoImplicit false

namespace Skyuv.Runtime

open Platform

universe u

/-! ## Functions of the source -/

/-- A Lua value, as far as `config_string` tells them apart. -/
inductive LuaValue where
  | nil
  | string (bytes : List UInt8)
  | other
  deriving DecidableEq, Repr

/-- The keys of the table that are read or written. -/
inductive Key where
  | installRoot
  | configRoot
  | logRoot
  | runRoot
  | daemon
  | logservice
  | logger
  deriving DecidableEq, Repr

abbrev Table := Key → LuaValue

/-- `skyuv_runtime_paths`: `prepare_paths` has computed the configuration root with
`skyuv_path_real` and `skyuv_path_parent`. -/
structure RuntimePaths (windows : Bool) where
  installRoot : List UInt8
  configRoot : List UInt8
  logRoot : Option (List UInt8)
  runRoot : Option (List UInt8)
  rooted : RootedPath windows configRoot

/-- The two roots that are resolved. -/
inductive Root where
  | log
  | run
  deriving DecidableEq, Repr

def Root.key : Root → Key
  | .log => .logRoot
  | .run => .runRoot

def Root.fallback : Root → List UInt8
  | .log => ascii ['l', 'o', 'g']
  | .run => ascii ['r', 'u', 'n']

def Root.option {windows : Bool} (paths : RuntimePaths windows) : Root → Option (List UInt8)
  | .log => paths.logRoot
  | .run => paths.runRoot

/-- `config_string`: the string up to its first NUL, and what is left of `*valid`. -/
def configString : LuaValue → Option (List UInt8) × Bool
  | .nil => (none, true)
  | .string bytes => (some (bytes.takeWhile (· ≠ 0)), decide (0 ∉ bytes))
  | .other => (none, false)

/-- `set_string`. -/
def setString (table : Table) (key : Key) (value : List UInt8) : Table :=
  Function.update table key (.string value)

/-- `resolve_root`; `UV_ENOENT` is a variable that is not set. -/
def resolveRoot {windows : Bool} (paths : RuntimePaths windows)
    (environment : Root → Except Error (List UInt8)) (table : Table) (root : Root) :
    Except Error (List UInt8) :=
  match root.option paths with
  | some value => pathAbsolute windows paths.configRoot value pathCapacity
  | none =>
      match environment root with
      | .ok value => pathAbsolute windows paths.configRoot value pathCapacity
      | .error .noEntry =>
          match configString (table root.key) with
          | (_, false) => .error .invalid
          | (value, true) =>
              pathAbsolute windows paths.configRoot (value.getD root.fallback) pathCapacity
      | .error error => .error error

variable {σ : Type u}

/-- `resolve_output` with `create_root` set. -/
def resolveOutput (windows : Bool) (mkdir : σ → List UInt8 → Except Error Unit × σ) (table : Table)
    (key : Key) (root : List UInt8) (state : σ) : Except Error Table × σ :=
  match configString (table key) with
  | (_, false) => (.error .invalid, state)
  | (none, true) => (.ok table, state)
  | (some value, true) =>
      match pathAbsolute windows root value pathCapacity with
      | .error error => (.error error, state)
      | .ok path =>
          if pathIsAbsolute windows value then (.ok (setString table key path), state)
          else
            match mkdir state root with
            | (.error error, state) => (.error error, state)
            | (.ok (), state) => (.ok (setString table key path), state)

/-- The messages of `skyuv_config_load`. -/
inductive Failure where
  | script
  | roots (error : Error)
  | types
  | daemon
  | outputs (error : Error)
  deriving DecidableEq, Repr

/-- The four roots are put into the table. -/
def setRoots {windows : Bool} (paths : RuntimePaths windows) (table : Table)
    (log run : List UInt8) : Table :=
  setString (setString (setString (setString table .installRoot paths.installRoot) .configRoot
    paths.configRoot) .logRoot log) .runRoot run

/-- The default logger, whose file is resolved. -/
def defaultLogger (service : Option (List UInt8)) : Prop :=
  service = none ∨ service = some (ascii ['l', 'o', 'g', 'g', 'e', 'r'])

instance (service : Option (List UInt8)) : Decidable (defaultLogger service) :=
  inferInstanceAs (Decidable (_ ∨ _))

/-- The end of `skyuv_config_load`, from the check of `daemon` and `logservice` on. -/
def resolveOutputs (windows : Bool) (mkdir : σ → List UInt8 → Except Error Unit × σ)
    (table : Table) (log run : List UInt8) (state : σ) : Except Failure Table × σ :=
  let daemon := configString (table .daemon)
  let service := configString (table .logservice)
  if ¬ (daemon.2 ∧ service.2) then (.error .types, state)
  else if daemon.1 ≠ none ∧ windows then (.error .daemon, state)
  else
    match if defaultLogger service.1 then resolveOutput windows mkdir table .logger log state
      else (.ok table, state) with
    | (.error error, state) => (.error (.outputs error), state)
    | (.ok table, state) =>
        match if daemon.1 ≠ none then resolveOutput windows mkdir table .daemon run state
          else (.ok table, state) with
        | (.error error, state) => (.error (.outputs error), state)
        | (.ok table, state) => (.ok table, state)

/-- `skyuv_config_load`; `script` is the table that the script returns. -/
def configLoad {windows : Bool} (paths : RuntimePaths windows)
    (environment : Root → Except Error (List UInt8))
    (mkdir : σ → List UInt8 → Except Error Unit × σ) (script : Option Table) (state : σ) :
    Except Failure Table × σ :=
  match script with
  | none => (.error .script, state)
  | some table =>
      match resolveRoot paths environment table .log with
      | .error error => (.error (.roots error), state)
      | .ok log =>
          match resolveRoot paths environment table .run with
          | .error error => (.error (.roots error), state)
          | .ok run =>
              resolveOutputs windows mkdir (setRoots paths table log run) log run state

/-! ## What is resolved -/

/-- The first of the four sources that is there. -/
inductive Chosen {windows : Bool} (paths : RuntimePaths windows)
    (environment : Root → Except Error (List UInt8)) (table : Table) (root : Root) :
    List UInt8 → Prop where
  | option {value : List UInt8} (given : root.option paths = some value) :
      Chosen paths environment table root value
  | environment {value : List UInt8} (absent : root.option paths = none)
      (given : environment root = .ok value) : Chosen paths environment table root value
  | configured {value : List UInt8} (absent : root.option paths = none)
      (unset : environment root = .error .noEntry) (given : table root.key = .string value) :
      Chosen paths environment table root value
  | fallback (absent : root.option paths = none) (unset : environment root = .error .noEntry)
      (missing : table root.key = .nil) : Chosen paths environment table root root.fallback

/-- A value resolved from a base: whole, rooted, and resolved for good. -/
structure Resolved (windows : Bool) (base value output : List UInt8) : Prop where
  whole : output = normalizeSeparators windows (joined windows base value)
  short : output.length < pathCapacity
  rooted : RootedPath windows output
  fixed : pathAbsolute windows base output pathCapacity = .ok output

theorem resolved_of_pathAbsolute {windows : Bool} {base value output : List UInt8}
    (root : RootedPath windows base)
    (made : pathAbsolute windows base value pathCapacity = .ok output) :
    Resolved windows base value output := by
  obtain ⟨short, whole⟩ := pathAbsolute_joined made
  have inside : output.length < pathCapacity := by
    rw [whole, normalizeSeparators_length]
    exact short
  have rooted := pathAbsolute_rooted root made
  exact ⟨whole, inside, rooted, pathAbsolute_fixed rooted inside base⟩

/-- A string without NUL is taken as it is. -/
theorem configString_valid {value : LuaValue} (valid : (configString value).2 = true) :
    value = .nil ∧ (configString value).1 = none ∨
      ∃ bytes, value = .string bytes ∧ (configString value).1 = some bytes := by
  cases value with
  | nil => exact .inl ⟨rfl, rfl⟩
  | string bytes =>
      right
      refine ⟨bytes, rfl, ?_⟩
      have clean : 0 ∉ bytes := of_decide_eq_true valid
      have whole : bytes.takeWhile (· ≠ 0) = bytes := by
        rw [List.takeWhile_eq_self_iff]
        intro byte member
        simp only [ne_eq, decide_not, Bool.not_eq_true', decide_eq_false_iff_not]
        rintro rfl
        exact clean member
      exact congrArg some whole
  | other => cases valid

/-- What the loaded table holds under the key of an output. -/
inductive Output (windows : Bool) (source table : Table) (key : Key) (root : List UInt8) :
    Prop where
  | unset (missing : source key = .nil) (still : table key = .nil)
  | resolved {value output : List UInt8} (given : source key = .string value)
      (now : table key = .string output) (means : Resolved windows root value output)

section Resolution

variable {windows : Bool} {paths : RuntimePaths windows}
  {environment : Root → Except Error (List UInt8)}
  {mkdir : σ → List UInt8 → Except Error Unit × σ} {table after : Table} {state final : σ}

theorem resolveRoot_chosen {root : Root} {output : List UInt8}
    (made : resolveRoot paths environment table root = .ok output) :
    ∃ value, Chosen paths environment table root value ∧
      Resolved windows paths.configRoot value output := by
  unfold resolveRoot at made
  split at made
  · rename_i value given
    exact ⟨value, .option given, resolved_of_pathAbsolute paths.rooted made⟩
  · rename_i absent
    split at made
    · rename_i value given
      exact ⟨value, .environment absent given, resolved_of_pathAbsolute paths.rooted made⟩
    · rename_i unset
      split at made
      · cases made
      · rename_i value found
        rcases configString_valid (congrArg Prod.snd found) with
          ⟨missing, none⟩ | ⟨bytes, given, some⟩
        · cases none.symm.trans (congrArg Prod.fst found)
          exact ⟨_, .fallback absent unset missing, resolved_of_pathAbsolute paths.rooted made⟩
        · cases some.symm.trans (congrArg Prod.fst found)
          exact ⟨bytes, .configured absent unset given,
            resolved_of_pathAbsolute paths.rooted made⟩
    · cases made

/-- Nothing but the key of the output changes. -/
theorem resolveOutput_ok {key : Key} {root : List UInt8} (rooted : RootedPath windows root)
    (made : resolveOutput windows mkdir table key root state = (.ok after, final)) :
    (∀ other, other ≠ key → after other = table other) ∧
      Output windows table after key root := by
  unfold resolveOutput at made
  split at made
  · cases made
  · rename_i found
    rcases configString_valid (congrArg Prod.snd found) with ⟨missing, -⟩ | ⟨bytes, -, some⟩
    · cases made
      exact ⟨fun _ _ => rfl, .unset missing missing⟩
    · cases some.symm.trans (congrArg Prod.fst found)
  · rename_i value found
    rcases configString_valid (congrArg Prod.snd found) with ⟨-, none⟩ | ⟨bytes, given, some⟩
    · cases none.symm.trans (congrArg Prod.fst found)
    · cases some.symm.trans (congrArg Prod.fst found)
      split at made
      · cases made
      · rename_i output resolved
        have set : after = setString table key output := by
          split at made
          · cases made
            rfl
          · split at made
            · cases made
            · cases made
              rfl
        subst set
        exact ⟨fun other distinct => Function.update_of_ne distinct ..,
          .resolved given (Function.update_self ..) (resolved_of_pathAbsolute rooted resolved)⟩

/-- The step for one output may be left out. -/
theorem optional_ok {condition : Prop} [Decidable condition] {key : Key} {root : List UInt8}
    (rooted : RootedPath windows root)
    (made : (if condition then resolveOutput windows mkdir table key root state
      else (.ok table, state)) = (.ok after, final)) :
    (∀ other, other ≠ key → after other = table other) ∧
      (condition → Output windows table after key root) ∧
      (¬ condition → after = table) := by
  split at made
  · rename_i holds
    obtain ⟨frame, output⟩ := resolveOutput_ok rooted made
    exact ⟨frame, fun _ => output, fun fails => absurd holds fails⟩
  · rename_i fails
    cases made
    exact ⟨fun _ _ => rfl, fun holds => absurd holds fails, fun _ => rfl⟩

theorem resolveOutputs_ok {log run : List UInt8} (logRooted : RootedPath windows log)
    (runRooted : RootedPath windows run)
    (made : resolveOutputs windows mkdir table log run state = (.ok after, final)) :
    (∀ key, key ≠ .logger → key ≠ .daemon → after key = table key) ∧
      (defaultLogger (configString (table .logservice)).1 →
        Output windows table after .logger log) ∧
      Output windows table after .daemon run ∧ (windows = true → table .daemon = .nil) := by
  unfold resolveOutputs at made
  dsimp only at made
  split at made
  · cases made
  · rename_i valid
    rw [not_not] at valid
    split at made
    · cases made
    · rename_i supported
      split at made
      · cases made
      · rename_i middle between logged
        split at made
        · cases made
        · rename_i last later daemonized
          cases made
          obtain ⟨frame, logger, -⟩ := optional_ok logRooted logged
          obtain ⟨frame', daemon, same⟩ := optional_ok runRooted daemonized
          have early : middle .daemon = table .daemon := frame .daemon (by decide)
          refine ⟨fun key first second => ?_, fun default => ?_, ?_, fun windows => ?_⟩
          · rw [frame' key second, frame key first]
          · have kept : after .logger = middle .logger := frame' .logger (by decide)
            cases logger default with
            | unset missing still => exact .unset missing (kept.trans still)
            | resolved given now means => exact .resolved given (kept.trans now) means
          · rcases configString_valid valid.1 with ⟨missing, none⟩ | ⟨bytes, given, some⟩
            · have unchanged := same (not_not_intro none)
              exact .unset missing (by rw [unchanged, early, missing])
            · cases daemon (by simp [some]) with
              | unset missing still => exact .unset (early ▸ missing) still
              | resolved given now means => exact .resolved (early ▸ given) now means
          · rcases configString_valid valid.1 with ⟨missing, -⟩ | ⟨bytes, -, some⟩
            · exact missing
            · exact absurd ⟨by simp [some], windows⟩ supported

end Resolution

/-- For every rooted configuration root, every command line, environment and table, and
whatever happens when directories are created: if the configuration is loaded, each
root is the first of its four sources that is there, resolved from the configuration
root, and the logger file and the PID file, where they are set, are resolved from the
roots.  Everything resolved is rooted, whole, and resolved for good. -/
theorem config_paths_rooted {windows : Bool} (paths : RuntimePaths windows)
    (environment : Root → Except Error (List UInt8))
    (mkdir : σ → List UInt8 → Except Error Unit × σ) (script : Option Table) (state : σ)
    {table : Table} {final : σ}
    (loaded : configLoad paths environment mkdir script state = (.ok table, final)) :
    ∃ source log run, script = some source ∧
      table .logRoot = .string log ∧ table .runRoot = .string run ∧
      (∃ value, Chosen paths environment source .log value ∧
        Resolved windows paths.configRoot value log) ∧
      (∃ value, Chosen paths environment source .run value ∧
        Resolved windows paths.configRoot value run) ∧
      (defaultLogger (configString (source .logservice)).1 →
        Output windows source table .logger log) ∧
      Output windows source table .daemon run ∧ (windows = true → source .daemon = .nil) := by
  unfold configLoad at loaded
  split at loaded
  · cases loaded
  · rename_i source
    split at loaded
    · cases loaded
    · rename_i log logged
      split at loaded
      · cases loaded
      · rename_i run ran
        obtain ⟨logValue, logChosen, logResolved⟩ := resolveRoot_chosen logged
        obtain ⟨runValue, runChosen, runResolved⟩ := resolveRoot_chosen ran
        obtain ⟨frame, logger, daemon, none⟩ :=
          resolveOutputs_ok logResolved.rooted runResolved.rooted loaded
        refine ⟨source, log, run, rfl, ?_, ?_, ⟨logValue, logChosen, logResolved⟩,
          ⟨runValue, runChosen, runResolved⟩, fun default => ?_, ?_, none⟩
        · rw [frame .logRoot (by decide) (by decide)]
          rfl
        · rw [frame .runRoot (by decide) (by decide)]
          rfl
        · cases logger default with
          | unset missing still => exact .unset missing still
          | resolved given now means => exact .resolved given now means
        · cases daemon with
          | unset missing still => exact .unset missing still
          | resolved given now means => exact .resolved given now means

/-- A configuration in `/c` that sets the logger. -/
def samplePaths : RuntimePaths false := ⟨[slash], [slash, 99], none, some [114], by decide, rfl⟩

theorem config_paths_rooted_sample :
    ∃ table, configLoad samplePaths (fun _ => .error .noEntry) (fun state _ => (.ok (), state))
        (some fun key => if key = .logger then .string [97] else .nil) () = (.ok table, ()) ∧
      table .runRoot = .string [slash, 99, slash, 114] ∧
      ∃ log, table .logRoot = .string log ∧
        pathAbsolute false samplePaths.configRoot log pathCapacity = .ok log := by
  refine ⟨_, rfl, by decide, ?_⟩
  obtain ⟨source, log, run, -, logRoot, -, ⟨value, -, resolved⟩, -⟩ :=
    config_paths_rooted samplePaths (fun _ => .error .noEntry) (fun state _ => (.ok (), state))
      (some fun key => if key = .logger then .string [97] else .nil) () rfl
  exact ⟨log, logRoot, resolved.fixed⟩

end Skyuv.Runtime
