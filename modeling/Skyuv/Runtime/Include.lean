import Skyuv.Platform.Paths
import Skyuv.Runtime.Launcher

/-!
# Included configuration files

The `include` function of `config_loader.lua` keeps the directory of the running file in
a variable that it saves and restores around each file.  `Includes` says what that is
for, without the variable: a name means something in the directory of the file it stands
in, and the files run one inside the other into one table.

A configuration file is a list of assignments and include statements, as they are after
the `$NAME` substitution; a file that cannot be opened, read, substituted or compiled is
no file.  Paths are lists of bytes.
-/

set_option autoImplicit false

namespace Skyuv.Runtime

open Platform

universe u

variable {α : Type u}

/-! ## Functions of the source -/

/-- `none` is the value `nil`. -/
inductive Statement (α : Type u) where
  | assign (key : List UInt8) (value : Option α)
  | includes (name : List UInt8)
  deriving DecidableEq, Repr

abbrev Files (α : Type u) := List UInt8 → Option (List (Statement α))

/-- The raw entries of `result`, and every path that `io.open` was called with. -/
structure Memory (α : Type u) where
  table : List UInt8 → Option α
  opened : List (List UInt8)

/-- With `current_path`. -/
structure Loader (α : Type u) where
  current : List UInt8
  memory : Memory α

def includeKey : List UInt8 := ascii ['i', 'n', 'c', 'l', 'u', 'd', 'e']

/-- The keys of `roots`. -/
def reservedKeys : List (List UInt8) :=
  [ascii ['s', 'k', 'y', 'u', 'v', '_', 'i', 'n', 's', 't', 'a', 'l', 'l', '_', 'r', 'o', 'o', 't'],
    ascii ['s', 'k', 'y', 'u', 'v', '_', 'c', 'o', 'n', 'f', 'i', 'g', '_', 'r', 'o', 'o', 't']]

namespace Memory

def empty : Memory α := ⟨fun _ => none, []⟩

def set (memory : Memory α) (key : List UInt8) (value : Option α) : Memory α :=
  { memory with table := Function.update memory.table key value }

def note (memory : Memory α) (path : List UInt8) : Memory α :=
  { memory with opened := memory.opened ++ [path] }

/-- An assignment: `__newindex` is called for keys without an entry. -/
def assign (memory : Memory α) (key : List UInt8) (value : Option α) : Option (Memory α) :=
  if (memory.table key).isSome then some (memory.set key value)
  else if key ∈ reservedKeys then none
  else some (memory.set key value)

end Memory

/-- `%a`. -/
def isLetter (byte : UInt8) : Bool := (65 ≤ byte && byte ≤ 90) || (97 ≤ byte && byte ≤ 122)

/-- `path:sub(1, 1) == "/" or path:match("^%a:/")`. -/
def startsAbsolute : List UInt8 → Bool
  | first :: second :: third :: _ =>
      first == slash || isLetter first && second == colon && third == slash
  | first :: _ => first == slash
  | [] => false

/-- `filename:match("(.*[/])(.*)$")`. -/
def splitName (filename : List UInt8) : Option (List UInt8) × List UInt8 :=
  match strrchr slash filename with
  | some index => (some (filename.take (index + 1)), filename.drop (index + 1))
  | none => (none, filename)

/-- The new `current_path` and the name in it. -/
def locateFile (current filename : List UInt8) : List UInt8 × List UInt8 :=
  match splitName filename with
  | (some path, name) => (if startsAbsolute path then path else current ++ path, name)
  | (none, name) => (current, name)

/-- A chunk that calls `include` by its global name.  An entry of the table hides the
function, and is no function itself. -/
def execute (include' : List UInt8 → Loader α → Option (Except (Loader α) (Loader α))) :
    List (Statement α) → Loader α → Option (Except (Loader α) (Loader α))
  | [], loader => some (.ok loader)
  | .assign key value :: rest, loader =>
      match loader.memory.assign key value with
      | none => some (.error loader)
      | some memory => execute include' rest { loader with memory := memory }
  | .includes name :: rest, loader =>
      if (loader.memory.table includeKey).isSome then some (.error loader)
      else
        match include' name loader with
        | some (.ok after) => execute include' rest after
        | other => other

/-- `include`; `none` if the files are nested deeper than `fuel`. -/
def includeFile (files : Files α) :
    Nat → List UInt8 → Loader α → Option (Except (Loader α) (Loader α))
  | 0, _, _ => none
  | fuel + 1, filename, loader =>
      let previous := loader.current
      let (current, name) := locateFile loader.current (normalizeSeparators true filename)
      let memory := loader.memory.note (current ++ name)
      match files (current ++ name) with
      | none => some (.error ⟨current, memory⟩)
      | some body =>
          match execute (includeFile files fuel) body ⟨current, memory⟩ with
          | some (.ok after) => some (.ok { after with current := previous })
          | other => other

/-! ## What inclusion means -/

/-- The path up to its last separator. -/
def directory (path : List UInt8) : List UInt8 :=
  match strrchr slash path with
  | some index => path.take (index + 1)
  | none => []

/-- What a name means in a directory. -/
def resolve (current name : List UInt8) : List UInt8 :=
  let name := normalizeSeparators true name
  if startsAbsolute name then name else current ++ name

mutual

/-- Including a file from a directory, from one memory to the next; `error` is a load that
fails there. -/
inductive Includes (files : Files α) :
    List UInt8 → List UInt8 → Memory α → Except (Memory α) (Memory α) → Prop where
  | missing {current name : List UInt8} {memory : Memory α}
      (absent : files (resolve current name) = none) :
      Includes files current name memory (.error (memory.note (resolve current name)))
  | found {current name : List UInt8} {memory : Memory α} {body : List (Statement α)}
      {outcome : Except (Memory α) (Memory α)}
      (present : files (resolve current name) = some body)
      (run : Runs files (directory (resolve current name)) body
        (memory.note (resolve current name)) outcome) :
      Includes files current name memory outcome

/-- The statements of a file in a directory, in their order. -/
inductive Runs (files : Files α) :
    List UInt8 → List (Statement α) → Memory α → Except (Memory α) (Memory α) → Prop where
  | done {current : List UInt8} {memory : Memory α} : Runs files current [] memory (.ok memory)
  | assign {current key : List UInt8} {value : Option α} {rest : List (Statement α)}
      {memory : Memory α} {outcome : Except (Memory α) (Memory α)} (free : key ∉ reservedKeys)
      (onward : Runs files current rest (memory.set key value) outcome) :
      Runs files current (.assign key value :: rest) memory outcome
  | reserved {current key : List UInt8} {value : Option α} {rest : List (Statement α)}
      {memory : Memory α} (taken : key ∈ reservedKeys) :
      Runs files current (.assign key value :: rest) memory (.error memory)
  | includes {current name : List UInt8} {rest : List (Statement α)} {memory middle : Memory α}
      {outcome : Except (Memory α) (Memory α)}
      (inside : Includes files current name memory (.ok middle))
      (onward : Runs files current rest middle outcome) :
      Runs files current (.includes name :: rest) memory outcome
  | fails {current name : List UInt8} {rest : List (Statement α)} {memory middle : Memory α}
      (inside : Includes files current name memory (.error middle)) :
      Runs files current (.includes name :: rest) memory (.error middle)

end

/-- The files that are included from a path, and from there on, are finitely many, and
each satisfies `good`. -/
inductive FileTree (good : List (Statement α) → Prop) (files : Files α) :
    List UInt8 → Prop where
  | missing {path : List UInt8} (absent : files path = none) : FileTree good files path
  | found {path : List UInt8} {body : List (Statement α)} (present : files path = some body)
      (holds : good body)
      (below : ∀ name, .includes name ∈ body → FileTree good files
        (resolve (directory path) name)) :
      FileTree good files path

/-! ## Directories -/

/-- Empty, or with a separator at its end. -/
def IsDirectory (path : List UInt8) : Prop := path = [] ∨ ∃ front, path = front ++ [slash]

theorem take_split (front rest : List UInt8) :
    (front ++ slash :: rest).take (front.length + 1) = front ++ [slash] := by
  rw [List.take_length_add_append]
  rfl

theorem drop_split (front rest : List UInt8) :
    (front ++ slash :: rest).drop (front.length + 1) = rest := by
  rw [List.drop_length_add_append]
  rfl

theorem directory_split {front rest : List UInt8} (plain : slash ∉ rest) :
    directory (front ++ slash :: rest) = front ++ [slash] := by
  unfold directory
  rw [strrchr_append plain]
  exact take_split front rest

theorem directory_name {current name : List UInt8} (separated : IsDirectory current)
    (plain : slash ∉ name) : directory (current ++ name) = current := by
  rcases separated with rfl | ⟨front, rfl⟩
  · unfold directory
    cases found : strrchr slash ([] ++ name) with
    | none => rfl
    | some index =>
        obtain ⟨-, parts, -⟩ := strrchr_some found
        rw [List.nil_append] at parts
        rw [parts] at plain
        exact absurd (by simp) plain
  · rw [List.append_assoc, List.singleton_append]
    exact directory_split plain

/-- Being absolute is decided by the directory part. -/
theorem startsAbsolute_split (front rest : List UInt8) :
    startsAbsolute (front ++ slash :: rest) = startsAbsolute (front ++ [slash]) := by
  match front with
  | [] =>
      match rest with
      | [] => rfl
      | [_] => rfl
      | _ :: _ :: _ => simp [startsAbsolute]
  | [first] =>
      match rest with
      | [] => rfl
      | _ :: _ => simp [startsAbsolute, slash, colon]
  | [_, _] => rfl
  | _ :: _ :: _ :: _ => rfl

theorem startsAbsolute_plain {name : List UInt8} (plain : slash ∉ name) :
    startsAbsolute name = false := by
  unfold startsAbsolute
  split
  · rename_i first second third rest
    simp only [List.mem_cons, not_or] at plain
    simp [Ne.symm plain.1, Ne.symm plain.2.2.1]
  · rename_i first rest _
    simp only [List.mem_cons, not_or] at plain
    simp [Ne.symm plain.1]
  · rfl

/-- The variable is the directory of the file that is opened. -/
theorem locateFile_spec {current : List UInt8} (separated : IsDirectory current)
    (filename : List UInt8) :
    (locateFile current (normalizeSeparators true filename)).1 ++
        (locateFile current (normalizeSeparators true filename)).2 = resolve current filename ∧
      (locateFile current (normalizeSeparators true filename)).1 =
        directory (resolve current filename) := by
  unfold locateFile splitName resolve
  generalize normalizeSeparators true filename = text
  cases found : strrchr slash text with
  | none =>
      have plain : slash ∉ text := by
        intro member
        have some := strrchr_isSome member
        rw [found] at some
        cases some
      simp only [startsAbsolute_plain plain, Bool.false_eq_true, if_false]
      exact ⟨trivial, (directory_name separated plain).symm⟩
  | some index =>
      obtain ⟨inside, parts, plain⟩ := strrchr_some found
      have length : (text.take index).length = index :=
        List.length_take_of_le (Nat.le_of_lt inside)
      generalize text.take index = front at parts length
      generalize text.drop (index + 1) = rest at parts plain
      subst parts length
      simp only [take_split, drop_split, startsAbsolute_split front rest]
      cases startsAbsolute (front ++ [slash]) with
      | true =>
          simp only [if_true]
          exact ⟨by simp, (directory_split plain).symm⟩
      | false =>
          simp only [Bool.false_eq_true, if_false]
          refine ⟨by simp, ?_⟩
          rw [← List.append_assoc, ← List.append_assoc, directory_split plain]

/-! ## More fuel -/

section Fuel

variable {files : Files α}
  {smaller larger : List UInt8 → Loader α → Option (Except (Loader α) (Loader α))}

theorem execute_mono
    (more : ∀ name loader result, smaller name loader = some result →
      larger name loader = some result)
    {body : List (Statement α)} {loader : Loader α} {result : Except (Loader α) (Loader α)}
    (run : execute smaller body loader = some result) :
    execute larger body loader = some result := by
  induction body generalizing loader with
  | nil => exact run
  | cons statement rest ih =>
      cases statement with
      | assign key value =>
          simp only [execute] at run ⊢
          split at run
          · exact run
          · exact ih run
      | includes name =>
          simp only [execute] at run ⊢
          split at run
          · rename_i hidden
            rw [if_pos hidden]
            exact run
          · rename_i visible
            rw [if_neg visible]
            cases called : smaller name loader with
            | none =>
                rw [called] at run
                cases run
            | some outcome =>
                rw [called] at run
                rw [more name loader outcome called]
                cases outcome with
                | error => exact run
                | ok after => exact ih run

theorem includeFile_succ {fuel : Nat} {name : List UInt8} {loader : Loader α}
    {result : Except (Loader α) (Loader α)}
    (run : includeFile files fuel name loader = some result) :
    includeFile files (fuel + 1) name loader = some result := by
  induction fuel generalizing name loader result with
  | zero => cases run
  | succ fuel ih =>
      rw [includeFile] at run ⊢
      dsimp only at run ⊢
      split at run
      · exact run
      · rename_i body present
        cases inner : execute (includeFile files fuel) body _ with
        | none =>
            rw [inner] at run
            cases run
        | some outcome =>
            rw [inner] at run
            rw [execute_mono (fun _ _ _ called => ih called) inner]
            exact run

theorem includeFile_mono {fuel more : Nat} (less : fuel ≤ more) {name : List UInt8}
    {loader : Loader α} {result : Except (Loader α) (Loader α)}
    (run : includeFile files fuel name loader = some result) :
    includeFile files more name loader = some result := by
  induction less with
  | refl => exact run
  | step _ ih => exact includeFile_succ ih

end Fuel

/-! ## Agreement -/

/-- `include` is visible, and the reserved keys have no entries. -/
structure Memory.Clean (memory : Memory α) : Prop where
  visible : memory.table includeKey = none
  unset : ∀ key ∈ reservedKeys, memory.table key = none

theorem Memory.Clean.assign_reserved {memory : Memory α} (clean : memory.Clean)
    {key : List UInt8} (taken : key ∈ reservedKeys) (value : Option α) :
    memory.assign key value = none := by
  simp [Memory.assign, clean.unset key taken, taken]

theorem Memory.assign_free {memory : Memory α} {key : List UInt8} (free : key ∉ reservedKeys)
    (value : Option α) : memory.assign key value = some (memory.set key value) := by
  simp [Memory.assign, free]

theorem Memory.Clean.set {memory : Memory α} (clean : memory.Clean) {key : List UInt8}
    {value : Option α} (free : key ∉ reservedKeys) (plain : key = includeKey → value = none) :
    (memory.set key value).Clean where
  visible := by
    by_cases same : includeKey = key
    · subst same
      simp [Memory.set, plain rfl]
    · exact (Function.update_of_ne same ..).trans clean.visible
  unset := by
    intro other taken
    have distinct : other ≠ key := fun same => free (same ▸ taken)
    exact (Function.update_of_ne distinct ..).trans (clean.unset other taken)

/-- The result of the code and what it means: after success the variable is back. -/
inductive Agrees (current : List UInt8) :
    Except (Loader α) (Loader α) → Except (Memory α) (Memory α) → Prop where
  | ok {memory : Memory α} (clean : memory.Clean) :
      Agrees current (.ok ⟨current, memory⟩) (.ok memory)
  | error {elsewhere : List UInt8} {memory : Memory α} :
      Agrees current (.error ⟨elsewhere, memory⟩) (.error memory)

/-- No assignment hides `include`. -/
def Plain (body : List (Statement α)) : Prop :=
  ∀ value, .assign includeKey (some value) ∉ body

/-- What is shown of one inclusion. -/
def Included (files : Files α) (current name : List UInt8) : Prop :=
  ∀ memory : Memory α, memory.Clean → ∃ fuel result outcome,
    includeFile files fuel name ⟨current, memory⟩ = some result ∧
      Agrees current result outcome ∧ Includes files current name memory outcome

theorem execute_agrees {files : Files α} {current : List UInt8} {body : List (Statement α)}
    (plain : Plain body) (below : ∀ name, .includes name ∈ body → Included files current name)
    {memory : Memory α} (clean : memory.Clean) :
    ∃ fuel result outcome, execute (includeFile files fuel) body ⟨current, memory⟩ = some result ∧
      Agrees current result outcome ∧ Runs files current body memory outcome := by
  induction body generalizing memory with
  | nil => exact ⟨0, _, _, rfl, .ok clean, .done⟩
  | cons statement rest ih =>
      have onward := @ih (fun value member => plain value (List.mem_cons_of_mem _ member))
        (fun name member => below name (List.mem_cons_of_mem _ member))
      cases statement with
      | assign key value =>
          by_cases taken : key ∈ reservedKeys
          · refine ⟨0, .error ⟨current, memory⟩, .error memory, ?_, .error, .reserved taken⟩
            simp [execute, clean.assign_reserved taken]
          · have still : (memory.set key value).Clean := by
              refine clean.set taken ?_
              rintro rfl
              cases value with
              | none => rfl
              | some value => exact absurd List.mem_cons_self (plain value)
            obtain ⟨fuel, result, outcome, run, agrees, means⟩ := onward still
            refine ⟨fuel, result, outcome, ?_, agrees, .assign taken means⟩
            simp only [execute, Memory.assign_free taken]
            exact run
      | includes name =>
          have visible : ¬ (memory.table includeKey).isSome = true := by simp [clean.visible]
          obtain ⟨fuel, result, outcome, run, agrees, means⟩ :=
            below name List.mem_cons_self memory clean
          cases agrees with
          | @error elsewhere middle =>
              refine ⟨fuel, .error ⟨elsewhere, middle⟩, .error middle, ?_, .error, .fails means⟩
              simp only [execute, if_neg visible, run]
          | ok after =>
              obtain ⟨more, result, outcome, rerun, agrees, rest⟩ := onward after
              refine ⟨max fuel more, result, outcome, ?_, agrees, .includes means rest⟩
              simp only [execute, if_neg visible, includeFile_mono (Nat.le_max_left fuel more) run]
              exact execute_mono
                (fun _ _ _ called => includeFile_mono (Nat.le_max_right fuel more) called) rerun

/-- `include` in terms of the path that it opens. -/
theorem includeFile_resolve {files : Files α} {fuel : Nat} {current name : List UInt8}
    {memory : Memory α} (separated : IsDirectory current) :
    includeFile files (fuel + 1) name ⟨current, memory⟩ =
      match files (resolve current name) with
      | none => some (.error
          ⟨directory (resolve current name), memory.note (resolve current name)⟩)
      | some body =>
          match execute (includeFile files fuel) body
              ⟨directory (resolve current name), memory.note (resolve current name)⟩ with
          | some (.ok after) => some (.ok { after with current := current })
          | other => other := by
  obtain ⟨path, same⟩ := locateFile_spec separated name
  rw [includeFile]
  dsimp only
  rw [path, same]

theorem isDirectory_directory (path : List UInt8) : IsDirectory (directory path) := by
  unfold directory
  split
  · rename_i index found
    obtain ⟨inside, parts, -⟩ := strrchr_some found
    have length : (path.take index).length = index :=
      List.length_take_of_le (Nat.le_of_lt inside)
    generalize path.take index = front at parts length
    subst length
    right
    rw [parts, take_split]
    exact ⟨front, rfl⟩
  · exact .inl rfl

theorem Memory.Clean.note {memory : Memory α} (clean : memory.Clean) (path : List UInt8) :
    (memory.note path).Clean := ⟨clean.visible, clean.unset⟩

theorem included_of_tree {files : Files α} {path : List UInt8} (tree : FileTree Plain files path) :
    ∀ {current name : List UInt8}, resolve current name = path → IsDirectory current →
      Included files current name := by
  induction tree with
  | @missing path absent =>
      rintro current name rfl separated memory clean
      refine ⟨1, .error ⟨directory (resolve current name), memory.note (resolve current name)⟩,
        .error (memory.note (resolve current name)), ?_, .error, .missing absent⟩
      rw [includeFile_resolve separated, absent]
  | @found path body present plain below ih =>
      rintro current name rfl separated memory clean
      have inside : ∀ name', .includes name' ∈ body →
          Included files (directory (resolve current name)) name' := by
        intro name' member
        exact ih name' member rfl (isDirectory_directory _)
      obtain ⟨fuel, result, outcome, run, agrees, means⟩ :=
        execute_agrees plain inside (clean.note (resolve current name))
      cases agrees with
      | @ok after done =>
          refine ⟨fuel + 1, .ok ⟨current, after⟩, .ok after, ?_, .ok done, .found present means⟩
          rw [includeFile_resolve separated, present]
          simp only [run]
      | @error elsewhere after =>
          refine ⟨fuel + 1, .error ⟨elsewhere, after⟩, .error after, ?_, .error,
            .found present means⟩
          rw [includeFile_resolve separated, present]
          simp only [run]

/-! ## Reserved keys -/

/-- The file at a path does not assign a reserved key. -/
def Harmless (files : Files α) (path : List UInt8) : Prop :=
  ∀ body, files path = some body → ∀ key value, .assign key value ∈ body → key ∉ reservedKeys

mutual

/-- A load that succeeds has run no file that assigns a reserved key. -/
theorem Includes.harmless {files : Files α} {current name : List UInt8} {memory : Memory α} :
    ∀ {outcome : Except (Memory α) (Memory α)}, Includes files current name memory outcome →
      ∀ after, outcome = .ok after → (∀ path ∈ memory.opened, Harmless files path) →
        ∀ path ∈ after.opened, Harmless files path
  | _, .missing _, _, same, _ => by cases same
  | _, .found present run, after, same, known => by
      obtain ⟨free, onward⟩ := run.harmless after same
      refine onward fun path member => ?_
      rcases List.mem_append.mp member with member | member
      · exact known path member
      · intro body found
        rw [List.mem_singleton.mp member, present] at found
        cases found
        exact free

theorem Runs.harmless {files : Files α} {current : List UInt8} :
    ∀ {body : List (Statement α)} {memory : Memory α} {outcome : Except (Memory α) (Memory α)},
      Runs files current body memory outcome → ∀ after, outcome = .ok after →
        (∀ key value, .assign key value ∈ body → key ∉ reservedKeys) ∧
          ((∀ path ∈ memory.opened, Harmless files path) →
            ∀ path ∈ after.opened, Harmless files path)
  | _, _, _, .done, _, same => by
      cases same
      exact ⟨by simp, fun known => known⟩
  | _, _, _, .assign free onward, after, same => by
      obtain ⟨others, later⟩ := onward.harmless after same
      refine ⟨fun key value member => ?_, later⟩
      rcases List.mem_cons.mp member with first | member
      · cases first
        exact free
      · exact others key value member
  | _, _, _, .reserved _, _, same => by cases same
  | _, _, _, .includes inside onward, after, same => by
      obtain ⟨others, later⟩ := onward.harmless after same
      refine ⟨fun key value member => ?_, fun known => later (inside.harmless _ rfl known)⟩
      rcases List.mem_cons.mp member with first | member
      · cases first
      · exact others key value member
  | _, _, _, .fails _, _, same => by cases same

end

/-- For every finite tree of files in which no file assigns `include`: the load ends with
what inclusion means.  The files that are opened, their order and the table are those of
`Includes`, in which a name means something in the directory of its file; the variable
is back after every file; and a load that succeeds has run no file that assigns a
reserved key. -/
theorem config_includes {files : Files α} {config : List UInt8}
    (tree : FileTree Plain files (resolve [] config)) :
    (∃ fuel result outcome,
      (∀ more, fuel ≤ more → includeFile files more config ⟨[], .empty⟩ = some result) ∧
        Agrees [] result outcome ∧ Includes files [] config .empty outcome ∧
        ∀ memory, outcome = .ok memory → ∀ path ∈ memory.opened, Harmless files path) ∧
    ∀ fuel name loader after, includeFile files fuel name loader = some (.ok after) →
      after.current = loader.current := by
  constructor
  · obtain ⟨fuel, result, outcome, run, agrees, means⟩ :=
      included_of_tree tree rfl (.inl rfl) .empty ⟨rfl, fun _ _ => rfl⟩
    refine ⟨fuel, result, outcome, fun more less => includeFile_mono less run, agrees, means, ?_⟩
    intro memory success
    exact means.harmless memory success (by simp [Memory.empty])
  · intro fuel name loader after run
    cases fuel with
    | zero => cases run
    | succ fuel =>
        rw [includeFile] at run
        dsimp only at run
        split at run
        · cases run
        · split at run
          · cases run
            rfl
          · rename_i other
            exact absurd run (other after)

/-- `/c/m` includes `d/n`, which includes `o`, and then `o`. -/
def nestedFiles : Files Nat := fun path =>
  if path = [47, 99, 47, 109] then some [.includes [100, 92, 110], .includes [111]]
  else if path = [47, 99, 47, 100, 47, 110] then some [.includes [111]]
  else if path = [47, 99, 47, 100, 47, 111] then some [.assign [97] (some 1)]
  else if path = [47, 99, 47, 111] then some [.assign [97] (some 2)]
  else none

theorem nested_tree : FileTree Plain nestedFiles (resolve [] [47, 99, 47, 109]) := by
  have leaf {path : List UInt8} {number : Nat}
      (present : nestedFiles path = some [.assign [97] (some number)]) :
      FileTree Plain nestedFiles path := by
    refine .found present ?_ (by simp)
    intro value member
    simp [includeKey, ascii] at member
  refine .found rfl (by simp [Plain]) fun name member => ?_
  simp only [List.mem_cons, Statement.includes.injEq, List.not_mem_nil, or_false] at member
  rcases member with rfl | rfl
  · refine .found rfl (by simp [Plain]) fun name member => ?_
    simp only [List.mem_cons, Statement.includes.injEq, List.not_mem_nil, or_false] at member
    subst member
    exact leaf rfl
  · exact leaf rfl

theorem config_includes_nested :
    ∃ fuel result outcome,
      (∀ more, fuel ≤ more →
        includeFile nestedFiles more [47, 99, 47, 109] ⟨[], .empty⟩ = some result) ∧
      Agrees [] result outcome ∧ Includes nestedFiles [] [47, 99, 47, 109] .empty outcome := by
  obtain ⟨⟨fuel, result, outcome, run, agrees, means, -⟩, -⟩ := config_includes nested_tree
  exact ⟨fuel, result, outcome, run, agrees, means⟩

example : (match includeFile nestedFiles 3 [47, 99, 47, 109] ⟨[], .empty⟩ with
      | some (.ok after) => after.memory.opened
      | _ => []) =
    [[47, 99, 47, 109], [47, 99, 47, 100, 47, 110], [47, 99, 47, 100, 47, 111],
      [47, 99, 47, 111]] := by decide

/-- `m` assigns `include` and then includes `n`. -/
def hidingFiles : Files Nat := fun path =>
  if path = [109] then some [.assign includeKey (some 0), .includes [110]]
  else if path = [110] then some []
  else none

/-- The second statement no longer calls the function. -/
theorem include_hidden :
    (∃ memory, Includes hidingFiles [] [109] .empty (.ok memory) ∧
      memory.opened = [[109], [110]]) ∧
    FileTree (fun _ => True) hidingFiles (resolve [] [109]) ∧
    ¬ ∃ fuel after, includeFile hidingFiles fuel [109] ⟨[], .empty⟩ = some (.ok after) := by
  refine ⟨⟨_, .found rfl (.assign (by decide) (.includes (.found rfl .done) .done)), rfl⟩, ?_, ?_⟩
  · refine .found rfl trivial fun name member => ?_
    simp only [List.mem_cons, reduceCtorEq, Statement.includes.injEq, List.not_mem_nil, or_false,
      false_or] at member
    subst member
    exact .found rfl trivial (by simp)
  · rintro ⟨fuel, after, run⟩
    cases fuel with
    | zero => cases run
    | succ fuel => cases (show some (Except.error _) = some (Except.ok after) from run)

end Skyuv.Runtime
