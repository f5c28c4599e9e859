import Mathlib.Data.List.Basic

/-!
# Path texts

The functions of `runtime_paths.c` on path texts, for both platforms.  A text is the
list of the bytes before its NUL, so that `path[0] == '\0'` says that it is empty.

A location is what a text names in a file system without links: a drive, on Windows,
and the names on the way down.  The parent that `skyuv_path_parent` computes names the
location above, or the same location again if the text ends with a separator.  What
`skyuv_path_absolute` computes from a rooted base is rooted, and stays as it is when it
is resolved again.
-/

set_option autoImplicit false

namespace Skyuv.Platform

/-! ## Functions of the source -/

/-- The errors that are told apart. -/
inductive Error where
  | exist
  | noEntry
  | notDirectory
  | nameTooLong
  | invalid
  | other (code : Nat)
  deriving DecidableEq, Repr

def slash : UInt8 := 47
def backslash : UInt8 := 92
def colon : UInt8 := 58

/-- `SKYUV_RUNTIME_PATH_CAPACITY`. -/
def pathCapacity : Nat := 4096

/-- `path[index]`, where the NUL is the last byte that is read. -/
def byteAt (path : List UInt8) (index : Nat) : UInt8 := path.getD index 0

def normalizeByte (byte : UInt8) : UInt8 := if byte = backslash then slash else byte

def normalizeSeparators (windows : Bool) (path : List UInt8) : List UInt8 :=
  if windows then path.map normalizeByte else path

/-- The index of the last occurrence. -/
def strrchr (byte : UInt8) : List UInt8 → Option Nat
  | [] => none
  | first :: rest =>
      match strrchr byte rest with
      | some index => some (index + 1)
      | none => if first = byte then some 0 else none

/-- `skyuv_path_parent`; `none` is `UV_EINVAL`. -/
def pathParent (windows : Bool) (path : List UInt8) : Option (List UInt8) :=
  let path := normalizeSeparators windows path
  match strrchr slash path with
  | none => none
  | some separator =>
      if separator = 0 then some (path.take 1)
      else if windows ∧ separator = 2 ∧ byteAt path 1 = colon then some (path.take 3)
      else some (path.take separator)

/-- `skyuv_path_is_absolute`. -/
def pathIsAbsolute (windows : Bool) (path : List UInt8) : Bool :=
  let absolute := byteAt path 0 == slash
  if windows then
    absolute || byteAt path 0 == backslash ||
      ((byteAt path 0 != 0 && byteAt path 1 == colon) &&
        (byteAt path 2 == slash || byteAt path 2 == backslash))
  else absolute

/-- `snprintf` with a check for truncation, and `normalize_separators`. -/
def bounded (windows : Bool) (capacity : Nat) (text : List UInt8) : Except Error (List UInt8) :=
  if text.length ≥ capacity then .error .nameTooLong else .ok (normalizeSeparators windows text)

/-- `skyuv_path_absolute`. -/
def pathAbsolute (windows : Bool) (base path : List UInt8) (capacity : Nat) :
    Except Error (List UInt8) :=
  let absolute := pathIsAbsolute windows path
  if windows ∧ path ≠ [] ∧ byteAt path 1 = colon ∧ ¬ absolute then .error .invalid
  else if windows ∧ (byteAt path 0 = slash ∨ byteAt path 0 = backslash) ∧
      byteAt path 1 ≠ slash ∧ byteAt path 1 ≠ backslash then
    if base = [] ∨ byteAt base 1 ≠ colon then .error .invalid
    else bounded windows capacity (byteAt base 0 :: colon :: path)
  else if path = [] then .error .invalid
  else bounded windows capacity (if absolute then path else base ++ slash :: path)

/-! ## Locations -/

/-- The names between the separators. -/
def components (path : List UInt8) : List (List UInt8) :=
  (path.splitOnP (· == slash)).filter (· ≠ [])

structure Location where
  drive : Option UInt8
  names : List (List UInt8)
  deriving DecidableEq, Repr

namespace Location

def parent (location : Location) : Option Location :=
  if location.names = [] then none else some ⟨location.drive, location.names.dropLast⟩

/-- The location itself or one above it. -/
def Within (above location : Location) : Prop :=
  above.drive = location.drive ∧ above.names <+: location.names

end Location

/-- A text with `/` separators begins with a drive and a separator. -/
def hasDrive (windows : Bool) (path : List UInt8) : Bool :=
  windows && byteAt path 0 != 0 && byteAt path 0 != slash && byteAt path 1 == colon &&
    byteAt path 2 == slash

/-- What an absolute text with `/` separators names. -/
def place (windows : Bool) (path : List UInt8) : Location :=
  if hasDrive windows path then ⟨some (byteAt path 0), components (path.drop 2)⟩
  else ⟨none, components path⟩

def locate (windows : Bool) (path : List UInt8) : Location :=
  place windows (normalizeSeparators windows path)

/-! ## Separators -/

section Texts

variable {windows : Bool} {path parent rest : List UInt8} {byte : UInt8} {index : Nat}

theorem normalizeByte_idem (byte : UInt8) :
    normalizeByte (normalizeByte byte) = normalizeByte byte := by
  unfold normalizeByte
  by_cases same : byte = backslash
  · rw [if_pos same, if_neg (by decide)]
  · rw [if_neg same, if_neg same]

@[simp] theorem normalizeSeparators_idem (windows : Bool) (path : List UInt8) :
    normalizeSeparators windows (normalizeSeparators windows path) =
      normalizeSeparators windows path := by
  cases windows with
  | false => rfl
  | true => simp [normalizeSeparators, normalizeByte_idem]

@[simp] theorem normalizeSeparators_length (windows : Bool) (path : List UInt8) :
    (normalizeSeparators windows path).length = path.length := by
  cases windows <;> simp [normalizeSeparators]

theorem normalizeSeparators_take (windows : Bool) (path : List UInt8) (count : Nat) :
    normalizeSeparators windows (path.take count) =
      (normalizeSeparators windows path).take count := by
  cases windows <;> simp [normalizeSeparators, List.map_take]

theorem strrchr_isSome (member : byte ∈ path) : (strrchr byte path).isSome = true := by
  induction path with
  | nil => cases member
  | cons first rest ih =>
      unfold strrchr
      rcases List.mem_cons.mp member with same | member
      · subst same
        cases strrchr byte rest <;> simp
      · obtain ⟨position, found⟩ := Option.isSome_iff_exists.mp (ih member)
        simp [found]

/-- Where the last separator is. -/
theorem strrchr_some (found : strrchr byte path = some index) :
    index < path.length ∧ path = path.take index ++ byte :: path.drop (index + 1) ∧
      byte ∉ path.drop (index + 1) := by
  induction path generalizing index with
  | nil => cases found
  | cons first rest ih =>
      unfold strrchr at found
      cases later : strrchr byte rest with
      | some position =>
          rw [later] at found
          cases Option.some.inj found
          obtain ⟨short, parts, last⟩ := ih later
          exact ⟨Nat.succ_lt_succ short, congrArg (first :: ·) parts, last⟩
      | none =>
          rw [later] at found
          obtain ⟨same, ⟨⟩⟩ := Option.ite_none_right_eq_some.mp found
          subst same
          refine ⟨Nat.zero_lt_succ _, rfl, fun member => ?_⟩
          have again := strrchr_isSome member
          rw [List.drop_succ_cons, List.drop_zero, later] at again
          cases again

theorem strrchr_append {front : List UInt8} (last : byte ∉ rest) :
    strrchr byte (front ++ byte :: rest) = some front.length := by
  induction front with
  | nil =>
      have none : strrchr byte rest = none := by
        cases found : strrchr byte rest with
        | none => rfl
        | some index =>
            obtain ⟨-, parts, -⟩ := strrchr_some found
            rw [parts] at last
            exact absurd (by simp) last
      simp [strrchr, none]
  | cons first front ih => simp [strrchr, ih]

/-! ## Components -/

theorem components_append (path rest : List UInt8) :
    components (path ++ slash :: rest) = components path ++ components rest := by
  unfold components
  rw [@List.splitOnP_append_cons _ (· == slash) path rest slash (beq_self_eq_true slash),
    List.filter_append]

/-- A text without separators is one name. -/
theorem components_single (plain : slash ∉ path) :
    components path = if path = [] then [] else [path] := by
  unfold components
  rw [List.splitOnP_eq_singleton]
  · by_cases empty : path = [] <;> simp [empty]
  · intro byte member
    simp only [beq_eq_false_iff_ne, ne_eq]
    rintro rfl
    exact plain member

/-- What lies behind the last separator is a name, or nothing. -/
theorem components_last (path : List UInt8) (plain : slash ∉ rest) :
    components (path ++ slash :: rest) = components path ∨
      ∃ name, components (path ++ slash :: rest) = components path ++ [name] := by
  rw [components_append, components_single plain]
  split
  · exact .inl (List.append_nil _)
  · exact .inr ⟨rest, rfl⟩

/-- A trailing separator does not matter. -/
theorem components_trailing (path : List UInt8) :
    components (path ++ [slash]) = components path := by
  rw [components_append]
  exact List.append_nil _

/-! ## The parent -/

theorem Location.above {drive : Option UInt8} {names more : List (List UInt8)}
    (last : more = names ∨ ∃ name, more = names ++ [name]) :
    (⟨drive, names⟩ : Location) = ⟨drive, more⟩ ∨
      (⟨drive, more⟩ : Location).parent = some ⟨drive, names⟩ := by
  rcases last with rfl | ⟨name, rfl⟩
  · exact .inl rfl
  · right
    unfold Location.parent
    rw [if_neg (by simp)]
    simp

theorem byteAt_normalize (windows : Bool) (path : List UInt8) (index : Nat) :
    byteAt (normalizeSeparators windows path) index =
      if windows then normalizeByte (byteAt path index) else byteAt path index := by
  cases windows with
  | false => rfl
  | true =>
      unfold byteAt normalizeSeparators
      simp only [if_true, List.getD_eq_getElem?_getD, List.getElem?_map]
      cases path[index]? with
      | none => rfl
      | some byte => rfl

theorem normalizeByte_eq_slash :
    normalizeByte byte = slash ↔ byte = slash ∨ byte = backslash := by
  unfold normalizeByte
  by_cases same : byte = backslash
  · simp [same]
  · simp [same]

theorem normalizeByte_eq {other : UInt8} (plain : other ≠ slash) (text : other ≠ backslash) :
    normalizeByte byte = other ↔ byte = other := by
  unfold normalizeByte
  by_cases same : byte = backslash
  · rw [if_pos same, same]
    exact ⟨fun wrong => absurd wrong.symm plain, fun wrong => absurd wrong.symm text⟩
  · rw [if_neg same]

/-- An absolute text begins with a separator or with a drive. -/
theorem pathIsAbsolute_iff :
    pathIsAbsolute windows path = true ↔
      byteAt (normalizeSeparators windows path) 0 = slash ∨
        hasDrive windows (normalizeSeparators windows path) = true := by
  cases windows with
  | false => simp [pathIsAbsolute, hasDrive, normalizeSeparators]
  | true =>
      have zero : normalizeByte (byteAt path 0) = 0 ↔ byteAt path 0 = 0 :=
        normalizeByte_eq (by decide) (by decide)
      have drive : normalizeByte (byteAt path 1) = colon ↔ byteAt path 1 = colon :=
        normalizeByte_eq (by decide) (by decide)
      simp only [pathIsAbsolute, hasDrive, byteAt_normalize, if_true, Bool.true_and,
        Bool.and_eq_true, Bool.or_eq_true, beq_iff_eq, bne_iff_ne, ne_eq, zero, drive,
        normalizeByte_eq_slash]
      by_cases first : byteAt path 0 = slash ∨ byteAt path 0 = backslash
      · simp only [first, true_or]
      · simp only [first, false_or, not_false_eq_true, and_true]

/-- The parent that is computed and the location that is above. -/
structure Above (windows : Bool) (path parent : List UInt8) : Prop where
  absolute : byteAt parent 0 = slash ∨ hasDrive windows parent = true
  location : place windows parent = place windows path ∨
    (place windows path).parent = some (place windows parent)

/-- The only separator is the first byte. -/
theorem above_root (plain : slash ∉ rest) : Above windows (slash :: rest) [slash] where
  absolute := .inl rfl
  location := by
    have noDrive (tail : List UInt8) : hasDrive windows (slash :: tail) = false := by
      simp [hasDrive, byteAt]
    unfold place
    simp only [noDrive, Bool.false_eq_true, if_false]
    exact Location.above (components_last [] plain)

/-- The root of a drive. -/
theorem above_drive {drive : UInt8} (absolute : drive = slash ∨ drive ≠ 0)
    (plain : slash ∉ rest) :
    Above true (drive :: colon :: slash :: rest) [drive, colon, slash] := by
  by_cases same : drive = slash
  · subst same
    refine ⟨.inl rfl, ?_⟩
    have noDrive (tail : List UInt8) : hasDrive true (slash :: tail) = false := by
      simp [hasDrive, byteAt]
    unfold place
    simp only [noDrive, Bool.false_eq_true, if_false]
    apply Location.above
    rw [show [slash, colon, slash] = [slash, colon] ++ [slash] from rfl, components_trailing]
    exact components_last [slash, colon] plain
  · have driven (tail : List UInt8) : hasDrive true (drive :: colon :: slash :: tail) = true := by
      simp [hasDrive, byteAt, same, absolute.resolve_left same]
    refine ⟨.inr (driven []), ?_⟩
    unfold place
    simp only [driven, if_true]
    exact Location.above (components_last [] plain)

/-- Any other separator. -/
theorem above_deep {front : List UInt8}
    (absolute : byteAt (front ++ slash :: rest) 0 = slash ∨
      hasDrive windows (front ++ slash :: rest) = true)
    (plain : slash ∉ rest) (deep : front ≠ [])
    (far : hasDrive windows (front ++ slash :: rest) = true → front.length ≠ 2) :
    Above windows (front ++ slash :: rest) front := by
  have first : byteAt (front ++ slash :: rest) 0 = byteAt front 0 := by
    cases front with
    | nil => exact absurd rfl deep
    | cons first more => rfl
  by_cases driven : hasDrive windows (front ++ slash :: rest) = true
  · -- the drive, its colon and the separator are all in front
    obtain ⟨drive, mark, third, more, rfl⟩ : ∃ drive mark third more,
        front = drive :: mark :: third :: more := by
      match front, far driven with
      | [], _ => exact absurd rfl deep
      | [drive], _ => simp [hasDrive, byteAt, slash, colon] at driven
      | [drive, mark], short => exact absurd rfl short
      | drive :: mark :: third :: more, _ => exact ⟨drive, mark, third, more, rfl⟩
    have still : hasDrive windows (drive :: mark :: third :: more) = true := driven
    refine ⟨.inr still, ?_⟩
    unfold place
    rw [if_pos still, if_pos driven]
    exact Location.above (components_last (third :: more) plain)
  · have rooted : byteAt front 0 = slash := first ▸ absolute.resolve_right driven
    have still : hasDrive windows front = false := by simp [hasDrive, rooted]
    refine ⟨.inl rooted, ?_⟩
    unfold place
    rw [if_neg (by simp [still]), if_neg driven]
    exact Location.above (components_last front plain)

theorem pathParent_above (absolute : pathIsAbsolute windows path = true)
    (found : pathParent windows path = some parent) :
    Above windows (normalizeSeparators windows path) parent := by
  rw [pathIsAbsolute_iff] at absolute
  unfold pathParent at found
  generalize normalizeSeparators windows path = text at absolute found ⊢
  dsimp only at found
  split at found
  · cases found
  · rename_i separator last
    obtain ⟨inside, parts, plain⟩ := strrchr_some last
    generalize text.drop (separator + 1) = rest at parts plain
    split at found
    · rename_i first
      subst first
      cases Option.some.inj found
      rw [parts]
      exact above_root plain
    · rename_i deep
      have length : (text.take separator).length = separator :=
        List.length_take_of_le (Nat.le_of_lt inside)
      generalize text.take separator = front at parts found length
      subst parts
      split at found
      · rename_i root
        obtain ⟨rfl, rfl, mark⟩ := root
        obtain ⟨drive, second, rfl⟩ := List.length_eq_two.mp length
        have second : second = colon := mark
        subst second
        cases Option.some.inj found
        refine above_drive ?_ plain
        rcases absolute with first | driven
        · exact .inl first
        · right
          rintro rfl
          simp [hasDrive, byteAt] at driven
      · rename_i other
        cases Option.some.inj found
        refine above_deep absolute plain ?_ fun driven short => other ?_
        · rintro rfl
          exact deep length.symm
        · simp only [hasDrive, Bool.and_eq_true, beq_iff_eq] at driven
          exact ⟨driven.1.1.1.1, length.symm.trans short, driven.1.2⟩

/-- `skyuv_path_parent` leaves `/` separators only. -/
theorem pathParent_normalized (found : pathParent windows path = some parent) :
    normalizeSeparators windows parent = parent := by
  unfold pathParent at found
  dsimp only at found
  split at found
  · cases found
  · split at found
    · cases Option.some.inj found
      rw [normalizeSeparators_take, normalizeSeparators_idem]
    · split at found
      · cases Option.some.inj found
        rw [normalizeSeparators_take, normalizeSeparators_idem]
      · cases Option.some.inj found
        rw [normalizeSeparators_take, normalizeSeparators_idem]

/-- The parent of an absolute text is absolute, and names the same location or the one
above. -/
theorem pathParent_locate (absolute : pathIsAbsolute windows path = true)
    (found : pathParent windows path = some parent) :
    pathIsAbsolute windows parent = true ∧
      (locate windows parent = locate windows path ∨
        (locate windows path).parent = some (locate windows parent)) := by
  have above := pathParent_above absolute found
  rw [pathIsAbsolute_iff]
  unfold locate
  rw [pathParent_normalized found]
  exact ⟨above.absolute, above.location⟩

theorem mem_of_byteAt {index : Nat} (found : byteAt path index = byte) (some_ : byte ≠ 0) :
    byte ∈ path := by
  unfold byteAt at found
  rw [List.getD_eq_getElem?_getD] at found
  cases shown : path[index]? with
  | none =>
      rw [shown] at found
      exact absurd found.symm some_
  | some other =>
      rw [shown] at found
      exact found ▸ List.mem_of_getElem? shown

/-- An absolute text has a parent, and a shorter one below the names in the root. -/
theorem exists_pathParent (absolute : pathIsAbsolute windows path = true) :
    ∃ parent, pathParent windows path = some parent ∧
      (parent = path → (locate windows path).names.length ≤ 1) := by
  rw [pathIsAbsolute_iff] at absolute
  have whole (parent : List UInt8) (same : parent = path) :
      parent.length = (normalizeSeparators windows path).length := by
    rw [normalizeSeparators_length, same]
  unfold pathParent locate
  generalize normalizeSeparators windows path = text at absolute whole ⊢
  have member : slash ∈ text := by
    rcases absolute with first | driven
    · exact mem_of_byteAt first (by decide)
    · simp only [hasDrive, Bool.and_eq_true, beq_iff_eq] at driven
      exact mem_of_byteAt driven.2 (by decide)
  obtain ⟨separator, last⟩ := Option.isSome_iff_exists.mp (strrchr_isSome member)
  obtain ⟨inside, parts, -⟩ := strrchr_some last
  have length : (text.take separator).length = separator :=
    List.length_take_of_le (Nat.le_of_lt inside)
  simp only [last]
  split
  · rename_i first
    refine ⟨_, rfl, fun same => ?_⟩
    have short := whole _ same
    subst first
    rw [parts, List.take_zero, List.nil_append] at short ⊢
    generalize text.drop (0 + 1) = rest at short ⊢
    cases rest with
    | nil => cases windows <;> decide
    | cons => simp at short
  · split
    · rename_i root
      refine ⟨_, rfl, fun same => ?_⟩
      have short := whole _ same
      obtain ⟨rfl, rfl, mark⟩ := root
      generalize text.take 2 = front at parts length
      generalize text.drop (2 + 1) = rest at parts
      subst parts
      obtain ⟨drive, second, rfl⟩ := List.length_eq_two.mp length
      have second : second = colon := mark
      subst second
      cases rest with
      | cons => simp at short
      | nil =>
          rcases absolute with first | driven
          · have first : drive = slash := first
            subst first
            decide
          · have driven : hasDrive true [drive, colon, slash] = true := driven
            simp only [List.cons_append, List.nil_append, place, driven, if_true]
            exact (by decide : (components [slash]).length ≤ 1)
    · refine ⟨_, rfl, fun same => ?_⟩
      have short := whole _ same
      omega

/-- The parent is no longer, and as long only if it differs in its separators. -/
theorem pathParent_shorter (found : pathParent windows path = some parent) :
    parent.length < path.length ∨ parent = normalizeSeparators windows path := by
  unfold pathParent at found
  rw [← normalizeSeparators_length windows path]
  generalize normalizeSeparators windows path = text at found ⊢
  dsimp only at found
  have cut (count : Nat) (short : count ≤ text.length) :
      (text.take count).length < text.length ∨ text.take count = text := by
    rw [List.length_take_of_le short]
    rcases Nat.lt_or_eq_of_le short with less | same
    · exact .inl less
    · exact .inr (same ▸ List.take_length)
  split at found
  · cases found
  · rename_i separator last
    obtain ⟨inside, -, -⟩ := strrchr_some last
    split at found
    · cases Option.some.inj found
      exact cut 1 (by omega)
    · split at found
      · cases Option.some.inj found
        exact cut 3 (by omega)
      · cases Option.some.inj found
        exact cut separator (by omega)

/-! ## Resolving -/

/-- The same place whatever the working directory and the current drive are. -/
def pathIsRooted (windows : Bool) (path : List UInt8) : Bool :=
  if windows then byteAt path 0 == slash && byteAt path 1 == slash || hasDrive windows path
  else byteAt path 0 == slash

/-- A rooted text with `/` separators, as `skyuv_path_real` returns it. -/
structure RootedPath (windows : Bool) (path : List UInt8) : Prop where
  rooted : pathIsRooted windows path = true
  normalized : normalizeSeparators windows path = path

/-- What a path means from a base, before the check of its length. -/
def joined (windows : Bool) (base path : List UInt8) : List UInt8 :=
  if windows ∧ (byteAt path 0 = slash ∨ byteAt path 0 = backslash) ∧
      byteAt path 1 ≠ slash ∧ byteAt path 1 ≠ backslash then
    byteAt base 0 :: colon :: path
  else if pathIsAbsolute windows path then path
  else base ++ slash :: path

variable {base output : List UInt8} {capacity : Nat}

theorem bounded_ok {text : List UInt8} (made : bounded windows capacity text = .ok output) :
    text.length < capacity ∧ output = normalizeSeparators windows text := by
  unfold bounded at made
  split at made
  · cases made
  · rename_i short
    cases made
    exact ⟨Nat.lt_of_not_le short, rfl⟩

/-- The three ways in which a path is resolved. -/
theorem pathAbsolute_cases (made : pathAbsolute windows base path capacity = .ok output) :
    (windows = true ∧ (byteAt path 0 = slash ∨ byteAt path 0 = backslash) ∧
        byteAt base 1 = colon ∧
        bounded windows capacity (byteAt base 0 :: colon :: path) = .ok output ∧
        joined windows base path = byteAt base 0 :: colon :: path) ∨
      (pathIsAbsolute windows path = true ∧
        (windows = true → byteAt path 0 = slash ∨ byteAt path 0 = backslash →
          byteAt path 1 = slash ∨ byteAt path 1 = backslash) ∧
        bounded windows capacity path = .ok output ∧ joined windows base path = path) ∨
      (bounded windows capacity (base ++ slash :: path) = .ok output ∧
        joined windows base path = base ++ slash :: path) := by
  unfold pathAbsolute at made
  unfold joined
  dsimp only at made
  split at made
  · cases made
  · split at made
    · rename_i drive
      rw [if_pos drive]
      split at made
      · cases made
      · rename_i mark
        rw [not_or, not_not] at mark
        exact .inl ⟨drive.1, drive.2.1, mark.2, made, rfl⟩
    · rename_i other
      rw [if_neg other]
      split at made
      · cases made
      · right
        split at made
        · rename_i absolute
          refine .inl ⟨absolute, fun windows first => ?_, made, if_pos absolute⟩
          by_contra second
          rw [not_or] at second
          exact other ⟨windows, first, second⟩
        · rename_i relative
          exact .inr ⟨made, if_neg relative⟩

/-- A resolved path is the whole of what is meant. -/
theorem pathAbsolute_joined (made : pathAbsolute windows base path capacity = .ok output) :
    (joined windows base path).length < capacity ∧
      output = normalizeSeparators windows (joined windows base path) := by
  rcases pathAbsolute_cases made with ⟨-, -, -, made, same⟩ | ⟨-, -, made, same⟩ | ⟨made, same⟩
  · rw [same]
    exact bounded_ok made
  · rw [same]
    exact bounded_ok made
  · rw [same]
    exact bounded_ok made

theorem rooted_append (root : pathIsRooted windows base = true) (rest : List UInt8) :
    pathIsRooted windows (base ++ rest) = true := by
  cases windows with
  | false =>
      cases base with
      | nil => cases root
      | cons first base => exact root
  | true =>
      match base with
      | [] => cases root
      | [first] => simp [pathIsRooted, hasDrive, byteAt, slash, colon] at root
      | [first, second] =>
          simp only [pathIsRooted, hasDrive, byteAt, if_true, Bool.or_eq_true, Bool.and_eq_true,
            beq_iff_eq, List.getD_cons_zero, List.getD_cons_succ, List.getD_nil] at root
          rcases root with share | drive
          · simp [pathIsRooted, byteAt, share.1, share.2]
          · cases drive.2
      | first :: second :: third :: base => exact root

/-- The root of a path that is given with its drive or share. -/
theorem rooted_absolute (absolute : pathIsAbsolute windows path = true)
    (share : windows = true → byteAt path 0 = slash ∨ byteAt path 0 = backslash →
      byteAt path 1 = slash ∨ byteAt path 1 = backslash) :
    pathIsRooted windows (normalizeSeparators windows path) = true := by
  rw [pathIsAbsolute_iff] at absolute
  unfold pathIsRooted
  cases windows with
  | false =>
      simp only [hasDrive, Bool.false_and, Bool.false_eq_true, or_false] at absolute
      simp [absolute]
  | true =>
      rw [if_pos rfl, Bool.or_eq_true]
      rcases absolute with first | drive
      · left
        rw [byteAt_normalize, if_pos rfl, normalizeByte_eq_slash] at first
        have second := share rfl first
        rw [byteAt_normalize, byteAt_normalize, if_pos rfl, if_pos rfl,
          normalizeByte_eq_slash.mpr first, normalizeByte_eq_slash.mpr second]
        rfl
      · exact .inr drive

theorem normalizeSeparators_append (windows : Bool) (path rest : List UInt8) :
    normalizeSeparators windows (path ++ rest) =
      normalizeSeparators windows path ++ normalizeSeparators windows rest := by
  cases windows <;> simp [normalizeSeparators]

/-- The drive of the base in front of a path without one. -/
theorem rooted_drive (root : RootedPath true base) (mark : byteAt base 1 = colon)
    (first : byteAt path 0 = slash ∨ byteAt path 0 = backslash) :
    pathIsRooted true (normalizeSeparators true (byteAt base 0 :: colon :: path)) = true := by
  have driven : hasDrive true base = true := by
    have shown := root.rooted
    simp only [pathIsRooted, if_true, Bool.or_eq_true, Bool.and_eq_true, beq_iff_eq, mark] at shown
    refine shown.resolve_left fun wrong => ?_
    cases wrong.2
  have same : normalizeByte (byteAt base 0) = byteAt base 0 := by
    have shown := byteAt_normalize true base 0
    rw [root.normalized, if_pos rfl] at shown
    exact shown.symm
  have third : normalizeByte (byteAt path 0) = slash := normalizeByte_eq_slash.mpr first
  simp only [hasDrive, Bool.true_and, Bool.and_eq_true, bne_iff_ne, ne_eq, beq_iff_eq] at driven
  have drive :
      hasDrive true (normalizeSeparators true (byteAt base 0 :: colon :: path)) = true := by
    simp only [hasDrive, byteAt_normalize, if_true, Bool.true_and, Bool.and_eq_true, bne_iff_ne,
      ne_eq, beq_iff_eq]
    refine ⟨⟨⟨?_, ?_⟩, rfl⟩, third⟩
    · rw [show byteAt (byteAt base 0 :: colon :: path) 0 = byteAt base 0 from rfl, same]
      exact driven.1.1.1
    · rw [show byteAt (byteAt base 0 :: colon :: path) 0 = byteAt base 0 from rfl, same]
      exact driven.1.1.2
  rw [pathIsRooted, if_pos rfl, drive, Bool.or_true]

/-- What is resolved from a rooted base is rooted. -/
theorem pathAbsolute_rooted (root : RootedPath windows base)
    (made : pathAbsolute windows base path capacity = .ok output) : RootedPath windows output := by
  have whole := (pathAbsolute_joined made).2
  refine ⟨?_, by rw [whole, normalizeSeparators_idem]⟩
  rw [whole]
  rcases pathAbsolute_cases made with
    ⟨rfl, first, mark, -, same⟩ | ⟨absolute, share, -, same⟩ | ⟨-, same⟩
  · rw [same]
    exact rooted_drive root mark first
  · rw [same]
    exact rooted_absolute absolute share
  · rw [same, normalizeSeparators_append, root.normalized]
    exact rooted_append root.rooted _

theorem RootedPath.absolute (root : RootedPath windows path) :
    pathIsAbsolute windows path = true := by
  rw [pathIsAbsolute_iff, root.normalized]
  have shown := root.rooted
  unfold pathIsRooted at shown
  split at shown
  · rcases Bool.or_eq_true .. ▸ shown with share | drive
    · exact .inl (beq_iff_eq.mp (Bool.and_eq_true .. ▸ share).1)
    · exact .inr drive
  · exact .inl (beq_iff_eq.mp shown)

/-- A rooted path is resolved already. -/
theorem pathAbsolute_fixed (root : RootedPath windows path) (short : path.length < capacity)
    (base : List UInt8) : pathAbsolute windows base path capacity = .ok path := by
  have absolute := root.absolute
  have some : path ≠ [] := by
    rintro rfl
    cases windows <;> cases absolute
  have keep : ¬ (windows = true ∧ (byteAt path 0 = slash ∨ byteAt path 0 = backslash) ∧
      byteAt path 1 ≠ slash ∧ byteAt path 1 ≠ backslash) := by
    rintro ⟨rfl, first, second, -⟩
    have shown := root.rooted
    simp only [pathIsRooted, hasDrive, if_true, Bool.true_and, Bool.or_eq_true, Bool.and_eq_true,
      bne_iff_ne, ne_eq, beq_iff_eq] at shown
    rcases shown with share | drive
    · exact second share.2
    · rcases first with first | first
      · exact drive.1.1.2 first
      · -- a backslash would have been normalized
        have changed := byteAt_normalize true path 0
        rw [root.normalized, first] at changed
        cases changed
  unfold pathAbsolute
  dsimp only
  rw [if_neg (fun wrong => wrong.2.2.2 absolute), if_neg keep, if_neg some, if_pos absolute]
  unfold bounded
  rw [if_neg (Nat.not_le_of_lt short), root.normalized]

end Texts

end Skyuv.Platform
