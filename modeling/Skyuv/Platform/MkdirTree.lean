import Skyuv.Platform.Mkdir

/-!
# Recursive creation of directories in a tree

On a file system that is a tree, `skyuv_path_mkdir` makes the missing directories on
the way to a path and nothing else.  The induction is over the text of the path; the
parent of a text names the location above, or the location itself, so that the second
attempt finds its parent there.
-/

set_option autoImplicit false

namespace Skyuv.Platform

/-! ## Trees -/

/-- Whatever is no directory has nothing below it. -/
inductive Node where
  | directory
  | other
  deriving DecidableEq, Repr

/-- What there is at each location. -/
structure Tree where
  node : Location → Option Node
  closed : ∀ location above, location.parent = some above → node location ≠ none →
    node above = some .directory

namespace Location

/-- The locations above, the root first. -/
def ancestors (location : Location) : List Location :=
  (List.range location.names.length).map fun depth =>
    ⟨location.drive, location.names.take depth⟩

variable {location above : Location}

theorem parent_names (parent : location.parent = some above) :
    ∃ name, location.names = above.names ++ [name] ∧ location.drive = above.drive := by
  unfold Location.parent at parent
  split at parent
  · cases parent
  · rename_i some
    cases Option.some.inj parent
    exact ⟨location.names.getLast some, (List.dropLast_append_getLast some).symm, rfl⟩

theorem parent_ne (parent : location.parent = some above) : above ≠ location := by
  rintro rfl
  obtain ⟨name, names, -⟩ := parent_names parent
  simpa using congrArg List.length names

theorem Within.refl (location : Location) : location.Within location :=
  ⟨rfl, List.prefix_refl _⟩

theorem Within.parent {other : Location} (within : other.Within above)
    (parent : location.parent = some above) : other.Within location := by
  obtain ⟨name, names, drive⟩ := parent_names parent
  refine ⟨within.1.trans drive.symm, ?_⟩
  rw [names]
  exact within.2.trans (List.prefix_append _ _)

/-- The parent is the last ancestor. -/
theorem ancestors_parent (parent : location.parent = some above) :
    location.ancestors = above.ancestors ++ [above] := by
  obtain ⟨name, names, drive⟩ := parent_names parent
  unfold ancestors
  rw [names, List.length_append, List.length_singleton, List.range_succ, List.map_append, drive]
  congr 1
  · apply List.map_congr_left
    intro depth member
    rw [List.take_append_of_le_length (Nat.le_of_lt (List.mem_range.mp member))]
  · simp

end Location

namespace Tree

variable {tree : Tree} {location above : Location}

/-- A new directory. -/
def create (tree : Tree) (location : Location) (missing : tree.node location = none)
    (home : ∀ above, location.parent = some above → tree.node above = some .directory) : Tree where
  node := Function.update tree.node location (some .directory)
  closed := by
    intro child above parent present
    by_cases same : child = location
    · subst same
      rw [Function.update_of_ne (Location.parent_ne parent)]
      exact home above parent
    · rw [Function.update_of_ne same] at present
      by_cases here : above = location
      · rw [here, Function.update_self]
      · rw [Function.update_of_ne here]
        exact tree.closed child above parent present

theorem home_parent (home : ∃ above, location.parent = some above ∧
    tree.node above = some .directory)
    (above : Location) (parent : location.parent = some above) :
    tree.node above = some .directory := by
  obtain ⟨other, same, directory⟩ := home
  cases parent.symm.trans same
  exact directory

/-- Some ancestor is there and is no directory. -/
def blocked (tree : Tree) (location : Location) : Bool :=
  location.ancestors.any fun above => tree.node above == some .other

/-- `mkdir`; `refusal` is the error for which a possible creation is refused. -/
def mkdir (tree : Tree) (location : Location) (refusal : Option Nat) : Except Error Unit × Tree :=
  if missing : tree.node location = none then
    if tree.blocked location then (.error .notDirectory, tree)
    else
      if home : ∃ above, location.parent = some above ∧ tree.node above = some .directory then
        match refusal with
        | some code => (.error (.other code), tree)
        | none => (.ok (), tree.create location missing (home_parent home))
      -- there is no parent, since any other one would be in the way
      else (.error .noEntry, tree)
  else (.error .exist, tree)

/-- Everything above something that is there is a directory. -/
theorem ancestors_directory (tree : Tree) (present : tree.node location ≠ none) :
    ∀ above ∈ location.ancestors, tree.node above = some .directory := by
  induction size : location.names.length generalizing location with
  | zero =>
      have empty : location.names = [] := List.length_eq_zero_iff.mp size
      simp [Location.ancestors, empty]
  | succ depth ih =>
      obtain ⟨above, parent⟩ : ∃ above, location.parent = some above := by
        unfold Location.parent
        rw [if_neg (fun empty => by simp [empty] at size)]
        exact ⟨_, rfl⟩
      obtain ⟨name, names, -⟩ := Location.parent_names parent
      have directory := tree.closed location above parent present
      have shorter : above.names.length = depth := by
        rw [names] at size
        simpa using size
      rw [Location.ancestors_parent parent]
      intro other member
      rcases List.mem_append.mp member with member | member
      · exact ih (by simp [directory]) shorter other member
      · rw [List.mem_singleton.mp member]
        exact directory

theorem not_blocked (tree : Tree) (parent : location.parent = some above)
    (directory : tree.node above = some .directory) : tree.blocked location = false := by
  unfold blocked
  rw [Location.ancestors_parent parent, List.any_eq_false]
  intro other member
  have found : tree.node other = some .directory := by
    rcases List.mem_append.mp member with member | member
    · exact tree.ancestors_directory (by simp [directory]) other member
    · rw [List.mem_singleton.mp member]
      exact directory
  simp [found]

/-- What one or more calls of `mkdir` have done on the way to a location. -/
structure Makes (tree : Tree) (location : Location) (result : Except Error Unit) (after : Tree) :
    Prop where
  result : result = .ok () ↔ after.node location = some .directory
  only : ∀ other, after.node other ≠ tree.node other →
    tree.node other = none ∧ after.node other = some .directory ∧ other.Within location

theorem makes_nothing {result : Except Error Unit}
    (agrees : result = .ok () ↔ tree.node location = some .directory) :
    Makes tree location result tree := ⟨agrees, fun _ changed => absurd rfl changed⟩

theorem makes_create (missing : tree.node location = none)
    (home : ∀ above, location.parent = some above → tree.node above = some .directory) :
    Makes tree location (.ok ()) (tree.create location missing home) where
  result := by simp [create]
  only := by
    intro other changed
    by_cases same : other = location
    · subst same
      exact ⟨missing, Function.update_self .., .refl other⟩
    · exact absurd (Function.update_of_ne same ..) changed

/-- First the parent and then the location itself. -/
theorem Makes.trans {middle after : Tree} {first second : Except Error Unit}
    (earlier : Makes tree above first middle) (later : Makes middle location second after)
    (inside : ∀ other : Location, other.Within above → other.Within location) :
    Makes tree location second after where
  result := later.result
  only := by
    intro other changed
    by_cases same : middle.node other = tree.node other
    · rw [← same] at changed ⊢
      exact later.only other changed
    · obtain ⟨missing, made, within⟩ := earlier.only other same
      refine ⟨missing, ?_, inside other within⟩
      by_contra removed
      have differs : after.node other ≠ middle.node other := fun equal => removed (equal.trans made)
      cases made.symm.trans (later.only other differs).1

theorem mkdir_exist (present : tree.node location ≠ none) (refusal : Option Nat) :
    tree.mkdir location refusal = (.error .exist, tree) := by
  unfold mkdir
  rw [dif_neg present]

/-- Any other answer than `EEXIST` and `ENOENT`. -/
theorem makes_mkdir (missing : tree.node location = none) (refusal : Option Nat)
    (known : (tree.mkdir location refusal).1 ≠ .error .noEntry) :
    (tree.mkdir location refusal).1 ≠ .error .exist ∧
      Makes tree location (tree.mkdir location refusal).1 (tree.mkdir location refusal).2 := by
  have absent {error : Error} :
      (.error error : Except Error Unit) = .ok () ↔ tree.node location = some .directory := by
    simp [missing]
  unfold mkdir at known ⊢
  rw [dif_pos missing] at known ⊢
  split
  · exact ⟨by simp, makes_nothing absent⟩
  · rename_i free
    rw [if_neg free] at known
    split
    · rename_i home
      split
      · exact ⟨by simp, makes_nothing absent⟩
      · exact ⟨by simp, makes_create missing (home_parent home)⟩
    · rename_i homeless
      rw [dif_neg homeless] at known
      exact absurd rfl known

/-- A location whose parent is a directory is not answered with `ENOENT`. -/
theorem mkdir_home (parent : location.parent = some above)
    (directory : tree.node above = some .directory) (refusal : Option Nat) :
    (tree.mkdir location refusal).1 ≠ .error .noEntry := by
  have free := tree.not_blocked parent directory
  unfold mkdir
  split
  · rw [if_neg (by simp [free]), dif_pos ⟨above, parent, directory⟩]
    split <;> simp
  · simp

/-- Where nothing is in the way and nothing is refused, only a parent can be missing. -/
theorem mkdir_willing (missing : tree.node location = none) (free : tree.blocked location = false) :
    (∃ after, tree.mkdir location none = (.ok (), after)) ∨
      (tree.mkdir location none).1 = .error .noEntry := by
  unfold mkdir
  rw [dif_pos missing, if_neg (by simp [free])]
  split
  · exact .inl ⟨_, rfl⟩
  · exact .inr rfl

theorem mkdir_noEntry {refusal : Option Nat}
    (answer : (tree.mkdir location refusal).1 = .error .noEntry) :
    tree.node location = none ∧ (tree.mkdir location refusal).2 = tree := by
  unfold mkdir at answer ⊢
  split at answer
  · rename_i missing
    refine ⟨missing, ?_⟩
    rw [dif_pos missing]
    split at answer
    · cases answer
    · rename_i free
      rw [if_neg free]
      split at answer
      · split at answer <;> cases answer
      · rename_i homeless
        rw [dif_neg homeless]
  · cases answer

end Tree

/-! ## The file system -/

/-- The tree with a clock, on which the refusals may depend. -/
def treeSystem (windows : Bool) (refuses : Tree → Nat → List UInt8 → Option Nat) :
    FileSystem (Tree × Nat) where
  mkdir state path :=
    let (answer, tree) := state.1.mkdir (locate windows path) (refuses state.1 state.2 path)
    (answer, tree, state.2 + 1)
  stat state path :=
    match state.1.node (locate windows path) with
    | none => (.error .noEntry, state)
    | some node => (.ok (node == .directory), state)

section System

variable {windows : Bool} {refuses : Tree → Nat → List UInt8 → Option Nat} {tree : Tree}
  {clock : Nat} {path : List UInt8}

/-- An existing path is found, and is a directory or not. -/
theorem attempt_present {node : Node} (present : tree.node (locate windows path) = some node) :
    (treeSystem windows refuses).attempt (tree, clock) path =
      (.done (if node = .directory then .ok () else .error .notDirectory), tree, clock + 1) := by
  have answer : (treeSystem windows refuses).mkdir (tree, clock) path =
      (.error .exist, tree, clock + 1) := by
    have there : tree.node (locate windows path) ≠ none := by simp [present]
    simp only [treeSystem, Tree.mkdir_exist there]
  have found : (treeSystem windows refuses).stat (tree, clock + 1) path =
      (.ok (node == .directory), tree, clock + 1) := by
    simp only [treeSystem, present]
  unfold FileSystem.attempt
  simp only [answer, found]
  cases node <;> rfl

theorem attempt_missing (missing : tree.node (locate windows path) = none) :
    (tree.mkdir (locate windows path) (refuses tree clock path)).1 = .error .noEntry ∧
        (treeSystem windows refuses).attempt (tree, clock) path = (.missing, tree, clock + 1) ∨
      ∃ result after, (treeSystem windows refuses).attempt (tree, clock) path =
          (.done result, after, clock + 1) ∧ Tree.Makes tree (locate windows path) result after ∧
        (refuses tree clock path = none → tree.blocked (locate windows path) = false →
          result = .ok ()) := by
  generalize shown : tree.mkdir (locate windows path) (refuses tree clock path) = made
  obtain ⟨answer, after⟩ := made
  have called : (treeSystem windows refuses).mkdir (tree, clock) path =
      (answer, after, clock + 1) := by
    simp only [treeSystem, shown]
  by_cases unknown : answer = .error .noEntry
  · left
    subst unknown
    have same := (Tree.mkdir_noEntry (congrArg Prod.fst shown)).2
    rw [shown] at same
    have same : after = tree := same
    refine ⟨rfl, ?_⟩
    unfold FileSystem.attempt
    simp only [called, same]
  · right
    have makes := Tree.makes_mkdir missing (refuses tree clock path) (by rw [shown]; exact unknown)
    rw [shown] at makes
    refine ⟨answer, after, ?_, makes.2, fun willing free => ?_⟩
    · unfold FileSystem.attempt
      simp only [called]
      rcases answer with error | ⟨⟩
      · cases error <;> simp_all
      · rfl
    · rw [willing] at shown
      rcases Tree.mkdir_willing missing free with ⟨_, done⟩ | none
      · exact congrArg Prod.fst (shown.symm.trans done)
      · exact absurd ((congrArg Prod.fst shown).symm.trans none) unknown

/-- The second attempt, once the parent is a directory. -/
theorem attempt_home {above : Location} (parent : (locate windows path).parent = some above)
    (directory : tree.node above = some .directory) :
    ∃ result after, (treeSystem windows refuses).attempt (tree, clock) path =
        (.done result, after, clock + 1) ∧ Tree.Makes tree (locate windows path) result after ∧
      (refuses tree clock path = none → tree.node (locate windows path) ≠ some .other →
        result = .ok ()) := by
  cases present : tree.node (locate windows path) with
  | some node =>
      refine ⟨_, tree, attempt_present present, Tree.makes_nothing ?_, ?_⟩
      · cases node <;> simp [present]
      · cases node <;> simp
  | none =>
      rcases @attempt_missing windows refuses tree clock path present with
        ⟨missing, -⟩ | ⟨result, after, attempt, makes, done⟩
      · exact absurd missing (Tree.mkdir_home parent directory _)
      · exact ⟨result, after, attempt, makes, fun willing _ =>
          done willing (tree.not_blocked parent directory)⟩

/-- Nothing is refused, there is a root, the text is short and nothing on the way is
anything but a directory: then the path is made. -/
structure Tree.Welcomes (windows : Bool) (refuses : Tree → Nat → List UInt8 → Option Nat)
    (tree : Tree) (path : List UInt8) : Prop where
  willing : ∀ tree clock text, refuses tree clock text = none
  short : path.length < pathCapacity
  rooted : tree.node ⟨(locate windows path).drive, []⟩ = some .directory
  free : ∀ other, other.Within (locate windows path) → tree.node other ≠ some .other

theorem Tree.Welcomes.not_blocked (welcomes : tree.Welcomes windows refuses path) :
    tree.blocked (locate windows path) = false := by
  rw [Tree.blocked, List.any_eq_false]
  intro other member
  obtain ⟨depth, -, rfl⟩ := List.mem_map.mp member
  have free := welcomes.free ⟨(locate windows path).drive, (locate windows path).names.take depth⟩
    ⟨rfl, List.take_prefix depth _⟩
  simpa using free

/-- A missing location has a text above it that can be made first. -/
theorem Tree.Welcomes.parent (welcomes : tree.Welcomes windows refuses path)
    (absolute : pathIsAbsolute windows path = true)
    (answer : (tree.mkdir (locate windows path) none).1 = .error .noEntry) :
    ∃ parent, mkdirParent windows path = .ok parent ∧ tree.Welcomes windows refuses parent := by
  obtain ⟨parent, found, top⟩ := exists_pathParent absolute
  obtain ⟨-, location⟩ := pathParent_locate absolute found
  have above : mkdirParent windows path = .ok parent := by
    have other : parent ≠ path := by
      intro same
      -- at the top the root itself is the parent, and it is there
      have few := top same
      have root : (locate windows path).parent = some ⟨(locate windows path).drive, []⟩ := by
        unfold Location.parent
        rw [if_neg]
        · congr
          exact List.length_eq_zero_iff.mp (by rw [List.length_dropLast]; omega)
        · intro none
          have missing := (Tree.mkdir_noEntry answer).1
          rw [show locate windows path = ⟨(locate windows path).drive, []⟩ by rw [← none],
            welcomes.rooted] at missing
          cases missing
      exact Tree.mkdir_home root welcomes.rooted none answer
    simp [mkdirParent, Nat.not_le.mpr welcomes.short, found, other]
  refine ⟨parent, above, welcomes.willing, ?_, ?_, fun other within => welcomes.free other ?_⟩
  · rcases pathParent_shorter found with shorter | same
    · exact shorter.trans welcomes.short
    · rw [same, normalizeSeparators_length]
      exact welcomes.short
  · rcases location with same | up
    · rw [same]
      exact welcomes.rooted
    · obtain ⟨-, -, drive⟩ := Location.parent_names up
      rw [← drive]
      exact welcomes.rooted
  · rcases location with same | up
    · exact same ▸ within
    · exact within.parent up

/-- The call that has found the path missing and has called itself for the parent. -/
theorem makes_above {parent : List UInt8} {result : Except Error Unit} {middle : Tree} {time : Nat}
    (absolute : pathIsAbsolute windows path = true)
    (present : tree.node (locate windows path) = none)
    (attempt : (treeSystem windows refuses).attempt (tree, clock) path =
      (.missing, tree, clock + 1))
    (above : mkdirParent windows path = .ok parent)
    (first : Returned (treeSystem windows refuses) windows (tree, clock + 1) parent result
      (middle, time))
    (made : Tree.Makes tree (locate windows parent) result middle)
    (welcomed : tree.Welcomes windows refuses path → result = .ok ()) :
    ∃ result after, Returned (treeSystem windows refuses) windows (tree, clock) path result after ∧
      Tree.Makes tree (locate windows path) result after.1 ∧
      (tree.Welcomes windows refuses path → result = .ok ()) := by
  obtain ⟨-, location⟩ := pathParent_locate absolute (mkdirParent_found above).1
  have inside : ∀ other : Location, other.Within (locate windows parent) →
      other.Within (locate windows path) := by
    intro other within
    rcases location with same | up
    · exact same ▸ within
    · exact within.parent up
  cases result with
  | error error =>
      refine ⟨.error error, _, first.fails attempt above, ⟨?_, ?_⟩, welcomed⟩
      · have absent : middle.node (locate windows parent) ≠ some .directory := by
          intro directory
          cases made.result.mpr directory
        simp only [reduceCtorEq, false_iff]
        intro directory
        rcases location with same | up
        · exact absent (same ▸ directory)
        · exact absent (middle.closed _ _ up (by simp [directory]))
      · intro other changed
        obtain ⟨missing, now, within⟩ := made.only other changed
        exact ⟨missing, now, inside other within⟩
  | ok =>
      have directory : middle.node (locate windows parent) = some .directory :=
        made.result.mp rfl
      rcases location with same | up
      · rw [same] at directory
        refine ⟨_, _, Returned.retries attempt above first
          (returned_done (attempt_present directory)), ?_⟩
        exact ⟨made.trans (Tree.makes_nothing (by simp [directory])) inside, fun _ => rfl⟩
      · obtain ⟨result, after, again, second, done⟩ :=
          @attempt_home windows refuses middle time path _ up directory
        refine ⟨_, _, Returned.retries attempt above first (returned_done again),
          made.trans second inside, fun welcomes => done (welcomes.willing ..) ?_⟩
        -- the path is missing still, or was made a directory
        intro other
        have changed := made.only (locate windows path) (by simp [present, other])
        cases other.symm.trans changed.2.1

/-- The call returns, and does what it should, for every absolute text. -/
theorem exists_makes (absolute : pathIsAbsolute windows path = true) :
    ∃ result after, Returned (treeSystem windows refuses) windows (tree, clock) path result after ∧
      Tree.Makes tree (locate windows path) result after.1 ∧
      (tree.Welcomes windows refuses path → result = .ok ()) := by
  induction weight : pathWeight windows path using Nat.strong_induction_on
    generalizing path tree clock with
  | _ weight ih =>
      cases present : tree.node (locate windows path) with
      | some node =>
          refine ⟨_, (tree, clock + 1), returned_done (attempt_present present),
            Tree.makes_nothing ?_, fun welcomes => ?_⟩
          · cases node <;> simp [present]
          · cases node with
            | directory => rfl
            | other => exact absurd present (welcomes.free _ (.refl _))
      | none =>
          rcases @attempt_missing windows refuses tree clock path present with
            ⟨answer, attempt⟩ | ⟨result, after, attempt, makes, done⟩
          · have upward (welcomes : tree.Welcomes windows refuses path) :
                ∃ parent, mkdirParent windows path = .ok parent ∧
                  tree.Welcomes windows refuses parent := by
              rw [welcomes.willing] at answer
              exact welcomes.parent absolute answer
            cases above : mkdirParent windows path with
            | error error =>
                refine ⟨.error error, _, returned_top attempt above, Tree.makes_nothing ?_, ?_⟩
                · simp [present]
                · intro welcomes
                  obtain ⟨_, found, -⟩ := upward welcomes
                  cases above.symm.trans found
            | ok parent =>
                obtain ⟨rooted, -⟩ := pathParent_locate absolute (mkdirParent_found above).1
                obtain ⟨result, ⟨middle, time⟩, first, made, welcomed⟩ :=
                  @ih _ (weight ▸ pathWeight_parent above) tree (clock + 1) parent rooted rfl
                refine makes_above absolute present attempt above first made fun welcomes => ?_
                obtain ⟨_, found, upper⟩ := upward welcomes
                cases above.symm.trans found
                exact welcomed upper
          · exact ⟨result, _, returned_done attempt, makes, fun welcomes =>
              done (welcomes.willing ..) welcomes.not_blocked⟩

end System

/-! ## The function -/

/-- An absolute text without `.` and `..`. -/
structure AbsolutePath (windows : Bool) where
  text : List UInt8
  absolute : pathIsAbsolute windows text = true
  plain : ∀ name ∈ (locate windows text).names, name ≠ [46] ∧ name ≠ [46, 46]

def AbsolutePath.location {windows : Bool} (path : AbsolutePath windows) : Location :=
  locate windows path.text

/-- On every tree, whatever is refused, and for every absolute path the call returns.
The result is 0 if and only if the path is a directory then; only missing locations
on the way to the path have become directories; and after success a second call
returns 0 and changes nothing.  It does return 0 where nothing is refused, the root is
there, the text is short and nothing on the way is anything but a directory. -/
theorem mkdir_makes_parents (windows : Bool) (refuses : Tree → Nat → List UInt8 → Option Nat)
    (path : AbsolutePath windows) (tree : Tree) (clock : Nat) :
    (∃ result after,
      Returned (treeSystem windows refuses) windows (tree, clock) path.text result after) ∧
    ∀ result after,
      Returned (treeSystem windows refuses) windows (tree, clock) path.text result after →
      (result = .ok () ↔ after.1.node path.location = some .directory) ∧
      (∀ other, after.1.node other ≠ tree.node other → tree.node other = none ∧
        after.1.node other = some .directory ∧ other.Within path.location) ∧
      (result = .ok () → ∃ later,
        Returned (treeSystem windows refuses) windows after path.text (.ok ()) later ∧
          later.1 = after.1) ∧
      (tree.Welcomes windows refuses path.text → result = .ok ()) := by
  obtain ⟨found, final, returned, makes, welcomed⟩ :=
    @exists_makes windows refuses tree clock path.text path.absolute
  refine ⟨⟨found, final, returned⟩, fun result after again => ?_⟩
  obtain ⟨rfl, rfl⟩ := returned.unique again
  refine ⟨makes.result, makes.only, fun success => ?_, welcomed⟩
  have directory := makes.result.mp success
  exact ⟨_, returned_done (attempt_present directory), rfl⟩

/-- Only `/` is there. -/
def bareTree : Tree where
  node location := if location = ⟨none, []⟩ then some .directory else none
  closed := by
    intro location above parent present
    obtain ⟨name, names, -⟩ := Location.parent_names parent
    have root : location = ⟨none, []⟩ := by
      by_contra other
      simp [other] at present
    rw [root] at names
    simp at names

/-- The path `/a/b`. -/
def twoDeep : AbsolutePath false := ⟨[slash, 97, slash, 98], by decide, by decide⟩

/-- In a bare tree `/a` is made for `/a/b`. -/
theorem mkdir_makes_parents_two : ∃ after,
    Returned (treeSystem false fun _ _ _ => none) false (bareTree, 0) twoDeep.text (.ok ()) after ∧
      bareTree.node ⟨none, [[97]]⟩ = none ∧ after.1.node ⟨none, [[97]]⟩ = some .directory ∧
      after.1.node ⟨none, [[97], [98]]⟩ = some .directory := by
  obtain ⟨⟨result, after, returned⟩, all⟩ :=
    mkdir_makes_parents false (fun _ _ _ => none) twoDeep bareTree 0
  obtain ⟨directory, -, -, made⟩ := all result after returned
  have welcomes : bareTree.Welcomes false (fun _ _ _ => none) twoDeep.text := by
    refine ⟨fun _ _ _ => rfl, by decide, by decide, fun other _ => ?_⟩
    simp only [bareTree]
    split <;> simp
  have success := made welcomes
  have below : after.1.node ⟨none, [[97], [98]]⟩ = some .directory := directory.mp success
  refine ⟨after, success ▸ returned, by decide, ?_, below⟩
  exact after.1.closed ⟨none, [[97], [98]]⟩ _ rfl (by simp [below])

end Skyuv.Platform
