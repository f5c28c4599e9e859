import Mathlib.Computability.StateTransition
import Skyuv.Platform.Paths

/-!
# When the recursive creation of directories returns

`skyuv_path_mkdir` on a file system that may answer anything.  After `ENOENT` the
function calls itself with the parent and then again with the same path, so that
whether it returns depends on what the file system answers the second time.  The
calls that are open at any time are a path and the paths below it that wait for it;
`advance` is one call of `mkdir` with what follows.
-/

set_option autoImplicit false

namespace Skyuv.Platform

open StateTransition

universe u

/-! ## Functions of the source -/

/-- A file system with any answers; `stat` says whether it is a directory. -/
structure FileSystem (σ : Type u) where
  mkdir : σ → List UInt8 → Except Error Unit × σ
  stat : σ → List UInt8 → Except Error Bool × σ

/-- How far `skyuv_path_mkdir` gets without its parent. -/
inductive Attempt where
  | done (result : Except Error Unit)
  | missing

variable {σ : Type u}

/-- The first half of `skyuv_path_mkdir`. -/
def FileSystem.attempt (fs : FileSystem σ) (state : σ) (path : List UInt8) : Attempt × σ :=
  match fs.mkdir state path with
  | (.error .exist, state) =>
      match fs.stat state path with
      | (.ok true, state) => (.done (.ok ()), state)
      | (.ok false, state) => (.done (.error .notDirectory), state)
      | (.error error, state) => (.done (.error error), state)
  | (.error .noEntry, state) => (.missing, state)
  | (result, state) => (.done result, state)

/-- The parent that `skyuv_path_mkdir` goes on with. -/
def mkdirParent (windows : Bool) (path : List UInt8) : Except Error (List UInt8) :=
  if path.length ≥ pathCapacity then .error .nameTooLong
  else
    match pathParent windows path with
    | none => .error .noEntry
    | some parent => if parent = path then .error .noEntry else .ok parent

/-- `skyuv_path_mkdir`; `none` if `fuel` calls inside each other are not enough. -/
def pathMkdir (fs : FileSystem σ) (windows : Bool) :
    Nat → σ → List UInt8 → Option (Except Error Unit × σ)
  | 0, _, _ => none
  | fuel + 1, state, path =>
      match fs.attempt state path with
      | (.done result, state) => some (result, state)
      | (.missing, state) =>
          match mkdirParent windows path with
          | .error error => some (.error error, state)
          | .ok parent =>
              match pathMkdir fs windows fuel state parent with
              | none => none
              | some (.error error, state) => some (.error error, state)
              | some (.ok (), state) => pathMkdir fs windows fuel state path

/-- The call returns. -/
def Returned (fs : FileSystem σ) (windows : Bool) (state : σ) (path : List UInt8)
    (result : Except Error Unit) (after : σ) : Prop :=
  ∃ fuel, pathMkdir fs windows fuel state path = some (result, after)

/-! ## The ways of one call -/

section Calls

variable {fs : FileSystem σ} {windows : Bool} {state after : σ} {path parent : List UInt8}
  {result : Except Error Unit} {fuel : Nat}

theorem pathMkdir_done (attempt : fs.attempt state path = (.done result, after)) :
    pathMkdir fs windows (fuel + 1) state path = some (result, after) := by
  simp [pathMkdir, attempt]

theorem pathMkdir_top {error : Error} (attempt : fs.attempt state path = (.missing, after))
    (top : mkdirParent windows path = .error error) :
    pathMkdir fs windows (fuel + 1) state path = some (.error error, after) := by
  simp [pathMkdir, attempt, top]

theorem pathMkdir_missing (attempt : fs.attempt state path = (.missing, after))
    (above : mkdirParent windows path = .ok parent) :
    pathMkdir fs windows (fuel + 1) state path =
      match pathMkdir fs windows fuel after parent with
      | none => none
      | some (.error error, state) => some (.error error, state)
      | some (.ok (), state) => pathMkdir fs windows fuel state path := by
  simp [pathMkdir, attempt, above]

/-- More fuel does not change the result. -/
theorem pathMkdir_succ {outcome : Except Error Unit × σ}
    (run : pathMkdir fs windows fuel state path = some outcome) :
    pathMkdir fs windows (fuel + 1) state path = some outcome := by
  induction fuel generalizing state path outcome with
  | zero => cases run
  | succ fuel ih =>
      rcases attempt : fs.attempt state path with ⟨_ | _, middle⟩
      · rw [pathMkdir_done attempt] at run ⊢
        exact run
      · cases above : mkdirParent windows path with
        | error error =>
            rw [pathMkdir_top attempt above] at run ⊢
            exact run
        | ok parent =>
            rw [pathMkdir_missing attempt above] at run ⊢
            rcases first : pathMkdir fs windows fuel middle parent with _ | ⟨_ | ⟨⟩, later⟩
            · rw [first] at run
              cases run
            · rw [first] at run
              rw [ih first]
              exact run
            · rw [first] at run
              rw [ih first]
              exact ih run

theorem pathMkdir_mono {more : Nat} (less : fuel ≤ more) {outcome : Except Error Unit × σ}
    (run : pathMkdir fs windows fuel state path = some outcome) :
    pathMkdir fs windows more state path = some outcome := by
  induction less with
  | refl => exact run
  | step _ ih => exact pathMkdir_succ ih

theorem Returned.unique {other : Except Error Unit} {final : σ}
    (returned : Returned fs windows state path result after)
    (again : Returned fs windows state path other final) : other = result ∧ final = after := by
  obtain ⟨fuel, run⟩ := returned
  obtain ⟨more, rerun⟩ := again
  have first := pathMkdir_mono (Nat.le_max_left fuel more) run
  have second := pathMkdir_mono (Nat.le_max_right fuel more) rerun
  simpa using second.symm.trans first

theorem returned_done (attempt : fs.attempt state path = (.done result, after)) :
    Returned fs windows state path result after := ⟨1, pathMkdir_done attempt⟩

theorem returned_top {error : Error} (attempt : fs.attempt state path = (.missing, after))
    (top : mkdirParent windows path = .error error) :
    Returned fs windows state path (.error error) after := ⟨1, pathMkdir_top attempt top⟩

/-- The parent could not be made. -/
theorem Returned.fails {middle : σ} {error : Error}
    (attempt : fs.attempt state path = (.missing, middle))
    (above : mkdirParent windows path = .ok parent)
    (first : Returned fs windows middle parent (.error error) after) :
    Returned fs windows state path (.error error) after := by
  obtain ⟨fuel, run⟩ := first
  refine ⟨fuel + 1, ?_⟩
  rw [pathMkdir_missing attempt above, run]

/-- The parent is there, and the path is tried again. -/
theorem Returned.retries {middle later : σ} (attempt : fs.attempt state path = (.missing, middle))
    (above : mkdirParent windows path = .ok parent)
    (first : Returned fs windows middle parent (.ok ()) later)
    (second : Returned fs windows later path result after) :
    Returned fs windows state path result after := by
  obtain ⟨fuel, run⟩ := first
  obtain ⟨more, rerun⟩ := second
  refine ⟨max fuel more + 1, ?_⟩
  rw [pathMkdir_missing attempt above, pathMkdir_mono (Nat.le_max_left fuel more) run]
  exact pathMkdir_mono (Nat.le_max_right fuel more) rerun

/-! ## Going up -/

/-- Grows shorter from a path to its parent. -/
def pathWeight (windows : Bool) (path : List UInt8) : Nat :=
  2 * path.length + if normalizeSeparators windows path = path then 0 else 1

theorem mkdirParent_found (above : mkdirParent windows path = .ok parent) :
    pathParent windows path = some parent ∧ parent ≠ path := by
  unfold mkdirParent at above
  split at above
  · cases above
  · split at above
    · cases above
    · rename_i found
      split at above
      · cases above
      · rename_i other
        cases above
        exact ⟨found, other⟩

theorem pathWeight_parent (above : mkdirParent windows path = .ok parent) :
    pathWeight windows parent < pathWeight windows path := by
  obtain ⟨found, other⟩ := mkdirParent_found above
  unfold pathWeight
  rw [if_pos (pathParent_normalized found)]
  rcases pathParent_shorter found with shorter | same
  · omega
  · have mixed : normalizeSeparators windows path ≠ path := fun plain => other (same.trans plain)
    have length := congrArg List.length same
    rw [normalizeSeparators_length] at length
    rw [if_neg mixed]
    omega

end Calls

/-! ## One call of `mkdir` after the other -/

/-- The path that is tried, and the paths below it that wait for it.  `confirmed` says
that the parent of the path has just been made or found. -/
structure Walk (σ : Type u) where
  path : List UInt8
  pending : List (List UInt8)
  confirmed : Bool
  state : σ

/-- A call has returned.  An error is handed down, and after success the next path
below is tried again. -/
def Walk.resume (pending : List (List UInt8)) : Except Error Unit → σ → Option (Walk σ)
  | .error _, _ => none
  | .ok (), state =>
      match pending with
      | [] => none
      | path :: pending => some ⟨path, pending, true, state⟩

/-- One attempt; `none` if the first call of all returns. -/
def FileSystem.advance (fs : FileSystem σ) (windows : Bool) (walk : Walk σ) : Option (Walk σ) :=
  match fs.attempt walk.state walk.path with
  | (.done result, state) => Walk.resume walk.pending result state
  | (.missing, state) =>
      match mkdirParent windows walk.path with
      | .error _ => none
      | .ok parent => some ⟨parent, walk.path :: walk.pending, false, state⟩

/-- `ENOENT` for a path whose parent is there. -/
def Walk.Refused (fs : FileSystem σ) (walk : Walk σ) : Prop :=
  walk.confirmed = true ∧ (fs.attempt walk.state walk.path).1 = .missing

section Walks

variable {fs : FileSystem σ} {windows : Bool}

/-- A call that returns is a part of the walk. -/
theorem reaches_of_pathMkdir {fuel : Nat} {state after : σ} {path : List UInt8}
    {result : Except Error Unit}
    (run : pathMkdir fs windows fuel state path = some (result, after))
    (pending : List (List UInt8)) (confirmed : Bool) :
    ∃ last, Reaches (fs.advance windows) ⟨path, pending, confirmed, state⟩ last ∧
      fs.advance windows last = Walk.resume pending result after := by
  induction fuel generalizing state path after result pending confirmed with
  | zero => cases run
  | succ fuel ih =>
      rcases attempt : fs.attempt state path with ⟨_ | _, middle⟩
      · rw [pathMkdir_done attempt] at run
        cases Option.some.inj run
        exact ⟨_, .refl, by simp [FileSystem.advance, attempt]⟩
      · cases above : mkdirParent windows path with
        | error error =>
            rw [pathMkdir_top attempt above] at run
            cases Option.some.inj run
            exact ⟨_, .refl, by simp [FileSystem.advance, attempt, above, Walk.resume]⟩
        | ok parent =>
            rw [pathMkdir_missing attempt above] at run
            have up : fs.advance windows ⟨path, pending, confirmed, state⟩ =
                some ⟨parent, path :: pending, false, middle⟩ := by
              simp [FileSystem.advance, attempt, above]
            rcases first : pathMkdir fs windows fuel middle parent with _ | ⟨_ | ⟨⟩, later⟩
            · rw [first] at run
              cases run
            · rw [first] at run
              cases Option.some.inj run
              obtain ⟨last, walked, ends⟩ := ih first (path :: pending) false
              exact ⟨last, .head up walked, ends⟩
            · rw [first] at run
              obtain ⟨turn, walked, down⟩ := ih first (path :: pending) false
              obtain ⟨last, again, ends⟩ := ih run pending true
              exact ⟨last, .head up (walked.trans (.head down again)), ends⟩

/-- The walk from here on comes to an end. -/
def Walk.Ends (fs : FileSystem σ) (windows : Bool) : Walk σ → Prop :=
  Acc fun next walk => next ∈ fs.advance windows walk

theorem transGen_of_reaches₁ {walk later : Walk σ}
    (reaches : Reaches₁ (fs.advance windows) walk later) :
    Relation.TransGen (fun next walk => next ∈ fs.advance windows walk) later walk :=
  Relation.transGen_swap.mp reaches

theorem Walk.Ends.returned {walk : Walk σ} (ends : walk.Ends fs windows) :
    ∃ result after, Returned fs windows walk.state walk.path result after := by
  -- the second attempt at the path is any number of steps later
  have strong := ends.transGen
  clear ends
  induction strong with
  | intro walk _ ih =>
      rcases attempt : fs.attempt walk.state walk.path with ⟨result | _, middle⟩
      · exact ⟨result, middle, returned_done attempt⟩
      · cases above : mkdirParent windows walk.path with
        | error error => exact ⟨.error error, middle, returned_top attempt above⟩
        | ok parent =>
            have up : ⟨parent, walk.path :: walk.pending, false, middle⟩ ∈
                fs.advance windows walk := by
              simp [FileSystem.advance, attempt, above]
            obtain ⟨result, later, first⟩ := ih _ (.single up)
            cases result with
            | error error => exact ⟨.error error, later, first.fails attempt above⟩
            | ok =>
                obtain ⟨fuel, run⟩ := first
                obtain ⟨turn, walked, down⟩ :=
                  reaches_of_pathMkdir run (walk.path :: walk.pending) false
                have again : Reaches₁ (fs.advance windows) walk
                    ⟨walk.path, walk.pending, true, later⟩ :=
                  .head' up (walked.tail down)
                obtain ⟨result, after, second⟩ := ih _ (transGen_of_reaches₁ again)
                exact ⟨result, after, Returned.retries attempt above ⟨fuel, run⟩ second⟩

theorem Walk.ends_of_none {walk : Walk σ} (last : fs.advance windows walk = none) :
    walk.Ends fs windows := by
  refine .intro walk fun next step => ?_
  rw [last] at step
  cases step

theorem Walk.ends_of_next {walk next : Walk σ} (step : fs.advance windows walk = some next)
    (ends : next.Ends fs windows) : walk.Ends fs windows := by
  refine .intro walk fun other also => ?_
  rw [step] at also
  cases also
  exact ends

theorem Walk.ends_of_reaches {walk later : Walk σ}
    (reaches : Reaches (fs.advance windows) walk later) (ends : later.Ends fs windows) :
    walk.Ends fs windows := by
  induction reaches using Relation.ReflTransGen.head_induction_on with
  | refl => exact ends
  | head step _ ih => exact ends_of_next step ih

/-- No retry is refused any more. -/
def Walk.Calm (fs : FileSystem σ) (windows : Bool) (walk : Walk σ) : Prop :=
  ∀ later, Reaches (fs.advance windows) walk later → ¬ later.Refused fs

theorem Walk.Calm.next {walk next : Walk σ} (calm : walk.Calm fs windows)
    (step : fs.advance windows walk = some next) : next.Calm fs windows := by
  intro later reaches
  exact calm later (.head step reaches)

/-- On the way down every step ends a call. -/
theorem Walk.Calm.descends {walk : Walk σ} (calm : walk.Calm fs windows)
    (confirmed : walk.confirmed = true) : walk.Ends fs windows := by
  obtain ⟨path, pending, _, state⟩ := walk
  cases confirmed
  induction pending generalizing path state with
  | nil =>
      rcases attempt : fs.attempt state path with ⟨result | _, after⟩
      · apply ends_of_none
        rcases result with _ | ⟨⟩ <;> simp [FileSystem.advance, attempt, resume]
      · exact absurd ⟨rfl, by simp [attempt]⟩ (calm _ .refl)
  | cons child pending ih =>
      rcases attempt : fs.attempt state path with ⟨result | _, after⟩
      · rcases result with _ | ⟨⟩
        · apply ends_of_none
          simp [FileSystem.advance, attempt, resume]
        · have step : fs.advance windows ⟨path, child :: pending, true, state⟩ =
              some ⟨child, pending, true, after⟩ := by
            simp [FileSystem.advance, attempt, resume]
          exact ends_of_next step (ih child after (calm.next step))
      · exact absurd ⟨rfl, by simp [attempt]⟩ (calm _ .refl)

/-- On the way up the path gets shorter. -/
theorem Walk.Calm.ends {walk : Walk σ} (calm : walk.Calm fs windows) : walk.Ends fs windows := by
  induction weight : pathWeight windows walk.path using Nat.strong_induction_on
    generalizing walk with
  | _ weight ih =>
      rcases attempt : fs.attempt walk.state walk.path with ⟨result | _, after⟩
      · cases step : fs.advance windows walk with
        | none => exact ends_of_none step
        | some next =>
            refine ends_of_next step ((calm.next step).descends ?_)
            simp only [FileSystem.advance, attempt, resume] at step
            split at step
            · cases step
            · split at step
              · cases step
              · cases Option.some.inj step
                rfl
      · cases above : mkdirParent windows walk.path with
        | error error =>
            apply ends_of_none
            simp [FileSystem.advance, attempt, above]
        | ok parent =>
            have step : fs.advance windows walk =
                some ⟨parent, walk.path :: walk.pending, false, after⟩ := by
              simp [FileSystem.advance, attempt, above]
            have lighter := pathWeight_parent above
            exact ends_of_next step (ih _ (weight ▸ lighter) (calm.next step) rfl)

/-- Every path waits for its parent, and one that is tried again comes after the attempt at
its parent that has succeeded. -/
theorem reaches_parents {walk : Walk σ} {state : σ} {path : List UInt8}
    (reaches : Reaches (fs.advance windows) ⟨path, [], false, state⟩ walk) :
    (walk.path :: walk.pending).IsChain (fun parent child =>
      mkdirParent windows child = .ok parent) ∧
      (walk.confirmed = true → ∃ before parent, mkdirParent windows walk.path = .ok parent ∧
        fs.attempt before parent = (.done (.ok ()), walk.state)) := by
  induction reaches with
  | refl => exact ⟨.singleton path, by simp⟩
  | @tail walk next _ step ih =>
      simp only [FileSystem.advance, Option.mem_def] at step
      split at step
      · rename_i result after attempt
        unfold Walk.resume at step
        split at step
        · cases step
        · split at step
          · cases step
          · rename_i child pending shown
            cases Option.some.inj step
            rw [shown, List.isChain_cons_cons] at ih
            exact ⟨ih.1.2, fun _ => ⟨walk.state, walk.path, ih.1.1, attempt⟩⟩
      · split at step
        · cases step
        · rename_i parent above
          cases Option.some.inj step
          exact ⟨List.isChain_cons_cons.mpr ⟨above, ih.1⟩, by simp⟩

/-- Once a directory has been made or found, `mkdir` below it is not answered `ENOENT`. -/
def FileSystem.Consistent (fs : FileSystem σ) (windows : Bool) : Prop :=
  ∀ state path parent after, mkdirParent windows path = .ok parent →
    fs.attempt state parent = (.done (.ok ()), after) → (fs.attempt after path).1 ≠ .missing

/-- For every file system, whatever it answers, and every path: the call returns if and
only if from some attempt on the file system no longer answers `ENOENT` for a path
whose parent it has just made or found; so it returns on every consistent file system. -/
theorem mkdir_returns_iff (fs : FileSystem σ) (windows : Bool) (state : σ) (path : List UInt8) :
    ((∃ result after, Returned fs windows state path result after) ↔
      ∃ walk, Reaches (fs.advance windows) ⟨path, [], false, state⟩ walk ∧
        walk.Calm fs windows) ∧
    (fs.Consistent windows → ∃ result after, Returned fs windows state path result after) := by
  refine ⟨⟨?_, ?_⟩, fun consistent => ?_⟩
  · rintro ⟨result, after, fuel, run⟩
    obtain ⟨last, reaches, ends⟩ := reaches_of_pathMkdir run [] false
    have none : fs.advance windows last = none := by
      rw [ends]
      rcases result with _ | ⟨⟩ <;> rfl
    refine ⟨last, reaches, fun later onward refused => ?_⟩
    -- nothing comes after the last attempt, which is no refused one
    cases onward.cases_head with
    | inl same =>
        subst same
        obtain ⟨-, parent, above, -⟩ := (reaches_parents reaches).2 refused.1
        rcases attempt : fs.attempt last.state last.path with ⟨result | _, after⟩
        · rw [Walk.Refused, attempt] at refused
          cases refused.2
        · simp [FileSystem.advance, attempt, above] at none
    | inr more =>
        obtain ⟨next, step, -⟩ := more
        rw [none] at step
        cases step
  · rintro ⟨walk, reaches, calm⟩
    exact (Walk.ends_of_reaches reaches calm.ends).returned
  · have calm : Walk.Calm fs windows ⟨path, [], false, state⟩ := by
      intro later onward refused
      obtain ⟨before, parent, above, found⟩ := (reaches_parents onward).2 refused.1
      exact consistent before _ parent _ above found refused.2
    exact calm.ends.returned

/-- A file system that makes what has a parent. -/
def growingSystem : FileSystem (List (List UInt8)) where
  mkdir made path :=
    if made.contains path then (.error .exist, made)
    else
      match mkdirParent false path with
      | .error _ => (.error .noEntry, made)
      | .ok parent =>
          if made.contains parent then (.ok (), path :: made) else (.error .noEntry, made)
  stat made _ := (.ok true, made)

theorem growingSystem_consistent : growingSystem.Consistent false := by
  intro made path parent after above found
  have there : parent ∈ after := by
    by_cases old : parent ∈ made
    · simp [FileSystem.attempt, growingSystem, old] at found
      exact found ▸ old
    · cases higher : mkdirParent false parent with
      | error error => simp [FileSystem.attempt, growingSystem, old, higher] at found
      | ok grandparent =>
          by_cases home : grandparent ∈ made
          · simp [FileSystem.attempt, growingSystem, old, higher, home] at found
            exact found ▸ List.mem_cons_self
          · simp [FileSystem.attempt, growingSystem, old, higher, home] at found
  by_cases old : path ∈ after
  · simp [FileSystem.attempt, growingSystem, old]
  · simp [FileSystem.attempt, growingSystem, old, above, there]

/-- `/p/x` under `/`: the call returns on this file system, and has made `/p` first. -/
theorem mkdir_returns_growing :
    (∃ result after, Returned growingSystem false [[slash]] [slash, 112, slash, 120] result after) ∧
      Returned growingSystem false [[slash]] [slash, 112, slash, 120] (.ok ())
        [[slash, 112, slash, 120], [slash, 112], [slash]] :=
  ⟨(mkdir_returns_iff growingSystem false [[slash]] _).2 growingSystem_consistent, 3, by decide⟩

/-- A file system that has the directory `/p` and answers `ENOENT` below it, as procfs
does. -/
def closedSystem : FileSystem Unit where
  mkdir _ path := (.error (if path = [slash, 112] then .exist else .noEntry), ())
  stat _ _ := (.ok true, ())

theorem mkdir_never_returns :
    ¬ ∃ result after, Returned closedSystem false () [slash, 112, slash, 120] result after := by
  rintro ⟨result, after, fuel, run⟩
  induction fuel with
  | zero => cases run
  | succ fuel ih =>
      rw [pathMkdir_missing (show closedSystem.attempt () [slash, 112, slash, 120] =
        (.missing, ()) from rfl) (show mkdirParent false [slash, 112, slash, 120] =
          .ok [slash, 112] from by rfl)] at run
      cases fuel with
      | zero => cases run
      | succ fuel =>
          rw [pathMkdir_done (show closedSystem.attempt () [slash, 112] = (.done (.ok ()), ())
            from rfl)] at run
          exact ih run

end Walks

end Skyuv.Platform
