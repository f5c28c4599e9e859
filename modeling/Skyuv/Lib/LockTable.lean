import Mathlib.Logic.Function.Basic

/-!
# Exclusive locks

A table says for every resource who holds its lock.  A lock is taken only while it
is free, given back by its holder alone, and lost when its holder dies.
-/

set_option autoImplicit false

namespace LockTable

universe u v

variable {Resource : Type u} {Owner : Type v} [DecidableEq Resource] [DecidableEq Owner]

/-- Takes the lock unless somebody has it. -/
def acquire (table : Resource → Option Owner) (resource : Resource) (owner : Owner) :
    Option (Resource → Option Owner) :=
  match table resource with
  | none => some (Function.update table resource (some owner))
  | some _ => none

/-- Gives the lock back if it is the owner's. -/
def release (table : Resource → Option Owner) (resource : Resource) (owner : Owner) :
    Resource → Option Owner :=
  if table resource = some owner then Function.update table resource none else table

/-- Every lock of a dead owner is free again. -/
def reclaim (table : Resource → Option Owner) (dead : Owner → Bool) : Resource → Option Owner :=
  fun resource => (table resource).filter fun owner => !dead owner

variable {table next : Resource → Option Owner} {resource other : Resource} {owner holder : Owner}

omit [DecidableEq Owner] in
theorem acquire_held (taken : acquire table resource owner = some next) :
    next resource = some owner := by
  unfold acquire at taken
  split at taken
  · cases taken
    simp
  · cases taken

omit [DecidableEq Owner] in
/-- Nobody loses a lock to somebody who takes one. -/
theorem acquire_keeps (taken : acquire table resource owner = some next)
    (held : table other = some holder) : next other = some holder := by
  unfold acquire at taken
  split at taken
  · rename_i free
    cases taken
    have distinct : other ≠ resource := by
      rintro rfl
      simp [free] at held
    simp [distinct, held]
  · cases taken

/-- Giving a lock back touches no lock of another owner. -/
theorem release_keeps (distinct : holder ≠ owner) (held : table other = some holder) :
    release table resource owner other = some holder := by
  unfold release
  split
  · rename_i own
    have elsewhere : other ≠ resource := by
      rintro rfl
      rw [own] at held
      exact distinct (Option.some.inj held).symm
    simp [elsewhere, held]
  · exact held

omit [DecidableEq Resource] [DecidableEq Owner] in
theorem reclaim_keeps {dead : Owner → Bool} (alive : dead holder = false)
    (held : table other = some holder) : reclaim table dead other = some holder := by
  simp [reclaim, held, alive]

end LockTable
