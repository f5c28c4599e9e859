import Mathlib.Data.Fin.Basic
import Mathlib.Data.Nat.ModEq
import Mathlib.Logic.Function.Basic

/-!
# Circular buffers

A buffer has `size` slots, a head from which elements are taken and a tail at which
they are put; both run modulo `size`.  One slot always stays free, so that a full
buffer is told from an empty one.  `Holds` says which queue a buffer stands for, and
the rules below say that putting and taking are those of a queue with room for
`size - 1` elements.
-/

set_option autoImplicit false

universe u

/-- The indices are in range by their type. -/
structure CircularBuffer (α : Type u) (size : Nat) where
  slots : Fin size → Option α
  head : Fin size
  tail : Fin size

namespace CircularBuffer

variable {α : Type u} {size : Nat} [NeZero size]

def empty : CircularBuffer α size where
  slots := fun _ => none
  head := 0
  tail := 0

def isEmpty (buffer : CircularBuffer α size) : Bool := buffer.head = buffer.tail

def isFull (buffer : CircularBuffer α size) : Bool := buffer.tail + 1 = buffer.head

/-- Meant for a buffer that is not full. -/
def push (buffer : CircularBuffer α size) (value : α) : CircularBuffer α size :=
  { buffer with
    slots := Function.update buffer.slots buffer.tail (some value)
    tail := buffer.tail + 1 }

/-- Meant for a buffer that is not empty. -/
def pop (buffer : CircularBuffer α size) : CircularBuffer α size :=
  { buffer with slots := Function.update buffer.slots buffer.head none, head := buffer.head + 1 }

/-- The slot `offset` places behind the head. -/
def place (buffer : CircularBuffer α size) (offset : Nat) : Fin size :=
  Fin.ofNat size (buffer.head + offset)

/-- The buffer stands for the queue `items`, oldest first. -/
structure Holds (buffer : CircularBuffer α size) (items : List α) : Prop where
  fits : items.length < size
  tail : buffer.tail = buffer.place items.length
  slots : ∀ offset (bound : offset < items.length),
    buffer.slots (buffer.place offset) = some items[offset]

variable {buffer : CircularBuffer α size} {items rest : List α} {value : α}

theorem place_zero : buffer.place 0 = buffer.head := by
  apply Fin.ext
  simp [place]

theorem place_succ (offset : Nat) : buffer.place offset + 1 = buffer.place (offset + 1) := by
  apply Fin.ext
  simp [place, Fin.val_add, Nat.add_assoc]

theorem place_pop (offset : Nat) : buffer.pop.place offset = buffer.place (offset + 1) := by
  apply Fin.ext
  simp [place, pop, Fin.val_add, Nat.add_assoc, Nat.add_comm 1]

/-- Less than one round apart, different offsets are different slots. -/
theorem place_inj {first second : Nat} (one : first < size) (two : second < size)
    (same : buffer.place first = buffer.place second) : first = second := by
  have congruent : buffer.head + first ≡ buffer.head + second [MOD size] := congrArg Fin.val same
  have equal : first % size = second % size := Nat.ModEq.add_left_cancel' _ congruent
  rwa [Nat.mod_eq_of_lt one, Nat.mod_eq_of_lt two] at equal

theorem place_size : buffer.place size = buffer.head := by
  apply Fin.ext
  simp [place, Nat.mod_eq_of_lt buffer.head.isLt]

theorem holds_empty : (empty : CircularBuffer α size).Holds [] where
  fits := Nat.pos_of_neZero size
  tail := by
    rw [List.length_nil, place_zero]
    rfl
  slots := by simp

theorem Holds.isEmpty_iff (holds : buffer.Holds items) : buffer.isEmpty = true ↔ items = [] := by
  rw [isEmpty, decide_eq_true_eq, holds.tail, ← place_zero]
  constructor
  · intro same
    exact List.length_eq_zero_iff.mp (place_inj (Nat.pos_of_neZero size) holds.fits same).symm
  · rintro rfl
    rfl

theorem Holds.isFull_iff (holds : buffer.Holds items) :
    buffer.isFull = true ↔ items.length + 1 = size := by
  rw [isFull, decide_eq_true_eq, holds.tail, place_succ]
  constructor
  · intro same
    rcases Nat.lt_or_ge (items.length + 1) size with less | more
    · rw [← place_zero] at same
      have clash := place_inj less (Nat.pos_of_neZero size) same
      omega
    · have fits := holds.fits
      omega
  · intro full
    rw [full, place_size]

theorem Holds.push (holds : buffer.Holds items) (room : items.length + 1 < size) :
    (buffer.push value).Holds (items ++ [value]) where
  fits := by simpa using room
  tail := by
    rw [List.length_append, List.length_singleton]
    exact (congrArg (· + 1) holds.tail).trans (place_succ _)
  slots := by
    intro offset bound
    rw [List.length_append, List.length_singleton] at bound
    have older := holds.fits
    change Function.update buffer.slots buffer.tail (some value) (buffer.place offset) = _
    by_cases last : offset = items.length
    · subst last
      rw [holds.tail, Function.update_self]
      simp
    · have apart : buffer.place offset ≠ buffer.tail := by
        rw [holds.tail]
        intro same
        exact last (place_inj (by omega) older same)
      rw [Function.update_of_ne apart, holds.slots offset (by omega),
        List.getElem_append_left]

theorem Holds.head (holds : buffer.Holds (value :: rest)) :
    buffer.slots buffer.head = some value := by
  have first := holds.slots 0 (by simp)
  rwa [place_zero] at first

theorem Holds.pop (holds : buffer.Holds (value :: rest)) : buffer.pop.Holds rest where
  fits := by
    have fits := holds.fits
    simp only [List.length_cons] at fits
    omega
  tail := by
    rw [place_pop]
    exact holds.tail
  slots := by
    intro offset bound
    have fits := holds.fits
    simp only [List.length_cons] at fits
    rw [place_pop]
    have apart : buffer.place (offset + 1) ≠ buffer.head := by
      rw [← place_zero]
      intro same
      have clash := place_inj (by omega) (by omega) same
      omega
    change Function.update buffer.slots buffer.head none (buffer.place (offset + 1)) = _
    rw [Function.update_of_ne apart, holds.slots (offset + 1) (by simpa using bound)]
    rfl

end CircularBuffer
