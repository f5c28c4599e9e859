import Mathlib.Algebra.Group.Nat.Defs
import Mathlib.Data.List.Basic

/-!
# Byte-addressed memory

A memory gives every address a byte.  Bytes are stored and loaded in
stretches, machine words as little-endian stretches of a given length.  What a
store leaves alone is said once, by `store_sameOutside`; a load depends only on
the stretch it reads.
-/

set_option autoImplicit false

namespace ByteMemory

abbrev Memory := Nat → UInt8

/-! ## Words as bytes -/

def encode : Nat → Nat → List UInt8
  | 0, _ => []
  | count + 1, value => UInt8.ofNat value :: encode count (value / 256)

def decode : List UInt8 → Nat
  | [] => 0
  | byte :: rest => byte.toNat + 256 * decode rest

@[simp]
theorem length_encode (count value : Nat) : (encode count value).length = count := by
  induction count generalizing value with
  | zero => rfl
  | succ count ih => rw [encode, List.length_cons, ih]

theorem decode_encode {count value : Nat} (fits : value < 256 ^ count) :
    decode (encode count value) = value := by
  induction count generalizing value with
  | zero =>
      rw [Nat.pow_zero] at fits
      rw [encode, decode]
      omega
  | succ count ih =>
      have rest : value / 256 < 256 ^ count := by
        apply Nat.div_lt_of_lt_mul
        rwa [Nat.pow_succ, Nat.mul_comm] at fits
      have low : (UInt8.ofNat value).toNat = value % 256 := UInt8.toNat_ofNat'
      rw [encode, decode, ih rest, low]
      omega

/-! ## Loads and stores -/

namespace Memory

variable {memory other : Memory} {address count place : Nat} {bytes : List UInt8}

def store (memory : Memory) (address : Nat) (bytes : List UInt8) : Memory := fun place =>
  if address ≤ place then (bytes[place - address]?).getD (memory place) else memory place

def load (memory : Memory) (address count : Nat) : List UInt8 :=
  (List.range count).map fun offset => memory (address + offset)

@[simp]
theorem length_load (memory : Memory) (address count : Nat) :
    (memory.load address count).length = count := by
  rw [load, List.length_map, List.length_range]

/-- Where the memory is other than it was: nowhere outside `count` bytes. -/
def SameOutside (memory other : Memory) (address count : Nat) : Prop :=
  ∀ place, place < address ∨ address + count ≤ place → other place = memory place

theorem store_sameOutside (memory : Memory) (address : Nat) (bytes : List UInt8) :
    memory.SameOutside (memory.store address bytes) address bytes.length := by
  intro place outside
  rw [store]
  split
  · rw [List.getElem?_eq_none (by omega), Option.getD_none]
  · rfl

theorem SameOutside.trans {third : Memory} (first : memory.SameOutside other address count)
    (second : other.SameOutside third address count) :
    memory.SameOutside third address count := by
  intro place outside
  rw [second place outside, first place outside]

theorem SameOutside.widen {first length : Nat} (same : memory.SameOutside other address count)
    (above : first ≤ address) (below : address + count ≤ first + length) :
    memory.SameOutside other first length := by
  intro place outside
  apply same
  omega

theorem store_getElem {offset : Nat} {byte : UInt8} (stored : bytes[offset]? = some byte) :
    memory.store address bytes (address + offset) = byte := by
  rw [store, if_pos (Nat.le_add_right address offset), Nat.add_sub_cancel_left, stored,
    Option.getD_some]

theorem load_store (memory : Memory) (address : Nat) (bytes : List UInt8) :
    (memory.store address bytes).load address bytes.length = bytes := by
  apply List.ext_getElem (length_load _ _ _)
  intro offset _ inside
  simp only [load, List.getElem_map, List.getElem_range]
  exact store_getElem (List.getElem?_eq_getElem inside)

theorem load_getElem? {offset : Nat} (inside : offset < count) :
    (memory.load address count)[offset]? = some (memory (address + offset)) := by
  rw [load, List.getElem?_map, List.getElem?_range inside, Option.map_some]

/-- A load depends on the bytes of its own stretch only. -/
theorem load_congr (agree : ∀ place, address ≤ place → place < address + count →
    other place = memory place) : other.load address count = memory.load address count := by
  apply List.map_congr_left
  intro offset member
  have inside := List.mem_range.mp member
  exact agree _ (Nat.le_add_right _ _) (by omega)

/-! ## Words -/

def storeWord (memory : Memory) (address count value : Nat) : Memory :=
  memory.store address (encode count value)

def loadWord (memory : Memory) (address count : Nat) : Nat := decode (memory.load address count)

theorem storeWord_sameOutside (memory : Memory) (address count value : Nat) :
    memory.SameOutside (memory.storeWord address count value) address count := by
  have same := store_sameOutside memory address (encode count value)
  rwa [length_encode] at same

theorem loadWord_storeWord {value : Nat} (memory : Memory) (address : Nat)
    (fits : value < 256 ^ count) :
    (memory.storeWord address count value).loadWord address count = value := by
  have loaded := load_store memory address (encode count value)
  rw [length_encode] at loaded
  rw [loadWord, storeWord, loaded, decode_encode fits]

theorem loadWord_congr (agree : ∀ place, address ≤ place → place < address + count →
    other place = memory place) : other.loadWord address count = memory.loadWord address count := by
  rw [loadWord, loadWord, load_congr agree]

end Memory

end ByteMemory
