import Mathlib.Algebra.Group.Nat.Defs
import Skyuv.Lib.ByteMemory

/-!
# The Windows allocator

On Windows `src/memory/memory.c` puts its own header in front of every
allocation.  A block of the process heap is asked for with room for the header
and for rounding up; the pointer handed out is the first multiple of the
alignment that leaves the header room, and the header below it remembers the
block's base and the size.  `size_t` and `uintptr_t` are bit vectors of the
target's width, so that every sum and every mask wraps as the source's does.
-/

set_option autoImplicit false

namespace Skyuv.Memory

open ByteMemory

structure Target where
  pointerSize : Nat
  supported : pointerSize = 4 ∨ pointerSize = 8

def Target.bits (target : Target) : Nat := 8 * target.pointerSize

/-- `size_t`, `uintptr_t` and the pointers; zero is `NULL`. -/
abbrev Word (target : Target) := BitVec target.bits

variable {target : Target}

def sizeMax (target : Target) : Word target := BitVec.allOnes target.bits

/-- `sizeof(struct skyuv_memory_header)`: a pointer and a `size_t`. -/
def headerSize (target : Target) : Word target := BitVec.ofNat target.bits (2 * target.pointerSize)

def defaultAlignment (target : Target) : Word target :=
  BitVec.ofNat target.bits (2 * target.pointerSize)

def isPowerOfTwo (value : Word target) : Bool := value != 0#_ && value &&& (value - 1#_) == 0#_

/-! ## The process heap -/

structure Block where
  base : Nat
  length : Nat
  deriving DecidableEq, Repr

/-- The memory and the blocks that `HeapAlloc` gave and `HeapFree` has not taken back. -/
structure Heap where
  memory : Memory
  blocks : List Block

/-- What `HeapAlloc` answers: where the block is, `NULL` if there is none, and what is found in
it. -/
structure Grant (target : Target) where
  base : Word target
  contents : Memory

def Block.Apart (block other : Block) : Prop :=
  block.base + block.length ≤ other.base ∨ other.base + other.length ≤ block.base

instance (block other : Block) : Decidable (block.Apart other) :=
  inferInstanceAs (Decidable (_ ∨ _))

/-- `HeapAlloc` with a block to give: it is the caller's from now on, zeroed if that was asked. -/
def Heap.grant (heap : Heap) (total : Word target) (zeroMemory : Bool) (grant : Grant target) :
    Heap :=
  { memory := fun place =>
      if grant.base.toNat ≤ place ∧ place < grant.base.toNat + total.toNat then
        if zeroMemory then 0 else grant.contents (place - grant.base.toNat)
      else heap.memory place
    blocks := ⟨grant.base.toNat, total.toNat⟩ :: heap.blocks }

/-- `HeapFree`. -/
def Heap.release (heap : Heap) (base : Word target) : Heap :=
  { heap with blocks := heap.blocks.filter fun block => block.base != base.toNat }

/-! ## The header -/

/-- `struct skyuv_memory_header`. -/
structure Header (target : Target) where
  base : Word target
  size : Word target
  deriving DecidableEq

def writeHeader (memory : Memory) (place : Word target) (header : Header target) : Memory :=
  (memory.storeWord place.toNat target.pointerSize header.base.toNat).storeWord
    (place.toNat + target.pointerSize) target.pointerSize header.size.toNat

def readHeader (memory : Memory) (place : Word target) : Header target :=
  { base := BitVec.ofNat target.bits (memory.loadWord place.toNat target.pointerSize)
    size := BitVec.ofNat target.bits
      (memory.loadWord (place.toNat + target.pointerSize) target.pointerSize) }

/-! ## The functions of the source -/

def normalizedSize (size : Word target) : Word target := if size = 0#_ then 1#_ else size

/-- The bytes that `skyuv_heap_allocate` asks `HeapAlloc` for, unless it returns `NULL` before. -/
def heapRequest (alignment size : Word target) : Option (Word target) :=
  if !isPowerOfTwo alignment || alignment.toNat < target.pointerSize then none
  else
    let extra := headerSize target + alignment - 1#_
    if normalizedSize size > sizeMax target - extra then none
    else some (normalizedSize size + extra)

def alignedPointer (alignment base : Word target) : Word target :=
  let candidate := base + headerSize target
  (candidate + alignment - 1#_) &&& ~~~(alignment - 1#_)

def heapAllocate (alignment size : Word target) (zeroMemory : Bool) (grant : Grant target)
    (heap : Heap) : Word target × Heap :=
  match heapRequest alignment size with
  | none => (0#_, heap)
  | some total =>
      if grant.base = 0#_ then (0#_, heap)
      else
        let heap := heap.grant total zeroMemory grant
        let aligned := alignedPointer alignment grant.base
        let memory := writeHeader heap.memory (aligned - headerSize target)
          ⟨grant.base, normalizedSize size⟩
        (aligned, { heap with memory })

def malloc (size : Word target) (grant : Grant target) (heap : Heap) : Word target × Heap :=
  heapAllocate (defaultAlignment target) size false grant heap

/-- The guard of `skyuv_calloc`. -/
def callocRejects (count size : Word target) : Bool :=
  count != 0#_ && decide (size > sizeMax target / count)

def calloc (count size : Word target) (grant : Grant target) (heap : Heap) :
    Word target × Heap :=
  if callocRejects count size then (0#_, heap)
  else heapAllocate (defaultAlignment target) (count * size) true grant heap

def free (pointer : Word target) (heap : Heap) : Heap :=
  if pointer = 0#_ then heap
  else heap.release (readHeader heap.memory (pointer - headerSize target)).base

def realloc (pointer size : Word target) (grant : Grant target) (heap : Heap) :
    Word target × Heap :=
  if pointer = 0#_ then malloc size grant heap
  else if size = 0#_ then (0#_, free pointer heap)
  else
    let (replacement, heap) := malloc size grant heap
    if replacement = 0#_ then (0#_, heap)
    else
      let header := readHeader heap.memory (pointer - headerSize target)
      let copySize := if header.size < size then header.size else size
      let memory := heap.memory.store replacement.toNat
        (heap.memory.load pointer.toNat copySize.toNat)
      (replacement, free pointer { heap with memory })

def alignedAlloc (alignment size : Word target) (grant : Grant target) (heap : Heap) :
    Word target × Heap :=
  heapAllocate alignment size false grant heap

inductive Status where
  | ok | einval | enomem
  deriving DecidableEq, Repr

/-- `result` is what `*result` holds, nothing when `result` is `NULL`. -/
def posixMemalign (result : Option (Word target)) (alignment size : Word target)
    (grant : Grant target) (heap : Heap) : Status × Option (Word target) × Heap :=
  if result.isNone || !isPowerOfTwo alignment || alignment.toNat < target.pointerSize then
    (.einval, result, heap)
  else
    let (pointer, heap) := alignedAlloc alignment size grant heap
    if pointer = 0#_ then (.enomem, result, heap) else (.ok, some pointer, heap)

/-! ## The header is read as it was written -/

theorem Target.pow_bits (target : Target) : 2 ^ target.bits = 256 ^ target.pointerSize :=
  Nat.pow_mul 2 8 target.pointerSize

theorem writeHeader_sameOutside (memory : Memory) (place : Word target) (header : Header target) :
    memory.SameOutside (writeHeader memory place header) place.toNat (2 * target.pointerSize) := by
  have base := memory.storeWord_sameOutside place.toNat target.pointerSize header.base.toNat
  have size := Memory.storeWord_sameOutside
    (memory.storeWord place.toNat target.pointerSize header.base.toNat)
    (place.toNat + target.pointerSize) target.pointerSize header.size.toNat
  exact (base.widen (Nat.le_refl _) (by omega)).trans
    (size.widen (Nat.le_add_right _ _) (by omega))

theorem ofNat_loadWord_storeWord (memory : Memory) (address : Nat) (value : Word target) :
    BitVec.ofNat target.bits ((memory.storeWord address target.pointerSize value.toNat).loadWord
      address target.pointerSize) = value := by
  have fits : value.toNat < 256 ^ target.pointerSize := target.pow_bits ▸ value.isLt
  rw [Memory.loadWord_storeWord memory address fits, BitVec.ofNat_toNat, BitVec.setWidth_eq]

theorem readHeader_writeHeader (memory : Memory) (place : Word target) (header : Header target) :
    readHeader (writeHeader memory place header) place = header := by
  obtain ⟨base, size⟩ := header
  -- the size is written above the base and leaves it as it is
  have later := Memory.storeWord_sameOutside
    (memory.storeWord place.toNat target.pointerSize base.toNat)
    (place.toNat + target.pointerSize) target.pointerSize size.toNat
  have kept :=
    Memory.loadWord_congr fun byte (_ : place.toNat ≤ byte) high => later byte (.inl high)
  rw [readHeader, writeHeader, kept, ofNat_loadWord_storeWord, ofNat_loadWord_storeWord]

theorem readHeader_congr {memory other : Memory} {place : Word target}
    (agree : ∀ byte, place.toNat ≤ byte → byte < place.toNat + 2 * target.pointerSize →
      other byte = memory byte) : readHeader other place = readHeader memory place := by
  have base : other.loadWord place.toNat target.pointerSize =
      memory.loadWord place.toNat target.pointerSize :=
    Memory.loadWord_congr fun byte low high => agree byte low (by omega)
  have size : other.loadWord (place.toNat + target.pointerSize) target.pointerSize =
      memory.loadWord (place.toNat + target.pointerSize) target.pointerSize :=
    Memory.loadWord_congr fun byte low high => agree byte (by omega) (by omega)
  rw [readHeader, readHeader, base, size]

/-! ## The size that is asked for -/

theorem Target.header_lt (target : Target) : 4 * target.pointerSize < 2 ^ target.bits := by
  rw [target.pow_bits]
  obtain supported | supported := target.supported <;> rw [supported] <;> decide

@[simp]
theorem toNat_headerSize (target : Target) :
    (headerSize target).toNat = 2 * target.pointerSize := by
  have room := target.header_lt
  rw [headerSize, BitVec.toNat_ofNat]
  exact Nat.mod_eq_of_lt (by omega)

theorem Target.one_lt (target : Target) : 1 < 2 ^ target.bits := by
  have room := target.header_lt
  have supported := target.supported
  omega

@[simp]
theorem toNat_one (target : Target) : (1#_ : Word target).toNat = 1 := by
  rw [BitVec.toNat_ofNat]
  exact Nat.mod_eq_of_lt target.one_lt

theorem toNat_pred {value : Word target} (positive : 0 < value.toNat) :
    (value - 1#_).toNat = value.toNat - 1 := by
  have one := toNat_one target
  rw [BitVec.toNat_sub_of_le (BitVec.le_def.mpr (by omega)), one]

theorem isPowerOfTwo_iff (value : Word target) :
    isPowerOfTwo value = true ↔ value.toNat.isPowerOfTwo := by
  by_cases zero : value.toNat = 0
  · have null : value = 0#_ := BitVec.eq_of_toNat_eq (by rw [zero]; rfl)
    subst null
    simp only [isPowerOfTwo, bne_self_eq_false, Bool.false_and, Bool.false_eq_true, false_iff]
    intro power
    exact absurd (Nat.pos_of_isPowerOfTwo power) (by omega)
  · have positive : value ≠ 0#_ := fun null => zero (by rw [null]; rfl)
    rw [← Nat.and_sub_one_eq_zero_iff_isPowerOfTwo zero, isPowerOfTwo,
      ← toNat_pred (Nat.pos_of_ne_zero zero), ← BitVec.toNat_and]
    simp only [Bool.and_eq_true, bne_iff_ne, ne_eq, beq_iff_eq, positive, not_false_eq_true,
      true_and, ← BitVec.toNat_inj, BitVec.toNat_ofNat, Nat.zero_mod]

/-- An alignment `skyuv_heap_allocate` accepts. -/
structure Aligns (alignment : Word target) : Prop where
  power : alignment.toNat.isPowerOfTwo
  wide : target.pointerSize ≤ alignment.toNat

theorem Aligns.double {alignment : Word target} (aligns : Aligns alignment) :
    2 * alignment.toNat ≤ 2 ^ target.bits := by
  obtain ⟨exponent, power⟩ := aligns.power
  have below : exponent < target.bits := by
    apply (Nat.pow_lt_pow_iff_right (Nat.le_refl 2)).mp
    rw [← power]
    exact alignment.isLt
  calc 2 * alignment.toNat = 2 ^ (exponent + 1) := by rw [power, Nat.pow_succ, Nat.mul_comm]
    _ ≤ 2 ^ target.bits := Nat.pow_le_pow_right (by decide) below

/-- What the header and the rounding take, at most. -/
def overhead (alignment : Word target) : Nat := 2 * target.pointerSize + alignment.toNat - 1

theorem Aligns.toNat_extra {alignment : Word target} (aligns : Aligns alignment) :
    (headerSize target + alignment - 1#_).toNat = overhead alignment := by
  have double := aligns.double
  have room := target.header_lt
  have wide := aligns.wide
  have supported := target.supported
  have sum : (headerSize target + alignment).toNat =
      2 * target.pointerSize + alignment.toNat := by
    rw [BitVec.toNat_add_of_lt (by rw [toNat_headerSize]; omega), toNat_headerSize]
  rw [toNat_pred (by omega), sum, overhead]

theorem normalizedSize_pos (size : Word target) : 0 < (normalizedSize size).toNat := by
  rw [normalizedSize]
  split
  · rw [toNat_one]
    decide
  · rename_i positive
    exact Nat.pos_of_ne_zero fun zero => positive (BitVec.eq_of_toNat_eq (by rw [zero]; rfl))

/-- The total is asked for exactly when it is a `size_t`, and then it is the sum itself. -/
theorem heapRequest_eq_some_iff {alignment size total : Word target} :
    heapRequest alignment size = some total ↔ Aligns alignment ∧
      total.toNat = (normalizedSize size).toNat + overhead alignment := by
  rw [heapRequest]
  split
  next refused =>
    simp only [reduceCtorEq, false_iff, not_and]
    intro aligns
    rw [Bool.or_eq_true, Bool.not_eq_true', decide_eq_true_iff] at refused
    obtain odd | narrow := refused
    · rw [(isPowerOfTwo_iff alignment).mpr aligns.power] at odd
      contradiction
    · have wide := aligns.wide
      omega
  next accepted =>
    rw [Bool.or_eq_true, Bool.not_eq_true', decide_eq_true_iff, not_or, Bool.not_eq_false,
      isPowerOfTwo_iff, Nat.not_lt] at accepted
    have aligns : Aligns alignment := ⟨accepted.1, accepted.2⟩
    have extra := aligns.toNat_extra
    have left : (sizeMax target - (headerSize target + alignment - 1#_)).toNat =
        2 ^ target.bits - 1 - overhead alignment := by
      have below := (headerSize target + alignment - 1#_).isLt
      rw [BitVec.toNat_sub_of_le (BitVec.le_def.mpr _), sizeMax, BitVec.toNat_allOnes, extra]
      rw [sizeMax, BitVec.toNat_allOnes]
      omega
    have bound := (headerSize target + alignment - 1#_).isLt
    simp only [gt_iff_lt, BitVec.lt_def, left, aligns, true_and]
    split
    next overflow =>
      have below := total.isLt
      simp only [reduceCtorEq, false_iff]
      omega
    next under =>
      have sum : (normalizedSize size + (headerSize target + alignment - 1#_)).toNat =
          (normalizedSize size).toNat + overhead alignment := by
        rw [BitVec.toNat_add_of_lt (by omega), extra]
      rw [Option.some_inj, ← BitVec.toNat_inj, sum]
      exact eq_comm

/-! ## Rounding up -/

/-- Masking with the complement of `2 ^ k - 1` clears the low bits. -/
theorem toNat_and_not_pred {alignment : Word target} (power : alignment.toNat.isPowerOfTwo)
    (value : Word target) :
    (value &&& ~~~(alignment - 1#_)).toNat =
      value.toNat / alignment.toNat * alignment.toNat := by
  have positive := Nat.pos_of_isPowerOfTwo power
  have pred := toNat_pred positive
  obtain ⟨exponent, eq⟩ := power
  have floor : value.toNat / alignment.toNat * alignment.toNat =
      value.toNat >>> exponent <<< exponent := by
    rw [eq, Nat.shiftLeft_eq, Nat.shiftRight_eq_div_pow]
  rw [floor]
  apply Nat.eq_of_testBit_eq
  intro bit
  rw [eq] at pred
  have mask : (alignment - 1#_).getLsbD bit = decide (bit < exponent) := by
    rw [← BitVec.testBit_toNat, pred, Nat.testBit_two_pow_sub_one]
  rw [BitVec.testBit_toNat, BitVec.getLsbD_and, BitVec.getLsbD_not, mask,
    Nat.testBit_shiftLeft, Nat.testBit_shiftRight]
  by_cases low : bit < exponent
  · have below : ¬ bit ≥ exponent := by omega
    simp only [low, below, decide_true, decide_false, Bool.not_true, Bool.and_false,
      Bool.false_and]
  · have above : bit ≥ exponent := by omega
    rw [Nat.add_sub_cancel' above, BitVec.testBit_toNat]
    by_cases inside : bit < target.bits
    · simp only [low, above, inside, decide_true, decide_false, Bool.not_false, Bool.and_true,
        Bool.true_and]
    · rw [BitVec.getLsbD_of_ge value bit (by omega), Bool.false_and, Bool.and_false]

/-- Where the pointer ends up: on the alignment, above the header, at most `overhead` from the
base. -/
theorem alignedPointer_bounds {alignment base : Word target} (aligns : Aligns alignment)
    (fits : base.toNat + overhead alignment < 2 ^ target.bits) :
    alignment.toNat ∣ (alignedPointer alignment base).toNat ∧
      base.toNat + 2 * target.pointerSize ≤ (alignedPointer alignment base).toNat ∧
      (alignedPointer alignment base).toNat ≤ base.toNat + overhead alignment := by
  have positive := Nat.pos_of_isPowerOfTwo aligns.power
  have top : (base + headerSize target + alignment - 1#_).toNat =
      base.toNat + overhead alignment := by
    have regroup : base + headerSize target + alignment - 1#_ =
        base + (headerSize target + alignment - 1#_) := by
      rw [BitVec.add_assoc, BitVec.sub_eq_add_neg, BitVec.sub_eq_add_neg, BitVec.add_assoc]
    rw [regroup, BitVec.toNat_add_of_lt (by rw [aligns.toNat_extra]; exact fits),
      aligns.toNat_extra]
  have floor : (alignedPointer alignment base).toNat =
      (base.toNat + overhead alignment) / alignment.toNat * alignment.toNat := by
    rw [alignedPointer, toNat_and_not_pred aligns.power, top]
  have below := Nat.div_mul_le_self (base.toNat + overhead alignment) alignment.toNat
  have above := Nat.lt_div_mul_add (a := base.toNat + overhead alignment) positive
  rw [floor]
  refine ⟨Nat.dvd_mul_left _ _, ?_, below⟩
  rw [overhead] at above ⊢
  omega

/-! ## Allocations -/

/-- A pointer handed out, with the block it stands in: `size` bytes are the caller's, `total`
bytes were asked for. -/
structure Allocation (target : Target) where
  pointer : Word target
  base : Word target
  size : Word target
  total : Word target
  deriving DecidableEq

namespace Allocation

def block (allocation : Allocation target) : Block :=
  ⟨allocation.base.toNat, allocation.total.toNat⟩

def header (allocation : Allocation target) : Header target := ⟨allocation.base, allocation.size⟩

/-- The header and the user region lie in the block, and the block does not wrap. -/
structure Inside (allocation : Allocation target) : Prop where
  nonempty : 0 < allocation.size.toNat
  above : allocation.base.toNat + 2 * target.pointerSize ≤ allocation.pointer.toNat
  below : allocation.pointer.toNat + allocation.size.toNat ≤
    allocation.base.toNat + allocation.total.toNat
  fits : allocation.base.toNat + allocation.total.toNat ≤ 2 ^ target.bits

/-- The header below the pointer tells the base and the size. -/
def Recorded (memory : Memory) (allocation : Allocation target) : Prop :=
  readHeader memory (allocation.pointer - headerSize target) = allocation.header

variable {allocation : Allocation target}

theorem Inside.toNat_header (inside : allocation.Inside) :
    (allocation.pointer - headerSize target).toNat =
      allocation.pointer.toNat - 2 * target.pointerSize := by
  have above := inside.above
  have size := toNat_headerSize target
  rw [BitVec.toNat_sub_of_le (BitVec.le_def.mpr (by omega)), size]

theorem Inside.pointer_ne_zero (inside : allocation.Inside) : allocation.pointer ≠ 0#_ := by
  intro null
  have above := inside.above
  have supported := target.supported
  have zero : allocation.pointer.toNat = 0 := by rw [null, BitVec.toNat_ofNat, Nat.zero_mod]
  omega

/-- A header survives while the bytes of its block below the pointer do. -/
theorem Recorded.congr {memory other : Memory} (inside : allocation.Inside)
    (recorded : allocation.Recorded memory)
    (agree : ∀ byte, allocation.base.toNat ≤ byte → byte < allocation.pointer.toNat →
      other byte = memory byte) : allocation.Recorded other := by
  have above := inside.above
  have place := inside.toNat_header
  rw [Recorded, readHeader_congr fun byte low high => agree byte (by omega) (by omega), recorded]

end Allocation

/-- The allocation that a successful call makes. -/
def made (alignment size total : Word target) (grant : Grant target) : Allocation target :=
  ⟨alignedPointer alignment grant.base, grant.base, normalizedSize size, total⟩

/-- A block was taken from the process heap, nothing outside it changed, and its header is in
place. -/
structure Obtained (alignment : Word target) (heap : Heap) (allocation : Allocation target)
    (next : Heap) : Prop where
  inside : allocation.Inside
  aligned : alignment.toNat ∣ allocation.pointer.toNat
  blocks : next.blocks = allocation.block :: heap.blocks
  same : heap.memory.SameOutside next.memory allocation.base.toNat allocation.total.toNat
  recorded : allocation.Recorded next.memory

theorem grant_sameOutside (heap : Heap) (total : Word target) (zeroMemory : Bool)
    (grant : Grant target) :
    heap.memory.SameOutside (heap.grant total zeroMemory grant).memory grant.base.toNat
      total.toNat := by
  intro place outside
  exact if_neg (by omega)

theorem made_inside {alignment size total : Word target} {grant : Grant target}
    (request : heapRequest alignment size = some total)
    (fits : grant.base.toNat + total.toNat ≤ 2 ^ target.bits) :
    (made alignment size total grant).Inside ∧
      alignment.toNat ∣ (made alignment size total grant).pointer.toNat := by
  obtain ⟨aligns, sum⟩ := heapRequest_eq_some_iff.mp request
  have nonempty := normalizedSize_pos size
  have room : grant.base.toNat + overhead alignment < 2 ^ target.bits := by omega
  obtain ⟨aligned, above, below⟩ := alignedPointer_bounds aligns room
  refine ⟨⟨nonempty, above, ?_, fits⟩, aligned⟩
  simp only [made]
  omega

theorem heapAllocate_made {alignment size total : Word target} {grant : Grant target}
    (zeroMemory : Bool) (heap : Heap) (request : heapRequest alignment size = some total)
    (given : grant.base ≠ 0#_) (fits : grant.base.toNat + total.toNat ≤ 2 ^ target.bits) :
    (heapAllocate alignment size zeroMemory grant heap).1 =
        (made alignment size total grant).pointer ∧
      Obtained alignment heap (made alignment size total grant)
        (heapAllocate alignment size zeroMemory grant heap).2 := by
  have result : heapAllocate alignment size zeroMemory grant heap =
      (alignedPointer alignment grant.base,
        { heap.grant total zeroMemory grant with
          memory := writeHeader (heap.grant total zeroMemory grant).memory
            (alignedPointer alignment grant.base - headerSize target)
            ⟨grant.base, normalizedSize size⟩ }) := by
    rw [heapAllocate, request]
    exact if_neg given
  obtain ⟨inside, aligned⟩ := made_inside request fits
  rw [result]
  refine ⟨rfl, inside, aligned, rfl, ?_, readHeader_writeHeader _ _ _⟩
  -- the header is written inside the block that was just given
  have place := inside.toNat_header
  have above := inside.above
  have below := inside.below
  have header := writeHeader_sameOutside (heap.grant total zeroMemory grant).memory
    ((made alignment size total grant).pointer - headerSize target)
    ⟨grant.base, normalizedSize size⟩
  apply (grant_sameOutside heap total zeroMemory grant).trans
  apply header.widen
  · rw [place]
    simp only [made] at above ⊢
    omega
  · rw [place]
    simp only [made] at above below ⊢
    omega

/-- A call that cannot ask, or is refused, returns `NULL` and changes nothing. -/
theorem heapAllocate_null {alignment size : Word target} {grant : Grant target}
    (zeroMemory : Bool) (heap : Heap)
    (refused : heapRequest alignment size = none ∨ grant.base = 0#_) :
    heapAllocate alignment size zeroMemory grant heap = (0#_, heap) := by
  rw [heapAllocate]
  split
  · rfl
  next total request =>
    obtain overflow | null := refused
    · rw [request] at overflow
      contradiction
    · exact if_pos null

end Skyuv.Memory
