import Mathlib.Data.List.Pairwise
import Skyuv.Lib.TransitionSystem
import Skyuv.Memory.WindowsHeap

/-!
# The Windows allocator over whole runs

A program calls the allocator and writes to what it was given; other code of
the process writes everywhere else.  Along every such run the live allocations
are the blocks of the heap, they stay apart, and the header of each still tells
its base and its size, so that `skyuv_free` and `skyuv_realloc` find them.
-/

set_option autoImplicit false

namespace Skyuv.Memory

open ByteMemory TransitionSystem

variable {target : Target}

/-! ## The program and the allocator -/

/-- The answers `HeapAlloc` can give: `NULL`, or a block that does not wrap and that nobody
holds. -/
def Grant.Fits (heap : Heap) : Option (Word target) → Grant target → Prop
  | none, _ => True
  | some total, grant => grant.base = 0#_ ∨
      (grant.base.toNat + total.toNat ≤ 2 ^ target.bits ∧
        ∀ block ∈ heap.blocks, Block.Apart ⟨grant.base.toNat, total.toNat⟩ block)

instance (heap : Heap) (request : Option (Word target)) (grant : Grant target) :
    Decidable (grant.Fits heap request) :=
  match request with
  | none => inferInstanceAs (Decidable True)
  | some _ => inferInstanceAs (Decidable (_ ∨ (_ ∧ _)))

structure State (target : Target) where
  heap : Heap
  live : List (Allocation target)

inductive Call (target : Target) where
  | malloc (size : Word target) (grant : Grant target)
  | calloc (count size : Word target) (grant : Grant target)
  | alignedAlloc (alignment size : Word target) (grant : Grant target)
  | posixMemalign (result : Option (Word target)) (alignment size : Word target)
      (grant : Grant target)
  | realloc (pointer size : Word target) (grant : Grant target)
  | free (pointer : Word target)
  /-- The program writes a byte of an allocation it holds. -/
  | write (pointer : Word target) (offset : Nat) (byte : UInt8)
  /-- The rest of the process writes outside the blocks. -/
  | elsewhere (contents : Memory)

namespace State

/-- What the program holds after a call that returned `result`. -/
def take (state : State target) (alignment size : Word target) (grant : Grant target)
    (result : Word target × Heap) : State target :=
  { heap := result.2
    live :=
      match heapRequest alignment size with
      | none => state.live
      | some total =>
          if result.1 = 0#_ then state.live
          else ⟨result.1, grant.base, normalizedSize size, total⟩ :: state.live }

def drop (state : State target) (pointer : Word target) : State target :=
  { state with live := state.live.filter fun allocation => allocation.pointer != pointer }

def Holds (state : State target) (pointer : Word target) : Prop :=
  ∃ allocation ∈ state.live, allocation.pointer = pointer

instance (state : State target) (pointer : Word target) : Decidable (state.Holds pointer) :=
  inferInstanceAs (Decidable (∃ allocation ∈ state.live, allocation.pointer = pointer))

def write (state : State target) (address : Nat) (bytes : List UInt8) : State target :=
  { state with heap.memory := state.heap.memory.store address bytes }

end State

def Block.Contains (block : Block) (place : Nat) : Prop :=
  block.base ≤ place ∧ place < block.base + block.length

instance (block : Block) (place : Nat) : Decidable (block.Contains place) :=
  inferInstanceAs (Decidable (_ ∧ _))

/-- The memory once the bytes outside the blocks are the ones given. -/
def Heap.outside (heap : Heap) (contents : Memory) : Memory := fun place =>
  if ∃ block ∈ heap.blocks, block.Contains place then heap.memory place else contents place

/-- A call of the program.  It frees and reallocates only what it holds. -/
def step (state : State target) : Call target → Option (State target)
  | .malloc size grant =>
      if grant.Fits state.heap (heapRequest (defaultAlignment target) size) then
        some (state.take (defaultAlignment target) size grant (malloc size grant state.heap))
      else none
  | .calloc count size grant =>
      if grant.Fits state.heap (heapRequest (defaultAlignment target) (count * size)) then
        some (state.take (defaultAlignment target) (count * size) grant
          (calloc count size grant state.heap))
      else none
  | .alignedAlloc alignment size grant =>
      if grant.Fits state.heap (heapRequest alignment size) then
        some (state.take alignment size grant (alignedAlloc alignment size grant state.heap))
      else none
  | .posixMemalign result alignment size grant =>
      if grant.Fits state.heap (heapRequest alignment size) then
        match posixMemalign result alignment size grant state.heap with
        | (.ok, some pointer, heap) => some (state.take alignment size grant (pointer, heap))
        | (_, _, heap) => some { state with heap }
      else none
  | .realloc pointer size grant =>
      if grant.Fits state.heap (heapRequest (defaultAlignment target) size) then
        let result := realloc pointer size grant state.heap
        let taken := state.take (defaultAlignment target) size grant result
        if pointer = 0#_ then some taken
        else if state.Holds pointer then
          if size = 0#_ then some { state.drop pointer with heap := result.2 }
          else if result.1 = 0#_ then some taken
          else some (taken.drop pointer)
        else none
      else none
  | .free pointer =>
      if pointer = 0#_ ∨ state.Holds pointer then
        some { state.drop pointer with heap := free pointer state.heap }
      else none
  | .write pointer offset byte =>
      if ∃ allocation ∈ state.live,
          allocation.pointer = pointer ∧ offset < allocation.size.toNat then
        some (state.write (pointer.toNat + offset) [byte])
      else none
  | .elsewhere contents =>
      some { state with heap.memory := state.heap.outside contents }

def system (target : Target) : System (State target) (Call target) :=
  { init := ⟨⟨fun _ => 0, []⟩, []⟩, step }

/-! ## Taking a block -/

/-- The allocation a call makes of the block it is granted. -/
structure Granted (alignment size : Word target) (grant : Grant target) (heap : Heap)
    (allocation : Allocation target) (next : Heap) : Prop
    extends Obtained alignment heap allocation next where
  apart : ∀ block ∈ heap.blocks, allocation.block.Apart block
  base : allocation.base = grant.base
  sized : allocation.size = normalizedSize size
  request : heapRequest alignment size = some allocation.total

/-- With an answer that fits, `skyuv_heap_allocate` returns `NULL` and changes nothing, or hands
out an allocation in a block of its own. -/
theorem heapAllocate_cases {alignment size : Word target} {grant : Grant target} {heap : Heap}
    (zeroMemory : Bool) (fits : grant.Fits heap (heapRequest alignment size)) :
    heapAllocate alignment size zeroMemory grant heap = (0#_, heap) ∨
      ∃ allocation next, heapAllocate alignment size zeroMemory grant heap =
          (allocation.pointer, next) ∧
        Granted alignment size grant heap allocation next := by
  cases request : heapRequest alignment size with
  | none => exact .inl (heapAllocate_null zeroMemory heap (.inl request))
  | some total =>
      rw [request] at fits
      by_cases null : grant.base = 0#_
      · exact .inl (heapAllocate_null zeroMemory heap (.inr null))
      · obtain ⟨room, fresh⟩ := fits.resolve_left null
        obtain ⟨pointer, obtained⟩ := heapAllocate_made zeroMemory heap request null room
        refine .inr ⟨_, _, ?_, obtained, fresh, rfl, rfl, request⟩
        rw [← pointer]

/-! ## What every run keeps -/

structure Sound (state : State target) : Prop where
  blocks : state.heap.blocks = state.live.map Allocation.block
  inside : ∀ allocation ∈ state.live, allocation.Inside
  recorded : ∀ allocation ∈ state.live, allocation.Recorded state.heap.memory
  apart : state.live.Pairwise fun allocation other => allocation.block.Apart other.block

instance : Std.Symm fun allocation other : Allocation target =>
    allocation.block.Apart other.block where
  symm _ _ apart := Or.symm apart

namespace Sound

variable {state : State target} {allocation other : Allocation target}

theorem eq_or_apart (sound : Sound state) (held : allocation ∈ state.live)
    (held' : other ∈ state.live) : allocation = other ∨ allocation.block.Apart other.block := by
  by_cases same : allocation = other
  · exact .inl same
  · exact .inr (sound.apart.forall held held' same)

/-- No two allocations share a byte of their blocks. -/
theorem eq_of_contains (sound : Sound state) (held : allocation ∈ state.live)
    (held' : other ∈ state.live) {place : Nat} (here : allocation.block.Contains place)
    (there : other.block.Contains place) : allocation = other := by
  obtain same | apart := sound.eq_or_apart held held'
  · exact same
  · obtain ⟨low, high⟩ := here
    obtain ⟨low', high'⟩ := there
    rw [Block.Apart] at apart
    omega

end Sound

theorem Allocation.Inside.contains_base {allocation : Allocation target}
    (inside : allocation.Inside) : allocation.block.Contains allocation.base.toNat := by
  have nonempty := inside.nonempty
  have above := inside.above
  have below := inside.below
  refine ⟨Nat.le_refl _, ?_⟩
  simp only [Allocation.block]
  omega

theorem Allocation.Inside.contains_user {allocation : Allocation target}
    (inside : allocation.Inside) {offset : Nat} (user : offset < allocation.size.toNat) :
    allocation.block.Contains (allocation.pointer.toNat + offset) := by
  have above := inside.above
  have below := inside.below
  simp only [Block.Contains, Allocation.block]
  omega

namespace Sound

variable {state : State target} {allocation other : Allocation target}

theorem eq_of_base (sound : Sound state) (held : allocation ∈ state.live)
    (held' : other ∈ state.live) (same : other.base = allocation.base) : other = allocation := by
  have there := (sound.inside allocation held).contains_base
  rw [← same] at there
  exact sound.eq_of_contains held' held (sound.inside other held').contains_base there

theorem eq_of_pointer (sound : Sound state) (held : allocation ∈ state.live)
    (held' : other ∈ state.live) (same : other.pointer = allocation.pointer) :
    other = allocation := by
  have here := (sound.inside other held').contains_user (sound.inside other held').nonempty
  have there := (sound.inside allocation held).contains_user
    (sound.inside allocation held).nonempty
  rw [← same] at there
  exact sound.eq_of_contains held' held here there

/-- Memory that changes nowhere in a header keeps the headers. -/
theorem of_memory (sound : Sound state) {memory : Memory}
    (agree : ∀ allocation ∈ state.live, ∀ byte, allocation.base.toNat ≤ byte →
      byte < allocation.pointer.toNat → memory byte = state.heap.memory byte) :
    Sound { state with heap.memory := memory } where
  blocks := sound.blocks
  inside := sound.inside
  recorded := fun allocation held =>
    (sound.recorded allocation held).congr (sound.inside allocation held) (agree allocation held)
  apart := sound.apart

/-- The user region of an allocation may be written: its header lies below, the others' outside
its block. -/
theorem write (sound : Sound state) (held : allocation ∈ state.live) {address : Nat}
    {bytes : List UInt8} (low : allocation.pointer.toNat ≤ address)
    (high : address + bytes.length ≤ allocation.pointer.toNat + allocation.size.toNat) :
    Sound (state.write address bytes) := by
  apply sound.of_memory
  intro other held' byte _ below
  apply Memory.store_sameOutside
  have inside := sound.inside allocation held
  have inside' := sound.inside other held'
  obtain same | apart := sound.eq_or_apart held held'
  · subst same
    omega
  · have above := inside.above
    have user := inside.below
    have below' := inside'.below
    simp only [Block.Apart, Allocation.block] at apart
    omega

theorem elsewhere (sound : Sound state) (contents : Memory) :
    Sound { state with heap.memory := state.heap.outside contents } := by
  apply sound.of_memory
  intro allocation held byte low high
  have inside := sound.inside allocation held
  have below := inside.below
  refine if_pos ⟨allocation.block, ?_, low, ?_⟩
  · rw [sound.blocks]
    exact List.mem_map_of_mem held
  · simp only [Allocation.block]
    omega

/-- A block that nobody holds may be taken. -/
theorem granted (sound : Sound state) {alignment size : Word target} {grant : Grant target}
    {next : Heap} (granted : Granted alignment size grant state.heap allocation next) :
    Sound ⟨next, allocation :: state.live⟩ where
  blocks := by rw [granted.blocks, sound.blocks, List.map_cons]
  inside := by
    intro other held
    obtain rfl | held := List.mem_cons.mp held
    · exact granted.inside
    · exact sound.inside other held
  recorded := by
    intro other held
    obtain rfl | held := List.mem_cons.mp held
    · exact granted.recorded
    · have inside := sound.inside other held
      have below := inside.below
      have apart := granted.apart other.block (by rw [sound.blocks]; exact List.mem_map_of_mem held)
      apply (sound.recorded other held).congr inside
      intro byte low high
      apply granted.same
      simp only [Block.Apart, Allocation.block] at apart
      omega
  apart := by
    rw [List.pairwise_cons]
    refine ⟨fun other held => granted.apart other.block ?_, sound.apart⟩
    rw [sound.blocks]
    exact List.mem_map_of_mem held

/-! ## Giving a block back -/

theorem free_eq (sound : Sound state) (held : allocation ∈ state.live) :
    free allocation.pointer state.heap = state.heap.release allocation.base := by
  have inside := sound.inside allocation held
  have recorded := sound.recorded allocation held
  rw [Allocation.Recorded] at recorded
  rw [free, if_neg inside.pointer_ne_zero, recorded, Allocation.header]

theorem release_blocks (sound : Sound state) (held : allocation ∈ state.live) :
    (state.heap.release allocation.base).blocks =
      (state.drop allocation.pointer).live.map Allocation.block := by
  simp only [Heap.release, State.drop]
  rw [sound.blocks, List.filter_map]
  congr 1
  apply List.filter_congr
  intro other held'
  rw [Bool.eq_iff_iff, Function.comp_apply, bne_iff_ne, bne_iff_ne]
  refine not_congr ⟨fun base => ?_, fun pointer => ?_⟩
  · rw [sound.eq_of_base held held' (BitVec.eq_of_toNat_eq base)]
  · rw [sound.eq_of_pointer held held' pointer]
    rfl

theorem free (sound : Sound state) (held : allocation ∈ state.live) :
    Sound { state.drop allocation.pointer with
      heap := Memory.free allocation.pointer state.heap } where
  blocks := by rw [sound.free_eq held, sound.release_blocks held]
  inside := fun other kept => sound.inside other (List.mem_of_mem_filter kept)
  recorded := by
    intro other kept
    rw [sound.free_eq held]
    exact sound.recorded other (List.mem_of_mem_filter kept)
  apart := sound.apart.filter _

end Sound

namespace State

variable {state : State target} {alignment size : Word target} {grant : Grant target}

theorem take_null : state.take alignment size grant (0#_, state.heap) = state := by
  rw [take]
  cases heapRequest alignment size with
  | none => rfl
  | some total => rfl

theorem take_granted {allocation : Allocation target} {next : Heap}
    (granted : Granted alignment size grant state.heap allocation next) (heap : Heap) :
    state.take alignment size grant (allocation.pointer, heap) =
      ⟨heap, allocation :: state.live⟩ := by
  simp only [take, granted.request, granted.inside.pointer_ne_zero, if_false, ← granted.base,
    ← granted.sized]

end State

namespace Sound

variable {state : State target} {allocation : Allocation target} {alignment size : Word target}
  {grant : Grant target}

theorem take (sound : Sound state) (zeroMemory : Bool)
    (fits : grant.Fits state.heap (heapRequest alignment size)) :
    Sound (state.take alignment size grant
      (heapAllocate alignment size zeroMemory grant state.heap)) := by
  obtain null | ⟨fresh, next, result, granted⟩ := heapAllocate_cases zeroMemory fits
  · rwa [null, State.take_null]
  · rw [result, State.take_granted granted]
    exact sound.granted granted

/-! ## Reallocation -/

/-- `skyuv_realloc` of an allocation to a size other than zero: `NULL` and the heap as it was, or
a new allocation that the old bytes are copied to before the old block is given back. -/
theorem realloc_cases (sound : Sound state) (held : allocation ∈ state.live)
    (positive : size ≠ 0#_)
    (fits : grant.Fits state.heap (heapRequest (defaultAlignment target) size)) :
    (malloc size grant state.heap = (0#_, state.heap) ∧
      realloc allocation.pointer size grant state.heap = (0#_, state.heap)) ∨
    ∃ fresh next, malloc size grant state.heap = (fresh.pointer, next) ∧
      Granted (defaultAlignment target) size grant state.heap fresh next ∧
      realloc allocation.pointer size grant state.heap =
        (fresh.pointer, Memory.free allocation.pointer
          ((State.mk next (fresh :: state.live)).write fresh.pointer.toNat
            (next.memory.load allocation.pointer.toNat
              (min allocation.size.toNat size.toNat))).heap) := by
  have given := (sound.inside allocation held).pointer_ne_zero
  obtain null | ⟨fresh, next, result, granted⟩ := heapAllocate_cases false fits
  · refine .inl ⟨null, ?_⟩
    rw [realloc, if_neg given, if_neg positive, malloc, null]
    exact if_pos rfl
  · refine .inr ⟨fresh, next, result, granted, ?_⟩
    have sound' := sound.granted granted
    have recorded := sound'.recorded allocation (List.mem_cons_of_mem fresh held)
    have copied : (if allocation.size < size then allocation.size else size).toNat =
        min allocation.size.toNat size.toNat := by
      split <;> rename_i less <;> rw [BitVec.lt_def] at less <;> omega
    rw [Allocation.Recorded] at recorded
    rw [realloc, if_neg given, if_neg positive, malloc, result]
    simp only [granted.inside.pointer_ne_zero, if_false, recorded, Allocation.header, copied]
    rfl

end Sound

/-! ## Every run is sound -/

/-- `skyuv_posix_memalign` fails and leaves everything as it was, or stores what
`skyuv_aligned_alloc` returned. -/
theorem posixMemalign_cases {alignment size : Word target} {grant : Grant target} {heap : Heap}
    (result : Option (Word target)) (fits : grant.Fits heap (heapRequest alignment size)) :
    (∃ status, status ≠ .ok ∧
      posixMemalign result alignment size grant heap = (status, result, heap)) ∨
    ∃ allocation next, Granted alignment size grant heap allocation next ∧
      posixMemalign result alignment size grant heap =
        (.ok, some allocation.pointer, next) := by
  rw [posixMemalign]
  split
  · exact .inl ⟨.einval, by decide, rfl⟩
  · rw [alignedAlloc]
    obtain null | ⟨allocation, next, result, granted⟩ := heapAllocate_cases false fits
    · rw [null]
      exact .inl ⟨.enomem, by decide, if_pos rfl⟩
    · rw [result]
      exact .inr ⟨allocation, next, granted, if_neg granted.inside.pointer_ne_zero⟩

namespace Sound

variable {state next : State target}

theorem drop_null (sound : Sound state) : state.drop 0#_ = state := by
  have kept : state.live.filter (fun allocation => allocation.pointer != 0#_) = state.live := by
    apply List.filter_eq_self.mpr
    intro allocation held
    exact bne_iff_ne.mpr (sound.inside allocation held).pointer_ne_zero
  rw [State.drop, kept]

theorem realloc {pointer size : Word target} {grant : Grant target} (sound : Sound state)
    (holds : state.Holds pointer) (positive : size ≠ 0#_)
    (fits : grant.Fits state.heap (heapRequest (defaultAlignment target) size))
    {result : Word target × Heap}
    (call : Memory.realloc pointer size grant state.heap = result) :
    Sound (if result.1 = 0#_ then state.take (defaultAlignment target) size grant result
      else (state.take (defaultAlignment target) size grant result).drop pointer) := by
  obtain ⟨allocation, held, rfl⟩ := holds
  obtain ⟨-, null⟩ | ⟨fresh, next, -, granted, copied⟩ :=
    sound.realloc_cases held positive fits
  · cases call.symm.trans null
    rwa [if_pos rfl, State.take_null]
  · cases call.symm.trans copied
    rw [if_neg granted.inside.pointer_ne_zero, State.take_granted granted]
    have room : fresh.size.toNat = size.toNat := by
      rw [granted.sized, normalizedSize, if_neg positive]
    -- the copy stays in the new user region, and the old block is still held when it is freed
    have copy : fresh.pointer.toNat + (next.memory.load allocation.pointer.toNat
        (min allocation.size.toNat size.toNat)).length ≤
        fresh.pointer.toNat + fresh.size.toNat := by
      rw [Memory.length_load]
      omega
    have wrote := (sound.granted granted).write List.mem_cons_self (Nat.le_refl _) copy
    exact wrote.free (List.mem_cons_of_mem fresh held)

theorem step {call : Call target} (sound : Sound state)
    (run : Memory.step state call = some next) : Sound next := by
  cases call with
  | malloc size grant | alignedAlloc alignment size grant =>
      obtain ⟨fits, run⟩ := Option.ite_none_right_eq_some.mp run
      cases run
      exact sound.take false fits
  | calloc count size grant =>
      obtain ⟨fits, run⟩ := Option.ite_none_right_eq_some.mp run
      cases run
      rw [calloc]
      split
      · rwa [State.take_null]
      · exact sound.take true fits
  | posixMemalign result alignment size grant =>
      obtain ⟨fits, run⟩ := Option.ite_none_right_eq_some.mp run
      obtain ⟨status, failed, same⟩ | ⟨allocation, heap, granted, made⟩ :=
        posixMemalign_cases result fits
      · rw [same] at run
        cases status with
        | ok => exact absurd rfl failed
        | einval =>
            cases run
            exact sound
        | enomem =>
            cases run
            exact sound
      · rw [made] at run
        cases run
        rw [State.take_granted granted]
        exact sound.granted granted
  | realloc pointer size grant =>
      obtain ⟨fits, run⟩ := Option.ite_none_right_eq_some.mp run
      by_cases null : pointer = 0#_
      · rw [if_pos null, Memory.realloc, if_pos null] at run
        cases run
        exact sound.take false fits
      · rw [if_neg null] at run
        obtain ⟨holds, run⟩ := Option.ite_none_right_eq_some.mp run
        by_cases zero : size = 0#_
        · rw [if_pos zero, Memory.realloc, if_neg null, if_pos zero] at run
          cases run
          obtain ⟨allocation, held, rfl⟩ := holds
          exact sound.free held
        · rw [if_neg zero, ← apply_ite some] at run
          cases run
          exact sound.realloc holds zero fits rfl
  | free pointer =>
      obtain ⟨known, run⟩ := Option.ite_none_right_eq_some.mp run
      cases run
      obtain rfl | ⟨allocation, held, rfl⟩ := known
      · rw [sound.drop_null]
        exact sound
      · exact sound.free held
  | write pointer offset byte =>
      obtain ⟨⟨allocation, held, rfl, user⟩, run⟩ := Option.ite_none_right_eq_some.mp run
      cases run
      apply sound.write held (Nat.le_add_right _ _)
      rw [List.length_singleton]
      omega
  | elsewhere contents =>
      cases run
      exact sound.elsewhere contents

theorem reachable (reachable : (system target).Reachable state) : Sound state := by
  refine System.Reachable.invariant Sound ?_ (fun _ _ _ sound run => sound.step run) reachable
  exact ⟨rfl, fun _ held => absurd held List.not_mem_nil,
    fun _ held => absurd held List.not_mem_nil, List.Pairwise.nil⟩

/-! ## What the program can rely on -/

variable {allocation : Allocation target}

theorem block_mem (sound : Sound state) (held : allocation ∈ state.live) :
    allocation.block ∈ state.heap.blocks := by
  rw [sound.blocks]
  exact List.mem_map_of_mem held

theorem free_memory (pointer : Word target) (heap : Heap) :
    (Memory.free pointer heap).memory = heap.memory := by
  rw [Memory.free]
  split <;> rfl

/-- `skyuv_free` gives back the block of the pointer and no other. -/
theorem mem_free_iff (sound : Sound state) (held : allocation ∈ state.live) (block : Block) :
    block ∈ (Memory.free allocation.pointer state.heap).blocks ↔
      block ∈ state.heap.blocks ∧ block ≠ allocation.block := by
  rw [sound.free_eq held, Heap.release, List.mem_filter, bne_iff_ne]
  refine and_congr_right fun member => not_congr ⟨fun base => ?_, fun same => ?_⟩
  · rw [sound.blocks] at member
    obtain ⟨other, held', rfl⟩ := List.mem_map.mp member
    rw [sound.eq_of_base held held' (BitVec.eq_of_toNat_eq base)]
  · rw [same]
    rfl

/-- What `skyuv_realloc` copied reads as it did in the old block. -/
theorem realloc_bytes {size : Word target} {grant : Grant target} (sound : Sound state)
    (held : allocation ∈ state.live) (positive : size ≠ 0#_)
    (fits : grant.Fits state.heap (heapRequest (defaultAlignment target) size))
    (made : (malloc size grant state.heap).1 ≠ 0#_) :
    (Memory.realloc allocation.pointer size grant state.heap).1 =
        (malloc size grant state.heap).1 ∧
      ∀ offset < min allocation.size.toNat size.toNat,
        (Memory.realloc allocation.pointer size grant state.heap).2.memory
            ((Memory.realloc allocation.pointer size grant state.heap).1.toNat + offset) =
          state.heap.memory (allocation.pointer.toNat + offset) := by
  obtain ⟨null, -⟩ | ⟨fresh, next, result, granted, copied⟩ :=
    sound.realloc_cases held positive fits
  · rw [null] at made
    exact absurd rfl made
  · have inside := sound.inside allocation held
    have apart := granted.apart allocation.block (sound.block_mem held)
    rw [copied, result]
    refine ⟨rfl, fun offset small => ?_⟩
    obtain ⟨low, high⟩ := inside.contains_user (Nat.lt_of_lt_of_le small (Nat.min_le_left _ _))
    have untouched := granted.same (allocation.pointer.toNat + offset) (by
      simp only [Block.Apart, Allocation.block] at apart low high
      omega)
    rw [free_memory, ← untouched]
    exact Memory.store_getElem (Memory.load_getElem? small)

end Sound

/-! ## The guard of `skyuv_calloc` -/

/-- The guard refuses exactly the products that are no `size_t`. -/
theorem callocRejects_iff (count size : Word target) :
    callocRejects count size = true ↔ (sizeMax target).toNat < count.toNat * size.toNat := by
  rw [callocRejects, Bool.and_eq_true, bne_iff_ne, decide_eq_true_iff, gt_iff_lt, BitVec.lt_def,
    BitVec.toNat_udiv]
  by_cases zero : count = 0#_
  · simp only [zero, ne_eq, not_true, false_and, BitVec.toNat_ofNat, Nat.zero_mod, Nat.zero_mul,
      Nat.not_lt_zero]
  · have positive : 0 < count.toNat :=
      Nat.pos_of_ne_zero fun none => zero (BitVec.eq_of_toNat_eq (by rw [none]; rfl))
    rw [Nat.div_lt_iff_lt_mul positive, Nat.mul_comm size.toNat]
    exact and_iff_right zero

theorem toNat_sizeMax (target : Target) : (sizeMax target).toNat = 2 ^ target.bits - 1 :=
  BitVec.toNat_allOnes

/-- `skyuv_calloc` allocates the product itself, or refuses because it is no `size_t`. -/
theorem calloc_cases (count size : Word target) (grant : Grant target) (heap : Heap) :
    ((sizeMax target).toNat < count.toNat * size.toNat ∧
      calloc count size grant heap = (0#_, heap)) ∨
    ∃ product : Word target, product.toNat = count.toNat * size.toNat ∧
      calloc count size grant heap =
        heapAllocate (defaultAlignment target) product true grant heap := by
  have guard := callocRejects_iff count size
  rw [calloc]
  split
  next rejected => exact .inl ⟨guard.mp rejected, rfl⟩
  next accepted =>
    refine .inr ⟨count * size, ?_, rfl⟩
    have small := mt guard.mpr accepted
    have one := target.one_lt
    rw [toNat_sizeMax] at small
    rw [BitVec.toNat_mul]
    exact Nat.mod_eq_of_lt (by omega)

/-! ## The allocator -/

/-- Every total is a `size_t` or is not asked for; every pointer is aligned and has its header
and its bytes in its block; along every run `skyuv_free` and `skyuv_realloc` find the base and the
size of each pointer, and a reallocation keeps the bytes or, failing, everything; `skyuv_calloc`
refuses the products that overflow and no others. -/
theorem windows_allocator (target : Target) :
    (∀ (alignment size : Word target) (zeroMemory : Bool) (grant : Grant target) (heap : Heap),
      alignment.toNat.isPowerOfTwo → target.pointerSize ≤ alignment.toNat →
      (2 ^ target.bits ≤ (normalizedSize size).toNat + overhead alignment ∧
        heapRequest alignment size = none ∧
        heapAllocate alignment size zeroMemory grant heap = (0#_, heap)) ∨
      ∃ total, total.toNat = (normalizedSize size).toNat + overhead alignment ∧
        heapRequest alignment size = some total ∧
        (grant.base = 0#_ → heapAllocate alignment size zeroMemory grant heap = (0#_, heap)) ∧
        (grant.base ≠ 0#_ → grant.base.toNat + total.toNat ≤ 2 ^ target.bits →
          (heapAllocate alignment size zeroMemory grant heap).1 =
              (made alignment size total grant).pointer ∧
            Obtained alignment heap (made alignment size total grant)
              (heapAllocate alignment size zeroMemory grant heap).2)) ∧
    (∀ state, (system target).Reachable state → ∀ allocation ∈ state.live,
      readHeader state.heap.memory (allocation.pointer - headerSize target) =
          ⟨allocation.base, allocation.size⟩ ∧
        allocation.block ∈ state.heap.blocks ∧
        (free allocation.pointer state.heap).memory = state.heap.memory ∧
        (∀ block, block ∈ (free allocation.pointer state.heap).blocks ↔
          block ∈ state.heap.blocks ∧ block ≠ allocation.block) ∧
        ∀ size grant, size ≠ 0#_ →
          grant.Fits state.heap (heapRequest (defaultAlignment target) size) →
          ((malloc size grant state.heap).1 = 0#_ →
            realloc allocation.pointer size grant state.heap = (0#_, state.heap)) ∧
          ((malloc size grant state.heap).1 ≠ 0#_ →
            (realloc allocation.pointer size grant state.heap).1 =
                (malloc size grant state.heap).1 ∧
              ∀ offset < min allocation.size.toNat size.toNat,
                (realloc allocation.pointer size grant state.heap).2.memory
                    ((realloc allocation.pointer size grant state.heap).1.toNat + offset) =
                  state.heap.memory (allocation.pointer.toNat + offset))) ∧
    ∀ (count size : Word target) (grant : Grant target) (heap : Heap),
      (callocRejects count size = true ↔ (sizeMax target).toNat < count.toNat * size.toNat) ∧
        (((sizeMax target).toNat < count.toNat * size.toNat ∧
          calloc count size grant heap = (0#_, heap)) ∨
        ∃ product : Word target, product.toNat = count.toNat * size.toNat ∧
          calloc count size grant heap =
            heapAllocate (defaultAlignment target) product true grant heap) := by
  refine ⟨?_, ?_, ?_⟩
  · intro alignment size zeroMemory grant heap power wide
    by_cases overflow : 2 ^ target.bits ≤ (normalizedSize size).toNat + overhead alignment
    · have none : heapRequest alignment size = none := by
        apply Option.eq_none_iff_forall_ne_some.mpr
        intro total request
        have sum := (heapRequest_eq_some_iff.mp request).2
        have below := total.isLt
        omega
      exact .inl ⟨overflow, none, heapAllocate_null zeroMemory heap (.inl none)⟩
    · have sum :
          (BitVec.ofNat target.bits ((normalizedSize size).toNat + overhead alignment)).toNat =
          (normalizedSize size).toNat + overhead alignment := by
        rw [BitVec.toNat_ofNat]
        exact Nat.mod_eq_of_lt (by omega)
      have request := heapRequest_eq_some_iff.mpr ⟨⟨power, wide⟩, sum⟩
      exact .inr ⟨_, sum, request, fun null => heapAllocate_null zeroMemory heap (.inr null),
        fun given fits => heapAllocate_made zeroMemory heap request given fits⟩
  · intro state reachable allocation held
    have sound := Sound.reachable reachable
    refine ⟨sound.recorded allocation held, sound.block_mem held, Sound.free_memory _ _,
      sound.mem_free_iff held, fun size grant positive fits => ⟨fun null => ?_, ?_⟩⟩
    · obtain ⟨-, failed⟩ | ⟨fresh, next, result, granted, -⟩ :=
        sound.realloc_cases held positive fits
      · exact failed
      · rw [result] at null
        exact absurd null granted.inside.pointer_ne_zero
    · exact sound.realloc_bytes held positive fits
  · intro count size grant heap
    exact ⟨callocRejects_iff count size, calloc_cases count size grant heap⟩

/-- The 64-bit target. -/
def windows64 : Target := ⟨8, .inr rfl⟩

/-- Three bytes are allocated in a block at 4096 and the second of them is written. -/
def threeBytes : State windows64 :=
  (((system windows64).exec (system windows64).init
    [.malloc 3#_ ⟨4096#_, fun _ => 1⟩, .write 4112#_ 1 7]).getD (system windows64).init)

def fiveBytes : Grant windows64 := ⟨8200#_, fun _ => 2⟩

/-- After a reallocation to five bytes the byte is found behind a pointer that was rounded up. -/
theorem windows_allocator_moves :
    (realloc 4112#_ 5#_ fiveBytes threeBytes.heap).1 = 8224#_ ∧
      (realloc 4112#_ 5#_ fiveBytes threeBytes.heap).2.memory 8225 = 7 := by
  have reachable : (system windows64).Reachable threeBytes :=
    ⟨[.malloc 3#_ ⟨4096#_, fun _ => 1⟩, .write 4112#_ 1 7], rfl⟩
  have held : (⟨4112#_, 4096#_, 3#_, 34#_⟩ : Allocation windows64) ∈ threeBytes.live := by
    decide +kernel
  obtain ⟨-, -, -, -, moves⟩ := (windows_allocator windows64).2.1 threeBytes reachable _ held
  obtain ⟨-, moved⟩ := moves 5#_ fiveBytes (by decide +kernel) (by decide +kernel)
  obtain ⟨pointer, bytes⟩ := moved (by decide +kernel)
  have there : (malloc 5#_ fiveBytes threeBytes.heap).1 = 8224#_ := by decide +kernel
  have written : threeBytes.heap.memory 4113 = 7 := by decide +kernel
  refine ⟨pointer.trans there, ?_⟩
  have copied := bytes 1 (by decide +kernel)
  rw [pointer, there] at copied
  exact copied.trans written

end Skyuv.Memory
