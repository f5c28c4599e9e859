import Mathlib.Data.Finset.Card
import Skyuv.Lib.TransitionSystem
import Skyuv.Socket.SocketId

/-!
# The slot table

`reserve_entry`, `find_entry` and the table half of `close_entry` and
`discard_uninitialized_entry`.  A slot holds the key of the entry that occupies
it; `ids` lists the id of every entry ever reserved, indexed by key.

The invariant describes a slot by its own history: the ids issued for it are
the packed generations `1, 2, ...` in order, its generation counter is the last
one of them, and an occupied slot holds the entry that was reserved last.
-/

set_option autoImplicit false

namespace Skyuv.Socket

open TransitionSystem

structure SlotTable where
  slots : Nat → Option Nat
  generations : Nat → Nat
  nextSlot : Nat
  entryCount : Nat

namespace SlotTable

def empty : SlotTable := ⟨fun _ => none, fun _ => 0, 0, 0⟩

/-- The loop of `reserve_entry`; `remaining` slots are still to be checked.
`next_slot` is advanced before the slot is looked at, also when the slot is
taken or the allocation fails. -/
def reserveLoop (cfg : Config) (alloc : Bool) (key : Nat) :
    Nat → SlotTable → Option Int × SlotTable
  | 0, table => (none, table)
  | remaining + 1, table =>
      let slot := (table.nextSlot &&& (cfg.slotCount - 1)) % 65536
      let table := { table with nextSlot := (table.nextSlot + 1) % 4294967296 }
      match table.slots slot with
      | some _ => reserveLoop cfg alloc key remaining table
      | none =>
          if alloc then
            let generation := idNextGeneration (table.generations slot)
            (some (idMake cfg slot generation),
              { table with
                generations := Function.update table.generations slot generation
                slots := Function.update table.slots slot (some key)
                entryCount := table.entryCount + 1 })
          else (none, table)

/-- `reserve_entry`: the id of the new entry, or nothing for
`SKYUV_ERROR_OUT_OF_MEMORY`. -/
def reserve (cfg : Config) (alloc : Bool) (key : Nat) (table : SlotTable) :
    Option Int × SlotTable :=
  reserveLoop cfg alloc key cfg.slotCount table

/-- `find_entry`, with `idOf` reading `entry->id` through the stored pointer. -/
def find (cfg : Config) (idOf : Nat → Option Int) (id : Int) (table : SlotTable) : Option Nat :=
  match table.slots (idSlot cfg id) with
  | some key => if idOf key = some id then some key else none
  | none => none

/-- The critical section shared by `close_entry` and `discard_uninitialized_entry`. -/
def unlink (cfg : Config) (key : Nat) (id : Int) (table : SlotTable) : SlotTable :=
  if table.slots (idSlot cfg id) = some key then
    { table with
      slots := Function.update table.slots (idSlot cfg id) none
      entryCount := table.entryCount - 1 }
  else table

def Full (cfg : Config) (table : SlotTable) : Prop :=
  ∀ slot < cfg.slotCount, table.slots slot ≠ none

def occupied (cfg : Config) (table : SlotTable) : Finset Nat :=
  (Finset.range cfg.slotCount).filter fun slot => table.slots slot ≠ none

variable (cfg : Config)

/-! ## What a reservation does -/

/-- Installing a new entry with the next generation of a free slot. -/
def install (key slot cursor : Nat) (table : SlotTable) : SlotTable :=
  { slots := Function.update table.slots slot (some key)
    generations := Function.update table.generations slot
      (idNextGeneration (table.generations slot))
    nextSlot := cursor
    entryCount := table.entryCount + 1 }

theorem reserveLoop_cases (alloc : Bool) (key remaining : Nat) (table : SlotTable) :
    (∃ cursor, reserveLoop cfg alloc key remaining table =
      (none, { table with nextSlot := cursor })) ∨
    (∃ slot cursor, slot < cfg.slotCount ∧ table.slots slot = none ∧ alloc = true ∧
      reserveLoop cfg alloc key remaining table =
        (some (idMake cfg slot (idNextGeneration (table.generations slot))),
          table.install key slot cursor)) := by
  induction remaining generalizing table with
  | zero => exact .inl ⟨table.nextSlot, rfl⟩
  | succ remaining ih =>
      have slotBound : (table.nextSlot &&& (cfg.slotCount - 1)) % 65536 < cfg.slotCount := by
        rw [mask_eq_mod]
        exact Nat.mod_lt _ (slotCount_pos cfg)
      cases taken : table.slots ((table.nextSlot &&& (cfg.slotCount - 1)) % 65536) with
      | some other =>
          simp only [reserveLoop, taken]
          exact ih _
      | none =>
          cases alloc with
          | false =>
              refine .inl ⟨(table.nextSlot + 1) % 4294967296, ?_⟩
              simp [reserveLoop, taken]
          | true =>
              refine .inr ⟨_, (table.nextSlot + 1) % 4294967296, slotBound, taken, rfl, ?_⟩
              simp [reserveLoop, taken, install]

theorem reserve_cases (alloc : Bool) (key : Nat) (table : SlotTable) :
    (∃ cursor, table.reserve cfg alloc key = (none, { table with nextSlot := cursor })) ∨
    (∃ slot cursor, slot < cfg.slotCount ∧ table.slots slot = none ∧ alloc = true ∧
      table.reserve cfg alloc key =
        (some (idMake cfg slot (idNextGeneration (table.generations slot))),
          table.install key slot cursor)) :=
  reserveLoop_cases cfg alloc key cfg.slotCount table

/-- A failing scan with memory available has found every slot it looked at
taken; the cursor's wrap at `2^32` does not disturb the order because the slot
count divides it. -/
theorem reserveLoop_none (key remaining : Nat) (table : SlotTable)
    (failed : (reserveLoop cfg true key remaining table).1 = none) :
    ∀ offset < remaining, table.slots ((table.nextSlot + offset) % cfg.slotCount) ≠ none := by
  induction remaining generalizing table with
  | zero =>
      intro offset bound
      omega
  | succ remaining ih =>
      intro offset bound
      cases taken : table.slots ((table.nextSlot &&& (cfg.slotCount - 1)) % 65536) with
      | none => simp [reserveLoop, taken] at failed
      | some other =>
          simp only [reserveLoop, taken] at failed
          cases offset with
          | zero =>
              rw [mask_eq_mod] at taken
              simp [taken]
          | succ offset =>
              have tail := ih _ failed offset (by omega)
              have cursor : ((table.nextSlot + 1) % 4294967296 + offset) % cfg.slotCount =
                  (table.nextSlot + (offset + 1)) % cfg.slotCount := by
                rw [Nat.add_mod, Nat.mod_mod_of_dvd _ (slotCount_dvd cfg), ← Nat.add_mod]
                congr 1
                omega
              rwa [cursor] at tail

/-- A round-robin cursor that starts anywhere meets every slot. -/
theorem cursor_meets (start : Nat) {slot count : Nat} (slotBound : slot < count) :
    ∃ offset < count, (start + offset) % count = slot := by
  have remainder : start % count < count := Nat.mod_lt _ (by omega)
  have split := Nat.div_add_mod start count
  rcases Nat.lt_or_ge slot (start % count) with behind | ahead
  · refine ⟨count + slot - start % count, by omega, ?_⟩
    have sum : start + (count + slot - start % count) = slot + count * (start / count + 1) := by
      rw [Nat.mul_succ]
      omega
    rw [sum, Nat.add_mul_mod_self_left, Nat.mod_eq_of_lt slotBound]
  · refine ⟨slot - start % count, by omega, ?_⟩
    have sum : start + (slot - start % count) = slot + count * (start / count) := by omega
    rw [sum, Nat.add_mul_mod_self_left, Nat.mod_eq_of_lt slotBound]

theorem reserve_none_iff (key : Nat) (table : SlotTable) :
    (table.reserve cfg true key).1 = none ↔ table.Full cfg := by
  constructor
  · intro failed slot slotBound
    obtain ⟨offset, offsetBound, position⟩ := cursor_meets table.nextSlot slotBound
    have scanned := reserveLoop_none cfg key cfg.slotCount table failed offset offsetBound
    rwa [position] at scanned
  · intro full
    rcases reserve_cases cfg true key table with ⟨cursor, result⟩ |
      ⟨slot, cursor, slotBound, free, _, _⟩
    · rw [result]
    · exact absurd free (full slot slotBound)

/-! ## The invariant -/

/-- The ids issued for one slot, oldest first. -/
def issuedAt (ids : List Int) (slot : Nat) : List Int :=
  ids.filter fun id => idSlot cfg id = slot

/-- The table agrees with the ids issued so far. -/
structure Chronicle (table : SlotTable) (ids : List Int) : Prop where
  /-- The ids of a slot carry the generations `1, 2, ...` in order. -/
  history : ∀ slot < cfg.slotCount, issuedAt cfg ids slot =
    (List.range (issuedAt cfg ids slot).length).map fun n =>
      idMake cfg slot (generationAfter (n + 1))
  generation : ∀ slot < cfg.slotCount,
    table.generations slot = generationAfter (issuedAt cfg ids slot).length
  /-- An occupied slot holds the entry of its last reservation. -/
  last : ∀ slot < cfg.slotCount, ∀ key, table.slots slot = some key →
    ∃ before after id, ids = before ++ id :: after ∧ before.length = key ∧
      idSlot cfg id = slot ∧ issuedAt cfg after slot = []

structure Inv (table : SlotTable) (ids : List Int) : Prop extends Chronicle cfg table ids where
  count : table.entryCount = (table.occupied cfg).card

variable {cfg} {table : SlotTable} {ids : List Int}

theorem issuedAt_append (before after : List Int) (slot : Nat) :
    issuedAt cfg (before ++ after) slot = issuedAt cfg before slot ++ issuedAt cfg after slot :=
  List.filter_append ..

theorem issuedAt_cons_self {id : Int} {slot : Nat} (after : List Int)
    (here : idSlot cfg id = slot) :
    issuedAt cfg (id :: after) slot = id :: issuedAt cfg after slot := by
  simp [issuedAt, here]

theorem issuedAt_singleton (id : Int) (slot : Nat) :
    issuedAt cfg [id] slot = if idSlot cfg id = slot then [id] else [] := by
  by_cases here : idSlot cfg id = slot <;> simp [issuedAt, here]

theorem inv_empty : Inv cfg empty [] where
  history := by
    intro slot _
    simp [issuedAt]
  generation := by
    intro slot _
    simp [issuedAt, empty, generationAfter]
  last := by
    intro slot _ key occupies
    simp [empty] at occupies
  count := by simp [empty, occupied]

theorem Inv.cursor (inv : Inv cfg table ids) (cursor : Nat) :
    Inv cfg { table with nextSlot := cursor } ids :=
  ⟨⟨inv.history, inv.generation, inv.last⟩, inv.count⟩

/-- The generation that `reserve_entry` gives to a free slot is the next one of
that slot's own sequence. -/
theorem Chronicle.nextGeneration (inv : Chronicle cfg table ids) {slot : Nat}
    (slotBound : slot < cfg.slotCount) :
    idNextGeneration (table.generations slot) =
      generationAfter ((issuedAt cfg ids slot).length + 1) := by
  rw [inv.generation slot slotBound, idNextGeneration_generationAfter]

theorem idSlot_nextId (inv : Chronicle cfg table ids) {slot : Nat}
    (slotBound : slot < cfg.slotCount) :
    idSlot cfg (idMake cfg slot (idNextGeneration (table.generations slot))) = slot := by
  rw [inv.nextGeneration slotBound]
  have bounds := generationAfter_bounds (Nat.succ_ne_zero (issuedAt cfg ids slot).length)
  exact idSlot_idMake slotBound bounds.1 bounds.2

theorem mem_occupied {slot : Nat} :
    slot ∈ table.occupied cfg ↔ slot < cfg.slotCount ∧ table.slots slot ≠ none := by
  simp [occupied]

theorem install_slots (key slot cursor : Nat) :
    (table.install key slot cursor).slots = Function.update table.slots slot (some key) := rfl

theorem occupied_install {slot : Nat} (key cursor : Nat) (slotBound : slot < cfg.slotCount) :
    (table.install key slot cursor).occupied cfg = insert slot (table.occupied cfg) := by
  ext other
  rw [Finset.mem_insert, mem_occupied, mem_occupied, install_slots]
  by_cases same : other = slot
  · subst same
    simp [slotBound]
  · simp [same]

theorem Chronicle.install (inv : Chronicle cfg table ids) {slot : Nat} (cursor : Nat)
    (slotBound : slot < cfg.slotCount) :
    Chronicle cfg (table.install ids.length slot cursor)
      (ids ++ [idMake cfg slot (idNextGeneration (table.generations slot))]) := by
  have here := idSlot_nextId inv slotBound
  have next := inv.nextGeneration slotBound
  refine ⟨?_, ?_, ?_⟩
  · intro other otherBound
    rw [issuedAt_append, issuedAt_singleton, here]
    by_cases same : slot = other
    · subst same
      rw [if_pos rfl, List.length_append, List.length_singleton, List.range_succ,
        List.map_append, ← inv.history slot slotBound, next]
      rfl
    · rw [if_neg same, List.append_nil]
      exact inv.history other otherBound
  · intro other otherBound
    rw [issuedAt_append, issuedAt_singleton, here]
    by_cases same : slot = other
    · subst same
      simp [SlotTable.install, next]
    · rw [if_neg same, List.append_nil]
      simp [SlotTable.install, Function.update_of_ne (Ne.symm same),
        inv.generation other otherBound]
  · intro other otherBound key occupies
    by_cases same : slot = other
    · subst same
      have isNew : ids.length = key := by simpa [SlotTable.install] using occupies
      exact ⟨ids, [], _, rfl, isNew, here, rfl⟩
    · rw [install_slots, Function.update_of_ne (Ne.symm same)] at occupies
      obtain ⟨before, after, id, split, position, slotOf, latest⟩ :=
        inv.last other otherBound key occupies
      refine ⟨before, after ++ [idMake cfg slot (idNextGeneration (table.generations slot))], id,
        ?_, position, slotOf, ?_⟩
      · rw [split, List.append_assoc, List.cons_append]
      · rw [issuedAt_append, issuedAt_singleton, here, if_neg same, latest, List.append_nil]

theorem Inv.install (inv : Inv cfg table ids) {slot : Nat} (cursor : Nat)
    (slotBound : slot < cfg.slotCount) (free : table.slots slot = none) :
    Inv cfg (table.install ids.length slot cursor)
      (ids ++ [idMake cfg slot (idNextGeneration (table.generations slot))]) := by
  refine ⟨inv.toChronicle.install cursor slotBound, ?_⟩
  rw [occupied_install ids.length cursor slotBound, Finset.card_insert_of_notMem]
  · simp [SlotTable.install, inv.count]
  · simp [occupied, free]

theorem Inv.reserve (inv : Inv cfg table ids) (alloc : Bool) :
    Inv cfg (table.reserve cfg alloc ids.length).2
      (ids ++ (table.reserve cfg alloc ids.length).1.toList) := by
  rcases reserve_cases cfg alloc ids.length table with ⟨cursor, result⟩ |
    ⟨slot, cursor, slotBound, free, _, result⟩
  · rw [result]
    simpa using inv.cursor cursor
  · rw [result]
    exact inv.install cursor slotBound free

/-- What is still in the table after `unlink`. -/
theorem slots_of_unlink {key other slot : Nat} {id : Int}
    (occupies : (table.unlink cfg key id).slots slot = some other) :
    table.slots slot = some other ∧ ¬(other = key ∧ slot = idSlot cfg id) := by
  rw [SlotTable.unlink] at occupies
  split at occupies
  · rename_i linked
    dsimp only at occupies
    rcases eq_or_ne slot (idSlot cfg id) with rfl | distinct
    · simp at occupies
    · rw [Function.update_of_ne distinct] at occupies
      exact ⟨occupies, fun here => distinct here.2⟩
  · rename_i unlinked
    refine ⟨occupies, ?_⟩
    rintro ⟨rfl, rfl⟩
    exact unlinked occupies

/-- Entries may leave the table without being forgotten. -/
theorem Chronicle.shrink {after : SlotTable} (inv : Chronicle cfg table ids)
    (generations : after.generations = table.generations)
    (shrinks : ∀ slot key, after.slots slot = some key → table.slots slot = some key) :
    Chronicle cfg after ids :=
  ⟨inv.history, generations ▸ inv.generation,
    fun slot slotBound key occupies => inv.last slot slotBound key (shrinks slot key occupies)⟩

theorem slots_install_other {key other slot place cursor : Nat} (free : table.slots slot = none)
    (occupies : table.slots place = some other) :
    (table.install key slot cursor).slots place = some other := by
  have distinct : place ≠ slot := by
    rintro rfl
    cases free.symm.trans occupies
  exact (Function.update_of_ne distinct _ _).trans occupies

theorem slots_of_install {key other slot place cursor : Nat}
    (occupies : (table.install key slot cursor).slots place = some other) :
    table.slots place = some other ∨ other = key := by
  rcases eq_or_ne place slot with rfl | distinct
  · have here : (table.install key place cursor).slots place = some key :=
      Function.update_self place _ _
    exact .inr (Option.some.inj (occupies.symm.trans here))
  · exact .inl ((Function.update_of_ne distinct _ _).symm.trans occupies)

theorem slots_unlink_other {key other slot : Nat} {id : Int}
    (occupies : table.slots slot = some other) (distinct : other ≠ key) :
    (table.unlink cfg key id).slots slot = some other := by
  rw [SlotTable.unlink]
  split
  · rename_i linked
    rw [← occupies]
    refine Function.update_of_ne (fun here => distinct ?_) _ _
    rw [here, linked] at occupies
    exact (Option.some.inj occupies).symm
  · exact occupies

theorem unlink_generations (key : Nat) (id : Int) :
    (table.unlink cfg key id).generations = table.generations := by
  rw [SlotTable.unlink]
  split <;> rfl

theorem occupied_unlink {key : Nat} {id : Int} (linked : table.slots (idSlot cfg id) = some key) :
    (table.unlink cfg key id).occupied cfg = (table.occupied cfg).erase (idSlot cfg id) := by
  ext other
  rw [Finset.mem_erase, mem_occupied, mem_occupied, SlotTable.unlink, if_pos linked]
  by_cases same : other = idSlot cfg id
  · subst same
    simp
  · simp [same]

theorem Inv.unlink (inv : Inv cfg table ids) (key : Nat) (id : Int) :
    Inv cfg (table.unlink cfg key id) ids := by
  refine ⟨inv.toChronicle.shrink (unlink_generations key id)
    fun _ _ occupies => (slots_of_unlink occupies).1, ?_⟩
  by_cases linked : table.slots (idSlot cfg id) = some key
  · have present : idSlot cfg id ∈ table.occupied cfg := by
      simp [occupied, linked, idSlot_lt]
    rw [occupied_unlink linked, Finset.card_erase_of_mem present, ← inv.count, SlotTable.unlink,
      if_pos linked]
  · rw [SlotTable.unlink, if_neg linked]
    exact inv.count

/-! ## Reading the invariant -/

/-- The id at a position of the history is determined by its slot and by how
often that slot had been reserved before. -/
theorem Inv.id_eq (inv : Inv cfg table ids) {before after : List Int} {id : Int}
    (split : ids = before ++ id :: after) :
    id = idMake cfg (idSlot cfg id)
      (generationAfter ((issuedAt cfg before (idSlot cfg id)).length + 1)) := by
  have history := inv.history (idSlot cfg id) (idSlot_lt cfg id)
  have shape : issuedAt cfg ids (idSlot cfg id) =
      issuedAt cfg before (idSlot cfg id) ++ id :: issuedAt cfg after (idSlot cfg id) := by
    rw [split, issuedAt_append, issuedAt_cons_self after rfl]
  have here := congrArg (fun list => list[(issuedAt cfg before (idSlot cfg id)).length]?) history
  rw [shape] at here
  simpa using here

theorem split_at {key : Nat} {id : Int} (at_key : ids[key]? = some id) :
    ∃ before after, ids = before ++ id :: after ∧ before.length = key := by
  obtain ⟨bound, value⟩ := List.getElem?_eq_some_iff.mp at_key
  refine ⟨ids.take key, ids.drop (key + 1), ?_, ?_⟩
  · rw [← value, ← List.drop_eq_getElem_cons bound, List.take_append_drop]
  · rw [List.length_take]
    omega

theorem getElem_split {before after : List Int} {id : Int} {key : Nat}
    (split : ids = before ++ id :: after) (position : before.length = key) :
    ids[key]? = some id := by
  rw [split, ← position]
  simp

/-- Every id ever issued is the packing of its own slot and a legal generation. -/
theorem Inv.id_pos (inv : Inv cfg table ids) {key : Nat} {id : Int}
    (at_key : ids[key]? = some id) : 0 < id := by
  obtain ⟨before, after, split, _⟩ := split_at at_key
  have bounds := generationAfter_bounds
    (Nat.succ_ne_zero (issuedAt cfg before (idSlot cfg id)).length)
  rw [inv.id_eq split]
  exact idMake_pos (idSlot_lt cfg id) bounds.1 bounds.2

theorem Inv.occupant (inv : Inv cfg table ids) {slot key : Nat}
    (slotBound : slot < cfg.slotCount) (occupies : table.slots slot = some key) :
    ∃ id, ids[key]? = some id ∧ 0 < id ∧ idSlot cfg id = slot ∧
      idGeneration cfg id = table.generations slot := by
  obtain ⟨before, after, id, split, position, slotOf, latest⟩ :=
    inv.last slot slotBound key occupies
  have at_key := getElem_split split position
  refine ⟨id, at_key, inv.id_pos at_key, slotOf, ?_⟩
  have bounds := generationAfter_bounds
    (Nat.succ_ne_zero (issuedAt cfg before (idSlot cfg id)).length)
  have length : (issuedAt cfg ids slot).length = (issuedAt cfg before slot).length + 1 := by
    rw [split, issuedAt_append, issuedAt_cons_self after slotOf, latest]
    simp
  rw [inv.id_eq split, idGeneration_idMake (idSlot_lt cfg id) bounds.1 bounds.2, slotOf,
    inv.generation slot slotBound, length]

/-- No key occupies a slot other than the one its id names. -/
theorem Inv.slot_eq (inv : Inv cfg table ids) {slot key : Nat} {id : Int}
    (slotBound : slot < cfg.slotCount) (occupies : table.slots slot = some key)
    (at_key : ids[key]? = some id) : idSlot cfg id = slot := by
  obtain ⟨id', at_key', _, slotOf, _⟩ := inv.occupant slotBound occupies
  rw [at_key] at at_key'
  cases at_key'
  exact slotOf

theorem find_eq_some {idOf : Nat → Option Int} {id : Int} {key : Nat} :
    table.find cfg idOf id = some key ↔
      table.slots (idSlot cfg id) = some key ∧ idOf key = some id := by
  rw [find]
  cases occupies : table.slots (idSlot cfg id) with
  | none => simp
  | some other =>
      by_cases named : idOf other = some id
      · simp only [if_pos named, Option.some.injEq]
        constructor
        · rintro rfl
          exact ⟨rfl, named⟩
        · exact fun h => h.1
      · simp only [if_neg named, Option.some.injEq]
        constructor
        · intro h
          cases h
        · rintro ⟨rfl, h⟩
          exact absurd h named

/-- Two reservations of one slot get the same id only when a multiple of 32767
reservations lies between them. -/
theorem Inv.reuse_distance (inv : Inv cfg table ids) {before middle after : List Int} {id : Int}
    (split : ids = before ++ id :: (middle ++ id :: after)) :
    32767 ≤ (issuedAt cfg middle (idSlot cfg id)).length + 1 := by
  have first := inv.id_eq split
  have splitSecond : ids = (before ++ id :: middle) ++ id :: after := by simp [split]
  have second := inv.id_eq splitSecond
  rw [issuedAt_append, issuedAt_cons_self middle rfl] at second
  have bounds := fun count => generationAfter_bounds (Nat.succ_ne_zero count)
  have same := (idMake_inj (idSlot_lt cfg id) (idSlot_lt cfg id) (bounds _).1 (bounds _).2
    (bounds _).1 (bounds _).2 (first.symm.trans second)).2
  by_contra short
  refine generationAfter_ne (Nat.succ_ne_zero _) ?_ ?_ same
  · simp only [List.length_append, List.length_cons]
    omega
  · simp only [List.length_append, List.length_cons]
    omega

theorem Inv.window_nodup (inv : Inv cfg table ids) {slot : Nat} (slotBound : slot < cfg.slotCount)
    (start : Nat) : (((issuedAt cfg ids slot).drop start).take 32767).Nodup := by
  rw [inv.history slot slotBound, List.Nodup, List.pairwise_iff_getElem]
  intro first second firstBound secondBound earlier same
  simp only [List.length_take] at secondBound
  simp only [List.getElem_take, List.getElem_drop, List.getElem_map, List.getElem_range] at same
  have bounds := fun count => generationAfter_bounds (Nat.succ_ne_zero count)
  have generations := (idMake_inj slotBound slotBound (bounds _).1 (bounds _).2
    (bounds _).1 (bounds _).2 same).2
  exact generationAfter_ne (Nat.succ_ne_zero _) (by omega) (by omega) generations

/-- A stale id resolves to a newer entry only after 32767 further reservations
of its slot; `middle ++ [id]` is what was issued since. -/
theorem Inv.stale (inv : Inv cfg table ids) {id : Int} {key other : Nat}
    (at_key : ids[key]? = some id) (found : table.find cfg (fun key => ids[key]?) id = some other)
    (newer : other ≠ key) :
    ∃ before middle after, ids = before ++ id :: (middle ++ id :: after) ∧
      before.length = key ∧ key + 1 + middle.length = other ∧
      32767 ≤ (issuedAt cfg (middle ++ [id]) (idSlot cfg id)).length := by
  obtain ⟨occupies, at_other⟩ := find_eq_some.mp found
  obtain ⟨front, after, last, split, position, slotOf, latest⟩ :=
    inv.last _ (idSlot_lt cfg id) other occupies
  have lastEq : last = id := by
    rw [getElem_split split position] at at_other
    exact Option.some.inj at_other
  subst lastEq
  -- the occupant is the last reservation of the slot, so `key` lies before it
  have keyBefore : key < other := by
    rcases Nat.lt_or_ge key other with less | more
    · exact less
    · exfalso
      have inAfter : after[key - (other + 1)]? = some last := by
        rw [split, List.getElem?_append_right (by omega)] at at_key
        obtain ⟨gap, gapEq⟩ := Nat.exists_eq_add_of_lt (show other < key by omega)
        rw [show key - front.length = gap + 1 by omega, List.getElem?_cons_succ] at at_key
        rwa [show key - (other + 1) = gap by omega]
      have member : last ∈ issuedAt cfg after (idSlot cfg last) := by
        simp [issuedAt, List.mem_of_getElem? inAfter]
      rw [latest] at member
      cases member
  have inFront : front[key]? = some last := by
    rwa [split, List.getElem?_append_left (by omega)] at at_key
  obtain ⟨before, middle, frontSplit, beforeLength⟩ := split_at inFront
  have whole : ids = before ++ last :: (middle ++ last :: after) := by
    rw [split, frontSplit]
    simp
  have frontLength : front.length = before.length + (middle.length + 1) := by
    rw [frontSplit]
    simp
  refine ⟨before, middle, after, whole, beforeLength, by omega, ?_⟩
  rw [issuedAt_append, issuedAt_singleton, if_pos rfl, List.length_append,
    List.length_singleton]
  exact inv.reuse_distance whole

end SlotTable

/-! ## Runs of reservations, closes and discards -/

structure TableState where
  table : SlotTable
  ids : List Int

inductive TableOp where
  | reserve (alloc : Bool)
  | close (key : Nat)
  | discard (key : Nat)

/-- `close_entry` and `discard_uninitialized_entry` remove an entry from the
table in the same way; either may be called for an entry whose slot has been
given away. -/
def tableStep (cfg : Config) (state : TableState) : TableOp → Option TableState
  | .reserve alloc =>
      let (id, table) := state.table.reserve cfg alloc state.ids.length
      some ⟨table, state.ids ++ id.toList⟩
  | .close key =>
      state.ids[key]?.map fun id => { state with table := state.table.unlink cfg key id }
  | .discard key =>
      state.ids[key]?.map fun id => { state with table := state.table.unlink cfg key id }

def tableSystem (cfg : Config) : System TableState TableOp where
  init := ⟨.empty, []⟩
  step := tableStep cfg

def TableState.find (cfg : Config) (state : TableState) (id : Int) : Option Nat :=
  state.table.find cfg (fun key => state.ids[key]?) id

theorem tableStep_inv {cfg : Config} {state next : TableState} {op : TableOp}
    (inv : state.table.Inv cfg state.ids) (step : tableStep cfg state op = some next) :
    next.table.Inv cfg next.ids := by
  have unlinked : ∀ key, state.ids[key]?.map (fun id =>
      { state with table := state.table.unlink cfg key id }) = some next →
      next.table.Inv cfg next.ids := by
    intro key removed
    obtain ⟨id, _, result⟩ := Option.map_eq_some_iff.mp removed
    subst result
    exact inv.unlink key id
  cases op with
  | reserve alloc =>
      cases Option.some.inj step
      exact inv.reserve alloc
  | close key => exact unlinked key step
  | discard key => exact unlinked key step

theorem table_inv {cfg : Config} {state : TableState}
    (reached : (tableSystem cfg).Reachable state) :
    state.table.Inv cfg state.ids :=
  reached.invariant (fun state => state.table.Inv cfg state.ids) SlotTable.inv_empty
    fun _ _ _ inv step => tableStep_inv inv step

/-- The slot table over any sequence of reservations, closes and discards:
occupied slots hold entries whose id decodes to the slot and its generation,
live ids are distinct and resolve to their own entry, the counter counts the
occupied slots, a reservation with memory fails exactly when every slot is
taken, and an id comes back only after 32767 reservations of its slot. -/
theorem slot_table_sound (cfg : Config) (state : TableState)
    (reached : (tableSystem cfg).Reachable state) :
    (∀ slot < cfg.slotCount, ∀ key, state.table.slots slot = some key →
      ∃ id, state.ids[key]? = some id ∧ 0 < id ∧ idSlot cfg id = slot ∧
        idGeneration cfg id = state.table.generations slot ∧ state.find cfg id = some key) ∧
    (∀ slot < cfg.slotCount, ∀ slot' < cfg.slotCount, ∀ key key' id,
      state.table.slots slot = some key → state.table.slots slot' = some key' →
      state.ids[key]? = some id → state.ids[key']? = some id → key = key') ∧
    (∀ id key, state.find cfg id = some key → state.ids[key]? = some id) ∧
    state.table.entryCount = (state.table.occupied cfg).card ∧
    (∀ key, (state.table.reserve cfg true key).1 = none ↔ state.table.Full cfg) ∧
    (∀ slot < cfg.slotCount, ∀ start,
      (((SlotTable.issuedAt cfg state.ids slot).drop start).take 32767).Nodup) ∧
    (∀ id key other, state.ids[key]? = some id → state.find cfg id = some other → other ≠ key →
      ∃ before middle after, state.ids = before ++ id :: (middle ++ id :: after) ∧
        before.length = key ∧ key + 1 + middle.length = other ∧
        32767 ≤ (SlotTable.issuedAt cfg (middle ++ [id]) (idSlot cfg id)).length) := by
  have inv := table_inv reached
  refine ⟨?_, ?_, ?_, inv.count, ?_, ?_, ?_⟩
  · intro slot slotBound key occupies
    obtain ⟨id, at_key, positive, slotOf, generation⟩ := inv.occupant slotBound occupies
    refine ⟨id, at_key, positive, slotOf, generation, SlotTable.find_eq_some.mpr ⟨?_, at_key⟩⟩
    rw [slotOf]
    exact occupies
  · intro slot slotBound slot' slotBound' key key' id occupies occupies' at_key at_key'
    have here := inv.slot_eq slotBound occupies at_key
    have there := inv.slot_eq slotBound' occupies' at_key'
    rw [← here] at occupies
    rw [← there] at occupies'
    exact Option.some.inj (occupies.symm.trans occupies')
  · intro id key found
    exact (SlotTable.find_eq_some.mp found).2
  · intro key
    exact SlotTable.reserve_none_iff cfg key state.table
  · intro slot slotBound start
    exact inv.window_nodup slotBound start
  · intro id key other at_key found newer
    exact inv.stale at_key found newer

def fourSlots : Config := ⟨2, true, false, by decide, by decide⟩

/-- A four-slot table after a reservation, a close and two more reservations. -/
theorem slot_table_sound_four_slots :
    ∃ state, (tableSystem fourSlots).exec (tableSystem fourSlots).init
        [.reserve true, .close 0, .reserve true, .reserve true] = some state ∧
      state.ids = [4, 5, 6] ∧ state.find fourSlots 4 = none ∧ state.find fourSlots 5 = some 1 ∧
      state.table.entryCount = (state.table.occupied fourSlots).card := by
  refine ⟨_, (Option.some_get (by decide)).symm, by decide, by decide, by decide, ?_⟩
  exact (slot_table_sound fourSlots _ ⟨_, (Option.some_get _).symm⟩).2.2.2.1

end Skyuv.Socket
