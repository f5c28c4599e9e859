import Skyuv.Socket.Outcome
import Skyuv.Socket.Simulation

/-!
# The invariant of the runtime

`State.Wf` says what holds between any two steps: every entry has a sound life,
the slot table is the table of the entries, the pump list holds exactly the
entries marked for it, and every id-allocating call still knows the entry it
reserved.  It needs no assumption on the interleaving of the threads.
-/

set_option autoImplicit false

namespace Skyuv.Socket

open TransitionSystem

/-- A slot points to an entry that is in memory and whose id names the slot. -/
def Linked (cfg : Config) (table : SlotTable) (entries : List Entry) : Prop :=
  ∀ slot key, table.slots slot = some key → slot < cfg.slotCount ∧
    ∃ entry, entries[key]? = some entry ∧ entry.freed = false ∧ idSlot cfg entry.id = slot

/-- The pump list holds the entries marked for it, each once. -/
structure Listed (pumpList : List Nat) (entries : List Entry) : Prop where
  nodup : pumpList.Nodup
  marked : ∀ key, key ∈ pumpList ↔ ∃ entry, entries[key]? = some entry ∧ entry.pumpPending = true

/-- A send command carries at least one byte. -/
def Command.Sized (command : Command) : Prop :=
  ∀ payload, command.body = .send payload ∨ command.body = .sendLow payload →
    0 < payload.buffer.size

/-- A call knows the entry it reserved, its command names that entry, and after
its critical section of `discard_uninitialized_entry` no slot points to it. -/
structure Worker.Ok (table : SlotTable) (entries : List Entry) (worker : Worker) : Prop where
  known : ∃ entry, entries[worker.key]? = some entry ∧ entry.id = worker.reservedId
  named : ∀ command, worker.pc = .built command →
    command = ⟨worker.reservedId, worker.opaqueVal, worker.call.body⟩
  loose : ∀ result, worker.pc = .unlinked result → ∀ slot, table.slots slot ≠ some worker.key

/-- The loop thread is inside `consume_commands`. -/
def LoopPc.consumes : LoopPc → Bool
  | .consuming | .exitScan _ | .pumping => true
  | _ => false

structure State.Wf (cfg : Config) (state : State) : Prop where
  sound : ∀ (key : Nat) (entry : Entry), state.entries[key]? = some entry → entry.life.Sound
  chronicle : state.runtime.table.Chronicle cfg (state.entries.map Entry.id)
  /-- The scan of `skyuv_socket_runtime_release` no longer counts. -/
  count : state.pc.live = true →
    state.runtime.table.entryCount = (state.runtime.table.occupied cfg).card
  linked : Linked cfg state.runtime.table state.entries
  listed : Listed state.runtime.pumpList state.entries
  idle : state.pc.consumes = false → state.runtime.pumpList = []
  sized : ∀ command ∈ state.commands, command.Sized
  workers : ∀ worker ∈ state.workers, worker.Ok state.runtime.table state.entries
  owners : (state.workers.map Worker.key).Nodup

/-! ## One entry changes -/

section Entries

variable {cfg : Config} {table : SlotTable} {entries : List Entry} {key : Nat}
  {entry changed : Entry}

theorem getElem?_set_of {other : Nat} {found : Entry} (at_key : entries[key]? = some entry)
    (at_other : (entries.set key changed)[other]? = some found) :
    (other = key ∧ found = changed) ∨ (other ≠ key ∧ entries[other]? = some found) := by
  have bound := (List.getElem?_eq_some_iff.mp at_key).1
  rcases eq_or_ne other key with rfl | distinct
  · rw [List.getElem?_set_self bound] at at_other
    exact .inl ⟨rfl, (Option.some.inj at_other).symm⟩
  · rw [List.getElem?_set_ne distinct.symm] at at_other
    exact .inr ⟨distinct, at_other⟩

theorem getElem?_set_here (at_key : entries[key]? = some entry) :
    (entries.set key changed)[key]? = some changed :=
  List.getElem?_set_self (List.getElem?_eq_some_iff.mp at_key).1

theorem getElem?_append_of {other : Nat} {found : Entry}
    (at_other : (entries ++ [changed])[other]? = some found) :
    entries[other]? = some found ∨ (other = entries.length ∧ found = changed) := by
  rcases Nat.lt_trichotomy other entries.length with inside | rfl | outside
  · rw [List.getElem?_append_left inside] at at_other
    exact .inl at_other
  · rw [List.getElem?_concat_length] at at_other
    exact .inr ⟨rfl, (Option.some.inj at_other).symm⟩
  · rw [List.getElem?_eq_none (by simp; omega)] at at_other
    cases at_other

theorem getElem?_append_kept (at_key : entries[key]? = some entry) :
    (entries ++ [changed])[key]? = some entry := by
  rw [List.getElem?_append_left (List.getElem?_eq_some_iff.mp at_key).1, at_key]

theorem map_id_set (at_key : entries[key]? = some entry) (id : changed.id = entry.id) :
    (entries.set key changed).map Entry.id = entries.map Entry.id := by
  apply List.ext_getElem?
  intro other
  rw [List.getElem?_map, List.getElem?_map]
  rcases eq_or_ne other key with rfl | distinct
  · rw [getElem?_set_here at_key, at_key, Option.map_some, Option.map_some, id]
  · rw [List.getElem?_set_ne distinct.symm]

theorem Linked.set (linked : Linked cfg table entries) (at_key : entries[key]? = some entry)
    (id : changed.id = entry.id) (freed : changed.freed = entry.freed) :
    Linked cfg table (entries.set key changed) := by
  intro slot other occupies
  obtain ⟨slotBound, found, at_other, alive, slotOf⟩ := linked slot other occupies
  refine ⟨slotBound, ?_⟩
  rcases eq_or_ne other key with rfl | distinct
  · rw [at_key] at at_other
    cases at_other
    exact ⟨changed, getElem?_set_here at_key, freed ▸ alive, id ▸ slotOf⟩
  · exact ⟨found, by rw [List.getElem?_set_ne distinct.symm]; exact at_other, alive, slotOf⟩

/-- An entry that no slot points to may be freed. -/
theorem Linked.set_loose (linked : Linked cfg table entries)
    (loose : ∀ slot, table.slots slot ≠ some key) : Linked cfg table (entries.set key changed) := by
  intro slot other occupies
  obtain ⟨slotBound, found, at_other, alive, slotOf⟩ := linked slot other occupies
  have distinct : other ≠ key := by
    rintro rfl
    exact loose slot occupies
  exact ⟨slotBound, found, by rw [List.getElem?_set_ne distinct.symm]; exact at_other, alive,
    slotOf⟩

/-- An entry sits in the slot of its id only, so after `unlink` no slot has it. -/
theorem Linked.loose (linked : Linked cfg table entries) (at_key : entries[key]? = some entry)
    (slot : Nat) : (table.unlink cfg key entry.id).slots slot ≠ some key := by
  intro occupies
  have before := SlotTable.slots_of_unlink occupies
  obtain ⟨-, found, at_other, -, slotOf⟩ := linked slot key before.1
  rw [at_key] at at_other
  cases at_other
  exact before.2 ⟨rfl, slotOf.symm⟩

theorem Linked.shrink {after : SlotTable} (linked : Linked cfg table entries)
    (shrinks : ∀ slot other, after.slots slot = some other → table.slots slot = some other) :
    Linked cfg after entries :=
  fun slot other occupies => linked slot other (shrinks slot other occupies)

theorem Linked.unlink (linked : Linked cfg table entries) (at_key : entries[key]? = some entry) :
    Linked cfg (table.unlink cfg key entry.id) (entries.set key changed) :=
  (linked.shrink fun _ _ occupies => (SlotTable.slots_of_unlink occupies).1).set_loose
    (linked.loose at_key)

/-- A slot that is occupied after another one was cleared was occupied before. -/
theorem vacated {slots : Nat → Option Nat} {slot place other : Nat}
    (occupied : Function.update slots slot none place = some other) :
    place ≠ slot ∧ slots place = some other := by
  rcases eq_or_ne place slot with rfl | distinct
  · simp at occupied
  · rw [Function.update_of_ne distinct] at occupied
    exact ⟨distinct, occupied⟩

theorem Linked.clear (linked : Linked cfg table entries) {slot : Nat}
    (occupied : table.slots slot = some key) :
    Linked cfg { table with slots := Function.update table.slots slot none }
      (entries.set key changed) := by
  apply Linked.set_loose
  · intro place other occupies
    exact linked place other (vacated occupies).2
  · intro place occupies
    obtain ⟨distinct, before⟩ := vacated occupies
    obtain ⟨-, found, at_found, -, slotOf⟩ := linked place key before
    obtain ⟨-, same, at_same, -, slotSame⟩ := linked slot key occupied
    rw [at_found] at at_same
    cases at_same
    exact distinct (slotOf.symm.trans slotSame)

theorem Listed.set {pumpList : List Nat} (listed : Listed pumpList entries)
    (at_key : entries[key]? = some entry) (same : changed.pumpPending = entry.pumpPending) :
    Listed pumpList (entries.set key changed) := by
  refine ⟨listed.nodup, fun other => (listed.marked other).trans ?_⟩
  rcases eq_or_ne other key with rfl | distinct
  · rw [getElem?_set_here at_key, at_key]
    simp [same]
  · rw [List.getElem?_set_ne distinct.symm]

theorem Listed.add {pumpList : List Nat} (listed : Listed pumpList entries)
    (at_key : entries[key]? = some entry) (unlisted : entry.pumpPending = false)
    (marks : changed.pumpPending = true) :
    Listed (pumpList ++ [key]) (entries.set key changed) := by
  have absent : key ∉ pumpList := by
    rw [listed.marked key, at_key]
    simp [unlisted]
  refine ⟨listed.nodup.append (List.nodup_singleton key) (by simpa using absent), ?_⟩
  intro other
  rw [List.mem_append, List.mem_singleton]
  rcases eq_or_ne other key with rfl | distinct
  · rw [getElem?_set_here at_key]
    simp [marks]
  · rw [List.getElem?_set_ne distinct.symm, listed.marked other]
    simp [distinct]

theorem Listed.pop {rest : List Nat} (listed : Listed (key :: rest) entries)
    (at_key : entries[key]? = some entry) (unmarks : changed.pumpPending = false) :
    Listed rest (entries.set key changed) := by
  have split := List.nodup_cons.mp listed.nodup
  refine ⟨split.2, fun other => ?_⟩
  rcases eq_or_ne other key with rfl | distinct
  · rw [getElem?_set_here at_key]
    simp [unmarks, split.1]
  · rw [List.getElem?_set_ne distinct.symm, ← listed.marked other, List.mem_cons]
    simp [distinct]

theorem Worker.Ok.shrink {worker : Worker} {after : SlotTable} (ok : worker.Ok table entries)
    (shrinks : ∀ slot other, after.slots slot = some other → table.slots slot = some other) :
    worker.Ok after entries :=
  ⟨ok.known, ok.named,
    fun result pc slot occupies => ok.loose result pc slot (shrinks _ _ occupies)⟩

theorem Worker.Ok.set {worker : Worker} {after : SlotTable} (ok : worker.Ok table entries)
    (at_key : entries[key]? = some entry) (id : changed.id = entry.id)
    (shrinks : ∀ slot other, after.slots slot = some other → table.slots slot = some other) :
    worker.Ok after (entries.set key changed) := by
  obtain ⟨⟨found, at_worker, idOf⟩, named, loose⟩ := ok
  refine ⟨?_, named, fun result pc slot occupies => loose result pc slot (shrinks _ _ occupies)⟩
  rcases eq_or_ne worker.key key with same | distinct
  · rw [same, at_key] at at_worker
    cases at_worker
    exact ⟨changed, by rw [same]; exact getElem?_set_here at_key, id.trans idOf⟩
  · exact ⟨found, by rw [List.getElem?_set_ne distinct.symm]; exact at_worker, idOf⟩

end Entries

/-! ## Acting on an entry -/

namespace State

variable {cfg : Config} {state : State} {key : Nat} {entry : Entry}

theorem Wf.table (wf : state.Wf cfg) (live : state.pc.live = true) :
    state.runtime.table.Inv cfg (state.entries.map Entry.id) :=
  ⟨wf.chronicle, wf.count live⟩

theorem focus_eq (state : State) (at_key : state.entries[key]? = some entry) (act : Act) :
    state.focus cfg key act =
      { state with
        runtime := (act.run cfg ⟨key, entry, state.runtime⟩).runtime
        entries := state.entries.set key (act.run cfg ⟨key, entry, state.runtime⟩).entry } := by
  rw [focus, at_key]

/-- An act changes the entries and the shared runtime only. -/
theorem focus_shape (cfg : Config) (key : Nat) (act : Act) (state : State) :
    ∃ runtime entries, state.focus cfg key act =
      { state with runtime := runtime, entries := entries } := by
  unfold State.focus
  split
  · exact ⟨_, _, rfl⟩
  · exact ⟨_, _, rfl⟩

@[simp]
theorem focus_commands (state : State) (key : Nat) (act : Act) :
    (state.focus cfg key act).commands = state.commands := by
  obtain ⟨_, _, same⟩ := focus_shape cfg key act state
  rw [same]

@[simp]
theorem focus_workers (state : State) (key : Nat) (act : Act) :
    (state.focus cfg key act).workers = state.workers := by
  obtain ⟨_, _, same⟩ := focus_shape cfg key act state
  rw [same]

@[simp]
theorem focus_pc (state : State) (key : Nat) (act : Act) :
    (state.focus cfg key act).pc = state.pc := by
  obtain ⟨_, _, same⟩ := focus_shape cfg key act state
  rw [same]

@[simp]
theorem focus_faults (state : State) (key : Nat) (act : Act) :
    (state.focus cfg key act).faults = state.faults := by
  obtain ⟨_, _, same⟩ := focus_shape cfg key act state
  rw [same]

@[simp]
theorem focus_polled (state : State) (key : Nat) (act : Act) :
    (state.focus cfg key act).polled = state.polled := by
  obtain ⟨_, _, same⟩ := focus_shape cfg key act state
  rw [same]

theorem Wf.replace (wf : state.Wf cfg) (at_key : state.entries[key]? = some entry)
    {changed : Entry} {runtime : Shared} (sound : changed.life.Sound) (id : changed.id = entry.id)
    (generations : runtime.table.generations = state.runtime.table.generations)
    (count : state.pc.live = true → runtime.table.entryCount = (runtime.table.occupied cfg).card)
    (linked : Linked cfg runtime.table (state.entries.set key changed))
    (listed : Listed runtime.pumpList (state.entries.set key changed))
    (idle : state.pc.consumes = false → runtime.pumpList = [])
    (shrinks : ∀ slot other, runtime.table.slots slot = some other →
      state.runtime.table.slots slot = some other) :
    Wf cfg { state with runtime := runtime, entries := state.entries.set key changed } where
  sound other found at_other := by
    rcases getElem?_set_of at_key at_other with ⟨-, rfl⟩ | ⟨-, before⟩
    · exact sound
    · exact wf.sound other found before
  chronicle := by
    rw [map_id_set at_key id]
    exact wf.chronicle.shrink generations shrinks
  count := count
  linked := linked
  listed := listed
  idle := idle
  sized := wf.sized
  workers worker member := (wf.workers worker member).set at_key id shrinks
  owners := wf.owners

/-- Where the loop or a worker must be for an act to happen. -/
def Placed (state : State) (key : Nat) : Act → Prop
  | .command _ _ => state.pc.consumes = true
  | .pump _ => False
  | .releaseScan slot => state.pc.live = false ∧ state.runtime.table.slots slot = some key
  | .freeEntry => ∀ slot, state.runtime.table.slots slot ≠ some key
  | _ => True

theorem Wf.focus (wf : state.Wf cfg) (at_key : state.entries[key]? = some entry) {act : Act}
    (enabled : act.Enabled entry.life) (placed : state.Placed key act) :
    (state.focus cfg key act).Wf cfg := by
  rw [focus_eq state at_key]
  have before := wf.sound key entry at_key
  have sound := (act.run_move cfg ⟨key, entry, state.runtime⟩ enabled before).sound enabled before
  have outcome := act.run_outcome cfg ⟨key, entry, state.runtime⟩
  revert sound outcome
  generalize act.run cfg ⟨key, entry, state.runtime⟩ = after
  intro sound outcome
  cases outcome with
  | kept pump kept =>
      have table : after.runtime.table = state.runtime.table := kept.table
      have pumpList : after.runtime.pumpList = state.runtime.pumpList := kept.pumpList
      refine wf.replace at_key sound kept.id ?_ ?_ ?_ ?_ ?_ ?_
      · rw [table]
      · rw [table]; exact wf.count
      · rw [table]; exact wf.linked.set at_key kept.id kept.freed
      · rw [pumpList]; exact wf.listed.set at_key kept.listed
      · rw [pumpList]; exact wf.idle
      · rw [table]; exact fun _ _ occupies => occupies
  | unpumped env yields => exact placed.elim
  | listed command env unlisted yields =>
      have table : after.runtime.table = state.runtime.table := yields.table
      have pumpList : after.runtime.pumpList = state.runtime.pumpList ++ [key] := yields.pumpList
      have inside : state.pc.consumes = true := placed
      refine wf.replace at_key sound yields.id ?_ ?_ ?_ ?_ ?_ ?_
      · rw [table]
      · rw [table]; exact wf.count
      · rw [table]; exact wf.linked.set at_key yields.id yields.freed
      · rw [pumpList]; exact wf.listed.add at_key unlisted yields.listed
      · simp [inside]
      · rw [table]; exact fun _ _ occupies => occupies
  | unlinked unlinks yields =>
      have table : after.runtime.table = state.runtime.table.unlink cfg key entry.id :=
        yields.table.trans (Frame.unlinkedRuntime_table _)
      have pumpList : after.runtime.pumpList = state.runtime.pumpList :=
        yields.pumpList.trans (Frame.unlinkedRuntime_pumpList _)
      refine wf.replace at_key sound yields.id ?_ ?_ ?_ ?_ ?_ ?_
      · rw [table, SlotTable.unlink_generations]
      · rw [table]; exact fun live => ((wf.table live).unlink key entry.id).count
      · rw [table]; exact wf.linked.unlink at_key
      · rw [pumpList]; exact wf.listed.set at_key yields.listed
      · rw [pumpList]; exact wf.idle
      · rw [table]; exact fun _ _ occupies => (SlotTable.slots_of_unlink occupies).1
  | cleared slot yields =>
      obtain ⟨releasing, occupied⟩ := placed
      have table : after.runtime.table = { state.runtime.table with
          slots := Function.update state.runtime.table.slots slot none } := yields.table
      have pumpList : after.runtime.pumpList = state.runtime.pumpList := yields.pumpList
      refine wf.replace at_key sound yields.id ?_ ?_ ?_ ?_ ?_ ?_
      · rw [table]
      · simp [releasing]
      · rw [table]; exact wf.linked.clear occupied
      · rw [pumpList]; exact wf.listed.set at_key yields.listed
      · rw [pumpList]; exact wf.idle
      · intro place other occupies
        rw [table] at occupies
        exact (vacated occupies).2
  | freed yields =>
      have table : after.runtime.table = state.runtime.table := yields.table
      have pumpList : after.runtime.pumpList = state.runtime.pumpList := yields.pumpList
      refine wf.replace at_key sound yields.id ?_ ?_ ?_ ?_ ?_ ?_
      · rw [table]
      · rw [table]; exact wf.count
      · rw [table]; exact wf.linked.set_loose placed
      · rw [pumpList]; exact wf.listed.set at_key yields.listed
      · rw [pumpList]; exact wf.idle
      · rw [table]; exact fun _ _ occupies => occupies

/-- One round of the pump loop, with its entry already off the list. -/
theorem Wf.pumpStep (wf : state.Wf cfg) (inside : state.pc.consumes = true) {rest : List Nat}
    (head : state.runtime.pumpList = key :: rest) (env : Env) :
    (state.pumpStep cfg env key rest).Wf cfg := by
  obtain ⟨entry, at_key, marked⟩ := (wf.listed.marked key).mp (by simp [head])
  have before := wf.sound key entry at_key
  let popped : Shared := { state.runtime with pumpList := rest }
  have sound := ((Act.pump env).run_move cfg ⟨key, entry, popped⟩ marked before).sound marked before
  have outcome := (Act.pump env).run_outcome cfg ⟨key, entry, popped⟩
  rw [State.pumpStep, focus_eq { state with runtime := popped } at_key]
  revert sound outcome
  generalize (Act.pump env).run cfg ⟨key, entry, popped⟩ = after
  intro sound outcome
  cases outcome with
  | kept pump kept => exact absurd rfl (pump env)
  | unpumped env yields =>
      have table : after.runtime.table = state.runtime.table := yields.table
      have pumpList : after.runtime.pumpList = rest := yields.pumpList
      refine wf.replace at_key sound yields.id ?_ ?_ ?_ ?_ ?_ ?_
      · rw [table]
      · rw [table]; exact wf.count
      · rw [table]; exact wf.linked.set at_key yields.id yields.freed
      · rw [pumpList]; exact (head ▸ wf.listed).pop at_key yields.listed
      · simp [inside]
      · rw [table]; exact fun _ _ occupies => occupies
  | unlinked unlinks yields => simp at unlinks

/-! ## Everything else -/

/-- A step that leaves the entries, the table and the pump list alone. -/
theorem Wf.same {next : State} (wf : state.Wf cfg) (entries : next.entries = state.entries)
    (table : next.runtime.table = state.runtime.table)
    (pumpList : next.runtime.pumpList = state.runtime.pumpList)
    (workers : next.workers = state.workers)
    (sized : ∀ command ∈ next.commands, command ∈ state.commands ∨ command.Sized)
    (live : next.pc.live = true → state.pc.live = true)
    (idle : next.pc.consumes = false → state.pc.consumes = false ∨ next.runtime.pumpList = []) :
    next.Wf cfg where
  sound := by rw [entries]; exact wf.sound
  chronicle := by rw [table, entries]; exact wf.chronicle
  count isLive := by rw [table]; exact wf.count (live isLive)
  linked := by rw [table, entries]; exact wf.linked
  listed := by rw [pumpList, entries]; exact wf.listed
  idle outside := by
    rcases idle outside with before | empty
    · rw [pumpList]; exact wf.idle before
    · exact empty
  sized command member := (sized command member).elim (wf.sized command) id
  workers := by rw [workers, table, entries]; exact wf.workers
  owners := by rw [workers]; exact wf.owners

/-- A worker moves on without touching anything that is shared. -/
theorem Wf.setWorker {index : Nat} {worker : Worker} {pc : WorkerPc} (wf : state.Wf cfg)
    (at_index : state.workers[index]? = some worker)
    (named : ∀ command, pc = .built command →
      command = ⟨worker.reservedId, worker.opaqueVal, worker.call.body⟩)
    (loose : ∀ result, pc = .unlinked result →
      ∀ slot, state.runtime.table.slots slot ≠ some worker.key) :
    (state.setWorker index worker pc).Wf cfg := by
  have member := List.mem_of_getElem? at_index
  refine ⟨wf.sound, wf.chronicle, wf.count, wf.linked, wf.listed, wf.idle, wf.sized, ?_, ?_⟩
  · intro other here
    rcases List.mem_or_eq_of_mem_set here with before | rfl
    · exact wf.workers other before
    · exact ⟨(wf.workers worker member).known, named, loose⟩
  · have keys : (state.workers.set index { worker with pc := pc }).map Worker.key =
        state.workers.map Worker.key := by
      apply List.ext_getElem?
      intro other
      rw [List.getElem?_map, List.getElem?_map]
      rcases eq_or_ne other index with rfl | distinct
      · rw [List.getElem?_set_self (List.getElem?_eq_some_iff.mp at_index).1, at_index]
        rfl
      · rw [List.getElem?_set_ne distinct.symm]
    exact keys ▸ wf.owners

/-! ## Reservations -/

/-- The id of the next reservation of a slot. -/
def nextId (cfg : Config) (slot : Nat) (state : State) : Int :=
  idMake cfg slot (idNextGeneration (state.runtime.table.generations slot))

/-- The state after a successful `reserve_entry`. -/
def reserved (cfg : Config) (opaqueVal slot cursor : Nat) (state : State) : State :=
  { state with
    runtime := { state.runtime with
      table := state.runtime.table.install state.entries.length slot cursor }
    entries := state.entries ++ [Entry.fresh (state.nextId cfg slot) opaqueVal] }

/-- A slot is free, and there is memory for an entry. -/
def Reserves (cfg : Config) (env : Env) (state : State) : Prop :=
  (∃ slot < cfg.slotCount, state.runtime.table.slots slot = none) ∧ env.node = true

theorem reserveEntry_cases (cfg : Config) (env : Env) (opaqueVal : Nat) (state : State) :
    (∃ cursor, state.reserveEntry cfg env opaqueVal = (none, { state with
      runtime := { state.runtime with
        table := { state.runtime.table with nextSlot := cursor } } }) ∧
      ¬ state.Reserves cfg env) ∨
    (∃ slot cursor, slot < cfg.slotCount ∧ state.runtime.table.slots slot = none ∧
      env.node = true ∧ state.reserveEntry cfg env opaqueVal =
        (some (state.nextId cfg slot), state.reserved cfg opaqueVal slot cursor)) := by
  rcases SlotTable.reserve_cases cfg env.node state.entries.length state.runtime.table with
    ⟨cursor, result⟩ | ⟨slot, cursor, slotBound, free, alloc, result⟩
  · refine .inl ⟨cursor, by simp [reserveEntry, result], ?_⟩
    rintro ⟨⟨slot, slotBound, free⟩, alloc⟩
    rw [alloc] at result
    exact (SlotTable.reserve_none_iff cfg _ _).mp (by rw [result]) slot slotBound free
  · exact .inr ⟨slot, cursor, slotBound, free, alloc, by
      simp [reserveEntry, result, reserved, nextId]⟩

theorem reserveEntry_none_iff (cfg : Config) (env : Env) (opaqueVal : Nat) (state : State) :
    (state.reserveEntry cfg env opaqueVal).1 = none ↔ ¬ state.Reserves cfg env := by
  rcases state.reserveEntry_cases cfg env opaqueVal with
    ⟨cursor, result, full⟩ | ⟨slot, cursor, slotBound, free, alloc, result⟩
  · simp [result, full]
  · have reserves : state.Reserves cfg env := ⟨⟨slot, slotBound, free⟩, alloc⟩
    simp [result, reserves]

end State

theorem Entry.fresh_sound (id : Int) (opaqueVal : Nat) : (Entry.fresh id opaqueVal).life.Sound := by
  constructor
  · constructor <;> simp [Entry.life, Entry.fresh, Life.Quiet, Life.Streamed]
  · simp [Entry.life, Entry.fresh]

namespace State

variable {cfg : Config} {state : State} {key : Nat} {entry : Entry}

theorem Wf.cursor (wf : state.Wf cfg) (cursor : Nat) : Wf cfg { state with
    runtime := { state.runtime with
      table := { state.runtime.table with nextSlot := cursor } } } :=
  ⟨wf.sound, wf.chronicle.shrink rfl fun _ _ occupies => occupies, wf.count, wf.linked, wf.listed,
    wf.idle, wf.sized, fun worker member => (wf.workers worker member).shrink
      fun _ _ occupies => occupies, wf.owners⟩

theorem Wf.reserved (wf : state.Wf cfg) (opaqueVal cursor : Nat) {slot : Nat}
    (slotBound : slot < cfg.slotCount) (free : state.runtime.table.slots slot = none) :
    (state.reserved cfg opaqueVal slot cursor).Wf cfg := by
  have here : idSlot cfg (state.nextId cfg slot) = slot :=
    SlotTable.idSlot_nextId wf.chronicle slotBound
  have inside : ∀ {other : Nat} {found : Entry}, state.entries[other]? = some found →
      other ≠ state.entries.length := by
    intro other found at_other
    exact Nat.ne_of_lt (List.getElem?_eq_some_iff.mp at_other).1
  refine ⟨?_, ?_, ?_, ?_, ?_, wf.idle, wf.sized, ?_, wf.owners⟩
  · intro other found at_other
    rcases getElem?_append_of at_other with before | ⟨-, rfl⟩
    · exact wf.sound other found before
    · exact Entry.fresh_sound _ _
  · have installed := wf.chronicle.install cursor slotBound
    rw [List.length_map] at installed
    rw [State.reserved, List.map_append, List.map_singleton]
    exact installed
  · intro live
    have installed := (wf.table live).install cursor slotBound free
    rw [List.length_map] at installed
    exact installed.count
  · intro place other occupies
    rcases eq_or_ne place slot with rfl | distinct
    · have isNew : state.entries.length = other := by
        simpa [State.reserved, SlotTable.install] using occupies
      refine ⟨slotBound, Entry.fresh (state.nextId cfg place) opaqueVal, ?_, rfl, here⟩
      rw [← isNew]
      exact List.getElem?_concat_length
    · have before : state.runtime.table.slots place = some other := by
        simpa [State.reserved, SlotTable.install, distinct] using occupies
      obtain ⟨bound, found, at_other, alive, slotOf⟩ := wf.linked place other before
      exact ⟨bound, found, getElem?_append_kept at_other, alive, slotOf⟩
  · refine ⟨wf.listed.nodup, fun other => (wf.listed.marked other).trans ?_⟩
    constructor
    · rintro ⟨found, at_other, marked⟩
      exact ⟨found, getElem?_append_kept at_other, marked⟩
    · rintro ⟨found, at_other, marked⟩
      rcases getElem?_append_of at_other with before | ⟨-, rfl⟩
      · exact ⟨found, before, marked⟩
      · simp [Entry.fresh] at marked
  · intro worker member
    obtain ⟨⟨found, at_worker, idOf⟩, named, loose⟩ := wf.workers worker member
    refine ⟨⟨found, getElem?_append_kept at_worker, idOf⟩, named,
      fun result pc place occupies => ?_⟩
    rcases eq_or_ne place slot with rfl | distinct
    · have isNew : state.entries.length = worker.key := by
        simpa [State.reserved, SlotTable.install] using occupies
      exact inside at_worker isNew.symm
    · refine loose result pc place ?_
      simpa [State.reserved, SlotTable.install, distinct] using occupies

/-- What an id-allocating call does up to the return of `reserve_entry`. -/
inductive Opened (cfg : Config) (state : State) (call : OpenCall) (opaqueVal : Nat) : State → Prop
  | failed (cursor : Nat) :
      Opened cfg state call opaqueVal { state with
        runtime := { state.runtime with
          table := { state.runtime.table with nextSlot := cursor } } }
  | reserved (slot cursor : Nat) (pc : WorkerPc) (slotBound : slot < cfg.slotCount)
      (free : state.runtime.table.slots slot = none) (valid : call.check cfg = .ok)
      (early : pc = .reserved ∨ pc = .checked) :
      Opened cfg state call opaqueVal { state.reserved cfg opaqueVal slot cursor with
        workers := state.workers ++
          [⟨call, opaqueVal, state.entries.length, state.nextId cfg slot, pc⟩] }

theorem openCall_opened (cfg : Config) (call : OpenCall) (opaqueVal : Nat) (env : Env)
    (state : State) : state.Opened cfg call opaqueVal (state.openCall cfg call opaqueVal env) := by
  unfold State.openCall
  split
  · exact .failed state.runtime.table.nextSlot
  · rename_i valid
    rcases state.reserveEntry_cases cfg env opaqueVal with
      ⟨cursor, result, -⟩ | ⟨slot, cursor, slotBound, free, -, result⟩
    · rw [result]
      exact .failed cursor
    · rw [result]
      have length : (state.reserved cfg opaqueVal slot cursor).entries.length - 1 =
          state.entries.length := by simp [State.reserved]
      dsimp only
      rw [length]
      refine .reserved slot cursor _ slotBound free (not_not.mp valid) ?_
      cases call <;> simp

theorem reserved_last (state : State) (cfg : Config) (opaqueVal slot cursor : Nat) :
    (state.reserved cfg opaqueVal slot cursor).entries[state.entries.length]? =
      some (Entry.fresh (state.nextId cfg slot) opaqueVal) :=
  List.getElem?_concat_length

theorem Opened.wf {call : OpenCall} {opaqueVal : Nat} {next : State}
    (opened : state.Opened cfg call opaqueVal next) (wf : state.Wf cfg) : next.Wf cfg := by
  cases opened with
  | failed cursor => exact wf.cursor cursor
  | reserved slot cursor pc slotBound free valid early =>
      have reserved := wf.reserved opaqueVal cursor slotBound free
      refine ⟨reserved.sound, reserved.chronicle, reserved.count, reserved.linked, reserved.listed,
        reserved.idle, reserved.sized, ?_, ?_⟩
      · intro worker member
        rcases List.mem_append.mp member with before | added
        · exact reserved.workers worker before
        · rw [List.mem_singleton.mp added]
          refine ⟨⟨_, state.reserved_last cfg opaqueVal slot cursor, rfl⟩, ?_, ?_⟩
          all_goals rcases early with rfl | rfl <;> simp
      · rw [List.map_append, List.map_singleton]
        refine wf.owners.append (List.nodup_singleton _) ?_
        rw [List.disjoint_singleton]
        intro taken
        obtain ⟨worker, member, same⟩ := List.mem_map.mp taken
        obtain ⟨found, at_worker, -⟩ := (wf.workers worker member).known
        exact Nat.ne_of_lt (List.getElem?_eq_some_iff.mp at_worker).1 same

/-! ## Worker steps -/

/-- The critical section of `discard_uninitialized_entry`. -/
theorem Wf.unlink (wf : state.Wf cfg) (key : Nat) (id : Int) : Wf cfg { state with
    runtime := { state.runtime with table := state.runtime.table.unlink cfg key id } } := by
  have shrinks : ∀ slot other, (state.runtime.table.unlink cfg key id).slots slot = some other →
      state.runtime.table.slots slot = some other :=
    fun _ _ occupies => (SlotTable.slots_of_unlink occupies).1
  refine ⟨wf.sound, wf.chronicle.shrink (SlotTable.unlink_generations key id) shrinks,
    fun live => ((wf.table live).unlink key id).count, wf.linked.shrink shrinks, wf.listed, wf.idle,
    wf.sized, fun worker member => (wf.workers worker member).shrink shrinks, wf.owners⟩

theorem Wf.fault (wf : state.Wf cfg) (fault : Fault) :
    Wf cfg { state with faults := state.faults ++ [fault] } :=
  ⟨wf.sound, wf.chronicle, wf.count, wf.linked, wf.listed, wf.idle, wf.sized, wf.workers, wf.owners⟩

/-- What a worker's access to its entry leads to. -/
theorem access_cases {fault : Fault} {next : Entry → State} {after : State}
    (run : state.access key fault next = some after) :
    ∃ entry, state.entries[key]? = some entry ∧
      ((entry.freed = true ∧ after = { state with faults := state.faults ++ [fault] }) ∨
        (entry.freed = false ∧ after = next entry)) := by
  obtain ⟨entry, at_key, result⟩ := Option.map_eq_some_iff.mp run
  refine ⟨entry, at_key, ?_⟩
  split at result
  · rename_i freed
    exact .inl ⟨freed, result.symm⟩
  · rename_i alive
    exact .inr ⟨by simpa using alive, result.symm⟩

/-- A command joins the queue. -/
theorem Wf.append (wf : state.Wf cfg) {command : Command} (sized : command.Sized) :
    Wf cfg { state with commands := state.commands ++ [command] } := by
  refine wf.same rfl rfl rfl rfl (fun other member => ?_) id (fun outside => .inl outside)
  rcases List.mem_append.mp member with before | added
  · exact .inl before
  · exact .inr (List.mem_singleton.mp added ▸ sized)

end State

theorem OpenCall.body_sized (call : OpenCall) (id : Int) (opaqueVal : Nat) :
    Command.Sized ⟨id, opaqueVal, call.body⟩ := by
  intro payload send
  cases call <;> simp [OpenCall.body] at send

/-- The call will still look at the entry it reserved. -/
def WorkerPc.uses : WorkerPc → Bool
  | .freed _ | .deciding _ _ | .done _ _ => false
  | _ => true

namespace State

variable {cfg : Config} {state : State} {key : Nat} {entry : Entry}

/-- Steps of a call that change nothing but its own progress. -/
inductive Progress (cfg : Config) (state : State) (worker : Worker) : WorkerPc → Prop
  | skipped (pc : worker.pc = .reserved) (other : ∀ fd, worker.call ≠ .bind fd) :
      Progress cfg state worker .checked
  | taken (fd : Int) (pc : worker.pc = .reserved) (call : worker.call = .bind fd)
      (taken : state.fdTaken cfg worker.key fd = true) :
      Progress cfg state worker (.discarding .invalidState)
  | built (entry : Entry) (pc : worker.pc = .checked)
      (at_key : state.entries[worker.key]? = some entry) (alive : entry.freed = false) :
      Progress cfg state worker (.built ⟨entry.id, worker.opaqueVal, worker.call.body⟩)
  | unbuilt (pc : worker.pc = .checked) : Progress cfg state worker (.discarding .outOfMemory)
  | stopped (command : Command) (pc : worker.pc = .built command)
      (stopped : state.accepting = false) : Progress cfg state worker (.discarding .invalidState)
  | returned (entry : Entry) (pc : worker.pc = .submitted)
      (at_key : state.entries[worker.key]? = some entry) (alive : entry.freed = false) :
      Progress cfg state worker (.done .ok (some entry.id))
  | counted (result : Status) (pc : worker.pc = .freed result) :
      Progress cfg state worker (.deciding result
        (state.runtime.exiting && state.runtime.table.entryCount == 0))
  | ended (result : Status) (pc : worker.pc = .deciding result false) :
      Progress cfg state worker (.done result none)

/-- What the next step of an id-allocating call can be. -/
inductive Worked (cfg : Config) (state : State) (index : Nat) (worker : Worker) : State → Prop
  | progressed {pc : WorkerPc} (progress : state.Progress cfg worker pc) :
      Worked cfg state index worker (state.setWorker index worker pc)
  | faulted (fault : Fault) (entry : Entry) (uses : worker.pc.uses = true)
      (at_key : state.entries[worker.key]? = some entry)
      (bad : entry.freed = true ∨
        (entry.initialized = true ∧ ∃ result, worker.pc = .unlinked result)) :
      Worked cfg state index worker { state with faults := state.faults ++ [fault] }
  | tagged (fd : Int) (entry : Entry) (pc : worker.pc = .reserved) (call : worker.call = .bind fd)
      (free : state.fdTaken cfg worker.key fd = false)
      (at_key : state.entries[worker.key]? = some entry) (alive : entry.freed = false) :
      Worked cfg state index worker
        ((state.focus cfg worker.key (.setExternalFd fd)).setWorker index worker .checked)
  | submitted (command : Command) (pc : worker.pc = .built command)
      (accepting : state.accepting = true) :
      Worked cfg state index worker
        ({ state with commands := state.commands ++ [command] }.setWorker index worker .submitted)
  | unlinked (result : Status) (entry : Entry) (pc : worker.pc = .discarding result)
      (at_key : state.entries[worker.key]? = some entry) (alive : entry.freed = false) :
      Worked cfg state index worker
        ({ state with
          runtime := { state.runtime with
            table := state.runtime.table.unlink cfg worker.key entry.id } }.setWorker
          index worker (.unlinked result))
  | freed (result : Status) (entry : Entry) (pc : worker.pc = .unlinked result)
      (at_key : state.entries[worker.key]? = some entry) (alive : entry.freed = false)
      (bare : entry.initialized = false) :
      Worked cfg state index worker
        ((state.focus cfg worker.key .freeEntry).setWorker index worker (.freed result))
  | decided (result : Status) (pc : worker.pc = .deciding result true) :
      Worked cfg state index worker
        ({ state with runtime := { state.runtime with exitReady := true } }.setWorker
          index worker (.done result none))

theorem workerStep_worked {index : Nat} {worker : Worker} {env : Env} {next : State}
    (run : state.workerStep cfg index worker env = some next) :
    state.Worked cfg index worker next := by
  unfold State.workerStep at run
  cases pc : worker.pc with
  | reserved =>
      rw [pc] at run
      dsimp only at run
      split at run
      · rename_i fd call
        split at run
        · rename_i taken
          cases run
          exact .progressed (.taken fd pc call taken)
        · rename_i free
          obtain ⟨entry, at_key, ⟨freed, rfl⟩ | ⟨alive, rfl⟩⟩ := access_cases run
          · exact .faulted _ entry (by rw [pc]; rfl) at_key (.inl freed)
          · exact .tagged fd entry pc call (by simpa using free) at_key alive
      · rename_i other
        cases run
        exact .progressed (.skipped pc other)
  | checked =>
      rw [pc] at run
      dsimp only at run
      split at run
      · obtain ⟨entry, at_key, ⟨freed, rfl⟩ | ⟨alive, rfl⟩⟩ := access_cases run
        · exact .faulted _ entry (by rw [pc]; rfl) at_key (.inl freed)
        · exact .progressed (.built entry pc at_key alive)
      · cases run
        exact .progressed (.unbuilt pc)
  | built command =>
      rw [pc] at run
      by_cases accepting : state.accepting = true
      · simp only [State.push, if_pos accepting] at run
        cases run
        exact .submitted command pc accepting
      · simp only [State.push, if_neg accepting] at run
        cases run
        exact .progressed (.stopped command pc (by simpa using accepting))
  | submitted =>
      rw [pc] at run
      obtain ⟨entry, at_key, ⟨freed, rfl⟩ | ⟨alive, rfl⟩⟩ := access_cases run
      · exact .faulted _ entry (by rw [pc]; rfl) at_key (.inl freed)
      · exact .progressed (.returned entry pc at_key alive)
  | discarding result =>
      rw [pc] at run
      obtain ⟨entry, at_key, ⟨freed, rfl⟩ | ⟨alive, rfl⟩⟩ := access_cases run
      · exact .faulted _ entry (by rw [pc]; rfl) at_key (.inl freed)
      · exact .unlinked result entry pc at_key alive
  | unlinked result =>
      rw [pc] at run
      obtain ⟨entry, at_key, ⟨freed, rfl⟩ | ⟨alive, rfl⟩⟩ := access_cases run
      · exact .faulted _ entry (by rw [pc]; rfl) at_key (.inl freed)
      · split
        · rename_i opened
          exact .faulted _ entry (by rw [pc]; rfl) at_key (.inr ⟨opened, result, pc⟩)
        · rename_i bare
          exact .freed result entry pc at_key alive (by simpa using bare)
  | freed result =>
      rw [pc] at run
      cases run
      exact .progressed (.counted result pc)
  | deciding result ready =>
      rw [pc] at run
      cases ready with
      | false =>
          cases run
          exact .progressed (.ended result pc)
      | true =>
          cases run
          exact .decided result pc
  | done result id =>
      rw [pc] at run
      cases run

theorem Worked.wf {index : Nat} {worker : Worker} {next : State}
    (worked : state.Worked cfg index worker next) (wf : state.Wf cfg)
    (at_index : state.workers[index]? = some worker) : next.Wf cfg := by
  have ok := wf.workers worker (List.mem_of_getElem? at_index)
  have kept {act : Act} {entry : Entry} (at_key : state.entries[worker.key]? = some entry) :
      (state.focus cfg worker.key act).workers[index]? = some worker := by
    rw [focus_eq state at_key]
    exact at_index
  cases worked with
  | progressed progress =>
      refine wf.setWorker at_index ?_ ?_
      · cases progress with
        | built entry pc at_key alive =>
            obtain ⟨known, at_known, idOf⟩ := ok.known
            rw [at_key] at at_known
            cases at_known
            rintro command ⟨⟩
            rw [idOf]
        | _ => simp
      · cases progress <;> simp
  | faulted fault => exact wf.fault fault
  | tagged fd entry pc call free at_key alive =>
      have tagged : (state.focus cfg worker.key (.setExternalFd fd)).Wf cfg :=
        wf.focus at_key alive trivial
      exact tagged.setWorker (kept at_key) (by simp) (by simp)
  | submitted command pc accepting =>
      have sized : command.Sized := by
        rw [ok.named command pc]
        exact worker.call.body_sized _ _
      exact (wf.append sized).setWorker at_index (by simp) (by simp)
  | unlinked result entry pc at_key alive =>
      exact (wf.unlink worker.key entry.id).setWorker at_index (by simp)
        fun _ _ => wf.linked.loose at_key
  | freed result entry pc at_key alive bare =>
      have freed : (state.focus cfg worker.key .freeEntry).Wf cfg :=
        wf.focus at_key ⟨alive, bare⟩ (ok.loose result pc)
      exact freed.setWorker (kept at_key) (by simp) (by simp)
  | decided result pc =>
      refine Wf.setWorker (wf.same ?_ ?_ ?_ ?_ ?_ ?_ ?_) at_index (by simp) (by simp)
      all_goals first | rfl | exact fun _ member => .inl member | exact id | exact .inl

end State

end Skyuv.Socket
