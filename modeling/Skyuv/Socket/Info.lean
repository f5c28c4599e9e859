import Mathlib.Algebra.Order.BigOperators.Group.List
import Skyuv.Socket.Steps

/-!
# Snapshots and pending bytes

`skyuv_socket_runtime_info` copies one record for every entry in the table that
is past its set-up.  It reads `queued_bytes` and `writing`, which three handlers
change; here they are compared with the buffers that really are pending.
-/

set_option autoImplicit false

namespace Skyuv.Socket

open TransitionSystem

/-! ## The snapshot -/

inductive InfoType where
  | listen
  | tcp
  | udp
  | closing
  deriving DecidableEq, Repr

structure SocketInfo where
  id : Int
  type : InfoType
  opaqueVal : Nat
  read : Nat
  write : Nat
  rtime : Nat
  wtime : Nat
  wbuffer : Nat
  reading : Bool
  writing : Bool
  name : String
  deriving DecidableEq

/-- The states that `skyuv_socket_runtime_info` does not skip. -/
def SocketState.shown : SocketState → Bool
  | .listening | .connected | .connectedPaused | .halfcloseRead | .udp | .closing => true
  | _ => false

def Entry.infoType (entry : Entry) : InfoType :=
  if entry.state = .listening then .listen
  else if entry.state = .udp then .udp
  else if entry.closeRequested || entry.state = .halfcloseRead || entry.state = .closing then
    .closing
  else .tcp

def Entry.info (entry : Entry) : SocketInfo where
  id := entry.id
  type := entry.infoType
  opaqueVal := entry.opaqueVal
  read := if entry.state = .listening then entry.acceptCount else entry.readBytes
  write := entry.writeBytes
  rtime := entry.readTime
  wtime := entry.writeTime
  wbuffer := entry.queuedBytes
  reading := entry.reading
  writing := entry.writing || decide (entry.queuedBytes > 0)
  name := entry.name

namespace State

/-- The loop of `skyuv_socket_runtime_info` over the slots still to be visited;
`alloc` tells for each slot whether `calloc` finds memory for its record. -/
def infoLoop (alloc : Nat → Bool) (state : State) : List Nat → List SocketInfo
  | [] => []
  | slot :: rest =>
      match (state.runtime.table.slots slot).bind (state.entries[·]?) with
      | none => infoLoop alloc state rest
      | some entry =>
          if entry.state.shown then
            if alloc slot then entry.info :: infoLoop alloc state rest else []
          else infoLoop alloc state rest

def info (cfg : Config) (alloc : Nat → Bool) (state : State) : List SocketInfo :=
  state.infoLoop alloc (List.range cfg.slotCount)

variable {cfg : Config} {state : State} {alloc : Nat → Bool} {info : SocketInfo}

/-- The entry is in the slot table. -/
def InTable (key : Nat) (entry : Entry) (state : State) : Prop :=
  state.entries[key]? = some entry ∧ ∃ slot, state.runtime.table.slots slot = some key

theorem infoLoop_shown {slots : List Nat} (found : info ∈ state.infoLoop alloc slots) :
    ∃ key entry, state.InTable key entry ∧ entry.state.shown = true ∧ info = entry.info := by
  induction slots with
  | nil => simp [infoLoop] at found
  | cons slot rest ih =>
      rw [infoLoop] at found
      split at found
      · exact ih found
      · rename_i entry at_slot
        obtain ⟨key, here, at_key⟩ := Option.bind_eq_some_iff.mp at_slot
        split at found
        · rename_i shown
          split at found
          · rcases List.mem_cons.mp found with rfl | later
            · exact ⟨key, entry, ⟨at_key, slot, here⟩, shown, rfl⟩
            · exact ih later
          · simp at found
        · exact ih found

/-- Every record of a snapshot is that of an entry in the table. -/
theorem mem_info (found : info ∈ state.info cfg alloc) :
    ∃ key entry, state.InTable key entry ∧ entry.state.shown = true ∧ info = entry.info :=
  infoLoop_shown found

theorem Wf.alive_of_inTable {key : Nat} {entry : Entry} (wf : state.Wf cfg)
    (inTable : state.InTable key entry) : entry.freed = false := by
  obtain ⟨at_key, slot, here⟩ := inTable
  obtain ⟨-, found, at_found, alive, -⟩ := wf.linked slot key here
  cases at_key.symm.trans at_found
  exact alive

end State

/-! ## Subtractions from the counter -/

/-- The buffers that the runtime still has to write. -/
def Entry.pending (entry : Entry) : List Buffer := entry.high ++ entry.low ++ entry.uvWrites

namespace Frame

/-- What `pump_write` subtracts when `uv_write` fails, with the value of
`queued_bytes` it is subtracted from. -/
def pumpSubtracts (env : Env) (frame : Frame) : List (Nat × Nat) :=
  if frame.entry.writing || decide (env.uv .write = 0) then []
  else
    match frame.entry.high, frame.entry.low with
    | buffer :: _, _ => [(frame.entry.queuedBytes, buffer.size)]
    | [], buffer :: _ => [(frame.entry.queuedBytes, buffer.size)]
    | [], [] => []

/-- The subtraction of `write_completed`, and that of the `pump_write` after it. -/
def completionSubtracts (env : Env) (status : Int) (frame : Frame) : List (Nat × Nat) :=
  match frame.entry.uvWrites with
  | [] => []
  | buffer :: rest =>
      let frame := frame.modify fun entry => { entry with uvWrites := rest }
      let frame := (frame.note [.completed buffer status]).writeFailed env status
      let after := (frame.accountWrite buffer).writeRecovered env
      (frame.entry.queuedBytes, buffer.size) ::
        if after.entry.closeRequested || after.entry.state = .closing then []
        else after.pumpSubtracts env

end Frame

/-- Every subtraction from `queued_bytes` that an act performs, as the value
before it and the amount. -/
def Act.subtracts : Act → Frame → List (Nat × Nat)
  | .writeCompleted status env, frame => frame.completionSubtracts env status
  | .pump env, frame => if frame.entry.state ≠ .closing then frame.pumpSubtracts env else []
  | _, _ => []

namespace Frame

variable {env : Env} {frame : Frame}

@[simp]
theorem writeFailed_queuedBytes (env : Env) (status : Int) (frame : Frame) :
    (frame.writeFailed env status).entry.queuedBytes = frame.entry.queuedBytes := by
  simp only [writeFailed, finishEntry]
  split_ifs <;> rfl

@[simp]
theorem writeFailed_queues (env : Env) (status : Int) (frame : Frame) :
    (frame.writeFailed env status).entry.high = frame.entry.high ∧
      (frame.writeFailed env status).entry.low = frame.entry.low := by
  simp only [writeFailed, finishEntry]
  split_ifs <;> exact ⟨rfl, rfl⟩

theorem writeRecovered_counters (env : Env) (frame : Frame) :
    (frame.writeRecovered env).entry.queuedBytes = frame.entry.queuedBytes ∧
      (frame.writeRecovered env).entry.high = frame.entry.high ∧
      (frame.writeRecovered env).entry.low = frame.entry.low := by
  rw [writeRecovered]
  split <;> exact ⟨rfl, rfl, rfl⟩

/-- `pump_write` never subtracts more than the counter holds when that covers
the two lists. -/
theorem pumpSubtracts_le
    (covered : Life.totalSize frame.entry.high + Life.totalSize frame.entry.low ≤
      frame.entry.queuedBytes) :
    ∀ pair ∈ frame.pumpSubtracts env, pair.2 ≤ pair.1 := by
  intro pair found
  rw [pumpSubtracts] at found
  split at found
  · simp at found
  · split at found
    · rename_i buffer rest high
      rw [high, Life.totalSize_cons] at covered
      cases List.mem_singleton.mp found
      show buffer.size ≤ frame.entry.queuedBytes
      omega
    · rename_i buffer rest high low
      rw [high, low, Life.totalSize_cons] at covered
      cases List.mem_singleton.mp found
      show buffer.size ≤ frame.entry.queuedBytes
      omega
    · simp at found

theorem completionSubtracts_le {status : Int}
    (bytes : frame.entry.queuedBytes = Life.totalSize frame.entry.high +
      Life.totalSize frame.entry.low + Life.totalSize frame.entry.uvWrites) :
    ∀ pair ∈ frame.completionSubtracts env status, pair.2 ≤ pair.1 := by
  intro pair found
  rw [completionSubtracts] at found
  split at found
  · simp at found
  · rename_i buffer rest inFlight
    rw [inFlight, Life.totalSize_cons] at bytes
    rcases List.mem_cons.mp found with rfl | later
    · show buffer.size ≤ (writeFailed env status _).entry.queuedBytes
      rw [writeFailed_queuedBytes]
      show buffer.size ≤ frame.entry.queuedBytes
      omega
    · split at later
      · simp at later
      · -- The completed buffer has left the counter; the two lists are still in it.
        refine pumpSubtracts_le ?_ pair later
        obtain ⟨sameBytes, sameHigh, sameLow⟩ := writeRecovered_counters env
          (accountWrite buffer (writeFailed env status
            ((frame.modify fun entry => { entry with uvWrites := rest }).note
              [.completed buffer status])))
        rw [sameBytes, sameHigh, sameLow]
        simp only [accountWrite, releaseWrite, modify_entry, writeFailed_queues,
          writeFailed_queuedBytes, note]
        omega

end Frame

theorem Act.subtracts_le {act : Act} {frame : Frame} (sound : frame.entry.life.Sound)
    (alive : frame.entry.freed = false) : ∀ pair ∈ act.subtracts frame, pair.2 ≤ pair.1 := by
  have bytes := sound.bytes alive
  simp only [Entry.life] at bytes
  intro pair found
  cases act with
  | writeCompleted status env => exact Frame.completionSubtracts_le bytes pair found
  | pump env =>
      rw [Act.subtracts] at found
      split at found
      · exact Frame.pumpSubtracts_le (by omega) pair found
      · simp at found
  | _ => simp [Act.subtracts] at found

/-! ## The counter and the pending buffers -/

theorem Life.Sound.idle_iff {entry : Entry} (sound : entry.life.Sound)
    (alive : entry.freed = false) : entry.queuedBytes = 0 ↔ entry.pending = [] := by
  have bytes := sound.bytes alive
  simp only [Entry.life] at bytes
  constructor
  · intro empty
    rw [List.eq_nil_iff_forall_not_mem]
    intro buffer found
    simp only [Entry.pending, List.mem_append, or_assoc] at found
    have positive : 0 < buffer.size := sound.positive buffer found
    have within : buffer.size ≤ Life.totalSize entry.pending := by
      rw [Life.totalSize]
      exact List.single_le_sum (by simp) _
        (List.mem_map_of_mem (by simpa [Entry.pending, or_assoc] using found))
    simp only [Entry.pending, Life.totalSize_append] at within
    omega
  · intro none
    simp only [Entry.pending, List.append_eq_nil_iff] at none
    simp [bytes, none.1.1, none.1.2, none.2]

theorem Life.Sound.counts_pending {entry : Entry} (sound : entry.life.Sound)
    (alive : entry.freed = false) : entry.queuedBytes = Life.totalSize entry.pending := by
  have bytes := sound.bytes alive
  simp only [Entry.life] at bytes
  simp only [Entry.pending, Life.totalSize_append, bytes]

/-- A write in flight is counted, so the snapshot shows it as pending. -/
theorem Life.Sound.info_writing {entry : Entry} (sound : entry.life.Sound)
    (alive : entry.freed = false) : entry.info.writing = true ↔ 0 < entry.info.wbuffer := by
  simp only [Entry.info, Bool.or_eq_true, decide_eq_true_eq]
  constructor
  · rintro (writing | queued)
    · have inFlight : entry.uvWrites ≠ [] := sound.writing.mp writing
      have busy : entry.pending ≠ [] := by simp [Entry.pending, inFlight]
      exact Nat.pos_of_ne_zero fun empty => busy ((sound.idle_iff alive).mp empty)
    · exact queued
  · exact .inr

/-- In every reachable state and for every stream socket in the table:
`queued_bytes` is the number of bytes pending, it is zero only when nothing is
pending, and no act subtracts more from it than it holds.  Every record of a
snapshot shows the pending bytes of its entry, and `writing` when there are any. -/
theorem pending_bytes_counted (cfg : Config) (state : State)
    (reached : (socketSystem cfg).Reachable state) :
    (∀ key entry, state.InTable key entry → entry.isUdp = false →
      entry.queuedBytes = Life.totalSize entry.high + Life.totalSize entry.low +
        Life.totalSize entry.uvWrites ∧
      (entry.queuedBytes = 0 ↔ entry.high = [] ∧ entry.low = [] ∧ entry.uvWrites = []) ∧
      ∀ (act : Act) (runtime : Shared), ∀ pair ∈ act.subtracts ⟨key, entry, runtime⟩,
        pair.2 ≤ pair.1) ∧
    ∀ alloc, ∀ info ∈ state.info cfg alloc, ∃ key entry, state.InTable key entry ∧
      info = entry.info ∧ (entry.isUdp = false →
        info.wbuffer = Life.totalSize entry.pending ∧
        (info.writing = true ↔ 0 < info.wbuffer)) := by
  have wf := State.wf_reachable reached
  constructor
  · intro key entry inTable tcp
    have sound := wf.sound key entry inTable.1
    have alive := wf.alive_of_inTable inTable
    refine ⟨sound.bytes alive, ?_, fun act runtime => Act.subtracts_le sound alive⟩
    rw [sound.idle_iff alive]
    simp [Entry.pending]
  · intro alloc info found
    obtain ⟨key, entry, inTable, -, rfl⟩ := State.mem_info found
    have sound := wf.sound key entry inTable.1
    have alive := wf.alive_of_inTable inTable
    exact ⟨key, entry, inTable, rfl,
      fun _ => ⟨sound.counts_pending alive, sound.info_writing alive⟩⟩

/-- Two sends, one in flight and one queued behind it. -/
def backlogState : State :=
  ((socketSystem fourSlots).exec State.init (connectRun ++
    ([.api (.send 4 false 3 .owned true false) .fine, .api (.send 4 false 5 .owned true true) .fine,
      .poll .fine, .wakeup, .command .fine, .command .fine, .commandsDone, .pump .fine,
      .pumpDone] : List Label))).get (by decide)

theorem pending_bytes_counted_backlog :
    backlogState.entries[0]?.map (fun entry => (entry.queuedBytes, entry.low, entry.uvWrites)) =
        some (8, [⟨1, 5, true⟩], [⟨0, 3, true⟩]) ∧
      (backlogState.info fourSlots fun _ => true).map SocketInfo.wbuffer = [8] ∧
      ∀ info ∈ backlogState.info fourSlots fun _ => true, ∃ key entry,
        backlogState.InTable key entry ∧ info = entry.info ∧ (entry.isUdp = false →
          info.wbuffer = Life.totalSize entry.pending ∧
          (info.writing = true ↔ 0 < info.wbuffer)) :=
  ⟨by decide, by decide, (pending_bytes_counted fourSlots backlogState
    ⟨_, (Option.some_get _).symm⟩).2 _⟩

end Skyuv.Socket
