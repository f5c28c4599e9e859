import Skyuv.Lib.LinkedQueue
import Skyuv.Lib.Trace
import Skyuv.Socket.Steps

/-!
# The order of writes

Every list of an entry is a queue: what `uv_write` was given from it, followed by
what it still holds, is what was put into it.  A low-priority buffer leaves its
list only when the other one is empty.  Both hold in every run, whatever fails.
At the end the lists are linked as the source links them.
-/

set_option autoImplicit false

namespace Skyuv.Socket

open TransitionSystem Trace LinkedQueue

/-- A node was put on a list, or taken off it for `uv_write`. -/
def Obs.isWrite : Obs → Bool
  | .queued _ _ | .uvWrite _ _ _ => true
  | _ => false

def Obs.queuedAs (low : Bool) : Obs → Option Buffer
  | .queued priority buffer => if priority = low then some buffer else none
  | _ => none

def Obs.handedAs (low : Bool) : Obs → Option Buffer
  | .uvWrite priority buffer _ => if priority = low then some buffer else none
  | _ => none

/-- The buffers of the accepted sends of one priority, in the order of the commands. -/
def queuedWrites (low : Bool) (log : List Obs) : List Buffer := log.filterMap (Obs.queuedAs low)

/-- The buffers of one priority that were handed to `uv_write`. -/
def handedWrites (low : Bool) (log : List Obs) : List Buffer := log.filterMap (Obs.handedAs low)

theorem queuedWrites_append (low : Bool) (first second : List Obs) :
    queuedWrites low (first ++ second) = queuedWrites low first ++ queuedWrites low second :=
  List.filterMap_append

theorem handedWrites_append (low : Bool) (first second : List Obs) :
    handedWrites low (first ++ second) = handedWrites low first ++ handedWrites low second :=
  List.filterMap_append

section Plain

variable {observations : List Obs} (plain : ∀ obs ∈ observations, obs.isWrite = false)

include plain

theorem queuedWrites_plain (low : Bool) : queuedWrites low observations = [] := by
  refine List.filterMap_eq_nil_iff.mpr fun obs member => ?_
  have silent := plain obs member
  cases obs <;> first | rfl | cases silent

theorem handedWrites_plain (low : Bool) : handedWrites low observations = [] := by
  refine List.filterMap_eq_nil_iff.mpr fun obs member => ?_
  have silent := plain obs member
  cases obs <;> first | rfl | cases silent

end Plain

/-- A buffer is handed over when those queued before it were, and a low-priority one only
when every high-priority one was. -/
def Taken (before : List Obs) (obs : Obs) : Prop :=
  ∀ low buffer result, obs = .uvWrite low buffer result →
    handedWrites low before ++ [buffer] <+: queuedWrites low before ∧
      (low = true → handedWrites false before = queuedWrites false before)

theorem isWrite_of_events {observations : List Obs} (events : Life.OnlyEvents observations) :
    ∀ obs ∈ observations, obs.isWrite = false := by
  intro obs member
  obtain ⟨site, event, rfl⟩ := events obs member
  rfl

namespace Life

open Skyuv.Socket.Frame (eventObs)

def list (low : Bool) (life : Life) : List Buffer := if low then life.low else life.high

def Ordered (life : Life) : Prop :=
  (∀ low, handedWrites low life.log <+: queuedWrites low life.log) ∧
  (life.freed = false → ∀ low,
    queuedWrites low life.log = handedWrites low life.log ++ life.list low) ∧
  Always Taken life.log

variable {life after : Life}

theorem Ordered.emit (ordered : life.Ordered) (observations : List Obs)
    (plain : ∀ obs ∈ observations, obs.isWrite = false) : (life.emit observations).Ordered := by
  obtain ⟨fifo, lists, priority⟩ := ordered
  refine ⟨fun low => ?_, fun alive low => ?_, priority.append fun obs member _ _ _ _ isWrite => ?_⟩
  · simpa [Life.emit, queuedWrites_append, handedWrites_append, queuedWrites_plain plain,
      handedWrites_plain plain] using fifo low
  · simpa [Life.emit, Life.list, queuedWrites_append, handedWrites_append, queuedWrites_plain plain,
      handedWrites_plain plain] using lists alive low
  · have silent := plain obs member
    rw [isWrite] at silent
    cases silent

theorem Ordered.tell (ordered : life.Ordered) {observations : List Obs}
    (events : OnlyEvents observations) : (life.emit observations).Ordered :=
  ordered.emit observations (isWrite_of_events events)

theorem Ordered.shut (ordered : life.Ordered) : life.shut.Ordered :=
  ordered.emit [.uvClose] (by simp [Obs.isWrite])

/-- Nothing is said of the lists of an entry that was freed. -/
theorem Ordered.drop (ordered : life.Ordered) (high low : List Buffer) :
    Ordered (Life.drop { life with high := high, low := low }) := by
  have emitted := ordered.emit [.free] (by simp [Obs.isWrite])
  exact ⟨emitted.1, by simp [Life.drop], emitted.2.2⟩

/-- Each list loses at its head what is handed over and gains at its end what is queued. -/
theorem Ordered.noted (ordered : life.Ordered) (alive : life.freed = false) {obs : Obs}
    {changed : Life} (log : changed.log = life.log ++ [obs])
    (lists : ∀ low, life.list low ++ queuedWrites low [obs] =
      handedWrites low [obs] ++ changed.list low)
    (taken : Taken life.log obs) : changed.Ordered := by
  obtain ⟨-, before, always⟩ := ordered
  have lists (low : Bool) :
      queuedWrites low changed.log = handedWrites low changed.log ++ changed.list low := by
    rw [log, queuedWrites_append, handedWrites_append, before alive low,
      List.append_assoc, lists low,
      List.append_assoc]
  refine ⟨fun low => ?_, fun _ => lists, log ▸ always.concat taken⟩
  rw [lists low]
  exact List.prefix_append _ _

/-- A send puts its buffer at the end of one list. -/
theorem Ordered.queue (ordered : life.Ordered) (alive : life.freed = false) (low : Bool)
    (buffer : Buffer) {changed : Life}
    (log : changed.log = life.log ++ [.queued low buffer])
    (joins : changed.list low = life.list low ++ [buffer])
    (other : changed.list (!low) = life.list (!low)) : changed.Ordered := by
  refine ordered.noted alive log (fun priority => ?_) fun _ _ _ isWrite => nomatch isWrite
  rcases Bool.eq_or_eq_not priority low with rfl | rfl
  · simp [joins, queuedWrites, handedWrites, Obs.queuedAs, Obs.handedAs]
  · simp [other, queuedWrites, handedWrites, Obs.queuedAs, Obs.handedAs]

/-- The head of one list goes to `uv_write`. -/
theorem Ordered.hand (ordered : life.Ordered) (alive : life.freed = false) (low : Bool)
    (buffer : Buffer) (result : Int) {changed : Life}
    (log : changed.log = life.log ++ [.uvWrite low buffer result])
    (leaves : life.list low = buffer :: changed.list low)
    (other : changed.list (!low) = life.list (!low))
    (first : low = true → life.list false = []) : changed.Ordered := by
  have before := ordered.2.1 alive
  refine ordered.noted alive log (fun priority => ?_) fun _ _ _ isWrite => ?_
  · rcases Bool.eq_or_eq_not priority low with rfl | rfl
    · simp [leaves, queuedWrites, handedWrites, Obs.queuedAs, Obs.handedAs]
    · simp [other, queuedWrites, handedWrites, Obs.queuedAs, Obs.handedAs]
  · cases isWrite
    refine ⟨⟨changed.list low, ?_⟩, fun isLow => ?_⟩
    · simp [before low, leaves]
    · simp [before false, first isLow]

theorem Pumped.ordered {env : Env} (pumped : Pumped env life after) (ordered : life.Ordered)
    (alive : life.freed = false) : after.Ordered := by
  cases pumped with
  | busy | empty => exact ordered
  | high buffer rest idle high accepted =>
      exact ordered.hand alive false buffer _ rfl high rfl (by simp)
  | low buffer rest idle high low accepted =>
      exact ordered.hand alive true buffer _ rfl low rfl fun _ => high
  | highFailed buffer rest event idle high refused type =>
      have handed : Ordered ({ life with
          high := rest, queuedBytes := life.queuedBytes - buffer.size }.emit
          [.uvWrite false buffer (env.uv .write)]) :=
        ordered.hand alive false buffer _ rfl high rfl (by simp)
      exact (handed.tell (onlyEvents_failureObs env event life)).shut
  | lowFailed buffer rest event idle high low refused type =>
      have handed : Ordered ({ life with
          low := rest, queuedBytes := life.queuedBytes - buffer.size }.emit
          [.uvWrite true buffer (env.uv .write)]) :=
        ordered.hand alive true buffer _ rfl low rfl fun _ => high
      exact (handed.tell (onlyEvents_failureObs env event life)).shut

theorem Resumed.ordered {env : Env} (resumed : Resumed env life after) (ordered : life.Ordered)
    (alive : life.freed = false) : after.Ordered := by
  cases resumed with
  | drained asked high low => exact ordered.shut
  | waiting | closing => exact ordered
  | pumped asked state pumped => exact pumped.ordered ordered alive

theorem Move.ordered {act : Act} (move : Move act life after) (enabled : act.Enabled life)
    (sound : life.Sound) (ordered : life.Ordered) : after.Ordered := by
  have alive := sound.alive enabled
  cases move with
  | ignored | connecting | udpOpened | paused | datagram | pumpSkipped | scanned | readNothing
  | udpNothing | connectLate | acceptStalled | accepted | tagged => exact ordered
  | refused | listening | bound | reported | started | readData | readEof | connected
  | acceptError => exact ordered.tell (onlyEvents_eventObs _ _ _)
  | acceptTaken | udpData => exact ordered.emit _ (by simp [Obs.isWrite])
  | acceptDone =>
      exact (ordered.emit [.uvAccept] (by simp [Obs.isWrite])).tell (onlyEvents_eventObs _ _ _)
  | aborted => exact (ordered.tell (onlyEvents_eventObs _ _ _)).drop _ _
  | rejected | startFailed | readFailed | udpFailed | connectFailed | acceptRejected =>
      exact (ordered.tell (onlyEvents_eventObs _ _ _)).shut
  | queuedHigh command env payload warnings send state accepts plain =>
      have queued : Ordered ({ life with
          high := life.high ++ [payload.buffer]
          queuedBytes := life.queuedBytes + payload.buffer.size
          pumpPending := life.pumpPending || !life.writing }.emit
          [.queued false payload.buffer]) :=
        ordered.queue alive false payload.buffer rfl rfl rfl
      exact queued.tell (onlyEvents_plain plain)
  | queuedLow command env payload warnings send state accepts plain =>
      have queued : Ordered ({ life with
          low := life.low ++ [payload.buffer]
          queuedBytes := life.queuedBytes + payload.buffer.size
          pumpPending := life.pumpPending || !life.writing }.emit
          [.queued true payload.buffer]) :=
        ordered.queue alive true payload.buffer rfl rfl rfl
      exact queued.tell (onlyEvents_plain plain)
  | closedBare =>
      exact ((ordered.emit _ (by simp [Obs.isWrite])).tell (onlyEvents_closeObs _ _ _)).drop _ _
  | closedNow =>
      exact ((ordered.emit _ (by simp [Obs.isWrite])).tell (onlyEvents_closeObs _ _ _)).shut
  | draining => exact (ordered.emit _ (by simp [Obs.isWrite])).tell (onlyEvents_closeObs _ _ _)
  | pumped env state pumped => exact pumped.ordered ordered alive
  | scanDropped | acceptDropped | closed | discarded => exact ordered.drop _ _
  | scanShut => exact ordered.shut
  | written status env buffer rest warnings head fine plain resumed =>
      have completed : (life.complete buffer rest status).Ordered :=
        ordered.emit _ (by simp [Obs.isWrite])
      exact resumed.ordered (completed.tell (onlyEvents_plain plain)) alive
  | writeFailed status env buffer rest event head fails state type resumed =>
      have completed : (life.complete buffer rest status).Ordered :=
        ordered.emit _ (by simp [Obs.isWrite])
      exact resumed.ordered (completed.tell (onlyEvents_failureObs _ _ _)).shut alive
  | datagramSent index status env errors plain => exact ordered.tell (onlyEvents_plain plain)

theorem ordered_kept : Kept (fun _ _ => false) Ordered where
  fresh _ _ := ⟨fun _ => List.prefix_rfl, fun _ low => by cases low <;> rfl, always_nil⟩
  accept _ _ := rfl
  move sound enabled _ move ordered := move.ordered enabled sound ordered

end Life

/-- In every reachable state and for every entry: one write at most is in flight;
the buffers of each priority handed to `uv_write` are the first ones accepted, in
order; a low-priority one is handed over only when no high-priority one is
queued; and while the entry is neither closing nor asked to close, what is
queued is in flight or on the pump list. -/
theorem write_order_and_progress (cfg : Config) (state : State)
    (reached : (socketSystem cfg).Reachable state) (key : Nat) (entry : Entry)
    (at_key : state.entries[key]? = some entry) :
    entry.uvWrites.length ≤ 1 ∧
    (∀ low, handedWrites low entry.log <+: queuedWrites low entry.log) ∧
    (∀ before buffer result after,
      entry.log = before ++ .uvWrite true buffer result :: after →
      handedWrites false before = queuedWrites false before) ∧
    (entry.state ≠ .closing → entry.closeRequested = false →
      entry.high ≠ [] ∨ entry.low ≠ [] → entry.writing = true ∨ key ∈ state.runtime.pumpList) := by
  have wf := State.wf_reachable reached
  have sound := wf.sound key entry at_key
  obtain ⟨fifo, -, priority⟩ : entry.life.Ordered :=
    State.throughout_reachable Life.ordered_kept reached key entry at_key
  refine ⟨sound.single, fifo, ?_, ?_⟩
  · intro before buffer result after split
    exact (priority before _ after split true buffer result rfl).2 rfl
  · intro open_ unasked queued
    refine (sound.progress queued open_ unasked).imp id fun listed => ?_
    exact (wf.listed.marked key).mpr ⟨entry, at_key, listed⟩

/-- One send of low and two of high priority, with the first of these in flight. -/
theorem write_order_and_progress_mixed :
    ∃ final entry, (socketSystem fourSlots).exec State.init (connectRun ++
        ([.api (.send 4 false 3 .owned true true) .fine,
          .api (.send 4 false 2 .owned true false) .fine,
          .api (.send 4 false 5 .owned true false) .fine, .poll .fine, .wakeup, .command .fine,
          .command .fine, .command .fine, .commandsDone, .pump .fine, .pumpDone] : List Label)) =
        some final ∧
      final.entries[0]? = some entry ∧ handedWrites false entry.log = [⟨1, 2, true⟩] ∧
      queuedWrites false entry.log = [⟨1, 2, true⟩, ⟨2, 5, true⟩] ∧
      handedWrites false entry.log <+: queuedWrites false entry.log := by
  refine ⟨_, _, (Option.some_get (by decide)).symm, (Option.some_get (by decide)).symm, by decide,
    by decide, ?_⟩
  exact (write_order_and_progress fourSlots _ ⟨_, (Option.some_get _).symm⟩ 0 _
    (Option.some_get _).symm).2.1 false

/-! ## The pointers -/

/-- The end of `process_send` that links a node.  The lists are named by their priority. -/
def linkWrite (low : Bool) (buffer : Buffer) (lists : Bool → Cells Buffer) : Bool → Cells Buffer :=
  Function.update lists low ((lists low).push buffer)

/-- The start of `pump_write`: the low list is looked at when `high_head` is `NULL`. -/
def unlinkWrite (lists : Bool → Cells Buffer) : Option (Bool × Buffer) × (Bool → Cells Buffer) :=
  match (lists false).pop with
  | (some buffer, high) => (some (false, buffer), Function.update lists false high)
  | (none, _) =>
      match (lists true).pop with
      | (some buffer, low) => (some (true, buffer), Function.update lists true low)
      | (none, _) => (none, lists)

def relinkWrites (lists : Bool → Cells Buffer) : Obs → Bool → Cells Buffer
  | .queued low buffer => linkWrite low buffer lists
  | .uvWrite _ _ _ => (unlinkWrite lists).2
  | _ => lists

/-- The lists of an entry after its history. -/
def linkedWrites (log : List Obs) : Bool → Cells Buffer := log.foldl relinkWrites fun _ => .empty

/-- The lists hold what was queued and not handed over. -/
def WritesLinked (log : List Obs) : Prop :=
  ∀ low, ∃ left, queuedWrites low log = handedWrites low log ++ left ∧
    (linkedWrites log low).Stores left

/-- Following the pointers `pump_write` finds the node that the list model hands over. -/
theorem WritesLinked.unlinkWrite_eq {log : List Obs} {low : Bool} {buffer : Buffer} {result : Int}
    (linked : WritesLinked log) (taken : Taken log (.uvWrite low buffer result)) :
    unlinkWrite (linkedWrites log) = (some (low, buffer),
      Function.update (linkedWrites log) low (linkedWrites log low).pop.2) := by
  obtain ⟨⟨rest, next⟩, first⟩ := taken low buffer result rfl
  have head : (linkedWrites log low).pop.1 = some buffer := by
    obtain ⟨left, queued, stores⟩ := linked low
    rw [queued, List.append_assoc, List.append_cancel_left_eq] at next
    rw [stores.pop.1, ← next]
    rfl
  unfold unlinkWrite
  cases low with
  | false => rw [← Prod.eta (linkedWrites log false).pop, head]
  | true =>
      obtain ⟨left, queued, stores⟩ := linked false
      have empty : left = [] := by simpa [first rfl] using queued
      have none : (linkedWrites log false).pop.1 = none := by rw [stores.pop.1, empty]; rfl
      rw [← Prod.eta (linkedWrites log false).pop, none, ← Prod.eta (linkedWrites log true).pop,
        head]

theorem writesLinked_of_taken {log : List Obs} (always : Always Taken log) : WritesLinked log := by
  induction log using List.reverseRecOn with
  | nil => exact fun low => ⟨[], rfl, Cells.stores_empty⟩
  | append_singleton log obs ih =>
      have linked := ih always.left
      have grown : linkedWrites (log ++ [obs]) = relinkWrites (linkedWrites log) obs := by
        simp [linkedWrites]
      intro low
      obtain ⟨left, queued, stores⟩ := linked low
      rw [queuedWrites_append, handedWrites_append, grown, queued]
      cases obs with
      | queued priority buffer =>
          rcases Bool.eq_or_eq_not low priority with rfl | rfl
          · refine ⟨left ++ [buffer], by simp [queuedWrites, handedWrites, Obs.queuedAs,
              Obs.handedAs], ?_⟩
            simpa [relinkWrites, linkWrite] using stores.push buffer
          · refine ⟨left, by simp [queuedWrites, handedWrites, Obs.queuedAs, Obs.handedAs], ?_⟩
            simpa [relinkWrites, linkWrite] using stores
      | uvWrite priority buffer result =>
          rw [relinkWrites, linked.unlinkWrite_eq always.last]
          rcases Bool.eq_or_eq_not low priority with rfl | rfl
          · obtain ⟨⟨rest, next⟩, -⟩ := always.last low buffer result rfl
            rw [queued, List.append_assoc, List.append_cancel_left_eq] at next
            refine ⟨left.tail, ?_, by simpa using stores.pop.2⟩
            simp [← next, queuedWrites, handedWrites, Obs.queuedAs, Obs.handedAs]
          · refine ⟨left, by simp [queuedWrites, handedWrites, Obs.queuedAs, Obs.handedAs], ?_⟩
            simpa using stores
      | _ =>
          have still : handedWrites low log ++ left ++ [] =
              handedWrites low log ++ [] ++ left := by simp
          exact ⟨left, still, stores⟩

/-- Each node that was handed to `uv_write` is the one that `pump_write` finds by the pointers,
and the pointers lead through the lists of every entry in memory. -/
theorem write_pointers_refine (cfg : Config) (state : State)
    (reached : (socketSystem cfg).Reachable state) (key : Nat) (entry : Entry)
    (at_key : state.entries[key]? = some entry) :
    (∀ before low buffer result after,
      entry.log = before ++ .uvWrite low buffer result :: after →
      (unlinkWrite (linkedWrites before)).1 = some (low, buffer)) ∧
    (entry.freed = false → (linkedWrites entry.log false).Stores entry.high ∧
      (linkedWrites entry.log true).Stores entry.low) := by
  obtain ⟨-, lists, always⟩ : entry.life.Ordered :=
    State.throughout_reachable Life.ordered_kept reached key entry at_key
  have always : Always Taken entry.log := always
  refine ⟨fun before low buffer result after split => ?_, fun alive => ?_⟩
  · rw [split] at always
    rw [(writesLinked_of_taken always.left).unlinkWrite_eq (always before _ after rfl)]
  · have stored (low : Bool) : (linkedWrites entry.log low).Stores (entry.life.list low) := by
      obtain ⟨left, queued, stores⟩ := writesLinked_of_taken always low
      have same : handedWrites low entry.log ++ left =
          handedWrites low entry.log ++ entry.life.list low := queued.symm.trans (lists alive low)
      rw [List.append_cancel_left_eq] at same
      exact same ▸ stores
    exact ⟨stored false, stored true⟩

end Skyuv.Socket
