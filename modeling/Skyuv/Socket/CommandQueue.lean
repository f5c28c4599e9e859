import Skyuv.Lib.LinkedQueue
import Skyuv.Socket.Invariant

/-!
# The command queue

`skyuv_socket_command_queue_push`, `stop`, `pop` and `destroy` work on a list
linked through the commands.  Every critical section of `queue->mutex` is one
step, so the order of the steps is the order in which the calls take effect.

Commands are named by their address.  A caller hands over a command of its own:
one that is in the queue belongs to the queue until it is popped or destroyed.
The history of a run is kept in three lists, of the commands that were accepted,
popped and destroyed.
-/

set_option autoImplicit false

namespace Skyuv.Socket

open TransitionSystem LinkedQueue

def CommandBody.isExit : CommandBody → Bool
  | .exit => true
  | _ => false

/-- A command in memory, with the thread that filled it in. -/
structure Submission where
  producer : Nat
  command : Command

def Submission.isExit (submission : Submission) : Bool := submission.command.body.isExit

/-- `struct skyuv_socket_command_queue`; `mutex` says that its implementation is
not `NULL`. -/
structure CommandQueue where
  mutex : Bool
  links : Links Nat
  accepting : Bool

namespace CommandQueue

/-- `skyuv_socket_command_queue_init`, when the mutex could be created. -/
def init : CommandQueue := ⟨true, .empty, true⟩

/-- `queue_push_locked`. -/
def pushLocked (address : Nat) (queue : CommandQueue) : CommandQueue :=
  { queue with links := queue.links.append address }

def push (memory : Nat → Submission) (command : Option Nat) (queue : CommandQueue) :
    Status × CommandQueue :=
  match command with
  | none => (.invalidArgument, queue)
  | some address =>
      if !queue.mutex then (.invalidArgument, queue)
      else if !queue.accepting || (memory address).isExit then (.invalidState, queue)
      else (.ok, queue.pushLocked address)

def stop (memory : Nat → Submission) (exitCommand : Option Nat) (queue : CommandQueue) :
    Status × CommandQueue :=
  match exitCommand with
  | none => (.invalidArgument, queue)
  | some address =>
      if !queue.mutex || !(memory address).isExit then (.invalidArgument, queue)
      else if !queue.accepting then (.invalidState, queue)
      else (.ok, { queue with accepting := false }.pushLocked address)

def pop (queue : CommandQueue) : Option Nat × CommandQueue :=
  if !queue.mutex then (none, queue)
  else (queue.links.takeHead.1, { queue with links := queue.links.takeHead.2 })

/-- The critical section of `skyuv_socket_command_queue_destroy`: the list leaves
the queue. -/
def detach (queue : CommandQueue) : Option Nat × CommandQueue :=
  (queue.links.head,
    { queue with accepting := false, links := { queue.links with head := none, tail := none } })

end CommandQueue

structure Item where
  address : Nat
  submission : Submission

structure QueueState where
  queue : CommandQueue
  memory : Nat → Submission
  /-- The variable `command` of `skyuv_socket_command_queue_destroy`, while its
  loop runs. -/
  walk : Option (Option Nat)
  accepted : List Item
  popped : List Item
  destroyed : List Item

inductive QueueLabel where
  | push (address : Option Nat) (submission : Submission)
  | stop (address : Option Nat) (submission : Submission)
  | pop
  | destroy
  | destroyNext
  | destroyEnd

namespace QueueState

def init : QueueState where
  queue := .init
  memory _ := ⟨0, ⟨0, 0, .exit⟩⟩
  walk := none
  accepted := []
  popped := []
  destroyed := []

/-- The accepted commands that the queue still has to give away. -/
def pending (state : QueueState) : List Item :=
  state.accepted.drop (state.popped.length + state.destroyed.length)

def owns (address : Nat) (state : QueueState) : Bool :=
  decide (address ∈ state.pending.map Item.address)

/-- A thread fills in a command and hands it to `push` or `stop`. -/
def submit
    (call : (Nat → Submission) → Option Nat → CommandQueue → Status × CommandQueue)
    (address : Option Nat) (submission : Submission) (state : QueueState) : Option QueueState :=
  match address with
  | none => some { state with queue := (call state.memory none state.queue).2 }
  | some address =>
      if state.owns address then none
      else
        let memory := Function.update state.memory address submission
        let result := call memory (some address) state.queue
        some { state with
          memory := memory
          queue := result.2
          accepted := if result.1 = .ok then state.accepted ++ [⟨address, submission⟩]
            else state.accepted }

def pop (state : QueueState) : QueueState :=
  let result := state.queue.pop
  { state with
    queue := result.2
    popped := state.popped ++
      (result.1.map fun address => Item.mk address (state.memory address)).toList }

/-- Entering `skyuv_socket_command_queue_destroy`, which one thread does. -/
def destroy (state : QueueState) : Option QueueState :=
  if state.walk.isSome then none
  else if !state.queue.mutex then some state
  else some { state with queue := state.queue.detach.2, walk := some state.queue.detach.1 }

/-- One round of the loop: `next` is read before the command is destroyed. -/
def destroyNext (state : QueueState) : Option QueueState :=
  match state.walk with
  | some (some address) =>
      some { state with
        walk := some (state.queue.links.next address)
        destroyed := state.destroyed ++ [⟨address, state.memory address⟩] }
  | _ => none

/-- `skyuv_mutex_destroy`. -/
def destroyEnd (state : QueueState) : Option QueueState :=
  match state.walk with
  | some none => some { state with queue := { state.queue with mutex := false }, walk := none }
  | _ => none

end QueueState

def queueSystem : System QueueState QueueLabel where
  init := .init
  step state
    | .push address submission => state.submit CommandQueue.push address submission
    | .stop address submission => state.submit CommandQueue.stop address submission
    | .pop => some state.pop
    | .destroy => state.destroy
    | .destroyNext => state.destroyNext
    | .destroyEnd => state.destroyEnd

/-! ## What a call does -/

namespace CommandQueue

variable {memory : Nat → Submission} {command : Option Nat} {queue : CommandQueue}

/-- The outcomes of `push` and `stop`. -/
inductive Submitted (memory : Nat → Submission) (queue : CommandQueue) :
    Option Nat → Status × CommandQueue → Prop
  | refused {command : Option Nat} {status : Status} (failed : status ≠ .ok) :
      Submitted memory queue command (status, queue)
  | accepted {address : Nat} (mutex : queue.mutex = true) (accepting : queue.accepting = true)
      (keeps : Bool) (exit : (memory address).isExit = !keeps) :
      Submitted memory queue (some address)
        (.ok, { queue.pushLocked address with accepting := keeps })

theorem push_submitted : Submitted memory queue command (queue.push memory command) := by
  unfold push
  split
  · exact .refused (by simp)
  · rename_i address
    split
    · exact .refused (by simp)
    · rename_i mutex
      split
      · exact .refused (by simp)
      · rename_i open_
        simp only [Bool.or_eq_true, Bool.not_eq_true', not_or, Bool.not_eq_false,
          Bool.not_eq_true] at mutex open_
        have same : queue.pushLocked address =
            { queue.pushLocked address with accepting := true } := by
          rw [pushLocked, open_.1]
        rw [same]
        exact .accepted mutex open_.1 true open_.2

theorem stop_submitted : Submitted memory queue command (queue.stop memory command) := by
  unfold stop
  split
  · exact .refused (by simp)
  · split
    · exact .refused (by simp)
    · rename_i valid
      split
      · exact .refused (by simp)
      · rename_i open_
        simp only [Bool.or_eq_true, Bool.not_eq_true', not_or, Bool.not_eq_false] at valid open_
        exact .accepted valid.1 open_ false valid.2

/-- An `EXIT` command, or any command once the queue was stopped, stays out. -/
theorem push_refused (memory : Nat → Submission) (command : Option Nat)
    (closed : queue.accepting = false ∨
      ∃ address, command = some address ∧ (memory address).isExit = true) :
    (queue.push memory command).1 ≠ .ok ∧ (queue.push memory command).2 = queue := by
  unfold push
  split
  · exact ⟨by simp, rfl⟩
  · rename_i address
    have refuses : (!queue.accepting || (memory address).isExit) = true := by
      rcases closed with stopped | ⟨other, same, exit⟩
      · simp [stopped]
      · cases same
        simp [exit]
    rw [if_pos refuses]
    split <;> exact ⟨by simp, rfl⟩

theorem stop_refused (memory : Nat → Submission) (command : Option Nat)
    (stopped : queue.accepting = false) :
    (queue.stop memory command).1 ≠ .ok ∧ (queue.stop memory command).2 = queue := by
  have result : Submitted memory queue command (queue.stop memory command) := stop_submitted
  generalize queue.stop memory command = outcome at result
  cases result with
  | refused failed => exact ⟨failed, rfl⟩
  | accepted mutex accepting => cases stopped.symm.trans accepting

end CommandQueue

/-! ## What the queue holds -/

namespace QueueState

/-- `rest` are the accepted commands that were neither popped nor destroyed. -/
structure Repr (state : QueueState) (rest : List Item) : Prop where
  order : state.accepted = state.popped ++ state.destroyed ++ rest
  distinct : (rest.map Item.address).Nodup
  memory : ∀ item ∈ rest, state.memory item.address = item.submission
  linked : state.walk = none → Holds state.queue.links (rest.map Item.address)
  kept : state.walk = none → state.queue.mutex = true → state.destroyed = []
  detached : ∀ link, state.walk = some link → state.queue.mutex = true ∧
    state.queue.accepting = false ∧
      (state.queue.links.head = none ∧ state.queue.links.tail = none) ∧
    Chain state.queue.links.next link (rest.map Item.address)
  gone : state.queue.mutex = false → rest = [] ∧ state.queue.accepting = false ∧ state.walk = none
  exits : ∃ plain last, state.accepted = plain ++ last ∧
    (∀ item ∈ plain, item.submission.isExit = false) ∧
    (last = [] ∨ ∃ item, last = [item] ∧ item.submission.isExit = true ∧
      state.queue.accepting = false)

variable {state next : QueueState} {rest : List Item}

theorem Repr.init : QueueState.init.Repr [] where
  order := rfl
  distinct := List.nodup_nil
  memory := by simp
  linked _ := holds_empty
  kept _ _ := rfl
  detached := by simp [QueueState.init]
  gone := by simp [QueueState.init, CommandQueue.init]
  exits := ⟨[], [], rfl, by simp, .inl rfl⟩

theorem Repr.pending_eq (repr : state.Repr rest) : state.pending = rest := by
  rw [pending, repr.order, ← List.length_append, List.drop_left]

/-- While commands are accepted, none of them was `EXIT` and no thread destroys
the queue. -/
theorem Repr.open_ (repr : state.Repr rest) (accepting : state.queue.accepting = true) :
    state.walk = none ∧ ∀ item ∈ state.accepted, item.submission.isExit = false := by
  constructor
  · cases walk : state.walk with
    | none => rfl
    | some link => cases accepting.symm.trans (repr.detached link walk).2.1
  · obtain ⟨plain, last, split, harmless, ends⟩ := repr.exits
    rcases ends with rfl | ⟨item, -, -, stopped⟩
    · simpa [split] using harmless
    · cases accepting.symm.trans stopped

/-- A command that the queue refuses stays with the caller. -/
theorem Repr.refused (repr : state.Repr rest) {address : Nat} (submission : Submission)
    (outside : address ∉ rest.map Item.address) :
    Repr { state with memory := Function.update state.memory address submission } rest :=
  { repr with
    memory := by
      intro item member
      have distinct : item.address ≠ address :=
        fun same => outside (same ▸ List.mem_map_of_mem member)
      exact (Function.update_of_ne distinct ..).trans (repr.memory item member) }

theorem Repr.accepted (repr : state.Repr rest) {address : Nat} (submission : Submission)
    (outside : address ∉ rest.map Item.address) (mutex : state.queue.mutex = true)
    (accepting : state.queue.accepting = true) {keeps : Bool} (exit : submission.isExit = !keeps) :
    Repr { state with
      memory := Function.update state.memory address submission
      queue := { state.queue.pushLocked address with accepting := keeps }
      accepted := state.accepted ++ [⟨address, submission⟩] }
        (rest ++ [⟨address, submission⟩]) := by
  obtain ⟨idle, plain⟩ := repr.open_ accepting
  have refused := repr.refused submission outside
  have grown := (repr.linked idle).append outside
  constructor
  · simp [repr.order]
  · simpa using grown.nodup
  · intro item member
    rcases List.mem_append.mp member with before | isNew
    · exact refused.memory item before
    · cases List.mem_singleton.mp isNew
      exact Function.update_self ..
  · intro _
    simpa [CommandQueue.pushLocked] using grown
  · exact repr.kept
  · intro link walk
    cases idle.symm.trans walk
  · intro gone
    cases mutex.symm.trans gone
  · cases keeps with
    | true =>
        refine ⟨state.accepted ++ [⟨address, submission⟩], [], by simp, ?_, .inl rfl⟩
        simpa [or_imp, forall_and] using ⟨plain, exit⟩
    | false => exact ⟨state.accepted, [⟨address, submission⟩], rfl, plain, .inr ⟨_, rfl, exit, rfl⟩⟩

/-- What `push` and `stop` have in common, on the queue of a state. -/
def Submits (call : (Nat → Submission) → Option Nat → CommandQueue → Status × CommandQueue)
    (state : QueueState) : Prop :=
  ∀ memory command,
    CommandQueue.Submitted memory state.queue command (call memory command state.queue)

variable {call : (Nat → Submission) → Option Nat → CommandQueue → Status × CommandQueue}

/-- A command that the caller owns is handed over, and the call accepts it or not. -/
theorem Repr.submit (repr : state.Repr rest) (submits : state.Submits call)
    {address : Nat} {submission : Submission}
    (run : state.submit call (some address) submission = some next) :
    next.Repr (if (call (Function.update state.memory address submission) (some address)
      state.queue).1 = .ok then rest ++ [⟨address, submission⟩] else rest) := by
  simp only [QueueState.submit] at run
  split at run
  · cases run
  · rename_i notOwned
    have outside : address ∉ rest.map Item.address := by
      simpa [owns, repr.pending_eq] using notOwned
    cases Option.some.inj run
    have result := submits (Function.update state.memory address submission) (some address)
    generalize call (Function.update state.memory address submission) (some address)
      state.queue = outcome at result
    cases result with
    | refused failed =>
        simp only [failed, if_false]
        exact repr.refused submission outside
    | accepted mutex accepting keeps exit =>
        simp only [Function.update_self] at exit
        exact repr.accepted submission outside mutex accepting exit

/-- Nothing is handed over through a null pointer. -/
theorem submit_null (submits : state.Submits call) {submission : Submission}
    (run : state.submit call none submission = some next) :
    next = state := by
  cases Option.some.inj run
  have result := submits state.memory none
  generalize call state.memory none state.queue = outcome at result
  cases result with
  | refused failed => rfl

theorem Repr.submit_any (repr : state.Repr rest) (submits : state.Submits call)
    {address : Option Nat} {submission : Submission}
    (run : state.submit call address submission = some next) : ∃ rest, next.Repr rest := by
  cases address with
  | none =>
      rw [submit_null submits run]
      exact ⟨rest, repr⟩
  | some address => exact ⟨_, repr.submit submits run⟩

theorem pop_of_empty (empty : state.queue.links.head = none) : state.pop = state := by
  have nothing : state.queue.pop = (none, state.queue) := by
    unfold CommandQueue.pop Links.takeHead
    rw [empty]
    split <;> rfl
  simp [QueueState.pop, nothing]

theorem pop_of_gone (gone : state.queue.mutex = false) : state.pop = state := by
  simp [QueueState.pop, CommandQueue.pop, gone]

theorem pop_of_present (mutex : state.queue.mutex = true) :
    state.pop = { state with
      queue := { state.queue with links := state.queue.links.takeHead.2 }
      popped := state.popped ++ (state.queue.links.takeHead.1.map fun address =>
        Item.mk address (state.memory address)).toList } := by
  simp [QueueState.pop, CommandQueue.pop, mutex]

/-- The queue gives away the oldest command that it holds. -/
theorem Repr.pop (repr : state.Repr rest) (idle : state.walk = none) :
    state.queue.pop.1 = rest.head?.map Item.address ∧ state.pop.Repr rest.tail := by
  cases mutex : state.queue.mutex with
  | false =>
      obtain ⟨rfl, -, -⟩ := repr.gone mutex
      rw [pop_of_gone mutex]
      exact ⟨by simp [CommandQueue.pop, mutex], repr⟩
  | true =>
      obtain ⟨taken, left⟩ := (repr.linked idle).takeHead
      have returned : state.queue.pop.1 = rest.head?.map Item.address := by
        simpa [CommandQueue.pop, mutex] using taken
      refine ⟨returned, ?_⟩
      cases rest with
      | nil =>
          rw [pop_of_empty (repr.linked idle).chain]
          exact repr
      | cons item others =>
          have untouched := repr.kept idle mutex
          have found : state.memory item.address = item.submission :=
            repr.memory item (List.mem_cons_self ..)
          rw [pop_of_present mutex, taken]
          constructor
          · simp [repr.order, untouched, found]
          · exact (List.nodup_cons.mp repr.distinct).2
          · exact fun other member => repr.memory other (List.mem_cons_of_mem _ member)
          · exact fun _ => left
          · exact repr.kept
          · intro link walk
            cases idle.symm.trans walk
          · intro gone
            cases mutex.symm.trans gone
          · exact repr.exits

theorem Repr.destroy (repr : state.Repr rest) (run : state.destroy = some next) :
    next.Repr rest := by
  unfold QueueState.destroy at run
  split at run
  · cases run
  · rename_i idle
    split at run
    · cases Option.some.inj run
      exact repr
    · rename_i mutex
      cases Option.some.inj run
      simp only [Option.isSome_iff_ne_none, ne_eq, not_not] at idle
      simp only [Bool.not_eq_true', Bool.not_eq_false] at mutex
      refine { repr with
        linked := (nomatch ·), kept := (nomatch ·), detached := ?_, gone := ?_, exits := ?_ }
      · rintro link ⟨⟩
        exact ⟨mutex, rfl, ⟨rfl, rfl⟩, (repr.linked idle).chain⟩
      · intro gone
        cases mutex.symm.trans gone
      · obtain ⟨plain, last, split, harmless, ends⟩ := repr.exits
        exact ⟨plain, last, split, harmless,
          ends.imp id fun ⟨item, one, exit, _⟩ => ⟨item, one, exit, rfl⟩⟩

theorem Repr.destroyNext (repr : state.Repr rest) (run : state.destroyNext = some next) :
    ∃ rest, next.Repr rest := by
  unfold QueueState.destroyNext at run
  split at run
  · rename_i address walk
    cases Option.some.inj run
    obtain ⟨mutex, stopped, empty, chain⟩ := repr.detached _ walk
    cases rest with
    | nil => cases chain
    | cons item others =>
        obtain ⟨found, onward⟩ := chain
        cases Option.some.inj found
        have here : state.memory item.address = item.submission :=
          repr.memory item (List.mem_cons_self ..)
        refine ⟨others, ?_⟩
        constructor
        · simp [repr.order, here]
        · exact (List.nodup_cons.mp repr.distinct).2
        · exact fun other member => repr.memory other (List.mem_cons_of_mem _ member)
        · exact (nomatch ·)
        · exact (nomatch ·)
        · rintro link ⟨⟩
          exact ⟨mutex, stopped, empty, onward⟩
        · intro gone
          cases mutex.symm.trans gone
        · exact repr.exits
  · cases run

theorem Repr.destroyEnd (repr : state.Repr rest) (run : state.destroyEnd = some next) :
    next.Repr [] := by
  unfold QueueState.destroyEnd at run
  split at run
  · rename_i walk
    cases Option.some.inj run
    obtain ⟨-, stopped, ⟨head, tail⟩, chain⟩ := repr.detached _ walk
    cases rest with
    | cons item others => cases chain.1
    | nil =>
        exact { repr with
          linked := fun _ => ⟨head, tail, List.nodup_nil⟩
          kept := fun _ gone => by cases gone
          detached := fun _ other => by cases other
          gone := fun _ => ⟨rfl, stopped, rfl⟩
          exits := repr.exits }
  · cases run

theorem exists_repr (reached : queueSystem.Reachable state) : ∃ rest, state.Repr rest := by
  refine reached.invariant (fun state : QueueState => ∃ rest, state.Repr rest) ⟨[], .init⟩ ?_
  rintro state label next ⟨rest, repr⟩ run
  cases label with
  | push address submission => exact repr.submit_any (fun _ _ => CommandQueue.push_submitted) run
  | stop address submission => exact repr.submit_any (fun _ _ => CommandQueue.stop_submitted) run
  | pop =>
      cases Option.some.inj run
      cases walk : state.walk with
      | none => exact ⟨rest.tail, (repr.pop walk).2⟩
      | some link =>
          rw [pop_of_empty (repr.detached link walk).2.2.1.1]
          exact ⟨rest, repr⟩
  | destroy => exact ⟨rest, repr.destroy run⟩
  | destroyNext => exact repr.destroyNext run
  | destroyEnd => exact ⟨[], repr.destroyEnd run⟩

theorem repr_pending (reached : queueSystem.Reachable state) : state.Repr state.pending := by
  obtain ⟨rest, repr⟩ := exists_repr reached
  rwa [repr.pending_eq]

end QueueState

/-! ## The queue as a list

`State` has the queue of the runtime as a list and a flag.  That is what a queue
in memory stands for. -/

structure CommandList where
  commands : List Command
  accepting : Bool

namespace CommandList

def push (command : Command) (list : CommandList) : Status × CommandList :=
  if !list.accepting || command.body.isExit then (.invalidState, list)
  else (.ok, { list with commands := list.commands ++ [command] })

def stop (exitCommand : Command) (list : CommandList) : Status × CommandList :=
  if !list.accepting then (.invalidState, list)
  else (.ok, ⟨list.commands ++ [exitCommand], false⟩)

def pop (list : CommandList) : Option Command × CommandList :=
  (list.commands.head?, { list with commands := list.commands.tail })

end CommandList

def QueueState.commandList (state : QueueState) : CommandList :=
  ⟨state.pending.map fun item => item.submission.command, state.queue.accepting⟩

namespace QueueState

variable {state next : QueueState}

/-- What handing over a command does to the list. -/
theorem Repr.commandList_submit {rest : List Item} (repr : state.Repr rest)
    {call : (Nat → Submission) → Option Nat → CommandQueue → Status × CommandQueue}
    (submits : state.Submits call)
    {address : Nat} {submission : Submission}
    (run : state.submit call (some address) submission = some next) :
    let result := call (Function.update state.memory address submission) (some address) state.queue
    next.commandList = ⟨state.commandList.commands ++
      (if result.1 = .ok then [submission.command] else []), result.2.accepting⟩ := by
  have after := (repr.submit submits run).pending_eq
  have queue : next.queue = (call (Function.update state.memory address submission)
      (some address) state.queue).2 := by
    simp only [QueueState.submit] at run
    split at run
    · cases run
    · cases Option.some.inj run
      rfl
  simp only [commandList, after, queue, repr.pending_eq]
  split <;> simp

theorem push_refines (reached : queueSystem.Reachable state) (mutex : state.queue.mutex = true)
    {address : Nat} {submission : Submission}
    (run : state.submit CommandQueue.push (some address) submission = some next) :
    next.commandList = (state.commandList.push submission.command).2 := by
  rw [(repr_pending reached).commandList_submit (fun _ _ => CommandQueue.push_submitted) run]
  simp only [CommandQueue.push, mutex, Function.update_self, CommandList.push, Submission.isExit]
  cases accepting : state.queue.accepting <;> cases submission.command.body.isExit <;>
    simp [commandList, accepting, CommandQueue.pushLocked]

theorem stop_refines (reached : queueSystem.Reachable state) (mutex : state.queue.mutex = true)
    {address : Nat} {submission : Submission} (exit : submission.isExit = true)
    (run : state.submit CommandQueue.stop (some address) submission = some next) :
    next.commandList = (state.commandList.stop submission.command).2 := by
  rw [(repr_pending reached).commandList_submit (fun _ _ => CommandQueue.stop_submitted) run]
  simp only [CommandQueue.stop, mutex, Function.update_self, CommandList.stop, exit]
  cases accepting : state.queue.accepting <;>
    simp [commandList, accepting, CommandQueue.pushLocked]

theorem pop_refines (reached : queueSystem.Reachable state) (idle : state.walk = none) :
    state.queue.pop.1.map (fun address => (state.memory address).command) =
        state.commandList.pop.1 ∧
      state.pop.commandList = state.commandList.pop.2 := by
  have repr := repr_pending reached
  obtain ⟨returned, left⟩ := repr.pop idle
  constructor
  · rw [returned, CommandList.pop, commandList]
    cases pending : state.pending with
    | nil => rfl
    | cons item others =>
        have found := repr.memory item (by rw [pending]; exact List.mem_cons_self ..)
        simp [found]
  · have accepting : state.pop.queue.accepting = state.queue.accepting := by
      unfold QueueState.pop CommandQueue.pop
      split <;> rfl
    simp [commandList, left.pending_eq, accepting, CommandList.pop]

end QueueState

namespace State

def commandList (state : State) : CommandList := ⟨state.commands, state.accepting⟩

variable {state : State}

/-- The queue of the runtime is the list that a queue in memory stands for. -/
theorem push_commandList {command : Command} (plain : command.body.isExit = false) :
    ((state.push command).1 = true ↔ (state.commandList.push command).1 = .ok) ∧
      (state.push command).2.commandList = (state.commandList.push command).2 := by
  simp only [State.push, CommandList.push, plain, Bool.or_false]
  cases accepting : state.accepting <;> simp [commandList, accepting]

theorem exit_commandList (env : Env) :
    (state.api .exit env).commandList =
      if env.command then (state.commandList.stop ⟨0, 0, .exit⟩).2 else state.commandList := by
  simp only [State.api, CommandList.stop]
  cases env.command <;> cases accepting : state.accepting <;> simp [commandList, accepting]

theorem consumeCommand_commandList {cfg : Config} {env : Env} {command : Command}
    {rest : List Command} (head : state.commands = command :: rest) :
    state.commandList.pop.1 = some command ∧
      (state.consumeCommand cfg env command rest).commandList = state.commandList.pop.2 := by
  refine ⟨by simp [CommandList.pop, commandList, head], ?_⟩
  have popped : state.commandList.pop.2 = ⟨rest, state.accepting⟩ := by
    simp [CommandList.pop, commandList, head]
  rw [popped]
  unfold State.consumeCommand
  dsimp only
  split
  · rfl
  · split
    · rfl
    · rename_i key found
      obtain ⟨_, _, same⟩ := focus_shape cfg key (.command command env)
        { state with commands := rest }
      rw [same]
      rfl

end State

/-! ## Linearizability -/

/-- In every run of any number of threads on one queue: the popped commands are
the first accepted ones, in order, also for each producer by itself; `pop`
returns the oldest one that was not popped, and nothing only if there is none;
`EXIT` is accepted at most once, through `stop`, and as the last command, and
after it `push` and `stop` are refused and change nothing; and the commands that
a destruction of the queue destroys are those that were not popped, each once. -/
theorem command_queue_linearizable (labels : List QueueLabel) (final : QueueState)
    (run : queueSystem.exec .init labels = some final) :
    (final.popped <+: final.accepted ∧ ∀ producer,
      final.popped.filter (fun item => item.submission.producer = producer) <+:
        final.accepted.filter fun item => item.submission.producer = producer) ∧
    (final.walk = none → final.queue.mutex = true →
      final.accepted = final.popped ++ final.pending ∧
      final.queue.pop.1 = final.pending.head?.map Item.address ∧
      final.pop.popped = final.popped ++ final.pending.head?.toList) ∧
    (∃ plain last, final.accepted = plain ++ last ∧
      (∀ item ∈ plain, item.submission.isExit = false) ∧
      (last = [] ∨ ∃ item, last = [item] ∧ item.submission.isExit = true)) ∧
    ((∃ item ∈ final.accepted, item.submission.isExit = true) → ∀ memory command,
      ((final.queue.push memory command).1 ≠ .ok ∧
        (final.queue.push memory command).2 = final.queue) ∧
      (final.queue.stop memory command).1 ≠ .ok ∧
        (final.queue.stop memory command).2 = final.queue) ∧
    (∀ memory address, (memory address).isExit = true →
      (final.queue.push memory (some address)).1 ≠ .ok ∧
      (final.queue.push memory (some address)).2 = final.queue) ∧
    final.popped ++ final.destroyed <+: final.accepted ∧
    (final.queue.mutex = false → final.accepted = final.popped ++ final.destroyed) := by
  have reached : queueSystem.Reachable final := ⟨labels, run⟩
  have repr := QueueState.repr_pending reached
  have first : final.popped <+: final.accepted :=
    ⟨final.destroyed ++ final.pending, by rw [repr.order]; simp⟩
  refine ⟨⟨first, fun producer => first.filter _⟩, ?_, ?_, ?_, ?_, ?_, ?_⟩
  · intro idle mutex
    have returned := (repr.pop idle).1
    refine ⟨by simpa [repr.kept idle mutex] using repr.order, returned, ?_⟩
    simp only [QueueState.pop, returned]
    cases pending : final.pending with
    | nil => rfl
    | cons item others =>
        have found := repr.memory item (by rw [pending]; exact List.mem_cons_self ..)
        simp [found]
  · obtain ⟨plain, last, split, harmless, ends⟩ := repr.exits
    exact ⟨plain, last, split, harmless, ends.imp id fun ⟨item, one, exit, _⟩ => ⟨item, one, exit⟩⟩
  · rintro ⟨item, member, exit⟩ memory command
    have stopped : final.queue.accepting = false := by
      by_contra accepting
      have plain := (repr.open_ (by simpa using accepting)).2 item member
      cases exit.symm.trans plain
    exact ⟨CommandQueue.push_refused memory command (.inl stopped),
      CommandQueue.stop_refused memory command stopped⟩
  · intro memory address exit
    exact CommandQueue.push_refused memory (some address) (.inr ⟨address, rfl, exit⟩)
  · exact ⟨final.pending, repr.order.symm⟩
  · intro gone
    simpa [(repr.gone gone).1] using repr.order

/-- Two producers push, the consumer pops once, `stop` and a late `push` follow,
and the queue is destroyed. -/
def queueRun : List QueueLabel :=
  [.push (some 1) ⟨0, ⟨4, 0, .start⟩⟩, .push (some 2) ⟨1, ⟨8, 0, .close⟩⟩, .pop,
    .push (some 1) ⟨0, ⟨4, 0, .pause⟩⟩, .stop (some 3) ⟨1, ⟨0, 0, .exit⟩⟩,
    .push (some 4) ⟨1, ⟨8, 0, .start⟩⟩, .destroy, .destroyNext, .destroyNext, .destroyNext,
    .destroyEnd]

def destroyedQueue : QueueState := (queueSystem.exec .init queueRun).get (by decide)

theorem command_queue_linearizable_two_producers :
    destroyedQueue.accepted.map Item.address = [1, 2, 1, 3] ∧
      destroyedQueue.popped.map Item.address = [1] ∧
      destroyedQueue.destroyed.map Item.address = [2, 1, 3] ∧
      destroyedQueue.accepted = destroyedQueue.popped ++ destroyedQueue.destroyed :=
  ⟨by decide, by decide, by decide,
    (command_queue_linearizable queueRun destroyedQueue
      (Option.some_get _).symm).2.2.2.2.2.2 (by decide)⟩

end Skyuv.Socket
