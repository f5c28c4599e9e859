import Skyuv.Lib.Custody
import Skyuv.Socket.Buffers
import Skyuv.Socket.Exit
import Skyuv.Socket.Info
import Skyuv.Socket.Tally

/-!
# Descriptors that the runtime takes over

`skyuv_socket_runtime_bind` owns the descriptor from the moment its command is
queued.  It is closed by libuv, with the handle that adopted it in `uv_tcp_open`,
and by nothing else: a `BIND` command that is destroyed unprocessed, that finds its
entry gone, or whose `uv_tcp_init` or `uv_tcp_open` fails leaves the descriptor
open.  The inventory of `Custody` follows every descriptor along a run.
-/

set_option autoImplicit false

namespace Skyuv.Socket

open TransitionSystem
open Custody (Inventory)

/-! ## Only a bind call sets the descriptor of an entry -/

theorem Act.run_externalFd {cfg : Config} {act : Act} {frame : Frame}
    (other : ∀ fd, act ≠ .setExternalFd fd) :
    (act.run cfg frame).entry.externalFd = frame.entry.externalFd := by
  have same : (act.run cfg frame).entry.tally.externalFd = frame.entry.tally.externalFd := by
    obtain ⟨tally, charged, result⟩ := act.run_charged cfg frame
    rw [result]
    cases charged with
    | kept | read | datagram | written | accepted => rfl
    | tagged fd => exact absurd rfl (other fd)
  exact same

/-! ## No descriptor is in the table twice -/

namespace State

variable {cfg : Config} {state next final : State} {label : Label} {key : Nat} {entry : Entry}

/-- An entry in the table was there before, or is new. -/
theorem Stepped.in_table (stepped : state.Stepped cfg label next) {slot : Nat}
    (occupied : next.runtime.table.slots slot = some key) :
    state.runtime.table.slots slot = some key ∨ key = state.entries.length := by
  cases stepped.touched with
  | still still => exact .inl (still.table ▸ occupied)
  | opened call opaqueVal env opened =>
      cases opened with
      | failed => exact .inl occupied
      | reserved => exact SlotTable.slots_of_install occupied
  | worker index env at_index worked =>
      refine .inl ?_
      cases worked with
      | progressed | faulted | submitted | decided => exact occupied
      | tagged fd entry pc call free at_key => exact focus_shrinks at_key _ occupied
      | unlinked => exact (SlotTable.slots_of_unlink occupied).1
      | freed result entry pc at_key => exact focus_shrinks at_key _ occupied
  | acted target at_key enabled ready =>
      have shrunk := focus_shrinks (ready.entries ▸ at_key) _ occupied
      rw [ready.table] at shrunk
      exact .inl shrunk
  | accept key status env running at_key listening =>
      obtain ⟨base, -, -, table, -, -, from_⟩ := accept_base cfg at_key status env
      rw [table] at occupied
      rcases from_ with ⟨cursor, rfl⟩ | ⟨place, cursor, free, rfl⟩
      · exact .inl occupied
      · have installed := focus_shrinks (state.reserved_last cfg _ place cursor) _ occupied
        exact SlotTable.slots_of_install installed

theorem target_setExternalFd {fd : Int}
    (target : state.target cfg label = some (key, .setExternalFd fd)) :
    state.fdTaken cfg key fd = false := by
  have issued := target_issues target
  cases label with
  | worker index env =>
      obtain ⟨worker, -, acts⟩ := Option.bind_eq_some_iff.mp target
      obtain ⟨_, acts, same⟩ := Option.map_eq_some_iff.mp acts
      cases same
      unfold State.workerAct at acts
      repeat' split at acts
      all_goals cases acts
      rename_i free
      simpa using free
  | _ => cases issued

theorem Wf.free_of_untaken (wf : state.Wf cfg) {fd : Int} (free : state.fdTaken cfg key fd = false)
    {other : Nat} {found : Entry} (inTable : state.InTable other found) (distinct : other ≠ key) :
    found.externalFd ≠ fd := by
  obtain ⟨at_other, slot, here⟩ := inTable
  intro same
  have taken := List.any_eq_false.mp free slot (List.mem_range.mpr (wf.linked slot other here).1)
  simp [here, at_other, same, distinct] at taken

/-- Where the descriptor of an entry in the table comes from. -/
theorem Stepped.fd_origin (stepped : state.Stepped cfg label next)
    (inTable : next.InTable key entry) (tagged : 0 ≤ entry.externalFd) :
    (∃ before, state.InTable key before ∧ before.externalFd = entry.externalFd) ∨
      (state.target cfg label = some (key, .setExternalFd entry.externalFd) ∧
        state.fdTaken cfg key entry.externalFd = false) := by
  obtain ⟨at_key, slot, here⟩ := inTable
  have old (bound : key < state.entries.length) : state.runtime.table.slots slot = some key :=
    (stepped.in_table here).resolve_right bound.ne
  cases stepped.ran at_key with
  | unchanged at_before =>
      exact .inl ⟨entry, ⟨at_before, slot, old (List.getElem?_eq_some_iff.mp at_before).1⟩, rfl⟩
  | @acted before act runtime at_before target enabled =>
      have linked := old (List.getElem?_eq_some_iff.mp at_before).1
      by_cases sets : ∃ fd, act = .setExternalFd fd
      · obtain ⟨fd, rfl⟩ := sets
        exact .inr ⟨target, target_setExternalFd target⟩
      · have kept : (act.run cfg ⟨key, before, runtime⟩).entry.externalFd = before.externalFd :=
          Act.run_externalFd fun fd same => sets ⟨fd, same⟩
        exact .inl ⟨before, ⟨at_before, slot, linked⟩, kept.symm⟩
  | reserved id opaqueVal isNew => cases tagged
  | accepted id opaqueVal env runtime isNew =>
      rw [Act.run_externalFd (by simp)] at tagged
      cases tagged

/-- No two entries in the table carry the same descriptor. -/
def DistinctFds (state : State) : Prop :=
  ∀ (key other : Nat) (entry found : Entry), state.InTable key entry → state.InTable other found →
    0 ≤ entry.externalFd → entry.externalFd = found.externalFd → key = other

theorem Wf.distinctFds_step (wf : state.Wf cfg) (stepped : state.Stepped cfg label next)
    (distinct : state.DistinctFds) : next.DistinctFds := by
  intro key other entry found inTable otherIn tagged same
  by_contra apart
  rcases stepped.fd_origin inTable tagged with ⟨before, wasIn, fd⟩ | ⟨target, free⟩
  · rcases stepped.fd_origin otherIn (same ▸ tagged) with ⟨was, wasOther, otherFd⟩ | ⟨-, free⟩
    · exact apart (distinct key other before was wasIn wasOther (fd ▸ tagged)
        (fd.trans (same.trans otherFd.symm)))
    · exact wf.free_of_untaken free wasIn apart (fd.trans same)
  · rcases stepped.fd_origin otherIn (same ▸ tagged) with ⟨was, wasOther, otherFd⟩ | ⟨also, -⟩
    · exact wf.free_of_untaken free wasOther (Ne.symm apart) (otherFd.trans same.symm)
    · have places := Option.some.inj (target.symm.trans also)
      exact apart (congrArg Prod.fst places)

theorem distinctFds_reachable (reached : (socketSystem cfg).Reachable state) :
    state.DistinctFds := by
  refine (reached.invariant (fun state => state.Wf cfg ∧ state.DistinctFds) ?_ ?_).2
  · refine ⟨Wf.init cfg, fun key other entry found inTable => ?_⟩
    simp [InTable, socketSystem, State.init] at inTable
  · rintro state label next ⟨wf, distinct⟩ run
    obtain ⟨stepped, wf'⟩ := wf.of_step run
    exact ⟨wf', wf.distinctFds_step stepped distinct⟩

end State

/-! ## Following the descriptors -/

def CommandBody.fd : CommandBody → Option Int
  | .bind fd => some fd
  | _ => none

/-- The call's command is in the queue, or was. -/
def WorkerPc.accepted : WorkerPc → Bool
  | .submitted | .done .ok (some _) => true
  | _ => false

namespace State

variable {cfg : Config} {state next final : State} {label : Label} {key : Nat} {entry : Entry}

def boundFds (commands : List Command) : List Int := commands.filterMap fun cmd => cmd.body.fd

/-- The entry whose handle adopts the descriptor of a `BIND` command: it is still
`RESERVED`, and `uv_tcp_init` and `uv_tcp_open` succeed. -/
def adopter (cfg : Config) (env : Env) (cmd : Command) (state : State) : Option Nat :=
  (state.findEntry cfg cmd.id).bind fun key =>
    state.entries[key]?.bind fun entry =>
      if cfg.externalFd = true ∧ entry.state = .reserved ∧ env.uv .tcpInit = 0 ∧
          env.uv .tcpOpen = 0 then some key
      else none

/-- What a step does to descriptors.  A token is a call and its descriptor, a holder
is a handle, named by the key of its entry.  The close callback of a handle is where
libuv has closed what the handle adopted. -/
def fdEvents (cfg : Config) (state : State) : Label → List (Custody.Event (Nat × Int) Nat)
  | .worker index _ =>
      match state.workers[index]? with
      | none => []
      | some worker =>
          match worker.pc with
          | .built cmd =>
              match cmd.body.fd with
              | some fd => if state.accepting then [.accepted (index, fd)] else []
              | none => []
          | _ => []
  | .command env =>
      match state.commands with
      | [] => []
      | cmd :: _ =>
          match cmd.body.fd with
          | none => []
          | some _ =>
              match state.adopter cfg env cmd with
              | some key => [.handed key]
              | none => [.dropped]
  | .closeEntry key => [.released key]
  | .releaseDone => List.replicate (boundFds state.commands).length .dropped
  | _ => []

end State

/-- Where the descriptors are after a run. -/
def descriptors (cfg : Config) (labels : List Label) : Inventory (Nat × Int) Nat :=
  Inventory.empty.recordAll ((socketSystem cfg).outputs (State.fdEvents cfg) State.init labels)

namespace State

variable {cfg : Config} {state next final : State} {label : Label} {key : Nat} {entry : Entry}

/-- A bind call whose command was accepted. -/
def Bound (state : State) (bind : Nat × Int) : Prop :=
  ∃ worker, state.workers[bind.1]? = some worker ∧ worker.call = .bind bind.2 ∧
    worker.pc.accepted = true

structure Accounts (books : Inventory (Nat × Int) Nat) (state : State) : Prop where
  queued : boundFds state.commands = books.queued.map Prod.snd
  held : ∀ item ∈ books.held, ∃ entry, state.entries[item.1]? = some entry ∧
    entry.initialized = true ∧ entry.freed = false
  nodup : books.all.Nodup
  owners : ∀ bind, bind ∈ books.all ↔ state.Bound bind

/-! ## Calls in progress -/

theorem bound_same (workers : next.workers = state.workers) (bind : Nat × Int) :
    next.Bound bind ↔ state.Bound bind := by
  rw [Bound, Bound, workers]

theorem bound_added {added : Worker} (workers : next.workers = state.workers ++ [added])
    (early : added.pc.accepted = false) (bind : Nat × Int) :
    next.Bound bind ↔ state.Bound bind := by
  rw [Bound, Bound, workers]
  constructor
  · rintro ⟨worker, at_index, call, accepted⟩
    rcases Nat.lt_or_ge bind.1 state.workers.length with old | isNew
    · rw [List.getElem?_append_left old] at at_index
      exact ⟨worker, at_index, call, accepted⟩
    · rw [List.getElem?_append_right isNew] at at_index
      have last := List.mem_singleton.mp (List.mem_of_getElem? at_index)
      rw [last, early] at accepted
      cases accepted
  · rintro ⟨worker, at_index, call, accepted⟩
    refine ⟨worker, ?_, call, accepted⟩
    rw [List.getElem?_append_left (List.getElem?_eq_some_iff.mp at_index).1, at_index]

theorem bound_moved {index : Nat} {worker : Worker} {pc : WorkerPc}
    (at_index : state.workers[index]? = some worker)
    (workers : next.workers = state.workers.set index { worker with pc := pc })
    (same : pc.accepted = worker.pc.accepted) (bind : Nat × Int) :
    next.Bound bind ↔ state.Bound bind := by
  have bound := (List.getElem?_eq_some_iff.mp at_index).1
  rw [Bound, Bound, workers]
  rcases eq_or_ne index bind.1 with here | elsewhere
  · rw [← here, List.getElem?_set_self bound, at_index]
    simp [same]
  · rw [List.getElem?_set_ne elsewhere]

/-- Submitting the command is what makes a bind call accepted. -/
theorem bound_submitted {index : Nat} {worker : Worker}
    (at_index : state.workers[index]? = some worker) (early : worker.pc.accepted = false)
    (workers : next.workers = state.workers.set index { worker with pc := .submitted })
    (bind : Nat × Int) :
    next.Bound bind ↔ (bind.1 = index ∧ worker.call = .bind bind.2) ∨ state.Bound bind := by
  have bound := (List.getElem?_eq_some_iff.mp at_index).1
  rw [Bound, Bound, workers]
  rcases eq_or_ne index bind.1 with here | elsewhere
  · rw [← here, List.getElem?_set_self bound, at_index]
    have now : WorkerPc.accepted .submitted = true := rfl
    simp [early, now]
  · rw [List.getElem?_set_ne elsewhere]
    simp [Ne.symm elsewhere]

/-! ## Handles in use -/

/-- An open handle stays until its close callback. -/
theorem Stepped.handle_kept (stepped : state.Stepped cfg label next) (wf : state.Wf cfg)
    (at_key : state.entries[key]? = some entry) (opened : entry.initialized = true)
    (alive : entry.freed = false) (other : label ≠ .closeEntry key) :
    ∃ after, next.entries[key]? = some after ∧ after.initialized = true ∧ after.freed = false := by
  obtain ⟨after, at_after, stays⟩ := stepped.keeps_open wf at_key opened
  refine ⟨after, at_after, stays, ?_⟩
  have bound := (List.getElem?_eq_some_iff.mp at_key).1
  cases stepped.evolved wf at_after with
  | unchanged same =>
      cases at_key.symm.trans same
      exact alive
  | acted act at_before target enabled move told =>
      cases at_key.symm.trans at_before
      rcases move.freeStep with ⟨same, -⟩ | ⟨-, -, freeing⟩
      · exact same.trans alive
      · cases freeing with
        | command command env bare => cases opened.symm.trans bare
        | scan scan bare => cases opened.symm.trans bare
        | accept env => cases opened.symm.trans enabled.2
        | discarded => cases opened.symm.trans enabled.2
        | closed =>
            have issued := target_issues target
            cases label with
            | closeEntry place =>
                cases target
                exact absurd rfl other
            | _ => cases issued
  | reserved id opaqueVal isNew => exact absurd isNew bound.ne
  | accepted id opaqueVal env isNew => exact absurd isNew bound.ne

/-- A handle that adopts a descriptor is open from then on. -/
theorem adopter_opens {env : Env} {cmd : Command} {rest : List Command} {fd : Int}
    (wf : state.Wf cfg) (stepped : state.Stepped cfg (.command env) next)
    (head : state.commands = cmd :: rest) (bind : cmd.body = .bind fd)
    (adopts : state.adopter cfg env cmd = some key) :
    ∃ after, next.entries[key]? = some after ∧ after.initialized = true ∧ after.freed = false := by
  obtain ⟨place, found, adopts⟩ := Option.bind_eq_some_iff.mp adopts
  obtain ⟨entry, at_key, adopts⟩ := Option.bind_eq_some_iff.mp adopts
  obtain ⟨⟨supported, reserved, made, -⟩, ⟨⟩⟩ := Option.ite_none_right_eq_some.mp adopts
  have target : state.target cfg (.command env) = some (key, .command cmd env) := by
    simp [State.target, head, bind, found]
  obtain ⟨enabled, runtime, at_after⟩ := stepped.performs wf target rfl at_key
  have fate : (Frame.runCommand cfg env cmd ⟨key, entry, runtime⟩).fate = (entry.freed, true) := by
    have opens : cmd.body.opens = true := by rw [bind]; rfl
    rw [Frame.fate_runCommand _ cmd opens, bind]
    simp [Frame.fateOf, CommandBody.setUp, reserved, supported, made]
  exact ⟨_, at_after, congrArg Prod.snd fate, (congrArg Prod.fst fate).trans enabled.1⟩

/-! ## One step -/

section Step

variable {books : Inventory (Nat × Int) Nat}

/-- A step that moves no descriptor. -/
theorem Accounts.quiet (accounts : state.Accounts books) (wf : state.Wf cfg)
    (stepped : state.Stepped cfg label next) (none : state.fdEvents cfg label = [])
    (commands : boundFds next.commands = boundFds state.commands)
    (bound : ∀ bind, next.Bound bind ↔ state.Bound bind) :
    next.Accounts (books.recordAll (state.fdEvents cfg label)) := by
  rw [none]
  refine ⟨commands.trans accounts.queued, fun item member => ?_, accounts.nodup,
    fun bind => (accounts.owners bind).trans (bound bind).symm⟩
  obtain ⟨entry, at_key, opened, alive⟩ := accounts.held item member
  refine stepped.handle_kept wf at_key opened alive ?_
  rintro rfl
  simp [fdEvents] at none

theorem boundFds_push {cmd : Command} (unbound : ∀ fd, cmd.body ≠ .bind fd)
    (commands : List Command) :
    boundFds (commands ++ [cmd]) = boundFds commands := by
  have none : cmd.body.fd = none := by
    cases body : cmd.body with
    | bind fd => exact absurd body (unbound fd)
    | _ => rfl
  simp [boundFds, none]

/-- No other call queues a `BIND` command. -/
theorem Called.boundFds {call : ApiCall} (called : state.Called call next) :
    boundFds next.commands = boundFds state.commands := by
  cases called with
  | unchanged | refused | copyFreed | timed => rfl
  | pushed cmd accepting plain notExit unbound => exact boundFds_push unbound _
  | sent cmd payload ownership accepting carries =>
      refine boundFds_push (fun fd bind => ?_) _
      simp [bind, CommandBody.payload] at carries
  | exit => exact boundFds_push (by simp) _

/-- The steps that change the command queue or a call in progress. -/
def calls : Label → Bool
  | .api _ _ | .openCall _ _ _ | .worker _ _ | .command _ | .releaseDone => true
  | _ => false

theorem Stepped.keeps_calls (stepped : state.Stepped cfg label next) (other : calls label = false) :
    next.commands = state.commands ∧ next.workers = state.workers := by
  cases stepped with
  | called | opened | worker | unknown | exitBegun | releaseDone => cases other
  | polled polled => exact ⟨polled.kept.2.2.1, polled.kept.2.1⟩
  | moved | exitEnded | signal | releaseEnded => exact ⟨rfl, rfl⟩
  | acted target at_key enabled ready =>
      rw [focus_commands, focus_workers]
      cases ready with
      | command cmd rest env =>
          have issued := target_issues target
          cases label with
          | command => cases other
          | _ => cases issued
      | exitScan | releaseScan | pump | callback => exact ⟨rfl, rfl⟩
  | @accept key status env listener running at_key listening =>
      obtain ⟨_, _, same⟩ := state.accept_shape cfg key listener status env
      rw [same]
      exact ⟨rfl, rfl⟩

theorem OpenCall.body_fd {call : OpenCall} {fd : Int} (bind : call.body.fd = some fd) :
    call = .bind fd := by
  cases call with
  | bind other =>
      cases bind
      rfl
  | _ => cases bind

/-- What holds of open handles still holds after a step that closes none. -/
theorem Accounts.still_held (accounts : state.Accounts books) (wf : state.Wf cfg)
    (stepped : state.Stepped cfg label next) (other : ∀ key, label ≠ .closeEntry key)
    {item : Nat × (Nat × Int)} (member : item ∈ books.held) :
    ∃ entry, next.entries[item.1]? = some entry ∧ entry.initialized = true ∧
      entry.freed = false := by
  obtain ⟨entry, at_key, opened, alive⟩ := accounts.held item member
  exact stepped.handle_kept wf at_key opened alive (other item.1)

theorem Accounts.submitted {index : Nat} {env : Env} {worker : Worker} {cmd : Command}
    (accounts : state.Accounts books) (wf : state.Wf cfg)
    (at_index : state.workers[index]? = some worker) (pc : worker.pc = .built cmd)
    (accepting : state.accepting = true)
    (stepped : state.Stepped cfg (.worker index env)
      ({ state with commands := state.commands ++ [cmd] }.setWorker index worker .submitted)) :
    ({ state with commands := state.commands ++ [cmd] }.setWorker index worker .submitted).Accounts
      (books.recordAll (state.fdEvents cfg (.worker index env))) := by
  have named := (wf.workers worker (List.mem_of_getElem? at_index)).named cmd pc
  have body : cmd.body = worker.call.body := by rw [named]
  have early : worker.pc.accepted = false := by rw [pc]; rfl
  have bound (bind : Nat × Int) :
      ({ state with commands := state.commands ++ [cmd] }.setWorker index worker .submitted).Bound
        bind ↔ (bind.1 = index ∧ worker.call = .bind bind.2) ∨ state.Bound bind :=
    bound_submitted at_index early rfl bind
  cases fd : cmd.body.fd with
  | none =>
      refine accounts.quiet wf stepped (by simp [fdEvents, at_index, pc, fd]) ?_ fun bind => ?_
      · simp [setWorker, boundFds, fd]
      · rw [bound bind]
        refine or_iff_right ?_
        rintro ⟨-, call⟩
        rw [body, call] at fd
        cases fd
  | some fd' =>
      have call : worker.call = .bind fd' := OpenCall.body_fd (body ▸ fd)
      have events : state.fdEvents cfg (.worker index env) = [.accepted (index, fd')] := by
        simp [fdEvents, at_index, pc, fd, accepting]
      have unbound : (index, fd') ∉ books.all := by
        rw [accounts.owners]
        rintro ⟨found, at_found, -, accepted⟩
        cases at_index.symm.trans at_found
        cases early.symm.trans accepted
      have perm := books.all_accepted (index, fd')
      rw [events]
      refine ⟨?_, fun item member => ?_, ?_, fun bind => ?_⟩
      · simp [Inventory.recordAll, Inventory.record, setWorker, boundFds, fd, ← accounts.queued]
      · exact accounts.still_held wf stepped (by simp) member
      · exact (perm.nodup_iff).mpr (List.nodup_cons.mpr ⟨unbound, accounts.nodup⟩)
      · have own : bind = (index, fd') ↔ bind.1 = index ∧ worker.call = .bind bind.2 := by
          rw [call, Prod.ext_iff, OpenCall.bind.injEq]
          exact and_congr_right fun _ => eq_comm
        rw [bound bind, ← accounts.owners bind, ← own, ← List.mem_cons]
        exact perm.mem_iff

theorem Accounts.worker {index : Nat} {env : Env} {worker : Worker}
    (accounts : state.Accounts books) (wf : state.Wf cfg)
    (stepped : state.Stepped cfg (.worker index env) next)
    (at_index : state.workers[index]? = some worker)
    (run : state.workerStep cfg index worker env = some next) :
    next.Accounts (books.recordAll (state.fdEvents cfg (.worker index env))) := by
  by_cases built : ∃ cmd, worker.pc = .built cmd
  · obtain ⟨cmd, pc⟩ := built
    by_cases accepting : state.accepting = true
    · simp only [workerStep, pc, push, if_pos accepting] at run
      cases run
      exact accounts.submitted wf at_index pc accepting stepped
    · simp only [workerStep, pc, push, if_neg accepting] at run
      cases run
      refine accounts.quiet wf stepped ?_ rfl (bound_moved at_index rfl (by rw [pc]; rfl))
      simp only [fdEvents, at_index, pc, if_neg accepting]
      split <;> rfl
  · have silent : state.fdEvents cfg (.worker index env) = [] := by
      simp only [fdEvents, at_index]
      split
      · exact absurd ⟨_, ‹_›⟩ built
      · rfl
    have moved (pc : WorkerPc) (commands : next.commands = state.commands)
        (workers : next.workers = state.workers.set index { worker with pc := pc })
        (same : pc.accepted = worker.pc.accepted) :
        next.Accounts (books.recordAll (state.fdEvents cfg (.worker index env))) :=
      accounts.quiet wf stepped silent (by rw [commands]) (bound_moved at_index workers same)
    cases workerStep_worked run with
    | progressed progress =>
        cases progress with
        | skipped pc | taken fd pc | built entry pc | unbuilt pc | counted result pc
        | returned entry pc => exact moved _ rfl rfl (by rw [pc]; rfl)
        | ended result pc => exact moved _ rfl rfl (by rw [pc]; cases result <;> rfl)
        | stopped command pc => exact absurd ⟨command, pc⟩ built
    | faulted => exact accounts.quiet wf stepped silent rfl (bound_same rfl)
    | tagged fd entry pc =>
        exact moved .checked (focus_commands _ _ _) (by rw [setWorker, focus_workers])
          (by rw [pc]; rfl)
    | submitted command pc => exact absurd ⟨command, pc⟩ built
    | unlinked result entry pc => exact moved _ rfl rfl (by rw [pc]; rfl)
    | freed result entry pc =>
        exact moved (.freed result) (focus_commands _ _ _) (by rw [setWorker, focus_workers])
          (by rw [pc]; rfl)
    | decided result pc => exact moved _ rfl rfl (by rw [pc]; cases result <;> rfl)

/-- The `BIND` commands in front of the queue and of the books agree. -/
theorem Accounts.head {cmd : Command} {rest : List Command} {fd : Int}
    (accounts : state.Accounts books) (commands : state.commands = cmd :: rest)
    (bind : cmd.body.fd = some fd) :
    ∃ token tokens, books.queued = token :: tokens ∧ boundFds rest = tokens.map Prod.snd := by
  have queued := accounts.queued
  rw [commands, boundFds, List.filterMap_cons, bind] at queued
  cases waiting : books.queued with
  | nil => simp [waiting] at queued
  | cons token tokens =>
      rw [waiting] at queued
      exact ⟨token, tokens, rfl, (List.cons.inj queued).2⟩

theorem Accounts.command {env : Env} {cmd : Command} {rest : List Command}
    (accounts : state.Accounts books) (wf : state.Wf cfg)
    (stepped : state.Stepped cfg (.command env) next) (head : state.commands = cmd :: rest)
    (commands : next.commands = rest) (workers : next.workers = state.workers) :
    next.Accounts (books.recordAll (state.fdEvents cfg (.command env))) := by
  cases fd : cmd.body.fd with
  | none =>
      refine accounts.quiet wf stepped (by simp [fdEvents, head, fd]) ?_ (bound_same workers)
      rw [commands, head, boundFds, boundFds, List.filterMap_cons, fd]
  | some fd' =>
      obtain ⟨token, tokens, queued, same⟩ := accounts.head head fd
      cases adopts : state.adopter cfg env cmd with
      | none =>
          have events : state.fdEvents cfg (.command env) = [.dropped] := by
            simp [fdEvents, head, fd, adopts]
          have perm := books.all_dropped
          rw [events]
          refine ⟨?_, fun item member => ?_, perm.nodup_iff.mpr accounts.nodup, fun bind => ?_⟩
          · simp [Inventory.recordAll, Inventory.record, queued, commands, same]
          · refine accounts.still_held wf stepped (by simp) ?_
            simpa [Inventory.recordAll, Inventory.record, queued] using member
          · rw [bound_same workers, ← accounts.owners bind]
            exact perm.mem_iff
      | some key =>
          have events : state.fdEvents cfg (.command env) = [.handed key] := by
            simp [fdEvents, head, fd, adopts]
          have perm := books.all_handed key
          have body : cmd.body = .bind fd' := by
            cases found : cmd.body <;> simp_all [CommandBody.fd]
          rw [events]
          refine ⟨?_, fun item member => ?_, perm.nodup_iff.mpr accounts.nodup, fun bind => ?_⟩
          · simp [Inventory.recordAll, Inventory.record, queued, commands, same]
          · have cases_ : item ∈ books.held ∨ item = (key, token) := by
              simpa [Inventory.recordAll, Inventory.record, queued] using member
            rcases cases_ with before | rfl
            · exact accounts.still_held wf stepped (by simp) before
            · exact adopter_opens wf stepped head body adopts
          · rw [bound_same workers, ← accounts.owners bind]
            exact perm.mem_iff

theorem Accounts.closed (accounts : state.Accounts books) (wf : state.Wf cfg)
    (stepped : state.Stepped cfg (.closeEntry key) next) :
    next.Accounts (books.recordAll (state.fdEvents cfg (.closeEntry key))) := by
  obtain ⟨commands, workers⟩ := stepped.keeps_calls rfl
  have perm := books.all_released key
  refine ⟨?_, fun item member => ?_, perm.nodup_iff.mpr accounts.nodup, fun bind => ?_⟩
  · rw [commands]
    exact accounts.queued
  · obtain ⟨member, other⟩ := List.mem_filter.mp member
    obtain ⟨entry, at_key, opened, alive⟩ := accounts.held item member
    refine stepped.handle_kept wf at_key opened alive ?_
    rintro ⟨⟩
    simp at other
  · rw [bound_same workers, ← accounts.owners bind]
    exact perm.mem_iff

theorem Accounts.released (accounts : state.Accounts books) (wf : state.Wf cfg)
    (stepped : state.Stepped cfg .releaseDone state.releaseDone) :
    state.releaseDone.Accounts (books.recordAll (state.fdEvents cfg .releaseDone)) := by
  have count : (boundFds state.commands).length = books.queued.length := by
    rw [accounts.queued, List.length_map]
  have perm := books.all_recordAll_dropped (boundFds state.commands).length
  refine ⟨?_, fun item member => ?_, perm.nodup_iff.mpr accounts.nodup, fun bind => ?_⟩
  · rw [fdEvents, Inventory.recordAll_dropped, count, List.drop_length]
    rfl
  · rw [fdEvents, Inventory.recordAll_dropped] at member
    exact accounts.still_held wf stepped (by simp) member
  · exact perm.mem_iff.trans ((accounts.owners bind).trans (bound_same rfl bind).symm)

theorem consumeCommand_calls (cfg : Config) (env : Env) (cmd : Command) (rest : List Command)
    (state : State) :
    (state.consumeCommand cfg env cmd rest).commands = rest ∧
      (state.consumeCommand cfg env cmd rest).workers = state.workers := by
  unfold consumeCommand
  dsimp only
  split
  · exact ⟨rfl, rfl⟩
  · split
    · exact ⟨rfl, rfl⟩
    · exact ⟨focus_commands _ _ _, focus_workers _ _ _⟩

theorem Accounts.step (accounts : state.Accounts books) (wf : state.Wf cfg)
    (run : step cfg state label = some next) :
    next.Accounts (books.recordAll (state.fdEvents cfg label)) := by
  have stepped := (wf.of_step run).1
  obtain ⟨-, live⟩ := Option.ite_none_right_eq_some.mp run
  cases label with
  | api call env =>
      obtain ⟨-, ⟨⟩⟩ := Option.ite_none_right_eq_some.mp live
      have called := state.api_called call env
      exact accounts.quiet wf stepped rfl called.boundFds (bound_same called.workers.1)
  | openCall call opaqueVal env =>
      obtain ⟨-, ⟨⟩⟩ := Option.ite_none_right_eq_some.mp live
      have opened := openCall_opened cfg call opaqueVal env state
      refine accounts.quiet wf stepped rfl ?_ ?_
      · generalize state.openCall cfg call opaqueVal env = next at opened
        cases opened <;> rfl
      · generalize state.openCall cfg call opaqueVal env = next at opened
        cases opened with
        | failed => exact bound_same rfl
        | reserved slot cursor pc slotBound free valid early =>
            refine bound_added rfl ?_
            rcases early with rfl | rfl <;> rfl
  | worker index env =>
      obtain ⟨-, live⟩ := Option.ite_none_right_eq_some.mp live
      obtain ⟨worker, at_index, worked⟩ := Option.bind_eq_some_iff.mp live
      exact accounts.worker wf stepped at_index worked
  | command env =>
      obtain ⟨-, live⟩ := Option.ite_none_right_eq_some.mp live
      split at live
      · cases live
      · rename_i cmd rest head
        cases live
        obtain ⟨commands, workers⟩ := state.consumeCommand_calls cfg env cmd rest
        exact accounts.command wf stepped head commands workers
  | closeEntry key => exact accounts.closed wf stepped
  | releaseDone =>
      obtain ⟨-, ⟨⟩⟩ := Option.ite_none_right_eq_some.mp live
      exact accounts.released wf stepped
  | _ =>
      obtain ⟨commands, workers⟩ := stepped.keeps_calls rfl
      exact accounts.quiet wf stepped rfl (by rw [commands]) (bound_same workers)

/-! ## Losing a descriptor -/

/-- The step loses no descriptor: a `BIND` command is processed while its entry is
`RESERVED`, with `uv_tcp_init` and `uv_tcp_open` successful, and none is left in the
queue when the runtime is gone. -/
def takesBinds (cfg : Config) (state : State) : Label → Bool
  | .command env =>
      match state.commands with
      | [] => true
      | cmd :: _ => cmd.body.fd.isNone || (state.adopter cfg env cmd).isSome
  | .releaseDone => (boundFds state.commands).isEmpty
  | _ => true

theorem Accounts.lost_step (accounts : state.Accounts books) (cfg : Config) (label : Label) :
    state.takesBinds cfg label = true ↔
      (books.recordAll (state.fdEvents cfg label)).lost = books.lost := by
  cases label with
  | worker index env =>
      refine iff_of_true rfl ?_
      dsimp only [fdEvents]
      repeat' split
      all_goals rfl
  | command env =>
      cases commands : state.commands with
      | nil => simp [takesBinds, fdEvents, commands]
      | cons cmd rest =>
          cases fd : cmd.body.fd with
          | none => simp [takesBinds, fdEvents, commands, fd]
          | some fd' =>
              obtain ⟨token, tokens, queued, -⟩ := accounts.head commands fd
              cases adopts : state.adopter cfg env cmd with
              | none | some key =>
                  simp [takesBinds, fdEvents, commands, fd, adopts,
                    Inventory.recordAll, Inventory.record, queued]
  | releaseDone =>
      have count : (boundFds state.commands).length = books.queued.length := by
        rw [accounts.queued, List.length_map]
      rw [takesBinds, fdEvents, Inventory.recordAll_dropped, count, List.take_length,
        List.append_right_eq_self, accounts.queued]
      simp
  | _ => exact iff_of_true rfl rfl

/-- A run loses no descriptor exactly when none of its steps does. -/
theorem Accounts.lost_run {labels : List Label} (accounts : state.Accounts books)
    (wf : state.Wf cfg)
    (run : (socketSystem cfg).exec state labels = some final) :
    (socketSystem cfg).Along (fun state label => state.takesBinds cfg label = true) state labels ↔
      (books.recordAll ((socketSystem cfg).outputs (fdEvents cfg) state labels)).lost =
        books.lost := by
  induction labels generalizing state books with
  | nil => exact iff_of_true trivial rfl
  | cons label rest ih =>
      obtain ⟨next, first, tail⟩ := System.exec_cons run
      have onward := ih (accounts.step wf first) (wf.of_step first).2 tail
      have here := accounts.lost_step cfg label
      have grown := books.lost_recordAll (state.fdEvents cfg label)
      have later := (books.recordAll (state.fdEvents cfg label)).lost_recordAll
        ((socketSystem cfg).outputs (fdEvents cfg) next rest)
      have split : (socketSystem cfg).outputs (fdEvents cfg) state (label :: rest) =
          state.fdEvents cfg label ++ (socketSystem cfg).outputs (fdEvents cfg) next rest := by
        rw [System.outputs, first]
      rw [split, Inventory.recordAll_append]
      constructor
      · rintro ⟨takes, along⟩
        exact (onward.mp (along next first)).trans (here.mp takes)
      · intro same
        -- what was lost at the first step would still be lost at the end
        have unlost : (books.recordAll (state.fdEvents cfg label)).lost = books.lost :=
          (grown.eq_of_length (le_antisymm grown.length_le (same ▸ later.length_le))).symm
        refine ⟨here.mpr unlost, fun other step => ?_⟩
        cases first.symm.trans step
        exact onward.mpr (same.trans unlost.symm)

end Step

/-! ## The end of a run -/

/-- The release waits for the calls in progress. -/
def Retired (state : State) : Prop :=
  state.pc.live = false → ∀ worker ∈ state.workers, worker.pc.isDone = true

theorem Stepped.retired (stepped : state.Stepped cfg label next) (retired : state.Retired) :
    next.Retired := by
  intro dead
  have alive (live : state.pc.live = true) (same : next.pc = state.pc) : False := by
    rw [same, live] at dead
    cases dead
  cases stepped with
  | called call env live called => exact (alive live called.pc).elim
  | opened call opaqueVal env live opened => exact (alive live opened.pc).elim
  | worker index env live at_index worked => exact (alive live worked.pc).elim
  | polled polled => rcases polled.pc with pc | pc <;> simp [pc, LoopPc.live] at dead
  | moved moved =>
      cases moved with
      | release outside done => exact done
      | releaseSkipped slot scanning => exact retired (by rw [scanning]; rfl)
      | _ => cases dead
  | unknown cmd rest env consuming => exact (alive (by rw [consuming]; rfl) rfl).elim
  | exitBegun | exitEnded => cases dead
  | acted target at_key enabled ready =>
      rw [focus_workers]
      rw [focus_pc] at dead
      cases ready with
      | command cmd rest env place | pump env rest place => simp [place, LoopPc.live] at dead
      | exitScan => cases dead
      | releaseScan slot scanning => exact retired (by rw [scanning]; rfl)
      | callback => exact retired dead
  | @accept key status env listener running at_key listening =>
      obtain ⟨_, _, same⟩ := state.accept_shape cfg key listener status env
      rw [same] at dead ⊢
      exact retired dead
  | signal signal env running => exact (alive (by rw [running]; rfl) rfl).elim
  | releaseEnded slot scanning => exact retired (by rw [scanning]; rfl)
  | releaseDone running => exact retired (by rw [running]; rfl)

theorem accounts_init : State.init.Accounts (Inventory.empty : Inventory (Nat × Int) Nat) := by
  refine ⟨rfl, by simp [Inventory.empty], by simp [Inventory.empty, Inventory.all], fun bind => ?_⟩
  simp [Inventory.empty, Inventory.all, Bound, State.init]

/-- What is known of the books of a run. -/
theorem accounts_of_run {labels : List Label}
    (run : (socketSystem cfg).exec State.init labels = some final) :
    final.Accounts (descriptors cfg labels) ∧ final.Retired := by
  have along : (socketSystem cfg).Along (fun _ _ => True) State.init labels :=
    .of_forall (fun _ _ => trivial) _ _
  have start : State.init.Accounts (Inventory.empty.recordAll []) ∧ State.init.Retired :=
    ⟨accounts_init, by simp [Retired, State.init]⟩
  refine System.exec_outputs (fdEvents cfg)
    (fun told state => state.Accounts (Inventory.empty.recordAll told) ∧ state.Retired) ?_
    System.Reachable.start start along run
  rintro told state label next reached ⟨accounts, retired⟩ - step
  have wf := wf_reachable reached
  rw [Inventory.recordAll_append]
  exact ⟨accounts.step wf step, (wf.of_step step).1.retired retired⟩

/-- When the runtime is gone, every handle has been closed. -/
theorem released_dead (reached : (socketSystem cfg).Reachable state) (done : state.pc = .released) :
    ∀ entry ∈ state.entries, entry.initialized = true → entry.freed = true := by
  refine (reached.invariant (fun state => state.Wf cfg ∧ (state.pc = .released →
    ∀ entry ∈ state.entries, entry.initialized = true → entry.freed = true)) ?_ ?_).2 done
  · exact ⟨Wf.init cfg, fun done => nomatch done⟩
  · rintro state label next ⟨wf, -⟩ run
    refine ⟨(wf.of_step run).2, fun done entry member => ?_⟩
    obtain ⟨rfl, dead⟩ := (wf.of_step run).1.released done
    simp only [loopAlive, Bool.or_eq_false_iff, List.any_eq_false] at dead
    simpa using dead.2 entry member

/-- At the end a descriptor was closed or lost. -/
theorem descriptors_released {labels : List Label}
    (run : (socketSystem cfg).exec State.init labels = some final) (done : final.pc = .released) :
    (descriptors cfg labels).all =
      (descriptors cfg labels).released ++ (descriptors cfg labels).lost := by
  have reached : (socketSystem cfg).Reachable final := ⟨labels, run⟩
  obtain ⟨accounts, -⟩ := accounts_of_run run
  have unqueued : (descriptors cfg labels).queued = [] := by
    have queued := accounts.queued
    rw [(released_empty reached done).1] at queued
    exact List.map_eq_nil_iff.mp queued.symm
  have unheld : (descriptors cfg labels).held = [] := by
    refine List.eq_nil_iff_forall_not_mem.mpr fun item member => ?_
    obtain ⟨entry, at_key, opened, alive⟩ := accounts.held item member
    cases (released_dead reached done entry (List.mem_of_getElem? at_key) opened).symm.trans alive
  rw [Inventory.all, unqueued, unheld, List.map_nil, List.nil_append, List.nil_append]

/-- A call that returned `SKYUV_OK`. -/
theorem bound_of_done {index : Nat} {worker : Worker} {fd id : Int}
    (at_index : state.workers[index]? = some worker) (call : worker.call = .bind fd)
    (pc : worker.pc = .done .ok (some id)) : state.Bound (index, fd) :=
  ⟨worker, at_index, call, by rw [pc]; rfl⟩

theorem Bound.done {bind : Nat × Int} (bound : state.Bound bind) (retired : state.Retired)
    (dead : state.pc.live = false) :
    ∃ worker id, state.workers[bind.1]? = some worker ∧ worker.call = .bind bind.2 ∧
      worker.pc = .done .ok (some id) := by
  obtain ⟨worker, at_index, call, accepted⟩ := bound
  have finished := retired dead worker (List.mem_of_getElem? at_index)
  cases pc : worker.pc with
  | done result id =>
      rw [pc] at accepted
      cases result with
      | ok =>
          cases id with
          | some id => exact ⟨worker, id, at_index, call, pc⟩
          | none => cases accepted
      | _ => cases accepted
  | _ => simp [pc, WorkerPc.isDone] at finished

end State

/-- A released runtime has closed the descriptor of every bind call that succeeded
exactly when no `BIND` command was lost.  It closes none twice, and never has one in
two entries of the table. -/
theorem external_fd_closed_iff (cfg : Config) (labels : List Label) (final : State)
    (run : (socketSystem cfg).exec State.init labels = some final) :
    (final.pc = .released →
      ((∀ (index : Nat) (worker : Worker) (fd id : Int),
          final.workers[index]? = some worker → worker.call = .bind fd →
          worker.pc = .done .ok (some id) →
          (descriptors cfg labels).released.count (index, fd) = 1) ↔
        (socketSystem cfg).Along (fun state label => state.takesBinds cfg label = true)
          State.init labels)) ∧
    (∀ bind, (descriptors cfg labels).released.count bind ≤ 1) ∧ final.DistinctFds := by
  obtain ⟨accounts, retired⟩ := State.accounts_of_run run
  have closedOnce : (descriptors cfg labels).released.Nodup := by
    have nodup := accounts.nodup
    rw [Inventory.all, List.nodup_append, List.nodup_append, List.nodup_append] at nodup
    exact nodup.2.1.2.1.1
  refine ⟨fun done => ?_, List.nodup_iff_count_le_one.mp closedOnce,
    State.distinctFds_reachable ⟨labels, run⟩⟩
  rw [State.accounts_init.lost_run (State.Wf.init cfg) run]
  have ends := State.descriptors_released run done
  have disjoint := accounts.nodup
  rw [ends, List.nodup_append] at disjoint
  constructor
  · intro closed
    refine List.eq_nil_iff_forall_not_mem.mpr fun bind lost => ?_
    have bound := (accounts.owners bind).mp (by rw [ends]; exact List.mem_append_right _ lost)
    obtain ⟨worker, id, at_index, call, pc⟩ := bound.done retired (by rw [done]; rfl)
    have once := closed bind.1 worker bind.2 id at_index call pc
    have member := List.count_pos_iff.mp (by rw [once]; exact Nat.one_pos)
    exact disjoint.2.2 bind member bind lost rfl
  · intro lost index worker fd id at_index call pc
    have member := (accounts.owners (index, fd)).mpr (State.bound_of_done at_index call pc)
    have kept : (descriptors cfg labels).lost = [] := lost
    rw [ends, kept, List.append_nil] at member
    exact List.count_eq_one_of_mem closedOnce member

/-- Descriptor 5 is handed over, and the call returns `SKYUV_OK`. -/
def bindRun : List Label :=
  [.openCall (.bind 5) 7 .fine, .worker 0 .fine, .worker 0 .fine, .worker 0 .fine, .worker 0 .fine]

/-- The loop processes the command with these answers, and returns. -/
def processRun (env : Env) : List Label :=
  [.poll .fine, .wakeup, .command env, .commandsDone, .pumpDone, .runReturned false]

/-- `skyuv_socket_runtime_release` with the close callbacks of the given entries. -/
def releaseRun (closing : List Nat) : List Label :=
  [.release, .releaseStep, .releaseStep, .releaseStep, .releaseStep, .releaseStep] ++
    closing.map Label.closeEntry ++ [.releaseDone]

def adoptedRun : List Label := bindRun ++ processRun .fine ++ releaseRun [0]

def adoptedState : State := ((socketSystem fourSlots).exec State.init adoptedRun).get (by decide)

def adoptedWorker : Worker := adoptedState.workers[0]?.get (by decide)

theorem external_fd_closed_iff_adopted :
    adoptedState.pc = .released ∧
      (descriptors fourSlots adoptedRun).released.count (0, 5) = 1 := by
  refine ⟨by decide, ?_⟩
  obtain ⟨ends, -, -⟩ := external_fd_closed_iff fourSlots adoptedRun adoptedState
    (Option.some_get _).symm
  exact (ends (by decide)).mpr (by decide) 0 adoptedWorker 5 4
    (Option.some_get (by decide)).symm rfl
    rfl

def Env.unopenable : Env :=
  { Env.fine with uv := fun call => if call = .tcpOpen then uvEinval else 0 }

/-- The descriptor stays open when the runtime is released before it processes the
command, and when `uv_tcp_open` refuses it. -/
theorem external_fd_leaked :
    (∃ final worker, (socketSystem fourSlots).exec State.init
      (bindRun ++ releaseRun []) = some final ∧
      final.pc = .released ∧ final.workers = [worker] ∧ worker.call = .bind 5 ∧
      worker.pc = .done .ok (some 4) ∧
      (descriptors fourSlots (bindRun ++ releaseRun [])).released = []) ∧
    ∃ final worker, (socketSystem fourSlots).exec State.init
        (bindRun ++ processRun .unopenable ++ releaseRun [0]) = some final ∧
      final.pc = .released ∧ final.workers = [worker] ∧ worker.call = .bind 5 ∧
      worker.pc = .done .ok (some 4) ∧
      (descriptors fourSlots
        (bindRun ++ processRun .unopenable ++ releaseRun [0])).released = [] := by
  refine ⟨⟨_, _, (Option.some_get (by decide)).symm, by decide, rfl, rfl, rfl, by decide⟩,
    _, _, (Option.some_get (by decide)).symm, by decide, rfl, rfl, rfl, by decide⟩

end Skyuv.Socket
