import Skyuv.Lib.LinkedQueue
import Skyuv.Socket.ExternalFd

/-!
# The pump list

`process_send` puts an entry on the pump list and `consume_commands` empties the
list before it returns.  In between the commands that follow in the same batch
may close the entry or end the runtime.  They do not take it out of the list:
what keeps the list safe is that an entry on it has an open handle, so that the
loop does not discard it, and that the close callback comes later.

Each step's effect on the list comes first, then the pointers: `pump_head`,
`pump_tail` and the `pump_next` of each entry.
-/

set_option autoImplicit false

namespace Skyuv.Socket

open TransitionSystem LinkedQueue

namespace State

variable {cfg : Config} {state next : State} {label : Label} {key : Nat} {entry : Entry}

/-- A listed entry has an open handle and is in memory. -/
theorem Wf.listed_open (wf : state.Wf cfg) (listed : key ∈ state.runtime.pumpList) :
    ∃ entry, state.entries[key]? = some entry ∧ entry.pumpPending = true ∧
      entry.initialized = true ∧ entry.freed = false := by
  obtain ⟨entry, at_key, pending⟩ := (wf.listed.marked key).mp listed
  have sound := wf.sound key entry at_key
  have unquiet : ¬ entry.life.Quiet := by
    rintro ⟨-, -, -, -, -, -, -, -, unlisted⟩
    rw [show entry.life.pumpPending = true from pending] at unlisted
    cases unlisted
  refine ⟨entry, at_key, pending, ?_, ?_⟩
  · by_contra bare
    exact unquiet (sound.bare (Bool.eq_false_iff.mpr bare)).1
  · by_contra dead
    exact unquiet (sound.dead (Bool.not_eq_false _ ▸ dead)).1

/-! ## What each step does to the list -/

/-- Only a command makes the list longer, by the entry that it found and marks. -/
theorem focus_pumpList (at_key : state.entries[key]? = some entry) (act : Act) :
    (state.focus cfg key act).runtime.pumpList = state.runtime.pumpList ∨
      ∃ command env found, act = .command command env ∧ entry.pumpPending = false ∧
        (state.focus cfg key act).runtime.pumpList = state.runtime.pumpList ++ [key] ∧
        (state.focus cfg key act).entries[key]? = some found ∧ found.pumpPending = true := by
  have outcome := act.run_outcome cfg ⟨key, entry, state.runtime⟩
  rw [focus_eq state at_key]
  dsimp only
  revert outcome
  generalize act.run cfg ⟨key, entry, state.runtime⟩ = after
  intro outcome
  cases outcome with
  | kept pump yields | unpumped env yields | cleared slot yields | freed yields =>
      exact .inl yields.pumpList
  | unlinked unlinks yields =>
      exact .inl (yields.pumpList.trans (Frame.unlinkedRuntime_pumpList _))
  | listed command env unlisted yields =>
      exact .inr ⟨command, env, after.entry, rfl, unlisted, yields.pumpList,
        getElem?_set_here at_key, yields.listed⟩

theorem focus_unlisting {act : Act} (at_key : state.entries[key]? = some entry)
    (other : ∀ command env, act ≠ .command command env) :
    (state.focus cfg key act).runtime.pumpList = state.runtime.pumpList := by
  rcases focus_pumpList at_key act with same | ⟨command, env, _, isCommand, -⟩
  · exact same
  · exact absurd isCommand (other command env)

/-- `pump_pending` of the entry. -/
def marked (state : State) (key : Nat) : Bool := state.entries[key]?.any Entry.pumpPending

theorem Wf.marked_iff (wf : state.Wf cfg) (key : Nat) :
    state.marked key = true ↔ key ∈ state.runtime.pumpList := by
  rw [wf.listed.marked key, marked, Option.any_eq_true]

/-- The entry that the next command is for. -/
def commandKey (cfg : Config) (state : State) : Option Nat :=
  match state.commands with
  | [] => none
  | command :: _ => state.findEntry cfg command.id

/-- What a step makes of the pump list. -/
inductive Relisted (cfg : Config) (state next : State) : Label → Prop
  | same {label : Label} (pumpList : next.runtime.pumpList = state.runtime.pumpList) :
      Relisted cfg state next label
  | longer (env : Env) (key : Nat) (found : state.commandKey cfg = some key)
      (before : state.marked key = false) (after : next.marked key = true)
      (pumpList : next.runtime.pumpList = state.runtime.pumpList ++ [key]) :
      Relisted cfg state next (.command env)
  | shorter (env : Env) (key : Nat)
      (pumpList : state.runtime.pumpList = key :: next.runtime.pumpList) :
      Relisted cfg state next (.pump env)

theorem pumpStep_pumpList (at_key : state.entries[key]? = some entry) (env : Env)
    (rest : List Nat) : (state.pumpStep cfg env key rest).runtime.pumpList = rest :=
  focus_unlisting at_key (by simp)

/-- An act of the loop on an entry.  Callbacks run outside `consume_commands`. -/
theorem Relisted.acted {act : Act} {prepared : State}
    (target : state.target cfg label = some (key, act)) (at_key : state.entries[key]? = some entry)
    (ready : state.Prepared cfg key entry act prepared) :
    Relisted cfg state (prepared.focus cfg key act) label := by
  have issued := target_issues target
  cases ready with
  | command cmd rest env consuming head plain found =>
      have here : ({ state with commands := rest } : State).entries[key]? = some entry := at_key
      cases label with
      | command env' =>
          rcases focus_pumpList here (.command cmd env) with
            same | ⟨_, _, after, -, unlisted, grown, at_after, listed⟩
          · exact .same same
          · refine .longer env' key ?_ ?_ ?_ grown
            · rw [commandKey, head]
              exact found
            · rw [marked, at_key]
              exact unlisted
            · rw [marked, at_after]
              exact listed
      | _ => cases issued
  | exitScan slot scanning occupied =>
      have here : ({ state with pc := .exitScan (slot + 1) } : State).entries[key]? = some entry :=
        at_key
      exact .same (focus_unlisting here (by simp))
  | releaseScan slot scanning occupied =>
      have here : ({ state with pc := .releaseScan (slot + 1) } : State).entries[key]? =
          some entry :=
        at_key
      exact .same (focus_unlisting here (by simp))
  | pump env rest pumping head =>
      have popped : (state.pumpStep cfg env key rest).runtime.pumpList = rest :=
        pumpStep_pumpList at_key env rest
      cases label with
      | pump env' => exact .shorter env' key (head.trans (congrArg (key :: ·) popped.symm))
      | _ => cases issued
  | callback running delivered =>
      refine .same (focus_unlisting at_key ?_)
      rintro command env rfl
      cases delivered

theorem Worked.pumpList {index : Nat} {worker : Worker}
    (worked : state.Worked cfg index worker next) :
    next.runtime.pumpList = state.runtime.pumpList := by
  cases worked with
  | progressed | faulted | submitted | unlinked | decided => rfl
  | tagged fd entry pc call free at_key => exact focus_unlisting at_key (by simp)
  | freed result entry pc at_key => exact focus_unlisting at_key (by simp)

theorem Stepped.relisted (stepped : state.Stepped cfg label next) (wf : state.Wf cfg) :
    Relisted cfg state next label := by
  have wf' := stepped.wf wf
  cases stepped.touched with
  | still still => exact .same still.pumpList
  | opened call opaqueVal env opened => cases opened <;> exact .same rfl
  | worker index env at_index worked => exact .same worked.pumpList
  | acted target at_key enabled ready => exact .acted target at_key ready
  | @accept key status env listener running at_key listening =>
      -- both states are outside `consume_commands`
      have outside : state.pc.consumes = false := by
        revert running
        cases state.pc <;> simp [LoopPc.inRun, LoopPc.consumes]
      obtain ⟨_, _, same⟩ := state.accept_shape cfg key listener status env
      have outside' : (state.acceptConnection cfg key listener status env).pc.consumes = false := by
        rw [same]
        exact outside
      exact .same ((wf'.idle outside').trans (wf.idle outside).symm)

end State

/-! ## The pointers -/

/-- The runtime with `pump_head`, `pump_tail` and the `pump_next` of each entry. -/
structure PumpState where
  state : State
  links : Links Nat

namespace PumpState

/-- The end of `process_send`: an entry is appended when its `pump_pending` is set. -/
def relink (cfg : Config) (before after : State) (links : Links Nat) : Links Nat :=
  match before.commandKey cfg with
  | none => links
  | some key => if !before.marked key && after.marked key then links.link key else links

/-- The second loop of `consume_commands` goes by the pointers. -/
def step (cfg : Config) (pumped : PumpState) : Label → Option PumpState
  | .command env =>
      (Socket.step cfg pumped.state (.command env)).map fun next =>
        ⟨next, relink cfg pumped.state next pumped.links⟩
  | .pump env =>
      if pumped.state.faults.isEmpty && pumped.state.pc = .pumping then
        match pumped.links.takeHead with
        | (none, _) => none
        | (some key, links) =>
            some ⟨pumped.state.pumpStep cfg env key pumped.state.runtime.pumpList.tail, links⟩
      else none
  | .pumpDone =>
      if pumped.state.faults.isEmpty && pumped.state.pc = .pumping && pumped.links.head.isNone then
        some { pumped with state := { pumped.state with pc := .running } }
      else none
  | label => (Socket.step cfg pumped.state label).map fun next => { pumped with state := next }

/-- The pointers stand for the list of the runtime. -/
structure Sound (cfg : Config) (pumped : PumpState) : Prop where
  orderly : pumped.state.Orderly cfg
  tidy : Tidy pumped.links pumped.state.runtime.pumpList

variable {cfg : Config} {pumped next : PumpState} {label : Label}

theorem tidy_relink {env : Env} {after : State} (sound : pumped.Sound cfg) (wf : after.Wf cfg)
    (relisted : State.Relisted cfg pumped.state after (.command env)) :
    Tidy (relink cfg pumped.state after pumped.links) after.runtime.pumpList := by
  cases relisted with
  | same pumpList =>
      -- nothing is newly marked, since the marks go with the list
      have unlinked : relink cfg pumped.state after pumped.links = pumped.links := by
        rw [relink]
        split
        · rfl
        · rename_i key _
          refine if_neg fun fresh => ?_
          obtain ⟨before, now⟩ := Bool.and_eq_true_iff.mp fresh
          rw [wf.marked_iff, pumpList, ← sound.orderly.wf.marked_iff] at now
          rw [now] at before
          cases before
      rw [unlinked, pumpList]
      exact sound.tidy
  | longer _ key found before now pumpList =>
      have linked : relink cfg pumped.state after pumped.links = pumped.links.link key := by
        simp only [relink, found, before, now, Bool.not_false, Bool.and_self, if_true]
      rw [linked, pumpList]
      refine sound.tidy.link fun listed => ?_
      rw [← sound.orderly.wf.marked_iff, before] at listed
      cases listed

/-- Going by the pointers the loop does what it does going by the list. -/
theorem Sound.step_state (sound : pumped.Sound cfg) (label : Label) :
    (step cfg pumped label).map PumpState.state = Socket.step cfg pumped.state label := by
  cases label with
  | pump env =>
      have tidy := sound.tidy
      cases list : pumped.state.runtime.pumpList with
      | nil =>
          rw [list] at tidy
          have ended : pumped.links.head = none := tidy.head
          simp [step, Socket.step, liveStep, Links.takeHead, ended, list]
      | cons key rest =>
          rw [list] at tidy
          obtain ⟨_, first, -⟩ := tidy.takeHead
          rw [step, first]
          cases defined : pumped.state.faults.isEmpty <;>
            by_cases pumping : pumped.state.pc = .pumping <;>
            simp [Socket.step, liveStep, defined, pumping, list]
  | pumpDone =>
      have ended : pumped.links.head.isNone = pumped.state.runtime.pumpList.isEmpty := by
        rw [sound.tidy.head]
        cases pumped.state.runtime.pumpList <;> rfl
      rw [step, ended]
      cases defined : pumped.state.faults.isEmpty <;>
        by_cases pumping : pumped.state.pc = .pumping <;>
        cases empty : pumped.state.runtime.pumpList.isEmpty <;>
        simp [Socket.step, liveStep, defined, pumping, empty]
  | _ => simp only [step, Option.map_map, Function.comp_def, Option.map_id']

theorem Sound.of_step (sound : pumped.Sound cfg) (run : step cfg pumped label = some next) :
    Socket.step cfg pumped.state label = some next.state :=
  (sound.step_state label).symm.trans (congrArg (Option.map PumpState.state) run)

theorem Sound.tidy_step (sound : pumped.Sound cfg) (run : step cfg pumped label = some next) :
    Tidy next.links next.state.runtime.pumpList := by
  have runs := sound.of_step run
  obtain ⟨stepped, wf⟩ := sound.orderly.wf.of_step runs
  have relisted := stepped.relisted sound.orderly.wf
  cases label with
  | command env =>
      obtain ⟨_, -, rfl⟩ := Option.map_eq_some_iff.mp run
      exact tidy_relink sound wf relisted
  | pump env =>
      have tidy := sound.tidy
      cases list : pumped.state.runtime.pumpList with
      | nil => simp [Socket.step, liveStep, list] at runs
      | cons key rest =>
          rw [list] at tidy
          obtain ⟨others, first, tidy⟩ := tidy.takeHead
          simp only [step, first, list, List.tail_cons] at run
          obtain ⟨-, ⟨⟩⟩ := Option.ite_none_right_eq_some.mp run
          have member : key ∈ pumped.state.runtime.pumpList := list ▸ List.mem_cons_self
          obtain ⟨entry, at_key, -⟩ := sound.orderly.wf.listed_open member
          rw [State.pumpStep_pumpList at_key]
          exact tidy
  | pumpDone =>
      obtain ⟨-, ⟨⟩⟩ := Option.ite_none_right_eq_some.mp run
      exact sound.tidy
  | _ =>
      obtain ⟨_, -, rfl⟩ := Option.map_eq_some_iff.mp run
      cases relisted with
      | same pumpList => exact pumpList ▸ sound.tidy

theorem Sound.kept (sound : pumped.Sound cfg) (run : step cfg pumped label = some next) :
    next.Sound cfg :=
  ⟨(sound.orderly.of_step (sound.of_step run)).2, sound.tidy_step run⟩

end PumpState

def pumpSystem (cfg : Config) : System PumpState Label where
  init := ⟨State.init, Links.empty⟩
  step := PumpState.step cfg

namespace PumpState

variable {cfg : Config} {pumped : PumpState}

theorem sound_init (cfg : Config) : (pumpSystem cfg).init.Sound cfg where
  orderly := .init cfg
  tidy := tidy_empty

theorem sound_reachable (reached : (pumpSystem cfg).Reachable pumped) : pumped.Sound cfg :=
  reached.invariant (Sound cfg) (sound_init cfg) fun _ _ _ sound run => sound.kept run

/-- The runs with pointers are the runs of the runtime. -/
theorem Sound.exec_state (sound : pumped.Sound cfg) (labels : List Label) :
    ((pumpSystem cfg).exec pumped labels).map PumpState.state =
      (socketSystem cfg).exec pumped.state labels :=
  System.exec_project PumpState.state (Sound cfg) (fun _ label sound => sound.step_state label)
    (fun _ _ _ sound run => sound.kept run) sound labels

/-- Loop steps that spare the entries of calls in progress never list one of them. -/
theorem not_held_of_listed {labels : List Label} {key : Nat}
    (run : (pumpSystem cfg).exec (pumpSystem cfg).init labels = some pumped)
    (along : (socketSystem cfg).Along
      (fun state label => state.considerate cfg label = true) State.init labels)
    (listed : key ∈ pumped.state.runtime.pumpList) :
    ¬ pumped.state.Held key WorkerPc.isUnlinked := by
  intro held
  have runs : (socketSystem cfg).exec State.init labels = some pumped.state :=
    ((sound_init cfg).exec_state labels).symm.trans (congrArg (Option.map PumpState.state) run)
  obtain ⟨attended, -⟩ := State.attended_run along runs
  obtain ⟨worker, member, rfl, early⟩ := held.unsubmitted_of_unlinked
  obtain ⟨entry, at_key, -, opened, -⟩ :=
    (sound_reachable ⟨labels, run⟩).orderly.wf.listed_open listed
  rw [(attended worker member entry at_key).2 early] at opened
  cases opened

end PumpState

/-- The runtime that follows the pointers has the runs of the runtime with the list. -/
theorem pump_pointers_refine (cfg : Config) (labels : List Label) :
    ((pumpSystem cfg).exec (pumpSystem cfg).init labels).map PumpState.state =
      (socketSystem cfg).exec State.init labels :=
  (PumpState.sound_init cfg).exec_state labels

/-- The pointers lead from `pump_head` to `pump_tail` through each listed entry once, and the
listed entries are those with `pump_pending`.  Each has an open handle, is in memory and is in
its slot, unless the call that reserved it is taking it back at this moment.  That does not
happen when no call is in progress, nor when the loop was considerate in every step: it freed no
entry that its call would still look at and opened none before its call submitted the command.
Outside `consume_commands` the list is empty. -/
theorem pump_list_safe (cfg : Config) (labels : List Label) (pumped : PumpState)
    (run : (pumpSystem cfg).exec (pumpSystem cfg).init labels = some pumped) :
    Holds pumped.links pumped.state.runtime.pumpList ∧
      (∀ key, key ∈ pumped.state.runtime.pumpList ↔
        ∃ entry, pumped.state.entries[key]? = some entry ∧ entry.pumpPending = true) ∧
      (∀ key ∈ pumped.state.runtime.pumpList, ∃ entry, pumped.state.entries[key]? = some entry ∧
        entry.initialized = true ∧ entry.freed = false ∧
        (pumped.state.runtime.table.slots (idSlot cfg entry.id) = some key ∨
          pumped.state.Held key WorkerPc.isUnlinked)) ∧
      ((∀ worker ∈ pumped.state.workers, worker.pc.isDone = true) ∨
          (socketSystem cfg).Along (fun state label => state.considerate cfg label = true)
            State.init labels →
        ∀ key ∈ pumped.state.runtime.pumpList, ¬ pumped.state.Held key WorkerPc.isUnlinked) ∧
      (pumped.state.pc.consumes = false → pumped.state.runtime.pumpList = [] ∧
        pumped.links.head = none ∧ pumped.links.tail = none) := by
  have sound := PumpState.sound_reachable ⟨labels, run⟩
  refine ⟨sound.tidy.toHolds, sound.orderly.wf.listed.marked, ?_, ?_, ?_⟩
  · intro key listed
    obtain ⟨entry, at_key, -, opened, alive⟩ := sound.orderly.wf.listed_open listed
    refine ⟨entry, at_key, opened, alive,
      (sound.orderly.anchored key entry at_key alive).imp_left ?_⟩
    rintro ⟨slot, occupied⟩
    obtain ⟨-, found, at_found, -, here⟩ := sound.orderly.wf.linked slot key occupied
    cases at_key.symm.trans at_found
    rw [here]
    exact occupied
  · rintro (done | along) key listed
    · rintro ⟨worker, member, -, unlinked⟩
      exact WorkerPc.not_isUnlinked_of_isDone (done worker member) unlinked
    · exact PumpState.not_held_of_listed run along listed
  · intro outside
    have empty := sound.orderly.wf.idle outside
    have head := sound.tidy.head
    have tail := sound.tidy.tail
    rw [empty] at head tail
    exact ⟨empty, head, tail⟩

/-- A send and a shutdown of the connected socket, in one batch. -/
def shutdownBatch : List Label :=
  connectRun ++ ([.api (.send 4 false 3 .owned true false) .fine, .api (.shutdown 4 7) .fine,
    .poll .fine, .wakeup, .command .fine, .command .fine] : List Label)

def shutdownPumped : PumpState :=
  ((pumpSystem fourSlots).exec (pumpSystem fourSlots).init shutdownBatch).get (by decide)

/-- The handle of the listed entry is closing. -/
theorem pump_list_safe_shutdown :
    shutdownPumped.state.entries.map Entry.uvClosing = [true] ∧ Holds shutdownPumped.links [0] ∧
      ∃ entry, shutdownPumped.state.entries[0]? = some entry ∧ entry.freed = false ∧
        shutdownPumped.state.runtime.table.slots (idSlot fourSlots entry.id) = some 0 := by
  obtain ⟨holds, -, listed, settled, -⟩ := pump_list_safe fourSlots shutdownBatch shutdownPumped
    (Option.some_get _).symm
  refine ⟨by decide, holds, ?_⟩
  obtain ⟨entry, at_key, -, alive, inSlot⟩ := listed 0 (by decide)
  exact ⟨entry, at_key, alive, inSlot.resolve_right (settled (.inr (by decide)) 0 (by decide))⟩

end Skyuv.Socket
