import Mathlib.Data.Nat.Log
import Skyuv.Socket.Tally

/-!
# Backpressure warnings

A send that takes `queued_bytes` to the threshold pushes a `WARNING` and doubles
the threshold; the completion that drains the backlog pushes a `WARNING` of zero
and resets it.  The threshold moves whether or not `calloc` finds memory for the
event, so what the owner is told of follows the threshold only where it does.
-/

set_option autoImplicit false

namespace Skyuv.Socket

open TransitionSystem

/-! ## Episodes -/

/-- Warnings are told in episodes, each ended by a zero; `last` is still open. -/
structure Episodes (told : List Int) (episodes : List (List Int)) (last : List Int) : Prop where
  told : told = (episodes.map (· ++ [0])).flatten ++ last
  ended : ∀ episode ∈ episodes, episode ≠ [] ∧ ∀ value ∈ episode, value ≠ 0
  raised : ∀ value ∈ last, value ≠ 0

theorem Episodes.empty : Episodes [] [] [] := ⟨rfl, by simp, by simp⟩

section Pattern

variable {told last : List Int} {episodes : List (List Int)}

theorem Episodes.warn (pattern : Episodes told episodes last) {value : Int} (raised : value ≠ 0) :
    Episodes (told ++ [value]) episodes (last ++ [value]) where
  told := by rw [pattern.told, List.append_assoc]
  ended := pattern.ended
  raised := by simpa [or_imp, forall_and] using ⟨pattern.raised, raised⟩

theorem Episodes.drain (pattern : Episodes told episodes last) (warned : last ≠ []) :
    Episodes (told ++ [0]) (episodes ++ [last]) [] where
  told := by rw [pattern.told]; simp
  ended := by
    intro episode member
    rcases List.mem_append.mp member with before | isLast
    · exact pattern.ended episode before
    · cases List.mem_singleton.mp isLast
      exact ⟨warned, pattern.raised⟩
  raised := by simp

end Pattern

/-- `warn_size` after so many warnings of one episode. -/
def threshold (warnings : Nat) : Nat := if warnings = 0 then 0 else 2 ^ warnings * warningSize

theorem threshold_pos_iff {warnings : Nat} : 0 < threshold warnings ↔ warnings ≠ 0 := by
  unfold threshold warningSize
  split
  · simp_all
  · simp_all

/-- A warning is pushed at a backlog that has doubled with each one before it. -/
theorem doubled_le {warnings queued : Nat} (enough : warningSize ≤ queued)
    (reached : threshold warnings ≤ queued) : 2 ^ warnings * warningSize ≤ queued := by
  unfold threshold at reached
  split at reached
  · simp_all
  · exact reached

/-- Below `2 ^ 63` bytes the threshold does not wrap. -/
theorem rethreshold_threshold {warnings queued : Nat} {value : Int} (raised : value ≠ 0)
    (reached : threshold warnings ≤ queued) (bounded : queued < 2 ^ 63) :
    rethreshold (threshold warnings) [value] = threshold (warnings + 1) := by
  simp only [rethreshold, if_neg raised]
  by_cases none : warnings = 0
  · simp [threshold, none, Nat.mul_comm]
  · have positive : threshold warnings ≠ 0 := (threshold_pos_iff.mpr none).ne'
    have doubled : threshold warnings * 2 = threshold (warnings + 1) := by
      simp only [threshold, none, if_false, Nat.succ_ne_zero, Nat.pow_succ]
      ring
    rw [if_neg positive, Nat.mod_eq_of_lt (by omega), doubled]

/-! ## Warnings in a run -/

/-- What an act pushes, with what it takes for that. -/
inductive Act.Warning (act : Act) (entry : Entry) : List Int → Prop
  | none : Warning act entry []
  | raised (cmd : Command) (env : Env) (payload : SendPayload) (isCommand : act = .command cmd env)
      (send : cmd.body = .send payload ∨ cmd.body = .sendLow payload)
      (takes : entry.takesSend env = true)
      (enough : warningSize ≤ entry.queuedBytes + payload.buffer.size)
      (reached : entry.warnSize ≤ entry.queuedBytes + payload.buffer.size) :
      Warning act entry [warningValue (entry.queuedBytes + payload.buffer.size)]
  | drained (status : Int) (env : Env) (buffer : Buffer) (rest : List Buffer)
      (isCompletion : act = .writeCompleted status env) (inFlight : entry.uvWrites = buffer :: rest)
      (empty : entry.queuedBytes - buffer.size = 0) (open_ : entry.state ≠ .closing ∧ status = 0)
      (warned : 0 < entry.warnSize) : Warning act entry [0]

theorem Act.warns_cases (act : Act) (entry : Entry) : act.Warning entry (act.warns entry) := by
  cases act with
  | command cmd env =>
      have sends (payload : SendPayload)
          (send : cmd.body = .send payload ∨ cmd.body = .sendLow payload) :
          Act.Warning (.command cmd env) entry
            (if entry.takesSend env then entry.sendWarning payload.buffer.size else []) := by
        split
        · rename_i takes
          unfold Entry.sendWarning
          split
          · rename_i enough
            exact .raised cmd env payload rfl send takes enough.1 enough.2
          · exact .none
        · exact .none
      simp only [Act.warns]
      split
      · exact sends _ (.inl ‹_›)
      · exact sends _ (.inr ‹_›)
      · exact .none
  | writeCompleted status env =>
      simp only [Act.warns, Entry.recoveryWarning]
      split
      · exact .none
      · rename_i buffer rest inFlight
        split
        · rename_i drained
          exact .drained status env buffer rest rfl inFlight drained.1 drained.2.2 drained.2.1
        · exact .none
  | _ => exact .none

/-- A send that is taken counts its bytes. -/
theorem Frame.queuedBytes_processSend {env : Env} {frame : Frame} (command : Command) (low : Bool)
    (payload : SendPayload) (takes : frame.entry.takesSend env = true) :
    (frame.processSend env command low payload).1.entry.queuedBytes =
      frame.entry.queuedBytes + payload.buffer.size := by
  simp only [Entry.takesSend, Bool.and_eq_true, Bool.or_eq_true, decide_eq_true_eq,
    Bool.not_eq_true'] at takes
  obtain ⟨⟨state, unasked⟩, memory⟩ := takes
  have listed (frame : Frame) : frame.listForPump.entry.queuedBytes = frame.entry.queuedBytes := by
    unfold listForPump
    split <;> rfl
  have counted (frame : Frame) (buffer : Buffer) :
      (frame.countQueued env buffer).entry.queuedBytes = frame.entry.queuedBytes + buffer.size := by
    unfold countQueued
    dsimp only
    split <;> rfl
  unfold processSend
  rw [if_neg (by grind -ring -linarith), if_neg (by grind -ring -linarith),
    if_neg (by simp [unasked]), if_neg (by simp [memory]),
    listed, counted]
  cases low <;> rfl

/-- What an act does to the threshold and to the warnings told. -/
theorem Act.run_warned (cfg : Config) (act : Act) (frame : Frame) :
    (act.run cfg frame).entry.warnSize =
        rethreshold frame.entry.warnSize (act.warns frame.entry) ∧
      warningsOf (act.run cfg frame).entry.log =
        warningsOf frame.entry.log ++ if act.delivers then act.warns frame.entry else [] := by
  obtain ⟨tally, charged, result⟩ := act.run_charged cfg frame
  obtain ⟨warnSize, warnings⟩ := charged.calm
  have size := congrArg Tally.warnSize result
  have told := congrArg Tally.warnings result
  simp only [Tally.warn, warnSize, warnings] at size told
  exact ⟨size, told⟩

namespace State

/-- No memory is missing for a `WARNING` event of the entry at `key`. -/
def delivers (cfg : Config) (key : Nat) (state : State) (label : Label) : Bool :=
  (state.target cfg label).all fun (found, act) => decide (found ≠ key) || act.delivers

/-- The step leaves `queued_bytes` of the entry at `key` below `2 ^ 63`. -/
def bounded (cfg : Config) (key : Nat) (state : State) (label : Label) : Bool :=
  (step cfg state label).all fun next =>
    next.entries[key]?.all fun entry => decide (entry.queuedBytes < 2 ^ 63)

variable {cfg : Config} {state next final : State} {label : Label} {key : Nat} {entry after : Entry}

/-- A step that warns runs the act that does. -/
theorem emits_warns (cfg : Config) (label : Label) (at_key : state.entries[key]? = some entry) :
    state.emits Act.warns cfg key label = [] ∨
      ∃ act, state.target cfg label = some (key, act) ∧
        act.Warning entry (state.emits Act.warns cfg key label) := by
  cases target : state.target cfg label with
  | none => exact .inl (by simp [emits, target])
  | some found =>
      obtain ⟨place, act⟩ := found
      by_cases here : place = key
      · subst here
        rw [emits_of_target target at_key]
        exact .inr ⟨act, rfl, act.warns_cases entry⟩
      · exact .inl (by simp [emits, target, here])

theorem Follows.warned (follows : Follows cfg state label key entry after)
    (at_key : state.entries[key]? = some entry) (delivered : state.delivers cfg key label = true) :
    after.warnSize = rethreshold entry.warnSize (state.emits Act.warns cfg key label) ∧
      warningsOf after.log = warningsOf entry.log ++ state.emits Act.warns cfg key label := by
  cases follows with
  | idle untargeted =>
      have none : state.emits Act.warns cfg key label = [] := by
        refine emits_of_idle (fun act entry ofWorker => ?_) at_key untargeted
        cases act with
        | command | writeCompleted => cases ofWorker
        | _ => rfl
      simp [none, rethreshold]
  | acted act runtime target enabled =>
      have told : act.delivers = true := by simpa [delivers, target] using delivered
      rw [emits_of_target target at_key]
      simpa [told] using act.run_warned cfg ⟨key, entry, runtime⟩

/-- A send that is taken counts its bytes. -/
theorem Stepped.counts (stepped : state.Stepped cfg label next) (wf : state.Wf cfg) {cmd : Command}
    {env : Env} {payload : SendPayload}
    (target : state.target cfg label = some (key, .command cmd env))
    (at_key : state.entries[key]? = some entry) (at_next : next.entries[key]? = some after)
    (send : cmd.body = .send payload ∨ cmd.body = .sendLow payload)
    (takes : entry.takesSend env = true) :
    after.queuedBytes = entry.queuedBytes + payload.buffer.size := by
  obtain ⟨-, runtime, at_found⟩ := stepped.performs wf target rfl at_key
  cases at_next.symm.trans at_found
  simp only [Act.run]
  unfold Frame.runCommand
  rcases send with send | send
  · rw [send]
    exact Frame.queuedBytes_processSend cmd false payload takes
  · rw [send]
    exact Frame.queuedBytes_processSend cmd true payload takes

/-- The warnings told for the entry at `key` explain its threshold. -/
def Warned (key : Nat) (state : State) : Prop :=
  ∀ entry, state.entries[key]? = some entry → ∃ episodes last,
    Episodes (warningsOf entry.log) episodes last ∧ entry.warnSize = threshold last.length

/-- A new entry has not warned. -/
theorem Stepped.fresh_warned (stepped : state.Stepped cfg label next)
    (absent : state.entries[key]? = none) (at_next : next.entries[key]? = some after) :
    after.warnSize = 0 ∧ warningsOf after.log = [] := by
  cases stepped.ran at_next with
  | unchanged at_same => cases absent.symm.trans at_same
  | acted act runtime at_before => cases absent.symm.trans at_before
  | reserved id opaqueVal isNew => exact ⟨rfl, rfl⟩
  | accepted id opaqueVal env runtime isNew =>
      exact Act.run_warned cfg (.acceptInto env) ⟨key, Entry.fresh id opaqueVal, runtime⟩

theorem Warned.of_step (warned : state.Warned key) (wf : state.Wf cfg)
    (within : state.bounded cfg key label = true ∧ state.delivers cfg key label = true)
    (run : step cfg state label = some next) : next.Warned key := by
  intro after at_next
  have stepped := (wf.of_step run).1
  cases at_key : state.entries[key]? with
  | none =>
      obtain ⟨warnSize, told⟩ := stepped.fresh_warned at_key at_next
      exact ⟨[], [], told ▸ .empty, warnSize⟩
  | some entry =>
      obtain ⟨episodes, last, pattern, size⟩ := warned entry at_key
      obtain ⟨found, at_found, follows⟩ := stepped.follows wf at_key
      cases at_next.symm.trans at_found
      obtain ⟨warnSize, told⟩ := follows.warned at_key within.2
      rw [size] at warnSize
      rw [told, warnSize]
      rcases emits_warns cfg label at_key with silent | ⟨act, target, warning⟩
      · rw [silent, List.append_nil]
        exact ⟨episodes, last, pattern, rfl⟩
      · generalize state.emits Act.warns cfg key label = warnings at warning
        cases warning with
        | none =>
            rw [List.append_nil]
            exact ⟨episodes, last, pattern, rfl⟩
        | raised cmd env payload isCommand send takes enough reached =>
            subst isCommand
            have raised := (warningValue_pos enough).ne'
            have queued := stepped.counts wf target at_key at_next send takes
            have below : after.queuedBytes < 2 ^ 63 := by
              simpa [bounded, run, at_next] using within.1
            refine ⟨episodes, _, pattern.warn raised, ?_⟩
            rw [size] at reached
            rw [List.length_append]
            exact rethreshold_threshold raised reached (queued ▸ below)
        | drained status env buffer rest isCompletion inFlight empty open_ positive =>
            have some_ : last ≠ [] := by
              rintro rfl
              rw [size] at positive
              exact absurd rfl (threshold_pos_iff.mp positive)
            exact ⟨_, [], pattern.drain some_, rfl⟩

theorem warned_run {labels : List Label}
    (within : (socketSystem cfg).Along (fun state label =>
      state.bounded cfg key label = true ∧ state.delivers cfg key label = true) State.init labels)
    (run : (socketSystem cfg).exec State.init labels = some final) : final.Warned key :=
  System.exec_guarded (Wf cfg) (Warned key) (fun _ _ _ wf run => (wf.of_step run).2)
    (fun _ _ _ wf warned within run => warned.of_step wf within run)
    labels State.init final (Wf.init cfg) (by simp [Warned, State.init]) within run

theorem emits_raised_iff (at_key : state.entries[key]? = some entry) {value : Int}
    (raised : value ≠ 0) :
    state.emits Act.warns cfg key label = [value] ↔
      ∃ cmd env payload, state.target cfg label = some (key, .command cmd env) ∧
        (cmd.body = .send payload ∨ cmd.body = .sendLow payload) ∧ entry.takesSend env = true ∧
        warningSize ≤ entry.queuedBytes + payload.buffer.size ∧
        entry.warnSize ≤ entry.queuedBytes + payload.buffer.size ∧
        value = warningValue (entry.queuedBytes + payload.buffer.size) := by
  constructor
  · intro told
    rcases emits_warns cfg label at_key with silent | ⟨act, target, warning⟩
    · cases silent.symm.trans told
    · rw [told] at warning
      cases warning with
      | raised cmd env payload isCommand send takes enough reached =>
          exact ⟨cmd, env, payload, isCommand ▸ target, send, takes, enough, reached, rfl⟩
      | drained => exact absurd rfl raised
  · rintro ⟨cmd, env, payload, target, send, takes, enough, reached, rfl⟩
    rw [emits_of_target target at_key]
    rcases send with send | send
    · simp [Act.warns, send, takes, Entry.sendWarning, enough, reached]
    · simp [Act.warns, send, takes, Entry.sendWarning, enough, reached]

theorem emits_zero_iff (at_key : state.entries[key]? = some entry) :
    state.emits Act.warns cfg key label = [0] ↔
      ∃ status env buffer rest, state.target cfg label = some (key, .writeCompleted status env) ∧
        entry.uvWrites = buffer :: rest ∧ entry.queuedBytes - buffer.size = 0 ∧
        (entry.state ≠ .closing ∧ status = 0) ∧ 0 < entry.warnSize := by
  constructor
  · intro told
    rcases emits_warns cfg label at_key with silent | ⟨act, target, warning⟩
    · cases silent.symm.trans told
    · generalize warned : state.emits Act.warns cfg key label = warnings at warning
      cases warning with
      | none => cases warned.symm.trans told
      | raised cmd env payload isCommand send takes enough reached =>
          have zero := List.head_eq_of_cons_eq (warned.symm.trans told)
          exact absurd zero (warningValue_pos enough).ne'
      | drained status env buffer rest isCompletion inFlight empty open_ positive =>
          exact ⟨status, env, buffer, rest, isCompletion ▸ target, inFlight, empty, open_, positive⟩
  · rintro ⟨status, env, buffer, rest, target, inFlight, empty, open_, positive⟩
    rw [emits_of_target target at_key]
    simp [Act.warns, Entry.recoveryWarning, inFlight, empty, open_, positive]

end State

/-- The `WARNING` events pushed for an entry, in a run that never takes its backlog to
`2 ^ 63` bytes and in which `calloc` finds memory for them.  They come in episodes.
The next step pushes one at most.  It pushes one other than zero exactly if it takes
a send with a backlog of 1 MiB and of `warn_size` at least; the backlog is then at
least `2 ^ n` MiB for the `n` warnings before it in the episode, so their number is
logarithmic in the peak.  It pushes a zero exactly if it completes the last pending
write of an entry that is not `CLOSING`, not even through this completion, and that
has warned in the episode. -/
theorem backpressure_warnings (cfg : Config) (key : Nat) (labels : List Label) (final : State)
    (entry : Entry)
    (within : (socketSystem cfg).Along (fun state label =>
      state.bounded cfg key label = true ∧ state.delivers cfg key label = true) State.init labels)
    (run : (socketSystem cfg).exec State.init labels = some final)
    (at_key : final.entries[key]? = some entry) :
    ∃ episodes last, Episodes (warningsOf entry.log) episodes last ∧
      ∀ label next after, step cfg final label = some next → next.entries[key]? = some after →
        final.delivers cfg key label = true →
        (warningsOf after.log = warningsOf entry.log ∨
          ∃ value, warningsOf after.log = warningsOf entry.log ++ [value]) ∧
        (∀ value ≠ 0, warningsOf after.log = warningsOf entry.log ++ [value] ↔
          ∃ cmd env payload, final.target cfg label = some (key, .command cmd env) ∧
            (cmd.body = .send payload ∨ cmd.body = .sendLow payload) ∧
            entry.takesSend env = true ∧
            after.queuedBytes = entry.queuedBytes + payload.buffer.size ∧
            warningSize ≤ after.queuedBytes ∧ entry.warnSize ≤ after.queuedBytes ∧
            value = min (((after.queuedBytes + 1023) / 1024 : Nat) : Int) intMax ∧
            2 ^ last.length * warningSize ≤ after.queuedBytes ∧
            ∀ peak ≥ after.queuedBytes, last.length + 1 ≤ Nat.log 2 (peak / warningSize) + 1) ∧
        (warningsOf after.log = warningsOf entry.log ++ [0] ↔
          ∃ status env buffer rest,
            final.target cfg label = some (key, .writeCompleted status env) ∧
            entry.uvWrites = buffer :: rest ∧ entry.queuedBytes - buffer.size = 0 ∧
            (entry.state ≠ .closing ∧ status = 0) ∧ last ≠ []) := by
  have wf : final.Wf cfg := State.wf_reachable ⟨labels, run⟩
  obtain ⟨episodes, last, pattern, size⟩ := State.warned_run within run entry at_key
  refine ⟨episodes, last, pattern, fun label next after first at_next delivered => ?_⟩
  have stepped := (wf.of_step first).1
  obtain ⟨found, at_found, follows⟩ := stepped.follows wf at_key
  cases at_next.symm.trans at_found
  rw [(follows.warned at_key delivered).2]
  refine ⟨?_, fun value raised => ?_, ?_⟩
  · rcases State.emits_warns cfg label at_key with silent | ⟨act, -, warning⟩
    · exact .inl (by rw [silent, List.append_nil])
    · generalize final.emits Act.warns cfg key label = warnings at warning
      cases warning with
      | none => exact .inl (List.append_nil _)
      | raised => exact .inr ⟨_, rfl⟩
      | drained => exact .inr ⟨_, rfl⟩
  · rw [List.append_right_inj, State.emits_raised_iff at_key raised]
    constructor
    · rintro ⟨cmd, env, payload, target, send, takes, enough, reached, rfl⟩
      have queued := stepped.counts wf target at_key at_next send takes
      rw [← queued] at enough reached ⊢
      have doubled := doubled_le enough (size ▸ reached)
      refine ⟨cmd, env, payload, target, send, takes, queued, enough, reached, rfl, doubled,
        fun peak above => ?_⟩
      apply Nat.succ_le_succ
      apply Nat.le_log_of_pow_le (by decide)
      exact (Nat.le_div_iff_mul_le (by decide)).mpr (doubled.trans above)
    · rintro ⟨cmd, env, payload, target, send, takes, queued, enough, reached, rfl, -⟩
      rw [queued] at enough reached ⊢
      exact ⟨cmd, env, payload, target, send, takes, enough, reached, rfl⟩
  · rw [List.append_right_inj, State.emits_zero_iff at_key, size, threshold_pos_iff]
    simp only [ne_eq, List.length_eq_zero_iff]

/-- A send of 1 MiB whose write is in flight. -/
def backlogRun (env : Env) : List Label :=
  connectRun ++ ([.api (.send 4 false 1048576 .owned true false) .fine, .poll .fine, .wakeup,
    .command env, .commandsDone, .pump .fine, .pumpDone] : List Label)

def warnedState : State :=
  ((socketSystem fourSlots).exec State.init (backlogRun .fine)).get (by decide)

def warnedEntry : Entry := warnedState.entries[0]?.get (by decide)

def drainedState : State :=
  (step fourSlots warnedState (.writeCompleted 0 0 .fine)).get (by decide)

def drainedEntry : Entry := drainedState.entries[0]?.get (by decide)

theorem backpressure_warnings_one_mebibyte :
    ∃ episodes last, Episodes [1024] episodes last ∧ warnedEntry.warnSize = 2 * warningSize ∧
      warningsOf drainedEntry.log = [1024] ++ [0] ∧ last ≠ [] := by
  have told : warningsOf warnedEntry.log = [1024] := by decide
  obtain ⟨episodes, last, pattern, onward⟩ := backpressure_warnings fourSlots 0 (backlogRun .fine)
    warnedState warnedEntry (by decide) (Option.some_get _).symm (Option.some_get _).symm
  obtain ⟨-, -, zero⟩ := onward (.writeCompleted 0 0 .fine) drainedState drainedEntry
    (Option.some_get _).symm (Option.some_get _).symm (by decide)
  rw [told] at pattern zero
  have drained : warningsOf drainedEntry.log = [1024] ++ [0] := by decide
  obtain ⟨-, -, -, -, -, -, -, -, warned⟩ := zero.mp drained
  exact ⟨episodes, last, pattern, by decide, drained, warned⟩

/-- No `WARNING` event can be allocated. -/
def Env.noWarning : Env := { Env.fine with event := fun type => decide (type ≠ .warning) }

/-- No episode is without a warning. -/
theorem Episodes.ne_zero {episodes : List (List Int)} {last : List Int} :
    ¬ Episodes [0] episodes last := by
  intro pattern
  have told := pattern.told
  cases episodes with
  | nil =>
      have whole : [0] = last := told
      exact pattern.raised 0 (whole ▸ List.mem_singleton_self 0) rfl
  | cons episode rest =>
      have some_ := (pattern.ended episode List.mem_cons_self).1
      have length := congrArg List.length told
      have := List.length_pos_of_ne_nil some_
      simp at length
      omega

/-- The `WARNING` of a send of 1 MiB finds no memory; the owner is told of the recovery
only. -/
theorem unheard_warning_then_zero :
    ∃ final entry, (socketSystem fourSlots).exec State.init
        (backlogRun .noWarning ++ ([.writeCompleted 0 0 .fine] : List Label)) = some final ∧
      final.entries[0]? = some entry ∧ warningsOf entry.log = [0] ∧
      ∀ episodes last, ¬ Episodes (warningsOf entry.log) episodes last := by
  refine ⟨_, _, (Option.some_get (by decide)).symm,
    (Option.some_get (by decide)).symm, by decide, ?_⟩
  intro episodes last pattern
  exact Episodes.ne_zero (pattern : Episodes [0] episodes last)

end Skyuv.Socket
