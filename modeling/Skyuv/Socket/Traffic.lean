import Skyuv.Socket.Accept
import Skyuv.Socket.Info
import Skyuv.Socket.Tally

/-!
# Traffic counters and what snapshots show of them

The read side of an entry counts exactly the bytes that were put into events.  The
write side counts every request that libuv completes, whatever its status, and
`accept_connection` counts the connection before it knows whether the `ACCEPT` event
finds memory.  The counters are `uint64_t`, so all of this holds modulo `2 ^ 64`.  A
snapshot shows `accept_count` of a listener and `read_bytes` of everything else, so the
two meanings meet where a listener closes.
-/

set_option autoImplicit false

namespace Skyuv.Socket

open TransitionSystem

/-! ## What the counters add up -/

namespace Traffic

/-- The bytes that `write_bytes` counts. -/
def counted : Traffic → Nat
  | .written size _ => size
  | .accepted _ => 0

/-- The bytes of a request that completed with status 0. -/
def delivered : Traffic → Nat
  | .written size status => if status = 0 then size else 0
  | .accepted _ => 0

def connections : Traffic → Nat
  | .accepted _ => 1
  | .written _ _ => 0

/-- The connections whose `ACCEPT` event was pushed. -/
def announced : Traffic → Nat
  | .accepted told => told.toNat
  | .written _ _ => 0

/-- A request that failed or was cancelled, and was counted all the same. -/
def overcounts : Traffic → Bool
  | .written size status => decide (status ≠ 0 ∧ 0 < size)
  | .accepted _ => false

/-- A connection whose `ACCEPT` event found no memory. -/
def untold : Traffic → Bool
  | .accepted told => !told
  | .written _ _ => false

variable {traffic : Traffic}

theorem delivered_le : traffic.delivered ≤ traffic.counted := by
  cases traffic with
  | written size status =>
      simp only [delivered, counted]
      split <;> omega
  | accepted told => exact le_rfl

theorem counted_eq_delivered_iff :
    traffic.counted = traffic.delivered ↔ traffic.overcounts = false := by
  cases traffic with
  | written size status =>
      simp only [delivered, counted, overcounts, decide_eq_false_iff_not]
      split <;> omega
  | accepted told => simp [delivered, counted, overcounts]

theorem announced_le : traffic.announced ≤ traffic.connections := by
  cases traffic with
  | written size status => exact le_rfl
  | accepted told => exact Bool.toNat_le told

theorem connections_eq_announced_iff :
    traffic.connections = traffic.announced ↔ traffic.untold = false := by
  cases traffic with
  | written size status => simp [connections, announced, untold]
  | accepted told => cases told <;> simp [connections, announced, untold]

/-- Where every summand of one sum bounds the summand of the other, the sums agree only
if the summands do. -/
theorem sums_eq_iff {first second : Traffic → Nat}
    (below : ∀ traffic, second traffic ≤ first traffic)
    (history : List Traffic) :
    (history.map first).sum = (history.map second).sum ↔
      ∀ traffic ∈ history, first traffic = second traffic := by
  induction history with
  | nil => simp
  | cons traffic rest ih =>
      have total : (rest.map second).sum ≤ (rest.map first).sum :=
        List.sum_le_sum fun other _ => below other
      have head := below traffic
      rw [List.map_cons, List.map_cons, List.sum_cons, List.sum_cons, List.forall_mem_cons, ← ih]
      omega

end Traffic

namespace Tally

/-- The counters, in terms of the events pushed for the entry and of what was settled
for it. -/
structure Settled (history : List Traffic) (tally : Tally) : Prop where
  read : tally.readBytes = tally.received % uint64Size
  write : tally.writeBytes = (history.map Traffic.counted).sum % uint64Size
  accept : tally.acceptCount = (history.map Traffic.connections).sum % uint64Size
  told : tally.accepts = (history.map Traffic.announced).sum

variable {history : List Traffic} {tally after : Tally} {clock : Nat} {entry : Entry} {act : Act}

theorem Settled.fresh (id : Int) (opaqueVal : Nat) : (Entry.fresh id opaqueVal).tally.Settled [] :=
  ⟨rfl, rfl, rfl, rfl⟩

theorem Settled.receive (settled : tally.Settled history) (told : List Event) (size : Nat) :
    (tally.receive told size clock).Settled history := by
  refine ⟨?_, settled.write, settled.accept, settled.told⟩
  simp [Tally.receive, settled.read]

theorem Settled.write_of (settled : tally.Settled history) (size : Nat) (status : Int) :
    (tally.write size clock).Settled (history ++ [.written size status]) := by
  refine ⟨settled.read, ?_, ?_, ?_⟩
  · simp [Tally.write, settled.write, Traffic.counted]
  · simp [Tally.write, settled.accept, Traffic.connections]
  · simp [Tally.write, settled.told, Traffic.announced]

theorem Settled.accept_of (settled : tally.Settled history) (told : Bool) :
    (tally.accept told clock).Settled (history ++ [.accepted told]) := by
  refine ⟨settled.read, ?_, ?_, ?_⟩
  · simp [Tally.accept, settled.write, Traffic.counted]
  · simp [Tally.accept, settled.accept, Traffic.connections]
  · simp [Tally.accept, settled.told, Traffic.announced]

/-- Warnings are not counted. -/
theorem Settled.warn (settled : tally.Settled history) (delivered : Bool) (told : List Int) :
    (tally.warn delivered told).Settled history :=
  ⟨settled.read, settled.write, settled.accept, settled.told⟩

theorem Charged.settled (charged : Charged clock entry act after)
    (settled : entry.tally.Settled history) : after.Settled (history ++ act.traffic entry) := by
  have silently {other : Act} {tally : Tally} (silent : other.traffic entry = [])
      (same : tally.Settled history) : tally.Settled (history ++ other.traffic entry) := by
    rw [silent, List.append_nil]
    exact same
  cases charged with
  | kept _ silent untagged => exact silently silent settled
  | read nread data env told => exact silently rfl (settled.receive told _)
  | datagram nread data address env => exact silently rfl (settled.receive [] _)
  | written _ size status isWritten untagged =>
      rw [isWritten]
      exact settled.write_of size status
  | accepted accepted env => exact settled.accept_of _
  | tagged fd =>
      exact silently rfl ⟨settled.read, settled.write, settled.accept, settled.told⟩

end Tally

namespace State

/-- What a step settles for the entry at `key`. -/
def traffic (cfg : Config) (key : Nat) (state : State) (label : Label) : List Traffic :=
  state.emits (fun act entry => act.traffic entry) cfg key label

variable {cfg : Config} {state next final : State} {label : Label} {key : Nat} {entry : Entry}

theorem settled_run {labels : List Label}
    (run : (socketSystem cfg).exec State.init labels = some final)
    (at_key : final.entries[key]? = some entry) :
    entry.tally.Settled ((socketSystem cfg).outputs (State.traffic cfg key) State.init labels) := by
  refine emits_run (fun act entry => act.traffic entry)
    (fun history entry => entry.tally.Settled history) ?_ Tally.Settled.fresh (fun _ _ => rfl) ?_
    run at_key
  · intro act entry worker
    cases act with
    | setExternalFd | freeEntry => rfl
    | _ => cases worker
  · intro history act frame sound enabled settled
    obtain ⟨tally, charged, result⟩ := act.run_charged cfg frame
    rw [result]
    exact (charged.settled settled).warn _ _

end State

/-- The counters are sums modulo `2 ^ 64`: of the payloads put into events, of the
connections taken and of the requests completed.  Below `2 ^ 64`, `read_bytes` is exact,
`write_bytes` is exact until a request with bytes in it completes with an error, and
`accept_count` until the `ACCEPT` event of a connection finds no memory. -/
theorem counters_exact_iff {cfg : Config} {labels : List Label} {final : State} {key : Nat}
    {entry : Entry} {history : List Traffic}
    (run : (socketSystem cfg).exec State.init labels = some final)
    (settled : (socketSystem cfg).outputs (State.traffic cfg key) State.init labels = history)
    (inTable : final.InTable key entry) :
    entry.readBytes = receivedBytes entry.log % uint64Size ∧
      entry.acceptCount = (history.map Traffic.connections).sum % uint64Size ∧
      entry.writeBytes = (history.map Traffic.counted).sum % uint64Size ∧
      (entry.readBytes = receivedBytes entry.log ↔ receivedBytes entry.log < uint64Size) ∧
      ((history.map Traffic.connections).sum < uint64Size →
        (entry.acceptCount = acceptEvents entry.log ↔
          ∀ traffic ∈ history, traffic.untold = false)) ∧
      ((history.map Traffic.counted).sum < uint64Size →
        (entry.writeBytes = (history.map Traffic.delivered).sum ↔
          ∀ traffic ∈ history, traffic.overcounts = false)) := by
  have sums := State.settled_run run inTable.1
  rw [settled] at sums
  have read : entry.readBytes = receivedBytes entry.log % uint64Size := sums.read
  have accepts : entry.acceptCount = (history.map Traffic.connections).sum % uint64Size :=
    sums.accept
  have writes : entry.writeBytes = (history.map Traffic.counted).sum % uint64Size := sums.write
  have told : acceptEvents entry.log = (history.map Traffic.announced).sum := sums.told
  refine ⟨read, accepts, writes, ?_, fun few => ?_, fun few => ?_⟩
  · rw [read]
    exact Nat.mod_eq_iff_lt (by decide)
  · rw [accepts, told, Nat.mod_eq_of_lt few, Traffic.sums_eq_iff fun _ => Traffic.announced_le]
    exact forall₂_congr fun _ _ => Traffic.connections_eq_announced_iff
  · rw [writes, Nat.mod_eq_of_lt few, Traffic.sums_eq_iff fun _ => Traffic.delivered_le]
    exact forall₂_congr fun _ _ => Traffic.counted_eq_delivered_iff

/-- Three bytes are written to a connected socket, and `uv_write` completes with
`status`. -/
def writeRun (status : Int) : List Label :=
  connectRun ++ ([.api (.send 4 false 3 .owned true false) .fine, .poll .fine, .wakeup,
    .command .fine, .commandsDone, .pump .fine, .pumpDone,
    .writeCompleted 0 status .fine] : List Label)

def writtenState : State :=
  ((socketSystem fourSlots).exec State.init (writeRun 0)).get (by decide)

def writtenEntry : Entry := (writtenState.entries[0]?).get (by decide)

theorem counters_exact_written :
    writtenState.InTable 0 writtenEntry ∧ writtenEntry.writeBytes = 3 ∧
      (((socketSystem fourSlots).outputs (State.traffic fourSlots 0) State.init
        (writeRun 0)).map Traffic.delivered).sum = 3 := by
  have inTable : writtenState.InTable 0 writtenEntry :=
    ⟨(Option.some_get (by decide)).symm, 0, by decide⟩
  have run : (socketSystem fourSlots).exec State.init (writeRun 0) = some writtenState :=
    (Option.some_get _).symm
  obtain ⟨-, -, -, -, -, written⟩ := counters_exact_iff run rfl inTable
  have three : writtenEntry.writeBytes = 3 := by decide
  exact ⟨inTable, three, ((written (by decide)).mpr (by decide)).symm.trans three⟩

/-- No `ACCEPT` event can be allocated. -/
def Env.noAccept : Env := { Env.fine with event := fun type => decide (type ≠ .accept) }

/-- A cancelled write counts, and a connection counts that nobody hears of. -/
theorem counters_overcount :
    (∃ final entry, (socketSystem fourSlots).exec State.init (writeRun uvEcanceled) = some final ∧
      final.InTable 0 entry ∧ entry.writeBytes = 3 ∧
      (socketSystem fourSlots).outputs (State.traffic fourSlots 0) State.init
        (writeRun uvEcanceled) = [.written 3 uvEcanceled]) ∧
    ∃ final listener, (socketSystem fourSlots).exec State.init
        (listenRun ++ ([.acceptConnection 0 0 .noAccept] : List Label)) = some final ∧
      final.InTable 0 listener ∧ listener.state = .listening ∧ listener.acceptCount = 1 ∧
      acceptEvents listener.log = 0 :=
  ⟨⟨_, _, (Option.some_get (by decide)).symm, ⟨(Option.some_get (by decide)).symm, 0, by decide⟩,
      by decide, by decide⟩,
    ⟨_, _, (Option.some_get (by decide)).symm, ⟨(Option.some_get (by decide)).symm, 0, by decide⟩,
      by decide, by decide, by decide⟩⟩

/-! ## The counters only grow -/

/-- The second has received as much as the first, and as late. -/
structure Tally.Below (first second : Tally) : Prop where
  received : first.received ≤ second.received
  readTime : first.readTime ≤ second.readTime
  writeTime : first.writeTime ≤ second.writeTime

/-- Nothing was stamped with a time that has not come yet. -/
def Tally.Past (clock : Nat) (tally : Tally) : Prop :=
  tally.readTime ≤ clock ∧ tally.writeTime ≤ clock

namespace Tally

variable {first second third : Tally} {clock later : Nat} {entry : Entry} {act : Act}

theorem Below.refl (tally : Tally) : tally.Below tally :=
  ⟨le_rfl, le_rfl, le_rfl⟩

theorem Below.trans (lower : first.Below second) (upper : second.Below third) :
    first.Below third :=
  ⟨lower.received.trans upper.received, lower.readTime.trans upper.readTime,
    lower.writeTime.trans upper.writeTime⟩

theorem Past.mono (past : first.Past clock) (onward : clock ≤ later) : first.Past later :=
  ⟨past.1.trans onward, past.2.trans onward⟩

theorem Charged.grows (charged : Charged clock entry act second)
    (past : entry.tally.Past clock) : entry.tally.Below second ∧ second.Past clock := by
  cases charged with
  | kept => exact ⟨.refl _, past⟩
  | read nread data env told | datagram nread data address env =>
      exact ⟨⟨Nat.le_add_right _ _, past.1, le_rfl⟩, le_rfl, past.2⟩
  | written _ size status settled untagged => exact ⟨⟨le_rfl, le_rfl, past.2⟩, past.1, le_rfl⟩
  | accepted accepted env => exact ⟨⟨le_rfl, past.1, le_rfl⟩, le_rfl, past.2⟩
  | tagged fd => exact ⟨⟨le_rfl, le_rfl, le_rfl⟩, past⟩

end Tally

namespace State

variable {cfg : Config} {state next final : State} {label : Label} {key : Nat} {entry first : Entry}

/-- `skyuv_socket_runtime_updatetime` does not turn the clock back. -/
def advances (state : State) : Label → Bool
  | .api (.updatetime time) _ => decide (state.runtime.currentTime ≤ time)
  | _ => true

theorem focus_clock {act : Act} (at_key : state.entries[key]? = some entry) :
    (state.focus cfg key act).runtime.currentTime = state.runtime.currentTime := by
  rw [focus_eq state at_key]
  exact act.run_currentTime cfg _

/-- Only `updatetime` moves the clock. -/
theorem Stepped.clock (stepped : state.Stepped cfg label next)
    (other : ∀ time env, label ≠ .api (.updatetime time) env) :
    next.runtime.currentTime = state.runtime.currentTime := by
  cases stepped with
  | called call env live called =>
      cases called with
      | timed time => exact absurd rfl (other time env)
      | unchanged | pushed | sent | refused | copyFreed | exit => rfl
  | opened call opaqueVal env live opened => cases opened <;> rfl
  | worker index env live at_index worked =>
      cases worked with
      | progressed | faulted | submitted | decided | unlinked => rfl
      | tagged fd entry pc call free at_key => exact focus_clock at_key
      | freed result entry pc at_key => exact focus_clock at_key
  | polled polled =>
      cases polled with
      | broken env signals | entered env signals | event signals | exit signals =>
          obtain ⟨_, _, _, _, _, rfl⟩ := signals
          rfl
      | waits | idle => rfl
  | moved | exitBegun | releaseEnded => rfl
  | releaseDone =>
      unfold State.releaseDone
      rw [destroyAll_eq]
  | unknown cmd rest env =>
      obtain ⟨_, same⟩ := processUnknown_eq env cmd state.runtime
      simp only [same]
  | exitEnded =>
      obtain ⟨_, same⟩ := updateExitReady_eq
        { state.runtime.closeProcessSignals with asyncClosing := true }
      simp only [same]
      rfl
  | acted target at_key enabled ready =>
      rw [focus_clock (ready.entries ▸ at_key)]
      cases ready <;> rfl
  | @accept listens status env listener running at_listener listening =>
      obtain ⟨base, result, from_⟩ := state.acceptConnection_cases cfg listens listener status env
      rw [result]
      rcases from_ with ⟨-, rfl⟩ | ⟨cursor, rfl⟩ | ⟨slot, cursor, -, -, -, rfl⟩
      · exact focus_clock at_listener
      · exact focus_clock at_listener
      · rw [focus_clock (accepted_kept at_listener _ _ _ _),
          focus_clock (state.reserved_last cfg listener.opaqueVal slot cursor)]
        rfl
  | signal signal env =>
      obtain ⟨_, _, same⟩ := onSignal_eq cfg env signal state.runtime
      simp only [same]

theorem Wf.clock_step (wf : state.Wf cfg) (run : step cfg state label = some next)
    (advances : state.advances label = true) :
    state.runtime.currentTime ≤ next.runtime.currentTime := by
  by_cases updates : ∃ time env, label = .api (.updatetime time) env
  · obtain ⟨time, env, rfl⟩ := updates
    obtain ⟨-, rfl⟩ : state.pc.live = true ∧ state.api (.updatetime time) env = next := by
      simpa [step, liveStep] using (Option.ite_none_right_eq_some.mp run).2
    exact of_decide_eq_true advances
  · exact ((wf.of_step run).1.clock fun time env same => updates ⟨time, env, same⟩).ge

theorem Stepped.charged (stepped : state.Stepped cfg label next) (wf : state.Wf cfg)
    (at_key : state.entries[key]? = some entry)
    (past : entry.tally.Past state.runtime.currentTime) :
    ∃ after, next.entries[key]? = some after ∧ entry.tally.Below after.tally ∧
      after.tally.Past state.runtime.currentTime := by
  obtain ⟨after, at_next, follows⟩ := stepped.follows wf at_key
  cases follows with
  | idle => exact ⟨entry, at_next, .refl _, past⟩
  | acted act runtime target enabled clock =>
      obtain ⟨tally, charged, result⟩ := act.run_charged cfg ⟨key, entry, runtime⟩
      obtain ⟨below, stamped⟩ := (clock ▸ charged).grows past
      refine ⟨_, at_next, ?_⟩
      rw [result]
      exact ⟨⟨below.received, below.readTime, below.writeTime⟩, stamped⟩

/-- Nothing in the table is stamped with a time that has not come yet. -/
def Past (state : State) : Prop :=
  state.Everywhere fun entry => entry.tally.Past state.runtime.currentTime

theorem Past.of_step (past : state.Past) (wf : state.Wf cfg)
    (advances : state.advances label = true)
    (run : step cfg state label = some next) : next.Past := by
  have onward := wf.clock_step run advances
  have stepped := (wf.of_step run).1
  intro key after at_next
  cases at_key : state.entries[key]? with
  | some entry =>
      obtain ⟨found, at_found, -, stamped⟩ := stepped.charged wf at_key (past key entry at_key)
      cases at_next.symm.trans at_found
      exact stamped.mono onward
  | none =>
      cases stepped.ran at_next with
      | unchanged at_same => cases at_key.symm.trans at_same
      | acted act runtime at_before => cases at_key.symm.trans at_before
      | reserved id opaqueVal isNew => exact ⟨Nat.zero_le _, Nat.zero_le _⟩
      | accepted id opaqueVal env runtime isNew =>
          have kept : ((Act.acceptInto env).run cfg
              ⟨key, Entry.fresh id opaqueVal, runtime⟩).entry.tally =
              (Entry.fresh id opaqueVal).tally := Frame.tally_acceptInto
          rw [kept]
          exact ⟨Nat.zero_le _, Nat.zero_le _⟩

theorem past_run {labels : List Label}
    (along : (socketSystem cfg).Along
      (fun state label => state.advances label = true) State.init labels)
    (run : (socketSystem cfg).exec State.init labels = some final) : final.Past :=
  System.exec_guarded (Wf cfg) Past (fun _ _ _ wf run => (wf.of_step run).2)
    (fun _ _ _ wf past advances run => past.of_step wf advances run)
    labels State.init final (Wf.init cfg) (by simp [Past, Everywhere, State.init]) along run

/-- In a run that never turns the clock back an entry only gets older and receives more. -/
theorem counters_grow {labels : List Label} (wf : state.Wf cfg) (past : state.Past)
    (at_key : state.entries[key]? = some first)
    (along : (socketSystem cfg).Along (fun state label => state.advances label = true) state labels)
    (run : (socketSystem cfg).exec state labels = some final) :
    ∃ after, final.entries[key]? = some after ∧ first.tally.Below after.tally := by
  have kept := System.exec_guarded (Wf cfg)
    (fun state => state.Past ∧ ∃ after, state.entries[key]? = some after ∧
      first.tally.Below after.tally) (fun _ _ _ wf run => (wf.of_step run).2) ?_
    labels state final wf ⟨past, first, at_key, .refl _⟩ along run
  · exact kept.2
  · rintro state label next wf ⟨past, entry, at_key, below⟩ advances run
    obtain ⟨after, at_next, grows, -⟩ :=
      (wf.of_step run).1.charged wf at_key (past key entry at_key)
    exact ⟨past.of_step wf advances run, after, at_next, below.trans grows⟩

end State

/-! ## Listeners read nothing -/

namespace Life

variable {act : Act} {life after : Life}

/-- Once a handle is open it neither becomes a listener nor stops being one, except by
closing. -/
theorem Move.turns (move : Move act life after) :
    after.state = life.state ∨ after.state = .closing ∨ life.initialized = false ∨
      life.state ≠ .listening ∧ life.state ≠ .closing ∧ after.state ≠ .listening := by
  cases move with
  | ignored | refused | reported | queuedHigh | queuedLow | datagram | draining | pumpSkipped
  | scanned | scanDropped | readNothing | readData | udpNothing | udpData | datagramSent
  | connectLate | acceptError | acceptStalled | acceptTaken | acceptDone | acceptDropped | closed
  | tagged | discarded | closedBare => exact .inl rfl
  | rejected | startFailed | closedNow | scanShut | readFailed | udpFailed | connectFailed
  | acceptRejected => exact .inr (.inl rfl)
  | aborted _ _ _ _ _ _ bare | listening _ _ _ _ bare | connecting _ _ _ bare | bound _ _ _ _ bare
  | udpOpened _ _ _ bare | accepted _ bare => exact .inr (.inr (.inl bare))
  | started command env event start state =>
      refine .inr (.inr (.inr ⟨?_, ?_, by simp [emit]⟩)) <;> rcases state with state | state <;>
        simp [state]
  | paused command env pause state | readEof nread data env event reading state
  | connected status env event state =>
      exact .inr (.inr (.inr ⟨by simp [state], by simp [state], by simp [emit]⟩))
  | pumped env state pumped => exact pumped.state.imp_right .inl
  | written status env buffer rest warnings head fine plain resumed =>
      exact resumed.state.imp_right .inl
  | writeFailed status env buffer rest event head fails state type resumed =>
      exact .inr (.inl (resumed.state.elim id id))

end Life

/-- A listener, or what is left of one: it has read nothing. -/
def Entry.Listens (entry : Entry) : Prop :=
  entry.initialized = true ∧ (entry.state = .listening ∨ entry.state = .closing) ∧
    entry.readBytes = 0

/-- Nothing is read for a listener, before it opens and while it listens. -/
def Entry.Unread (entry : Entry) : Prop :=
  entry.initialized = false ∨ entry.state = .listening → entry.readBytes = 0

section Reading

variable {cfg : Config} {act : Act} {frame : Frame}

/-- libuv reads for connected and for udp sockets. -/
theorem Act.run_readBytes (sound : frame.entry.life.Sound) (enabled : act.Enabled frame.entry.life)
    (quiet : frame.entry.initialized = false ∨ frame.entry.state = .listening ∨
      frame.entry.state = .closing) :
    (act.run cfg frame).entry.readBytes = frame.entry.readBytes := by
  have closed (state : frame.entry.state ≠ .connected ∧ frame.entry.state ≠ .udp) :
      frame.entry.uvReading = false ∧ frame.entry.uvReceiving = false :=
    ⟨Bool.eq_false_iff.mpr fun reads => state.1 (sound.reading reads),
      Bool.eq_false_iff.mpr fun receives => state.2 (sound.receiving receives)⟩
  have silent : frame.entry.uvReading = false ∧ frame.entry.uvReceiving = false := by
    rcases quiet with bare | listening | closing
    · obtain ⟨⟨reading, -, -, receiving, -⟩, -⟩ := sound.bare bare
      exact ⟨reading, receiving⟩
    · exact closed (by simp [listening])
    · exact closed (by simp [closing])
  have same : (act.run cfg frame).entry.tally.readBytes = frame.entry.tally.readBytes := by
    obtain ⟨tally, charged, result⟩ := act.run_charged cfg frame
    rw [result]
    cases charged with
    | kept | written | accepted | tagged => rfl
    | read nread data env => cases silent.1.symm.trans enabled
    | datagram nread data address env => cases silent.2.symm.trans enabled
  exact same

theorem unread_kept : Entry.Kept cfg (fun _ _ => false) Entry.Unread where
  fresh _ _ := fun _ => rfl
  accept _ _ := rfl
  run := by
    intro act frame sound enabled _ unread early
    have move := act.run_move cfg frame enabled sound
    have before : frame.entry.initialized = false ∨ frame.entry.state = .listening := by
      rcases early with bare | listening
      · refine .inl (Bool.eq_false_iff.mpr fun opened => ?_)
        cases bare.symm.trans (move.keeps_open opened)
      · rcases move.turns with same | closes | bare | ⟨-, -, other⟩
        · exact .inr (same.symm.trans listening)
        · cases closes.symm.trans listening
        · exact .inl bare
        · exact absurd listening other
    rw [Act.run_readBytes sound enabled (before.imp_right .inl)]
    exact unread before

theorem Entry.Listens.kept (sound : frame.entry.life.Sound) (enabled : act.Enabled frame.entry.life)
    (listens : frame.entry.Listens) : (act.run cfg frame).entry.Listens := by
  obtain ⟨opened, state, unread⟩ := listens
  have move := act.run_move cfg frame enabled sound
  refine ⟨move.keeps_open opened, ?_, (Act.run_readBytes sound enabled (.inr state)).trans unread⟩
  rcases move.turns with same | closes | bare | ⟨notListening, notClosing, -⟩
  · exact state.imp same.trans same.trans
  · exact .inr closes
  · cases bare.symm.trans opened
  · exact absurd state (not_or.mpr ⟨notListening, notClosing⟩)

end Reading

/-! ## Two snapshots of one reservation -/

/-- The snapshot has a record of `entry` at `key`, and this is it. -/
def State.Reports (cfg : Config) (alloc : Nat → Bool) (key : Nat) (entry : Entry)
    (record : SocketInfo) (state : State) : Prop :=
  state.InTable key entry ∧ entry.state.shown = true ∧ record = entry.info ∧
    record ∈ state.info cfg alloc

/-- No field of the first record is above that of the second. -/
def SocketInfo.Below (first second : SocketInfo) : Prop :=
  first.read ≤ second.read ∧ first.write ≤ second.write ∧ first.rtime ≤ second.rtime ∧
    first.wtime ≤ second.wtime

/-- What the run has counted for the entry fits the counters: less than `2 ^ 64` bytes in
events, less than `2 ^ 64` bytes in completed requests and less than `2 ^ 64` connections. -/
def Entry.Fits (history : List Traffic) (entry : Entry) : Prop :=
  receivedBytes entry.log < uint64Size ∧ (history.map Traffic.counted).sum < uint64Size ∧
    (history.map Traffic.connections).sum < uint64Size

instance (history : List Traffic) (entry : Entry) : Decidable (entry.Fits history) :=
  inferInstanceAs (Decidable (_ ∧ _ ∧ _))

/-- Counters that have not wrapped only grow. -/
theorem Tally.Settled.grows {history more : List Traffic} {first second : Entry}
    (settled : first.tally.Settled history) (later : second.tally.Settled (history ++ more))
    (received : receivedBytes first.log ≤ receivedBytes second.log)
    (fits : second.Fits (history ++ more)) :
    first.readBytes ≤ second.readBytes ∧ first.writeBytes ≤ second.writeBytes ∧
      first.acceptCount ≤ second.acceptCount := by
  obtain ⟨bytes, requests, connections⟩ := fits
  have sums (weight : Traffic → Nat) :
      (history.map weight).sum ≤ ((history ++ more).map weight).sum := by
    rw [List.map_append, List.sum_append]
    exact Nat.le_add_right _ _
  have below {before after : Nat} (less : before ≤ after) (few : after < uint64Size) :
      before % uint64Size ≤ after % uint64Size := by
    rw [Nat.mod_eq_of_lt few]
    exact (Nat.mod_le _ _).trans less
  refine ⟨?_, ?_, ?_⟩
  · exact (settled.read.trans_le (below received bytes)).trans_eq later.read.symm
  · exact (settled.write.trans_le (below (sums _) requests)).trans_eq later.write.symm
  · exact (settled.accept.trans_le (below (sums _) connections)).trans_eq later.accept.symm

theorem State.listens_of_inTable {cfg : Config} {state : State} {key : Nat} {entry : Entry}
    (reached : (socketSystem cfg).Reachable state) (inTable : state.InTable key entry)
    (listening : entry.state = .listening) : entry.Listens := by
  have wf := State.wf_reachable reached
  have unread := State.everywhere_reachable unread_kept reached key entry inTable.1
  refine ⟨?_, .inl listening, unread (.inr listening)⟩
  by_contra bare
  obtain ⟨-, -, -, early⟩ := (wf.sound key entry inTable.1).bare (by simpa using bare)
  cases listening.symm.trans (early (wf.alive_of_inTable inTable)).1

/-- Between two snapshots of one socket whose counters have not wrapped, no field goes
down, unless the socket was a listener that had accepted connections and is closing
now. -/
theorem snapshots_monotone_iff {cfg : Config} {labels more : List Label} {state final : State}
    {key : Nat} {entry after : Entry} {first second : SocketInfo} {alloc alloc' : Nat → Bool}
    (run : (socketSystem cfg).exec State.init labels = some state)
    (onward : (socketSystem cfg).exec state more = some final)
    (timely : (socketSystem cfg).Along (fun state label => state.advances label = true) State.init
      (labels ++ more))
    (reports : state.Reports cfg alloc key entry first)
    (later : final.Reports cfg alloc' key after second)
    (fits : after.Fits ((socketSystem cfg).outputs (State.traffic cfg key) State.init
      (labels ++ more))) :
    first.Below second ↔
      ¬ (entry.state = .listening ∧ 0 < entry.acceptCount ∧ after.state ≠ .listening) := by
  obtain ⟨inTable, -, rfl, -⟩ := reports
  obtain ⟨⟨at_final, -⟩, -, rfl, -⟩ := later
  have at_key := inTable.1
  have reached : (socketSystem cfg).Reachable state := ⟨labels, run⟩
  have wf := State.wf_reachable reached
  obtain ⟨before, rest⟩ := timely.append run
  obtain ⟨found, at_found, below⟩ :=
    State.counters_grow wf (State.past_run before run) at_key rest onward
  cases at_final.symm.trans at_found
  have whole : (socketSystem cfg).exec State.init (labels ++ more) = some final := by
    rw [System.exec_append, run]
    exact onward
  have settled := State.settled_run whole at_final
  rw [System.outputs_append run] at settled fits
  obtain ⟨read, write, accept⟩ :=
    (State.settled_run run at_key).grows settled below.received fits
  have others : entry.info.write ≤ after.info.write ∧ entry.info.rtime ≤ after.info.rtime ∧
      entry.info.wtime ≤ after.info.wtime := ⟨write, below.readTime, below.writeTime⟩
  have shows (entry : Entry) : entry.info.read =
      if entry.state = .listening then entry.acceptCount else entry.readBytes := rfl
  rw [SocketInfo.Below, and_iff_left others, shows, shows]
  by_cases listening : entry.state = .listening
  · rw [if_pos listening]
    by_cases still : after.state = .listening
    · rw [if_pos still]
      exact iff_of_true accept fun closed => closed.2.2 still
    · -- the record of a closed listener shows the bytes it has read, which are none
      obtain ⟨found, at_found, -, -, none⟩ :
          ∃ found, final.entries[key]? = some found ∧ found.Listens :=
        State.follow_acts (fun reached at_key _ _ enabled =>
            Entry.Listens.kept ((State.wf_reachable reached).sound key _ at_key) enabled)
          reached at_key (State.listens_of_inTable reached inTable listening)
          (.of_forall (fun _ _ => True.intro) _ _) onward
      cases at_final.symm.trans at_found
      rw [if_neg still, none]
      simp [listening, still]
  · rw [if_neg listening]
    refine iff_of_true ?_ fun closed => listening closed.1
    by_cases starts : after.state = .listening
    · have unread :=
        State.everywhere_reachable unread_kept (reached.steps onward) key after at_final
      have none : after.readBytes = 0 := unread (.inr starts)
      omega
    · rw [if_neg starts]
      exact read

/-- A connected socket reads three bytes at time 5. -/
def readRun : List Label :=
  [.api (.updatetime 5) .fine, .poll .fine, .readCompleted 0 3 [1, 2, 3] .fine]

def connectedEntry : Entry := (connectedState.entries[0]?).get (by decide)

def readState : State := ((socketSystem fourSlots).exec connectedState readRun).get (by decide)

def readEntry : Entry := (readState.entries[0]?).get (by decide)

theorem snapshots_monotone_read :
    connectedEntry.info.Below readEntry.info ∧ connectedEntry.info.read < readEntry.info.read := by
  have reports : connectedState.Reports fourSlots (fun _ => true) 0 connectedEntry
      connectedEntry.info := ⟨⟨(Option.some_get _).symm, 0, by decide⟩, by decide, rfl, by decide⟩
  have later : readState.Reports fourSlots (fun _ => true) 0 readEntry readEntry.info :=
    ⟨⟨(Option.some_get _).symm, 0, by decide⟩, by decide, rfl, by decide⟩
  exact ⟨(snapshots_monotone_iff (Option.some_get _).symm (Option.some_get _).symm (by decide)
    reports later (by decide)).mpr (by decide), by decide⟩

/-- A listener that has accepted one connection is shut down: its record goes from one
connection to no bytes. -/
theorem listener_snapshot_decreases :
    ∃ state final entry after first second,
      (socketSystem fourSlots).exec State.init
        (listenRun ++ ([.acceptConnection 0 0 .fine] : List Label)) =
        some state ∧
      (socketSystem fourSlots).exec state [.api (.shutdown 4 7) .fine, .wakeup, .command .fine] =
        some final ∧
      state.Reports fourSlots (fun _ => true) 0 entry first ∧
      final.Reports fourSlots (fun _ => true) 0 after second ∧
      first.type = .listen ∧ first.read = 1 ∧ second.type = .closing ∧ second.read = 0 := by
  refine ⟨_, _, _, _, _, _, (Option.some_get (by decide)).symm, (Option.some_get (by decide)).symm,
    ⟨⟨(Option.some_get (by decide)).symm, 0, by decide⟩, by decide, rfl, by decide⟩,
    ⟨⟨(Option.some_get (by decide)).symm, 0, by decide⟩, by decide, rfl, by decide⟩,
    by decide, by decide, by decide, by decide⟩

end Skyuv.Socket
