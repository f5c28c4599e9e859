import Skyuv.Socket.Steps

/-!
# Listeners and exhaustion

`accept_connection` returns without `uv_accept` when it cannot reserve an entry
or set up its handle.  libuv then stops watching the listener until `uv_accept`
is called, which nothing does: the listener still is `LISTENING`, and no
connection is delivered to it again.
-/

set_option autoImplicit false

namespace Skyuv.Socket

open TransitionSystem

namespace State

variable {cfg : Config} {state next : State} {key : Nat} {listener : Entry} {env : Env}

/-- What `accept_connection` needs to take a connection: a free slot, memory for
the entry, and a handle. -/
def Room (cfg : Config) (env : Env) (state : State) : Prop :=
  (∃ slot < cfg.slotCount, state.runtime.table.slots slot = none) ∧ env.node = true ∧
    env.uv .tcpInit = 0

/-- Without room the callback stalls the listener; with room it calls `uv_accept`. -/
theorem acceptAct_of_room (listener : Entry) {status : Int} (valid : 0 ≤ status)
    (room : state.Room cfg env) :
    state.acceptAct cfg listener status env = .acceptTaken ∨
      ∃ id, state.acceptAct cfg listener status env = .acceptDone id env := by
  obtain ⟨free, alloc, init⟩ := room
  unfold State.acceptAct
  rw [if_neg (Int.not_lt.mpr valid)]
  cases reserved : (state.reserveEntry cfg env listener.opaqueVal).1 with
  | none => exact absurd ⟨free, alloc⟩ ((state.reserveEntry_none_iff cfg env _).mp reserved)
  | some id =>
      dsimp only
      rw [if_neg (not_not.mpr init)]
      split
      · exact .inl rfl
      · exact .inr ⟨id, rfl⟩

theorem acceptAct_of_no_room {status : Int} (valid : 0 ≤ status) (noRoom : ¬state.Room cfg env) :
    state.acceptAct cfg listener status env = .acceptStalled := by
  unfold State.acceptAct
  rw [if_neg (Int.not_lt.mpr valid)]
  cases reserved : (state.reserveEntry cfg env listener.opaqueVal).1 with
  | none => rfl
  | some id =>
      dsimp only
      have available : state.Reserves cfg env := by
        by_contra exhausted
        rw [(state.reserveEntry_none_iff cfg env _).mpr exhausted] at reserved
        cases reserved
      rw [if_pos fun init => noRoom ⟨available.1, available.2, init⟩]

/-- What the callback leaves of the listener. -/
theorem accepted_listener {status : Int} {after : Entry}
    (at_key : state.entries[key]? = some listener)
    (run : step cfg state (.acceptConnection key status env) = some next)
    (at_after : next.entries[key]? = some after) :
    listener.uvListening = true ∧ ∃ runtime,
      after = ((state.acceptAct cfg listener status env).run cfg
        ⟨key, listener, runtime⟩).entry := by
  obtain ⟨-, run⟩ := Option.ite_none_right_eq_some.mp run
  dsimp only [liveStep] at run
  rw [at_key] at run
  obtain ⟨guard, ⟨⟩⟩ := Option.ite_none_right_eq_some.mp run
  simp only [Bool.and_eq_true] at guard
  refine ⟨guard.2, ?_⟩
  obtain ⟨base, result, from_⟩ := state.acceptConnection_cases cfg key listener status env
  have at_base : base.entries[key]? = some listener := by
    rcases from_ with ⟨-, rfl⟩ | ⟨cursor, rfl⟩ | ⟨slot, cursor, -, -, -, rfl⟩
    · exact at_key
    · exact at_key
    · exact accepted_kept at_key _ _ _ _
  rw [result] at at_after
  exact ⟨base.runtime, ((entries_focus at_base at_after).resolve_right fun other => other.1 rfl).2⟩

end State

/-- The connection is taken, and the listener stays armed, exactly when there is
room for it. -/
theorem accept_iff_room (cfg : Config) (state next : State) (key : Nat) (status : Int) (env : Env)
    (valid : 0 ≤ status) (listener after : Entry) (at_key : state.entries[key]? = some listener)
    (run : step cfg state (.acceptConnection key status env) = some next)
    (at_after : next.entries[key]? = some after) :
    ((∃ events, after.log = listener.log ++ .uvAccept :: events) ↔ state.Room cfg env) ∧
    (after.uvListening = true ↔ state.Room cfg env) := by
  obtain ⟨listening, runtime, rfl⟩ := State.accepted_listener at_key run at_after
  by_cases room : state.Room cfg env
  · rcases State.acceptAct_of_room listener valid room with taken | ⟨id, taken⟩
    · rw [taken]
      exact ⟨iff_of_true ⟨[], rfl⟩ room, iff_of_true listening room⟩
    · rw [taken]
      refine ⟨iff_of_true ⟨_, List.append_assoc _ _ _⟩ room, iff_of_true listening room⟩
  · rw [State.acceptAct_of_no_room valid room]
    refine ⟨iff_of_false ?_ room, iff_of_false Bool.false_ne_true room⟩
    rintro ⟨events, told⟩
    have lengths := congrArg List.length told
    simp [Act.run, Frame.acceptStalled, Frame.modify] at lengths

/-- A worker listens and the loop opens the listener, which has id 4. -/
def listenRun : List Label :=
  [.openCall (.listen (some "127.0.0.1") 80 8) 7 .fine, .worker 0 .fine, .worker 0 .fine,
    .worker 0 .fine, .poll .fine, .wakeup, .command .fine, .commandsDone, .pumpDone]

def listenState : State := ((socketSystem fourSlots).exec State.init listenRun).get (by decide)

def listenEntry : Entry := (listenState.entries[0]?).get (by decide)

def acceptedState : State :=
  (step fourSlots listenState (.acceptConnection 0 0 .fine)).get (by decide)

def acceptedEntry : Entry := (acceptedState.entries[0]?).get (by decide)

theorem accept_iff_room_one_listener :
    (socketSystem fourSlots).exec State.init listenRun = some listenState ∧
      listenState.Room fourSlots .fine ∧ acceptedEntry.uvListening = true := by
  have room : listenState.Room fourSlots .fine := ⟨⟨1, by decide, by decide⟩, rfl, rfl⟩
  refine ⟨(Option.some_get _).symm, room, ?_⟩
  exact (accept_iff_room fourSlots listenState acceptedState 0 0 .fine (by decide) listenEntry
    acceptedEntry (Option.some_get _).symm (Option.some_get _).symm (Option.some_get _).symm).2.mpr
    room

/-- The command of a call cannot be allocated. -/
def Env.noCommand : Env := { Env.fine with command := false }

/-- Three calls have reserved the other slots when a connection arrives; then one
of them fails and its slot is free again, but the listener is not watched. -/
theorem listener_stalled_by_full_table :
    ∃ final listener, (socketSystem fourSlots).exec State.init (listenRun ++
        ([.openCall (.connect (some "127.0.0.1") 80) 7 .fine,
          .openCall (.connect (some "127.0.0.1") 80) 7 .fine,
          .openCall (.connect (some "127.0.0.1") 80) 7 .fine, .acceptConnection 0 0 .fine,
          .worker 1 .noCommand, .worker 1 .fine, .worker 1 .fine, .worker 1 .fine,
          .worker 1 .fine] : List Label)) = some final ∧
      final.entries[0]? = some listener ∧ listener.state = .listening ∧
      listener.uvClosing = false ∧ .uvAccept ∉ listener.log ∧ listener.uvListening = false ∧
      final.runtime.table.slots 1 = none :=
  ⟨_, _, (Option.some_get (by decide)).symm, (Option.some_get (by decide)).symm, by decide,
    by decide, by decide, by decide, by decide⟩

end Skyuv.Socket
