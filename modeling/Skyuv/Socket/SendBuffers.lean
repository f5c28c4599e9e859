import Skyuv.Socket.Buffers
import Skyuv.Socket.Server

/-!
# Who frees what a send call is given

`socket_server_send`, `socket_server_send_lowpriority` and `socket_server_udp_send`
take a buffer of one of three types.  Memory goes to the runtime, or is freed when the
runtime refuses it; an object is freed at once and a copy of it goes the same way; a raw
pointer stays with the caller.  The runtime takes an owned buffer only with a successful
call, and frees its own copy of a borrowed one.  The calls are followed here with every
`free` that they make.
-/

set_option autoImplicit false

namespace Skyuv.Socket

open TransitionSystem Ledger

/-! ## The calls -/

/-- The blocks that a send call frees or hands on. -/
inductive Block where
  | caller
  /-- The copy of an object. -/
  | copy
  deriving DecidableEq, Repr

/-- What a send call returns, which blocks it frees, and which one it offers to the
runtime as `SKYUV_SOCKET_BUFFER_OWNED`. -/
structure Sent where
  result : Int
  frees : List Block
  offers : Option Block
  state : State

/-- `release_sendbuffer`. -/
def releaseSendbuffer (objects : ObjectInterface) (buffer : SendBuffer) : List Block :=
  if buffer.releases objects then [.caller] else []

/-- The calls of `socket_server_compat.c` that send. -/
inductive SendCall where
  | send
  | sendLowpriority
  | udpSend (address : List UInt8)

/-- The command that the runtime queues for the call. -/
def SendCall.body : SendCall → SendPayload → CommandBody
  | .send => .send
  | .sendLowpriority => .sendLow
  | .udpSend _ => .udpSend

/-- The address that goes with the command. -/
def SendCall.address : SendCall → List UInt8
  | .send | .sendLowpriority => []
  | .udpSend [] => []
  | .udpSend (tag :: rest) => (tag :: rest).take (taggedSize tag)

/-- The address is as long as its tag says. -/
def SendCall.fits : SendCall → Bool
  | .send | .sendLowpriority => true
  | .udpSend [] => false
  | .udpSend (tag :: rest) => decide (taggedSize tag ≤ (tag :: rest).length)

namespace State

/-- `skyuv_socket_runtime_send` and `skyuv_socket_runtime_send_low` with data, and
without a release function. -/
def runtimeSend (env : Env) (id : Int) (size : Nat) (ownership : Ownership) (low : Bool)
    (state : State) : Status × State :=
  let next := state.api (.send id false size ownership false low) env
  ((next.sends.getLast?.map SendRecord.status).getD .ok, next)

/-- The part that `send_buffer` and `socket_server_udp_send` have in common; `submit` is
the send function of the runtime that they call. -/
def offerBuffer (submit : Ownership → State → Status × State) (objects : ObjectInterface)
    (buffer : SendBuffer) (env : Env) (state : State) : Sent :=
  if buffer.type = .object then
    if !objects.buffer || !objects.size || !objects.free then ⟨-1, [], none, state⟩
    else if !env.data then ⟨-1, releaseSendbuffer objects buffer, none, state⟩
    else
      let (status, next) := submit .owned state
      ⟨if status = .ok then 0 else -1,
        releaseSendbuffer objects buffer ++ (if status ≠ .ok then [.copy] else []),
          some .copy, next⟩
  else
    let ownership := if buffer.type = .memory then Ownership.owned else .borrowed
    let (status, next) := submit ownership state
    ⟨if status = .ok then 0 else -1,
      if status ≠ .ok ∧ buffer.type = .memory then releaseSendbuffer objects buffer else [],
      if buffer.type = .memory then some .caller else none, next⟩

def sendBuffer (objects : ObjectInterface) (buffer : SendBuffer) (low : Bool) (env : Env)
    (state : State) : Sent :=
  if buffer.null then ⟨-1, [], none, state⟩
  else
    state.offerBuffer (fun ownership state =>
      state.runtimeSend env buffer.id buffer.size ownership low) objects buffer env

def socketServerSend (objects : ObjectInterface) (buffer : SendBuffer) (env : Env) (state : State) :
    Sent :=
  state.sendBuffer objects buffer false env

def socketServerSendLowpriority (objects : ObjectInterface) (buffer : SendBuffer) (env : Env)
    (state : State) : Sent :=
  state.sendBuffer objects buffer true env

/-- `socket_server_udp_send` with its frees; reading past the end of the address is
undefined. -/
def sendDatagram (objects : ObjectInterface) (address : Option (List UInt8)) (buffer : SendBuffer)
    (env : Env) (state : State) : Option Sent :=
  if buffer.null then some ⟨-1, [], none, state⟩
  else
    match address with
    | none => some ⟨-1, [], none, state⟩
    | some [] => none
    | some (tag :: rest) =>
        let size := taggedSize tag
        let encoded := (tag :: rest).take size
        if size = 0 then some ⟨-1, releaseSendbuffer objects buffer, none, state⟩
        else if encoded.length < size then none
        else
          some (state.offerBuffer (fun ownership state =>
            state.udpSend env buffer.id encoded buffer.size ownership) objects buffer env)

/-- The call with the given buffer, for an address that is there. -/
def serve (call : SendCall) (objects : ObjectInterface) (buffer : SendBuffer) (env : Env)
    (state : State) : Option Sent :=
  match call with
  | .send => some (state.socketServerSend objects buffer env)
  | .sendLowpriority => some (state.socketServerSendLowpriority objects buffer env)
  | .udpSend address => state.sendDatagram objects (some address) buffer env

/-- The frees left out, this is the call as the replies to datagrams use it. -/
theorem socketServerUdpSend_eq (objects : ObjectInterface) (address : Option (List UInt8))
    (buffer : SendBuffer) (env : Env) (state : State) :
    state.socketServerUdpSend objects address buffer env =
      (state.sendDatagram objects address buffer env).map fun sent =>
        ⟨sent.result, decide (.caller ∈ sent.frees), sent.state⟩ := by
  have released : decide (.caller ∈ releaseSendbuffer objects buffer) =
      buffer.releases objects := by
    unfold releaseSendbuffer
    cases buffer.releases objects <;> rfl
  unfold socketServerUdpSend sendDatagram
  split
  · rfl
  · split
    · rfl
    · rfl
    · dsimp only
      split
      · simp [released]
      · split
        · rfl
        · simp only [offerBuffer, Option.map_some]
          split
          · rename_i isObject
            have frees : buffer.releases objects = objects.free := by
              simp [SendBuffer.releases, isObject]
            split
            · rfl
            · rename_i installed
              have free : objects.free = true := by
                cases hasFree : objects.free with
                | true => rfl
                | false => simp [hasFree] at installed
              split
              · simp [released, frees, free]
              · simp [releaseSendbuffer, frees, free]
          · rename_i other
            have frees (memory : buffer.type = .memory) : buffer.releases objects = true := by
              simp [SendBuffer.releases, memory]
            by_cases memory : buffer.type = .memory
            · simp [memory, releaseSendbuffer, frees]
            · simp [memory]

/-! ## What the runtime does with an offer -/

variable {cfg : Config} {state next final : State} {env : Env} {label : Label}

/-- A send function of the runtime has returned `status`: its command is queued if and
only if that is `SKYUV_OK`. -/
structure Submitted (env : Env) (ownership : Ownership) (command : Command) (state : State)
    (status : Status) (next : State) : Prop where
  calls : ∃ call, next = state.api call env
  sends : next.sends = state.sends ++ [⟨state.nextToken, ownership, status⟩]
  queued : status = .ok → next.commands = state.commands ++ [command]
  refused : status ≠ .ok → next.commands = state.commands

theorem submitSend_submitted (env : Env) (id : Int) (size : Nat) (ownership : Ownership)
    (address : List UInt8) (body : SendPayload → CommandBody) (state : State) :
    ∃ status,
      (state.submitSend env id size ownership false address body).sends =
        state.sends ++ [⟨state.nextToken, ownership, status⟩] ∧
      (status = .ok → (state.submitSend env id size ownership false address body).commands =
        state.commands ++ [⟨id, 0, body ⟨⟨state.nextToken, size, false⟩, .owned, address⟩⟩]) ∧
      (status ≠ .ok →
        (state.submitSend env id size ownership false address body).commands = state.commands) := by
  by_cases admits : state.Admits env ownership
  · rw [submitSend_admitted admits, Bool.and_false]
    exact ⟨.ok, rfl, fun _ => rfl, fun failed => absurd rfl failed⟩
  · obtain ⟨same, status, failed, sends⟩ := submitSend_rejected id size false address body admits
    exact ⟨status, sends, fun ok => absurd ok failed, fun _ => same⟩

/-- The status that the call returns is the one in its record. -/
theorem Submitted.of_api {call : ApiCall} {ownership : Ownership} {command : Command}
    (answered : ∃ status,
      (state.api call env).sends = state.sends ++ [⟨state.nextToken, ownership, status⟩] ∧
      (status = .ok → (state.api call env).commands = state.commands ++ [command]) ∧
      (status ≠ .ok → (state.api call env).commands = state.commands)) :
    state.Submitted env ownership command
      (((state.api call env).sends.getLast?.map SendRecord.status).getD .ok)
      (state.api call env) := by
  obtain ⟨status, sends, queued, refused⟩ := answered
  have same : ((state.api call env).sends.getLast?.map SendRecord.status).getD .ok = status := by
    simp [sends]
  rw [same]
  exact ⟨⟨call, rfl⟩, sends, queued, refused⟩

theorem runtimeSend_submitted (env : Env) (id : Int) (size : Nat) (ownership : Ownership)
    (low : Bool) (state : State) :
    state.Submitted env ownership ⟨id, 0, (if low then CommandBody.sendLow else .send)
        ⟨⟨state.nextToken, size, false⟩, .owned, []⟩⟩
      (state.runtimeSend env id size ownership low).1
      (state.runtimeSend env id size ownership low).2 := by
  apply Submitted.of_api
  unfold api
  dsimp only
  split
  · exact ⟨.invalidArgument, rfl, by simp, fun _ => rfl⟩
  · exact submitSend_submitted env id size ownership [] _ state

theorem udpSend_submitted (env : Env) (id : Int) (address : List UInt8) (size : Nat)
    (ownership : Ownership) (state : State) :
    state.Submitted env ownership
      ⟨id, 0, .udpSend ⟨⟨state.nextToken, size, false⟩, .owned, address⟩⟩
      (state.udpSend env id address size ownership).1
      (state.udpSend env id address size ownership).2 := by
  apply Submitted.of_api
  unfold api
  dsimp only
  split
  · exact ⟨.invalidArgument, rfl, by simp, fun _ => rfl⟩
  · exact submitSend_submitted env id size ownership address _ state

/-! ## Who holds the block afterwards -/

/-- A call of the runtime is defined. -/
def Serving (state : State) : Prop := state.pc.live = true ∧ state.faults = []

theorem Serving.called (serving : state.Serving) (call : ApiCall) (env : Env) :
    step cfg state (.api call env) = some (state.api call env) := by
  simp [step, liveStep, serving.1, serving.2]

/-- The record of a send call stays. -/
theorem Stepped.sends_grow (stepped : state.Stepped cfg label next) :
    state.sends <+: next.sends := by
  have focused {base : State} (same : base.sends = state.sends) (key : Nat) (act : Act) :
      state.sends <+: (base.focus cfg key act).sends := by
    obtain ⟨_, _, shape⟩ := focus_shape cfg key act base
    rw [shape, ← same]
  cases stepped with
  | called call env live called =>
      cases called with
      | unchanged | pushed | exit | timed => exact List.prefix_rfl
      | sent | refused | copyFreed => exact List.prefix_append _ _
  | opened call opaqueVal env live opened => cases opened <;> exact List.prefix_rfl
  | worker index env live at_index worked =>
      cases worked with
      | progressed | faulted | submitted | decided | unlinked => exact List.prefix_rfl
      | tagged | freed => exact focused rfl _ _
  | polled polled => cases polled <;> exact List.prefix_rfl
  | moved | unknown | exitBegun | exitEnded | signal | releaseEnded | releaseDone =>
      exact List.prefix_rfl
  | acted target at_act enabled ready => exact focused (by cases ready <;> rfl) _ _
  | @accept listens status env listener =>
      obtain ⟨_, _, same⟩ := state.accept_shape cfg listens listener status env
      rw [same]

theorem sends_run {labels : List Label} (wf : state.Wf cfg)
    (run : (socketSystem cfg).exec state labels = some final) : state.sends <+: final.sends := by
  induction labels generalizing state with
  | nil =>
      cases Option.some.inj run
      exact List.prefix_rfl
  | cons label rest ih =>
      obtain ⟨next, first, tail⟩ := System.exec_cons run
      obtain ⟨stepped, onward⟩ := wf.of_step first
      exact stepped.sends_grow.trans (ih onward tail)

/-- From then on the runtime holds or has released the block once, if it took it, and
knows nothing of it otherwise. -/
theorem Submitted.holders {ownership : Ownership} {command : Command} {status : Status}
    (submitted : state.Submitted env ownership command status next) (serving : state.Serving)
    (reached : (socketSystem cfg).Reachable state) {labels : List Label}
    (run : (socketSystem cfg).exec next labels = some final) :
    (status = .ok → final.holders state.nextToken = 1) ∧
      (status ≠ .ok → ownership = .owned → final.holders state.nextToken = 0) := by
  obtain ⟨call, rfl⟩ := submitted.calls
  have after : (socketSystem cfg).Reachable (state.api call env) :=
    reached.next (serving.called call env)
  have books := books_reachable (after.steps run)
  have member : ⟨state.nextToken, ownership, status⟩ ∈ final.sends :=
    (sends_run (wf_reachable after) run).subset (by simp [submitted.sends])
  exact ⟨books.accepted _ member, books.refused _ member⟩

end State

/-! ## One owner for every block -/

/-- How often the block was freed by the call, or is held or was released by the runtime
that was offered it. -/
def Sent.uses (token : Nat) (block : Block) (later : State) (sent : Sent) : Nat :=
  sent.frees.count block + if sent.offers = some block then later.holders token else 0

/-- What becomes of the blocks of a call, in a state that its state has led to. -/
structure Sent.Consumes (buffer : SendBuffer) (token : Nat) (later : State) (sent : Sent) :
    Prop where
  memory : buffer.type = .memory →
    sent.uses token .caller later = 1 ∧ (.caller ∈ sent.frees ↔ sent.result ≠ 0)
  object : buffer.type = .object → sent.frees.count .caller = 1 ∧ sent.offers ≠ some .caller
  copy : sent.offers = some .copy →
    sent.uses token .copy later = 1 ∧ (.copy ∈ sent.frees ↔ sent.result ≠ 0)
  uncopied : sent.offers ≠ some .copy → .copy ∉ sent.frees ∧
    (buffer.type = .object → sent.result ≠ 0)
  raw : buffer.type = .rawPointer → sent.frees = [] ∧ sent.offers = none

/-- The result says whether the runtime has queued the command. -/
structure Sent.Answers (command : Command) (state : State) (sent : Sent) : Prop where
  code : sent.result = 0 ∨ sent.result = -1
  accepted : sent.result = 0 → sent.state.commands = state.commands ++ [command]
  refused : sent.result ≠ 0 → sent.state.commands = state.commands

/-- All functions of the object interface are set. -/
def ObjectInterface.Installed (objects : ObjectInterface) : Prop :=
  objects.buffer = true ∧ objects.size = true ∧ objects.free = true

theorem releaseSendbuffer_eq {objects : ObjectInterface} (installed : objects.Installed)
    {buffer : SendBuffer} (freed : buffer.type ≠ .rawPointer) :
    releaseSendbuffer objects buffer = [.caller] := by
  unfold releaseSendbuffer SendBuffer.releases
  cases type : buffer.type with
  | memory => rfl
  | object => simp [installed.2.2]
  | rawPointer => exact absurd type freed

theorem releaseSendbuffer_raw {objects : ObjectInterface} {buffer : SendBuffer}
    (raw : buffer.type = .rawPointer) : releaseSendbuffer objects buffer = [] := by
  simp [releaseSendbuffer, SendBuffer.releases, raw]

namespace State

variable {cfg : Config} {state later : State} {env : Env} {objects : ObjectInterface}
  {buffer : SendBuffer} {command : Command} {submit : Ownership → State → Status × State}

/-- A call that ends before it has asked the runtime. -/
theorem released_consumes (installed : objects.Installed) (token : Nat) :
    Sent.Consumes buffer token later ⟨-1, releaseSendbuffer objects buffer, none, state⟩ := by
  cases type : buffer.type with
  | rawPointer =>
      rw [releaseSendbuffer_raw type]
      constructor <;> simp [type, Sent.uses]
  | memory | object =>
      rw [releaseSendbuffer_eq installed (by simp [type])]
      constructor <;> simp [type, Sent.uses]

theorem offerBuffer_answers
    (submits : ∀ ownership, state.Submitted env ownership command (submit ownership state).1
      (submit ownership state).2) :
    (state.offerBuffer submit objects buffer env).Answers command state := by
  have offered (ownership : Ownership) (frees : List Block) (offers : Option Block) :
      Sent.Answers command state ⟨if (submit ownership state).1 = .ok then 0 else -1, frees, offers,
        (submit ownership state).2⟩ := by
    have submitted := submits ownership
    by_cases ok : (submit ownership state).1 = .ok
    · rw [if_pos ok]
      exact ⟨.inl rfl, fun _ => submitted.queued ok, fun failed => absurd rfl failed⟩
    · rw [if_neg ok]
      exact ⟨.inr rfl, by simp, fun _ => submitted.refused ok⟩
  have unasked (frees : List Block) : Sent.Answers command state ⟨-1, frees, none, state⟩ :=
    ⟨.inr rfl, by simp, fun _ => rfl⟩
  unfold offerBuffer
  split
  · split
    · exact unasked _
    · split
      · exact unasked _
      · exact offered .owned _ _
  · exact offered _ _ _

theorem offerBuffer_consumes (reached : (socketSystem cfg).Reachable state)
    (serving : state.Serving) (installed : objects.Installed)
    (submits : ∀ ownership, state.Submitted env ownership command (submit ownership state).1
      (submit ownership state).2) {labels : List Label}
    (run : (socketSystem cfg).exec (state.offerBuffer submit objects buffer env).state labels =
      some later) :
    (state.offerBuffer submit objects buffer env).Consumes buffer state.nextToken later := by
  revert run
  unfold offerBuffer
  split
  · rename_i isObject
    rw [if_neg (by simp [installed.1, installed.2.1, installed.2.2])]
    split
    · intro run
      exact released_consumes installed _
    · intro run
      have held := (submits .owned).holders serving reached run
      dsimp only
      rw [releaseSendbuffer_eq installed (by simp [isObject])]
      by_cases ok : (submit .owned state).1 = .ok
      · have one := held.1 ok
        constructor <;> simp [isObject, Sent.uses, ok, one]
      · have none := held.2 ok rfl
        constructor <;> simp [isObject, Sent.uses, ok, none]
  · rename_i other
    intro run
    cases type : buffer.type with
    | object => exact absurd type other
    | rawPointer => constructor <;> simp [type]
    | memory =>
        rw [releaseSendbuffer_eq installed (by simp [type])]
        simp only [type, if_true] at run ⊢
        have held := (submits .owned).holders serving reached run
        by_cases ok : (submit .owned state).1 = .ok
        · have one := held.1 ok
          constructor <;> simp [type, Sent.uses, ok, one]
        · have none := held.2 ok rfl
          constructor <;> simp [type, Sent.uses, ok, none]

/-- The command that an accepted call leaves in the queue. -/
def queuedBy (call : SendCall) (buffer : SendBuffer) (state : State) : Command :=
  ⟨buffer.id, 0, call.body ⟨⟨state.nextToken, buffer.size, false⟩, .owned, call.address⟩⟩

/-- Every call either stops before it asks the runtime, or offers it the buffer. -/
theorem serve_cases (call : SendCall) (objects : ObjectInterface) (buffer : SendBuffer) (env : Env)
    (state : State) (present : buffer.null = false) (fits : call.fits = true) :
    state.serve call objects buffer env =
        some ⟨-1, releaseSendbuffer objects buffer, none, state⟩ ∨
      ∃ submit, state.serve call objects buffer env =
          some (state.offerBuffer submit objects buffer env) ∧
        ∀ ownership, state.Submitted env ownership (state.queuedBy call buffer)
          (submit ownership state).1 (submit ownership state).2 := by
  have sends (low : Bool) : state.sendBuffer objects buffer low env =
      state.offerBuffer (fun ownership state =>
        state.runtimeSend env buffer.id buffer.size ownership low) objects buffer env := by
    simp [sendBuffer, present]
  cases call with
  | send =>
      exact .inr ⟨_, congrArg some (sends false), fun ownership =>
        state.runtimeSend_submitted env buffer.id buffer.size ownership false⟩
  | sendLowpriority =>
      exact .inr ⟨_, congrArg some (sends true), fun ownership =>
        state.runtimeSend_submitted env buffer.id buffer.size ownership true⟩
  | udpSend address =>
      cases address with
      | nil => cases fits
      | cons tag rest =>
          simp only [serve, sendDatagram, present, Bool.false_eq_true, if_false]
          split
          · exact .inl rfl
          · have long : ¬ ((tag :: rest).take (taggedSize tag)).length < taggedSize tag := by
              rw [List.length_take]
              have whole := of_decide_eq_true fits
              omega
            rw [if_neg long]
            exact .inr ⟨_, rfl, fun ownership =>
              state.udpSend_submitted env buffer.id _ buffer.size ownership⟩

end State

/-- A call with everything it needs returns 0 exactly if the runtime has queued the send.
Memory is freed or handed over, an object is freed and its copy handed over or freed, a
raw pointer is left alone; and what was handed over has one owner in every later state. -/
theorem send_call_consumes_once {cfg : Config} {state : State}
    (reached : (socketSystem cfg).Reachable state) (serving : state.Serving) (call : SendCall)
    (objects : ObjectInterface) (installed : objects.Installed) (buffer : SendBuffer)
    (present : buffer.null = false) (env : Env) (fits : call.fits = true) :
    ∃ sent, state.serve call objects buffer env = some sent ∧
      (sent.result = 0 ∨ sent.result = -1) ∧
      (sent.result = 0 ↔
        sent.state.commands = state.commands ++ [state.queuedBy call buffer]) ∧
      (sent.result ≠ 0 → sent.state.commands = state.commands) ∧
      ∀ labels later, (socketSystem cfg).exec sent.state labels = some later →
        sent.Consumes buffer state.nextToken later := by
  obtain ⟨sent, served, answers, consumes⟩ : ∃ sent,
      state.serve call objects buffer env = some sent ∧
      sent.Answers (state.queuedBy call buffer) state ∧
      ∀ labels later, (socketSystem cfg).exec sent.state labels = some later →
        sent.Consumes buffer state.nextToken later := by
    rcases state.serve_cases call objects buffer env present fits with
      stops | ⟨submit, offers, submits⟩
    · exact ⟨_, stops, ⟨.inr rfl, by simp, fun _ => rfl⟩,
        fun _ _ _ => State.released_consumes installed _⟩
    · exact ⟨_, offers, State.offerBuffer_answers submits,
        fun _ _ run => State.offerBuffer_consumes reached serving installed submits run⟩
  refine ⟨sent, served, answers.code,
    ⟨answers.accepted, fun queued => ?_⟩, answers.refused, consumes⟩
  by_contra failed
  rw [answers.refused failed] at queued
  simp at queued

/-- Three bytes of memory, which a connected socket sends. -/
def threeBytes : SendBuffer := ⟨4, .memory, false, 3⟩

/-- An object of four gigabytes, which no send takes. -/
def hugeObject : SendBuffer := ⟨4, .object, false, 4294967296⟩

theorem send_call_consumes_memory :
    (∃ sent later, connectedState.serve .send ⟨true, true, true⟩ threeBytes .fine = some sent ∧
      sent.result = 0 ∧ sent.frees = [] ∧
      sent.state.commands = [connectedState.queuedBy .send threeBytes] ∧
      (socketSystem fourSlots).exec sent.state [.poll .fine, .wakeup, .command .fine,
        .commandsDone, .pump .fine, .pumpDone, .writeCompleted 0 0 .fine] = some later ∧
      later.runtime.released = [⟨connectedState.nextToken, 3, false⟩] ∧
      sent.Consumes threeBytes connectedState.nextToken later) ∧
    ∃ sent, connectedState.serve .sendLowpriority ⟨true, true, true⟩ hugeObject .fine = some sent ∧
      sent.result = -1 ∧ sent.frees = [.caller, .copy] ∧
      sent.Consumes hugeObject connectedState.nextToken sent.state := by
  have reached : (socketSystem fourSlots).Reachable connectedState := ⟨_, (Option.some_get _).symm⟩
  have consumes := send_call_consumes_once reached ⟨by decide, by decide⟩
  constructor
  · obtain ⟨sent, served, -, queued, -, consumes⟩ := consumes
      .send ⟨true, true, true⟩ ⟨rfl, rfl, rfl⟩ threeBytes rfl .fine rfl
    cases served.symm.trans (Option.some_get (by decide)).symm
    exact ⟨_, _, served, by decide, by decide, queued.mp (by decide),
      (Option.some_get (by decide)).symm, by decide,
      consumes _ _ (Option.some_get (by decide)).symm⟩
  · obtain ⟨sent, served, -, -, -, consumes⟩ := consumes
      .sendLowpriority ⟨true, true, true⟩ ⟨rfl, rfl, rfl⟩ hugeObject rfl .fine rfl
    cases served.symm.trans (Option.some_get (by decide)).symm
    exact ⟨_, served, by decide, by decide, consumes [] _ rfl⟩

end Skyuv.Socket
