import Skyuv.Socket.EventQueue
import Skyuv.Socket.Server

/-!
# The address of a datagram comes back

`udp_received` writes the sender behind the payload, `socket_server_udp_address`
finds it there by the payload's length, `socket_server_udp_send` measures it by its
tag and `decode_udp_address` checks both.  The event queue lies between the first
two: it is first in, first out, so the message of a datagram is the one polled at
its position.
-/

set_option autoImplicit false

namespace Skyuv.Socket

open TransitionSystem
open Skyuv.Socket.Frame (encodeUdpAddress decodeUdpAddress addressSize udpTargetOf)

/-! ## The encoding -/

theorem length_encodeUdpAddress (source : SockAddr) :
    (encodeUdpAddress source).length = addressSize source := by
  cases source <;> simp [encodeUdpAddress, addressSize]

/-- The first byte of an encoded address. -/
def SockAddr.tag : SockAddr → UInt8
  | .ipv4 _ _ => 1
  | .ipv6 _ _ => 2

theorem taggedSize_tag (source : SockAddr) : taggedSize source.tag = addressSize source := by
  cases source <;> rfl

theorem exists_encodeUdpAddress (source : SockAddr) :
    ∃ rest, encodeUdpAddress source = source.tag :: rest := by
  cases source <;> exact ⟨_, rfl⟩

/-- A vector is written out by its elements. -/
theorem decodeUdpAddress_encode (source : SockAddr) :
    decodeUdpAddress (encodeUdpAddress source) = .ok source := by
  have two (port : Vector UInt8 2) : ∃ p0 p1, port = #v[p0, p1] := by
    refine ⟨port[0], port[1], Vector.ext fun i bound => ?_⟩
    match i, bound with
    | 0, _ | 1, _ => rfl
  cases source with
  | ipv4 port ip =>
      obtain ⟨p0, p1, rfl⟩ := two port
      obtain ⟨bytes, length⟩ := ip
      obtain ⟨bytes⟩ := bytes
      match bytes, length with
      | [a0, a1, a2, a3], _ => rfl
  | ipv6 port ip =>
      obtain ⟨p0, p1, rfl⟩ := two port
      obtain ⟨bytes, length⟩ := ip
      obtain ⟨bytes⟩ := bytes
      match bytes, length with
      | [a0, a1, a2, a3, a4, a5, a6, a7, a8, a9, a10, a11, a12, a13, a14, a15], _ => rfl

theorem encode_decodeUdpAddress {bytes : List UInt8} {source : SockAddr}
    (decoded : decodeUdpAddress bytes = .ok source) : encodeUdpAddress source = bytes := by
  unfold decodeUdpAddress at decoded
  split at decoded
  · split at decoded
    · rename_i isFour
      cases decoded
      rw [isFour]
      rfl
    · cases decoded
  · split at decoded
    · rename_i isSix
      cases decoded
      rw [isSix]
      rfl
    · cases decoded
  · cases decoded

/-- Seven bytes with tag one, or nineteen with tag two. -/
def IsUdpAddress (bytes : List UInt8) : Prop :=
  (bytes.length = 7 ∧ bytes.head? = some 1) ∨ (bytes.length = 19 ∧ bytes.head? = some 2)

theorem isUdpAddress_encode (source : SockAddr) : IsUdpAddress (encodeUdpAddress source) := by
  rw [IsUdpAddress, length_encodeUdpAddress]
  cases source with
  | ipv4 port ip => exact .inl ⟨rfl, rfl⟩
  | ipv6 port ip => exact .inr ⟨rfl, rfl⟩

theorem decodeUdpAddress_accepts (bytes : List UInt8) :
    (∃ source, decodeUdpAddress bytes = .ok source) ↔ IsUdpAddress bytes := by
  constructor
  · rintro ⟨source, decoded⟩
    rw [← encode_decodeUdpAddress decoded]
    exact isUdpAddress_encode source
  · rintro (⟨seven, tag⟩ | ⟨nineteen, tag⟩)
    · match bytes, seven with
      | [_, p0, p1, a0, a1, a2, a3], _ =>
          cases tag
          exact ⟨_, rfl⟩
    · match bytes, nineteen with
      | [_, p0, p1, a0, a1, a2, a3, a4, a5, a6, a7, a8, a9, a10, a11, a12, a13, a14, a15], _ =>
          cases tag
          exact ⟨_, rfl⟩

/-! ## The message of a datagram -/

/-- A received datagram.  `allocate_read_buffer` offers libuv 65536 bytes. -/
structure Datagram where
  id : Int
  opaqueVal : Nat
  payload : List UInt8
  source : SockAddr
  fits : payload.length ≤ 65536

namespace Datagram

variable (datagram : Datagram)

def event : Event :=
  ⟨.udp, datagram.id, datagram.opaqueVal, addressSize datagram.source,
    datagram.payload ++ encodeUdpAddress datagram.source, datagram.payload.length⟩

def message : SocketMessage :=
  ⟨datagram.id, datagram.opaqueVal, datagram.payload.length,
    .block (datagram.payload ++ encodeUdpAddress datagram.source)⟩

theorem event_message : datagram.event.message = datagram.message := by
  have fits := datagram.fits
  have cast : castInt datagram.payload.length = datagram.payload.length := by
    unfold castInt
    exact Int.bmod_eq_of_le_mul_two (by omega) (by omega)
  obtain ⟨rest, encoded⟩ := exists_encodeUdpAddress datagram.source
  simp [event, message, Event.message, Event.pointer, cast, encoded]

theorem socketServerPoll_event (later : List PollResult) :
    socketServerPoll (.event datagram.event :: later) =
      some (.message .udp datagram.message, later) := by
  rw [← event_message]
  rfl

theorem socketServerUdpAddress_message :
    socketServerUdpAddress datagram.message =
      some (addressSize datagram.source, some (encodeUdpAddress datagram.source)) := by
  obtain ⟨rest, encoded⟩ := exists_encodeUdpAddress datagram.source
  have positive : taggedSize datagram.source.tag ≠ 0 := by
    rw [taggedSize_tag]
    cases datagram.source <;> simp [addressSize]
  have whole : (encodeUdpAddress datagram.source).take (taggedSize datagram.source.tag) =
      encodeUdpAddress datagram.source := by
    rw [taggedSize_tag, ← length_encodeUdpAddress, List.take_length]
  have offset : ¬ (datagram.payload.length : Int) < 0 := by omega
  simp only [socketServerUdpAddress, message, if_neg offset, Int.toNat_natCast,
    List.drop_left, encoded, if_neg positive]
  rw [← encoded, whole, taggedSize_tag]

end Datagram

/-! ## Sending to it -/

namespace State

variable {state : State}

theorem udpSend_admitted {env : Env} {id : Int} {address : List UInt8} {size : Nat}
    {ownership : Ownership} (valid : 0 < id ∧ size ≤ uintMax)
    (sized : address.length = 7 ∨ address.length = 19) (admits : state.Admits env ownership) :
    (state.udpSend env id address size ownership).1 = .ok := by
  have checked : ¬ (id ≤ 0 ∨ ((false : Bool) = true ∧ size > 0) ∨ size > uintMax ∨
      (address.length ≠ 0 ∧ address.length ≠ 7 ∧ address.length ≠ 19)) := by
    simp only [Bool.false_eq_true, false_and, false_or]
    omega
  simp only [udpSend, api, if_neg checked, submitSend_admitted admits, List.getLast?_append,
    List.getLast?_singleton, Option.some_or, Option.map_some, Option.getD_some]

/-- A datagram is queued by the call that returns `SKYUV_OK`, and by no other. -/
theorem udpSend_commands (env : Env) (id : Int) (address : List UInt8) (size : Nat)
    (ownership : Ownership) (state : State) :
    if (state.udpSend env id address size ownership).1 = .ok then
      ∃ buffer, (state.udpSend env id address size ownership).2.commands =
        state.commands ++ [⟨id, 0, .udpSend ⟨buffer, .owned, address⟩⟩]
    else (state.udpSend env id address size ownership).2.commands = state.commands := by
  unfold udpSend api
  dsimp only
  split
  · simp
  · by_cases admits : state.Admits env ownership
    · simp [submitSend_admitted admits]
    · obtain ⟨same, status, failed, sends⟩ :=
        submitSend_rejected id size false address .udpSend admits
      simp [sends, failed, same]

/-! ## Replying -/

/-- The buffer and the server are in order for `socket_server_udp_send`. -/
structure Replies (objects : ObjectInterface) (buffer : SendBuffer) (env : Env) (state : State) :
    Prop where
  present : buffer.null = false
  open_ : 0 < buffer.id
  sized : buffer.size ≤ uintMax
  accepting : state.accepting = true
  allocated : env.command = true ∧ env.data = true
  installed : buffer.type = .object →
    objects.buffer = true ∧ objects.size = true ∧ objects.free = true

theorem socketServerUdpSend_encoded (objects : ObjectInterface) (source : SockAddr)
    (buffer : SendBuffer) (env : Env) (state : State) (present : buffer.null = false) :
    ∃ ownership released,
      state.socketServerUdpSend objects (some (encodeUdpAddress source)) buffer env =
          some ⟨-1, released, state⟩ ∧ ¬ state.Replies objects buffer env ∨
        state.socketServerUdpSend objects (some (encodeUdpAddress source)) buffer env =
          some ⟨if (state.udpSend env buffer.id (encodeUdpAddress source)
            buffer.size ownership).1 = .ok
            then 0 else -1, released,
            (state.udpSend env buffer.id (encodeUdpAddress source) buffer.size ownership).2⟩ := by
  obtain ⟨rest, encoded⟩ := exists_encodeUdpAddress source
  have positive : addressSize source ≠ 0 := by cases source <;> simp [addressSize]
  have whole : (source.tag :: rest).take (addressSize source) = source.tag :: rest := by
    rw [← encoded, ← length_encodeUdpAddress, List.take_length]
  have long : ¬ (source.tag :: rest).length < addressSize source := by
    rw [← encoded, length_encodeUdpAddress]
    omega
  rw [encoded]
  simp only [socketServerUdpSend, present, Bool.false_eq_true, if_false, taggedSize_tag,
    if_neg positive, whole, if_neg long]
  split
  · rename_i isObject
    split
    · rename_i missing
      refine ⟨.owned, _, .inl ⟨rfl, fun replies => ?_⟩⟩
      obtain ⟨hasBuffer, hasSize, hasFree⟩ := replies.installed isObject
      simp [hasBuffer, hasSize, hasFree] at missing
    · split
      · rename_i failed
        refine ⟨.owned, _, .inl ⟨rfl, fun replies => ?_⟩⟩
        simp [replies.allocated.2] at failed
      · exact ⟨.owned, _, .inr rfl⟩
  · exact ⟨_, _, .inr rfl⟩

/-- What a reply to `source` leaves in the command queue. -/
def Queued (buffer : SendBuffer) (source : SockAddr) (state after : State) : Prop :=
  ∃ payload, after.commands = state.commands ++ [⟨buffer.id, 0, .udpSend payload⟩] ∧
    ∀ entry, udpTargetOf payload.address entry = .ok source

theorem udpTargetOf_encode (source : SockAddr) (entry : Entry) :
    udpTargetOf (encodeUdpAddress source) entry = .ok source := by
  have positive : (encodeUdpAddress source).length > 0 := by
    rw [length_encodeUdpAddress]
    cases source <;> simp [addressSize]
  rw [udpTargetOf, if_pos positive, decodeUdpAddress_encode]

theorem socketServerUdpSend_reply (objects : ObjectInterface) (source : SockAddr)
    (buffer : SendBuffer) (env : Env) (state : State) :
    ∃ sent, state.socketServerUdpSend objects (some (encodeUdpAddress source)) buffer env =
        some sent ∧
      (sent.result = 0 → state.Queued buffer source sent.state) ∧
      (sent.result ≠ 0 → sent.state.commands = state.commands) ∧
      (state.Replies objects buffer env → sent.result = 0) := by
  by_cases null : buffer.null = true
  · refine ⟨⟨-1, false, state⟩, if_pos null, by simp, fun _ => rfl,
      fun replies => ?_⟩
    rw [replies.present] at null
    cases null
  · obtain ⟨ownership, released, ⟨refused, unready⟩ | sent⟩ :=
      socketServerUdpSend_encoded objects source buffer env state (by simpa using null)
    · exact ⟨_, refused, by simp, fun _ => rfl, fun replies => absurd replies unready⟩
    · have commands :=
        udpSend_commands env buffer.id (encodeUdpAddress source) buffer.size ownership
        state
      refine ⟨_, sent, ?_, ?_, fun replies => ?_⟩
      · intro fine
        split at fine
        · rename_i ok
          rw [if_pos ok] at commands
          obtain ⟨data, queued⟩ := commands
          exact ⟨_, queued, udpTargetOf_encode source⟩
        · cases fine
      · intro failed
        split at failed
        · exact absurd rfl failed
        · rename_i bad
          rwa [if_neg bad] at commands
      · have sized : (encodeUdpAddress source).length = 7 ∨ (encodeUdpAddress source).length = 19 :=
          (isUdpAddress_encode source).imp And.left And.left
        have admits : state.Admits env ownership :=
          ⟨replies.accepting, replies.allocated.1, fun _ => replies.allocated.2⟩
        exact if_pos (udpSend_admitted ⟨replies.open_, replies.sized⟩ sized admits)

/-! ## The round trip -/

variable {cfg : Config} {next : State} {label : Label}

/-- The datagram for which a step builds an event: one with a sender, when there is
memory for it. -/
def receives (state : State) : Label → Option Datagram
  | .udpReceived key nread data (some source) env =>
      state.entries[key]?.bind fun entry =>
        if fits : 0 ≤ nread ∧ nread ≤ 65536 ∧ env.data = true ∧ env.event .udp = true then
          some ⟨entry.id, entry.opaqueVal, data.take nread.toNat, source,
            le_trans (List.length_take_le _ _) (by omega)⟩
        else none
  | _ => none

theorem history_received {datagram : Datagram}
    (run : step cfg state label = some next) (received : state.receives label = some datagram) :
    next.history = state.history ++ [datagram.event] := by
  cases label with
  | udpReceived key nread data address env =>
      cases address with
      | none => cases received
      | some source =>
          obtain ⟨entry, at_key, built⟩ := Option.bind_eq_some_iff.mp received
          split at built
          · rename_i fits
            have positive := fits.1
            have memory := fits.2.2
            obtain rfl := Option.some.inj built
            obtain ⟨-, run⟩ := Option.ite_none_right_eq_some.mp run
            dsimp only [liveStep, callback] at run
            rw [at_key] at run
            obtain ⟨guard, ⟨⟩⟩ := Option.ite_none_right_eq_some.mp run
            have delivered : data.length = nread.toNat := by
              simp only [Act.deliverable, Bool.and_eq_true, decide_eq_true_eq] at guard
              exact guard.2.2 positive
            apply history_pushed (focus_polled _ _ _)
            rw [focus_eq state at_key]
            have signed : ¬ nread < 0 := by omega
            simp only [Act.run, Frame.udpReceived, if_neg signed, memory, Bool.and_self, if_true,
              Datagram.event, ← delivered, List.take_length]
          · cases built
  | _ => cases received

end State

open State

/-- A received datagram is polled as its payload with the sender behind it, a reply
to that address is decoded to the sender, and the decoder accepts encoded addresses
only. -/
theorem udp_reply_round_trip (cfg : Config) :
    (∀ (state next : State) (label : Label) (datagram : Datagram),
      (socketSystem cfg).Reachable state → step cfg state label = some next →
      state.receives label = some datagram →
      -- the event is kept for a poll, and the poll at its position returns its message
      (∀ (labels : List Label) (final : State),
        (socketSystem cfg).exec next labels = some final →
        (final.pc ≠ .released → final.history[state.history.length]? = some datagram.event) ∧
        ∀ (earlier later : List PollResult) (told : Event),
          final.polled = earlier ++ .event told :: later →
          (earlier.filterMap PollResult.dequeued).length = state.history.length →
          socketServerPoll (.event told :: later) =
            some (.message .udp datagram.message, later)) ∧
      -- the payload is the first `ud` bytes, and the address is what follows them
      (∃ bytes, datagram.message.data = .block bytes ∧
        datagram.message.ud = datagram.payload.length ∧
        bytes.take datagram.message.ud.toNat = datagram.payload ∧
        bytes.drop datagram.message.ud.toNat = encodeUdpAddress datagram.source) ∧
      socketServerUdpAddress datagram.message =
        some (addressSize datagram.source, some (encodeUdpAddress datagram.source)) ∧
      (encodeUdpAddress datagram.source).length = addressSize datagram.source ∧
      -- a reply to it is queued, and decoded to the sender
      ∀ (objects : ObjectInterface) (buffer : SendBuffer) (env : Env) (server : State),
        ∃ sent, server.socketServerUdpSend objects (some (encodeUdpAddress datagram.source)) buffer
            env = some sent ∧
          (sent.result = 0 → server.Queued buffer datagram.source sent.state) ∧
          (sent.result ≠ 0 → sent.state.commands = server.commands) ∧
          (server.Replies objects buffer env → sent.result = 0)) ∧
    (∀ bytes, (∃ source, decodeUdpAddress bytes = .ok source) ↔ IsUdpAddress bytes) ∧
    ∀ bytes source, decodeUdpAddress bytes = .ok source → encodeUdpAddress source = bytes := by
  refine ⟨?_, decodeUdpAddress_accepts, fun _ _ => encode_decodeUdpAddress⟩
  intro state next label datagram reached run received
  refine ⟨?_, ⟨_, rfl, rfl, ?_, ?_⟩, datagram.socketServerUdpAddress_message,
    length_encodeUdpAddress _, fun objects buffer env server =>
      socketServerUdpSend_reply objects datagram.source buffer env server⟩
  · intro labels final onward
    have recorded : next.Remembers (state.history ++ [datagram.event]) := by
      rw [← history_received run received]
      exact .inl (List.prefix_refl _)
    have remembers := recorded.run (reached.next run) onward
    refine ⟨fun live => ?_, fun earlier later told polled position => ?_⟩
    · rcases remembers with first | ⟨released, -⟩
      · exact getElem?_of_initial first (by simp)
      · exact absurd released live
    · rw [remembers.polled polled position]
      exact datagram.socketServerPoll_event later
  · exact List.take_left
  · exact List.drop_left

/-- A UDP socket is opened. -/
def udpRun : List Label :=
  [.openCall (.udp none 0) 7 .fine, .worker 0 .fine, .worker 0 .fine, .worker 0 .fine, .poll .fine,
    .wakeup, .command .fine, .commandsDone, .pumpDone]

def udpState : State := ((socketSystem fourSlots).exec State.init udpRun).get (by decide)

/-- Two bytes come for it. -/
def twoBytes : Label :=
  .udpReceived 0 2 [104, 105] (some (.ipv4 #v[0, 53] #v[10, 0, 0, 1])) .fine

def receivedState : State := (step fourSlots udpState twoBytes).get (by decide)

theorem udp_reply_round_trip_two_bytes :
    ∃ datagram, udpState.receives twoBytes = some datagram ∧ datagram.payload = [104, 105] ∧
      receivedState.history[0]? = some datagram.event ∧
      (∃ bytes, datagram.message.data = .block bytes ∧ bytes.take 2 = [104, 105]) ∧
      socketServerUdpAddress datagram.message = some (7, some [1, 0, 53, 10, 0, 0, 1]) := by
  obtain ⟨round, -, -⟩ := udp_reply_round_trip fourSlots
  obtain ⟨polled, ⟨bytes, block, -, payload, -⟩, found, -, -⟩ :=
    round udpState receivedState twoBytes _
    ⟨udpRun, (Option.some_get _).symm⟩ (Option.some_get _).symm (Option.some_get (by decide)).symm
  refine ⟨_, (Option.some_get (by decide)).symm, by decide, ?_, ⟨bytes, block, payload⟩, found⟩
  exact (polled [] receivedState rfl).1 (by decide)

end Skyuv.Socket
