import Skyuv.Socket.Life

/-!
# Handlers make moves

Every act of the runtime on an entry with a sound life is one of the moves of
`Life.Move`.  There is one lemma per handler; `Act.run_move` puts them together.
-/

set_option autoImplicit false

namespace Skyuv.Socket

namespace Frame

open Life (Move Pumped Resumed)

variable {cfg : Config} {env : Env} {command : Command} {frame : Frame}

theorem bare_of_reserved (sound : frame.entry.life.Sound)
    (state : frame.entry.state = .reserved) : frame.entry.initialized = false := by
  cases opened : frame.entry.initialized with
  | false => rfl
  | true => exact absurd state (sound.opened opened).2.1

/-! ## Commands that open the handle -/

/-- A command that names a host: the address, then the handle, then the rest. -/
theorem addressed_move {host : String} {port made : Int} {unparsed : Int → Frame}
    {unmade onward : Frame} (other : command.body.closes = false)
    (sound : frame.entry.life.Sound)
    (opening : frame.entry.state = .reserved → frame.entry.initialized = false →
      (∀ error, Move (.command command env) frame.entry.life (unparsed error).entry.life) ∧
        Move (.command command env) frame.entry.life unmade.entry.life ∧
        Move (.command command env) frame.entry.life onward.entry.life) :
    Move (.command command env) frame.entry.life
      (if frame.entry.state ≠ .reserved then frame
      else
        match env.parseAddress host port with
        | .error error => unparsed error
        | .ok _ => if made ≠ 0 then unmade else onward).entry.life := by
  split
  · exact .ignored _ _ (by simp [other])
  · rename_i reserved
    have state : frame.entry.state = .reserved := not_not.mp reserved
    obtain ⟨refused, failed, goesOn⟩ := opening state (bare_of_reserved sound state)
    cases env.parseAddress host port with
    | error error => exact refused error
    | ok address =>
        dsimp only
        split
        · exact failed
        · exact goesOn

theorem processListen_move {host : String} {port : Int} (opens : command.body.opens = true)
    (other : command.body.closes = false) (sound : frame.entry.life.Sound) :
    Move (.command command env) frame.entry.life
      (frame.processListen cfg env host port).entry.life := by
  refine addressed_move other sound fun _ bare => ⟨fun error => ?_, ?_, ?_⟩
  · exact .aborted _ _ _ .listenPending _ opens bare (.inr rfl) rfl
  · exact .aborted _ _ _ .listenPending _ opens bare (.inr rfl) rfl
  · split
    · exact .rejected _ _ _ _ opens bare rfl
    · split
      · exact .rejected _ _ _ _ opens bare rfl
      · cases env.sockName <;> exact .listening _ _ _ opens bare rfl

theorem processConnect_move {host : String} {port : Int} (opens : command.body.opens = true)
    (other : command.body.closes = false) (sound : frame.entry.life.Sound) :
    Move (.command command env) frame.entry.life
      (frame.processConnect cfg env host port).entry.life := by
  refine addressed_move other sound fun state bare => ⟨fun error => ?_, ?_, ?_⟩
  · exact .aborted _ _ _ _ _ opens bare (.inl state) rfl
  · exact .aborted _ _ _ _ _ opens bare (.inl state) rfl
  · split
    · exact .rejected _ _ _ _ opens bare rfl
    · exact .connecting _ _ opens bare

theorem processBind_move (opens : command.body.opens = true)
    (other : command.body.closes = false) (sound : frame.entry.life.Sound) :
    Move (.command command env) frame.entry.life (frame.processBind cfg env).entry.life := by
  unfold processBind
  split
  · exact .ignored _ _ (by simp [other])
  · split
    · exact .ignored _ _ (by simp [other])
    · rename_i reserved
      have state : frame.entry.state = .reserved := by simpa using reserved
      have bare := bare_of_reserved sound state
      split
      · exact .aborted _ _ _ _ _ opens bare (.inl state) rfl
      · dsimp only
        split
        · exact .rejected _ _ _ _ opens bare rfl
        · by_cases reads : env.uv .readStart = 0
          · simp only [startReading, reads, if_true, ne_eq, not_true_eq_false, if_false]
            cases env.peerName <;> exact .bound _ _ _ opens bare rfl
          · simp only [startReading, reads, if_false, ne_eq, not_false_eq_true, if_true]
            exact .rejected _ _ _ _ opens bare rfl

theorem processUdp_move {host : String} {port : Int} (opens : command.body.opens = true)
    (other : command.body.closes = false) (sound : frame.entry.life.Sound) :
    Move (.command command env) frame.entry.life
      (frame.processUdp cfg env host port).entry.life := by
  refine addressed_move other sound fun state bare => ⟨fun error => ?_, ?_, ?_⟩
  · exact .aborted _ _ _ _ _ opens bare (.inl state) rfl
  · exact .aborted _ _ _ _ _ opens bare (.inl state) rfl
  · split
    · exact .rejected _ _ _ _ opens bare rfl
    · split
      · exact .rejected _ _ _ _ opens bare rfl
      · exact .udpOpened _ _ opens bare

/-! ## Commands on an open handle -/

theorem processUdpConnect_move {host : String} {port : Int}
    (other : command.body.closes = false) :
    Move (.command command env) frame.entry.life
      (frame.processUdpConnect env host port).entry.life := by
  unfold processUdpConnect
  split
  · exact .ignored _ _ (by simp [other])
  · cases env.parseAddress host port <;> exact .ignored _ _ (by simp [other])

theorem processStart_move (start : command.body = .start) :
    Move (.command command env) frame.entry.life (frame.processStart env command).entry.life := by
  unfold processStart
  split
  · rename_i state
    exact .reported _ _ _ start state rfl
  · split
    · exact .refused _ _ _ (by simp [start, CommandBody.closes]) rfl
    · rename_i paused
      have state : frame.entry.state = .acceptedPaused ∨ frame.entry.state = .connectedPaused := by
        tauto
      by_cases reads : env.uv .readStart = 0
      · simp only [startReading, reads, if_true, ne_eq, not_true_eq_false, if_false]
        exact .started _ _ _ start state reads rfl
      · simp only [startReading, reads, if_false, ne_eq, not_false_eq_true, if_true]
        exact .startFailed _ _ _ start state reads rfl

theorem processPause_move (pause : command.body = .pause) :
    Move (.command command env) frame.entry.life (frame.processPause env).entry.life := by
  have other : command.body.closes = false := by rw [pause]; rfl
  unfold processPause
  split
  · exact .ignored _ _ (by simp [other])
  · rename_i state
    by_cases stops : env.uv .readStop = 0
    · simp only [uvReadStop, stops, if_true, ne_eq, not_true_eq_false, if_false]
      exact .paused _ _ pause (not_not.mp state) stops
    · simp only [uvReadStop, stops, if_false, ne_eq, not_false_eq_true, if_true]
      exact .refused _ _ _ other rfl

theorem processUdpSend_move {payload : SendPayload} (send : command.body.payload = some payload)
    (other : command.body.closes = false) :
    Move (.command command env) frame.entry.life
      (frame.processUdpSend env command payload).1.entry.life := by
  unfold processUdpSend
  split
  · exact .refused _ _ _ other rfl
  · rename_i state
    cases udpTargetOf payload.address frame.entry with
    | error error => exact .refused _ _ _ other rfl
    | ok target =>
        dsimp only
        split
        · exact .refused _ _ _ other rfl
        · split
          · exact .refused _ _ _ other rfl
          · exact .datagram _ _ _ send (not_not.mp state)

theorem eventObs_of {site : Site} {event : Event} {obs : Obs}
    (member : obs ∈ eventObs env site event) : obs = .event site event := by
  unfold eventObs at member
  split at member
  · exact List.mem_singleton.mp member
  · cases member

theorem countQueued_life (env : Env) (frame : Frame) (buffer : Buffer) : ∃ warnings : List Obs,
    (∀ obs ∈ warnings, ∃ event, obs = .event .other event ∧ event.type = .warning) ∧
      (frame.countQueued env buffer).entry.life =
        { frame.entry.life with
          queuedBytes := frame.entry.queuedBytes + buffer.size }.emit warnings := by
  unfold countQueued
  dsimp only
  split
  · exact ⟨_, fun obs member => ⟨_, eventObs_of member, rfl⟩, rfl⟩
  · exact ⟨[], by simp, by simp [Life.emit, Entry.life]⟩

theorem listForPump_life : frame.listForPump.entry.life =
    { frame.entry.life with
      pumpPending := frame.entry.life.pumpPending || !frame.entry.life.writing } := by
  unfold listForPump
  cases writing : frame.entry.writing <;> cases listed : frame.entry.pumpPending <;>
    simp [Entry.life, writing, listed]

theorem processSend_move (low : Bool) {payload : SendPayload}
    (send : command.body = if low then .sendLow payload else .send payload) :
    Move (.command command env) frame.entry.life
      (frame.processSend env command low payload).1.entry.life := by
  have carried : command.body.payload = some payload := by
    rw [send]; cases low <;> rfl
  have other : command.body.closes = false := by
    rw [send]; cases low <;> rfl
  unfold processSend
  split
  · exact processUdpSend_move carried other
  · split
    · exact .refused _ _ _ other rfl
    · rename_i state
      have state : frame.entry.state = .connected ∨ frame.entry.state = .connectedPaused ∨
          frame.entry.state = .halfcloseRead := by tauto
      split
      · exact .refused _ _ _ other rfl
      · rename_i asked
        split
        · exact .refused _ _ _ other rfl
        · obtain ⟨warnings, plain, counted⟩ :=
            countQueued_life env (frame.queueWrite low payload.buffer) payload.buffer
          dsimp only
          rw [listForPump_life, counted]
          cases low with
          | true => exact .queuedLow _ _ _ _ send state (Bool.eq_false_of_not_eq_true asked) plain
          | false => exact .queuedHigh _ _ _ _ send state (Bool.eq_false_of_not_eq_true asked) plain

theorem announceClose_life (env : Env) (command : Command) (frame : Frame) :
    ∃ event : Event, event.type = .close ∧
    event.opaqueVal = command.opaqueVal ∧ (frame.announceClose env command).entry.life =
      (frame.entry.life.emit [.closeCommand command.opaqueVal]).emit
        (frame.entry.life.closeObs env event) := by
  refine ⟨⟨.close, frame.entry.id, command.opaqueVal, 0, [], 0⟩, rfl, rfl, ?_⟩
  unfold announceClose
  by_cases half : frame.entry.life.state = .halfcloseRead
  · rw [Life.closeObs, if_pos half, Life.emit_nil]
    exact congrArg (fun result : Frame => result.entry.life) (if_neg (not_not.mpr half))
  · rw [Life.closeObs, if_neg half]
    exact congrArg (fun result : Frame => result.entry.life) (if_pos half)

theorem closeAfterWrites_of_pending (frame : Frame) (pending : frame.entry.writing = true ∨
    frame.entry.high ≠ [] ∨ frame.entry.low ≠ []) : frame.closeAfterWrites = frame := by
  refine if_pos ?_
  rcases pending with writing | high | low
  · simp [writing]
  · simp [high]
  · simp [low]

theorem processClose_move (isClose : Bool)
    (close : command.body = if isClose then .close else .shutdown)
    (sound : frame.entry.life.Sound) :
    Move (.command command env) frame.entry.life
      (frame.processClose cfg env command isClose).entry.life := by
  have closes : command.body.closes = true := by
    rw [close]; cases isClose <;> rfl
  unfold processClose
  split
  · rename_i already
    exact .ignored _ _ fun _ => already
  · rename_i state
    obtain ⟨event, type, carries, told⟩ := announceClose_life env command frame
    dsimp only
    generalize frame.announceClose env command = noted at told
    have initialized : noted.entry.initialized = frame.entry.initialized :=
      congrArg Life.initialized told
    have isUdp : noted.entry.isUdp = frame.entry.isUdp := congrArg Life.isUdp told
    have queuedBytes : noted.entry.queuedBytes = frame.entry.queuedBytes :=
      congrArg Life.queuedBytes told
    have writing : noted.entry.writing = frame.entry.writing := congrArg Life.writing told
    have high : noted.entry.high = frame.entry.high := congrArg Life.high told
    have low : noted.entry.low = frame.entry.low := congrArg Life.low told
    rw [initialized, isUdp, queuedBytes]
    split
    · rename_i bare
      have life : (noted.discardUninitializedEntry cfg).entry.life = noted.entry.life.drop := rfl
      rw [life, told]
      exact .closedBare _ _ _ closes (by simpa using bare) type carries
    · rename_i opened
      have opened : frame.entry.initialized = true := by simpa using opened
      split
      · rename_i drains
        simp only [Bool.and_eq_true, Bool.not_eq_true', decide_eq_true_eq] at drains
        obtain ⟨⟨isClose, stream⟩, bytes⟩ := drains
        have pending := sound.pending_of_bytes (sound.alive_of opened state) bytes
        simp only [Entry.life_writing, Entry.life_high, Entry.life_low, ← writing, ← high,
          ← low] at pending
        rw [closeAfterWrites_of_pending (noted.requestClose env) pending]
        have life : (noted.requestClose env).entry.life =
            { noted.entry.life with
              closeRequested := true, reading := false
              uvReading := if env.uv .readStop = 0 then false else noted.entry.life.uvReading } :=
          rfl
        rw [life, told]
        exact .draining _ _ _ (by rw [close, isClose]; rfl) opened state stream bytes type carries
      · rename_i now
        have life : ((noted.setEntryState .closing).uvClose).entry.life = noted.entry.life.shut :=
          rfl
        rw [life, told]
        refine .closedNow _ _ _ closes opened state ?_ type carries
        cases isClose with
        | false => exact .inl close
        | true => exact .inr (by simpa [imp_iff_not_or] using now)

/-! ## Scans and writes -/

theorem exitScan_move : Move .exitScan frame.entry.life (frame.exitScan cfg).entry.life := by
  unfold exitScan
  split
  · rename_i bare
    exact .scanDropped (by simpa using bare) (.inl rfl)
  · rename_i opened
    split
    · rename_i closing
      exact .scanShut (by simpa using opened) (by simpa using closing) (.inl rfl)
    · rename_i closing
      exact .scanned (by simpa using closing) (.inl rfl)

theorem releaseScan_move {slot : Nat} :
    Move (.releaseScan slot) frame.entry.life (frame.releaseScan slot).entry.life := by
  unfold releaseScan
  split
  · rename_i open'
    simp only [Bool.and_eq_true, Bool.not_eq_true'] at open'
    exact .scanShut open'.1 open'.2 (.inr ⟨slot, rfl⟩)
  · rename_i closing
    split
    · rename_i bare
      exact .scanDropped (by simpa using bare) (.inr ⟨slot, rfl⟩)
    · rename_i opened
      exact .scanned (by simp_all) (.inr ⟨slot, rfl⟩)

theorem submitWrite_of_accepted (frame : Frame) (low : Bool) (buffer : Buffer)
    (accepted : env.uv .write = 0) :
    (frame.submitWrite env low buffer).entry.life =
      { frame.entry.life with
        uvWrites := frame.entry.uvWrites ++ [buffer], writing := true }.emit
        [.uvWrite low buffer (env.uv .write)] := by
  simp [submitWrite, accepted, Life.emit, note, modify, Entry.life]

theorem submitWrite_of_refused (frame : Frame) (low : Bool) (buffer : Buffer)
    (refused : env.uv .write ≠ 0) (state : frame.entry.state ≠ .closing) :
    ∃ event : Event, event.type = .error ∧
      (frame.submitWrite env low buffer).entry.life =
        Life.shut (({ frame.entry.life with
          queuedBytes := frame.entry.queuedBytes - buffer.size }.emit
          [.uvWrite low buffer (env.uv .write)]).emit (frame.entry.life.failureObs env event)) := by
  refine ⟨⟨.error, frame.entry.id, frame.entry.opaqueVal, env.uv .write, [], 0⟩, rfl, ?_⟩
  by_cases half : frame.entry.state = .halfcloseRead
  · simp [submitWrite, refused, half, Life.failureObs, Life.shut, Life.emit, note, modify,
      releaseWrite, setEntryState, uvClose, Entry.life]
  · simp [submitWrite, refused, half, state, Life.failureObs, Life.shut, Life.emit, note, modify,
      releaseWrite, finishEntry, pushEvent, setEntryState, uvClose, Entry.life]

theorem pumpWrite_pumped (frame : Frame) (state : frame.entry.state ≠ .closing) :
    Pumped env frame.entry.life (frame.pumpWrite env).entry.life := by
  unfold pumpWrite
  split
  · rename_i writing
    exact .busy writing
  · rename_i busy
    have idle : frame.entry.life.writing = false := by simpa using busy
    cases high : frame.entry.high with
    | cons buffer rest =>
        by_cases accepted : env.uv .write = 0
        · rw [submitWrite_of_accepted _ _ _ accepted]
          exact .high buffer rest idle high accepted
        · obtain ⟨event, type, result⟩ := submitWrite_of_refused
            (frame.modify fun entry => { entry with high := rest }) false buffer accepted state
          rw [result]
          exact .highFailed buffer rest event idle high accepted type
    | nil =>
        cases low : frame.entry.low with
        | nil => exact .empty high low
        | cons buffer rest =>
            by_cases accepted : env.uv .write = 0
            · rw [submitWrite_of_accepted _ _ _ accepted]
              exact .low buffer rest idle high low accepted
            · obtain ⟨event, type, result⟩ := submitWrite_of_refused
                (frame.modify fun entry => { entry with low := rest }) true buffer accepted state
              rw [result]
              exact .lowFailed buffer rest event idle high low accepted type

theorem pumpRound_move : Move (.pump env) frame.entry.life (frame.pumpRound env).entry.life := by
  unfold pumpRound
  dsimp only
  split
  · rename_i state
    exact .pumped _ state
      (pumpWrite_pumped (frame.modify fun entry => { entry with pumpPending := false }) state)
  · rename_i state
    exact .pumpSkipped _ (not_not.mp state)

/-! ## Callbacks -/

theorem finishEntry_life (env : Env) (frame : Frame) (value : Int)
    (state : frame.entry.state ≠ .closing) :
    ∃ event : Event, event.type = .error ∧ (frame.finishEntry env .error value).entry.life =
      Life.shut (frame.entry.life.emit (eventObs env .finishEntry event)) := by
  refine ⟨⟨.error, frame.entry.id, frame.entry.opaqueVal, value, [], 0⟩, rfl, ?_⟩
  rw [finishEntry, if_neg state]
  rfl

theorem readCompleted_move {nread : Int} {data : List UInt8}
    (reading : frame.entry.uvReading = true) (sound : frame.entry.life.Sound) :
    Move (.readCompleted nread data env) frame.entry.life
      (frame.readCompleted env nread data).entry.life := by
  have state : frame.entry.state = .connected := sound.reading reading
  unfold readCompleted
  split
  · rename_i some
    have pushed : (frame.pushDataEvent env data nread.toNat).entry.life =
        frame.entry.life.emit (eventObs env .other
          ⟨.data, frame.entry.id, frame.entry.opaqueVal, 0, data, nread.toNat⟩) := by
      unfold pushDataEvent eventObs
      cases env.event .data <;> simp [Entry.life, Life.emit]
    rw [pushed]
    exact .readData _ _ _ _ reading some rfl
  · rename_i notPositive
    split
    · rename_i none
      exact .readNothing _ _ _ none
    · rename_i nonzero
      split
      · rename_i eof
        simp only [modify_entry, state, ne_eq, reduceCtorEq, not_false_eq_true, if_true]
        exact .readEof _ _ _ _ reading state eof rfl
      · rename_i notEof
        obtain ⟨event, type, result⟩ := finishEntry_life env frame nread (by simp [state])
        rw [result]
        exact .readFailed _ _ _ _ reading state (by omega) notEof type

theorem udpReceived_move {nread : Int} {data : List UInt8} {address : Option SockAddr}
    (receiving : frame.entry.uvReceiving = true) (sound : frame.entry.life.Sound) :
    Move (.udpReceived nread data address env) frame.entry.life
      (frame.udpReceived env nread data address).entry.life := by
  have state : frame.entry.state = .udp := sound.receiving receiving
  unfold udpReceived
  split
  · obtain ⟨event, type, result⟩ := finishEntry_life env frame nread (by simp [state])
    rw [result]
    exact .udpFailed _ _ _ _ _ state type
  · cases address with
    | none => exact .udpNothing _ _ _ _
    | some address =>
        dsimp only
        split
        · exact .udpData _ _ _ _ _ rfl
        · exact .udpNothing _ _ _ _

theorem resumeWrites_resumed (env : Env) (frame : Frame) (idle : frame.entry.writing = false) :
    Resumed env frame.entry.life (frame.resumeWrites env).entry.life := by
  unfold resumeWrites
  split
  · rename_i asked
    unfold closeAfterWrites
    cases high : frame.entry.high with
    | cons buffer rest =>
        simp only [asked, idle, Bool.not_true, Bool.or_self, List.isEmpty_cons, Bool.not_false,
          Bool.or_true, Bool.true_or, if_true]
        exact .waiting asked (.inl (by simp [high]))
    | nil =>
        cases low : frame.entry.low with
        | cons buffer rest =>
            simp only [asked, idle, Bool.not_true, Bool.or_self, List.isEmpty_cons,
              List.isEmpty_nil, Bool.not_false, Bool.or_true, if_true]
            exact .waiting asked (.inr (by simp [low]))
        | nil =>
            simp only [asked, idle, Bool.not_true, Bool.or_self, List.isEmpty_nil,
              Bool.false_eq_true, if_false]
            exact .drained asked high low
  · rename_i unasked
    have unasked : frame.entry.life.closeRequested = false := by simpa using unasked
    split
    · rename_i state
      exact .pumped unasked state (pumpWrite_pumped frame state)
    · rename_i state
      exact .closing unasked (not_not.mp state)

theorem writeRecovered_life (env : Env) (frame : Frame) : ∃ warnings : List Obs,
    (∀ obs ∈ warnings, ∃ event, obs = .event .other event ∧ event.type = .warning) ∧
      (frame.entry.state = .closing → warnings = []) ∧
      (frame.writeRecovered env).entry.life = frame.entry.life.emit warnings := by
  unfold writeRecovered
  split
  · rename_i recovered
    exact ⟨_, fun obs member => ⟨_, eventObs_of member, rfl⟩,
      fun closing => absurd closing recovered.2.2, rfl⟩
  · exact ⟨[], by simp, by simp, by simp⟩

theorem writeFailed_of_fine {status : Int} (fine : status = 0 ∨ frame.entry.state = .closing) :
    frame.writeFailed env status = frame :=
  if_neg (by tauto)

theorem writeFailed_life (env : Env) (frame : Frame) {status : Int} (fails : status ≠ 0)
    (state : frame.entry.state ≠ .closing) : ∃ event : Event, event.type = .error ∧
      (frame.writeFailed env status).entry.life =
        Life.shut (frame.entry.life.emit (frame.entry.life.failureObs env event)) := by
  rw [writeFailed, if_pos ⟨fails, state⟩]
  split
  · rename_i half
    refine ⟨⟨.error, 0, 0, 0, [], 0⟩, rfl, ?_⟩
    rw [Life.failureObs_of_half half, Life.emit_nil]
    rfl
  · rename_i notHalf
    obtain ⟨event, type, result⟩ := finishEntry_life env frame status state
    refine ⟨event, type, ?_⟩
    rw [result, Life.failureObs_of_not_half notHalf]

theorem accountWrite_life (frame : Frame) (buffer : Buffer) :
    (frame.accountWrite buffer).entry.life =
      { frame.entry.life with
        queuedBytes := frame.entry.life.queuedBytes - buffer.size, writing := false } := rfl

theorem writeCompleted_move {status : Int} (pending : frame.entry.uvWrites ≠ []) :
    Move (.writeCompleted status env) frame.entry.life
      (frame.writeCompleted env status).entry.life := by
  unfold writeCompleted
  cases head : frame.entry.uvWrites with
  | nil => exact absurd head pending
  | cons buffer rest =>
      dsimp only
      generalize taken : ((frame.modify fun entry => { entry with uvWrites := rest }).note
        [.completed buffer status]) = noted
      have notedLife : noted.entry.life =
          { frame.entry.life with uvWrites := rest }.emit [.completed buffer status] := by
        rw [← taken]; rfl
      have sameState : noted.entry.state = frame.entry.state := congrArg Life.state notedLife
      obtain ⟨warnings, plain, quiet, recovered⟩ :=
        writeRecovered_life env ((noted.writeFailed env status).accountWrite buffer)
      have resumed := resumeWrites_resumed env _ (congrArg Life.writing recovered)
      rw [recovered, accountWrite_life] at resumed
      by_cases fine : status = 0 ∨ frame.entry.state = .closing
      · have same : noted.writeFailed env status = noted :=
          writeFailed_of_fine (by rwa [sameState])
        rw [same] at resumed ⊢
        rw [notedLife] at resumed
        exact .written _ _ _ _ _ head fine plain resumed
      · have fails : status ≠ 0 ∧ frame.entry.state ≠ .closing := by tauto
        obtain ⟨event, type, life⟩ :=
          writeFailed_life env noted fails.1 (by rw [sameState]; exact fails.2)
        have closing : (noted.writeFailed env status).entry.state = .closing :=
          congrArg Life.state life
        rw [quiet closing, Life.emit_nil, life, notedLife] at resumed
        exact .writeFailed _ _ _ _ _ head fails.1 fails.2 type resumed

theorem udpWriteCompleted_move {index : Nat} {status : Int}
    (pending : index < frame.entry.uvUdpSends.length) :
    Move (.udpWriteCompleted index status env) frame.entry.life
      (frame.udpWriteCompleted env index status).entry.life := by
  unfold udpWriteCompleted
  rw [List.getElem?_eq_getElem pending]
  dsimp only
  split
  · exact .datagramSent _ _ _ _ fun obs member => ⟨_, eventObs_of member, rfl⟩
  · have move : Move (.udpWriteCompleted index status env) frame.entry.life _ :=
      .datagramSent index status env [] (by simp)
    rw [Life.emit_nil] at move
    exact move

theorem connectCompleted_move {status : Int} (connecting : frame.entry.uvConnecting = true)
    (sound : frame.entry.life.Sound) :
    Move (.connectCompleted status env) frame.entry.life
      (frame.connectCompleted env status).entry.life := by
  unfold connectCompleted
  dsimp only
  split
  · rename_i late
    exact .connectLate _ _ late
  · rename_i notClosing
    have state : frame.entry.state = .connecting :=
      (sound.connecting connecting).resolve_right notClosing
    split
    · exact .connectFailed _ _ _ state rfl
    · by_cases reads : env.uv .readStart = 0
      · simp only [startReading, reads, if_true, ne_eq, not_true_eq_false, if_false]
        cases env.peerName <;> exact .connected _ _ _ state rfl
      · simp only [startReading, reads, if_false, ne_eq, not_false_eq_true, if_true]
        exact .connectFailed _ _ _ state rfl

theorem acceptInto_move (bare : frame.entry.initialized = false) :
    Move (.acceptInto env) frame.entry.life (frame.acceptInto cfg env).entry.life := by
  unfold acceptInto
  split
  · exact .acceptDropped _ bare
  · dsimp only
    split
    · exact .acceptRejected _ _ bare rfl
    · cases env.peerName <;> exact .accepted _ bare

theorem runCommand_move (sound : frame.entry.life.Sound) :
    Move (.command command env) frame.entry.life (frame.runCommand cfg env command).entry.life := by
  unfold runCommand
  cases body : command.body with
  | listen host port backlog =>
      exact processListen_move (by rw [body]; rfl) (by rw [body]; rfl) sound
  | connect host port => exact processConnect_move (by rw [body]; rfl) (by rw [body]; rfl) sound
  | bind fd => exact processBind_move (by rw [body]; rfl) (by rw [body]; rfl) sound
  | udp host port => exact processUdp_move (by rw [body]; rfl) (by rw [body]; rfl) sound
  | udpConnect host port => exact processUdpConnect_move (by rw [body]; rfl)
  | udpSend payload => exact processUdpSend_move (by rw [body]; rfl) (by rw [body]; rfl)
  | start => exact processStart_move body
  | pause => exact processPause_move body
  | nodelay => exact .ignored _ _ (by simp [body, CommandBody.closes])
  | send payload => exact processSend_move false body
  | sendLow payload => exact processSend_move true body
  | close => exact processClose_move true body sound
  | shutdown => exact processClose_move false body sound
  | exit => exact .ignored _ _ (by simp [body, CommandBody.closes])

end Frame

/-- Every act on a sound entry is a move of its life. -/
theorem Act.run_move (cfg : Config) (act : Act) (frame : Frame)
    (enabled : act.Enabled frame.entry.life) (sound : frame.entry.life.Sound) :
    Life.Move act frame.entry.life (act.run cfg frame).entry.life := by
  cases act with
  | command cmd env => exact Frame.runCommand_move sound
  | pump env => exact Frame.pumpRound_move
  | exitScan => exact Frame.exitScan_move
  | releaseScan slot => exact Frame.releaseScan_move
  | readCompleted nread data env => exact Frame.readCompleted_move enabled sound
  | udpReceived nread data address env => exact Frame.udpReceived_move enabled sound
  | writeCompleted status env => exact Frame.writeCompleted_move enabled
  | udpWriteCompleted index status env => exact Frame.udpWriteCompleted_move enabled
  | connectCompleted status env => exact Frame.connectCompleted_move enabled sound
  | acceptError status env => exact .acceptError _ _ _ rfl
  | acceptStalled => exact .acceptStalled
  | acceptTaken => exact .acceptTaken
  | acceptDone accepted env => exact .acceptDone _ _ _ enabled rfl
  | acceptInto env => exact Frame.acceptInto_move enabled.2
  | closeEntry =>
      obtain ⟨closing, alive, writes, udpSends, connecting, -⟩ := enabled
      exact .closed closing alive writes udpSends connecting
  | setExternalFd fd => exact .tagged _
  | freeEntry => exact .discarded enabled.2

end Skyuv.Socket
