import Skyuv.Client.StdinQueue
import Skyuv.Lib.Transducer

/-!
# Lines of the input

The reader thread cuts the bytes of stdin into pieces, at a line feed and whenever
1023 bytes have come together.  The cut depends on the bytes alone: `pushByte` is a
transducer, and every run of the thread agrees with it on all that was read so far,
however the reads were cut.  A piece is a line of the input unless the line has 1023
bytes and a line feed after them.
-/

set_option autoImplicit false

namespace Skyuv.Client.Stdin

open TransitionSystem Transducer

/-! ## What the thread reads and queues -/

/-- `read` is a result of `uv_fs_read` and `queued` a call of `queue_line`, with its
bytes as they are before the terminators are taken off. -/
inductive ThreadEvent where
  | read (bytes : List UInt8)
  | queued (piece : List UInt8)
  deriving DecidableEq, Repr

namespace ThreadEvent

def chunk? : ThreadEvent → Option (List UInt8)
  | read bytes => some bytes
  | queued _ => none

def piece? : ThreadEvent → Option (List UInt8)
  | read _ => none
  | queued piece => some piece

end ThreadEvent

def State.thread (state : State) : Label → List ThreadEvent
  | .read bytes => [.read bytes]
  | .scan _ =>
      match state.reader with
      | .scanning line (byte :: _) => (pushByte line byte).2.toList.map .queued
      | _ => []
  | .flush _ =>
      match state.reader with
      | .drained line _ => (remainder line).toList.map .queued
      | _ => []
  | .call _ | .leave _ _ | .stop _ | .finish => []

/-- The results of the reads, and the calls of `queue_line`. -/
def chunks (history : List ThreadEvent) : List (List UInt8) :=
  history.filterMap ThreadEvent.chunk?

def queued (history : List ThreadEvent) : List (List UInt8) :=
  history.filterMap ThreadEvent.piece?

/-- All pieces of an input that ends after the bytes. -/
def pieces (bytes : List UInt8) : List (List UInt8) :=
  (feed pushByte [] bytes).1 ++ (remainder (feed pushByte [] bytes).2).toList

/-! ## The bytes of the pieces -/

theorem pushByte_groups (line : List UInt8) (byte : UInt8) :
    (pushByte line byte).2.toList.flatMap id ++ (pushByte line byte).1 = line ++ [byte] := by
  unfold pushByte
  split
  · simp
  · simp

theorem pushByte_short (line : List UInt8) (byte : UInt8) (short : line.length < 1023) :
    (pushByte line byte).1.length < 1023 := by
  unfold pushByte
  split
  · simp
  · rename_i goes
    have room : (line ++ [byte]).length ≠ 1023 := fun full => goes (.inr full)
    rw [List.length_append, List.length_singleton] at room ⊢
    omega

theorem feed_short (bytes : List UInt8) : (feed pushByte [] bytes).2.length < 1023 :=
  feed_invariant (fun line : List UInt8 => line.length < 1023) pushByte_short (by simp) bytes

theorem pieces_flatten (bytes : List UInt8) : (pieces bytes).flatten = bytes := by
  have kept := @feed_conserves _ _ _ pushByte [] id id pushByte_groups bytes
  rw [List.flatMap_id, id, id, List.nil_append] at kept
  rw [pieces, List.flatten_append]
  unfold remainder
  split
  · rename_i empty
    rw [empty, List.append_nil] at kept
    simpa using kept
  · simpa using kept

/-! ## Every run feeds -/

/-- Where the thread is in the bytes that it has read. -/
def Reader.Fed (seen : List UInt8) (told : List (List UInt8)) : Reader → Prop
  | .absent => seen = [] ∧ told = []
  | .reading line | .drained line _ => feed pushByte [] seen = (told, line)
  | .scanning line rest =>
      ∃ scanned, seen = scanned ++ rest ∧ feed pushByte [] scanned = (told, line)
  | .closing _ | .done => told = pieces seen

/-- The thread has made its last call of `queue_line`. -/
def Reader.flushed : Reader → Bool
  | .closing _ | .done => true
  | _ => false

/-- The bytes in `line`, the buffer of the thread. -/
def Reader.buffer : Reader → List UInt8
  | .reading line | .scanning line _ | .drained line _ => line
  | .absent | .closing _ | .done => []

section Fed

variable {seen : List UInt8} {told : List (List UInt8)} {reader : Reader}

theorem Reader.Fed.short (fed : reader.Fed seen told) : reader.buffer.length < 1023 := by
  cases reader with
  | absent | closing | done => simp [buffer]
  | reading line | drained line =>
      have same := feed_short seen
      rwa [show feed pushByte [] seen = (told, line) from fed] at same
  | scanning line rest =>
      obtain ⟨scanned, -, result⟩ := fed
      have same := feed_short scanned
      rwa [result] at same

theorem Reader.Fed.complete (fed : reader.Fed seen told) (flushed : reader.flushed = true) :
    told = pieces seen := by
  cases reader with
  | closing | done => exact fed
  | _ => cases flushed

/-- After the last byte of a read the thread reads on. -/
theorem fed_afterScan {scanned rest line : List UInt8} (split : seen = scanned ++ rest)
    (result : feed pushByte [] scanned = (told, line)) : (afterScan line rest).Fed seen told := by
  unfold afterScan
  split
  · rename_i empty
    rw [empty, List.append_nil] at split
    rw [split]
    exact result
  · exact ⟨scanned, split, result⟩

end Fed

/-- The bytes of the reads so far and the pieces queued so far explain the thread. -/
structure State.Fed (history : List ThreadEvent) (state : State) : Prop where
  absent : state.input.started = false → state.reader = .absent
  reader : state.reader.Fed (chunks history).flatten (queued history)

section Fed

variable {history : List ThreadEvent} {state next : State}

theorem chunks_queued (history : List ThreadEvent) (pieces : List (List UInt8)) :
    (chunks (history ++ pieces.map .queued)).flatten = (chunks history).flatten ∧
      queued (history ++ pieces.map .queued) = queued history ++ pieces := by
  constructor
  · have none : (pieces.map ThreadEvent.queued).filterMap ThreadEvent.chunk? = [] := by
      simp [ThreadEvent.chunk?]
    rw [chunks, List.filterMap_append, none, List.append_nil]
    rfl
  · have all : (pieces.map ThreadEvent.queued).filterMap ThreadEvent.piece? = pieces := by
      rw [List.filterMap_map]
      exact List.filterMap_some
    rw [queued, List.filterMap_append, all]
    rfl

theorem State.Fed.call (fed : state.Fed history) (env : Env) : (state.enter env).Fed history := by
  unfold State.enter Input.start
  cases started : state.input.started with
  | true => exact ⟨by simp [started, Input.take], fed.reader⟩
  | false =>
      have absent := fed.absent started
      by_cases created : env.threadCreate = 0
      · refine ⟨by simp [created, Input.take], ?_⟩
        have nothing := fed.reader
        rw [absent] at nothing
        simp only [created, Bool.false_eq_true, if_false, ne_eq, not_true_eq_false]
        rw [nothing.1, nothing.2]
        rfl
      · refine ⟨by simp [created, Input.take], ?_⟩
        simpa [started, created] using fed.reader

theorem State.Fed.queue (fed : state.Fed history) (started : state.reader ≠ .absent)
    (bytes : Option (List UInt8)) (memory : Bool) {reader : Reader}
    (reads : reader.Fed (chunks history).flatten (queued history ++ bytes.toList)) :
    (state.queue bytes memory reader).Fed (history ++ bytes.toList.map .queued) := by
  obtain ⟨read, told⟩ := chunks_queued history bytes.toList
  refine ⟨fun none => ?_, by rw [read, told]; exact reads⟩
  have same : (state.queue bytes memory reader).input.started = state.input.started := by
    cases bytes with
    | none => rfl
    | some bytes => exact (queueLine_keeps state.input bytes memory).1
  exact absurd (fed.absent (same ▸ none)) started

theorem State.Fed.step (fed : state.Fed history) {label : Label}
    (run : stdinSystem.step state label = some next) :
    next.Fed (history ++ state.thread label) := by
  have before := fed.reader
  cases State.stepped run with
  | failed | left =>
      rw [State.thread, List.append_nil]
      exact ⟨fed.absent, fed.reader⟩
  | entered env fine =>
      rw [State.thread, List.append_nil]
      exact fed.call env
  | read bytes line place =>
      rw [place] at before
      refine ⟨fun none => absurd (fed.absent none) (by simp [place]), ?_⟩
      refine ⟨(chunks history).flatten, ?_, ?_⟩
      · simp [chunks, State.thread, ThreadEvent.chunk?]
      · have same : queued (history ++ state.thread (.read bytes)) = queued history := by
          simp [queued, State.thread, ThreadEvent.piece?]
        rw [same]
        exact before
  | stopped result line place | finished result place =>
      rw [place] at before
      rw [State.thread, List.append_nil]
      exact ⟨fun none => absurd (fed.absent none) (by simp [place]), before⟩
  | scanned memory line byte rest place =>
      rw [place] at before
      obtain ⟨scanned, split, result⟩ := before
      simp only [State.thread, place]
      refine fed.queue (by simp [place]) _ memory ?_
      have onward : (chunks history).flatten = (scanned ++ [byte]) ++ rest := by
        simp [split]
      refine fed_afterScan onward ?_
      rw [feed_concat, result]
  | flushed memory line result place =>
      rw [place] at before
      simp only [State.thread, place]
      refine fed.queue (by simp [place]) _ memory ?_
      have fedAll : feed pushByte [] (chunks history).flatten = (queued history, line) := before
      simp only [Reader.Fed, pieces, fedAll]

theorem fed_run {labels : List Label} {final : State}
    (run : stdinSystem.exec {} labels = some final) :
    final.Fed (stdinSystem.outputs State.thread {} labels) := by
  have always : stdinSystem.Along (fun _ _ => True) {} labels := .of_forall (fun _ _ => trivial) _ _
  have start : State.Fed [] {} := ⟨fun _ => rfl, rfl, rfl⟩
  exact System.exec_outputs State.thread (fun history state => state.Fed history)
    (fun _ _ _ _ _ fed _ step => fed.step step) System.Reachable.start start always run

end Fed

/-! ## Chunks of any size -/

/-- The thread reads a chunk and looks at all of its bytes. -/
def chunkRun (chunk : List UInt8) : List Label :=
  .read chunk :: List.replicate chunk.length (.scan true)

/-- `readstdin` starts the thread, which reads the chunks and the end of the input. -/
def threadRun (chunks : List (List UInt8)) : List Label :=
  .call {} :: chunks.flatMap chunkRun ++ [.stop 0, .flush true, .finish]

section Runs

variable {state : State} {line : List UInt8}

/-- A run from one read to the next that reads `chunks`. -/
def Reads (state : State) (labels : List Label) (chunks : List (List UInt8)) (next : State) :
    Prop :=
  stdinSystem.exec state labels = some next ∧ (∃ line, next.reader = .reading line) ∧
    Stdin.chunks (stdinSystem.outputs State.thread state labels) = chunks

theorem scan_run {rest : List UInt8} (place : state.reader = .scanning line rest)
    (more : rest ≠ []) :
    ∃ next, Reads state (List.replicate rest.length (.scan true)) [] next := by
  induction rest generalizing state line with
  | nil => exact absurd rfl more
  | cons byte rest ih =>
      let next := state.queue (pushByte line byte).2 true (afterScan (pushByte line byte).1 rest)
      have step : stdinSystem.step state (.scan true) = some next := by
        simp [stdinSystem, Stdin.step, place, next]
      have silent : Stdin.chunks (state.thread (.scan true)) = [] := by
        simp [Stdin.chunks, State.thread, place, ThreadEvent.chunk?]
      rw [List.length_cons, List.replicate_succ]
      by_cases last : rest = []
      · refine ⟨next, ?_,
          ⟨(pushByte line byte).1, by simp [next, State.queue, afterScan, last]⟩, ?_⟩
        · simp [last, System.exec, step]
        · simp [last, System.outputs, step, silent]
      · have onward : next.reader = .scanning (pushByte line byte).1 rest := by
          simp [next, State.queue, afterScan, last]
        obtain ⟨final, run, reading, nothing⟩ := ih onward last
        refine ⟨final, Option.bind_eq_some_iff.mpr ⟨next, step, run⟩, reading, ?_⟩
        rw [System.outputs, step]
        unfold Stdin.chunks at silent nothing ⊢
        rw [List.filterMap_append, silent, nothing]
        rfl

theorem chunk_run (place : state.reader = .reading line) {chunk : List UInt8}
    (size : 0 < chunk.length ∧ chunk.length ≤ 1024) :
    ∃ next, Reads state (chunkRun chunk) [chunk] next := by
  have some : chunk ≠ [] := List.ne_nil_of_length_pos size.1
  have step : stdinSystem.step state (.read chunk) =
      Option.some { state with reader := .scanning line chunk } := by
    simp [stdinSystem, Stdin.step, place, some, bufferSize, size.2]
  obtain ⟨next, run, reading, nothing⟩ := scan_run
    (show State.reader { state with reader := .scanning line chunk } = _ from rfl) some
  refine ⟨next, Option.bind_eq_some_iff.mpr ⟨_, step, run⟩, reading, ?_⟩
  rw [chunkRun, System.outputs, step]
  unfold Stdin.chunks at nothing ⊢
  rw [List.filterMap_append, nothing]
  rfl

theorem chunks_run (place : state.reader = .reading line) {chunks : List (List UInt8)}
    (sizes : ∀ chunk ∈ chunks, 0 < chunk.length ∧ chunk.length ≤ 1024) :
    ∃ next, Reads state (chunks.flatMap chunkRun) chunks next := by
  induction chunks generalizing state line with
  | nil => exact ⟨state, rfl, ⟨line, place⟩, rfl⟩
  | cons chunk rest ih =>
      obtain ⟨middle, first, ⟨kept, reading⟩, one⟩ :=
        chunk_run place (sizes chunk List.mem_cons_self)
      obtain ⟨next, second, reads, others⟩ :=
        ih reading fun other member => sizes other (List.mem_cons_of_mem _ member)
      refine ⟨next, ?_, reads, ?_⟩
      · rw [List.flatMap_cons, System.exec_append, first]
        exact second
      · rw [List.flatMap_cons, System.outputs_append first]
        unfold Stdin.chunks at one others ⊢
        rw [List.filterMap_append, one, others]
        rfl

/-- Whatever the reads return, the thread ends. -/
theorem thread_run {chunks : List (List UInt8)}
    (sizes : ∀ chunk ∈ chunks, 0 < chunk.length ∧ chunk.length ≤ 1024) :
    ∃ final, stdinSystem.exec {} (threadRun chunks) = some final ∧ final.reader = .done ∧
      final.input.eof = true ∧
      Stdin.chunks (stdinSystem.outputs State.thread {} (threadRun chunks)) = chunks := by
  have start : stdinSystem.step {} (.call {}) = some (State.enter {} {}) := rfl
  obtain ⟨middle, run, ⟨line, reading⟩, read⟩ :=
    chunks_run (show (State.enter {} {}).reader = .reading [] from rfl) sizes
  have begun : stdinSystem.exec {} (.call {} :: chunks.flatMap chunkRun) = some middle :=
    Option.bind_eq_some_iff.mpr ⟨_, start, run⟩
  have tail : stdinSystem.exec middle [.stop 0, .flush true, .finish] =
      some ((State.queue middle (remainder line) true (.closing 0)).finish 0) := by
    simp [System.exec, stdinSystem, Stdin.step, reading, State.queue]
  refine ⟨(State.queue middle (remainder line) true (.closing 0)).finish 0, ?_, rfl, rfl, ?_⟩
  · rw [threadRun, System.exec_append, begun]
    exact tail
  · rw [threadRun, System.outputs_append begun, System.outputs, start]
    unfold Stdin.chunks at read ⊢
    rw [List.filterMap_append, List.filterMap_append, read]
    simp [System.outputs, stdinSystem, Stdin.step, reading, State.queue, State.thread,
      ThreadEvent.chunk?]

end Runs

/-- For every run: there is room for one more byte in the buffer of the thread; the
pieces queued by a thread that has come to the end of the input make up its bytes;
two such threads that have read the same bytes have queued the same pieces, however
the bytes were divided; and every division is read to its end. -/
theorem read_input_chunking :
    (∀ labels final, stdinSystem.exec {} labels = some final →
      final.reader.buffer.length + 1 < bufferSize ∧
      (final.reader.flushed = true → (queued (stdinSystem.outputs State.thread {} labels)).flatten =
        (chunks (stdinSystem.outputs State.thread {} labels)).flatten)) ∧
    (∀ left right finalLeft finalRight, stdinSystem.exec {} left = some finalLeft →
      stdinSystem.exec {} right = some finalRight → finalLeft.reader.flushed = true →
      finalRight.reader.flushed = true →
      (chunks (stdinSystem.outputs State.thread {} left)).flatten =
        (chunks (stdinSystem.outputs State.thread {} right)).flatten →
      queued (stdinSystem.outputs State.thread {} left) =
        queued (stdinSystem.outputs State.thread {} right)) ∧
    (∀ division : List (List UInt8),
      (∀ chunk ∈ division, 0 < chunk.length ∧ chunk.length ≤ 1024) →
      ∃ labels final, stdinSystem.exec {} labels = some final ∧ final.reader = .done ∧
        final.input.eof = true ∧
        chunks (stdinSystem.outputs State.thread {} labels) = division) := by
  refine ⟨?_, ?_, ?_⟩
  · intro labels final run
    have fed := fed_run run
    refine ⟨Nat.succ_lt_succ fed.reader.short, fun flushed => ?_⟩
    rw [fed.reader.complete flushed, pieces_flatten]
  · intro left right finalLeft finalRight runLeft runRight flushedLeft flushedRight same
    rw [(fed_run runLeft).reader.complete flushedLeft,
      (fed_run runRight).reader.complete flushedRight, same]
  · intro division sizes
    obtain ⟨final, run, done, eof, read⟩ := thread_run sizes
    exact ⟨threadRun division, final, run, done, eof, read⟩

/-! ## Lines -/

/-- The bytes of an input with the lines `ended`, each with its line feed, and then
the bytes `last`, in which there is none. -/
def spell (ended : List Line) (last : Line) : List UInt8 :=
  ended.flatMap (fun line => line ++ [lineFeed]) ++ last

/-- The lines of that input; a last line without line feed counts unless it is empty. -/
def lines (ended : List Line) (last : Line) : List Line := ended ++ (remainder last).toList

def trim (line : Line) : Line := line.rdropWhile fun byte => byte = carriageReturn

theorem exists_spell (stream : List UInt8) : ∃ ended last, (∀ line ∈ ended, lineFeed ∉ line) ∧
    lineFeed ∉ last ∧ stream = spell ended last := by
  induction stream with
  | nil => exact ⟨[], [], by simp, by simp, rfl⟩
  | cons byte rest ih =>
      obtain ⟨ended, last, plain, open_, rfl⟩ := ih
      by_cases ends : byte = lineFeed
      · refine ⟨[] :: ended, last, ?_, open_, by simp [spell, ends]⟩
        exact List.forall_mem_cons.mpr ⟨List.not_mem_nil, plain⟩
      · cases ended with
        | nil =>
            refine ⟨[], byte :: last, plain, ?_, rfl⟩
            simp [open_, Ne.symm ends]
        | cons line more =>
            obtain ⟨first, others⟩ := List.forall_mem_cons.mp plain
            refine ⟨(byte :: line) :: more, last, ?_, open_, rfl⟩
            refine List.forall_mem_cons.mpr ⟨?_, others⟩
            simp [first, Ne.symm ends]

/-! ### The pieces of a line -/

section Pieces

variable {line body : List UInt8} {byte : UInt8}

theorem feed_body (plain : lineFeed ∉ body) (room : line.length + body.length < 1023) :
    feed pushByte line body = ([], line ++ body) := by
  induction body generalizing line with
  | nil => simp [feed]
  | cons byte rest ih =>
      rw [List.mem_cons, not_or] at plain
      rw [List.length_cons] at room
      have keeps : pushByte line byte = (line ++ [byte], none) := by
        have other : byte ≠ lineFeed := Ne.symm plain.1
        have below : line.length + 1 ≠ 1023 := by omega
        simp [pushByte, other, bufferSize, below]
      rw [feed, keeps, ih plain.2 (by simp; omega)]
      simp

/-- The buffer is flushed by the byte that fills it. -/
theorem feed_full (plain : lineFeed ∉ body) (full : body.length = 1023) :
    feed pushByte [] body = ([body], []) := by
  obtain ⟨rest, byte, rfl⟩ : ∃ rest byte, body = rest ++ [byte] := by
    rcases List.eq_nil_or_concat body with rfl | ⟨rest, byte, rfl⟩
    · simp at full
    · exact ⟨rest, byte, List.concat_eq_append⟩
  have first : feed pushByte [] rest = ([], rest) := by
    have body :=
      @feed_body [] rest (fun member => plain (by simp [member])) (by simp at full ⊢; omega)
    simpa using body
  rw [feed_concat, first]
  simp [pushByte, full, bufferSize]

/-- What `queue_line` gets of a line with a line feed. -/
def cut (line : Line) : List (List UInt8) :=
  if line.length = 1023 then [line, [lineFeed]] else [line ++ [lineFeed]]

theorem feed_line (plain : lineFeed ∉ line) (short : line.length ≤ 1023) :
    feed pushByte [] (line ++ [lineFeed]) = (cut line, []) := by
  rw [feed_concat]
  by_cases full : line.length = 1023
  · rw [feed_full plain full]
    simp [pushByte, cut, full]
  · rw [feed_body plain (by simp; omega)]
    simp [pushByte, cut, full]

theorem feed_ended {ended : List Line} (plain : ∀ line ∈ ended, lineFeed ∉ line)
    (short : ∀ line ∈ ended, line.length ≤ 1023) :
    feed pushByte [] (ended.flatMap fun line => line ++ [lineFeed]) = (ended.flatMap cut, []) := by
  induction ended with
  | nil => rfl
  | cons line more ih =>
      obtain ⟨plainFirst, plainMore⟩ := List.forall_mem_cons.mp plain
      obtain ⟨shortFirst, shortMore⟩ := List.forall_mem_cons.mp short
      rw [List.flatMap_cons, feed_append, feed_line plainFirst shortFirst, ih plainMore shortMore]
      rfl

theorem pieces_spell {ended : List Line} {last : Line} (plain : ∀ line ∈ ended, lineFeed ∉ line)
    (open_ : lineFeed ∉ last) (short : ∀ line ∈ ended, line.length ≤ 1023)
    (shortLast : last.length ≤ 1023) :
    pieces (spell ended last) = ended.flatMap cut ++ (remainder last).toList := by
  rw [pieces, spell, feed_append, feed_ended plain short]
  by_cases full : last.length = 1023
  · have some : last ≠ [] := by
      rintro rfl
      simp at full
    rw [feed_full open_ full]
    simp [remainder, some]
  · rw [feed_body open_ (by simp; omega)]
    simp

theorem strip_plain (plain : lineFeed ∉ line) : strip line = trim line := by
  induction line using List.reverseRecOn with
  | nil => rfl
  | append_singleton rest byte ih =>
      have other : byte ≠ lineFeed := by
        rintro rfl
        exact plain (by simp)
      unfold strip trim
      by_cases returns : byte = carriageReturn
      · rw [List.rdropWhile_concat_pos _ _ _ (by simp [returns]),
          List.rdropWhile_concat_pos _ _ _ (by simp [returns])]
        exact ih fun member => plain (by simp [member])
      · rw [List.rdropWhile_concat_neg _ _ _ (by simp [returns, other]),
          List.rdropWhile_concat_neg _ _ _ (by simp [returns])]

theorem strip_line (plain : lineFeed ∉ line) : strip (line ++ [lineFeed]) = trim line := by
  rw [← strip_plain plain]
  exact List.rdropWhile_concat_pos _ _ _ (by simp)

theorem length_cut (line : Line) : 1 ≤ (cut line).length ∧
    ((cut line).length = 1 → line.length ≠ 1023) := by
  unfold cut
  split
  · simp
  · rename_i part
    simp [part]

theorem length_cuts (ended : List Line) : ended.length ≤ (ended.flatMap cut).length ∧
    ((ended.flatMap cut).length = ended.length → ∀ line ∈ ended, line.length ≠ 1023) := by
  induction ended with
  | nil => simp
  | cons line more ih =>
      obtain ⟨least, exact_⟩ := length_cut line
      obtain ⟨leastMore, exactMore⟩ := ih
      rw [List.flatMap_cons, List.length_append, List.length_cons]
      refine ⟨by omega, fun same => ?_⟩
      exact List.forall_mem_cons.mpr ⟨exact_ (by omega), exactMore (by omega)⟩

theorem cuts_of_short {ended : List Line} (short : ∀ line ∈ ended, line.length ≠ 1023) :
    ended.flatMap cut = ended.map fun line => line ++ [lineFeed] := by
  rw [List.map_eq_flatMap]
  refine List.flatMap_congr fun line member => ?_
  rw [cut, if_neg (short line member)]

/-- The strings made of the pieces are the lines just when no line is cut and none
has a NUL. -/
theorem strings_of_pieces {ended : List Line} {last : Line}
    (plain : ∀ line ∈ ended, lineFeed ∉ line) (open_ : lineFeed ∉ last) :
    (ended.flatMap cut ++ (remainder last).toList).map (fun piece => cString (strip piece)) =
        (lines ended last).map trim ↔
      (∀ line ∈ lines ended last, 0 ∉ trim line) ∧ ∀ line ∈ ended, line.length ≠ 1023 := by
  have plainAll : ∀ line ∈ (remainder last).toList, lineFeed ∉ line := by
    intro line member
    unfold remainder at member
    split at member
    · simp at member
    · simp only [Option.toList_some, List.mem_singleton] at member
      exact member ▸ open_
  -- when no line is cut there is one piece for each line
  have uncut (short : ∀ line ∈ ended, line.length ≠ 1023) :
      (ended.flatMap cut ++ (remainder last).toList).map (fun piece => cString (strip piece)) =
        (lines ended last).map fun line => cString (trim line) := by
    rw [cuts_of_short short, lines, List.map_append, List.map_append, List.map_map]
    congr 1
    · refine List.map_congr_left fun line member => ?_
      simp only [Function.comp_apply, strip_line (plain line member)]
    · refine List.map_congr_left fun line member => ?_
      rw [strip_plain (plainAll line member)]
  constructor
  · intro same
    have short : ∀ line ∈ ended, line.length ≠ 1023 := by
      refine (length_cuts ended).2 ?_
      have count := congrArg List.length same
      simp only [lines, List.length_map, List.length_append] at count
      omega
    refine ⟨fun line member => ?_, short⟩
    rw [uncut short] at same
    exact cString_eq_iff.mp (List.map_inj_left.mp same line member)
  · rintro ⟨none, short⟩
    rw [uncut short]
    exact List.map_congr_left fun line member => cString_eq_iff.mpr (none line member)

end Pieces

/-! ## Strings -/

namespace Event

/-- The bytes that `queue_line` gets, without their terminators. -/
def arrival? : Event → Option Line
  | arrived line _ _ => some line
  | _ => none

/-- Lua had no memory for what a call returns. -/
def isExhausted : Event → Bool
  | returned _ _ .exhausted => true
  | _ => false

/-- The string that a call returns. -/
def string? (call : Nat) : Event → Option Line
  | returned other _ (.line bytes) => if other = call then some bytes else none
  | _ => none

end Event

/-- The strings that `readstdin` has returned, in the order of the calls. -/
def strings (history : List Event) : List Line :=
  (List.range (tickets history).length).filterMap fun call => history.findSome? (Event.string? call)

def Ticket.string? (ticket : Ticket) : Option Line := ticket.line.map cString

section Strings

variable {history : List Event} {state next final : State} {labels : List Label}

theorem Ticket.string?_of_answer {ticket : Ticket} {bytes : Line}
    (answer : ticket.answer = .line bytes) :
    ticket.string? = some bytes := by
  cases line : ticket.line with
  | none =>
      simp only [Ticket.answer, line] at answer
      split at answer <;> cases answer
  | some found =>
      simp only [Ticket.answer, line, Answer.line.injEq] at answer
      simp [Ticket.string?, line, answer]

theorem Ticket.answer_of_string? {ticket : Ticket} {bytes : Line}
    (string : ticket.string? = some bytes) :
    ticket.answer = .line bytes := by
  obtain ⟨line, found, rfl⟩ := Option.map_eq_some_iff.mp string
  simp [Ticket.answer, found]

/-- Every call is still inside or has returned. -/
def State.Accounted (history : List Event) (state : State) : Prop :=
  ∀ call < state.tickets.length,
    call ∈ state.inside ∨ ∃ joins answer, .returned call joins answer ∈ history

theorem State.Accounted.step (accounted : state.Accounted history) {label : Label}
    (run : stdinSystem.step state label = some next) :
    next.Accounted (history ++ state.events label) := by
  have same (tickets : next.tickets = state.tickets) (inside : next.inside = state.inside) :
      next.Accounted (history ++ state.events label) := by
    intro call bound
    rw [tickets] at bound
    rw [inside]
    refine (accounted call bound).imp_right ?_
    rintro ⟨joins, answer, member⟩
    exact ⟨joins, answer, List.mem_append_left _ member⟩
  cases State.stepped run with
  | failed | read | stopped | scanned | flushed | finished => exact same rfl rfl
  | entered env fine =>
      intro call bound
      simp only [State.enter, List.length_append, List.length_singleton, List.mem_append,
        List.mem_singleton] at bound ⊢
      rcases Nat.lt_succ_iff_lt_or_eq.mp bound with older | new
      · rcases accounted call older with still | ⟨joins, answer, member⟩
        · exact .inl (.inl still)
        · exact .inr ⟨joins, answer, .inl member⟩
      · exact .inl (.inr new)
  | left gone memory may =>
      simp only [mayLeave, Bool.and_eq_true] at may
      intro call bound
      rcases accounted call bound with still | ⟨joins, answer, member⟩
      · rcases eq_or_ne call gone with rfl | other
        · obtain ⟨ticket, found, -⟩ := (Option.any_eq_true _ _).mp may.2
          refine .inr ⟨ticket.join, ticket.returns memory, List.mem_append_right _ ?_⟩
          simp [State.events, found]
        · exact .inl ((List.mem_erase_of_ne other).mpr still)
      · exact .inr ⟨joins, answer, List.mem_append_left _ member⟩

theorem accounted_run (run : stdinSystem.exec {} labels = some final) :
    final.Accounted (stdinSystem.outputs State.events {} labels) := by
  have always : stdinSystem.Along (fun _ _ => True) {} labels := .of_forall (fun _ _ => trivial) _ _
  have start : State.Accounted [] {} := by
    intro call bound
    simp at bound
  exact System.exec_outputs State.events (fun history state => state.Accounted history)
    (fun _ _ _ _ _ accounted _ step => accounted.step step) System.Reachable.start start always run

theorem Event.string?_eq_some {call : Nat} {event : Event} {bytes : Line}
    (string : event.string? call = some bytes) :
    ∃ joins, event = .returned call joins (.line bytes) := by
  cases event with
  | returned other joins answer =>
      cases answer with
      | line found =>
          obtain ⟨rfl, ⟨⟩⟩ := Option.ite_none_right_eq_some.mp string
          exact ⟨joins, rfl⟩
      | _ => cases string
  | _ => cases string

/-- What is found at every place of a list is what is found in the list. -/
theorem filterMap_range {Item Found : Type} (items : List Item) (find : Item → Option Found) :
    (List.range items.length).filterMap (fun place => items[place]?.bind find) =
      items.filterMap find := by
  have places : (List.range items.length).map (fun place => items[place]?) = items.map some := by
    refine List.ext_getElem (by simp) fun place bound _ => ?_
    simp at bound
    simp [bound]
  calc
    (List.range items.length).filterMap (fun place => items[place]?.bind find) =
        ((List.range items.length).map fun place => items[place]?).filterMap (·.bind find) := by
      rw [List.filterMap_map]
      rfl
    _ = items.filterMap find := by
      rw [places, List.filterMap_map]
      rfl

/-- When every call has returned, the strings are those of the tickets. -/
theorem strings_eq (right : Trace.Always Event.Right history)
    (returned : ∀ call < (tickets history).length, ∃ joins answer,
      .returned call joins answer ∈ history)
    (told : history.any Event.isExhausted = false) :
    strings history = (taken history).map cString := by
  have single (call : Nat) (bound : call < (tickets history).length) :
      history.findSome? (Event.string? call) = (tickets history)[call].string? := by
    have ticketed : ∀ joins answer, .returned call joins answer ∈ history →
        answer = (tickets history)[call].answer := by
      intro joins answer member
      obtain ⟨ticket, found, same⟩ := returned_answer right member
      rw [List.getElem?_eq_getElem bound, Option.some.injEq] at found
      rw [found]
      refine same.resolve_right fun exhausted => ?_
      subst exhausted
      exact List.any_eq_false.mp told _ member rfl
    cases string : (tickets history)[call].string? with
    | none =>
        rw [List.findSome?_eq_none_iff]
        intro event member
        cases shown : event.string? call with
        | none => rfl
        | some bytes =>
            obtain ⟨joins, rfl⟩ := Event.string?_eq_some shown
            have same := Ticket.string?_of_answer (ticketed joins _ member).symm
            cases string.symm.trans same
    | some bytes =>
        have answer := Ticket.answer_of_string? string
        cases found : history.findSome? (Event.string? call) with
        | none =>
            obtain ⟨joins, told, member⟩ := returned call bound
            have shown := List.findSome?_eq_none_iff.mp found _ member
            rw [ticketed joins told member, answer] at shown
            simp [Event.string?] at shown
        | some other =>
            obtain ⟨event, member, shown⟩ := List.exists_of_findSome?_eq_some found
            obtain ⟨joins, rfl⟩ := Event.string?_eq_some shown
            have same := ticketed joins _ member
            rw [answer, Answer.line.injEq] at same
            rw [same]
  have all : strings history = (tickets history).filterMap Ticket.string? := by
    rw [← filterMap_range, strings]
    refine List.filterMap_congr fun call member => ?_
    have bound := List.mem_range.mp member
    rw [single call bound, List.getElem?_eq_getElem bound]
    rfl
  rw [all, taken, List.map_filterMap, tickets, List.filterMap_filterMap]
  refine List.filterMap_congr fun event _ => ?_
  cases shown : event.ticket? <;> simp [Event.taken?, Ticket.string?, shown]

/-- Nothing is dropped and nothing fails: every line that arrives is accepted. -/
theorem accepted_eq_arrivals (intact : history.any Event.isDrop = false)
    (sound : history.any Event.isFailure = false) :
    accepted history = history.filterMap Event.arrival? := by
  rw [List.any_eq_false] at intact sound
  refine List.filterMap_congr fun event member => ?_
  cases event with
  | arrived line memory fate =>
      cases fate with
      | accepted => rfl
      | dropped => exact absurd rfl (intact _ member)
      | lost => exact absurd rfl (sound _ member)
  | _ => rfl

/-- Every piece arrives without its terminators. -/
theorem arrivals_eq (labels : List Label) :
    (stdinSystem.outputs State.events {} labels).filterMap Event.arrival? =
      (queued (stdinSystem.outputs State.thread {} labels)).map strip := by
  rw [queued, List.map_filterMap, System.outputs_filterMap, System.outputs_filterMap]
  congr 1
  funext state label
  have arrives (bytes : Option (List UInt8)) (memory : Bool) :
      (state.arrival bytes memory).filterMap Event.arrival? =
        (bytes.toList.map ThreadEvent.queued).filterMap fun event => event.piece?.map strip := by
    cases bytes <;> rfl
  cases label with
  | call env =>
      simp only [State.events, State.thread]
      split
      · rfl
      · unfold creation
        split <;> rfl
  | leave call memory =>
      simp only [State.events, State.thread]
      split <;> rfl
  | scan memory =>
      simp only [State.events, State.thread]
      cases state.reader with
      | scanning line rest =>
          cases rest with
          | nil => rfl
          | cons byte rest => exact arrives _ memory
      | _ => rfl
  | flush memory =>
      simp only [State.events, State.thread]
      cases state.reader with
      | drained line result => exact arrives _ memory
      | _ => rfl
  | finish =>
      simp only [State.events, State.thread]
      split <;> rfl
  | read bytes | stop result => rfl

end Strings

/-- The whole input was read, everything that was queued was taken, and every call
has returned; there was memory for every line and for every string, and the queue
did not overflow. -/
structure Delivered (labels : List Label) (final : State) : Prop where
  run : stdinSystem.exec {} labels = some final
  eof : final.input.eof = true
  overflow : final.input.overflow = false
  failed : final.input.failed = false
  taken : final.input.lines.isEmpty = true
  returned : final.inside = []
  told : (stdinSystem.outputs State.events {} labels).any Event.isExhausted = false

/-- All of it can be checked by running the labels. -/
def deliveredCheck (labels : List Label) : Bool :=
  (stdinSystem.exec stdinSystem.init labels).any (fun final =>
      final.input.eof && !final.input.overflow && !final.input.failed &&
        final.input.lines.isEmpty && final.inside.isEmpty) &&
    !(stdinSystem.outputs State.events stdinSystem.init labels).any Event.isExhausted

theorem exists_delivered {labels : List Label} (checked : deliveredCheck labels = true) :
    ∃ final, Delivered labels final := by
  simp only [deliveredCheck, Bool.and_eq_true, Bool.not_eq_true', Option.any_eq_true] at checked
  obtain ⟨⟨final, run, ⟨⟨⟨eof, overflow⟩, failed⟩, taken⟩, returned⟩, told⟩ := checked
  exact ⟨final, run, eof, overflow, failed, taken, List.isEmpty_iff.mp returned, told⟩

theorem Delivered.strings_eq {labels : List Label} {final : State}
    (delivered : Delivered labels final) :
    strings (stdinSystem.outputs State.events {} labels) =
      (pieces (chunks (stdinSystem.outputs State.thread {} labels)).flatten).map fun piece =>
        cString (strip piece) := by
  obtain ⟨right, tied⟩ := tied_run delivered.run
  have everyone : ∀ call < (tickets (stdinSystem.outputs State.events {} labels)).length,
      ∃ joins answer, .returned call joins answer ∈ stdinSystem.outputs State.events {} labels := by
    intro call bound
    rw [tied.counted.tickets] at bound
    refine (accounted_run delivered.run call bound).resolve_left ?_
    rw [delivered.returned]
    exact List.not_mem_nil
  have done : final.reader = .done := by
    rw [← tied.threaded.done, tied.recorded.finished]
    have eof := delivered.eof
    rw [tied.recorded.eof, List.any_eq_true] at eof
    obtain ⟨event, member, ends⟩ := eof
    exact List.any_eq_true.mpr ⟨event, member, Event.isFinish_of_isEof ends⟩
  obtain ⟨unread, holds, balance⟩ := tied.recorded.unread
  rw [holds.isEmpty_iff.mp delivered.taken, List.append_nil,
    accepted_eq_arrivals (tied.recorded.overflow ▸ delivered.overflow)
      (tied.recorded.failed ▸ delivered.failed), arrivals_eq] at balance
  rw [Stdin.strings_eq right everyone delivered.told, ← balance, List.map_map,
    (fed_run delivered.run).reader.complete (by rw [done]; rfl)]
  rfl

/-- For every input whose lines have at most 1023 bytes and every way it is read:
once all is delivered, the strings are the lines without their carriage returns if
and only if no such line has a NUL and none that ends with a line feed has 1023
bytes. -/
theorem stdin_lines_iff {labels : List Label} {final : State} (delivered : Delivered labels final)
    {ended : List Line} {last : Line} (plain : ∀ line ∈ ended, lineFeed ∉ line)
    (open_ : lineFeed ∉ last)
    (stream : (chunks (stdinSystem.outputs State.thread {} labels)).flatten = spell ended last)
    (short : ∀ line ∈ ended, line.length ≤ 1023) (shortLast : last.length ≤ 1023) :
    strings (stdinSystem.outputs State.events {} labels) = (lines ended last).map trim ↔
      (∀ line ∈ lines ended last, 0 ∉ trim line) ∧ ∀ line ∈ ended, line.length ≠ 1023 := by
  rw [delivered.strings_eq, stream, pieces_spell plain open_ short shortLast]
  exact strings_of_pieces plain open_

/-- The input `hi`, a line feed and the end. -/
theorem stdin_lines_iff_line : strings (stdinSystem.outputs State.events {} lineRun) =
    (lines [[104, 105]] []).map trim := by
  obtain ⟨final, delivered⟩ := exists_delivered (show deliveredCheck lineRun = true by decide)
  exact (stdin_lines_iff delivered (by decide) (by decide) (by decide) (by decide) (by decide)).mpr
    (by decide)

/-- A line with a NUL in it, and the end. -/
def nulLineRun : List Label :=
  [.call {}, .leave 0 true, .read [97, 0, 98, 10], .scan true, .scan true, .scan true, .scan true,
    .stop 0, .flush true, .finish, .call {}, .leave 1 true, .call {}, .leave 2 true]

/-- A line of 1023 bytes, its line feed and the end. -/
def longLineRun : List Label :=
  ([.call {}, .leave 0 true, .read (List.replicate 1023 97 ++ [10])] : List Label) ++
    List.replicate 1024 (Label.scan true) ++
    ([.stop 0, .flush true, .finish, .call {}, .leave 1 true, .call {}, .leave 2 true, .call {},
      .leave 3 true] : List Label)

set_option maxRecDepth 4096 in
/-- Both are delivered.  The first line loses what follows the NUL, and the second is
followed by an empty string that is no line. -/
theorem stdin_lines_unfaithful :
    ((∃ final, Delivered nulLineRun final) ∧
      (chunks (stdinSystem.outputs State.thread {} nulLineRun)).flatten = spell [[97, 0, 98]] [] ∧
      strings (stdinSystem.outputs State.events {} nulLineRun) = [[97]]) ∧
    ((∃ final, Delivered longLineRun final) ∧
      (chunks (stdinSystem.outputs State.thread {} longLineRun)).flatten =
        spell [List.replicate 1023 97] [] ∧
      strings (stdinSystem.outputs State.events {} longLineRun) =
        [List.replicate 1023 97, []]) := by
  refine ⟨⟨exists_delivered (by decide), by decide, by decide⟩,
    exists_delivered (by decide +kernel), by decide +kernel, by decide +kernel⟩

end Skyuv.Client.Stdin
