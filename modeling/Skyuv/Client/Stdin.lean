import Mathlib.Data.List.DropRight
import Skyuv.Lib.CircularBuffer
import Skyuv.Lib.Trace
import Skyuv.Lib.TransitionSystem

/-!
# The shared stdin queue

`client_stdin.c` as a transition system.  A reader thread blocks in `uv_fs_read`,
cuts what it reads into lines and queues them; `readstdin` calls of any number of
Lua states take them out.  The two sides meet in the critical sections of one
mutex, which are the steps below: a byte that ends a line, the end of the input,
and the locked part of a `readstdin` call.  Joining the thread and returning come
after that part and are a step of their own, so that other calls may come between.
-/

set_option autoImplicit false

namespace Skyuv.Client.Stdin

open TransitionSystem

abbrev Line := List UInt8

def lineFeed : UInt8 := 10
def carriageReturn : UInt8 := 13

/-- `sizeof(line)` and `sizeof(bytes)` in `read_input`. -/
def bufferSize : Nat := 1024

/-- The static `input`, without its mutex, its thread and `init_error`. -/
structure Input where
  lines : CircularBuffer Line 1024 := .empty
  started : Bool := false
  joined : Bool := false
  eof : Bool := false
  failed : Bool := false
  overflow : Bool := false
  finished : Bool := false

/-- What becomes of a line. -/
inductive Fate where
  | accepted
  | dropped
  | lost
  deriving DecidableEq, Repr

/-- The line without its terminators. -/
def strip (bytes : List UInt8) : Line :=
  bytes.rdropWhile fun byte => byte = lineFeed || byte = carriageReturn

/-- `queue_line`; `memory` is the answer of `malloc`. -/
def Input.queueLine (input : Input) (bytes : List UInt8) (memory : Bool) : Input × Fate :=
  if !memory then ({ input with failed := true }, .lost)
  else if input.lines.isFull then ({ input with overflow := true }, .dropped)
  else ({ input with lines := input.lines.push (strip bytes) }, .accepted)

/-- Where the reader thread is in `read_input`.  `line` holds the first `length`
bytes of its buffer, `rest` the bytes of the last read still to be looked at, and
`result` the last result of `uv_fs_read`. -/
inductive Reader where
  | absent
  | reading (line : List UInt8)
  | scanning (line rest : List UInt8)
  | drained (line : List UInt8) (result : Int)
  | closing (result : Int)
  | done
  deriving DecidableEq, Repr

/-- One turn of the loop over the bytes: the new buffer, and what is queued. -/
def pushByte (line : List UInt8) (byte : UInt8) : List UInt8 × Option (List UInt8) :=
  if byte = lineFeed ∨ (line ++ [byte]).length = bufferSize - 1 then ([], some (line ++ [byte]))
  else (line ++ [byte], none)

/-- What `initialize` and `uv_thread_create` are answered. -/
structure Env where
  retain : Int := 0
  mutexInit : Int := 0
  threadCreate : Int := 0
  deriving DecidableEq, Repr

/-- The result of `initialize`. -/
def Env.initialize (env : Env) : Int := if env.retain = 0 then env.mutexInit else env.retain

/-- The local variables of a `readstdin` call when it unlocks the mutex. -/
structure Ticket where
  line : Option Line
  eof : Bool
  failed : Bool
  overflow : Bool
  join : Bool
  deriving DecidableEq, Repr

inductive Status where
  | overflow
  | error
  | eof
  deriving DecidableEq, Repr

/-- What `readstdin` returns: a string, nil and a status, or nothing.  Lua may also
raise a memory error when it makes the string. -/
inductive Answer where
  | line (bytes : List UInt8)
  | status (status : Status)
  | nothing
  | exhausted
  deriving DecidableEq, Repr

/-- What `lua_pushstring` sees of a buffer. -/
def cString (line : Line) : List UInt8 := line.takeWhile fun byte => byte ≠ 0

def Ticket.answer (ticket : Ticket) : Answer :=
  match ticket.line with
  | some line => .line (cString line)
  | none =>
      if ticket.overflow || ticket.failed || ticket.eof then
        .status (if ticket.overflow then .overflow else if ticket.failed then .error else .eof)
      else .nothing

/-- `memory` says whether Lua can make the string. -/
def Ticket.returns (ticket : Ticket) (memory : Bool) : Answer :=
  if memory || ticket.answer = .nothing then ticket.answer else .exhausted

/-- The start of the thread at the first call. -/
def Input.start (input : Input) (reader : Reader) (env : Env) : Input × Reader :=
  if input.started then (input, reader)
  else if env.threadCreate ≠ 0 then
    ({ input with started := true, failed := true, joined := true }, reader)
  else ({ input with started := true }, .reading [])

/-- The rest of the locked part. -/
def Input.take (input : Input) : Input × Ticket :=
  let ticket : Ticket :=
    { line := if input.lines.isEmpty then none else input.lines.slots input.lines.head
      eof := input.eof
      failed := input.failed
      overflow := input.overflow
      join := !input.joined && input.finished }
  ({ input with
      lines := if input.lines.isEmpty then input.lines else input.lines.pop
      joined := input.joined || ticket.join },
    ticket)

/-- `initError` is unset until `uv_once` has run.  `tickets` has one entry for each
call that has held the mutex, in that order, which numbers the calls; `inside` has
those that have not returned. -/
structure State where
  initError : Option Int := none
  input : Input := {}
  reader : Reader := .absent
  tickets : List Ticket := []
  inside : List Nat := []

/-- `call` is `readstdin` up to the end of its locked part and `leave` the rest of
it.  `read` and `stop` are the return of `uv_fs_read`, with bytes and without;
`scan` is one turn of the loop over the bytes, `flush` the last line and `finish`
the locked part at the end of the thread. -/
inductive Label where
  | call (env : Env)
  | leave (call : Nat) (memory : Bool)
  | read (bytes : List UInt8)
  | stop (result : Int)
  | scan (memory : Bool)
  | flush (memory : Bool)
  | finish
  deriving DecidableEq, Repr

namespace State

def initialized (state : State) (env : Env) : Int := state.initError.getD env.initialize

def enter (state : State) (env : Env) : State :=
  let (input, reader) := state.input.start state.reader env
  { initError := some 0
    input := input.take.1
    reader := reader
    tickets := state.tickets ++ [input.take.2]
    inside := state.inside ++ [state.tickets.length] }

/-- A line is queued unless there is none. -/
def queue (state : State) (bytes : Option (List UInt8)) (memory : Bool) (reader : Reader) : State :=
  { state with
    input := match bytes with
      | none => state.input
      | some bytes => (state.input.queueLine bytes memory).1
    reader := reader }

/-- The flags that the thread sets last. -/
def finish (state : State) (result : Int) : State :=
  { state with
    input := { state.input with
      eof := result = 0, failed := state.input.failed || result < 0, finished := true }
    reader := .done }

end State

/-- The line that is left when the input ends. -/
def remainder (line : List UInt8) : Option (List UInt8) := if line = [] then none else some line

def afterScan (line rest : List UInt8) : Reader :=
  if rest = [] then .reading line else .scanning line rest

/-- A call that has to join the thread waits until it is done. -/
def mayLeave (state : State) (call : Nat) : Bool :=
  call ∈ state.inside && state.tickets[call]?.any fun ticket => !ticket.join || state.reader = .done

def step (state : State) : Label → Option State
  | .call env =>
      if state.initialized env ≠ 0 then
        some { state with initError := some (state.initialized env) }
      else some (state.enter env)
  | .leave call _ =>
      if mayLeave state call then some { state with inside := state.inside.erase call } else none
  | .read bytes =>
      match state.reader with
      | .reading line =>
          if bytes ≠ [] ∧ bytes.length ≤ bufferSize then
            some { state with reader := .scanning line bytes }
          else none
      | _ => none
  | .stop result =>
      match state.reader with
      | .reading line =>
          if result ≤ 0 then some { state with reader := .drained line result } else none
      | _ => none
  | .scan memory =>
      match state.reader with
      | .scanning line (byte :: rest) =>
          some (state.queue (pushByte line byte).2 memory (afterScan (pushByte line byte).1 rest))
      | _ => none
  | .flush memory =>
      match state.reader with
      | .drained line result => some (state.queue (remainder line) memory (.closing result))
      | _ => none
  | .finish =>
      match state.reader with
      | .closing result => some (state.finish result)
      | _ => none

def stdinSystem : System State Label where
  init := {}
  step := step

/-- What a step does, with its guards resolved. -/
inductive State.Stepped (state : State) : Label → State → Prop
  | failed (env : Env) (failure : state.initialized env ≠ 0) :
      Stepped state (.call env) { state with initError := some (state.initialized env) }
  | entered (env : Env) (fine : state.initialized env = 0) :
      Stepped state (.call env) (state.enter env)
  | left (call : Nat) (memory : Bool) (may : mayLeave state call = true) :
      Stepped state (.leave call memory) { state with inside := state.inside.erase call }
  | read (bytes line : List UInt8) (place : state.reader = .reading line) :
      Stepped state (.read bytes) { state with reader := .scanning line bytes }
  | stopped (result : Int) (line : List UInt8) (place : state.reader = .reading line) :
      Stepped state (.stop result) { state with reader := .drained line result }
  | scanned (memory : Bool) (line : List UInt8) (byte : UInt8) (rest : List UInt8)
      (place : state.reader = .scanning line (byte :: rest)) :
      Stepped state (.scan memory)
        (state.queue (pushByte line byte).2 memory (afterScan (pushByte line byte).1 rest))
  | flushed (memory : Bool) (line : List UInt8) (result : Int)
      (place : state.reader = .drained line result) :
      Stepped state (.flush memory) (state.queue (remainder line) memory (.closing result))
  | finished (result : Int) (place : state.reader = .closing result) :
      Stepped state .finish (state.finish result)

theorem State.stepped {state next : State} {label : Label}
    (run : stdinSystem.step state label = some next) : state.Stepped label next := by
  change step state label = some next at run
  cases label with
  | call env =>
      dsimp only [step] at run
      split at run
      · rename_i failure
        cases run
        exact .failed env failure
      · rename_i fine
        cases run
        exact .entered env (not_not.mp fine)
  | leave call memory =>
      obtain ⟨may, ⟨⟩⟩ := Option.ite_none_right_eq_some.mp run
      exact .left call memory may
  | read bytes =>
      dsimp only [step] at run
      split at run
      · rename_i line place
        obtain ⟨-, ⟨⟩⟩ := Option.ite_none_right_eq_some.mp run
        exact .read bytes line place
      · cases run
  | stop result =>
      dsimp only [step] at run
      split at run
      · rename_i line place
        obtain ⟨-, ⟨⟩⟩ := Option.ite_none_right_eq_some.mp run
        exact .stopped result line place
      · cases run
  | scan memory =>
      dsimp only [step] at run
      split at run
      · rename_i line byte rest place
        cases run
        exact .scanned memory line byte rest place
      · cases run
  | flush memory =>
      dsimp only [step] at run
      split at run
      · rename_i line result place
        cases run
        exact .flushed memory line result place
      · cases run
  | finish =>
      dsimp only [step] at run
      split at run
      · rename_i result place
        cases run
        exact .finished result place
      · cases run

end Skyuv.Client.Stdin
