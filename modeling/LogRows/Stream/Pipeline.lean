import LogRows.Condition.Filter
import LogRows.Row.Decode
import LogRows.Stream.Config
import LogRows.Stream.Line
import LogRows.Stream.Scope
import LogRows.Stream.Source

/-!
# A stream as a transition system

A stream has several parties that run at the same time.  Its *worker* reads the
source, decodes lines and puts rows into a bounded *queue*; the *consumer* takes
them out; anybody may *cancel* the scope; a file has a *notifier* that reports
changes, and an open stream has a *pump* that reads it for the worker.

`Pipeline` is the joint state of all of them and `step` one atomic step of one of
them, named by an `Action`.  A step is `none` when the party cannot take it,
because it waits for something or has nothing to do.  Every interleaving of the
parties is a list of actions, so what holds after every list holds always.

A party that waits for several things at once takes whichever *arm* is ready,
and if several are, any of them.
-/

namespace LogRows.Stream

/-- The life of a stream.  The last three phases are terminal. -/
inductive Phase where
  | init
  | streaming
  | eof
  | error
  | cancelled
deriving DecidableEq

/-- Whether a phase is never left. -/
def Phase.isTerminal : Phase → Bool
  | .init => false
  | .streaming => false
  | .eof => true
  | .error => true
  | .cancelled => true

/-- What a stream follows. -/
inductive Mode where
  /-- A file up to its present end; rows that the filter rejects are dropped. -/
  | bounded (filter : Filter)
  /-- What is appended to a file from now on. -/
  | file
  /-- An open stream until it ends. -/
  | pipe

/-- The row of a line, if it has one. -/
def rowOfLine? : Line → Option Row
  | .complete content => Row.ofBytes? content
  | .overlong => some (.failed .overlong)

/-- Whether a mode delivers a row; failed rows always pass. -/
def Mode.delivers (mode : Mode) (row : Row) : Bool :=
  match mode with
  | .bounded filter => row.isFailed || filter.accepts row
  | .file => true
  | .pipe => true

/-- The rows that a mode delivers of lines. -/
def Mode.rows (mode : Mode) (lines : List Line) : List Row :=
  (lines.filterMap rowOfLine?).filter mode.delivers

/-- What a worker that follows something is told. -/
inductive Notice where
  /-- The data of the file may have changed. -/
  | changed
  /-- Something else happened to the file. -/
  | other
  /-- The notifier failed once. -/
  | notifierFailed (reason : String)
  /-- The pump has read a piece. -/
  | piece (content : List UInt8)
  /-- The pump could not read on. -/
  | pumpFailed (reason : String)

/-- What a worker does once its rows are delivered. -/
inductive Next where
  | poll
  | await
  | finish (phase : Phase)

/-- Where a worker stands. -/
inductive Position where
  /-- The worker has not run yet. -/
  | spawned
  /-- It is about to look at the flag before a read. -/
  | polling
  /-- It is about to read. -/
  | reading
  /-- It waits for a notice or for the signal. -/
  | waiting
  /-- It is about to look at the flag before it offers a row. -/
  | checking (row : Row) (rest : List Row) (next : Next) (refused : Phase)
  /-- It waits for room in the queue or for the signal. -/
  | offering (row : Row) (rest : List Row) (next : Next) (refused : Phase)
  /-- It has decided on its terminal phase. -/
  | finishing (phase : Phase)
  /-- It has stored its terminal phase and still holds its end of the queue. -/
  | closing
  | gone

/-- The position from which a worker goes on. -/
def Next.position : Next → Position
  | poll => .polling
  | await => .waiting
  | finish phase => .finishing phase

/-- The position from which a worker delivers rows; `refused` is its phase if it cannot. -/
def Position.delivering (rows : List Row) (next : Next) (refused : Phase) : Position :=
  match rows with
  | [] => next.position
  | row :: rest => .checking row rest next refused

/-- Whether a worker has stopped listening to notices. -/
def Position.hasLeft : Position → Bool
  | finishing _ => true
  | closing => true
  | gone => true
  | _ => false

/-- Where the pump stands. -/
inductive Pump where
  | reading
  | holding (notice : Notice)
  | gone

/-- The answer to a request for a row. -/
inductive Answer where
  | row (row : Row)
  /-- The stream is over or cancelled. -/
  | finished
  | timeout

/-- Where the consumer stands; `timed` requests give up after a while. -/
inductive Consumer where
  | idle
  /-- A request is about to look at the flag. -/
  | entered (timed : Bool)
  /-- A request waits for a row, for the signal or for its time to be up. -/
  | selecting (timed : Bool)
  /-- A request holds its answer and is about to look at the flag again. -/
  | holding (answer : Answer)
  /-- The consumer has gone away. -/
  | dropped

/-- The joint state of all parties of a stream. -/
structure Pipeline where
  mode : Mode
  /-- The number of rows that the queue holds, at least one. -/
  capacity : Nat
  /-- The number of bytes that a read asks for, at least one. -/
  chunk : Nat
  scope : Scope
  /-- The calls that cancel the scope, in the order of their beginning. -/
  calls : List CancelCall
  /-- The phase that the worker has stored last. -/
  phase : Phase
  position : Position
  buffer : LineBuffer
  /-- What the worker, or the pump for it, has still to read. -/
  source : Source
  /-- The notices that the worker has not taken yet. -/
  notices : List Notice
  /-- Whether no further notice can come. -/
  noticesClosed : Bool
  pump : Pump
  /-- The rows between worker and consumer. -/
  queue : List Row
  /-- Whether the worker has closed the queue. -/
  queueClosed : Bool
  consumer : Consumer

/-- The ready part of a wait that a party takes. -/
inductive Arm where
  | channel
  | signal
  | timeout
deriving DecidableEq

/-- A step of one of the parties. -/
inductive Action where
  | work (arm : Arm)
  | pump
  /-- The notifier calls back. -/
  | notify (notice : Notice)
  /-- The notifier stops for good. -/
  | endNotices
  /-- The source gets more to give. -/
  | grow (supply : Supply)
  /-- The source gets its end. -/
  | closeSource
  /-- The consumer begins a request. -/
  | request (timed : Bool)
  /-- The consumer takes the next step of its request. -/
  | consume (arm : Arm)
  /-- The consumer goes away. -/
  | drop
  /-- A call that cancels the scope begins. -/
  | cancel
  /-- A call that cancels the scope takes its next step. -/
  | advanceCancel (index : Nat)

/-- What a step shows to the outside. -/
inductive Event where
  | enqueued (row : Row)
  | answered (answer : Answer)

namespace Pipeline

/-- The greatest number of notices about a file that wait for the worker. -/
def fileNoticeLimit : Nat :=
  64

/-- The number of pieces that wait for the worker. -/
def pieceLimit : Nat :=
  1

/-- Take a piece of the source into the line buffer and set out to deliver its rows. -/
def takePiece (pipeline : Pipeline) (content : List UInt8) (next : Next) : Pipeline :=
  let (buffer, lines) := pipeline.buffer.push content
  { pipeline with
    buffer := buffer
    position := .delivering (pipeline.mode.rows lines) next .cancelled }

/-- The source has ended: set out to deliver the row of an unfinished last line. -/
def takeEnd (pipeline : Pipeline) : Pipeline :=
  let (buffer, line?) := pipeline.buffer.finish
  { pipeline with
    buffer := buffer
    position := .delivering (pipeline.mode.rows line?.toList) (.finish .eof) .cancelled }

/-- The source has failed: set out to deliver a failed row. -/
def takeFailure (pipeline : Pipeline) (reason : String) : Pipeline :=
  { pipeline with
    position := .delivering [.failed (.read reason)] (.finish .error) .error }

/-- The worker reads its source. -/
def readSource (pipeline : Pipeline) : Option Pipeline :=
  match pipeline.source.read pipeline.chunk with
  | none => none
  | some (result, source) =>
      let pipeline := { pipeline with source := source }
      match result, pipeline.mode with
      | .bytes content, _ => some (pipeline.takePiece content .poll)
      | .interrupted, _ => some { pipeline with position := .polling }
      | .failed reason, _ => some (pipeline.takeFailure reason)
      | .ended, .bounded _ => some pipeline.takeEnd
      | .ended, _ => some { pipeline with position := .waiting }

/-- The worker has taken a notice. -/
def heed (pipeline : Pipeline) : Notice → Pipeline
  | .changed => { pipeline with position := .polling }
  | .other => { pipeline with position := .waiting }
  | .notifierFailed reason =>
      { pipeline with
        position := .delivering [.failed (.watch reason)] .await .cancelled }
  | .piece content => pipeline.takePiece content .await
  | .pumpFailed reason => pipeline.takeFailure reason

/-- The worker finds that no further notice can come. -/
def heedEnd (pipeline : Pipeline) : Pipeline :=
  match pipeline.mode with
  | .pipe => pipeline.takeEnd
  | _ => { pipeline with position := .finishing .error }

/-- A step of the worker. -/
def workStep (pipeline : Pipeline) (arm : Arm) : Option (Pipeline × Option Event) :=
  match pipeline.position with
  | .spawned =>
      let position :=
        match pipeline.mode with
        | .bounded _ => Position.polling
        | _ => Position.waiting
      some ({ pipeline with phase := .streaming, position := position }, none)
  | .polling =>
      let position :=
        if pipeline.scope.cancelled then Position.finishing .cancelled else .reading
      some ({ pipeline with position := position }, none)
  | .reading => pipeline.readSource.map (·, none)
  | .waiting =>
      match arm with
      | .signal =>
          if pipeline.scope.signalled then
            some ({ pipeline with position := .finishing .cancelled }, none)
          else
            none
      | .channel =>
          match pipeline.notices with
          | notice :: rest => some ({ pipeline with notices := rest }.heed notice, none)
          | [] => if pipeline.noticesClosed then some (pipeline.heedEnd, none) else none
      | .timeout => none
  | .checking row rest next refused =>
      let position :=
        if pipeline.scope.cancelled then
          Position.finishing refused
        else
          .offering row rest next refused
      some ({ pipeline with position := position }, none)
  | .offering row rest next refused =>
      match arm with
      | .signal =>
          if pipeline.scope.signalled then
            some ({ pipeline with position := .finishing refused }, none)
          else
            none
      | .channel =>
          match pipeline.consumer with
          | .dropped => some ({ pipeline with position := .finishing refused }, none)
          | _ =>
              if pipeline.queue.length < pipeline.capacity then
                some
                  ({ pipeline with
                      queue := pipeline.queue ++ [row]
                      position := .delivering rest next refused },
                    some (.enqueued row))
              else
                none
      | .timeout => none
  | .finishing phase => some ({ pipeline with phase := phase, position := .closing }, none)
  | .closing => some ({ pipeline with queueClosed := true, position := .gone }, none)
  | .gone => none

/-- The pump is done, and no further notice can come. -/
def stopPump (pipeline : Pipeline) : Pipeline :=
  { pipeline with pump := .gone, noticesClosed := true }

/-- A step of the pump. -/
def pumpStep (pipeline : Pipeline) : Option Pipeline :=
  match pipeline.pump with
  | .reading =>
      match pipeline.source.read pipeline.chunk with
      | none => none
      | some (result, source) =>
          let pipeline := { pipeline with source := source }
          match result with
          | .bytes content => some { pipeline with pump := .holding (.piece content) }
          | .interrupted => some pipeline
          | .failed reason => some { pipeline with pump := .holding (.pumpFailed reason) }
          | .ended => some pipeline.stopPump
  | .holding notice =>
      if pipeline.position.hasLeft then
        some pipeline.stopPump
      else if pipeline.notices.length < pieceLimit then
        let pipeline := { pipeline with notices := pipeline.notices ++ [notice] }
        match notice with
        | .pumpFailed _ => some pipeline.stopPump
        | _ => some { pipeline with pump := .reading }
      else
        none
  | .gone => none

/-- The notifier calls back; a notice that finds no room is dropped. -/
def notifyStep (pipeline : Pipeline) (notice : Notice) : Option Pipeline :=
  match pipeline.mode, notice with
  | .file, .changed | .file, .other | .file, .notifierFailed _ =>
      if pipeline.noticesClosed then
        none
      else if !pipeline.position.hasLeft && pipeline.notices.length < fileNoticeLimit then
        some { pipeline with notices := pipeline.notices ++ [notice] }
      else
        some pipeline
  | _, _ => none

/-- A step of the consumer's request. -/
def consumeStep (pipeline : Pipeline) (arm : Arm) : Option (Pipeline × Option Event) :=
  match pipeline.consumer with
  | .entered timed =>
      if pipeline.scope.cancelled then
        some ({ pipeline with consumer := .idle }, some (.answered .finished))
      else
        some ({ pipeline with consumer := .selecting timed }, none)
  | .selecting timed =>
      match arm with
      | .channel =>
          match pipeline.queue with
          | row :: rest =>
              some ({ pipeline with queue := rest, consumer := .holding (.row row) }, none)
          | [] =>
              if pipeline.queueClosed then
                some ({ pipeline with consumer := .holding .finished }, none)
              else
                none
      | .signal =>
          if pipeline.scope.signalled then
            some ({ pipeline with consumer := .holding .finished }, none)
          else
            none
      | .timeout =>
          if timed then
            some ({ pipeline with consumer := .holding .timeout }, none)
          else
            none
  | .holding answer =>
      let answer := if pipeline.scope.cancelled then .finished else answer
      some ({ pipeline with consumer := .idle }, some (.answered answer))
  | .idle => none
  | .dropped => none

/-- A step of one of the calls that cancel the scope. -/
def advanceCancelStep (pipeline : Pipeline) (index : Nat) : Option Pipeline := do
  let call ← pipeline.calls[index]?
  let (scope, call) ← pipeline.scope.advance call
  some { pipeline with scope := scope, calls := pipeline.calls.set index call }

/-- One atomic step of one party, and what it shows. -/
def step (pipeline : Pipeline) : Action → Option (Pipeline × Option Event)
  | .work arm => pipeline.workStep arm
  | .pump => pipeline.pumpStep.map (·, none)
  | .notify notice => (pipeline.notifyStep notice).map (·, none)
  | .endNotices =>
      match pipeline.mode with
      | .file => some ({ pipeline with noticesClosed := true }, none)
      | _ => none
  | .grow supply => some ({ pipeline with source := pipeline.source.grow supply }, none)
  | .closeSource => some ({ pipeline with source := pipeline.source.close }, none)
  | .request timed =>
      match pipeline.consumer with
      | .idle => some ({ pipeline with consumer := .entered timed }, none)
      | _ => none
  | .consume arm => pipeline.consumeStep arm
  | .drop =>
      match pipeline.consumer with
      | .idle => some ({ pipeline with consumer := .dropped }, none)
      | _ => none
  | .cancel => some ({ pipeline with calls := pipeline.calls ++ [.begun] }, none)
  | .advanceCancel index => (pipeline.advanceCancelStep index).map (·, none)

/-- A stream whose parties have not run yet. -/
def spawn
    (mode : Mode)
    (config : Config)
    (scope : Scope)
    (buffer : LineBuffer)
    (source : Source) :
    Pipeline :=
  {
    mode := mode
    capacity := max config.queueCapacity 1
    chunk := max config.readChunkBytes 1
    scope := scope
    calls := []
    phase := .init
    position := .spawned
    buffer := buffer
    source := source
    notices := []
    noticesClosed := false
    pump :=
      match mode with
      | .pipe => .reading
      | _ => .gone
    queue := []
    queueClosed := false
    consumer := .idle
  }

/--
Read the last `bytes` bytes of a content, or all of it if their number is zero.  A window
that begins inside the content skips the line that it may cut.
-/
def readTail
    (config : Config)
    (scope : Scope)
    (filter : Filter)
    (bytes : Nat)
    (content : List UInt8) :
    Pipeline :=
  let buffer := LineBuffer.withLimit maxLineBytes
  if 0 < bytes ∧ bytes < content.length then
    spawn (.bounded filter) config scope buffer.skipFirstLine
      ⟨[.bytes (content.drop (content.length - bytes))], false⟩
  else
    spawn (.bounded filter) config scope buffer ⟨[.bytes content], false⟩

/-- Read a source that opens but cannot be read. -/
def readUnreadable
    (config : Config)
    (scope : Scope)
    (filter : Filter)
    (reason : String) :
    Pipeline :=
  spawn (.bounded filter) config scope (LineBuffer.withLimit maxLineBytes)
    ⟨[.failure reason], false⟩

/-- Follow what is appended to a file from now on. -/
def watchFile (config : Config) (scope : Scope) : Pipeline :=
  spawn .file config scope (LineBuffer.withLimit maxLineBytes) ⟨[], false⟩

/-- Follow an open stream that has given nothing yet. -/
def watchPipe (config : Config) (scope : Scope) : Pipeline :=
  spawn .pipe config scope (LineBuffer.withLimit maxLineBytes) ⟨[], true⟩

end Pipeline

end LogRows.Stream
