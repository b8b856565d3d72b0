import LogRows.Proofs.LineSplitting
import LogRows.Proofs.Stream.Move

/-!
# Runs and their histories

A run of a stream is any sequence of steps of its parties, in any order.  Its
`History` keeps every step that was taken, so that statements can speak of what
has happened: which rows were put into the queue, which answers the consumer got
and what the worker took in.

`Mode.wanted` says which rows the worker sets out to deliver for what it takes
in.  It mentions neither queue nor consumer, and does not depend on how the bytes
are cut: they are the rows of the lines of all bytes together.
-/

namespace LogRows.Stream

/-- The row that an event puts into the queue. -/
def Event.enqueued? : Event → Option Row
  | .enqueued row => some row
  | .answered _ => none

/-- The answer that an event gives to the consumer. -/
def Event.answer? : Event → Option Answer
  | .enqueued _ => none
  | .answered answer => some answer

/-- The row of an answer. -/
def Answer.row? : Answer → Option Row
  | .row given => some given
  | .finished => none
  | .timeout => none

/-- A step that a stream has taken. -/
structure Transition where
  before : Pipeline
  action : Action
  event : Option Event
  after : Pipeline
  taken : before.step action = some (after, event)

namespace Transition

/-- What the worker takes in with a step. -/
def intake? (step : Transition) : Option Intake :=
  step.before.intake? step.action

theorem move (step : Transition) :
    Pipeline.Move step.before step.action step.intake? step.event step.after :=
  .of_step step.taken

end Transition

/-- The steps that a stream has taken, the earliest first. -/
abbrev History :=
  List Transition

namespace History

/-- What the worker has taken in. -/
def intakes (history : History) : List Intake :=
  history.filterMap Transition.intake?

/-- The rows that have been put into the queue. -/
def enqueued (history : History) : List Row :=
  history.filterMap fun step => step.event.bind Event.enqueued?

/-- The answers that the consumer has got. -/
def answers (history : History) : List Answer :=
  history.filterMap fun step => step.event.bind Event.answer?

/-- The rows that the consumer has got. -/
def given (history : History) : List Row :=
  history.answers.filterMap Answer.row?

/-- The actions of the steps. -/
def actions (history : History) : List Action :=
  history.map Transition.action

@[simp]
theorem intakes_concat (history : History) (step : Transition) :
    intakes (history ++ [step]) = history.intakes ++ step.intake?.toList := by
  simp [intakes, List.filterMap_cons]
  cases step.intake? <;> rfl

@[simp]
theorem enqueued_concat (history : History) (step : Transition) :
    enqueued (history ++ [step]) =
      history.enqueued ++ (step.event.bind Event.enqueued?).toList := by
  simp [enqueued, List.filterMap_cons]
  cases step.event.bind Event.enqueued? <;> rfl

@[simp]
theorem answers_concat (history : History) (step : Transition) :
    answers (history ++ [step]) =
      history.answers ++ (step.event.bind Event.answer?).toList := by
  simp [answers, List.filterMap_cons]
  cases step.event.bind Event.answer? <;> rfl

@[simp]
theorem given_concat (history : History) (step : Transition) :
    given (history ++ [step]) =
      history.given ++
        ((step.event.bind Event.answer?).toList.filterMap Answer.row?) := by
  rw [given, answers_concat, List.filterMap_append, given]

@[simp]
theorem actions_concat (history : History) (step : Transition) :
    actions (history ++ [step]) = history.actions ++ [step.action] := by
  simp [actions]

end History

/-- A stream that has taken some steps since it stood at `start`. -/
inductive Pipeline.Run (start : Pipeline) : History → Pipeline → Prop where
  | rest : Run start [] start
  | step
      {history : History}
      (step : Transition)
      (earlier : Run start history step.before) :
      Run start (history ++ [step]) step.after

theorem Pipeline.Run.append
    {start middle later : Pipeline}
    {history more : History}
    (run : Run start history middle)
    (further : Run middle more later) :
    Run start (history ++ more) later := by
  induction further with
  | rest =>
      rw [List.append_nil]
      exact run
  | step step earlier ih =>
      rw [← List.append_assoc]
      exact ih.step step

/-- The line buffer of a worker that has taken some things in. -/
def Intake.bufferAfter (buffer : LineBuffer) (intakes : List Intake) : LineBuffer :=
  intakes.foldl Intake.buffer buffer

/-- The rows that a worker sets out to deliver for what it takes in. -/
def Mode.wanted (mode : Mode) (buffer : LineBuffer) : List Intake → List Row
  | [] => []
  | intake :: rest => intake.rows mode buffer ++ mode.wanted (intake.buffer buffer) rest

@[simp]
theorem Intake.bufferAfter_concat
    (buffer : LineBuffer)
    (intakes : List Intake)
    (intake : Intake) :
    bufferAfter buffer (intakes ++ [intake]) =
      intake.buffer (bufferAfter buffer intakes) := by
  simp [bufferAfter]

@[simp]
theorem Mode.wanted_concat
    (mode : Mode)
    (buffer : LineBuffer)
    (intakes : List Intake)
    (intake : Intake) :
    mode.wanted buffer (intakes ++ [intake]) =
      mode.wanted buffer intakes ++
        intake.rows mode (Intake.bufferAfter buffer intakes) := by
  induction intakes generalizing buffer with
  | nil => simp [wanted, Intake.bufferAfter]
  | cons first rest ih => simp [wanted, ih, Intake.bufferAfter]

theorem Mode.rows_append (mode : Mode) (lines later : List Line) :
    mode.rows (lines ++ later) = mode.rows lines ++ mode.rows later := by
  simp [rows]

/-- A worker that takes in pieces wants to deliver the rows of their lines. -/
theorem Mode.wanted_pieces
    (mode : Mode)
    (buffer : LineBuffer)
    (pieces : List (List UInt8)) :
    mode.wanted buffer (pieces.map .piece) = mode.rows (buffer.pushAll pieces).2 ∧
      Intake.bufferAfter buffer (pieces.map .piece) = (buffer.pushAll pieces).1 := by
  induction pieces generalizing buffer with
  | nil => exact ⟨rfl, rfl⟩
  | cons piece rest ih =>
      rcases ih (buffer.push piece).1 with ⟨rows, after⟩
      refine ⟨?_, after⟩
      show mode.rows (buffer.push piece).2 ++ mode.wanted (buffer.push piece).1 _ = _
      rw [rows, ← mode.rows_append]
      rfl

/-- Of bytes that end here, a worker wants to deliver all rows that are ahead of its buffer. -/
theorem Mode.wanted_eq_ahead
    (mode : Mode)
    {buffer : LineBuffer}
    (formed : buffer.WellFormed)
    (pieces : List (List UInt8)) :
    mode.wanted buffer (pieces.map .piece ++ [.ended]) =
      mode.rows (buffer.ahead pieces.flatten) := by
  rcases mode.wanted_pieces buffer pieces with ⟨rows, after⟩
  rw [Mode.wanted_concat, rows, after, LineBuffer.ahead_flatten formed, mode.rows_append,
    ← LineBuffer.finish_eq_ahead (formed.pushAll pieces)]
  rfl

/-- Of bytes that do not end here, it holds back the row of the line that nothing has ended. -/
theorem Mode.wanted_unended
    (mode : Mode)
    (limit : Nat)
    (pieces : List (List UInt8)) :
    mode.rows (Line.ofBytes limit pieces.flatten) =
      mode.wanted (.withLimit limit) (pieces.map .piece) ++
        mode.rows (Line.unended? limit pieces.flatten).toList := by
  rcases LineBuffer.pushAll_withLimit limit pieces with ⟨found, last⟩
  rw [(mode.wanted_pieces _ pieces).1, ← found, ← last, mode.rows_append]

/-- What a worker wants to deliver of the first bytes are the first rows of all bytes. -/
theorem Mode.wanted_isPrefix
    (mode : Mode)
    {buffer : LineBuffer}
    (formed : buffer.WellFormed)
    (pieces : List (List UInt8))
    (later : List UInt8) :
    mode.wanted buffer (pieces.map .piece) <+:
      mode.rows (buffer.ahead (pieces.flatten ++ later)) := by
  rw [(mode.wanted_pieces buffer pieces).1, LineBuffer.ahead_flatten_append formed,
    mode.rows_append]
  exact List.prefix_append _ _

end LogRows.Stream
