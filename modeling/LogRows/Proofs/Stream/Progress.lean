import LogRows.Proofs.LineSplitting
import LogRows.Proofs.Stream.Delivery
import LogRows.Proofs.Stream.Reading

/-!
# A consumer that takes rows does not wait for ever

The `potential` of a stream is what it has still to do.  A byte is worth nine
steps: in the worst case it is a row of its own, which the pump reads and passes,
the worker looks at, offers and enqueues, and a request takes and hands over.
Every step of worker, pump and consumer lowers the potential until the consumer is
told that there are no more rows, so a stream that is given nothing new comes to
rest after a bounded number of steps.
-/

namespace LogRows.Stream

/-- The steps that a supply may cause. -/
def Supply.cost : Supply → Nat
  | .bytes content => 9 * content.length
  | .interruption => 2
  | .failure _ => 3

/-- The steps that the supplies of a source may cause. -/
def Source.cost (source : Source) : Nat :=
  source.supplies.foldr (fun supply cost => supply.cost + cost) 0

theorem Source.cost_grow (source : Source) (supply : Supply) :
    (source.grow supply).cost = source.cost + supply.cost := by
  rcases source with ⟨supplies, waits⟩
  simp only [cost, grow]
  induction supplies with
  | nil => exact Nat.add_comm _ _
  | cons first supplies ih =>
      simp only [List.cons_append, List.foldr_cons, ih]
      exact (Nat.add_assoc _ _ _).symm

/-- The steps that a worker may take for a notice. -/
def Notice.cost : Notice → Nat
  | .changed => 3
  | .other => 1
  | .notifierFailed _ => 7
  | .piece content => 6 * content.length + 1
  | .pumpFailed _ => 1

/-- The steps that a worker may take for some notices. -/
def Notice.costs (notices : List Notice) : Nat :=
  notices.foldr (fun notice cost => notice.cost + cost) 0

theorem Notice.costs_concat (notices : List Notice) (notice : Notice) :
    Notice.costs (notices ++ [notice]) = Notice.costs notices + notice.cost := by
  induction notices with
  | nil => exact Nat.add_comm _ _
  | cons first notices ih =>
      show first.cost + Notice.costs (notices ++ [notice]) = _
      rw [ih]
      exact (Nat.add_assoc _ _ _).symm

/-- The steps from where a worker goes on. -/
def Next.cost : Next → Nat
  | poll => 11
  | await => 9
  | finish _ => 2

/-- The steps of a worker that gets nothing new, with those of the rows it delivers. -/
def Position.cost : Position → Nat
  | .spawned => 12
  | .polling => 11
  | .reading => 10
  | .waiting => 9
  | .checking _ rest next _ => 6 * rest.length + 6 + next.cost
  | .offering _ rest next _ => 6 * rest.length + 5 + next.cost
  | .finishing _ => 2
  | .closing => 1
  | .gone => 0

/-- The steps of a pump that reads nothing new. -/
def Pump.cost : Pump → Nat
  | .reading => 1
  | .holding notice => notice.cost + 2
  | .gone => 0

/-- The steps of a consumer that finds no row in the queue. -/
def Consumer.cost : Consumer → Nat
  | .idle => 4
  | .entered _ => 3
  | .selecting _ => 2
  | .holding (.row _) => 5
  | .holding _ => 1
  | .dropped => 0

/-- The greatest number of steps that a stream takes before it is given anything new. -/
def Pipeline.potential (pipeline : Pipeline) : Nat :=
  pipeline.source.cost + Notice.costs pipeline.notices + pipeline.pump.cost +
    pipeline.position.cost + 4 * pipeline.queue.length + pipeline.consumer.cost

/-- The steps of worker and pump, and of a consumer that takes rows without a limit of time. -/
def Action.drains : Action → Bool
  | .work _ => true
  | .pump => true
  | .consume _ => true
  | .request timed => !timed
  | _ => false

/-- Whether a consumer is there and has not set itself a limit of time. -/
def Consumer.isPatient : Consumer → Bool
  | .idle => true
  | .entered timed => !timed
  | .selecting timed => !timed
  | .holding .timeout => false
  | .holding _ => true
  | .dropped => false

/-- What a read takes out of the cost of a source. -/
def ReadResult.cost : ReadResult → Nat
  | .bytes content => 9 * content.length
  | .ended => 0
  | .interrupted => 2
  | .failed _ => 3

theorem Source.cost_of_read
    {source after : Source}
    {chunk : Nat}
    {result : ReadResult}
    (read : source.read chunk = some (result, after)) :
    result.cost + after.cost ≤ source.cost := by
  have taken := (supplies_of_read read).1
  rcases source with ⟨supplies, waits⟩
  rcases after with ⟨rest, _⟩
  clear read
  simp only [cost] at taken ⊢
  induction supplies with
  | nil =>
      cases waits with
      | true => cases taken
      | false =>
          cases taken
          exact Nat.le_refl 0
  | cons supply supplies ih =>
      cases supply with
      | bytes content =>
          cases content with
          | nil => simpa [Supply.cost] using ih taken
          | cons byte content =>
              cases taken
              have whole := congrArg List.length (List.take_append_drop chunk (byte :: content))
              rw [List.length_append] at whole
              unfold putBack
              split
              case isTrue all =>
                simp only [List.isEmpty_iff] at all
                rw [all] at whole
                simp only [ReadResult.cost, List.foldr_cons, Supply.cost]
                simp only [List.length_nil] at whole
                omega
              case isFalse =>
                simp only [ReadResult.cost, List.foldr_cons, Supply.cost]
                omega
      | interruption | failure =>
          cases taken
          exact Nat.le_refl _

@[simp]
theorem Position.cost_delivering
    (rows : List Row)
    (next : Next)
    (refused : Phase) :
    (Position.delivering rows next refused).cost = 6 * rows.length + next.cost := by
  cases rows with
  | nil => cases next <;> simp [delivering, Next.position, cost, Next.cost]
  | cons row rest =>
      simp only [delivering, cost, List.length_cons]
      omega

theorem Mode.length_rows_le (mode : Mode) (lines : List Line) :
    (mode.rows lines).length ≤ lines.length :=
  Nat.le_trans (List.length_filter_le _ _) (List.length_filterMap_le _ _)

/-- The greatest number of rows of an intake. -/
def Intake.size : Intake → Nat
  | .piece content => content.length
  | _ => 1

theorem Intake.length_rows_le
    (mode : Mode)
    (buffer : LineBuffer)
    (intake : Intake) :
    (intake.rows mode buffer).length ≤ intake.size := by
  cases intake with
  | piece content =>
      exact Nat.le_trans (mode.length_rows_le _) (LineBuffer.length_push_le buffer content)
  | ended =>
      refine Nat.le_trans (mode.length_rows_le _) ?_
      cases buffer.finish.2 <;> simp [size]
  | failed reason => exact Nat.le_refl 1
  | notifierFailed reason => exact Nat.le_refl 1

namespace Pipeline

section

variable
    {now after : Pipeline}
    {action : Action}
    {intake : Option Intake}
    {event : Option Event}

theorem potential_takeIn_le
    (now : Pipeline)
    (again : Next)
    (taken : Intake) :
    (now.takeIn again taken).potential + now.position.cost ≤
      now.potential + 6 * taken.size + (taken.next again).cost := by
  have rows := taken.length_rows_le now.mode now.buffer
  simp only [potential, takeIn, Position.cost_delivering]
  omega

/-- A read is worth more than the rows that the worker makes of it. -/
theorem size_lt_of_read
    {mode : Mode}
    {result : ReadResult}
    {taken : Intake}
    {waits : Bool}
    {supplies rest : List Supply}
    (explained : result.Explains waits supplies rest)
    (takes : Intake.ofRead mode result = some taken) :
    6 * taken.size + (taken.next .poll).cost < result.cost + Position.reading.cost := by
  cases result with
  | bytes content =>
      cases takes
      have some := List.length_pos_iff.mpr explained.1
      simp only [Intake.size, Intake.next, Next.cost, ReadResult.cost, Position.cost]
      omega
  | ended =>
      cases mode with
      | bounded filter =>
          cases takes
          decide
      | file | pipe => cases takes
  | interrupted => cases takes
  | failed reason =>
      cases takes
      simp only [Intake.size, Intake.next, Next.cost, ReadResult.cost, Position.cost]
      decide

/-- A notice is worth more than the rows that the worker makes of it. -/
theorem size_lt_of_notice
    {notice : Notice}
    {taken : Intake}
    (takes : Intake.ofNotice notice = some taken) :
    6 * taken.size + (taken.next .await).cost < notice.cost + Position.waiting.cost := by
  cases notice with
  | changed | other => cases takes
  | notifierFailed reason | piece content | pumpFailed reason =>
      cases takes
      simp only [Intake.size, Intake.next, Next.cost, Notice.cost, Position.cost]
      omega

/-- A worker that only moves on to a cheaper position lowers the potential. -/
theorem potential_lt_of_position
    {position : Position}
    {phase : Phase}
    {closed : Bool}
    (lower : position.cost < now.position.cost) :
    { now with position := position, phase := phase, queueClosed := closed }.potential <
      now.potential := by
  simp only [potential]
  omega

theorem WorkMove.potential_lt
    (move : WorkMove now intake event after)
    (positive : 0 < now.chunk) :
    after.potential < now.potential := by
  cases move with
  | begins spawned =>
      apply potential_lt_of_position
      rw [spawned]
      cases now.mode with
      | bounded filter =>
          show 11 < 12
          decide
      | file | pipe =>
          show 9 < 12
          decide
  | looks polling uncancelled =>
      apply potential_lt_of_position
      rw [polling]
      decide
  | quits idle =>
      apply potential_lt_of_position
      rcases idle with ⟨polling, _⟩ | ⟨waiting, _⟩
      · rw [polling]
        decide
      · rw [waiting]
        decide
  | @reads result source intake reading read takes =>
      have worth := size_lt_of_read (Source.explains_of_read positive read) takes
      have cost := Source.cost_of_read read
      have bound := potential_takeIn_le { now with source := source } .poll intake
      rw [← reading] at worth
      simp only [potential] at bound ⊢
      omega
  | retries reading read =>
      have cost := Source.cost_of_read read
      have lower : Position.polling.cost < 2 + now.position.cost := by
        rw [reading]
        decide
      simp only [potential, ReadResult.cost] at cost ⊢
      omega
  | rests reading read unbounded =>
      have cost := Source.cost_of_read read
      have lower : Position.waiting.cost < now.position.cost := by
        rw [reading]
        decide
      simp only [potential] at cost ⊢
      omega
  | @hears notice later intake waiting noticed takes =>
      have worth := size_lt_of_notice takes
      have bound := potential_takeIn_le { now with notices := later } .await intake
      have cost : Notice.costs now.notices = notice.cost + Notice.costs later := by
        rw [noticed]
        rfl
      rw [← waiting] at worth
      simp only [potential] at bound ⊢
      omega
  | @wakes later waiting noticed =>
      have cost : Notice.costs now.notices = 3 + Notice.costs later := by
        rw [noticed]
        rfl
      have lower : Position.polling.cost < 3 + now.position.cost := by
        rw [waiting]
        decide
      simp only [potential]
      omega
  | @ignores later waiting noticed =>
      have cost : Notice.costs now.notices = 1 + Notice.costs later := by
        rw [noticed]
        rfl
      simp only [potential]
      omega
  | ends waiting silent closed piped =>
      have bound := potential_takeIn_le now .await .ended
      have before : 8 < now.position.cost := by
        rw [waiting]
        decide
      simp only [Intake.size, Intake.next, Next.cost] at bound
      omega
  | deserted waiting silent closed unpiped =>
      apply potential_lt_of_position
      rw [waiting]
      decide
  | offers checking uncancelled =>
      apply potential_lt_of_position
      rw [checking, Position.cost, Position.cost]
      omega
  | @refuses row rest next refused delivering =>
      apply potential_lt_of_position
      show 2 < _
      rcases delivering with ⟨checking, _⟩ | ⟨offering, _⟩
      · rw [checking, Position.cost]
        omega
      · rw [offering, Position.cost]
        omega
  | @enqueues row rest next refused offering present room =>
      have before : now.position.cost = 6 * rest.length + 5 + next.cost := by
        rw [offering]
        rfl
      simp only [potential, Position.cost_delivering, List.length_append, List.length_cons,
        List.length_nil]
      omega
  | stores finishing =>
      apply potential_lt_of_position
      rw [finishing]
      exact Nat.one_lt_two
  | closes closing =>
      apply potential_lt_of_position
      rw [closing]
      decide

/-- Only a request that sets itself a limit of time can run out of it. -/
theorem ConsumeMove.potential_lt
    (move : ConsumeMove now event after)
    (patient : now.consumer.isPatient = true)
    (untold : event ≠ some (.answered .finished)) :
    after.potential < now.potential := by
  cases move with
  | turnsBack entered cancelled => exact absurd rfl untold
  | enters entered uncancelled =>
      simp only [potential, entered, Consumer.cost]
      omega
  | takes selecting queued =>
      simp only [potential, selecting, queued, Consumer.cost, List.length_cons]
      omega
  | gives selecting ended =>
      simp only [potential, selecting, Consumer.cost]
      omega
  | tires selecting =>
      rw [selecting] at patient
      cases patient
  | @answers answer holding =>
      cases answer with
      | row row =>
          simp only [potential, holding, Consumer.cost]
          omega
      | finished => exact absurd (by simp) untold
      | timeout =>
          rw [holding] at patient
          cases patient

theorem PumpMove.potential_lt
    (move : PumpMove now after)
    (positive : 0 < now.chunk) :
    after.potential < now.potential := by
  cases move with
  | @reads result source notice reading read gives =>
      have cost := Source.cost_of_read read
      have explained := Source.explains_of_read positive read
      have worth : notice.cost + 2 < result.cost + now.pump.cost := by
        rw [reading]
        rcases gives with ⟨content, rfl, rfl⟩ | ⟨reason, rfl, rfl⟩
        · have some := List.length_pos_iff.mpr explained.1
          simp only [Notice.cost, ReadResult.cost, Pump.cost]
          omega
        · show 1 + 2 < 3 + 1
          decide
      have held : (Pump.holding notice).cost = notice.cost + 2 := rfl
      simp only [potential, held]
      omega
  | retries reading read =>
      have cost := Source.cost_of_read read
      simp only [potential, ReadResult.cost] at cost ⊢
      omega
  | ends reading read =>
      have cost := Source.cost_of_read read
      simp only [potential, stopPump, reading, Pump.cost]
      omega
  | leaves holding left =>
      simp only [potential, stopPump, holding, Pump.cost]
      omega
  | @passes notice holding present room whole =>
      have cost := Notice.costs_concat now.notices notice
      simp only [potential, holding, Pump.cost, cost]
      omega
  | @passesFailure reason holding present room =>
      have cost := Notice.costs_concat now.notices (.pumpFailed reason)
      simp only [potential, stopPump, holding, Pump.cost, cost]
      omega

theorem Move.potential_lt
    (move : Move now action intake event after)
    (drains : action.drains = true)
    (positive : 0 < now.chunk)
    (patient : now.consumer.isPatient = true)
    (untold : event ≠ some (.answered .finished)) :
    after.potential < now.potential := by
  cases move with
  | work move => exact move.potential_lt positive
  | consume move => exact move.potential_lt patient untold
  | pump move => exact move.potential_lt positive
  | request idle =>
      simp only [potential, idle, Consumer.cost]
      omega
  | _ => cases drains

end

end Pipeline

end LogRows.Stream
