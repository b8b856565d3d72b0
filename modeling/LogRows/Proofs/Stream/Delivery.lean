import LogRows.Proofs.Stream.Books

/-!
# Delivery

The books hold along every run of a new stream.  Hence no row is lost, doubled
or reordered between worker and consumer, whatever the order in which the parties
take their steps and whatever they choose when several arms of a wait are ready.

A stream starts here with a fresh scope.  One that is cancelled before it starts
is no exception: calls that cancel the scope may come before all other steps.
-/

namespace LogRows.Stream

namespace Pipeline

section Runs

variable
    {start now after : Pipeline}
    {action : Action}
    {intake : Option Intake}
    {event : Option Event}
    {history : History}

theorem WorkerBooks.spawn
    (mode : Mode)
    (config : Config)
    (scope : Scope)
    (buffer : LineBuffer)
    (source : Source) :
    WorkerBooks (spawn mode config scope buffer source) [] []
      (spawn mode config scope buffer source) :=
  .of_exact rfl rfl rfl

theorem QueueBooks.spawn
    (mode : Mode)
    (config : Config)
    (scope : Scope)
    (buffer : LineBuffer)
    (source : Source) :
    QueueBooks [] [] (spawn mode config scope buffer source) where
  bounded := Nat.zero_le _
  inOrder := List.prefix_rfl
  exact _ := rfl
  closed := nofun
  finished := nofun

/-- What every state of a run inherits from the start of the run. -/
structure Books (start : Pipeline) (history : History) (now : Pipeline) : Prop where
  scope : ScopeSound now
  worker : WorkerBooks start history.intakes history.enqueued now
  queue : QueueBooks history.enqueued history.given now

theorem Run.books
    (run : Run start history now)
    (first : Books start [] start) :
    Books start history now := by
  induction run with
  | rest => exact first
  | step step earlier ih =>
      refine ⟨ih.scope.move step.move, ?_, ?_⟩
      · rw [History.intakes_concat, History.enqueued_concat]
        exact ih.worker.move ih.scope step.move
      · rw [History.given_concat, History.enqueued_concat]
        exact ih.queue.move ih.scope step.move

theorem Run.capacity_eq (run : Run start history now) :
    now.capacity = start.capacity := by
  induction run with
  | rest => rfl
  | step step earlier ih => exact step.move.capacity_eq.trans ih

theorem Run.mode_eq (run : Run start history now) :
    now.mode = start.mode := by
  induction run with
  | rest => rfl
  | step step earlier ih => exact step.move.mode_eq.trans ih

/-- A worker that is gone takes nothing in. -/
theorem Move.of_gone
    (move : Move now action intake event after)
    (gone : now.position = .gone) :
    after.position = .gone ∧ intake = none := by
  rcases move.works_or_keeps with working | ⟨_, _, position, _, noIntake, _⟩
  · cases working <;> simp_all
  · exact ⟨position.trans gone, noIntake⟩

theorem Run.of_gone
    (run : Run start history now)
    (gone : start.position = .gone) :
    now.position = .gone ∧ history.intakes = [] := by
  induction run with
  | rest => exact ⟨gone, rfl⟩
  | step step earlier ih =>
      rcases step.move.of_gone ih.1 with ⟨still, noIntake⟩
      rw [History.intakes_concat, ih.2, noIntake]
      exact ⟨still, rfl⟩

/--
What holds of the queue while the consumer makes its first request since the
start and, if the request was not answered with a row, until it makes the next.
-/
structure FirstRequest
    (start : Pipeline)
    (enqueued : List Row)
    (answers : List Answer)
    (now : Pipeline) :
    Prop where
  unanswered :
    answers = [] →
      now.consumer ≠ .idle ∧ now.consumer ≠ .dropped ∧
        (now.consumer.held = [] → now.queue = start.queue ++ enqueued)
  timedOut :
    answers = [.timeout] → now.consumer = .idle → now.queue = start.queue ++ enqueued

theorem FirstRequest.of_answer
    {enqueued : List Row}
    {answers : List Answer}
    {answer : Answer}
    (untaken : answers = [] → answer = .timeout → now.queue = start.queue ++ enqueued) :
    FirstRequest start enqueued (answers ++ [answer]) now where
  unanswered impossible := absurd impossible (by simp)
  timedOut once _ := by
    rcases List.append_inj' (once.trans (List.nil_append _).symm) rfl with ⟨none, timedOut⟩
    exact untaken none (List.singleton_inj.mp timedOut)

theorem FirstRequest.of_busy
    {enqueued : List Row}
    {answers : List Answer}
    (busy : now.consumer ≠ .idle)
    (present : now.consumer ≠ .dropped)
    (untaken :
      answers = [] → now.consumer.held = [] → now.queue = start.queue ++ enqueued) :
    FirstRequest start enqueued answers now where
  unanswered none := ⟨busy, present, untaken none⟩
  timedOut _ idle := absurd idle busy

theorem FirstRequest.consume
    {enqueued : List Row}
    {answers : List Answer}
    (request : FirstRequest start enqueued answers now)
    (move : ConsumeMove now event after) :
    FirstRequest start enqueued (answers ++ (event.bind Event.answer?).toList) after := by
  have unanswered := request.unanswered
  cases move <;>
    simp only [Option.toList_none, Option.toList_some, Option.bind_none, List.append_nil,
      Option.bind_some, Event.answer?]
  case turnsBack timed entered cancelled =>
    apply FirstRequest.of_answer
    intro _ impossible
    cases impossible
  case enters timed entered uncancelled =>
    rw [entered] at unanswered
    apply FirstRequest.of_busy
    · simp
    · simp
    · intro none
      exact (unanswered none).2.2
  case takes timed row later selecting queued =>
    apply FirstRequest.of_busy
    · simp
    · simp
    · intro _ impossible
      cases impossible
  case gives timed selecting ended =>
    rw [selecting] at unanswered
    apply FirstRequest.of_busy
    · simp
    · simp
    · intro none
      exact (unanswered none).2.2
  case tires selecting =>
    rw [selecting] at unanswered
    apply FirstRequest.of_busy
    · simp
    · simp
    · intro none
      exact (unanswered none).2.2
  case answers answer holding =>
    rw [holding] at unanswered
    apply FirstRequest.of_answer
    intro none timedOut
    split at timedOut
    · cases timedOut
    · cases timedOut
      exact (unanswered none).2.2 rfl

theorem FirstRequest.move
    {enqueued : List Row}
    {answers : List Answer}
    (request : FirstRequest start enqueued answers now)
    (move : Move now action intake event after) :
    FirstRequest start (enqueued ++ (event.bind Event.enqueued?).toList)
      (answers ++ (event.bind Event.answer?).toList) after := by
  rcases move.hands_or_keeps with working | consuming | ⟨queue, _, _, rfl, consumer⟩
  · rw [working.answer_eq, Option.toList_none, List.append_nil]
    constructor
    · rw [working.consumer_eq, working.queue_eq]
      intro none
      rcases request.unanswered none with ⟨busy, present, untaken⟩
      refine ⟨busy, present, ?_⟩
      intro empty
      rw [untaken empty, List.append_assoc]
    · rw [working.consumer_eq, working.queue_eq]
      intro once idle
      rw [request.timedOut once idle, List.append_assoc]
  · rw [consuming.enqueued_eq, Option.toList_none, List.append_nil]
    exact request.consume consuming
  · simp only [Option.toList_none, Option.bind_none, List.append_nil]
    constructor
    · intro none
      rcases request.unanswered none with ⟨busy, present, untaken⟩
      rcases consumer with same | ⟨idle, _⟩
      · rw [same, queue]
        exact ⟨busy, present, untaken⟩
      · exact absurd idle busy
    · intro once idle
      rw [queue]
      apply request.timedOut once
      rcases consumer with same | ⟨before, _⟩
      · rw [← same]
        exact idle
      · exact before

/-- A request that is answered with a timeout takes no row out of the queue. -/
theorem Run.queue_of_timeout
    {timed : Bool}
    (run : Run start history now)
    (entered : start.consumer = .entered timed)
    (timedOut : history.answers = [.timeout])
    (idle : now.consumer = .idle) :
    now.queue = start.queue ++ history.enqueued := by
  have request : FirstRequest start history.enqueued history.answers now := by
    clear timedOut idle
    induction run with
    | rest =>
        apply FirstRequest.of_busy
        · rw [entered]
          simp
        · rw [entered]
          simp
        · intro _ _
          exact (List.append_nil _).symm
    | step step earlier ih =>
        rw [History.enqueued_concat, History.answers_concat]
        exact ih.move step.move
  exact request.timedOut timedOut idle

/-- A consumer that is told truly that there are no more rows has got all of them. -/
theorem Books.complete
    (books : Books start history now)
    (holding : now.consumer = .holding .finished)
    (uncancelled : now.scope.cancelled = false) :
    now.position = .gone ∧
      history.given = start.mode.wanted start.buffer history.intakes := by
  rcases books.queue.finished holding uncancelled with ⟨empty, closed⟩
  have gone := books.queue.closed closed
  have handed := books.queue.exact uncancelled
  have enqueued := books.worker.exact (.inr ⟨uncancelled, by rw [holding]; nofun⟩)
  rw [empty, holding] at handed
  rw [gone] at enqueued
  simp only [Consumer.held, Position.undelivered, List.append_nil] at handed enqueued
  exact ⟨gone, handed.trans enqueued⟩

/-- The answer that there are no more rows, given in a scope that is not cancelled. -/
theorem Move.of_finished
    (move : Move now action intake event after)
    (finished : event = some (.answered .finished))
    (uncancelled : after.scope.cancelled = false) :
    now.consumer = .holding .finished ∧ now.scope.cancelled = false ∧
      after = { now with consumer := .idle } := by
  cases move with
  | work move => cases move <;> cases finished
  | consume move =>
      cases move with
      | turnsBack entered cancelled => cases cancelled.symm.trans uncancelled
      | @answers answer holding =>
          have before : now.scope.cancelled = false := uncancelled
          rw [before] at finished
          cases finished
          exact ⟨holding, before, rfl⟩
      | _ => cases finished
  | _ => cases finished

/--
No row is lost, doubled or reordered between worker and consumer.

In every state of every run, the consumer has got a prefix of the rows that the
worker sets out to deliver.  Until the scope is cancelled, those followed by the
row that a request holds and by the queue are the rows put into the queue so far.
The queue does not exceed its capacity, and a request that times out takes
nothing out of it.  An answer that there are no more rows, given in a scope that
is not cancelled, comes when the consumer has got all of them, and the worker
takes nothing in from then on.
-/
theorem Run.delivery
    {mode : Mode}
    {config : Config}
    {buffer : LineBuffer}
    {source : Source}
    (run : Run (spawn mode config .fresh buffer source) history now) :
    history.given <+: mode.wanted buffer history.intakes ∧
      (now.scope.cancelled = false →
        history.given ++ now.consumer.held ++ now.queue = history.enqueued) ∧
      now.queue.length ≤ max config.queueCapacity 1 ∧
      (∀ more later, now.consumer = .entered true →
        Run now more later →
        more.answers = [.timeout] →
        later.consumer = .idle →
        later.queue = now.queue ++ more.enqueued) ∧
      ∀ step : Transition, step.before = now →
        step.event = some (.answered .finished) →
        step.after.scope.cancelled = false →
        history.given = mode.wanted buffer history.intakes ∧
          ∀ more later, Run now more later → more.intakes = [] := by
  have books := run.books
    ⟨⟨nofun, nofun⟩, .spawn mode config .fresh buffer source,
      .spawn mode config .fresh buffer source⟩
  refine ⟨?_, books.queue.exact, ?_, ?_, ?_⟩
  · have wanted := (List.prefix_append _ _).trans books.worker.inOrder
    exact books.queue.inOrder.trans wanted
  · have bounded := books.queue.bounded
    rw [run.capacity_eq] at bounded
    exact bounded
  · intro more later entered further timedOut idle
    exact further.queue_of_timeout entered timedOut idle
  · rintro step rfl event uncancelled
    rcases step.move.of_finished event uncancelled with ⟨holding, uncancelled, _⟩
    rcases books.complete holding uncancelled with ⟨gone, complete⟩
    exact ⟨complete, fun more later further => (further.of_gone gone).2⟩

end Runs

/-- The failed row of a source that cannot be read, on its way to a consumer that takes two. -/
theorem Run.delivery_of_unreadable :
    ∃ (history : History) (now : Pipeline) (step : Transition),
      Run (readUnreadable .default .fresh .all "gone") history now ∧
        step.before = now ∧
        step.event = some (.answered .finished) ∧
        history.given = [.failed (.read "gone")] ∧
        (Mode.bounded .all).wanted now.buffer history.intakes = [.failed (.read "gone")] ∧
        now.queue.length ≤ 16 := by
  have fresh : Run (readUnreadable .default .fresh .all "gone") [] _ := .rest
  have polling := fresh.step ⟨_, .work .channel, _, _, rfl⟩
  have reading := polling.step ⟨_, .work .channel, _, _, rfl⟩
  have checking := reading.step ⟨_, .work .channel, _, _, rfl⟩
  have offering := checking.step ⟨_, .work .channel, _, _, rfl⟩
  have finishing := offering.step ⟨_, .work .channel, _, _, rfl⟩
  have entered := finishing.step ⟨_, .request false, _, _, rfl⟩
  have selecting := entered.step ⟨_, .consume .channel, _, _, rfl⟩
  have holding := selecting.step ⟨_, .consume .channel, _, _, rfl⟩
  have answered := holding.step ⟨_, .consume .channel, _, _, rfl⟩
  have closing := answered.step ⟨_, .work .channel, _, _, rfl⟩
  have gone := closing.step ⟨_, .work .channel, _, _, rfl⟩
  have enteredAgain := gone.step ⟨_, .request true, _, _, rfl⟩
  have selectingAgain := enteredAgain.step ⟨_, .consume .channel, _, _, rfl⟩
  have told := selectingAgain.step ⟨_, .consume .channel, _, _, rfl⟩
  rcases Run.delivery told with ⟨_, _, bounded, _, finished⟩
  have complete := (finished ⟨_, .consume .channel, _, _, rfl⟩ rfl rfl rfl).1
  refine ⟨_, _, ⟨_, .consume .channel, _, _, rfl⟩, told, rfl, rfl, rfl, ?_, bounded⟩
  exact complete.symm

end Pipeline

end LogRows.Stream
