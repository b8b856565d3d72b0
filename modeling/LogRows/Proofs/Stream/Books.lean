import LogRows.Proofs.Stream.Run

/-!
# Rows on their way to the consumer

Between the worker, which wants to deliver some rows, and the consumer, which
has got some, a row may wait in three places: the worker has not yet put it into
the queue, it is in the queue, or a request holds it and has not answered yet.
No row is lost, doubled or overtaken on this way.

The books are kept in three parts, each with a lemma on what a move does to it:
the scope, the worker with what it has put into the queue, and the queue with
what the consumer has got.
-/

namespace LogRows.Stream

/-- The rows that a worker has set out to deliver and not put into the queue. -/
def Position.undelivered : Position → List Row
  | .checking row rest _ _ => row :: rest
  | .offering row rest _ _ => row :: rest
  | _ => []

@[simp]
theorem Position.undelivered_delivering
    (rows : List Row)
    (next : Next)
    (refused : Phase) :
    (Position.delivering rows next refused).undelivered = rows := by
  cases rows with
  | nil => cases next <;> rfl
  | cons row rest => rfl

/-- The row that a request holds before it answers. -/
def Consumer.held : Consumer → List Row
  | .holding (.row row) => [row]
  | _ => []

namespace Pipeline

/-- What holds of the flag, the signal and the calls of a scope that started fresh. -/
structure ScopeSound (now : Pipeline) : Prop where
  signalled : now.scope.signalled = true → now.scope.cancelled = true
  owing : .owing ∈ now.calls → now.scope.cancelled = true

/-- The worker's books: what it wants to deliver is what it has enqueued and still holds. -/
structure WorkerBooks
    (start : Pipeline)
    (intakes : List Intake)
    (enqueued : List Row)
    (now : Pipeline) :
    Prop where
  mode : now.mode = start.mode
  buffer : now.buffer = Intake.bufferAfter start.buffer intakes
  inOrder : enqueued ++ now.position.undelivered <+: start.mode.wanted start.buffer intakes
  /-- Only a worker that gave up because nobody is to get the rows has lost any. -/
  exact :
    now.position.hasLeft = false ∨
        (now.scope.cancelled = false ∧ now.consumer ≠ .dropped) →
      enqueued ++ now.position.undelivered = start.mode.wanted start.buffer intakes

/-- The consumer's books: what has been enqueued is what it has got, holds and will find. -/
structure QueueBooks (enqueued given : List Row) (now : Pipeline) : Prop where
  bounded : now.queue.length ≤ now.capacity
  inOrder : given <+: enqueued
  exact :
    now.scope.cancelled = false → given ++ now.consumer.held ++ now.queue = enqueued
  closed : now.queueClosed = true → now.position = .gone
  finished :
    now.consumer = .holding .finished →
      now.scope.cancelled = false → now.queue = [] ∧ now.queueClosed = true

section Moves

variable
    {start now after : Pipeline}
    {action : Action}
    {intake : Option Intake}
    {event : Option Event}
    {intakes : List Intake}
    {enqueued given : List Row}

theorem WorkMove.scope_eq (move : WorkMove now intake event after) :
    after.scope = now.scope ∧ after.calls = now.calls := by
  cases move <;> exact ⟨rfl, rfl⟩

theorem WorkMove.consumer_eq (move : WorkMove now intake event after) :
    after.consumer = now.consumer := by
  cases move <;> rfl

theorem WorkMove.answer_eq (move : WorkMove now intake event after) :
    event.bind Event.answer? = none := by
  cases move <;> rfl

theorem WorkMove.queue_eq (move : WorkMove now intake event after) :
    after.queue = now.queue ++ (event.bind Event.enqueued?).toList := by
  cases move <;> simp [Event.enqueued?, takeIn]

theorem ConsumeMove.enqueued_eq (move : ConsumeMove now event after) :
    event.bind Event.enqueued? = none := by
  cases move <;> rfl

/-- Only the worker changes where it stands, what it holds and whether the queue is closed. -/
theorem Move.works_or_keeps (move : Move now action intake event after) :
    WorkMove now intake event after ∨
      (after.mode = now.mode ∧
        after.buffer = now.buffer ∧
        after.position = now.position ∧
        after.queueClosed = now.queueClosed ∧
        intake = none ∧
        event.bind Event.enqueued? = none) := by
  cases move with
  | work move =>
      left
      exact move
  | consume move =>
      right
      cases move <;> exact ⟨rfl, rfl, rfl, rfl, rfl, rfl⟩
  | pump move =>
      right
      cases move <;> exact ⟨rfl, rfl, rfl, rfl, rfl, rfl⟩
  | _ =>
      right
      exact ⟨rfl, rfl, rfl, rfl, rfl, rfl⟩

/-- Only the worker and the consumer touch the queue, and only the consumer moves itself. -/
theorem Move.hands_or_keeps (move : Move now action intake event after) :
    WorkMove now intake event after ∨ ConsumeMove now event after ∨
      (after.queue = now.queue ∧
        after.queueClosed = now.queueClosed ∧
        after.position = now.position ∧
        event = none ∧
        (after.consumer = now.consumer ∨
          (now.consumer = .idle ∧
            (after.consumer = .dropped ∨ ∃ timed, after.consumer = .entered timed)))) := by
  cases move with
  | work move =>
      left
      exact move
  | consume move =>
      right; left
      exact move
  | pump move =>
      right; right
      cases move <;> exact ⟨rfl, rfl, rfl, rfl, .inl rfl⟩
  | request idle =>
      right; right
      exact ⟨rfl, rfl, rfl, rfl, .inr ⟨idle, .inr ⟨_, rfl⟩⟩⟩
  | drop idle =>
      right; right
      exact ⟨rfl, rfl, rfl, rfl, .inr ⟨idle, .inl rfl⟩⟩
  | _ =>
      right; right
      exact ⟨rfl, rfl, rfl, rfl, .inl rfl⟩

theorem Move.capacity_eq (move : Move now action intake event after) :
    after.capacity = now.capacity := by
  cases move with
  | work move => cases move <;> rfl
  | consume move => cases move <;> rfl
  | pump move => cases move <;> rfl
  | _ => rfl

theorem Move.mode_eq (move : Move now action intake event after) :
    after.mode = now.mode := by
  cases move with
  | work move => cases move <;> rfl
  | consume move => cases move <;> rfl
  | pump move => cases move <;> rfl
  | _ => rfl

/-- A scope that is cancelled stays so. -/
theorem Move.cancelled_mono
    (move : Move now action intake event after)
    (cancelled : now.scope.cancelled = true) :
    after.scope.cancelled = true := by
  cases move with
  | work move => rw [move.scope_eq.1]; exact cancelled
  | consume move => cases move <;> exact cancelled
  | pump move => cases move <;> exact cancelled
  | advanceCancel called advances =>
      unfold Scope.advance at advances
      split at advances
      · rw [if_pos cancelled] at advances
        cases advances
        exact cancelled
      · cases advances
        exact cancelled
      · cases advances
  | _ => exact cancelled

theorem Move.uncancelled_before
    (move : Move now action intake event after)
    (uncancelled : after.scope.cancelled = false) :
    now.scope.cancelled = false := by
  cases cancelled : now.scope.cancelled with
  | false => rfl
  | true => cases (move.cancelled_mono cancelled).symm.trans uncancelled

/-- A consumer that has gone away stays away. -/
theorem Move.dropped_mono
    (move : Move now action intake event after)
    (dropped : now.consumer = .dropped) :
    after.consumer = .dropped := by
  cases move with
  | work move => rw [move.consumer_eq]; exact dropped
  | consume move => cases move <;> simp_all
  | pump move => cases move <;> exact dropped
  | request idle => simp_all
  | _ => first | exact dropped | rfl

theorem ScopeSound.move
    (sound : ScopeSound now)
    (move : Move now action intake event after) :
    ScopeSound after := by
  cases move with
  | work move =>
      rcases move.scope_eq with ⟨scope, calls⟩
      exact ⟨by rw [scope]; exact sound.signalled, by rw [scope, calls]; exact sound.owing⟩
  | consume move => cases move <;> exact ⟨sound.signalled, sound.owing⟩
  | pump move => cases move <;> exact ⟨sound.signalled, sound.owing⟩
  | cancel => exact ⟨sound.signalled, by simpa using sound.owing⟩
  | @advanceCancel index call next scope called advances =>
      have cancelled : scope.cancelled = true := by
        unfold Scope.advance at advances
        split at advances
        · split at advances <;> cases advances
          · assumption
          · rfl
        · cases advances
          exact sound.owing (List.mem_of_getElem? called)
        · cases advances
      exact ⟨fun _ => cancelled, fun _ => cancelled⟩
  | _ => exact ⟨sound.signalled, sound.owing⟩

/-- Books in which no row is missing are in order, wherever the worker stands. -/
theorem WorkerBooks.of_exact
    (mode : now.mode = start.mode)
    (buffer : now.buffer = Intake.bufferAfter start.buffer intakes)
    (exact :
      enqueued ++ now.position.undelivered = start.mode.wanted start.buffer intakes) :
    WorkerBooks start intakes enqueued now :=
  ⟨mode, buffer, exact ▸ List.prefix_rfl, fun _ => exact⟩

/-- What is taken in by a worker that has delivered everything is wanted from then on. -/
theorem WorkerBooks.takeIn
    (mode : now.mode = start.mode)
    (buffer : now.buffer = Intake.bufferAfter start.buffer intakes)
    (delivered : enqueued = start.mode.wanted start.buffer intakes)
    (again : Next)
    (taken : Intake) :
    WorkerBooks start (intakes ++ [taken]) enqueued (now.takeIn again taken) := by
  refine .of_exact mode ?_ ?_
  · rw [Intake.bufferAfter_concat, ← buffer]
    rfl
  · rw [Mode.wanted_concat, ← delivered, ← buffer, ← mode, Pipeline.takeIn]
    simp

/-- A worker that has left with all rows delivered goes on to leave. -/
theorem WorkerBooks.leave
    (books : WorkerBooks start intakes enqueued now)
    (mode : after.mode = now.mode)
    (buffer : after.buffer = now.buffer)
    (nothing : now.position.undelivered = [])
    (still : after.position.undelivered = [])
    (left : after.position.hasLeft = true)
    (scope : after.scope = now.scope)
    (consumer : after.consumer = now.consumer) :
    WorkerBooks start intakes enqueued after := by
  refine ⟨mode.trans books.mode, buffer.trans books.buffer, ?_, ?_⟩
  · rw [still, ← nothing]
    exact books.inOrder
  · rw [still, ← nothing, left, scope, consumer]
    rintro (impossible | listening)
    · cases impossible
    · exact books.exact (.inr listening)

theorem WorkerBooks.work
    (books : WorkerBooks start intakes enqueued now)
    (sound : ScopeSound now)
    (move : WorkMove now intake event after) :
    WorkerBooks start (intakes ++ intake.toList)
      (enqueued ++ (event.bind Event.enqueued?).toList) after := by
  have unspoiled := fun present => books.exact (.inl present)
  cases move <;>
    simp only [Option.toList_none, Option.toList_some, Option.bind_none, List.append_nil]
  case begins position =>
    rw [position] at unspoiled
    refine .of_exact books.mode books.buffer ?_
    have fresh : (firstPosition now.mode).undelivered = Position.spawned.undelivered := by
      cases now.mode <;> rfl
    exact fresh ▸ unspoiled rfl
  case looks position _ | retries position _ | rests position _ _ | wakes position _ |
      deserted position _ _ _ | offers position _ =>
    rw [position] at unspoiled
    exact .of_exact books.mode books.buffer (unspoiled rfl)
  case ignores position _ =>
    exact .of_exact books.mode books.buffer (unspoiled (position ▸ rfl))
  case quits idle =>
    have delivered : enqueued ++ [] = start.mode.wanted start.buffer intakes := by
      rcases idle with ⟨position, _⟩ | ⟨position, _⟩
      all_goals
        rw [position] at unspoiled
        exact unspoiled rfl
    exact .of_exact books.mode books.buffer delivered
  case reads position _ _ | hears position _ _ | ends position _ _ _ =>
    rw [position] at unspoiled
    have delivered : enqueued ++ [] = start.mode.wanted start.buffer intakes := unspoiled rfl
    rw [List.append_nil] at delivered
    apply WorkerBooks.takeIn
    · exact books.mode
    · exact books.buffer
    · exact delivered
  case enqueues row rest next refused position _ _ =>
    rw [position] at unspoiled
    refine .of_exact books.mode books.buffer ?_
    rw [Position.undelivered_delivering, List.append_assoc]
    exact unspoiled rfl
  case refuses row rest next refused delivering =>
    have exact : enqueued ++ row :: rest = start.mode.wanted start.buffer intakes := by
      rcases delivering with ⟨position, _⟩ | ⟨position, _⟩
      all_goals
        rw [position] at unspoiled
        exact unspoiled rfl
    refine ⟨books.mode, books.buffer, ?_, ?_⟩
    · rw [← exact]
      exact List.prefix_append_right_inj _ |>.mpr (List.nil_prefix)
    · rintro (impossible | ⟨uncancelled, listening⟩)
      · cases impossible
      · rcases delivering with ⟨_, cancelled⟩ | ⟨_, signalled | dropped⟩
        · rw [cancelled] at uncancelled
          cases uncancelled
        · rw [sound.signalled signalled] at uncancelled
          cases uncancelled
        · exact absurd dropped listening
  case stores phase position | closes position =>
    exact books.leave rfl rfl (position ▸ rfl) rfl rfl rfl rfl

theorem WorkerBooks.move
    (books : WorkerBooks start intakes enqueued now)
    (sound : ScopeSound now)
    (move : Move now action intake event after) :
    WorkerBooks start (intakes ++ intake.toList)
      (enqueued ++ (event.bind Event.enqueued?).toList) after := by
  rcases move.works_or_keeps with working | ⟨mode, buffer, position, _, rfl, noRow⟩
  · exact books.work sound working
  · rw [noRow]
    simp only [Option.toList_none, List.append_nil]
    refine ⟨mode.trans books.mode, buffer.trans books.buffer, ?_, ?_⟩
    · rw [position]
      exact books.inOrder
    · rw [position]
      rintro (present | ⟨uncancelled, listening⟩)
      · exact books.exact (.inl present)
      · apply books.exact
        right
        constructor
        · exact move.uncancelled_before uncancelled
        · intro dropped
          exact listening (move.dropped_mono dropped)

theorem QueueBooks.work
    (books : QueueBooks enqueued given now)
    (move : WorkMove now intake event after) :
    QueueBooks (enqueued ++ (event.bind Event.enqueued?).toList) given after := by
  -- A worker that moves has not closed the queue yet.
  have unclosed : now.queueClosed = false := by
    cases closed : now.queueClosed with
    | false => rfl
    | true =>
        have gone := books.closed closed
        cases move <;> simp_all
  have unfinished : now.consumer = .holding .finished → now.scope.cancelled = true := by
    intro holding
    cases cancelled : now.scope.cancelled with
    | true => rfl
    | false => exact absurd (books.finished holding cancelled).2 (by simp [unclosed])
  cases move <;>
    simp only [Option.toList_none, Option.toList_some, Option.bind_none, Option.bind_some,
      List.append_nil, Event.enqueued?]
  case enqueues row rest next refused offering present room =>
    refine ⟨?_, ?_, ?_, ?_, ?_⟩
    · rw [List.length_append]
      exact room
    · exact books.inOrder.trans (List.prefix_append _ _)
    · intro uncancelled
      rw [← books.exact uncancelled]
      exact (List.append_assoc _ _ _).symm
    · intro closed
      cases unclosed.symm.trans closed
    · intro holding uncancelled
      rw [unfinished holding] at uncancelled
      cases uncancelled
  case closes position =>
    refine ⟨books.bounded, books.inOrder, books.exact, fun _ => rfl, ?_⟩
    intro holding uncancelled
    rw [unfinished holding] at uncancelled
    cases uncancelled
  all_goals
    refine ⟨books.bounded, books.inOrder, books.exact, ?_, ?_⟩
    · intro closed
      cases unclosed.symm.trans closed
    · exact books.finished

theorem QueueBooks.consume
    (books : QueueBooks enqueued given now)
    (sound : ScopeSound now)
    (move : ConsumeMove now event after) :
    QueueBooks (enqueued ++ (event.bind Event.enqueued?).toList)
      (given ++ (event.bind Event.answer?).toList.filterMap Answer.row?) after := by
  have bounded := books.bounded
  have inOrder := books.inOrder
  have closed := books.closed
  cases move <;>
    simp only [Option.toList_none, Option.toList_some, Option.bind_none, List.append_nil,
      List.filterMap_nil, Option.bind_some, Event.enqueued?, Event.answer?]
  case turnsBack timed entered cancelled =>
    refine ⟨bounded, ?_, ?_, closed, nofun⟩
    · show given ++ [] <+: enqueued
      rw [List.append_nil]
      exact inOrder
    · intro uncancelled
      cases cancelled.symm.trans uncancelled
  case enters timed entered uncancelled =>
    refine ⟨bounded, inOrder, ?_, closed, nofun⟩
    have exact := books.exact
    rw [entered] at exact
    exact exact
  case takes timed row later selecting queued =>
    rw [queued] at bounded
    refine ⟨Nat.le_of_succ_le bounded, inOrder, ?_, closed, nofun⟩
    intro uncancelled
    have exact := books.exact uncancelled
    rw [selecting, queued] at exact
    simpa [Consumer.held] using exact
  case gives timed selecting ended =>
    refine ⟨bounded, inOrder, ?_, closed, ?_⟩
    · have exact := books.exact
      rw [selecting] at exact
      exact exact
    · intro _ uncancelled
      rcases ended with drained | signalled
      · exact drained
      · rw [sound.signalled signalled] at uncancelled
        cases uncancelled
  case tires selecting =>
    refine ⟨bounded, inOrder, ?_, closed, nofun⟩
    have exact := books.exact
    rw [selecting] at exact
    exact exact
  case answers answer holding =>
    cases cancelled : now.scope.cancelled with
    | true =>
        refine ⟨bounded, ?_, ?_, closed, nofun⟩
        · show given ++ [] <+: enqueued
          rw [List.append_nil]
          exact inOrder
        · intro uncancelled
          cases cancelled.symm.trans uncancelled
    | false =>
        have exact := books.exact cancelled
        rw [holding] at exact
        have handed :
            given ++ [answer].filterMap Answer.row? = given ++ (Consumer.holding answer).held := by
          cases answer <;> rfl
        refine ⟨bounded, ?_, ?_, closed, nofun⟩
        · rw [if_neg (by simp), handed, ← exact]
          exact List.prefix_append _ _
        · intro _
          rw [if_neg (by simp), handed, ← exact]
          simp [Consumer.held]

theorem QueueBooks.move
    (books : QueueBooks enqueued given now)
    (sound : ScopeSound now)
    (move : Move now action intake event after) :
    QueueBooks (enqueued ++ (event.bind Event.enqueued?).toList)
      (given ++ (event.bind Event.answer?).toList.filterMap Answer.row?) after := by
  rcases move.hands_or_keeps with
    working | consuming | ⟨queue, queueClosed, position, rfl, consumer⟩
  · rw [working.answer_eq]
    simpa using books.work working
  · exact books.consume sound consuming
  · have held : after.consumer.held = now.consumer.held := by
      rcases consumer with same | ⟨idle, dropped | ⟨timed, entered⟩⟩
      · rw [same]
      · rw [idle, dropped]
        rfl
      · rw [idle, entered]
        rfl
    simp only [Option.toList_none, Option.bind_none, List.append_nil, List.filterMap_nil]
    refine ⟨?_, books.inOrder, ?_, ?_, ?_⟩
    · rw [queue, move.capacity_eq]
      exact books.bounded
    · rw [held, queue]
      intro uncancelled
      exact books.exact (move.uncancelled_before uncancelled)
    · rw [queueClosed, position]
      exact books.closed
    · rw [queue, queueClosed]
      intro holding uncancelled
      refine books.finished ?_ (move.uncancelled_before uncancelled)
      rcases consumer with same | ⟨_, dropped | ⟨timed, entered⟩⟩
      · rw [← same]
        exact holding
      · rw [dropped] at holding
        cases holding
      · rw [entered] at holding
        cases holding

end Moves

end Pipeline

end LogRows.Stream
