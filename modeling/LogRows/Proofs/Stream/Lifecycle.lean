import LogRows.Proofs.Stream.Reasons

/-!
# The life of a stream

A stream is new, then streams, and then has one terminal phase for good.  Which one it
is says what has become of it, since the worker has a reason for the phase that it decides
on and the consumer hears of the end only after that phase is stored.
-/

namespace LogRows.Stream

namespace History

/-- The phases of a stream after each of its steps. -/
def phases (history : History) : List Phase :=
  history.map fun step => step.after.phase

@[simp]
theorem phases_concat (history : History) (step : Transition) :
    phases (history ++ [step]) = history.phases ++ [step.after.phase] := by
  simp [phases]

/-- A read has found the end of a source when some bytes were all that it had been given. -/
def Ended (history : History) (source : Source) (content : List UInt8) : Prop :=
  ∃ earlier ending later,
    history = earlier ++ ending :: later ∧
      ending.read? = some .ended ∧ source.content ++ supplied earlier = content

theorem Ended.later
    {history : History}
    {source : Source}
    {content : List UInt8}
    (ended : history.Ended source content)
    (step : Transition) :
    Ended (history ++ [step]) source content := by
  rcases ended with ⟨earlier, ending, later, rfl, found, whole⟩
  exact ⟨earlier, ending, later ++ [step], by simp, found, whole⟩

theorem Ended.now
    {step : Transition}
    (found : step.read? = some .ended)
    (history : History)
    (source : Source) :
    Ended (history ++ [step]) source (source.content ++ history.supplied) :=
  ⟨history, step, [], rfl, found, rfl⟩

end History

/-- Whether a phase may follow another. -/
def Phase.leadsTo : Phase → Phase → Bool
  | .init, after => after = .streaming
  | .streaming, after => after.isTerminal
  | _, _ => false

theorem Phase.not_leadsTo_of_isTerminal
    {phase after : Phase}
    (terminal : phase.isTerminal = true) :
    phase.leadsTo after = false := by
  cases phase with
  | init | streaming => cases terminal
  | eof | error | cancelled => rfl

/-- The phases of a stream after each of its steps, and its phase now. -/
inductive Life : List Phase → Phase → Prop where
  | young
      (count : Nat) :
      Life (List.replicate count .init) .init
  | streaming
      (young count : Nat) :
      Life (List.replicate young .init ++ List.replicate (count + 1) .streaming) .streaming
  | ended
      (young streaming count : Nat)
      {terminal : Phase}
      (isTerminal : terminal.isTerminal = true) :
      Life
        (List.replicate young .init ++ List.replicate (streaming + 1) .streaming ++
          List.replicate (count + 1) terminal)
        terminal

theorem Life.step
    {phases : List Phase}
    {now after : Phase}
    (life : Life phases now)
    (leads : after = now ∨ now.leadsTo after = true) :
    Life (phases ++ [after]) after := by
  cases life with
  | young count =>
      rcases leads with rfl | leads
      · rw [← List.replicate_succ']
        exact .young (count + 1)
      · cases of_decide_eq_true leads
        exact .streaming count 0
  | streaming young count =>
      rcases leads with rfl | terminal
      · rw [List.append_assoc, ← List.replicate_succ']
        exact .streaming young (count + 1)
      · exact .ended young count 0 terminal
  | ended young streaming count terminal =>
      rcases leads with rfl | leads
      · rw [List.append_assoc, ← List.replicate_succ']
        exact .ended young streaming (count + 1) terminal
      · rw [Phase.not_leadsTo_of_isTerminal terminal] at leads
        cases leads

namespace Pipeline

section

variable
    {start now after : Pipeline}
    {action : Action}
    {intake : Option Intake}
    {event : Option Event}
    {intakes : List Intake}
    {enqueued : List Row}
    {reads : List ReadResult}
    {Ended : List UInt8 → Prop}

/-- A step leaves the phase or takes the stream on in its life. -/
theorem Reasons.leads
    (reasons : Reasons start intakes enqueued reads Ended now)
    (move : Move now action intake event after) :
    after.phase = now.phase ∨ now.phase.leadsTo after.phase = true := by
  rcases move.works_or_stands with ⟨arm, _, working⟩ | ⟨_, same, _⟩
  · cases working with
    | begins spawned =>
        right
        rw [reasons.phase .init (by rw [spawned]; rfl)]
        rfl
    | @stores decided finishing =>
        right
        rw [reasons.phase .streaming (by rw [finishing]; rfl)]
        exact (reasons.warrant decided (by simp only [verdict?, finishing])).isTerminal
    | _ => exact .inl rfl
  · exact .inl same

end

/-- What `join` returns: it drops the handle, waits for the worker to leave and reads the phase. -/
def joined? (pipeline : Pipeline) : Option Phase :=
  match pipeline.consumer, pipeline.position with
  | .dropped, .gone => some pipeline.phase
  | _, _ => none

/-- All that a new stream keeps to, whatever happens to it. -/
structure Conduct (start : Pipeline) (history : History) (now : Pipeline) : Prop where
  books : Books start history now
  wiring : Wiring now
  readings :
    Readings history.intakes history.reads (start.source.content ++ history.supplied)
      (history.Ended start.source) now
  reasons :
    Reasons start history.intakes history.enqueued history.reads (history.Ended start.source) now

theorem Conduct.spawn
    (mode : Mode)
    (config : Config)
    (buffer : LineBuffer)
    (source : Source) :
    Conduct (spawn mode config .fresh buffer source) []
      (spawn mode config .fresh buffer source) where
  books :=
    ⟨⟨nofun, nofun⟩, .spawn mode config .fresh buffer source,
      .spawn mode config .fresh buffer source⟩
  wiring := .spawn mode config .fresh buffer source
  readings :=
    { chunk := Nat.le_max_right _ _
      bytes := (List.append_nil _).symm
      taken := by cases mode <;> exact fun _ => rfl
      failed := by
        cases mode <;>
          rintro reason (impossible | impossible | impossible) <;> cases impossible
      pumped := by
        rintro rfl _ gone
        cases gone }
  reasons := ⟨fun _ => rfl, by rintro _ ⟨⟩; rfl, nofun, nofun⟩

section

variable
    {start now later : Pipeline}
    {history more : History}

theorem Run.conduct
    (run : Run start history now)
    (first : Conduct start [] start) :
    Conduct start history now := by
  induction run with
  | rest => exact first
  | @step history step earlier ih =>
      have kept : ∀ content, history.Ended start.source content →
          History.Ended (history ++ [step]) start.source content :=
        fun content ended => ended.later step
      have found : step.before.read? step.action = some .ended →
          History.Ended (history ++ [step]) start.source
            (start.source.content ++ history.supplied) :=
        fun ended => .now ended history start.source
      refine ⟨(earlier.step step).books first.books, ih.wiring.move step.move, ?_, ?_⟩
      · rw [History.intakes_concat, History.reads_concat, History.supplied_concat,
          ← List.append_assoc]
        exact (ih.readings.mono kept).move ih.wiring found step.move
      · rw [History.intakes_concat, History.enqueued_concat, History.reads_concat]
        exact ih.reasons.move ih.readings kept found ih.wiring ih.books.scope ih.books.worker
          step.move

/-- A stream with a terminal phase has the one that its worker has decided on. -/
theorem Conduct.verdict_eq
    (conduct : Conduct start history now)
    (terminal : now.phase.isTerminal = true) :
    now.verdict? = some now.phase := by
  have phase := conduct.reasons.phase
  cases position : now.position with
  | closing | gone => simp only [verdict?, position]
  | spawned =>
      rw [phase .init (by rw [position]; rfl)] at terminal
      cases terminal
  | _ =>
      rw [phase .streaming (by rw [position]; rfl)] at terminal
      cases terminal

theorem Conduct.warrant
    (conduct : Conduct start history now)
    (terminal : now.phase.isTerminal = true) :
    Warrant (start.mode.wanted start.buffer history.intakes) history.intakes history.enqueued
      history.reads (history.Ended start.source) now now.phase :=
  conduct.reasons.warrant now.phase (conduct.verdict_eq terminal)

theorem Conduct.undelivered_eq
    (conduct : Conduct start history now)
    (terminal : now.phase.isTerminal = true) :
    now.position.undelivered = [] := by
  have decided := conduct.verdict_eq terminal
  cases position : now.position with
  | checking | offering =>
      simp only [verdict?, position] at decided
      cases decided
  | _ => rfl

theorem Conduct.isTerminal_of_closed
    (conduct : Conduct start history now)
    (closed : now.queueClosed = true) :
    now.phase.isTerminal = true := by
  have gone := conduct.books.queue.closed closed
  refine (conduct.reasons.warrant now.phase ?_).isTerminal
  simp only [verdict?, gone]

/-- Who is told of the end, uncancelled, is told after the stream has ended or failed. -/
theorem Conduct.phase_of_finished
    {step : Transition}
    (conduct : Conduct start history step.before)
    (event : step.event = some (.answered .finished))
    (late : step.after.scope.cancelled = false) :
    (step.before.phase = .eof ∨ step.before.phase = .error) ∧
      step.after.phase = step.before.phase := by
  rcases step.move.of_finished event late with ⟨holding, uncancelled, same⟩
  have closed := (conduct.books.queue.finished holding uncancelled).2
  have warrant := conduct.warrant (conduct.isTerminal_of_closed closed)
  refine ⟨?_, by rw [same]⟩
  generalize step.before.phase = phase at warrant
  cases warrant with
  | ended => exact .inl rfl
  | failed | deserted => exact .inr rfl
  | cancelled nobody =>
      rcases nobody with cancelled | dropped
      · cases uncancelled.symm.trans cancelled
      · cases holding.symm.trans dropped

/-- A stream that has ended has enqueued all rows of what it was given until then. -/
theorem Conduct.enqueued_of_eof
    (conduct : Conduct start history now)
    (formed : start.buffer.WellFormed)
    (phase : now.phase = .eof) :
    ∃ earlier ending later,
      history = earlier ++ ending :: later ∧
        ending.read? = some .ended ∧
        history.enqueued =
          start.mode.rows
            (start.buffer.ahead (start.source.content ++ History.supplied earlier)) := by
  have warrant := conduct.warrant (by rw [phase]; rfl)
  rw [phase] at warrant
  cases warrant with
  | ended taken ended delivered =>
      rcases ended with ⟨earlier, ending, later, whole, found, fed⟩
      refine ⟨earlier, ending, later, whole, found, ?_⟩
      rw [delivered, taken, fed]
      exact start.mode.wanted_eq_ahead formed _

/-- A failure is the last row of a stream, unless nobody was to have it. -/
theorem Conduct.reason_of_error
    (conduct : Conduct start history now)
    (phase : now.phase = .error) :
    (∃ reason,
      .failed reason ∈ history.reads ∧
        (now.scope.cancelled = true ∨
          now.consumer = .dropped ∨
          history.enqueued.getLast? = some (.failed (.read reason)))) ∨
      (start.mode = .file ∧ now.noticesClosed = true) := by
  have terminal : now.phase.isTerminal = true := by rw [phase]; rfl
  have warrant := conduct.warrant terminal
  rw [phase] at warrant
  cases warrant with
  | @failed earlier reason taken failed =>
      refine .inl ⟨reason, failed, ?_⟩
      by_cases nobody : now.scope.cancelled = true ∨ now.consumer = .dropped
      · exact or_assoc.mp (.inl nobody)
      · rw [not_or, Bool.not_eq_true] at nobody
        have delivered := conduct.books.worker.exact (.inr nobody)
        rw [conduct.undelivered_eq terminal, taken, Mode.wanted_concat] at delivered
        refine .inr (.inr ?_)
        rw [← List.append_nil history.enqueued, delivered]
        simp [Intake.rows]
  | deserted followed closed =>
      exact .inr ⟨conduct.books.worker.mode.symm.trans followed, closed⟩

theorem Conduct.nobody_of_cancelled
    (conduct : Conduct start history now)
    (phase : now.phase = .cancelled) :
    now.scope.cancelled = true ∨ now.consumer = .dropped := by
  have warrant := conduct.warrant (by rw [phase]; rfl)
  rw [phase] at warrant
  cases warrant with
  | cancelled nobody => exact nobody

theorem Conduct.isTerminal_of_joined
    {phase : Phase}
    (conduct : Conduct start history now)
    (joined : now.joined? = some phase) :
    phase.isTerminal = true := by
  unfold joined? at joined
  split at joined
  case h_1 _ gone =>
    cases joined
    refine (conduct.reasons.warrant now.phase ?_).isTerminal
    simp only [verdict?, gone]
  case h_2 => cases joined

theorem Run.life
    (run : Run start history now)
    (first : Conduct start [] start)
    (new : start.phase = .init) :
    Life history.phases now.phase := by
  induction run with
  | rest =>
      rw [new]
      exact .young 0
  | step step earlier ih =>
      rw [History.phases_concat]
      exact ih.step ((earlier.conduct first).reasons.leads step.move)

theorem Run.phase_eq_of_isTerminal
    (run : Run start history now)
    (first : Conduct start [] start)
    (terminal : now.phase.isTerminal = true)
    (further : Run now more later) :
    later.phase = now.phase := by
  induction further with
  | rest => rfl
  | step step earlier ih =>
      rcases ((run.append earlier).conduct first).reasons.leads step.move with same | leads
      · exact same.trans ih
      · rw [ih, Phase.not_leadsTo_of_isTerminal terminal] at leads
        cases leads

end

/-- What the phase of a stream says of all that has happened to it. -/
structure Truthful
    (mode : Mode)
    (buffer : LineBuffer)
    (source : Source)
    (history : History)
    (now : Pipeline) :
    Prop where
  /-- The stream was new, then it streamed, and then it had one terminal phase. -/
  life : Life history.phases now.phase
  /-- A terminal phase never changes. -/
  final :
    now.phase.isTerminal = true →
      ∀ more later, Run now more later → later.phase = now.phase
  /-- The queue is closed only after the terminal phase is stored. -/
  closed : now.queueClosed = true → now.phase.isTerminal = true
  /-- Who is told of the end while the scope is not cancelled sees that it ended or failed. -/
  told :
    ∀ step : Transition,
      step.before = now →
      step.event = some (.answered .finished) →
      step.after.scope.cancelled = false →
        (now.phase = .eof ∨ now.phase = .error) ∧
          ∀ more later, Run step.after more later → later.phase = now.phase
  /-- A read has found the end of the source, and every row of its content was enqueued. -/
  eof :
    now.phase = .eof →
      ∃ earlier ending later,
        history = earlier ++ ending :: later ∧
          ending.read? = some .ended ∧
          history.enqueued = mode.rows (buffer.ahead (source.content ++ History.supplied earlier))
  /--
  A read has failed for good and its row is the last one enqueued, unless nobody was to have
  it, or the notifier of a file has stopped.
  -/
  error :
    now.phase = .error →
      (∃ reason,
        .failed reason ∈ history.reads ∧
          (now.scope.cancelled = true ∨
            now.consumer = .dropped ∨
            history.enqueued.getLast? = some (.failed (.read reason)))) ∨
        (mode = .file ∧ now.noticesClosed = true)
  cancelled :
    now.phase = .cancelled → now.scope.cancelled = true ∨ now.consumer = .dropped
  joined : ∀ phase, now.joined? = some phase → phase.isTerminal = true

section

variable
    {mode : Mode}
    {config : Config}
    {buffer : LineBuffer}
    {source : Source}
    {history : History}
    {now : Pipeline}

/--
The phase of a stream tells the truth.

This holds of every mode and in every state of every run, whatever the order in which
worker, pump, notifier, consumer and cancelling calls take their steps.
-/
theorem Run.truthful
    (formed : buffer.WellFormed)
    (run : Run (spawn mode config .fresh buffer source) history now) :
    Truthful mode buffer source history now := by
  have first := Conduct.spawn mode config buffer source
  have conduct := run.conduct first
  refine
    { life := run.life first rfl
      final := fun terminal more later => run.phase_eq_of_isTerminal first terminal
      closed := conduct.isTerminal_of_closed
      told := ?_
      eof := conduct.enqueued_of_eof formed
      error := conduct.reason_of_error
      cancelled := conduct.nobody_of_cancelled
      joined := fun phase => conduct.isTerminal_of_joined }
  rintro step rfl event late
  rcases conduct.phase_of_finished event late with ⟨ends, still⟩
  refine ⟨ends, fun more later further => ?_⟩
  have terminal : step.after.phase.isTerminal = true := by
    rcases ends with ended | failed
    · rw [still, ended]
      rfl
    · rw [still, failed]
      rfl
  exact ((run.step step).phase_eq_of_isTerminal first terminal further).trans still

/-- A stream whose only read is interrupted and that ends, up to what `join` returns. -/
theorem Run.truthful_of_interrupted :
    ∃ (history : History) (now : Pipeline),
      Run (watchPipe .default .fresh) history now ∧
        now.joined? = some .eof ∧
        history.reads.length = 2 ∧
        history.enqueued = [] ∧
        Truthful .pipe (.withLimit maxLineBytes) ⟨[], true⟩ history now := by
  have fresh : Run (watchPipe .default .fresh) [] _ := .rest
  have waiting := fresh.step ⟨_, .work .channel, _, _, rfl⟩
  have fed := waiting.step ⟨_, .grow .interruption, _, _, rfl⟩
  have retried := fed.step ⟨_, .pump, _, _, rfl⟩
  have shut := retried.step ⟨_, .closeSource, _, _, rfl⟩
  have found := shut.step ⟨_, .pump, _, _, rfl⟩
  have finishing := found.step ⟨_, .work .channel, _, _, rfl⟩
  have closing := finishing.step ⟨_, .work .channel, _, _, rfl⟩
  have gone := closing.step ⟨_, .work .channel, _, _, rfl⟩
  have dropped := gone.step ⟨_, .drop, _, _, rfl⟩
  have formed := LineBuffer.wellFormed_withLimit maxLineBytes
  exact ⟨_, _, dropped, rfl, rfl, rfl, Run.truthful formed dropped⟩

end

end Pipeline

end LogRows.Stream
