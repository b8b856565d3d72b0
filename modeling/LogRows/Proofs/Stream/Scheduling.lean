import LogRows.Proofs.Stream.ReadModes
import LogRows.Stream.Schedule

/-!
# Runs that follow a schedule

A schedule prefers some actions to others, so what it does is one of the runs of the
stream (`Pipeline.exists_run`).  What holds of every run that drains a stream therefore
holds of the schedule that drains it, and two things are left to show: that it does not
give up, for the actions it knows are all that drain a stream, and that it does not run out
of fuel, for the `effort` of a stream is greater than its potential.
-/

namespace LogRows.Stream

/-- What the steps have shown to the outside. -/
def History.events (history : History) : List Event :=
  history.filterMap Transition.event

theorem History.answers_eq (history : History) :
    history.answers = history.events.filterMap Event.answer? := by
  rw [answers, events, List.filterMap_filterMap]

theorem History.events_cons (step : Transition) (history : History) :
    History.events ([step] ++ history) = step.event.toList ++ history.events := by
  simp only [events, List.singleton_append, List.filterMap_cons]
  cases step.event <;> rfl

/-- Who only drains a stream does nothing of the outside. -/
theorem History.outside_eq_nil
    {history : History}
    (drain : ∀ step ∈ history, step.action.drains = true) :
    history.outside = [] := by
  rw [outside, List.filter_eq_nil_iff]
  intro action taken
  rcases List.mem_map.mp taken with ⟨step, member, rfl⟩
  simp [drain step member]

/-! ## What a stream can cost -/

theorem Source.cost_le (source : Source) :
    source.cost ≤ 9 * source.size := by
  rcases source with ⟨supplies, waits⟩
  simp only [Source.cost, Source.size]
  induction supplies with
  | nil => exact Nat.le_refl 0
  | cons supply supplies ih =>
      have first : supply.cost ≤ 9 * (supply.content.length + 1) := by
        cases supply with
        | bytes content => exact Nat.mul_le_mul_left 9 (Nat.le_succ _)
        | interruption => decide
        | failure reason =>
            show 3 ≤ 9
            decide
      simp only [List.foldr_cons]
      omega

theorem Notice.cost_le (notice : Notice) :
    notice.cost ≤ 7 * Pipeline.noticeSize notice := by
  cases notice with
  | piece content =>
      simp only [Notice.cost, Pipeline.noticeSize]
      omega
  | changed | other | notifierFailed reason | pumpFailed reason =>
      simp only [Notice.cost, Pipeline.noticeSize]
      decide

theorem Notice.costs_le (notices : List Notice) :
    Notice.costs notices ≤ 7 * Pipeline.noticesSize notices := by
  induction notices with
  | nil => exact Nat.le_refl 0
  | cons notice notices ih =>
      have first := notice.cost_le
      simp only [Notice.costs, Pipeline.noticesSize, List.foldr_cons] at ih ⊢
      omega

theorem Next.cost_le (next : Next) : next.cost ≤ 11 := by
  cases next with
  | poll | await => decide
  | finish phase =>
      show 2 ≤ 11
      decide

theorem Position.cost_le (position : Position) :
    position.cost ≤ 6 * Pipeline.Position.backlog position + 12 := by
  cases position with
  | checking row rest next refused | offering row rest next refused =>
      have bound := next.cost_le
      simp only [Position.cost, Pipeline.Position.backlog]
      omega
  | _ =>
      simp only [Position.cost, Pipeline.Position.backlog]
      omega

theorem Consumer.cost_le (consumer : Consumer) : consumer.cost ≤ 5 := by
  cases consumer with
  | holding answer => cases answer <;> simp [Consumer.cost]
  | _ => simp [Consumer.cost]

/-- The fuel of a schedule is more than the steps that a stream can take. -/
theorem Pipeline.potential_lt_effort (now : Pipeline) :
    now.potential < now.effort := by
  have source := now.source.cost_le
  have notices := Notice.costs_le now.notices
  have position := now.position.cost_le
  have consumer := now.consumer.cost_le
  unfold potential effort
  cases pump : now.pump with
  | holding notice =>
      have held := notice.cost_le
      simp only [Pump.cost]
      omega
  | reading | gone =>
      simp only [Pump.cost]
      omega

namespace Pipeline

/-! ## A schedule is a run -/

theorem takeFirst_eq_some
    {now after : Pipeline}
    {preference : List Action}
    {event : Option Event}
    (taken : now.takeFirst preference = some (after, event)) :
    ∃ step : Transition,
      step.before = now ∧ step.action ∈ preference ∧ step.event = event ∧ step.after = after := by
  rcases List.exists_of_findSome?_eq_some taken with ⟨action, member, possible⟩
  exact ⟨⟨now, action, event, after, possible⟩, rfl, member, rfl, rfl⟩

theorem takeFirst_eq_none
    {now : Pipeline}
    {preference : List Action}
    (stuck : now.takeFirst preference = none)
    {action : Action}
    (member : action ∈ preference) :
    now.step action = none :=
  List.findSome?_eq_none_iff.mp stuck action member

/-- How a schedule ends: an event has stopped it, nothing is possible, or its fuel is used up. -/
inductive Halts
    (preference : List Action)
    (stops : Event → Bool)
    (fuel : Nat)
    (history : History)
    (now : Pipeline) :
    Prop where
  | stopped
      {event : Event}
      (shown : event ∈ history.events)
      (stop : stops event = true)
  | stuck
      (idle : now.takeFirst preference = none)
  | spent
      (long : history.length = fuel)

theorem Halts.later
    {preference : List Action}
    {stops : Event → Bool}
    {fuel : Nat}
    {history : History}
    {now : Pipeline}
    (halts : Halts preference stops fuel history now)
    (step : Transition) :
    Halts preference stops (fuel + 1) ([step] ++ history) now := by
  cases halts with
  | stopped shown stop =>
      refine .stopped ?_ stop
      rw [History.events_cons]
      exact List.mem_append_right _ shown
  | stuck idle => exact .stuck idle
  | spent long => exact .spent (congrArg (· + 1) long)

/-- What a schedule does is a run of its own actions. -/
theorem exists_run
    (preference : List Action)
    (stops : Event → Bool)
    (fuel : Nat)
    (now : Pipeline)
    (events : List Event) :
    ∃ more : History,
      Run now more (run preference stops fuel now events).1 ∧
        (run preference stops fuel now events).2 = more.events.reverse ++ events ∧
        (∀ step ∈ more, step.action ∈ preference) ∧
        Halts preference stops fuel more (run preference stops fuel now events).1 := by
  induction fuel generalizing now events with
  | zero =>
      exact ⟨[], .rest, rfl, fun _ member => absurd member List.not_mem_nil, .spent rfl⟩
  | succ fuel ih =>
      rw [run]
      split
      case h_1 stuck =>
        exact ⟨[], .rest, rfl, fun _ member => absurd member List.not_mem_nil, .stuck stuck⟩
      case h_2 next taken =>
        rcases takeFirst_eq_some taken with ⟨step, rfl, preferred, silent, rfl⟩
        rcases ih step.after events with ⟨more, further, shown, all, halts⟩
        refine ⟨[step] ++ more, (Run.rest.step step).append further, ?_, ?_, halts.later step⟩
        · rw [shown, History.events_cons, silent]
          rfl
        · simpa [preferred] using all
      case h_3 next event taken =>
        rcases takeFirst_eq_some taken with ⟨step, rfl, preferred, shows, rfl⟩
        split
        case isTrue stop =>
          have only : History.events [step] = [event] := by simp [History.events, shows]
          refine ⟨[step], Run.rest.step step, ?_, ?_, .stopped ?_ stop⟩
          · rw [only]
            rfl
          · simpa using preferred
          · rw [only]
            exact List.mem_singleton.mpr rfl
        case isFalse =>
          rcases ih step.after (event :: events) with ⟨more, further, shown, all, halts⟩
          refine ⟨[step] ++ more, (Run.rest.step step).append further, ?_, ?_, halts.later step⟩
          · rw [shown, History.events_cons, shows]
            simp
          · simpa [preferred] using all

/-! ## Schedules that leave the consumer alone -/

section

variable
    {start now after : Pipeline}
    {history : History}

/-- Only a step of the consumer gives it an answer. -/
theorem Move.answer_eq_none
    {action : Action}
    {intake : Option Intake}
    {event : Option Event}
    (move : Move now action intake event after)
    (others : ∀ arm, action ≠ .consume arm) :
    event.bind Event.answer? = none := by
  cases move with
  | work move => exact move.answer_eq
  | consume move => exact absurd rfl (others _)
  | _ => rfl

/-- Worker and pump go on by themselves, without an answer to the consumer. -/
theorem exists_settle (now : Pipeline) :
    ∃ more : History, Run now more now.settle ∧ more.outside = [] ∧ more.answers = [] := by
  rcases exists_run backgroundActions (fun _ => false) now.effort now [] with
    ⟨more, further, _, background, _⟩
  refine ⟨more, further, ?_, ?_⟩
  · exact History.outside_eq_nil fun step member =>
      List.all_eq_true.mp (show backgroundActions.all Action.drains = true from rfl) _
        (background step member)
  · rw [History.answers, List.filterMap_eq_nil_iff]
    intro step member
    apply step.move.answer_eq_none
    intro arm consumes
    have own := background step member
    rw [consumes] at own
    simp [backgroundActions] at own

/-- An action of the outside is taken, and worker and pump go on by themselves. -/
theorem Run.act
    (run : Run start history now)
    (action : Action)
    (possible : (now.step action).isSome = true)
    (outer : action.drains = false) :
    ∃ more : History,
      Run start more (now.act action) ∧
        more.outside = history.outside ++ [action] ∧
        more.answers = history.answers := by
  rcases Option.isSome_iff_exists.mp possible with ⟨⟨next, event⟩, taken⟩
  let step : Transition := ⟨now, action, event, next, taken⟩
  rcases exists_settle next with ⟨more, further, alone, silent⟩
  have settled : now.act action = next.settle := by
    rw [Pipeline.act, taken]
  have outside : History.outside (history ++ [step]) = history.outside ++ [action] :=
    History.outside_concat history outer
  have unanswered : step.event.bind Event.answer? = none := by
    apply step.move.answer_eq_none
    intro arm consumes
    have drains : step.action.drains = true := by
      rw [consumes]
      rfl
    cases drains.symm.trans outer
  rw [settled]
  refine ⟨_, (run.step step).append further, ?_, ?_⟩
  · rw [History.outside_append, alone, List.append_nil, outside]
  · rw [History.answers, List.filterMap_append, ← History.answers, ← History.answers, silent,
      History.answers_concat, unanswered]
    simp

/-! ## A schedule that drains -/

/-- The actions of the schedule that drains a stream. -/
def drainActions : List Action :=
  backgroundActions ++ requestActions ++ [.request false]

theorem drains_of_mem_drainActions
    {action : Action}
    (member : action ∈ drainActions) :
    action.drains = true :=
  List.all_eq_true.mp (show drainActions.all Action.drains = true from rfl) action member

/-- No wait of a worker is ever over because time is up. -/
theorem workStep_of_timeout
    (possible : (now.workStep .timeout).isSome = true) :
    (now.workStep .channel).isSome = true := by
  unfold workStep at possible ⊢
  cases position : now.position with
  | waiting | offering row rest next refused =>
      rw [position] at possible
      cases possible
  | _ =>
      rw [position] at possible
      exact possible

/-- The schedule knows an action wherever worker, pump or consumer can take a step. -/
theorem CanAct.not_stuck
    (acts : now.CanAct) :
    now.takeFirst drainActions ≠ none := by
  intro stuck
  rcases acts with ⟨action, drains, possible⟩
  have refused : ∀ {other : Action}, other ∈ drainActions → (now.step other).isSome = false := by
    intro other member
    rw [takeFirst_eq_none stuck member]
    rfl
  cases action with
  | work arm =>
      cases arm with
      | channel => cases possible.symm.trans (refused (by simp [drainActions, backgroundActions]))
      | signal => cases possible.symm.trans (refused (by simp [drainActions, backgroundActions]))
      | timeout =>
          have first : (now.step (.work .channel)).isSome = true := workStep_of_timeout possible
          cases first.symm.trans (refused (by simp [drainActions, backgroundActions]))
  | pump => cases possible.symm.trans (refused (by simp [drainActions, backgroundActions]))
  | consume arm =>
      cases arm <;>
        cases possible.symm.trans (refused (by simp [drainActions, requestActions]))
  | request timed =>
      cases timed with
      | false => cases possible.symm.trans (refused (by simp [drainActions]))
      | true => cases drains
  | _ => cases drains

/-- While only worker, pump and consumer act, every step lowers what is to do. -/
theorem Run.potential_le_of_drains
    {later : Pipeline}
    {more : History}
    (run : Run start history now)
    (first : Undisturbed start [] start)
    (calm : ∀ step ∈ history, step.Calm)
    (further : Run now more later)
    (drain : ∀ step ∈ more, step.action.drains = true)
    (untold : .finished ∉ more.answers) :
    later.potential + more.length ≤ now.potential := by
  induction further with
  | rest => exact Nat.le_refl _
  | @step more step earlier ih =>
      simp only [List.forall_mem_append, List.forall_mem_singleton] at drain
      rw [History.answers_concat, List.mem_append, not_or] at untold
      have before := ih drain.1 untold.1
      have quiet : ∀ taken ∈ history ++ more, taken.Calm :=
        List.forall_mem_append.mpr ⟨calm, fun taken member => .inl (drain.1 taken member)⟩
      have faultless := ((run.append earlier).undisturbed first quiet).faultless
      have unfinished : step.event ≠ some (.answered .finished) := by
        intro told
        rw [told] at untold
        exact untold.2 List.mem_cons_self
      have lower :=
        step.move.potential_lt drain.2 faultless.chunk faultless.patient unfinished
      rw [List.length_append, List.length_singleton]
      omega

end

end Pipeline

theorem Event.answer?_of_isFinish
    {event : Event}
    (finish : Pipeline.isFinish event = true) :
    event.answer? = some .finished := by
  unfold Pipeline.isFinish at finish
  split at finish
  case h_1 => rfl
  case h_2 => cases finish

theorem History.answersOf_events (history : History) :
    Pipeline.answersOf history.events.reverse = history.answers := by
  rw [answers_eq, Pipeline.answersOf, List.reverse_reverse]
  congr 1
  funext event
  cases event <;> rfl

theorem Pipeline.allRows_eq (now : Pipeline) :
    now.allRows =
      (answersOf (run drainActions isFinish now.effort now []).2).filterMap Answer.row? := by
  unfold allRows drain
  show List.filterMap _ (answersOf _) = _
  congr 1
  funext answer
  cases answer <;> rfl

section

variable
    {start now : Pipeline}
    {history : History}
    {script : List Action}
    {rows : List Row}
    {phase : Phase}

/-- Who drains a stream by the schedule gets the rows that the stream yields. -/
theorem Yields.allRows
    (yields : Yields start script rows phase)
    (first : Pipeline.Undisturbed start [] start)
    (fed : start.source.IsFedBy script)
    (run : Pipeline.Run start history now)
    (done : history.outside = script)
    (silent : history.answers = []) :
    now.allRows = rows := by
  rcases Pipeline.exists_run Pipeline.drainActions Pipeline.isFinish now.effort now [] with
    ⟨more, further, shown, known, halts⟩
  have drain : ∀ step ∈ more, step.action.drains = true :=
    fun step member => Pipeline.drains_of_mem_drainActions (known step member)
  have whole := run.append further
  have outside : History.outside (history ++ more) = script := by
    rw [History.outside_append, History.outside_eq_nil drain, List.append_nil, done]
  have answers : History.answers (history ++ more) = more.answers := by
    rw [History.answers, List.filterMap_append, ← History.answers, ← History.answers, silent,
      List.nil_append]
  have obeys : History.outside (history ++ more) <+: script := outside ▸ List.prefix_rfl
  have finished : .finished ∈ more.answers := by
    cases halts with
    | @stopped event shows stop =>
        rw [History.answers_eq, List.mem_filterMap]
        exact ⟨event, shows, Event.answer?_of_isFinish stop⟩
    | stuck idle =>
        -- A stream that yields rows is never stuck, and its script is over already.
        rcases yields.progress whole obeys with ⟨step, same, inside⟩
        cases drains : step.action.drains with
        | true =>
            have possible : (step.before.step step.action).isSome = true := by
              rw [step.taken]
              rfl
            rw [same] at possible
            exact absurd idle (Pipeline.CanAct.not_stuck ⟨step.action, drains, possible⟩)
        | false =>
            rw [History.outside_concat _ drains, outside] at inside
            have shorter := inside.length_le
            rw [List.length_append] at shorter
            exact absurd shorter (Nat.not_succ_le_self _)
    | spent long =>
        have calm := (run.of_script fed (done ▸ List.prefix_rfl)).1
        by_cases told : .finished ∈ more.answers
        · exact told
        · have spent := run.potential_le_of_drains first calm further drain told
          have enough := now.potential_lt_effort
          omega
  have given := (yields.complete whole obeys (answers ▸ finished)).1
  rw [History.given, answers] at given
  rw [Pipeline.allRows_eq, shown, List.append_nil, History.answersOf_events, given]

end

end LogRows.Stream
