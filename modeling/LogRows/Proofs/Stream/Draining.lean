import LogRows.Proofs.Stream.Account

/-!
# Runs that drain a stream

The consumer asks for rows again and again, worker and pump do what they have to,
and the outside feeds the stream.  Along such a run, whatever the order of steps,
nothing disturbs the stream.  It is at rest after a bounded number of steps, and a
consumer that is told of the end has got every row.
-/

namespace LogRows.Stream

/-- Whether a step is one of worker, pump or consumer, or feeds a source that has not ended. -/
def Transition.Calm (step : Transition) : Prop :=
  step.action.drains = true ∨
    (step.action.feeds = true ∧
      (step.before.mode = .file ∨ step.before.source.waits = true))

theorem Transition.Calm.drains_or_feeds
    {step : Transition}
    (calm : step.Calm) :
    step.action.drains = true ∨ step.action.feeds = true := by
  rcases calm with drains | ⟨feeds, _⟩
  · exact .inl drains
  · exact .inr feeds

/-- The steps that an action of the outside may cause, with its own. -/
def Action.cost : Action → Nat
  | .grow supply => supply.cost + 1
  | .closeSource => 1
  | .notify notice => notice.cost + 1
  | _ => 0

/-- The steps that actions of the outside may cause. -/
def Action.costs (actions : List Action) : Nat :=
  actions.foldr (fun action cost => action.cost + cost) 0

@[simp]
theorem Action.costs_append (actions later : List Action) :
    Action.costs (actions ++ later) = Action.costs actions + Action.costs later := by
  induction actions with
  | nil => exact (Nat.zero_add _).symm
  | cons action actions ih =>
      show action.cost + Action.costs (actions ++ later) = _
      rw [ih]
      exact (Nat.add_assoc _ _ _).symm

namespace History

/-- What the outside has done. -/
def outside (history : History) : List Action :=
  history.actions.filter fun action => !action.drains

/-- The bytes that the outside has given. -/
def supplied (history : History) : List UInt8 :=
  history.outside.flatMap Action.supplied

theorem outside_concat_of_drains
    (history : History)
    {step : Transition}
    (drains : step.action.drains = true) :
    outside (history ++ [step]) = history.outside := by
  simp [outside, drains]

theorem outside_concat
    (history : History)
    {step : Transition}
    (outer : step.action.drains = false) :
    outside (history ++ [step]) = history.outside ++ [step.action] := by
  simp [outside, outer]

theorem outside_append (history more : History) :
    outside (history ++ more) = history.outside ++ more.outside := by
  simp [outside, actions]

theorem supplied_concat (history : History) (step : Transition) :
    supplied (history ++ [step]) = history.supplied ++ step.action.supplied := by
  cases drains : step.action.drains with
  | false =>
      rw [supplied, outside_concat _ drains]
      simp [supplied]
  | true =>
      have nothing : step.action.supplied = [] := by
        cases action : step.action with
        | grow supply =>
            rw [action] at drains
            cases drains
        | _ => rfl
      rw [supplied, outside_concat_of_drains _ drains, nothing, List.append_nil, supplied]

end History

namespace Pipeline

/-- All that holds of a stream that nothing has disturbed since it stood at `start`. -/
structure Undisturbed (start : Pipeline) (history : History) (now : Pipeline) : Prop where
  books : Books start history now
  faultless : Faultless now
  course : Course now
  account : Account history.intakes (start.source.content ++ history.supplied) now

/-- A consumer that has been told of the end finds nothing more. -/
structure Told (now : Pipeline) : Prop where
  gone : now.position = .gone
  empty : now.queue = []
  held : now.consumer.held = []

section

variable
    {start now after : Pipeline}
    {action : Action}
    {intake : Option Intake}
    {event : Option Event}
    {history : History}

theorem CanAct.step (acts : CanAct now) :
    ∃ step : Transition, step.before = now ∧ step.action.drains = true := by
  rcases acts with ⟨action, drains, possible⟩
  rcases Option.isSome_iff_exists.mp possible with ⟨⟨after, event⟩, taken⟩
  exact ⟨⟨now, action, event, after, taken⟩, rfl, drains⟩

theorem Undisturbed.spawn
    (mode : Mode)
    (config : Config)
    (buffer : LineBuffer)
    {source : Source}
    (whole : ∀ supply ∈ source.supplies, supply.isFailure = false)
    (unwaiting : mode ≠ .pipe → source.waits = false) :
    Undisturbed (spawn mode config .fresh buffer source) []
      (spawn mode config .fresh buffer source) where
  books :=
    ⟨⟨nofun, nofun⟩, .spawn mode config .fresh buffer source,
      .spawn mode config .fresh buffer source⟩
  faultless :=
    { chunk := Nat.le_max_right _ _
      capacity := Nat.le_max_right _ _
      scope := rfl
      patient := rfl
      supplies := whole
      notices := nofun
      pump := by
        cases mode <;> nofun }
  course :=
    { next := nofun
      stored := by
        rintro (impossible | impossible) <;> cases impossible
      shut := nofun
      pumpless := by
        intro unpiped
        refine ⟨?_, rfl, unwaiting unpiped, nofun⟩
        cases mode with
        | bounded filter | file => rfl
        | pipe => exact absurd rfl unpiped
      pumped := by
        rintro piped
        cases mode with
        | bounded filter | file => cases piped
        | pipe => exact ⟨⟨nofun, nofun⟩, nofun⟩ }
  account := by
    refine ⟨⟨[], rfl, ?_⟩, nofun, ?_⟩
    · rw [History.supplied]
      cases mode <;> simp [unread, Pipeline.spawn, Pump.content, History.outside, History.actions]
    · intro piped gone
      cases mode with
      | bounded filter | file => cases piped
      | pipe => cases gone

theorem Run.undisturbed
    (run : Run start history now)
    (first : Undisturbed start [] start)
    (calm : ∀ step ∈ history, step.Calm) :
    Undisturbed start history now := by
  induction run with
  | rest => exact first
  | @step history step earlier ih =>
      simp only [List.forall_mem_append, List.forall_mem_singleton] at calm
      have before := ih calm.1
      have quiet := calm.2.drains_or_feeds
      refine ⟨(earlier.step step).books first.books, before.faultless.move step.move quiet,
        before.course.move before.faultless step.move quiet, ?_⟩
      rw [History.intakes_concat, History.supplied_concat, ← List.append_assoc]
      exact before.account.move before.faultless before.course step.move calm.2

/-- Every calm step lowers what is to do, if what the outside adds to it is counted. -/
theorem Move.potential_le
    (move : Move now action intake event after)
    (calm : action.drains = true ∨ action.feeds = true)
    (faultless : Faultless now)
    (untold : event ≠ some (.answered .finished)) :
    after.potential + 1 ≤ now.potential + action.cost := by
  rcases calm with drains | feeds
  · have lower := move.potential_lt drains faultless.chunk faultless.patient untold
    omega
  · cases move with
    | @notify notice followed about unclosed present room =>
        have cost := Notice.costs_concat now.notices notice
        simp only [potential, Action.cost, cost]
        omega
    | lose =>
        simp only [Action.cost]
        omega
    | @grow supply =>
        have cost := Source.cost_grow now.source supply
        simp only [potential, Action.cost, cost]
        omega
    | closeSource => exact Nat.le_refl _
    | _ => cases feeds

theorem Run.potential_le
    (run : Run start history now)
    (first : Undisturbed start [] start)
    (calm : ∀ step ∈ history, step.Calm)
    (untold : .finished ∉ history.answers) :
    now.potential + history.length ≤ start.potential + Action.costs history.outside := by
  induction run with
  | rest => exact Nat.le_add_right _ _
  | @step history step earlier ih =>
      simp only [List.forall_mem_append, List.forall_mem_singleton] at calm
      rw [History.answers_concat, List.mem_append, not_or] at untold
      have quiet := calm.2.drains_or_feeds
      have before := ih calm.1 untold.1
      have faultless := (earlier.undisturbed first calm.1).faultless
      have unfinished : step.event ≠ some (.answered .finished) := by
        intro told
        rw [told] at untold
        exact untold.2 List.mem_cons_self
      have lower := step.move.potential_le quiet faultless unfinished
      have cost :
          Action.costs (History.outside (history ++ [step])) =
            Action.costs history.outside + step.action.cost := by
        cases drains : step.action.drains with
        | true =>
            have free : step.action.cost = 0 := by
              cases action : step.action with
              | grow | closeSource | notify =>
                  rw [action] at drains
                  cases drains
              | _ => rfl
            rw [History.outside_concat_of_drains _ drains, free, Nat.add_zero]
        | false =>
            rw [History.outside_concat _ drains, Action.costs_append]
            rfl
      rw [cost, List.length_append, List.length_singleton]
      omega

theorem Told.move
    (told : Told now)
    (move : Move now action intake event after) :
    Told after := by
  rcases told with ⟨gone, empty, held⟩
  have still := (move.of_gone gone).1
  cases move with
  | work move => cases move <;> simp_all
  | consume move =>
      cases move with
      | takes selecting queued => cases empty.symm.trans queued
      | _ => exact ⟨still, empty, rfl⟩
  | pump move => cases move <;> exact ⟨still, empty, held⟩
  | request | drop => exact ⟨still, empty, rfl⟩
  | _ => exact ⟨still, empty, held⟩

theorem Run.told
    (run : Run start history now)
    (first : Undisturbed start [] start)
    (calm : ∀ step ∈ history, step.Calm)
    (finished : .finished ∈ history.answers) :
    Told now := by
  induction run with
  | rest => cases finished
  | @step history step earlier ih =>
      have late := (earlier.step step).undisturbed first calm
      simp only [List.forall_mem_append, List.forall_mem_singleton] at calm
      rw [History.answers_concat, List.mem_append] at finished
      rcases finished with before | told
      · exact (ih calm.1 before).move step.move
      · have answered : step.event = some (.answered .finished) := by
          cases event : step.event with
          | none =>
              rw [event] at told
              cases told
          | some shown =>
              rw [event] at told
              cases shown with
              | enqueued row => cases told
              | answered answer =>
                  rw [List.mem_singleton.mp told]
        rcases step.move.of_finished answered late.faultless.uncancelled with
          ⟨holding, uncancelled, same⟩
        have books := (earlier.undisturbed first calm.1).books
        have gone := (books.complete holding uncancelled).1
        have empty := (books.queue.finished holding uncancelled).1
        rw [same]
        exact ⟨gone, empty, rfl⟩

/-- The consumer of a file that is followed is never told of an end. -/
theorem Run.untold_of_file
    (run : Run start history now)
    (first : Undisturbed start [] start)
    (calm : ∀ step ∈ history, step.Calm)
    (followed : start.mode = .file) :
    .finished ∉ history.answers := by
  intro finished
  have course := (run.undisturbed first calm).course
  have unended := course.end?_of_file (run.mode_eq.trans followed)
  rw [(run.told first calm finished).gone] at unended
  cases unended

theorem Move.waits_eq
    (move : Move now action intake event after)
    (drains : action.drains = true) :
    after.source.waits = now.source.waits := by
  cases move with
  | work move =>
      cases move with
      | reads reading read takes | retries reading read | rests reading read unbounded =>
          exact (Source.supplies_of_read read).2
      | _ => rfl
  | consume move => cases move <;> rfl
  | pump move =>
      cases move with
      | reads reading read gives | retries reading read | ends reading read =>
          exact (Source.supplies_of_read read).2
      | _ => rfl
  | request idle => rfl
  | _ => cases drains

theorem Move.waits_of_grow
    {supply : Supply}
    (move : Move now (.grow supply) intake event after) :
    after.source.waits = now.source.waits := by
  cases move
  rfl

theorem Move.waits_of_closeSource (move : Move now .closeSource intake event after) :
    after.source.waits = false := by
  cases move
  rfl

theorem Undisturbed.wanted_isPrefix
    (undisturbed : Undisturbed start history now)
    (formed : start.buffer.WellFormed)
    (unended : now.position.end? = none)
    (later : List UInt8) :
    start.mode.wanted start.buffer history.intakes <+:
      start.mode.rows
        (start.buffer.ahead (start.source.content ++ history.supplied ++ later)) := by
  rcases undisturbed.account.bytes with ⟨pieces, taken, bytes⟩
  rw [taken, unended, Option.toList_none, List.append_nil, ← bytes, List.append_assoc]
  exact start.mode.wanted_isPrefix formed pieces _

theorem Undisturbed.wanted_eq
    (undisturbed : Undisturbed start history now)
    (formed : start.buffer.WellFormed)
    (ended : now.position.end? = some .ended) :
    start.mode.wanted start.buffer history.intakes =
      start.mode.rows (start.buffer.ahead (start.source.content ++ history.supplied)) := by
  rcases undisturbed.account.bytes with ⟨pieces, taken, bytes⟩
  rcases undisturbed.account.ended ended with ⟨nothing, _⟩
  rw [nothing, List.append_nil] at bytes
  rw [taken, ended, Option.toList_some, ← bytes]
  exact start.mode.wanted_eq_ahead formed pieces

theorem Undisturbed.given_isPrefix (undisturbed : Undisturbed start history now) :
    history.given <+: start.mode.wanted start.buffer history.intakes := by
  have enqueued := (List.prefix_append _ _).trans undisturbed.books.worker.inOrder
  exact undisturbed.books.queue.inOrder.trans enqueued

/-- What nobody holds any more has been given. -/
theorem Undisturbed.given_eq
    (undisturbed : Undisturbed start history now)
    (delivered : now.position.undelivered = [])
    (empty : now.queue = [])
    (held : now.consumer.held = []) :
    history.given = start.mode.wanted start.buffer history.intakes := by
  have uncancelled := undisturbed.faultless.uncancelled
  have handed := undisturbed.books.queue.exact uncancelled
  have enqueued :=
    undisturbed.books.worker.exact (.inr ⟨uncancelled, undisturbed.faultless.present⟩)
  rw [empty, held, List.append_nil, List.append_nil] at handed
  rw [delivered, List.append_nil] at enqueued
  exact handed.trans enqueued

/-- The outside of a file may do what it wants as long as nothing fails. -/
theorem Run.calm_of_feeds
    (run : Run start history now)
    (followed : start.mode = .file)
    (feeds : ∀ action ∈ history.outside, action.feeds = true) :
    ∀ step ∈ history, step.Calm := by
  induction run with
  | rest => exact fun _ member => absurd member List.not_mem_nil
  | @step history step earlier ih =>
      simp only [List.forall_mem_append, List.forall_mem_singleton]
      cases drains : step.action.drains with
      | true =>
          rw [History.outside_concat_of_drains _ drains] at feeds
          exact ⟨ih feeds, .inl drains⟩
      | false =>
          rw [History.outside_concat _ drains] at feeds
          simp only [List.forall_mem_append, List.forall_mem_singleton] at feeds
          exact ⟨ih feeds.1, .inr ⟨feeds.2, .inl (earlier.mode_eq.trans followed)⟩⟩

/-- A worker that has been told of a change does not forget it while the stream is drained. -/
theorem Run.heeds
    {later : Pipeline}
    {more : History}
    (run : Run start history now)
    (first : Undisturbed start [] start)
    (followed : start.mode = .file)
    (feeds : ∀ action ∈ history.outside, action.feeds = true)
    (changed : .changed ∈ now.notices)
    (further : Run now more later)
    (alone : more.outside = []) :
    Heeds later := by
  induction further with
  | rest => exact .inl changed
  | @step more step earlier ih =>
      have drains : step.action.drains = true := by
        cases drains : step.action.drains with
        | true => rfl
        | false =>
            rw [History.outside_concat _ drains] at alone
            cases (List.append_eq_nil_iff.mp alone).2
      rw [History.outside_concat_of_drains _ drains] at alone
      have fed : ∀ action ∈ History.outside (history ++ more), action.feeds = true := by
        rw [History.outside_append, alone, List.append_nil]
        exact feeds
      have whole := run.append earlier
      have undisturbed := whole.undisturbed first (whole.calm_of_feeds followed fed)
      exact (ih alone).move undisturbed.faultless undisturbed.course
        (whole.mode_eq.trans followed) step.move drains

/-- Left to themselves, the parties come to rest. -/
theorem Run.exists_rest
    (run : Run start history now)
    (first : Undisturbed start [] start)
    (followed : start.mode = .file)
    (calm : ∀ step ∈ history, step.Calm) :
    ∃ more later, Run now more later ∧ more.outside = [] ∧ ¬ later.CanAct := by
  induction todo : now.potential using Nat.strongRecOn generalizing history now with
  | ind potential ih =>
      by_cases acts : now.CanAct
      · rcases acts.step with ⟨step, rfl, drains⟩
        have next := run.step step
        have quiet : ∀ taken ∈ history ++ [step], taken.Calm := by
          simp only [List.forall_mem_append, List.forall_mem_singleton]
          exact ⟨calm, .inl drains⟩
        have untold : step.event ≠ some (.answered .finished) := by
          intro told
          apply next.untold_of_file first quiet followed
          rw [History.answers_concat, told]
          exact List.mem_append_right _ List.mem_cons_self
        have faultless := (run.undisturbed first calm).faultless
        have lower := step.move.potential_lt drains faultless.chunk faultless.patient untold
        rcases ih _ (todo ▸ lower) next quiet rfl with ⟨more, later, further, alone, rests⟩
        have alone : History.outside ([step] ++ more) = [] := by
          rw [History.outside_append, alone, List.append_nil]
          exact History.outside_concat_of_drains [] drains
        exact ⟨[step] ++ more, later, (Run.rest.step step).append further, alone, rests⟩
      · exact ⟨[], now, .rest, rfl, acts⟩

end

end Pipeline

end LogRows.Stream
