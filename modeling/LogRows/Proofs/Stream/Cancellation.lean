import LogRows.Proofs.Stream.Delivery

/-!
# Cancellation

A call that cancels a scope sets the flag and then disconnects the signal, and calls may
race.  Whatever their order, only one of them finds the flag unset (`History.setters`), and
that one owes the signal until it returns.

The flag is never taken back.  Whoever looks at it delivers nothing any more, so only a
worker that has looked before can still put its one row into the queue, and what the
queue holds stays there: a request looks at the flag before it waits and again before it
answers.  The signal comes after the flag, so nobody is woken by it without a cancellation.
-/

namespace LogRows.Stream

/-- What the steps of a call that cancels a scope do. -/
theorem Scope.cases_of_advance
    {scope after : Scope}
    {call next : CancelCall}
    (advances : scope.advance call = some (after, next)) :
    (call = .begun ∧ scope.cancelled = true ∧ after = scope ∧ next = .returned) ∨
      (call = .begun ∧ scope.cancelled = false ∧ after = ⟨true, scope.signalled⟩ ∧
        next = .owing) ∨
      (call = .owing ∧ after = ⟨scope.cancelled, true⟩ ∧ next = .returned) := by
  cases call with
  | begun =>
      rw [advance] at advances
      split at advances
      case isTrue cancelled =>
        cases advances
        exact .inl ⟨rfl, cancelled, rfl, rfl⟩
      case isFalse uncancelled =>
        cases advances
        exact .inr (.inl ⟨rfl, Bool.eq_false_iff.mpr uncancelled, rfl, rfl⟩)
  | owing =>
      cases advances
      exact .inr (.inr ⟨rfl, rfl, rfl⟩)
  | returned => cases advances

namespace Transition

/-- The call that sets the flag with a step. -/
def setter? (step : Transition) : Option Nat :=
  match step.action with
  | .advanceCancel index =>
      if !step.before.scope.cancelled && step.after.scope.cancelled then some index else none
  | _ => none

/-- A party gives up what it waits for because of the signal. -/
inductive Abandons (step : Transition) : Prop where
  /-- The worker no longer waits for room in the queue. -/
  | send
      {row : Row}
      {rest : List Row}
      {next : Next}
      {refused : Phase}
      (offering : step.before.position = .offering row rest next refused)
      (woken : step.action = .work .signal)
  /-- The worker no longer waits for a notice. -/
  | notice
      (waiting : step.before.position = .waiting)
      (woken : step.action = .work .signal)
  /-- A request no longer waits for a row. -/
  | request
      {timed : Bool}
      (selecting : step.before.consumer = .selecting timed)
      (woken : step.action = .consume .signal)

/-- Nobody gives anything up before the signal is disconnected. -/
theorem Abandons.signalled
    {step : Transition}
    (abandons : step.Abandons) :
    step.before.scope.signalled = true := by
  have taken := step.taken
  cases signalled : step.before.scope.signalled with
  | true => rfl
  | false =>
      cases abandons with
      | send offering woken =>
          rw [woken] at taken
          simp [Pipeline.step, Pipeline.workStep, offering, signalled] at taken
      | notice waiting woken =>
          rw [woken] at taken
          simp [Pipeline.step, Pipeline.workStep, waiting, signalled] at taken
      | request selecting woken =>
          rw [woken] at taken
          simp [Pipeline.step, Pipeline.consumeStep, selecting, signalled] at taken

end Transition

namespace History

/-- The calls that have set the flag. -/
def setters (history : History) : List Nat :=
  history.filterMap Transition.setter?

@[simp]
theorem setters_concat (history : History) (step : Transition) :
    setters (history ++ [step]) = history.setters ++ step.setter?.toList := by
  simp [setters, List.filterMap_cons]
  cases step.setter? <;> rfl

end History

/-- The rows that a worker puts into the queue without another look at the flag. -/
def Position.offered : Position → List Row
  | .offering row _ _ _ => [row]
  | _ => []

@[simp]
theorem Position.offered_delivering
    (rows : List Row)
    (next : Next)
    (refused : Phase) :
    (Position.delivering rows next refused).offered = [] := by
  cases rows with
  | nil => cases next <;> rfl
  | cons row rest => rfl

theorem Position.length_offered_le (position : Position) :
    position.offered.length ≤ 1 := by
  cases position with
  | offering row rest next refused => exact Nat.le_refl 1
  | _ => exact Nat.zero_le 1

namespace Pipeline

/-- What holds of the calls that cancel a scope, of which some have set the flag. -/
structure CallsSound (setters : List Nat) (now : Pipeline) : Prop where
  returned : .returned ∈ now.calls → now.scope.cancelled = true
  /-- The flag is set once. -/
  once : setters.length = if now.scope.cancelled then 1 else 0
  /-- The call that has set the flag does not return before it has disconnected the signal. -/
  owes :
    ∀ index ∈ setters,
      now.calls[index]? = some .owing ∨
        (now.calls[index]? = some .returned ∧ now.scope.signalled = true)

section

variable
    {start now after later : Pipeline}
    {action : Action}
    {intake : Option Intake}
    {event : Option Event}
    {history more : History}
    {setters : List Nat}

/-- Only calls that cancel the scope touch it. -/
theorem Move.calls_or_keeps (move : Move now action intake event after) :
    (after.scope = now.scope ∧
        (after.calls = now.calls ∨ after.calls = now.calls ++ [.begun])) ∨
      ∃ index call next,
        action = .advanceCancel index ∧
          now.calls[index]? = some call ∧
          now.scope.advance call = some (after.scope, next) ∧
          after.calls = now.calls.set index next := by
  cases move with
  | work move => exact .inl ⟨move.scope_eq.1, .inl move.scope_eq.2⟩
  | consume move => cases move <;> exact .inl ⟨rfl, .inl rfl⟩
  | pump move => cases move <;> exact .inl ⟨rfl, .inl rfl⟩
  | cancel => exact .inl ⟨rfl, .inr rfl⟩
  | advanceCancel called advances => exact .inr ⟨_, _, _, rfl, called, advances, rfl⟩
  | _ => exact .inl ⟨rfl, .inl rfl⟩

theorem CallsSound.keep
    (sound : CallsSound setters now)
    (scope : after.scope = now.scope)
    (calls : after.calls = now.calls ∨ after.calls = now.calls ++ [.begun]) :
    CallsSound setters after := by
  have older :
      ∀ (index : Nat) (call : CancelCall),
        now.calls[index]? = some call → after.calls[index]? = some call := by
    intro index call called
    rcases calls with same | begins
    · rw [same]
      exact called
    · rw [begins, List.getElem?_append_left (List.getElem?_eq_some_iff.mp called).1]
      exact called
  constructor
  · rw [scope]
    intro returned
    apply sound.returned
    rcases calls with same | begins
    · rw [← same]
      exact returned
    · rw [begins] at returned
      simpa using returned
  · rw [scope]
    exact sound.once
  · rw [scope]
    intro index member
    rcases sound.owes index member with owing | ⟨returned, signalled⟩
    · exact .inl (older index _ owing)
    · exact .inr ⟨older index _ returned, signalled⟩

theorem CallsSound.advance
    {index : Nat}
    {call next : CancelCall}
    (sound : CallsSound setters now)
    (scope : ScopeSound now)
    (called : now.calls[index]? = some call)
    (advances : now.scope.advance call = some (after.scope, next))
    (calls : after.calls = now.calls.set index next) :
    CallsSound
      (setters ++
        (if !now.scope.cancelled && after.scope.cancelled then some index else none).toList)
      after := by
  have own : after.calls[index]? = some next := by
    rw [calls, List.getElem?_set_self (List.getElem?_eq_some_iff.mp called).1]
  have others : ∀ other, other ≠ index → after.calls[other]? = now.calls[other]? := by
    intro other different
    rw [calls, List.getElem?_set_ne different.symm]
  have once := sound.once
  rcases Scope.cases_of_advance advances with
    ⟨rfl, cancelled, same, rfl⟩ | ⟨rfl, uncancelled, flagged, rfl⟩ | ⟨rfl, signalled, rfl⟩
  · -- The flag was set before, so the call returns without a trace.
    rw [same, cancelled]
    rw [cancelled] at once
    simp only [Bool.not_true, Bool.false_and, Bool.false_eq_true, if_false, Option.toList_none,
      List.append_nil]
    refine ⟨fun _ => same ▸ cancelled, by rw [same, cancelled]; exact once, ?_⟩
    intro setter member
    have apart : setter ≠ index := by
      rintro rfl
      rcases sound.owes setter member with owing | ⟨returned, _⟩
      · cases owing.symm.trans called
      · cases returned.symm.trans called
    rw [others setter apart, same]
    exact sound.owes setter member
  · -- The call sets the flag, and is the first one that does.
    rw [uncancelled] at once
    obtain rfl : setters = [] := List.length_eq_zero_iff.mp once
    rw [flagged, uncancelled]
    refine ⟨fun _ => by rw [flagged], by rw [flagged]; rfl, ?_⟩
    intro setter member
    obtain rfl : setter = index := by simpa using member
    exact .inl own
  · -- The call disconnects the signal that it owes.
    have cancelled := scope.owing (List.mem_of_getElem? called)
    rw [cancelled] at once signalled ⊢
    simp only [Bool.not_true, Bool.false_and, Bool.false_eq_true, if_false, Option.toList_none,
      List.append_nil]
    refine ⟨fun _ => by rw [signalled], by rw [signalled]; exact once, ?_⟩
    intro setter member
    by_cases same : setter = index
    · rw [same, signalled]
      exact .inr ⟨own, rfl⟩
    · rw [others setter same, signalled]
      rcases sound.owes setter member with owing | ⟨returned, _⟩
      · exact .inl owing
      · exact .inr ⟨returned, rfl⟩

theorem CallsSound.step
    {step : Transition}
    (sound : CallsSound setters step.before)
    (scope : ScopeSound step.before) :
    CallsSound (setters ++ step.setter?.toList) step.after := by
  rcases step.move.calls_or_keeps with
    ⟨same, calls⟩ | ⟨index, call, next, advancing, called, advances, calls⟩
  · have nobody : step.setter? = none := by
      unfold Transition.setter?
      rw [same, Bool.not_and_self]
      split <;> rfl
    rw [nobody, Option.toList_none, List.append_nil]
    exact sound.keep same calls
  · rw [Transition.setter?, advancing]
    exact sound.advance scope called advances calls

/-- In a cancelled scope only the row that a worker already offers gets into the queue. -/
theorem Move.enqueued_append_offered
    (move : Move now action intake event after)
    (cancelled : now.scope.cancelled = true) :
    (event.bind Event.enqueued?).toList ++ after.position.offered <+: now.position.offered := by
  rcases move.works_or_keeps with working | ⟨_, _, position, _, _, noRow⟩
  · cases working with
    | offers checking uncancelled => cases cancelled.symm.trans uncancelled
    | begins spawned => cases now.mode <;> exact List.nil_prefix
    | ignores => exact List.prefix_rfl
    | @enqueues row rest next refused offering present room =>
        rw [offering, Position.offered_delivering]
        exact List.prefix_rfl
    | reads | hears | ends =>
        rw [Option.bind_none, takeIn, Position.offered_delivering]
        exact List.nil_prefix
    | _ => exact List.nil_prefix
  · rw [noRow, position]
    exact List.prefix_rfl

/-- In a cancelled scope every request is told of the end. -/
theorem Move.answer_eq_finished
    {answer : Answer}
    (move : Move now action intake event after)
    (cancelled : now.scope.cancelled = true)
    (answered : event.bind Event.answer? = some answer) :
    answer = .finished := by
  rcases move.hands_or_keeps with working | consuming | ⟨_, _, _, rfl, _⟩
  · cases working.answer_eq.symm.trans answered
  · cases consuming with
    | turnsBack entered _ =>
        cases answered
        rfl
    | answers holding =>
        rw [cancelled] at answered
        cases answered
        rfl
    | _ => cases answered
  · cases answered

/-- What follows once the flag is set. -/
structure Final (now : Pipeline) (more : History) (later : Pipeline) : Prop where
  cancelled : later.scope.cancelled = true
  /-- No request gets a row. -/
  answers : ∀ answer ∈ more.answers, answer = .finished
  /-- Of all rows, only the one that the worker already offers gets into the queue. -/
  enqueued : more.enqueued ++ later.position.offered <+: now.position.offered

theorem Run.final
    (run : Run now more later)
    (cancelled : now.scope.cancelled = true) :
    Final now more later := by
  induction run with
  | rest => exact ⟨cancelled, nofun, List.prefix_rfl⟩
  | @step more step earlier ih =>
      refine ⟨step.move.cancelled_mono ih.cancelled, ?_, ?_⟩
      · rw [History.answers_concat]
        intro answer member
        rcases List.mem_append.mp member with before | last
        · exact ih.answers answer before
        · exact step.move.answer_eq_finished ih.cancelled (Option.mem_toList.mp last)
      · rw [History.enqueued_concat, List.append_assoc]
        have last := step.move.enqueued_append_offered ih.cancelled
        exact ((List.prefix_append_right_inj _).mpr last).trans ih.enqueued

/-- A request that is made in a cancelled scope is told of the end at its first step. -/
theorem consume_of_cancelled
    {timed : Bool}
    (entered : now.consumer = .entered timed)
    (cancelled : now.scope.cancelled = true)
    (arm : Arm) :
    now.step (.consume arm) =
      some ({ now with consumer := .idle }, some (.answered .finished)) := by
  simp only [step, consumeStep, entered, cancelled, if_true]

end

/-- What the calls that cancel its scope mean for a stream that has taken some steps. -/
structure Cancellation (history : History) (now : Pipeline) : Prop where
  /-- A call that has returned leaves the scope cancelled, whoever has set the flag. -/
  returned : .returned ∈ now.calls → now.scope.cancelled = true
  /-- One call sets the flag, and none does in a scope that is not cancelled. -/
  set : history.setters.length = if now.scope.cancelled then 1 else 0
  /-- When the call that has set the flag has returned, the signal is disconnected. -/
  disconnected :
    ∀ index ∈ history.setters, now.calls[index]? = some .returned → now.scope.signalled = true
  /-- From then on the scope stays cancelled, and no request gets a row. -/
  final :
    now.scope.cancelled = true →
      ∀ more later, Run now more later →
        later.scope.cancelled = true ∧ ∀ answer ∈ more.answers, answer = .finished
  /-- A request that begins then is told of the end at once, whatever the queue holds. -/
  refused :
    now.scope.cancelled = true →
      ∀ timed arm, now.consumer = .entered timed →
        now.step (.consume arm) =
          some ({ now with consumer := .idle }, some (.answered .finished))
  /-- At most one row gets into the queue after the flag is set. -/
  tight :
    now.scope.cancelled = true →
      ∀ more later, Run now more later → more.enqueued.length ≤ 1
  /-- The signal is not disconnected before the flag is set. -/
  signalled : now.scope.cancelled = false → now.scope.signalled = false
  /-- So nobody has given anything up because of it. -/
  kept : now.scope.cancelled = false → ∀ step ∈ history, ¬ step.Abandons

section

variable
    {start now : Pipeline}
    {history : History}

theorem Run.scopeSound
    (run : Run start history now)
    (first : ScopeSound start) :
    ScopeSound now := by
  induction run with
  | rest => exact first
  | step step earlier ih => exact ih.move step.move

theorem Run.callsSound
    (run : Run start history now)
    (first : CallsSound [] start)
    (scope : ScopeSound start) :
    CallsSound history.setters now := by
  induction run with
  | rest => exact first
  | step step earlier ih =>
      rw [History.setters_concat]
      exact ih.step (earlier.scopeSound scope)

theorem Run.not_abandons
    (run : Run start history now)
    (scope : ScopeSound start)
    (uncancelled : now.scope.cancelled = false) :
    ∀ step ∈ history, ¬ step.Abandons := by
  induction run with
  | rest => exact fun _ member => absurd member List.not_mem_nil
  | step step earlier ih =>
      have before := step.move.uncancelled_before uncancelled
      simp only [List.forall_mem_append, List.forall_mem_singleton]
      refine ⟨ih before, fun abandons => ?_⟩
      have cancelled := (earlier.scopeSound scope).signalled abandons.signalled
      cases cancelled.symm.trans before

/--
Cancelling a scope is final: whoever asks for a row afterwards gets none, although the
queue may hold some, and at most one more gets into it.  Without a cancellation nobody
is disturbed by the signal.

This holds of every mode and in every state of every run, however many calls cancel the
scope and in whatever order they and all parties take their steps.
-/
theorem Run.cancellation
    {mode : Mode}
    {config : Config}
    {buffer : LineBuffer}
    {source : Source}
    (run : Run (spawn mode config .fresh buffer source) history now) :
    Cancellation history now := by
  have fresh : ScopeSound (spawn mode config .fresh buffer source) := ⟨nofun, nofun⟩
  have scope := run.scopeSound fresh
  have calls := run.callsSound ⟨nofun, rfl, nofun⟩ fresh
  constructor
  case returned => exact calls.returned
  case set => exact calls.once
  case disconnected =>
    intro index member returned
    rcases calls.owes index member with owing | ⟨_, signalled⟩
    · cases owing.symm.trans returned
    · exact signalled
  case final =>
    intro cancelled more later further
    have final := further.final cancelled
    exact ⟨final.cancelled, final.answers⟩
  case refused =>
    intro cancelled timed arm entered
    exact consume_of_cancelled entered cancelled arm
  case tight =>
    intro cancelled more later further
    calc
      more.enqueued.length ≤ (more.enqueued ++ later.position.offered).length := by simp
      _ ≤ now.position.offered.length := (further.final cancelled).enqueued.length_le
      _ ≤ 1 := now.position.length_offered_le
  case signalled =>
    intro uncancelled
    cases signalled : now.scope.signalled with
    | false => rfl
    | true => cases (scope.signalled signalled).symm.trans uncancelled
  case kept => exact run.not_abandons fresh

/--
Of two calls that race, the first sets the flag and the second returns at once; the row that
the worker offers at that moment still gets into the queue, where it stays.
-/
theorem Run.cancellation_of_race :
    ∃ (history : History) (now : Pipeline),
      Run (readUnreadable .default .fresh .all "gone") history now ∧
        history.setters = [0] ∧
        now.calls = [.owing, .returned] ∧
        now.queue = [.failed (.read "gone")] ∧
        history.answers = [.finished] ∧
        Cancellation history now := by
  have fresh : Run (readUnreadable .default .fresh .all "gone") [] _ := .rest
  have polling := fresh.step ⟨_, .work .channel, _, _, rfl⟩
  have reading := polling.step ⟨_, .work .channel, _, _, rfl⟩
  have checking := reading.step ⟨_, .work .channel, _, _, rfl⟩
  have offering := checking.step ⟨_, .work .channel, _, _, rfl⟩
  have called := offering.step ⟨_, .cancel, _, _, rfl⟩
  have calledAgain := called.step ⟨_, .cancel, _, _, rfl⟩
  have flagged := calledAgain.step ⟨_, .advanceCancel 0, _, _, rfl⟩
  have returned := flagged.step ⟨_, .advanceCancel 1, _, _, rfl⟩
  have enqueued := returned.step ⟨_, .work .channel, _, _, rfl⟩
  have entered := enqueued.step ⟨_, .request false, _, _, rfl⟩
  have answered := entered.step ⟨_, .consume .channel, _, _, rfl⟩
  exact ⟨_, _, answered, rfl, rfl, rfl, rfl, Run.cancellation answered⟩

end

end Pipeline

end LogRows.Stream
