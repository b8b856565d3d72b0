import LogRows.Proofs.Stream.Lifecycle
import LogRows.Proofs.Stream.ReadModes

/-!
# Appends to a file that is followed

The notifier reports a change after every append, and drops the report when too many
notices wait for the worker.  A change among those that wait makes up for that, since
the worker then reads to the end of the file when it comes to it.  So a worker that waits
and has no notice left has read everything (`Run.reads_eq_supplied`).

Notices of other events make up for nothing, but they take room all the same.  When the
greatest number of them waits, a report is lost for good, and the worker may wait for
news with unread bytes before it (`Run.reads_ne_supplied`).
-/

namespace LogRows.Stream

/-- Whether an action appends bytes to the source; that a read will fail is no append. -/
def Action.grows : Action → Bool
  | .grow (.bytes _) => true
  | _ => false

/-- What drains a stream neither appends to its source nor reports a change. -/
theorem Action.grows_of_drains
    {action : Action}
    (drains : action.drains = true) :
    action.grows = false ∧ action ≠ .notify .changed := by
  cases action with
  | grow supply | notify notice => cases drains
  | _ => exact ⟨rfl, nofun⟩

/-- Whether a worker does nothing but wait once its rows are delivered. -/
def Next.rests : Next → Bool
  | await => true
  | _ => false

/-- Whether a worker that nobody tells of a change reads nothing. -/
def Position.rests : Position → Bool
  | .spawned => true
  | .waiting => true
  | .checking _ _ next _ => next.rests
  | .offering _ _ next _ => next.rests
  | _ => false

@[simp]
theorem Position.rests_delivering
    (rows : List Row)
    (next : Next)
    (refused : Phase) :
    (Position.delivering rows next refused).rests = next.rests := by
  cases rows with
  | nil => cases next <;> rfl
  | cons row rest => rfl

theorem Position.rests_of_hasLeft
    {position : Position}
    (left : position.hasLeft = true) :
    position.rests = false := by
  cases position with
  | finishing phase | closing | gone => rfl
  | spawned | polling | reading | waiting | checking | offering => cases left

/-- A change is reported while too many notices wait for the worker and none of them is one. -/
def Transition.LosesChange (step : Transition) : Prop :=
  step.action = .notify .changed ∧
    Pipeline.fileNoticeLimit ≤ step.before.notices.length ∧
    .changed ∉ step.before.notices

namespace History

/-- After every append of bytes the notifier has reported a change. -/
def Reported (history : History) : Prop :=
  ∀ (earlier : History) (growth : Transition) (later : History),
    history = earlier ++ growth :: later →
      growth.action.grows = true →
        ∃ call ∈ later, call.action = .notify .changed

theorem drains_of_outside_eq_nil
    {history : History}
    (alone : history.outside = []) :
    ∀ step ∈ history, step.action.drains = true := by
  intro step member
  have inner := List.filter_eq_nil_iff.mp alone step.action (List.mem_map_of_mem member)
  simpa using inner

/-- The last step of a history is the last step of what comes behind an earlier one. -/
theorem eq_append_of_concat
    {history earlier later : History}
    {step growth : Transition}
    (split : history ++ [step] = earlier ++ growth :: later) :
    (later = [] ∧ step = growth) ∨
      ∃ before, later = before ++ [step] ∧ history = earlier ++ growth :: before := by
  rcases List.eq_nil_or_concat later with rfl | ⟨before, last, rfl⟩
  · left
    have parts := List.append_inj' split rfl
    exact ⟨rfl, List.singleton_inj.mp parts.2⟩
  · right
    rw [List.concat_eq_append] at split ⊢
    rw [← List.cons_append, ← List.append_assoc] at split
    have parts := List.append_inj' split rfl
    cases List.singleton_inj.mp parts.2
    exact ⟨before, rfl, parts.1⟩

theorem Reported.of_change
    {step : Transition}
    (changes : step.action = .notify .changed)
    (history : History) :
    Reported (history ++ [step]) := by
  intro earlier growth later split grows
  rcases eq_append_of_concat split with ⟨_, rfl⟩ | ⟨before, rfl, _⟩
  · rw [changes] at grows
    cases grows
  · exact ⟨step, List.mem_append_right _ List.mem_cons_self, changes⟩

theorem Reported.concat
    {history : History}
    {step : Transition}
    (reported : history.Reported)
    (still : step.action.grows = false) :
    Reported (history ++ [step]) := by
  intro earlier growth later split grows
  rcases eq_append_of_concat split with ⟨_, rfl⟩ | ⟨before, rfl, whole⟩
  · cases still.symm.trans grows
  · rcases reported earlier growth before whole grows with ⟨call, member, changes⟩
    exact ⟨call, List.mem_append_left _ member, changes⟩

theorem Reported.append
    {history more : History}
    (reported : history.Reported)
    (still : ∀ step ∈ more, step.action.grows = false) :
    Reported (history ++ more) := by
  induction more generalizing history with
  | nil =>
      rw [List.append_nil]
      exact reported
  | cons step more ih =>
      rw [List.forall_mem_cons] at still
      rw [List.append_cons]
      exact ih (reported.concat still.1) still.2

theorem Reported.of_concat
    {history : History}
    {step : Transition}
    (reported : Reported (history ++ [step]))
    (silent : step.action ≠ .notify .changed) :
    history.Reported := by
  rintro earlier growth later rfl grows
  rcases reported earlier growth (later ++ [step]) (by simp) grows with ⟨call, member, changes⟩
  rcases List.mem_append.mp member with member | last
  · exact ⟨call, member, changes⟩
  · cases List.mem_singleton.mp last
    exact absurd changes silent

theorem not_reported_of_grows
    {step : Transition}
    (grows : step.action.grows = true)
    (history : History) :
    ¬ Reported (history ++ [step]) := by
  intro reported
  rcases reported history step [] rfl grows with ⟨call, impossible, _⟩
  cases impossible

end History

namespace Pipeline

/-- A worker that waits has a change to hear of, now or later, or nothing to read. -/
def Attends (owed : Prop) (now : Pipeline) : Prop :=
  now.position.rests = true → owed ∨ .changed ∈ now.notices ∨ now.source.content = []

section

variable
    {now after : Pipeline}
    {action : Action}
    {intake : Option Intake}
    {event : Option Event}
    {owed later : Prop}

theorem Attends.work
    (attends : Attends owed now)
    (positive : 0 < now.chunk)
    (move : WorkMove now intake event after) :
    Attends owed after := by
  cases move with
  | begins position => exact fun _ => attends (by rw [position]; rfl)
  | looks | retries | wakes | quits | deserted | refuses | stores | closes => exact nofun
  | @reads result source taken reading read takes =>
      intro impossible
      rw [takeIn, Position.rests_delivering] at impossible
      rcases taken.next_eq_or_finish .poll with same | ⟨phase, ends⟩
      · rw [same] at impossible
        cases impossible
      · rw [ends] at impossible
        cases impossible
  | rests reading read unbounded =>
      -- Only here a worker comes to rest of itself, and the read has just found the end.
      intro _
      have nothing := (Source.explains_of_read positive read).2.1
      exact .inr (.inr (congrArg (List.flatMap Supply.content) nothing))
  | @hears notice later taken waiting noticed takes =>
      intro _
      rcases attends (by rw [waiting]; rfl) with owes | told | nothing
      · exact .inl owes
      · rw [noticed] at told
        rcases List.mem_cons.mp told with rfl | told
        · cases takes
        · exact .inr (.inl told)
      · exact .inr (.inr nothing)
  | @ignores later waiting noticed =>
      intro _
      rcases attends (by rw [waiting]; rfl) with owes | told | nothing
      · exact .inl owes
      · rw [noticed] at told
        rcases List.mem_cons.mp told with impossible | told
        · cases impossible
        · exact .inr (.inl told)
      · exact .inr (.inr nothing)
  | ends waiting silent closed piped =>
      intro impossible
      rw [takeIn, Position.rests_delivering] at impossible
      cases impossible
  | offers position =>
      rw [Attends, position] at attends
      exact attends
  | enqueues position =>
      rw [Attends, position] at attends
      rw [Attends, Position.rests_delivering]
      exact attends

/-- A supply without bytes leaves nothing that could stay unread. -/
theorem Attends.supply
    (attends : Attends owed now)
    {supply : Supply}
    (empty : supply.content = []) :
    Attends owed { now with source := now.source.grow supply } := by
  intro rests
  rw [Source.content_grow, empty, List.append_nil]
  exact attends rests

/-- An append owes a report, which brings a change unless one is already there. -/
theorem Attends.move
    (attends : Attends owed now)
    (positive : 0 < now.chunk)
    (wiring : Wiring now)
    (followed : now.mode = .file)
    (kept :
      action = .notify .changed →
        fileNoticeLimit ≤ now.notices.length → .changed ∈ now.notices)
    (carried : action ≠ .notify .changed → owed → later)
    (grown : action.grows = true → later)
    (move : Move now action intake event after) :
    Attends later after := by
  have goesOn : action ≠ .notify .changed → Attends later now := by
    intro silent rests
    exact (attends rests).imp_left (carried silent)
  cases move with
  | work move => exact (goesOn nofun).work positive move
  | consume move => cases move <;> exact goesOn nofun
  | pump move =>
      have gone := wiring.pump.resolve_left (Mode.unpiped_of_file followed)
      cases move with
      | reads reading | retries reading | ends reading => cases gone.symm.trans reading
      | leaves holding | passes holding | passesFailure holding => cases gone.symm.trans holding
  | @notify notice _ _ _ _ _ =>
      intro rests
      cases notice with
      | changed => exact .inr (.inl (List.mem_append_right _ List.mem_cons_self))
      | _ =>
          rcases goesOn nofun rests with owes | told | nothing
          · exact .inl owes
          · exact .inr (.inl (List.mem_append_left _ told))
          · exact .inr (.inr nothing)
  | @lose notice _ about _ lost =>
      cases notice with
      | changed =>
          intro rests
          rcases lost with left | full
          -- No worker that rests has left, so the report found no room.
          · cases (Position.rests_of_hasLeft left).symm.trans rests
          · exact .inr (.inl (kept rfl full))
      | _ => exact goesOn nofun
  | @grow supply =>
      intro rests
      cases supply with
      | bytes content => exact .inl (grown rfl)
      | interruption | failure reason => exact (goesOn nofun).supply rfl rests
  | _ => exact goesOn nofun

end

section

variable
    {config : Config}
    {history : History}
    {now : Pipeline}

theorem Run.attends
    (run : Run (watchFile config .fresh) history now)
    (kept : ∀ step ∈ history, ¬ step.LosesChange) :
    Attends (¬ history.Reported) now := by
  -- What is owed is a report of the last append: it begins with the append, and only a
  -- change that the notifier reports settles it.
  induction run with
  | rest => exact fun _ => .inr (.inr rfl)
  | @step history step earlier ih =>
      simp only [List.forall_mem_append, List.forall_mem_singleton] at kept
      have conduct := earlier.conduct (.spawn .file config (.withLimit maxLineBytes) ⟨[], false⟩)
      refine (ih kept.1).move conduct.readings.chunk conduct.wiring conduct.books.worker.mode
        ?_ ?_ ?_ step.move
      · intro changes full
        by_cases told : .changed ∈ step.before.notices
        · exact told
        · exact absurd ⟨changes, full, told⟩ kept.2
      · intro silent unreported reported
        exact unreported (reported.of_concat silent)
      · exact fun grows => History.not_reported_of_grows grows history

/--
A worker that follows a file and waits, with no notice left, has read every byte that was
appended, if the notifier has reported every append and none of its reports was lost on
notices without a change among them.
-/
theorem Run.reads_eq_supplied
    (run : Run (watchFile config .fresh) history now)
    (kept : ∀ step ∈ history, ¬ step.LosesChange)
    (reported : history.Reported)
    (waiting : now.position = .waiting)
    (silent : now.notices = []) :
    history.reads.flatMap ReadResult.content = history.supplied := by
  have conduct := run.conduct (.spawn .file config (.withLimit maxLineBytes) ⟨[], false⟩)
  have nothing : now.source.content = [] := by
    rcases run.attends kept (by rw [waiting]; rfl) with unreported | told | nothing
    · exact absurd reported unreported
    · rw [silent] at told
      cases told
    · exact nothing
  have bytes := conduct.readings.bytes
  rw [nothing, List.append_nil] at bytes
  exact bytes

/-- One append that the notifier reports at once. -/
theorem Run.exists_reported (config : Config) (content : List UInt8) :
    ∃ (history : History) (now : Pipeline),
      Run (watchFile config .fresh) history now ∧
        history.outside = [.grow (.bytes content), .notify .changed] ∧
        history.Reported ∧
        ∀ step ∈ history, ¬ step.LosesChange := by
  let growth : Transition := ⟨watchFile config .fresh, .grow (.bytes content), none, _, rfl⟩
  let report : Transition := ⟨growth.after, .notify .changed, none, _, rfl⟩
  have run : Run (watchFile config .fresh) ([growth] ++ [report]) report.after :=
    (Run.rest.step growth).step report
  refine ⟨_, _, run, rfl, .of_change rfl _, ?_⟩
  rw [List.forall_mem_append, List.forall_mem_singleton, List.forall_mem_singleton]
  constructor
  · rintro ⟨impossible, _⟩
    cases impossible
  · rintro ⟨_, full, _⟩
    exact Nat.not_succ_le_zero 63 full

/-- One letter that is appended, reported at once and read. -/
theorem Run.reads_eq_supplied_of_letter :
    ∃ (history : History) (now : Pipeline),
      Run (watchFile .default .fresh) history now ∧
        now.position = .waiting ∧
        now.notices = [] ∧
        history.supplied = [0x61] ∧
        history.reads.flatMap ReadResult.content = [0x61] := by
  rcases Run.exists_reported .default [0x61] with ⟨history, now, told, done, reported, kept⟩
  have first := Undisturbed.watchFile .default
  have feeds : ∀ action ∈ history.outside, action.feeds = true := by
    rw [done]
    simp [Action.feeds, Supply.isFailure, Notice.isFailure]
  rcases told.exists_rest first rfl (told.calm_of_feeds rfl feeds) with
    ⟨more, later, further, alone, stuck⟩
  have whole := told.append further
  have same : History.outside (history ++ more) = history.outside := by
    rw [History.outside_append, alone, List.append_nil]
  have rests := (whole.undisturbed first (whole.calm_of_feeds rfl (same ▸ feeds))).resting rfl stuck
  have supplied : History.supplied (history ++ more) = [0x61] := by
    rw [History.supplied, same, done]
    rfl
  have drains := History.drains_of_outside_eq_nil alone
  have still := fun step member => (Action.grows_of_drains (drains step member)).1
  have unheard : ∀ step ∈ more, ¬ step.LosesChange :=
    fun step member loses => (Action.grows_of_drains (drains step member)).2 loses.1
  have read :=
    Run.reads_eq_supplied whole (List.forall_mem_append.mpr ⟨kept, unheard⟩)
      (reported.append still) rests.waiting rests.silent
  exact ⟨_, later, whole, rests.waiting, rests.silent, supplied, read.trans supplied⟩

end

/-! ## A report that is lost -/

section

variable
    {start now : Pipeline}
    {history : History}

/-- Other events may fill the room for notices before the worker comes to them. -/
theorem Run.exists_crowd
    (run : Run start history now)
    (followed : now.mode = .file)
    (unclosed : now.noticesClosed = false)
    (present : now.position.hasLeft = false)
    (count : Nat)
    (room : now.notices.length + count ≤ fileNoticeLimit) :
    ∃ more : History,
      Run start (history ++ more)
          { now with notices := now.notices ++ List.replicate count .other } ∧
        more.reads = [] ∧
        ∀ step ∈ more, step.action.grows = false := by
  induction count generalizing history now with
  | zero => exact ⟨[], by simpa using run, rfl, List.forall_mem_nil _⟩
  | succ count ih =>
      have free : now.notices.length < fileNoticeLimit := by omega
      let step : Transition :=
        { before := now
          action := .notify .other
          event := none
          after := { now with notices := now.notices ++ [.other] }
          taken := by simp [Pipeline.step, notifyStep, followed, unclosed, present, free] }
      have less : step.after.notices.length + count ≤ fileNoticeLimit := by
        simp only [step, List.length_append, List.length_singleton]
        omega
      rcases ih (run.step step) followed unclosed present less with ⟨more, later, reads, still⟩
      refine ⟨step :: more, ?_, ?_, ?_⟩
      · rw [List.append_cons]
        simpa [step, List.replicate_succ] using later
      · have silent : step.read? = none := rfl
        rw [History.reads, List.filterMap_cons, silent]
        exact reads
      · rw [List.forall_mem_cons]
        exact ⟨rfl, still⟩

/-- The worker looks at other events one by one and goes on waiting. -/
theorem Run.exists_ignoring
    (run : Run start history now)
    (waiting : now.position = .waiting)
    (count : Nat)
    (crowd : now.notices = List.replicate count .other) :
    ∃ more : History,
      Run start (history ++ more) { now with notices := [] } ∧
        more.reads = [] ∧
        ∀ step ∈ more, step.action.grows = false := by
  induction count generalizing history now with
  | zero =>
      have silent : now.notices = [] := crowd
      have same : now = { now with notices := [] } := by rw [← silent]
      refine ⟨[], ?_, rfl, List.forall_mem_nil _⟩
      rw [List.append_nil, ← same]
      exact run
  | succ count ih =>
      let step : Transition :=
        { before := now
          action := .work .channel
          event := none
          after := { now with notices := List.replicate count .other }
          taken := by
            simp [Pipeline.step, workStep, waiting, crowd, List.replicate_succ, heed] }
      rcases ih (run.step step) waiting rfl with ⟨more, later, reads, still⟩
      refine ⟨step :: more, ?_, ?_, ?_⟩
      · rw [List.append_cons]
        exact later
      · have silent : step.read? = none := by
          simp [step, Transition.read?, Pipeline.read?, waiting]
        rw [History.reads, List.filterMap_cons, silent]
        exact reads
      · rw [List.forall_mem_cons]
        exact ⟨rfl, still⟩

/-- Whenever a worker waits and has nothing to hear of, an append can be lost on it. -/
theorem Run.exists_lost_append
    (run : Run start history now)
    (followed : now.mode = .file)
    (unclosed : now.noticesClosed = false)
    (waiting : now.position = .waiting)
    (silent : now.notices = [])
    (content : List UInt8) :
    ∃ more : History,
      Run start (history ++ more) { now with source := now.source.grow (.bytes content) } ∧
        more.reads = [] ∧
        History.Reported (history ++ more) := by
  have present : now.position.hasLeft = false := by rw [waiting]; rfl
  have room : now.notices.length + fileNoticeLimit ≤ fileNoticeLimit := by simp [silent]
  rcases run.exists_crowd followed unclosed present fileNoticeLimit room with
    ⟨crowd, full, unread, _⟩
  rw [silent, List.nil_append] at full
  let growth : Transition :=
    { before := { now with notices := List.replicate fileNoticeLimit .other }
      action := .grow (.bytes content)
      event := none
      after :=
        { now with
          notices := List.replicate fileNoticeLimit .other
          source := now.source.grow (.bytes content) }
      taken := rfl }
  let report : Transition :=
    { before := growth.after
      action := .notify .changed
      event := none
      after := growth.after
      taken := by simp [Pipeline.step, notifyStep, growth, followed, unclosed] }
  have lost : Run start (history ++ crowd ++ [growth] ++ [report]) growth.after :=
    (full.step growth).step report
  rcases lost.exists_ignoring waiting fileNoticeLimit rfl with ⟨ignored, later, unheard, still⟩
  have told : History.Reported (history ++ crowd ++ [growth] ++ [report] ++ ignored) :=
    (History.Reported.of_change rfl _).append still
  refine ⟨crowd ++ [growth] ++ [report] ++ ignored, ?_, ?_, ?_⟩
  · simpa only [List.append_assoc, growth, silent] using later
  · simp only [History.reads_append, unread, unheard]
    rfl
  · simpa only [List.append_assoc] using told

/--
An append may stay unread although the notifier reports it: as many other events as there
is room for wait for the worker, so that the report is lost, and the worker makes nothing
of them.
-/
theorem Run.reads_ne_supplied :
    ∃ (history : History) (now : Pipeline),
      Run (watchFile .default .fresh) history now ∧
        now.scope.cancelled = false ∧
        (∀ reason, .failed reason ∉ history.reads) ∧
        history.Reported ∧
        now.position = .waiting ∧
        now.notices = [] ∧
        history.reads.flatMap ReadResult.content ≠ history.supplied := by
  let first : Transition := ⟨watchFile .default .fresh, .work .channel, none, _, rfl⟩
  have waiting : Run (watchFile .default .fresh) [first] first.after := Run.rest.step first
  rcases waiting.exists_lost_append rfl rfl rfl rfl [0x61] with ⟨more, lost, unread, reported⟩
  have nothing : History.reads ([first] ++ more) = [] := by
    rw [History.reads_append, unread]
    rfl
  have conduct := lost.conduct (.spawn .file .default (.withLimit maxLineBytes) ⟨[], false⟩)
  have bytes := conduct.readings.bytes
  refine ⟨_, _, lost, rfl, ?_, reported, rfl, rfl, ?_⟩
  · intro reason
    rw [nothing]
    exact List.not_mem_nil
  · intro equal
    rw [equal] at bytes
    cases List.append_right_eq_self.mp bytes

end

end Pipeline

end LogRows.Stream
