import LogRows.Proofs.LineSplitting
import LogRows.Proofs.Stream.Draining

/-!
# What the modes of reading yield

A file that is read to its end, an open stream and a file that grows are read by
three different workers.  What a consumer gets of them is said here by the lines of
their bytes alone (`listing`), for all sizes of queue and reads, for all ways in
which the bytes arrive and for all orders in which the parties take their steps.

A file that is followed never ends, so the line that no newline has ended yet is
held back.  A line that has become too long is not: it is reported at once.
-/

namespace LogRows.Stream

/-- The rows of some bytes that a filter lets pass; failed rows always pass. -/
def listing (filter : Filter) (content : List UInt8) : List Row :=
  ((Line.ofBytes maxLineBytes content).filterMap rowOfLine?).filter
    fun row => row.isFailed || filter.accepts row

/-- The row of a last line that no newline has ended and that is not known to be too long. -/
def heldBack (content : List UInt8) : List Row :=
  (Line.unended? maxLineBytes content).toList.filterMap rowOfLine?

/--
What it means that a stream yields rows and ends in a phase, while the outside does what a
script says, one action after the other and each at any time.
-/
structure Yields
    (start : Pipeline)
    (script : List Action)
    (rows : List Row)
    (phase : Phase) :
    Prop where
  /-- The consumer gets the rows in their order. -/
  inOrder :
    ∀ {history now}, Pipeline.Run start history now → history.outside <+: script →
      history.given <+: rows
  /-- When the consumer is told of the end, it has got all rows. -/
  complete :
    ∀ {history now}, Pipeline.Run start history now → history.outside <+: script →
      .finished ∈ history.answers → history.given = rows ∧ now.phase = phase
  /-- The stream does not get stuck. -/
  progress :
    ∀ {history now}, Pipeline.Run start history now → history.outside <+: script →
      ∃ step : Transition, step.before = now ∧ History.outside (history ++ [step]) <+: script
  /-- The consumer is told of the end after a bounded number of steps. -/
  bounded :
    ∃ bound, ∀ {history now}, Pipeline.Run start history now → history.outside <+: script →
      .finished ∉ history.answers → history.length ≤ bound

/--
What it means that a stream that never ends yields the rows of all the bytes that the outside
gives it, but for the line that no newline has ended yet.
-/
structure Follows (start : Pipeline) : Prop where
  /-- The consumer gets the rows in their order. -/
  inOrder :
    ∀ {history now}, Pipeline.Run start history now →
      (∀ action ∈ history.outside, action.feeds = true) →
      history.given <+: listing .all history.supplied
  /-- When all bytes are read and everybody waits, the consumer has got all other rows. -/
  complete :
    ∀ {history now}, Pipeline.Run start history now →
      (∀ action ∈ history.outside, action.feeds = true) →
      now.source.content = [] → ¬ now.CanAct →
      listing .all history.supplied = history.given ++ heldBack history.supplied
  /-- A change that has been reported makes the worker read all bytes. -/
  reads :
    ∀ {history now more later}, Pipeline.Run start history now →
      (∀ action ∈ history.outside, action.feeds = true) →
      .changed ∈ now.notices → Pipeline.Run now more later → more.outside = [] →
      ¬ later.CanAct → later.source.content = []
  /-- Everybody waits after a bounded number of steps unless the outside does more. -/
  bounded :
    ∀ script : List Action, ∃ bound, ∀ {history now}, Pipeline.Run start history now →
      history.outside = script → (∀ action ∈ script, action.feeds = true) →
      history.length ≤ bound

/-- A script that feeds a source up to its end, or leaves one alone that has its end. -/
inductive Source.IsFedBy (source : Source) : List Action → Prop where
  | nothing
      (unwaiting : source.waits = false) :
      IsFedBy source []
  | supplies
      {supplies : List Supply}
      (waits : source.waits = true)
      (whole : ∀ supply ∈ supplies, supply.isFailure = false) :
      IsFedBy source (supplies.map .grow ++ [.closeSource])

/-- The end comes last in a script. -/
theorem Source.IsFedBy.eq_of_closes
    {source : Source}
    {script done : List Action}
    (fed : source.IsFedBy script)
    (obeys : done ++ [.closeSource] <+: script) :
    done ++ [.closeSource] = script := by
  cases fed with
  | nothing unwaiting => exact List.prefix_nil.mp obeys
  | @supplies supplies waits whole =>
      rcases List.prefix_concat_iff.mp obeys with equal | inside
      · exact equal
      · have member := inside.subset (List.mem_append_right done List.mem_cons_self)
        rcases List.mem_map.mp member with ⟨supply, _, impossible⟩
        cases impossible

theorem Source.IsFedBy.not_grows_last
    {source : Source}
    {done : List Action}
    {supply : Supply} :
    ¬ source.IsFedBy (done ++ [.grow supply]) := by
  generalize whole : done ++ [.grow supply] = script
  intro fed
  cases fed with
  | nothing unwaiting => cases (List.append_eq_nil_iff.mp whole).2
  | supplies waits _ => cases List.singleton_inj.mp (List.append_inj' whole rfl).2

theorem Source.IsFedBy.grows_or_closes
    {source : Source}
    {script : List Action}
    (fed : source.IsFedBy script)
    {action : Action}
    (member : action ∈ script) :
    (∃ supply, supply.isFailure = false ∧ action = .grow supply) ∨ action = .closeSource := by
  cases fed with
  | nothing unwaiting => cases member
  | supplies waits whole =>
      rcases List.mem_append.mp member with grows | closes
      · rcases List.mem_map.mp grows with ⟨supply, given, rfl⟩
        exact .inl ⟨supply, whole supply given, rfl⟩
      · exact .inr (List.mem_singleton.mp closes)

theorem Source.IsFedBy.feeds
    {source : Source}
    {script : List Action}
    (fed : source.IsFedBy script)
    {action : Action}
    (member : action ∈ script) :
    action.feeds = true := by
  rcases fed.grows_or_closes member with ⟨supply, whole, rfl⟩ | rfl
  · simp [Action.feeds, whole]
  · rfl

namespace Pipeline

section

variable
    {start now : Pipeline}
    {history : History}
    {script : List Action}

/-- A run that follows a script is calm, and the source has ended when the script has. -/
theorem Run.of_script
    (run : Run start history now)
    (fed : start.source.IsFedBy script)
    (obeys : history.outside <+: script) :
    (∀ step ∈ history, step.Calm) ∧
      (now.source.waits = false ↔ history.outside = script) := by
  induction run with
  | rest =>
      refine ⟨fun _ member => absurd member List.not_mem_nil, ?_⟩
      cases fed with
      | nothing unwaiting => exact ⟨fun _ => rfl, fun _ => unwaiting⟩
      | supplies waits whole =>
          constructor
          · intro unwaiting
            cases waits.symm.trans unwaiting
          · intro empty
            cases (List.append_eq_nil_iff.mp empty.symm).2
  | @step history step earlier ih =>
      cases drains : step.action.drains with
      | true =>
          rw [History.outside_concat_of_drains _ drains] at obeys ⊢
          rcases ih obeys with ⟨calm, ends⟩
          rw [step.move.waits_eq drains]
          refine ⟨?_, ends⟩
          simp only [List.forall_mem_append, List.forall_mem_singleton]
          exact ⟨calm, .inl drains⟩
      | false =>
          rw [History.outside_concat _ drains] at obeys ⊢
          rcases ih ((List.prefix_append _ _).trans obeys) with ⟨calm, ends⟩
          have unfinished : history.outside ≠ script := by
            rintro rfl
            have shorter := obeys.length_le
            rw [List.length_append] at shorter
            exact absurd shorter (Nat.not_succ_le_self _)
          have waits : step.before.source.waits = true := by
            cases waits : step.before.source.waits with
            | true => rfl
            | false => exact absurd (ends.mp waits) unfinished
          have member := obeys.subset (List.mem_append_right _ List.mem_cons_self)
          constructor
          · simp only [List.forall_mem_append, List.forall_mem_singleton]
            exact ⟨calm, .inr ⟨fed.feeds member, .inr waits⟩⟩
          · rcases fed.grows_or_closes member with ⟨supply, _, grows⟩ | closes
            · have move := step.move
              rw [grows] at move ⊢
              rw [move.waits_of_grow, waits]
              exact ⟨nofun, fun whole => absurd (whole ▸ fed) Source.IsFedBy.not_grows_last⟩
            · have move := step.move
              rw [closes] at move obeys ⊢
              rw [move.waits_of_closeSource]
              exact ⟨fun _ => fed.eq_of_closes obeys, fun _ => rfl⟩

/-- Of the rows that the whole script asks for, the consumer has got the first. -/
theorem Undisturbed.given_isPrefix_of_script
    (undisturbed : Undisturbed start history now)
    (formed : start.buffer.WellFormed)
    (ends : now.source.waits = false ↔ history.outside = script)
    (obeys : history.outside <+: script) :
    history.given <+:
      start.mode.rows
        (start.buffer.ahead (start.source.content ++ script.flatMap Action.supplied)) := by
  refine undisturbed.given_isPrefix.trans ?_
  cases ending : now.position.end? with
  | none =>
      rcases obeys with ⟨rest, todo⟩
      rw [← todo, List.flatMap_append, ← List.append_assoc]
      exact undisturbed.wanted_isPrefix formed ending (rest.flatMap Action.supplied)
  | some taken =>
      cases Position.eq_ended_of_end? ending
      have done := ends.mp (undisturbed.account.ended ending).2
      have whole := undisturbed.wanted_eq formed ending
      rw [History.supplied, done] at whole
      exact whole ▸ List.prefix_rfl

/-- A consumer that is told of the end has got all rows that the script asks for. -/
theorem Undisturbed.given_eq_of_told
    (undisturbed : Undisturbed start history now)
    (formed : start.buffer.WellFormed)
    (ends : now.source.waits = false ↔ history.outside = script)
    (told : Told now) :
    history.given =
      start.mode.rows
        (start.buffer.ahead (start.source.content ++ script.flatMap Action.supplied)) := by
  have delivered : now.position.undelivered = [] := by
    rw [told.gone]
    rfl
  have ending : now.position.end? = some .ended := by
    rw [told.gone]
    rfl
  have done := ends.mp (undisturbed.account.ended ending).2
  have whole := undisturbed.wanted_eq formed ending
  rw [History.supplied, done] at whole
  exact (undisturbed.given_eq delivered told.empty told.held).trans whole

/-- Either the outside has something left to do or somebody else can take a step. -/
theorem Undisturbed.step_of_script
    (undisturbed : Undisturbed start history now)
    (unfollowed : start.mode ≠ .file)
    (fed : start.source.IsFedBy script)
    (ends : now.source.waits = false ↔ history.outside = script)
    (obeys : history.outside <+: script) :
    ∃ step : Transition, step.before = now ∧ History.outside (history ++ [step]) <+: script := by
  rcases obeys with ⟨rest, todo⟩
  cases rest with
  | nil =>
      rw [List.append_nil] at todo
      have course := undisturbed.course
      rcases course.acts_or_rests undisturbed.faultless (ends.mpr todo) with acts | rests
      · rcases acts.step with ⟨step, same, drains⟩
        refine ⟨step, same, [], ?_⟩
        rw [List.append_nil, History.outside_concat_of_drains _ drains, todo]
      · exact absurd (undisturbed.books.worker.mode.symm.trans rests.followed) unfollowed
  | cons action rest =>
      have member : action ∈ script := todo ▸ List.mem_append_right _ List.mem_cons_self
      have free :
          ∃ step : Transition,
            step.before = now ∧ step.action = action ∧ step.action.drains = false := by
        rcases fed.grows_or_closes member with ⟨supply, _, rfl⟩ | rfl
        · exact ⟨⟨now, .grow supply, none, _, rfl⟩, rfl, rfl, rfl⟩
        · exact ⟨⟨now, .closeSource, none, _, rfl⟩, rfl, rfl, rfl⟩
      rcases free with ⟨step, same, taken, outer⟩
      refine ⟨step, same, rest, ?_⟩
      rw [History.outside_concat _ outer, taken, ← todo, List.append_assoc]
      rfl

theorem Run.length_le_of_script
    (run : Run start history now)
    (first : Undisturbed start [] start)
    (calm : ∀ step ∈ history, step.Calm)
    (obeys : history.outside <+: script)
    (untold : .finished ∉ history.answers) :
    history.length ≤ start.potential + Action.costs script := by
  rcases obeys with ⟨rest, todo⟩
  calc
    history.length ≤ now.potential + history.length := Nat.le_add_left _ _
    _ ≤ start.potential + Action.costs history.outside := run.potential_le first calm untold
    _ ≤ start.potential + (Action.costs history.outside + Action.costs rest) :=
      Nat.add_le_add_left (Nat.le_add_right _ _) _
    _ = start.potential + Action.costs script := by rw [← todo, Action.costs_append]

end

end Pipeline

section

variable {start : Pipeline}

/-- A stream over a source with an end yields the rows of all bytes. -/
theorem Yields.of_script
    {script : List Action}
    (first : Pipeline.Undisturbed start [] start)
    (formed : start.buffer.WellFormed)
    (unfollowed : start.mode ≠ .file)
    (fed : start.source.IsFedBy script) :
    Yields start script
      (start.mode.rows
        (start.buffer.ahead (start.source.content ++ script.flatMap Action.supplied)))
      .eof := by
  constructor
  case inOrder =>
    intro history now run obeys
    rcases run.of_script fed obeys with ⟨calm, ends⟩
    exact (run.undisturbed first calm).given_isPrefix_of_script formed ends obeys
  case complete =>
    intro history now run obeys finished
    rcases run.of_script fed obeys with ⟨calm, ends⟩
    have undisturbed := run.undisturbed first calm
    have told := run.told first calm finished
    constructor
    · exact undisturbed.given_eq_of_told formed ends told
    · exact undisturbed.course.stored (.inr told.gone)
  case progress =>
    intro history now run obeys
    rcases run.of_script fed obeys with ⟨calm, ends⟩
    exact (run.undisturbed first calm).step_of_script unfollowed fed ends obeys
  case bounded =>
    refine ⟨start.potential + Action.costs script, ?_⟩
    intro history now run obeys untold
    exact run.length_le_of_script first (run.of_script fed obeys).1 obeys untold

/-- Some run goes on until the consumer is told of the end. -/
theorem Yields.exists_finish
    {script : List Action}
    {rows : List Row}
    {phase : Phase}
    (yields : Yields start script rows phase) :
    ∃ history now,
      Pipeline.Run start history now ∧
        history.outside <+: script ∧ .finished ∈ history.answers := by
  rcases yields.bounded with ⟨bound, bounded⟩
  have goesOn :
      ∀ {left history now},
        Pipeline.Run start history now → history.outside <+: script →
          history.length + left = bound + 1 →
            ∃ history now,
              Pipeline.Run start history now ∧
                history.outside <+: script ∧ .finished ∈ history.answers := by
    intro left
    induction left with
    | zero =>
        intro history now run obeys long
        by_cases told : .finished ∈ history.answers
        · exact ⟨history, now, run, obeys, told⟩
        · have short := bounded run obeys told
          omega
    | succ left ih =>
        intro history now run obeys long
        rcases yields.progress run obeys with ⟨step, rfl, inside⟩
        refine ih (run.step step) inside ?_
        rw [List.length_append, List.length_singleton]
        omega
  exact goesOn .rest (List.nil_prefix) (Nat.zero_add _)

/-- All rows pass a filter that accepts everything. -/
theorem listing_all (content : List UInt8) :
    listing .all content = (Line.ofBytes maxLineBytes content).filterMap rowOfLine? := by
  simp [listing, Filter.accepts_all]

@[simp]
theorem Mode.rows_file (lines : List Line) :
    Mode.file.rows lines = lines.filterMap rowOfLine? := by
  simp [rows, delivers]

@[simp]
theorem Mode.rows_pipe (lines : List Line) :
    Mode.pipe.rows lines = lines.filterMap rowOfLine? := by
  simp [rows, delivers]

/-- Read a whole file. -/
def Pipeline.readWhole (config : Config) (filter : Filter) (content : List UInt8) : Pipeline :=
  spawn (.bounded filter) config .fresh (.withLimit maxLineBytes) ⟨[.bytes content], false⟩

theorem Pipeline.readTail_eq_readWhole
    (config : Config)
    (filter : Filter)
    (content : List UInt8) :
    readTail config .fresh filter 0 content = readWhole config filter content := by
  rw [readTail, if_neg (by simp)]
  rfl

theorem Pipeline.Undisturbed.readBounded
    (config : Config)
    (filter : Filter)
    (buffer : LineBuffer)
    (content : List UInt8) :
    Undisturbed (.spawn (.bounded filter) config .fresh buffer ⟨[.bytes content], false⟩) []
      (.spawn (.bounded filter) config .fresh buffer ⟨[.bytes content], false⟩) := by
  apply Undisturbed.spawn
  · rw [List.forall_mem_singleton]
    rfl
  · intro _
    rfl

theorem Pipeline.Undisturbed.readWhole
    (config : Config)
    (filter : Filter)
    (content : List UInt8) :
    Undisturbed (.readWhole config filter content) [] (.readWhole config filter content) :=
  .readBounded config filter (.withLimit maxLineBytes) content

theorem Pipeline.Undisturbed.watchPipe (config : Config) :
    Undisturbed (.watchPipe config .fresh) [] (.watchPipe config .fresh) := by
  apply Undisturbed.spawn
  · exact List.forall_mem_nil _
  · intro unpiped
    exact absurd rfl unpiped

theorem Pipeline.Undisturbed.watchFile (config : Config) :
    Undisturbed (.watchFile config .fresh) [] (.watchFile config .fresh) := by
  apply Undisturbed.spawn
  · exact List.forall_mem_nil _
  · intro _
    rfl

theorem listing_all_eq_rows (content : List UInt8) :
    listing .all content = Mode.file.rows (Line.ofBytes maxLineBytes content) := by
  rw [listing_all, Mode.rows_file]

namespace Pipeline

variable
    {now : Pipeline}
    {history : History}

/-- In a file that is followed, whoever cannot take a step waits for the file to change. -/
theorem Undisturbed.resting
    (undisturbed : Undisturbed start history now)
    (followed : start.mode = .file)
    (stuck : ¬ now.CanAct) :
    Resting now := by
  have course := undisturbed.course
  have unpiped := Mode.unpiped_of_file (undisturbed.books.worker.mode.trans followed)
  rcases course.pumpless unpiped with ⟨_, _, unwaiting, _⟩
  rcases course.acts_or_rests undisturbed.faultless unwaiting with acts | rests
  · exact absurd acts stuck
  · exact rests

/-- What has been given and what is held back are all rows of the bytes that have been read. -/
theorem Undisturbed.rows_of_resting
    {limit : Nat}
    (undisturbed : Undisturbed start history now)
    (buffer : start.buffer = .withLimit limit)
    (rests : Resting now)
    (empty : now.source.content = []) :
    start.mode.rows (Line.ofBytes limit (start.source.content ++ history.supplied)) =
      history.given ++
        start.mode.rows
          (Line.unended? limit (start.source.content ++ history.supplied)).toList := by
  have delivered : now.position.undelivered = [] := by
    rw [rests.waiting]
    rfl
  have held : now.consumer.held = [] := by
    rw [rests.asked]
    rfl
  have course := undisturbed.course
  have given := undisturbed.given_eq delivered rests.empty held
  rcases undisturbed.account.bytes with ⟨pieces, taken, bytes⟩
  rw [course.end?_of_file rests.followed, Option.toList_none, List.append_nil] at taken
  rw [course.unread_eq (Mode.unpiped_of_file rests.followed), empty, List.append_nil] at bytes
  rw [given, taken, buffer, ← bytes]
  exact start.mode.wanted_unended limit pieces

end Pipeline

/-- A file that is followed yields the rows of all bytes that are appended to it. -/
theorem Follows.watchFile (config : Config) :
    Follows (.watchFile config .fresh) := by
  have first := Pipeline.Undisturbed.watchFile config
  constructor
  case inOrder =>
    intro history now run feeds
    have undisturbed := run.undisturbed first (run.calm_of_feeds rfl feeds)
    have unended := undisturbed.course.end?_of_file undisturbed.books.worker.mode
    have formed := LineBuffer.wellFormed_withLimit maxLineBytes
    have bytes := undisturbed.wanted_isPrefix formed unended []
    rw [listing_all_eq_rows, ← List.append_nil history.supplied]
    exact undisturbed.given_isPrefix.trans bytes
  case complete =>
    intro history now run feeds empty stuck
    have undisturbed := run.undisturbed first (run.calm_of_feeds rfl feeds)
    have rows := undisturbed.rows_of_resting rfl (undisturbed.resting rfl stuck) empty
    rw [listing_all_eq_rows, heldBack, ← Mode.rows_file]
    exact rows
  case reads =>
    intro history now more later run feeds changed further alone stuck
    have heeds := run.heeds first rfl feeds changed further alone
    have whole := run.append further
    have fed : ∀ action ∈ History.outside (history ++ more), action.feeds = true := by
      rw [History.outside_append, alone, List.append_nil]
      exact feeds
    have rests := (whole.undisturbed first (whole.calm_of_feeds rfl fed)).resting rfl stuck
    rcases heeds with told | reading | empty
    · rw [rests.silent] at told
      cases told
    · rw [rests.waiting] at reading
      cases reading
    · exact empty
  case bounded =>
    intro script
    refine ⟨(Pipeline.watchFile config .fresh).potential + Action.costs script, ?_⟩
    intro history now run done feeds
    have calm := run.calm_of_feeds rfl (done ▸ feeds)
    have untold := run.untold_of_file first calm rfl
    exact run.length_le_of_script first calm (done ▸ List.prefix_rfl) untold

/-- A content that is read to its end yields the rows that are ahead of the buffer. -/
theorem Yields.readBounded
    (config : Config)
    (filter : Filter)
    {buffer : LineBuffer}
    (formed : buffer.WellFormed)
    (content : List UInt8) :
    Yields (.spawn (.bounded filter) config .fresh buffer ⟨[.bytes content], false⟩) []
      ((Mode.bounded filter).rows (buffer.ahead content)) .eof := by
  have unfollowed : Mode.bounded filter ≠ .file := by
    intro impossible
    cases impossible
  have reads := Yields.of_script (.readBounded config filter buffer content) formed unfollowed
    (.nothing rfl)
  simpa [Pipeline.spawn, Source.content, Supply.content] using reads

/-- A whole file yields the rows that the filter lets pass. -/
theorem Yields.readTail
    (config : Config)
    (filter : Filter)
    (content : List UInt8) :
    Yields (.readTail config .fresh filter 0 content) [] (listing filter content) .eof := by
  rw [Pipeline.readTail_eq_readWhole, listing, ← LineBuffer.ahead_withLimit]
  exact .readBounded config filter (LineBuffer.wellFormed_withLimit maxLineBytes) content

/-- An open stream yields the rows of all that comes before its end. -/
theorem Yields.watchPipe
    (config : Config)
    {supplies : List Supply}
    (whole : ∀ supply ∈ supplies, supply.isFailure = false) :
    Yields (.watchPipe config .fresh) (supplies.map .grow ++ [.closeSource])
      (listing .all (supplies.flatMap Supply.content)) .eof := by
  have unfollowed : Mode.pipe ≠ .file := by
    intro impossible
    cases impossible
  have watches :
      Yields (.watchPipe config .fresh) (supplies.map .grow ++ [.closeSource]) _ .eof :=
    .of_script (.watchPipe config) (LineBuffer.wellFormed_withLimit maxLineBytes) unfollowed
      (.supplies rfl whole)
  have bytes :
      Source.content ⟨[], true⟩ ++
          (supplies.map Action.grow ++ [Action.closeSource]).flatMap Action.supplied =
        supplies.flatMap Supply.content := by
    simp [Source.content, Action.supplied, List.flatMap_map]
  rw [listing_all, ← Mode.rows_pipe, ← bytes]
  exact watches

/--
All modes of reading yield the rows of the same lines.  A file that is read to its end and an
open stream yield all of them that the filter lets pass, and a file that is followed all but
the row of a last line that no newline has ended and that is not known to be too long.
-/
theorem readModes_yield_listing
    (config : Config)
    (filter : Filter)
    (content : List UInt8)
    (supplies : List Supply)
    (whole : ∀ supply ∈ supplies, supply.isFailure = false) :
    Yields (.readTail config .fresh filter 0 content) [] (listing filter content) .eof ∧
      Yields (.watchPipe config .fresh) (supplies.map .grow ++ [.closeSource])
        (listing .all (supplies.flatMap Supply.content)) .eof ∧
      Follows (.watchFile config .fresh) :=
  ⟨.readTail config filter content, .watchPipe config whole, .watchFile config⟩

/-- An object on a line of its own, read from a file and from a source that is interrupted. -/
theorem readModes_yield_listing_of_object :
    Yields (.readTail .default .fresh .all 0 [0x7B, 0x7D, 0x0A]) []
        (listing .all [0x7B, 0x7D, 0x0A]) .eof ∧
      Yields (.watchPipe .default .fresh)
        [.grow (.bytes [0x7B]), .grow .interruption, .grow (.bytes [0x7D, 0x0A]), .closeSource]
        (listing .all [0x7B, 0x7D, 0x0A]) .eof ∧
      Follows (.watchFile .default .fresh) := by
  apply readModes_yield_listing .default .all [0x7B, 0x7D, 0x0A]
    [.bytes [0x7B], .interruption, .bytes [0x7D, 0x0A]]
  simp [Supply.isFailure]

/-- The rows of the lines that a newline has ended. -/
def endedListing (content : List UInt8) : List Row :=
  ((content.splitOn LineBuffer.newline).dropLast.map (Line.ofPiece maxLineBytes)).filterMap
    rowOfLine?

theorem listing_of_overlong
    {content : List UInt8}
    (long : maxLineBytes < content.length)
    (outside : LineBuffer.newline ∉ content) :
    listing .all content = [.failed .overlong] := by
  have piece := List.splitOn_eq_singleton outside
  rw [listing_all, Line.ofBytes, piece, Line.ofPieces_cons_overlong long]
  rfl

theorem heldBack_of_overlong
    {content : List UInt8}
    (long : maxLineBytes < content.length)
    (outside : LineBuffer.newline ∉ content) :
    heldBack content = [] := by
  have unended : Line.unended content = content := Line.unended_append [] outside
  rw [heldBack, Line.unended?, unended, if_pos (.inr long)]
  rfl

/-- Bytes are appended to a file, and the change is reported before anybody else does anything. -/
theorem Pipeline.Run.of_append (config : Config) (content : List UInt8) :
    ∃ (history : History) (now : Pipeline),
      Run (.watchFile config .fresh) history now ∧
        history.outside = [.grow (.bytes content), .notify .changed] ∧
        .changed ∈ now.notices := by
  have start : Run (.watchFile config .fresh) [] _ := .rest
  have grown := start.step ⟨_, .grow (.bytes content), none, _, rfl⟩
  have told := grown.step ⟨_, .notify .changed, none, _, rfl⟩
  exact ⟨_, _, told, rfl, List.mem_cons_self⟩

/-- A line that has become too long is reported although no newline has ended it. -/
theorem Follows.gives_overlong
    (config : Config)
    {content : List UInt8}
    (long : maxLineBytes < content.length)
    (outside : LineBuffer.newline ∉ content) :
    ∃ (history : History) (now : Pipeline),
      Pipeline.Run (.watchFile config .fresh) history now ∧
        history.outside = [.grow (.bytes content), .notify .changed] ∧
        now.source.content = [] ∧
        ¬ now.CanAct ∧
        history.given = [.failed .overlong] := by
  have follows := Follows.watchFile config
  rcases Pipeline.Run.of_append config content with ⟨history, now, told, done, changed⟩
  have feeds : ∀ action ∈ history.outside, action.feeds = true := by
    rw [done]
    simp [Action.feeds, Supply.isFailure, Notice.isFailure]
  rcases told.exists_rest (.watchFile config) rfl (told.calm_of_feeds rfl feeds) with
    ⟨more, later, further, alone, rests⟩
  have run := told.append further
  have same : History.outside (history ++ more) = history.outside := by
    rw [History.outside_append, alone, List.append_nil]
  have empty := follows.reads told feeds changed further alone rests
  have given := follows.complete run (same ▸ feeds) empty rests
  have supplied : History.supplied (history ++ more) = content := by
    rw [History.supplied, same, done]
    exact List.append_nil content
  rw [supplied, listing_of_overlong long outside, heldBack_of_overlong long outside,
    List.append_nil] at given
  exact ⟨_, later, run, same.trans done, empty, rests, given.symm⟩

/-- What a followed file yields are not just the rows of the lines that a newline has ended. -/
theorem watchFile_not_yields_endedListing :
    ∃ (history : History) (now : Pipeline),
      Pipeline.Run (.watchFile .default .fresh) history now ∧
        history.outside = [.grow (.bytes (List.replicate 16385 0x78)), .notify .changed] ∧
        now.source.content = [] ∧
        ¬ now.CanAct ∧
        history.given ≠ endedListing (List.replicate 16385 0x78) := by
  have outside : LineBuffer.newline ∉ List.replicate 16385 0x78 := by
    rw [List.mem_replicate]
    rintro ⟨_, impossible⟩
    cases impossible
  have long : maxLineBytes < (List.replicate 16385 (0x78 : UInt8)).length := by
    rw [List.length_replicate]
    decide
  rcases Follows.gives_overlong .default long outside with
    ⟨history, now, run, done, empty, rests, given⟩
  refine ⟨history, now, run, done, empty, rests, ?_⟩
  rw [given, endedListing, List.splitOn_eq_singleton outside]
  nofun

end

end LogRows.Stream
