import LogRows.Stream.Pipeline

/-!
# The moves of a stream's parties

`Pipeline.step` is a function, which makes a stream run; here it is read as a
relation, with one constructor for each thing that a party may do and under what
conditions it may do it.  Everything that holds along the runs of a stream is
proved by cases on these moves.

A move of the worker is labelled with its `Intake`, which is what reaches it from
its source, from the pump or from the notifier.  The rows that a worker sets out
to deliver are determined by what it takes in.
-/

namespace LogRows.Stream

/-- What a worker takes in. -/
inductive Intake where
  | piece (content : List UInt8)
  /-- There is nothing more to come. -/
  | ended
  | failed (reason : String)
  | notifierFailed (reason : String)

namespace Intake

/-- What a worker takes in with a read of its own. -/
def ofRead (mode : Mode) : ReadResult → Option Intake
  | .bytes content => some (.piece content)
  | .ended =>
      match mode with
      | .bounded _ => some .ended
      | _ => none
  | .interrupted => none
  | .failed reason => some (.failed reason)

/-- What a worker takes in with a notice. -/
def ofNotice : Notice → Option Intake
  | .changed => none
  | .other => none
  | .notifierFailed reason => some (.notifierFailed reason)
  | .piece content => some (.piece content)
  | .pumpFailed reason => some (.failed reason)

/-- The line buffer after an intake. -/
def buffer (before : LineBuffer) : Intake → LineBuffer
  | piece content => (before.push content).1
  | ended => before.finish.1
  | failed _ => before
  | notifierFailed _ => before

/-- The rows that an intake asks to deliver. -/
def rows (mode : Mode) (before : LineBuffer) : Intake → List Row
  | piece content => mode.rows (before.push content).2
  | ended => mode.rows before.finish.2.toList
  | failed reason => [.failed (.read reason)]
  | notifierFailed reason => [.failed (.watch reason)]

/-- What a worker does when the rows of an intake are delivered. -/
def next (again : Next) : Intake → Next
  | piece _ => again
  | ended => .finish .eof
  | failed _ => .finish .error
  | notifierFailed _ => again

/-- The phase of a worker that cannot deliver the rows of an intake. -/
def refused : Intake → Phase
  | failed _ => .error
  | _ => .cancelled

end Intake

/-- The notices that come from the notifier of a file. -/
def Notice.isAboutFile : Notice → Bool
  | .changed => true
  | .other => true
  | .notifierFailed _ => true
  | _ => false

namespace Pipeline

/-- The worker takes something in and sets out to deliver its rows. -/
def takeIn (pipeline : Pipeline) (again : Next) (intake : Intake) : Pipeline :=
  { pipeline with
    buffer := intake.buffer pipeline.buffer
    position :=
      .delivering (intake.rows pipeline.mode pipeline.buffer) (intake.next again)
        intake.refused }

/-- What the worker takes in with a step. -/
def intake? (pipeline : Pipeline) : Action → Option Intake
  | .work arm =>
      match pipeline.position, arm with
      | .reading, _ =>
          (pipeline.source.read pipeline.chunk).bind fun (result, _) =>
            Intake.ofRead pipeline.mode result
      | .waiting, .channel =>
          match pipeline.notices, pipeline.noticesClosed, pipeline.mode with
          | notice :: _, _, _ => Intake.ofNotice notice
          | [], true, .pipe => some .ended
          | [], _, _ => none
      | _, _ => none
  | _ => none

/-- The first position of a worker that runs. -/
def firstPosition : Mode → Position
  | .bounded _ => .polling
  | _ => .waiting

/-- The moves of a worker, with what it takes in and what it shows. -/
inductive WorkMove (pipeline : Pipeline) :
    Option Intake → Option Event → Pipeline → Prop where
  | begins
      (spawned : pipeline.position = .spawned) :
      WorkMove pipeline none none
        { pipeline with phase := .streaming, position := firstPosition pipeline.mode }
  | looks
      (polling : pipeline.position = .polling)
      (uncancelled : pipeline.scope.cancelled = false) :
      WorkMove pipeline none none { pipeline with position := .reading }
  /-- The worker stops because its scope is cancelled; it has nothing to deliver. -/
  | quits
      (idle :
        (pipeline.position = .polling ∧ pipeline.scope.cancelled = true) ∨
          (pipeline.position = .waiting ∧ pipeline.scope.signalled = true)) :
      WorkMove pipeline none none { pipeline with position := .finishing .cancelled }
  | reads
      {result : ReadResult}
      {source : Source}
      {intake : Intake}
      (reading : pipeline.position = .reading)
      (read : pipeline.source.read pipeline.chunk = some (result, source))
      (takes : Intake.ofRead pipeline.mode result = some intake) :
      WorkMove pipeline (some intake) none
        ({ pipeline with source := source }.takeIn .poll intake)
  | retries
      {source : Source}
      (reading : pipeline.position = .reading)
      (read : pipeline.source.read pipeline.chunk = some (.interrupted, source)) :
      WorkMove pipeline none none
        { pipeline with source := source, position := .polling }
  /-- The worker has reached the present end of a file. -/
  | rests
      {source : Source}
      (reading : pipeline.position = .reading)
      (read : pipeline.source.read pipeline.chunk = some (.ended, source))
      (unbounded : Intake.ofRead pipeline.mode .ended = none) :
      WorkMove pipeline none none
        { pipeline with source := source, position := .waiting }
  | hears
      {notice : Notice}
      {later : List Notice}
      {intake : Intake}
      (waiting : pipeline.position = .waiting)
      (noticed : pipeline.notices = notice :: later)
      (takes : Intake.ofNotice notice = some intake) :
      WorkMove pipeline (some intake) none
        ({ pipeline with notices := later }.takeIn .await intake)
  | wakes
      {later : List Notice}
      (waiting : pipeline.position = .waiting)
      (noticed : pipeline.notices = .changed :: later) :
      WorkMove pipeline none none
        { pipeline with notices := later, position := .polling }
  | ignores
      {later : List Notice}
      (waiting : pipeline.position = .waiting)
      (noticed : pipeline.notices = .other :: later) :
      WorkMove pipeline none none { pipeline with notices := later }
  | ends
      (waiting : pipeline.position = .waiting)
      (silent : pipeline.notices = [])
      (closed : pipeline.noticesClosed = true)
      (piped : pipeline.mode = .pipe) :
      WorkMove pipeline (some .ended) none (pipeline.takeIn .await .ended)
  | deserted
      (waiting : pipeline.position = .waiting)
      (silent : pipeline.notices = [])
      (closed : pipeline.noticesClosed = true)
      (unpiped : pipeline.mode ≠ .pipe) :
      WorkMove pipeline none none { pipeline with position := .finishing .error }
  | offers
      {row : Row}
      {rest : List Row}
      {next : Next}
      {refused : Phase}
      (checking : pipeline.position = .checking row rest next refused)
      (uncancelled : pipeline.scope.cancelled = false) :
      WorkMove pipeline none none
        { pipeline with position := .offering row rest next refused }
  /-- The worker stops with rows that it can no longer deliver. -/
  | refuses
      {row : Row}
      {rest : List Row}
      {next : Next}
      {refused : Phase}
      (delivering :
        (pipeline.position = .checking row rest next refused ∧
            pipeline.scope.cancelled = true) ∨
          (pipeline.position = .offering row rest next refused ∧
            (pipeline.scope.signalled = true ∨ pipeline.consumer = .dropped))) :
      WorkMove pipeline none none { pipeline with position := .finishing refused }
  | enqueues
      {row : Row}
      {rest : List Row}
      {next : Next}
      {refused : Phase}
      (offering : pipeline.position = .offering row rest next refused)
      (present : pipeline.consumer ≠ .dropped)
      (room : pipeline.queue.length < pipeline.capacity) :
      WorkMove pipeline none (some (.enqueued row))
        { pipeline with
          queue := pipeline.queue ++ [row]
          position := .delivering rest next refused }
  | stores
      {phase : Phase}
      (finishing : pipeline.position = .finishing phase) :
      WorkMove pipeline none none { pipeline with phase := phase, position := .closing }
  | closes
      (closing : pipeline.position = .closing) :
      WorkMove pipeline none none
        { pipeline with queueClosed := true, position := .gone }

theorem WorkMove.of_readSource
    {pipeline after : Pipeline}
    (reading : pipeline.position = .reading)
    {arm : Arm}
    (taken : pipeline.readSource = some after) :
    WorkMove pipeline (pipeline.intake? (.work arm)) none after := by
  unfold readSource at taken
  cases read : pipeline.source.read pipeline.chunk with
  | none => simp [read] at taken
  | some answer =>
      rcases answer with ⟨result, source⟩
      have intake : pipeline.intake? (.work arm) = Intake.ofRead pipeline.mode result := by
        simp [intake?, reading, read]
      rw [intake]
      simp only [read] at taken
      split at taken
      case h_1 content =>
        cases taken
        exact .reads reading read rfl
      case h_2 =>
        cases taken
        exact .retries reading read
      case h_3 reason =>
        cases taken
        exact .reads reading read rfl
      case h_4 filter mode =>
        cases taken
        have takes : Intake.ofRead pipeline.mode .ended = some .ended := by rw [mode]; rfl
        rw [takes]
        exact .reads reading read takes
      case h_5 unbounded =>
        cases taken
        have takes : Intake.ofRead pipeline.mode .ended = none := by
          cases mode : pipeline.mode with
          | bounded filter => exact absurd mode (unbounded filter)
          | file | pipe => rfl
        rw [takes]
        exact .rests reading read takes

theorem WorkMove.of_heed
    {pipeline : Pipeline}
    (waiting : pipeline.position = .waiting)
    {notice : Notice}
    {later : List Notice}
    (noticed : pipeline.notices = notice :: later) :
    WorkMove pipeline (pipeline.intake? (.work .channel)) none
      ({ pipeline with notices := later }.heed notice) := by
  have intake : pipeline.intake? (.work .channel) = Intake.ofNotice notice := by
    simp [intake?, waiting, noticed]
  rw [intake]
  cases notice with
  | changed => exact .wakes waiting noticed
  | other =>
      have same : pipeline = { pipeline with position := .waiting } := by rw [← waiting]
      rw [heed, same]
      exact .ignores rfl noticed
  | notifierFailed reason => exact .hears waiting noticed rfl
  | piece content => exact .hears waiting noticed rfl
  | pumpFailed reason => exact .hears waiting noticed rfl

theorem WorkMove.of_heedEnd
    {pipeline : Pipeline}
    (waiting : pipeline.position = .waiting)
    (silent : pipeline.notices = [])
    (closed : pipeline.noticesClosed = true) :
    WorkMove pipeline (pipeline.intake? (.work .channel)) none pipeline.heedEnd := by
  unfold heedEnd
  split
  case h_1 piped =>
    have intake : pipeline.intake? (.work .channel) = some .ended := by
      simp [intake?, waiting, silent, closed, piped]
    rw [intake]
    exact .ends waiting silent closed piped
  case h_2 unpiped =>
    have intake : pipeline.intake? (.work .channel) = none := by
      cases mode : pipeline.mode with
      | pipe => exact absurd mode unpiped
      | bounded filter | file => simp [intake?, waiting, silent, mode]
    rw [intake]
    exact .deserted waiting silent closed unpiped

/-- Every step of the worker is one of its moves. -/
theorem WorkMove.of_step
    {pipeline after : Pipeline}
    {arm : Arm}
    {event : Option Event}
    (taken : pipeline.workStep arm = some (after, event)) :
    WorkMove pipeline (pipeline.intake? (.work arm)) event after := by
  unfold workStep at taken
  split at taken
  case h_1 spawned =>
    have intake : pipeline.intake? (.work arm) = none := by simp [intake?, spawned]
    rw [intake]
    cases taken
    exact .begins spawned
  case h_2 polling =>
    have intake : pipeline.intake? (.work arm) = none := by simp [intake?, polling]
    rw [intake]
    cases taken
    cases cancelled : pipeline.scope.cancelled with
    | true => exact .quits (.inl ⟨polling, cancelled⟩)
    | false => exact .looks polling cancelled
  case h_3 reading =>
    rcases Option.map_eq_some_iff.mp taken with ⟨next, read, equal⟩
    cases equal
    exact .of_readSource reading read
  case h_4 waiting =>
    cases arm with
    | signal =>
        have intake : pipeline.intake? (.work .signal) = none := by simp [intake?, waiting]
        rw [intake]
        simp only at taken
        split at taken
        case isTrue signalled =>
          cases taken
          exact .quits (.inr ⟨waiting, signalled⟩)
        case isFalse => cases taken
    | channel =>
        simp only at taken
        split at taken
        case h_1 notice later noticed =>
          cases taken
          exact .of_heed waiting noticed
        case h_2 silent =>
          split at taken
          case isTrue closed =>
            cases taken
            exact .of_heedEnd waiting silent closed
          case isFalse => cases taken
    | timeout => cases taken
  case h_5 row rest next refused checking =>
    have intake : pipeline.intake? (.work arm) = none := by simp [intake?, checking]
    rw [intake]
    cases taken
    cases cancelled : pipeline.scope.cancelled with
    | true => exact .refuses (.inl ⟨checking, cancelled⟩)
    | false => exact .offers checking cancelled
  case h_6 row rest next refused offering =>
    have intake : pipeline.intake? (.work arm) = none := by simp [intake?, offering]
    rw [intake]
    cases arm with
    | signal =>
        simp only at taken
        split at taken
        case isTrue signalled =>
          cases taken
          exact .refuses (.inr ⟨offering, .inl signalled⟩)
        case isFalse => cases taken
    | channel =>
        simp only at taken
        split at taken
        case h_1 dropped =>
          cases taken
          exact .refuses (.inr ⟨offering, .inr dropped⟩)
        case h_2 present =>
          split at taken
          case isTrue room =>
            cases taken
            exact .enqueues offering present room
          case isFalse => cases taken
    | timeout => cases taken
  case h_7 phase finishing =>
    have intake : pipeline.intake? (.work arm) = none := by simp [intake?, finishing]
    rw [intake]
    cases taken
    exact .stores finishing
  case h_8 closing =>
    have intake : pipeline.intake? (.work arm) = none := by simp [intake?, closing]
    rw [intake]
    cases taken
    exact .closes closing
  case h_9 => cases taken

/-- The moves of a consumer, with what they show. -/
inductive ConsumeMove (pipeline : Pipeline) : Option Event → Pipeline → Prop where
  | turnsBack
      {timed : Bool}
      (entered : pipeline.consumer = .entered timed)
      (cancelled : pipeline.scope.cancelled = true) :
      ConsumeMove pipeline (some (.answered .finished)) { pipeline with consumer := .idle }
  | enters
      {timed : Bool}
      (entered : pipeline.consumer = .entered timed)
      (uncancelled : pipeline.scope.cancelled = false) :
      ConsumeMove pipeline none { pipeline with consumer := .selecting timed }
  | takes
      {timed : Bool}
      {row : Row}
      {later : List Row}
      (selecting : pipeline.consumer = .selecting timed)
      (queued : pipeline.queue = row :: later) :
      ConsumeMove pipeline none
        { pipeline with queue := later, consumer := .holding (.row row) }
  /-- The request finds that no row can come, or that nobody is to wait any more. -/
  | gives
      {timed : Bool}
      (selecting : pipeline.consumer = .selecting timed)
      (ended :
        (pipeline.queue = [] ∧ pipeline.queueClosed = true) ∨
          pipeline.scope.signalled = true) :
      ConsumeMove pipeline none { pipeline with consumer := .holding .finished }
  | tires
      (selecting : pipeline.consumer = .selecting true) :
      ConsumeMove pipeline none { pipeline with consumer := .holding .timeout }
  | answers
      {answer : Answer}
      (holding : pipeline.consumer = .holding answer) :
      ConsumeMove pipeline
        (some (.answered (if pipeline.scope.cancelled then .finished else answer)))
        { pipeline with consumer := .idle }

theorem ConsumeMove.of_step
    {pipeline after : Pipeline}
    {arm : Arm}
    {event : Option Event}
    (taken : pipeline.consumeStep arm = some (after, event)) :
    ConsumeMove pipeline event after := by
  unfold consumeStep at taken
  split at taken
  case h_1 timed entered =>
    split at taken
    case isTrue cancelled =>
      cases taken
      exact .turnsBack entered cancelled
    case isFalse uncancelled =>
      cases taken
      exact .enters entered (Bool.eq_false_iff.mpr uncancelled)
  case h_2 timed selecting =>
    cases arm with
    | channel =>
        simp only at taken
        split at taken
        case h_1 row later queued =>
          cases taken
          exact .takes selecting queued
        case h_2 empty =>
          split at taken
          case isTrue closed =>
            cases taken
            exact .gives selecting (.inl ⟨empty, closed⟩)
          case isFalse => cases taken
    | signal =>
        simp only at taken
        split at taken
        case isTrue signalled =>
          cases taken
          exact .gives selecting (.inr signalled)
        case isFalse => cases taken
    | timeout =>
        simp only at taken
        split at taken
        case isTrue limited =>
          cases taken
          exact .tires (limited ▸ selecting)
        case isFalse => cases taken
  case h_3 answer holding =>
    cases taken
    exact .answers holding
  case h_4 => cases taken
  case h_5 => cases taken

/-- The moves of a pump. -/
inductive PumpMove (pipeline : Pipeline) : Pipeline → Prop where
  | reads
      {result : ReadResult}
      {source : Source}
      {notice : Notice}
      (reading : pipeline.pump = .reading)
      (read : pipeline.source.read pipeline.chunk = some (result, source))
      (gives :
        (∃ content, result = .bytes content ∧ notice = .piece content) ∨
          ∃ reason, result = .failed reason ∧ notice = .pumpFailed reason) :
      PumpMove pipeline { pipeline with source := source, pump := .holding notice }
  | retries
      {source : Source}
      (reading : pipeline.pump = .reading)
      (read : pipeline.source.read pipeline.chunk = some (.interrupted, source)) :
      PumpMove pipeline { pipeline with source := source }
  | ends
      {source : Source}
      (reading : pipeline.pump = .reading)
      (read : pipeline.source.read pipeline.chunk = some (.ended, source)) :
      PumpMove pipeline { pipeline with source := source }.stopPump
  /-- Nobody listens to the pump any more. -/
  | leaves
      {notice : Notice}
      (holding : pipeline.pump = .holding notice)
      (left : pipeline.position.hasLeft = true) :
      PumpMove pipeline pipeline.stopPump
  | passes
      {notice : Notice}
      (holding : pipeline.pump = .holding notice)
      (present : pipeline.position.hasLeft = false)
      (room : pipeline.notices.length < pieceLimit)
      (whole : ∀ reason, notice = .pumpFailed reason → False) :
      PumpMove pipeline
        { pipeline with notices := pipeline.notices ++ [notice], pump := .reading }
  | passesFailure
      {reason : String}
      (holding : pipeline.pump = .holding (.pumpFailed reason))
      (present : pipeline.position.hasLeft = false)
      (room : pipeline.notices.length < pieceLimit) :
      PumpMove pipeline
        { pipeline with notices := pipeline.notices ++ [Notice.pumpFailed reason] }.stopPump

theorem PumpMove.of_step
    {pipeline after : Pipeline}
    (taken : pipeline.pumpStep = some after) :
    PumpMove pipeline after := by
  unfold pumpStep at taken
  split at taken
  case h_1 reading =>
    cases read : pipeline.source.read pipeline.chunk with
    | none => simp [read] at taken
    | some answer =>
        rcases answer with ⟨result, source⟩
        simp only [read] at taken
        cases result with
        | bytes content =>
            cases taken
            exact .reads reading read (.inl ⟨content, rfl, rfl⟩)
        | interrupted =>
            cases taken
            exact .retries reading read
        | failed reason =>
            cases taken
            exact .reads reading read (.inr ⟨reason, rfl, rfl⟩)
        | ended =>
            cases taken
            exact .ends reading read
  case h_2 notice holding =>
    split at taken
    case isTrue left =>
      cases taken
      exact .leaves holding left
    case isFalse present =>
      have here := Bool.eq_false_iff.mpr present
      split at taken
      case isTrue room =>
        split at taken
        case h_1 reason =>
          cases taken
          exact .passesFailure holding here room
        case h_2 whole =>
          cases taken
          exact .passes holding here room whole
      case isFalse => cases taken
  case h_3 => cases taken

/-- The moves of all parties, with what the worker takes in and what is shown. -/
inductive Move (pipeline : Pipeline) :
    Action → Option Intake → Option Event → Pipeline → Prop where
  | work
      {arm : Arm}
      {intake : Option Intake}
      {event : Option Event}
      {after : Pipeline}
      (move : WorkMove pipeline intake event after) :
      Move pipeline (.work arm) intake event after
  | consume
      {arm : Arm}
      {event : Option Event}
      {after : Pipeline}
      (move : ConsumeMove pipeline event after) :
      Move pipeline (.consume arm) none event after
  | pump
      {after : Pipeline}
      (move : PumpMove pipeline after) :
      Move pipeline .pump none none after
  | notify
      {notice : Notice}
      (followed : pipeline.mode = .file)
      (about : notice.isAboutFile = true)
      (unclosed : pipeline.noticesClosed = false)
      (present : pipeline.position.hasLeft = false)
      (room : pipeline.notices.length < fileNoticeLimit) :
      Move pipeline (.notify notice) none none
        { pipeline with notices := pipeline.notices ++ [notice] }
  /-- A notice is lost on a worker that has left or that has many to look at. -/
  | lose
      {notice : Notice}
      (followed : pipeline.mode = .file)
      (about : notice.isAboutFile = true)
      (unclosed : pipeline.noticesClosed = false)
      (lost :
        pipeline.position.hasLeft = true ∨
          fileNoticeLimit ≤ pipeline.notices.length) :
      Move pipeline (.notify notice) none none pipeline
  | endNotices
      (followed : pipeline.mode = .file) :
      Move pipeline .endNotices none none { pipeline with noticesClosed := true }
  | grow
      {supply : Supply} :
      Move pipeline (.grow supply) none none
        { pipeline with source := pipeline.source.grow supply }
  | closeSource :
      Move pipeline .closeSource none none
        { pipeline with source := pipeline.source.close }
  | request
      {timed : Bool}
      (idle : pipeline.consumer = .idle) :
      Move pipeline (.request timed) none none
        { pipeline with consumer := .entered timed }
  | drop
      (idle : pipeline.consumer = .idle) :
      Move pipeline .drop none none { pipeline with consumer := .dropped }
  | cancel :
      Move pipeline .cancel none none
        { pipeline with calls := pipeline.calls ++ [.begun] }
  | advanceCancel
      {index : Nat}
      {call next : CancelCall}
      {scope : Scope}
      (called : pipeline.calls[index]? = some call)
      (advances : pipeline.scope.advance call = some (scope, next)) :
      Move pipeline (.advanceCancel index) none none
        { pipeline with scope := scope, calls := pipeline.calls.set index next }

theorem Move.of_notifyStep
    {pipeline after : Pipeline}
    {notice : Notice}
    (taken : pipeline.notifyStep notice = some after) :
    Move pipeline (.notify notice) none none after := by
  unfold notifyStep at taken
  split at taken
  case h_4 => cases taken
  all_goals
    rename_i followed
    split at taken
    case isTrue => cases taken
    case isFalse closed =>
      have unclosed := Bool.eq_false_iff.mpr closed
      split at taken
      case isTrue heard =>
        simp only [Bool.and_eq_true, Bool.not_eq_true', decide_eq_true_eq] at heard
        cases taken
        exact .notify followed rfl unclosed heard.1 heard.2
      case isFalse unheard =>
        cases taken
        refine .lose followed rfl unclosed ?_
        cases left : pipeline.position.hasLeft with
        | true => exact .inl rfl
        | false => exact .inr (by simpa [left] using unheard)

/-- Every step is one of the moves. -/
theorem Move.of_step
    {pipeline after : Pipeline}
    {action : Action}
    {event : Option Event}
    (taken : pipeline.step action = some (after, event)) :
    Move pipeline action (pipeline.intake? action) event after := by
  cases action with
  | work arm => exact .work (.of_step taken)
  | consume arm => exact .consume (.of_step taken)
  | pump =>
      rcases Option.map_eq_some_iff.mp taken with ⟨next, pumped, equal⟩
      cases equal
      exact .pump (.of_step pumped)
  | notify notice =>
      rcases Option.map_eq_some_iff.mp taken with ⟨next, notified, equal⟩
      cases equal
      exact .of_notifyStep notified
  | endNotices =>
      simp only [step] at taken
      split at taken
      case h_1 followed =>
        cases taken
        exact .endNotices followed
      case h_2 => cases taken
  | grow supply =>
      cases taken
      exact .grow
  | closeSource =>
      cases taken
      exact .closeSource
  | request timed =>
      simp only [step] at taken
      split at taken
      case h_1 idle =>
        cases taken
        exact .request idle
      case h_2 => cases taken
  | drop =>
      simp only [step] at taken
      split at taken
      case h_1 idle =>
        cases taken
        exact .drop idle
      case h_2 => cases taken
  | cancel =>
      cases taken
      exact .cancel
  | advanceCancel index =>
      rcases Option.map_eq_some_iff.mp taken with ⟨next, advanced, equal⟩
      cases equal
      rcases Option.bind_eq_some_iff.mp advanced with ⟨call, called, advanced⟩
      rcases Option.bind_eq_some_iff.mp advanced with ⟨⟨scope, later⟩, advances, equal⟩
      cases equal
      exact .advanceCancel called advances

end Pipeline

end LogRows.Stream
