import LogRows.Proofs.Stream.Progress

/-!
# Streams that nothing disturbs

Nobody cancels the scope, nothing fails, and the consumer stays and waits for its
rows.  Each mode then takes its own course: a file that is read to its end and an
open stream come to an end, while a file that is followed never does.  One of the
parties can take a step unless everybody waits for something new in that file.
-/

namespace LogRows.Stream

/-- The bytes of a notice. -/
def Notice.content : Notice → List UInt8
  | .piece content => content
  | _ => []

/-- Whether a notice reports that something has failed. -/
def Notice.isFailure : Notice → Bool
  | .notifierFailed _ => true
  | .pumpFailed _ => true
  | _ => false

/-- What a worker is about to do once its rows are delivered. -/
def Position.next? : Position → Option Next
  | .spawned => none
  | .polling => some .poll
  | .reading => some .poll
  | .waiting => some .await
  | .checking _ _ next _ => some next
  | .offering _ _ next _ => some next
  | .finishing phase => some (.finish phase)
  | .closing => some (.finish .eof)
  | .gone => some (.finish .eof)

/-- What a worker of a mode may do next if nothing disturbs it. -/
def Mode.admits : Mode → Next → Prop
  | .bounded _, .poll => True
  | .bounded _, .await => False
  | .bounded _, .finish phase => phase = .eof
  | .file, .poll => True
  | .file, .await => True
  | .file, .finish _ => False
  | .pipe, .poll => False
  | .pipe, .await => True
  | .pipe, .finish phase => phase = .eof

theorem Mode.unpiped_of_file
    {mode : Mode}
    (followed : mode = .file) :
    mode ≠ .pipe := by
  rw [followed]
  intro impossible
  cases impossible

/-- The steps of the outside that feed a stream and do not disturb it. -/
def Action.feeds : Action → Bool
  | .grow supply => !supply.isFailure
  | .closeSource => true
  | .notify notice => !notice.isFailure
  | _ => false

@[simp]
theorem Position.next?_delivering
    (rows : List Row)
    (next : Next)
    (refused : Phase) :
    (Position.delivering rows next refused).next? = some next := by
  cases rows with
  | nil => cases next <;> rfl
  | cons row rest => rfl

theorem Position.delivering_stays
    (rows : List Row)
    (next : Next)
    (refused : Phase) :
    Position.delivering rows next refused ≠ .closing ∧
      Position.delivering rows next refused ≠ .gone := by
  cases rows with
  | nil => cases next <;> exact ⟨nofun, nofun⟩
  | cons row rest => exact ⟨nofun, nofun⟩

namespace Pipeline

/-- Nothing has failed or been cancelled, and the consumer is there. -/
structure Faultless (now : Pipeline) : Prop where
  chunk : 0 < now.chunk
  capacity : 0 < now.capacity
  scope : now.scope = .fresh
  patient : now.consumer.isPatient = true
  supplies : ∀ supply ∈ now.source.supplies, supply.isFailure = false
  notices : ∀ notice ∈ now.notices, notice.isFailure = false
  pump : ∀ notice, now.pump = .holding notice → ∃ content, notice = .piece content

/-- Worker, pump and notifier do what the mode asks of them. -/
structure Course (now : Pipeline) : Prop where
  next : ∀ next, now.position.next? = some next → now.mode.admits next
  stored : now.position = .closing ∨ now.position = .gone → now.phase = .eof
  shut : now.position = .gone → now.queueClosed = true
  pumpless :
    now.mode ≠ .pipe →
      now.pump = .gone ∧ now.noticesClosed = false ∧ now.source.waits = false ∧
        ∀ notice ∈ now.notices, notice.content = []
  pumped :
    now.mode = .pipe →
      (now.noticesClosed = true ↔ now.pump = .gone) ∧
        ∀ notice ∈ now.notices, ∃ content, notice = .piece content

/-- Everybody waits: the consumer for a row and the worker for a change of its file. -/
structure Resting (now : Pipeline) : Prop where
  followed : now.mode = .file
  waiting : now.position = .waiting
  silent : now.notices = []
  empty : now.queue = []
  asked : now.consumer = .selecting false

/-- Whether worker, pump or consumer can take a step. -/
def CanAct (now : Pipeline) : Prop :=
  ∃ action, action.drains = true ∧ (now.step action).isSome = true

section

variable
    {now after : Pipeline}
    {action : Action}
    {intake : Option Intake}
    {event : Option Event}

theorem Faultless.uncancelled (faultless : Faultless now) :
    now.scope.cancelled = false := by
  rw [faultless.scope]
  rfl

theorem Faultless.present (faultless : Faultless now) :
    now.consumer ≠ .dropped := by
  intro dropped
  have patient := faultless.patient
  rw [dropped] at patient
  cases patient

theorem Faultless.not_failed
    {source : Source}
    {reason : String}
    (faultless : Faultless now) :
    now.source.read now.chunk ≠ some (.failed reason, source) := by
  intro read
  have failing := Source.explains_of_read faultless.chunk read
  exact absurd (faultless.supplies _ failing) (by simp [Supply.isFailure])

theorem Faultless.not_quits
    (faultless : Faultless now) :
    ¬ ((now.position = .polling ∧ now.scope.cancelled = true) ∨
        (now.position = .waiting ∧ now.scope.signalled = true)) := by
  rw [faultless.scope]
  rintro (⟨_, impossible⟩ | ⟨_, impossible⟩) <;> cases impossible

theorem Faultless.not_refuses
    {row : Row}
    {rest : List Row}
    {next : Next}
    {refused : Phase}
    (faultless : Faultless now) :
    ¬ ((now.position = .checking row rest next refused ∧ now.scope.cancelled = true) ∨
        (now.position = .offering row rest next refused ∧
          (now.scope.signalled = true ∨ now.consumer = .dropped))) := by
  rw [faultless.scope]
  rintro (⟨_, impossible⟩ | ⟨_, impossible | dropped⟩)
  · cases impossible
  · cases impossible
  · exact faultless.present dropped

/-- A worker reads bytes, or the end of a source that it is to read to its end. -/
theorem Faultless.intake_of_read
    {result : ReadResult}
    {source : Source}
    {taken : Intake}
    (faultless : Faultless now)
    (read : now.source.read now.chunk = some (result, source))
    (takes : Intake.ofRead now.mode result = some taken) :
    (∃ content, result = .bytes content ∧ taken = .piece content) ∨
      (result = .ended ∧ taken = .ended ∧ ∃ filter, now.mode = .bounded filter) := by
  cases result with
  | bytes content =>
      cases takes
      exact .inl ⟨content, rfl, rfl⟩
  | ended =>
      cases mode : now.mode with
      | bounded filter =>
          rw [mode] at takes
          cases takes
          exact .inr ⟨rfl, rfl, filter, rfl⟩
      | file | pipe =>
          rw [mode] at takes
          cases takes
  | interrupted => cases takes
  | failed reason => exact absurd read faultless.not_failed

theorem Faultless.intake_of_notice
    {notice : Notice}
    {later : List Notice}
    {taken : Intake}
    (faultless : Faultless now)
    (noticed : now.notices = notice :: later)
    (takes : Intake.ofNotice notice = some taken) :
    ∃ content, notice = .piece content ∧ taken = .piece content := by
  have whole := faultless.notices notice (noticed ▸ List.mem_cons_self)
  cases notice with
  | changed | other => cases takes
  | notifierFailed reason | pumpFailed reason => cases whole
  | piece content =>
      cases takes
      exact ⟨content, rfl, rfl⟩

theorem Faultless.work
    (faultless : Faultless now)
    (move : WorkMove now intake event after) :
    Faultless after := by
  have ⟨chunk, capacity, scope, patient, supplies, notices, pump⟩ := faultless
  cases move with
  | reads reading read takes | retries reading read | rests reading read unbounded =>
      exact ⟨chunk, capacity, scope, patient, Source.failures_of_read read supplies, notices, pump⟩
  | hears waiting noticed takes | wakes waiting noticed | ignores waiting noticed =>
      rw [noticed] at notices
      exact ⟨chunk, capacity, scope, patient, supplies, (List.forall_mem_cons.mp notices).2, pump⟩
  | _ => exact ⟨chunk, capacity, scope, patient, supplies, notices, pump⟩

theorem Faultless.consume
    (faultless : Faultless now)
    (move : ConsumeMove now event after) :
    Faultless after := by
  have ⟨chunk, capacity, scope, patient, supplies, notices, pump⟩ := faultless
  cases move with
  | enters entered uncancelled =>
      rw [entered] at patient
      exact ⟨chunk, capacity, scope, patient, supplies, notices, pump⟩
  | tires selecting =>
      rw [selecting] at patient
      cases patient
  | _ => exact ⟨chunk, capacity, scope, rfl, supplies, notices, pump⟩

theorem Faultless.pumps
    (faultless : Faultless now)
    (move : PumpMove now after) :
    Faultless after := by
  have ⟨chunk, capacity, scope, patient, supplies, notices, pump⟩ := faultless
  cases move with
  | @reads result source notice reading read gives =>
      refine ⟨chunk, capacity, scope, patient, Source.failures_of_read read supplies, notices, ?_⟩
      intro held holding
      cases holding
      rcases gives with ⟨content, _, piece⟩ | ⟨reason, rfl, _⟩
      · exact ⟨content, piece⟩
      · exact absurd read faultless.not_failed
  | retries reading read =>
      exact ⟨chunk, capacity, scope, patient, Source.failures_of_read read supplies, notices, pump⟩
  | ends reading read =>
      exact ⟨chunk, capacity, scope, patient, Source.failures_of_read read supplies, notices, nofun⟩
  | leaves holding left =>
      exact ⟨chunk, capacity, scope, patient, supplies, notices, nofun⟩
  | passes holding present room whole =>
      refine ⟨chunk, capacity, scope, patient, supplies, ?_, nofun⟩
      rcases pump _ holding with ⟨content, rfl⟩
      simp only [List.forall_mem_append, List.forall_mem_singleton]
      exact ⟨notices, rfl⟩
  | passesFailure holding present room =>
      rcases pump _ holding with ⟨content, impossible⟩
      cases impossible

theorem Faultless.move
    (faultless : Faultless now)
    (move : Move now action intake event after)
    (calm : action.drains = true ∨ action.feeds = true) :
    Faultless after := by
  have ⟨chunk, capacity, scope, patient, supplies, notices, pump⟩ := faultless
  cases move with
  | work move => exact faultless.work move
  | consume move => exact faultless.consume move
  | pump move => exact faultless.pumps move
  | @notify notice followed about unclosed present room =>
      have event : notice.isFailure = false := by
        rcases calm with impossible | feeds
        · cases impossible
        · simpa [Action.feeds] using feeds
      refine ⟨chunk, capacity, scope, patient, supplies, ?_, pump⟩
      simp only [List.forall_mem_append, List.forall_mem_singleton]
      exact ⟨notices, event⟩
  | lose => exact faultless
  | @grow supply =>
      have whole : supply.isFailure = false := by
        rcases calm with impossible | feeds
        · cases impossible
        · simpa [Action.feeds] using feeds
      refine ⟨chunk, capacity, scope, patient, ?_, notices, pump⟩
      simp only [Source.grow, List.forall_mem_append, List.forall_mem_singleton]
      exact ⟨supplies, whole⟩
  | closeSource => exact ⟨chunk, capacity, scope, patient, supplies, notices, pump⟩
  | @request timed idle =>
      have patient : (Consumer.entered timed).isPatient = true := by
        rcases calm with drains | impossible
        · exact drains
        · cases impossible
      exact ⟨chunk, capacity, scope, patient, supplies, notices, pump⟩
  | endNotices | drop | cancel | advanceCancel =>
      rcases calm with impossible | impossible <;> cases impossible

/-- A step by which the worker neither begins to end nor touches pump or notifier. -/
theorem Course.goOn
    {next : Next}
    (course : Course now)
    (mode : after.mode = now.mode)
    (pump : after.pump = now.pump)
    (closed : after.noticesClosed = now.noticesClosed)
    (waits : after.source.waits = now.source.waits)
    (notices : ∀ notice ∈ after.notices, notice ∈ now.notices)
    (goes : after.position.next? = some next)
    (admits : now.mode.admits next)
    (stays : after.position ≠ .closing ∧ after.position ≠ .gone) :
    Course after where
  next other same := by
    cases goes.symm.trans same
    rw [mode]
    exact admits
  stored impossible := by
    rcases impossible with closing | gone
    · exact absurd closing stays.1
    · exact absurd gone stays.2
  shut gone := absurd gone stays.2
  pumpless unpiped := by
    rw [mode] at unpiped
    rcases course.pumpless unpiped with ⟨gone, unclosed, unwaiting, empty⟩
    rw [pump, closed, waits]
    exact ⟨gone, unclosed, unwaiting, fun notice member => empty notice (notices notice member)⟩
  pumped piped := by
    rw [mode] at piped
    rcases course.pumped piped with ⟨same, pieces⟩
    rw [pump, closed]
    exact ⟨same, fun notice member => pieces notice (notices notice member)⟩

theorem Course.work
    (course : Course now)
    (faultless : Faultless now)
    (move : WorkMove now intake event after) :
    Course after := by
  have admits := course.next
  have all : ∀ notice ∈ now.notices, notice ∈ now.notices := fun _ => id
  cases move with
  | begins spawned =>
      have first :
          ∃ next, (firstPosition now.mode).next? = some next ∧ now.mode.admits next ∧
            firstPosition now.mode ≠ .closing ∧ firstPosition now.mode ≠ .gone := by
        cases now.mode with
        | bounded filter => exact ⟨.poll, rfl, trivial, nofun, nofun⟩
        | file | pipe => exact ⟨.await, rfl, trivial, nofun, nofun⟩
      rcases first with ⟨next, goes, admitted, stays⟩
      exact course.goOn rfl rfl rfl rfl all goes admitted stays
  | looks polling uncancelled =>
      rw [polling] at admits
      exact course.goOn rfl rfl rfl rfl all rfl (admits _ rfl) ⟨nofun, nofun⟩
  | quits idle => exact absurd idle faultless.not_quits
  | @reads result source taken reading read takes =>
      rw [reading] at admits
      refine course.goOn rfl rfl rfl (Source.supplies_of_read read).2 all
        (Position.next?_delivering _ _ _) ?_ (Position.delivering_stays _ _ _)
      rcases faultless.intake_of_read read takes with ⟨_, _, rfl⟩ | ⟨_, rfl, filter, bounded⟩
      · exact admits _ rfl
      · rw [bounded]
        rfl
  | retries reading read =>
      rw [reading] at admits
      exact course.goOn rfl rfl rfl (Source.supplies_of_read read).2 all rfl
        (admits _ rfl) ⟨nofun, nofun⟩
  | rests reading read unbounded =>
      rw [reading] at admits
      have polls := admits _ rfl
      refine course.goOn rfl rfl rfl (Source.supplies_of_read read).2 all rfl ?_ ⟨nofun, nofun⟩
      cases mode : now.mode with
      | bounded filter =>
          rw [mode] at unbounded
          cases unbounded
      | file | pipe => trivial
  | @hears notice later taken waiting noticed takes =>
      rw [waiting] at admits
      rcases faultless.intake_of_notice noticed takes with ⟨content, rfl, rfl⟩
      refine course.goOn rfl rfl rfl rfl ?_ (Position.next?_delivering _ _ _)
        (admits _ rfl) (Position.delivering_stays _ _ _)
      rw [noticed]
      exact fun _ => List.mem_cons_of_mem _
  | @wakes later waiting noticed =>
      refine course.goOn rfl rfl rfl rfl ?_ rfl ?_ ⟨nofun, nofun⟩
      · rw [noticed]
        exact fun _ => List.mem_cons_of_mem _
      · rw [waiting] at admits
        have awaits := admits _ rfl
        cases mode : now.mode with
        | bounded filter | file => trivial
        | pipe =>
            rcases (course.pumped mode).2 .changed (noticed ▸ List.mem_cons_self) with
              ⟨content, impossible⟩
            cases impossible
  | @ignores later waiting noticed =>
      rw [waiting] at admits
      refine course.goOn rfl rfl rfl rfl ?_ (congrArg Position.next? waiting) (admits _ rfl) ?_
      · rw [noticed]
        exact fun _ => List.mem_cons_of_mem _
      · show now.position ≠ .closing ∧ now.position ≠ .gone
        rw [waiting]
        exact ⟨nofun, nofun⟩
  | ends waiting silent closed piped =>
      refine course.goOn rfl rfl rfl rfl all (Position.next?_delivering _ _ _) ?_
        (Position.delivering_stays _ _ _)
      rw [piped]
      rfl
  | deserted waiting silent closed unpiped =>
      cases closed.symm.trans (course.pumpless unpiped).2.1
  | @offers row rest next refused checking uncancelled =>
      rw [checking] at admits
      exact course.goOn rfl rfl rfl rfl all rfl (admits _ rfl) ⟨nofun, nofun⟩
  | refuses delivering => exact absurd delivering faultless.not_refuses
  | @enqueues row rest next refused offering present room =>
      rw [offering] at admits
      exact course.goOn rfl rfl rfl rfl all (Position.next?_delivering _ _ _)
        (admits _ rfl) (Position.delivering_stays _ _ _)
  | @stores phase finishing =>
      rw [finishing] at admits
      have allowed := admits _ rfl
      have eof : phase = .eof ∧ now.mode.admits (.finish .eof) := by
        cases mode : now.mode with
        | bounded filter | pipe =>
            rw [mode] at allowed
            exact ⟨allowed, rfl⟩
        | file =>
            rw [mode] at allowed
            exact allowed.elim
      refine ⟨?_, fun _ => eof.1, nofun, course.pumpless, course.pumped⟩
      rintro next ⟨⟩
      exact eof.2
  | closes closing =>
      rw [closing] at admits
      refine ⟨?_, fun _ => course.stored (.inl closing), fun _ => rfl, course.pumpless,
        course.pumped⟩
      rintro next ⟨⟩
      exact admits _ rfl

/-- Only an open stream has a pump. -/
theorem Course.piped_of_pump
    (course : Course now)
    (present : now.pump ≠ .gone) :
    now.mode = .pipe := by
  cases mode : now.mode with
  | pipe => rfl
  | bounded filter | file =>
      have unpiped : now.mode ≠ .pipe := by
        rw [mode]
        nofun
      exact absurd (course.pumpless unpiped).1 present

theorem Course.pumps
    (course : Course now)
    (faultless : Faultless now)
    (move : PumpMove now after) :
    Course after := by
  have ⟨next, stored, shut, _, pumped⟩ := course
  have present : now.pump ≠ .gone := by
    intro gone
    cases move <;> simp_all
  have piped := course.piped_of_pump present
  rcases pumped piped with ⟨same, pieces⟩
  cases move with
  | reads reading read gives =>
      refine ⟨next, stored, shut, absurd piped, fun _ => ⟨?_, pieces⟩⟩
      exact ⟨fun closed => absurd (same.mp closed) present, nofun⟩
  | retries reading read =>
      exact ⟨next, stored, shut, absurd piped, fun _ => ⟨same, pieces⟩⟩
  | ends reading read =>
      exact ⟨next, stored, shut, absurd piped, fun _ => ⟨⟨fun _ => rfl, fun _ => rfl⟩, pieces⟩⟩
  | leaves holding left =>
      exact ⟨next, stored, shut, absurd piped, fun _ => ⟨⟨fun _ => rfl, fun _ => rfl⟩, pieces⟩⟩
  | passes holding here room whole =>
      refine ⟨next, stored, shut, absurd piped, fun _ => ⟨?_, ?_⟩⟩
      · exact ⟨fun closed => absurd (same.mp closed) present, nofun⟩
      · simp only [List.forall_mem_append, List.forall_mem_singleton]
        exact ⟨pieces, faultless.pump _ holding⟩
  | passesFailure holding here room =>
      rcases faultless.pump _ holding with ⟨content, impossible⟩
      cases impossible

theorem Course.move
    (course : Course now)
    (faultless : Faultless now)
    (move : Move now action intake event after)
    (calm : action.drains = true ∨ action.feeds = true) :
    Course after := by
  have ⟨next, stored, shut, pumpless, pumped⟩ := course
  cases move with
  | work move => exact course.work faultless move
  | consume move => cases move <;> exact ⟨next, stored, shut, pumpless, pumped⟩
  | pump move => exact course.pumps faultless move
  | @notify notice followed about unclosed present room =>
      refine ⟨next, stored, shut, ?_, ?_⟩
      · intro unpiped
        rcases pumpless unpiped with ⟨gone, unclosed, unwaiting, empty⟩
        refine ⟨gone, unclosed, unwaiting, ?_⟩
        simp only [List.forall_mem_append, List.forall_mem_singleton]
        refine ⟨empty, ?_⟩
        cases notice with
        | changed | other | notifierFailed reason => rfl
        | piece content | pumpFailed reason => cases about
      · intro piped
        cases followed.symm.trans piped
  | closeSource =>
      refine ⟨next, stored, shut, ?_, pumped⟩
      intro unpiped
      rcases pumpless unpiped with ⟨gone, unclosed, _, empty⟩
      exact ⟨gone, unclosed, rfl, empty⟩
  | endNotices => rcases calm with impossible | impossible <;> cases impossible
  | _ => exact ⟨next, stored, shut, pumpless, pumped⟩

theorem canAct_of_work (acts : (now.workStep .channel).isSome = true) :
    CanAct now :=
  ⟨.work .channel, rfl, acts⟩

theorem readSource_isSome (unwaiting : now.source.waits = false) :
    now.readSource.isSome = true := by
  rcases Source.read_of_not_waits now.chunk unwaiting with ⟨result, after, read⟩
  unfold readSource
  rw [read]
  cases result <;> cases mode : now.mode <;> simp

theorem Faultless.pump_acts
    (faultless : Faultless now)
    (unwaiting : now.source.waits = false)
    (waiting : now.position = .waiting)
    (silent : now.notices = [])
    (present : now.pump ≠ .gone) :
    CanAct now := by
  refine ⟨.pump, rfl, ?_⟩
  show (now.pumpStep.map _).isSome = true
  rw [Option.isSome_map]
  unfold pumpStep
  cases pump : now.pump with
  | reading =>
      rcases Source.read_of_not_waits now.chunk unwaiting with ⟨result, after, read⟩
      cases result <;> simp [read]
  | holding notice =>
      rcases faultless.pump notice pump with ⟨content, rfl⟩
      simp [waiting, silent, Position.hasLeft, pieceLimit]
  | gone => exact absurd pump present

theorem Course.worker_acts
    (course : Course now)
    (faultless : Faultless now)
    (unwaiting : now.source.waits = false)
    (empty : now.queue = [])
    (unclosed : now.queueClosed = false) :
    CanAct now ∨ (now.mode = .file ∧ now.position = .waiting ∧ now.notices = []) := by
  cases position : now.position with
  | spawned | polling | checking row rest next refused | finishing phase | closing =>
      exact .inl (canAct_of_work (by simp [workStep, position]))
  | reading =>
      refine .inl (canAct_of_work ?_)
      simp [workStep, position, readSource_isSome unwaiting]
  | waiting =>
      cases notices : now.notices with
      | cons notice later =>
          exact .inl (canAct_of_work (by simp [workStep, position, notices]))
      | nil =>
          cases closed : now.noticesClosed with
          | true =>
              exact .inl
                (canAct_of_work (by simp [workStep, position, notices, closed]))
          | false =>
              have awaits := course.next .await (by rw [position]; rfl)
              cases mode : now.mode with
              | bounded filter =>
                  rw [mode] at awaits
                  exact awaits.elim
              | file => exact .inr ⟨rfl, rfl, rfl⟩
              | pipe =>
                  have present : now.pump ≠ .gone := by
                    intro gone
                    cases closed.symm.trans ((course.pumped mode).1.mpr gone)
                  exact .inl (faultless.pump_acts unwaiting position notices present)
  | offering row rest next refused =>
      refine .inl (canAct_of_work ?_)
      have room : 0 < now.capacity := faultless.capacity
      simp only [workStep, position]
      split
      · rfl
      · simp [empty, room]
  | gone =>
      cases unclosed.symm.trans (course.shut position)

/-- Somebody can take a step unless everybody waits for a file to change. -/
theorem Course.acts_or_rests
    (course : Course now)
    (faultless : Faultless now)
    (unwaiting : now.source.waits = false) :
    CanAct now ∨ Resting now := by
  have patient := faultless.patient
  cases consumer : now.consumer with
  | idle => exact .inl ⟨.request false, rfl, by simp [step, consumer]⟩
  | entered timed =>
      refine .inl ⟨.consume .channel, rfl, ?_⟩
      simp [step, consumeStep, consumer, faultless.uncancelled]
  | selecting timed =>
      rw [consumer] at patient
      cases timed with
      | true => cases patient
      | false =>
          cases queue : now.queue with
          | cons row later =>
              exact .inl ⟨.consume .channel, rfl, by simp [step, consumeStep, consumer, queue]⟩
          | nil =>
              cases closed : now.queueClosed with
              | true =>
                  refine .inl ⟨.consume .channel, rfl, ?_⟩
                  simp [step, consumeStep, consumer, queue, closed]
              | false =>
                  rcases course.worker_acts faultless unwaiting queue closed with acts | rests
                  · exact .inl acts
                  · rcases rests with ⟨followed, waiting, silent⟩
                    exact .inr ⟨followed, waiting, silent, queue, consumer⟩
  | holding answer =>
      exact .inl ⟨.consume .channel, rfl, by simp [step, consumeStep, consumer]⟩
  | dropped => exact absurd consumer faultless.present

end

end Pipeline

end LogRows.Stream
