import LogRows.Proofs.Stream.Draining

/-!
# Every byte that was read

Other than in a stream that nothing disturbs, here the scope may be cancelled, reads may
fail and the consumer may go away at any time.  Two things hold all the same.  Each mode
wires its parties in its own way (`Wiring`): the worker of a file reads by itself and
hears of changes, that of an open stream only hears of pieces.  And what reads have
given is in known hands (`Readings`): until the worker leaves, the bytes are those that it
has taken in, that wait in notices and that the pump holds, in this order, and a failure
that has reached any of them comes from a read.
-/

namespace LogRows.Stream

/-- The bytes that a worker takes in. -/
def Intake.content : Intake → List UInt8
  | .piece content => content
  | _ => []

/-- What a worker is about to do, and the phase that it decides on if it cannot. -/
def Position.aim? : Position → Option (Next × Phase)
  | .polling => some (.poll, .cancelled)
  | .reading => some (.poll, .cancelled)
  | .waiting => some (.await, .cancelled)
  | .checking _ _ next refused => some (next, refused)
  | .offering _ _ next refused => some (next, refused)
  | _ => none

/-- What a worker of a mode may be about to do. -/
def Mode.allows : Mode → Next → Prop
  | .bounded _, .await => False
  | .pipe, .poll => False
  | _, _ => True

/-- What the source answers to the read that a step makes. -/
def Pipeline.read? (pipeline : Pipeline) : Action → Option ReadResult
  | .work _ =>
      match pipeline.position with
      | .reading => (pipeline.source.read pipeline.chunk).map (·.1)
      | _ => none
  | .pump =>
      match pipeline.pump with
      | .reading => (pipeline.source.read pipeline.chunk).map (·.1)
      | _ => none
  | _ => none

namespace Transition

/-- What the source answers to the read that a step makes. -/
def read? (step : Transition) : Option ReadResult :=
  step.before.read? step.action

end Transition

namespace History

/-- The answers of the source. -/
def reads (history : History) : List ReadResult :=
  history.filterMap Transition.read?

@[simp]
theorem reads_concat (history : History) (step : Transition) :
    reads (history ++ [step]) = history.reads ++ step.read?.toList := by
  simp [reads, List.filterMap_cons]
  cases step.read? <;> rfl

theorem reads_append (history more : History) :
    reads (history ++ more) = history.reads ++ more.reads :=
  List.filterMap_append

end History

theorem Position.eq_of_aim?_delivering
    {rows : List Row}
    {next goal : Next}
    {refused phase : Phase}
    (aims : (Position.delivering rows next refused).aim? = some (goal, phase)) :
    goal = next := by
  cases rows with
  | nil => cases next <;> cases aims <;> rfl
  | cons row rest =>
      cases aims
      rfl

theorem Intake.next_eq_or_finish (again : Next) (intake : Intake) :
    intake.next again = again ∨ ∃ phase, intake.next again = .finish phase := by
  cases intake with
  | piece content | notifierFailed reason => exact .inl rfl
  | ended | failed reason => exact .inr ⟨_, rfl⟩

/-- What a worker takes in with a read of its own. -/
theorem Intake.of_ofRead
    {mode : Mode}
    {result : ReadResult}
    {intake : Intake}
    (takes : ofRead mode result = some intake) :
    (∃ content, result = .bytes content ∧ intake = .piece content) ∨
      (∃ reason, result = .failed reason ∧ intake = .failed reason) ∨
        (result = .ended ∧ intake = .ended ∧ ∃ filter, mode = .bounded filter) := by
  cases result with
  | bytes content =>
      cases takes
      exact .inl ⟨content, rfl, rfl⟩
  | failed reason =>
      cases takes
      exact .inr (.inl ⟨reason, rfl, rfl⟩)
  | ended =>
      cases mode with
      | bounded filter =>
          cases takes
          exact .inr (.inr ⟨rfl, rfl, filter, rfl⟩)
      | file | pipe => cases takes
  | interrupted => cases takes

/-- What a worker takes in with a notice. -/
theorem Intake.of_ofNotice
    {notice : Notice}
    {intake : Intake}
    (takes : ofNotice notice = some intake) :
    (∃ content, notice = .piece content ∧ intake = .piece content) ∨
      (∃ reason, notice = .pumpFailed reason ∧ intake = .failed reason) ∨
        ∃ reason, notice = .notifierFailed reason ∧ intake = .notifierFailed reason := by
  cases notice with
  | changed | other => cases takes
  | piece content =>
      cases takes
      exact .inl ⟨content, rfl, rfl⟩
  | pumpFailed reason =>
      cases takes
      exact .inr (.inl ⟨reason, rfl, rfl⟩)
  | notifierFailed reason =>
      cases takes
      exact .inr (.inr ⟨reason, rfl, rfl⟩)

theorem Mode.allows_finish (mode : Mode) (phase : Phase) : mode.allows (.finish phase) := by
  cases mode <;> trivial

theorem Mode.allows_next
    {mode : Mode}
    {again : Next}
    (allowed : mode.allows again)
    (intake : Intake) :
    mode.allows (intake.next again) := by
  rcases intake.next_eq_or_finish again with same | ⟨phase, ends⟩
  · rw [same]
    exact allowed
  · rw [ends]
    exact mode.allows_finish phase

theorem Notice.content_of_isAboutFile
    {notice : Notice}
    (about : notice.isAboutFile = true) :
    notice.content = [] := by
  cases notice with
  | changed | other | notifierFailed reason => rfl
  | piece content | pumpFailed reason => cases about

namespace Pipeline

/-- Who reads the source and who hears of what, whatever disturbs the stream. -/
structure Wiring (now : Pipeline) : Prop where
  aims : ∀ next refused, now.position.aim? = some (next, refused) → now.mode.allows next
  notices :
    ∀ notice ∈ now.notices,
      (notice.isAboutFile = true ∧ now.mode = .file) ∨
        (notice.isAboutFile = false ∧ now.mode = .pipe)
  pump : now.mode = .pipe ∨ now.pump = .gone
  held : ∀ notice, now.pump = .holding notice → notice.isAboutFile = false
  closed : now.mode = .pipe → now.noticesClosed = true → now.pump = .gone

section

variable
    {now after : Pipeline}
    {action : Action}
    {intake : Option Intake}
    {event : Option Event}

theorem Wiring.unpiped
    (wiring : Wiring now)
    (reading : now.position.aim? = some (.poll, .cancelled)) :
    now.mode ≠ .pipe := by
  intro piped
  have allowed := wiring.aims _ _ reading
  rw [piped] at allowed
  exact allowed

/-- Nothing but its own reads gives bytes to a worker that reads by itself. -/
theorem Wiring.notices_content
    (wiring : Wiring now)
    (unpiped : now.mode ≠ .pipe) :
    now.notices.flatMap Notice.content = [] := by
  refine List.flatMap_eq_nil_iff.mpr fun notice member => ?_
  rcases wiring.notices notice member with ⟨about, _⟩ | ⟨_, piped⟩
  · exact Notice.content_of_isAboutFile about
  · exact absurd piped unpiped

/-- A step of the worker, which neither touches the pump nor sends notices. -/
theorem Wiring.goOn
    (wiring : Wiring now)
    (mode : after.mode = now.mode)
    (pump : after.pump = now.pump)
    (closed : after.noticesClosed = now.noticesClosed)
    (notices : ∀ notice ∈ after.notices, notice ∈ now.notices)
    (aims :
      ∀ next refused, after.position.aim? = some (next, refused) → now.mode.allows next) :
    Wiring after where
  aims := by
    rw [mode]
    exact aims
  notices notice member := by
    rw [mode]
    exact wiring.notices notice (notices notice member)
  pump := by
    rw [mode, pump]
    exact wiring.pump
  held := by
    rw [pump]
    exact wiring.held
  closed := by
    rw [mode, pump, closed]
    exact wiring.closed

theorem Wiring.deliver
    {rows : List Row}
    {next : Next}
    {refused : Phase}
    (wiring : Wiring now)
    (mode : after.mode = now.mode)
    (pump : after.pump = now.pump)
    (closed : after.noticesClosed = now.noticesClosed)
    (notices : ∀ notice ∈ after.notices, notice ∈ now.notices)
    (position : after.position = .delivering rows next refused)
    (allowed : now.mode.allows next) :
    Wiring after := by
  refine wiring.goOn mode pump closed notices fun goal phase aims => ?_
  rw [position] at aims
  rw [Position.eq_of_aim?_delivering aims]
  exact allowed

theorem Wiring.work
    (wiring : Wiring now)
    (move : WorkMove now intake event after) :
    Wiring after := by
  have aims := wiring.aims
  cases move with
  | begins spawned =>
      refine wiring.goOn rfl rfl rfl (fun _ => id) fun next refused first => ?_
      cases mode : now.mode with
      | bounded filter | file | pipe =>
          simp only [mode, firstPosition, Position.aim?] at first
          cases first
          trivial
  | looks position | retries position =>
      rw [position] at aims
      exact wiring.goOn rfl rfl rfl (fun _ => id) aims
  | @reads result source taken reading read takes =>
      have allowed := aims .poll .cancelled (by rw [reading]; rfl)
      exact wiring.deliver rfl rfl rfl (fun _ => id) rfl (Mode.allows_next allowed taken)
  | rests reading read unbounded =>
      refine wiring.goOn rfl rfl rfl (fun _ => id) fun next refused waits => ?_
      cases waits
      cases mode : now.mode with
      | bounded filter =>
          rw [mode] at unbounded
          cases unbounded
      | file | pipe => trivial
  | @hears notice later taken waiting noticed takes =>
      have allowed := aims .await .cancelled (by rw [waiting]; rfl)
      refine wiring.deliver rfl rfl rfl ?_ rfl (Mode.allows_next allowed taken)
      rw [noticed]
      exact fun _ => List.mem_cons_of_mem _
  | @wakes later waiting noticed =>
      have followed : now.mode = .file := by
        rcases wiring.notices .changed (noticed ▸ List.mem_cons_self) with
          ⟨_, followed⟩ | ⟨impossible, _⟩
        · exact followed
        · cases impossible
      refine wiring.goOn rfl rfl rfl ?_ fun next refused polls => ?_
      · rw [noticed]
        exact fun _ => List.mem_cons_of_mem _
      · cases polls
        rw [followed]
        trivial
  | @ignores later waiting noticed =>
      refine wiring.goOn rfl rfl rfl ?_ aims
      rw [noticed]
      exact fun _ => List.mem_cons_of_mem _
  | ends waiting silent closed piped =>
      have allowed := aims .await .cancelled (by rw [waiting]; rfl)
      exact wiring.deliver rfl rfl rfl (fun _ => id) rfl (Mode.allows_next allowed .ended)
  | offers checking uncancelled =>
      rw [checking] at aims
      exact wiring.goOn rfl rfl rfl (fun _ => id) aims
  | @enqueues row rest next refused offering present room =>
      have allowed := aims next refused (by rw [offering]; rfl)
      exact wiring.deliver rfl rfl rfl (fun _ => id) rfl allowed
  | quits | deserted | refuses | stores | closes =>
      exact wiring.goOn rfl rfl rfl (fun _ => id) nofun

theorem Wiring.piped
    (wiring : Wiring now)
    (busy : now.pump ≠ .gone) :
    now.mode = .pipe :=
  wiring.pump.resolve_right busy

theorem Wiring.pumps
    (wiring : Wiring now)
    (move : PumpMove now after) :
    Wiring after := by
  have ⟨aims, notices, _, held, closed⟩ := wiring
  cases move with
  | reads reading read gives =>
      have piped := wiring.piped (by rw [reading]; nofun)
      refine ⟨aims, notices, .inl piped, ?_, ?_⟩
      · intro notice holding
        cases holding
        rcases gives with ⟨_, _, rfl⟩ | ⟨_, _, rfl⟩ <;> rfl
      · intro _ shut
        cases reading.symm.trans (closed piped shut)
  | retries reading read => exact ⟨aims, notices, wiring.pump, held, closed⟩
  | ends reading read => exact ⟨aims, notices, .inr rfl, nofun, fun _ _ => rfl⟩
  | leaves holding left => exact ⟨aims, notices, .inr rfl, nofun, fun _ _ => rfl⟩
  | passes holding present room whole =>
      have piped := wiring.piped (by rw [holding]; nofun)
      refine ⟨aims, ?_, .inl piped, nofun, ?_⟩
      · simp only [List.forall_mem_append, List.forall_mem_singleton]
        exact ⟨notices, .inr ⟨held _ holding, piped⟩⟩
      · intro _ shut
        cases holding.symm.trans (closed piped shut)
  | passesFailure holding present room =>
      have piped := wiring.piped (by rw [holding]; nofun)
      refine ⟨aims, ?_, .inr rfl, nofun, fun _ _ => rfl⟩
      simp only [stopPump, List.forall_mem_append, List.forall_mem_singleton]
      exact ⟨notices, .inr ⟨rfl, piped⟩⟩

theorem Wiring.move
    (wiring : Wiring now)
    (move : Move now action intake event after) :
    Wiring after := by
  have ⟨aims, notices, pump, held, closed⟩ := wiring
  cases move with
  | work move => exact wiring.work move
  | pump move => exact wiring.pumps move
  | consume move => cases move <;> exact ⟨aims, notices, pump, held, closed⟩
  | notify followed about unclosed present room =>
      refine ⟨aims, ?_, pump, held, closed⟩
      simp only [List.forall_mem_append, List.forall_mem_singleton]
      exact ⟨notices, .inl ⟨about, followed⟩⟩
  | endNotices followed =>
      refine ⟨aims, notices, pump, held, fun piped => ?_⟩
      cases followed.symm.trans piped
  | _ => exact ⟨aims, notices, pump, held, closed⟩

theorem Wiring.spawn
    (mode : Mode)
    (config : Config)
    (scope : Scope)
    (buffer : LineBuffer)
    (source : Source) :
    Wiring (spawn mode config scope buffer source) where
  aims := nofun
  notices := nofun
  pump := by
    cases mode with
    | pipe => exact .inl rfl
    | bounded filter | file => exact .inr rfl
  held := by cases mode <;> nofun
  closed := nofun

end

/--
What reads have given and where it is: `fed` is all that the source has been given and
`Ended` tells for which contents it was read to its end.
-/
structure Readings
    (intakes : List Intake)
    (reads : List ReadResult)
    (fed : List UInt8)
    (Ended : List UInt8 → Prop)
    (now : Pipeline) :
    Prop where
  chunk : 0 < now.chunk
  bytes : reads.flatMap ReadResult.content ++ now.source.content = fed
  taken :
    now.position.hasLeft = false →
      intakes.flatMap Intake.content ++ now.notices.flatMap Notice.content ++ now.pump.content =
        reads.flatMap ReadResult.content
  failed :
    ∀ reason,
      .failed reason ∈ intakes ∨ .pumpFailed reason ∈ now.notices ∨
          now.pump = .holding (.pumpFailed reason) →
        .failed reason ∈ reads
  /-- A pump leaves at the end of the source, after a failure or because nobody listens. -/
  pumped :
    now.mode = .pipe →
      now.position.hasLeft = false →
      now.pump = .gone →
      Ended (reads.flatMap ReadResult.content) ∨
        ∃ reason, .pumpFailed reason ∈ now.notices ∨ .failed reason ∈ intakes

section

variable
    {now after : Pipeline}
    {action : Action}
    {intake : Option Intake}
    {event : Option Event}
    {intakes : List Intake}
    {reads : List ReadResult}
    {fed : List UInt8}
    {Ended : List UInt8 → Prop}

theorem read?_of_reading
    {result : ReadResult}
    {source : Source}
    {arm : Arm}
    (reading : now.position = .reading)
    (read : now.source.read now.chunk = some (result, source)) :
    now.read? (.work arm) = some result := by
  simp [read?, reading, read]

theorem read?_of_not_reading
    {arm : Arm}
    (elsewhere : now.position ≠ .reading) :
    now.read? (.work arm) = none := by
  cases position : now.position with
  | reading => exact absurd position elsewhere
  | _ => simp only [read?, position]

theorem read?_of_waiting
    {arm : Arm}
    (waiting : now.position = .waiting) :
    now.read? (.work arm) = none := by
  simp only [read?, waiting]

/-- A step of the worker by which no bytes change hands. -/
theorem Readings.goOn
    (readings : Readings intakes reads fed Ended now)
    (chunk : after.chunk = now.chunk)
    (mode : after.mode = now.mode)
    (source : after.source = now.source)
    (pump : after.pump = now.pump)
    (notices : after.notices = now.notices)
    (left : after.position.hasLeft = false → now.position.hasLeft = false)
    (content : intake.toList.flatMap Intake.content = [])
    (unfailed : ∀ reason, intake ≠ some (.failed reason)) :
    Readings (intakes ++ intake.toList) reads fed Ended after := by
  have failed : ∀ reason, .failed reason ∈ intakes ++ intake.toList ↔ .failed reason ∈ intakes := by
    intro reason
    rw [List.mem_append, Option.mem_toList]
    exact or_iff_left (unfailed reason)
  refine ⟨chunk ▸ readings.chunk, source ▸ readings.bytes, fun present => ?_, ?_, ?_⟩
  · rw [List.flatMap_append, content, List.append_nil, notices, pump]
    exact readings.taken (left present)
  · simp only [failed, notices, pump]
    exact readings.failed
  · simp only [failed, mode, notices, pump]
    exact fun piped present => readings.pumped piped (left present)

/-- A notice leaves the queue for a worker that waits. -/
theorem Readings.hear
    {notice : Notice}
    {later : List Notice}
    (readings : Readings intakes reads fed Ended now)
    (waiting : now.position = .waiting)
    (noticed : now.notices = notice :: later)
    (chunk : after.chunk = now.chunk)
    (mode : after.mode = now.mode)
    (source : after.source = now.source)
    (pump : after.pump = now.pump)
    (notices : after.notices = later) :
    Readings (intakes ++ (Intake.ofNotice notice).toList) reads fed Ended after := by
  have content :
      (Intake.ofNotice notice).toList.flatMap Intake.content = notice.content := by
    cases notice <;> simp [Intake.ofNotice, Intake.content, Notice.content]
  have failure : ∀ reason,
      .failed reason ∈ (Intake.ofNotice notice).toList ↔ notice = .pumpFailed reason := by
    intro reason
    cases notice <;> simp [Intake.ofNotice, eq_comm]
  have present : now.position.hasLeft = false := by rw [waiting]; rfl
  obtain ⟨positive, bytes, taken, failed, pumped⟩ := readings
  simp only [noticed, List.flatMap_cons, List.mem_cons] at taken failed pumped
  refine ⟨chunk ▸ positive, source ▸ bytes, fun _ => ?_, ?_, ?_⟩
  · rw [List.flatMap_append, content, notices, pump, ← taken present]
    simp
  · intro reason
    simp only [List.mem_append, failure, notices, pump]
    rintro ((taken | heard) | waits | held)
    · exact failed reason (.inl taken)
    · exact failed reason (.inr (.inl (.inl heard.symm)))
    · exact failed reason (.inr (.inl (.inr waits)))
    · exact failed reason (.inr (.inr held))
  · rw [mode, pump]
    intro piped _ gone
    rcases pumped piped present gone with ended | ⟨reason, (heard | waits) | taken⟩
    · exact .inl ended
    · exact .inr ⟨reason, .inr (List.mem_append_right _ ((failure reason).mpr heard.symm))⟩
    · exact .inr ⟨reason, .inl (notices ▸ waits)⟩
    · exact .inr ⟨reason, .inr (List.mem_append_left _ taken)⟩

/-- A read of the worker. -/
theorem Readings.ofRead
    {result : ReadResult}
    {source : Source}
    (readings : Readings intakes reads fed Ended now)
    (wiring : Wiring now)
    (reading : now.position = .reading)
    (read : now.source.read now.chunk = some (result, source))
    (chunk : after.chunk = now.chunk)
    (mode : after.mode = now.mode)
    (behind : after.source = source)
    (pump : after.pump = now.pump)
    (notices : after.notices = now.notices)
    (content : intake.toList.flatMap Intake.content = result.content)
    (failures : ∀ reason, intake = some (.failed reason) → result = .failed reason) :
    Readings (intakes ++ intake.toList) (reads ++ [result]) fed Ended after := by
  have unpiped := wiring.unpiped (by rw [reading]; rfl)
  have silent := wiring.notices_content unpiped
  have gone := wiring.pump.resolve_left unpiped
  have taken := readings.taken (by rw [reading]; rfl)
  rw [silent, gone] at taken
  simp only [Pump.content, List.append_nil] at taken
  refine ⟨chunk ▸ readings.chunk, ?_, fun _ => ?_, ?_, ?_⟩
  · rw [behind, ← readings.bytes, Source.content_of_read read]
    simp
  · rw [notices, pump, silent, gone]
    simp [Pump.content, taken, content]
  · intro reason failed
    simp only [List.mem_append, Option.mem_toList, List.mem_singleton, notices, pump] at failed ⊢
    rcases failed with (earlier | now) | later
    · exact .inl (readings.failed reason (.inl earlier))
    · exact .inr (failures reason now).symm
    · exact .inl (readings.failed reason (.inr later))
  · intro piped
    exact absurd (mode.symm.trans piped) unpiped

theorem Readings.work
    {arm : Arm}
    (readings : Readings intakes reads fed Ended now)
    (wiring : Wiring now)
    (move : WorkMove now intake event after) :
    Readings (intakes ++ intake.toList) (reads ++ (now.read? (.work arm)).toList) fed Ended
      after := by
  by_cases reading : now.position = .reading
  · cases move with
    | reads _ read takes =>
        rw [read?_of_reading reading read]
        rcases Intake.of_ofRead takes with
          ⟨content, rfl, rfl⟩ | ⟨reason, rfl, rfl⟩ | ⟨rfl, rfl, _⟩
        · exact readings.ofRead wiring reading read rfl rfl rfl rfl rfl (List.append_nil _) nofun
        · refine readings.ofRead wiring reading read rfl rfl rfl rfl rfl rfl ?_
          rintro _ ⟨⟩
          rfl
        · exact readings.ofRead wiring reading read rfl rfl rfl rfl rfl rfl nofun
    | retries _ read | rests _ read _ =>
        rw [read?_of_reading reading read]
        exact readings.ofRead wiring reading read rfl rfl rfl rfl rfl rfl nofun
    | _ => simp_all
  · rw [read?_of_not_reading reading, Option.toList_none, List.append_nil]
    cases move with
    | reads position | retries position | rests position => exact absurd position reading
    | hears waiting noticed takes =>
        rw [← takes]
        exact readings.hear waiting noticed rfl rfl rfl rfl rfl
    | wakes waiting noticed | ignores waiting noticed =>
        exact readings.hear waiting noticed rfl rfl rfl rfl rfl
    | begins position | looks position | ends position | offers position | enqueues position =>
        exact readings.goOn rfl rfl rfl rfl rfl (fun _ => by rw [position]; rfl) rfl nofun
    | quits | deserted | refuses | stores | closes =>
        exact readings.goOn rfl rfl rfl rfl rfl nofun rfl nofun

theorem read?_pump_of_reading
    {result : ReadResult}
    {source : Source}
    (reading : now.pump = .reading)
    (read : now.source.read now.chunk = some (result, source)) :
    now.read? .pump = some result := by
  simp [read?, reading, read]

theorem read?_pump_of_holding
    {notice : Notice}
    (holding : now.pump = .holding notice) :
    now.read? .pump = none := by
  simp only [read?, holding]

/-- The pump keeps what it has read until there is room for it. -/
theorem Readings.hold
    {result : ReadResult}
    {source : Source}
    {notice : Notice}
    (readings : Readings intakes reads fed Ended now)
    (reading : now.pump = .reading)
    (read : now.source.read now.chunk = some (result, source))
    (content : result.content = notice.content)
    (failure : ∀ reason, notice = .pumpFailed reason → result = .failed reason) :
    Readings intakes (reads ++ [result]) fed Ended
      { now with source := source, pump := .holding notice } := by
  obtain ⟨positive, bytes, taken, failed, -⟩ := readings
  rw [reading] at taken
  refine ⟨positive, ?_, fun present => ?_, ?_, ?_⟩
  · rw [← bytes, Source.content_of_read read]
    simp
  · rw [List.flatMap_append, ← taken present]
    simp [Pump.content, content]
  · rintro reason (earlier | waits | holding)
    · exact List.mem_append_left _ (failed reason (.inl earlier))
    · exact List.mem_append_left _ (failed reason (.inr (.inl waits)))
    · cases holding
      exact List.mem_append_right _ (List.mem_singleton.mpr (failure reason rfl).symm)
  · intro _ _ impossible
    cases impossible

/-- The pump passes on what it holds, and leaves if that is a failure. -/
theorem Readings.pass
    {notice : Notice}
    (readings : Readings intakes reads fed Ended now)
    (holding : now.pump = .holding notice)
    (present : now.position.hasLeft = false)
    (chunk : after.chunk = now.chunk)
    (source : after.source = now.source)
    (notices : after.notices = now.notices ++ [notice])
    (pump : after.pump = .reading ∨ after.pump = .gone ∧ ∃ reason, notice = .pumpFailed reason) :
    Readings intakes reads fed Ended after := by
  obtain ⟨positive, bytes, taken, failed, -⟩ := readings
  rw [holding] at taken
  have unloaded : after.pump.content = [] := by
    rcases pump with reads | ⟨leaves, _⟩
    · rw [reads]
      rfl
    · rw [leaves]
      rfl
  refine ⟨chunk ▸ positive, source ▸ bytes, fun _ => ?_, ?_, ?_⟩
  · rw [notices, unloaded, ← taken present]
    simp [Pump.content]
  · rw [notices]
    rintro reason (earlier | waits | impossible)
    · exact failed reason (.inl earlier)
    · rcases List.mem_append.mp waits with waits | passed
      · exact failed reason (.inr (.inl waits))
      · cases List.mem_singleton.mp passed
        exact failed reason (.inr (.inr holding))
    · rcases pump with reads | ⟨leaves, _⟩
      · cases reads.symm.trans impossible
      · cases leaves.symm.trans impossible
  · intro _ _ gone
    rcases pump with reads | ⟨_, reason, rfl⟩
    · cases reads.symm.trans gone
    · rw [notices]
      exact .inr ⟨reason, .inl (List.mem_append_right _ List.mem_cons_self)⟩

theorem Readings.pumps
    (readings : Readings intakes reads fed Ended now)
    (found : now.read? .pump = some .ended → Ended fed)
    (move : PumpMove now after) :
    Readings intakes (reads ++ (now.read? .pump).toList) fed Ended after := by
  cases move with
  | reads reading read gives =>
      rw [read?_pump_of_reading reading read]
      rcases gives with ⟨content, rfl, rfl⟩ | ⟨reason, rfl, rfl⟩
      · refine readings.hold reading read rfl ?_
        intro _ impossible
        cases impossible
      · refine readings.hold reading read rfl ?_
        rintro _ ⟨⟩
        rfl
  | retries reading read =>
      rw [read?_pump_of_reading reading read]
      obtain ⟨positive, bytes, taken, failed, -⟩ := readings
      refine ⟨positive, ?_, fun present => ?_, ?_, ?_⟩
      · rw [← bytes, Source.content_of_read read]
        simp
      · rw [List.flatMap_append, taken present]
        exact (List.append_nil _).symm
      · exact fun reason known => List.mem_append_left _ (failed reason known)
      · intro _ _ gone
        cases reading.symm.trans gone
  | @ends source reading read =>
      rw [read?_pump_of_reading reading read] at found ⊢
      obtain ⟨positive, bytes, taken, failed, -⟩ := readings
      rw [reading] at taken
      have content := Source.content_of_read read
      have nothing : now.source.content = [] := (Source.explains_of_read positive read).1
      refine ⟨positive, ?_, fun present => ?_, ?_, fun _ _ _ => .inl ?_⟩
      · show (reads ++ [ReadResult.ended]).flatMap ReadResult.content ++ source.content = fed
        rw [← bytes, content]
        simp
      · rw [List.flatMap_append, ← taken present]
        simp [stopPump, Pump.content, ReadResult.content]
      · rintro reason (earlier | waits | impossible)
        · exact List.mem_append_left _ (failed reason (.inl earlier))
        · exact List.mem_append_left _ (failed reason (.inr (.inl waits)))
        · cases impossible
      · have whole : (reads ++ [ReadResult.ended]).flatMap ReadResult.content = fed := by
          rw [← bytes, nothing]
          simp [ReadResult.content]
        rw [Option.toList_some, whole]
        exact found rfl
  | leaves holding left =>
      rw [read?_pump_of_holding holding, Option.toList_none, List.append_nil]
      have gone : ∀ {motive : Prop}, now.position.hasLeft = false → motive := by
        intro motive present
        cases left.symm.trans present
      refine ⟨readings.chunk, readings.bytes, gone, ?_, fun _ present => gone present⟩
      rintro reason (earlier | waits | impossible)
      · exact readings.failed reason (.inl earlier)
      · exact readings.failed reason (.inr (.inl waits))
      · cases impossible
  | passes holding present =>
      rw [read?_pump_of_holding holding, Option.toList_none, List.append_nil]
      exact readings.pass holding present rfl rfl rfl (.inl rfl)
  | passesFailure holding present =>
      rw [read?_pump_of_holding holding, Option.toList_none, List.append_nil]
      exact readings.pass holding present rfl rfl rfl (.inr ⟨rfl, _, rfl⟩)

theorem Readings.mono
    {Ended' : List UInt8 → Prop}
    (readings : Readings intakes reads fed Ended now)
    (kept : ∀ content, Ended content → Ended' content) :
    Readings intakes reads fed Ended' now :=
  { readings with
    pumped := fun piped present gone =>
      (readings.pumped piped present gone).imp_left (kept _) }

theorem Readings.move
    (readings : Readings intakes reads fed Ended now)
    (wiring : Wiring now)
    (found : now.read? action = some .ended → Ended fed)
    (move : Move now action intake event after) :
    Readings (intakes ++ intake.toList) (reads ++ (now.read? action).toList)
      (fed ++ action.supplied) Ended after := by
  have ⟨positive, bytes, taken, failed, pumped⟩ := readings
  cases move with
  | work move =>
      simp only [Action.supplied, List.append_nil]
      exact readings.work wiring move
  | pump move =>
      simp only [Action.supplied, Option.toList_none, List.append_nil]
      exact readings.pumps found move
  | consume move =>
      simp only [read?, Action.supplied, Option.toList_none, List.append_nil]
      cases move <;> exact ⟨positive, bytes, taken, failed, pumped⟩
  | @notify notice followed about unclosed present room =>
      have unpiped := Mode.unpiped_of_file followed
      simp only [read?, Action.supplied, Option.toList_none, List.append_nil]
      refine ⟨positive, bytes, ?_, ?_, fun piped => absurd piped unpiped⟩
      · simpa [Notice.content_of_isAboutFile about] using taken
      · rintro reason (earlier | waits | holding)
        · exact failed reason (.inl earlier)
        · rcases List.mem_append.mp waits with waits | told
          · exact failed reason (.inr (.inl waits))
          · cases List.mem_singleton.mp told
            cases about
        · exact failed reason (.inr (.inr holding))
  | @grow supply =>
      simp only [read?, Option.toList_none, List.append_nil]
      refine ⟨positive, ?_, taken, failed, pumped⟩
      rw [← bytes]
      simp [Source.grow, Source.content, Action.supplied]
  | _ =>
      simp only [read?, Action.supplied, Option.toList_none, List.append_nil]
      exact ⟨positive, bytes, taken, failed, pumped⟩

end

end Pipeline

end LogRows.Stream
