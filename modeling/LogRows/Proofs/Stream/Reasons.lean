import LogRows.Proofs.Stream.Custody

/-!
# Why a worker decides on a phase

The worker of a stream decides on no phase without a reason: it has taken in the end and
delivered everything, it has taken in a failure, its notifier is gone, or nobody is to have
its rows.  `Standing` are the reasons of a worker that is still at work, `Warrant` those of
one that has decided, and `Reasons` keeps them along a run.
-/

namespace LogRows.Stream

/-- The phase of a stream whose worker has begun and not ended, or not begun. -/
def Position.phase? : Position → Option Phase
  | .spawned => some .init
  | .closing => none
  | .gone => none
  | _ => some .streaming

namespace Pipeline

/-- The terminal phase that the worker has decided on. -/
def verdict? (pipeline : Pipeline) : Option Phase :=
  match pipeline.position with
  | .finishing phase => some phase
  | .closing => some pipeline.phase
  | .gone => some pipeline.phase
  | _ => none

/-- What a worker has taken in that goes on to something; `refused` is its phase if it cannot. -/
inductive Standing
    (mode : Mode)
    (intakes : List Intake)
    (reads : List ReadResult)
    (Ended : List UInt8 → Prop) :
    Next → Phase → Prop where
  | goesOn
      {again : Next}
      (endless : ∀ phase, again ≠ .finish phase)
      (whole :
        mode = .file ∨ ∃ pieces : List (List UInt8), intakes = pieces.map .piece) :
      Standing mode intakes reads Ended again .cancelled
  | ends
      {pieces : List (List UInt8)}
      (taken : intakes = pieces.map .piece ++ [.ended])
      (ended : Ended pieces.flatten) :
      Standing mode intakes reads Ended (.finish .eof) .cancelled
  | fails
      {earlier : List Intake}
      {reason : String}
      (taken : intakes = earlier ++ [.failed reason])
      (failed : .failed reason ∈ reads) :
      Standing mode intakes reads Ended (.finish .error) .error

/-- Why a worker has decided on a phase. -/
inductive Warrant
    (wanted : List Row)
    (intakes : List Intake)
    (enqueued : List Row)
    (reads : List ReadResult)
    (Ended : List UInt8 → Prop)
    (now : Pipeline) :
    Phase → Prop where
  | ended
      {pieces : List (List UInt8)}
      (taken : intakes = pieces.map .piece ++ [.ended])
      (ended : Ended pieces.flatten)
      (delivered : enqueued = wanted) :
      Warrant wanted intakes enqueued reads Ended now .eof
  | failed
      {earlier : List Intake}
      {reason : String}
      (taken : intakes = earlier ++ [.failed reason])
      (failed : .failed reason ∈ reads) :
      Warrant wanted intakes enqueued reads Ended now .error
  | deserted
      (followed : now.mode = .file)
      (closed : now.noticesClosed = true) :
      Warrant wanted intakes enqueued reads Ended now .error
  | cancelled
      (nobody : now.scope.cancelled = true ∨ now.consumer = .dropped) :
      Warrant wanted intakes enqueued reads Ended now .cancelled

/-- The worker has a reason for whatever it is about to do or has decided on. -/
structure Reasons
    (start : Pipeline)
    (intakes : List Intake)
    (enqueued : List Row)
    (reads : List ReadResult)
    (Ended : List UInt8 → Prop)
    (now : Pipeline) :
    Prop where
  fresh : now.position = .spawned → intakes = []
  phase : ∀ phase, now.position.phase? = some phase → now.phase = phase
  standing :
    ∀ next refused, now.position.aim? = some (next, refused) →
      Standing start.mode intakes reads Ended next refused
  warrant :
    ∀ phase, now.verdict? = some phase →
      Warrant (start.mode.wanted start.buffer intakes) intakes enqueued reads Ended now phase

section

variable
    {start now after : Pipeline}
    {action : Action}
    {intake : Option Intake}
    {event : Option Event}
    {intakes : List Intake}
    {enqueued : List Row}
    {reads more : List ReadResult}
    {fed : List UInt8}
    {Ended Ended' : List UInt8 → Prop}

theorem Warrant.isTerminal
    {wanted : List Row}
    {phase : Phase}
    (warrant : Warrant wanted intakes enqueued reads Ended now phase) :
    phase.isTerminal = true := by
  cases warrant <;> rfl

theorem Standing.mono
    {mode : Mode}
    {next : Next}
    {refused : Phase}
    (standing : Standing mode intakes reads Ended next refused)
    (known : ∀ result ∈ reads, result ∈ more)
    (kept : ∀ content, Ended content → Ended' content) :
    Standing mode intakes more Ended' next refused := by
  cases standing with
  | goesOn endless whole => exact .goesOn endless whole
  | ends taken ended => exact .ends taken (kept _ ended)
  | fails taken failed => exact .fails taken (known _ failed)

/-- A reason of the worker stays one as long as it neither takes in nor delivers. -/
theorem Warrant.mono
    {wanted : List Row}
    {phase : Phase}
    (warrant : Warrant wanted intakes enqueued reads Ended now phase)
    (known : ∀ result ∈ reads, result ∈ more)
    (kept : ∀ content, Ended content → Ended' content)
    (mode : after.mode = now.mode)
    (closed : now.noticesClosed = true → after.noticesClosed = true)
    (nobody :
      now.scope.cancelled = true ∨ now.consumer = .dropped →
        after.scope.cancelled = true ∨ after.consumer = .dropped) :
    Warrant wanted intakes enqueued more Ended' after phase := by
  cases warrant with
  | ended taken ended delivered => exact .ended taken (kept _ ended) delivered
  | failed taken failed => exact .failed taken (known _ failed)
  | deserted followed shut => exact .deserted (mode.trans followed) (closed shut)
  | cancelled alone => exact .cancelled (nobody alone)

theorem Reasons.mono
    (reasons : Reasons start intakes enqueued reads Ended now)
    (known : ∀ result ∈ reads, result ∈ more)
    (kept : ∀ content, Ended content → Ended' content) :
    Reasons start intakes enqueued more Ended' now where
  fresh := reasons.fresh
  phase := reasons.phase
  standing next refused aims := (reasons.standing next refused aims).mono known kept
  warrant phase decided := (reasons.warrant phase decided).mono known kept rfl id id

/-- A worker that is not about to finish may turn to something else. -/
theorem Standing.turn
    {mode : Mode}
    {next other : Next}
    {refused : Phase}
    (standing : Standing mode intakes reads Ended next refused)
    (endless : ∀ phase, next ≠ .finish phase)
    (still : ∀ phase, other ≠ .finish phase) :
    Standing mode intakes reads Ended other .cancelled := by
  cases standing with
  | goesOn _ whole => exact .goesOn still whole
  | ends _ _ => exact absurd rfl (endless .eof)
  | fails _ _ => exact absurd rfl (endless .error)

/-- A worker at work has a reason for what it is about to do. -/
theorem Reasons.pursue
    {next : Next}
    {refused : Phase}
    (aims : now.position.aim? = some (next, refused))
    (phase : now.phase = .streaming)
    (standing : Standing start.mode intakes reads Ended next refused) :
    Reasons start intakes enqueued reads Ended now := by
  have same : ∀ other phase, now.position.aim? = some (other, phase) →
      Standing start.mode intakes reads Ended other phase := by
    rw [aims]
    rintro _ _ ⟨⟩
    exact standing
  cases position : now.position with
  | polling | reading | waiting | checking | offering =>
      refine ⟨?_, ?_, same, ?_⟩
      · rw [position]
        nofun
      · rw [position]
        rintro _ ⟨⟩
        exact phase
      · simp only [verdict?, position]
        nofun
  | spawned | finishing | closing | gone =>
      rw [position] at aims
      cases aims

/-- A worker that has decided has a reason to. -/
theorem Reasons.decide
    {decided : Phase}
    (position : now.position = .finishing decided)
    (phase : now.phase = .streaming)
    (warrant :
      Warrant (start.mode.wanted start.buffer intakes) intakes enqueued reads Ended now decided) :
    Reasons start intakes enqueued reads Ended now := by
  refine ⟨?_, ?_, ?_, ?_⟩
  · rw [position]
    nofun
  · rw [position]
    rintro _ ⟨⟩
    exact phase
  · rw [position]
    nofun
  · simp only [verdict?, position]
    rintro _ ⟨⟩
    exact warrant

/-- A worker that sets out to deliver the last rows that it wants to has a reason to. -/
theorem Reasons.deliver
    {rows : List Row}
    {next : Next}
    {refused : Phase}
    (standing : Standing start.mode intakes reads Ended next refused)
    (whole : enqueued ++ rows = start.mode.wanted start.buffer intakes)
    (phase : now.phase = .streaming)
    (position : now.position = .delivering rows next refused) :
    Reasons start intakes enqueued reads Ended now := by
  cases rows with
  | cons row rest => exact .pursue (by rw [position]; rfl) phase standing
  | nil =>
      rw [List.append_nil] at whole
      cases next with
      | poll =>
          have stands : Standing start.mode intakes reads Ended .poll .cancelled :=
            standing.turn nofun nofun
          exact .pursue (by rw [position]; rfl) phase stands
      | await =>
          have stands : Standing start.mode intakes reads Ended .await .cancelled :=
            standing.turn nofun nofun
          exact .pursue (by rw [position]; rfl) phase stands
      | finish decided =>
          refine .decide position phase ?_
          cases standing with
          | goesOn endless _ => exact absurd rfl (endless decided)
          | ends taken ended => exact .ended taken ended whole
          | fails taken failed => exact .failed taken failed

/-- What a worker that is not about to finish has taken in, unless it follows a file. -/
theorem Standing.whole
    {mode : Mode}
    {next : Next}
    {refused : Phase}
    (standing : Standing mode intakes reads Ended next refused)
    (endless : ∀ phase, next ≠ .finish phase) :
    mode = .file ∨ ∃ pieces : List (List UInt8), intakes = pieces.map .piece := by
  cases standing with
  | goesOn _ whole => exact whole
  | ends _ _ => exact absurd rfl (endless .eof)
  | fails _ _ => exact absurd rfl (endless .error)

theorem Standing.takePiece
    {mode : Mode}
    {next : Next}
    {refused : Phase}
    (standing : Standing mode intakes reads Ended next refused)
    (endless : ∀ phase, next ≠ .finish phase)
    (content : List UInt8) :
    Standing mode (intakes ++ [.piece content]) reads Ended next .cancelled := by
  refine .goesOn endless ?_
  rcases standing.whole endless with followed | ⟨pieces, rfl⟩
  · exact .inl followed
  · exact .inr ⟨pieces ++ [content], by simp⟩

/-- Pieces that hold all that was read are those of the content of a source that has ended. -/
theorem Readings.flatten_eq
    {pieces : List (List UInt8)}
    (readings : Readings (pieces.map .piece) reads fed Ended now)
    (present : now.position.hasLeft = false)
    (silent : now.notices.flatMap Notice.content = [])
    (gone : now.pump = .gone) :
    pieces.flatten = reads.flatMap ReadResult.content := by
  have taken := readings.taken present
  rw [silent, gone, List.flatMap_map] at taken
  simpa [Intake.content, Pump.content, List.flatMap_id'] using taken

/-- A worker that takes something in sets out to deliver its rows. -/
theorem Reasons.takeIn
    {again : Next}
    {taken : Intake}
    (books : WorkerBooks start intakes enqueued now)
    (delivered : enqueued = start.mode.wanted start.buffer intakes)
    (standing :
      Standing start.mode (intakes ++ [taken]) reads Ended (taken.next again) taken.refused)
    (phase : now.phase = .streaming)
    (mode : after.mode = now.mode)
    (buffer : after.buffer = now.buffer)
    (still : after.phase = now.phase) :
    Reasons start (intakes ++ [taken]) enqueued reads Ended (after.takeIn again taken) := by
  refine .deliver standing ?_ (still.trans phase) rfl
  rw [mode, buffer, Mode.wanted_concat, ← delivered, books.mode, books.buffer]

/-- A worker at work streams, and it has a reason for what it is about to do. -/
theorem Reasons.atWork
    (reasons : Reasons start intakes enqueued reads Ended now)
    (next : Next)
    (refused : Phase)
    (aims : now.position.aim? = some (next, refused)) :
    now.phase = .streaming ∧ Standing start.mode intakes reads Ended next refused := by
  refine ⟨reasons.phase .streaming ?_, reasons.standing next refused aims⟩
  cases position : now.position with
  | polling | reading | waiting | checking | offering => rfl
  | spawned | finishing | closing | gone =>
      rw [position] at aims
      cases aims

/-- A worker that has no rows to deliver has delivered all that it wants to. -/
theorem WorkerBooks.enqueued_eq
    (books : WorkerBooks start intakes enqueued now)
    (present : now.position.hasLeft = false)
    (idle : now.position.undelivered = []) :
    enqueued = start.mode.wanted start.buffer intakes := by
  have whole := books.exact (.inl present)
  rwa [idle, List.append_nil] at whole

theorem Reasons.begin
    (reasons : Reasons start intakes enqueued reads Ended now)
    (spawned : now.position = .spawned) :
    Reasons start intakes enqueued reads Ended
      { now with phase := .streaming, position := firstPosition now.mode } := by
  have pieces : ∃ pieces : List (List UInt8), intakes = pieces.map .piece :=
    ⟨[], reasons.fresh spawned⟩
  have idle : ∃ next, (firstPosition now.mode).aim? = some (next, .cancelled) ∧
      ∀ phase, next ≠ .finish phase := by
    cases now.mode with
    | bounded filter => exact ⟨.poll, rfl, nofun⟩
    | file | pipe => exact ⟨.await, rfl, nofun⟩
  rcases idle with ⟨next, aims, endless⟩
  exact .pursue aims rfl (.goesOn endless (.inr pieces))

/-- What a worker reads itself lets it go on, ends the stream or fails. -/
theorem Reasons.read
    {result : ReadResult}
    {source : Source}
    {taken : Intake}
    (reasons : Reasons start intakes enqueued more Ended now)
    (readings : Readings intakes reads fed Ended now)
    (grown : more = reads ++ [result])
    (found : result = .ended → Ended fed)
    (wiring : Wiring now)
    (books : WorkerBooks start intakes enqueued now)
    (reading : now.position = .reading)
    (read : now.source.read now.chunk = some (result, source))
    (takes : Intake.ofRead now.mode result = some taken) :
    Reasons start (intakes ++ [taken]) enqueued more Ended
      ({ now with source := source }.takeIn .poll taken) := by
  obtain ⟨streams, stands⟩ := reasons.atWork .poll .cancelled (by rw [reading]; rfl)
  have present : now.position.hasLeft = false := by rw [reading]; rfl
  have delivered := books.enqueued_eq present (by rw [reading]; rfl)
  refine .takeIn books delivered ?_ streams rfl rfl rfl
  rcases Intake.of_ofRead takes with
    ⟨content, rfl, rfl⟩ | ⟨reason, rfl, rfl⟩ | ⟨rfl, rfl, filter, bounded⟩
  · exact stands.takePiece nofun content
  · refine .fails rfl ?_
    rw [grown]
    exact List.mem_append_right _ List.mem_cons_self
  · rcases stands.whole nofun with followed | ⟨pieces, rfl⟩
    · cases bounded.symm.trans (books.mode.trans followed)
    · have unpiped := wiring.unpiped (by rw [reading]; rfl)
      have silent := wiring.notices_content unpiped
      have gone := wiring.pump.resolve_left unpiped
      have nothing : now.source.content = [] :=
        (Source.explains_of_read readings.chunk read).1
      have whole : pieces.flatten = fed := by
        rw [readings.flatten_eq present silent gone, ← readings.bytes, nothing, List.append_nil]
      exact .ends rfl (whole ▸ found rfl)

/-- What a worker hears of lets it go on or fails. -/
theorem Reasons.hear
    {notice : Notice}
    {later : List Notice}
    {taken : Intake}
    (reasons : Reasons start intakes enqueued reads Ended now)
    (readings : Readings intakes reads fed Ended now)
    (wiring : Wiring now)
    (books : WorkerBooks start intakes enqueued now)
    (waiting : now.position = .waiting)
    (noticed : now.notices = notice :: later)
    (takes : Intake.ofNotice notice = some taken) :
    Reasons start (intakes ++ [taken]) enqueued reads Ended
      ({ now with notices := later }.takeIn .await taken) := by
  obtain ⟨streams, stands⟩ := reasons.atWork .await .cancelled (by rw [waiting]; rfl)
  have delivered := books.enqueued_eq (by rw [waiting]; rfl) (by rw [waiting]; rfl)
  have waits : notice ∈ now.notices := noticed ▸ List.mem_cons_self
  refine .takeIn books delivered ?_ streams rfl rfl rfl
  rcases Intake.of_ofNotice takes with
    ⟨content, rfl, rfl⟩ | ⟨reason, rfl, rfl⟩ | ⟨reason, rfl, rfl⟩
  · exact stands.takePiece nofun content
  · exact .fails rfl (readings.failed reason (.inr (.inl waits)))
  · rcases wiring.notices _ waits with ⟨_, followed⟩ | ⟨impossible, _⟩
    · exact .goesOn nofun (.inl (books.mode.symm.trans followed))
    · cases impossible

/-- A pump that has left without a failure has found the end of its source. -/
theorem Reasons.finish
    (reasons : Reasons start intakes enqueued reads Ended now)
    (readings : Readings intakes reads fed Ended now)
    (wiring : Wiring now)
    (books : WorkerBooks start intakes enqueued now)
    (waiting : now.position = .waiting)
    (silent : now.notices = [])
    (closed : now.noticesClosed = true)
    (piped : now.mode = .pipe) :
    Reasons start (intakes ++ [.ended]) enqueued reads Ended (now.takeIn .await .ended) := by
  obtain ⟨streams, stands⟩ := reasons.atWork .await .cancelled (by rw [waiting]; rfl)
  have present : now.position.hasLeft = false := by rw [waiting]; rfl
  have delivered := books.enqueued_eq present (by rw [waiting]; rfl)
  refine .takeIn books delivered ?_ streams rfl rfl rfl
  rcases stands.whole nofun with followed | ⟨pieces, rfl⟩
  · cases piped.symm.trans (books.mode.trans followed)
  · have gone := wiring.closed piped closed
    have whole := readings.flatten_eq present (by rw [silent]; rfl) gone
    rcases readings.pumped piped present gone with ended | ⟨reason, waits | taken⟩
    · exact .ends rfl (whole ▸ ended)
    · rw [silent] at waits
      cases waits
    · simp at taken

/-- A worker that cannot deliver its rows decides on the phase that it has for that. -/
theorem Reasons.refuse
    {row : Row}
    {rest : List Row}
    {next : Next}
    {refused : Phase}
    (reasons : Reasons start intakes enqueued reads Ended now)
    (delivering :
      now.position = .checking row rest next refused ∨
        now.position = .offering row rest next refused)
    (nobody : now.scope.cancelled = true ∨ now.consumer = .dropped) :
    Reasons start intakes enqueued reads Ended { now with position := .finishing refused } := by
  have aims : now.position.aim? = some (next, refused) := by
    rcases delivering with position | position <;> rw [position] <;> rfl
  obtain ⟨streams, stands⟩ := reasons.atWork next refused aims
  refine .decide rfl streams ?_
  cases stands with
  | goesOn | ends => exact .cancelled nobody
  | fails taken failed => exact .failed taken failed

theorem Reasons.work
    {arm : Arm}
    (reasons : Reasons start intakes enqueued more Ended now)
    (readings : Readings intakes reads fed Ended now)
    (grown : more = reads ++ (now.read? (.work arm)).toList)
    (found : now.read? (.work arm) = some .ended → Ended fed)
    (wiring : Wiring now)
    (sound : ScopeSound now)
    (books : WorkerBooks start intakes enqueued now)
    (move : WorkMove now intake event after) :
    Reasons start (intakes ++ intake.toList)
      (enqueued ++ (event.bind Event.enqueued?).toList) more Ended after := by
  cases move <;>
    simp only [Option.toList_none, Option.toList_some, Option.bind_none, List.append_nil]
  case begins spawned => exact reasons.begin spawned
  case looks position _ | retries position _ =>
    obtain ⟨streams, stands⟩ := reasons.atWork .poll .cancelled (by rw [position]; rfl)
    exact .pursue rfl streams stands
  case rests position _ _ =>
    obtain ⟨streams, stands⟩ := reasons.atWork .poll .cancelled (by rw [position]; rfl)
    exact .pursue rfl streams (stands.turn nofun nofun)
  case wakes later position _ =>
    obtain ⟨streams, stands⟩ := reasons.atWork .await .cancelled (by rw [position]; rfl)
    exact .pursue rfl streams (stands.turn nofun nofun)
  case ignores later position _ =>
    obtain ⟨streams, stands⟩ := reasons.atWork .await .cancelled (by rw [position]; rfl)
    exact .pursue (by rw [position]; rfl) streams stands
  case offers row rest next refused position _ =>
    obtain ⟨streams, stands⟩ := reasons.atWork next refused (by rw [position]; rfl)
    exact .pursue rfl streams stands
  case enqueues row rest next refused position _ _ =>
    obtain ⟨streams, stands⟩ := reasons.atWork next refused (by rw [position]; rfl)
    have whole := books.exact (.inl (by rw [position]; rfl))
    rw [position] at whole
    exact .deliver stands ((List.append_assoc _ _ _).trans whole) streams rfl
  case reads result source taken position read takes =>
    rw [read?_of_reading position read] at grown found
    exact reasons.read readings grown (fun ends => found (congrArg some ends)) wiring books
      position read takes
  case hears notice later taken position noticed takes =>
    rw [read?_of_waiting position, Option.toList_none, List.append_nil] at grown
    subst grown
    exact reasons.hear readings wiring books position noticed takes
  case ends position silent closed piped =>
    rw [read?_of_waiting position, Option.toList_none, List.append_nil] at grown
    subst grown
    exact reasons.finish readings wiring books position silent closed piped
  case quits idle =>
    rcases idle with ⟨position, cancelled⟩ | ⟨position, signalled⟩
    · have streams := (reasons.atWork .poll .cancelled (by rw [position]; rfl)).1
      exact .decide rfl streams (.cancelled (.inl cancelled))
    · have streams := (reasons.atWork .await .cancelled (by rw [position]; rfl)).1
      exact .decide rfl streams (.cancelled (.inl (sound.signalled signalled)))
  case deserted waiting silent closed unpiped =>
    have streams := (reasons.atWork .await .cancelled (by rw [waiting]; rfl)).1
    have followed : now.mode = .file := by
      have allowed := wiring.aims .await .cancelled (by rw [waiting]; rfl)
      cases mode : now.mode with
      | file => rfl
      | pipe => exact absurd mode unpiped
      | bounded filter =>
          rw [mode] at allowed
          exact allowed.elim
    exact .decide rfl streams (.deserted followed closed)
  case refuses row rest next refused delivering =>
    rcases delivering with ⟨position, cancelled⟩ | ⟨position, signalled | dropped⟩
    · exact reasons.refuse (.inl position) (.inl cancelled)
    · exact reasons.refuse (.inr position) (.inl (sound.signalled signalled))
    · exact reasons.refuse (.inr position) (.inr dropped)
  case stores decided position =>
    refine ⟨nofun, nofun, nofun, ?_⟩
    rintro _ ⟨⟩
    refine (reasons.warrant decided ?_).mono (fun _ => id) (fun _ => id) rfl id id
    simp only [verdict?, position]
  case closes position =>
    refine ⟨nofun, nofun, nofun, ?_⟩
    rintro _ ⟨⟩
    refine (reasons.warrant now.phase ?_).mono (fun _ => id) (fun _ => id) rfl id id
    simp only [verdict?, position]

/-- Only the worker changes the phase, and a notifier that has stopped stays so. -/
theorem Move.works_or_stands (move : Move now action intake event after) :
    (∃ arm, action = .work arm ∧ WorkMove now intake event after) ∨
      (after.position = now.position ∧
        after.phase = now.phase ∧
        (now.noticesClosed = true → after.noticesClosed = true) ∧
        intake = none ∧
        event.bind Event.enqueued? = none) := by
  cases move with
  | work move =>
      left
      exact ⟨_, rfl, move⟩
  | consume move =>
      right
      cases move <;> exact ⟨rfl, rfl, id, rfl, rfl⟩
  | pump move =>
      right
      cases move <;> first
        | exact ⟨rfl, rfl, id, rfl, rfl⟩
        | exact ⟨rfl, rfl, fun _ => rfl, rfl, rfl⟩
  | endNotices =>
      right
      exact ⟨rfl, rfl, fun _ => rfl, rfl, rfl⟩
  | _ =>
      right
      exact ⟨rfl, rfl, id, rfl, rfl⟩

theorem Reasons.move
    (reasons : Reasons start intakes enqueued reads Ended now)
    (readings : Readings intakes reads fed Ended now)
    (kept : ∀ content, Ended content → Ended' content)
    (found : now.read? action = some .ended → Ended' fed)
    (wiring : Wiring now)
    (sound : ScopeSound now)
    (books : WorkerBooks start intakes enqueued now)
    (move : Move now action intake event after) :
    Reasons start (intakes ++ intake.toList)
      (enqueued ++ (event.bind Event.enqueued?).toList) (reads ++ (now.read? action).toList)
      Ended' after := by
  have known : ∀ result ∈ reads, result ∈ reads ++ (now.read? action).toList :=
    fun _ => List.mem_append_left _
  rcases move.works_or_stands with ⟨arm, rfl, working⟩ | ⟨position, phase, closed, rfl, nothing⟩
  · exact (reasons.mono known kept).work (readings.mono kept) rfl found wiring sound books working
  · have decided : after.verdict? = now.verdict? := by
      simp only [verdict?, position, phase]
    have nobody :
        now.scope.cancelled = true ∨ now.consumer = .dropped →
          after.scope.cancelled = true ∨ after.consumer = .dropped :=
      Or.imp move.cancelled_mono move.dropped_mono
    rw [nothing]
    simp only [Option.toList_none, List.append_nil]
    refine ⟨?_, ?_, ?_, ?_⟩
    · rw [position]
      exact reasons.fresh
    · rw [position, phase]
      exact reasons.phase
    · rw [position]
      exact fun next refused aims => (reasons.standing next refused aims).mono known kept
    · rw [decided]
      exact fun phase verdict =>
        (reasons.warrant phase verdict).mono known kept move.mode_eq closed nobody

end

end Pipeline

end LogRows.Stream
