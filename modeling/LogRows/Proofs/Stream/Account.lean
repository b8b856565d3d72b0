import LogRows.Proofs.Stream.Undisturbed

/-!
# Where the bytes of a stream are

The bytes that a stream has been fed and that its worker has not taken in are
`unread`: they are in notices, with the pump or still in the source, in this order.
A stream that nothing disturbs loses none of them, and its worker takes in the end
only when none is left.
-/

namespace LogRows.Stream

/-- The bytes that a pump holds. -/
def Pump.content : Pump → List UInt8
  | .holding notice => notice.content
  | _ => []

/-- The end of the source, for what a worker does when it has taken it in. -/
def Next.end? : Next → Option Intake
  | poll => none
  | await => none
  | finish _ => some .ended

/-- The end of the source, for a worker that has taken it in. -/
def Position.end? (position : Position) : Option Intake :=
  position.next?.bind Next.end?

/-- The bytes that a step of the outside gives to a stream. -/
def Action.supplied : Action → List UInt8
  | .grow supply => supply.content
  | _ => []

theorem Position.end?_delivering
    (rows : List Row)
    (next : Next)
    (refused : Phase) :
    (Position.delivering rows next refused).end? = next.end? := by
  rw [Position.end?, Position.next?_delivering]
  rfl

theorem Position.eq_ended_of_end?
    {position : Position}
    {taken : Intake}
    (ending : position.end? = some taken) :
    taken = .ended := by
  rcases Option.bind_eq_some_iff.mp ending with ⟨next, _, ends⟩
  cases next with
  | poll | await => cases ends
  | finish phase =>
      cases ends
      rfl

theorem Position.end?_of_hasLeft
    {position : Position}
    (left : position.hasLeft = true) :
    position.end? = some .ended := by
  cases position with
  | finishing phase | closing | gone => rfl
  | _ => cases left

namespace Pipeline

/-- The bytes that have been given to a stream and not taken in by its worker. -/
def unread (pipeline : Pipeline) : List UInt8 :=
  pipeline.notices.flatMap Notice.content ++ pipeline.pump.content ++ pipeline.source.content

/-- Every byte that a stream has been fed is taken in or unread, and the end comes last. -/
structure Account (intakes : List Intake) (fed : List UInt8) (now : Pipeline) : Prop where
  bytes :
    ∃ pieces : List (List UInt8),
      intakes = pieces.map .piece ++ now.position.end?.toList ∧
        pieces.flatten ++ now.unread = fed
  ended : now.position.end? = some .ended → now.unread = [] ∧ now.source.waits = false
  pumped :
    now.mode = .pipe → now.pump = .gone → now.source.content = [] ∧ now.source.waits = false

section

variable
    {now after : Pipeline}
    {action : Action}
    {intake : Option Intake}
    {event : Option Event}
    {intakes : List Intake}
    {fed : List UInt8}

theorem Course.unpiped_of_reading
    (course : Course now)
    (reading : now.position = .reading) :
    now.mode ≠ .pipe := by
  intro piped
  have polls := course.next .poll (by rw [reading]; rfl)
  rw [piped] at polls
  exact polls

/-- What a worker reads itself does not come by way of notices. -/
theorem Course.unread_eq
    (course : Course now)
    (unpiped : now.mode ≠ .pipe) :
    now.unread = now.source.content := by
  rcases course.pumpless unpiped with ⟨gone, _, _, empty⟩
  have silent : now.notices.flatMap Notice.content = [] := List.flatMap_eq_nil_iff.mpr empty
  rw [unread, silent, gone]
  rfl

theorem Account.goOn
    (account : Account intakes fed now)
    (mode : after.mode = now.mode)
    (pump : after.pump = now.pump)
    (waits : after.source.waits = now.source.waits)
    (content : now.source.content = [] → after.source.content = [])
    (unread : after.unread = now.unread)
    (ends : after.position.end? = now.position.end?) :
    Account (intakes ++ (none : Option Intake).toList) fed after := by
  rw [Option.toList_none, List.append_nil]
  refine ⟨?_, ?_, ?_⟩
  · rw [ends, unread]
    exact account.bytes
  · rw [ends, unread, waits]
    exact account.ended
  · rw [mode, pump, waits]
    intro piped gone
    rcases account.pumped piped gone with ⟨empty, unwaiting⟩
    exact ⟨content empty, unwaiting⟩

theorem Account.takePiece
    {content : List UInt8}
    (account : Account intakes fed now)
    (mode : after.mode = now.mode)
    (pump : after.pump = now.pump)
    (waits : after.source.waits = now.source.waits)
    (empty : now.source.content = [] → after.source.content = [])
    (unread : now.unread = content ++ after.unread)
    (before : now.position.end? = none)
    (behind : after.position.end? = none) :
    Account (intakes ++ (some (Intake.piece content)).toList) fed after := by
  rcases account with ⟨⟨pieces, taken, whole⟩, _, pumped⟩
  refine ⟨⟨pieces ++ [content], ?_, ?_⟩, ?_, ?_⟩
  · rw [taken, before, behind]
    simp
  · rw [← whole, unread]
    simp
  · rw [behind]
    nofun
  · rw [mode, pump, waits]
    intro piped gone
    rcases pumped piped gone with ⟨nothing, unwaiting⟩
    exact ⟨empty nothing, unwaiting⟩

theorem Account.takeEnd
    (account : Account intakes fed now)
    (nothing : now.unread = [])
    (still : after.unread = [])
    (unwaiting : after.source.waits = false)
    (before : now.position.end? = none)
    (behind : after.position.end? = some .ended) :
    Account (intakes ++ (some Intake.ended).toList) fed after := by
  rcases account with ⟨⟨pieces, taken, whole⟩, _, _⟩
  refine ⟨⟨pieces, ?_, ?_⟩, fun _ => ⟨still, unwaiting⟩, fun _ _ => ⟨?_, unwaiting⟩⟩
  · rw [taken, before, behind]
    simp
  · rw [← whole, nothing, still]
  · exact (List.append_eq_nil_iff.mp still).2

theorem Account.work
    (account : Account intakes fed now)
    (faultless : Faultless now)
    (course : Course now)
    (move : WorkMove now intake event after) :
    Account (intakes ++ intake.toList) fed after := by
  cases move with
  | begins spawned =>
      refine account.goOn rfl rfl rfl id rfl ?_
      rw [spawned]
      cases now.mode <;> rfl
  | looks polling uncancelled =>
      exact account.goOn rfl rfl rfl id rfl (by rw [polling]; rfl)
  | quits idle => exact absurd idle faultless.not_quits
  | @reads result source taken reading read takes =>
      have unpiped := course.unpiped_of_reading reading
      have behind := course.work faultless (.reads reading read takes)
      have waits := (Source.supplies_of_read read).2
      have explained := Source.explains_of_read faultless.chunk read
      have before : now.position.end? = none := by
        rw [reading]
        rfl
      rcases faultless.intake_of_read read takes with ⟨content, rfl, rfl⟩ | ⟨rfl, rfl, _⟩
      · refine account.takePiece rfl rfl waits ?_ ?_ before (Position.end?_delivering _ _ _)
        · intro empty
          exact (List.append_eq_nil_iff.mp (explained.2.symm.trans empty)).2
        · rw [course.unread_eq unpiped, behind.unread_eq unpiped]
          exact explained.2
      · rcases explained with ⟨nothing, none, unwaiting⟩
        refine account.takeEnd ?_ ?_ (waits.trans unwaiting) before (Position.end?_delivering _ _ _)
        · rw [course.unread_eq unpiped]
          exact nothing
        · rw [behind.unread_eq unpiped]
          exact congrArg (List.flatMap Supply.content) none
  | retries reading read =>
      have unpiped := course.unpiped_of_reading reading
      have behind := course.work faultless (.retries reading read)
      have same := Source.explains_of_read faultless.chunk read
      refine account.goOn rfl rfl (Source.supplies_of_read read).2 same.symm.trans ?_
        (by rw [reading]; rfl)
      rw [course.unread_eq unpiped, behind.unread_eq unpiped]
      exact same.symm
  | rests reading read unbounded =>
      have unpiped := course.unpiped_of_reading reading
      have behind := course.work faultless (.rests reading read unbounded)
      rcases Source.explains_of_read faultless.chunk read with ⟨nothing, none, _⟩
      have still := congrArg (List.flatMap Supply.content) none
      refine account.goOn rfl rfl (Source.supplies_of_read read).2 (fun _ => still) ?_
        (by rw [reading]; rfl)
      rw [course.unread_eq unpiped, behind.unread_eq unpiped]
      exact still.trans nothing.symm
  | @hears notice later taken waiting noticed takes =>
      rcases faultless.intake_of_notice noticed takes with ⟨content, rfl, rfl⟩
      refine account.takePiece rfl rfl rfl id ?_ (by rw [waiting]; rfl)
        (Position.end?_delivering _ _ _)
      simp [unread, noticed, Notice.content, takeIn]
  | @wakes later waiting noticed =>
      refine account.goOn rfl rfl rfl id ?_ (by rw [waiting]; rfl)
      simp [unread, noticed, Notice.content]
  | @ignores later waiting noticed =>
      refine account.goOn rfl rfl rfl id ?_ rfl
      simp [unread, noticed, Notice.content]
  | ends waiting silent closed piped =>
      rcases course.pumped piped with ⟨gone, _⟩
      rcases account.pumped piped (gone.mp closed) with ⟨empty, unwaiting⟩
      have nothing : now.unread = [] := by
        rw [unread, silent, gone.mp closed, empty]
        rfl
      exact account.takeEnd nothing nothing unwaiting (by rw [waiting]; rfl)
        (Position.end?_delivering _ _ _)
  | deserted waiting silent closed unpiped =>
      cases closed.symm.trans (course.pumpless unpiped).2.1
  | @offers row rest next refused checking uncancelled =>
      exact account.goOn rfl rfl rfl id rfl (by rw [checking]; rfl)
  | refuses delivering => exact absurd delivering faultless.not_refuses
  | @enqueues row rest next refused offering present room =>
      refine account.goOn rfl rfl rfl id rfl ?_
      rw [offering]
      exact Position.end?_delivering _ _ _
  | @stores phase finishing =>
      exact account.goOn rfl rfl rfl id rfl (by rw [finishing]; rfl)
  | closes closing =>
      exact account.goOn rfl rfl rfl id rfl (by rw [closing]; rfl)

/-- A step that leaves the worker where it is and no byte behind. -/
theorem Account.keep
    (account : Account intakes fed now)
    (position : after.position = now.position)
    (unread : after.unread = now.unread)
    (waits : now.source.waits = false → after.source.waits = false)
    (pumped :
      after.mode = .pipe → after.pump = .gone →
        after.source.content = [] ∧ after.source.waits = false) :
    Account intakes fed after := by
  refine ⟨?_, ?_, pumped⟩
  · rw [position, unread]
    exact account.bytes
  · rw [position, unread]
    intro ending
    rcases account.ended ending with ⟨nothing, unwaiting⟩
    exact ⟨nothing, waits unwaiting⟩

theorem Account.pumps
    (account : Account intakes fed now)
    (faultless : Faultless now)
    (move : PumpMove now after) :
    Account intakes fed after := by
  cases move with
  | @reads result source notice reading read gives =>
      have explained := Source.explains_of_read faultless.chunk read
      have waits := (Source.supplies_of_read read).2
      rcases gives with ⟨content, rfl, rfl⟩ | ⟨reason, rfl, _⟩
      · refine account.keep rfl ?_ waits.trans ?_
        · have bytes : now.source.content = content ++ source.content := explained.2
          simp [unread, reading, Pump.content, Notice.content, bytes]
        · intro _ gone
          cases gone
      · exact absurd read faultless.not_failed
  | @retries source reading read =>
      have waits := (Source.supplies_of_read read).2
      have same : now.source.content = source.content :=
        Source.explains_of_read faultless.chunk read
      refine account.keep rfl ?_ waits.trans ?_
      · simp [unread, same]
      · intro _ gone
        cases reading.symm.trans gone
  | @ends source reading read =>
      have waits := (Source.supplies_of_read read).2
      rcases Source.explains_of_read faultless.chunk read with ⟨nothing, none, unwaiting⟩
      have empty : now.source.content = [] := nothing
      have still : source.content = [] := congrArg (List.flatMap Supply.content) none
      refine account.keep rfl ?_ waits.trans fun _ _ => ⟨still, waits.trans unwaiting⟩
      simp [unread, stopPump, reading, Pump.content, empty, still]
  | leaves holding left =>
      rcases account.ended (Position.end?_of_hasLeft left) with ⟨nothing, unwaiting⟩
      rcases List.append_eq_nil_iff.mp nothing with ⟨passed, empty⟩
      have quiet := (List.append_eq_nil_iff.mp passed).1
      refine account.keep rfl ?_ id fun _ _ => ⟨empty, unwaiting⟩
      rw [nothing]
      show now.notices.flatMap Notice.content ++ [] ++ now.source.content = []
      rw [quiet, empty]
      rfl
  | @passes notice holding present room whole =>
      refine account.keep rfl ?_ id ?_
      · simp [unread, holding, Pump.content]
      · intro _ gone
        cases gone
  | passesFailure holding present room =>
      rcases faultless.pump _ holding with ⟨content, impossible⟩
      cases impossible

theorem Course.end?_of_file
    (course : Course now)
    (followed : now.mode = .file) :
    now.position.end? = none := by
  have next := course.next
  rw [followed] at next
  unfold Position.end?
  cases goes : now.position.next? with
  | none => rfl
  | some goal =>
      cases goal with
      | poll | await => rfl
      | finish phase => exact (next _ goes).elim

/-- A source that has ended is fed no more. -/
theorem Account.move
    (account : Account intakes fed now)
    (faultless : Faultless now)
    (course : Course now)
    (move : Move now action intake event after)
    (calm :
      action.drains = true ∨
        (action.feeds = true ∧ (now.mode = .file ∨ now.source.waits = true))) :
    Account (intakes ++ intake.toList) (fed ++ action.supplied) after := by
  cases move with
  | work move =>
      simp only [Action.supplied, List.append_nil]
      exact account.work faultless course move
  | consume move =>
      simp only [Action.supplied, Option.toList_none, List.append_nil]
      cases move <;> exact account.keep rfl rfl id account.pumped
  | pump move =>
      simp only [Action.supplied, Option.toList_none, List.append_nil]
      exact account.pumps faultless move
  | @notify notice followed about unclosed present room =>
      simp only [Action.supplied, Option.toList_none, List.append_nil]
      refine account.keep rfl ?_ id account.pumped
      have silent : notice.content = [] := by
        cases notice with
        | changed | other | notifierFailed reason => rfl
        | piece content | pumpFailed reason => cases about
      simp [unread, silent]
  | @grow supply =>
      rw [Option.toList_none, List.append_nil]
      rcases account with ⟨⟨pieces, taken, whole⟩, ended, pumped⟩
      have later : now.mode = .file ∨ now.source.waits = true := by
        rcases calm with impossible | ⟨_, later⟩
        · cases impossible
        · exact later
      refine ⟨⟨pieces, taken, ?_⟩, ?_, ?_⟩
      · rw [← whole]
        simp [unread, Action.supplied]
      · intro ending
        rcases later with followed | waits
        · cases (course.end?_of_file followed).symm.trans ending
        · cases waits.symm.trans (ended ending).2
      · intro piped gone
        rcases later with followed | waits
        · cases followed.symm.trans piped
        · cases waits.symm.trans (pumped piped gone).2
  | closeSource =>
      simp only [Action.supplied, Option.toList_none, List.append_nil]
      refine account.keep rfl rfl (fun _ => rfl) ?_
      exact fun piped gone => ⟨(account.pumped piped gone).1, rfl⟩
  | endNotices =>
      rcases calm with impossible | ⟨impossible, _⟩ <;> cases impossible
  | _ =>
      simp only [Action.supplied, Option.toList_none, List.append_nil]
      exact account.keep rfl rfl id account.pumped

/-- The worker of a file is told to read, is reading or has nothing to read. -/
def Heeds (now : Pipeline) : Prop :=
  .changed ∈ now.notices ∨ now.position.next? = some .poll ∨ now.source.content = []

theorem Heeds.work
    (heeds : Heeds now)
    (faultless : Faultless now)
    (followed : now.mode = .file)
    (move : WorkMove now intake event after) :
    Heeds after := by
  cases move with
  | begins spawned =>
      rcases heeds with told | reading | empty
      · exact .inl told
      · rw [spawned] at reading
        cases reading
      · exact .inr (.inr empty)
  | looks polling uncancelled => exact .inr (.inl rfl)
  | quits idle => exact absurd idle faultless.not_quits
  | reads reading read takes =>
      rcases faultless.intake_of_read read takes with ⟨_, _, rfl⟩ | ⟨_, _, filter, bounded⟩
      · exact .inr (.inl (Position.next?_delivering _ _ _))
      · cases followed.symm.trans bounded
  | retries reading read => exact .inr (.inl rfl)
  | rests reading read unbounded =>
      rcases Source.explains_of_read faultless.chunk read with ⟨_, none, _⟩
      exact .inr (.inr (congrArg (List.flatMap Supply.content) none))
  | @hears notice later taken waiting noticed takes =>
      rcases heeds with told | reading | empty
      · rw [noticed] at told
        rcases List.mem_cons.mp told with rfl | told
        · cases takes
        · exact .inl told
      · rw [waiting] at reading
        cases reading
      · exact .inr (.inr empty)
  | wakes waiting noticed => exact .inr (.inl rfl)
  | @ignores later waiting noticed =>
      rcases heeds with told | reading | empty
      · rw [noticed] at told
        rcases List.mem_cons.mp told with impossible | told
        · cases impossible
        · exact .inl told
      · rw [waiting] at reading
        cases reading
      · exact .inr (.inr empty)
  | ends waiting silent closed piped => cases followed.symm.trans piped
  | deserted waiting silent closed unpiped =>
      rcases heeds with told | reading | empty
      · rw [silent] at told
        cases told
      · rw [waiting] at reading
        cases reading
      · exact .inr (.inr empty)
  | @offers row rest next refused checking uncancelled =>
      rw [Heeds, checking] at heeds
      exact heeds
  | refuses delivering => exact absurd delivering faultless.not_refuses
  | @enqueues row rest next refused offering present room =>
      rw [Heeds, offering] at heeds
      rw [Heeds, Position.next?_delivering]
      exact heeds
  | @stores phase finishing =>
      rcases heeds with told | reading | empty
      · exact .inl told
      · rw [finishing] at reading
        cases reading
      · exact .inr (.inr empty)
  | closes closing =>
      rcases heeds with told | reading | empty
      · exact .inl told
      · rw [closing] at reading
        cases reading
      · exact .inr (.inr empty)

theorem Heeds.move
    (heeds : Heeds now)
    (faultless : Faultless now)
    (course : Course now)
    (followed : now.mode = .file)
    (move : Move now action intake event after)
    (drains : action.drains = true) :
    Heeds after := by
  cases move with
  | work move => exact heeds.work faultless followed move
  | consume move => cases move <;> exact heeds
  | pump move =>
      have gone := (course.pumpless (Mode.unpiped_of_file followed)).1
      cases move <;> simp_all
  | request idle => exact heeds
  | _ => cases drains

end

end Pipeline

end LogRows.Stream
