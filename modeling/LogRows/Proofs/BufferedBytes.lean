import LogRows.Proofs.LineSplitting

/-!
# What a line buffer holds between calls

A buffer is used by calls: pieces are pushed, and the stream may be ended, after which
the buffer serves the next one.  In every state that such calls lead to, the bytes it
holds are those behind the last newline since the last end, unless they are dropped, and
they are never more than the limit (`callAll_bounded`).

`Recalls` is what a buffer knows of the bytes since the last end.  While it skips a first
line it only knows that it does, and from the newline of that line on it is like a buffer
that started empty, of which `Remembers` says everything.
-/

namespace LogRows

/-- Whether a line that comes out of a buffer is one that the buffer may hold. -/
def Line.Fits (limit : Nat) : Line → Prop
  | complete content => content.length ≤ limit ∧ LineBuffer.newline ∉ content
  | overlong => True

namespace LineBuffer

/-! ## Lines that come out -/

section Lines

variable {buffer : LineBuffer}

theorem WellFormed.fits_takeSegment
    (formed : buffer.WellFormed)
    {segment : List UInt8}
    (outside : newline ∉ segment)
    (ended : Bool) :
    ∀ line ∈ (buffer.takeSegment segment ended).2, line.Fits buffer.limit := by
  intro line member
  unfold LineBuffer.takeSegment at member
  split at member
  case isTrue => cases member
  case isFalse =>
    split at member
    case isTrue =>
      cases member
      trivial
    case isFalse fits =>
      split at member
      case isFalse => cases member
      case isTrue =>
        cases member
        have clear : newline ∉ buffer.pending.toList := by simpa using formed.unended
        have bounded : buffer.pending.toList.length + segment.length ≤ buffer.limit := by
          simpa using fits
        exact ⟨by simpa using bounded, by simp [clear, outside]⟩

theorem WellFormed.fits_push
    (formed : buffer.WellFormed)
    (piece : List UInt8) :
    ∀ line ∈ (buffer.push piece).2, line.Fits buffer.limit := by
  induction piece using bySegments generalizing buffer with
  | empty => simp
  | unended segment nonempty outside =>
      rw [push_unended _ nonempty outside]
      simpa using formed.fits_takeSegment outside false
  | ended segment rest outside ih =>
      rw [push_ended _ outside]
      intro line member
      rcases List.mem_append.mp member with first | later
      · exact formed.fits_takeSegment outside true line (Option.mem_toList.mp first)
      · have next := ih (formed.takeSegment outside true) line later
        rwa [limit_takeSegment] at next

theorem WellFormed.fits_finish (formed : buffer.WellFormed) :
    ∀ line ∈ buffer.finish.2, line.Fits buffer.limit := by
  intro line member
  unfold LineBuffer.finish at member
  split at member
  case isTrue => cases member
  case isFalse =>
    cases member
    exact ⟨by simpa using formed.bounded, by simpa using formed.unended⟩

end Lines

/-! ## Bytes that are held -/

/-- What a buffer knows of the bytes since its start or its last end. -/
inductive Recalls (buffer : LineBuffer) : (skips : Bool) → (bytes : List UInt8) → Prop where
  /-- The first line is being skipped. -/
  | skipping
      {bytes : List UInt8}
      (discarding : buffer.discarding = true)
      (outside : newline ∉ bytes) :
      Recalls buffer true bytes
  /-- No line is skipped any more. -/
  | remembering
      {skips : Bool}
      {bytes : List UInt8}
      (passed : skips = true → newline ∈ bytes)
      (remembers : buffer.Remembers bytes) :
      Recalls buffer skips bytes

namespace Recalls

variable {buffer : LineBuffer} {skips : Bool} {bytes : List UInt8}

theorem withLimit (limit : Nat) :
    (withLimit limit).Recalls false [] :=
  .remembering nofun ⟨nofun, fun _ => rfl⟩

theorem skipFirstLine (limit : Nat) :
    (LineBuffer.withLimit limit).skipFirstLine.Recalls true [] :=
  .skipping rfl List.not_mem_nil

/-- Behind a newline nothing is left of what came before, be it skipped or not. -/
theorem takeEnded
    (formed : buffer.WellFormed)
    (skips : Bool)
    (bytes segment : List UInt8) :
    (buffer.takeSegment segment true).1.Recalls skips (bytes ++ [newline]) :=
  .remembering (fun _ => by simp) (.takeEnded formed bytes)

theorem takeUnended
    (recalls : buffer.Recalls skips bytes)
    {segment : List UInt8}
    (outside : newline ∉ segment) :
    (buffer.takeSegment segment false).1.Recalls skips (bytes ++ segment) := by
  cases recalls with
  | skipping discarding before =>
      refine .skipping ?_ ?_
      · simp [takeSegment, discarding]
      · simp [before, outside]
  | remembering passed remembers =>
      refine .remembering (fun skips => ?_) (remembers.takeUnended outside)
      exact List.mem_append_left _ (passed skips)

theorem push
    (recalls : buffer.Recalls skips bytes)
    (formed : buffer.WellFormed)
    (piece : List UInt8) :
    (buffer.push piece).1.Recalls skips (bytes ++ piece) := by
  induction piece using bySegments generalizing buffer bytes with
  | empty => simpa using recalls
  | unended segment nonempty outside =>
      rw [push_unended _ nonempty outside]
      exact recalls.takeUnended outside
  | ended segment rest outside ih =>
      rw [push_ended _ outside]
      have next := takeEnded formed skips (bytes ++ segment) segment
      simpa using ih next (formed.takeSegment outside true)

theorem finish (buffer : LineBuffer) :
    buffer.finish.1.Recalls false [] :=
  withLimit buffer.limit

/-- Bytes are dropped when their line is too long, or is the first one and skipped. -/
theorem discarding_iff
    (recalls : buffer.Recalls skips bytes)
    (formed : buffer.WellFormed) :
    buffer.discarding = true ↔
      buffer.limit < (Line.unended bytes).length ∨ skips = true ∧ newline ∉ bytes := by
  cases recalls with
  | skipping discarding outside => simp [discarding, outside]
  | remembering passed remembers =>
      have unskipped : ¬(skips = true ∧ newline ∉ bytes) :=
        fun ⟨skips, outside⟩ => outside (passed skips)
      rw [or_iff_left unskipped]
      refine ⟨remembers.dropping, fun long => ?_⟩
      cases kept : buffer.discarding with
      | true => rfl
      | false =>
          rw [← remembers.keeping kept, Array.length_toList] at long
          exact absurd formed.bounded (Nat.not_le.mpr long)

/-- All the bytes behind the last newline are held, unless they are dropped. -/
theorem pendingLength_eq
    (recalls : buffer.Recalls skips bytes)
    (formed : buffer.WellFormed) :
    buffer.pendingLength =
      if buffer.discarding then 0 else (Line.unended bytes).length := by
  split
  case isTrue discarding => rw [pendingLength, formed.dropped discarding, Array.size_empty]
  case isFalse kept =>
    cases recalls with
    | skipping discarding => exact absurd discarding kept
    | remembering _ remembers =>
        rw [← remembers.keeping (Bool.eq_false_iff.mpr kept)]
        rfl

end Recalls

/-! ## Sequences of calls -/

/-- A call of a buffer. -/
inductive Call where
  /-- A piece of the stream arrives. -/
  | push (piece : List UInt8)
  /-- The stream ends. -/
  | finish
deriving DecidableEq

/-- The bytes since the last end, with those of one more call. -/
def Call.extend (bytes : List UInt8) : Call → List UInt8
  | push piece => bytes ++ piece
  | finish => []

/-- The bytes that were pushed since the stream ended last. -/
def Call.bytesSinceEnd (calls : List Call) : List UInt8 :=
  calls.foldl extend []

/-- Make one call. -/
def call (buffer : LineBuffer) : Call → LineBuffer × List Line
  | .push piece => buffer.push piece
  | .finish => (buffer.finish.1, buffer.finish.2.toList)

/-- Make calls one after the other, with all the lines that come out. -/
def callAll (buffer : LineBuffer) : List Call → LineBuffer × List Line
  | [] => (buffer, [])
  | call :: rest =>
      let (next, lines) := buffer.call call
      let (after, more) := next.callAll rest
      (after, lines ++ more)

section Calls

variable {buffer : LineBuffer}

@[simp]
theorem limit_call (buffer : LineBuffer) (call : Call) :
    (buffer.call call).1.limit = buffer.limit := by
  cases call with
  | push piece => exact limit_push buffer piece
  | finish => rfl

theorem WellFormed.call
    (formed : buffer.WellFormed)
    (call : Call) :
    (buffer.call call).1.WellFormed := by
  cases call with
  | push piece => exact formed.push piece
  | finish => exact wellFormed_withLimit buffer.limit

theorem WellFormed.fits_call
    (formed : buffer.WellFormed)
    (call : Call) :
    ∀ line ∈ (buffer.call call).2, line.Fits buffer.limit := by
  cases call with
  | push piece => exact formed.fits_push piece
  | finish => simpa [LineBuffer.call] using formed.fits_finish

theorem Recalls.call
    {skips : Bool}
    {bytes : List UInt8}
    (recalls : buffer.Recalls skips bytes)
    (formed : buffer.WellFormed)
    (call : Call) :
    (buffer.call call).1.Recalls (skips && call ≠ .finish) (call.extend bytes) := by
  cases call with
  | push piece => simpa [LineBuffer.call, Call.extend] using recalls.push formed piece
  | finish => simpa [LineBuffer.call, Call.extend] using Recalls.finish buffer

@[simp]
theorem limit_callAll (buffer : LineBuffer) (calls : List Call) :
    (buffer.callAll calls).1.limit = buffer.limit := by
  induction calls generalizing buffer with
  | nil => rfl
  | cons call rest ih => simp [callAll, ih]

theorem WellFormed.callAll
    (formed : buffer.WellFormed)
    (calls : List Call) :
    (buffer.callAll calls).1.WellFormed := by
  induction calls generalizing buffer with
  | nil => exact formed
  | cons call rest ih => exact ih (formed.call call)

theorem WellFormed.fits_callAll
    (formed : buffer.WellFormed)
    (calls : List Call) :
    ∀ line ∈ (buffer.callAll calls).2, line.Fits buffer.limit := by
  induction calls generalizing buffer with
  | nil => simp [LineBuffer.callAll]
  | cons call rest ih =>
      intro line member
      rcases List.mem_append.mp member with first | later
      · exact formed.fits_call call line first
      · have next := ih (formed.call call) line later
        rwa [limit_call] at next

theorem Recalls.callAll
    {skips : Bool}
    {bytes : List UInt8}
    (recalls : buffer.Recalls skips bytes)
    (formed : buffer.WellFormed)
    (calls : List Call) :
    (buffer.callAll calls).1.Recalls
      (skips && Call.finish ∉ calls)
      (calls.foldl Call.extend bytes) := by
  induction calls generalizing buffer skips bytes with
  | nil => simpa [LineBuffer.callAll] using recalls
  | cons call rest ih =>
      have next := ih (recalls.call formed call) (formed.call call)
      have stillSkips :
          ((skips && call ≠ .finish) && Call.finish ∉ rest) =
            (skips && Call.finish ∉ call :: rest) := by
        simp [Bool.and_assoc, eq_comm]
      rwa [stillSkips] at next

end Calls

/--
Whatever calls are made, a buffer that started empty holds at most as many bytes as its
limit and no newline, and none while it drops bytes; it drops the bytes of a line that is
too long or skipped, and holds all other bytes behind the last newline.  No line that
comes out is longer than the limit or holds a newline.
-/
theorem callAll_bounded
    (limit : Nat)
    (skips : Bool)
    (calls : List Call) :
    let start :=
      if skips then (withLimit limit).skipFirstLine else withLimit limit
    let after := (start.callAll calls).1
    let bytes := Call.bytesSinceEnd calls
    (after.pending.size ≤ limit ∧ newline ∉ after.pending) ∧
      (after.discarding = true → after.pending = #[]) ∧
      (after.discarding = true ↔
        limit < (Line.unended bytes).length ∨
          skips = true ∧ Call.finish ∉ calls ∧ newline ∉ bytes) ∧
      (after.pendingLength =
        if after.discarding then 0 else (Line.unended bytes).length) ∧
      ∀ content, Line.complete content ∈ (start.callAll calls).2 →
        content.length ≤ limit ∧ newline ∉ content := by
  intro start after bytes
  have formed : start.WellFormed := by
    cases skips
    · exact wellFormed_withLimit limit
    · exact wellFormed_skipFirstLine limit
  have recalls : start.Recalls skips [] := by
    cases skips
    · exact .withLimit limit
    · exact .skipFirstLine limit
  have sameLimit : start.limit = limit := by cases skips <;> rfl
  have formedAfter : after.WellFormed := formed.callAll calls
  have recallsAfter := recalls.callAll formed calls
  have limitAfter : after.limit = limit := by simp only [after, limit_callAll, sameLimit]
  refine ⟨⟨?_, formedAfter.unended⟩, formedAfter.dropped, ?_, ?_, ?_⟩
  · exact limitAfter ▸ formedAfter.bounded
  · have dropped := recallsAfter.discarding_iff formedAfter
    simp only [Bool.and_eq_true, decide_eq_true_eq, and_assoc] at dropped
    exact limitAfter ▸ dropped
  · exact recallsAfter.pendingLength_eq formedAfter
  · intro content member
    have fits := formed.fits_callAll calls _ member
    rwa [sameLimit] at fits

/-- A line is skipped, one comes out, one is too long, and a new stream has begun. -/
theorem callAll_bounded_of_overlong :
    let calls : List Call :=
      [.push [97, 98, 99, 10, 120], .push [10, 97, 98, 99], .finish, .push [122]]
    let result := (withLimit 2).skipFirstLine.callAll calls
    result.2 = [.complete [120], .overlong] ∧
      result.1.pendingLength = (Line.unended (Call.bytesSinceEnd calls)).length ∧
      [120].length ≤ 2 ∧ newline ∉ [120] := by
  intro calls result
  have skipped :
      (withLimit 2).skipFirstLine.push [97, 98, 99, 10, 120] = (⟨2, #[120], false⟩, []) := by
    cbv
  have dropped :
      push ⟨2, #[120], false⟩ [10, 97, 98, 99] =
        (⟨2, #[], true⟩, [.complete [120], .overlong]) := by
    cbv
  have begun : push ⟨2, #[], false⟩ [122] = (⟨2, #[122], false⟩, []) := by
    cbv
  have ran : result = (⟨2, #[122], false⟩, [.complete [120], .overlong]) := by
    simp only [result, calls, callAll, call, skipped, dropped, finish, begun]
    rfl
  have found : result.2 = [.complete [120], .overlong] := congrArg (·.2) ran
  have kept : result.1.discarding = false := congrArg (·.1.discarding) ran
  have bounded := callAll_bounded 2 true calls
  have held :
      result.1.pendingLength =
        if result.1.discarding then 0 else (Line.unended (Call.bytesSinceEnd calls)).length :=
    bounded.2.2.2.1
  rw [if_neg (Bool.eq_false_iff.mp kept)] at held
  exact ⟨found, held, bounded.2.2.2.2 [120] (found ▸ List.mem_cons_self)⟩

end LineBuffer

end LogRows
