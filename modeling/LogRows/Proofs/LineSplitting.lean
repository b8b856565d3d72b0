import LogRows.Stream.Line

/-!
# Lines do not depend on how bytes arrive

The lines of a byte string are said here without a machine: the string is cut at
every newline, and each of the pieces is a line or too long to be one.  A
`LineBuffer` finds the same lines, however the bytes are cut into what it is
given (`pushAll_append_finish`).

The argument looks forward.  `LineBuffer.ahead` is what a buffer has still to
find if some bytes are all that comes, and taking a part of these bytes moves
lines from there to what has been found.
-/

namespace LogRows

namespace Line

/-- The line of a piece that holds anything or is ended by a newline. -/
def ofPiece (limit : Nat) (piece : List UInt8) : Line :=
  if piece.length ≤ limit then .complete piece else .overlong

/-- The lines of the pieces between newlines; no newline ends the last one, which may be empty. -/
def ofPieces (limit : Nat) : List (List UInt8) → List Line
  | [] => []
  | [last] => if last.isEmpty then [] else [ofPiece limit last]
  | piece :: next :: rest => ofPiece limit piece :: ofPieces limit (next :: rest)

/-- The lines of a byte string. -/
def ofBytes (limit : Nat) (bytes : List UInt8) : List Line :=
  ofPieces limit (bytes.splitOn LineBuffer.newline)

/-- The lines of a byte string behind its first newline. -/
def ofBytesAfterFirst (limit : Nat) (bytes : List UInt8) : List Line :=
  ofPieces limit (bytes.splitOn LineBuffer.newline).tail

/-- The bytes behind the last newline. -/
def unended (bytes : List UInt8) : List UInt8 :=
  (bytes.reverse.takeWhile (· != LineBuffer.newline)).reverse

/-- The line behind the last newline, unless it is empty or known to be too long. -/
def unended? (limit : Nat) (bytes : List UInt8) : Option Line :=
  if (unended bytes).isEmpty ∨ limit < (unended bytes).length then
    none
  else
    some (.complete (unended bytes))

theorem unended_append
    (bytes : List UInt8)
    {segment : List UInt8}
    (outside : LineBuffer.newline ∉ segment) :
    unended (bytes ++ segment) = unended bytes ++ segment := by
  have clear : ∀ byte ∈ segment.reverse, (byte != LineBuffer.newline) = true := by
    intro byte member
    rw [bne_iff_ne]
    exact fun equal => outside (equal ▸ List.mem_reverse.mp member)
  simp [unended, List.takeWhile_append_of_pos clear]

theorem unended_concat (bytes : List UInt8) :
    unended (bytes ++ [LineBuffer.newline]) = [] := by
  simp [unended]

theorem ofPieces_cons
    (limit : Nat)
    (piece : List UInt8)
    {rest : List (List UInt8)}
    (more : rest ≠ []) :
    ofPieces limit (piece :: rest) = ofPiece limit piece :: ofPieces limit rest := by
  cases rest with
  | nil => exact absurd rfl more
  | cons next rest => rfl

/-- A piece that is too long is a line whether or not a newline ends it. -/
theorem ofPieces_cons_overlong
    {limit : Nat}
    {piece : List UInt8}
    (long : limit < piece.length)
    (rest : List (List UInt8)) :
    ofPieces limit (piece :: rest) = .overlong :: ofPieces limit rest := by
  have line : ofPiece limit piece = .overlong := if_neg (Nat.not_le.mpr long)
  cases rest with
  | nil =>
      have nonempty : piece ≠ [] := fun equal => by simp [equal] at long
      simp [ofPieces, line, nonempty]
  | cons next rest => rw [ofPieces, line]

/-- The first line of bytes with a newline is what stands before it. -/
theorem ofBytes_ended
    (limit : Nat)
    {segment : List UInt8}
    (outside : LineBuffer.newline ∉ segment)
    (rest : List UInt8) :
    ofBytes limit (segment ++ LineBuffer.newline :: rest) =
      ofPiece limit segment :: ofBytes limit rest := by
  rw [ofBytes, List.splitOn_append_cons_self_of_not_mem outside,
    ofPieces_cons limit segment (List.splitOn_ne_nil _ _)]
  rfl

end Line

namespace LineBuffer

open Line

theorem splitOn_append
    {segment : List UInt8}
    (outside : newline ∉ segment)
    (rest : List UInt8) :
    (segment ++ rest).splitOn newline =
      (segment ++ (rest.splitOn newline).head (List.splitOn_ne_nil _ _)) ::
        (rest.splitOn newline).tail := by
  induction segment with
  | nil => simp
  | cons byte segment ih =>
      have other : byte ≠ newline := fun equal => outside (equal ▸ List.mem_cons_self)
      have inner := ih fun member => outside (List.mem_cons_of_mem byte member)
      simp [List.splitOn_cons_eq_if_modifyHead, other, inner]

/--
What every buffer fulfils that started empty: it holds a part of one line, of at most the
greatest length, and nothing while it drops bytes.
-/
structure WellFormed (buffer : LineBuffer) : Prop where
  bounded : buffer.pending.size ≤ buffer.limit
  unended : newline ∉ buffer.pending
  dropped : buffer.discarding = true → buffer.pending = #[]

/-- The lines that a buffer has still to find if some bytes are all that comes. -/
def ahead (buffer : LineBuffer) (bytes : List UInt8) : List Line :=
  if buffer.discarding then
    ofBytesAfterFirst buffer.limit bytes
  else
    ofBytes buffer.limit (buffer.pending.toList ++ bytes)

theorem wellFormed_withLimit (limit : Nat) :
    (withLimit limit).WellFormed :=
  ⟨Nat.zero_le _, by simp [withLimit], fun _ => rfl⟩

theorem wellFormed_skipFirstLine (limit : Nat) :
    (withLimit limit).skipFirstLine.WellFormed :=
  ⟨Nat.zero_le _, by simp [withLimit, skipFirstLine], fun _ => rfl⟩

theorem WellFormed.takeSegment
    {buffer : LineBuffer}
    (formed : buffer.WellFormed)
    {segment : List UInt8}
    (outside : newline ∉ segment)
    (ended : Bool) :
    (buffer.takeSegment segment ended).1.WellFormed := by
  unfold LineBuffer.takeSegment
  split
  case isTrue discarding =>
      exact ⟨formed.bounded, formed.unended, fun _ => formed.dropped discarding⟩
  case isFalse =>
    split
    case isTrue => exact ⟨Nat.zero_le _, by simp, fun _ => rfl⟩
    case isFalse fits =>
      split
      case isTrue => exact ⟨Nat.zero_le _, by simp, fun _ => rfl⟩
      case isFalse =>
        refine ⟨by simpa using fits, ?_, by simp⟩
        simp [formed.unended, outside]

@[simp]
theorem limit_takeSegment
    (buffer : LineBuffer)
    (segment : List UInt8)
    (ended : Bool) :
    (buffer.takeSegment segment ended).1.limit = buffer.limit := by
  unfold takeSegment
  repeat' split
  all_goals rfl

theorem ahead_withLimit (limit : Nat) (bytes : List UInt8) :
    (withLimit limit).ahead bytes = ofBytes limit bytes :=
  rfl

theorem ahead_skipFirstLine (limit : Nat) (bytes : List UInt8) :
    (withLimit limit).skipFirstLine.ahead bytes = ofBytesAfterFirst limit bytes :=
  rfl

/-- A segment that a newline ends moves at most one line from ahead to found. -/
theorem ahead_ended
    {buffer : LineBuffer}
    (formed : buffer.WellFormed)
    {segment : List UInt8}
    (outside : newline ∉ segment)
    (rest : List UInt8) :
    buffer.ahead (segment ++ newline :: rest) =
      (buffer.takeSegment segment true).2.toList ++
        (buffer.takeSegment segment true).1.ahead rest := by
  by_cases discarding : buffer.discarding = true
  · have held := formed.dropped discarding
    simp [ahead, takeSegment, discarding, held, ofBytesAfterFirst, ofBytes,
      List.splitOn_append_cons_self_of_not_mem outside]
  · have clear : newline ∉ buffer.pending.toList ++ segment := by
      simpa using ⟨formed.unended, outside⟩
    have first := ofBytes_ended buffer.limit clear rest
    rw [List.append_assoc] at first
    by_cases long : buffer.limit < buffer.pending.size + segment.length
    all_goals simp [ahead, takeSegment, discarding, long, first, ofPiece]

/-- A segment that nothing ends moves at most one line from ahead to found. -/
theorem ahead_unended
    {buffer : LineBuffer}
    (formed : buffer.WellFormed)
    {segment : List UInt8}
    (outside : newline ∉ segment)
    (rest : List UInt8) :
    buffer.ahead (segment ++ rest) =
      (buffer.takeSegment segment false).2.toList ++
        (buffer.takeSegment segment false).1.ahead rest := by
  by_cases discarding : buffer.discarding = true
  · simp [ahead, takeSegment, discarding, ofBytesAfterFirst, splitOn_append outside]
  · have clear : newline ∉ buffer.pending.toList ++ segment := by
      simpa using ⟨formed.unended, outside⟩
    have cut := splitOn_append clear rest
    rw [List.append_assoc] at cut
    by_cases long : buffer.limit < buffer.pending.size + segment.length
    · simp only [ahead, discarding, Bool.false_eq_true, if_false, ofBytes, cut]
      rw [ofPieces_cons_overlong (by simp only [List.length_append, Array.length_toList]; omega)]
      simp [takeSegment, discarding, long, ofBytesAfterFirst]
    · simp [ahead, takeSegment, discarding, long, ofBytes]

theorem WellFormed.push
    {buffer : LineBuffer}
    (formed : buffer.WellFormed)
    (piece : List UInt8) :
    (buffer.push piece).1.WellFormed := by
  induction piece using bySegments generalizing buffer with
  | empty => simpa using formed
  | unended segment nonempty outside =>
      rw [push_unended _ nonempty outside]
      exact formed.takeSegment outside false
  | ended segment rest outside ih =>
      rw [push_ended _ outside]
      exact ih (formed.takeSegment outside true)

@[simp]
theorem limit_push (buffer : LineBuffer) (piece : List UInt8) :
    (buffer.push piece).1.limit = buffer.limit := by
  induction piece using bySegments generalizing buffer with
  | empty => simp
  | unended segment nonempty outside => simp [push_unended _ nonempty outside]
  | ended segment rest outside ih => simp [push_ended _ outside, ih]

/-- A piece has no more lines than bytes, for each of them is found at a byte of its own. -/
theorem length_push_le (buffer : LineBuffer) (piece : List UInt8) :
    (buffer.push piece).2.length ≤ piece.length := by
  have one : ∀ line? : Option Line, line?.toList.length ≤ 1 := by
    intro line?
    cases line? <;> simp
  induction piece using bySegments generalizing buffer with
  | empty => simp
  | unended segment nonempty outside =>
      rw [push_unended _ nonempty outside]
      exact Nat.le_trans (one _) (List.length_pos_iff.mpr nonempty)
  | ended segment rest outside ih =>
      rw [push_ended _ outside]
      simp only [List.length_append, List.length_cons]
      have first := one (buffer.takeSegment segment true).2
      have later := ih (buffer.takeSegment segment true).1
      omega

/-- Taking a piece moves its lines from ahead to found. -/
theorem ahead_append
    {buffer : LineBuffer}
    (formed : buffer.WellFormed)
    (piece rest : List UInt8) :
    buffer.ahead (piece ++ rest) =
      (buffer.push piece).2 ++ (buffer.push piece).1.ahead rest := by
  induction piece using bySegments generalizing buffer with
  | empty => simp
  | unended segment nonempty outside =>
      rw [push_unended _ nonempty outside]
      exact ahead_unended formed outside rest
  | ended segment piece outside ih =>
      rw [push_ended _ outside, List.append_assoc, List.cons_append,
        ahead_ended formed outside, ih (formed.takeSegment outside true), List.append_assoc]

/-- When the bytes end, what is ahead is the unfinished line. -/
theorem finish_eq_ahead
    {buffer : LineBuffer}
    (formed : buffer.WellFormed) :
    buffer.finish.2.toList = buffer.ahead [] := by
  have alone : buffer.pending.toList.splitOn newline = [buffer.pending.toList] :=
    List.splitOn_eq_singleton (by simpa using formed.unended)
  by_cases discarding : buffer.discarding = true
  · simp [finish, ahead, discarding, ofBytesAfterFirst, ofPieces]
  · by_cases empty : buffer.pending = #[]
    · simp [finish, ahead, discarding, empty, ofBytes, ofPieces]
    · simp [finish, ahead, discarding, empty, ofBytes, alone, ofPieces, ofPiece,
        formed.bounded]

/-- Take pieces one after the other, with all the lines that are found in them. -/
def pushAll (buffer : LineBuffer) : List (List UInt8) → LineBuffer × List Line
  | [] => (buffer, [])
  | piece :: rest =>
      let (next, lines) := buffer.push piece
      let (after, more) := next.pushAll rest
      (after, lines ++ more)

theorem WellFormed.pushAll
    {buffer : LineBuffer}
    (formed : buffer.WellFormed)
    (pieces : List (List UInt8)) :
    (buffer.pushAll pieces).1.WellFormed := by
  induction pieces generalizing buffer with
  | nil => exact formed
  | cons piece rest ih => exact ih (formed.push piece)

@[simp]
theorem limit_pushAll (buffer : LineBuffer) (pieces : List (List UInt8)) :
    (buffer.pushAll pieces).1.limit = buffer.limit := by
  induction pieces generalizing buffer with
  | nil => rfl
  | cons piece rest ih => simp [pushAll, ih]

/-- Taking pieces moves their lines from ahead to found. -/
theorem ahead_flatten_append
    {buffer : LineBuffer}
    (formed : buffer.WellFormed)
    (pieces : List (List UInt8))
    (later : List UInt8) :
    buffer.ahead (pieces.flatten ++ later) =
      (buffer.pushAll pieces).2 ++ (buffer.pushAll pieces).1.ahead later := by
  induction pieces generalizing buffer with
  | nil => simp [pushAll]
  | cons piece rest ih =>
      rw [List.flatten_cons, List.append_assoc, ahead_append formed, ih (formed.push piece)]
      simp [pushAll]

theorem ahead_flatten
    {buffer : LineBuffer}
    (formed : buffer.WellFormed)
    (pieces : List (List UInt8)) :
    buffer.ahead pieces.flatten =
      (buffer.pushAll pieces).2 ++ (buffer.pushAll pieces).1.ahead [] := by
  rw [← ahead_flatten_append formed, List.append_nil]

/-- What a buffer that started empty holds of the bytes that it has taken. -/
structure Remembers (buffer : LineBuffer) (bytes : List UInt8) : Prop where
  dropping : buffer.discarding = true → buffer.limit < (Line.unended bytes).length
  keeping : buffer.discarding = false → buffer.pending.toList = Line.unended bytes

theorem Remembers.takeUnended
    {buffer : LineBuffer}
    {bytes segment : List UInt8}
    (remembers : buffer.Remembers bytes)
    (outside : newline ∉ segment) :
    (buffer.takeSegment segment false).1.Remembers (bytes ++ segment) := by
  have grown := unended_append bytes outside
  unfold LineBuffer.takeSegment
  split
  case isTrue discarding =>
    constructor
    · intro _
      rw [grown, List.length_append]
      exact Nat.lt_of_lt_of_le (remembers.dropping discarding) (Nat.le_add_right _ _)
    · intro impossible
      cases impossible
  case isFalse keeps =>
    have kept := remembers.keeping (Bool.eq_false_iff.mpr keeps)
    split
    case isTrue long =>
      constructor
      · intro _
        rw [grown, ← kept]
        simpa using long
      · intro impossible
        cases impossible
    case isFalse =>
      constructor
      · intro impossible
        cases impossible
      · intro _
        rw [grown, ← kept]
        simp

theorem Remembers.takeEnded
    {buffer : LineBuffer}
    {segment : List UInt8}
    (formed : buffer.WellFormed)
    (bytes : List UInt8) :
    (buffer.takeSegment segment true).1.Remembers (bytes ++ [newline]) := by
  unfold LineBuffer.takeSegment
  split
  case isTrue discarding =>
    constructor
    · intro impossible
      cases impossible
    · intro _
      rw [unended_concat, formed.dropped discarding]
  case isFalse =>
    split
    · exact ⟨nofun, fun _ => (unended_concat bytes).symm⟩
    · exact ⟨nofun, fun _ => (unended_concat bytes).symm⟩

theorem Remembers.push
    {buffer : LineBuffer}
    {bytes : List UInt8}
    (remembers : buffer.Remembers bytes)
    (formed : buffer.WellFormed)
    (piece : List UInt8) :
    (buffer.push piece).1.Remembers (bytes ++ piece) := by
  induction piece using bySegments generalizing buffer bytes with
  | empty => simpa using remembers
  | unended segment nonempty outside =>
      rw [push_unended _ nonempty outside]
      exact remembers.takeUnended outside
  | ended segment rest outside ih =>
      rw [push_ended _ outside]
      have next : (buffer.takeSegment segment true).1.Remembers (bytes ++ segment ++ [newline]) :=
        .takeEnded formed _
      simpa using ih next (formed.takeSegment outside true)

theorem Remembers.pushAll
    {buffer : LineBuffer}
    {bytes : List UInt8}
    (remembers : buffer.Remembers bytes)
    (formed : buffer.WellFormed)
    (pieces : List (List UInt8)) :
    (buffer.pushAll pieces).1.Remembers (bytes ++ pieces.flatten) := by
  induction pieces generalizing buffer bytes with
  | nil => simpa [LineBuffer.pushAll] using remembers
  | cons piece rest ih =>
      have later := ih (remembers.push formed piece) (formed.push piece)
      simpa [LineBuffer.pushAll] using later

/-- The last line is the one that no newline has ended and that may still be short enough. -/
theorem Remembers.finish_eq
    {buffer : LineBuffer}
    {bytes : List UInt8}
    (remembers : buffer.Remembers bytes)
    (formed : buffer.WellFormed) :
    buffer.finish.2 = Line.unended? buffer.limit bytes := by
  cases discarding : buffer.discarding with
  | true =>
      have long := remembers.dropping discarding
      simp [finish, discarding, Line.unended?, long]
  | false =>
      have kept := remembers.keeping discarding
      have fits : ¬ buffer.limit < buffer.pending.size := Nat.not_lt.mpr formed.bounded
      simp [finish, discarding, Line.unended?, ← kept, fits]

/-- The lines that are found in the pieces of some bytes, and the one that their end makes. -/
theorem pushAll_withLimit (limit : Nat) (pieces : List (List UInt8)) :
    ((withLimit limit).pushAll pieces).2 ++
        ((withLimit limit).pushAll pieces).1.finish.2.toList =
          Line.ofBytes limit pieces.flatten ∧
      ((withLimit limit).pushAll pieces).1.finish.2 =
        Line.unended? limit pieces.flatten := by
  have formed := wellFormed_withLimit limit
  have remembers : (withLimit limit).Remembers [] := ⟨nofun, fun _ => rfl⟩
  constructor
  · rw [finish_eq_ahead (formed.pushAll pieces), ← ahead_flatten formed]
    simp [ahead, withLimit]
  · have last := (remembers.pushAll formed pieces).finish_eq (formed.pushAll pieces)
    rw [limit_pushAll] at last
    exact last

/-- However bytes are cut into pieces, their lines are found, and the buffer is as new after them. -/
theorem pushAll_append_finish
    (limit : Nat)
    (skips : Bool)
    (pieces : List (List UInt8)) :
    let start :=
      if skips then (withLimit limit).skipFirstLine else withLimit limit
    let after := (start.pushAll pieces).1
    (start.pushAll pieces).2 ++ after.finish.2.toList =
        (if skips then
          Line.ofBytesAfterFirst limit pieces.flatten
        else
          Line.ofBytes limit pieces.flatten) ∧
      after.finish.1 = withLimit limit := by
  intro start after
  have formed : start.WellFormed := by
    cases skips
    · exact wellFormed_withLimit limit
    · exact wellFormed_skipFirstLine limit
  have sameLimit : after.limit = limit := by
    simp only [after, limit_pushAll]
    cases skips <;> rfl
  have found := ahead_flatten formed pieces
  rw [← finish_eq_ahead (formed.pushAll pieces)] at found
  refine ⟨?_, congrArg withLimit sameLimit⟩
  rw [← found]
  cases skips <;> simp [start, ahead, withLimit, skipFirstLine]

end LineBuffer

end LogRows
