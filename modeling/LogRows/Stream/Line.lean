/-!
# Lines of an incremental byte stream

A `LineBuffer` turns bytes that arrive in pieces into lines.  The bytes after the
last newline of a piece are kept for the next one, so a line that arrives in
several pieces comes out whole.  A line that grows past the limit is reported
once, with the piece in which it does, and its remaining bytes up to the newline
are dropped.
-/

namespace LogRows

/-- What the splitter finds in a byte stream. -/
inductive Line where
  /-- The bytes of a line, without its newline. -/
  | complete (content : List UInt8)
  /-- A line with more bytes than allowed. -/
  | overlong
deriving DecidableEq

/-- The bytes of a line are kept until its newline arrives. -/
structure LineBuffer where
  /-- The greatest number of bytes of a line. -/
  limit : Nat
  /-- The bytes since the last newline, unless they are being dropped. -/
  pending : Array UInt8
  /-- Whether bytes are dropped up to the next newline. -/
  discarding : Bool
deriving DecidableEq

/-- The limit on the bytes of a line that streams use. -/
def maxLineBytes : Nat :=
  16 * 1024

namespace LineBuffer

/-- The byte that ends a line. -/
def newline : UInt8 :=
  0x0A

/-- A buffer at the start of a line. -/
def withLimit (limit : Nat) : LineBuffer :=
  ⟨limit, #[], false⟩

/-- Drop everything up to the first newline, for streams that start inside a line. -/
def skipFirstLine (buffer : LineBuffer) : LineBuffer :=
  { buffer with discarding := true }

/-- The number of bytes held of an unfinished line. -/
def pendingLength (buffer : LineBuffer) : Nat :=
  buffer.pending.size

/--
Take the bytes up to a newline, or up to the end of what has arrived if `ended` is
false.  They may complete the line, continue it or make it too long.
-/
def takeSegment (buffer : LineBuffer) (segment : List UInt8) (ended : Bool) :
    LineBuffer × Option Line :=
  if buffer.discarding then
    (⟨buffer.limit, buffer.pending, !ended⟩, none)
  else if buffer.limit < buffer.pending.size + segment.length then
    (⟨buffer.limit, #[], !ended⟩, some .overlong)
  else if ended then
    (⟨buffer.limit, #[], false⟩, some (.complete (buffer.pending.toList ++ segment)))
  else
    (⟨buffer.limit, buffer.pending ++ segment.toArray, false⟩, none)

/-- Take a piece segment by segment, adding the lines found in it to others. -/
def pushOnto (buffer : LineBuffer) (lines : Array Line) (piece : List UInt8) :
    LineBuffer × Array Line :=
  if piece.isEmpty then
    (buffer, lines)
  else
    let segment := piece.takeWhile (· != newline)
    match _split : piece.dropWhile (· != newline) with
    | [] =>
        let (next, line?) := buffer.takeSegment segment false
        (next, lines ++ line?.toArray)
    | _ :: rest =>
        let (next, line?) := buffer.takeSegment segment true
        pushOnto next (lines ++ line?.toArray) rest
termination_by piece.length
decreasing_by
  have shorter := congrArg List.length _split
  have bounded := (piece.dropWhile_sublist (· != newline)).length_le
  simp only [List.length_cons] at shorter
  omega

/-- Take a piece of the stream, with the lines that it completes. -/
def push (buffer : LineBuffer) (piece : List UInt8) : LineBuffer × List Line :=
  let (after, lines) := buffer.pushOnto #[] piece
  (after, lines.toList)

/-- End the stream; an unfinished line that holds bytes is its last line. -/
def finish (buffer : LineBuffer) : LineBuffer × Option Line :=
  (⟨buffer.limit, #[], false⟩,
    if buffer.discarding || buffer.pending.isEmpty then
      none
    else
      some (.complete buffer.pending.toList))

/--
Induction on a piece in the way in which it is taken: it is empty, holds no newline, or
begins with a segment that a newline ends.
-/
theorem bySegments
    {motive : List UInt8 → Prop}
    (empty : motive [])
    (unended : ∀ segment, segment ≠ [] → newline ∉ segment → motive segment)
    (ended : ∀ segment rest, newline ∉ segment → motive rest →
      motive (segment ++ newline :: rest))
    (piece : List UInt8) :
    motive piece := by
  by_cases member : newline ∈ piece
  · obtain ⟨segment, rest, cut, outside⟩ := List.eq_append_cons_of_mem member
    exact cut ▸ ended segment rest outside (bySegments empty unended ended rest)
  · by_cases nonempty : piece = []
    · exact nonempty ▸ empty
    · exact unended piece nonempty member
termination_by piece.length
decreasing_by
  have lengths := congrArg List.length cut
  simp only [List.length_append, List.length_cons] at lengths
  omega

private theorem ne_newline
    {segment : List UInt8}
    (outside : newline ∉ segment) :
    ∀ byte ∈ segment, (byte != newline) = true := by
  intro byte member
  simp only [bne_iff_ne]
  exact fun equal => outside (equal ▸ member)

@[simp]
theorem pushOnto_nil (buffer : LineBuffer) (lines : Array Line) :
    buffer.pushOnto lines [] = (buffer, lines) := by
  simp [pushOnto]

theorem pushOnto_unended
    (buffer : LineBuffer)
    (lines : Array Line)
    {segment : List UInt8}
    (nonempty : segment ≠ [])
    (outside : newline ∉ segment) :
    buffer.pushOnto lines segment =
      ((buffer.takeSegment segment false).1,
        lines ++ (buffer.takeSegment segment false).2.toArray) := by
  have taken := @List.takeWhile_append_of_pos _ (· != newline) segment [] (ne_newline outside)
  have dropped := @List.dropWhile_append_of_pos _ (· != newline) segment [] (ne_newline outside)
  simp only [List.append_nil, List.takeWhile_nil, List.dropWhile_nil] at taken dropped
  rw [pushOnto, taken]
  split
  · simp_all
  · split
    · rfl
    · simp_all

theorem pushOnto_ended
    (buffer : LineBuffer)
    (lines : Array Line)
    {segment : List UInt8}
    (outside : newline ∉ segment)
    (rest : List UInt8) :
    buffer.pushOnto lines (segment ++ newline :: rest) =
      (buffer.takeSegment segment true).1.pushOnto
        (lines ++ (buffer.takeSegment segment true).2.toArray) rest := by
  have taken :=
    @List.takeWhile_append_of_pos _ (· != newline) segment (newline :: rest)
      (ne_newline outside)
  have dropped :=
    @List.dropWhile_append_of_pos _ (· != newline) segment (newline :: rest)
      (ne_newline outside)
  simp only [bne_self_eq_false, Bool.false_eq_true, not_false_eq_true,
    List.takeWhile_cons_of_neg, List.dropWhile_cons_of_neg, List.append_nil] at taken dropped
  rw [pushOnto, taken]
  split
  · simp_all
  · split
    · simp_all
    · simp_all

/-- Lines found before stay in front of the lines of a piece. -/
theorem pushOnto_eq
    (buffer : LineBuffer)
    (lines : Array Line)
    (piece : List UInt8) :
    buffer.pushOnto lines piece =
      ((buffer.push piece).1, lines ++ (buffer.push piece).2.toArray) := by
  induction piece using bySegments generalizing buffer lines with
  | empty => simp [push]
  | unended segment nonempty outside =>
      simp [push, pushOnto_unended _ _ nonempty outside]
  | ended segment rest outside ih =>
      simp only [push, pushOnto_ended _ _ outside]
      rw [ih, ih _ (#[] ++ _)]
      refine Prod.ext rfl (Array.ext' ?_)
      simp

@[simp]
theorem push_nil (buffer : LineBuffer) :
    buffer.push [] = (buffer, []) := by
  simp [push]

/-- A piece without a newline is one segment, which nothing ends. -/
theorem push_unended
    (buffer : LineBuffer)
    {segment : List UInt8}
    (nonempty : segment ≠ [])
    (outside : newline ∉ segment) :
    buffer.push segment =
      ((buffer.takeSegment segment false).1,
        (buffer.takeSegment segment false).2.toList) := by
  simp [push, pushOnto_unended _ _ nonempty outside]

/-- The first newline of a piece ends its first segment. -/
theorem push_ended
    (buffer : LineBuffer)
    {segment : List UInt8}
    (outside : newline ∉ segment)
    (rest : List UInt8) :
    buffer.push (segment ++ newline :: rest) =
      (((buffer.takeSegment segment true).1.push rest).1,
        (buffer.takeSegment segment true).2.toList ++
          ((buffer.takeSegment segment true).1.push rest).2) := by
  rw [push, pushOnto_ended _ _ outside, pushOnto_eq]
  simp

end LineBuffer

end LogRows
