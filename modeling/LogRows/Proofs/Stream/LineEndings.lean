import LogRows.Proofs.Stream.ReadModes

/-!
# Line endings

A line may end in a carriage return and a newline as well as in a newline alone.  The return
is then the last byte of the line, where it is trimmed before the line is read as a row, so a
file with such endings yields the rows of the file without them
(`withReturns_yields_same`).  A return counts as a byte of its line, so this is said of
lines to which one more byte may be added.
-/

namespace LogRows

namespace Text

/-- The byte that may stand before the newline of a line. -/
def carriageReturn : UInt8 :=
  0x0D

theorem isBlankByte_carriageReturn : isBlankByte carriageReturn = true :=
  rfl

/-- A blank at the end makes no difference to what is left when blanks are trimmed. -/
theorem trimBytes_concat
    {byte : UInt8}
    (blank : isBlankByte byte = true)
    (bytes : List UInt8) :
    trimBytes (bytes ++ [byte]) = trimBytes bytes := by
  rw [trimBytes, trimBytes, List.dropWhile_append]
  split
  case isTrue blanks =>
    rw [List.isEmpty_iff.mp blanks, List.dropWhile_cons_of_pos blank]
    rfl
  case isFalse =>
    rw [List.reverse_append, List.reverse_singleton, List.singleton_append,
      List.dropWhile_cons_of_pos blank]

end Text

/-- A carriage return at the end of a line makes no difference to its row. -/
theorem Row.ofBytes?_concat_carriageReturn (line : List UInt8) :
    Row.ofBytes? (line ++ [Text.carriageReturn]) = Row.ofBytes? line := by
  rw [Row.ofBytes?, Text.trimBytes_concat Text.isBlankByte_carriageReturn]
  rfl

namespace Stream

/-- The bytes with a carriage return before every newline. -/
def withReturns (content : List UInt8) : List UInt8 :=
  content.flatMap fun byte =>
    if byte = LineBuffer.newline then [Text.carriageReturn, LineBuffer.newline] else [byte]

section

variable
    {limit : Nat}
    {content segment piece : List UInt8}

theorem withReturns_unended (outside : LineBuffer.newline ∉ segment) :
    withReturns segment = segment := by
  induction segment with
  | nil => rfl
  | cons byte segment ih =>
      rw [List.mem_cons, not_or] at outside
      rw [withReturns, List.flatMap_cons, if_neg (Ne.symm outside.1)]
      exact congrArg (byte :: ·) (ih outside.2)

theorem withReturns_ended
    (outside : LineBuffer.newline ∉ segment)
    (rest : List UInt8) :
    withReturns (segment ++ LineBuffer.newline :: rest) =
      (segment ++ [Text.carriageReturn]) ++ LineBuffer.newline :: withReturns rest := by
  have before : segment.flatMap _ = segment := withReturns_unended outside
  rw [withReturns, List.flatMap_append, List.flatMap_cons, if_pos rfl, before, List.append_assoc]
  rfl

/-- A line that is short enough has the same row with a carriage return. -/
theorem rowOfLine?_concat_carriageReturn (short : piece.length + 1 ≤ limit) :
    rowOfLine? (Line.ofPiece limit (piece ++ [Text.carriageReturn])) =
      rowOfLine? (Line.ofPiece limit piece) := by
  rw [Line.ofPiece, Line.ofPiece, if_pos (by simpa using short), if_pos (Nat.le_of_succ_le short)]
  exact Row.ofBytes?_concat_carriageReturn piece

/-- The rows of the lines of some bytes are those of the bytes with carriage returns. -/
theorem filterMap_rowOfLine?_withReturns
    (short : ∀ piece ∈ content.splitOn LineBuffer.newline, piece.length + 1 ≤ limit) :
    (Line.ofBytes limit (withReturns content)).filterMap rowOfLine? =
      (Line.ofBytes limit content).filterMap rowOfLine? := by
  induction content using LineBuffer.bySegments with
  | empty => rfl
  | unended segment _ outside => rw [withReturns_unended outside]
  | ended segment rest outside ih =>
      rw [List.splitOn_append_cons_self_of_not_mem outside, List.forall_mem_cons] at short
      have clear : LineBuffer.newline ∉ segment ++ [Text.carriageReturn] := by
        rw [List.mem_append, List.mem_singleton]
        rintro (member | same)
        · exact outside member
        · cases same
      rw [withReturns_ended outside, Line.ofBytes_ended limit clear,
        Line.ofBytes_ended limit outside, List.filterMap_cons, List.filterMap_cons,
        rowOfLine?_concat_carriageReturn short.1, ih short.2]

/--
If a carriage return may be added to every line, a file with a return before every newline
yields the same rows as the file without them, whatever the two configurations are.
-/
theorem withReturns_yields_same
    (plain returned : Config)
    (filter : Filter)
    (short :
      ∀ line ∈ content.splitOn LineBuffer.newline, line.length + 1 ≤ maxLineBytes) :
    Yields (.readTail plain .fresh filter 0 content) [] (listing filter content) .eof ∧
      Yields (.readTail returned .fresh filter 0 (withReturns content)) []
        (listing filter content) .eof := by
  have same : listing filter (withReturns content) = listing filter content := by
    rw [listing, listing, filterMap_rowOfLine?_withReturns short]
  exact ⟨.readTail plain filter content, same ▸ .readTail returned filter (withReturns content)⟩

/-- An object, a line that has a return already, a blank one, and one that no newline ends. -/
theorem withReturns_yields_same_of_four_lines :
    Yields (.readTail .default .fresh .all 0 [0x7B, 0x7D, 0x0A, 0x78, 0x0D, 0x0A, 0x0A, 0x5B]) []
        (listing .all [0x7B, 0x7D, 0x0A, 0x78, 0x0D, 0x0A, 0x0A, 0x5B]) .eof ∧
      Yields
        (.readTail ⟨0, 1⟩ .fresh .all 0
          [0x7B, 0x7D, 0x0D, 0x0A, 0x78, 0x0D, 0x0D, 0x0A, 0x0D, 0x0A, 0x5B])
        [] (listing .all [0x7B, 0x7D, 0x0A, 0x78, 0x0D, 0x0A, 0x0A, 0x5B]) .eof :=
  @withReturns_yields_same [0x7B, 0x7D, 0x0A, 0x78, 0x0D, 0x0A, 0x0A, 0x5B]
    .default ⟨0, 1⟩ .all (by decide)

end

end Stream

end LogRows
