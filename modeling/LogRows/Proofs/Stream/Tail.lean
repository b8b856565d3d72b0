import LogRows.Proofs.LinePlaces
import LogRows.Proofs.Stream.ReadModes

/-!
# The end of a file

A tail reads the last bytes of a content and skips a line at their start.  What it yields
is said here by where the lines of the whole content begin: the rows of all lines that begin
behind the first byte of the window, and of no others, unless the window covers the content
(`Yields.tail`).  So a tail never shows a part of a line, and a greater window only adds rows
in front (`tails_nest`).

The line that is skipped need not be one that the window cuts.  One that begins with the
window is lost as well (`tail_drops_line_at_offset`).
-/

namespace LogRows.Stream

/-- The rows of the lines that begin at an offset or behind it, as far as a filter lets them pass. -/
def listingFrom (filter : Filter) (place : Nat) (content : List UInt8) : List Row :=
  ((Line.ofBytesFrom maxLineBytes place content).filterMap rowOfLine?).filter
    fun row => row.isFailed || filter.accepts row

/-- The least offset at which a line begins that a tail of some bytes shows. -/
def tailStart (bytes length : Nat) : Nat :=
  if 0 < bytes ∧ bytes < length then length - bytes + 1 else 0

/-- The rows of a tail. -/
def tailListing (filter : Filter) (bytes : Nat) (content : List UInt8) : List Row :=
  listingFrom filter (tailStart bytes content.length) content

@[simp]
theorem listingFrom_zero (filter : Filter) (content : List UInt8) :
    listingFrom filter 0 content = listing filter content := by
  rw [listingFrom, Line.ofBytesFrom_zero, listing]

theorem listingFrom_all (place : Nat) (content : List UInt8) :
    listingFrom .all place content =
      (Line.ofBytesFrom maxLineBytes place content).filterMap rowOfLine? := by
  simp [listingFrom, Filter.accepts_all]

theorem listingFrom_isSuffix
    (filter : Filter)
    {place further : Nat}
    (le : place ≤ further)
    (content : List UInt8) :
    listingFrom filter further content <:+ listingFrom filter place content := by
  apply List.IsSuffix.filter
  apply List.IsSuffix.filterMap
  exact Line.ofBytesFrom_isSuffix maxLineBytes le content

theorem exists_placed_of_mem_listingFrom
    {filter : Filter}
    {place : Nat}
    {content : List UInt8}
    {row : Row}
    (member : row ∈ listingFrom filter place content) :
    ∃ found ∈ Line.placed maxLineBytes 0 content,
      place ≤ found.start ∧ rowOfLine? found.line = some row := by
  rcases List.mem_filterMap.mp (List.mem_filter.mp member).1 with ⟨line, inside, made⟩
  rcases List.mem_map.mp inside with ⟨found, kept, rfl⟩
  rcases List.mem_filter.mp kept with ⟨placed, behind⟩
  exact ⟨found, placed, of_decide_eq_true behind, made⟩

section

variable
    {bytes more : Nat}
    {content : List UInt8}

theorem tailStart_of_inside
    {length : Nat}
    (positive : 0 < bytes)
    (inside : bytes < length) :
    tailStart bytes length = length - bytes + 1 :=
  if_pos ⟨positive, inside⟩

/-- A greater window begins earlier. -/
theorem tailStart_anti
    (positive : 0 < bytes)
    (le : bytes ≤ more)
    (length : Nat) :
    tailStart more length ≤ tailStart bytes length := by
  unfold tailStart
  split <;> split <;> omega

/--
A tail yields the rows of the lines that begin behind the first byte of its window, and those
of all lines if the window covers the content.
-/
theorem Yields.tail
    (config : Config)
    (filter : Filter)
    (bytes : Nat)
    (content : List UInt8) :
    Yields (.readTail config .fresh filter bytes content) []
      (tailListing filter bytes content) .eof := by
  rw [Pipeline.readTail, tailListing, tailStart]
  split
  case isTrue =>
    rw [listingFrom, ← Line.ofBytesAfterFirst_drop, ← LineBuffer.ahead_skipFirstLine]
    exact .readBounded config filter (LineBuffer.wellFormed_skipFirstLine maxLineBytes) _
  case isFalse =>
    rw [listingFrom_zero, listing, ← LineBuffer.ahead_withLimit]
    exact .readBounded config filter (LineBuffer.wellFormed_withLimit maxLineBytes) content

/--
The rows of a tail are the last ones of a tail with a greater window, and these are the last
ones of the whole file, whatever the configurations are.  Every row of a tail is made from a
whole line of the file, and if the window does not cover the file, the line begins behind its
first byte.
-/
theorem tails_nest
    (narrow wide whole : Config)
    (filter : Filter)
    (content : List UInt8)
    (positive : 0 < bytes)
    (le : bytes ≤ more) :
    Yields (.readTail narrow .fresh filter bytes content) []
        (tailListing filter bytes content) .eof ∧
      Yields (.readTail wide .fresh filter more content) []
        (tailListing filter more content) .eof ∧
      Yields (.readTail whole .fresh filter 0 content) [] (listing filter content) .eof ∧
      tailListing filter bytes content <:+ tailListing filter more content ∧
      tailListing filter more content <:+ listing filter content ∧
      ∀ row ∈ tailListing filter bytes content,
        ∃ found ∈ Line.placed maxLineBytes 0 content,
          (content.length ≤ bytes ∨ content.length < found.start + bytes) ∧
            rowOfLine? found.line = some row := by
  refine ⟨.tail narrow filter bytes content, .tail wide filter more content,
    .readTail whole filter content, ?nested, ?last, ?lines⟩
  case nested =>
    exact listingFrom_isSuffix filter (tailStart_anti positive le content.length) content
  case last =>
    rw [← listingFrom_zero]
    exact listingFrom_isSuffix filter (Nat.zero_le _) content
  case lines =>
    intro row member
    rcases exists_placed_of_mem_listingFrom member with ⟨found, placed, behind, made⟩
    refine ⟨found, placed, ?_, made⟩
    by_cases inside : bytes < content.length
    · rw [tailStart_of_inside positive inside] at behind
      omega
    · exact .inl (Nat.not_lt.mp inside)

/-- Of three lines, tails of the last five bytes and of more than there are. -/
theorem tails_nest_of_three :
    Yields (.readTail .default .fresh .all 5 [0x31, 0x0A, 0x7B, 0x7D, 0x0A, 0x7B, 0x7D]) []
        (tailListing .all 5 [0x31, 0x0A, 0x7B, 0x7D, 0x0A, 0x7B, 0x7D]) .eof ∧
      Yields (.readTail ⟨0, 1⟩ .fresh .all 9 [0x31, 0x0A, 0x7B, 0x7D, 0x0A, 0x7B, 0x7D]) []
        (tailListing .all 9 [0x31, 0x0A, 0x7B, 0x7D, 0x0A, 0x7B, 0x7D]) .eof ∧
      Yields (.readTail .default .fresh .all 0 [0x31, 0x0A, 0x7B, 0x7D, 0x0A, 0x7B, 0x7D]) []
        (listing .all [0x31, 0x0A, 0x7B, 0x7D, 0x0A, 0x7B, 0x7D]) .eof ∧
      tailListing .all 5 [0x31, 0x0A, 0x7B, 0x7D, 0x0A, 0x7B, 0x7D] <:+
        tailListing .all 9 [0x31, 0x0A, 0x7B, 0x7D, 0x0A, 0x7B, 0x7D] ∧
      tailListing .all 9 [0x31, 0x0A, 0x7B, 0x7D, 0x0A, 0x7B, 0x7D] <:+
        listing .all [0x31, 0x0A, 0x7B, 0x7D, 0x0A, 0x7B, 0x7D] ∧
      ∀ row ∈ tailListing .all 5 [0x31, 0x0A, 0x7B, 0x7D, 0x0A, 0x7B, 0x7D],
        ∃ found ∈ Line.placed maxLineBytes 0 [0x31, 0x0A, 0x7B, 0x7D, 0x0A, 0x7B, 0x7D],
          (7 ≤ 5 ∨ 7 < found.start + 5) ∧ rowOfLine? found.line = some row :=
  tails_nest .default ⟨0, 1⟩ .default .all [0x31, 0x0A, 0x7B, 0x7D, 0x0A, 0x7B, 0x7D]
    (by decide) (by decide)

/--
A tail yields the rows of all lines that begin behind the first byte of its window.  If the
window begins inside a line or at its newline, these are all lines that begin in the window.
-/
theorem tail_keeps_lines
    (config : Config)
    (positive : 0 < bytes)
    (inside : bytes < content.length) :
    Yields (.readTail config .fresh .all bytes content) []
        ((Line.ofBytesFrom maxLineBytes (content.length - bytes + 1) content).filterMap
          rowOfLine?)
        .eof ∧
      (content[content.length - bytes - 1]? ≠ some LineBuffer.newline →
        Yields (.readTail config .fresh .all bytes content) []
          ((Line.ofBytesFrom maxLineBytes (content.length - bytes) content).filterMap
            rowOfLine?)
          .eof) := by
  have behind := Yields.tail config .all bytes content
  rw [tailListing, tailStart_of_inside positive inside, listingFrom_all] at behind
  refine ⟨behind, ?_⟩
  intro continues
  obtain ⟨before, place⟩ : ∃ before, content.length - bytes = before + 1 :=
    ⟨content.length - bytes - 1, by omega⟩
  rw [place, Nat.add_sub_cancel] at continues
  rw [place, Line.ofBytesFrom_succ maxLineBytes continues] at behind
  rw [place]
  exact behind

/-- The newline of a line with two letters is the first byte of the window. -/
theorem tail_keeps_lines_of_newline :
    Yields (.readTail .default .fresh .all 4 [0x61, 0x62, 0x0A, 0x7B, 0x7D, 0x0A]) []
        ((Line.ofBytesFrom maxLineBytes 3 [0x61, 0x62, 0x0A, 0x7B, 0x7D, 0x0A]).filterMap
          rowOfLine?)
        .eof ∧
      Yields (.readTail .default .fresh .all 4 [0x61, 0x62, 0x0A, 0x7B, 0x7D, 0x0A]) []
        ((Line.ofBytesFrom maxLineBytes 2 [0x61, 0x62, 0x0A, 0x7B, 0x7D, 0x0A]).filterMap
          rowOfLine?)
        .eof := by
  have inside : 4 < [(0x61 : UInt8), 0x62, 0x0A, 0x7B, 0x7D, 0x0A].length := by decide
  rcases tail_keeps_lines .default (by decide) inside with ⟨behind, whole⟩
  exact ⟨behind, whole (by decide)⟩

/-- A line that begins with the window is skipped although the window does not cut it. -/
theorem tail_drops_line_at_offset :
    ⟨3, .complete [0x7B, 0x7D]⟩ ∈ Line.placed maxLineBytes 0 [0x7B, 0x7D, 0x0A, 0x7B, 0x7D] ∧
      [(0x7B : UInt8), 0x7D, 0x0A, 0x7B, 0x7D].length - 2 ≤ 3 ∧
      rowOfLine? (.complete [0x7B, 0x7D]) = some (.data .empty) ∧
      ∃ (history : History) (now : Pipeline),
        Pipeline.Run (.readTail .default .fresh .all 2 [0x7B, 0x7D, 0x0A, 0x7B, 0x7D])
            history now ∧
          history.outside = [] ∧ .finished ∈ history.answers ∧ .data .empty ∉ history.given := by
  refine ⟨by decide, by decide, rfl, ?_⟩
  have nothing : tailListing .all 2 [0x7B, 0x7D, 0x0A, 0x7B, 0x7D] = [] := rfl
  have yields := Yields.tail .default .all 2 [0x7B, 0x7D, 0x0A, 0x7B, 0x7D]
  rcases yields.exists_finish with ⟨history, now, run, obeys, told⟩
  have given := (yields.complete run obeys told).1
  rw [nothing] at given
  refine ⟨history, now, run, List.prefix_nil.mp obeys, told, ?_⟩
  rw [given]
  exact List.not_mem_nil

end

end LogRows.Stream
