import LogRows.Proofs.LineSplitting

/-!
# Where lines begin

A reader that starts inside a byte string and skips what it takes for the rest of a line
finds some of the lines of the whole.  Which of them it finds is said here by the offsets
of their first bytes: all that begin behind the byte at which it starts
(`ofBytesAfterFirst_drop`).

Offsets increase along the lines, so the lines that begin at an offset or behind it are the
last ones (`ofBytesFrom_isSuffix`).  All of them but the first begin directly behind a
newline, and reach up to the next one (`mem_placed_iff`).
-/

namespace LogRows

/-- The elements of a list that pass a test are its last ones if no test fails behind one that passes. -/
theorem filter_isSuffix
    {Element : Type}
    {test : Element → Bool}
    {elements : List Element}
    (stays : elements.Pairwise fun element later => test element = true → test later = true) :
    elements.filter test <:+ elements := by
  induction elements with
  | nil => exact List.suffix_rfl
  | cons element rest ih =>
      rcases List.pairwise_cons.mp stays with ⟨later, others⟩
      by_cases passes : test element = true
      · have all : (element :: rest).filter test = element :: rest := by
          rw [List.filter_eq_self, List.forall_mem_cons]
          exact ⟨passes, fun other member => later other member passes⟩
        exact ⟨[], all⟩
      · rw [List.filter_cons_of_neg passes]
        exact (ih others).trans (List.suffix_cons element rest)

namespace Line

/-- A line with the offset of its first byte. -/
structure Placed where
  start : Nat
  line : Line
deriving DecidableEq

/-- The lines of the pieces between newlines, the first of which begins at an offset. -/
def placedPieces (limit offset : Nat) : List (List UInt8) → List Placed
  | [] => []
  | [last] => if last.isEmpty then [] else [⟨offset, ofPiece limit last⟩]
  | piece :: next :: rest =>
      ⟨offset, ofPiece limit piece⟩ ::
        placedPieces limit (offset + piece.length + 1) (next :: rest)

/-- The lines of a byte string that stands at an offset. -/
def placed (limit offset : Nat) (bytes : List UInt8) : List Placed :=
  placedPieces limit offset (bytes.splitOn LineBuffer.newline)

/-- Whether a line may begin behind some bytes. -/
def EndsLine (before : List UInt8) : Prop :=
  before = [] ∨ ∃ front, before = front ++ [LineBuffer.newline]

/-- The lines of a byte string that begin at an offset or behind it. -/
def ofBytesFrom (limit place : Nat) (bytes : List UInt8) : List Line :=
  ((placed limit 0 bytes).filter (place ≤ ·.start)).map Placed.line

section

variable
    {limit offset place further : Nat}
    {bytes segment : List UInt8}

@[simp]
theorem placed_nil (limit offset : Nat) :
    placed limit offset [] = [] := by
  simp [placed, placedPieces]

theorem placed_unended
    (limit offset : Nat)
    (nonempty : segment ≠ [])
    (outside : LineBuffer.newline ∉ segment) :
    placed limit offset segment = [⟨offset, ofPiece limit segment⟩] := by
  simp [placed, List.splitOn_eq_singleton outside, placedPieces, nonempty]

theorem placed_ended
    (limit offset : Nat)
    (outside : LineBuffer.newline ∉ segment)
    (rest : List UInt8) :
    placed limit offset (segment ++ LineBuffer.newline :: rest) =
      ⟨offset, ofPiece limit segment⟩ :: placed limit (offset + segment.length + 1) rest := by
  rw [placed, placed, List.splitOn_append_cons_self_of_not_mem outside]
  cases pieces : rest.splitOn LineBuffer.newline with
  | nil => exact absurd pieces (List.splitOn_ne_nil _ _)
  | cons next others => rfl

theorem map_line_placedPieces
    (limit offset : Nat)
    (pieces : List (List UInt8)) :
    (placedPieces limit offset pieces).map Placed.line = ofPieces limit pieces := by
  induction pieces generalizing offset with
  | nil => rfl
  | cons piece rest ih =>
      cases rest with
      | nil =>
          rw [placedPieces, ofPieces]
          split <;> rfl
      | cons next rest => rw [placedPieces, ofPieces, List.map_cons, ih]

/-- Without their offsets they are the lines of the bytes. -/
theorem map_line_placed (limit offset : Nat) (bytes : List UInt8) :
    (placed limit offset bytes).map Placed.line = ofBytes limit bytes :=
  map_line_placedPieces limit offset _

theorem EndsLine.append
    {before : List UInt8}
    (ends : EndsLine before)
    (segment : List UInt8) :
    EndsLine (segment ++ LineBuffer.newline :: before) := by
  right
  rcases ends with rfl | ⟨front, rfl⟩
  · exact ⟨segment, rfl⟩
  · exact ⟨segment ++ LineBuffer.newline :: front, by simp⟩

theorem EndsLine.of_append
    {before : List UInt8}
    (ends : EndsLine (segment ++ LineBuffer.newline :: before)) :
    EndsLine before := by
  rcases before.eq_nil_or_concat with empty | ⟨front, last, rfl⟩
  · exact .inl empty
  · rcases ends with impossible | ⟨other, same⟩
    · cases (List.append_eq_nil_iff.mp impossible).2
    · rw [List.concat_eq_append, ← List.cons_append, ← List.append_assoc] at same
      rw [List.concat_eq_append, List.singleton_inj.mp (List.append_inj' same rfl).2]
      exact .inr ⟨front, rfl⟩

/-- The lines behind the end of one are those of the bytes that stand there. -/
theorem placed_append
    (limit offset : Nat)
    {before : List UInt8}
    (ends : EndsLine before)
    (rest : List UInt8) :
    placed limit offset (before ++ rest) =
      placed limit offset before ++ placed limit (offset + before.length) rest := by
  induction before using LineBuffer.bySegments generalizing offset with
  | empty => rw [placed_nil, List.nil_append, List.nil_append, List.length_nil, Nat.add_zero]
  | unended segment nonempty outside =>
      rcases ends with empty | ⟨front, rfl⟩
      · exact absurd empty nonempty
      · exact absurd (List.mem_append_right front List.mem_cons_self) outside
  | ended segment before outside ih =>
      have place :
          offset + (segment ++ LineBuffer.newline :: before).length =
            offset + segment.length + 1 + before.length := by
        simp only [List.length_append, List.length_cons]
        omega
      rw [List.append_assoc, List.cons_append, placed_ended limit offset outside,
        placed_ended limit offset outside, ih _ ends.of_append, place, List.cons_append]

/--
A line begins with the bytes or behind a newline, and reaches up to the next newline or to
the end of the bytes, where no empty line stands.
-/
theorem mem_placed_iff
    {found : Placed} :
    found ∈ placed limit offset bytes ↔
      ∃ before content after,
        bytes = before ++ (content ++ after) ∧
          EndsLine before ∧
          LineBuffer.newline ∉ content ∧
          (after = [] ∧ content ≠ [] ∨ ∃ rest, after = LineBuffer.newline :: rest) ∧
          found = ⟨offset + before.length, ofPiece limit content⟩ := by
  constructor
  · intro member
    induction bytes using LineBuffer.bySegments generalizing offset with
    | empty =>
        rw [placed_nil] at member
        cases member
    | unended segment nonempty outside =>
        rw [placed_unended limit offset nonempty outside, List.mem_singleton] at member
        exact ⟨[], segment, [], by simp, .inl rfl, outside, .inl ⟨rfl, nonempty⟩, member⟩
    | ended segment rest outside ih =>
        rw [placed_ended limit offset outside, List.mem_cons] at member
        rcases member with first | later
        · exact ⟨[], segment, LineBuffer.newline :: rest, rfl, .inl rfl, outside,
            .inr ⟨rest, rfl⟩, first⟩
        · rcases ih later with ⟨before, content, after, rfl, ends, clear, stops, same⟩
          refine ⟨segment ++ LineBuffer.newline :: before, content, after, by simp,
            ends.append segment, clear, stops, ?_⟩
          rw [same, List.length_append, List.length_cons]
          congr 1
          omega
  · rintro ⟨before, content, after, rfl, ends, clear, stops, rfl⟩
    rw [placed_append limit offset ends]
    apply List.mem_append_right
    rcases stops with ⟨rfl, nonempty⟩ | ⟨rest, rfl⟩
    · rw [List.append_nil, placed_unended limit _ nonempty clear]
      exact List.mem_cons_self
    · rw [placed_ended limit _ clear]
      exact List.mem_cons_self

theorem le_start_of_mem_placed
    {found : Placed}
    (member : found ∈ placed limit offset bytes) :
    offset ≤ found.start := by
  rcases mem_placed_iff.mp member with ⟨before, _, _, _, _, _, _, rfl⟩
  exact Nat.le_add_right offset before.length

/-- Lines begin one behind the other. -/
theorem placed_pairwise_lt (limit offset : Nat) (bytes : List UInt8) :
    (placed limit offset bytes).Pairwise (·.start < ·.start) := by
  induction bytes using LineBuffer.bySegments generalizing offset with
  | empty =>
      rw [placed_nil]
      exact .nil
  | unended segment nonempty outside =>
      rw [placed_unended limit offset nonempty outside]
      exact List.pairwise_singleton _ _
  | ended segment rest outside ih =>
      rw [placed_ended limit offset outside, List.pairwise_cons]
      refine ⟨?_, ih (offset + segment.length + 1)⟩
      intro later member
      have behind := le_start_of_mem_placed member
      show offset < later.start
      omega

/-- No line begins before the bytes do. -/
theorem filter_placed_of_le
    (limit : Nat)
    (le : place ≤ offset)
    (bytes : List UInt8) :
    (placed limit offset bytes).filter (place ≤ ·.start) = placed limit offset bytes := by
  rw [List.filter_eq_self]
  intro found member
  exact decide_eq_true (Nat.le_trans le (le_start_of_mem_placed member))

theorem filter_placed_cons_of_lt
    (early : offset < place)
    (line : Line)
    (others : List Placed) :
    (⟨offset, line⟩ :: others).filter (place ≤ ·.start) = others.filter (place ≤ ·.start) :=
  List.filter_cons_of_neg (by simpa using early)

/-- A line begins with the bytes or directly behind one of their newlines. -/
theorem start_of_mem_placed
    {found : Placed}
    (member : found ∈ placed limit offset bytes) :
    found.start = offset ∨
      ∃ before,
        bytes[before]? = some LineBuffer.newline ∧ found.start = offset + before + 1 := by
  rcases mem_placed_iff.mp member with ⟨before, content, after, rfl, ends, _, _, rfl⟩
  rcases ends with rfl | ⟨front, rfl⟩
  · exact .inl rfl
  · right
    refine ⟨front.length, by simp, ?_⟩
    rw [List.length_append, List.length_singleton, Nat.add_assoc]

/-- What is found behind a place in bytes that stand at any offset. -/
theorem ofBytesAfterFirst_drop_eq_filter
    (limit offset place : Nat)
    (bytes : List UInt8) :
    ofBytesAfterFirst limit (bytes.drop place) =
      ((placed limit offset bytes).filter (offset + place + 1 ≤ ·.start)).map Placed.line := by
  induction bytes using LineBuffer.bySegments generalizing offset place with
  | empty => simp [ofBytesAfterFirst, ofPieces]
  | unended segment nonempty outside =>
      have clear : LineBuffer.newline ∉ segment.drop place :=
        fun member => outside (List.mem_of_mem_drop member)
      rw [placed_unended limit offset nonempty outside, filter_placed_cons_of_lt (by omega),
        ofBytesAfterFirst, List.splitOn_eq_singleton clear]
      rfl
  | ended segment rest outside ih =>
      rw [placed_ended limit offset outside, filter_placed_cons_of_lt (by omega)]
      by_cases within : place ≤ segment.length
      · -- The place is in the first line, so all the others begin behind it.
        have clear : LineBuffer.newline ∉ segment.drop place :=
          fun member => outside (List.mem_of_mem_drop member)
        rw [filter_placed_of_le limit (by omega), map_line_placed,
          List.drop_append_of_le_length within, ofBytesAfterFirst,
          List.splitOn_append_cons_self_of_not_mem clear]
        rfl
      · obtain ⟨more, rfl⟩ : ∃ more, place = segment.length + 1 + more :=
          ⟨place - (segment.length + 1), by omega⟩
        have dropped :
            (segment ++ LineBuffer.newline :: rest).drop (segment.length + 1 + more) =
              rest.drop more := by
          simp [List.drop_append, Nat.add_assoc, Nat.add_comm 1 more]
        have shifted :
            offset + (segment.length + 1 + more) + 1 =
              offset + segment.length + 1 + more + 1 := by
          omega
        rw [dropped, shifted]
        exact ih _ _

/-- A reader that starts somewhere and skips a line finds all lines that begin behind its start. -/
theorem ofBytesAfterFirst_drop (limit place : Nat) (bytes : List UInt8) :
    ofBytesAfterFirst limit (bytes.drop place) = ofBytesFrom limit (place + 1) bytes := by
  rw [ofBytesAfterFirst_drop_eq_filter limit 0, Nat.zero_add]
  rfl

@[simp]
theorem ofBytesFrom_zero (limit : Nat) (bytes : List UInt8) :
    ofBytesFrom limit 0 bytes = ofBytes limit bytes := by
  rw [ofBytesFrom, filter_placed_of_le limit (Nat.le_refl 0), map_line_placed]

/-- The lines from a later offset on are the last of those from an earlier one on. -/
theorem ofBytesFrom_isSuffix
    (limit : Nat)
    (le : place ≤ further)
    (bytes : List UInt8) :
    ofBytesFrom limit further bytes <:+ ofBytesFrom limit place bytes := by
  have narrowed :
      (placed limit 0 bytes).filter (further ≤ ·.start) =
        ((placed limit 0 bytes).filter (place ≤ ·.start)).filter (further ≤ ·.start) := by
    rw [List.filter_filter]
    apply List.filter_congr
    intro found _
    rw [← Bool.decide_and, decide_eq_decide]
    omega
  rw [ofBytesFrom, ofBytesFrom, narrowed]
  apply List.IsSuffix.map
  apply filter_isSuffix
  apply ((placed_pairwise_lt limit 0 bytes).filter _).imp
  intro earlier later before
  simp only [decide_eq_true_eq]
  omega

/-- No line begins at an offset unless the byte before it ends one. -/
theorem ofBytesFrom_succ
    (limit : Nat)
    (continues : bytes[place]? ≠ some LineBuffer.newline) :
    ofBytesFrom limit (place + 2) bytes = ofBytesFrom limit (place + 1) bytes := by
  have same :
      (placed limit 0 bytes).filter (place + 2 ≤ ·.start) =
        (placed limit 0 bytes).filter (place + 1 ≤ ·.start) := by
    apply List.filter_congr
    intro found member
    have apart : found.start ≠ place + 1 := by
      intro equal
      rcases start_of_mem_placed member with first | ⟨before, ends, behind⟩
      · omega
      · obtain rfl : before = place := by omega
        exact continues ends
    rw [decide_eq_decide]
    omega
  rw [ofBytesFrom, ofBytesFrom, same]

end

end Line

end LogRows
