import LogRows.Text.Alphanumeric
import LogRows.Text.Blank
import LogRows.Text.Lowercase

/-!
# How far lower case looks

The lower-case form of a character depends on its neighbours only for a capital
sigma, which looks for a cased character on both sides and skips those that do not
count.  A *wall* is neither cased nor skipped, so no sigma looks past it, and the two
sides of a wall have lower-case forms of their own (`lowercaseAfter_append_wall`).
Blanks and brackets are walls that stay as they are.
-/

namespace LogRows.Text

/-! ## Tables -/

/-- The characters of some ranges, one by one. -/
def CodeRanges.members (ranges : CodeRanges) : List Char :=
  ranges.flatMap fun range =>
    (List.range' range.1 (range.2 + 1 - range.1)).map Char.ofNat

/-- Whether no range of one table meets a range of another. -/
def CodeRanges.disjoint (ranges others : CodeRanges) : Bool :=
  ranges.all fun range => others.all fun other =>
    Nat.blt other.2 range.1 || Nat.blt range.2 other.1

theorem CodeRanges.mem_members
    {ranges : CodeRanges}
    {character : Char}
    (holds : ranges.holds character = true) :
    character ∈ ranges.members := by
  rcases (ranges.holds_iff character).mp holds with ⟨range, member, first, last⟩
  refine List.mem_flatMap.mpr ⟨range, member, ?_⟩
  refine List.mem_map.mpr ⟨character.toNat, ?_, Char.ofNat_toNat character⟩
  rw [List.mem_range'_1]
  omega

theorem CodeRanges.not_holds_of_disjoint
    {ranges others : CodeRanges}
    {character : Char}
    (disjoint : ranges.disjoint others = true)
    (holds : ranges.holds character = true) :
    others.holds character = false := by
  rcases (ranges.holds_iff character).mp holds with ⟨range, member, first, last⟩
  cases meets : others.holds character with
  | false => rfl
  | true =>
      rcases (others.holds_iff character).mp meets with ⟨other, listed, start, stop⟩
      have apart := List.all_eq_true.mp (List.all_eq_true.mp disjoint range member) other listed
      simp only [Bool.or_eq_true, Nat.blt_eq] at apart
      omega

/-- The first and last capitals of the runs beyond ASCII. -/
def capitalRanges : CodeRanges :=
  capitalRuns.map fun run => (run.first, run.last)

/-- A character beyond ASCII that is in no run of capitals stays as it is. -/
theorem lowercaseChar_eq_self
    {character : Char}
    (ascii : character.toNat < 0x80 → character.toLower = character)
    (other : character ≠ 'İ')
    (small : capitalRanges.holds character = false) :
    lowercaseChar character = [character] := by
  have unlisted : capitalRuns.find? (·.holds character.toNat) = none := by
    rw [List.find?_eq_none]
    intro run listed inside
    simp only [CapitalRun.holds, Bool.and_eq_true, decide_eq_true_eq] at inside
    have holds : capitalRanges.holds character = true := by
      rw [CodeRanges.holds_iff]
      exact ⟨_, List.mem_map_of_mem listed, inside.1⟩
    cases small.symm.trans holds
  unfold lowercaseChar
  split
  case isTrue low => rw [ascii low]
  case isFalse => simp only [unlisted]

/-! ## Walls -/

/-- Whether a character is neither cased nor skipped by a sigma that looks for a cased one. -/
def isWall (character : Char) : Bool :=
  !casedRanges.holds character && !caseIgnorableRanges.holds character

section Walls

variable
    {wall : Char}
    (isWall : isWall wall = true)

include isWall

theorem uncased_of_isWall : casedRanges.holds wall = false := by
  simp only [Text.isWall, Bool.and_eq_true, Bool.not_eq_true'] at isWall
  exact isWall.1

theorem meetsCased_append_wall (characters rest : List Char) :
    meetsCased (characters ++ wall :: rest) = meetsCased characters := by
  have uncased := uncased_of_isWall isWall
  have kept : caseIgnorableRanges.holds wall = false := by
    simp only [Text.isWall, Bool.and_eq_true, Bool.not_eq_true'] at isWall
    exact isWall.2
  induction characters with
  | nil => simp [meetsCased, kept, uncased]
  | cons character characters ih =>
      cases skipped : caseIgnorableRanges.holds character with
      | true =>
          simp only [meetsCased, List.cons_append, List.dropWhile_cons, skipped, if_true] at ih ⊢
          exact ih
      | false => simp [meetsCased, skipped]

/-- What comes before a wall has no influence on what comes behind. -/
theorem lowercaseAfter_wall_append (near far text : List Char) :
    lowercaseAfter (near ++ wall :: far) text = lowercaseAfter near text := by
  induction text generalizing near with
  | nil => rfl
  | cons character text ih =>
      simp only [lowercaseAfter, meetsCased_append_wall isWall]
      rw [← List.cons_append, ih]

/-- What is on one side of a wall has no influence on what is on the other. -/
theorem lowercaseAfter_append_wall (before text rest : List Char) :
    lowercaseAfter before (text ++ wall :: rest) =
      lowercaseAfter before text ++ lowercaseChar wall ++ lowercaseAfter [] rest := by
  induction text generalizing before with
  | nil =>
      have other : wall ≠ 'Σ' := by
        rintro rfl
        exact absurd (uncased_of_isWall isWall) (by decide)
      have beyond := lowercaseAfter_wall_append isWall [] before rest
      simp only [List.nil_append] at beyond ⊢
      simp only [lowercaseAfter, other, if_false, List.nil_append, beyond]
  | cons character text ih =>
      simp only [lowercaseAfter, List.cons_append, meetsCased_append_wall isWall, ih,
        List.append_assoc]

end Walls

/-! ## Blanks -/

/-- The ASCII part of what is said below of all blanks. -/
theorem ascii_of_isBlank
    {character : Char}
    (blank : isBlank character = true)
    (ascii : character.toNat < 0x80) :
    character.toLower = character ∧ character.isAlphanum = false := by
  have all :
      (blankRanges.members.all fun character =>
        !decide (character.toNat < 0x80) ||
          (character.toLower == character && !character.isAlphanum)) = true := by
    decide +kernel
  have here := List.all_eq_true.mp all character (CodeRanges.mem_members blank)
  simpa [ascii] using here

theorem isWall_of_isBlank
    {character : Char}
    (blank : isBlank character = true) :
    isWall character = true := by
  have uncased : casedRanges.holds character = false :=
    CodeRanges.not_holds_of_disjoint (by decide +kernel) blank
  have kept : caseIgnorableRanges.holds character = false :=
    CodeRanges.not_holds_of_disjoint (by decide +kernel) blank
  simp only [isWall, uncased, kept]
  rfl

theorem lowercaseChar_of_isBlank
    {character : Char}
    (blank : isBlank character = true) :
    lowercaseChar character = [character] := by
  apply lowercaseChar_eq_self
  · exact fun ascii => (ascii_of_isBlank blank ascii).1
  · rintro rfl
    cases blank
  · exact CodeRanges.not_holds_of_disjoint (by decide +kernel) blank

theorem isAlphanumeric_of_isBlank
    {character : Char}
    (blank : isBlank character = true) :
    isAlphanumeric character = false := by
  unfold isAlphanumeric
  split
  case isTrue ascii => exact (ascii_of_isBlank blank ascii).2
  case isFalse => exact CodeRanges.not_holds_of_disjoint (by decide +kernel) blank

section Blanks

variable
    {blanks : List Char}
    (blank : ∀ character ∈ blanks, isBlank character = true)

include blank

theorem lowercaseAfter_blanks_append (text : List Char) :
    lowercaseAfter [] (blanks ++ text) = blanks ++ lowercaseAfter [] text := by
  induction blanks with
  | nil => rfl
  | cons character blanks ih =>
      have first := blank character List.mem_cons_self
      have wall := isWall_of_isBlank first
      have same := lowercaseChar_of_isBlank first
      have split := lowercaseAfter_append_wall wall [] [] (blanks ++ text)
      rw [List.nil_append] at split
      rw [List.cons_append, split, same,
        ih fun other member => blank other (List.mem_cons_of_mem _ member)]
      rfl

theorem lowercaseAfter_append_blanks (text : List Char) :
    lowercaseAfter [] (text ++ blanks) = lowercaseAfter [] text ++ blanks := by
  cases blanks with
  | nil => rw [List.append_nil, List.append_nil]
  | cons character blanks =>
      have first := blank character List.mem_cons_self
      have wall := isWall_of_isBlank first
      have same := lowercaseChar_of_isBlank first
      have rest := lowercaseAfter_blanks_append
        (fun other member => blank other (List.mem_cons_of_mem character member)) []
      rw [List.append_nil] at rest
      rw [lowercaseAfter_append_wall wall, same, rest]
      simp [lowercaseAfter]

end Blanks

/-- A word between spaces keeps what is before it apart from what is behind it. -/
theorem lowercaseAfter_spaced
    {word : List Char}
    (small : lowercaseAfter [] word = word)
    (text rest : List Char) :
    lowercaseAfter [] (text ++ ' ' :: (word ++ ' ' :: rest)) =
      lowercaseAfter [] text ++ ' ' :: (word ++ ' ' :: lowercaseAfter [] rest) := by
  have blank : isBlank ' ' = true := rfl
  have wall := isWall_of_isBlank blank
  have same := lowercaseChar_of_isBlank blank
  rw [lowercaseAfter_append_wall wall, lowercaseAfter_append_wall wall, same, small]
  simp

/-! ## Brackets -/

theorem lowercaseAfter_brackets (text : List Char) :
    lowercaseAfter [] ('(' :: (text ++ [')'])) = '(' :: (lowercaseAfter [] text ++ [')']) := by
  have opening : isWall '(' = true := by decide +kernel
  have closing : isWall ')' = true := by decide +kernel
  have whole := lowercaseAfter_append_wall opening [] [] (text ++ [')'])
  rw [lowercaseAfter_append_wall closing [] text []] at whole
  exact whole.trans (by simp [lowercaseAfter, lowercaseChar])

/-! ## Trimming -/

/-- What is trimmed away is blank. -/
theorem exists_eq_append_trim_append (text : List Char) :
    ∃ front back,
      text = front ++ trim text ++ back ∧
        (∀ character ∈ front, isBlank character = true) ∧
        ∀ character ∈ back, isBlank character = true := by
  let kept := (text.dropWhile isBlank).reverse
  refine ⟨text.takeWhile isBlank, (kept.takeWhile isBlank).reverse, ?_, ?_, ?_⟩
  · have back : trim text ++ (kept.takeWhile isBlank).reverse = text.dropWhile isBlank := by
      rw [trim, ← List.reverse_append, List.takeWhile_append_dropWhile, List.reverse_reverse]
    rw [List.append_assoc, back, List.takeWhile_append_dropWhile]
  · exact List.all_eq_true.mp List.all_takeWhile
  · intro character member
    exact List.all_eq_true.mp List.all_takeWhile character (List.mem_reverse.mp member)

/-- A text that neither begins nor ends with a blank is not trimmed. -/
theorem trim_of_ends
    {text : List Char}
    (begins : ∀ first ∈ text.head?, isBlank first = false)
    (ends : ∀ last ∈ text.getLast?, isBlank last = false) :
    trim text = text := by
  have front : text.dropWhile isBlank = text := by
    cases text with
    | nil => rfl
    | cons first rest => simp [begins first rfl]
  have back : text.reverse.dropWhile isBlank = text.reverse := by
    rw [← List.head?_reverse] at ends
    cases backwards : text.reverse with
    | nil => rfl
    | cons last rest =>
        rw [backwards] at ends
        simp [ends last rfl]
  rw [trim, front, back, List.reverse_reverse]

/-- The lower-case form of a text is that of the trimmed text between the same blanks. -/
theorem exists_lowercaseAfter_eq (text : List Char) :
    ∃ front back,
      lowercaseAfter [] text = front ++ lowercaseAfter [] (trim text) ++ back ∧
        (∀ character ∈ front, isBlank character = true) ∧
        ∀ character ∈ back, isBlank character = true := by
  rcases exists_eq_append_trim_append text with ⟨front, back, whole, before, behind⟩
  refine ⟨front, back, ?_, before, behind⟩
  calc
    lowercaseAfter [] text = lowercaseAfter [] (front ++ (trim text ++ back)) := by
      rw [← List.append_assoc, ← whole]
    _ = front ++ (lowercaseAfter [] (trim text) ++ back) := by
      rw [lowercaseAfter_blanks_append before, lowercaseAfter_append_blanks behind]
    _ = front ++ lowercaseAfter [] (trim text) ++ back := (List.append_assoc _ _ _).symm

end LogRows.Text
