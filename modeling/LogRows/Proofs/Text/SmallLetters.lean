import LogRows.Proofs.Text.Lowercase

/-!
# What lower case makes of characters

The lower-case form of a text is put together from the forms of its characters
(`lowercaseForms`).  A form is the character itself or one small letter, `İ` alone has a
form of two characters (`lowercaseForm_cases`).  The small letters are read off the table of
capitals, so whatever is no small letter stands in a lower-case form exactly where it
stands in the text: quotes, stars and bars come from nowhere else.

A quote is no wall, but a sigma skips it.  Two quotes around a text therefore leave the
lower-case form of the text as it is (`lowercaseAfter_quotes`).
-/

namespace LogRows.Text

/-! ## Forms of single characters -/

/-- The lower-case form of a character between what precedes it, nearest first, and the rest. -/
def lowercaseForm (before : List Char) (character : Char) (rest : List Char) : List Char :=
  if character = 'Σ' then
    if meetsCased before && !meetsCased rest then ['ς'] else ['σ']
  else
    lowercaseChar character

/-- The lower-case forms of the characters of a text, one by one. -/
def lowercaseForms (before : List Char) : List Char → List (List Char)
  | [] => []
  | character :: rest =>
      lowercaseForm before character rest :: lowercaseForms (character :: before) rest

theorem lowercaseAfter_cons (before : List Char) (character : Char) (rest : List Char) :
    lowercaseAfter before (character :: rest) =
      lowercaseForm before character rest ++ lowercaseAfter (character :: before) rest :=
  rfl

@[simp]
theorem flatten_lowercaseForms (before text : List Char) :
    (lowercaseForms before text).flatten = lowercaseAfter before text := by
  induction text generalizing before with
  | nil => rfl
  | cons character rest ih => rw [lowercaseForms, List.flatten_cons, ih, lowercaseAfter_cons]

@[simp]
theorem length_lowercaseForms (before text : List Char) :
    (lowercaseForms before text).length = text.length := by
  induction text generalizing before with
  | nil => rfl
  | cons character rest ih => rw [lowercaseForms, List.length_cons, ih, List.length_cons]

/-! ## Small letters -/

/-- The first and last small letters of the runs of capitals beyond ASCII. -/
def smallRanges : CodeRanges :=
  capitalRuns.map fun run =>
    ((run.first + run.distance).toNat, (run.last + run.distance).toNat)

/-- Whether a character is a small letter of ASCII, a final sigma, or between other small letters. -/
def isSmall (character : Char) : Bool :=
  character.isLower || character == 'ς' || smallRanges.holds character

/--
Whether each range of the other table lies in one range of the first.  The search goes on
among the ranges `ahead`, from the one that was found last; only for a range that begins
before them it begins anew.
-/
def CodeRanges.coversFrom (ranges : CodeRanges) : (ahead others : CodeRanges) → Bool
  | _, [] => true
  | ahead, other :: others =>
      let near := ahead.head?.any fun range => Nat.ble range.1 other.1
      match (if near then ahead else ranges).dropWhile fun range => !Nat.ble other.2 range.2 with
      | [] => false
      | range :: later =>
          Nat.ble range.1 other.1 && ranges.coversFrom (range :: later) others

theorem CodeRanges.exists_range_of_coversFrom
    {ranges ahead others : CodeRanges}
    {other : Nat × Nat}
    (among : ∀ range ∈ ahead, range ∈ ranges)
    (covers : ranges.coversFrom ahead others = true)
    (listed : other ∈ others) :
    ∃ range ∈ ranges, range.1 ≤ other.1 ∧ other.2 ≤ range.2 := by
  induction others generalizing ahead with
  | nil => cases listed
  | cons first others ih =>
      simp only [CodeRanges.coversFrom] at covers
      split at covers
      case h_1 => cases covers
      case h_2 range later found =>
        simp only [Bool.and_eq_true, Nat.ble_eq] at covers
        have reaches : first.2 ≤ range.2 := by
          have stops := List.head?_dropWhile_not (fun range => !Nat.ble first.2 range.2)
            (if ahead.head?.any (fun range => Nat.ble range.1 first.1) then ahead else ranges)
          rw [found] at stops
          simpa using stops
        have behind : ∀ next ∈ range :: later, next ∈ ranges := by
          intro next member
          have member := (List.dropWhile_sublist _).mem (found ▸ member)
          split at member
          · exact among _ member
          · exact member
        rcases List.mem_cons.mp listed with rfl | listed
        · exact ⟨range, behind _ List.mem_cons_self, covers.1, reaches⟩
        · exact ih behind covers.2 listed

/-- Whether each range of the other table lies in one range of the first. -/
def CodeRanges.covers (ranges others : CodeRanges) : Bool :=
  ranges.coversFrom ranges others

theorem CodeRanges.holds_of_covers
    {ranges others : CodeRanges}
    {character : Char}
    (covers : ranges.covers others = true)
    (holds : others.holds character = true) :
    ranges.holds character = true := by
  rcases (others.holds_iff character).mp holds with ⟨other, listed, first, last⟩
  rcases exists_range_of_coversFrom (fun _ member => member) covers listed with
    ⟨range, member, before, behind⟩
  exact (ranges.holds_iff character).mpr ⟨range, member, by omega, by omega⟩

theorem toNat_ofNat_of_isValidChar
    {code : Nat}
    (valid : code.isValidChar) :
    (Char.ofNat code).toNat = code := by
  rw [Char.ofNat, dif_pos valid]
  rfl

/-- The small letters of a run of capitals are characters. -/
theorem isValidChar_of_mem_smallRanges
    {range : Nat × Nat}
    (member : range ∈ smallRanges)
    {code : Nat}
    (first : range.1 ≤ code)
    (last : code ≤ range.2) :
    code.isValidChar := by
  have all :
      (smallRanges.all fun range =>
        Nat.blt range.2 0xD800 || (Nat.blt 0xDFFF range.1 && Nat.blt range.2 0x110000)) =
          true := by
    decide +kernel
  have here := List.all_eq_true.mp all range member
  simp only [Bool.or_eq_true, Bool.and_eq_true, Nat.blt_eq] at here
  unfold Nat.isValidChar
  omega

/-- The small letter of a capital of a run. -/
theorem smallRanges_holds_of_run
    {run : CapitalRun}
    (listed : run ∈ capitalRuns)
    {code : Nat}
    (holds : run.holds code = true) :
    smallRanges.holds (Char.ofNat (code + run.distance).toNat) = true := by
  simp only [CapitalRun.holds, Bool.and_eq_true, decide_eq_true_eq] at holds
  have member :
      ((run.first + run.distance).toNat, (run.last + run.distance).toNat) ∈ smallRanges :=
    List.mem_map_of_mem listed
  have first : (run.first + run.distance).toNat ≤ (code + run.distance).toNat := by omega
  have last : (code + run.distance).toNat ≤ (run.last + run.distance).toNat := by omega
  have valid := isValidChar_of_mem_smallRanges member first last
  refine (smallRanges.holds_iff _).mpr ⟨_, member, ?_⟩
  rw [toNat_ofNat_of_isValidChar valid]
  exact ⟨first, last⟩

theorem toLower_eq_or_isLower
    {character : Char}
    (ascii : character.toNat < 0x80) :
    character.toLower = character ∨ character.toLower.isLower = true := by
  have all :
      ((CodeRanges.members [(0x0, 0x7F)]).all fun character =>
        character.toLower == character || character.toLower.isLower) = true := by
    decide +kernel
  have holds : CodeRanges.holds [(0x0, 0x7F)] character = true := by
    simp [CodeRanges.holds]
    omega
  have here := List.all_eq_true.mp all character (CodeRanges.mem_members holds)
  simpa using here

theorem isAlphanumeric_of_isLower
    {character : Char}
    (lower : character.isLower = true) :
    isAlphanumeric character = true := by
  apply isAlphanumeric_of_isAlphanum
  delta Char.isAlphanum Char.isAlpha
  simp [lower]

theorem isAlphanumeric_of_holds
    {character : Char}
    (holds : alphanumericRanges.holds character = true) :
    isAlphanumeric character = true := by
  have beyond : CodeRanges.holds [(0x0, 0x7F)] character = false :=
    CodeRanges.not_holds_of_disjoint (by decide +kernel) holds
  have unascii : ¬ character.toNat < 0x80 := by
    simp [CodeRanges.holds] at beyond
    omega
  rw [isAlphanumeric, if_neg unascii, holds]

/-- Small letters are letters. -/
theorem isAlphanumeric_of_isSmall
    {character : Char}
    (small : isSmall character = true) :
    isAlphanumeric character = true := by
  simp only [isSmall, Bool.or_eq_true, beq_iff_eq] at small
  rcases small with (lower | rfl) | listed
  · exact isAlphanumeric_of_isLower lower
  · rfl
  · have covers : CodeRanges.covers ((0x61, 0x7A) :: alphanumericRanges) smallRanges = true := by
      decide +kernel
    have holds := CodeRanges.holds_of_covers covers listed
    rw [CodeRanges.holds, List.any_cons, Bool.or_eq_true] at holds
    rcases holds with ascii | beyond
    · apply isAlphanumeric_of_isLower
      simp only [Bool.and_eq_true, decide_eq_true_eq] at ascii
      delta Char.isLower
      simp only [Bool.and_eq_true, decide_eq_true_eq, ge_iff_le, UInt32.le_iff_toNat_le]
      exact ascii
    · exact isAlphanumeric_of_holds beyond

/-- A character is mapped to itself or to one small letter, except for `İ`. -/
theorem lowercaseForm_cases (before : List Char) (character : Char) (rest : List Char) :
    lowercaseForm before character rest = [character] ∨
      (character = 'İ' ∧ lowercaseForm before character rest = ['i', '\u0307']) ∨
      ∃ small, isSmall small = true ∧ lowercaseForm before character rest = [small] := by
  unfold lowercaseForm
  split
  case isTrue =>
    refine .inr (.inr ?_)
    split
    · exact ⟨'ς', by simp [isSmall], rfl⟩
    · exact ⟨'σ', rfl, rfl⟩
  case isFalse =>
    unfold lowercaseChar
    split
    case isTrue ascii =>
      rcases toLower_eq_or_isLower ascii with same | lower
      · exact .inl (by rw [same])
      · refine .inr (.inr ⟨_, ?_, rfl⟩)
        simp [isSmall, lower]
    case isFalse =>
      split
      case isTrue dotted => exact .inr (.inl ⟨dotted, rfl⟩)
      case isFalse =>
        split
        case h_1 run found =>
          refine .inr (.inr ⟨_, ?_, rfl⟩)
          have inside : run.holds character.toNat = true := by
            simpa using List.find?_some found
          have holds := smallRanges_holds_of_run (List.mem_of_find?_eq_some found) inside
          simp [isSmall, holds]
        case h_2 => exact .inl rfl

theorem lowercaseForm_ne_nil (before : List Char) (character : Char) (rest : List Char) :
    lowercaseForm before character rest ≠ [] := by
  rcases lowercaseForm_cases before character rest with form | ⟨_, form⟩ | ⟨small, _, form⟩
  all_goals
    rw [form]
    exact List.cons_ne_nil _ _

theorem lowercaseAfter_ne_nil
    {text : List Char}
    (nonempty : text ≠ [])
    {before : List Char} :
    lowercaseAfter before text ≠ [] := by
  cases text with
  | nil => exact absurd rfl nonempty
  | cons character rest =>
      rw [lowercaseAfter_cons]
      exact List.append_ne_nil_of_left_ne_nil (lowercaseForm_ne_nil before character rest) _

theorem mem_lowercaseAfter_cases
    {small : Char}
    {before text : List Char}
    (member : small ∈ lowercaseAfter before text) :
    small ∈ text ∨ isSmall small = true ∨ ('İ' ∈ text ∧ small = '\u0307') := by
  induction text generalizing before with
  | nil => cases member
  | cons character rest ih =>
      rw [lowercaseAfter_cons] at member
      rcases List.mem_append.mp member with here | later
      · rcases lowercaseForm_cases before character rest with
          same | ⟨rfl, dotted⟩ | ⟨letter, isSmall, form⟩
        · rw [same] at here
          rw [List.mem_singleton.mp here]
          exact .inl List.mem_cons_self
        · rw [dotted] at here
          simp only [List.mem_cons, List.not_mem_nil, or_false] at here
          rcases here with rfl | rfl
          · exact .inr (.inl rfl)
          · exact .inr (.inr ⟨List.mem_cons_self, rfl⟩)
        · rw [form] at here
          rw [List.mem_singleton.mp here]
          exact .inr (.inl isSmall)
      · rcases ih later with kept | isSmall | ⟨dotted, rfl⟩
        · exact .inl (List.mem_cons_of_mem character kept)
        · exact .inr (.inl isSmall)
        · exact .inr (.inr ⟨List.mem_cons_of_mem character dotted, rfl⟩)

/-! ## Marks -/

/-- Whether a character is its own lower-case form and no part of the form of another. -/
def isMark (character : Char) : Bool :=
  !isSmall character && character != '\u0307' && lowercaseChar character == [character]

theorem isMark_of_mem
    {mark : Char}
    (member : mark ∈ ['\x27', '*', '|']) :
    isMark mark = true := by
  have all : ['\x27', '*', '|'].all isMark = true := by decide +kernel
  exact List.all_eq_true.mp all mark member

/-- A mark stands in the lower-case form of a text if and only if it stands in the text. -/
theorem mem_lowercaseAfter_iff
    {mark : Char}
    (isMark : isMark mark = true)
    {before text : List Char} :
    mark ∈ lowercaseAfter before text ↔ mark ∈ text := by
  simp only [Text.isMark, Bool.and_eq_true, Bool.not_eq_true', bne_iff_ne, beq_iff_eq] at isMark
  rcases isMark with ⟨⟨unsmall, undotted⟩, same⟩
  constructor
  · intro member
    rcases mem_lowercaseAfter_cases member with kept | small | ⟨_, dot⟩
    · exact kept
    · cases unsmall.symm.trans small
    · exact absurd dot undotted
  · intro member
    induction text generalizing before with
    | nil => cases member
    | cons character rest ih =>
        rw [lowercaseAfter_cons]
        rcases List.mem_cons.mp member with rfl | later
        · have other : mark ≠ 'Σ' := by
            rintro rfl
            exact absurd same (by decide)
          rw [lowercaseForm, if_neg other, same]
          exact List.mem_append_left _ List.mem_cons_self
        · exact List.mem_append_right _ (ih later)

/-! ## Quotes -/

section Skipped

variable
    {skipped : Char}
    (ignorable : caseIgnorableRanges.holds skipped = true)

include ignorable

theorem meetsCased_append_skipped (characters : List Char) :
    meetsCased (characters ++ [skipped]) = meetsCased characters := by
  induction characters with
  | nil => simp [meetsCased, ignorable]
  | cons character characters ih =>
      cases passed : caseIgnorableRanges.holds character with
      | true =>
          simp only [meetsCased, List.cons_append, List.dropWhile_cons, passed, if_true] at ih ⊢
          exact ih
      | false => simp [meetsCased, passed]

/-- A skipped character before a text has no influence on the text. -/
theorem lowercaseAfter_skipped_append (near text : List Char) :
    lowercaseAfter (near ++ [skipped]) text = lowercaseAfter near text := by
  induction text generalizing near with
  | nil => rfl
  | cons character text ih =>
      simp only [lowercaseAfter, meetsCased_append_skipped ignorable]
      rw [← List.cons_append, ih]

/-- A skipped character behind a text has no influence on the text. -/
theorem lowercaseAfter_append_skipped (before text : List Char) :
    lowercaseAfter before (text ++ [skipped]) =
      lowercaseAfter before text ++ lowercaseChar skipped := by
  induction text generalizing before with
  | nil =>
      have other : skipped ≠ 'Σ' := by
        rintro rfl
        exact absurd ignorable (by decide +kernel)
      simp [lowercaseAfter, other]
  | cons character text ih =>
      simp only [lowercaseAfter, List.cons_append, meetsCased_append_skipped ignorable, ih,
        List.append_assoc]

end Skipped

theorem lowercaseAfter_quotes (text : List Char) :
    lowercaseAfter [] ('\x27' :: (text ++ ['\x27'])) =
      '\x27' :: (lowercaseAfter [] text ++ ['\x27']) := by
  have ignorable : caseIgnorableRanges.holds '\x27' = true := rfl
  have inner := lowercaseAfter_skipped_append ignorable [] (text ++ ['\x27'])
  rw [List.nil_append] at inner
  rw [lowercaseAfter_cons, inner, lowercaseAfter_append_skipped ignorable]
  rfl

end LogRows.Text
