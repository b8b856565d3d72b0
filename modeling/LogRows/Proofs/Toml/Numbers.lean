import LogRows.Toml.Document

/-!
# Written numbers are read back

A size is written in decimal digits up to the end of its line.  Strings, moments and
numbers with a fraction are tried before whole numbers, and none of them is what digits
alone can be, so the digits are read as the number they stand for
(`readScalar?_toDigits`).
-/

namespace LogRows.Toml

/-! ## The digits of a number -/

/-- The value of a decimal digit. -/
def digitValue (digit : Char) : Nat :=
  digit.toNat - '0'.toNat

theorem digitOfBase?_of_isDigit
    {digit : Char}
    (decimal : digit.isDigit = true) :
    digitOfBase? 10 digit = some (digitValue digit) := by
  have bounds := Char.isDigit_iff_toNat.mp decimal
  have between : '0' ≤ digit ∧ digit ≤ '9' := bounds
  have small : digitValue digit < 10 := by
    have least : '0'.toNat = 48 := rfl
    have greatest : '9'.toNat = 57 := rfl
    unfold digitValue
    omega
  unfold digitOfBase?
  simp only [between, and_self, if_true]
  rw [Option.filter_some, if_pos]
  · rfl
  · exact decide_eq_true small

/-- The digits of a number begin with a zero only if it is zero. -/
theorem toDigits_cases (number : Nat) :
    number = 0 ∧ Nat.toDigits 10 number = ['0'] ∨
      ∃ first others,
        Nat.toDigits 10 number = first :: others ∧ first ≠ '0' := by
  induction number using Nat.strongRecOn with
  | ind number ih =>
      rw [Nat.toDigits_eq_if (by decide)]
      split
      case isTrue small =>
        have digits : ∀ digit < 10, digit = 0 ∨ Nat.digitChar digit ≠ '0' := by decide
        rcases digits number small with rfl | proper
        · exact .inl ⟨rfl, rfl⟩
        · exact .inr ⟨_, [], rfl, proper⟩
      case isFalse large =>
        rcases ih (number / 10) (by omega) with ⟨none, _⟩ | ⟨first, others, written, proper⟩
        · omega
        · rw [written]
          exact .inr ⟨first, _, rfl, proper⟩

theorem numberOf_toDigits (number : Nat) :
    numberOf 10 ((Nat.toDigits 10 number).map digitValue) = number := by
  have back := Nat.ofDigitChars_toDigits (b := 10) (n := number) (by decide) (by decide)
  rw [Nat.ofDigitChars_eq_foldl] at back
  rw [numberOf, List.foldl_map]
  refine Eq.trans ?_ back
  congr 1
  funext sofar digit
  rw [Nat.mul_comm]
  rfl

theorem readDigits_append
    {digits : List Char}
    (decimal : ∀ digit ∈ digits, digit.isDigit = true)
    (taken : List Nat)
    (rest : List Char) :
    readDigits 10 taken (digits ++ '\n' :: rest) =
      (taken.reverse ++ digits.map digitValue, '\n' :: rest) := by
  induction digits generalizing taken with
  | nil =>
      rw [List.nil_append, List.map_nil, List.append_nil, readDigits]
      · rfl
      · rintro _ _ ⟨⟩
  | cons digit digits ih =>
      have first := decimal digit List.mem_cons_self
      have plain : digit ≠ '_' := by
        rintro rfl
        cases first
      have next := ih (fun other member => decimal other (List.mem_cons_of_mem _ member))
        (digitValue digit :: taken)
      rw [List.cons_append, readDigits, digitOfBase?_of_isDigit first]
      · simp only [next, List.reverse_cons, List.append_assoc]
        rfl
      · exact fun _ _ same _ => plain same

section

variable
    (number : Nat)
    (rest : List Char)

theorem decimal_toDigits :
    ∀ digit ∈ Nat.toDigits 10 number, digit.isDigit = true :=
  fun _ member => Nat.isDigit_of_mem_toDigits (by decide) (by decide) member

theorem toDigits_eq_cons :
    ∃ first others, Nat.toDigits 10 number = first :: others ∧ first.isDigit = true := by
  rcases List.exists_cons_of_ne_nil (Nat.toDigits_ne_nil (n := number) (b := 10)) with
    ⟨first, others, written⟩
  exact ⟨first, others, written, decimal_toDigits number first (written ▸ List.mem_cons_self)⟩

theorem readDigits_toDigits :
    readDigits 10 [] (Nat.toDigits 10 number ++ '\n' :: rest) =
      ((Nat.toDigits 10 number).map digitValue, '\n' :: rest) :=
  readDigits_append (decimal_toDigits number) [] rest

theorem readWhole?_toDigits :
    readWhole? (Nat.toDigits 10 number ++ '\n' :: rest) =
      some ((Nat.toDigits 10 number).map digitValue, '\n' :: rest) := by
  have digits := readDigits_toDigits number rest
  rcases toDigits_cases number with ⟨_, written⟩ | ⟨first, others, written, proper⟩
  · rw [written]
    rfl
  · rw [written, List.map_cons, List.cons_append] at digits ⊢
    rw [readWhole?, digits]
    rintro _ ⟨⟩
    exact proper rfl

end

/-! ## What digits are not -/

section

variable
    {first : Char}
    (decimal : first.isDigit = true)
    (rest : List Char)

include decimal

/-- Digits carry no sign. -/
theorem readSign_of_isDigit :
    readSign (first :: rest) = (false, first :: rest) := by
  unfold readSign
  split
  case h_1 same | h_2 same =>
    cases same
    cases decimal
  case h_3 => rfl

/-- Digits are in no quotes. -/
theorem readString?_of_isDigit :
    readString? (first :: rest) = none := by
  unfold readString?
  split
  case h_1 same | h_2 same | h_3 same | h_4 same =>
    cases same
    cases decimal
  case h_5 => rfl

end

/-- Behind some digits of a number comes neither a hyphen nor a colon. -/
theorem expect?_of_readField?
    {digits rest more : List Char}
    {width least greatest number : Nat}
    (decimal : ∀ digit ∈ digits, digit.isDigit = true)
    (read : readField? width least greatest (digits ++ '\n' :: rest) = some (number, more))
    {mark : Char}
    (between : mark = '-' ∨ mark = ':') :
    expect? mark more = none := by
  unfold readField? at read
  simp only [] at read
  split at read
  case isFalse => cases read
  case isTrue whole =>
    cases read
    -- All characters that have been taken are digits, so the end of the line is not among them.
    have taken :
        ∀ character ∈ (digits ++ '\n' :: rest).take width,
          (digitOfBase? 10 character).isSome = true := by
      rw [← List.filterMap_length_eq_length, whole.1]
      have few := List.length_filterMap_le (digitOfBase? 10) ((digits ++ '\n' :: rest).take width)
      rw [whole.1] at few
      exact Nat.le_antisymm few (List.length_take_le width _)
    have inside : width ≤ digits.length := by
      apply Nat.le_of_not_lt
      intro short
      have ended : '\n' ∈ (digits ++ '\n' :: rest).take width := by
        obtain ⟨extra, rfl⟩ := Nat.exists_eq_add_of_lt short
        rw [Nat.add_assoc, List.take_length_add_append, List.take_succ_cons]
        exact List.mem_append_right digits List.mem_cons_self
      cases taken _ ended
    rw [List.drop_append_of_le_length inside]
    cases left : digits.drop width with
    | nil =>
        rcases between with rfl | rfl <;> rfl
    | cons next others =>
        have member : next ∈ digits := List.mem_of_mem_drop (left ▸ List.mem_cons_self)
        refine if_neg ?_
        rintro rfl
        have digit := decimal next member
        rcases between with rfl | rfl <;> cases digit

/-- Digits are no date and no time of the day. -/
theorem readMoment?_digits
    {digits : List Char}
    (decimal : ∀ digit ∈ digits, digit.isDigit = true)
    (rest : List Char) :
    readMoment? (digits ++ '\n' :: rest) = none := by
  have date : readDate? (digits ++ '\n' :: rest) = none := by
    unfold readDate?
    cases read : readField? 4 0 9999 (digits ++ '\n' :: rest) with
    | none => rfl
    | some found =>
        have stuck := expect?_of_readField? decimal read (.inl rfl)
        simp only [bind, Option.bind, stuck]
  have time : readTime? (digits ++ '\n' :: rest) = none := by
    unfold readTime?
    cases read : readField? 2 0 23 (digits ++ '\n' :: rest) with
    | none => rfl
    | some found =>
        have stuck := expect?_of_readField? decimal read (.inr rfl)
        simp only [bind, Option.bind, stuck]
  rw [readMoment?, date, time]
  rfl

theorem readFloat?_toDigits (number : Nat) (rest : List Char) :
    readFloat? (Nat.toDigits 10 number ++ '\n' :: rest) = none := by
  have whole := readWhole?_toDigits number rest
  rcases toDigits_eq_cons number with ⟨first, others, written, decimal⟩
  rw [written, List.cons_append] at whole ⊢
  unfold readFloat?
  simp only [readSign_of_isDigit decimal]
  split
  case h_1 same | h_2 same =>
    obtain ⟨rfl, _⟩ := List.cons.inj same
    cases decimal
  case h_3 =>
    simp only [whole, bind, Option.bind]
    rfl

section

variable
    {number : Nat}
    (small : number ≤ greatestInteger)
    (rest : List Char)

include small

theorem readInteger?_toDigits :
    readInteger? (Nat.toDigits 10 number ++ '\n' :: rest) =
      some (.integer number, '\n' :: rest) := by
  have whole := readWhole?_toDigits number rest
  have value := numberOf_toDigits number
  rcases toDigits_cases number with ⟨rfl, written⟩ | ⟨first, others, written, proper⟩
  · rw [written]
    rfl
  · have decimal : first.isDigit = true :=
      decimal_toDigits number first (written ▸ List.mem_cons_self)
    rw [written] at value
    rw [written, List.cons_append] at whole ⊢
    unfold readInteger?
    split
    case h_1 same | h_2 same | h_3 same => exact absurd (List.cons.inj same).1 proper
    case h_4 =>
      simp only [readSign_of_isDigit decimal, whole, value, bind, Option.bind, Bool.false_eq_true,
        if_false, small, if_true]

/-- A number that fits is read as what it was written from. -/
theorem readScalar?_toDigits :
    readScalar? (Nat.toDigits 10 number ++ '\n' :: rest) =
      some (.integer number, '\n' :: rest) := by
  have moment := readMoment?_digits (decimal_toDigits number) rest
  have float := readFloat?_toDigits number rest
  have integer := readInteger?_toDigits small rest
  rcases toDigits_eq_cons number with ⟨first, others, written, decimal⟩
  rw [written, List.cons_append] at moment float integer ⊢
  unfold readScalar?
  split
  case h_1 same | h_2 same =>
    obtain ⟨rfl, _⟩ := List.cons.inj same
    cases decimal
  case h_3 =>
    rw [readString?_of_isDigit decimal, moment, float, integer]
    rfl

end

end LogRows.Toml
