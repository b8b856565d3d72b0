import LogRows.Proofs.Toml.Numbers
import LogRows.Proofs.Toml.Strings

/-!
# Written lines are read back

A document is read line by line, and what is behind a line does not matter to it.
`ReadsTo` says which document is made of the lines that are left, whatever fuel there is
beyond their characters, and has one lemma for each kind of line that is written: an empty
one, a header (`ReadsTo.header`) and a key with its value (`ReadsTo.pair`).
-/

namespace LogRows.Toml

/-! ## Values -/

/-- Whether a character begins neither blanks nor an array nor an inline table. -/
def beginsScalar (character : Char) : Bool :=
  !isSpace character && character != '[' && character != '\x7b'

/-- A value as it is written up to the end of its line. -/
structure IsWritten (text : List Char) (value : Value) : Prop where
  begins : ∃ first others, text = first :: others ∧ beginsScalar first = true
  reads : ∀ rest, readScalar? (text ++ '\n' :: rest) = some (value, '\n' :: rest)

theorem isWritten_toDigits
    {number : Nat}
    (small : number ≤ greatestInteger) :
    IsWritten (Nat.toDigits 10 number) (.integer number) where
  begins := by
    rcases toDigits_eq_cons number with ⟨first, others, written, decimal⟩
    refine ⟨first, others, written, ?_⟩
    simp only [beginsScalar, isSpace, Bool.and_eq_true, Bool.not_eq_true', Bool.or_eq_false_iff,
      beq_eq_false_iff_ne, bne_iff_ne]
    refine ⟨⟨⟨?_, ?_⟩, ?_⟩, ?_⟩ <;>
      · rintro rfl
        cases decimal
  reads := readScalar?_toDigits small

/-- A string begins with a quote. -/
theorem beginsScalar_of_readString?
    {first : Char}
    {others : List Char}
    {result : String × List Char}
    (read : readString? (first :: others) = some result) :
    beginsScalar first = true := by
  unfold readString? at read
  simp only [] at read
  split at read
  case h_1 same | h_2 same | h_3 same | h_4 same =>
    obtain ⟨rfl, _⟩ := List.cons.inj same
    decide
  case h_5 => cases read

theorem readScalar?_of_readString?
    {text rest : List Char}
    {string : String}
    (read : readString? text = some (string, rest)) :
    readScalar? text = some (.string string, rest) := by
  unfold readScalar?
  split
  case h_1 | h_2 => cases read
  case h_3 => rw [read]

theorem isWritten_stringText (value : String) :
    IsWritten (stringText value) (.string value) where
  begins := by
    have read := readString?_stringText value []
    cases written : stringText value with
    | nil =>
        rw [written] at read
        cases read
    | cons first others =>
        rw [written] at read
        exact ⟨first, others, rfl, beginsScalar_of_readString? read⟩
  reads rest := readScalar?_of_readString? (readString?_stringText value rest)

/-- A value that is written is read, behind the blank before it. -/
theorem IsWritten.readValue?
    {text : List Char}
    {value : Value}
    (written : IsWritten text value)
    (levels : Nat)
    (rest : List Char) :
    Toml.readValue? levels (skipSpaces (' ' :: (text ++ '\n' :: rest))) =
      some (value, '\n' :: rest) := by
  have reads := written.reads rest
  rcases written.begins with ⟨first, others, rfl, begins⟩
  simp only [beginsScalar, Bool.and_eq_true, Bool.not_eq_true', bne_iff_ne] at begins
  obtain ⟨⟨unspaced, unbracketed⟩, unbraced⟩ := begins
  have skipped :
      skipSpaces (' ' :: (first :: others ++ '\n' :: rest)) = first :: others ++ '\n' :: rest := by
    rw [skipSpaces, List.dropWhile_cons_of_pos rfl, List.cons_append,
      List.dropWhile_cons_of_neg (by simp [unspaced])]
  rw [skipped, ← reads]
  unfold Toml.readValue?
  split
  case h_1 same => exact absurd (List.cons.inj same).1 unbracketed
  case h_2 same => exact absurd (List.cons.inj same).1 unbraced
  case h_3 => rfl

/-! ## Keys -/

/-- A character that begins a key: no blank, and neither a comment nor a header. -/
theorem begins_of_readSimpleKey?
    {first : Char}
    {others : List Char}
    {result : String × List Char}
    (read : readSimpleKey? (first :: others) = some result) :
    isSpace first = false ∧ first ≠ '#' ∧ first ≠ '[' ∧ first ≠ '\n' ∧ first ≠ '\r' := by
  refine ⟨?_, ?_, ?_, ?_, ?_⟩
  case refine_1 =>
    cases blank : isSpace first with
    | false => rfl
    | true =>
        simp only [isSpace, Bool.or_eq_true, beq_iff_eq] at blank
        rcases blank with rfl | rfl <;> cases read
  all_goals
    rintro rfl
    cases read

theorem keyText_eq_cons (key : String) :
    ∃ first others,
      keyText key = first :: others ∧
        isSpace first = false ∧ first ≠ '#' ∧ first ≠ '[' ∧ first ≠ '\n' ∧ first ≠ '\r' := by
  have read : readSimpleKey? (keyText key ++ []) = some (key, []) :=
    readSimpleKey?_keyText key nofun
  rw [List.append_nil] at read
  cases written : keyText key with
  | nil =>
      rw [written] at read
      cases read
  | cons first others =>
      rw [written] at read
      exact ⟨first, others, rfl, begins_of_readSimpleKey? read⟩

theorem skipSpaces_keyText (key : String) (rest : List Char) :
    skipSpaces (keyText key ++ rest) = keyText key ++ rest := by
  rcases keyText_eq_cons key with ⟨first, others, written, unspaced, _⟩
  rw [written, skipSpaces, List.cons_append, List.dropWhile_cons_of_neg (by simp [unspaced])]

/-- A key is the last of its path unless a dot comes behind it. -/
theorem readKey?_keyText
    (key : String)
    (parts : Nat)
    {rest : List Char}
    (ends : ∀ next ∈ rest.head?, isBareKey next = false)
    (last : ∀ next ∈ (skipSpaces rest).head?, next ≠ '.') :
    readKey? (parts + 1) (keyText key ++ rest) = some ([key], skipSpaces rest) := by
  rw [readKey?, skipSpaces_keyText, readSimpleKey?_keyText key ends]
  simp only [bind, Option.bind]
  split
  case h_1 same =>
    rw [same] at last
    exact absurd rfl (last '.' rfl)
  case h_2 => rfl

theorem readKey?_dotted
    (key : String)
    (parts : Nat)
    {rest more : List Char}
    {path : List String}
    (read : readKey? parts rest = some (path, more)) :
    readKey? (parts + 1) (keyText key ++ '.' :: rest) = some (key :: path, more) := by
  have ends : ∀ next ∈ ('.' :: rest).head?, isBareKey next = false := by
    rintro _ ⟨⟩
    decide
  have dot : skipSpaces ('.' :: rest) = '.' :: rest := rfl
  rw [readKey?, skipSpaces_keyText, readSimpleKey?_keyText key ends]
  simp only [bind, Option.bind, dot, read]

/-- The last key of a header. -/
theorem readKey?_header
    (key : String)
    (parts : Nat)
    (rest : List Char) :
    readKey? (parts + 1) (keyText key ++ ']' :: rest) = some ([key], ']' :: rest) := by
  refine readKey?_keyText key parts ?_ ?_
  · rintro _ ⟨⟩
    decide
  · rintro _ ⟨⟩
    decide

theorem head?_keyText_append (key : String) (rest : List Char) :
    (keyText key ++ rest).head? ≠ some '[' := by
  rcases keyText_eq_cons key with ⟨first, others, written, _, _, header, _⟩
  rw [written]
  intro same
  exact header (Option.some.inj same)

/-! ## Lines -/

/-- What the lines that are left make of a draft, for any fuel beyond their characters. -/
def ReadsTo (draft : Draft) (text : List Char) (final : Draft) : Prop :=
  ∀ fuel, text.length < fuel → readLines? fuel draft text = some final

section

variable
    {draft next final : Draft}
    {text rest : List Char}

theorem ReadsTo.done : ReadsTo draft [] draft := by
  intro fuel enough
  obtain ⟨fuel, rfl⟩ := Nat.exists_eq_succ_of_ne_zero (Nat.ne_zero_of_lt enough)
  rfl

/-- An empty line. -/
theorem ReadsTo.empty
    (more : ReadsTo draft rest final) :
    ReadsTo draft ('\n' :: rest) final := by
  intro fuel enough
  obtain ⟨fuel, rfl⟩ := Nat.exists_eq_succ_of_ne_zero (Nat.ne_zero_of_lt enough)
  exact more fuel (Nat.lt_of_succ_lt_succ enough)

/-- A header. -/
theorem ReadsTo.header
    {path : List String}
    (keyed :
      readKey? maxKeyParts (text ++ ']' :: '\n' :: rest) = some (path, ']' :: '\n' :: rest))
    (single : text.head? ≠ some '[')
    (opens : draft.openTable path = some next)
    (more : ReadsTo next rest final) :
    ReadsTo draft ('[' :: (text ++ ']' :: '\n' :: rest)) final := by
  intro fuel enough
  obtain ⟨fuel, rfl⟩ := Nat.exists_eq_succ_of_ne_zero (Nat.ne_zero_of_lt enough)
  have header : readHeader? draft (text ++ ']' :: '\n' :: rest) = some (next, rest) := by
    unfold readHeader?
    split
    case h_1 same =>
      cases text with
      | nil => cases same
      | cons first others =>
          obtain ⟨rfl, _⟩ := List.cons.inj same
          exact absurd rfl single
    case h_2 =>
      simp only [keyed, bind, Option.bind, expect?, if_true, opens]
      rfl
  have fewer : rest.length < fuel := by
    simp only [List.length_cons, List.length_append] at enough
    omega
  show (readHeader? draft (text ++ ']' :: '\n' :: rest)).bind
    (fun read => readLines? fuel read.1 read.2) = some final
  rw [header]
  exact more fuel fewer

/-- A header with one key. -/
theorem ReadsTo.table
    {key : String}
    (opens : draft.openTable [key] = some next)
    (more : ReadsTo next rest final) :
    ReadsTo draft ('[' :: (keyText key ++ ']' :: '\n' :: rest)) final := by
  have single := head?_keyText_append key []
  rw [List.append_nil] at single
  exact .header (readKey?_header key _ _) single opens more

/-- A header with two keys. -/
theorem ReadsTo.subtable
    {key inner : String}
    (opens : draft.openTable [key, inner] = some next)
    (more : ReadsTo next rest final) :
    ReadsTo draft ('[' :: (keyText key ++ '.' :: (keyText inner ++ ']' :: '\n' :: rest)))
      final := by
  have keyed :
      readKey? maxKeyParts ((keyText key ++ '.' :: keyText inner) ++ ']' :: '\n' :: rest) =
        some ([key, inner], ']' :: '\n' :: rest) := by
    rw [List.append_assoc, List.cons_append]
    exact readKey?_dotted key _ (readKey?_header inner _ _)
  have header := ReadsTo.header keyed (head?_keyText_append key _) opens more
  rw [List.append_assoc, List.cons_append] at header
  exact header

/-- A key with its value. -/
theorem ReadsTo.pair
    {key : String}
    {value : Value}
    (written : IsWritten text value)
    (sets : draft.setKey [] key value = some next)
    (more : ReadsTo next rest final) :
    ReadsTo draft (keyText key ++ ' ' :: '=' :: ' ' :: (text ++ '\n' :: rest)) final := by
  intro fuel enough
  obtain ⟨fuel, rfl⟩ := Nat.exists_eq_succ_of_ne_zero (Nat.ne_zero_of_lt enough)
  let behind := text ++ '\n' :: rest
  have ends : ∀ next ∈ (' ' :: '=' :: ' ' :: behind).head?, isBareKey next = false := by
    rintro _ ⟨⟩
    decide
  have last : ∀ next ∈ (skipSpaces (' ' :: '=' :: ' ' :: behind)).head?, next ≠ '.' := by
    rintro _ ⟨⟩
    decide
  have keyed :
      readKey? maxKeyParts (keyText key ++ ' ' :: '=' :: ' ' :: behind) =
        some ([key], '=' :: ' ' :: behind) :=
    readKey?_keyText key _ ends last
  have read : readValue? maxNesting (skipSpaces (' ' :: behind)) = some (value, '\n' :: rest) :=
    written.readValue? maxNesting rest
  have ended : skipLineEnd? ('\n' :: rest) = some rest := rfl
  have pair :
      readPair? draft (keyText key ++ ' ' :: '=' :: ' ' :: behind) = some (next, rest) := by
    simp only [readPair?, keyed, bind, Option.bind, splitKey?, List.getLast?_singleton,
      Option.map_some, List.dropLast_singleton, expect?, if_true, read, sets, ended]
  have fewer : rest.length < fuel := by
    simp only [List.length_cons, List.length_append] at enough
    omega
  rcases keyText_eq_cons key with ⟨first, others, begins, unspaced, comment, header, feed, carriage⟩
  have spaces := skipSpaces_keyText key (' ' :: '=' :: ' ' :: behind)
  rw [begins, List.cons_append] at spaces pair ⊢
  unfold readLines?
  rw [spaces]
  split
  case h_1 same => cases same
  case h_2 same => exact absurd (List.cons.inj same).1 comment
  case h_3 same => exact absurd (List.cons.inj same).1 header
  case h_4 =>
    split
    case h_1 skipped =>
      unfold skipNewline? at skipped
      split at skipped
      case h_1 same => exact absurd (List.cons.inj same).1 feed
      case h_2 same => exact absurd (List.cons.inj same).1 carriage
      case h_3 => cases skipped
    case h_2 =>
      simp only [pair, bind, Option.bind]
      exact more fuel fewer

end

end LogRows.Toml
