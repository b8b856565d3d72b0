import LogRows.Proofs.CaselessRows
import LogRows.Proofs.ConditionPrinting
import LogRows.Proofs.FilterComposition
import LogRows.Proofs.Text.SmallLetters

/-!
# Field checks, from the text to the row

The text of a check is put in lower case as a whole before it is read, and a row is put in
lower case field by field before it is looked at.  Quotes, spaces and operators keep field
and value apart, so both ways lead to the same texts, and a check in quotes stands for the
field and the value in lower case whatever they hold (`compile_quotedCheck`).

What a check then says of a row is said of the fields that its copy in lower case has.  A
row that has two keys of one spelling loses a field there, so a field pattern does not see
every field (`accepts_patternCheck`, `patternCheck_misses_field`).  A row in which the keys
stay apart loses none, and the check of a field with its own text accepts the row
(`accepts_ownField`).
-/

namespace LogRows.Filter

open Condition Token

/-! ## Checks in quotes -/

/-- The text of a field check with its field and its value in single quotes. -/
def quotedCheck (field operator value : String) : String :=
  "'" ++ field ++ "' " ++ operator ++ " '" ++ value ++ "'"

section Quoted

variable
    {field operator value : String}
    {tree : Condition}

/-- A text in lower case holds a single quote only if the text holds one. -/
theorem quote_not_mem_lowercase
    {text : String}
    (unquoted : '\x27' ∉ text.toList) :
    '\x27' ∉ (Text.lowercase text).toList := by
  have mark : Text.isMark '\x27' = true := Text.isMark_of_mem (by decide)
  rw [Text.lowercase, String.toList_ofList, Text.mem_lowercaseAfter_iff mark]
  exact unquoted

theorem quoted_eq
    {text : String}
    (unquoted : '\x27' ∉ text.toList) :
    quoted text = '\x27' :: (text.toList ++ ['\x27']) := by
  rw [quoted, quote, if_neg unquoted]

/-- The text that is read for a check in quotes. -/
theorem cleaned_quotedCheck
    (small : Text.lowercaseAfter [] operator.toList = operator.toList)
    (fieldUnquoted : '\x27' ∉ field.toList)
    (valueUnquoted : '\x27' ∉ value.toList) :
    (cleaned (quotedCheck field operator value)).toList =
      quoted (Text.lowercase field) ++
        ' ' :: (operator.toList ++ ' ' :: quoted (Text.lowercase value)) := by
  have text :
      (quotedCheck field operator value).toList =
        '\x27' :: (field.toList ++ ['\x27']) ++
          ' ' :: (operator.toList ++ ' ' :: ('\x27' :: value.toList ++ ['\x27'])) := by
    simp [quotedCheck]
  have closed : ('\x27' :: value.toList ++ ['\x27']).getLast? = some '\x27' :=
    List.getLast?_concat
  rw [cleaned_spaced text small rfl closed rfl rfl, List.cons_append,
    Text.lowercaseAfter_quotes, Text.lowercaseAfter_quotes,
    quoted_eq (quote_not_mem_lowercase fieldUnquoted),
    quoted_eq (quote_not_mem_lowercase valueUnquoted)]
  simp [Text.lowercase]

theorem quotable_of_not_mem
    {text : String}
    (unquoted : '\x27' ∉ text.toList) :
    Quotable text :=
  fun both => unquoted both.1

/-- A check in quotes stands for its field and its value in lower case. -/
theorem compile_quotedCheck
    (fieldUnquoted : '\x27' ∉ field.toList)
    (valueUnquoted : '\x27' ∉ value.toList)
    (means : CheckMeans (Text.lowercase field) (Text.lowercase value) operator tree) :
    compile (quotedCheck field operator value) = .ok ⟨tree, true⟩ := by
  have small : Text.lowercaseAfter [] operator.toList = operator.toList := by
    cases means <;> rfl
  rcases means.reads (quotable_of_not_mem (quote_not_mem_lowercase fieldUnquoted))
      (quotable_of_not_mem (quote_not_mem_lowercase valueUnquoted)) 0 with
    ⟨tokens, pieces, term⟩
  rw [← cleaned_quotedCheck small fieldUnquoted valueUnquoted] at pieces
  exact compile_of_pieces pieces (((term 0).chain "and").condition (Nat.zero_le _))

end Quoted

/-! ## Field patterns -/

/-- Whether a field fits a pattern for its key and an alternative of a value, in any case. -/
def FitsCheck (pattern value key : String) (field : Json.Value) : Prop :=
  Glob.fits (Text.lowercase pattern) (Text.lowercase key) = true ∧
    ∃ choice ∈ (alternatives (Text.lowercase value)).map GlobAlternative.ofText,
      choice.fits (Text.lowercase field.plainText) = true

/-- What a field pattern says of the copy of a row in lower case. -/
theorem holds_fitting_lowercase
    {pattern value : String}
    (starred : '*' ∈ pattern.toList)
    (fields : Fields) :
    (fitting (Text.lowercase pattern) (Text.lowercase value)).holds fields.lowercase = true ↔
      ∃ key field,
        (key, field) ∈ fields.entries ∧ fields.IsLastOfCase key ∧
          FitsCheck pattern value key field := by
  have mark : Text.isMark '*' = true := Text.isMark_of_mem (by decide)
  have star : (Text.lowercase pattern).toList.contains '*' = true := by
    rw [List.contains_iff_mem, Text.lowercase, String.toList_ofList,
      Text.mem_lowercaseAfter_iff mark]
    exact starred
  simp only [fitting, holds, star, if_true, List.any_eq_true, Bool.and_eq_true, Prod.exists,
    Fields.mem_entries_lowercase]
  constructor
  · rintro ⟨_, _, ⟨key, field, member, last, rfl, rfl⟩, fits, choice, listed, accepts⟩
    exact ⟨key, field, member, last, fits, choice, listed, accepts⟩
  · rintro ⟨key, field, member, last, fits, choice, listed, accepts⟩
    exact ⟨_, _, ⟨key, field, member, last, rfl, rfl⟩, fits, choice, listed, accepts⟩

/--
A check of a field pattern accepts a row if a field fits it that has the greatest key of
its spelling.  If no two keys of the row have one spelling, any field that fits is enough.
-/
theorem accepts_patternCheck
    {pattern value : String}
    (starred : '*' ∈ pattern.toList)
    (patternUnquoted : '\x27' ∉ pattern.toList)
    (valueUnquoted : '\x27' ∉ value.toList) :
    ∃ filter,
      compile (quotedCheck pattern ":" value) = .ok filter ∧
        ∀ row : Row,
          (filter.accepts row = true ↔
            ∃ key field,
              (key, field) ∈ row.fields.entries ∧ row.fields.IsLastOfCase key ∧
                FitsCheck pattern value key field) ∧
          (row.fields.KeysStayApart →
            (filter.accepts row = true ↔
              ∃ key field,
                (key, field) ∈ row.fields.entries ∧ FitsCheck pattern value key field)) := by
  refine ⟨_, compile_quotedCheck patternUnquoted valueUnquoted .wildcard, fun row => ?_⟩
  have looks := @holds_fitting_lowercase pattern value starred row.fields
  refine ⟨looks, fun apart => looks.trans ?_⟩
  constructor
  · rintro ⟨key, field, member, _, fits⟩
    exact ⟨key, field, member, fits⟩
  · rintro ⟨key, field, member, fits⟩
    exact ⟨key, field, member, apart.isLastOfCase (List.mem_map_of_mem member), fits⟩

/-- A row with two spellings of a key, and one in which the second alternative fits. -/
theorem accepts_patternCheck_of_two_spellings :
    ∃ filter,
      compile "'Le*L' : 'Err*|!*warn*'" = .ok filter ∧
        filter.accepts
            (.data (.ofList [("LEVEL", .string "Warning"), ("level", .string "ERROR 7")])) =
          true ∧
        filter.accepts
            (.data (.ofList [("Legal", .boolean true), ("Length", .integer 3)])) =
          true := by
  rcases @accepts_patternCheck "Le*L" "Err*|!*warn*" (by decide) (by decide) (by decide) with
    ⟨filter, compiled, looks⟩
  rw [show quotedCheck "Le*L" ":" "Err*|!*warn*" = "'Le*L' : 'Err*|!*warn*'" by
    decide +kernel] at compiled
  refine ⟨filter, compiled, (looks _).1.mpr ?_, ((looks _).2 ?_).mpr ?_⟩
  · refine ⟨"level", .string "ERROR 7", ?_, by decide +kernel, ?_⟩
    · simp [SortedMap.mem_entries_iff, SortedMap.get?_ofList, lookupEntry]
    · exact ⟨by decide +kernel, ⟨"err*", false⟩, by decide +kernel, by decide +kernel⟩
  · decide +kernel
  · refine ⟨"Legal", .boolean true, ?_, ?_⟩
    · simp [SortedMap.mem_entries_iff, SortedMap.get?_ofList, lookupEntry]
    · exact ⟨by decide +kernel, ⟨"*warn*", true⟩, by decide +kernel, by decide +kernel⟩

/-- Of a field with two spellings only the greater one is looked at, and the other may fit. -/
theorem patternCheck_misses_field :
    ∃ filter,
      compile "'l*' : 'error'" = .ok filter ∧
        ("Level", .string "error") ∈
          (SortedMap.ofList
            [("Level", Json.Value.string "error"), ("level", .string "info")]).entries ∧
        FitsCheck "l*" "error" "Level" (.string "error") ∧
        filter.accepts
            (.data (.ofList [("Level", .string "error"), ("level", .string "info")])) =
          false := by
  have compiled := @compile_quotedCheck "l*" ":" "error" _ (by decide) (by decide) .wildcard
  rw [show quotedCheck "l*" ":" "error" = "'l*' : 'error'" by decide +kernel] at compiled
  refine ⟨_, compiled, ?_, ?_, ?_⟩
  · simp [SortedMap.mem_entries_iff, SortedMap.get?_ofList, lookupEntry]
  · exact ⟨by decide +kernel, ⟨"error", false⟩, by decide +kernel, by decide +kernel⟩
  · decide +kernel

/-! ## The own text of a field -/

/-- A text without bars is its only alternative. -/
theorem alternatives_lowercase
    {text : String}
    (single : '|' ∉ text.toList) :
    alternatives (Text.lowercase text) = [Text.lowercase text] := by
  have mark : Text.isMark '|' = true := Text.isMark_of_mem (by decide)
  have unbarred : '|' ∉ (Text.lowercase text).toList := by
    rw [Text.lowercase, String.toList_ofList, Text.mem_lowercaseAfter_iff mark]
    exact single
  rw [alternatives, List.splitOn_eq_singleton unbarred]
  simp

theorem occursIn_self (text : List Char) : Text.occursIn text text = true :=
  Text.occursIn_iff.mpr List.infix_rfl

section OwnText

variable
    {fields : Fields}
    {key text : String}
    (found : fields.lowercase.get? (Text.lowercase key) = some (.string (Text.lowercase text)))
    (single : '|' ∉ text.toList)

include found single

/-- A field is equal to its own text. -/
theorem holds_equalTo_own :
    (equalTo (Text.lowercase key) (Text.lowercase text)).holds fields.lowercase = true := by
  simp [equalTo, holds, found, alternatives_lowercase single, Json.Value.plainText]

/-- A field holds its own text. -/
theorem holds_containing_own :
    (containing (Text.lowercase key) (Text.lowercase text)).holds fields.lowercase = true := by
  simp [containing, holds, found, alternatives_lowercase single, Json.Value.plainText,
    occursIn_self]

end OwnText

/--
In a row whose keys stay apart, the checks that a field is its own text and that it holds
its own text accept the row, and their negations do not.
-/
theorem accepts_ownField
    {fields : Fields}
    {key : String}
    {value : Json.Value}
    (apart : fields.KeysStayApart)
    (member : (key, value) ∈ fields.entries)
    (keyUnquoted : '\x27' ∉ key.toList)
    (valueUnquoted : '\x27' ∉ value.plainText.toList)
    (single : '|' ∉ value.plainText.toList) :
    ∃ equal contains notEqual notContains,
      compile (quotedCheck key "=" value.plainText) = .ok equal ∧
        compile (quotedCheck key "~" value.plainText) = .ok contains ∧
        compile (quotedCheck key "!=" value.plainText) = .ok notEqual ∧
        compile (quotedCheck key "!~" value.plainText) = .ok notContains ∧
        equal.accepts (.data fields) = true ∧
        contains.accepts (.data fields) = true ∧
        notEqual.accepts (.data fields) = false ∧
        notContains.accepts (.data fields) = false := by
  have last := apart.isLastOfCase (List.mem_map_of_mem member)
  have found := Fields.get?_lowercase_of_mem member last
  have equals := holds_equalTo_own found single
  have holds := holds_containing_own found single
  refine ⟨_, _, _, _,
    compile_quotedCheck keyUnquoted valueUnquoted .equal,
    compile_quotedCheck keyUnquoted valueUnquoted .contains,
    compile_quotedCheck keyUnquoted valueUnquoted .notEqual,
    compile_quotedCheck keyUnquoted valueUnquoted .notContains,
    equals, holds, ?_, ?_⟩
  · exact congrArg (!·) equals
  · exact congrArg (!·) holds

/-- A key that ends in a sigma, and a list whose text has brackets, operators and quotes. -/
theorem accepts_ownField_of_sigma_and_list :
    let fields : Fields :=
      .ofList [("b c", .null), ("ΟΔΟΣ", .array [.string "ΣΑΣ", .string "and) != \"x", .null])]
    ∃ equal contains notEqual notContains,
      compile "'ΟΔΟΣ' = '[\"ΣΑΣ\",\"and) != \\\"x\",null]'" = .ok equal ∧
        compile "'ΟΔΟΣ' ~ '[\"ΣΑΣ\",\"and) != \\\"x\",null]'" = .ok contains ∧
        compile "'ΟΔΟΣ' != '[\"ΣΑΣ\",\"and) != \\\"x\",null]'" = .ok notEqual ∧
        compile "'ΟΔΟΣ' !~ '[\"ΣΑΣ\",\"and) != \\\"x\",null]'" = .ok notContains ∧
        equal.accepts (.data fields) = true ∧
        contains.accepts (.data fields) = true ∧
        notEqual.accepts (.data fields) = false ∧
        notContains.accepts (.data fields) = false := by
  intro fields
  let value : Json.Value := .array [.string "ΣΑΣ", .string "and) != \"x", .null]
  have plain : value.plainText = "[\"ΣΑΣ\",\"and) != \\\"x\",null]" := by decide +kernel
  have member : ("ΟΔΟΣ", value) ∈ fields.entries := by
    simp [fields, value, SortedMap.mem_entries_iff, SortedMap.get?_ofList, lookupEntry]
  have own := accepts_ownField (by decide +kernel) member (by decide +kernel)
    (by decide +kernel) (by decide +kernel)
  have text (operator : String) :
      quotedCheck "ΟΔΟΣ" operator value.plainText =
        "'ΟΔΟΣ' " ++ operator ++ " '[\"ΣΑΣ\",\"and) != \\\"x\",null]'" := by
    rw [plain]
    simp [quotedCheck, String.append_assoc]
  simp only [text] at own
  exact own

end LogRows.Filter
