import LogRows.Proofs.FieldChecks
import LogRows.Proofs.LexicalRules

/-!
# Field checks of bare words

A condition is put in lower case before it is cut into words, so a word of capitals is
compiled only if its lower-case form is made of bare characters too.  Every letter but one
has a form that is one letter (`lowercaseForm_of_isBare`).  A check of two words without that
letter accepts the row that has the second word under the first; in a check with `İ` there
is a combining dot that stands in no word, and it is not compiled
(`accepts_ownWords`, `ownWords_fail_with_dot`).
-/

namespace LogRows.Token

/-! ## Letters in lower case -/

/-- The form of a bare character is one such character, except for `İ`. -/
theorem lowercaseForm_of_isBare
    {character : Char}
    (bare : isBare character = true)
    (before rest : List Char) :
    (character = 'İ' ∧ Text.lowercaseForm before character rest = ['i', '\u0307']) ∨
      ∃ letter, isBare letter = true ∧ Text.lowercaseForm before character rest = [letter] := by
  rcases Text.lowercaseForm_cases before character rest with same | dotted | ⟨small, isSmall, form⟩
  · exact .inr ⟨character, bare, same⟩
  · exact .inl dotted
  · exact .inr ⟨small, by simp [isBare, Text.isAlphanumeric_of_isSmall isSmall], form⟩

/-- A word without `İ` stays a bare word in lower case. -/
theorem isBare_of_mem_lowercaseAfter
    {text before : List Char}
    (bare : ∀ character ∈ text, isBare character = true)
    (undotted : 'İ' ∉ text) :
    ∀ character ∈ Text.lowercaseAfter before text, isBare character = true := by
  intro character member
  rcases Text.mem_lowercaseAfter_cases member with kept | small | ⟨dotted, _⟩
  · exact bare character kept
  · simp [isBare, Text.isAlphanumeric_of_isSmall small]
  · exact absurd dotted undotted

/-- In a word with an `İ` there is a dot in lower case, and letters in front of it. -/
theorem exists_dot_of_mem
    {text : List Char}
    (bare : ∀ character ∈ text, isBare character = true)
    (dotted : 'İ' ∈ text)
    (before : List Char) :
    ∃ first others rest,
      Text.lowercaseAfter before text = first :: (others ++ '\u0307' :: rest) ∧
        ∀ character ∈ first :: others, isBare character = true := by
  induction text generalizing before with
  | nil => cases dotted
  | cons character text ih =>
      rcases List.forall_mem_cons.mp bare with ⟨here, later⟩
      rw [Text.lowercaseAfter_cons]
      rcases lowercaseForm_of_isBare here before text with ⟨_, form⟩ | ⟨letter, letterBare, form⟩
      · rw [form]
        exact ⟨'i', [], _, rfl, List.forall_mem_singleton.mpr rfl⟩
      · have behind : 'İ' ∈ text := by
          rcases List.mem_cons.mp dotted with rfl | behind
          · cases form
          · exact behind
        rcases ih later behind (character :: before) with ⟨first, others, rest, whole, bare⟩
        rw [form, whole]
        exact ⟨letter, first :: others, rest, rfl, List.forall_mem_cons.mpr ⟨letterBare, bare⟩⟩

theorem detached_nil : Detached [] :=
  fun _ impossible => nomatch impossible

/-- A text of bare characters is a single word. -/
theorem Pieces.soleWord
    {first : Char}
    {others : List Char}
    (bare : ∀ character ∈ first :: others, isBare character = true)
    (offset : Nat) :
    Pieces offset (first :: others) [ofWord (first :: others) offset] := by
  have pieces :=
    Pieces.word bare detached_nil (@Pieces.done (offset + Text.byteLength (first :: others)))
  rw [List.append_nil] at pieces
  exact pieces

/-- Where the scanner cannot go on there is a character, and no star. -/
theorem Breaks.exists_stop
    {offset : Nat}
    {text : List Char}
    {fault : SyntaxError}
    (breaks : Breaks offset text fault) :
    ∃ stop rest, text = stop :: rest ∧ stop ≠ '*' := by
  cases breaks with
  | unclassed unblank unmarked unbare =>
      refine ⟨_, _, rfl, ?_⟩
      rintro rfl
      cases unbare
  | lone => exact ⟨'!', _, rfl, by decide⟩
  | unclosed quotes =>
      refine ⟨_, _, rfl, ?_⟩
      rcases quotes with rfl | rfl <;> decide

/-- A combining dot stands in no piece of a condition. -/
theorem breaks_of_dot (offset : Nat) (rest : List Char) :
    Breaks offset ('\u0307' :: rest) (.unexpectedChar '\u0307' offset) :=
  .unclassed rfl (by decide) (by decide +kernel)

/-! ## Words as pieces -/

/-- A text that can stand in a condition as a bare word and is no logic operator. -/
structure IsWord (text : String) : Prop where
  nonempty : text.toList ≠ []
  bare : ∀ character ∈ text.toList, isBare character = true
  /-- In no case is it the word of a logic operator. -/
  noOperator : Text.lowercase text ≠ "and" ∧ Text.lowercase text ≠ "or"

theorem isWord_iff (text : String) :
    (text.toList ≠ [] ∧ text.toList.all isBare = true ∧
      Text.lowercase text ≠ "and" ∧ Text.lowercase text ≠ "or") ↔ IsWord text := by
  constructor
  · rintro ⟨nonempty, bare, noOperator⟩
    exact ⟨nonempty, List.all_eq_true.mp bare, noOperator⟩
  · rintro ⟨nonempty, bare, noOperator⟩
    exact ⟨nonempty, List.all_eq_true.mpr bare, noOperator⟩

instance (text : String) : Decidable (IsWord text) :=
  decidable_of_iff _ (isWord_iff text)

section Words

variable
    {word : String}
    (isWord : IsWord word)

include isWord

/-- A word without `İ` is a string token in lower case, where no bare character follows. -/
theorem IsWord.pieces
    (undotted : 'İ' ∉ word.toList)
    (offset : Nat)
    {rest : List Char}
    (detached : Detached rest)
    {tokens : List Token}
    (more : Pieces (offset + Text.byteLength (Text.lowercase word).toList) rest tokens) :
    Pieces offset ((Text.lowercase word).toList ++ rest)
      (⟨.string, Text.lowercase word, offset⟩ :: tokens) := by
  have token :
      ofWord (Text.lowercase word).toList offset = ⟨.string, Text.lowercase word, offset⟩ := by
    simp [ofWord, isWord.noOperator]
  have bare : ∀ character ∈ (Text.lowercase word).toList, isBare character = true := by
    rw [Text.lowercase, String.toList_ofList]
    exact isBare_of_mem_lowercaseAfter isWord.bare undotted
  obtain ⟨first, others, letters⟩ :
      ∃ first others, (Text.lowercase word).toList = first :: others := by
    rw [Text.lowercase, String.toList_ofList]
    exact List.exists_cons_of_ne_nil (Text.lowercaseAfter_ne_nil isWord.nonempty)
  rw [← token, letters]
  rw [letters] at bare more
  exact .word bare detached more

/-- What the scanner takes of a word with an `İ`, before it cannot go on. -/
theorem IsWord.exists_breaks
    (dotted : 'İ' ∈ word.toList)
    (behind : List Char) :
    ∃ taken rest,
      (Text.lowercase word).toList ++ behind = taken ++ rest ∧
        (∀ offset, ∃ tokens, Pieces offset taken tokens) ∧
        ∀ offset, Breaks offset rest (.unexpectedChar '\u0307' offset) := by
  rcases exists_dot_of_mem isWord.bare dotted [] with ⟨first, others, rest, whole, bare⟩
  refine ⟨first :: others, '\u0307' :: (rest ++ behind), ?_, fun offset => ⟨_, .soleWord bare offset⟩,
    fun offset => breaks_of_dot _ _⟩
  rw [Text.lowercase, String.toList_ofList, whole]
  simp

end Words

/-- The operator of a check between spaces. -/
theorem Pieces.operator
    {offset : Nat}
    {rest : List Char}
    {tokens : List Token}
    (more : Pieces (offset + 3) rest tokens) :
    Pieces offset (' ' :: '=' :: ' ' :: rest) (⟨.fieldOperator, "=", offset + 1⟩ :: tokens) := by
  have blank : Text.isBlank ' ' = true := rfl
  exact .blank blank (.mark rfl (.blank blank more))

end LogRows.Token

namespace LogRows.Filter

open Condition Token

/-- Where the scanner cannot go on in a condition, it is not compiled. -/
theorem compile_eq_error_of_breaks
    {condition : String}
    {before after : List Char}
    {tokens : List Token}
    {fault : SyntaxError}
    (whole : (cleaned condition).toList = before ++ after)
    (pieces : Pieces 0 before tokens)
    (breaks : Breaks (Text.byteLength before) after fault) :
    compile condition = .error fault := by
  have unscanned : Token.scan (cleaned condition) = .error fault := by
    rw [Token.scan, whole, pieces.scanFrom_append breaks.detached, Nat.zero_add,
      breaks.scanFrom]
    rfl
  rcases compile_cases condition with
    ⟨short, _⟩ | ⟨_, found, failed⟩ | ⟨_, _, scanned, _⟩ | ⟨_, _, scanned, _⟩
  · rcases breaks.exists_stop with ⟨stop, rest, rfl, unstarred⟩
    have member : stop ∈ (cleaned condition).toList := by
      rw [whole]
      exact List.mem_append_right before List.mem_cons_self
    rcases short with empty | star
    · rw [empty] at member
      cases member
    · rw [star] at member
      exact absurd (List.mem_singleton.mp member) unstarred
  · cases found.symm.trans unscanned
    exact failed
  · cases scanned.symm.trans unscanned
  · cases scanned.symm.trans unscanned

section Words

variable
    {field value : String}
    (fieldWord : IsWord field)
    (valueWord : IsWord value)

include fieldWord valueWord

/-- The text that is read for a check of two words. -/
theorem cleaned_words :
    (cleaned (field ++ " = " ++ value)).toList =
      (Text.lowercase field).toList ++ ' ' :: '=' :: ' ' :: (Text.lowercase value).toList := by
  have text :
      (field ++ " = " ++ value).toList = field.toList ++ ' ' :: (['='] ++ ' ' :: value.toList) := by
    simp
  have begins := List.head?_eq_some_head fieldWord.nonempty
  have ends := List.getLast?_eq_some_getLast valueWord.nonempty
  have firstBare := fieldWord.bare _ (List.head_mem fieldWord.nonempty)
  have lastBare := valueWord.bare _ (List.getLast_mem valueWord.nonempty)
  rw [cleaned_spaced text rfl begins ends (ne_of_isBare firstBare).1 (ne_of_isBare lastBare).1]
  simp [Text.lowercase]

/-- A check of two words without `İ` stands for the words in lower case. -/
theorem compile_words
    (fieldUndotted : 'İ' ∉ field.toList)
    (valueUndotted : 'İ' ∉ value.toList) :
    compile (field ++ " = " ++ value) =
      .ok ⟨equalTo (Text.lowercase field) (Text.lowercase value), true⟩ := by
  have last :
      ∀ place,
        Pieces place (Text.lowercase value).toList
          [⟨.string, Text.lowercase value, place⟩] := by
    intro place
    rw [← List.append_nil (Text.lowercase value).toList]
    exact valueWord.pieces valueUndotted place detached_nil .done
  have apart : Detached (' ' :: '=' :: ' ' :: (Text.lowercase value).toList) :=
    detached_of_isBlank rfl
  have pieces := fieldWord.pieces fieldUndotted 0 apart (.operator (last _))
  rw [← cleaned_words fieldWord valueWord] at pieces
  have means :
      CheckMeans (Text.lowercase field) (Text.lowercase value) "="
        (equalTo (Text.lowercase field) (Text.lowercase value)) :=
    .equal
  refine compile_of_pieces pieces
    (DerivesChain.condition (DerivesTerm.chain ?_ "and") (Nat.zero_le _))
  exact .check rfl rfl rfl means

/-- A check of two words with an `İ` fails at a dot that lower case has put there. -/
theorem compile_words_of_dotted
    (dotted : 'İ' ∈ field.toList ∨ 'İ' ∈ value.toList) :
    ∃ offset, compile (field ++ " = " ++ value) = .error (.unexpectedChar '\u0307' offset) := by
  have read := cleaned_words fieldWord valueWord
  by_cases fieldDotted : 'İ' ∈ field.toList
  · rcases fieldWord.exists_breaks fieldDotted
        (' ' :: '=' :: ' ' :: (Text.lowercase value).toList) with
      ⟨taken, rest, whole, pieces, breaks⟩
    rcases pieces 0 with ⟨tokens, pieces⟩
    exact ⟨_, compile_eq_error_of_breaks (read.trans whole) pieces (breaks _)⟩
  · have valueDotted := dotted.resolve_left fieldDotted
    rcases valueWord.exists_breaks valueDotted [] with ⟨taken, rest, whole, pieces, breaks⟩
    rw [List.append_nil] at whole
    let place := 0 + Text.byteLength (Text.lowercase field).toList + 3
    rcases pieces place with ⟨tokens, pieces⟩
    have apart : Detached (' ' :: '=' :: ' ' :: taken) :=
      detached_of_isBlank rfl
    have begun := fieldWord.pieces fieldDotted 0 apart (.operator pieces)
    refine ⟨_, compile_eq_error_of_breaks ?_ begun (breaks _)⟩
    rw [read, whole]
    simp

/--
A check of two words accepts the row that has the second word under the first, if neither
holds an `İ`; if one does, the check is not compiled, because of a combining dot.
-/
theorem accepts_ownWords
    (single : '|' ∉ value.toList) :
    ('İ' ∉ field.toList ∧ 'İ' ∉ value.toList →
      ∃ filter,
        compile (field ++ " = " ++ value) = .ok filter ∧
          filter.accepts (.data (SortedMap.empty.insert field (.string value))) = true) ∧
      ('İ' ∈ field.toList ∨ 'İ' ∈ value.toList →
        ∃ offset,
          compile (field ++ " = " ++ value) =
            .error (.unexpectedChar '\u0307' offset)) := by
  refine ⟨?_, compile_words_of_dotted fieldWord valueWord⟩
  rintro ⟨fieldUndotted, valueUndotted⟩
  refine ⟨_, compile_words fieldWord valueWord fieldUndotted valueUndotted, ?_⟩
  let fields : Fields := SortedMap.empty.insert field (.string value)
  have member : (field, .string value) ∈ fields.entries := List.mem_singleton.mpr rfl
  have last : fields.IsLastOfCase field := by
    intro other among above
    rw [List.mem_singleton.mp among] at above
    exact absurd above (String.lt_irrefl field)
  have found := Fields.get?_lowercase_of_mem member last
  simp only [Json.Value.plainText] at found
  exact holds_equalTo_own found single

end Words

/-- Capitals at the end of a word, and one whose small letter is shorter, are no exception. -/
theorem accepts_ownWords_of_sigma_and_eszett :
    let field := "ΟΔΟΣ-K.9*"
    let value := "Straße_ẞ"
    IsWord field ∧ IsWord value ∧
      ∃ filter,
        compile (field ++ " = " ++ value) = .ok filter ∧
          filter.accepts (.data (SortedMap.empty.insert field (.string value))) = true := by
  intro field value
  have fieldWord : IsWord field := by decide +kernel
  have valueWord : IsWord value := by decide +kernel
  have single : '|' ∉ value.toList := by decide +kernel
  have undotted : 'İ' ∉ field.toList ∧ 'İ' ∉ value.toList := by decide +kernel
  exact ⟨fieldWord, valueWord, (accepts_ownWords fieldWord valueWord single).1 undotted⟩

/-- The letter `İ` is a word, and a check of it is not compiled. -/
theorem ownWords_fail_with_dot :
    IsWord "İ" ∧ IsWord "x" ∧
      compile "İ = x" = .error (.unexpectedChar '\u0307' 1) := by
  refine ⟨by decide +kernel, by decide +kernel, ?_⟩
  have whole : (cleaned "İ = x").toList = ['i'] ++ ['\u0307', ' ', '=', ' ', 'x'] := by
    decide +kernel
  have pieces := @Pieces.soleWord 'i' [] (List.forall_mem_singleton.mpr rfl) 0
  exact compile_eq_error_of_breaks whole pieces (breaks_of_dot _ _)

end LogRows.Filter
