import LogRows.Proofs.ConditionFaults
import LogRows.Proofs.FilterComposition
import LogRows.Proofs.LexicalRules
import LogRows.Proofs.Text.SmallLetters

/-!
# The column of a fault

The offset of a fault counts bytes of the trimmed condition in lower case.  It is the end of
that text, or the place of a token or of a character that begins none.  So it stands in front
of a character there (`isBoundary_of_compile`), which is in the lower-case form of one
character of the condition (`HoldsByte`).

The caret is set by the same number of bytes, but under the condition as it was given.  It is
in the column of the character at fault if the characters in front of this one are as long
as their forms (`caret_column`).  A capital whose small letter takes fewer bytes pulls it to
the left (`caret_left_of_fault`).
-/

namespace LogRows

namespace Text

/-! ## Bytes of characters -/

/-- Whether some number of bytes is that of a beginning of a text. -/
def IsBoundary (text : List Char) (offset : Nat) : Prop :=
  ∃ before after, text = before ++ after ∧ byteLength before = offset

theorem utf8ByteSize_ofList (text : List Char) :
    (String.ofList text).utf8ByteSize = byteLength text := by
  induction text with
  | nil => rfl
  | cons character text ih =>
      rw [String.ofList_cons, String.utf8ByteSize_append, String.utf8ByteSize_singleton, ih,
        byteLength_cons]

theorem byteLength_toList (text : String) : byteLength text.toList = text.utf8ByteSize := by
  rw [← utf8ByteSize_ofList, String.ofList_toList]

section Boundaries

variable
    {text front : List Char}
    {offset : Nat}

theorem isBoundary_zero : IsBoundary text 0 :=
  ⟨[], text, rfl, rfl⟩

theorem isBoundary_end : IsBoundary text (byteLength text) :=
  ⟨text, [], (List.append_nil text).symm, rfl⟩

theorem IsBoundary.append
    (boundary : IsBoundary text offset)
    (front : List Char) :
    IsBoundary (front ++ text) (byteLength front + offset) := by
  rcases boundary with ⟨before, after, rfl, rfl⟩
  exact ⟨front ++ before, after, (List.append_assoc _ _ _).symm, byteLength_append _ _⟩

theorem IsBoundary.le (boundary : IsBoundary text offset) : offset ≤ byteLength text := by
  rcases boundary with ⟨before, after, rfl, rfl⟩
  rw [byteLength_append]
  exact Nat.le_add_right _ _

theorem byteLength_le_of_isPrefix (begins : front <+: text) :
    byteLength front ≤ byteLength text := by
  rcases begins with ⟨rest, rfl⟩
  rw [byteLength_append]
  exact Nat.le_add_right _ _

/-- No boundary lies inside of a character. -/
theorem IsBoundary.eq_or_le
    {character : Char}
    {rest : List Char}
    (boundary : IsBoundary (front ++ character :: rest) offset)
    (behind : byteLength front ≤ offset) :
    offset = byteLength front ∨ byteLength front + character.utf8Size ≤ offset := by
  rcases boundary with ⟨before, after, cut, rfl⟩
  have begins : before <+: front ++ character :: rest := ⟨after, cut.symm⟩
  rcases Nat.lt_or_ge front.length before.length with longer | short
  · right
    have around : front ++ [character] <+: before := by
      apply List.prefix_of_prefix_length_le _ begins
      · rw [List.length_append, List.length_singleton]
        exact longer
      · exact ⟨rest, by simp⟩
    have bytes := byteLength_le_of_isPrefix around
    simpa [byteLength_append] using bytes
  · left
    have inside : before <+: front :=
      List.prefix_of_prefix_length_le begins (List.prefix_append _ _) short
    exact Nat.le_antisymm (byteLength_le_of_isPrefix inside) behind

end Boundaries

/-! ## Bytes of forms -/

/--
Whether a byte of some forms, written one after the other, is in the form with an index.
The end of all forms has the index behind the last one.
-/
def HoldsByte (forms : List (List Char)) (offset index : Nat) : Prop :=
  (byteLength (forms.take index).flatten ≤ offset ∧
      offset < byteLength (forms.take (index + 1)).flatten) ∨
    (index = forms.length ∧ offset = byteLength forms.flatten)

instance
    (forms : List (List Char))
    (offset index : Nat) :
    Decidable (HoldsByte forms offset index) :=
  inferInstanceAs (Decidable (_ ∨ _))

section Forms

variable
    {forms : List (List Char)}
    {offset index other : Nat}

theorem byteLength_take_mono (le : index ≤ other) :
    byteLength (forms.take index).flatten ≤ byteLength (forms.take other).flatten := by
  rcases List.take_prefix_take_left le with ⟨rest, whole⟩
  rw [← whole, List.flatten_append]
  exact byteLength_le_of_isPrefix (List.prefix_append _ _)

theorem byteLength_take_le :
    byteLength (forms.take index).flatten ≤ byteLength forms.flatten := by
  rcases List.take_prefix index forms with ⟨rest, whole⟩
  have bytes : byteLength forms.flatten =
      byteLength (forms.take index).flatten + byteLength rest.flatten := by
    rw [← byteLength_append, ← List.flatten_append, whole]
  omega

theorem HoldsByte.le (holds : HoldsByte forms offset index) : index ≤ forms.length := by
  rcases holds with ⟨first, last⟩ | ⟨rfl, _⟩
  · refine Nat.le_of_not_lt fun beyond => ?_
    rw [List.take_of_length_le (Nat.le_of_lt beyond),
      List.take_of_length_le (Nat.le_succ_of_le (Nat.le_of_lt beyond))] at *
    omega
  · exact Nat.le_refl _

theorem HoldsByte.not_lt
    (holds : HoldsByte forms offset index)
    (otherHolds : HoldsByte forms offset other) :
    ¬ index < other := by
  intro before
  have inside : offset < byteLength (forms.take (index + 1)).flatten := by
    rcases holds with ⟨_, last⟩ | ⟨rfl, _⟩
    · exact last
    · exact absurd otherHolds.le (Nat.not_le_of_lt before)
  rcases otherHolds with ⟨first, _⟩ | ⟨_, atEnd⟩
  · have bytes : byteLength (forms.take (index + 1)).flatten ≤
        byteLength (forms.take other).flatten :=
      byteLength_take_mono before
    omega
  · have bytes := @byteLength_take_le forms (index + 1)
    omega

/-- A byte is in one form only. -/
theorem HoldsByte.unique
    (holds : HoldsByte forms offset index)
    (otherHolds : HoldsByte forms offset other) :
    other = index :=
  Nat.le_antisymm
    (Nat.le_of_not_lt (holds.not_lt otherHolds))
    (Nat.le_of_not_lt (otherHolds.not_lt holds))

theorem exists_holdsByte (inside : offset ≤ byteLength forms.flatten) :
    ∃ index, HoldsByte forms offset index := by
  induction forms generalizing offset with
  | nil => exact ⟨0, .inr ⟨rfl, Nat.le_zero.mp inside⟩⟩
  | cons form forms ih =>
      by_cases here : offset < byteLength form
      · refine ⟨0, .inl ⟨Nat.zero_le _, ?_⟩⟩
        simpa using here
      · rw [List.flatten_cons, byteLength_append] at inside
        rcases @ih (offset - byteLength form) (by omega) with ⟨index, within | ⟨all, atEnd⟩⟩
        · refine ⟨index + 1, .inl ?_⟩
          simp only [List.take_succ_cons, List.flatten_cons, byteLength_append]
          omega
        · refine ⟨index + 1, .inr ⟨by rw [all, List.length_cons], ?_⟩⟩
          rw [List.flatten_cons, byteLength_append]
          omega

end Forms

end Text

/-! ## The offset of a fault -/

namespace Token

section

variable
    {text : List Char}
    {piece : Piece}
    {pieces : List Piece}
    {token : Token}

/-- A token has the place of its first character. -/
theorem Cut.exists_isBoundary
    (cut : Cut pieces text)
    {offset : Nat}
    (member : token ∈ Piece.tokens offset pieces) :
    ∃ place, Text.IsBoundary text place ∧ token.offset = offset + place := by
  induction cut generalizing offset with
  | nothing => cases member
  | @piece piece pieces rest lawful maximal more ih =>
      rw [Piece.tokens] at member
      rcases List.mem_append.mp member with here | later
      · exact ⟨0, Text.isBoundary_zero, Piece.offset_of_token? (Option.mem_toList.mp here)⟩
      · rcases ih later with ⟨place, boundary, same⟩
        exact ⟨_, boundary.append piece.text, by rw [same, Nat.add_assoc]⟩

theorem Piece.Lawful.known
    (lawful : piece.Lawful)
    {offset : Nat}
    (made : piece.token? offset = some token)
    (kind : token.kind = .fieldOperator) :
    token.lexeme ∈ Condition.checkOperators := by
  cases piece with
  | operator characters =>
      cases made
      simp only [Piece.Lawful, List.mem_cons, List.not_mem_nil, or_false] at lawful
      rcases lawful with rfl | rfl | rfl | rfl | rfl <;> simp [Condition.checkOperators]
  | blank => cases made
  | quoted =>
      cases made
      cases kind
  | bracket | word =>
      cases made
      dsimp only at kind
      split at kind <;> cases kind

/-- Field operators that were scanned stand for checks. -/
theorem Cut.checksKnown
    (cut : Cut pieces text)
    (offset : Nat) :
    Condition.ChecksKnown (Piece.tokens offset pieces) := by
  induction cut generalizing offset with
  | nothing => nofun
  | @piece piece pieces rest lawful maximal more ih =>
      intro token member
      rw [Piece.tokens] at member
      rcases List.mem_append.mp member with here | later
      · exact lawful.known (Option.mem_toList.mp here)
      · exact ih _ token later

end

end Token

namespace Condition

/-- Only tokens open brackets. -/
theorem mem_unclosed
    {offset : Nat}
    {outer : List Nat}
    {tokens : List Token}
    (isOpen : offset ∈ unclosed outer tokens) :
    offset ∈ outer ∨ ∃ token ∈ tokens, token.offset = offset := by
  induction tokens generalizing outer with
  | nil => exact .inl isOpen
  | cons token tokens ih =>
      have later : ∀ {outer},
          offset ∈ unclosed outer tokens →
            offset ∈ outer ∨ ∃ other ∈ token :: tokens, other.offset = offset := by
        intro outer isOpen
        rcases ih isOpen with before | ⟨other, member, same⟩
        · exact .inl before
        · exact .inr ⟨other, List.mem_cons_of_mem _ member, same⟩
      rw [unclosed] at isOpen
      split at isOpen
      · rcases later isOpen with before | found
        · rcases List.mem_cons.mp before with rfl | before
          · exact .inr ⟨token, List.mem_cons_self, rfl⟩
          · exact .inl before
        · exact .inr found
      · exact (later isOpen).imp_left List.mem_of_mem_tail
      · exact later isOpen

/-- A fault of tokens is at their end or at one of them. -/
theorem offset_eq_of_ofTokens
    {tokens : List Token}
    {inputEnd : Nat}
    {fault : SyntaxError}
    (known : ChecksKnown tokens)
    (failed : ofTokens tokens inputEnd = .error fault) :
    fault.offset = inputEnd ∨ ∃ token ∈ tokens, token.offset = fault.offset := by
  cases failsAt_of_ofTokens known failed with
  | atEnd => exact .inl rfl
  | inBracket _ innermost =>
      have isOpen := List.mem_of_mem_head? (innermost [])
      rcases mem_unclosed isOpen with before | found
      · cases before
      · exact .inr found
  | atToken cut _ offset =>
      refine .inr ⟨_, ?_, offset.symm⟩
      rw [cut]
      exact List.mem_append_right _ List.mem_cons_self

end Condition

namespace Filter

open Token

/-- A fault is at the end of the text that is read, or in front of one of its characters. -/
theorem isBoundary_of_compile
    {condition : String}
    {fault : SyntaxError}
    (failed : compile condition = .error fault) :
    Text.IsBoundary (cleaned condition).toList fault.offset := by
  rcases compile_eq_error failed with unscanned | ⟨tokens, scanned, unparsed⟩
  · rcases exists_breaks_of_scanFrom unscanned with ⟨before, after, _, whole, _, breaks⟩
    refine ⟨before, after, whole, ?_⟩
    rw [Nat.zero_add] at breaks
    cases breaks <;> rfl
  · rw [Token.scan] at scanned
    rcases scanFrom_eq_ok_iff.mp scanned with ⟨pieces, cut, rfl⟩
    rcases Condition.offset_eq_of_ofTokens (cut.checksKnown 0) unparsed with
      atEnd | ⟨token, member, same⟩
    · rw [atEnd, ← Text.byteLength_toList]
      exact Text.isBoundary_end
    · rcases cut.exists_isBoundary member with ⟨place, boundary, offset⟩
      rw [← same, offset, Nat.zero_add]
      exact boundary

end Filter

/-! ## The caret -/

namespace SyntaxError

/-- A text, and under it a caret in a column. -/
def withCaret (shown : List Char) (column : Nat) : String :=
  String.ofList (shown ++ ['\n'] ++ List.replicate column ' ' ++ ['^'])

section Columns

variable
    {text : List Char}
    {offset position index : Nat}

theorem charactersBefore_le_length :
    charactersBefore offset position text ≤ text.length := by
  induction text generalizing position with
  | nil => exact Nat.le_refl _
  | cons character text ih =>
      rw [charactersBefore]
      split
      · exact Nat.succ_le_succ ih
      · exact Nat.zero_le _

theorem charactersBefore_le (reached : offset ≤ position + Text.byteLength (text.take index)) :
    charactersBefore offset position text ≤ index := by
  induction text generalizing position index with
  | nil => exact Nat.zero_le _
  | cons character text ih =>
      rw [charactersBefore]
      split
      case isFalse => exact Nat.zero_le _
      case isTrue before =>
        cases index with
        | zero =>
            rw [List.take_zero, Text.byteLength_nil] at reached
            omega
        | succ index =>
            rw [List.take_succ_cons, Text.byteLength_cons, ← Nat.add_assoc] at reached
            exact Nat.succ_le_succ (ih reached)

theorem le_charactersBefore
    (short : index ≤ text.length)
    (passed : position + Text.byteLength (text.take index) ≤ offset) :
    index ≤ charactersBefore offset position text := by
  induction text generalizing position index with
  | nil => exact short
  | cons character text ih =>
      cases index with
      | zero => exact Nat.zero_le _
      | succ index =>
          rw [List.take_succ_cons, Text.byteLength_cons, ← Nat.add_assoc] at passed
          have positive := character.utf8Size_pos
          rw [charactersBefore, if_pos (by omega)]
          exact Nat.succ_le_succ (ih (Nat.le_of_succ_le_succ short) passed)

end Columns

/-- The form with an index is that of the character with the index, which is one character. -/
theorem exists_form_of_lt
    {before text : List Char}
    {index : Nat}
    (inside : index < text.length)
    (undotted : text[index]? ≠ some 'İ') :
    ∃ letter, (Text.lowercaseForms before text)[index]? = some [letter] := by
  induction text generalizing before index with
  | nil => cases inside
  | cons character text ih =>
      rw [Text.lowercaseForms]
      cases index with
      | zero =>
          rcases Text.lowercaseForm_cases before character text with
            same | ⟨rfl, _⟩ | ⟨small, _, form⟩
          · exact ⟨character, congrArg some same⟩
          · exact absurd rfl undotted
          · exact ⟨small, congrArg some form⟩
      | succ index => exact ih (Nat.lt_of_succ_lt_succ inside) undotted

/-- In a form that is one character there is only one boundary. -/
theorem offset_eq_of_holdsByte
    {text : List Char}
    {offset index : Nat}
    (holds : Text.HoldsByte (Text.lowercaseForms [] text) offset index)
    (boundary : Text.IsBoundary (Text.lowercaseAfter [] text) offset)
    (inside : index < text.length)
    (undotted : text[index]? ≠ some 'İ') :
    offset = Text.byteLength ((Text.lowercaseForms [] text).take index).flatten := by
  rcases holds with ⟨first, last⟩ | ⟨rfl, _⟩
  · rcases @exists_form_of_lt [] _ _ inside undotted with ⟨letter, found⟩
    have upTo :
        ((Text.lowercaseForms [] text).take (index + 1)).flatten =
          ((Text.lowercaseForms [] text).take index).flatten ++ [letter] := by
      rw [List.take_add_one, found]
      simp
    have whole :
        Text.lowercaseAfter [] text =
          ((Text.lowercaseForms [] text).take index).flatten ++
            letter :: ((Text.lowercaseForms [] text).drop (index + 1)).flatten := by
      rw [← Text.flatten_lowercaseForms, List.append_cons, ← upTo, ← List.flatten_append,
        List.take_append_drop]
    rw [upTo, Text.byteLength_append, Text.byteLength_cons, Text.byteLength_nil] at last
    rw [whole] at boundary
    rcases boundary.eq_or_le first with same | beyond
    · exact same
    · omega
  · rw [Text.length_lowercaseForms] at inside
    exact absurd inside (Nat.lt_irrefl _)

/--
A fault is in the lower-case form of one character of the trimmed condition, or at the end.
The caret is not on the left of that character if those in front of it take no more bytes than
their forms, and not on the right of it if they take no fewer, unless the character is an `İ`.
So it stands under the fault if they take the same number of bytes.
-/
theorem caret_column
    {condition : String}
    {fault : SyntaxError}
    (failed : Filter.compile condition = .error fault) :
    let shown := Text.trim condition.toList
    let forms := Text.lowercaseForms [] shown
    ∃ index column,
      (∀ other, Text.HoldsByte forms fault.offset other ↔ other = index) ∧
        fault.pointer condition = withCaret shown column ∧
        (Text.byteLength (shown.take index) ≤ Text.byteLength (forms.take index).flatten →
          index ≤ column) ∧
        (Text.byteLength (forms.take index).flatten ≤ Text.byteLength (shown.take index) →
          shown[index]? ≠ some 'İ' → column ≤ index) := by
  intro shown forms
  have boundary := Filter.isBoundary_of_compile failed
  rw [Filter.cleaned, Text.lowercase, String.toList_ofList, String.toList_ofList] at boundary
  have inside : fault.offset ≤ Text.byteLength forms.flatten := by
    rw [Text.flatten_lowercaseForms]
    exact boundary.le
  rcases Text.exists_holdsByte inside with ⟨index, holds⟩
  have length : forms.length = shown.length := Text.length_lowercaseForms [] shown
  have short : index ≤ shown.length := length ▸ holds.le
  refine ⟨index, charactersBefore fault.offset 0 shown, ?_, rfl, ?_, ?_⟩
  · exact fun other => ⟨holds.unique, fun same => same ▸ holds⟩
  · intro grown
    apply le_charactersBefore short
    rw [Nat.zero_add]
    refine Nat.le_trans grown ?_
    rcases holds with ⟨first, _⟩ | ⟨_, atEnd⟩
    · exact first
    · rw [atEnd]
      exact Text.byteLength_take_le
  · intro shrunk undotted
    rcases Nat.lt_or_eq_of_le short with before | rfl
    · apply charactersBefore_le
      rw [Nat.zero_add, offset_eq_of_holdsByte holds boundary before undotted]
      exact shrunk
    · exact charactersBefore_le_length

/-- Capitals whose small letters are as long leave the caret under the fault. -/
theorem caret_column_of_umlauts :
    let condition := "ÄÖ = Straße)"
    let forms := Text.lowercaseForms [] (Text.trim condition.toList)
    let fault := SyntaxError.unmatchedCloseBracket 14
    Filter.compile condition = .error fault ∧
      Text.HoldsByte forms 14 11 ∧
      fault.pointer condition = withCaret (Text.trim condition.toList) 11 := by
  intro condition forms fault
  have failed : Filter.compile condition = .error fault := by decide +kernel
  have holds : Text.HoldsByte forms 14 11 := by decide +kernel
  rcases caret_column failed with ⟨index, column, only, drawn, grown, shrunk⟩
  obtain rfl := (only 11).mp holds
  have right := grown (by decide +kernel)
  have left := shrunk (by decide +kernel) (by decide +kernel)
  obtain rfl := Nat.le_antisymm left right
  exact ⟨failed, holds, drawn⟩

/-- Behind a capital whose small letter is shorter, the caret is on the left of the fault. -/
theorem caret_left_of_fault :
    let condition := "GROẞE = x)"
    let forms := Text.lowercaseForms [] (Text.trim condition.toList)
    let fault := SyntaxError.unmatchedCloseBracket 10
    Filter.compile condition = .error fault ∧
      Text.HoldsByte forms 10 9 ∧
      fault.pointer condition = withCaret (Text.trim condition.toList) 8 ∧
      fault.pointer condition ≠ withCaret (Text.trim condition.toList) 9 := by
  decide +kernel

end SyntaxError

end LogRows
