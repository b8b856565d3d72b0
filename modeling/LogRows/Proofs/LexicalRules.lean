import LogRows.Proofs.Scanning

/-!
# The lexical rules of a condition

A condition is a row of pieces: blanks, brackets, operators, quoted strings and bare
words.  `Piece.Lawful` says which characters may make up a piece, and `Cut` that a text is
such a row, in which a bare word goes on as long as bare characters follow.  The tokens of
a condition are those of its pieces, blanks having none, each with the number of bytes in
front of it.

The scanner follows these rules exactly (`scan_characterized`).  A text that is no such
row has a longest beginning that is one, and the scanner reports what stands behind it: a
character that begins no piece, or a quote that is never closed (`Breaks`).
-/

namespace LogRows.Token

/-- A piece of a condition. -/
inductive Piece where
  | blank (character : Char)
  | bracket (character : Char)
  /-- A field operator of one or two characters. -/
  | operator (characters : List Char)
  | quoted (quote : Char) (body : List Char)
  /-- A bare word. -/
  | word (characters : List Char)

namespace Piece

/-- The characters of a piece. -/
def text : Piece → List Char
  | blank character => [character]
  | bracket character => [character]
  | operator characters => characters
  | quoted quote body => quote :: (body ++ [quote])
  | word characters => characters

/-- Which characters may make up a piece. -/
def Lawful : Piece → Prop
  | blank character => Text.isBlank character = true
  | bracket character => character = '(' ∨ character = ')'
  | operator characters => characters ∈ [['='], ['~'], [':'], ['!', '='], ['!', '~']]
  | quoted quote body => (quote = '\x27' ∨ quote = '\"') ∧ quote ∉ body
  | word characters =>
      characters ≠ [] ∧ ∀ character ∈ characters, isBare character = true

/-- Whether a piece is a bare word. -/
def isWord : Piece → Bool
  | word _ => true
  | _ => false

/-- The token of a piece, if it is not a blank. -/
def token? (offset : Nat) : Piece → Option Token
  | blank _ => none
  | bracket character =>
      some ⟨if character = '(' then .openBracket else .closeBracket,
        String.singleton character, offset⟩
  | operator characters => some ⟨.fieldOperator, String.ofList characters, offset⟩
  | quoted _ body => some ⟨.string, String.ofList body, offset⟩
  | word characters =>
      some ⟨if characters = "and".toList ∨ characters = "or".toList then
          .logicOperator
        else
          .string,
        String.ofList characters, offset⟩

/-- The tokens of pieces that follow each other from an offset on. -/
def tokens : (offset : Nat) → List Piece → List Token
  | _, [] => []
  | offset, piece :: rest =>
      (piece.token? offset).toList ++ tokens (offset + Text.byteLength piece.text) rest

end Piece

/-- How a text is cut into pieces; a bare word is as long as it can be. -/
inductive Cut : List Piece → List Char → Prop where
  | nothing : Cut [] []
  | piece
      {piece : Piece}
      {pieces : List Piece}
      {rest : List Char}
      (lawful : piece.Lawful)
      (maximal : piece.isWord = true → Detached rest)
      (more : Cut pieces rest) :
      Cut (piece :: pieces) (piece.text ++ rest)

/-- What the scanner reports of a text with an offset at whose beginning it cannot go on. -/
inductive Breaks (offset : Nat) : List Char → SyntaxError → Prop where
  /-- The character is of no class that a piece begins with. -/
  | unclassed
      {character : Char}
      {rest : List Char}
      (unblank : Text.isBlank character = false)
      (unmarked : character ∉ ['(', ')', '=', '~', ':', '!', '\x27', '\"'])
      (unbare : isBare character = false) :
      Breaks offset (character :: rest) (.unexpectedChar character offset)
  /-- A `!` that negates no operator. -/
  | lone
      {rest : List Char}
      (alone : ∀ next ∈ rest.head?, next ≠ '=' ∧ next ≠ '~') :
      Breaks offset ('!' :: rest) (.unexpectedChar '!' offset)
  /-- A quote that does not occur again. -/
  | unclosed
      {quote : Char}
      {rest : List Char}
      (quotes : quote = '\x27' ∨ quote = '\"')
      (outside : quote ∉ rest) :
      Breaks offset (quote :: rest) (.unterminatedString offset)

/-! ## Pieces and their tokens -/

section

variable
    {offset : Nat}
    {piece : Piece}
    {pieces : List Piece}
    {text rest : List Char}
    {tokens : List Token}

theorem isQuote_iff {quote : Char} :
    isQuote quote = true ↔ quote = '\x27' ∨ quote = '\"' := by
  rw [isQuote, Bool.or_eq_true, beq_iff_eq, beq_iff_eq]

theorem ofWord_eq (characters : List Char) (offset : Nat) :
    some (ofWord characters offset) = (Piece.word characters).token? offset := by
  have same (word : String) :
      String.ofList characters = word ↔ characters = word.toList := by
    rw [← String.toList_inj, String.toList_ofList]
  simp only [ofWord, Piece.token?, ← same, Bool.or_eq_true, decide_eq_true_eq]
  split <;> rfl

theorem Pieces.exists_cut (made : Pieces offset text tokens) :
    ∃ pieces, Cut pieces text ∧ tokens = Piece.tokens offset pieces := by
  induction made with
  | done => exact ⟨[], .nothing, rfl⟩
  | @blank offset character rest tokens blank more ih =>
      rcases ih with ⟨pieces, cut, rfl⟩
      exact ⟨.blank character :: pieces, .piece blank nofun cut, rfl⟩
  | @mark offset character kind rest tokens marks more ih =>
      rcases ih with ⟨pieces, cut, rfl⟩
      rcases eq_of_markKind? marks with ⟨bracket, rfl⟩ | ⟨bracket, rfl⟩ | ⟨operator, rfl⟩
      · subst bracket
        exact ⟨.bracket '(' :: pieces, .piece (.inl rfl) nofun cut, rfl⟩
      · subst bracket
        exact ⟨.bracket ')' :: pieces, .piece (.inr rfl) nofun cut, rfl⟩
      · refine ⟨.operator [character] :: pieces, .piece ?_ nofun cut, ?_⟩
        · rcases operator with rfl | rfl | rfl <;> simp [Piece.Lawful]
        · rcases operator with rfl | rfl | rfl <;> rfl
  | @negated offset character rest tokens negates more ih =>
      rcases ih with ⟨pieces, cut, rfl⟩
      refine ⟨.operator ['!', character] :: pieces, .piece ?_ nofun cut, ?_⟩
      · rcases negates with rfl | rfl <;> simp [Piece.Lawful]
      · rcases negates with rfl | rfl <;> rfl
  | @quoted offset quote body rest tokens quotes outside more ih =>
      rcases ih with ⟨pieces, cut, rfl⟩
      have lawful : (Piece.quoted quote body).Lawful := ⟨isQuote_iff.mp quotes, outside⟩
      have whole : quote :: (body ++ quote :: rest) = (Piece.quoted quote body).text ++ rest := by
        simp [Piece.text]
      refine ⟨.quoted quote body :: pieces, ?_, ?_⟩
      · rw [whole]
        exact .piece lawful nofun cut
      · rw [Piece.tokens, Piece.text, byteLength_quoted quotes]
        rfl
  | @word offset first others rest tokens bare detached more ih =>
      rcases ih with ⟨pieces, cut, rfl⟩
      refine ⟨.word (first :: others) :: pieces, ?_, ?_⟩
      · exact .piece ⟨List.cons_ne_nil _ _, bare⟩ (fun _ => detached) cut
      · rw [Piece.tokens, ← ofWord_eq]
        rfl

theorem Cut.toPieces
    (cut : Cut pieces text)
    (offset : Nat) :
    Pieces offset text (Piece.tokens offset pieces) := by
  induction cut generalizing offset with
  | nothing => exact .done
  | @piece piece pieces rest lawful maximal more ih =>
      cases piece with
      | blank character => exact .blank lawful (ih _)
      | bracket character =>
          rcases lawful with rfl | rfl
          · exact .mark rfl (ih _)
          · exact .mark rfl (ih _)
      | operator characters =>
          simp only [Piece.Lawful, List.mem_cons, List.not_mem_nil, or_false] at lawful
          rcases lawful with rfl | rfl | rfl | rfl | rfl
          · exact .mark rfl (ih _)
          · exact .mark rfl (ih _)
          · exact .mark rfl (ih _)
          · exact .negated (.inl rfl) (ih _)
          · exact .negated (.inr rfl) (ih _)
      | quoted quote body =>
          have made := ih (offset + Text.byteLength body + 2)
          have quotes := isQuote_iff.mpr lawful.1
          rw [Piece.tokens, Piece.text, byteLength_quoted quotes, List.cons_append,
            List.append_assoc]
          exact .quoted quotes lawful.2 made
      | word characters =>
          cases characters with
          | nil => exact absurd rfl lawful.1
          | cons first others =>
              rw [Piece.tokens, ← ofWord_eq]
              exact .word lawful.2 (maximal rfl) (ih _)

/-- The scanner cuts a text by the lexical rules. -/
theorem scanFrom_eq_ok_iff :
    scanFrom offset text = .ok tokens ↔
      ∃ pieces, Cut pieces text ∧ tokens = Piece.tokens offset pieces := by
  constructor
  · intro scanned
    exact (pieces_of_scanFrom scanned).exists_cut
  · rintro ⟨pieces, cut, rfl⟩
    exact (cut.toPieces offset).scanFrom

theorem Piece.Lawful.text_ne_nil (lawful : piece.Lawful) : piece.text ≠ [] := by
  cases piece with
  | blank | bracket | quoted => exact List.cons_ne_nil _ _
  | operator characters =>
      rintro empty
      simp [Lawful, show characters = [] from empty] at lawful
  | word characters => exact lawful.1

/-- Every piece takes at least one byte. -/
theorem Piece.Lawful.byteLength_pos (lawful : piece.Lawful) :
    0 < Text.byteLength piece.text := by
  cases characters : piece.text with
  | nil => exact absurd characters lawful.text_ne_nil
  | cons first others =>
      rw [Text.byteLength_cons]
      exact Nat.add_pos_left first.utf8Size_pos _

theorem Piece.offset_of_token?
    {token : Token}
    (made : piece.token? offset = some token) :
    token.offset = offset := by
  cases piece with
  | blank => cases made
  | bracket | operator | quoted | word =>
      cases made
      rfl

/-- Tokens stand behind each other, from the offset of the text on. -/
theorem Cut.offsets_increase
    (cut : Cut pieces text)
    (offset : Nat) :
    (∀ token ∈ Piece.tokens offset pieces, offset ≤ token.offset) ∧
      (Piece.tokens offset pieces).Pairwise fun token later => token.offset < later.offset := by
  induction cut generalizing offset with
  | nothing => exact ⟨nofun, .nil⟩
  | @piece piece pieces rest lawful maximal more ih =>
      rcases ih (offset + Text.byteLength piece.text) with ⟨behind, increase⟩
      have positive := lawful.byteLength_pos
      have later : ∀ token ∈ Piece.tokens (offset + Text.byteLength piece.text) pieces,
          offset < token.offset := by
        intro token member
        exact Nat.lt_of_lt_of_le (Nat.lt_add_of_pos_right positive) (behind token member)
      rw [Piece.tokens]
      cases made : piece.token? offset with
      | none => exact ⟨fun token member => Nat.le_of_lt (later token member), increase⟩
      | some first =>
          have place := Piece.offset_of_token? made
          constructor
          · intro token member
            rcases List.mem_cons.mp member with rfl | member
            · exact Nat.le_of_eq place.symm
            · exact Nat.le_of_lt (later token member)
          · refine .cons ?_ increase
            intro token member
            rw [place]
            exact later token member

/-! ## Faults -/

theorem eq_error_of_bind
    {scanned : Except SyntaxError (List Token)}
    {token : Token}
    {fault : SyntaxError}
    (failed : (do let later ← scanned; Except.ok (token :: later)) = .error fault) :
    scanned = .error fault := by
  cases scanned with
  | error other =>
      cases failed
      rfl
  | ok later => cases failed

theorem Detached.of_append (detached : Detached (text ++ rest)) : Detached text := by
  cases text with
  | nil => nofun
  | cons character text => exact detached

/-- What is scanned up to a fault are pieces, and behind them the scanner cannot go on. -/
theorem exists_breaks_of_scanFrom
    {fault : SyntaxError}
    (failed : scanFrom offset text = .error fault) :
    ∃ before after tokens,
      text = before ++ after ∧ Pieces offset before tokens ∧
        Breaks (offset + Text.byteLength before) after fault := by
  fun_induction scanFrom offset text
  case case1 => cases failed
  case case2 blank ih =>
    rcases ih failed with ⟨before, after, tokens, rfl, made, breaks⟩
    rw [Nat.add_assoc] at breaks
    exact ⟨_, after, tokens, rfl, .blank blank made, breaks⟩
  case case3 rest _ _ ih =>
    rcases ih (eq_error_of_bind failed) with ⟨before, after, tokens, rfl, made, breaks⟩
    rw [Nat.add_assoc] at breaks
    exact ⟨'(' :: before, after, _, rfl, .mark rfl made, breaks⟩
  case case4 rest _ _ _ ih =>
    rcases ih (eq_error_of_bind failed) with ⟨before, after, tokens, rfl, made, breaks⟩
    rw [Nat.add_assoc] at breaks
    exact ⟨')' :: before, after, _, rfl, .mark rfl made, breaks⟩
  case case5 character rest _ unopened unclosed operator ih =>
    rcases ih (eq_error_of_bind failed) with ⟨before, after, tokens, rfl, made, breaks⟩
    have marks : markKind? character = some .fieldOperator := by
      rw [markKind?, if_neg unopened, if_neg unclosed, if_pos operator]
    rw [← utf8Size_of_markKind? marks, Nat.add_assoc] at breaks
    exact ⟨character :: before, after, _, rfl, .mark marks made, breaks⟩
  case case6 next _ negates _ _ _ _ ih =>
    rcases ih (eq_error_of_bind failed) with ⟨before, after, tokens, rfl, made, breaks⟩
    have size : next.utf8Size = 1 := by
      rcases negates with rfl | rfl <;> rfl
    refine ⟨'!' :: next :: before, after, _, rfl, .negated negates made, ?_⟩
    rw [Text.byteLength_cons, Text.byteLength_cons, size, ← Nat.add_assoc, ← Nat.add_assoc]
    exact breaks
  case case7 next _ other _ _ _ _ =>
    cases failed
    refine ⟨[], _, [], rfl, .done, .lone ?_⟩
    rintro _ ⟨⟩
    exact not_or.mp other
  case case8 =>
    cases failed
    refine ⟨[], _, [], rfl, .done, .lone ?_⟩
    intro next impossible
    cases impossible
  case case9 offset quote rest _ _ _ _ _ quotes body closing left split ih =>
    rcases ih (eq_error_of_bind failed) with ⟨before, after, tokens, rfl, made, breaks⟩
    rcases eq_of_dropWhile_quote split with ⟨whole, outside⟩
    refine ⟨quote :: (body ++ quote :: before), after, _, ?_, .quoted quotes outside made, ?_⟩
    · rw [whole]
      simp [body]
    · rw [byteLength_quoted quotes, ← Nat.add_assoc, ← Nat.add_assoc]
      exact breaks
  case case10 offset quote rest _ _ _ _ _ quotes unended =>
    cases failed
    refine ⟨[], _, [], rfl, .done, .unclosed (isQuote_iff.mp quotes) ?_⟩
    intro member
    have whole : rest.takeWhile (· != quote) = rest := by
      rw [← List.append_nil (rest.takeWhile _), ← unended]
      exact List.takeWhile_append_dropWhile
    have other := List.all_eq_true.mp List.all_takeWhile quote (whole ▸ member)
    simp at other
  case case11 offset first rest _ _ _ _ _ _ bare word ih =>
    rcases ih (eq_error_of_bind failed) with ⟨before, after, tokens, whole, made, breaks⟩
    have apart := detached_dropWhile rest
    rw [whole] at apart
    refine ⟨first :: (rest.takeWhile isBare ++ before), after, _, ?_,
      .word (bare_takeWhile bare rest) apart.of_append made, ?_⟩
    · rw [List.cons_append, List.append_assoc, ← whole, List.takeWhile_append_dropWhile]
    · rw [← List.cons_append, Text.byteLength_append, ← Nat.add_assoc]
      exact breaks
  case case12 offset first rest unblank unopened unclosed operator negates unquoted unbare =>
    cases failed
    refine ⟨[], _, [], rfl, .done, .unclassed ?_ ?_ ?_⟩
    all_goals simp_all [isQuote_iff]

theorem Breaks.scanFrom
    {fault : SyntaxError}
    (breaks : Breaks offset text fault) :
    Token.scanFrom offset text = .error fault := by
  rw [Token.scanFrom.eq_def]
  cases breaks with
  | unclassed unblank unmarked unbare =>
      simp only [List.mem_cons, List.not_mem_nil, or_false, not_or] at unmarked
      simp [unblank, unmarked, unbare, isQuote]
  | @lone rest alone =>
      cases rest with
      | nil => rfl
      | cons next rest =>
          have other := alone next rfl
          simp only [other, or_self, if_false]
          rfl
  | @unclosed quote rest quotes outside =>
      have quotes := isQuote_iff.mpr quotes
      rcases ne_of_isQuote quotes with ⟨unblank, others⟩
      simp only [List.mem_cons, List.not_mem_nil, or_false, not_or] at others
      have goesOn : ∀ character ∈ rest, (character != quote) = true := by
        intro character member
        rw [bne_iff_ne]
        rintro rfl
        exact outside member
      have unended := @List.dropWhile_append_of_pos _ (· != quote) rest [] goesOn
      rw [List.append_nil, List.dropWhile_nil] at unended
      simp only [unblank, others, quotes, if_true, if_false, or_self, Bool.false_eq_true]
      split
      · next split => cases unended.symm.trans split
      · rfl

/-- Where the scanner cannot go on, no bare word goes on either. -/
theorem Breaks.detached
    {fault : SyntaxError}
    (breaks : Breaks offset text fault) :
    Detached text := by
  cases breaks with
  | unclassed unblank unmarked unbare =>
      rintro _ ⟨⟩
      exact unbare
  | lone alone =>
      rintro _ ⟨⟩
      rfl
  | unclosed quotes outside =>
      rintro _ ⟨⟩
      rcases quotes with rfl | rfl <;> rfl

/-- How a piece begins, and what that asks of its other characters. -/
theorem Piece.Lawful.begins (lawful : piece.Lawful) :
    ∃ first others, piece.text = first :: others ∧
      (Text.isBlank first = true ∨
        first ∈ ['(', ')', '=', '~', ':'] ∨
        (first = '!' ∧ (others = ['='] ∨ others = ['~'])) ∨
        ((first = '\x27' ∨ first = '\"') ∧ first ∈ others) ∨
        isBare first = true) := by
  cases piece with
  | blank character => exact ⟨character, [], rfl, .inl lawful⟩
  | bracket character =>
      refine ⟨character, [], rfl, .inr (.inl ?_)⟩
      rcases lawful with rfl | rfl <;> decide
  | operator characters =>
      simp only [Lawful, List.mem_cons, List.not_mem_nil, or_false] at lawful
      rcases lawful with rfl | rfl | rfl | rfl | rfl
      · exact ⟨'=', [], rfl, .inr (.inl (by decide))⟩
      · exact ⟨'~', [], rfl, .inr (.inl (by decide))⟩
      · exact ⟨':', [], rfl, .inr (.inl (by decide))⟩
      · exact ⟨'!', ['='], rfl, .inr (.inr (.inl ⟨rfl, .inl rfl⟩))⟩
      · exact ⟨'!', ['~'], rfl, .inr (.inr (.inl ⟨rfl, .inr rfl⟩))⟩
  | quoted quote body =>
      refine ⟨quote, body ++ [quote], rfl, .inr (.inr (.inr (.inl ⟨lawful.1, ?_⟩)))⟩
      exact List.mem_append_right body List.mem_cons_self
  | word characters =>
      cases characters with
      | nil => exact absurd rfl lawful.1
      | cons first others =>
          exact ⟨first, others, rfl, .inr (.inr (.inr (.inr (lawful.2 _ List.mem_cons_self))))⟩

/-- No piece begins where the scanner cannot go on. -/
theorem Breaks.not_isPrefix
    {fault : SyntaxError}
    (breaks : Breaks offset text fault)
    (lawful : piece.Lawful) :
    ¬ piece.text <+: text := by
  rintro ⟨rest, whole⟩
  rcases lawful.begins with ⟨first, others, begun, begins⟩
  rw [begun] at whole
  cases breaks with
  | unclassed unblank unmarked unbare =>
      cases whole
      simp only [List.mem_cons, List.not_mem_nil, or_false, not_or] at unmarked
      simp [unblank, unmarked, unbare] at begins
  | lone alone =>
      cases whole
      rcases begins with blank | mark | ⟨_, rfl | rfl⟩ | quoted | bare
      · cases blank
      · simp at mark
      · exact absurd rfl (alone '=' rfl).1
      · exact absurd rfl (alone '~' rfl).2
      · simp at quoted
      · cases bare
  | unclosed quotes outside =>
      cases whole
      have apart : first ∉ others := fun member => outside (List.mem_append_left rest member)
      rcases quotes with rfl | rfl
      all_goals
        rcases begins with blank | mark | negation | ⟨_, member⟩ | bare
        · cases blank
        · simp at mark
        · simp at negation
        · exact apart member
        · cases bare

end

/--
The scanner cuts a condition by the lexical rules.  It succeeds exactly for a condition that
is a row of pieces, with their tokens, whose offsets increase; and it fails exactly for one
that has a beginning which it scans and behind which no piece begins, with the fault that
stands there.
-/
theorem scan_characterized (condition : String) :
    (∀ tokens,
      scan condition = .ok tokens ↔
        ∃ pieces, Cut pieces condition.toList ∧ tokens = Piece.tokens 0 pieces) ∧
    (∀ tokens,
      scan condition = .ok tokens →
        tokens.Pairwise fun token later => token.offset < later.offset) ∧
    (∀ fault,
      scan condition = .error fault ↔
        ∃ before after tokens,
          condition.toList = before ++ after ∧
            scan (String.ofList before) = .ok tokens ∧
            Breaks (Text.byteLength before) after fault) ∧
    (∀ offset after fault,
      Breaks offset after fault →
        fault.offset = offset ∧ ∀ piece : Piece, piece.Lawful → ¬ piece.text <+: after) := by
  refine ⟨fun tokens => scanFrom_eq_ok_iff, ?_, ?_, ?_⟩
  · intro tokens scanned
    rcases scanFrom_eq_ok_iff.mp scanned with ⟨pieces, cut, rfl⟩
    exact (cut.offsets_increase 0).2
  · intro fault
    constructor
    · intro failed
      rcases exists_breaks_of_scanFrom failed with ⟨before, after, tokens, whole, made, breaks⟩
      rw [Nat.zero_add] at breaks
      refine ⟨before, after, tokens, whole, ?_, breaks⟩
      rw [scan, String.toList_ofList]
      exact made.scanFrom
    · rintro ⟨before, after, tokens, whole, scanned, breaks⟩
      rw [scan, String.toList_ofList] at scanned
      rw [scan, whole, (pieces_of_scanFrom scanned).scanFrom_append breaks.detached,
        Nat.zero_add, breaks.scanFrom]
      rfl
  · intro offset after fault breaks
    refine ⟨?_, fun piece lawful => breaks.not_isPrefix lawful⟩
    cases breaks <;> rfl

end LogRows.Token
