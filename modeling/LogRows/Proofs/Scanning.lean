import LogRows.Condition.Token
import LogRows.Proofs.Text.Lowercase

/-!
# The pieces of a condition

The lexical rules are said here without a scanner: a text is a sequence of blanks,
marks, negated marks, quoted strings and bare words, and a bare word ends where no
bare character follows.  `Token.scanFrom` accepts exactly the texts that are such a
sequence (`pieces_of_scanFrom` and `Pieces.scanFrom`).

A text that is cut into pieces stays so wherever it stands (`Pieces.moved`) and
whatever is put behind it, unless that goes on with its last word
(`Pieces.append`).
-/

namespace LogRows.Token

/-- The kind of the token that a character is by itself. -/
def markKind? (character : Char) : Option Kind :=
  if character = '(' then
    some .openBracket
  else if character = ')' then
    some .closeBracket
  else if character = '=' ∨ character = '~' ∨ character = ':' then
    some .fieldOperator
  else
    none

/-- Whether a text does not go on with a bare word that ends before it. -/
def Detached (text : List Char) : Prop :=
  ∀ character ∈ text.head?, isBare character = false

/-- The pieces of a text whose first character has an offset, and their tokens. -/
inductive Pieces : Nat → List Char → List Token → Prop where
  | done
      {offset : Nat} :
      Pieces offset [] []
  | blank
      {offset : Nat}
      {character : Char}
      {rest : List Char}
      {tokens : List Token}
      (blank : Text.isBlank character = true)
      (more : Pieces (offset + character.utf8Size) rest tokens) :
      Pieces offset (character :: rest) tokens
  | mark
      {offset : Nat}
      {character : Char}
      {kind : Kind}
      {rest : List Char}
      {tokens : List Token}
      (marks : markKind? character = some kind)
      (more : Pieces (offset + 1) rest tokens) :
      Pieces offset (character :: rest)
        (⟨kind, String.singleton character, offset⟩ :: tokens)
  | negated
      {offset : Nat}
      {character : Char}
      {rest : List Char}
      {tokens : List Token}
      (negates : character = '=' ∨ character = '~')
      (more : Pieces (offset + 2) rest tokens) :
      Pieces offset ('!' :: character :: rest)
        (⟨.fieldOperator, String.ofList ['!', character], offset⟩ :: tokens)
  | quoted
      {offset : Nat}
      {quote : Char}
      {body rest : List Char}
      {tokens : List Token}
      (quotes : isQuote quote = true)
      (outside : quote ∉ body)
      (more : Pieces (offset + Text.byteLength body + 2) rest tokens) :
      Pieces offset (quote :: (body ++ quote :: rest))
        (⟨.string, String.ofList body, offset⟩ :: tokens)
  | word
      {offset : Nat}
      {first : Char}
      {others rest : List Char}
      {tokens : List Token}
      (bare : ∀ character ∈ first :: others, isBare character = true)
      (detached : Detached rest)
      (more : Pieces (offset + Text.byteLength (first :: others)) rest tokens) :
      Pieces offset (first :: (others ++ rest)) (ofWord (first :: others) offset :: tokens)

/-- The token that stands further behind. -/
def moved (distance : Nat) (token : Token) : Token :=
  { token with offset := token.offset + distance }

/-! ## Classes of characters -/

/-- No bare word holds a blank. -/
theorem isBare_of_isBlank
    {character : Char}
    (blank : Text.isBlank character = true) :
    isBare character = false := by
  have unlettered := Text.isAlphanumeric_of_isBlank blank
  cases bare : isBare character with
  | false => rfl
  | true =>
      simp only [isBare, unlettered, Bool.or_eq_true, beq_iff_eq, Bool.false_eq_true,
        false_or] at bare
      rcases bare with (((rfl | rfl) | rfl) | rfl) | rfl <;> cases blank

theorem detached_of_isBlank
    {character : Char}
    {rest : List Char}
    (blank : Text.isBlank character = true) :
    Detached (character :: rest) := by
  rintro first ⟨⟩
  exact isBare_of_isBlank blank

theorem eq_of_markKind?
    {character : Char}
    {kind : Kind}
    (marks : markKind? character = some kind) :
    (character = '(' ∧ kind = .openBracket) ∨
      (character = ')' ∧ kind = .closeBracket) ∨
      ((character = '=' ∨ character = '~' ∨ character = ':') ∧ kind = .fieldOperator) := by
  unfold markKind? at marks
  split at marks
  case isTrue equal =>
    cases marks
    exact .inl ⟨equal, rfl⟩
  case isFalse =>
    split at marks
    case isTrue equal =>
      cases marks
      exact .inr (.inl ⟨equal, rfl⟩)
    case isFalse =>
      split at marks
      case isTrue equal =>
        cases marks
        exact .inr (.inr ⟨equal, rfl⟩)
      case isFalse => cases marks

/-! ## What is scanned is a sequence of pieces -/

theorem cons_of_bind_eq_ok
    {scanned : Except SyntaxError (List Token)}
    {token : Token}
    {tokens : List Token}
    (read : (do let later ← scanned; Except.ok (token :: later)) = .ok tokens) :
    ∃ later, scanned = .ok later ∧ tokens = token :: later := by
  cases scanned with
  | error fault => cases read
  | ok later =>
      cases read
      exact ⟨later, rfl, rfl⟩

/-- The first quote of the opening kind closes a quoted text. -/
theorem eq_of_dropWhile_quote
    {quote closing : Char}
    {rest after : List Char}
    (split : rest.dropWhile (· != quote) = closing :: after) :
    rest = rest.takeWhile (· != quote) ++ quote :: after ∧
      quote ∉ rest.takeWhile (· != quote) := by
  have closes : closing = quote := by
    have stops := List.head?_dropWhile_not (· != quote) rest
    rw [split] at stops
    simpa using stops
  constructor
  · rw [← closes, ← split, closes]
    exact List.takeWhile_append_dropWhile.symm
  · intro member
    have other := List.all_eq_true.mp List.all_takeWhile quote member
    simp at other

theorem detached_dropWhile (rest : List Char) : Detached (rest.dropWhile isBare) := by
  intro next follows
  have stops := List.head?_dropWhile_not isBare rest
  rw [Option.mem_def] at follows
  rw [follows] at stops
  simpa using stops

theorem bare_takeWhile
    {first : Char}
    (bare : isBare first = true)
    (rest : List Char) :
    ∀ character ∈ first :: rest.takeWhile isBare, isBare character = true := by
  rw [List.forall_mem_cons]
  exact ⟨bare, List.all_eq_true.mp List.all_takeWhile⟩

theorem pieces_of_scanFrom
    {offset : Nat}
    {text : List Char}
    {tokens : List Token}
    (scanned : scanFrom offset text = .ok tokens) :
    Pieces offset text tokens := by
  fun_induction scanFrom offset text generalizing tokens
  case case1 =>
    cases scanned
    exact .done
  case case2 blank ih => exact .blank blank (ih scanned)
  case case3 ih | case4 ih =>
    rcases cons_of_bind_eq_ok scanned with ⟨later, read, rfl⟩
    exact .mark rfl (ih read)
  case case5 unopened unclosed operator ih =>
    rcases cons_of_bind_eq_ok scanned with ⟨later, read, rfl⟩
    refine .mark ?_ (ih read)
    simp [markKind?, unopened, unclosed, operator]
  case case6 negates _ _ _ _ ih =>
    rcases cons_of_bind_eq_ok scanned with ⟨later, read, rfl⟩
    exact .negated negates (ih read)
  case case9 offset quote rest _ _ _ _ _ quotes body closing after split ih =>
    rcases cons_of_bind_eq_ok scanned with ⟨later, read, rfl⟩
    rcases eq_of_dropWhile_quote split with ⟨whole, outside⟩
    rw [whole]
    exact .quoted quotes outside (ih read)
  case case11 offset first rest _ _ _ _ _ _ bare word ih =>
    rcases cons_of_bind_eq_ok scanned with ⟨later, read, rfl⟩
    have whole : rest = rest.takeWhile isBare ++ rest.dropWhile isBare :=
      List.takeWhile_append_dropWhile.symm
    rw [whole]
    exact .word (bare_takeWhile bare rest) (detached_dropWhile rest) (ih read)
  all_goals cases scanned

/-! ## A sequence of pieces is scanned -/

theorem ne_of_isQuote
    {quote : Char}
    (quotes : isQuote quote = true) :
    Text.isBlank quote = false ∧
      quote ∉ ['(', ')', '=', '~', ':', '!'] := by
  simp only [isQuote, Bool.or_eq_true, beq_iff_eq] at quotes
  rcases quotes with rfl | rfl <;> decide

theorem ne_of_isBare
    {character : Char}
    (bare : isBare character = true) :
    Text.isBlank character = false ∧
      character ∉ ['(', ')', '=', '~', ':', '!'] ∧
      isQuote character = false := by
  refine ⟨?_, ?_, ?_⟩
  · cases blank : Text.isBlank character with
    | false => rfl
    | true => cases (isBare_of_isBlank blank).symm.trans bare
  · intro member
    simp only [List.mem_cons, List.not_mem_nil, or_false] at member
    rcases member with rfl | rfl | rfl | rfl | rfl | rfl <;> cases bare
  · cases quotes : isQuote character with
    | false => rfl
    | true =>
        simp only [isQuote, Bool.or_eq_true, beq_iff_eq] at quotes
        rcases quotes with rfl | rfl <;> cases bare

/-- A quoted text is scanned up to the quote that closes it. -/
theorem scanFrom_quoted
    {quote : Char}
    {body : List Char}
    (quotes : isQuote quote = true)
    (outside : quote ∉ body)
    (offset : Nat)
    (rest : List Char) :
    Token.scanFrom offset (quote :: (body ++ quote :: rest)) =
      (do
        let tokens ← Token.scanFrom (offset + Text.byteLength body + 2) rest
        .ok (⟨.string, String.ofList body, offset⟩ :: tokens)) := by
  have before : ∀ character ∈ body, (character != quote) = true := by
    intro character member
    rw [bne_iff_ne]
    rintro rfl
    exact outside member
  have taken : (body ++ quote :: rest).takeWhile (· != quote) = body := by
    rw [List.takeWhile_append_of_pos before]
    simp
  have dropped : (body ++ quote :: rest).dropWhile (· != quote) = quote :: rest := by
    rw [List.dropWhile_append_of_pos before]
    simp
  rcases ne_of_isQuote quotes with ⟨unblank, others⟩
  simp only [List.mem_cons, List.not_mem_nil, or_false, not_or] at others
  rw [Token.scanFrom.eq_def]
  simp only [unblank, others, quotes, taken, if_true, if_false, or_self, Bool.false_eq_true]
  split
  · next closing after split =>
      rw [dropped] at split
      cases split
      rfl
  · next split =>
      rw [dropped] at split
      cases split

/-- A bare word is scanned up to the first character that cannot stand in it. -/
theorem scanFrom_word
    {first : Char}
    {others rest : List Char}
    (bare : ∀ character ∈ first :: others, isBare character = true)
    (detached : Detached rest)
    (offset : Nat) :
    Token.scanFrom offset (first :: (others ++ rest)) =
      (do
        let tokens ← Token.scanFrom (offset + Text.byteLength (first :: others)) rest
        .ok (ofWord (first :: others) offset :: tokens)) := by
  have goesOn : ∀ character ∈ others, isBare character = true :=
    fun character member => bare character (List.mem_cons_of_mem _ member)
  have stops : rest.takeWhile isBare = [] ∧ rest.dropWhile isBare = rest := by
    cases rest with
    | nil => exact ⟨rfl, rfl⟩
    | cons next rest =>
        have apart := detached next rfl
        simp [apart]
  have taken : (others ++ rest).takeWhile isBare = others := by
    rw [List.takeWhile_append_of_pos goesOn, stops.1, List.append_nil]
  have dropped : (others ++ rest).dropWhile isBare = rest := by
    rw [List.dropWhile_append_of_pos goesOn, stops.2]
  have begins := bare first List.mem_cons_self
  rcases ne_of_isBare begins with ⟨unblank, marks, unquoted⟩
  simp only [List.mem_cons, List.not_mem_nil, or_false, not_or] at marks
  rw [Token.scanFrom.eq_def]
  simp only [unblank, marks, unquoted, begins, taken, dropped, if_true, if_false, or_self,
    Bool.false_eq_true]

theorem Detached.append
    {text rest : List Char}
    (detached : Detached text)
    (apart : Detached rest) :
    Detached (text ++ rest) := by
  cases text with
  | nil => exact apart
  | cons character text => exact detached

theorem utf8Size_of_markKind?
    {character : Char}
    {kind : Kind}
    (marks : markKind? character = some kind) :
    character.utf8Size = 1 := by
  rcases eq_of_markKind? marks with ⟨rfl, _⟩ | ⟨rfl, _⟩ | ⟨rfl | rfl | rfl, _⟩ <;> rfl

theorem utf8Size_of_isQuote
    {quote : Char}
    (quotes : isQuote quote = true) :
    quote.utf8Size = 1 := by
  simp only [isQuote, Bool.or_eq_true, beq_iff_eq] at quotes
  rcases quotes with rfl | rfl <;> rfl

/-- A quoted text has two quotes of one byte each. -/
theorem byteLength_quoted
    {quote : Char}
    (quotes : isQuote quote = true)
    (body rest : List Char) :
    Text.byteLength (quote :: (body ++ quote :: rest)) =
      Text.byteLength body + 2 + Text.byteLength rest := by
  rw [Text.byteLength_cons, Text.byteLength_append, Text.byteLength_cons,
    utf8Size_of_isQuote quotes]
  omega

/-- Tokens in front of others that are scanned behind them. -/
theorem cons_bind
    (scanned : Except SyntaxError (List Token))
    (token : Token)
    (tokens : List Token) :
    (do
        let later ← (do let later ← scanned; Except.ok (tokens ++ later))
        Except.ok (token :: later)) =
      (do let later ← scanned; Except.ok (token :: tokens ++ later)) := by
  cases scanned <;> rfl

/-- What stands behind pieces is scanned by itself, unless it goes on with the last word. -/
theorem Pieces.scanFrom_append
    {offset : Nat}
    {text rest : List Char}
    {tokens : List Token}
    (pieces : Pieces offset text tokens)
    (apart : Detached rest) :
    Token.scanFrom offset (text ++ rest) =
      (do
        let later ← Token.scanFrom (offset + Text.byteLength text) rest
        .ok (tokens ++ later)) := by
  induction pieces with
  | @done offset =>
      rw [List.nil_append, Text.byteLength_nil, Nat.add_zero]
      cases Token.scanFrom offset rest <;> rfl
  | blank blank more ih =>
      rw [List.cons_append, Token.scanFrom.eq_def, Text.byteLength_cons, ← Nat.add_assoc]
      simp only [blank, if_true]
      exact ih
  | mark marks more ih =>
      rw [List.cons_append, Text.byteLength_cons, utf8Size_of_markKind? marks, ← Nat.add_assoc,
        ← cons_bind, ← ih, Token.scanFrom.eq_def]
      rcases eq_of_markKind? marks with ⟨rfl, rfl⟩ | ⟨rfl, rfl⟩ | ⟨rfl | rfl | rfl, rfl⟩ <;> rfl
  | @negated offset character rest tokens negates more ih =>
      have size : character.utf8Size = 1 := by
        rcases negates with rfl | rfl <;> rfl
      have place : offset + Text.byteLength ('!' :: character :: rest) =
          offset + 2 + Text.byteLength rest := by
        rw [Text.byteLength_cons, Text.byteLength_cons, size, show '!'.utf8Size = 1 from rfl]
        omega
      rw [List.cons_append, List.cons_append, place, ← cons_bind, ← ih, Token.scanFrom.eq_def]
      simp only [negates, if_true]
      rfl
  | @quoted offset quote body rest tokens quotes outside more ih =>
      rw [byteLength_quoted quotes, ← Nat.add_assoc, ← Nat.add_assoc, List.cons_append,
        List.append_assoc, List.cons_append, scanFrom_quoted quotes outside, ih, cons_bind]
  | @word offset first others rest tokens bare detached more ih =>
      rw [← List.cons_append, Text.byteLength_append, ← Nat.add_assoc, List.append_assoc,
        List.cons_append, scanFrom_word bare (detached.append apart), ih, cons_bind]

theorem Pieces.scanFrom
    {offset : Nat}
    {text : List Char}
    {tokens : List Token}
    (pieces : Pieces offset text tokens) :
    Token.scanFrom offset text = .ok tokens := by
  have apart : Detached [] := nofun
  rw [← List.append_nil text, pieces.scanFrom_append apart, Token.scanFrom.eq_def _ []]
  exact congrArg Except.ok (List.append_nil tokens)

/-! ## Pieces in other places -/

theorem Pieces.moved
    {offset : Nat}
    {text : List Char}
    {tokens : List Token}
    (pieces : Pieces offset text tokens)
    (distance : Nat) :
    Pieces (offset + distance) text (tokens.map (Token.moved distance)) := by
  induction pieces with
  | done => exact .done
  | blank blank more ih =>
      rw [Nat.add_right_comm] at ih
      exact .blank blank ih
  | mark marks more ih =>
      rw [Nat.add_right_comm] at ih
      exact .mark marks ih
  | negated negates more ih =>
      rw [Nat.add_right_comm] at ih
      exact .negated negates ih
  | @quoted offset quote body rest tokens quotes outside more ih =>
      have place :
          offset + Text.byteLength body + 2 + distance =
            offset + distance + Text.byteLength body + 2 := by
        omega
      rw [place] at ih
      exact .quoted quotes outside ih
  | @word offset first others rest tokens bare detached more ih =>
      rw [Nat.add_right_comm] at ih
      have token :
          Token.moved distance (ofWord (first :: others) offset) =
            ofWord (first :: others) (offset + distance) := by
        unfold ofWord Token.moved
        simp only
        split <;> rfl
      rw [List.map_cons, token]
      exact .word bare detached ih

/-- What is put behind a text is cut by itself, unless it goes on with the last word. -/
theorem Pieces.append
    {offset : Nat}
    {text rest : List Char}
    {tokens later : List Token}
    (pieces : Pieces offset text tokens)
    (apart : Detached rest)
    (more : Pieces (offset + Text.byteLength text) rest later) :
    Pieces offset (text ++ rest) (tokens ++ later) := by
  apply pieces_of_scanFrom
  rw [pieces.scanFrom_append apart, more.scanFrom]
  rfl

/-- Two texts joined by a logic operator between spaces. -/
theorem Pieces.joined
    {offset : Nat}
    {text rest : List Char}
    {tokens later : List Token}
    {operator : String}
    (word : operator = "and" ∨ operator = "or")
    (pieces : Pieces offset text tokens)
    (more :
      Pieces (offset + Text.byteLength text + 1 + Text.byteLength operator.toList + 1)
        rest later) :
    Pieces offset (text ++ ' ' :: (operator.toList ++ ' ' :: rest))
      (tokens ++ ⟨.logicOperator, operator, offset + Text.byteLength text + 1⟩ :: later) := by
  have bare : ∀ character ∈ operator.toList, isBare character = true :=
    List.all_eq_true.mp (by rcases word with rfl | rfl <;> decide)
  obtain ⟨letter, letters, spelled⟩ :
      ∃ letter letters, operator.toList = letter :: letters := by
    rcases word with rfl | rfl <;> exact ⟨_, _, rfl⟩
  have token : ∀ place, ofWord operator.toList place = ⟨.logicOperator, operator, place⟩ := by
    intro place
    rcases word with rfl | rfl <;> rfl
  have blank : Text.isBlank ' ' = true := rfl
  rw [← token, spelled]
  rw [spelled] at bare more
  refine pieces.append (detached_of_isBlank blank) (.blank blank ?_)
  exact .word bare (detached_of_isBlank blank) (.blank blank more)

end LogRows.Token
