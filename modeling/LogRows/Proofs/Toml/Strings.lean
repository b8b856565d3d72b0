import LogRows.Toml.Text
import LogRows.Toml.Writer

/-!
# Written strings and keys are read back

A string has four written forms, and its text shows how each of them spells it: most
characters stand for themselves, some are escaped, and some quotes may stand in a row as
long as they are not taken for the closing mark.  `Spells` says this of a body and the text
it stands for, once for all forms.  The writer produces nothing else, and every reader takes
a body for its text, so a string is read as what it was written from
(`readString?_stringText`), and so is a key (`readSimpleKey?_keyText`).
-/

namespace LogRows.Toml

/-! ## Runs of quotes -/

section

variable
    {quote other : Char}
    {text more : List Char}

@[simp]
theorem quoteRun_cons_self : quoteRun quote (quote :: text) = quoteRun quote text + 1 := by
  simp [quoteRun]

theorem quoteRun_cons_of_ne (different : other ≠ quote) :
    quoteRun quote (other :: text) = 0 := by
  simp [quoteRun, different]

theorem quoteRun_append (quote : Char) (text more : List Char) :
    quoteRun quote (text ++ more) =
      if quoteRun quote text = text.length then text.length + quoteRun quote more
      else quoteRun quote text := by
  unfold quoteRun
  rw [List.takeWhile_append]
  split <;> simp

theorem eq_of_quoteRun
    (whole : quoteRun quote text = text.length) :
    ∀ character ∈ text, character = quote := by
  induction text with
  | nil => exact nofun
  | cons first rest ih =>
      by_cases same : first = quote
      · subst same
        rw [quoteRun_cons_self, List.length_cons, Nat.succ_inj] at whole
        exact List.forall_mem_cons.mpr ⟨rfl, ih whole⟩
      · rw [quoteRun_cons_of_ne same] at whole
        cases whole

end

/-! ## Escapes -/

/-- A hexadecimal digit as it is written. -/
def hexDigit (number : Nat) : Char :=
  (Nat.digitChar number).toUpper

theorem hexDigit?_hexDigit {number : Nat} (small : number < 16) :
    hexDigit? (hexDigit number) = some number := by
  have digits : ∀ number < 16, hexDigit? (hexDigit number) = some number := by
    decide
  exact digits number small

theorem readCodePoint_cons
    {value digits number : Nat}
    (small : number < 16)
    (rest : List Char) :
    readCodePoint value (digits + 1) (hexDigit number :: rest) =
      readCodePoint (value * 16 + number) digits rest := by
  rw [readCodePoint, hexDigit?_hexDigit small]
  rfl

theorem fourHexDigits_eq {code : Nat} (small : code < 128) :
    fourHexDigits code = [hexDigit 0, hexDigit 0, hexDigit (code / 16), hexDigit (code % 16)] := by
  have digits :
      ∀ code < 128,
        fourHexDigits code =
          [hexDigit 0, hexDigit 0, hexDigit (code / 16), hexDigit (code % 16)] := by
    decide +kernel
  exact digits code small

/-- Four digits spell a small code. -/
theorem readEscape_fourHexDigits
    {code : Nat}
    (small : code < 128)
    (rest : List Char) :
    readEscape ('u' :: (fourHexDigits code ++ rest)) = some (Char.ofNat code, rest) := by
  have zero : 0 < 16 := by decide
  have high : code / 16 < 16 := by omega
  have low : code % 16 < 16 := Nat.mod_lt _ zero
  have number : ((0 * 16 + 0) * 16 + 0) * 16 + code / 16 = code / 16 := by omega
  have whole : code / 16 * 16 + code % 16 = code := by omega
  have valid : code.isValidChar := .inl (by omega)
  rw [fourHexDigits_eq small]
  simp only [readEscape, List.cons_append, List.nil_append]
  rw [readCodePoint_cons zero, readCodePoint_cons zero, readCodePoint_cons high,
    readCodePoint_cons low, number, whole, readCodePoint, if_pos valid]

/-- A control character is escaped by a mark and what comes with it. -/
theorem controlEscape_eq
    {character : Char}
    (control : isControl character = true) :
    ∃ mark digits,
      controlEscape character = '\\' :: mark :: digits ∧
        ∀ rest, readEscape (mark :: (digits ++ rest)) = some (character, rest) := by
  unfold controlEscape
  split
  case isTrue same =>
    subst same
    exact ⟨'b', [], rfl, fun _ => rfl⟩
  split
  case isTrue same =>
    subst same
    exact ⟨'t', [], rfl, fun _ => rfl⟩
  split
  case isTrue same =>
    subst same
    exact ⟨'n', [], rfl, fun _ => rfl⟩
  split
  case isTrue same =>
    subst same
    exact ⟨'f', [], rfl, fun _ => rfl⟩
  split
  case isTrue same =>
    subst same
    exact ⟨'r', [], rfl, fun _ => rfl⟩
  case isFalse =>
    have small : character.toNat < 128 := by
      simp only [isControl, Bool.or_eq_true, decide_eq_true_eq, beq_iff_eq] at control
      omega
    refine ⟨'u', fourHexDigits character.toNat, rfl, fun rest => ?_⟩
    rw [readEscape_fourHexDigits small, Char.ofNat_toNat]

/-- An escape is no end of a line. -/
theorem skipNewline?_of_readEscape
    {text : List Char}
    {result : Char × List Char}
    (reads : readEscape text = some result) :
    skipNewline? (skipSpaces text) = none := by
  cases text with
  | nil => cases reads
  | cons mark rest =>
      have unspaced : isSpace mark = false := by
        cases blank : isSpace mark with
        | false => rfl
        | true =>
            simp only [isSpace, Bool.or_eq_true, beq_iff_eq] at blank
            rcases blank with rfl | rfl
            · cases reads
            · cases reads
      rw [skipSpaces, List.dropWhile_cons, if_neg (by simp [unspaced])]
      unfold skipNewline?
      split
      case h_1 same | h_2 same =>
        cases same
        cases reads
      case h_3 => rfl

/-! ## How a body spells a text -/

/--
The body of a string between its marks and the text that it stands for.  No more than the
`allowed` quotes stand in a row.
-/
inductive Spells (quote : Char) (escapes manyLines : Bool) (allowed : Nat) :
    (body text : List Char) → Prop where
  | done : Spells quote escapes manyLines allowed [] []
  | plain
      {character : Char}
      {body text : List Char}
      (unquoted : character ≠ quote)
      (unescaped : escapes = true → character ≠ '\\')
      (inLine : isLineText character = true)
      (more : Spells quote escapes manyLines allowed body text) :
      Spells quote escapes manyLines allowed (character :: body) (character :: text)
  | newline
      {body text : List Char}
      (lines : manyLines = true)
      (more : Spells quote escapes manyLines allowed body text) :
      Spells quote escapes manyLines allowed ('\n' :: body) ('\n' :: text)
  | escape
      {mark character : Char}
      {digits body text : List Char}
      (escaped : escapes = true)
      (reads : ∀ rest, readEscape (mark :: (digits ++ rest)) = some (character, rest))
      (more : Spells quote escapes manyLines allowed body text) :
      Spells quote escapes manyLines allowed ('\\' :: mark :: (digits ++ body))
        (character :: text)
  | quote
      {body text : List Char}
      (few : quoteRun quote (quote :: body) ≤ allowed)
      (more : Spells quote escapes manyLines allowed body text) :
      Spells quote escapes manyLines allowed (quote :: body) (quote :: text)

/-! ### What the writer produces -/

theorem isLineText_of_not_isControl
    {character : Char}
    (plain : isControl character = false) :
    isLineText character = true := by
  simp only [isControl, isLineText, Bool.or_eq_false_iff, decide_eq_false_iff_not,
    beq_eq_false_iff_ne, Bool.or_eq_true, beq_iff_eq, Bool.and_eq_true, decide_eq_true_eq,
    bne_iff_ne] at plain ⊢
  omega

/-- What a character is written as, and the quotes that have then been written in a row. -/
inductive WrittenAs (manyLines : Bool) (allowed run : Nat) :
    (character : Char) → (written : List Char) → (next : Nat) → Prop where
  | quote
      (room : run < allowed) :
      WrittenAs manyLines allowed run '\"' ['\"'] (run + 1)
  | escape
      {mark character : Char}
      {digits : List Char}
      (reads : ∀ rest, readEscape (mark :: (digits ++ rest)) = some (character, rest)) :
      WrittenAs manyLines allowed run character ('\\' :: mark :: digits) 0
  | plain
      {character : Char}
      (unquoted : character ≠ '\"')
      (unescaped : character ≠ '\\')
      (inLine : isLineText character = true) :
      WrittenAs manyLines allowed run character [character] 0
  | newline
      (lines : manyLines = true) :
      WrittenAs manyLines allowed run '\n' ['\n'] 0

theorem escapeText_cons
    (manyLines : Bool)
    (allowed run : Nat)
    (character : Char)
    (rest : List Char) :
    ∃ written next,
      WrittenAs manyLines allowed run character written next ∧
        escapeText manyLines allowed run (character :: rest) =
          written ++ escapeText manyLines allowed next rest := by
  rw [escapeText]
  split
  case isTrue quoted =>
    subst quoted
    split
    case isTrue room => exact ⟨_, _, .quote room, rfl⟩
    case isFalse =>
      have reads (rest : List Char) : readEscape ('\"' :: ([] ++ rest)) = some ('\"', rest) := rfl
      exact ⟨_, _, .escape reads, rfl⟩
  case isFalse unquoted =>
    split
    case isTrue escaped =>
      subst escaped
      have reads (rest : List Char) : readEscape ('\\' :: ([] ++ rest)) = some ('\\', rest) := rfl
      exact ⟨_, _, .escape reads, rfl⟩
    case isFalse unescaped =>
      split
      case isTrue newline =>
        rw [Bool.and_eq_true, beq_iff_eq] at newline
        rcases newline with ⟨lines, rfl⟩
        exact ⟨_, _, .newline lines, rfl⟩
      case isFalse =>
        split
        case isTrue control =>
          rcases controlEscape_eq control with ⟨mark, digits, written, reads⟩
          rw [written]
          exact ⟨_, _, .escape reads, rfl⟩
        case isFalse plain =>
          have inLine := isLineText_of_not_isControl (Bool.eq_false_iff.mpr plain)
          exact ⟨_, _, .plain unquoted unescaped inLine, rfl⟩

/-- The quotes just written and those that come next are not too many. -/
theorem quoteRun_escapeText
    (manyLines : Bool)
    {allowed run : Nat}
    (few : run ≤ allowed)
    (text : List Char) :
    run + quoteRun '\"' (escapeText manyLines allowed run text) ≤ allowed := by
  induction text generalizing run with
  | nil => exact few
  | cons character rest ih =>
      rcases escapeText_cons manyLines allowed run character rest with ⟨_, _, as, written⟩
      rw [written]
      cases as with
      | quote room =>
          have more := @ih (run + 1) room
          rw [List.singleton_append, quoteRun_cons_self]
          omega
      | escape =>
          rw [List.cons_append, quoteRun_cons_of_ne (by decide)]
          exact few
      | plain unquoted =>
          rw [List.singleton_append, quoteRun_cons_of_ne unquoted]
          exact few
      | newline =>
          rw [List.singleton_append, quoteRun_cons_of_ne (by decide)]
          exact few

/-- A text with its escapes spells the text. -/
theorem spells_escapeText
    (manyLines : Bool)
    {allowed run : Nat}
    (few : run ≤ allowed)
    (text : List Char) :
    Spells '\"' true manyLines allowed (escapeText manyLines allowed run text) text := by
  induction text generalizing run with
  | nil => exact .done
  | cons character rest ih =>
      have bound := quoteRun_escapeText manyLines few (character :: rest)
      rcases escapeText_cons manyLines allowed run character rest with ⟨_, _, as, written⟩
      rw [written] at bound ⊢
      cases as with
      | quote room => exact .quote (Nat.le_trans (Nat.le_add_left _ run) bound) (ih room)
      | escape reads =>
          rw [List.cons_append, List.cons_append]
          exact .escape rfl reads (ih (Nat.zero_le allowed))
      | plain unquoted unescaped inLine =>
          exact .plain unquoted (fun _ => unescaped) inLine (ih (Nat.zero_le allowed))
      | newline lines => exact .newline lines (ih (Nat.zero_le allowed))

/-- No run is longer than the longest one. -/
theorem quoteRun_le_longestRun
    (quote : Char)
    {current longest : Nat}
    (known : current ≤ longest)
    (text : List Char) :
    current + quoteRun quote text ≤ longestRun quote current longest text ∧
      longest ≤ longestRun quote current longest text := by
  induction text generalizing current longest with
  | nil => exact ⟨known, Nat.le_refl _⟩
  | cons character rest ih =>
      unfold longestRun
      split
      case isTrue same =>
        subst same
        have more := ih (Nat.le_max_right longest (current + 1))
        rw [quoteRun_cons_self]
        omega
      case isFalse different =>
        have more := ih (Nat.zero_le longest)
        rw [quoteRun_cons_of_ne different]
        omega

/-- A text without escapes spells itself if its runs of quotes are short enough. -/
theorem spells_self
    {quote : Char}
    {manyLines : Bool}
    {allowed current longest : Nat}
    {text : List Char}
    (known : current ≤ longest)
    (short : longestRun quote current longest text ≤ allowed)
    (writable :
      ∀ character ∈ text,
        isLineText character = true ∨ (manyLines = true ∧ character = '\n')) :
    Spells quote false manyLines allowed text text := by
  induction text generalizing current longest with
  | nil => exact .done
  | cons character rest ih =>
      have others := fun other member => writable other (List.mem_cons_of_mem _ member)
      have bound := (quoteRun_le_longestRun quote known (character :: rest)).1
      have few := Nat.le_trans (Nat.le_trans (Nat.le_add_left _ current) bound) short
      unfold longestRun at short
      split at short
      case isTrue same =>
        subst same
        exact .quote few (ih (Nat.le_max_right _ _) short others)
      case isFalse different =>
        have more := ih (Nat.zero_le _) short others
        rcases writable character List.mem_cons_self with inLine | ⟨lines, rfl⟩
        · exact .plain different nofun inLine more
        · exact .newline lines more

/-! ### What the readers take -/

/-- A string with escapes on one line. -/
theorem readEscaped_of_spells
    {body text : List Char}
    (spells : Spells '\"' true false 0 body text)
    {fuel : Nat}
    (enough : text.length < fuel)
    (taken rest : List Char) :
    readEscaped fuel taken (body ++ '\"' :: rest) = some (taken.reverse ++ text, rest) := by
  induction spells generalizing fuel taken with
  | done =>
      obtain ⟨fuel, rfl⟩ := Nat.exists_eq_succ_of_ne_zero (Nat.ne_zero_of_lt enough)
      rw [List.append_nil]
      rfl
  | @plain character body text unquoted unescaped inLine more ih =>
      obtain ⟨fuel, rfl⟩ := Nat.exists_eq_succ_of_ne_zero (Nat.ne_zero_of_lt enough)
      have next := ih (Nat.lt_of_succ_lt_succ enough) (character :: taken)
      rw [List.reverse_cons, List.append_assoc] at next
      rw [List.cons_append, readEscaped, if_pos inLine]
      · exact next
      · exact unquoted
      · exact unescaped rfl
  | newline lines => cases lines
  | @escape mark character digits body text escaped reads more ih =>
      obtain ⟨fuel, rfl⟩ := Nat.exists_eq_succ_of_ne_zero (Nat.ne_zero_of_lt enough)
      have next := ih (Nat.lt_of_succ_lt_succ enough) (character :: taken)
      rw [List.reverse_cons, List.append_assoc] at next
      have read := reads (body ++ '\"' :: rest)
      rw [← List.append_assoc] at read
      rw [List.cons_append, List.cons_append, readEscaped, read]
      exact next
  | quote few =>
      rw [quoteRun_cons_self] at few
      cases few

/-- A verbatim string on one line. -/
theorem readVerbatim_of_spells
    {body text : List Char}
    (spells : Spells '\x27' false false 0 body text)
    (rest : List Char) :
    readVerbatim (body ++ '\x27' :: rest) = some (text, rest) := by
  have verbatim :
      text = body ∧
        ∀ character ∈ body, (character != '\x27' && isLineText character) = true := by
    induction spells with
    | done => exact ⟨rfl, nofun⟩
    | plain unquoted unescaped inLine more ih =>
        refine ⟨congrArg _ ih.1, List.forall_mem_cons.mpr ⟨?_, ih.2⟩⟩
        rw [bne_iff_ne.mpr unquoted, inLine]
        rfl
    | newline lines => cases lines
    | escape escaped => cases escaped
    | quote few =>
        rw [quoteRun_cons_self] at few
        cases few
  rcases verbatim with ⟨rfl, inLine⟩
  have body : ('\x27' :: rest).takeWhile
      (fun character => character != '\x27' && isLineText character) = [] := rfl
  unfold readVerbatim
  rw [List.takeWhile_append_of_pos inLine, body, List.append_nil]
  simp only [List.drop_left]

/-- A body of nothing but quotes spells itself. -/
theorem Spells.text_eq
    {quote : Char}
    {escapes manyLines : Bool}
    {allowed : Nat}
    {body text : List Char}
    (spells : Spells quote escapes manyLines allowed body text)
    (mark : quote = '\"' ∨ quote = '\x27')
    (quotes : ∀ character ∈ body, character = quote) :
    text = body := by
  induction spells with
  | done => rfl
  | plain unquoted => exact absurd (quotes _ List.mem_cons_self) unquoted
  | newline =>
      have same := quotes _ List.mem_cons_self
      rcases mark with rfl | rfl <;> cases same
  | escape =>
      have same := quotes _ List.mem_cons_self
      rcases mark with rfl | rfl <;> cases same
  | quote few more ih =>
      rw [ih (List.forall_mem_cons.mp quotes).2]

/-- A string on many lines, up to a closing mark behind which no quote comes. -/
theorem readManyLines_of_spells
    {quote : Char}
    {escapes : Bool}
    {body text : List Char}
    (spells : Spells quote escapes true 2 body text)
    (mark : quote = '\"' ∨ quote = '\x27')
    {fuel : Nat}
    (enough : text.length < fuel)
    (taken : List Char)
    {rest : List Char}
    (apart : quoteRun quote rest = 0) :
    readManyLines quote escapes fuel taken (body ++ (threeQuotes quote ++ rest)) =
      some (taken.reverse ++ text, rest) := by
  have closing : quoteRun quote (threeQuotes quote ++ rest) = 3 := by
    simp [threeQuotes, apart]
  induction spells generalizing fuel taken with
  | done =>
      obtain ⟨fuel, rfl⟩ := Nat.exists_eq_succ_of_ne_zero (Nat.ne_zero_of_lt enough)
      simp only [List.nil_append, threeQuotes, List.cons_append] at closing ⊢
      rw [readManyLines, if_pos rfl, closing]
      simp
  | @plain character body text unquoted unescaped inLine more ih =>
      obtain ⟨fuel, rfl⟩ := Nat.exists_eq_succ_of_ne_zero (Nat.ne_zero_of_lt enough)
      have next := ih (Nat.lt_of_succ_lt_succ enough) (character :: taken)
      rw [List.reverse_cons, List.append_assoc] at next
      have raw : (escapes && character == '\\') = false := by
        cases escapes with
        | false => rfl
        | true => exact beq_eq_false_iff_ne.mpr (unescaped rfl)
      rw [List.cons_append, readManyLines, if_neg unquoted, raw, if_neg Bool.false_ne_true,
        if_pos inLine]
      exact next
  | @newline body text lines more ih =>
      obtain ⟨fuel, rfl⟩ := Nat.exists_eq_succ_of_ne_zero (Nat.ne_zero_of_lt enough)
      have next := ih (Nat.lt_of_succ_lt_succ enough) ('\n' :: taken)
      rw [List.reverse_cons, List.append_assoc] at next
      have unquoted : '\n' ≠ quote := by
        rcases mark with rfl | rfl <;> decide
      rw [List.cons_append, readManyLines, if_neg unquoted, if_neg (by simp),
        if_neg (by decide)]
      exact next
  | @escape letter character digits body text escaped reads more ih =>
      subst escaped
      obtain ⟨fuel, rfl⟩ := Nat.exists_eq_succ_of_ne_zero (Nat.ne_zero_of_lt enough)
      have next := ih (Nat.lt_of_succ_lt_succ enough) (character :: taken)
      rw [List.reverse_cons, List.append_assoc] at next
      have read := reads (body ++ (threeQuotes quote ++ rest))
      rw [← List.append_assoc] at read
      have unquoted : '\\' ≠ quote := by
        rcases mark with rfl | rfl <;> decide
      have marked : (true && '\\' == '\\') = true := rfl
      rw [List.cons_append, List.cons_append, readManyLines, if_neg unquoted, if_pos marked,
        skipNewline?_of_readEscape read, read]
      exact next
  | @quote body text few more ih =>
      obtain ⟨fuel, rfl⟩ := Nat.exists_eq_succ_of_ne_zero (Nat.ne_zero_of_lt enough)
      have run := quoteRun_append quote (quote :: body) (threeQuotes quote ++ rest)
      rw [closing, List.cons_append] at run
      rw [List.cons_append, readManyLines, if_pos rfl]
      by_cases whole : quoteRun quote (quote :: body) = (quote :: body).length
      · -- The quotes belong to the text, and the closing mark comes right behind them.
        rw [if_pos whole] at run
        have quotes := eq_of_quoteRun whole
        obtain rfl := more.text_eq mark (List.forall_mem_cons.mp quotes).2
        have count : min ((quote :: text).length + 3 - 3) 2 = (quote :: text).length := by
          omega
        have same := List.eq_replicate_of_mem quotes
        simp only [run, count, ← same]
        rw [if_pos (Nat.le_add_left _ _), ← List.drop_drop, ← List.cons_append, List.drop_left]
        rfl
      · rw [if_neg whole] at run
        have next := ih (Nat.lt_of_succ_lt_succ enough) (quote :: taken)
        rw [List.reverse_cons, List.append_assoc] at next
        simp only [run]
        rw [if_neg (by omega)]
        exact next

/-! ## Strings -/

theorem Spells.length_le
    {quote : Char}
    {escapes manyLines : Bool}
    {allowed : Nat}
    {body text : List Char}
    (spells : Spells quote escapes manyLines allowed body text) :
    text.length ≤ body.length := by
  induction spells with
  | done => exact Nat.le_refl 0
  | plain _ _ _ _ ih | newline _ _ ih | quote _ _ ih => exact Nat.succ_le_succ ih
  | escape _ _ _ ih =>
      simp only [List.length_cons, List.length_append]
      omega

/-- An escaped text is read back, with the fuel that every caller provides. -/
theorem readEscaped_escapeText
    (text rest : List Char) :
    readEscaped ((escapeText false 0 0 text ++ '\"' :: rest).length + 1) []
        (escapeText false 0 0 text ++ '\"' :: rest) =
      some (text, rest) := by
  have spells := spells_escapeText false (Nat.le_refl 0) text
  have enough : text.length < (escapeText false 0 0 text ++ '\"' :: rest).length + 1 := by
    have short := spells.length_le
    rw [List.length_append]
    omega
  exact readEscaped_of_spells spells enough [] rest

/-- A body is not taken for a mark of three quotes if it begins with none. -/
theorem quoteRun_closed
    {quote : Char}
    {body rest : List Char}
    (bare : quoteRun quote body = 0)
    (apart : quoteRun quote rest = 0) :
    quoteRun quote (body ++ quote :: rest) < 2 := by
  rw [quoteRun_append, bare, quoteRun_cons_self, apart]
  split
  case isTrue empty => omega
  case isFalse => decide

/-- What a reader yields, with the characters as a string. -/
def asString (read : List Char × List Char) : String × List Char :=
  (String.ofList read.1, read.2)

/-- One double quote opens a string with escapes. -/
theorem readString?_double
    {rest : List Char}
    (few : quoteRun '\"' rest < 2) :
    readString? ('\"' :: rest) = (readEscaped (rest.length + 1) [] rest).map asString := by
  unfold readString?
  split
  case h_1 same =>
    cases same
    simp only [quoteRun_cons_self] at few
    omega
  case h_2 same => cases same
  case h_3 same =>
    cases same
    rfl
  case h_4 same => cases same
  case h_5 others _ => exact (others rest rfl).elim

/-- One single quote opens a string without escapes. -/
theorem readString?_single
    {rest : List Char}
    (few : quoteRun '\x27' rest < 2) :
    readString? ('\x27' :: rest) = (readVerbatim rest).map asString := by
  unfold readString?
  split
  case h_1 same => cases same
  case h_2 same =>
    cases same
    simp only [quoteRun_cons_self] at few
    omega
  case h_3 same => cases same
  case h_4 same =>
    cases same
    rfl
  case h_5 others => exact (others rest rfl).elim

section

variable
    {text rest : List Char}

theorem readString?_escapedString
    (apart : quoteRun '\"' rest = 0) :
    readString? (escapedString text ++ rest) = some (String.ofList text, rest) := by
  have none := quoteRun_escapeText false (Nat.le_refl 0) text
  rw [Nat.zero_add, Nat.le_zero] at none
  rw [escapedString, List.append_assoc, List.append_assoc]
  simp only [List.singleton_append]
  rw [readString?_double (quoteRun_closed none apart), readEscaped_escapeText]
  rfl

theorem readString?_verbatimString
    (bare : longestRun '\x27' 0 0 text = 0)
    (inLine : ∀ character ∈ text, isLineText character = true)
    (apart : quoteRun '\x27' rest = 0) :
    readString? (verbatimString text ++ rest) = some (String.ofList text, rest) := by
  have none := (quoteRun_le_longestRun '\x27' (Nat.le_refl 0) text).1
  rw [bare, Nat.zero_add, Nat.le_zero] at none
  have spells : Spells '\x27' false false 0 text text :=
    spells_self (Nat.le_refl 0) (Nat.le_of_eq bare) fun character member =>
      .inl (inLine character member)
  rw [verbatimString, List.append_assoc, List.append_assoc]
  simp only [List.singleton_append]
  rw [readString?_single (quoteRun_closed none apart), readVerbatim_of_spells spells]
  rfl

theorem skipFirstNewline_of_lineText
    (inLine : ∀ first ∈ text.head?, isLineText first = true) :
    skipFirstNewline text = text := by
  unfold skipFirstNewline skipNewline?
  split
  case h_1 => cases inLine _ rfl
  case h_2 => cases inLine _ rfl
  case h_3 => rfl

/-- Of a body, no newline is skipped that is not written before it. -/
theorem skipFirstNewline_of_spells
    {quote : Char}
    {escapes : Bool}
    {body : List Char}
    (spells : Spells quote escapes true 2 body text)
    (mark : quote = '\"' ∨ quote = '\x27')
    (rest : List Char) :
    skipFirstNewline
        ((if text.contains '\n' then ['\n'] else []) ++ (body ++ (threeQuotes quote ++ rest))) =
      body ++ (threeQuotes quote ++ rest) := by
  cases lines : text.contains '\n' with
  | true => rfl
  | false =>
      have proper : isLineText quote = true := by
        rcases mark with rfl | rfl <;> decide
      apply skipFirstNewline_of_lineText
      cases spells with
      | done | quote =>
          rintro _ ⟨⟩
          exact proper
      | plain _ _ inLine =>
          rintro _ ⟨⟩
          exact inLine
      | newline => simp at lines
      | escape =>
          rintro _ ⟨⟩
          decide

theorem readString?_manyLineString
    {quote : Char}
    {escapes : Bool}
    {body : List Char}
    (spells : Spells quote escapes true 2 body text)
    (mark : quote = '\"' ∧ escapes = true ∨ quote = '\x27' ∧ escapes = false)
    (apart : quoteRun quote rest = 0) :
    readString? (manyLineString quote text body ++ rest) = some (String.ofList text, rest) := by
  let opening := if text.contains '\n' then ['\n'] else []
  let behind := opening ++ (body ++ (threeQuotes quote ++ rest))
  have opened : manyLineString quote text body ++ rest = threeQuotes quote ++ behind := by
    simp only [manyLineString, List.append_assoc, behind, opening]
  have reads :
      readString? (threeQuotes quote ++ behind) =
        (readManyLines quote escapes (behind.length + 1) [] (skipFirstNewline behind)).map
          asString := by
    rcases mark with ⟨rfl, rfl⟩ | ⟨rfl, rfl⟩ <;> rfl
  have either : quote = '\"' ∨ quote = '\x27' := mark.imp And.left And.left
  have enough : text.length < behind.length + 1 := by
    have short := spells.length_le
    simp only [behind, List.length_append]
    omega
  rw [opened, reads, skipFirstNewline_of_spells spells either rest,
    readManyLines_of_spells spells either enough [] apart]
  rfl

/-- A character that needs no escape stands in a line. -/
theorem isLineText_of_not_needsEscape
    {character : Char}
    (plain : needsEscape character = false) :
    isLineText character = true := by
  cases control : isControl character with
  | false => exact isLineText_of_not_isControl control
  | true =>
      rw [needsEscape, control, Bool.true_and, bne_eq_false_iff_eq] at plain
      rw [plain]
      decide

/-- A text that needs no escapes stands in lines as it is. -/
theorem inLine_or_newline
    (plain : (text.any fun character => needsEscape character && character != '\n') = false) :
    ∀ character ∈ text, isLineText character = true ∨ character = '\n' := by
  intro character member
  have proper := List.any_eq_false.mp plain character member
  by_cases newline : character = '\n'
  · exact .inr newline
  · rw [bne_iff_ne.mpr newline, Bool.and_true] at proper
    exact .inl (isLineText_of_not_needsEscape (Bool.eq_false_iff.mpr proper))

/-- A string value is read as what it was written from. -/
theorem readString?_stringText
    (value : String)
    (rest : List Char) :
    readString? (stringText value ++ '\n' :: rest) = some (value, '\n' :: rest) := by
  have double : quoteRun '\"' ('\n' :: rest) = 0 := quoteRun_cons_of_ne (by decide)
  have single : quoteRun '\x27' ('\n' :: rest) = 0 := quoteRun_cons_of_ne (by decide)
  have escaped : Spells '\"' true true 2 (escapeText true 2 0 value.toList) value.toList :=
    spells_escapeText true (Nat.zero_le 2) value.toList
  have whole : String.ofList value.toList = value := String.ofList_toList
  unfold stringText
  simp only []
  split
  case isTrue => rw [readString?_escapedString double, whole]
  split
  case isTrue verbatim =>
    simp only [Bool.and_eq_true, Bool.not_eq_true', beq_iff_eq] at verbatim
    obtain ⟨⟨plain, bare⟩, lines⟩ := verbatim
    have inLine : ∀ character ∈ value.toList, isLineText character = true := by
      intro character member
      rcases inLine_or_newline plain character member with proper | rfl
      · exact proper
      · rw [← List.contains_iff_mem, lines] at member
        cases member
    rw [readString?_verbatimString bare inLine single, whole]
  split
  case isTrue => rw [readString?_manyLineString escaped (.inl ⟨rfl, rfl⟩) double, whole]
  split
  case isTrue verbatim =>
    simp only [Bool.and_eq_true, Bool.not_eq_true', decide_eq_true_eq] at verbatim
    obtain ⟨plain, short⟩ := verbatim
    have spells : Spells '\x27' false true 2 value.toList value.toList :=
      spells_self (Nat.le_refl 0) short fun character member =>
        (inLine_or_newline plain character member).imp_right fun newline => ⟨rfl, newline⟩
    rw [readString?_manyLineString spells (.inr ⟨rfl, rfl⟩) single, whole]
  split
  case isTrue => rw [readString?_manyLineString escaped (.inl ⟨rfl, rfl⟩) double, whole]
  case isFalse => rw [readString?_escapedString double, whole]

end

/-! ## Keys -/

section

variable
    {text rest : List Char}

theorem readSimpleKey?_escapedString :
    readSimpleKey? (escapedString text ++ rest) = some (String.ofList text, rest) := by
  rw [escapedString, List.append_assoc, List.append_assoc]
  simp only [List.singleton_append, readSimpleKey?]
  rw [readEscaped_escapeText]
  rfl

theorem readSimpleKey?_verbatimString
    (plain : ∀ character ∈ text, character ≠ '\x27' ∧ isLineText character = true) :
    readSimpleKey? (verbatimString text ++ rest) = some (String.ofList text, rest) := by
  have spells : Spells '\x27' false false 0 text text := by
    induction text with
    | nil => exact .done
    | cons first others ih =>
        rcases List.forall_mem_cons.mp plain with ⟨⟨unquoted, inLine⟩, plain⟩
        exact .plain unquoted nofun inLine (ih plain)
  rw [verbatimString, List.append_assoc, List.append_assoc]
  simp only [List.singleton_append, readSimpleKey?]
  rw [readVerbatim_of_spells spells]
  rfl

theorem readSimpleKey?_bare
    (some : text ≠ [])
    (bare : ∀ character ∈ text, isBareKey character = true)
    (ends : ∀ next ∈ rest.head?, isBareKey next = false) :
    readSimpleKey? (text ++ rest) = .some (String.ofList text, rest) := by
  have word : (text ++ rest).takeWhile isBareKey = text := by
    rw [List.takeWhile_append_of_pos bare]
    cases rest with
    | nil => exact List.append_nil text
    | cons next rest =>
        rw [List.takeWhile_cons_of_neg (by simp [ends next rfl]), List.append_nil]
  have drop : (text ++ rest).drop text.length = rest := List.drop_left
  obtain ⟨first, others, rfl⟩ := List.exists_cons_of_ne_nil some
  have begins := bare first List.mem_cons_self
  unfold readSimpleKey?
  split
  case h_1 same | h_2 same =>
    cases same
    cases begins
  case h_3 =>
    simp only [word, drop]
    rfl

end

/-- A key is read as what it was written from, if it ends behind its text. -/
theorem readSimpleKey?_keyText
    (key : String)
    {rest : List Char}
    (ends : ∀ next ∈ rest.head?, isBareKey next = false) :
    readSimpleKey? (keyText key ++ rest) = some (key, rest) := by
  have whole : String.ofList key.toList = key := String.ofList_toList
  unfold keyText
  simp only []
  split
  case isTrue bare =>
    simp only [Bool.and_eq_true, Bool.not_eq_true', List.isEmpty_eq_false_iff,
      List.all_eq_true] at bare
    rw [readSimpleKey?_bare bare.1 bare.2 ends, whole]
  split
  case isTrue => rw [readSimpleKey?_escapedString, whole]
  split
  case isTrue plain =>
    have verbatim :
        ∀ character ∈ key.toList, character ≠ '\x27' ∧ isLineText character = true := by
      intro character member
      have proper := List.all_eq_true.mp plain character member
      simp only [Bool.and_eq_true, Bool.not_eq_true', bne_iff_ne] at proper
      exact ⟨proper.2, isLineText_of_not_needsEscape proper.1⟩
    rw [readSimpleKey?_verbatimString verbatim, whole]
  case isFalse => rw [readSimpleKey?_escapedString, whole]

end LogRows.Toml
