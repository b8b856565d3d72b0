import LogRows.Proofs.ConditionGrammar
import LogRows.Proofs.Scanning

/-!
# Printing conditions

A condition is printed by `Condition.text`: a field check with its field and its value
in quotes, a compound condition with its word between its operands.  An operand that is
compound stands in brackets, except for a left operand of the same word, for chains group
to the left.  What is printed is read as the condition it was printed from
(`ofTokens_text`).

The texts of operands are cut into pieces wherever they stand, so the proof goes along the
condition.  A condition without brackets around it is a chain, and its operators count
together with those of the chain it stands in.  `DerivesChain` therefore says of a derived
chain how many operators it has, and the limit is looked at where a bracket closes it.
-/

namespace LogRows

/-- The text of an alternative; a leading `!` negates it. -/
def GlobAlternative.text (alternative : GlobAlternative) : String :=
  if alternative.negated then "!" ++ alternative.pattern else alternative.pattern

namespace Condition

/-! ## The printed text -/

/-- The quote that is put around a text: a double one if the text holds a single one. -/
def quote (text : String) : Char :=
  if '\x27' ∈ text.toList then '\"' else '\x27'

/-- A text in quotes. -/
def quoted (text : String) : List Char :=
  quote text :: (text.toList ++ [quote text])

/-- The value that stands for a list of alternatives. -/
def joined (choices : List String) : String :=
  "|".intercalate choices

/-- The text of a field check. -/
def checkText (field operator : String) (choices : List String) : List Char :=
  quoted field ++ ' ' :: (operator.toList ++ ' ' :: quoted (joined choices))

/-- The word between the operands of a compound condition. -/
def word? : Condition → Option String
  | and _ _ => some "and"
  | or _ _ => some "or"
  | _ => none

/-- Whether an operand is put in brackets; one with the word of the chain it begins is not. -/
def isBracketed (operand : Condition) (chain : Option String) : Bool :=
  operand.word?.isSome && operand.word? != chain

/-- The text of an operand. -/
def operandText (bracketed : Bool) (text : List Char) : List Char :=
  if bracketed then '(' :: (text ++ [')']) else text

/-- The text of two operands with a word between them. -/
def linkText
    (word : String)
    (left right : Condition)
    (leftText rightText : List Char) :
    List Char :=
  operandText (left.isBracketed (some word)) leftText ++
    ' ' :: (word.toList ++ ' ' :: operandText (right.isBracketed none) rightText)

/-- The characters that a condition is printed as. -/
def characters : Condition → List Char
  | equal field values => checkText field "=" values
  | not (equal field values) => checkText field "!=" values
  | contains field parts => checkText field "~" parts
  | not (contains field parts) => checkText field "!~" parts
  | wildcard field choices => checkText field ":" (choices.map GlobAlternative.text)
  | and left right => linkText "and" left right left.characters right.characters
  | or left right => linkText "or" left right left.characters right.characters
  | all | not _ => []

/-- The text that a condition is printed as. -/
def text (condition : Condition) : String :=
  String.ofList condition.characters

/-! ## Its brackets and operators -/

/-- The brackets that are open at once in the text of an operand. -/
def operandNesting (bracketed : Bool) (nesting : Nat) : Nat :=
  if bracketed then nesting + 1 else nesting

/-- The greatest number of brackets that are open at once in the text of a condition. -/
def nesting : Condition → Nat
  | and left right =>
      max (operandNesting (left.isBracketed (some "and")) left.nesting)
        (operandNesting (right.isBracketed none) right.nesting)
  | or left right =>
      max (operandNesting (left.isBracketed (some "or")) left.nesting)
        (operandNesting (right.isBracketed none) right.nesting)
  | _ => 0

/-- The operators that an operand brings to the bracket level it stands on. -/
def operandChained (bracketed : Bool) (chained : Nat) : Nat :=
  if bracketed then 0 else chained

/-- The number of logic operators on the outermost bracket level of the text of a condition. -/
def chained : Condition → Nat
  | and left _ => operandChained (left.isBracketed (some "and")) left.chained + 1
  | or left _ => operandChained (left.isBracketed (some "or")) left.chained + 1
  | _ => 0

/-- The greatest number of logic operators on one bracket level of the text of a condition. -/
def widest : Condition → Nat
  | and left right => max (and left right).chained (max left.widest right.widest)
  | or left right => max (or left right).chained (max left.widest right.widest)
  | _ => 0

/-! ## What can be printed -/

/-- A text that can be put in quotes: it does not hold both kinds of them. -/
def Quotable (text : String) : Prop :=
  ¬ ('\x27' ∈ text.toList ∧ '\"' ∈ text.toList)

instance (text : String) : Decidable (Quotable text) :=
  inferInstanceAs (Decidable (¬ _))

/-- The field and the alternatives of a check that can be printed. -/
structure Writable (field : String) (choices : List String) : Prop where
  nonempty : choices ≠ []
  /-- No alternative holds what separates them. -/
  undivided : ∀ choice ∈ choices, '|' ∉ choice.toList
  field : Quotable field
  value : Quotable (joined choices)

/-- The conditions that can be printed. -/
inductive Printable : Condition → Prop where
  | equal
      {field : String}
      {values : List String}
      (writable : Writable field values) :
      Printable (equal field values)
  | notEqual
      {field : String}
      {values : List String}
      (writable : Writable field values) :
      Printable (not (equal field values))
  | contains
      {field : String}
      {parts : List String}
      (writable : Writable field parts) :
      Printable (contains field parts)
  | notContains
      {field : String}
      {parts : List String}
      (writable : Writable field parts) :
      Printable (not (contains field parts))
  | wildcard
      {field : String}
      {choices : List GlobAlternative}
      (writable : Writable field (choices.map GlobAlternative.text))
      (unmarked :
        ∀ choice ∈ choices, choice.negated = false → choice.pattern.toList.head? ≠ some '!') :
      Printable (wildcard field choices)
  | and
      {left right : Condition}
      (first : Printable left)
      (second : Printable right) :
      Printable (and left right)
  | or
      {left right : Condition}
      (first : Printable left)
      (second : Printable right) :
      Printable (or left right)

/-! ## Checks -/

theorem quote_not_mem
    {text : String}
    (quotable : Quotable text) :
    quote text ∉ text.toList := by
  unfold quote
  split
  case isTrue single =>
    intro double
    exact quotable ⟨single, double⟩
  case isFalse unheld => exact unheld

theorem isQuote_quote (text : String) :
    Token.isQuote (quote text) = true := by
  unfold quote
  split <;> rfl

/-- A text in quotes is one token, whatever comes behind it. -/
theorem quoted_append
    {offset : Nat}
    {text : String}
    (quotable : Quotable text)
    {rest : List Char}
    {tokens : List Token}
    (more : Token.Pieces (offset + Text.byteLength text.toList + 2) rest tokens) :
    Token.Pieces offset (quoted text ++ rest) (⟨.string, text, offset⟩ :: tokens) := by
  have pieces := Token.Pieces.quoted (isQuote_quote text) (quote_not_mem quotable) more
  rw [String.ofList_toList] at pieces
  rw [quoted, List.cons_append, List.append_assoc]
  exact pieces

/-- The field operators are one token each. -/
theorem CheckMeans.pieces
    {field value operator : String}
    {tree : Condition}
    (means : CheckMeans field value operator tree)
    {offset : Nat}
    {rest : List Char}
    {tokens : List Token}
    (more : Token.Pieces (offset + Text.byteLength operator.toList) rest tokens) :
    Token.Pieces offset (operator.toList ++ rest)
      (⟨.fieldOperator, operator, offset⟩ :: tokens) := by
  cases means with
  | equal => exact .mark rfl more
  | notEqual => exact .negated (.inl rfl) more
  | contains => exact .mark rfl more
  | notContains => exact .negated (.inr rfl) more
  | wildcard => exact .mark rfl more

/-- A value that is put together is taken apart into its alternatives. -/
theorem alternatives_joined
    {choices : List String}
    (nonempty : choices ≠ [])
    (undivided : ∀ choice ∈ choices, '|' ∉ choice.toList) :
    alternatives (joined choices) = choices := by
  have apart : ∀ piece ∈ choices.map String.toList, '|' ∉ piece := by
    intro piece member
    rcases List.mem_map.mp member with ⟨choice, chosen, rfl⟩
    exact undivided choice chosen
  have pieces : ['|'].intercalate (choices.map String.toList) = (joined choices).toList := by
    rw [joined, String.toList_intercalate]
    rfl
  have some : choices.map String.toList ≠ [] := by simpa using nonempty
  rw [alternatives, ← pieces, List.splitOn_intercalate '|' apart some]
  simp

theorem ofText_text
    {choice : GlobAlternative}
    (unmarked : choice.negated = false → choice.pattern.toList.head? ≠ some '!') :
    GlobAlternative.ofText choice.text = choice := by
  rcases choice with ⟨pattern, negated⟩
  cases negated with
  | true =>
      simp [GlobAlternative.text, GlobAlternative.ofText]
  | false =>
      have first := unmarked rfl
      simp only [GlobAlternative.text, GlobAlternative.ofText, Bool.false_eq_true, if_false]
      split
      case h_1 marked =>
        simp only [marked, List.head?_cons] at first
        exact absurd rfl first
      case h_2 => rfl

theorem map_ofText_text
    {choices : List GlobAlternative}
    (unmarked :
      ∀ choice ∈ choices, choice.negated = false → choice.pattern.toList.head? ≠ some '!') :
    (choices.map GlobAlternative.text).map GlobAlternative.ofText = choices := by
  rw [List.map_map]
  calc
    choices.map (GlobAlternative.ofText ∘ GlobAlternative.text) = choices.map id :=
      List.map_congr_left fun choice member => ofText_text (unmarked choice member)
    _ = choices := List.map_id choices

/-- A check of two texts in quotes is read as what its operator stands for. -/
theorem CheckMeans.reads
    {field value operator : String}
    {tree : Condition}
    (means : CheckMeans field value operator tree)
    (fieldQuotable : Quotable field)
    (valueQuotable : Quotable value)
    (offset : Nat) :
    ∃ tokens,
      Token.Pieces offset (quoted field ++ ' ' :: (operator.toList ++ ' ' :: quoted value))
          tokens ∧
        ∀ depth, DerivesTerm depth tokens tree := by
  have blank : Text.isBlank ' ' = true := rfl
  have last : ∀ place, Token.Pieces place (quoted value) [⟨.string, value, place⟩] := by
    intro place
    rw [← List.append_nil (quoted value)]
    exact quoted_append valueQuotable .done
  have check :
      ∀ place,
        Token.Pieces place (operator.toList ++ ' ' :: quoted value)
          [⟨.fieldOperator, operator, place⟩,
            ⟨.string, value, place + Text.byteLength operator.toList + 1⟩] := by
    intro place
    exact means.pieces (.blank blank (last _))
  exact
    ⟨_, quoted_append fieldQuotable (.blank blank (check _)), fun _ =>
      .check rfl rfl rfl means⟩

/-- The text of a check is read as what its operator stands for. -/
theorem Writable.reads
    {field operator : String}
    {choices : List String}
    (writable : Writable field choices)
    {tree : Condition}
    (meant : ∀ value, alternatives value = choices → CheckMeans field value operator tree)
    (offset : Nat) :
    ∃ tokens,
      Token.Pieces offset (checkText field operator choices) tokens ∧
        ∀ depth, DerivesTerm depth tokens tree :=
  (meant (joined choices) (alternatives_joined writable.nonempty writable.undivided)).reads
    writable.field writable.value offset

/-! ## Chains -/

/-- A chain of a number of operators, all of them the same word. -/
def DerivesChain
    (depth : Nat)
    (word : String)
    (count : Nat)
    (tokens : List Token)
    (tree : Condition) :
    Prop :=
  ∃ first rest head operands,
    tokens = first ++ rest ∧
      DerivesTerm depth first head ∧
      DerivesLinks depth word rest operands ∧
      operands.length = count ∧
      tree = operands.foldl (join word) head

section Chain

variable
    {depth count : Nat}
    {word : String}
    {tokens : List Token}
    {tree : Condition}

theorem DerivesTerm.chain
    (term : DerivesTerm depth tokens tree)
    (word : String) :
    DerivesChain depth word 0 tokens tree :=
  ⟨tokens, [], tree, [], (List.append_nil tokens).symm, term, .done, rfl, rfl⟩

theorem DerivesChain.term
    (chain : DerivesChain depth word 0 tokens tree) :
    DerivesTerm depth tokens tree := by
  rcases chain with ⟨first, rest, head, operands, rfl, term, links, none, rfl⟩
  cases links with
  | done =>
      rw [List.append_nil]
      exact term
  | link => cases none

theorem DerivesChain.condition
    (chain : DerivesChain depth word count tokens tree)
    (few : count ≤ maxChainedOperators) :
    DerivesCondition depth tokens tree := by
  rcases chain with ⟨first, rest, head, operands, rfl, term, links, rfl, rfl⟩
  exact .ofLinks term links few

/-- Links with one more behind them. -/
theorem DerivesLinks.concat
    {rest operand : List Token}
    {operator : Token}
    {operands : List Condition}
    {right : Condition}
    (links : DerivesLinks depth operator.lexeme rest operands)
    (kind : operator.kind = .logicOperator)
    (term : DerivesTerm depth operand right) :
    DerivesLinks depth operator.lexeme (rest ++ operator :: operand) (operands ++ [right]) := by
  generalize same : operator.lexeme = word at links ⊢
  match links with
  | .done =>
      have last := DerivesLinks.link kind term .done
      rw [List.append_nil, same] at last
      exact last
  | @DerivesLinks.link _ earlier _ _ _ _ earlierKind earlierTerm more =>
      rw [List.cons_append, List.append_assoc]
      have longer := DerivesLinks.concat (same ▸ more) kind term
      rw [same] at longer
      exact .link earlierKind earlierTerm longer

/-- A chain to which one more operand is joined. -/
theorem DerivesChain.concat
    {operand : List Token}
    {right : Condition}
    (chain : DerivesChain depth word count tokens tree)
    (place : Nat)
    (term : DerivesTerm depth operand right) :
    DerivesChain depth word (count + 1) (tokens ++ ⟨.logicOperator, word, place⟩ :: operand)
      (join word tree right) := by
  rcases chain with ⟨first, rest, head, operands, rfl, begins, links, rfl, rfl⟩
  let operator : Token := ⟨.logicOperator, word, place⟩
  have longer : DerivesLinks depth operator.lexeme (rest ++ operator :: operand)
      (operands ++ [right]) :=
    links.concat rfl term
  refine ⟨first, _, head, _, List.append_assoc first rest _, begins, longer, ?_, ?_⟩
  · simp
  · simp

end Chain

/-! ## What is printed is read -/

/-- A check has no operators. -/
theorem chained_of_word?
    {condition : Condition}
    (simple : condition.word? = none) :
    condition.chained = 0 := by
  cases condition with
  | and | or => cases simple
  | all | equal | contains | wildcard | not => rfl

theorem chained_le_widest (condition : Condition) :
    condition.chained ≤ condition.widest := by
  cases condition with
  | and | or => exact Nat.le_max_left _ _
  | all | equal | contains | wildcard | not => exact Nat.le_refl 0

/--
Whether the text of a condition is read as the condition wherever it stands, as a chain
of its own word and below as many brackets as it leaves.
-/
def ReadsBack (condition : Condition) : Prop :=
  ∀ depth offset,
    depth + condition.nesting ≤ maxNesting →
      condition.widest ≤ maxChainedOperators →
        ∃ tokens,
          Token.Pieces offset condition.characters tokens ∧
            ∀ word,
              condition.word? = none ∨ condition.word? = some word →
                DerivesChain depth word condition.chained tokens condition

theorem ReadsBack.of_check
    {condition : Condition}
    {field operator : String}
    {choices : List String}
    (writable : Writable field choices)
    (meant :
      ∀ value, alternatives value = choices → CheckMeans field value operator condition)
    (printed : condition.characters = checkText field operator choices)
    (simple : condition.word? = none) :
    ReadsBack condition := by
  intro depth offset _ _
  rcases writable.reads meant offset with ⟨tokens, pieces, term⟩
  refine ⟨tokens, printed ▸ pieces, fun word _ => ?_⟩
  rw [chained_of_word? simple]
  exact (term depth).chain word

/-- Whatever is not put in brackets is a check, or goes on with the chain it begins. -/
theorem word?_of_not_bracketed
    {condition : Condition}
    {chain : Option String}
    {word : String}
    (begins : chain = none ∨ chain = some word)
    (bare : condition.isBracketed chain = false) :
    condition.word? = none ∨ condition.word? = some word := by
  unfold isBracketed at bare
  cases own : condition.word? with
  | none => exact .inl rfl
  | some other =>
      rw [own] at bare
      have same : some other = chain := by simpa using bare
      rcases begins with rfl | rfl
      · cases same
      · exact .inr same

/-- An operand is read as a part of the chain it begins, or as a term. -/
theorem ReadsBack.operand
    {condition : Condition}
    (reads : ReadsBack condition)
    {chain : Option String}
    {word : String}
    (begins : chain = none ∨ chain = some word)
    {depth : Nat}
    (deep :
      depth + operandNesting (condition.isBracketed chain) condition.nesting ≤ maxNesting)
    (wide : condition.widest ≤ maxChainedOperators)
    (offset : Nat) :
    ∃ tokens,
      Token.Pieces offset (operandText (condition.isBracketed chain) condition.characters)
          tokens ∧
        DerivesChain depth word
          (operandChained (condition.isBracketed chain) condition.chained) tokens condition := by
  cases bracketed : condition.isBracketed chain with
  | false =>
      rw [bracketed] at deep
      rcases reads depth offset deep wide with ⟨tokens, pieces, derived⟩
      exact ⟨tokens, pieces, derived word (word?_of_not_bracketed begins bracketed)⟩
  | true =>
      rw [bracketed] at deep
      have deeper : depth + (condition.nesting + 1) ≤ maxNesting := deep
      have shallow : depth < maxNesting := by omega
      rcases reads (depth + 1) (offset + 1) (by omega) wide with ⟨inner, pieces, derived⟩
      have few := Nat.le_trans condition.chained_le_widest wide
      have body : DerivesCondition (depth + 1) inner condition := by
        cases known : condition.word? with
        | none => exact (derived "and" (.inl known)).condition few
        | some own => exact (derived own (.inr known)).condition few
      have opening : Token.markKind? '(' = some .openBracket := rfl
      have closing : Token.markKind? ')' = some .closeBracket := rfl
      have apart : Token.Detached [')'] := by
        rintro _ ⟨⟩
        decide
      refine ⟨_, .mark opening (pieces.append apart (.mark closing .done)), ?_⟩
      exact (DerivesTerm.group shallow rfl rfl body).chain word

section Link

variable
    {word : String}
    (known : word = "and" ∨ word = "or")
    (left right : Condition)

include known

theorem word?_join : (join word left right).word? = some word := by
  rcases known with rfl | rfl <;> rfl

theorem characters_join :
    (join word left right).characters =
      linkText word left right left.characters right.characters := by
  rcases known with rfl | rfl <;> rfl

theorem nesting_join :
    (join word left right).nesting =
      max (operandNesting (left.isBracketed (some word)) left.nesting)
        (operandNesting (right.isBracketed none) right.nesting) := by
  rcases known with rfl | rfl <;> rfl

theorem chained_join :
    (join word left right).chained =
      operandChained (left.isBracketed (some word)) left.chained + 1 := by
  rcases known with rfl | rfl <;> rfl

theorem widest_join :
    (join word left right).widest =
      max (join word left right).chained (max left.widest right.widest) := by
  rcases known with rfl | rfl <;> rfl

end Link

/-- An operand that begins no chain brings no operators to its bracket level. -/
theorem operandChained_none (condition : Condition) :
    operandChained (condition.isBracketed none) condition.chained = 0 := by
  cases known : condition.word? with
  | none =>
      rw [chained_of_word? known]
      exact ite_self 0
  | some word =>
      rw [isBracketed, known]
      rfl

/-- What is read back of two operands is read back of what a word makes of them. -/
theorem ReadsBack.join
    {word : String}
    (known : word = "and" ∨ word = "or")
    {left right : Condition}
    (first : ReadsBack left)
    (second : ReadsBack right) :
    ReadsBack (join word left right) := by
  intro depth offset deep wide
  rw [nesting_join known] at deep
  rw [widest_join known] at wide
  have leftDeep := Nat.le_trans (Nat.add_le_add_left (Nat.le_max_left _ _) depth) deep
  have rightDeep := Nat.le_trans (Nat.add_le_add_left (Nat.le_max_right _ _) depth) deep
  rcases first.operand (.inr rfl) leftDeep (by omega) offset with ⟨tokens, pieces, chain⟩
  have alone : (none : Option String) = none ∨ none = some word := .inl rfl
  rcases second.operand alone rightDeep (by omega)
      (offset + Text.byteLength (operandText (left.isBracketed (some word)) left.characters) +
        1 + Text.byteLength word.toList + 1) with
    ⟨later, more, last⟩
  rw [operandChained_none] at last
  have printed := pieces.joined known more
  rw [← linkText, ← characters_join known] at printed
  refine ⟨_, printed, fun own same => ?_⟩
  rw [word?_join known] at same
  obtain rfl : word = own := by simpa using same
  rw [chained_join known]
  exact chain.concat _ last.term

theorem Printable.readsBack
    {condition : Condition}
    (printable : Printable condition) :
    ReadsBack condition := by
  induction printable with
  | equal writable | notEqual writable | contains writable | notContains writable =>
      refine .of_check writable ?_ rfl rfl
      rintro value rfl
      constructor
  | @wildcard field choices writable unmarked =>
      refine .of_check writable ?_ rfl rfl
      intro value same
      have parsed : (alternatives value).map GlobAlternative.ofText = choices := by
        rw [same]
        exact map_ofText_text unmarked
      rw [← parsed]
      exact .wildcard
  | and _ _ first second => exact .join (.inl rfl) first second
  | or _ _ first second => exact .join (.inr rfl) first second

/--
What is printed can be scanned, and is read as the condition it was printed from, as long
as its brackets and its operators keep to the limits.
-/
theorem ofTokens_text
    {condition : Condition}
    (printable : Printable condition)
    (nested : condition.nesting ≤ 100)
    (wide : condition.widest ≤ 100) :
    ∃ tokens,
      Token.scan condition.text = .ok tokens ∧
        ofTokens tokens condition.text.utf8ByteSize = .ok condition := by
  have deep : 0 + condition.nesting ≤ maxNesting := by
    rw [Nat.zero_add]
    exact nested
  rcases printable.readsBack 0 0 deep wide with ⟨tokens, pieces, chain⟩
  have few : condition.chained ≤ maxChainedOperators :=
    Nat.le_trans condition.chained_le_widest wide
  have derived : DerivesCondition 0 tokens condition := by
    cases known : condition.word? with
    | none => exact (chain "and" (.inl known)).condition few
    | some word => exact (chain word (.inr known)).condition few
  refine ⟨tokens, ?_, derived.ofTokens _⟩
  rw [Token.scan, text, String.toList_ofList]
  exact pieces.scanFrom

/-- Quotes of both kinds, words and marks in quotes, and a chain beside groups. -/
theorem ofTokens_text_of_quotes_and_groups :
    ∃ tokens,
      Token.scan
          ("(\"it's\" = '(|or' and 'ключ' !~ ' != \"' and 'c' ~ ')') or " ++
            "('a*' : '!!x|y!' or 'b' = '')") =
          .ok tokens ∧
        ofTokens tokens 90 =
          .ok
            (.or
              (.and
                (.and (.equal "it's" ["(", "or"]) (.not (.contains "ключ" [" != \""])))
                (.contains "c" [")"]))
              (.or (.wildcard "a*" [⟨"!x", true⟩, ⟨"y!", false⟩]) (.equal "b" [""]))) := by
  let condition : Condition :=
    .or
      (.and
        (.and (.equal "it's" ["(", "or"]) (.not (.contains "ключ" [" != \""])))
        (.contains "c" [")"]))
      (.or (.wildcard "a*" [⟨"!x", true⟩, ⟨"y!", false⟩]) (.equal "b" [""]))
  have printable : Printable condition := by
    refine
      .or
        (.and (.and (.equal ?_) (.notContains ?_)) (.contains ?_))
        (.or (.wildcard ?_ ?_) (.equal ?_))
    case refine_5 => decide +kernel
    all_goals constructor <;> decide +kernel
  have read := ofTokens_text printable (by decide +kernel) (by decide +kernel)
  have printed :
      condition.text =
        "(\"it's\" = '(|or' and 'ключ' !~ ' != \"' and 'c' ~ ')') or " ++
          "('a*' : '!!x|y!' or 'b' = '')" := by
    decide +kernel
  rw [printed] at read
  exact read

end Condition

end LogRows
