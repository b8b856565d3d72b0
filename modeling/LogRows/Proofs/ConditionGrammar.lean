import LogRows.Condition.Parse

/-!
# The grammar of conditions

The grammar is said here without a reader: a term is a field check or a
condition in brackets, and a condition is a chain of terms.  What
`Condition.ofTokens` accepts is exactly what this grammar derives from the whole
token sequence, and the tree it builds is the one the grammar names
(`ofTokens_eq_ok_iff`).

Both directions follow the derivation.  A reader stops where its phrase ends,
so the statements about it speak of a phrase and of whatever comes behind it;
`Stops` says what may come behind the chain of one bracket level.
-/

namespace LogRows.Condition

/-- The check that a field operator stands for. -/
inductive CheckMeans (field value : String) : String → Condition → Prop where
  | equal : CheckMeans field value "=" (equal field (alternatives value))
  | notEqual : CheckMeans field value "!=" (not (equal field (alternatives value)))
  | contains : CheckMeans field value "~" (contains field (alternatives value))
  | notContains : CheckMeans field value "!~" (not (contains field (alternatives value)))
  | wildcard :
      CheckMeans field value ":"
        (wildcard field ((alternatives value).map GlobAlternative.ofText))

mutual

/-- The terms that may stand below a number of open brackets. -/
inductive DerivesTerm : Nat → List Token → Condition → Prop where
  | check
      {depth : Nat}
      {field operator value : Token}
      {tree : Condition}
      (fieldKind : field.kind = .string)
      (operatorKind : operator.kind = .fieldOperator)
      (valueKind : value.kind = .string)
      (means : CheckMeans field.lexeme value.lexeme operator.lexeme tree) :
      DerivesTerm depth [field, operator, value] tree
  | group
      {depth : Nat}
      {opening closing : Token}
      {inner : List Token}
      {tree : Condition}
      (shallow : depth < maxNesting)
      (opens : opening.kind = .openBracket)
      (closes : closing.kind = .closeBracket)
      (body : DerivesCondition (depth + 1) inner tree) :
      DerivesTerm depth (opening :: (inner ++ [closing])) tree

/-- The operators and operands behind a first term; the operators are all the same word. -/
inductive DerivesLinks : Nat → String → List Token → List Condition → Prop where
  | done
      {depth : Nat}
      {word : String} :
      DerivesLinks depth word [] []
  | link
      {depth : Nat}
      {operator : Token}
      {operand rest : List Token}
      {right : Condition}
      {operands : List Condition}
      (kind : operator.kind = .logicOperator)
      (term : DerivesTerm depth operand right)
      (more : DerivesLinks depth operator.lexeme rest operands) :
      DerivesLinks depth operator.lexeme (operator :: (operand ++ rest)) (right :: operands)

/-- The conditions that may stand below a number of open brackets; chains group to the left. -/
inductive DerivesCondition : Nat → List Token → Condition → Prop where
  | conjunction
      {depth : Nat}
      {first rest : List Token}
      {left : Condition}
      {operands : List Condition}
      (term : DerivesTerm depth first left)
      (links : DerivesLinks depth "and" rest operands)
      (few : operands.length ≤ maxChainedOperators) :
      DerivesCondition depth (first ++ rest) (operands.foldl and left)
  | disjunction
      {depth : Nat}
      {first rest : List Token}
      {left : Condition}
      {word : String}
      {operands : List Condition}
      (term : DerivesTerm depth first left)
      (links : DerivesLinks depth word rest operands)
      (other : word ≠ "and")
      (few : operands.length ≤ maxChainedOperators) :
      DerivesCondition depth (first ++ rest) (operands.foldl or left)

end

theorem ofOperator?_eq_some_iff
    {operator field value : String}
    {tree : Condition} :
    ofOperator? operator field value = some tree ↔
      CheckMeans field value operator tree := by
  constructor
  · intro found
    unfold ofOperator? at found
    repeat' split at found
    all_goals
      first
      | cases found
        subst operator
        constructor
      | cases found
  · rintro (_ | _ | _ | _ | _) <;> rfl

theorem join_and : join "and" = and :=
  rfl

theorem join_of_ne
    {word : String}
    (other : word ≠ "and") :
    join word = or := by
  funext left right
  exact if_neg other

/-- A chain of either kind, grouped by the word of its operators. -/
theorem DerivesCondition.ofLinks
    {depth : Nat}
    {first rest : List Token}
    {left : Condition}
    {word : String}
    {operands : List Condition}
    (term : DerivesTerm depth first left)
    (links : DerivesLinks depth word rest operands)
    (few : operands.length ≤ maxChainedOperators) :
    DerivesCondition depth (first ++ rest) (operands.foldl (join word) left) := by
  by_cases conjunctive : word = "and"
  · subst word
    exact join_and ▸ .conjunction term links few
  · exact join_of_ne conjunctive ▸ .disjunction term links conjunctive few

/-- What may follow the chain of a bracket level, and what is left behind the level. -/
inductive Stops : Option Nat → List Token → List Token → Prop where
  | atEnd : Stops none [] []
  | atBracket
      {offset : Nat}
      {closing : Token}
      {rest : List Token}
      (closes : closing.kind = .closeBracket) :
      Stops (some offset) (closing :: rest) rest

/-! ## What is read is derived -/

theorem readCheck_sound
    {inputEnd depth : Nat}
    {field : Token}
    (fieldKind : field.kind = .string)
    {tokens rest : List Token}
    {tree : Condition}
    (accepted : readCheck inputEnd field.lexeme tokens = .ok (tree, rest)) :
    ∃ used, field :: tokens = used ++ rest ∧ DerivesTerm depth used tree := by
  unfold readCheck at accepted
  split at accepted
  case h_1 => cases accepted
  case h_2 operator behind =>
    split at accepted
    case isTrue => cases accepted
    case isFalse operatorKind =>
      split at accepted
      case h_1 => cases accepted
      case h_2 value behind =>
        split at accepted
        case isTrue => cases accepted
        case isFalse valueKind =>
          split at accepted
          case h_2 => cases accepted
          case h_1 check means =>
            cases accepted
            refine ⟨[field, operator, value], rfl, ?_⟩
            exact .check fieldKind (Decidable.not_not.mp operatorKind)
              (Decidable.not_not.mp valueKind) (ofOperator?_eq_some_iff.mp means)

section Chain

variable
    {reader : List Token → Except SyntaxError (Condition × List Token)}
    {enclosing : Option Nat}

/-- A chain is over where its bracket level is. -/
theorem readChain_of_stops
    {budget : Nat}
    {operator : Option String}
    {left : Condition}
    {stop rest : List Token}
    (stops : Stops enclosing stop rest) :
    readChain reader enclosing budget operator left stop = .ok (left, rest) := by
  cases stops with
  | atEnd => simp only [readChain.eq_def]
  | atBracket closes => simp only [readChain.eq_def, closes]

/-- A chain goes on with every operator that is the word of the level, within its budget. -/
theorem readChain_operator
    {budget : Nat}
    {operator : Option String}
    {left : Condition}
    {token : Token}
    {rest : List Token}
    (kind : token.kind = .logicOperator)
    (same : operator = none ∨ operator = some token.lexeme) :
    readChain reader enclosing (budget + 1) operator left (token :: rest) =
      (reader rest).bind fun (right, rest) =>
        readChain reader enclosing budget (some token.lexeme)
          (join token.lexeme left right) rest := by
  have agreed : operator.filter (· ≠ token.lexeme) = none := by
    rcases same with rfl | rfl <;> simp
  simp only [readChain.eq_def reader enclosing (budget + 1), kind, agreed]
  rfl

/--
What a chain reader has done when it accepts: it has stopped at once, or read an operator
that it could accept and a term, and gone on.
-/
theorem readChain_eq_ok
    {budget : Nat}
    {operator : Option String}
    {left tree : Condition}
    {tokens rest : List Token}
    (accepted :
      readChain reader enclosing budget operator left tokens = .ok (tree, rest)) :
    (Stops enclosing tokens rest ∧ tree = left) ∨
      ∃ remaining token behind right after,
        budget = remaining + 1 ∧
          tokens = token :: behind ∧
          token.kind = .logicOperator ∧
          (operator = none ∨ operator = some token.lexeme) ∧
          reader behind = .ok (right, after) ∧
          readChain reader enclosing remaining (some token.lexeme)
            (join token.lexeme left right) after = .ok (tree, rest) := by
  cases tokens with
  | nil =>
      rw [readChain.eq_def] at accepted
      cases enclosing with
      | none =>
          cases accepted
          exact .inl ⟨.atEnd, rfl⟩
      | some offset => cases accepted
  | cons token behind =>
      rw [readChain.eq_def] at accepted
      simp only at accepted
      split at accepted
      case h_1 closes =>
        cases enclosing with
        | none => cases accepted
        | some offset =>
            cases accepted
            exact .inl ⟨.atBracket closes, rfl⟩
      case h_2 kind =>
        split at accepted
        case h_1 => cases accepted
        case h_2 agreed =>
          cases budget with
          | zero => cases accepted
          | succ remaining =>
              have same : operator = none ∨ operator = some token.lexeme := by
                cases operator with
                | none => exact .inl rfl
                | some first => simpa [Option.filter_eq_none_iff] using agreed
              cases read : reader behind with
              | error fault =>
                  rw [read] at accepted
                  cases accepted
              | ok result =>
                  rw [read] at accepted
                  exact .inr
                    ⟨remaining, token, behind, result.1, result.2, rfl, rfl, kind, same, read,
                      accepted⟩
      case h_3 => cases accepted

/-- What a chain reader accepts is a chain of at most its budget. -/
theorem readChain_sound
    {depth : Nat}
    (sound : ∀ {tokens rest : List Token} {tree : Condition},
      reader tokens = .ok (tree, rest) →
        ∃ used, tokens = used ++ rest ∧ DerivesTerm depth used tree)
    {budget : Nat}
    {operator : Option String}
    {left tree : Condition}
    {tokens rest : List Token}
    (accepted :
      readChain reader enclosing budget operator left tokens = .ok (tree, rest)) :
    ∃ word used stop operands,
      tokens = used ++ stop ∧
        Stops enclosing stop rest ∧
        (operator = none ∨ operator = some word) ∧
        DerivesLinks depth word used operands ∧
        operands.length ≤ budget ∧
        tree = operands.foldl (join word) left := by
  induction budget using Nat.strongRecOn generalizing operator left tokens with
  | _ budget ih =>
      obtain ⟨stops, rfl⟩ | ⟨remaining, token, behind, right, after, rfl, rfl, kind, same,
        read, goesOn⟩ := readChain_eq_ok accepted
      · refine ⟨operator.getD "and", [], tokens, [], rfl, stops, ?_, .done, Nat.zero_le _, rfl⟩
        cases operator <;> simp
      · rcases sound read with ⟨operand, rfl, term⟩
        rcases ih remaining (Nat.lt_succ_self _) goesOn with
          ⟨word, used, stop, operands, rfl, stops, agreed, links, few, rfl⟩
        obtain rfl : token.lexeme = word := by simpa using agreed
        exact
          ⟨token.lexeme, token :: (operand ++ used), stop, right :: operands, by simp, stops,
            same, .link kind term links, Nat.succ_le_succ few, rfl⟩

end Chain

/-- What a group reader accepts is a condition, ended as its bracket level demands. -/
theorem readGroup_sound
    {inputEnd levels depth : Nat}
    (sound : ∀ {tokens rest : List Token} {tree : Condition},
      readTerm inputEnd levels tokens = .ok (tree, rest) →
        ∃ used, tokens = used ++ rest ∧ DerivesTerm depth used tree)
    {enclosing : Option Nat}
    {tokens rest : List Token}
    {tree : Condition}
    (accepted : readGroup inputEnd levels enclosing tokens = .ok (tree, rest)) :
    ∃ used stop,
      tokens = used ++ stop ∧ Stops enclosing stop rest ∧ DerivesCondition depth used tree := by
  rw [readGroup] at accepted
  cases read : readTerm inputEnd levels tokens with
  | error fault =>
      rw [read] at accepted
      cases accepted
  | ok result =>
      rw [read] at accepted
      rcases sound read with ⟨first, rfl, term⟩
      rcases readChain_sound sound accepted with
        ⟨word, used, stop, operands, equal, stops, _, links, few, rfl⟩
      refine ⟨first ++ used, stop, ?_, stops, .ofLinks term links few⟩
      rw [equal, List.append_assoc]

/-- What a term reader has done when it accepts: it has read a check, or a group in brackets. -/
theorem readTerm_eq_ok
    {inputEnd levels : Nat}
    {tokens rest : List Token}
    {tree : Condition}
    (accepted : readTerm inputEnd levels tokens = .ok (tree, rest)) :
    ∃ token behind,
      tokens = token :: behind ∧
        ((token.kind = .string ∧
            readCheck inputEnd token.lexeme behind = .ok (tree, rest)) ∨
          ∃ inner,
            levels = inner + 1 ∧
              token.kind = .openBracket ∧
              readGroup inputEnd inner (some token.offset) behind = .ok (tree, rest)) := by
  rw [readTerm.eq_def] at accepted
  split at accepted
  case h_1 => cases accepted
  case h_2 token behind =>
    refine ⟨token, behind, rfl, ?_⟩
    split at accepted
    case h_1 kind => exact .inl ⟨kind, accepted⟩
    case h_2 opens =>
      cases levels with
      | zero => cases accepted
      | succ inner => exact .inr ⟨inner, rfl, opens, accepted⟩
    case h_3 => cases accepted

/-- What is read as a term is derived as one. -/
theorem readTerm_sound
    {inputEnd levels depth : Nat}
    (deep : depth + levels = maxNesting)
    {tokens rest : List Token}
    {tree : Condition}
    (accepted : readTerm inputEnd levels tokens = .ok (tree, rest)) :
    ∃ used, tokens = used ++ rest ∧ DerivesTerm depth used tree := by
  induction levels generalizing depth tokens rest tree with
  | zero =>
      rcases readTerm_eq_ok accepted with
        ⟨token, behind, rfl, ⟨kind, check⟩ | ⟨_, impossible, _⟩⟩
      · exact readCheck_sound kind check
      · cases impossible
  | succ levels ih =>
      rcases readTerm_eq_ok accepted with
        ⟨token, behind, rfl, ⟨kind, check⟩ | ⟨inner, equal, opens, group⟩⟩
      · exact readCheck_sound kind check
      · cases equal
        have deeper : depth + 1 + levels = maxNesting := by omega
        rcases readGroup_sound (ih deeper) group with ⟨used, stop, rfl, stops, body⟩
        cases stops with
        | atBracket closes =>
            refine ⟨token :: (used ++ [_]), ?_, .group (by omega) opens closes body⟩
            simp

/-! ## What is derived is read -/

theorem readCheck_of_means
    {inputEnd : Nat}
    {field operator value : Token}
    {rest : List Token}
    {tree : Condition}
    (operatorKind : operator.kind = .fieldOperator)
    (valueKind : value.kind = .string)
    (means : CheckMeans field.lexeme value.lexeme operator.lexeme tree) :
    readCheck inputEnd field.lexeme (operator :: value :: rest) = .ok (tree, rest) := by
  simp [readCheck, operatorKind, valueKind, ofOperator?_eq_some_iff.mpr means]

mutual

/-- A term is read as what it is derived as, whatever comes behind it. -/
theorem DerivesTerm.read
    {inputEnd depth levels : Nat}
    (deep : depth + levels = maxNesting)
    {used : List Token}
    {tree : Condition}
    (derived : DerivesTerm depth used tree)
    (rest : List Token) :
    readTerm inputEnd levels (used ++ rest) = .ok (tree, rest) := by
  match derived with
  | .check fieldKind operatorKind valueKind means =>
      rw [List.cons_append, readTerm.eq_def]
      simp only [fieldKind]
      exact readCheck_of_means operatorKind valueKind means
  | @DerivesTerm.group _ opening closing inner _ shallow opens closes body =>
      obtain ⟨below, rfl⟩ : ∃ below, levels = below + 1 := ⟨levels - 1, by omega⟩
      have deeper : depth + 1 + below = maxNesting := by omega
      have behind : Stops (some opening.offset) ([closing] ++ rest) rest := .atBracket closes
      rw [List.cons_append, List.append_assoc, readTerm.eq_def]
      simp only [opens]
      exact body.read deeper behind

/-- Links are read as what they are derived as, up to the end of their bracket level. -/
theorem DerivesLinks.read
    {inputEnd depth levels : Nat}
    (deep : depth + levels = maxNesting)
    {word : String}
    {used : List Token}
    {operands : List Condition}
    (derived : DerivesLinks depth word used operands)
    {enclosing : Option Nat}
    {stop rest : List Token}
    (stops : Stops enclosing stop rest)
    {budget : Nat}
    (few : operands.length ≤ budget)
    {operator : Option String}
    (same : operator = none ∨ operator = some word)
    (left : Condition) :
    readChain (readTerm inputEnd levels) enclosing budget operator left (used ++ stop) =
      .ok (operands.foldl (join word) left, rest) := by
  match derived with
  | .done => exact readChain_of_stops stops
  | @DerivesLinks.link _ operator operand more _ _ kind term links =>
      obtain ⟨remaining, rfl⟩ : ∃ remaining, budget = remaining + 1 :=
        ⟨budget - 1, by simp only [List.length_cons] at few; omega⟩
      rw [List.cons_append, List.append_assoc, readChain_operator kind same,
        term.read deep (more ++ stop)]
      exact links.read deep stops (Nat.le_of_succ_le_succ few) (.inr rfl) _

/-- A condition is read as what it is derived as, up to the end of its bracket level. -/
theorem DerivesCondition.read
    {inputEnd depth levels : Nat}
    (deep : depth + levels = maxNesting)
    {used : List Token}
    {tree : Condition}
    (derived : DerivesCondition depth used tree)
    {enclosing : Option Nat}
    {stop rest : List Token}
    (stops : Stops enclosing stop rest) :
    readGroup inputEnd levels enclosing (used ++ stop) = .ok (tree, rest) := by
  match derived with
  | .conjunction term links few =>
      rw [List.append_assoc, readGroup, term.read deep]
      exact links.read deep stops few (.inl rfl) _
  | .disjunction term links other few =>
      rw [List.append_assoc, readGroup, term.read deep, ← join_of_ne other]
      exact links.read deep stops few (.inl rfl) _

end

theorem DerivesCondition.ofTokens
    {tokens : List Token}
    {tree : Condition}
    (derived : DerivesCondition 0 tokens tree)
    (inputEnd : Nat) :
    Condition.ofTokens tokens inputEnd = .ok tree := by
  have read : readGroup inputEnd maxNesting none (tokens ++ []) = .ok (tree, []) :=
    derived.read (Nat.zero_add maxNesting) .atEnd
  rw [List.append_nil] at read
  rw [Condition.ofTokens, read]
  rfl

theorem DerivesCondition.of_ofTokens
    {tokens : List Token}
    {inputEnd : Nat}
    {tree : Condition}
    (accepted : Condition.ofTokens tokens inputEnd = .ok tree) :
    DerivesCondition 0 tokens tree := by
  rw [Condition.ofTokens] at accepted
  cases read : readGroup inputEnd maxNesting none tokens with
  | error fault =>
      rw [read] at accepted
      cases accepted
  | ok result =>
      rcases result with ⟨built, rest⟩
      rw [read] at accepted
      cases accepted
      have deep := Nat.zero_add maxNesting
      rcases readGroup_sound (readTerm_sound deep) read with ⟨used, stop, rfl, stops, derived⟩
      cases stops
      rw [List.append_nil]
      exact derived

/-- What is accepted is what the grammar derives, and it derives one tree at most. -/
theorem ofTokens_eq_ok_iff
    (tokens : List Token)
    (inputEnd : Nat) :
    (∀ tree, ofTokens tokens inputEnd = .ok tree ↔ DerivesCondition 0 tokens tree) ∧
      ∀ first second,
        DerivesCondition 0 tokens first → DerivesCondition 0 tokens second → first = second := by
  refine ⟨fun tree => ⟨.of_ofTokens, fun derived => derived.ofTokens inputEnd⟩, ?_⟩
  intro first second one other
  exact Except.ok.inj ((one.ofTokens inputEnd).symm.trans (other.ofTokens inputEnd))

end LogRows.Condition
