import LogRows.Proofs.ConditionGrammar

/-!
# Where a condition goes wrong

A token sequence that is not a condition either stops too early, and more tokens can
make a condition of it, or holds a first token behind which nothing can help any
more.  The fault that `Condition.ofTokens` reports tells the two apart, and names the
end, the innermost bracket that is still open, or that first token
(`offset_of_ofTokens_error`).

Every reader is treated alike.  `FailsAt` says where a reader fails, in terms of
what it could still have read (the beginnings of terms, links and conditions), and
`FailsAt.lift` carries this over from a reader to the one that has called it.
-/

namespace LogRows

/-- Whether a fault is found at the end of the tokens and not at one of them. -/
def SyntaxError.isAtEnd : SyntaxError → Bool
  | unexpectedEnd _ _ => true
  | missingCloseBracket _ => true
  | _ => false

namespace Condition

/-- Whether more tokens can make an accepted sequence of some tokens. -/
def CanGoOn (tokens : List Token) : Prop :=
  ∃ more inputEnd tree, ofTokens (tokens ++ more) inputEnd = .ok tree

/--
The offsets of the brackets that are open behind some tokens, the innermost first, if
those of `outer` are open before them.
-/
def unclosed (outer : List Nat) : List Token → List Nat
  | [] => outer
  | token :: rest =>
      match token.kind with
      | .openBracket => unclosed (token.offset :: outer) rest
      | .closeBracket => unclosed outer.tail rest
      | _ => unclosed outer rest

/-- The operators that a field operator can be. -/
def checkOperators : List String :=
  ["=", "!=", "~", "!~", ":"]

/-- Whether the field operators among some tokens stand for checks. -/
def ChecksKnown (tokens : List Token) : Prop :=
  ∀ token ∈ tokens, token.kind = .fieldOperator → token.lexeme ∈ checkOperators

/-- The beginnings of the terms at a depth. -/
def BeginsTerm (depth : Nat) (tokens : List Token) : Prop :=
  ∃ more tree, DerivesTerm depth (tokens ++ more) tree

/-- The beginnings of what may follow a term, for a budget of operators that must be one word. -/
def BeginsLinks
    (depth budget : Nat)
    (operator : Option String)
    (tokens : List Token) :
    Prop :=
  ∃ more word operands,
    DerivesLinks depth word (tokens ++ more) operands ∧
      operands.length ≤ budget ∧
      (operator = none ∨ operator = some word)

/-- The beginnings of the conditions at a depth. -/
def BeginsCondition (depth : Nat) (tokens : List Token) : Prop :=
  ∃ more tree, DerivesCondition depth (tokens ++ more) tree

/-! ## Brackets -/

section Brackets

variable
    {outer : List Nat}
    {token : Token}
    {rest : List Token}

theorem unclosed_open (opens : token.kind = .openBracket) :
    unclosed outer (token :: rest) = unclosed (token.offset :: outer) rest := by
  simp only [unclosed, opens]

theorem unclosed_close (closes : token.kind = .closeBracket) :
    unclosed outer (token :: rest) = unclosed outer.tail rest := by
  simp only [unclosed, closes]

theorem unclosed_other
    (unopened : token.kind ≠ .openBracket)
    (unclosing : token.kind ≠ .closeBracket) :
    unclosed outer (token :: rest) = unclosed outer rest := by
  rw [unclosed]
  split
  · exact absurd ‹_› unopened
  · exact absurd ‹_› unclosing
  · rfl

end Brackets

mutual

/-- A term closes the brackets that it opens, and no other. -/
theorem DerivesTerm.unclosed_append
    {depth : Nat}
    {used : List Token}
    {tree : Condition}
    (derived : DerivesTerm depth used tree)
    (outer : List Nat)
    (rest : List Token) :
    unclosed outer (used ++ rest) = unclosed outer rest := by
  match derived with
  | .check fieldKind operatorKind valueKind means =>
      simp only [List.cons_append, List.nil_append]
      rw [unclosed_other, unclosed_other, unclosed_other]
      all_goals simp [fieldKind, operatorKind, valueKind]
  | @DerivesTerm.group _ opening closing inner _ shallow opens closes body =>
      rw [List.cons_append, List.append_assoc, unclosed_open opens,
        body.unclosed_append, List.singleton_append, unclosed_close closes, List.tail_cons]

theorem DerivesLinks.unclosed_append
    {depth : Nat}
    {word : String}
    {used : List Token}
    {operands : List Condition}
    (derived : DerivesLinks depth word used operands)
    (outer : List Nat)
    (rest : List Token) :
    unclosed outer (used ++ rest) = unclosed outer rest := by
  match derived with
  | .done => rfl
  | @DerivesLinks.link _ operator operand more _ _ kind term links =>
      rw [List.cons_append, List.append_assoc, unclosed_other, term.unclosed_append,
        links.unclosed_append]
      all_goals simp [kind]

theorem DerivesCondition.unclosed_append
    {depth : Nat}
    {used : List Token}
    {tree : Condition}
    (derived : DerivesCondition depth used tree)
    (outer : List Nat)
    (rest : List Token) :
    unclosed outer (used ++ rest) = unclosed outer rest := by
  match derived with
  | .conjunction term links _ =>
      rw [List.append_assoc, term.unclosed_append, links.unclosed_append]
  | .disjunction term links _ _ =>
      rw [List.append_assoc, term.unclosed_append, links.unclosed_append]

end

/-! ## Beginnings -/

theorem exists_means_of_known
    {operator : String}
    (known : operator ∈ checkOperators)
    (field value : String) :
    ∃ tree, CheckMeans field value operator tree := by
  simp only [checkOperators, List.mem_cons, List.not_mem_nil, or_false] at known
  rcases known with rfl | rfl | rfl | rfl | rfl
  · exact ⟨_, .equal⟩
  · exact ⟨_, .notEqual⟩
  · exact ⟨_, .contains⟩
  · exact ⟨_, .notContains⟩
  · exact ⟨_, .wildcard⟩

section Beginnings

variable
    {depth : Nat}
    {tokens : List Token}

theorem beginsTerm_operator
    {field operator : Token}
    (fieldKind : field.kind = .string)
    (operatorKind : operator.kind = .fieldOperator)
    (known : operator.lexeme ∈ checkOperators) :
    BeginsTerm depth [field, operator] := by
  rcases exists_means_of_known known field.lexeme "" with ⟨tree, means⟩
  exact ⟨[⟨.string, "", 0⟩], tree, .check fieldKind operatorKind rfl means⟩

theorem beginsTerm_field
    {field : Token}
    (fieldKind : field.kind = .string) :
    BeginsTerm depth [field] :=
  ⟨[⟨.fieldOperator, "=", 0⟩, ⟨.string, "", 0⟩], _, .check fieldKind rfl rfl .equal⟩

theorem beginsTerm_nil : BeginsTerm depth [] :=
  ⟨[⟨.string, "", 0⟩, ⟨.fieldOperator, "=", 0⟩, ⟨.string, "", 0⟩], _, .check rfl rfl rfl .equal⟩

theorem beginsLinks_nil
    {budget : Nat}
    {operator : Option String} :
    BeginsLinks depth budget operator [] := by
  refine ⟨[], operator.getD "", [], .done, Nat.zero_le _, ?_⟩
  cases operator <;> simp

theorem BeginsTerm.condition (begun : BeginsTerm depth tokens) :
    BeginsCondition depth tokens := by
  rcases begun with ⟨more, tree, term⟩
  refine ⟨more, tree, ?_⟩
  have alone := DerivesCondition.conjunction term .done (Nat.zero_le _)
  rw [List.append_nil] at alone
  exact alone

theorem BeginsLinks.condition
    {used : List Token}
    {left : Condition}
    (term : DerivesTerm depth used left)
    (begun : BeginsLinks depth maxChainedOperators none tokens) :
    BeginsCondition depth (used ++ tokens) := by
  rcases begun with ⟨more, word, operands, links, few, _⟩
  refine ⟨more, operands.foldl (join word) left, ?_⟩
  rw [List.append_assoc]
  exact .ofLinks term links few

/-- A group can be closed wherever its condition can. -/
theorem BeginsCondition.term
    {opening : Token}
    (shallow : depth < maxNesting)
    (opens : opening.kind = .openBracket)
    (begun : BeginsCondition (depth + 1) tokens) :
    BeginsTerm depth (opening :: tokens) := by
  rcases begun with ⟨more, tree, body⟩
  refine ⟨more ++ [⟨.closeBracket, ")", 0⟩], tree, ?_⟩
  rw [List.cons_append, ← List.append_assoc]
  exact .group shallow opens rfl body

theorem BeginsTerm.links
    {budget : Nat}
    {operator : Option String}
    {token : Token}
    (kind : token.kind = .logicOperator)
    (same : operator = none ∨ operator = some token.lexeme)
    (begun : BeginsTerm depth tokens) :
    BeginsLinks depth (budget + 1) operator (token :: tokens) := by
  rcases begun with ⟨more, right, term⟩
  refine ⟨more, token.lexeme, [right], ?_, Nat.succ_le_succ (Nat.zero_le _), same⟩
  have link := DerivesLinks.link kind term .done
  rw [List.append_nil] at link
  exact link

theorem BeginsLinks.links
    {budget : Nat}
    {operator : Option String}
    {token : Token}
    {operand : List Token}
    {right : Condition}
    (kind : token.kind = .logicOperator)
    (same : operator = none ∨ operator = some token.lexeme)
    (term : DerivesTerm depth operand right)
    (begun : BeginsLinks depth budget (some token.lexeme) tokens) :
    BeginsLinks depth (budget + 1) operator (token :: (operand ++ tokens)) := by
  rcases begun with ⟨more, word, operands, links, few, agreed⟩
  obtain rfl : token.lexeme = word := by simpa using agreed
  refine ⟨more, token.lexeme, right :: operands, ?_, Nat.succ_le_succ few, same⟩
  have link := DerivesLinks.link kind term links
  rw [List.cons_append, List.append_assoc]
  exact link

end Beginnings

/-! ## Failing readers -/

/--
Where a reader fails: at the end of tokens that more tokens could help, or at the first
token behind which nothing helps.  A bracket at `enclosing` may be open around the tokens.
-/
inductive FailsAt
    {Result : Type}
    (reader : List Token → Except SyntaxError Result)
    (begins : List Token → Prop)
    (inputEnd : Nat)
    (enclosing : Option Nat)
    (tokens : List Token) :
    SyntaxError → Prop where
  | atEnd
      {expected : Expected}
      (begun : begins tokens) :
      FailsAt reader begins inputEnd enclosing tokens (.unexpectedEnd inputEnd expected)
  | inBracket
      {offset : Nat}
      (begun : begins tokens)
      (innermost :
        ∀ outer, (unclosed (enclosing.toList ++ outer) tokens).head? = some offset) :
      FailsAt reader begins inputEnd enclosing tokens (.missingCloseBracket offset)
  | atToken
      {before after : List Token}
      {bad : Token}
      {fault : SyntaxError}
      (cut : tokens = before ++ bad :: after)
      (begun : begins before)
      (offset : fault.offset = bad.offset)
      (inside : fault.isAtEnd = false)
      (hopeless : ∀ rest, reader (before ++ bad :: rest) = .error fault) :
      FailsAt reader begins inputEnd enclosing tokens fault

section Failures

variable
    {inputEnd depth levels : Nat}
    {fault : SyntaxError}

/-- A reader that calls another behind some tokens fails where that one does. -/
theorem FailsAt.lift
    {Inner Outer : Type}
    {inner : List Token → Except SyntaxError Inner}
    {caller : List Token → Except SyntaxError Outer}
    {begins begins' : List Token → Prop}
    {enclosing enclosing' : Option Nat}
    {rest : List Token}
    (fails : FailsAt inner begins inputEnd enclosing rest fault)
    (used : List Token)
    (begun : ∀ {tokens}, begins tokens → begins' (used ++ tokens))
    (passes :
      ∀ {tokens other}, inner tokens = .error other → caller (used ++ tokens) = .error other)
    (brackets :
      ∀ outer, ∃ around, ∀ tokens,
        unclosed (enclosing'.toList ++ outer) (used ++ tokens) =
          unclosed (enclosing.toList ++ around) tokens) :
    FailsAt caller begins' inputEnd enclosing' (used ++ rest) fault := by
  cases fails with
  | atEnd beginning => exact .atEnd (begun beginning)
  | @inBracket offset beginning innermost =>
      refine .inBracket (begun beginning) ?_
      intro outer
      rcases brackets outer with ⟨around, same⟩
      rw [same]
      exact innermost around
  | @atToken before after bad _ cut beginning offset inside hopeless =>
      subst cut
      refine .atToken (List.append_assoc _ _ _).symm (begun beginning) offset inside ?_
      intro rest
      rw [List.append_assoc]
      exact passes (hopeless rest)

theorem readCheck_failsAt
    {field : Token}
    (fieldKind : field.kind = .string)
    {tokens : List Token}
    (known : ChecksKnown tokens)
    (failed : readCheck inputEnd field.lexeme tokens = .error fault) :
    FailsAt (readTerm inputEnd levels) (BeginsTerm depth) inputEnd none
      (field :: tokens) fault := by
  have reads :
      ∀ rest, readTerm inputEnd levels (field :: rest) =
        readCheck inputEnd field.lexeme rest := by
    intro rest
    rw [readTerm.eq_def]
    simp only [fieldKind]
  cases tokens with
  | nil =>
      cases failed
      exact .atEnd (beginsTerm_field fieldKind)
  | cons operator behind =>
      by_cases operatorKind : operator.kind = .fieldOperator
      · have member := known operator List.mem_cons_self operatorKind
        have begun : BeginsTerm depth [field, operator] :=
          beginsTerm_operator fieldKind operatorKind member
        cases behind with
        | nil =>
            simp only [readCheck, operatorKind, ne_eq, not_true_eq_false, if_false] at failed
            cases failed
            exact .atEnd begun
        | cons value rest =>
            by_cases valueKind : value.kind = .string
            · rcases exists_means_of_known member field.lexeme value.lexeme with ⟨tree, means⟩
              rw [readCheck_of_means operatorKind valueKind means] at failed
              cases failed
            · have refuses : ∀ rest, readCheck inputEnd field.lexeme (operator :: value :: rest) =
                  .error (.unexpectedToken value.lexeme value.offset .fieldValue) := by
                intro rest
                simp [readCheck, operatorKind, valueKind]
              rw [refuses] at failed
              cases failed
              have cut :
                  field :: operator :: value :: rest = [field, operator] ++ value :: rest := rfl
              exact .atToken cut begun rfl rfl fun rest => (reads _).trans (refuses rest)
      · have refuses : ∀ rest, readCheck inputEnd field.lexeme (operator :: rest) =
            .error (.unexpectedToken operator.lexeme operator.offset .fieldOperator) := by
          intro rest
          simp [readCheck, operatorKind]
        rw [refuses] at failed
        cases failed
        have cut : field :: operator :: behind = [field] ++ operator :: behind := rfl
        exact .atToken cut (beginsTerm_field fieldKind) rfl rfl
          fun rest => (reads _).trans (refuses rest)

/-- A reader refuses a token if it fails there whatever comes behind it. -/
def Refuses
    {Result : Type}
    (reader : List Token → Except SyntaxError Result)
    (fault : SyntaxError)
    (tokens : List Token) :
    Prop :=
  ∃ token behind,
    tokens = token :: behind ∧
      fault.offset = token.offset ∧
      fault.isAtEnd = false ∧
      ∀ rest, reader (token :: rest) = .error fault

theorem refused_of_error
    {Result : Type}
    {reader : List Token → Except SyntaxError Result}
    {token : Token}
    {behind : List Token}
    (found : SyntaxError)
    (refuses : ∀ rest, reader (token :: rest) = .error found)
    (offset : found.offset = token.offset)
    (inside : found.isAtEnd = false)
    (failed : reader (token :: behind) = .error fault) :
    Refuses reader fault (token :: behind) := by
  obtain rfl : found = fault := Except.error.inj ((refuses behind).symm.trans failed)
  exact ⟨token, behind, rfl, offset, inside, refuses⟩

theorem Refuses.failsAt
    {Result : Type}
    {reader : List Token → Except SyntaxError Result}
    {begins : List Token → Prop}
    {enclosing : Option Nat}
    {tokens : List Token}
    (refused : Refuses reader fault tokens)
    (begun : begins []) :
    FailsAt reader begins inputEnd enclosing tokens fault := by
  rcases refused with ⟨token, behind, rfl, offset, inside, refuses⟩
  exact .atToken (List.nil_append _).symm begun offset inside refuses

/--
What a chain reader has done when it fails: it lacks the bracket that closes its level, or
refuses a token, or has read an operator that it could accept and failed behind it.
-/
theorem readChain_eq_error
    {reader : List Token → Except SyntaxError (Condition × List Token)}
    {enclosing : Option Nat}
    {budget : Nat}
    {operator : Option String}
    {left : Condition}
    {tokens : List Token}
    (failed : readChain reader enclosing budget operator left tokens = .error fault) :
    (∃ offset,
        tokens = [] ∧ enclosing = some offset ∧ fault = .missingCloseBracket offset) ∨
      Refuses (readChain reader enclosing budget operator left) fault tokens ∨
      ∃ remaining token behind,
        budget = remaining + 1 ∧
          tokens = token :: behind ∧
          token.kind = .logicOperator ∧
          (operator = none ∨ operator = some token.lexeme) ∧
          (reader behind = .error fault ∨
            ∃ right after,
              reader behind = .ok (right, after) ∧
                readChain reader enclosing remaining (some token.lexeme)
                  (join token.lexeme left right) after = .error fault) := by
  cases tokens with
  | nil =>
      cases enclosing with
      | none =>
          simp only [readChain.eq_def] at failed
          cases failed
      | some offset =>
          simp only [readChain.eq_def] at failed
          cases failed
          exact .inl ⟨offset, rfl, rfl, rfl⟩
  | cons token behind =>
      right
      cases kind : token.kind with
      | closeBracket =>
          cases enclosing with
          | some offset =>
              simp only [readChain.eq_def, kind] at failed
              cases failed
          | none =>
              refine .inl (refused_of_error (.unmatchedCloseBracket token.offset) ?_ rfl rfl failed)
              intro rest
              simp only [readChain.eq_def, kind]
      | logicOperator =>
          cases mixed : operator.filter (· ≠ token.lexeme) with
          | some first =>
              refine .inl (refused_of_error
                (.mixedLogicOperators first token.lexeme token.offset) ?_ rfl rfl failed)
              intro rest
              simp only [readChain.eq_def reader enclosing budget, kind, mixed]
          | none =>
              have same : operator = none ∨ operator = some token.lexeme := by
                cases operator with
                | none => exact .inl rfl
                | some first => simpa [Option.filter_eq_none_iff] using mixed
              cases budget with
              | zero =>
                  refine .inl (refused_of_error
                    (.tooManyOperators maxChainedOperators token.offset) ?_ rfl rfl failed)
                  intro rest
                  simp only [readChain.eq_def reader enclosing 0, kind, mixed]
              | succ remaining =>
                  rw [readChain_operator kind same] at failed
                  refine .inr ⟨remaining, token, behind, rfl, rfl, kind, same, ?_⟩
                  cases read : reader behind with
                  | error other =>
                      rw [read] at failed
                      exact .inl failed
                  | ok result =>
                      rw [read] at failed
                      exact .inr ⟨result.1, result.2, rfl, failed⟩
      | string | fieldOperator | openBracket =>
          refine .inl (refused_of_error
            (.unexpectedToken token.lexeme token.offset .operatorOrBracket) ?_ rfl rfl failed)
          intro rest
          simp only [readChain.eq_def, kind]

section Levels

variable
    (deep : depth + levels = maxNesting)
    (terms :
      ∀ {tokens fault}, ChecksKnown tokens →
        readTerm inputEnd levels tokens = .error fault →
          FailsAt (readTerm inputEnd levels) (BeginsTerm depth) inputEnd none tokens fault)

include deep terms

theorem readChain_failsAt
    {enclosing : Option Nat}
    {budget : Nat}
    {operator : Option String}
    {left : Condition}
    {tokens : List Token}
    (known : ChecksKnown tokens)
    (failed :
      readChain (readTerm inputEnd levels) enclosing budget operator left tokens =
        .error fault) :
    FailsAt (readChain (readTerm inputEnd levels) enclosing budget operator left)
      (BeginsLinks depth budget operator) inputEnd enclosing tokens fault := by
  induction budget using Nat.strongRecOn generalizing operator left tokens with
  | _ budget ih =>
      rcases readChain_eq_error failed with
        ⟨offset, rfl, rfl, rfl⟩ | refused |
        ⟨remaining, token, behind, rfl, rfl, kind, same, reads⟩
      · exact .inBracket beginsLinks_nil fun _ => rfl
      · exact refused.failsAt beginsLinks_nil
      · have later : ChecksKnown behind :=
          fun token member => known token (List.mem_cons_of_mem _ member)
        have plain : ∀ outer rest, unclosed outer (token :: rest) = unclosed outer rest := by
          intro outer rest
          rw [unclosed_other] <;> simp [kind]
        rcases reads with termFails | ⟨right, after, read, chainFails⟩
        · refine (terms later termFails).lift [token] ?_ ?_ ?_
          · exact fun begun => BeginsTerm.links kind same begun
          · intro rest other fails
            rw [List.singleton_append, readChain_operator kind same, fails]
            rfl
          · exact fun outer => ⟨enclosing.toList ++ outer, fun rest => plain _ rest⟩
        · rcases readTerm_sound deep read with ⟨operand, rfl, term⟩
          have behind : ChecksKnown after :=
            fun token member => later token (List.mem_append_right _ member)
          have fails := ih remaining (Nat.lt_succ_self _) behind chainFails
          refine fails.lift (token :: operand) ?_ ?_ ?_
          · exact fun begun => BeginsLinks.links kind same term begun
          · intro rest other fails
            rw [List.cons_append, readChain_operator kind same, term.read deep]
            exact fails
          · intro outer
            refine ⟨outer, fun rest => ?_⟩
            rw [List.cons_append, plain, term.unclosed_append]

theorem readGroup_failsAt
    {enclosing : Option Nat}
    {tokens : List Token}
    (known : ChecksKnown tokens)
    (failed : readGroup inputEnd levels enclosing tokens = .error fault) :
    FailsAt (readGroup inputEnd levels enclosing) (BeginsCondition depth) inputEnd enclosing
      tokens fault := by
  rw [readGroup] at failed
  cases read : readTerm inputEnd levels tokens with
  | error other =>
      rw [read] at failed
      cases failed
      refine (terms known read).lift [] ?_ ?_ ?_
      · exact fun begun => BeginsTerm.condition begun
      · intro rest other fails
        rw [List.nil_append, readGroup, fails]
        rfl
      · exact fun outer => ⟨enclosing.toList ++ outer, fun rest => rfl⟩
  | ok result =>
      rcases result with ⟨left, rest⟩
      rw [read] at failed
      rcases readTerm_sound deep read with ⟨used, rfl, term⟩
      have behind : ChecksKnown rest :=
        fun token member => known token (List.mem_append_right _ member)
      refine (readChain_failsAt deep terms behind failed).lift used ?_ ?_ ?_
      · exact fun begun => BeginsLinks.condition term begun
      · intro rest other fails
        rw [readGroup, term.read deep]
        exact fails
      · exact fun outer => ⟨outer, fun rest => term.unclosed_append _ rest⟩

end Levels

theorem readTerm_failsAt
    (deep : depth + levels = maxNesting)
    {tokens : List Token}
    (known : ChecksKnown tokens)
    (failed : readTerm inputEnd levels tokens = .error fault) :
    FailsAt (readTerm inputEnd levels) (BeginsTerm depth) inputEnd none tokens fault := by
  induction levels using Nat.strongRecOn generalizing depth tokens fault with
  | _ levels ih =>
      cases tokens with
      | nil =>
          rw [readTerm.eq_def] at failed
          cases failed
          exact .atEnd beginsTerm_nil
      | cons token behind =>
          have later : ChecksKnown behind :=
            fun token member => known token (List.mem_cons_of_mem _ member)
          cases kind : token.kind with
          | string =>
              rw [readTerm.eq_def] at failed
              simp only [kind] at failed
              exact readCheck_failsAt kind later failed
          | openBracket =>
              cases levels with
              | zero =>
                  refine Refuses.failsAt (refused_of_error
                    (.tooDeep maxNesting token.offset) ?_ rfl rfl failed) beginsTerm_nil
                  intro rest
                  rw [readTerm.eq_def]
                  simp only [kind]
              | succ inner =>
                  have reads :
                      ∀ rest, readTerm inputEnd (inner + 1) (token :: rest) =
                        readGroup inputEnd inner (some token.offset) rest := by
                    intro rest
                    rw [readTerm.eq_def]
                    simp only [kind]
                    rfl
                  have deeper : depth + 1 + inner = maxNesting := by omega
                  rw [reads] at failed
                  have fails :=
                    readGroup_failsAt deeper (ih inner (Nat.lt_succ_self _) deeper) later failed
                  refine fails.lift [token] ?_ ?_ ?_
                  · exact fun begun => BeginsCondition.term (by omega) kind begun
                  · exact fun fails => (reads _).trans fails
                  · exact fun outer => ⟨outer, fun rest => unclosed_open kind⟩
          | fieldOperator | logicOperator | closeBracket =>
              refine Refuses.failsAt (refused_of_error
                (.unexpectedToken token.lexeme token.offset .fieldOrBracket) ?_ rfl rfl failed)
                beginsTerm_nil
              intro rest
              rw [readTerm.eq_def]
              simp only [kind]

end Failures

/-! ## What a fault says -/

theorem CanGoOn.of_begins
    {tokens : List Token}
    (begun : BeginsCondition 0 tokens) :
    CanGoOn tokens := by
  rcases begun with ⟨more, tree, derived⟩
  exact ⟨more, 0, tree, derived.ofTokens 0⟩

theorem not_canGoOn_of_error
    {inputEnd : Nat}
    {fault : SyntaxError}
    {tokens : List Token}
    (hopeless :
      ∀ rest, readGroup inputEnd maxNesting none (tokens ++ rest) = .error fault) :
    ¬ CanGoOn tokens := by
  rintro ⟨more, otherEnd, tree, accepted⟩
  have accepted := (DerivesCondition.of_ofTokens accepted).ofTokens inputEnd
  rw [ofTokens, hopeless] at accepted
  cases accepted

theorem failsAt_of_ofTokens
    {tokens : List Token}
    {inputEnd : Nat}
    {fault : SyntaxError}
    (known : ChecksKnown tokens)
    (failed : ofTokens tokens inputEnd = .error fault) :
    FailsAt (readGroup inputEnd maxNesting none) (BeginsCondition 0) inputEnd none tokens
      fault := by
  have deep : 0 + maxNesting = maxNesting := Nat.zero_add _
  apply readGroup_failsAt deep (readTerm_failsAt deep) known
  rw [ofTokens] at failed
  cases read : readGroup inputEnd maxNesting none tokens with
  | error other =>
      rw [read] at failed
      cases failed
      rfl
  | ok result =>
      rw [read] at failed
      cases failed

/--
A fault points at the first token that makes a condition hopeless, or at what is lacking.

Tokens that end too early can go on to a condition, and the fault names their end or the
innermost bracket that is still open.  Every other fault names a token: those before it can
go on to a condition, and with it they cannot, whatever comes behind.
-/
theorem offset_of_ofTokens_error
    {tokens : List Token}
    {inputEnd : Nat}
    {fault : SyntaxError}
    (known : ChecksKnown tokens)
    (failed : ofTokens tokens inputEnd = .error fault) :
    (∀ offset expected, fault = .unexpectedEnd offset expected →
      CanGoOn tokens ∧ offset = inputEnd) ∧
      (∀ offset, fault = .missingCloseBracket offset →
        CanGoOn tokens ∧ (unclosed [] tokens).head? = some offset) ∧
      (fault.isAtEnd = false →
        ∃ index token,
          tokens[index]? = some token ∧
            fault.offset = token.offset ∧
            CanGoOn (tokens.take index) ∧
            ¬ CanGoOn (tokens.take (index + 1))) := by
  cases failsAt_of_ofTokens known failed with
  | atEnd begun =>
      refine ⟨?_, nofun, nofun⟩
      rintro offset expected ⟨⟩
      exact ⟨.of_begins begun, rfl⟩
  | inBracket begun innermost =>
      refine ⟨nofun, ?_, nofun⟩
      rintro offset ⟨⟩
      exact ⟨.of_begins begun, innermost []⟩
  | @atToken before after bad _ cut begun offset inside hopeless =>
      refine ⟨?_, ?_, ?_⟩
      · rintro offset expected rfl
        cases inside
      · rintro offset rfl
        cases inside
      · intro _
        refine ⟨before.length, bad, ?_, offset, ?_, ?_⟩
        · simp [cut]
        · rw [cut, List.take_left]
          exact .of_begins begun
        · have upTo : tokens.take (before.length + 1) = before ++ [bad] := by
            rw [cut, List.append_cons]
            exact List.take_left' (by simp)
          rw [upTo]
          apply not_canGoOn_of_error
          intro rest
          rw [List.append_assoc]
          exact hopeless rest

/-- Behind a chain of `and` in brackets it is the first `or` that cannot stand. -/
theorem offset_of_ofTokens_error_of_mixed :
    let tokens : List Token :=
      [
        ⟨.openBracket, "(", 0⟩, ⟨.string, "a", 1⟩, ⟨.fieldOperator, "=", 2⟩, ⟨.string, "b", 3⟩,
        ⟨.logicOperator, "and", 5⟩, ⟨.string, "c", 9⟩, ⟨.fieldOperator, "!~", 10⟩,
        ⟨.string, "d", 12⟩, ⟨.logicOperator, "or", 14⟩, ⟨.closeBracket, ")", 16⟩
      ]
    ChecksKnown tokens ∧
      ofTokens tokens 17 = .error (.mixedLogicOperators "and" "or" 14) ∧
      CanGoOn (tokens.take 8) ∧
      ¬ CanGoOn (tokens.take 9) := by
  intro tokens
  have known : ChecksKnown tokens := by
    unfold ChecksKnown
    decide
  have failed : ofTokens tokens 17 = .error (.mixedLogicOperators "and" "or" 14) := rfl
  rcases (offset_of_ofTokens_error known failed).2.2 rfl with
    ⟨index, token, found, offset, before, behind⟩
  have place : ∀ index < 10, tokens[index]?.map Token.offset = some 14 → index = 8 := by decide
  have small : index < 10 := (List.getElem?_eq_some_iff.mp found).1
  obtain rfl := place index small (by rw [found, Option.map_some, ← offset]; rfl)
  exact ⟨known, failed, before, behind⟩

end Condition

end LogRows
