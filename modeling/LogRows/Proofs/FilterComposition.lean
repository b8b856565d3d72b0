import LogRows.Condition.Filter
import LogRows.Proofs.ConditionGrammar
import LogRows.Proofs.Scanning

/-!
# Joining condition texts

Two conditions put in brackets and joined by a logic operator are a condition, and
what it accepts is what the operator makes of the two (`Filter.compile_joinedText`).
Everything that a condition goes through on its way has to respect the seams.  Brackets
and blanks are walls for lower case, they end every bare word, and a scanned text has no
quote or `!` left to finish.  The tokens of a part are then those of the condition alone,
moved behind what comes before it, and the grammar looks at no offset.  What remains
is the limit on brackets: a condition may stand below as many further ones as its own leave.
-/

namespace LogRows

/-! ## Brackets of a token sequence -/

/-- The number of brackets that are open behind a token. -/
def Token.levelBehind (level : Nat) (token : Token) : Nat :=
  match token.kind with
  | .openBracket => level + 1
  | .closeBracket => level - 1
  | _ => level

/-- The greatest number of brackets that are open at once in a token sequence. -/
def Token.deepest (level : Nat) : List Token → Nat
  | [] => level
  | token :: rest => max level (deepest (token.levelBehind level) rest)

theorem Token.le_deepest (level : Nat) (tokens : List Token) :
    level ≤ Token.deepest level tokens := by
  cases tokens with
  | nil => exact Nat.le_refl level
  | cons token rest => exact Nat.le_max_left level _

namespace Condition

/-- Whether tokens close what they open and have at most a number of brackets open at once. -/
def HasHeight (tokens : List Token) (height : Nat) : Prop :=
  ∀ level rest,
    Token.deepest level (tokens ++ rest) = max (level + height) (Token.deepest level rest)

theorem HasHeight.nil : HasHeight [] 0 := by
  intro level rest
  exact (Nat.max_eq_right (Token.le_deepest level rest)).symm

theorem HasHeight.append
    {tokens later : List Token}
    {height other : Nat}
    (first : HasHeight tokens height)
    (second : HasHeight later other) :
    HasHeight (tokens ++ later) (max height other) := by
  intro level rest
  rw [List.append_assoc, first, second, ← Nat.max_assoc, Nat.add_max_add_left]

/-- A token that is no bracket adds nothing. -/
theorem HasHeight.cons
    {token : Token}
    {tokens : List Token}
    {height : Nat}
    (unopened : token.kind ≠ .openBracket)
    (unclosed : token.kind ≠ .closeBracket)
    (more : HasHeight tokens height) :
    HasHeight (token :: tokens) height := by
  intro level rest
  have same : token.levelBehind level = level := by
    unfold Token.levelBehind
    split <;> simp_all
  rw [List.cons_append, Token.deepest, same, more]
  omega

theorem HasHeight.group
    {opening closing : Token}
    {inner : List Token}
    {height : Nat}
    (opens : opening.kind = .openBracket)
    (closes : closing.kind = .closeBracket)
    (body : HasHeight inner height) :
    HasHeight (opening :: (inner ++ [closing])) (height + 1) := by
  intro level rest
  have up : opening.levelBehind level = level + 1 := by rw [Token.levelBehind, opens]
  have down : closing.levelBehind (level + 1) = level := by rw [Token.levelBehind, closes]; rfl
  rw [List.cons_append, List.append_assoc, Token.deepest, up, body]
  rw [List.cons_append, List.nil_append, Token.deepest, down]
  have least := Token.le_deepest level rest
  omega

mutual

/-- A term may stand at any place of a text where its brackets leave the limit. -/
theorem DerivesTerm.exists_height
    {depth : Nat}
    {used : List Token}
    {tree : Condition}
    (derived : DerivesTerm depth used tree) :
    ∃ height,
      HasHeight used height ∧
        ∀ distance other, other + height ≤ maxNesting →
          DerivesTerm other (used.map (Token.moved distance)) tree := by
  match derived with
  | .check fieldKind operatorKind valueKind means =>
      refine ⟨0, ?_, fun _ _ _ => .check fieldKind operatorKind valueKind means⟩
      refine .cons ?_ ?_ (.cons ?_ ?_ (.cons ?_ ?_ .nil)) <;> simp_all
  | .group shallow opens closes body =>
      rcases body.exists_height with ⟨height, has, elsewhere⟩
      refine ⟨height + 1, has.group opens closes, fun distance other room => ?_⟩
      rw [List.map_cons, List.map_append]
      exact .group (by omega) opens closes (elsewhere distance (other + 1) (by omega))

theorem DerivesLinks.exists_height
    {depth : Nat}
    {word : String}
    {used : List Token}
    {operands : List Condition}
    (derived : DerivesLinks depth word used operands) :
    ∃ height,
      HasHeight used height ∧
        ∀ distance other, other + height ≤ maxNesting →
          DerivesLinks other word (used.map (Token.moved distance)) operands := by
  match derived with
  | .done => exact ⟨0, .nil, fun _ _ _ => .done⟩
  | @DerivesLinks.link _ operator _ _ _ _ kind term more =>
      rcases term.exists_height with ⟨height, has, elsewhere⟩
      rcases more.exists_height with ⟨further, hasMore, moreElsewhere⟩
      refine ⟨max height further, ?_, fun distance other room => ?_⟩
      · exact .cons (by simp [kind]) (by simp [kind]) (has.append hasMore)
      · rw [List.map_cons, List.map_append]
        exact @DerivesLinks.link _ (operator.moved distance) _ _ _ _ kind
          (elsewhere distance other (by omega)) (moreElsewhere distance other (by omega))

theorem DerivesCondition.exists_height
    {depth : Nat}
    {used : List Token}
    {tree : Condition}
    (derived : DerivesCondition depth used tree) :
    ∃ height,
      HasHeight used height ∧
        ∀ distance other, other + height ≤ maxNesting →
          DerivesCondition other (used.map (Token.moved distance)) tree := by
  match derived with
  | .conjunction term links few =>
      rcases term.exists_height with ⟨height, has, elsewhere⟩
      rcases links.exists_height with ⟨further, hasMore, moreElsewhere⟩
      refine ⟨max height further, has.append hasMore, fun distance other room => ?_⟩
      rw [List.map_append]
      exact .conjunction (elsewhere distance other (by omega))
        (moreElsewhere distance other (by omega)) few
  | .disjunction term links word few =>
      rcases term.exists_height with ⟨height, has, elsewhere⟩
      rcases links.exists_height with ⟨further, hasMore, moreElsewhere⟩
      refine ⟨max height further, has.append hasMore, fun distance other room => ?_⟩
      rw [List.map_append]
      exact .disjunction (elsewhere distance other (by omega))
        (moreElsewhere distance other (by omega)) word few

end

/-- A condition may stand below as many brackets as its own leave, and anywhere in a text. -/
theorem DerivesCondition.elsewhere
    {depth other : Nat}
    {tokens : List Token}
    {tree : Condition}
    (derived : DerivesCondition depth tokens tree)
    (room : other + Token.deepest 0 tokens ≤ maxNesting)
    (distance : Nat) :
    DerivesCondition other (tokens.map (Token.moved distance)) tree := by
  rcases derived.exists_height with ⟨height, has, elsewhere⟩
  have measured := has 0 []
  rw [List.append_nil, Token.deepest] at measured
  exact elsewhere distance other (by omega)

/-! ## Conditions that look at rows -/

/-- A derived sequence is more than one token. -/
theorem DerivesTerm.one_lt_length
    {depth : Nat}
    {used : List Token}
    {tree : Condition}
    (derived : DerivesTerm depth used tree) :
    1 < used.length := by
  cases derived <;> simp

theorem DerivesCondition.one_lt_length
    {depth : Nat}
    {used : List Token}
    {tree : Condition}
    (derived : DerivesCondition depth used tree) :
    1 < used.length := by
  cases derived with
  | conjunction term links few | disjunction term links word few =>
      have long := term.one_lt_length
      rw [List.length_append]
      omega

end Condition

namespace Token

theorem Pieces.length_le
    {offset : Nat}
    {text : List Char}
    {tokens : List Token}
    (pieces : Pieces offset text tokens) :
    tokens.length ≤ text.length := by
  induction pieces
  case done => exact Nat.le_refl 0
  all_goals
    simp only [List.length_cons, List.length_append]
    omega

section Blanks

variable
    {offset : Nat}
    {blanks text : List Char}
    {tokens : List Token}
    (blank : ∀ character ∈ blanks, Text.isBlank character = true)

include blank

theorem Pieces.blanks_append
    (more : Pieces (offset + Text.byteLength blanks) text tokens) :
    Pieces offset (blanks ++ text) tokens := by
  induction blanks generalizing offset with
  | nil => exact more
  | cons character blanks ih =>
      rw [Text.byteLength_cons, ← Nat.add_assoc] at more
      exact .blank (blank character List.mem_cons_self)
        (ih (fun other member => blank other (List.mem_cons_of_mem _ member)) more)

theorem detached_append_of_isBlank
    {rest : List Char}
    (apart : Detached rest) :
    Detached (blanks ++ rest) := by
  cases blanks with
  | nil => exact apart
  | cons character blanks => exact detached_of_isBlank (blank character List.mem_cons_self)

end Blanks

end Token

namespace Filter

open Condition Token

/-- The most brackets that are open at once in a condition text that can be scanned. -/
def nesting (condition : String) : Nat :=
  match Token.scan (cleaned condition) with
  | .ok tokens => Token.deepest 0 tokens
  | .error _ => 0

/-- Two condition texts in brackets, joined by an operator between spaces. -/
def joinedText (operator first second : String) : String :=
  "(" ++ first ++ ") " ++ operator ++ " (" ++ second ++ ")"

/-- What may become of a condition text. -/
theorem compile_cases (condition : String) :
    ((cleaned condition = "" ∨ cleaned condition = "*") ∧ compile condition = .ok all) ∨
      (∃ fault,
        Token.scan (cleaned condition) = .error fault ∧ compile condition = .error fault) ∨
      (∃ tokens fault,
        Token.scan (cleaned condition) = .ok tokens ∧
          Condition.ofTokens tokens (cleaned condition).utf8ByteSize = .error fault ∧
          compile condition = .error fault) ∨
      ∃ tokens tree,
        Token.scan (cleaned condition) = .ok tokens ∧
          Condition.ofTokens tokens (cleaned condition).utf8ByteSize = .ok tree ∧
          compile condition = .ok ⟨tree, true⟩ := by
  unfold compile
  simp only
  split
  case isTrue short =>
    simp only [Bool.or_eq_true, decide_eq_true_eq] at short
    exact .inl ⟨short, rfl⟩
  case isFalse =>
    right
    cases scanned : Token.scan (cleaned condition) with
    | error fault => exact .inl ⟨fault, rfl, rfl⟩
    | ok tokens =>
        right
        simp only [bind, Except.bind]
        cases parsed : Condition.ofTokens tokens (cleaned condition).utf8ByteSize with
        | error fault => exact .inl ⟨tokens, fault, rfl, parsed, rfl⟩
        | ok tree => exact .inr ⟨tokens, tree, rfl, parsed, rfl⟩

/-- What a condition that looks at rows is compiled from. -/
theorem compile_eq_ok
    {condition : String}
    {filter : Filter}
    (compiled : compile condition = .ok filter)
    (sifts : filter.isAll = false) :
    ∃ tokens,
      Token.scan (cleaned condition) = .ok tokens ∧
        DerivesCondition 0 tokens filter.condition ∧ filter.ignoresCase = true := by
  rcases compile_cases condition with
    ⟨_, built⟩ | ⟨_, _, failed⟩ | ⟨_, _, _, _, failed⟩ | ⟨tokens, tree, scanned, parsed, built⟩
  · cases built.symm.trans compiled
    cases sifts
  · cases failed.symm.trans compiled
  · cases failed.symm.trans compiled
  · cases built.symm.trans compiled
    exact ⟨tokens, scanned, .of_ofTokens parsed, rfl⟩

/-- A condition that is not compiled has no tokens, or tokens that are no condition. -/
theorem compile_eq_error
    {condition : String}
    {fault : SyntaxError}
    (failed : compile condition = .error fault) :
    Token.scan (cleaned condition) = .error fault ∨
      ∃ tokens,
        Token.scan (cleaned condition) = .ok tokens ∧
          Condition.ofTokens tokens (cleaned condition).utf8ByteSize = .error fault := by
  rcases compile_cases condition with
    ⟨_, built⟩ | ⟨_, unscanned, found⟩ | ⟨tokens, _, scanned, unparsed, found⟩ |
    ⟨_, _, _, _, built⟩
  · cases built.symm.trans failed
  · cases found.symm.trans failed
    exact .inl unscanned
  · cases found.symm.trans failed
    exact .inr ⟨tokens, scanned, unparsed⟩
  · cases built.symm.trans failed

/-- A text in the right form whose tokens are derived is compiled to what they derive. -/
theorem compile_of_pieces
    {condition : String}
    {tokens : List Token}
    {tree : Condition}
    (pieces : Pieces 0 (cleaned condition).toList tokens)
    (derived : DerivesCondition 0 tokens tree) :
    compile condition = .ok ⟨tree, true⟩ := by
  have long : 1 < (cleaned condition).toList.length :=
    Nat.lt_of_lt_of_le derived.one_lt_length pieces.length_le
  have other : ¬ ((cleaned condition = "" || cleaned condition = "*") = true) := by
    intro short
    rcases (Bool.or_eq_true _ _).mp short with empty | star
    · rw [of_decide_eq_true empty] at long
      cases long
    · rw [of_decide_eq_true star] at long
      exact absurd long (by decide)
  unfold compile
  rw [if_neg other, Token.scan, pieces.scanFrom]
  simp only [bind, Except.bind, derived.ofTokens (cleaned condition).utf8ByteSize]

/-- A condition in brackets is a term, wherever the text stands. -/
theorem exists_term_of_compile
    {condition : String}
    {filter : Filter}
    (compiled : compile condition = .ok filter)
    (sifts : filter.isAll = false)
    (shallow : nesting condition ≤ 99)
    (offset : Nat) :
    ∃ tokens,
      Pieces offset (Text.lowercaseAfter [] ('(' :: (condition.toList ++ [')']))) tokens ∧
        DerivesTerm 0 tokens filter.condition := by
  rcases compile_eq_ok compiled sifts with ⟨tokens, scanned, derived, _⟩
  rcases Text.exists_lowercaseAfter_eq condition.toList with
    ⟨front, back, whole, before, behind⟩
  have shape :
      Text.lowercaseAfter [] ('(' :: (condition.toList ++ [')'])) =
        '(' :: (front ++ ((cleaned condition).toList ++ (back ++ [')']))) := by
    rw [Text.lowercaseAfter_brackets, whole]
    simp [cleaned, Text.lowercase]
  have opening : markKind? '(' = some .openBracket := rfl
  have closing : markKind? ')' = some .closeBracket := rfl
  let start := offset + 1 + Text.byteLength front
  have body :
      Pieces start (cleaned condition).toList (tokens.map (Token.moved start)) := by
    have moved := (pieces_of_scanFrom scanned).moved start
    rw [Nat.zero_add] at moved
    exact moved
  have apart : Detached (back ++ [')']) :=
    detached_append_of_isBlank behind fun _ equal => by cases equal; decide
  rw [shape]
  refine ⟨_, .mark opening (.blanks_append before
    (body.append apart (.blanks_append behind (.mark closing .done)))), ?_⟩
  refine .group (by decide) rfl rfl (derived.elsewhere ?_ start)
  rw [nesting, scanned] at shallow
  simp only at shallow
  rw [maxNesting]
  omega

/-- The text that is read for two texts around a word without capitals. -/
theorem cleaned_spaced
    {condition : String}
    {front word back : List Char}
    {first last : Char}
    (text : condition.toList = front ++ ' ' :: (word ++ ' ' :: back))
    (small : Text.lowercaseAfter [] word = word)
    (begins : front.head? = some first)
    (ends : back.getLast? = some last)
    (firstSolid : Text.isBlank first = false)
    (lastSolid : Text.isBlank last = false) :
    (cleaned condition).toList =
      Text.lowercaseAfter [] front ++ ' ' :: (word ++ ' ' :: Text.lowercaseAfter [] back) := by
  have untrimmed : Text.trim condition.toList = condition.toList := by
    apply Text.trim_of_ends
    · rw [text, List.head?_append, begins, Option.some_or]
      rintro _ ⟨⟩
      exact firstSolid
    · have split : condition.toList = (front ++ ' ' :: (word ++ [' '])) ++ back := by
        simp [text]
      rw [split, List.getLast?_append, ends, Option.some_or]
      rintro _ ⟨⟩
      exact lastSolid
  rw [cleaned, Text.lowercase, untrimmed, text, String.toList_ofList, String.toList_ofList]
  exact Text.lowercaseAfter_spaced small front back

/-- The text that is read for two conditions joined by an operator without capitals. -/
theorem cleaned_joinedText
    {operator : String}
    (small : Text.lowercaseAfter [] operator.toList = operator.toList)
    (first second : String) :
    (cleaned (joinedText operator first second)).toList =
      Text.lowercaseAfter [] ('(' :: (first.toList ++ [')'])) ++
        ' ' :: (operator.toList ++
          ' ' :: Text.lowercaseAfter [] ('(' :: (second.toList ++ [')']))) := by
  have text :
      (joinedText operator first second).toList =
        '(' :: (first.toList ++ [')']) ++
          ' ' :: (operator.toList ++ ' ' :: ('(' :: second.toList ++ [')'])) := by
    simp [joinedText]
  have closed : ('(' :: second.toList ++ [')']).getLast? = some ')' := List.getLast?_concat
  exact cleaned_spaced text small rfl closed rfl rfl

section Joining

variable
    {first second : String}
    {one other : Filter}
    (firstCompiles : compile first = .ok one)
    (secondCompiles : compile second = .ok other)
    (firstSifts : one.isAll = false)
    (secondSifts : other.isAll = false)
    (firstShallow : nesting first ≤ 99)
    (secondShallow : nesting second ≤ 99)

include firstCompiles secondCompiles firstSifts secondSifts firstShallow secondShallow

/-- What two conditions joined by an operator are compiled to. -/
theorem compile_joinedText_eq
    {operator : String}
    (word : operator = "and" ∨ operator = "or") :
    compile (joinedText operator first second) =
      .ok ⟨Condition.join operator one.condition other.condition, true⟩ := by
  have small : Text.lowercaseAfter [] operator.toList = operator.toList := by
    rcases word with rfl | rfl <;> rfl
  rcases exists_term_of_compile firstCompiles firstSifts firstShallow 0 with
    ⟨tokens, pieces, term⟩
  let place :=
    0 + Text.byteLength (Text.lowercaseAfter [] ('(' :: (first.toList ++ [')']))) + 1
  rcases exists_term_of_compile secondCompiles secondSifts secondShallow
      (place + Text.byteLength operator.toList + 1) with
    ⟨further, morePieces, moreTerm⟩
  have derived :
      DerivesCondition 0 (tokens ++ ⟨.logicOperator, operator, place⟩ :: (further ++ []))
        (Condition.join operator one.condition other.condition) :=
    .ofLinks term (.link rfl moreTerm .done) (show 1 ≤ maxChainedOperators by decide)
  refine compile_of_pieces ?_ derived
  rw [cleaned_joinedText small, List.append_nil]
  exact pieces.joined word morePieces

/--
Two conditions that look at rows can be joined by either operator; the rows that one
joint condition accepts are those that both accept, and the rows that the other accepts
are those that one of the two accepts.
-/
theorem compile_joinedText :
    ∃ both either,
      compile (joinedText "and" first second) = .ok both ∧
        compile (joinedText "or" first second) = .ok either ∧
        ∀ row,
          (both.accepts row = true ↔ one.accepts row = true ∧ other.accepts row = true) ∧
            (either.accepts row = true ↔ one.accepts row = true ∨ other.accepts row = true) := by
  have joined :=
    fun operator => @compile_joinedText_eq first second one other
      firstCompiles secondCompiles firstSifts secondSifts firstShallow secondShallow operator
  refine ⟨_, _, joined "and" (.inl rfl), joined "or" (.inr rfl), fun row => ?_⟩
  rcases compile_eq_ok firstCompiles firstSifts with ⟨_, _, _, oneFolds⟩
  rcases compile_eq_ok secondCompiles secondSifts with ⟨_, _, _, otherFolds⟩
  simp [accepts, Condition.join, oneFolds, otherFolds]

end Joining

theorem compile_eq_ok_of_toOption
    {condition : String}
    {filter : Filter}
    (compiled : (compile condition).toOption = some filter) :
    compile condition = .ok filter := by
  cases result : compile condition with
  | error fault =>
      rw [result] at compiled
      cases compiled
  | ok built =>
      rw [result] at compiled
      cases compiled
      rfl

/-- The sigma at the end of a part stays a final one, and a quoted bracket opens nothing. -/
theorem compile_joinedText_of_sigma_and_group :
    ∃ one other both either,
      compile "Name = ΣΑΣ" = .ok one ∧
        compile "(msg ~ 'a) or' and x != 1)" = .ok other ∧
        compile "(Name = ΣΑΣ) and ((msg ~ 'a) or' and x != 1))" = .ok both ∧
        compile "(Name = ΣΑΣ) or ((msg ~ 'a) or' and x != 1))" = .ok either ∧
        ∀ row,
          (both.accepts row = true ↔ one.accepts row = true ∧ other.accepts row = true) ∧
            (either.accepts row = true ↔ one.accepts row = true ∨ other.accepts row = true) := by
  let one : Filter := ⟨.equalTo "name" "σας", true⟩
  let other : Filter := ⟨.and (.containing "msg" "a) or") (.not (.equalTo "x" "1")), true⟩
  have oneCompiles : compile "Name = ΣΑΣ" = .ok one :=
    compile_eq_ok_of_toOption (by decide +kernel)
  have otherCompiles : compile "(msg ~ 'a) or' and x != 1)" = .ok other :=
    compile_eq_ok_of_toOption (by decide +kernel)
  have shallow :
      nesting "Name = ΣΑΣ" ≤ 99 ∧ nesting "(msg ~ 'a) or' and x != 1)" ≤ 99 := by
    decide +kernel
  rcases compile_joinedText oneCompiles otherCompiles rfl rfl shallow.1 shallow.2 with
    ⟨both, either, bothCompiles, eitherCompiles, rows⟩
  exact ⟨one, other, both, either, oneCompiles, otherCompiles, bothCompiles, eitherCompiles, rows⟩

end Filter

end LogRows
