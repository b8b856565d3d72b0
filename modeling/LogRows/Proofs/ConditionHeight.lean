import LogRows.Proofs.FilterComposition

/-!
# How high a condition can be

A chain of operators groups to the left, so every operator of a chain puts one level on
top of its first term, and that term may be a chain in brackets of its own.  The two
limits, on the operators of a chain and on the levels of brackets, bound the height of
what is accepted.  The bound is met, and no test of a row has more calls open at once
than it allows (`height_of_ofTokens`).

`holdsWithin` is the test of a row with a bounded stack.  `reach` is the number of calls
on the way to the first check that is looked at, which no row can cut short; it gives the
lower bounds.
-/

namespace LogRows.Condition

/-- The height of a condition as a tree; a check has height one. -/
def height : Condition → Nat
  | all => 1
  | equal _ _ => 1
  | contains _ _ => 1
  | wildcard _ _ => 1
  | not operand => operand.height + 1
  | and left right => max left.height right.height + 1
  | or left right => max left.height right.height + 1

/-- The number of conditions on the way from the root to the first check. -/
def reach : Condition → Nat
  | all => 1
  | equal _ _ => 1
  | contains _ _ => 1
  | wildcard _ _ => 1
  | not operand => operand.reach + 1
  | and left _ => left.reach + 1
  | or left _ => left.reach + 1

/--
Whether the fields of a row meet a condition, found out with at most a number of calls
open at once; `none` if that is too few.
-/
def holdsWithin (fields : Fields) : (calls : Nat) → Condition → Option Bool
  | 0, _ => none
  | calls + 1, not operand => (holdsWithin fields calls operand).map (!·)
  | calls + 1, and left right => do
      if ← holdsWithin fields calls left then
        holdsWithin fields calls right
      else
        some false
  | calls + 1, or left right => do
      if ← holdsWithin fields calls left then
        some true
      else
        holdsWithin fields calls right
  | _ + 1, check => some (check.holds fields)

theorem reach_le_height (condition : Condition) :
    condition.reach ≤ condition.height := by
  induction condition with
  | all => exact Nat.le_refl 1
  | equal => exact Nat.le_refl 1
  | contains => exact Nat.le_refl 1
  | wildcard => exact Nat.le_refl 1
  | not operand ih => exact Nat.succ_le_succ ih
  | and left right ih _ => exact Nat.succ_le_succ (Nat.le_trans ih (Nat.le_max_left _ _))
  | or left right ih _ => exact Nat.succ_le_succ (Nat.le_trans ih (Nat.le_max_left _ _))

/-- As many calls as the condition is high are enough for every row. -/
theorem holdsWithin_of_height_le
    (fields : Fields)
    {condition : Condition}
    {calls : Nat}
    (enough : condition.height ≤ calls) :
    condition.holdsWithin fields calls = some (condition.holds fields) := by
  induction calls generalizing condition with
  | zero => cases condition <;> simp [height] at enough
  | succ calls ih =>
      cases condition with
      | not operand =>
          have inner := ih (Nat.le_of_succ_le_succ enough)
          simp [holdsWithin, inner]
      | and left right =>
          have both := Nat.max_le.mp (Nat.le_of_succ_le_succ enough)
          cases first : left.holds fields <;> simp [holdsWithin, ih both.1, ih both.2, first]
      | or left right =>
          have both := Nat.max_le.mp (Nat.le_of_succ_le_succ enough)
          cases first : left.holds fields <;> simp [holdsWithin, ih both.1, ih both.2, first]
      | _ => rfl

/-- Fewer calls than it takes to get to the first check are enough for no row. -/
theorem holdsWithin_of_lt_reach
    (fields : Fields)
    {condition : Condition}
    {calls : Nat}
    (few : calls < condition.reach) :
    condition.holdsWithin fields calls = none := by
  induction calls generalizing condition with
  | zero => rw [holdsWithin]
  | succ calls ih =>
      cases condition with
      | not operand => simp [holdsWithin, ih (Nat.lt_of_succ_lt_succ few)]
      | and left right => simp [holdsWithin, ih (Nat.lt_of_succ_lt_succ few)]
      | or left right => simp [holdsWithin, ih (Nat.lt_of_succ_lt_succ few)]
      | _ => exact absurd few (by simp [reach])

/-! ## The limits bound the height -/

/-- Every operator of a chain puts one level on top of the highest of its terms. -/
theorem height_foldl_le
    (combine : Condition → Condition → Condition)
    (grows : ∀ left right, (combine left right).height = max left.height right.height + 1)
    {left : Condition}
    {operands : List Condition}
    {bound : Nat}
    (first : left.height ≤ bound)
    (others : ∀ operand ∈ operands, operand.height ≤ bound) :
    (operands.foldl combine left).height ≤ bound + operands.length := by
  induction operands generalizing left bound with
  | nil => exact first
  | cons operand operands ih =>
      have grown : (combine left operand).height ≤ bound + 1 := by
        rw [grows]
        exact Nat.succ_le_succ (Nat.max_le.mpr ⟨first, others operand List.mem_cons_self⟩)
      have later := ih grown fun other member =>
        Nat.le_succ_of_le (others other (List.mem_cons_of_mem _ member))
      rw [List.foldl_cons, List.length_cons]
      omega

theorem CheckMeans.height_le
    {field value operator : String}
    {tree : Condition}
    (means : CheckMeans field value operator tree) :
    tree.height ≤ 2 := by
  cases means <;> simp [height]

/-- The greatest height of a term below which a number of further brackets may be opened. -/
def termHeight (levels : Nat) : Nat :=
  levels * maxChainedOperators + 2

theorem termHeight_succ (levels : Nat) :
    termHeight (levels + 1) = termHeight levels + maxChainedOperators := by
  unfold termHeight
  rw [Nat.succ_mul]
  omega

mutual

theorem DerivesTerm.height_le
    {depth levels : Nat}
    (deep : depth + levels = maxNesting)
    {tokens : List Token}
    {tree : Condition}
    (derived : DerivesTerm depth tokens tree) :
    tree.height ≤ termHeight levels := by
  match derived with
  | .check _ _ _ means => exact Nat.le_trans means.height_le (Nat.le_add_left _ _)
  | .group shallow _ _ body =>
      obtain ⟨below, rfl⟩ : ∃ below, levels = below + 1 := ⟨levels - 1, by omega⟩
      exact body.height_le (by omega)

theorem DerivesLinks.height_le
    {depth levels : Nat}
    (deep : depth + levels = maxNesting)
    {word : String}
    {tokens : List Token}
    {operands : List Condition}
    (derived : DerivesLinks depth word tokens operands) :
    ∀ operand ∈ operands, operand.height ≤ termHeight levels := by
  match derived with
  | .done => simp
  | .link _ term links =>
      exact List.forall_mem_cons.mpr ⟨term.height_le deep, links.height_le deep⟩

/-- A condition in brackets is as high as a term outside of them may be. -/
theorem DerivesCondition.height_le
    {depth levels : Nat}
    (deep : depth + levels = maxNesting)
    {tokens : List Token}
    {tree : Condition}
    (derived : DerivesCondition depth tokens tree) :
    tree.height ≤ termHeight (levels + 1) := by
  rw [termHeight_succ]
  match derived with
  | .conjunction term links few =>
      have chain :=
        height_foldl_le and (fun _ _ => rfl) (term.height_le deep) (links.height_le deep)
      exact Nat.le_trans chain (Nat.add_le_add_left few _)
  | .disjunction term links _ few =>
      have chain :=
        height_foldl_le or (fun _ _ => rfl) (term.height_le deep) (links.height_le deep)
      exact Nat.le_trans chain (Nat.add_le_add_left few _)

end

/-! ## A condition that is as high as the limits allow -/

theorem reach_foldl_and (operands : List Condition) (left : Condition) :
    (operands.foldl and left).reach = left.reach + operands.length := by
  induction operands generalizing left with
  | nil => rfl
  | cons operand operands ih =>
      rw [List.foldl_cons, ih, List.length_cons, reach]
      omega

/-- Any number of operators may follow a term, as far as its chain goes. -/
theorem exists_links (depth count : Nat) :
    ∃ tokens operands, DerivesLinks depth "and" tokens operands ∧ operands.length = count := by
  induction count with
  | zero => exact ⟨[], [], .done, rfl⟩
  | succ count ih =>
      obtain ⟨tokens, operands, links, length⟩ := ih
      have term :
          DerivesTerm depth
            [⟨.string, "a", 0⟩, ⟨.fieldOperator, "=", 0⟩, ⟨.string, "b", 0⟩] (equalTo "a" "b") :=
        .check rfl rfl rfl .equal
      exact
        ⟨_, _, @DerivesLinks.link depth ⟨.logicOperator, "and", 0⟩ _ _ _ _ rfl term links,
          congrArg (· + 1) length⟩

/-- A chain with all the operators that it may have, behind a given term. -/
theorem DerivesTerm.exists_longest
    {depth : Nat}
    {first : List Token}
    {left : Condition}
    (term : DerivesTerm depth first left) :
    ∃ tokens tree,
      DerivesCondition depth tokens tree ∧ tree.reach = left.reach + maxChainedOperators := by
  obtain ⟨rest, operands, links, length⟩ := exists_links depth maxChainedOperators
  refine ⟨first ++ rest, _, .conjunction term links (Nat.le_of_eq length), ?_⟩
  rw [reach_foldl_and, length]

/-- At every depth there is a term that is as high as the brackets left to it allow. -/
theorem exists_highest_term
    {depth levels : Nat}
    (deep : depth + levels = maxNesting) :
    ∃ tokens tree, DerivesTerm depth tokens tree ∧ tree.reach = termHeight levels := by
  induction levels generalizing depth with
  | zero =>
      refine ⟨[⟨.string, "a", 0⟩, ⟨.fieldOperator, "!=", 0⟩, ⟨.string, "b", 0⟩], _,
        .check rfl rfl rfl .notEqual, ?_⟩
      rfl
  | succ levels ih =>
      have deeper : depth + 1 + levels = maxNesting := by omega
      -- The highest term one level further inside begins the longest chain, which is put in brackets.
      obtain ⟨first, left, term, high⟩ := ih deeper
      obtain ⟨inner, tree, body, higher⟩ := term.exists_longest
      refine ⟨⟨.openBracket, "(", 0⟩ :: (inner ++ [⟨.closeBracket, ")", 0⟩]), tree,
        .group (by omega) rfl rfl body, ?_⟩
      rw [higher, high, termHeight_succ]

/--
No accepted token sequence has a tree higher than the limits allow, and that many calls
are enough to test any row with it, or with any filter.  Some accepted sequence has a
tree of just this height, with which no row can be tested in fewer calls.
-/
theorem height_of_ofTokens :
    (∀ tokens inputEnd tree, ofTokens tokens inputEnd = .ok tree →
      tree.height ≤ 101 * 100 + 2 ∧
        ∀ fields, tree.holdsWithin fields (101 * 100 + 2) = some (tree.holds fields)) ∧
      (∀ text filter, Filter.compile text = .ok filter → ∀ fields,
        filter.condition.holdsWithin fields (101 * 100 + 2) =
          some (filter.condition.holds fields)) ∧
      ∃ tokens tree,
        (∀ inputEnd, ofTokens tokens inputEnd = .ok tree) ∧
          tree.height = 101 * 100 + 2 ∧
          ∀ fields, tree.holdsWithin fields (101 * 100 + 1) = none := by
  have bounded : ∀ {tokens tree}, DerivesCondition 0 tokens tree → tree.height ≤ 101 * 100 + 2 :=
    fun derived => derived.height_le (Nat.zero_add maxNesting)
  refine ⟨fun tokens inputEnd tree accepted => ?_, fun text filter compiled fields => ?_, ?_⟩
  · have low := bounded (.of_ofTokens accepted)
    exact ⟨low, fun fields => holdsWithin_of_height_le fields low⟩
  · cases sifts : filter.isAll with
    | true =>
        have accepting : filter.condition = all := by simpa [Filter.isAll] using sifts
        rw [accepting]
        rfl
    | false =>
        obtain ⟨tokens, _, derived, _⟩ := Filter.compile_eq_ok compiled sifts
        exact holdsWithin_of_height_le fields (bounded derived)
  · obtain ⟨first, left, term, high⟩ := exists_highest_term (Nat.zero_add maxNesting)
    obtain ⟨tokens, tree, derived, higher⟩ := term.exists_longest
    have reaches : tree.reach = 101 * 100 + 2 := by rw [higher, high]; rfl
    refine ⟨tokens, tree, derived.ofTokens, ?_, fun fields => ?_⟩
    · exact Nat.le_antisymm (bounded derived) (reaches ▸ reach_le_height tree)
    · exact holdsWithin_of_lt_reach fields (by omega)

/-- A chain in brackets stands below the operators of the chain that it is in. -/
theorem height_of_ofTokens_of_group :
    let tokens : List Token :=
      [⟨.openBracket, "(", 0⟩, ⟨.string, "a", 1⟩, ⟨.fieldOperator, "=", 3⟩, ⟨.string, "b", 5⟩,
        ⟨.logicOperator, "and", 7⟩, ⟨.string, "c", 11⟩, ⟨.fieldOperator, "~", 13⟩,
        ⟨.string, "d", 15⟩, ⟨.closeBracket, ")", 16⟩, ⟨.logicOperator, "or", 18⟩,
        ⟨.string, "e", 21⟩, ⟨.fieldOperator, "!=", 23⟩, ⟨.string, "f", 26⟩]
    let tree := or (and (equalTo "a" "b") (containing "c" "d")) (not (equalTo "e" "f"))
    ofTokens tokens 27 = .ok tree ∧
      tree.height = 3 ∧
      ∀ fields, tree.holdsWithin fields (101 * 100 + 2) = some (tree.holds fields) := by
  intro tokens tree
  have accepted : ofTokens tokens 27 = .ok tree := rfl
  exact ⟨accepted, rfl, (height_of_ofTokens.1 tokens 27 tree accepted).2⟩

end LogRows.Condition
