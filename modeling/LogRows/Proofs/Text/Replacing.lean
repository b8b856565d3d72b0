import LogRows.Text.Replace

/-!
# Replacing, said by the parts of a text

The occurrences of a piece that are replaced are the leftmost ones that do not overlap.
They cut a text into parts (`Parts`), in one way only, and replacing them joins the parts
by what is written in their place (`Parts.replaceAll_eq`).

What is written in an occurrence's place may make a new occurrence with the text on its
sides.  It does not if it shares no character with the piece, for then it keeps apart what
stands on its left from what stands on its right (`isInfix_of_separated`).  So nothing is
left to replace (`not_isInfix_replaceAll`).
-/

namespace LogRows.Text

/-- Whether a piece that stands between two texts occurs nowhere earlier in them. -/
def IsLeftmost (piece part rest : List Char) : Prop :=
  ∀ before behind,
    part ++ (piece ++ rest) = before ++ (piece ++ behind) → part.length ≤ before.length

/-- The parts between the leftmost occurrences of a piece that do not overlap. -/
inductive Parts (piece : List Char) : (text : List Char) → List (List Char) → Prop where
  | whole
      {text : List Char}
      (absent : ¬ piece <:+: text) :
      Parts piece text [text]
  | cut
      {part rest : List Char}
      {parts : List (List Char)}
      (leftmost : IsLeftmost piece part rest)
      (later : Parts piece rest parts) :
      Parts piece (part ++ (piece ++ rest)) (part :: parts)

variable {piece : List Char}

theorem Parts.ne_nil
    {text : List Char}
    {parts : List (List Char)}
    (cut : Parts piece text parts) :
    parts ≠ [] := by
  cases cut <;> exact List.cons_ne_nil _ _

/-- No occurrence of a piece is left in a part. -/
theorem Parts.absent
    (nonempty : piece ≠ [])
    {text : List Char}
    {parts : List (List Char)}
    (cut : Parts piece text parts) :
    ∀ part ∈ parts, ¬ piece <:+: part := by
  induction cut with
  | whole absent => simpa using absent
  | @cut part rest parts leftmost later ih =>
      rintro other (_ | ⟨_, member⟩)
      case tail => exact ih other member
      case head =>
        rintro ⟨before, behind, rfl⟩
        have earlier := leftmost before (behind ++ (piece ++ rest)) (by simp)
        have positive := List.length_pos_iff.mpr nonempty
        simp only [List.length_append] at earlier
        omega

/-! ## A text has parts, and only one list of them -/

/-- A piece that occurs has a first occurrence. -/
theorem exists_leftmost
    {text : List Char}
    (occurs : piece <:+: text) :
    ∃ part rest, text = part ++ (piece ++ rest) ∧ IsLeftmost piece part rest := by
  induction text with
  | nil =>
      obtain rfl := List.eq_nil_of_infix_nil occurs
      exact ⟨[], [], rfl, fun _ _ _ => Nat.zero_le _⟩
  | cons character text ih =>
      by_cases atHead : piece <+: character :: text
      · obtain ⟨rest, equal⟩ := atHead
        exact ⟨[], rest, equal.symm, fun _ _ _ => Nat.zero_le _⟩
      · obtain ⟨part, rest, rfl, leftmost⟩ :=
          ih ((List.infix_cons_iff.mp occurs).resolve_left atHead)
        refine ⟨character :: part, rest, rfl, ?_⟩
        rintro (_ | ⟨first, before⟩) behind other
        · exact absurd ⟨behind, other.symm⟩ atHead
        · simp only [List.cons_append, List.cons.injEq] at other
          exact Nat.succ_le_succ (leftmost before behind other.2)

theorem exists_parts
    (nonempty : piece ≠ [])
    (text : List Char) :
    ∃ parts, Parts piece text parts := by
  induction length : text.length using Nat.strongRecOn generalizing text with
  | ind count ih =>
      by_cases occurs : piece <:+: text
      · obtain ⟨part, rest, rfl, leftmost⟩ := exists_leftmost occurs
        have positive := List.length_pos_iff.mpr nonempty
        have shorter : rest.length < count := by
          simp only [List.length_append] at length
          omega
        obtain ⟨parts, later⟩ := ih rest.length shorter rest rfl
        exact ⟨part :: parts, .cut leftmost later⟩
      · exact ⟨[text], .whole occurs⟩

theorem Parts.unique
    {text : List Char}
    {parts others : List (List Char)}
    (cut : Parts piece text parts)
    (other : Parts piece text others) :
    others = parts := by
  induction cut generalizing others with
  | whole absent =>
      cases other with
      | whole => rfl
      | @cut part rest _ _ _ => exact absurd ⟨part, rest, by simp⟩ absent
  | @cut part rest parts leftmost later ih =>
      generalize same : part ++ (piece ++ rest) = text at other
      cases other with
      | whole absent => exact absurd ⟨part, rest, by simp [same]⟩ absent
      | @cut first behind more first_leftmost after =>
          -- Neither of the two occurrences begins behind the other.
          have sameLength : part.length = first.length :=
            Nat.le_antisymm (leftmost first behind same) (first_leftmost part rest same.symm)
          obtain ⟨rfl, sameRest⟩ := List.append_inj same sameLength
          obtain rfl := List.append_cancel_left sameRest
          rw [ih after]

/-! ## Replacing joins the parts -/

theorem replaceAll_of_not_isInfix
    {text : List Char}
    (absent : ¬ piece <:+: text)
    (replacement : List Char) :
    replaceAll piece replacement text = text := by
  induction text with
  | nil => rw [replaceAll]
  | cons character text ih =>
      rw [List.infix_cons_iff, not_or] at absent
      have kept : ¬ piece.isPrefixOf (character :: text) = true :=
        fun found => absent.1 (List.isPrefixOf_iff_prefix.mp found)
      rw [replaceAll, if_neg kept, ih absent.2]

/-- The first occurrence is replaced, and what stands behind it is looked at next. -/
theorem replaceAll_leftmost
    (nonempty : piece ≠ [])
    {part rest : List Char}
    (leftmost : IsLeftmost piece part rest)
    (replacement : List Char) :
    replaceAll piece replacement (part ++ (piece ++ rest)) =
      part ++ (replacement ++ replaceAll piece replacement rest) := by
  induction part with
  | nil =>
      obtain ⟨first, others, rfl⟩ := List.exists_cons_of_ne_nil nonempty
      have found : (first :: others).isPrefixOf (first :: (others ++ rest)) = true :=
        List.isPrefixOf_iff_prefix.mpr ⟨rest, rfl⟩
      have behind : (others ++ rest).drop ((first :: others).length - 1) = rest := by simp
      rw [List.nil_append, List.cons_append, replaceAll, if_pos found, behind, List.nil_append]
  | cons character part ih =>
      have kept : ¬ piece.isPrefixOf (character :: (part ++ (piece ++ rest))) = true := by
        intro found
        obtain ⟨behind, equal⟩ := List.isPrefixOf_iff_prefix.mp found
        exact absurd (leftmost [] behind equal.symm) (by simp)
      have inner := ih fun before behind equal =>
        Nat.le_of_succ_le_succ
          (leftmost (character :: before) behind (congrArg (character :: ·) equal))
      rw [List.cons_append, replaceAll, if_neg kept, inner, List.cons_append]

/-- A character of a joined text stands in a part or in what joins the parts. -/
theorem mem_intercalate
    {separator : List Char}
    {parts : List (List Char)}
    {character : Char}
    (member : character ∈ separator.intercalate parts) :
    character ∈ separator ∨ ∃ part ∈ parts, character ∈ part := by
  induction parts with
  | nil => cases member
  | cons part parts ih =>
      cases parts with
      | nil =>
          rw [List.intercalate_singleton] at member
          exact .inr ⟨part, List.mem_cons_self, member⟩
      | cons next parts =>
          rw [List.intercalate_cons_cons, List.append_assoc, List.mem_append,
            List.mem_append] at member
          rcases member with first | between | later
          · exact .inr ⟨part, List.mem_cons_self, first⟩
          · exact .inl between
          · exact (ih later).imp_right fun ⟨other, inside, found⟩ =>
              ⟨other, List.mem_cons_of_mem _ inside, found⟩

theorem Parts.replaceAll_eq
    (nonempty : piece ≠ [])
    {text : List Char}
    {parts : List (List Char)}
    (cut : Parts piece text parts)
    (replacement : List Char) :
    replaceAll piece replacement text = replacement.intercalate parts := by
  induction cut with
  | whole absent =>
      rw [replaceAll_of_not_isInfix absent, List.intercalate_singleton]
  | cut leftmost later ih =>
      obtain ⟨next, more, rfl⟩ := List.exists_cons_of_ne_nil later.ne_nil
      rw [replaceAll_leftmost nonempty leftmost, ih, List.intercalate_cons_cons,
        List.append_assoc]

/-! ## Nothing is left to replace -/

/-- A piece that a text begins with ends in front of a character that it does not hold. -/
theorem isPrefix_of_append_cons
    {character : Char}
    (foreign : character ∉ piece)
    (left : List Char)
    {right : List Char}
    (begins : piece <+: left ++ character :: right) :
    piece <+: left := by
  rcases List.prefix_or_prefix_of_prefix begins (List.prefix_append left _) with
    short | ⟨more, rfl⟩
  · exact short
  · cases more with
    | nil => simp
    | cons next more =>
        obtain ⟨behind, equal⟩ := begins
        simp only [List.append_assoc, List.append_cancel_left_eq, List.cons_append,
          List.cons.injEq] at equal
        exact absurd (by simp [equal.1]) foreign

/-- A piece does not reach over a character that it does not hold. -/
theorem isInfix_of_append_cons
    {character : Char}
    (foreign : character ∉ piece)
    {left right : List Char}
    (occurs : piece <:+: left ++ character :: right) :
    piece <:+: left ∨ piece <:+: right := by
  induction left with
  | nil =>
      rcases List.infix_cons_iff.mp occurs with begins | later
      · exact .inl (isPrefix_of_append_cons foreign [] begins).isInfix
      · exact .inr later
  | cons first left ih =>
      rcases List.infix_cons_iff.mp occurs with begins | later
      · exact .inl (isPrefix_of_append_cons foreign (first :: left) begins).isInfix
      · exact (ih later).imp_left List.infix_cons

section Separated

variable
    {separator : List Char}
    (separates : separator ≠ [])
    (foreign : ∀ character ∈ separator, character ∉ piece)

include separates foreign

/-- A text that shares no character with a piece keeps apart what stands on its sides. -/
theorem isInfix_of_separated
    {left right : List Char}
    (occurs : piece <:+: left ++ separator ++ right) :
    piece <:+: left ∨ piece <:+: right := by
  induction separator generalizing left with
  | nil => exact absurd rfl separates
  | cons character others ih =>
      rw [List.append_assoc, List.cons_append] at occurs
      -- The first character is enough; the others can only keep more apart.
      rcases isInfix_of_append_cons (foreign _ List.mem_cons_self) occurs with before | behind
      · exact .inl before
      · cases others with
        | nil => exact .inr behind
        | cons next others =>
            have later : piece <:+: [] ∨ piece <:+: right :=
              ih (List.cons_ne_nil _ _)
                (fun other member => foreign other (List.mem_cons_of_mem _ member)) behind
            exact later.imp_left fun empty => empty.trans List.nil_infix

/-- Parts without a piece are joined to a text without it. -/
theorem not_isInfix_intercalate
    (nonempty : piece ≠ [])
    {parts : List (List Char)}
    (absent : ∀ part ∈ parts, ¬ piece <:+: part) :
    ¬ piece <:+: separator.intercalate parts := by
  induction parts with
  | nil => exact fun occurs => nonempty (List.eq_nil_of_infix_nil occurs)
  | cons part parts ih =>
      have first := absent part List.mem_cons_self
      have others := ih fun other member => absent other (List.mem_cons_of_mem _ member)
      cases parts with
      | nil => rwa [List.intercalate_singleton]
      | cons next parts =>
          rw [List.intercalate_cons_cons]
          intro occurs
          exact (isInfix_of_separated separates foreign occurs).elim first others

/-- Where the replacement shares no character with the piece, nothing is left to replace. -/
theorem not_isInfix_replaceAll
    (nonempty : piece ≠ [])
    (text : List Char) :
    ¬ piece <:+: replaceAll piece separator text := by
  obtain ⟨parts, cut⟩ := exists_parts nonempty text
  rw [cut.replaceAll_eq nonempty]
  exact not_isInfix_intercalate separates foreign nonempty (cut.absent nonempty)

end Separated

end LogRows.Text
