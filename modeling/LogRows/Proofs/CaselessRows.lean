import LogRows.Row

/-!
# Rows in lower case

A condition that ignores case looks at a copy of the row in lower case.  Keys that differ
only in case meet in that copy: of the fields that meet, the one with the greatest key
stays, and the others cannot be seen any more.  `mem_entries_lowercase` says which fields
the copy has.
-/

namespace LogRows

namespace SortedMap

variable
    {Value : Type}
    {key : String}
    {value : Value}

theorem mem_iff_lookupEntry
    {entries : List (String × Value)}
    (ordered : KeysIncrease entries) :
    (key, value) ∈ entries ↔ lookupEntry key entries = some value := by
  induction entries with
  | nil => simp [lookupEntry]
  | cons first rest ih =>
      rcases first with ⟨other, present⟩
      rw [List.mem_cons, ih ordered.tail, lookupEntry]
      by_cases same : other = key
      · subst same
        have absent : lookupEntry other rest ≠ some value := by
          intro found
          have below := ordered.below _ ((ih ordered.tail).mpr found)
          exact String.lt_irrefl other below
        simp [absent, eq_comm]
      · have different : key ≠ other := fun equal => same equal.symm
        simp [same, different]

/-- The entries of a map are what look-up finds. -/
theorem mem_entries_iff (map : SortedMap Value) :
    (key, value) ∈ map.entries ↔ map.get? key = some value :=
  mem_iff_lookupEntry map.increasing

/-- Of the entries of one key in a list, the last one is looked up. -/
theorem get?_ofList
    (entries : List (String × Value))
    (key : String) :
    (ofList entries).get? key = lookupEntry key entries.reverse := by
  rw [ofList, List.foldl_eq_foldr_reverse]
  induction entries.reverse with
  | nil => rfl
  | cons last rest ih => rw [List.foldr_cons, get?_insert, ih, lookupEntry]

section Renaming

variable
    {Other : Type}
    (rename : String → String)
    (change : Value → Other)
    {name : String}
    {found : Other}

theorem lookupEntry_map_eq_some_iff
    {entries : List (String × Value)}
    (decreasing : entries.Pairwise fun entry later => later.1 < entry.1) :
    lookupEntry name (entries.map fun entry => (rename entry.1, change entry.2)) = some found ↔
      ∃ entry ∈ entries,
        rename entry.1 = name ∧ change entry.2 = found ∧
          ∀ other ∈ entries, entry.1 < other.1 → rename other.1 ≠ name := by
  induction entries with
  | nil => simp [lookupEntry]
  | cons first rest ih =>
      rcases List.pairwise_cons.mp decreasing with ⟨below, decreasing⟩
      rw [List.map_cons, lookupEntry]
      split
      case isTrue named =>
        constructor
        · rintro ⟨⟩
          refine ⟨first, List.mem_cons_self, named, rfl, ?_⟩
          intro other member above
          rcases List.mem_cons.mp member with rfl | member
          · exact absurd above (String.lt_irrefl _)
          · exact absurd above (String.lt_asymm (below other member))
        · rintro ⟨entry, member, _, rfl, last⟩
          rcases List.mem_cons.mp member with rfl | member
          · rfl
          · exact absurd named (last first List.mem_cons_self (below entry member))
      case isFalse unnamed =>
        rw [ih decreasing]
        constructor
        · rintro ⟨entry, member, named, same, last⟩
          refine ⟨entry, List.mem_cons_of_mem first member, named, same, ?_⟩
          rw [List.forall_mem_cons]
          exact ⟨fun _ => unnamed, last⟩
        · rintro ⟨entry, member, named, same, last⟩
          rcases List.mem_cons.mp member with rfl | member
          · exact absurd named unnamed
          · exact ⟨entry, member, named, same, (List.forall_mem_cons.mp last).2⟩

/-- Of entries whose keys meet under other names, the one with the greatest key stays. -/
theorem get?_ofList_map_eq_some_iff (map : SortedMap Value) :
    (ofList (map.entries.map fun entry => (rename entry.1, change entry.2))).get? name =
        some found ↔
      ∃ entry ∈ map.entries,
        rename entry.1 = name ∧ change entry.2 = found ∧
          ∀ other ∈ map.entries, entry.1 < other.1 → rename other.1 ≠ name := by
  have decreasing := List.pairwise_reverse.mpr map.increasing
  rw [get?_ofList, ← List.map_reverse, lookupEntry_map_eq_some_iff rename change decreasing]
  simp only [List.mem_reverse]

end Renaming

end SortedMap

namespace Fields

variable
    {fields : Fields}
    {key name : String}
    {value : Json.Value}

/-- Whether a key has no greater one beside it that is the same in lower case. -/
def IsLastOfCase (fields : Fields) (key : String) : Prop :=
  ∀ other ∈ fields.keys, key < other → Text.lowercase other ≠ Text.lowercase key

/-- Whether the keys stay different from each other in lower case. -/
def KeysStayApart (fields : Fields) : Prop :=
  fields.keys.Pairwise fun key other => Text.lowercase key ≠ Text.lowercase other

instance (fields : Fields) (key : String) : Decidable (fields.IsLastOfCase key) :=
  inferInstanceAs (Decidable (∀ other ∈ fields.keys, _ → _))

instance (fields : Fields) : Decidable fields.KeysStayApart :=
  inferInstanceAs (Decidable (List.Pairwise _ _))

theorem KeysStayApart.isLastOfCase
    (apart : fields.KeysStayApart)
    (member : key ∈ fields.keys) :
    fields.IsLastOfCase key := by
  rcases List.append_of_mem member with ⟨before, after, split⟩
  rw [KeysStayApart, split, List.pairwise_append, List.pairwise_cons] at apart
  rcases apart with ⟨_, ⟨behind, _⟩, across⟩
  intro other among above
  rw [split, List.mem_append, List.mem_cons] at among
  rcases among with earlier | rfl | later
  · exact across other earlier key List.mem_cons_self
  · exact absurd above (String.lt_irrefl _)
  · exact (behind other later).symm

/-- What is looked up in the copy of a row in lower case. -/
theorem get?_lowercase_eq_some_iff
    {found : Json.Value} :
    fields.lowercase.get? name = some found ↔
      ∃ key value,
        (key, value) ∈ fields.entries ∧ fields.IsLastOfCase key ∧
          Text.lowercase key = name ∧
          Json.Value.string (Text.lowercase value.plainText) = found := by
  let change (value : Json.Value) : Json.Value := .string (Text.lowercase value.plainText)
  refine (SortedMap.get?_ofList_map_eq_some_iff Text.lowercase change fields).trans ?_
  constructor
  · rintro ⟨⟨key, value⟩, member, rfl, same, last⟩
    refine ⟨key, value, member, ?_, rfl, same⟩
    intro other among above
    rcases List.mem_map.mp among with ⟨entry, listed, rfl⟩
    exact last entry listed above
  · rintro ⟨key, value, member, last, rfl, same⟩
    refine ⟨(key, value), member, rfl, same, ?_⟩
    intro other among above
    exact last other.1 (List.mem_map_of_mem among) above

/-- The fields of the copy are those whose keys are the last ones of their case. -/
theorem mem_entries_lowercase
    {found : Json.Value} :
    (name, found) ∈ fields.lowercase.entries ↔
      ∃ key value,
        (key, value) ∈ fields.entries ∧ fields.IsLastOfCase key ∧
          Text.lowercase key = name ∧
          Json.Value.string (Text.lowercase value.plainText) = found := by
  rw [SortedMap.mem_entries_iff, get?_lowercase_eq_some_iff]

/-- A field whose key is the last one of its case is found in the copy. -/
theorem get?_lowercase_of_mem
    (member : (key, value) ∈ fields.entries)
    (last : fields.IsLastOfCase key) :
    fields.lowercase.get? (Text.lowercase key) =
      some (.string (Text.lowercase value.plainText)) :=
  get?_lowercase_eq_some_iff.mpr ⟨key, value, member, last, rfl, rfl⟩

end Fields

end LogRows
