/-!
# Text-keyed maps in key order

A `SortedMap` is the one associative container of this library: the fields of
a log row, the flags of a template and the templates of a settings file are
all sorted maps.  Its entries are kept in strictly increasing key order, so a
key occurs at most once and iteration order is a function of the contents.
Keys are ordered by code points, which is also the order of their UTF-8 bytes.

`get?_insert` and `get?_erase` describe every update through look-up.
-/

namespace LogRows

/-- Entries with strictly increasing keys. -/
def KeysIncrease
    {Value : Type}
    (entries : List (String × Value)) :
    Prop :=
  entries.Pairwise fun earlier later => earlier.1 < later.1

/-- Put one entry at its place in a key-ordered list, replacing an entry of the same key. -/
def insertEntry
    {Value : Type}
    (key : String)
    (value : Value) :
    List (String × Value) → List (String × Value)
  | [] => [(key, value)]
  | (other, present) :: rest =>
      if key < other then
        (key, value) :: (other, present) :: rest
      else if key = other then
        (key, value) :: rest
      else
        (other, present) :: insertEntry key value rest

/-- The value stored for a key in an entry list. -/
def lookupEntry
    {Value : Type}
    (key : String) :
    List (String × Value) → Option Value
  | [] => none
  | (other, present) :: rest =>
      if other = key then some present else lookupEntry key rest

/-- Every entry after an insertion is the inserted one or was there before. -/
theorem mem_of_mem_insertEntry
    {Value : Type}
    {key : String}
    {value : Value}
    {entry : String × Value}
    {entries : List (String × Value)}
    (member : entry ∈ insertEntry key value entries) :
    entry = (key, value) ∨ entry ∈ entries := by
  induction entries with
  | nil => simpa [insertEntry] using member
  | cons head rest ih =>
      rw [insertEntry] at member
      grind

theorem keysIncrease_insertEntry
    {Value : Type}
    (key : String)
    (value : Value)
    {entries : List (String × Value)}
    (ordered : KeysIncrease entries) :
    KeysIncrease (insertEntry key value entries) := by
  induction entries with
  | nil => simp [insertEntry, KeysIncrease]
  | cons head rest ih =>
      have tail : KeysIncrease rest := (List.pairwise_cons.1 ordered).2
      have above := (List.pairwise_cons.1 ordered).1
      rw [insertEntry]
      split
      · rename_i smaller
        refine List.pairwise_cons.2 ⟨?_, ordered⟩
        intro entry member
        rcases List.mem_cons.1 member with rfl | member
        · exact smaller
        · exact String.lt_trans smaller (above entry member)
      · split
        · rename_i same
          refine List.pairwise_cons.2 ⟨?_, tail⟩
          intro entry member
          exact same ▸ above entry member
        · refine List.pairwise_cons.2 ⟨?_, ih tail⟩
          intro entry member
          rcases mem_of_mem_insertEntry member with rfl | member
          · grind
          · exact above entry member

theorem lookupEntry_insertEntry
    {Value : Type}
    (key wanted : String)
    (value : Value)
    (entries : List (String × Value)) :
    lookupEntry wanted (insertEntry key value entries) =
      if key = wanted then some value else lookupEntry wanted entries := by
  induction entries with
  | nil => simp [insertEntry, lookupEntry]
  | cons head rest ih =>
      rw [insertEntry]
      grind [lookupEntry]

/-- An entry with a greater key than all others goes behind them. -/
theorem insertEntry_of_above
    {Value : Type}
    {entries : List (String × Value)}
    {key : String}
    (above : ∀ entry ∈ entries, entry.1 < key)
    (value : Value) :
    insertEntry key value entries = entries ++ [(key, value)] := by
  induction entries with
  | nil => rfl
  | cons first rest ih =>
      rcases List.forall_mem_cons.mp above with ⟨less, above⟩
      have unsmaller : ¬ key < first.1 := String.lt_asymm less
      have different : key ≠ first.1 := by
        rintro rfl
        exact unsmaller less
      rw [insertEntry, if_neg unsmaller, if_neg different, ih above]
      rfl

theorem lookupEntry_of_above
    {Value : Type}
    {entries : List (String × Value)}
    {key : String}
    (above : ∀ entry ∈ entries, entry.1 < key) :
    lookupEntry key entries = none := by
  induction entries with
  | nil => rfl
  | cons first rest ih =>
      rcases List.forall_mem_cons.mp above with ⟨less, above⟩
      have different : first.1 ≠ key := by
        intro same
        rw [same] at less
        exact String.lt_irrefl key less
      rw [lookupEntry, if_neg different, ih above]

/-- An entry with a smaller key than all others goes before them. -/
theorem insertEntry_of_below
    {Value : Type}
    {entries : List (String × Value)}
    {key : String}
    (below : ∀ entry ∈ entries, key < entry.1)
    (value : Value) :
    insertEntry key value entries = (key, value) :: entries := by
  cases entries with
  | nil => rfl
  | cons first rest => rw [insertEntry, if_pos (below first List.mem_cons_self)]

theorem KeysIncrease.below
    {Value : Type}
    {first : String × Value}
    {rest : List (String × Value)}
    (ordered : KeysIncrease (first :: rest)) :
    ∀ entry ∈ rest, first.1 < entry.1 :=
  (List.pairwise_cons.mp ordered).1

theorem KeysIncrease.tail
    {Value : Type}
    {first : String × Value}
    {rest : List (String × Value)}
    (ordered : KeysIncrease (first :: rest)) :
    KeysIncrease rest :=
  (List.pairwise_cons.mp ordered).2

theorem KeysIncrease.above
    {Value : Type}
    {before rest : List (String × Value)}
    {entry : String × Value}
    (ordered : KeysIncrease (before ++ entry :: rest)) :
    ∀ earlier ∈ before, earlier.1 < entry.1 :=
  fun earlier among =>
    (List.pairwise_append.mp ordered).2.2 earlier among entry List.mem_cons_self

/-- A finite map from text keys, its entries in strictly increasing key order. -/
structure SortedMap (Value : Type) where
  /-- Keys with their values, smallest key first. -/
  entries : List (String × Value)
  /-- No key occurs twice, and the order of the entries is the order of the keys. -/
  increasing : KeysIncrease entries

namespace SortedMap

variable {Value : Type}

/-- The map without entries. -/
def empty : SortedMap Value :=
  ⟨[], List.Pairwise.nil⟩

instance : Inhabited (SortedMap Value) :=
  ⟨empty⟩

instance : EmptyCollection (SortedMap Value) :=
  ⟨empty⟩

instance [DecidableEq Value] : DecidableEq (SortedMap Value) :=
  fun left right =>
    decidable_of_iff (left.entries = right.entries) <| by
      cases left
      cases right
      simp

/-- Store a value under a key, replacing the one stored there before. -/
def insert
    (map : SortedMap Value)
    (key : String)
    (value : Value) :
    SortedMap Value :=
  ⟨insertEntry key value map.entries,
    keysIncrease_insertEntry key value map.increasing⟩

/-- Remove a key; a map without the key stays as it is. -/
def erase
    (map : SortedMap Value)
    (key : String) :
    SortedMap Value :=
  ⟨map.entries.filter fun entry => entry.1 ≠ key,
    List.Pairwise.filter _ map.increasing⟩

/-- The value stored under a key. -/
def get?
    (map : SortedMap Value)
    (key : String) :
    Option Value :=
  lookupEntry key map.entries

/-- The keys, smallest first. -/
def keys (map : SortedMap Value) : List String :=
  map.entries.map (·.1)

/-- Whether there is no entry. -/
def isEmpty (map : SortedMap Value) : Bool :=
  map.entries.isEmpty

/-- The map of a list of entries; of two entries with one key the later is kept. -/
def ofList (entries : List (String × Value)) : SortedMap Value :=
  entries.foldl (fun map entry => map.insert entry.1 entry.2) empty

@[simp]
theorem get?_empty (key : String) :
    (empty : SortedMap Value).get? key = none :=
  rfl

@[simp]
theorem get?_insert
    (map : SortedMap Value)
    (key wanted : String)
    (value : Value) :
    (map.insert key value).get? wanted =
      if key = wanted then some value else map.get? wanted :=
  lookupEntry_insertEntry key wanted value map.entries

@[simp]
theorem get?_erase
    (map : SortedMap Value)
    (key wanted : String) :
    (map.erase key).get? wanted =
      if key = wanted then none else map.get? wanted := by
  obtain ⟨entries, increasing⟩ := map
  simp only [erase, get?]
  clear increasing
  induction entries with
  | nil => simp [lookupEntry]
  | cons head rest ih =>
      simp only [ne_eq, decide_not, List.filter_cons] at ih ⊢
      grind [lookupEntry]

end SortedMap

end LogRows
