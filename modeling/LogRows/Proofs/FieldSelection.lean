import LogRows.Proofs.Text.ByteOrder
import LogRows.Report.Selection

/-!
# Which fields are shown, and in which order

The entries of a field list are taken one after the other, and each of them adds the keys
that fit it and have not been added before.  What comes of it is said here without a run
through the list: a key is shown if an entry shows it and no entry takes it out, and the
keys are ordered by the place of the first entry that shows them and then by their bytes
(`select_characterized`).

The argument takes the list apart at its first entry.  The keys that fit it come first, and
what is left of the list picks from the others (`pickKeys_cons`).
-/

namespace LogRows

/-- The keys of a map stand in their order. -/
theorem SortedMap.pairwise_keys
    {Value : Type}
    (map : SortedMap Value) :
    map.keys.Pairwise (· < ·) :=
  List.pairwise_map.mpr map.increasing

namespace Report

/-! ## What an entry says of a key -/

/-- Whether an entry of a field list takes fields out. -/
def IsExclusion (entry : String) : Prop :=
  entry.toList.head? = some '!'

instance : DecidablePred IsExclusion :=
  fun _ => inferInstanceAs (Decidable (_ = _))

/-- Whether an entry of a field list shows a key. -/
def Shows (entry key : String) : Prop :=
  ¬ IsExclusion entry ∧ Glob.fits entry key = true

instance (entry key : String) : Decidable (Shows entry key) :=
  inferInstanceAs (Decidable (_ ∧ _))

/-- Whether an entry of a field list takes a key out. -/
def TakesOut (entry key : String) : Prop :=
  ∃ pattern, entry.toList = '!' :: pattern ∧ Glob.fits (String.ofList pattern) key = true

/-- The place of the first entry that shows a key; without one, behind all entries. -/
def firstPlace (entries : List String) (key : String) : Nat :=
  entries.findIdx fun entry => Shows entry key

/-- Whether a key goes before another one, as a field list has it. -/
def GoesBefore (entries : List String) (key other : String) : Prop :=
  firstPlace entries key < firstPlace entries other ∨
    firstPlace entries key = firstPlace entries other ∧ Text.encode key < Text.encode other

section

variable
    {entry key other : String}
    {entries keys : List String}

theorem GoesBefore.asymm
    (before : GoesBefore entries key other) :
    ¬ GoesBefore entries other key := by
  rintro (earlier | ⟨same, less⟩)
  · rcases before with before | ⟨same, _⟩
    · exact Nat.lt_asymm earlier before
    · exact Nat.lt_irrefl _ (same ▸ earlier)
  · rcases before with before | ⟨_, greater⟩
    · exact Nat.lt_irrefl _ (same ▸ before)
    · exact List.lt_asymm less greater

theorem isNone_exclusion?_iff :
    (exclusion? entry).isNone = true ↔ ¬ IsExclusion entry := by
  rw [exclusion?, IsExclusion, List.head?_eq_some_iff]
  split
  case h_1 found marked => simp [marked]
  case h_2 unmarked =>
    refine iff_of_true rfl ?_
    rintro ⟨pattern, marked⟩
    exact unmarked pattern marked

theorem exists_exclusion?_iff :
    (∃ pattern, exclusion? entry = some pattern ∧ Glob.fits pattern key = true) ↔
      TakesOut entry key := by
  rw [exclusion?, TakesOut]
  split
  case h_1 found marked => simp [marked]
  case h_2 unmarked =>
    refine iff_of_false ?_ ?_
    · rintro ⟨_, ⟨⟩, _⟩
    · rintro ⟨pattern, marked, _⟩
      exact unmarked pattern marked

theorem inclusions_eq (selection : Selection) :
    selection.inclusions = selection.shown.filter fun entry => ¬ IsExclusion entry := by
  apply List.filter_congr
  intro entry _
  rw [Bool.eq_iff_iff, isNone_exclusion?_iff, decide_eq_true_iff]

theorem any_exclusions_iff (selection : Selection) :
    selection.exclusions.any (Glob.fits · key) = true ↔
      ∃ entry ∈ selection.shown, TakesOut entry key := by
  simp only [Selection.exclusions, List.any_eq_true, List.mem_filterMap,
    ← exists_exclusion?_iff]
  constructor
  · rintro ⟨pattern, ⟨entry, member, excludes⟩, fits⟩
    exact ⟨entry, member, pattern, excludes, fits⟩
  · rintro ⟨entry, member, pattern, excludes, fits⟩
    exact ⟨pattern, ⟨entry, member, excludes⟩, fits⟩

/-! ## Picking keys -/

/-- The keys that are not among some others. -/
def without (keys others : List String) : List String :=
  keys.filter fun key => !others.contains key

@[simp]
theorem without_nil (keys : List String) : without keys [] = keys :=
  List.filter_eq_self.mpr fun _ _ => rfl

theorem without_append (keys others more : List String) :
    without keys (others ++ more) = without (without keys others) more := by
  simp only [without, List.filter_filter, List.contains_eq_mem, List.mem_append, Bool.decide_or,
    Bool.not_or, Bool.and_comm]

theorem without_filter (keys : List String) (fits : String → Bool) :
    without keys (keys.filter fits) = keys.filter fun key => !fits key := by
  apply List.filter_congr
  intro key member
  simp [member]

/-- Pick keys as `pickKeys` does, behind some that have been picked before. -/
def pickOnto (keys picked patterns : List String) : List String :=
  patterns.foldl
    (fun picked pattern =>
      picked ++ keys.filter fun key => Glob.fits pattern key && !picked.contains key)
    picked

theorem pickOnto_cons (keys picked : List String) (pattern : String) (patterns : List String) :
    pickOnto keys picked (pattern :: patterns) =
      pickOnto keys (picked ++ (without keys picked).filter (Glob.fits pattern)) patterns := by
  rw [pickOnto, List.foldl_cons, without, List.filter_filter]
  rfl

/-- What is picked later comes behind what has been picked, and from the other keys. -/
theorem pickOnto_eq (keys picked patterns : List String) :
    pickOnto keys picked patterns = picked ++ pickOnto (without keys picked) [] patterns := by
  induction patterns generalizing keys picked with
  | nil => exact (List.append_nil picked).symm
  | cons pattern patterns ih =>
      rw [pickOnto_cons, ih, without_append, List.append_assoc, pickOnto_cons,
        ih (without keys picked), without_nil, List.nil_append]

/-- The keys that fit the first pattern come first, and those that do not are left to the others. -/
theorem pickKeys_cons (keys : List String) (pattern : String) (patterns : List String) :
    pickKeys keys (pattern :: patterns) =
      keys.filter (Glob.fits pattern) ++
        pickKeys (keys.filter fun key => !Glob.fits pattern key) patterns := by
  show pickOnto keys [] (pattern :: patterns) = _ ++ pickOnto _ [] patterns
  rw [pickOnto_cons, without_nil, List.nil_append, pickOnto_eq, without_filter]

theorem mem_pickKeys {patterns : List String} :
    key ∈ pickKeys keys patterns ↔
      key ∈ keys ∧ ∃ pattern ∈ patterns, Glob.fits pattern key = true := by
  induction patterns generalizing keys with
  | nil => simp [pickKeys]
  | cons pattern patterns ih =>
      rw [pickKeys_cons, List.mem_append, ih]
      cases fits : Glob.fits pattern key <;> simp [fits]

/-! ## The order of the keys -/

theorem firstPlace_of_shows (shows : Shows entry key) : firstPlace (entry :: entries) key = 0 := by
  simp [firstPlace, List.findIdx_cons, shows]

theorem firstPlace_of_not_shows (hides : ¬ Shows entry key) :
    firstPlace (entry :: entries) key = firstPlace entries key + 1 := by
  simp [firstPlace, List.findIdx_cons, hides]

/-- An entry that shows neither of two keys leaves their order to the others. -/
theorem GoesBefore.cons
    (before : GoesBefore entries key other)
    (hides : ¬ Shows entry key)
    (hidesOther : ¬ Shows entry other) :
    GoesBefore (entry :: entries) key other := by
  rw [GoesBefore, firstPlace_of_not_shows hides, firstPlace_of_not_shows hidesOther]
  exact before.imp Nat.succ_lt_succ (And.imp_left (congrArg Nat.succ))

/-- Keys that the entries of a field list pick stand as the list has it. -/
theorem pairwise_pickKeys
    (ordered : keys.Pairwise (· < ·)) :
    (pickKeys keys (entries.filter fun entry => ¬ IsExclusion entry)).Pairwise
      (GoesBefore entries) := by
  induction entries generalizing keys with
  | nil => exact List.Pairwise.nil
  | cons entry rest ih =>
      by_cases excludes : IsExclusion entry
      · rw [List.filter_cons_of_neg (by simpa using excludes)]
        refine (ih ordered).imp fun before => before.cons ?_ ?_
        · exact fun shows => shows.1 excludes
        · exact fun shows => shows.1 excludes
      · rw [List.filter_cons_of_pos (by simpa using excludes), pickKeys_cons,
          List.pairwise_append]
        have shown {key : String} (member : key ∈ keys.filter (Glob.fits entry)) :
            Shows entry key :=
          ⟨excludes, (List.mem_filter.mp member).2⟩
        have hidden {key : String}
            (member :
              key ∈ pickKeys (keys.filter fun key => !Glob.fits entry key)
                (rest.filter fun entry => ¬ IsExclusion entry)) :
            ¬ Shows entry key := by
          intro shows
          have unfit := (List.mem_filter.mp (mem_pickKeys.mp member).1).2
          rw [shows.2] at unfit
          cases unfit
        refine ⟨?first, ?later, ?across⟩
        case first =>
          refine (ordered.filter _).imp_of_mem fun {key other} member memberOther less => ?_
          right
          rw [firstPlace_of_shows (shown member), firstPlace_of_shows (shown memberOther)]
          exact ⟨rfl, Text.encode_lt_encode less⟩
        case later =>
          refine (ih (ordered.filter _)).imp_of_mem fun {key other} member memberOther before => ?_
          exact before.cons (hidden member) (hidden memberOther)
        case across =>
          intro key member other memberOther
          left
          rw [firstPlace_of_shows (shown member), firstPlace_of_not_shows (hidden memberOther)]
          exact Nat.succ_pos _

/-- If no entry shows any key, the keys stand in their own order. -/
theorem pairwise_of_exclusions
    (ordered : keys.Pairwise (· < ·))
    (excludes : ∀ entry ∈ entries, IsExclusion entry) :
    keys.Pairwise (GoesBefore entries) := by
  have last (key : String) : firstPlace entries key = entries.length := by
    apply List.findIdx_eq_length_of_false
    intro entry member
    exact decide_eq_false fun shows => shows.1 (excludes entry member)
  refine ordered.imp fun {key other} less => ?_
  right
  rw [last, last]
  exact ⟨rfl, Text.encode_lt_encode less⟩

/-- In a list that an order has arranged, that order says what stands before what. -/
theorem pair_sublist_iff
    {before : String → String → Prop}
    (arranged : keys.Pairwise before)
    (asymm : ∀ {key other}, before key other → ¬ before other key) :
    [key, other].Sublist keys ↔ key ∈ keys ∧ other ∈ keys ∧ before key other := by
  constructor
  · intro pair
    have member := pair.subset List.mem_cons_self
    have memberOther := pair.subset (List.mem_cons_of_mem key List.mem_cons_self)
    exact ⟨member, memberOther, List.pairwise_iff_forall_sublist.mp arranged pair⟩
  · rintro ⟨member, memberOther, ordered⟩
    induction arranged with
    | nil => cases member
    | cons first _ ih =>
        rcases List.mem_cons.mp member with rfl | inside
        · rcases List.mem_cons.mp memberOther with rfl | insideOther
          · exact absurd ordered (asymm ordered)
          · exact (List.singleton_sublist.mpr insideOther).cons_cons _
        · rcases List.mem_cons.mp memberOther with rfl | insideOther
          · exact absurd ordered (asymm (first key inside))
          · exact (ih inside insideOther).cons _

/-! ## What is selected -/

/-- The keys that a selection shows before it takes any out. -/
def Selection.included (selection : Selection) (fields : Fields) : List String :=
  if selection.inclusions.isEmpty then
    fields.keys
  else
    pickKeys fields.keys selection.inclusions

theorem isEmpty_inclusions_iff (selection : Selection) :
    selection.inclusions.isEmpty = true ↔ ∀ entry ∈ selection.shown, IsExclusion entry := by
  simp [inclusions_eq]

section

variable
    (selection : Selection)
    (fields : Fields)

theorem mem_included :
    key ∈ selection.included fields ↔
      key ∈ fields.keys ∧
        ((∀ entry ∈ selection.shown, IsExclusion entry) ∨
          ∃ entry ∈ selection.shown, Shows entry key) := by
  rw [Selection.included, ← isEmpty_inclusions_iff]
  split
  case isTrue none => simp [none]
  case isFalse some =>
    rw [mem_pickKeys, or_iff_right some, inclusions_eq]
    simp [Shows, and_assoc]

theorem pairwise_included :
    (selection.included fields).Pairwise (GoesBefore selection.shown) := by
  rw [Selection.included]
  split
  case isTrue none =>
    exact pairwise_of_exclusions fields.pairwise_keys ((isEmpty_inclusions_iff selection).mp none)
  case isFalse =>
    rw [inclusions_eq]
    exact pairwise_pickKeys fields.pairwise_keys

theorem mem_select :
    key ∈ selection.select fields ↔
      key ∈ fields.keys ∧
        ((∀ entry ∈ selection.shown, IsExclusion entry) ∨
          ∃ entry ∈ selection.shown, Shows entry key) ∧
        ∀ entry ∈ selection.shown, ¬ TakesOut entry key := by
  show key ∈ (selection.included fields).filter _ ↔ _
  rw [List.mem_filter, mem_included, Bool.not_eq_true', ← Bool.not_eq_true, any_exclusions_iff]
  simp [and_assoc]

theorem pairwise_select : (selection.select fields).Pairwise (GoesBefore selection.shown) :=
  (pairwise_included selection fields).filter _

theorem TakesOut.isExclusion (takes : TakesOut entry key) : IsExclusion entry := by
  rcases takes with ⟨pattern, marked, _⟩
  rw [IsExclusion, marked, List.head?_cons]

/-- A selection depends on its inclusions in their order, and on its exclusions in any. -/
theorem select_congr
    {other : Selection}
    (includes :
      (other.shown.filter fun entry => ¬ IsExclusion entry) =
        selection.shown.filter fun entry => ¬ IsExclusion entry)
    (excludes :
      ∀ entry, IsExclusion entry → (entry ∈ other.shown ↔ entry ∈ selection.shown)) :
    other.select fields = selection.select fields := by
  have included : other.included fields = selection.included fields := by
    simp only [Selection.included, inclusions_eq, includes]
  show (other.included fields).filter _ = (selection.included fields).filter _
  rw [included]
  apply List.filter_congr
  intro key _
  rw [Bool.eq_iff_iff, Bool.not_eq_true', Bool.not_eq_true', ← Bool.not_eq_true,
    ← Bool.not_eq_true, any_exclusions_iff, any_exclusions_iff]
  refine not_congr (exists_congr fun entry => and_congr_left fun takes => ?_)
  exact excludes entry takes.isExclusion

/--
The fields of a row that a selection shows.  None comes twice; they are the keys of the row
that some entry shows, or all keys if the list has no such entries, without those that an
entry takes out; a key stands before another one if and only if the first entry that shows
it comes earlier or it is the smaller one of two that the same entry shows first.  Where the
entries stand that take keys out makes no difference.
-/
theorem select_characterized (row : Row) :
    (selection.select row.fields).Nodup ∧
      (∀ key,
        key ∈ selection.select row.fields ↔
          key ∈ row.fields.keys ∧
            ((∀ entry ∈ selection.shown, IsExclusion entry) ∨
              ∃ entry ∈ selection.shown, Shows entry key) ∧
            ∀ entry ∈ selection.shown, ¬ TakesOut entry key) ∧
      (∀ key other,
        [key, other].Sublist (selection.select row.fields) ↔
          key ∈ selection.select row.fields ∧ other ∈ selection.select row.fields ∧
            GoesBefore selection.shown key other) ∧
      ∀ other : Selection,
        (other.shown.filter fun entry => ¬ IsExclusion entry) =
            (selection.shown.filter fun entry => ¬ IsExclusion entry) →
          (∀ entry, IsExclusion entry → (entry ∈ other.shown ↔ entry ∈ selection.shown)) →
            other.select row.fields = selection.select row.fields := by
  have arranged := pairwise_select selection row.fields
  refine ⟨?once, fun _ => mem_select selection row.fields,
    fun _ _ => pair_sublist_iff arranged GoesBefore.asymm,
    fun _ => select_congr selection row.fields⟩
  refine arranged.imp fun {key other} before => ?_
  rintro rfl
  exact before.asymm before

example :
    Selection.select ⟨["level", "!*_body", "req_*", "l*"], []⟩
        (.ofList [("req_id", .null), ("req_body", .null), ("ts", .null), ("level", .null)]) =
      ["level", "req_id"] :=
  rfl

end

end

end Report

end LogRows
