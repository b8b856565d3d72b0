import LogRows.Disk

/-!
# Writing a file and reading it back

A write that succeeds puts its bytes where the path leads (`Disk.NamesFile`).  After it
the path still leads there, so the bytes are read back, the next write succeeds as well,
and making the directories above the file changes nothing.

None of this looks at more than directories on the way.  A write replaces none, for a
directory is never written over, so every walk that succeeded before it leads to the same
place behind it (`walk_of_keeps`).
-/

namespace LogRows.Disk

/-! ## Walks -/

/-- A walk goes on from a directory, with a name that is not too long. -/
theorem walk_cons_eq_ok_iff
    {disk : Disk}
    {place reached : Place}
    {name : String}
    {rest : List String} :
    disk.walk place (name :: rest) = .ok reached ↔
      disk.entry? place = some .directory ∧
        ¬ nameLimit < name.utf8ByteSize ∧ disk.walk (follow place name) rest = .ok reached := by
  constructor
  · intro walked
    rw [walk] at walked
    split at walked
    case h_1 directory =>
      split at walked
      case isTrue => cases walked
      case isFalse short => exact ⟨directory, short, walked⟩
    case h_2 => cases walked
    case h_3 => cases walked
  · rintro ⟨directory, short, walked⟩
    rw [walk, directory]
    simp only [if_neg short]
    exact walked

/-- Whether all directories of a disk are directories of another one. -/
def KeepsDirectories (disk other : Disk) : Prop :=
  ∀ place, disk.entry? place = some .directory → other.entry? place = some .directory

/-- A walk looks at nothing but directories on its way. -/
theorem walk_of_keeps
    {disk other : Disk}
    (keeps : disk.KeepsDirectories other)
    {place reached : Place}
    {names : List String}
    (walked : disk.walk place names = .ok reached) :
    other.walk place names = .ok reached := by
  induction names generalizing place with
  | nil => exact walked
  | cons name rest ih =>
      rcases walk_cons_eq_ok_iff.mp walked with ⟨directory, short, further⟩
      exact walk_cons_eq_ok_iff.mpr ⟨keeps place directory, short, ih further⟩

theorem walk_append
    {disk : Disk}
    {place between reached : Place}
    {names more : List String}
    (walked : disk.walk place names = .ok between)
    (further : disk.walk between more = .ok reached) :
    disk.walk place (names ++ more) = .ok reached := by
  induction names generalizing place with
  | nil =>
      cases walked
      exact further
  | cons name rest ih =>
      rcases walk_cons_eq_ok_iff.mp walked with ⟨directory, short, onward⟩
      exact walk_cons_eq_ok_iff.mpr ⟨directory, short, ih onward⟩

/-! ## Where a path names a file -/

theorem entry?_store (disk : Disk) (place : Place) (content : List UInt8) :
    Disk.entry? (disk.store place content) place = some (.file content) := by
  simp [store, entry?]

theorem entry?_store_of_ne
    {place wanted : Place}
    (apart : wanted ≠ place)
    (disk : Disk)
    (content : List UInt8) :
    Disk.entry? (disk.store place content) wanted = disk.entry? wanted := by
  have same :
      (disk.store place content).files.find? (fun file => file.1 = wanted) =
        disk.files.find? (fun file => file.1 = wanted) := by
    rw [store, List.find?_cons_of_neg (by simpa using Ne.symm apart), List.find?_filter]
    congr 1
    funext file
    by_cases found : file.1 = wanted
    · simp [found, apart]
    · simp [found]
  unfold entry?
  rw [same]
  rfl

/-- The place where a path names a file, be it there or not. -/
inductive NamesFile (disk : Disk) (path : String) : Place → Prop where
  | intro
      {before : List String}
      {last : String}
      {parent : Place}
      (sound : pathFault? path = none)
      (spelled : names path = before ++ [last])
      (named : last ≠ "" ∧ last ≠ "." ∧ last ≠ "..")
      (short : ¬ nameLimit < last.utf8ByteSize)
      (walked : disk.walk [] before = .ok parent)
      (inside : disk.entry? parent = some .directory)
      (undirected : disk.entry? (follow parent last) ≠ some .directory) :
      NamesFile disk path (follow parent last)

/-- A path without a slash at its end ends in a name. -/
theorem names_of_no_slash
    {path last : String}
    {before : List String}
    (unended : (names path).reverse.takeWhile (· = "") = [])
    (spelled : (names path).reverse.dropWhile (· = "") = last :: before) :
    last ≠ "" ∧ names path = before.reverse ++ [last] := by
  have whole : _ ++ (names path).reverse.dropWhile (· = "") = (names path).reverse :=
    List.takeWhile_append_dropWhile
  rw [unended, spelled, List.nil_append] at whole
  constructor
  · rintro rfl
    rw [← whole] at unended
    simp at unended
  · rw [← List.reverse_cons, whole, List.reverse_reverse]

/-- A write that succeeds puts its bytes where the path names a file. -/
theorem write_eq_ok
    {disk changed : Disk}
    {path : String}
    {content : List UInt8}
    (written : disk.write path content = .ok changed) :
    ∃ place, NamesFile disk path place ∧ changed = disk.store place content := by
  unfold write at written
  split at written
  case h_1 => cases written
  case h_2 => cases written
  case h_3 last before sound spelled =>
    cases walked : disk.walk [] before.reverse with
    | error fault =>
        rw [walked] at written
        cases written
    | ok parent =>
        simp only [walked, bind, Except.bind] at written
        split at written
        case h_1 => cases written
        case h_2 => cases written
        case h_3 inside =>
          split at written
          case isTrue => cases written
          case isFalse plain =>
            split at written
            case isTrue => cases written
            case isFalse short =>
              split at written
              case h_1 => cases written
              case h_2 undirected =>
                cases written
                simp only [Bool.or_eq_true, decide_eq_true_eq, not_or] at plain
                obtain ⟨⟨unended, single⟩, double⟩ := plain
                have bare : (names path).reverse.takeWhile (· = "") = [] := by
                  simpa using unended
                obtain ⟨named, order⟩ := names_of_no_slash bare spelled
                refine ⟨_, .intro sound order ⟨named, single, double⟩ short walked inside ?_, rfl⟩
                intro directory
                exact undirected directory

/-- A write succeeds where the path names a file. -/
theorem NamesFile.write
    {disk : Disk}
    {path : String}
    {place : Place}
    (names : NamesFile disk path place)
    (content : List UInt8) :
    disk.write path content = .ok (disk.store place content) := by
  cases names with
  | @intro before last parent sound spelled named short walked inside undirected =>
      have order : (Disk.names path).reverse = last :: before.reverse := by
        rw [spelled, List.reverse_append]
        rfl
      have kept : (last :: before.reverse).dropWhile (· = "") = last :: before.reverse := by
        simp [named.1]
      have unended : (last :: before.reverse).takeWhile (· = "") = [] := by
        simp [named.1]
      unfold Disk.write
      simp only [sound, order, kept, unended, List.reverse_reverse, walked, bind, Except.bind,
        inside]
      rw [if_neg (by simp [named.2.1, named.2.2]), if_neg short]

/-! ## After a write -/

theorem keepsDirectories_store
    {disk : Disk}
    {place : Place}
    (undirected : disk.entry? place ≠ some .directory)
    (content : List UInt8) :
    disk.KeepsDirectories (disk.store place content) := by
  intro other found
  have apart : other ≠ place := by
    rintro rfl
    exact undirected found
  rw [entry?_store_of_ne apart]
  exact found

section Written

variable
    {disk : Disk}
    {path : String}
    {place : Place}
    (named : NamesFile disk path place)
    (content : List UInt8)

include named

theorem NamesFile.keepsDirectories :
    disk.KeepsDirectories (disk.store place content) := by
  cases named with
  | intro _ _ _ _ _ _ undirected => exact keepsDirectories_store undirected content

/-- The path names a file at the same place after the write. -/
theorem NamesFile.store : NamesFile (disk.store place content) path place := by
  have keeps := named.keepsDirectories content
  have written := entry?_store disk place content
  cases named with
  | @intro before last parent sound spelled proper short walked inside undirected =>
      refine .intro sound spelled proper short (walk_of_keeps keeps walked) (keeps _ inside) ?_
      rw [written]
      rintro ⟨⟩

/-- What is written is read back. -/
theorem NamesFile.read_store :
    (disk.store place content).read path = .ok content := by
  have keeps := named.keepsDirectories content
  have written := entry?_store disk place content
  cases named with
  | @intro before last parent sound spelled proper short walked inside undirected =>
      have step :
          (disk.store (follow parent last) content).walk parent [last] =
            .ok (follow parent last) :=
        walk_cons_eq_ok_iff.mpr ⟨keeps _ inside, short, rfl⟩
      have reached := walk_append (walk_of_keeps keeps walked) step
      have resolved :
          (disk.store (follow parent last) content).resolve path = .ok (.file content) := by
        rw [resolve, sound, spelled, reached]
        simp only [bind, Except.bind, written]
      rw [read, resolved]

end Written

/-! ## Directories above a file -/

theorem leadsToDirectory_iff
    {disk : Disk}
    {steps : List String} :
    disk.leadsToDirectory steps = true ↔
      ∃ place, disk.walk [] steps = .ok place ∧ disk.entry? place = some .directory := by
  unfold leadsToDirectory
  constructor
  · intro leads
    split at leads
    case h_1 place walked =>
      split at leads
      case h_1 directory => exact ⟨place, walked, directory⟩
      case h_2 => cases leads
    case h_2 => cases leads
  · rintro ⟨place, walked, directory⟩
    simp only [walked, directory]

theorem leadsToDirectory_of_keeps
    {disk other : Disk}
    (keeps : disk.KeepsDirectories other)
    {steps : List String}
    (leads : disk.leadsToDirectory steps = true) :
    other.leadsToDirectory steps = true := by
  rcases leadsToDirectory_iff.mp leads with ⟨place, walked, directory⟩
  exact leadsToDirectory_iff.mpr ⟨place, walk_of_keeps keeps walked, keeps place directory⟩

/-- A directory in a place where nothing is stands there, beside all others. -/
theorem entry?_directory
    {disk : Disk}
    {place : Place}
    (vacant : disk.entry? place = none) :
    Disk.entry? { disk with directories := place :: disk.directories } place =
      some .directory := by
  unfold entry? at vacant ⊢
  split at vacant
  case h_1 => cases vacant
  case h_2 unfiled =>
    simp only [unfiled]
    simp

theorem keepsDirectories_directory (disk : Disk) (place : Place) :
    disk.KeepsDirectories { disk with directories := place :: disk.directories } := by
  intro other found
  unfold entry? at found ⊢
  split at found
  case h_1 => cases found
  case h_2 unfiled =>
    simp only [unfiled]
    split at found
    case isTrue known =>
      refine if_pos ?_
      rw [Bool.or_eq_true] at known ⊢
      rcases known with above | listed
      · exact .inl above
      · exact .inr (by simp [List.contains_iff_mem.mp listed])
    case isFalse => cases found

/-- A directory that is made is where its steps lead. -/
theorem leadsToDirectory_of_makeDirectory
    {disk made : Disk}
    {steps : List String}
    (makes : disk.makeDirectory steps = .ok made) :
    made.leadsToDirectory steps = true := by
  unfold makeDirectory at makes
  split at makes
  case h_1 => cases makes
  case h_2 sound =>
    cases walked : disk.walk [] steps with
    | error fault =>
        rw [walked] at makes
        cases makes
    | ok place =>
        simp only [walked, bind, Except.bind] at makes
        split at makes
        case h_1 => cases makes
        case h_2 vacant =>
          cases makes
          have keeps := keepsDirectories_directory disk place
          exact leadsToDirectory_iff.mpr
            ⟨place, walk_of_keeps keeps walked, entry?_directory vacant⟩

/-- Steps that cannot be made are still made if they lead to a directory already. -/
theorem leadsToDirectory_of_excused
    {disk made : Disk}
    {steps : List String}
    {fault : IoError}
    (excused :
      (if disk.leadsToDirectory steps = true then Except.ok () else .error fault, disk) =
        (Except.ok (), made)) :
    made.leadsToDirectory steps = true := by
  rcases Prod.mk.inj excused with ⟨granted, rfl⟩
  split at granted
  case isTrue leads => exact leads
  case isFalse => cases granted

/-- What has been made leads where it should. -/
theorem leadsToDirectory_of_makeDirectories
    {disk made : Disk}
    {last : String}
    {above : List String}
    (makes : disk.makeDirectories (last :: above) = (.ok (), made)) :
    made.leadsToDirectory (last :: above).reverse = true := by
  rw [makeDirectories] at makes
  simp only at makes
  split at makes
  case h_1 =>
    split at makes
    case h_1 =>
      split at makes
      case h_1 created =>
        cases makes
        exact leadsToDirectory_of_makeDirectory created
      case h_2 => exact leadsToDirectory_of_excused makes
    case h_2 further =>
      exact (further made makes).elim
  case h_2 =>
    split at makes
    case h_1 created =>
      cases makes
      exact leadsToDirectory_of_makeDirectory created
    case h_2 => exact leadsToDirectory_of_excused makes

/-- A path that is spelled of names is not empty. -/
theorem pathFault?_intercalate_ne
    {steps : List String}
    (some : steps ≠ [])
    (named : ∀ name ∈ steps, name ≠ "") :
    pathFault? ("/".intercalate steps) ≠ .some .notFound := by
  have spelled : "/".intercalate steps ≠ "" := by
    cases steps with
    | nil => exact absurd rfl some
    | cons first rest =>
        intro empty
        have characters := congrArg String.toList empty
        rw [String.toList_intercalate] at characters
        cases rest with
        | nil =>
            refine named first List.mem_cons_self (String.toList_inj.mp ?_)
            simpa using characters
        | cons second rest => simp at characters
  unfold pathFault?
  intro broken
  split at broken
  case isTrue => cases broken
  case isFalse => split at broken <;> cases broken

/-- A directory that is there is not made, but not missed either. -/
theorem makeDirectory_of_leads
    {disk : Disk}
    {steps : List String}
    (some : steps ≠ [])
    (named : ∀ name ∈ steps, name ≠ "")
    (leads : disk.leadsToDirectory steps = true) :
    ∃ fault, fault ≠ .notFound ∧ disk.makeDirectory steps = .error fault := by
  rcases leadsToDirectory_iff.mp leads with ⟨place, walked, directory⟩
  unfold makeDirectory
  split
  case h_1 fault broken =>
    refine ⟨fault, ?_, rfl⟩
    rintro rfl
    exact pathFault?_intercalate_ne some named broken
  case h_2 =>
    refine ⟨.alreadyExists, by decide, ?_⟩
    simp only [walked, bind, Except.bind, directory]

/-- Where the steps lead to a directory already, nothing is made. -/
theorem makeDirectories_of_leads
    {disk : Disk}
    {last : String}
    {above : List String}
    (named : ∀ name ∈ last :: above, name ≠ "")
    (leads : disk.leadsToDirectory (last :: above).reverse = true) :
    disk.makeDirectories (last :: above) = (.ok (), disk) := by
  have proper : ∀ name ∈ (last :: above).reverse, name ≠ "" :=
    fun name member => named name (List.mem_reverse.mp member)
  rcases makeDirectory_of_leads (by simp) proper leads with ⟨fault, present, refused⟩
  rw [makeDirectories]
  simp only [refused]
  split
  case h_1 missing =>
    cases missing
    exact absurd rfl present
  case h_2 => simp only [leads, if_true]

theorem ne_of_mem_steps
    {path name : String}
    (member : name ∈ steps path) :
    name ≠ "" := by
  unfold steps at member
  have kept : ∀ {name}, name ∈ (names path).filter (· ≠ "") → name ≠ "" := by
    intro name among
    simpa using (List.mem_filter.mp among).2
  split at member
  case h_1 rest first =>
    rw [first] at kept
    rcases List.mem_cons.mp member with rfl | among
    · decide
    · exact kept (List.mem_cons_of_mem _ (List.mem_filter.mp among).1)
  case h_2 => exact kept (List.mem_filter.mp member).1

/-- Making the directories above a file again changes nothing. -/
theorem makeParents_again
    {disk made other : Disk}
    {path : String}
    (makes : disk.makeParents path = (.ok (), made))
    (keeps : made.KeepsDirectories other) :
    other.makeParents path = (.ok (), other) := by
  have named : ∀ name ∈ (steps path).reverse.tail, name ≠ "" := by
    intro name member
    exact ne_of_mem_steps (List.mem_reverse.mp (List.mem_of_mem_tail member))
  unfold makeParents at makes ⊢
  cases reversed : (steps path).reverse.tail with
  | nil => rfl
  | cons last above =>
      rw [reversed] at makes named
      have leads := leadsToDirectory_of_makeDirectories makes
      exact makeDirectories_of_leads named (leadsToDirectory_of_keeps keeps leads)

end LogRows.Disk
