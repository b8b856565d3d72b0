import LogRows.Condition.Glob

/-!
# What a star pattern stands for

A pattern is a text with gaps: it stands for every text that results if each star is
replaced by a run of characters of its own (`filled`).  `Glob.fits` accepts exactly these
texts (`fits_iff_exists_filled`).

The scan remembers only the last star that it passed.  It never has to come back to an
earlier one, for the characters between the two stars have been found as early in the
text as possible, so whatever fits behind a later occurrence of them also fits behind
this one (`StandsFor.suffix_of_run`).  `Scan.Tracks` says so of every state of a scan,
`Tracks.step` that a step keeps it, and `Tracks.run` that a scan decides within as many
steps as its `potential` has units.
-/

namespace LogRows.Glob

/-- The text of a pattern whose stars are replaced by runs of characters, in their order. -/
def filled : (pattern : List Char) → (runs : Nat → List Char) → List Char
  | [], _ => []
  | character :: rest, runs =>
      if character = '*' then
        runs 0 ++ filled rest fun star => runs (star + 1)
      else
        character :: filled rest runs

/-- The texts that a pattern stands for, read off the pattern from its left end. -/
inductive StandsFor : List Char → List Char → Prop where
  | nothing : StandsFor [] []
  | run
      {pattern text : List Char}
      (run : List Char)
      (more : StandsFor pattern text) :
      StandsFor ('*' :: pattern) (run ++ text)
  | itself
      {pattern text : List Char}
      {character : Char}
      (plain : character ≠ '*')
      (more : StandsFor pattern text) :
      StandsFor (character :: pattern) (character :: text)

/-! ## Texts of a pattern -/

section

variable {pattern text rest literal : List Char}

theorem standsFor_iff_exists_filled :
    StandsFor pattern text ↔ ∃ runs, filled pattern runs = text := by
  constructor
  · intro stands
    induction stands with
    | nothing => exact ⟨fun _ => [], rfl⟩
    | run run more ih =>
        rcases ih with ⟨runs, rfl⟩
        exact ⟨fun star => star.casesOn run runs, rfl⟩
    | itself plain more ih =>
        rcases ih with ⟨runs, rfl⟩
        refine ⟨runs, ?_⟩
        rw [filled, if_neg plain]
  · rintro ⟨runs, rfl⟩
    induction pattern generalizing runs with
    | nil => exact .nothing
    | cons character pattern ih =>
        rw [filled]
        split
        case isTrue star =>
          subst star
          exact .run (runs 0) (ih _)
        case isFalse plain => exact .itself plain (ih runs)

/-- A star takes any characters in front of what fits behind it. -/
theorem standsFor_star_iff :
    StandsFor ('*' :: pattern) text ↔ ∃ rest, rest <:+ text ∧ StandsFor pattern rest := by
  constructor
  · intro stands
    cases stands with
    | run run more => exact ⟨_, List.suffix_append run _, more⟩
    | itself plain more => exact absurd rfl plain
  · rintro ⟨rest, ⟨run, rfl⟩, more⟩
    exact .run run more

theorem StandsFor.star_of_suffix
    (stands : StandsFor ('*' :: pattern) rest)
    (suffix : rest <:+ text) :
    StandsFor ('*' :: pattern) text := by
  rcases standsFor_star_iff.mp stands with ⟨last, inside, more⟩
  exact standsFor_star_iff.mpr ⟨last, inside.trans suffix, more⟩

theorem standsFor_star_cons {character : Char} :
    StandsFor ('*' :: pattern) (character :: text) ↔
      StandsFor pattern (character :: text) ∨ StandsFor ('*' :: pattern) text := by
  constructor
  · intro stands
    rcases standsFor_star_iff.mp stands with ⟨rest, suffix, more⟩
    rcases List.suffix_cons_iff.mp suffix with rfl | inside
    · exact .inl more
    · exact .inr (standsFor_star_iff.mpr ⟨rest, inside, more⟩)
  · rintro (now | later)
    · exact .run [] now
    · exact later.star_of_suffix (List.suffix_cons character text)

/-- Stars next to each other are like one. -/
theorem standsFor_star_dropWhile :
    StandsFor ('*' :: pattern.dropWhile (· == '*')) text ↔ StandsFor ('*' :: pattern) text := by
  induction pattern generalizing text with
  | nil => rfl
  | cons character pattern ih =>
      by_cases star : character = '*'
      · subst star
        rw [List.dropWhile_cons_of_pos (by rfl), ih]
        constructor
        · exact .run []
        · intro stands
          rcases standsFor_star_iff.mp stands with ⟨rest, suffix, more⟩
          exact more.star_of_suffix suffix
      · rw [List.dropWhile_cons_of_neg (by simpa using star)]

theorem not_standsFor_nil
    {character : Char}
    (plain : character ≠ '*') :
    ¬ StandsFor (character :: pattern) [] := by
  generalize whole : [] = given
  intro stands
  cases stands with
  | run => exact plain rfl
  | itself => cases whole

theorem standsFor_nil_iff :
    StandsFor pattern [] ↔ pattern.all (· == '*') = true := by
  induction pattern with
  | nil => exact ⟨fun _ => rfl, fun _ => .nothing⟩
  | cons character pattern ih =>
      by_cases star : character = '*'
      · subst star
        rw [standsFor_star_iff]
        simp [ih]
      · simp [star, not_standsFor_nil star]

/-- Characters that are no stars stand for themselves. -/
theorem standsFor_append_iff (plain : '*' ∉ literal) :
    StandsFor (literal ++ pattern) text ↔
      ∃ rest, text = literal ++ rest ∧ StandsFor pattern rest := by
  induction literal generalizing text with
  | nil => simp
  | cons character literal ih =>
      have others : '*' ∉ literal := fun member => plain (List.mem_cons_of_mem _ member)
      have unstarred : character ≠ '*' := fun equal => plain (equal ▸ List.mem_cons_self)
      constructor
      · intro stands
        cases stands with
        | run => exact absurd rfl unstarred
        | itself _ more =>
            rcases (ih others).mp more with ⟨rest, rfl, stands⟩
            exact ⟨rest, rfl, stands⟩
      · rintro ⟨rest, rfl, stands⟩
        exact .itself unstarred ((ih others).mpr ⟨rest, rfl, stands⟩)

theorem standsFor_append_append_iff (plain : '*' ∉ literal) :
    StandsFor (literal ++ pattern) (literal ++ text) ↔ StandsFor pattern text := by
  rw [standsFor_append_iff plain]
  constructor
  · rintro ⟨rest, equal, stands⟩
    exact List.append_cancel_left equal ▸ stands
  · intro stands
    exact ⟨text, rfl, stands⟩

/--
If a text begins with the characters behind a star, whatever occurrence of them the star
leads to, the pattern behind them stands for an end of what follows the first one.
-/
theorem StandsFor.suffix_of_run
    (stands : StandsFor ('*' :: (literal ++ pattern)) (literal ++ text))
    (plain : '*' ∉ literal) :
    ∃ rest, rest <:+ text ∧ StandsFor pattern rest := by
  rcases standsFor_star_iff.mp stands with ⟨found, suffix, more⟩
  rcases (standsFor_append_iff plain).mp more with ⟨rest, rfl, stands⟩
  have shorter := suffix.length_le
  simp only [List.length_append, Nat.add_le_add_iff_left] at shorter
  refine ⟨rest, ?_, stands⟩
  exact List.suffix_of_suffix_length_le ((List.suffix_append literal rest).trans suffix)
    (List.suffix_append literal text) shorter

theorem not_standsFor_of_ne
    {character : Char}
    (unstarred : pattern.head? ≠ some '*')
    (other : pattern.head? ≠ some character) :
    ¬ StandsFor pattern (character :: text) := by
  generalize whole : character :: text = given
  intro stands
  cases stands with
  | nothing => cases whole
  | run => exact unstarred rfl
  | itself plain more =>
      cases whole
      exact other rfl

/-- If what follows the first occurrence does not fit, the star has to take one character more. -/
theorem standsFor_star_iff_tail
    {character : Char}
    (plain : '*' ∉ literal)
    (unstarred : pattern.head? ≠ some '*')
    (other : pattern.head? ≠ some character) :
    StandsFor ('*' :: (literal ++ pattern)) (literal ++ character :: text) ↔
      StandsFor ('*' :: (literal ++ pattern)) (literal ++ character :: text).tail := by
  have fails : ¬ StandsFor (literal ++ pattern) (literal ++ character :: text) := by
    rw [standsFor_append_append_iff plain]
    exact not_standsFor_of_ne unstarred other
  cases given : literal ++ character :: text with
  | nil => cases (List.append_eq_nil_iff.mp given).2
  | cons first others =>
      rw [given] at fails
      rw [standsFor_star_cons, or_iff_right fails]
      rfl

end

/-! ## Skipping stars -/

theorem drop_eq_cons
    {characters : Array Char}
    {index : Nat}
    {character : Char}
    (found : characters[index]? = some character) :
    characters.toList.drop index = character :: characters.toList.drop (index + 1) := by
  rw [← Array.getElem?_toList] at found
  rcases List.getElem?_eq_some_iff.mp found with ⟨inside, equal⟩
  rw [List.drop_eq_getElem_cons inside, equal]

@[simp]
theorem head?_drop_toList (characters : Array Char) (index : Nat) :
    (characters.toList.drop index).head? = characters[index]? := by
  rw [List.head?_drop, Array.getElem?_toList]

theorem drop_skipStarsWithin
    (pattern : Array Char)
    {count index : Nat}
    (enough : pattern.size ≤ index + count) :
    pattern.toList.drop (skipStarsWithin pattern count index) =
      (pattern.toList.drop index).dropWhile (· == '*') := by
  induction count generalizing index with
  | zero =>
      rw [skipStarsWithin, List.drop_of_length_le (by simpa using enough)]
      rfl
  | succ count ih =>
      rw [skipStarsWithin]
      split
      case isTrue star =>
        rw [ih (by omega)]
        rw [drop_eq_cons star, List.dropWhile_cons_of_pos (by rfl)]
      case isFalse unstarred =>
        rw [← head?_drop_toList] at unstarred
        cases left : pattern.toList.drop index with
        | nil => rfl
        | cons character rest =>
            rw [left] at unstarred
            rw [List.dropWhile_cons_of_neg (by simpa using unstarred)]

/-- Behind skipped stars the pattern goes on with its first other character. -/
theorem drop_skipStars (pattern : Array Char) (index : Nat) :
    pattern.toList.drop (skipStars pattern index) =
      (pattern.toList.drop index).dropWhile (· == '*') :=
  drop_skipStarsWithin pattern (Nat.le_add_left _ _)

theorem skipStarsWithin_bounds
    (pattern : Array Char)
    {count index : Nat}
    (within : index ≤ pattern.size) :
    index ≤ skipStarsWithin pattern count index ∧
      skipStarsWithin pattern count index ≤ pattern.size := by
  induction count generalizing index with
  | zero => exact ⟨Nat.le_refl _, within⟩
  | succ count ih =>
      rw [skipStarsWithin]
      split
      case isTrue star =>
        rcases Array.getElem?_eq_some_iff.mp star with ⟨inside, _⟩
        rcases ih (Nat.succ_le_of_lt inside) with ⟨later, bounded⟩
        exact ⟨Nat.le_of_succ_le later, bounded⟩
      case isFalse => exact ⟨Nat.le_refl _, within⟩

theorem lt_skipStars
    {pattern : Array Char}
    {index : Nat}
    (star : pattern[index]? = some '*') :
    index < skipStars pattern index ∧ skipStars pattern index ≤ pattern.size := by
  rcases Array.getElem?_eq_some_iff.mp star with ⟨inside, _⟩
  cases size : pattern.size with
  | zero => omega
  | succ count =>
      rw [skipStars, size, skipStarsWithin, if_pos star, ← size]
      exact skipStarsWithin_bounds pattern (Nat.succ_le_of_lt inside)

/-! ## What a scan has found out -/

namespace Scan

/-- The place from which a scan compares characters: behind the last star or at the start. -/
def origin (scan : Scan) : Resume :=
  scan.star.getD ⟨0, 0⟩

/-- The part of the pattern that has to stand for the text from the origin on. -/
def due (pattern : Array Char) (scan : Scan) : List Char :=
  match scan.star with
  | none => pattern.toList
  | some star => '*' :: pattern.toList.drop star.pattern

/--
What holds of every state of a scan: from its origin it has passed some characters, which
are no stars, in pattern and text alike, and what is due at the origin decides.
-/
structure Tracks
    (pattern text : Array Char)
    (scan : Scan)
    (passed : List Char) :
    Prop where
  plain : '*' ∉ passed
  pattern_le : scan.pattern ≤ pattern.size
  text_le : scan.text ≤ text.size
  star_lt : ∀ star ∈ scan.star, star.pattern < pattern.size
  pattern_eq : scan.pattern = scan.origin.pattern + passed.length
  text_eq : scan.text = scan.origin.text + passed.length
  pattern_passed :
    pattern.toList.drop scan.origin.pattern = passed ++ pattern.toList.drop scan.pattern
  text_passed :
    text.toList.drop scan.origin.text = passed ++ text.toList.drop scan.text
  standsFor_iff :
    StandsFor pattern.toList text.toList ↔
      StandsFor (scan.due pattern) (text.toList.drop scan.origin.text)

/-- The number of text indices that will not be tried behind a star any more. -/
def tried (scan : Scan) : Nat :=
  match scan.star with
  | none => 0
  | some star => star.text + 1

/--
A bound on the steps that a scan still takes.  A step back in the pattern is paid for by
the star, which tries a later index of the text.
-/
def potential (pattern text : Array Char) (scan : Scan) : Nat :=
  (text.size + 1 - scan.tried) * (pattern.size + 1) + (pattern.size - scan.pattern)

section

variable
    {pattern text : Array Char}
    {scan : Scan}
    {passed : List Char}

theorem Tracks.start (pattern text : Array Char) :
    Tracks pattern text .start [] where
  plain := List.not_mem_nil
  pattern_le := Nat.zero_le _
  text_le := Nat.zero_le _
  star_lt := nofun
  pattern_eq := rfl
  text_eq := rfl
  pattern_passed := rfl
  text_passed := rfl
  standsFor_iff := Iff.rfl

/-- Without a star, what is left of the pattern has to stand for what is left of the text. -/
theorem Tracks.standsFor_iff_of_none
    (tracks : Tracks pattern text scan passed)
    (unstarred : scan.star = none) :
    StandsFor pattern.toList text.toList ↔
      StandsFor (pattern.toList.drop scan.pattern) (text.toList.drop scan.text) := by
  have whole := tracks.pattern_passed
  rw [tracks.standsFor_iff, tracks.text_passed]
  simp only [origin, due, unstarred, Option.getD_none, List.drop_zero] at whole ⊢
  exact (iff_of_eq (congrArg (StandsFor · _) whole)).trans
    (standsFor_append_append_iff tracks.plain)

theorem Tracks.standsFor_iff_of_some
    (tracks : Tracks pattern text scan passed)
    {star : Resume}
    (starred : scan.star = some star) :
    StandsFor pattern.toList text.toList ↔
      StandsFor ('*' :: (passed ++ pattern.toList.drop scan.pattern))
        (passed ++ text.toList.drop scan.text) := by
  have behind := tracks.pattern_passed
  rw [tracks.standsFor_iff, tracks.text_passed]
  simp only [origin, due, starred, Option.getD_some] at behind ⊢
  rw [behind]

theorem Tracks.standsFor_of_left
    (tracks : Tracks pattern text scan passed)
    (stands :
      StandsFor (pattern.toList.drop scan.pattern) (text.toList.drop scan.text)) :
    StandsFor pattern.toList text.toList := by
  cases starred : scan.star with
  | none => exact (tracks.standsFor_iff_of_none starred).mpr stands
  | some star =>
      refine (tracks.standsFor_iff_of_some starred).mpr (.run [] ?_)
      exact (standsFor_append_append_iff tracks.plain).mpr stands

/-- If the pattern stands for the text, then what is left of it for an end of the text. -/
theorem Tracks.exists_suffix
    (tracks : Tracks pattern text scan passed)
    (stands : StandsFor pattern.toList text.toList) :
    ∃ rest, rest <:+ text.toList.drop scan.text ∧
      StandsFor (pattern.toList.drop scan.pattern) rest := by
  cases starred : scan.star with
  | none => exact ⟨_, List.suffix_rfl, (tracks.standsFor_iff_of_none starred).mp stands⟩
  | some star =>
      exact ((tracks.standsFor_iff_of_some starred).mp stands).suffix_of_run tracks.plain

/-- At a star, the pattern from there on decides, and no earlier star is needed again. -/
theorem Tracks.standsFor_iff_of_star
    (tracks : Tracks pattern text scan passed)
    {rest : List Char}
    (star : pattern.toList.drop scan.pattern = '*' :: rest) :
    StandsFor pattern.toList text.toList ↔
      StandsFor
        ('*' :: (pattern.toList.drop scan.pattern).dropWhile (· == '*'))
        (text.toList.drop scan.text) := by
  rw [star, List.dropWhile_cons_of_pos (by rfl), standsFor_star_dropWhile, ← star]
  constructor
  · intro stands
    rcases tracks.exists_suffix stands with ⟨last, suffix, more⟩
    rw [star] at more ⊢
    exact more.star_of_suffix suffix
  · exact tracks.standsFor_of_left

/-- At the end of the text, the pattern may go on with stars alone. -/
theorem Tracks.standsFor_iff_of_ended
    (tracks : Tracks pattern text scan passed)
    (ended : text.toList.drop scan.text = []) :
    StandsFor pattern.toList text.toList ↔ onlyStars pattern scan.pattern = true := by
  rw [onlyStars, ← standsFor_nil_iff]
  constructor
  · intro stands
    rcases tracks.exists_suffix stands with ⟨rest, suffix, more⟩
    rw [ended, List.suffix_nil] at suffix
    exact suffix ▸ more
  · intro stands
    exact tracks.standsFor_of_left (ended ▸ stands)

/-- A scan at a star goes on behind the stars, and only from there. -/
theorem Tracks.pass
    (tracks : Tracks pattern text scan passed)
    (star : pattern[scan.pattern]? = some '*')
    (more : skipStars pattern scan.pattern ≠ pattern.size) :
    let behind := skipStars pattern scan.pattern
    Tracks pattern text ⟨behind, scan.text, some ⟨behind, scan.text⟩⟩ [] := by
  intro behind
  rcases lt_skipStars star with ⟨_, bounded⟩
  exact
    { plain := List.not_mem_nil
      pattern_le := bounded
      text_le := tracks.text_le
      star_lt := by
        rintro _ ⟨⟩
        exact Nat.lt_of_le_of_ne bounded more
      pattern_eq := rfl
      text_eq := rfl
      pattern_passed := rfl
      text_passed := rfl
      standsFor_iff := by
        rw [tracks.standsFor_iff_of_star (drop_eq_cons star), ← drop_skipStars]
        rfl }

/-- A scan takes a character that pattern and text have in common. -/
theorem Tracks.take
    (tracks : Tracks pattern text scan passed)
    {character : Char}
    (unstarred : character ≠ '*')
    (next : pattern[scan.pattern]? = some character)
    (read : text[scan.text]? = some character) :
    Tracks pattern text ⟨scan.pattern + 1, scan.text + 1, scan.star⟩
      (passed ++ [character]) where
  plain := by
    rw [List.mem_append, List.mem_singleton]
    rintro (member | equal)
    · exact tracks.plain member
    · exact unstarred equal.symm
  pattern_le := (Array.getElem?_eq_some_iff.mp next).1
  text_le := (Array.getElem?_eq_some_iff.mp read).1
  star_lt := tracks.star_lt
  pattern_eq := by
    rw [List.length_append, ← Nat.add_assoc]
    exact congrArg (· + 1) tracks.pattern_eq
  text_eq := by
    rw [List.length_append, ← Nat.add_assoc]
    exact congrArg (· + 1) tracks.text_eq
  pattern_passed := by
    rw [List.append_assoc, List.singleton_append, ← drop_eq_cons next]
    exact tracks.pattern_passed
  text_passed := by
    rw [List.append_assoc, List.singleton_append, ← drop_eq_cons read]
    exact tracks.text_passed
  standsFor_iff := tracks.standsFor_iff

/-- On a mismatch the last star takes one character more. -/
theorem Tracks.resume
    (tracks : Tracks pattern text scan passed)
    {star : Resume}
    {character : Char}
    (starred : scan.star = some star)
    (read : text[scan.text]? = some character)
    (unstarred : pattern[scan.pattern]? ≠ some '*')
    (other : pattern[scan.pattern]? ≠ some character) :
    Tracks pattern text
      ⟨star.pattern, star.text + 1, some ⟨star.pattern, star.text + 1⟩⟩ [] where
  plain := List.not_mem_nil
  pattern_le := Nat.le_of_lt (tracks.star_lt star starred)
  text_le := by
    have reached := tracks.text_eq
    have inside := (Array.getElem?_eq_some_iff.mp read).1
    simp only [origin, starred, Option.getD_some] at reached
    show star.text + 1 ≤ text.size
    omega
  star_lt := by
    rintro _ ⟨⟩
    exact tracks.star_lt star starred
  pattern_eq := rfl
  text_eq := rfl
  pattern_passed := rfl
  text_passed := rfl
  standsFor_iff := by
    have behind := tracks.pattern_passed
    have ahead := tracks.text_passed
    simp only [origin, starred, Option.getD_some] at behind ahead
    rw [← head?_drop_toList] at unstarred other
    rw [tracks.standsFor_iff_of_some starred, drop_eq_cons read,
      standsFor_star_iff_tail tracks.plain unstarred other, ← drop_eq_cons read, ← ahead,
      ← behind, List.tail_drop]
    rfl

/-- A mismatch without a star cannot be mended. -/
theorem Tracks.not_standsFor_of_none
    (tracks : Tracks pattern text scan passed)
    {character : Char}
    (starless : scan.star = none)
    (read : text[scan.text]? = some character)
    (unstarred : pattern[scan.pattern]? ≠ some '*')
    (other : pattern[scan.pattern]? ≠ some character) :
    ¬ StandsFor pattern.toList text.toList := by
  rw [← head?_drop_toList] at unstarred other
  rw [tracks.standsFor_iff_of_none starless, drop_eq_cons read]
  exact not_standsFor_of_ne unstarred other

/-- Nothing but stars stands for every text. -/
theorem Tracks.standsFor_of_only_stars
    (tracks : Tracks pattern text scan passed)
    (star : pattern[scan.pattern]? = some '*')
    (last : skipStars pattern scan.pattern = pattern.size) :
    StandsFor pattern.toList text.toList := by
  rw [tracks.standsFor_iff_of_star (drop_eq_cons star), ← drop_skipStars, last,
    List.drop_of_length_le (by simp)]
  exact standsFor_star_iff.mpr ⟨[], List.nil_suffix, .nothing⟩

theorem Tracks.tried_le (tracks : Tracks pattern text scan passed) :
    scan.tried ≤ scan.text + 1 := by
  have reached := tracks.text_eq
  unfold tried
  unfold origin at reached
  cases starred : scan.star with
  | none => exact Nat.zero_le _
  | some star =>
      rw [starred, Option.getD_some] at reached
      show star.text + 1 ≤ scan.text + 1
      omega

/-- A step that goes forward in the pattern and does not take back what was tried is progress. -/
theorem potential_lt_of_forward
    {next : Scan}
    (tried : scan.tried ≤ next.tried)
    (forward : scan.pattern < next.pattern)
    (bounded : next.pattern ≤ pattern.size) :
    next.potential pattern text < scan.potential pattern text := by
  have fewer :
      (text.size + 1 - next.tried) * (pattern.size + 1) ≤
        (text.size + 1 - scan.tried) * (pattern.size + 1) :=
    Nat.mul_le_mul_right _ (Nat.sub_le_sub_left tried _)
  unfold potential
  omega

/-- A step that tries a later index of the text is progress wherever it goes in the pattern. -/
theorem potential_lt_of_retry
    {next : Scan}
    (tried : next.tried = scan.tried + 1)
    (inside : scan.tried ≤ text.size) :
    next.potential pattern text < scan.potential pattern text := by
  have one : text.size + 1 - scan.tried = (text.size + 1 - next.tried) + 1 := by
    omega
  unfold potential
  rw [one, Nat.add_mul, Nat.one_mul]
  omega

/-- What a step may lead to: a state of which as much is known, with less potential, or the right decision. -/
inductive Advances (pattern text : Array Char) (scan : Scan) : Step → Prop where
  | moved
      {next : Scan}
      {passed : List Char}
      (tracks : Tracks pattern text next passed)
      (lower : next.potential pattern text < scan.potential pattern text) :
      Advances pattern text scan (.moved next)
  | decided
      {fits : Bool}
      (right : fits = true ↔ StandsFor pattern.toList text.toList) :
      Advances pattern text scan (.decided fits)

/-- A step keeps what is known of a scan and lowers its potential, or decides rightly. -/
theorem Tracks.step (tracks : Tracks pattern text scan passed) :
    scan.Advances pattern text (Glob.step pattern text scan) := by
  unfold Glob.step
  split
  case isFalse ended =>
    have finished : text.toList.drop scan.text = [] :=
      List.drop_of_length_le (by simpa using ended)
    exact .decided (tracks.standsFor_iff_of_ended finished).symm
  case isTrue inside =>
    have read : text[scan.text]? = some text[scan.text] := Array.getElem?_eq_getElem inside
    split
    case isTrue star =>
      extract_lets behind
      split
      case isTrue last =>
        exact .decided (iff_of_true rfl (tracks.standsFor_of_only_stars star last))
      case isFalse more =>
        rcases lt_skipStars star with ⟨forward, bounded⟩
        refine .moved (tracks.pass star more) ?_
        exact potential_lt_of_forward tracks.tried_le forward bounded
    case isFalse unstarred =>
      rw [read]
      split
      case isTrue same =>
        have forward := (Array.getElem?_eq_some_iff.mp same).1
        rw [same, Option.some_inj] at unstarred
        refine .moved (tracks.take unstarred same read) ?_
        exact potential_lt_of_forward (Nat.le_refl _) (Nat.lt_succ_self _) forward
      case isFalse other =>
        split
        case h_1 star starred =>
          have reached := tracks.tried_le
          refine .moved (tracks.resume starred read unstarred other) ?_
          refine potential_lt_of_retry ?_ (Nat.le_trans reached inside)
          simp [tried, starred]
        case h_2 starless =>
          have fails := tracks.not_standsFor_of_none starless read unstarred other
          exact .decided (iff_of_false Bool.false_ne_true fails)

/-- A scan decides rightly if it may take more steps than its potential has units. -/
theorem Tracks.run
    (tracks : Tracks pattern text scan passed)
    {steps : Nat}
    (enough : scan.potential pattern text < steps) :
    ∃ fits, Glob.run pattern text steps scan = some fits ∧
      (fits = true ↔ StandsFor pattern.toList text.toList) := by
  induction steps generalizing scan passed with
  | zero => cases enough
  | succ steps ih =>
      have advances := tracks.step
      rw [Glob.run]
      cases step : Glob.step pattern text scan with
      | moved next =>
          rw [step] at advances
          cases advances with
          | moved later lower =>
              exact ih later (Nat.lt_of_lt_of_le lower (Nat.le_of_lt_succ enough))
      | decided fits =>
          rw [step] at advances
          cases advances with
          | decided right => exact ⟨fits, rfl, right⟩

end

end Scan

/-! ## The texts that fit -/

theorem potential_start_add_one (pattern text : Array Char) :
    Scan.start.potential pattern text + 1 = (text.size + 2) * (pattern.size + 1) := by
  show (text.size + 1) * (pattern.size + 1) + pattern.size + 1 =
    (text.size + 1 + 1) * (pattern.size + 1)
  rw [Nat.add_mul (text.size + 1) 1]
  omega

theorem potential_start_lt (pattern text : Array Char) :
    Scan.start.potential pattern text < stepBound pattern text := by
  rw [stepBound, ← potential_start_add_one]
  omega

/-- Without a star there is nothing to fill in. -/
theorem standsFor_of_starless
    {pattern text : List Char}
    (starless : '*' ∉ pattern) :
    StandsFor pattern text ↔ pattern = text := by
  rw [← List.append_nil pattern, standsFor_append_iff starless, List.append_nil]
  constructor
  · rintro ⟨rest, rfl, empty⟩
    cases empty
    exact (List.append_nil pattern).symm
  · rintro rfl
    exact ⟨[], (List.append_nil pattern).symm, .nothing⟩

theorem fits_iff_standsFor (pattern text : String) :
    fits pattern text = true ↔ StandsFor pattern.toList text.toList := by
  unfold fits
  split
  case isTrue =>
    have tracks := Scan.Tracks.start pattern.toList.toArray text.toList.toArray
    rcases tracks.run (potential_start_lt _ _) with ⟨decision, decided, right⟩
    simpa [decided] using right
  case isFalse starless =>
    rw [standsFor_of_starless (by simpa using starless), beq_iff_eq, String.toList_inj]

/--
A text fits a pattern if and only if it is the pattern with each star replaced by a run of
characters of its own, which may be empty, and every other character left as it is.
-/
theorem fits_iff_exists_filled (pattern text : String) :
    fits pattern text = true ↔
      ∃ runs : Nat → List Char, String.ofList (filled pattern.toList runs) = text := by
  rw [fits_iff_standsFor, standsFor_iff_exists_filled]
  constructor
  · rintro ⟨runs, same⟩
    exact ⟨runs, by rw [same, String.ofList_toList]⟩
  · rintro ⟨runs, rfl⟩
    exact ⟨runs, String.toList_ofList.symm⟩

end LogRows.Glob
