import LogRows.Proofs.StarPatterns

/-!
# How long a star pattern is scanned

However often a scan goes back, it ends: for a pattern of `p` characters and a text of `t`
characters it takes at most `(t + 2) * (p + 1)` steps, the deciding one included
(`scan_bounded`).  In all the states that it takes (`Reaches`) its indices stay inside
pattern and text and do not fall behind those of its last star (`Scan.Inside`).  So no
character is looked up where there is none: `step?` is the step with look-ups that may fail,
and from no such state does it fail (`step?_eq`).

Going back is no loss, for the star has then tried one more index of the text, and it never
tries one twice.  `Reaches.tracks` keeps this account: the steps behind a state and its
potential are together never more than the potential of the start.
-/

namespace LogRows.Glob

/-! ## Look-ups that may fail -/

/--
Whether there is a character at an index that is equal to another one.  If there is one,
both of them have to be found: the answer is missing if the other one is.
-/
def foundAt? (characters : Array Char) (index : Nat) (other : Option Char) : Option Bool :=
  if index < characters.size then do
    return (← characters[index]?) == (← other)
  else
    some false

/--
The index behind the stars at a given one, tried index by index, which is missing if a
number of tries is not enough.
-/
def passStars? (pattern : Array Char) : (tries : Nat) → (index : Nat) → Option Nat
  | 0, _ => none
  | tries + 1, index => do
      if ← foundAt? pattern index (some '*') then
        passStars? pattern tries (index + 1)
      else
        return index

/--
One step of a scan by look-ups that may fail.  The step is missing if a character is looked
up outside pattern or text, if the stars do not end within the pattern, or if what is left
of the pattern would begin behind its end.
-/
def step? (pattern text : Array Char) (scan : Scan) : Option Step :=
  if scan.text < text.size then do
    if ← foundAt? pattern scan.pattern (some '*') then
      let behind ← passStars? pattern (pattern.size + 1) scan.pattern
      if behind = pattern.size then
        return .decided true
      else
        return .moved ⟨behind, scan.text, some ⟨behind, scan.text⟩⟩
    else if ← foundAt? pattern scan.pattern text[scan.text]? then
      return .moved ⟨scan.pattern + 1, scan.text + 1, scan.star⟩
    else
      match scan.star with
      | some star =>
          return .moved ⟨star.pattern, star.text + 1, some ⟨star.pattern, star.text + 1⟩⟩
      | none => return .decided false
  else if scan.pattern ≤ pattern.size then
    some (.decided (onlyStars pattern scan.pattern))
  else
    none

@[simp]
theorem foundAt?_some (characters : Array Char) (index : Nat) (character : Char) :
    foundAt? characters index (some character) =
      some (decide (characters[index]? = some character)) := by
  unfold foundAt?
  split
  case isTrue inside =>
    simp [Array.getElem?_eq_getElem inside, Bool.beq_eq_decide_eq]
  case isFalse outside =>
    rw [Array.getElem?_eq_none (Nat.le_of_not_lt outside)]
    rfl

/-- Tried one by one, the stars end where they are skipped to. -/
theorem passStars?_succ
    (pattern : Array Char)
    {count index : Nat}
    (enough : pattern.size ≤ index + count) :
    passStars? pattern (count + 1) index = some (skipStarsWithin pattern count index) := by
  induction count generalizing index with
  | zero =>
      have ended : pattern[index]? = none := Array.getElem?_eq_none enough
      simp [passStars?, skipStarsWithin, ended]
  | succ count ih =>
      rw [passStars?, skipStarsWithin, foundAt?_some]
      by_cases star : pattern[index]? = some '*'
      · simpa [star] using ih (by omega)
      · simp [star]

/-- As long as a scan has not left the pattern, every look-up of its next step succeeds. -/
theorem step?_eq
    (pattern text : Array Char)
    {scan : Scan}
    (inside : scan.pattern ≤ pattern.size) :
    step? pattern text scan = some (step pattern text scan) := by
  rw [step?, step]
  by_cases unread : scan.text < text.size
  · have passed :
        passStars? pattern (pattern.size + 1) scan.pattern =
          some (skipStars pattern scan.pattern) :=
      passStars?_succ pattern (Nat.le_add_left _ _)
    rw [if_pos unread, if_pos unread, Array.getElem?_eq_getElem unread]
    simp only [foundAt?_some, passed, Option.bind_eq_bind, Option.bind_some, Option.pure_def,
      decide_eq_true_eq, apply_ite some]
    cases scan.star <;> rfl
  · rw [if_neg unread, if_neg unread, if_pos inside]

/-! ## The states of a scan -/

/-- What holds of the indices in every state of a scan. -/
structure Scan.Inside (pattern text : Array Char) (scan : Scan) : Prop where
  pattern_le : scan.pattern ≤ pattern.size
  text_le : scan.text ≤ text.size
  star_lt : ∀ star ∈ scan.star, star.pattern < pattern.size
  star_le_pattern : ∀ star ∈ scan.star, star.pattern ≤ scan.pattern
  star_le_text : ∀ star ∈ scan.star, star.text ≤ scan.text

/-- The states that a scan takes, each with the number of steps that have led to it. -/
inductive Reaches (pattern text : Array Char) : (steps : Nat) → (scan : Scan) → Prop where
  | start : Reaches pattern text 0 .start
  | moved
      {steps : Nat}
      {scan next : Scan}
      (reaches : Reaches pattern text steps scan)
      (moves : step pattern text scan = .moved next) :
      Reaches pattern text (steps + 1) next

section

variable
    {pattern text : Array Char}
    {steps : Nat}
    {scan : Scan}

/-- What a scan has passed since its last star separates its indices from those of the star. -/
theorem Scan.Tracks.inside
    {passed : List Char}
    (tracks : scan.Tracks pattern text passed) :
    scan.Inside pattern text where
  pattern_le := tracks.pattern_le
  text_le := tracks.text_le
  star_lt := tracks.star_lt
  star_le_pattern := by
    intro star starred
    have reached := tracks.pattern_eq
    simp only [Scan.origin, Option.mem_def.mp starred, Option.getD_some] at reached
    exact reached ▸ Nat.le_add_right star.pattern _
  star_le_text := by
    intro star starred
    have tried := tracks.tried_le
    simp only [Scan.tried, Option.mem_def.mp starred] at tried
    exact Nat.le_of_succ_le_succ tried

/-- Each step that was taken has been paid for with a unit of the potential. -/
theorem Reaches.tracks (reaches : Reaches pattern text steps scan) :
    ∃ passed, scan.Tracks pattern text passed ∧
      steps + scan.potential pattern text ≤ Scan.start.potential pattern text := by
  induction reaches with
  | start => exact ⟨[], .start pattern text, Nat.le_of_eq (Nat.zero_add _)⟩
  | moved _ moves ih =>
      rcases ih with ⟨passed, tracks, paid⟩
      have advances := tracks.step
      rw [moves] at advances
      cases advances with
      | moved later lower => exact ⟨_, later, by omega⟩

/-- A run that is in some state of the scan goes on as one that starts there. -/
theorem Reaches.run_add
    (reaches : Reaches pattern text steps scan)
    (more : Nat) :
    run pattern text (steps + more) .start = run pattern text more scan := by
  induction reaches generalizing more with
  | start => rw [Nat.zero_add]
  | moved _ moves ih =>
      rw [Nat.add_right_comm, Nat.add_assoc, ih, run, moves]

/-- A run from a state of the scan decides, if it does, in a later one within its steps. -/
theorem Reaches.exists_decided
    (reaches : Reaches pattern text steps scan)
    {more : Nat}
    {fits : Bool}
    (decided : run pattern text more scan = some fits) :
    ∃ taken last, taken < steps + more ∧ Reaches pattern text taken last ∧
      step pattern text last = .decided fits := by
  -- The induction is on the steps left, from whatever state they start in.
  induction more generalizing steps scan with
  | zero => cases decided
  | succ more ih =>
      rw [run] at decided
      cases moves : step pattern text scan with
      | moved next =>
          rw [moves] at decided
          rcases ih (reaches.moved moves) decided with ⟨taken, last, within, ending⟩
          exact ⟨taken, last, by omega, ending⟩
      | decided answer =>
          rw [moves] at decided
          cases decided
          exact ⟨steps, scan, by omega, reaches, moves⟩

end

/--
A scan decides within `(t + 2) * (p + 1)` steps, where the pattern has `p` characters and the
text `t`, and more steps than it takes do not change its decision.  No state of it has as
many steps behind it.  In each of them the indices lie inside pattern and text and not in
front of those of the last star, and all look-ups of the next step succeed.
-/
theorem scan_bounded (pattern text : Array Char) :
    let bound := (text.size + 2) * (pattern.size + 1)
    (∃ taken last fits, taken < bound ∧ Reaches pattern text taken last ∧
      step pattern text last = .decided fits ∧
      ∀ steps, taken < steps → run pattern text steps .start = some fits) ∧
    ∀ steps scan, Reaches pattern text steps scan →
      steps < bound ∧
        scan.Inside pattern text ∧
        step? pattern text scan = some (step pattern text scan) := by
  intro bound
  have paid : Scan.start.potential pattern text < bound :=
    Nat.lt_of_succ_le (Nat.le_of_eq (potential_start_add_one pattern text))
  constructor
  -- That the run decides is known; following its states shows in which of them it does so.
  · rcases (Scan.Tracks.start pattern text).run paid with ⟨fits, decided, _⟩
    rcases Reaches.start.exists_decided decided with ⟨taken, last, within, reaches, ending⟩
    refine ⟨taken, last, fits, by omega, reaches, ending, fun steps later => ?_⟩
    rcases Nat.exists_eq_add_of_lt later with ⟨more, rfl⟩
    rw [Nat.add_assoc, reaches.run_add, run, ending]
  · intro steps scan reaches
    rcases reaches.tracks with ⟨passed, tracks, left⟩
    exact ⟨by omega, tracks.inside, step?_eq pattern text tracks.pattern_le⟩

/-- The third step of the scan for `*ab` in `aab` goes back to its star and stays inside. -/
theorem scan_bounded_of_retry :
    let pattern := #['*', 'a', 'b']
    let text := #['a', 'a', 'b']
    let scan : Scan := ⟨1, 1, some ⟨1, 1⟩⟩
    Reaches pattern text 3 scan ∧
      3 < (3 + 2) * (3 + 1) ∧
      scan.Inside pattern text ∧
      step? pattern text scan = some (.moved ⟨2, 2, some ⟨1, 1⟩⟩) := by
  intro pattern text scan
  have starred : Reaches pattern text 1 ⟨1, 0, some ⟨1, 0⟩⟩ := .moved .start rfl
  have compared : Reaches pattern text 2 ⟨2, 1, some ⟨1, 0⟩⟩ := .moved starred rfl
  have retried : Reaches pattern text 3 scan := .moved compared rfl
  rcases (scan_bounded pattern text).2 3 scan retried with ⟨few, inside, found⟩
  exact ⟨retried, few, inside, found⟩

end LogRows.Glob
