/-!
# Star patterns

In a pattern a `*` stands for any run of characters, the empty one included,
and every other character for itself.  `Glob.fits` decides whether a text
fits.  A pattern without a star fits only itself.  Otherwise the text is
scanned from the left, remembering only the last star that was passed; on a
mismatch that star takes one character more.

The scan is a step function on a `Glob.Scan`, so that statements about every
step can be made.  Its steps are bounded by `Glob.stepBound`.
-/

namespace LogRows.Glob

/-- The place where a scan may resume: behind a star, and the text it was tried at. -/
structure Resume where
  /-- The pattern index behind the stars. -/
  pattern : Nat
  /-- The text index at which the pattern behind the stars was tried. -/
  text : Nat
deriving DecidableEq

/-- The indices a scan has reached in pattern and text. -/
structure Scan where
  pattern : Nat
  text : Nat
  /-- The last star that was passed, if any. -/
  star : Option Resume
deriving DecidableEq

/-- The start of every scan. -/
def Scan.start : Scan :=
  ⟨0, 0, none⟩

/-- What one step of a scan leads to. -/
inductive Step where
  | moved (scan : Scan)
  | decided (fits : Bool)
deriving DecidableEq

/-- The index behind the stars at a given one, which are at most `count`. -/
def skipStarsWithin (pattern : Array Char) : (count : Nat) → (index : Nat) → Nat
  | 0, index => index
  | count + 1, index =>
      if pattern[index]? = some '*' then
        skipStarsWithin pattern count (index + 1)
      else
        index

/-- The first index from a given one at which the pattern has no star. -/
def skipStars (pattern : Array Char) (index : Nat) : Nat :=
  skipStarsWithin pattern pattern.size index

/-- Whether the pattern holds nothing but stars from an index on. -/
def onlyStars (pattern : Array Char) (index : Nat) : Bool :=
  (pattern.toList.drop index).all (· == '*')

/-- One step of a scan. -/
def step (pattern text : Array Char) (scan : Scan) : Step :=
  if scan.text < text.size then
    if pattern[scan.pattern]? = some '*' then
      let behind := skipStars pattern scan.pattern
      if behind = pattern.size then
        .decided true
      else
        .moved ⟨behind, scan.text, some ⟨behind, scan.text⟩⟩
    else if pattern[scan.pattern]? = text[scan.text]? then
      .moved ⟨scan.pattern + 1, scan.text + 1, scan.star⟩
    else
      match scan.star with
      | some star =>
          .moved ⟨star.pattern, star.text + 1, some ⟨star.pattern, star.text + 1⟩⟩
      | none => .decided false
  else
    .decided (onlyStars pattern scan.pattern)

/-- The decision reached within a number of steps. -/
def run (pattern text : Array Char) : (steps : Nat) → Scan → Option Bool
  | 0, _ => none
  | steps + 1, scan =>
      match step pattern text scan with
      | .moved next => run pattern text steps next
      | .decided fits => some fits

/-- A number of steps within which every scan decides. -/
def stepBound (pattern text : Array Char) : Nat :=
  (text.size + 2) * (pattern.size + 1) + 1

/-- Whether a text fits a pattern. -/
def fits (pattern text : String) : Bool :=
  if pattern.toList.contains '*' then
    let pattern := pattern.toList.toArray
    let text := text.toList.toArray
    (run pattern text (stepBound pattern text) .start).getD false
  else
    pattern == text

end LogRows.Glob
