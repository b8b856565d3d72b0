import LogRows.Text.Replace

/-!
# Styled text for terminals

A style is written as an escape sequence in front of a text, and taken back by
a reset behind it.  A reset inside the text would end the style early, so the
style is opened again after it.  Without colors, and for a style that sets
nothing, a text is written as it is.
-/

namespace LogRows.Report

/-- The colors in use, named as terminals name them. -/
inductive Color where
  | black
  | red
  | green
  | magenta
  | cyan
  | brightGreen
  | brightYellow
  | brightBlue
deriving DecidableEq

/-- The code that sets a color for letters; for the background ten is added. -/
def Color.code : Color → Nat
  | .black => 30
  | .red => 31
  | .green => 32
  | .magenta => 35
  | .cyan => 36
  | .brightGreen => 92
  | .brightYellow => 93
  | .brightBlue => 94

/-- How a text is to look. -/
structure Style where
  bold : Bool
  background : Option Color
  foreground : Option Color
deriving DecidableEq

namespace Style

/-- The style that sets nothing. -/
def plain : Style :=
  ⟨false, none, none⟩

/-- Letters in a color. -/
def colored (color : Color) : Style :=
  ⟨false, none, some color⟩

/-- The codes of a style: weight, background, letters. -/
def codes (style : Style) : List Nat :=
  (if style.bold then [1] else []) ++
    (style.background.map (·.code + 10)).toList ++
    (style.foreground.map (·.code)).toList

/-- The character that begins an escape sequence. -/
def escape : Char :=
  '\x1b'

/-- The sequence that opens a style. -/
def opening (style : Style) : List Char :=
  [escape, '['] ++
    (String.intercalate ";" (style.codes.map toString)).toList ++ ['m']

/-- The sequence that takes all styles back. -/
def reset : List Char :=
  [escape, '[', '0', 'm']

/-- A text in a style, if colors are on. -/
def paint (color : Bool) (style : Style) (text : String) : String :=
  if !color || style.codes.isEmpty then
    text
  else
    String.ofList <|
      style.opening ++
        Text.replaceAll reset (reset ++ style.opening) text.toList ++ reset

@[simp]
theorem paint_false (style : Style) (text : String) :
    paint false style text = text :=
  rfl

end Style

end LogRows.Report
