/-
**Coloured text.**

Text for terminals: padded to a width counted in characters, and coloured by codes in front of it and
a reset behind it.

* `length_padded`: a padded text is as long as the width, or as the text if that is longer;
* `paint_plain`: without colours a text is only padded.
-/

namespace DumpConverter.CommandLine

/-- A text with blanks behind it, up to a width. -/
def padded (width : Nat) (text : List Char) : List Char :=
  text ++ List.replicate (width - text.length) ' '

theorem length_padded (width : Nat) (text : List Char) :
    (padded width text).length = max width text.length := by
  simp [padded]
  omega

/-- How a text is coloured. -/
inductive Colour where
  | red | green | yellow | cyan | white
deriving DecidableEq, Repr

/-- How a text is shown. -/
structure Style where
  bold : Bool
  dimmed : Bool
  colour : Option Colour
deriving DecidableEq, Repr

namespace Style

/-- Text of a colour. -/
def coloured (colour : Colour) : Style := ⟨false, false, some colour⟩

/-- Bold text of a colour. -/
def boldColoured (colour : Colour) : Style := ⟨true, false, some colour⟩

/-- Dimmed text. -/
def dim : Style := ⟨false, true, none⟩

/-- The codes of a style. -/
def codes (style : Style) : List String :=
  (if style.bold then ["1"] else []) ++ (if style.dimmed then ["2"] else []) ++
    match style.colour with
    | some .red => ["31"]
    | some .green => ["32"]
    | some .yellow => ["33"]
    | some .cyan => ["36"]
    | some .white => ["37"]
    | none => []

/-- What begins text of a style. -/
def start (style : Style) : List Char :=
  ("\x1b[" ++ ";".intercalate style.codes ++ "m").toList

end Style

/-- What ends coloured text. -/
def reset : List Char := "\x1b[0m".toList

/-- Begins a style again behind every reset inside a text; `skip` characters of a reset are still to
be passed. -/
def restarted (start : List Char) : Nat → List Char → List Char
  | _, [] => []
  | skip, c :: rest =>
    match skip with
    | 0 =>
      if reset.isPrefixOf (c :: rest) then c :: restarted start (reset.length - 1) rest
      else c :: restarted start 0 rest
    | 1 => c :: start ++ restarted start 0 rest
    | skip + 2 => c :: restarted start (skip + 1) rest

/-- A text in a style, padded to a width; `colours` says whether styles are shown. -/
def paint (colours : Bool) (style : Style) (width : Nat) (text : String) : String :=
  if colours then
    String.ofList (style.start ++ padded width (restarted style.start 0 text.toList) ++ reset)
  else String.ofList (padded width text.toList)

/-- Without colours a text is only padded. -/
theorem paint_plain (style : Style) (width : Nat) (text : String) :
    paint false style width text = String.ofList (padded width text.toList) := rfl

end DumpConverter.CommandLine
