/-
**Cells.**

A cell of a listing is a text that is padded to a width, so that the next one begins in its column. With
colours it stands between the codes of a style and a reset; and where the text has a reset of its own,
the style begins again behind it.

* `IsPadded`, `Restarts`, `Shows`: what stands in a cell, told without the functions that write it;
* `restarts_restarted`: a style begins again behind every reset, and all else stays as it is;
* `shows_paint`: what is painted shows its text.
-/

import DumpConverter.CommandLine.Paint

namespace DumpConverter.CommandLine

/-! ### Blanks -/

/-- A text with blanks behind it that fill a width; one that is wider has none. -/
def IsPadded (width : Nat) (text cell : List Char) : Prop :=
  ∃ blanks, cell = text ++ List.replicate blanks ' ' ∧ cell.length = max width text.length

theorem isPadded_padded (width : Nat) (text : List Char) :
    IsPadded width text (padded width text) :=
  ⟨width - text.length, rfl, length_padded width text⟩

/-! ### Resets inside a text -/

/-- A text in which a style begins again behind every reset. -/
inductive Restarts (start : List Char) : List Char → List Char → Prop where
  | nil : Restarts start [] []
  | character {c : Char} {rest shown : List Char} (other : ¬ "\x1b[0m".toList <+: c :: rest)
      (later : Restarts start rest shown) : Restarts start (c :: rest) (c :: shown)
  | reset {rest shown : List Char} (later : Restarts start rest shown) :
      Restarts start ("\x1b[0m".toList ++ rest) ("\x1b[0m".toList ++ start ++ shown)

theorem restarted_reset_append (start rest : List Char) :
    restarted start 0 (reset ++ rest) = reset ++ start ++ restarted start 0 rest := by
  have letters : reset = ['\x1b', '[', '0', 'm'] := by decide
  simp [restarted, letters]

theorem restarted_cons_of_noReset {start rest : List Char} {c : Char}
    (other : ¬ reset <+: c :: rest) : restarted start 0 (c :: rest) = c :: restarted start 0 rest := by
  rw [restarted, if_neg (by rwa [List.isPrefixOf_iff_prefix])]

/-- **A style begins again behind every reset**, and all else stays as it is. -/
theorem restarts_restarted (start text : List Char) :
    Restarts start text (restarted start 0 text) := by
  -- on the length of the text, since a reset is passed at once
  induction length : text.length using Nat.strongRecOn generalizing text with
  | ind count ih =>
    subst length
    by_cases begins : reset <+: text
    · obtain ⟨rest, rfl⟩ := begins
      rw [restarted_reset_append]
      refine .reset (ih rest.length ?_ rest rfl)
      rw [List.length_append]
      exact Nat.lt_add_of_pos_left (by decide)
    · cases text with
      | nil => exact .nil
      | cons c rest =>
        rw [restarted_cons_of_noReset begins]
        exact .character begins (ih rest.length (Nat.lt_succ_self _) rest rfl)

/-! ### What a cell shows -/

/-- A cell shows a text, in a style that has these codes if there are colours. -/
inductive Shows (codes : String) (width : Nat) (text : String) : Bool → String → Prop where
  | plain {cell : List Char} (pads : IsPadded width text.toList cell) :
      Shows codes width text false (String.ofList cell)
  | coloured {shown cell : List Char}
      (restarts : Restarts ("\x1b[" ++ codes ++ "m").toList text.toList shown)
      (pads : IsPadded width shown cell) :
      Shows codes width text true ("\x1b[" ++ codes ++ "m" ++ String.ofList cell ++ "\x1b[0m")

/-- **What is painted shows its text.** -/
theorem shows_paint (colours : Bool) (style : Style) (width : Nat) (text : String) :
    Shows (";".intercalate style.codes) width text colours (paint colours style width text) := by
  cases colours with
  | false =>
    rw [paint_plain]
    exact .plain (isPadded_padded width text.toList)
  | true =>
    have painted : paint true style width text =
        "\x1b[" ++ ";".intercalate style.codes ++ "m" ++
          String.ofList (padded width (restarted style.start 0 text.toList)) ++ "\x1b[0m" := by
      rw [paint, if_pos rfl, String.ofList_append, String.ofList_append]
      simp only [Style.start, reset, String.ofList_toList]
    rw [painted]
    exact .coloured (restarts_restarted style.start text.toList) (isPadded_padded width _)

end DumpConverter.CommandLine
