/-
**The columns of a summary.**

A table pads the names of the rules to one width, and behind them the hits begin. The width is measured
in bytes and padding counts characters. A text has no fewer bytes than characters, so the width leaves
room for every name, and the hits stand below each other whatever characters the names have.

* `length_le_utf8ByteSize`: a text has at least one byte for each of its characters;
* `nameWidth_le_iff`: the width is the least one that holds the header and, in bytes, every name;
* `inColumns_padded`: behind a name that is padded to the width, with two blanks more, the next column
  begins;
* `summary_inColumns`: the table, line by line.
-/

import DumpConverter.CommandLine.Summary
import Mathlib.Data.List.Forall2
import Mathlib.Data.String.Basic

namespace DumpConverter.CommandLine

/-! ### The width -/

/-- A text has at least one byte for each of its characters. -/
theorem length_le_utf8ByteSize (text : String) : text.length ≤ text.utf8ByteSize := by
  have counted : ∀ characters : List Char, characters.length ≤ String.utf8Len characters := by
    intro characters
    induction characters with
    | nil => exact Nat.le_refl 0
    | cons c rest ih =>
      rw [List.length_cons, String.utf8Len_cons]
      exact Nat.add_le_add ih c.utf8Size_pos
  calc text.length = text.toList.length := String.length_toList.symm
    _ ≤ String.utf8Len text.toList := counted _
    _ = text.utf8ByteSize := String.utf8Len_toList text

variable {hits : List RuleHit} {hit : RuleHit}

/-- The width is the least one that holds the header and, in bytes, every name. -/
theorem nameWidth_le_iff {width : Nat} :
    nameWidth hits ≤ width ↔ 4 ≤ width ∧ ∀ hit ∈ hits, hit.rule.utf8ByteSize ≤ width := by
  -- the longest name so far changes from step to step, so it is left open
  have folded : ∀ least,
      hits.foldl (fun longest hit => max longest hit.rule.utf8ByteSize) least ≤ width ↔
        least ≤ width ∧ ∀ hit ∈ hits, hit.rule.utf8ByteSize ≤ width := by
    induction hits with
    | nil => simp
    | cons hit hits ih =>
      intro least
      rw [List.foldl_cons, ih, Nat.max_le, List.forall_mem_cons, and_assoc]
  rw [nameWidth, Nat.max_le, folded]
  simp

theorem four_le_nameWidth (hits : List RuleHit) : 4 ≤ nameWidth hits :=
  (nameWidth_le_iff.1 (Nat.le_refl _)).1

/-- Every name has room in the width, counted in characters. -/
theorem length_le_nameWidth (member : hit ∈ hits) : hit.rule.length ≤ nameWidth hits :=
  (length_le_utf8ByteSize hit.rule).trans ((nameWidth_le_iff.1 (Nat.le_refl _)).2 hit member)

/-! ### Lines -/

/-- A line is a whole name and an entry that begins at `column`, counted in characters. Between them
there are only blanks, and at least two of them. -/
def InColumns (column : Nat) (name entry line : String) : Prop :=
  ∃ blanks, 2 ≤ blanks ∧ name.length + blanks = column ∧
    line = name ++ String.ofList (List.replicate blanks ' ') ++ entry

/-- Behind a name that is padded to the width, with two blanks more, the next column begins. -/
theorem inColumns_padded {width : Nat} {name : String} (fits : name.length ≤ width)
    (entry : String) :
    InColumns (width + 2) name entry
      (String.ofList (padded width name.toList) ++ "  " ++ entry) := by
  refine ⟨width - name.length + 2, Nat.le_add_left .., by omega, ?_⟩
  have two : "  " = String.ofList (List.replicate 2 ' ') := rfl
  simp only [two, padded, String.ofList_append, String.ofList_toList, String.length_toList,
    List.replicate_add, String.append_assoc]

/-- The heading of the hits begins where the hits do. -/
theorem inColumns_header {width : Nat} (wide : 4 ≤ width) :
    InColumns (width + 2) "Rule" "Hits" (String.ofList (header width)) := by
  have heading : String.ofList (header width) =
      String.ofList (padded width "Rule".toList) ++ "  " ++ "Hits" := by
    rw [header, String.ofList_append, String.append_assoc]
    rfl
  rw [heading]
  exact inColumns_padded wide "Hits"

theorem length_dashes (length : Nat) : (dashes length).length = length :=
  List.length_replicate

/-! ### Tables without colours -/

/-- The row of a rule without colours, up to the end of its line. -/
def plainRow (width : Nat) (hit : RuleHit) : String :=
  String.ofList (padded width hit.rule.toList) ++ "  " ++ toString hit.hits

theorem inColumns_plainRow (member : hit ∈ hits) :
    InColumns (nameWidth hits + 2) hit.rule (toString hit.hits) (plainRow (nameWidth hits) hit) :=
  inColumns_padded (length_le_nameWidth member) (toString hit.hits)

/-- Without colours and a width a text stays as it is. -/
theorem paint_plain_zero (style : Style) (text : String) : paint false style 0 text = text := by
  simp [paint_plain, padded]

theorem hitLine_plain (width : Nat) (hit : RuleHit) :
    hitLine false width hit = plainRow width hit ++ "\n" := by
  simp only [hitLine, plainRow, paint_plain_zero]

theorem table_plain (conversion : Conversion) :
    table false conversion =
      String.ofList (header (nameWidth conversion.rules)) ++ "\n" ++
        String.ofList (dashes (nameWidth conversion.rules + 6)) ++ "\n" ++
        String.join ((conversion.rules.map (plainRow (nameWidth conversion.rules))).map (· ++ "\n")) ++
        "\n" ++ toString conversion.totalHits ++ " rewrite(s)\n" := by
  simp only [table, paint_plain_zero, List.map_map, Function.comp_def, ← hitLine_plain]

/-- **A table without colours is aligned, whatever characters the names of the rules have.** There is
one width such that the header and the line of dashes below it are both six characters longer, and
every rule has its row, in order, in which the whole name stands first and the hits begin two
characters behind the width, as their heading does. -/
theorem summary_inColumns (conversion : Conversion) :
    ∃ (width : Nat) (heading line : String) (rows : List String),
      summary .table false conversion =
        heading ++ "\n" ++ line ++ "\n" ++ String.join (rows.map (· ++ "\n")) ++ "\n" ++
          toString conversion.totalHits ++ " rewrite(s)\n" ∧
      heading.length = width + 6 ∧ InColumns (width + 2) "Rule" "Hits" heading ∧
      line.length = width + 6 ∧ (∀ c ∈ line.toList, c = '─') ∧
      List.Forall₂ (fun hit row => InColumns (width + 2) hit.rule (toString hit.hits) row)
        conversion.rules rows := by
  have wide := four_le_nameWidth conversion.rules
  refine ⟨nameWidth conversion.rules, _, _, _, table_plain conversion, ?_, inColumns_header wide,
    ?_, ?_, ?_⟩
  · rw [String.length_ofList, length_header _ wide, length_dashes]
  · rw [String.length_ofList, length_dashes]
  · rw [String.toList_ofList]
    exact fun c member => List.eq_of_mem_replicate member
  · rw [List.forall₂_map_right_iff, List.forall₂_same]
    exact fun hit member => inColumns_plainRow member

/-- The first name has three characters in five bytes. -/
example : summary .table false ⟨"", [⟨"été", 12⟩, ⟨"id", 0⟩]⟩ =
    "Rule   Hits\n───────────\nété    12\nid     0\n\n12 rewrite(s)\n" := by
  decide +kernel

end DumpConverter.CommandLine
