/-
**What counts as a pragma.**

The first rule knows neither words nor statements: it takes the keyword wherever it stands with a
semicolon behind it on its line, unless a pragma before it on the line is still open. What it
removes is a statement only where the keyword is a word of its own and begins one.

* `Rule.replaced`: what a rule replaces in a text, each with what stands before it;
* `mem_replacedFrom_iff`: the pragmas that the first rule removes, told without its walk;
* `stripPragma_removes`: what it removes, when all of that is statements, and when it is nothing.
-/

import DumpConverter.Proofs.Builtin.Idempotence

namespace DumpConverter

open Matcher Unicode

/-! ### What a rule replaces -/

/-- A match that is replaced: `new` takes the place of `old`, behind `before`. -/
structure Replaced where
  before : List Char
  old : List Char
  new : List Char
deriving DecidableEq

/-- Matches with the gaps before them, each told with all that stands before it. -/
def replacedFrom (passed : List Char) : List (List Char × List Char × List Char) → List Replaced
  | [] => []
  | (gap, old, new) :: later =>
    ⟨passed ++ gap, old, new⟩ :: replacedFrom (passed ++ (gap ++ old)) later

/-- What a rule replaces in a text, from left to right. -/
def Rule.replaced (rule : Rule) (text : List Char) : List Replaced :=
  replacedFrom [] ((rule.pattern.occurrences text).found.map fun found =>
    (found.gap, found.whole, rule.render found))

namespace Builtin

/-! ### Pragmas in a text -/

/-- Whether the keyword has been written on the last line of a text and no semicolon behind it. -/
def IsOpen (text : List Char) : Prop :=
  ∃ before stretch, text = before ++ ("PRAGMA".toList ++ stretch) ∧
    ';' ∉ stretch ∧ '\n' ∉ stretch

/-- A pragma stands in a text behind `before`, where none is open. -/
structure StandsBehind (text before pragma : List Char) : Prop where
  isPragma : IsPragma pragma
  reads : ∃ after, text = before ++ (pragma ++ after)
  outside : ¬ IsOpen before

/-- Whether a statement begins behind a text: nothing but white space comes behind its beginning,
behind a semicolon, or behind a line break. -/
def BeginsStatement (before : List Char) : Prop :=
  ∃ earlier blanks, before = earlier ++ blanks ∧ (∀ c ∈ blanks, isBlank c = true) ∧
    (earlier = [] ∨ earlier.getLast? = some ';' ∨ earlier.getLast? = some '\n')

/-- Whether the keyword begins a statement and is a word of its own. -/
def IsStatement (before pragma : List Char) : Prop :=
  BeginsStatement before ∧ ∃ behind, pragma = "PRAGMA".toList ++ behind ∧
    isWordAt behind.head? = false

/-- Whether all that the first rule removes is statements. -/
def RemovesStatements (text : List Char) : Prop :=
  ∀ replaced ∈ stripPragma.replaced text, IsStatement replaced.before replaced.old

theorem not_isOpen_nil : ¬ IsOpen [] := by
  rintro ⟨earlier, stretch, reads, -⟩
  simp at reads

/-- A semicolon closes every pragma before it. -/
theorem isOpen_append_semicolon {before after : List Char} :
    IsOpen (before ++ ';' :: after) ↔ IsOpen after := by
  constructor
  · rintro ⟨earlier, stretch, reads, noStop, noBreak⟩
    have closed : ';' ∉ "PRAGMA".toList ++ stretch := by
      rw [List.mem_append, not_or]
      exact ⟨by decide, noStop⟩
    rcases List.append_eq_append_iff.1 reads with ⟨further, -, behind⟩ | ⟨further, -, inside⟩
    · rcases further with _ | ⟨c, further⟩
      · rw [List.nil_append] at behind
        rw [← behind] at closed
        exact absurd List.mem_cons_self closed
      · obtain ⟨-, rfl⟩ := List.cons.inj behind
        exact ⟨further, stretch, rfl, noStop, noBreak⟩
    · rw [inside] at closed
      exact absurd (by simp) closed
  · rintro ⟨earlier, stretch, rfl, noStop, noBreak⟩
    exact ⟨before ++ ';' :: earlier, stretch, by simp, noStop, noBreak⟩

theorem IsOpen.append {text : List Char} (isOpen : IsOpen text) (before : List Char) :
    IsOpen (before ++ text) := by
  obtain ⟨earlier, stretch, rfl, noStop, noBreak⟩ := isOpen
  exact ⟨before ++ earlier, stretch, by simp, noStop, noBreak⟩

namespace IsPragma

variable {pragma other rest behind : List Char}

theorem append_inj (isPragma : IsPragma pragma) (isOther : IsPragma other)
    (same : pragma ++ rest = other ++ behind) : pragma = other ∧ rest = behind := by
  have read : Builtin.pragma (pragma ++ rest) = some (pragma, rest) :=
    pragma_eq_some_iff.2 ⟨isPragma, rfl⟩
  have again : Builtin.pragma (pragma ++ rest) = some (other, behind) :=
    pragma_eq_some_iff.2 ⟨isOther, same⟩
  simpa using read.symm.trans again

/-- Behind a pragma, none before it is open. -/
theorem isOpen_append_iff (isPragma : IsPragma pragma) {before after : List Char} :
    IsOpen (before ++ (pragma ++ after)) ↔ IsOpen after := by
  obtain ⟨stretch, -, -, rfl⟩ := isPragma
  have split : before ++ ("PRAGMA".toList ++ (stretch ++ [';']) ++ after) =
      (before ++ ("PRAGMA".toList ++ stretch)) ++ ';' :: after := by simp
  rw [split, isOpen_append_semicolon]

/-- A pragma that begins inside another finds that one open: the keyword has no part in common with
itself. -/
theorem isOpen_of_inside {passed remaining : List Char} (isPragma : IsPragma (passed ++ remaining))
    (begun : passed ≠ []) (unfinished : remaining ≠ []) (isOther : IsPragma other)
    (same : remaining ++ rest = other ++ behind) : IsOpen passed := by
  obtain ⟨stretch, noStop, noBreak, split⟩ := isPragma
  rcases List.append_eq_append_iff.1 split with ⟨ahead, keyword, rfl⟩ | ⟨read, rfl, isRest⟩
  · -- The keyword has not been read as a whole, and goes on with another letter than its first.
    obtain ⟨_, -, -, rfl⟩ := isOther
    rcases passed with _ | ⟨c, passed⟩
    · exact absurd rfl begun
    rcases ahead with _ | ⟨d, ahead⟩
    · exact ⟨[], [], by simpa using keyword.symm, List.not_mem_nil, List.not_mem_nil⟩
    · have inKeyword : d ∈ "RAGMA".toList := by
        obtain ⟨-, same⟩ := List.cons.inj (show 'P' :: "RAGMA".toList = _ from keyword)
        rw [same]
        simp
      obtain rfl : d = 'P' := (List.cons.inj same).1
      exact absurd inKeyword (by decide)
  · obtain ⟨more, rfl⟩ : read <+: stretch := by
      refine (List.prefix_concat_iff.1 ⟨remaining, isRest.symm⟩).resolve_left fun whole => ?_
      rw [whole] at isRest
      exact unfinished (List.self_eq_append_right.1 isRest)
    exact ⟨[], read, rfl, fun inside => noStop (List.mem_append_left _ inside),
      fun inside => noBreak (List.mem_append_left _ inside)⟩

end IsPragma

/-! ### The walk of the first rule -/

theorem pragmaEditor_eq_none_iff {before : Option Char} {text : List Char} :
    pragmaEditor before text = none ↔ ∀ pragma rest, IsPragma pragma → text ≠ pragma ++ rest := by
  rw [pragmaEditor, Option.map_eq_none_iff, Option.eq_none_iff_forall_not_mem, Prod.forall]
  simp only [Option.mem_def, pragma_eq_some_iff, not_and, ne_eq]

theorem pragmaEditor_eq_some_iff {before : Option Char} {text : List Char} {edit : Edit} :
    pragmaEditor before text = some edit ↔
      ∃ pragma rest, IsPragma pragma ∧ text = pragma ++ rest ∧ edit = ⟨pragma, [], []⟩ := by
  simp only [pragmaEditor, Option.map_eq_some_iff, Prod.exists, pragma_eq_some_iff, and_assoc,
    eq_comm (b := edit)]

/-- Behind a gap without a pragma, the first is the one that stands there, and every other stands
behind it. -/
theorem standsBehind_append_iff {first gap rest before pragma : List Char} {start : Option Char}
    (isFirst : IsPragma first)
    (skipped : Along (fun before text => pragmaEditor before text = none) start gap
      (first ++ rest)) :
    StandsBehind (gap ++ (first ++ rest)) before pragma ↔ (before = gap ∧ pragma = first) ∨
      ∃ further, before = gap ++ (first ++ further) ∧ StandsBehind rest further pragma := by
  constructor
  · rintro ⟨isPragma, ⟨after, reads⟩, outside⟩
    rcases List.append_eq_append_iff.1 reads with ⟨more, rfl, atFirst⟩ | ⟨more, rfl, early⟩
    · rcases List.append_eq_append_iff.1 atFirst with
        ⟨further, rfl, atRest⟩ | ⟨remaining, rfl, inside⟩
      · refine .inr ⟨further, rfl, isPragma, ⟨after, atRest⟩, fun isOpen => outside ?_⟩
        exact isFirst.isOpen_append_iff.2 isOpen
      · by_cases begun : more = []
        · subst begun
          obtain ⟨rfl, -⟩ := isPragma.append_inj isFirst inside
          exact .inl ⟨List.append_nil gap, rfl⟩
        · by_cases unfinished : remaining = []
          · subst unfinished
            exact .inr ⟨[], by simp, isPragma, ⟨after, inside.symm⟩, not_isOpen_nil⟩
          · have isOpen := isFirst.isOpen_of_inside begun unfinished isPragma inside.symm
            exact absurd (isOpen.append gap) outside
    · by_cases begun : more = []
      · subst begun
        obtain ⟨rfl, -⟩ := isPragma.append_inj isFirst early
        exact .inl ⟨(List.append_nil before).symm, rfl⟩
      · have nothing := skipped before more rfl begun
        exact absurd early.symm (pragmaEditor_eq_none_iff.1 nothing pragma after isPragma)
  · rintro (⟨rfl, rfl⟩ | ⟨further, rfl, isPragma, ⟨after, rfl⟩, outside⟩)
    · refine ⟨isFirst, ⟨rest, rfl⟩, ?_⟩
      rintro ⟨earlier, stretch, rfl, noStop, noBreak⟩
      have nothing := skipped earlier ("PRAGMA".toList ++ stretch) rfl (by simp)
      obtain ⟨inside, noStopInside, noBreakInside, rfl⟩ := isFirst
      -- The keyword in the gap would be closed by the semicolon of the pragma behind it.
      refine pragmaEditor_eq_none_iff.1 nothing
        ("PRAGMA".toList ++ ((stretch ++ ("PRAGMA".toList ++ inside)) ++ [';'])) rest
        ⟨_, ?_, ?_, rfl⟩ (by simp)
      · simp only [List.mem_append, not_or]
        exact ⟨noStop, by decide, noStopInside⟩
      · simp only [List.mem_append, not_or]
        exact ⟨noBreak, by decide, noBreakInside⟩
    · refine ⟨isPragma, ⟨after, by simp⟩, fun isOpen => outside ?_⟩
      exact isFirst.isOpen_append_iff.1 isOpen

/-- **The pragmas that the walk removes** are those that stand where none is open. -/
theorem mem_replacedFrom_iff {start : Option Char} {text last : List Char}
    {cuts : List (List Char × Edit)} (walk : Cuts pragmaEditor start text cuts last)
    (replaced : Replaced) : ∀ passed,
      replaced ∈ replacedFrom passed (cuts.map fun (gap, edit) => (gap, edit.taken, edit.put)) ↔
        replaced.new = [] ∧ ∃ before, replaced.before = passed ++ before ∧
          StandsBehind text before replaced.old := by
  induction walk with
  | last nothing =>
    refine fun passed => iff_of_false List.not_mem_nil ?_
    rintro ⟨-, before, -, isPragma, ⟨after, reads⟩, -⟩
    exact pragmaEditor_eq_none_iff.1 (nothing before _ reads) _ after isPragma rfl
  | @cut _ gap rest _ edit _ skipped made _ ih =>
    intro passed
    obtain ⟨pragma, behind, isPragma, -, rfl⟩ := pragmaEditor_eq_some_iff.1 made
    simp only [Edit.taken, Edit.put, List.append_nil] at skipped ih
    simp only [List.map_cons, replacedFrom, List.mem_cons, Edit.taken, Edit.put, List.append_nil,
      ih, standsBehind_append_iff isPragma skipped]
    obtain ⟨before, old, new⟩ := replaced
    constructor
    · rintro (same | ⟨rfl, between, rfl, stands⟩)
      · obtain ⟨rfl, rfl, rfl⟩ := Replaced.mk.inj same
        exact ⟨rfl, gap, rfl, .inl ⟨rfl, rfl⟩⟩
      · exact ⟨rfl, gap ++ (pragma ++ between), by simp, .inr ⟨between, rfl, stands⟩⟩
    · rintro ⟨rfl, between, rfl, ⟨rfl, rfl⟩ | ⟨further, rfl, stands⟩⟩
      · exact .inl rfl
      · exact .inr ⟨rfl, further, by simp, stands⟩

/-- **What the first rule removes**: in every text, just the pragmas that stand where none is open;
it puts nothing in their place. So it removes nothing but statements exactly if each of these is one
that begins a statement, its keyword a word of its own; and it leaves a text as it is exactly if
the keyword stands on no line with a semicolon behind it. -/
theorem stripPragma_removes (text : List Char) :
    (∀ replaced, replaced ∈ stripPragma.replaced text ↔
        replaced.new = [] ∧ StandsBehind text replaced.before replaced.old) ∧
      (RemovesStatements text ↔
        ∀ before pragma, StandsBehind text before pragma → IsStatement before pragma) ∧
      ((stripPragma.apply text).out = text ↔ ¬ HasPragma text) := by
  have removed (replaced : Replaced) : replaced ∈ stripPragma.replaced text ↔
      replaced.new = [] ∧ StandsBehind text replaced.before replaced.old := by
    obtain ⟨cuts, walk, same, -⟩ := stripPragma_editsBy.cuts text
    have asCuts := mem_replacedFrom_iff walk replaced []
    rw [← same] at asCuts
    simpa [Rule.replaced, Pattern.occurrences] using asCuts
  refine ⟨removed, ⟨fun statements before pragma stands => ?_, fun statements replaced member => ?_⟩,
    fun same present => ?_, fun absent => (isIdle_stripPragma absent).1⟩
  · exact statements ⟨before, pragma, []⟩ ((removed _).2 ⟨rfl, stands⟩)
  · exact statements _ _ ((removed replaced).1 member).2
  · have fewer := (stripPragma_changes present).1
    rw [same] at fewer
    exact absurd fewer (lt_irrefl _)

/-- No statement begins behind a character that is neither a semicolon nor white space. -/
theorem not_beginsStatement {before : List Char} {c : Char} (isLast : before.getLast? = some c)
    (notBlank : isBlank c = false) (other : c ≠ ';') : ¬ BeginsStatement before := by
  rintro ⟨earlier, blanks, rfl, all, edge⟩
  have noBlanks : blanks = [] := by
    refine Classical.byContradiction fun some => ?_
    rw [List.getLast?_append_of_ne_nil _ some] at isLast
    exact Bool.false_ne_true (notBlank.symm.trans (all c (List.mem_of_getLast? isLast)))
  rw [noBlanks, List.append_nil] at isLast
  rcases edge with rfl | semicolon | lineBreak
  · simp at isLast
  · exact other (Option.some.inj (isLast.symm.trans semicolon))
  · obtain rfl := Option.some.inj (isLast.symm.trans lineBreak)
    exact absurd notBlank (by decide)

/-- At the end of a longer word, in a literal, the keyword is removed too, with all that comes up to
the next semicolon. -/
theorem stripPragma_removes_in_word :
    stripPragma.replaced "SELECT 'my_PRAGMA x;';".toList =
        [⟨"SELECT 'my_".toList, "PRAGMA x;".toList, []⟩] ∧
      ¬ RemovesStatements "SELECT 'my_PRAGMA x;';".toList ∧
      (stripPragma.apply "SELECT 'my_PRAGMA x;';".toList).out = "SELECT 'my_';".toList := by
  have removed : stripPragma.replaced "SELECT 'my_PRAGMA x;';".toList =
      [⟨"SELECT 'my_".toList, "PRAGMA x;".toList, []⟩] := by
    decide +kernel
  refine ⟨removed, fun statements => ?_, by decide +kernel⟩
  obtain ⟨begins, -⟩ := statements _ (removed ▸ List.mem_singleton_self _)
  exact not_beginsStatement (c := '_') rfl (by decide) (by decide) begins

end Builtin

end DumpConverter
