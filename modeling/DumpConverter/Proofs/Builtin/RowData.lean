/-
**Data of rows.**

The rule for the head of an `INSERT` statement gives it back, but it keeps no other rule away. The
name of the table and the literal are converted like scripts of their own: no phrase and no head of
a table definition reaches into them or out of them.

* `toList_convert_row`: a statement without the keyword of a pragma is converted part by part;
* `convert_row_iff`: a statement is given back exactly if it is without that keyword, and the name
  of the table and the literal are.
-/

import DumpConverter.Proofs.Builtin.Hits
import DumpConverter.Proofs.Builtin.LinePragma
import DumpConverter.Proofs.Rule.Junction

namespace DumpConverter.Builtin

open Matcher Unicode

/-! ### Heads in front of a quotation mark -/

section Heads

variable {c : Char} {rest text : List Char}

/-- A lead takes no notice of what begins with none of its characters. -/
theorem disregards_lead (notBlank : isBlank c = false) (noLetter : c ∉ "CREATETABLE".toList)
    (noVariant : "IFNOTEXISTS".toList.all (fun l => !(letterSet l).mem c) = true) :
    lead.Disregards (c :: rest) text := by
  have blanks : (Reader.run .blank).Disregards (c :: rest) text := Reader.disregards_run notBlank
  have splits := Reader.splits_run .blank
  obtain ⟨letters, variants⟩ := mem_letters_eq_false noLetter noVariant
  simp only [List.forall_mem_append, List.forall_mem_singleton] at letters variants
  obtain ⟨ifs, nots, exists_, last⟩ := variants
  have guarded : guard.Disregards (c :: rest) text := by
    refine .andThen (.spelled (.andThen blanks splits (.spelled (.andThen blanks splits
      (.spelled (Reader.disregards_one last) exists_)) nots)) ifs) ?_ blanks
    refine Reader.splits_spelled _ (Reader.splits_andThen splits (Reader.splits_spelled _ ?_))
    exact Reader.splits_andThen splits (Reader.splits_spelled _ (Reader.splits_one _))
  exact .spelled (.andThen blanks splits (.spelled (.andThen blanks splits guarded.optional)
    letters.2)) letters.1

theorem disregards_word (noWord : isWordChar c = false) : word.Disregards (c :: rest) text := by
  intro remaining _
  obtain ⟨front, back⟩ := Reader.span_append noWord remaining rest
  rw [word, word, front, back]
  split <;> rfl

/-- A name between delimiters takes no notice of what does not close it. -/
theorem disregards_quoted {opening closing : Char} (outside : closing ∉ rest) :
    (quoted opening closing).Disregards rest text := by
  intro remaining _
  cases found : quoted opening closing remaining with
  | some split =>
    obtain ⟨name, left⟩ := split
    obtain ⟨inner, nonempty, within, rfl, rfl⟩ := quoted_eq_some_iff.1 found
    exact quoted_eq_some_iff.2 ⟨inner, nonempty, within, by simp, rfl⟩
  | none =>
    refine Option.eq_none_iff_forall_not_mem.2 ?_
    rintro ⟨name, left⟩ read
    obtain ⟨inner, nonempty, within, reads, -⟩ := quoted_eq_some_iff.1 read
    rcases List.append_eq_append_iff.1 (reads.trans (List.cons_append ..).symm) with
      ⟨beyond, -, rfl⟩ | ⟨front, rfl, further⟩
    · exact outside (by simp)
    · cases front with
      | nil =>
        obtain rfl : closing :: left = rest := further
        exact outside List.mem_cons_self
      | cons d front =>
        obtain ⟨rfl, -⟩ := List.cons.inj further
        have before : quoted opening closing (opening :: (inner ++ closing :: front)) =
            some (opening :: (inner ++ [closing]), front) :=
          quoted_eq_some_iff.2 ⟨inner, nonempty, within, rfl, rfl⟩
        simp [before] at found

/-- Between quotation marks, a name takes two of them. -/
theorem quoted_eq_none_of_count (few : text.count '"' ≤ 1) : quoted '"' '"' text = none := by
  refine Option.eq_none_iff_forall_not_mem.2 ?_
  rintro ⟨name, left⟩ read
  obtain ⟨inner, -, -, rfl, -⟩ := quoted_eq_some_iff.1 read
  simp only [List.count_cons_self, List.count_append] at few
  omega

/-- The name of a table takes no notice of what neither goes on with a word nor closes a name. -/
theorem disregards_tableName (noWord : isWordChar c = false) (noBracket : ']' ∉ c :: rest)
    (noBacktick : '\x60' ∉ c :: rest) (few : (c :: rest).count '"' ≤ 1) (noMark : '"' ∉ text) :
    tableName.Disregards (c :: rest) text := by
  have marks : (quoted '"' '"').Disregards (c :: rest) text := by
    intro remaining ends
    have absent : remaining.count '"' = 0 :=
      List.count_eq_zero.2 fun member => noMark (ends.subset member)
    rw [quoted_eq_none_of_count (by rw [List.count_append]; omega),
      quoted_eq_none_of_count (by omega)]
    rfl
  exact .either (disregards_word noWord)
    (.either marks (.either (disregards_quoted noBracket) (disregards_quoted noBacktick)))

/-- The guard rule takes no notice of what neither goes on with a head nor closes a name. -/
theorem disregards_headEditor (leads : lead.Disregards rest text)
    (names : tableName.Disregards rest text) : headEditor.Disregards rest text := by
  intro before remaining ends
  rw [headEditor, rewriteHeads, rewriteHeads, leads remaining ends]
  cases read : lead remaining with
  | none => rfl
  | some split =>
    obtain ⟨front, behind⟩ := split
    have further : behind <:+ text :=
      (List.suffix_append front behind).trans (splits_lead _ _ _ read ▸ ends)
    simp only [Option.map_some, Option.bind_some, names behind further, Option.map_map]
    rfl

/-- No head begins in a stretch without its first letter. -/
theorem along_headEditor {stretch : List Char} (noFirst : 'C' ∉ stretch) (before : Option Char) :
    Along (fun before text => headEditor before text = none) before stretch rest := by
  intro passed remaining reads nonempty
  refine headEditor_eq_none_of_lead (Option.eq_none_iff_forall_not_mem.2 ?_)
  rintro ⟨front, behind⟩ read
  obtain ⟨c, remaining, rfl⟩ := List.exists_cons_of_ne_nil nonempty
  obtain rfl : c = 'C' := Option.some.inj (head_of_lead read).1
  exact noFirst (by simp [reads])

/-- A lead takes white space. -/
theorem lead_eq_none_of_notBlank (plain : ∀ c ∈ text, isBlank c = false) : lead text = none := by
  refine Option.eq_none_iff_forall_not_mem.2 ?_
  rintro ⟨front, behind⟩ read
  obtain ⟨c, isLast, blank⟩ := ends_lead _ _ _ read
  obtain rfl := splits_lead _ _ _ read
  have member := List.mem_append_left behind (List.mem_of_getLast? isLast)
  exact Bool.false_ne_true ((plain c member).symm.trans blank)

/-- Behind the white space that ends a text, a lead does not go on with another word. -/
theorem lead_append_eq_none (plain : ∀ c ∈ text, isBlank c = false) {d : Char} (notT : d ≠ 'T')
    (notBlank : isBlank d = false) : lead (text ++ ' ' :: d :: rest) = none := by
  refine Option.eq_none_iff_forall_not_mem.2 ?_
  rintro ⟨front, behind⟩ read
  obtain ⟨further, _, reads, tail, -⟩ := spelled_single_eq_some_iff.1
    (show Reader.spelled ("CREATE".toList.map CharSet.single) _ _ = some _ from read)
  obtain ⟨blanks, middle, _, run, table, -⟩ := Reader.andThen_eq_some_iff.1 tail
  obtain ⟨nonempty, allBlank, -⟩ := Reader.run_eq_some_iff.1 run
  obtain ⟨after, _, rfl, -⟩ := spelled_single_eq_some_iff.1
    (show Reader.spelled ("TABLE".toList.map CharSet.single) _ _ = some _ from table)
  have blank : ∀ c ∈ blanks, isBlank c = true := fun c member =>
    List.all_eq_true.1 (allBlank ▸ List.all_takeWhile) c member
  obtain rfl := Reader.splits_run _ _ _ _ run
  obtain ⟨e, blanks, rfl⟩ := List.exists_cons_of_ne_nil nonempty
  obtain ⟨first, others⟩ := List.forall_mem_cons.1 blank
  -- Both sides begin with what is not blank, up to the first blank.
  have behind := congrArg (List.dropWhile fun c => !isBlank c) reads
  have noBlank : ∀ c ∈ "CREATE".toList, (!isBlank c) = true := List.all_eq_true.1 (by decide)
  rw [List.dropWhile_append_of_pos (by simpa using plain),
    List.dropWhile_append_of_pos noBlank, List.cons_append,
    List.dropWhile_cons_of_neg (by decide), List.dropWhile_cons_of_neg (by simp [first])] at behind
  obtain ⟨-, same⟩ := List.cons.inj behind
  cases blanks with
  | nil => exact notT (List.cons.inj same).1
  | cons f blanks =>
    obtain rfl : d = f := (List.cons.inj same).1
    exact Bool.false_ne_true (notBlank.symm.trans (others d List.mem_cons_self))

end Heads

/-! ### Statements -/

/-- What stands in front of the name of the table. -/
def insertInto : List Char :=
  "INSERT INTO ".toList

/-- What stands between the name of the table and the literal. -/
def beforeLiteral (quote : Char) : List Char :=
  " VALUES(".toList ++ [quote]

/-- What stands behind the literal. -/
def behindLiteral (quote : Char) : List Char :=
  quote :: ");".toList

/-- What stands around the parts. -/
def fixedParts (quote : Char) : List (List Char) :=
  [insertInto, beforeLiteral quote, behindLiteral quote]

theorem insertInto_mem (quote : Char) : insertInto ∈ fixedParts quote :=
  .head _

theorem beforeLiteral_mem (quote : Char) : beforeLiteral quote ∈ fixedParts quote :=
  .tail _ (.head _)

theorem behindLiteral_mem (quote : Char) : behindLiteral quote ∈ fixedParts quote :=
  .tail _ (.tail _ (.head _))

/-- A statement that inserts a row with one literal. -/
def written (table : List Char) (quote : Char) (literal : List Char) : List Char :=
  insertInto ++ (table ++ (beforeLiteral quote ++ (literal ++ behindLiteral quote)))

/-- The two quotation marks. -/
def quotes : List Char :=
  ['\'', '"']

theorem forall_mem_quotes {holds : Char → Prop} (single : holds '\'') (double : holds '"') :
    ∀ quote ∈ quotes, holds quote :=
  List.forall_mem_cons.2 ⟨single, List.forall_mem_singleton.2 double⟩

/-- Whether an editor treats the parts of a statement like texts of their own: it has no edit in
what is fixed, and in the parts it takes no notice of what comes behind them. -/
structure KeepsApart (editor : Editor) (quote : Char) : Prop where
  sees : editor.SeesWords
  atEnd : ∀ before, editor before [] = none
  skips : ∀ fixed ∈ fixedParts quote, ∀ before rest,
    Along (fun before text => editor before text = none) before fixed rest
  table : ∀ table, (∀ c ∈ table, isBlank c = false) → ∀ rest,
    editor.Disregards (beforeLiteral quote ++ rest) table
  literal : ∀ literal, '"' ∉ literal → editor.Disregards (behindLiteral quote) literal

section Statements

variable {quote : Char} {table literal newTable newLiteral : List Char}

/-- **Passes over the parts make a pass over the statement.** -/
theorem KeepsApart.pass {editor : Editor} (apart : KeepsApart editor quote)
    (isQuote : quote ∈ quotes) (plainTable : ∀ c ∈ table, isBlank c = false)
    (plainLiteral : '"' ∉ literal) {tableEdits literalEdits : List Edit}
    (tablePass : Pass editor none table newTable tableEdits)
    (literalPass : Pass editor none literal newLiteral literalEdits) :
    Pass editor none (written table quote literal) (written newTable quote newLiteral)
      (tableEdits ++ literalEdits) := by
  have noWord : ∀ quote ∈ quotes, isWordAt none = isWordAt (some quote) :=
    forall_mem_quotes (by decide) (by decide)
  have isBefore (before : Option Char) : lastOf before (beforeLiteral quote) = some quote :=
    (lastOf_append before _ [quote]).trans ((lastOf_cons _ quote []).trans (lastOf_nil _))
  have last : Pass editor (lastOf (some quote) literal) (behindLiteral quote)
      (behindLiteral quote) [] := by
    rw [← List.append_nil (behindLiteral quote)]
    exact .of_along (apart.skips _ (behindLiteral_mem quote) _ [])
      (.done (apart.atEnd _))
  have behindTable (before : Option Char) : Pass editor before
      (beforeLiteral quote ++ (literal ++ behindLiteral quote))
      (beforeLiteral quote ++ (newLiteral ++ behindLiteral quote)) literalEdits := by
    refine .of_along (apart.skips _ (beforeLiteral_mem quote) before _) ?_
    rw [isBefore, ← List.append_nil literalEdits]
    exact .append (apart.literal literal plainLiteral)
      (literalPass.of_isWordAt apart.sees (noWord quote isQuote)) last
  refine .of_along (apart.skips _ (insertInto_mem quote) none _) ?_
  exact .append (apart.table table plainTable _) (tablePass.of_isWordAt apart.sees (by decide))
    (behindTable _)

theorem isWordAt_head_fixed : ∀ quote ∈ quotes, isWordAt (beforeLiteral quote).head? = false ∧
    isWordAt (behindLiteral quote).head? = false :=
  forall_mem_quotes (by decide) (by decide)

theorem keepsOff_fixed : ∀ quote ∈ quotes, ∀ row ∈ phraseRules, ∀ fixed ∈ fixedParts quote,
    row.phrase.KeepsOff false fixed :=
  forall_mem_quotes (by decide +kernel) (by decide +kernel)

/-- No phrase reaches into a part or out of one. -/
theorem keepsApart_editor {row : PhraseRule} (isRow : row ∈ phraseRules)
    (isQuote : quote ∈ quotes) : KeepsApart row.editor quote where
  sees := Phrase.seesWords_editor
  atEnd before := Phrase.editor_eq_none_iff.2 (row.phrase.not_stands_nil before)
  skips fixed member before _ :=
    Phrase.along_of_keepsOff (keepsOff_fixed quote isQuote row isRow fixed member) before
  table _ _ _ :=
    Phrase.disregards_editor
      (keepsOff_fixed quote isQuote row isRow _ (beforeLiteral_mem quote)).stopsAt
      (isWordAt_head_fixed quote isQuote).1
  literal _ _ := by
    rw [← List.append_nil (behindLiteral quote)]
    refine Phrase.disregards_editor
      (keepsOff_fixed quote isQuote row isRow _ (behindLiteral_mem quote)).stopsAt ?_
    rw [List.append_nil]
    exact (isWordAt_head_fixed quote isQuote).2

theorem not_mem_fixed : ∀ quote ∈ quotes, ∀ fixed ∈ fixedParts quote, 'C' ∉ fixed :=
  forall_mem_quotes (by decide) (by decide)

/-- No head of a table definition reaches into a part or out of one. -/
theorem keepsApart_headEditor (isQuote : quote ∈ quotes) : KeepsApart headEditor quote where
  sees _ _ _ _ := rfl
  atEnd _ := headEditor_eq_none_of_lead rfl
  skips fixed member before _ := along_headEditor (not_mem_fixed quote isQuote fixed member) before
  table table plain rest before remaining ends := by
    have plain : ∀ c ∈ remaining, isBlank c = false := fun c member => plain c (ends.subset member)
    have split : beforeLiteral quote ++ rest =
        ' ' :: 'V' :: ("ALUES(".toList ++ ([quote] ++ rest)) := rfl
    rw [split, headEditor_eq_none_of_lead (lead_append_eq_none plain (by decide) (by decide)),
      headEditor_eq_none_of_lead (lead_eq_none_of_notBlank plain)]
  literal literal noMark := by
    obtain rfl | rfl : quote = '\'' ∨ quote = '"' := by simpa [quotes] using isQuote
    all_goals
      exact disregards_headEditor (disregards_lead (by decide) (by decide) (by decide))
        (disregards_tableName (by decide) (by decide) (by decide) (by decide) noMark)

/-! ### Rules -/

/-- **A later rule works on the parts of a statement as on texts of their own.** -/
theorem out_apply_written (isQuote : quote ∈ quotes) (plainTable : ∀ c ∈ table, isBlank c = false)
    (plainLiteral : '"' ∉ literal) : ∀ rule ∈ laterRules,
      (rule.apply (written table quote literal)).out =
        written (rule.apply table).out quote (rule.apply literal).out := by
  have ofPasses {rule : Rule} {editor : Editor} (edits : rule.EditsBy editor)
      (apart : KeepsApart editor quote) : (rule.apply (written table quote literal)).out =
        written (rule.apply table).out quote (rule.apply literal).out := by
    obtain ⟨_, tablePass, -, -⟩ := edits.pass table
    obtain ⟨_, literalPass, -, -⟩ := edits.pass literal
    have together := apart.pass isQuote plainTable plainLiteral tablePass literalPass
    obtain ⟨_, pass, -, -⟩ := edits.pass (written table quote literal)
    exact (pass.unique together).1
  intro rule isLater
  rcases cases_of_mem_laterRules isLater with ⟨row, isRow, rfl⟩ | keeps | rfl
  · exact ofPasses row.editsBy (keepsApart_editor isRow isQuote)
  · simp only [Rule.out_apply_of_render_eq keeps]
  · exact ofPasses createTableGuard_editsBy (keepsApart_headEditor isQuote)

/-- What a later rule puts into a text is the new text of a phrase that stands there, or a lead in
the place of white space. -/
theorem mem_out_apply {rule : Rule} (isLater : rule ∈ laterRules) {text : List Char} {c : Char}
    (member : c ∈ (rule.apply text).out) : c ∈ text ∨
      (∃ row ∈ phraseRules, row.phrase.letters ⊆ text ∧ c ∈ row.new.toList) ∨
      c ∈ newLead ∧ ∃ d ∈ text, isBlank d = true := by
  rcases cases_of_mem_laterRules isLater with ⟨row, isRow, rfl⟩ | keeps | rfl
  · obtain ⟨made, pass, -, -⟩ := row.editsBy.pass text
    refine (pass.mem_out member).imp_right ?_
    rintro ⟨edit, isMade, new⟩
    obtain ⟨passed, rest, rfl, found⟩ := pass.exists_of_mem_edits edit isMade
    obtain ⟨-, rfl⟩ := Phrase.editor_eq_some_iff.1 found
    exact .inl ⟨row, isRow, fun d inside => by simp [Edit.taken, inside], new⟩
  · rw [Rule.out_apply_of_render_eq keeps] at member
    exact .inl member
  · obtain ⟨made, pass, -, -⟩ := createTableGuard_editsBy.pass text
    refine (pass.mem_out member).imp_right ?_
    rintro ⟨edit, isMade, new⟩
    obtain ⟨passed, rest, rfl, found⟩ := pass.exists_of_mem_edits edit isMade
    obtain ⟨front, _, _, _, read, -, rfl⟩ := headEditor_eq_some_iff.1 found
    obtain ⟨d, isLast, blank⟩ := ends_lead _ _ _ read
    exact .inr ⟨new, d, by simp [Edit.taken, List.mem_of_getLast? isLast], blank⟩

/-- A name without white space stays without it. -/
theorem plainTable_apply : ∀ rule ∈ laterRules, ∀ table, (∀ c ∈ table, isBlank c = false) →
    ∀ c ∈ (rule.apply table).out, isBlank c = false := by
  have rows : ∀ row ∈ phraseRules, row.phrase.letters.any isBlank = true ∨
      row.new.toList.all (fun c => !isBlank c) = true := by
    decide +kernel
  intro rule isLater table plain c member
  rcases mem_out_apply isLater member with
    inText | ⟨row, isRow, within, new⟩ | ⟨-, d, inText, blank⟩
  · exact plain c inText
  · rcases rows row isRow with blanks | without
    · obtain ⟨l, isLetter, blank⟩ := List.any_eq_true.1 blanks
      exact absurd (plain l (within isLetter)) (by simp [blank])
    · simpa using List.all_eq_true.1 without c new
  · exact absurd (plain d inText) (by simp [blank])

/-- A literal without quotation marks stays without them. -/
theorem plainLiteral_apply : ∀ rule ∈ laterRules, ∀ literal, '"' ∉ literal →
    '"' ∉ (rule.apply literal).out := by
  have rows : ∀ row ∈ phraseRules, '"' ∉ row.new.toList := by
    decide
  intro rule isLater literal plain member
  rcases mem_out_apply isLater member with inText | ⟨row, isRow, -, new⟩ | ⟨new, -⟩
  · exact plain inText
  · exact rows row isRow new
  · exact absurd new (by decide)

/-- **A run works on the parts of a statement as on texts of their own.** -/
theorem runRules_written (isQuote : quote ∈ quotes) {rules : List Rule}
    (later : ∀ rule ∈ rules, rule ∈ laterRules) (plainTable : ∀ c ∈ table, isBlank c = false)
    (plainLiteral : '"' ∉ literal) : (runRules rules (written table quote literal)).1 =
      written (runRules rules table).1 quote (runRules rules literal).1 := by
  induction rules generalizing table literal with
  | nil => rfl
  | cons rule rules ih =>
    obtain ⟨here, others⟩ := List.forall_mem_cons.1 later
    simp only [runRules_cons, out_apply_written isQuote plainTable plainLiteral rule here]
    exact ih others (plainTable_apply rule here table plainTable)
      (plainLiteral_apply rule here literal plainLiteral)

end Statements

/-! ### Keywords of pragmas -/

theorem infix_of_hasPragma {text : List Char} (present : HasPragma text) :
    "PRAGMA".toList <:+: text := by
  obtain ⟨before, stretch, after, rfl, -⟩ := present
  exact ⟨before, _, List.append_assoc _ _ _⟩

/-- On a single line that ends in a semicolon, the keyword makes a pragma. -/
theorem hasPragma_iff_keyword {text : List Char} (noBreak : '\n' ∉ text)
    (ends : text.getLast? = some ';') : HasPragma text ↔ "PRAGMA".toList <:+: text := by
  refine ⟨infix_of_hasPragma, ?_⟩
  rintro ⟨before, behind, rfl⟩
  have lastLetter : "PRAGMA".toList.getLast? = some 'A' := by decide
  rw [List.getLast?_append] at ends
  cases last : behind.getLast? with
  | none =>
    rw [last, Option.none_or, List.getLast?_append, lastLetter, Option.some_or] at ends
    exact absurd ends (by decide)
  | some c =>
    obtain rfl : c = ';' := by simpa [last] using ends
    have split := List.dropLast_append_getLast? ';' last
    refine ⟨before, behind.dropLast, [], ?_, fun inside => ?_⟩
    · rw [split, List.append_assoc]
    · exact noBreak (List.mem_append_right _ (List.mem_of_mem_dropLast inside))

section Written

variable {quote : Char} {table literal : List Char}

/-- A statement has a pragma if its keyword stands in one of the parts. -/
theorem hasPragma_written_iff (isQuote : quote ∈ quotes) (tableLine : '\n' ∉ table)
    (literalLine : '\n' ∉ literal) : HasPragma (written table quote literal) ↔
      "PRAGMA".toList <:+: table ∨ "PRAGMA".toList <:+: literal := by
  have noBreak : '\n' ∉ written table quote literal := by
    have outside : ∀ quote ∈ quotes, '\n' ∉ insertInto ∧ '\n' ∉ beforeLiteral quote ∧
        '\n' ∉ behindLiteral quote :=
      forall_mem_quotes (by decide) (by decide)
    obtain ⟨start, middle, ending⟩ := outside quote isQuote
    simp only [written, List.mem_append, not_or]
    exact ⟨start, tableLine, middle, literalLine, ending⟩
  have ends : (written table quote literal).getLast? = some ';' := by
    have last : (behindLiteral quote).getLast? = some ';' := rfl
    simp only [written, List.getLast?_append, last, Option.some_or]
  have split : written table quote literal = "INSERT INTO".toList ++ ' ' :: (table ++
      ' ' :: ("VALUES(".toList ++ quote :: (literal ++ quote :: ");".toList))) := rfl
  have noBlank : ' ' ∉ "PRAGMA".toList := by decide
  have noQuote : ∀ quote ∈ quotes, quote ∉ "PRAGMA".toList :=
    forall_mem_quotes (by decide) (by decide)
  have noFixed : ¬ "PRAGMA".toList <:+: "INSERT INTO".toList ∧
      ¬ "PRAGMA".toList <:+: "VALUES(".toList ∧ ¬ "PRAGMA".toList <:+: ");".toList := by
    decide
  rw [hasPragma_iff_keyword noBreak ends, split, infix_append_cons_iff noBlank,
    infix_append_cons_iff noBlank, infix_append_cons_iff (noQuote quote isQuote),
    infix_append_cons_iff (noQuote quote isQuote)]
  simp only [noFixed, false_or, or_false]

end Written

/-! ### Rows -/

/-- A row with one literal, to be inserted into a table. -/
structure RowInsert where
  table : String
  quote : Char
  literal : String
  isQuote : quote ∈ quotes
  tableWord : ∀ c ∈ table.toList, isWordChar c = true
  literalPlain : '\'' ∉ literal.toList ∧ '"' ∉ literal.toList ∧ '\n' ∉ literal.toList

namespace RowInsert

variable (row : RowInsert)

/-- The statement that inserts the row. -/
def sql : String :=
  "INSERT INTO " ++ row.table ++ " VALUES(" ++ String.singleton row.quote ++ row.literal ++
    String.singleton row.quote ++ ");"

theorem toList_sql : row.sql.toList = written row.table.toList row.quote row.literal.toList := by
  have parts (start table middle quote literal again ending : String) :
      (start ++ table ++ middle ++ quote ++ literal ++ again ++ ending).toList =
        start.toList ++ (table.toList ++ ((middle.toList ++ quote.toList) ++
          (literal.toList ++ (again.toList ++ ending.toList)))) := by
    simp only [String.toList_append, List.append_assoc]
  refine (parts ..).trans ?_
  rw [String.toList_singleton]
  rfl

theorem notBlank_table : ∀ c ∈ row.table.toList, isBlank c = false := by
  intro c member
  refine Bool.eq_false_iff.2 fun blank => ?_
  exact Bool.false_ne_true
    ((isWordChar_eq_false_of_isBlank blank).symm.trans (row.tableWord c member))

theorem hasPragma_sql_iff : HasPragma row.sql.toList ↔
    "PRAGMA".toList <:+: row.table.toList ∨ "PRAGMA".toList <:+: row.literal.toList := by
  rw [toList_sql]
  refine hasPragma_written_iff row.isQuote (fun member => ?_) row.literalPlain.2.2
  exact absurd (row.tableWord _ member) (by decide)

end RowInsert

/-- Without a pragma, a script is converted by the later rules. -/
theorem toList_convert_of_not_hasPragma {sql : String} (absent : ¬ HasPragma sql.toList) :
    (convert sql).toList = (runRules laterRules sql.toList).1 := by
  rw [toList_convert, (isIdle_stripPragma absent).1]

/-- A script that is given back has no pragma. -/
theorem not_hasPragma_of_convert_eq {sql : String} (same : convert sql = sql) :
    ¬ HasPragma sql.toList := by
  refine not_hasPragma_of_runRules_eq (fun _ isLater => isLater) ?_
  rw [← toList_convert, same]

/-- **A statement without the keyword of a pragma is converted part by part**: the name of its table
and its literal become what they are converted to as scripts of their own. -/
theorem toList_convert_row (row : RowInsert) (absent : ¬ HasPragma row.sql.toList) :
    (convert row.sql).toList =
      written (convert row.table).toList row.quote (convert row.literal).toList := by
  obtain ⟨noTable, noLiteral⟩ := not_or.1 (mt row.hasPragma_sql_iff.2 absent)
  rw [toList_convert_of_not_hasPragma absent,
    toList_convert_of_not_hasPragma (mt infix_of_hasPragma noTable),
    toList_convert_of_not_hasPragma (mt infix_of_hasPragma noLiteral), row.toList_sql]
  exact runRules_written row.isQuote (fun _ isLater => isLater) row.notBlank_table
    row.literalPlain.2.1

/-- The parts of a statement can be told from it. -/
theorem written_inj {quote : Char} {table other literal otherLiteral : List Char}
    (plain : ∀ c ∈ table, isBlank c = false) (otherPlain : ∀ c ∈ other, isBlank c = false)
    (same : written table quote literal = written other quote otherLiteral) :
    table = other ∧ literal = otherLiteral := by
  have behind := List.append_cancel_left same
  have upTo (name rest : List Char) (plain : ∀ c ∈ name, isBlank c = false) :
      (name ++ (beforeLiteral quote ++ rest)).takeWhile (fun c => !isBlank c) = name := by
    have stops : (beforeLiteral quote ++ rest).takeWhile (fun c => !isBlank c) = [] :=
      List.takeWhile_cons_of_neg (by decide)
    rw [List.takeWhile_append_of_pos (by simpa using plain), stops, List.append_nil]
  have sameName := congrArg (List.takeWhile fun c => !isBlank c) behind
  rw [upTo table _ plain, upTo other _ otherPlain] at sameName
  subst sameName
  exact ⟨rfl, List.append_cancel_right (List.append_cancel_left (List.append_cancel_left behind))⟩

/-- **A row is preserved exactly if no keyword of a pragma stands in it, and the name of its table
and its literal, as scripts of their own, are given back.** -/
theorem convert_row_iff (row : RowInsert) : convert row.sql = row.sql ↔
    (¬ "PRAGMA".toList <:+: row.table.toList ∧ ¬ "PRAGMA".toList <:+: row.literal.toList) ∧
      convert row.table = row.table ∧ convert row.literal = row.literal := by
  rw [← not_or, ← row.hasPragma_sql_iff]
  constructor
  · intro same
    have absent := not_hasPragma_of_convert_eq same
    refine ⟨absent, ?_⟩
    have parts := toList_convert_row row absent
    rw [same, row.toList_sql] at parts
    have plain : ∀ c ∈ (convert row.table).toList, isBlank c = false := by
      have noTable := (not_or.1 (mt row.hasPragma_sql_iff.2 absent)).1
      rw [toList_convert_of_not_hasPragma (mt infix_of_hasPragma noTable)]
      exact runRules_keeps (fun text => ∀ c ∈ text, isBlank c = false) plainTable_apply
        row.notBlank_table
    obtain ⟨sameTable, sameLiteral⟩ := written_inj row.notBlank_table plain parts
    exact ⟨(String.toList_inj.1 sameTable).symm, (String.toList_inj.1 sameLiteral).symm⟩
  · rintro ⟨absent, sameTable, sameLiteral⟩
    rw [← String.toList_inj, toList_convert_row row absent, sameTable, sameLiteral, row.toList_sql]

/-- A literal that is the name of a type is not, whichever marks it stands between. -/
theorem convert_row_datetime :
    (∃ row : RowInsert, row.sql = "INSERT INTO t VALUES('DATETIME');") ∧
      convert "INSERT INTO t VALUES('DATETIME');" ≠ "INSERT INTO t VALUES('DATETIME');" ∧
      (∃ row : RowInsert, row.sql = "INSERT INTO t VALUES(\"DATETIME\");") ∧
      convert "INSERT INTO t VALUES(\"DATETIME\");" ≠ "INSERT INTO t VALUES(\"DATETIME\");" := by
  have single : convert "INSERT INTO t VALUES('DATETIME');" =
      "INSERT INTO t VALUES('TIMESTAMP');" := by
    rw [← String.toList_inj, toList_convert]
    decide +kernel
  have double : convert "INSERT INTO t VALUES(\"DATETIME\");" =
      "INSERT INTO t VALUES(\"TIMESTAMP\");" := by
    rw [← String.toList_inj, toList_convert]
    decide +kernel
  rw [single, double]
  exact ⟨⟨⟨"t", '\'', "DATETIME", by decide, List.all_eq_true.1 (by decide), by decide⟩, by decide⟩,
    by decide, ⟨⟨"t", '"', "DATETIME", by decide, List.all_eq_true.1 (by decide), by decide⟩,
      by decide⟩, by decide⟩

end DumpConverter.Builtin
