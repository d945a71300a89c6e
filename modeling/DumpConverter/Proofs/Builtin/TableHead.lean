/-
**The head of a table definition.**

What the guard rule reads: the two keywords, a guard if there is one, and a name. In front of the
name everything is written anew.

* `reads_leadNode`: the pattern reads what stands in front of a name and nothing else;
* `createTableGuard_editsBy`: the guard rule puts one guard in front of every name that it reads.
-/

import DumpConverter.Proofs.Builtin.TableName

namespace DumpConverter

open Matcher Unicode

namespace Builtin

/-! ### Heads -/

/-- The sets of letters in any case. -/
def anyCase (letters : String) : List CharSet :=
  letters.toList.map letterSet

/-- Reads a guard and the white space behind it. -/
def guard : Reader :=
  (Reader.spelled (anyCase "IF") ((Reader.run .blank).andThen
    (Reader.spelled (anyCase "NOT") ((Reader.run .blank).andThen
      (Reader.spelled (anyCase "EXIST") (Reader.one (letterSet 'S'))))))).andThen
        (Reader.run .blank)

/-- Reads a guard, from its first letter to its last. -/
def guardWords : Reader :=
  Reader.spelled (anyCase "IF") ((Reader.run .blank).andThen
    (Reader.spelled (anyCase "NOT") ((Reader.run .blank).andThen
      (Reader.spelled (anyCase "EXIST") (Reader.one (letterSet 'S'))))))

theorem guard_eq : guard = guardWords.andThen (Reader.run .blank) :=
  rfl

/-- Reads what stands in front of a name: the keywords and a guard, if there is one. -/
def lead : Reader :=
  Reader.spelled (exactly "CREATE") ((Reader.run .blank).andThen
    (Reader.spelled (exactly "TABLE") ((Reader.run .blank).andThen (Reader.optional guard))))

/-- What the guard rule writes in front of a name. -/
def newLead : List Char :=
  "CREATE TABLE IF NOT EXISTS ".toList

/-- The edits that write something else in front of every name. -/
def rewriteHeads (write : List Char → List Char) : Editor := fun _ text =>
  (lead text).bind fun (front, behind) =>
    (tableName behind).map fun (name, _) => ⟨front, write front, name⟩

/-- The edits of the guard rule: what stands in front of a name is written out with one guard. -/
def headEditor : Editor :=
  rewriteHeads fun _ => newLead

theorem rewriteHeads_eq_some_iff {write : List Char → List Char} {before : Option Char}
    {text : List Char} {edit : Edit} :
    rewriteHeads write before text = some edit ↔ ∃ front behind name rest,
      lead text = some (front, behind) ∧ tableName behind = some (name, rest) ∧
        edit = ⟨front, write front, name⟩ := by
  simp only [rewriteHeads, Option.bind_eq_some_iff, Option.map_eq_some_iff, Prod.exists]
  constructor
  · rintro ⟨front, behind, read, name, rest, named, rfl⟩
    exact ⟨front, behind, name, rest, read, named, rfl⟩
  · rintro ⟨front, behind, name, rest, read, named, rfl⟩
    exact ⟨front, behind, read, name, rest, named, rfl⟩

theorem headEditor_eq_some_iff {before : Option Char} {text : List Char} {edit : Edit} :
    headEditor before text = some edit ↔ ∃ front behind name rest,
      lead text = some (front, behind) ∧ tableName behind = some (name, rest) ∧
        edit = ⟨front, newLead, name⟩ :=
  rewriteHeads_eq_some_iff

theorem headEditor_eq_none_of_lead {before : Option Char} {text : List Char}
    (nothing : lead text = none) : headEditor before text = none := by
  rw [headEditor, rewriteHeads, nothing]
  rfl

/-! ### The pattern reads heads -/

section Heads

variable {next : Continuation}

/-- What follows a lead: the name of the table, with marks around it. -/
def namePart : Node :=
  .seq (.mark 2) (.seq nameNode (.mark 3))

theorem attempt_namePart (spot : Spot) (marks : Marks) :
    attempt namePart next spot marks =
      proceed (attempt (.mark 3) next) spot ((2, spot.offset) :: marks) (tableName spot.text) :=
  reads_nameNode spot _

theorem refuses_namePart : Refuses (attempt namePart next) .blank := by
  intro spot marks _ d _ _ head blank
  rw [attempt_namePart, tableName_eq_none_of_isBlank head blank]
  rfl

/-- White space comes to an end where letters are asked for. -/
theorem refuses_spelled {node : Node} {reader : Reader} {first : CharSet} {sets : List CharSet}
    (reads : Reads node (.spelled (first :: sets) reader) next)
    (apart : ∀ c, isBlank c = true → first.mem c = false) : Refuses (attempt node next) .blank := by
  refine refuses_of_reads reads fun text c head blank => ?_
  refine Reader.andThen_eq_none_of_first (Reader.one_eq_none fun d same => ?_) _
  obtain rfl : c = d := Option.some.inj (head.symm.trans same)
  exact apart c blank

theorem reads_guardNode (refuses : Refuses next .blank) : Reads guardNode guard next := by
  refine reads_seq (reads_spelled (anyCase "IF") ?_) (reads_run refuses)
  have exists_ : Reads (spellAnyCase "EXIST" (.one (letterSet 'S')))
      (.spelled (anyCase "EXIST") (.one (letterSet 'S'))) (attempt (many 5 .blank) next) :=
    reads_spelled (anyCase "EXIST") (reads_one _ _)
  have not_ : Reads (spellAnyCase "NOT" (.seq (many 4 .blank)
      (spellAnyCase "EXIST" (.one (letterSet 'S'))))) (.spelled (anyCase "NOT")
        ((Reader.run .blank).andThen (.spelled (anyCase "EXIST") (.one (letterSet 'S')))))
      (attempt (many 5 .blank) next) := by
    refine reads_spelled (anyCase "NOT") (reads_seq (reads_run ?_) exists_)
    exact refuses_spelled exists_ fun c blank => mem_letterSet_eq_false (by decide) blank
  refine reads_seq (reads_run ?_) not_
  exact refuses_spelled not_ fun c blank => mem_letterSet_eq_false (by decide) blank

/-- A letter without further variants is asked for in its two cases. -/
theorem mem_letterSet_of_eq {l : Char} (upper lower : Char)
    (codes : letterSet l = .ofCodes [upper.toNat, lower.toNat]) (c : Char) :
    (letterSet l).mem c = (c == upper || c == lower) := by
  rw [CharSet.mem, codes, contains_ofCodes]
  simp [Char.toNat_inj, Bool.beq_eq_decide_eq]

/-- What begins with a guard does not begin with a name. -/
theorem tableName_eq_none_of_guardWords {text : List Char} (guarded : guardWords text ≠ none) :
    tableName text = none := by
  obtain ⟨⟨taken, rest⟩, read⟩ := Option.ne_none_iff_exists'.1 guarded
  have inner : Reader.spelled [letterSet 'I', letterSet 'F'] _ text = some _ := read
  obtain ⟨c, _, _, isI, rfl, inner, -⟩ := Reader.spelled_cons_eq_some_iff.1 inner
  obtain ⟨d, behind, _, isF, rfl, inner, -⟩ := Reader.spelled_cons_eq_some_iff.1 inner
  obtain ⟨_, _, _, gap, -, -⟩ := Reader.andThen_eq_some_iff.1 inner
  rw [mem_letterSet_of_eq 'I' 'i' (by decide)] at isI
  rw [mem_letterSet_of_eq 'F' 'f' (by decide)] at isF
  have outside : ∀ e ∈ behind.head?, isWordChar e = false := by
    intro e head
    refine isWordChar_eq_false_of_isBlank (Classical.byContradiction fun notBlank => ?_)
    rw [Reader.run_eq_none fun c first => ?_] at gap
    · simp at gap
    · obtain rfl : e = c := Option.some.inj (head.symm.trans first)
      simpa [mem_blank] using notBlank
  have wordC : isWordChar c = true := by
    rcases Bool.or_eq_true_iff.1 isI with same | same <;> rw [eq_of_beq same] <;> decide
  have wordD : isWordChar d = true := by
    rcases Bool.or_eq_true_iff.1 isF with same | same <;> rw [eq_of_beq same] <;> decide
  have noWord : word (c :: d :: behind) = none := by
    have named : (c :: d :: behind).takeWhile isWordChar = [c, d] := by
      cases behind with
      | nil => simp [wordC, wordD]
      | cons e rest => simp [wordC, wordD, outside e rfl]
    rw [word, named, isIf, isI, isF]
    simp
  have other {delimiter : Char} (isOther : isWordChar delimiter = false) :
      (c :: d :: behind).head? ≠ some delimiter := by
    intro head
    obtain rfl : c = delimiter := Option.some.inj head
    exact Bool.false_ne_true (isOther.symm.trans wordC)
  rw [tableName, Reader.either, noWord, Reader.either, quoted_eq_none (other (by decide)),
    Reader.either, quoted_eq_none (other (by decide)), quoted_eq_none (other (by decide))]
  rfl

theorem tableName_eq_none_of_guard {text : List Char} (guarded : guard text ≠ none) :
    tableName text = none := by
  refine tableName_eq_none_of_guardWords fun nothing => guarded ?_
  rw [guard_eq, Reader.andThen_eq_none_of_first nothing]

theorem guard_eq_none_of_isBlank {text : List Char} {c : Char} (head : text.head? = some c)
    (blank : isBlank c = true) : guard text = none := by
  refine Reader.andThen_eq_none_of_first (Reader.andThen_eq_none_of_first
    (Reader.one_eq_none fun d first => ?_) _) _
  obtain rfl : c = d := Option.some.inj (head.symm.trans first)
  exact mem_letterSet_eq_false (by decide) blank

/-- **The pattern of a lead reads a lead**, in front of a name. -/
theorem reads_leadNode : Reads leadNode lead (attempt namePart next) := by
  have guarded : Reads (.alt 2 (.seq guardNode .empty) .empty) (.optional guard)
      (attempt namePart next) := by
    intro spot marks
    have read : attempt guardNode (attempt namePart next) spot marks = _ :=
      reads_guardNode refuses_namePart spot marks
    rw [attempt_alt, attempt_seq]
    change (attempt guardNode (attempt namePart next) spot marks).or
      (attempt namePart next spot marks) = _
    rw [read, Reader.optional]
    cases found : guard spot.text with
    | none => simp [proceed]
    | some split =>
      have nothing : tableName spot.text = none := tableName_eq_none_of_guard (by simp [found])
      rw [attempt_namePart, nothing]
      simp [proceed]
  have table : Reads (.spell "TABLE".toList (.seq (many 1 .blank)
      (.alt 2 (.seq guardNode .empty) .empty))) (.spelled (exactly "TABLE")
        ((Reader.run .blank).andThen (.optional guard))) (attempt namePart next) := by
    refine reads_spelled (exactly "TABLE") (reads_seq (reads_run ?_) guarded)
    intro spot marks c d reads isBefore head blank
    rw [guarded, Reader.optional, guard_eq_none_of_isBlank head blank, Option.none_or]
    exact refuses_namePart _ _ c d (by simpa using reads) isBefore head blank
  refine reads_spelled (exactly "CREATE") (reads_seq (reads_run ?_) table)
  refine refuses_spelled table fun c blank => ?_
  rw [mem_single, beq_eq_false_iff_ne]
  rintro rfl
  exact absurd blank (by decide)

end Heads

/-! ### The guard rule -/

theorem splits_guard : guard.Splits := by
  refine Reader.splits_andThen (Reader.splits_spelled _ ?_) (Reader.splits_run _)
  refine Reader.splits_andThen (Reader.splits_run _) (Reader.splits_spelled _ ?_)
  exact Reader.splits_andThen (Reader.splits_run _) (Reader.splits_spelled _ (Reader.splits_one _))

theorem splits_lead : lead.Splits := by
  refine Reader.splits_spelled _ (Reader.splits_andThen (Reader.splits_run _) ?_)
  refine Reader.splits_spelled _ (Reader.splits_andThen (Reader.splits_run _) ?_)
  exact Reader.splits_optional splits_guard

/-- A lead begins with the first letter of its first keyword. -/
theorem head_of_lead {text front behind : List Char} (read : lead text = some (front, behind)) :
    text.head? = some 'C' ∧ front.head? = some 'C' := by
  have first : Reader.spelled (.single 'C' :: exactly "REATE") _ text = some _ := read
  obtain ⟨c, _, _, isC, rfl, -, rfl⟩ := Reader.spelled_cons_eq_some_iff.1 first
  obtain rfl : c = 'C' := by simpa [mem_single] using isC
  exact ⟨rfl, rfl⟩

/-- A lead ends in white space. -/
theorem ends_lead : lead.Ends isBlank := by
  have blanks : (Reader.run .blank).Ends isBlank := Reader.ends_run .blank
  have guarded : guard.Ends isBlank := blanks.andThen _
  exact (((blanks.andThen_optional guarded).spelled _).andThen _).spelled _

/-- A character that is no letter of the keywords is in no set of letters that a lead asks for. -/
theorem mem_letters_eq_false {c : Char} (noLetter : c ∉ "CREATETABLE".toList)
    (noVariant : "IFNOTEXISTS".toList.all (fun l => !(letterSet l).mem c) = true) :
    (∀ members ∈ exactly "CREATE" ++ exactly "TABLE", members.mem c = false) ∧
      ∀ members ∈ anyCase "IF" ++ (anyCase "NOT" ++ (anyCase "EXIST" ++ [letterSet 'S'])),
        members.mem c = false := by
  constructor
  · intro members member
    rw [exactly, exactly, ← List.map_append, List.mem_map] at member
    obtain ⟨l, isLetter, rfl⟩ := member
    rw [mem_single, beq_eq_false_iff_ne]
    rintro rfl
    exact noLetter isLetter
  · intro members member
    obtain ⟨l, isLetter, rfl⟩ : ∃ l ∈ "IFNOTEXISTS".toList, letterSet l = members :=
      List.mem_map.1 member
    simpa using List.all_eq_true.1 noVariant l isLetter

/-- Only letters of the keywords and white space stand in a lead. -/
theorem avoids_lead {c : Char} (notBlank : isBlank c = false)
    (noLetter : c ∉ "CREATETABLE".toList)
    (noVariant : "IFNOTEXISTS".toList.all (fun l => !(letterSet l).mem c) = true) :
    lead.Avoids c := by
  have blanks : (Reader.run .blank).Avoids c := Reader.avoids_run notBlank
  obtain ⟨letters, variants⟩ := mem_letters_eq_false noLetter noVariant
  simp only [List.forall_mem_append, List.forall_mem_singleton] at letters variants
  have guarded : guard.Avoids c := by
    refine Reader.Avoids.andThen (Reader.Avoids.spelled ?_ variants.1) blanks
    refine blanks.andThen (Reader.Avoids.spelled ?_ variants.2.1)
    exact blanks.andThen ((Reader.avoids_one variants.2.2.2).spelled variants.2.2.1)
  exact (blanks.andThen ((blanks.andThen guarded.optional).spelled letters.2)).spelled letters.1

/-- The marks of a match of the guard rule, the latest first. -/
def headMarks (offset : Nat) (front name : List Char) : Marks :=
  let start := offset + front.length
  let stop := start + name.length
  [(1, stop), (3, stop), (2, start), (0, offset)]

/-- A match of the guard rule is a lead and a name behind it. -/
theorem attemptAll_createTableGuard (before : Option Char) (text : List Char) (offset : Nat) :
    attemptAll [createTableGuard.pattern.root] ⟨before, text, offset⟩ [] =
      (lead text).bind fun (front, behind) => (tableName behind).map fun (name, _) =>
        ⟨offset + front.length + name.length, headMarks offset front name⟩ := by
  have split : attemptAll [createTableGuard.pattern.root] ⟨before, text, offset⟩ [] =
      attempt leadNode (attempt namePart (attempt (.mark 1) (attemptAll []))) ⟨before, text, offset⟩
        [(0, offset)] := rfl
  rw [split, reads_leadNode]
  cases lead text with
  | none => rfl
  | some reading =>
    rw [proceed, attempt_namePart]
    cases named : tableName reading.2 <;> simp [named, proceed, attempt, attemptAll, headMarks]

/-- What is written in the place of heads makes edits of heads. -/
theorem matchesBy_rewriteHeads {write : List Char → List Char} {render : Found → List Char}
    (renders : ∀ gap front name rest,
      render ⟨gap, front ++ name, rest, headMarks gap.length front name⟩ = write front ++ name) :
    MatchesBy createTableGuard.pattern.root render (rewriteHeads write) where
  productive := by decide
  fails := by
    intro before text offset nothing
    rw [attemptAll_createTableGuard]
    cases read : lead text with
    | none => rfl
    | some reading => simpa [rewriteHeads, read] using nothing
  matches_taken := by
    intro before text offset edit made
    obtain ⟨front, behind, name, rest, read, named, rfl⟩ := rewriteHeads_eq_some_iff.1 made
    have start : front ≠ [] := by
      rintro rfl
      simpa using (head_of_lead read).2
    obtain rfl := splits_tableName _ _ _ named
    obtain rfl := splits_lead _ _ _ read
    refine ⟨by simp [Edit.taken, start], rest, headMarks offset front name, by simp [Edit.taken],
      ?_, rfl, ?_⟩
    · simp [attemptAll_createTableGuard, read, named, Edit.taken, Nat.add_assoc]
    · rintro gap rfl
      exact renders gap front name rest

/-- The group of the guard rule is the name. -/
theorem namedText_table (gap front name rest : List Char) :
    createTableGuard.pattern.namedText
      ⟨gap, front ++ name, rest, headMarks gap.length front name⟩ "table" = name := by
  have group : createTableGuard.pattern.groupNames.lookup "table" = some 1 := rfl
  simp [Pattern.namedText, group, Pattern.groupText, Found.group?, Found.slot?, headMarks,
    List.lookup_cons]

/-- The name that a match of the guard rule reads. -/
def tableOf (found : Found) : List Char :=
  createTableGuard.pattern.namedText found "table"

/-- The guard rule writes a lead with one guard and the name that it has read. -/
theorem render_createTableGuard (found : Found) :
    createTableGuard.render found = newLead ++ tableOf found := by
  have pieces : Template.pieces "CREATE TABLE IF NOT EXISTS $table".toList =
      newLead.map .char ++ [.named "table"] := by
    decide
  have expand : createTableGuard.render found =
      newLead.flatMap (fun c => [c]) ++ (tableOf found ++ []) := by
    rw [Rule.render, createTableGuard, Replacement.render, Template.expand, pieces,
      List.flatMap_append, List.flatMap_map]
    rfl
  rw [expand, List.append_nil]
  simp

/-- **The guard rule puts one guard in front of every name that it reads.** -/
theorem createTableGuard_editsBy : createTableGuard.EditsBy headEditor := by
  refine matchesBy_rewriteHeads fun gap front name rest => ?_
  rw [render_createTableGuard, tableOf, namedText_table]

end Builtin

end DumpConverter
