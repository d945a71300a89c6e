/-
**Names of tables.**

What the guard rule takes for the name of a table: a word other than `if`, or anything between two
delimiters.

* `tableName_eq_some_iff`: the two kinds of names;
* `reads_nameNode`: the pattern of a name reads a name and nothing else.
-/

import DumpConverter.Proofs.Builtin.Table
import DumpConverter.Proofs.Matcher.Reader

namespace DumpConverter

open Matcher Unicode

/-! ### Characters -/

theorem exists_of_covers {ranges : List CodeRange} {code : Nat}
    (covered : covers ranges code = true) :
    ∃ range ∈ ranges, range.first ≤ code ∧ code ≤ range.last := by
  induction ranges with
  | nil => simp [covers] at covered
  | cons range ranges ih =>
    unfold covers at covered
    split at covered
    · simp at covered
    · split at covered
      · exact ⟨range, List.mem_cons_self, by omega, by assumption⟩
      · obtain ⟨other, member, bounds⟩ := ih covered
        exact ⟨other, List.mem_cons_of_mem _ member, bounds⟩

/-- White space is no part of a word. -/
theorem isWordChar_eq_false_of_isBlank {c : Char} (blank : isBlank c = true) :
    isWordChar c = false := by
  have apart : ∀ range ∈ blankRanges, ∀ step < range.last + 1 - range.first,
      covers wordRanges (range.first + step) = false := by
    decide +kernel
  obtain ⟨range, member, first, last⟩ := exists_of_covers blank
  have := apart range member (c.toNat - range.first) (by omega)
  rwa [Nat.add_sub_cancel' first] at this

theorem mem_blank (c : Char) : CharSet.blank.mem c = isBlank c := rfl

theorem mem_word (c : Char) : CharSet.word.mem c = isWordChar c := rfl

theorem contains_ofCodes (codes : List Nat) (code : Nat) :
    (CharSet.ofCodes codes).contains code = codes.contains code := by
  have one (other : Nat) : (CharSet.range other other).contains code = (code == other) := by
    rw [Bool.eq_iff_iff]
    simp only [CharSet.contains, Bool.and_eq_true, decide_eq_true_eq, beq_iff_eq]
    omega
  unfold CharSet.ofCodes
  induction codes with
  | nil => rfl
  | cons first codes ih =>
    rw [List.contains_cons, ← ih]
    cases codes with
    | nil => simp [CharSet.unionAll, CharSet.contains, one]
    | cons second codes =>
      rw [← one first]
      rfl

/-! ### Words -/

theorem isWordAt_lastOf {stretch : List Char} {before : Option Char} (word : isWordAt before = true)
    (all : ∀ c ∈ stretch, isWordChar c = true) : isWordAt (lastOf before stretch) = true := by
  induction stretch generalizing before with
  | nil => simpa using word
  | cons c stretch ih =>
    obtain ⟨first, others⟩ := List.forall_mem_cons.1 all
    rw [lastOf_cons]
    exact ih first others

theorem isWordAt_head_dropWhile (text : List Char) :
    isWordAt (text.dropWhile isWordChar).head? = false := by
  induction text with
  | nil => rfl
  | cons c text ih =>
    by_cases word : isWordChar c = true
    · rwa [List.dropWhile_cons_of_pos word]
    · rw [List.dropWhile_cons_of_neg word]
      exact Bool.eq_false_iff.2 word

namespace Builtin

/-- A letter in any case is neither white space nor anything else that the given test holds of. -/
theorem mem_letterSet_eq_false {l c : Char} {test : Nat → Bool}
    (apart : ∀ code ∈ l.toNat :: caseVariants l.toNat, test code = false)
    (holds : test c.toNat = true) : (letterSet l).mem c = false := by
  rw [CharSet.mem, letterSet, contains_ofCodes, List.contains_eq_mem, decide_eq_false_iff_not]
  intro member
  rw [apart _ member] at holds
  exact Bool.false_ne_true holds

/-! ### Names -/

/-- Whether a word is `if`, in any case. -/
def isIf : List Char → Bool
  | [first, second] => (first == 'I' || first == 'i') && (second == 'F' || second == 'f')
  | _ => false

theorem isIf_eq_true_iff {word : List Char} : isIf word = true ↔
    ∃ c d, word = [c, d] ∧ (c == 'I' || c == 'i') = true ∧ (d == 'F' || d == 'f') = true := by
  constructor
  · intro named
    unfold isIf at named
    split at named
    · exact ⟨_, _, rfl, Bool.and_eq_true_iff.1 named⟩
    · simp at named
  · rintro ⟨c, d, rfl, isI, isF⟩
    simp [isIf, isI, isF]

/-- Reads a word other than `if`. -/
def word : Reader := fun text =>
  if text.takeWhile isWordChar = [] ∨ isIf (text.takeWhile isWordChar) = true then none
  else some (text.takeWhile isWordChar, text.dropWhile isWordChar)

/-- Reads a name between two delimiters. -/
def quoted (opening closing : Char) : Reader :=
  (Reader.one (.single opening)).andThen
    ((Reader.run (.compl (.single closing))).andThen (Reader.one (.single closing)))

/-- Reads the name of a table. -/
def tableName : Reader :=
  word.either ((quoted '"' '"').either ((quoted '[' ']').either (quoted '\x60' '\x60')))

theorem word_eq_none {text : List Char} (noWord : isWordAt text.head? = false) :
    word text = none := by
  cases text with
  | nil => rfl
  | cons c text =>
    have first : isWordChar c = false := noWord
    simp [word, first]

theorem quoted_eq_none {opening closing : Char} {text : List Char}
    (other : text.head? ≠ some opening) : quoted opening closing text = none := by
  refine Reader.andThen_eq_none_of_first (Reader.one_eq_none fun c head => ?_) _
  rw [mem_single, beq_eq_false_iff_ne]
  rintro rfl
  exact other head

/-- A name begins with a word character or with a delimiter. -/
theorem tableName_eq_none {text : List Char} (noWord : isWordAt text.head? = false)
    (noDelimiter : ∀ c ∈ text.head?, c ≠ '"' ∧ c ≠ '[' ∧ c ≠ '\x60') : tableName text = none := by
  rw [tableName, Reader.either, word_eq_none noWord, Option.none_or, Reader.either,
    quoted_eq_none fun head => (noDelimiter _ head).1 rfl, Option.none_or, Reader.either,
    quoted_eq_none fun head => (noDelimiter _ head).2.1 rfl, Option.none_or,
    quoted_eq_none fun head => (noDelimiter _ head).2.2 rfl]

theorem word_eq_some_iff {text name rest : List Char} :
    word text = some (name, rest) ↔ text = name ++ rest ∧ name ≠ [] ∧ isIf name = false ∧
      (∀ c ∈ name, isWordChar c = true) ∧ isWordAt rest.head? = false := by
  constructor
  · intro read
    unfold word at read
    split at read
    · simp at read
    · rename_i isName
      obtain ⟨nonempty, notIf⟩ := not_or.1 isName
      obtain ⟨rfl, rfl⟩ := by simpa using read
      exact ⟨List.takeWhile_append_dropWhile.symm, nonempty, by simpa using notIf,
        List.all_eq_true.1 List.all_takeWhile, isWordAt_head_dropWhile text⟩
  · rintro ⟨rfl, nonempty, notIf, all, ends⟩
    have run : Reader.run .word (name ++ rest) = some (name, rest) := by
      refine Reader.run_append nonempty all fun c head => ?_
      rwa [head] at ends
    obtain ⟨-, isName, isRest⟩ := Reader.run_eq_some_iff.1 run
    have isName : (name ++ rest).takeWhile isWordChar = name := isName.symm
    have isRest : (name ++ rest).dropWhile isWordChar = rest := isRest.symm
    rw [word, isName, isRest, if_neg (by simp [nonempty, notIf])]

theorem quoted_eq_some_iff {opening closing : Char} {text name rest : List Char} :
    quoted opening closing text = some (name, rest) ↔ ∃ inner, inner ≠ [] ∧ closing ∉ inner ∧
      text = opening :: (inner ++ closing :: rest) ∧ name = opening :: (inner ++ [closing]) := by
  constructor
  · intro read
    obtain ⟨_, _, _, first, behind, rfl⟩ := Reader.andThen_eq_some_iff.1 read
    obtain ⟨inner, _, _, middle, last, rfl⟩ := Reader.andThen_eq_some_iff.1 behind
    obtain ⟨c, isOpening, rfl, rfl⟩ := Reader.one_eq_some_iff.1 first
    obtain ⟨d, isClosing, rfl, rfl⟩ := Reader.one_eq_some_iff.1 last
    obtain rfl : c = opening := by simpa [mem_single] using isOpening
    obtain rfl : d = closing := by simpa [mem_single] using isClosing
    have outside : (CharSet.compl (.single d)).mem d = false := by simp [mem_compl, mem_single]
    exact ⟨inner, (Reader.run_eq_some_iff.1 middle).1, Reader.avoids_run outside _ _ _ middle,
      by rw [Reader.splits_run _ _ _ _ middle], rfl⟩
  · rintro ⟨inner, nonempty, outside, rfl, rfl⟩
    have middle : Reader.run (.compl (.single closing)) (inner ++ closing :: rest) =
        some (inner, closing :: rest) := by
      refine Reader.run_append nonempty (fun c member => ?_) (fun c head => ?_)
      · rw [mem_compl, mem_single, Bool.not_eq_true', beq_eq_false_iff_ne]
        rintro rfl
        exact outside member
      · obtain rfl : closing = c := Option.some.inj head
        simp [mem_compl, mem_single]
    have last : Reader.one (.single closing) (closing :: rest) = some ([closing], rest) :=
      Reader.one_eq_some_iff.2 ⟨closing, by simp [mem_single], rfl, rfl⟩
    have first : Reader.one (.single opening) (opening :: (inner ++ closing :: rest)) =
        some ([opening], inner ++ closing :: rest) :=
      Reader.one_eq_some_iff.2 ⟨opening, by simp [mem_single], rfl, rfl⟩
    exact Reader.andThen_eq_some_iff.2 ⟨_, _, _, first,
      Reader.andThen_eq_some_iff.2 ⟨_, _, _, middle, last, rfl⟩, rfl⟩

/-- The pairs of delimiters that a name can stand between. -/
def delimiters : List (Char × Char) :=
  [('"', '"'), ('[', ']'), ('\x60', '\x60')]

theorem isWordChar_opening {opening closing : Char} (pair : (opening, closing) ∈ delimiters) :
    isWordChar opening = false := by
  have all : ∀ pair ∈ delimiters, isWordChar pair.1 = false := by decide
  exact all _ pair

/-- **A name is a word other than `if`, or stands between delimiters.** -/
theorem tableName_eq_some_iff {text name rest : List Char} :
    tableName text = some (name, rest) ↔ word text = some (name, rest) ∨
      ∃ opening closing, (opening, closing) ∈ delimiters ∧
        quoted opening closing text = some (name, rest) := by
  constructor
  · intro read
    rcases Option.or_eq_some_iff.1 read with found | ⟨-, read⟩
    · exact .inl found
    rcases Option.or_eq_some_iff.1 read with found | ⟨-, read⟩
    · exact .inr ⟨_, _, by simp [delimiters], found⟩
    rcases Option.or_eq_some_iff.1 read with found | ⟨-, found⟩
    · exact .inr ⟨_, _, by simp [delimiters], found⟩
    · exact .inr ⟨_, _, by simp [delimiters], found⟩
  · rintro (found | ⟨opening, closing, pair, found⟩)
    · rw [tableName, Reader.either, found]
      rfl
    · obtain ⟨inner, -, -, rfl, -⟩ := quoted_eq_some_iff.1 found
      have noWord : word (opening :: (inner ++ closing :: rest)) = none :=
        word_eq_none (isWordChar_opening pair)
      rw [tableName, Reader.either, noWord, Option.none_or, Reader.either]
      obtain ⟨rfl, rfl⟩ | ⟨rfl, rfl⟩ | ⟨rfl, rfl⟩ : (opening = '"' ∧ closing = '"') ∨
          (opening = '[' ∧ closing = ']') ∨ (opening = '\x60' ∧ closing = '\x60') := by
        simpa [delimiters] using pair
      · rw [found]
        rfl
      · rw [quoted_eq_none (by simp), Option.none_or, Reader.either, found]
        rfl
      · rw [quoted_eq_none (by simp), Option.none_or, Reader.either, quoted_eq_none (by simp),
          Option.none_or, found]

theorem tableName_eq_none_of_isBlank {text : List Char} {c : Char} (head : text.head? = some c)
    (blank : isBlank c = true) : tableName text = none := by
  have noWord : isWordAt text.head? = false := by
    rw [head]
    exact isWordChar_eq_false_of_isBlank blank
  refine tableName_eq_none noWord fun d first => ?_
  obtain rfl : c = d := Option.some.inj (head.symm.trans first)
  refine ⟨?_, ?_, ?_⟩ <;> rintro rfl <;> exact absurd blank (by decide)

theorem splits_tableName : tableName.Splits := by
  intro text name rest read
  rcases tableName_eq_some_iff.1 read with found | ⟨opening, closing, -, found⟩
  · exact (word_eq_some_iff.1 found).1
  · obtain ⟨inner, -, -, rfl, rfl⟩ := quoted_eq_some_iff.1 found
    simp

/-! ### The pattern reads names -/

section Names

variable {next : Continuation}

/-- Behind a word character, an edge is where the word ends. -/
theorem attempt_edge_behind {c : Char} (wordChar : isWordChar c = true) (rest : List Char)
    (offset : Nat) (marks : Marks) :
    attempt (.look (.word .edge true)) next ⟨some c, rest, offset⟩ marks =
      if isWordAt rest.head? then none else next ⟨some c, rest, offset⟩ marks := by
  have before : isWordAt (some c) = true := wordChar
  rw [Phrase.attempt_edge, before]
  cases isWordAt rest.head? <;> rfl

theorem mem_notI (c : Char) :
    (CharSet.compl (.union (.compl .word) (.union (.single 'I') (.single 'i')))).mem c =
      (isWordChar c && !(c == 'I' || c == 'i')) := by
  rw [← mem_single, ← mem_single]
  simp [CharSet.mem, CharSet.contains, isWordChar]

theorem mem_notF (c : Char) :
    (CharSet.compl (.union (.compl .word) (.union (.single 'F') (.single 'f')))).mem c =
      (isWordChar c && !(c == 'F' || c == 'f')) := by
  rw [← mem_single, ← mem_single]
  simp [CharSet.mem, CharSet.contains, isWordChar]

theorem mem_isI (c : Char) :
    (CharSet.union (.single 'I') (.single 'i')).mem c = (c == 'I' || c == 'i') := by
  rw [← mem_single, ← mem_single]
  rfl

variable {before : Option Char} {c d e : Char} {text : List Char} {offset : Nat} {marks : Marks}

theorem attempt_wordNode_of_noWord (noWord : isWordAt text.head? = false) :
    attempt wordNode next ⟨before, text, offset⟩ marks = none := by
  cases text with
  | nil => rfl
  | cons c text =>
    have first : isWordChar c = false := noWord
    have notI : (c == 'I' || c == 'i') = false := by
      rw [Bool.eq_false_iff]
      intro isI
      rcases Bool.or_eq_true_iff.1 isI with same | same <;>
        simp [eq_of_beq same, show isWordChar 'I' = true by decide,
          show isWordChar 'i' = true by decide] at first
    simp [wordNode, attempt_seq, attempt_alt, attempt_one_cons, mem_word, mem_notI, mem_isI, first,
      notI]

theorem attempt_wordNode_one (first : isWordChar c = true) (ends : isWordAt text.head? = false) :
    attempt wordNode next ⟨before, c :: text, offset⟩ marks =
      next ⟨some c, text, offset + 1⟩ marks := by
  cases text with
  | nil =>
    have atEnd : isWordAt none = false := rfl
    simp [wordNode, attempt_seq, attempt_alt, attempt_one_cons, attempt_one_nil, mem_word, first,
      attempt_edge_behind first, atEnd]
  | cons d text =>
    have second : isWordChar d = false := ends
    have behind : isWordAt (some d) = false := ends
    simp [wordNode, attempt_seq, attempt_alt, attempt_one_cons, mem_word, mem_notF,
      first, second, attempt_edge_behind first, behind]

theorem attempt_wordNode_two (first : isWordChar c = true) (second : isWordChar d = true)
    (ends : isWordAt text.head? = false) :
    attempt wordNode next ⟨before, c :: d :: text, offset⟩ marks =
      if isIf [c, d] then none else next ⟨some d, text, offset + 2⟩ marks := by
  have third : attempt (many 8 .word) (attempt (.look (.word .edge true)) next)
      ⟨some d, text, offset + 1 + 1⟩ marks = none := by
    cases text with
    | nil => rfl
    | cons e text =>
      have outside : isWordChar e = false := ends
      simp [attempt_seq, many, attempt_one_cons, mem_word, outside]
  have inside : isWordAt (some d) = true := second
  by_cases isI : (c == 'I' || c == 'i') = true <;> by_cases isF : (d == 'F' || d == 'f') = true <;>
    simp [wordNode, attempt_seq, attempt_alt, attempt_one_cons, mem_word, mem_notI, mem_notF,
      mem_isI, first, second, attempt_edge_behind first, attempt_edge_behind second, third, ends,
      inside, isIf, isI, isF]

theorem attempt_wordNode_more (first : isWordChar c = true) (second : isWordChar d = true)
    (third : isWordChar e = true) :
    attempt wordNode next ⟨before, c :: d :: e :: text, offset⟩ marks =
      next ⟨lastOf (some e) (text.takeWhile isWordChar), text.dropWhile isWordChar,
        offset + ((text.takeWhile isWordChar).length + 3)⟩ marks := by
  have refuses : Refuses (attempt (.look (.word .edge true)) next) .word := by
    rintro ⟨_, text, offset⟩ marks c d rfl isWord head more
    have inside : isWordAt (some d) = true := more
    rw [attempt_edge_behind isWord, head, inside]
    rfl
  have long : attempt (many 8 .word) (attempt (.look (.word .edge true)) next)
      ⟨some d, e :: text, offset + 1 + 1⟩ marks =
      attempt (.look (.word .edge true)) next ⟨lastOf (some e) (text.takeWhile isWordChar),
        text.dropWhile isWordChar, offset + ((text.takeWhile isWordChar).length + 3)⟩ marks := by
    rw [many, reads_run refuses]
    have reads : Reader.run .word (e :: text) =
        some (e :: text.takeWhile isWordChar, text.dropWhile isWordChar) := by
      have same : CharSet.word.mem = isWordChar := rfl
      simp [Reader.run, same, third]
    simp only [reads, proceed, lastOf_cons, List.length_cons]
    congr 2
    omega
  have ends : attempt (.look (.word .edge true)) next ⟨lastOf (some e) (text.takeWhile isWordChar),
      text.dropWhile isWordChar, offset + ((text.takeWhile isWordChar).length + 3)⟩ marks =
      next ⟨lastOf (some e) (text.takeWhile isWordChar), text.dropWhile isWordChar,
        offset + ((text.takeWhile isWordChar).length + 3)⟩ marks := by
    have behind : isWordAt (lastOf (some e) (text.takeWhile isWordChar)) = true :=
      isWordAt_lastOf (show isWordAt (some e) = true from third)
        (List.all_eq_true.1 List.all_takeWhile)
    rw [Phrase.attempt_edge, behind, isWordAt_head_dropWhile]
    rfl
  have insideSecond : isWordAt (some d) = true := second
  have insideThird : isWordAt (some e) = true := third
  simp only [wordNode, attempt_seq, attempt_alt, attempt_one_cons, mem_word, mem_notI, mem_notF,
    mem_isI, first, second, long, ends, attempt_edge_behind first, attempt_edge_behind second,
    List.head?_cons, insideSecond, insideThird]
  simp

/-- The pattern of a word reads a word other than `if`. -/
theorem reads_wordNode : Reads wordNode word next := by
  rintro ⟨before, _ | ⟨c, text⟩, offset⟩ marks
  · exact attempt_wordNode_of_noWord rfl
  cases first : isWordChar c with
  | false =>
    rw [attempt_wordNode_of_noWord (show isWordAt (c :: text).head? = false from first)]
    simp [word, first, proceed]
  | true =>
    rcases text with _ | ⟨d, text⟩
    · rw [attempt_wordNode_one first rfl]
      simp [word, first, isIf, proceed, lastOf]
    cases second : isWordChar d with
    | false =>
      rw [attempt_wordNode_one first (show isWordAt (d :: text).head? = false from second)]
      simp [word, first, second, isIf, proceed, lastOf]
    | true =>
      rcases text with _ | ⟨e, text⟩
      · rw [attempt_wordNode_two first second rfl]
        by_cases named : isIf [c, d] = true <;> simp [word, first, second, named, proceed, lastOf]
      cases third : isWordChar e with
      | true =>
        rw [attempt_wordNode_more first second third]
        simp [word, first, second, third, isIf, proceed]
      | false =>
        rw [attempt_wordNode_two first second (show isWordAt (e :: text).head? = false from third)]
        by_cases named : isIf [c, d] = true <;>
          simp [word, first, second, third, named, proceed, lastOf]

/-- The pattern of a name between delimiters reads just that. -/
theorem reads_quotedNode (label : Nat) (opening closing : Char) :
    Reads (quotedNode label opening closing) (quoted opening closing) next := by
  refine reads_seq (reads_one _ _) (reads_seq (reads_run ?_) (reads_one _ _))
  refine refuses_of_reads (reads_one _ _) fun text c head inside => Reader.one_eq_none ?_
  intro d first
  obtain rfl : c = d := Option.some.inj (head.symm.trans first)
  simpa [mem_compl] using inside

/-- The pattern of a name reads the name of a table. -/
theorem reads_nameNode : Reads nameNode tableName next := by
  -- The sides differ in what they begin with.
  refine reads_either reads_wordNode (reads_either (reads_quotedNode _ _ _)
    (reads_either (reads_quotedNode _ _ _) (reads_quotedNode _ _ _) ?_) ?_) ?_
  · intro text
    by_cases head : text.head? = some '['
    · exact .inr (quoted_eq_none (by simp [head]))
    · exact .inl (quoted_eq_none head)
  · intro text
    by_cases head : text.head? = some '"'
    · refine .inr ?_
      rw [Reader.either, quoted_eq_none (by simp [head]), quoted_eq_none (by simp [head])]
      rfl
    · exact .inl (quoted_eq_none head)
  · intro text
    cases noWord : isWordAt text.head? with
    | false => exact .inl (word_eq_none noWord)
    | true =>
      have other {c : Char} (isWord : isWordChar c = false) : text.head? ≠ some c := by
        intro head
        rw [head] at noWord
        exact Bool.false_ne_true (isWord.symm.trans noWord)
      refine .inr ?_
      rw [Reader.either, quoted_eq_none (other (by decide)), Reader.either,
        quoted_eq_none (other (by decide)), quoted_eq_none (other (by decide))]
      rfl

end Names

end Builtin

end DumpConverter
