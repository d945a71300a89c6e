/-
**Words as they stand.**

To a rule that looks for one word of its own, a text is a list of tokens: the maximal runs of word
characters, and the characters between them one by one. It puts something else in the place of every
token that is the word, and keeps the others.

* `tokenInduction`: a text ends, or goes on with one of the two kinds of tokens;
* `Phrase.IsWord.stands_iff`: a word stands where a run begins that is the word;
* `Phrase.IsWord.pass`: the pass of its rule goes from token to token;
* `wordRules_replace_tokens`: the three rules of the table that look for a word.
-/

import DumpConverter.Proofs.Builtin.Autoincrement
import Mathlib.Data.List.SplitBy

namespace DumpConverter

open Matcher Unicode

/-! ### Tokens -/

/-- The tokens of a text: the maximal runs of word characters, and the characters between them one by
one. -/
def tokens (text : List Char) : List (List Char) :=
  text.splitBy fun c d => isWordChar c && isWordChar d

/-- A text with `new` in the place of every token that is `word`. -/
def replaceToken (word new text : List Char) : List Char :=
  (tokens text).flatMap fun token => if token = word then new else token

/-- A character that is none of a word is a token. -/
theorem tokens_cons {c : Char} (other : isWordChar c = false) (rest : List Char) :
    tokens (c :: rest) = [c] :: tokens rest := by
  have apart : ∀ d ∈ [c].getLast?, ∀ e ∈ rest.head?, (isWordChar d && isWordChar e) = false := by
    rintro d isLast e -
    obtain rfl : c = d := by simpa using isLast
    rw [other, Bool.false_and]
  exact List.splitBy_append apart

/-- A run of word characters is a token, if it ends there. -/
theorem tokens_append {run rest : List Char} (nonempty : run ≠ [])
    (all : ∀ c ∈ run, isWordChar c = true) (ends : isWordAt rest.head? = false) :
    tokens (run ++ rest) = run :: tokens rest := by
  have apart : ∀ d ∈ run.getLast?, ∀ e ∈ rest.head?, (isWordChar d && isWordChar e) = false := by
    rintro d - e isFirst
    have notWord : isWordChar e = false := by rwa [Option.mem_def.1 isFirst] at ends
    rw [notWord, Bool.and_false]
  have whole : tokens run = [run] := by
    refine List.splitBy_of_isChain nonempty (List.Pairwise.isChain ?_)
    refine List.pairwise_of_forall_mem_list fun c isFirst d isSecond => ?_
    rw [all c isFirst, all d isSecond, Bool.and_self]
  rw [tokens, List.splitBy_append apart]
  exact congrArg (· ++ tokens rest) whole

theorem replaceToken_cons {c : Char} (other : isWordChar c = false) {word : List Char}
    (differs : [c] ≠ word) (new rest : List Char) :
    replaceToken word new (c :: rest) = c :: replaceToken word new rest := by
  rw [replaceToken, tokens_cons other, List.flatMap_cons, if_neg differs]
  rfl

theorem replaceToken_append {run rest : List Char} (nonempty : run ≠ [])
    (all : ∀ c ∈ run, isWordChar c = true) (ends : isWordAt rest.head? = false)
    (word new : List Char) : replaceToken word new (run ++ rest) =
      (if run = word then new else run) ++ replaceToken word new rest := by
  rw [replaceToken, tokens_append nonempty all ends, List.flatMap_cons]
  rfl

/-- **A text ends, or goes on with a character that is none of a word, or with a run of word
characters up to its end.** -/
@[elab_as_elim]
theorem tokenInduction {motive : List Char → Prop} (nil : motive [])
    (other : ∀ c rest, isWordChar c = false → motive rest → motive (c :: rest))
    (run : ∀ run rest, run ≠ [] → (∀ c ∈ run, isWordChar c = true) →
      isWordAt rest.head? = false → motive rest → motive (run ++ rest)) (text : List Char) :
    motive text := by
  induction size : text.length using Nat.strong_induction_on generalizing text with
  | _ size ih =>
    subst size
    rcases text with _ | ⟨c, rest⟩
    · exact nil
    cases first : isWordChar c with
    | false => exact other c rest first (ih _ (Nat.lt_succ_self _) rest rfl)
    | true =>
      have begins : (c :: rest).takeWhile isWordChar ≠ [] := by
        rw [List.takeWhile_cons_of_pos first]
        exact List.cons_ne_nil _ _
      have split := List.takeWhile_append_dropWhile (p := isWordChar) (l := c :: rest)
      have shorter : ((c :: rest).dropWhile isWordChar).length < (c :: rest).length := by
        have taken := List.length_pos_iff.2 begins
        have both := congrArg List.length split
        rw [List.length_append] at both
        omega
      rw [← split]
      exact run _ _ begins (List.all_eq_true.1 List.all_takeWhile) (isWordAt_head_dropWhile _)
        (ih _ shorter _ rfl)

/-! ### The rule of a word -/

namespace Phrase

/-- Whether a phrase is one word, to be found as a word of its own. -/
structure IsWord (phrase : Phrase) : Prop where
  isWhole : phrase.isWhole = true
  all : ∀ c ∈ phrase.letters, isWordChar c = true

instance (phrase : Phrase) : Decidable phrase.IsWord :=
  decidable_of_iff (phrase.isWhole = true ∧ phrase.letters.all isWordChar = true)
    ⟨fun ⟨isWhole, all⟩ => ⟨isWhole, List.all_eq_true.1 all⟩,
      fun ⟨isWhole, all⟩ => ⟨isWhole, List.all_eq_true.2 all⟩⟩

namespace IsWord

variable {phrase : Phrase} {before : Option Char}

/-- Inside a word, no word stands. -/
theorem not_stands (isWord : phrase.IsWord) (inside : isWordAt before = true) (text : List Char) :
    ¬ phrase.Stands before text := by
  rintro ⟨-, edges⟩
  exact Bool.false_ne_true ((edges isWord.isWhole).1.symm.trans inside)

/-- Where a run of word characters begins, a word stands exactly if it is the run. -/
theorem stands_iff (isWord : phrase.IsWord) {run rest : List Char} (begins : isWordAt before = false)
    (all : ∀ c ∈ run, isWordChar c = true) (ends : isWordAt rest.head? = false) :
    phrase.Stands before (run ++ rest) ↔ run = phrase.letters := by
  constructor
  · rintro ⟨⟨behind, reads⟩, edges⟩
    have stops : isWordAt behind.head? = false := by
      simpa [← reads] using (edges isWord.isWhole).2
    have sameRun : (phrase.letters ++ behind).takeWhile isWordChar =
        (run ++ rest).takeWhile isWordChar := by
      rw [reads]
    have noMore {text : List Char} (stops : isWordAt text.head? = false) :
        text.takeWhile isWordChar = [] := by
      cases text with
      | nil => rfl
      | cons c text => exact List.takeWhile_cons_of_neg (Bool.eq_false_iff.1 stops)
    rw [List.takeWhile_append_of_pos isWord.all, List.takeWhile_append_of_pos all, noMore stops,
      noMore ends, List.append_nil, List.append_nil] at sameRun
    exact sameRun.symm
  · rintro rfl
    exact stands_append.2 fun _ => ⟨begins, ends⟩

/-- **The pass of a word goes from token to token**: it makes one edit for every token that is the
word, and copies the others. -/
theorem pass (isWord : phrase.IsWord) (new text : List Char) :
    ∀ before, (isWordAt before = true → isWordAt text.head? = false) →
      ∃ edits, Pass (phrase.editor new) before text (replaceToken phrase.letters new text) edits ∧
        edits.length = (tokens text).count phrase.letters := by
  induction text using tokenInduction with
  | nil =>
    intro before _
    exact ⟨[], .done (editor_eq_none_iff.2 (phrase.not_stands_nil before)), rfl⟩
  | other c rest notWord ih =>
    intro before _
    obtain ⟨edits, later, counted⟩ := ih (some c) fun isWord =>
      absurd (notWord.symm.trans isWord) Bool.false_ne_true
    have differs : [c] ≠ phrase.letters := fun same =>
      Bool.false_ne_true (notWord.symm.trans (isWord.all c (by simp [← same])))
    refine ⟨edits, ?_, ?_⟩
    · rw [replaceToken_cons notWord differs]
      refine .copy (editor_eq_none_iff.2 fun stands => ?_) later
      exact Bool.false_ne_true (notWord.symm.trans stands.isWordAt_head)
    · rw [tokens_cons notWord, List.count_cons_of_ne differs, counted]
  | run run rest nonempty all ends ih =>
    intro before edge
    have begins : isWordAt before = false := by
      refine Bool.eq_false_iff.2 fun inside => ?_
      obtain ⟨c, further, rfl⟩ := List.exists_cons_of_ne_nil nonempty
      exact Bool.false_ne_true ((edge inside).symm.trans (all c List.mem_cons_self))
    obtain ⟨edits, later, counted⟩ := ih (lastOf before run) fun _ => ends
    by_cases same : run = phrase.letters
    · subst same
      refine ⟨⟨phrase.letters, new, []⟩ :: edits, ?_, ?_⟩
      · have made : phrase.editor new before (phrase.letters ++ rest) =
            some ⟨phrase.letters, new, []⟩ :=
          editor_eq_some_iff.2 ⟨(isWord.stands_iff begins all ends).2 rfl, rfl⟩
        rw [replaceToken_append nonempty all ends, if_pos rfl]
        have reads : phrase.letters ++ rest = Edit.taken ⟨phrase.letters, new, []⟩ ++ rest := by
          rw [Edit.taken, List.append_nil]
        simpa [Edit.put] using Pass.edit made reads (by simpa [Edit.taken] using later)
      · rw [tokens_append nonempty all ends, List.length_cons, List.count_cons_self, counted]
    · refine ⟨edits, ?_, ?_⟩
      · rw [replaceToken_append nonempty all ends, if_neg same]
        refine .of_along ?_ later
        -- The word does not stand where the run begins, nor further inside the run.
        intro passed remaining split unread
        refine editor_eq_none_iff.2 ?_
        rcases passed.eq_nil_or_concat with rfl | ⟨passed, c, rfl⟩
        · obtain rfl : run = remaining := by simpa using split
          exact mt (isWord.stands_iff begins all ends).1 same
        · refine isWord.not_stands ?_ _
          rw [List.concat_eq_append, lastOf_append, lastOf_cons, lastOf_nil]
          exact all c (by simp [split])
      · rw [tokens_append nonempty all ends, List.count_cons_of_ne same, counted]

end IsWord

end Phrase

/-! ### The rules of the table -/

namespace Builtin

/-- **A rule of the table that looks for a word replaces the tokens that are the word**, and each of
them is a hit. -/
theorem apply_rule_eq_replaceToken {row : PhraseRule} (isRow : row ∈ phraseRules)
    (isWord : row.phrase.IsWord) (changes : row ≠ commit) (text : List Char) :
    (row.rule.apply text).out = replaceToken row.phrase.letters row.new.toList text ∧
      (row.rule.apply text).hits = (tokens text).count row.phrase.letters := by
  obtain ⟨edits, byTokens, counted⟩ := isWord.pass row.new.toList text none (by simp [Place.isWord])
  obtain ⟨_, pass, -⟩ := row.editsBy.pass text
  obtain ⟨sameOut, -⟩ := pass.unique byTokens
  refine ⟨sameOut, ?_⟩
  rw [hits_eq_count isRow changes, count_eq_length_of_pass isRow byTokens, counted]

/-- A rule of the table that looks for one word: its name, the word, and what takes its place. -/
structure WordRule where
  name : String
  word : String
  new : String

/-- The three rules of the table that look for one word. -/
def wordRules : List WordRule :=
  [⟨"strip-autoincrement", "AUTOINCREMENT", ""⟩, ⟨"datetime-type", "DATETIME", "TIMESTAMP"⟩,
    ⟨"current-timestamp", "CURRENT_TIMESTAMP", "NOW()"⟩]

/-- **Each of the three rules acts on whole words**: in every text it puts its replacement in the
place of the tokens that are its word and keeps all others, and its hits are the number of these
tokens. -/
theorem wordRules_replace_tokens {row : WordRule} (isRow : row ∈ wordRules) :
    ∃ rule, RuleSet.builtin.get? row.name = some rule ∧ ∀ text,
      (rule.apply text).out = replaceToken row.word.toList row.new.toList text ∧
        (rule.apply text).hits = (tokens text).count row.word.toList := by
  rw [RuleSet.get?, rules_builtin]
  obtain rfl | rfl | rfl : row = ⟨"strip-autoincrement", "AUTOINCREMENT", ""⟩ ∨
      row = ⟨"datetime-type", "DATETIME", "TIMESTAMP"⟩ ∨
      row = ⟨"current-timestamp", "CURRENT_TIMESTAMP", "NOW()"⟩ := by simpa [wordRules] using isRow
  · exact ⟨stripAutoincrement.rule, rfl,
      apply_rule_eq_replaceToken (by decide) (by decide) (by decide)⟩
  · exact ⟨datetimeType.rule, rfl, apply_rule_eq_replaceToken (by decide) (by decide) (by decide)⟩
  · exact ⟨currentTimestamp.rule, rfl,
      apply_rule_eq_replaceToken (by decide) (by decide) (by decide)⟩

/-- So it is in a text where the word also stands in longer words, one of them by an accent only. -/
theorem wordRules_replace_tokens_datetime :
    (⟨"datetime-type", "DATETIME", "TIMESTAMP"⟩ : WordRule) ∈ wordRules ∧
      ∃ rule, RuleSet.builtin.get? "datetime-type" = some rule ∧
        (rule.apply "DATETIME,my_DATETIME DATETIME\u0301(DATETIME)".toList).out =
          "TIMESTAMP,my_DATETIME DATETIME\u0301(TIMESTAMP)".toList ∧
        (rule.apply "DATETIME,my_DATETIME DATETIME\u0301(DATETIME)".toList).hits = 2 := by
  have isRow : (⟨"datetime-type", "DATETIME", "TIMESTAMP"⟩ : WordRule) ∈ wordRules := by
    simp [wordRules]
  obtain ⟨rule, found, acts⟩ := wordRules_replace_tokens isRow
  obtain ⟨out, hits⟩ := acts "DATETIME,my_DATETIME DATETIME\u0301(DATETIME)".toList
  refine ⟨isRow, rule, found, out.trans ?_, hits.trans ?_⟩
  · decide
  · decide

end Builtin

end DumpConverter
