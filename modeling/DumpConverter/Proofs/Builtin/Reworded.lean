/-
**Heads in reworded texts.**

Most of the rules that replace a phrase bring about no head of a table definition, and they take
none away: no head reaches into a phrase or into what stands for it, but for its name, and the name
stays one. So the guard rule goes through a text and through what such a rule leaves of it side by
side. It finds the same leads in both, in front of names that may differ.

* `Reworded`: a text and what rows of the table may leave of it;
* `parallel_lead`, `parallel_tableName`: what the guard rule reads, on both texts at once;
* `hits_createTableGuard_apply_rule`: a rule that may be left out keeps the hits of the guard rule.
-/

import DumpConverter.Proofs.Builtin.Pragma
import DumpConverter.Proofs.Builtin.Residue
import DumpConverter.Proofs.Builtin.TableHead

namespace DumpConverter.Builtin

open Matcher Unicode

/-! ### A text and another wording -/

/-- The rows whose rules can be left out without changing the hits of another rule. -/
def optionalRows : List PhraseRule :=
  [beginTransaction, commit, datetimeType, currentTimestamp, booleanDefaultFalse,
    booleanDefaultTrue]

/-- A text and what rows may leave of it: characters are copied, and now and then what a row puts
stands for its phrase. -/
inductive Reworded : List Char → List Char → Prop
  | done : Reworded [] []
  | copy {c : Char} {rest out : List Char} (later : Reworded rest out) :
      Reworded (c :: rest) (c :: out)
  | swap {row : PhraseRule} {rest out : List Char} (isRow : row ∈ optionalRows)
      (ends : row.phrase.isWhole = true → isWordAt rest.head? = false ∧ isWordAt out.head? = false)
      (later : Reworded rest out) : Reworded (row.phrase.letters ++ rest) (row.new.toList ++ out)

theorem reworded_of_aligned {row : PhraseRule} (isRow : row ∈ optionalRows)
    {free : Option Char → List Char → Prop} {before : Option Char} {text out : List Char}
    (aligned : Aligned free row.editor.Swaps before text out) : Reworded text out := by
  have opens : ∀ before old new rest, row.editor.Swaps before old new rest →
      isWordAt old.head? = true := by
    rintro before old new rest ⟨edit, made, rfl, rfl, -⟩
    obtain ⟨-, rfl⟩ := Phrase.editor_eq_some_iff.1 made
    exact row.phrase.first_isWord
  induction aligned with
  | done => exact .done
  | copy _ _ ih => exact .copy ih
  | swap swapped later ih =>
    obtain ⟨edit, made, rfl, rfl, -⟩ := swapped
    obtain ⟨stands, rfl⟩ := Phrase.editor_eq_some_iff.1 made
    refine .swap isRow (fun isWhole => ?_) ih
    have ended := (Phrase.stands_append.1 stands isWhole).2
    exact ⟨ended, by rw [later.head_eq opens ended, ended]⟩

/-- **A row leaves a text in another wording.** -/
theorem reworded_apply_rule {row : PhraseRule} (isRow : row ∈ optionalRows) (text : List Char) :
    Reworded text (row.rule.apply text).out := by
  obtain ⟨made, pass, -, -⟩ := row.editsBy.pass text
  exact reworded_of_aligned isRow (PhraseRule.aligned_of_pass pass)

/-! ### Leads -/

/-- Whether no phrase, and nothing that stands for one, begins with a member of a set. -/
def Outside (members : CharSet) : Prop :=
  ∀ row ∈ optionalRows, (row.phrase.letters.head?.toList ++ row.new.toList.head?.toList).all
    (fun c => !members.mem c) = true

instance (members : CharSet) : Decidable (Outside members) :=
  inferInstanceAs (Decidable (∀ row ∈ optionalRows, _))

theorem new_ne_nil : ∀ row ∈ optionalRows, row.new.toList ≠ [] := by
  decide

/-- A phrase and what stands for it begin with characters outside such a set. -/
theorem Outside.exists_cons {members : CharSet} (outside : Outside members) {row : PhraseRule}
    (isRow : row ∈ optionalRows) :
    (∃ c tail, row.phrase.letters = c :: tail ∧ members.mem c = false) ∧
      ∃ c tail, row.new.toList = c :: tail ∧ members.mem c = false := by
  obtain ⟨c, tail, letters⟩ := List.exists_cons_of_ne_nil row.phrase.letters_ne_nil
  obtain ⟨d, behind, new⟩ := List.exists_cons_of_ne_nil (new_ne_nil row isRow)
  obtain ⟨first, firstNew⟩ : members.mem c = false ∧ members.mem d = false := by
    simpa [letters, new] using outside row isRow
  exact ⟨⟨c, tail, letters, first⟩, d, behind, new, firstNew⟩

theorem parallel_one {members : CharSet} (outside : Outside members) :
    (Reader.one members).Parallel true Reworded Reworded := by
  rintro _ _ (_ | later | ⟨isRow, -, -⟩)
  · exact .inl ⟨rfl, rfl⟩
  · rename_i c rest out
    by_cases member : members.mem c = true
    · exact .inr ⟨[c], rest, [c], out, by simp [Reader.one, member], by simp [Reader.one, member],
        fun _ => rfl, later⟩
    · exact .inl (by simp [Reader.one, member])
  · obtain ⟨⟨c, tail, letters, other⟩, d, behind, new, otherNew⟩ := outside.exists_cons isRow
    exact .inl (by simp [Reader.one, letters, new, other, otherNew])

theorem parallel_run_outside {members : CharSet} (outside : Outside members) :
    (Reader.run members).Parallel true Reworded Reworded := by
  refine Reader.parallel_run fun text out reworded => ?_
  have alike : text.takeWhile members.mem = out.takeWhile members.mem ∧
      Reworded (text.dropWhile members.mem) (out.dropWhile members.mem) := by
    induction reworded with
    | done => exact ⟨rfl, .done⟩
    | @copy c rest out later ih =>
      by_cases member : members.mem c = true
      · simpa [member] using ih
      · simpa [member] using Reworded.copy later
    | swap isRow ends later =>
      obtain ⟨⟨c, tail, letters, other⟩, d, behind, new, otherNew⟩ := outside.exists_cons isRow
      have whole := Reworded.swap isRow ends later
      rw [letters, new] at whole ⊢
      simpa [other, otherNew] using whole
  obtain ⟨same, behind⟩ := alike
  exact ⟨by rw [same], fun _ => same, behind⟩

/-- Whether a text that begins with `stretch` is bound to fail some of the sets in turn. -/
def stumbles : List CharSet → List Char → Bool
  | members :: sets, c :: stretch => !members.mem c || stumbles sets stretch
  | _, _ => false

/-- Whether a reader fails on a text that begins with no member of a set. -/
def BeginsIn (first : CharSet) (reader : Reader) : Prop :=
  ∀ text, (∀ c, text.head? = some c → first.mem c = false) → reader text = none

theorem spelled_eq_none_of_stumbles {first : CharSet} {reader : Reader}
    (begins : BeginsIn first reader) {sets : List CharSet} {stretch : List Char}
    (stumble : stumbles (sets ++ [first]) stretch = true) (rest : List Char) :
    Reader.spelled sets reader (stretch ++ rest) = none := by
  induction sets generalizing stretch with
  | nil =>
    cases stretch with
    | nil => simp [stumbles] at stumble
    | cons c stretch =>
      refine begins _ fun d head => ?_
      obtain rfl : c = d := Option.some.inj head
      simpa [stumbles] using stumble
  | cons members sets ih =>
    cases stretch with
    | nil => simp [stumbles] at stumble
    | cons c stretch =>
      rw [List.cons_append]
      cases member : members.mem c with
      | false => exact Reader.spelled_cons_of_not_mem member sets reader _
      | true =>
        have further : stumbles (sets ++ [first]) stretch = true := by
          simpa [stumbles, member] using stumble
        rw [Reader.spelled_cons_of_mem member, ih further, Option.map_none]

/-- Whether no phrase, and nothing that stands for one, goes on with what is still to be spelled. -/
def KeepsApartFrom (sets : List CharSet) (first : CharSet) : Prop :=
  ∀ row ∈ optionalRows, ∀ ahead ∈ sets.tails, ahead ≠ [] →
    stumbles (ahead ++ [first]) row.phrase.letters = true ∧
      stumbles (ahead ++ [first]) row.new.toList = true

instance (sets : List CharSet) (first : CharSet) : Decidable (KeepsApartFrom sets first) :=
  inferInstanceAs (Decidable (∀ row ∈ optionalRows, _))

theorem parallel_spelled {sets : List CharSet} {first : CharSet} {reader : Reader}
    (apart : KeepsApartFrom sets first) (begins : BeginsIn first reader)
    (reads : reader.Parallel true Reworded Reworded) :
    (Reader.spelled sets reader).Parallel true Reworded Reworded := by
  -- A swapped stretch may begin with letters that are asked for, so that it is met as a whole.
  induction sets with
  | nil => exact reads
  | cons members sets ih =>
    have later : (Reader.spelled sets reader).Parallel true Reworded Reworded :=
      ih fun row isRow ahead isAhead => apart row isRow ahead
        (List.mem_cons_of_mem _ isAhead)
    rintro _ _ (_ | further | ⟨isRow, -, -⟩)
    · exact .inl ⟨rfl, rfl⟩
    · rename_i c rest out
      cases member : members.mem c with
      | false => exact .inl ⟨Reader.spelled_cons_of_not_mem member sets reader rest,
          Reader.spelled_cons_of_not_mem member sets reader out⟩
      | true =>
        rw [Reader.spelled_cons_of_mem member, Reader.spelled_cons_of_mem member]
        rcases later rest out further with
          ⟨nothing, neither⟩ | ⟨taken, behind, other, left, read, again, same, further⟩
        · exact .inl (by simp [nothing, neither])
        · exact .inr ⟨c :: taken, behind, c :: other, left, by simp [read], by simp [again],
            fun exact => by rw [same exact], further⟩
    · obtain ⟨stuck, stuckNew⟩ :=
        apart _ isRow (members :: sets) (List.mem_cons_self) (List.cons_ne_nil members sets)
      exact .inl ⟨spelled_eq_none_of_stumbles begins stuck _,
        spelled_eq_none_of_stumbles begins stuckNew _⟩

theorem beginsIn_one (members : CharSet) : BeginsIn members (Reader.one members) :=
  fun _ => Reader.one_eq_none

theorem beginsIn_run (members : CharSet) (second : Reader) :
    BeginsIn members ((Reader.run members).andThen second) :=
  fun _ other => Reader.andThen_eq_none_of_first (Reader.run_eq_none other) second

/-- **A lead is read from both texts or from neither.** -/
theorem parallel_lead : lead.Parallel true Reworded Reworded := by
  have blanks : (Reader.run .blank).Parallel true Reworded Reworded :=
    parallel_run_outside (by decide +kernel)
  have last : (Reader.one (letterSet 'S')).Parallel true Reworded Reworded :=
    parallel_one (by decide +kernel)
  have guarded : guard.Parallel true Reworded Reworded := by
    refine .andThen (parallel_spelled (by decide +kernel) (beginsIn_run .blank _) ?_) blanks
    refine blanks.andThen (parallel_spelled (by decide +kernel) (beginsIn_run .blank _) ?_)
    exact blanks.andThen (parallel_spelled (by decide +kernel) (beginsIn_one _) last)
  refine parallel_spelled (by decide +kernel) (beginsIn_run .blank _) (blanks.andThen ?_)
  exact parallel_spelled (by decide +kernel) (beginsIn_run .blank _)
    (blanks.andThen guarded.optional)

/-! ### Names -/

/-- The keyword that a head begins with. -/
def createKeyword : Phrase :=
  ⟨"CREATE".toList, false, by decide, nofun⟩

/-- Whether no head begins in a stretch, whatever comes behind it. -/
def HeadFree (stretch : List Char) : Prop :=
  ∀ passed remaining, stretch = passed ++ remaining → remaining ≠ [] →
    ∀ rest, lead (remaining ++ rest) = none

theorem headFree_of_keepsOff {stretch : List Char}
    (keepsOff : createKeyword.KeepsOff false stretch) : HeadFree stretch := by
  intro passed remaining reads nonempty rest
  refine Option.eq_none_iff_forall_not_mem.2 ?_
  rintro ⟨front, behind⟩ read
  obtain ⟨further, _, begins, -⟩ := spelled_single_eq_some_iff.1
    (show Reader.spelled ("CREATE".toList.map CharSet.single) _ _ = some _ from read)
  exact keepsOff.not_begun nofun reads nonempty ⟨further, begins.symm⟩

theorem HeadFree.of_suffix {stretch remaining : List Char} (free : HeadFree stretch)
    (ends : remaining <:+ stretch) : HeadFree remaining := by
  obtain ⟨passed, rfl⟩ := ends
  intro further behind reads
  exact free (passed ++ further) behind (by rw [reads, List.append_assoc])

theorem HeadFree.along {stretch rest : List Char} (free : HeadFree stretch)
    (before : Option Char) :
    Along (fun before text => headEditor before text = none) before stretch rest :=
  fun passed remaining reads nonempty =>
    headEditor_eq_none_of_lead (free passed remaining reads nonempty rest)

theorem headFree_row {row : PhraseRule} (isRow : row ∈ optionalRows) :
    HeadFree row.phrase.letters ∧ HeadFree row.new.toList := by
  have keepsOff : ∀ row ∈ optionalRows, createKeyword.KeepsOff false row.phrase.letters ∧
      createKeyword.KeepsOff false row.new.toList := by
    decide
  exact (keepsOff row isRow).imp headFree_of_keepsOff headFree_of_keepsOff

/-- Whether, behind stretches without a head, a text goes on like the other. -/
def GoesOn (text out : List Char) : Prop :=
  ∃ gap other rest later, text = gap ++ rest ∧ out = other ++ later ∧ HeadFree gap ∧
    HeadFree other ∧ Reworded rest later

theorem Reworded.goesOn {text out : List Char} (reworded : Reworded text out) :
    GoesOn text out := by
  have free : HeadFree [] := fun _ _ reads nonempty =>
    absurd (List.append_eq_nil_iff.1 reads.symm).2 nonempty
  exact ⟨[], [], text, out, rfl, rfl, free, free, reworded⟩

/-- The first word of a phrase, and of what stands for it, is too long for `if`, and ends where it
ends in a text. -/
theorem firstWord_row : ∀ row ∈ optionalRows, ∀ stretch ∈ [row.phrase.letters, row.new.toList],
    3 ≤ (stretch.takeWhile isWordChar).length ∧
      (row.phrase.isWhole = true ∨ stretch.dropWhile isWordChar ≠ []) := by
  decide +kernel

/-- The first word of a stretch ends in it, or at its end. -/
theorem firstWord_append {stretch rest : List Char}
    (ends : isWordAt rest.head? = false ∨ stretch.dropWhile isWordChar ≠ []) :
    (stretch ++ rest).takeWhile isWordChar = stretch.takeWhile isWordChar ∧
      (stretch ++ rest).dropWhile isWordChar = stretch.dropWhile isWordChar ++ rest := by
  induction stretch with
  | nil =>
    have ended : isWordAt rest.head? = false := ends.resolve_right (not_not_intro rfl)
    cases rest with
    | nil => exact ⟨rfl, rfl⟩
    | cons c rest =>
      have outside : isWordChar c = false := ended
      simp [outside]
  | cons c stretch ih =>
    by_cases isWord : isWordChar c = true
    · simpa [isWord] using ih (by simpa [isWord] using ends)
    · simp [isWord]

/-- The first words of both texts are the same, or too long for `if`, and behind them the texts go
on alike. -/
theorem firstWord_of_reworded {text out : List Char} (reworded : Reworded text out) :
    (text.takeWhile isWordChar = out.takeWhile isWordChar ∨
      3 ≤ (text.takeWhile isWordChar).length ∧ 3 ≤ (out.takeWhile isWordChar).length) ∧
    GoesOn (text.dropWhile isWordChar) (out.dropWhile isWordChar) := by
  induction reworded with
  | done => exact ⟨.inl rfl, Reworded.done.goesOn⟩
  | @copy c rest out later ih =>
    by_cases isWord : isWordChar c = true
    · simp only [List.takeWhile_cons_of_pos isWord, List.dropWhile_cons_of_pos isWord,
        List.length_cons]
      refine ⟨ih.1.imp (fun same => by rw [same]) fun ⟨long, longNew⟩ => ?_, ih.2⟩
      exact ⟨by omega, by omega⟩
    · simp only [List.takeWhile_cons_of_neg isWord, List.dropWhile_cons_of_neg isWord]
      exact ⟨.inl trivial, (Reworded.copy later).goesOn⟩
  | @swap row rest out isRow ends later =>
    -- What is left of the phrase behind its first word is a gap without a head.
    obtain ⟨long, ended⟩ := firstWord_row row isRow row.phrase.letters (by simp)
    obtain ⟨longNew, endedNew⟩ := firstWord_row row isRow row.new.toList (by simp)
    obtain ⟨front, back⟩ := firstWord_append (ended.imp_left fun isWhole => (ends isWhole).1)
    obtain ⟨frontNew, backNew⟩ :=
      firstWord_append (endedNew.imp_left fun isWhole => (ends isWhole).2)
    obtain ⟨free, freeNew⟩ := headFree_row isRow
    rw [front, back, frontNew, backNew]
    exact ⟨.inr ⟨long, longNew⟩, _, _, rest, out, rfl, rfl,
      free.of_suffix (List.dropWhile_suffix isWordChar),
      freeNew.of_suffix (List.dropWhile_suffix isWordChar), later⟩

theorem isName_of_long {word : List Char} (long : 3 ≤ word.length) :
    ¬(word = [] ∨ isIf word = true) := by
  rintro (rfl | named)
  · simp at long
  · unfold isIf at named
    split at named
    · simp at long
    · simp at named

/-- A word is read from both texts or from neither. -/
theorem parallel_word : word.Parallel false Reworded GoesOn := by
  intro text out reworded
  obtain ⟨alike, behind⟩ := firstWord_of_reworded reworded
  have sameKind : (text.takeWhile isWordChar = [] ∨ isIf (text.takeWhile isWordChar) = true) ↔
      (out.takeWhile isWordChar = [] ∨ isIf (out.takeWhile isWordChar) = true) := by
    rcases alike with same | ⟨long, longNew⟩
    · rw [same]
    · exact iff_of_false (isName_of_long long) (isName_of_long longNew)
  by_cases noName : text.takeWhile isWordChar = [] ∨ isIf (text.takeWhile isWordChar) = true
  · exact .inl ⟨if_pos noName, if_pos (sameKind.1 noName)⟩
  · exact .inr ⟨_, _, _, _, if_neg noName, if_neg (mt sameKind.2 noName), nofun, behind⟩

/-- A stretch that phrases, and what stands for them, do not end is read from both texts or from
neither. -/
theorem parallel_run_inside {members : CharSet}
    (inside : ∀ row ∈ optionalRows,
      (row.phrase.letters ++ row.new.toList).all members.mem = true) :
    (Reader.run members).Parallel false Reworded Reworded := by
  refine Reader.parallel_run fun text out reworded => ?_
  have alike : (text.takeWhile members.mem = [] ↔ out.takeWhile members.mem = []) ∧
      Reworded (text.dropWhile members.mem) (out.dropWhile members.mem) := by
    induction reworded with
    | done => exact ⟨Iff.rfl, .done⟩
    | @copy c rest out later ih =>
      by_cases member : members.mem c = true
      · simpa [member] using ih.2
      · simpa [member] using Reworded.copy later
    | @swap row rest out isRow ends later ih =>
      obtain ⟨old, new⟩ :=
        List.forall_mem_append.1 (List.all_eq_true.1 (inside row isRow))
      rw [List.takeWhile_append_of_pos old, List.takeWhile_append_of_pos new,
        List.dropWhile_append_of_pos old, List.dropWhile_append_of_pos new]
      refine ⟨iff_of_false ?_ ?_, ih.2⟩
      · exact List.append_ne_nil_of_left_ne_nil row.phrase.letters_ne_nil _
      · exact List.append_ne_nil_of_left_ne_nil (new_ne_nil row isRow) _
  exact ⟨alike.1, nofun, alike.2⟩

theorem outside_delimiters : ∀ pair ∈ delimiters,
    Outside (.single pair.1) ∧ Outside (.single pair.2) ∧
      ∀ row ∈ optionalRows,
        (row.phrase.letters ++ row.new.toList).all (CharSet.compl (.single pair.2)).mem = true := by
  decide +kernel

theorem parallel_quoted {opening closing : Char} (pair : (opening, closing) ∈ delimiters) :
    (quoted opening closing).Parallel false Reworded GoesOn := by
  obtain ⟨opens, closes, inside⟩ := outside_delimiters _ pair
  have first := (parallel_one opens).mono fun _ _ => id
  have last := (parallel_one closes).mono fun _ _ => Reworded.goesOn
  exact first.andThen ((parallel_run_inside inside).andThen last)

/-- **A name is read from both texts or from neither.** -/
theorem parallel_tableName : tableName.Parallel false Reworded GoesOn :=
  parallel_word.either ((parallel_quoted (by simp [delimiters])).either
    ((parallel_quoted (by simp [delimiters])).either (parallel_quoted (by simp [delimiters]))))

/-! ### The guard rule on both texts -/

/-- **The guard rule finds a head in both texts or in neither**, and its lead is the same. -/
theorem headEditor_of_reworded {text out : List Char} (reworded : Reworded text out)
    (before other : Option Char) :
    (headEditor before text = none ∧ headEditor other out = none) ∨
      ∃ front name label rest later, headEditor before text = some ⟨front, newLead, name⟩ ∧
        headEditor other out = some ⟨front, newLead, label⟩ ∧ front ≠ [] ∧
        text = front ++ name ++ rest ∧ out = front ++ label ++ later ∧ GoesOn rest later := by
  rcases parallel_lead text out reworded with
    ⟨nothing, neither⟩ | ⟨front, behind, _, left, read, again, same, further⟩
  · exact .inl ⟨headEditor_eq_none_of_lead nothing, headEditor_eq_none_of_lead neither⟩
  · obtain rfl := same rfl
    rcases parallel_tableName behind left further with
      ⟨nothing, neither⟩ | ⟨name, rest, label, later, named, namedToo, -, goesOn⟩
    · exact .inl (by simp [headEditor, rewriteHeads, read, again, nothing, neither])
    · have begins : front ≠ [] := by
        rintro rfl
        simpa using (head_of_lead read).2
      refine .inr ⟨front, name, label, rest, later, ?_, ?_, begins, ?_, ?_, goesOn⟩
      · exact headEditor_eq_some_iff.2 ⟨front, behind, name, rest, read, named, rfl⟩
      · exact headEditor_eq_some_iff.2 ⟨front, left, label, later, again, namedToo, rfl⟩
      · rw [List.append_assoc, ← splits_tableName _ _ _ named, ← splits_lead _ _ _ read]
      · rw [List.append_assoc, ← splits_tableName _ _ _ namedToo, ← splits_lead _ _ _ again]

/-- **Side by side, the guard rule has as many hits in one wording as in the other.** -/
theorem countP_isHit_of_reworded (size : Nat) :
    ∀ {text out : List Char}, text.length < size → Reworded text out →
      ∀ {before other : Option Char} {left right : List Char} {edits others : List Edit},
        Pass headEditor before text left edits → Pass headEditor other out right others →
        edits.countP Edit.isHit = others.countP Edit.isHit := by
  induction size with
  | zero => intro text _ short; omega
  | succ size ih =>
    intro text out short reworded before other left right edits others pass again
    cases reworded with
    | done =>
      have nothing (before : Option Char) : headEditor before [] = none :=
        headEditor_eq_none_of_lead rfl
      obtain ⟨-, rfl⟩ := pass.unique (.done (nothing _))
      obtain ⟨-, rfl⟩ := again.unique (.done (nothing _))
      rfl
    | @copy c rest out later =>
      have whole : Reworded (c :: rest) (c :: out) := .copy later
      rcases headEditor_of_reworded whole before other with
        ⟨nothing, neither⟩ |
          ⟨front, name, label, _, _, made, madeToo, begins, reads, readsToo, goesOn⟩
      · cases pass with
        | edit made => simp [nothing] at made
        | copy _ further =>
          cases again with
          | edit made => simp [neither] at made
          | copy _ furtherToo => exact ih (Nat.lt_of_succ_lt_succ short) later further furtherToo
      · -- Both walks go on behind the name, and pass over what is left of a phrase there.
        obtain ⟨_, edits, -, rfl, further⟩ := pass.behind_edit made reads
        obtain ⟨_, others, -, rfl, furtherToo⟩ := again.behind_edit madeToo readsToo
        obtain ⟨gap, _, rest, _, rfl, rfl, free, freeToo, alike⟩ := goesOn
        obtain ⟨_, -, further⟩ := Pass.behind_along (free.along _) further
        obtain ⟨_, -, furtherToo⟩ := Pass.behind_along (freeToo.along _) furtherToo
        have shorter : rest.length < size := by
          have := List.length_pos_iff.2 begins
          rw [reads] at short
          simp only [List.length_append] at short
          omega
        have sameHit : Edit.isHit ⟨front, newLead, name⟩ = Edit.isHit ⟨front, newLead, label⟩ := by
          rw [Bool.eq_iff_iff, ← not_iff_not, Bool.not_eq_true, Bool.not_eq_true,
            Edit.isHit_eq_false_iff, Edit.isHit_eq_false_iff]
        rw [List.countP_cons, List.countP_cons, sameHit, ih shorter alike further furtherToo]
    | @swap row rest out isRow ends later =>
      obtain ⟨free, freeNew⟩ := headFree_row isRow
      obtain ⟨_, -, further⟩ := Pass.behind_along (free.along _) pass
      obtain ⟨_, -, furtherToo⟩ := Pass.behind_along (freeNew.along _) again
      have shorter : rest.length < size := by
        have := List.length_pos_iff.2 row.phrase.letters_ne_nil
        simp only [List.length_append] at short
        omega
      exact ih shorter later further furtherToo

/-- **A rule that may be left out keeps the hits of the guard rule.** -/
theorem hits_createTableGuard_apply_rule {row : PhraseRule} (isRow : row ∈ optionalRows)
    (text : List Char) : (createTableGuard.apply (row.rule.apply text).out).hits =
      (createTableGuard.apply text).hits := by
  obtain ⟨_, pass, hits, -⟩ := createTableGuard_editsBy.pass text
  obtain ⟨_, again, hitsNew, -⟩ := createTableGuard_editsBy.pass (row.rule.apply text).out
  rw [hits, hitsNew]
  exact (countP_isHit_of_reworded (text.length + 1) (Nat.lt_succ_self _)
    (reworded_apply_rule isRow text) pass again).symm

end DumpConverter.Builtin
