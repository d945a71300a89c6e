/-
**The grammar of heads.**

What the guard rule takes for the head of a table definition, written down without a pattern: the
two keywords, a guard if there is one, and a name, with white space between them. A text begins with
a head in one way at most, and the pattern matches there and nowhere else.

* `guard_eq_some_iff`, `lead_text_append`, `tableName_eq_some_iff_isName`: the readers, by the
  grammar;
* `Guard.append_inj`, `Lead.append_inj`: keywords and white space are told apart in one way;
* `BeginsWith.unique`: a text begins with one head;
* `createTableGuard_reads_heads`: the pattern matches where a head begins, and reads all of it.
-/

import DumpConverter.Proofs.Builtin.Pragma
import DumpConverter.Proofs.Builtin.TableHead

namespace DumpConverter.Builtin

open Matcher Unicode

/-! ### The grammar -/

/-- A stretch of white space. -/
abbrev Blanks := {stretch : List Char // stretch ≠ [] ∧ ∀ c ∈ stretch, isBlank c = true}

/-- Whether a text begins with something else than white space, if it has anything. -/
def NoBlankAhead (text : List Char) : Prop :=
  ∀ c, text.head? = some c → isBlank c = false

/-- The code points of a letter in every case. -/
def casesOf (letter : Char) : List Nat :=
  letter.toNat :: caseVariants letter.toNat

/-- Whether letters are written down, each in some case. -/
def InAnyCase (letters : String) (written : List Char) : Prop :=
  List.Forall₂ (fun letter c => c.toNat ∈ casesOf letter) letters.toList written

/-- A keyword, each letter in some case. -/
abbrev Keyword (letters : String) := {written : List Char // InAnyCase letters written}

/-- A guard, from its first letter to its last. -/
structure Guard where
  ifWord : Keyword "IF"
  afterIf : Blanks
  notWord : Keyword "NOT"
  afterNot : Blanks
  existsWord : Keyword "EXISTS"

/-- The guard as it is written. -/
def Guard.text (guard : Guard) : List Char :=
  guard.ifWord.1 ++ (guard.afterIf.1 ++ (guard.notWord.1 ++
    (guard.afterNot.1 ++ guard.existsWord.1)))

/-- Whether no guard stands at the beginning of a text. -/
def NoGuardAhead (text : List Char) : Prop :=
  ∀ (guard : Guard) (behind : List Char), text ≠ guard.text ++ behind

/-- A guard and the white space behind it as they are written, if they are there. -/
def guardedText : Option (Guard × Blanks) → List Char
  | none => []
  | some (guard, blanks) => guard.text ++ blanks.1

/-- What stands in front of a name: two keywords, and behind them a guard or none. -/
structure Lead where
  afterCreate : Blanks
  afterTable : Blanks
  guarded : Option (Guard × Blanks)

/-- The lead as it is written. -/
def Lead.text (lead : Lead) : List Char :=
  "CREATE".toList ++ (lead.afterCreate.1 ++ ("TABLE".toList ++
    (lead.afterTable.1 ++ guardedText lead.guarded)))

/-- A readable name, in front of `rest`: a word up to its end that is not `if` in any case, or
anything but the closing delimiter between two delimiters. -/
inductive IsName (rest : List Char) : List Char → Prop
  | word {name : List Char} (nonempty : name ≠ []) (all : ∀ c ∈ name, isWordChar c = true)
      (ends : isWordAt rest.head? = false) (notIf : ¬ InAnyCase "IF" name) : IsName rest name
  | quoted {opening closing : Char} {inner : List Char}
      (delimits : (opening, closing) ∈ delimiters) (nonempty : inner ≠ [])
      (outside : closing ∉ inner) : IsName rest (opening :: (inner ++ [closing]))

/-- A text begins with a head: a lead, a readable name behind it, and then `rest`. -/
structure BeginsWith (text : List Char) (lead : Lead) (name rest : List Char) : Prop where
  reads : text = lead.text ++ (name ++ rest)
  named : IsName rest name

/-! ### White space -/

theorem run_blank_eq_some_iff {text taken rest : List Char} :
    Reader.run .blank text = some (taken, rest) ↔
      ∃ blanks : Blanks, text = blanks.1 ++ rest ∧ taken = blanks.1 ∧ NoBlankAhead rest := by
  rw [Reader.run_eq_some_iff_append]
  constructor
  · rintro ⟨rfl, nonempty, all, ends⟩
    exact ⟨⟨taken, nonempty, all⟩, rfl, rfl, ends⟩
  · rintro ⟨⟨_, nonempty, all⟩, rfl, rfl, ends⟩
    exact ⟨rfl, nonempty, all, ends⟩

/-- White space comes to an end in one place. -/
theorem blanks_append_inj {one two : Blanks} {rest other : List Char}
    (same : one.1 ++ rest = two.1 ++ other) (ends : NoBlankAhead rest)
    (endsToo : NoBlankAhead other) : one = two ∧ rest = other := by
  have read : Reader.run .blank (one.1 ++ rest) = some (one.1, rest) :=
    run_blank_eq_some_iff.2 ⟨one, rfl, rfl, ends⟩
  have again : Reader.run .blank (one.1 ++ rest) = some (two.1, other) :=
    run_blank_eq_some_iff.2 ⟨two, same, rfl, endsToo⟩
  obtain ⟨sameBlanks, rfl⟩ : one.1 = two.1 ∧ rest = other := by simpa [read] using again
  exact ⟨Subtype.ext sameBlanks, rfl⟩

theorem run_blank_andThen_eq_some_iff {reader : Reader} {text taken rest : List Char} :
    (Reader.run .blank).andThen reader text = some (taken, rest) ↔
      ∃ (blanks : Blanks) (behind further : List Char), text = blanks.1 ++ behind ∧
        NoBlankAhead behind ∧ reader behind = some (further, rest) ∧
        taken = blanks.1 ++ further := by
  rw [Reader.andThen_eq_some_iff]
  constructor
  · rintro ⟨_, behind, further, gap, read, rfl⟩
    obtain ⟨blanks, rfl, rfl, ends⟩ := run_blank_eq_some_iff.1 gap
    exact ⟨blanks, behind, further, rfl, ends, read, rfl⟩
  · rintro ⟨blanks, behind, further, rfl, ends, read, rfl⟩
    exact ⟨_, _, _, run_blank_eq_some_iff.2 ⟨blanks, rfl, rfl, ends⟩, read, rfl⟩

/-! ### Keywords -/

/-- What holds of the letters in every case holds of what is written. -/
theorem InAnyCase.all {letters : String} {written : List Char}
    (spelled : InAnyCase letters written) (test : Nat → Bool)
    (passes : (letters.toList.all fun letter => (casesOf letter).all test) = true) :
    ∀ c ∈ written, test c.toNat = true := by
  unfold InAnyCase at spelled
  generalize letters.toList = asked at spelled passes
  induction spelled with
  | nil => exact List.forall_mem_nil _
  | cons variant _ ih =>
    obtain ⟨first, others⟩ := Bool.and_eq_true_iff.1 passes
    exact List.forall_mem_cons.2 ⟨List.all_eq_true.1 first _ variant, ih others⟩

theorem spelled_anyCase_eq_some_iff {letters : String} {reader : Reader}
    {text taken rest : List Char} :
    Reader.spelled (anyCase letters) reader text = some (taken, rest) ↔
      ∃ (keyword : Keyword letters) (behind further : List Char), text = keyword.1 ++ behind ∧
        reader behind = some (further, rest) ∧ taken = keyword.1 ++ further := by
  have same (written : List Char) :
      List.Forall₂ (fun members c => CharSet.mem members c = true) (anyCase letters) written ↔
        InAnyCase letters written := by
    simp only [anyCase, List.forall₂_map_left_iff, InAnyCase, casesOf, CharSet.mem, letterSet,
      contains_ofCodes, List.contains_iff_mem]
  simp only [Reader.spelled_eq_some_iff, same, Subtype.exists, exists_and_left, exists_prop]

theorem keyword_append_inj {letters : String} {one two : Keyword letters}
    {rest other : List Char} (same : one.1 ++ rest = two.1 ++ other) :
    one = two ∧ rest = other := by
  have sameLength : one.1.length = two.1.length := one.2.length_eq.symm.trans two.2.length_eq
  obtain ⟨sameLetters, rfl⟩ := List.append_inj same sameLength
  exact ⟨Subtype.ext sameLetters, rfl⟩

/-- White space in front of a keyword ends there. -/
theorem noBlankAhead_keyword {letters : String} (nonempty : letters.toList ≠ [])
    (visible : (letters.toList.all fun letter => (casesOf letter).all fun code =>
      !covers blankRanges code) = true) (keyword : Keyword letters) (rest : List Char) :
    NoBlankAhead (keyword.1 ++ rest) := by
  obtain ⟨written, spelled⟩ := keyword
  cases written with
  | nil => exact absurd (List.forall₂_nil_right_iff.1 spelled) nonempty
  | cons d written =>
    rintro c head
    obtain rfl : d = c := Option.some.inj head
    have notBlank := spelled.all _ visible d List.mem_cons_self
    simpa [isBlank] using notBlank

/-! ### Guards -/

/-- The last letter of a guard is one more letter of its last keyword. -/
theorem spelled_exists_eq : Reader.spelled (anyCase "EXIST") (Reader.one (letterSet 'S')) =
    Reader.spelled (anyCase "EXISTS") Reader.nothing := by
  have last : Reader.one (letterSet 'S') = Reader.spelled [letterSet 'S'] Reader.nothing := by
    funext text
    cases read : Reader.one (letterSet 'S') text <;>
      simp [Reader.spelled, Reader.andThen, Reader.nothing, read]
  rw [last, Reader.spelled, Reader.spelled, Reader.spelled, ← List.foldr_append]
  rfl

theorem guardWords_eq_some_iff {text taken rest : List Char} :
    guardWords text = some (taken, rest) ↔
      ∃ guard : Guard, text = guard.text ++ rest ∧ taken = guard.text := by
  rw [guardWords, spelled_exists_eq]
  constructor
  · intro read
    obtain ⟨ifWord, _, _, rfl, behindIf, rfl⟩ := spelled_anyCase_eq_some_iff.1 read
    obtain ⟨afterIf, _, _, rfl, -, atNot, rfl⟩ := run_blank_andThen_eq_some_iff.1 behindIf
    obtain ⟨notWord, _, _, rfl, behindNot, rfl⟩ := spelled_anyCase_eq_some_iff.1 atNot
    obtain ⟨afterNot, _, _, rfl, -, atExists, rfl⟩ := run_blank_andThen_eq_some_iff.1 behindNot
    obtain ⟨existsWord, _, _, rfl, last, rfl⟩ := spelled_anyCase_eq_some_iff.1 atExists
    obtain ⟨rfl, rfl⟩ : [] = _ ∧ _ = rest := by simpa [Reader.nothing] using last
    exact ⟨⟨ifWord, afterIf, notWord, afterNot, existsWord⟩, by simp [Guard.text],
      by simp [Guard.text]⟩
  · rintro ⟨⟨ifWord, afterIf, notWord, afterNot, existsWord⟩, rfl, rfl⟩
    have last : Reader.nothing rest = some ([], rest) := rfl
    have atExists := spelled_anyCase_eq_some_iff.2 ⟨existsWord, _, _, rfl, last, rfl⟩
    have behindNot := run_blank_andThen_eq_some_iff.2 ⟨afterNot, _, _, rfl,
      noBlankAhead_keyword (by decide) (by decide) existsWord rest, atExists, rfl⟩
    have atNot := spelled_anyCase_eq_some_iff.2 ⟨notWord, _, _, rfl, behindNot, rfl⟩
    have behindIf := run_blank_andThen_eq_some_iff.2 ⟨afterIf, _, _, rfl,
      noBlankAhead_keyword (by decide) (by decide) notWord _, atNot, rfl⟩
    have atIf := spelled_anyCase_eq_some_iff.2 ⟨ifWord, _, _, rfl, behindIf, rfl⟩
    simpa [Guard.text] using atIf

/-- **The reader of guards reads a guard and all the white space behind it.** -/
theorem guard_eq_some_iff {text taken rest : List Char} :
    guard text = some (taken, rest) ↔ ∃ (guard : Guard) (blanks : Blanks),
      text = guard.text ++ (blanks.1 ++ rest) ∧ taken = guard.text ++ blanks.1 ∧
        NoBlankAhead rest := by
  rw [guard_eq, Reader.andThen_eq_some_iff]
  constructor
  · rintro ⟨_, _, _, read, gap, rfl⟩
    obtain ⟨guard, rfl, rfl⟩ := guardWords_eq_some_iff.1 read
    obtain ⟨blanks, rfl, rfl, ends⟩ := run_blank_eq_some_iff.1 gap
    exact ⟨guard, blanks, rfl, rfl, ends⟩
  · rintro ⟨guard, blanks, rfl, rfl, ends⟩
    exact ⟨_, _, _, guardWords_eq_some_iff.2 ⟨guard, rfl, rfl⟩,
      run_blank_eq_some_iff.2 ⟨blanks, rfl, rfl, ends⟩, rfl⟩

theorem Guard.noBlankAhead (guard : Guard) (rest : List Char) :
    NoBlankAhead (guard.text ++ rest) := by
  rw [Guard.text, List.append_assoc]
  exact noBlankAhead_keyword (by decide) (by decide) guard.ifWord _

/-- **A text begins with one guard.** -/
theorem Guard.append_inj {one two : Guard} {rest other : List Char}
    (same : one.text ++ rest = two.text ++ other) : one = two ∧ rest = other := by
  obtain ⟨ifWord, afterIf, notWord, afterNot, existsWord⟩ := one
  obtain ⟨ifWord', afterIf', notWord', afterNot', existsWord'⟩ := two
  simp only [Guard.text, List.append_assoc] at same
  obtain ⟨rfl, behindIf⟩ := keyword_append_inj same
  obtain ⟨rfl, atNot⟩ := blanks_append_inj behindIf
    (noBlankAhead_keyword (by decide) (by decide) notWord _)
    (noBlankAhead_keyword (by decide) (by decide) notWord' _)
  obtain ⟨rfl, behindNot⟩ := keyword_append_inj atNot
  obtain ⟨rfl, atExists⟩ := blanks_append_inj behindNot
    (noBlankAhead_keyword (by decide) (by decide) existsWord _)
    (noBlankAhead_keyword (by decide) (by decide) existsWord' _)
  obtain ⟨rfl, behind⟩ := keyword_append_inj atExists
  exact ⟨rfl, behind⟩

/-! ### Names -/

theorem isIf_eq_true_iff_inAnyCase {word : List Char} :
    isIf word = true ↔ InAnyCase "IF" word := by
  have asked : InAnyCase "IF" word ↔
      List.Forall₂ (fun letter c => c.toNat ∈ casesOf letter) ['I', 'F'] word := Iff.rfl
  have isI : casesOf 'I' = ['I'.toNat, 'i'.toNat] := by decide
  have isF : casesOf 'F' = ['F'.toNat, 'f'.toNat] := by decide
  rw [asked, isIf_eq_true_iff]
  simp only [List.forall₂_cons_left_iff, List.forall₂_nil_left_iff, isI, isF, List.mem_cons,
    List.not_mem_nil, or_false, Char.toNat_inj, Bool.or_eq_true, beq_iff_eq]
  constructor
  · rintro ⟨c, d, rfl, first, second⟩
    exact ⟨c, _, first, ⟨d, _, second, rfl, rfl⟩, rfl⟩
  · rintro ⟨c, _, first, ⟨d, _, second, rfl, rfl⟩, rfl⟩
    exact ⟨c, d, rfl, first, second⟩

/-- **The reader of names reads readable names.** -/
theorem tableName_eq_some_iff_isName {text name rest : List Char} :
    tableName text = some (name, rest) ↔ text = name ++ rest ∧ IsName rest name := by
  rw [tableName_eq_some_iff]
  constructor
  · rintro (found | ⟨opening, closing, delimits, found⟩)
    · obtain ⟨rfl, nonempty, notIf, all, ends⟩ := word_eq_some_iff.1 found
      refine ⟨rfl, .word nonempty all ends fun named => ?_⟩
      exact Bool.false_ne_true (notIf.symm.trans (isIf_eq_true_iff_inAnyCase.2 named))
    · obtain ⟨inner, nonempty, outside, rfl, rfl⟩ := quoted_eq_some_iff.1 found
      exact ⟨by simp, .quoted delimits nonempty outside⟩
  · rintro ⟨rfl, named⟩
    cases named with
    | word nonempty all ends notIf =>
      refine .inl (word_eq_some_iff.2 ⟨rfl, nonempty, ?_, all, ends⟩)
      exact Bool.eq_false_iff.2 (mt isIf_eq_true_iff_inAnyCase.1 notIf)
    | quoted delimits nonempty outside =>
      exact .inr ⟨_, _, delimits, quoted_eq_some_iff.2 ⟨_, nonempty, outside, by simp, rfl⟩⟩

namespace IsName

variable {name rest : List Char}

theorem tableName_eq (named : IsName rest name) : tableName (name ++ rest) = some (name, rest) :=
  tableName_eq_some_iff_isName.2 ⟨rfl, named⟩

theorem noBlankAhead (named : IsName rest name) : NoBlankAhead (name ++ rest) := by
  intro c head
  refine Bool.eq_false_iff.2 fun blank => ?_
  have nothing := tableName_eq_none_of_isBlank head blank
  simp [named.tableName_eq] at nothing

/-- A name stays one, whatever comes behind it, if that begins alike. -/
theorem congr {out : List Char} (named : IsName rest name) (same : out.head? = rest.head?) :
    IsName out name := by
  cases named with
  | word nonempty all ends notIf => exact .word nonempty all (by rwa [same]) notIf
  | quoted delimits nonempty outside => exact .quoted delimits nonempty outside

/-- No name is a guard, even if something else than white space comes behind the guard. -/
theorem noGuardAhead (named : IsName rest name) : NoGuardAhead (name ++ rest) := by
  intro guard behind same
  have read := guardWords_eq_some_iff.2 ⟨guard, same, rfl⟩
  have nothing := tableName_eq_none_of_guardWords (Option.ne_none_iff_exists'.2 ⟨_, read⟩)
  simp [named.tableName_eq] at nothing

end IsName

/-! ### Leads -/

/-- Whether a lead ends in front of a text: no more white space comes, and no guard that is still
missing. -/
structure Lead.EndsBefore (lead : Lead) (tail : List Char) : Prop where
  visible : NoBlankAhead tail
  complete : lead.guarded = none → NoGuardAhead tail

/-- Behind a lead, a name comes next. -/
theorem IsName.endsBefore {name rest : List Char} (named : IsName rest name) (lead : Lead) :
    lead.EndsBefore (name ++ rest) :=
  ⟨named.noBlankAhead, fun _ => named.noGuardAhead⟩

/-- The parts of a lead, in front of a text. -/
theorem Lead.text_assoc (lead : Lead) (tail : List Char) : lead.text ++ tail =
    "CREATE".toList ++ (lead.afterCreate.1 ++ ("TABLE".toList ++
      (lead.afterTable.1 ++ (guardedText lead.guarded ++ tail)))) := by
  have parts : lead.text = "CREATE".toList ++ (lead.afterCreate.1 ++ ("TABLE".toList ++
      (lead.afterTable.1 ++ guardedText lead.guarded))) := rfl
  simp only [parts, List.append_assoc]

theorem noBlankAhead_table (behind : List Char) : NoBlankAhead ("TABLE".toList ++ behind) := by
  rintro c head
  obtain rfl : 'T' = c := Option.some.inj head
  decide

theorem Lead.EndsBefore.guardedText {lead : Lead} {tail : List Char}
    (ends : lead.EndsBefore tail) : NoBlankAhead (guardedText lead.guarded ++ tail) := by
  cases lead.guarded with
  | none => exact ends.visible
  | some pair =>
    rw [Builtin.guardedText, List.append_assoc]
    exact pair.1.noBlankAhead _

/-- What is read as a lead is one. -/
theorem exists_lead_of_lead {text front behind : List Char}
    (read : lead text = some (front, behind)) :
    ∃ lead : Lead, text = lead.text ++ behind ∧ front = lead.text := by
  obtain ⟨_, _, rfl, behindCreate, rfl⟩ := spelled_single_eq_some_iff.1 read
  obtain ⟨afterCreate, _, _, rfl, -, atTable, rfl⟩ := run_blank_andThen_eq_some_iff.1 behindCreate
  obtain ⟨_, _, rfl, behindTable, rfl⟩ := spelled_single_eq_some_iff.1 atTable
  obtain ⟨afterTable, _, _, rfl, -, guarded, rfl⟩ := run_blank_andThen_eq_some_iff.1 behindTable
  rcases Option.or_eq_some_iff.1 guarded with found | ⟨-, nothing⟩
  · obtain ⟨guard, blanks, rfl, rfl, -⟩ := guard_eq_some_iff.1 found
    exact ⟨⟨afterCreate, afterTable, some (guard, blanks)⟩,
      by simp only [Lead.text_assoc, guardedText, List.append_assoc], rfl⟩
  · obtain ⟨rfl, rfl⟩ : [] = _ ∧ _ = behind := by simpa using nothing
    exact ⟨⟨afterCreate, afterTable, none⟩,
      by simp only [Lead.text_assoc, guardedText, List.nil_append], rfl⟩

/-- **A lead is read up to where it ends.** -/
theorem lead_text_append {lead : Lead} {tail : List Char} (ends : lead.EndsBefore tail) :
    Builtin.lead (lead.text ++ tail) = some (lead.text, tail) := by
  have optional : Reader.optional guard (guardedText lead.guarded ++ tail) =
      some (guardedText lead.guarded, tail) := by
    cases found : lead.guarded with
    | none =>
      have unguarded : guard tail = none := by
        refine Option.eq_none_iff_forall_not_mem.2 fun ⟨taken, behind⟩ read => ?_
        obtain ⟨guard, blanks, same, -, -⟩ := guard_eq_some_iff.1 read
        exact ends.complete found guard _ same
      rw [guardedText, List.nil_append, Reader.optional, unguarded, Option.none_or]
    | some pair =>
      obtain ⟨guard, blanks⟩ := pair
      rw [guardedText, List.append_assoc, Reader.optional,
        guard_eq_some_iff.2 ⟨guard, blanks, rfl, rfl, ends.visible⟩, Option.some_or]
  have behindTable := run_blank_andThen_eq_some_iff.2
    ⟨lead.afterTable, _, _, rfl, ends.guardedText, optional, rfl⟩
  have atTable : Reader.spelled (exactly "TABLE") _ ("TABLE".toList ++ _) = _ :=
    spelled_single_eq_some_iff.2 ⟨_, _, rfl, behindTable, rfl⟩
  have behindCreate := run_blank_andThen_eq_some_iff.2
    ⟨lead.afterCreate, _, _, rfl, noBlankAhead_table _, atTable, rfl⟩
  have atCreate : Builtin.lead ("CREATE".toList ++ _) = _ :=
    spelled_single_eq_some_iff.2 ⟨_, _, rfl, behindCreate, rfl⟩
  rwa [← lead.text_assoc] at atCreate

/-- **A text begins with one lead**, if the lead ends there. -/
theorem Lead.append_inj {one two : Lead} {tail other : List Char} (ends : one.EndsBefore tail)
    (endsToo : two.EndsBefore other) (same : one.text ++ tail = two.text ++ other) :
    one = two ∧ tail = other := by
  have visible := ends.guardedText
  have visibleToo := endsToo.guardedText
  obtain ⟨afterCreate, afterTable, guarded⟩ := one
  obtain ⟨afterCreate', afterTable', guarded'⟩ := two
  rw [Lead.text_assoc, Lead.text_assoc] at same
  obtain ⟨rfl, atTable⟩ := blanks_append_inj (List.append_cancel_left same)
    (noBlankAhead_table _) (noBlankAhead_table _)
  obtain ⟨rfl, behindTable⟩ :=
    blanks_append_inj (List.append_cancel_left atTable) visible visibleToo
  rcases guarded with _ | ⟨guard, blanks⟩ <;> rcases guarded' with _ | ⟨guard', blanks'⟩ <;>
    simp only [Builtin.guardedText, List.nil_append, List.append_assoc] at behindTable
  · exact ⟨rfl, behindTable⟩
  · exact absurd behindTable (ends.complete rfl guard' _)
  · exact absurd behindTable.symm (endsToo.complete rfl guard _)
  · obtain ⟨rfl, gap⟩ := Guard.append_inj behindTable
    obtain ⟨rfl, behind⟩ := blanks_append_inj gap ends.visible endsToo.visible
    exact ⟨rfl, behind⟩

/-! ### The lead that is written -/

/-- One blank. -/
def singleBlank : Blanks :=
  ⟨[' '], List.cons_ne_nil _ _, List.forall_mem_singleton.2 (by decide)⟩

/-- A keyword as it stands. -/
def plainKeyword (letters : String) : Keyword letters :=
  ⟨letters.toList, List.forall₂_same.2 fun _ _ => List.mem_cons_self⟩

/-- The lead that the guard rule writes. -/
def plainLead : Lead where
  afterCreate := singleBlank
  afterTable := singleBlank
  guarded := some (⟨plainKeyword "IF", singleBlank, plainKeyword "NOT", singleBlank,
    plainKeyword "EXISTS"⟩, singleBlank)

theorem text_plainLead : plainLead.text = newLead :=
  rfl

/-! ### Heads -/

/-- **A text begins with one head.** -/
theorem BeginsWith.unique {text name rest other behind : List Char} {lead otherLead : Lead}
    (head : BeginsWith text lead name rest) (again : BeginsWith text otherLead other behind) :
    otherLead = lead ∧ other = name ∧ behind = rest := by
  obtain ⟨sameLead, same⟩ := Lead.append_inj (again.named.endsBefore otherLead)
    (head.named.endsBefore lead) (again.reads.symm.trans head.reads)
  have names : some (other, behind) = some (name, rest) := by
    rw [← again.named.tableName_eq, ← head.named.tableName_eq, same]
  obtain ⟨sameName, sameRest⟩ : other = name ∧ behind = rest := by simpa using names
  exact ⟨sameLead, sameName, sameRest⟩

/-- What comes behind the lead and the name of a head is the rest. -/
theorem BeginsWith.rest_eq {lead : Lead} {name rest behind : List Char}
    (head : BeginsWith (lead.text ++ name ++ behind) lead name rest) : behind = rest := by
  have reads := head.reads
  rw [List.append_assoc] at reads
  exact List.append_cancel_left (List.append_cancel_left reads)

/-- The edits of the guard rule are the heads of the grammar. -/
theorem headEditor_eq_some_iff_beginsWith {before : Option Char} {text : List Char} {edit : Edit} :
    headEditor before text = some edit ↔
      ∃ lead name rest, BeginsWith text lead name rest ∧ edit = ⟨lead.text, newLead, name⟩ := by
  rw [headEditor_eq_some_iff]
  constructor
  · rintro ⟨_, behind, name, rest, read, named, rfl⟩
    obtain ⟨lead, rfl, rfl⟩ := exists_lead_of_lead read
    obtain ⟨rfl, isName⟩ := tableName_eq_some_iff_isName.1 named
    exact ⟨lead, name, rest, ⟨rfl, isName⟩, rfl⟩
  · rintro ⟨lead, name, rest, ⟨rfl, named⟩, rfl⟩
    exact ⟨_, _, name, rest, lead_text_append (named.endsBefore lead), named.tableName_eq, rfl⟩

/-- Where a match begins, so does a head, and the match is its lead and its name. -/
theorem matchAt?_table_cases (text : List Char) (place : Nat) :
    let match? := matchAt? createTableGuard.pattern.root text place
    (match? = none ∧ ∀ lead name rest, ¬ BeginsWith (text.drop place) lead name rest) ∨
      ∃ found lead, match? = some found ∧
        BeginsWith (text.drop place) lead (tableOf found) found.rest ∧
        found.whole = lead.text ++ tableOf found := by
  rcases createTableGuard_editsBy.matchAt?_cases text place with
    ⟨nothing, unedited⟩ | ⟨found, edit, isMatch, made, reads, whole, renders⟩
  · refine .inl ⟨nothing, fun lead name rest head => ?_⟩
    rw [headEditor_eq_some_iff_beginsWith.2 ⟨lead, name, rest, head, rfl⟩] at unedited
    simp at unedited
  · obtain ⟨lead, name, rest, head, rfl⟩ := headEditor_eq_some_iff_beginsWith.1 made
    rw [render_createTableGuard] at renders
    obtain rfl : tableOf found = name := List.append_cancel_left renders
    obtain rfl : found.rest = rest := (reads ▸ head).rest_eq
    exact .inr ⟨found, lead, isMatch, head, whole⟩

/-- **The guard rule reads the grammar of heads.** Its pattern matches at a place exactly where a
head begins; there is one way to take that apart, the match ends where the name ends, and `table` is
the name. Where a guard stands, with all the white space behind it, the name comes behind it: if
none can be read there, the pattern does not match. -/
theorem createTableGuard_reads_heads (text : List Char) (place : Nat) :
    let match? := matchAt? createTableGuard.pattern.root text place
    let behind := text.drop place
    (match?.isSome ↔ ∃ lead name rest, BeginsWith behind lead name rest) ∧
      (∀ found, match? = some found → ∃ lead,
        BeginsWith behind lead (tableOf found) found.rest ∧
          found.whole = lead.text ++ tableOf found ∧
          ∀ other name rest, BeginsWith behind other name rest →
            other = lead ∧ name = tableOf found ∧ rest = found.rest) ∧
      ∀ (lead : Lead) (tail : List Char), lead.guarded.isSome → behind = lead.text ++ tail →
        NoBlankAhead tail →
          (match?.isSome ↔ ∃ name rest, tail = name ++ rest ∧ IsName rest name) := by
  have matches_iff : (matchAt? createTableGuard.pattern.root text place).isSome ↔
      ∃ lead name rest, BeginsWith (text.drop place) lead name rest := by
    rcases matchAt?_table_cases text place with ⟨nothing, none⟩ | ⟨found, lead, isMatch, head, -⟩
    · simp [nothing, none]
    · simpa [isMatch] using ⟨lead, _, _, head⟩
  refine ⟨matches_iff, fun found isMatch => ?_, fun lead tail guarded reads visible => ?_⟩
  · rcases matchAt?_table_cases text place with ⟨nothing, -⟩ | ⟨_, lead, isFound, head, whole⟩
    · simp [nothing] at isMatch
    · obtain rfl := Option.some.inj (isMatch.symm.trans isFound)
      exact ⟨lead, head, whole, fun other name rest again => head.unique again⟩
  · refine matches_iff.trans ⟨?_, ?_⟩
    · rintro ⟨other, name, rest, head⟩
      have ends : lead.EndsBefore tail := ⟨visible, fun unguarded => by simp [unguarded] at guarded⟩
      obtain ⟨-, same⟩ :=
        Lead.append_inj ends (head.named.endsBefore other) (reads.symm.trans head.reads)
      exact ⟨name, rest, same, head.named⟩
    · rintro ⟨name, rest, rfl, named⟩
      exact ⟨lead, name, rest, reads, named⟩

end DumpConverter.Builtin
