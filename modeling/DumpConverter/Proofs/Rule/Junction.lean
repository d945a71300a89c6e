/-
**Texts put together.**

What a rule does to two texts put together is what it does to each of them, if it takes no notice,
in the one, of what comes behind it, and begins the other as it would begin a text of its own.
`Disregards` says the first, of editors and of readers; the second needs no more than that there is
no word character in front.

* `Pass.append`: passes over two texts make a pass over both;
* `Phrase.disregards_editor`: a phrase that does not go on behind a text is not looked for there;
* `Reader.Disregards.andThen`, `Reader.Disregards.spelled`: readers in turn take no notice of what
  none of them takes notice of.
-/

import DumpConverter.Proofs.Matcher.Reader
import DumpConverter.Proofs.Rule.Alignment

namespace DumpConverter

open Matcher

/-! ### Editors -/

namespace Editor

/-- Whether an editor does the same, at every place of a text, whether or not `rest` comes behind
it. -/
def Disregards (editor : Editor) (rest text : List Char) : Prop :=
  ∀ before remaining, remaining <:+ text →
    editor before (remaining ++ rest) = editor before remaining

/-- Whether an editor asks of the character before a place only if it is a word character. -/
def SeesWords (editor : Editor) : Prop :=
  ∀ before other text, isWordAt before = isWordAt other → editor before text = editor other text

end Editor

namespace Pass

variable {editor : Editor} {before : Option Char} {text rest out behind : List Char}
  {edits others : List Edit}

/-- **Passes over two texts make a pass over both.** -/
theorem append (disregards : editor.Disregards rest text) (pass : Pass editor before text out edits)
    (later : Pass editor (lastOf before text) rest behind others) :
    Pass editor before (text ++ rest) (out ++ behind) (edits ++ others) := by
  induction pass with
  | done => simpa using later
  | @copy before c text out edits nothing _ ih =>
    refine .copy ((disregards before (c :: text) List.suffix_rfl).trans nothing) (ih ?_ ?_)
    · exact fun other remaining ends =>
        disregards other remaining (ends.trans (List.suffix_cons c _))
    · simpa using later
  | @edit before text remaining out edit edits made reads _ ih =>
    subst reads
    rw [List.append_assoc, List.append_assoc]
    refine .edit ?_ rfl (ih ?_ (by simpa using later))
    · have here := disregards before (edit.taken ++ remaining) List.suffix_rfl
      rw [List.append_assoc] at here
      exact here.trans made
    · exact fun other further ends => disregards other further (ends.trans (List.suffix_append _ _))

/-- A pass is the same behind another character, if a word ends there or none does. -/
theorem of_isWordAt (sees : editor.SeesWords) (pass : Pass editor before text out edits) :
    ∀ {other : Option Char}, isWordAt before = isWordAt other →
      Pass editor other text out edits := by
  induction pass with
  | done nothing => exact fun edge => .done ((sees _ _ _ edge).symm.trans nothing)
  | copy nothing later => exact fun edge => .copy ((sees _ _ _ edge).symm.trans nothing) later
  | @edit before text remaining out edit edits made reads _ ih =>
    intro other edge
    refine .edit ((sees _ _ _ edge).symm.trans made) reads (ih ?_)
    cases last : edit.taken.getLast? with
    | none => simpa [lastOf, last] using edge
    | some c => simp [lastOf, last]

end Pass

/-! ### Phrases -/

/-- Letters that two texts together begin with stand in the first, or go on from it into the second.
-/
theorem prefix_append_cases {letters text rest : List Char} (begins : letters <+: text ++ rest) :
    letters <+: text ∨ ∃ ahead, ahead ≠ [] ∧ letters = text ++ ahead ∧ ahead <+: rest := by
  rcases List.prefix_or_prefix_of_prefix begins (List.prefix_append text rest) with
    within | ⟨ahead, rfl⟩
  · exact .inl within
  · rw [List.prefix_append_right_inj] at begins
    by_cases ended : ahead = []
    · exact .inl (by simp [ended])
    · exact .inr ⟨ahead, ended, rfl, begins⟩

namespace Phrase

variable {phrase : Phrase} {new stretch rest text : List Char}

theorem seesWords_editor : (phrase.editor new).SeesWords := by
  intro before other text edge
  have same : phrase.Stands before text ↔ phrase.Stands other text := by
    simp only [Stands, edge]
  simp only [editor, same]

/-- A phrase stands where it stands without what comes behind, if it does not go on there. -/
theorem stands_append_iff (stopsAt : phrase.StopsAt false stretch)
    (noWord : isWordAt (stretch ++ rest).head? = false) {before : Option Char} :
    phrase.Stands before (text ++ (stretch ++ rest)) ↔ phrase.Stands before text := by
  by_cases begins : phrase.letters <+: text
  · obtain ⟨further, rfl⟩ := begins
    rw [List.append_assoc, stands_append, stands_append]
    cases further with
    | nil =>
      have atEnd : isWordAt ([] : List Char).head? = false := rfl
      rw [List.nil_append, noWord, atEnd]
    | cons c further => simp
  · refine iff_of_false (fun stands => ?_) fun stands => begins stands.1
    cases text with
    | nil =>
      have word := stands.isWordAt_head
      rw [List.nil_append, noWord] at word
      exact absurd word Bool.false_ne_true
    | cons c text =>
      rcases prefix_append_cases stands.1 with within | ⟨ahead, unfinished, letters, enters⟩
      · exact begins within
      · exact stopsAt.not_entered nofun letters (List.cons_ne_nil c text) rfl unfinished enters

/-- **A phrase that does not go on behind a text is not looked for there.** -/
theorem disregards_editor (stopsAt : phrase.StopsAt false stretch)
    (noWord : isWordAt (stretch ++ rest).head? = false) :
    (phrase.editor new).Disregards (stretch ++ rest) text := by
  intro before remaining _
  simp only [editor, stands_append_iff stopsAt noWord]

/-- A phrase that keeps off a stretch has no edit in it. -/
theorem along_of_keepsOff (keepsOff : phrase.KeepsOff false stretch) (before : Option Char) :
    Along (fun before text => phrase.editor new before text = none) before stretch rest := by
  intro passed remaining reads nonempty
  exact editor_eq_none_iff.2 fun stands => keepsOff.not_begun nofun reads nonempty stands.1

end Phrase

/-! ### Readers -/

namespace Matcher.Reader

/-- Whether a reader reads the same, from every place of a text, whether or not `rest` comes behind
it. -/
def Disregards (reader : Reader) (rest text : List Char) : Prop :=
  ∀ remaining, remaining <:+ text →
    reader (remaining ++ rest) = (reader remaining).map fun (taken, left) => (taken, left ++ rest)

section First

variable {c : Char} {rest text : List Char}

theorem disregards_one {members : CharSet} (outside : members.mem c = false) :
    (one members).Disregards (c :: rest) text := by
  intro remaining _
  cases remaining with
  | nil => simp [one, outside]
  | cons d remaining => by_cases member : members.mem d = true <;> simp [one, member]

/-- A stretch of characters that pass a test ends before one that does not. -/
theorem span_append {test : Char → Bool} (fails : test c = false) (text rest : List Char) :
    (text ++ c :: rest).takeWhile test = text.takeWhile test ∧
      (text ++ c :: rest).dropWhile test = text.dropWhile test ++ c :: rest := by
  induction text with
  | nil => simp [fails]
  | cons d text ih => by_cases passes : test d = true <;> simp [passes, ih]

theorem disregards_run {members : CharSet} (outside : members.mem c = false) :
    (run members).Disregards (c :: rest) text := by
  intro remaining _
  obtain ⟨front, back⟩ := span_append outside remaining rest
  rw [run, run, front, back]
  split <;> rfl

end First

namespace Disregards

variable {first second : Reader} {rest text : List Char}

/-- **Readers in turn take no notice of what neither takes notice of.** -/
theorem andThen (one : first.Disregards rest text) (splits : first.Splits)
    (two : second.Disregards rest text) : (first.andThen second).Disregards rest text := by
  intro remaining ends
  rw [Reader.andThen, Reader.andThen, one remaining ends]
  cases read : first remaining with
  | none => rfl
  | some split =>
    obtain ⟨taken, left⟩ := split
    have further : left <:+ text :=
      (List.suffix_append taken left).trans (splits _ _ _ read ▸ ends)
    simp only [Option.map_some, Option.bind_some, two left further, Option.map_map]
    rfl

theorem optional (one : first.Disregards rest text) :
    (Reader.optional first).Disregards rest text := by
  intro remaining ends
  rw [Reader.optional, Reader.optional, one remaining ends]
  cases first remaining <;> rfl

theorem either (one : first.Disregards rest text) (two : second.Disregards rest text) :
    (first.either second).Disregards rest text := by
  intro remaining ends
  rw [Reader.either, Reader.either, one remaining ends, two remaining ends]
  cases first remaining <;> rfl

theorem spelled {c : Char} {sets : List CharSet} (one : first.Disregards (c :: rest) text)
    (outside : ∀ members ∈ sets, members.mem c = false) :
    (Reader.spelled sets first).Disregards (c :: rest) text := by
  induction sets with
  | nil => exact one
  | cons members sets ih =>
    obtain ⟨here, others⟩ := List.forall_mem_cons.1 outside
    exact (disregards_one here).andThen (splits_one members) (ih others)

end Disregards

end Matcher.Reader

end DumpConverter
