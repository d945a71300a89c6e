/-
**Texts that differ in stretches.**

What a pass leaves agrees with what it read but for the stretches that its edits swap. `Aligned`
keeps just that: characters are copied, and now and then one stretch stands for another. A phrase
that clashes with everything swapped in, at its ends and inside, cannot come about.

* `Pass.aligned`: a pass aligns what it reads with what it leaves;
* `Aligned.absent`: no phrase comes about through swaps that spare it;
* `Aligned.occurs_iff`: a phrase that swaps leave untouched occurs in both texts or in neither;
* `Aligned.count_eq`: swaps that keep the number of a character keep it in the whole text.
-/

import DumpConverter.Proofs.Builtin.Phrase
import Mathlib.Data.List.Infix

namespace DumpConverter

open Matcher

/-- Two texts that agree but for swapped stretches: a character is copied where `free` holds, and a
stretch is swapped for another, before the rest of the first text, where `swap` does. -/
inductive Aligned (free : Option Char → List Char → Prop)
    (swap : Option Char → List Char → List Char → List Char → Prop) :
    Option Char → List Char → List Char → Prop
  | done {before : Option Char} : Aligned free swap before [] []
  | copy {before : Option Char} {c : Char} {rest out : List Char} (isFree : free before (c :: rest))
      (later : Aligned free swap (some c) rest out) :
      Aligned free swap before (c :: rest) (c :: out)
  | swap {before : Option Char} {old new rest out : List Char} (swapped : swap before old new rest)
      (later : Aligned free swap (lastOf before old) rest out) :
      Aligned free swap before (old ++ rest) (new ++ out)

/-- The swaps that an editor makes. -/
def Editor.Swaps (editor : Editor) (before : Option Char) (old new rest : List Char) : Prop :=
  ∃ edit, editor before (old ++ rest) = some edit ∧ edit.old = old ∧ edit.new = new ∧
    edit.kept <+: rest

namespace Aligned

variable {free : Option Char → List Char → Prop}
  {swap : Option Char → List Char → List Char → List Char → Prop}

/-- Copies a stretch in front of aligned texts. -/
theorem copyAll {stretch rest out : List Char} {before : Option Char}
    (isFree : Throughout free before (stretch ++ rest))
    (later : Aligned free swap (lastOf before stretch) rest out) :
    Aligned free swap before (stretch ++ rest) (stretch ++ out) := by
  induction stretch generalizing before with
  | nil => simpa using later
  | cons c stretch ih =>
    obtain ⟨here, all⟩ := throughout_cons.1 isFree
    exact .copy here (ih all (by simpa using later))

/-- **Swaps that keep the number of a character keep it in the whole text.** -/
theorem count_eq {c : Char} (keeps : ∀ before old new rest, swap before old new rest →
      new.count c = old.count c) {before : Option Char} {text out : List Char}
    (aligned : Aligned free swap before text out) : out.count c = text.count c := by
  induction aligned with
  | done => rfl
  | copy _ _ ih => rw [List.count_cons, List.count_cons, ih]
  | swap swapped _ ih => rw [List.count_append, List.count_append, ih, keeps _ _ _ _ swapped]

/-- Where no word begins, nothing is swapped. -/
theorem head_eq (opens : ∀ before old new rest, swap before old new rest →
      isWordAt old.head? = true) {before : Option Char} {text out : List Char}
    (aligned : Aligned free swap before text out) (noWord : isWordAt text.head? = false) :
    out.head? = text.head? := by
  cases aligned with
  | done => rfl
  | copy _ _ => rfl
  | @swap _ old new rest out swapped _ =>
    have word := opens _ _ _ _ swapped
    cases old with
    | nil => simp [Place.isWord] at word
    | cons c old => simp_all

/-- Along a stretch, aligned texts both copy it, freely, or neither begins with it, or a swap stands
before its end. -/
theorem follow {before : Option Char} {text out : List Char}
    (aligned : Aligned free swap before text out) : ∀ ahead : List Char,
      (∃ further behind, text = ahead ++ further ∧ out = ahead ++ behind ∧
        Along free before ahead further ∧ Aligned free swap (lastOf before ahead) further behind) ∨
      (¬ ahead <+: text ∧ ¬ ahead <+: out) ∨
      ∃ copied left old new rest result, ahead = copied ++ left ∧ left ≠ [] ∧
        text = copied ++ (old ++ rest) ∧ out = copied ++ (new ++ result) ∧
        swap (lastOf before copied) old new rest ∧
        Aligned free swap (lastOf (lastOf before copied) old) rest result := by
  induction aligned with
  | done =>
    rintro (_ | ⟨d, ahead⟩)
    · exact .inl ⟨[], [], rfl, rfl, along_nil, .done⟩
    · exact .inr (.inl (by simp))
  | @copy before c rest out isFree later ih =>
    rintro (_ | ⟨d, ahead⟩)
    · exact .inl ⟨c :: rest, c :: out, rfl, rfl, along_nil, .copy isFree later⟩
    by_cases same : d = c
    · subst same
      obtain ⟨further, behind, rfl, rfl, along, aligned⟩ | ⟨notText, notOut⟩ |
        ⟨copied, left, old, new, rest, result, rfl, some, rfl, rfl, swapped, aligned⟩ := ih ahead
      · exact .inl ⟨further, behind, rfl, rfl, along_cons.2 ⟨isFree, along⟩,
          by simpa using aligned⟩
      · exact .inr (.inl (by simp [List.cons_prefix_cons, notText, notOut]))
      · exact .inr (.inr ⟨d :: copied, left, old, new, rest, result, rfl, some, rfl, rfl,
          by simpa using swapped, by simpa using aligned⟩)
    · exact .inr (.inl (by simp [List.cons_prefix_cons, same]))
  | @swap before old new rest out swapped later ih =>
    rintro (_ | ⟨d, ahead⟩)
    · exact .inl ⟨old ++ rest, new ++ out, rfl, rfl, along_nil, .swap swapped later⟩
    · exact .inr (.inr ⟨[], d :: ahead, old, new, rest, out, rfl, List.cons_ne_nil d ahead, rfl,
        rfl, by simpa using swapped, by simpa using later⟩)

end Aligned

namespace Pass

/-- **A pass aligns what it reads with what it leaves**, and its copied characters are free if every
place is. -/
theorem aligned {editor : Editor} {free : Option Char → List Char → Prop} {before : Option Char}
    {text out : List Char} {edits : List Edit} (pass : Pass editor before text out edits)
    (isFree : Throughout free before text) : Aligned free editor.Swaps before text out := by
  induction pass with
  | done => exact .done
  | copy _ _ ih =>
    obtain ⟨here, all⟩ := throughout_cons.1 isFree
    exact .copy here (ih all)
  | @edit before text rest out edit edits made reads _ ih =>
    have split : text = edit.old ++ (edit.kept ++ rest) := by
      rw [reads, Edit.taken, List.append_assoc]
    have behind := ih (reads ▸ isFree).append
    rw [split] at isFree made ⊢
    rw [Edit.put, List.append_assoc]
    refine .swap ⟨edit, made, rfl, rfl, List.prefix_append _ _⟩ (.copyAll isFree.append ?_)
    simpa [Edit.taken] using behind

/-- Where the edits keep nothing, only what the editor passes over is copied. -/
theorem aligned_of_kept_eq_nil {editor : Editor}
    (keeps : ∀ before text edit, editor before text = some edit → edit.kept = [])
    {before : Option Char} {text out : List Char} {edits : List Edit}
    (pass : Pass editor before text out edits) :
    Aligned (fun before text => editor before text = none) editor.Swaps before text out := by
  induction pass with
  | done => exact .done
  | copy nothing _ ih => exact .copy nothing ih
  | @edit before text rest out edit edits made reads _ ih =>
    have nothing := keeps _ _ _ made
    have split : text = edit.old ++ rest := by rw [reads, Edit.taken, nothing, List.append_nil]
    rw [split] at made ⊢
    rw [Edit.put, nothing, List.append_nil]
    refine .swap ⟨edit, made, rfl, rfl, ?_⟩ (by simpa [Edit.taken, nothing] using ih)
    rw [nothing]
    exact List.nil_prefix

end Pass

/-! ### Clashes -/

/-- Whether a text that begins with `stretch`, behind which no word character comes if `closed`, is
bound to begin otherwise than with `letters`. -/
def clashes (closed : Bool) : List Char → List Char → Bool
  | [], _ => false
  | c :: _, [] => closed && isWordAt (some c)
  | c :: letters, d :: stretch => c != d || clashes closed letters stretch

theorem not_prefix_of_clashes {closed : Bool} {letters stretch rest : List Char}
    (clash : clashes closed letters stretch = true)
    (ends : closed = true → isWordAt rest.head? = false) : ¬ letters <+: stretch ++ rest := by
  induction letters generalizing stretch with
  | nil => simp [clashes] at clash
  | cons c letters ih =>
    cases stretch with
    | nil =>
      obtain ⟨isClosed, word⟩ := Bool.and_eq_true_iff.1 clash
      rintro ⟨tail, reads⟩
      have ended := ends isClosed
      rw [List.nil_append] at reads
      rw [← reads] at ended
      exact absurd word (by simpa using ended)
    | cons d stretch =>
      intro begins
      obtain ⟨rfl, further⟩ := List.cons_prefix_cons.1 begins
      exact ih (by simpa [clashes] using clash) further

namespace Phrase

/-- Whether the phrase is absent from a text that follows the character `before`. -/
def Absent (phrase : Phrase) : Option Char → List Char → Prop :=
  Throughout fun before text => ¬ phrase.Stands before text

/-- Whether the phrase, once begun in front of a stretch, does not go on into it; if `closed`, there
is no word character on either side. -/
def StopsAt (phrase : Phrase) (closed : Bool) (stretch : List Char) : Prop :=
  ∀ read < phrase.letters.length, 0 < read →
    (closed = true ∧ isWordAt (phrase.letters.take read).getLast? = true) ∨
      clashes closed (phrase.letters.drop read) stretch = true

instance (phrase : Phrase) (closed : Bool) (stretch : List Char) :
    Decidable (phrase.StopsAt closed stretch) :=
  inferInstanceAs (Decidable (∀ read < phrase.letters.length, _))

/-- Whether the phrase neither begins in a stretch nor, once begun, goes on into it; if `closed`,
there is no word character on either side. -/
def KeepsOff (phrase : Phrase) (closed : Bool) (stretch : List Char) : Prop :=
  (∀ read < phrase.letters.length, 0 < read →
    (closed = true ∧ isWordAt (phrase.letters.take read).getLast? = true) ∨
      clashes closed (phrase.letters.drop read) stretch = true) ∧
  ∀ remaining ∈ stretch.tails, remaining ≠ [] → clashes closed phrase.letters remaining = true

instance (phrase : Phrase) (closed : Bool) (stretch : List Char) :
    Decidable (phrase.KeepsOff closed stretch) :=
  inferInstanceAs (Decidable (_ ∧ _))

section KeepsOff

variable {phrase : Phrase} {closed : Bool} {stretch rest : List Char}

/-- A phrase of which something has been read does not go on into the stretch. -/
theorem StopsAt.not_entered (stopsAt : phrase.StopsAt closed stretch) {before : Option Char}
    (edges : closed = true → isWordAt before = false ∧ isWordAt rest.head? = false)
    {read ahead : List Char} (letters : phrase.letters = read ++ ahead) (begun : read ≠ [])
    (isLast : before = read.getLast?) (unfinished : ahead ≠ []) : ¬ ahead <+: stretch ++ rest := by
  have last : phrase.letters.take read.length = read := by simp [letters]
  have remaining : phrase.letters.drop read.length = ahead := by simp [letters]
  have within := stopsAt read.length (by simp [letters, List.length_pos_iff.2 unfinished])
    (List.length_pos_iff.2 begun)
  rw [last, remaining, ← isLast] at within
  rcases within with ⟨isClosed, word⟩ | clash
  · simp [(edges isClosed).1] at word
  · exact not_prefix_of_clashes clash fun isClosed => (edges isClosed).2

theorem KeepsOff.stopsAt (keepsOff : phrase.KeepsOff closed stretch) :
    phrase.StopsAt closed stretch :=
  keepsOff.1

/-- The phrase does not begin in the stretch. -/
theorem KeepsOff.not_begun (keepsOff : phrase.KeepsOff closed stretch)
    (ends : closed = true → isWordAt rest.head? = false) {passed remaining : List Char}
    (reads : stretch = passed ++ remaining) (nonempty : remaining ≠ []) :
    ¬ phrase.letters <+: remaining ++ rest :=
  not_prefix_of_clashes
    (keepsOff.2 remaining ((List.mem_tails _ _).2 ⟨passed, reads.symm⟩) nonempty) ends

end KeepsOff

/-- Whether the phrase cannot come about where `new` takes the place of `old`; if `closed`, there
is no word character on either side. -/
def SparedBy (phrase : Phrase) (closed : Bool) (old new : List Char) : Prop :=
  phrase.KeepsOff closed new ∧ isWordAt old.head? = true ∧
  (closed = false → isWordAt new.head? = true ∧ isWordAt new.getLast? = isWordAt old.getLast?)

instance (phrase : Phrase) (closed : Bool) (old new : List Char) :
    Decidable (phrase.SparedBy closed old new) :=
  inferInstanceAs (Decidable (_ ∧ _ ∧ _))

/-- Whether swaps spare the phrase. -/
def Spared (phrase : Phrase)
    (swap : Option Char → List Char → List Char → List Char → Prop) : Prop :=
  ∀ before old new rest, swap before old new rest → ∃ closed,
    (closed = true → isWordAt before = false ∧ isWordAt rest.head? = false) ∧
      phrase.SparedBy closed old new

/-- Behind a swap that spares the phrase, a word goes on in both texts or in neither. -/
theorem SparedBy.edge_behind {phrase : Phrase} {closed : Bool} {old new rest : List Char}
    {before : Option Char} (spares : phrase.SparedBy closed old new)
    (edges : closed = true → isWordAt before = false ∧ isWordAt rest.head? = false)
    (other : Option Char) :
    isWordAt (lastOf other new) = isWordAt (lastOf before old) ∨ isWordAt rest.head? = false := by
  obtain ⟨-, oldWord, opened⟩ := spares
  cases closed with
  | true => exact .inr (edges rfl).2
  | false =>
    obtain ⟨newWord, sameLast⟩ := opened rfl
    have newSome : new ≠ [] := by
      rintro rfl
      simp [Place.isWord] at newWord
    have oldSome : old ≠ [] := by
      rintro rfl
      simp [Place.isWord] at oldWord
    obtain ⟨c, newLast⟩ := Option.isSome_iff_exists.1 (List.getLast?_isSome.2 newSome)
    obtain ⟨d, oldLast⟩ := Option.isSome_iff_exists.1 (List.getLast?_isSome.2 oldSome)
    rw [newLast, oldLast] at sameLast
    exact .inl (by simp [lastOf, newLast, oldLast, sameLast])

/-- Whether swaps do not cut off the phrase: once begun, it does not go on into what is swapped. -/
def NotCutBy (phrase : Phrase)
    (swap : Option Char → List Char → List Char → List Char → Prop) : Prop :=
  ∀ before old new rest, swap before old new rest → ∃ closed,
    (closed = true → isWordAt before = false ∧ isWordAt rest.head? = false) ∧
      phrase.StopsAt closed old

end Phrase

namespace Aligned

variable {phrase : Phrase} {free : Option Char → List Char → Prop}
  {swap : Option Char → List Char → List Char → List Char → Prop}

/-- What is swapped begins a word. -/
theorem head_eq_of_spared (spared : phrase.Spared swap) {before : Option Char}
    {text out : List Char} (aligned : Aligned free swap before text out)
    (noWord : isWordAt text.head? = false) : out.head? = text.head? :=
  aligned.head_eq (fun _ _ _ _ swapped => (spared _ _ _ _ swapped).choose_spec.2.2.1) noWord

/-- Behind a word character, a word goes on in both texts or in neither. -/
theorem isWordAt_head_eq (spared : phrase.Spared swap) {before : Option Char}
    {text out : List Char} (aligned : Aligned free swap before text out)
    (word : isWordAt before = true) : isWordAt text.head? = isWordAt out.head? := by
  cases aligned with
  | done => rfl
  | copy => rfl
  | @swap _ old new rest out swapped _ =>
    obtain ⟨closed, edges, _, oldWord, opened⟩ := spared _ _ _ _ swapped
    cases closed with
    | true => simp [(edges rfl).1] at word
    | false =>
      have newWord := (opened rfl).1
      cases old <;> cases new <;> simp_all [Place.isWord]

/-- A phrase of which `read` has been copied, and that goes on in the second text, goes on in the
first. -/
theorem goes_on (spared : phrase.Spared swap) {before : Option Char} {text behind : List Char}
    {read ahead : List Char} (aligned : Aligned free swap before text (ahead ++ behind))
    (letters : phrase.letters = read ++ ahead) (begun : read ≠ [])
    (isLast : before = read.getLast?) :
    ∃ further, text = ahead ++ further ∧ Along free before ahead further ∧
      Aligned free swap phrase.letters.getLast? further behind := by
  obtain ⟨further, _, rfl, same, along, aligned⟩ | ⟨-, notOut⟩ |
    ⟨copied, left, old, new, rest, result, rfl, unfinished, -, same, swapped, later⟩ :=
      aligned.follow ahead
  · obtain rfl := List.append_cancel_left same
    exact ⟨further, rfl, along, by simpa [letters, isLast, lastOf] using aligned⟩
  · exact absurd (List.prefix_append ahead behind) notOut
  · obtain ⟨closed, edges, keepsOff, -⟩ := spared _ _ _ _ swapped
    have outEdges : closed = true →
        isWordAt (lastOf before copied) = false ∧ isWordAt result.head? = false := by
      intro isClosed
      rw [later.head_eq_of_spared spared (edges isClosed).2]
      exact edges isClosed
    rw [List.append_assoc] at same
    have entered : left <+: new ++ result := ⟨behind, List.append_cancel_left same⟩
    have soFar : phrase.letters = (read ++ copied) ++ left := by rw [letters, List.append_assoc]
    exact absurd entered (keepsOff.stopsAt.not_entered outEdges soFar
      (List.append_ne_nil_of_left_ne_nil begun copied) (by simp [isLast, lastOf]) unfinished)

/-- A phrase of which `read` has been copied, and that goes on in the first text, goes on in the
second. -/
theorem goes_on_out (notCut : phrase.NotCutBy swap) {before : Option Char}
    {further out read ahead : List Char} (aligned : Aligned free swap before (ahead ++ further) out)
    (letters : phrase.letters = read ++ ahead) (begun : read ≠ [])
    (isLast : before = read.getLast?) :
    ∃ behind, out = ahead ++ behind ∧
      Aligned free swap phrase.letters.getLast? further behind := by
  obtain ⟨_, behind, same, rfl, -, aligned⟩ | ⟨notText, -⟩ |
    ⟨copied, left, old, new, rest, result, rfl, unfinished, same, -, swapped, -⟩ :=
      aligned.follow ahead
  · obtain rfl := List.append_cancel_left same
    exact ⟨behind, rfl, by simpa [letters, isLast, lastOf] using aligned⟩
  · exact absurd (List.prefix_append ahead further) notText
  · obtain ⟨closed, edges, stopsAt⟩ := notCut _ _ _ _ swapped
    rw [List.append_assoc] at same
    have entered : left <+: old ++ rest := ⟨further, List.append_cancel_left same⟩
    have soFar : phrase.letters = (read ++ copied) ++ left := by rw [letters, List.append_assoc]
    exact absurd entered (stopsAt.not_entered edges soFar
      (List.append_ne_nil_of_left_ne_nil begun copied) (by simp [isLast, lastOf]) unfinished)

section Copied

variable {before other : Option Char} {c : Char} {rest out : List Char}

/-- **A phrase that stands in the second text, where a character is copied, stands in the first**,
and is copied as a whole. -/
theorem stands_of_out (spared : phrase.Spared swap) (isFree : free before (c :: rest))
    (later : Aligned free swap (some c) rest out)
    (edge : isWordAt other = isWordAt before ∨ isWordAt (some c) = false)
    (stands : phrase.Stands other (c :: out)) :
    phrase.Stands before (c :: rest) ∧ ∃ further behind, c :: rest = phrase.letters ++ further ∧
      c :: out = phrase.letters ++ behind ∧ Along free before phrase.letters further ∧
      Aligned free swap (lastOf before phrase.letters) further behind := by
  have word : isWordAt (some c) = true := stands.isWordAt_head
  have sameEdge : isWordAt other = isWordAt before := edge.resolve_right (by simp [word])
  obtain ⟨behind, begins⟩ := stands.1
  rw [← begins, Phrase.stands_append] at stands
  obtain ⟨d, ahead, letters⟩ := List.exists_cons_of_ne_nil phrase.letters_ne_nil
  obtain ⟨rfl, sameTail⟩ : d = c ∧ ahead ++ behind = out := by
    simpa [letters] using begins
  subst sameTail
  obtain ⟨further, rfl, along, aligned⟩ := later.goes_on spared letters (List.cons_ne_nil d []) rfl
  have reads : d :: (ahead ++ further) = phrase.letters ++ further := by simp [letters]
  refine ⟨?_, further, behind, reads, begins.symm, ?_, ?_⟩
  · rw [reads, Phrase.stands_append, ← sameEdge]
    intro isWhole
    obtain ⟨opens, closes⟩ := stands isWhole
    exact ⟨opens, (aligned.isWordAt_head_eq spared (phrase.last_isWord isWhole)).trans closes⟩
  · rw [letters]
    exact along_cons.2 ⟨isFree, along⟩
  · rwa [phrase.lastOf_letters]

/-- **A phrase that stands in the first text, where a character is copied, stands in the second.**
-/
theorem stands_out (spared : phrase.Spared swap) (notCut : phrase.NotCutBy swap)
    (later : Aligned free swap (some c) rest out)
    (edge : isWordAt other = isWordAt before ∨ isWordAt (some c) = false)
    (stands : phrase.Stands before (c :: rest)) : phrase.Stands other (c :: out) := by
  have word : isWordAt (some c) = true := stands.isWordAt_head
  have sameEdge : isWordAt other = isWordAt before := edge.resolve_right (by simp [word])
  obtain ⟨further, begins⟩ := stands.1
  rw [← begins, Phrase.stands_append] at stands
  obtain ⟨d, ahead, letters⟩ := List.exists_cons_of_ne_nil phrase.letters_ne_nil
  obtain ⟨rfl, sameTail⟩ : d = c ∧ ahead ++ further = rest := by
    simpa [letters] using begins
  subst sameTail
  obtain ⟨behind, rfl, aligned⟩ := later.goes_on_out notCut letters (List.cons_ne_nil d []) rfl
  have reads : d :: (ahead ++ behind) = phrase.letters ++ behind := by simp [letters]
  rw [reads, Phrase.stands_append, sameEdge]
  intro isWhole
  obtain ⟨opens, closes⟩ := stands isWhole
  exact ⟨opens, (aligned.isWordAt_head_eq spared (phrase.last_isWord isWhole)).symm.trans closes⟩

end Copied

/-- **No phrase comes about through swaps that spare it.** -/
theorem absent (spared : phrase.Spared swap) {before : Option Char} {text out : List Char}
    (aligned : Aligned (fun before text => ¬ phrase.Stands before text) swap before text out) :
    ∀ other, (isWordAt other = isWordAt before ∨ isWordAt text.head? = false) →
      phrase.Absent other out := by
  induction aligned with
  | done => exact fun other _ => throughout_nil.2 (phrase.not_stands_nil other)
  | copy isFree later ih =>
    intro other edge
    exact throughout_cons.2
      ⟨fun stands => isFree (later.stands_of_out spared isFree edge stands).1, ih _ (.inl rfl)⟩
  | @swap before old new rest out swapped later ih =>
    intro other edge
    obtain ⟨closed, edges, spares⟩ := spared _ _ _ _ swapped
    refine throughout_append (fun passed remaining reads nonempty stands => ?_)
      (ih _ (spares.edge_behind edges other))
    refine spares.1.not_begun (fun isClosed => ?_) reads nonempty stands.1
    rw [later.head_eq_of_spared spared (edges isClosed).2]
    exact (edges isClosed).2

end Aligned

/-! ### Phrases that stay -/

namespace Phrase

/-- Whether swaps neither bring the phrase about nor take it away. -/
def Untouched (phrase : Phrase)
    (swap : Option Char → List Char → List Char → List Char → Prop) : Prop :=
  ∀ before old new rest, swap before old new rest → ∃ closed,
    (closed = true → isWordAt before = false ∧ isWordAt rest.head? = false) ∧
      phrase.SparedBy closed old new ∧ phrase.KeepsOff closed old

/-- Whether the letters of the phrase stand somewhere in a text, with something behind them. -/
def Occurs (phrase : Phrase) (ahead : List Char → Prop) (text : List Char) : Prop :=
  ∃ passed rest, text = passed ++ (phrase.letters ++ rest) ∧ ahead rest

section Occurs

variable {phrase : Phrase} {ahead : List Char → Prop}

/-- The phrase occurs at the first place of a text, or behind it. -/
theorem occurs_cons {c : Char} {text : List Char} : phrase.Occurs ahead (c :: text) ↔
    (∃ rest, c :: text = phrase.letters ++ rest ∧ ahead rest) ∨ phrase.Occurs ahead text := by
  constructor
  · rintro ⟨_ | ⟨d, passed⟩, rest, reads, holds⟩
    · exact .inl ⟨rest, reads, holds⟩
    · exact .inr ⟨passed, rest, (List.cons.inj reads).2, holds⟩
  · rintro (⟨rest, reads, holds⟩ | ⟨passed, rest, rfl, holds⟩)
    · exact ⟨[], rest, reads, holds⟩
    · exact ⟨c :: passed, rest, rfl, holds⟩

/-- The phrase does not begin in a stretch that it keeps off. -/
theorem occurs_append {closed : Bool} {stretch text : List Char}
    (keepsOff : phrase.KeepsOff closed stretch)
    (ends : closed = true → isWordAt text.head? = false) :
    phrase.Occurs ahead (stretch ++ text) ↔ phrase.Occurs ahead text := by
  have behind : ∀ passed remaining, stretch = passed ++ remaining →
      (phrase.Occurs ahead (remaining ++ text) ↔ phrase.Occurs ahead text) := by
    intro passed remaining
    induction remaining generalizing passed with
    | nil => exact fun _ => Iff.rfl
    | cons c remaining ih =>
      intro reads
      have notHere := keepsOff.not_begun ends reads (List.cons_ne_nil c remaining)
      rw [List.cons_append, occurs_cons, ih (passed ++ [c]) (by simp [reads]),
        or_iff_right]
      rintro ⟨rest, begins, -⟩
      exact notHere ⟨rest, begins.symm⟩
  exact behind [] stretch rfl

end Occurs

end Phrase

namespace Aligned

variable {phrase : Phrase} {free : Option Char → List Char → Prop}
  {swap : Option Char → List Char → List Char → List Char → Prop}

/-- **A phrase that swaps leave untouched occurs in both texts or in neither**, with what both have
behind it. -/
theorem occurs_iff (untouched : phrase.Untouched swap) {ahead : List Char → Prop}
    (same : ∀ before text out, Aligned free swap before text out → (ahead text ↔ ahead out))
    {before : Option Char} {text out : List Char} (aligned : Aligned free swap before text out) :
    phrase.Occurs ahead text ↔ phrase.Occurs ahead out := by
  have spared : phrase.Spared swap := by
    intro before old new rest swapped
    obtain ⟨closed, edges, spared, -⟩ := untouched _ _ _ _ swapped
    exact ⟨closed, edges, spared⟩
  have notCut : phrase.NotCutBy swap := by
    intro before old new rest swapped
    obtain ⟨closed, edges, -, keepsOff⟩ := untouched _ _ _ _ swapped
    exact ⟨closed, edges, keepsOff.stopsAt⟩
  obtain ⟨d, tail, letters⟩ := List.exists_cons_of_ne_nil phrase.letters_ne_nil
  induction aligned with
  | done => exact Iff.rfl
  | @copy before c rest out _ later ih =>
    rw [Phrase.occurs_cons, Phrase.occurs_cons, letters]
    refine or_congr ⟨?_, ?_⟩ ih
    · rintro ⟨further, reads, holds⟩
      obtain ⟨rfl, sameTail⟩ := List.cons.inj reads
      subst sameTail
      obtain ⟨behind, rfl, aligned⟩ :=
        later.goes_on_out notCut letters (List.cons_ne_nil c []) rfl
      exact ⟨behind, rfl, (same _ _ _ aligned).1 holds⟩
    · rintro ⟨behind, reads, holds⟩
      obtain ⟨rfl, sameTail⟩ := List.cons.inj reads
      subst sameTail
      obtain ⟨further, rfl, -, aligned⟩ := later.goes_on spared letters (List.cons_ne_nil c []) rfl
      exact ⟨further, rfl, (same _ _ _ aligned).2 holds⟩
  | @swap before old new rest out swapped later ih =>
    obtain ⟨closed, edges, ⟨keepsOff, -⟩, keepsOffOld⟩ := untouched _ _ _ _ swapped
    have outEnds : closed = true → isWordAt out.head? = false := by
      intro isClosed
      rw [later.head_eq_of_spared spared (edges isClosed).2]
      exact (edges isClosed).2
    rw [Phrase.occurs_append keepsOffOld fun isClosed => (edges isClosed).2,
      Phrase.occurs_append keepsOff outEnds]
    exact ih

end Aligned

end DumpConverter
