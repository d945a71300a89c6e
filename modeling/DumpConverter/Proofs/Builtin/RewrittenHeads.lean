/-
**Heads that are already guarded.**

What the guard rule leaves it reads again as the same heads, and gives back: every edit keeps the
first letter of a head, so that what was no head before is none afterwards, and a guarded head
reads as itself.

* `Rewritten`: a text and what the guard rule leaves of it, from any place on;
* `Steady`: a reader takes the same from both;
* `cuts_of_cuts`: the guard rule walks through what it leaves in the same cuts;
* `isIdle_createTableGuard_out`: the guard rule is idle on what it leaves;
* `heads_of_guarded`: no head is lost, moved or renamed.
-/

import DumpConverter.Proofs.Builtin.HeadGrammar
import DumpConverter.Proofs.Rule.Run

namespace DumpConverter.Builtin

open Matcher Unicode

/-! ### A text and what is left of it -/

/-- Whether a text ends up as another one, from some place of a pass of the guard rule on. -/
def Rewritten (text out : List Char) : Prop :=
  ∃ before edits, Pass headEditor before text out edits

theorem rewritten_nil {out : List Char} (rewritten : Rewritten [] out) : out = [] := by
  obtain ⟨before, edits, pass⟩ := rewritten
  cases pass with
  | done => rfl
  | edit made =>
    obtain ⟨_, _, _, _, read, -⟩ := headEditor_eq_some_iff.1 made
    simpa using (head_of_lead read).1

/-- Every edit keeps its first letter, and only there does a head begin. -/
theorem rewritten_cons {c : Char} {rest out : List Char} (rewritten : Rewritten (c :: rest) out) :
    ∃ later, out = c :: later ∧ (c ≠ 'C' → Rewritten rest later) := by
  obtain ⟨before, edits, pass⟩ := rewritten
  cases pass with
  | copy _ later => exact ⟨_, rfl, fun _ => ⟨_, _, later⟩⟩
  | edit made =>
    obtain ⟨_, _, name, _, read, -, rfl⟩ := headEditor_eq_some_iff.1 made
    obtain rfl : c = 'C' := Option.some.inj (head_of_lead read).1
    exact ⟨_, rfl, fun other => absurd rfl other⟩

theorem head?_of_rewritten {text out : List Char} (rewritten : Rewritten text out) :
    out.head? = text.head? := by
  cases text with
  | nil => rw [rewritten_nil rewritten]
  | cons c rest =>
    obtain ⟨later, rfl, -⟩ := rewritten_cons rewritten
    rfl

/-- Only characters of the new lead come in. -/
theorem mem_of_rewritten {c : Char} (outside : c ∉ newLead) {text out : List Char}
    (rewritten : Rewritten text out) (member : c ∈ out) : c ∈ text := by
  obtain ⟨before, edits, pass⟩ := rewritten
  have writes : ∀ edit ∈ edits, edit.new = newLead := by
    refine pass.forall_edits fun before text edit made => ?_
    obtain ⟨_, _, _, _, -, -, rfl⟩ := headEditor_eq_some_iff.1 made
    rfl
  refine (pass.mem_out member).resolve_right ?_
  rintro ⟨edit, made, new⟩
  rw [writes edit made] at new
  exact outside new

/-! ### Readers that take the same from both -/

/-- Whether a reader takes the same stretch from a text and from what the guard rule leaves of it,
and stops at the same place. -/
def Steady (reader : Reader) : Prop :=
  ∀ text out, Rewritten text out → (reader text = none ∧ reader out = none) ∨
    ∃ taken behind rest, reader text = some (taken, behind) ∧ reader out = some (taken, rest) ∧
      Rewritten behind rest

theorem steady_iff_parallel {reader : Reader} :
    Steady reader ↔ reader.Parallel true Rewritten Rewritten := by
  refine forall₃_congr fun text out _ => or_congr_right ⟨?_, ?_⟩
  · rintro ⟨taken, behind, rest, read, again, further⟩
    exact ⟨taken, behind, taken, rest, read, again, fun _ => rfl, further⟩
  · rintro ⟨taken, behind, other, rest, read, again, same, further⟩
    obtain rfl := same rfl
    exact ⟨taken, behind, rest, read, again, further⟩

theorem steady_one {members : CharSet} (outside : members.mem 'C' = false) :
    Steady (.one members) := by
  intro text out rewritten
  cases text with
  | nil => exact .inl (by simp [rewritten_nil rewritten, Reader.one])
  | cons c rest =>
    obtain ⟨later, rfl, goesOn⟩ := rewritten_cons rewritten
    by_cases member : members.mem c = true
    · refine .inr ⟨[c], rest, later, by simp [Reader.one, member], by simp [Reader.one, member],
        goesOn ?_⟩
      rintro rfl
      exact Bool.false_ne_true (outside.symm.trans member)
    · exact .inl (by simp [Reader.one, member])

theorem steady_run {members : CharSet} (outside : members.mem 'C' = false) :
    Steady (.run members) := by
  have stretch : ∀ text out, Rewritten text out →
      out.takeWhile members.mem = text.takeWhile members.mem ∧
        Rewritten (text.dropWhile members.mem) (out.dropWhile members.mem) := by
    intro text
    induction text with
    | nil =>
      intro out rewritten
      obtain rfl := rewritten_nil rewritten
      exact ⟨rfl, rewritten⟩
    | cons c rest ih =>
      intro out rewritten
      obtain ⟨later, rfl, goesOn⟩ := rewritten_cons rewritten
      by_cases member : members.mem c = true
      · have other : c ≠ 'C' := by
          rintro rfl
          exact Bool.false_ne_true (outside.symm.trans member)
        obtain ⟨same, behind⟩ := ih later (goesOn other)
        simpa [member, same] using behind
      · simpa [member] using rewritten
  refine steady_iff_parallel.2 (Reader.parallel_run fun text out rewritten => ?_)
  obtain ⟨same, behind⟩ := stretch text out rewritten
  exact ⟨by rw [same], fun _ => same.symm, behind⟩

theorem Steady.andThen {first second : Reader} (one : Steady first) (two : Steady second) :
    Steady (first.andThen second) :=
  steady_iff_parallel.2 ((steady_iff_parallel.1 one).andThen (steady_iff_parallel.1 two))

theorem Steady.optional {reader : Reader} (steady : Steady reader) :
    Steady (.optional reader) :=
  steady_iff_parallel.2 (steady_iff_parallel.1 steady).optional

theorem Steady.spelled {reader : Reader} (steady : Steady reader) {sets : List CharSet}
    (outside : ∀ members ∈ sets, members.mem 'C' = false) : Steady (.spelled sets reader) := by
  induction sets with
  | nil => exact steady
  | cons members sets ih =>
    obtain ⟨first, others⟩ := List.forall_mem_cons.1 outside
    exact (steady_one first).andThen (ih others)

/-- A lead, but for its first letter. -/
def leadTail : Reader :=
  Reader.spelled (exactly "REATE") ((Reader.run .blank).andThen
    (Reader.spelled (exactly "TABLE") ((Reader.run .blank).andThen (Reader.optional guard))))

theorem steady_leadTail : Steady leadTail := by
  have blanks : Steady (.run .blank) := steady_run (by decide)
  have guarded : Steady guard := by
    refine Steady.andThen (Steady.spelled ?_ (by decide)) blanks
    refine blanks.andThen (Steady.spelled ?_ (by decide))
    exact blanks.andThen (Steady.spelled (steady_one (by decide)) (by decide))
  exact Steady.spelled (blanks.andThen ((blanks.andThen guarded.optional).spelled (by decide)))
    (by decide)

/-! ### Names that are read again -/

/-- What was no word other than `if` has not become one. -/
theorem word_eq_none_of_rewritten {text out : List Char} (rewritten : Rewritten text out)
    (nothing : word text = none) : word out = none := by
  cases isWord : isWordAt text.head? with
  | false => exact word_eq_none (by rw [head?_of_rewritten rewritten, isWord])
  | true =>
    -- The word is `if`, no letter of it is touched, and what comes behind begins alike.
    have named : isIf (text.takeWhile isWordChar) = true := by
      have nonempty : text.takeWhile isWordChar ≠ [] := by
        cases text with
        | nil => exact absurd isWord (by decide)
        | cons c rest =>
          have isWord : isWordChar c = true := isWord
          simp [isWord]
      simpa [word, nonempty] using nothing
    obtain ⟨c, d, isIfWord, isI, isF⟩ := isIf_eq_true_iff.1 named
    have all : ∀ e ∈ text.takeWhile isWordChar, isWordChar e = true :=
      List.all_eq_true.1 List.all_takeWhile
    rw [isIfWord] at all
    have split : text = c :: d :: text.dropWhile isWordChar := by
      have whole : text.takeWhile isWordChar ++ text.dropWhile isWordChar = text :=
        List.takeWhile_append_dropWhile
      rw [isIfWord] at whole
      exact whole.symm
    have ends := isWordAt_head_dropWhile text
    generalize text.dropWhile isWordChar = behind at split ends
    subst split
    have notC : c ≠ 'C' := by rintro rfl; simp at isI
    have notD : d ≠ 'C' := by rintro rfl; simp at isF
    obtain ⟨later, rfl, goesOn⟩ := rewritten_cons rewritten
    obtain ⟨later, rfl, further⟩ := rewritten_cons (goesOn notC)
    rw [← head?_of_rewritten (further notD)] at ends
    have wordC : isWordChar c = true := all c (by simp)
    have wordD : isWordChar d = true := all d (by simp)
    have again : (c :: d :: later).takeWhile isWordChar = [c, d] := by
      cases later with
      | nil => simp [wordC, wordD]
      | cons e later =>
        have outside : isWordChar e = false := ends
        simp [wordC, wordD, outside]
    rw [word, again, if_pos (.inr (isIf_eq_true_iff.2 ⟨c, d, rfl, isI, isF⟩))]

/-- What was no name has not become one. -/
theorem tableName_ne_none_of_rewritten {text out : List Char} (rewritten : Rewritten text out)
    (reads : tableName out ≠ none) : tableName text ≠ none := by
  obtain ⟨⟨name, rest⟩, read⟩ := Option.ne_none_iff_exists'.1 reads
  rcases tableName_eq_some_iff.1 read with found | ⟨opening, closing, pair, found⟩
  · have isWord : word text ≠ none := by
      intro nothing
      simp [word_eq_none_of_rewritten rewritten nothing] at found
    obtain ⟨⟨name, rest⟩, before⟩ := Option.ne_none_iff_exists'.1 isWord
    simp [tableName_eq_some_iff.2 (.inl before)]
  · obtain ⟨inner, nonempty, outside, rfl, -⟩ := quoted_eq_some_iff.1 found
    have plain : ∀ pair ∈ delimiters, pair.1 ≠ 'C' ∧ pair.2 ∉ newLead := by decide
    obtain ⟨notC, notNew⟩ := plain _ pair
    obtain ⟨d, inner, rfl⟩ := List.exists_cons_of_ne_nil nonempty
    obtain ⟨differs, -⟩ : closing ≠ d ∧ closing ∉ inner := by simpa using outside
    -- The first two characters stand in both texts, and the closing delimiter comes from the first.
    rcases text with _ | ⟨c, text⟩
    · simpa using rewritten_nil rewritten
    obtain ⟨later, same, goesOn⟩ := rewritten_cons rewritten
    obtain ⟨rfl, rfl⟩ := List.cons.inj same
    have behind := goesOn notC
    rcases text with _ | ⟨first, text⟩
    · simpa using rewritten_nil behind
    obtain ⟨later, same, -⟩ := rewritten_cons behind
    obtain ⟨rfl, -⟩ := List.cons.inj same
    have closes : closing ∈ d :: text := mem_of_rewritten notNew behind (by simp)
    obtain ⟨front, back, rfl, isFirst⟩ := List.eq_append_cons_of_mem
      ((List.mem_cons.1 closes).resolve_left differs)
    have before : quoted opening closing (opening :: d :: (front ++ closing :: back)) =
        some (opening :: (d :: front ++ [closing]), back) :=
      quoted_eq_some_iff.2 ⟨d :: front, by simp, by simp [differs, isFirst], rfl, rfl⟩
    simp [tableName_eq_some_iff.2 (.inr ⟨opening, closing, pair, before⟩)]

/-! ### The guard rule, a second time -/

/-- What was no head has not become one. -/
theorem headEditor_eq_none_of_rewritten {c : Char} {rest out : List Char} {before : Option Char}
    (nothing : headEditor before (c :: rest) = none) (later : Rewritten rest out)
    (other : Option Char) : headEditor other (c :: out) = none := by
  refine Option.eq_none_iff_forall_not_mem.2 fun edit found => ?_
  obtain ⟨_, behind, name, last, read, named, -⟩ := headEditor_eq_some_iff.1 found
  obtain ⟨d, _, front, isC, same, tail, rfl⟩ := Reader.spelled_cons_eq_some_iff.1
    (show Reader.spelled (.single 'C' :: exactly "REATE") _ (c :: out) = some _ from read)
  obtain ⟨rfl, rfl⟩ := List.cons.inj same
  have tail : leadTail out = some (front, behind) := tail
  rcases steady_leadTail rest out later with ⟨-, none⟩ | ⟨_, earlier, _, first, again, further⟩
  · simp [none] at tail
  · obtain ⟨rfl, rfl⟩ : _ = front ∧ _ = behind := by simpa [again] using tail
    have isName := tableName_ne_none_of_rewritten further (by simp [named])
    obtain ⟨⟨name, last⟩, isName⟩ := Option.ne_none_iff_exists'.1 isName
    have isLead : lead (c :: rest) = some (c :: _, earlier) :=
      Reader.spelled_cons_eq_some_iff.2 ⟨c, rest, _, isC, rfl, first, rfl⟩
    have edit : headEditor before (c :: rest) = some _ :=
      headEditor_eq_some_iff.2 ⟨_, _, _, _, isLead, isName, rfl⟩
    simp [nothing] at edit

/-- The edit that gives a guarded head back. -/
def keepHead (edit : Edit) : Edit :=
  ⟨newLead, newLead, edit.kept⟩

/-- What the guard rule writes is taken up again. -/
theorem put_eq_taken_keepHead {before : Option Char} {text : List Char} {edit : Edit}
    (made : headEditor before text = some edit) : edit.put = (keepHead edit).taken := by
  obtain ⟨_, _, _, _, -, -, rfl⟩ := headEditor_eq_some_iff.1 made
  rfl

/-- A guarded head is guarded already. -/
theorem headEditor_put {before : Option Char} {edit : Edit} {rest out : List Char}
    (made : headEditor before (edit.taken ++ rest) = some edit) (later : Rewritten rest out)
    (other : Option Char) : headEditor other (edit.put ++ out) = some (keepHead edit) := by
  obtain ⟨lead, name, behind, head, rfl⟩ := headEditor_eq_some_iff_beginsWith.1 made
  obtain rfl := head.rest_eq
  have named := head.named.congr (head?_of_rewritten later)
  refine headEditor_eq_some_iff_beginsWith.2 ⟨plainLead, name, out, ⟨?_, named⟩, rfl⟩
  rw [Edit.put, List.append_assoc, text_plainLead]

/-- **What the guard rule leaves is walked through in the same cuts**: the gaps stay, and every
guarded head is given back. -/
theorem cuts_of_cuts {before : Option Char} {text last : List Char}
    {cuts : List (List Char × Edit)} (walk : Cuts headEditor before text cuts last) :
    ∀ other, Cuts headEditor other ((cuts.flatMap fun (gap, edit) => gap ++ edit.put) ++ last)
      (cuts.map fun (gap, edit) => (gap, keepHead edit)) last := by
  induction walk with
  | last nothing => exact fun other => .last nothing
  | @cut before gap rest last edit cuts skipped made later ih =>
    intro other
    simp only [List.flatMap_cons, List.map_cons, List.append_assoc]
    have pass := later.pass
    have again := ih (lastOf other (gap ++ (keepHead edit).taken))
    generalize (cuts.flatMap fun (gap, edit) => gap ++ edit.put) ++ last = out at pass again ⊢
    -- What comes behind the first place of the gap ends up as what comes behind it now.
    have untouched : Along (fun before text => headEditor before text = none) other gap
        (edit.put ++ out) := by
      intro passed remaining reads nonempty
      obtain ⟨c, remaining, rfl⟩ := List.exists_cons_of_ne_nil nonempty
      subst reads
      obtain ⟨nothing, skipped⟩ := along_cons.1 skipped.append
      have behind : Pass headEditor _ (remaining ++ (edit.taken ++ rest))
          (remaining ++ (edit.put ++ out)) _ :=
        .of_along skipped (.edit (by simpa using made) rfl (by simpa using pass))
      exact headEditor_eq_none_of_rewritten nothing ⟨_, _, behind⟩ _
    have guarded := headEditor_put made ⟨_, _, pass⟩ (lastOf other gap)
    rw [put_eq_taken_keepHead made] at untouched guarded ⊢
    exact .cut untouched guarded again

/-- The guard rule walks through a text and then, in the same cuts, through what it leaves. -/
theorem cuts_createTableGuard_out (text : List Char) : ∃ cuts,
    Cuts headEditor none text cuts (createTableGuard.pattern.occurrences text).rest ∧
      Cuts headEditor none (createTableGuard.apply text).out
        (cuts.map fun (gap, edit) => (gap, keepHead edit))
        (createTableGuard.pattern.occurrences text).rest := by
  obtain ⟨cuts, walk, -, written⟩ := createTableGuard_editsBy.cuts text
  have out : (createTableGuard.apply text).out =
      (cuts.flatMap fun (gap, edit) => gap ++ edit.put) ++
        (createTableGuard.pattern.occurrences text).rest := by
    rw [Rule.out_apply_eq]
    exact written
  exact ⟨cuts, walk, out ▸ cuts_of_cuts walk none⟩

/-- **The guard rule is idle on what it leaves.** -/
theorem isIdle_createTableGuard_out (text : List Char) :
    createTableGuard.IsIdle (createTableGuard.apply text).out := by
  obtain ⟨cuts, -, again⟩ := cuts_createTableGuard_out text
  refine createTableGuard_editsBy.isIdle_of_pass again.pass ?_
  simp only [List.map_map, List.forall_mem_map]
  exact fun cut _ => Edit.isHit_eq_false_iff.2 rfl

/-! ### The heads of a guarded text -/

/-- In what the guard rule leaves, it finds what it has written, behind the same gaps. -/
theorem found_createTableGuard_out (text : List Char) :
    let heads := createTableGuard.pattern.occurrences text
    let guarded := createTableGuard.pattern.occurrences (createTableGuard.apply text).out
    guarded.rest = heads.rest ∧
      guarded.found.map (fun found => (found.gap, found.whole, createTableGuard.render found)) =
        heads.found.map fun found =>
          (found.gap, createTableGuard.render found, createTableGuard.render found) := by
  obtain ⟨cuts, walk, again⟩ := cuts_createTableGuard_out text
  obtain ⟨_, ownWalk, heads, -⟩ := createTableGuard_editsBy.cuts text
  obtain ⟨_, ownAgain, guarded, -⟩ :=
    createTableGuard_editsBy.cuts (createTableGuard.apply text).out
  obtain ⟨rfl, -⟩ := walk.unique ownWalk
  obtain ⟨rfl, sameRest⟩ := again.unique ownAgain
  have puts : ∀ edit ∈ cuts.map Prod.snd, edit.put = (keepHead edit).taken :=
    walk.pass.forall_edits fun _ _ _ made => put_eq_taken_keepHead made
  refine ⟨sameRest.symm, ?_⟩
  have written := congrArg (List.map fun (gap, _, put) => (gap, put, put)) heads
  simp only [List.map_map, Function.comp_def] at written guarded
  refine guarded.trans (Eq.trans ?_ written.symm)
  refine List.map_congr_left fun cut member => ?_
  rw [puts cut.2 (List.mem_map_of_mem member)]
  rfl

/-- **A guarded text has the heads that the text had.** The guard rule finds as many heads in what
it leaves as it has found before, with the same names and the same stretches between them, and each
is written in the one way: the keywords, one guard and the name. -/
theorem heads_of_guarded (text : List Char) :
    let heads := createTableGuard.pattern.occurrences text
    let guarded := createTableGuard.pattern.occurrences (createTableGuard.apply text).out
    guarded.found.map tableOf = heads.found.map tableOf ∧
      guarded.found.map Found.gap = heads.found.map Found.gap ∧ guarded.rest = heads.rest ∧
      ∀ found ∈ guarded.found,
        found.whole = "CREATE TABLE IF NOT EXISTS ".toList ++ tableOf found := by
  obtain ⟨sameRest, same⟩ := found_createTableGuard_out text
  simp only [render_createTableGuard] at same
  refine ⟨?_, ?_, sameRest, fun found member => ?_⟩
  · have names := congrArg (List.map fun (_, _, put) => put.drop newLead.length) same
    simpa [Function.comp_def] using names
  · have gaps := congrArg (List.map Prod.fst) same
    simpa [Function.comp_def] using gaps
  · have asWritten : ∀ triple ∈ (createTableGuard.pattern.occurrences
        (createTableGuard.apply text).out).found.map
          (fun found => (found.gap, found.whole, newLead ++ tableOf found)),
        triple.2.1 = triple.2.2 := by
      rw [same]
      simp
    exact asWritten _ (List.mem_map_of_mem member)

end DumpConverter.Builtin
