/-
**Readers.**

A node that can be passed in one way only reads a stretch of the text and hands on what is behind
it. `Reads` says that of a node and a continuation: a run of a set takes all it can get, if what
comes next has no use for one more member.

* `reads_seq`, `reads_either`: nodes in turn, or side by side, read what their readers do;
* `reads_run`: a run reads up to the first character outside its set;
* `Reader.Parallel`: a reader on two texts, of which one is related to the other.
-/

import DumpConverter.Proofs.Rule.Pass
import Mathlib.Data.List.Forall2

namespace DumpConverter.Matcher

/-- Splits a stretch off the front of a text, if it can. -/
abbrev Reader := List Char → Option (List Char × List Char)

namespace Reader

/-- Reads one member of a set. -/
def one (members : CharSet) : Reader
  | [] => none
  | c :: rest => if members.mem c then some ([c], rest) else none

/-- Reads as many members of a set as there are, at least one. -/
def run (members : CharSet) : Reader := fun text =>
  if text.takeWhile members.mem = [] then none
  else some (text.takeWhile members.mem, text.dropWhile members.mem)

/-- Reads one stretch and another behind it. -/
def andThen (first second : Reader) : Reader := fun text =>
  (first text).bind fun (taken, rest) =>
    (second rest).map fun (further, rest) => (taken ++ further, rest)

/-- Reads nothing. -/
def nothing : Reader := fun text =>
  some ([], text)

/-- Reads a stretch if there is one. -/
def optional (reader : Reader) : Reader := fun text =>
  (reader text).or (some ([], text))

/-- Reads what one reader reads, or else what another reads. -/
def either (first second : Reader) : Reader := fun text =>
  (first text).or (second text)

/-- Reads a member of each set in turn, and then what another reader reads. -/
def spelled (sets : List CharSet) (reader : Reader) : Reader :=
  sets.foldr (fun members rest => (one members).andThen rest) reader

/-- What a reader splits off and what it leaves make up the text. -/
def Splits (reader : Reader) : Prop :=
  ∀ text taken rest, reader text = some (taken, rest) → text = taken ++ rest

theorem one_eq_some_iff {members : CharSet} {text taken rest : List Char} :
    one members text = some (taken, rest) ↔
      ∃ c, members.mem c = true ∧ taken = [c] ∧ text = c :: rest := by
  cases text with
  | nil => simp [one]
  | cons d text =>
    constructor
    · intro read
      rw [one] at read
      split at read
      · obtain ⟨rfl, rfl⟩ : [d] = taken ∧ text = rest := by simpa using read
        exact ⟨d, by assumption, rfl, rfl⟩
      · simp at read
    · rintro ⟨c, member, rfl, same⟩
      obtain ⟨rfl, rfl⟩ := List.cons.inj same
      rw [one, if_pos member]

theorem splits_one (members : CharSet) : (one members).Splits := by
  intro text taken rest read
  obtain ⟨c, -, rfl, rfl⟩ := one_eq_some_iff.1 read
  rfl

theorem run_eq_some_iff {members : CharSet} {text taken rest : List Char} :
    run members text = some (taken, rest) ↔
      taken ≠ [] ∧ taken = text.takeWhile members.mem ∧ rest = text.dropWhile members.mem := by
  unfold run
  split
  · rename_i empty
    simp only [reduceCtorEq, false_iff, not_and]
    rintro nonempty rfl
    exact absurd empty nonempty
  · rename_i nonempty
    simp only [Option.some.injEq, Prod.mk.injEq]
    constructor
    · rintro ⟨rfl, rfl⟩
      exact ⟨nonempty, rfl, rfl⟩
    · rintro ⟨_, rfl, rfl⟩
      exact ⟨rfl, rfl⟩

theorem splits_run (members : CharSet) : (run members).Splits := by
  intro text taken rest read
  obtain ⟨_, rfl, rfl⟩ := run_eq_some_iff.1 read
  exact List.takeWhile_append_dropWhile.symm

theorem andThen_eq_some_iff {first second : Reader} {text taken rest : List Char} :
    first.andThen second text = some (taken, rest) ↔ ∃ front middle back,
      first text = some (front, middle) ∧ second middle = some (back, rest) ∧
        taken = front ++ back := by
  simp only [andThen, Option.bind_eq_some_iff, Option.map_eq_some_iff, Prod.mk.injEq, Prod.exists]
  constructor
  · rintro ⟨front, middle, read, back, _, further, rfl, rfl⟩
    exact ⟨front, middle, back, read, further, rfl⟩
  · rintro ⟨front, middle, back, read, further, rfl⟩
    exact ⟨front, middle, read, back, rest, further, rfl, rfl⟩

theorem spelled_cons_eq_some_iff {members : CharSet} {sets : List CharSet} {reader : Reader}
    {text taken rest : List Char} :
    spelled (members :: sets) reader text = some (taken, rest) ↔ ∃ c behind further,
      members.mem c = true ∧ text = c :: behind ∧
        spelled sets reader behind = some (further, rest) ∧ taken = c :: further := by
  refine andThen_eq_some_iff.trans ⟨?_, ?_⟩
  · rintro ⟨front, behind, further, read, later, rfl⟩
    obtain ⟨c, member, rfl, rfl⟩ := one_eq_some_iff.1 read
    exact ⟨c, behind, further, member, rfl, later, rfl⟩
  · rintro ⟨c, behind, further, member, rfl, later, rfl⟩
    exact ⟨[c], behind, further, one_eq_some_iff.2 ⟨c, member, rfl, rfl⟩, later, rfl⟩

theorem spelled_cons_of_mem {members : CharSet} {c : Char} (member : members.mem c = true)
    (sets : List CharSet) (reader : Reader) (text : List Char) :
    spelled (members :: sets) reader (c :: text) =
      (spelled sets reader text).map fun (taken, rest) => (c :: taken, rest) := by
  have first : one members (c :: text) = some ([c], text) := if_pos member
  have step : spelled (members :: sets) reader (c :: text) =
      (one members).andThen (spelled sets reader) (c :: text) := rfl
  rw [step, andThen, first, Option.bind_some]
  rfl

theorem spelled_cons_of_not_mem {members : CharSet} {c : Char} (outside : members.mem c = false)
    (sets : List CharSet) (reader : Reader) (text : List Char) :
    spelled (members :: sets) reader (c :: text) = none := by
  have first : one members (c :: text) = none := if_neg (Bool.eq_false_iff.1 outside)
  have step : spelled (members :: sets) reader (c :: text) =
      (one members).andThen (spelled sets reader) (c :: text) := rfl
  rw [step, andThen, first, Option.bind_none]

theorem splits_andThen {first second : Reader} (firstSplits : first.Splits)
    (secondSplits : second.Splits) : (first.andThen second).Splits := by
  intro text taken rest read
  obtain ⟨front, middle, back, firstRead, secondRead, rfl⟩ := andThen_eq_some_iff.1 read
  rw [firstSplits _ _ _ firstRead, secondSplits _ _ _ secondRead, List.append_assoc]

theorem splits_optional {reader : Reader} (splits : reader.Splits) : (optional reader).Splits := by
  intro text taken rest read
  rcases Option.or_eq_some_iff.1 read with found | ⟨_, nothing⟩
  · exact splits text taken rest found
  · obtain ⟨rfl, rfl⟩ : [] = taken ∧ text = rest := by simpa using nothing
    rfl

theorem splits_spelled (sets : List CharSet) {reader : Reader} (splits : reader.Splits) :
    (spelled sets reader).Splits := by
  induction sets with
  | nil => exact splits
  | cons members sets ih => exact splits_andThen (splits_one members) ih

theorem andThen_eq_none_of_first {first : Reader} {text : List Char} (fails : first text = none)
    (second : Reader) : first.andThen second text = none := by
  simp [andThen, fails]

theorem one_eq_none {members : CharSet} {text : List Char}
    (other : ∀ c, text.head? = some c → members.mem c = false) : one members text = none := by
  cases text with
  | nil => rfl
  | cons c text => simp [one, other c rfl]

theorem run_eq_none {members : CharSet} {text : List Char}
    (other : ∀ c, text.head? = some c → members.mem c = false) : run members text = none := by
  cases text with
  | nil => simp [run]
  | cons c text => simp [run, other c rfl]

/-- A run reads the members in front of a text that goes on with something else. -/
theorem run_append {members : CharSet} {taken rest : List Char} (nonempty : taken ≠ [])
    (all : ∀ c ∈ taken, members.mem c = true)
    (other : ∀ c, rest.head? = some c → members.mem c = false) :
    run members (taken ++ rest) = some (taken, rest) := by
  have front : (taken ++ rest).takeWhile members.mem = taken := by
    rw [List.takeWhile_append_of_pos all]
    cases rest with
    | nil => simp
    | cons c rest => simp [other c rfl]
  have back : (taken ++ rest).dropWhile members.mem = rest := by
    rw [List.dropWhile_append_of_pos all]
    cases rest with
    | nil => simp
    | cons c rest => simp [other c rfl]
  exact run_eq_some_iff.2 ⟨nonempty, front.symm, back.symm⟩

/-- A run takes members, and something else comes behind it. -/
theorem run_eq_some_iff_append {members : CharSet} {text taken rest : List Char} :
    run members text = some (taken, rest) ↔ text = taken ++ rest ∧ taken ≠ [] ∧
      (∀ c ∈ taken, members.mem c = true) ∧ ∀ c, rest.head? = some c → members.mem c = false := by
  constructor
  · intro read
    obtain ⟨nonempty, rfl, rfl⟩ := run_eq_some_iff.1 read
    refine ⟨List.takeWhile_append_dropWhile.symm, nonempty,
      List.all_eq_true.1 List.all_takeWhile, fun c head => ?_⟩
    have stops := List.head?_dropWhile_not members.mem text
    rwa [head] at stops
  · rintro ⟨rfl, nonempty, all, ends⟩
    exact run_append nonempty all ends

/-- What is spelled is a member of each set in turn, and then what the reader reads. -/
theorem spelled_eq_some_iff {sets : List CharSet} {reader : Reader}
    {text taken rest : List Char} :
    spelled sets reader text = some (taken, rest) ↔ ∃ letters behind further,
      List.Forall₂ (fun members c => CharSet.mem members c = true) sets letters ∧
        text = letters ++ behind ∧ reader behind = some (further, rest) ∧
        taken = letters ++ further := by
  induction sets generalizing text taken with
  | nil => simp [spelled]
  | cons members sets ih =>
    rw [spelled_cons_eq_some_iff]
    constructor
    · rintro ⟨c, _, _, member, rfl, later, rfl⟩
      obtain ⟨letters, behind, further, all, rfl, read, rfl⟩ := ih.1 later
      exact ⟨c :: letters, behind, further, .cons member all, rfl, read, rfl⟩
    · rintro ⟨letters, behind, further, all, rfl, read, rfl⟩
      cases all with
      | cons member all =>
        exact ⟨_, _, _, member, rfl, ih.2 ⟨_, behind, further, all, rfl, read, rfl⟩, rfl⟩

/-! ### What is split off -/

/-- Whether what a reader splits off always ends in a character that passes a test. -/
def Ends (test : Char → Bool) (reader : Reader) : Prop :=
  ∀ text taken rest, reader text = some (taken, rest) →
    ∃ c, taken.getLast? = some c ∧ test c = true

theorem ends_run (members : CharSet) : (run members).Ends members.mem := by
  intro text taken rest read
  obtain ⟨nonempty, rfl, -⟩ := run_eq_some_iff.1 read
  refine ⟨_, List.getLast?_eq_some_getLast nonempty, ?_⟩
  exact List.all_eq_true.1 List.all_takeWhile _ (List.getLast_mem nonempty)

theorem Ends.andThen {test : Char → Bool} {second : Reader} (ends : second.Ends test)
    (first : Reader) : (first.andThen second).Ends test := by
  intro text taken rest read
  obtain ⟨front, middle, back, -, further, rfl⟩ := andThen_eq_some_iff.1 read
  obtain ⟨c, isLast, passes⟩ := ends _ _ _ further
  exact ⟨c, by simp [List.getLast?_append, isLast], passes⟩

theorem Ends.andThen_optional {test : Char → Bool} {first second : Reader} (one : first.Ends test)
    (two : second.Ends test) : (first.andThen (optional second)).Ends test := by
  intro text taken rest read
  obtain ⟨front, middle, back, reads, further, rfl⟩ := andThen_eq_some_iff.1 read
  rcases Option.or_eq_some_iff.1 further with found | ⟨-, nothing⟩
  · obtain ⟨c, isLast, passes⟩ := two _ _ _ found
    exact ⟨c, by simp [List.getLast?_append, isLast], passes⟩
  · obtain ⟨rfl, rfl⟩ : [] = back ∧ middle = rest := by simpa using nothing
    simpa using one _ _ _ reads

theorem Ends.spelled {test : Char → Bool} {reader : Reader} (ends : reader.Ends test)
    (sets : List CharSet) : (spelled sets reader).Ends test := by
  induction sets with
  | nil => exact ends
  | cons members sets ih => exact ih.andThen _

/-- Whether a reader never splits off a given character. -/
def Avoids (c : Char) (reader : Reader) : Prop :=
  ∀ text taken rest, reader text = some (taken, rest) → c ∉ taken

theorem avoids_one {c : Char} {members : CharSet} (outside : members.mem c = false) :
    (one members).Avoids c := by
  intro text taken rest read
  obtain ⟨d, member, rfl, -⟩ := one_eq_some_iff.1 read
  rintro inside
  obtain rfl := List.mem_singleton.1 inside
  exact Bool.false_ne_true (outside.symm.trans member)

theorem avoids_run {c : Char} {members : CharSet} (outside : members.mem c = false) :
    (run members).Avoids c := by
  intro text taken rest read inside
  obtain ⟨-, rfl, -⟩ := run_eq_some_iff.1 read
  have member := List.all_eq_true.1 List.all_takeWhile c inside
  exact Bool.false_ne_true (outside.symm.trans member)

theorem Avoids.andThen {c : Char} {first second : Reader} (one : first.Avoids c)
    (two : second.Avoids c) : (first.andThen second).Avoids c := by
  intro text taken rest read
  obtain ⟨front, middle, back, reads, further, rfl⟩ := andThen_eq_some_iff.1 read
  rw [List.mem_append, not_or]
  exact ⟨one _ _ _ reads, two _ _ _ further⟩

theorem Avoids.optional {c : Char} {reader : Reader} (avoids : reader.Avoids c) :
    (optional reader).Avoids c := by
  intro text taken rest read
  rcases Option.or_eq_some_iff.1 read with found | ⟨-, nothing⟩
  · exact avoids _ _ _ found
  · obtain ⟨rfl, rfl⟩ : [] = taken ∧ text = rest := by simpa using nothing
    exact List.not_mem_nil

theorem Avoids.spelled {c : Char} {reader : Reader} (avoids : reader.Avoids c)
    {sets : List CharSet} (outside : ∀ members ∈ sets, members.mem c = false) :
    (spelled sets reader).Avoids c := by
  induction sets with
  | nil => exact avoids
  | cons members sets ih =>
    obtain ⟨first, others⟩ := List.forall_mem_cons.1 outside
    exact (avoids_one first).andThen (ih others)

/-! ### Two texts at once -/

/-- Whether a reader, on two related texts, fails on both or stops at places that are related again;
if `exact`, it takes the same from both. -/
def Parallel (reader : Reader) (exact : Bool) (related after : List Char → List Char → Prop) :
    Prop :=
  ∀ text out, related text out → (reader text = none ∧ reader out = none) ∨
    ∃ taken behind other rest, reader text = some (taken, behind) ∧
      reader out = some (other, rest) ∧ (exact = true → taken = other) ∧ after behind rest

namespace Parallel

variable {first second : Reader} {exact : Bool}
  {related between after : List Char → List Char → Prop}

/-- **Readers in turn stay in parallel.** -/
theorem andThen (one : first.Parallel exact related between)
    (two : second.Parallel exact between after) :
    (first.andThen second).Parallel exact related after := by
  intro text out pair
  rcases one text out pair with
    ⟨none, other⟩ | ⟨front, behind, start, rest, read, again, sameFront, further⟩
  · exact .inl ⟨andThen_eq_none_of_first none _, andThen_eq_none_of_first other _⟩
  · rcases two behind rest further with
      ⟨none, other⟩ | ⟨back, _, stop, _, goesOn, twice, sameBack, last⟩
    · exact .inl (by simp [Reader.andThen, read, again, none, other])
    · refine .inr ⟨front ++ back, _, start ++ stop, _, by simp [Reader.andThen, read, goesOn],
        by simp [Reader.andThen, again, twice], fun isExact => ?_, last⟩
      rw [sameFront isExact, sameBack isExact]

theorem optional (one : first.Parallel exact related related) :
    (Reader.optional first).Parallel exact related related := by
  intro text out pair
  rcases one text out pair with ⟨none, other⟩ | ⟨taken, _, _, _, read, again, behind⟩
  · exact .inr ⟨[], text, [], out, by simp [Reader.optional, none],
      by simp [Reader.optional, other], fun _ => rfl, pair⟩
  · exact .inr ⟨taken, _, _, _, by simp [Reader.optional, read], by simp [Reader.optional, again],
      behind⟩

theorem either (one : first.Parallel exact related after)
    (two : second.Parallel exact related after) :
    (first.either second).Parallel exact related after := by
  intro text out pair
  rcases one text out pair with ⟨none, other⟩ | ⟨taken, _, _, _, read, again, behind⟩
  · simpa [Reader.either, none, other] using two text out pair
  · exact .inr ⟨taken, _, _, _, by simp [Reader.either, read], by simp [Reader.either, again],
      behind⟩

/-- Less may be asked of the stretches and of the places behind them. -/
theorem mono (one : first.Parallel exact related between)
    (weaker : ∀ text out, between text out → after text out) :
    first.Parallel false related after := by
  intro text out pair
  rcases one text out pair with nothing | ⟨taken, _, other, _, read, again, -, behind⟩
  · exact .inl nothing
  · exact .inr ⟨taken, _, other, _, read, again, nofun, weaker _ _ behind⟩

end Parallel

/-- A run stays in parallel if it comes to an end alike in related texts. -/
theorem parallel_run {members : CharSet} {exact : Bool}
    {related after : List Char → List Char → Prop}
    (ends : ∀ text out, related text out →
      (text.takeWhile members.mem = [] ↔ out.takeWhile members.mem = []) ∧
        (exact = true → text.takeWhile members.mem = out.takeWhile members.mem) ∧
        after (text.dropWhile members.mem) (out.dropWhile members.mem)) :
    (run members).Parallel exact related after := by
  intro text out pair
  obtain ⟨empty, same, behind⟩ := ends text out pair
  by_cases nothing : text.takeWhile members.mem = []
  · exact .inl ⟨if_pos nothing, if_pos (empty.1 nothing)⟩
  · exact .inr ⟨_, _, _, _, if_neg nothing, if_neg (mt empty.2 nothing), same, behind⟩

end Reader

/-! ### Nodes that read -/

/-- Goes on behind what has been read. -/
def proceed (next : Continuation) (spot : Spot) (marks : Marks) :
    Option (List Char × List Char) → Option Best
  | none => none
  | some (taken, rest) =>
    next ⟨lastOf spot.before taken, rest, spot.offset + taken.length⟩ marks

/-- Whether a node reads what a reader reads, and nothing else that a continuation would accept. -/
def Reads (node : Node) (reader : Reader) (next : Continuation) : Prop :=
  ∀ spot marks, attempt node next spot marks = proceed next spot marks (reader spot.text)

/-- Whether a continuation fails between two members of a set. -/
def Refuses (next : Continuation) (members : CharSet) : Prop :=
  ∀ spot marks c d, spot.before = some c → members.mem c = true → spot.text.head? = some d →
    members.mem d = true → next spot marks = none

theorem reads_one (members : CharSet) (next : Continuation) :
    Reads (.one members) (.one members) next := by
  rintro ⟨before, _ | ⟨c, rest⟩, offset⟩ marks
  · rfl
  · by_cases member : members.mem c = true <;>
      simp [attempt, Reader.one, proceed, member]

/-- **Nodes in turn read what their readers read in turn.** -/
theorem reads_seq {first second : Node} {firstReader secondReader : Reader} {next : Continuation}
    (one : Reads first firstReader (attempt second next)) (two : Reads second secondReader next) :
    Reads (.seq first second) (firstReader.andThen secondReader) next := by
  intro spot marks
  rw [attempt, one spot marks]
  cases read : firstReader spot.text with
  | none => simp [Reader.andThen, read, proceed]
  | some split =>
    obtain ⟨taken, rest⟩ := split
    simp only [proceed]
    rw [two]
    cases further : secondReader rest with
    | none => simp [Reader.andThen, read, further, proceed]
    | some more =>
      simp [Reader.andThen, read, further, proceed, Nat.add_assoc]

/-- A member of each set in turn, and then what the node behind them reads. -/
theorem reads_spelled {node : Node} {reader : Reader} {next : Continuation} (sets : List CharSet)
    (reads : Reads node reader next) :
    Reads (sets.foldr (fun members rest => .seq (.one members) rest) node) (.spelled sets reader)
      next := by
  induction sets with
  | nil => exact reads
  | cons members sets ih => exact reads_seq (reads_one members _) ih

/-- An alternative reads what either of its sides reads, if no text suits both. -/
theorem reads_either {label : Nat} {first second : Node} {firstReader secondReader : Reader}
    {next : Continuation} (one : Reads first firstReader next)
    (two : Reads second secondReader next)
    (apart : ∀ text, firstReader text = none ∨ secondReader text = none) :
    Reads (.alt label first second) (firstReader.either secondReader) next := by
  intro spot marks
  rw [attempt_alt, one, two]
  rcases apart spot.text with nothing | nothing
  · simp [Reader.either, nothing, proceed]
  · simp [Reader.either, nothing, proceed]

/-- A continuation that reads first refuses what its reader cannot begin with. -/
theorem refuses_of_reads {node : Node} {reader : Reader} {next : Continuation}
    (reads : Reads node reader next) {members : CharSet}
    (blocked : ∀ text c, text.head? = some c → members.mem c = true → reader text = none) :
    Refuses (attempt node next) members := by
  intro spot marks _ d _ _ head member
  rw [reads, blocked spot.text d head member]
  rfl

/-- A greedy loop goes on as long as there are members. -/
theorem attempt_loop_one {label : Nat} {members : CharSet} {next : Continuation}
    (refuses : Refuses next members) (text : List Char) :
    ∀ (c : Char) (offset : Nat) (marks : Marks), members.mem c = true →
      attempt (.loop label true (.one members)) next ⟨some c, text, offset⟩ marks =
        next ⟨lastOf (some c) (text.takeWhile members.mem), text.dropWhile members.mem,
          offset + (text.takeWhile members.mem).length⟩ marks := by
  induction text with
  | nil =>
    intro c offset marks _
    rw [attempt_loop rfl]
    simp [attempt]
  | cons d text ih =>
    intro c offset marks member
    rw [attempt_loop rfl]
    by_cases more : members.mem d = true
    · have here : next ⟨some c, d :: text, offset⟩ marks = none :=
        refuses ⟨some c, d :: text, offset⟩ marks c d rfl member rfl more
      have again := ih d (offset + 1) marks more
      simp [attempt.eq_2, more, again, here, Nat.add_assoc, Nat.add_comm]
    · simp [attempt.eq_2, more]

/-- **A run reads up to the first character outside its set.** -/
theorem reads_run {label : Nat} {members : CharSet} {next : Continuation}
    (refuses : Refuses next members) :
    Reads (.seq (.one members) (.loop label true (.one members))) (.run members) next := by
  rintro ⟨before, _ | ⟨c, rest⟩, offset⟩ marks
  · simp [attempt, Reader.run, proceed]
  · by_cases member : members.mem c = true
    · have run : Reader.run members (c :: rest) =
          some (c :: rest.takeWhile members.mem, rest.dropWhile members.mem) := by
        simp [Reader.run, member]
      rw [attempt, attempt.eq_2]
      simp only [member, if_true, attempt_loop_one refuses rest c _ marks member, run, proceed,
        lastOf_cons, List.length_cons]
      congr 2
      omega
    · have nothing : Reader.run members (c :: rest) = none := by simp [Reader.run, member]
      rw [attempt, attempt.eq_2, nothing]
      simp [member, proceed]

end DumpConverter.Matcher
