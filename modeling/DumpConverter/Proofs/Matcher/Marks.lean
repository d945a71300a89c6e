/-
**The marks of a whole match.**

A thread opens the match before it follows the pattern and closes it when nothing else is left to be
matched. So every match is marked from its first character to its last, whatever the pattern is: it
may match nothing, and its loops may go round without consuming.

* `onCourse_advance`, `closed_of_run`: exploring a place and reading on keep all threads under way,
  and a match that is found is closed;
* `isMarked_of_mem_occurrences`: the group with the index zero is the whole match.
-/

import DumpConverter.Pattern.Compile
import DumpConverter.Proofs.Matcher.Threads

namespace DumpConverter.Matcher

open Pattern

/-! ### Threads under way -/

/-- Whether marks tell where a match begins. -/
def Opened (marks : Marks) : Prop :=
  (marks.lookup 0).isSome = true

/-- Whether marks tell where a match begins, and that it ends at `stop`. -/
def Closed (stop : Nat) (marks : Marks) : Prop :=
  Opened marks ∧ marks.lookup 1 = some stop

/-- Whether the last thing to be done is to close the match. -/
def Closes (todo : List Node) : Prop :=
  todo.getLast? = some (.mark 1)

theorem Closes.cons {todo : List Node} (closes : Closes todo) (node : Node) :
    Closes (node :: todo) := by
  unfold Closes at closes ⊢
  rw [List.getLast?_cons, closes, Option.getD_some]

/-- What closes the match is at the end, behind any other node. -/
theorem Closes.tail {node : Node} {rest : List Node} (closes : Closes (node :: rest))
    (other : node ≠ .mark 1) : Closes rest := by
  unfold Closes at closes ⊢
  cases rest with
  | nil => exact absurd (by simpa using closes) other
  | cons second rest => simpa using closes

theorem opened_mark {marks : Marks} (opened : Opened marks) (slot offset : Nat) :
    Opened ((slot, offset) :: marks) := by
  unfold Opened at opened ⊢
  rw [List.lookup_cons]
  split
  · rfl
  · exact opened

theorem closed_mark {marks : Marks} (opened : Opened marks) (offset : Nat) :
    Closed offset ((1, offset) :: marks) :=
  ⟨opened_mark opened 1 offset, List.lookup_cons_self⟩

/-- Whether a thread has opened its match and is bound to close it. -/
def UnderWay (todo : List Node) (marks : Marks) : Prop :=
  Opened marks ∧ Closes todo

/-- Whether a thread is under way, or has closed its match at `offset`. -/
def OnCourse (offset : Nat) (todo : List Node) (marks : Marks) : Prop :=
  UnderWay todo marks ∨ todo = [] ∧ Closed offset marks

theorem UnderWay.tail {node : Node} {rest : List Node} {marks : Marks}
    (underWay : UnderWay (node :: rest) marks) (other : node ≠ .mark 1) : UnderWay rest marks :=
  ⟨underWay.1, underWay.2.tail other⟩

theorem onCourse_cons_iff {offset : Nat} {node : Node} {rest : List Node} {marks : Marks} :
    OnCourse offset (node :: rest) marks ↔ UnderWay (node :: rest) marks := by
  simp [OnCourse]

/-- Threads stay on course. -/
theorem keeps_onCourse (place : Place) : place.Keeps (OnCourse place.offset) UnderWay where
  empty here := .inl ((onCourse_cons_iff.1 here).tail nofun)
  one here := (onCourse_cons_iff.1 here).tail nofun
  look here := .inl ((onCourse_cons_iff.1 here).tail nofun)
  mark := by
    intro slot rest marks here
    obtain ⟨opened, closes⟩ := onCourse_cons_iff.1 here
    cases rest with
    | nil =>
      obtain rfl : slot = 1 := by simpa [Closes] using closes
      exact .inr ⟨rfl, closed_mark opened place.offset⟩
    | cons second rest =>
      exact .inl ⟨opened_mark opened slot place.offset, by simpa [Closes] using closes⟩
  seq here := by
    obtain ⟨opened, closes⟩ := onCourse_cons_iff.1 here
    exact .inl ⟨opened, ((closes.tail nofun).cons _).cons _⟩
  alt here := by
    obtain ⟨opened, closes⟩ := onCourse_cons_iff.1 here
    exact ⟨.inl ⟨opened, (closes.tail nofun).cons _⟩, .inl ⟨opened, (closes.tail nofun).cons _⟩⟩
  loop here := by
    obtain ⟨opened, closes⟩ := onCourse_cons_iff.1 here
    exact ⟨.inl ⟨opened, closes.cons _⟩, .inl ⟨opened, closes.tail nofun⟩⟩

/-- What is left to do at a place where the match of an expression has been opened. -/
def opening (expr : Expr) : List Node :=
  [((ofExpr expr).run 0).1, .mark 1]

/-- A thread that begins at a place opens its match there. -/
theorem exploreAll_ofPattern (place : Place) (expr : Expr) (front : Front) :
    exploreAll place [ofPattern expr] [] front =
      exploreAll place (opening expr) [(0, place.offset)] front := rfl

/-- **Exploring a place finds matches that are marked from beginning to end.** -/
theorem onCourse_advance (place : Place) (expr : Expr) {threads : List Thread}
    (known : ∀ thread ∈ threads, UnderWay thread.todo thread.marks ∨
      thread = ⟨[ofPattern expr], []⟩) :
    (advance place threads).All UnderWay (OnCourse place.offset []) := by
  refine all_foldl_follow (fun thread member front all => ?_) .empty
  rcases known thread member with underWay | rfl
  · exact (keeps_onCourse place).exploreAll (.inl underWay) all
  · have start : UnderWay (opening expr) [(0, place.offset)] := ⟨rfl, rfl⟩
    rw [exploreAll_ofPattern]
    exact (keeps_onCourse place).exploreAll (.inl start) all

/-! ### Matches -/

/-- **Reading on finds a match that is marked from beginning to end.** -/
theorem closed_of_run (expr : Expr) {text : List Char} :
    ∀ {before : Option Char} {offset : Nat} {threads : List Thread} {best : Option Best}
      {found : Best}, (∀ thread ∈ threads, UnderWay thread.todo thread.marks) →
      (∀ earlier, best = some earlier → Closed earlier.stop earlier.marks) →
      run (ofPattern expr) before offset threads best text = some found →
      Closed found.stop found.marks := by
  -- What stands at a place is known by the threads and the match so far that come there.
  have here (before : Option Char) (offset : Nat) (text : List Char) {threads : List Thread}
      {best : Option Best} (underWay : ∀ thread ∈ threads, UnderWay thread.todo thread.marks)
      (closed : ∀ earlier, best = some earlier → Closed earlier.stop earlier.marks) :
      let front := advance (Spot.place ⟨before, text, offset⟩)
        (entered (ofPattern expr) threads best)
      front.All UnderWay (OnCourse offset []) ∧
        ∀ found, (front.won.map fun marks => ⟨offset, marks⟩).or best = some found →
          Closed found.stop found.marks := by
    have all : (advance (Spot.place ⟨before, text, offset⟩)
        (entered (ofPattern expr) threads best)).All UnderWay (OnCourse offset []) := by
      refine onCourse_advance (Spot.place ⟨before, text, offset⟩) expr fun thread member => ?_
      unfold entered at member
      split at member
      · exact .inl (underWay thread member)
      · rcases List.mem_append.1 member with earlier | fresh
        · exact .inl (underWay thread earlier)
        · exact .inr (List.mem_singleton.1 fresh)
    refine ⟨all, fun found better => ?_⟩
    rcases Option.or_eq_some_iff.1 better with first | ⟨-, earlier⟩
    · obtain ⟨marks, won, rfl⟩ := Option.map_eq_some_iff.1 first
      rcases all.won marks won with ⟨-, closes⟩ | ⟨-, isClosed⟩
      · simp [Closes] at closes
      · exact isClosed
    · exact closed found earlier
  induction text with
  | nil =>
    intro before offset threads best found underWay closed result
    rw [run_step] at result
    exact (here before offset [] underWay closed).2 found result
  | cons c rest ih =>
    intro before offset threads best found underWay closed result
    obtain ⟨all, better⟩ := here before offset (c :: rest) underWay closed
    rw [run_step] at result
    exact ih (fun thread member => all.threads thread (List.mem_reverse.1 member)) better result

/-- Whether the group with the index zero is the whole match. -/
def Found.IsMarked (found : Found) : Prop :=
  found.group? 0 = some found.whole

theorem isMarked_of_find? {expr : Expr} {before : Option Char} {text : List Char} {found : Found}
    (result : find? (ofPattern expr) before text = some found) : found.IsMarked := by
  unfold find? at result
  split at result
  · simp at result
  · rename_i best first
    obtain ⟨opened, closed⟩ := closed_of_run expr (by simp) (by simp) first
    obtain ⟨start, opens⟩ := Option.isSome_iff_exists.1 opened
    simp only [opens, Option.getD_some, Option.some.injEq] at result
    subst result
    have stretch : ((text.drop start).take (best.stop - start)).drop
        (start - (text.take start).length) = (text.drop start).take (best.stop - start) := by
      rcases Nat.le_total start text.length with inside | beyond
      · rw [List.length_take, Nat.min_eq_left inside, Nat.sub_self, List.drop_zero]
      · rw [List.drop_eq_nil_of_le beyond, List.take_nil, List.drop_nil]
    simp only [Found.IsMarked, Found.group?, Found.slot?, Nat.mul_zero, Nat.zero_add, opens, closed,
      stretch, List.take_take, Nat.min_self]

/-- Marks with all offsets one further. -/
def Marks.shift (marks : Marks) : Marks :=
  marks.map fun (slot, offset) => (slot, offset + 1)

theorem Marks.lookup_shift (marks : Marks) (slot : Nat) :
    marks.shift.lookup slot = (marks.lookup slot).map (· + 1) := by
  unfold shift
  induction marks with
  | nil => rfl
  | cons mark marks ih =>
    rw [List.map_cons, List.lookup_cons, List.lookup_cons, ih]
    split <;> rfl

/-- The groups of a match have the same text wherever its gap begins. -/
theorem Found.group?_behind (found : Found) (c : Char) (index : Nat) :
    (found.behind c).group? index = found.group? index := by
  have moved (slot : Nat) : (found.behind c).slot? slot = (found.slot? slot).map (· + 1) :=
    Marks.lookup_shift found.marks slot
  have gap : (found.behind c).gap.length = found.gap.length + 1 := rfl
  have whole : (found.behind c).whole = found.whole := rfl
  unfold Found.group?
  rw [moved, moved, gap, whole]
  cases found.slot? (2 * index) with
  | none => rfl
  | some first =>
    cases found.slot? (2 * index + 1) with
    | none => rfl
    | some last =>
      simp only [Option.map_some, Nat.add_sub_add_right]

/-- A character more in the gap moves the marks along. -/
theorem Found.IsMarked.behind {found : Found} (marked : found.IsMarked) (c : Char) :
    (found.behind c).IsMarked :=
  (found.group?_behind c 0).trans marked

theorem isMarked_of_next? {expr : Expr} {before : Option Char} {adjoins : Bool} {text : List Char}
    {found : Found} (result : next? (ofPattern expr) before adjoins text = some found) :
    found.IsMarked := by
  unfold next? at result
  split at result
  · simp at result
  · rename_i first isFirst
    split at result
    · split at result
      · simp at result
      · obtain ⟨later, isLater, rfl⟩ := Option.map_eq_some_iff.1 result
        exact (isMarked_of_find? isLater).behind _
    · obtain rfl := Option.some.inj result
      exact isMarked_of_find? isFirst

/-- **Of every match in a text, the group with the index zero is the whole.** -/
theorem isMarked_of_mem_occurrences {expr : Expr} {text : List Char} :
    ∀ found ∈ (occurrences (ofPattern expr) text).found, found.IsMarked := by
  unfold occurrences
  generalize text.length + 1 = steps, (none : Option Char) = before, false = adjoins
  induction steps generalizing before adjoins text with
  | zero => simp [occurrencesFrom]
  | succ steps ih =>
    unfold occurrencesFrom
    split
    · simp
    · rename_i found result
      exact List.forall_mem_cons.2 ⟨isMarked_of_next? result, ih _ _⟩

end DumpConverter.Matcher
