/-
**Attempts.**

The meaning of a matching node without threads: `attempt` follows a node from one spot of the text,
tries the ways through it in order of rank and takes the first that the continuation accepts.

* `attempt_loop`: a loop whose body consumes goes round or leaves, in the order of its rank;
* `attempt_congr`: an attempt depends on its continuation only at the spots it can come to;
* `attemptAll_isSome_congr`: whether an attempt succeeds does not depend on the marks made before
  it.
-/

import DumpConverter.Matcher.Search

namespace DumpConverter.Matcher

/-- A spot in a text: the character before it, the text after it and the number of characters before
it. -/
structure Spot where
  before : Option Char
  text : List Char
  offset : Nat

namespace Spot

/-- The spot as a thread sees it. -/
def place (spot : Spot) : Place :=
  ⟨spot.before, spot.text.head?, spot.offset⟩

end Spot

/-- What is tried once a node is done. -/
abbrev Continuation := Spot → Marks → Option Best

/-- Goes through a body at most `rounds` times; a round that consumes nothing does not count. -/
def repeatedly (once : Continuation → Continuation) (greedy : Bool) (leave : Continuation) :
    Nat → Continuation
  | 0, spot, marks => leave spot marks
  | rounds + 1, spot, marks =>
    let again := once (fun later marks =>
      if later.text.length < spot.text.length then repeatedly once greedy leave rounds later marks
      else none) spot marks
    if greedy then again.or (leave spot marks) else (leave spot marks).or again

/-- The first way through a node, by rank, that `next` accepts. -/
def attempt : Node → Continuation → Continuation
  | .empty, next => next
  | .one members, next => fun spot marks =>
    match spot.text with
    | [] => none
    | c :: rest => if members.mem c then next ⟨some c, rest, spot.offset + 1⟩ marks else none
  | .look asked, next => fun spot marks =>
    if spot.place.satisfies asked then next spot marks else none
  | .mark slot, next => fun spot marks => next spot ((slot, spot.offset) :: marks)
  | .seq first second, next => attempt first (attempt second next)
  | .alt _ first second, next => fun spot marks =>
    (attempt first next spot marks).or (attempt second next spot marks)
  | .loop _ greedy body, next => fun spot marks =>
    repeatedly (attempt body) greedy next spot.text.length spot marks

theorem attempt_seq (first second : Node) (next : Continuation) :
    attempt (.seq first second) next = attempt first (attempt second next) := rfl

theorem attempt_alt (label : Nat) (first second : Node) (next : Continuation) (spot : Spot)
    (marks : Marks) :
    attempt (.alt label first second) next spot marks =
      (attempt first next spot marks).or (attempt second next spot marks) := rfl

theorem attempt_one_nil (members : CharSet) (next : Continuation) (before : Option Char)
    (offset : Nat) (marks : Marks) :
    attempt (.one members) next ⟨before, [], offset⟩ marks = none := rfl

theorem attempt_one_cons (members : CharSet) (next : Continuation) (before : Option Char) (c : Char)
    (rest : List Char) (offset : Nat) (marks : Marks) :
    attempt (.one members) next ⟨before, c :: rest, offset⟩ marks =
      if members.mem c then next ⟨some c, rest, offset + 1⟩ marks else none := rfl

/-- The first way through nodes in turn; at their end the match is complete. -/
def attemptAll : List Node → Continuation
  | [] => fun spot marks => some ⟨spot.offset, marks⟩
  | node :: rest => attempt node (attemptAll rest)

namespace Node

/-- Whether a node can be passed without consuming. -/
def isNullable : Node → Bool
  | empty => true
  | one _ => false
  | look _ => true
  | mark _ => true
  | seq first second => first.isNullable && second.isNullable
  | alt _ first second => first.isNullable || second.isNullable
  | loop _ _ _ => true

/-- Whether every round of every loop consumes. -/
def isProductive : Node → Bool
  | seq first second => first.isProductive && second.isProductive
  | alt _ first second => first.isProductive && second.isProductive
  | loop _ _ body => !body.isNullable && body.isProductive
  | _ => true

end Node

/-! ### What an attempt depends on -/

/-- A spot that an attempt on a node from `spot` can hand on. -/
def Reaches (node : Node) (spot later : Spot) : Prop :=
  if node.isNullable then later.text.length ≤ spot.text.length
  else later.text.length < spot.text.length

/-- A node that can be passed without consuming wherever another can reaches what that one reaches. -/
theorem Reaches.mono {node wider : Node} {spot later : Spot} (reached : Reaches node spot later)
    (passes : node.isNullable = true → wider.isNullable = true) : Reaches wider spot later := by
  unfold Reaches at reached ⊢
  split at reached
  case isTrue nullable => rwa [if_pos (passes nullable)]
  case isFalse => split <;> omega

theorem Reaches.seq {first second : Node} {spot middle later : Spot}
    (reached : Reaches first spot middle) (further : Reaches second middle later) :
    Reaches (.seq first second) spot later := by
  unfold Reaches at reached further ⊢
  rw [Node.isNullable]
  cases firstNullable : first.isNullable <;> cases secondNullable : second.isNullable
  all_goals
    simp only [firstNullable, secondNullable, Bool.and_self, Bool.and_false, Bool.false_and, if_true,
      Bool.false_eq_true, if_false] at reached further ⊢
    omega

/-- **An attempt depends on its continuation only at the spots it can come to.** -/
theorem attempt_congr (node : Node) {next other : Continuation} {spot : Spot} {marks : Marks}
    (same : ∀ later marks, Reaches node spot later → next later marks = other later marks) :
    attempt node next spot marks = attempt node other spot marks := by
  induction node generalizing next other spot marks with
  | empty => exact same spot marks (by simp [Reaches, Node.isNullable])
  | one members =>
    rcases spot with ⟨before, text, offset⟩
    cases text with
    | nil => rfl
    | cons c rest =>
      simp only [attempt]
      rw [same _ _ (by simp [Reaches, Node.isNullable])]
  | look asked =>
    simp only [attempt]
    rw [same _ _ (by simp [Reaches, Node.isNullable])]
  | mark slot => exact same _ _ (by simp [Reaches, Node.isNullable])
  | seq first second ihFirst ihSecond =>
    exact ihFirst fun middle marks reached => ihSecond fun later marks further =>
      same later marks (reached.seq further)
  | alt label first second ihFirst ihSecond =>
    simp only [attempt]
    rw [ihFirst fun later marks reached => same later marks (reached.mono fun nullable => ?_),
      ihSecond fun later marks reached => same later marks (reached.mono fun nullable => ?_)]
    · rw [Node.isNullable, nullable, Bool.or_true]
    · rw [Node.isNullable, nullable, Bool.true_or]
  | loop label greedy body ih =>
    have leaves : ∀ later marks, later.text.length ≤ spot.text.length →
        next later marks = other later marks := fun later marks shorter =>
      same later marks (by simpa [Reaches, Node.isNullable] using shorter)
    -- Every round starts at a spot that `leaves` still speaks about.
    have rounds : ∀ count later marks, later.text.length ≤ spot.text.length →
        repeatedly (attempt body) greedy next count later marks =
          repeatedly (attempt body) greedy other count later marks := by
      intro count
      induction count with
      | zero => exact leaves
      | succ count round =>
        intro later marks shorter
        have again : (fun further marks => if further.text.length < later.text.length then
            repeatedly (attempt body) greedy next count further marks else none) =
            fun further marks => if further.text.length < later.text.length then
              repeatedly (attempt body) greedy other count further marks else none := by
          funext further marks
          split
          · exact round further marks (by omega)
          · rfl
        simp only [repeatedly]
        rw [again, leaves later marks shorter]
    exact rounds _ spot marks (Nat.le_refl _)

/-- Nothing is found where nothing is accepted. -/
theorem attempt_none (node : Node) (spot : Spot) (marks : Marks) :
    attempt node (fun _ _ => none) spot marks = none := by
  induction node generalizing spot marks with
  | empty => rfl
  | one members => rcases spot with ⟨before, _ | ⟨c, rest⟩, offset⟩ <;> simp [attempt]
  | look asked => simp [attempt]
  | mark slot => rfl
  | seq first second ihFirst ihSecond =>
    have second_none : attempt second (fun _ _ => none) = fun _ _ => none := by
      funext spot marks
      exact ihSecond spot marks
    simp only [attempt]
    rw [second_none, ihFirst]
  | alt label first second ihFirst ihSecond => simp [attempt, ihFirst, ihSecond]
  | loop label greedy body ih =>
    have rounds : ∀ count spot marks,
        repeatedly (attempt body) greedy (fun _ _ => none) count spot marks = none := by
      intro count
      induction count with
      | zero => exact fun _ _ => rfl
      | succ count round => simp [repeatedly, round, ih]
    exact rounds _ spot marks

/-! ### Loops -/

/-- More rounds than there are characters change nothing. -/
theorem repeatedly_eq_of_le (body : Node) (greedy : Bool) (leave : Continuation) :
    ∀ {first second : Nat} {spot : Spot}, spot.text.length ≤ first → spot.text.length ≤ second →
      ∀ marks, repeatedly (attempt body) greedy leave first spot marks =
        repeatedly (attempt body) greedy leave second spot marks := by
  -- At the end of the text a round can only consume nothing, so that it finds nothing.
  have atEnd : ∀ {spot : Spot}, spot.text.length = 0 → ∀ rounds marks,
      repeatedly (attempt body) greedy leave rounds spot marks = leave spot marks := by
    intro spot ended rounds marks
    cases rounds with
    | zero => rfl
    | succ rounds => simp [repeatedly, ended, attempt_none]
  intro first
  induction first with
  | zero =>
    intro second spot short _ marks
    have ended : spot.text.length = 0 := by omega
    rw [atEnd ended, atEnd ended]
  | succ first ih =>
    intro second spot short long marks
    cases second with
    | zero =>
      have ended : spot.text.length = 0 := by omega
      rw [atEnd ended, atEnd ended]
    | succ second =>
      have again : (fun later marks => if later.text.length < spot.text.length then
          repeatedly (attempt body) greedy leave first later marks else none) =
          fun later marks => if later.text.length < spot.text.length then
            repeatedly (attempt body) greedy leave second later marks else none := by
        funext later marks
        split
        · exact ih (by omega) (by omega) marks
        · rfl
      simp only [repeatedly]
      rw [again]

/-- A loop goes round or leaves; a round that consumes nothing does not count. -/
theorem attempt_loop_guarded (label : Nat) (greedy : Bool) (body : Node) (next : Continuation)
    (spot : Spot) (marks : Marks) :
    attempt (.loop label greedy body) next spot marks =
      let again := attempt body (fun later marks =>
        if later.text.length < spot.text.length then
          attempt (.loop label greedy body) next later marks
        else none) spot marks
      if greedy then again.or (next spot marks) else (next spot marks).or again := by
  have more : attempt (.loop label greedy body) next spot marks =
      repeatedly (attempt body) greedy next (spot.text.length + 1) spot marks :=
    repeatedly_eq_of_le body greedy next (Nat.le_refl _) (Nat.le_succ _) marks
  have again : (fun later marks => if later.text.length < spot.text.length then
      repeatedly (attempt body) greedy next spot.text.length later marks else none) =
      fun later marks => if later.text.length < spot.text.length then
        attempt (.loop label greedy body) next later marks else none := by
    funext later marks
    split
    · exact repeatedly_eq_of_le body greedy next (by omega) (Nat.le_refl _) marks
    · rfl
  rw [more]
  simp only [repeatedly]
  rw [again]

/-- **A loop whose body consumes goes round or leaves, in the order of its rank.** -/
theorem attempt_loop {label : Nat} {greedy : Bool} {body : Node}
    (consumes : body.isNullable = false)
    (next : Continuation) (spot : Spot) (marks : Marks) :
    attempt (.loop label greedy body) next spot marks =
      let again := attempt body (attempt (.loop label greedy body) next) spot marks
      if greedy then again.or (next spot marks) else (next spot marks).or again := by
  rw [attempt_loop_guarded]
  have again : attempt body (fun later marks => if later.text.length < spot.text.length then
      attempt (.loop label greedy body) next later marks else none) spot marks =
      attempt body (attempt (.loop label greedy body) next) spot marks := by
    refine attempt_congr body fun later marks reached => ?_
    have shorter : later.text.length < spot.text.length := by
      simpa [Reaches, consumes] using reached
    rw [if_pos shorter]
  simp only [again]

/-! ### Success and marks -/

/-- Whether a continuation succeeds does not depend on the marks. -/
def IgnoresMarks (next : Continuation) : Prop :=
  ∀ spot marks other, (next spot marks).isSome = (next spot other).isSome

theorem IgnoresMarks.attempt {next : Continuation} (ignores : IgnoresMarks next) (node : Node) :
    IgnoresMarks (attempt node next) := by
  induction node generalizing next with
  | empty => exact ignores
  | one members =>
    rintro ⟨before, _ | ⟨c, rest⟩, offset⟩ marks other
    · rfl
    · simp only [Matcher.attempt]
      split
      · exact ignores _ _ _
      · rfl
  | look asked =>
    intro spot marks other
    simp only [Matcher.attempt]
    split
    · exact ignores _ _ _
    · rfl
  | mark slot => exact fun spot marks other => ignores _ _ _
  | seq first second ihFirst ihSecond => exact ihFirst (ihSecond ignores)
  | alt label first second ihFirst ihSecond =>
    intro spot marks other
    simp only [Matcher.attempt, Option.isSome_or]
    rw [ihFirst ignores spot marks other, ihSecond ignores spot marks other]
  | loop label greedy body ih =>
    have rounds : ∀ count, IgnoresMarks (repeatedly (Matcher.attempt body) greedy next count) := by
      intro count
      induction count with
      | zero => exact ignores
      | succ count round =>
        intro spot marks other
        have again : IgnoresMarks fun later marks => if later.text.length < spot.text.length then
            repeatedly (Matcher.attempt body) greedy next count later marks else none := by
          intro later marks other
          dsimp only
          split
          · exact round _ _ _
          · rfl
        have sameAgain := ih again spot marks other
        have sameLeave := ignores spot marks other
        simp only [repeatedly]
        split <;> simp only [Option.isSome_or, sameAgain, sameLeave]
    exact fun spot marks other => rounds _ spot marks other

/-- **Whether an attempt succeeds does not depend on the marks made before it.** -/
theorem attemptAll_isSome_congr (todo : List Node) : IgnoresMarks (attemptAll todo) := by
  induction todo with
  | nil => exact fun _ _ _ => rfl
  | cons node rest ih => exact ih.attempt node

end DumpConverter.Matcher
