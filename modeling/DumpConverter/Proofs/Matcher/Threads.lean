/-
**Threads against attempts.**

Exploring the threads at a place leaves a front that stands for the first attempt of theirs that
succeeds, by rank. A branching node that has been visited is left out: either all its ways have been
followed, so that it would only repeat, at a lower rank, what is already there; or it is still being
followed, and then it is heavier than everything explored inside it.

* `explored_explore`: following a node adds its attempt below what the front stands for;
* `outcome_advance`: the front of a place stands for the first thread that succeeds;
* `run_eq`: reading on gives the first thread that succeeds, then the best match so far, then the
  leftmost attempt.
-/

import DumpConverter.Proofs.Matcher.Attempt
import DumpConverter.Proofs.Matcher.Keeps

namespace DumpConverter.Matcher

/-! ### Weights -/

/-- A measure that falls along every step that consumes nothing. -/
def Node.weight : Node → Nat
  | .seq first second => 1 + first.weight + if first.isNullable then second.weight else 0
  | .alt _ first second => 1 + first.weight + second.weight
  | .loop _ _ body => 1 + body.weight
  | _ => 1

/-- The weight of nodes in turn: those behind a node that consumes do not count. -/
def weight : List Node → Nat
  | [] => 0
  | node :: rest => node.weight + if node.isNullable then weight rest else 0

/-- Every node in a list is productive. -/
def Productive (todo : List Node) : Prop :=
  ∀ node ∈ todo, node.isProductive = true

theorem productive_cons {node : Node} {rest : List Node} :
    Productive (node :: rest) ↔ node.isProductive = true ∧ Productive rest := by
  simp [Productive]

theorem weight_seq (first second : Node) (rest : List Node) :
    weight (first :: second :: rest) < weight (.seq first second :: rest) := by
  cases firstNullable : first.isNullable <;> cases secondNullable : second.isNullable <;>
    simp [weight, Node.weight, Node.isNullable, firstNullable, secondNullable]
  all_goals omega

theorem weight_alt (label : Nat) (first second : Node) (rest : List Node) :
    weight (first :: rest) < weight (.alt label first second :: rest) ∧
      weight (second :: rest) < weight (.alt label first second :: rest) := by
  cases firstNullable : first.isNullable <;> cases secondNullable : second.isNullable <;>
    simp [weight, Node.weight, Node.isNullable, firstNullable, secondNullable] <;> omega

theorem weight_loop {body : Node} (consumes : body.isNullable = false) (label : Nat) (greedy : Bool)
    (rest : List Node) :
    weight (body :: .loop label greedy body :: rest) < weight (.loop label greedy body :: rest) ∧
      weight rest < weight (.loop label greedy body :: rest) := by
  simp [weight, Node.weight, Node.isNullable, consumes]
  omega

theorem weight_le_of_isNullable {node : Node} (nullable : node.isNullable = true)
    (rest : List Node) : weight rest ≤ weight (node :: rest) := by
  simp [weight, nullable]

/-! ### What a front stands for -/

/-- The first success among threads, highest rank first. -/
def firstOf (spot : Spot) (threads : List Thread) : Option Best :=
  threads.findSome? fun thread => attemptAll thread.todo spot thread.marks

theorem firstOf_append (spot : Spot) (threads others : List Thread) :
    firstOf spot (threads ++ others) = (firstOf spot threads).or (firstOf spot others) :=
  List.findSome?_append

/-- The spot behind the next character. -/
def Spot.later? (spot : Spot) : Option Spot :=
  match spot.text with
  | [] => none
  | c :: rest => some ⟨some c, rest, spot.offset + 1⟩

namespace Front

/-- What becomes of a front: the first of its threads that succeeds behind the next character, or
else its match. -/
def outcome (front : Front) (spot : Spot) : Option Best :=
  (spot.later?.bind fun later => firstOf later front.threads.reverse).or
    (front.won.map fun marks => ⟨spot.offset, marks⟩)

/-- Whether nodes have been visited. -/
def HasSeen (front : Front) (todo : List Node) : Prop :=
  ∃ label, todo ∈ front.visited.getD label []

/-- Whether following `todo` once more would add nothing. -/
def Exhausted (front : Front) (spot : Spot) (todo : List Node) : Prop :=
  ∀ marks, (attemptAll todo spot marks).isSome → (front.outcome spot).isSome

/-- Whether all visited nodes up to a weight are exhausted. -/
def Settled (front : Front) (spot : Spot) (bound : Nat) : Prop :=
  ∀ todo, front.HasSeen todo → weight todo ≤ bound → front.Exhausted spot todo

theorem hasSeen_of_hasVisited {front : Front} {label : Nat} {todo : List Node}
    (visited : front.hasVisited label todo = true) : front.HasSeen todo :=
  ⟨label, by simpa [hasVisited] using visited⟩

theorem hasSeen_visit {front : Front} {label : Nat} {todo other : List Node}
    (seen : (front.visit label todo).HasSeen other) : other = todo ∨ front.HasSeen other := by
  obtain ⟨place, member⟩ := seen
  simp only [visit, Std.TreeMap.getD_insert] at member
  split at member
  · rcases List.mem_cons.1 member with same | earlier
    · exact .inl same
    · exact .inr ⟨label, earlier⟩
  · exact .inr ⟨place, member⟩

theorem hasSeen_push {front : Front} {thread : Thread} {todo : List Node} :
    (front.push thread).HasSeen todo ↔ front.HasSeen todo := by
  unfold push
  split <;> rfl

theorem hasSeen_win {front : Front} {marks : Marks} {todo : List Node} :
    (front.win marks).HasSeen todo ↔ front.HasSeen todo := by
  unfold win
  split <;> rfl

theorem isSome_outcome_of_won {front : Front} (won : front.won.isSome = true) (spot : Spot) :
    (front.outcome spot).isSome = true := by
  simp [outcome, won]

theorem outcome_win (front : Front) (spot : Spot) (marks : Marks) :
    (front.win marks).outcome spot = (front.outcome spot).or (some ⟨spot.offset, marks⟩) := by
  unfold win
  split
  · rename_i won
    obtain ⟨best, found⟩ := Option.isSome_iff_exists.1 (isSome_outcome_of_won won spot)
    rw [found, Option.some_or]
  · rename_i notWon
    have lost : front.won = none := by simpa using notWon
    simp [outcome, lost]

theorem outcome_push (front : Front) {spot : Spot} {c : Char} {rest : List Char}
    (text : spot.text = c :: rest) (thread : Thread) :
    (front.push thread).outcome spot = (front.outcome spot).or
      (attemptAll thread.todo ⟨some c, rest, spot.offset + 1⟩ thread.marks) := by
  unfold push
  split
  · rename_i won
    obtain ⟨best, found⟩ := Option.isSome_iff_exists.1 (isSome_outcome_of_won won spot)
    rw [found, Option.some_or]
  · rename_i notWon
    have lost : front.won = none := by simpa using notWon
    simp only [outcome, Spot.later?, text, lost, Option.bind_some, List.reverse_cons,
      firstOf_append, Option.map_none, Option.or_none]
    simp [firstOf]

end Front

/-! ### Exploring -/

/-- What following `todo` does to a front. -/
structure Explored (spot : Spot) (front later : Front) (todo : List Node) (marks : Marks) :
    Prop where
  outcome : later.outcome spot = (front.outcome spot).or (attemptAll todo spot marks)
  seen : ∀ other, later.HasSeen other → front.HasSeen other ∨ later.Exhausted spot other

namespace Explored

variable {spot : Spot} {front middle later : Front} {todo first second : List Node}
  {marks : Marks}

theorem isSome_outcome (explored : Explored spot front later todo marks)
    (some : (front.outcome spot).isSome = true) : (later.outcome spot).isSome = true := by
  rw [explored.outcome, Option.isSome_or, some, Bool.true_or]

theorem exhausted (explored : Explored spot front later todo marks) {other : List Node}
    (done : front.Exhausted spot other) : later.Exhausted spot other :=
  fun otherMarks succeeds => explored.isSome_outcome (done otherMarks succeeds)

theorem settled (explored : Explored spot front later todo marks) {bound : Nat}
    (settled : front.Settled spot bound) : later.Settled spot bound := by
  intro other seen light
  rcases explored.seen other seen with earlier | done
  · exact explored.exhausted (settled other earlier light)
  · exact done

/-- Nothing is added where the front already stands for a success. -/
theorem refl_of_isSome (some : (front.outcome spot).isSome = true) :
    Explored spot front front todo marks where
  outcome := by
    obtain ⟨best, found⟩ := Option.isSome_iff_exists.1 some
    rw [found, Option.some_or]
  seen := fun _ seen => .inl seen

/-- Nothing is added by what fails. -/
theorem refl_of_eq_none (fails : attemptAll todo spot marks = none) :
    Explored spot front front todo marks where
  outcome := by rw [fails, Option.or_none]
  seen := fun _ seen => .inl seen

/-- Nothing is added by what is exhausted. -/
theorem refl_of_exhausted (done : front.Exhausted spot todo) :
    Explored spot front front todo marks := by
  by_cases succeeds : (attemptAll todo spot marks).isSome = true
  · exact refl_of_isSome (done marks succeeds)
  · exact refl_of_eq_none (by simpa using succeeds)

/-- Following one branch and then another follows the node that has both. -/
theorem trans {firstMarks secondMarks : Marks} (one : Explored spot front middle first firstMarks)
    (other : Explored spot middle later second secondMarks)
    (branches : attemptAll todo spot marks =
      (attemptAll first spot firstMarks).or (attemptAll second spot secondMarks)) :
    Explored spot front later todo marks where
  outcome := by rw [other.outcome, one.outcome, branches, Option.or_assoc]
  seen := by
    intro nodes seen
    rcases other.seen nodes seen with earlier | done
    · rcases one.seen nodes earlier with before | done
      · exact .inl before
      · exact .inr (other.exhausted done)
    · exact .inr done

/-- Once a visited node has been followed, it is exhausted. -/
theorem of_visit {label : Nat}
    (explored : Explored spot (front.visit label todo) later todo marks) :
    Explored spot front later todo marks where
  outcome := explored.outcome
  seen := by
    intro other seen
    rcases explored.seen other seen with earlier | done
    · rcases Front.hasSeen_visit earlier with rfl | before
      · refine .inr fun otherMarks succeeds => ?_
        rw [explored.outcome, Option.isSome_or,
          attemptAll_isSome_congr other spot marks otherMarks, succeeds, Bool.or_true]
      · exact .inl before
    · exact .inr done

end Explored

theorem Front.Settled.mono {front : Front} {spot : Spot} {bound lower : Nat}
    (settled : front.Settled spot bound) (below : lower ≤ bound) : front.Settled spot lower :=
  fun todo seen light => settled todo seen (Nat.le_trans light below)

/-- A node that is being followed does not count among lighter ones. -/
theorem Front.Settled.visit {front : Front} {spot : Spot} {bound lower : Nat} {todo : List Node}
    (settled : front.Settled spot bound) (label : Nat) (below : lower ≤ bound)
    (heavier : lower < weight todo) : (front.visit label todo).Settled spot lower := by
  intro other seen light
  rcases Front.hasSeen_visit seen with rfl | before
  · omega
  · exact settled other before (Nat.le_trans light below)

/-- **Following a node adds its attempt below what the front stands for.** -/
theorem explored_explore {node : Node} (productive : node.isProductive = true) {rest : List Node}
    {spot : Spot} {after : Marks → Front → Front} {marks : Marks} {front : Front}
    (settled : front.Settled spot (weight (node :: rest)))
    (continues : node.isNullable = true → ∀ marks front, front.Settled spot (weight rest) →
      Explored spot front (after marks front) rest marks) :
    Explored spot front (explore spot.place node rest after marks front) (node :: rest) marks := by
  induction node generalizing rest after marks front with
  | empty =>
    have added := continues rfl marks front (settled.mono (weight_le_of_isNullable rfl rest))
    exact ⟨added.outcome, added.seen⟩
  | one members =>
    rcases spot with ⟨before, _ | ⟨c, text⟩, offset⟩
    · exact Explored.refl_of_eq_none rfl
    · by_cases member : members.mem c = true
      · have accepts : (Spot.place ⟨before, c :: text, offset⟩).accepts members = true := member
        simp only [explore, accepts, if_true]
        refine ⟨?_, fun other seen => .inl (Front.hasSeen_push.1 seen)⟩
        rw [Front.outcome_push front rfl]
        simp [attemptAll, attempt, member]
      · have refuses : (Spot.place ⟨before, c :: text, offset⟩).accepts members = false :=
          Bool.eq_false_iff.2 member
        simp only [explore, refuses]
        exact Explored.refl_of_eq_none (by simp [attemptAll, attempt, member])
  | look asked =>
    simp only [explore]
    split
    · rename_i holds
      have added := continues rfl marks front (settled.mono (weight_le_of_isNullable rfl rest))
      refine ⟨?_, added.seen⟩
      rw [added.outcome]
      simp [attemptAll, attempt, holds]
    · rename_i fails
      exact Explored.refl_of_eq_none (by simp [attemptAll, attempt, fails])
  | mark slot =>
    have added := continues rfl ((slot, spot.offset) :: marks) front
      (settled.mono (weight_le_of_isNullable rfl rest))
    exact ⟨added.outcome, added.seen⟩
  | seq first second ihFirst ihSecond =>
    simp only [Node.isProductive, Bool.and_eq_true] at productive
    have inner : Explored spot front (explore spot.place first (second :: rest)
        (explore spot.place second rest after) marks front) (first :: second :: rest) marks := by
      refine ihFirst productive.1 (settled.mono (Nat.le_of_lt (weight_seq first second rest)))
        fun firstNullable marks front settled => ?_
      refine ihSecond productive.2 settled fun secondNullable => ?_
      exact continues (by simp [Node.isNullable, firstNullable, secondNullable])
    exact ⟨inner.outcome, inner.seen⟩
  | alt label first second ihFirst ihSecond =>
    simp only [Node.isProductive, Bool.and_eq_true] at productive
    obtain ⟨firstLighter, secondLighter⟩ := weight_alt label first second rest
    simp only [explore]
    split
    · rename_i cut
      rcases Bool.or_eq_true _ _ ▸ cut with won | visited
      · exact Explored.refl_of_isSome (Front.isSome_outcome_of_won won spot)
      · exact Explored.refl_of_exhausted
          (settled _ (Front.hasSeen_of_hasVisited visited) (Nat.le_refl _))
    · have one : Explored spot _ _ (first :: rest) marks := ihFirst productive.1
        (settled.visit label (Nat.le_of_lt firstLighter) firstLighter)
        fun nullable => continues (by simp [Node.isNullable, nullable])
      have two : Explored spot _ _ (second :: rest) marks := ihSecond productive.2
        (one.settled (settled.visit label (Nat.le_of_lt secondLighter) secondLighter))
        fun nullable => continues (by simp [Node.isNullable, nullable])
      exact (one.trans two rfl).of_visit
  | loop label greedy body ih =>
    simp only [Node.isProductive, Bool.and_eq_true, Bool.not_eq_true'] at productive
    obtain ⟨bodyLighter, restLighter⟩ := weight_loop productive.1 label greedy rest
    have round (front : Front)
        (settled : front.Settled spot (weight (body :: .loop label greedy body :: rest))) :
        Explored spot front (explore spot.place body (.loop label greedy body :: rest)
          (fun _ front => front) marks front) (body :: .loop label greedy body :: rest) marks :=
      ih productive.2 settled fun nullable => by simp [productive.1] at nullable
    simp only [explore]
    split
    · rename_i cut
      rcases Bool.or_eq_true _ _ ▸ cut with won | visited
      · exact Explored.refl_of_isSome (Front.isSome_outcome_of_won won spot)
      · exact Explored.refl_of_exhausted
          (settled _ (Front.hasSeen_of_hasVisited visited) (Nat.le_refl _))
    · cases greedy with
      | true =>
        have one := round _ (settled.visit label (Nat.le_of_lt bodyLighter) bodyLighter)
        have two := continues rfl marks _
          (one.settled (settled.visit label (Nat.le_of_lt restLighter) restLighter))
        refine (one.trans two ?_).of_visit
        exact attempt_loop productive.1 (attemptAll rest) spot marks
      | false =>
        have one := continues rfl marks _
          (settled.visit label (Nat.le_of_lt restLighter) restLighter)
        have two := round _
          (one.settled (settled.visit label (Nat.le_of_lt bodyLighter) bodyLighter))
        refine (one.trans two ?_).of_visit
        exact attempt_loop productive.1 (attemptAll rest) spot marks

/-- Following nodes in turn adds their attempt below what the front stands for. -/
theorem explored_exploreAll {todo : List Node} (productive : Productive todo) {spot : Spot}
    {marks : Marks} {front : Front} (settled : front.Settled spot (weight todo)) :
    Explored spot front (exploreAll spot.place todo marks front) todo marks := by
  induction todo generalizing marks front with
  | nil =>
    exact ⟨Front.outcome_win front spot marks, fun other seen => .inl (Front.hasSeen_win.1 seen)⟩
  | cons node rest ih =>
    obtain ⟨nodeProductive, restProductive⟩ := productive_cons.1 productive
    exact explored_explore nodeProductive settled
      fun _ marks front settled => ih restProductive settled

/-! ### Places -/

/-- Nodes in turn that are productive stay so. -/
theorem keeps_productive (place : Place) :
    place.Keeps (fun todo _ => Productive todo) (fun todo _ => Productive todo) where
  empty here := (productive_cons.1 here).2
  one here := (productive_cons.1 here).2
  look here := (productive_cons.1 here).2
  mark here := (productive_cons.1 here).2
  seq here := by
    obtain ⟨both, others⟩ := productive_cons.1 here
    obtain ⟨one, other⟩ := Bool.and_eq_true_iff.1 both
    exact productive_cons.2 ⟨one, productive_cons.2 ⟨other, others⟩⟩
  alt here := by
    obtain ⟨both, others⟩ := productive_cons.1 here
    obtain ⟨one, other⟩ := Bool.and_eq_true_iff.1 both
    exact ⟨productive_cons.2 ⟨one, others⟩, productive_cons.2 ⟨other, others⟩⟩
  loop here := by
    obtain ⟨round, others⟩ := productive_cons.1 here
    exact ⟨productive_cons.2 ⟨(Bool.and_eq_true_iff.1 round).2, here⟩, others⟩

/-- Following a thread adds its attempt, if what has been visited before is exhausted. -/
theorem explored_follow {spot : Spot} {front : Front} {thread : Thread}
    (productive : Productive thread.todo)
    (settled : ∀ todo, front.HasSeen todo → front.Exhausted spot todo) :
    Explored spot front (front.follow spot.place thread) thread.todo thread.marks := by
  unfold Front.follow
  split
  · rename_i won
    exact .refl_of_isSome (Front.isSome_outcome_of_won won spot)
  · exact explored_exploreAll productive fun todo seen _ => settled todo seen

theorem firstOf_cons (spot : Spot) (thread : Thread) (threads : List Thread) :
    firstOf spot (thread :: threads) =
      (attemptAll thread.todo spot thread.marks).or (firstOf spot threads) := by
  rw [← List.singleton_append, firstOf_append]
  simp [firstOf]

/-- **The front of a place stands for the first thread that succeeds**, and its threads are
productive again. -/
theorem outcome_advance {threads : List Thread}
    (productive : ∀ thread ∈ threads, Productive thread.todo) (spot : Spot) :
    (advance spot.place threads).outcome spot = firstOf spot threads ∧
      ∀ thread ∈ (advance spot.place threads).threads, Productive thread.todo := by
  constructor
  · -- Between two threads nothing is being followed, so that every visited node is exhausted.
    suffices general : ∀ front : Front,
        (∀ todo, front.HasSeen todo → front.Exhausted spot todo) →
        (threads.foldl (Front.follow spot.place) front).outcome spot =
          (front.outcome spot).or (firstOf spot threads) by
      have nothing : Front.empty.outcome spot = none := by
        cases text : spot.later? <;> simp [Front.outcome, Front.empty, firstOf, text]
      have all := general Front.empty fun todo ⟨label, seen⟩ => by simp [Front.empty] at seen
      rwa [nothing, Option.none_or] at all
    induction threads with
    | nil =>
      intro front _
      simp [firstOf]
    | cons thread threads ih =>
      intro front settled
      obtain ⟨threadProductive, othersProductive⟩ := List.forall_mem_cons.1 productive
      have first := explored_follow threadProductive settled
      have others := ih othersProductive (front.follow spot.place thread) fun todo seen =>
        (first.seen todo seen).elim (fun earlier => first.exhausted (settled todo earlier)) id
      rw [List.foldl_cons, others, first.outcome, firstOf_cons, Option.or_assoc]
  · exact (all_foldl_follow (fun thread member front all =>
      (keeps_productive spot.place).exploreAll (productive thread member) all) .empty).threads

/-- The first attempt that succeeds, from left to right. -/
def leftmost (root : Node) : Option Char → Nat → List Char → Option Best
  | before, offset, [] => attemptAll [root] ⟨before, [], offset⟩ []
  | before, offset, c :: rest =>
    (attemptAll [root] ⟨before, c :: rest, offset⟩ []).or (leftmost root (some c) (offset + 1) rest)

/-- The threads with which a place is entered: while nothing has matched, one more begins there. -/
def entered (root : Node) (threads : List Thread) (best : Option Best) : List Thread :=
  if best.isSome then threads else threads ++ [⟨[root], []⟩]

theorem productive_entered {root : Node} (rootProductive : root.isProductive = true)
    {threads : List Thread} (productive : ∀ thread ∈ threads, Productive thread.todo)
    (best : Option Best) : ∀ thread ∈ entered root threads best, Productive thread.todo := by
  unfold entered
  split
  · exact productive
  · intro thread member
    rcases List.mem_append.1 member with earlier | fresh
    · exact productive thread earlier
    · rw [List.mem_singleton.1 fresh]
      simpa [Productive] using rootProductive

theorem firstOf_entered_or (root : Node) (spot : Spot) (threads : List Thread)
    (best : Option Best) :
    (firstOf spot (entered root threads best)).or best =
      ((firstOf spot threads).or best).or (attemptAll [root] spot []) := by
  cases best with
  | none => simp [entered, firstOf]
  | some best => simp [entered]

theorem entered_eq_nil_iff {root : Node} {threads : List Thread} {best : Option Best} :
    entered root threads best = [] ↔ threads = [] ∧ best.isSome = true := by
  unfold entered
  split
  · rename_i found
    simp [found]
  · rename_i lost
    simp [lost]

/-- Without threads, what has been found stays. -/
theorem run_nil_of_isSome {best : Option Best} (found : best.isSome = true) (root : Node)
    (before : Option Char) (offset : Nat) (text : List Char) :
    run root before offset [] best text = best := by
  unfold run
  simp [found]

/-- One step of reading: the place is explored, and reading goes on behind the next character. -/
theorem run_step (root : Node) (before : Option Char) (offset : Nat) (threads : List Thread)
    (best : Option Best) (text : List Char) :
    run root before offset threads best text =
      let front := advance (Spot.place ⟨before, text, offset⟩) (entered root threads best)
      let better := (front.won.map fun marks => ⟨offset, marks⟩).or best
      match text with
      | [] => better
      | c :: rest => run root (some c) (offset + 1) front.threads.reverse better rest := by
  by_cases nothing : entered root threads best = []
  · obtain ⟨rfl, found⟩ := entered_eq_nil_iff.1 nothing
    rw [run_nil_of_isSome found, nothing]
    cases text with
    | nil => rfl
    | cons c rest => exact (run_nil_of_isSome found root (some c) (offset + 1) rest).symm
  · have notEmpty : (entered root threads best).isEmpty = false := by simpa using nothing
    rw [run.eq_def]
    unfold entered at notEmpty ⊢
    simp only [notEmpty, Bool.false_eq_true, if_false, Spot.place]
    generalize advance ⟨before, text.head?, offset⟩
      (if best.isSome then threads else threads ++ [⟨[root], []⟩]) = front
    rcases front with ⟨visited, waiting, _ | marks⟩ <;> cases text <;> simp

/-- **Reading on gives the first thread that succeeds, then the best match so far, then the leftmost
attempt.** -/
theorem run_eq {root : Node} (rootProductive : root.isProductive = true) {text : List Char} :
    ∀ {before : Option Char} {offset : Nat} {threads : List Thread} {best : Option Best},
      (∀ thread ∈ threads, Productive thread.todo) →
      run root before offset threads best text =
        ((firstOf ⟨before, text, offset⟩ threads).or best).or
          (leftmost root before offset text) := by
  induction text with
  | nil =>
    intro before offset threads best productive
    have front := (outcome_advance (productive_entered rootProductive productive best)
      ⟨before, [], offset⟩).1
    rw [run_step]
    simp only [leftmost]
    rw [← firstOf_entered_or, ← front]
    rfl
  | cons c rest ih =>
    intro before offset threads best productive
    obtain ⟨front, later⟩ := outcome_advance (productive_entered rootProductive productive best)
      ⟨before, c :: rest, offset⟩
    rw [run_step]
    simp only [leftmost]
    rw [ih fun thread member => later thread (List.mem_reverse.1 member), ← Option.or_assoc,
      ← Option.or_assoc, ← firstOf_entered_or, ← front]
    rfl

end DumpConverter.Matcher
