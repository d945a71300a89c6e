/-
**Replacement templates.**

In a template, `$$` is a dollar, `$name` and `${name}` are the text of a group, and any other dollar
stands for itself. A name without braces is as long as its letters, digits and underscores go; a name
that is a number is the index of a group.

* `pieces_of_noDollar`: a text without dollars stands for itself.
-/

namespace DumpConverter.Template

/-- A piece of a template. -/
inductive Piece where
  /-- A character that stands for itself. -/
  | char (c : Char)
  /-- The text of a group, by its index. -/
  | group (index : Nat)
  /-- The text of a group, by its name. -/
  | named (name : String)
deriving DecidableEq, Repr

/-- Whether a character can be part of a name without braces. -/
def isNameChar (c : Char) : Bool :=
  c.isAlphanum || c == '_'

/-- The value of decimal digits, unless there are none or it takes more than 64 bits. -/
def index? (digits : List Char) : Option Nat :=
  let value := digits.foldl (fun value c => value * 10 + (c.toNat - 48)) 0
  if digits.isEmpty || !digits.all Char.isDigit || Nat.pow 2 64 ≤ value then none else some value

/-- The group that a name refers to; an index may have a plus sign. -/
def reference (name : List Char) : Piece :=
  let digits := match name with
    | '+' :: digits => digits
    | digits => digits
  match index? digits with
  | some index => .group index
  | none => .named (String.ofList name)

/-- The piece that follows a dollar, with what is left behind it, if it is not the dollar itself. -/
def afterDollar? : List Char → Option (Piece × List Char)
  | '$' :: rest => some (.char '$', rest)
  | '{' :: rest =>
    match rest.dropWhile (· != '}') with
    | [] => none
    | _ :: behind => some (reference (rest.takeWhile (· != '}')), behind)
  | rest =>
    match rest.takeWhile isNameChar with
    | [] => none
    | name => some (reference name, rest.dropWhile isNameChar)

/-- The pieces of a template, at most `steps` of them. -/
def piecesFrom : Nat → List Char → List Piece
  | 0, _ => []
  | _, [] => []
  | steps + 1, c :: rest =>
    if c == '$' then
      match afterDollar? rest with
      | some (piece, behind) => piece :: piecesFrom steps behind
      | none => .char '$' :: piecesFrom steps rest
    else .char c :: piecesFrom steps rest

/-- The pieces of a template. -/
def pieces (template : List Char) : List Piece :=
  piecesFrom template.length template

/-- The text of a template, given the texts of the groups. -/
def expand (group : Nat → List Char) (named : String → List Char) (template : List Char) :
    List Char :=
  (pieces template).flatMap fun
    | .char c => [c]
    | .group index => group index
    | .named name => named name

/-- A text without dollars stands for itself. -/
theorem pieces_of_noDollar {text : List Char} (noDollar : '$' ∉ text) :
    pieces text = text.map .char := by
  unfold pieces
  suffices general : ∀ steps, text.length ≤ steps → piecesFrom steps text = text.map .char from
    general _ (Nat.le_refl _)
  induction text with
  | nil => intro steps _; cases steps <;> rfl
  | cons c rest ih =>
    intro steps enough
    simp only [List.mem_cons, not_or] at noDollar
    cases steps with
    | zero => simp at enough
    | succ steps =>
      have other : (c == '$') = false := by simpa using Ne.symm noDollar.1
      have tail := ih noDollar.2 steps (by simpa using enough)
      simp [piecesFrom, other, tail]

end DumpConverter.Template
