/-
**Pattern expressions.**

What a pattern means, with all flags resolved. Two facts about an expression decide how it is
repeated: whether it can match without consuming, and whether it can do nothing else.
-/

import DumpConverter.CharSet.Basic
import DumpConverter.Pattern.Term

namespace DumpConverter.Pattern

/-- How a place stands to the words around it. -/
inductive Boundary where
  /-- At a start or an end of a word. -/
  | edge
  /-- At no start and no end of a word. -/
  | noEdge
  /-- At the start of a word. -/
  | opens
  /-- At the end of a word. -/
  | closes
  /-- Not behind a word character. -/
  | opensHalf
  /-- Not before a word character. -/
  | closesHalf
deriving DecidableEq, Repr

/-- The places that an expression can ask for. -/
inductive Look where
  | textStart
  | textEnd
  /-- The start of a line; with `crlf`, lines end with any of the usual breaks. -/
  | lineStart (crlf : Bool)
  /-- The end of a line. -/
  | lineEnd (crlf : Bool)
  /-- A place among words, whose characters are all word characters or those of ASCII. -/
  | word (boundary : Boundary) (unicode : Bool)
deriving DecidableEq, Repr

/-- What a pattern means. -/
inductive Expr where
  /-- Nothing. -/
  | empty
  | char (c : Char)
  /-- Any one member of the set. -/
  | set (members : CharSet)
  | look (place : Look)
  /-- At least `least` and, if given, at most `most` times; as often as possible if `greedy`. -/
  | repetition (least : Nat) (most : Option Nat) (greedy : Bool) (body : Expr)
  /-- A group that captures. -/
  | group (index : GroupIndex) (body : Expr)
  | concat (parts : List Expr)
  /-- The first branch that leads to a match. -/
  | alternation (branches : List Expr)

namespace Expr

mutual

/-- Whether the expression can match without consuming a character. -/
def canBeEmpty : Expr → Bool
  | empty => true
  | char _ => false
  | set _ => false
  | look _ => true
  | repetition least _ _ body => least == 0 || body.canBeEmpty
  | group _ body => body.canBeEmpty
  | concat parts => allCanBeEmpty parts
  | alternation branches => anyCanBeEmpty branches

/-- Whether every expression of a list can match without consuming. -/
def allCanBeEmpty : List Expr → Bool
  | [] => true
  | part :: rest => part.canBeEmpty && allCanBeEmpty rest

/-- Whether some expression of a list can match without consuming. -/
def anyCanBeEmpty : List Expr → Bool
  | [] => false
  | branch :: rest => branch.canBeEmpty || anyCanBeEmpty rest

end

mutual

/-- Whether the expression never consumes a character. -/
def neverConsumes : Expr → Bool
  | empty => true
  | char _ => false
  | set _ => false
  | look _ => true
  | repetition _ most _ body => most.isSome && body.neverConsumes
  | group _ body => body.neverConsumes
  | concat parts => allNeverConsume parts
  | alternation branches => allNeverConsume branches

/-- Whether no expression of a list consumes a character. -/
def allNeverConsume : List Expr → Bool
  | [] => true
  | part :: rest => part.neverConsumes && allNeverConsume rest

end

/-- The expression that repeats `body`. What never consumes is repeated at most once, and what is
repeated exactly once, or never, is not repeated. -/
def repeated (least : Nat) (most : Option Nat) (greedy : Bool) (body : Expr) : Expr :=
  let once := body.neverConsumes
  let least := if once then min least 1 else least
  let most := if once then some (most.elim 1 (min · 1)) else most
  match least, most with
  | 0, some 0 => empty
  | 1, some 1 => body
  | least, most => repetition least most greedy body

/-- The concatenation of a list of expressions. -/
def concatAll (parts : List Expr) : Expr :=
  let parts := parts.filter fun
    | empty => false
    | _ => true
  match parts with
  | [] => empty
  | [part] => part
  | parts => concat parts

end Expr

end DumpConverter.Pattern
