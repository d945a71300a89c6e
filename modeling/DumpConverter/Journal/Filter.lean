/-
**Which notices are shown.**

A filter is a list of directives, each a level for the topics that begin with its text. The directive
with the longest text decides; of two with the same text the later one.
-/

import DumpConverter.Journal.Notice

namespace DumpConverter

namespace Notice

/-- The topic of a notice. -/
def topic : Notice → String
  | loadedSettings _ => "sqlite2pg::config"
  | _ => "sqlite2pg::rewriter"

/-- How much the notice matters. -/
def level : Notice → Level
  | wroteScript _ _ _ => .info
  | _ => .debug

end Notice

namespace Level

/-- The level that a word or a digit stands for. -/
def ofText? (text : String) : Option Level :=
  let digits := if text.toList.head? == some '+' then text.toList.tail else text.toList
  if digits != [] && digits.all Char.isDigit then
    [off, error, warn, info, debug, trace][digits.foldl (fun n c => n * 10 + (c.toNat - 48)) 0]?
  else
    [("", error), ("error", error), ("warn", warn), ("info", info), ("debug", debug),
      ("trace", trace), ("off", off)].lookup (String.ofList (text.toList.map Char.toLower))

end Level

/-- A level for the topics that begin with a text, or for all. -/
structure Directive where
  start : Option String
  level : Level
deriving DecidableEq, Repr

namespace Directive

/-- Whether the directive is about a topic. -/
def covers (directive : Directive) (topic : String) : Bool :=
  directive.start.all fun start => start.toList.isPrefixOf topic.toList

/-- How special the directive is. -/
def weight (directive : Directive) : Nat :=
  match directive.start with
  | some start => start.length + 1
  | none => 0

/-- Whether a directive may begin with a character. -/
def isStart (c : Char) : Bool :=
  c == '-' || c == ':' || c == '_' || c.isAlphanum || 128 ≤ c.toNat

/-- Reads a directive: a level, a topic, or both with an equals sign between them. Directives about
spans in brackets are about no notice, which `some none` stands for. -/
def ofText? (text : String) : Option (Option Directive) :=
  let chars := text.toList
  match chars.dropWhile Char.isWhitespace with
  | [] => none
  | first :: _ =>
    if first == '[' || (isStart first && chars.contains '[') then some none
    else if !isStart first then none
    else
      let start := String.ofList (chars.takeWhile (· != '='))
      match chars.dropWhile (· != '=') with
      | [] =>
        match Level.ofText? start with
        | some level => some (some ⟨none, level⟩)
        | none => some (some ⟨some start, .trace⟩)
      | [_] => some (some ⟨some start, .trace⟩)
      | _ :: level => (Level.ofText? (String.ofList level)).map fun level => some ⟨some start, level⟩

end Directive

/-- Directives in the order in which they were given. -/
structure Filter where
  directives : List Directive
deriving DecidableEq, Repr

namespace Filter

/-- One level for all topics. -/
def everything (level : Level) : Filter := ⟨[⟨none, level⟩]⟩

/-- The text between commas. -/
def pieces : List Char → List (List Char)
  | [] => [[]]
  | c :: rest =>
    if c == ',' then [] :: pieces rest
    else
      match pieces rest with
      | [] => [[c]]
      | first :: others => (c :: first) :: others

/-- Reads directives with commas between them. Without any, only errors are shown. -/
def ofText? (text : String) : Option Filter := do
  let given := (pieces text.toList).filter fun piece => !piece.isEmpty
  if given.isEmpty then return everything .error
  let directives ← given.mapM fun piece => Directive.ofText? (String.ofList piece)
  return ⟨directives.filterMap id⟩

/-- The directive that decides about a topic. -/
def deciding? (filter : Filter) (topic : String) : Option Directive :=
  (filter.directives.filter fun directive => directive.covers topic).foldl
    (fun best directive =>
      match best with
      | some best => if best.weight ≤ directive.weight then some directive else some best
      | none => some directive) none

/-- Whether a notice is shown. -/
def admits (filter : Filter) (notice : Notice) : Bool :=
  match filter.deciding? notice.topic with
  | some directive => notice.level.rank ≤ directive.level.rank
  | none => false

end Filter

end DumpConverter
