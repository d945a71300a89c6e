/-
**Compiled patterns.**

A pattern is read, its meaning found, its size checked and its matching node built. Compilation fails
exactly where one of the first three finds a fault.
-/

import DumpConverter.Matcher.Matches
import DumpConverter.Pattern.Meaning
import DumpConverter.Pattern.Reader
import DumpConverter.Pattern.Report
import DumpConverter.Pattern.Size

namespace DumpConverter

open Matcher

/-- A pattern that can be matched. -/
structure Pattern where
  /-- The text of the pattern. -/
  source : String
  root : Node
  /-- The names of groups with their indices. -/
  groupNames : List (String × Nat)

/-- Why a text is no pattern. -/
inductive PatternError where
  /-- The text is at fault. -/
  | malformed (source : String) (error : Pattern.SyntaxError)
  /-- The pattern takes more than the given number of bytes. -/
  | tooLarge (limit : Nat)
deriving DecidableEq, Repr

namespace PatternError

/-- The wording of the error. -/
def message : PatternError → String
  | malformed source error => error.report source.toList
  | tooLarge limit => "Compiled regex exceeds size limit of " ++ toString limit ++ " bytes."

end PatternError

namespace Pattern

/-- What a text means as a pattern, with the names of its groups. -/
def exprOf (text : List Char) : Except SyntaxError (Expr × List (String × Nat)) := do
  let parsed ← Parsed.ofPattern text
  let (expr, _) ← parsed.term.meaning Flags.initial
  return (expr, parsed.groupNames)

/-- Compiles a pattern. -/
def compile (source : String) : Except PatternError Pattern :=
  match exprOf source.toList with
  | .error error => .error (.malformed source error)
  | .ok (expr, groupNames) =>
    if expr.fits then .ok ⟨source, Matcher.ofPattern expr, groupNames⟩
    else .error (.tooLarge sizeLimit)

/-- The matches in a text. -/
def occurrences (pattern : Pattern) (text : List Char) : Occurrences :=
  Matcher.occurrences pattern.root text

/-- The text of the group `index` in a match, empty if it took no part. -/
def groupText (found : Found) (index : Nat) : List Char :=
  (found.group? index).getD []

/-- The text of the group `name` in a match, empty if there is none or it took no part. -/
def namedText (pattern : Pattern) (found : Found) (name : String) : List Char :=
  match pattern.groupNames.lookup name with
  | some index => groupText found index
  | none => []

end Pattern

end DumpConverter
