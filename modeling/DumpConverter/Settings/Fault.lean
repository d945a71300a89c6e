/-
**Faults in settings.**

Why a table does not hold settings, and how that is told: the line is shown with marks under the
place.
-/

import DumpConverter.Text.Quoted
import DumpConverter.Toml.Node

namespace DumpConverter.Settings

open Text Toml

/-- What is wanted in a place. -/
inductive Wanted where
  | path
  | string
  | sequence
  | rule
deriving DecidableEq, Repr

/-- Why a table does not hold settings. -/
inductive Reason where
  /-- A key that is none of those that may be there. -/
  | unknownField (name : String) (known : List String)
  /-- A key that has to be there. -/
  | missingField (name : String)
  | wrongType (found : Node) (wanted : Wanted)
  /-- A rule written as a sequence, with too few items. -/
  | tooShort (length : Nat)

/-- A reason and its place. -/
structure Fault where
  span : Span
  reason : Reason

namespace Wanted

/-- What is wanted, in words. -/
def text : Wanted → String
  | path => "path string"
  | string => "a string"
  | sequence => "a sequence"
  | rule => "struct RuleConfig"

end Wanted

/-- A name between backticks. -/
def ticked (name : String) : String :=
  "\x60" ++ name ++ "\x60"

/-- What was found, in words. -/
def foundText : Node → String
  | .scalar _ (.string text) => "string " ++ quoted text
  | .scalar _ (.integer value) => "integer " ++ ticked (toString value)
  | .scalar _ (.float value) => "floating point " ++ ticked value.text
  | .scalar _ (.boolean value) => "boolean " ++ ticked (if value then "true" else "false")
  | .scalar _ (.moment _) => "map"
  | .array _ _ | .tables _ => "sequence"
  | .table _ _ _ => "map"

namespace Reason

/-- The reason in words. -/
def text : Reason → String
  | unknownField name known =>
    "unknown field " ++ ticked name ++ ", expected one of " ++ ", ".intercalate (known.map ticked)
  | missingField name => "missing field " ++ ticked name
  | wrongType found wanted => "invalid type: " ++ foundText found ++ ", expected " ++ wanted.text
  | tooShort length =>
    "invalid length " ++ toString length ++ ", expected struct RuleConfig with 3 elements"

end Reason

/-- The number of bytes of a text. -/
def byteCount (text : List Char) : Nat :=
  text.foldr (fun c count => c.utf8Size + count) 0

namespace Fault

/-- The line in which the fault begins. -/
def line (fault : Fault) (text : List Char) : List Char :=
  (text.drop (fault.span.first.offset + 1 - fault.span.first.column)).takeWhile (· != '\n')

/-- The number of marks: one for each byte at fault, as far as the line goes. -/
def markCount (fault : Fault) (text : List Char) : Nat :=
  let atFault := (text.take fault.span.last.offset).drop fault.span.first.offset
  max 1 (min (byteCount atFault) (byteCount (fault.line text) + 1 - fault.span.first.column))

/-- The whole report. -/
def report (fault : Fault) (text : List Char) : String :=
  let number := toString fault.span.first.line
  let margin := "".pushn ' ' (number.length + 1) ++ "|"
  "TOML parse error at line " ++ number ++ ", column " ++ toString fault.span.first.column ++ "\n" ++
    margin ++ "\n" ++
    number ++ " | " ++ String.ofList (fault.line text) ++ "\n" ++
    margin ++ "".pushn ' ' fault.span.first.column ++ "".pushn '^' (fault.markCount text) ++ "\n" ++
    fault.reason.text ++ "\n"

end Fault

end DumpConverter.Settings
