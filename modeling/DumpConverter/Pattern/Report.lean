/-
**Fault reports.**

A report shows the pattern with marks under the places at fault, then names the fault. A pattern of
several lines stands between two rules and has its lines numbered.
-/

import DumpConverter.Pattern.Fault
import DumpConverter.Text.Lines

namespace DumpConverter.Pattern

open Text

namespace SyntaxError

/-- The places that the report marks. -/
def spans (error : SyntaxError) : List Span :=
  error.span :: error.earlier.toList

/-- The marked places that lie on the line `number`, in order. -/
def spansOnLine (error : SyntaxError) (number : Nat) : List Span :=
  (error.spans.filter fun span => span.isOneLine && span.first.line == number).mergeSort
    Span.isBefore

/-- The marks for places on one line, from the column `column` on. -/
def marks (column : Nat) : List Span → String
  | [] => ""
  | span :: rest =>
    let blanks := span.first.column - column
    let width := max 1 (span.last.column - span.first.column)
    "".pushn ' ' blanks ++ "".pushn '^' width ++ marks (column + blanks + width) rest

/-- The width of the line numbers, 0 if lines are not numbered. -/
def numberWidth (pattern : List Char) : Nat :=
  let count := (lines pattern).length + (if pattern.getLast? == some '\n' then 1 else 0)
  if count ≤ 1 then 0 else (toString count).length

/-- What stands before a line. -/
def lineHead (width number : Nat) : String :=
  if width = 0 then "    "
  else
    let digits := toString number
    "".pushn ' ' (width - digits.length) ++ digits ++ ": "

/-- The lines of a pattern, from the line `number` on, with the marks below them. -/
def markedLines (error : SyntaxError) (width : Nat) : Nat → List (List Char) → String
  | _, [] => ""
  | number, line :: rest =>
    let onLine := error.spansOnLine number
    let below :=
      if onLine.isEmpty then ""
      else "".pushn ' ' (if width = 0 then 4 else width + 2) ++ marks 1 onLine ++ "\n"
    lineHead width number ++ String.ofList line ++ "\n" ++ below ++
      error.markedLines width (number + 1) rest

/-- The notes on places that go over several lines. -/
def longSpanNotes (error : SyntaxError) : String :=
  let long := (error.spans.filter fun span => !span.isOneLine).mergeSort Span.isBefore
  let note (span : Span) : String :=
    "on line " ++ toString span.first.line ++ " (column " ++ toString span.first.column ++
      ") through line " ++ toString span.last.line ++ " (column " ++
      toString (span.last.column - 1) ++ ")"
  if long.isEmpty then "" else "\n".intercalate (long.map note) ++ "\n"

/-- The whole report. -/
def report (error : SyntaxError) (pattern : List Char) : String :=
  let marked := error.markedLines (numberWidth pattern) 1 (lines pattern)
  let rule := "".pushn '~' 79 ++ "\n"
  let shown := if pattern.contains '\n' then rule ++ marked ++ rule ++ error.longSpanNotes else marked
  "regex parse error:\n" ++ shown ++ "error: " ++ error.fault.message

end SyntaxError

end DumpConverter.Pattern
