/-
**Pattern terms.**

A pattern as it is written: every term carries its span, since a fault found later points into the
text.
-/

import DumpConverter.Text.Span

namespace DumpConverter.Pattern

open Text

/-- The letters that switch how a pattern is read. -/
inductive Flag where
  | caseInsensitive
  | multiLine
  | dotMatchesNewLine
  | swapGreed
  | unicode
  | crlf
  | ignoreBlanks
deriving DecidableEq, Repr

/-- A flag, or the sign that takes back the flags behind it. -/
structure FlagItem where
  span : Span
  /-- `none` is the sign. -/
  flag : Option Flag
deriving DecidableEq, Repr

/-- The setting that a list of flag items gives a flag, if any. -/
def flagSetting (items : List FlagItem) (flag : Flag) : Option Bool :=
  (items.foldl (fun (negated, setting) item =>
    match item.flag with
    | none => (true, setting)
    | some seen => (negated, if seen = flag then some !negated else setting))
    (false, (none : Option Bool))).2

/-- A character of a pattern. -/
structure Literal where
  span : Span
  char : Char
  /-- Whether it is written as `\x` and two digits, which name a byte where bytes are meant. -/
  isByte : Bool
deriving DecidableEq, Repr

/-- The places that a pattern can ask for. -/
inductive Assertion where
  | startLine
  | endLine
  | startText
  | endText
  | wordBoundary
  | notWordBoundary
  | wordStart
  | wordEnd
  | wordStartHalf
  | wordEndHalf
deriving DecidableEq, Repr

/-- The classes `\d`, `\s` and `\w`. -/
inductive ShortClass where
  | digit
  | space
  | word
deriving DecidableEq, Repr

/-- The classes in `[:…:]`. -/
inductive AsciiClass where
  | alnum
  | alpha
  | ascii
  | blank
  | cntrl
  | digit
  | graph
  | lower
  | print
  | punct
  | space
  | upper
  | word
  | xdigit
deriving DecidableEq, Repr

/-- What a class `\p` names. -/
inductive PropertyName where
  /-- A property or a value of the general category or of the script. -/
  | single (name : String)
  /-- A value of the property `name`. -/
  | value (name value : String)
deriving DecidableEq, Repr

/-- The operators between sets of a bracketed class. -/
inductive SetOperator where
  | intersection
  | difference
  | symmetricDifference
deriving DecidableEq, Repr

/-- What stands inside brackets. -/
inductive SetTerm where
  | empty (span : Span)
  | literal (written : Literal)
  | range (span : Span) (first last : Literal)
  | ascii (span : Span) (kind : AsciiClass) (negated : Bool)
  | short (span : Span) (kind : ShortClass) (negated : Bool)
  | property (span : Span) (name : PropertyName) (negated : Bool)
  | bracketed (span : Span) (negated : Bool) (set : SetTerm)
  | union (span : Span) (items : List SetTerm)
  | operation (span : Span) (operator : SetOperator) (left right : SetTerm)
deriving Repr

namespace SetTerm

/-- Where the term stands. -/
def span : SetTerm → Span
  | empty span => span
  | literal written => written.span
  | range span _ _ => span
  | ascii span _ _ => span
  | short span _ _ => span
  | property span _ _ => span
  | bracketed span _ _ => span
  | union span _ => span
  | operation span _ _ _ => span

end SetTerm

/-- The index of a group that captures. The index zero is left to the whole match. -/
abbrev GroupIndex := { index : Nat // 0 < index }

/-- The kinds of groups. -/
inductive GroupKind where
  /-- A group that captures, by its index and perhaps its name. -/
  | capture (index : GroupIndex) (name : Option String)
  /-- A group that sets flags for its content. -/
  | plain (flags : List FlagItem)
deriving Repr

/-- A pattern as it is written. -/
inductive Term where
  | empty (span : Span)
  | flags (span : Span) (items : List FlagItem)
  | literal (written : Literal)
  | dot (span : Span)
  | assertion (span : Span) (kind : Assertion)
  | short (span : Span) (kind : ShortClass) (negated : Bool)
  | property (span : Span) (name : PropertyName) (negated : Bool)
  | bracketed (span : Span) (negated : Bool) (set : SetTerm)
  /-- At least `least` and, if given, at most `most` times. -/
  | repetition (span : Span) (least : Nat) (most : Option Nat) (greedy : Bool) (body : Term)
  | group (span : Span) (kind : GroupKind) (body : Term)
  | alternation (span : Span) (branches : List Term)
  | concat (span : Span) (parts : List Term)
deriving Repr

namespace Term

/-- Where the term stands. -/
def span : Term → Span
  | empty span => span
  | flags span _ => span
  | literal written => written.span
  | dot span => span
  | assertion span _ => span
  | short span _ _ => span
  | property span _ _ => span
  | bracketed span _ _ => span
  | repetition span _ _ _ _ => span
  | group span _ _ => span
  | alternation span _ => span
  | concat span _ => span

end Term

end DumpConverter.Pattern
