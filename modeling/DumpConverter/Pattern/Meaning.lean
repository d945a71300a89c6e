/-
**The meaning of a term.**

Flags hold from where they are set to the end of the group around them. `Term.meaning` follows them
through a term and resolves every class, literal and assertion to what it stands for.
-/

import DumpConverter.Pattern.Expr
import DumpConverter.Pattern.Property
import DumpConverter.Pattern.Term

namespace DumpConverter.Pattern

open Text

/-- The flags that hold at a place. -/
structure Flags where
  caseInsensitive : Bool
  multiLine : Bool
  dotMatchesNewLine : Bool
  swapGreed : Bool
  /-- Whether characters are meant, or else bytes. -/
  unicode : Bool
  crlf : Bool

namespace Flags

/-- The flags at the start of a pattern. -/
def initial : Flags := ⟨false, false, false, false, true, false⟩

/-- The flags after a list of flag items. -/
def apply (flags : Flags) (items : List FlagItem) : Flags where
  caseInsensitive := (flagSetting items .caseInsensitive).getD flags.caseInsensitive
  multiLine := (flagSetting items .multiLine).getD flags.multiLine
  dotMatchesNewLine := (flagSetting items .dotMatchesNewLine).getD flags.dotMatchesNewLine
  swapGreed := (flagSetting items .swapGreed).getD flags.swapGreed
  unicode := (flagSetting items .unicode).getD flags.unicode
  crlf := (flagSetting items .crlf).getD flags.crlf

end Flags

/-- The decimal digits of ASCII. -/
def asciiDigits : CharSet := .range 48 57

/-- The capital letters of ASCII. -/
def asciiCapitals : CharSet := .range 65 90

/-- The small letters of ASCII. -/
def asciiSmalls : CharSet := .range 97 122

/-- The letters of ASCII. -/
def asciiLetters : CharSet := .union asciiCapitals asciiSmalls

/-- The word characters of ASCII. -/
def asciiWord : CharSet := CharSet.unionAll [asciiDigits, asciiCapitals, .single '_', asciiSmalls]

/-- The white space of ASCII. -/
def asciiBlanks : CharSet := .union (.range 9 13) (.single ' ')

/-- The characters of a class in `[:…:]`. -/
def AsciiClass.set : AsciiClass → CharSet
  | alnum => .union asciiDigits asciiLetters
  | alpha => asciiLetters
  | ascii => .range 0 127
  | blank => .union (.single '\t') (.single ' ')
  | cntrl => .union (.range 0 31) (.range 127 127)
  | digit => asciiDigits
  | graph => .range 33 126
  | lower => asciiSmalls
  | print => .range 32 126
  | punct => CharSet.unionAll [.range 33 47, .range 58 64, .range 91 96, .range 123 126]
  | space => asciiBlanks
  | upper => asciiCapitals
  | word => asciiWord
  | xdigit => CharSet.unionAll [asciiDigits, .range 65 70, .range 97 102]

/-- The characters of a short class. -/
def ShortClass.set (unicode : Bool) : ShortClass → CharSet
  | digit => if unicode then .digit else asciiDigits
  | space => if unicode then .blank else asciiBlanks
  | word => if unicode then .word else asciiWord

/-- A fault at a span. -/
def faultAt {α : Type} (span : Span) (fault : Fault) : Except SyntaxError α :=
  .error ⟨fault, span, none⟩

/-- A set under the flags for case and sign. The complement of a set of bytes has bytes that are no
character, which is refused. -/
def foldAndNegate (flags : Flags) (span : Span) (negated : Bool) (set : CharSet) :
    Except SyntaxError CharSet :=
  let folded := if flags.caseInsensitive then .anyCase set else set
  match flags.unicode, negated with
  | true, true => return .compl folded
  | true, false => return folded
  | false, true => faultAt span .invalidUtf8
  | false, false => return if flags.caseInsensitive then .inter folded (.range 0 127) else set

/-- The characters of a short class under the flags. -/
def shortSet (flags : Flags) (span : Span) (kind : ShortClass) (negated : Bool) :
    Except SyntaxError CharSet :=
  match flags.unicode, negated with
  | unicode, false => return kind.set unicode
  | true, true => return .compl (kind.set true)
  | false, true => faultAt span .invalidUtf8

/-- The characters of a property class under the flags. -/
def propertyClassSet (flags : Flags) (span : Span) (name : PropertyName) (negated : Bool) :
    Except SyntaxError CharSet :=
  if !flags.unicode then faultAt span .unicodeNotAllowed
  else
    match propertySet name with
    | .error fault => faultAt span fault
    | .ok set => foldAndNegate flags span negated set

/-- The character that a literal in a class stands for. Among bytes, only those of ASCII are
characters. -/
def setChar (flags : Flags) (written : Literal) : Except SyntaxError Char :=
  if flags.unicode || written.char.toNat < 128 then return written.char
  else if written.isByte then faultAt written.span .invalidUtf8
  else faultAt written.span .unicodeNotAllowed

/-- The sets that an operator works on, under the flag for case. -/
def operandSet (flags : Flags) (set : CharSet) : CharSet :=
  if !flags.caseInsensitive then set
  else if flags.unicode then .anyCase set
  else .inter (.anyCase set) (.range 0 127)

mutual

/-- The characters that what stands inside brackets stands for. -/
def SetTerm.meaning (flags : Flags) : SetTerm → Except SyntaxError CharSet
  | .empty _ => return .empty
  | .literal written => return .single (← setChar flags written)
  | .range _ first last =>
    return .range (← setChar flags first).toNat (← setChar flags last).toNat
  | .ascii span kind negated => foldAndNegate flags span negated kind.set
  | .short span kind negated => shortSet flags span kind negated
  | .property span name negated => propertyClassSet flags span name negated
  | .bracketed span negated set => do foldAndNegate flags span negated (← set.meaning flags)
  | .union _ items => return CharSet.unionAll (← SetTerm.meanings flags items)
  | .operation _ operator left right => do
    let left := operandSet flags (← left.meaning flags)
    let right := operandSet flags (← right.meaning flags)
    match operator with
    | .intersection => return .inter left right
    | .difference => return .diff left right
    | .symmetricDifference => return .symmDiff left right

/-- The characters that each set of a list stands for. -/
def SetTerm.meanings (flags : Flags) : List SetTerm → Except SyntaxError (List CharSet)
  | [] => return []
  | item :: rest => return (← item.meaning flags) :: (← SetTerm.meanings flags rest)

end

/-- What a literal stands for under the flags. -/
def literalMeaning (flags : Flags) (written : Literal) : Except SyntaxError Expr :=
  let code := written.char.toNat
  let variants :=
    if !flags.caseInsensitive then []
    else if flags.unicode then Unicode.caseVariants code
    else if code < 128 then (Unicode.asciiCaseVariants code).filter (· < 128)
    else []
  if !flags.unicode && written.isByte && 128 ≤ code then faultAt written.span .invalidUtf8
  else if variants.isEmpty then return .char written.char
  else return .set (CharSet.ofCodes (code :: variants))

/-- What a dot stands for under the flags. -/
def dotMeaning (flags : Flags) (span : Span) : Except SyntaxError Expr :=
  if !flags.unicode then faultAt span .invalidUtf8
  else if flags.dotMatchesNewLine then return .set CharSet.all
  else if flags.crlf then return .set (.compl (.union (.single '\n') (.single '\r')))
  else return .set (.compl (.single '\n'))

/-- The place that an assertion asks for under the flags. -/
def assertionLook (flags : Flags) : Assertion → Look
  | .startLine => if flags.multiLine then .lineStart flags.crlf else .textStart
  | .endLine => if flags.multiLine then .lineEnd flags.crlf else .textEnd
  | .startText => .textStart
  | .endText => .textEnd
  | .wordBoundary => .word .edge flags.unicode
  | .notWordBoundary => .word .noEdge flags.unicode
  | .wordStart => .word .opens flags.unicode
  | .wordEnd => .word .closes flags.unicode
  | .wordStartHalf => .word .opensHalf flags.unicode
  | .wordEndHalf => .word .closesHalf flags.unicode

mutual

/-- What a term means under the flags, and the flags behind it. -/
def Term.meaning (flags : Flags) : Term → Except SyntaxError (Expr × Flags)
  | .empty _ => return (.empty, flags)
  | .flags _ items => return (.empty, flags.apply items)
  | .literal written => return (← literalMeaning flags written, flags)
  | .dot span => return (← dotMeaning flags span, flags)
  | .assertion _ kind => return (.look (assertionLook flags kind), flags)
  | .short span kind negated => return (.set (← shortSet flags span kind negated), flags)
  | .property span name negated => return (.set (← propertyClassSet flags span name negated), flags)
  | .bracketed span negated set => do
    return (.set (← foldAndNegate flags span negated (← set.meaning flags)), flags)
  | .repetition _ least most greedy body => do
    let (body, behind) ← body.meaning flags
    return (Expr.repeated least most (greedy != behind.swapGreed) body, behind)
  | .group _ (.capture index _) body => do
    let (body, _) ← body.meaning flags
    return (.group index body, flags)
  | .group _ (.plain items) body => do
    let (body, _) ← body.meaning (flags.apply items)
    return (body, flags)
  | .alternation _ branches => do
    let (branches, behind) ← Term.meanings flags branches
    return (.alternation branches, behind)
  | .concat _ parts => do
    let (parts, behind) ← Term.meanings flags parts
    return (Expr.concatAll parts, behind)

/-- What the terms of a list mean, each under the flags behind the one before. -/
def Term.meanings (flags : Flags) : List Term → Except SyntaxError (List Expr × Flags)
  | [] => return ([], flags)
  | term :: rest => do
    let (first, flags) ← term.meaning flags
    let (others, flags) ← Term.meanings flags rest
    return (first :: others, flags)

end

end DumpConverter.Pattern
