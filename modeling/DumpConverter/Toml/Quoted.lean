/-
**Quoted text.**

Strings between quotes or apostrophes, on one line or, with three of them, on several. Between quotes
a backslash begins an escape; between apostrophes every character stands for itself.
-/

import DumpConverter.Toml.Reading
import DumpConverter.Unicode.CodeRange

namespace DumpConverter.Toml

open Unicode

/-- The character that a letter stands for behind a backslash. -/
def escapedChar? (c : Char) : Option Char :=
  [('b', '\x08'), ('f', '\x0c'), ('n', '\n'), ('r', '\r'), ('t', '\t'), ('\\', '\\'),
    ('"', '"')].lookup c

/-- Whether a character is a hexadecimal digit. -/
def isHexDigit (c : Char) : Bool :=
  c.isDigit || ('a' ≤ c && c ≤ 'f') || ('A' ≤ c && c ≤ 'F')

/-- The character whose code some hexadecimal digits name. -/
def codedChar? (digits : List Char) : Option Char :=
  let code := digits.foldl (fun code c => code * 16 + hexDigitValue c) 0
  if digits.all isHexDigit then
    if h : code.isValidChar then some (Char.ofNatAux code h) else none
  else none

/-- Puts a character before the text that a token reads. -/
def before (c : Char) (read : Option (List Char × List Char)) : Option (List Char × List Char) :=
  read.map fun (text, rest) => (c :: text, rest)

/-- Reads up to the quote that closes a string on one line. -/
def basicBody : Token (List Char)
  | [] => none
  | '"' :: rest => some ([], rest)
  | '\\' :: 'u' :: a :: b :: c :: d :: rest => do
    before (← codedChar? [a, b, c, d]) (basicBody rest)
  | '\\' :: 'U' :: a :: b :: c :: d :: e :: f :: g :: h :: rest => do
    before (← codedChar? [a, b, c, d, e, f, g, h]) (basicBody rest)
  | '\\' :: c :: rest => do
    before (← escapedChar? c) (basicBody rest)
  | c :: rest => if isPlain c then before c (basicBody rest) else none

/-- Reads up to the apostrophe that closes a string on one line. -/
def literalBody : Token (List Char)
  | [] => none
  | c :: rest =>
    if c == '\'' then some ([], rest)
    else if isPlain c then before c (literalBody rest)
    else none

/-- Whether nothing but blanks stands before the end of the line. -/
def endsLine (rest : List Char) : Bool :=
  (lineBreak (rest.dropWhile isBlank)).isSome

/-- Reads up to the three quotes that close a string of several lines. One or two quotes more belong
to the string. Behind a backslash at the end of a line, where `joining` holds, blanks and line breaks
are left out. -/
def basicLines (joining : Bool) : Token (List Char)
  | [] => none
  | '"' :: '"' :: '"' :: '"' :: '"' :: rest => some (['"', '"'], rest)
  | '"' :: '"' :: '"' :: '"' :: rest => some (['"'], rest)
  | '"' :: '"' :: '"' :: rest => some ([], rest)
  | '\\' :: 'u' :: a :: b :: c :: d :: rest => do
    before (← codedChar? [a, b, c, d]) (basicLines false rest)
  | '\\' :: 'U' :: a :: b :: c :: d :: e :: f :: g :: h :: rest => do
    before (← codedChar? [a, b, c, d, e, f, g, h]) (basicLines false rest)
  | '\\' :: c :: rest =>
    if endsLine (c :: rest) then basicLines true (c :: rest)
    else do before (← escapedChar? c) (basicLines false rest)
  | '\r' :: '\n' :: rest =>
    if joining then basicLines true rest else before '\n' (basicLines false rest)
  | '\n' :: rest =>
    if joining then basicLines true rest else before '\n' (basicLines false rest)
  | c :: rest =>
    if joining && isBlank c then basicLines true rest
    else if isPlain c then before c (basicLines false rest)
    else none

/-- Reads up to the three apostrophes that close a string of several lines. -/
def literalLines : Token (List Char)
  | [] => none
  | '\'' :: '\'' :: '\'' :: '\'' :: '\'' :: rest => some (['\'', '\''], rest)
  | '\'' :: '\'' :: '\'' :: '\'' :: rest => some (['\''], rest)
  | '\'' :: '\'' :: '\'' :: rest => some ([], rest)
  | '\r' :: '\n' :: rest => before '\n' (literalLines rest)
  | '\n' :: rest => before '\n' (literalLines rest)
  | c :: rest => if isPlain c then before c (literalLines rest) else none

/-- Leaves out a line break at the start. -/
def withoutFirstBreak (text : List Char) : List Char :=
  match lineBreak text with
  | some ((), rest) => rest
  | none => text

/-- Reads a string on one line. -/
def lineString : Token (List Char)
  | '"' :: rest => basicBody rest
  | '\'' :: rest => literalBody rest
  | _ => none

/-- Reads a string. -/
def quotedString : Token (List Char)
  | '"' :: '"' :: '"' :: rest => basicLines false (withoutFirstBreak rest)
  | '\'' :: '\'' :: '\'' :: rest => literalLines (withoutFirstBreak rest)
  | text => lineString text

end DumpConverter.Toml
