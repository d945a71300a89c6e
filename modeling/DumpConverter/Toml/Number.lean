/-
**Numbers.**

Whole numbers in four bases and floating point numbers. Underscores may stand between digits, and a
whole number has to fit in 64 bits.
-/

import DumpConverter.Toml.Node
import DumpConverter.Toml.Quoted

namespace DumpConverter.Toml

open Decimal Unicode

/-- What follows the first digit of a run of digits. An underscore has to stand between digits. -/
def moreDigits (test : Char → Bool) : Token (List Char)
  | '_' :: c :: rest => if test c then before c (moreDigits test rest) else none
  | c :: rest =>
    if c == '_' then none
    else if test c then before c (moreDigits test rest)
    else some ([], c :: rest)
  | [] => some ([], [])

/-- Reads a run of digits that pass a test. -/
def digitRun (test : Char → Bool) : Token (List Char)
  | c :: rest => if test c then before c (moreDigits test rest) else none
  | [] => none

/-- Reads digits with no zero before others. -/
def plainDigits : Token (List Char)
  | '0' :: rest => some (['0'], rest)
  | text => digitRun Char.isDigit text

/-- The number that digits of a base stand for. -/
def digitsValue (base : Nat) (digits : List Char) : Nat :=
  digits.foldl (fun value c => value * base + hexDigitValue c) 0

/-- Reads a sign: whether it is a minus. -/
def sign : List Char → Bool × List Char
  | '-' :: rest => (true, rest)
  | '+' :: rest => (false, rest)
  | text => (false, text)

/-- A whole number, if it fits in 64 bits. -/
def integerInRange (negative : Bool) (magnitude : Nat) : Option Scalar :=
  let value : Int := if negative then -magnitude else magnitude
  if -(Nat.pow 2 63 : Int) ≤ value && value < Nat.pow 2 63 then some (.integer value) else none

/-- Reads the exponent of a floating point number, if there is one. -/
def exponent? : List Char → Option (Option Int × List Char)
  | c :: rest =>
    if c == 'e' || c == 'E' then do
      let (negative, rest) := sign rest
      let (digits, rest) ← digitRun Char.isDigit rest
      let value : Int := digitsValue 10 digits
      return (some (if negative then -value else value), rest)
    else some (none, c :: rest)
  | [] => some (none, [])

/-- Reads the places behind the point of a floating point number, if there are some. -/
def fraction? : List Char → Option (Option (List Char) × List Char)
  | '.' :: rest => do
    let (digits, rest) ← digitRun Char.isDigit rest
    return (some digits, rest)
  | text => some (none, text)

/-- A floating point number, unless it is too large. -/
def floatInRange (negative : Bool) (digits : List Char) (power : Int) : Option Scalar :=
  match Binary64.ofDecimal negative (digitsValue 10 digits) power with
  | .infinite false => none
  | value => some (.float value)

/-- Reads a number of a base other than ten. -/
def basedNumber (base : Nat) (test : Char → Bool) : Token Scalar := fun text => do
  let (digits, rest) ← digitRun test text
  return (← integerInRange false (digitsValue base digits), rest)

/-- Reads a number of base ten. -/
def decimalNumber : Token Scalar := fun text => do
  let (negative, text) := sign text
  let (whole, rest) ← plainDigits text
  let (places, rest) ← fraction? rest
  let (power, rest) ← exponent? rest
  if places.isNone && power.isNone then
    return (← integerInRange negative (digitsValue 10 whole), rest)
  else
    let places := places.getD []
    return (← floatInRange negative (whole ++ places) (power.getD 0 - places.length), rest)

/-- Reads a floating point number that is written as a word. -/
def wordNumber : Token Scalar := fun text =>
  let (negative, text) := sign text
  if "inf".toList.isPrefixOf text then some (.float (.infinite negative), text.drop 3)
  else if "nan".toList.isPrefixOf text then some (.float .notANumber, text.drop 3)
  else none

/-- Reads a number. -/
def number : Token Scalar
  | '0' :: 'x' :: rest => basedNumber 16 isHexDigit rest
  | '0' :: 'o' :: rest => basedNumber 8 (fun c => '0' ≤ c && c ≤ '7') rest
  | '0' :: 'b' :: rest => basedNumber 2 (fun c => c == '0' || c == '1') rest
  | text => (wordNumber text).or (decimalNumber text)

end DumpConverter.Toml
