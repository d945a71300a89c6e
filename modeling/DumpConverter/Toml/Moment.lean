/-
**Dates and times.**

A date, a time, or a date with a time and perhaps its distance from universal time.
-/

import DumpConverter.Toml.Number

namespace DumpConverter.Toml

/-- The number of days in a month. -/
def daysIn (year month : Nat) : Nat :=
  if month = 2 then
    if year % 4 = 0 ∧ (year % 100 ≠ 0 ∨ year % 400 = 0) then 29 else 28
  else if month = 4 ∨ month = 6 ∨ month = 9 ∨ month = 11 then 30
  else 31

/-- Passes over a character. -/
def passed? (c : Char) : List Char → Option (List Char)
  | [] => none
  | first :: rest => if first == c then some rest else none

/-- Reads a number of exactly `count` digits between two bounds. -/
def fixedNumber (count least largest : Nat) : Token Nat := fun text =>
  let digits := text.take count
  let value := digitsValue 10 digits
  if digits.length = count ∧ digits.all Char.isDigit ∧ least ≤ value ∧ value ≤ largest then
    some (value, text.drop count)
  else none

/-- What a date leaves. -/
def afterDate (text : List Char) : Option (List Char) := do
  let (year, rest) ← fixedNumber 4 0 9999 text
  let (month, rest) ← fixedNumber 2 1 12 (← passed? '-' rest)
  let (_, rest) ← fixedNumber 2 1 (daysIn year month) (← passed? '-' rest)
  return rest

/-- What the parts of a second leave, if there are some. -/
def afterSecondPart (text : List Char) : Option (List Char) :=
  match text with
  | '.' :: rest => if (rest.head?.any Char.isDigit) then some (rest.dropWhile Char.isDigit) else none
  | _ => some text

/-- What a time leaves. -/
def afterTime (text : List Char) : Option (List Char) := do
  let (_, rest) ← fixedNumber 2 0 23 text
  let (_, rest) ← fixedNumber 2 0 59 (← passed? ':' rest)
  let (_, rest) ← fixedNumber 2 0 60 (← passed? ':' rest)
  afterSecondPart rest

/-- What a distance from universal time leaves, if there is one. -/
def afterDistance (text : List Char) : Option (List Char) :=
  match text with
  | [] => some []
  | c :: rest =>
    if c == 'Z' || c == 'z' then some rest
    else if c == '+' || c == '-' then do
      let (_, rest) ← fixedNumber 2 0 23 rest
      let (_, rest) ← fixedNumber 2 0 59 (← passed? ':' rest)
      return rest
    else some text

/-- What a time behind a date leaves, if there is one. -/
def afterDayTime (text : List Char) : Option (List Char) :=
  match text with
  | [] => some []
  | c :: rest =>
    if c == 'T' || c == 't' || c == ' ' then
      match afterTime rest with
      | some rest => afterDistance rest
      | none => some text
    else some text

/-- What a date or time leaves. -/
def afterMoment (text : List Char) : Option (List Char) :=
  ((afterDate text).bind afterDayTime).or (afterTime text)

/-- Reads a date or time. -/
def moment : Token Scalar := fun text => do
  let rest ← afterMoment text
  return (.moment (String.ofList (text.take (text.length - rest.length))), rest)

end DumpConverter.Toml
