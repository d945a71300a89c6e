/-
**Shortest decimal text.**

A floating point number is written with the fewest digits that read back as the number, and of those
with the digits nearest to it. Powers of ten are written out.

* `shortest?` searches the decimal grids from the coarsest on; on each, only the two neighbours of
  the number can be the answer.
-/

import DumpConverter.Decimal.Binary64

namespace DumpConverter.Decimal

/-- The numbers that are read as a floating point number: the fractions over `den` from `low` to
`high`, the ends included if `closed`. -/
structure Interval where
  low : Nat
  value : Nat
  high : Nat
  den : Nat
  closed : Bool
deriving Repr

namespace Interval

/-- The interval of a positive floating point number. Below a power of two numbers lie closer. -/
def ofBinary (significand : Nat) (exponent : Int) : Interval :=
  let below := if significand == Nat.pow 2 52 && Binary64.leastExponent < exponent then 1 else 2
  let (unit, den) := scale 1 1 (exponent - 2)
  { low := (4 * significand - below) * unit
    value := 4 * significand * unit
    high := (4 * significand + 2) * unit
    den := den
    closed := significand % 2 == 0 }

/-- Whether a fraction lies in the interval. -/
def holds (interval : Interval) (num den : Nat) : Bool :=
  let scaled := num * interval.den
  if interval.closed then interval.low * den ≤ scaled && scaled ≤ interval.high * den
  else interval.low * den < scaled && scaled < interval.high * den

/-- The largest power of ten that the number reaches. -/
def decimalMagnitude (interval : Interval) : Int :=
  if interval.den ≤ interval.value then
    ((Nat.toDigits 10 (interval.value / interval.den)).length : Int) - 1
  else
    match (List.range 400).find? fun places => interval.den ≤ interval.value * Nat.pow 10 places with
    | some places => -(places : Int)
    | none => -400

/-- The multiple of a power of ten nearest to the number, if it lies in the interval. -/
def nearestOnGrid? (interval : Interval) (power : Int) : Option Nat :=
  let up := Nat.pow 10 power.toNat
  let down := Nat.pow 10 (-power).toNat
  let floor := interval.value * down / (interval.den * up)
  let inside (digits : Nat) := interval.holds (digits * up) down
  let twice := 2 * interval.value * down
  let middle := (2 * floor + 1) * (interval.den * up)
  match inside floor, inside (floor + 1) with
  | true, true => some (if middle ≤ twice then floor + 1 else floor)
  | true, false => some floor
  | false, true => some (floor + 1)
  | false, false => none

/-- The shortest digits and the power of ten that they count. The first grid can lead up to the next
power of ten, which one digit less can count. -/
def shortest? (interval : Interval) : Option (Nat × Int) :=
  (List.range 17).findSome? fun (more : Nat) =>
    let power := interval.decimalMagnitude - (more : Nat)
    (interval.nearestOnGrid? power).map fun digits =>
      if digits % 10 = 0 then (digits / 10, power + 1) else (digits, power)

end Interval

/-- `digits * 10 ^ power` written out, with at least one place after the point. -/
def positional (digits : Nat) (power : Int) : String :=
  let written := Nat.toDigits 10 digits
  let whole := written ++ List.replicate power.toNat '0'
  let places := (-power).toNat
  let padded := List.replicate (places + 1 - whole.length) '0' ++ whole
  let cut := padded.length - places
  String.ofList (padded.take cut) ++ "." ++
    (if places = 0 then "0" else String.ofList (padded.drop cut))

namespace Binary64

/-- The number as text. -/
def text : Binary64 → String
  | notANumber => "NaN"
  | infinite negative => if negative then "-inf" else "inf"
  | finite negative significand exponent =>
    let magnitude :=
      if significand = 0 then "0.0"
      else
        match (Interval.ofBinary significand exponent).shortest? with
        | some (digits, power) => positional digits power
        | none => "0.0"
    if negative then "-" ++ magnitude else magnitude

end Binary64

end DumpConverter.Decimal
