/-
**Binary floating point numbers.**

The numbers of 64 bits, and the one nearest to a decimal number. All arithmetic is on natural
numbers, so every result is exact.
-/

namespace DumpConverter.Decimal

/-- A floating point number of 64 bits. -/
inductive Binary64 where
  | notANumber
  | infinite (negative : Bool)
  /-- `significand * 2 ^ exponent`, where the significand has at most 53 bits. -/
  | finite (negative : Bool) (significand : Nat) (exponent : Int)
deriving DecidableEq, Repr

/-- The quotient rounded to the nearest whole number, a half to the even one. -/
def roundHalfEven (num den : Nat) : Nat :=
  let low := num / den
  let twice := 2 * (num % den)
  if den < twice || (twice == den && low % 2 == 1) then low + 1 else low

/-- A fraction times a power of two, as a fraction. -/
def scale (num den : Nat) (exponent : Int) : Nat × Nat :=
  if 0 ≤ exponent then (num * Nat.pow 2 exponent.toNat, den)
  else (num, den * Nat.pow 2 (-exponent).toNat)

/-- The largest power of two that a positive fraction reaches. -/
def binaryMagnitude (num den : Nat) : Int :=
  let guess : Int := (num.log2 : Int) - den.log2
  let (num, den) := scale num den (-guess)
  if den ≤ num then guess else guess - 1

namespace Binary64

/-- The least exponent. -/
def leastExponent : Int := -1074

/-- The largest exponent. -/
def largestExponent : Int := 971

/-- The number nearest to a positive fraction. -/
def ofFraction (negative : Bool) (num den : Nat) : Binary64 :=
  let exponent := max (binaryMagnitude num den - 52) leastExponent
  let (num, den) := scale num den (-exponent)
  let rounded := roundHalfEven num den
  let (significand, exponent) :=
    if rounded == Nat.pow 2 53 then (Nat.pow 2 52, exponent + 1) else (rounded, exponent)
  if largestExponent < exponent then infinite negative else finite negative significand exponent

/-- The number nearest to `digits * 10 ^ power`. -/
def ofDecimal (negative : Bool) (digits : Nat) (power : Int) : Binary64 :=
  let places : Int := (Nat.toDigits 10 digits).length
  if digits = 0 || places + power < -400 then finite negative 0 leastExponent
  else if 400 < places + power then infinite negative
  else if 0 ≤ power then ofFraction negative (digits * Nat.pow 10 power.toNat) 1
  else ofFraction negative digits (Nat.pow 10 (-power).toNat)

end Binary64

end DumpConverter.Decimal
