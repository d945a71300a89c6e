/-
**Ranges of code points.**

Tables of characters are ascending lists of ranges, written in hexadecimal.
-/

namespace DumpConverter.Unicode

/-- The code points from `first` to `last`, both included. -/
structure CodeRange where
  first : Nat
  last : Nat
deriving DecidableEq, Repr, Inhabited

/-- Whether an ascending list of ranges holds `code`; the search ends at the first range beyond it. -/
def covers : List CodeRange → Nat → Bool
  | [], _ => false
  | range :: rest, code =>
    if code < range.first then false
    else if code ≤ range.last then true
    else covers rest code

/-- The value of a hexadecimal digit, 0 for any other character. -/
def hexDigitValue (c : Char) : Nat :=
  if '0' ≤ c && c ≤ '9' then c.toNat - 48
  else if 'a' ≤ c && c ≤ 'f' then c.toNat - 87
  else if 'A' ≤ c && c ≤ 'F' then c.toNat - 55
  else 0

/-- The value of a run of hexadecimal digits. -/
def hexValue (digits : String) : Nat :=
  digits.foldl (fun value c => value * 16 + hexDigitValue c) 0

/-- One range, `first-last` or a single code point. -/
def readRange (text : String) : CodeRange :=
  match text.splitOn "-" with
  | [first, last] => ⟨hexValue first, hexValue last⟩
  | _ => ⟨hexValue text, hexValue text⟩

/-- The ranges of a table entry, which are separated by blanks. -/
def readRanges (lines : List String) : List CodeRange :=
  lines.flatMap fun line => (line.splitOn " ").map readRange

end DumpConverter.Unicode
