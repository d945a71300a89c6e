/-
**Quoted text.**

A text between quotes in which everything that could not be seen, or could be taken for something
else, is written as an escape.
-/

import DumpConverter.Unicode.Binary
import DumpConverter.Unicode.Category

namespace DumpConverter.Text

open Unicode

/-- The categories of characters that are not seen. -/
def unseenRanges : List (List CodeRange) :=
  (categoryRanges "Other").getD [] ++ (categoryRanges "Separator").getD []

/-- The characters that are drawn onto the one before them. -/
def extendingRanges : List CodeRange :=
  (binaryRanges "Grapheme_Extend").getD []

/-- Whether a character can be seen by itself. -/
def isSeen (c : Char) : Bool :=
  if c.toNat < 128 then ' ' ≤ c && c ≤ '~'
  else !covers extendingRanges c.toNat && !unseenRanges.any fun ranges => covers ranges c.toNat

/-- A character as it is written between quotes. -/
def escaped (c : Char) : List Char :=
  if c == '"' || c == '\\' then ['\\', c]
  else if c == '\x00' then ['\\', '0']
  else if c == '\t' then ['\\', 't']
  else if c == '\n' then ['\\', 'n']
  else if c == '\r' then ['\\', 'r']
  else if isSeen c then [c]
  else '\\' :: 'u' :: '\x7b' :: Nat.toDigits 16 c.toNat ++ ['\x7d']

/-- A text between quotes. -/
def quoted (text : String) : String :=
  "\"" ++ String.ofList (text.toList.flatMap escaped) ++ "\""

end DumpConverter.Text
