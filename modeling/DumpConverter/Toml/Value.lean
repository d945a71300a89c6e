/-
**Values.**

Keys and values as they are written. Values are nested at most `maxDepth` deep, which bounds the
recursion.
-/

import DumpConverter.Toml.Moment
import DumpConverter.Toml.Table

namespace DumpConverter.Toml

open Text

/-- How many arrays and inline tables may be nested, and how many keys dotted. -/
def maxDepth : Nat := 79

/-- Whether a character may stand in a key without quotes. -/
def isBareKeyChar (c : Char) : Bool :=
  c.isAlphanum || c == '_' || c == '-'

/-- Reads the name of a key. -/
def keyName : Token (List Char) := fun text =>
  match text.head? with
  | none => none
  | some c =>
    if c == '"' || c == '\'' then lineString text
    else if isBareKeyChar c then some (text.takeWhile isBareKeyChar, text.dropWhile isBareKeyChar)
    else none

/-- Reads a key. -/
def readKey : Reading Key := do
  let (span, name) ← located (token keyName)
  return ⟨String.ofList name, span⟩

/-- Reads keys with points between them, at most `count`. -/
def readKeys : Nat → Reading (List Key)
  | 0 => failure
  | count + 1 => do
    skipBlanks
    let key ← readKey
    skipBlanks
    if (← next?) == some '.' then
      expect ['.']
      return key :: (← readKeys count)
    else return [key]

/-- Reads keys with points between them: those that lead to the last one, and the last one. -/
def readDottedKey : Reading (List Key × Key) := do
  let keys ← readKeys maxDepth
  match keys.getLast? with
  | some key => return (keys.dropLast, key)
  | none => failure

/-- Reads a word that stands for a truth value. -/
def truthValue : Token Scalar := fun text =>
  if "true".toList.isPrefixOf text then some (.boolean true, text.drop 4)
  else if "false".toList.isPrefixOf text then some (.boolean false, text.drop 5)
  else none

/-- Reads a string as a value. -/
def stringValue : Token Scalar := fun text => do
  let (value, rest) ← quotedString text
  return (.string (String.ofList value), rest)

/-- Reads a value without parts. -/
def scalarValue : Token Scalar := fun text =>
  ((stringValue text).or (truthValue text)).or ((moment text).or (number text))

/-- Reads a value without parts and its place. -/
def readScalar : Reading Node := do
  let (span, value) ← located (token scalarValue)
  return .scalar span value

/-- Reads keys, an equals sign and a value. -/
def readPair (value : Reading Node) : Reading Pair := do
  let (path, key) ← readDottedKey
  expect ['=']
  skipBlanks
  return ⟨path, key, ← value⟩

/-- Reads the items of an array. -/
def readItems (value : Reading Node) : Reading (List Node) := do
  expect ['[']
  let items ← separated true (skipGap *> value <* skipGap) (← get).rest.length
  skipGap
  expect [']']
  return items

/-- Reads the pairs between braces. -/
def readBraces (value : Reading Node) : Reading (List Pair) := do
  expect ['\x7b']
  let pairs ← separated false (readPair value <* skipBlanks) (← get).rest.length
  skipBlanks
  expect ['\x7d']
  return pairs

/-- Reads a value in which at most `depth` arrays and inline tables are nested. -/
def readValue : Nat → Reading Node
  | 0 => readScalar
  | depth + 1 => do
    match ← next? with
    | some '[' =>
      let (span, items) ← located (readItems (readValue depth))
      return .array span items
    | some '\x7b' =>
      let (span, pairs) ← located (readBraces (readValue depth))
      return .table .inline (some span) (← Entries.addPairs .inline [] pairs)
    | _ => readScalar

end DumpConverter.Toml
