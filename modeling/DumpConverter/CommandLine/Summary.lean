/-
**Summaries.**

Which rules changed a script and how often: a table, or JSON.

* `length_header`: the header of the table is as long as the line below it.
-/

import DumpConverter.Conversion
import DumpConverter.CommandLine.Paint
import DumpConverter.CommandLine.Request

namespace DumpConverter.CommandLine

/-- The width of the names in a table: that of the longest one, in bytes. -/
def nameWidth (hits : List RuleHit) : Nat :=
  max 4 (hits.foldl (fun width hit => max width hit.rule.utf8ByteSize) 0)

/-- The header of a table. -/
def header (width : Nat) : List Char :=
  padded width "Rule".toList ++ "  Hits".toList

/-- A line under a header. -/
def dashes (length : Nat) : List Char :=
  List.replicate length '─'

/-- The header of the table is as long as the line below it. -/
theorem length_header (width : Nat) (wide : 4 ≤ width) :
    (header width).length = (dashes (width + 6)).length := by
  simp [header, dashes, length_padded]
  omega

/-- The line of a rule. -/
def hitLine (colours : Bool) (width : Nat) (hit : RuleHit) : String :=
  let style := if hit.hits = 0 then Style.dim else .coloured .yellow
  String.ofList (padded width hit.rule.toList) ++ "  " ++
    paint colours style 0 (toString hit.hits) ++ "\n"

/-- The table. -/
def table (colours : Bool) (conversion : Conversion) : String :=
  let width := nameWidth conversion.rules
  paint colours (.boldColoured .white) 0 (String.ofList (header width)) ++ "\n" ++
    paint colours .dim 0 (String.ofList (dashes (width + 6))) ++ "\n" ++
    String.join (conversion.rules.map (hitLine colours width)) ++
    "\n" ++
    paint colours (.coloured .cyan) 0 (toString conversion.totalHits) ++ " rewrite(s)\n"

/-- A digit of base sixteen. -/
def hexDigit (value : Nat) : Char :=
  if value < 10 then Char.ofNat (48 + value) else Char.ofNat (87 + value)

/-- A character as it is written in a JSON string. -/
def escapedJson (c : Char) : List Char :=
  if c == '"' || c == '\\' then ['\\', c]
  else
    match [('\x08', 'b'), ('\x0c', 'f'), ('\n', 'n'), ('\r', 'r'), ('\t', 't')].lookup c with
    | some letter => ['\\', letter]
    | none =>
      if c.toNat < 32 then
        ['\\', 'u', '0', '0', hexDigit (c.toNat / 16), hexDigit (c.toNat % 16)]
      else [c]

/-- A JSON string. -/
def jsonString (text : String) : String :=
  "\"" ++ String.ofList (text.toList.flatMap escapedJson) ++ "\""

/-- The JSON object of a rule. -/
def hitJson (hit : RuleHit) : String :=
  "    \x7b\n      \"rule\": " ++ jsonString hit.rule ++ ",\n      \"hits\": " ++ toString hit.hits ++
    "\n    \x7d"

/-- The JSON object of a conversion, without the script. -/
def json (conversion : Conversion) : String :=
  let rules :=
    if conversion.rules.isEmpty then "[]"
    else "[\n" ++ ",\n".intercalate (conversion.rules.map hitJson) ++ "\n  ]"
  "\x7b\n  \"rules\": " ++ rules ++ "\n\x7d\n"

/-- The summary of a conversion. -/
def summary (format : Format) (colours : Bool) (conversion : Conversion) : String :=
  match format with
  | .table => table colours conversion
  | .json => json conversion

end DumpConverter.CommandLine
