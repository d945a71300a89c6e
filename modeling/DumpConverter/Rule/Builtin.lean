/-
**The built-in rules.**

The table that takes a script from the dialect of SQLite to that of PostgreSQL. Its order matters:
the phrase for a serial key is replaced before the keyword inside it is removed. Literals in rows are
left alone, and a name that the last pattern cannot read leaves its statement untouched.
-/

import DumpConverter.Rule.Basic

namespace DumpConverter

/-- A rule before its pattern is compiled. -/
structure RuleSource where
  name : String
  pattern : String
  /-- The template, or `none` for a rule that leaves its matches as they are. -/
  replacement : Option String
deriving DecidableEq, Repr

namespace RuleSource

/-- Compiles the rule. -/
def compile (source : RuleSource) : Except PatternError Rule :=
  Rule.compile source.name source.pattern (Replacement.ofOption source.replacement)

end RuleSource

namespace Builtin

/-- The pattern that reads the head of a table definition: the keywords, a guard if there is one, and
the name, which is a word other than `if` or stands in quotes, brackets or backticks. -/
def tablePattern : String :=
  "CREATE\\s+TABLE\\s+(?:(?i:IF\\s+NOT\\s+EXISTS)\\s+)?" ++
  "(?P<table>(?:\\w\x7b3,\x7d|\\w|[^\\WIi]\\w|[Ii][^\\WFf])\\b" ++
  "|\"[^\"]+\"|\\[[^\\]]+\\]|\x60[^\x60]+\x60)"

/-- The table, in order of application. -/
def table : List RuleSource := [
  ⟨"strip-pragma", "PRAGMA.*?;", some ""⟩,
  ⟨"begin-transaction", "BEGIN TRANSACTION;", some "BEGIN;"⟩,
  ⟨"commit", "COMMIT;", some "COMMIT;"⟩,
  ⟨"serial-primary-key", "\\bINTEGER PRIMARY KEY AUTOINCREMENT\\b", some "SERIAL PRIMARY KEY"⟩,
  ⟨"strip-autoincrement", "\\bAUTOINCREMENT\\b", some ""⟩,
  ⟨"datetime-type", "\\bDATETIME\\b", some "TIMESTAMP"⟩,
  ⟨"current-timestamp", "\\bCURRENT_TIMESTAMP\\b", some "NOW()"⟩,
  ⟨"boolean-default-false", "\\bBOOLEAN DEFAULT 0\\b", some "BOOLEAN DEFAULT FALSE"⟩,
  ⟨"boolean-default-true", "\\bBOOLEAN DEFAULT 1\\b", some "BOOLEAN DEFAULT TRUE"⟩,
  ⟨"insert-values", "INSERT INTO .*? VALUES", none⟩,
  ⟨"check-constraint", "CHECK\\((.*?)\\)", none⟩,
  ⟨"create-table-guard", tablePattern, some "CREATE TABLE IF NOT EXISTS $table"⟩]

/-- The names in the table, in order. -/
def names : List String :=
  table.map RuleSource.name

/-- The compiled table. -/
def rules : List Rule :=
  table.filterMap fun source => source.compile.toOption

end Builtin

end DumpConverter
