/-
**Errors.**

Everything that can keep a conversion from being made, by its cause. `ConvertError.chain` is what is
shown to a user: the error and, where it has one, its cause again. What is wrong with a text that is no
TOML document is for the reader of TOML to say, with the place of it; its report is a parameter of the
wording.

* `Except.bind_eq_ok_iff`, `Except.mapError_eq_ok_iff`: what succeeds, succeeds at every step;
* `ConvertError.chain_of_source`, `ConvertError.chain_of_noSource`: a cause is told behind its error.
-/

import DumpConverter.Pattern.Compile

namespace Except

variable {ε ε' α β : Type}

/-- Two steps in turn succeed exactly where the first does, and then the second. -/
theorem bind_eq_ok_iff {first : Except ε α} {second : α → Except ε β} {value : β} :
    first.bind second = .ok value ↔ ∃ middle, first = .ok middle ∧ second middle = .ok value := by
  cases first <;> simp [Except.bind]

/-- With its errors seen in another way, what succeeds is the same. -/
theorem mapError_eq_ok_iff {change : ε → ε'} {result : Except ε α} {value : α} :
    result.mapError change = .ok value ↔ result = .ok value := by
  cases result with
  | ok found =>
    constructor <;> exact fun same => congrArg Except.ok (Except.ok.inj same)
  | error error => exact iff_of_false nofun nofun

end Except

namespace DumpConverter

/-- Why a file cannot be read or written. -/
inductive FileFault where
  | notFound
  | notDirectory
  | isDirectory
  | nameTooLong
  | invalidUtf8
  | nulInPath
  | permissionDenied
  /-- A cause in words of its own. -/
  | other (text : String)
deriving DecidableEq, Repr

namespace FileFault

/-- The wording of the cause. -/
def message : FileFault → String
  | notFound => "No such file or directory (os error 2)"
  | notDirectory => "Not a directory (os error 20)"
  | isDirectory => "Is a directory (os error 21)"
  | nameTooLong => "File name too long (os error 36)"
  | invalidUtf8 => "stream did not contain valid UTF-8"
  | nulInPath => "file name contained an unexpected NUL byte"
  | permissionDenied => "Permission denied (os error 13)"
  | other text => text

end FileFault

/-- Why a conversion cannot be made. -/
inductive ConvertError where
  /-- A file could not be read or written. -/
  | io (path : String) (fault : FileFault)
  /-- The pattern of a rule is none. -/
  | invalidPattern (rule : String) (error : PatternError)
  /-- There is no rule of this name. -/
  | unknownRule (name : String)
  /-- The settings are not valid. -/
  | config (detail : String)
  /-- The text of the settings, perhaps from a file, is not a TOML document. -/
  | malformedConfig (path : Option String) (text : String)
  /-- No script was named. -/
  | missingInput
deriving DecidableEq, Repr

namespace ConvertError

/-- The wording of the error; `tomlReport` is what the reader of TOML reports of a text. -/
def message (tomlReport : String → String) : ConvertError → String
  | io path fault => "IO error on '" ++ path ++ "': " ++ fault.message
  | invalidPattern rule error => "Invalid pattern for rule '" ++ rule ++ "': " ++ error.message
  | unknownRule name =>
    "Unknown rule: '" ++ name ++ "'. Run \x60sqlite2pg rules\x60 to list rule names"
  | config detail => "Configuration error: " ++ detail
  | malformedConfig none text => "Configuration error: " ++ tomlReport text
  | malformedConfig (some path) text =>
    "Configuration error: " ++ path ++ ": Configuration error: " ++ tomlReport text
  | missingInput => "No input file given. Pass a path or set \x60input\x60 in sqlite2pg.toml"

/-- The wording of the cause, for errors that have one. -/
def source? : ConvertError → Option String
  | io _ fault => some fault.message
  | invalidPattern _ error => some error.message
  | _ => none

/-- The error and its cause, as a user is shown them. -/
def chain (tomlReport : String → String) (error : ConvertError) : String :=
  ": ".intercalate (error.message tomlReport :: error.source?.toList)

section Chain

variable {tomlReport : String → String} {error : ConvertError}

/-- An error without a cause is told by itself. -/
theorem chain_of_noSource (noSource : error.source? = none) :
    error.chain tomlReport = error.message tomlReport := by
  rw [chain, noSource]
  exact String.intercalate_singleton

/-- The cause of an error is told behind it. -/
theorem chain_of_source {cause : String} (source : error.source? = some cause) :
    error.chain tomlReport = error.message tomlReport ++ ": " ++ cause := by
  rw [chain, source]
  exact String.intercalate_cons_cons.trans (congrArg _ String.intercalate_singleton)

end Chain

end ConvertError

end DumpConverter
