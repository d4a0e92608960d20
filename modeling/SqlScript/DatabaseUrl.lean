import SqlScript.Text.LetterCase
import SqlScript.Text.Split

/-!
# Database URLs

A URL names the kind of a database by its scheme and the database by its location. A text without
a scheme is the path of a SQLite file.

* `DatabaseUrl`, `DatabaseUrl.ofString`: the parts of a URL.
* `memoryDatabase`: the location of a database that is kept in memory.
-/

namespace SqlScript

/-- The location of a database that is kept in memory. -/
def memoryDatabase : String := ":memory:"

/-- **A database URL** in its parts. -/
structure DatabaseUrl where
  scheme : String
  location : String
  deriving DecidableEq, Repr

namespace DatabaseUrl

/-- The scheme of a text without a scheme. -/
def defaultScheme : String := "sqlite"

/-- What stands between a scheme and a location. -/
def schemeMark : List Char := [':', '/', '/']

/-- The location after the mark: one slash at its start does not belong to it. -/
def dropSlash : List Char → List Char
  | '/' :: cs => cs
  | cs => cs

/-- **The parts of a URL.** Letters of the scheme are small; an SQLite URL without a location names
a database in memory. -/
def ofString (url : String) : DatabaseUrl :=
  match Text.splitAtMark? schemeMark url.toList with
  | none => ⟨defaultScheme, url⟩
  | some (scheme, rest) =>
    let scheme := String.ofList (Text.lower scheme)
    let location := String.ofList (dropSlash rest)
    if scheme = defaultScheme ∧ location = "" then ⟨scheme, memoryDatabase⟩
    else ⟨scheme, location⟩

end DatabaseUrl

end SqlScript
