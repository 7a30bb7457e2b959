import MutationTesting.Files.Path
import MutationTesting.Text.CharClass

/-!
# Module names

The dotted name under which a source file can be imported, and the names that mark test files.
-/

namespace MutationTesting.Files

open MutationTesting.Text

/-- The extension of source files. -/
def sourceExtension : String := ".py"

/-- The name of the file that makes a directory a package. -/
def packageFile : String := "__init__"

/-- The directory that module names of a project start from: its `src` directory for the files in
there, else the project itself. -/
def projectBase (root path : Path) : Path :=
  let sources := Path.join root "src"
  if Path.isBelow sources path then sources else root

/-- The longest directory of the search path that holds a file. -/
def longest : List Path → Option Path
  | [] => none
  | p :: rest =>
    match longest rest with
    | none => some p
    | some q => some (if p.length < q.length then q else p)

/-- The directory of the search path that a file is imported from, or the current one. -/
def searchBase (directory : Path) (searchPath : List Path) (path : Path) : Path :=
  let holding := ((searchPath.filter (· ≠ "")).map (Path.absolute directory)).filter
    (Path.isBelow · path)
  (longest holding).getD directory

/-- The dotted name of a path below the directory that names start from. -/
def dottedName? (relative : Path) : Option String :=
  if startsWith ".." relative || Path.extension relative ≠ sourceExtension then none
  else
    let parts := Path.segments (Path.withoutExtension relative)
    let parts := if parts.getLast? = some packageFile then parts.dropLast else parts
    if parts.isEmpty || !parts.all (fun p => isIdentifier p.toList) then none
    else some (String.intercalate "." parts)

/-- Where a program runs: its current directory and the directories modules are imported from. -/
structure Location where
  directory : Path
  searchPath : List Path
deriving DecidableEq, Repr

/-- The name of the module in a file, if it can be imported. -/
def moduleName? (location : Location) (root : Option Path) (path : Path) : Option String :=
  let path := Path.absolute location.directory path
  let base :=
    match root with
    | some root => projectBase (Path.absolute location.directory root) path
    | none => searchBase location.directory location.searchPath path
  dottedName? (Path.relative path base)

/-- Whether a file name without its extension marks a test file. -/
def isTestStem (stem : List Char) : Bool :=
  "test_".toList.isPrefixOf stem || "_test".toList.isSuffixOf stem ||
    "describe_".toList.isPrefixOf stem || decide (stem = "conftest".toList)

/-- Whether a file name marks a test file. -/
def isTestName (name : List Char) : Bool :=
  let ending := sourceExtension.toList
  ending.isSuffixOf name && isTestStem (name.take (name.length - ending.length))

/-- A text without one line feed at its end. -/
def withoutFinalNewline (cs : List Char) : List Char :=
  if cs.getLast? = some '\n' then cs.dropLast else cs

/-- Whether a path leads to a test file.  A line feed at the very end does not count. -/
def isTestFile (path : Path) : Bool :=
  let marks (cs : List Char) := isTestName (Path.baseName (String.ofList cs)).toList
  marks path.toList || marks (withoutFinalNewline path.toList)

end MutationTesting.Files
