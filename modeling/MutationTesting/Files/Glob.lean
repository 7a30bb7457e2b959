import MutationTesting.Files.FileSystem
import MutationTesting.Files.Wildcard

/-!
# Paths that match a pattern

A pattern is a path whose names may hold wildcards.  The name `**` stands for any number of
directories.  Wildcards do not match names that begin with a dot, unless the pattern does too.
-/

namespace MutationTesting.Files

open MutationTesting.Text

namespace Glob

def hasWildcard (text : String) : Bool :=
  text.toList.any fun c => c == '*' || c == '?' || c == '['

def isHidden (name : String) : Bool := startsWith "." name

/-- The name that stands for any number of directories. -/
def anyDirectories : String := "**"

/-- A path inside a directory, where either may be missing. -/
def inside (directory name : Path) : Path :=
  if directory = "" ∨ name = "" then directory ++ name else Path.join directory name

/-- The names in a directory, or only those of directories. -/
def listed (fs : FileSystem) (directoriesOnly : Bool) (directory : Path) : List String :=
  let place := if directory = "" then "." else directory
  (fs.names place).filter fun name =>
    !directoriesOnly || fs.isDirectory (Path.join place name)

/-- The names in a directory that match a pattern. -/
def matching (fs : FileSystem) (directoriesOnly : Bool) (directory : Path) (pattern : String) :
    List String :=
  (listed fs directoriesOnly directory).filter fun name =>
    (isHidden pattern || !isHidden name) && matchesPattern pattern name

/-- The paths of everything below a directory, seen from there, at most `depth` names long. -/
def tree (fs : FileSystem) (directoriesOnly : Bool) : Nat → Path → List Path
  | 0, _ => []
  | depth + 1, directory =>
    ((listed fs directoriesOnly directory).filter fun name => !isHidden name).flatMap fun name =>
      name :: (tree fs directoriesOnly depth (inside directory name)).map (inside name)

/-- How many names a path can have that does not follow too many links. -/
def maxDepth (fs : FileSystem) : Nat :=
  (Store.maxLinks + 1) * (fs.store.entries.length + 1)

/-- The names that the last name of a pattern stands for in a directory. -/
def namesIn (fs : FileSystem) (directoriesOnly : Bool) (directory : Path) (pattern : String) :
    List Path :=
  if pattern = anyDirectories then "" :: tree fs directoriesOnly (maxDepth fs) directory
  else if hasWildcard pattern then matching fs directoriesOnly directory pattern
  else if pattern = "" then (if fs.isDirectory directory then [""] else [])
  else if fs.holds (inside directory pattern) then [pattern]
  else []

/-- The paths that match a pattern.  Each step takes a name off the pattern, so its length bounds
the depth. -/
def expandFrom (fs : FileSystem) : Nat → Bool → Path → List Path
  | 0, _, _ => []
  | bound + 1, directoriesOnly, pattern =>
    let directory := Path.parent pattern
    let name := Path.baseName pattern
    if !hasWildcard pattern then
      if name = "" then (if fs.isDirectory directory then [pattern] else [])
      else if fs.holds pattern then [pattern]
      else []
    else if directory = "" then namesIn fs directoriesOnly "" name
    else
      let directories :=
        if directory ≠ pattern && hasWildcard directory then expandFrom fs bound true directory
        else [directory]
      directories.flatMap fun d => (namesIn fs directoriesOnly d name).map (Path.join d)

/-- A pattern that matches one text only. -/
def escape (text : String) : String :=
  String.ofList (text.toList.flatMap fun c =>
    if c == '*' || c == '?' || c == '[' then ['[', c, ']'] else [c])

/-- The paths that match a pattern, in no particular order. -/
def expand (fs : FileSystem) (pattern : Path) : List Path :=
  expandFrom fs (pattern.length + 1) false pattern

end Glob

end MutationTesting.Files
