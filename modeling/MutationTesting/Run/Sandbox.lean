import MutationTesting.Files.FileSystem
import MutationTesting.Files.Wildcard
import MutationTesting.Mutation.Mutant
import MutationTesting.Testing.Invocation

/-!
# Sandboxes

A sandbox is a copy of the project.  Tests that run in it see the mutant at the same place in the
project, and import the copy before the installed package.
-/

namespace MutationTesting.Run

open MutationTesting.Files
open MutationTesting.Testing

/-- A project, and the copy that stands in for it. -/
structure Sandbox where
  /-- The current directory, which relative paths are seen from. -/
  directory : Path
  project : Path
  copy : Path
deriving DecidableEq, Repr

/-- Names that are not copied. -/
def ignoredNames : List String :=
  [".git", "__pycache__", ".venv", "venv", ".pytest_cache", ".mypy_cache", "*.backup"]

def isIgnored (name : String) : Bool := ignoredNames.any fun pattern => matchesPattern pattern name

/-- The store with all entries below one address copied below another. -/
def copyTree (s : Store) (source target : Address) : Store :=
  (s.below source).foldl
    (fun s (place, entry) => if place.any isIgnored then s else s.put (target ++ place) entry)
    (FileSystem.plant s target .directory)

namespace Sandbox

/-- The path of a file seen from the project. -/
def placeInProject (b : Sandbox) (path : Path) : Path :=
  Path.relative (Path.absolute b.directory path) b.project

def isInside (b : Sandbox) (path : Path) : Bool :=
  !Text.startsWith ".." (b.placeInProject path)

/-- The path of the copy of a file.  A file outside of the project has no copy and stays where it
is. -/
def relocate (b : Sandbox) (path : Path) : Path :=
  if b.isInside path then Path.normalize (Path.join b.copy (b.placeInProject path))
  else Path.absolute b.directory path

/-- The directory so many levels above another one. -/
def ancestor : Nat → Path → Path
  | 0, path => path
  | levels + 1, path => ancestor levels (Path.parent path)

/-- The directory that the module of a file is imported from. -/
def importRoot (directory : Path) (source : SourceFile) : Path :=
  let folder := Path.parent (Path.absolute directory source.path)
  match source.moduleId with
  | none | some "" => folder
  | some name =>
    let isPackage := Path.withoutExtension (Path.baseName source.path) = "__init__"
    ancestor (name.toList.count '.' + (if isPackage then 1 else 0)) folder

/-- The environment of tests in the sandbox: the copy comes first on the search path. -/
def environment (b : Sandbox) (parent given : Environment) (source : SourceFile) : Environment :=
  let inherited :=
    (given.get? searchPathName).getD ((parent.get? searchPathName).getD "")
  let first := b.relocate (importRoot b.directory source)
  given.set searchPathName
    (searchPathText (first :: (searchPathEntries inherited).filter (· ≠ first)))

end Sandbox

end MutationTesting.Run
