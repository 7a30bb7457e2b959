import MutationTesting.Dependencies.Map
import MutationTesting.Files.Glob
import MutationTesting.Files.ModuleName
import MutationTesting.Mutation.Mutant
import MutationTesting.Source.Scanner
import MutationTesting.Text.Utf8

/-!
# Finding files

A pattern, a directory or the path of a file names source files to mutate.  Test files are found by
their names and read for the modules they refer to.  Files that cannot be read are passed over.
-/

namespace MutationTesting.Files

open MutationTesting.Text
open MutationTesting.Dependencies (DependencyMap references)

namespace Discovery

/-- The pattern of all source files below a directory. -/
def allSources (directory : Path) : Path :=
  Path.join (Path.join directory Glob.anyDirectories) ("*" ++ sourceExtension)

/-- The source files that a pattern names, in ascending order. -/
def expand (fs : FileSystem) (pattern : Path) : List Path :=
  let found := Glob.expand fs (if fs.isDirectory pattern then allSources pattern else pattern)
  sortedSet (found.filter fun path => fs.isFile path && endsWith sourceExtension path)

/-- The text of a file, with a line feed at the end of every line. -/
def readText? (fs : FileSystem) (path : Path) : Option String :=
  match fs.read path with
  | .ok content => (Utf8.decode? content).map fun cs => String.ofList (Source.normalizeNewlines cs)
  | .error _ => none

def readTree? (fs : FileSystem) (path : Path) : Option (String × Tree) := do
  let source ← readText? fs path
  let tree ← Source.parse? source
  pure (source, tree)

def isExcluded (patterns : List String) (path : Path) : Bool :=
  patterns.any fun pattern => matchesPattern pattern path

/-- The source file at a path, unless it is a test, excluded or no program. -/
def loadFile? (fs : FileSystem) (searchPath : List Path) (root : Option Path)
    (excluded : List String) (path : Path) : Option SourceFile :=
  if isTestFile path || isExcluded excluded path then none
  else do
    let (source, tree) ← readTree? fs path
    pure ⟨fs.absolute path, tree, moduleName? ⟨fs.directory, searchPath⟩ root path, source⟩

/-- The source files that a pattern names. -/
def load (fs : FileSystem) (searchPath : List Path) (root : Option Path) (excluded : List String)
    (pattern : Path) : List SourceFile :=
  (expand fs pattern).filterMap (loadFile? fs searchPath root excluded)

/-- Whether a file holds tests of its own, and is not only there to set them up. -/
def holdsTests (path : Path) : Bool :=
  isTestFile path && !startsWith "conftest" (Path.baseName path)

/-- The test files below a directory, in ascending order. -/
def testFiles (fs : FileSystem) (directory : Path) : List Path :=
  sortedSet ((Glob.expand fs (allSources directory)).filter holdsTests)

/-- Which of the test files refer to which modules. -/
def analyze (fs : FileSystem) (known : Option (List String)) (tests : List Path) : DependencyMap :=
  tests.foldl (fun d test =>
    match readTree? fs test with
    | some (_, tree) => d.addTest test (references known tree)
    | none => d) {}

end Discovery

end MutationTesting.Files
