import MutationTesting.Files.Discovery
import MutationTesting.Mutation.Walk
import MutationTesting.Optimizer.Pipeline
import MutationTesting.Run.Pool
import MutationTesting.Settings.Reading

/-!
# Running the mutants of a project

The sources of a project are loaded, their mutations found and selected, the tests found that refer
to them, and the mutants run, file after file.
-/

namespace MutationTesting.Run

open MutationTesting.Files
open MutationTesting.Testing
open MutationTesting.Settings (RunConfig UseError Value)
open MutationTesting.Optimizer (Candidate)

/-- Why a run does not come to its end. -/
inductive RunError where
  | use (e : UseError)
  /-- A mutation cannot be described. -/
  | description (e : DescriptionError)
  | pool (e : PoolError)
deriving DecidableEq, Repr

/-- What a run finds in its surroundings. -/
structure Surroundings where
  files : FileSystem
  /-- The directories that modules are imported from. -/
  searchPath : List Path
  environment : Environment
  runner : Runner

/-- What a run works on. -/
structure Scope where
  /-- Names of files and directories; without any, those of the configuration count. -/
  patterns : List Path
  /-- The directory of the project. -/
  root : Option Path

namespace Scope

/-- A path seen from the directory of the project. -/
def under (scope : Scope) (path : Path) : Path :=
  match scope.root with
  | none => path
  | some root => if Path.isAbsolute path then path else Path.join root path

end Scope

/-- The files of several patterns, each file once. -/
def eachOnce (files : List SourceFile) : List SourceFile :=
  files.foldl (fun kept file =>
    if kept.any fun other => other.path == file.path then kept else kept ++ [file]) []

/-- The source files of a run, in the order of the patterns. -/
def loadFiles (c : RunConfig) (fs : FileSystem) (searchPath : List Path) (scope : Scope) :
    Except UseError (List SourceFile) := do
  let excluded := (← c.exclude.asTexts).map scope.under
  let patterns ← if scope.patterns.isEmpty then c.paths.asTexts else pure scope.patterns
  pure (eachOnce (patterns.flatMap fun pattern =>
    Discovery.load fs searchPath scope.root excluded (scope.under pattern)))

/-- The mutations of all files, file after file. -/
def candidates (strategies : List Strategy) (files : List SourceFile) :
    Except DescriptionError (List Mutation) := do
  let found ← files.mapM fun file => mutationsOf strategies file.path file.tree
  pure found.flatten

/-- The test files of a run. -/
def testsBelow (fs : FileSystem) (directory : Path) : List Path :=
  if fs.isDirectory directory then (Discovery.testFiles fs directory).map fs.absolute else []

/-- The module of each file. -/
def moduleOf (files : List SourceFile) (path : Path) : Option String :=
  (files.find? fun file => file.path == path).bind (·.moduleId)

/-- The names of all modules among the files. -/
def knownModules (files : List SourceFile) : List String :=
  (files.filterMap (·.moduleId)).filter (· ≠ "")

/-- The jobs of a file. -/
def jobsOf (selected : List Candidate) (file : SourceFile) : List Job :=
  (selected.filter fun c => c.mutation.filePath == file.path).map fun c => ⟨c.place, c.mutation⟩

/-- The options of the pools of a run. -/
def poolOptions (c : RunConfig) (root : Option Path) : Except RunError PoolOptions := do
  let invocation ← (c.invocation root).mapError .use
  match c.concurrency.whole? with
  | none => throw (.use .wrongKind)
  | some workers =>
    (PoolOptions.make workers c.timeout invocation c.isolation.name false).mapError .pool

/-- What all files of a run have in common. -/
structure Plan where
  config : RunConfig
  root : Option Path
  surroundings : Surroundings
  files : List SourceFile
  selected : List Candidate
  tests : List Path
  dependencies : Dependencies.DependencyMap

namespace Plan

def assignment (p : Plan) (options : PoolOptions) (file : SourceFile) : Assignment :=
  { options
    source := file
    runner := p.surroundings.runner
    environment := p.surroundings.environment
    dependencies := p.dependencies
    moduleOf := moduleOf p.files
    fallbackTests := p.tests }

/-- Runs the jobs of the files that are left, after what is done. -/
def runFiles (p : Plan) (done : Completed) : List SourceFile → Except RunError Completed
  | [] => .ok done
  | file :: rest =>
    match jobsOf p.selected file with
    | [] => runFiles p done rest
    | jobs => do
      let options ← poolOptions p.config p.root
      let finished := runJobs (p.assignment options file) done.files jobs
      runFiles p ⟨finished.files, done.results ++ finished.results,
        done.observations ++ finished.observations⟩ rest

end Plan

/-- The outcome of a run. -/
structure Outcome where
  /-- The paths of the files. -/
  files : List Path
  totalMutations : Nat
  completed : Completed
  /-- What the optimizer removed, if it was asked to. -/
  report : Option Optimizer.Report

namespace Outcome

def results (o : Outcome) : List MutationResult := o.completed.results.map (·.result)

end Outcome

/-- Runs the mutants of a project. -/
def runProject (c : RunConfig) (s : Surroundings) (scope : Scope) : Except RunError Outcome := do
  let strategies ← c.chosenStrategies.mapError .use
  let files ← (loadFiles c s.files s.searchPath scope).mapError .use
  let found ← (candidates strategies files).mapError .description
  let options ← (c.optimizerSettings.options (Optimizer.score found)).mapError .use
  let optimized := Optimizer.optimize options found
  let report := if options.enabled then some (Optimizer.report found.length optimized) else none
  let selected ← (c.firstMutations optimized).mapError .use
  let testDirectory ← c.testDirectory.asText.mapError .use
  let tests := testsBelow s.files (scope.under testDirectory)
  let dependencies := Discovery.analyze s.files (some (knownModules files)) tests
  let plan : Plan := ⟨c, scope.root, s, files, selected, tests, dependencies⟩
  let completed ← plan.runFiles ⟨s.files, [], []⟩ files
  pure ⟨files.map (·.path), found.length, completed, report⟩

end MutationTesting.Run
