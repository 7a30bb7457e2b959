import MutationTesting.Dependencies.Map
import MutationTesting.Run.Coordinator
import MutationTesting.Run.Isolation
import MutationTesting.Run.PatchedFile
import MutationTesting.Run.Sandbox
import MutationTesting.Testing.Outcome

/-!
# Running the mutants of a file

Every mutant is put in place of its file, the tests are run, and the file is restored.  Mutants of
one file either share the file, one after the other, or each has a copy of the project.
-/

namespace MutationTesting.Run

open MutationTesting.Files
open MutationTesting.Testing
open MutationTesting.Dependencies (DependencyMap)

structure PoolOptions where
  workers : Nat
  timeout : Amount
  invocation : InvocationOptions
  isolation : Isolation
  strict : Bool
deriving DecidableEq, Repr

/-- Options that no pool can have. -/
inductive PoolError where
  | tooFewWorkers (workers : Int)
  | timeoutNotPositive (timeout : Amount)
  | unknownIsolation (name : String)
deriving DecidableEq, Repr

def PoolError.message : PoolError → String
  | tooFewWorkers workers => "max_workers must be at least 1, got " ++ Decimal.ofInt workers
  | timeoutNotPositive timeout => "timeout must be positive, got " ++ timeout.toText
  | unknownIsolation name =>
    "unknown isolation " ++ Text.quoted name ++ "; use one of " ++
      String.intercalate ", " (Isolation.all.map (·.name))

/-- Options checked one after the other. -/
def PoolOptions.make (workers : Int) (timeout : Amount) (invocation : InvocationOptions)
    (isolation : String) (strict : Bool) : Except PoolError PoolOptions :=
  if workers < 1 then .error (.tooFewWorkers workers)
  else if timeout.isAtMostZero then .error (.timeoutNotPositive timeout)
  else
    match Isolation.ofName? isolation with
    | none => .error (.unknownIsolation isolation)
    | some isolation => .ok ⟨workers.toNat, timeout, invocation, isolation, strict⟩

/-- A mutation to run, and its place among all mutations found. -/
structure Job where
  place : Nat
  mutation : Mutation
deriving DecidableEq, Repr

/-- The result of a job. -/
structure JobResult where
  place : Nat
  result : MutationResult
deriving DecidableEq, Repr

/-- A request that the runner got, with the files it saw. -/
structure Observation where
  request : TestRun
  files : FileSystem
deriving DecidableEq, Repr

/-- What the jobs of a pool work on. -/
structure Workshop where
  files : FileSystem
  /-- The copies of the project by slot. -/
  sandboxes : List (Nat × Path)
  /-- All requests to the runner so far. -/
  observations : List Observation
deriving DecidableEq, Repr

/-- What all jobs of a pool have in common. -/
structure Assignment where
  options : PoolOptions
  source : SourceFile
  runner : Runner
  /-- The environment of the program itself. -/
  environment : Environment
  dependencies : DependencyMap
  moduleOf : String → Option String
  /-- The tests of a mutation that no test is known for. -/
  fallbackTests : List Path

namespace Assignment

/-- The tests that are run for a mutation. -/
def testsFor (a : Assignment) (m : Mutation) : List Path :=
  match a.dependencies.testsForMutation a.moduleOf m with
  | [] => Text.sortedSet a.fallbackTests
  | tests => tests

/-- The directory of the project. -/
def project (a : Assignment) (fs : FileSystem) : Path :=
  match a.options.invocation.directory with
  | none | some "" => fs.absolute fs.directory
  | some directory => fs.absolute directory

end Assignment

/-- The directory that holds the copy of a slot. -/
def copyParent (slot : Nat) : Address := ["tmp", "mutascope-" ++ Decimal.ofNat slot ++ "-copy"]

/-- The copy of the project for a slot, made when it is first needed. -/
def sandboxOf (w : Workshop) (project : Path) (slot : Nat) : Except FileError (Workshop × Path) :=
  match w.sandboxes.lookup slot with
  | some copy => .ok (w, copy)
  | none => do
    let name := Path.baseName project
    let target := copyParent slot ++ [if name = "" then "project" else name]
    match ← w.files.store.locate true w.files.directory project with
    | (source, some .directory) =>
      let store := copyTree w.files.store source target
      let copy := FileSystem.pathOf target
      pure ({ w with files := { w.files with store }, sandboxes := w.sandboxes ++ [(slot, copy)] },
        copy)
    | (_, none) => throw .notFound
    | _ => throw .notDirectory

/-- The file that gets the mutant, and the request for the tests. -/
structure Placement where
  target : Path
  request : TestRun
deriving DecidableEq, Repr

/-- Where a job takes place: at the file itself, or in the sandbox of its slot. -/
def placementOf (a : Assignment) (w : Workshop) (slot : Nat) (tests : List Path) :
    Except FileError (Workshop × Placement) :=
  let invocation := a.options.invocation
  let path := a.source.path
  match a.options.isolation with
  | .lock => .ok (w, ⟨path, ⟨tests, a.options.timeout, invocation⟩⟩)
  | .sandbox => do
    let project := a.project w.files
    let (w, copy) ← sandboxOf w project slot
    let b : Sandbox := ⟨w.files.directory, project, copy⟩
    let environment := b.environment a.environment invocation.environment a.source
    let invocation := { invocation with directory := some copy, environment := environment }
    let target := if b.isInside path then b.relocate path else path
    pure (w, ⟨target, ⟨tests.map b.relocate, a.options.timeout, invocation⟩⟩)

/-- The error that shows when the search for a mutation's node breaks off. -/
def searchCrash : SearchError → Crash
  | .noSingleNode => .message "TypeError" "expected AST, got 'list'"
  | .longNumeral =>
    .message "ValueError"
      ("Exceeds the limit (4300 digits) for integer string conversion; " ++
        "use sys.set_int_max_str_digits() to increase the limit")

def failed (m : Mutation) (crash : Crash) : MutationResult := ⟨m, .error, some crash.shown⟩

/-- The result of a mutant that could not be put in place. -/
def notPatched (m : Mutation) : PatchError → MutationResult
  | .file error => failed m (.file error)
  | .mutant (.search error) => failed m (searchCrash error)
  | .mutant (.mismatch error) => ⟨m, .invalid, some error.message⟩
  | .mutant (.invalid defect) => ⟨m, .invalid, some defect.summary⟩

/-- The result of a mutant that tests were run for. -/
def judged (m : Mutation) : Except RunFailure Nat → MutationResult
  | .ok failures => ⟨m, Classification.ofFailures failures, none⟩
  | .error (.timeout limit) => ⟨m, .timeout, some (timeoutMessage limit)⟩
  | .error (.notStarted text) => ⟨m, .error, some text⟩
  | .error (.crashed crash) => failed m crash

/-- Puts a mutant in its place, runs the tests and restores the file. -/
def runMutant (a : Assignment) (w : Workshop) (m : Mutation) (p : Placement) :
    Workshop × MutationResult :=
  match Patch.enter w.files m a.source p.target a.options.strict with
  | .error e => (w, notPatched m e)
  | .ok (inside, patch) =>
    let cleared := invalidateCompiled inside patch.target
    match cleared.failure with
    | some e =>
      let restored := patch.leave cleared.files
      ({ w with files := restored.files }, failed m (.file (restored.failure.getD e)))
    | none =>
      let outcome := a.runner cleared.files p.request
      let observations := w.observations ++ [⟨p.request, cleared.files⟩]
      let restored := patch.leave cleared.files
      ({ w with files := restored.files, observations := observations },
        match restored.failure with
        | none => judged m outcome
        | some e => failed m (.file e))

/-- Carries out a job in a slot. -/
def execute (a : Assignment) (w : Workshop) (slot : Nat) (job : Job) : Workshop × JobResult :=
  let m := job.mutation
  match placementOf a w slot (a.testsFor m) with
  | .error e => (w, ⟨job.place, failed m (.file e)⟩)
  | .ok (w, p) =>
    let (w, result) := runMutant a w m p
    (w, ⟨job.place, result⟩)

/-- What remains when all jobs are done. -/
structure Completed where
  files : FileSystem
  results : List JobResult
  observations : List Observation
deriving DecidableEq, Repr

/-- The files without the copies that were made for the slots. -/
def withoutCopies (fs : FileSystem) (sandboxes : List (Nat × Path)) : FileSystem :=
  { fs with store := sandboxes.foldl (fun s (slot, _) => s.eraseTree (copyParent slot)) fs.store }

/-- Runs all jobs of a file, the active ones being finished in the order they were started. -/
def runJobs (a : Assignment) (fs : FileSystem) (jobs : List Job) : Completed :=
  let (w, results) :=
    Coordinator.runAll (execute a) (fun _ => 0) a.options.workers ⟨fs, [], []⟩ jobs
  ⟨withoutCopies w.files w.sandboxes, results, w.observations⟩

end MutationTesting.Run
