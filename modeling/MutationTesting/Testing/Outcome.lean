import MutationTesting.Files.FileSystem
import MutationTesting.Mutation.Basic
import MutationTesting.Number.Amount
import MutationTesting.Number.Decimal
import MutationTesting.Testing.Invocation
import MutationTesting.Text.Quoted

/-!
# Running tests

What a run of tests is asked for and how it can end.  A runner is anything that answers such a
request while it sees the files as they are; it changes none of them.

Every mutant that was run has one result.  The score of a run is the percentage of mutants that some
test killed.
-/

namespace MutationTesting.Testing

/-! ## Requests and failures -/

open MutationTesting.Files

/-- A request to run tests. -/
structure TestRun where
  tests : List Path
  timeout : Amount
  options : InvocationOptions
deriving DecidableEq, Repr

/-- The message about tests that took too long. -/
def timeoutMessage (limit : Amount) : String :=
  "test process timed out after " ++ limit.toBinary64.fixed 1 ++ "s"

/-- An error nobody expects: its kind and what it says. -/
inductive Crash where
  | message (kind text : String)
  | file (error : FileError)
deriving DecidableEq, Repr

namespace Crash

/-- The kind of a file error. -/
def kindOf : FileError → String
  | .notFound => "FileNotFoundError"
  | .notDirectory => "NotADirectoryError"
  | .isDirectory => "IsADirectoryError"
  | .tooManyLinks => "OSError"

def kind : Crash → String
  | message kind _ => kind
  | file error => kindOf error

/-- The text that shows an unexpected error. -/
def shown : Crash → String
  | message kind text => kind ++ "(" ++ Text.quoted text ++ ")"
  | file error =>
    kindOf error ++ "(" ++ Decimal.ofNat error.code ++ ", " ++ Text.quoted error.description ++ ")"

end Crash

/-- Why tests have no outcome. -/
inductive RunFailure where
  | timeout (limit : Amount)
  /-- The process could not be started. -/
  | notStarted (text : String)
  | crashed (crash : Crash)
deriving DecidableEq, Repr

/-- Gives the number of failures for a request. -/
abbrev Runner := FileSystem → TestRun → Except RunFailure Nat

/-! ## Results -/

/-- What became of a mutant. -/
inductive Classification where
  | killed
  | survived
  | invalid
  | timeout
  | error
  /-- A classification made elsewhere, which counts in the total only. -/
  | foreign (name : String)
deriving DecidableEq, Repr

namespace Classification

def name : Classification → String
  | killed => "killed"
  | survived => "survived"
  | invalid => "invalid"
  | timeout => "timeout"
  | error => "error"
  | foreign name => name

/-- The classifications of a run. -/
def all : List Classification := [killed, survived, invalid, timeout, error]

def ofName (name : String) : Classification := (all.find? (·.name == name)).getD (foreign name)

/-- A mutant is killed by a failing test. -/
def ofFailures (failures : Nat) : Classification := if 0 < failures then killed else survived

end Classification

structure MutationResult where
  mutation : Mutation
  classification : Classification
  error : Option String
deriving DecidableEq, Repr

def countOf (c : Classification) (results : List MutationResult) : Nat :=
  results.countP fun r => decide (r.classification = c)

def survivors (results : List MutationResult) : List MutationResult :=
  results.filter fun r => decide (r.classification = .survived)

/-- How many results each classification has. -/
def counts (results : List MutationResult) : List (Classification × Nat) :=
  Classification.all.map fun c => (c, countOf c results)

/-- The score of a number of killed mutants, with two decimal places. -/
def scoreOf (killed total : Nat) : Binary64 :=
  if total = 0 then Binary64.zero else Binary64.percentage killed total 2

def mutationScore (results : List MutationResult) : Binary64 :=
  scoreOf (countOf .killed results) results.length

end MutationTesting.Testing
