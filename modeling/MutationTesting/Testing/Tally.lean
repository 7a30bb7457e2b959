import MutationTesting.Number.Decimal
import MutationTesting.Text.CharClass
import MutationTesting.Text.Split

/-!
# Test reports and their summary

Inside a test process every phase of every test is reported.  A test counts when its call is
reported; a failure in any phase, or while collecting tests, counts as a failure.

The process reports its result in a line of its own, such as `5 tests, 2 failures`.  The last such
line of its output counts.  A process that never writes one is taken to have failed.
-/

namespace MutationTesting.Testing

open MutationTesting.Text

/-- A word, with an optional plural ending. -/
def noun (singular : String) : List Char → Option (List Char)
  | cs =>
    if singular.toList.isPrefixOf cs then
      match cs.drop singular.length with
      | 's' :: rest => some rest
      | rest => some rest
    else none

/-- A number in digits of any script, with the rest. -/
def digitsOf? (cs : List Char) : Option (List Char × List Char) :=
  match cs.takeWhile isDigit with
  | [] => none
  | digits => some (digits, cs.dropWhile isDigit)

/-- The digits of the number of failures, if a line is a summary and nothing else.  A carriage return
may end the line. -/
def failureDigits? (line : List Char) : Option (List Char) := do
  let (_, rest) ← digitsOf? line
  let rest ← noun " test" rest
  let rest ← if ", ".toList.isPrefixOf rest then some (rest.drop 2) else none
  let (failures, rest) ← digitsOf? rest
  let rest ← noun " failure" rest
  if rest = [] ∨ rest = ['\r'] then some failures else none

/-- A number written in digits of any script. -/
def numeralValue (digits : List Char) : Nat :=
  digits.foldl (fun n c => 10 * n + (digitValue? c).getD 0) 0

/-- A count of failures with more digits than a number may be read from. -/
structure LongCount where
  digits : List Char
deriving DecidableEq, Repr

/-- The number of failures that an output reports. -/
def countFailures (output : String) : Except LongCount Nat :=
  match ((splitAt '\n' output.toList).filterMap failureDigits?).getLast? with
  | none => .ok 1
  | some digits =>
    if digits.length ≤ Decimal.maxDigits then .ok (numeralValue digits) else .error ⟨digits⟩

/-- The summary line for a number of tests and a number of failures. -/
def summaryLine (tests failures : Nat) : String :=
  Decimal.ofNat tests ++ " tests, " ++ Decimal.ofNat failures ++
    (if failures = 1 then " failure" else " failures")

/-- The phases of a test. -/
inductive Phase where
  | setup
  | call
  | teardown
  | other (name : String)
deriving DecidableEq, Repr

/-- The phase with a name. -/
def Phase.ofName : String → Phase
  | "setup" => setup
  | "call" => call
  | "teardown" => teardown
  | name => other name

inductive TestEvent where
  /-- A phase of a test was run. -/
  | test (name : String) (phase : Phase) (failed : Bool)
  /-- A file was searched for tests. -/
  | collection (name : String) (failed : Bool)
deriving DecidableEq, Repr

structure Tally where
  total : Nat := 0
  /-- Tests whose call failed. -/
  failed : List String := []
  /-- Tests and files that failed outside a call. -/
  errors : List String := []
deriving DecidableEq, Repr, Inhabited

namespace Tally

/-- The name under which the counter is registered. -/
def registeredName : String := "mutascope-summary"

def record (t : Tally) : TestEvent → Tally
  | .test name .call failed =>
    { t with total := t.total + 1, failed := if failed then t.failed ++ [name] else t.failed }
  | .test name .setup true => { t with errors := t.errors ++ [name] }
  | .test name .teardown true => { t with errors := t.errors ++ [name] }
  | .collection name true => { t with errors := t.errors ++ [name] }
  | _ => t

def failures (t : Tally) : Nat := t.failed.length + t.errors.length

def summary (t : Tally) : String := summaryLine t.total t.failures

def ofEvents (events : List TestEvent) : Tally := events.foldl record {}

end Tally

end MutationTesting.Testing
