import MutationTesting.Optimizer.Options
import MutationTesting.Run.Isolation
import MutationTesting.Settings.Value
import MutationTesting.Text.CharClass

/-!
# Configuration of a run

A configuration is made from named values (`RunConfig.ofValues`).  What limits a run is checked
when it is made; the other values are kept as they are given.
-/

namespace MutationTesting.Settings

open MutationTesting.Run (Isolation)
open MutationTesting.Optimizer (Level)

/-- How many tests run at once unless told otherwise: half of the processors, but at least one.  An
unknown number of processors, or none, counts as two. -/
def defaultConcurrency (processors : Option Int) : Int :=
  let available := match processors with
    | none => 2
    | some n => if n = 0 then 2 else n
  max 1 (available.fdiv 2)

/-- Everything a run needs to know. -/
structure RunConfig where
  paths : Value
  exclude : Value
  testDirectory : Value
  strategies : Value
  concurrency : Amount
  timeout : Amount
  optimize : Value
  level : Level
  minComplexity : Value
  maxPerFunction : Value
  maxMutations : Option Amount
  isolation : Isolation
  testCommand : Value
  environmentName : Value
deriving Repr

/-- Why no configuration can be made from values. -/
inductive Rejection where
  | concurrencyTooLow (shown : String)
  | timeoutNotPositive (shown : String)
  | unknownLevel (shown : String)
  | unknownIsolation (shown : String)
  | negativeLimit
  /-- A value cannot be compared with a number. -/
  | notComparable (comparison kind : String)
  /-- A value cannot be looked up. -/
  | notKey (kind : String)
  | unknownField (name : String)
  /-- The value to complain about has too many digits to be written. -/
  | longNumber
deriving DecidableEq, Repr

def Rejection.message : Rejection → String
  | concurrencyTooLow shown => "concurrency must be at least 1, got " ++ shown
  | timeoutNotPositive shown => "timeout must be positive, got " ++ shown
  | unknownLevel shown => "unknown optimize_level " ++ shown
  | unknownIsolation shown => "unknown isolation " ++ shown
  | negativeLimit => "max_mutations cannot be negative"
  | notComparable comparison kind =>
    "'" ++ comparison ++ "' not supported between instances of '" ++ kind ++ "' and 'int'"
  | notKey kind => "unhashable type: '" ++ kind ++ "'"
  | unknownField name => "unknown setting " ++ Text.quoted name
  | longNumber => "a number has too many digits to be written"

/-- Whether a value is of a kind that its setting cannot have at all. -/
def Rejection.isOfKind : Rejection → Bool
  | notComparable .. => true
  | notKey _ => true
  | unknownField _ => true
  | _ => false

namespace RunConfig

/-- The names of all settings. -/
def fieldNames : List String :=
  ["paths", "exclude", "test_dir", "strategies", "concurrency", "timeout", "optimize",
    "optimize_level", "min_complexity", "max_per_function", "max_mutations", "isolation",
    "test_command", "env_name"]

/-- The time after which tests are stopped, in seconds. -/
def defaultTimeout : Binary64 := Binary64.ofNat 5

/-- The value of a setting that was not given. -/
def defaultValue (processors : Option Int) : String → Value
  | "paths" => .texts ["src"]
  | "exclude" => .list []
  | "test_dir" => .text "tests"
  | "concurrency" => .whole (defaultConcurrency processors)
  | "timeout" => .real defaultTimeout
  | "optimize" => .flag false
  | "optimize_level" => .text Level.balanced.name
  | "isolation" => .text Isolation.lock.name
  | "env_name" => .text "test"
  | _ => .absent

/-- A text alone is a list of one text. -/
def asList : Value → Value
  | .text s => .texts [s]
  | v => v

/-- A text is a command with blanks between its words. -/
def asCommand : Value → Value
  | .text s => .texts ((Text.words s.toList).map String.ofList)
  | v => v

/-- A rejection that shows the value it is about. -/
def rejecting {α : Type} (reject : String → Rejection) (v : Value) : Except Rejection α :=
  match v.shown? with
  | some shown => .error (reject shown)
  | none => .error .longNumber

/-- An amount that passes a check; a value of another kind cannot be compared. -/
def checked (comparison : String) (isRefused : Amount → Bool) (reject : String → Rejection)
    (v : Value) : Except Rejection Amount :=
  match v with
  | .amount x => if isRefused x then rejecting reject v else .ok x
  | _ => .error (.notComparable comparison v.kindName)

def checkedLevel (v : Value) : Except Rejection Level :=
  if !v.isKey then .error (.notKey v.kindName)
  else
    match v with
    | .text s =>
      match Level.ofName? s with
      | some level => .ok level
      | none => rejecting .unknownLevel v
    | _ => rejecting .unknownLevel v

def checkedIsolation (v : Value) : Except Rejection Isolation :=
  match v with
  | .text s =>
    match Isolation.ofName? s with
    | some isolation => .ok isolation
    | none => rejecting .unknownIsolation v
  | _ => rejecting .unknownIsolation v

/-- A limit that may be missing. -/
def checkedLimit (v : Value) : Except Rejection (Option Amount) :=
  match v with
  | .absent => .ok none
  | .amount x => if x.isNegative then .error .negativeLimit else .ok (some x)
  | _ => .error (.notComparable "<" v.kindName)

/-- The configuration with the given values, and with the usual ones of all other settings. -/
def ofValues (processors : Option Int) (given : Entries) : Except Rejection RunConfig := do
  match given.find? fun (name, _) => !fieldNames.contains name with
  | some (name, _) => throw (.unknownField name)
  | none => pure ()
  let value := fun name => (given.get? name).getD (defaultValue processors name)
  let concurrency ← checked "<" Amount.isBelowOne .concurrencyTooLow (value "concurrency")
  let timeout ← checked "<=" Amount.isAtMostZero .timeoutNotPositive (value "timeout")
  let level ← checkedLevel (value "optimize_level")
  let isolation ← checkedIsolation (value "isolation")
  let maxMutations ← checkedLimit (value "max_mutations")
  pure
    { paths := asList (value "paths")
      exclude := asList (value "exclude")
      testDirectory := value "test_dir"
      strategies := value "strategies"
      concurrency, timeout
      optimize := value "optimize"
      level
      minComplexity := value "min_complexity"
      maxPerFunction := value "max_per_function"
      maxMutations, isolation
      testCommand := asCommand (value "test_command")
      environmentName := value "env_name" }

/-- The values of all settings by their names. -/
def toEntries (c : RunConfig) : Entries :=
  [("paths", c.paths), ("exclude", c.exclude), ("test_dir", c.testDirectory),
    ("strategies", c.strategies), ("concurrency", .amount c.concurrency),
    ("timeout", .amount c.timeout), ("optimize", c.optimize), ("optimize_level", .text c.level.name),
    ("min_complexity", c.minComplexity), ("max_per_function", c.maxPerFunction),
    ("max_mutations", (c.maxMutations.map Value.amount).getD .absent),
    ("isolation", .text c.isolation.name), ("test_command", c.testCommand),
    ("env_name", c.environmentName)]

end RunConfig

end MutationTesting.Settings
