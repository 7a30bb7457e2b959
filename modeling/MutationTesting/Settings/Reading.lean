import MutationTesting.Mutation.Basic
import MutationTesting.Optimizer.Pipeline
import MutationTesting.Settings.RunConfig
import MutationTesting.Testing.Invocation

/-!
# What a run reads from its configuration

A configuration keeps most values as they are given, so a run finds out when it needs one whether
it is of a kind that it can use.
-/

namespace MutationTesting.Settings

open MutationTesting.Optimizer (Candidate)
open MutationTesting.Testing (InvocationOptions)

/-- Why a run cannot use a value. -/
inductive UseError where
  | unknownStrategy (e : Strategy.UnknownName)
  | wrongKind
  /-- The name of a strategy is no text. -/
  | nameNotText
deriving DecidableEq, Repr

namespace Value

/-- The items that a value consists of: those of a list, the names of a table, the characters of a
text. -/
def items : Value → Except UseError (List Value)
  | list items => .ok items
  | table entries => .ok (entries.map fun (name, _) => text name)
  | text s => .ok (s.toList.map fun c => text (String.ofList [c]))
  | _ => .error .wrongKind

def asText : Value → Except UseError String
  | text s => .ok s
  | _ => .error .wrongKind

/-- The texts that a value consists of. -/
def asTexts (v : Value) : Except UseError (List String) := do
  let items ← v.items
  items.mapM asText

/-- The texts at the start of a list, and whether there are any other values after them. -/
def leadingTexts : List Value → List String × Bool
  | text s :: rest =>
    let (texts, more) := leadingTexts rest
    (s :: texts, more)
  | [] => ([], false)
  | _ => ([], true)

end Value

/-- The options of the optimizer as a configuration gives them. -/
structure OptimizerSettings where
  enabled : Bool
  minComplexity : Value
  maxPerFunction : Value
  keepsBoundary : Bool
deriving Repr

/-- The options by their names. -/
def OptimizerSettings.toEntries (s : OptimizerSettings) : Entries :=
  [("enabled", .flag s.enabled), ("min_complexity", s.minComplexity),
    ("max_mutations_per_function", s.maxPerFunction),
    ("keep_boundary_mutations", .flag s.keepsBoundary)]

/-- The least whole number that is not below an amount.  There is none for an amount above all
numbers, or for an undefined one. -/
def ceiling? : Amount → Option Int
  | .flag b => some (Amount.ofFlag b)
  | .whole n => some n
  | .real (.finite negative significand exponent) =>
    let (numerator, denominator) := Binary64.magnitude significand exponent
    some (-(-(Binary64.signedInt negative numerator)).fdiv denominator)
  | .real (.infinite true) => some 0
  | .real _ => none

/-- A threshold that exactly the complexities pass that are not below an amount. -/
def threshold (candidates : List Candidate) (v : Value) : Except UseError Int :=
  match v with
  | .amount x =>
    match ceiling? x with
    | some n => .ok n
    | none =>
      let complexities := candidates.map fun c => Optimizer.complexity c.mutation
      .ok (complexities.foldl max 0 + 1)
  | _ => .error .wrongKind

/-- A whole number that counts items. -/
def count : Value → Except UseError Int
  | .amount x =>
    match x.whole? with
    | some n => .ok n
    | none => .error .wrongKind
  | _ => .error .wrongKind

/-- The options for candidates.  A value that no candidate is held against may be of any kind. -/
def OptimizerSettings.options (s : OptimizerSettings) (scored : List Candidate) :
    Except UseError Optimizer.Options := do
  if !s.enabled then return { enabled := false, keepsBoundary := s.keepsBoundary }
  let compared := Optimizer.dropEquivalent scored
  let minComplexity ← if compared.isEmpty then pure 0 else threshold compared s.minComplexity
  let limited := Optimizer.dropSimple minComplexity compared
  let maxPerFunction ← if limited.isEmpty then pure 0 else count s.maxPerFunction
  pure ⟨true, minComplexity, maxPerFunction, s.keepsBoundary⟩

/-- One of the options of the optimizer, changed by its name. -/
def changeOption (o : Optimizer.Options) (name : String) (v : Value) :
    Except UseError Optimizer.Options :=
  match name with
  | "enabled" => .ok { o with enabled := v.isYes }
  | "min_complexity" => do pure { o with minComplexity := ← count v }
  | "max_mutations_per_function" => do pure { o with maxPerFunction := ← count v }
  | "keep_boundary_mutations" => .ok { o with keepsBoundary := v.isYes }
  | _ => .error .wrongKind

/-- The options of the optimizer, changed by values that are not missing. -/
def changedOptions (o : Optimizer.Options) (changes : Entries) :
    Except UseError Optimizer.Options :=
  (changes.filter fun (_, v) => !v.isAbsent).foldlM (fun o (name, v) => changeOption o name v) o

namespace RunConfig

/-- The strategies that the configuration names. -/
def chosenStrategies (c : RunConfig) : Except UseError (List Strategy) :=
  match c.strategies with
  | .absent => (Strategy.select none).mapError .unknownStrategy
  | v => do
    let (names, hasOthers) := Value.leadingTexts (← v.items)
    let chosen ← (Strategy.select (some names)).mapError .unknownStrategy
    if hasOthers then throw .nameNotText
    pure chosen

/-- The value of a setting, or another one if it is missing. -/
def given (v : Value) (otherwise : Int) : Value := if v.isAbsent then .whole otherwise else v

/-- The options of the optimizer: those of the level, changed by the settings that are given. -/
def optimizerSettings (c : RunConfig) : OptimizerSettings :=
  let usual : Optimizer.Options := if c.optimize.isYes then c.level.options else {}
  if c.optimize.isYes then
    ⟨usual.enabled, given c.minComplexity usual.minComplexity,
      given c.maxPerFunction usual.maxPerFunction, usual.keepsBoundary⟩
  else
    ⟨usual.enabled, .whole usual.minComplexity, .whole usual.maxPerFunction, usual.keepsBoundary⟩

/-- The mutations that the limit leaves of those selected. -/
def firstMutations (c : RunConfig) (selected : List Candidate) : Except UseError (List Candidate) :=
  match c.maxMutations with
  | none => .ok selected
  | some x =>
    match x.whole? with
    | some n => .ok (selected.take n.toNat)
    | none => .error .wrongKind

/-- How tests are started in a directory. -/
def invocation (c : RunConfig) (directory : Option String) : Except UseError InvocationOptions := do
  let command ← match c.testCommand with
    | .absent => pure none
    | v => do pure (some (← v.asTexts))
  pure { command, environmentName := ← c.environmentName.asText, directory }

end RunConfig

end MutationTesting.Settings
