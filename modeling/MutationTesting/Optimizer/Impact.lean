import MutationTesting.Mutation.Basic

/-!
# Impact and complexity

A candidate is a mutation with the score that says how much it is likely to tell, and with its place
in the list of all mutations found.  The place tells apart candidates with one mutation.

The impact of a mutation estimates how likely it is to show a gap in the tests: a base that depends
on the strategy, a bonus for the shape of the code, and a bonus for code near the top of its file.

The complexity of a replacement is the number of independent paths through it, estimated as its
decision points plus one.
-/

namespace MutationTesting.Optimizer

/-! ## Impact -/

structure Candidate where
  place : Nat
  mutation : Mutation
  impact : Nat
deriving DecidableEq, Repr, Inhabited

/-- The base score of a strategy. -/
def baseScore (strategy : String) : Nat :=
  if strategy = Strategy.conditional.name then 4
  else if strategy = Strategy.comparison.name then 3
  else if strategy = Strategy.boolean.name then 3
  else if strategy = Strategy.arithmetic.name then 2
  else if strategy = Strategy.functionCall.name then 2
  else 1

/-- Nodes that choose between branches. -/
def isConditional : Tree → Bool
  | .node kind _ _ =>
    match kind with
    | .ifStatement | .ifExp | .matchStatement | .whileLoop => true
    | _ => false
  | _ => false

mutual

/-- Whether a node or one below it chooses between branches. -/
def hasConditional : Tree → Bool
  | .list items => anyConditional items
  | .node kind line fields => isConditional (.node kind line []) || anyConditional fields
  | _ => false

def anyConditional : List Tree → Bool
  | [] => false
  | t :: rest => hasConditional t || anyConditional rest

end

/-- A choice between branches with another one inside it. -/
def hasNestedConditionals (t : Tree) : Bool := isConditional t && anyConditional t.fields

/-- Functions that go through all items of something. -/
def iterationCallees : List String :=
  ["map", "filter", "reduce", "sorted", "sum", "any", "all", "zip", "enumerate"]

/-- The last name of a called expression. -/
def calleeName? : Tree → Option String
  | .node .attribute _ [_, .text name, _] => some name
  | .node .name _ (.text name :: _) => some name
  | _ => none

def isIteration : Tree → Bool
  | .node kind _ fields =>
    match kind with
    | .forLoop | .asyncForLoop | .whileLoop => true
    | .listComp | .setComp | .dictComp | .generatorExp => true
    | .call => (calleeName? (fields.headD .absent)).any iterationCallees.contains
    | _ => false
  | _ => false

/-- A `match` with more than two cases, or one of its cases. -/
def isComplexMatch : Tree → Bool
  | .node .matchStatement _ [_, .list cases] => decide (2 < cases.length)
  | .node .matchCase _ _ => true
  | _ => false

/-- Nodes that say how something is used or combined, and are no operands. -/
def isMark : Tree → Bool
  | .node kind _ _ =>
    match kind with
    | .usage _ | .connective _ | .binary _ | .unary _ | .comparator _ => true
    | _ => false
  | _ => false

def hasMultipleOperands (t : Tree) : Bool :=
  decide (1 < (t.children.filter fun c => !isMark c).length)

/-- The bonus of one node: the first that fits. -/
def nodeBonus (t : Tree) : Nat :=
  if hasNestedConditionals t then 5
  else if isIteration t then 4
  else if isComplexMatch t then 3
  else if hasMultipleOperands t then 2
  else 0

/-- The bonus of a replacement.  A block of several statements counts as a node with several
operands, or as its best statement. -/
def complexityBonus (replacement : Tree) : Nat :=
  match replacement with
  | .list [t] => nodeBonus t
  | .list items => (items.map nodeBonus).foldl max 2
  | t => nodeBonus t

/-- A bonus for the first lines of a file. -/
def locationBonus (line : Int) : Nat := if line < 100 then 1 else 0

def impact (m : Mutation) : Nat :=
  baseScore m.strategy + complexityBonus m.replacement + locationBonus m.line

/-- All mutations with their scores, in order. -/
def score (mutations : List Mutation) : List Candidate :=
  mutations.zipIdx.map fun (m, place) => ⟨place, m, impact m⟩

/-! ## Complexity -/

/-- The decisions that a node itself makes. -/
def ownDecisions : Tree → Nat
  | .node kind _ fields =>
    match kind, fields with
    | .boolOp, [_, .list values] => values.length - 1
    | .comprehension, [_, _, .list conditions, _] => conditions.length
    | .ifStatement, _ | .ifExp, _ | .whileLoop, _ | .forLoop, _ | .asyncForLoop, _
    | .matchStatement, _ | .exceptHandler, _ => 1
    | _, _ => 0
  | _ => 0

mutual

/-- The decisions in a tree. -/
def decisionPoints : Tree → Nat
  | .list items => decisionPointsOfAll items
  | .node kind line fields => ownDecisions (.node kind line fields) + decisionPointsOfAll fields
  | _ => 0

def decisionPointsOfAll : List Tree → Nat
  | [] => 0
  | t :: rest => decisionPoints t + decisionPointsOfAll rest

end

def complexity (m : Mutation) : Nat := decisionPoints m.replacement + 1

end MutationTesting.Optimizer
