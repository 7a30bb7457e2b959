import MutationTesting.Mutation.Basic

/-!
# Mutations that change nothing

Some replacements obviously mean the same as the original: adding nothing, multiplying by one, or
testing a constant first.
-/

namespace MutationTesting.Optimizer

/-- Whether a node writes exactly this literal. -/
def isConstant (value : Literal) : Tree → Bool
  | .node .constant _ (.literal v :: _) => decide (v = value)
  | _ => false

/-- A binary operation with its neutral element on the right. -/
def isNeutralOperation : Tree → Bool
  | .node .binOp _ [_, .node (.binary op) _ _, right] =>
    match op with
    | .add => isConstant (.int 0) right
    | .sub => isConstant (.int 0) right
    | .mult => isConstant (.int 1) right
    | .div => isConstant (.int 1) right
    | _ => false
  | _ => false

/-- A conjunction that begins with truth, or a disjunction that begins with falsehood. -/
def isNeutralConnection : Tree → Bool
  | .node .boolOp _ [.node (.connective op) _ _, .list (first :: _)] =>
    match op with
    | .and => isConstant (.bool true) first
    | .or => isConstant (.bool false) first
  | _ => false

def isEmptyList : Tree → Bool
  | .node .list _ (.list [] :: _) => true
  | _ => false

/-- Whether a replacement is seen to mean what the original means. -/
def isEquivalent (m : Mutation) : Bool :=
  (m.strategy == Strategy.arithmetic.name && isNeutralOperation m.replacement) ||
    (m.strategy == Strategy.boolean.name && isNeutralConnection m.replacement) ||
    (m.strategy == Strategy.literal.name && isEmptyList m.replacement)

end MutationTesting.Optimizer
