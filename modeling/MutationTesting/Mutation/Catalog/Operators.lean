import MutationTesting.Mutation.Basic

/-!
# Mutations of operators

Arithmetic operators are exchanged with their inverse or lose their effect, comparisons are flipped
or shifted by one boundary, short-circuit operators and truth values are exchanged, and negations are
dropped.
-/

namespace MutationTesting.Catalog

/-- How an arithmetic operator is changed. -/
structure ArithmeticChange where
  symbol : String
  inverse : BinaryOperator
  inverseSymbol : String
  /-- The literal that takes the place of the whole operation. -/
  identity : Int
  suffix : String

def arithmeticChange? : BinaryOperator → Option ArithmeticChange
  | .add => some ⟨"+", .sub, "-", 0, "remove"⟩
  | .sub => some ⟨"-", .add, "+", 0, "remove"⟩
  | .mult => some ⟨"*", .div, "/", 1, "identity"⟩
  | .div => some ⟨"/", .mult, "*", 1, "identity"⟩
  | _ => none

def identityText (n : Int) : String := if n = 0 then "0" else "1"

/-- A literal at the line of the node it replaces. -/
def constantAt (line : Nat) (value : Literal) : Tree :=
  .node .constant line [.literal value, .absent]

/-- Addition and subtraction, multiplication and division are exchanged, or give way to a literal. -/
def arithmetic (c : Context) (t : Tree) : List Mutation :=
  match t with
  | .node .binOp line [left, .node (.binary op) opLine opFields, right] =>
    match arithmeticChange? op with
    | none => []
    | some change =>
      [Strategy.arithmetic.propose c t
        (.node .binOp line [left, .node (.binary change.inverse) opLine opFields, right])
        (change.symbol ++ " to " ++ change.inverseSymbol),
       Strategy.arithmetic.propose c t (constantAt line (.int change.identity))
        (change.symbol ++ " to " ++ identityText change.identity ++ " (" ++ change.suffix ++ ")")]
  | _ => []

def comparisonChanges : Comparator → List Comparator
  | .eq => [.notEq]
  | .notEq => [.eq]
  | .gt => [.lt, .gtE]
  | .lt => [.gt, .ltE]
  | .gtE => [.ltE, .gt]
  | .ltE => [.gtE, .lt]
  | .is => [.isNot]
  | .isNot => [.is]
  | .isIn => []
  | .notIn => []

def comparatorSymbol : Comparator → String
  | .eq => "=="
  | .notEq => "!="
  | .lt => "<"
  | .ltE => "<="
  | .gt => ">"
  | .gtE => ">="
  | .is => "is"
  | .isNot => "is not"
  | .isIn => "in"
  | .notIn => "not in"

def comparatorNode (op : Comparator) : Tree := .node (.comparator op) 0 []

/-- The lists of operators that differ from a given one at one position, each with the operator there
and the one put in its place.  `before` holds the operators already passed. -/
def comparatorVariants (before : List Tree) : List Tree → List (Comparator × Comparator × List Tree)
  | [] => []
  | t :: rest =>
    (match t with
      | .node (.comparator op) _ _ =>
        (comparisonChanges op).map fun op' => (op, op', before ++ comparatorNode op' :: rest)
      | _ => [])
    ++ comparatorVariants (before ++ [t]) rest

/-- Comparisons are flipped or moved by one boundary, one operator of a chain at a time. -/
def comparison (c : Context) (t : Tree) : List Mutation :=
  match t with
  | .node .compare line [left, .list operators, .list operands] =>
    (comparatorVariants [] operators).map fun (op, op', changed) =>
      Strategy.comparison.propose c t
        (.node .compare line [left, .list changed, .list operands])
        (comparatorSymbol op ++ " to " ++ comparatorSymbol op')
  | _ => []

/-- The words `and` and `or` are exchanged, truth values are exchanged, negations are dropped. -/
def boolean (c : Context) (t : Tree) : List Mutation :=
  match t with
  | .node .boolOp line [.node (.connective .and) opLine opFields, values] =>
    [Strategy.boolean.propose c t
      (.node .boolOp line [.node (.connective .or) opLine opFields, values]) "and to or"]
  | .node .boolOp line [.node (.connective .or) opLine opFields, values] =>
    [Strategy.boolean.propose c t
      (.node .boolOp line [.node (.connective .and) opLine opFields, values]) "or to and"]
  | .node .constant line (.literal (.bool true) :: _) =>
    [Strategy.boolean.propose c t (constantAt line (.bool false)) "True to False"]
  | .node .constant line (.literal (.bool false) :: _) =>
    [Strategy.boolean.propose c t (constantAt line (.bool true)) "False to True"]
  | .node .unaryOp _ [.node (.unary .not) _ _, operand] =>
    [Strategy.boolean.propose c t operand "remove not (not x to x)"]
  | _ => []

end MutationTesting.Catalog
