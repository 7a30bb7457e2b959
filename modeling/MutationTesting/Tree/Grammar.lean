import MutationTesting.Number.Decimal
import MutationTesting.Tree.Basic

/-!
# The abstract grammar

Every kind of node belongs to one sort, and the grammar says what each of its fields holds.  A tree is
well-formed when all its fields hold what they should.  The body of a definition, loop, branch or
handler has at least one statement; an `else` or `finally` block may be missing, which is to be empty.

Every tree has a text unless it holds a whole number with too many digits.
-/

namespace MutationTesting.Tree

/-! ## Trees that can be written -/

/-- Whether a value has a text. -/
def hasText : Literal → Bool
  | .int n => Decimal.fits n
  | _ => true

mutual

/-- Whether every whole number in a tree is short enough to be written. -/
def isWritable : Tree → Bool
  | .literal value => hasText value
  | .list items => areWritable items
  | .node _ _ fields => areWritable fields
  | _ => true
termination_by structural t => t

def areWritable : List Tree → Bool
  | [] => true
  | t :: rest => isWritable t && areWritable rest
termination_by structural ts => ts

end

end MutationTesting.Tree

/-! ## Sorts of node -/

namespace MutationTesting

/-- The sorts of node. -/
inductive NodeSort where
  | module | statement | expression
  | usage | connective | binaryOperator | unaryOperator | comparator
  | comprehension | exceptHandler | arguments | argument | keyword | alias | withItem | matchCase
  | pattern
deriving DecidableEq, Repr

/-- What a field may hold. -/
inductive Content where
  | node (sort : NodeSort)
  | text
  | number
  | literal
  | optional (content : Content)
  /-- A list of so many items or more. -/
  | sequence (least : Nat) (item : Content)
deriving DecidableEq, Repr

namespace Content

def expression : Content := node .expression

def many (sort : NodeSort) : Content := sequence 0 (node sort)

/-- Statements, of which there is at least one. -/
def block : Content := sequence 1 (node .statement)

def statements : Content := many .statement

def expressions : Content := many .expression

end Content

namespace Kind

def sort : Kind → NodeSort
  | .module => .module
  | .functionDef | .asyncFunctionDef | .classDef | .returnStatement | .deleteStatement
  | .assign | .augmentedAssign | .annotatedAssign
  | .forLoop | .asyncForLoop | .whileLoop | .ifStatement | .withStatement | .asyncWithStatement
  | .matchStatement | .raiseStatement | .tryStatement | .tryStarStatement | .assertStatement
  | .importStatement | .importFrom | .globalStatement | .nonlocalStatement
  | .expressionStatement | .passStatement | .breakStatement | .continueStatement => .statement
  | .boolOp | .namedExpr | .binOp | .unaryOp | .lambda | .ifExp | .dict | .set
  | .listComp | .setComp | .dictComp | .generatorExp | .await | .yield | .yieldFrom
  | .compare | .call | .formattedValue | .joinedStr | .constant
  | .attribute | .subscript | .starred | .name | .list | .tuple | .slice => .expression
  | .usage _ => .usage
  | .connective _ => .connective
  | .binary _ => .binaryOperator
  | .unary _ => .unaryOperator
  | .comparator _ => .comparator
  | .comprehension => .comprehension
  | .exceptHandler => .exceptHandler
  | .arguments => .arguments
  | .arg => .argument
  | .keyword => .keyword
  | .alias => .alias
  | .withItem => .withItem
  | .matchCase => .matchCase
  | .matchValue | .matchSingleton | .matchSequence | .matchMapping | .matchClass | .matchStar
  | .matchAs | .matchOr => .pattern

open Content in
/-- What the fields of a node hold, in grammar order. -/
def contents : Kind → List Content
  | .module => [statements]
  -- statements
  | .functionDef | .asyncFunctionDef =>
    [text, node .arguments, block, expressions, optional expression]
  | .classDef => [text, expressions, many .keyword, block, expressions]
  | .returnStatement => [optional expression]
  | .deleteStatement => [expressions]
  | .assign => [expressions, expression]
  | .augmentedAssign => [expression, node .binaryOperator, expression]
  | .annotatedAssign => [expression, expression, optional expression, number]
  | .forLoop | .asyncForLoop => [expression, expression, block, statements]
  | .whileLoop | .ifStatement => [expression, block, statements]
  | .withStatement | .asyncWithStatement => [many .withItem, block]
  | .matchStatement => [expression, many .matchCase]
  | .raiseStatement => [optional expression, optional expression]
  | .tryStatement | .tryStarStatement => [block, many .exceptHandler, statements, statements]
  | .assertStatement => [expression, optional expression]
  | .importStatement => [many .alias]
  | .importFrom => [optional text, many .alias, optional number]
  | .globalStatement | .nonlocalStatement => [sequence 0 text]
  | .expressionStatement => [expression]
  | .passStatement | .breakStatement | .continueStatement => []
  -- expressions
  | .boolOp => [node .connective, expressions]
  | .namedExpr => [expression, expression]
  | .binOp => [expression, node .binaryOperator, expression]
  | .unaryOp => [node .unaryOperator, expression]
  | .lambda => [node .arguments, expression]
  | .ifExp => [expression, expression, expression]
  | .dict => [sequence 0 (optional expression), expressions]
  | .set => [expressions]
  | .listComp | .setComp | .generatorExp => [expression, many .comprehension]
  | .dictComp => [expression, expression, many .comprehension]
  | .await | .yieldFrom => [expression]
  | .yield => [optional expression]
  | .compare => [expression, many .comparator, expressions]
  | .call => [expression, expressions, many .keyword]
  | .formattedValue => [expression, number, optional expression]
  | .joinedStr => [expressions]
  | .constant => [literal, optional text]
  | .attribute => [expression, text, node .usage]
  | .subscript => [expression, expression, node .usage]
  | .starred => [expression, node .usage]
  | .name => [text, node .usage]
  | .list | .tuple => [expressions, node .usage]
  | .slice => [optional expression, optional expression, optional expression]
  -- operators and usages
  | .usage _ | .connective _ | .binary _ | .unary _ | .comparator _ => []
  -- parts of statements and expressions
  | .comprehension => [expression, expression, expressions, number]
  | .exceptHandler => [optional expression, optional text, block]
  | .arguments =>
    [many .argument, many .argument, optional (node .argument), many .argument,
      sequence 0 (optional expression), optional (node .argument), expressions]
  | .arg => [text, optional expression]
  | .keyword => [optional text, expression]
  | .alias => [text, optional text]
  | .withItem => [expression, optional expression]
  | .matchCase => [node .pattern, optional expression, block]
  -- patterns
  | .matchValue => [expression]
  | .matchSingleton => [literal]
  | .matchSequence | .matchOr => [many .pattern]
  | .matchMapping => [expressions, many .pattern, optional text]
  | .matchClass => [expression, many .pattern, sequence 0 text, many .pattern]
  | .matchStar => [optional text]
  | .matchAs => [optional (node .pattern), optional text]

end Kind

/-- Whether a field may hold a tree, as far as the outermost level of the tree tells. -/
def Content.admits : Content → Tree → Bool
  | .node sort, .node kind _ _ => decide (kind.sort = sort)
  | .text, .text _ => true
  | .number, .number _ => true
  | .literal, .literal _ => true
  | .optional _, .absent => true
  | .optional content, t => content.admits t
  | .sequence least _, .list items => decide (least ≤ items.length)
  | _, _ => false

/-- What the items of a list may be. -/
def Content.item : Content → Content
  | .sequence _ item => item
  | .optional content => content.item
  | content => content

namespace Tree

mutual

/-- Whether a tree is what a field should hold, and so are all fields below. -/
def conforms (content : Content) : Tree → Bool
  | .node kind line fields =>
    content.admits (.node kind line fields) && fieldsConform kind.contents fields
  | .list items => content.admits (.list items) && itemsConform content.item items
  | other => content.admits other
termination_by structural t => t

/-- The same for the fields of a node, one by one. -/
def fieldsConform : List Content → List Tree → Bool
  | [], [] => true
  | content :: contents, t :: rest => conforms content t && fieldsConform contents rest
  | _, _ => false
termination_by structural _ ts => ts

/-- The same for the items of a list. -/
def itemsConform (item : Content) : List Tree → Bool
  | [] => true
  | t :: rest => conforms item t && itemsConform item rest
termination_by structural ts => ts

end

/-- A node of a sort with the right content in all fields, at any depth. -/
def IsWellFormed (sort : NodeSort) (t : Tree) : Prop := conforms (.node sort) t = true

instance (sort : NodeSort) (t : Tree) : Decidable (IsWellFormed sort t) :=
  inferInstanceAs (Decidable (_ = _))

end Tree

end MutationTesting
