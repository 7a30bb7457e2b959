import MutationTesting.Mutation.Catalog.Operators
import MutationTesting.Source.Print.Render

/-!
# Mutations of calls and conditions

A call is removed or its first two arguments change places; a condition is inverted, or one of its
branches is always taken.
-/

namespace MutationTesting.Catalog

/-- Callees whose removal or reordering only breaks definitions or introspection. -/
def specialForms : List String :=
  ["super", "isinstance", "issubclass", "type", "globals", "locals", "vars", "__import__", "exec",
   "eval", "compile", "setattr", "delattr", "property", "staticmethod", "classmethod", "dataclass",
   "field", "TypeVar", "NamedTuple", "cast"]

/-- What follows the last point of a text. -/
def lastName (cs : List Char) : List Char :=
  (cs.reverse.takeWhile (· != '.')).reverse

/-- The field of a definition that holds its decorators. -/
def decoratorField? : Kind → Option Nat
  | .functionDef => some 3
  | .asyncFunctionDef => some 3
  | .classDef => some 4
  | _ => none

/-- Whether a node is itself a decorator. -/
def isDecorator (c : Context) : Bool :=
  match c.parent? with
  | some parent => (parent.node.kind?.bind decoratorField?) == some parent.field
  | none => false

/-- The call with its first two arguments exchanged, if it has two. -/
def swappedArguments? (line : Nat) (func keywords : Tree) : List Tree → Option Tree
  | first :: second :: rest => some (.node .call line [func, .list (second :: first :: rest), keywords])
  | _ => none

def functionCall (c : Context) (t : Tree) : Proposals :=
  match t with
  | .node .call line [func, .list args, .list keywords] =>
    if args.isEmpty && keywords.isEmpty then .ok []
    else
      match Source.unparse? func with
      | none => .error .unprintableCallee
      | some callee =>
        if specialForms.contains (String.ofList (lastName callee)) then .ok []
        else if isDecorator c then .ok []
        else
          let calleeText := String.ofList callee
          let removed := Strategy.functionCall.propose c t (constantAt line .none)
            ("remove " ++ calleeText ++ "() call")
          match swappedArguments? line func (.list keywords) args with
          | none => .ok [removed]
          | some swapped =>
            .ok [removed, Strategy.functionCall.propose c t swapped
              ("swap arguments in " ++ calleeText ++ "()")]
  | _ => .ok []

/-- The negation of a condition, at the line of the node that it is part of. -/
def negated (line : Nat) (test : Tree) : Tree :=
  .node .unaryOp line [.node (.unary .not) 0 [], test]

/-- Conditions are inverted and branches forced.  A condition that is already negated loses its
negation instead. -/
def conditional (c : Context) (t : Tree) : List Mutation :=
  let propose := Strategy.conditional.propose c t
  match t with
  | .node .ifStatement line [.node .unaryOp _ [.node (.unary .not) _ _, operand], body, .list orelse] =>
    [propose (.node .ifStatement line [operand, body, .list orelse]) "unless to if",
     propose body "always execute unless body"]
    ++ (if orelse.isEmpty then [] else [propose (.list orelse) "always execute unless else"])
  | .node .ifStatement line [test, body, .list orelse] =>
    [propose (.node .ifStatement line [negated line test, body, .list orelse])
      "invert if condition",
     propose body "always take if branch",
     if orelse.isEmpty then propose (.node .passStatement line []) "remove if statement"
     else propose (.list orelse) "always take else branch"]
  | .node .ifExp line [test, body, orelse] =>
    [propose (.node .ifExp line [negated line test, body, orelse]) "invert if condition",
     propose body "always take if branch",
     propose orelse "always take else branch"]
  | _ => []

end MutationTesting.Catalog
