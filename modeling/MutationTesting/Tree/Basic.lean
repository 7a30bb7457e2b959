import MutationTesting.Number.Binary64

/-!
# Syntax trees

A program under test is a uniform tree: every node carries a kind, the line it starts on and its
fields in grammar order.  A field is a node, a list of nodes, a piece of text, a whole number, a
literal value, or absent.  One uniform shape keeps the walk, the search for a node and the splice
of a replacement independent of the seventy kinds of node; `Tree.Grammar` says which fields each
kind has.
-/

namespace MutationTesting

/-- The value written by a literal. -/
inductive Literal where
  | none
  | ellipsis
  | bool (value : Bool)
  | int (value : Int)
  | float (value : Binary64)
  | imaginary (value : Binary64)
  | text (value : String)
  | bytes (value : List UInt8)
deriving DecidableEq, Repr, Inhabited

/-- Operators of `left op right`. -/
inductive BinaryOperator where
  | add | sub | mult | matMult | div | mod | pow | leftShift | rightShift
  | bitOr | bitXor | bitAnd | floorDiv
deriving DecidableEq, Repr, Inhabited

/-- Operators written before their operand. -/
inductive UnaryOperator where
  | invert | not | plus | minus
deriving DecidableEq, Repr, Inhabited

/-- Operators of a comparison chain. -/
inductive Comparator where
  | eq | notEq | lt | ltE | gt | gtE | is | isNot | isIn | notIn
deriving DecidableEq, Repr, Inhabited

/-- The short-circuit operators. -/
inductive Connective where
  | and | or
deriving DecidableEq, Repr, Inhabited

/-- How a name, attribute, subscript or display is used. -/
inductive Usage where
  | load | store | delete
deriving DecidableEq, Repr, Inhabited

/-- The kinds of node. -/
inductive Kind where
  | module
  -- statements
  | functionDef | asyncFunctionDef | classDef | returnStatement | deleteStatement
  | assign | augmentedAssign | annotatedAssign
  | forLoop | asyncForLoop | whileLoop | ifStatement | withStatement | asyncWithStatement
  | matchStatement | raiseStatement | tryStatement | tryStarStatement | assertStatement
  | importStatement | importFrom | globalStatement | nonlocalStatement
  | expressionStatement | passStatement | breakStatement | continueStatement
  -- expressions
  | boolOp | namedExpr | binOp | unaryOp | lambda | ifExp | dict | set
  | listComp | setComp | dictComp | generatorExp | await | yield | yieldFrom
  | compare | call | formattedValue | joinedStr | constant
  | attribute | subscript | starred | name | list | tuple | slice
  -- operators and usages
  | usage (value : Usage)
  | connective (value : Connective)
  | binary (value : BinaryOperator)
  | unary (value : UnaryOperator)
  | comparator (value : Comparator)
  -- parts of statements and expressions
  | comprehension | exceptHandler | arguments | arg | keyword | alias | withItem | matchCase
  -- patterns
  | matchValue | matchSingleton | matchSequence | matchMapping | matchClass | matchStar
  | matchAs | matchOr
deriving DecidableEq, Repr, Inhabited

/-- Whether nodes of this kind have a position in the source text. -/
def Kind.isLocated : Kind → Bool
  | .module | .usage _ | .connective _ | .binary _ | .unary _ | .comparator _
  | .comprehension | .arguments | .withItem | .matchCase => false
  | _ => true

/-- A syntax tree, or the content of one of its fields. -/
inductive Tree where
  | absent
  | text (value : String)
  | number (value : Int)
  | literal (value : Literal)
  | list (items : List Tree)
  | node (kind : Kind) (line : Nat) (fields : List Tree)
deriving Repr, Inhabited

namespace Tree

def isNode : Tree → Bool
  | .node .. => true
  | _ => false

def kind? : Tree → Option Kind
  | .node kind .. => some kind
  | _ => none

/-- The line a node starts on, for the kinds that have a position. -/
def line? : Tree → Option Nat
  | .node kind line _ => if kind.isLocated then some line else none
  | _ => none

def fields : Tree → List Tree
  | .node _ _ fields => fields
  | _ => []

/-- The field at a place in grammar order. -/
def field (t : Tree) (place : Nat) : Tree := t.fields.getD place .absent

def items : Tree → List Tree
  | .list items => items
  | _ => []

def isAbsent : Tree → Bool
  | .absent => true
  | _ => false

/-- The nodes directly below a node, in grammar order. -/
def children (t : Tree) : List Tree :=
  t.fields.flatMap fun field =>
    match field with
    | .list items => items.filter isNode
    | .node kind line fields => [.node kind line fields]
    | _ => []

def isKind (t : Tree) (kind : Kind) : Bool := decide (t.kind? = some kind)

mutual

/-- Whether two trees are equal. -/
def eqb : Tree → Tree → Bool
  | .absent, .absent => true
  | .text a, .text b => decide (a = b)
  | .number a, .number b => decide (a = b)
  | .literal a, .literal b => decide (a = b)
  | .list as, .list bs => eqbList as bs
  | .node k l as, .node k' l' bs => decide (k = k') && decide (l = l') && eqbList as bs
  | _, _ => false

def eqbList : List Tree → List Tree → Bool
  | [], [] => true
  | a :: as, b :: bs => eqb a b && eqbList as bs
  | _, _ => false

end

mutual

theorem eq_of_eqb : ∀ {a b : Tree}, eqb a b = true → a = b
  | .absent, b, h => by cases b <;> simp_all [eqb]
  | .text _, b, h => by cases b <;> simp_all [eqb]
  | .number _, b, h => by cases b <;> simp_all [eqb]
  | .literal _, b, h => by cases b <;> simp_all [eqb]
  | .list as, b, h => by
    cases b with
    | list bs => rw [eqb] at h; rw [eq_of_eqbList h]
    | _ => simp [eqb] at h
  | .node k l as, b, h => by
    cases b with
    | node k' l' bs =>
      simp only [eqb, Bool.and_eq_true, decide_eq_true_eq] at h
      obtain ⟨⟨rfl, rfl⟩, h⟩ := h
      rw [eq_of_eqbList h]
    | _ => simp [eqb] at h

theorem eq_of_eqbList : ∀ {as bs : List Tree}, eqbList as bs = true → as = bs
  | [], bs, h => by cases bs <;> simp_all [eqbList]
  | a :: as, bs, h => by
    cases bs with
    | nil => simp [eqbList] at h
    | cons b bs =>
      simp only [eqbList, Bool.and_eq_true] at h
      rw [eq_of_eqb h.1, eq_of_eqbList h.2]

end

mutual

theorem eqb_refl : ∀ a : Tree, eqb a a = true
  | .absent | .text _ | .number _ | .literal _ => by simp [eqb]
  | .list as => by rw [eqb]; exact eqbList_refl as
  | .node k l as => by simp [eqb, eqbList_refl as]

theorem eqbList_refl : ∀ as : List Tree, eqbList as as = true
  | [] => by simp [eqbList]
  | a :: as => by simp [eqbList, eqb_refl a, eqbList_refl as]

end

theorem eqb_iff {a b : Tree} : eqb a b = true ↔ a = b :=
  ⟨eq_of_eqb, fun h => h ▸ eqb_refl a⟩

instance : DecidableEq Tree := fun _ _ => decidable_of_iff _ eqb_iff

mutual

/-- The tree with all positions forgotten.  Two trees have one shape when they write the same
program. -/
def shape : Tree → Tree
  | .list items => .list (shapes items)
  | .node kind _ fields => .node kind 0 (shapes fields)
  | other => other

def shapes : List Tree → List Tree
  | [] => []
  | t :: rest => shape t :: shapes rest

end

theorem shapes_eq_map : ∀ ts : List Tree, shapes ts = ts.map shape
  | [] => rfl
  | t :: rest => by simp [shapes, shapes_eq_map rest]

end Tree

end MutationTesting
