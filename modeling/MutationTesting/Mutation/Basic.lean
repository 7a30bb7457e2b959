import MutationTesting.Text.Quoted
import MutationTesting.Tree.Basic

/-!
# Mutations

A mutation proposes to put a replacement where a node of a program stands.  The six strategies each
look for one family of defects.  `Strategy.select` turns the names given by a user into strategies,
in the order given.
-/

namespace MutationTesting

/-- One syntactic change.  The replacement is a node, or a list of statements that is spliced into
the block around the original. -/
structure Mutation where
  /-- The name of the strategy that proposed it. -/
  strategy : String
  original : Tree
  replacement : Tree
  description : String
  filePath : String
  line : Int
deriving DecidableEq, Repr, Inhabited

/-- A family of syntactic defects. -/
inductive Strategy where
  | arithmetic
  | comparison
  | boolean
  | literal
  | functionCall
  | conditional
deriving DecidableEq, Repr

namespace Strategy

/-- The name that mutations carry. -/
def name : Strategy → String
  | arithmetic => "Arithmetic"
  | comparison => "Comparison"
  | boolean => "Boolean"
  | literal => "Literal"
  | functionCall => "FunctionCall"
  | conditional => "Conditional"

def description : Strategy → String
  | arithmetic => "Mutates arithmetic operators (+, -, *, /)"
  | comparison => "Mutates comparison operators (==, !=, >, <, >=, <=, is, is not)"
  | boolean => "Mutates boolean operators (and, or, not) and literals (True, False)"
  | literal => "Mutates literal values (numbers, strings, lists)"
  | functionCall => "Mutates function calls (remove calls, swap arguments)"
  | conditional => "Mutates conditional expressions (if, if not, conditional expressions)"

/-- The text that shows a strategy. -/
def label (s : Strategy) : String := "<" ++ s.name ++ " strategy>"

/-- The name that selects a strategy. -/
def key : Strategy → String
  | arithmetic => "arithmetic"
  | comparison => "comparison"
  | boolean => "boolean"
  | literal => "literal"
  | functionCall => "function_call"
  | conditional => "conditional"

/-- All strategies, ordered by key. -/
def all : List Strategy :=
  [arithmetic, boolean, comparison, conditional, functionCall, literal]

/-- The strategies of a run that names none.  Literals are left out: they multiply the mutants and
say little. -/
def defaults : List Strategy := [arithmetic, comparison, boolean, functionCall, conditional]

end Strategy

/-- A node above the current one, and the place of the next node below in it: the field, and the
item within the field where that is a list. -/
structure Ancestor where
  node : Tree
  field : Nat
  item : Nat
deriving DecidableEq, Repr

/-- Where a node sits: its file and the nodes above it, from the outermost to its parent. -/
structure Context where
  filePath : String
  ancestors : List Ancestor
deriving DecidableEq, Repr

namespace Context

def parent? (c : Context) : Option Ancestor := c.ancestors.getLast?

def grandparent? (c : Context) : Option Ancestor := c.ancestors.dropLast.getLast?

end Context

/-- Why mutations of a node cannot be described. -/
inductive DescriptionError where
  /-- A whole number has more digits than a text may hold. -/
  | longNumeral
  /-- The called expression has no source text. -/
  | unprintableCallee
deriving DecidableEq, Repr

/-- The mutations of a node, or why they cannot be described. -/
abbrev Proposals := Except DescriptionError (List Mutation)

/-- A mutation of a node by a strategy.  It is found at the node's line, or at line zero where the
node has none. -/
def Strategy.propose (s : Strategy) (c : Context) (original replacement : Tree)
    (change : String) : Mutation where
  strategy := s.name
  original := original
  replacement := replacement
  description := s.name ++ ": " ++ change
  filePath := c.filePath
  line := (original.line?.getD 0 : Nat)

/-! ## Selecting strategies by name -/

namespace Strategy

/-- A name that selects no strategy. -/
structure UnknownName where
  name : String
deriving DecidableEq, Repr

def UnknownName.message (e : UnknownName) : String :=
  "unknown strategy " ++ Text.quoted e.name ++ "; expected one of " ++
    String.intercalate ", " (all.map key)

/-- The form of a name that is compared with the keys: blanks at the ends and capitals do not
count.  Every letter of a key has only an ASCII capital. -/
def normalizedName (name : String) : String :=
  String.ofList ((Text.strip name.toList).map Char.toLower)

/-- The strategy with a key. -/
def ofKey? (key : String) : Option Strategy := all.find? (·.key == key)

/-- The strategies selected by names.  Blank names are skipped. -/
def ofNames : List String → Except UnknownName (List Strategy)
  | [] => .ok []
  | name :: rest =>
    if normalizedName name = "" then ofNames rest
    else
      match ofKey? (normalizedName name) with
      | none => .error ⟨name⟩
      | some s => (ofNames rest).map (s :: ·)

/-- The strategies of a run: those named, or the default ones. -/
def select (names : Option (List String)) : Except UnknownName (List Strategy) :=
  match names with
  | none => .ok defaults
  | some names => ofNames names

end Strategy

end MutationTesting
