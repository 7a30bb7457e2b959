import MutationTesting.Mutation.Catalog.Operators
import MutationTesting.Number.Decimal

/-!
# Mutations of literals

Numbers move by one, strings are emptied or grow by a character, and an empty list gets an item.
Documentation strings and the text of formatted strings are left alone.
-/

namespace MutationTesting.Catalog

/-- The field of a module, class or function that holds its statements. -/
def bodyField? : Kind → Option Nat
  | .module => some 0
  | .classDef => some 3
  | .functionDef => some 2
  | .asyncFunctionDef => some 2
  | _ => none

/-- Whether a node is the text that documents a module, class or function: the whole of the first
statement of its body. -/
def isDocumentation (c : Context) : Bool :=
  match c.parent?, c.grandparent? with
  | some parent, some owner =>
    parent.node.isKind .expressionStatement && owner.item == 0 &&
      ((owner.node.kind?.bind bodyField?) == some owner.field)
  | _, _ => false

/-- Whether a node belongs to a formatted string. -/
def isInFormattedString (c : Context) : Bool :=
  c.ancestors.any fun a => a.node.isKind .joinedStr || a.node.isKind .formattedValue

/-- A whole number in a description. -/
def wholeText (n : Int) : Except DescriptionError String :=
  if Decimal.fits n then .ok (Decimal.ofInt n) else .error .longNumeral

/-- A number moved by one in one direction. -/
def shiftedNumber (c : Context) (t : Tree) (line : Nat) (n n' : Int) (direction : String) :
    Except DescriptionError Mutation := do
  let before ← wholeText n
  let after ← wholeText n'
  pure (Strategy.literal.propose c t (constantAt line (.int n'))
    (before ++ " to " ++ after ++ " (" ++ direction ++ ")"))

def shiftedFloat (c : Context) (t : Tree) (line : Nat) (x x' : Binary64) (direction : String) :
    Mutation :=
  Strategy.literal.propose c t (constantAt line (.float x'))
    (x.toText ++ " to " ++ x'.toText ++ " (" ++ direction ++ ")")

/-- A text that is emptied, or grown by a character. -/
def changedText (c : Context) (t : Tree) (line : Nat) (s : String) : List Mutation :=
  if s = "" then
    [Strategy.literal.propose c t (constantAt line (.text "x")) "\"\" to \"x\" (add char)"]
  else
    [Strategy.literal.propose c t (constantAt line (.text ""))
      ("\"" ++ s ++ "\" to \"\" (empty string)"),
     Strategy.literal.propose c t (constantAt line (.text (s ++ "x")))
      ("\"" ++ s ++ "\" to \"" ++ s ++ "x\" (append char)")]

/-- A list with a single text in it. -/
def filledList (line : Nat) (usage : Tree) : Tree :=
  .node .list line [.list [constantAt line (.text "mutated")], usage]

def literal (c : Context) (t : Tree) : Proposals :=
  match t with
  | .node .list line [.list [], .node (.usage .load) usageLine usageFields] =>
    .ok [Strategy.literal.propose c t (filledList line (.node (.usage .load) usageLine usageFields))
      "[] to [\"mutated\"]"]
  | .node .constant line (.literal value :: _) =>
    if isInFormattedString c then .ok []
    else
      match value with
      | .int n => do
        let up ← shiftedNumber c t line n (n + 1) "increment"
        let down ← shiftedNumber c t line n (n - 1) "decrement"
        pure [up, down]
      | .float x =>
        .ok [shiftedFloat c t line x (x.add Binary64.one) "increment",
          shiftedFloat c t line x (x.sub Binary64.one) "decrement"]
      | .text s => if isDocumentation c then .ok [] else .ok (changedText c t line s)
      | _ => .ok []
  | _ => .ok []

end MutationTesting.Catalog
