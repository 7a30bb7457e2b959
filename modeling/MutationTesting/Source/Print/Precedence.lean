import MutationTesting.Tree.Basic

/-!
# Strength of operators

Printing puts brackets around an expression whose operator binds less strongly than its place asks
for.  Strengths are numbers; a larger number binds more strongly.
-/

namespace MutationTesting.Source

/-- How strongly an expression binds, or how strongly its place asks it to bind. -/
abbrev Precedence := Nat

namespace Precedence

def named : Precedence := 0
def tuple : Precedence := 1
def yield : Precedence := 2
def test : Precedence := 3
def or : Precedence := 4
def and : Precedence := 5
def not : Precedence := 6
def comparison : Precedence := 7
def bitOr : Precedence := 8
def bitXor : Precedence := 9
def bitAnd : Precedence := 10
def shift : Precedence := 11
def sum : Precedence := 12
def term : Precedence := 13
def factor : Precedence := 14
def power : Precedence := 15
def await : Precedence := 16
def atom : Precedence := 17

/-- The next stronger place; nothing is stronger than an atom. -/
def next (p : Precedence) : Precedence := if p < atom then p + 1 else p

end Precedence

end MutationTesting.Source

namespace MutationTesting

open Source

def BinaryOperator.symbol : BinaryOperator → String
  | .add => "+"
  | .sub => "-"
  | .mult => "*"
  | .matMult => "@"
  | .div => "/"
  | .mod => "%"
  | .pow => "**"
  | .leftShift => "<<"
  | .rightShift => ">>"
  | .bitOr => "|"
  | .bitXor => "^"
  | .bitAnd => "&"
  | .floorDiv => "//"

def BinaryOperator.precedence : BinaryOperator → Precedence
  | .add | .sub => Precedence.sum
  | .mult | .matMult | .div | .mod | .floorDiv => Precedence.term
  | .pow => Precedence.power
  | .leftShift | .rightShift => Precedence.shift
  | .bitOr => Precedence.bitOr
  | .bitXor => Precedence.bitXor
  | .bitAnd => Precedence.bitAnd

def UnaryOperator.symbol : UnaryOperator → String
  | .invert => "~"
  | .not => "not "
  | .plus => "+"
  | .minus => "-"

def UnaryOperator.precedence : UnaryOperator → Precedence
  | .not => Precedence.not
  | .invert | .plus | .minus => Precedence.factor

def Comparator.symbol : Comparator → String
  | .eq => "=="
  | .notEq => "!="
  | .lt => "<"
  | .ltE => "<="
  | .gt => ">"
  | .gtE => ">="
  | .is => "is"
  | .isNot => "is not"
  | .isIn => "in"
  | .notIn => "not in"

def Connective.symbol : Connective → String
  | .and => "and"
  | .or => "or"

def Connective.precedence : Connective → Precedence
  | .and => Precedence.and
  | .or => Precedence.or

end MutationTesting
