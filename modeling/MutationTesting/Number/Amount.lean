import MutationTesting.Number.Decimal

/-!
# Amounts

An amount is a whole number, a binary64 number, or a yes or no, which counts as one or zero.  It
keeps its form, since each form is written in its own way.
-/

namespace MutationTesting

inductive Amount where
  | flag (value : Bool)
  | whole (value : Int)
  | real (value : Binary64)
deriving DecidableEq, Repr, Inhabited

namespace Amount

/-- The whole number that a yes or no counts as. -/
def ofFlag (value : Bool) : Int := if value then 1 else 0

def toBinary64 : Amount → Binary64
  | flag b => Binary64.ofInt (ofFlag b)
  | whole n => Binary64.ofInt n
  | real x => x

def toText : Amount → String
  | flag b => if b then "True" else "False"
  | whole n => Decimal.ofInt n
  | real x => x.toText

/-- The text of an amount, unless it is a whole number with too many digits. -/
def toText? (x : Amount) : Option String :=
  match x with
  | whole n => if Decimal.fits n then some x.toText else none
  | _ => some x.toText

/-- Whether an amount can be counted as a binary64 number: a whole number must not be too large. -/
def isWithinRange : Amount → Bool
  | whole n =>
    match Binary64.ofInt n with
    | .finite .. => true
    | _ => false
  | _ => true

/-- The whole number that an amount is written as, if it is not written as a binary64 number. -/
def whole? : Amount → Option Int
  | flag b => some (ofFlag b)
  | whole n => some n
  | real _ => none

/-- Whether an amount is below zero.  An undefined number is not. -/
def isNegative : Amount → Bool
  | flag _ => false
  | whole n => decide (n < 0)
  | real x => x.lt Binary64.zero

/-- Whether an amount is below one.  An undefined number is not. -/
def isBelowOne : Amount → Bool
  | flag b => !b
  | whole n => decide (n < 1)
  | real x => x.lt Binary64.one

/-- Whether an amount is above zero.  An undefined number is neither above zero nor below. -/
def isPositive : Amount → Bool
  | flag b => b
  | whole n => decide (0 < n)
  | real x => Binary64.zero.lt x

/-- Whether an amount is zero or below. -/
def isAtMostZero : Amount → Bool
  | flag b => !b
  | whole n => decide (n ≤ 0)
  | real x => x.le Binary64.zero

end Amount

end MutationTesting
