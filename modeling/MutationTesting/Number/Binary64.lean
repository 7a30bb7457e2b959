/-!
# Binary64 numbers

A floating-point number as a sign, a whole significand and a power of two.  Every operation is
carried out on exact ratios of natural numbers and rounded once, to the nearest number with at
most 53 significant bits; a tie goes to the even significand.  Keeping the parts visible makes
equality decidable and lets rounding be reasoned about in `Nat`.
-/

namespace MutationTesting

/-- A binary64 number.  In a finite number the significand is below `2 ^ 53` and the exponent
lies between `-1074` and `971`; a number that is not subnormal has at least `2 ^ 52` there. -/
inductive Binary64 where
  | finite (negative : Bool) (significand : Nat) (exponent : Int)
  | infinite (negative : Bool)
  | undefined
deriving DecidableEq, Repr, Inhabited

namespace Binary64

/-- The quotient rounded to the nearest whole number, a tie going to the even one. -/
def roundHalfEven (numerator denominator : Nat) : Nat :=
  let quotient := numerator / denominator
  let twice := 2 * (numerator % denominator)
  if twice < denominator then quotient
  else if denominator < twice then quotient + 1
  else quotient + quotient % 2

/-- The ratio scaled by `2 ^ (-exponent)`, as a numerator and a denominator. -/
def scaleByPower (numerator denominator : Nat) (exponent : Int) : Nat × Nat :=
  if exponent < 0 then (numerator * Nat.pow 2 (-exponent).toNat, denominator)
  else (numerator, denominator * Nat.pow 2 exponent.toNat)

/-- The largest `k` with `2 ^ k ≤ numerator / denominator`, for a positive ratio. -/
def floorLog2 (numerator denominator : Nat) : Int :=
  let estimate : Int := (Nat.log2 numerator : Int) - (Nat.log2 denominator : Int)
  let (scaled, unit) := scaleByPower numerator denominator estimate
  if unit ≤ scaled then estimate else estimate - 1

def minExponent : Int := -1074
def maxExponent : Int := 971

/-- The number nearest to `± numerator / denominator`. -/
def ofRatio (negative : Bool) (numerator denominator : Nat) : Binary64 :=
  if numerator = 0 ∨ denominator = 0 then .finite negative 0 minExponent
  else
    let exponent := max (floorLog2 numerator denominator - 52) minExponent
    let (scaled, unit) := scaleByPower numerator denominator exponent
    let significand := roundHalfEven scaled unit
    if significand = Nat.pow 2 53 then
      if maxExponent ≤ exponent then .infinite negative
      else .finite negative (Nat.pow 2 52) (exponent + 1)
    else if maxExponent < exponent then .infinite negative
    else .finite negative significand exponent

def ofNat (n : Nat) : Binary64 := ofRatio false n 1

def ofInt (n : Int) : Binary64 := ofRatio (n < 0) n.natAbs 1

/-- The quotient of two whole numbers, rounded once. -/
def quotient (numerator : Int) (denominator : Nat) : Binary64 :=
  ofRatio (numerator < 0) numerator.natAbs denominator

def zero : Binary64 := .finite false 0 minExponent

def one : Binary64 := ofNat 1

/-- The number `± digits · 10 ^ exponent`, rounded once.  Exponents far outside the range are decided
without forming the power. -/
def ofDecimal (negative : Bool) (digits : Nat) (exponent : Int) : Binary64 :=
  if digits = 0 then .finite negative 0 minExponent
  else
    let size : Int := (Nat.log2 digits : Int) / 3 + 1
    if exponent > 400 then .infinite negative
    else if exponent + size < -400 then .finite negative 0 minExponent
    else if exponent < 0 then ofRatio negative digits (Nat.pow 10 (-exponent).toNat)
    else ofRatio negative (digits * Nat.pow 10 exponent.toNat) 1

def isNegative : Binary64 → Bool
  | .finite negative .. => negative
  | .infinite negative => negative
  | .undefined => false

def neg : Binary64 → Binary64
  | .finite negative significand exponent => .finite (!negative) significand exponent
  | .infinite negative => .infinite (!negative)
  | .undefined => .undefined

/-- The absolute value as a numerator and a denominator. -/
def magnitude (significand : Nat) (exponent : Int) : Nat × Nat :=
  if exponent < 0 then (significand, Nat.pow 2 (-exponent).toNat)
  else (significand * Nat.pow 2 exponent.toNat, 1)

def signedInt (negative : Bool) (n : Nat) : Int := if negative then -(n : Int) else n

/-- Exact sum rounded once.  A zero sum is negative only if both terms are. -/
def add : Binary64 → Binary64 → Binary64
  | .undefined, _ => .undefined
  | _, .undefined => .undefined
  | .infinite a, .infinite b => if a = b then .infinite a else .undefined
  | .infinite a, _ => .infinite a
  | _, .infinite b => .infinite b
  | .finite a m e, .finite b n f =>
    let (p, q) := magnitude m e
    let (r, s) := magnitude n f
    let sum := signedInt a (p * s) + signedInt b (r * q)
    if sum = 0 then .finite (a && b) 0 minExponent
    else ofRatio (sum < 0) sum.natAbs (q * s)

def sub (x y : Binary64) : Binary64 := add x (neg y)

def mul : Binary64 → Binary64 → Binary64
  | .undefined, _ => .undefined
  | _, .undefined => .undefined
  | .infinite a, .infinite b => .infinite (a != b)
  | .infinite a, .finite b n _ => if n = 0 then .undefined else .infinite (a != b)
  | .finite a m _, .infinite b => if m = 0 then .undefined else .infinite (a != b)
  | .finite a m e, .finite b n f =>
    let (p, q) := magnitude m e
    let (r, s) := magnitude n f
    ofRatio (a != b) (p * r) (q * s)

/-- Strict order; an undefined number is below nothing and above nothing. -/
def lt : Binary64 → Binary64 → Bool
  | .undefined, _ => false
  | _, .undefined => false
  | .infinite a, .infinite b => a && !b
  | .infinite a, _ => a
  | _, .infinite b => !b
  | .finite a m e, .finite b n f =>
    let (p, q) := magnitude m e
    let (r, s) := magnitude n f
    decide (signedInt a (p * s) < signedInt b (r * q))

/-- Equality of values: both zeros are one value, and an undefined number differs from all. -/
def same : Binary64 → Binary64 → Bool
  | .undefined, _ => false
  | _, .undefined => false
  | .finite _ 0 _, .finite _ 0 _ => true
  | x, y => decide (x = y)

def le (x y : Binary64) : Bool := lt x y || same x y

end Binary64

end MutationTesting
