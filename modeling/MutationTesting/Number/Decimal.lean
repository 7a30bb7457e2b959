import MutationTesting.Number.Binary64

/-!
# Decimal texts of numbers

Whole numbers are written with `digits`, floating-point numbers with the fewest digits that read
back as the same number (`Binary64.shortest`) or with a fixed number of places
(`Binary64.fixed`).  How a list of shortest digits is laid out is the format's decision and stands
in one record, `FloatFormat`.
-/

namespace MutationTesting

namespace Decimal

def digitChar (d : Nat) : Char := Char.ofNat (48 + d % 10)

/-- The digits of `n` in base ten, most significant first, computed with a bound on their number. -/
def digitsAux : Nat → Nat → List Char → List Char
  | 0, _, acc => acc
  | fuel + 1, n, acc =>
    if n < 10 then digitChar n :: acc
    else digitsAux fuel (n / 10) (digitChar (n % 10) :: acc)

/-- The decimal digits of a natural number, `0` for zero. -/
def digits (n : Nat) : List Char := digitsAux (Nat.log2 n / 3 + 2) n []

def ofNat (n : Nat) : String := String.ofList (digits n)

def ofInt (n : Int) : String :=
  if n < 0 then String.ofList ('-' :: digits n.natAbs) else ofNat n.natAbs

/-- The number written by a list of decimal digits. -/
def toNat (cs : List Char) : Nat :=
  cs.foldl (fun n c => 10 * n + (c.toNat - 48)) 0

/-- The most digits a whole number may have when it is written or read in decimal. -/
def maxDigits : Nat := 4300

/-- Whether the decimal text of `n` stays within `maxDigits`. -/
def fits (n : Int) : Bool := decide (n.natAbs < Nat.pow 10 maxDigits)

end Decimal

namespace Binary64

/-- A decimal text before layout: `digits` stand for `0.d₁d₂… · 10 ^ point`. -/
structure Digits where
  digits : List Char
  point : Int
deriving DecidableEq, Repr

/-- The largest `k` with `10 ^ k ≤ numerator / denominator`, found from an estimate that is at
most one too large or two too small. -/
def floorLog10 (numerator denominator : Nat) : Int :=
  let estimate := (floorLog2 numerator denominator * 30103) / 100000
  let atLeast (k : Int) : Bool :=
    if k < 0 then decide (denominator ≤ numerator * Nat.pow 10 (-k).toNat)
    else decide (denominator * Nat.pow 10 k.toNat ≤ numerator)
  if atLeast (estimate + 1) then estimate + 1
  else if atLeast estimate then estimate
  else estimate - 1

/-- The ratio scaled by `10 ^ places`. -/
def scaleByTen (numerator denominator : Nat) (places : Int) : Nat × Nat :=
  if places < 0 then (numerator, denominator * Nat.pow 10 (-places).toNat)
  else (numerator * Nat.pow 10 places.toNat, denominator)

/-- The decimal with `count` digits nearest to a positive number, or to its other neighbour on
that grid, if it reads back as the number. -/
def shortestWith (significand : Nat) (exponent : Int) (count : Nat) : Option (Nat × Int) :=
  let (numerator, denominator) := magnitude significand exponent
  let places : Int := (count : Int) - 1 - floorLog10 numerator denominator
  let (scaled, unit) := scaleByTen numerator denominator places
  let readsBack (n : Nat) : Bool :=
    decide (ofDecimal false n (-places) = .finite false significand exponent)
  let nearest := roundHalfEven scaled unit
  let other := if nearest * unit ≤ scaled then nearest + 1 else nearest - 1
  if readsBack nearest then some (nearest, -places)
  else if readsBack other then some (other, -places)
  else none

/-- The fewest digits of a positive number that read back as that number; seventeen suffice. -/
def shortestFrom (significand : Nat) (exponent : Int) : Nat → Nat → Nat × Int
  | 0, _ => (0, 0)
  | fuel + 1, count =>
    match shortestWith significand exponent count with
    | some found => found
    | none => shortestFrom significand exponent fuel (count + 1)

def dropTrailingZeros (cs : List Char) : List Char :=
  (cs.reverse.dropWhile (· == '0')).reverse

/-- The shortest digits of a positive number and the place of the decimal point. -/
def shortest (significand : Nat) (exponent : Int) : Digits :=
  let (n, power) := shortestFrom significand exponent 17 1
  let cs := Decimal.digits n
  ⟨dropTrailingZeros cs, (cs.length : Int) + power⟩

/-- The decisions of a format for floating-point numbers. -/
structure FloatFormat where
  /-- Positional notation is used while the decimal exponent is at least this. -/
  positionalFrom : Int
  /-- Positional notation is used while the decimal exponent is below this. -/
  positionalBelow : Int
  /-- The text of an infinite number. -/
  infinite : String
  /-- The text of an undefined number. -/
  undefined : String
  /-- Whether a whole number is written with `.0`. -/
  keepsPoint : Bool

/-- The least exponent digits are two, with a sign: `1e-05`, `1e+16`. -/
def exponentText (exponent : Int) : List Char :=
  let cs := Decimal.digits exponent.natAbs
  let padded := if cs.length < 2 then '0' :: cs else cs
  'e' :: (if exponent < 0 then '-' else '+') :: padded

/-- Digits laid out by a format. -/
def layout (format : FloatFormat) (d : Digits) : List Char :=
  let exponent := d.point - 1
  if format.positionalFrom ≤ exponent ∧ exponent < format.positionalBelow then
    if d.point ≤ 0 then
      '0' :: '.' :: (List.replicate (-d.point).toNat '0' ++ d.digits)
    else
      let whole := d.point.toNat
      if d.digits.length ≤ whole then
        d.digits ++ List.replicate (whole - d.digits.length) '0'
          ++ (if format.keepsPoint then ['.', '0'] else [])
      else d.digits.take whole ++ '.' :: d.digits.drop whole
  else
    match d.digits with
    | [] => []
    | [c] => c :: exponentText exponent
    | c :: rest => c :: '.' :: (rest ++ exponentText exponent)

/-- A number's text in a format. -/
def render (format : FloatFormat) : Binary64 → String
  | .undefined => format.undefined
  | .infinite negative => (if negative then "-" else "") ++ format.infinite
  | .finite negative significand exponent =>
    let body :=
      if significand = 0 then ('0' :: if format.keepsPoint then ['.', '0'] else [])
      else layout format (shortest significand exponent)
    String.ofList (if negative then '-' :: body else body)

/-- Numbers as the program writes them: positional from `1e-4` up to below `1e16`. -/
def canonicalFormat : FloatFormat := ⟨-4, 16, "inf", "nan", true⟩

/-- The imaginary part of a complex literal is written without `.0`. -/
def imaginaryFormat : FloatFormat := ⟨-4, 16, "inf", "nan", false⟩

def toText (x : Binary64) : String := render canonicalFormat x

/-- The magnitude rounded to whole multiples of `10 ^ (-places)`, a tie going to the even one. -/
def inUnits (significand : Nat) (exponent : Int) (places : Nat) : Nat :=
  let (numerator, denominator) := magnitude significand exponent
  roundHalfEven (numerator * Nat.pow 10 places) denominator

/-- A number rounded to `places` decimal places and taken back to the nearest binary64. -/
def roundPlaces (x : Binary64) (places : Nat) : Binary64 :=
  match x with
  | .finite negative significand exponent =>
    ofRatio negative (inUnits significand exponent places) (Nat.pow 10 places)
  | other => other

/-- What a part is of a whole in percent, with `places` decimal places. -/
def percentage (part : Int) (whole places : Nat) : Binary64 :=
  ((quotient part whole).mul (ofNat 100)).roundPlaces places

/-- A number written with exactly `places` decimal places. -/
def fixed (x : Binary64) (places : Nat) : String :=
  match x with
  | .undefined => "nan"
  | .infinite negative => if negative then "-inf" else "inf"
  | .finite negative significand exponent =>
    let cs := Decimal.digits (inUnits significand exponent places)
    let padded := List.replicate (places + 1 - cs.length) '0' ++ cs
    let whole := padded.take (padded.length - places)
    let fraction := padded.drop (padded.length - places)
    let body := if places = 0 then whole else whole ++ '.' :: fraction
    String.ofList (if negative then '-' :: body else body)

end Binary64

end MutationTesting
