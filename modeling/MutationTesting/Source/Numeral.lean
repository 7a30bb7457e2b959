import MutationTesting.Number.Decimal
import MutationTesting.Text.CharClass
import MutationTesting.Tree.Basic

/-!
# Number literals

`scanNumeral` reads the number at the start of a text: digits with single underscores between them,
a base mark, a fraction, an exponent, an imaginary mark.  A number may run into a following word only
if that word is one of the few keywords that can follow an operand.
-/

namespace MutationTesting.Source

open Text

/-- Digits with single underscores between them.  An underscore must be followed by a digit. -/
def digitRun (isDigit : Char → Bool) : List Char → Option (List Char × List Char)
  | '_' :: c :: rest =>
    if isDigit c then (digitRun isDigit rest).map fun (ds, r) => (c :: ds, r) else none
  | '_' :: [] => none
  | c :: rest =>
    if isDigit c then (digitRun isDigit rest).map fun (ds, r) => (c :: ds, r)
    else some ([], c :: rest)
  | [] => some ([], [])

/-- Characters that may be part of a name, before names are checked. -/
def isNameChar (c : Char) : Bool := isAsciiWord c || !isAscii c

/-- The words that may follow a number without a blank, after their first letter. -/
def canFollowNumeral : List Char → Bool
  | 'a' :: 'n' :: 'd' :: _ => true
  | 'e' :: 'l' :: 's' :: 'e' :: _ => true
  | 'f' :: 'o' :: 'r' :: _ => true
  | 'i' :: 'f' :: _ => true
  | 'i' :: 'n' :: _ => true
  | 'i' :: 's' :: _ => true
  | 'o' :: 'r' :: _ => true
  | 'n' :: 'o' :: 't' :: _ => true
  | c :: _ => !isNameChar c
  | [] => true

/-- A finished number, provided that what follows may follow it. -/
def endNumeral (value : Literal) (rest : List Char) : Option (Literal × List Char) :=
  if canFollowNumeral rest then some (value, rest) else none

/-- The digits after one of the marks `0x`, `0o` and `0b`. -/
def scanBased (base : Nat) (cs : List Char) : Option (Literal × List Char) :=
  let isDigit := fun c => (digitIn? base c).isSome
  match digitRun isDigit cs with
  | none => none
  | some ([], _) => none
  | some (ds, rest) =>
    if rest.head?.any isAsciiDigit then none
    else endNumeral (.int (ofDigits base ds)) rest

/-- What follows the whole and fractional digits of a number with a point or an exponent. -/
def scanTail (whole fraction : List Char) (isFloat : Bool) (exponent : Int)
    (rest : List Char) : Option (Literal × List Char) :=
  let value := Binary64.ofDecimal false (Decimal.toNat (whole ++ fraction))
    (exponent - fraction.length)
  match rest with
  | 'j' :: r | 'J' :: r => endNumeral (.imaginary value) r
  | _ =>
    if isFloat then endNumeral (.float value) rest
    else if whole.head? = some '0' ∧ whole.any (· != '0') then none
    else if Decimal.maxDigits < whole.length ∧ whole.head? ≠ some '0' then none
    else endNumeral (.int (Decimal.toNat whole)) rest

/-- The digits of an exponent. -/
def scanExponentDigits (whole fraction : List Char) (negative : Bool) (cs : List Char) :
    Option (Literal × List Char) :=
  match digitRun isAsciiDigit cs with
  | none => none
  | some (ds, rest) =>
    let n : Int := Decimal.toNat ds
    scanTail whole fraction true (if negative then -n else n) rest

/-- An exponent, if the letter is followed by digits or by a sign and digits.  A sign without digits
is an error; a letter alone belongs to what follows. -/
def scanExponent (whole fraction : List Char) (isFloat : Bool) (cs : List Char) :
    Option (Literal × List Char) :=
  match cs with
  | [] => scanTail whole fraction isFloat 0 []
  | e :: rest =>
    let isMark := e == 'e' || e == 'E'
    let isSigned := rest.head? == some '+' || rest.head? == some '-'
    if isMark && isSigned then
      if (rest.drop 1).head?.any isAsciiDigit then
        scanExponentDigits whole fraction (rest.head? == some '-') (rest.drop 1)
      else none
    else if isMark && rest.head?.any isAsciiDigit then
      scanExponentDigits whole fraction false rest
    else scanTail whole fraction isFloat 0 cs

/-- A fraction after its point. -/
def scanFraction (whole : List Char) (cs : List Char) : Option (Literal × List Char) :=
  if cs.head?.any isAsciiDigit then
    match digitRun isAsciiDigit cs with
    | none => none
    | some (ds, r) => scanExponent whole ds true r
  else scanExponent whole [] true cs

/-- The number at the start of a text that starts with a digit, or with a point and a digit. -/
def scanNumeral (cs : List Char) : Option (Literal × List Char) :=
  match cs with
  | '0' :: 'x' :: r | '0' :: 'X' :: r => scanBased 16 r
  | '0' :: 'o' :: r | '0' :: 'O' :: r => scanBased 8 r
  | '0' :: 'b' :: r | '0' :: 'B' :: r => scanBased 2 r
  | '.' :: r => scanFraction [] r
  | _ =>
    match digitRun isAsciiDigit cs with
    | none => none
    | some (whole, '.' :: r) => scanFraction whole r
    | some (whole, r) => scanExponent whole [] false r

end MutationTesting.Source
