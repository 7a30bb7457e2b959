import MutationTesting.Shell.Output

/-!
# Arithmetic of the small shell

Whole numbers and variables with the usual operators.  A comparison gives one or zero.
-/

namespace MutationTesting.Shell.Arithmetic

open MutationTesting.Text

/-- The operators between two values, from those that bind least to those that bind most. -/
def levels : List (List String) :=
  [["||"], ["&&"], ["|"], ["^"], ["&"], ["==", "!="], ["<=", ">=", "<", ">"], ["<<", ">>"],
    ["+", "-"], ["*", "/", "%"]]

def ofTruth (b : Bool) : Int := if b then 1 else 0

/-- The value of two values with an operator between them, unless it divides by zero. -/
def combine? (operator : String) (x y : Int) : Option Int :=
  match operator with
  | "||" => some (ofTruth (x ≠ 0 || y ≠ 0))
  | "&&" => some (ofTruth (x ≠ 0 && y ≠ 0))
  | "|" => some (x.toNat ||| y.toNat : Nat)
  | "^" => some (x.toNat ^^^ y.toNat : Nat)
  | "&" => some (x.toNat &&& y.toNat : Nat)
  | "==" => some (ofTruth (x = y))
  | "!=" => some (ofTruth (x ≠ y))
  | "<=" => some (ofTruth (x ≤ y))
  | ">=" => some (ofTruth (y ≤ x))
  | "<" => some (ofTruth (x < y))
  | ">" => some (ofTruth (y < x))
  | "<<" => some (x * Nat.pow 2 (y % 64).toNat)
  | ">>" => some (x / Nat.pow 2 (y % 64).toNat)
  | "+" => some (x + y)
  | "-" => some (x - y)
  | "*" => some (x * y)
  | "/" => if y = 0 then none else some (Int.tdiv x y)
  | "%" => if y = 0 then none else some (Int.tmod x y)
  | _ => none

/-- The operator of a level at the beginning of a text.  An operator is not cut short. -/
def operator? (level : List String) (cs : List Char) : Option String :=
  let longest := (levels.flatten.filter fun text => text.toList.isPrefixOf cs).foldl
    (fun best text => if best.length < text.length then text else best) ""
  if level.contains longest then some longest else none

def skipBlanks (cs : List Char) : List Char := cs.dropWhile isBlank

mutual

/-- The value of an expression whose operators bind at least as much as those of some levels. -/
def valueOf (lookUp : String → Int) :
    Nat → List (List String) → List Char → Option (Int × List Char)
  | 0, _, _ => none
  | bound + 1, [], cs => operand lookUp bound (skipBlanks cs)
  | bound + 1, level :: higher, cs => do
    let (x, rest) ← valueOf lookUp bound higher cs
    valueFrom lookUp bound level higher x rest

/-- The value that goes on after a first one. -/
def valueFrom (lookUp : String → Int) :
    Nat → List String → List (List String) → Int → List Char → Option (Int × List Char)
  | 0, _, _, _, _ => none
  | bound + 1, level, higher, x, cs =>
    match operator? level (skipBlanks cs) with
    | none => some (x, cs)
    | some text => do
      let (y, rest) ← valueOf lookUp bound higher ((skipBlanks cs).drop text.length)
      valueFrom lookUp bound level higher (← combine? text x y) rest

/-- A number, a variable, or an expression with a sign or in brackets. -/
def operand (lookUp : String → Int) : Nat → List Char → Option (Int × List Char)
  | 0, _ => none
  | _, [] => none
  | bound + 1, c :: rest =>
    if c = '-' then (operand lookUp bound (skipBlanks rest)).map fun (x, rest) => (-x, rest)
    else if c = '+' then operand lookUp bound (skipBlanks rest)
    else if c = '!' then
      (operand lookUp bound (skipBlanks rest)).map fun (x, rest) => (ofTruth (x = 0), rest)
    else if c = '(' then do
      let (x, rest) ← valueOf lookUp bound levels rest
      match skipBlanks rest with
      | ')' :: rest => pure (x, rest)
      | _ => none
    else if isAsciiDigit c then wholeNumber (c :: rest)
    else if isAsciiWord c then
      some (lookUp (String.ofList ((c :: rest).takeWhile isAsciiWord)),
        (c :: rest).dropWhile isAsciiWord)
    else none

end

/-- The value of an arithmetic expression.  An empty one counts as zero. -/
def value? (lookUp : String → Int) (cs : List Char) : Option Int :=
  if (skipBlanks cs).isEmpty then some 0
  else
    match valueOf lookUp (16 * cs.length + 16) levels cs with
    | some (x, rest) => if (skipBlanks rest).isEmpty then some x else none
    | none => none

end MutationTesting.Shell.Arithmetic
