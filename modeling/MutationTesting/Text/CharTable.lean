import MutationTesting.Text.Split

/-!
# Tables of characters

A character class is a list of inclusive ranges of code points.  A table of a standard is written as
lines of text: rows with blanks between them, numbers in hexadecimal digits with commas between them.
Characters that follow each other often have names that begin alike, so a row of names has the names
of such characters.
-/

namespace MutationTesting.Text

/-- The code points from `first` to `last`, both included. -/
structure CharRange where
  first : Nat
  last : Nat
deriving DecidableEq, Repr

def CharRange.contains (r : CharRange) (code : Nat) : Bool :=
  decide (r.first ≤ code) && decide (code ≤ r.last)

/-- Whether a character lies in one of the ranges. -/
def inRanges (ranges : List CharRange) (c : Char) : Bool :=
  ranges.any (·.contains c.toNat)

/-- The value of a hexadecimal digit in lower case. -/
def hexDigitValue (c : Char) : Nat := if c.toNat < 58 then c.toNat - 48 else c.toNat - 87

/-- The number that hexadecimal digits write. -/
def hexNumber (digits : List Char) : Nat := digits.foldl (fun n c => 16 * n + hexDigitValue c) 0

/-- The rows of a table. -/
def numberRows (lines : List String) : List (List Nat) :=
  lines.flatMap fun line =>
    (splitAt ' ' line.toList).map fun row => (splitAt ',' row).map hexNumber

namespace CharName

structure Row where
  /-- The code of the first character. -/
  first : Nat
  /-- The beginning of all names. -/
  beginning : String
  /-- How the names go on, with semicolons between those of a line. -/
  endings : List String

/-- The place of the first item that equals another one. -/
def placeOf? {α : Type} [DecidableEq α] (item : α) : List α → Option Nat
  | [] => none
  | x :: rest => if x = item then some 0 else (placeOf? item rest).map (· + 1)

/-- The code of the character that has a name in a row. -/
def Row.code? (r : Row) (name : List Char) : Option Nat :=
  if r.beginning.toList.isPrefixOf name then
    let ending := name.drop r.beginning.length
    (placeOf? ending (r.endings.flatMap fun line => splitAt ';' line.toList)).map (r.first + ·)
  else none

end CharName

end MutationTesting.Text
