import MutationTesting.Text.CharTable
import MutationTesting.Text.IdentifierTable
import MutationTesting.Text.PrintableTable

/-!
# Character classes

Blank, printable, digit and identifier characters.  ASCII is decided directly; the rest is looked
up in the tables.  Every range of decimal digits is a run of whole decades, so a digit's value is its
distance from the start of its range modulo ten.  In bases up to sixteen letters in either case stand
for ten and above.
-/

namespace MutationTesting.Text

/-- Decimal digits. -/
def digitRanges : List CharRange :=
  [⟨0x660, 0x669⟩, ⟨0x6F0, 0x6F9⟩, ⟨0x7C0, 0x7C9⟩, ⟨0x966, 0x96F⟩, ⟨0x9E6, 0x9EF⟩,
   ⟨0xA66, 0xA6F⟩, ⟨0xAE6, 0xAEF⟩, ⟨0xB66, 0xB6F⟩, ⟨0xBE6, 0xBEF⟩, ⟨0xC66, 0xC6F⟩,
   ⟨0xCE6, 0xCEF⟩, ⟨0xD66, 0xD6F⟩, ⟨0xDE6, 0xDEF⟩, ⟨0xE50, 0xE59⟩, ⟨0xED0, 0xED9⟩,
   ⟨0xF20, 0xF29⟩, ⟨0x1040, 0x1049⟩, ⟨0x1090, 0x1099⟩, ⟨0x17E0, 0x17E9⟩, ⟨0x1810, 0x1819⟩,
   ⟨0x1946, 0x194F⟩, ⟨0x19D0, 0x19D9⟩, ⟨0x1A80, 0x1A89⟩, ⟨0x1A90, 0x1A99⟩, ⟨0x1B50, 0x1B59⟩,
   ⟨0x1BB0, 0x1BB9⟩, ⟨0x1C40, 0x1C49⟩, ⟨0x1C50, 0x1C59⟩, ⟨0xA620, 0xA629⟩, ⟨0xA8D0, 0xA8D9⟩,
   ⟨0xA900, 0xA909⟩, ⟨0xA9D0, 0xA9D9⟩, ⟨0xA9F0, 0xA9F9⟩, ⟨0xAA50, 0xAA59⟩, ⟨0xABF0, 0xABF9⟩,
   ⟨0xFF10, 0xFF19⟩, ⟨0x104A0, 0x104A9⟩, ⟨0x10D30, 0x10D39⟩, ⟨0x11066, 0x1106F⟩,
   ⟨0x110F0, 0x110F9⟩, ⟨0x11136, 0x1113F⟩, ⟨0x111D0, 0x111D9⟩, ⟨0x112F0, 0x112F9⟩,
   ⟨0x11450, 0x11459⟩, ⟨0x114D0, 0x114D9⟩, ⟨0x11650, 0x11659⟩, ⟨0x116C0, 0x116C9⟩,
   ⟨0x11730, 0x11739⟩, ⟨0x118E0, 0x118E9⟩, ⟨0x11950, 0x11959⟩, ⟨0x11C50, 0x11C59⟩,
   ⟨0x11D50, 0x11D59⟩, ⟨0x11DA0, 0x11DA9⟩, ⟨0x16A60, 0x16A69⟩, ⟨0x16AC0, 0x16AC9⟩,
   ⟨0x16B50, 0x16B59⟩, ⟨0x1D7CE, 0x1D7FF⟩, ⟨0x1E140, 0x1E149⟩, ⟨0x1E2F0, 0x1E2F9⟩,
   ⟨0x1E950, 0x1E959⟩, ⟨0x1FBF0, 0x1FBF9⟩]

def isAscii (c : Char) : Bool := decide (c.toNat < 0x80)

def isAsciiDigit (c : Char) : Bool := decide ('0' ≤ c) && decide (c ≤ '9')

def isAsciiUpper (c : Char) : Bool := decide ('A' ≤ c) && decide (c ≤ 'Z')

def isAsciiLower (c : Char) : Bool := decide ('a' ≤ c) && decide (c ≤ 'z')

def isAsciiLetter (c : Char) : Bool := isAsciiUpper c || isAsciiLower c

/-- Letters, digits and the underscore. -/
def isAsciiWord (c : Char) : Bool := isAsciiLetter c || isAsciiDigit c || c == '_'

/-- Blank characters: the separators and the controls that separate lines or columns. -/
def blankRanges : List CharRange :=
  [⟨0x9, 0xD⟩, ⟨0x1C, 0x20⟩, ⟨0x85, 0x85⟩, ⟨0xA0, 0xA0⟩, ⟨0x1680, 0x1680⟩, ⟨0x2000, 0x200A⟩,
   ⟨0x2028, 0x2029⟩, ⟨0x202F, 0x202F⟩, ⟨0x205F, 0x205F⟩, ⟨0x3000, 0x3000⟩]

def isBlank (c : Char) : Bool := inRanges blankRanges c

def isPrintable (c : Char) : Bool :=
  if isAscii c then decide (0x20 ≤ c.toNat) && decide (c.toNat < 0x7F)
  else inRanges printableRanges c

/-- The value of a decimal digit of any script. -/
def digitValue? (c : Char) : Option Nat :=
  if isAsciiDigit c then some (c.toNat - 48)
  else if isAscii c then none
  else (digitRanges.find? (·.contains c.toNat)).map fun r => (c.toNat - r.first) % 10

def isDigit (c : Char) : Bool := (digitValue? c).isSome

def isIdentifierStart (c : Char) : Bool :=
  if isAscii c then isAsciiLetter c || c == '_' else inRanges identifierStartRanges c

def isIdentifierContinue (c : Char) : Bool :=
  if isAscii c then isAsciiWord c else inRanges identifierContinueRanges c

/-- Whether a text is an identifier: a start character followed by continuing ones. -/
def isIdentifier : List Char → Bool
  | [] => false
  | c :: rest => isIdentifierStart c && rest.all isIdentifierContinue

/-- A text without the blanks at its ends. -/
def strip (cs : List Char) : List Char :=
  ((cs.dropWhile isBlank).reverse.dropWhile isBlank).reverse

/-- The words of a text: its longest runs without a blank. -/
def words (cs : List Char) : List (List Char) :=
  (cs.splitBy fun a b => !isBlank a && !isBlank b).filter fun w => !w.all isBlank

/-- The value of a digit of base sixteen. -/
def hexValue? (c : Char) : Option Nat :=
  if isAsciiDigit c then some (c.toNat - 48)
  else if 'a' ≤ c ∧ c ≤ 'f' then some (c.toNat - 87)
  else if 'A' ≤ c ∧ c ≤ 'F' then some (c.toNat - 55)
  else none

/-- The value of a digit in a base up to sixteen. -/
def digitIn? (base : Nat) (c : Char) : Option Nat :=
  (hexValue? c).filter (· < base)

/-- The number written by digits of a base. -/
def ofDigits (base : Nat) (cs : List Char) : Nat :=
  cs.foldl (fun n c => base * n + (hexValue? c).getD 0) 0

def isOctalDigit (c : Char) : Bool := decide ('0' ≤ c) && decide (c ≤ '7')

end MutationTesting.Text
