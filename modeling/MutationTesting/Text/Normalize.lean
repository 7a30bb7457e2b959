import MutationTesting.Text.CharClass
import MutationTesting.Text.CompositionTable
import MutationTesting.Text.CompatibilityTable

/-!
# Normal form of identifiers

Two spellings of an identifier are one name if they have one normal form: characters that only look
different are replaced, marks are put in order, and marks are joined with the character before them.
-/

namespace MutationTesting.Text

/-- The combining class of a code.  It is zero for all but marks. -/
def combiningClass (code : Nat) : Nat :=
  (combiningRows.findSome? fun row =>
    match row with
    | [first, last, value] => if first ≤ code ∧ code ≤ last then some value else none
    | _ => none).getD 0

/-- The codes that a code stands for. -/
def compatibilityForm (code : Nat) : List Nat :=
  (compatibilityRows.findSome? fun row =>
    match row with
    | first :: last :: form =>
      if first ≤ code ∧ code ≤ last then some (form.map (· + (code - first))) else none
    | _ => none).getD [code]

/-- The character and the mark that a code is composed of. -/
def parts? (code : Nat) : Option (Nat × Nat) :=
  compositionRows.findSome? fun row =>
    match row with
    | [composed, first, second] => if composed = code then some (first, second) else none
    | _ => none

/-- The most marks that one code is composed with. -/
def maxMarks : Nat := 4

/-- A code taken apart into a character and its marks, from the last one on. -/
def decomposed : Nat → Nat → List Nat
  | 0, code => [code]
  | bound + 1, code =>
    match parts? code with
    | some (first, second) => decomposed bound first ++ [second]
    | none => [code]

/-- A mark put in front of marks of higher classes.  Marks of one class stay in order. -/
def insertMark (mark : Nat) : List Nat → List Nat
  | [] => [mark]
  | other :: rest =>
    if combiningClass other ≠ 0 ∧ combiningClass other < combiningClass mark then
      other :: insertMark mark rest
    else mark :: other :: rest

/-- Codes with the marks after each character in the order of their classes. -/
def inOrder : List Nat → List Nat
  | [] => []
  | code :: rest =>
    if combiningClass code = 0 then code :: inOrder rest else insertMark code (inOrder rest)

/-- The syllable of two sounds of the Korean script, or of a syllable and its last sound. -/
def syllable? (first second : Nat) : Option Nat :=
  if 0x1100 ≤ first ∧ first < 0x1113 ∧ 0x1161 ≤ second ∧ second < 0x1176 then
    some (0xAC00 + ((first - 0x1100) * 21 + (second - 0x1161)) * 28)
  else if 0xAC00 ≤ first ∧ first < 0xD7A4 ∧ (first - 0xAC00) % 28 = 0 ∧ 0x11A8 ≤ second ∧
      second < 0x11C3 then
    some (first + (second - 0x11A7))
  else none

/-- The code that is composed of two codes. -/
def composed? (first second : Nat) : Option Nat :=
  (syllable? first second).or (compositionRows.findSome? fun row =>
    match row with
    | [composed, a, b] => if a = first ∧ b = second then some composed else none
    | _ => none)

/-- Joins marks with the character before them.  A mark is not joined across another one of its
class, nor a character across a mark.  `kept` are the marks that were not joined, the last one
first. -/
def join (starter : Option Nat) (kept : List Nat) : List Nat → List Nat
  | [] => starter.toList ++ kept.reverse
  | code :: rest =>
    let isBlocked := match kept with
      | [] => false
      | last :: _ => decide (combiningClass code ≤ combiningClass last)
    let joined := if isBlocked then none else starter.bind fun s => composed? s code
    match joined with
    | some c => join (some c) kept rest
    | none =>
      if combiningClass code = 0 then starter.toList ++ kept.reverse ++ join (some code) [] rest
      else join starter (code :: kept) rest

/-- The normal form of a list of codes. -/
def normalForm (codes : List Nat) : List Nat :=
  join none [] (inOrder ((codes.flatMap compatibilityForm).flatMap (decomposed maxMarks)))

/-- The normal form of an identifier. -/
def normalizeIdentifier (cs : List Char) : List Char :=
  if cs.all isAscii then cs else (normalForm (cs.map Char.toNat)).map Char.ofNat

end MutationTesting.Text
