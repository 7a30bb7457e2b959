import MutationTesting.Number.Decimal
import MutationTesting.Text.Quoted
import MutationTesting.Tree.Basic

/-!
# Literals in printed programs

A string literal is printed with as few escapes as possible: line feeds and tabs may stand for
themselves, and of the allowed quotes the first is taken that the text does not contain.  Where none
is left, every escape of a quoted text is used.
-/

namespace MutationTesting.Source

open Text

/-- The marks that may open and close a literal. -/
abbrev QuoteMark := List Char

def tripleQuotes : List QuoteMark := [['"', '"', '"'], ['\'', '\'', '\'']]

def allQuotes : List QuoteMark := ['\''] :: ['"'] :: tripleQuotes

/-- A character of a literal; line feeds and tabs are escaped only where asked for. -/
def escapeSparingly (escapesLayout : Bool) (c : Char) : List Char :=
  if !escapesLayout && (c == '\n' || c == '\t') then [c]
  else if c == '\\' then ['\\', '\\']
  else if isPrintable c then [c]
  else if c == '\n' then ['\\', 'n']
  else if c == '\t' then ['\\', 't']
  else if c == '\r' then ['\\', 'r']
  else numericEscape c.toNat

def containsText (part : List Char) : List Char → Bool
  | [] => part.isEmpty
  | c :: cs => part.isPrefixOf (c :: cs) || containsText part cs

/-- The marks that differ from the last character of the text, then the others. -/
def preferOtherThan (last : Char) (marks : List QuoteMark) : List QuoteMark :=
  marks.filter (fun m => m.head? != some last) ++ marks.filter (fun m => m.head? == some last)

/-- The body of a literal for a text, and the marks that may surround it. -/
def literalBody (cs : List Char) (marks : List QuoteMark) (escapesLayout : Bool) :
    List Char × List QuoteMark :=
  let escaped := cs.flatMap (escapeSparingly escapesLayout)
  let fitting := if escaped.contains '\n' then marks.filter (tripleQuotes.contains ·) else marks
  let possible := fitting.filter fun m => !containsText m escaped
  match possible, escaped.getLast? with
  | [], _ =>
    let quotedText := quote cs
    let mark := quotedText.take 1
    let body := (quotedText.drop 1).dropLast
    (body, [(marks.find? fun m => m.take 1 == mark).getD mark])
  | _, none => (escaped, possible)
  | _, some last =>
    let ordered := preferOtherThan last possible
    if (ordered.headD []).head? == some last then
      (escaped.dropLast ++ ['\\', last], ordered)
    else (escaped, ordered)

/-- A literal for a text with the fewest escapes. -/
def sparingLiteral (cs : List Char) (marks : List QuoteMark) : List Char :=
  let (body, possible) := literalBody cs marks false
  let mark := possible.headD []
  mark ++ body ++ mark

/-- The text of infinity in a program: a number too large for the format. -/
def infinityText : List Char := "1e309".toList

/-- A floating-point literal.  An undefined number is the difference of two infinities. -/
def floatText (format : Binary64.FloatFormat) : Binary64 → List Char
  | .undefined => '(' :: infinityText ++ '-' :: infinityText ++ [')']
  | .infinite negative => if negative then '-' :: infinityText else infinityText
  | x => (Binary64.render format x).toList

/-- The printed form of a value; a whole number with too many digits has none. -/
def valueText (avoidsBackslash : Bool) : Literal → Option (List Char)
  | .none => some "None".toList
  | .ellipsis => some "...".toList
  | .bool value => some (if value then "True".toList else "False".toList)
  | .int value => if Decimal.fits value then some (Decimal.ofInt value).toList else none
  | .float value => some (floatText Binary64.canonicalFormat value)
  | .imaginary value => some (floatText Binary64.imaginaryFormat value ++ ['j'])
  | .text value =>
    some (if avoidsBackslash then sparingLiteral value.toList allQuotes else quote value.toList)
  | .bytes value => some (quoteBytes value)

end MutationTesting.Source
