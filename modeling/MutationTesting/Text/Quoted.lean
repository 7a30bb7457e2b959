import MutationTesting.Text.CharClass

/-!
# Quoted texts

A text between quotes, readable as a literal: `quote` picks the quote that needs no escape if there
is one, and writes every character that is not printable as an escape.
-/

namespace MutationTesting.Text

def hexDigit (d : Nat) : Char :=
  if d < 10 then Char.ofNat (48 + d) else Char.ofNat (87 + d)

/-- The last `width` hexadecimal digits of `n`, in lower case. -/
def hex (width n : Nat) : List Char :=
  (List.range width).reverse.map fun i => hexDigit (n / Nat.pow 16 i % 16)

/-- A code point as the shortest of the three numeric escapes that can hold it. -/
def numericEscape (code : Nat) : List Char :=
  if code ≤ 0xFF then '\\' :: 'x' :: hex 2 code
  else if code ≤ 0xFFFF then '\\' :: 'u' :: hex 4 code
  else '\\' :: 'U' :: hex 8 code

/-- One character between quotes. -/
def quoteChar (quote c : Char) : List Char :=
  if c = quote ∨ c = '\\' then ['\\', c]
  else if c = '\t' then ['\\', 't']
  else if c = '\n' then ['\\', 'n']
  else if c = '\r' then ['\\', 'r']
  else if isPrintable c then [c]
  else numericEscape c.toNat

/-- Single quotes, unless the text holds one and no double quote. -/
def preferredQuote (cs : List Char) : Char :=
  if cs.contains '\'' && !cs.contains '"' then '"' else '\''

def quote (cs : List Char) : List Char :=
  let q := preferredQuote cs
  q :: (cs.flatMap (quoteChar q) ++ [q])

def quoted (s : String) : String := String.ofList (quote s.toList)

/-- One byte between quotes; only printable ASCII stands for itself. -/
def quoteByte (quote : Char) (b : UInt8) : List Char :=
  let c := Char.ofNat b.toNat
  if c = quote ∨ c = '\\' then ['\\', c]
  else if c = '\t' then ['\\', 't']
  else if c = '\n' then ['\\', 'n']
  else if c = '\r' then ['\\', 'r']
  else if 0x20 ≤ b.toNat ∧ b.toNat < 0x7F then [c]
  else '\\' :: 'x' :: hex 2 b.toNat

/-- A byte string between quotes, marked by a leading `b`. -/
def quoteBytes (bs : List UInt8) : List Char :=
  let q := preferredQuote (bs.map fun b => Char.ofNat b.toNat)
  'b' :: q :: (bs.flatMap (quoteByte q) ++ [q])

end MutationTesting.Text
