import MutationTesting.Text.Quoted

/-!
# Texts in JSON

A text between double quotes, in ASCII alone: any other character is written as its UTF-16 units.
-/

namespace MutationTesting.Text

/-- The escape of a UTF-16 unit. -/
def unitEscape (unit : Nat) : List Char := '\\' :: 'u' :: hex 4 unit

def jsonChar (c : Char) : List Char :=
  let code := c.toNat
  if c = '"' ∨ c = '\\' then ['\\', c]
  else if c = '\n' then ['\\', 'n']
  else if c = '\r' then ['\\', 'r']
  else if c = '\t' then ['\\', 't']
  else if code = 8 then ['\\', 'b']
  else if code = 12 then ['\\', 'f']
  else if 0x20 ≤ code ∧ code < 0x7F then [c]
  else if code < 0x10000 then unitEscape code
  else
    let above := code - 0x10000
    unitEscape (0xD800 + above / 0x400) ++ unitEscape (0xDC00 + above % 0x400)

def jsonQuoted (s : String) : String :=
  String.ofList ('"' :: (s.toList.flatMap jsonChar ++ ['"']))

end MutationTesting.Text
