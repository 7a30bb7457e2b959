import MutationTesting.Source.Numeral
import MutationTesting.Text.CharName

/-!
# The content of string literals

`decodeText` and `decodeBytes` replace the escapes in the body of a literal by what they stand for.
An unknown escape stands for itself, backslash included; an escape that is cut short has no meaning.
-/

namespace MutationTesting.Source

open Text

/-- The single characters that stand for a control or for themselves after a backslash. -/
def simpleEscape? : Char → Option Char
  | '\\' => some '\\'
  | '\'' => some '\''
  | '"' => some '"'
  | 'a' => some '\x07'
  | 'b' => some '\x08'
  | 'f' => some '\x0c'
  | 'n' => some '\n'
  | 'r' => some '\r'
  | 't' => some '\t'
  | 'v' => some '\x0b'
  | _ => none

/-- The value of up to three octal digits, and the rest. -/
def octalRun (cs : List Char) : Nat × List Char :=
  let ds := (cs.take 3).takeWhile isOctalDigit
  (ofDigits 8 ds, cs.drop ds.length)

/-- The value of exactly `width` hexadecimal digits, and the rest. -/
def hexRun? (width : Nat) (cs : List Char) : Option (Nat × List Char) :=
  let ds := cs.take width
  if ds.length = width ∧ ds.all (fun c => (hexValue? c).isSome) then
    some (ofDigits 16 ds, cs.drop width)
  else none

/-- The character of a code point; a surrogate has none and becomes the replacement character. -/
def charOfCode? (code : Nat) : Option Char :=
  if h : code.isValidChar then some (Char.ofNatAux code h)
  else if code ≤ 0x10FFFF then some '\uFFFD'
  else none

/-- A character escape that starts after its backslash: what it stands for and the rest. -/
def textEscape? : List Char → Option (List Char × List Char)
  | [] => some (['\\'], [])
  | '\n' :: cs => some ([], cs)
  | 'x' :: cs => do let (n, rest) ← hexRun? 2 cs; let c ← charOfCode? n; pure ([c], rest)
  | 'u' :: cs => do let (n, rest) ← hexRun? 4 cs; let c ← charOfCode? n; pure ([c], rest)
  | 'U' :: cs => do let (n, rest) ← hexRun? 8 cs; let c ← charOfCode? n; pure ([c], rest)
  | 'N' :: '\x7b' :: cs =>
    let name := cs.takeWhile (· != '\x7d')
    match cs.drop name.length with
    | _ :: rest => (charNamed? name).map fun c => ([c], rest)
    | [] => none
  | 'N' :: _ => none
  | c :: cs =>
    match simpleEscape? c with
    | some e => some ([e], cs)
    | none =>
      if isOctalDigit c then
        let (n, rest) := octalRun (c :: cs)
        some ([Char.ofNat n], rest)
      else some (['\\', c], cs)

/-- The text of a literal's body, read with at most `fuel` escapes and characters. -/
def decodeTextFrom : Nat → List Char → Option (List Char)
  | _, [] => some []
  | 0, _ => none
  | fuel + 1, '\\' :: cs =>
    match textEscape? cs with
    | none => none
    | some (decoded, rest) => (decodeTextFrom fuel rest).map (decoded ++ ·)
  | fuel + 1, c :: cs => (decodeTextFrom fuel cs).map (c :: ·)

def decodeText (cs : List Char) : Option (List Char) := decodeTextFrom cs.length cs

/-- A byte escape that starts after its backslash. -/
def byteEscape? : List Char → Option (List UInt8 × List Char)
  | [] => none
  | '\n' :: cs => some ([], cs)
  | 'x' :: cs => (hexRun? 2 cs).map fun (n, rest) => ([n.toUInt8], rest)
  | c :: cs =>
    match simpleEscape? c with
    | some e => some ([e.toNat.toUInt8], cs)
    | none =>
      if isOctalDigit c then
        let (n, rest) := octalRun (c :: cs)
        some ([n.toUInt8], rest)
      else some ([('\\' : Char).toNat.toUInt8, c.toNat.toUInt8], cs)

def decodeBytesFrom : Nat → List Char → Option (List UInt8)
  | _, [] => some []
  | 0, _ => none
  | fuel + 1, '\\' :: cs =>
    match byteEscape? cs with
    | none => none
    | some (decoded, rest) => (decodeBytesFrom fuel rest).map (decoded ++ ·)
  | fuel + 1, c :: cs => (decodeBytesFrom fuel cs).map (c.toNat.toUInt8 :: ·)

/-- The bytes of a literal's body, which must be ASCII. -/
def decodeBytes (isRaw : Bool) (cs : List Char) : Option (List UInt8) :=
  if cs.all isAscii then
    if isRaw then some (cs.map fun c => c.toNat.toUInt8) else decodeBytesFrom cs.length cs
  else none

/-- The text of a literal's body, in which a raw literal keeps its backslashes. -/
def decodeBody (isRaw : Bool) (cs : List Char) : Option (List Char) :=
  if isRaw then some cs else decodeText cs

end MutationTesting.Source
