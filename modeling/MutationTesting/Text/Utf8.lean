/-!
# UTF-8

Bytes and texts.  `decode?` accepts exactly the well-formed sequences; `decodeLossy` puts one
replacement character for every maximal part of a sequence that cannot be continued.
-/

namespace MutationTesting.Text.Utf8

def encodeChar (c : Char) : List UInt8 :=
  let n := c.toNat
  if n < 0x80 then [n.toUInt8]
  else if n < 0x800 then [(0xC0 + n / 0x40).toUInt8, (0x80 + n % 0x40).toUInt8]
  else if n < 0x10000 then
    [(0xE0 + n / 0x1000).toUInt8, (0x80 + n / 0x40 % 0x40).toUInt8, (0x80 + n % 0x40).toUInt8]
  else
    [(0xF0 + n / 0x40000).toUInt8, (0x80 + n / 0x1000 % 0x40).toUInt8,
     (0x80 + n / 0x40 % 0x40).toUInt8, (0x80 + n % 0x40).toUInt8]

def encode (cs : List Char) : List UInt8 := cs.flatMap encodeChar

/-- What a leading byte announces: how many bytes follow, its own share of the code point, and the
range of the first byte that follows.  The range excludes overlong forms, surrogates and code points
beyond the last. -/
structure Lead where
  following : Nat
  value : Nat
  low : Nat
  high : Nat

def lead? (b : Nat) : Option Lead :=
  if 0xC2 ≤ b ∧ b ≤ 0xDF then some ⟨1, b - 0xC0, 0x80, 0xBF⟩
  else if b = 0xE0 then some ⟨2, 0, 0xA0, 0xBF⟩
  else if b = 0xED then some ⟨2, 0xD, 0x80, 0x9F⟩
  else if 0xE1 ≤ b ∧ b ≤ 0xEF then some ⟨2, b - 0xE0, 0x80, 0xBF⟩
  else if b = 0xF0 then some ⟨3, 0, 0x90, 0xBF⟩
  else if b = 0xF4 then some ⟨3, 4, 0x80, 0x8F⟩
  else if 0xF1 ≤ b ∧ b ≤ 0xF3 then some ⟨3, b - 0xF0, 0x80, 0xBF⟩
  else none

/-- Reads up to `count` continuing bytes, the first of them within bounds.  Gives the value, how
many were read and the rest. -/
def continuing : Nat → Nat → Nat → Nat → List UInt8 → Nat × Nat × List UInt8
  | 0, value, _, _, bs => (value, 0, bs)
  | _ + 1, value, _, _, [] => (value, 0, [])
  | count + 1, value, low, high, b :: bs =>
    if low ≤ b.toNat ∧ b.toNat ≤ high then
      let (v, n, rest) := continuing count (value * 0x40 + (b.toNat - 0x80)) 0x80 0xBF bs
      (v, n + 1, rest)
    else (value, 0, b :: bs)

/-- Splits bytes into characters, `none` standing for a maximal broken part. -/
def units : Nat → List UInt8 → List (Option Char)
  | 0, _ => []
  | _, [] => []
  | fuel + 1, b :: bs =>
    if b.toNat < 0x80 then some (Char.ofNat b.toNat) :: units fuel bs
    else
      match lead? b.toNat with
      | none => none :: units fuel bs
      | some l =>
        let (v, n, rest) := continuing l.following l.value l.low l.high bs
        (if n = l.following then some (Char.ofNat v) else none) :: units fuel rest

def decodeLossy (bs : List UInt8) : List Char :=
  (units bs.length bs).map fun u => u.getD '\uFFFD'

def decode? (bs : List UInt8) : Option (List Char) :=
  (units bs.length bs).mapM id

end MutationTesting.Text.Utf8
