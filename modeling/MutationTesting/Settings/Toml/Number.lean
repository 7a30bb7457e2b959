import MutationTesting.Settings.Toml.Text
import MutationTesting.Settings.Value

/-!
# Numbers, dates and times in TOML

Each reader takes the longest prefix of a text that it can read; what must not follow is found by
the reader of the document, which expects the end of the line.
-/

namespace MutationTesting.Settings.Toml

open MutationTesting.Text

/-- Digits with single underscores between them, after a first digit. -/
def moreDigits (isDigit : Char → Bool) : List Char → List Char × List Char
  | '_' :: c :: rest =>
    if isDigit c then
      let (digits, rest) := moreDigits isDigit rest
      (c :: digits, rest)
    else ([], '_' :: c :: rest)
  | c :: rest =>
    if isDigit c then
      let (digits, rest) := moreDigits isDigit rest
      (c :: digits, rest)
    else ([], c :: rest)
  | [] => ([], [])

/-- Digits with single underscores between them, if the text starts with a digit. -/
def digits? (isDigit : Char → Bool) : List Char → Option (List Char × List Char)
  | c :: rest =>
    if isDigit c then
      let (digits, rest) := moreDigits isDigit rest
      some (c :: digits, rest)
    else none
  | [] => none

/-- A whole number after the mark of its base. -/
def based? (base : Nat) (cs : List Char) : Option (Value × List Char) :=
  (digits? (fun c => (digitIn? base c).isSome) cs).map fun (digits, rest) =>
    (.whole (ofDigits base digits), rest)

/-- The digits of a fraction with its point, if the text starts with one. -/
def fraction (cs : List Char) : Option (List Char) × List Char :=
  match cs with
  | '.' :: more =>
    match digits? isAsciiDigit more with
    | some (digits, rest) => (some digits, rest)
    | none => (none, cs)
  | _ => (none, cs)

/-- A sign and what follows it. -/
def sign : List Char → Option Bool × List Char
  | '-' :: rest => (some true, rest)
  | '+' :: rest => (some false, rest)
  | cs => (none, cs)

/-- An exponent with its mark, if the text starts with one. -/
def exponent (cs : List Char) : Option Int × List Char :=
  match cs with
  | mark :: more =>
    if mark = 'e' ∨ mark = 'E' then
      let (negative, more) := sign more
      match digits? isAsciiDigit more with
      | some (digits, rest) =>
        let n : Int := Decimal.toNat digits
        (some (if negative = some true then -n else n), rest)
      | none => (none, cs)
    else (none, cs)
  | [] => (none, [])

/-- The digits before the point: a zero alone, or digits that start with another one. -/
def wholeDigits? : List Char → Option (List Char × List Char)
  | '0' :: rest => some (['0'], rest)
  | cs => digits? isAsciiDigit cs

/-- A number in decimal.  It is a whole number if it has neither a fraction nor an exponent. -/
def decimal? (cs : List Char) : Option (Step Value) :=
  let (negative, cs) := sign cs
  let negative := negative = some true
  (wholeDigits? cs).map fun (whole, rest) =>
    let (places, rest) := fraction rest
    let (power, rest) := exponent rest
    if places.isNone && power.isNone then
      if Decimal.maxDigits < whole.length then .error .longNumber
      else
        let n : Int := Decimal.toNat whole
        .ok (.whole (if negative then -n else n), rest)
    else
      let places := places.getD []
      let value := Binary64.ofDecimal negative (Decimal.toNat (whole ++ places))
        (power.getD 0 - places.length)
      .ok (.real value, rest)

/-- A number that is written with digits. -/
def number? (cs : List Char) : Option (Step Value) :=
  let marked := match cs with
    | '0' :: 'x' :: rest => based? 16 rest
    | '0' :: 'o' :: rest => based? 8 rest
    | '0' :: 'b' :: rest => based? 2 rest
    | _ => none
  match marked with
  | some found => some (.ok found)
  | none => decimal? cs

/-- A number that is written with letters: infinite or undefined. -/
def special? (cs : List Char) : Option (Value × List Char) :=
  let (negative, rest) := sign cs
  match rest with
  | 'i' :: 'n' :: 'f' :: rest => some (.real (.infinite (negative = some true)), rest)
  | 'n' :: 'a' :: 'n' :: rest => some (.real .undefined, rest)
  | _ => none

/-- A number of two digits within bounds. -/
def twoDigits? (least most : Nat) (a b : Char) : Option Nat :=
  if isAsciiDigit a && isAsciiDigit b then
    let n := Decimal.toNat [a, b]
    if least ≤ n ∧ n ≤ most then some n else none
  else none

/-- A fraction of a second, cut after six digits. -/
def microseconds (cs : List Char) : Nat × List Char :=
  match cs with
  | '.' :: more =>
    match more.takeWhile isAsciiDigit with
    | [] => (0, cs)
    | digits =>
      let kept := digits.take 6
      (Decimal.toNat (kept ++ List.replicate (6 - kept.length) '0'), more.dropWhile isAsciiDigit)
  | _ => (0, cs)

/-- A time of day. -/
def time? : List Char → Option (TimeOfDay × List Char)
  | a :: b :: ':' :: c :: d :: ':' :: e :: f :: rest => do
    let hour ← twoDigits? 0 23 a b
    let minute ← twoDigits? 0 59 c d
    let second ← twoDigits? 0 59 e f
    let (microsecond, rest) := microseconds rest
    pure (⟨hour, minute, second, microsecond⟩, rest)
  | _ => none

/-- A day as it is written, whether there is such a day or not. -/
def day? : List Char → Option (CalendarDay × List Char)
  | a :: b :: c :: d :: '-' :: e :: f :: '-' :: g :: h :: rest =>
    if [a, b, c, d].all isAsciiDigit then do
      let month ← twoDigits? 1 12 e f
      let day ← twoDigits? 1 31 g h
      pure (⟨Decimal.toNat [a, b, c, d], month, day⟩, rest)
    else none
  | _ => none

/-- The distance from universal time in minutes, if it is given. -/
def offset (cs : List Char) : Option Int × List Char :=
  match cs with
  | 'Z' :: rest => (some 0, rest)
  | 'z' :: rest => (some 0, rest)
  | mark :: a :: b :: ':' :: c :: d :: rest =>
    match mark == '+' || mark == '-', twoDigits? 0 23 a b, twoDigits? 0 59 c d with
    | true, some hours, some minutes =>
      let n : Int := hours * 60 + minutes
      (some (if mark = '-' then -n else n), rest)
    | _, _, _ => (none, cs)
  | _ => (none, cs)

/-- A time after a day, if there is one. -/
def timeAfterDay? : List Char → Option (TimeOfDay × List Char)
  | mark :: rest => if mark = 'T' ∨ mark = 't' ∨ mark = ' ' then time? rest else none
  | [] => none

/-- A date, with or without a time, or a time alone. -/
def moment? (cs : List Char) : Option (Step Value) :=
  match day? cs with
  | some (day, rest) =>
    let (m, rest) : Moment × List Char := match timeAfterDay? rest with
      | some (time, rest) =>
        let (minutes, rest) := offset rest
        (.both day time minutes, rest)
      | none => (.day day, rest)
    some (if day.isOnCalendar then .ok (.moment m, rest) else .error .malformed)
  | none => (time? cs).map fun (time, rest) => .ok (.moment (.time time), rest)

end MutationTesting.Settings.Toml
