import MutationTesting.Number.Decimal
import MutationTesting.Text.CharClass
import MutationTesting.Text.Utf8

/-!
# What simple commands write

Escapes and formats, as the commands `echo` and `printf` understand them.  Each of the two is part of
the shell and also a program of its own, with small differences.
-/

namespace MutationTesting.Shell

open MutationTesting.Text

def octalByte (digits : List Char) : UInt8 :=
  UInt8.ofNat (ofDigits 8 digits)

/-- The byte that a letter after a backslash stands for. -/
def escapedByte? (c : Char) : Option UInt8 :=
  if c = 'a' then some 7
  else if c = 'b' then some 8
  else if c = 'f' then some 12
  else if c = 'n' then some 10
  else if c = 'r' then some 13
  else if c = 't' then some 9
  else if c = 'v' then some 11
  else if c = '\\' then some 92
  else none

/-- Who reads an escape: the shell or a program, which knows some more, and whether it stands in an
argument, where the digits of a byte come after a zero. -/
structure Reader where
  isProgram : Bool
  inArgument : Bool
deriving DecidableEq, Repr

/-- The bytes of an escape that only programs know, and what follows. -/
def programEscape? (c : Char) (rest : List Char) : Option (List UInt8 × List Char) :=
  let hexDigits (count : Nat) := (rest.take count).takeWhile fun d => (digitIn? 16 d).isSome
  let character (count : Nat) : Option (List UInt8 × List Char) :=
    if (hexDigits count).length < count then none
    else some (Utf8.encodeChar (Char.ofNat (ofDigits 16 (hexDigits count))), rest.drop count)
  if c = 'e' then some ([27], rest)
  else if c = '"' then some ([34], rest)
  else if c = 'x' then
    if (hexDigits 2).isEmpty then none
    else some ([UInt8.ofNat (ofDigits 16 (hexDigits 2))], rest.drop (hexDigits 2).length)
  else if c = 'u' then character 4
  else if c = 'U' then character 8
  else none

/-- The bytes of an escape after its backslash, and what follows. -/
def escape (reader : Reader) (cs : List Char) : List UInt8 × List Char :=
  match cs with
  | [] => ([92], [])
  | c :: rest =>
    let digits := if reader.inArgument then (rest.take 3).takeWhile isOctalDigit
      else (cs.take 3).takeWhile isOctalDigit
    match escapedByte? c with
    | some b => ([b], rest)
    | none =>
      if reader.inArgument && c = '0' then ([octalByte digits], rest.drop digits.length)
      else if !reader.inArgument && !digits.isEmpty then
        ([octalByte digits], cs.drop digits.length)
      else
        ((if reader.isProgram then programEscape? c rest else none)).getD
          ([92] ++ Utf8.encodeChar c, rest)

/-- The bytes of a text with escapes.  `\c` ends all output.  The bound is above the length. -/
def unescaped (reader : Reader) : Nat → List Char → List UInt8 × Bool
  | 0, _ => ([], false)
  | _, [] => ([], false)
  | bound + 1, '\\' :: rest =>
    if rest.head? = some 'c' then ([], true)
    else
      let (bytes, rest) := escape reader rest
      let (more, ends) := unescaped reader bound rest
      (bytes ++ more, ends)
  | bound + 1, c :: rest =>
    let (more, ends) := unescaped reader bound rest
    (Utf8.encodeChar c ++ more, ends)

/-- A line with its escapes. -/
def escapedLine (isProgram endsLine : Bool) (words : List String) : List UInt8 :=
  let text := (String.intercalate " " words).toList
  let (bytes, ends) := unescaped ⟨isProgram, true⟩ (text.length + 1) text
  if ends || !endsLine then bytes else bytes ++ [10]

/-- What the `echo` of the shell writes: its words with blanks between them, escapes included. -/
def shellEcho : List String → List UInt8
  | "-n" :: words => escapedLine false false words
  | words => escapedLine false true words

/-- The letters of a word that sets options of the program `echo`. -/
def echoOptions? (word : String) : Option (List Char) :=
  match word.toList with
  | '-' :: c :: letters =>
    if (c :: letters).all "neE".toList.contains then some (c :: letters) else none
  | _ => none

/-- What the program `echo` writes.  It takes escapes for what they are unless asked to. -/
def programEcho (endsLine escapes : Bool) : List String → List UInt8
  | [] => if endsLine then [10] else []
  | word :: words =>
    match echoOptions? word with
    | some letters =>
      let lastChoice := letters.reverse.find? fun c => c == 'e' || c == 'E'
      programEcho (endsLine && !letters.contains 'n')
        (match lastChoice with
          | some c => c == 'e'
          | none => escapes) words
    | none =>
      if escapes then escapedLine true endsLine (word :: words)
      else
        let bytes := Utf8.encode (String.intercalate " " (word :: words)).toList
        if endsLine then bytes ++ [10] else bytes

/-- What a command has to say about its words. -/
inductive Remark where
  | noFormat
  | notNumeric (word : String)
  | notWhollyNumeric (word : String)
  | badDirective (directive : String)
  | unusedWords (first : String)
deriving DecidableEq, Repr

/-- What a directive asks for besides its letter. -/
structure Layout where
  flags : List Char := []
  width : Nat := 0
  places : Option Nat := none
deriving DecidableEq, Repr

namespace Layout

def has (l : Layout) (flag : Char) : Bool := l.flags.contains flag

/-- A text filled up with blanks to a width. -/
def padded (l : Layout) (cs : List Char) : List Char :=
  let blanks := List.replicate (l.width - cs.length) ' '
  if l.has '-' then cs ++ blanks else blanks ++ cs

/-- A sign and digits, filled up with zeros where that is asked for. -/
def number (l : Layout) (sign digits : List Char) : List Char :=
  let digits := match l.places with
    | some n => List.replicate (n - digits.length) '0' ++ digits
    | none =>
      if l.has '0' && !l.has '-' then
        List.replicate (l.width - sign.length - digits.length) '0' ++ digits
      else digits
  l.padded (sign ++ digits)

end Layout

/-- The digits of a number in a base up to sixteen. -/
def digitsIn (base : Nat) (n : Nat) : List Char := Nat.toDigits base n

/-- The whole number at the beginning of a text and what follows.  The digits may be of base sixteen or
eight, if they begin with `0x` or zero. -/
def wholeNumber (cs : List Char) : Option (Int × List Char) :=
  let cs := cs.dropWhile isBlank
  let (negative, cs) := match cs with
    | '-' :: rest => (true, rest)
    | '+' :: rest => (false, rest)
    | _ => (false, cs)
  let (base, cs) := match cs with
    | '0' :: x :: d :: rest =>
      if (x == 'x' || x == 'X') && (digitIn? 16 d).isSome then (16, d :: rest) else (8, cs)
    | '0' :: _ => (8, cs)
    | _ => (10, cs)
  let digits := cs.takeWhile fun c => (digitIn? base c).isSome
  if digits.isEmpty then none
  else
    let n := ofDigits base digits
    some (if negative then -(n : Int) else n, cs.drop digits.length)

/-- The number that a word stands for.  After a quote it is the code of a character. -/
def numberOfWord (word : String) : Int × List Remark :=
  match word.toList with
  | [] => (0, [])
  | mark :: rest =>
    if mark = '"' || mark = '\'' then (((rest.head?).getD '\x00').toNat, [])
    else
      match wholeNumber word.toList with
      | none => (0, [.notNumeric word])
      | some (n, []) => (n, [])
      | some (n, _) => (n, [.notWhollyNumeric word])

/-- How many numbers an unsigned number can be. -/
def unsignedRange : Int := Nat.pow 2 64

/-- What a format has written, and the words it has not used. -/
structure Formatted where
  bytes : List UInt8 := []
  words : List String
  /-- Whether any word was asked for. -/
  usesWords : Bool := false
  /-- Whether all output ends here. -/
  ends : Bool := false
  remarks : List Remark := []

/-- One word, put as a directive says, unless there is no such directive. -/
def directive? (isProgram : Bool) (l : Layout) (letter : Char) (word : String) :
    Option (List UInt8 × Bool × List Remark) :=
  let cs := word.toList
  let text (cs : List Char) := some (Utf8.encode cs, false, ([] : List Remark))
  if letter = 's' then
    text (l.padded (match l.places with
      | some n => cs.take n
      | none => cs))
  else if letter = 'c' then text (l.padded (cs.take 1))
  else if letter = 'b' then
    let (bytes, ends) := unescaped ⟨isProgram, true⟩ (cs.length + 1) cs
    some (bytes, ends, [])
  else
    let (n, remarks) := numberOfWord word
    let put (cs : List Char) := some (Utf8.encode cs, false, remarks)
    let unsigned := (n % unsignedRange).toNat
    if letter = 'd' || letter = 'i' then
      let sign := if n < 0 then ['-'] else if l.has '+' then ['+'] else if l.has ' ' then [' '] else []
      put (l.number sign (Decimal.digits n.natAbs))
    else if letter = 'u' then put (l.number [] (Decimal.digits unsigned))
    else if letter = 'o' then
      put (l.number (if l.has '#' then ['0'] else []) (digitsIn 8 unsigned))
    else if letter = 'x' then
      put (l.number (if l.has '#' then ['0', 'x'] else []) (digitsIn 16 unsigned))
    else if letter = 'X' then
      put (l.number (if l.has '#' then ['0', 'X'] else [])
        ((digitsIn 16 unsigned).map Char.toUpper))
    else none

/-- The layout at the beginning of a directive, what follows, and the words that are left. -/
def layoutOf (words : List String) (cs : List Char) : Layout × List Char × List String :=
  let isFlag (c : Char) := "-+ 0#".toList.contains c
  let flags := cs.takeWhile isFlag
  let count (words : List String) (cs : List Char) : Int × List Char × List String :=
    match cs with
    | '*' :: rest => ((numberOfWord ((words.head?).getD "")).1, rest, words.drop 1)
    | _ => (Decimal.toNat (cs.takeWhile isAsciiDigit), cs.dropWhile isAsciiDigit, words)
  let (width, cs, words) := count words (cs.dropWhile isFlag)
  let flags := if width < 0 then '-' :: flags else flags
  match cs with
  | '.' :: rest =>
    let (places, cs, words) := count words rest
    (⟨flags, width.natAbs, some places.toNat⟩, cs, words)
  | _ => (⟨flags, width.natAbs, none⟩, cs, words)

/-- A format applied once. -/
def formatOnce (isProgram : Bool) : Nat → List String → List Char → Formatted
  | 0, words, _ => { words }
  | _, words, [] => { words }
  | bound + 1, words, '\\' :: rest =>
    if rest.head? = some 'c' then { words, ends := true }
    else
      let (bytes, rest) := escape ⟨isProgram, false⟩ rest
      let more := formatOnce isProgram bound words rest
      { more with bytes := bytes ++ more.bytes }
  | bound + 1, words, '%' :: '%' :: rest =>
    let more := formatOnce isProgram bound words rest
    { more with bytes := 37 :: more.bytes }
  | bound + 1, words, '%' :: rest =>
    let (layout, after, words) := layoutOf words rest
    let bad := String.ofList ('%' :: (rest.take (rest.length - after.length) ++ after.take 1))
    match after with
    | [] => { words, ends := true, remarks := [.badDirective bad] }
    | letter :: rest =>
      match directive? isProgram layout letter ((words.head?).getD "") with
      | none => { words, ends := true, remarks := [.badDirective bad] }
      | some (bytes, true, remarks) =>
        { bytes, words := words.drop 1, usesWords := true, ends := true, remarks }
      | some (bytes, false, remarks) =>
        let more := formatOnce isProgram bound (words.drop 1) rest
        { more with
          bytes := bytes ++ more.bytes, usesWords := true, remarks := remarks ++ more.remarks }
  | bound + 1, words, c :: rest =>
    let more := formatOnce isProgram bound words rest
    { more with bytes := Utf8.encodeChar c ++ more.bytes }

/-- A format applied as often as there are words for it. -/
def formatted (isProgram : Bool) (format : List Char) : Nat → List String → List UInt8 × List Remark
  | 0, _ => ([], [])
  | bound + 1, words =>
    let once := formatOnce isProgram (format.length + 1) words format
    if once.ends || once.words.isEmpty then (once.bytes, once.remarks)
    else if !once.usesWords then
      (once.bytes, once.remarks ++ [.unusedWords ((once.words.head?).getD "")])
    else
      let (bytes, remarks) := formatted isProgram format bound once.words
      (once.bytes ++ bytes, once.remarks ++ remarks)

/-- What `printf` writes, and what it has to say about its words. -/
def printf (isProgram : Bool) : List String → List UInt8 × List Remark
  | [] => ([], [.noFormat])
  | format :: words => formatted isProgram format.toList (words.length + 1) words

/-- Whether a command has failed that makes a remark. -/
def Remark.isFailure : Remark → Bool
  | unusedWords _ => false
  | _ => true

/-- The remark as the shell makes it, if it makes it at all. -/
def Remark.ofShell? : Remark → Option String
  | noFormat => some "usage: printf format [arg ...]"
  | notNumeric word => some (word ++ ": expected numeric value")
  | notWhollyNumeric word => some (word ++ ": not completely converted")
  | badDirective directive => some (directive ++ ": invalid directive")
  | unusedWords _ => none

/-- The remark as the program makes it. -/
def Remark.ofProgram : Remark → String
  | noFormat => "missing operand\nTry 'printf --help' for more information."
  | notNumeric word => "'" ++ word ++ "': expected a numeric value"
  | notWhollyNumeric word => "'" ++ word ++ "': value not completely converted"
  | badDirective directive => directive ++ ": invalid conversion specification"
  | unusedWords first => "warning: ignoring excess arguments, starting with '" ++ first ++ "'"

end MutationTesting.Shell
