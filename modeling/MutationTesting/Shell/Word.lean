import MutationTesting.Text.CharClass

/-!
# Words of the small shell

A word is read in two steps.  `extent?` finds where it ends, which quotes and brackets decide;
`piecesOf` then says what its text stands for.
-/

namespace MutationTesting.Shell

open MutationTesting.Text

/-- A word as it is written. -/
abbrev Word := List Char

/-- What is done with the value of a parameter.  A text or pattern is itself written like a word. -/
inductive Form where
  | value
  /-- The number of characters. -/
  | size
  /-- A text in place of a missing value, which the parameter may keep.  An empty value can count as
  missing. -/
  | orElse (emptyCounts isKept : Bool) (text : Word)
  /-- A text in place of a value that is there. -/
  | ifSet (emptyCounts : Bool) (text : Word)
  /-- A value that has to be there, and what is said if it is not. -/
  | required (emptyCounts : Bool) (text : Word)
  /-- The value without what a pattern matches at one end. -/
  | trimmed (atEnd isLongest : Bool) (pattern : Word)
deriving DecidableEq, Repr

/-- A piece of a word.  What stands between quotes is never split. -/
inductive Piece where
  | text (cs : List Char) (isQuoted : Bool)
  | parameter (name : String) (form : Form) (isQuoted : Bool)
  /-- What a script writes. -/
  | written (script : List Char) (isQuoted : Bool)
  /-- The value of an arithmetic expression. -/
  | computed (expression : Word) (isQuoted : Bool)
deriving DecidableEq, Repr

namespace Piece

/-- The piece as it would be between quotes. -/
def quoted : Piece → Piece
  | text cs _ => text cs true
  | parameter name form _ => parameter name form true
  | written script _ => written script true
  | computed expression _ => computed expression true

end Piece

/-- A blank inside a line. -/
def isSpace (c : Char) : Bool := c == ' ' || c == '\t'

/-- A character that ends a word, unless it is quoted. -/
def endsWord (c : Char) : Bool := isSpace c || c == '\n' || ";&|()<>".toList.contains c

/-- What a character opens inside or outside of other brackets: the character that closes it, and how
many characters it takes to open it. -/
def opening? (inside : Option Char) (c : Char) (next : Option Char) : Option (Char × Nat) :=
  if inside = some '\'' then none
  else if c = '"' then (if inside = some '"' then none else some ('"', 1))
  else if c = '\'' then (if inside = some '"' then none else some ('\'', 1))
  else if c = '\x60' then (if inside = some '\x60' then none else some ('\x60', 1))
  else if c = '$' && next = some '(' then some (')', 2)
  else if c = '$' && next = some '\x7b' then some ('\x7d', 2)
  else if c = '(' && inside = some ')' then some (')', 1)
  else none

/-- The text up to where all that is open is closed, and what follows.  The closing characters that
are still to come are given, the innermost first. -/
def enclosed? : Nat → List Char → List Char → Option (List Char × List Char)
  | 0, _, _ => none
  | _, [], cs => some ([], cs)
  | _, _ :: _, [] => none
  | bound + 1, inner :: outer, c :: rest =>
    let goOn (taken : Nat) (closers : List Char) :=
      (enclosed? bound closers ((c :: rest).drop taken)).map fun (inside, after) =>
        ((c :: rest).take taken ++ inside, after)
    if c = '\\' && inner ≠ '\'' then goOn 2 (inner :: outer)
    else if c = inner then goOn 1 outer
    else
      match opening? (some inner) c rest.head? with
      | some (closer, taken) => goOn taken (closer :: inner :: outer)
      | none => goOn 1 (inner :: outer)

/-- The word at the beginning of a text and what follows, unless something in it is never closed. -/
def extent? : Nat → List Char → Option (Word × List Char)
  | 0, _ => none
  | _, [] => some ([], [])
  | bound + 1, c :: rest =>
    if endsWord c then some ([], c :: rest)
    else
      let goOn (taken : List Char) (after : List Char) :=
        (extent? bound after).map fun (word, after) => (taken ++ word, after)
      if c = '\\' then goOn (c :: rest.take 1) (rest.drop 1)
      else
        match opening? none c rest.head? with
        | some (closer, taken) =>
          (enclosed? (rest.length + 2) [closer] ((c :: rest).drop taken)).bind
            fun (inside, after) => goOn ((c :: rest).take taken ++ inside) after
        | none => goOn [c] rest

/-- A parameter that one character names. -/
def isSpecialName (c : Char) : Bool := "@*#?$!-".toList.contains c

/-- The name of a parameter at the beginning of a text, and what follows. -/
def parameterName : List Char → List Char × List Char
  | [] => ([], [])
  | c :: rest =>
    if isSpecialName c then ([c], rest)
    else if isAsciiDigit c then
      (c :: rest.takeWhile isAsciiDigit, rest.dropWhile isAsciiDigit)
    else ((c :: rest).takeWhile isAsciiWord, (c :: rest).dropWhile isAsciiWord)

/-- What follows the name of a parameter between braces. -/
def formOf? : List Char → Option Form
  | [] => some .value
  | c :: rest =>
    let (emptyCounts, c, rest) :=
      if c = ':' then (true, (rest.head?).getD ':', rest.drop 1) else (false, c, rest)
    if c = '-' then some (.orElse emptyCounts false rest)
    else if c = '=' then some (.orElse emptyCounts true rest)
    else if c = '+' then some (.ifSet emptyCounts rest)
    else if c = '?' then some (.required emptyCounts rest)
    else if emptyCounts then none
    else if c = '%' || c = '#' then
      if rest.head? = some c then some (.trimmed (c == '%') true (rest.drop 1))
      else some (.trimmed (c == '%') false rest)
    else none

/-- What stands between the braces of a parameter. -/
def braced? (inside : List Char) : Option (String × Form) :=
  match inside with
  | '#' :: c :: rest =>
    let (name, after) := parameterName (c :: rest)
    if after.isEmpty && !name.isEmpty then some (String.ofList name, .size)
    else (formOf? (c :: rest)).map ("#", ·)
  | _ =>
    let (name, after) := parameterName inside
    if name.isEmpty then none else (formOf? after).map (String.ofList name, ·)

/-- What a dollar sign begins, and what follows. -/
def expansion? (isQuoted : Bool) (cs : List Char) : Option (Piece × List Char) :=
  match cs with
  | [] => none
  | c :: rest =>
    if c = '\x7b' then do
      let (inside, after) ← enclosed? (rest.length + 1) ['\x7d'] rest
      let (name, form) ← braced? inside.dropLast
      pure (.parameter name form isQuoted, after)
    else if c = '(' then do
      let (inside, after) ← enclosed? (rest.length + 1) [')'] rest
      let script := inside.dropLast
      if script.head? = some '(' && script.getLast? = some ')' then
        pure (.computed (script.drop 1).dropLast isQuoted, after)
      else pure (.written script isQuoted, after)
    else if isAsciiDigit c then some (.parameter (String.ofList [c]) .value isQuoted, rest)
    else
      let (name, after) := parameterName cs
      if name.isEmpty then none
      else some (.parameter (String.ofList name) .value isQuoted, after)

/-- The script between two grave accents, with the escapes that hide them taken away. -/
def unescapedScript : List Char → List Char
  | '\\' :: c :: rest =>
    if c = '\x60' || c = '\\' || c = '$' then c :: unescapedScript rest
    else '\\' :: c :: unescapedScript rest
  | c :: rest => c :: unescapedScript rest
  | [] => []

/-- The pieces of a word.  The bound is above its length. -/
def piecesWithin : Nat → (inQuotes : Bool) → List Char → List Piece
  | 0, _, _ => []
  | _, _, [] => []
  | bound + 1, inQuotes, c :: rest =>
    let plain := .text [c] inQuotes :: piecesWithin bound inQuotes rest
    if c = '"' then .text [] true :: piecesWithin bound (!inQuotes) rest
    else if c = '\'' && !inQuotes then
      .text (rest.takeWhile (· != '\'')) true ::
        piecesWithin bound inQuotes ((rest.dropWhile (· != '\'')).drop 1)
    else if c = '\\' then
      match rest with
      | [] => [.text ['\\'] true]
      | d :: more =>
        let isHidden := !inQuotes || "\"\\$\x60".toList.contains d
        let shown := if isHidden then [d] else ['\\', d]
        if d = '\n' then piecesWithin bound inQuotes more
        else .text shown true :: piecesWithin bound inQuotes more
    else if c = '$' then
      match expansion? inQuotes rest with
      | some (piece, more) => piece :: piecesWithin bound inQuotes more
      | none => plain
    else if c = '\x60' then
      match enclosed? (rest.length + 1) ['\x60'] rest with
      | some (inside, more) =>
        .written (unescapedScript inside.dropLast) inQuotes :: piecesWithin bound inQuotes more
      | none => plain
    else plain

/-- The pieces of a word. -/
def piecesOf (inQuotes : Bool) (word : Word) : List Piece :=
  piecesWithin (word.length + 1) inQuotes word

/-- The name in front of the first equals sign of a word that sets a variable, and the value. -/
def assignment? (word : Word) : Option (String × Word) :=
  let name := word.takeWhile (· != '=')
  match word.dropWhile (· != '='), name with
  | _ :: value, c :: _ =>
    if name.all isAsciiWord && !isAsciiDigit c then some (String.ofList name, value) else none
  | _, _ => none

end MutationTesting.Shell
