import MutationTesting.Text.CharClass

/-!
# Texts in TOML

The leaves of a TOML document that hold text: blanks, comments, strings in their four forms, and
keys.  Every reader takes what is left of the document and gives back what it leaves.
-/

namespace MutationTesting.Settings.Toml

open MutationTesting.Text

/-- Why a document cannot be read. -/
inductive ReadError where
  | malformed
  /-- A whole number has too many digits. -/
  | longNumber
deriving DecidableEq, Repr

/-- What was read, and what is left. -/
abbrev Step (α : Type) := Except ReadError (α × List Char)

def isSpace (c : Char) : Bool := c == ' ' || c == '\t'

def isSpaceOrLineFeed (c : Char) : Bool := isSpace c || c == '\n'

/-- Control characters may not stand in comments and strings, except for tabs. -/
def isForbidden (c : Char) : Bool :=
  (decide (c.toNat < 0x20) || decide (c.toNat = 0x7F)) && c != '\t'

def skipSpaces (cs : List Char) : List Char := cs.dropWhile isSpace

/-- What follows a comment, if there is one: the end of its line. -/
def skipComment : List Char → Except ReadError (List Char)
  | '#' :: rest =>
    if (rest.takeWhile (· != '\n')).any isForbidden then .error .malformed
    else .ok (rest.dropWhile (· != '\n'))
  | cs => .ok cs

/-- What follows blanks, line ends and comments.  The flag says that a comment has begun. -/
def skipLines : Bool → List Char → Except ReadError (List Char)
  | _, [] => .ok []
  | true, c :: rest =>
    if c = '\n' then skipLines false rest
    else if isForbidden c then .error .malformed
    else skipLines true rest
  | false, c :: rest =>
    if isSpaceOrLineFeed c then skipLines false rest
    else if c = '#' then skipLines true rest
    else .ok (c :: rest)

/-- The document with a line feed alone for every pair of carriage return and line feed. -/
def withLineFeeds : List Char → List Char
  | '\r' :: '\n' :: rest => '\n' :: withLineFeeds rest
  | c :: rest => c :: withLineFeeds rest
  | [] => []

/-- The character that a letter after a backslash stands for. -/
def escaped? (c : Char) : Option Char :=
  if c = 'b' then some (Char.ofNat 8)
  else if c = 't' then some '\t'
  else if c = 'n' then some '\n'
  else if c = 'f' then some (Char.ofNat 12)
  else if c = 'r' then some '\r'
  else if c = '"' then some '"'
  else if c = '\\' then some '\\'
  else none

/-- The character with a code in hexadecimal digits. -/
def coded? (digits : List Char) : Option Char :=
  if digits.all fun c => (hexValue? c).isSome then
    let code := ofDigits 16 digits
    if code.isValidChar then some (Char.ofNat code)
    else none
  else none

/-- A text after its first character. -/
def withFirst (c : Char) (step : Step (List Char)) : Step (List Char) :=
  step.map fun (text, rest) => (c :: text, rest)

/-- A text after a character that may be missing for an error. -/
def withFirst? (c : Option Char) (step : Step (List Char)) : Step (List Char) :=
  match c with
  | some c => withFirst c step
  | none => .error .malformed

/-- The text up to the closing double quote, on one line. -/
def basicText : List Char → Step (List Char)
  | [] => .error .malformed
  | '"' :: rest => .ok ([], rest)
  | '\\' :: 'u' :: a :: b :: c :: d :: rest => withFirst? (coded? [a, b, c, d]) (basicText rest)
  | '\\' :: 'U' :: a :: b :: c :: d :: e :: f :: g :: h :: rest =>
    withFirst? (coded? [a, b, c, d, e, f, g, h]) (basicText rest)
  | '\\' :: c :: rest => withFirst? (escaped? c) (basicText rest)
  | c :: rest => if isForbidden c ∨ c = '\\' then .error .malformed else withFirst c (basicText rest)

/-- The text up to the closing apostrophe, on one line. -/
def literalText (cs : List Char) : Step (List Char) :=
  let content := cs.takeWhile (· != '\'')
  match cs.dropWhile (· != '\'') with
  | [] => .error .malformed
  | _ :: rest => if content.any isForbidden then .error .malformed else .ok (content, rest)

/-- What a reader of several lines does with blanks. -/
inductive BlankMode where
  /-- Blanks are part of the text. -/
  | kept
  /-- After a backslash only blanks may stand on the line. -/
  | lineEnd
  /-- Blanks are dropped up to the next other character. -/
  | dropped
deriving DecidableEq, Repr

/-- The text up to three closing double quotes. -/
def basicLines (mode : BlankMode) : List Char → Step (List Char)
  | [] => .error .malformed
  | c :: rest =>
    if mode = .lineEnd then
      if c = '\n' then basicLines .dropped rest
      else if isSpace c then basicLines .lineEnd rest
      else .error .malformed
    else if mode = .dropped ∧ isSpaceOrLineFeed c then basicLines .dropped rest
    else if c = '"' then
      match rest with
      | '"' :: '"' :: after => .ok ([], after)
      | _ => withFirst '"' (basicLines .kept rest)
    else if c = '\\' then
      match rest with
      | '\n' :: after => basicLines .dropped after
      | ' ' :: after => basicLines .lineEnd after
      | '\t' :: after => basicLines .lineEnd after
      | 'u' :: a :: b :: c :: d :: after =>
        withFirst? (coded? [a, b, c, d]) (basicLines .kept after)
      | 'U' :: a :: b :: c :: d :: e :: f :: g :: h :: after =>
        withFirst? (coded? [a, b, c, d, e, f, g, h]) (basicLines .kept after)
      | c :: after => withFirst? (escaped? c) (basicLines .kept after)
      | [] => .error .malformed
    else if isForbidden c ∧ c ≠ '\n' then .error .malformed
    else withFirst c (basicLines .kept rest)

/-- The text up to three closing apostrophes. -/
def literalLines : List Char → Step (List Char)
  | [] => .error .malformed
  | '\'' :: '\'' :: '\'' :: rest => .ok ([], rest)
  | c :: rest =>
    if isForbidden c ∧ c ≠ '\n' then .error .malformed else withFirst c (literalLines rest)

/-- Up to two quotes right before the three closing ones belong to the text. -/
def withLastQuotes (quote : Char) (text rest : List Char) : List Char × List Char :=
  match rest with
  | a :: b :: after =>
    if a = quote ∧ b = quote then (text ++ [quote, quote], after)
    else if a = quote then (text ++ [quote], b :: after)
    else (text, rest)
  | [a] => if a = quote then (text ++ [quote], []) else (text, rest)
  | [] => (text, rest)

/-- A line feed right after three opening quotes does not belong to the text. -/
def dropFirstLineFeed : List Char → List Char
  | '\n' :: rest => rest
  | cs => cs

/-- The string at the start of a text, if there is one. -/
def string? (cs : List Char) : Option (Step (List Char)) :=
  match cs with
  | '"' :: '"' :: '"' :: rest =>
    some ((basicLines .kept (dropFirstLineFeed rest)).map fun (text, rest) =>
      withLastQuotes '"' text rest)
  | '"' :: rest => some (basicText rest)
  | '\'' :: '\'' :: '\'' :: rest =>
    some ((literalLines (dropFirstLineFeed rest)).map fun (text, rest) =>
      withLastQuotes '\'' text rest)
  | '\'' :: rest => some (literalText rest)
  | _ => none

/-- The names from the outermost table down to a value. -/
abbrev Key := List String

def isBareKeyChar (c : Char) : Bool := isAsciiWord c || c == '-'

/-- One name of a key. -/
def keyPart (cs : List Char) : Step String :=
  match cs with
  | '"' :: rest => (basicText rest).map fun (text, rest) => (String.ofList text, rest)
  | '\'' :: rest => (literalText rest).map fun (text, rest) => (String.ofList text, rest)
  | _ =>
    match cs.takeWhile isBareKeyChar with
    | [] => .error .malformed
    | name => .ok (String.ofList name, cs.dropWhile isBareKeyChar)

/-- The names of a key with points between them, with blanks around each.  A key has at most
`bound` names. -/
def keyPath : Nat → List Char → Except ReadError (Key × List Char)
  | 0, _ => .error .malformed
  | bound + 1, cs => do
    let (name, rest) ← keyPart (skipSpaces cs)
    match skipSpaces rest with
    | '.' :: more =>
      let (names, rest) ← keyPath bound more
      pure (name :: names, rest)
    | rest => pure ([name], rest)

def key (cs : List Char) : Step Key := keyPath (cs.length + 1) cs

end MutationTesting.Settings.Toml
