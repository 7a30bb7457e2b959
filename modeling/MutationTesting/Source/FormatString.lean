import MutationTesting.Source.StringLiteral

/-!
# Formatted strings

A formatted string is literal text with replacement fields in braces.  The scans here find where a
piece of text and where the expression of a field end; they look at quotes and brackets only and
leave the expression itself to the grammar.
-/

namespace MutationTesting.Source

def openBrace : Char := '\x7b'
def closeBrace : Char := '\x7d'

/-- The end of a piece of literal text. -/
inductive TextEnd where
  /-- A doubled brace: the text goes on after it. -/
  | doubledBrace
  /-- The end of the string, or a single brace. -/
  | stop
deriving DecidableEq, Repr

/-- A piece of literal text, how it ends and the rest from there on.  Braces are doubled at the top
level only; inside a character name in an escape they have no meaning. -/
def scanText (isRaw isTop : Bool) : Bool → List Char → Option (List Char × TextEnd × List Char)
  | _, [] => some ([], .stop, [])
  | true, c :: cs =>
    (scanText isRaw isTop (c != closeBrace) cs).map fun (text, ending, rest) => (c :: text, ending, rest)
  | false, [c] =>
    if c = openBrace then some ([], .stop, [c])
    else if c = closeBrace then (if isTop then none else some ([], .stop, [c]))
    else some ([c], .stop, [])
  | false, c :: d :: cs =>
    if c = '\\' ∧ !isRaw ∧ d ≠ openBrace ∧ d ≠ closeBrace then
      let inName := d == 'N' && cs.head? == some openBrace
      (scanText isRaw isTop inName cs).map fun (text, ending, rest) =>
        (c :: d :: text, ending, rest)
    else if c = openBrace ∨ c = closeBrace then
      if isTop ∧ d = c then some ([c], .doubledBrace, cs)
      else if isTop ∧ c = closeBrace then none
      else some ([], .stop, c :: d :: cs)
    else
      (scanText isRaw isTop false (d :: cs)).map fun (text, ending, rest) => (c :: text, ending, rest)

/-- Where the scan of an expression is: inside a string, or in open brackets. -/
structure FieldState where
  /-- The quote of the surrounding string and whether it is a triple one. -/
  inString : Option (Char × Bool)
  brackets : List Char
deriving DecidableEq, Repr

def closingBracket (c : Char) : Char :=
  if c = '(' then ')' else if c = '[' then ']' else closeBrace

/-- Whether the mark at the start of `rest` after `c` makes a comparison of two characters. -/
def isTwoCharComparison (c : Char) (rest : List Char) : Bool :=
  (c == '!' || c == '=' || c == '<' || c == '>') && rest.head? == some '='

/-- The text of a field's expression and the rest from its end mark on.  `skip` characters are
part of a mark already recognised.  An expression holds neither a backslash nor a comment. -/
def scanField : Nat → FieldState → List Char → Option (List Char × List Char)
  | _, _, [] => none
  | skip, state, c :: cs =>
    let goOn (skip : Nat) (next : FieldState) : Option (List Char × List Char) :=
      (scanField skip next cs).map fun (text, rest) => (c :: text, rest)
    match skip with
    | n + 1 => if c = '\\' then none else goOn n state
    | 0 =>
      if c = '\\' then none
      else
        let tripled := cs.head? == some c && (cs.drop 1).head? == some c
        match state.inString with
        | some (quote, isTriple) =>
          if c = quote then
            if isTriple then
              if tripled then goOn 2 { state with inString := none } else goOn 0 state
            else goOn 0 { state with inString := none }
          else goOn 0 state
        | none =>
          if c = '\'' ∨ c = '"' then
            if tripled then goOn 2 { state with inString := some (c, true) }
            else goOn 0 { state with inString := some (c, false) }
          else if c = '(' ∨ c = '[' ∨ c = openBrace then
            if 200 ≤ state.brackets.length then none
            else goOn 0 { state with brackets := closingBracket c :: state.brackets }
          else if c = '#' then none
          else if state.brackets = [] ∧
              (c = '!' ∨ c = ':' ∨ c = closeBrace ∨ c = '=' ∨ c = '<' ∨ c = '>') then
            if isTwoCharComparison c cs then goOn 1 state
            else if c = '<' ∨ c = '>' then goOn 0 state
            else some ([], c :: cs)
          else if c = ')' ∨ c = ']' ∨ c = closeBrace then
            match state.brackets with
            | [] => none
            | expected :: outer =>
              if c = expected then goOn 0 { state with brackets := outer } else none
          else goOn 0 state

/-- The blanks that may surround the expression of a field. -/
def isFieldBlank (c : Char) : Bool :=
  c == ' ' || c == '\t' || c == '\n' || c == '\x0c' || c == '\x0b' || c == '\r'

/-- A replacement field up to its format specification. -/
structure Field where
  expression : List Char
  /-- The text shown before the value when the field asks for it with `=`. -/
  shown : Option (List Char)
  conversion : Option Char
deriving Repr

/-- The field after its opening brace, and the rest from a colon or the closing brace on. -/
def scanFieldHead (cs : List Char) : Option (Field × List Char) :=
  match scanField 0 ⟨none, []⟩ cs with
  | none => none
  | some (text, rest) =>
    if text.all (fun c => c == ' ' || c == '\t' || c == '\n' || c == '\x0c') then none
    else
      let (shown, rest) := match rest with
        | '=' :: after =>
          let blanks := after.takeWhile isFieldBlank
          (some (text ++ '=' :: blanks), after.drop blanks.length)
        | _ => (none, rest)
      match rest with
      | '!' :: c :: after =>
        if c = 's' ∨ c = 'r' ∨ c = 'a' then some (⟨text, shown, some c⟩, after) else none
      | _ => some (⟨text, shown, none⟩, rest)

end MutationTesting.Source
