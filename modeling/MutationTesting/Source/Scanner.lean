import MutationTesting.Source.Numeral
import MutationTesting.Text.Normalize
import MutationTesting.Tree.Basic

/-!
# From text to tokens

The words of a source text are names, keywords, numbers, strings and punctuation, together with the
line ends and changes of indentation that structure it.

`tokens?` cuts a source text into tokens.  Outside brackets the margin of every line that is not
blank is compared with the margins of the enclosing blocks, and a change is reported as indentation
tokens.  The text is rejected when a margin matches no enclosing block, when tabs and spaces mix so
that the order of margins would depend on the width of a tab, when brackets do not match, and when
no token starts at some place.
-/

namespace MutationTesting.Source

/-! ## Tokens -/

/-- A string literal as written: its marks and the text between its quotes, not yet decoded. -/
structure StringToken where
  isBytes : Bool
  isRaw : Bool
  isFormatted : Bool
  /-- Whether the literal starts with a lower-case `u`, which the tree remembers. -/
  isMarkedText : Bool
  body : List Char
deriving DecidableEq, Repr

inductive Lexeme where
  /-- A name in normal form.  Only one that is written so can be a word of the grammar. -/
  | name (text : String) (isWrittenSo : Bool)
  | keyword (text : String)
  | number (value : Literal)
  | string (token : StringToken)
  | punctuation (text : String)
  | newline
  | indent
  | dedent
  | endOfText
deriving DecidableEq, Repr

structure Token where
  lexeme : Lexeme
  /-- The line on which the token starts. -/
  line : Nat
deriving DecidableEq, Repr

/-- The reserved words. -/
def keywords : List String :=
  ["False", "None", "True", "and", "as", "assert", "async", "await", "break", "class", "continue",
   "def", "del", "elif", "else", "except", "finally", "for", "from", "global", "if", "import", "in",
   "is", "lambda", "nonlocal", "not", "or", "pass", "raise", "return", "try", "while", "with",
   "yield"]

/-- Punctuation, the longer marks before those they start with. -/
def punctuationMarks : List String :=
  ["**=", "//=", ">>=", "<<=", "...", "!=", "->", "**", "*=", "+=", "-=", "//", "/=", ":=", "<<",
   "<=", "==", ">=", ">>", "@=", "&=", "|=", "^=", "%=", "(", ")", "[", "]", "\x7b", "\x7d", ",",
   ":", ".", ";", "@", "=", "+", "-", "*", "/", "%", "&", "|", "^", "~", "<", ">"]

/-! ## Lines and margins -/

open Text

/-- Line ends of every convention become line feeds. -/
def normalizeNewlines : List Char → List Char
  | '\r' :: '\n' :: rest => '\n' :: normalizeNewlines rest
  | '\r' :: rest => '\n' :: normalizeNewlines rest
  | c :: rest => c :: normalizeNewlines rest
  | [] => []

/-- The text with a line feed at its end. -/
def endWithNewline (cs : List Char) : List Char :=
  if cs.getLast? = some '\n' then cs else cs ++ ['\n']

/-- The lines of a source text, each with a line feed at its end.  A carriage return with a line feed
at the very end leaves an empty line behind it. -/
def sourceLines (cs : List Char) : List Char :=
  if ['\r', '\n'].isSuffixOf cs then normalizeNewlines cs ++ ['\n']
  else endWithNewline (normalizeNewlines cs)

/-- The margin of a line: its width with tab stops every eight columns, and its width with tabs
counted as one column. -/
structure Margin where
  width : Nat
  narrowWidth : Nat
deriving DecidableEq, Repr

/-- Reads the blanks at the start of a line.  A margin continued over several lines counts up to the
first break only. -/
def readMargin : List Char → Margin → Option Nat → Nat → Option (Margin × Nat × List Char)
  | ' ' :: cs, m, broken, line => readMargin cs ⟨m.width + 1, m.narrowWidth + 1⟩ broken line
  | '\t' :: cs, m, broken, line =>
    readMargin cs ⟨(m.width / 8 + 1) * 8, m.narrowWidth + 1⟩ broken line
  | '\x0c' :: cs, _, broken, line => readMargin cs ⟨0, 0⟩ broken line
  | '\\' :: '\n' :: c :: cs, m, broken, line =>
    readMargin (c :: cs) m (if broken.getD 0 = 0 then some m.width else broken) (line + 1)
  | '\\' :: _, _, _, _ => none
  | cs, m, broken, line =>
    match broken with
    | some (width + 1) => some (⟨width + 1, width + 1⟩, line, cs)
    | _ => some (m, line, cs)

/-- The most blocks that may be nested. -/
def maxMargins : Nat := 100

/-- The most brackets that may be nested. -/
def maxBrackets : Nat := 200

/-- Closes the blocks that are deeper than a margin; the margin must then equal an enclosing one. -/
def closeBlocks (m : Margin) : List Margin → Option (List Lexeme × List Margin)
  | [] => none
  | top :: below =>
    if m.width < top.width then
      (closeBlocks m below).map fun (closed, rest) => (.dedent :: closed, rest)
    else if m = top then some ([], top :: below)
    else none

/-- The indentation tokens for a line with margin `m` inside blocks with the given margins. -/
def indentation (m : Margin) (margins : List Margin) : Option (List Lexeme × List Margin) :=
  match margins with
  | [] => none
  | top :: _ =>
    if m.width = top.width then
      if m.narrowWidth = top.narrowWidth then some ([], margins) else none
    else if top.width < m.width then
      if maxMargins ≤ margins.length ∨ m.narrowWidth ≤ top.narrowWidth then none
      else some ([.indent], m :: margins)
    else closeBlocks m margins

/-- The body of a literal between single quote marks, and the text after it. -/
def shortBody (quote : Char) : List Char → Option (List Char × List Char)
  | '\\' :: c :: cs => (shortBody quote cs).map fun (body, rest) => ('\\' :: c :: body, rest)
  | c :: cs =>
    if c = quote then some ([], cs)
    else if c = '\n' ∨ c = '\\' then none
    else (shortBody quote cs).map fun (body, rest) => (c :: body, rest)
  | [] => none

/-- The body of a literal between triple quote marks, and the text after it. -/
def longBody (quote : Char) : List Char → Option (List Char × List Char)
  | '\\' :: c :: cs => (longBody quote cs).map fun (body, rest) => ('\\' :: c :: body, rest)
  | c :: cs =>
    if c = quote ∧ cs.head? = some quote ∧ (cs.drop 1).head? = some quote then some ([], cs.drop 2)
    else if c = '\\' then none
    else (longBody quote cs).map fun (body, rest) => (c :: body, rest)
  | [] => none

/-- A literal from its opening quote on. -/
def quotedBody : List Char → Option (List Char × List Char)
  | '"' :: '"' :: '"' :: cs => longBody '"' cs
  | '\'' :: '\'' :: '\'' :: cs => longBody '\'' cs
  | '"' :: cs => shortBody '"' cs
  | '\'' :: cs => shortBody '\'' cs
  | _ => none

def isQuote (c : Char) : Bool := c == '"' || c == '\''

/-- The marks in front of a literal, in lower case, and the text from its opening quote on. -/
def literalMarks : List Char → Option (List Char × List Char)
  | q :: rest =>
    if isQuote q then some ([], q :: rest)
    else
      match rest with
      | q' :: rest' =>
        if isQuote q' then
          if ['b', 'f', 'r', 'u'].contains q.toLower then some ([q.toLower], q' :: rest')
          else none
        else
          match rest' with
          | q'' :: rest'' =>
            if isQuote q'' ∧ [['b', 'r'], ['r', 'b'], ['f', 'r'], ['r', 'f']].contains
                [q.toLower, q'.toLower] then
              some ([q.toLower, q'.toLower], q'' :: rest'')
            else none
          | [] => none
      | [] => none
  | [] => none

/-- A string literal at the start of a text. -/
def scanString (cs : List Char) : Option (Option (StringToken × List Char)) :=
  match literalMarks cs with
  | none => none
  | some (marks, rest) =>
    some <| (quotedBody rest).map fun (body, after) =>
      (⟨marks.contains 'b', marks.contains 'r', marks.contains 'f', cs.head? = some 'u', body⟩, after)

/-- A name or keyword at the start of a text. -/
def scanWord (cs : List Char) : Option (Lexeme × List Char) :=
  let word := cs.takeWhile isNameChar
  let text := String.ofList word
  if keywords.contains text then some (.keyword text, cs.drop word.length)
  else if isIdentifier word then
    let normal := normalizeIdentifier word
    some (.name (String.ofList normal) (decide (normal = word)), cs.drop word.length)
  else none

/-- A punctuation mark at the start of a text. -/
def scanPunctuation (cs : List Char) : Option (Lexeme × List Char) :=
  (punctuationMarks.find? fun mark => mark.toList.isPrefixOf cs).map fun mark =>
    (.punctuation mark, cs.drop mark.length)

/-- The token at the start of a text that starts neither with a blank nor with a line end. -/
def scanLexeme (cs : List Char) : Option (Lexeme × List Char) :=
  match scanString cs with
  | some found => found.map fun (token, rest) => (.string token, rest)
  | none =>
    match cs with
    | [] => none
    | c :: rest =>
      if isAsciiDigit c ∨ (c = '.' ∧ rest.head?.any isAsciiDigit) then
        (scanNumeral cs).map fun (value, after) => (.number value, after)
      else if isNameChar c then scanWord cs
      else scanPunctuation cs

/-- The brackets that are open after a punctuation mark. -/
def updateBrackets (mark : String) (opened : List String) : Option (List String) :=
  match mark with
  | "(" => if maxBrackets ≤ opened.length then none else some (")" :: opened)
  | "[" => if maxBrackets ≤ opened.length then none else some ("]" :: opened)
  | "\x7b" => if maxBrackets ≤ opened.length then none else some ("\x7d" :: opened)
  | ")" | "]" | "\x7d" =>
    match opened with
    | expected :: outer => if expected = mark then some outer else none
    | [] => none
  | _ => some opened

/-- Skips blanks and joined lines inside a line. -/
def skipBlanks : List Char → Nat → Option (List Char × Nat)
  | ' ' :: cs, line | '\t' :: cs, line | '\x0c' :: cs, line => skipBlanks cs line
  | '\\' :: '\n' :: c :: cs, line => skipBlanks (c :: cs) (line + 1)
  | '\\' :: _, _ => none
  | cs, line => some (cs, line)

def countNewlines (cs : List Char) : Nat := cs.count '\n'

/-- A comment runs to the end of its line. -/
def skipComment (cs : List Char) : List Char :=
  if cs.head? = some '#' then cs.dropWhile (· != '\n') else cs

/-- The place of the scan: the text that is left, its line, the enclosing blocks and the brackets
still open. -/
structure Position where
  rest : List Char
  line : Nat
  margins : List Margin
  brackets : List String
  atLineStart : Bool
deriving Repr

/-- The tokens read at one place, and the next place, if the text goes on. -/
structure Step where
  tokens : List Token
  next : Option Position

/-- Reads the start of a line: blank lines are skipped, other lines may change the indentation. -/
def stepLineStart (p : Position) : Option Step :=
  match readMargin p.rest ⟨0, 0⟩ none p.line with
  | none => none
  | some (margin, line, cs) =>
    let isBlankLine := cs.head? = some '#' ∨ cs.head? = some '\n'
    if p.brackets ≠ [] ∨ isBlankLine then
      let cs := skipComment cs
      if p.brackets = [] then
        some ⟨[], some { p with rest := cs.drop 1, line := line + 1 }⟩
      else some ⟨[], some { p with rest := cs, line := line, atLineStart := false }⟩
    else
      match indentation margin p.margins with
      | none => none
      | some (changes, margins) =>
        some ⟨changes.map (⟨·, line⟩),
          some { p with rest := cs, line := line, margins := margins, atLineStart := false }⟩

/-- Reads one token, or the end of a line or of the text. -/
def stepToken (p : Position) : Option Step :=
  match skipBlanks p.rest p.line with
  | none => none
  | some (cs, line) =>
    match skipComment cs with
    | [] => if p.brackets = [] then some ⟨[⟨.endOfText, line⟩], none⟩ else none
    | '\n' :: cs =>
      let next : Position := { p with rest := cs, line := line + 1, atLineStart := true }
      if p.brackets = [] then some ⟨[⟨.newline, line⟩], some next⟩ else some ⟨[], some next⟩
    | cs =>
      match scanLexeme cs with
      | none => none
      | some (.punctuation mark, rest) =>
        (updateBrackets mark p.brackets).map fun brackets =>
          ⟨[⟨.punctuation mark, line⟩],
            some { p with rest := rest, line := line, brackets := brackets }⟩
      | some (lexeme, rest) =>
        let newLine := match lexeme with
          | .string token => line + countNewlines token.body
          | _ => line
        some ⟨[⟨lexeme, line⟩], some { p with rest := rest, line := newLine }⟩

/-- All tokens from a place on.  Every step reads a character or leaves the start of a line, so twice
the length of the text bounds their number. -/
def tokensFrom : Nat → Position → Option (List Token)
  | 0, _ => none
  | fuel + 1, p =>
    match if p.atLineStart then stepLineStart p else stepToken p with
    | none => none
    | some ⟨tokens, none⟩ => some tokens
    | some ⟨tokens, some next⟩ => (tokensFrom fuel next).map (tokens ++ ·)

/-- The tokens of a text whose first line has the given number. -/
def tokensAt? (line : Nat) (cs : List Char) : Option (List Token) :=
  let text := sourceLines cs
  tokensFrom (2 * text.length + 3) ⟨text, line, [⟨0, 0⟩], [], true⟩

def tokens? (cs : List Char) : Option (List Token) := tokensAt? 1 cs

end MutationTesting.Source
