import MutationTesting.Shell.Word

/-!
# Commands of the small shell

A script is read line by line, since the lines before a mistake are carried out.  `nextLine` reads
one line with all that its commands enclose.
-/

namespace MutationTesting.Shell

open MutationTesting.Text

inductive Direction where
  | input
  | output
  | append
  /-- Another stream takes the place of this one. -/
  | duplicate
deriving DecidableEq, Repr

/-- A stream that goes elsewhere. -/
structure Redirection where
  source : Nat
  direction : Direction
  target : Word
deriving DecidableEq, Repr

inductive Command where
  | nothing
  | simple (line : Nat) (assignments : List (String × Word)) (words : List Word)
      (redirections : List Redirection)
  | sequence (first second : Command)
  /-- The second command is carried out after success of the first, or after its failure. -/
  | guarded (onSuccess : Bool) (first second : Command)
  | negated (command : Command)
  /-- The second command reads what the first one writes. -/
  | piped (first second : Command)
  | background (command : Command)
  | branch (test body otherwise : Command)
  /-- A body repeated as long as a test succeeds, or as long as it fails. -/
  | loop (onSuccess : Bool) (test body : Command)
  /-- A body for each word, or for each word that the script was given. -/
  | each (name : String) (words : Option (List Word)) (body : Command)
  /-- A body for a subject that one of some patterns matches. -/
  | choice (subject : Word) (patterns : List Word) (body otherwise : Command)
  /-- A command whose changes stay its own. -/
  | apart (command : Command)
  | redirected (line : Nat) (command : Command) (redirections : List Redirection)
  | define (name : String) (body : Command)
deriving Repr

inductive Token where
  | word (w : Word)
  | operator (text : String)
  | redirection (source : Nat) (direction : Direction)
  | newline
  /-- A word that is never closed. -/
  | unclosed
  | finish
deriving DecidableEq, Repr

/-- Tokens with the number of the line that each is on. -/
abbrev Tokens := List (Nat × Token)

def operatorTexts : List String := ["&&", "||", ";;", ";", "&", "|", "(", ")"]

/-- The operators that send a stream elsewhere, and the stream if none is named. -/
def redirectionTexts : List (String × Direction × Nat) :=
  [(">>", .append, 1), (">&", .duplicate, 1), (">|", .output, 1), ("<&", .duplicate, 0),
    (">", .output, 1), ("<", .input, 0)]

def beginsWith (text : String) (cs : List Char) : Bool := text.toList.isPrefixOf cs

/-- The tokens of a script from a line on.  The bound is above its length. -/
def tokens : Nat → (line : Nat) → List Char → Tokens
  | 0, line, _ => [(line, .finish)]
  | _, line, [] => [(line, .finish)]
  | bound + 1, line, c :: rest =>
    if c = '\n' then (line, .newline) :: tokens bound (line + 1) rest
    else if isSpace c then tokens bound line rest
    else if c = '\\' && rest.head? = some '\n' then tokens bound (line + 1) (rest.drop 1)
    else if c = '#' then tokens bound line (rest.dropWhile (· != '\n'))
    else
      match redirectionTexts.find? fun entry => beginsWith entry.1 (c :: rest) with
      | some (text, direction, source) =>
        (line, .redirection source direction) ::
          tokens bound line ((c :: rest).drop text.length)
      | none =>
        match operatorTexts.find? fun text => beginsWith text (c :: rest) with
        | some text =>
          (line, .operator text) :: tokens bound line ((c :: rest).drop text.length)
        | none =>
          match extent? (rest.length + 2) (c :: rest) with
          | none => [(line, .unclosed)]
          | some (word, after) =>
            let named := redirectionTexts.find? fun entry => beginsWith entry.1 after
            match word, named with
            | [digit], some (text, direction, _) =>
              if isAsciiDigit digit then
                (line, .redirection (digit.toNat - 48) direction) ::
                  tokens bound line (after.drop text.length)
              else (line, .word word) :: tokens bound line after
            | _, _ =>
              (line, .word word) :: tokens bound (line + word.count '\n') after

/-- Why a script cannot be read. -/
structure Complaint where
  line : Nat
  text : String
deriving DecidableEq, Repr

/-- What has been read, and the tokens that follow. -/
abbrev Read (α : Type) := α × Tokens

/-- The words that the shell keeps for itself. -/
def reservedWords : List String :=
  ["!", "\x7b", "\x7d", "case", "do", "done", "elif", "else", "esac", "fi", "for", "if", "in",
    "then", "until", "while"]

def inMarks (text : String) : String := "\"" ++ text ++ "\""

def Token.shown : Token → String
  | word w => if reservedWords.contains (String.ofList w) then inMarks (String.ofList w) else "word"
  | operator text => inMarks text
  | redirection .. => "redirection"
  | newline => "newline"
  | unclosed => "word"
  | finish => "end of file"

/-- The complaint about the next token, with what stands there in a correct script. -/
def unexpected (ts : Tokens) (wanted : Option String) : Complaint :=
  match ts with
  | (line, .unclosed) :: _ => ⟨line, "Unterminated quoted string"⟩
  | (line, token) :: _ =>
    let hint := match wanted with
      | some text => " (expecting " ++ text ++ ")"
      | none => ""
    ⟨line, token.shown ++ " unexpected" ++ hint⟩
  | [] => ⟨1, "end of file unexpected"⟩

def skipNewlines : Tokens → Tokens
  | (_, .newline) :: rest => skipNewlines rest
  | ts => ts

/-- Whether the next token ends a list of commands. -/
def closesList : Tokens → Bool
  | (_, .word w) :: _ =>
    ["then", "else", "elif", "fi", "do", "done", "\x7d", "esac"].contains (String.ofList w)
  | (_, .operator text) :: _ => text == ")" || text == ";;"
  | (_, .finish) :: _ => true
  | [] => true
  | _ => false

/-- Takes a word that has to be next. -/
def expect (text : String) : Tokens → Except Complaint Tokens
  | (line, .word w) :: rest =>
    if String.ofList w = text then .ok rest
    else .error (unexpected ((line, .word w) :: rest) (some (inMarks text)))
  | ts => .error (unexpected ts (some (inMarks text)))

/-- Takes an operator that has to be next. -/
def expectOperator (text : String) : Tokens → Except Complaint Tokens
  | (line, .operator t) :: rest =>
    if t = text then .ok rest
    else .error (unexpected ((line, .operator t) :: rest) (some (inMarks text)))
  | ts => .error (unexpected ts (some (inMarks text)))

/-- The redirections that come next. -/
def redirections : Tokens → Except Complaint (Read (List Redirection))
  | (_, .redirection source direction) :: (_, .word target) :: rest => do
    let (others, rest) ← redirections rest
    pure (⟨source, direction, target⟩ :: others, rest)
  | (_, .redirection ..) :: ts => .error (unexpected ts (some "word"))
  | ts => .ok ([], ts)

/-- What a simple command has been found to hold. -/
structure Simple where
  assignments : List (String × Word) := []
  words : List Word := []
  redirections : List Redirection := []

/-- The simple command that comes next, after the part of it that has been read. -/
def simple (s : Simple) : Tokens → Except Complaint (Read Simple)
  | (_, .word w) :: rest =>
    match if s.words.isEmpty then assignment? w else none with
    | some (name, value) =>
      simple { s with assignments := s.assignments ++ [(name, value)] } rest
    | none => simple { s with words := s.words ++ [w] } rest
  | (_, .redirection source direction) :: (_, .word target) :: rest =>
    simple { s with redirections := s.redirections ++ [⟨source, direction, target⟩] } rest
  | (_, .redirection ..) :: ts => .error (unexpected ts (some "word"))
  | ts => .ok (s, ts)

/-- The words up to the end of a line. -/
def wordsOfLine : Tokens → List Word × Tokens
  | (_, .word w) :: rest =>
    let (words, rest) := wordsOfLine rest
    (w :: words, rest)
  | ts => ([], ts)

/-- The patterns in front of a body, with bars between them. -/
def patterns : Tokens → Except Complaint (Read (List Word))
  | (_, .word w) :: (_, .operator "|") :: rest => do
    let (others, rest) ← patterns rest
    pure (w :: others, rest)
  | (_, .word w) :: rest => do pure ([w], ← expectOperator ")" rest)
  | ts => .error (unexpected ts (some "word"))

/-- The line that a token is on. -/
def lineOf : Tokens → Nat
  | (line, _) :: _ => line
  | [] => 1

mutual

/-- Commands up to the end of a list, which has to hold some. -/
def body : Nat → Tokens → Except Complaint (Read Command)
  | 0, ts => .error (unexpected ts none)
  | bound + 1, ts =>
    let ts := skipNewlines ts
    if closesList ts then .error (unexpected ts none) else list bound ts

/-- Commands up to the end of a list. -/
def list : Nat → Tokens → Except Complaint (Read Command)
  | 0, ts => .error (unexpected ts none)
  | bound + 1, ts =>
    let ts := skipNewlines ts
    if closesList ts then .ok (.nothing, ts)
    else do
      let (first, ts) ← conditional bound ts
      match ts with
      | (_, .operator ";") :: rest =>
        let (more, rest) ← list bound rest
        pure (.sequence first more, rest)
      | (_, .operator "&") :: rest =>
        let (more, rest) ← list bound rest
        pure (.sequence (.background first) more, rest)
      | (_, .newline) :: rest =>
        let (more, rest) ← list bound rest
        pure (.sequence first more, rest)
      | _ => pure (first, ts)

/-- A pipeline, and those that depend on how it ends. -/
def conditional : Nat → Tokens → Except Complaint (Read Command)
  | 0, ts => .error (unexpected ts none)
  | bound + 1, ts => do
    let (first, ts) ← pipeline bound ts
    conditionalAfter bound first ts

/-- What depends on how a command ends that has been read. -/
def conditionalAfter : Nat → Command → Tokens → Except Complaint (Read Command)
  | 0, _, ts => .error (unexpected ts none)
  | bound + 1, first, ts =>
    match ts with
    | (_, .operator "&&") :: rest => do
      let (second, rest) ← pipeline bound (skipNewlines rest)
      conditionalAfter bound (.guarded true first second) rest
    | (_, .operator "||") :: rest => do
      let (second, rest) ← pipeline bound (skipNewlines rest)
      conditionalAfter bound (.guarded false first second) rest
    | _ => .ok (first, ts)

def pipeline : Nat → Tokens → Except Complaint (Read Command)
  | 0, ts => .error (unexpected ts none)
  | bound + 1, ts =>
    match ts with
    | (_, .word ['!']) :: rest => do
      let (command, rest) ← pipeline bound rest
      pure (.negated command, rest)
    | _ => do
      let (first, ts) ← command bound ts
      match ts with
      | (_, .operator "|") :: rest =>
        let (second, rest) ← pipeline bound (skipNewlines rest)
        pure (.piped first second, rest)
      | _ => pure (first, ts)

def command : Nat → Tokens → Except Complaint (Read Command)
  | 0, ts => .error (unexpected ts none)
  | bound + 1, ts =>
    let enclosed (read : Except Complaint (Read Command)) : Except Complaint (Read Command) := do
      let (c, rest) ← read
      let (targets, rest) ← redirections rest
      pure (if targets.isEmpty then c else .redirected (lineOf ts) c targets, rest)
    match ts with
    | (_, .operator "(") :: rest => enclosed do
      let (c, rest) ← body bound rest
      pure (.apart c, ← expectOperator ")" rest)
    | (_, .word ['\x7b']) :: rest => enclosed do
      let (c, rest) ← body bound rest
      pure (c, ← expect "\x7d" rest)
    | (line, .word w) :: rest =>
      let keyword := String.ofList w
      if keyword = "if" then enclosed (branches bound rest)
      else if keyword = "while" || keyword = "until" then enclosed do
        let (test, rest) ← body bound rest
        let (c, rest) ← body bound (← expect "do" rest)
        pure (.loop (keyword == "while") test c, ← expect "done" rest)
      else if keyword = "for" then enclosed (iteration bound rest)
      else if keyword = "case" then enclosed do
        match rest with
        | (_, .word subject) :: rest =>
          let (c, rest) ← cases bound subject (← expect "in" (skipNewlines rest))
          pure (c, ← expect "esac" rest)
        | _ => .error (unexpected rest (some "word"))
      else if reservedWords.contains keyword && keyword ≠ "in" then .error (unexpected ts none)
      else
        match rest with
        | (_, .operator "(") :: (_, .operator ")") :: rest => do
          let (c, rest) ← command bound (skipNewlines rest)
          pure (.define keyword c, rest)
        | _ => do
          let (s, rest) ← simple {} ts
          pure (.simple line s.assignments s.words s.redirections, rest)
    | (line, .redirection ..) :: _ => do
      let (s, rest) ← simple {} ts
      pure (.simple line s.assignments s.words s.redirections, rest)
    | _ => .error (unexpected ts none)

/-- The tests of a branching command with their bodies. -/
def branches : Nat → Tokens → Except Complaint (Read Command)
  | 0, ts => .error (unexpected ts none)
  | bound + 1, ts => do
    let (test, ts) ← body bound ts
    let (c, ts) ← body bound (← expect "then" ts)
    match ts with
    | (line, .word w) :: rest =>
      if w = "elif".toList then
        let (otherwise, rest) ← branches bound rest
        pure (.branch test c otherwise, rest)
      else if w = "else".toList then
        let (otherwise, rest) ← body bound rest
        pure (.branch test c otherwise, ← expect "fi" rest)
      else pure (.branch test c .nothing, ← expect "fi" ((line, .word w) :: rest))
    | _ => pure (.branch test c .nothing, ← expect "fi" ts)

/-- A loop over words, after its first word. -/
def iteration : Nat → Tokens → Except Complaint (Read Command)
  | 0, ts => .error (unexpected ts none)
  | bound + 1, ts =>
    match ts with
    | (line, .word name) :: rest => do
      if !(name.all isAsciiWord && !(name.take 1).all isAsciiDigit) then
        throw ⟨line, "Bad for loop variable"⟩
      let (words, rest) ← match skipNewlines rest with
        | (_, .word w) :: more =>
          if w = "in".toList then
            let (words, more) := wordsOfLine more
            match more with
            | (_, .operator ";") :: more => pure (some words, skipNewlines more)
            | (_, .newline) :: more => pure (some words, skipNewlines more)
            | _ => throw (unexpected more none)
          else pure (none, skipNewlines rest)
        | (_, .operator ";") :: more => pure (none, skipNewlines more)
        | more => throw (unexpected more (some (inMarks "do")))
      let (c, rest) ← body bound (← expect "do" rest)
      pure (.each (String.ofList name) words c, ← expect "done" rest)
    | _ => .error (unexpected ts none)

/-- The bodies of a choice with their patterns. -/
def cases : Nat → Word → Tokens → Except Complaint (Read Command)
  | 0, _, ts => .error (unexpected ts none)
  | bound + 1, subject, ts =>
    let ts := skipNewlines ts
    match ts with
    | (_, .word ['e', 's', 'a', 'c']) :: _ => .ok (.nothing, ts)
    | _ => do
      let opened := match ts with
        | (_, .operator "(") :: rest => rest
        | _ => ts
      let (found, rest) ← patterns opened
      let (c, rest) ← list bound rest
      match rest with
      | (_, .operator ";;") :: rest =>
        let (otherwise, rest) ← cases bound subject rest
        pure (.choice subject found c otherwise, rest)
      | _ => pure (.choice subject found c .nothing, rest)

end

/-- The commands up to the end of a line.  The bound is above the number of tokens. -/
def restOfLine : Nat → Tokens → Except Complaint (Read Command)
  | 0, ts => .error (unexpected ts none)
  | bound + 1, ts =>
    match ts with
    | (_, .newline) :: rest => .ok (.nothing, rest)
    | (_, .finish) :: _ => .ok (.nothing, ts)
    | _ => do
      let (first, ts) ← conditional (8 * ts.length + 8) ts
      match ts with
      | (_, .operator ";") :: rest =>
        let (more, rest) ← restOfLine bound rest
        pure (.sequence first more, rest)
      | (_, .operator "&") :: rest =>
        let (more, rest) ← restOfLine bound rest
        pure (.sequence (.background first) more, rest)
      | (_, .newline) :: rest => pure (first, rest)
      | (_, .finish) :: _ => pure (first, ts)
      | _ => .error (unexpected ts none)

/-- The next line of a script with all that its commands enclose, unless the script has ended. -/
def nextLine (ts : Tokens) : Except Complaint (Option (Command × Tokens)) :=
  match skipNewlines ts with
  | [] => .ok none
  | (_, .finish) :: _ => .ok none
  | ts => (restOfLine (ts.length + 1) ts).map some

end MutationTesting.Shell
