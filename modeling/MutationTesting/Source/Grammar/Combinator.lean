import MutationTesting.Source.Scanner

/-!
# Reading tokens

A reader takes tokens from the front of a list and gives a result, or fails and takes none.  The
grammar is recursive; its productions take the readers of the recursive rules as an argument, so
each production is an ordinary definition and recursion is tied once, in `Source.Parse`.
-/

namespace MutationTesting.Source

/-- A reader of tokens. -/
abbrev Reader := StateT (List Token) Option

/-- The rules through which the grammar refers to itself. -/
inductive Rule where
  | expression
  | disjunction
  | inversion
  | bitOr
  | factor
  | primary
  | pattern
  | block
  | statement
deriving DecidableEq, Repr

/-- Readers for the recursive rules. -/
abbrev Rules := Rule → Reader Tree

namespace Reader

variable {α β : Type}

/-- Fails without reading. -/
def fail : Reader α := fun _ => none

/-- The next lexeme, not taken. -/
def peek : Reader Lexeme := fun ts =>
  match ts with
  | [] => some (.endOfText, ts)
  | t :: _ => some (t.lexeme, ts)

/-- The line of the next token. -/
def line : Reader Nat := fun ts =>
  match ts with
  | [] => some (0, ts)
  | t :: _ => some (t.line, ts)

/-- Takes the next token if its lexeme is the given one. -/
def take (lexeme : Lexeme) : Reader Unit := fun ts =>
  match ts with
  | [] => none
  | t :: rest => if t.lexeme = lexeme then some ((), rest) else none

def mark (text : String) : Reader Unit := take (.punctuation text)

def word (text : String) : Reader Unit := take (.keyword text)

/-- A word that is reserved only where the grammar asks for it. -/
def softWord (text : String) : Reader Unit := take (.name text true)

/-- Any name. -/
def name : Reader String := fun ts =>
  match ts with
  | ⟨.name text _, _⟩ :: rest => some (text, rest)
  | _ => none

/-- Takes the next token if its lexeme is the given one, and says whether it did. -/
def taken (lexeme : Lexeme) : Reader Bool := fun ts =>
  match ts with
  | [] => some (false, ts)
  | t :: rest => if t.lexeme = lexeme then some (true, rest) else some (false, ts)

def markTaken (text : String) : Reader Bool := taken (.punctuation text)

def wordTaken (text : String) : Reader Bool := taken (.keyword text)

/-- The first of the marks that comes next, taken. -/
def oneOfMarks (texts : List String) : Reader String := fun ts =>
  match ts with
  | ⟨.punctuation text, _⟩ :: rest => if texts.contains text then some (text, rest) else none
  | _ => none

/-- Succeeds, without reading, if the next lexeme satisfies a test. -/
def expect (test : Lexeme → Bool) : Reader Unit := fun ts =>
  if test ((ts.head?.map Token.lexeme).getD .endOfText) then some ((), ts) else none

def isMark (texts : List String) : Lexeme → Bool
  | .punctuation text => texts.contains text
  | _ => false

def isWord (texts : List String) : Lexeme → Bool
  | .keyword text => texts.contains text
  | _ => false

/-- The first reader, or the second where the first fails. -/
def either (p q : Reader α) : Reader α := fun ts =>
  match p ts with
  | some r => some r
  | none => q ts

/-- The result of a reader if it succeeds. -/
def optional (p : Reader α) : Reader (Option α) := fun ts =>
  match p ts with
  | some (a, rest) => some (some a, rest)
  | none => some (none, ts)

/-- Reads as often as possible, at most `n` times. -/
def upTo : Nat → Reader α → Reader (List α)
  | 0, _ => pure []
  | n + 1, p => fun ts =>
    match p ts with
    | none => some ([], ts)
    | some (a, rest) =>
      match upTo n p rest with
      | none => none
      | some (as, rest) => some (a :: as, rest)

/-- Reads as often as possible. -/
def many (p : Reader α) : Reader (List α) := fun ts => upTo ts.length p ts

/-- Reads at least once. -/
def many1 (p : Reader α) : Reader (List α) := do
  let a ← p
  let as ← many p
  pure (a :: as)

/-- Items with a separator between them, at least one. -/
def sepBy1 (p : Reader α) (separator : Reader Unit) : Reader (List α) := do
  let a ← p
  let as ← many (do separator; p)
  pure (a :: as)

/-- Items with commas between them, at least one, and whether a comma follows the last. -/
def commaList (p : Reader α) : Reader (List α × Bool) := do
  let items ← sepBy1 p (mark ",")
  let trailing ← markTaken ","
  pure (items, trailing)

end Reader

/-- A node at a line. -/
def node (kind : Kind) (line : Nat) (fields : List Tree) : Tree := .node kind line fields

/-- A node without fields or a line of its own. -/
def leaf (kind : Kind) : Tree := .node kind 0 []

def loadUsage : Tree := leaf (.usage .load)
def storeUsage : Tree := leaf (.usage .store)
def deleteUsage : Tree := leaf (.usage .delete)

def nameNode (line : Nat) (text : String) (usage : Tree) : Tree :=
  node .name line [.text text, usage]

def constantNode (line : Nat) (value : Literal) : Tree :=
  node .constant line [.literal value, .absent]

def textOrAbsent : Option String → Tree
  | some s => .text s
  | none => .absent

def treeOrAbsent (t : Option Tree) : Tree := t.getD .absent

end MutationTesting.Source
