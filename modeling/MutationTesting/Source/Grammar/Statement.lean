import MutationTesting.Source.Grammar.Pattern

/-!
# The grammar of statements

A line holds simple statements with semicolons between them; a compound statement has a head that
ends in a colon and a block, which is either the rest of the line or the indented lines below it.
-/

namespace MutationTesting.Source

open Reader

variable (rules : Rules)

/-! ## Simple statements -/

/-- The value on the right of an assignment. -/
def assignedValue : Reader Tree := do
  if isWord ["yield"] (← peek) then yieldExpression rules else starExpressions rules

def augmentedMarks : List (String × BinaryOperator) :=
  [("+=", .add), ("-=", .sub), ("*=", .mult), ("@=", .matMult), ("/=", .div), ("%=", .mod),
   ("&=", .bitAnd), ("|=", .bitOr), ("^=", .bitXor), ("<<=", .leftShift), (">>=", .rightShift),
   ("**=", .pow), ("//=", .floorDiv)]

/-- A name, attribute or subscript: what an annotated or augmented assignment can assign to. -/
def singleTarget? (t : Tree) : Option Tree :=
  if t.isKind .name || t.isKind .attribute || t.isKind .subscript then
    asTarget? storeUsage false t
  else none

/-- The values after each `=` of an assignment, the last being the assigned one. -/
def assignmentChain : Reader (List Tree) :=
  many1 (do mark "="; assignedValue rules)

/-- A statement that starts with an expression: an assignment of one of three forms, or the
expression alone. -/
def expressionOrAssignment : Reader Tree := do
  let l ← line
  let startsWithName := match ← peek with
    | .name _ _ => true
    | _ => false
  let value ← starExpressions rules
  match ← peek with
  | .punctuation ":" =>
    mark ":"
    let target ← orFail (singleTarget? value)
    let hint ← rules .expression
    let assigned ← (do
      if ← markTaken "=" then
        let v ← assignedValue rules
        pure (some v)
      else pure none)
    let isSimple := startsWithName && target.isKind .name
    pure (node .annotatedAssign l
      [target, hint, treeOrAbsent assigned, .number (if isSimple then 1 else 0)])
  | .punctuation "=" =>
    let chain ← assignmentChain rules
    let sides := value :: chain
    let targets ← orFail (asTargets? storeUsage true sides.dropLast)
    pure (node .assign l [.list targets, sides.getLastD .absent])
  | .punctuation text =>
    match augmentedMarks.lookup text with
    | some op =>
      mark text
      let target ← orFail (singleTarget? value)
      let operand ← assignedValue rules
      pure (node .augmentedAssign l [target, leaf (.binary op), operand])
    | none => pure (node .expressionStatement l [value])
  | _ => pure (node .expressionStatement l [value])

/-- A dotted name `a.b.c` as one text. -/
def dottedName : Reader String := do
  let parts ← sepBy1 name (mark ".")
  pure (String.intercalate "." parts)

def importAlias (target : Reader String) : Reader Tree := do
  let l ← line
  let x ← target
  if ← wordTaken "as" then
    let y ← name
    pure (node .alias l [.text x, .text y])
  else pure (node .alias l [.text x, .absent])

def importStatement : Reader Tree := do
  let l ← line
  word "import"
  let names ← sepBy1 (importAlias dottedName) (mark ",")
  pure (node .importStatement l [.list names])

/-- The names taken from a module: all of them, or a list that may be bracketed. -/
def importedNames : Reader (List Tree) := do
  let l ← line
  if ← markTaken "*" then pure [node .alias l [.text "*", .absent]]
  else if ← markTaken "(" then
    let (names, _) ← commaList (importAlias name)
    mark ")"
    pure names
  else sepBy1 (importAlias name) (mark ",")

def leadingDots : Reader Nat := do
  let dots ← many (oneOfMarks [".", "..."])
  pure (dots.foldr (fun dot level => dot.length + level) 0)

def importFrom : Reader Tree := do
  let l ← line
  word "from"
  let level ← leadingDots
  let module ← Reader.optional dottedName
  if level = 0 ∧ module.isNone then Reader.fail
  else
    word "import"
    let names ← importedNames
    pure (node .importFrom l [textOrAbsent module, .list names, .number level])

def returnStatement : Reader Tree := do
  let l ← line
  word "return"
  let value ← Reader.optional (starExpressions rules)
  pure (node .returnStatement l [treeOrAbsent value])

def raiseStatement : Reader Tree := do
  let l ← line
  word "raise"
  match ← Reader.optional (rules .expression) with
  | none => pure (node .raiseStatement l [.absent, .absent])
  | some raised =>
    if ← wordTaken "from" then
      let cause ← rules .expression
      pure (node .raiseStatement l [raised, cause])
    else pure (node .raiseStatement l [raised, .absent])

def assertStatement : Reader Tree := do
  let l ← line
  word "assert"
  let test ← rules .expression
  if ← markTaken "," then
    let message ← rules .expression
    pure (node .assertStatement l [test, message])
  else pure (node .assertStatement l [test, .absent])

def deleteStatement : Reader Tree := do
  let l ← line
  word "del"
  let (values, _) ← commaList (rules .primary)
  let targets ← orFail (asTargets? deleteUsage false values)
  pure (node .deleteStatement l [.list targets])

/-- A `global` or `nonlocal` statement with its names. -/
def scopeStatement (keyword : String) (kind : Kind) : Reader Tree := do
  let l ← line
  word keyword
  let names ← sepBy1 name (mark ",")
  pure (node kind l [.list (names.map .text)])

/-- A statement that is a single keyword. -/
def wordStatement (keyword : String) (kind : Kind) : Reader Tree := do
  let l ← line
  word keyword
  pure (node kind l [])

def simpleStatement : Reader Tree := do
  let l ← line
  match ← peek with
  | .keyword "return" => returnStatement rules
  | .keyword "import" => importStatement
  | .keyword "from" => importFrom
  | .keyword "raise" => raiseStatement rules
  | .keyword "pass" => wordStatement "pass" .passStatement
  | .keyword "del" => deleteStatement rules
  | .keyword "yield" =>
    let value ← yieldExpression rules
    pure (node .expressionStatement l [value])
  | .keyword "assert" => assertStatement rules
  | .keyword "break" => wordStatement "break" .breakStatement
  | .keyword "continue" => wordStatement "continue" .continueStatement
  | .keyword "global" => scopeStatement "global" .globalStatement
  | .keyword "nonlocal" => scopeStatement "nonlocal" .nonlocalStatement
  | _ => expressionOrAssignment rules

/-- The simple statements of one line. -/
def simpleStatements : Reader (List Tree) := do
  let statements ← sepBy1 (simpleStatement rules) (mark ";")
  let _ ← markTaken ";"
  take .newline
  pure statements

/-! ## Compound statements -/

/-- The statements of a block, which is the content of a list field. -/
def block : Reader Tree := do
  if ← taken .newline then
    take .indent
    let groups ← many1 (rules .statement)
    take .dedent
    pure (.list (groups.flatMap Tree.items))
  else
    let statements ← simpleStatements rules
    pure (.list statements)

/-- A colon and a block. -/
def suite : Reader Tree := do
  mark ":"
  rules .block

/-- The block of an optional `else`, empty without one. -/
def elseSuite : Reader Tree := do
  if ← wordTaken "else" then suite rules else pure (.list [])

/-- The alternatives after the first block of an `if`, at most `n`.  An `elif` is a nested `if`. -/
def ifAlternatives : Nat → Reader Tree
  | 0 => Reader.fail
  | n + 1 => do
    let l ← line
    if ← wordTaken "elif" then
      let test ← namedExpression rules
      let body ← suite rules
      let other ← ifAlternatives n
      pure (.list [node .ifStatement l [test, body, other]])
    else elseSuite rules

def ifStatement : Reader Tree := do
  let l ← line
  word "if"
  let test ← namedExpression rules
  let body ← suite rules
  let other ← ifAlternatives rules (← countTokens)
  pure (node .ifStatement l [test, body, other])

def whileStatement : Reader Tree := do
  let l ← line
  word "while"
  let test ← namedExpression rules
  let body ← suite rules
  let other ← elseSuite rules
  pure (node .whileLoop l [test, body, other])

def forStatement (start : Nat) (kind : Kind) : Reader Tree := do
  word "for"
  let target ← starTargets rules
  word "in"
  let values ← starExpressions rules
  let body ← suite rules
  let other ← elseSuite rules
  pure (node kind start [target, values, body, other])

def withItem : Reader Tree := do
  let context ← rules .expression
  if ← wordTaken "as" then
    let target ← starTarget rules
    expect (isMark [",", ")", ":"])
    pure (node .withItem 0 [context, target])
  else pure (node .withItem 0 [context, .absent])

/-- The items of a `with` and its colon; the brackets around them are optional. -/
def withHead : Reader (List Tree) :=
  either
    (do
      mark "("
      let (items, _) ← commaList (withItem rules)
      mark ")"
      mark ":"
      pure items)
    (do
      let items ← sepBy1 (withItem rules) (mark ",")
      mark ":"
      pure items)

def withStatement (start : Nat) (kind : Kind) : Reader Tree := do
  word "with"
  let items ← withHead rules
  let body ← rules .block
  pure (node kind start [.list items, body])

/-- A handler; the first one of a `try` decides whether all are written with a star. -/
def handler (starred : Bool) : Reader Tree := do
  let l ← line
  word "except"
  if starred then mark "*"
  if !starred && isMark [":"] (← peek) then
    let body ← suite rules
    pure (node .exceptHandler l [.absent, .absent, body])
  else
    let type ← rules .expression
    let bound ← (do
      if ← wordTaken "as" then
        let x ← name
        pure (some x)
      else pure none)
    let body ← suite rules
    pure (node .exceptHandler l [type, textOrAbsent bound, body])

def finallySuite : Reader Tree := do
  if ← wordTaken "finally" then suite rules else pure (.list [])

/-- Whether `except` and a star come next. -/
def startsStarHandler : Reader Bool := fun ts =>
  match ts with
  | ⟨.keyword "except", _⟩ :: ⟨.punctuation "*", _⟩ :: _ => some (true, ts)
  | _ => some (false, ts)

def tryStatement : Reader Tree := do
  let l ← line
  word "try"
  let body ← suite rules
  let starred ← startsStarHandler
  let handlers ← many (handler rules starred)
  let other ← if handlers.isEmpty then pure (.list []) else elseSuite rules
  let final ← finallySuite rules
  if handlers.isEmpty && final.items.isEmpty then Reader.fail
  else
    pure (node (if starred then .tryStarStatement else .tryStatement) l
      [body, .list handlers, other, final])

/-- The value that a `match` examines. -/
def matchSubject : Reader Tree := do
  let l ← line
  let (items, trailing) ← commaList (starNamedExpression rules)
  match items, trailing with
  | [item], false => if item.isKind .starred then Reader.fail else pure item
  | _, _ => pure (node .tuple l [.list items, loadUsage])

def matchCase : Reader Tree := do
  softWord "case"
  let pattern ← casePattern rules
  let guard ← Reader.optional (do word "if"; namedExpression rules)
  let body ← suite rules
  pure (node .matchCase 0 [pattern, treeOrAbsent guard, body])

/-- The head of a `match` up to its first case. -/
def matchHead : Reader Tree := do
  softWord "match"
  let subject ← matchSubject rules
  mark ":"
  take .newline
  take .indent
  pure subject

def matchStatement : Reader Tree := do
  let l ← line
  let subject ← matchHead rules
  let cases ← many1 (matchCase rules)
  take .dedent
  pure (node .matchStatement l [subject, .list cases])

def decorators : Reader (List Tree) :=
  many (do
    mark "@"
    let value ← namedExpression rules
    take .newline
    pure value)

def functionStatement (start : Nat) (kind : Kind) (decorations : List Tree) : Reader Tree := do
  word "def"
  let x ← name
  mark "("
  let params ← parameters rules true ")"
  mark ")"
  let returns ← (do
    if ← markTaken "->" then
      let t ← rules .expression
      pure (some t)
    else pure none)
  let body ← suite rules
  pure (node kind start [.text x, params, body, .list decorations, treeOrAbsent returns])

def classStatement (start : Nat) (decorations : List Tree) : Reader Tree := do
  word "class"
  let x ← name
  let args ← (do
    let l ← line
    if ← markTaken "(" then arguments rules false l else pure Arguments.empty)
  let body ← suite rules
  pure (node .classDef start
    [.text x, .list args.positional, .list args.keywords, body, .list decorations])

/-- A function or class with its decorators.  It starts on the line of its own keyword. -/
def definition : Reader Tree := do
  let decorations ← decorators rules
  let start ← line
  if ← wordTaken "async" then functionStatement rules start .asyncFunctionDef decorations
  else if isWord ["class"] (← peek) then classStatement rules start decorations
  else functionStatement rules start .functionDef decorations

/-- The word `async` in front of a function, a loop or a context. -/
def asyncStatement : Reader Tree := do
  let start ← line
  word "async"
  match ← peek with
  | .keyword "def" => functionStatement rules start .asyncFunctionDef []
  | .keyword "for" => forStatement rules start .asyncForLoop
  | .keyword "with" => withStatement rules start .asyncWithStatement
  | _ => Reader.fail

/-- One compound statement, or the simple statements of one line. -/
def statement : Reader Tree := do
  let start ← line
  let single (t : Tree) : Tree := .list [t]
  let simple : Reader Tree := do
    let statements ← simpleStatements rules
    pure (.list statements)
  match ← peek with
  | .keyword "def" | .keyword "class" | .punctuation "@" => single <$> definition rules
  | .keyword "async" => single <$> asyncStatement rules
  | .keyword "if" => single <$> ifStatement rules
  | .keyword "with" => single <$> withStatement rules start .withStatement
  | .keyword "for" => single <$> forStatement rules start .forLoop
  | .keyword "try" => single <$> tryStatement rules
  | .keyword "while" => single <$> whileStatement rules
  | .name "match" true => either (single <$> matchStatement rules) simple
  | _ => simple

/-- A whole text: statements up to its end. -/
def moduleText : Reader Tree := do
  let groups ← many (rules .statement)
  take .endOfText
  pure (node .module 0 [.list (groups.flatMap Tree.items)])

end MutationTesting.Source
