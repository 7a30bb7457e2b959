import MutationTesting.Source.FormatString
import MutationTesting.Source.Grammar.Combinator
import MutationTesting.Source.Scanner

/-!
# The grammar of expressions

One reader per production, from names and literals up to conditional expressions.  A node starts on
the line of the first token of its production, which for an operator with a bracketed left operand
is the line of the bracket.
-/

namespace MutationTesting.Source

open Reader

mutual

/-- An expression that was read as a value, used as the target of an assignment or deletion. -/
def asTarget? (usage : Tree) (allowsStar : Bool) : Tree → Option Tree
  | .node .name line [id, _] => some (.node .name line [id, usage])
  | .node .attribute line [value, attr, _] => some (.node .attribute line [value, attr, usage])
  | .node .subscript line [value, index, _] => some (.node .subscript line [value, index, usage])
  | .node .starred line [value, _] =>
    if allowsStar then
      (asTarget? usage allowsStar value).map fun v => .node .starred line [v, usage]
    else none
  | .node .tuple line [.list items, _] =>
    (asTargets? usage allowsStar items).map fun ts => .node .tuple line [.list ts, usage]
  | .node .list line [.list items, _] =>
    (asTargets? usage allowsStar items).map fun ts => .node .list line [.list ts, usage]
  | _ => none

def asTargets? (usage : Tree) (allowsStar : Bool) : List Tree → Option (List Tree)
  | [] => some []
  | t :: rest =>
    match asTarget? usage allowsStar t, asTargets? usage allowsStar rest with
    | some t', some rest' => some (t' :: rest')
    | _, _ => none

end

/-- A reader's result that may be missing. -/
def orFail {α : Type} (a : Option α) : Reader α :=
  match a with
  | some a => pure a
  | none => Reader.fail

/-- A single item, or a tuple if a comma follows it. -/
def tupleUnlessSingle (line : Nat) (usage : Tree) (items : List Tree) (trailing : Bool) : Tree :=
  match items, trailing with
  | [item], false => item
  | _, _ => node .tuple line [.list items, usage]

variable (rules : Rules)

/-- A binding `name := value`, or an expression that no `:=` follows. -/
def namedExpression : Reader Tree := do
  let l ← line
  either
    (do
      let x ← name
      mark ":="
      let value ← rules .expression
      pure (node .namedExpr l [nameNode l x storeUsage, value]))
    (do
      let e ← rules .expression
      expect fun next => !isMark [":="] next
      pure e)

/-- A star and the operand it spreads. -/
def spread (operand : Reader Tree) : Reader Tree := do
  let l ← line
  mark "*"
  let value ← operand
  pure (node .starred l [value, loadUsage])

def starNamedExpression : Reader Tree :=
  either (spread (rules .bitOr)) (namedExpression rules)

def starExpression : Reader Tree :=
  either (spread (rules .bitOr)) (rules .expression)

/-- Expressions with commas between them, as one tuple. -/
def starExpressions : Reader Tree := do
  let l ← line
  let (items, trailing) ← commaList (starExpression rules)
  pure (tupleUnlessSingle l loadUsage items trailing)

def yieldExpression : Reader Tree := do
  let l ← line
  word "yield"
  if ← wordTaken "from" then
    let value ← rules .expression
    pure (node .yieldFrom l [value])
  else
    let value ← Reader.optional (starExpressions rules)
    pure (node .yield l [treeOrAbsent value])

/-- A target of an assignment, spread or not. -/
def starTarget : Reader Tree := do
  let value ← either (spread (rules .primary)) (rules .primary)
  orFail (asTarget? storeUsage true value)

/-- The targets of a loop, as one target. -/
def starTargets : Reader Tree := do
  let l ← line
  let (items, trailing) ← commaList (starTarget rules)
  pure (tupleUnlessSingle l storeUsage items trailing)

/-- The clause `for targets in values if condition …` inside a comprehension. -/
def comprehensionClause : Reader Tree := do
  let isAsync ← wordTaken "async"
  word "for"
  let target ← starTargets rules
  word "in"
  let values ← rules .disjunction
  let conditions ← many (do word "if"; rules .disjunction)
  pure (node .comprehension 0
    [target, values, .list conditions, .number (if isAsync then 1 else 0)])

def comprehensionClauses : Reader Tree := do
  let clauses ← many1 (comprehensionClause rules)
  pure (.list clauses)

/-- Whether a comprehension goes on after its first expression. -/
def startsClause : Lexeme → Bool := isWord ["for", "async"]

/-! ## String literals -/

/-- A part of a string literal. -/
inductive LiteralPart where
  | text (value : List Char)
  | field (value : Tree)

/-- What the parts of a literal need to know about it. -/
structure LiteralContext where
  isRaw : Bool
  /-- The line on which this literal starts. -/
  startLine : Nat
  /-- The whole text between its quotes. -/
  body : List Char
  /-- The line on which the first of the adjacent literals starts. -/
  firstLine : Nat
  /-- The mark that the tree keeps of a literal starting with `u`. -/
  textMark : Tree

/-- The line of a place in the literal, given by the text that is left there. -/
def LiteralContext.lineAt (c : LiteralContext) (rest : List Char) : Nat :=
  c.startLine + (countNewlines c.body - countNewlines rest)

/-- Neighbouring texts joined, empty ones dropped. -/
def joinTexts : List LiteralPart → List LiteralPart
  | [] => []
  | .text a :: rest =>
    match joinTexts rest with
    | .text b :: rest' => .text (a ++ b) :: rest'
    | rest' => if a = [] then rest' else .text a :: rest'
  | .field t :: rest => .field t :: joinTexts rest

def LiteralContext.joined (c : LiteralContext) (parts : List LiteralPart) : Tree :=
  node .joinedStr c.firstLine [.list ((joinTexts parts).map fun
    | .text cs => node .constant c.firstLine [.literal (.text (String.ofList cs)), c.textMark]
    | .field t => t)]

/-- The expression of a replacement field, read as if it stood in brackets. -/
def fieldExpression (line : Nat) (text : List Char) : Option Tree := do
  let tokens ← tokensAt? line ('(' :: text ++ [')'])
  let (value, _) ← starExpressions rules tokens
  pure value

def conversionNumber : Option Char → Bool → Bool → Int
  | some c, _, _ => c.toNat
  | none, isShown, hasSpecification =>
    if isShown && !hasSpecification then ('r' : Char).toNat else -1

/-- The parts of a formatted literal from a place on, up to the end of the literal or, inside a
format specification, up to a closing brace.  Specifications nest at most twice. -/
def literalParts (c : LiteralContext) : Nat → Nat → List Char →
    Option (List LiteralPart × List Char)
  | 0, _, _ => none
  | fuel + 1, level, cs => do
    let (text, ending, rest) ← scanText c.isRaw (level == 0) false cs
    let decoded ← decodeBody c.isRaw text
    match ending, rest with
    | .doubledBrace, _ =>
      let (parts, rest) ← literalParts c fuel level rest
      pure (.text decoded :: parts, rest)
    | .stop, [] => pure ([.text decoded], [])
    | .stop, brace :: after =>
      if brace ≠ openBrace then pure ([.text decoded], rest)
      else if 2 ≤ level then none
      else
        let (head, after) ← scanFieldHead after
        let value ← fieldExpression rules (c.lineAt rest) head.expression
        let (specification, after) ← match after with
          | ':' :: specText => do
            let (parts, after) ← literalParts c fuel (level + 1) specText
            pure (some (c.joined parts), after)
          | _ => pure (none, after)
        match after with
        | [] => none
        | brace :: after =>
          if brace ≠ closeBrace then none
          else
            let conversion :=
              conversionNumber head.conversion head.shown.isSome specification.isSome
            let field := node .formattedValue c.firstLine
              [value, .number conversion, treeOrAbsent specification]
            let (parts, after) ← literalParts c fuel level after
            pure (.text decoded :: .text (head.shown.getD []) :: .field field :: parts, after)

/-- The parts of one literal that is not a byte string. -/
def partsOfToken (firstLine : Nat) (textMark : Tree) (line : Nat) (token : StringToken) :
    Option (List LiteralPart) :=
  if token.isFormatted then do
    let c : LiteralContext := ⟨token.isRaw, line, token.body, firstLine, textMark⟩
    let (parts, rest) ← literalParts rules c (token.body.length + 1) 0 token.body
    if rest = [] then pure parts else none
  else do
    let text ← decodeBody token.isRaw token.body
    pure [.text text]

def stringToken : Reader (Nat × StringToken) := fun ts =>
  match ts with
  | ⟨.string token, line⟩ :: rest => some ((line, token), rest)
  | _ => none

/-- The parts of adjacent literals. -/
def partsOfTokens (firstLine : Nat) (textMark : Tree) :
    List (Nat × StringToken) → Option (List LiteralPart)
  | [] => some []
  | (line, token) :: rest => do
    let parts ← partsOfToken rules firstLine textMark line token
    let others ← partsOfTokens firstLine textMark rest
    pure (parts ++ others)

def textOfParts (parts : List LiteralPart) : List Char :=
  parts.flatMap fun
    | .text cs => cs
    | .field _ => []

/-- The value of adjacent literals.  Byte strings do not mix with texts; one formatted literal makes
the whole formatted. -/
def joinLiterals (tokens : List (Nat × StringToken)) : Option Tree :=
  match tokens with
  | [] => none
  | (firstLine, first) :: _ =>
    if tokens.all (·.2.isBytes) then do
      let bytes ← tokens.mapM fun t => decodeBytes t.2.isRaw t.2.body
      pure (node .constant firstLine [.literal (.bytes bytes.flatten), .absent])
    else if tokens.any (·.2.isBytes) then none
    else do
      let textMark : Tree := if first.isMarkedText then .text "u" else .absent
      let parts ← partsOfTokens rules firstLine textMark tokens
      if tokens.any (·.2.isFormatted) then
        let c : LiteralContext := ⟨false, firstLine, [], firstLine, textMark⟩
        pure (c.joined parts)
      else
        pure (node .constant firstLine
          [.literal (.text (String.ofList (textOfParts parts))), textMark])

def strings : Reader Tree := do
  let tokens ← many1 stringToken
  orFail (joinLiterals rules tokens)

/-! ## Atoms -/

def numberLiteral : Reader Tree := fun ts =>
  match ts with
  | ⟨.number value, line⟩ :: rest => some (constantNode line value, rest)
  | _ => none

/-- The constants `True`, `False` and `None`. -/
def namedConstant : Reader Tree := fun ts =>
  match ts with
  | ⟨.keyword "True", line⟩ :: rest => some (constantNode line (.bool true), rest)
  | ⟨.keyword "False", line⟩ :: rest => some (constantNode line (.bool false), rest)
  | ⟨.keyword "None", line⟩ :: rest => some (constantNode line .none, rest)
  | _ => none

def ellipsis : Reader Tree := do
  let l ← line
  mark "..."
  pure (constantNode l .ellipsis)

def nameAtom : Reader Tree := do
  let l ← line
  let x ← name
  pure (nameNode l x loadUsage)

/-- What may follow the first expression in a bracket: a comprehension, further items after a comma,
or nothing. -/
def displayRest (first : Tree) : Reader (List Tree × Bool) := do
  let more ← many (do mark ","; starNamedExpression rules)
  let trailing ← markTaken ","
  pure (first :: more, trailing)

/-- A bracketed expression, a tuple or a generator. -/
def parenthesized : Reader Tree := do
  let l ← line
  mark "("
  if ← markTaken ")" then pure (node .tuple l [.list [], loadUsage])
  else
    match ← peek with
    | .keyword "yield" =>
      let value ← yieldExpression rules
      mark ")"
      pure value
    | _ =>
      let first ← starNamedExpression rules
      if startsClause (← peek) && !first.isKind .starred then
        let clauses ← comprehensionClauses rules
        mark ")"
        pure (node .generatorExp l [first, clauses])
      else
        let (items, trailing) ← displayRest rules first
        mark ")"
        match items, trailing with
        | [item], false => if item.isKind .starred then Reader.fail else pure item
        | _, _ => pure (node .tuple l [.list items, loadUsage])

def listDisplay : Reader Tree := do
  let l ← line
  mark "["
  if ← markTaken "]" then pure (node .list l [.list [], loadUsage])
  else
    let first ← starNamedExpression rules
    if startsClause (← peek) && !first.isKind .starred then
      let clauses ← comprehensionClauses rules
      mark "]"
      pure (node .listComp l [first, clauses])
    else
      let (items, _) ← displayRest rules first
      mark "]"
      pure (node .list l [.list items, loadUsage])

/-- An entry `key: value` or `** mapping`; the latter has no key. -/
def dictItem : Reader (Tree × Tree) :=
  either
    (do
      mark "**"
      let value ← rules .bitOr
      pure (.absent, value))
    (do
      let key ← rules .expression
      mark ":"
      let value ← rules .expression
      pure (key, value))

def dictRest (l : Nat) (first : Tree × Tree) : Reader Tree := do
  let more ← many (do mark ","; dictItem rules)
  let _ ← markTaken ","
  mark "\x7d"
  let items := first :: more
  pure (node .dict l [.list (items.map (·.1)), .list (items.map (·.2))])

def setRest (l : Nat) (first : Tree) : Reader Tree := do
  if startsClause (← peek) && !first.isKind .starred then
    let clauses ← comprehensionClauses rules
    mark "\x7d"
    pure (node .setComp l [first, clauses])
  else
    let (items, _) ← displayRest rules first
    mark "\x7d"
    pure (node .set l [.list items])

/-- Whether `name :=` comes next. -/
def startsNamed : Reader Bool := fun ts =>
  match ts with
  | ⟨.name _ _, _⟩ :: ⟨.punctuation ":=", _⟩ :: _ => some (true, ts)
  | _ => some (false, ts)

/-- A dictionary or a set, displayed or comprehended. -/
def braced : Reader Tree := do
  let l ← line
  mark "\x7b"
  if ← markTaken "\x7d" then pure (node .dict l [.list [], .list []])
  else if isMark ["**"] (← peek) then
    let first ← dictItem rules
    dictRest rules l first
  else if isMark ["*"] (← peek) || (← startsNamed) then
    let first ← starNamedExpression rules
    setRest rules l first
  else
    let key ← rules .expression
    if ← markTaken ":" then
      let value ← rules .expression
      if startsClause (← peek) then
        let clauses ← comprehensionClauses rules
        mark "\x7d"
        pure (node .dictComp l [key, value, clauses])
      else dictRest rules l (key, value)
    else setRest rules l key

def atom : Reader Tree := do
  match ← peek with
  | .name _ _ => nameAtom
  | .number _ => numberLiteral
  | .string _ => strings rules
  | .keyword _ => namedConstant
  | .punctuation "(" => parenthesized rules
  | .punctuation "[" => listDisplay rules
  | .punctuation "\x7b" => braced rules
  | .punctuation "..." => ellipsis
  | _ => Reader.fail

/-! ## Calls and subscripts -/

/-- The arguments of a call, in the order of the text. -/
structure Arguments where
  positional : List Tree
  keywords : List Tree

def Arguments.empty : Arguments := ⟨[], []⟩

/-- How far the arguments have gone: after a keyword argument no plain one may follow, and after a
spread mapping no spread sequence. -/
inductive ArgumentPhase where
  | positional
  | keyword
  | mapping
deriving DecidableEq, Repr

/-- One argument: a positional or a keyword one, and the phase after it. -/
def argument (phase : ArgumentPhase) : Reader (Arguments × ArgumentPhase) := do
  let l ← line
  if ← markTaken "**" then
    let value ← rules .expression
    pure (⟨[], [node .keyword l [.absent, value]]⟩, .mapping)
  else if isMark ["*"] (← peek) then
    if phase = .mapping then Reader.fail
    else
      let value ← spread (rules .expression)
      pure (⟨[value], []⟩, phase)
  else
    either
      (do
        let x ← name
        mark "="
        let value ← rules .expression
        pure (⟨[], [node .keyword l [.text x, value]]⟩,
          if phase = .mapping then .mapping else .keyword))
      (if phase = .positional then do
        let value ← namedExpression rules
        expect fun next => !isMark ["="] next
        pure (⟨[value], []⟩, .positional)
      else Reader.fail)

/-- Further arguments after the first, at most `n`. -/
def argumentsFrom : Nat → ArgumentPhase → Reader Arguments
  | 0, _ => pure Arguments.empty
  | n + 1, phase => do
    match ← Reader.optional (do mark ","; argument rules phase) with
    | none => pure Arguments.empty
    | some (first, phase) =>
      let rest ← argumentsFrom n phase
      pure ⟨first.positional ++ rest.positional, first.keywords ++ rest.keywords⟩

def countTokens : Reader Nat := fun ts => some (ts.length, ts)

/-- Whether an argument can be the element of a generator. -/
def Arguments.element? (a : Arguments) : Option Tree :=
  match a.positional with
  | [value] => if value.isKind .starred then none else some value
  | _ => none

/-- The arguments after an opening bracket, with the closing one.  A sole generator needs no brackets
of its own where `allowsGenerator` holds; it then starts at the line of the bracket. -/
def arguments (allowsGenerator : Bool) (l : Nat) : Reader Arguments := do
  if ← markTaken ")" then pure Arguments.empty
  else
    let (first, phase) ← argument rules .positional
    let goesOn := startsClause (← peek)
    match first.element?, allowsGenerator && goesOn with
    | some value, true =>
      let clauses ← comprehensionClauses rules
      mark ")"
      pure ⟨[node .generatorExp l [value, clauses]], []⟩
    | _, _ =>
      let rest ← argumentsFrom rules (← countTokens) phase
      let _ ← markTaken ","
      mark ")"
      pure ⟨first.positional ++ rest.positional, first.keywords ++ rest.keywords⟩

/-- A slice `lower : upper : step` with any of the three left out, or a single index. -/
def sliceItem : Reader Tree := do
  let l ← line
  either
    (do
      let lower ← Reader.optional (rules .expression)
      mark ":"
      let upper ← Reader.optional (rules .expression)
      let step ← (do
        if ← markTaken ":" then Reader.optional (rules .expression) else pure none)
      pure (node .slice l [treeOrAbsent lower, treeOrAbsent upper, treeOrAbsent step]))
    (namedExpression rules)

/-- The content of a subscript.  A spread item always makes a tuple. -/
def slices : Reader Tree := do
  let l ← line
  let (items, trailing) ← commaList (either (spread (rules .expression)) (sliceItem rules))
  match items, trailing with
  | [item], false =>
    if item.isKind .starred then pure (node .tuple l [.list items, loadUsage]) else pure item
  | _, _ => pure (node .tuple l [.list items, loadUsage])

/-- What may follow a primary: an attribute, a call or a subscript. -/
def trailer (start : Nat) : Reader (Tree → Tree) := do
  let l ← line
  match ← peek with
  | .punctuation "." =>
    mark "."
    let attr ← name
    pure fun value => node .attribute start [value, .text attr, loadUsage]
  | .punctuation "(" =>
    mark "("
    let args ← arguments rules true l
    pure fun value => node .call start [value, .list args.positional, .list args.keywords]
  | .punctuation "[" =>
    mark "["
    let index ← slices rules
    mark "]"
    pure fun value => node .subscript start [value, index, loadUsage]
  | _ => Reader.fail

def primary : Reader Tree := do
  let start ← line
  let first ← atom rules
  let trailers ← many (trailer rules start)
  pure (trailers.foldl (fun value t => t value) first)

/-! ## Operators -/

def awaited : Reader Tree := do
  let l ← line
  if ← wordTaken "await" then
    let value ← primary rules
    pure (node .await l [value])
  else primary rules

def binaryNode (line : Nat) (left : Tree) (op : BinaryOperator) (right : Tree) : Tree :=
  node .binOp line [left, leaf (.binary op), right]

def power : Reader Tree := do
  let l ← line
  let base ← awaited rules
  if ← markTaken "**" then
    let exponent ← rules .factor
    pure (binaryNode l base .pow exponent)
  else pure base

/-- A signed operand. -/
def factor : Reader Tree := do
  let l ← line
  let signed (op : UnaryOperator) : Reader Tree := do
    let operand ← rules .factor
    pure (node .unaryOp l [leaf (.unary op), operand])
  if ← markTaken "-" then signed .minus
  else if ← markTaken "+" then signed .plus
  else if ← markTaken "~" then signed .invert
  else power rules

/-- Operands joined from the left by operators of one strength. -/
def leftChain (operand : Reader Tree) (operators : List (String × BinaryOperator)) :
    Reader Tree := do
  let l ← line
  let first ← operand
  let rest ← many (do
    let text ← oneOfMarks (operators.map (·.1))
    let right ← operand
    pure ((operators.lookup text).getD .add, right))
  pure (rest.foldl (fun left (op, right) => binaryNode l left op right) first)

def term : Reader Tree :=
  leftChain (factor rules)
    [("*", .mult), ("/", .div), ("//", .floorDiv), ("%", .mod), ("@", .matMult)]

def sum : Reader Tree := leftChain (term rules) [("+", .add), ("-", .sub)]

def shift : Reader Tree := leftChain (sum rules) [("<<", .leftShift), (">>", .rightShift)]

def bitAnd : Reader Tree := leftChain (shift rules) [("&", .bitAnd)]

def bitXor : Reader Tree := leftChain (bitAnd rules) [("^", .bitXor)]

def bitOr : Reader Tree := leftChain (bitXor rules) [("|", .bitOr)]

def comparisonMarks : List (String × Comparator) :=
  [("==", .eq), ("!=", .notEq), ("<=", .ltE), ("<", .lt), (">=", .gtE), (">", .gt)]

def comparator : Reader Comparator := do
  match ← peek with
  | .punctuation _ =>
    let text ← oneOfMarks (comparisonMarks.map (·.1))
    pure ((comparisonMarks.lookup text).getD .eq)
  | .keyword "in" => do word "in"; pure .isIn
  | .keyword "not" => do word "not"; word "in"; pure .notIn
  | .keyword "is" => do
    word "is"
    if ← wordTaken "not" then pure .isNot else pure .is
  | _ => Reader.fail

def comparison : Reader Tree := do
  let l ← line
  let left ← bitOr rules
  let rest ← many (do
    let op ← comparator
    let right ← bitOr rules
    pure (op, right))
  if rest.isEmpty then pure left
  else pure (node .compare l
    [left, .list (rest.map fun (op, _) => leaf (.comparator op)), .list (rest.map (·.2))])

def inversion : Reader Tree := do
  let l ← line
  if ← wordTaken "not" then
    let operand ← rules .inversion
    pure (node .unaryOp l [leaf (.unary .not), operand])
  else comparison rules

/-- Operands of one short-circuit operator, as a single node. -/
def connected (operand : Reader Tree) (text : String) (op : Connective) : Reader Tree := do
  let l ← line
  let operands ← sepBy1 operand (word text)
  match operands with
  | [single] => pure single
  | _ => pure (node .boolOp l [leaf (.connective op), .list operands])

def conjunction : Reader Tree := connected (inversion rules) "and" .and

def disjunction : Reader Tree := connected (conjunction rules) "or" .or

/-! ## Parameters and functions -/

/-- A parameter list in the making. -/
structure Parameters where
  positionalOnly : List Tree
  positional : List Tree
  rest : Option Tree
  keywordOnly : List Tree
  keywordDefaults : List Tree
  keywordRest : Option Tree
  defaults : List Tree

def Parameters.empty : Parameters := ⟨[], [], none, [], [], none, []⟩

def Parameters.toTree (p : Parameters) : Tree :=
  node .arguments 0
    [.list p.positionalOnly, .list p.positional, treeOrAbsent p.rest, .list p.keywordOnly,
     .list p.keywordDefaults, treeOrAbsent p.keywordRest, .list p.defaults]

/-- Where the list of parameters is: among positional ones, behind a bare `*` that needs a parameter
to follow, or among keyword-only ones. -/
inductive ParameterPhase where
  | positional
  | bareStar
  | keywordOnly
deriving DecidableEq, Repr

/-- A parameter's name with its hint, where annotations are allowed. -/
def parameterName (hint : Option (Reader Tree)) : Reader Tree := do
  let l ← line
  let x ← name
  match hint with
  | none => pure (node .arg l [.text x, .absent])
  | some type =>
    if ← markTaken ":" then
      let t ← type
      pure (node .arg l [.text x, t])
    else pure (node .arg l [.text x, .absent])

/-- Reads the parameters from a place on; `close` ends the list.  A comma may follow any parameter. -/
def parametersFrom (annotated : Bool) (close : String) :
    Nat → ParameterPhase → Parameters → Reader Parameters
  | 0, _, _ => Reader.fail
  | n + 1, phase, p => do
    let plain : Option (Reader Tree) := if annotated then some (rules .expression) else none
    let starred : Option (Reader Tree) := if annotated then some (starExpression rules) else none
    /- After a parameter: a comma and more parameters, or the end. -/
    let goOn (phase : ParameterPhase) (p : Parameters) : Reader Parameters := do
      if ← markTaken "," then parametersFrom annotated close n phase p
      else if isMark [close] (← peek) && phase ≠ .bareStar then pure p
      else Reader.fail
    match ← peek with
    | .punctuation "/" =>
      mark "/"
      if phase = .positional ∧ p.positionalOnly = [] ∧ p.positional ≠ [] then
        goOn phase { p with positionalOnly := p.positional, positional := [] }
      else Reader.fail
    | .punctuation "**" =>
      mark "**"
      if phase = .bareStar then Reader.fail
      else
        let x ← parameterName plain
        let _ ← markTaken ","
        pure { p with keywordRest := some x }
    | .punctuation "*" =>
      mark "*"
      if phase ≠ .positional then Reader.fail
      else if isMark [","] (← peek) then goOn .bareStar p
      else
        let x ← parameterName starred
        goOn .keywordOnly { p with rest := some x }
    | .name _ _ =>
      let x ← parameterName plain
      let value ← (do
        if ← markTaken "=" then
          let v ← rules .expression
          pure (some v)
        else pure none)
      if phase = .positional then
        match value with
        | some v =>
          goOn phase { p with positional := p.positional ++ [x], defaults := p.defaults ++ [v] }
        | none =>
          if p.defaults = [] then goOn phase { p with positional := p.positional ++ [x] }
          else Reader.fail
      else
        goOn .keywordOnly
          { p with
            keywordOnly := p.keywordOnly ++ [x]
            keywordDefaults := p.keywordDefaults ++ [treeOrAbsent value] }
    | .punctuation text =>
      if text = close ∧ phase ≠ .bareStar then pure p else Reader.fail
    | _ => Reader.fail

/-- A parameter list up to, but without, its closing mark. -/
def parameters (annotated : Bool) (close : String) : Reader Tree := do
  let p ← parametersFrom rules annotated close (← countTokens) .positional Parameters.empty
  expect (isMark [close])
  pure p.toTree

def lambda : Reader Tree := do
  let l ← line
  word "lambda"
  let params ← parameters rules false ":"
  mark ":"
  let body ← rules .expression
  pure (node .lambda l [params, body])

/-- A disjunction, a conditional expression or a function. -/
def expression : Reader Tree := do
  let l ← line
  if isWord ["lambda"] (← peek) then lambda rules
  else
    let body ← disjunction rules
    if ← wordTaken "if" then
      let test ← disjunction rules
      word "else"
      let other ← rules .expression
      pure (node .ifExp l [test, body, other])
    else pure body

end MutationTesting.Source
