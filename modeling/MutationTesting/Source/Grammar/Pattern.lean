import MutationTesting.Source.Grammar.Expression

/-!
# The grammar of patterns

What may stand after `case`: literals, captures, dotted names, sequences, mappings, classes and
alternatives.
-/

namespace MutationTesting.Source

open Reader

variable (rules : Rules)

/-- A capture has a pattern and a name, either of which may be missing. -/
def captureNode (line : Nat) (pattern : Option Tree) (name : Option String) : Tree :=
  node .matchAs line [treeOrAbsent pattern, textOrAbsent name]

/-- Fails if an attribute, a call or a keyword would follow a name. -/
def endsName : Reader Unit := expect fun next => !isMark [".", "(", "="] next

/-- A name that a pattern binds. -/
def captureTarget : Reader String := do
  let x ← name
  if x = "_" then Reader.fail
  else
    endsName
    pure x

def isImaginary : Tree → Bool
  | .node .constant _ [.literal (.imaginary _), _] => true
  | _ => false

/-- A number with an optional minus. -/
def signedNumber : Reader Tree := do
  let l ← line
  if ← markTaken "-" then
    let value ← numberLiteral
    pure (node .unaryOp l [leaf (.unary .minus), value])
  else numberLiteral

def unsigned : Tree → Tree
  | .node .unaryOp _ [_, value] => value
  | t => t

/-- A signed number, or the sum or difference of a real and an imaginary one. -/
def patternNumber : Reader Tree := do
  let l ← line
  let value ← signedNumber
  let joined (op : BinaryOperator) : Reader Tree := do
    let imaginary ← numberLiteral
    if isImaginary imaginary && !isImaginary (unsigned value) then
      pure (binaryNode l value op imaginary)
    else Reader.fail
  if ← markTaken "+" then joined .add
  else if ← markTaken "-" then joined .sub
  else pure value

def startsNumber : Lexeme → Bool
  | .number _ => true
  | .punctuation "-" => true
  | _ => false

def startsString : Lexeme → Bool
  | .string _ => true
  | _ => false

/-- A literal compared by value. -/
def patternLiteral : Reader Tree := do
  if startsNumber (← peek) then patternNumber
  else if startsString (← peek) then strings rules
  else Reader.fail

/-- A name with attributes, as an expression. -/
def dottedExpression : Reader Tree := do
  let l ← line
  let first ← nameAtom
  let attrs ← many (do mark "."; name)
  pure (attrs.foldl (fun value attr => node .attribute l [value, .text attr, loadUsage]) first)

/-- The constant of a literal node. -/
def literalField (t : Tree) : Tree := t.field 0

/-- A pattern, or a starred capture inside a sequence. -/
def starPattern : Reader Tree := do
  let l ← line
  mark "*"
  let x ← name
  if x = "_" then pure (node .matchStar l [.absent])
  else
    endsName
    pure (node .matchStar l [.text x])

def sequenceItem : Reader Tree := either starPattern (rules .pattern)

/-- An entry `key: pattern` inside a mapping. -/
def mappingItem : Reader (Tree × Tree) := do
  let next ← peek
  let key ←
    if startsNumber next || startsString next then patternLiteral rules
    else if isWord ["None", "True", "False"] next then namedConstant
    else do
      let value ← dottedExpression
      if value.isKind .attribute then pure value else Reader.fail
  mark ":"
  let value ← rules .pattern
  pure (key, value)

def mappingRest : Reader String := do
  mark "**"
  captureTarget

/-- The items of a mapping and the name for the rest of it. -/
def mappingItems : Nat → Reader (List (Tree × Tree) × Option String)
  | 0 => Reader.fail
  | n + 1 => do
    if isMark ["\x7d"] (← peek) then pure ([], none)
    else if isMark ["**"] (← peek) then
      let rest ← mappingRest
      let _ ← markTaken ","
      pure ([], some rest)
    else
      let item ← mappingItem rules
      if ← markTaken "," then
        let (items, rest) ← mappingItems n
        pure (item :: items, rest)
      else pure ([item], none)

def mappingPattern : Reader Tree := do
  let l ← line
  mark "\x7b"
  let (items, rest) ← mappingItems rules (← countTokens)
  mark "\x7d"
  pure (node .matchMapping l
    [.list (items.map (·.1)), .list (items.map (·.2)), textOrAbsent rest])

/-- An argument of a class pattern, with its keyword if it has one. -/
def classArgument (allowsPositional : Bool) : Reader (Option String × Tree) :=
  either
    (do
      let x ← name
      mark "="
      let value ← rules .pattern
      pure (some x, value))
    (if allowsPositional then do
      let value ← rules .pattern
      pure (none, value)
    else Reader.fail)

def classArguments : Nat → Bool → Reader (List (Option String × Tree))
  | 0, _ => Reader.fail
  | n + 1, allowsPositional => do
    if isMark [")"] (← peek) then pure []
    else
      let first ← classArgument rules allowsPositional
      if ← markTaken "," then
        let rest ← classArguments n (allowsPositional && first.1.isNone)
        pure (first :: rest)
      else pure [first]

/-- A dotted name, or a class with argument patterns. -/
def nameOrClassPattern : Reader Tree := do
  let l ← line
  let head ← dottedExpression
  if ← markTaken "(" then
    let arguments ← classArguments rules (← countTokens) true
    mark ")"
    let positional := arguments.filter (·.1.isNone)
    let keywords := arguments.filter (·.1.isSome)
    pure (node .matchClass l
      [head, .list (positional.map (·.2)), .list (keywords.map fun k => textOrAbsent k.1),
       .list (keywords.map (·.2))])
  else if head.isKind .attribute then
    endsName
    pure (node .matchValue l [head])
  else Reader.fail

/-- A wildcard, a capture, a dotted name or a class. -/
def namePattern : Reader Tree := do
  let l ← line
  either
    (do softWord "_"; pure (captureNode l none none))
    (either
      (do let x ← captureTarget; pure (captureNode l none (some x)))
      (nameOrClassPattern rules))

/-- Items between brackets; only round brackets around a single item without a comma leave it as it
is. -/
def sequencePattern (opening close : String) : Reader Tree := do
  let l ← line
  mark opening
  if ← markTaken close then pure (node .matchSequence l [.list []])
  else
    let (items, trailing) ← commaList (sequenceItem rules)
    mark close
    match items, trailing, decide (opening = "(") with
    | [item], false, true => if item.isKind .matchStar then Reader.fail else pure item
    | _, _, _ => pure (node .matchSequence l [.list items])

def closedPattern : Reader Tree := do
  let l ← line
  let next ← peek
  match next with
  | .name _ _ => namePattern rules
  | .keyword _ =>
    let value ← namedConstant
    pure (node .matchSingleton l [literalField value])
  | .punctuation "[" => sequencePattern rules "[" "]"
  | .punctuation "(" => sequencePattern rules "(" ")"
  | .punctuation "\x7b" => mappingPattern rules
  | _ =>
    let value ← patternLiteral rules
    pure (node .matchValue l [value])

/-- Alternatives, with an optional name for what matched. -/
def pattern : Reader Tree := do
  let l ← line
  let alternatives ← sepBy1 (closedPattern rules) (mark "|")
  let value := match alternatives with
    | [single] => single
    | _ => node .matchOr l [.list alternatives]
  if ← wordTaken "as" then
    let x ← captureTarget
    pure (captureNode l (some value) (some x))
  else pure value

/-- The pattern of a case: items with commas between them make a sequence without brackets. -/
def casePattern : Reader Tree := do
  let l ← line
  let (items, trailing) ← commaList (sequenceItem rules)
  match items, trailing with
  | [item], false => if item.isKind .matchStar then Reader.fail else pure item
  | _, _ => pure (node .matchSequence l [.list items])

end MutationTesting.Source
