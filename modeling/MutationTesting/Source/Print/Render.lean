import MutationTesting.Source.Print.LiteralText
import MutationTesting.Source.Print.Precedence

/-!
# Printing programs

`render` writes a tree as source text.  Brackets appear only where the strength of operators asks
for them, blocks are indented by four columns, and definitions are set off by a blank line.  Printing
fails where the tree has no source text: a whole number with too many digits, a string that cannot be
written without a backslash inside a replacement field, or a field with content of the wrong sort.
-/

namespace MutationTesting.Source

/-- What printing a tree depends on besides the tree. -/
structure Place where
  /-- The number of enclosing blocks. -/
  depth : Nat
  /-- How strongly an expression has to bind to go without brackets. -/
  precedence : Precedence
  /-- Whether the text stands inside a replacement field. -/
  avoidsBackslash : Bool
  /-- Whether handlers belong to a `try` whose handlers are written with a star. -/
  starredHandlers : Bool
  /-- Whether nothing has been written yet. -/
  isStart : Bool
deriving Repr

namespace Place

def top : Place := ⟨0, Precedence.test, false, false, true⟩

/-- The place of an expression in a replacement field. -/
def inField : Place := ⟨0, Precedence.test.next, true, false, true⟩

/-- A place with no demand on strength, after something has been written. -/
def plain (p : Place) : Place := { p with precedence := Precedence.test, isStart := false }

def asking (p : Place) (precedence : Precedence) : Place :=
  { p with precedence := precedence, isStart := false }

def deeper (p : Place) : Place := { p.plain with depth := p.depth + 1 }

end Place

/-- Printed text, if there is any. -/
abbrev Printed := Option (List Char)

/-- A tree ready to be printed at any place. -/
abbrev Renderer := Place → Printed

/-- A text that starts a new line at the place's indentation. -/
def startLine (p : Place) (text : String) : List Char :=
  (if p.isStart then [] else ['\n']) ++ List.replicate (4 * p.depth) ' ' ++ text.toList

/-- An empty line, unless nothing has been written yet. -/
def blankLine (p : Place) : List Char := if p.isStart then [] else ['\n']

/-- Brackets where the place asks for more strength than there is. -/
def bracketed (p : Place) (strength : Precedence) (text : List Char) : List Char :=
  if strength < p.precedence then '(' :: text ++ [')'] else text

/-- Texts with a separator between them. -/
def joinWith (separator : String) : List (List Char) → List Char
  | [] => []
  | [t] => t
  | t :: rest => t ++ separator.toList ++ joinWith separator rest

/-- All the renderers at one place. -/
def printAll (rs : List Renderer) (p : Place) : Option (List (List Char)) :=
  rs.mapM fun r => r p

/-- Items with commas between them. -/
def commaSeparated (rs : List Renderer) (p : Place) : Printed :=
  (printAll rs p).map (joinWith ", ")

/-- The items of a tuple: a single one is followed by a comma. -/
def tupleItems (rs : List Renderer) (p : Place) : Printed :=
  (printAll rs p).map fun
    | [t] => t ++ [',']
    | ts => joinWith ", " ts

/-- The items one after another.  Only the first can be at the start of the text. -/
def inSequence (rs : List Renderer) (p : Place) : Printed :=
  match rs with
  | [] => some []
  | r :: rest => do
    let first ← r p
    let others ← printAll rest p.plain
    pure (first ++ others.flatten)

/-- Operands of a short-circuit operator, each asked to bind more strongly than the one before. -/
def risingOperands (rs : List Renderer) (p : Place) (strength : Precedence) :
    Option (List (List Char)) :=
  match rs with
  | [] => some []
  | r :: rest => do
    let first ← r (p.asking strength.next)
    let others ← risingOperands rest p strength.next
    pure (first :: others)

/-- Whether a field holds something: it is neither missing nor an empty list. -/
def isPresent : Tree → Bool
  | .absent => false
  | .list [] => false
  | _ => true

def isList : Tree → Bool
  | .list _ => true
  | _ => false

def isTextConstant : Tree → Bool
  | .node .constant _ (.literal (.text _) :: _) => true
  | _ => false

/-- Literal text inside a formatted string: braces are doubled. -/
def doubleBraces (cs : List Char) : List Char :=
  cs.flatMap fun c => if c = '\x7b' ∨ c = '\x7d' then [c, c] else [c]

/-- One part of a formatted string: its text and whether it is literal. -/
structure FormattedPart where
  text : List Char
  isLiteral : Bool

/-- The parts of a formatted string as they stand between quotes, and the quotes that suit all of
them.  Each part narrows the choice; none is left where a part asks for a quote that an earlier one
has ruled out. -/
def narrowQuotes : List QuoteMark → List FormattedPart → Option (List Char × List QuoteMark)
  | marks, [] => some ([], marks)
  | marks, part :: rest => do
    let (body, narrowed) := literalBody part.text marks part.isLiteral
    if narrowed.all fun mark => !marks.contains mark then none
    else
      let (bodies, left) ← narrowQuotes narrowed rest
      pure (body ++ bodies, left)

/-- The parts of a formatted string put between quotes.  If no quotes suit all parts, every part is
escaped as a whole and triple quotes are taken. -/
def quoteParts (parts : List FormattedPart) : List Char :=
  match narrowQuotes allQuotes parts with
  | some (body, marks) =>
    let mark := marks.headD []
    mark ++ body ++ mark
  | none =>
    let mark := ['\'', '\'', '\'']
    mark ++ parts.flatMap (fun part => part.text.flatMap (Text.quoteChar '\'')) ++ mark

/-- The text of a replacement field around its printed expression.  An opening brace is kept apart
from the brace of the field. -/
def fieldText (expression : List Char) (conversion : Int) (specification : Option (List Char)) :
    Printed :=
  if expression.contains '\\' then none
  else
    let spaced := if expression.head? = some '\x7b' then ' ' :: expression else expression
    let converted := if conversion = -1 then [] else ['!', Char.ofNat conversion.toNat]
    let specified := match specification with
      | some s => ':' :: s
      | none => []
    some ('\x7b' :: spaced ++ converted ++ specified ++ ['\x7d'])

/-- The parameters with their defaults, which belong to the last of them. -/
def withDefaults (parameters defaults : List (List Char)) : List (List Char) :=
  let bare := parameters.length - defaults.length
  parameters.take bare ++
    (parameters.drop bare).zipWith (fun x d => x ++ '=' :: d) defaults

/-- Keyword-only parameters, some of which have a default. -/
def withKeywordDefaults (parameters : List (List Char)) (defaults : List (Option (List Char))) :
    List (List Char) :=
  parameters.zipWith (fun x d => match d with
    | some d => x ++ '=' :: d
    | none => x) defaults

/-- The items of a parameter list: `/` follows the positional-only ones, `*` precedes the
keyword-only ones. -/
def parameterItems (positionalOnly : Nat) (named : List (List Char)) (rest : Option (List Char))
    (hasKeywordOnly : Bool) (keywordOnly : List (List Char)) (keywordRest : Option (List Char)) :
    List (List Char) :=
  let slash := if positionalOnly = 0 then [] else [['/']]
  let star := match rest with
    | some x => ['*' :: x]
    | none => if hasKeywordOnly then [['*']] else []
  let last := match keywordRest with
    | some x => ['*' :: '*' :: x]
    | none => []
  named.take positionalOnly ++ slash ++ named.drop positionalOnly ++ star ++ keywordOnly ++ last

/-- The renderer of a field that holds something. -/
def ifPresent (t : Tree) (r : Renderer) : Option Renderer := if isPresent t then some r else none

/-- A list has no place among operands. -/
def operand (t : Tree) (r : Renderer) (p : Place) : Printed := if isList t then none else r p

/-- A text, and what follows it after a separator, if anything does. -/
def withOptional (head : List Char) (separator : String) (r : Option Renderer) (p : Place) :
    Printed :=
  match r with
  | none => some head
  | some r => (r p.plain).map fun text => head ++ separator.toList ++ text

/-- A keyword and its operand, which binds as strongly as an atom. -/
def withOperand (keyword : String) (value : Tree) (r : Renderer) (p : Place) : Printed :=
  if isPresent value then
    (operand value r (p.asking Precedence.atom)).map fun text => keyword.toList ++ ' ' :: text
  else some keyword.toList

def optionalText (r : Option Renderer) (p : Place) : Option (Option (List Char)) :=
  match r with
  | none => some none
  | some r => (r p.plain).map some

/-- A head line, a colon and the statements below it. -/
def withBlock (head : List Char) (body : Renderer) (p : Place) : Printed :=
  (body p.deeper).map fun content => head ++ ':' :: content

/-- A block that is left out when it has no statements. -/
def optionalBlock (keyword : String) (body : List Renderer) (p : Place) : Printed :=
  if body.isEmpty then some []
  else withBlock (startLine p.plain keyword) (inSequence body) p

/-- Decorators, each on a line of its own, and the first line of the definition. -/
def definitionHead (head : String) (decorators : List (List Char)) (p : Place) : List Char :=
  match decorators with
  | [] => blankLine p ++ startLine p head
  | first :: rest =>
    blankLine p ++ startLine p "@" ++ first
      ++ rest.flatMap (fun d => startLine p.plain "@" ++ d) ++ startLine p.plain head

def functionText (head name : String) (params : Renderer) (body : Renderer)
    (decorators : List Renderer) (returns : Option Renderer) (p : Place) : Printed := do
  let marks ← printAll decorators p.plain
  let items ← params p.plain
  let start := definitionHead head marks p ++ name.toList ++ '(' :: items ++ [')']
  let typed ← withOptional start " -> " returns p
  withBlock typed body p

def classText (name : String) (arguments : List Renderer) (body : Renderer)
    (decorators : List Renderer) (p : Place) : Printed := do
  let marks ← printAll decorators p.plain
  let items ← commaSeparated arguments p.plain
  let bracket := if arguments.isEmpty then [] else '(' :: items ++ [')']
  withBlock (definitionHead "class " marks p ++ name.toList ++ bracket) body p

def loopText (head : String) (target : Tree) (targetText iter : Renderer)
    (body orelse : List Renderer) (p : Place) : Printed := do
  let t ← operand target targetText (p.asking Precedence.tuple)
  let i ← iter p.plain
  let loop ← withBlock (startLine p head ++ t ++ " in ".toList ++ i) (inSequence body) p
  let other ← optionalBlock "else" orelse p
  pure (loop ++ other)

def withText (head : String) (items body : List Renderer) (p : Place) : Printed := do
  let heads ← commaSeparated items p.plain
  withBlock (startLine p head ++ heads) (inSequence body) p

def tryText (body handlers orelse final : List Renderer) (p : Place) : Printed := do
  let attempt ← withBlock (startLine p "try") (inSequence body) p
  let caught ← printAll handlers p.plain
  let other ← optionalBlock "else" orelse p
  let last ← optionalBlock "finally" final p
  pure (attempt ++ caught.flatten ++ other ++ last)

/-- An entry `key: value`, or a spread mapping where there is no key. -/
def dictItems : List Tree → List Renderer → List Renderer → Place → Option (List (List Char))
  | key :: keys, k :: ks, v :: vs, p => do
    let item ←
      if key.isAbsent then (v (p.asking Precedence.bitOr)).map fun text => '*' :: '*' :: text
      else do
        let keyText ← k p.plain
        let valueText ← v p.plain
        pure (keyText ++ ": ".toList ++ valueText)
    let others ← dictItems keys ks vs p
    pure (item :: others)
  | _, _, _, _ => some []

/-- An element and the clauses that produce it. -/
def comprehended (element : Renderer) (clauses : List Renderer) (p : Place) : Printed := do
  let e ← element p.plain
  let cs ← printAll clauses p.plain
  pure (e ++ cs.flatten)

def comparatorTexts (operators : List Tree) : List (List Char) :=
  operators.map fun
    | .node (.comparator op) _ _ => op.symbol.toList
    | _ => []

def nameTexts (names : List Tree) : List (List Char) :=
  names.map fun
    | .text x => x.toList
    | _ => []

/-- Whether a point after a value would be read as part of it: the value is a whole number or a truth
value. -/
def isWholeConstant : Tree → Bool
  | .node .constant _ (.literal (.int _) :: _) => true
  | .node .constant _ (.literal (.bool _) :: _) => true
  | _ => false

/-- A text that documents a definition, between triple quotes. -/
def documentation : Tree → List Char
  | .node .constant _ [.literal (.text s), textMark] =>
    (if textMark.isAbsent then [] else ['u']) ++ sparingLiteral s.toList tripleQuotes
  | _ => []

mutual

/-- A tree as source text. -/
def render : Tree → Renderer
  | .list items, p => inSequence (renderers items) p
  | .node .module _ [.list body], p => renderBody body p
  -- statements
  | .node .functionDef _ [.text name, params, .list body, .list decorators, returns], p =>
    functionText "def " name (render params) (renderBody body) (renderers decorators)
      (ifPresent returns (render returns)) p
  | .node .asyncFunctionDef _ [.text name, params, .list body, .list decorators, returns], p =>
    functionText "async def " name (render params) (renderBody body) (renderers decorators)
      (ifPresent returns (render returns)) p
  | .node .classDef _ [.text name, .list bases, .list keywords, .list body, .list decorators], p =>
    classText name (renderers bases ++ renderers keywords) (renderBody body) (renderers decorators) p
  | .node .returnStatement _ [value], p =>
    withOptional (startLine p "return") " " (ifPresent value (render value)) p
  | .node .deleteStatement _ [.list targets], p =>
    (commaSeparated (renderers targets) p.plain).map (startLine p "del " ++ ·)
  | .node .assign _ [.list targets, value], p => do
    let sides ← printAll (renderers targets) (p.asking Precedence.tuple)
    let v ← render value p.plain
    pure (startLine p "" ++ sides.flatMap (fun s => s ++ " = ".toList) ++ v)
  | .node .augmentedAssign _ [target, .node (.binary op) _ _, value], p => do
    let t ← render target p.plain
    let v ← render value p.plain
    pure (startLine p "" ++ t ++ ' ' :: op.symbol.toList ++ "= ".toList ++ v)
  | .node .annotatedAssign _ [target, hint, value, .number simple], p => do
    let t ← render target p.plain
    let a ← render hint p.plain
    let shown := if simple = 0 && target.isKind .name then '(' :: t ++ [')'] else t
    withOptional (startLine p "" ++ shown ++ ": ".toList ++ a) " = "
      (ifPresent value (render value)) p
  | .node .forLoop _ [target, iter, .list body, .list orelse], p =>
    loopText "for " target (render target) (render iter) (renderers body) (renderers orelse) p
  | .node .asyncForLoop _ [target, iter, .list body, .list orelse], p =>
    loopText "async for " target (render target) (render iter) (renderers body) (renderers orelse) p
  | .node .whileLoop _ [test, .list body, .list orelse], p => do
    let t ← render test p.plain
    let loop ← withBlock (startLine p "while " ++ t) (inSequence (renderers body)) p
    let other ← optionalBlock "else" (renderers orelse) p
    pure (loop ++ other)
  | .node .ifStatement _ [test, .list body, orelse], p => do
    let t ← render test p.plain
    let branch ← withBlock (startLine p "if " ++ t) (inSequence (renderers body)) p
    let other ← renderElse orelse p
    pure (branch ++ other)
  | .node .withStatement _ [.list items, .list body], p =>
    withText "with " (renderers items) (renderers body) p
  | .node .asyncWithStatement _ [.list items, .list body], p =>
    withText "async with " (renderers items) (renderers body) p
  | .node .matchStatement _ [subject, .list cases], p => do
    let s ← render subject p.plain
    withBlock (startLine p "match " ++ s) (inSequence (renderers cases)) p
  | .node .raiseStatement _ [raised, cause], p =>
    if isPresent raised then do
      let r ← render raised p.plain
      withOptional (startLine p "raise " ++ r) " from " (ifPresent cause (render cause)) p
    else if isPresent cause then none
    else some (startLine p "raise")
  | .node .tryStatement _ [.list body, .list handlers, .list orelse, .list final], p =>
    tryText (renderers body) (renderers handlers) (renderers orelse) (renderers final)
      { p with starredHandlers := false }
  | .node .tryStarStatement _ [.list body, .list handlers, .list orelse, .list final], p =>
    tryText (renderers body) (renderers handlers) (renderers orelse) (renderers final)
      { p with starredHandlers := true }
  | .node .assertStatement _ [test, message], p => do
    let t ← render test p.plain
    withOptional (startLine p "assert " ++ t) ", " (ifPresent message (render message)) p
  | .node .importStatement _ [.list names], p =>
    (commaSeparated (renderers names) p.plain).map (startLine p "import " ++ ·)
  | .node .importFrom _ [module, .list names, .number level], p => do
    let items ← commaSeparated (renderers names) p.plain
    let source := match module with
      | .text m => m.toList
      | _ => []
    pure (startLine p "from " ++ List.replicate level.toNat '.' ++ source ++ " import ".toList
      ++ items)
  | .node .globalStatement _ [.list names], p =>
    some (startLine p "global " ++ joinWith ", " (nameTexts names))
  | .node .nonlocalStatement _ [.list names], p =>
    some (startLine p "nonlocal " ++ joinWith ", " (nameTexts names))
  | .node .expressionStatement _ [value], p =>
    (operand value (render value) (p.asking Precedence.yield)).map (startLine p "" ++ ·)
  | .node .passStatement _ _, p => some (startLine p "pass")
  | .node .breakStatement _ _, p => some (startLine p "break")
  | .node .continueStatement _ _, p => some (startLine p "continue")
  -- expressions
  | .node .boolOp _ [.node (.connective op) _ _, .list values], p => do
    let operands ← risingOperands (renderers values) p op.precedence
    pure (bracketed p op.precedence (joinWith (" " ++ op.symbol ++ " ") operands))
  | .node .namedExpr _ [target, value], p => do
    let t ← operand target (render target) (p.asking Precedence.atom)
    let v ← operand value (render value) (p.asking Precedence.atom)
    pure (bracketed p Precedence.named (t ++ " := ".toList ++ v))
  | .node .binOp _ [left, .node (.binary op) _ _, right], p => do
    let strength := op.precedence
    let l ← operand left (render left)
      (p.asking (if op = .pow then strength.next else strength))
    let r ← operand right (render right)
      (p.asking (if op = .pow then strength else strength.next))
    pure (bracketed p strength (l ++ ' ' :: op.symbol.toList ++ ' ' :: r))
  | .node .unaryOp _ [.node (.unary op) _ _, value], p => do
    let v ← operand value (render value) (p.asking op.precedence)
    pure (bracketed p op.precedence (op.symbol.toList ++ v))
  | .node .lambda _ [params, body], p => do
    let items ← render params p.plain
    let b ← operand body (render body) (p.asking Precedence.test)
    let spaced := if items.isEmpty then [] else ' ' :: items
    pure (bracketed p Precedence.test ("lambda".toList ++ spaced ++ ": ".toList ++ b))
  | .node .ifExp _ [test, body, orelse], p => do
    let b ← operand body (render body) (p.asking Precedence.test.next)
    let t ← operand test (render test) (p.asking Precedence.test.next)
    let o ← operand orelse (render orelse) (p.asking Precedence.test)
    pure (bracketed p Precedence.test (b ++ " if ".toList ++ t ++ " else ".toList ++ o))
  | .node .dict _ [.list keys, .list values], p => do
    let items ← dictItems keys (renderers keys) (renderers values) p
    pure ('\x7b' :: joinWith ", " items ++ ['\x7d'])
  | .node .set _ [.list items], p =>
    if items.isEmpty then some ('\x7b' :: "*()".toList ++ ['\x7d'])
    else (commaSeparated (renderers items) p.plain).map fun content =>
      '\x7b' :: content ++ ['\x7d']
  | .node .listComp _ [element, .list clauses], p =>
    (comprehended (render element) (renderers clauses) p).map fun content => '[' :: content ++ [']']
  | .node .setComp _ [element, .list clauses], p =>
    (comprehended (render element) (renderers clauses) p).map fun content =>
      '\x7b' :: content ++ ['\x7d']
  | .node .dictComp _ [key, value, .list clauses], p => do
    let k ← render key p.plain
    let content ← comprehended (render value) (renderers clauses) p
    pure ('\x7b' :: k ++ ": ".toList ++ content ++ ['\x7d'])
  | .node .generatorExp _ [element, .list clauses], p =>
    (comprehended (render element) (renderers clauses) p).map fun content => '(' :: content ++ [')']
  | .node .await _ [value], p =>
    (withOperand "await" value (render value) p).map (bracketed p Precedence.await)
  | .node .yield _ [value], p =>
    (withOperand "yield" value (render value) p).map (bracketed p Precedence.yield)
  | .node .yieldFrom _ [value], p =>
    if isPresent value then
      (withOperand "yield from" value (render value) p).map (bracketed p Precedence.yield)
    else none
  | .node .compare _ [left, .list operators, .list comparators], p => do
    let l ← operand left (render left) (p.asking Precedence.comparison.next)
    let rest ← printAll (renderers comparators) (p.asking Precedence.comparison.next)
    let marks := comparatorTexts operators
    pure (bracketed p Precedence.comparison
      (l ++ (marks.zipWith (fun m r => ' ' :: m ++ ' ' :: r) rest).flatten))
  | .node .call _ [func, .list args, .list keywords], p => do
    let f ← operand func (render func) (p.asking Precedence.atom)
    let items ← commaSeparated (renderers args ++ renderers keywords) p.plain
    pure (f ++ '(' :: items ++ [')'])
  | .node .formattedValue _ [value, .number conversion, specification], _ => do
    let expression ← operand value (render value) Place.inField
    let specified ← if isPresent specification then (renderPart specification).map some else some none
    let text ← fieldText expression conversion (specified.map FormattedPart.text)
    pure ('f' :: sparingLiteral text allQuotes)
  | .node .joinedStr _ [.list values], p => do
    let parts ← renderParts values
    pure ('f' :: if p.avoidsBackslash then
      sparingLiteral (parts.flatMap FormattedPart.text) allQuotes
    else quoteParts parts)
  | .node .constant _ [.literal value, textMark], p =>
    (valueText p.avoidsBackslash value).map fun text =>
      if textMark.isAbsent then text else 'u' :: text
  | .node .attribute _ [value, .text attr, _], p => do
    let v ← operand value (render value) (p.asking Precedence.atom)
    pure (v ++ (if isWholeConstant value then [' '] else []) ++ '.' :: attr.toList)
  | .node .subscript _ [value, .node .tuple _ [.list (first :: rest), _], _], p => do
    let v ← operand value (render value) (p.asking Precedence.atom)
    let items ← tupleItems ((fun p => render first p) :: renderers rest) p.plain
    pure (v ++ '[' :: items ++ [']'])
  | .node .subscript _ [value, index, _], p => do
    let v ← operand value (render value) (p.asking Precedence.atom)
    let i ← render index p.plain
    pure (v ++ '[' :: i ++ [']'])
  | .node .starred _ [value, _], p =>
    (operand value (render value) (p.asking Precedence.bitOr)).map ('*' :: ·)
  | .node .name _ [.text id, _], _ => some id.toList
  | .node .list _ [.list items, _], p =>
    (commaSeparated (renderers items) p.plain).map fun content => '[' :: content ++ [']']
  | .node .tuple _ [.list items, _], p =>
    (tupleItems (renderers items) p.plain).map fun content =>
      if items.isEmpty || Precedence.tuple < p.precedence then '(' :: content ++ [')'] else content
  | .node .slice _ [lower, upper, step], p => do
    let l ← withOptional [] "" (ifPresent lower (render lower)) p
    let u ← withOptional [':'] "" (ifPresent upper (render upper)) p
    let s ← withOptional [] ":" (ifPresent step (render step)) p
    pure (l ++ u ++ s)
  -- parts of statements and expressions
  | .node .comprehension _ [target, iter, .list conditions, .number isAsync], p => do
    let t ← operand target (render target) (p.asking Precedence.tuple)
    let i ← operand iter (render iter) (p.asking Precedence.test.next)
    let cs ← printAll (renderers conditions) (p.asking Precedence.test.next)
    let head := if isAsync = 0 then " for " else " async for "
    pure (head.toList ++ t ++ " in ".toList ++ i ++ cs.flatMap fun c => " if ".toList ++ c)
  | .node .exceptHandler _ [type, name, .list body], p => do
    let head := startLine p (if p.starredHandlers then "except*" else "except")
    let typed ← withOptional head " " (ifPresent type (render type)) p
    let named := match name with
      | .text x => " as ".toList ++ x.toList
      | _ => []
    withBlock (typed ++ named) (inSequence (renderers body)) p
  | .node .arguments _ [.list positionalOnly, .list positional, rest, .list keywordOnly,
      .list keywordDefaults, keywordRest, .list defaults], p => do
    let named ← printAll (renderers positionalOnly ++ renderers positional) p.plain
    let values ← printAll (renderers defaults) p.plain
    let restText ← optionalText (ifPresent rest (render rest)) p
    let only ← printAll (renderers keywordOnly) p.plain
    let onlyValues ← (keywordDefaults.zip (renderers keywordDefaults)).mapM fun (t, r) =>
      optionalText (ifPresent t r) p
    let keywordText ← optionalText (ifPresent keywordRest (render keywordRest)) p
    pure (joinWith ", " (parameterItems positionalOnly.length (withDefaults named values) restText
      (!keywordOnly.isEmpty) (withKeywordDefaults only onlyValues) keywordText))
  | .node .arg _ [.text name, hint], p =>
    withOptional name.toList ": " (ifPresent hint (render hint)) p
  | .node .keyword _ [name, value], p => do
    let v ← render value p.plain
    match name with
    | .text x => pure (x.toList ++ '=' :: v)
    | _ => pure ('*' :: '*' :: v)
  | .node .alias _ [.text name, asName], _ =>
    some (name.toList ++ match asName with
      | .text x => " as ".toList ++ x.toList
      | _ => [])
  | .node .withItem _ [context, target], p => do
    let c ← render context p.plain
    withOptional c " as " (ifPresent target (render target)) p
  | .node .matchCase _ [pattern, guard, .list body], p => do
    let pat ← render pattern p.plain
    let head ← withOptional (startLine p "case " ++ pat) " if " (ifPresent guard (render guard)) p
    withBlock head (inSequence (renderers body)) p
  -- patterns
  | .node .matchValue _ [value], p => render value p.plain
  | .node .matchSingleton _ [.literal value], p => valueText p.avoidsBackslash value
  | .node .matchSequence _ [.list patterns], p =>
    (commaSeparated (renderers patterns) p.plain).map fun content => '[' :: content ++ [']']
  | .node .matchStar _ [name], _ =>
    some ('*' :: match name with
      | .text x => x.toList
      | _ => ['_'])
  | .node .matchMapping _ [.list keys, .list patterns, rest], p => do
    let ks ← printAll (renderers keys) p.plain
    let ps ← printAll (renderers patterns) p.plain
    let items := ks.zipWith (fun k v => k ++ ": ".toList ++ v) ps
    let last := match rest with
      | .text x => ['*' :: '*' :: x.toList]
      | _ => []
    pure ('\x7b' :: joinWith ", " (items ++ last) ++ ['\x7d'])
  | .node .matchClass _ [cls, .list patterns, .list names, .list keywordPatterns], p => do
    let c ← operand cls (render cls) (p.asking Precedence.atom)
    let ps ← printAll (renderers patterns) p.plain
    let ks ← printAll (renderers keywordPatterns) p.plain
    let items := (nameTexts names).zipWith (fun x v => x ++ '=' :: v) ks
    pure (c ++ '(' :: joinWith ", " (ps ++ items) ++ [')'])
  | .node .matchAs _ [pattern, name], p =>
    match name with
    | .text x =>
      if isPresent pattern then
        (operand pattern (render pattern) (p.asking Precedence.bitOr)).map fun text =>
          bracketed p Precedence.test (text ++ " as ".toList ++ x.toList)
      else some x.toList
    | _ => some ['_']
  | .node .matchOr _ [.list patterns], p => do
    let alternatives ← printAll (renderers patterns) (p.asking Precedence.bitOr.next)
    pure (bracketed p Precedence.bitOr (joinWith " | " alternatives))
  | _, _ => none
termination_by structural t => t

/-- The trees of a list, each ready to be printed. -/
def renderers : List Tree → List Renderer
  | [] => []
  | t :: rest => (fun p => render t p) :: renderers rest
termination_by structural t => t

/-- The statements of a module, class or function.  A text that comes first is printed as
documentation, between triple quotes. -/
def renderBody : List Tree → Renderer
  | [], _ => some []
  | .node .expressionStatement _ [value] :: rest, p => do
    let first ←
      if isTextConstant value then some (documentation value)
      else operand value (render value) (p.asking Precedence.yield)
    let others ← printAll (renderers rest) p.plain
    pure (startLine p "" ++ first ++ others.flatten)
  | first :: rest, p => do
    let firstText ← render first p
    let others ← printAll (renderers rest) p.plain
    pure (firstText ++ others.flatten)
termination_by structural t => t

/-- What follows the first block of an `if`: a single nested `if` is written as `elif`. -/
def renderElse : Tree → Renderer
  | .list [.node .ifStatement _ [test, .list body, orelse]], p => do
    let t ← render test p.plain
    let branch ← withBlock (startLine p.plain "elif " ++ t) (inSequence (renderers body)) p
    let other ← renderElse orelse p
    pure (branch ++ other)
  | .list items, p => optionalBlock "else" (renderers items) p
  | _, _ => some []
termination_by structural t => t

/-- A part of a formatted string: literal text, a replacement field or nested parts. -/
def renderPart : Tree → Option FormattedPart
  | .node .constant _ (.literal (.text s) :: _) => some ⟨doubleBraces s.toList, true⟩
  | .node .formattedValue _ [value, .number conversion, specification] => do
    let expression ← operand value (render value) Place.inField
    let specified ← if isPresent specification then (renderPart specification).map some else some none
    let text ← fieldText expression conversion (specified.map FormattedPart.text)
    pure ⟨text, false⟩
  | .node .joinedStr _ [.list values] => do
    let parts ← renderParts values
    pure ⟨parts.flatMap FormattedPart.text, false⟩
  | _ => none
termination_by structural t => t

def renderParts : List Tree → Option (List FormattedPart)
  | [] => some []
  | t :: rest => do
    let part ← renderPart t
    let others ← renderParts rest
    pure (part :: others)
termination_by structural t => t

end

/-- The source text of a tree. -/
def unparse? (t : Tree) : Option (List Char) := render t Place.top

/-- The source text of an expression, asked for on its own. -/
def unparseText? (t : Tree) : Option String := (unparse? t).map String.ofList

end MutationTesting.Source
