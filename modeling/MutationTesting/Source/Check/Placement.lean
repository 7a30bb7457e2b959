import MutationTesting.Source.Check.Capture
import MutationTesting.Tree.Grammar

/-!
# Where statements and expressions may stand

Some constructs are grammatical everywhere but have a meaning only in certain places: `return` in a
function, `break` in a loop, `await` in an asynchronous function, a starred expression in a display
or a call.  `isPlaced` checks all such conditions with the setting of a construct as its argument.
-/

namespace MutationTesting.Source

/-- The unit of code whose evaluation a construct belongs to. -/
inductive CodeUnit where
  | module
  | classBody
  | function
  | asyncFunction
  | lambda
  | comprehension
deriving DecidableEq, Repr

/-- A statement around another one in the same unit of code. -/
inductive Block where
  | loop
  /-- The handlers of an exception group, which no jump may leave. -/
  | groupHandler
  | other
deriving DecidableEq, Repr

/-- What surrounds a construct. -/
structure Setting where
  unit : CodeUnit
  /-- The statements around, the innermost first. -/
  blocks : List Block
  /-- The function around is asynchronous and yields. -/
  isAsyncGenerator : Bool
  /-- The line of the last import of language features at the head of the module. -/
  lastFeatureLine : Option Nat

namespace Setting

def push (s : Setting) (block : Block) : Setting := { s with blocks := block :: s.blocks }

def enter (s : Setting) (unit : CodeUnit) (isAsyncGenerator : Bool) : Setting :=
  { s with unit, blocks := [], isAsyncGenerator }

/-- At most twenty statements may be nested in one unit of code. -/
def fits (s : Setting) : Bool := decide (s.blocks.length ≤ 20)

def isFunction (s : Setting) : Bool := s.unit ≠ .module && s.unit ≠ .classBody

/-- Whether a loop surrounds the statement, with no group handler in between. -/
def canLeaveLoop (s : Setting) : Bool :=
  (s.blocks.find? (· ≠ .other)) = some .loop

def canReturn (s : Setting) (value : Tree) : Bool :=
  (s.unit = .function || s.unit = .asyncFunction) && !s.blocks.contains .groupHandler &&
    (value.isAbsent || !s.isAsyncGenerator)

/-- Modules and classes keep the hints of their simple names. -/
def keepsHint (s : Setting) (simple : Tree) : Bool :=
  (s.unit = .module || s.unit = .classBody) && simple = .number 1

def canAwait (s : Setting) : Bool := s.unit = .asyncFunction || s.unit = .comprehension

end Setting

/-- The one name that can be read but not bound. -/
def fixedName : String := "__debug__"

def isFree (t : Tree) : Bool := decide (t ≠ .text fixedName)

/-- Whether the hints of a function can be written: those of its parameters, and that of its result.
Hints are kept as their text. -/
def hintsAreWritable (arguments returns : Tree) : Bool :=
  [arguments.field 0, arguments.field 1, arguments.field 2, arguments.field 3, arguments.field 5,
    returns].all Tree.isWritable

mutual

/-- Whether an index is starred, alone or among others. -/
def isStarredIndex : Tree → Bool
  | .node .starred _ _ => true
  | .node .tuple _ [.list elements, _] => anyStarredIndex elements
  | _ => false
termination_by structural t => t

def anyStarredIndex : List Tree → Bool
  | [] => false
  | t :: rest => isStarredIndex t || anyStarredIndex rest
termination_by structural ts => ts

end

/-- What is hinted at without a value is only looked at, each index by itself. -/
def canBeLookedAt : Tree → Bool
  | .node .subscript _ [_, index, _] => !isStarredIndex index
  | _ => true

mutual

/-- Whether evaluating an expression in its own unit of code may suspend it. -/
def suspends : Tree → Bool
  | .list items => anySuspends items
  | .node .await _ _ => true
  | .node .lambda _ [.node .arguments _ [_, _, _, _, keywordDefaults, _, defaults], _] =>
    suspends keywordDefaults || suspends defaults
  | .node .generatorExp _ [_, .list (.node .comprehension _ [_, iterable, _, _] :: _)] =>
    suspends iterable
  | .node .comprehension _ [target, iterable, conditions, asynchronous] =>
    decide (asynchronous ≠ .number 0) || suspends target || suspends iterable ||
      suspends conditions
  | .node _ _ fields => anySuspends fields
  | _ => false
termination_by structural t => t

def anySuspends : List Tree → Bool
  | [] => false
  | t :: rest => suspends t || anySuspends rest
termination_by structural ts => ts

end

mutual

/-- Whether code yields in its own unit. -/
def yields : Tree → Bool
  | .list items => anyYields items
  | .node .yield _ _ => true
  | .node .yieldFrom _ _ => true
  | .node .lambda _ [.node .arguments _ [_, _, _, _, keywordDefaults, _, defaults], _] =>
    yields keywordDefaults || yields defaults
  | .node .functionDef _
      [_, .node .arguments _ [_, _, _, _, keywordDefaults, _, defaults], _, decorators, _] =>
    yields keywordDefaults || yields defaults || yields decorators
  | .node .asyncFunctionDef _
      [_, .node .arguments _ [_, _, _, _, keywordDefaults, _, defaults], _, decorators, _] =>
    yields keywordDefaults || yields defaults || yields decorators
  | .node .classDef _ [_, bases, keywords, _, decorators] =>
    yields bases || yields keywords || yields decorators
  | .node .annotatedAssign _ [target, _, value, _] => yields target || yields value
  | .node _ _ fields => anyYields fields
  | _ => false
termination_by structural t => t

def anyYields : List Tree → Bool
  | [] => false
  | t :: rest => yields t || anyYields rest
termination_by structural ts => ts

end

def clauseIsAsync : Tree → Bool
  | .node .comprehension _ [_, _, _, asynchronous] => decide (asynchronous ≠ .number 0)
  | _ => false

/-- Whether a comprehension suspends: apart from its first iterable, all of it runs in a unit of
its own. -/
def comprehensionSuspends (elements : List Tree) (target conditions asynchronous : Tree)
    (clauses : List Tree) : Bool :=
  decide (asynchronous ≠ .number 0) || anySuspends elements || suspends target ||
    suspends conditions || anySuspends clauses

/-- A comprehension that suspends needs a unit around it that can.  A generator expression does
not, since it is only started later. -/
def comprehensionIsPlaced (s : Setting) (elements : List Tree) (target conditions asynchronous :
    Tree) (clauses : List Tree) : Bool :=
  s.canAwait || !comprehensionSuspends elements target conditions asynchronous clauses

/-- Each asynchronous clause counts as a nested block. -/
def clausesFit (asynchronous : Tree) (clauses : List Tree) : Bool :=
  decide ((clauses.filter clauseIsAsync).length + (if asynchronous = .number 0 then 0 else 1) ≤ 20)

def parameterIsFree : Tree → Bool
  | .node .arg _ (name :: _) => isFree name
  | _ => true

def parametersAreFree (arguments : Tree) : Bool :=
  (arguments.field 0).items.all parameterIsFree && (arguments.field 1).items.all parameterIsFree &&
    parameterIsFree (arguments.field 2) && (arguments.field 3).items.all parameterIsFree &&
    parameterIsFree (arguments.field 5)

/-- Keyword arguments have names that can be bound, and none is given twice. -/
def keywordsAreDistinct : List Tree → Bool
  | [] => true
  | .node .keyword _ [.text name, _] :: rest =>
    decide (name ≠ fixedName) && rest.all (fun k => decide (k.field 0 ≠ .text name)) &&
      keywordsAreDistinct rest
  | _ :: rest => keywordsAreDistinct rest

/-- Whether an import binds a name that can be bound. -/
def importIsFree (dotted : Bool) : Tree → Bool
  | .node .alias _ [_, .text asName] => decide (asName ≠ fixedName)
  | .node .alias _ [.text name, _] =>
    let bound := if dotted then name.toList.takeWhile (· != '.') else name.toList
    decide (bound ≠ fixedName.toList)
  | _ => true

/-- Unpacking takes at most one star, with few targets before it. -/
def starTargetsAreValid (targets : List Tree) : Bool :=
  let isStar (t : Tree) := t.isKind .starred
  decide ((targets.filter isStar).length ≤ 1) &&
    (!targets.any isStar || decide (targets.findIdx isStar < 256))

/-- Handlers with no type come last. -/
def handlersAreOrdered : List Tree → Bool
  | [] => true
  | .node .exceptHandler _ (.absent :: _) :: rest => rest.isEmpty
  | _ :: rest => handlersAreOrdered rest

/-- Patterns that always match stand in the last case or have a condition beside them. -/
def casesAreValid : List Tree → Bool
  | [] => true
  | .node .matchCase _ [pattern, guard, _] :: rest =>
    patternIsValid (!guard.isAbsent || rest.isEmpty) pattern && casesAreValid rest
  | _ :: rest => casesAreValid rest

def isUsed (usage : Usage) : Tree → Bool
  | .node (.usage u) _ _ => decide (u = usage)
  | _ => false

mutual

/-- Whether a construct may stand in a setting, with everything inside it. -/
def isPlaced (s : Setting) : Tree → Bool
  | .list items => allPlaced s items
  | .node .functionDef _ [name, .node .arguments l
        [po, pos, rest, ko, keywordDefaults, kr, defaults], .list body, .list decorators, returns] =>
    let arguments := .node .arguments l [po, pos, rest, ko, keywordDefaults, kr, defaults]
    isFree name && parametersAreFree arguments && hintsAreWritable arguments returns &&
      allPlaced s decorators && isPlaced s defaults && isPlaced s keywordDefaults &&
      allPlaced (s.enter .function false) body
  | .node .asyncFunctionDef _ [name, .node .arguments l
        [po, pos, rest, ko, keywordDefaults, kr, defaults], .list body, .list decorators, returns] =>
    let arguments := .node .arguments l [po, pos, rest, ko, keywordDefaults, kr, defaults]
    isFree name && parametersAreFree arguments && hintsAreWritable arguments returns &&
      allPlaced s decorators && isPlaced s defaults && isPlaced s keywordDefaults &&
      allPlaced (s.enter .asyncFunction (anyYields body)) body
  | .node .classDef _ [name, .list bases, .list keywords, .list body, .list decorators] =>
    isFree name && keywordsAreDistinct keywords && allPlaced s decorators && elementsPlaced s bases &&
      allPlaced s keywords && allPlaced (s.enter .classBody false) body
  | .node .returnStatement _ [value] => s.canReturn value && isPlaced s value
  | .node .augmentedAssign _ [.node .attribute _ [object, _, _], _, value] =>
    isPlaced s object && isPlaced s value
  | .node .annotatedAssign _ [target, hint, value, simple] =>
    isPlaced s target && isPlaced s value && (!s.keepsHint simple || hint.isWritable) &&
      (!value.isAbsent || canBeLookedAt target)
  | .node .forLoop _ [target, iterable, body, otherwise] =>
    (s.push .loop).fits && isPlaced s iterable && isPlaced s target &&
      isPlaced (s.push .loop) body && isPlaced s otherwise
  | .node .asyncForLoop _ [target, iterable, body, otherwise] =>
    decide (s.unit = .asyncFunction) && (s.push .loop).fits && isPlaced s iterable &&
      isPlaced s target && isPlaced (s.push .loop) body && isPlaced s otherwise
  | .node .whileLoop _ [test, body, otherwise] =>
    (s.push .loop).fits && isPlaced s test && isPlaced (s.push .loop) body && isPlaced s otherwise
  | .node .withStatement _ [.list items, .list body] =>
    let inner := { s with blocks := List.replicate items.length .other ++ s.blocks }
    inner.fits && allPlaced s items && allPlaced inner body
  | .node .asyncWithStatement _ [.list items, .list body] =>
    let inner := { s with blocks := List.replicate items.length .other ++ s.blocks }
    decide (s.unit = .asyncFunction) && inner.fits && allPlaced s items && allPlaced inner body
  | .node .tryStatement _ [body, .list handlers, otherwise, .list final] =>
    let outer := if final.isEmpty then s else s.push .other
    let guarded := if handlers.isEmpty then outer else outer.push .other
    guarded.fits && handlersAreOrdered handlers && isPlaced guarded body && isPlaced outer otherwise &&
      allPlaced (outer.push .other) handlers && allPlaced s final && allPlaced outer final
  | .node .tryStarStatement _ [body, handlers, otherwise, .list final] =>
    let outer := if final.isEmpty then s else s.push .other
    (outer.push .other).fits && isPlaced (outer.push .other) body && isPlaced outer otherwise &&
      isPlaced (outer.push .groupHandler) handlers && allPlaced s final && allPlaced outer final
  | .node .exceptHandler _ [type, name, body] =>
    isFree name && isPlaced s type && (s.push .other).fits && isPlaced (s.push .other) body
  | .node .matchStatement _ [subject, .list cases] =>
    isPlaced s subject && casesAreValid cases && allPlaced s cases
  | .node .matchCase _ [_, guard, body] => isPlaced s guard && isPlaced s body
  | .node .importStatement _ [.list names] => names.all (importIsFree true)
  | .node .importFrom line [module, .list names, _] =>
    (decide (module ≠ .text "__future__") || s.lastFeatureLine.any fun last => decide (line ≤ last)) &&
      names.all (importIsFree false)
  | .node .breakStatement _ _ => s.canLeaveLoop
  | .node .continueStatement _ _ => s.canLeaveLoop
  | .node .lambda _ [.node .arguments l
        [po, pos, rest, ko, keywordDefaults, kr, defaults], body] =>
    parametersAreFree (.node .arguments l [po, pos, rest, ko, keywordDefaults, kr, defaults]) &&
      isPlaced s defaults && isPlaced s keywordDefaults &&
      isPlaced (s.enter .lambda false) body
  | .node .set _ [.list elements] => elementsPlaced s elements
  | .node .list _ [.list elements, usage] =>
    elementsPlaced s elements && (!isUsed .store usage || starTargetsAreValid elements)
  | .node .tuple _ [.list elements, usage] =>
    elementsPlaced s elements && (!isUsed .store usage || starTargetsAreValid elements)
  | .node .call _ [function, .list arguments, .list keywords] =>
    keywordsAreDistinct keywords && isPlaced s function && elementsPlaced s arguments &&
      allPlaced s keywords
  | .node .starred _ _ => false
  | .node .name _ [name, usage] => isUsed .load usage || isFree name
  | .node .attribute _ [object, name, usage] =>
    isPlaced s object && (!isUsed .store usage || isFree name)
  | .node .yield _ [value] => s.isFunction && isPlaced s value
  | .node .yieldFrom _ [value] =>
    s.isFunction && decide (s.unit ≠ .asyncFunction) && isPlaced s value
  | .node .await _ [value] => s.canAwait && isPlaced s value
  | .node .listComp _ [element,
        .list (.node .comprehension _ [target, iterable, conditions, asynchronous] :: clauses)] =>
    let inner := s.enter .comprehension false
    comprehensionIsPlaced s [element] target conditions asynchronous clauses &&
      clausesFit asynchronous clauses && isPlaced s iterable && isPlaced inner target &&
      isPlaced inner conditions && allPlaced inner clauses && isPlaced inner element
  | .node .setComp _ [element,
        .list (.node .comprehension _ [target, iterable, conditions, asynchronous] :: clauses)] =>
    let inner := s.enter .comprehension false
    comprehensionIsPlaced s [element] target conditions asynchronous clauses &&
      clausesFit asynchronous clauses && isPlaced s iterable && isPlaced inner target &&
      isPlaced inner conditions && allPlaced inner clauses && isPlaced inner element
  | .node .generatorExp _ [element,
        .list (.node .comprehension _ [target, iterable, conditions, asynchronous] :: clauses)] =>
    let inner := s.enter .comprehension false
    clausesFit asynchronous clauses && isPlaced s iterable && isPlaced inner target &&
      isPlaced inner conditions && allPlaced inner clauses && isPlaced inner element
  | .node .dictComp _ [key, value,
        .list (.node .comprehension _ [target, iterable, conditions, asynchronous] :: clauses)] =>
    let inner := s.enter .comprehension false
    comprehensionIsPlaced s [key, value] target conditions asynchronous clauses &&
      clausesFit asynchronous clauses && isPlaced s iterable && isPlaced inner target &&
      isPlaced inner conditions && allPlaced inner clauses && isPlaced inner key &&
      isPlaced inner value
  | .node _ _ fields => allPlaced s fields
  | _ => true
termination_by structural t => t

def allPlaced (s : Setting) : List Tree → Bool
  | [] => true
  | t :: rest => isPlaced s t && allPlaced s rest
termination_by structural ts => ts

/-- Elements of a display or a call, which may be starred. -/
def elementsPlaced (s : Setting) : List Tree → Bool
  | [] => true
  | .node .starred _ [value, _] :: rest => isPlaced s value && elementsPlaced s rest
  | t :: rest => isPlaced s t && elementsPlaced s rest
termination_by structural ts => ts

end

end MutationTesting.Source
