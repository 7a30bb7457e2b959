import MutationTesting.Tree.Basic

/-!
# Scopes of names

A program has a scope for the module and one for every class, function and comprehension in it.
`scopesAreValid` goes through the program in the order of its text, records how each scope uses each
name, and rejects declarations that contradict an earlier use, repeated parameters, and assignment
expressions that would bind the variable of a comprehension.  Afterwards it checks that every
`nonlocal` name is bound in an enclosing function.
-/

namespace MutationTesting.Source

inductive ScopeKind where
  | module
  | classBody
  | function
  /-- A type hint, which is kept as text and never evaluated. -/
  | deferredHint
deriving DecidableEq, Repr

/-- How a scope uses a name. -/
structure NameUse where
  isParameter : Bool := false
  isAssigned : Bool := false
  isRead : Bool := false
  isImported : Bool := false
  isHinted : Bool := false
  isGlobal : Bool := false
  isNonlocal : Bool := false
  /-- The name stands in the target of a comprehension clause. -/
  isClauseTarget : Bool := false
deriving DecidableEq, Repr

/-- Both uses together. -/
def NameUse.merge (a b : NameUse) : NameUse where
  isParameter := a.isParameter || b.isParameter
  isAssigned := a.isAssigned || b.isAssigned
  isRead := a.isRead || b.isRead
  isImported := a.isImported || b.isImported
  isHinted := a.isHinted || b.isHinted
  isGlobal := a.isGlobal || b.isGlobal
  isNonlocal := a.isNonlocal || b.isNonlocal
  isClauseTarget := a.isClauseTarget || b.isClauseTarget

def NameUse.isDeclared (u : NameUse) : Bool := u.isGlobal || u.isNonlocal

/-- A scope that has been read to its end, with the scopes inside it. -/
inductive ScopeTree where
  | node (kind : ScopeKind) (names : List (String × NameUse)) (inner : List ScopeTree)

/-- A scope that is being read. -/
structure OpenScope where
  kind : ScopeKind
  isComprehension : Bool
  names : List (String × NameUse)
  /-- How many iterables of comprehensions the reading is inside of. -/
  iterableDepth : Nat
  /-- Whether the target of a comprehension clause is being read. -/
  inClauseTarget : Bool
  /-- The innermost class around, whose name hides private names. -/
  className : Option String
  inner : List ScopeTree

def OpenScope.use (s : OpenScope) (name : String) : NameUse := (s.names.lookup name).getD {}

def setUse (name : String) (use : NameUse) : List (String × NameUse) → List (String × NameUse)
  | [] => [(name, use)]
  | (n, u) :: rest => if n = name then (name, use) :: rest else (n, u) :: setUse name use rest

/-- A private name of a class is known outside by a name that includes the class. -/
def mangle (className : Option String) (name : String) : String :=
  match className with
  | none => name
  | some c =>
    let cs := name.toList
    let owner := c.toList.dropWhile (· == '_')
    if ['_', '_'].isPrefixOf cs && !(['_', '_'].isSuffixOf cs) && !cs.contains '.' && !owner.isEmpty
    then "_" ++ String.ofList owner ++ name
    else name

/-- Records a use of a name in a scope.  A parameter may not be repeated, and the variable of a
comprehension may not be a declared name. -/
def OpenScope.record (s : OpenScope) (name : String) (use : NameUse) : Option OpenScope :=
  let name := mangle s.className name
  let old := s.use name
  if use.isParameter && old.isParameter then none
  else
    let merged := old.merge use
    if s.inClauseTarget then
      if merged.isDeclared then none
      else some { s with names := setUse name { merged with isClauseTarget := true } s.names }
    else some { s with names := setUse name merged s.names }

/-- Reading with the open scopes as state, the innermost first. -/
abbrev Scoping := StateT (List OpenScope) Option

namespace Scoping

def fail {α : Type} : Scoping α := fun _ => none

def onTop (f : OpenScope → Option OpenScope) : Scoping Unit := fun scopes =>
  match scopes with
  | [] => none
  | s :: rest => (f s).map fun s' => ((), s' :: rest)

def record (name : String) (use : NameUse) : Scoping Unit := onTop fun s => s.record name use

def assign (name : String) : Scoping Unit := record name { isAssigned := true }

/-- Fails unless the innermost scope satisfies a test. -/
def require (test : OpenScope → Bool) : Scoping Unit :=
  onTop fun s => if test s then some s else none

/-- Opens a scope inside the innermost one. -/
def enter (kind : ScopeKind) (isComprehension : Bool) (className : Option String) : Scoping Unit :=
  fun scopes =>
    match scopes with
    | [] => none
    | s :: _ =>
      some ((), ⟨kind, isComprehension, [], s.iterableDepth, false,
        if className.isSome then className else s.className, []⟩ :: scopes)

/-- Closes the innermost scope. -/
def leave : Scoping Unit := fun scopes =>
  match scopes with
  | s :: outer :: rest =>
    some ((), { outer with inner := outer.inner ++ [.node s.kind s.names s.inner] } :: rest)
  | _ => none

def inside (kind : ScopeKind) (isComprehension : Bool) (className : Option String)
    (body : Scoping Unit) : Scoping Unit := do
  enter kind isComprehension className
  body
  leave

/-- Reads an iterable, in which no assignment expression may stand. -/
def asIterable (body : Scoping Unit) : Scoping Unit := do
  onTop fun s => some { s with iterableDepth := s.iterableDepth + 1 }
  body
  onTop fun s => some { s with iterableDepth := s.iterableDepth - 1 }

/-- Reads the target of a clause. -/
def asClauseTarget (body : Scoping Unit) : Scoping Unit := do
  onTop fun s => some { s with inClauseTarget := true }
  body
  onTop fun s => some { s with inClauseTarget := false }

/-- Finds the scope around the comprehensions that an assignment expression binds its name in, and
records the name there.  Gives the use that the name has in the innermost comprehension. -/
def bindAround (name : String) : List OpenScope → Option (NameUse × List OpenScope)
  | [] => none
  | s :: rest =>
    if s.isComprehension then
      if (s.use name).isClauseTarget then none
      else (bindAround name rest).map fun (use, rest') => (use, s :: rest')
    else
      match s.kind with
      | .function =>
        let use : NameUse :=
          if (s.use name).isGlobal then { isGlobal := true } else { isNonlocal := true }
        (s.record name { isAssigned := true }).map fun s' => (use, s' :: rest)
      | .module => some ({ isGlobal := true }, s :: rest)
      | .classBody => none
      | .deferredHint => (bindAround name rest).map fun (use, rest') => (use, s :: rest')

/-- The target of an assignment expression inside a comprehension. -/
def bindFromComprehension (name : String) : Scoping Unit := fun scopes =>
  match bindAround name scopes with
  | some (use, scopes') => record name use scopes'
  | none => none

/-- A declaration of names, which must come before any other use of them. -/
def declare (declaration : NameUse) : List Tree → Scoping Unit
  | [] => pure ()
  | .text name :: rest => do
    require fun s =>
      let use := s.use (mangle s.className name)
      !(use.isParameter || use.isAssigned || use.isRead || use.isHinted)
    record name declaration
    declare declaration rest
  | _ :: rest => declare declaration rest

def parameter (t : Tree) : Scoping Unit :=
  match t with
  | .node .arg _ (.text name :: _) => record name { isParameter := true }
  | _ => pure ()

def parametersOf : List Tree → Scoping Unit
  | [] => pure ()
  | t :: rest => do
    parameter t
    parametersOf rest

/-- All parameters of a parameter list. -/
def recordParameters (arguments : Tree) : Scoping Unit := do
  parametersOf (arguments.field 0).items
  parametersOf (arguments.field 1).items
  parametersOf (arguments.field 3).items
  parameter (arguments.field 2)
  parameter (arguments.field 5)

/-- The name an import binds: the first part of a dotted one. -/
def importedName (name asName : Tree) : String :=
  match name, asName with
  | _, .text x => x
  | .text x, _ => String.ofList (x.toList.takeWhile (· != '.'))
  | _, _ => ""

def assignIfText (t : Tree) : Scoping Unit :=
  match t with
  | .text name => assign name
  | _ => pure ()

/-- Type hints are read in a scope of their own, since they are not evaluated in place. -/
def asHint (body : Scoping Unit) : Scoping Unit := inside .deferredHint false none body

def notInHint : Scoping Unit := require fun s => s.kind ≠ .deferredHint

/-- The name under which methods find the class around them. -/
def ownClassName : String := "__class__"

/-- Inside a function, `super` finds the class by this name, which counts as a use of the name. -/
def readsOwnClass : Scoping Unit :=
  onTop fun s =>
    if s.kind = .function then s.record ownClassName { isRead := true } else some s

mutual

/-- Records what a tree does with names. -/
def visit : Tree → Scoping Unit
  | .list items => visitAll items
  | .node .functionDef _ [.text name, .node .arguments l
        [po, pos, rest, ko, kd, kr, ds], .list body, .list decorators, returns] => do
    assign name
    visit ds
    visit kd
    asHint do
      visit po
      visit pos
      visit rest
      visit kr
      visit ko
      visit returns
    visitAll decorators
    inside .function false none do
      recordParameters (.node .arguments l [po, pos, rest, ko, kd, kr, ds])
      visitAll body
  | .node .asyncFunctionDef _ [.text name, .node .arguments l
        [po, pos, rest, ko, kd, kr, ds], .list body, .list decorators, returns] => do
    assign name
    visit ds
    visit kd
    asHint do
      visit po
      visit pos
      visit rest
      visit kr
      visit ko
      visit returns
    visitAll decorators
    inside .function false none do
      recordParameters (.node .arguments l [po, pos, rest, ko, kd, kr, ds])
      visitAll body
  | .node .classDef _ [.text name, bases, keywords, .list body, .list decorators] => do
    assign name
    visit bases
    visit keywords
    visitAll decorators
    inside .classBody false (some name) (visitAll body)
  | .node .lambda _ [.node .arguments l [po, pos, rest, ko, kd, kr, ds], body] => do
    visit ds
    visit kd
    inside .function false none do
      recordParameters (.node .arguments l [po, pos, rest, ko, kd, kr, ds])
      visit body
  | .node .arg _ [_, hint] => visit hint
  | .node .annotatedAssign _ [.node .name _ [.text name, _], hint, value, .number simple] => do
    require fun s =>
      !((s.use (mangle s.className name)).isDeclared && s.kind ≠ .module && simple ≠ 0)
    if simple ≠ 0 then record name { isHinted := true, isAssigned := true }
    else if !value.isAbsent then assign name
    asHint (visit hint)
    visit value
  | .node .annotatedAssign _ [target, hint, value, _] => do
    visit target
    asHint (visit hint)
    visit value
  | .node .globalStatement _ [.list names] => declare { isGlobal := true } names
  | .node .nonlocalStatement _ [.list names] => declare { isNonlocal := true } names
  | .node .alias _ [name, asName] =>
    if importedName name asName = "*" then require fun s => s.kind = .module
    else record (importedName name asName) { isImported := true }
  | .node .tryStatement _ [body, handlers, otherwise, final] => do
    visit body
    visit otherwise
    visit handlers
    visit final
  | .node .tryStarStatement _ [body, handlers, otherwise, final] => do
    visit body
    visit otherwise
    visit handlers
    visit final
  | .node .exceptHandler _ [type, name, body] => do
    visit type
    assignIfText name
    visit body
  | .node .matchAs _ [pattern, name] => do
    visit pattern
    assignIfText name
  | .node .matchStar _ [name] => assignIfText name
  | .node .matchMapping _ [keys, patterns, rest] => do
    visit keys
    visit patterns
    assignIfText rest
  | .node .namedExpr _ [.node .name _ [.text name, _], value] => do
    notInHint
    require fun s => s.iterableDepth = 0
    fun scopes =>
      match scopes with
      | s :: _ => if s.isComprehension then bindFromComprehension name scopes else some ((), scopes)
      | [] => none
    visit value
    assign name
  | .node .yield _ [value] => do
    notInHint
    visit value
    require fun s => !s.isComprehension
  | .node .yieldFrom _ [value] => do
    notInHint
    visit value
    require fun s => !s.isComprehension
  | .node .await _ [value] => do
    notInHint
    visit value
  | .node .listComp _ [element, .list (.node .comprehension _ [target, iter, ifs, _] :: clauses)] =>
    do
    asIterable (visit iter)
    inside .function true none do
      asClauseTarget (visit target)
      visit ifs
      visitAll clauses
      visit element
  | .node .setComp _ [element, .list (.node .comprehension _ [target, iter, ifs, _] :: clauses)] =>
    do
    asIterable (visit iter)
    inside .function true none do
      asClauseTarget (visit target)
      visit ifs
      visitAll clauses
      visit element
  | .node .generatorExp _
      [element, .list (.node .comprehension _ [target, iter, ifs, _] :: clauses)] => do
    asIterable (visit iter)
    inside .function true none do
      asClauseTarget (visit target)
      visit ifs
      visitAll clauses
      visit element
  | .node .dictComp _
      [key, value, .list (.node .comprehension _ [target, iter, ifs, _] :: clauses)] => do
    asIterable (visit iter)
    inside .function true none do
      asClauseTarget (visit target)
      visit ifs
      visitAll clauses
      visit value
      visit key
  | .node .comprehension _ [target, iter, ifs, _] => do
    asClauseTarget (visit target)
    asIterable (visit iter)
    visit ifs
  | .node .name _ [.text name, .node (.usage .load) _ _] => do
    record name { isRead := true }
    if name = "super" then readsOwnClass else pure ()
  | .node .name _ [.text name, _] => assign name
  | .node _ _ fields => visitAll fields
  | _ => pure ()
termination_by structural t => t

def visitAll : List Tree → Scoping Unit
  | [] => pure ()
  | t :: rest => do
    visit t
    visitAll rest
termination_by structural ts => ts

end

end Scoping

/-- Whether a scope binds a name itself. -/
def NameUse.isBound (u : NameUse) : Bool :=
  !u.isDeclared && (u.isParameter || u.isAssigned || u.isImported)

/-- Whether the declarations of a scope agree with the names bound in the functions around it. -/
def declarationsAgree (bound : Option (List String)) (names : List (String × NameUse)) : Bool :=
  names.all fun (name, use) =>
    if use.isGlobal then !use.isNonlocal
    else if use.isNonlocal then bound.any (·.contains name)
    else true

/-- The names that a scope lets the scopes inside it see as bound. -/
def boundInside (kind : ScopeKind) (bound : List String) (names : List (String × NameUse)) :
    List String :=
  let visible := bound.filter fun b => !(names.any fun (name, use) => name == b && use.isGlobal)
  match kind with
  | .classBody => Scoping.ownClassName :: bound
  | .function => (names.filter (·.2.isBound)).map (·.1) ++ visible
  | _ => visible

mutual

/-- Whether all declarations in a scope and the scopes inside it have what they refer to. -/
def ScopeTree.resolves (bound : Option (List String)) : ScopeTree → Bool
  | .node kind names inner =>
    declarationsAgree bound names && resolveAll (boundInside kind (bound.getD []) names) inner
termination_by structural t => t

def ScopeTree.resolveAll (bound : List String) : List ScopeTree → Bool
  | [] => true
  | t :: rest => t.resolves (some bound) && resolveAll bound rest
termination_by structural ts => ts

end

/-- Whether every scope of a module uses its names consistently. -/
def scopesAreValid (module : Tree) : Bool :=
  match Scoping.visit module [⟨.module, false, [], 0, false, none, []⟩] with
  | some (_, [s]) => (ScopeTree.node s.kind s.names s.inner).resolves none
  | _ => false

end MutationTesting.Source
