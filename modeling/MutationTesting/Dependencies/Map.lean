import MutationTesting.Mutation.Basic
import MutationTesting.Text.CharClass
import MutationTesting.Text.Order
import MutationTesting.Tree.Basic

/-!
# Which tests refer to which modules

A test file refers to the modules it imports, to the objects whose methods it calls, and to the
modules that its labels name.  The file is read in the order of its text, and a name stands for what
the latest import before it bound it to.

The label of a test often begins with the name of what it tests, as in "Calculator.Ops adds
numbers".  The name is the longest beginning of the label that consists of capitalised parts with
dots between them.

The dependency map has for every module the test files that refer to it.
-/

namespace MutationTesting.Dependencies

/-! ## Modules that a test refers to -/

open MutationTesting.Text

/-- The longest capitalised name at the beginning of a text, with the rest. -/
def capitalizedPart? : List Char → Option (List Char × List Char)
  | [] => none
  | c :: rest =>
    if isAsciiUpper c then some (c :: rest.takeWhile isAsciiWord, rest.dropWhile isAsciiWord)
    else none

/-- Further parts of a name, each after a dot.  Every part uses up a character of the text, so its
length bounds their number. -/
def furtherParts : Nat → List Char → List Char
  | 0, _ => []
  | bound + 1, '.' :: rest =>
    match capitalizedPart? rest with
    | some (part, rest') => '.' :: part ++ furtherParts bound rest'
    | none => []
  | _, _ => []

/-- The name at the beginning of a text. -/
def leadingName? (text : List Char) : Option String :=
  (capitalizedPart? text).map fun (part, rest) =>
    String.ofList (part ++ furtherParts rest.length rest)

/-- Whether a module is among the known ones; without a list of them every module is. -/
def isKnown (known : Option (List String)) (module : String) : Bool := known.all (·.contains module)

/-- The module that a label names, if it is a known one. -/
def moduleOfLabel? (known : Option (List String)) (label : String) : Option String :=
  (leadingName? (strip label.toList)).filter (isKnown known)

/-- What has been seen of a file. -/
structure Sighting where
  modules : List String := []
  labels : List String := []
  /-- What names stand for, the latest binding first. -/
  bindings : List (String × String) := []
deriving DecidableEq, Repr, Inhabited

/-- A chain of attributes that begins with a name, as a list of its parts. -/
def chain? : Tree → Option (List String)
  | .node .attribute _ [value, .text last, _] => (chain? value).map (· ++ [last])
  | .node .name _ [.text name, _] => some [name]
  | _ => none
termination_by structural t => t

def dotted (parts : List String) : String := String.intercalate "." parts

namespace Sighting

def refer (s : Sighting) (module : String) : Sighting := { s with modules := module :: s.modules }

def bind (s : Sighting) (name module : String) : Sighting :=
  { s with bindings := (name, module) :: s.bindings }

def label (s : Sighting) (text : String) : Sighting := { s with labels := text :: s.labels }

/-- The module that a chain of names stands for. -/
def resolve (s : Sighting) : List String → String
  | [] => ""
  | first :: rest => dotted ((s.bindings.lookup first).getD first :: rest)

/-- An import of a whole module.  Without a name of its own it binds the first part of the dotted
name, unless that is bound already. -/
def importModule (s : Sighting) : Tree → Sighting
  | .node .alias _ [.text module, asName] =>
    let s := s.refer module
    match asName with
    | .text name => s.bind name module
    | _ =>
      let root := String.ofList (module.toList.takeWhile (· != '.'))
      if (s.bindings.lookup root).isSome then s else s.bind root root
  | _ => s

/-- An import of a name from a module.  The name may be a module too. -/
def importName (module : String) (s : Sighting) : Tree → Sighting
  | .node .alias _ [.text name, asName] =>
    if name = "*" then s
    else
      let qualified := module ++ "." ++ name
      let s := s.refer qualified
      match asName with
      | .text other => s.bind (if other = "" then name else other) qualified
      | _ => s.bind name qualified
  | _ => s

/-- Functions whose first argument is a label. -/
def labelCallees : List String := ["describe", "context", "it", "test"]

/-- A call of a method refers to the object; a call of a labelling function gives a label. -/
def call (s : Sighting) (callee : Tree) (arguments : List Tree) : Sighting :=
  match callee, arguments with
  | .node .attribute _ (object :: _), _ =>
    (match chain? object with
      | some parts => s.refer (s.resolve parts)
      | none => s)
  | .node .name _ (.text name :: _), .node .constant _ (.literal (.text text) :: _) :: _ =>
    if labelCallees.contains name then s.label text else s
  | _, _ => s

/-- The text at the beginning of a body documents it, and is a label. -/
def documentation (s : Sighting) : List Tree → Sighting
  | .node .expressionStatement _ [.node .constant _ (.literal (.text text) :: _)] :: _ => s.label text
  | _ => s

/-- What a node itself adds. -/
def look (s : Sighting) : Tree → Sighting
  | .node .importStatement _ [.list names] => names.foldl importModule s
  | .node .importFrom _ [.text module, .list names, .number 0] =>
    if module = "" then s else names.foldl (importName module) (s.refer module)
  | .node .call _ (callee :: .list arguments :: _) => s.call callee arguments
  | .node .functionDef _ (_ :: _ :: .list body :: _) => s.documentation body
  | .node .asyncFunctionDef _ (_ :: _ :: .list body :: _) => s.documentation body
  | .node .classDef _ (_ :: _ :: _ :: .list body :: _) => s.documentation body
  | _ => s

end Sighting

mutual

/-- What has been seen after a tree. -/
def survey (s : Sighting) : Tree → Sighting
  | .list items => surveyAll s items
  | .node kind line fields => surveyAll (s.look (.node kind line fields)) fields
  | _ => s
termination_by structural t => t

def surveyAll (s : Sighting) : List Tree → Sighting
  | [] => s
  | t :: rest => surveyAll (survey s t) rest
termination_by structural ts => ts

end

/-- The modules that a test refers to, in ascending order.  Only labels are restricted to the known
modules. -/
def references (known : Option (List String)) (test : Tree) : List String :=
  let seen := survey {} test
  Text.sortedSet (seen.modules ++ seen.labels.filterMap (moduleOfLabel? known))

/-! ## The dependency map -/

/-- The pairs of a module and a test file that refers to it, in the order they were found. -/
structure DependencyMap where
  pairs : List (String × String) := []
deriving DecidableEq, Repr, Inhabited

namespace DependencyMap

def add (d : DependencyMap) (module test : String) : DependencyMap :=
  if d.pairs.contains (module, test) then d else ⟨d.pairs ++ [(module, test)]⟩

/-- The test files of a module, in ascending order. -/
def testsFor (d : DependencyMap) (module : String) : List String :=
  Text.sortedSet ((d.pairs.filter fun p => p.1 == module).map (·.2))

/-- All modules, in ascending order. -/
def modules (d : DependencyMap) : List String := Text.sortedSet (d.pairs.map (·.1))

/-- A test file with all modules it refers to. -/
def addTest (d : DependencyMap) (test : String) (modules : List String) : DependencyMap :=
  modules.foldl (fun d module => d.add module test) d

/-- The tests of a mutation, found through the module of its file. -/
def testsForMutation (d : DependencyMap) (moduleOf : String → Option String) (m : Mutation) :
    List String :=
  match moduleOf m.filePath with
  | none => []
  | some module => d.testsFor module

end DependencyMap

end MutationTesting.Dependencies
