import MutationTesting.Mutation.Patch
import MutationTesting.Source.Parse
import MutationTesting.Source.Print.Render
import MutationTesting.Text.Quoted

/-!
# Mutants

A mutant is the text of a program with one mutation in it.  `Mutation.render` applies the mutation,
writes the tree out and makes sure that the result is a program again.
-/

namespace MutationTesting

/-- A program file to mutate. -/
structure SourceFile where
  path : String
  tree : Tree
  /-- The dotted name under which the file can be imported. -/
  moduleId : Option String
  source : String
deriving DecidableEq, Repr

/-- A mutation that fits no node of the tree it is applied to. -/
structure Mismatch where
  filePath : String
  line : Int
  description : String
deriving DecidableEq, Repr

def Mismatch.message (e : Mismatch) : String :=
  "no node matches " ++ Text.quoted e.description ++ " at " ++ e.filePath ++ ":" ++
    Decimal.ofInt e.line

/-- Why a mutant is not a program. -/
inductive Defect where
  | cannotRender
  | doesNotCompile
  | failedToLoad
deriving DecidableEq, Repr

/-- What is wrong with a mutant; the details that follow a colon are left out. -/
def Defect.summary : Defect → String
  | cannotRender => "cannot render mutated tree"
  | doesNotCompile => "mutant does not compile"
  | failedToLoad => "mutant failed to load"

/-- Why there is no mutant. -/
inductive MutantError where
  | search (cause : SearchError)
  | mismatch (cause : Mismatch)
  | invalid (cause : Defect)
deriving DecidableEq, Repr

namespace Mutation

def mismatch (m : Mutation) : Mismatch := ⟨m.filePath, m.line, m.description⟩

/-- The text of a tree, if it has one. -/
def writeTree (t : Tree) : Except MutantError String :=
  match Source.unparseText? t with
  | some text => .ok text
  | none => .error (.invalid .cannotRender)

/-- The mutant of a file.  A mutation that fits nothing leaves the program as it was, or is an
error when `strict`. -/
def render (m : Mutation) (file : SourceFile) (strict : Bool) : Except MutantError String := do
  let (patched, applied) ← (m.apply file.tree).mapError .search
  if strict && !applied then throw (.mismatch m.mismatch)
  let text ← writeTree patched
  if Source.compiles text then pure text else throw (.invalid .doesNotCompile)

end Mutation

end MutationTesting
