import MutationTesting.Files.Path
import MutationTesting.Mutation.Mutant

/-!
# A mutant in place of a module

Inside one process a mutant can be registered under the name of its module.  When the block around it
is left, the module that was registered before is registered again.
-/

namespace MutationTesting.Run

open MutationTesting.Files

/-- What is registered under the name of a module. -/
inductive Loaded where
  /-- A module object from before. -/
  | previous (object : Nat)
  /-- The mutant of the block with this number. -/
  | mutant (block : Nat)
deriving DecidableEq, Repr

/-- The registered modules by name. -/
structure Registry where
  modules : List (String × Loaded) := []
deriving DecidableEq, Repr, Inhabited

namespace Registry

def get? (r : Registry) (name : String) : Option Loaded := r.modules.lookup name

def erase (r : Registry) (name : String) : Registry :=
  ⟨r.modules.filter fun e => !decide (e.1 = name)⟩

def put (r : Registry) (name : String) (m : Loaded) : Registry := ⟨(name, m) :: (r.erase name).modules⟩

/-- The registry with a name as it was before. -/
def restore (r : Registry) (name : String) (before : Option Loaded) : Registry :=
  match before with
  | some m => r.put name m
  | none => r.erase name

end Registry

/-- The name a source file is loaded under. -/
def unitName (source : SourceFile) : String :=
  match source.moduleId with
  | none | some "" => Path.withoutExtension (Path.baseName source.path)
  | some name => name

/-- The package of a module: all but the last part of its name. -/
def packageName (name : String) : String :=
  String.intercalate "." (Text.pieces '.' name).dropLast

/-- A module whose place a mutant has taken. -/
structure Displaced where
  name : String
  before : Option Loaded
deriving DecidableEq, Repr

namespace Displaced

/-- Registers the mutant of a block.  `runs` says whether the mutant can be executed. -/
def enter (r : Registry) (m : Mutation) (source : SourceFile) (strict runs : Bool) (block : Nat) :
    Except MutantError (Registry × Displaced) := do
  let _ ← m.render source strict
  if !runs then throw (.invalid .failedToLoad)
  let name := unitName source
  pure (r.put name (.mutant block), ⟨name, r.get? name⟩)

def leave (d : Displaced) (r : Registry) : Registry := r.restore d.name d.before

end Displaced

/-- What a block is given: a mutation of a module, and whether its mutant can be executed. -/
structure Attempt where
  mutation : Mutation
  source : SourceFile
  strict : Bool
  runs : Bool
deriving DecidableEq, Repr

namespace Attempt

/-- The name that the mutant is registered under. -/
def name (b : Attempt) : String := unitName b.source

def enter (b : Attempt) (r : Registry) (block : Nat) : Except MutantError (Registry × Displaced) :=
  Displaced.enter r b.mutation b.source b.strict b.runs block

end Attempt

/-- What is done inside a block, or around blocks. -/
inductive Activity where
  | finish
  | fail (failure : String)
  /-- The module that the block has registered is taken out. -/
  | forget (next : Activity)
  /-- A block around another activity.  Where its errors are `caught`, the next activity follows
  even so. -/
  | nest (attempt : Attempt) (inner : Activity) (caught : Bool) (next : Activity)
deriving DecidableEq, Repr

/-- An error that leaves a block. -/
inductive BlockError where
  /-- The block is not entered. -/
  | refused (cause : MutantError)
  | raised (failure : String)
deriving DecidableEq, Repr

/-- A block that was tried, with the registry around it. -/
structure Passage where
  attempt : Attempt
  before : Registry
  /-- The number of the block and what it finds, if it is entered. -/
  inside : Option (Nat × Registry)
  after : Registry
  /-- The error that leaves the block. -/
  error : Option BlockError
deriving DecidableEq, Repr

/-- What an activity leaves. -/
structure Progress where
  registry : Registry
  /-- The number of the next block that is entered. -/
  block : Nat
  /-- The blocks tried, each before those inside it. -/
  passages : List Passage
  error : Option BlockError
deriving DecidableEq, Repr

/-- Goes on with another activity, unless there is an error that nobody catches. -/
def Progress.andThen (p : Progress) (caught : Bool) (next : Registry → Nat → Progress) :
    Progress :=
  if p.error.isSome && !caught then p
  else
    let rest := next p.registry p.block
    { rest with passages := p.passages ++ rest.passages }

/-- Runs a block around an activity.  However the activity ends, the block is left. -/
def Attempt.around (b : Attempt) (r : Registry) (block : Nat)
    (inner : Registry → Nat → Progress) : Progress :=
  match b.enter r block with
  | .error e => ⟨r, block, [⟨b, r, none, r, some (.refused e)⟩], some (.refused e)⟩
  | .ok (inside, displaced) =>
    let done := inner inside (block + 1)
    let left := displaced.leave done.registry
    ⟨left, done.block, ⟨b, r, some (block, inside), left, done.error⟩ :: done.passages, done.error⟩

namespace Activity

/-- Carries out an activity inside the block that has registered a module under a name. -/
def run : Activity → String → Registry → Nat → Progress
  | finish, _, r, block => ⟨r, block, [], none⟩
  | fail failure, _, r, block => ⟨r, block, [], some (.raised failure)⟩
  | forget next, own, r, block => next.run own (r.erase own) block
  | nest attempt inner caught next, own, r, block =>
    (attempt.around r block (inner.run attempt.name)).andThen caught (next.run own)

end Activity

end MutationTesting.Run
