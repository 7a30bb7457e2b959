/-!
# Isolation of mutants

Mutants of one file must not disturb each other.  Either one at a time changes the file itself, or
each works on a copy of the project.
-/

namespace MutationTesting.Run

/-- How mutants are kept from disturbing each other. -/
inductive Isolation where
  /-- The file itself is changed, by one mutant at a time. -/
  | lock
  /-- Every slot has a copy of the project. -/
  | sandbox
deriving DecidableEq, Repr

namespace Isolation

def name : Isolation → String
  | lock => "lock"
  | sandbox => "sandbox"

def all : List Isolation := [lock, sandbox]

def ofName? (name : String) : Option Isolation := all.find? (·.name == name)

end Isolation

end MutationTesting.Run
