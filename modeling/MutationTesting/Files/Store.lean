import MutationTesting.Files.Path

/-!
# The stored files

A store maps addresses to what is stored there.  An address lists the names from the root down, so
it has one form only, unlike a path.
-/

namespace MutationTesting.Files

/-- The names from the root down. -/
abbrev Address := List String

abbrev Bytes := List UInt8

inductive Entry where
  | file (content : Bytes)
  /-- A symbolic link, with the path it stands for. -/
  | link (target : Path)
  | directory
deriving DecidableEq, Repr, Inhabited

/-- Everything stored below the root. -/
structure Store where
  entries : List (Address × Entry) := []
deriving DecidableEq, Repr, Inhabited

namespace Store

/-- What is stored at an address.  The root is always a directory. -/
def get? (s : Store) (address : Address) : Option Entry :=
  if address = [] then some .directory else s.entries.lookup address

def replaceAt (address : Address) (entry : Entry) :
    List (Address × Entry) → List (Address × Entry)
  | [] => [(address, entry)]
  | (a, e) :: rest =>
    if a = address then (a, entry) :: rest else (a, e) :: replaceAt address entry rest

/-- The store with an entry at an address, which replaces what was there. -/
def put (s : Store) (address : Address) (entry : Entry) : Store :=
  ⟨replaceAt address entry s.entries⟩

/-- The store with nothing at an address. -/
def erase (s : Store) (address : Address) : Store :=
  ⟨s.entries.filter fun e => !decide (e.1 = address)⟩

/-- The names directly below an address. -/
def namesBelow (s : Store) (address : Address) : List String :=
  s.entries.filterMap fun (a, _) =>
    if a ≠ [] ∧ a.dropLast = address then a.getLast? else none

/-- The entries below an address, each with the names that lead there. -/
def below (s : Store) (address : Address) : List (Address × Entry) :=
  s.entries.filterMap fun (a, e) =>
    if address.isPrefixOf a && a ≠ address then some (a.drop address.length, e) else none

/-- The store without an address and all below it. -/
def eraseTree (s : Store) (address : Address) : Store :=
  ⟨s.entries.filter fun e => !address.isPrefixOf e.1⟩

end Store

/-- Why a file operation fails. -/
inductive FileError where
  | notFound
  | notDirectory
  | isDirectory
  | tooManyLinks
deriving DecidableEq, Repr

namespace FileError

/-- The number by which the system names the cause. -/
def code : FileError → Nat
  | notFound => 2
  | notDirectory => 20
  | isDirectory => 21
  | tooManyLinks => 40

def description : FileError → String
  | notFound => "No such file or directory"
  | notDirectory => "Not a directory"
  | isDirectory => "Is a directory"
  | tooManyLinks => "Too many levels of symbolic links"

end FileError

end MutationTesting.Files
