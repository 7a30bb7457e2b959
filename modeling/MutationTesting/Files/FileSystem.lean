import MutationTesting.Files.Resolution

/-!
# The file system

A store seen from a current directory.  Reading looks through links; removing takes away the link
itself.  Files are changed one after the other.  The first change that fails stops those after it,
but what was changed before stays changed.
-/

namespace MutationTesting.Files

structure FileSystem where
  store : Store
  /-- The current directory, by its real path. -/
  directory : Path
deriving DecidableEq, Repr

namespace FileSystem

/-- The path of an address. -/
def pathOf (address : Address) : Path := "/" ++ String.intercalate "/" address

def absolute (fs : FileSystem) (path : Path) : Path := Path.absolute fs.directory path

/-- What a path leads to when all links are followed. -/
def entry? (fs : FileSystem) (path : Path) : Option Entry :=
  match fs.store.locate true fs.directory path with
  | .ok (_, entry) => entry
  | .error _ => none

/-- Whether there is anything at a path, be it a link that leads nowhere. -/
def holds (fs : FileSystem) (path : Path) : Bool :=
  match fs.store.locate false fs.directory path with
  | .ok (_, entry) => entry.isSome
  | .error _ => false

def leadsSomewhere (fs : FileSystem) (path : Path) : Bool := (fs.entry? path).isSome

def isFile (fs : FileSystem) (path : Path) : Bool :=
  match fs.entry? path with
  | some (.file _) => true
  | _ => false

def isDirectory (fs : FileSystem) (path : Path) : Bool := decide (fs.entry? path = some .directory)

/-- The content of a file. -/
def read (fs : FileSystem) (path : Path) : Except FileError Bytes := do
  match ← fs.store.locate true fs.directory path with
  | (_, some (.file content)) => pure content
  | (_, some .directory) => throw .isDirectory
  | _ => throw .notFound

/-- Gives a file a content.  A file that is missing is created, in a directory that is there. -/
def write (fs : FileSystem) (path : Path) (content : Bytes) : Except FileError FileSystem := do
  match ← fs.store.locate true fs.directory path with
  | (_, some .directory) => throw .isDirectory
  | (address, _) => pure { fs with store := fs.store.put address (.file content) }

/-- Takes away a file or a link. -/
def remove (fs : FileSystem) (path : Path) : Except FileError FileSystem := do
  match ← fs.store.locate false fs.directory path with
  | (_, none) => throw .notFound
  | (_, some .directory) => throw .isDirectory
  | (address, _) => pure { fs with store := fs.store.erase address }

/-- The names in a directory. -/
def names (fs : FileSystem) (path : Path) : List String :=
  match fs.store.locate true fs.directory path with
  | .ok (address, some .directory) => fs.store.namesBelow address
  | _ => []

/-- The path with all links resolved. -/
def realPath (fs : FileSystem) (path : Path) : Path :=
  pathOf (fs.store.realAddress fs.directory path)

/-- A directory at a path, with the directories above it. -/
def withDirectory (s : Store) (above : Address) : List String → Store
  | [] => s
  | name :: rest =>
    let address := above ++ [name]
    withDirectory (if (s.get? address).isSome then s else s.put address .directory) address rest

/-- The store with an entry at an address, in directories that are created as needed. -/
def plant (s : Store) (address : Address) (entry : Entry) : Store :=
  (withDirectory s [] address.dropLast).put address entry

end FileSystem

/-- A change to a file. -/
inductive Edit where
  | write (path : Path) (content : Bytes)
  | remove (path : Path)
deriving DecidableEq, Repr

/-- What an attempt to change files leaves behind. -/
structure Changed where
  files : FileSystem
  /-- What stopped the attempt before its end. -/
  failure : Option FileError
deriving DecidableEq, Repr

namespace FileSystem

/-- Makes one change. -/
def edit (fs : FileSystem) : Edit → Except FileError FileSystem
  | .write path content => fs.write path content
  | .remove path => fs.remove path

/-- Makes changes in their order. -/
def editAll (fs : FileSystem) : List Edit → Changed
  | [] => ⟨fs, none⟩
  | first :: rest =>
    match fs.edit first with
    | .ok fs => editAll fs rest
    | .error e => ⟨fs, some e⟩

end FileSystem

end MutationTesting.Files
