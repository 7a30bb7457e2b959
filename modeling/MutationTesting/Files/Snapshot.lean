import MutationTesting.Files.FileSystem

/-!
# Snapshots

A snapshot lists what a directory holds, at any depth: every file, and every link that does not lead
to a directory.
-/

namespace MutationTesting.Files

namespace FileSystem

/-- The entry at an address below a directory, if a snapshot shows it. -/
def shownEntry? (fs : FileSystem) (address : Address) (entry : Entry) : Option Entry :=
  match entry with
  | .directory => none
  | .link _ => if fs.isDirectory (pathOf address) then none else some entry
  | .file _ => some entry

/-- The files and links below a directory, with their paths seen from there. -/
def snapshot (fs : FileSystem) (directory : Path) : List (Path × Entry) :=
  match fs.store.locate true fs.directory directory with
  | .ok (address, some .directory) =>
    (fs.store.below address).filterMap fun (place, entry) =>
      (fs.shownEntry? (address ++ place) entry).map fun entry =>
        (String.intercalate "/" place, entry)
  | _ => []

end FileSystem

end MutationTesting.Files
