import MutationTesting.Files.FileSystem
import MutationTesting.Files.Glob
import MutationTesting.Mutation.Mutant
import MutationTesting.Text.Utf8

/-!
# A mutant in place of a file

While tests run, the file holds the mutant and a backup beside it holds the original.  Afterwards the
file has its original bytes again, whatever the tests did and however they ended.
-/

namespace MutationTesting.Run

open MutationTesting.Files

/-- Why a file does not hold the mutant. -/
inductive PatchError where
  | mutant (cause : MutantError)
  | file (cause : FileError)
deriving DecidableEq, Repr

/-- A file that holds a mutant. -/
structure Patch where
  target : Path
  original : Bytes
deriving DecidableEq, Repr

def backupPath (target : Path) : Path := target ++ ".backup"

def encoded (text : String) : Bytes := Text.Utf8.encode text.toList

/-- The pattern of the compiled files of a source file.  They stay valid for a changed source of the
same size, so they have to go. -/
def compiledPattern (fs : FileSystem) (path : Path) : Path :=
  let path := fs.absolute path
  let stem := Path.withoutExtension (Path.baseName path)
  Path.join (Path.join (Glob.escape (Path.parent path)) "__pycache__")
    (Glob.escape stem ++ ".*.pyc")

/-- What the removal of files comes to. -/
structure Removal where
  files : FileSystem
  removed : List Path
  /-- What stopped the removal before its end. -/
  failure : Option FileError
deriving DecidableEq, Repr

/-- Removes files one by one, passing over those that are gone already. -/
def removeAll (fs : FileSystem) : List Path → Removal
  | [] => ⟨fs, [], none⟩
  | path :: rest =>
    match fs.remove path with
    | .ok fs' =>
      let others := removeAll fs' rest
      { others with removed := path :: others.removed }
    | .error .notFound => removeAll fs rest
    | .error e => ⟨fs, [], some e⟩

/-- Removes the compiled files of a source file. -/
def invalidateCompiled (fs : FileSystem) (path : Path) : Removal :=
  removeAll fs (Glob.expand fs (compiledPattern fs path))

namespace Patch

/-- Puts the mutant of a mutation into a file.  The mutant is written out before any file is
touched. -/
def enter (fs : FileSystem) (m : Mutation) (source : SourceFile) (target : Path) (strict : Bool) :
    Except PatchError (FileSystem × Patch) := do
  let mutant ← (m.render source strict).mapError .mutant
  let original ← (fs.read target).mapError .file
  let fs ← (fs.write (backupPath target) original).mapError .file
  let fs ← (fs.write target (encoded mutant)).mapError .file
  pure (fs, ⟨target, original⟩)

/-- Removes a file if it is there. -/
def discard (fs : FileSystem) (path : Path) : Except FileError FileSystem :=
  match fs.remove path with
  | .error .notFound => .ok fs
  | result => result

/-- Gives the file its original bytes back, then removes the backup and the compiled files. -/
def leave (fs : FileSystem) (p : Patch) : Changed :=
  match fs.write p.target p.original with
  | .error e => ⟨fs, some e⟩
  | .ok fs =>
    match discard fs (backupPath p.target) with
    | .error e => ⟨fs, some e⟩
    | .ok fs =>
      let cleared := invalidateCompiled fs p.target
      ⟨cleared.files, cleared.failure⟩

end Patch

/-- How a block ends that has a mutant in place of a file. -/
inductive BlockEnding (Failure : Type) where
  /-- The block is not entered. -/
  | refused (cause : PatchError)
  | completed
  /-- The block itself fails. -/
  | raised (failure : Failure)
  /-- Clearing away fails, whether or not the block has failed. -/
  | stuck (cause : FileError)
deriving DecidableEq, Repr

/-- The ending that a block brings about itself. -/
def BlockEnding.own {Failure : Type} : Option Failure → BlockEnding Failure
  | none => .completed
  | some failure => .raised failure

/-- What becomes of the files around a block. -/
structure BlockRun (Failure : Type) where
  /-- What the block finds, if it is entered. -/
  inside : Option FileSystem
  files : FileSystem
  ending : BlockEnding Failure
deriving DecidableEq, Repr

namespace Patch

/-- Puts the file back after an ending, which a failure to do so hides. -/
def close {Failure : Type} (p : Patch) (inside : Option FileSystem) (files : FileSystem)
    (ending : BlockEnding Failure) : BlockRun Failure :=
  let left := p.leave files
  ⟨inside, left.files, (left.failure.map BlockEnding.stuck).getD ending⟩

/-- Runs a block with the mutant in place of a file.  From the moment the backup is written the file
is put back, whatever happens. -/
def during {Failure : Type} (fs : FileSystem) (m : Mutation) (source : SourceFile) (target : Path)
    (strict : Bool) (body : FileSystem → FileSystem × Option Failure) : BlockRun Failure :=
  match m.render source strict with
  | .error e => ⟨none, fs, .refused (.mutant e)⟩
  | .ok mutant =>
    match fs.read target with
    | .error e => ⟨none, fs, .refused (.file e)⟩
    | .ok original =>
      match fs.write (backupPath target) original with
      | .error e => ⟨none, fs, .refused (.file e)⟩
      | .ok saved =>
        match saved.write target (encoded mutant) with
        | .error e => close ⟨target, original⟩ none saved (.refused (.file e))
        | .ok patched =>
          let (left, failure) := body patched
          close ⟨target, original⟩ (some patched) left (.own failure)

end Patch

end MutationTesting.Run
