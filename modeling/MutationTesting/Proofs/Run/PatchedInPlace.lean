import MutationTesting.Proofs.Files.ModuleBase
import MutationTesting.Proofs.Run.SteadyProject

/-!
# Mutants of a file in its own project

A file can be patched again and again where it is, unless a directory is where the backup has to be
or among the compiled files.  Its path may be written out, as the paths of loaded files are.
-/

namespace MutationTesting.Run

open MutationTesting.Files
open MutationTesting.Files.FileSystem (pathOf)
open MutationTesting.Files.Path (IsComponent)
open MutationTesting.Testing

/-- A file in a project of directories and regular files.  The names have no slashes in them, and
the paths of the project and of the file are written out from the root on. -/
structure PlainSource (a : Assignment) (start : FileSystem) (root : Address) (dirs : List String)
    (last : String) (original : Bytes) : Prop where
  absolute : Path.isAbsolute start.directory = true
  project : start.store.locate true start.directory (a.project start) = .ok (root, some .directory)
  regular : (start.store.inside root).IsRegular
  named : ∀ place entry, start.store.inside root place = some entry →
    ∀ name ∈ place, IsComponent name
  stored : start.store.inside root (dirs ++ [last]) = some (.file original)
  project_path : a.project start = pathOf (Path.names (a.project start))
  source_path : Path.join start.directory a.source.path =
    pathOf (Path.names (a.project start) ++ (dirs ++ [last]))

/-- Loaded files are stored with such paths. -/
theorem PlainSource.of_loadFile? {a : Assignment} {start : FileSystem} {root here : Address}
    {dirs : List String} {last : String} {original : Bytes} {searchPath : List Path}
    {scope : Option Path} {excluded : List String} {path : Path}
    (hdirectory : start.directory = pathOf here) (hhere : ∀ name ∈ here, IsComponent name)
    (hinvocation : ∀ directory ∈ a.options.invocation.directory,
      Path.leadingSlashes directory ≠ "//")
    (hpath : Path.leadingSlashes path ≠ "//")
    (hload : Discovery.loadFile? start searchPath scope excluded path = some a.source)
    (hbelow : Path.names (start.absolute a.source.path) =
      Path.names (a.project start) ++ (dirs ++ [last]))
    (hproject : start.store.locate true start.directory (a.project start) =
      .ok (root, some .directory))
    (hregular : (start.store.inside root).IsRegular)
    (hnamed : ∀ place entry, start.store.inside root place = some entry →
      ∀ name ∈ place, IsComponent name)
    (hstored : start.store.inside root (dirs ++ [last]) = some (.file original)) :
    PlainSource a start root dirs last original := by
  obtain ⟨file, hfile, hsource⟩ := Discovery.exists_path_of_loadFile? hdirectory hhere hpath hload
  obtain ⟨above, habove, hspelled⟩ : ∃ above, (∀ name ∈ above, IsComponent name) ∧
      a.project start = pathOf above := by
    rw [Assignment.project]
    simp only [FileSystem.absolute, hdirectory]
    split
    · exact ⟨here, hhere, Path.absolute_pathOf _ hhere⟩
    · exact ⟨here, hhere, Path.absolute_pathOf _ hhere⟩
    · next directory _ hsome =>
        exact Path.exists_absolute_eq_pathOf hhere (hinvocation directory hsome)
  rw [hsource, FileSystem.absolute, Path.absolute_pathOf _ hfile, Path.names_pathOf hfile] at hbelow
  refine ⟨?_, hproject, hregular, hnamed, hstored, ?_, ?_⟩
  · rw [hdirectory]
    exact Path.isAbsolute_pathOf here
  · rw [hspelled, Path.names_pathOf habove]
  · rw [hsource, Path.join_absolute (Path.isAbsolute_pathOf file), hbelow]

/-- Whether no directory is where the backup of a file has to be, or among its compiled files. -/
structure Unobstructed (c : Contents) (dirs : List String) (last : String) : Prop where
  backup : c (backupIn dirs last) ≠ some .directory
  compiled : ∀ name, matchesPattern (compiledName last) name = true →
    c (dirs ++ ["__pycache__"] ++ [name]) ≠ some .directory

namespace PlainSource

variable {a : Assignment} {start : FileSystem} {root : Address} {dirs : List String}
variable {last : String} {original : Bytes}

/-- A path that is written out leads to the file. -/
theorem sourceInProject (hplain : PlainSource a start root dirs last original) :
    SourceInProject a start root dirs last original := by
  have hproject := hplain.project
  have hstored := hplain.stored
  have hplace := hplain.named _ _ hstored
  have habove := a.isComponent_project hplain.absolute
  have hall := List.forall_mem_append.mpr ⟨habove, hplace⟩
  obtain ⟨hdirs, hlast⟩ := Path.isComponent_concat_iff.mp hplace
  refine ⟨hplain.absolute, hproject, hplain.project_path, hplain.regular, hplain.named, ?_, ?_⟩
  · rw [hplain.project_path] at hproject
    apply Store.locate_of_join_eq habove hproject hplace (by simp)
      (Path.ne_empty_of_join_eq hplain.absolute (by simp) hall hplain.source_path)
      hplain.source_path
    refine Store.trail_below hdirs (fun upper hupper => ?_) hlast hstored (by simp [Store.CanEnd])
    obtain ⟨rest, rfl⟩ := hupper
    rw [List.append_assoc] at hstored
    exact hplain.regular.directory (by simp) hstored
  · rw [FileSystem.absolute, Path.absolute, hplain.source_path, Path.normalize_pathOf hall]

end PlainSource

section Patching

variable {a : Assignment} {start : FileSystem} {root : Address} {dirs : List String}
variable {last : String} {original : Bytes}
variable (hunobstructed : Unobstructed (start.store.inside root) dirs last)
variable (hsource : SourceInProject a start root dirs last original)
variable (hfree : a.options.isolation = .sandbox →
  ∀ slot rest, start.store.get? (copyParent slot ++ rest) = none)

include hunobstructed hsource hfree

theorem first_hindrances : (a.hindrances start root dirs last).first = none := by
  obtain ⟨-, -, hcleared⟩ := (Steady.refl hsource.stored).invalidateCompiled hsource hfree
  have hclearing : (invalidateCompiled start a.source.path).failure = none := by
    refine hcleared ?_
    rintro ⟨name, ⟨-, hmatch⟩, hstored⟩
    exact hunobstructed.compiled name hmatch hstored
  rw [Hindrances.first_eq_none_iff, Hindrances.IsOpen, Assignment.hindrances,
    if_neg hunobstructed.backup, hclearing]
  exact ⟨⟨rfl, rfl⟩, rfl⟩

/-- A file in its project can be patched again and again. -/
theorem SourceInProject.patchable :
    Patchable a.source.path (Steady a start root dirs last) :=
  (workable_steady hsource hfree).patchable (first_hindrances hunobstructed hsource hfree)

end Patching

end MutationTesting.Run
