import Mathlib.Data.List.Induction
import MutationTesting.Files.Discovery
import MutationTesting.Proofs.Files.ModuleBase
import MutationTesting.Run.Sandbox

/-!
# The directory that a module is imported from

A module name spells the way from its base to its file, so climbing one directory for each part of
the name leads back to the base.  Package files have one name more on their way; they are told
from others by the path as it is written.
-/

namespace MutationTesting.Run

open MutationTesting.Files
open MutationTesting.Text (isIdentifier pieces)
open MutationTesting.Files.FileSystem (pathOf)
open MutationTesting.Files.Path (IsComponent leadingSlashes)

/-- The path that some names lead to, one after another. -/
def joinAll (base : Path) (parts : List String) : Path := parts.foldl Path.join base

theorem joinAll_pathOf {base : Address} {parts : List String}
    (hall : ∀ name ∈ base ++ parts, IsComponent name) :
    joinAll (pathOf base) parts = pathOf (base ++ parts) := by
  induction parts generalizing base with
  | nil => rw [List.append_nil]; rfl
  | cons part rest ih =>
      rw [List.append_cons] at hall ⊢
      have hpart := Path.isComponent_concat_iff.mp fun name hname =>
        hall name (List.mem_append_left rest hname)
      rw [← ih hall, ← Path.join_pathOf_name hpart.1 hpart.2]
      rfl

/-- In whatever directory the file of a module is, the parts of the name lead there. -/
theorem joinAll_of_leadsToModule {base place : Address} {parts : List String}
    (hall : ∀ name ∈ base ++ place, IsComponent name) (hleads : LeadsToModule parts place)
    (hparts : ∀ part ∈ parts, isIdentifier part.toList = true) (hnonempty : parts ≠ []) :
    joinAll (pathOf base) parts ++
        (if Path.baseName (pathOf (base ++ place)) = packageFileName
          then "/" ++ packageFileName else sourceExtension) = pathOf (base ++ place) := by
  cases hleads with
  | package =>
      rw [← List.append_assoc] at hall ⊢
      rw [Path.isComponent_concat_iff] at hall
      rw [Path.baseName_pathOf hall.1 hall.2, if_pos rfl, joinAll_pathOf hall.1,
        Path.pathOf_append (List.append_ne_nil_of_right_ne_nil base hnonempty)
          (List.cons_ne_nil _ _), String.intercalate_singleton, String.append_assoc]
  | file front stem hextension hstem =>
      rw [← List.append_assoc] at hall ⊢
      rw [Path.isComponent_concat_iff] at hall
      have hother : stem ++ sourceExtension ≠ packageFileName := by
        intro hsame
        exact hstem (by simpa [packageFileName] using hsame)
      have hjoined : ∀ name ∈ base ++ (front ++ [stem]), IsComponent name := by
        rw [← List.append_assoc]
        exact Path.isComponent_concat_iff.mpr
          ⟨hall.1, isComponent_of_isIdentifier (hparts stem (by simp))⟩
      rw [Path.baseName_pathOf hall.1 hall.2, if_neg hother, joinAll_pathOf hjoined,
        ← List.append_assoc, Path.pathOf_concat_append]

namespace Sandbox

theorem ancestor_pathOf {base place : Address} (hall : ∀ name ∈ base ++ place, IsComponent name) :
    ancestor place.length (pathOf (base ++ place)) = pathOf base := by
  induction place using List.reverseRecOn with
  | nil => rw [List.append_nil]; rfl
  | append_singleton front last ih =>
      rw [← List.append_assoc] at hall ⊢
      rw [Path.isComponent_concat_iff] at hall
      rw [List.length_append, List.length_singleton, ancestor, Path.parent_pathOf hall.1 hall.2]
      exact ih hall.1

theorem importRoot_of_name {source : SourceFile} {name : String} (directory : Path)
    (hsource : source.moduleId = some name) (hname : name ≠ "") :
    importRoot directory source = ancestor
      (name.toList.count '.' +
        if Path.withoutExtension (Path.baseName source.path) = packageFile then 1 else 0)
      (Path.parent (Path.absolute directory source.path)) := by
  rw [importRoot, hsource]
  split
  · next hnone => cases hnone
  · next hempty => exact absurd (Option.some.inj hempty) hname
  · next hsame =>
      cases hsame
      rfl

theorem ancestor_eq_pathOf_iff {base parts : Address} {levels : Nat} (climbsMore : Prop)
    [Decidable climbsMore] (hall : ∀ name ∈ base ++ parts, IsComponent name)
    (hlevels : parts.length = levels + 1) :
    ancestor (levels + if climbsMore then 1 else 0) (pathOf (base ++ parts)) = pathOf base ↔
      climbsMore := by
  by_cases hmore : climbsMore
  · rw [if_pos hmore, ← hlevels, ancestor_pathOf hall]
    exact iff_of_true rfl hmore
  · rw [if_neg hmore, Nat.add_zero]
    refine iff_of_false (fun hsame => ?_) hmore
    obtain ⟨first, rest, rfl⟩ := List.exists_cons_of_length_eq_add_one hlevels
    have hbase : ∀ name ∈ base, IsComponent name :=
      fun name hname => hall name (List.mem_append_left _ hname)
    have hfirst : ∀ name ∈ base ++ [first], IsComponent name := by
      refine Path.isComponent_concat_iff.mpr ⟨hbase, hall first ?_⟩
      exact List.mem_append_right base List.mem_cons_self
    rw [List.append_cons] at hall hsame
    rw [List.length_cons, Nat.add_right_cancel_iff] at hlevels
    rw [← hlevels, ancestor_pathOf hall] at hsame
    have hnames := congrArg (fun path => (Path.names path).length) hsame
    simp [Path.names_pathOf hfirst, Path.names_pathOf hbase] at hnames

end Sandbox

theorem isName_of_withoutExtension {name : String}
    (hname : Path.withoutExtension name = packageFile) : Store.IsName name := by
  refine ⟨?_, ?_, ?_⟩
  all_goals
    rintro rfl
    exact absurd hname (by decide)

section Climbing

variable {here base : Address} {path : Path} {parts : List String}
  (hhere : ∀ name ∈ here, IsComponent name) (hpath : leadingSlashes path ≠ "//")

include hhere hpath

/-- A path that is written as one of a package file is that of a package file. -/
theorem baseName_of_withoutExtension
    (hwritten : Path.withoutExtension (Path.baseName path) = packageFile) :
    Path.baseName (Path.absolute (pathOf here) path) = Path.baseName path :=
  Path.baseName_absolute hhere hpath (isName_of_withoutExtension hwritten)

theorem withoutExtension_baseName_iff
    (hpackage : Path.baseName (Path.absolute (pathOf here) path) = packageFileName) :
    Path.withoutExtension (Path.baseName path) = packageFile ↔
      Path.baseName path = packageFileName := by
  constructor
  · intro hwritten
    rw [← baseName_of_withoutExtension hhere hpath hwritten, hpackage]
  · intro hwritten
    rw [hwritten]
    decide

theorem withoutExtension_baseName_ne {stem : String}
    (hextension : Path.withoutExtension (stem ++ sourceExtension) = stem)
    (hstem : stem ≠ packageFile)
    (hfile : Path.baseName (Path.absolute (pathOf here) path) = stem ++ sourceExtension) :
    Path.withoutExtension (Path.baseName path) ≠ packageFile := by
  intro hwritten
  rw [← baseName_of_withoutExtension hhere hpath hwritten, hfile, hextension] at hwritten
  exact hstem hwritten

end Climbing

section Inverse

variable {here : Address} {searchPath : List Path} {root : Option Path} {path : Path}
variable {name : String}
  (hhere : ∀ name ∈ here, IsComponent name) (hpath : leadingSlashes path ≠ "//")
  (hroot : ∀ path ∈ root, leadingSlashes path ≠ "//")
  (hsearch : ∀ path ∈ searchPath, leadingSlashes path ≠ "//")
  (hname : moduleName? ⟨pathOf here, searchPath⟩ root path = some name)

include hhere hpath hroot hsearch hname

/-- The parts of its name lead from the base to the file of a module. -/
theorem absolute_eq_joinAll :
    Path.absolute (pathOf here) path =
      joinAll (moduleBase ⟨pathOf here, searchPath⟩ root path) (pieces '.' name) ++
        (if Path.baseName (Path.absolute (pathOf here) path) = packageFileName
          then "/" ++ packageFileName else sourceExtension) := by
  obtain ⟨base, place, hall, hbase, hfile, hleads, hparts⟩ :=
    exists_place_of_moduleName? hhere hpath hroot hsearch hname
  rw [hbase, hfile]
  exact (joinAll_of_leadsToModule hall hleads hparts
    (List.ne_nil_of_length_eq_add_one (Text.length_pieces '.' name))).symm

/-- Climbing leads back to the base unless a package file is not recognised. -/
theorem importRoot_eq_moduleBase_iff {source : SourceFile} (hsource : source.path = path)
    (hmodule : source.moduleId = some name) :
    Sandbox.importRoot (pathOf here) source = moduleBase ⟨pathOf here, searchPath⟩ root path ↔
      (Path.baseName (Path.absolute (pathOf here) path) = packageFileName →
        Path.baseName path = packageFileName) := by
  obtain ⟨base, place, hall, hbase, hfile, hleads, -⟩ :=
    exists_place_of_moduleName? hhere hpath hroot hsearch hname
  have hcount := Text.length_pieces '.' name
  have hempty : name ≠ "" := (isDottedName_of_moduleName? hname).ne_empty
  rw [Sandbox.importRoot_of_name (pathOf here) hmodule hempty, hsource, hbase]
  generalize pieces '.' name = parts at hleads hcount
  cases hleads with
  | package =>
      rw [← List.append_assoc] at hall hfile
      rw [Path.isComponent_concat_iff] at hall
      have hpackage : Path.baseName (Path.absolute (pathOf here) path) = packageFileName :=
        hfile ▸ Path.baseName_pathOf hall.1 hall.2
      have hwritten := withoutExtension_baseName_iff hhere hpath hpackage
      rw [hfile, Path.parent_pathOf hall.1 hall.2]
      refine (Sandbox.ancestor_eq_pathOf_iff _ hall.1 hcount).trans (hwritten.trans ?_)
      exact ⟨fun hlast _ => hlast, fun hlast => hlast (hfile ▸ hpackage)⟩
  | file front stem hextension hstem =>
      rw [← List.append_assoc] at hall hfile
      rw [Path.isComponent_concat_iff] at hall
      have hlast : Path.baseName (Path.absolute (pathOf here) path) = stem ++ sourceExtension :=
        hfile ▸ Path.baseName_pathOf hall.1 hall.2
      have hother : stem ++ sourceExtension ≠ packageFileName := by
        intro hsame
        exact hstem (by simpa [packageFileName] using hsame)
      rw [List.length_append, List.length_singleton, Nat.add_right_cancel_iff] at hcount
      rw [hlast, if_neg (withoutExtension_baseName_ne hhere hpath hextension hstem hlast), hfile,
        Path.parent_pathOf hall.1 hall.2, Nat.add_zero, ← hcount, Sandbox.ancestor_pathOf hall.1]
      exact iff_of_true rfl fun hpackage => absurd hpackage hother

end Inverse

/-- Package files that were loaded are always recognised. -/
theorem importRoot_of_loadFile? {fs : FileSystem} {here : Address} {searchPath : List Path}
    {root : Option Path} {excluded : List String} {path : Path} {source : SourceFile}
    {name : String}
    (hdirectory : fs.directory = pathOf here) (hhere : ∀ name ∈ here, IsComponent name)
    (hpath : leadingSlashes path ≠ "//") (hroot : ∀ path ∈ root, leadingSlashes path ≠ "//")
    (hsearch : ∀ path ∈ searchPath, leadingSlashes path ≠ "//")
    (hload : Discovery.loadFile? fs searchPath root excluded path = some source)
    (hmodule : source.moduleId = some name) :
    Sandbox.importRoot fs.directory source =
      moduleBase ⟨fs.directory, searchPath⟩ root source.path := by
  obtain ⟨hfile, hsource⟩ := Discovery.fields_of_loadFile? hload
  obtain ⟨address, haddress, hstored⟩ :=
    Discovery.exists_path_of_loadFile? hdirectory hhere hpath hload
  have hnormal := Path.absolute_pathOf (pathOf here) haddress
  rw [hstored, FileSystem.absolute, hdirectory] at hfile
  have hname : moduleName? ⟨pathOf here, searchPath⟩ root (pathOf address) = some name := by
    rw [hfile, moduleName?_absolute (by rw [← hfile, hnormal]), ← hmodule, hsource, hdirectory]
  rw [hdirectory, hstored]
  refine (importRoot_eq_moduleBase_iff hhere ?_ hroot hsearch hname hstored hmodule).mpr ?_
  · rw [Path.leadingSlashes_pathOf haddress]
    decide
  · rw [hnormal]
    exact id

/-- The directory that a module is imported from is the base of its name, and its file is found
there by the parts of the name.  Package files are recognised if their path ends with their
name. -/
theorem import_root_inverts_module_name (here : Address) (searchPath : List Path)
    (root : Option Path) (source : SourceFile) (name : String)
    (hhere : ∀ name ∈ here, IsComponent name) (hpath : leadingSlashes source.path ≠ "//")
    (hroot : ∀ path ∈ root, leadingSlashes path ≠ "//")
    (hsearch : ∀ path ∈ searchPath, leadingSlashes path ≠ "//")
    (hname : moduleName? ⟨pathOf here, searchPath⟩ root source.path = some name)
    (hsource : source.moduleId = some name) :
    let base := moduleBase ⟨pathOf here, searchPath⟩ root source.path
    let file := Path.absolute (pathOf here) source.path
    file = joinAll base (pieces '.' name) ++
        (if Path.baseName file = packageFileName then "/" ++ packageFileName
          else sourceExtension) ∧
      (Sandbox.importRoot (pathOf here) source = base ↔
        (Path.baseName file = packageFileName → Path.baseName source.path = packageFileName)) := by
  intro base file
  exact ⟨absolute_eq_joinAll hhere hpath hroot hsearch hname,
    importRoot_eq_moduleBase_iff hhere hpath hroot hsearch hname rfl hsource⟩

/-- The file of a package, in the sources of a project. -/
def packageSource : SourceFile := ⟨"src/pkg/sub/__init__.py", .absent, some "pkg.sub", ""⟩

/-- The names of packages in the sources of a project start at its `src`. -/
theorem package_imported_from_sources :
    moduleName? ⟨pathOf ["work"], []⟩ (some "/work") packageSource.path = packageSource.moduleId ∧
      moduleBase ⟨pathOf ["work"], []⟩ (some "/work") packageSource.path = "/work/src" ∧
      Sandbox.importRoot (pathOf ["work"]) packageSource = "/work/src" := by
  have hhere : ∀ name ∈ ["work"], IsComponent name := by
    rw [List.forall_mem_singleton]
    decide
  have hname : moduleName? ⟨pathOf ["work"], []⟩ (some "/work") packageSource.path =
      some "pkg.sub" := by decide +kernel
  have hbase : moduleBase ⟨pathOf ["work"], []⟩ (some "/work") packageSource.path =
      "/work/src" := by
    decide +kernel
  have hinverts := import_root_inverts_module_name ["work"] [] (some "/work") packageSource
    "pkg.sub" hhere (by decide) (by rintro path ⟨⟩; decide) (by simp) hname rfl
  refine ⟨hname, hbase, ?_⟩
  rw [← hbase]
  exact hinverts.2.mpr fun _ => by decide

/-- A package file whose path does not end with its name. -/
def packageSpelledOut : SourceFile := ⟨"pkg/__init__.py/.", .absent, some "pkg", ""⟩

/-- A point after the name of a package file hides it, so that the package itself is taken for the
directory that its module is imported from. -/
theorem package_imported_from_itself :
    moduleName? ⟨"/work", []⟩ (some "/work") packageSpelledOut.path = packageSpelledOut.moduleId ∧
      moduleBase ⟨"/work", []⟩ (some "/work") packageSpelledOut.path = "/work" ∧
      Sandbox.importRoot "/work" packageSpelledOut = "/work/pkg" := by
  refine ⟨?_, ?_, ?_⟩ <;> decide +kernel

end MutationTesting.Run
