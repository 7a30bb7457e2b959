import MutationTesting.Proofs.Files.RegularFiles
import MutationTesting.Proofs.Run.CopiedFile
import MutationTesting.Proofs.Run.Patchable

/-!
# A source file in its project

The path of a source file may lead to it in roundabout ways, over links and through other
directories, as long as it spells out a place in the project.  Then its backup is beside the file,
and its compiled files are those with matching names in the directory for them.
-/

namespace MutationTesting.Run

open MutationTesting.Files
open MutationTesting.Files.FileSystem (pathOf)
open MutationTesting.Files.Path (IsComponent)
open MutationTesting.Testing

/-- A file in a project of directories and regular files.  Its path leads to it, and is that of its
place in the project when it is made absolute. -/
structure SourceInProject (a : Assignment) (fs : FileSystem) (root : Address) (dirs : List String)
    (last : String) (content : Bytes) : Prop where
  absolute : Path.isAbsolute fs.directory = true
  project : fs.store.locate true fs.directory (a.project fs) = .ok (root, some .directory)
  project_path : a.project fs = pathOf (Path.names (a.project fs))
  regular : (fs.store.inside root).IsRegular
  named : ∀ place entry, fs.store.inside root place = some entry → ∀ name ∈ place, IsComponent name
  found : fs.store.locate false fs.directory a.source.path =
    .ok (root ++ (dirs ++ [last]), some (.file content))
  spelled : fs.absolute a.source.path = pathOf (Path.names (a.project fs) ++ (dirs ++ [last]))

/-- The place of a compiled file, by its name. -/
def compiledPlace (dirs : List String) (name : String) : Address :=
  dirs ++ ["__pycache__"] ++ [name]

/-- Whether a directory has the name of a compiled file. -/
def HasCompiledDirectory (c : Contents) (dirs : List String) (last : String) : Prop :=
  ∃ name, IsCompiledName last name ∧ c (compiledPlace dirs name) = some .directory

variable {a : Assignment} {fs : FileSystem} {root : Address} {dirs : List String} {last : String}
variable {content : Bytes}

namespace SourceInProject

variable (hsource : SourceInProject a fs root dirs last content)

include hsource

theorem stored : fs.store.inside root (dirs ++ [last]) = some (.file content) := by
  obtain ⟨-, links, -, htrail⟩ := Store.locate_eq_ok_iff.mp hsource.found
  exact htrail.get?_eq (by simp)

theorem opened : fs.store.locate true fs.directory a.source.path =
    .ok (root ++ (dirs ++ [last]), some (.file content)) := by
  obtain ⟨hpath, links, hlength, htrail⟩ := Store.locate_eq_ok_iff.mp hsource.found
  exact Store.locate_eq_ok_iff.mpr ⟨hpath, links, hlength, htrail.to_followed (by simp)⟩

theorem isComponent_place : ∀ name ∈ dirs ++ [last], IsComponent name :=
  hsource.named _ _ hsource.stored

theorem isComponent_project : ∀ name ∈ Path.names (a.project fs), IsComponent name :=
  a.isComponent_project hsource.absolute

/-- What stands at a place of the project stands in directories of the project. -/
theorem directories {place : Address} {rest : Address} {entry : Entry} (hrest : rest ≠ [])
    (hplace : fs.store.inside root (place ++ rest) = some entry) (upper : Address)
    (hupper : upper <+: place) : fs.store.get? (root ++ upper) = some .directory := by
  obtain ⟨more, rfl⟩ := hupper
  rw [List.append_assoc] at hplace
  exact hsource.regular.directory (by simp [hrest]) hplace

theorem ne_link (place : Address) (target : Path) :
    fs.store.get? (root ++ place) ≠ some (.link target) :=
  hsource.regular.no_links place target

/-- Without its last name the path of the file leads to the directory of the file. -/
theorem exists_folder : ∃ front links,
    Path.segments (Path.join fs.directory a.source.path) = front ++ [last] ∧
      links.length ≤ Store.maxLinks ∧
        fs.store.Trail true [] front links (root ++ dirs) (some .directory) := by
  obtain ⟨-, links, hlength, htrail⟩ := Store.locate_eq_ok_iff.mp hsource.found
  obtain ⟨front, leaf, hsegments⟩ :=
    (List.eq_nil_or_concat _).resolve_left (Path.segments_ne_nil _)
  rw [List.concat_eq_append] at hsegments
  rw [hsegments] at htrail
  obtain ⟨first, second, folder, rfl, hfirst, hsecond⟩ := htrail.exists_folder (by simp)
  obtain ⟨-, hplace⟩ := hsecond.of_single (by simp)
  rw [← List.append_assoc] at hplace
  obtain ⟨rfl, hleaf⟩ := List.append_inj' hplace rfl
  cases hleaf
  rw [List.length_append] at hlength
  exact ⟨front, first, hsegments, by omega, hfirst⟩

theorem trail_single (folder : Address) {name : String} (hname : IsComponent name)
    (followsLast : Bool) : fs.store.Trail followsLast (root ++ folder) [name] []
      (root ++ folder ++ [name]) (fs.store.get? (root ++ folder ++ [name])) := by
  refine Store.trail_single hname.1 fun target => ?_
  rw [List.append_assoc]
  exact hsource.ne_link _ target

/-- The backup is beside the file. -/
theorem locate_backup (followsLast : Bool) :
    fs.store.locate followsLast fs.directory (backupPath a.source.path) =
      .ok (root ++ backupIn dirs last, fs.store.inside root (backupIn dirs last)) := by
  obtain ⟨front, links, hsegments, hlength, hfolder⟩ := hsource.exists_folder
  obtain ⟨hpath, -⟩ := Store.locate_eq_ok_iff.mp hsource.found
  obtain ⟨-, hlast⟩ := Path.isComponent_concat_iff.mp hsource.isComponent_place
  have hname := hsource.trail_single dirs (isComponent_backup hlast) followsLast
  have htrail := hfolder.append rfl (by simp) hname
  rw [List.append_assoc] at htrail
  rw [Store.locate_eq_ok_iff, backupPath, Path.join_append hpath,
    Path.segments_append_of_not_mem (by decide) hsegments]
  exact ⟨by simp, links ++ [], by simpa using hlength, htrail⟩

/-- What stands in a directory of the project is found by its path, whether or not links are
followed. -/
theorem locate_below {folder : List String} {leaf : String}
    (hnames : ∀ name ∈ folder ++ [leaf], IsComponent name)
    (hdirectories : ∀ upper, upper <+: folder → fs.store.get? (root ++ upper) = some .directory)
    (followsLast : Bool) :
    fs.store.locate followsLast fs.directory
        (pathOf (Path.names (a.project fs) ++ (folder ++ [leaf]))) =
      .ok (root ++ (folder ++ [leaf]), fs.store.inside root (folder ++ [leaf])) := by
  obtain ⟨hfolder, hleaf⟩ := Path.isComponent_concat_iff.mp hnames
  have hproject := hsource.project
  rw [hsource.project_path] at hproject
  apply Store.locate_of_join_eq hsource.isComponent_project hproject hnames (by simp)
    (by simp [pathOf]) (Path.join_absolute (Path.isAbsolute_pathOf _))
  apply Store.trail_of_directories (fun name hname => (hfolder name hname).1)
    (fun upper _ hupper => hdirectories upper hupper)
  rw [← List.append_assoc]
  have hname := hsource.trail_single folder hleaf followsLast
  rwa [List.append_assoc root] at hname ⊢

/-- The compiled files of the file are those with matching names. -/
theorem mem_compiled_iff {compiled : Path} :
    compiled ∈ Glob.expand fs (compiledPattern fs a.source.path) ↔
      ∃ name, IsCompiledName last name ∧ fs.store.inside root (compiledPlace dirs name) ≠ none ∧
        compiled = pathOf (Path.names (a.project fs) ++ compiledPlace dirs name) := by
  obtain ⟨hdirs, hlast⟩ := Path.isComponent_concat_iff.mp hsource.isComponent_place
  have hcache := Path.isComponent_concat_iff.mpr ⟨hdirs, isComponent_cache⟩
  have habove := List.forall_mem_append.mpr ⟨hsource.isComponent_project, hdirs⟩
  have hall := List.forall_mem_append.mpr ⟨hsource.isComponent_project, hcache⟩
  have hspelled := hsource.spelled
  rw [← List.append_assoc] at hspelled
  -- the directory of the compiled files, if there is one
  have hfolder := hsource.locate_below hcache
    (fun upper hupper => hsource.directories (by simp) hsource.stored upper hupper) true
  rw [mem_expand_compiledPattern_iff habove hlast hspelled, List.append_assoc]
  constructor
  · rintro ⟨name, hlisted, hmatch, rfl⟩
    rw [FileSystem.names, hfolder] at hlisted
    cases hdirectory : fs.store.inside root (dirs ++ ["__pycache__"]) with
    | none => simp [hdirectory] at hlisted
    | some entry =>
        rw [hdirectory] at hlisted
        cases entry with
        | file _ | link _ => cases hlisted
        | directory =>
            have hstored := Store.get?_ne_none_of_mem_namesBelow hlisted
            rw [List.append_assoc] at hstored
            obtain ⟨entry, hentry⟩ := Option.ne_none_iff_exists'.mp hstored
            have hname := hsource.named _ entry hentry name (by simp)
            refine ⟨name, hmatch, hstored, ?_⟩
            rw [Path.join_pathOf_name hall hname, List.append_assoc, compiledPlace]
  · rintro ⟨name, hmatch, hstored, rfl⟩
    obtain ⟨entry, hentry⟩ := Option.ne_none_iff_exists'.mp hstored
    have hname := hsource.named _ entry hentry name (by simp [compiledPlace])
    have hdirectory : fs.store.inside root (dirs ++ ["__pycache__"]) = some .directory :=
      hsource.regular.above _ name entry hentry
    refine ⟨name, ?_, hmatch, ?_⟩
    · rw [FileSystem.names, hfolder, hdirectory]
      refine Store.mem_namesBelow ?_
      rw [List.append_assoc]
      exact hstored
    · rw [Path.join_pathOf_name hall hname, List.append_assoc, compiledPlace]

theorem locate_compiled {name : String} (hname : IsComponent name)
    (hcache : fs.store.inside root (dirs ++ ["__pycache__"]) = some .directory)
    (followsLast : Bool) :
    fs.store.locate followsLast fs.directory
        (pathOf (Path.names (a.project fs) ++ compiledPlace dirs name)) =
      .ok (root ++ compiledPlace dirs name, fs.store.inside root (compiledPlace dirs name)) := by
  have hnames := hsource.named _ _ hcache
  refine hsource.locate_below (Path.isComponent_concat_iff.mpr ⟨hnames, hname⟩) ?_ followsLast
  intro upper hupper
  rcases List.prefix_concat_iff.mp hupper with rfl | hupper
  · exact hcache
  · exact hsource.directories (by simp) hcache upper hupper

/-- Tests that run in the project see the content of the file. -/
theorem seenSource_eq {request : TestRun} (hrequest : request.options = a.options.invocation) :
    a.seenSource fs request = .ok content := by
  have hplace := hsource.isComponent_place
  have habove := hsource.isComponent_project
  have hworking : workingDirectory fs request = pathOf (Path.names (a.project fs)) := by
    rw [workingDirectory, hrequest, ← hsource.project_path]
    rfl
  have hbelow : Path.names (fs.absolute a.source.path) =
      Path.names (a.project fs) ++ (dirs ++ [last]) := by
    rw [hsource.spelled, Path.names_pathOf (List.forall_mem_append.mpr ⟨habove, hplace⟩)]
  have hlocate := hsource.locate_below hplace
    (fun upper hupper => hsource.directories (by simp) hsource.stored upper hupper) true
  rw [hsource.stored] at hlocate
  rw [Assignment.seenSource, hworking, Path.relative_of_names (by simp) hbelow,
    Path.join_pathOf habove hplace (by simp)]
  exact FileSystem.read_eq_ok_iff.mpr ⟨_, hlocate⟩

end SourceInProject

end MutationTesting.Run
