import Mathlib
import MutationTesting.Proofs.Files.SourcePattern
import MutationTesting.Proofs.Text.Order

/-!
# The source files of a directory

The source files of a directory are found by a pattern below it, in which the directory's own path
is a pattern too.  So what is listed are the sources below every directory that the path matches.
For a path without wildcards that is the directory itself.
-/

namespace MutationTesting.Files

open MutationTesting.Text
open MutationTesting.Files.Path (IsComponent)
open MutationTesting.Files.Glob (listedPlace)

/-- Whether a place in a directory holds a source file that no hidden name leads to. -/
structure Contents.IsSource (c : Contents) (place : Address) : Prop where
  file : ∃ content, c place = some (.file content)
  shown : ∀ name ∈ place, Glob.isHidden name = false
  ending : endsWith sourceExtension (place.getLastD "") = true

/-- Whether a path is that of a source file below a directory, at any depth. -/
def FileSystem.SourceBelow (fs : FileSystem) (directory path : Path) : Prop :=
  ∃ root place, fs.store.locate true fs.directory (listedPlace directory) =
      .ok (root, some .directory) ∧
    (fs.store.inside root).IsSource place ∧
      path = Path.join directory (String.intercalate "/" place)

namespace Discovery

variable {fs : FileSystem} {directory path d : Path} {root : Address}
variable (hnames : ∀ e ∈ fs.store.entries, ∀ name ∈ e.1, IsComponent name)

include hnames

section Below

variable (hroot : fs.store.locate true fs.directory (listedPlace d) = .ok (root, some .directory))
variable (hregular : (fs.store.inside root).IsRegular)

include hroot hregular

/-- The directories that are looked into are the one above and those below it that are not hidden. -/
theorem mem_directories_iff {rest : Path} :
    rest ∈ "" :: Glob.tree fs true (Glob.maxDepth fs) d ↔
      ∃ place, fs.store.inside root place = some .directory ∧
        (∀ name ∈ place, Glob.isHidden name = false) ∧ rest = String.intercalate "/" place := by
  rw [List.mem_cons, Glob.mem_tree_iff hnames hroot hregular]
  constructor
  · rintro (rfl | ⟨place, entry, -, -, hshown, hstored, honly, rfl⟩)
    · refine ⟨[], ?_, by simp, String.intercalate_nil.symm⟩
      rw [Store.inside, List.append_nil]
      exact Store.get?_of_locate_directory hroot
    · exact ⟨place, honly rfl ▸ hstored, hshown, rfl⟩
  · rintro ⟨place, hstored, hshown, rfl⟩
    by_cases hempty : place = []
    · exact Or.inl (by rw [hempty, String.intercalate_nil])
    · have hlength : place.length ≤ Glob.maxDepth fs := by
        refine Nat.le_trans (hregular.length_le hstored) ?_
        rw [Glob.maxDepth]
        exact Nat.le_trans (Nat.le_succ _) (Nat.le_mul_of_pos_left _ (Nat.succ_pos _))
      exact Or.inr ⟨place, .directory, hempty, hlength, hshown, hstored, fun _ => rfl, rfl⟩

theorem mem_matching_iff {place : Address} {name : String}
    (hplace : fs.store.inside root place = some .directory) :
    name ∈ Glob.matching fs false (Path.join d (String.intercalate "/" place)) Glob.sourceName ↔
      (∃ entry, fs.store.inside root (place ++ [name]) = some entry) ∧
        Glob.isHidden name = false ∧ endsWith sourceExtension name = true := by
  have hcomponents := Store.isComponent_of_get? hnames hplace
  have hlocate := Store.locate_listedPlace_join hroot hregular
    (fun name hname => hcomponents name (List.mem_append_right root hname)) hplace
  have hhidden : Glob.isHidden Glob.sourceName = false := by decide
  rw [Glob.matching, List.mem_filter,
    Glob.mem_listed_iff hnames hlocate (hregular.below place), hhidden, Glob.sourceName,
    matchesPattern_star (by decide)]
  simp [Store.inside]

theorem isFile_join_iff {place : Address} {entry : Entry} (hnonempty : place ≠ [])
    (hstored : fs.store.inside root place = some entry) :
    fs.isFile (Path.join d (String.intercalate "/" place)) = true ↔
      ∃ content, entry = .file content := by
  have hcomponents := Store.isComponent_of_get? hnames hstored
  have hlocate : fs.store.locate true fs.directory
      (Path.join d (String.intercalate "/" place)) = .ok (root ++ place, some entry) :=
    Store.locate_join_place hroot hregular hnonempty
      (fun name hname => hcomponents name (List.mem_append_right root hname)) hstored
  rw [FileSystem.isFile, FileSystem.entry?, hlocate]
  cases entry <;> simp

omit hroot hregular in
theorem join_concat {place : Address} {name : String} {entry : Entry}
    (hstored : fs.store.inside root (place ++ [name]) = some entry) :
    Path.join (Path.join d (String.intercalate "/" place)) name =
      Path.join d (String.intercalate "/" (place ++ [name])) := by
  have hcomponents := Store.isComponent_of_get? hnames hstored
  rw [Path.join_assoc]
  by_cases hempty : place = []
  · rw [hempty, String.intercalate_nil, Path.empty_join, List.nil_append,
      String.intercalate_singleton]
  · have hjoin := Path.join_intercalate hempty (List.cons_ne_nil name [])
      (fun other hother => hcomponents other (by simp [hother]))
      (fun other hother => hcomponents other (by simp_all))
    rw [String.intercalate_singleton] at hjoin
    rw [hjoin]

/-- The files that are found below a directory are its sources. -/
theorem mem_found_iff :
    (∃ rest ∈ "" :: Glob.tree fs true (Glob.maxDepth fs) d,
      ∃ name ∈ Glob.matching fs false (Path.join d rest) Glob.sourceName,
        path = Path.join (Path.join d rest) name) ∧ fs.isFile path = true ↔
      ∃ place, (fs.store.inside root).IsSource place ∧
        path = Path.join d (String.intercalate "/" place) := by
  simp only [mem_directories_iff hnames hroot hregular]
  constructor
  · rintro ⟨⟨_, ⟨place, hdirectory, hshown, rfl⟩, name, hname, rfl⟩, hfile⟩
    obtain ⟨⟨entry, hstored⟩, hvisible, hending⟩ :=
      (mem_matching_iff hnames hroot hregular hdirectory).mp hname
    have hjoin := join_concat hnames (d := d) hstored
    rw [hjoin, isFile_join_iff hnames hroot hregular (by simp) hstored] at hfile
    obtain ⟨content, rfl⟩ := hfile
    refine ⟨place ++ [name], ⟨⟨content, hstored⟩, ?_, ?_⟩, hjoin⟩
    · rw [List.forall_mem_append, List.forall_mem_singleton]
      exact ⟨hshown, hvisible⟩
    · rwa [List.getLastD_concat]
  · rintro ⟨place, ⟨⟨content, hstored⟩, hshown, hending⟩, rfl⟩
    rcases List.eq_nil_or_concat place with rfl | ⟨front, name, rfl⟩
    · cases hending
    · rw [List.concat_eq_append] at *
      rw [List.getLastD_concat] at hending
      rw [List.forall_mem_append, List.forall_mem_singleton] at hshown
      have hdirectory := hregular.above _ _ _ hstored
      refine ⟨⟨_, ⟨front, hdirectory, hshown.1, rfl⟩, name, ?_, (join_concat hnames hstored).symm⟩,
        (isFile_join_iff hnames hroot hregular (by simp) hstored).mpr ⟨content, rfl⟩⟩
      exact (mem_matching_iff hnames hroot hregular hdirectory).mpr
        ⟨⟨_, hstored⟩, hshown.2, hending⟩

end Below

omit hnames in
theorem endsWith_of_sourceBelow (hsource : fs.SourceBelow d path) :
    endsWith sourceExtension path = true := by
  obtain ⟨_, place, -, ⟨-, -, hending⟩, rfl⟩ := hsource
  rcases List.eq_nil_or_concat place with rfl | ⟨front, name, rfl⟩
  · cases hending
  · rw [List.concat_eq_append] at *
    rw [List.getLastD_concat, endsWith, List.isSuffixOf_iff_suffix] at hending
    obtain ⟨head, hhead⟩ := exists_intercalate_concat "/" front
    obtain ⟨above, habove⟩ := Path.exists_join_eq d (String.intercalate "/" (front ++ [name]))
    rw [habove, hhead, endsWith, List.isSuffixOf_iff_suffix, String.toList_append,
      String.toList_append]
    exact (hending.trans (List.suffix_append _ _)).trans (List.suffix_append _ _)

/-- The listing of a directory is in ascending order and holds each source once.  It holds the sources
below all directories that the path of the directory matches when it is read as a pattern, as long
as these hold no links.  So if there are no wildcards in the path, it holds just the sources below
the directory. -/
theorem expand_lists_sources (hdirectory : fs.isDirectory directory = true)
    (hregular : ∀ d ∈ Glob.expand fs (Path.trimmed directory), ∀ root,
      fs.store.locate true fs.directory (listedPlace d) = .ok (root, some .directory) →
        (fs.store.inside root).IsRegular) :
    (expand fs directory).Pairwise (· < ·) ∧
      (∀ path, path ∈ expand fs directory ↔
        ∃ d ∈ Glob.expand fs (Path.trimmed directory), fs.SourceBelow d path) ∧
      (Glob.hasWildcard directory = false → ∀ path,
        path ∈ expand fs directory ↔ fs.SourceBelow (Path.trimmed directory) path) := by
  have hmem : ∀ path, path ∈ expand fs directory ↔
      ∃ d ∈ Glob.expand fs (Path.trimmed directory), fs.SourceBelow d path := by
    intro path
    rw [expand, hdirectory, if_pos rfl, mem_sortedSet, List.mem_filter, Bool.and_eq_true,
      Glob.mem_expand_allSources hnames hdirectory]
    constructor
    · rintro ⟨⟨d, hd, rest, hrest, name, hname, hpath⟩, hfile, -⟩
      obtain ⟨root, hroot⟩ :=
        FileSystem.isDirectory_iff.mp (Glob.isDirectory_of_mem_matching hrest hname)
      obtain ⟨place, hsource, hsame⟩ := (mem_found_iff hnames hroot (hregular d hd root hroot)).mp
        ⟨⟨rest, hrest, name, hname, hpath⟩, hfile⟩
      exact ⟨d, hd, root, place, hroot, hsource, hsame⟩
    · rintro ⟨d, hd, root, place, hroot, hsource, hsame⟩
      obtain ⟨⟨rest, hrest, name, hname, hpath⟩, hfile⟩ :=
        (mem_found_iff hnames hroot (hregular d hd root hroot)).mpr ⟨place, hsource, hsame⟩
      exact ⟨⟨d, hd, rest, hrest, name, hname, hpath⟩, hfile,
        endsWith_of_sourceBelow ⟨root, place, hroot, hsource, hsame⟩⟩
  refine ⟨?_, hmem, fun hplain path => ?_⟩
  · rw [expand]
    exact pairwise_lt_sortedSet _
  · have hitself : Glob.expand fs (Path.trimmed directory) = [Path.trimmed directory] :=
      Glob.expand_of_not_hasWildcard (by rwa [Glob.hasWildcard_trimmed])
        (by rwa [FileSystem.isDirectory_trimmed])
    rw [hmem, hitself]
    simp

omit hnames

/-- A directory with a source, one below it and a hidden one. -/
def nestedSources : FileSystem where
  store := ⟨[(["w"], .directory), (["w", "src"], .directory), (["w", "src", "a.py"], .file []),
    (["w", "src", "pkg"], .directory), (["w", "src", "pkg", "b.py"], .file []),
    (["w", "src", ".git"], .directory), (["w", "src", ".git", "c.py"], .file [])]⟩
  directory := "/w"

/-- The listing of `src` with its subdirectories. -/
theorem nested_sources_listed :
    (∀ e ∈ nestedSources.store.entries, ∀ name ∈ e.1, IsComponent name) ∧
      nestedSources.isDirectory "src/" = true ∧
      (∀ d ∈ Glob.expand nestedSources (Path.trimmed "src/"), ∀ root,
        nestedSources.store.locate true nestedSources.directory (listedPlace d) =
          .ok (root, some .directory) → (nestedSources.store.inside root).IsRegular) ∧
      (expand nestedSources "src/").Pairwise (· < ·) ∧
      ∀ path, path ∈ expand nestedSources "src/" ↔ nestedSources.SourceBelow "src" path := by
  have hnames : ∀ e ∈ nestedSources.store.entries, ∀ name ∈ e.1, IsComponent name := by decide
  have hdirectory : nestedSources.isDirectory "src/" = true := by decide
  have hregular : ∀ d ∈ Glob.expand nestedSources (Path.trimmed "src/"), ∀ root,
      nestedSources.store.locate true nestedSources.directory (listedPlace d) =
        .ok (root, some .directory) → (nestedSources.store.inside root).IsRegular :=
    fun _ _ _ _ => Contents.isRegular_inside (by decide) (by decide) (by simp [nestedSources])
  obtain ⟨hordered, -, hplain⟩ := expand_lists_sources hnames hdirectory hregular
  exact ⟨hnames, hdirectory, hregular, hordered, hplain (by decide)⟩

/-- A directory with brackets in its name. -/
def bracketedDirectory : FileSystem where
  store := ⟨[(["w"], .directory), (["w", "[a]"], .directory), (["w", "[a]", "m.py"], .file [])]⟩
  directory := "/w"

/-- The source in a directory with brackets in its name is not listed. -/
theorem bracketed_directory_listed_empty :
    (∀ e ∈ bracketedDirectory.store.entries, ∀ name ∈ e.1, IsComponent name) ∧
      bracketedDirectory.isDirectory "[a]" = true ∧
      (∀ root, (bracketedDirectory.store.inside root).IsRegular) ∧
      bracketedDirectory.SourceBelow "[a]" "[a]/m.py" ∧ expand bracketedDirectory "[a]" = [] := by
  have hnames : ∀ e ∈ bracketedDirectory.store.entries, ∀ name ∈ e.1, IsComponent name := by
    decide
  have hdirectory : bracketedDirectory.isDirectory "[a]" = true := by decide
  refine ⟨hnames, hdirectory, fun _ => Contents.isRegular_inside (by decide) (by decide)
    (by simp [bracketedDirectory]), ?_, ?_⟩
  · exact ⟨["w", "[a]"], ["m.py"], by decide, ⟨⟨[], by decide⟩, by decide, by decide⟩, by decide⟩
  · -- the brackets match the letter between them, and nothing is named `a`
    have hnothing : Glob.expand bracketedDirectory (Path.trimmed "[a]") = [] := by
      rw [show Path.trimmed "[a]" = "[a]" by decide]
      cbv
    have hfound : Glob.expand bracketedDirectory (allSources "[a]") = [] := by
      rw [List.eq_nil_iff_forall_not_mem]
      intro path hpath
      rw [Glob.mem_expand_allSources hnames hdirectory, hnothing] at hpath
      obtain ⟨d, hd, -⟩ := hpath
      cases hd
    rw [expand, hdirectory, if_pos rfl, hfound, List.filter_nil, sortedSet, List.eraseDups_nil,
      List.mergeSort_nil]

end Discovery

end MutationTesting.Files
