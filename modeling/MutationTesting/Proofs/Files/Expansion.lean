import MutationTesting.Proofs.Files.Changes
import MutationTesting.Proofs.Files.Escape
import MutationTesting.Proofs.Files.RegularFiles

/-!
# What a pattern below an escaped path finds

An escaped path of a directory stands for the directory.  So a pattern below it stands for every
name in the directory that matches, and not only for names of that kind.
-/

namespace MutationTesting.Files

open MutationTesting.Files.FileSystem (pathOf)
open MutationTesting.Files.Path (IsComponent)

namespace Path

theorem length_le_length_pathOf {address : Address}
    (haddress : ∀ name ∈ address, IsComponent name) :
    address.length ≤ (pathOf address).length := by
  by_cases hnonempty : address = []
  · simp [hnonempty]
  · have hlength := Text.length_pieces separator (pathOf address)
    have hsegments := segments_pathOf hnonempty haddress
    rw [segments] at hsegments
    rw [hsegments, List.length_cons] at hlength
    have hcount := List.count_le_length (a := separator) (l := (pathOf address).toList)
    rw [String.length_toList] at hcount
    omega

end Path

namespace Store

variable {s : Store} {followsLast : Bool} {directory : Path} {address : Address}
variable {entry : Option Entry}

/-- A path that is written out leads where its names lead from the root. -/
theorem locate_pathOf_iff {names : List String} (hnames : ∀ name ∈ names, IsComponent name) :
    s.locate followsLast directory (pathOf names) = .ok (address, entry) ↔
      ∃ links, links.length ≤ maxLinks ∧ s.Trail followsLast [] names links address entry := by
  have hpath : pathOf names ≠ "" := by simp [pathOf]
  rw [locate_eq_ok_iff, Path.join_absolute (Path.isAbsolute_pathOf _), and_iff_right hpath]
  cases names with
  | nil =>
      have hsegments : Path.segments (pathOf []) = ["", ""] := by decide
      rw [hsegments]
      constructor
      · rintro ⟨links, hlength, htrail⟩
        exact ⟨links, hlength, (htrail.of_stay (Or.inl rfl)).of_stay (Or.inl rfl)⟩
      · rintro ⟨links, hlength, htrail⟩
        exact ⟨links, hlength, .stay (Or.inl rfl) (.stay (Or.inl rfl) htrail)⟩
  | cons first rest =>
      rw [Path.segments_pathOf (List.cons_ne_nil first rest) hnames]
      constructor
      · rintro ⟨links, hlength, htrail⟩
        exact ⟨links, hlength, htrail.of_stay (Or.inl rfl)⟩
      · rintro ⟨links, hlength, htrail⟩
        exact ⟨links, hlength, .stay (Or.inl rfl) htrail⟩

theorem mem_namesBelow {name : String} (hstored : s.get? (address ++ [name]) ≠ none) :
    name ∈ s.namesBelow address := by
  obtain ⟨entry, hentry⟩ := Option.ne_none_iff_exists'.mp hstored
  rw [get?, if_neg (by simp)] at hentry
  obtain ⟨before, after, hentries, -⟩ := List.lookup_eq_some_iff.mp hentry
  rw [namesBelow, List.mem_filterMap]
  exact ⟨(address ++ [name], entry), by simp [hentries], by simp⟩

end Store

namespace FileSystem

variable {fs : FileSystem} {path : Path}

theorem isDirectory_iff : fs.isDirectory path = true ↔
    ∃ address, fs.store.locate true fs.directory path = .ok (address, some .directory) := by
  rw [isDirectory, entry?, decide_eq_true_eq]
  cases fs.store.locate true fs.directory path with
  | error e => simp
  | ok place => simp [Prod.ext_iff]

theorem isDirectory_of_mem_names {name : String} (hname : name ∈ fs.names path) :
    fs.isDirectory path = true := by
  rw [names] at hname
  split at hname
  · next address hlocate => exact isDirectory_iff.mpr ⟨address, hlocate⟩
  · cases hname

theorem holds_of_isDirectory (hdirectory : fs.isDirectory path = true) : fs.holds path = true := by
  obtain ⟨address, hlocate⟩ := isDirectory_iff.mp hdirectory
  obtain ⟨hpath, links, hlength, htrail⟩ := Store.locate_eq_ok_iff.mp hlocate
  obtain ⟨others, place, found, hnamed, hothers, hfound⟩ := htrail.exists_named
  obtain ⟨entry, rfl⟩ := Option.ne_none_iff_exists'.mp (hfound (by simp))
  rw [holds_eq_true_iff]
  exact ⟨place, entry, Store.locate_eq_ok_iff.mpr
    ⟨hpath, others, Nat.le_trans hothers hlength, hnamed⟩⟩

/-- A directory is listed in the one above it. -/
theorem exists_folder_of_isDirectory {dirs : Address} {last : String}
    (hdirs : ∀ name ∈ dirs, IsComponent name) (hlast : IsComponent last)
    (hdirectory : fs.isDirectory (pathOf (dirs ++ [last])) = true) :
    fs.isDirectory (pathOf dirs) = true ∧ last ∈ fs.names (pathOf dirs) := by
  obtain ⟨address, hlocate⟩ := isDirectory_iff.mp hdirectory
  obtain ⟨links, hlength, htrail⟩ :=
    (Store.locate_pathOf_iff (Path.isComponent_concat_iff.mpr ⟨hdirs, hlast⟩)).mp hlocate
  obtain ⟨first, second, folder, rfl, hfirst, hsecond⟩ := htrail.exists_folder (by simp)
  rw [List.length_append] at hlength
  have habove : fs.store.locate true fs.directory (pathOf dirs) = .ok (folder, some .directory) :=
    (Store.locate_pathOf_iff hdirs).mpr ⟨first, by omega, hfirst⟩
  refine ⟨isDirectory_iff.mpr ⟨folder, habove⟩, ?_⟩
  rw [names, habove]
  refine Store.mem_namesBelow fun hnone => ?_
  cases hsecond.eq_none hlast.1 hnone

end FileSystem

namespace Glob

section Texts

open Wildcard (ofPattern matchesText)

theorem matchesText_escapedChars {chars : List Char} {bound : Nat}
    (hbound : (escapedChars chars).length ≤ bound) :
    matchesText (ofPattern bound (escapedChars chars)) chars = true := by
  induction chars generalizing bound with
  | nil => cases bound <;> rfl
  | cons c rest ih =>
      rw [escapedChars, List.flatMap_cons] at hbound ⊢
      cases hc : isWild c with
      | false =>
          simp only [hc, Bool.false_eq_true, if_false, List.singleton_append,
            List.length_cons] at hbound ⊢
          obtain ⟨bound, rfl⟩ : ∃ less, bound = less + 1 := ⟨bound - 1, by omega⟩
          rw [ofPattern_cons_of_not_wild bound hc]
          simp only [matchesText, Wildcard.fits, decide_true, Bool.true_and]
          exact @ih bound (by rw [escapedChars]; omega)
      | true =>
          simp only [hc, if_true, List.cons_append, List.nil_append, List.length_cons] at hbound ⊢
          obtain ⟨bound, rfl⟩ : ∃ less, bound = less + 1 := ⟨bound - 1, by omega⟩
          rw [ofPattern_bracketed bound hc]
          simp only [matchesText, fits_single.mpr rfl, Bool.true_and]
          exact @ih bound (by rw [escapedChars]; omega)

theorem matchesPattern_escape (text : String) : matchesPattern (escape text) text = true := by
  have hlength : (escapedChars text.toList).length = (escape text).length := by
    rw [← String.length_toList, toList_escape]
  rw [matchesPattern, toList_escape]
  exact matchesText_escapedChars (Nat.le_of_eq hlength)

theorem isHidden_escape (text : String) : isHidden (escape text) = isHidden text := by
  rw [isHidden, isHidden, Text.startsWith, Text.startsWith, toList_escape]
  cases text.toList with
  | nil => rfl
  | cons c rest =>
      rw [escapedChars, List.flatMap_cons]
      cases hc : isWild c with
      | false => simp [List.isPrefixOf]
      | true =>
          have hdot : ('.' == c) = false := by
            rw [beq_eq_false_iff_ne]
            rintro rfl
            exact absurd hc (by decide)
          simp [List.isPrefixOf, hdot]

end Texts

section Expanding

variable {fs : FileSystem} {directoriesOnly : Bool} {dirs : Address}
variable {last name pattern : String}

/-- A name that matches in a directory is found by a pattern below its escaped path. -/
theorem join_mem_expandFrom {bound : Nat} {folder : Path}
    (hparent : Path.parent pattern = escape folder) (hfolder : escape folder ≠ "")
    (hdifferent : escape folder ≠ pattern)
    (hitself : hasWildcard folder = true → folder ∈ expandFrom fs bound true (escape folder))
    (hpattern : hasWildcard pattern = true)
    (hname : name ∈ namesIn fs directoriesOnly folder (Path.baseName pattern)) :
    Path.join folder name ∈ expandFrom fs (bound + 1) directoriesOnly pattern := by
  rw [expandFrom, hparent]
  simp only [hpattern, Bool.not_true, Bool.false_eq_true, if_false, hfolder, ne_eq, hdifferent,
    not_false_eq_true, decide_true, Bool.true_and, List.mem_flatMap, List.mem_map]
  refine ⟨folder, ?_, name, hname, rfl⟩
  split
  · next hwild => exact hitself (by rwa [← hasWildcard_escape])
  · next hwild =>
      rw [escape_of_not_hasWildcard (by simpa [hasWildcard_escape] using hwild)]
      exact List.mem_singleton_self folder

theorem mem_namesIn_escape (hdirs : ∀ name ∈ dirs, IsComponent name) (hlast : IsComponent last)
    (hlisted : last ∈ fs.names (pathOf dirs))
    (hdirectory : fs.isDirectory (pathOf (dirs ++ [last])) = true) :
    last ∈ namesIn fs directoriesOnly (pathOf dirs) (escape last) := by
  have hany : escape last ≠ anyDirectories := by
    intro hstars
    obtain ⟨rfl, hplain⟩ := (escape_eq_iff (by decide)).mp hstars
    revert hplain
    decide
  have hfolder : pathOf dirs ≠ "" := by simp [pathOf]
  have hjoin := Path.join_pathOf_name hdirs hlast
  rw [namesIn, if_neg hany, hasWildcard_escape]
  split
  · rw [matching, listed, if_neg hfolder]
    simp [hlisted, hjoin, hdirectory, isHidden_escape, matchesPattern_escape]
  · next hplain =>
      have hholds : fs.holds (inside (pathOf dirs) last) = true := by
        rw [inside, if_neg (by simp [hfolder, hlast.1.1]), hjoin]
        exact FileSystem.holds_of_isDirectory hdirectory
      rw [escape_of_not_hasWildcard (by simpa using hplain), if_neg hlast.1.1, if_pos hholds]
      exact List.mem_singleton_self last

/-- The escaped path of a directory stands for the directory. -/
theorem mem_expandFrom_escape {bound : Nat} (hdirs : ∀ name ∈ dirs, IsComponent name)
    (hbound : dirs.length < bound) (hdirectory : fs.isDirectory (pathOf dirs) = true) :
    pathOf dirs ∈ expandFrom fs bound directoriesOnly (escape (pathOf dirs)) := by
  induction dirs using List.reverseRecOn generalizing bound directoriesOnly with
  | nil =>
      have hroot : escape (pathOf []) = "/" := by decide
      have hplain : hasWildcard "/" = false := by decide
      have hbase : Path.baseName "/" = "" := by decide
      have hparent : Path.parent "/" = pathOf [] := by decide
      obtain ⟨bound, rfl⟩ : ∃ less, bound = less + 1 := ⟨bound - 1, by omega⟩
      rw [hroot, expandFrom, hplain, hbase, hparent, hdirectory]
      exact List.mem_singleton_self _
  | append_singleton dirs last ih =>
      obtain ⟨hbefore, hlast⟩ := Path.isComponent_concat_iff.mp hdirs
      obtain ⟨habove, hlisted⟩ :=
        FileSystem.exists_folder_of_isDirectory hbefore hlast hdirectory
      have hescaped : ∀ name ∈ dirs.map escape, IsComponent name := by
        simpa using fun name hname => isComponent_escape (hbefore name hname)
      have htext : escape (pathOf (dirs ++ [last])) =
          pathOf (dirs.map escape ++ [escape last]) := by
        rw [escape_pathOf, List.map_append, List.map_singleton]
      obtain ⟨bound, rfl⟩ : ∃ less, bound = less + 1 := ⟨bound - 1, by omega⟩
      rw [List.length_append, List.length_singleton, Nat.succ_lt_succ_iff] at hbound
      cases hwild : hasWildcard (pathOf (dirs ++ [last])) with
      | false =>
          rw [escape_of_not_hasWildcard hwild, expandFrom, hwild,
            Path.baseName_pathOf hbefore hlast, if_neg hlast.1.1,
            FileSystem.holds_of_isDirectory hdirectory]
          exact List.mem_singleton_self _
      | true =>
          rw [← Path.join_pathOf_name hbefore hlast]
          refine join_mem_expandFrom ?_ (by rw [escape_pathOf, pathOf]; simp) ?_
            (fun _ => ih hbefore hbound habove) ?_ ?_
          · rw [Path.join_pathOf_name hbefore hlast, htext,
              Path.parent_pathOf hescaped (isComponent_escape hlast), escape_pathOf]
          · rw [Path.join_pathOf_name hbefore hlast, htext, escape_pathOf]
            exact pathOf_ne_concat hescaped (isComponent_escape hlast)
          · rwa [Path.join_pathOf_name hbefore hlast, hasWildcard_escape]
          · rw [Path.join_pathOf_name hbefore hlast, htext,
              Path.baseName_pathOf hescaped (isComponent_escape hlast)]
            exact mem_namesIn_escape hbefore hlast hlisted hdirectory

section Directories

variable {folder : String} {path : Path}
variable (hdirs : ∀ name ∈ dirs, IsComponent name) (hfolder : IsComponent folder)
variable (hplain : hasWildcard folder = false) (hpattern : IsComponent pattern)
variable (hwild : hasWildcard pattern = true) (hany : pattern ≠ anyDirectories)

include hdirs hfolder hplain hpattern hwild hany

/-- What matches in one directory below an escaped path is found. -/
theorem mem_expand (hdirectory : fs.isDirectory (pathOf (dirs ++ [folder])) = true)
    (hlisted : name ∈ fs.names (pathOf (dirs ++ [folder])))
    (hshown : isHidden pattern = true ∨ isHidden name = false)
    (hmatch : matchesPattern pattern name = true) :
    Path.join (pathOf (dirs ++ [folder])) name ∈
      expand fs (Path.join (Path.join (escape (pathOf dirs)) folder) pattern) := by
  have hescaped : ∀ name ∈ dirs.map escape, IsComponent name := by
    simpa using fun name hname => isComponent_escape (hdirs name hname)
  have hbelow := Path.isComponent_concat_iff.mpr ⟨hescaped, hfolder⟩
  have hall := Path.isComponent_concat_iff.mpr ⟨hdirs, hfolder⟩
  have hescape : escape (pathOf (dirs ++ [folder])) = pathOf (dirs.map escape ++ [folder]) := by
    rw [escape_pathOf, List.map_append, List.map_singleton, escape_of_not_hasWildcard hplain]
  have hmore : hasWildcard (pathOf (dirs.map escape ++ [folder] ++ [pattern])) = true := by
    rw [hasWildcard_eq] at hwild ⊢
    rw [Path.pathOf_append (by simp) (by simp), String.intercalate_singleton]
    simp [hwild]
  have hlength := Path.length_le_length_pathOf (Path.isComponent_concat_iff.mpr ⟨hbelow, hpattern⟩)
  rw [escape_pathOf, Path.join_pathOf_name hescaped hfolder, Path.join_pathOf_name hbelow hpattern,
    expand]
  refine join_mem_expandFrom (by rw [Path.parent_pathOf hbelow hpattern, hescape])
    (by rw [hescape, pathOf]; simp) (by rw [hescape]; exact pathOf_ne_concat hbelow hpattern)
    (fun _ => mem_expandFrom_escape hall ?_ hdirectory) hmore ?_
  · simp only [List.length_append, List.length_map, List.length_singleton] at hlength ⊢
    omega
  · rw [Path.baseName_pathOf hbelow hpattern, namesIn, if_neg hany, if_pos hwild, matching, listed,
      if_neg (by simp [pathOf])]
    simp [hlisted, hmatch, hshown]

theorem mem_expand_iff :
    path ∈ expand fs (Path.join (Path.join (escape (pathOf dirs)) folder) pattern) ↔
      ∃ name ∈ fs.names (pathOf (dirs ++ [folder])),
        (isHidden pattern = true ∨ isHidden name = false) ∧ matchesPattern pattern name = true ∧
          path = Path.join (pathOf (dirs ++ [folder])) name := by
  refine ⟨exists_of_mem_expand hdirs hfolder hplain hpattern hwild hany, ?_⟩
  rintro ⟨name, hlisted, hshown, hmatch, rfl⟩
  refine mem_expand hdirs hfolder hplain hpattern hwild hany ?_ hlisted hshown hmatch
  exact FileSystem.isDirectory_of_mem_names hlisted

end Directories

end Expanding

end Glob

end MutationTesting.Files
