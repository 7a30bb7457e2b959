import Mathlib.Data.List.Perm.Subperm
import MutationTesting.Proofs.Files.Additions
import MutationTesting.Proofs.Files.Expansion

/-!
# Names below a directory

A name that is joined to the path of a directory leads to what the directory holds under that name,
however the path is written and whatever links it leads over.  Slashes and points at the end of the
path change nothing.  So the tree of a directory lists what is stored below it over names that are
not hidden, and where there are no links, all of that.
-/

namespace MutationTesting.Files

open MutationTesting.Text
open MutationTesting.Files.Path (IsComponent)

namespace Path

section Joining

variable {base path name : Path} {front back : List String}

theorem exists_join_eq (base path : Path) : ∃ head, join base path = head ++ path := by
  rw [join]
  split
  · exact ⟨"", by rw [String.empty_append]⟩
  · split
    · exact ⟨base, rfl⟩
    · exact ⟨base ++ "/", rfl⟩

theorem empty_join (path : Path) : join "" path = path := by simp [join]

theorem join_of_endsWith (hend : endsWith "/" base = true) (hpath : isAbsolute path = false) :
    join base path = base ++ path := by
  have hbase : base ≠ "" := by
    rintro rfl
    cases hend
  simp [join, hpath, hbase, hend]

theorem isAbsolute_of_not_mem (hname : separator ∉ name.toList) : isAbsolute name = false := by
  rw [isAbsolute, startsWith, Bool.eq_false_iff, Ne, List.isPrefixOf_iff_prefix]
  rintro ⟨rest, hrest⟩
  exact hname (by simp [← hrest, separator])

theorem endsWith_join (hpath : path ≠ "") (base : Path) :
    endsWith "/" (join base path) = endsWith "/" path := by
  obtain ⟨head, hhead⟩ := exists_join_eq base path
  obtain ⟨c, hlast⟩ :=
    Option.isSome_iff_exists.mp (List.getLast?_isSome.mpr (by simpa using hpath : path.toList ≠ []))
  obtain ⟨rest, hchars⟩ := List.getLast?_eq_some_iff.mp hlast
  rw [hhead, endsWith, endsWith, String.toList_append, hchars]
  simp [List.isSuffixOf, List.isPrefixOf]

theorem join_assoc (first second third : Path) :
    join (join first second) third = join first (join second third) := by
  cases hthird : isAbsolute third with
  | true => rw [join_absolute hthird, join_absolute hthird, join_absolute hthird]
  | false =>
      by_cases hsecond : second = ""
      · -- an empty path in the middle at most completes the slash
        rw [hsecond, empty_join]
        by_cases hfirst : first = ""
        · rw [hfirst, empty_join, empty_join]
        · cases hend : endsWith "/" first with
          | true =>
              have hnothing : join first "" = first := by
                rw [join_of_endsWith hend (by decide), String.append_empty]
              rw [hnothing]
          | false =>
              have hslash : join first "" = first ++ "/" := by
                rw [join_eq hfirst hend (by decide), String.append_empty]
              rw [hslash, join_eq hfirst hend hthird,
                join_of_endsWith (by simp [endsWith]) hthird]
      · have hboth : join first second ≠ "" := by
          obtain ⟨head, hhead⟩ := exists_join_eq first second
          simp [hhead, hsecond]
        cases hend : endsWith "/" second with
        | true =>
            rw [join_of_endsWith (by rw [endsWith_join hsecond, hend]) hthird,
              join_of_endsWith hend hthird, join_append hsecond]
        | false =>
            rw [join_eq hboth (by rw [endsWith_join hsecond, hend]) hthird,
              join_eq hsecond hend hthird, String.append_assoc, String.append_assoc,
              join_append hsecond]

theorem isAbsolute_of_isComponent (hname : IsComponent name) : isAbsolute name = false :=
  isAbsolute_of_not_mem hname.2

theorem join_ne_empty (hpath : path ≠ "") (base : Path) : join base path ≠ "" := by
  obtain ⟨head, hhead⟩ := exists_join_eq base path
  simp [hhead, hpath]

/-- The names of two relative paths in a row are those of both. -/
theorem join_intercalate (hfront : front ≠ []) (hback : back ≠ [])
    (hnames : ∀ name ∈ front, IsComponent name) (hothers : ∀ name ∈ back, IsComponent name) :
    join (String.intercalate "/" front) (String.intercalate "/" back) =
      String.intercalate "/" (front ++ back) := by
  obtain ⟨last, hlast⟩ := Option.isSome_iff_exists.mp (List.getLast?_isSome.mpr hfront)
  obtain ⟨before, rfl⟩ := List.getLast?_eq_some_iff.mp hlast
  obtain ⟨c, rest, hchars, hc⟩ := (hnames last (by simp)).exists_concat
  obtain ⟨head, hhead⟩ := exists_intercalate_concat "/" before
  have hend : endsWith "/" (String.intercalate "/" (before ++ [last])) = false := by
    rw [hhead, endsWith, String.toList_append, hchars, Bool.eq_false_iff]
    simp [List.isSuffixOf, List.isPrefixOf, Ne.symm hc]
  have hsome : String.intercalate "/" (before ++ [last]) ≠ "" := by
    simp [hhead, (hnames last (by simp)).1.1]
  rw [join_eq hsome hend (isAbsolute_intercalate hothers),
    String.intercalate_append_of_ne_nil hfront hback]

theorem join_intercalate_cons (hback : back ≠ [])
    (hnames : ∀ other ∈ name :: back, IsComponent other) :
    join name (String.intercalate "/" back) = String.intercalate "/" (name :: back) := by
  obtain ⟨hname, hothers⟩ := List.forall_mem_cons.mp hnames
  have hjoin := join_intercalate (List.cons_ne_nil name []) hback
    (List.forall_mem_singleton.mpr hname) hothers
  rwa [String.intercalate_singleton] at hjoin

/-- Joined names stand in place of what follows the last slash, if that is empty, or after it. -/
theorem exists_segments_of_join (hbase : base ≠ "") :
    ∃ front blanks, (∀ name ∈ blanks, name = "" ∨ name = ".") ∧
      segments base = front ++ blanks ∧
        ∀ path, isAbsolute path = false → segments (join base path) = front ++ segments path := by
  cases hend : endsWith "/" base with
  | true =>
      have hsplit := hend
      rw [endsWith, List.isSuffixOf_iff_suffix] at hsplit
      obtain ⟨text, htext⟩ := hsplit
      have hcut : base = String.ofList text ++ "/" := by
        rw [← String.toList_inj, String.toList_append, String.toList_ofList, htext]
      refine ⟨segments (String.ofList text), [""], by simp, ?_, fun path hpath => ?_⟩
      · have hmore := segments_append (String.ofList text) ""
        rwa [← hcut, String.append_empty] at hmore
      · rw [join_of_endsWith hend hpath, hcut, segments_append]
  | false =>
      refine ⟨segments base, [], by simp, by simp, fun path hpath => ?_⟩
      rw [join_eq hbase hend hpath, segments_append]

end Joining

end Path

namespace Store

variable {s : Store} {followsLast : Bool} {here place root : Address} {base directory : Path}
variable {names blanks : List String} {links : List Address} {entry : Option Entry}

theorem trail_stays_iff (hblanks : ∀ name ∈ blanks, name = "" ∨ name = ".") :
    s.Trail followsLast here blanks links place entry ↔
      s.Trail followsLast here [] links place entry := by
  induction blanks with
  | nil => exact Iff.rfl
  | cons first rest ih =>
      rw [← ih fun name hname => hblanks name (List.mem_cons_of_mem first hname)]
      have hfirst := hblanks first List.mem_cons_self
      exact ⟨fun htrail => htrail.of_stay hfirst, .stay hfirst⟩

/-- Names at the end that stay in a directory can be left out. -/
theorem trail_append_stays_iff (hblanks : ∀ name ∈ blanks, name = "" ∨ name = ".") :
    s.Trail true here (names ++ blanks) links place (some .directory) ↔
      s.Trail true here names links place (some .directory) := by
  by_cases hnone : blanks = []
  · rw [hnone, List.append_nil]
  · constructor
    · intro htrail
      obtain ⟨first, second, folder, rfl, hfirst, hsecond⟩ := htrail.exists_folder hnone
      cases (trail_stays_iff hblanks).mp hsecond
      rwa [List.append_nil]
    · intro htrail
      have hstays : s.Trail true place blanks [] place (some .directory) :=
        (trail_stays_iff hblanks).mpr .arrive
      simpa using htrail.append rfl hnone hstays

/-- A name in the middle that stays can be left out. -/
theorem trail_stay_between_iff {name : String} {rest : List String} (hname : name = "" ∨ name = ".")
    (hrest : rest ≠ []) :
    s.Trail followsLast here (names ++ name :: rest) links place entry ↔
      s.Trail followsLast here (names ++ rest) links place entry := by
  constructor
  · intro htrail
    obtain ⟨first, second, folder, rfl, hfirst, hsecond⟩ :=
      htrail.exists_folder (List.cons_ne_nil name rest)
    exact hfirst.append rfl hrest (hsecond.of_stay hname)
  · intro htrail
    obtain ⟨first, second, folder, rfl, hfirst, hsecond⟩ := htrail.exists_folder hrest
    exact hfirst.append rfl (List.cons_ne_nil name rest) (.stay hname hsecond)

/-- A slash at the end of the path of a directory changes nothing. -/
theorem locate_append_slash (hdirectory : directory ≠ "") :
    s.locate true base (directory ++ "/") = .ok (root, some .directory) ↔
      s.locate true base directory = .ok (root, some .directory) := by
  have hsegments : Path.segments (Path.join base (directory ++ "/")) =
      Path.segments (Path.join base directory) ++ [""] := by
    have hmore := Path.segments_append (Path.join base directory) ""
    rwa [String.append_empty, ← Path.join_append hdirectory] at hmore
  have hblank : ∀ name ∈ [""], name = "" ∨ name = "." := by simp
  rw [locate_eq_ok_iff, locate_eq_ok_iff, hsegments]
  simp only [trail_append_stays_iff hblank]
  simp [hdirectory]

end Store

/-- The directory that is listed for a path.  The empty path stands for the current one. -/
def Glob.listedPlace (directory : Path) : Path := if directory = "" then "." else directory

open Glob (listedPlace)

namespace Store

section Below

variable {s : Store} {followsLast : Bool} {root : Address} {base directory : Path} {name : String}

theorem listedPlace_of_ne (hdirectory : directory ≠ "") : listedPlace directory = directory :=
  if_neg hdirectory

/-- The names that lead to a directory come first on every path that is joined to it. -/
theorem exists_front (base directory : Path) :
    ∃ front blanks, (∀ name ∈ blanks, name = "" ∨ name = ".") ∧
      Path.segments (Path.join base (listedPlace directory)) = front ++ blanks ∧
        ∀ path, Path.isAbsolute path = false →
          Path.segments (Path.join base (Path.join directory path)) =
            front ++ Path.segments path := by
  have hpoint : Path.segments "." = ["."] := by decide
  by_cases hdirectory : directory = ""
  · subst hdirectory
    simp only [listedPlace, if_true, Path.empty_join]
    by_cases hbase : base = ""
    · subst hbase
      simp only [Path.empty_join, hpoint]
      exact ⟨[], ["."], by simp, rfl, fun _ _ => rfl⟩
    · obtain ⟨front, -, -, -, hjoined⟩ := Path.exists_segments_of_join hbase
      exact ⟨front, ["."], by simp, by rw [hjoined "." (by decide), hpoint], hjoined⟩
  · rw [listedPlace_of_ne hdirectory]
    obtain ⟨front, blanks, hblanks, hsegments, hjoined⟩ :=
      Path.exists_segments_of_join (Path.join_ne_empty hdirectory base)
    refine ⟨front, blanks, hblanks, hsegments, fun path hpath => ?_⟩
    rw [← Path.join_assoc, hjoined path hpath]

/-- A name in a directory leads to what is stored there, if that is no link. -/
theorem locate_join_name
    (hroot : s.locate true base (listedPlace directory) = .ok (root, some .directory))
    (hname : IsComponent name)
    (hlink : ∀ target, s.get? (root ++ [name]) ≠ some (.link target)) :
    s.locate followsLast base (Path.join directory name) =
      .ok (root ++ [name], s.get? (root ++ [name])) := by
  obtain ⟨front, blanks, hblanks, hsegments, hjoined⟩ := exists_front base directory
  obtain ⟨-, links, hlength, htrail⟩ := locate_eq_ok_iff.mp hroot
  rw [hsegments, trail_append_stays_iff hblanks] at htrail
  rw [locate_eq_ok_iff, hjoined name (Path.isAbsolute_of_isComponent hname),
    Path.segments_of_not_mem hname.2]
  refine ⟨Path.join_ne_empty hname.1.1 directory, links ++ [], by simpa using hlength, ?_⟩
  exact htrail.append rfl (List.cons_ne_nil name []) (trail_single hname.1 hlink)

/-- It makes no difference whether the current directory is named. -/
theorem locate_join_listedPlace {place : Address} {entry : Option Entry} (hname : IsComponent name) :
    s.locate followsLast base (Path.join (listedPlace directory) name) = .ok (place, entry) ↔
      s.locate followsLast base (Path.join directory name) = .ok (place, entry) := by
  by_cases hdirectory : directory = ""
  · subst hdirectory
    obtain ⟨front, -, -, -, hjoined⟩ := exists_front base ""
    have hrelative := Path.isAbsolute_of_isComponent hname
    have hpoint : Path.join "." name = "." ++ "/" ++ name :=
      Path.join_eq (by decide) (by decide) hrelative
    have hstay : "." = "" ∨ "." = "." := Or.inr rfl
    have hsingle : Path.segments "." = ["."] := by decide
    have hlonger := hjoined (Path.join "." name) (by
      simp [hpoint, Path.isAbsolute, startsWith, List.isPrefixOf])
    rw [Path.empty_join, hpoint, Path.segments_append, hsingle] at hlonger
    rw [listedPlace, if_pos rfl, hpoint, Path.empty_join, locate_eq_ok_iff, locate_eq_ok_iff,
      hlonger, ← Path.empty_join name, hjoined name hrelative, Path.empty_join,
      Path.segments_of_not_mem hname.2, List.singleton_append]
    simp only [trail_stay_between_iff hstay (List.cons_ne_nil name [])]
    simp [hname.1.1]
  · rw [listedPlace_of_ne hdirectory]

/-- A directory and its path with a slash more list the same. -/
theorem locate_join_empty :
    s.locate true base (listedPlace (Path.join directory "")) = .ok (root, some .directory) ↔
      s.locate true base (listedPlace directory) = .ok (root, some .directory) := by
  by_cases hdirectory : directory = ""
  · rw [hdirectory, Path.empty_join]
  · rw [listedPlace_of_ne hdirectory]
    cases hend : endsWith "/" directory with
    | true =>
        rw [Path.join_of_endsWith hend (by decide), String.append_empty,
          listedPlace_of_ne hdirectory]
    | false =>
        rw [Path.join_eq hdirectory hend (by decide), String.append_empty,
          listedPlace_of_ne (by simp [hdirectory]), locate_append_slash hdirectory]

end Below

end Store

theorem Store.mem_namesBelow_iff {s : Store} {address : Address} {name : String} :
    name ∈ s.namesBelow address ↔ s.get? (address ++ [name]) ≠ none :=
  ⟨Store.get?_ne_none_of_mem_namesBelow, Store.mem_namesBelow⟩

theorem Store.isComponent_of_get? {s : Store} {address : Address} {entry : Entry}
    (hnames : ∀ e ∈ s.entries, ∀ name ∈ e.1, IsComponent name)
    (hstored : s.get? address = some entry) : ∀ name ∈ address, IsComponent name := by
  rw [get?] at hstored
  split at hstored
  · next hempty => simp [hempty]
  · obtain ⟨before, after, hentries, -⟩ := List.lookup_eq_some_iff.mp hstored
    exact hnames (address, entry) (by simp [hentries])

/-- A way down passes as many entries as it has names. -/
theorem Contents.IsRegular.length_le {s : Store} {root place : Address} {entry : Entry}
    (hregular : (s.inside root).IsRegular) (hstored : s.inside root place = some entry) :
    place.length ≤ s.entries.length := by
  have hmem : ∀ count < place.length, root ++ place.take (count + 1) ∈ s.entries.map Prod.fst := by
    intro count hcount
    have hhere : ∃ found, s.get? (root ++ place.take (count + 1)) = some found := by
      by_cases hlast : place.drop (count + 1) = []
      · refine ⟨entry, ?_⟩
        rw [List.take_of_length_le (List.drop_eq_nil_iff.mp hlast)]
        exact hstored
      · rw [← List.take_append_drop (count + 1) place] at hstored
        exact ⟨.directory, hregular.directory hlast hstored⟩
    obtain ⟨found, hfound⟩ := hhere
    have hnonempty : root ++ place.take (count + 1) ≠ [] := by
      simp [List.ne_nil_of_length_pos (Nat.zero_lt_of_lt hcount)]
    rw [Store.get?, if_neg hnonempty] at hfound
    obtain ⟨before, after, hentries, -⟩ := List.lookup_eq_some_iff.mp hfound
    simp [hentries]
  have hnodup : ((List.range place.length).map fun count =>
      root ++ place.take (count + 1)).Nodup := by
    refine List.Nodup.map_on (fun first hfirst second hsecond hsame => ?_) List.nodup_range
    rw [List.mem_range] at hfirst hsecond
    have hlengths := congrArg List.length hsame
    simp only [List.length_append, List.length_take] at hlengths
    omega
  have hsubset : ((List.range place.length).map fun count =>
      root ++ place.take (count + 1)) ⊆ s.entries.map Prod.fst := by
    intro address haddress
    obtain ⟨count, hcount, rfl⟩ := List.mem_map.mp haddress
    exact hmem count (List.mem_range.mp hcount)
  simpa using (hnodup.subperm hsubset).length_le

section Regular

open Store (locate_join_name listedPlace_of_ne)

variable {fs : FileSystem} {root : Address} {directory : Path} {place : List String}
variable {name : String} {entry : Entry} {followsLast : Bool}

theorem Contents.IsRegular.below (hregular : (fs.store.inside root).IsRegular) (place : Address) :
    (fs.store.inside (root ++ place)).IsRegular where
  above := by
    intro other name entry hstored
    rw [Store.inside, List.append_assoc] at hstored ⊢
    exact hregular.above (place ++ other) name entry (by simpa [Store.inside] using hstored)
  no_links := by
    intro other target
    rw [Store.inside, List.append_assoc]
    exact hregular.no_links (place ++ other) target

/-- Names in a directory without links lead to what is stored there. -/
theorem Store.locate_join_place
    (hroot : fs.store.locate true fs.directory (listedPlace directory) =
      .ok (root, some .directory))
    (hregular : (fs.store.inside root).IsRegular) (hnonempty : place ≠ [])
    (hplace : ∀ name ∈ place, IsComponent name)
    (hstored : fs.store.inside root place = some entry) :
    fs.store.locate followsLast fs.directory
        (Path.join directory (String.intercalate "/" place)) =
      .ok (root ++ place, some entry) := by
  induction place generalizing directory root with
  | nil => exact absurd rfl hnonempty
  | cons name rest ih =>
      have hname := hplace name List.mem_cons_self
      have hothers : ∀ other ∈ rest, IsComponent other :=
        fun other hother => hplace other (List.mem_cons_of_mem name hother)
      have hfirst : ∀ follows, fs.store.locate follows fs.directory (Path.join directory name) =
          .ok (root ++ [name], fs.store.get? (root ++ [name])) :=
        fun _ => locate_join_name hroot hname (hregular.no_links [name])
      by_cases hrest : rest = []
      · subst hrest
        rw [String.intercalate_singleton, hfirst, ← hstored]
        rfl
      · have hbelow : fs.store.get? (root ++ [name]) = some .directory :=
          hregular.directory hrest hstored
        rw [← Path.join_intercalate_cons hrest hplace, ← Path.join_assoc, List.append_cons]
        refine ih ?_ (hregular.below [name]) hrest hothers ?_
        · rw [listedPlace_of_ne (Path.join_ne_empty hname.1.1 directory), hfirst, hbelow]
        · rwa [Store.inside, List.append_assoc]

/-- So do the names of a directory below, of which there may be none. -/
theorem Store.locate_listedPlace_join
    (hroot : fs.store.locate true fs.directory (listedPlace directory) =
      .ok (root, some .directory))
    (hregular : (fs.store.inside root).IsRegular) (hplace : ∀ name ∈ place, IsComponent name)
    (hstored : fs.store.inside root place = some .directory) :
    fs.store.locate true fs.directory
        (listedPlace (Path.join directory (String.intercalate "/" place))) =
      .ok (root ++ place, some .directory) := by
  by_cases hnonempty : place = []
  · rw [hnonempty, String.intercalate_nil, List.append_nil]
    exact Store.locate_join_empty.mpr hroot
  · have hlocate : fs.store.locate true fs.directory
        (Path.join directory (String.intercalate "/" place)) =
          .ok (root ++ place, some .directory) :=
      Store.locate_join_place hroot hregular hnonempty hplace hstored
    rwa [listedPlace_of_ne (Store.locate_eq_ok_iff.mp hlocate).1]

end Regular

namespace FileSystem

variable {fs : FileSystem} {root : Address} {directory path : Path} {name : String}

theorem names_of_directory
    (hlocate : fs.store.locate true fs.directory path = .ok (root, some .directory)) :
    fs.names path = fs.store.namesBelow root := by
  rw [names, hlocate]

theorem isComponent_of_mem_names
    (hnames : ∀ e ∈ fs.store.entries, ∀ name ∈ e.1, IsComponent name)
    (hname : name ∈ fs.names path) : IsComponent name := by
  rw [names] at hname
  split at hname
  · rw [Store.namesBelow, List.mem_filterMap] at hname
    obtain ⟨⟨stored, entry⟩, hmem, hlast⟩ := hname
    dsimp only at hlast
    split at hlast
    · exact hnames _ hmem name (List.mem_of_getLast? hlast)
    · cases hlast
  · cases hname

end FileSystem

namespace Glob

variable {fs : FileSystem} {directoriesOnly : Bool} {root : Address} {directory rest : Path}
variable {name : String} {depth : Nat}
variable (hnames : ∀ e ∈ fs.store.entries, ∀ name ∈ e.1, IsComponent name)

theorem mem_listed : name ∈ listed fs directoriesOnly directory ↔
    name ∈ fs.names (listedPlace directory) ∧
      (directoriesOnly = true → fs.isDirectory (Path.join (listedPlace directory) name) = true) := by
  rw [listed, ← listedPlace, List.mem_filter]
  cases directoriesOnly <;> simp

theorem inside_of_ne {directory : Path} (hrest : rest ≠ "") :
    inside directory rest = Path.join directory rest := by
  rw [inside]
  split
  · next hor =>
      have hdirectory := hor.resolve_right hrest
      rw [hdirectory, String.empty_append, Path.empty_join]
  · rfl

/-- Only directories have something below them. -/
theorem isDirectory_of_mem_tree (hrest : rest ∈ tree fs directoriesOnly depth directory) :
    fs.isDirectory (listedPlace directory) = true := by
  cases depth with
  | zero => cases hrest
  | succ depth =>
      rw [tree, List.mem_flatMap] at hrest
      obtain ⟨name, hname, -⟩ := hrest
      exact FileSystem.isDirectory_of_mem_names (mem_listed.mp (List.mem_filter.mp hname).1).1

include hnames

theorem ne_empty_of_mem_tree (hrest : rest ∈ tree fs directoriesOnly depth directory) :
    rest ≠ "" := by
  cases depth with
  | zero => cases hrest
  | succ depth =>
      rw [tree, List.mem_flatMap] at hrest
      obtain ⟨name, hname, hrest⟩ := hrest
      have hlisted := (mem_listed.mp (List.mem_filter.mp hname).1).1
      have hcomponent := FileSystem.isComponent_of_mem_names hnames hlisted
      rcases List.mem_cons.mp hrest with rfl | hrest
      · exact hcomponent.1.1
      · obtain ⟨more, -, rfl⟩ := List.mem_map.mp hrest
        rw [inside]
        split
        · simp [hcomponent.1.1]
        · next hneither =>
            rw [not_or] at hneither
            exact Path.join_ne_empty hneither.2 name

/-- What is below a directory is named in it, or is below something named in it. -/
theorem mem_tree_succ : rest ∈ tree fs directoriesOnly (depth + 1) directory ↔
    ∃ name ∈ listed fs directoriesOnly directory, isHidden name = false ∧
      (rest = name ∨ ∃ more ∈ tree fs directoriesOnly depth (Path.join directory name),
        rest = Path.join name more) := by
  rw [tree, List.mem_flatMap]
  refine exists_congr fun name => ?_
  rw [List.mem_filter, List.mem_cons, List.mem_map, and_assoc]
  refine and_congr_right fun hlisted => ?_
  have hname := FileSystem.isComponent_of_mem_names hnames (mem_listed.mp hlisted).1
  rw [inside_of_ne hname.1.1]
  have hmore : ∀ more, more ∈ tree fs directoriesOnly depth (Path.join directory name) →
      inside name more = Path.join name more :=
    fun more hmem => inside_of_ne (ne_empty_of_mem_tree hnames hmem)
  grind

theorem mem_listed_true_iff : name ∈ listed fs true directory ↔
    name ∈ listed fs false directory ∧ fs.isDirectory (Path.join directory name) = true := by
  simp only [mem_listed, true_implies, Bool.false_eq_true, false_implies, and_true]
  refine and_congr_right fun hlisted => ?_
  have hname := FileSystem.isComponent_of_mem_names hnames hlisted
  simp only [FileSystem.isDirectory_iff, Store.locate_join_listedPlace hname]

/-- The directories among what is below a directory are found when only directories are listed. -/
theorem mem_tree_of_isDirectory
    (hdirectory : fs.isDirectory (Path.join directory rest) = true) :
    rest ∈ tree fs true depth directory ↔ rest ∈ tree fs false depth directory := by
  induction depth generalizing directory rest with
  | zero => exact Iff.rfl
  | succ depth ih =>
      rw [mem_tree_succ hnames, mem_tree_succ hnames]
      have hbelow : ∀ name more, rest = Path.join name more →
          fs.isDirectory (Path.join (Path.join directory name) more) = true := by
        rintro name more rfl
        rwa [Path.join_assoc]
      constructor
      · rintro ⟨name, hlisted, hshown, hsame | ⟨more, hmore, hsame⟩⟩
        · exact ⟨name, ((mem_listed_true_iff hnames).mp hlisted).1, hshown, Or.inl hsame⟩
        · exact ⟨name, ((mem_listed_true_iff hnames).mp hlisted).1, hshown,
            Or.inr ⟨more, (ih (hbelow name more hsame)).mp hmore, hsame⟩⟩
      · rintro ⟨name, hlisted, hshown, hsame | ⟨more, hmore, hsame⟩⟩
        · exact ⟨name, (mem_listed_true_iff hnames).mpr ⟨hlisted, hsame ▸ hdirectory⟩, hshown,
            Or.inl hsame⟩
        · -- something is below the name, so it names a directory
          have hfolder := isDirectory_of_mem_tree hmore
          have hname := FileSystem.isComponent_of_mem_names hnames (mem_listed.mp hlisted).1
          rw [Store.listedPlace_of_ne (Path.join_ne_empty hname.1.1 directory)] at hfolder
          exact ⟨name, (mem_listed_true_iff hnames).mpr ⟨hlisted, hfolder⟩, hshown,
            Or.inr ⟨more, (ih (hbelow name more hsame)).mpr hmore, hsame⟩⟩

section Regular

variable (hroot : fs.store.locate true fs.directory (listedPlace directory) =
  .ok (root, some .directory))
variable (hregular : (fs.store.inside root).IsRegular)

include hroot hregular

theorem mem_listed_iff : name ∈ listed fs directoriesOnly directory ↔
    ∃ entry, fs.store.inside root [name] = some entry ∧
      (directoriesOnly = true → entry = .directory) := by
  have hlisted : fs.store.locate true fs.directory (listedPlace (listedPlace directory)) =
      .ok (root, some .directory) := by
    rw [Store.listedPlace_of_ne (Store.locate_eq_ok_iff.mp hroot).1]
    exact hroot
  have hdirectory : ∀ entry, fs.store.get? (root ++ [name]) = some entry →
      (fs.isDirectory (Path.join (listedPlace directory) name) = true ↔ entry = .directory) := by
    intro entry hstored
    have hlocate : fs.store.locate true fs.directory (Path.join (listedPlace directory) name) =
        .ok (root ++ [name], fs.store.get? (root ++ [name])) :=
      Store.locate_join_name hlisted
        (Store.isComponent_of_get? hnames hstored name (by simp)) (hregular.no_links [name])
    rw [FileSystem.isDirectory, FileSystem.entry?, hlocate, hstored]
    simp
  rw [mem_listed, FileSystem.names_of_directory hroot, Store.mem_namesBelow_iff,
    Option.ne_none_iff_exists']
  constructor
  · rintro ⟨⟨entry, hstored⟩, honly⟩
    exact ⟨entry, hstored, fun hflag => (hdirectory entry hstored).mp (honly hflag)⟩
  · rintro ⟨entry, hstored, honly⟩
    exact ⟨⟨entry, hstored⟩, fun hflag => (hdirectory entry hstored).mpr (honly hflag)⟩

/-- There is nothing below a name that does not lead to a directory. -/
theorem locate_of_mem_tree {entry : Entry} {more : Path}
    (hstored : fs.store.inside root [name] = some entry)
    (hmore : more ∈ tree fs directoriesOnly depth (Path.join directory name)) :
    fs.store.locate true fs.directory (listedPlace (Path.join directory name)) =
      .ok (root ++ [name], some .directory) := by
  have hname := Store.isComponent_of_get? hnames hstored name (by simp)
  have hlocate : fs.store.locate true fs.directory (Path.join directory name) =
      .ok (root ++ [name], fs.store.get? (root ++ [name])) :=
    Store.locate_join_name hroot hname (hregular.no_links [name])
  rw [← Store.listedPlace_of_ne (Path.join_ne_empty hname.1.1 directory)] at hlocate
  obtain ⟨place, hplace⟩ := FileSystem.isDirectory_iff.mp (isDirectory_of_mem_tree hmore)
  have hdirectory : fs.store.get? (root ++ [name]) = some .directory :=
    (Prod.ext_iff.mp (Except.ok.inj (hlocate.symm.trans hplace))).2
  rwa [hdirectory] at hlocate

/-- Where there are no links, below a directory is just what is stored there and not hidden. -/
theorem mem_tree_iff : rest ∈ tree fs directoriesOnly depth directory ↔
    ∃ place entry, place ≠ [] ∧ place.length ≤ depth ∧ (∀ name ∈ place, isHidden name = false) ∧
      fs.store.inside root place = some entry ∧ (directoriesOnly = true → entry = .directory) ∧
        rest = String.intercalate "/" place := by
  induction depth generalizing directory root rest with
  | zero =>
      simp only [tree, List.not_mem_nil, false_iff]
      rintro ⟨place, -, hnonempty, hlength, -⟩
      exact hnonempty (List.length_eq_zero_iff.mp (Nat.le_zero.mp hlength))
  | succ depth ih =>
      rw [mem_tree_succ hnames]
      constructor
      · rintro ⟨name, hlisted, hshown, rfl | ⟨more, hmore, rfl⟩⟩
        · obtain ⟨entry, hstored, honly⟩ := (mem_listed_iff hnames hroot hregular).mp hlisted
          exact ⟨[rest], entry, by simp, by simp, by simpa using hshown, hstored, honly, by simp⟩
        · obtain ⟨_, hfirst, -⟩ := (mem_listed_iff hnames hroot hregular).mp hlisted
          have hlocate := locate_of_mem_tree hnames hroot hregular hfirst hmore
          obtain ⟨place, entry, hnonempty, hlength, hothers, hstored, honly, rfl⟩ :=
            (ih hlocate (hregular.below [name])).mp hmore
          rw [Store.inside, List.append_assoc, List.singleton_append] at hstored
          refine ⟨name :: place, entry, by simp, by simpa using hlength, ?_, hstored, honly, ?_⟩
          · exact List.forall_mem_cons.mpr ⟨hshown, hothers⟩
          · have hall := Store.isComponent_of_get? hnames hstored
            rw [Path.join_intercalate_cons hnonempty fun other hother =>
              hall other (List.mem_append_right root hother)]
      · rintro ⟨place, entry, hnonempty, hlength, hshown, hstored, honly, rfl⟩
        obtain ⟨name, others, rfl⟩ := List.exists_cons_of_ne_nil hnonempty
        obtain ⟨hfirst, hlater⟩ := List.forall_mem_cons.mp hshown
        by_cases hothers : others = []
        · subst hothers
          exact ⟨name, (mem_listed_iff hnames hroot hregular).mpr ⟨entry, hstored, honly⟩, hfirst,
            Or.inl (by simp)⟩
        · have hall := Store.isComponent_of_get? hnames hstored
          have hdirectory : fs.store.inside root [name] = some .directory :=
            hregular.directory hothers hstored
          have hlocate := Store.locate_listedPlace_join hroot hregular
            (fun other hother => hall other (by simp_all)) hdirectory
          rw [String.intercalate_singleton] at hlocate
          refine ⟨name, (mem_listed_iff hnames hroot hregular).mpr ⟨_, hdirectory, fun _ => rfl⟩,
            hfirst, Or.inr ⟨String.intercalate "/" others, ?_, ?_⟩⟩
          · refine (ih hlocate (hregular.below [name])).mpr ⟨others, entry, hothers,
              Nat.le_of_succ_le_succ hlength, hlater, ?_, honly, rfl⟩
            rwa [Store.inside, List.append_assoc]
          · rw [Path.join_intercalate_cons hothers fun other hother =>
              hall other (List.mem_append_right root hother)]

end Regular

end Glob

end MutationTesting.Files
