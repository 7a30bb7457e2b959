import MutationTesting.Proofs.Files.ModuleName
import MutationTesting.Proofs.Files.NormalPath

/-!
# Where the names of modules start

The name of a module lists the names on the way from a base directory to its file.  The base is an
ancestor of the file: the project, its `src`, a directory of the search path, or the current one.
-/

namespace MutationTesting.Files

open MutationTesting.Text
open MutationTesting.Files.FileSystem (pathOf)
open MutationTesting.Files.Path (IsComponent)

namespace Path

section Absolute

variable {here : Address} {path directory : Path} {rest : List Char}

theorem leadingSlashes_of_toList (htext : path.toList = '/' :: rest)
    (hrest : ∀ more, rest ≠ '/' :: more) : leadingSlashes path = "/" := by
  have hsingle : startsWith "//" path = false := by
    rw [startsWith, htext]
    cases rest with
    | nil => rfl
    | cons c more =>
        have hc : ('/' == c) = false := by
          rw [beq_eq_false_iff_ne]
          rintro rfl
          exact hrest more rfl
        simp [List.isPrefixOf, hc]
  have habsolute : startsWith "/" path = true := by simp [startsWith, htext]
  simp [leadingSlashes, hsingle, habsolute]

theorem not_slash_of_not_isAbsolute (hpath : isAbsolute path = false) (more : List Char) :
    path.toList ≠ '/' :: more := by
  intro htext
  rw [isAbsolute, startsWith, htext] at hpath
  simp at hpath

theorem leadingSlashes_join (hhere : ∀ name ∈ here, IsComponent name)
    (hpath : leadingSlashes path ≠ "//") : leadingSlashes (join (pathOf here) path) = "/" := by
  cases habsolute : isAbsolute path with
  | true =>
      rw [join_absolute habsolute]
      exact (leadingSlashes_of_isAbsolute habsolute).resolve_right hpath
  | false =>
      cases here with
      | nil =>
          have hjoin : (join (pathOf []) path).toList = '/' :: path.toList := by
            have hroot : pathOf [] = "/" := rfl
            have hend : endsWith "/" "/" = true := by decide
            rw [hroot, join, habsolute, if_neg (by decide), if_pos hend, String.toList_append]
            rfl
          exact leadingSlashes_of_toList hjoin (not_slash_of_not_isAbsolute habsolute)
      | cons first names =>
          obtain ⟨text, last, htext, hlast⟩ :=
            exists_toList_pathOf (List.cons_ne_nil first names) hhere
          obtain ⟨others, hothers⟩ := exists_intercalate_cons "/" first names
          obtain ⟨c, chars, hchars, hc⟩ := (hhere first List.mem_cons_self).exists_cons
          have hend : endsWith "/" (pathOf (first :: names)) = false := by
            rw [endsWith, htext, List.isSuffixOf, Bool.eq_false_iff]
            simp [List.isPrefixOf, Ne.symm hlast]
          have hjoin : (join (pathOf (first :: names)) path).toList =
              '/' :: c :: (chars ++ others ++ '/' :: path.toList) := by
            rw [join_eq (by simp [pathOf]) hend habsolute]
            simp [pathOf, hothers, hchars]
          apply leadingSlashes_of_toList hjoin
          intro more hmore
          rw [List.cons.injEq] at hmore
          simp [hmore.1] at hc

theorem absolute_eq (hhere : ∀ name ∈ here, IsComponent name) (hpath : leadingSlashes path ≠ "//") :
    absolute (pathOf here) path =
      pathOf (collapse true [] (segments (join (pathOf here) path))) := by
  rw [absolute, normalize, isAbsolute_join (isAbsolute_pathOf here),
    leadingSlashes_join hhere hpath, if_neg (by simp)]
  rfl

/-- Unless exactly two slashes stand at its beginning, a path leads to some address. -/
theorem exists_absolute_eq_pathOf (hhere : ∀ name ∈ here, IsComponent name)
    (hpath : leadingSlashes path ≠ "//") :
    ∃ address, (∀ name ∈ address, IsComponent name) ∧
      absolute (pathOf here) path = pathOf address :=
  ⟨_, isComponent_of_mem_collapse (by simp) fun _ => not_mem_of_mem_segments,
    absolute_eq hhere hpath⟩

theorem collapse_concat (isRooted : Bool) (done names : List String) {last : String}
    (hlast : Store.IsName last) :
    ∃ before, collapse isRooted done (names ++ [last]) = before ++ [last] := by
  induction names generalizing done with
  | nil =>
      refine ⟨done.reverse, ?_⟩
      rw [List.nil_append, collapse_name hlast, collapse, List.reverse_cons]
  | cons first rest ih =>
      rw [List.cons_append]
      rcases Store.name_cases first with hstay | rfl | hname
      · rw [collapse_stay hstay]
        exact ih _
      · cases done with
        | nil =>
            rw [collapse, if_neg (by decide), if_pos rfl]
            exact ih _
        | cons up before =>
            rw [collapse, if_neg (by decide), if_pos rfl]
            split
            · exact ih _
            · exact ih _
      · rw [collapse_name hname]
        exact ih _

theorem exists_segments_join (base path : Path) :
    ∃ before, segments (join base path) = before ++ segments path := by
  rw [join]
  split
  · exact ⟨[], rfl⟩
  · split
    · next hend =>
        rw [endsWith, List.isSuffixOf_iff_suffix] at hend
        obtain ⟨text, htext⟩ := hend
        have hbase : base = String.ofList text ++ "/" := by
          rw [← String.toList_inj, String.toList_append, String.toList_ofList, htext]
        exact ⟨segments (String.ofList text), by rw [hbase, segments_append]⟩
    · exact ⟨segments base, segments_append base path⟩

theorem exists_segments_eq_concat (path : Path) :
    ∃ before, segments path = before ++ [baseName path] := by
  obtain ⟨last, hlast⟩ :=
    Option.isSome_iff_exists.mp (List.getLast?_isSome.mpr (segments_ne_nil path))
  obtain ⟨before, hbefore⟩ := List.getLast?_eq_some_iff.mp hlast
  exact ⟨before, by rw [baseName, hbefore, List.getLastD_concat]⟩

/-- Where the last name of a path is an ordinary one, it stays the last one. -/
theorem baseName_absolute (hhere : ∀ name ∈ here, IsComponent name)
    (hpath : leadingSlashes path ≠ "//") (hname : Store.IsName (baseName path)) :
    baseName (absolute (pathOf here) path) = baseName path := by
  obtain ⟨above, habove⟩ := exists_segments_join (pathOf here) path
  obtain ⟨before, hbefore⟩ := exists_segments_eq_concat path
  obtain ⟨dirs, hdirs⟩ :=
    collapse_concat true [] (above ++ before) hname
  rw [List.append_assoc, ← hbefore, ← habove] at hdirs
  have hcomponents : ∀ name ∈ dirs ++ [baseName path], IsComponent name := by
    rw [← hdirs]
    exact isComponent_of_mem_collapse (by simp) fun _ => not_mem_of_mem_segments
  rw [isComponent_concat_iff] at hcomponents
  rw [absolute_eq hhere hpath, hdirs, baseName_pathOf hcomponents.1 hcomponents.2]

end Absolute

section Extension

variable {front : List String} {name last : String}

theorem baseName_intercalate (hfront : ∀ name ∈ front, separator ∉ name.toList)
    (hlast : separator ∉ last.toList) :
    baseName (String.intercalate "/" (front ++ [last])) = last := by
  have hnames : ∀ name ∈ front ++ [last], separator ∉ name.toList := by
    rw [List.forall_mem_append, List.forall_mem_singleton]
    exact ⟨hfront, hlast⟩
  rw [baseName, segments_intercalate (by simp) hnames, List.getLastD_concat]

/-- Only the last of some names loses its extension. -/
theorem withoutExtension_intercalate (hfront : ∀ name ∈ front, separator ∉ name.toList)
    (hlast : separator ∉ last.toList) :
    withoutExtension (String.intercalate "/" (front ++ [last])) =
      String.intercalate "/" (front ++ [String.ofList (splitName last.toList).1]) := by
  obtain ⟨head, hhead⟩ := exists_intercalate_concat "/" front
  have hlength : (head ++ last).length - last.toList.length = head.toList.length := by
    rw [String.length_append, String.length_toList, String.length_toList, Nat.add_sub_cancel]
  rw [withoutExtension, baseName_intercalate hfront hlast, hhead, hhead, hlength,
    String.toList_append, List.take_left, String.ofList_append, String.ofList_toList]

end Extension

theorem dropCommon_eq_append (as bs : List String) :
    ∃ common, as = common ++ (dropCommon as bs).1 ∧ bs = common ++ (dropCommon as bs).2 := by
  fun_induction dropCommon as bs with
  | case1 as b bs ih =>
      obtain ⟨common, has, hbs⟩ := ih
      exact ⟨b :: common, congrArg (List.cons b) has, congrArg (List.cons b) hbs⟩
  | case2 => exact ⟨[], rfl, rfl⟩
  | case3 => exact ⟨[], rfl, rfl⟩

end Path

open MutationTesting.Files.Path

/-- The directory that the name of the module in a file starts from. -/
def moduleBase (location : Location) (root : Option Path) (path : Path) : Path :=
  let path := Path.absolute location.directory path
  match root with
  | some root => projectBase (Path.absolute location.directory root) path
  | none => searchBase location.directory location.searchPath path

theorem moduleName?_eq (location : Location) (root : Option Path) (path : Path) :
    moduleName? location root path = dottedName?
      (Path.relative (Path.absolute location.directory path) (moduleBase location root path)) := by
  cases root <;> rfl

theorem moduleName?_absolute {directory path : Path} {searchPath : List Path} {root : Option Path}
    (hnormal : Path.absolute directory (Path.absolute directory path) =
      Path.absolute directory path) :
    moduleName? ⟨directory, searchPath⟩ root (Path.absolute directory path) =
      moduleName? ⟨directory, searchPath⟩ root path := by
  simp only [moduleName?, hnormal]

section Base

variable {here : Address} {searchPath : List Path} {root : Option Path}

theorem mem_of_longest {paths : List Path} {path : Path} (hlongest : longest paths = some path) :
    path ∈ paths := by
  induction paths generalizing path with
  | nil => cases hlongest
  | cons first rest ih =>
      rw [longest] at hlongest
      split at hlongest
      · cases hlongest
        exact List.mem_cons_self
      · next other hother =>
          have hmem := List.mem_cons_of_mem first (ih hother)
          rw [Option.some.injEq] at hlongest
          rw [← hlongest]
          split
          · exact hmem
          · exact List.mem_cons_self

theorem exists_moduleBase_eq_pathOf (path : Path) (hhere : ∀ name ∈ here, IsComponent name)
    (hroot : ∀ path ∈ root, leadingSlashes path ≠ "//")
    (hsearch : ∀ path ∈ searchPath, leadingSlashes path ≠ "//") :
    ∃ address, (∀ name ∈ address, IsComponent name) ∧
      moduleBase ⟨pathOf here, searchPath⟩ root path = pathOf address := by
  cases root with
  | some root =>
      obtain ⟨address, haddress, hpath⟩ := exists_absolute_eq_pathOf hhere (hroot root rfl)
      have hsources : IsComponent "src" := by decide
      simp only [moduleBase, projectBase, hpath]
      split
      · exact ⟨address ++ ["src"], isComponent_concat_iff.mpr ⟨haddress, hsources⟩,
          join_pathOf_name haddress hsources⟩
      · exact ⟨address, haddress, rfl⟩
  | none =>
      simp only [moduleBase, searchBase]
      generalize hholding : List.filter _ _ = holding
      cases hlongest : longest holding with
      | none => exact ⟨here, hhere, rfl⟩
      | some base =>
          have hbase := mem_of_longest hlongest
          rw [← hholding, List.mem_filter, List.mem_map] at hbase
          obtain ⟨⟨entry, hentry, rfl⟩, -⟩ := hbase
          exact exists_absolute_eq_pathOf hhere (hsearch entry (List.mem_filter.mp hentry).1)

end Base

/-- The name of package files. -/
def packageFileName : String := packageFile ++ sourceExtension

/-- The names that lead from the base to the file of the module with some names. -/
inductive LeadsToModule : List String → Address → Prop
  | package (parts : List String) : LeadsToModule parts (parts ++ [packageFileName])
  | file (front : List String) (stem : String)
      (hextension : Path.withoutExtension (stem ++ sourceExtension) = stem)
      (hstem : stem ≠ packageFile) :
      LeadsToModule (front ++ [stem]) (front ++ [stem ++ sourceExtension])

theorem isComponent_of_isIdentifier {part : String} (hpart : isIdentifier part.toList = true) :
    IsComponent part := by
  refine ⟨⟨?_, ?_, ?_⟩, not_mem_of_isIdentifier hpart (by decide) (by decide)⟩
  all_goals
    rintro rfl
    exact absurd hpart (by decide)

theorem pieces_of_identifiers {parts : List String} (hnonempty : parts ≠ [])
    (hparts : ∀ part ∈ parts, isIdentifier part.toList = true) :
    pieces '.' (String.intercalate "." parts) = parts :=
  pieces_intercalate hnonempty fun part hpart =>
    not_mem_of_isIdentifier (hparts part hpart) (by decide) (by decide)

/-- The parts of a module's name are the names on the way to its file. -/
theorem leadsToModule_of_dottedName? {place : Address} {name : String}
    (hplace : ∀ name ∈ place, IsComponent name) (hnonempty : place ≠ [])
    (hname : dottedName? (String.intercalate "/" place) = some name) :
    LeadsToModule (pieces '.' name) place ∧
      ∀ part ∈ pieces '.' name, isIdentifier part.toList = true := by
  obtain ⟨front, last, rfl⟩ := (List.eq_nil_or_concat place).resolve_left hnonempty
  rw [List.concat_eq_append] at hname ⊢
  rw [List.concat_eq_append, isComponent_concat_iff] at hplace
  have hfront : ∀ name ∈ front, separator ∉ name.toList := fun name hname => (hplace.1 name hname).2
  have hsplit := splitName_append last.toList
  obtain ⟨stem, hstem⟩ : ∃ stem : String, (splitName last.toList).1 = stem.toList :=
    ⟨String.ofList (splitName last.toList).1, String.toList_ofList.symm⟩
  rw [dottedName?, Option.ite_none_left_eq_some, Bool.or_eq_true, not_or, decide_eq_true_eq,
    ne_eq, Decidable.not_not, Path.extension, baseName_intercalate hfront hplace.2.2,
    withoutExtension_intercalate hfront hplace.2.2, hstem, String.ofList_toList] at hname
  obtain ⟨⟨-, hextension⟩, hname⟩ := hname
  have hlast : last = stem ++ sourceExtension := by
    rw [← hextension, ← String.toList_inj, String.toList_append, String.toList_ofList, ← hstem,
      hsplit]
  have hsegments : segments (String.intercalate "/" (front ++ [stem])) = front ++ [stem] := by
    refine segments_intercalate (by simp) ?_
    rw [List.forall_mem_append, List.forall_mem_singleton]
    refine ⟨hfront, fun hmem => hplace.2.2 ?_⟩
    rw [hlast, String.toList_append]
    exact List.mem_append_left _ hmem
  rw [hsegments] at hname
  dsimp only at hname
  rw [List.getLast?_concat, List.dropLast_concat] at hname
  generalize hchosen : (if some stem = some packageFile then front else front ++ [stem]) = parts
    at hname
  rw [Option.ite_none_left_eq_some, Bool.or_eq_true, not_or, List.isEmpty_iff, Bool.not_eq_true',
    Bool.not_eq_false, List.all_eq_true] at hname
  obtain ⟨⟨hparts, hidentifiers⟩, hjoined⟩ := hname
  rw [← Option.some.inj hjoined, pieces_of_identifiers hparts hidentifiers, hlast]
  refine ⟨?_, hidentifiers⟩
  by_cases hpackage : stem = packageFile
  · rw [if_pos (congrArg some hpackage)] at hchosen
    rw [← hchosen, hpackage]
    exact LeadsToModule.package front
  · rw [if_neg (fun hsame => hpackage (Option.some.inj hsame))] at hchosen
    rw [← hchosen]
    refine LeadsToModule.file front stem ?_ hpackage
    have hnone : ∀ name ∈ ([] : List String), separator ∉ name.toList := by simp
    have hwithout := withoutExtension_intercalate hnone hplace.2.2
    rwa [List.nil_append, List.nil_append, String.intercalate_singleton,
      String.intercalate_singleton, hstem, String.ofList_toList, hlast] at hwithout

theorem dottedName?_of_startsWith {relative : Path} (hup : startsWith ".." relative = true) :
    dottedName? relative = none := by
  rw [dottedName?, hup]
  rfl

/-- Only files below a directory have names that start there. -/
theorem exists_place_of_dottedName? {start target : Path} {name : String}
    (hname : dottedName? (relative target start) = some name) :
    ∃ place, place ≠ [] ∧ names target = names start ++ place := by
  obtain ⟨common, hstart, htarget⟩ := dropCommon_eq_append (names start) (names target)
  cases hup : (dropCommon (names start) (names target)).1 with
  | cons step steps =>
      obtain ⟨others, hothers⟩ := exists_intercalate_cons "/" ".."
        (steps.map (fun _ => "..") ++ (dropCommon (names start) (names target)).2)
      have hdots : startsWith ".." (relative target start) = true := by
        rw [relative, startsWith, List.isPrefixOf_iff_prefix]
        exact ⟨others, by simpa [hup] using hothers.symm⟩
      rw [dottedName?_of_startsWith hdots] at hname
      cases hname
  | nil =>
      rw [hup, List.append_nil] at hstart
      refine ⟨(dropCommon (names start) (names target)).2, fun hdown => ?_, hstart ▸ htarget⟩
      have hsame : relative target start = "." := by simp [relative, hup, hdown]
      have hnone : dottedName? "." = none := by decide
      rw [hsame, hnone] at hname
      cases hname

/-- The file of a module lies below the base of its name, at the place that the name spells. -/
theorem exists_place_of_moduleName? {here : Address} {searchPath : List Path} {root : Option Path}
    {path : Path} {name : String} (hhere : ∀ name ∈ here, IsComponent name)
    (hpath : leadingSlashes path ≠ "//") (hroot : ∀ path ∈ root, leadingSlashes path ≠ "//")
    (hsearch : ∀ path ∈ searchPath, leadingSlashes path ≠ "//")
    (hname : moduleName? ⟨pathOf here, searchPath⟩ root path = some name) :
    ∃ base place, (∀ name ∈ base ++ place, IsComponent name) ∧
      moduleBase ⟨pathOf here, searchPath⟩ root path = pathOf base ∧
      Path.absolute (pathOf here) path = pathOf (base ++ place) ∧
      LeadsToModule (pieces '.' name) place ∧
      ∀ part ∈ pieces '.' name, isIdentifier part.toList = true := by
  obtain ⟨base, hbase, hbasePath⟩ := exists_moduleBase_eq_pathOf path hhere hroot hsearch
  obtain ⟨address, haddress, hfile⟩ := exists_absolute_eq_pathOf hhere hpath
  rw [moduleName?_eq, hfile, hbasePath] at hname
  obtain ⟨place, hplace, hnames⟩ := exists_place_of_dottedName? hname
  rw [relative_of_names hplace hnames] at hname
  rw [names_pathOf haddress, names_pathOf hbase] at hnames
  rw [hnames] at haddress hfile
  have hcomponents : ∀ name ∈ place, IsComponent name :=
    fun name hmem => haddress name (List.mem_append_right base hmem)
  exact ⟨base, place, haddress, hbasePath, hfile,
    leadsToModule_of_dottedName? hcomponents hplace hname⟩

/-- The path of a loaded file is written out from the root on. -/
theorem Discovery.exists_path_of_loadFile? {fs : FileSystem} {here : Address}
    {searchPath : List Path} {root : Option Path} {excluded : List String} {path : Path}
    {source : SourceFile} (hdirectory : fs.directory = pathOf here)
    (hhere : ∀ name ∈ here, IsComponent name) (hpath : Path.leadingSlashes path ≠ "//")
    (hload : loadFile? fs searchPath root excluded path = some source) :
    ∃ address, (∀ name ∈ address, IsComponent name) ∧ source.path = pathOf address := by
  rw [(fields_of_loadFile? hload).1, FileSystem.absolute, hdirectory]
  exact Path.exists_absolute_eq_pathOf hhere hpath

end MutationTesting.Files
