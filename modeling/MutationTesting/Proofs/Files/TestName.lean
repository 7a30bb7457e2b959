import MutationTesting.Proofs.Files.Characters
import MutationTesting.Proofs.Files.Inside
import MutationTesting.Proofs.Files.ModuleBase

/-!
# Files that are known by their last name

Whether a file is a test is decided by the last name of its path, and no directory above it matters.
An ordinary last name stays the last one when a path is made absolute, and what the path leads to is
called by it, unless it is a link.  So a test and a file that is none do not stand at one place
without a link.
-/

namespace MutationTesting.Files

open MutationTesting.Text

namespace Path

variable {path name : String} {front : List String}

theorem baseName_of_segments (hsegments : segments path = front ++ [name]) :
    baseName path = name := by
  rw [baseName, hsegments, List.getLastD_concat]

theorem baseName_of_not_mem (hname : separator ∉ name.toList) : baseName name = name := by
  rw [baseName, segments_of_not_mem hname]
  rfl

theorem baseName_below (above : String) (hname : separator ∉ name.toList) :
    baseName (above ++ "/" ++ name) = name := by
  apply baseName_of_segments
  rw [segments_append, segments_of_not_mem hname]

theorem separator_not_mem_baseName (path : Path) : separator ∉ (baseName path).toList := by
  obtain ⟨front, hfront⟩ := exists_segments_eq_concat path
  exact not_mem_of_mem_segments (hfront ▸ List.mem_append_right front (List.mem_singleton.mpr rfl))

/-- A path is its last name, or a slash stands before that. -/
theorem eq_baseName_or (path : Path) :
    path = baseName path ∨ ∃ above, path = above ++ "/" ++ baseName path := by
  by_cases hslash : separator ∈ path.toList
  · obtain ⟨after, before, hsplit, hafter⟩ :=
      List.eq_append_cons_of_mem (List.mem_reverse.mpr hslash)
    right
    have hpath : path = String.ofList before.reverse ++ "/" ++ String.ofList after.reverse := by
      rw [← String.toList_inj, ← List.reverse_inj, hsplit]
      simp [separator]
    have hname : separator ∉ (String.ofList after.reverse).toList := by simpa using hafter
    refine ⟨String.ofList before.reverse, ?_⟩
    rw [hpath, baseName_below _ hname]
  · exact Or.inl (baseName_of_not_mem hslash).symm

theorem baseName_eq_iff :
    baseName path = name ↔
      separator ∉ name.toList ∧ (path = name ∨ ∃ above, path = above ++ "/" ++ name) := by
  constructor
  · rintro rfl
    exact ⟨separator_not_mem_baseName path, eq_baseName_or path⟩
  · rintro ⟨hname, rfl | ⟨above, rfl⟩⟩
    · exact baseName_of_not_mem hname
    · exact baseName_below above hname

/-- A character other than a slash makes the last name of a path longer. -/
theorem baseName_append (path : Path) (hmore : separator ∉ name.toList) :
    baseName (path ++ name) = baseName path ++ name := by
  obtain ⟨front, hfront⟩ := exists_segments_eq_concat path
  exact baseName_of_segments (segments_append_of_not_mem hmore hfront)

theorem baseName_join_eq (base path : Path) : baseName (join base path) = baseName path := by
  obtain ⟨before, hbefore⟩ := exists_segments_join base path
  obtain ⟨front, hfront⟩ := exists_segments_eq_concat path
  rw [hfront, ← List.append_assoc] at hbefore
  exact baseName_of_segments hbefore

theorem leadingSlashes_cases (path : Path) :
    leadingSlashes path = "" ∨ leadingSlashes path = "/" ∨ leadingSlashes path = "//" := by
  cases hpath : isAbsolute path with
  | true => exact Or.inr (leadingSlashes_of_isAbsolute hpath)
  | false =>
      have hslash : startsWith "/" path = false := hpath
      have hslashes : startsWith "//" path = false := by
        rw [startsWith, Bool.eq_false_iff, Ne, List.isPrefixOf_iff_prefix] at hslash ⊢
        intro hstarts
        exact hslash (List.IsPrefix.trans ⟨['/'], rfl⟩ hstarts)
      left
      rw [leadingSlashes, hslash, hslashes]
      rfl

theorem baseName_normalize_of_collapse {before : List String} (hname : name ≠ "")
    (hslash : separator ∉ name.toList)
    (hcollapse : collapse (isAbsolute path) [] (segments path) = before ++ [name]) :
    baseName (normalize path) = name := by
  have htext : normalize path =
      leadingSlashes path ++ String.intercalate "/" (before ++ [name]) := by
    rw [normalize, hcollapse, if_neg]
    obtain ⟨head, hhead⟩ := exists_intercalate_concat "/" before
    simp [hhead, hname]
  rw [baseName_eq_iff, htext]
  refine ⟨hslash, ?_⟩
  by_cases hbefore : before = []
  · rw [hbefore, List.nil_append, String.intercalate_singleton]
    rcases leadingSlashes_cases path with hnone | hsingle | hdouble
    · exact Or.inl (by rw [hnone, String.empty_append])
    · exact Or.inr ⟨"", by rw [hsingle, String.empty_append]⟩
    · exact Or.inr ⟨"/", by rw [hdouble]; rfl⟩
  · right
    refine ⟨leadingSlashes path ++ String.intercalate "/" before, ?_⟩
    rw [String.intercalate_append_of_ne_nil hbefore (List.cons_ne_nil name []),
      String.intercalate_singleton]
    simp only [String.append_assoc]

/-- Where names are carried out, an ordinary one at the end stays there. -/
theorem baseName_normalize (hname : Store.IsName (baseName path)) :
    baseName (normalize path) = baseName path := by
  obtain ⟨front, hfront⟩ := exists_segments_eq_concat path
  obtain ⟨before, hbefore⟩ := collapse_concat (isAbsolute path) [] front hname
  rw [← hfront] at hbefore
  exact baseName_normalize_of_collapse hname.1 (separator_not_mem_baseName path) hbefore

theorem baseName_absolute_eq (directory : Path) (hname : Store.IsName (baseName path)) :
    baseName (absolute directory path) = baseName path := by
  have hjoin := baseName_join_eq directory path
  rw [absolute, baseName_normalize (hjoin.symm ▸ hname), hjoin]

theorem ne_empty_of_mem_collapse {isRooted : Bool} {done names : List String}
    (hdone : ∀ name ∈ done, name ≠ "") : ∀ name ∈ collapse isRooted done names, name ≠ "" := by
  fun_induction collapse isRooted done names with
  | case1 done => exact fun name hname => hdone name (List.mem_reverse.mp hname)
  | case2 done first rest _ ih => exact ih hdone
  | case3 rest _ ih =>
      apply ih
      split
      · exact List.forall_mem_nil _
      · exact List.forall_mem_singleton.mpr (by decide)
  | case4 rest before _ ih => exact ih (List.forall_mem_cons.mpr ⟨by decide, hdone⟩)
  | case5 rest last before _ _ ih => exact ih (List.forall_mem_cons.mp hdone).2
  | case6 done first rest hfirst _ ih =>
      exact ih (List.forall_mem_cons.mpr ⟨fun hempty => hfirst (Or.inl hempty), hdone⟩)

/-- The last name of a path is the last of its names. -/
theorem names_eq_concat (hname : baseName path ≠ "") :
    ∃ before, names path = before ++ [baseName path] := by
  obtain ⟨front, hfront⟩ := exists_segments_eq_concat path
  refine ⟨front.filter (· ≠ ""), ?_⟩
  rw [names, hfront, List.filter_append]
  simp [hname]

/-- A normal path ends with a slash only if it has nothing else. -/
theorem names_normalize_of_baseName (hlast : baseName (normalize path) = "") :
    names (normalize path) = [] := by
  have hsome : ∀ name ∈ collapse (isAbsolute path) [] (segments path), name ≠ "" :=
    ne_empty_of_mem_collapse (List.forall_mem_nil _)
  have hslash : ∀ name ∈ collapse (isAbsolute path) [] (segments path), separator ∉ name.toList :=
    forall_mem_collapse (by decide) (List.forall_mem_nil _) fun name => not_mem_of_mem_segments
  cases List.eq_nil_or_concat (collapse (isAbsolute path) [] (segments path)) with
  | inl hnone =>
      rw [normalize, hnone] at hlast ⊢
      rcases leadingSlashes_cases path with hnone | hsingle | hdouble
      · rw [hnone] at hlast
        exact absurd hlast (by decide)
      · rw [hsingle]
        decide
      · rw [hdouble]
        decide
  | inr hconcat =>
      obtain ⟨before, name, hconcat⟩ := hconcat
      rw [List.concat_eq_append] at hconcat
      have hmem : name ∈ collapse (isAbsolute path) [] (segments path) := by simp [hconcat]
      rw [baseName_normalize_of_collapse (hsome name hmem) (hslash name hmem) hconcat] at hlast
      exact absurd hlast (hsome name hmem)

/-- A normal path with any names ends with the last of them. -/
theorem baseName_normalize_of_names {before : List String}
    (hnames : names (normalize path) = before ++ [name]) : baseName (normalize path) = name := by
  by_cases hlast : baseName (normalize path) = ""
  · rw [names_normalize_of_baseName hlast] at hnames
    simp at hnames
  · obtain ⟨front, hfront⟩ := names_eq_concat hlast
    rw [hnames] at hfront
    exact (List.singleton_inj.mp (List.append_inj' hfront rfl).2).symm

theorem not_mem_of_mem_names (hname : name ∈ names path) : separator ∉ name.toList :=
  not_mem_of_mem_segments (List.mem_filter.mp hname).1

/-- A path that leads down ends with the last name of the path that it leads to. -/
theorem baseName_relative {target start : Path} (htarget : baseName target ≠ "")
    (hdown : (dropCommon (names start) (names target)).2 ≠ []) :
    baseName (relative target start) = baseName target := by
  obtain ⟨before, hbefore⟩ := names_eq_concat htarget
  obtain ⟨common, -, hcommon⟩ := dropCommon_eq_append (names start) (names target)
  obtain ⟨front, last, hfront⟩ := (List.eq_nil_or_concat _).resolve_left hdown
  rw [List.concat_eq_append] at hfront
  rw [hfront, hbefore, ← List.append_assoc] at hcommon
  obtain rfl : baseName target = last := List.singleton_inj.mp (List.append_inj' hcommon rfl).2
  let up := (dropCommon (names start) (names target)).1.map fun _ => ".."
  have htext : relative target start =
      String.intercalate "/" (up ++ front ++ [baseName target]) := by
    unfold relative
    dsimp only
    rw [hfront, ← List.append_assoc, if_neg (by simp)]
  have hslash : ∀ name ∈ up ++ front, separator ∉ name.toList := by
    intro name hname
    cases List.mem_append.mp hname with
    | inl hup =>
        obtain ⟨-, -, rfl⟩ := List.mem_map.mp hup
        decide
    | inr hlater =>
        have hbelow : name ∈ (dropCommon (names start) (names target)).2 := by
          rw [hfront]
          exact List.mem_append_left _ hlater
        exact not_mem_of_mem_names (mem_of_mem_dropCommon hbelow)
  rw [htext, baseName_intercalate hslash (separator_not_mem_baseName target)]

end Path

/-! ## Names of tests -/

/-- Whether a file name without its extension is that of a test. -/
def IsTestStem (stem : String) : Prop :=
  "test_".toList <+: stem.toList ∨ "_test".toList <:+ stem.toList ∨
    "describe_".toList <+: stem.toList ∨ stem = "conftest"

/-- Whether the last name of a path, with a slash before it if it is not all of the path, is that of
a test. -/
def NamesTest (path : Path) : Prop :=
  ∃ stem : String, IsTestStem stem ∧ Path.separator ∉ stem.toList ∧
    (path = stem ++ sourceExtension ∨ ∃ above, path = above ++ "/" ++ (stem ++ sourceExtension))

section Tests

variable {path other : Path}

theorem isTestStem_iff {stem : String} : isTestStem stem.toList = true ↔ IsTestStem stem := by
  rw [isTestStem, IsTestStem]
  simp only [Bool.or_eq_true, List.isPrefixOf_iff_prefix, List.isSuffixOf_iff_suffix,
    decide_eq_true_eq, String.toList_inj, or_assoc]

theorem isTestName_iff {name : String} :
    isTestName name.toList = true ↔ ∃ stem, IsTestStem stem ∧ name = stem ++ sourceExtension := by
  rw [isTestName, Bool.and_eq_true, List.isSuffixOf_iff_suffix]
  constructor
  · rintro ⟨⟨stem, hstem⟩, htest⟩
    rw [← hstem, List.length_append, Nat.add_sub_cancel, List.take_left] at htest
    refine ⟨String.ofList stem, isTestStem_iff.mp (by rwa [String.toList_ofList]), ?_⟩
    rw [← String.toList_inj, ← hstem, String.toList_append, String.toList_ofList]
  · rintro ⟨stem, htest, rfl⟩
    rw [String.toList_append]
    refine ⟨List.suffix_append _ _, ?_⟩
    rw [List.length_append, Nat.add_sub_cancel, List.take_left]
    exact isTestStem_iff.mpr htest

theorem withoutFinalNewline_concat (cs : List Char) : withoutFinalNewline (cs ++ ['\n']) = cs := by
  rw [withoutFinalNewline, if_pos List.getLast?_concat, List.dropLast_concat]

theorem withoutFinalNewline_of_ne {cs : List Char} (hcs : cs.getLast? ≠ some '\n') :
    withoutFinalNewline cs = cs :=
  if_neg hcs

/-- A line feed at the end of a last name is one at the end of the path. -/
theorem getLast?_baseName_ne (hpath : path.toList.getLast? ≠ some '\n') :
    (Path.baseName path).toList.getLast? ≠ some '\n' := by
  intro hlast
  apply hpath
  cases Path.eq_baseName_or path with
  | inl hwhole => rwa [hwhole]
  | inr hbelow =>
      obtain ⟨above, hbelow⟩ := hbelow
      rw [hbelow, String.toList_append, List.getLast?_append, hlast, Option.some_or]

/-- Whether a path leads to a test depends on its last name only. -/
theorem isTestFile_eq (path : Path) :
    isTestFile path = (isTestName (Path.baseName path).toList ||
      isTestName (withoutFinalNewline (Path.baseName path).toList)) := by
  rw [isTestFile]
  dsimp only
  rw [String.ofList_toList]
  by_cases hlast : path.toList.getLast? = some '\n'
  · obtain ⟨cs, hcs⟩ := List.getLast?_eq_some_iff.mp hlast
    obtain rfl : path = String.ofList cs ++ "\n" := by
      rw [← String.toList_inj, hcs]
      simp
    have hname : (Path.baseName (String.ofList cs) ++ "\n").toList =
        (Path.baseName (String.ofList cs)).toList ++ ['\n'] := by simp
    rw [hcs, withoutFinalNewline_concat, Path.baseName_append _ (by decide), hname,
      withoutFinalNewline_concat]
  · rw [withoutFinalNewline_of_ne hlast, withoutFinalNewline_of_ne (getLast?_baseName_ne hlast),
      String.ofList_toList]

theorem isTestFile_congr (hname : Path.baseName path = Path.baseName other) :
    isTestFile path = isTestFile other := by
  rw [isTestFile_eq, isTestFile_eq, hname]

/-- A path that does not end with a line feed is that of a test exactly if its last name is. -/
theorem isTestFile_iff (hpath : path.toList.getLast? ≠ some '\n') :
    isTestFile path = true ↔ NamesTest path := by
  rw [isTestFile_eq, withoutFinalNewline_of_ne (getLast?_baseName_ne hpath), Bool.or_self,
    isTestName_iff]
  constructor
  · rintro ⟨stem, htest, hname⟩
    obtain ⟨hslash, hpath⟩ := Path.baseName_eq_iff.mp hname
    refine ⟨stem, htest, ?_, hpath⟩
    rw [String.toList_append, List.mem_append, not_or] at hslash
    exact hslash.1
  · rintro ⟨stem, htest, hslash, hpath⟩
    refine ⟨stem, htest, Path.baseName_eq_iff.mpr ⟨?_, hpath⟩⟩
    rw [String.toList_append, List.mem_append, not_or]
    exact ⟨hslash, by decide⟩

end Tests

/-! ## Places and links -/

/-- Whether a path is itself that of a link. -/
def FileSystem.IsLink (fs : FileSystem) (path : Path) : Prop :=
  ∃ address target, fs.store.locate false fs.directory path = .ok (address, some (.link target))

/-- Whether two paths lead to one place. -/
def FileSystem.SamePlace (fs : FileSystem) (path other : Path) : Prop :=
  ∃ address entry entry', fs.store.locate true fs.directory path = .ok (address, entry) ∧
    fs.store.locate true fs.directory other = .ok (address, entry')

/-- A trail that ends with an ordinary name leads to an address with that name, or the name is that
of a link. -/
theorem Store.Trail.getLast?_or_link {s : Store} {here address : Address} {front : List String}
    {name : String} {links : List Address} {entry : Option Entry}
    (htrail : s.Trail true here (front ++ [name]) links address entry) (hname : Store.IsName name) :
    address.getLast? = some name ∨ ∃ passed place target, passed.length ≤ links.length ∧
      s.Trail false here (front ++ [name]) passed place (some (.link target)) := by
  obtain ⟨first, second, folder, rfl, hfolder, hlast⟩ :=
    htrail.exists_folder (List.cons_ne_nil name [])
  cases hlast with
  | stay hstay _ => simp [hname.1, hname.2.1] at hstay
  | up _ => exact absurd rfl hname.2.2
  | down _ _ hrest =>
      cases hrest
      exact Or.inl List.getLast?_concat
  | stop _ _ _ => exact Or.inl List.getLast?_concat
  | @jump _ _ _ target others _ _ _ hnext _ _ =>
      have hstop : s.Trail false folder [name] [] (folder ++ [name]) (some (.link target)) :=
        .stop hname hnext ⟨by simp, fun _ _ => rfl⟩
      right
      refine ⟨first ++ [], _, target, ?_, hfolder.append rfl (List.cons_ne_nil name []) hstop⟩
      rw [List.append_nil, List.length_append]
      exact Nat.le_add_right _ _

theorem FileSystem.getLast?_or_isLink {fs : FileSystem} {path : Path} {address : Address}
    {entry : Option Entry} (hname : Store.IsName (Path.baseName path))
    (hlocate : fs.store.locate true fs.directory path = .ok (address, entry)) :
    address.getLast? = some (Path.baseName path) ∨ fs.IsLink path := by
  obtain ⟨hpath, links, hlength, htrail⟩ := Store.locate_eq_ok_iff.mp hlocate
  obtain ⟨front, hfront⟩ := Path.exists_segments_eq_concat (Path.join fs.directory path)
  rw [Path.baseName_join_eq] at hfront
  rw [hfront] at htrail
  refine (htrail.getLast?_or_link hname).imp_right ?_
  rintro ⟨passed, folder, target, hpassed, hlink⟩
  rw [← hfront] at hlink
  have hfew := Nat.le_trans hpassed hlength
  exact ⟨folder, target, Store.locate_eq_ok_iff.mpr ⟨hpath, passed, hfew, hlink⟩⟩

/-- Two paths with different last names lead to one place only if one of them is a link. -/
theorem FileSystem.SamePlace.isLink_or {fs : FileSystem} {path other : Path}
    (hsame : fs.SamePlace path other) (hname : Store.IsName (Path.baseName path))
    (hname' : Store.IsName (Path.baseName other))
    (hdifferent : Path.baseName path ≠ Path.baseName other) : fs.IsLink path ∨ fs.IsLink other := by
  obtain ⟨address, entry, entry', hlocate, hlocate'⟩ := hsame
  cases getLast?_or_isLink hname hlocate with
  | inr hlink => exact Or.inl hlink
  | inl hlast =>
      cases getLast?_or_isLink hname' hlocate' with
      | inr hlink => exact Or.inr hlink
      | inl hlast' => exact absurd (Option.some.inj (hlast.symm.trans hlast')) hdifferent

end MutationTesting.Files
