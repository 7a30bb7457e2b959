import Mathlib.Data.List.TakeWhile
import MutationTesting.Files.Discovery
import MutationTesting.Proofs.Files.Characters
import MutationTesting.Proofs.Files.Descent

/-!
# The pattern of all sources of a directory

The pattern of all sources is a directory's path with two names more.  They are taken off one after
the other, and the path that is left is a pattern of its own, for the directories that are looked
into.
-/

namespace MutationTesting.Files

open MutationTesting.Text
open MutationTesting.Files.Path (IsComponent)
open MutationTesting.Files.Glob (listedPlace)

namespace Path

/-- A path without the slashes at its end, unless it has nothing else. -/
def trimmed (path : Path) : Path :=
  let rest := (path.toList.reverse.dropWhile (· == separator)).reverse
  String.ofList (if rest.isEmpty then path.toList else rest)

variable {path directory : Path} {name : String}

theorem parent_eq_trimmed (path : Path) :
    parent path =
      trimmed (String.ofList (path.toList.take (path.length - (baseName path).length))) := by
  rw [trimmed, String.toList_ofList]
  rfl

theorem exists_toList_of_endsWith (hpath : path ≠ "") (hend : endsWith "/" path = false) :
    ∃ text c, path.toList = text ++ [c] ∧ (c == separator) = false := by
  obtain ⟨c, hlast⟩ :=
    Option.isSome_iff_exists.mp (List.getLast?_isSome.mpr (by simpa using hpath : path.toList ≠ []))
  obtain ⟨text, hchars⟩ := List.getLast?_eq_some_iff.mp hlast
  refine ⟨text, c, hchars, ?_⟩
  rw [beq_eq_false_iff_ne]
  rintro rfl
  rw [endsWith, hchars, Bool.eq_false_iff, Ne, List.isSuffixOf_iff_suffix] at hend
  exact hend (List.suffix_append text _)

theorem trimmed_append_slash (hpath : path ≠ "") (hend : endsWith "/" path = false) :
    trimmed (path ++ "/") = path := by
  obtain ⟨text, c, hchars, hc⟩ := exists_toList_of_endsWith hpath hend
  have hslash : "/".toList = [separator] := rfl
  rw [← String.toList_inj, trimmed, String.toList_append, hchars, hslash]
  simp [hc]

theorem trimmed_of_not_endsWith (hend : endsWith "/" path = false) : trimmed path = path := by
  by_cases hpath : path = ""
  · rw [hpath]
    rfl
  · obtain ⟨text, c, hchars, hc⟩ := exists_toList_of_endsWith hpath hend
    rw [← String.toList_inj, trimmed, hchars]
    simp [hc]

/-- Only slashes are left out. -/
theorem exists_slashes (path : Path) :
    ∃ count, path = trimmed path ++ String.ofList (List.replicate count '/') := by
  have hsplit : (path.toList.reverse.dropWhile (· == separator)).reverse ++
      (path.toList.reverse.takeWhile (· == separator)).reverse = path.toList := by
    rw [← List.reverse_append, List.takeWhile_append_dropWhile, List.reverse_reverse]
  rw [trimmed]
  split
  · exact ⟨0, by simp⟩
  · have hslashes : (path.toList.reverse.takeWhile (· == separator)).reverse =
        List.replicate (path.toList.reverse.takeWhile (· == separator)).length '/' := by
      rw [List.eq_replicate_iff, List.length_reverse]
      refine ⟨rfl, fun c hc => ?_⟩
      have hall := List.mem_takeWhile_imp (List.mem_reverse.mp hc)
      simpa [separator] using hall
    refine ⟨(path.toList.reverse.takeWhile (· == separator)).length, ?_⟩
    rw [← hslashes, ← String.toList_inj, String.toList_append, String.toList_ofList,
      String.toList_ofList, hsplit]

theorem trimmed_ne_empty (hpath : path ≠ "") : trimmed path ≠ "" := by
  rw [trimmed]
  split
  · simpa using hpath
  · next hsome => simpa using hsome

theorem baseName_join (hname : separator ∉ name.toList) (directory : Path) :
    baseName (join directory name) = name := by
  obtain ⟨before, hbefore⟩ := exists_segments_join directory name
  rw [baseName, hbefore, segments_of_not_mem hname, List.getLastD_concat]

theorem parent_join (hdirectory : directory ≠ "") (hname : separator ∉ name.toList) :
    parent (join directory name) = trimmed directory := by
  have hparent : ∀ head : Path, join directory name = head ++ name →
      parent (join directory name) = trimmed head := by
    intro head hhead
    have hlength : (head ++ name).length - name.length = head.toList.length := by
      rw [String.length_append, Nat.add_sub_cancel, String.length_toList]
    rw [parent_eq_trimmed, baseName_join hname, hhead, hlength, String.toList_append, List.take_left,
      String.ofList_toList]
  have hrelative := isAbsolute_of_not_mem hname
  cases hend : endsWith "/" directory with
  | true => exact hparent directory (join_of_endsWith hend hrelative)
  | false =>
      rw [hparent (directory ++ "/") (join_eq hdirectory hend hrelative),
        trimmed_append_slash hdirectory hend, trimmed_of_not_endsWith hend]

theorem length_trimmed_le (path : Path) : (trimmed path).length ≤ path.length := by
  obtain ⟨count, hslashes⟩ := exists_slashes path
  have hlength := congrArg String.length hslashes
  rw [String.length_append] at hlength
  omega

theorem length_join_le (directory : Path) (hname : separator ∉ name.toList) :
    directory.length + name.length ≤ (join directory name).length := by
  have hrelative := isAbsolute_of_not_mem hname
  by_cases hdirectory : directory = ""
  · simp [hdirectory, empty_join]
  · cases hend : endsWith "/" directory with
    | true => rw [join_of_endsWith hend hrelative, String.length_append]
    | false =>
        rw [join_eq hdirectory hend hrelative, String.length_append, String.length_append]
        omega

theorem length_parent_lt (hdifferent : parent path ≠ path) : (parent path).length < path.length := by
  have hstart : (parent path).toList <+: path.toList := by
    rw [parent_eq_trimmed]
    refine List.IsPrefix.trans ?_ (List.take_prefix (path.length - (baseName path).length) _)
    obtain ⟨count, hslashes⟩ := exists_slashes
      (String.ofList (path.toList.take (path.length - (baseName path).length)))
    have hchars := congrArg String.toList hslashes
    rw [String.toList_append, String.toList_ofList] at hchars
    exact ⟨_, hchars.symm⟩
  have hle := hstart.length_le
  have hne : (parent path).toList.length ≠ path.toList.length := fun hsame =>
    hdifferent (String.toList_inj.mp (hstart.eq_of_length hsame))
  rw [String.length_toList, String.length_toList] at hle hne
  omega

end Path

theorem Store.locate_trimmed {s : Store} {root : Address} {base directory : Path}
    (hdirectory : directory ≠ "") :
    s.locate true base (Path.trimmed directory) = .ok (root, some .directory) ↔
      s.locate true base directory = .ok (root, some .directory) := by
  obtain ⟨count, hslashes⟩ := Path.exists_slashes directory
  have hsome := Path.trimmed_ne_empty hdirectory
  have hmore : ∀ count, s.locate true base (Path.trimmed directory ++
      String.ofList (List.replicate count '/')) = .ok (root, some .directory) ↔
        s.locate true base (Path.trimmed directory) = .ok (root, some .directory) := by
    intro count
    induction count with
    | zero => simp
    | succ count ih =>
        have hlast : Path.trimmed directory ++ String.ofList (List.replicate (count + 1) '/') =
            Path.trimmed directory ++ String.ofList (List.replicate count '/') ++ "/" := by
          rw [← String.toList_inj]
          simp [List.replicate_succ']
        rw [hlast, Store.locate_append_slash (by simp [hsome]), ih]
  have hwhole := hmore count
  rw [← hslashes] at hwhole
  exact hwhole.symm

theorem FileSystem.isDirectory_trimmed {fs : FileSystem} (path : Path) :
    fs.isDirectory (Path.trimmed path) = fs.isDirectory path := by
  by_cases hpath : path = ""
  · rw [hpath]
    rfl
  · rw [Bool.eq_iff_iff, isDirectory_iff, isDirectory_iff]
    simp only [Store.locate_trimmed hpath]

namespace Wildcard

/-- Ordinary characters match themselves. -/
theorem matchesText_exactly {chars text : List Char} :
    matchesText (chars.map .exactly) text = true ↔ text = chars := by
  induction chars generalizing text with
  | nil => rw [List.map_nil, matchesText, List.isEmpty_iff]
  | cons c rest ih =>
      cases text with
      | nil => simp [matchesText]
      | cons d others => simp [matchesText, fits, ih]

theorem matchesEnding_iff {rest : List Char → Bool} {text : List Char} :
    matchesEnding rest text = true ↔ ∃ before after, text = before ++ after ∧ rest after = true := by
  refine ⟨exists_of_matchesEnding, ?_⟩
  rintro ⟨before, after, rfl, hafter⟩
  induction before with
  | nil => cases after <;> simp [matchesEnding, hafter]
  | cons c more ih => simp [matchesEnding, ih]

theorem ofPattern_of_plain {chars : List Char} {bound : Nat} (hbound : chars.length ≤ bound)
    (hplain : chars.any Glob.isWild = false) : ofPattern bound chars = chars.map .exactly := by
  induction chars generalizing bound with
  | nil => cases bound <;> rfl
  | cons c rest ih =>
      rw [List.any_cons, Bool.or_eq_false_iff] at hplain
      obtain ⟨bound, rfl⟩ : ∃ less, bound = less + 1 :=
        ⟨bound - 1, by rw [List.length_cons] at hbound; omega⟩
      rw [Glob.ofPattern_cons_of_not_wild bound hplain.1,
        ih (Nat.le_of_succ_le_succ hbound) hplain.2, List.map_cons]

end Wildcard

/-- A star before ordinary characters matches the texts that end with them. -/
theorem matchesPattern_star {ending : String} (hplain : Glob.hasWildcard ending = false)
    (text : String) : matchesPattern ("*" ++ ending) text = endsWith ending text := by
  have hlength : ("*" ++ ending).length = ending.length + 1 := by
    rw [String.length_append, Nat.add_comm]
    rfl
  have hchars : ("*" ++ ending).toList = '*' :: ending.toList := by simp
  rw [matchesPattern, hlength, hchars, Wildcard.ofPattern, if_pos rfl,
    Wildcard.ofPattern_of_plain (Nat.le_of_eq String.length_toList) hplain, Wildcard.matchesText,
    endsWith, Bool.eq_iff_iff, Wildcard.matchesEnding_iff, List.isSuffixOf_iff_suffix]
  simp only [Wildcard.matchesText_exactly]
  constructor
  · rintro ⟨before, _, htext, hsame⟩
    exact ⟨before, by rw [htext, hsame]⟩
  · rintro ⟨before, htext⟩
    exact ⟨before, _, htext.symm, rfl⟩

namespace Glob

variable {fs : FileSystem} {directoriesOnly : Bool} {directory path d : Path} {name : String}

theorem hasWildcard_join (hname : hasWildcard name = true) (directory : Path) :
    hasWildcard (Path.join directory name) = true := by
  obtain ⟨head, hhead⟩ := Path.exists_join_eq directory name
  rw [hasWildcard_eq] at hname ⊢
  rw [hhead, String.toList_append, List.any_append, hname, Bool.or_true]

theorem hasWildcard_trimmed (path : Path) :
    hasWildcard (Path.trimmed path) = hasWildcard path := by
  obtain ⟨count, hslashes⟩ := Path.exists_slashes path
  have hplain : (List.replicate count '/').any isWild = false := by
    rw [List.any_eq_false]
    intro c hc
    rw [List.eq_of_mem_replicate hc]
    decide
  rw [hasWildcard_eq, hasWildcard_eq]
  conv_rhs => rw [hslashes, String.toList_append, List.any_append, String.toList_ofList, hplain,
    Bool.or_false]

/-- Any bound above the length of a pattern is enough. -/
theorem expandFrom_of_length_lt {bound other : Nat} (hbound : path.length < bound)
    (hother : path.length < other) :
    expandFrom fs bound directoriesOnly path = expandFrom fs other directoriesOnly path := by
  induction bound generalizing other directoriesOnly path with
  | zero => exact absurd hbound (Nat.not_lt_zero _)
  | succ bound ih =>
      obtain ⟨other, rfl⟩ : ∃ less, other = less + 1 := ⟨other - 1, by omega⟩
      have hparent : Path.parent path ≠ path →
          expandFrom fs bound true (Path.parent path) =
            expandFrom fs other true (Path.parent path) := by
        intro hdifferent
        have hless := Path.length_parent_lt hdifferent
        exact ih (by omega) (by omega)
      rw [expandFrom, expandFrom]
      by_cases hdifferent : Path.parent path = path
      · simp only [hdifferent, ne_eq, not_true_eq_false, decide_false, Bool.false_and,
          Bool.false_eq_true, if_false]
      · rw [hparent hdifferent]

/-- The pattern of a last name stands for the same directories when only directories are listed. -/
theorem mem_namesIn_of_isDirectory
    (hnames : ∀ e ∈ fs.store.entries, ∀ name ∈ e.1, IsComponent name) {rest pattern : Path}
    (hdirectory : rest ≠ "" → fs.isDirectory (Path.join directory rest) = true) :
    rest ∈ namesIn fs true directory pattern ↔ rest ∈ namesIn fs false directory pattern := by
  rw [namesIn, namesIn]
  split
  · rw [List.mem_cons, List.mem_cons]
    by_cases hrest : rest = ""
    · simp [hrest]
    · rw [mem_tree_of_isDirectory hnames (hdirectory hrest)]
  · split
    · rw [matching, matching, List.mem_filter, List.mem_filter, mem_listed_true_iff hnames, and_assoc]
      refine and_congr_right fun hlisted => ?_
      have hname := FileSystem.isComponent_of_mem_names hnames (mem_listed.mp hlisted).1
      rw [hdirectory hname.1.1, eq_self, true_and]
    · exact Iff.rfl

theorem mem_expandFrom_of_isDirectory
    (hnames : ∀ e ∈ fs.store.entries, ∀ name ∈ e.1, IsComponent name) {bound : Nat}
    (hd : fs.isDirectory (listedPlace d) = true) :
    d ∈ expandFrom fs bound true path ↔ d ∈ expandFrom fs bound false path := by
  have hsome : d ≠ "" → fs.isDirectory d = true := fun hne => Store.listedPlace_of_ne hne ▸ hd
  cases bound with
  | zero => exact Iff.rfl
  | succ bound =>
      rw [expandFrom, expandFrom]
      split
      · exact Iff.rfl
      · split
        · exact mem_namesIn_of_isDirectory hnames (by simpa only [Path.empty_join] using hsome)
        · simp only [List.mem_flatMap, List.mem_map]
          refine exists_congr fun above => and_congr_right fun _ => exists_congr fun rest => ?_
          refine and_congr_left ?_
          rintro rfl
          exact mem_namesIn_of_isDirectory hnames fun hrest =>
            hsome (Path.join_ne_empty hrest above)

/-- A directory without wildcards stands for itself. -/
theorem expand_of_not_hasWildcard (hplain : hasWildcard directory = false)
    (hdirectory : fs.isDirectory directory = true) : expand fs directory = [directory] := by
  rw [expand, expandFrom, hplain, Bool.not_false, if_pos rfl]
  split
  · next hbase =>
      have hparent : fs.isDirectory (Path.parent directory) = true := by
        have hwhole : directory.toList.take directory.length = directory.toList :=
          List.take_of_length_le (Nat.le_of_eq String.length_toList)
        rw [Path.parent_eq_trimmed, hbase]
        rwa [String.length_empty, Nat.sub_zero, hwhole, String.ofList_toList,
          FileSystem.isDirectory_trimmed]
      rw [if_pos hparent]
  · rw [if_pos (FileSystem.holds_of_isDirectory hdirectory)]

/-- What the directories above a last name can be. -/
def foldersOf (fs : FileSystem) (bound : Nat) (directory : Path) : List Path :=
  if hasWildcard directory then expandFrom fs bound true directory else [directory]

theorem mem_foldersOf_iff (hnames : ∀ e ∈ fs.store.entries, ∀ name ∈ e.1, IsComponent name)
    {bound : Nat} (hbound : directory.length < bound) (hdirectory : fs.isDirectory directory = true)
    (hd : fs.isDirectory (listedPlace d) = true) :
    d ∈ foldersOf fs bound directory ↔ d ∈ expand fs directory := by
  rw [foldersOf]
  split
  · rw [expandFrom_of_length_lt hbound (Nat.lt_succ_self directory.length),
      mem_expandFrom_of_isDirectory hnames hd, expand]
  · next hplain =>
      rw [expand_of_not_hasWildcard (by simpa using hplain) hdirectory]

theorem mem_expandFrom_join {bound : Nat} (hdirectory : directory ≠ "")
    (hname : Path.separator ∉ name.toList) (hwild : hasWildcard name = true) :
    path ∈ expandFrom fs (bound + 1) directoriesOnly (Path.join directory name) ↔
      ∃ d ∈ foldersOf fs bound (Path.trimmed directory), ∃ rest ∈ namesIn fs directoriesOnly d name,
        path = Path.join d rest := by
  have hdifferent : Path.trimmed directory ≠ Path.join directory name := by
    intro hsame
    have hless := Path.length_trimmed_le directory
    have hmore := Path.length_join_le directory hname
    have hsome : name.length ≠ 0 := by
      rw [Ne, String.length_eq_zero_iff]
      rintro rfl
      cases hwild
    rw [hsame] at hless
    omega
  rw [expandFrom, Path.parent_join hdirectory hname, Path.baseName_join hname,
    hasWildcard_join hwild]
  simp only [Bool.not_true, Bool.false_eq_true, if_false, Path.trimmed_ne_empty hdirectory, ne_eq,
    hdifferent, not_false_eq_true, decide_true, Bool.true_and, List.mem_flatMap, List.mem_map,
    foldersOf, eq_comm (a := path)]

/-- The last name of a source pattern. -/
def sourceName : String := "*" ++ sourceExtension

theorem isDirectory_of_mem_matching {rest : Path} {depth : Nat}
    (hrest : rest ∈ "" :: tree fs directoriesOnly depth directory)
    (hname : name ∈ matching fs false (Path.join directory rest) sourceName) :
    fs.isDirectory (listedPlace directory) = true := by
  rcases List.mem_cons.mp hrest with rfl | hrest
  · have hlisted := (mem_listed.mp (List.mem_filter.mp hname).1).1
    obtain ⟨root, hroot⟩ :=
      FileSystem.isDirectory_iff.mp (FileSystem.isDirectory_of_mem_names hlisted)
    exact FileSystem.isDirectory_iff.mpr ⟨root, Store.locate_join_empty.mp hroot⟩
  · exact isDirectory_of_mem_tree hrest

theorem separator_not_mem_anyDirectories : Path.separator ∉ anyDirectories.toList := by decide

theorem separator_not_mem_sourceName : Path.separator ∉ sourceName.toList := by decide

theorem length_allSources (directory : Path) :
    directory.length + 6 ≤ (Discovery.allSources directory).length := by
  have hfirst := Path.length_join_le directory separator_not_mem_anyDirectories
  have hsecond :=
    Path.length_join_le (Path.join directory anyDirectories) separator_not_mem_sourceName
  have hlengths : anyDirectories.length = 2 ∧ sourceName.length = 4 := by decide
  rw [Discovery.allSources, ← sourceName]
  omega

/-- Two names are taken off the pattern of all sources before the path of the directory is left. -/
theorem mem_expandFrom_allSources {bound : Nat} (hdirectory : directory ≠ "") :
    path ∈ expandFrom fs (bound + 1 + 1) false (Discovery.allSources directory) ↔
      ∃ d ∈ foldersOf fs bound (Path.trimmed directory),
        ∃ rest ∈ "" :: tree fs true (maxDepth fs) d,
          ∃ name ∈ matching fs false (Path.join d rest) sourceName,
            path = Path.join (Path.join d rest) name := by
  have hlast : ∀ d, namesIn fs false d sourceName = matching fs false d sourceName := fun _ => rfl
  have hbefore : ∀ d, namesIn fs true d anyDirectories = "" :: tree fs true (maxDepth fs) d :=
    fun _ => rfl
  have hmiddle : Path.trimmed (Path.join directory anyDirectories) =
      Path.join directory anyDirectories :=
    Path.trimmed_of_not_endsWith (by rw [Path.endsWith_join (by decide)]; decide)
  have hwild : hasWildcard (Path.join directory anyDirectories) = true :=
    hasWildcard_join (by decide) directory
  rw [Discovery.allSources, ← sourceName,
    mem_expandFrom_join (Path.join_ne_empty (by decide) directory) separator_not_mem_sourceName
      (by decide), hmiddle,
    foldersOf, if_pos hwild]
  have hany : hasWildcard anyDirectories = true := by decide
  simp only [mem_expandFrom_join hdirectory separator_not_mem_anyDirectories hany, hlast, hbefore]
  constructor
  · rintro ⟨_, ⟨d, hd, rest, hrest, rfl⟩, hname⟩
    exact ⟨d, hd, rest, hrest, hname⟩
  · rintro ⟨d, hd, rest, hrest, hname⟩
    exact ⟨_, ⟨d, hd, rest, hrest, rfl⟩, hname⟩

/-- The pattern of all sources stands for names that match in the directories below what the path of
the directory stands for. -/
theorem mem_expand_allSources (hnames : ∀ e ∈ fs.store.entries, ∀ name ∈ e.1, IsComponent name)
    (hdirectory : fs.isDirectory directory = true) :
    path ∈ expand fs (Discovery.allSources directory) ↔
      ∃ d ∈ expand fs (Path.trimmed directory), ∃ rest ∈ "" :: tree fs true (maxDepth fs) d,
        ∃ name ∈ matching fs false (Path.join d rest) sourceName,
          path = Path.join (Path.join d rest) name := by
  obtain ⟨root, hlocate⟩ := FileSystem.isDirectory_iff.mp hdirectory
  have hsome := (Store.locate_eq_ok_iff.mp hlocate).1
  have hlength := length_allSources directory
  obtain ⟨bound, hbound⟩ : ∃ bound, (Discovery.allSources directory).length = bound + 1 :=
    ⟨_, (Nat.succ_pred_eq_of_pos (by omega)).symm⟩
  have hless : (Path.trimmed directory).length < bound := by
    have htrimmed := Path.length_trimmed_le directory
    omega
  have hfolders : ∀ d rest name, rest ∈ "" :: tree fs true (maxDepth fs) d →
      name ∈ matching fs false (Path.join d rest) sourceName →
        (d ∈ foldersOf fs bound (Path.trimmed directory) ↔ d ∈ expand fs (Path.trimmed directory)) :=
    fun d rest name hrest hname => mem_foldersOf_iff hnames hless
      (by rw [FileSystem.isDirectory_trimmed, hdirectory]) (isDirectory_of_mem_matching hrest hname)
  rw [expand, hbound, mem_expandFrom_allSources hsome]
  constructor
  · rintro ⟨d, hd, rest, hrest, name, hname, hpath⟩
    exact ⟨d, (hfolders d rest name hrest hname).mp hd, rest, hrest, name, hname, hpath⟩
  · rintro ⟨d, hd, rest, hrest, name, hname, hpath⟩
    exact ⟨d, (hfolders d rest name hrest hname).mpr hd, rest, hrest, name, hname, hpath⟩

end Glob

end MutationTesting.Files
