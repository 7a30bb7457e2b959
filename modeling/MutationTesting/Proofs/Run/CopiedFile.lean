import MutationTesting.Proofs.Files.Expansion
import MutationTesting.Proofs.Run.ProjectCopy
import MutationTesting.Proofs.Run.SharedFile

/-!
# A file in a copy of its project

A copy has no backups and no compiled files, since their names are not copied.  So whatever a worker
does to a file in a copy concerns the file and its new backup only, and a path to the file leads
there all the time.
-/

namespace MutationTesting.Run

open MutationTesting.Files
open MutationTesting.Files.FileSystem (pathOf)
open MutationTesting.Files.Path (IsComponent)

section Names

theorem matchesEnding_append {rest : List Char → Bool} {before after : List Char}
    (hafter : rest after = true) : Wildcard.matchesEnding rest (before ++ after) = true := by
  induction before with
  | nil =>
      cases after with
      | nil => exact hafter
      | cons c cs => simp [Wildcard.matchesEnding, hafter]
  | cons c cs ih => simp [Wildcard.matchesEnding, ih]

/-- Backups are not copied. -/
theorem isIgnored_backup (name : String) : isIgnored (name ++ ".backup") = true := by
  have hpattern : Wildcard.ofPattern "*.backup".length "*.backup".toList =
      .anyText :: ".backup".toList.map .exactly := by decide
  have hmatch : matchesPattern "*.backup" (name ++ ".backup") = true := by
    rw [matchesPattern, hpattern, Wildcard.matchesText, String.toList_append]
    exact matchesEnding_append (by decide)
  simp [isIgnored, ignoredNames, hmatch]

theorem isIgnored_cache : isIgnored "__pycache__" = true := by decide +kernel

theorem ne_backup_cache (name : String) : "__pycache__" ≠ name ++ ".backup" := by
  intro hsame
  have hlast := congrArg (fun text => text.toList.getLast?) hsame
  simp at hlast

theorem isComponent_backup {name : String} (hname : IsComponent name) :
    IsComponent (name ++ ".backup") := by
  have hlonger : ∀ text : String, text.length < 7 → name ++ ".backup" ≠ text := by
    rintro text hlength rfl
    rw [String.length_append, show ".backup".length = 7 from rfl] at hlength
    omega
  refine ⟨⟨hlonger "" (by decide), hlonger "." (by decide), hlonger ".." (by decide)⟩, ?_⟩
  rw [String.toList_append, List.mem_append, not_or]
  exact ⟨hname.2, by decide⟩

theorem mem_of_mem_splitName {name : List Char} {c : Char} (hc : c ∈ (Path.splitName name).1) :
    c ∈ name := by
  rw [← Path.splitName_append name]
  exact List.mem_append_left _ hc

/-- The pattern for the names of compiled files. -/
def compiledName (name : String) : String :=
  Glob.escape (Path.withoutExtension name) ++ ".*.pyc"

theorem isComponent_compiledName {name : String} (hname : IsComponent name) :
    IsComponent (compiledName name) := by
  have hlonger : ∀ text : String, text.length < 6 → compiledName name ≠ text := by
    rintro text hlength rfl
    rw [compiledName, String.length_append, show ".*.pyc".length = 6 from rfl] at hlength
    omega
  have hbase : Path.baseName name = name := by
    rw [Path.baseName, Path.segments_of_not_mem hname.2]
    rfl
  have hstem : Path.separator ∉ (Path.withoutExtension name).toList := by
    rw [Path.withoutExtension, hbase, String.toList_ofList, String.length_toList, Nat.sub_self,
      List.take_zero, List.nil_append]
    exact fun hmem => hname.2 (mem_of_mem_splitName hmem)
  refine ⟨⟨hlonger "" (by decide), hlonger "." (by decide), hlonger ".." (by decide)⟩, ?_⟩
  rw [compiledName, String.toList_append, List.mem_append, not_or, Glob.toList_escape,
    Glob.mem_escapedChars_iff (by decide) (by decide)]
  exact ⟨hstem, by decide⟩

theorem hasWildcard_compiledName (name : String) : Glob.hasWildcard (compiledName name) = true := by
  rw [Glob.hasWildcard_eq, compiledName, String.toList_append, List.any_append]
  simp only [Bool.or_eq_true]
  exact Or.inr (by decide)

theorem compiledName_ne_anyDirectories (name : String) :
    compiledName name ≠ Glob.anyDirectories := by
  intro hsame
  have hlast := congrArg (fun text => text.toList.getLast?) hsame
  simp [compiledName, Glob.anyDirectories] at hlast

theorem isComponent_cache : IsComponent "__pycache__" := by decide

/-- Whether a name is found by the pattern for the names of compiled files. -/
def IsCompiledName (last name : String) : Prop :=
  (Glob.isHidden (compiledName last) = true ∨ Glob.isHidden name = false) ∧
    matchesPattern (compiledName last) name = true

/-- The compiled files of a file are in a directory beside it. -/
theorem mem_expand_compiledPattern_iff {fs : FileSystem} {path compiled : Path} {folder : Address}
    {last : String} (hfolder : ∀ name ∈ folder, IsComponent name) (hlast : IsComponent last)
    (habsolute : fs.absolute path = pathOf (folder ++ [last])) :
    compiled ∈ Glob.expand fs (compiledPattern fs path) ↔
      ∃ name ∈ fs.names (pathOf (folder ++ ["__pycache__"])), IsCompiledName last name ∧
        compiled = Path.join (pathOf (folder ++ ["__pycache__"])) name := by
  have hpattern : compiledPattern fs path =
      Path.join (Path.join (Glob.escape (pathOf folder)) "__pycache__") (compiledName last) := by
    rw [compiledPattern, habsolute, Path.parent_pathOf hfolder hlast,
      Path.baseName_pathOf hfolder hlast, compiledName]
  simp only [hpattern, IsCompiledName, and_assoc]
  exact Glob.mem_expand_iff hfolder isComponent_cache (by decide)
    (isComponent_compiledName hlast) (hasWildcard_compiledName last)
    (compiledName_ne_anyDirectories last)

end Names

/-- Whether nothing changes outside of a directory. -/
structure Confined (root : Address) (before after : FileSystem) : Prop where
  directory : after.directory = before.directory
  outside : ∀ address, ¬ root <+: address → after.store.get? address = before.store.get? address
  distinct : before.store.Distinct → after.store.Distinct

namespace Confined

variable {root place : Address} {fs now : FileSystem}

theorem refl (root : Address) (fs : FileSystem) : Confined root fs fs := ⟨rfl, fun _ _ => rfl, id⟩

theorem put (hroot : root ≠ []) (place : Address) (entry : Entry) :
    Confined root fs { fs with store := fs.store.put (root ++ place) entry } where
  directory := rfl
  outside := by
    intro address houtside
    rw [Store.get?_put (by simp [hroot]), if_neg]
    rintro rfl
    exact houtside (List.prefix_append root place)
  distinct := fun hdistinct => hdistinct.put _ _

theorem erase (hroot : root ≠ []) (place : Address) :
    Confined root fs { fs with store := fs.store.erase (root ++ place) } where
  directory := rfl
  outside := by
    intro address houtside
    rw [Store.get?_erase (by simp [hroot]), if_neg]
    rintro rfl
    exact houtside (List.prefix_append root place)
  distinct := fun hdistinct => hdistinct.erase _

end Confined

/-- A path leads to a file of a copy, and its last name is in a directory of the copy. -/
structure CopiedFile (c : Contents) (dirs : List String) (last : String) (file folder : Address)
    (original : Bytes) : Prop where
  file_way : ∃ links, links.length ≤ Store.maxLinks ∧
    (copied c).Way [] (dirs ++ [last]) links file (.file original)
  folder_way : ∃ links, links.length ≤ Store.maxLinks ∧
    (copied c).Way [] dirs links folder .directory

/-- A copy in which a file may have a new content and a backup. -/
structure IsChangedCopy (c : Contents) (s : Store) (root file backup : Address) (content : Bytes)
    (saved : Option Bytes) : Prop where
  above : ∀ upper, upper ≠ [] → upper <+: root → s.get? upper = some .directory
  kept : ∀ place entry, place ≠ file → copied c place = some entry →
    s.get? (root ++ place) = some entry
  left_out : ∀ place, place ≠ backup → place.any isIgnored = true → s.get? (root ++ place) = none
  holds : s.get? (root ++ file) = some (.file content)
  saved : s.get? (root ++ backup) = saved.map .file

/-- Where the backup of a file is that is known by a name in a directory. -/
def backupIn (folder : Address) (last : String) : Address := folder ++ [last ++ ".backup"]

theorem backupIn_ne (dirs : List String) (last : String) : backupIn dirs last ≠ dirs ++ [last] := by
  intro hsame
  have hnames := List.append_cancel_left hsame
  rw [List.singleton_inj] at hnames
  have hlength := congrArg String.length hnames
  rw [String.length_append, show ".backup".length = 7 from rfl] at hlength
  omega

theorem any_isIgnored_backupIn (folder : Address) (last : String) :
    (backupIn folder last).any isIgnored = true := by
  simp [backupIn, isIgnored_backup]

section States

variable {c : Contents} {s : Store} {root file folder : Address} {dirs : List String}
variable {last : String} {original content : Bytes} {saved : Option Bytes}

theorem CopiedFile.stored (hfile : CopiedFile c dirs last file folder original) :
    copied c file = some (.file original) := by
  obtain ⟨links, -, hway⟩ := hfile.file_way
  exact hway.stored (by simp)

theorem CopiedFile.ne_backup (hfile : CopiedFile c dirs last file folder original) :
    file ≠ backupIn folder last := by
  rintro hsame
  have hstored := hfile.stored
  rw [copied, hsame, any_isIgnored_backupIn, if_pos rfl] at hstored
  cases hstored

/-- A copy is as it was made just when its file has the original content and no backup. -/
theorem isCopy_iff (hfile : CopiedFile c dirs last file folder original) :
    IsCopy c s root ↔ IsChangedCopy c s root file (backupIn folder last) original none := by
  constructor
  · exact fun hcopy =>
      { above := hcopy.above
        kept := fun place entry _ => hcopy.kept place entry
        left_out := fun place _ => hcopy.left_out place
        holds := hcopy.kept file _ hfile.stored
        saved := hcopy.left_out _ (any_isIgnored_backupIn folder last) }
  · intro hcopy
    refine ⟨hcopy.above, fun place entry hentry => ?_, fun place hignored => ?_⟩
    · by_cases hplace : place = file
      · subst hplace
        rw [hfile.stored] at hentry
        cases hentry
        exact hcopy.holds
      · exact hcopy.kept place entry hplace hentry
    · by_cases hplace : place = backupIn folder last
      · subst hplace
        exact hcopy.saved
      · exact hcopy.left_out place hplace hignored

theorem IsChangedCopy.change_file {s' : Store} {written : Bytes}
    (hcopy : IsChangedCopy c s root file (backupIn folder last) content saved)
    (hne : file ≠ backupIn folder last)
    (hput : ∀ address, s'.get? address =
      if address = root ++ file then some (.file written) else s.get? address) :
    IsChangedCopy c s' root file (backupIn folder last) written saved := by
  refine ⟨fun upper hupper hunder => ?_, fun place entry hplace hentry => ?_,
    fun place hplace hignored => ?_, ?_, ?_⟩
  · rw [hput, if_neg]
    · exact hcopy.above upper hupper hunder
    · rintro rfl
      have hstored := hcopy.above _ hupper hunder
      rw [hcopy.holds] at hstored
      cases hstored
  · rw [hput, if_neg (by simpa using hplace)]
    exact hcopy.kept place entry hplace hentry
  · rw [hput, if_neg]
    · exact hcopy.left_out place hplace hignored
    · intro hsame
      rw [List.append_cancel_left hsame] at hplace hignored
      have hstored := hcopy.left_out file hne hignored
      rw [hcopy.holds] at hstored
      cases hstored
  · rw [hput, if_pos rfl]
  · rw [hput, if_neg (by simpa using Ne.symm hne)]
    exact hcopy.saved

theorem IsChangedCopy.change_backup {s' : Store} {saved' : Option Bytes}
    (hcopy : IsChangedCopy c s root file (backupIn folder last) content saved)
    (hne : file ≠ backupIn folder last)
    (hchange : ∀ address, s'.get? address =
      if address = root ++ backupIn folder last then saved'.map .file else s.get? address) :
    IsChangedCopy c s' root file (backupIn folder last) content saved' := by
  refine ⟨fun upper hupper hunder => ?_, fun place entry hplace hentry => ?_,
    fun place hplace hignored => ?_, ?_, ?_⟩
  · rw [hchange, if_neg]
    · exact hcopy.above upper hupper hunder
    · rintro rfl
      have hlength := hunder.length_le
      simp only [backupIn, List.length_append, List.length_singleton] at hlength
      omega
  · rw [hchange, if_neg]
    · exact hcopy.kept place entry hplace hentry
    · intro hsame
      rw [List.append_cancel_left hsame, copied, any_isIgnored_backupIn, if_pos rfl] at hentry
      cases hentry
  · rw [hchange, if_neg (by simpa using hplace)]
    exact hcopy.left_out place hplace hignored
  · rw [hchange, if_neg (by simpa using hne)]
    exact hcopy.holds
  · rw [hchange, if_pos rfl]

end States

/-- The path of a file in a copy. -/
def copyPath (root : Address) (dirs : List String) (last : String) : Path :=
  pathOf (root ++ (dirs ++ [last]))

theorem backupPath_copyPath (root : Address) (dirs : List String) (last : String) :
    backupPath (copyPath root dirs last) = pathOf (root ++ (dirs ++ [last ++ ".backup"])) := by
  rw [backupPath, copyPath, ← List.append_assoc, Path.pathOf_concat_append, List.append_assoc]

section Paths

variable {c : Contents} {fs : FileSystem} {root file folder : Address} {dirs : List String}
variable {last : String} {original content : Bytes} {saved : Option Bytes}

/-- A directory or link of the copy is where it was. -/
theorem stored_of_copied (hfile : CopiedFile c dirs last file folder original)
    (hcopy : IsChangedCopy c fs.store root file (backupIn folder last) content saved)
    {place : Address} {entry : Entry}
    (hentry : ∀ content, entry ≠ .file content) (hcopied : copied c place = some entry) :
    fs.store.get? (root ++ place) = some entry := by
  refine hcopy.kept place entry ?_ hcopied
  rintro rfl
  rw [hfile.stored, Option.some.injEq] at hcopied
  exact hentry original hcopied.symm

variable (hroot : ∀ name ∈ root, IsComponent name) (hdirs : ∀ name ∈ dirs, IsComponent name)
variable (hlast : IsComponent last)

include hroot hdirs hlast

variable (hfile : CopiedFile c dirs last file folder original)
variable (hcopy : IsChangedCopy c fs.store root file (backupIn folder last) content saved)

include hfile hcopy

theorem locate_copyPath :
    fs.store.locate true fs.directory (copyPath root dirs last) =
      .ok (root ++ file, some (.file content)) := by
  obtain ⟨links, hlength, hway⟩ := hfile.file_way
  have hnow : (fs.store.inside root).Way [] (dirs ++ [last]) links file (.file content) :=
    hway.rewritten (fun other found hfound => stored_of_copied hfile hcopy hfound)
      (Or.inr ⟨by simp, content, rfl, hcopy.holds⟩)
  have htrail : fs.store.Trail true (root ++ []) (dirs ++ [last]) (links.map (root ++ ·))
      (root ++ file) (some (.file content)) := hnow.trail fun _ _ hstored => hstored
  rw [List.append_nil] at htrail
  exact Store.locate_pathOf _ hroot (Path.isComponent_concat_iff.mpr ⟨hdirs, hlast⟩) (by simp)
    hcopy.above htrail (by simpa using hlength)

omit hlast in
/-- A name in the directory of the file leads to what is stored there. -/
theorem locate_in_folder {name : String} {entry : Option Entry} {followsLast : Bool}
    (hname : IsComponent name) (hstored : fs.store.get? (root ++ (folder ++ [name])) = entry)
    (hend : Store.CanEnd followsLast entry) :
    fs.store.locate followsLast fs.directory (pathOf (root ++ (dirs ++ [name]))) =
      .ok (root ++ (folder ++ [name]), entry) := by
  obtain ⟨links, hlength, hway⟩ := hfile.folder_way
  have hnow : (fs.store.inside root).Way [] dirs links folder .directory :=
    hway.rewritten (fun other found hfound => stored_of_copied hfile hcopy hfound)
      (Or.inl ⟨rfl, rfl⟩)
  have htrail : fs.store.Trail true (root ++ []) dirs (links.map (root ++ ·)) (root ++ folder)
      (some .directory) := hnow.trail fun _ _ hstored => hstored
  rw [List.append_nil] at htrail
  rw [← List.append_assoc] at hstored
  have hmore := htrail.append rfl (by simp) (.stop hname.1 hstored hend)
  rw [List.append_assoc] at hmore
  exact Store.locate_pathOf _ hroot (Path.isComponent_concat_iff.mpr ⟨hdirs, hname⟩) (by simp)
    hcopy.above hmore (by simpa using hlength)

theorem locate_backup (followsLast : Bool) :
    fs.store.locate followsLast fs.directory (backupPath (copyPath root dirs last)) =
      .ok (root ++ backupIn folder last, saved.map .file) := by
  rw [backupPath_copyPath]
  refine locate_in_folder hroot hdirs hfile hcopy (isComponent_backup hlast) hcopy.saved ?_
  cases saved <;> exact ⟨by simp, by simp⟩

/-- There are no compiled files in a copy. -/
theorem expand_compiledPattern :
    Glob.expand fs (compiledPattern fs (copyPath root dirs last)) = [] := by
  have hstored : fs.store.get? (root ++ (folder ++ ["__pycache__"])) = none := by
    apply hcopy.left_out
    · intro hsame
      exact ne_backup_cache last (by simpa [backupIn] using hsame)
    · simp [isIgnored_cache]
  have hnames : fs.names (pathOf (root ++ dirs ++ ["__pycache__"])) = [] := by
    rw [List.append_assoc, FileSystem.names,
      locate_in_folder hroot hdirs hfile hcopy isComponent_cache hstored ⟨by simp, by simp⟩]
  have habove := List.forall_mem_append.mpr ⟨hroot, hdirs⟩
  have habsolute : fs.absolute (copyPath root dirs last) = pathOf (root ++ dirs ++ [last]) := by
    rw [copyPath, ← List.append_assoc, FileSystem.absolute,
      Path.absolute_pathOf _ (Path.isComponent_concat_iff.mpr ⟨habove, hlast⟩)]
  rw [List.eq_nil_iff_forall_not_mem]
  intro compiled hcompiled
  obtain ⟨name, hname, -, -⟩ :=
    (mem_expand_compiledPattern_iff habove hlast habsolute).mp hcompiled
  rw [hnames] at hname
  cases hname

theorem invalidateCompiled_copyPath :
    invalidateCompiled fs (copyPath root dirs last) = ⟨fs, [], none⟩ := by
  rw [invalidateCompiled, expand_compiledPattern hroot hdirs hlast hfile hcopy, removeAll]

end Paths

end MutationTesting.Run
