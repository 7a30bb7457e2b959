import MutationTesting.Proofs.Run.CopiedFile

/-!
# A worker in a sandbox

A worker in a sandbox takes the same steps as one that shares the file, at the path of the copy.
They change nothing outside of the copy, the copy holds the mutant while the tests run, and it is as
it was made when the worker is done.
-/

namespace MutationTesting.Run

open MutationTesting.Files
open MutationTesting.Files.Path (IsComponent)
open MutationTesting.Testing

/-- What a copy holds in each phase of its worker. -/
def Phase.Shelters (t : SharedTask) (c : Contents) (s : Store) (root : Address)
    (dirs : List String) (last : String) : Phase → Prop
  | .entered | .ended _ => IsCopy c s root
  | .loaded mutant kept => ∃ file folder, CopiedFile c dirs last file folder kept ∧
      IsChangedCopy c s root file (backupIn folder last) kept none ∧ t.Renders mutant
  | .saved mutant kept => ∃ file folder, CopiedFile c dirs last file folder kept ∧
      IsChangedCopy c s root file (backupIn folder last) kept (some kept) ∧ t.Renders mutant
  | .patched kept | .testing kept => ∃ file folder mutant, CopiedFile c dirs last file folder kept ∧
      IsChangedCopy c s root file (backupIn folder last) mutant (some kept) ∧ t.Renders mutant
  | .tested kept _ => ∃ file folder content, CopiedFile c dirs last file folder kept ∧
      IsChangedCopy c s root file (backupIn folder last) content (some kept)
  | .restored _ => ∃ file folder kept, CopiedFile c dirs last file folder kept ∧
      IsChangedCopy c s root file (backupIn folder last) kept (some kept)
  | .cleaned _ => ∃ file folder kept, CopiedFile c dirs last file folder kept ∧ IsCopy c s root

section Operations

variable {c : Contents} {fs : FileSystem} {root file folder : Address} {dirs : List String}
variable {last : String} {original content : Bytes} {saved : Option Bytes}
variable (hroot : ∀ name ∈ root, IsComponent name) (hnonempty : root ≠ [])
variable (hdirs : ∀ name ∈ dirs, IsComponent name) (hlast : IsComponent last)
variable (hfile : CopiedFile c dirs last file folder original)
variable (hcopy : IsChangedCopy c fs.store root file (backupIn folder last) content saved)

include hroot hnonempty hdirs hlast hfile hcopy

theorem write_copyPath (written : Bytes) :
    ∃ next, fs.write (copyPath root dirs last) written = .ok next ∧ Confined root fs next ∧
      IsChangedCopy c next.store root file (backupIn folder last) written saved :=
  ⟨_, FileSystem.write_of_locate (locate_copyPath hroot hdirs hlast hfile hcopy) (by simp),
    Confined.put hnonempty file (.file written),
    hcopy.change_file hfile.ne_backup (Store.get?_put (by simp [hnonempty]) _)⟩

theorem write_backup (written : Bytes) :
    ∃ next, fs.write (backupPath (copyPath root dirs last)) written = .ok next ∧
      Confined root fs next ∧
      IsChangedCopy c next.store root file (backupIn folder last) content (some written) :=
  ⟨_, FileSystem.write_of_locate (locate_backup hroot hdirs hlast hfile hcopy true)
      (by cases saved <;> simp),
    Confined.put hnonempty (backupIn folder last) (.file written),
    hcopy.change_backup hfile.ne_backup (Store.get?_put (by simp [hnonempty]) _)⟩

end Operations

namespace SharedTask

variable {t : SharedTask} {c : Contents} {fs : FileSystem} {root : Address} {dirs : List String}
variable {last : String}

/-- A step changes nothing outside of the copy, which then holds what the phase asks for. -/
def Sheltered (t : SharedTask) (c : Contents) (root : Address) (dirs : List String) (last : String)
    (before : FileSystem) (state : FileSystem × Phase) : Prop :=
  Confined root before state.1 ∧ state.2.Shelters t c state.1.store root dirs last

section Steps

variable (hroot : ∀ name ∈ root, IsComponent name) (hnonempty : root ≠ [])
variable (hdirs : ∀ name ∈ dirs, IsComponent name) (hlast : IsComponent last)
variable (hpath : t.path = copyPath root dirs last)

include hroot hdirs hlast hpath

/-- A file that can be read in a copy is there by the way that it has in the project. -/
theorem exists_copiedFile {links : List Address} {file : Address} {original content : Bytes}
    (hcopy : IsCopy c fs.store root)
    (hway : c.Way [] (dirs ++ [last]) links file (.file original))
    (hread : fs.read t.path = .ok content) :
    ∃ folder, CopiedFile c dirs last file folder content := by
  have hnames := Path.isComponent_concat_iff.mpr ⟨hdirs, hlast⟩
  obtain ⟨address, hlocate⟩ := FileSystem.read_eq_ok_iff.mp hread
  obtain ⟨-, others, hlength, htrail⟩ := Store.locate_eq_ok_iff.mp hlocate
  rw [hpath, copyPath, Path.join_absolute (Path.isAbsolute_pathOf _),
    Path.segments_pathOf (by simp) (List.forall_mem_append.mpr ⟨hroot, hnames⟩)] at htrail
  have hbelow := (htrail.of_stay (Or.inl rfl)).of_directories
    (fun name hname => (hroot name hname).1) (by simpa using hcopy.above)
  rw [List.nil_append] at hbelow
  have hcopied : (copied c).Way [] (dirs ++ [last]) links file (.file original) := by
    rw [← List.append_nil root] at hbelow
    refine hway.copied hbelow fun other entry hentry => ?_
    cases hignored : other.any isIgnored with
    | true => exact Or.inr (hcopy.left_out other hignored)
    | false =>
        have hkept : copied c other = some entry := by rw [copied, hignored, ← hentry]; rfl
        exact Or.inl ⟨hkept, hcopy.kept other entry hkept⟩
  have hsame := hcopied.trail hcopy.kept
  rw [List.append_nil] at hsame
  have hlinks : links.length ≤ Store.maxLinks := by
    have hequal := congrArg List.length (hbelow.links_unique hsame)
    rw [List.length_map] at hequal
    omega
  have hthere := Store.locate_pathOf fs.directory hroot hnames (by simp) hcopy.above hsame
    (by simpa using hlinks)
  rw [← copyPath, ← hpath, hlocate] at hthere
  cases hthere
  obtain ⟨more, folder, hfolder, hfewer⟩ := hcopied.exists_parent rfl
  exact ⟨folder, ⟨links, hlinks, hcopied⟩, ⟨more, Nat.le_trans hfewer hlinks, hfolder⟩⟩

theorem sheltered_load {links : List Address} {file : Address} {original : Bytes}
    (hcopy : IsCopy c fs.store root)
    (hway : c.Way [] (dirs ++ [last]) links file (.file original)) :
    Sheltered t c root dirs last fs (t.load fs) := by
  rw [load]
  cases hmutant : t.mutant with
  | error e => exact ⟨Confined.refl root fs, hcopy⟩
  | ok mutant =>
      dsimp only
      cases hread : fs.read t.path with
      | error e => exact ⟨Confined.refl root fs, hcopy⟩
      | ok content =>
          obtain ⟨folder, hfile⟩ := exists_copiedFile hroot hdirs hlast hpath hcopy hway hread
          exact ⟨Confined.refl root fs, file, folder, hfile, (isCopy_iff hfile).mp hcopy, mutant,
            hmutant, rfl⟩

section Changes

variable {file folder : Address} {original content : Bytes}
variable (hfile : CopiedFile c dirs last file folder original)

include hfile

theorem sheltered_prepare
    (hcopy : IsChangedCopy c fs.store root file (backupIn folder last) content (some original))
    (hmutant : t.Renders content) : Sheltered t c root dirs last fs (t.prepare fs original) := by
  rw [prepare, hpath, invalidateCompiled_copyPath hroot hdirs hlast hfile hcopy]
  exact ⟨Confined.refl root fs, file, folder, content, hfile, hcopy, hmutant⟩

theorem sheltered_tidy (hcopy : IsCopy c fs.store root) (result : MutationResult) :
    Sheltered t c root dirs last fs (t.tidy fs result) := by
  rw [tidy, hpath,
    invalidateCompiled_copyPath hroot hdirs hlast hfile ((isCopy_iff hfile).mp hcopy)]
  exact ⟨Confined.refl root fs, hcopy⟩

include hnonempty

theorem sheltered_save {mutant : Bytes}
    (hcopy : IsChangedCopy c fs.store root file (backupIn folder last) original none)
    (hmutant : t.Renders mutant) : Sheltered t c root dirs last fs (t.save fs mutant original) := by
  obtain ⟨next, hwrite, hconfined, hnext⟩ :=
    write_backup hroot hnonempty hdirs hlast hfile hcopy original
  rw [save, hpath, hwrite]
  exact ⟨hconfined, file, folder, hfile, hnext, hmutant⟩

theorem sheltered_patch {mutant : Bytes}
    (hcopy : IsChangedCopy c fs.store root file (backupIn folder last) original (some original))
    (hmutant : t.Renders mutant) :
    Sheltered t c root dirs last fs (t.patch fs mutant original) := by
  obtain ⟨next, hwrite, hconfined, hnext⟩ :=
    write_copyPath hroot hnonempty hdirs hlast hfile hcopy mutant
  rw [patch, hpath, hwrite]
  exact ⟨hconfined, file, folder, mutant, hfile, hnext, hmutant⟩

theorem sheltered_restore
    (hcopy : IsChangedCopy c fs.store root file (backupIn folder last) content (some original))
    (result : MutationResult) : Sheltered t c root dirs last fs (t.restore fs original result) := by
  obtain ⟨next, hwrite, hconfined, hnext⟩ :=
    write_copyPath hroot hnonempty hdirs hlast hfile hcopy original
  rw [restore, hpath, hwrite]
  exact ⟨hconfined, file, folder, original, hfile, hnext⟩

theorem sheltered_dropBackup
    (hcopy : IsChangedCopy c fs.store root file (backupIn folder last) original (some original))
    (result : MutationResult) : Sheltered t c root dirs last fs (t.dropBackup fs result) := by
  have hremove := FileSystem.remove_of_locate
    (locate_backup hroot hdirs hlast hfile hcopy false) (by simp)
  have hnext : IsChangedCopy c (fs.store.erase (root ++ backupIn folder last)) root file
      (backupIn folder last) original none :=
    hcopy.change_backup hfile.ne_backup (Store.get?_erase (by simp [hnonempty]))
  rw [dropBackup, hpath, Patch.discard, hremove]
  exact ⟨Confined.erase hnonempty (backupIn folder last), file, folder, original, hfile,
    (isCopy_iff hfile).mpr hnext⟩

end Changes

include hnonempty

/-- Each step of a worker in a sandbox stays inside, however its tests end. -/
theorem sheltered_advance {links : List Address} {file : Address} {original : Bytes}
    (hway : c.Way [] (dirs ++ [last]) links file (.file original))
    (outcome : Except RunFailure Nat) {phase : Phase}
    (hphase : phase.Shelters t c fs.store root dirs last) :
    Sheltered t c root dirs last fs (t.advance outcome fs phase) := by
  cases phase with
  | entered =>
      rw [advance]
      exact sheltered_load hroot hdirs hlast hpath hphase hway
  | loaded mutant kept =>
      obtain ⟨file, folder, hfile, hcopy, hmutant⟩ := hphase
      rw [advance]
      exact sheltered_save hroot hnonempty hdirs hlast hpath hfile hcopy hmutant
  | saved mutant kept =>
      obtain ⟨file, folder, hfile, hcopy, hmutant⟩ := hphase
      rw [advance]
      exact sheltered_patch hroot hnonempty hdirs hlast hpath hfile hcopy hmutant
  | patched kept =>
      obtain ⟨file, folder, mutant, hfile, hcopy, hmutant⟩ := hphase
      rw [advance]
      exact sheltered_prepare hroot hdirs hlast hpath hfile hcopy hmutant
  | testing kept =>
      obtain ⟨file, folder, mutant, hfile, hcopy, -⟩ := hphase
      rw [advance]
      exact ⟨Confined.refl root fs, file, folder, mutant, hfile, hcopy⟩
  | tested kept result =>
      obtain ⟨file, folder, content, hfile, hcopy⟩ := hphase
      rw [advance]
      exact sheltered_restore hroot hnonempty hdirs hlast hpath hfile hcopy result
  | restored result =>
      obtain ⟨file, folder, kept, hfile, hcopy⟩ := hphase
      rw [advance]
      exact sheltered_dropBackup hroot hnonempty hdirs hlast hpath hfile hcopy result
  | cleaned result =>
      obtain ⟨file, folder, kept, hfile, hcopy⟩ := hphase
      rw [advance]
      exact sheltered_tidy hroot hdirs hlast hpath hfile hcopy result
  | ended result =>
      rw [advance]
      exact ⟨Confined.refl root fs, hphase⟩

end Steps

end SharedTask

end MutationTesting.Run
