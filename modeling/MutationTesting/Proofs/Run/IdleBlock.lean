import MutationTesting.Proofs.Files.Characters
import MutationTesting.Proofs.Run.PatchedBlock

/-!
# What a block leaves of other files

A block that changes no file itself leaves all files as they were, apart from the compiled ones, if
nothing stands where the backup is written.  What stands there, be it a file or a link, is written
over and then removed.
-/

namespace MutationTesting.Run

open MutationTesting.Files
open MutationTesting.Files.FileSystem (KeepsFile KeepsWays)

/-- Whether no path of a compiled file of a source file names an address. -/
def Uncompiled (fs : FileSystem) (target : Path) (address : Address) : Prop :=
  ∀ compiled, IsCompiled fs.directory target compiled → ¬ fs.Names compiled address

section Names

variable {fs : FileSystem} {directory target compiled : Path} {address : Address}

theorem getLast?_of_isCompiled (hcompiled : IsCompiled directory target compiled) :
    compiled.toList.getLast? = some 'c' := by
  obtain ⟨fs, -, hmem⟩ := hcompiled
  refine Glob.getLast?_of_mem_expand ?_ (by decide) (by decide) (by decide) hmem
  exact Path.getLast?_join _ (by simp)

theorem uncompiled_of_names_backup (hnames : fs.Names (backupPath target) address) :
    Uncompiled fs target address := by
  intro compiled hcompiled hsame
  obtain ⟨folder, name, rfl, hname⟩ :=
    hnames.exists_concat (c := 'p') (by simp [backupPath]) (by decide) (by decide)
  obtain ⟨other, name', heq, hname'⟩ :=
    hsame.exists_concat (getLast?_of_isCompiled hcompiled) (by decide) (by decide)
  obtain rfl : name = name' := by simpa using (List.append_inj' heq rfl).2
  rw [hname] at hname'
  cases hname'

end Names

/-- Clearing away the compiled files leaves what is not one of them. -/
theorem get?_invalidateCompiled {paths : Path → Prop} {start now : FileSystem} {target : Path}
    {address : Address} (hkept : KeepsWays paths start now)
    (hother : Uncompiled start target address) :
    (invalidateCompiled now target).files.store.get? address = now.store.get? address := by
  have hways : KeepsWays (fun _ => False) start now :=
    ⟨hkept.directory, hkept.later, fun _ _ hnone => hnone.elim⟩
  rw [invalidateCompiled]
  suffices hcleared : KeepsWays (fun _ => False) start
      (removeAll now (Glob.expand now (compiledPattern now target))).files ∧
    (removeAll now (Glob.expand now (compiledPattern now target))).files.store.get? address =
      now.store.get? address from hcleared.2
  refine removeAll_induction (fun fs => KeepsWays (fun _ => False) start fs ∧
    fs.store.get? address = now.store.get? address) ⟨hways, rfl⟩ ?_
  rintro compiled hcompiled fs next ⟨hfs, hsame⟩ hremove
  refine ⟨hfs.remove hremove fun _ _ _ hnone => hnone.elim, ?_⟩
  rw [hfs.get?_of_remove hremove, hsame]
  rintro place hnames rfl
  exact hother compiled ⟨now, hkept.directory, hcompiled⟩ hnames

namespace Patch

variable {fs patched : FileSystem} {m : Mutation} {source : SourceFile} {target : Path}
variable {strict : Bool} {p : Patch}

/-- Once the file has its bytes again, nothing differs but what stands where the backup leads. -/
theorem exists_restored (henter : enter fs m source target strict = .ok (patched, p)) :
    ∃ backup entry restored, fs.store.locate true fs.directory (backupPath target) =
        .ok (backup, entry) ∧ entry ≠ some .directory ∧
      p.target = target ∧ patched.write target p.original = .ok restored ∧
      KeepsWays (IsOwn target) fs restored ∧
      ∀ address, restored.store.get? address =
        if address = backup then some (.file p.original) else fs.store.get? address := by
  obtain ⟨mutant, original, saved, -, hread, hsaved, hpatched, rfl⟩ := enter_eq_ok_iff.mp henter
  obtain ⟨file, hopened⟩ := FileSystem.read_eq_ok_iff.mp hread
  obtain ⟨backup, entry, hbackup, hentry, -⟩ := FileSystem.exists_locate_of_write hsaved
  obtain ⟨_, _, _, htrail⟩ := Store.locate_eq_ok_iff.mp hopened
  have hfile := htrail.get?_eq (by simp)
  have hsavedKept : KeepsFile (IsOwn target) fs file saved original :=
    KeepsFile.write_same ⟨KeepsWays.refl _ fs, hfile⟩ hsaved
  obtain ⟨_, hwrite, hpatchedKept⟩ := hsavedKept.exists_write (.inl rfl) hopened (encoded mutant)
  cases hwrite.symm.trans hpatched
  obtain ⟨restored, hrestored, hkept⟩ := hpatchedKept.exists_write (.inl rfl) hopened original
  refine ⟨backup, entry, restored, hbackup, hentry, rfl, hrestored, hkept.ways, fun address => ?_⟩
  obtain ⟨_, _, hplace, hlast⟩ := FileSystem.exists_get?_of_write hrestored
  cases (hpatchedKept.locate (.inl rfl) hopened).symm.trans hplace
  obtain ⟨_, _, hplace, hmiddle⟩ := FileSystem.exists_get?_of_write hpatched
  cases (hsavedKept.locate (.inl rfl) hopened).symm.trans hplace
  obtain ⟨_, _, hplace, hfirst⟩ := FileSystem.exists_get?_of_write hsaved
  cases hbackup.symm.trans hplace
  rw [hlast, hmiddle, hfirst]
  by_cases haddress : address = file
  · rw [if_pos haddress, haddress, hfile, ite_self]
  · rw [if_neg haddress, if_neg haddress]

/-- What the path of the backup names is gone when the patch is left, and so is the backup if that is
somewhere else. -/
theorem exists_leave_idle (henter : enter fs m source target strict = .ok (patched, p)) :
    ∃ backup named found cleared,
      fs.store.locate false fs.directory (backupPath target) = .ok (named, found) ∧
      found ≠ some .directory ∧ (found = none → named = backup) ∧
      (p.leave patched).files = (invalidateCompiled cleared target).files ∧
      KeepsWays (fun _ => False) fs cleared ∧
      ∀ address, cleared.store.get? address =
        if address = named then none
        else if address = backup then some (.file p.original) else fs.store.get? address := by
  obtain ⟨backup, entry, restored, hbackup, hentry, htarget, hwrite, hways, hstored⟩ :=
    exists_restored henter
  obtain ⟨hnonempty, links, hlength, htrail⟩ := Store.locate_eq_ok_iff.mp hbackup
  obtain ⟨others, named, found, hnamed, hothers, -⟩ := htrail.exists_named
  have hlocate : fs.store.locate false fs.directory (backupPath target) = .ok (named, found) :=
    Store.locate_eq_ok_iff.mpr ⟨hnonempty, others, Nat.le_trans hothers hlength, hnamed⟩
  -- Only a link at the end of the path leads somewhere else than the path names.
  have hsame : (∀ link, found ≠ some (.link link)) → named = backup ∧ found = entry := by
    intro hlink
    have hfollowed := Store.locate_eq_ok_iff.mpr
      ⟨hnonempty, others, Nat.le_trans hothers hlength, hnamed.to_followed hlink⟩
    rw [hbackup, Except.ok.injEq, Prod.mk.injEq] at hfollowed
    exact ⟨hfollowed.1.symm, hfollowed.2.symm⟩
  have hfound : found ≠ some .directory := by
    intro hdirectory
    exact hentry ((hsame (by simp [hdirectory])).2 ▸ hdirectory)
  obtain ⟨held, hheld, hplain⟩ : ∃ held, restored.store.get? named = some held ∧
      held ≠ .directory := by
    rw [hstored]
    split
    · exact ⟨_, rfl, by simp⟩
    · next hother =>
      rw [hnamed.get?_eq hfound]
      cases found with
      | none => exact absurd (hsame (by simp)).1 hother
      | some held => exact ⟨held, rfl, by simpa using hfound⟩
  have hremove := FileSystem.remove_of_locate
    (hways.names (.inr rfl) hbackup hentry ⟨found, hlocate⟩ hheld hplain) hplain
  refine ⟨backup, named, found, { restored with store := restored.store.erase named }, hlocate,
    hfound, fun hnone => (hsame (by simp [hnone])).1, ?_, ?_, fun address => ?_⟩
  · rw [leave, htarget, hwrite]
    dsimp only
    rw [discard, hremove]
  · have herodes := (FileSystem.Erodes.refl restored).remove hremove
    exact ⟨herodes.directory.trans hways.directory, hways.later.trans herodes.later,
      fun _ _ hnone => hnone.elim⟩
  · rw [← hstored]
    refine Store.get?_erase (Store.ne_nil_of_get?_ne (s := restored.store) ?_) address
    rw [hheld]
    simpa using hplain

/-- A block that changes no file itself leaves all files but the compiled ones as they were just when
there is nothing at the path of the backup.  If it is not entered, nothing changes at all. -/
theorem idle_block_keeps_other_files_iff {Failure : Type} (fs : FileSystem) (m : Mutation)
    (source : SourceFile) (target : Path) (strict : Bool) (failure : Option Failure) :
    ((during fs m source target strict fun now => (now, failure)).inside = none →
        (during fs m source target strict fun now => (now, failure)).files = fs) ∧
      ∀ inside, (during fs m source target strict fun now => (now, failure)).inside = some inside →
        ((∀ address, Uncompiled fs target address →
            (during fs m source target strict fun now => (now, failure)).files.store.get? address =
              fs.store.get? address) ↔
          fs.holds (backupPath target) = false) := by
  rw [during_eq]
  cases henter : enter fs m source target strict with
  | error cause => exact ⟨fun _ => rfl, fun _ hinside => by cases hinside⟩
  | ok entered =>
      obtain ⟨patched, p⟩ := entered
      refine ⟨fun hinside => absurd hinside (by simp [close]), fun inside hinside => ?_⟩
      obtain ⟨backup, named, found, cleared, hlocate, hfound, hmissing, hleave, hways,
        hstored⟩ := exists_leave_idle henter
      have hfinal : ∀ address, Uncompiled fs target address →
          (invalidateCompiled cleared target).files.store.get? address =
            if address = named then none
            else if address = backup then some (.file p.original) else fs.store.get? address :=
        fun address haddress => (get?_invalidateCompiled hways haddress).trans (hstored address)
      obtain ⟨-, links, -, htrail⟩ := Store.locate_eq_ok_iff.mp hlocate
      have hnamed := htrail.get?_eq hfound
      simp only [close, hleave, FileSystem.holds, hlocate, Option.isSome_eq_false_iff,
        Option.isNone_iff_eq_none]
      constructor
      · intro hkept
        have hthere := uncompiled_of_names_backup ⟨found, hlocate⟩
        rw [← hnamed, ← hkept named hthere, hfinal named hthere, if_pos rfl]
      · intro hnone address haddress
        rw [hfinal address haddress]
        cases hmissing hnone
        split
        · next hsame => rw [hsame, hnamed, hnone]
        · rfl

end Patch

/-- A file with compiled files of it, and another file beside it. -/
def fileWithNeighbour : FileSystem :=
  ⟨⟨[(["a.py"], .file (encoded "a + b")), (["b.py"], .file (encoded "a")),
    (["__pycache__"], .directory), (["__pycache__", "a.x.pyc"], .file [])]⟩, "/"⟩

theorem uncompiled_neighbour {target : Path} : Uncompiled fileWithNeighbour target ["b.py"] := by
  intro compiled hcompiled hnames
  obtain ⟨folder, name, hplace, hname⟩ :=
    hnames.exists_concat (getLast?_of_isCompiled hcompiled) (by decide) (by decide)
  have hlast : some "b.py" = some name := by simpa using congrArg List.getLast? hplace
  cases hlast
  simp at hname

/-- The compiled file is gone after a block that does nothing, and the other file is as it was. -/
theorem neighbour_kept_by_idle_block :
    let task := differenceIn "a.py"
    let run := Patch.during fileWithNeighbour task.mutation task.assignment.source task.path true
      fun now => (now, (none : Option String))
    run.inside.isSome = true ∧ run.files.store.get? ["__pycache__", "a.x.pyc"] = none ∧
      run.files.store.get? ["b.py"] = fileWithNeighbour.store.get? ["b.py"] := by
  intro task run
  have hinside : run.inside.isSome = true := by decide +kernel
  have hcleared : run.files.store.get? ["__pycache__", "a.x.pyc"] = none := by decide +kernel
  have hfree : fileWithNeighbour.holds (backupPath task.path) = false := by decide +kernel
  obtain ⟨inside, hsome⟩ := Option.isSome_iff_exists.mp hinside
  have hkept := ((Patch.idle_block_keeps_other_files_iff fileWithNeighbour task.mutation
    task.assignment.source task.path true (none : Option String)).2 inside hsome).mpr hfree
  subst run
  exact ⟨hinside, hcleared, hkept ["b.py"] uncompiled_neighbour⟩

/-- A file with another one where its backup is written. -/
def fileAtBackupPath : FileSystem :=
  ⟨⟨[(["a.py"], .file (encoded "a + b")), (["a.py.backup"], .file (encoded "a"))]⟩, "/"⟩

/-- The file at the path of the backup is gone after a block that does nothing. -/
theorem file_at_backup_path_lost :
    ¬ ∀ (fs : FileSystem) (m : Mutation) (source : SourceFile) (target : Path) (strict : Bool)
      (failure : Option String) (inside : FileSystem),
      (Patch.during fs m source target strict fun now => (now, failure)).inside = some inside →
        ∀ address, Uncompiled fs target address →
          (Patch.during fs m source target strict fun now => (now, failure)).files.store.get?
            address = fs.store.get? address := by
  intro hevery
  let task := differenceIn "a.py"
  have hinside : (Patch.during fileAtBackupPath task.mutation task.assignment.source task.path true
      fun now => (now, (none : Option String))).inside.isSome = true := by decide +kernel
  have hlost : (Patch.during fileAtBackupPath task.mutation task.assignment.source task.path true
      fun now => (now, (none : Option String))).files.store.get? ["a.py.backup"] = none := by
    decide +kernel
  have hthere : fileAtBackupPath.store.locate false fileAtBackupPath.directory
      (backupPath task.path) = .ok (["a.py.backup"], some (.file (encoded "a"))) := by
    decide +kernel
  obtain ⟨inside, hinside⟩ := Option.isSome_iff_exists.mp hinside
  have hkept := hevery fileAtBackupPath task.mutation task.assignment.source task.path true none
    inside hinside ["a.py.backup"] (uncompiled_of_names_backup ⟨_, hthere⟩)
  rw [hlost] at hkept
  cases hkept

end MutationTesting.Run
