import MutationTesting.Proofs.Run.SharedFile

/-!
# A worker whose backup is not its own

The backup of a file is removed whatever was there before.  If it is the file itself, or a link that
leads to the file, then a worker that nobody disturbs takes it away for good.
-/

namespace MutationTesting.Run

open MutationTesting.Files
open MutationTesting.Files.FileSystem (KeepsFile KeepsWays Spares Erodes)
open MutationTesting.Testing

namespace SharedTask

variable {t : SharedTask} {paths : Path → Prop} {start : FileSystem} {file : Address}
variable {original mutant : Bytes}

/-- A worker with a mutant and room for a backup gets to the point where it removes the backup. -/
theorem exists_iterate_work_restored {saved : FileSystem} (hpath : paths t.path)
    (hlocate : start.store.locate true start.directory t.path = .ok (file, some (.file original)))
    (hcompiled : ∀ compiled, IsCompiled start.directory t.path compiled →
      start.Spares paths file compiled)
    (hmutant : t.Renders mutant)
    (hsaved : start.write (backupPath t.path) original = .ok saved) :
    ∃ count now result, t.work^[count] (start, .entered) = (now, .restored result) ∧
      KeepsFile paths start file now original := by
  obtain ⟨_, _, _, htrail⟩ := Store.locate_eq_ok_iff.mp hlocate
  have hstart : KeepsFile paths start file start original :=
    ⟨KeepsWays.refl paths start, htrail.get?_eq (by simp)⟩
  obtain ⟨patched, hpatch, hpatched⟩ :=
    (hstart.write_same hsaved).exists_write hpath hlocate mutant
  have hcleared := keepsFile_invalidateCompiled hpatched hcompiled
  obtain ⟨now, hrestore, hnow⟩ := hcleared.exists_write hpath hlocate original
  have hfirst : t.work^[4] (start, .entered) = t.prepare patched original := by
    obtain ⟨text, htext, rfl⟩ := hmutant
    rw [Function.iterate_succ_apply, work, advance, load, htext, hstart.read hpath hlocate]
    dsimp only
    rw [Function.iterate_succ_apply, work, advance, save, hsaved]
    dsimp only
    rw [Function.iterate_succ_apply, work, advance, patch, hpatch]
    dsimp only
    rw [Function.iterate_one, work, advance]
  have hlast : ∀ result,
      t.work ((invalidateCompiled patched t.path).files, .tested original result) =
        (now, .restored result) := by
    intro result
    rw [work, advance, restore, hrestore]
  cases hfailure : (invalidateCompiled patched t.path).failure with
  | some e =>
      refine ⟨5, now, failed t.mutation (.file e), ?_, hnow⟩
      rw [Function.iterate_succ_apply', hfirst, prepare, hfailure]
      exact hlast _
  | none =>
      let outcome := t.assignment.runner (invalidateCompiled patched t.path).files t.request
      have htesting : t.work ((invalidateCompiled patched t.path).files, .testing original) =
          ((invalidateCompiled patched t.path).files, .tested original
            (judged t.mutation outcome)) := by
        rw [work, advance]
      refine ⟨6, now, judged t.mutation outcome, ?_, hnow⟩
      rw [Function.iterate_succ_apply', Function.iterate_succ_apply', hfirst, prepare, hfailure]
      dsimp only
      rw [htesting, hlast]

/-- A worker that has removed its backup comes to an end and adds nothing. -/
theorem exists_iterate_work_ended {now next : FileSystem}
    (hremove : now.remove (backupPath t.path) = .ok next) (result : MutationResult) :
    ∃ final ending, t.work^[2] (now, .restored result) = (final, .ended ending) ∧
      Erodes next final := by
  have herodes := erodes_invalidateCompiled next t.path
  have hdropped : t.work (now, .restored result) = (next, .cleaned result) := by
    rw [work, advance, dropBackup, Patch.discard, hremove]
  rw [Function.iterate_succ_apply, hdropped, Function.iterate_one, work, advance, tidy]
  generalize invalidateCompiled next t.path = cleared at herodes ⊢
  cases cleared.failure with
  | some e => exact ⟨cleared.files, _, rfl, herodes⟩
  | none => exact ⟨cleared.files, _, rfl, herodes⟩

/-- If the backup of a worker's file is the file itself, or a link that a path to the file leads
over, then the path cannot be read once the worker is done. -/
theorem exists_iterate_work_lost {saved : FileSystem} {backup : Address} (hpath : paths t.path)
    (hlocate : start.store.locate true start.directory t.path = .ok (file, some (.file original)))
    (hcompiled : ∀ compiled, IsCompiled start.directory t.path compiled →
      start.Spares paths file compiled)
    (hmutant : t.Renders mutant)
    (hsaved : start.write (backupPath t.path) original = .ok saved)
    (hbackup : paths (backupPath t.path)) (hnames : start.Names (backupPath t.path) backup)
    (hneeded : backup = file ∨ ∃ path, paths path ∧ start.LeadsOver path backup) :
    ∃ count final result, t.work^[count] (start, .entered) = (final, .ended result) ∧
      final.store.get? backup = none ∧ final.directory = start.directory ∧
        start.store.Later final.store ∧
          ∀ path link, paths path → start.LeadsOver path link →
            final.store.get? link = start.store.get? link ∨ final.store.get? link = none := by
  obtain ⟨count, now, result, hwork, hnow⟩ :=
    exists_iterate_work_restored hpath hlocate hcompiled hmutant hsaved
  obtain ⟨_, _, hopened, hentry, _⟩ := FileSystem.exists_locate_of_write hsaved
  obtain ⟨found, hfound, hdirectory⟩ := hnow.exists_get? hneeded
  have hremove := FileSystem.remove_of_locate
    (hnow.ways.names hbackup hopened hentry hnames hfound hdirectory) hdirectory
  have hstored : now.store.get? backup ≠ some .directory := by
    rw [hfound]
    simpa using hdirectory
  obtain ⟨final, ending, hend, herodes⟩ := exists_iterate_work_ended hremove result
  have hgone := Store.get?_erase (s := now.store) (Store.ne_nil_of_get?_ne hstored)
  refine ⟨2 + count, final, ending, ?_, ?_, ?_, ?_, ?_⟩
  · rw [Function.iterate_add_apply, hwork, hend]
  · have hlost := herodes.stored backup
    rw [hgone backup, if_pos rfl, or_self] at hlost
    exact hlost
  · exact herodes.directory.trans hnow.ways.directory
  · exact (hnow.ways.later.trans (Store.Later.erase hstored)).trans herodes.later
  · intro path link hother hover
    have hkept := herodes.stored link
    rw [hgone link, hnow.ways.links path link hother hover] at hkept
    split at hkept
    · exact Or.inr (hkept.elim id id)
    · exact hkept

end SharedTask

end MutationTesting.Run
