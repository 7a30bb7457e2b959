import MutationTesting.Proofs.Run.WorkerSteps

/-!
# What a worker leaves of its file

A worker writes to its file and beside it, and removes the backup and the compiled files.  As long
as nothing it removes is the file itself or a link to it, the file holds the mutant while the tests
run and its original bytes before and after.
-/

namespace MutationTesting.Run

open MutationTesting.Files
open MutationTesting.Files.FileSystem (KeepsFile Spares)
open MutationTesting.Testing

/-- Whether a path may be that of a compiled file of a source file.  Which ones there are depends on
the files of the moment; the pattern depends on the current directory alone. -/
def IsCompiled (directory path compiled : Path) : Prop :=
  ∃ fs : FileSystem, fs.directory = directory ∧
    compiled ∈ Glob.expand fs (compiledPattern fs path)

section Removals

variable {paths : Path → Prop} {start now next : FileSystem} {path : Path} {file : Address}
variable {content : Bytes}

/-- What single removals keep, removing one file after the other keeps. -/
theorem removeAll_induction (property : FileSystem → Prop) {removed : List Path}
    (hnow : property now)
    (hremove : ∀ path ∈ removed, ∀ fs next, property fs → fs.remove path = .ok next →
      property next) : property (removeAll now removed).files := by
  induction removed generalizing now with
  | nil => exact hnow
  | cons path rest ih =>
      have hrest : ∀ other ∈ rest, ∀ fs next, property fs → fs.remove other = .ok next →
          property next := fun other hother => hremove other (List.mem_cons_of_mem path hother)
      rw [removeAll]
      cases hfirst : now.remove path with
      | ok next => exact ih (hremove path List.mem_cons_self now next hnow hfirst) hrest
      | error e =>
          cases e with
          | notFound => exact ih hnow hrest
          | notDirectory | isDirectory | tooManyLinks => exact hnow

theorem keepsFile_invalidateCompiled (hkept : KeepsFile paths start file now content)
    (hspares : ∀ compiled, IsCompiled start.directory path compiled →
      start.Spares paths file compiled) :
    KeepsFile paths start file (invalidateCompiled now path).files content :=
  removeAll_induction (KeepsFile paths start file · content) hkept
    fun compiled hcompiled _ _ hnow hremove =>
      hnow.remove (hspares compiled ⟨now, hkept.ways.directory, hcompiled⟩) hremove

theorem erodes_invalidateCompiled (now : FileSystem) (path : Path) :
    FileSystem.Erodes now (invalidateCompiled now path).files :=
  removeAll_induction (FileSystem.Erodes now) (FileSystem.Erodes.refl now)
    fun _ _ _ _ herodes hremove => herodes.remove hremove

/-- What writes and removals keep, each step of a worker keeps. -/
theorem SharedTask.advance_induction (t : SharedTask) (property : FileSystem → Prop)
    (hwrite : ∀ fs path content next, property fs → fs.write path content = .ok next →
      property next)
    (hremove : ∀ fs path next, property fs → fs.remove path = .ok next → property next)
    (outcome : Except RunFailure Nat) {fs : FileSystem} (phase : Phase) (hfs : property fs) :
    property (t.advance outcome fs phase).1 := by
  have hcleared : property (invalidateCompiled fs t.path).files := by
    rw [invalidateCompiled]
    exact removeAll_induction property hfs fun path _ fs next => hremove fs path next
  cases phase with
  | entered =>
      rw [advance, load]
      cases t.mutant with
      | error e => exact hfs
      | ok mutant => cases fs.read t.path <;> exact hfs
  | loaded mutant original =>
      rw [advance, save]
      cases hresult : fs.write (backupPath t.path) original with
      | error e => exact hfs
      | ok next => exact hwrite _ _ _ _ hfs hresult
  | saved mutant original =>
      rw [advance, patch]
      cases hresult : fs.write t.path mutant with
      | error e => exact hfs
      | ok next => exact hwrite _ _ _ _ hfs hresult
  | patched original =>
      rw [advance, prepare]
      generalize invalidateCompiled fs t.path = cleared at hcleared ⊢
      exact hcleared
  | testing original =>
      rw [advance]
      exact hfs
  | tested original result =>
      rw [advance, restore]
      cases hresult : fs.write t.path original with
      | error e => exact hfs
      | ok next => exact hwrite _ _ _ _ hfs hresult
  | restored result =>
      rw [advance, dropBackup, Patch.discard]
      cases hresult : fs.remove (backupPath t.path) with
      | ok next => exact hremove _ _ _ hfs hresult
      | error e => cases e <;> exact hfs
  | cleaned result =>
      rw [advance, tidy]
      generalize invalidateCompiled fs t.path = cleared at hcleared ⊢
      exact hcleared
  | ended result =>
      rw [advance]
      exact hfs

theorem keepsFile_discard (hkept : KeepsFile paths start file now content)
    (hspares : start.Spares paths file path) (hdiscard : Patch.discard now path = .ok next) :
    KeepsFile paths start file next content := by
  rw [Patch.discard] at hdiscard
  cases hremove : now.remove path with
  | ok removed =>
      rw [hremove] at hdiscard
      cases hdiscard
      exact hkept.remove hspares hremove
  | error e =>
      rw [hremove] at hdiscard
      cases e with
      | notFound =>
          cases hdiscard
          exact hkept
      | notDirectory | isDirectory | tooManyLinks => cases hdiscard

end Removals

/-- Whether a worker has a mutant, with the bytes it would write. -/
def SharedTask.Renders (t : SharedTask) (mutant : Bytes) : Prop :=
  ∃ text, t.mutant = .ok text ∧ mutant = encoded text

/-- What a worker in some phase knows of the original, and what its file has to hold. -/
def Phase.Fits (t : SharedTask) (original content : Bytes) : Phase → Prop
  | .entered | .ended _ => content = original
  | .loaded mutant kept | .saved mutant kept =>
    content = original ∧ kept = original ∧ t.Renders mutant
  | .patched kept | .testing kept => kept = original ∧ t.Renders content
  | .tested kept _ => kept = original ∧ ∃ mutant, t.Renders mutant
  | .restored _ | .cleaned _ => content = original ∧ ∃ mutant, t.Renders mutant

namespace SharedTask

variable (t : SharedTask) (paths : Path → Prop) (start : FileSystem) (file : Address)
variable (original : Bytes)

/-- The file holds what the phase of its worker asks for, and all its paths still lead there. -/
def InOrder (state : FileSystem × Phase) : Prop :=
  ∃ content, KeepsFile paths start file state.1 content ∧ state.2.Fits t original content

variable {t paths start file original} {now : FileSystem}

section Steps

variable (hpath : paths t.path)
variable (hlocate : start.store.locate true start.directory t.path =
  .ok (file, some (.file original)))

include hpath hlocate

theorem inOrder_load (hkept : KeepsFile paths start file now original) :
    InOrder t paths start file original (t.load now) := by
  rw [load, hkept.read hpath hlocate]
  cases hmutant : t.mutant with
  | error e => exact ⟨original, hkept, rfl⟩
  | ok mutant => exact ⟨original, hkept, rfl, rfl, mutant, hmutant, rfl⟩

omit hpath hlocate in
theorem inOrder_save {mutant : Bytes} (hkept : KeepsFile paths start file now original)
    (hmutant : t.Renders mutant) :
    InOrder t paths start file original (t.save now mutant original) := by
  rw [save]
  cases hwrite : now.write (backupPath t.path) original with
  | error e => exact ⟨original, hkept, rfl⟩
  | ok next => exact ⟨original, hkept.write_same hwrite, rfl, rfl, hmutant⟩

theorem inOrder_patch {mutant : Bytes} (hkept : KeepsFile paths start file now original)
    (hmutant : t.Renders mutant) :
    InOrder t paths start file original (t.patch now mutant original) := by
  obtain ⟨next, hwrite, hnext⟩ := hkept.exists_write hpath hlocate mutant
  rw [patch, hwrite]
  exact ⟨mutant, hnext, rfl, hmutant⟩

theorem inOrder_restore {content : Bytes} (hkept : KeepsFile paths start file now content)
    (hmutant : ∃ mutant, t.Renders mutant) (result : MutationResult) :
    InOrder t paths start file original (t.restore now original result) := by
  obtain ⟨next, hwrite, hnext⟩ := hkept.exists_write hpath hlocate original
  rw [restore, hwrite]
  exact ⟨original, hnext, rfl, hmutant⟩

end Steps

section Removals

variable (hcompiled : ∀ compiled, IsCompiled start.directory t.path compiled →
  start.Spares paths file compiled)

include hcompiled

theorem inOrder_prepare {mutant : Bytes} (hkept : KeepsFile paths start file now mutant)
    (hmutant : t.Renders mutant) :
    InOrder t paths start file original (t.prepare now original) := by
  have hcleared := keepsFile_invalidateCompiled hkept hcompiled
  rw [prepare]
  generalize invalidateCompiled now t.path = cleared at hcleared ⊢
  cases cleared.failure with
  | none => exact ⟨mutant, hcleared, rfl, hmutant⟩
  | some e => exact ⟨mutant, hcleared, rfl, mutant, hmutant⟩

theorem inOrder_tidy (hkept : KeepsFile paths start file now original) (result : MutationResult) :
    InOrder t paths start file original (t.tidy now result) := by
  have hcleared := keepsFile_invalidateCompiled hkept hcompiled
  rw [tidy]
  generalize invalidateCompiled now t.path = cleared at hcleared ⊢
  cases cleared.failure with
  | none => exact ⟨original, hcleared, rfl⟩
  | some e => exact ⟨original, hcleared, rfl⟩

omit hcompiled

theorem inOrder_dropBackup (hbackup : start.Spares paths file (backupPath t.path))
    (hkept : KeepsFile paths start file now original) (hmutant : ∃ mutant, t.Renders mutant)
    (result : MutationResult) :
    InOrder t paths start file original (t.dropBackup now result) := by
  rw [dropBackup]
  cases hdiscard : Patch.discard now (backupPath t.path) with
  | error e => exact ⟨original, hkept, rfl⟩
  | ok next => exact ⟨original, keepsFile_discard hkept hbackup hdiscard, rfl, hmutant⟩

end Removals

/-- Each step of a worker leaves its file in order, however its tests end. -/
theorem inOrder_advance (hpath : paths t.path)
    (hlocate : start.store.locate true start.directory t.path =
      .ok (file, some (.file original)))
    (hcompiled : ∀ mutant, t.Renders mutant → ∀ compiled,
      IsCompiled start.directory t.path compiled → start.Spares paths file compiled)
    (hbackup : ∀ mutant, t.Renders mutant → start.Spares paths file (backupPath t.path))
    (outcome : Except RunFailure Nat) {phase : Phase}
    (horder : InOrder t paths start file original (now, phase)) :
    InOrder t paths start file original (t.advance outcome now phase) := by
  obtain ⟨content, hkept, hfits⟩ := horder
  cases phase with
  | entered =>
      cases hfits
      rw [advance]
      exact inOrder_load hpath hlocate hkept
  | loaded mutant kept =>
      obtain ⟨rfl, rfl, hmutant⟩ := hfits
      rw [advance]
      exact inOrder_save hkept hmutant
  | saved mutant kept =>
      obtain ⟨rfl, rfl, hmutant⟩ := hfits
      rw [advance]
      exact inOrder_patch hpath hlocate hkept hmutant
  | patched kept =>
      obtain ⟨rfl, hmutant⟩ := hfits
      rw [advance]
      exact inOrder_prepare (hcompiled content hmutant) hkept hmutant
  | testing kept =>
      rw [advance]
      exact ⟨content, hkept, hfits.1, content, hfits.2⟩
  | tested kept result =>
      obtain ⟨rfl, hmutant⟩ := hfits
      rw [advance]
      exact inOrder_restore hpath hlocate hkept hmutant result
  | restored result =>
      obtain ⟨rfl, mutant, hmutant⟩ := hfits
      rw [advance]
      exact inOrder_dropBackup (hbackup mutant hmutant) hkept ⟨mutant, hmutant⟩ result
  | cleaned result =>
      obtain ⟨rfl, mutant, hmutant⟩ := hfits
      rw [advance]
      exact inOrder_tidy (hcompiled mutant hmutant) hkept result
  | ended result =>
      rw [advance]
      exact ⟨content, hkept, hfits⟩

end SharedTask

end MutationTesting.Run
