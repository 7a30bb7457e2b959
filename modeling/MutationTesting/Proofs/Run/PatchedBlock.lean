import MutationTesting.Proofs.Files.Changes
import MutationTesting.Proofs.Run.Serialization

/-!
# A block with a mutant in place of a file

Whatever regular files the block writes or deletes, and however it ends, the file is written back and
the backup removed.  The file then has its original bytes unless what was removed was the file itself
or a link on its way.  The failure of the block shows unless a compiled file cannot be removed.
-/

namespace MutationTesting.Run

open MutationTesting.Files
open MutationTesting.Files.FileSystem (Erodes FileChange KeepsFile KeepsWays Spares)
open Relation (ReflTransGen)

/-- What stops a removal cannot be removed from what it leaves. -/
theorem exists_of_removeAll_failure {fs : FileSystem} {paths : List Path} {e : FileError}
    (hfailure : (removeAll fs paths).failure = some e) :
    e ≠ .notFound ∧ ∃ path ∈ paths, (removeAll fs paths).files.remove path = .error e := by
  induction paths generalizing fs with
  | nil => cases hfailure
  | cons first rest ih =>
      rw [removeAll] at hfailure ⊢
      cases hfirst : fs.remove first with
      | ok next =>
          rw [hfirst] at hfailure
          obtain ⟨he, path, hpath, hremove⟩ := ih hfailure
          exact ⟨he, path, List.mem_cons_of_mem first hpath, hremove⟩
      | error cause =>
          rw [hfirst] at hfailure
          cases cause with
          | notFound =>
              obtain ⟨he, path, hpath, hremove⟩ := ih hfailure
              exact ⟨he, path, List.mem_cons_of_mem first hpath, hremove⟩
          | notDirectory | isDirectory | tooManyLinks =>
              cases hfailure
              exact ⟨by simp, first, List.mem_cons_self, hfirst⟩

namespace Patch

variable {fs : FileSystem} {m : Mutation} {source : SourceFile} {target : Path} {strict : Bool}

/-- A file gets its mutant in four steps that may fail. -/
theorem enter_eq_ok_iff {patched : FileSystem} {p : Patch} :
    enter fs m source target strict = .ok (patched, p) ↔
      ∃ mutant original saved, m.render source strict = .ok mutant ∧ fs.read target = .ok original ∧
        fs.write (backupPath target) original = .ok saved ∧
        saved.write target (encoded mutant) = .ok patched ∧ p = ⟨target, original⟩ := by
  rw [enter, bind_eq_ok_iff]
  simp only [bind_eq_ok_iff, mapError_eq_ok_iff, pure, Except.pure, Except.ok.injEq,
    Prod.mk.injEq]
  constructor
  · rintro ⟨mutant, hmutant, original, hread, saved, hsaved, patched, hpatched, rfl, rfl⟩
    exact ⟨mutant, original, saved, hmutant, hread, hsaved, hpatched, rfl⟩
  · rintro ⟨mutant, original, saved, hmutant, hread, hsaved, hpatched, rfl⟩
    exact ⟨mutant, hmutant, original, hread, saved, hsaved, patched, hpatched, rfl, rfl⟩

/-- A block runs between entering and leaving a patch.  Nothing has changed when it is not
entered. -/
theorem during_eq {Failure : Type} (body : FileSystem → FileSystem × Option Failure) :
    during fs m source target strict body =
      match enter fs m source target strict with
      | .error e => ⟨none, fs, .refused e⟩
      | .ok (patched, p) => p.close (some patched) (body patched).1 (.own (body patched).2) := by
  rw [during, enter]
  cases m.render source strict with
  | error e => rfl
  | ok mutant =>
      cases hread : fs.read target with
      | error e => rfl
      | ok original =>
          cases hsaved : fs.write (backupPath target) original with
          | error e => simp only [mapError_ok, mapError_error, bind, Except.bind, hsaved]
          | ok saved =>
              obtain ⟨patched, hpatched⟩ :=
                SharedTask.exists_write_of_write_backup hread hsaved (encoded mutant)
              simp only [mapError_ok, bind, Except.bind, pure, Except.pure, hsaved, hpatched]

/-- The paths that a patch writes to. -/
def IsOwn (target path : Path) : Prop := path = target ∨ path = backupPath target

variable {start left : FileSystem} {file : Address} {original : Bytes}

/-- While the paths of a patch lead where they led, leaving it writes the file back and takes the
backup away. -/
theorem exists_leave (hways : KeepsWays (IsOwn target) start left)
    (hopened : start.store.locate true start.directory target =
      .ok (file, some (.file original)))
    {backup : Address} {entry : Option Entry}
    (hbackup : start.store.locate true start.directory (backupPath target) = .ok (backup, entry))
    (hentry : entry ≠ some .directory) :
    ∃ restored cleared, KeepsFile (IsOwn target) start file restored original ∧
      discard restored (backupPath target) = .ok cleared ∧ Erodes restored cleared ∧
      cleared.holds (backupPath target) = false ∧
      leave left ⟨target, original⟩ = ⟨(invalidateCompiled cleared target).files,
        (invalidateCompiled cleared target).failure⟩ := by
  obtain ⟨restored, hwrite, hrestored⟩ := hways.exists_write (Or.inl rfl) hopened original
  have hdiscard : ∃ cleared, discard restored (backupPath target) = .ok cleared ∧
      Erodes restored cleared ∧ cleared.holds (backupPath target) = false := by
    rw [discard]
    rcases hrestored.ways.remove_cases (Or.inr rfl) hbackup hentry with ⟨cleared, hremove⟩ | hremove
    · rw [hremove]
      exact ⟨cleared, rfl, (Erodes.refl restored).remove hremove,
        FileSystem.holds_of_remove hremove⟩
    · rw [hremove]
      exact ⟨restored, rfl, Erodes.refl restored, FileSystem.holds_of_remove_notFound hremove⟩
  obtain ⟨cleared, hdiscard, herodes, hholds⟩ := hdiscard
  refine ⟨restored, cleared, hrestored, hdiscard, herodes, hholds, ?_⟩
  rw [leave, hwrite]
  simp only [hdiscard]

/-- If the backup is the file or a link on its way, the file cannot be read once it is gone. -/
theorem read_ne_ok_of_not_spares {restored cleared final : FileSystem}
    (hrestored : KeepsFile (IsOwn target) start file restored original)
    (hopened : start.store.locate true start.directory target =
      .ok (file, some (.file original)))
    {backup : Address} {entry : Option Entry}
    (hbackup : start.store.locate true start.directory (backupPath target) = .ok (backup, entry))
    (hentry : entry ≠ some .directory)
    (hdiscard : discard restored (backupPath target) = .ok cleared) (hfinal : Erodes cleared final)
    (hlost : ¬ start.Spares (· = target) file (backupPath target)) (content : Bytes) :
    final.read target ≠ .ok content := by
  obtain ⟨named, hnames, hneeded⟩ := FileSystem.exists_needed_of_not_spares hlost
  obtain ⟨found, hfound, hplain⟩ := hrestored.exists_get?
    (hneeded.imp_right fun ⟨path, hpath, hover⟩ => ⟨path, Or.inl hpath, hover⟩)
  have hremove := FileSystem.remove_of_locate
    (hrestored.ways.names (Or.inr rfl) hbackup hentry hnames hfound hplain) hplain
  rw [discard, hremove] at hdiscard
  cases hdiscard
  have hnonempty : named ≠ [] := Store.ne_nil_of_get?_ne (s := restored.store) (by
    rw [hfound]
    simpa using hplain)
  have hgone : final.store.get? named = none := by
    have hstored := hfinal.stored named
    rw [Store.get?_erase hnonempty, if_pos rfl, or_self] at hstored
    exact hstored
  have herodes := ((Erodes.refl restored).remove hremove).trans hfinal
  rcases hneeded with rfl | ⟨_, rfl, hover⟩
  · exact herodes.read_ne_ok (hrestored.locate (Or.inl rfl) hopened) hgone content
  · refine FileSystem.read_ne_ok_of_lost (herodes.directory.trans hrestored.ways.directory)
      (hrestored.ways.later.trans herodes.later) hover hgone (fun link hlink => ?_) content
    rw [← hrestored.ways.links _ link (Or.inl rfl) hlink]
    exact herodes.stored link

/-- Leaving a patch gives the file its bytes back just when the backup can be removed safely, as far
as the compiled files can. -/
theorem read_leave_eq_ok_iff {restored cleared : FileSystem}
    (hrestored : KeepsFile (IsOwn target) start file restored original)
    (hopened : start.store.locate true start.directory target =
      .ok (file, some (.file original)))
    {backup : Address} {entry : Option Entry}
    (hbackup : start.store.locate true start.directory (backupPath target) = .ok (backup, entry))
    (hentry : entry ≠ some .directory)
    (hdiscard : discard restored (backupPath target) = .ok cleared)
    (hcompiled : ∀ compiled, IsCompiled start.directory target compiled →
      start.Spares (· = target) file compiled) :
    (invalidateCompiled cleared target).files.read target = .ok original ↔
      start.Spares (· = target) file (backupPath target) := by
  constructor
  · intro hread
    by_contra hlost
    exact read_ne_ok_of_not_spares hrestored hopened hbackup hentry hdiscard
      (erodes_invalidateCompiled cleared target) hlost original hread
  · intro hspares
    have htarget : KeepsFile (· = target) start file restored original :=
      hrestored.mono fun _ => Or.inl
    exact (keepsFile_invalidateCompiled (keepsFile_discard htarget hspares hdiscard)
      hcompiled).read rfl hopened

/-- A block that writes and deletes regular files, and then ends or fails.  If it is not entered,
nothing has changed.  If it is, it finds the mutant, and afterwards there is no backup.  The file has
its original bytes again just when removing the backup harms neither the file nor a link on its way,
provided that no compiled file does.  What the block raises shows, unless what stands at the path of
a compiled file cannot be removed. -/
theorem block_leaves_file {Failure : Type} (fs : FileSystem) (m : Mutation) (source : SourceFile)
    (target : Path) (strict : Bool) (body : FileSystem → FileSystem × Option Failure)
    (hbody : ∀ now, ReflTransGen FileChange now (body now).1) :
    ((during fs m source target strict body).inside = none →
      (during fs m source target strict body).files = fs ∧
        ∃ cause, enter fs m source target strict = .error cause ∧
          (during fs m source target strict body).ending = .refused cause) ∧
      ∀ inside, (during fs m source target strict body).inside = some inside →
        ∃ mutant original file, m.render source strict = .ok mutant ∧
          fs.store.locate true fs.directory target = .ok (file, some (.file original)) ∧
          fs.read target = .ok original ∧ inside.read target = .ok (encoded mutant) ∧
          (during fs m source target strict body).files.holds (backupPath target) = false ∧
          ((∀ compiled, IsCompiled fs.directory target compiled →
              fs.Spares (· = target) file compiled) →
            ((during fs m source target strict body).files.read target = .ok original ↔
              fs.Spares (· = target) file (backupPath target))) ∧
          ((during fs m source target strict body).ending = .own (body inside).2 ∨
            ∃ compiled e, IsCompiled fs.directory target compiled ∧ e ≠ .notFound ∧
              (during fs m source target strict body).files.remove compiled = .error e ∧
              (during fs m source target strict body).ending = .stuck e) := by
  rw [during_eq]
  cases henter : enter fs m source target strict with
  | error cause => exact ⟨fun _ => ⟨rfl, cause, rfl, rfl⟩, fun _ hinside => by cases hinside⟩
  | ok entered =>
      obtain ⟨patched, p⟩ := entered
      obtain ⟨mutant, original, saved, hmutant, hread, hsaved, hpatched, rfl⟩ :=
        enter_eq_ok_iff.mp henter
      refine ⟨fun hinside => absurd hinside (by simp [close]), fun inside hinside => ?_⟩
      cases hinside
      obtain ⟨file, hopened⟩ := FileSystem.read_eq_ok_iff.mp hread
      obtain ⟨backup, entry, hbackup, hentry, -⟩ := FileSystem.exists_locate_of_write hsaved
      obtain ⟨_, _, _, htrail⟩ := Store.locate_eq_ok_iff.mp hopened
      have hstart : KeepsFile (IsOwn target) fs file fs original :=
        ⟨KeepsWays.refl _ fs, htrail.get?_eq (by simp)⟩
      obtain ⟨patched', hpatched', hinside⟩ :=
        (hstart.write_same hsaved).exists_write (Or.inl rfl) hopened (encoded mutant)
      rw [hpatched] at hpatched'
      cases hpatched'
      obtain ⟨restored, cleared, hrestored, hdiscard, herodes, hholds, hleave⟩ :=
        exists_leave (hinside.ways.changes (hbody patched)) hopened hbackup hentry
      refine ⟨mutant, original, file, hmutant, hopened, hread,
        hinside.read (Or.inl rfl) hopened, ?_⟩
      simp only [close, hleave]
      refine ⟨(erodes_invalidateCompiled cleared target).holds hholds,
        read_leave_eq_ok_iff hrestored hopened hbackup hentry hdiscard, ?_⟩
      cases hfailure : (invalidateCompiled cleared target).failure with
      | none => exact Or.inl rfl
      | some e =>
          obtain ⟨he, compiled, hcompiled, hremove⟩ := exists_of_removeAll_failure hfailure
          exact Or.inr ⟨compiled, e,
            ⟨cleared, herodes.directory.trans hrestored.ways.directory, hcompiled⟩, he, hremove,
            rfl⟩

end Patch

/-- A block that writes over the file, fills the backup and then fails. -/
def overwriteAndFail (target : Path) (now : FileSystem) : FileSystem × Option String :=
  let written := (now.write target []).toOption.getD now
  ((written.write (backupPath target) []).toOption.getD written, some "failure")

theorem overwriteAndFail_changes (target : Path) (now : FileSystem) :
    ReflTransGen FileChange now (overwriteAndFail target now).1 := by
  have hwrite : ∀ (fs : FileSystem) (path : Path),
      ReflTransGen FileChange fs ((fs.write path []).toOption.getD fs) := by
    intro fs path
    cases hresult : fs.write path [] with
    | error e => exact .refl
    | ok next => exact .single (.write hresult)
  exact (hwrite now target).trans (hwrite _ (backupPath target))

/-- The file that has two names is put back after a block that writes over it. -/
theorem two_names_put_back :
    let task := differenceIn "a.py"
    let run := Patch.during twoNames task.mutation task.assignment.source task.path true
      (overwriteAndFail task.path)
    (∀ now, ReflTransGen FileChange now (overwriteAndFail task.path now).1) ∧
      run.files.read "a.py" = .ok (encoded "a + b") ∧ run.ending = .raised "failure" := by
  intro task run
  have hbody := overwriteAndFail_changes task.path
  have hinside : run.inside.isSome = true := by decide +kernel
  obtain ⟨inside, hinside⟩ := Option.isSome_iff_exists.mp hinside
  obtain ⟨mutant, original, file, -, hopened, hread, -, -, hback, hending⟩ :=
    (Patch.block_leaves_file twoNames task.mutation task.assignment.source task.path true
      (overwriteAndFail task.path) hbody).2 inside hinside
  have hfile : twoNames.store.locate true twoNames.directory task.path =
      .ok (["a.py"], some (.file (encoded "a + b"))) := by decide +kernel
  rw [hopened] at hfile
  cases hfile
  have hcompiled : ∀ compiled, IsCompiled twoNames.directory task.path compiled →
      ∀ address, ¬ twoNames.Names compiled address :=
    fun compiled => @not_names_compiled_twoNames false compiled
  refine ⟨hbody, (hback fun compiled hiscompiled address hnames =>
    absurd hnames (hcompiled compiled hiscompiled address)).mpr (spares_backup_twoNames false _),
    by decide +kernel⟩

/-- A file that is known by a link to where a compiled file could be. -/
def linkToCompiled : FileSystem :=
  ⟨⟨[(["a.py"], .link "__pycache__/a.x.pyc"), (["__pycache__"], .directory),
    (["__pycache__", "a.x.pyc"], .file (encoded "a + b"))]⟩, "/"⟩

/-- The file is gone after a block that does nothing. -/
theorem linked_file_lost_with_compiled_files :
    ¬ ∀ (fs : FileSystem) (m : Mutation) (source : SourceFile) (target : Path) (strict : Bool)
      (body : FileSystem → FileSystem × Option String),
      (∀ now, ReflTransGen FileChange now (body now).1) →
        ∀ inside original, (Patch.during fs m source target strict body).inside = some inside →
          fs.read target = .ok original →
          (Patch.during fs m source target strict body).files.read target = .ok original := by
  intro hevery
  let task := differenceIn "a.py"
  let run := Patch.during linkToCompiled task.mutation task.assignment.source task.path true
    fun now => (now, (none : Option String))
  have hinside : run.inside.isSome = true := by decide +kernel
  have hread : linkToCompiled.read task.path = .ok (encoded "a + b") := by decide +kernel
  have hlost : run.files.read task.path = .error .notFound := by decide +kernel
  obtain ⟨inside, hinside⟩ := Option.isSome_iff_exists.mp hinside
  have hkept := hevery linkToCompiled task.mutation task.assignment.source task.path true _
    (fun _ => .refl) inside _ hinside hread
  rw [show (Patch.during _ _ _ _ _ _).files.read _ = run.files.read task.path from rfl,
    hlost] at hkept
  cases hkept

/-- A file with a directory where a compiled file could be. -/
def cacheDirectory : FileSystem :=
  ⟨⟨[(["a.py"], .file (encoded "a + b")), (["__pycache__"], .directory),
    (["__pycache__", "a.x.pyc"], .directory)]⟩, "/"⟩

/-- What a block raises does not show when there is a directory among the compiled files. -/
theorem block_failure_hidden_by_directory :
    ¬ ∀ (fs : FileSystem) (m : Mutation) (source : SourceFile) (target : Path) (strict : Bool)
      (body : FileSystem → FileSystem × Option String),
      (∀ now, ReflTransGen FileChange now (body now).1) →
        ∀ inside, (Patch.during fs m source target strict body).inside = some inside →
          (Patch.during fs m source target strict body).ending = .own (body inside).2 := by
  intro hevery
  let task := differenceIn "a.py"
  let run := Patch.during cacheDirectory task.mutation task.assignment.source task.path true
    (overwriteAndFail task.path)
  have hinside : run.inside.isSome = true := by decide +kernel
  have hending : run.ending = .stuck .isDirectory := by decide +kernel
  obtain ⟨inside, hinside⟩ := Option.isSome_iff_exists.mp hinside
  have hown := hevery cacheDirectory task.mutation task.assignment.source task.path true
    (overwriteAndFail task.path) (overwriteAndFail_changes task.path) inside hinside
  rw [show Patch.during _ _ _ _ _ _ = run from rfl, hending] at hown
  cases hown

end MutationTesting.Run
