import MutationTesting.Proofs.Files.Pattern
import MutationTesting.Proofs.Run.Interleaving
import MutationTesting.Proofs.Run.LoneWorker

/-!
# Mutants of one file run one after the other

Workers that share a file do not disturb each other, whatever the order of their steps and however
their tests end.  This needs that no backup or compiled file of theirs is the file itself or a link
that one of their paths leads over: such a backup is lost with the file.
-/

namespace MutationTesting.Run

open MutationTesting.Files
open MutationTesting.Files.FileSystem (Spares)
open MutationTesting.Testing
open Relation (ReflTransGen)

namespace Site

variable {Worker : Type} [DecidableEq Worker] {tasks : Worker → SharedTask} {start : FileSystem}
variable {file : Address}

/-- A worker inside the lock can make any number of steps. -/
theorem Reachable.iterate {site : Site Worker} (hsite : Reachable tasks file start site) {w : Worker}
    {lock : Address} {phase : Phase} (hinside : site.status w = .inside lock phase) (count : Nat) :
    Reachable tasks file start
      { site with
        files := ((tasks w).work^[count] (site.files, phase)).1
        status := Function.update site.status w
          (.inside lock ((tasks w).work^[count] (site.files, phase)).2) } := by
  induction count with
  | zero =>
      rw [Function.iterate_zero, id, ← hinside, Function.update_eq_self]
      exact hsite
  | succ count ih =>
      rw [Function.iterate_succ_apply']
      have hstep := ReflTransGen.tail ih
        (.advance ((tasks w).assignment.runner ((tasks w).work^[count] (site.files, phase)).1
          (tasks w).request) (Function.update_self w _ site.status))
      rw [Function.update_idem] at hstep
      exact hstep

/-- A worker that nobody disturbs gets from start to end. -/
theorem exists_reachable_alone (tasks : Worker → SharedTask) (w : Worker) {count : Nat}
    {final : FileSystem} {result : MutationResult}
    (hwork : (tasks w).work^[count] (start, .entered) = (final, .ended result)) :
    ∃ site, Reachable tasks file start site ∧ site.files = final ∧
      ∀ lock, site.holder lock = none := by
  let lock := start.store.realAddress start.directory (tasks w).path
  have harrived : Reachable tasks file start
      ⟨start, fun _ => none, Function.update (fun _ => .outside) w (.queued lock)⟩ :=
    ReflTransGen.single (.arrive rfl)
  have hacquire : Step tasks file
      ⟨start, fun _ => none, Function.update (fun _ => .outside) w (.queued lock)⟩
      ⟨start, Function.update (fun _ => none) lock (some w),
        Function.update (Function.update (fun _ => .outside) w (.queued lock)) w
          (.inside lock .entered)⟩ :=
    .acquire (by simp) rfl
  rw [Function.update_idem] at hacquire
  have hinside : ∀ phase, Function.update (fun _ => Status.outside) w (.inside lock phase) w =
      .inside lock phase := fun phase => Function.update_self ..
  have hover := Reachable.iterate (ReflTransGen.tail harrived hacquire) (hinside .entered) count
  simp only [hwork, Function.update_idem] at hover
  refine ⟨_, ReflTransGen.tail hover (.release (hinside (.ended result))), rfl, fun other => ?_⟩
  by_cases hother : other = lock
  · subst hother
    exact Function.update_self ..
  · simp [Function.update_of_ne hother]

variable {original : Bytes}

/-- A worker whose backup is the file, or a link that a worker's path leads over, leaves a path that
reads something else, although no worker holds a lock any more. -/
theorem exists_reachable_lost (hshared : ∀ w,
      start.store.locate true start.directory (tasks w).path = .ok (file, some (.file original)))
    {w : Worker} {mutant : Bytes} {saved : FileSystem} (hmutant : (tasks w).Renders mutant)
    (hsaved : start.write (backupPath (tasks w).path) original = .ok saved)
    (hcompiled : ∀ compiled, IsCompiled start.directory (tasks w).path compiled →
      start.Spares (fun path => (∃ v, path = (tasks v).path) ∨ path = backupPath (tasks w).path)
        file compiled)
    (hlost : ¬ start.Spares (fun path => ∃ v, path = (tasks v).path) file
      (backupPath (tasks w).path)) :
    ∃ site, Reachable tasks file start site ∧ (∀ lock, site.holder lock = none) ∧
      ¬ site.FileHolds tasks file original := by
  obtain ⟨backup, hnames, hneeded⟩ := FileSystem.exists_needed_of_not_spares hlost
  obtain ⟨count, final, result, hwork, hgone, hdirectory, hlater, hlinks⟩ :=
    SharedTask.exists_iterate_work_lost (Or.inl ⟨w, rfl⟩) (hshared w) hcompiled hmutant hsaved
      (Or.inr rfl) hnames
      (hneeded.imp_right fun ⟨path, hother, hover⟩ => ⟨path, Or.inl hother, hover⟩)
  obtain ⟨site, hsite, rfl, hfree⟩ := exists_reachable_alone tasks w hwork
  refine ⟨site, hsite, hfree, fun hholds => ?_⟩
  rcases hneeded with rfl | ⟨_, ⟨v, rfl⟩, hover⟩
  · rw [hholds.1] at hgone
    cases hgone
  · exact FileSystem.read_ne_ok_of_lost hdirectory hlater hover hgone
      (fun link => hlinks (tasks v).path link (Or.inl ⟨v, rfl⟩)) original (hholds.2 v)

end Site

/-- Workers share a file without disturbing each other, as long as what they clear away is neither
the file nor a link that one of their paths leads over: at every moment all of them look for one
lock, tests run against the right mutant, no two mutants are in place, and a free lock means an
untouched file.  For backups the condition is needed, too: one that is the file or such a link is
gone when its worker is done. -/
theorem shared_file_serial {Worker : Type} [DecidableEq Worker] (tasks : Worker → SharedTask)
    (start : FileSystem) (file : Address) (original : Bytes)
    (hfile : start.store.get? file = some (.file original))
    (hshared : ∀ w, start.store.locate true start.directory (tasks w).path =
      .ok (file, some (.file original)))
    (hcompiled : ∀ w mutant, (tasks w).Renders mutant → ∀ compiled,
      IsCompiled start.directory (tasks w).path compiled →
        start.Spares (fun path => ∃ v, path = (tasks v).path) file compiled) :
    ((∀ w mutant, (tasks w).Renders mutant →
        start.Spares (fun path => ∃ v, path = (tasks v).path) file (backupPath (tasks w).path)) →
      ∀ site, Site.Reachable tasks file start site → site.Serial tasks file original) ∧
      ∀ w mutant saved, (tasks w).Renders mutant →
        start.write (backupPath (tasks w).path) original = .ok saved →
        (∀ compiled, IsCompiled start.directory (tasks w).path compiled →
          start.Spares (· = backupPath (tasks w).path) file compiled) →
        ¬ start.Spares (fun path => ∃ v, path = (tasks v).path) file
          (backupPath (tasks w).path) →
        ∃ site, Site.Reachable tasks file start site ∧ (∀ lock, site.holder lock = none) ∧
          ¬ site.FileHolds tasks file original := by
  constructor
  · intro hbackup site hsite
    exact (hsite.sound hshared hcompiled hbackup hfile).serial hshared
  · intro w mutant saved hmutant hsaved hbackup hlost
    refine Site.exists_reachable_lost hshared hmutant hsaved (fun compiled hiscompiled => ?_) hlost
    have hnames := hcompiled w mutant hmutant compiled hiscompiled
    have hway := hbackup compiled hiscompiled
    intro address haddress
    refine ⟨(hnames address haddress).1, ?_⟩
    rintro path (hpath | hpath)
    · exact (hnames address haddress).2 path hpath
    · exact (hway address haddress).2 path hpath

/-- The program `a + b`, with some operator. -/
def sumWith (operator : BinaryOperator) : Tree :=
  .node .binOp 1
    [.node .name 1 [.text "a", .node (.usage .load) 0 []], .node (.binary operator) 0 [],
      .node .name 1 [.text "b", .node (.usage .load) 0 []]]

/-- The mutant `a - b` of a file that holds `a + b`. -/
def differenceIn (path : Path) : SharedTask where
  assignment :=
    { options := ⟨1, .whole 5, {}, .lock, true⟩
      source := ⟨path, .node .module 0 [.list [.node .expressionStatement 1 [sumWith .add]]], none,
        "a + b"⟩
      runner := fun _ _ => .ok 0
      environment := []
      dependencies := {}
      moduleOf := fun _ => none
      fallbackTests := [] }
  mutation := ⟨"Arithmetic", sumWith .add, sumWith .sub, "Arithmetic: + to -", path, 1⟩
  isShared := rfl

/-- A file with two names, one of them a link, and no compiled files. -/
def twoNames : FileSystem :=
  ⟨⟨[(["a.py"], .file (encoded "a + b")), (["b.py"], .link "a.py")]⟩, "/"⟩

/-- Two workers, one for each name of the file. -/
def workersOfBoth (second : Bool) : SharedTask :=
  differenceIn (if second then "b.py" else "a.py")

/-- The pattern of the compiled files of the first or the second name. -/
def cachePattern (second : Bool) : Path := compiledPattern twoNames (workersOfBoth second).path

theorem exists_join_of_isCompiled_twoNames {second : Bool} {compiled : Path}
    (hcompiled : IsCompiled twoNames.directory (workersOfBoth second).path compiled) :
    ∃ name, Path.isAbsolute name = false ∧ compiled = Path.join "/__pycache__" name := by
  obtain ⟨fs, hdirectory, hexpand⟩ := hcompiled
  have hpattern : compiledPattern fs (workersOfBoth second).path = cachePattern second := by
    rw [cachePattern, compiledPattern, compiledPattern, FileSystem.absolute, FileSystem.absolute,
      hdirectory]
  have hparent : ∀ second, Path.parent (cachePattern second) = "/__pycache__" := by
    decide
  have hbase : ∀ second, (Path.baseName (cachePattern second)).toList =
      (if second then 'b' else 'a') :: ".*.pyc".toList := by decide
  have hwild : ∀ second, Glob.hasWildcard (Path.baseName (cachePattern second)) = true ∧
      Path.baseName (cachePattern second) ≠ Glob.anyDirectories ∧
        Glob.hasWildcard (cachePattern second) = true := by decide
  rw [hpattern] at hexpand
  obtain ⟨hname, hany, hpath⟩ := hwild second
  obtain ⟨name, hmatch, rfl⟩ := Glob.exists_join_of_mem_expand hname hany hpath
    (by rw [hparent]; decide) (by rw [hparent]; decide) hexpand
  rw [hparent]
  refine ⟨name, ?_, rfl⟩
  have hletter : ∀ letter ∈ ['*', '?', '['], (if second then 'b' else 'a') ≠ letter := by
    cases second <;> simp
  obtain ⟨others, hothers⟩ := exists_cons_of_matchesPattern (hbase second)
    (hletter '*' (by decide)) (hletter '?' (by decide)) (hletter '[' (by decide)) hmatch
  rw [Path.isAbsolute, Text.startsWith, hothers]
  cases second <;> rfl

/-- There is no directory that compiled files could be in. -/
theorem not_names_compiled_twoNames {second : Bool} {compiled : Path}
    (hcompiled : IsCompiled twoNames.directory (workersOfBoth second).path compiled)
    (address : Address) : ¬ twoNames.Names compiled address := by
  obtain ⟨name, hname, rfl⟩ := exists_join_of_isCompiled_twoNames hcompiled
  rintro ⟨entry, hlocate⟩
  have hbase : Path.segments "/__pycache__" = ["", "__pycache__"] := by decide
  have hmissing : twoNames.store.get? ([] ++ ["__pycache__"]) = none := by decide
  have hwalk : twoNames.store.walk false [] ("" :: "__pycache__" :: Path.segments name) =
      .failed .notFound := by
    rw [Store.walk_stay (Or.inl rfl), Store.walk_name (by decide), hmissing]
    simp [Path.segments_ne_nil]
  rw [Store.locate, Path.join_absolute (Path.isAbsolute_join (by decide)),
    Path.segments_join (by decide) (by decide) hname, hbase, List.cons_append, List.cons_append,
    List.nil_append, Store.follow, hwalk] at hlocate
  split at hlocate <;> cases hlocate

theorem spares_backup_twoNames (second : Bool) (paths : Path → Prop) :
    twoNames.Spares paths ["a.py"] (backupPath (workersOfBoth second).path) := by
  apply FileSystem.spares_of_not_link
  rintro address ⟨entry, hlocate⟩
  have hplace : ∀ second, twoNames.store.locate false twoNames.directory
      (backupPath (workersOfBoth second).path) =
        .ok (if second then ["b.py.backup"] else ["a.py.backup"], none) := by decide
  have hfree : ∀ second : Bool, (if second then ["b.py.backup"] else ["a.py.backup"]) ≠ ["a.py"] ∧
      twoNames.store.get? (if second then ["b.py.backup"] else ["a.py.backup"]) = none := by
    decide
  rw [hplace] at hlocate
  cases hlocate
  exact ⟨(hfree second).1, fun target => by rw [(hfree second).2]; simp⟩

/-- Both names of the file can be used at the same time. -/
theorem two_names_serial :
    twoNames.store.get? ["a.py"] = some (.file (encoded "a + b")) ∧
      (∀ second, twoNames.store.locate true twoNames.directory (workersOfBoth second).path =
        .ok (["a.py"], some (.file (encoded "a + b")))) ∧
        ∀ site, Site.Reachable workersOfBoth ["a.py"] twoNames site →
          site.Serial workersOfBoth ["a.py"] (encoded "a + b") := by
  have hfile : twoNames.store.get? ["a.py"] = some (.file (encoded "a + b")) := by decide +kernel
  have hshared : ∀ second,
      twoNames.store.locate true twoNames.directory (workersOfBoth second).path =
        .ok (["a.py"], some (.file (encoded "a + b"))) := by decide +kernel
  obtain ⟨hserial, _⟩ := shared_file_serial workersOfBoth twoNames ["a.py"] (encoded "a + b") hfile
    hshared fun second mutant _ compiled hcompiled address hnames =>
      absurd hnames (not_names_compiled_twoNames hcompiled address)
  exact ⟨hfile, hshared, hserial fun second _ _ => spares_backup_twoNames second _⟩

/-- A file that is known by a link to where its backup goes. -/
def linkToBackup : FileSystem :=
  ⟨⟨[(["a.py"], .link "a.py.backup"), (["a.py.backup"], .file (encoded "a + b"))]⟩, "/"⟩

/-- The file is gone after its only mutant was run, without anything unusual happening. -/
theorem linked_file_lost_with_backup :
    ¬ ∀ (Worker : Type) [DecidableEq Worker] (tasks : Worker → SharedTask) (start : FileSystem)
      (file : Address) (original : Bytes), start.store.get? file = some (.file original) →
        (∀ w, start.store.locate true start.directory (tasks w).path =
          .ok (file, some (.file original))) →
        ∀ site, Site.Reachable tasks file start site → site.holder file = none →
          site.files.store.get? file = some (.file original) := by
  intro hevery
  obtain ⟨site, hsite, hfinal, hfree⟩ :=
    Site.exists_reachable_alone (fun _ : Unit => differenceIn "a.py") ()
      ((differenceIn "a.py").iterate_work_entered ⟨linkToBackup, [], []⟩)
  have hkept := hevery Unit (fun _ => differenceIn "a.py") linkToBackup ["a.py.backup"]
    (encoded "a + b") (by decide +kernel) (fun _ => by decide +kernel) site hsite (hfree _)
  rw [hfinal] at hkept
  revert hkept
  decide +kernel

end MutationTesting.Run
