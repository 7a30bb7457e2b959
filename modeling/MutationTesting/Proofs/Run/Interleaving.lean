import Mathlib.Logic.Function.Basic
import Mathlib.Logic.Relation
import MutationTesting.Proofs.Files.RealAddress
import MutationTesting.Proofs.Run.SharedFile

/-!
# Workers that share a file

Any number of workers patch one file, each by a path of its own.  They take the lock of the file's
real address in turn, and their steps come in any order that the lock allows.  Tests and anybody
else may write other files meanwhile.  While the tests of a mutant run, the file holds just that mutant,
and whenever the lock is free it holds its original bytes.
-/

namespace MutationTesting.Run

open MutationTesting.Files
open MutationTesting.Files.FileSystem (KeepsFile KeepsWays Spares)
open MutationTesting.Testing
open Relation (ReflTransGen)

/-- Where a worker is on its way to the lock and back. -/
inductive Status where
  | outside
  | queued (lock : Address)
  | inside (lock : Address) (phase : Phase)
  | done (result : MutationResult)
deriving DecidableEq, Repr

/-- The files that workers share, and the locks of all real addresses. -/
structure Site (Worker : Type) where
  files : FileSystem
  holder : Address → Option Worker
  status : Worker → Status

namespace Site

variable {Worker : Type}

def initial (fs : FileSystem) : Site Worker := ⟨fs, fun _ => none, fun _ => .outside⟩

section Steps

variable [DecidableEq Worker] (tasks : Worker → SharedTask) (file : Address)

/-- One step of one worker, or a write to another file than theirs.  The tests of a mutant may end
in any way. -/
inductive Step : Site Worker → Site Worker → Prop
  | arrive {site : Site Worker} {w : Worker} (houtside : site.status w = .outside) :
      Step site
        { site with
          status := Function.update site.status w
            (.queued (site.files.store.realAddress site.files.directory (tasks w).path)) }
  | acquire {site : Site Worker} {w : Worker} {lock : Address}
      (hqueued : site.status w = .queued lock) (hfree : site.holder lock = none) :
      Step site
        { site with
          holder := Function.update site.holder lock (some w)
          status := Function.update site.status w (.inside lock .entered) }
  | advance {site : Site Worker} {w : Worker} {lock : Address} {phase : Phase}
      (outcome : Except RunFailure Nat) (hinside : site.status w = .inside lock phase) :
      Step site
        { site with
          files := ((tasks w).advance outcome site.files phase).1
          status := Function.update site.status w
            (.inside lock ((tasks w).advance outcome site.files phase).2) }
  | release {site : Site Worker} {w : Worker} {lock : Address} {result : MutationResult}
      (hended : site.status w = .inside lock (.ended result)) :
      Step site
        { site with
          holder := Function.update site.holder lock none
          status := Function.update site.status w (.done result) }
  | write {site : Site Worker} {path : Path} {content : Bytes} {next : FileSystem}
      (hwrite : site.files.write path content = .ok next)
      (hother : ∀ entry, site.files.store.locate true site.files.directory path ≠
        .ok (file, entry)) :
      Step site { site with files := next }

/-- What workers can make of files. -/
def Reachable (start : FileSystem) (site : Site Worker) : Prop :=
  ReflTransGen (Step tasks file) (initial start) site

end Steps

section Properties

variable (tasks : Worker → SharedTask) (file : Address) (original : Bytes) (site : Site Worker)

/-- The file has a content, and every worker's path reads it. -/
def FileHolds (content : Bytes) : Prop :=
  site.files.store.get? file = some (.file content) ∧
    ∀ w, site.files.read (tasks w).path = .ok content

/-- Mutants of a file do not get in each other's way. -/
structure Serial : Prop where
  /-- All workers look for the same lock. -/
  same_lock : ∀ w, site.files.store.realAddress site.files.directory (tasks w).path = file
  /-- While tests run, the file holds the mutant that they are run for. -/
  mutant_tested : ∀ w lock kept, site.status w = .inside lock (.testing kept) →
    ∃ mutant, (tasks w).mutant = .ok mutant ∧ site.FileHolds tasks file (encoded mutant)
  /-- At most one worker has a mutant in place. -/
  one_patched : ∀ v w lock lock' phase phase', site.status v = .inside lock phase →
    site.status w = .inside lock' phase' → phase.isPatched = true → phase'.isPatched = true → v = w
  /-- When the lock is free, the file is as it was. -/
  original_free : site.holder file = none → site.FileHolds tasks file original

/-- What is true of a site at every moment. -/
structure Sound (start : FileSystem) : Prop where
  inOrder : ∃ content, KeepsFile (fun path => ∃ w, path = (tasks w).path) start file site.files
      content ∧
    (site.holder file = none → content = original) ∧
      ∀ w lock phase, site.status w = .inside lock phase → phase.Fits (tasks w) original content
  queued_lock : ∀ w lock, site.status w = .queued lock → lock = file
  inside_lock : ∀ w lock phase, site.status w = .inside lock phase →
    lock = file ∧ site.holder file = some w

end Properties

section Invariant

variable {tasks : Worker → SharedTask} {start : FileSystem} {file : Address}
variable {original : Bytes} {site next : Site Worker}

theorem sound_initial (hfile : start.store.get? file = some (.file original)) :
    (initial start : Site Worker).Sound tasks file original start where
  inOrder := ⟨original, ⟨KeepsWays.refl _ start, hfile⟩, fun _ => rfl, by simp [initial]⟩
  queued_lock := by simp [initial]
  inside_lock := by simp [initial]

/-- The lock lets one worker in. -/
theorem Sound.eq_of_inside (hsite : site.Sound tasks file original start) {v w : Worker}
    {lock lock' : Address} {phase phase' : Phase} (hv : site.status v = .inside lock phase)
    (hw : site.status w = .inside lock' phase') : v = w :=
  Option.some.inj
    ((hsite.inside_lock v lock phase hv).2.symm.trans (hsite.inside_lock w lock' phase' hw).2)

theorem Sound.write (hsite : site.Sound tasks file original start) {path : Path} {content : Bytes}
    {files : FileSystem} (hwrite : site.files.write path content = .ok files)
    (hother : ∀ entry, site.files.store.locate true site.files.directory path ≠
      .ok (file, entry)) :
    Sound tasks file original { site with files := files } start := by
  obtain ⟨kept, hkept, horiginal, hfits⟩ := hsite.inOrder
  exact ⟨⟨kept, hkept.write_other hwrite hother, horiginal, hfits⟩, hsite.queued_lock,
    hsite.inside_lock⟩

variable (hshared : ∀ w, start.store.locate true start.directory (tasks w).path =
  .ok (file, some (.file original)))

include hshared

theorem Sound.realAddress_eq (hsite : site.Sound tasks file original start) (w : Worker) :
    site.files.store.realAddress site.files.directory (tasks w).path = file := by
  obtain ⟨content, hkept, _⟩ := hsite.inOrder
  exact Store.realAddress_of_locate (hkept.locate ⟨w, rfl⟩ (hshared w))

/-- A sound site is one where mutants do not get in each other's way. -/
theorem Sound.serial (hsite : site.Sound tasks file original start) :
    site.Serial tasks file original := by
  obtain ⟨content, hkept, hfree, hfits⟩ := hsite.inOrder
  have hholds : site.FileHolds tasks file content :=
    ⟨hkept.holds, fun w => hkept.read ⟨w, rfl⟩ (hshared w)⟩
  exact
    { same_lock := hsite.realAddress_eq hshared
      mutant_tested := by
        intro w lock kept hstatus
        obtain ⟨_, mutant, hmutant, rfl⟩ := hfits w lock _ hstatus
        exact ⟨mutant, hmutant, hholds⟩
      one_patched := fun v w lock lock' phase phase' hv hw _ _ => hsite.eq_of_inside hv hw
      original_free := fun hlock => hfree hlock ▸ hholds }

variable [DecidableEq Worker]

variable (hcompiled : ∀ w mutant, (tasks w).Renders mutant → ∀ compiled,
  IsCompiled start.directory (tasks w).path compiled →
    start.Spares (fun path => ∃ v, path = (tasks v).path) file compiled)
variable (hbackup : ∀ w mutant, (tasks w).Renders mutant →
  start.Spares (fun path => ∃ v, path = (tasks v).path) file (backupPath (tasks w).path))

omit hshared in
/-- A move of one worker leaves a sound site if its new status is right, and the other workers
inside the lock, if there are any, still are where they may be. -/
theorem Sound.moved (hsite : site.Sound tasks file original start) {w : Worker} {status : Status}
    {files : FileSystem} {holder : Address → Option Worker} {content : Bytes}
    (hkept : KeepsFile (fun path => ∃ w, path = (tasks w).path) start file files content)
    (hfree : holder file = none → content = original)
    (hqueued : ∀ lock, status = .queued lock → lock = file)
    (hinside : ∀ lock phase, status = .inside lock phase →
      (lock = file ∧ holder file = some w) ∧ phase.Fits (tasks w) original content)
    (hothers : ∀ v, v ≠ w → ∀ lock phase, site.status v = .inside lock phase →
      (lock = file ∧ holder file = some v) ∧ phase.Fits (tasks v) original content) :
    Sound tasks file original ⟨files, holder, Function.update site.status w status⟩ start := by
  have hall : ∀ v lock phase, Function.update site.status w status v = .inside lock phase →
      (lock = file ∧ holder file = some v) ∧ phase.Fits (tasks v) original content := by
    exact (Function.forall_update_iff site.status fun v here => ∀ lock phase,
      here = .inside lock phase → (lock = file ∧ holder file = some v) ∧
        phase.Fits (tasks v) original content).mpr ⟨hinside, hothers⟩
  refine ⟨⟨content, hkept, hfree, fun v lock phase hv => (hall v lock phase hv).2⟩, ?_,
    fun v lock phase hv => (hall v lock phase hv).1⟩
  exact (Function.forall_update_iff site.status fun _ here => ∀ lock, here = .queued lock →
    lock = file).mpr ⟨hqueued, fun v _ => hsite.queued_lock v⟩

omit hshared in
theorem Sound.acquire (hsite : site.Sound tasks file original start) {w : Worker} {lock : Address}
    (hqueued : site.status w = .queued lock) (hfree : site.holder lock = none) :
    Sound tasks file original
      { site with
        holder := Function.update site.holder lock (some w)
        status := Function.update site.status w (.inside lock .entered) } start := by
  obtain rfl := hsite.queued_lock w lock hqueued
  obtain ⟨content, hkept, horiginal, _⟩ := hsite.inOrder
  apply hsite.moved hkept
  · exact fun _ => horiginal hfree
  · intro other hother
    cases hother
  · intro other phase hphase
    cases hphase
    exact ⟨⟨rfl, Function.update_self ..⟩, horiginal hfree⟩
  · intro v _ other phase hv
    have hheld := (hsite.inside_lock v other phase hv).2
    rw [hfree] at hheld
    cases hheld

omit hshared in
theorem Sound.release (hsite : site.Sound tasks file original start) {w : Worker} {lock : Address}
    {result : MutationResult} (hended : site.status w = .inside lock (.ended result)) :
    Sound tasks file original
      { site with
        holder := Function.update site.holder lock none
        status := Function.update site.status w (.done result) } start := by
  obtain ⟨content, hkept, _, hfits⟩ := hsite.inOrder
  apply hsite.moved hkept
  · exact fun _ => hfits w lock _ hended
  · intro other hother
    cases hother
  · intro other phase hphase
    cases hphase
  · intro v hvw other phase hv
    exact absurd (hsite.eq_of_inside hv hended) hvw

theorem Sound.arrive (hsite : site.Sound tasks file original start) (w : Worker) :
    Sound tasks file original
      { site with
        status := Function.update site.status w
          (.queued (site.files.store.realAddress site.files.directory (tasks w).path)) } start := by
  obtain ⟨content, hkept, horiginal, hfits⟩ := hsite.inOrder
  apply hsite.moved hkept horiginal
  · intro lock hlock
    cases hlock
    exact hsite.realAddress_eq hshared w
  · intro lock phase hphase
    cases hphase
  · intro v _ lock phase hv
    exact ⟨hsite.inside_lock v lock phase hv, hfits v lock phase hv⟩

include hcompiled hbackup

theorem Sound.advance (hsite : site.Sound tasks file original start) {w : Worker} {lock : Address}
    {phase : Phase} (outcome : Except RunFailure Nat)
    (hinside : site.status w = .inside lock phase) :
    Sound tasks file original
      { site with
        files := ((tasks w).advance outcome site.files phase).1
        status := Function.update site.status w
          (.inside lock ((tasks w).advance outcome site.files phase).2) } start := by
  obtain ⟨content, hkept, _, hfits⟩ := hsite.inOrder
  obtain ⟨rfl, hheld⟩ := hsite.inside_lock w lock phase hinside
  obtain ⟨content', hkept', hfits'⟩ :=
    SharedTask.inOrder_advance ⟨w, rfl⟩ (hshared w) (hcompiled w) (hbackup w) outcome
      ⟨content, hkept, hfits w lock phase hinside⟩
  apply hsite.moved hkept'
  · intro hfree
    rw [hheld] at hfree
    cases hfree
  · intro other hother
    cases hother
  · intro other phase' hphase
    cases hphase
    exact ⟨⟨rfl, hheld⟩, hfits'⟩
  · intro v hvw other phase' hv
    exact absurd (hsite.eq_of_inside hv hinside) hvw

/-- No step breaks a sound site. -/
theorem Step.sound (hstep : Step tasks file site next)
    (hsite : site.Sound tasks file original start) :
    next.Sound tasks file original start := by
  cases hstep with
  | @arrive w _ => exact hsite.arrive hshared w
  | acquire hqueued hfree => exact hsite.acquire hqueued hfree
  | advance outcome hinside => exact hsite.advance hshared hcompiled hbackup outcome hinside
  | release hended => exact hsite.release hended
  | write hwrite hother => exact hsite.write hwrite hother

theorem Reachable.sound (hfile : start.store.get? file = some (.file original))
    (hsite : Reachable tasks file start site) : site.Sound tasks file original start := by
  induction hsite with
  | refl => exact sound_initial hfile
  | tail _ hstep ih => exact hstep.sound hshared hcompiled hbackup ih

end Invariant

end Site

end MutationTesting.Run
