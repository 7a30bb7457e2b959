import MutationTesting.Proofs.Files.RegularFiles
import MutationTesting.Proofs.Run.SandboxIsolation

/-!
# A sandbox that is used again is like a new one

A slot has one copy of the project for all of its mutants.  Whatever became of the mutants before,
the tests of a mutant find in the copy what the project holds, the mutant in place of its file, and
the original in the backup.  They find nothing else.
-/

namespace MutationTesting.Run

open MutationTesting.Files
open MutationTesting.Files.FileSystem (pathOf)
open MutationTesting.Files.Path (IsComponent)
open MutationTesting.Testing

theorem CopiedFile.eq_of_no_links {c : Contents} {dirs : List String} {last : String}
    {file folder : Address} {original : Bytes} (hfile : CopiedFile c dirs last file folder original)
    (hlinks : ∀ place target, c place ≠ some (.link target))
    (hnames : ∀ name ∈ dirs ++ [last], IsComponent name) :
    file = dirs ++ [last] ∧ folder = dirs := by
  have hcopied : ∀ place target, copied c place ≠ some (.link target) := fun place target hstored =>
    hlinks place target (copied_eq_some_iff.mp hstored).2
  obtain ⟨links, -, hway⟩ := hfile.file_way
  obtain ⟨others, -, hfolder⟩ := hfile.folder_way
  refine ⟨hway.place_eq hcopied fun name hname => (hnames name hname).1,
    hfolder.place_eq hcopied fun name hname => (hnames name ?_).1⟩
  exact List.mem_append_left _ hname

/-- A changed copy holds what was copied, apart from the file and its backup, unless there is
something else in it. -/
theorem IsChangedCopy.inside_eq {c : Contents} {s : Store} {root file backup : Address}
    {content original : Bytes} (hcopy : IsChangedCopy c s root file backup content (some original))
    (hnothing : ∀ place, c place = none → place ≠ backup → s.get? (root ++ place) = none) :
    s.inside root = Function.update
      (Function.update (copied c) file (some (.file content))) backup (some (.file original)) := by
  funext place
  by_cases hbackup : place = backup
  · rw [hbackup, Function.update_self]
    exact hcopy.saved
  · rw [Function.update_of_ne hbackup]
    by_cases hfile : place = file
    · rw [hfile, Function.update_self]
      exact hcopy.holds
    · rw [Function.update_of_ne hfile]
      cases hplace : copied c place with
      | some entry => exact hcopy.kept place entry hfile hplace
      | none =>
          rw [copied] at hplace
          split at hplace
          · next hignored => exact hcopy.left_out place hbackup hignored
          · exact hnothing place hplace hbackup

section Steps

variable {t : SharedTask} {c : Contents} {fs : FileSystem} {root : Address} {dirs : List String}
variable {last : String}

theorem get?_put_of_ne (hroot : root ≠ []) {place other : Address} (hne : place ≠ other) (s : Store)
    (entry : Entry) :
    (s.put (root ++ other) entry).get? (root ++ place) = s.get? (root ++ place) := by
  rw [Store.get?_put (by simp [hroot]), if_neg (by simpa using hne)]

theorem files_load (t : SharedTask) (fs : FileSystem) : (t.load fs).1 = fs := by
  rw [SharedTask.load]
  cases t.mutant with
  | error e => rfl
  | ok mutant =>
      dsimp only
      cases fs.read t.path <;> rfl

/-- A step of a worker in a sandbox changes its file and the backup only. -/
theorem get?_advance_of_ne (hroot : ∀ name ∈ root, IsComponent name) (hnonempty : root ≠ [])
    (hnames : ∀ name ∈ dirs ++ [last], IsComponent name)
    (hlinks : ∀ place target, c place ≠ some (.link target))
    (hpath : t.path = copyPath root dirs last) (outcome : Except RunFailure Nat) {phase : Phase}
    (hphase : phase.Shelters t c fs.store root dirs last) {place : Address}
    (hfile : place ≠ dirs ++ [last]) (hbackup : place ≠ backupIn dirs last) :
    (t.advance outcome fs phase).1.store.get? (root ++ place) = fs.store.get? (root ++ place) := by
  obtain ⟨hdirs, hlast⟩ := Path.isComponent_concat_iff.mp hnames
  cases phase with
  | entered => rw [SharedTask.advance, files_load]
  | loaded mutant kept =>
      obtain ⟨file, folder, hcopied, hcopy, -⟩ := hphase
      obtain ⟨rfl, rfl⟩ := hcopied.eq_of_no_links hlinks hnames
      rw [SharedTask.advance, SharedTask.save, hpath,
        FileSystem.write_of_locate (locate_backup hroot hdirs hlast hcopied hcopy true) (by simp)]
      exact get?_put_of_ne hnonempty hbackup _ _
  | saved mutant kept =>
      obtain ⟨file, folder, hcopied, hcopy, -⟩ := hphase
      obtain ⟨rfl, rfl⟩ := hcopied.eq_of_no_links hlinks hnames
      rw [SharedTask.advance, SharedTask.patch, hpath,
        FileSystem.write_of_locate (locate_copyPath hroot hdirs hlast hcopied hcopy) (by simp)]
      exact get?_put_of_ne hnonempty hfile _ _
  | patched kept =>
      obtain ⟨file, folder, mutant, hcopied, hcopy, -⟩ := hphase
      rw [SharedTask.advance, SharedTask.prepare, hpath,
        invalidateCompiled_copyPath hroot hdirs hlast hcopied hcopy]
  | testing kept => rw [SharedTask.advance]
  | tested kept result =>
      obtain ⟨file, folder, content, hcopied, hcopy⟩ := hphase
      obtain ⟨rfl, rfl⟩ := hcopied.eq_of_no_links hlinks hnames
      rw [SharedTask.advance, SharedTask.restore, hpath,
        FileSystem.write_of_locate (locate_copyPath hroot hdirs hlast hcopied hcopy) (by simp)]
      exact get?_put_of_ne hnonempty hfile _ _
  | restored result =>
      obtain ⟨file, folder, kept, hcopied, hcopy⟩ := hphase
      obtain ⟨rfl, rfl⟩ := hcopied.eq_of_no_links hlinks hnames
      rw [SharedTask.advance, SharedTask.dropBackup, hpath, Patch.discard,
        FileSystem.remove_of_locate (locate_backup hroot hdirs hlast hcopied hcopy false) (by simp)]
      refine (Store.get?_erase (by simp [hnonempty]) _).trans (if_neg ?_)
      simpa using hbackup
  | cleaned result =>
      obtain ⟨file, folder, kept, hcopied, hcopy⟩ := hphase
      rw [SharedTask.advance, SharedTask.tidy, hpath,
        invalidateCompiled_copyPath hroot hdirs hlast hcopied ((isCopy_iff hcopied).mp hcopy)]
  | ended result => rw [SharedTask.advance]

end Steps

namespace Yard

section Nothing

variable {a : Assignment} {start : FileSystem} {root : Address} {dirs : List String}
variable {last : String} {y next : Yard}

variable (a start root dirs last) in
/-- The copies hold nothing but what the project held at the beginning, and backups. -/
def NothingElse (y : Yard) : Prop :=
  ∀ slot copy, y.sandboxes.lookup slot = some copy → ∀ place,
    start.store.inside root place = none → place ≠ backupIn dirs last →
      y.files.store.get? (copyRoot (a.project start) slot ++ place) = none

variable (hsandboxed : Sandboxed a start root (dirs ++ [last]))

include hsandboxed

/-- The project is as it was at the beginning, if it does not hold its own copies. -/
theorem Sound.inside_project (hsound : Sound a start root dirs last y)
    (hapart : ¬ root <+: ["tmp"]) :
    y.files.store.inside root = start.store.inside root := by
  funext place
  cases hstart : start.store.inside root place with
  | some entry => exact hsound.grows _ _ hstart
  | none =>
      cases hnow : y.files.store.inside root place with
      | none => rfl
      | some entry =>
          rcases hsound.added _ _ hnow with hstored | ⟨slot, copy, -, hunder⟩
          · rw [Store.inside, hstored] at hstart
            cases hstart
          · exact absurd hunder (hsandboxed.not_copyParent_above hapart slot place)

theorem NothingElse.make (hnothing : NothingElse a start root dirs last y)
    (hsound : Sound a start root dirs last y) (hapart : ¬ root <+: ["tmp"]) {slot : Nat}
    (hlookup : y.sandboxes.lookup slot = none) {occupant : Nat → Option Occupant} :
    NothingElse a start root dirs last
      ⟨{ y.files with store := copyTree y.files.store root (copyRoot (a.project start) slot) },
        y.sandboxes ++ [(slot, pathOf (copyRoot (a.project start) slot))], occupant⟩ := by
  have hfree := hsound.free hsandboxed hlookup
  have htmp := hsound.grows _ _ hsandboxed.temporary
  have hroot := hsound.grows _ _ (Store.get?_of_locate_directory hsandboxed.project)
  intro other copy hother place hmissing hbackup
  by_cases hne : other = slot
  · subst hne
    refine get?_copyTree_of_missing htmp hfree hsound.distinct hroot ?_
    rw [hsound.inside_project hsandboxed hapart, hmissing]
  · dsimp only at hother ⊢
    rw [lookup_concat_of_ne hne] at hother
    rw [get?_copyTree_of_outside htmp
      (not_copyParent_above (Ne.symm hne) (Or.inr (List.prefix_append _ place)))]
    exact hnothing other copy hother place hmissing hbackup

variable (hregular : (start.store.inside root).IsRegular) {original : Bytes}
variable (hstored : start.store.inside root (dirs ++ [last]) = some (.file original))

include hregular hstored

theorem way_of_isRegular :
    (start.store.inside root).Way [] (dirs ++ [last]) [] (dirs ++ [last]) (.file original) := by
  refine hregular.way (by simp) (fun name hname => ?_) hstored
  exact (hsandboxed.isComponent_place name hname).1

theorem NothingElse.advance (hnothing : NothingElse a start root dirs last y)
    (hsound : Sound a start root dirs last y) {slot : Nat} {m : Mutation} {p : Placement}
    {phase : Phase} (outcome : Except RunFailure Nat)
    (hoccupied : y.occupant slot = some ⟨m, p, phase⟩) {occupant : Nat → Option Occupant} :
    NothingElse a start root dirs last
      ⟨((a.worker m p).advance outcome y.files phase).1, y.sandboxes, occupant⟩ := by
  obtain ⟨hdirs, hlast⟩ := Path.isComponent_concat_iff.mp hsandboxed.isComponent_place
  obtain ⟨own, hlookup⟩ := Option.isSome_iff_exists.mp (hsound.housed slot _ hoccupied)
  have hstands := hsound.stands slot own hlookup
  rw [hoccupied] at hstands
  obtain ⟨htarget, -, hphase⟩ := hstands
  have hroot := hsandboxed.isComponent_copyRoot slot
  have hnonempty : copyRoot (a.project start) slot ≠ [] := by simp [copyRoot]
  intro other copy hother place hmissing hbackup
  by_cases hne : other = slot
  · subst hne
    have hfile : place ≠ dirs ++ [last] := by
      rintro rfl
      rw [hstored] at hmissing
      cases hmissing
    refine (get?_advance_of_ne (t := a.worker m p) hroot hnonempty hsandboxed.isComponent_place
      hregular.no_links htarget outcome hphase hfile hbackup).trans ?_
    exact hnothing other copy hother place hmissing hbackup
  · have hconfined := (SharedTask.sheltered_advance (t := a.worker m p) hroot hnonempty hdirs hlast
      htarget (way_of_isRegular hsandboxed hregular hstored) outcome hphase).1
    refine (hconfined.outside _ fun hunder => ?_).trans
      (hnothing other copy hother place hmissing hbackup)
    exact not_copyParent_above (Ne.symm hne) (Or.inr (List.prefix_append _ place))
      ((List.prefix_append _ _).trans hunder)

variable (hapart : ¬ root <+: ["tmp"])

include hapart

theorem Step.nothingElse (hstep : Step a y next) (hsound : Sound a start root dirs last y)
    (hnothing : NothingElse a start root dirs last y) :
    NothingElse a start root dirs last next := by
  cases hstep with
  | place _ hplaced =>
      obtain ⟨copy, hsandbox, -, -⟩ := placementOf_eq_ok hsandboxed hsound.directory hplaced
      rcases sandboxOf_eq_ok hsandbox with ⟨rfl, -⟩ | ⟨hlookup, rfl, source, hlocate, rfl⟩
      · exact hnothing
      · have hthere := hsound.grows.locate hsandboxed.project
        dsimp only at hlocate
        rw [hsound.directory, hthere] at hlocate
        cases hlocate
        exact hnothing.make hsandboxed hsound hapart hlookup
  | advance outcome hoccupied =>
      exact hnothing.advance hsandboxed hregular hstored hsound outcome hoccupied
  | finish _ => exact hnothing

theorem Reachable.nothingElse
    (hfirst : Text.startsWith ".." ((dirs ++ [last]).headD "") = false)
    (hreachable : Reachable a start y) :
    NothingElse a start root dirs last y := by
  induction hreachable with
  | refl =>
      intro slot copy hlookup
      cases hlookup
  | tail hbefore hstep ih =>
      have hsound := Reachable.sound hsandboxed hfirst
        (way_of_isRegular hsandboxed hregular hstored) hbefore
      exact hstep.nothingElse hsandboxed hregular hstored hapart hsound ih

end Nothing

end Yard

/-- What tests find that run in the copy of a slot: a new copy of the project, with a mutant in
place of a file, and the original beside it. -/
structure SeesFreshCopy (a : Assignment) (start now : FileSystem) (root : Address)
    (dirs : List String) (last : String) (original : Bytes) (slot : Nat) (m : Mutation)
    (request : TestRun) : Prop where
  directory : request.options.directory = some (pathOf (copyRoot (a.project start) slot))
  contents : ∃ mutant, m.render a.source a.options.strict = .ok mutant ∧
    now.store.inside (copyRoot (a.project start) slot) =
      Function.update
        (Function.update
          ((copyTree start.store root (copyRoot (a.project start) slot)).inside
            (copyRoot (a.project start) slot))
          (dirs ++ [last]) (some (.file (encoded mutant))))
        (dirs ++ [last ++ ".backup"]) (some (.file original))

section Reuse

variable {a : Assignment} {start : FileSystem} {root : Address} {dirs : List String}
variable {last : String} {original : Bytes}

theorem seesFreshCopy_of_testing (hsandboxed : Sandboxed a start root (dirs ++ [last]))
    (hregular : (start.store.inside root).IsRegular)
    (hcopied : copied (start.store.inside root) (dirs ++ [last]) = some (.file original))
    {y : Yard} (hsound : y.Sound a start root dirs last)
    (hnothing : y.NothingElse a start root dirs last) {slot : Nat} {m : Mutation} {p : Placement}
    {kept : Bytes} (htesting : y.occupant slot = some ⟨m, p, .testing kept⟩) :
    SeesFreshCopy a start y.files root dirs last original slot m p.request := by
  obtain ⟨copy, hlookup⟩ := Option.isSome_iff_exists.mp (hsound.housed slot _ htesting)
  have hstands := hsound.stands slot copy hlookup
  rw [htesting] at hstands
  obtain ⟨-, hdirectory, file, folder, content, hfile, hcopy, mutant, hmutant, rfl⟩ := hstands
  have hkept := hfile.stored
  have hne := hfile.ne_backup
  obtain ⟨rfl, rfl⟩ := hfile.eq_of_no_links hregular.no_links hsandboxed.isComponent_place
  rw [hcopied] at hkept
  cases hkept
  refine ⟨hdirectory, mutant, hmutant, ?_⟩
  rw [inside_copyTree hsandboxed.temporary (hsandboxed.free slot) hsandboxed.distinct
    (Store.get?_of_locate_directory hsandboxed.project)]
  exact hcopy.inside_eq (hnothing slot copy hlookup)

/-- Every run of tests finds a new copy of the project with nothing but the mutant and the backup in
it, whatever was run before in the slot and however it ended, and whatever other slots do.  Copies
are made outside of the project. -/
theorem reused_sandbox_is_fresh_copy (a : Assignment) (start : FileSystem) (root : Address)
    (dirs : List String) (last : String) (original : Bytes)
    (hsandboxed : Sandboxed a start root (dirs ++ [last]))
    (hregular : (start.store.inside root).IsRegular)
    (hcopied : copied (start.store.inside root) (dirs ++ [last]) = some (.file original))
    (hfirst : Text.startsWith ".." ((dirs ++ [last]).headD "") = false)
    (hapart : ¬ root <+: ["tmp"]) :
    (∀ y, Yard.Reachable a start y → ∀ slot m p kept,
      y.occupant slot = some ⟨m, p, .testing kept⟩ →
        SeesFreshCopy a start y.files root dirs last original slot m p.request) ∧
      ∀ jobs, ∀ o ∈ (runJobs a start jobs).observations, ∃ job ∈ jobs, ∃ slot,
        SeesFreshCopy a start o.files root dirs last original slot job.mutation o.request := by
  have hstored := (copied_eq_some_iff.mp hcopied).2
  have hyards : ∀ y, Yard.Reachable a start y → ∀ slot m p kept,
      y.occupant slot = some ⟨m, p, .testing kept⟩ →
        SeesFreshCopy a start y.files root dirs last original slot m p.request := by
    intro y hreachable slot m p kept htesting
    have hsound := hreachable.sound hsandboxed hfirst
      (Yard.way_of_isRegular hsandboxed hregular hstored)
    have hnothing := hreachable.nothingElse hsandboxed hregular hstored hapart hfirst
    exact seesFreshCopy_of_testing hsandboxed hregular hcopied hsound hnothing htesting
  refine ⟨hyards, fun jobs o ho => ?_⟩
  obtain ⟨w, htraced, hobservations, -⟩ := exists_traced_runJobs hsandboxed.isolation start jobs
  rw [hobservations] at ho
  obtain ⟨y, slot, p, kept, job, hjob, hreachable, htesting, rfl⟩ := htraced.observed o ho
  exact ⟨job, hjob, slot, hyards y hreachable slot _ p kept htesting⟩

end Reuse

/-- The mutant `a - b`, whose tests never end in time. -/
def endlessDifference (path : Path) : Assignment :=
  { sandboxedDifference path with runner := fun _ _ => .error (.timeout (.whole 5)) }

/-- A mutation of something that its file does not hold. -/
def strayJob (path : Path) : Job :=
  ⟨1, { (differenceJob path).mutation with line := 2 }⟩

/-- A project with a file, and with a directory that is not copied. -/
def versionedFile : FileSystem :=
  projectOf [(["p", "a.py"], .file (encoded "a + b")), (["p", ".git"], .directory),
    (["p", ".git", "HEAD"], .file (encoded "main"))]

theorem sandboxed_versionedFile :
    Sandboxed (endlessDifference "a.py") versionedFile ["p"] ([] ++ ["a.py"]) :=
  (sandboxed_projectOf (by decide) (by decide) (by decide) (by decide)).with_runner _

/-- A mutant that is tested after one that ran out of time and one that does not exist finds the
copy as if it were the first. -/
theorem third_mutant_finds_fresh_copy :
    let a := endlessDifference "a.py"
    let jobs := [differenceJob "a.py", strayJob "a.py", differenceJob "a.py"]
    ((runJobs a versionedFile jobs).results.map (fun r => r.result.classification) =
        [.timeout, .invalid, .timeout] ∧
      (runJobs a versionedFile jobs).observations.length = 2) ∧
      ∀ o ∈ (runJobs a versionedFile jobs).observations, ∃ job ∈ jobs, ∃ slot,
        SeesFreshCopy a versionedFile o.files ["p"] [] "a.py" (encoded "a + b") slot job.mutation
          o.request := by
  intro a jobs
  have hregular : (versionedFile.store.inside ["p"]).IsRegular :=
    Contents.isRegular_inside (by decide +kernel) (by decide +kernel)
      (by simp [versionedFile, projectOf])
  refine ⟨by decide +kernel, ?_⟩
  exact (reused_sandbox_is_fresh_copy a versionedFile ["p"] [] "a.py" (encoded "a + b")
    sandboxed_versionedFile hregular (by decide +kernel) (by decide +kernel) (by decide)).2 jobs

end MutationTesting.Run
