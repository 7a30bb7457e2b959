import MutationTesting.Proofs.Run.PatchedInPlace
import MutationTesting.Proofs.Run.SandboxReuse

/-!
# The two kinds of isolation agree

A mutant that is put in place of its file, and one that is put in place of the copy of its file,
get the same result from tests that look at nothing but the file.  This needs that the file is
copied at all, and that no directory is in the way of the backup or the compiled files, which are
not copied.  If the file is not copied, its mutants end in errors in a sandbox and nowhere else.
-/

namespace MutationTesting.Run

open MutationTesting.Files
open MutationTesting.Files.FileSystem (pathOf)
open MutationTesting.Files.Path (IsComponent)
open MutationTesting.Testing

namespace Assignment

/-- The same work with another isolation. -/
def isolated (a : Assignment) (isolation : Isolation) : Assignment :=
  { a with options := { a.options with isolation := isolation } }

/-- The same work with tests that look at the source file only. -/
def watching (a : Assignment) (answer : Except FileError Bytes → Except RunFailure Nat) :
    Assignment :=
  { a with runner := fun fs request => answer (a.seenSource fs request) }

theorem runner_watching (a : Assignment)
    (answer : Except FileError Bytes → Except RunFailure Nat) (fs : FileSystem)
    (request : TestRun) : (a.watching answer).runner fs request =
      answer ((a.watching answer).seenSource fs request) := rfl

theorem isolated_self (a : Assignment) : a.isolated a.options.isolation = a := rfl

end Assignment

/-- The results of one job after the other, if each gives what it is expected to. -/
def expectedResults (a : Assignment) (answer : Except FileError Bytes → Except RunFailure Nat)
    (jobs : List Job) : List JobResult :=
  jobs.map fun job => ⟨job.place, a.expectedResult answer job.mutation⟩

section Results

variable {a : Assignment} {answer : Except FileError Bytes → Except RunFailure Nat}
variable {start : FileSystem} {jobs : List Job}

theorem forall₂_runJobs (hworkers : a.options.workers = 1) (property : Workshop → Prop)
    (gives : Job → JobResult → Prop)
    (hexecute : ∀ w, ∀ job ∈ jobs, property w →
      property (execute a w 0 job).1 ∧ gives job (execute a w 0 job).2)
    (hstart : property ⟨start, [], []⟩) :
    List.Forall₂ gives jobs (runJobs a start jobs).results := by
  have hgives := Coordinator.forall₂_runAll_single property gives (fun _ => 0) hexecute hstart
  rw [← hworkers] at hgives
  exact hgives

theorem results_runJobs (hworkers : a.options.workers = 1) (property : Workshop → Prop)
    (hexecute : ∀ w, ∀ job ∈ jobs, property w → property (execute a w 0 job).1 ∧
      (execute a w 0 job).2 = ⟨job.place, a.expectedResult answer job.mutation⟩)
    (hstart : property ⟨start, [], []⟩) :
    (runJobs a start jobs).results = expectedResults a answer jobs := by
  have hgives := forall₂_runJobs hworkers property
    (fun job result => ⟨job.place, a.expectedResult answer job.mutation⟩ = result)
    (fun w job hjob hw => ⟨(hexecute w job hjob hw).1, (hexecute w job hjob hw).2.symm⟩) hstart
  have hequal := List.forall₂_map_left_iff.mpr hgives
  rw [List.forall₂_eq_eq_eq] at hequal
  exact hequal.symm

end Results

section Lock

variable {a : Assignment} {answer : Except FileError Bytes → Except RunFailure Nat}
variable {start : FileSystem} {root : Address} {dirs : List String} {last : String}
variable {original : Bytes}

/-- In the project itself, every mutant gets what its tests answer to it. -/
theorem results_runJobs_in_place (hlock : a.options.isolation = .lock)
    (hworkers : a.options.workers = 1) (hplain : PlainSource a start root dirs last original)
    (hunobstructed : Unobstructed (start.store.inside root) dirs last)
    (hrunner : ∀ fs request, a.runner fs request = answer (a.seenSource fs request))
    (jobs : List Job) : (runJobs a start jobs).results = expectedResults a answer jobs := by
  have hsource := hplain.sourceInProject
  have hfree : a.options.isolation = .sandbox →
      ∀ slot rest, start.store.get? (copyParent slot ++ rest) = none := by simp [hlock]
  apply results_runJobs hworkers fun w => Steady a start root dirs last w.files original
  · intro w job _ hsteady
    have hrun := (hsource.patchable hunobstructed hfree).runMutant hrunner job.mutation
      ⟨a.testsFor job.mutation, a.options.timeout, a.options.invocation⟩
      (fun _ _ hnow => (hsource.of_steady hfree hnow).seenSource_eq rfl) hsteady
    rw [execute, placementOf, hlock]
    exact ⟨hrun.1, congrArg (JobResult.mk job.place) hrun.2⟩
  · exact Steady.refl hsource.stored

end Lock

section Sandbox

variable {a : Assignment} {answer : Except FileError Bytes → Except RunFailure Nat}
variable {start : FileSystem} {root : Address} {dirs : List String} {last : String}
variable {c : Contents} {file folder : Address} {original : Bytes}

/-- A file in a copy can be patched again and again. -/
theorem patchable_copyPath (hroot : ∀ name ∈ root, IsComponent name) (hnonempty : root ≠ [])
    (hdirs : ∀ name ∈ dirs, IsComponent name) (hlast : IsComponent last)
    (hfile : CopiedFile c dirs last file folder original) (directory : Path) :
    Patchable (copyPath root dirs last) fun fs content => fs.directory = directory ∧
      ∃ saved, IsChangedCopy c fs.store root file (backupIn folder last) content saved where
  read := by
    rintro fs content ⟨-, saved, hcopy⟩
    exact FileSystem.read_eq_ok_iff.mpr ⟨_, locate_copyPath hroot hdirs hlast hfile hcopy⟩
  write := by
    rintro fs content written ⟨hdirectory, saved, hcopy⟩
    obtain ⟨next, hwrite, hconfined, hnext⟩ :=
      write_copyPath hroot hnonempty hdirs hlast hfile hcopy written
    exact ⟨next, hwrite, hconfined.directory.trans hdirectory, saved, hnext⟩
  save := by
    rintro fs content written ⟨hdirectory, saved, hcopy⟩
    obtain ⟨next, hwrite, hconfined, hnext⟩ :=
      write_backup hroot hnonempty hdirs hlast hfile hcopy written
    exact ⟨next, hwrite, hconfined.directory.trans hdirectory, some written, hnext⟩
  drop := by
    rintro fs content ⟨hdirectory, saved, hcopy⟩
    have hlocate := locate_backup hroot hdirs hlast hfile hcopy false
    cases saved with
    | none =>
        have hmissing : fs.remove (backupPath (copyPath root dirs last)) = .error .notFound := by
          rw [FileSystem.remove, hlocate]
          rfl
        rw [Patch.discard, hmissing]
        exact ⟨fs, rfl, hdirectory, none, hcopy⟩
    | some kept =>
        rw [Patch.discard, FileSystem.remove_of_locate hlocate (by simp)]
        refine ⟨_, rfl, hdirectory, none, ?_⟩
        exact hcopy.change_backup hfile.ne_backup (Store.get?_erase (by simp [hnonempty]))
  clear := by
    rintro fs content ⟨hdirectory, saved, hcopy⟩
    rw [invalidateCompiled_copyPath hroot hdirs hlast hfile hcopy]
    exact ⟨rfl, hdirectory, saved, hcopy⟩

/-- What is copied of a directory without links has no links either. -/
theorem isRegular_copied (hregular : c.IsRegular) : (copied c).IsRegular where
  above := by
    intro place name entry hstored
    obtain ⟨hkept, hthere⟩ := copied_eq_some_iff.mp hstored
    rw [List.any_append, Bool.or_eq_false_iff] at hkept
    exact copied_eq_some_iff.mpr ⟨hkept.1, hregular.above place name entry hthere⟩
  no_links := fun place target hstored =>
    hregular.no_links place target (copied_eq_some_iff.mp hstored).2

theorem exists_copiedFile_of_isRegular (hregular : c.IsRegular)
    (hnames : ∀ name ∈ dirs ++ [last], IsComponent name)
    (hcopied : copied c (dirs ++ [last]) = some (.file original)) :
    ∃ folder, CopiedFile c dirs last (dirs ++ [last]) folder original := by
  have hway : (copied c).Way [] (dirs ++ [last]) [] (dirs ++ [last]) (.file original) :=
    (isRegular_copied hregular).way (by simp) (fun name hname => (hnames name hname).1) hcopied
  obtain ⟨links, folder, hfolder, hlength⟩ := hway.exists_parent rfl
  exact ⟨folder, ⟨[], Nat.zero_le _, hway⟩, ⟨links, Nat.le_trans hlength (Nat.zero_le _), hfolder⟩⟩

theorem workingDirectory_pathOf {fs : FileSystem} {request : TestRun} {address : Address}
    (haddress : ∀ name ∈ address, IsComponent name)
    (hrequest : request.options.directory = some (pathOf address)) :
    workingDirectory fs request = pathOf address := by
  rw [workingDirectory, hrequest]
  split
  · next hsame => cases hsame
  · next hsame => simp [pathOf] at hsame
  · next directory _ hsame =>
      rw [Option.some.injEq] at hsame
      rw [← hsame, FileSystem.absolute, Path.absolute_pathOf _ haddress]

/-- A mutant whose file cannot be read is not put in place. -/
theorem runMutant_of_unreadable {w : Workshop} {m : Mutation} {p : Placement} {mutant : String}
    {e : FileError} (hmutant : m.render a.source a.options.strict = .ok mutant)
    (hread : w.files.read p.target = .error e) :
    (runMutant a w m p).2 = notPatched m (.file e) := by
  have henter : Patch.enter w.files m a.source p.target a.options.strict = .error (.file e) := by
    rw [Patch.enter, hmutant, hread]
    rfl
  rw [runMutant, henter]

section Copies

variable (hsandboxed : Sandboxed a start root (dirs ++ [last]))

include hsandboxed

/-- Tests that run in a copy look at the file there. -/
theorem seenSource_eq_read {fs : FileSystem} {slot : Nat} {request : TestRun}
    (hdirectory : fs.directory = start.directory)
    (hrequest : request.options.directory = some (pathOf (copyRoot (a.project start) slot))) :
    a.seenSource fs request = fs.read (copyPath (copyRoot (a.project start) slot) dirs last) := by
  have hroot := hsandboxed.isComponent_copyRoot slot
  have hbelow : Path.names (fs.absolute a.source.path) =
      Path.names (a.project fs) ++ (dirs ++ [last]) := by
    rw [FileSystem.absolute, hdirectory, project_congr a hdirectory]
    exact hsandboxed.below
  rw [Assignment.seenSource, workingDirectory_pathOf hroot hrequest,
    Path.relative_of_names (by simp) hbelow,
    Path.join_pathOf hroot hsandboxed.isComponent_place (by simp)]
  rfl

theorem seenSource_copy {fs : FileSystem} {slot : Nat} {content : Bytes} {saved : Option Bytes}
    {request : TestRun} (hdirectory : fs.directory = start.directory)
    (hfile : CopiedFile c dirs last file folder original)
    (hcopy : IsChangedCopy c fs.store (copyRoot (a.project start) slot) file (backupIn folder last)
      content saved)
    (hrequest : request.options.directory = some (pathOf (copyRoot (a.project start) slot))) :
    a.seenSource fs request = .ok content := by
  obtain ⟨hdirs, hlast⟩ := Path.isComponent_concat_iff.mp hsandboxed.isComponent_place
  rw [seenSource_eq_read hsandboxed hdirectory hrequest, FileSystem.read_eq_ok_iff]
  exact ⟨_, locate_copyPath (hsandboxed.isComponent_copyRoot slot) hdirs hlast hfile hcopy⟩

variable (hfirst : Text.startsWith ".." ((dirs ++ [last]).headD "") = false)
variable (hway : (start.store.inside root).Way [] (dirs ++ [last]) [] (dirs ++ [last])
  (.file original))

include hfirst hway

/-- A job is done in the copy of its slot, which is as it was made. -/
theorem exists_placementOf {w : Workshop} (hreachable : Yard.Reachable a start (Yard.idle w))
    (slot : Nat) (m : Mutation) :
    ∃ w' request, placementOf a w slot (a.testsFor m) =
        .ok (w', ⟨copyPath (copyRoot (a.project start) slot) dirs last, request⟩) ∧
      request.options.directory = some (pathOf (copyRoot (a.project start) slot)) ∧
      w'.files.directory = start.directory ∧
      IsCopy (start.store.inside root) w'.files.store (copyRoot (a.project start) slot) := by
  have hsound := hreachable.sound hsandboxed hfirst hway
  obtain ⟨w', p, hplaced⟩ :=
    hsound.exists_placementOf hsandboxed w.observations slot (a.testsFor m)
  have hnext := Yard.Reachable.sound hsandboxed hfirst hway
    (hreachable.tail (.place (y := Yard.idle w) rfl hplaced))
  have hoccupied := Function.update_self slot (some ⟨m, p, Phase.entered⟩) (Yard.idle w).occupant
  obtain ⟨copy, hlookup⟩ := Option.isSome_iff_exists.mp (hnext.housed slot _ hoccupied)
  have hstands := hnext.stands slot copy hlookup
  dsimp only at hstands
  rw [hoccupied] at hstands
  obtain ⟨htarget, hrequest, hcopy⟩ := hstands
  obtain ⟨target, request⟩ := p
  cases htarget
  exact ⟨w', request, hplaced, hrequest, hnext.directory, hcopy⟩

/-- If the file is copied, its mutants get in a copy what their tests answer to them. -/
theorem execute_of_copied
    (hrunner : ∀ fs request, a.runner fs request = answer (a.seenSource fs request))
    (hfile : CopiedFile (start.store.inside root) dirs last file folder original)
    {w : Workshop} (hreachable : Yard.Reachable a start (Yard.idle w)) (slot : Nat) (job : Job) :
    (execute a w slot job).2 = ⟨job.place, a.expectedResult answer job.mutation⟩ := by
  obtain ⟨hdirs, hlast⟩ := Path.isComponent_concat_iff.mp hsandboxed.isComponent_place
  obtain ⟨w', request, hplaced, hrequest, hdirectory, hcopy⟩ :=
    exists_placementOf hsandboxed hfirst hway hreachable slot job.mutation
  have hpatchable := patchable_copyPath (hsandboxed.isComponent_copyRoot slot) (by simp [copyRoot])
    hdirs hlast hfile start.directory
  have hrun := hpatchable.runMutant hrunner job.mutation request
    (fun fs content hnow => by
      obtain ⟨hthere, saved, hchanged⟩ := hnow
      exact seenSource_copy hsandboxed hthere hfile hchanged hrequest)
    ⟨hdirectory, none, (isCopy_iff hfile).mp hcopy⟩
  rw [execute]
  dsimp only
  rw [hplaced]
  exact congrArg (JobResult.mk job.place) hrun.2

/-- If the file is not copied, its mutants end in errors. -/
theorem execute_of_not_copied (hignored : (dirs ++ [last]).any isIgnored = true) {w : Workshop}
    (hreachable : Yard.Reachable a start (Yard.idle w)) (slot : Nat) {job : Job} {mutant : String}
    (hmutant : job.mutation.render a.source a.options.strict = .ok mutant) :
    (execute a w slot job).2.result.classification = .error := by
  obtain ⟨hdirs, hlast⟩ := Path.isComponent_concat_iff.mp hsandboxed.isComponent_place
  obtain ⟨w', request, hplaced, -, -, hcopy⟩ :=
    exists_placementOf hsandboxed hfirst hway hreachable slot job.mutation
  have hmissing : ∀ content,
      w'.files.read (copyPath (copyRoot (a.project start) slot) dirs last) ≠ .ok content := by
    intro content hread
    let worker :=
      a.worker job.mutation ⟨copyPath (copyRoot (a.project start) slot) dirs last, request⟩
    obtain ⟨folder, hfile⟩ := SharedTask.exists_copiedFile (t := worker)
      (hsandboxed.isComponent_copyRoot slot) hdirs hlast rfl hcopy hway hread
    have hstored := hfile.stored
    rw [copied, hignored, if_pos rfl] at hstored
    cases hstored
  cases hread : w'.files.read (copyPath (copyRoot (a.project start) slot) dirs last) with
  | error e =>
      have hresult := runMutant_of_unreadable (p := ⟨_, request⟩) hmutant hread
      rw [execute]
      dsimp only
      rw [hplaced]
      exact congrArg MutationResult.classification hresult
  | ok content => exact absurd hread (hmissing content)

end Copies

section Runs

variable (hworkers : a.options.workers = 1)
variable (hsandboxed : Sandboxed a start root (dirs ++ [last]))
variable (hfirst : Text.startsWith ".." ((dirs ++ [last]).headD "") = false)
variable (hregular : (start.store.inside root).IsRegular)

include hworkers hsandboxed hfirst hregular

/-- In a sandbox, every mutant of a file that is copied gets what its tests answer to it. -/
theorem results_runJobs_in_copy
    (hcopied : copied (start.store.inside root) (dirs ++ [last]) = some (.file original))
    (hrunner : ∀ fs request, a.runner fs request = answer (a.seenSource fs request))
    (jobs : List Job) : (runJobs a start jobs).results = expectedResults a answer jobs := by
  obtain ⟨folder, hfile⟩ :=
    exists_copiedFile_of_isRegular hregular hsandboxed.isComponent_place hcopied
  have hway := Yard.way_of_isRegular hsandboxed hregular (copied_eq_some_iff.mp hcopied).2
  apply results_runJobs hworkers (Traced a start jobs)
  · intro w job hjob hw
    refine ⟨hw.execute hsandboxed.isolation 0 hjob, ?_⟩
    exact execute_of_copied hsandboxed hfirst hway hrunner hfile hw.reachable 0 job
  · exact traced_initial

/-- In a sandbox, every mutant of a file that is not copied ends in an error. -/
theorem forall₂_runJobs_not_copied (hignored : (dirs ++ [last]).any isIgnored = true)
    (hstored : start.store.inside root (dirs ++ [last]) = some (.file original))
    (jobs : List Job) :
    List.Forall₂
      (fun job result => ∀ mutant, job.mutation.render a.source a.options.strict = .ok mutant →
        result.result.classification = .error)
      jobs (runJobs a start jobs).results := by
  have hway := Yard.way_of_isRegular hsandboxed hregular hstored
  apply forall₂_runJobs hworkers (Traced a start jobs)
  · intro w job hjob hw
    refine ⟨hw.execute hsandboxed.isolation 0 hjob, fun mutant hmutant => ?_⟩
    exact execute_of_not_copied hsandboxed hfirst hway hignored hw.reachable 0 hmutant
  · exact traced_initial

end Runs

end Sandbox

section Agreement

variable {a : Assignment} {start : FileSystem} {root : Address} {dirs : List String}
variable {last : String} {original : Bytes}

theorem PlainSource.isolated (hplain : PlainSource a start root dirs last original)
    (isolation : Isolation) : PlainSource (a.isolated isolation) start root dirs last original :=
  ⟨hplain.absolute, hplain.project, hplain.regular, hplain.named, hplain.stored,
    hplain.project_path, hplain.source_path⟩

/-- One worker gives each mutation the same result in the project and in a sandbox, whatever its
tests answer to the content of the file, if the file is copied.  If it is not copied, each mutant
that can be written out ends in an error in the sandbox, and in the project gets what its tests
answer. -/
theorem isolation_modes_agree (a : Assignment) (start : FileSystem) (root : Address)
    (dirs : List String) (last : String) (original : Bytes)
    (answer : Except FileError Bytes → Except RunFailure Nat) (hworkers : a.options.workers = 1)
    (hplain : PlainSource a start root dirs last original)
    (hsandboxed : Sandboxed (a.isolated .sandbox) start root (dirs ++ [last]))
    (hrunner : ∀ fs request, a.runner fs request = answer (a.seenSource fs request))
    (hfirst : Text.startsWith ".." ((dirs ++ [last]).headD "") = false)
    (hunobstructed : Unobstructed (start.store.inside root) dirs last) (jobs : List Job) :
    (runJobs (a.isolated .lock) start jobs).results = expectedResults a answer jobs ∧
      ((dirs ++ [last]).any isIgnored = false →
        (runJobs (a.isolated .sandbox) start jobs).results =
          (runJobs (a.isolated .lock) start jobs).results) ∧
      ((dirs ++ [last]).any isIgnored = true →
        List.Forall₂
          (fun job result => ∀ mutant,
            job.mutation.render a.source a.options.strict = .ok mutant →
              result.result.classification = .error)
          jobs (runJobs (a.isolated .sandbox) start jobs).results) := by
  have hlock : (runJobs (a.isolated .lock) start jobs).results = expectedResults a answer jobs :=
    results_runJobs_in_place (a := a.isolated .lock) rfl hworkers (hplain.isolated .lock)
      hunobstructed hrunner jobs
  refine ⟨hlock, fun hkept => ?_, fun hignored => ?_⟩
  · have hcopied := copied_eq_some_iff.mpr ⟨hkept, hplain.stored⟩
    rw [hlock]
    exact results_runJobs_in_copy (a := a.isolated .sandbox) hworkers hsandboxed hfirst
      hplain.regular hcopied hrunner jobs
  · exact forall₂_runJobs_not_copied (a := a.isolated .sandbox) hworkers hsandboxed hfirst
      hplain.regular hignored hplain.stored jobs

end Agreement

/-- Tests that fail if the file holds `a - b`. -/
def rejectDifference : Except FileError Bytes → Except RunFailure Nat
  | .ok content => .ok (if content = encoded "a - b" then 1 else 0)
  | .error _ => .ok 0

/-- The mutant `a - b`, with tests that look at it. -/
def watchedDifference (path : Path) : Assignment :=
  (sandboxedDifference path).watching rejectDifference

theorem plainSource_projectOf {path : Path} {dirs : List String} {last : String} {original : Bytes}
    {entries : List (Address × Entry)} (hdistinct : (projectOf entries).store.Distinct)
    (habove : ∀ e ∈ (projectOf entries).store.entries,
      (projectOf entries).store.get? e.1.dropLast = some .directory)
    (hlinks : ∀ e ∈ (projectOf entries).store.entries, ∀ target, e.2 ≠ .link target)
    (hnames : ∀ e ∈ (projectOf entries).store.entries, ∀ name ∈ e.1, IsComponent name)
    (hstored : (projectOf entries).store.inside ["p"] (dirs ++ [last]) = some (.file original))
    (hjoin : Path.join "/p" path = pathOf ("p" :: (dirs ++ [last]))) :
    PlainSource (watchedDifference path) (projectOf entries) ["p"] dirs last original where
  absolute := by
    show Path.isAbsolute "/p" = true
    decide
  project := by
    rw [project_projectOf rfl]
    exact locate_projectOf entries
  regular := Contents.isRegular_inside hdistinct habove hlinks
  named := fun _ _ => Contents.isComponent_of_inside hdistinct hnames
  stored := hstored
  project_path := by
    rw [project_projectOf rfl, Path.names_pathOf (by decide)]
  source_path := by
    rw [project_projectOf rfl, Path.names_pathOf (by decide)]
    exact hjoin

theorem isolated_watchedDifference (path : Path) :
    (watchedDifference path).isolated .sandbox = watchedDifference path :=
  (watchedDifference path).isolated_self

/-- A project with a file and compiled files of it. -/
def compiledFile : FileSystem :=
  projectOf [(["p", "a.py"], .file (encoded "a + b")), (["p", "__pycache__"], .directory),
    (["p", "__pycache__", "b.x.pyc"], .file [])]

theorem plainSource_compiledFile :
    PlainSource (watchedDifference "a.py") compiledFile ["p"] [] "a.py" (encoded "a + b") :=
  plainSource_projectOf (by decide) (by decide) (by simp [projectOf]) (by decide) (by decide)
    (by decide)

theorem sandboxed_compiledFile : Sandboxed ((watchedDifference "a.py").isolated .sandbox)
    compiledFile ["p"] ([] ++ ["a.py"]) := by
  rw [isolated_watchedDifference]
  exact (sandboxed_projectOf (by decide) (by decide) (by decide) (by decide)).with_runner _

theorem unobstructed_compiledFile : Unobstructed (compiledFile.store.inside ["p"]) [] "a.py" where
  backup := by decide
  compiled := by
    intro name _ hdirectory
    have hentry := (Store.get?_eq_some_iff (by decide) (by simp)).mp hdirectory
    simp [compiledFile, projectOf] at hentry

/-- A mutant is found in the project and in a sandbox. -/
theorem difference_killed_in_both_modes :
    let a := watchedDifference "a.py"
    let jobs := [differenceJob "a.py"]
    (runJobs (a.isolated .sandbox) compiledFile jobs).results =
        (runJobs (a.isolated .lock) compiledFile jobs).results ∧
      (runJobs (a.isolated .lock) compiledFile jobs).results.map (·.result.classification) =
        [.killed] := by
  intro a jobs
  obtain ⟨hlock, hagree, -⟩ := isolation_modes_agree (watchedDifference "a.py") compiledFile ["p"]
    [] "a.py" (encoded "a + b") rejectDifference rfl plainSource_compiledFile sandboxed_compiledFile
    (Assignment.runner_watching _ _) (by decide) unobstructed_compiledFile
    [differenceJob "a.py"]
  refine ⟨hagree (by decide), ?_⟩
  rw [hlock]
  decide +kernel

/-- A project with a file in a directory that is not copied. -/
def installedFile : FileSystem :=
  projectOf [(["p", "venv"], .directory), (["p", "venv", "a.py"], .file (encoded "a + b"))]

theorem plainSource_installedFile : PlainSource (watchedDifference "venv/a.py") installedFile ["p"]
    ["venv"] "a.py" (encoded "a + b") :=
  plainSource_projectOf (by decide) (by decide) (by simp [projectOf]) (by decide) (by decide)
    (by decide)

theorem sandboxed_installedFile : Sandboxed ((watchedDifference "venv/a.py").isolated .sandbox)
    installedFile ["p"] (["venv"] ++ ["a.py"]) := by
  rw [isolated_watchedDifference]
  exact (sandboxed_projectOf (by decide) (by decide) (by decide) (by decide)).with_runner _

/-- A mutant of a file that is not copied is found in the project, and ends in an error in a
sandbox. -/
theorem uncopied_file_fails_in_sandbox :
    ¬ ∀ (a : Assignment) (start : FileSystem) (root : Address) (dirs : List String)
      (last : String) (original : Bytes) (answer : Except FileError Bytes → Except RunFailure Nat),
      a.options.workers = 1 → PlainSource a start root dirs last original →
      Sandboxed (a.isolated .sandbox) start root (dirs ++ [last]) →
      (∀ fs request, a.runner fs request = answer (a.seenSource fs request)) → ∀ jobs,
        (runJobs (a.isolated .lock) start jobs).results.map (·.result.classification) =
          (runJobs (a.isolated .sandbox) start jobs).results.map (·.result.classification) := by
  intro hevery
  have hagree := hevery (watchedDifference "venv/a.py") installedFile ["p"] ["venv"] "a.py"
    (encoded "a + b") rejectDifference rfl plainSource_installedFile sandboxed_installedFile
    (Assignment.runner_watching _ _) [differenceJob "venv/a.py"]
  have hlock : (runJobs ((watchedDifference "venv/a.py").isolated .lock) installedFile
      [differenceJob "venv/a.py"]).results.map (·.result.classification) = [.killed] := by
    decide +kernel
  have hsandbox : (runJobs ((watchedDifference "venv/a.py").isolated .sandbox) installedFile
      [differenceJob "venv/a.py"]).results.map (·.result.classification) = [.error] := by
    decide +kernel
  rw [hlock, hsandbox] at hagree
  cases hagree

end MutationTesting.Run
