import MutationTesting.Proofs.Run.FloorRuns
import MutationTesting.Proofs.Run.SteadyProject

/-!
# Failures are contained

A mutant that cannot be written out, put in place or tested gets a result that says so, and the
other mutants do not notice.  This holds for any number of workers, whether they share the file or
each of them has a copy, and whatever files are in their way.
-/

namespace MutationTesting.Run

open MutationTesting.Files
open MutationTesting.Files.FileSystem (pathOf)
open MutationTesting.Files.Path (IsComponent)
open MutationTesting.Testing
open Relation (ReflTransGen)

section Copies

variable {a : Assignment} {start : FileSystem} {root : Address} {dirs : List String}
variable {last : String} {original : Bytes}

/-- A file with an ignored name on its way is not found in a copy. -/
theorem read_copyPath_of_ignored {c : Contents} {fs : FileSystem} {copy : Address}
    (hcopy : IsCopy c fs.store copy) (hregular : c.IsRegular)
    (hroot : ∀ name ∈ copy, IsComponent name) (hnames : ∀ name ∈ dirs ++ [last], IsComponent name)
    (hstored : c (dirs ++ [last]) = some (.file original))
    (hignored : (dirs ++ [last]).any isIgnored = true) :
    fs.read (copyPath copy dirs last) = .error .notFound := by
  rw [List.any_eq_true, ← List.find?_isSome] at hignored
  obtain ⟨name, hname⟩ := Option.isSome_iff_exists.mp hignored
  obtain ⟨hfound, front, rest, hplace, hbefore⟩ := List.find?_eq_some_iff_append.mp hname
  have hcopied : front.any isIgnored = false := by
    rw [List.any_eq_false]
    simpa using hbefore
  rw [hplace] at hstored hnames
  rw [copyPath, hplace, ← List.append_assoc]
  refine FileSystem.read_of_missing (List.append_assoc copy front _ ▸
    List.forall_mem_append.mpr ⟨hroot, hnames⟩) (fun upper hupper hunder => ?_) ?_
  · rcases List.prefix_or_prefix_of_prefix hunder (List.prefix_append copy front) with
      habove | ⟨below, rfl⟩
    · exact hcopy.above upper hupper habove
    · obtain ⟨more, rfl⟩ := (List.prefix_append_right_inj copy).mp hunder
      refine hcopy.kept below _ (copied_eq_some_iff.mpr ⟨?_, ?_⟩)
      · rw [List.any_append, Bool.or_eq_false_iff] at hcopied
        exact hcopied.1
      · rw [List.append_assoc] at hstored
        exact hregular.directory (by simp) hstored
  · rw [List.append_assoc]
    exact hcopy.left_out _ (by simp [hfound])

variable (hsandboxed : Sandboxed a start root (dirs ++ [last]))
variable (hinside : Text.startsWith ".." ((dirs ++ [last]).headD "") = false)
variable (hregular : (start.store.inside root).IsRegular)
variable (hstored : start.store.inside root (dirs ++ [last]) = some (.file original))

include hsandboxed hinside hregular hstored

/-- Nothing is in the way of a file that is copied. -/
theorem exists_separate_of_copied (hcopied : (dirs ++ [last]).any isIgnored = false) :
    ∃ Holds, Floor.Separate a start {} root dirs last original Holds := by
  obtain ⟨folder, hfile⟩ := exists_copiedFile_of_isRegular hregular hsandboxed.isComponent_place
    (copied_eq_some_iff.mpr ⟨hcopied, hstored⟩)
  obtain ⟨hdirs, hlast⟩ := Path.isComponent_concat_iff.mp hsandboxed.isComponent_place
  refine ⟨fun slot fs content => fs.directory = start.directory ∧
    ∃ saved, IsChangedCopy (start.store.inside root) fs.store (copyRoot (a.project start) slot)
      (dirs ++ [last]) (backupIn folder last) content saved, ?_⟩
  exact
    { sandboxed := hsandboxed
      inside := hinside
      reached := Yard.way_of_isRegular hsandboxed hregular hstored
      work := fun slot => (patchable_copyPath (hsandboxed.isComponent_copyRoot slot)
        (by simp [copyRoot]) hdirs hlast hfile start.directory).workable
      fresh := fun _ _ hdirectory hcopy => ⟨hdirectory, none, (isCopy_iff hfile).mp hcopy⟩
      congr := by
        rintro slot fs fs' content hdirectory hsame ⟨hthere, saved, hcopy⟩
        exact ⟨hdirectory.trans hthere, saved, hcopy.congr hsame⟩ }

/-- A file that is not copied cannot be read where its copy would be. -/
theorem exists_separate_of_ignored (hignored : (dirs ++ [last]).any isIgnored = true) :
    ∃ Holds, Floor.Separate a start { reading := some .notFound } root dirs last original
      Holds := by
  refine ⟨fun slot fs _ => fs.directory = start.directory ∧
    IsCopy (start.store.inside root) fs.store (copyRoot (a.project start) slot), ?_⟩
  exact
    { sandboxed := hsandboxed
      inside := hinside
      reached := Yard.way_of_isRegular hsandboxed hregular hstored
      work := fun slot =>
        { unread := by
            rintro e ⟨⟩ fs content ⟨-, hcopy⟩
            exact read_copyPath_of_ignored hcopy hregular (hsandboxed.isComponent_copyRoot slot)
              hsandboxed.isComponent_place hstored hignored
          read := fun hreading => by cases hreading
          unsaved := fun _ hreading => by cases hreading
          save := fun hopen => by cases hopen.1
          write := fun hopen => by cases hopen.1
          drop := fun hopen => by cases hopen.1
          clear := fun hopen => by cases hopen.1 }
      fresh := fun _ _ hdirectory hcopy => ⟨hdirectory, hcopy⟩
      congr := by
        rintro slot fs fs' content hdirectory hsame ⟨hthere, hcopy⟩
        exact ⟨hdirectory.trans hthere, hcopy.congr hsame⟩ }

end Copies

section Pools

variable {a : Assignment} {start : FileSystem} {root : Address} {dirs : List String}
variable {last : String} {original : Bytes}

/-- In either kind of isolation, workers decide on each job by its mutation alone. -/
theorem exists_decides (hsource : SourceInProject a start root dirs last original)
    (hsandbox : a.options.isolation = .sandbox →
      Sandboxed a start root (dirs ++ [last]) ∧ ¬ root <+: ["tmp"])
    (responds : FileSystem → TestRun → Except RunFailure Nat → Prop) :
    ∃ h, Floor.Decides a start responds h := by
  cases hisolation : a.options.isolation with
  | lock => exact ⟨_, (shared_of_lock hsource hisolation).decides⟩
  | sandbox =>
      obtain ⟨hsandboxed, hapart⟩ := hsandbox hisolation
      have hregular := hsource.regular
      have hstored := hsource.stored
      cases hfirst : Text.startsWith ".." ((dirs ++ [last]).headD "") with
      | true => exact ⟨_, (shared_of_dots hsource hsandboxed hapart hfirst).decides⟩
      | false =>
          cases hignored : (dirs ++ [last]).any isIgnored with
          | true =>
              obtain ⟨Holds, hseparate⟩ :=
                exists_separate_of_ignored hsandboxed hfirst hregular hstored hignored
              exact ⟨_, hseparate.decides⟩
          | false =>
              obtain ⟨Holds, hseparate⟩ :=
                exists_separate_of_copied hsandboxed hfirst hregular hstored hignored
              exact ⟨_, hseparate.decides⟩

/-- A pool returns one result for each job, whatever goes wrong.  It tells whether the mutation was
refused, how its tests ended, or that something else went wrong.  A mutation without a mutant is not
tested, and its worker writes no file.  If the runner answers to the tests and the content of the
file only, the results of the other jobs are the same without a job. -/
theorem failures_contained_and_classified (a : Assignment) (start : FileSystem) (root : Address)
    (dirs : List String) (last : String) (original : Bytes)
    (responds : FileSystem → TestRun → Except RunFailure Nat → Prop)
    (hworkers : 1 ≤ a.options.workers)
    (hsource : SourceInProject a start root dirs last original)
    (hsandbox : a.options.isolation = .sandbox →
      Sandboxed a start root (dirs ++ [last]) ∧ ¬ root <+: ["tmp"])
    (hruns : ∀ fs request, responds fs request (a.runner fs request)) :
    (∀ jobs d, Dispatch.Reachable (Floor.Delivers a start responds) a.options.workers jobs d →
      d.stage ≠ .returned → ∃ next, Dispatch.Step (Floor.Delivers a start responds) d next) ∧
    (∀ jobs, Floor.Returns a start responds jobs (runJobs a start jobs).results) ∧
    (∀ jobs results, Floor.Returns a start responds jobs results →
      (results.map JobResult.job).Perm jobs ∧
        ∀ result ∈ results, ∃ slot calls,
          Floor.Gives a start responds slot result.job calls result ∧
            Classified (result.result.mutation.render a.source a.options.strict)
              (a.obstacle start result.result.mutation) calls result.result) ∧
    (∀ y, Floor.Reachable a start responds y → ∀ slot t phase, y.turn slot = some t →
      t.phase = some phase → ∀ e, t.mutation.render a.source a.options.strict = .error e →
        ∀ outcome, ((a.worker t.mutation t.placement).advance outcome y.files phase).1 = y.files) ∧
    ∀ answer : List Path → Bytes → Except RunFailure Nat,
      (∀ m p mutant outcome, Floor.Hears a start responds m p mutant outcome →
        outcome = answer (a.testsFor m) (encoded mutant)) →
      ∀ before job after results others,
        Floor.Returns a start responds (before ++ job :: after) results →
        Floor.Returns a start responds (before ++ after) others →
          ∃ result, result.job = job ∧ results.Perm (result :: others) := by
  obtain ⟨h, hdecides⟩ := exists_decides hsource hsandbox responds
  refine ⟨fun jobs d => hdecides.exists_step hworkers hruns,
    hdecides.returns_runJobs hworkers hruns,
    fun jobs results hreturns => ⟨hdecides.jobs_perm hworkers hreturns, fun result hresult => ?_⟩,
    hdecides.unwritten, ?_⟩
  · obtain ⟨slot, calls, hgives⟩ := hdecides.exists_gives hreturns hresult
    exact ⟨slot, calls, hgives, hdecides.classified hgives⟩
  · intro answer hanswer before job after results others hresults hothers
    have hall := hdecides.results_perm hworkers hresults hanswer
    have hrest := hdecides.results_perm hworkers hothers hanswer
    rw [List.map_append, List.map_cons] at hall
    rw [List.map_append] at hrest
    refine ⟨a.settled start answer job, Assignment.job_settled a start answer job, ?_⟩
    exact (hall.trans List.perm_middle).trans (hrest.symm.cons _)

end Pools

/-- A mutant is found in its copy as if the mutation beside it, which does not fit the file, were
not there. -/
theorem killed_beside_stray_mutation :
    let a := watchedDifference "a.py"
    let jobs := [differenceJob "a.py", strayJob "a.py"]
    SourceInProject a compiledFile ["p"] [] "a.py" (encoded "a + b") ∧
      Sandboxed a compiledFile ["p"] ([] ++ ["a.py"]) ∧
      (runJobs a compiledFile jobs).results.map (·.result.classification) = [.killed, .invalid] ∧
      ∀ results,
        Floor.Returns a compiledFile (fun fs request o => o = a.runner fs request) jobs results →
        ∃ result, result.job = strayJob "a.py" ∧
          results.Perm (result :: (runJobs a compiledFile [differenceJob "a.py"]).results) := by
  intro a jobs
  have hsource := plainSource_compiledFile.sourceInProject
  have hsandboxed := sandboxed_compiledFile
  rw [isolated_watchedDifference] at hsandboxed
  obtain ⟨-, hreturns, -, -, hapart⟩ := failures_contained_and_classified a compiledFile ["p"] []
    "a.py" (encoded "a + b") (fun fs request o => o = a.runner fs request) (by decide) hsource
    (fun _ => ⟨hsandboxed, by decide⟩) (fun _ _ => rfl)
  obtain ⟨_, hseparate⟩ := exists_separate_of_copied hsandboxed (by decide) hsource.regular
    hsource.stored (by decide)
  have hwatches : ∀ fs request outcome, outcome = a.runner fs request →
      outcome = rejectDifference (a.seenSource fs request) := fun fs request outcome houtcome =>
    houtcome.trans (Assignment.runner_watching (sandboxedDifference "a.py") _ fs request)
  refine ⟨hsource, hsandboxed, by decide +kernel, fun results hresults => ?_⟩
  exact hapart (fun _ content => rejectDifference (.ok content))
    (fun _ _ _ _ hhears => hseparate.eq_of_hears hwatches hhears)
    [differenceJob "a.py"] (strayJob "a.py") [] results _ hresults (hreturns _)

end MutationTesting.Run
