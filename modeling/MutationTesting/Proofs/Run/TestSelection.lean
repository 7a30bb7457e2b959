import MutationTesting.Proofs.Dependencies.Imports
import MutationTesting.Proofs.Run.RunResults
import MutationTesting.Proofs.Run.SandboxRuns

/-!
# Which tests a mutant is run against

The runner is asked to run the tests that refer to the module of the mutated file, or else all tests.
Every test with an import of the module is among them.  They come in ascending order, each once.
-/

namespace MutationTesting.Run

open MutationTesting.Files
open MutationTesting.Dependencies
open MutationTesting.Settings (RunConfig)
open MutationTesting.Testing (TestRun)

namespace Assignment

variable {a : Assignment} {m : Mutation} {module test : String}

theorem pairwise_lt_testsFor (a : Assignment) (m : Mutation) :
    (a.testsFor m).Pairwise (· < ·) := by
  rw [testsFor]
  split
  · exact Text.pairwise_lt_sortedSet _
  · rw [DependencyMap.testsForMutation]
    split
    · exact List.Pairwise.nil
    · exact Text.pairwise_lt_sortedSet _

/-- If there is a test for the module of a mutation, just the tests of that module are run. -/
theorem mem_testsFor_of_mem_pairs (hmodule : a.moduleOf m.filePath = some module)
    (htest : (module, test) ∈ a.dependencies.pairs) (other : String) :
    other ∈ a.testsFor m ↔ (module, other) ∈ a.dependencies.pairs := by
  have hfor : a.dependencies.testsForMutation a.moduleOf m = a.dependencies.testsFor module := by
    rw [DependencyMap.testsForMutation, hmodule]
  rw [testsFor, hfor, ← DependencyMap.mem_testsFor]
  split
  next hnone =>
      rw [← DependencyMap.mem_testsFor, hnone] at htest
      cases htest
  next => exact Iff.rfl

theorem mem_testsFor_of_forall_not_mem
    (hnone : ∀ module, a.moduleOf m.filePath = some module →
      ∀ test, (module, test) ∉ a.dependencies.pairs) (other : String) :
    other ∈ a.testsFor m ↔ other ∈ a.fallbackTests := by
  have hempty : a.dependencies.testsForMutation a.moduleOf m = [] := by
    rw [DependencyMap.testsForMutation]
    split
    next => rfl
    next module hmodule =>
        rw [List.eq_nil_iff_forall_not_mem]
        intro test htest
        exact hnone module hmodule test (DependencyMap.mem_testsFor.mp htest)
  rw [testsFor, hempty, Text.mem_sortedSet]

end Assignment

theorem moduleOf_path {files : List SourceFile} (hpaths : (files.map SourceFile.path).Nodup)
    {file : SourceFile} (hfile : file ∈ files) : moduleOf files file.path = file.moduleId := by
  suffices hfound : files.find? (fun other => other.path == file.path) = some file by
    rw [moduleOf, hfound, Option.bind_some]
  induction files with
  | nil => cases hfile
  | cons first rest ih =>
      obtain ⟨hfirst, hrest⟩ := List.nodup_cons.mp hpaths
      rcases List.mem_cons.mp hfile with rfl | hlater
      · rw [List.find?_cons_of_pos (by simp)]
      · have hother : first.path ≠ file.path := fun heq =>
          hfirst (heq ▸ List.mem_map_of_mem hlater)
        rw [List.find?_cons_of_neg (by simpa using hother)]
        exact ih hrest hlater

theorem filePath_of_mem_jobsOf {selected : List Optimizer.Candidate} {file : SourceFile} {job : Job}
    (hjob : job ∈ jobsOf selected file) : job.mutation.filePath = file.path := by
  obtain ⟨candidate, hcandidate, rfl⟩ := List.mem_map.mp hjob
  simpa using (List.mem_filter.mp hcandidate).2

/-- The requests that the runner may get for a job of a file, whatever other workers have done to the
files before. -/
def Plan.MayAsk (p : Plan) (file : SourceFile) (job : Job) (request : TestRun) : Prop :=
  ∃ options slot w o, poolOptions p.config p.root = .ok options ∧
    o ∈ (execute (p.assignment options file) w slot job).1.observations ∧ o ∉ w.observations ∧
      o.request = request

/-- Workers that share the file ask for the tests of their mutation. -/
theorem tests_of_mayAsk {p : Plan} {file : SourceFile} {job : Job} {request : TestRun}
    (hasks : p.MayAsk file job request) (hlock : p.config.isolation = .lock) :
    ∃ options, request.tests = (p.assignment options file).testsFor job.mutation := by
  obtain ⟨options, slot, w, o, hoptions, ho, hnew, rfl⟩ := hasks
  obtain ⟨_, -, -, -, hisolation⟩ := exists_workers_of_poolOptions hoptions
  refine ⟨options, ?_⟩
  have hshared : (p.assignment options file).options.isolation = .lock := hisolation.trans hlock
  rw [execute, placementOf, hshared] at ho
  dsimp only at ho
  rcases exists_iterate_work_of_mem_observations _ _ _ _ ho with hbefore | ⟨_, hrequest, -⟩
  · exact absurd hbefore hnew
  · rw [hrequest]

/-- Whenever a pool asks the runner, it does so for one of its jobs. -/
theorem exists_job_of_mem_runJobs {a : Assignment} {fs : FileSystem} {jobs : List Job}
    {o : Observation} (ho : o ∈ (runJobs a fs jobs).observations) :
    ∃ job ∈ jobs, ∃ slot w, o ∈ (execute a w slot job).1.observations ∧ o ∉ w.observations := by
  -- an observation is due to the first job before which it had not been made
  let asked (w : Workshop) : Prop := ∀ o ∈ w.observations, ∃ job ∈ jobs, ∃ slot w,
    o ∈ (execute a w slot job).1.observations ∧ o ∉ w.observations
  have hkeeps : ∀ w slot job, job ∈ jobs → asked w → asked (execute a w slot job).1 := by
    intro w slot job hjob hw other hother
    by_cases hbefore : other ∈ w.observations
    · exact hw other hbefore
    · exact ⟨job, hjob, slot, w, hother, hbefore⟩
  have hall : asked (Coordinator.runAll (execute a) (fun _ => 0) a.options.workers ⟨fs, [], []⟩
      jobs).1 :=
    Coordinator.run_induction asked (· ∈ jobs) (fun _ => 0) hkeeps (by simp [asked]) (fun _ => id)
      (by simp [Coordinator.initial])
  exact hall o ho

theorem exists_mayAsk_of_runFiles {p : Plan} {done completed : Completed} {files : List SourceFile}
    (hrun : p.runFiles done files = .ok completed) :
    ∀ o ∈ completed.observations, o ∈ done.observations ∨
      ∃ file ∈ files, ∃ job ∈ jobsOf p.selected file, p.MayAsk file job o.request := by
  induction files generalizing done with
  | nil =>
      cases hrun
      exact fun o ho => Or.inl ho
  | cons file rest ih =>
      have hlater : ∀ {o : Observation},
          (∃ file ∈ rest, ∃ job ∈ jobsOf p.selected file, p.MayAsk file job o.request) →
            ∃ other ∈ file :: rest, ∃ job ∈ jobsOf p.selected other, p.MayAsk other job o.request :=
        fun ⟨other, hother, hasks⟩ => ⟨other, List.mem_cons_of_mem file hother, hasks⟩
      intro o ho
      rw [Plan.runFiles] at hrun
      split at hrun
      next => exact (ih hrun o ho).imp_right hlater
      next =>
          obtain ⟨options, hoptions, hrun⟩ := bind_eq_ok_iff.mp hrun
          rcases ih hrun o ho with hbefore | hrest
          · rcases List.mem_append.mp hbefore with hdone | hnow
            · exact Or.inl hdone
            · obtain ⟨job, hjob, slot, w, hasked, hnew⟩ := exists_job_of_mem_runJobs hnow
              exact Or.inr ⟨file, List.mem_cons_self, job, hjob, options, slot, w, o, hoptions,
                hasked, hnew, rfl⟩
          · exact Or.inr (hlater hrest)

/-- Workers that share the file have tests run in ascending order, each once, and among them every test
that imports the module of the file, wherever in the test the import stands.  Without a module, or
without a test that refers to it, they have all tests run.  Every request of a run is such a request. -/
theorem importing_tests_are_run :
    (∀ (c : RunConfig) (s : Surroundings) (scope : Scope) (found : List Mutation) (p : Plan),
      Plans c s scope found p → c.isolation = .lock →
        ∀ file ∈ p.files, ∀ job ∈ jobsOf p.selected file, ∀ request, p.MayAsk file job request →
          request.tests.Pairwise (· < ·) ∧
          (∀ module, file.moduleId = some module → ∀ test ∈ p.tests, ∀ source tree,
            Discovery.readTree? s.files test = some (source, tree) →
              (∃ n ∈ tree.nodes, Imports module n) → test ∈ request.tests) ∧
          ((∀ module, file.moduleId = some module → ∀ test ∈ p.tests,
              ¬ RefersTo s.files (some (knownModules p.files)) test module) →
            ∀ test, test ∈ request.tests ↔ test ∈ p.tests)) ∧
      ∀ (c : RunConfig) (s : Surroundings) (scope : Scope) (outcome : Outcome),
        runProject c s scope = .ok outcome →
          ∃ found p, Plans c s scope found p ∧
            ∀ o ∈ outcome.completed.observations, ∃ file ∈ p.files,
              ∃ job ∈ jobsOf p.selected file, p.MayAsk file job o.request := by
  constructor
  · intro c s scope found p hplans hlock file hfile job hjob request hasks
    rw [← hplans.config_eq] at hlock
    obtain ⟨options, htests⟩ := tests_of_mayAsk hasks hlock
    have hmodule : moduleOf p.files job.mutation.filePath = file.moduleId := by
      rw [filePath_of_mem_jobsOf hjob, moduleOf_path hplans.nodup_paths hfile]
    have hpairs : ∀ module test, (module, test) ∈ p.dependencies.pairs ↔
        test ∈ p.tests ∧ RefersTo s.files (some (knownModules p.files)) test module := by
      intro module test
      rw [hplans.dependencies_eq, mem_pairs_analyze]
    rw [htests]
    -- which tests are chosen depends on the pairs of the dependency map for this module only
    refine ⟨Assignment.pairwise_lt_testsFor _ _, ?_, ?_⟩
    · intro module hname test htest source tree hread ⟨n, hn, himports⟩
      have hdotted := isDottedName_of_mem_loadFiles hplans.files_loaded hfile hname
      have hrefers : (module, test) ∈ p.dependencies.pairs :=
        (hpairs module test).mpr
          ⟨htest, source, tree, hread, mem_references_of_imports hdotted hn himports _⟩
      exact (Assignment.mem_testsFor_of_mem_pairs (hmodule.trans hname) hrefers test).mpr hrefers
    · intro hnone
      refine Assignment.mem_testsFor_of_forall_not_mem fun module hname test hpair => ?_
      obtain ⟨htest, hrefers⟩ := (hpairs module test).mp hpair
      exact hnone module (hmodule.symm.trans hname) test htest hrefers
  · intro c s scope outcome hrun
    obtain ⟨found, p, hplans, hfiles, -, -⟩ := exists_plan_of_runProject hrun
    refine ⟨found, p, hplans, fun o ho => ?_⟩
    exact (exists_mayAsk_of_runFiles hfiles o ho).resolve_left List.not_mem_nil

theorem exists_mayAsk_of_execute {p : Plan} {file : SourceFile} {job : Job} {options : PoolOptions}
    {fs : FileSystem} (hoptions : poolOptions p.config p.root = .ok options)
    (hasked : (execute (p.assignment options file) ⟨fs, [], []⟩ 0 job).1.observations ≠ []) :
    ∃ request, p.MayAsk file job request := by
  obtain ⟨o, ho⟩ := List.exists_mem_of_ne_nil _ hasked
  exact ⟨o.request, options, 0, _, o, hoptions, ho, List.not_mem_nil, rfl⟩

/-- The statement `import b` of a test. -/
def importOfB : Tree :=
  .node .importStatement 2 [.list [.node .alias 2 [.text "b", .absent]]]

/-- A test that imports a module within a function. -/
def testOfB : Tree :=
  let arguments : Tree := .node .arguments 0
    [.list [], .list [], .absent, .list [], .list [], .absent, .list []]
  .node .module 0 [.list [.node .functionDef 1
    [.text "f", arguments, .list [importOfB], .list [], .absent]]]

/-- The test of one module is run for its mutant.  No test refers to the other module, so both are run
for its mutant. -/
theorem importing_test_run_for_its_module :
    (∃ job ∈ jobsOf planOfModules.selected moduleB, ∃ request,
      planOfModules.MayAsk moduleB job request ∧ "/tests/test_b.py" ∈ request.tests) ∧
      ∃ job ∈ jobsOf planOfModules.selected moduleA, ∃ request,
        planOfModules.MayAsk moduleA job request ∧ request.tests.Pairwise (· < ·) ∧
          ∀ test, test ∈ request.tests ↔ test ∈ ["/tests/test_b.py", "/tests/test_x.py"] := by
  have hrun := importing_tests_are_run.1 _ _ _ _ _ plans_planOfModules rfl
  constructor
  · have hasked : ∃ job ∈ jobsOf planOfModules.selected moduleB,
        (execute (planOfModules.assignment singleWorker moduleB) ⟨twoModules.files, [], []⟩ 0
          job).1.observations ≠ [] := by decide +kernel
    obtain ⟨job, hjob, hobserved⟩ := hasked
    obtain ⟨request, hasks⟩ := exists_mayAsk_of_execute poolOptions_overlappingNames hobserved
    obtain ⟨-, himporting, -⟩ := hrun moduleB List.mem_cons_self job hjob request hasks
    have hread : Discovery.readTree? twoModules.files "/tests/test_b.py" =
        some ("def f():\n import b\n", testOfB) := by decide +kernel
    exact ⟨job, hjob, request, hasks, himporting "b" rfl _ List.mem_cons_self _ _ hread
      ⟨importOfB, by decide +kernel, .whole List.mem_cons_self⟩⟩
  · have hasked : ∃ job ∈ jobsOf planOfModules.selected moduleA,
        (execute (planOfModules.assignment singleWorker moduleA) ⟨twoModules.files, [], []⟩ 0
          job).1.observations ≠ [] := by decide +kernel
    obtain ⟨job, hjob, hobserved⟩ := hasked
    obtain ⟨request, hasks⟩ := exists_mayAsk_of_execute poolOptions_overlappingNames hobserved
    obtain ⟨hsorted, -, hall⟩ :=
      hrun moduleA (List.mem_cons_of_mem _ List.mem_cons_self) job hjob request hasks
    refine ⟨job, hjob, request, hasks, hsorted, hall ?_⟩
    rintro module hmodule test htest hrefers
    cases hmodule
    have hpair := mem_pairs_analyze.mpr ⟨htest, hrefers⟩
    rw [← plans_planOfModules.dependencies_eq] at hpair
    simp [planOfModules] at hpair

end MutationTesting.Run
