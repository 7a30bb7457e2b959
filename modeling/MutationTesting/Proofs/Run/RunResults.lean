import Mathlib.Algebra.GroupWithZero.Nat
import MutationTesting.Proofs.Run.Completion
import MutationTesting.Proofs.Run.Plan

/-!
# The results of a run

The pools of a run give their results in any order, and a runner may answer as it likes.  Still every
mutation that is selected has one result, which has one of the five classifications.  Pools of one worker
give the results in the order of the files, and within a file in the order of selection.
-/

namespace MutationTesting.Run

open MutationTesting.Files
open MutationTesting.Settings (RunConfig)
open MutationTesting.Optimizer (Candidate)
open MutationTesting.Testing (Classification MutationResult)

theorem classification_notPatched (m : Mutation) (e : PatchError) :
    (notPatched m e).classification ∈ Classification.all := by
  rcases e with (_ | _ | _) | _ <;> simp [notPatched, failed, Classification.all]

theorem classification_judged (m : Mutation) (outcome : Except Testing.RunFailure Nat) :
    (judged m outcome).classification ∈ Classification.all := by
  rcases outcome with (_ | _ | _) | failures
  · simp [judged, Classification.all]
  · simp [judged, Classification.all]
  · simp [judged, failed, Classification.all]
  · rw [judged, Classification.ofFailures]
    split <;> simp [Classification.all]

/-- The result of a job has one of the classifications of a run, whatever became of its worker. -/
theorem classification_of_delivers {a : Assignment} {slot : Nat} {job : Job} {result : JobResult}
    (hresult : a.Delivers slot job result) :
    result.result.classification ∈ Classification.all := by
  rcases hresult with ⟨w, rfl⟩ | rfl
  · unfold execute
    dsimp only
    split
    · simp [failed, Classification.all]
    next w p _ =>
        rcases runMutant_cases a w job.mutation p with ⟨e, h⟩ | ⟨crash, h⟩ | ⟨outcome, h⟩
        · exact h ▸ classification_notPatched job.mutation e
        · simp [h, failed, Classification.all]
        · exact h ▸ classification_judged job.mutation outcome
  · simp [aborted, Classification.all]

/-- Every result is counted once. -/
theorem sum_counts {results : List MutationResult}
    (hall : ∀ r ∈ results, r.classification ∈ Classification.all) :
    ((Testing.counts results).map Prod.snd).sum = results.length := by
  induction results with
  | nil => rfl
  | cons r rest ih =>
      -- the first result adds one to one of the counts, and nothing to the others
      obtain ⟨hfirst, hrest⟩ := List.forall_mem_cons.mp hall
      have hcounts := ih hrest
      simp only [Testing.counts, Classification.all, Testing.countOf, List.map_cons, List.map_nil,
        List.sum_cons, List.sum_nil, List.countP_cons, List.length_cons] at hcounts ⊢
      cases hr : r.classification with
      | foreign name =>
          rw [hr] at hfirst
          simp [Classification.all] at hfirst
      | _ =>
          simp only [reduceCtorEq, decide_true, decide_false, if_true, Bool.false_eq_true, if_false]
          omega

/-- The results that a worker may give for a job, whatever the runner answers. -/
def Assignment.MayGive (a : Assignment) (slot : Nat) (job : Job) (result : JobResult) : Prop :=
  ∃ runner : Testing.Runner, ({ a with runner } : Assignment).Delivers slot job result

theorem Assignment.job_of_mayGive (a : Assignment) (slot : Nat) (job : Job) (result : JobResult)
    (hresult : a.MayGive slot job result) : result.job = job := by
  obtain ⟨runner, hdelivers⟩ := hresult
  exact job_of_delivers hdelivers

/-- The results that the pools of some files may give, one pool after the other. -/
inductive Plan.Gives (p : Plan) : List SourceFile → List JobResult → Prop
  | nothing : p.Gives [] []
  | skip {file : SourceFile} {rest : List SourceFile} {results : List JobResult}
      (hnone : jobsOf p.selected file = []) (hrest : p.Gives rest results) :
      p.Gives (file :: rest) results
  | pool {file : SourceFile} {rest : List SourceFile} {results : List JobResult}
      {options : PoolOptions} {d : Dispatch Job JobResult}
      (hoptions : poolOptions p.config p.root = .ok options)
      (hreachable : Dispatch.Reachable (p.assignment options file).MayGive options.workers
        (jobsOf p.selected file) d)
      (hreturned : d.stage = .returned) (hrest : p.Gives rest results) :
      p.Gives (file :: rest) (d.results ++ results)

namespace Plan.Gives

variable {p : Plan} {files : List SourceFile} {results : List JobResult}

theorem jobs_perm (hgives : p.Gives files results) :
    (results.map JobResult.job).Perm (files.flatMap (jobsOf p.selected)) := by
  induction hgives with
  | nothing => exact .rfl
  | skip hnone _ ih => rwa [List.flatMap_cons, hnone, List.nil_append]
  | pool hoptions hreachable hreturned _ ih =>
      have hconsistent := hreachable.consistent (one_le_workers_of_poolOptions hoptions)
        (Assignment.job_of_mayGive _)
      rw [List.map_append, List.flatMap_cons]
      exact (Dispatch.results_perm_of_returned hconsistent hreturned).append ih

theorem jobs_eq (hgives : p.Gives files results) (hone : p.config.concurrency.whole? = some 1) :
    results.map JobResult.job = files.flatMap (jobsOf p.selected) := by
  induction hgives with
  | nothing => rfl
  | skip hnone _ ih => rwa [List.flatMap_cons, hnone, List.nil_append]
  | pool hoptions hreachable hreturned _ ih =>
      obtain ⟨workers, hworkers, hpositive, hsame, -⟩ := exists_workers_of_poolOptions hoptions
      cases hone.symm.trans hworkers
      have hconsistent := hreachable.consistent (one_le_workers_of_poolOptions hoptions)
        (Assignment.job_of_mayGive _)
      -- the one worker takes the jobs of a file in turn
      rw [List.map_append, List.flatMap_cons,
        Dispatch.results_eq_of_returned hconsistent hreturned hsame, ih]

theorem classification_mem (hgives : p.Gives files results) :
    ∀ r ∈ results, r.result.classification ∈ Classification.all := by
  induction hgives with
  | nothing => exact List.forall_mem_nil _
  | skip _ _ ih => exact ih
  | pool _ hreachable _ _ ih =>
      rw [List.forall_mem_append]
      refine ⟨fun r hr => ?_, ih⟩
      obtain ⟨slot, job, runner, hresult⟩ :=
        hreachable.delivered r (List.mem_append_right _ hr)
      exact classification_of_delivers hresult

end Plan.Gives

/-- A pool that carries out one job after the other gives results that it may give. -/
theorem exists_dispatch_of_runJobs (a : Assignment) (hworkers : 1 ≤ a.options.workers)
    (fs : FileSystem) (jobs : List Job) :
    ∃ d, Dispatch.Reachable a.MayGive a.options.workers jobs d ∧ d.stage = .returned ∧
      d.results = (runJobs a fs jobs).results := by
  have hsteps := Dispatch.steps_run hworkers a.job_of_mayGive
    (fun state _ _ => ⟨a.runner, Or.inl ⟨state, rfl⟩⟩) (fun _ => 0) jobs.length
    (Workshop.mk fs [] []) (Coordinator.initial a.options.workers jobs)
    (Dispatch.consistent_initial JobResult.job a.options.workers jobs) (Nat.le_refl _)
  exact ⟨_, hsteps, rfl, rfl⟩

/-- Running the files that are left gives results that their pools may give, after those given
before. -/
theorem exists_gives_of_runFiles {p : Plan} {done completed : Completed} {files : List SourceFile}
    (hrun : p.runFiles done files = .ok completed) :
    ∃ results, completed.results = done.results ++ results ∧ p.Gives files results := by
  induction files generalizing done with
  | nil =>
      cases hrun
      exact ⟨[], (List.append_nil _).symm, .nothing⟩
  | cons file rest ih =>
      rw [Plan.runFiles] at hrun
      split at hrun
      next hnone =>
          obtain ⟨results, hresults, hrest⟩ := ih hrun
          exact ⟨results, hresults, .skip hnone hrest⟩
      next =>
          obtain ⟨options, hoptions, hrun⟩ := bind_eq_ok_iff.mp hrun
          obtain ⟨results, hresults, hrest⟩ := ih hrun
          obtain ⟨d, hreachable, hreturned, hpool⟩ :=
            exists_dispatch_of_runJobs (p.assignment options file)
              (one_le_workers_of_poolOptions hoptions) done.files (jobsOf p.selected file)
          refine ⟨d.results ++ results, ?_, .pool hoptions hreachable hreturned hrest⟩
          rw [hresults, hpool, List.append_assoc]

/-- The results of a run are about the mutations that it selects, one about each. -/
theorem Plan.Gives.perm_selected {c : RunConfig} {s : Surroundings} {scope : Scope}
    {found : List Mutation} {p : Plan} {results : List JobResult}
    (hplans : Plans c s scope found p) (hgives : p.Gives p.files results) :
    (results.map JobResult.job).Perm
      (p.selected.map fun candidate => Job.mk candidate.place candidate.mutation) :=
  hgives.jobs_perm.trans hplans.flatMap_jobsOf_perm

/-- Whatever the runner answers and in whatever order the workers are done, every selected mutation has
exactly one result, each result is counted under one of the classifications, and no file is loaded twice.
With a single worker the results come file after file.  A run that returns is such a run, and its total
is the number of mutations found in the files loaded. -/
theorem selected_mutations_have_one_result_each :
    (∀ (c : RunConfig) (s : Surroundings) (scope : Scope) (found : List Mutation) (p : Plan)
      (results : List JobResult), Plans c s scope found p → p.Gives p.files results →
        (p.selected.map Candidate.place).Nodup ∧
        (∀ candidate ∈ p.selected, candidate.StandsFor found) ∧
        (results.map JobResult.job).Perm
          (p.selected.map fun candidate => Job.mk candidate.place candidate.mutation) ∧
        results.length = p.selected.length ∧
        ((Testing.counts (results.map JobResult.result)).map Prod.snd).sum = p.selected.length ∧
        (p.files.map SourceFile.path).Nodup ∧
        (c.concurrency.whole? = some 1 →
          results.map JobResult.job = p.files.flatMap (jobsOf p.selected))) ∧
      ∀ (c : RunConfig) (s : Surroundings) (scope : Scope) (outcome : Outcome),
        runProject c s scope = .ok outcome →
          ∃ found p, Plans c s scope found p ∧ p.Gives p.files outcome.completed.results ∧
            outcome.files = p.files.map SourceFile.path ∧
            outcome.totalMutations = found.length := by
  constructor
  · intro c s scope found p results hplans hgives
    have hjobs := hgives.perm_selected hplans
    have hlength : results.length = p.selected.length := by simpa using hjobs.length_eq
    have hclassified : ∀ r ∈ results.map JobResult.result, r.classification ∈ Classification.all :=
      List.forall_mem_map.mpr hgives.classification_mem
    have hcounted := sum_counts hclassified
    rw [List.length_map, hlength] at hcounted
    refine ⟨hplans.nodup_places, hplans.standsFor, hjobs, hlength, hcounted, hplans.nodup_paths,
      fun hone => hgives.jobs_eq ?_⟩
    rwa [hplans.config_eq]
  · intro c s scope outcome hrun
    obtain ⟨found, p, hplans, hfiles, hpaths, htotal⟩ := exists_plan_of_runProject hrun
    obtain ⟨results, hresults, hgives⟩ := exists_gives_of_runFiles hfiles
    rw [List.nil_append] at hresults
    exact ⟨found, p, hplans, hresults ▸ hgives, hpaths, htotal⟩

/-- Two modules, `a < b` and `c == d`, and two tests, of which one imports the second module. -/
def twoModules : Surroundings where
  files := ⟨⟨[(["a.py"], .file [97, 60, 98, 10]), (["b.py"], .file [99, 61, 61, 100, 10]),
    (["tests"], .directory),
    (["tests", "test_b.py"], .file [100, 101, 102, 32, 102, 40, 41, 58, 10, 32, 105, 109, 112, 111,
      114, 116, 32, 98, 10]),
    (["tests", "test_x.py"], .file [120, 10])]⟩, "/"⟩
  searchPath := []
  environment := []
  runner := fun _ _ => .ok 0

/-- Three names, of which the first two are those of one file. -/
def overlappingNames : RunConfig where
  paths := .texts ["b.py", "./b.py", "a.py"]
  exclude := .list []
  testDirectory := .text "tests"
  strategies := .texts ["comparison"]
  concurrency := .whole 1
  timeout := .whole 5
  optimize := .flag false
  level := .balanced
  minComplexity := .absent
  maxPerFunction := .absent
  maxMutations := some (.whole 2)
  isolation := .lock
  testCommand := .absent
  environmentName := .text "test"

/-- The program that compares two names. -/
def comparisonOf (left : String) (op : Comparator) (right : String) : Tree :=
  let name (text : String) : Tree := .node .name 1 [.text text, .node (.usage .load) 0 []]
  .node .module 0 [.list [.node .expressionStatement 1 [.node .compare 1
    [name left, .list [.node (.comparator op) 0 []], .list [name right]]]]]

def moduleA : SourceFile := ⟨"/a.py", comparisonOf "a" .lt "b", some "a", "a<b\n"⟩

def moduleB : SourceFile := ⟨"/b.py", comparisonOf "c" .eq "d", some "b", "c==d\n"⟩

/-- The mutations of both comparisons. -/
def foundInModules : List Mutation :=
  [moduleB, moduleA].flatMap fun file =>
    match file.tree with
    | .node _ _ [.list [.node kind line [comparison]]] =>
      Catalog.comparison ⟨file.path, [⟨file.tree, 0, 0⟩, ⟨.node kind line [comparison], 0, 0⟩]⟩
        comparison
    | _ => []

def planOfModules : Plan :=
  ⟨overlappingNames, none, twoModules, [moduleB, moduleA], (Optimizer.score foundInModules).take 2,
    ["/tests/test_b.py", "/tests/test_x.py"], ⟨[("b", "/tests/test_b.py")]⟩⟩

theorem testsBelow_twoModules :
    testsBelow twoModules.files "tests" = ["/tests/test_b.py", "/tests/test_x.py"] := by
  have hdirectory : twoModules.files.isDirectory "tests" = true := by decide +kernel
  have hfound : (Glob.expand twoModules.files (Discovery.allSources "tests")).filter
      Discovery.holdsTests = ["tests/test_b.py", "tests/test_x.py"] := by decide +kernel
  rw [testsBelow, if_pos hdirectory, Discovery.testFiles, hfound,
    Text.sortedSet_of_pairwise_lt (by decide)]
  decide +kernel

theorem plans_planOfModules :
    Plans overlappingNames twoModules ⟨[], none⟩ foundInModules planOfModules where
  files_loaded := by decide +kernel
  mutations_found := ⟨[.comparison], by rfl, by rfl⟩
  first_selected := ⟨{ enabled := false }, by rfl, by rfl⟩
  tests_found := ⟨"tests", rfl, testsBelow_twoModules.symm⟩
  dependencies_eq := by decide +kernel
  config_eq := rfl
  root_eq := rfl
  surroundings_eq := rfl

/-- The options of the pools of this run. -/
def singleWorker : PoolOptions := ⟨1, .whole 5, { environmentName := "test" }, .lock, false⟩

theorem poolOptions_overlappingNames : poolOptions overlappingNames none = .ok singleWorker := by rfl

/-- Two of three mutations are selected, one of each module, and each is tested once. -/
theorem both_modules_tested_in_order :
    ∃ outcome, runProject overlappingNames twoModules ⟨[], none⟩ = .ok outcome ∧
      outcome.files = ["/b.py", "/a.py"] ∧ outcome.files.Nodup ∧ outcome.totalMutations = 3 ∧
      (outcome.completed.results.map fun r => (r.place, r.result.mutation.description)) =
        [(0, "Comparison: == to !="), (1, "Comparison: < to >")] ∧
      ((Testing.counts outcome.results).map Prod.snd).sum = 2 := by
  obtain ⟨outcome, hrun⟩ := exists_outcome_of_plans plans_planOfModules
    poolOptions_overlappingNames
  obtain ⟨hresults, hreturns⟩ := selected_mutations_have_one_result_each
  obtain ⟨found, p, hplans, hgives, hfiles, htotal⟩ := hreturns _ _ _ _ hrun
  obtain ⟨rfl, rfl⟩ := hplans.unique plans_planOfModules
  obtain ⟨-, -, -, -, hcounts, hpaths, horder⟩ := hresults _ _ _ _ _ _ hplans hgives
  have hjobs := congrArg (List.map fun job : Job => (job.place, job.mutation.description))
    (horder rfl)
  rw [List.map_map] at hjobs
  refine ⟨outcome, hrun, hfiles, hfiles ▸ hpaths, htotal, hjobs.trans ?_, hcounts⟩
  decide +kernel

end MutationTesting.Run
