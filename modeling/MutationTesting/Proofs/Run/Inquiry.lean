import MutationTesting.Proofs.Failure
import MutationTesting.Run.Project

/-!
# A run as an inquiry

A run touches its surroundings in few ways: it looks for programs, for tests and for what these refer
to, and has mutants tested.  An inquiry asks for these things one after the other and sees nothing but
the answers, so what it does before its first request depends on the configuration alone.  The run of a
project is an inquiry whose requests are answered from the surroundings.
-/

namespace MutationTesting.Run

open MutationTesting.Files
open MutationTesting.Settings (RunConfig UseError)
open MutationTesting.Optimizer (Candidate)
open MutationTesting.Dependencies (DependencyMap)

/-- The jobs of a file, and what a pool needs to know for them. -/
structure Workload where
  options : PoolOptions
  source : SourceFile
  files : List SourceFile
  tests : List Path
  dependencies : DependencyMap
  jobs : List Job

/-- What a run can ask of its surroundings. -/
inductive Request where
  /-- The programs that a pattern names. -/
  | sources (root : Option Path) (excluded : List Path) (pattern : Path)
  /-- The tests below a directory. -/
  | tests (directory : Path)
  /-- What tests refer to. -/
  | dependencies (known : List String) (tests : List Path)
  /-- The results of jobs. -/
  | results (work : Workload)

/-- What a request is answered with. -/
abbrev Request.Answer : Request → Type
  | sources .. => List SourceFile
  | tests _ => List Path
  | dependencies .. => DependencyMap
  | results _ => List JobResult

/-- A computation that may fail and learns of its surroundings only by requests. -/
inductive Inquiry (α : Type) where
  | done (result : Except RunError α)
  | ask (request : Request) (next : request.Answer → Inquiry α)

namespace Inquiry

variable {α β : Type}

protected def bind : Inquiry α → (α → Inquiry β) → Inquiry β
  | done (.ok value), next => next value
  | done (.error e), _ => done (.error e)
  | ask request answered, next => ask request fun answer => (answered answer).bind next

instance : Monad Inquiry where
  pure value := done (.ok value)
  bind := Inquiry.bind

theorem bind_pure_eq (i : Inquiry α) : i.bind pure = i := by
  induction i with
  | done result => cases result <;> rfl
  | ask request next ih => exact congrArg (ask request) (funext ih)

theorem bind_bind {γ : Type} (i : Inquiry α) (next : α → Inquiry β) (last : β → Inquiry γ) :
    (i.bind next).bind last = i.bind fun value => (next value).bind last := by
  induction i with
  | done result => cases result <;> rfl
  | ask request answered ih => exact congrArg (ask request) (funext ih)

instance : LawfulMonad Inquiry :=
  LawfulMonad.mk' Inquiry bind_pure_eq (fun _ _ => rfl) bind_bind

def request (r : Request) : Inquiry r.Answer := ask r pure

end Inquiry

/-- The programs that patterns name, asked for pattern by pattern. -/
def inquirePatterns (scope : Scope) (excluded patterns : List Path) :
    Inquiry (List SourceFile) := do
  let found ← patterns.mapM fun pattern =>
    Inquiry.request (.sources scope.root excluded (scope.under pattern))
  pure (eachOnce found.flatten)

/-- The programs of a run. -/
def inquireSources (c : RunConfig) (scope : Scope) : Inquiry (List SourceFile) := do
  let excluded := (← .done (c.exclude.asTexts.mapError .use)).map scope.under
  let patterns ←
    if scope.patterns.isEmpty then .done (c.paths.asTexts.mapError .use) else pure scope.patterns
  inquirePatterns scope excluded patterns

/-- The results of the jobs of all files, asked for file by file. -/
def inquireResults (c : RunConfig) (root : Option Path) (selected : List Candidate)
    (files : List SourceFile) (tests : List Path) (dependencies : DependencyMap) :
    List SourceFile → Inquiry (List JobResult)
  | [] => pure []
  | file :: rest =>
    match jobsOf selected file with
    | [] => inquireResults c root selected files tests dependencies rest
    | jobs => do
      let options ← .done (poolOptions c root)
      let results : List JobResult ←
        Inquiry.request (.results ⟨options, file, files, tests, dependencies, jobs⟩)
      let others ← inquireResults c root selected files tests dependencies rest
      pure (results ++ others)

/-- What a run finds out. -/
structure Findings where
  files : List Path
  totalMutations : Nat
  results : List JobResult
  report : Option Optimizer.Report

/-- The run of a project, as an inquiry. -/
def inquireProject (c : RunConfig) (scope : Scope) : Inquiry Findings := do
  let strategies ← .done (c.chosenStrategies.mapError .use)
  let files ← inquireSources c scope
  let found ← .done ((candidates strategies files).mapError .description)
  let options ← .done ((c.optimizerSettings.options (Optimizer.score found)).mapError .use)
  let optimized := Optimizer.optimize options found
  let report := if options.enabled then some (Optimizer.report found.length optimized) else none
  let selected ← .done ((c.firstMutations optimized).mapError .use)
  let testDirectory ← .done (c.testDirectory.asText.mapError .use)
  let tests ← Inquiry.request (.tests (scope.under testDirectory))
  let dependencies ← Inquiry.request (.dependencies (knownModules files) tests)
  let results ← inquireResults c scope.root selected files tests dependencies files
  pure ⟨files.map (·.path), found.length, results, report⟩

/-- What becomes of a request: the answer, the files after it, and what the runner was asked. -/
structure Reply (α : Type) where
  answer : α
  files : FileSystem
  observations : List Observation

def Workload.assignment (work : Workload) (s : Surroundings) : Assignment :=
  { options := work.options
    source := work.source
    runner := s.runner
    environment := s.environment
    dependencies := work.dependencies
    moduleOf := moduleOf work.files
    fallbackTests := work.tests }

def Surroundings.withFiles (s : Surroundings) (files : FileSystem) : Surroundings :=
  { s with files }

/-- The surroundings answer a request.  Only the jobs of a pool touch the files. -/
def Surroundings.reply (s : Surroundings) : (r : Request) → Reply r.Answer
  | .sources root excluded pattern =>
    ⟨Discovery.load s.files s.searchPath root excluded pattern, s.files, []⟩
  | .tests directory => ⟨testsBelow s.files directory, s.files, []⟩
  | .dependencies known tests => ⟨Discovery.analyze s.files (some known) tests, s.files, []⟩
  | .results work =>
    let finished := runJobs (work.assignment s) s.files work.jobs
    ⟨finished.results, finished.files, finished.observations⟩

/-- How an inquiry ends: its result, the requests that it made, the files that it leaves and what the
runner was asked. -/
structure Ending (α : Type) where
  result : Except RunError α
  requests : List Request
  files : FileSystem
  observations : List Observation

/-- What has gone before another end. -/
def Ending.followedBy {α β : Type} (before : Ending α) (rest : Ending β) : Ending β :=
  ⟨rest.result, before.requests ++ rest.requests, rest.files,
    before.observations ++ rest.observations⟩

namespace Inquiry

variable {α β : Type}

/-- Makes the requests of an inquiry in some surroundings. -/
def enact (s : Surroundings) : Inquiry α → Ending α
  | done result => ⟨result, [], s.files, []⟩
  | ask request next =>
    let reply := s.reply request
    let rest := (next reply.answer).enact (s.withFiles reply.files)
    ⟨rest.result, request :: rest.requests, rest.files, reply.observations ++ rest.observations⟩

theorem done_ok_bind (value : α) (next : α → Inquiry β) :
    done (.ok value) >>= next = next value := rfl

theorem ask_bind (request : Request) (answered : request.Answer → Inquiry α)
    (next : α → Inquiry β) :
    ask request answered >>= next = ask request fun answer => answered answer >>= next := rfl

/-- An inquiry that goes on after another one goes on with the files that this leaves. -/
theorem enact_bind_of_ok {first : Inquiry α} {next : α → Inquiry β} {s : Surroundings} {value : α}
    (hfirst : (first.enact s).result = .ok value) :
    (first >>= next).enact s =
      (first.enact s).followedBy ((next value).enact (s.withFiles (first.enact s).files)) := by
  induction first generalizing s with
  | done result =>
      cases hfirst
      rfl
  | ask request answered ih =>
      rw [ask_bind, enact, ih _ hfirst]
      simp only [enact, Ending.followedBy, List.cons_append, List.append_assoc]
      rfl

/-- Nothing is done after a failure. -/
theorem enact_bind_of_error {first : Inquiry α} {next : α → Inquiry β} {s : Surroundings}
    {e : RunError} (hfirst : (first.enact s).result = .error e) :
    (first >>= next).enact s =
      ⟨.error e, (first.enact s).requests, (first.enact s).files, (first.enact s).observations⟩ := by
  induction first generalizing s with
  | done result =>
      cases hfirst
      rfl
  | ask request answered ih =>
      rw [ask_bind, enact, ih _ hfirst]
      rfl

theorem enact_map (i : Inquiry α) (change : α → β) (s : Surroundings) :
    (i >>= fun value => pure (change value)).enact s =
      ⟨(i.enact s).result.map change, (i.enact s).requests, (i.enact s).files,
        (i.enact s).observations⟩ := by
  cases hresult : (i.enact s).result with
  | error e => exact enact_bind_of_error hresult
  | ok value =>
      rw [enact_bind_of_ok hresult]
      simp [Ending.followedBy, enact, pure, Surroundings.withFiles, Except.map]

theorem enact_request_bind (r : Request) (next : r.Answer → Inquiry β) (s : Surroundings) :
    (request r >>= next).enact s =
      let rest := (next (s.reply r).answer).enact (s.withFiles (s.reply r).files)
      ⟨rest.result, r :: rest.requests, rest.files, (s.reply r).observations ++ rest.observations⟩ :=
  rfl

/-- Whether an inquiry only looks at its surroundings, and what it comes to there. -/
structure Reads (i : Inquiry α) (s : Surroundings) (result : Except RunError α) : Prop where
  result_eq : (i.enact s).result = result
  files_eq : (i.enact s).files = s.files
  observations_eq : (i.enact s).observations = []

namespace Reads

variable {s : Surroundings}

theorem done (result : Except RunError α) : (Inquiry.done result).Reads s result := ⟨rfl, rfl, rfl⟩

theorem same_surroundings {i : Inquiry α} {result : Except RunError α}
    (hreads : i.Reads s result) :
    s.withFiles (i.enact s).files = s := by
  rw [hreads.files_eq]
  rfl

theorem enact_bind {first : Inquiry α} {next : α → Inquiry β} {value : α}
    (hfirst : first.Reads s (.ok value)) :
    (first >>= next).enact s =
      { (next value).enact s with
        requests := (first.enact s).requests ++ ((next value).enact s).requests } := by
  rw [enact_bind_of_ok hfirst.result_eq, hfirst.same_surroundings, Ending.followedBy,
    hfirst.observations_eq, List.nil_append]

theorem bind {first : Inquiry α} {next : α → Inquiry β} {found : Except RunError α}
    {result : α → Except RunError β} (hfirst : first.Reads s found)
    (hnext : ∀ value, (next value).Reads s (result value)) :
    (first >>= next).Reads s (found >>= result) := by
  cases found with
  | error e =>
      have hends : (first >>= next).enact s = _ := enact_bind_of_error hfirst.result_eq
      exact ⟨congrArg Ending.result hends, (congrArg Ending.files hends).trans hfirst.files_eq,
        (congrArg Ending.observations hends).trans hfirst.observations_eq⟩
  | ok value =>
      have hends : (first >>= next).enact s = _ := hfirst.enact_bind
      exact ⟨(congrArg Ending.result hends).trans (hnext value).result_eq,
        (congrArg Ending.files hends).trans (hnext value).files_eq,
        (congrArg Ending.observations hends).trans (hnext value).observations_eq⟩

theorem mapM {look : α → Inquiry β} {found : α → β}
    (hlook : ∀ item, (look item).Reads s (.ok (found item))) (items : List α) :
    (items.mapM look).Reads s (.ok (items.map found)) := by
  induction items with
  | nil => exact done _
  | cons first rest ih =>
      rw [List.mapM_cons]
      exact (hlook first).bind fun value => ih.bind fun others => done (.ok (value :: others))

end Reads

end Inquiry

theorem reads_inquirePatterns (s : Surroundings) (scope : Scope) (excluded patterns : List Path) :
    (inquirePatterns scope excluded patterns).Reads s
      (.ok (eachOnce (patterns.flatMap fun pattern =>
        Discovery.load s.files s.searchPath scope.root excluded (scope.under pattern)))) := by
  have hfound : ∀ pattern,
      (Inquiry.request (.sources scope.root excluded (scope.under pattern))).Reads s
        (.ok (Discovery.load s.files s.searchPath scope.root excluded (scope.under pattern))) :=
    fun pattern => ⟨rfl, rfl, rfl⟩
  exact (Inquiry.Reads.mapM hfound patterns).bind fun found => Inquiry.Reads.done _

/-- The programs that are asked for are those that a run loads. -/
theorem reads_inquireSources (c : RunConfig) (s : Surroundings) (scope : Scope) :
    (inquireSources c scope).Reads s ((loadFiles c s.files s.searchPath scope).mapError .use) := by
  rw [inquireSources, loadFiles, mapError_bind]
  refine (Inquiry.Reads.done _).bind fun excluded => ?_
  by_cases hnone : scope.patterns.isEmpty = true
  · dsimp only
    rw [if_pos hnone, if_pos hnone, mapError_bind]
    exact (Inquiry.Reads.done _).bind (reads_inquirePatterns s scope _)
  · dsimp only
    rw [if_neg hnone, if_neg hnone]
    exact reads_inquirePatterns s scope _ scope.patterns

/-- What is done when some more jobs are. -/
def Completed.followedBy (done finished : Completed) : Completed :=
  ⟨finished.files, done.results ++ finished.results, done.observations ++ finished.observations⟩

/-- What is done when the jobs of some more files have ended. -/
def Ending.completed (e : Ending (List JobResult)) (done : Completed) : Except RunError Completed :=
  e.result.map fun results => done.followedBy ⟨e.files, results, e.observations⟩

/-- Jobs count as done before others, or as the first of those. -/
theorem Ending.completed_followedBy (e : Ending (List JobResult)) (done finished : Completed)
    (requests : List Request) :
    e.completed (done.followedBy finished) =
      Ending.completed ⟨e.result.map (finished.results ++ ·), requests, e.files,
        finished.observations ++ e.observations⟩ done := by
  cases hresult : e.result with
  | error failure => simp [completed, hresult, Except.map]
  | ok results => simp [completed, Completed.followedBy, hresult, Except.map]

theorem reply_results (p : Plan) (fs : FileSystem) (options : PoolOptions) (file : SourceFile)
    (jobs : List Job) :
    (p.surroundings.withFiles fs).reply
        (.results ⟨options, file, p.files, p.tests, p.dependencies, jobs⟩) =
      ⟨(runJobs (p.assignment options file) fs jobs).results,
        (runJobs (p.assignment options file) fs jobs).files,
        (runJobs (p.assignment options file) fs jobs).observations⟩ := rfl

/-- The results that are asked for are those that the files of a plan have one after the other. -/
theorem runFiles_eq_completed (p : Plan) (done : Completed) (files : List SourceFile) :
    p.runFiles done files =
      ((inquireResults p.config p.root p.selected p.files p.tests p.dependencies files).enact
        (p.surroundings.withFiles done.files)).completed done := by
  induction files generalizing done with
  | nil =>
      simp [Plan.runFiles, inquireResults, pure, Inquiry.enact, Except.map, Ending.completed,
        Completed.followedBy, Surroundings.withFiles]
  | cons file rest ih =>
      rw [Plan.runFiles, inquireResults]
      cases hjobs : jobsOf p.selected file with
      | nil => exact ih done
      | cons job others =>
          cases hoptions : poolOptions p.config p.root with
          | error e => rfl
          | ok options =>
              -- the plan carries along what is done, the inquiry puts it in front in the end
              have hrest := ih (done.followedBy (runJobs (p.assignment options file) done.files
                (job :: others)))
              refine hrest.trans ?_
              dsimp only
              rw [Inquiry.done_ok_bind, Inquiry.enact_request_bind, reply_results, Inquiry.enact_map]
              exact Ending.completed_followedBy _ _ _ _

/-- The outcome of a run that has ended. -/
def Ending.outcome (e : Ending Findings) : Except RunError Outcome :=
  e.result.map fun findings =>
    ⟨findings.files, findings.totalMutations, ⟨e.files, findings.results, e.observations⟩,
      findings.report⟩

theorem Inquiry.Reads.outcome_of_ok {α : Type} {s : Surroundings} {first : Inquiry α}
    {next : α → Inquiry Findings} {value : α} (hfirst : first.Reads s (.ok value)) :
    ((first >>= next).enact s).outcome = ((next value).enact s).outcome := by
  rw [hfirst.enact_bind]
  rfl

theorem Inquiry.Reads.outcome_bind {α : Type} {s : Surroundings} {first : Inquiry α}
    {next : α → Inquiry Findings} {found : Except RunError α} {result : α → Except RunError Outcome}
    (hfirst : first.Reads s found)
    (hnext : ∀ value, result value = ((next value).enact s).outcome) :
    found >>= result = ((first >>= next).enact s).outcome := by
  cases found with
  | error e =>
      rw [enact_bind_of_error hfirst.result_eq]
      rfl
  | ok value => exact (hnext value).trans hfirst.outcome_of_ok.symm

/-- The run of a project is an inquiry that is answered from the surroundings. -/
theorem runProject_eq_outcome (c : RunConfig) (s : Surroundings) (scope : Scope) :
    runProject c s scope = ((inquireProject c scope).enact s).outcome := by
  refine (Inquiry.Reads.done _).outcome_bind fun strategies => ?_
  refine (reads_inquireSources c s scope).outcome_bind fun files => ?_
  refine (Inquiry.Reads.done _).outcome_bind fun found => ?_
  refine (Inquiry.Reads.done _).outcome_bind fun options => ?_
  refine (Inquiry.Reads.done _).outcome_bind fun selected => ?_
  refine (Inquiry.Reads.done _).outcome_bind fun testDirectory => ?_
  have htests : (Inquiry.request (.tests (scope.under testDirectory))).Reads s
      (.ok (testsBelow s.files (scope.under testDirectory))) := ⟨rfl, rfl, rfl⟩
  have hdependencies : ∀ tests,
      (Inquiry.request (.dependencies (knownModules files) tests)).Reads s
        (.ok (Discovery.analyze s.files (some (knownModules files)) tests)) :=
    fun tests => ⟨rfl, rfl, rfl⟩
  rw [htests.outcome_of_ok, (hdependencies _).outcome_of_ok, Inquiry.enact_map]
  dsimp only
  rw [runFiles_eq_completed]
  have hsame : s.withFiles s.files = s := rfl
  rw [hsame]
  generalize Inquiry.enact s _ = ending
  rcases ending with ⟨_ | _, _, _, _⟩ <;> rfl

end MutationTesting.Run
