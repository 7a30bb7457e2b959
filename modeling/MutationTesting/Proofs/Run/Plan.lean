import MutationTesting.Proofs.Failure
import MutationTesting.Proofs.Files.ModuleName
import MutationTesting.Proofs.Mutation.Generation
import MutationTesting.Proofs.Optimizer.Boundary
import MutationTesting.Run.Project

/-!
# The plan of a run

Before a run tests anything it has a plan: the files that it loads, the mutations that it finds in them
and the ones it selects, the tests and what these refer to.  No file is in a plan twice, and every
selected mutation is about one of its files.
-/

namespace MutationTesting.Run

open MutationTesting.Files
open MutationTesting.Settings (RunConfig UseError)
open MutationTesting.Optimizer (Candidate)

theorem make_eq_ok_iff {workers : Int} {timeout : Amount} {invocation : Testing.InvocationOptions}
    {name : String} {strict : Bool} {options : PoolOptions} :
    PoolOptions.make workers timeout invocation name strict = .ok options ↔
      1 ≤ workers ∧ timeout.isAtMostZero = false ∧
        ∃ isolation, Isolation.ofName? name = some isolation ∧
          options = ⟨workers.toNat, timeout, invocation, isolation, strict⟩ := by
  rw [PoolOptions.make]
  split
  next hfew => exact iff_of_false (fun hmake => by cases hmake) (fun h => by omega)
  next henough =>
      split
      next hnever => exact iff_of_false (fun hmake => by cases hmake) (fun h => by simp [hnever] at h)
      next hpositive =>
          have hlimit : timeout.isAtMostZero = false := by simpa using hpositive
          have hworkers : 1 ≤ workers := by omega
          split
          next hunknown =>
              exact iff_of_false (fun hmake => by cases hmake) (fun h => by simp [hunknown] at h)
          next isolation hisolation =>
              simp [hworkers, hlimit, hisolation, eq_comm]

theorem ofName?_name (isolation : Isolation) :
    Isolation.ofName? isolation.name = some isolation := by
  cases isolation <;> rfl

/-- The pools of a run have as many workers as its configuration says, and its isolation. -/
theorem exists_workers_of_poolOptions {c : RunConfig} {root : Option Path} {options : PoolOptions}
    (hoptions : poolOptions c root = .ok options) :
    ∃ workers, c.concurrency.whole? = some workers ∧ 1 ≤ workers ∧
      options.workers = workers.toNat ∧ options.isolation = c.isolation := by
  obtain ⟨invocation, -, hoptions⟩ := bind_eq_ok_iff.mp hoptions
  split at hoptions
  next => cases hoptions
  next workers hworkers =>
      obtain ⟨hpositive, -, isolation, hisolation, rfl⟩ :=
        make_eq_ok_iff.mp (mapError_eq_ok_iff.mp hoptions)
      rw [ofName?_name] at hisolation
      exact ⟨workers, hworkers, hpositive, rfl, (Option.some.inj hisolation).symm⟩

theorem one_le_workers_of_poolOptions {c : RunConfig} {root : Option Path} {options : PoolOptions}
    (hoptions : poolOptions c root = .ok options) : 1 ≤ options.workers := by
  obtain ⟨workers, -, hpositive, hsame, -⟩ := exists_workers_of_poolOptions hoptions
  omega

/-- Taking each file once adds some of the files, in their order, to those kept before. -/
theorem exists_added_of_foldl (files kept : List SourceFile)
    (hkept : (kept.map SourceFile.path).Nodup) :
    ∃ added, added.Sublist files ∧ ((kept ++ added).map SourceFile.path).Nodup ∧
      files.foldl (fun kept file =>
        if kept.any fun other => other.path == file.path then kept else kept ++ [file]) kept =
          kept ++ added := by
  induction files generalizing kept with
  | nil => exact ⟨[], .slnil, by rwa [List.append_nil], (List.append_nil kept).symm⟩
  | cons file rest ih =>
      rw [List.foldl_cons]
      split
      next =>
          obtain ⟨added, hadded, hnodup, hfold⟩ := ih kept hkept
          exact ⟨added, hadded.cons file, hnodup, hfold⟩
      next hnew =>
          have hfile : file.path ∉ kept.map SourceFile.path := fun hmem => by
            obtain ⟨other, hother, hpath⟩ := List.mem_map.mp hmem
            exact hnew (List.any_eq_true.mpr ⟨other, hother, beq_iff_eq.mpr hpath⟩)
          have hboth : ((kept ++ [file]).map SourceFile.path).Nodup := by
            rw [List.map_append, List.map_singleton, (List.perm_append_singleton _ _).nodup_iff]
            exact List.nodup_cons.mpr ⟨hfile, hkept⟩
          obtain ⟨added, hadded, hnodup, hfold⟩ := ih (kept ++ [file]) hboth
          rw [List.append_assoc, List.singleton_append] at hnodup hfold
          exact ⟨file :: added, hadded.cons_cons file, hnodup, hfold⟩

theorem eachOnce_sublist (files : List SourceFile) : (eachOnce files).Sublist files := by
  obtain ⟨added, hadded, -, hfold⟩ := exists_added_of_foldl files [] List.nodup_nil
  rw [eachOnce, hfold]
  exact hadded

theorem nodup_paths_eachOnce (files : List SourceFile) :
    ((eachOnce files).map SourceFile.path).Nodup := by
  obtain ⟨added, -, hnodup, hfold⟩ := exists_added_of_foldl files [] List.nodup_nil
  rw [eachOnce, hfold]
  exact hnodup

theorem nodup_paths_of_loadFiles {c : RunConfig} {fs : FileSystem} {searchPath : List Path}
    {scope : Scope} {files : List SourceFile}
    (hload : loadFiles c fs searchPath scope = .ok files) :
    (files.map SourceFile.path).Nodup := by
  obtain ⟨excluded, -, hload⟩ := bind_eq_ok_iff.mp hload
  dsimp only at hload
  split at hload
  all_goals
    obtain ⟨patterns, -, hload⟩ := bind_eq_ok_iff.mp hload
    cases hload
    exact nodup_paths_eachOnce _

theorem exists_loadFile?_of_mem_loadFiles {c : RunConfig} {fs : FileSystem}
    {searchPath : List Path} {scope : Scope} {files : List SourceFile}
    (hload : loadFiles c fs searchPath scope = .ok files) {file : SourceFile} (hfile : file ∈ files) :
    ∃ excluded path, Discovery.loadFile? fs searchPath scope.root excluded path = some file := by
  obtain ⟨excluded, -, hload⟩ := bind_eq_ok_iff.mp hload
  dsimp only at hload
  split at hload
  all_goals
    obtain ⟨patterns, -, hload⟩ := bind_eq_ok_iff.mp hload
    cases hload
    obtain ⟨pattern, -, hfound⟩ := List.mem_flatMap.mp ((eachOnce_sublist _).subset hfile)
    obtain ⟨path, -, hpath⟩ := List.mem_filterMap.mp hfound
    exact ⟨_, path, hpath⟩

/-- The module of a loaded file has a name that can be imported. -/
theorem isDottedName_of_mem_loadFiles {c : RunConfig} {fs : FileSystem} {searchPath : List Path}
    {scope : Scope} {files : List SourceFile}
    (hload : loadFiles c fs searchPath scope = .ok files) {file : SourceFile} (hfile : file ∈ files)
    {module : String} (hmodule : file.moduleId = some module) : IsDottedName module := by
  obtain ⟨excluded, path, hpath⟩ := exists_loadFile?_of_mem_loadFiles hload hfile
  rw [(Discovery.fields_of_loadFile? hpath).2] at hmodule
  exact isDottedName_of_moduleName? hmodule

/-- Every mutation found is about one of the files. -/
theorem filePath_of_mem_candidates {strategies : List Strategy} {files : List SourceFile}
    {found : List Mutation} (hfound : candidates strategies files = .ok found) {m : Mutation}
    (hm : m ∈ found) : m.filePath ∈ files.map SourceFile.path := by
  obtain ⟨parts, hparts, hflat⟩ := bind_eq_ok_iff.mp hfound
  cases hflat
  obtain ⟨part, hpart, hm⟩ := List.mem_flatten.mp hm
  obtain ⟨file, hfile, hwalk⟩ := exists_of_mem_mapM hparts hpart
  exact List.mem_map.mpr ⟨file, hfile, (Mutation.filePath_of_mem_walk hwalk hm).symm⟩

/-- The jobs of all files together are the mutations selected. -/
theorem flatMap_jobsOf_perm {selected : List Candidate} {files : List SourceFile}
    (hpaths : (files.map SourceFile.path).Nodup)
    (hselected : ∀ c ∈ selected, c.mutation.filePath ∈ files.map SourceFile.path) :
    (files.flatMap (jobsOf selected)).Perm
      (selected.map fun c => Job.mk c.place c.mutation) := by
  have hgroups := Optimizer.flatMap_filter_perm (fun c : Candidate => c.mutation.filePath)
    hpaths hselected
  have hjobs : files.flatMap (jobsOf selected) =
      ((files.map SourceFile.path).flatMap fun path =>
        selected.filter fun c => c.mutation.filePath = path).map
          fun c => Job.mk c.place c.mutation := by
    rw [List.map_flatMap, List.flatMap_map]
    rfl
  rw [hjobs]
  exact hgroups.map _

theorem isPrefix_of_firstMutations {c : RunConfig} {optimized selected : List Candidate}
    (hselected : c.firstMutations optimized = .ok selected) : selected <+: optimized := by
  rw [Settings.RunConfig.firstMutations] at hselected
  split at hselected
  · cases hselected
    exact List.prefix_rfl
  · split at hselected
    · cases hselected
      exact List.take_prefix _ _
    · cases hselected

/-- What a run finds and plans before it tests anything. -/
structure Plans (c : RunConfig) (s : Surroundings) (scope : Scope) (found : List Mutation)
    (p : Plan) : Prop where
  files_loaded : loadFiles c s.files s.searchPath scope = .ok p.files
  mutations_found : ∃ strategies, c.chosenStrategies = .ok strategies ∧
    candidates strategies p.files = .ok found
  first_selected : ∃ options, c.optimizerSettings.options (Optimizer.score found) = .ok options ∧
    c.firstMutations (Optimizer.optimize options found) = .ok p.selected
  tests_found : ∃ directory, c.testDirectory.asText = .ok directory ∧
    p.tests = testsBelow s.files (scope.under directory)
  dependencies_eq : p.dependencies =
    Discovery.analyze s.files (some (knownModules p.files)) p.tests
  config_eq : p.config = c
  root_eq : p.root = scope.root
  surroundings_eq : p.surroundings = s

section Plans

variable {c : RunConfig} {s : Surroundings} {scope : Scope} {found : List Mutation} {p : Plan}

theorem exists_plan_of_runProject {outcome : Outcome}
    (hrun : runProject c s scope = .ok outcome) :
    ∃ found p, Plans c s scope found p ∧
      p.runFiles ⟨s.files, [], []⟩ p.files = .ok outcome.completed ∧
      outcome.files = p.files.map SourceFile.path ∧ outcome.totalMutations = found.length := by
  obtain ⟨strategies, hstrategies, hrun⟩ := bind_eq_ok_iff.mp hrun
  obtain ⟨files, hfiles, hrun⟩ := bind_eq_ok_iff.mp hrun
  obtain ⟨found, hfound, hrun⟩ := bind_eq_ok_iff.mp hrun
  obtain ⟨options, hoptions, hrun⟩ := bind_eq_ok_iff.mp hrun
  obtain ⟨selected, hselected, hrun⟩ := bind_eq_ok_iff.mp hrun
  obtain ⟨directory, hdirectory, hrun⟩ := bind_eq_ok_iff.mp hrun
  obtain ⟨completed, hcompleted, hrun⟩ := bind_eq_ok_iff.mp hrun
  cases hrun
  rw [mapError_eq_ok_iff] at hstrategies hfiles hfound hoptions hselected hdirectory
  exact ⟨found, _, ⟨hfiles, ⟨strategies, hstrategies, hfound⟩, ⟨options, hoptions, hselected⟩,
    ⟨directory, hdirectory, rfl⟩, rfl, rfl, rfl, rfl⟩, hcompleted, rfl, rfl⟩

theorem exists_runFiles {p : Plan} {options : PoolOptions}
    (hoptions : poolOptions p.config p.root = .ok options) (done : Completed)
    (files : List SourceFile) : ∃ completed, p.runFiles done files = .ok completed := by
  induction files generalizing done with
  | nil => exact ⟨done, rfl⟩
  | cons file rest ih =>
      rw [Plan.runFiles]
      split
      · exact ih done
      · rw [hoptions]
        exact ih _

theorem Plans.eq (hplans : Plans c s scope found p) :
    p = ⟨c, scope.root, s, p.files, p.selected, p.tests,
      Discovery.analyze s.files (some (knownModules p.files)) p.tests⟩ := by
  rw [← hplans.dependencies_eq, ← hplans.config_eq, ← hplans.root_eq, ← hplans.surroundings_eq]

/-- A run has one plan. -/
theorem Plans.unique {found' : List Mutation} {p' : Plan} (hplans : Plans c s scope found p)
    (hplans' : Plans c s scope found' p') : found = found' ∧ p = p' := by
  obtain ⟨hfiles, ⟨_, hstrategies, hfound⟩, ⟨_, hoptions, hselected⟩, ⟨_, hdirectory, htests⟩, -⟩ :=
    id hplans
  obtain ⟨hfiles', ⟨_, hstrategies', hfound'⟩, ⟨_, hoptions', hselected'⟩,
    ⟨_, hdirectory', htests'⟩, -⟩ := id hplans'
  have hsameFiles := Except.ok.inj (hfiles.symm.trans hfiles')
  cases hstrategies.symm.trans hstrategies'
  rw [hsameFiles, hfound', Except.ok.injEq] at hfound
  subst hfound
  cases hoptions.symm.trans hoptions'
  cases hdirectory.symm.trans hdirectory'
  have hsameSelected := Except.ok.inj (hselected.symm.trans hselected')
  refine ⟨rfl, ?_⟩
  rw [hplans.eq, hplans'.eq, hsameFiles, hsameSelected, htests, htests']

/-- A run that has a plan comes to its end if its pools can be made. -/
theorem exists_outcome_of_plans (hplans : Plans c s scope found p) {pool : PoolOptions}
    (hpool : poolOptions c scope.root = .ok pool) :
    ∃ outcome, runProject c s scope = .ok outcome := by
  obtain ⟨strategies, hstrategies, hfound⟩ := hplans.mutations_found
  obtain ⟨options, hoptions, hselected⟩ := hplans.first_selected
  obtain ⟨directory, hdirectory, htests⟩ := hplans.tests_found
  rw [← hplans.config_eq, ← hplans.root_eq] at hpool
  obtain ⟨completed, hcompleted⟩ := exists_runFiles hpool ⟨s.files, [], []⟩ p.files
  rw [hplans.eq, htests] at hcompleted
  refine ⟨⟨p.files.map (·.path), found.length, completed,
    if options.enabled then
      some (Optimizer.report found.length (Optimizer.optimize options found)) else none⟩, ?_⟩
  rw [runProject, hstrategies, hplans.files_loaded, mapError_ok, mapError_ok]
  refine bind_eq_ok_iff.mpr ⟨strategies, rfl, bind_eq_ok_iff.mpr ⟨p.files, rfl, ?_⟩⟩
  refine bind_eq_ok_iff.mpr ⟨found, mapError_eq_ok_iff.mpr hfound, ?_⟩
  refine bind_eq_ok_iff.mpr ⟨options, mapError_eq_ok_iff.mpr hoptions, ?_⟩
  refine bind_eq_ok_iff.mpr ⟨p.selected, mapError_eq_ok_iff.mpr hselected, ?_⟩
  refine bind_eq_ok_iff.mpr ⟨directory, mapError_eq_ok_iff.mpr hdirectory, ?_⟩
  exact bind_eq_ok_iff.mpr ⟨completed, hcompleted, rfl⟩

theorem Plans.nodup_paths (hplans : Plans c s scope found p) :
    (p.files.map SourceFile.path).Nodup :=
  nodup_paths_of_loadFiles hplans.files_loaded

theorem Plans.standsFor (hplans : Plans c s scope found p) :
    ∀ candidate ∈ p.selected, candidate.StandsFor found := by
  obtain ⟨options, -, hselected⟩ := hplans.first_selected
  exact fun candidate hcandidate =>
    Optimizer.standsFor_of_mem_optimize ((isPrefix_of_firstMutations hselected).subset hcandidate)

theorem Plans.nodup_places (hplans : Plans c s scope found p) :
    (p.selected.map Candidate.place).Nodup := by
  obtain ⟨options, -, hselected⟩ := hplans.first_selected
  exact ((isPrefix_of_firstMutations hselected).map _).sublist.nodup
    (Optimizer.nodup_places_optimize options found)

/-- The jobs of all files together are the mutations selected. -/
theorem Plans.flatMap_jobsOf_perm (hplans : Plans c s scope found p) :
    (p.files.flatMap (jobsOf p.selected)).Perm
      (p.selected.map fun candidate => Job.mk candidate.place candidate.mutation) := by
  obtain ⟨strategies, -, hfound⟩ := hplans.mutations_found
  refine Run.flatMap_jobsOf_perm hplans.nodup_paths fun candidate hcandidate => ?_
  exact filePath_of_mem_candidates hfound
    (List.mem_of_getElem? (hplans.standsFor candidate hcandidate).entry)

end Plans

end MutationTesting.Run
