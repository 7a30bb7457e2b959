import Mathlib
import MutationTesting.Proofs.Run.RunResults

/-!
# Which mutations a run tests

A run that optimizes keeps the boundary mutations and tests them first.
-/

namespace MutationTesting.Run

open MutationTesting.Files
open MutationTesting.Settings (RunConfig UseError)
open MutationTesting.Optimizer (Candidate)

/-- A run that is asked to optimize keeps the boundary mutations. -/
theorem options_of_optimizes {c : RunConfig} (hoptimize : c.optimize.isYes = true)
    {scored : List Candidate} {options : Optimizer.Options}
    (hoptions : c.optimizerSettings.options scored = .ok options) :
    options.enabled = true ∧ options.keepsBoundary = true := by
  have hsettings : c.optimizerSettings.enabled = true ∧
      c.optimizerSettings.keepsBoundary = true := by
    rw [Settings.RunConfig.optimizerSettings, if_pos hoptimize, if_pos hoptimize]
    cases c.level <;> exact ⟨rfl, rfl⟩
  rw [Settings.OptimizerSettings.options, hsettings.1, if_neg (by decide)] at hoptions
  dsimp only at hoptions
  split at hoptions
  all_goals
    obtain ⟨least, -, hoptions⟩ := bind_eq_ok_iff.mp hoptions
    split at hoptions
    all_goals
      obtain ⟨most, -, hoptions⟩ := bind_eq_ok_iff.mp hoptions
      cases hoptions
      exact ⟨rfl, hsettings.2⟩

/-- Whether a list holds the mutations that a run finds in the files it loads. -/
def Finds (c : RunConfig) (s : Surroundings) (scope : Scope) (found : List Mutation) : Prop :=
  ∃ strategies files, c.chosenStrategies = .ok strategies ∧
    loadFiles c s.files s.searchPath scope = .ok files ∧ candidates strategies files = .ok found

theorem Finds.unique {c : RunConfig} {s : Surroundings} {scope : Scope} {left right : List Mutation}
    (hleft : Finds c s scope left) (hright : Finds c s scope right) : left = right := by
  obtain ⟨strategies, files, hstrategies, hfiles, hfound⟩ := hleft
  obtain ⟨strategies', files', hstrategies', hfiles', hfound'⟩ := hright
  cases hstrategies.symm.trans hstrategies'
  cases hfiles.symm.trans hfiles'
  exact Except.ok.inj (hfound.symm.trans hfound')

theorem Plans.finds {c : RunConfig} {s : Surroundings} {scope : Scope} {found : List Mutation}
    {p : Plan} (hplans : Plans c s scope found p) : Finds c s scope found := by
  obtain ⟨strategies, hstrategies, hfound⟩ := hplans.mutations_found
  exact ⟨strategies, p.files, hstrategies, hplans.files_loaded, hfound⟩

/-- A run tests what it selects from the mutations that it finds. -/
theorem exists_selected_of_runProject {c : RunConfig} {s : Surroundings} {scope : Scope}
    {outcome : Outcome} (hrun : runProject c s scope = .ok outcome) :
    ∃ found options selected, Finds c s scope found ∧
      c.optimizerSettings.options (Optimizer.score found) = .ok options ∧
      c.firstMutations (Optimizer.optimize options found) = .ok selected ∧
      (outcome.results.map Testing.MutationResult.mutation).Perm
        (selected.map Candidate.mutation) := by
  obtain ⟨found, p, hplans, hfiles, -, -⟩ := exists_plan_of_runProject hrun
  obtain ⟨options, hoptions, hselected⟩ := hplans.first_selected
  obtain ⟨results, hresults, hgives⟩ := exists_gives_of_runFiles hfiles
  rw [List.nil_append] at hresults
  refine ⟨found, options, p.selected, hplans.finds, hoptions, hselected, ?_⟩
  have hmutations := (hgives.perm_selected hplans).map Job.mutation
  rw [List.map_map, List.map_map] at hmutations
  rw [Outcome.results, hresults, List.map_map]
  exact hmutations

/-- A run comes to its end once its mutations are selected, if its directory of tests is named and
its pools can be made. -/
theorem exists_outcome_of_finds {c : RunConfig} {s : Surroundings} {scope : Scope}
    {found : List Mutation} {options : Optimizer.Options} {selected : List Candidate}
    {directory : String} {pool : PoolOptions} (hfinds : Finds c s scope found)
    (hoptions : c.optimizerSettings.options (Optimizer.score found) = .ok options)
    (hselected : c.firstMutations (Optimizer.optimize options found) = .ok selected)
    (hdirectory : c.testDirectory.asText = .ok directory)
    (hpool : poolOptions c scope.root = .ok pool) :
    ∃ outcome, runProject c s scope = .ok outcome := by
  obtain ⟨strategies, files, hstrategies, hfiles, hfound⟩ := hfinds
  let tests := testsBelow s.files (scope.under directory)
  let plan : Plan := ⟨c, scope.root, s, files, selected, tests,
    Discovery.analyze s.files (some (knownModules files)) tests⟩
  have hplans : Plans c s scope found plan :=
    ⟨hfiles, ⟨strategies, hstrategies, hfound⟩, ⟨options, hoptions, hselected⟩,
      ⟨directory, hdirectory, rfl⟩, rfl, rfl, rfl, rfl⟩
  exact exists_outcome_of_plans hplans hpool

/-- Enabled options that keep boundary mutations put all of these first, in the order in which they
were found; the others come from the list too, and nothing comes twice.  So a run that tests any
other mutation tests every boundary mutation that it found. -/
theorem boundary_mutations_kept_and_tested :
    (∀ (o : Optimizer.Options) (mutations : List Mutation),
      o.enabled = true → o.keepsBoundary = true →
        (∃ others, (Optimizer.optimize o mutations).map Candidate.mutation =
            mutations.filter Optimizer.isBoundary ++ others ∧
          ∀ m ∈ others, Optimizer.isBoundary m = false) ∧
        ((Optimizer.optimize o mutations).map Candidate.mutation).Subperm mutations ∧
        ((Optimizer.optimize o mutations).map Candidate.place).Nodup ∧
        ∀ c ∈ Optimizer.optimize o mutations, c.StandsFor mutations) ∧
      ∀ (c : RunConfig) (s : Surroundings) (scope : Scope) (outcome : Outcome),
        c.optimize.isYes = true → runProject c s scope = .ok outcome →
          ∃ found, Finds c s scope found ∧
            (outcome.results.map Testing.MutationResult.mutation).Subperm found ∧
            ((∃ r ∈ outcome.results, Optimizer.isBoundary r.mutation = false) →
              ((outcome.results.map Testing.MutationResult.mutation).filter
                Optimizer.isBoundary).Perm (found.filter Optimizer.isBoundary)) := by
  constructor
  · intro o mutations henabled hkeeps
    exact ⟨Optimizer.exists_optimize_eq_append henabled hkeeps mutations,
      Optimizer.map_mutation_optimize_subperm o mutations,
      Optimizer.nodup_places_optimize o mutations,
      fun c hc => Optimizer.standsFor_of_mem_optimize hc⟩
  · intro c s scope outcome hoptimize hrun
    obtain ⟨found, options, selected, hfinds, hoptions, hselected, htested⟩ :=
      exists_selected_of_runProject hrun
    have hfront := isPrefix_of_firstMutations hselected
    obtain ⟨henabled, hkeeps⟩ := options_of_optimizes hoptimize hoptions
    refine ⟨found, hfinds, ?_, ?_⟩
    · have hpart := (hfront.map Candidate.mutation).sublist.subperm
      exact htested.subperm.trans (hpart.trans (Optimizer.map_mutation_optimize_subperm _ _))
    · rintro ⟨r, hr, hother⟩
      obtain ⟨others, hsplit, hothers⟩ :=
        Optimizer.exists_optimize_eq_append henabled hkeeps found
      have htaken := hfront.map Candidate.mutation
      rw [hsplit] at htaken
      have hbeyond := htested.mem_iff.mp (List.mem_map_of_mem hr)
      have hall := Optimizer.filter_eq_of_isPrefix
        (fun m hm => (List.mem_filter.mp hm).2) hothers htaken ⟨r.mutation, hbeyond, hother⟩
      rw [← hall]
      exact htested.filter _

/-- The comparison `a < b`. -/
def smallComparison : Tree :=
  let name (text : String) : Tree := .node .name 1 [.text text, .node (.usage .load) 0 []]
  .node .compare 1 [name "a", .list [.node (.comparator .lt) 0 []], .list [name "b"]]

def smallFile : SourceFile :=
  ⟨"/m.py", .node .module 0 [.list [.node .expressionStatement 1 [smallComparison]]], some "m",
    "a<b\n"⟩

/-- The mutations of the comparison, of which the second is a boundary mutation. -/
def smallFound : List Mutation :=
  Catalog.comparison ⟨"/m.py", [⟨smallFile.tree, 0, 0⟩,
    ⟨.node .expressionStatement 1 [smallComparison], 0, 0⟩]⟩ smallComparison

/-- A directory with the program `a < b`. -/
def smallProject : Surroundings where
  files := ⟨⟨[(["m.py"], .file [97, 60, 98, 10])]⟩, "/"⟩
  searchPath := []
  environment := []
  runner := fun _ _ => .ok 0

/-- A run that tests at most two mutations of comparisons. -/
def twoComparisons : RunConfig where
  paths := .texts ["m.py"]
  exclude := .list []
  testDirectory := .text "tests"
  strategies := .texts ["comparison"]
  concurrency := .whole 1
  timeout := .whole 5
  optimize := .flag true
  level := .conservative
  minComplexity := .absent
  maxPerFunction := .absent
  maxMutations := some (.whole 2)
  isolation := .lock
  testCommand := .absent
  environmentName := .text "test"

theorem finds_smallFound : Finds twoComparisons smallProject ⟨[], none⟩ smallFound := by
  refine ⟨[.comparison], [smallFile], by rfl, ?_, by rfl⟩
  decide +kernel

theorem mutations_optimize_smallFound :
    (Optimizer.optimize ⟨true, 1, 50, true⟩ smallFound).map Candidate.mutation =
      smallFound.reverse := by cbv

/-- The boundary mutation comes first, and it is tested as well as the other one. -/
theorem boundary_mutation_tested_in_small_project :
    let o : Optimizer.Options := ⟨true, 1, 50, true⟩
    (o.enabled = true ∧ o.keepsBoundary = true ∧
      ∃ others, smallFound.reverse = smallFound.filter Optimizer.isBoundary ++ others ∧
        ∀ m ∈ others, Optimizer.isBoundary m = false) ∧
      ∃ outcome, twoComparisons.optimize.isYes = true ∧
        runProject twoComparisons smallProject ⟨[], none⟩ = .ok outcome ∧
        (∃ r ∈ outcome.results, Optimizer.isBoundary r.mutation = false) ∧
        ((outcome.results.map Testing.MutationResult.mutation).filter Optimizer.isBoundary).Perm
          (smallFound.filter Optimizer.isBoundary) := by
  intro o
  obtain ⟨hoptimized, hrun⟩ := boundary_mutations_kept_and_tested
  constructor
  · obtain ⟨others, hfirst, hothers⟩ := (hoptimized o smallFound rfl rfl).1
    rw [mutations_optimize_smallFound] at hfirst
    exact ⟨rfl, rfl, others, hfirst, hothers⟩
  · have hoptions : twoComparisons.optimizerSettings.options (Optimizer.score smallFound) =
        .ok o := by cbv
    obtain ⟨outcome, houtcome⟩ := exists_outcome_of_finds finds_smallFound hoptions rfl rfl rfl
    obtain ⟨found, hfinds, -, hboundary⟩ :=
      hrun twoComparisons smallProject ⟨[], none⟩ outcome rfl houtcome
    obtain ⟨found', options, selected, hfinds', hoptions', hselected, htested⟩ :=
      exists_selected_of_runProject houtcome
    cases hfinds.unique finds_smallFound
    cases hfinds'.unique finds_smallFound
    cases hoptions.symm.trans hoptions'
    cases hselected
    rw [List.map_take, mutations_optimize_smallFound] at htested
    have hother : ∃ m ∈ smallFound.reverse, Optimizer.isBoundary m = false := by decide +kernel
    obtain ⟨m, hm, hisOther⟩ := hother
    obtain ⟨r, hr, rfl⟩ := List.mem_map.mp (htested.mem_iff.mpr hm)
    exact ⟨outcome, rfl, houtcome, ⟨r, hr, hisOther⟩, hboundary ⟨r, hr, hisOther⟩⟩

end MutationTesting.Run
