import MutationTesting.Proofs.Files.TestName
import MutationTesting.Proofs.Run.Floor
import MutationTesting.Proofs.Run.SandboxImports
import MutationTesting.Proofs.Run.TestSelection

/-!
# What is mutated is no test

Files are told from tests by their last names, and these are kept by everything that is done to a
path on its way from a pattern to a worker: it is made absolute, and moved to a copy of the project.
So no worker puts a mutant at a path that tests are run from.  Only links can make the two meet at one
file.
-/

namespace MutationTesting.Run

open MutationTesting.Files
open MutationTesting.Files.FileSystem (pathOf)
open MutationTesting.Files.Path (IsComponent)
open MutationTesting.Testing
open MutationTesting.Settings (RunConfig)

/-- A path inside the project that leads nowhere down is that of the project. -/
theorem names_eq_of_inside {target start : Path}
    (hinside : Text.startsWith ".." (Path.relative target start) = false)
    (hdown : (Path.dropCommon (Path.names start) (Path.names target)).2 = []) :
    Path.names start = Path.names target := by
  obtain ⟨common, hstart, htarget⟩ :=
    Path.dropCommon_eq_append (Path.names start) (Path.names target)
  rw [hdown, List.append_nil] at htarget
  by_cases hup : (Path.dropCommon (Path.names start) (Path.names target)).1 = []
  · rw [hup, List.append_nil] at hstart
    exact hstart.trans htarget.symm
  · rw [← htarget] at hstart
    rw [startsWith_dots_relative hup hstart] at hinside
    cases hinside

/-- The copy of a file has the name of the file. -/
theorem Sandbox.baseName_relocate {b : Sandbox} {path above : Path} {slot : Nat}
    (hproject : b.project = Path.normalize above)
    (hcopy : b.copy = pathOf (copyRoot b.project slot))
    (hname : Store.IsName (Path.baseName path)) :
    Path.baseName (b.relocate path) = Path.baseName path := by
  have habsolute := Path.baseName_absolute_eq b.directory hname
  have hsome : Path.baseName (Path.absolute b.directory path) ≠ "" := habsolute.symm ▸ hname.1
  rw [relocate]
  split
  next hinside =>
      rw [isInside, Bool.not_eq_true', placeInProject] at hinside
      rw [placeInProject]
      by_cases hdown : (Path.dropCommon (Path.names b.project)
          (Path.names (Path.absolute b.directory path))).2 = []
      · -- the path is that of the project, and the copy has the name of the project
        have hsame := names_eq_of_inside hinside hdown
        obtain ⟨before, hbefore⟩ := Path.names_eq_concat hsome
        have hbase : Path.baseName b.project = Path.baseName path := by
          rw [hbefore, habsolute, hproject] at hsame
          rw [hproject]
          exact Path.baseName_normalize_of_names hsame
        have hcopyName : copyName b.project = Path.baseName path := by
          rw [copyName, hbase, if_neg hname.1]
        have hlast : IsComponent (Path.baseName path) :=
          ⟨hname, Path.separator_not_mem_baseName path⟩
        have hroot : ∀ name ∈ copyParent slot ++ [Path.baseName path], IsComponent name :=
          Path.isComponent_concat_iff.mpr ⟨isComponent_of_mem_copyParent slot, hlast⟩
        have hdot : Path.relative (Path.absolute b.directory path) b.project = "." := by
          rw [Path.relative, hsame, ← Path.relative, relative_self]
        rw [hdot, hcopy, copyRoot, hcopyName, normalize_join_dot hroot,
          Path.baseName_pathOf (isComponent_of_mem_copyParent slot) hlast]
      · have hrelative := (Path.baseName_relative hsome hdown).trans habsolute
        have hjoin := (Path.baseName_join_eq b.copy _).trans hrelative
        rw [Path.baseName_normalize (hjoin.symm ▸ hname), hjoin]
  next => exact habsolute

/-! ## Files and tests -/

/-- Whether a path has an ordinary last name that is not the name of a test. -/
structure IsNoTest (path : Path) : Prop where
  name : Store.IsName (Path.baseName path)
  unmarked : isTestFile path = false

/-- Whether two paths are different ones, and lead to one place only if one of them is a link. -/
structure Apart (path test : Path) : Prop where
  different : path ≠ test
  linked : ∀ fs : FileSystem, fs.SamePlace path test → fs.IsLink path ∨ fs.IsLink test

theorem isName_of_forall_ne {name : String} (hname : ∀ other ∈ ["", ".", ".."], name ≠ other) :
    Store.IsName name := by
  simpa [Store.IsName] using hname

theorem isName_of_isTestFile {path : Path} (htest : isTestFile path = true) :
    Store.IsName (Path.baseName path) := by
  have hordinary : ∀ name ∈ ["", ".", ".."], (isTestName name.toList ||
      isTestName (withoutFinalNewline name.toList)) = false := by decide
  apply isName_of_forall_ne
  intro name hmem hsame
  rw [isTestFile_eq, hsame, hordinary name hmem] at htest
  cases htest

theorem IsNoTest.apart {path test : Path} (hpath : IsNoTest path) (htest : isTestFile test = true) :
    Apart path test := by
  have hnames : Path.baseName path ≠ Path.baseName test := by
    intro hsame
    have hunmarked := hpath.unmarked
    rw [isTestFile_congr hsame, htest] at hunmarked
    cases hunmarked
  constructor
  · intro hsame
    exact hnames (congrArg Path.baseName hsame)
  · intro fs hsame
    exact hsame.isLink_or hpath.name (isName_of_isTestFile htest) hnames

theorem isTestFile_absolute {path : Path} (directory : Path) (htest : isTestFile path = true) :
    isTestFile (Path.absolute directory path) = true := by
  rw [isTestFile_congr (Path.baseName_absolute_eq directory (isName_of_isTestFile htest)), htest]

theorem IsNoTest.absolute {path : Path} (hpath : IsNoTest path) (directory : Path) :
    IsNoTest (Path.absolute directory path) := by
  have hname := Path.baseName_absolute_eq directory hpath.name
  exact ⟨hname.symm ▸ hpath.name, (isTestFile_congr hname).trans hpath.unmarked⟩

theorem isName_of_source {path : Path} (hsource : Text.endsWith sourceExtension path = true) :
    Store.IsName (Path.baseName path) := by
  rw [Text.endsWith, List.isSuffixOf_iff_suffix] at hsource
  obtain ⟨stem, hstem⟩ := hsource
  have hlast : path.toList.getLast? = some 'y' := by
    rw [← hstem, List.getLast?_append]
    rfl
  have hname := Path.getLast?_baseName hlast (by decide)
  have hordinary : ∀ name ∈ ["", ".", ".."], name.toList.getLast? ≠ some 'y' := by decide
  exact isName_of_forall_ne fun name hmem hsame => hordinary name hmem (hsame ▸ hname)

theorem isNoTest_of_mem_load {fs : FileSystem} {searchPath : List Path} {root : Option Path}
    {excluded : List String} {pattern : Path} {file : SourceFile}
    (hfile : file ∈ Discovery.load fs searchPath root excluded pattern) : IsNoTest file.path := by
  obtain ⟨path, hpath, hload⟩ := List.mem_filterMap.mp hfile
  rw [Discovery.expand, Text.mem_sortedSet, List.mem_filter, Bool.and_eq_true] at hpath
  have hpassed := hload
  rw [Discovery.loadFile?, Option.ite_none_left_eq_some, Bool.or_eq_true, not_or,
    Bool.not_eq_true] at hpassed
  rw [(Discovery.fields_of_loadFile? hload).1]
  exact IsNoTest.absolute ⟨isName_of_source hpath.2.2, hpassed.1.1⟩ fs.directory

theorem isTestFile_of_mem_testFiles {fs : FileSystem} {directory test : Path}
    (htest : test ∈ Discovery.testFiles fs directory) : isTestFile test = true := by
  rw [Discovery.testFiles, Text.mem_sortedSet, List.mem_filter, Discovery.holdsTests,
    Bool.and_eq_true] at htest
  exact htest.2.1

theorem isTestFile_of_mem_testsBelow {fs : FileSystem} {directory test : Path}
    (htest : test ∈ testsBelow fs directory) : isTestFile test = true := by
  rw [testsBelow] at htest
  split at htest
  next =>
      obtain ⟨found, hfound, rfl⟩ := List.mem_map.mp htest
      exact isTestFile_absolute fs.directory (isTestFile_of_mem_testFiles hfound)
  next => cases htest

theorem exists_load_of_mem_loadFiles {c : RunConfig} {fs : FileSystem} {searchPath : List Path}
    {scope : Scope} {files : List SourceFile} (hload : loadFiles c fs searchPath scope = .ok files)
    {file : SourceFile} (hfile : file ∈ files) :
    ∃ excluded pattern, file ∈ Discovery.load fs searchPath scope.root excluded pattern := by
  obtain ⟨excluded, -, hload⟩ := bind_eq_ok_iff.mp hload
  dsimp only at hload
  split at hload
  all_goals
    obtain ⟨patterns, -, hload⟩ := bind_eq_ok_iff.mp hload
    cases hload
    obtain ⟨pattern, -, hfound⟩ := List.mem_flatMap.mp ((eachOnce_sublist _).subset hfile)
    exact ⟨_, _, hfound⟩

/-! ## Workers -/

/-- All tests of a mutation are among those of the run. -/
theorem mem_of_mem_testsFor {a : Assignment} {fs : FileSystem} {known : Option (List String)}
    {tests : List Path} (hdependencies : a.dependencies = Discovery.analyze fs known tests)
    (hfallback : a.fallbackTests = tests) {m : Mutation} {test : Path}
    (htest : test ∈ a.testsFor m) : test ∈ tests := by
  by_cases hreferring : ∃ module, a.moduleOf m.filePath = some module ∧
      ∃ other, (module, other) ∈ a.dependencies.pairs
  · obtain ⟨module, hmodule, other, hother⟩ := hreferring
    have hpair := (Assignment.mem_testsFor_of_mem_pairs hmodule hother test).mp htest
    rw [hdependencies, Dependencies.mem_pairs_analyze] at hpair
    exact hpair.1
  · have hnone : ∀ module, a.moduleOf m.filePath = some module →
        ∀ other, (module, other) ∉ a.dependencies.pairs :=
      fun module hmodule other hother => hreferring ⟨module, hmodule, other, hother⟩
    rw [← hfallback]
    exact (Assignment.mem_testsFor_of_forall_not_mem hnone test).mp htest

theorem Assignment.exists_project_eq (a : Assignment) (fs : FileSystem) :
    ∃ above, a.project fs = Path.normalize above := by
  rw [Assignment.project]
  split
  all_goals exact ⟨_, rfl⟩

namespace Yard

variable {a : Assignment} {start : FileSystem} {y next : Yard} {slot : Nat} {o : Occupant}

theorem occupant_of_update {occupant : Nat → Option Occupant} {other : Nat}
    {new : Option Occupant} (ho : Function.update occupant other new slot = some o) :
    slot = other ∧ new = some o ∨ occupant slot = some o := by
  by_cases hslot : slot = other
  · subst hslot
    rw [Function.update_self] at ho
    exact Or.inl ⟨rfl, ho⟩
  · rw [Function.update_of_ne hslot] at ho
    exact Or.inr ho

/-- Every worker has been placed some time before, in its slot and for its mutation. -/
theorem Reachable.exists_placementOf (hreachable : Reachable a start y)
    (ho : y.occupant slot = some o) :
    ∃ before observations w, Reachable a start before ∧
      placementOf a ⟨before.files, before.sandboxes, observations⟩ slot (a.testsFor o.mutation) =
        .ok (w, o.placement) := by
  induction hreachable generalizing slot o with
  | refl => cases ho
  | tail hbefore hstep ih =>
      cases hstep with
      | place _ hplaced =>
          cases occupant_of_update ho with
          | inl hnew =>
              obtain ⟨rfl, hnew⟩ := hnew
              cases hnew
              exact ⟨_, _, _, hbefore, hplaced⟩
          | inr hsame => exact ih hsame
      | advance _ hoccupied =>
          cases occupant_of_update ho with
          | inl hnew =>
              obtain ⟨rfl, hnew⟩ := hnew
              cases hnew
              have hplaced := ih hoccupied
              exact hplaced
          | inr hsame => exact ih hsame
      | finish _ =>
          cases occupant_of_update ho with
          | inl hnew => cases hnew.2
          | inr hsame => exact ih hsame

/-- The path that a worker changes is no test, and those that it has run are tests. -/
theorem Reachable.tests_apart (hreachable : Reachable a start y) (ho : y.occupant slot = some o)
    (hsource : IsNoTest a.source.path)
    (htests : ∀ test ∈ a.testsFor o.mutation, isTestFile test = true) :
    IsNoTest o.placement.target ∧ ∀ test ∈ o.placement.request.tests, isTestFile test = true := by
  obtain ⟨before, observations, w, hbefore, hplaced⟩ := hreachable.exists_placementOf ho
  cases hisolation : a.options.isolation with
  | lock =>
      simp only [placementOf, hisolation, Except.ok.injEq, Prod.mk.injEq] at hplaced
      rw [← hplaced.2]
      exact ⟨hsource, htests⟩
  | sandbox =>
      have hassigned := hbefore.assigned hisolation
      simp only [placementOf, hisolation, project_congr a hassigned.directory] at hplaced
      obtain ⟨⟨made, copy⟩, hsandbox, hrest⟩ := bind_eq_ok_iff.mp hplaced
      simp only [pure, Except.pure, Except.ok.injEq, Prod.mk.injEq] at hrest
      obtain ⟨above, habove⟩ := a.exists_project_eq start
      have hcopy := (hassigned.copies_of_sandboxOf hsandbox).1
      let b : Sandbox := ⟨made.files.directory, a.project start, copy⟩
      have hname : ∀ {path}, Store.IsName (Path.baseName path) →
          Path.baseName (b.relocate path) = Path.baseName path :=
        fun hpath => Sandbox.baseName_relocate habove hcopy hpath
      rw [← hrest.2]
      constructor
      · dsimp only
        split
        next =>
            have hkept := hname hsource.name
            exact ⟨hkept.symm ▸ hsource.name, (isTestFile_congr hkept).trans hsource.unmarked⟩
        next => exact hsource
      · intro test htest
        obtain ⟨original, horiginal, rfl⟩ := List.mem_map.mp htest
        have hmarked := htests original horiginal
        exact (isTestFile_congr (hname (isName_of_isTestFile hmarked))).trans hmarked

end Yard

/-- The paths that the workers of a run may put mutants at. -/
def Plan.MayPatch (p : Plan) (path : Path) : Prop :=
  ∃ file ∈ p.files, ∃ options start responds y slot t,
    poolOptions p.config p.root = .ok options ∧
      Floor.Reachable (p.assignment options file) start responds y ∧ y.turn slot = some t ∧
        path = t.placement.target

/-- The paths that the workers of a run may have run as tests. -/
def Plan.MayTest (p : Plan) (path : Path) : Prop :=
  ∃ file ∈ p.files, ∃ options start responds y slot t,
    poolOptions p.config p.root = .ok options ∧
      Floor.Reachable (p.assignment options file) start responds y ∧ y.turn slot = some t ∧
        path ∈ t.placement.request.tests

section Plans

variable {c : RunConfig} {s : Surroundings} {scope : Scope} {found : List Mutation} {p : Plan}

theorem Plans.isNoTest (hplans : Plans c s scope found p) {file : SourceFile}
    (hfile : file ∈ p.files) : IsNoTest file.path := by
  obtain ⟨excluded, pattern, hload⟩ := exists_load_of_mem_loadFiles hplans.files_loaded hfile
  exact isNoTest_of_mem_load hload

theorem Plans.isTestFile_testsFor (hplans : Plans c s scope found p) {options : PoolOptions}
    {file : SourceFile} {m : Mutation} {test : Path}
    (htest : test ∈ (p.assignment options file).testsFor m) : isTestFile test = true := by
  obtain ⟨directory, -, htests⟩ := hplans.tests_found
  have hmem : test ∈ p.tests := mem_of_mem_testsFor hplans.dependencies_eq rfl htest
  rw [htests] at hmem
  exact isTestFile_of_mem_testsBelow hmem

/-- What a worker of a run changes is no test, and what it has run are tests. -/
theorem Plans.tests_apart (hplans : Plans c s scope found p) {options : PoolOptions}
    {file : SourceFile} (hfile : file ∈ p.files) {start : FileSystem}
    {responds : FileSystem → TestRun → Except RunFailure Nat → Prop} {y : Floor}
    (hreachable : Floor.Reachable (p.assignment options file) start responds y) {slot : Nat}
    {t : Turn} (ht : y.turn slot = some t) :
    IsNoTest t.placement.target ∧ ∀ test ∈ t.placement.request.tests, isTestFile test = true :=
  hreachable.yard.tests_apart (Floor.occupant_yard ht) (hplans.isNoTest hfile)
    fun _ htest => hplans.isTestFile_testsFor htest

end Plans

/-- A path names a test by its last name alone.  So what is loaded from any pattern is apart from
all tests that are found below any directory, and what any worker of a run puts a mutant at is apart
from everything that any worker has run as a test. -/
theorem mutated_files_are_no_tests :
    (∀ path : Path, path.toList.getLast? ≠ some '\n' → (isTestFile path = true ↔ NamesTest path)) ∧
    (∀ (fs : FileSystem) (searchPath : List Path) (root : Option Path) (excluded : List String)
        (pattern directory : Path), ∀ file ∈ Discovery.load fs searchPath root excluded pattern,
          ∀ test ∈ Discovery.testFiles fs directory, Apart file.path (fs.absolute test)) ∧
    ∀ (c : RunConfig) (s : Surroundings) (scope : Scope) (found : List Mutation) (p : Plan),
      Plans c s scope found p →
        ∀ path test, p.MayPatch path → p.MayTest test → Apart path test := by
  refine ⟨fun path hpath => isTestFile_iff hpath, ?_, ?_⟩
  · intro fs searchPath root excluded pattern directory file hfile test htest
    apply (isNoTest_of_mem_load hfile).apart
    exact isTestFile_absolute fs.directory (isTestFile_of_mem_testFiles htest)
  · rintro c s scope found p hplans path test
      ⟨file, hfile, _, _, _, _, _, t, -, hreachable, ht, rfl⟩
      ⟨file', hfile', _, _, _, _, _, t', -, hreachable', ht', htest⟩
    exact (hplans.tests_apart hfile hreachable ht).1.apart
      ((hplans.tests_apart hfile' hreachable' ht').2 test htest)

/-- A test, and a link to it that has another name. -/
def linkedTest : Surroundings where
  files := ⟨⟨[(["a.py"], .link "test_a.py"), (["test_a.py"], .file [97, 43, 98, 10])]⟩, "/"⟩
  searchPath := []
  environment := []
  runner := fun _ _ => .ok 0

/-- The link is what is to be mutated. -/
def mutatedLink : RunConfig :=
  { overlappingNames with
    paths := .texts ["a.py"]
    testDirectory := .text "."
    strategies := .texts ["arithmetic"]
    maxMutations := none }

/-- A link without the name of a test leads to one.  The test is loaded by the name of the link, and
run while a mutant is in it. -/
theorem linked_test_mutated_and_run :
    (∃ file ∈ Discovery.load linkedTest.files [] none [] "a.py",
      ∃ test ∈ Discovery.testFiles linkedTest.files ".",
        linkedTest.files.SamePlace file.path (linkedTest.files.absolute test)) ∧
      ∃ outcome, runProject mutatedLink linkedTest ⟨[], none⟩ = .ok outcome ∧
        ∃ o ∈ outcome.completed.observations, "/test_a.py" ∈ o.request.tests ∧
          o.files.read "/test_a.py" ≠ linkedTest.files.read "/test_a.py" := by
  constructor
  · have hload : (Discovery.load linkedTest.files [] none [] "a.py").map SourceFile.path =
        ["/a.py"] := by decide +kernel
    have htests : Discovery.testFiles linkedTest.files "." = ["./test_a.py"] := by decide +kernel
    obtain ⟨file, hfile, hpath⟩ := List.mem_map.mp (hload.symm ▸ List.mem_singleton_self "/a.py")
    refine ⟨file, hfile, "./test_a.py", htests.symm ▸ List.mem_singleton_self _, ?_⟩
    rw [hpath]
    exact ⟨["test_a.py"], _, _, rfl, rfl⟩
  · have hseen : (runProject mutatedLink linkedTest ⟨[], none⟩).toOption.any (fun outcome =>
        outcome.completed.observations.any fun o => decide ("/test_a.py" ∈ o.request.tests ∧
          o.files.read "/test_a.py" ≠ linkedTest.files.read "/test_a.py")) = true := by
      decide +kernel
    cases hrun : runProject mutatedLink linkedTest ⟨[], none⟩ with
    | error e =>
        rw [hrun] at hseen
        cases hseen
    | ok outcome =>
        rw [hrun] at hseen
        obtain ⟨o, ho, hchanged⟩ := List.any_eq_true.mp hseen
        exact ⟨outcome, rfl, o, ho, of_decide_eq_true hchanged⟩

end MutationTesting.Run
