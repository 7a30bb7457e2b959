import MutationTesting.Proofs.Dependencies.Imports

/-!
# What the dependency map tells

The map is read off the tests one by one, and a test that cannot be read leaves it as it is.  What it
tells of a module depends on which tests are listed, not on their order, and of each test on the text
of that test alone.
-/

namespace MutationTesting.Dependencies

open MutationTesting.Files

/-- The modules that a test imports or calls a method of. -/
def statedModules (test : Tree) : List String := (survey {} test).modules

/-- The modules that the labels of a test name. -/
def labelModules (test : Tree) : List String :=
  (survey {} test).labels.filterMap (moduleOfLabel? none)

theorem mem_references_none {test : Tree} {module : String} :
    module ∈ references none test ↔ module ∈ statedModules test ∨ module ∈ labelModules test := by
  rw [references, Text.mem_sortedSet, List.mem_append]
  rfl

theorem moduleOfLabel?_some (known : List String) (label : String) :
    moduleOfLabel? (some known) label = (moduleOfLabel? none label).filter known.contains := by
  rw [moduleOfLabel?, moduleOfLabel?, Option.filter_filter]
  rfl

/-- Of the modules that a test refers to, the known ones restrict those only that its labels alone
name. -/
theorem mem_references_some {known : List String} {test : Tree} {module : String} :
    module ∈ references (some known) test ↔
      module ∈ statedModules test ∨ module ∈ labelModules test ∧ module ∈ known := by
  rw [references, Text.mem_sortedSet, List.mem_append]
  refine or_congr_right ?_
  simp only [List.mem_filterMap, labelModules, moduleOfLabel?_some, Option.filter_eq_some_iff,
    List.contains_iff_mem]
  constructor
  · rintro ⟨label, hlabel, hmodule, hknown⟩
    exact ⟨⟨label, hlabel, hmodule⟩, hknown⟩
  · rintro ⟨⟨label, hlabel, hmodule⟩, hknown⟩
    exact ⟨label, hlabel, hmodule, hknown⟩

/-- Whether a test can be read and is a program. -/
def isReadable (fs : FileSystem) (test : Path) : Bool := (Discovery.readTree? fs test).isSome

namespace DependencyMap

/-- Whether two maps tell the same, in whatever order it was found. -/
def Agrees (d e : DependencyMap) : Prop :=
  d.modules = e.modules ∧ ∀ module, d.testsFor module = e.testsFor module

variable {d e : DependencyMap}

theorem pairwise_lt_testsFor (d : DependencyMap) (module : String) :
    (d.testsFor module).Pairwise (· < ·) := Text.pairwise_lt_sortedSet _

theorem mem_modules {module : String} : module ∈ d.modules ↔ d.testsFor module ≠ [] := by
  rw [modules, Text.mem_sortedSet, List.mem_map]
  constructor
  · rintro ⟨⟨_, test⟩, hpair, rfl⟩
    exact List.ne_nil_of_mem (mem_testsFor.mpr hpair)
  · intro htests
    obtain ⟨test, htest⟩ := List.exists_mem_of_ne_nil _ htests
    exact ⟨(module, test), mem_testsFor.mp htest, rfl⟩

theorem Agrees.of_pairs (hpairs : ∀ pair, pair ∈ d.pairs ↔ pair ∈ e.pairs) : d.Agrees e := by
  constructor
  · apply Text.sortedSet_congr
    simp [hpairs]
  · intro module
    apply Text.sortedSet_congr
    simp [hpairs]

end DependencyMap

theorem mem_testsFor_analyze {fs : FileSystem} {known : Option (List String)} {tests : List Path}
    {module test : String} :
    test ∈ (Discovery.analyze fs known tests).testsFor module ↔
      test ∈ tests ∧ RefersTo fs known test module :=
  DependencyMap.mem_testsFor.trans mem_pairs_analyze

theorem agrees_analyze {fs : FileSystem} {known : Option (List String)} {tests others : List Path}
    (hsame : ∀ test, test ∈ others ↔ test ∈ tests) :
    (Discovery.analyze fs known others).Agrees (Discovery.analyze fs known tests) := by
  apply DependencyMap.Agrees.of_pairs
  rintro ⟨module, test⟩
  rw [mem_pairs_analyze, mem_pairs_analyze, hsame]

/-- The tests that cannot be read may as well not be listed. -/
theorem analyze_filter_isReadable (fs : FileSystem) (known : Option (List String))
    (tests : List Path) :
    Discovery.analyze fs known (tests.filter (isReadable fs)) =
      Discovery.analyze fs known tests := by
  rw [Discovery.analyze, List.foldl_filter]
  congr 1
  funext d test
  cases hread : Discovery.readTree? fs test with
  | none => simp [isReadable, hread]
  | some program => simp [isReadable, hread]

/-- The dependency map tells exactly which of the listed tests can be read and refer to a module, and
exactly the modules that some of them refer to.  Neither the order of the tests nor one that is listed
again nor one that cannot be read matters, and of what a test refers to the known modules restrict
only what its labels name. -/
theorem dependency_map_is_exact (fs : FileSystem) (known : Option (List String))
    (tests : List Path) :
    (∀ module, ((Discovery.analyze fs known tests).testsFor module).Pairwise (· < ·) ∧
      ∀ test, test ∈ (Discovery.analyze fs known tests).testsFor module ↔
        test ∈ tests ∧ RefersTo fs known test module) ∧
    ((Discovery.analyze fs known tests).modules.Pairwise (· < ·) ∧
      ∀ module, module ∈ (Discovery.analyze fs known tests).modules ↔
        (Discovery.analyze fs known tests).testsFor module ≠ []) ∧
    (∀ others, (∀ test, test ∈ others ↔ test ∈ tests) →
      (Discovery.analyze fs known others).Agrees (Discovery.analyze fs known tests)) ∧
    Discovery.analyze fs known (tests.filter (isReadable fs)) = Discovery.analyze fs known tests ∧
    ∀ names test module, module ∈ references (some names) test ↔
      module ∈ references none test ∧
        ¬(module ∈ labelModules test ∧ module ∉ statedModules test ∧ module ∉ names) := by
  refine ⟨fun module => ⟨DependencyMap.pairwise_lt_testsFor _ module, fun test => ?_⟩,
    ⟨Text.pairwise_lt_sortedSet _, fun module => DependencyMap.mem_modules⟩,
    fun others hsame => agrees_analyze hsame, analyze_filter_isReadable fs known tests,
    fun names test module => ?_⟩
  · exact mem_testsFor_analyze
  · rw [mem_references_some, mem_references_none]
    tauto

/-- A test that imports `a` and has a label with the name `B`, one that is no text and one that is no
program. -/
def brokenTests : FileSystem :=
  ⟨⟨[(["t.py"], .file [105, 109, 112, 111, 114, 116, 32, 97, 10, 105, 116, 40, 34, 66, 32, 99, 34,
      41, 10]),
    (["u.py"], .file [255]), (["v.py"], .file [49, 32, 43, 10])]⟩, "/"⟩

/-- The program of the first of them. -/
def labelledImport : Tree :=
  let name (text : String) : Tree := .node .name 2 [.text text, .node (.usage .load) 0 []]
  .node .module 0 [.list [
    .node .importStatement 1 [.list [.node .alias 1 [.text "a", .absent]]],
    .node .expressionStatement 2 [.node .call 2 [name "it",
      .list [.node .constant 2 [.literal (.text "B c"), .absent]], .list []]]]]

theorem statedModules_labelledImport : statedModules labelledImport = ["a"] := by decide +kernel

theorem labelModules_labelledImport : labelModules labelledImport = ["B"] := by decide +kernel

/-- The import is found wherever the test is listed, however often and beside whatever broken tests; the
label tells of a module only where that is known. -/
theorem broken_tests_leave_the_import :
    (Discovery.analyze brokenTests (some []) ["v.py", "t.py", "m.py", "u.py"]).Agrees
      (Discovery.analyze brokenTests (some []) ["t.py", "u.py", "t.py", "m.py", "v.py"]) ∧
    "t.py" ∈ (Discovery.analyze brokenTests (some [])
      ["t.py", "u.py", "t.py", "m.py", "v.py"]).testsFor "a" ∧
    "B" ∈ references none labelledImport ∧ "B" ∉ references (some []) labelledImport := by
  have hsame : ∀ test, test ∈ ["v.py", "t.py", "m.py", "u.py"] ↔
      test ∈ ["t.py", "u.py", "t.py", "m.py", "v.py"] := by
    intro test
    simp only [List.mem_cons, List.not_mem_nil, or_false]
    tauto
  have hprogram : (Discovery.readTree? brokenTests "t.py").map Prod.snd = some labelledImport := by
    decide +kernel
  obtain ⟨⟨source, tree⟩, hread, rfl⟩ := Option.map_eq_some_iff.mp hprogram
  obtain ⟨htests, -, hothers, -, hknown⟩ := dependency_map_is_exact brokenTests (some [])
    ["t.py", "u.py", "t.py", "m.py", "v.py"]
  have hlabel : "B" ∈ references none labelledImport :=
    mem_references_none.mpr (Or.inr (by simp [labelModules_labelledImport]))
  refine ⟨hothers _ hsame, ?_, hlabel, ?_⟩
  · refine ((htests "a").2 "t.py").mpr ⟨List.mem_cons_self, source, _, hread, ?_⟩
    exact mem_references_some.mpr (Or.inl (by simp [statedModules_labelledImport]))
  · intro hkept
    refine ((hknown [] labelledImport "B").mp hkept).2 ⟨?_, ?_, List.not_mem_nil⟩
    · simp [labelModules_labelledImport]
    · simp [statedModules_labelledImport]

end MutationTesting.Dependencies
