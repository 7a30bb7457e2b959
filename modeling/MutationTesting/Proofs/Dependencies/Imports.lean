import MutationTesting.Files.Discovery
import MutationTesting.Mutation.Patch
import MutationTesting.Proofs.Files.ModuleName
import MutationTesting.Proofs.Text.Order

/-!
# Imports of modules

A test refers to every module that it imports, wherever the import stands: every node of the test is
looked at, and what has been seen of it only grows while it is read.
-/

namespace MutationTesting.Dependencies

open MutationTesting.Files

/-- Whether a statement imports a module by its whole name: the module itself, names from it, or it as
a name from its package. -/
inductive Imports (name : String) : Tree → Prop
  | whole {line aliasLine : Nat} {aliases : List Tree} {asName : Tree}
      (halias : .node .alias aliasLine [.text name, asName] ∈ aliases) :
      Imports name (.node .importStatement line [.list aliases])
  | content {line : Nat} {aliases : List Tree} :
      Imports name (.node .importFrom line [.text name, .list aliases, .number 0])
  | member {line aliasLine : Nat} {package last : String} {aliases : List Tree} {asName : Tree}
      (halias : .node .alias aliasLine [.text last, asName] ∈ aliases)
      (hname : package ++ "." ++ last = name) :
      Imports name (.node .importFrom line [.text package, .list aliases, .number 0])

namespace Sighting

variable {name : String}

@[simp]
theorem modules_refer (s : Sighting) (module : String) :
    (s.refer module).modules = module :: s.modules := rfl

@[simp]
theorem modules_bind (s : Sighting) (name module : String) :
    (s.bind name module).modules = s.modules := rfl

@[simp]
theorem modules_label (s : Sighting) (text : String) : (s.label text).modules = s.modules := rfl

theorem subset_importModule (s : Sighting) (t : Tree) :
    s.modules ⊆ (s.importModule t).modules := by
  unfold importModule
  split
  · dsimp only
    split
    · simp
    · split <;> simp
  · exact List.Subset.refl _

theorem subset_importName (package : String) (s : Sighting) (t : Tree) :
    s.modules ⊆ (importName package s t).modules := by
  unfold importName
  split
  · split
    · exact List.Subset.refl _
    · dsimp only
      split <;> simp
  · exact List.Subset.refl _

section Fold

variable {step : Sighting → Tree → Sighting} (hstep : ∀ s t, s.modules ⊆ (step s t).modules)
include hstep

theorem subset_foldl (items : List Tree) (s : Sighting) :
    s.modules ⊆ (items.foldl step s).modules := by
  induction items generalizing s with
  | nil => exact List.Subset.refl _
  | cons first rest ih => exact List.Subset.trans (hstep s first) (ih (step s first))

theorem mem_foldl {items : List Tree} {t : Tree} (ht : t ∈ items)
    (hadds : ∀ s, name ∈ (step s t).modules) (s : Sighting) :
    name ∈ (items.foldl step s).modules := by
  induction items generalizing s with
  | nil => cases ht
  | cons first rest ih =>
      rcases List.mem_cons.mp ht with rfl | hlater
      · exact subset_foldl hstep rest _ (hadds s)
      · exact ih hlater (step s first)

end Fold

theorem subset_documentation (s : Sighting) (body : List Tree) :
    s.modules ⊆ (s.documentation body).modules := by
  unfold documentation
  split <;> simp

theorem subset_call (s : Sighting) (callee : Tree) (arguments : List Tree) :
    s.modules ⊆ (s.call callee arguments).modules := by
  unfold call
  split
  · split <;> simp
  · split <;> simp
  · exact List.Subset.refl _

/-- Looking at a node forgets no module. -/
theorem subset_look (s : Sighting) (t : Tree) : s.modules ⊆ (s.look t).modules := by
  unfold look
  split
  · exact subset_foldl subset_importModule _ s
  · split
    · exact List.Subset.refl _
    · refine List.Subset.trans ?_ (subset_foldl (subset_importName _) _ _)
      exact List.subset_cons_self _ s.modules
  · exact subset_call s _ _
  · exact subset_documentation s _
  · exact subset_documentation s _
  · exact subset_documentation s _
  · exact List.Subset.refl _

/-- An import adds the module that it imports. -/
theorem mem_look_of_imports (hname : IsDottedName name) {t : Tree} (himports : Imports name t)
    (s : Sighting) : name ∈ (s.look t).modules := by
  cases himports with
  | whole halias =>
      refine mem_foldl subset_importModule halias (fun s => ?_) s
      unfold importModule
      dsimp only
      split
      · simp
      · split <;> simp
  | content =>
      rw [look, if_neg hname.ne_empty]
      exact subset_foldl (subset_importName name) _ _ List.mem_cons_self
  | @member line aliasLine package last aliases asName halias hqualified =>
      -- no module name ends in a star or begins with a point, so the alias is not passed over
      have hpackage : package ≠ "" := by
        rintro rfl
        exact hname.ne_point_append last (by rw [← hqualified]; simp)
      have hlast : last ≠ "*" := by
        rintro rfl
        exact hname.star_not_mem (by rw [← hqualified]; simp)
      rw [look, if_neg hpackage]
      refine mem_foldl (subset_importName package) halias (fun s => ?_) _
      rw [importName, if_neg hlast]
      dsimp only
      split <;> simp [hqualified]

end Sighting

mutual

theorem subset_survey : ∀ (s : Sighting) (t : Tree), s.modules ⊆ (survey s t).modules
  | s, .list items => subset_surveyAll s items
  | s, .node kind line fields =>
    List.Subset.trans (s.subset_look (.node kind line fields)) (subset_surveyAll _ fields)
  | _, .absent | _, .text _ | _, .number _ | _, .literal _ => List.Subset.refl _

theorem subset_surveyAll :
    ∀ (s : Sighting) (ts : List Tree), s.modules ⊆ (surveyAll s ts).modules
  | _, [] => List.Subset.refl _
  | s, t :: rest => List.Subset.trans (subset_survey s t) (subset_surveyAll _ rest)

end

mutual

/-- What looking at one of its nodes adds is seen of a tree. -/
theorem mem_survey_of_mem_nodes {name : String} {n : Tree}
    (hadds : ∀ s : Sighting, name ∈ (s.look n).modules) :
    ∀ (s : Sighting) (t : Tree), n ∈ t.nodes → name ∈ (survey s t).modules
  | s, .node kind line fields, hn => by
      rw [Tree.nodes] at hn
      rw [survey]
      rcases List.mem_cons.mp hn with rfl | hbelow
      · exact subset_surveyAll _ fields (hadds s)
      · exact mem_surveyAll_of_mem_nodesInFields hadds _ fields hbelow
  | _, .list _, hn | _, .absent, hn | _, .text _, hn | _, .number _, hn | _, .literal _, hn => by
      cases hn

theorem mem_surveyAll_of_mem_nodesInFields {name : String} {n : Tree}
    (hadds : ∀ s : Sighting, name ∈ (s.look n).modules) :
    ∀ (s : Sighting) (fields : List Tree), n ∈ Tree.nodesInFields fields →
      name ∈ (surveyAll s fields).modules
  | _, [], hn => by cases hn
  | s, .list items :: rest, hn => by
      rw [Tree.nodesInFields] at hn
      rw [surveyAll, survey]
      rcases List.mem_append.mp hn with hhere | hlater
      · exact subset_surveyAll _ rest (mem_surveyAll_of_mem_nodesInItems hadds s items hhere)
      · exact mem_surveyAll_of_mem_nodesInFields hadds _ rest hlater
  | s, .node kind line fields :: rest, hn => by
      rw [Tree.nodesInFields] at hn
      · rw [surveyAll]
        rcases List.mem_append.mp hn with hhere | hlater
        · exact subset_surveyAll _ rest (mem_survey_of_mem_nodes hadds s (.node kind line fields) hhere)
        · exact mem_surveyAll_of_mem_nodesInFields hadds _ rest hlater
      · simp
  | s, .absent :: rest, hn | s, .text _ :: rest, hn | s, .number _ :: rest, hn
  | s, .literal _ :: rest, hn => mem_surveyAll_of_mem_nodesInFields hadds s rest hn

theorem mem_surveyAll_of_mem_nodesInItems {name : String} {n : Tree}
    (hadds : ∀ s : Sighting, name ∈ (s.look n).modules) :
    ∀ (s : Sighting) (items : List Tree), n ∈ Tree.nodesInItems items →
      name ∈ (surveyAll s items).modules
  | _, [], hn => by cases hn
  | s, t :: rest, hn => by
      rw [Tree.nodesInItems] at hn
      rw [surveyAll]
      rcases List.mem_append.mp hn with hhere | hlater
      · exact subset_surveyAll _ rest (mem_survey_of_mem_nodes hadds s t hhere)
      · exact mem_surveyAll_of_mem_nodesInItems hadds _ rest hlater

end

/-- A test refers to a module that it imports anywhere. -/
theorem mem_references_of_imports {name : String} (hname : IsDottedName name) {test n : Tree}
    (hn : n ∈ test.nodes) (himports : Imports name n) (known : Option (List String)) :
    name ∈ references known test := by
  have hseen := mem_survey_of_mem_nodes (Sighting.mem_look_of_imports hname himports) {} test hn
  exact Text.mem_sortedSet.mpr (List.mem_append_left _ hseen)

namespace DependencyMap

variable {d : DependencyMap} {module test : String}

theorem mem_testsFor : test ∈ d.testsFor module ↔ (module, test) ∈ d.pairs := by
  simp [testsFor]

theorem mem_pairs_add {pair : String × String} :
    pair ∈ (d.add module test).pairs ↔ pair ∈ d.pairs ∨ pair = (module, test) := by
  rw [add]
  split
  next hthere =>
      rw [List.contains_iff_mem] at hthere
      exact ⟨Or.inl, fun h => h.elim id fun heq => heq ▸ hthere⟩
  next => simp

theorem mem_pairs_addTest {modules : List String} {pair : String × String} :
    pair ∈ (d.addTest test modules).pairs ↔ pair ∈ d.pairs ∨ pair.1 ∈ modules ∧ pair.2 = test := by
  rw [addTest]
  induction modules generalizing d with
  | nil => simp
  | cons first rest ih =>
      rw [List.foldl_cons, ih, mem_pairs_add, or_assoc]
      refine or_congr_right ?_
      obtain ⟨module, other⟩ := pair
      simp only [Prod.mk.injEq, List.mem_cons]
      tauto

end DependencyMap

/-- Whether a test can be read and refers to a module. -/
def RefersTo (fs : FileSystem) (known : Option (List String)) (test : Path) (module : String) : Prop :=
  ∃ source tree, Discovery.readTree? fs test = some (source, tree) ∧ module ∈ references known tree

/-- The dependency map tells which tests refer to which modules. -/
theorem mem_pairs_analyze {fs : FileSystem} {known : Option (List String)} {tests : List Path}
    {module test : String} :
    (module, test) ∈ (Discovery.analyze fs known tests).pairs ↔
      test ∈ tests ∧ RefersTo fs known test module := by
  have hfold : ∀ step : DependencyMap → Path → DependencyMap,
      (∀ d other, (module, test) ∈ (step d other).pairs ↔
        (module, test) ∈ d.pairs ∨ test = other ∧ RefersTo fs known test module) →
      ∀ d, (module, test) ∈ (tests.foldl step d).pairs ↔
        (module, test) ∈ d.pairs ∨ test ∈ tests ∧ RefersTo fs known test module := by
    intro step hstep
    induction tests with
    | nil => simp
    | cons first rest ih =>
        intro d
        rw [List.foldl_cons, ih, hstep, List.mem_cons]
        tauto
  refine (hfold _ (fun d other => ?_) {}).trans (by simp)
  split
  next source tree hread =>
      rw [DependencyMap.mem_pairs_addTest]
      refine or_congr_right ⟨?_, ?_⟩
      · rintro ⟨hmodule, rfl⟩
        exact ⟨rfl, source, tree, hread, hmodule⟩
      · rintro ⟨rfl, source', tree', hread', hmodule⟩
        cases hread.symm.trans hread'
        exact ⟨hmodule, rfl⟩
  next hnone =>
      refine (or_iff_left ?_).symm
      rintro ⟨rfl, source, tree, hread, -⟩
      rw [hnone] at hread
      cases hread

end MutationTesting.Dependencies
