import MutationTesting.Proofs.Files.Characters
import MutationTesting.Proofs.Run.SandboxImports
import MutationTesting.Proofs.Run.SandboxRuns
import MutationTesting.Proofs.Testing.Environment
import MutationTesting.Testing.Process

/-!
# The environment of tests in a sandbox

The search path of tests in a sandbox is made twice: the sandbox puts the copy in front of what is
inherited, and the runner adds its plugin.  No entry is lost on the way, the order stays, and no other
variable changes but the two that the runner always sets.
-/

namespace MutationTesting.Run

open MutationTesting.Files
open MutationTesting.Testing
open MutationTesting.Text (pieces)

namespace Sandbox

variable {b : Sandbox} {source : SourceFile} {directory path : Path}

theorem normalize_ne_empty (path : Path) : Path.normalize path ≠ "" := by
  unfold Path.normalize
  dsimp only
  split
  · decide
  · assumption

theorem relocate_ne_empty (b : Sandbox) (path : Path) : b.relocate path ≠ "" := by
  rw [relocate]
  split
  · exact normalize_ne_empty _
  · exact normalize_ne_empty _

section Characters

variable {c : Char} (hslash : c ≠ '/') (hdot : c ≠ '.')

theorem not_mem_ancestor (levels : Nat) (hpath : c ∉ path.toList) :
    c ∉ (ancestor levels path).toList := by
  induction levels generalizing path with
  | zero => exact hpath
  | succ levels ih => exact ih (Path.not_mem_parent hpath)

include hslash hdot

theorem not_mem_importRoot (hdirectory : c ∉ directory.toList) (hsource : c ∉ source.path.toList) :
    c ∉ (importRoot directory source).toList := by
  have hfolder : c ∉ (Path.parent (Path.absolute directory source.path)).toList :=
    Path.not_mem_parent (Path.not_mem_absolute hslash hdot hdirectory hsource)
  unfold importRoot
  dsimp only
  split
  · exact hfolder
  · exact hfolder
  · exact not_mem_ancestor _ hfolder

theorem not_mem_relocate (hdirectory : c ∉ b.directory.toList) (hcopy : c ∉ b.copy.toList)
    (hpath : c ∉ path.toList) : c ∉ (b.relocate path).toList := by
  have habsolute := Path.not_mem_absolute hslash hdot hdirectory hpath
  rw [relocate]
  split
  · exact Path.not_mem_normalize hslash hdot
      (Path.not_mem_join hslash hcopy (Path.not_mem_relative hslash hdot habsolute _))
  · exact habsolute

end Characters

end Sandbox

/-- The entries of an inherited search path that come after a first directory. -/
def laterEntries (root inherited : String) : List String :=
  (pieces pathSeparator inherited).filter fun entry => entry ≠ "" ∧ entry ≠ root

/-- What the environment of a test process holds that looks for modules in some directory first. -/
structure SearchesFirst (root plugin : Path) (parent given : Environment) (environmentName : String)
    (child : Environment) : Prop where
  searchPath : ∃ text, child.get? searchPathName = some text ∧
    let inherited := ((given.get? searchPathName).or (parent.get? searchPathName)).getD ""
    pieces pathSeparator text = root :: laterEntries root inherited ++
      if plugin ∈ root :: laterEntries root inherited then [] else [plugin]
  compiled : child.get? "PYTHONDONTWRITEBYTECODE" = some "1"
  named : child.get? "MUTASCOPE_ENV" = some environmentName
  others : ∀ name, name ≠ searchPathName → name ≠ "PYTHONDONTWRITEBYTECODE" →
    name ≠ "MUTASCOPE_ENV" → child.get? name = (given.get? name).or (parent.get? name)

section Environments

variable {root inherited : String}

theorem not_mem_of_mem_laterEntries {entry : String} (hentry : entry ∈ laterEntries root inherited) :
    pathSeparator ∉ entry.toList := by
  obtain ⟨chars, hchars, rfl⟩ := List.mem_map.mp (List.mem_filter.mp hentry).1
  rw [String.toList_ofList]
  exact Text.not_mem_of_mem_splitAt hchars

theorem ne_empty_of_mem_laterEntries {entry : String} (hentry : entry ∈ laterEntries root inherited) :
    entry ≠ "" := by
  have hkept := (List.mem_filter.mp hentry).2
  exact (of_decide_eq_true hkept).1

theorem filter_searchPathEntries (root inherited : String) :
    (searchPathEntries inherited).filter (· ≠ root) = laterEntries root inherited := by
  rw [searchPathEntries, laterEntries, List.filter_filter]
  refine List.filter_congr fun entry _ => ?_
  rw [← Bool.decide_and, decide_eq_decide, and_comm]

theorem pieces_searchPathText {entries : List String} (hsome : entries ≠ [])
    (hplain : ∀ entry ∈ entries, pathSeparator ∉ entry.toList) :
    pieces pathSeparator (searchPathText entries) = entries :=
  Text.pieces_intercalate hsome hplain

/-- The runner leaves the search path of a sandbox as it is, but for the plugin. -/
theorem searchesFirst_buildEnvironment (b : Sandbox) (installation : Installation)
    (parent : Environment) (source : SourceFile) (o : InvocationOptions)
    (hgiven : (o.environment.map Prod.fst).Nodup)
    (hroot : pathSeparator ∉ (b.relocate (Sandbox.importRoot b.directory source)).toList)
    (hplugin : pathSeparator ∉ installation.pluginRoot.toList) :
    SearchesFirst (b.relocate (Sandbox.importRoot b.directory source)) installation.pluginRoot parent
      o.environment o.environmentName
      (buildEnvironment installation parent
        { o with environment := b.environment parent o.environment source }) := by
  let root := b.relocate (Sandbox.importRoot b.directory source)
  let inherited := ((o.environment.get? searchPathName).or (parent.get? searchPathName)).getD ""
  let directories := root :: laterEntries root inherited
  have hplain : ∀ entry ∈ directories, pathSeparator ∉ entry.toList :=
    List.forall_mem_cons.mpr ⟨hroot, fun _ => not_mem_of_mem_laterEntries⟩
  have hnonempty : ∀ entry ∈ directories, entry ≠ "" :=
    List.forall_mem_cons.mpr
      ⟨Sandbox.relocate_ne_empty b _, fun _ => ne_empty_of_mem_laterEntries⟩
  have hpieces : pieces pathSeparator (searchPathText directories) = directories :=
    pieces_searchPathText (List.cons_ne_nil _ _) hplain
  have hentries : searchPathEntries (searchPathText directories) = directories := by
    rw [searchPathEntries, hpieces, List.filter_eq_self]
    exact fun entry hentry => decide_eq_true (hnonempty entry hentry)
  have hsandbox : b.environment parent o.environment source =
      o.environment.set searchPathName (searchPathText directories) := by
    rw [Sandbox.environment, filter_searchPathEntries]
    simp only [directories, inherited, Option.getD_or, root]
  have hmerged : ∀ name, (parent.update (b.environment parent o.environment source)).get? name =
      ((o.environment.set searchPathName (searchPathText directories)).get? name).or
        (parent.get? name) := by
    intro name
    rw [hsandbox, Environment.get?_update (Environment.nodup_names_set hgiven _ _)]
  refine ⟨?_, get?_buildEnvironment_compiled .., get?_buildEnvironment_name .., ?_⟩
  · have htext : (parent.update (b.environment parent o.environment source)).get? searchPathName =
        some (searchPathText directories) := by
      rw [hmerged, Environment.get?_set, Option.some_or]
    refine ⟨_, get?_buildEnvironment_searchPath installation parent _ htext, ?_⟩
    rw [hentries]
    change pieces pathSeparator _ =
      directories ++ if installation.pluginRoot ∈ directories then [] else [installation.pluginRoot]
    split
    · rw [hpieces, List.append_nil]
    · refine pieces_searchPathText (by simp) fun entry hentry => ?_
      rcases List.mem_append.mp hentry with hdirectory | hlast
      · exact hplain entry hdirectory
      · rwa [List.mem_singleton.mp hlast]
  · intro name hpath hcompiled hname
    rw [get?_buildEnvironment_of_ne installation parent _ hpath hcompiled hname, hmerged,
      Environment.get?_set_of_ne hpath]

end Environments

/-- In a sandbox the tests of a job start in the copy, with an environment whose search path is the copy of
the import root, then what is inherited, then the plugin. -/
theorem sandboxed_tests_search_copy_first (installation : Installation) {a : Assignment}
    {w w' : Workshop} {slot : Nat} {tests : List Path} {p : Placement}
    (hisolation : a.options.isolation = .sandbox)
    (hgiven : (a.options.invocation.environment.map Prod.fst).Nodup)
    (hplaced : placementOf a w slot tests = .ok (w', p)) :
    (∃ copy, p.request.options.directory = some copy ∧
      let b : Sandbox := ⟨w.files.directory, a.project w.files, copy⟩
      ((∀ path ∈ [b.directory, b.copy, a.source.path, installation.pluginRoot],
          pathSeparator ∉ path.toList) →
        SearchesFirst (b.relocate (Sandbox.importRoot b.directory a.source)) installation.pluginRoot
          a.environment a.options.invocation.environment a.options.invocation.environmentName
          (launchOf installation a.environment p.request).environment)) ∧
      ∀ job, tests = a.testsFor job.mutation → ∀ o ∈ (execute a w slot job).1.observations,
        o ∈ w.observations ∨ o.request = p.request := by
  constructor
  · simp only [placementOf, hisolation] at hplaced
    obtain ⟨⟨made, copy⟩, hsandbox, hrest⟩ := bind_eq_ok_iff.mp hplaced
    cases hrest
    refine ⟨copy, rfl, fun hplain => ?_⟩
    simp only [List.forall_mem_cons] at hplain
    obtain ⟨hdirectory, hcopy, hsource, hplugin, -⟩ := hplain
    have hsame := directory_of_sandboxOf hsandbox
    have hroot := Sandbox.not_mem_relocate (b := ⟨w.files.directory, a.project w.files, copy⟩)
      (by decide) (by decide) hdirectory hcopy
      (Sandbox.not_mem_importRoot (by decide) (by decide) hdirectory hsource)
    rw [launchOf]
    dsimp only
    rw [hsame]
    exact searchesFirst_buildEnvironment _ installation a.environment a.source
      { a.options.invocation with directory := some copy } hgiven hroot hplugin
  · rintro job rfl o ho
    rw [execute, hplaced] at ho
    dsimp only at ho
    rcases exists_iterate_work_of_mem_observations _ _ _ _ ho with hbefore | ⟨_, hrequest, -⟩
    · rw [observations_of_placementOf hisolation hplaced] at hbefore
      exact .inl hbefore
    · exact .inr hrequest

/-- A module of a project with separate sources, with search paths in both environments. -/
def separateModuleWithPaths : Assignment :=
  { separateModule with
    options := { separateModule.options with
      invocation := { environment := [("LANG", "C"),
        (searchPathName, "/lib::/tmp/mutascope-0-copy/p/src:/own:/lib")] } }
    environment := [(searchPathName, "/other"), ("HOME", "/root"), ("LANG", "en")] }

/-- The inherited entries come between the copy of the sources and the plugin. -/
theorem inherited_directories_between_copy_and_plugin : ∃ w p child text,
    placementOf separateModuleWithPaths ⟨separateSources, [], []⟩ 0 [] = .ok (w, p) ∧
      child = (launchOf ⟨"python", "/plugins"⟩ separateModuleWithPaths.environment
        p.request).environment ∧
      child.get? searchPathName = some text ∧
      pieces pathSeparator text =
        ["/tmp/mutascope-0-copy/p/src", "/lib", "/own", "/lib", "/plugins"] ∧
      child.get? "MUTASCOPE_ENV" = some "test" ∧
      child.get? "HOME" = some "/root" ∧ child.get? "LANG" = some "C" := by
  have hmade : (placementOf separateModuleWithPaths ⟨separateSources, [], []⟩ 0 []).map
      (fun placed => placed.2.request.options.directory) = .ok (some "/tmp/mutascope-0-copy/p") := by
    decide +kernel
  obtain ⟨⟨w, p⟩, hplaced, hdirectory⟩ : ∃ placed,
      placementOf separateModuleWithPaths ⟨separateSources, [], []⟩ 0 [] = .ok placed ∧
        placed.2.request.options.directory = some "/tmp/mutascope-0-copy/p" := by
    cases hresult : placementOf separateModuleWithPaths ⟨separateSources, [], []⟩ 0 [] with
    | error e =>
        rw [hresult] at hmade
        cases hmade
    | ok placed =>
        rw [hresult] at hmade
        exact ⟨placed, rfl, Except.ok.inj hmade⟩
  obtain ⟨⟨copy, hcopy, hsearches⟩, -⟩ := sandboxed_tests_search_copy_first ⟨"python", "/plugins"⟩
    (by decide) (by decide) hplaced
  obtain rfl := Option.some.inj (hcopy.symm.trans hdirectory)
  obtain ⟨⟨text, htext, hpieces⟩, -, hnamed, hothers⟩ := hsearches (by decide)
  refine ⟨w, p, _, text, hplaced, rfl, htext, hpieces.trans (by decide +kernel), hnamed, ?_, ?_⟩
  · exact hothers "HOME" (by decide) (by decide) (by decide)
  · exact hothers "LANG" (by decide) (by decide) (by decide)

end MutationTesting.Run
